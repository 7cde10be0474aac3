import ApertureC.UiScreen
import ApertureC.Lib.Machine

/-!
# Sessions of the user interface

A session is the user interface with the events that the server, the user and the toolkit send it,
in any order.  The server draws only inside the enabled displays of the last display configuration
it sent; a draw that panics ends the session.

* `Session.step` — one turn of the event loop of `main.rs`.
* `Session.last`, `Session.applied`, `Session.drawn` — the last configuration delivered, whether the
  user interface accepted it, and the draws since.

Principal results: `new_consistent` and `step_consistent` (the windows of a session are and stay
consistent).
-/

set_option autoImplicit false

namespace ApertureC

open Geometry

/-! ## Consistency of the handlers -/

namespace Ui

variable {ui ui' : Ui} {result : Except String Unit} {dc : DisplayConfiguration}

theorem Consistent.withWindowMode (hc : ui.Consistent) {mode : WindowMode}
    (h : mode = .multi → ui.hotplugDisabledMm = false) :
    { ui with windowMode := mode }.Consistent :=
  ⟨hc.apart, hc.mmSized, hc.singleSized, h, hc.usable⟩

theorem Consistent.setWindowMode (hc : ui.Consistent) {mode : WindowMode}
    (h : ui.setWindowMode mode = some (ui', result)) : ui'.Consistent := by
  rcases setWindowMode_cases h with ⟨rfl, -⟩ | ⟨-, hmode, rfl⟩
  · exact hc
  · exact (hc.withWindowMode hmode).requestDisplayConfig

theorem Consistent.setDisplayConfiguration (hc : ui.Consistent)
    (h : ui.setDisplayConfiguration dc = some (ui', result)) : ui'.Consistent := by
  rcases setDisplayConfiguration_cases h with
    ⟨-, rfl, -⟩ | ⟨-, -, rfl⟩ | ⟨-, -, fullscreen, serverCanMm, ddi, -, rfl⟩
  · exact hc
  · exact ⟨hc.apart, hc.mmSized, hc.singleSized, hc.multi, hc.usable⟩
  · exact ⟨hc.apart, hc.mmSized, Image.withRgba_sized _ _ _ _ _, (fun hm => nomatch hm), hc.usable⟩

theorem Consistent.disableMm (hc : ui.Consistent) (monitors : Monitors) :
    { ui.disableMm monitors with windowMode := .single true }.Consistent :=
  ⟨hc.apart, hc.mmSized, hc.singleSized, (fun hm => nomatch hm), (fun hm => nomatch hm)⟩

theorem Consistent.handleMonitorsChanged (hc : ui.Consistent) {gdk : Option (List (Rect × Rect))}
    (h : ui.handleMonitorsChanged gdk = some ui') : ui'.Consistent := by
  rcases handleMonitorsChanged_cases h with ⟨-, rfl⟩ | ⟨monitors, ⟨hmode, rfl⟩ | ⟨-, rfl⟩⟩
  · exact hc
  · exact ⟨hc.apart, hc.mmSized, hc.singleSized, fun hm => absurd hm hmode, (fun hm => nomatch hm)⟩
  · exact (hc.disableMm monitors).requestDisplayConfig

theorem new_consistent {mode : DisplayMode} {gdk : Option (List (Rect × Rect))}
    (h : Ui.new mode dc gdk = some (.ok ui)) : ui.Consistent := by
  unfold Ui.new at h
  split at h
  · cases h
  · rename_i monitors hmonitors
    split at h
    · cases h
    · rename_i initialWindowMode hnext
      simp only [Option.bind_eq_bind, Option.bind_eq_some_iff, Option.pure_def,
        Option.some.injEq] at h
      obtain ⟨ddi, hddi, ⟨ui₁, result⟩, hset, hok⟩ := h
      cases result with
      | error error => cases hok
      | ok _ =>
        cases hok
        refine Consistent.setWindowMode ?_ hset
        refine ⟨EuclidMap.fromIter_apart _, fun e he => ?_, Image.withRgba_sized _ _ _ _ _,
          fun _ => rfl, fun _ => ?_⟩
        · obtain ⟨area, -, rfl⟩ := List.mem_map.mp (EuclidMap.mem_of_mem_fromIter he)
          exact Image.withRgba_sized _ _ _ _ _
        · rw [EuclidMap.keys_fromIter, List.map_map]
          simp [Function.comp_def]

end Ui

/-! ## Sessions -/

/-- The draw lies inside an enabled display. -/
def Draw.belongsTo (d : Draw) (dc : DisplayConfiguration) : Bool :=
  dc.enabledAreas.any fun area => area.containsRect d.area

/-- The draw of a region in one colour. -/
def Draw.fill (area : Rect) (frame : Nat) (pixel : Pixel24) : Draw :=
  ⟨frame, area.origin, Grid.fromElem area.size pixel⟩

theorem Draw.fill_area (area : Rect) (frame : Nat) (pixel : Pixel24) :
    (Draw.fill area frame pixel).area = area := rfl

theorem Draw.belongsTo_iff {d : Draw} {dc : DisplayConfiguration} :
    d.belongsTo dc = true ↔ ∃ area ∈ dc.enabledAreas, area.containsRect d.area = true :=
  List.any_eq_true

inductive UiAct where
  | draw (d : Draw)
  | displayChange (dc : DisplayConfiguration)
  | setWindowMode (mode : WindowMode)
  | refresh
  | monitorsChanged (gdk : Option (List (Rect × Rect)))

structure Session where
  ui : Ui
  /-- The last display configuration delivered. -/
  last : DisplayConfiguration
  /-- It was accepted. -/
  applied : Bool
  /-- The draws since it was delivered. -/
  drawn : List Draw

namespace Session

def start (ui : Ui) (dc : DisplayConfiguration) : Session := ⟨ui, dc, false, []⟩

/-- One event; an error is only logged. -/
def step (s : Session) : UiAct → Option Session
  | .draw d =>
    if d.belongsTo s.last then
      (s.ui.draw d).map fun ui => { s with ui := ui, drawn := s.drawn ++ [d] }
    else none
  | .displayChange dc =>
    (s.ui.setDisplayConfiguration dc).map fun r => ⟨r.1, dc, r.2.isOk, []⟩
  | .setWindowMode mode => (s.ui.setWindowMode mode).map fun r => { s with ui := r.1 }
  | .refresh => some { s with ui := s.ui.requestDisplayConfig }
  | .monitorsChanged gdk => (s.ui.handleMonitorsChanged gdk).map fun ui => { s with ui := ui }

variable {s s' : Session}

/-- The windows stay consistent. -/
theorem step_consistent (s : Session) (a : UiAct) (s' : Session) (hc : s.ui.Consistent)
    (h : step s a = some s') : s'.ui.Consistent := by
  cases a with
  | draw d =>
    simp only [step, Option.ite_none_right_eq_some, Option.map_eq_some_iff] at h
    obtain ⟨-, ui, hdraw, rfl⟩ := h
    exact hc.draw hdraw
  | displayChange dc =>
    obtain ⟨r, hset, rfl⟩ := Option.map_eq_some_iff.mp h
    exact hc.setDisplayConfiguration hset
  | setWindowMode mode =>
    obtain ⟨r, hset, rfl⟩ := Option.map_eq_some_iff.mp h
    exact hc.setWindowMode hset
  | refresh =>
    cases h
    exact hc.requestDisplayConfig
  | monitorsChanged gdk =>
    obtain ⟨ui, hset, rfl⟩ := Option.map_eq_some_iff.mp h
    exact hc.handleMonitorsChanged hset

end Session

end ApertureC
