import ApertureC.UiSession

/-!
# Draws and the extent of windows

`Ui.draw` looks for a window by the origin of a draw, and `Image.draw` asserts that the whole draw
lies inside the image it is given.

* `DrawsContained` — the assertion holds for every draw inside an enabled display of the last
  configuration delivered.
* `WindowsReach` — a window that has a point in common with an enabled display extends at least as
  far to the right and down as the display.

Principal results: `draws_contained_iff` (**the two are the same in every run**) and
`multi_request_not_contained` (a user who asks for multi-monitor mode breaks both before the server
answers).
-/

set_option autoImplicit false

namespace ApertureC.Session

open Geometry Machine

variable {s : Session}

/-- The assertion `draw not contained by image` holds for every draw of the last configuration. -/
def DrawsContained (s : Session) : Prop :=
  ∀ d : Draw, d.belongsTo s.last = true → ∀ e, s.ui.windowAt d.origin = some e →
    (Rect.fromSize e.2.size).containsRect (d.relativeTo e.1.origin).area = true

/-- A window that meets an enabled display reaches its right and lower edge. -/
def WindowsReach (s : Session) : Prop :=
  ∀ area ∈ s.last.enabledAreas, ∀ e ∈ s.ui.windows, (area.intersection e.1).isSome = true →
    area.origin.x + area.size.width ≤ e.1.origin.x + e.1.size.width ∧
    area.origin.y + area.size.height ≤ e.1.origin.y + e.1.size.height

instance (s : Session) : Decidable s.WindowsReach :=
  inferInstanceAs (Decidable (∀ area ∈ s.last.enabledAreas, ∀ e ∈ s.ui.windows,
    (area.intersection e.1).isSome = true →
      area.origin.x + area.size.width ≤ e.1.origin.x + e.1.size.width ∧
      area.origin.y + area.size.height ≤ e.1.origin.y + e.1.size.height))

/-- The part of a rectangle to the right of a point and below it. -/
def restFrom (area : Rect) (p : Point) : Rect :=
  ⟨p, ⟨area.origin.x + area.size.width - p.x, area.origin.y + area.size.height - p.y⟩⟩

theorem restFrom_isEmpty {area : Rect} {p : Point} (hp : p ∈ area.toBox2D) :
    (restFrom area p).isEmpty = false := by
  rw [Rect.mem_toBox2D] at hp
  rw [Rect.isEmpty_eq_false_iff]
  simp only [restFrom]
  omega

theorem containsRect_restFrom {area : Rect} {p : Point} (hp : p ∈ area.toBox2D) :
    area.containsRect (restFrom area p) = true := by
  rw [Rect.containsRect_iff (restFrom_isEmpty hp)]
  rw [Rect.mem_toBox2D] at hp
  simp only [restFrom]
  omega

/-- What the assertion says about a draw that starts in a window. -/
theorem contained_iff {ui : Ui} (hc : ui.Consistent) {d : Draw} {e : Rect × Image}
    (hwin : ui.windowAt d.origin = some e) (hne : d.area.isEmpty = false) :
    (Rect.fromSize e.2.size).containsRect (d.relativeTo e.1.origin).area = true ↔
      d.area.origin.x + d.area.size.width ≤ e.1.origin.x + e.1.size.width ∧
      d.area.origin.y + d.area.size.height ≤ e.1.origin.y + e.1.size.height := by
  obtain ⟨he, ho⟩ := hc.windowAt_eq_some.mp hwin
  have hsize : e.2.size = e.1.size := (hc.sized he).1
  have hne' : (d.relativeTo e.1.origin).area.isEmpty = false := hne
  rw [Rect.containsRect_iff hne', hsize]
  rw [Rect.contains_iff] at ho
  simp only [Rect.fromSize, Point.zero, Draw.area, Draw.relativeTo]
  omega

/-- **For one state**: the assertion holds exactly when windows reach far enough. -/
theorem drawsContained_iff (hc : s.ui.Consistent) : s.DrawsContained ↔ s.WindowsReach := by
  constructor
  · intro h area harea e he hmeet
    obtain ⟨p, hpa, hpe⟩ := Rect.intersection_isSome_iff.mp hmeet
    have hwin : s.ui.windowAt p = some e :=
      hc.windowAt_eq_some.mpr ⟨he, decide_eq_true hpe⟩
    have hbelongs : (Draw.fill (restFrom area p) 0 default).belongsTo s.last = true :=
      Draw.belongsTo_iff.mpr ⟨area, harea, containsRect_restFrom hpa⟩
    have hreach := (contained_iff (d := Draw.fill (restFrom area p) 0 default) hc hwin
      (restFrom_isEmpty hpa)).mp (h _ hbelongs e hwin)
    rw [Rect.mem_toBox2D] at hpa
    simp only [Draw.fill_area, restFrom] at hreach
    omega
  · intro h d hd e hwin
    obtain ⟨area, harea, hin⟩ := Draw.belongsTo_iff.mp hd
    obtain ⟨he, ho⟩ := hc.windowAt_eq_some.mp hwin
    cases hne : d.area.isEmpty with
    | true =>
      have hempty : (d.relativeTo e.1.origin).area.isEmpty = true := hne
      rw [Rect.containsRect, hempty, Bool.true_or]
    | false =>
      rw [contained_iff hc hwin hne]
      rw [Rect.containsRect_iff hne] at hin
      rw [Rect.isEmpty_eq_false_iff] at hne
      have hmem : d.origin ∈ area.toBox2D := by
        rw [Rect.mem_toBox2D]
        simp only [Draw.area] at hin hne
        omega
      have hreach := h area harea e he
        (Rect.intersection_isSome_iff.mpr ⟨d.origin, hmem, of_decide_eq_true ho⟩)
      omega

/-- **In every run**: no draw of the last configuration fails the assertion exactly as long as
every window reaches the edges of the enabled displays it meets. -/
theorem draws_contained_iff {mode : DisplayMode} {dc : DisplayConfiguration}
    {gdk : Option (List (Rect × Rect))} {ui : Ui} (hnew : Ui.new mode dc gdk = some (.ok ui))
    (acts : List UiAct) :
    Always step DrawsContained (start ui dc) acts ↔ Always step WindowsReach (start ui dc) acts :=
  always_congr step_consistent (fun _ hc => drawsContained_iff hc) acts (Ui.new_consistent hnew)

/-! ## A request for multi-monitor mode -/

/-- Two monitors of one pixel each, side by side. -/
def pairMonitors : List (Rect × Rect) :=
  [(⟨⟨0, 0⟩, ⟨1, 1⟩⟩, ⟨⟨0, 0⟩, ⟨1, 1⟩⟩), (⟨⟨1, 0⟩, ⟨1, 1⟩⟩, ⟨⟨1, 0⟩, ⟨1, 1⟩⟩)]

/-- One display over both. -/
def wideConfig (id : Nat) : DisplayConfiguration :=
  ⟨id, [⟨⟨⟨⟨0, 0⟩, ⟨2, 1⟩⟩, true⟩, []⟩]⟩

theorem draws_contained_wide : ∃ ui,
    Ui.new (.windowed ⟨2, 1⟩) (wideConfig 0) (some pairMonitors) = some (.ok ui) ∧
    (Always step DrawsContained (start ui (wideConfig 0)) [.displayChange (wideConfig 1)] ↔
      Always step WindowsReach (start ui (wideConfig 0)) [.displayChange (wideConfig 1)]) := by
  obtain ⟨ui, hnew⟩ : ∃ ui,
      Ui.new (.windowed ⟨2, 1⟩) (wideConfig 0) (some pairMonitors) = some (.ok ui) := ⟨_, rfl⟩
  exact ⟨ui, hnew, draws_contained_iff hnew _⟩

/-- The server shows a display over both monitors, and the user asks for multi-monitor mode: the
next draw of that display goes to the window of the first monitor and panics. -/
theorem multi_request_not_contained : ∃ ui s,
    Ui.new (.windowed ⟨2, 1⟩) (wideConfig 0) (some pairMonitors) = some (.ok ui) ∧
    run step (start ui (wideConfig 0))
      [.displayChange (wideConfig 1), .setWindowMode .multi] = some s ∧
    (Draw.fill ⟨⟨0, 0⟩, ⟨2, 1⟩⟩ 0 default).belongsTo s.last = true ∧
    s.ui.draw (Draw.fill ⟨⟨0, 0⟩, ⟨2, 1⟩⟩ 0 default) = none ∧
    ¬ Always step DrawsContained (start ui (wideConfig 0))
      [.displayChange (wideConfig 1), .setWindowMode .multi] := by
  refine ⟨_, _, rfl, rfl, rfl, rfl, fun h => ?_⟩
  have hlast := h.last rfl (Draw.fill ⟨⟨0, 0⟩, ⟨2, 1⟩⟩ 0 default) rfl _ rfl
  exact absurd hlast (by decide)

end ApertureC.Session
