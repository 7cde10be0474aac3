import ApertureC.ClientUi

/-!
# What the windows show

The windows of the current mode make up a screen: a partial map from points to registers, each with
the pixel it shows and the frame that is responsible for it.

* `Ui.windows` — the windows of the current mode and their areas.
* `Ui.shown` — the register at a point, if there is a window.
* `Ui.Consistent` — windows do not intersect, images have the sizes of their windows, and the
  windows of multi-monitor mode are the usable areas of the monitors until these change.

Principal results: `draw_shown` (**a draw writes the registers it covers and no other**) and
`draw_total` (a draw inside a window does not panic).
-/

set_option autoImplicit false

namespace ApertureC

open Geometry LastWriter

/-! ## Draws relative to a window -/

/-- The place of a draw in a window. -/
def Draw.relativeTo (d : Draw) (o : Point) : Draw :=
  { d with origin := ⟨d.origin.x - o.x, d.origin.y - o.y⟩ }

/-- The window and the screen agree on what a draw writes. -/
theorem Draw.writeAt_relativeTo {d : Draw} {area : Rect} {p : Point}
    (ho : area.contains d.origin = true) (hp : area.contains p = true) :
    (d.relativeTo area.origin).writeAt ⟨p.x - area.origin.x, p.y - area.origin.y⟩ =
      d.writeAt p := by
  rw [Rect.contains_iff] at ho hp
  have hx : p.x - area.origin.x - (d.origin.x - area.origin.x) = p.x - d.origin.x := by omega
  have hy : p.y - area.origin.y - (d.origin.y - area.origin.y) = p.y - d.origin.y := by omega
  have hmem : (⟨p.x - area.origin.x, p.y - area.origin.y⟩ : Point) ∈
      (d.relativeTo area.origin).area.toBox2D ↔ p ∈ d.area.toBox2D := by
    simp only [Rect.mem_toBox2D, Draw.area, Draw.relativeTo]
    omega
  simp only [Draw.writeAt, hmem]
  simp only [Draw.relativeTo, hx, hy]

namespace Ui

/-- The windows of the current mode. -/
def windows (ui : Ui) : List (Rect × Image) :=
  match ui.windowMode with
  | .single _ => [(Rect.fromSize ui.singleWindow.size, ui.singleWindow)]
  | .multi => ui.mmWindows.entries

/-- The register at a point of a window. -/
def registerAt (e : Rect × Image) (p : Point) : Stamped Nat Pixel32 :=
  e.2.pixelAt ⟨p.x - e.1.origin.x, p.y - e.1.origin.y⟩

/-- The register that the screen shows at a point. -/
def shown (ui : Ui) (p : Point) : Option (Stamped Nat Pixel32) :=
  (ui.windowAt p).map fun e => registerAt e p

structure Consistent (ui : Ui) : Prop where
  apart : ui.mmWindows.Apart
  mmSized : ∀ e ∈ ui.mmWindows.entries, e.2.Sized e.1.size
  singleSized : ui.singleWindow.Sized ui.singleWindow.size
  multi : ui.windowMode = .multi → ui.hotplugDisabledMm = false
  usable : ui.hotplugDisabledMm = false →
    ui.mmWindows.keys = (EuclidMap.setOf ui.monitors.usableAreas).keys

variable {ui ui' : Ui} {e : Rect × Image} {p : Point} {d : Draw} {image : Image}

/-! ## Windows -/

theorem Consistent.windowAt_eq_some (hc : ui.Consistent) :
    ui.windowAt p = some e ↔ e ∈ ui.windows ∧ e.1.contains p = true := by
  unfold windowAt windows
  cases ui.windowMode with
  | single fullscreen =>
    simp only [Option.ite_none_right_eq_some, Option.some.injEq, List.mem_singleton]
    constructor
    · rintro ⟨hp, rfl⟩
      exact ⟨rfl, hp⟩
    · rintro ⟨rfl, hp⟩
      exact ⟨hp, rfl⟩
  | multi => exact EuclidMap.get_eq_some hc.apart

theorem Consistent.sized (hc : ui.Consistent) (he : e ∈ ui.windows) : e.2.Sized e.1.size := by
  unfold windows at he
  cases hmode : ui.windowMode with
  | single fullscreen =>
    rw [hmode] at he
    rw [List.mem_singleton.mp he]
    exact hc.singleSized
  | multi =>
    rw [hmode] at he
    exact hc.mmSized e he

/-- In single-window mode the only window found is the single one. -/
theorem windowAt_single {fullscreen : Bool} (hmode : ui.windowMode = .single fullscreen)
    (h : ui.windowAt p = some e) :
    e = (Rect.fromSize ui.singleWindow.size, ui.singleWindow) := by
  simp only [windowAt, hmode] at h
  exact (Option.some.inj (Option.ite_none_right_eq_some.mp h).2).symm

/-- Replacing the image of a window changes that window and no other. -/
theorem Consistent.windowAt_setImageAt (hc : ui.Consistent) {o : Point}
    (h : ui.windowAt o = some e) (himage : image.Sized e.1.size) (p : Point) :
    (ui.setImageAt o image).windowAt p =
      if e.1.contains p then some (e.1, image) else ui.windowAt p := by
  cases hmode : ui.windowMode with
  | single fullscreen =>
    obtain rfl := windowAt_single hmode h
    have hsize : image.size = ui.singleWindow.size := himage.1
    simp only [windowAt, setImageAt, hmode, hsize]
    cases hp : (Rect.fromSize ui.singleWindow.size).contains p <;> simp
  | multi =>
    simp only [windowAt, setImageAt, hmode] at h ⊢
    rw [EuclidMap.get_mapValues]
    obtain ⟨he, ho⟩ := EuclidMap.mem_of_get h
    cases hp : e.1.contains p with
    | true =>
      rw [(EuclidMap.get_eq_some hc.apart).mpr ⟨he, hp⟩]
      simp [ho]
    | false =>
      cases hget : ui.mmWindows.get p with
      | none => rfl
      | some e' =>
        obtain ⟨he', hp'⟩ := EuclidMap.mem_of_get hget
        have ho' : e'.1.contains o = false := by
          rw [← Bool.not_eq_true]
          intro ho'
          rw [hc.apart.eq_of_contains he' he ho' ho, hp] at hp'
          cases hp'
        simp [ho']

theorem Consistent.setImageAt (hc : ui.Consistent) {o : Point} (h : ui.windowAt o = some e)
    (himage : image.Sized e.1.size) : (ui.setImageAt o image).Consistent := by
  cases hmode : ui.windowMode with
  | single fullscreen =>
    obtain rfl := windowAt_single hmode h
    have hsize : image.size = ui.singleWindow.size := himage.1
    simp only [Ui.setImageAt, hmode]
    exact ⟨hc.apart, hc.mmSized, by rw [hsize]; exact himage, (fun hm => nomatch hm), hc.usable⟩
  | multi =>
    simp only [windowAt, Ui.setImageAt, hmode] at h ⊢
    obtain ⟨he, ho⟩ := EuclidMap.mem_of_get h
    refine ⟨hc.apart.mapValues _, fun e' he' => ?_, hc.singleSized, fun _ => hc.multi hmode,
      fun hplug => ?_⟩
    · obtain ⟨e₀, he₀, rfl⟩ := List.mem_map.mp he'
      cases ho₀ : e₀.1.contains o with
      | true =>
        rw [hc.apart.eq_of_contains he₀ he ho₀ ho]
        simpa [ho] using himage
      | false => simpa [ho₀] using hc.mmSized e₀ he₀
    · rw [EuclidMap.keys_mapValues]
      exact hc.usable hplug

/-! ## Draws -/

/-- A draw changes the image of the window at its origin, or nothing without one. -/
theorem draw_cases (h : ui.draw d = some ui') :
    (ui.windowAt d.origin = none ∧ ui' = ui) ∨
    ∃ e image, ui.windowAt d.origin = some e ∧
      e.2.draw (d.relativeTo e.1.origin).pixels (d.relativeTo e.1.origin).origin
        (d.relativeTo e.1.origin).frame = some image ∧
      ui' = ui.setImageAt d.origin image := by
  unfold draw at h
  cases hwin : ui.windowAt d.origin with
  | none =>
    rw [hwin] at h
    cases h
    exact Or.inl ⟨rfl, rfl⟩
  | some e =>
    rw [hwin] at h
    simp only [Option.bind_eq_bind, Option.bind_eq_some_iff, Option.pure_def,
      Option.some.injEq] at h
    obtain ⟨image, hdraw, rfl⟩ := h
    exact Or.inr ⟨e, image, rfl, hdraw, rfl⟩

/-- A draw that does not panic lies inside the window at its origin. -/
theorem Consistent.draw_mem (hc : ui.Consistent) (h : ui.draw d = some ui')
    (hwin : ui.windowAt d.origin = some e) (hp : p ∈ d.area.toBox2D) :
    e.1.contains p = true := by
  rcases draw_cases h with ⟨hnone, -⟩ | ⟨e', image, hwin', hdraw, -⟩
  · rw [hwin] at hnone
    cases hnone
  · rw [hwin] at hwin'
    cases hwin'
    obtain ⟨he, ho⟩ := hc.windowAt_eq_some.mp hwin
    have hin := Image.draw_contained hdraw
    have hsize : e.2.size = e.1.size := (hc.sized he).1
    rw [hsize] at hin
    have hne : d.area.isEmpty = false := Rect.isEmpty_eq_false_of_mem hp
    have hin := (Rect.containsRect_iff (b := (d.relativeTo e.1.origin).area) hne).mp hin
    rw [Rect.contains_iff] at ho ⊢
    rw [Rect.mem_toBox2D] at hp
    simp only [Rect.fromSize, Point.zero, Draw.area, Draw.relativeTo] at hp hin
    omega

/-- **A draw writes the registers it covers.** -/
theorem Consistent.draw_shown (hc : ui.Consistent) (h : ui.draw d = some ui')
    (hwin : ui.windowAt d.origin = some e) (hp : p ∈ d.area.toBox2D) :
    ∃ r w, ui.shown p = some r ∧ d.writeAt p = some w ∧ ui'.shown p = some (write r w) := by
  have hep := hc.draw_mem h hwin hp
  rcases draw_cases h with ⟨hnone, -⟩ | ⟨e', image, hwin', hdraw, rfl⟩
  · rw [hwin] at hnone
    cases hnone
  · rw [hwin] at hwin'
    cases hwin'
    obtain ⟨he, ho⟩ := hc.windowAt_eq_some.mp hwin
    obtain ⟨hsized, hat⟩ := Image.draw_eq_some hdraw
    refine ⟨registerAt e p, _, ?_, Draw.writeAt_eq_some hp, ?_⟩
    · rw [shown, hc.windowAt_eq_some.mpr ⟨he, hep⟩]
      rfl
    · rw [shown, hc.windowAt_setImageAt hwin (hsized _ (hc.sized he)), if_pos hep, Option.map_some,
        registerAt, hat, Draw.writeAt_relativeTo ho hep, Draw.writeAt_eq_some hp]
      rfl

/-- **A draw leaves the registers it does not cover.** -/
theorem Consistent.draw_not_shown (hc : ui.Consistent) (h : ui.draw d = some ui')
    (hp : ui.windowAt d.origin = none ∨ p ∉ d.area.toBox2D) :
    ui'.shown p = ui.shown p := by
  rcases draw_cases h with ⟨-, rfl⟩ | ⟨e, image, hwin, hdraw, rfl⟩
  · rfl
  · have hp : p ∉ d.area.toBox2D := by
      rcases hp with hnone | hp
      · rw [hwin] at hnone
        cases hnone
      · exact hp
    obtain ⟨he, ho⟩ := hc.windowAt_eq_some.mp hwin
    obtain ⟨hsized, hat⟩ := Image.draw_eq_some hdraw
    rw [shown, shown, hc.windowAt_setImageAt hwin (hsized _ (hc.sized he))]
    split
    · rename_i hep
      rw [hc.windowAt_eq_some.mpr ⟨he, hep⟩, Option.map_some, Option.map_some, registerAt, hat,
        Draw.writeAt_relativeTo ho hep, Draw.writeAt_eq_none hp]
      rfl
    · rfl

theorem Consistent.draw (hc : ui.Consistent) (h : ui.draw d = some ui') : ui'.Consistent := by
  rcases draw_cases h with ⟨-, rfl⟩ | ⟨e, image, hwin, hdraw, rfl⟩
  · exact hc
  · exact hc.setImageAt hwin
      ((Image.draw_eq_some hdraw).1 _ (hc.sized (hc.windowAt_eq_some.mp hwin).1))

/-- **A draw inside a window does not panic.** -/
theorem Consistent.draw_total (hc : ui.Consistent) (hwin : ui.windowAt d.origin = some e)
    (hne : d.area.isEmpty = false) (hin : e.1.containsRect d.area = true) :
    ∃ ui', ui.draw d = some ui' := by
  obtain ⟨he, ho⟩ := hc.windowAt_eq_some.mp hwin
  have hinside : (d.relativeTo e.1.origin).Inside e.1.size := by
    rw [Rect.containsRect_iff hne] at hin
    rw [Rect.contains_iff] at ho
    simp only [Draw.area, Grid.size] at hin
    simp only [Draw.Inside, Draw.relativeTo]
    omega
  obtain ⟨image, hdraw, -⟩ := Image.draw_spec (hc.sized he) hinside
  refine ⟨ui.setImageAt d.origin image, ?_⟩
  unfold Ui.draw
  rw [hwin]
  exact congrArg (fun o => o.bind fun image => some (ui.setImageAt d.origin image)) hdraw

/-! ## Requests -/

/-- No frame is responsible for anything on the screen. -/
def Cleared (ui : Ui) : Prop := ∀ p r, ui.shown p = some r → r.stamp = 0

theorem cleared_of_black (hc : ui.Consistent) (h : ∀ e ∈ ui.windows, e.2 = Image.black e.1.size) :
    ui.Cleared := by
  intro p r hr
  obtain ⟨e, hwin, rfl⟩ := Option.map_eq_some_iff.mp hr
  rw [registerAt, h e (hc.windowAt_eq_some.mp hwin).1]
  rfl

theorem Consistent.requestDisplayConfig (hc : ui.Consistent) :
    ui.requestDisplayConfig.Consistent := by
  unfold Ui.requestDisplayConfig
  cases hmode : ui.windowMode with
  | single fullscreen =>
    exact ⟨hc.apart, hc.mmSized, Image.withRgba_sized _ _ _ _ _, (fun hm => nomatch hm), hc.usable⟩
  | multi =>
    refine ⟨hc.apart.mapValues _, fun e he => ?_, hc.singleSized, fun _ => hc.multi hmode,
      fun hplug => ?_⟩
    · obtain ⟨e₀, -, rfl⟩ := List.mem_map.mp he
      exact Image.withRgba_sized _ _ _ _ _
    · rw [EuclidMap.keys_mapValues]
      exact hc.usable hplug

theorem Consistent.requestDisplayConfig_cleared (hc : ui.Consistent) :
    ui.requestDisplayConfig.Cleared := by
  refine cleared_of_black hc.requestDisplayConfig fun e he => ?_
  unfold Ui.requestDisplayConfig windows at he
  cases hmode : ui.windowMode with
  | single fullscreen =>
    simp only [hmode, List.mem_singleton] at he
    rw [he]
    rfl
  | multi =>
    simp only [hmode, EuclidMap.mapValues, List.mem_map] at he
    obtain ⟨e₀, -, rfl⟩ := he
    rfl

end Ui

end ApertureC
