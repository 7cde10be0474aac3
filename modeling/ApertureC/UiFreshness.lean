import ApertureC.UiDrawing

/-!
# Draws after a configuration change

Frames are numbered from 0 again in every display configuration, and an image ignores a draw that
is older than what it shows.  So an image that survives a change of the configuration with frames
of the old one hides draws of the new one.

* `DrawsStored` — once a configuration is applied, its draws are stored wherever no newer draw of
  it was made.
* `DisplaysCovered` — every enabled display of the applied configuration lies inside a window.
* `NothingCarriedOver` — when a configuration continues multi-monitor mode, no frame is responsible
  for anything that the windows show.

Principal results: `draws_stored_iff` (**draws are stored in a run exactly when displays are covered
all along and nothing is carried over**) and `old_draw_hides_new` (a draw of the old configuration
between a request for multi-monitor mode and the answer).
-/

set_option autoImplicit false

namespace ApertureC.Session

open Geometry LastWriter Machine

variable {s s' : Session}

/-- Drawing succeeds, and a window shows the pixel of the draw. -/
def Stores (ui : Ui) (d : Draw) (p : Point) : Prop :=
  ∃ ui', ui.draw d = some ui' ∧ ui'.shown p = d.writeAt p

/-- A draw of the applied configuration is stored wherever no newer one was made. -/
def DrawsStored (s : Session) : Prop :=
  s.applied = true → ∀ d : Draw, d.belongsTo s.last = true → ∀ p ∈ d.area.toBox2D,
    Stores s.ui d p ∨ ∃ d' ∈ s.drawn, d.frame < d'.frame ∧ p ∈ d'.area.toBox2D

/-- The displays of the applied configuration lie inside windows. -/
def DisplaysCovered (s : Session) : Prop :=
  s.applied = true → ∀ area ∈ s.last.enabledAreas, area.isEmpty = false →
    ∃ e ∈ s.ui.windows, e.1.containsRect area = true

/-- What the screen shows inside the displays comes from draws of the applied configuration. -/
def Fresh (s : Session) : Prop :=
  s.applied = true → ∀ area ∈ s.last.enabledAreas, ∀ p ∈ area.toBox2D, ∀ r, s.ui.shown p = some r →
    r.stamp = 0 ∨ ∃ d ∈ s.drawn, p ∈ d.area.toBox2D ∧ r.stamp ≤ d.frame

/-- A configuration that keeps the images finds them without frames. -/
def NothingCarriedOver (s : Session) : UiAct → Prop
  | .displayChange dc => s.ui.ContinuesMulti dc → s.ui.Cleared
  | _ => True

/-! ## One state -/

/-- A draw inside a window is stored unless something newer is shown. -/
theorem stores_or_newer (hc : s.ui.Consistent) {e : Rect × Image} {d : Draw} {p : Point}
    (he : e ∈ s.ui.windows) (hin : e.1.containsRect d.area = true) (hp : p ∈ d.area.toBox2D) :
    Stores s.ui d p ∨ ∃ r, s.ui.shown p = some r ∧ d.frame < r.stamp := by
  have hne := Rect.isEmpty_eq_false_of_mem hp
  have ho : d.origin ∈ e.1.toBox2D :=
    Rect.mem_of_containsRect hin (Rect.origin_mem (r := d.area) hne)
  have hwin : s.ui.windowAt d.origin = some e :=
    hc.windowAt_eq_some.mpr ⟨he, decide_eq_true ho⟩
  obtain ⟨ui', hdraw⟩ := hc.draw_total hwin hne hin
  obtain ⟨r, w, hr, hw, hshown⟩ := hc.draw_shown hdraw hwin hp
  rcases write_cases r w with ⟨hwrite, -⟩ | ⟨-, hlt⟩
  · rw [hwrite] at hshown
    exact Or.inl ⟨ui', hdraw, by rw [hshown, hw]⟩
  · rw [Draw.writeAt_eq_some hp, Option.some.injEq] at hw
    rw [← hw] at hlt
    exact Or.inr ⟨r, hr, hlt⟩

/-- A draw that is stored at its origin starts in a window, and nothing newer was shown there. -/
theorem Stores.elim {ui : Ui} (hc : ui.Consistent) {d : Draw} (h : Stores ui d d.origin)
    (ho : d.origin ∈ d.area.toBox2D) :
    ∃ e ui', ui.windowAt d.origin = some e ∧ ui.draw d = some ui' ∧
      ∀ r, ui.shown d.origin = some r → r.stamp ≤ d.frame := by
  obtain ⟨ui', hdraw, hshown⟩ := h
  rw [Draw.writeAt_eq_some ho] at hshown
  cases hwin : ui.windowAt d.origin with
  | none =>
    rw [hc.draw_not_shown hdraw (Or.inl hwin), Ui.shown, hwin] at hshown
    cases hshown
  | some e =>
    obtain ⟨r, w, hr, hw, hshown'⟩ := hc.draw_shown hdraw hwin ho
    rw [Draw.writeAt_eq_some ho, Option.some.injEq] at hw
    rw [hshown', hw, Option.some.injEq] at hshown
    refine ⟨e, ui', rfl, hdraw, fun r' hr' => ?_⟩
    rw [hr, Option.some.injEq] at hr'
    rcases write_cases r w with ⟨-, hle⟩ | ⟨hwrite, hlt⟩
    · rw [← hr']
      rw [← hw] at hle
      exact hle
    · rw [hwrite] at hshown
      rw [hshown] at hlt
      exact absurd hlt (Nat.lt_irrefl _)

/-- A frame after all those of a list of draws. -/
theorem exists_later (draws : List Draw) : ∃ frame, ∀ d ∈ draws, d.frame ≤ frame := by
  induction draws with
  | nil => exact ⟨0, fun d hd => nomatch hd⟩
  | cons d draws ih =>
    obtain ⟨frame, hframe⟩ := ih
    refine ⟨max d.frame frame, fun d' hd' => ?_⟩
    rcases List.mem_cons.mp hd' with rfl | hd'
    · exact le_max_left _ _
    · exact (hframe d' hd').trans (le_max_right _ _)

/-- A draw of a whole display goes to a window around it. -/
theorem displaysCovered_of_stored (hc : s.ui.Consistent) (h : s.DrawsStored) :
    s.DisplaysCovered := by
  intro happ area harea hne
  obtain ⟨frame, hlater⟩ := exists_later s.drawn
  have ho := Rect.origin_mem hne
  have hbelongs : (Draw.fill area frame default).belongsTo s.last = true :=
    Draw.belongsTo_iff.mpr ⟨area, harea, Rect.containsRect_refl area⟩
  have hstored : Stores s.ui (Draw.fill area frame default) area.origin := by
    rcases h happ _ hbelongs _ ho with hst | ⟨d', hd', hlt, -⟩
    · exact hst
    · exact absurd hlt (Nat.not_lt.mpr (hlater d' hd'))
  obtain ⟨e, ui', hwin, hdraw, -⟩ := hstored.elim hc ho
  exact ⟨e, (hc.windowAt_eq_some.mp hwin).1, Rect.containsRect_of_forall_mem fun p hp =>
    of_decide_eq_true (hc.draw_mem hdraw hwin hp)⟩

/-- A draw of one pixel shows that nothing old is left there. -/
theorem fresh_of_stored (hc : s.ui.Consistent) (h : s.DrawsStored) : s.Fresh := by
  intro happ area harea p hp r hr
  by_cases hzero : r.stamp = 0
  · exact Or.inl hzero
  · let d := Draw.fill ⟨p, ⟨1, 1⟩⟩ (r.stamp - 1) default
    have hbelongs : d.belongsTo s.last = true := by
      refine Draw.belongsTo_iff.mpr ⟨area, harea, ?_⟩
      rw [Rect.mem_toBox2D] at hp
      rw [Draw.fill_area, Rect.containsRect_iff rfl]
      simp only
      omega
    have hmem : d.origin ∈ d.area.toBox2D := Rect.origin_mem (r := ⟨p, ⟨1, 1⟩⟩) rfl
    rcases h happ d hbelongs p hmem with hst | ⟨d', hd', hlt, hp'⟩
    · obtain ⟨e, ui', -, -, hle⟩ := Stores.elim hc hst hmem
      have hle : r.stamp ≤ r.stamp - 1 := hle r hr
      omega
    · have hlt : r.stamp - 1 < d'.frame := hlt
      exact Or.inr ⟨d', hd', hp', by omega⟩

/-- **For one state**: draws are stored exactly when displays are covered and fresh. -/
theorem drawsStored_iff (hc : s.ui.Consistent) :
    s.DrawsStored ↔ s.DisplaysCovered ∧ s.Fresh := by
  refine ⟨fun h => ⟨displaysCovered_of_stored hc h, fresh_of_stored hc h⟩, ?_⟩
  rintro ⟨hcov, hfresh⟩ happ d hd p hp
  obtain ⟨area, harea, hin⟩ := Draw.belongsTo_iff.mp hd
  have hpa := Rect.mem_of_containsRect hin hp
  obtain ⟨e, he, hea⟩ := hcov happ area harea (Rect.isEmpty_eq_false_of_mem hpa)
  rcases stores_or_newer hc he (Rect.containsRect_trans hea hin) hp with hst | ⟨r, hr, hlt⟩
  · exact Or.inl hst
  · rcases hfresh happ area harea p hpa r hr with hzero | ⟨d', hd', hp', hle⟩
    · omega
    · exact Or.inr ⟨d', hd', by omega, hp'⟩

/-! ## One step -/

/-- A cleared screen is fresh. -/
theorem fresh_of_cleared (h : s.ui.Cleared) : s.Fresh :=
  fun _ _ _ p _ r hr => Or.inl (h p r hr)

/-- A draw of the last configuration keeps the screen fresh. -/
theorem draw_fresh (hc : s.ui.Consistent) (hf : s.Fresh) {d : Draw} {ui : Ui}
    (hdraw : s.ui.draw d = some ui) :
    Fresh { s with ui := ui, drawn := s.drawn ++ [d] } := by
  intro happ area harea p hp r' hr'
  have hold : s.ui.shown p = some r' → r'.stamp = 0 ∨
      ∃ d' ∈ s.drawn ++ [d], p ∈ d'.area.toBox2D ∧ r'.stamp ≤ d'.frame := by
    intro hr
    rcases hf happ area harea p hp r' hr with hzero | ⟨d', hd', hcov⟩
    · exact Or.inl hzero
    · exact Or.inr ⟨d', List.mem_append_left _ hd', hcov⟩
  by_cases hkeep : s.ui.windowAt d.origin = none ∨ p ∉ d.area.toBox2D
  · rw [hc.draw_not_shown hdraw hkeep] at hr'
    exact hold hr'
  · rw [not_or, not_not] at hkeep
    obtain ⟨hsome, hpd⟩ := hkeep
    obtain ⟨e, hwin⟩ := Option.ne_none_iff_exists'.mp hsome
    obtain ⟨r, w, hr, hw, hshown⟩ := hc.draw_shown hdraw hwin hpd
    rw [hshown, Option.some.injEq] at hr'
    rcases write_cases r w with ⟨hwrite, -⟩ | ⟨hwrite, -⟩
    · rw [Draw.writeAt_eq_some hpd, Option.some.injEq] at hw
      rw [← hr', hwrite, ← hw]
      exact Or.inr ⟨d, by simp, hpd, le_refl _⟩
    · rw [hwrite] at hr'
      rw [hr'] at hr
      exact hold hr

/-- The windows of multi-monitor mode are the enabled displays of a configuration that
continues it. -/
theorem mem_enabledAreas_of_matches {ui : Ui} {dc : DisplayConfiguration} (hc : ui.Consistent)
    (h : ui.ContinuesMulti dc) {e : Rect × Image} (he : e ∈ ui.mmWindows.entries) :
    e.1 ∈ dc.enabledAreas := by
  obtain ⟨⟨-, hplug⟩, -, -, hmatches⟩ := h
  have hkey : e.1 ∈ ui.mmWindows.keys := List.mem_map_of_mem he
  have hset : EuclidMap.setOf dc.enabledAreas = EuclidMap.setOf ui.monitors.usableAreas :=
    of_decide_eq_true hmatches
  rw [hc.usable hplug, ← hset] at hkey
  obtain ⟨e', he', hkey'⟩ := List.mem_map.mp hkey
  obtain ⟨area, harea, rfl⟩ := List.mem_map.mp (EuclidMap.mem_of_mem_fromIter he')
  rw [← hkey']
  exact harea

/-- What a delivered configuration leaves on the screen. -/
theorem displayChange_fresh (hc : s.ui.Consistent) {dc : DisplayConfiguration}
    (h : step s (.displayChange dc) = some s') :
    s'.Fresh ↔ NothingCarriedOver s (.displayChange dc) := by
  obtain ⟨⟨ui, result⟩, hset, rfl⟩ := Option.map_eq_some_iff.mp h
  have hc' := hc.setDisplayConfiguration hset
  rcases Ui.setDisplayConfiguration_cases hset with
    ⟨hnot, rfl, error, rfl⟩ | ⟨hcont, rfl, rfl⟩ |
    ⟨hnot, rfl, fullscreen, serverCanMm, ddi, -, rfl⟩
  · exact ⟨fun _ hcont => absurd hcont hnot, fun _ happ => nomatch happ⟩
  · constructor
    · intro hf _ p r hr
      obtain ⟨e, hwin, -⟩ := Option.map_eq_some_iff.mp hr
      have hmode := hcont.2.1
      obtain ⟨he, hp⟩ := hc.windowAt_eq_some.mp hwin
      have hentry : e ∈ s.ui.mmWindows.entries := by
        rw [Ui.windows, hmode] at he
        exact he
      rcases hf rfl e.1 (mem_enabledAreas_of_matches hc hcont hentry) p (of_decide_eq_true hp) r hr
        with hzero | ⟨d, hd, -⟩
      · exact hzero
      · cases hd
    · intro hclear
      exact fresh_of_cleared (hclear hcont)
  · refine ⟨fun _ hcont => absurd hcont hnot, fun _ => fresh_of_cleared ?_⟩
    refine Ui.cleared_of_black hc' fun e he => ?_
    rw [List.mem_singleton.mp he]
    rfl

/-- **One step keeps the screen fresh exactly when it carries nothing over.** -/
theorem step_fresh (s : Session) (a : UiAct) (s' : Session) (hc : s.ui.Consistent) (hf : s.Fresh)
    (h : step s a = some s') : s'.Fresh ↔ NothingCarriedOver s a := by
  cases a with
  | displayChange dc => exact displayChange_fresh hc h
  | draw d =>
    simp only [step, Option.ite_none_right_eq_some, Option.map_eq_some_iff] at h
    obtain ⟨-, ui, hdraw, rfl⟩ := h
    exact iff_of_true (draw_fresh hc hf hdraw) trivial
  | setWindowMode mode =>
    obtain ⟨⟨ui, result⟩, hset, rfl⟩ := Option.map_eq_some_iff.mp h
    refine iff_of_true ?_ trivial
    rcases Ui.setWindowMode_cases hset with ⟨rfl, -⟩ | ⟨-, hmode, rfl⟩
    · exact hf
    · exact fresh_of_cleared (hc.withWindowMode hmode).requestDisplayConfig_cleared
  | refresh =>
    cases h
    exact iff_of_true (fresh_of_cleared hc.requestDisplayConfig_cleared) trivial
  | monitorsChanged gdk =>
    obtain ⟨ui, hset, rfl⟩ := Option.map_eq_some_iff.mp h
    refine iff_of_true ?_ trivial
    rcases Ui.handleMonitorsChanged_cases hset with ⟨-, rfl⟩ | ⟨monitors, ⟨-, rfl⟩ | ⟨-, rfl⟩⟩
    · exact hf
    · exact hf
    · exact fresh_of_cleared (hc.disableMm monitors).requestDisplayConfig_cleared

/-- **Draws are stored in a run exactly when displays are covered all along and nothing is carried
over from one configuration to the next.** -/
theorem draws_stored_iff {mode : DisplayMode} {dc : DisplayConfiguration}
    {gdk : Option (List (Rect × Rect))} {ui : Ui} (hnew : Ui.new mode dc gdk = some (.ok ui))
    (acts : List UiAct) :
    Always step DrawsStored (start ui dc) acts ↔
      Always step DisplaysCovered (start ui dc) acts ∧
      Guarded step NothingCarriedOver (start ui dc) acts := by
  have hc : (start ui dc).ui.Consistent := Ui.new_consistent hnew
  have hstart : (start ui dc).Fresh := fun happ => nomatch happ
  rw [always_congr step_consistent (fun _ hc => drawsStored_iff hc) acts hc, always_and acts,
    always_iff_guarded step_consistent step_fresh hc hstart]

/-! ## A draw between a request and its answer -/

/-- One display for each of the two monitors. -/
def pairConfig (id : Nat) : DisplayConfiguration :=
  ⟨id, [⟨⟨⟨⟨0, 0⟩, ⟨1, 1⟩⟩, true⟩, []⟩, ⟨⟨⟨⟨1, 0⟩, ⟨1, 1⟩⟩, true⟩, []⟩]⟩

/-- The user asks for multi-monitor mode, the server still draws frame 5 of the old configuration,
and then the configuration for the monitors arrives. -/
def switchToMulti : List UiAct :=
  [.setWindowMode .multi, .draw (Draw.fill ⟨⟨0, 0⟩, ⟨1, 1⟩⟩ 5 ⟨255, 255, 255⟩),
    .displayChange (pairConfig 1)]

theorem draws_stored_switch : ∃ ui,
    Ui.new (.windowed ⟨2, 1⟩) (wideConfig 0) (some pairMonitors) = some (.ok ui) ∧
    (Always step DrawsStored (start ui (wideConfig 0)) switchToMulti ↔
      Always step DisplaysCovered (start ui (wideConfig 0)) switchToMulti ∧
      Guarded step NothingCarriedOver (start ui (wideConfig 0)) switchToMulti) := by
  obtain ⟨ui, hnew⟩ : ∃ ui,
      Ui.new (.windowed ⟨2, 1⟩) (wideConfig 0) (some pairMonitors) = some (.ok ui) := ⟨_, rfl⟩
  exact ⟨ui, hnew, draws_stored_iff hnew _⟩

/-- Frame 0 of the new configuration is drawn without effect: the screen keeps the pixel of the old
one, although no draw of the new configuration was made before. -/
theorem old_draw_hides_new : ∃ ui s ui',
    Ui.new (.windowed ⟨2, 1⟩) (wideConfig 0) (some pairMonitors) = some (.ok ui) ∧
    run step (start ui (wideConfig 0)) switchToMulti = some s ∧
    s.applied = true ∧ s.drawn = [] ∧
    (Draw.fill ⟨⟨0, 0⟩, ⟨1, 1⟩⟩ 0 ⟨0, 0, 0⟩).belongsTo s.last = true ∧
    s.ui.draw (Draw.fill ⟨⟨0, 0⟩, ⟨1, 1⟩⟩ 0 ⟨0, 0, 0⟩) = some ui' ∧
    (ui'.shown ⟨0, 0⟩).map Stamped.value = some (Pixel32.fromPixel24 ⟨255, 255, 255⟩) ∧
    ¬ Always step DrawsStored (start ui (wideConfig 0)) switchToMulti := by
  refine ⟨_, _, _, rfl, rfl, rfl, rfl, rfl, rfl, rfl, fun h => ?_⟩
  have hlast := h.last rfl rfl (Draw.fill ⟨⟨0, 0⟩, ⟨1, 1⟩⟩ 0 ⟨0, 0, 0⟩) rfl ⟨0, 0⟩ (by decide)
  rcases hlast with ⟨ui', hdraw, hshown⟩ | ⟨d', hd', -⟩
  · cases hdraw
    have hvalue := congrArg (Option.map Stamped.value) hshown
    exact absurd hvalue (by decide)
  · cases hd'

end ApertureC.Session
