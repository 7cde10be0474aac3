import ApertureC.BackendTask

/-!
# Display configurations on the wire

The server builds a configuration from the displays and the areas of its encoders
(`display_config_from_parts` in `aperturec-server/src/task/backend.rs`), the client converts it
back (`aperturec-protocol/src/convenience.rs`).

* `wireInfo` — one display and its areas as they are sent.
* `tryFrom_wireInfo` — what the client makes of one.

Principal result: `displayConfig_survives_wire` (**a partitioned configuration comes back as it
was**; in general only a disabled display with an area is refused).
-/

set_option autoImplicit false

namespace ApertureC

open Geometry MapM

/-! ## Rectangles and displays -/

@[simp] theorem rectTryFrom_fromRect (r : Rect) : rectTryFrom (.fromRect r) = .ok r := rfl

@[simp] theorem Display.tryFrom_fromDisplay (d : Display) :
    Display.tryFrom (.fromDisplay d) = .ok d := rfl

/-- A box that is not inverted is the box of its rectangle. -/
theorem toBox2D_boxToRect {b : Box2D} (hx : b.min.x ≤ b.max.x) (hy : b.min.y ≤ b.max.y)
    (hmx : b.max.x < 2 ^ 64) (hmy : b.max.y < 2 ^ 64) : (boxToRect b).toBox2D = b := by
  obtain ⟨⟨x₀, y₀⟩, ⟨x₁, y₁⟩⟩ := b
  simp only at hx hy hmx hmy
  have hw : (x₁ + 2 ^ 64 - x₀) % 2 ^ 64 = x₁ - x₀ := by omega
  have hh : (y₁ + 2 ^ 64 - y₀) % 2 ^ 64 = y₁ - y₀ := by omega
  simp only [boxToRect, Rect.toBox2D, hw, hh, Nat.add_sub_cancel' hx, Nat.add_sub_cancel' hy]

/-! ## One display -/

/-- A display and its areas, as `display_config_from_parts` sends them. -/
def wireInfo (da : Display × List Box2D) : Proto.DisplayDecoderInfo :=
  ⟨some (.fromDisplay da.1), da.2.map fun b => .fromRect (boxToRect b)⟩

/-- A display and its areas, as the client keeps them. -/
def decoderInfo (da : Display × List Box2D) : DisplayDecoderInfo := ⟨da.1, da.2.map boxToRect⟩

/-- A disabled display that has an area. -/
def Misassigned (da : Display × List Box2D) : Prop := da.1.isEnabled = false ∧ da.2 ≠ []

theorem tryFrom_wireInfo_misassigned {da : Display × List Box2D} (h : Misassigned da) :
    DisplayDecoderInfo.tryFrom (wireInfo da) = .error .decoderAssignedToDisabledDisplay := by
  obtain ⟨d, bs⟩ := da
  obtain ⟨hd, hbs⟩ := h
  simp only at hd hbs
  simp [DisplayDecoderInfo.tryFrom, wireInfo, hd, hbs]

/-- What the client makes of any other display. -/
theorem tryFrom_wireInfo {da : Display × List Box2D} (h : ¬ Misassigned da) :
    DisplayDecoderInfo.tryFrom (wireInfo da) = .ok (decoderInfo da) := by
  obtain ⟨d, bs⟩ := da
  cases hd : d.isEnabled with
  | false =>
    have hbs : bs = [] := by
      by_contra hne
      exact h ⟨hd, hne⟩
    simp [DisplayDecoderInfo.tryFrom, wireInfo, decoderInfo, hd, hbs]
  | true =>
    have hareas : (bs.map fun b => Proto.Rectangle.fromRect (boxToRect b)).mapM rectTryFrom =
        .ok (bs.map boxToRect) := by
      rw [List.mapM_map]
      apply mapM_eq_pure_map
      intro b _
      rfl
    simp [DisplayDecoderInfo.tryFrom, wireInfo, decoderInfo, hd, hareas, Except.map]

/-! ## Whole configurations -/

/-- The configuration that is sent, for as many areas as displays. -/
theorem displayConfigFromParts_eq (id : Nat) {displays : List Display} {areas : List (List Box2D)}
    (h : displays.length = areas.length) :
    displayConfigFromParts id displays areas = .ok ⟨id, (displays.zip areas).map wireInfo⟩ := by
  rw [displayConfigFromParts, if_neg (not_not.mpr h)]
  rfl

/-- What the client makes of it. -/
theorem tryFrom_wire (id : Nat) (das : List (Display × List Box2D)) :
    ((∃ da ∈ das, Misassigned da) ∧
      DisplayConfiguration.tryFrom ⟨id, das.map wireInfo⟩ =
        .error .decoderAssignedToDisabledDisplay) ∨
    ((∀ da ∈ das, ¬ Misassigned da) ∧
      DisplayConfiguration.tryFrom ⟨id, das.map wireInfo⟩ = .ok ⟨id, das.map decoderInfo⟩) := by
  have hmap : (das.map wireInfo).mapM DisplayDecoderInfo.tryFrom =
      das.mapM fun da => DisplayDecoderInfo.tryFrom (wireInfo da) := List.mapM_map
  rcases mapM_guarded (f := fun da => DisplayDecoderInfo.tryFrom (wireInfo da))
    (fun da h => tryFrom_wireInfo_misassigned h) (fun da h => tryFrom_wireInfo h) das with
    ⟨hbad, heq⟩ | ⟨hgood, heq⟩
  · refine Or.inl ⟨hbad, ?_⟩
    rw [DisplayConfiguration.tryFrom, hmap, heq]
    rfl
  · refine Or.inr ⟨hgood, ?_⟩
    rw [DisplayConfiguration.tryFrom, hmap, heq]
    rfl

theorem map_decoderInfo {displays : List Display} {areas : List (List Box2D)}
    (h : displays.length = areas.length) :
    ((displays.zip areas).map decoderInfo).map DisplayDecoderInfo.display = displays ∧
      ((displays.zip areas).map decoderInfo).map DisplayDecoderInfo.decoderAreas =
        areas.map fun bs => bs.map boxToRect := by
  constructor
  · rw [List.map_map]
    exact List.map_fst_zip (Nat.le_of_eq h)
  · calc ((displays.zip areas).map decoderInfo).map DisplayDecoderInfo.decoderAreas
        = ((displays.zip areas).map Prod.snd).map fun bs => bs.map boxToRect := by
          rw [List.map_map, List.map_map]
          rfl
      _ = areas.map fun bs => bs.map boxToRect := by
          rw [List.map_snd_zip (Nat.le_of_eq h.symm)]

/-- **A partitioned configuration survives the wire**: the client reads the same id, the same
displays in the same order and the areas of each as rectangles.  For any other areas, one list
for each display, the client refuses exactly a disabled display with an area. -/
theorem displayConfig_survives_wire (id : Nat) (displays : List Display) :
    (∀ maxDecoderCount areas,
      partitionDisplays displays maxDecoderCount = some (.ok areas) →
      ∃ wire dc, displayConfigFromParts id displays areas = .ok wire ∧
        DisplayConfiguration.tryFrom wire = .ok dc ∧ dc.id = id ∧
        dc.displayDecoderInfos.map DisplayDecoderInfo.display = displays ∧
        dc.displayDecoderInfos.map DisplayDecoderInfo.decoderAreas =
          areas.map fun bs => bs.map boxToRect) ∧
    ∀ areas : List (List Box2D), displays.length = areas.length →
      ∃ wire, displayConfigFromParts id displays areas = .ok wire ∧
        ((∃ e, DisplayConfiguration.tryFrom wire = .error e) ↔
          ∃ da ∈ displays.zip areas, da.1.isEnabled = false ∧ da.2 ≠ []) := by
  constructor
  · intro maxDecoderCount areas hareas
    obtain ⟨hlen, hoff⟩ := partitionDisplays_ok hareas
    obtain ⟨hdisplays, hrects⟩ := map_decoderInfo hlen
    rcases tryFrom_wire id (displays.zip areas) with ⟨⟨da, hda, hd, hne⟩, -⟩ | ⟨-, heq⟩
    · exact absurd (hoff da hda hd) hne
    · exact ⟨_, _, displayConfigFromParts_eq id hlen, heq, rfl, hdisplays, hrects⟩
  · intro areas hlen
    refine ⟨_, displayConfigFromParts_eq id hlen, ?_⟩
    rcases tryFrom_wire id (displays.zip areas) with ⟨hbad, heq⟩ | ⟨hgood, heq⟩
    · rw [heq]
      exact ⟨fun _ => hbad, fun _ => ⟨_, rfl⟩⟩
    · rw [heq]
      constructor
      · rintro ⟨e, he⟩
        cases he
      · rintro ⟨da, hda, hbad⟩
        exact absurd hbad (hgood da hda)

/-- Two displays, the second one off, and two decoders. -/
theorem displayConfig_survives_wire_pair :
    ∃ wire dc, displayConfigFromParts 7 [⟨⟨⟨0, 0⟩, ⟨20, 10⟩⟩, true⟩, ⟨⟨⟨20, 0⟩, ⟨20, 10⟩⟩, false⟩]
        [[⟨⟨0, 0⟩, ⟨10, 10⟩⟩, ⟨⟨10, 0⟩, ⟨20, 10⟩⟩], []] = .ok wire ∧
      DisplayConfiguration.tryFrom wire = .ok dc ∧ dc.id = 7 ∧
      dc.displayDecoderInfos.map DisplayDecoderInfo.decoderAreas =
        [[⟨⟨0, 0⟩, ⟨10, 10⟩⟩, ⟨⟨10, 0⟩, ⟨10, 10⟩⟩], []] := by
  obtain ⟨wire, dc, hwire, hdc, hid, -, hareas⟩ := (displayConfig_survives_wire 7
    [⟨⟨⟨0, 0⟩, ⟨20, 10⟩⟩, true⟩, ⟨⟨⟨20, 0⟩, ⟨20, 10⟩⟩, false⟩]).1 2
    [[⟨⟨0, 0⟩, ⟨10, 10⟩⟩, ⟨⟨10, 0⟩, ⟨20, 10⟩⟩], []] (by decide)
  exact ⟨wire, dc, hwire, hdc, hid, hareas⟩

end ApertureC
