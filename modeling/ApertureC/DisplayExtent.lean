import ApertureC.BackendTask

/-!
# Unions of rectangles and the extent of displays

What `Rect::union` and `derive_extent` come to while nothing wraps.

* `Within`, `HasPixels`, `Small` — a rectangle that ends within a size, and has pixels; a size within
  which nothing wraps.
* `InLimit` — displays that lie within a size.
* `bounding` — the union of rectangles.

Principal results: `bounding_spec` (the union has the pixels of every rectangle) and
`deriveExtent_spec` (**the extent holds every enabled display**).
-/

set_option autoImplicit false

namespace ApertureC

open Geometry

/-- A rectangle ends within a size. -/
def Within (a : Rect) (size : Size) : Prop :=
  a.origin.x + a.size.width ≤ size.width ∧ a.origin.y + a.size.height ≤ size.height

instance (a : Rect) (size : Size) : Decidable (Within a size) := inferInstanceAs (Decidable (_ ∧ _))

/-- A rectangle has pixels. -/
def HasPixels (a : Rect) : Prop := 0 < a.size.width ∧ 0 < a.size.height

instance (a : Rect) : Decidable (HasPixels a) := inferInstanceAs (Decidable (_ ∧ _))

/-- A small size: nothing within it wraps. -/
def Small (size : Size) : Prop := size.width < 65536 ∧ size.height < 65536

instance (size : Size) : Decidable (Small size) := inferInstanceAs (Decidable (_ ∧ _))

/-- The enabled displays have pixels and lie within the limit. -/
def InLimit (limit : Size) (displays : List Display) : Prop :=
  ∀ d ∈ displays, d.isEnabled = true → Within d.area limit ∧ HasPixels d.area

instance (limit : Size) (displays : List Display) : Decidable (InLimit limit displays) :=
  inferInstanceAs (Decidable (∀ d ∈ displays, d.isEnabled = true → _))

/-- The corner of a rectangle, as a size. -/
def corner (a : Rect) : Size := ⟨a.origin.x + a.size.width, a.origin.y + a.size.height⟩

/-- The union of rectangles, one after another. -/
def bounding (area : Rect) (areas : List Rect) : Rect := areas.foldl rectUnion area

theorem rectUnion_spec {a b : Rect} {size : Size} (hsmall : Small size) (ha : Within a size)
    (hb : Within b size) (hpa : HasPixels a) (hpb : HasPixels b) :
    Within (rectUnion a b) size ∧ HasPixels (rectUnion a b) ∧
      ∀ p, p ∈ a.toBox2D ∨ p ∈ b.toBox2D → p ∈ (rectUnion a b).toBox2D := by
  obtain ⟨⟨ax, ay⟩, ⟨aw, ah⟩⟩ := a
  obtain ⟨⟨bx, bY⟩, ⟨bw, bh⟩⟩ := b
  simp only [Within, HasPixels, Small, Rect.mem_toBox2D] at *
  unfold rectUnion
  rw [if_neg (by simp only; omega), if_neg (by simp only; omega)]
  simp only [boxToRect]
  refine ⟨by omega, by omega, ?_⟩
  rintro ⟨px, py⟩ hp
  simp only at hp ⊢
  omega

/-- The union has the pixels of every rectangle. -/
theorem bounding_spec {size : Size} (hsmall : Small size) {areas : List Rect} {area : Rect}
    (harea : Within area size ∧ HasPixels area)
    (hareas : ∀ a ∈ areas, Within a size ∧ HasPixels a) :
    Within (bounding area areas) size ∧ HasPixels (bounding area areas) ∧
      ∀ a ∈ area :: areas, ∀ p ∈ a.toBox2D, p ∈ (bounding area areas).toBox2D := by
  induction areas generalizing area with
  | nil =>
    refine ⟨harea.1, harea.2, fun a ha p hp => ?_⟩
    rw [List.mem_singleton.mp ha] at hp
    exact hp
  | cons b areas ih =>
    obtain ⟨hb, hpb⟩ := hareas b List.mem_cons_self
    obtain ⟨hwithin, hpixels, hmem⟩ := rectUnion_spec hsmall harea.1 hb harea.2 hpb
    obtain ⟨hwithin', hpixels', hmem'⟩ := ih ⟨hwithin, hpixels⟩
      fun a ha => hareas a (List.mem_cons_of_mem _ ha)
    have hunion := hmem' (rectUnion area b) List.mem_cons_self
    refine ⟨hwithin', hpixels', fun a ha p hp => ?_⟩
    rcases List.mem_cons.mp ha with rfl | ha
    · exact hunion p (hmem p (Or.inl hp))
    · rcases List.mem_cons.mp ha with rfl | ha
      · exact hunion p (hmem p (Or.inr hp))
      · exact hmem' a (List.mem_cons_of_mem _ ha) p hp

/-- A rectangle whose pixels are in another one ends within its corner. -/
theorem within_corner {a u : Rect} (ha : HasPixels a) (h : ∀ p ∈ a.toBox2D, p ∈ u.toBox2D) :
    Within a (corner u) := by
  obtain ⟨hw, hh⟩ := ha
  have hlast := h ⟨a.origin.x + a.size.width - 1, a.origin.y + a.size.height - 1⟩ (by
    rw [Rect.mem_toBox2D]
    simp only
    omega)
  rw [Rect.mem_toBox2D] at hlast
  simp only [Within, corner] at hlast ⊢
  omega

/-- The loop of `extent` is the union. -/
theorem foldl_extent (area : Rect) (areas : List Rect) :
    areas.foldl (fun acc b => some (acc.elim b fun a => rectUnion a b)) (some area) =
      some (bounding area areas) := by
  induction areas generalizing area with
  | nil => rfl
  | cons b areas ih => exact ih (rectUnion area b)

/-- **The extent of displays that lie within a size does so, and holds every one of them.** -/
theorem deriveExtent_spec {size : Size} (hsmall : Small size) {displays : List Display}
    (h : InLimit size displays) :
    (deriveExtent displays = none ∧ ∀ d ∈ displays, d.isEnabled = false) ∨
    ∃ extent, deriveExtent displays = some extent ∧ 0 < extent.width ∧ 0 < extent.height ∧
      extent.width ≤ size.width ∧ extent.height ≤ size.height ∧
      ∀ d ∈ displays, d.isEnabled = true → Within d.area extent := by
  unfold deriveExtent
  cases hareas : (displays.filter fun d => d.isEnabled).map Display.area with
  | nil =>
    refine Or.inl ⟨rfl, fun d hd => ?_⟩
    have hnil := List.map_eq_nil_iff.mp hareas
    rw [List.filter_eq_nil_iff] at hnil
    simpa using hnil d hd
  | cons a areas =>
    have hmem : ∀ b ∈ a :: areas, Within b size ∧ HasPixels b := by
      intro b hb
      rw [← hareas] at hb
      obtain ⟨d, hd, rfl⟩ := List.mem_map.mp hb
      obtain ⟨hd, hon⟩ := List.mem_filter.mp hd
      exact h d hd hon
    obtain ⟨hwithin, hpixels, hall⟩ := bounding_spec hsmall (hmem a List.mem_cons_self)
      fun b hb => hmem b (List.mem_cons_of_mem _ hb)
    have hfold : (a :: areas).foldl (fun acc b => some (acc.elim b fun a => rectUnion a b)) none =
        some (bounding a areas) := foldl_extent a areas
    refine Or.inr ⟨corner (bounding a areas), ?_, ?_⟩
    · simp only [hfold, Option.map_some, Option.some.injEq, corner, Size.mk.injEq]
      simp only [Within, Small] at hwithin hsmall
      omega
    · have hcorner : ∀ d ∈ displays, d.isEnabled = true →
          Within d.area (corner (bounding a areas)) := by
        intro d hd hon
        have hd' : d.area ∈ a :: areas := by
          rw [← hareas]
          exact List.mem_map_of_mem (List.mem_filter.mpr ⟨hd, hon⟩)
        exact within_corner (hmem d.area hd').2 (hall d.area hd')
      simp only [corner, Within, HasPixels] at hwithin hpixels hcorner ⊢
      exact ⟨by omega, by omega, hwithin.1, hwithin.2, hcorner⟩

end ApertureC
