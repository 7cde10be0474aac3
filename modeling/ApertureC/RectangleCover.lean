import ApertureC.BoxSet
import ApertureC.Pixel
import Std.Data.ExtTreeMap
import Mathlib.Data.List.Pairwise
import Mathlib.Tactic.IntervalCases

/-!
# Covering the difference of two images (`aperturec-graphics/src/rectangle_cover.rs`)

* `sampledDiffImage` — one grey pixel per 64 × 64 tile: 0 when the tile is equal in both images.
* `regionBounds` — row and column bounds of every label, folded separately over the two axes,
  merged and zipped by position; both assertions are modelled (`none`).
* `diffRectangleCover` — bounding boxes of the connected components of differing tiles, scaled
  back to pixels and collected into a box set.

`imageproc::connected_components` is a parameter, `ConnectedComponents`, with what the code relies
on: the shape is kept, and label 0 is given exactly to background tiles.

Principal results: `regionBounds_spec` (no assertion fails; the labels are exactly the non-zero
ones that occur, each with its tight bounding box), `regionBounds_least` (that box is the least one
with the cells of the label), `diffRectangleCover_spec` (the boxes are
non-empty, disjoint, inside the image, and cover every pixel at which the images differ) and
`diffRectangleCover_covers` (the same for every pixel of the two images).
-/

set_option autoImplicit false

namespace ApertureC

open Geometry

/-- `imageproc::region_labelling::connected_components(_, Connectivity::Four, Luma([0]))`. -/
structure ConnectedComponents where
  label : Grid UInt8 → Grid Nat
  height_eq : ∀ img, (label img).height = img.height
  width_eq : ∀ img, (label img).width = img.width
  eq_zero_iff : ∀ (img : Grid UInt8) (y x : Nat), y < img.height → x < img.width →
    ((label img).get y x = 0 ↔ img.get y x = 0)

/-- All non-zero pixels as one component, as they are in an image of one pixel. -/
def oneComponent : ConnectedComponents where
  label img := { img with get := fun y x => if img.get y x = 0 then 0 else 1 }
  height_eq _ := rfl
  width_eq _ := rfl
  eq_zero_iff img y x _ _ := by
    simp only
    split <;> simp_all

def SAMPLE_GRID_SIZE : Nat := 64

/-- The pixels of tile `(x, y)` of a `w × h` image. -/
def tileBox (k w h x y : Nat) : Box2D :=
  ⟨⟨x * k, y * k⟩, ⟨min (x * k + k) w, min (y * k + k) h⟩⟩

/-- `usize::div_ceil`. -/
def divCeil (n k : Nat) : Nat := (n + k - 1) / k

/-- One pixel per tile.  The tile counts are kept exact: the casts to `u32` are the identity up to
`2 ^ 38 - 64` pixels a side. -/
def sampledDiffImage (k : Nat) (a b : Grid Pixel32) : Grid UInt8 where
  height := divCeil a.height k
  width := divCeil a.width k
  get y x :=
    -- both slices are inside the images (`tile_fits`), so the last arm is not reached
    match a.slice (tileBox k a.width a.height x y), b.slice (tileBox k a.width a.height x y) with
    | some a', some b' => if simdEq a' b' then 0 else 255
    | _, _ => 255

/-- Bounds of the regions along one axis. -/
abbrev AxisBounds := Std.ExtTreeMap Nat (Nat × Nat)

/-- `entry(region).and_modify(min / max).or_insert((lo, hi))`. -/
def mergeEntry (m : AxisBounds) (region lo hi : Nat) : AxisBounds :=
  m.alter region fun
    | some (curMin, curMax) => some (min curMin lo, max curMax hi)
    | none => some (lo, hi)

def mergeAxisBounds (a b : AxisBounds) : AxisBounds :=
  if a.isEmpty then b
  else if b.isEmpty then a
  else b.toList.foldl (fun a e => mergeEntry a e.1 e.2.1 e.2.2) a

/-- `identify_bounds_1d`; the lane is given as the index and label of each cell in order. -/
def identifyBounds1D (lane : List (Nat × Nat)) : AxisBounds :=
  (lane.filter fun c => c.2 != 0).foldl (fun m c => mergeEntry m c.2 c.1 (c.1 + 1)) ∅

def identifyAxisBounds (lanes : List (List (Nat × Nat))) : AxisBounds :=
  (lanes.map identifyBounds1D).foldl mergeAxisBounds ∅

/-- `axis_iter(axis::Y)`: the rows. -/
def rowLanes (g : Grid Nat) : List (List (Nat × Nat)) :=
  (List.range g.height).map fun y => (List.range g.width).map fun x => (x, g.get y x)

/-- `axis_iter(axis::X)`: the columns. -/
def columnLanes (g : Grid Nat) : List (List (Nat × Nat)) :=
  (List.range g.width).map fun x => (List.range g.height).map fun y => (y, g.get y x)

/-- One zipped entry; the assertion compares the two labels. -/
def zipBounds (e : (Nat × Nat × Nat) × (Nat × Nat × Nat)) : Option (Nat × Box2D) :=
  if e.1.1 = e.2.1 then some (e.1.1, ⟨⟨e.2.2.1, e.1.2.1⟩, ⟨e.2.2.2, e.1.2.2⟩⟩) else none

def regionBounds (labeledRegions : Grid Nat) : Option (Std.ExtTreeMap Nat Box2D) :=
  let widthBounds := identifyAxisBounds (rowLanes labeledRegions)
  let heightBounds := identifyAxisBounds (columnLanes labeledRegions)
  if heightBounds.size ≠ widthBounds.size then none
  else ((heightBounds.toList.zip widthBounds.toList).mapM zipBounds).map (Std.ExtTreeMap.ofList ·)

/-- A box of tiles as a box of pixels, clipped to the image. -/
def scaleBox (size : Size) (b : Box2D) : Box2D :=
  ⟨⟨b.min.x * SAMPLE_GRID_SIZE, b.min.y * SAMPLE_GRID_SIZE⟩,
   ⟨min (b.max.x * SAMPLE_GRID_SIZE) size.width, min (b.max.y * SAMPLE_GRID_SIZE) size.height⟩⟩

def diffRectangleCover (cc : ConnectedComponents) (a b : Grid Pixel32) : Option BoxSet :=
  if (a.height, a.width) ≠ (b.height, b.width) then none
  else
    let diffImage := sampledDiffImage SAMPLE_GRID_SIZE a b
    if diffImage.width = 1 ∨ diffImage.height = 1 then
      if diffImage.all (· == 0) then some BoxSet.default
      else some (BoxSet.withInitialBox (Box2D.fromSize a.size))
    else
      (regionBounds (cc.label diffImage)).map fun m =>
        BoxSet.fromIter (m.toList.map fun e => scaleBox a.size e.2)

/-! ## Bounds of the labels along one axis -/

/-- `m` holds the labels for which `occ` has an index, each with its tight bounds. -/
def IsBounds (occ : Nat → Nat → Prop) (m : AxisBounds) : Prop :=
  ∀ k, (∀ lo hi, m[k]? = some (lo, hi) →
      occ k lo ∧ (∃ j, occ k j ∧ hi = j + 1) ∧ ∀ i, occ k i → lo ≤ i ∧ i < hi) ∧
    (m[k]? = none → ∀ i, ¬ occ k i)

theorem IsBounds.congr {occ occ' : Nat → Nat → Prop} {m : AxisBounds} (h : IsBounds occ m)
    (he : ∀ k i, occ k i ↔ occ' k i) : IsBounds occ' m := by
  have : occ = occ' := by funext k i; exact propext (he k i)
  rw [← this]; exact h

theorem isBounds_empty : IsBounds (fun _ _ => False) ∅ := by
  intro k
  simp

/-- Merging one entry that is tight for the indices `P` of label `k`. -/
theorem IsBounds.mergeEntry {occ : Nat → Nat → Prop} {m : AxisBounds} (h : IsBounds occ m)
    {k lo hi : Nat} {P : Nat → Prop} (hlo : P lo) (hhi : ∃ j, P j ∧ hi = j + 1)
    (hP : ∀ i, P i → lo ≤ i ∧ i < hi) :
    IsBounds (fun k' i => occ k' i ∨ (k' = k ∧ P i)) (mergeEntry m k lo hi) := by
  intro k'
  rw [ApertureC.mergeEntry, Std.ExtTreeMap.getElem?_alter]
  by_cases hk : k = k'
  · subst hk
    rw [if_pos (Std.compare_eq_iff_eq.mpr rfl)]
    obtain ⟨hs, hn⟩ := h k
    cases hm : m[k]? with
    | none =>
      refine ⟨?_, fun h => by simp at h⟩
      intro lo' hi' heq
      simp only [Option.some.injEq, Prod.mk.injEq] at heq
      obtain ⟨rfl, rfl⟩ := heq
      obtain ⟨j, hj, hji⟩ := hhi
      refine ⟨Or.inr ⟨rfl, hlo⟩, ⟨j, Or.inr ⟨rfl, hj⟩, hji⟩, ?_⟩
      rintro i (hi' | ⟨-, hi'⟩)
      · exact absurd hi' (hn hm i)
      · exact hP i hi'
    | some v =>
      obtain ⟨a, b⟩ := v
      obtain ⟨ha, ⟨j, hj, hjb⟩, hall⟩ := hs a b hm
      obtain ⟨j', hj', hjh⟩ := hhi
      refine ⟨?_, fun h => by simp at h⟩
      intro lo' hi' heq
      simp only [Option.some.injEq, Prod.mk.injEq] at heq
      obtain ⟨rfl, rfl⟩ := heq
      refine ⟨?_, ?_, ?_⟩
      · rcases Nat.le_total a lo with hle | hle
        · rw [Nat.min_eq_left hle]; exact Or.inl ha
        · rw [Nat.min_eq_right hle]; exact Or.inr ⟨rfl, hlo⟩
      · rcases Nat.le_total b hi with hle | hle
        · rw [Nat.max_eq_right hle]; exact ⟨j', Or.inr ⟨rfl, hj'⟩, hjh⟩
        · rw [Nat.max_eq_left hle]; exact ⟨j, Or.inl hj, hjb⟩
      · rintro i (hi' | ⟨-, hi'⟩)
        · have := hall i hi'; omega
        · have := hP i hi'; omega
  · have hne : compare k k' ≠ .eq := fun h => hk (Std.compare_eq_iff_eq.mp h)
    rw [if_neg hne]
    obtain ⟨hs, hn⟩ := h k'
    refine ⟨fun lo' hi' heq => ?_, fun heq i => ?_⟩
    · obtain ⟨h₁, ⟨j, h₂, h₃⟩, h₄⟩ := hs lo' hi' heq
      refine ⟨Or.inl h₁, ⟨j, Or.inl h₂, h₃⟩, ?_⟩
      rintro i (hi' | ⟨rfl, -⟩)
      · exact h₄ i hi'
      · exact absurd rfl hk
    · rintro (hi' | ⟨rfl, -⟩)
      · exact hn heq i hi'
      · exact absurd rfl hk

theorem identifyBounds1D_spec (lane : List (Nat × Nat)) :
    IsBounds (fun k i => k ≠ 0 ∧ (i, k) ∈ lane) (identifyBounds1D lane) := by
  suffices ∀ (cs : List (Nat × Nat)) (occ : Nat → Nat → Prop) (m : AxisBounds), IsBounds occ m →
      IsBounds (fun k i => occ k i ∨ (i, k) ∈ cs)
        (cs.foldl (fun m c => mergeEntry m c.2 c.1 (c.1 + 1)) m) by
    refine (this _ _ _ isBounds_empty).congr fun k i => ?_
    simp [and_comm]
  intro cs
  induction cs with
  | nil => intro occ m h; exact h.congr fun k i => by simp
  | cons c cs ih =>
    intro occ m h
    have hc : IsBounds (fun k i => occ k i ∨ (k = c.2 ∧ i = c.1)) (mergeEntry m c.2 c.1 (c.1 + 1)) :=
      h.mergeEntry rfl ⟨c.1, rfl, rfl⟩ (by rintro i rfl; omega)
    refine (ih _ _ hc).congr fun k i => ?_
    obtain ⟨i', k'⟩ := c
    simp only [List.mem_cons, Prod.mk.injEq, or_assoc]
    tauto

theorem mergeAxisBounds_spec {occ occ' : Nat → Nat → Prop} {a b : AxisBounds} (ha : IsBounds occ a)
    (hb : IsBounds occ' b) : IsBounds (fun k i => occ k i ∨ occ' k i) (mergeAxisBounds a b) := by
  have hempty : ∀ {o : Nat → Nat → Prop} {m : AxisBounds}, IsBounds o m → m.isEmpty = true →
      ∀ k i, ¬ o k i := by
    intro o m h he k i
    have : m = ∅ := by simpa using he
    exact (h k).2 (by simp [this]) i
  unfold mergeAxisBounds
  split
  · rename_i h
    exact hb.congr fun k i => by simp [hempty ha h k i]
  · split
    · rename_i h
      exact ha.congr fun k i => by simp [hempty hb h k i]
    · -- every entry of `b` is tight for its own label
      suffices ∀ (es : List (Nat × Nat × Nat)) (o : Nat → Nat → Prop) (m : AxisBounds),
          (∀ e ∈ es, e ∈ b.toList) → IsBounds o m →
          IsBounds (fun k i => o k i ∨ ∃ e ∈ es, e.1 = k ∧ occ' k i)
            (es.foldl (fun a e => mergeEntry a e.1 e.2.1 e.2.2) m) by
        refine (this b.toList occ a (fun _ h => h) ha).congr fun k i => ?_
        constructor
        · rintro (h | ⟨_, _, _, h⟩)
          · exact Or.inl h
          · exact Or.inr h
        · rintro (h | h)
          · exact Or.inl h
          · cases hk : b[k]? with
            | none => exact absurd h ((hb k).2 hk i)
            | some v =>
              exact Or.inr ⟨(k, v), Std.ExtTreeMap.mem_toList_iff_getElem?_eq_some.mpr hk, rfl, h⟩
      intro es
      induction es with
      | nil => intro o m _ h; exact h.congr fun k i => by simp
      | cons e es ih =>
        intro o m hes h
        obtain ⟨k, lo, hi⟩ := e
        have hget := Std.ExtTreeMap.mem_toList_iff_getElem?_eq_some.mp (hes _ List.mem_cons_self)
        obtain ⟨h₁, h₂, h₃⟩ := (hb k).1 lo hi hget
        have hm := h.mergeEntry (k := k) (P := occ' k) h₁ h₂ h₃
        refine (ih _ _ (fun e he => hes e (List.mem_cons_of_mem _ he)) hm).congr fun k' i => ?_
        simp only [List.mem_cons, exists_eq_or_imp, or_assoc]
        constructor
        · rintro (h | ⟨rfl, h⟩ | h)
          · exact Or.inl h
          · exact Or.inr (Or.inl ⟨rfl, h⟩)
          · exact Or.inr (Or.inr h)
        · rintro (h | ⟨rfl, h⟩ | h)
          · exact Or.inl h
          · exact Or.inr (Or.inl ⟨rfl, h⟩)
          · exact Or.inr (Or.inr h)

theorem identifyAxisBounds_spec (lanes : List (List (Nat × Nat))) :
    IsBounds (fun k i => k ≠ 0 ∧ ∃ lane ∈ lanes, (i, k) ∈ lane) (identifyAxisBounds lanes) := by
  suffices ∀ (ls : List (List (Nat × Nat))) (occ : Nat → Nat → Prop) (m : AxisBounds),
      IsBounds occ m → IsBounds (fun k i => occ k i ∨ (k ≠ 0 ∧ ∃ lane ∈ ls, (i, k) ∈ lane))
        ((ls.map identifyBounds1D).foldl mergeAxisBounds m) by
    exact (this lanes _ _ isBounds_empty).congr fun k i => by simp
  intro ls
  induction ls with
  | nil => intro occ m h; exact h.congr fun k i => by simp
  | cons l ls ih =>
    intro occ m h
    refine (ih _ _ (mergeAxisBounds_spec h (identifyBounds1D_spec l))).congr fun k i => ?_
    simp only [List.mem_cons, exists_eq_or_imp, or_assoc]
    tauto

/-! ## Boxes of the labels -/

/-- The two axes see the same labels. -/
theorem keys_eq_of_isBounds {occ occ' : Nat → Nat → Prop} {a b : AxisBounds} (ha : IsBounds occ a)
    (hb : IsBounds occ' b) (h : ∀ k, (∃ i, occ k i) ↔ ∃ i, occ' k i) : a.keys = b.keys := by
  have hmem : ∀ {o : Nat → Nat → Prop} {m : AxisBounds}, IsBounds o m →
      ∀ k, k ∈ m ↔ ∃ i, o k i := by
    intro o m hm k
    rw [Std.ExtTreeMap.mem_iff_isSome_getElem?]
    cases hk : m[k]? with
    | none => simpa using (hm k).2 hk
    | some v => simpa using ⟨v.1, ((hm k).1 v.1 v.2 hk).1⟩
  have hunit : a.map (fun _ _ => ()) = b.map (fun _ _ => ()) := by
    apply Std.ExtTreeMap.ext_mem_unit
    intro k
    rw [Std.ExtTreeMap.mem_map, Std.ExtTreeMap.mem_map, hmem ha, hmem hb, h]
  rw [← Std.ExtTreeMap.keys_map (t := a) (f := fun _ _ => ()), hunit, Std.ExtTreeMap.keys_map]

/-- Zipping two entry lists with the same labels passes the assertion on every pair. -/
theorem zipBounds_spec :
    ∀ {hs ws : List (Nat × Nat × Nat)}, hs.map Prod.fst = ws.map Prod.fst →
      ∃ out, (hs.zip ws).mapM zipBounds = some out ∧ out.map Prod.fst = hs.map Prod.fst ∧
        ∀ k b, (k, b) ∈ out → (k, b.min.y, b.max.y) ∈ hs ∧ (k, b.min.x, b.max.x) ∈ ws
  | [], ws, _ => ⟨[], rfl, rfl, fun k b h => by cases h⟩
  | e :: hs, [], h => by simp at h
  | e :: hs, e' :: ws, h => by
    simp only [List.map_cons, List.cons.injEq] at h
    obtain ⟨out, ho, hk, hmem⟩ := zipBounds_spec h.2
    obtain ⟨k, top, bottom⟩ := e
    obtain ⟨k', left, right⟩ := e'
    have hkk : k = k' := h.1
    subst hkk
    refine ⟨(k, ⟨⟨left, top⟩, ⟨right, bottom⟩⟩) :: out, ?_, ?_, ?_⟩
    · rw [List.zip_cons_cons, List.mapM_cons, ho]
      simp [zipBounds]
    · simp [hk]
    · intro k'' b hb
      rcases List.mem_cons.mp hb with hb | hb
      · cases hb
        exact ⟨List.mem_cons_self, List.mem_cons_self⟩
      · obtain ⟨h₁, h₂⟩ := hmem k'' b hb
        exact ⟨List.mem_cons_of_mem _ h₁, List.mem_cons_of_mem _ h₂⟩

/-- `b` is the tight bounding box of the cells of `g` with label `k`. -/
def IsBoundingBox (g : Grid Nat) (k : Nat) (b : Box2D) : Prop :=
  (∀ y x, y < g.height → x < g.width → g.get y x = k → (⟨x, y⟩ : Point) ∈ b) ∧
  (∃ y x, y < g.height ∧ x < g.width ∧ g.get y x = k ∧ x = b.min.x) ∧
  (∃ y x, y < g.height ∧ x < g.width ∧ g.get y x = k ∧ y = b.min.y) ∧
  (∃ y x, y < g.height ∧ x < g.width ∧ g.get y x = k ∧ b.max.x = x + 1) ∧
  (∃ y x, y < g.height ∧ x < g.width ∧ g.get y x = k ∧ b.max.y = y + 1)

theorem mem_rowLanes {g : Grid Nat} {x k : Nat} :
    (∃ lane ∈ rowLanes g, (x, k) ∈ lane) ↔ ∃ y, y < g.height ∧ x < g.width ∧ g.get y x = k := by
  simp only [rowLanes, List.mem_map, List.mem_range]
  constructor
  · rintro ⟨_, ⟨y, hy, rfl⟩, hmem⟩
    simp only [List.mem_map, List.mem_range, Prod.mk.injEq] at hmem
    obtain ⟨x', hx, rfl, hk⟩ := hmem
    exact ⟨y, hy, hx, hk⟩
  · rintro ⟨y, hy, hx, hk⟩
    refine ⟨_, ⟨y, hy, rfl⟩, ?_⟩
    simp only [List.mem_map, List.mem_range, Prod.mk.injEq]
    exact ⟨x, hx, rfl, hk⟩

theorem mem_columnLanes {g : Grid Nat} {y k : Nat} :
    (∃ lane ∈ columnLanes g, (y, k) ∈ lane) ↔ ∃ x, x < g.width ∧ y < g.height ∧ g.get y x = k := by
  simp only [columnLanes, List.mem_map, List.mem_range]
  constructor
  · rintro ⟨_, ⟨x, hx, rfl⟩, hmem⟩
    simp only [List.mem_map, List.mem_range, Prod.mk.injEq] at hmem
    obtain ⟨y', hy, rfl, hk⟩ := hmem
    exact ⟨x, hx, hy, hk⟩
  · rintro ⟨x, hx, hy, hk⟩
    refine ⟨_, ⟨x, hx, rfl⟩, ?_⟩
    simp only [List.mem_map, List.mem_range, Prod.mk.injEq]
    exact ⟨y, hy, rfl, hk⟩

theorem rowBounds_spec (g : Grid Nat) :
    IsBounds (fun k x => k ≠ 0 ∧ ∃ y, y < g.height ∧ x < g.width ∧ g.get y x = k)
      (identifyAxisBounds (rowLanes g)) :=
  (identifyAxisBounds_spec (rowLanes g)).congr fun k x => by rw [mem_rowLanes]

theorem columnBounds_spec (g : Grid Nat) :
    IsBounds (fun k y => k ≠ 0 ∧ ∃ x, x < g.width ∧ y < g.height ∧ g.get y x = k)
      (identifyAxisBounds (columnLanes g)) :=
  (identifyAxisBounds_spec (columnLanes g)).congr fun k y => by rw [mem_columnLanes]

/-- The bounds of a label on both axes are its bounding box. -/
theorem isBoundingBox_of_bounds {g : Grid Nat} {k : Nat} {b : Box2D}
    (hy : (identifyAxisBounds (columnLanes g))[k]? = some (b.min.y, b.max.y))
    (hx : (identifyAxisBounds (rowLanes g))[k]? = some (b.min.x, b.max.x)) :
    k ≠ 0 ∧ IsBoundingBox g k b := by
  obtain ⟨⟨hk, x₀, hx₀⟩, ⟨j, ⟨-, x₁, hx₁⟩, hj⟩, hyall⟩ := (columnBounds_spec g k).1 _ _ hy
  obtain ⟨⟨-, y₀, hy₀⟩, ⟨i, ⟨-, y₁, hy₁⟩, hi⟩, hxall⟩ := (rowBounds_spec g k).1 _ _ hx
  refine ⟨hk, ?_, ⟨y₀, _, hy₀.1, hy₀.2.1, hy₀.2.2, rfl⟩, ⟨_, x₀, hx₀.2.1, hx₀.1, hx₀.2.2, rfl⟩,
    ⟨y₁, i, hy₁.1, hy₁.2.1, hy₁.2.2, hi⟩, ⟨j, x₁, hx₁.2.1, hx₁.1, hx₁.2.2, hj⟩⟩
  intro y x hyh hxw hyx
  have h₁ := hxall x ⟨hk, y, hyh, hxw, hyx⟩
  have h₂ := hyall y ⟨hk, x, hxw, hyh, hyx⟩
  rw [Box2D.mem_def]
  exact ⟨h₁, h₂⟩

theorem axisBounds_keys (g : Grid Nat) :
    (identifyAxisBounds (columnLanes g)).keys = (identifyAxisBounds (rowLanes g)).keys := by
  refine keys_eq_of_isBounds (columnBounds_spec g) (rowBounds_spec g) fun k => ?_
  constructor
  · rintro ⟨y, hk, x, hx, hy, h⟩
    exact ⟨x, hk, y, hy, hx, h⟩
  · rintro ⟨x, hk, y, hy, hx, h⟩
    exact ⟨y, hk, x, hx, hy, h⟩

/-- A label that occurs has bounds. -/
theorem mem_axisBounds_keys {g : Grid Nat} {k y x : Nat} (hk : k ≠ 0) (hy : y < g.height)
    (hx : x < g.width) (hyx : g.get y x = k) : k ∈ (identifyAxisBounds (columnLanes g)).keys := by
  rw [Std.ExtTreeMap.mem_keys, Std.ExtTreeMap.mem_iff_isSome_getElem?, Option.isSome_iff_ne_none]
  exact fun hn => (columnBounds_spec g k).2 hn y ⟨hk, x, hx, hy, hyx⟩

/-- **`region_bounds` returns the tight bounding box of every label that occurs**, and neither of
its assertions fails. -/
theorem regionBounds_spec (g : Grid Nat) :
    ∃ m, regionBounds g = some m ∧
      (∀ k, k ∈ m ↔ k ≠ 0 ∧ ∃ y x, y < g.height ∧ x < g.width ∧ g.get y x = k) ∧
      ∀ k b, m[k]? = some b → IsBoundingBox g k b := by
  have hkeys := axisBounds_keys g
  have hsize : (identifyAxisBounds (columnLanes g)).size = (identifyAxisBounds (rowLanes g)).size := by
    rw [← Std.ExtTreeMap.length_keys, ← Std.ExtTreeMap.length_keys, hkeys]
  have hfst := hkeys
  rw [← Std.ExtTreeMap.map_fst_toList_eq_keys, ← Std.ExtTreeMap.map_fst_toList_eq_keys] at hfst
  obtain ⟨out, ho, hok, hmem⟩ := zipBounds_spec hfst
  rw [Std.ExtTreeMap.map_fst_toList_eq_keys] at hok
  have hdist : out.Pairwise fun a b => ¬ compare a.1 b.1 = .eq := by
    have : (out.map Prod.fst).Pairwise fun a b => ¬ compare a b = .eq := by
      rw [hok]
      exact Std.ExtTreeMap.distinct_keys
    exact List.pairwise_map.mp this
  -- every entry of the result carries the bounds of its label on both axes
  have hentry : ∀ k b, (k, b) ∈ out → k ≠ 0 ∧ IsBoundingBox g k b := fun k b hb =>
    isBoundingBox_of_bounds (Std.ExtTreeMap.mem_toList_iff_getElem?_eq_some.mp (hmem k b hb).1)
      (Std.ExtTreeMap.mem_toList_iff_getElem?_eq_some.mp (hmem k b hb).2)
  have hofList : ∀ k, k ∈ Std.ExtTreeMap.ofList out ↔ k ∈ out.map Prod.fst := by
    intro k
    rw [Std.ExtTreeMap.mem_ofList, List.contains_iff_mem]
  refine ⟨Std.ExtTreeMap.ofList out, ?_, ?_, ?_⟩
  · simp only [regionBounds, hsize, ne_eq, not_true_eq_false, if_false, ho, Option.map_some]
  · intro k
    rw [hofList]
    constructor
    · intro h
      obtain ⟨⟨k', b⟩, hb, rfl⟩ := List.mem_map.mp h
      obtain ⟨hk, -, ⟨y, x, hy, hx, hyx, -⟩, -⟩ := hentry k' b hb
      exact ⟨hk, y, x, hy, hx, hyx⟩
    · rintro ⟨hk, y, x, hy, hx, hyx⟩
      rw [hok]
      exact mem_axisBounds_keys hk hy hx hyx
  · intro k b hb
    have hk : k ∈ out.map Prod.fst := by
      rw [← hofList, Std.ExtTreeMap.mem_iff_isSome_getElem?, hb]
      rfl
    obtain ⟨⟨k', b'⟩, hb', rfl⟩ := List.mem_map.mp hk
    have hget : (Std.ExtTreeMap.ofList out)[k']? = some b' :=
      Std.ExtTreeMap.getElem?_ofList_of_mem (Std.compare_eq_iff_eq.mpr rfl) hdist hb'
    rw [hget, Option.some.injEq] at hb
    subst hb
    exact (hentry k' b' hb').2

/-- The box holds every cell with the label. -/
def Encloses (g : Grid Nat) (k : Nat) (b : Box2D) : Prop :=
  ∀ y x, y < g.height → x < g.width → g.get y x = k → (⟨x, y⟩ : Point) ∈ b

/-- The box holds every cell with the label, and lies inside every box that does. -/
structure IsLeastBox (g : Grid Nat) (k : Nat) (b : Box2D) : Prop where
  encloses : Encloses g k b
  least : ∀ b', Encloses g k b' →
    (b'.min.x ≤ b.min.x ∧ b'.min.y ≤ b.min.y) ∧ b.max.x ≤ b'.max.x ∧ b.max.y ≤ b'.max.y

/-- A box with a cell of the label on each of its sides is the least one. -/
theorem IsBoundingBox.isLeastBox {g : Grid Nat} {k : Nat} {b : Box2D} (h : IsBoundingBox g k b) :
    IsLeastBox g k b := by
  obtain ⟨hall, ⟨y₁, x₁, hy₁, hx₁, hk₁, hleft⟩, ⟨y₂, x₂, hy₂, hx₂, hk₂, htop⟩,
    ⟨y₃, x₃, hy₃, hx₃, hk₃, hright⟩, ⟨y₄, x₄, hy₄, hx₄, hk₄, hbottom⟩⟩ := h
  refine ⟨hall, fun b' hb' => ?_⟩
  have h₁ := hb' y₁ x₁ hy₁ hx₁ hk₁
  have h₂ := hb' y₂ x₂ hy₂ hx₂ hk₂
  have h₃ := hb' y₃ x₃ hy₃ hx₃ hk₃
  have h₄ := hb' y₄ x₄ hy₄ hx₄ hk₄
  simp only [Box2D.mem_def] at h₁ h₂ h₃ h₄
  refine ⟨⟨?_, ?_⟩, ?_, ?_⟩ <;> omega

/-- **`region_bounds` returns one entry for every non-zero label that occurs, with the least box of
its cells**, and neither of its assertions fails. -/
theorem regionBounds_least (g : Grid Nat) :
    ∃ m, regionBounds g = some m ∧
      (∀ k, k ∈ m ↔ k ≠ 0 ∧ ∃ y x, y < g.height ∧ x < g.width ∧ g.get y x = k) ∧
      ∀ k b, m[k]? = some b → IsLeastBox g k b := by
  obtain ⟨m, hm, hkeys, hbox⟩ := regionBounds_spec g
  exact ⟨m, hm, hkeys, fun k b hb => (hbox k b hb).isLeastBox⟩

/-! ## The cover -/

theorem div_lt_divCeil {k n i : Nat} (hk : 0 < k) (h : i < n) : i / k < divCeil n k := by
  unfold divCeil
  rw [Nat.div_lt_iff_lt_mul hk]
  have h₁ := Nat.div_add_mod (n + k - 1) k
  have h₂ := Nat.mod_lt (n + k - 1) hk
  rw [Nat.mul_comm] at h₁
  omega

/-- Every tile lies inside the image. -/
theorem tile_fits {α : Type} {g : Grid α} {k x y : Nat} (hx : x * k ≤ g.width)
    (hy : y * k ≤ g.height) : g.Fits (tileBox k g.width g.height x y) := by
  simp only [Grid.Fits, tileBox]
  omega

theorem mul_lt_of_lt_divCeil {k n i : Nat} (hk : 0 < k) (h : i < divCeil n k) : i * k < n := by
  unfold divCeil at h
  have h₁ : (i + 1) * k ≤ n + k - 1 := by
    have := Nat.mul_le_mul_right k (show i + 1 ≤ (n + k - 1) / k from h)
    exact this.trans (Nat.div_mul_le_self _ _)
  rw [Nat.add_mul, Nat.one_mul] at h₁
  omega

/-- A tile is marked 0 exactly when the two images agree on it. -/
theorem sampledDiffImage_eq_zero {k : Nat} (hk : 0 < k) {a b : Grid Pixel32}
    (hh : a.height = b.height) (hw : a.width = b.width) {ty tx : Nat}
    (hty : ty < divCeil a.height k) (htx : tx < divCeil a.width k) :
    (sampledDiffImage k a b).get ty tx = 0 ↔
      ∀ y x, y < a.height → x < a.width → y / k = ty → x / k = tx → a.get y x = b.get y x := by
  have hya := (mul_lt_of_lt_divCeil hk hty).le
  have hxa := (mul_lt_of_lt_divCeil hk htx).le
  have hfa : a.Fits (tileBox k a.width a.height tx ty) := tile_fits hxa hya
  have hfb : b.Fits (tileBox k a.width a.height tx ty) := by
    rw [hh, hw]
    exact tile_fits (hw ▸ hxa) (hh ▸ hya)
  simp only [sampledDiffImage, Grid.slice_eq_some hfa, Grid.slice_eq_some hfb]
  -- pixel `(y, x)` of tile `(ty, tx)` is at `(y - ty * k, x - tx * k)` of the tile
  have hin : ∀ n i t, 0 < k → (t * k ≤ i ∧ i < min (t * k + k) n ↔ i < n ∧ i / k = t) := by
    intro n i t hk
    rw [Nat.div_eq_iff hk]
    omega
  split
  · rename_i heq
    have hagree := (simdEq_iff _ _).mp heq
    simp only [true_iff]
    intro y x hy hx hyt hxt
    have h₁ := (hin a.height y ty hk).mpr ⟨hy, hyt⟩
    have h₂ := (hin a.width x tx hk).mpr ⟨hx, hxt⟩
    have := hagree.2.2 (y - ty * k) (x - tx * k)
      (by simp only [tileBox, Box2D.height]; omega) (by simp only [tileBox, Box2D.width]; omega)
    simp only [tileBox] at this
    rwa [Nat.add_sub_cancel' h₁.1, Nat.add_sub_cancel' h₂.1] at this
  · rename_i hne
    simp only [show ((255 : UInt8) = 0) ↔ False by decide, false_iff]
    intro hall
    refine hne ((simdEq_iff _ _).mpr ⟨rfl, rfl, fun y x hy hx => ?_⟩)
    simp only [tileBox, Box2D.height, Box2D.width] at hy hx ⊢
    have h₁ := (hin a.height (ty * k + y) ty hk).mp (by omega)
    have h₂ := (hin a.width (tx * k + x) tx hk).mp (by omega)
    exact hall _ _ h₁.1 h₂.1 h₁.2 h₂.2

/-- A non-empty box all of whose points are pixels lies inside the image. -/
theorem fits_of_points {α : Type} {g : Grid α} {r : Box2D} (hne : r.isEmpty = false)
    (h : ∀ p, p ∈ r → p.x < g.width ∧ p.y < g.height) : g.Fits r := by
  rw [Box2D.isEmpty_eq_false_iff] at hne
  have hlast := h ⟨r.max.x - 1, r.max.y - 1⟩ (by rw [Box2D.mem_def]; simp only; omega)
  simp only [Grid.Fits]
  simp only at hlast
  omega

/-- `s` covers the difference of `a` and `b`. -/
structure CoversDiff (a b : Grid Pixel32) (s : BoxSet) : Prop where
  nonoverlapping : s.Nonoverlapping
  inside : ∀ r ∈ s.inner, r.isEmpty = false ∧ a.Fits r
  covers : ∀ y x, y < a.height → x < a.width → a.get y x ≠ b.get y x → s.Covers ⟨x, y⟩
  nil_iff : s.inner = [] ↔ a.Agree b

theorem sampleGridSize_pos : 0 < SAMPLE_GRID_SIZE := by decide

section Cover

variable {a b : Grid Pixel32} (hh : a.height = b.height) (hw : a.width = b.width)

include hh hw

/-- A differing pixel marks its tile. -/
theorem diffTile_ne_zero {y x : Nat} (hy : y < a.height) (hx : x < a.width)
    (hne : a.get y x ≠ b.get y x) :
    (sampledDiffImage SAMPLE_GRID_SIZE a b).get (y / SAMPLE_GRID_SIZE) (x / SAMPLE_GRID_SIZE) ≠
      0 := by
  intro h
  have hk := sampleGridSize_pos
  exact hne ((sampledDiffImage_eq_zero hk hh hw (div_lt_divCeil hk hy) (div_lt_divCeil hk hx)).mp h
    y x hy hx rfl rfl)

/-- The images agree exactly when no tile is marked. -/
theorem agree_iff_tiles :
    a.Agree b ↔ ∀ ty tx, ty < divCeil a.height SAMPLE_GRID_SIZE →
      tx < divCeil a.width SAMPLE_GRID_SIZE →
      (sampledDiffImage SAMPLE_GRID_SIZE a b).get ty tx = 0 := by
  have hk := sampleGridSize_pos
  constructor
  · intro h ty tx hty htx
    exact (sampledDiffImage_eq_zero hk hh hw hty htx).mpr fun y x hy hx _ _ => h.2.2 y x hy hx
  · intro h
    refine ⟨hh, hw, fun y x hy hx => ?_⟩
    by_contra hne
    exact diffTile_ne_zero hh hw hy hx hne (h _ _ (div_lt_divCeil hk hy) (div_lt_divCeil hk hx))

theorem agree_iff_all :
    a.Agree b ↔ (sampledDiffImage SAMPLE_GRID_SIZE a b).all (· == 0) = true := by
  rw [agree_iff_tiles hh hw]
  constructor
  · intro h
    refine List.all_eq_true.mpr fun v hv => ?_
    obtain ⟨ty, tx, hty, htx, rfl⟩ := Grid.mem_toVec.mp hv
    simpa using h ty tx hty htx
  · intro h ty tx hty htx
    simpa using List.all_eq_true.mp h _ (Grid.mem_toVec.mpr ⟨ty, tx, hty, htx, rfl⟩)

/-- A thin image without a differing tile. -/
theorem coversDiff_default (hall : (sampledDiffImage SAMPLE_GRID_SIZE a b).all (· == 0) = true) :
    CoversDiff a b BoxSet.default := by
  have hagree := (agree_iff_all hh hw).mpr hall
  refine ⟨List.Pairwise.nil, (fun r hr => nomatch hr), fun y x hy hx hne => ?_, ?_⟩
  · exact absurd (hagree.2.2 y x hy hx) hne
  · simp only [BoxSet.default, true_iff]
    exact hagree

/-- A thin image with one: the whole image. -/
theorem coversDiff_whole (hpw : 0 < a.width) (hph : 0 < a.height)
    (hall : ¬ (sampledDiffImage SAMPLE_GRID_SIZE a b).all (· == 0) = true) :
    CoversDiff a b (BoxSet.withInitialBox (Box2D.fromSize a.size)) := by
  have hmem : ∀ p : Point, p ∈ Box2D.fromSize a.size ↔ p.x < a.width ∧ p.y < a.height := by
    intro p
    simp [Box2D.mem_def, Box2D.fromSize, Grid.size, Point.zero]
  have hne : (Box2D.fromSize a.size).isEmpty = false :=
    Box2D.isEmpty_eq_false_of_mem ((hmem ⟨0, 0⟩).mpr ⟨hpw, hph⟩)
  refine ⟨List.pairwise_singleton _ _, fun r hr => ?_, fun y x hy hx _ => ?_, ?_⟩
  · rw [List.mem_singleton.mp hr]
    exact ⟨hne, fits_of_points hne fun p hp => (hmem p).mp hp⟩
  · exact ⟨_, List.mem_singleton.mpr rfl, (hmem _).mpr ⟨hx, hy⟩⟩
  · exact ⟨(fun h => by cases h), fun hagree => absurd ((agree_iff_all hh hw).mp hagree) hall⟩

end Cover

/-- A box of tiles of the image is scaled to a non-empty box of pixels of the image. -/
theorem scaleBox_inside {size : Size} {c : Box2D} (hx : c.min.x < c.max.x) (hy : c.min.y < c.max.y)
    (hw : c.min.x < divCeil size.width SAMPLE_GRID_SIZE)
    (hh : c.min.y < divCeil size.height SAMPLE_GRID_SIZE) :
    (scaleBox size c).isEmpty = false ∧
      ∀ p, p ∈ scaleBox size c → p.x < size.width ∧ p.y < size.height := by
  have h₁ := mul_lt_of_lt_divCeil sampleGridSize_pos hw
  have h₂ := mul_lt_of_lt_divCeil sampleGridSize_pos hh
  have h₃ := Nat.mul_lt_mul_of_pos_right hx sampleGridSize_pos
  have h₄ := Nat.mul_lt_mul_of_pos_right hy sampleGridSize_pos
  refine ⟨Box2D.isEmpty_eq_false_of_mem (p := (scaleBox size c).min) ?_, fun p hp => ?_⟩
  · rw [Box2D.mem_def]
    simp only [scaleBox]
    omega
  · rw [Box2D.mem_def] at hp
    simp only [scaleBox] at hp
    omega

/-- A pixel of the image lies in a scaled box when its tile lies in the box. -/
theorem mem_scaleBox {size : Size} {c : Box2D} {x y : Nat} (hx : x < size.width)
    (hy : y < size.height)
    (h : (⟨x / SAMPLE_GRID_SIZE, y / SAMPLE_GRID_SIZE⟩ : Point) ∈ c) :
    (⟨x, y⟩ : Point) ∈ scaleBox size c := by
  rw [Box2D.mem_def] at h ⊢
  simp only [scaleBox] at h ⊢
  have h₁ := Nat.div_mul_le_self x SAMPLE_GRID_SIZE
  have h₂ := Nat.div_mul_le_self y SAMPLE_GRID_SIZE
  have h₃ := Nat.lt_div_mul_add sampleGridSize_pos (a := x)
  have h₄ := Nat.lt_div_mul_add sampleGridSize_pos (a := y)
  have h₅ := Nat.mul_le_mul_right SAMPLE_GRID_SIZE h.1.1
  have h₆ := Nat.mul_le_mul_right SAMPLE_GRID_SIZE h.2.1
  have h₇ := Nat.mul_le_mul_right SAMPLE_GRID_SIZE (Nat.succ_le_of_lt h.1.2)
  have h₈ := Nat.mul_le_mul_right SAMPLE_GRID_SIZE (Nat.succ_le_of_lt h.2.2)
  rw [Nat.succ_mul] at h₇ h₈
  omega

/-- The bounding box of a label that occurs is a non-empty box of cells. -/
theorem IsBoundingBox.min_lt {g : Grid Nat} {k : Nat} {c : Box2D} (h : IsBoundingBox g k c) :
    c.min.x < c.max.x ∧ c.min.y < c.max.y ∧ c.min.x < g.width ∧ c.min.y < g.height := by
  obtain ⟨hin, ⟨y, x, hy, hx, hg, hx'⟩, ⟨y', x', hy', hx'', hg', hy''⟩, -, -⟩ := h
  have h₁ := hin y x hy hx hg
  rw [Box2D.mem_def] at h₁
  simp only at h₁
  exact ⟨by omega, by omega, hx' ▸ hx, hy'' ▸ hy'⟩

/-- The scaled bounding boxes of the connected components. -/
theorem coversDiff_components (cc : ConnectedComponents) {a b : Grid Pixel32}
    (hh : a.height = b.height) (hw : a.width = b.width) {m : Std.ExtTreeMap Nat Box2D}
    (hkeys : ∀ k, k ∈ m ↔ k ≠ 0 ∧ ∃ y x, y < divCeil a.height SAMPLE_GRID_SIZE ∧
      x < divCeil a.width SAMPLE_GRID_SIZE ∧
      (cc.label (sampledDiffImage SAMPLE_GRID_SIZE a b)).get y x = k)
    (hbox : ∀ k c, m[k]? = some c →
      IsBoundingBox (cc.label (sampledDiffImage SAMPLE_GRID_SIZE a b)) k c) :
    CoversDiff a b (BoxSet.fromIter (m.toList.map fun e => scaleBox a.size e.2)) := by
  have hinside : ∀ r ∈ m.toList.map (fun e => scaleBox a.size e.2), r.isEmpty = false ∧
      ∀ p, p ∈ r → p.x < a.width ∧ p.y < a.height := by
    intro r hr
    obtain ⟨⟨k, c⟩, hc, rfl⟩ := List.mem_map.mp hr
    have hmin := (hbox k c (Std.ExtTreeMap.mem_toList_iff_getElem?_eq_some.mp hc)).min_lt
    rw [cc.width_eq, cc.height_eq] at hmin
    obtain ⟨h₁, h₂, h₃, h₄⟩ := hmin
    exact scaleBox_inside h₁ h₂ h₃ h₄
  have hcovers : ∀ y x, y < a.height → x < a.width → a.get y x ≠ b.get y x →
      ∃ r ∈ m.toList.map (fun e => scaleBox a.size e.2), (⟨x, y⟩ : Point) ∈ r := by
    intro y x hy hx hne
    have hty := div_lt_divCeil sampleGridSize_pos hy
    have htx := div_lt_divCeil sampleGridSize_pos hx
    have hl : (cc.label (sampledDiffImage SAMPLE_GRID_SIZE a b)).get (y / SAMPLE_GRID_SIZE)
        (x / SAMPLE_GRID_SIZE) ≠ 0 := fun h =>
      diffTile_ne_zero hh hw hy hx hne ((cc.eq_zero_iff _ _ _ hty htx).mp h)
    have hin := (hkeys _).mpr ⟨hl, _, _, hty, htx, rfl⟩
    obtain ⟨c, hc⟩ := Option.isSome_iff_exists.mp (Std.ExtTreeMap.mem_iff_isSome_getElem?.mp hin)
    have hmem := (hbox _ c hc).1 _ _ (by rw [cc.height_eq]; exact hty)
      (by rw [cc.width_eq]; exact htx) rfl
    exact ⟨_, List.mem_map.mpr ⟨_, Std.ExtTreeMap.mem_toList_iff_getElem?_eq_some.mpr hc, rfl⟩,
      mem_scaleBox hx hy hmem⟩
  obtain ⟨hnon, hcov⟩ := BoxSet.fromIter_spec (m.toList.map fun e => scaleBox a.size e.2)
  refine ⟨hnon, fun r hr => ?_, fun y x hy hx hne => ?_, ?_, ?_⟩
  · have hne := BoxSet.fromIter_nonempty (fun b hb => (hinside b hb).1) r hr
    refine ⟨hne, fits_of_points hne fun p hp => ?_⟩
    obtain ⟨b', hb', hp'⟩ := (hcov p).mp ⟨r, hr, hp⟩
    exact (hinside b' hb').2 p hp'
  · exact (hcov _).mpr (hcovers y x hy hx hne)
  · intro hnil
    refine ⟨hh, hw, fun y x hy hx => ?_⟩
    by_contra hne
    obtain ⟨r, hr, -⟩ := (hcov _).mpr (hcovers y x hy hx hne)
    rw [hnil] at hr
    cases hr
  · -- a label of a component would be one of a marked tile
    intro hagree
    have hnone : m.toList = [] := by
      refine List.eq_nil_iff_forall_not_mem.mpr fun e he => ?_
      have hin : e.1 ∈ m := by
        rw [Std.ExtTreeMap.mem_iff_isSome_getElem?,
          Std.ExtTreeMap.mem_toList_iff_getElem?_eq_some.mp (show (e.1, e.2) ∈ m.toList from he)]
        rfl
      obtain ⟨hk0, ty, tx, hty, htx, hl⟩ := (hkeys e.1).mp hin
      have hzero := (agree_iff_tiles hh hw).mp hagree ty tx hty htx
      exact hk0 (hl ▸ (cc.eq_zero_iff _ _ _ hty htx).mpr hzero)
    rw [hnone]
    rfl

/-- **The cover of a difference**: non-empty disjoint boxes inside the image that contain every
pixel at which the two images differ, and none at all exactly when the images agree. -/
theorem diffRectangleCover_spec (cc : ConnectedComponents) {a b : Grid Pixel32}
    (hh : a.height = b.height) (hw : a.width = b.width) (hpw : 0 < a.width) (hph : 0 < a.height) :
    ∃ s, diffRectangleCover cc a b = some s ∧ CoversDiff a b s := by
  have hdims : ¬ ((a.height, a.width) ≠ (b.height, b.width)) := by simp [hh, hw]
  unfold diffRectangleCover
  rw [if_neg hdims]
  simp only
  split
  · split
    · rename_i hall
      exact ⟨_, rfl, coversDiff_default hh hw hall⟩
    · rename_i hall
      exact ⟨_, rfl, coversDiff_whole hh hw hpw hph hall⟩
  · obtain ⟨m, hm, hkeys, hbox⟩ :=
      regionBounds_spec (cc.label (sampledDiffImage SAMPLE_GRID_SIZE a b))
    rw [hm, Option.map_some]
    rw [cc.height_eq, cc.width_eq] at hkeys
    exact ⟨_, rfl, coversDiff_components cc hh hw hkeys hbox⟩

/-- **`diff_rectangle_cover` covers every difference.**  It returns, and the boxes it returns
share no point, hold only pixels of the image, hold every pixel at which the images differ, and
there are none exactly when the images are equal. -/
theorem diffRectangleCover_covers (cc : ConnectedComponents) {a b : Grid Pixel32}
    (hh : a.height = b.height) (hw : a.width = b.width) (hpw : 0 < a.width) (hph : 0 < a.height) :
    ∃ s, diffRectangleCover cc a b = some s ∧
      s.inner.Pairwise Box2D.Disjoint ∧
      (∀ r ∈ s.inner, ∀ p, p ∈ r → p.x < a.width ∧ p.y < a.height) ∧
      (∀ y x, y < a.height → x < a.width → a.get y x ≠ b.get y x →
        ∃ r ∈ s.inner, (⟨x, y⟩ : Point) ∈ r) ∧
      (s.inner = [] ↔ ∀ y x, y < a.height → x < a.width → a.get y x = b.get y x) := by
  obtain ⟨s, hs, hcover⟩ := diffRectangleCover_spec cc hh hw hpw hph
  refine ⟨s, hs, hcover.nonoverlapping, ?_, hcover.covers, ?_⟩
  · intro r hr p hp
    obtain ⟨-, hfits⟩ := hcover.inside r hr
    rw [Box2D.mem_def] at hp
    simp only [Grid.Fits] at hfits
    omega
  · rw [hcover.nil_iff]
    constructor
    · intro hagree
      exact hagree.2.2
    · intro heq
      exact ⟨hh, hw, heq⟩

/-- A white image over a black one, four ragged tiles: the last pixel is covered. -/
theorem diffRectangleCover_covers_ragged :
    ∃ s, diffRectangleCover oneComponent ⟨65, 65, fun _ _ => ⟨0, 0, 0, 255⟩⟩
        ⟨65, 65, fun _ _ => ⟨255, 255, 255, 255⟩⟩ = some s ∧
      ∃ r ∈ s.inner, (⟨64, 64⟩ : Point) ∈ r := by
  obtain ⟨s, hs, -, -, hcovers, -⟩ := diffRectangleCover_covers oneComponent
    (a := ⟨65, 65, fun _ _ => ⟨0, 0, 0, 255⟩⟩) (b := ⟨65, 65, fun _ _ => ⟨255, 255, 255, 255⟩⟩)
    rfl rfl (by decide) (by decide)
  exact ⟨s, hs, hcovers 64 64 (by decide) (by decide) (by decide)⟩

end ApertureC
