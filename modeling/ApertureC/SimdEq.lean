import ApertureC.Pixel
import Mathlib.Algebra.Ring.Int.Defs
import Mathlib.Tactic.Ring

/-!
# Comparison of views with strides (`Pixel32MapExt::simd_eq` in `aperturec-graphics/src/pixel.rs`)

Rows that are contiguous in memory are compared as they lie there, and all others index by index.

* `ArrayView2`, `ArrayView1` — the views of `ndarray`: a memory, where the first element is, the
  lengths and the strides; a stride can be negative.
* `ArrayView1.asSliceMemoryOrder` — the elements in the order of the memory, when they are
  contiguous up to direction.
* `foldWhile`, `compareRows`, `ArrayView2.simdEq` — the comparison.
* `Opposed` — the rows of one view lie forward in memory, and those of the other backward.

Principal results: `simdEq_spec` (what is compared), `simdEq_agrees_iff` (**the result is that of
the comparison index by index, exactly unless the views are opposed and the rows of the one are
those of the other when read in one direction only**) and `simdEq_toGrid` (views that lie forward
are compared as their arrays).
-/

set_option autoImplicit false

namespace ApertureC

/-! ## Views -/

/-- `ArrayView1<Pixel32>`; addresses are in elements. -/
structure ArrayView1 where
  memory : Int → Pixel32
  start : Int
  len : Nat
  stride : Int

namespace ArrayView1

/-- The elements in the order of the index. -/
def toList (r : ArrayView1) : List Pixel32 :=
  (List.range r.len).map fun i : Nat => r.memory (r.start + i * r.stride)

/-- `is_contiguous`: with one element or none, the stride does not matter. -/
def isContiguous (r : ArrayView1) : Bool :=
  decide (r.len ≤ 1) || decide (r.stride = 1) || decide (r.stride = -1)

/-- The lowest address of the elements. -/
def lowAddress (r : ArrayView1) : Int :=
  if 1 < r.len ∧ r.stride < 0 then r.start + ((r.len : Int) - 1) * r.stride else r.start

/-- `as_slice_memory_order` -/
def asSliceMemoryOrder (r : ArrayView1) : Option (List Pixel32) :=
  if r.isContiguous then some ((List.range r.len).map fun i : Nat => r.memory (r.lowAddress + i))
  else none

theorem length_toList (r : ArrayView1) : r.toList.length = r.len := by
  simp [toList]

/-- The memory order of a row is its own order, or the reverse. -/
theorem asSliceMemoryOrder_eq (r : ArrayView1) :
    r.asSliceMemoryOrder = if r.isContiguous then
      some (if r.stride = -1 then r.toList.reverse else r.toList) else none := by
  unfold asSliceMemoryOrder
  split
  · rename_i hcontiguous
    simp only [isContiguous, Bool.or_eq_true, decide_eq_true_eq] at hcontiguous
    congr 1
    split
    · rename_i hback
      apply List.ext_getElem
      · simp [toList]
      · intro i hi hi'
        simp only [List.length_map, List.length_range] at hi
        simp only [toList, List.getElem_map, List.getElem_range, List.getElem_reverse,
          List.length_map, List.length_range, lowAddress, hback]
        congr 1
        split <;> omega
    · rename_i hforth
      apply List.map_congr_left
      intro i hi
      rw [List.mem_range] at hi
      congr 1
      rcases hcontiguous with (hlen | hone) | hback
      · rw [lowAddress, if_neg (by omega), show i = 0 by omega]
        simp
      · rw [lowAddress, if_neg (by omega), hone, Int.mul_one]
      · exact absurd hback hforth
  · rfl

end ArrayView1

/-- `ArrayView2<Pixel32>` -/
structure ArrayView2 where
  memory : Int → Pixel32
  start : Int
  height : Nat
  width : Nat
  rowStride : Int
  colStride : Int

namespace ArrayView2

def dim (v : ArrayView2) : Nat × Nat := (v.height, v.width)

def row (v : ArrayView2) (y : Nat) : ArrayView1 :=
  ⟨v.memory, v.start + y * v.rowStride, v.width, v.colStride⟩

def rows (v : ArrayView2) : List ArrayView1 := (List.range v.height).map v.row

/-- The elements by their index. -/
def toGrid (v : ArrayView2) : Grid Pixel32 :=
  ⟨v.height, v.width, fun y x => v.memory (v.start + y * v.rowStride + x * v.colStride)⟩

/-- `slice(s![.., ..;-1])`: the same rows, read backwards. -/
def reversedRows (v : ArrayView2) : ArrayView2 :=
  { v with start := v.start + ((v.width : Int) - 1) * v.colStride, colStride := -v.colStride }

end ArrayView2

/-! ## The comparison -/

/-- `ndarray::FoldWhile` -/
inductive FoldWhile (β : Type*) where
  | Continue (acc : β)
  | Done (acc : β)

def FoldWhile.intoInner {β : Type*} : FoldWhile β → β
  | .Continue acc => acc
  | .Done acc => acc

/-- `Zip::fold_while` -/
def foldWhile {α β : Type*} (f : β → α → FoldWhile β) : β → List α → FoldWhile β
  | acc, [] => .Continue acc
  | acc, x :: xs =>
    match f acc x with
    | .Continue acc => foldWhile f acc xs
    | .Done acc => .Done acc

/-- The closure of `simd_eq`. -/
def compareRows (acc : Bool) (ab : ArrayView1 × ArrayView1) : FoldWhile Bool :=
  let (a, b) := ab
  if !acc then .Done false
  else
    match a.asSliceMemoryOrder, b.asSliceMemoryOrder with
    | some a, some b =>
      let (aChunks, aRem) := asSimdableChunks 8 a
      let (bChunks, bRem) := asSimdableChunks 8 b
      if (aChunks.zip bChunks).any fun c => c.1 != c.2 then .Done false
      else .Continue (aRem == bRem)
    | _, _ => .Continue (b.toList == a.toList)

/-- `simd_eq` -/
def ArrayView2.simdEq (a b : ArrayView2) : Bool :=
  if a.dim ≠ b.dim then false
  else (foldWhile compareRows true (a.rows.zip b.rows)).intoInner

/-- A fold that stops as soon as its value is `false` is a conjunction. -/
theorem foldWhile_true_iff {α : Type*} {f : Bool → α → FoldWhile Bool} {P : α → Prop}
    (hfalse : ∀ x, f false x = .Done false) {xs : List α}
    (htrue : ∀ x ∈ xs, (f true x = .Done false ∧ ¬ P x) ∨ ∃ b, f true x = .Continue b ∧
      (b = true ↔ P x)) :
    (foldWhile f true xs).intoInner = true ↔ ∀ x ∈ xs, P x := by
  induction xs with
  | nil => simp [foldWhile, FoldWhile.intoInner]
  | cons x xs ih =>
    rw [List.forall_mem_cons] at htrue
    have ih := ih htrue.2
    rw [List.forall_mem_cons, foldWhile]
    rcases htrue.1 with ⟨hdone, hno⟩ | ⟨b, hcontinue, hb⟩
    · rw [hdone]
      simp [FoldWhile.intoInner, hno]
    · rw [hcontinue]
      cases b with
      | true => simp [ih, hb.mp rfl]
      | false =>
        have hno : ¬ P x := fun h => Bool.false_ne_true (hb.mpr h)
        cases xs with
        | nil => simp [foldWhile, FoldWhile.intoInner, hno]
        | cons x' xs => simp [foldWhile, hfalse, FoldWhile.intoInner, hno]

/-- Two rows lie in memory in opposite directions. -/
def ArrayView1.Opposed (a b : ArrayView1) : Prop :=
  2 ≤ a.len ∧ (a.stride = 1 ∧ b.stride = -1 ∨ a.stride = -1 ∧ b.stride = 1)

instance (a b : ArrayView1) : Decidable (a.Opposed b) :=
  inferInstanceAs (Decidable (2 ≤ a.len ∧
    (a.stride = 1 ∧ b.stride = -1 ∨ a.stride = -1 ∧ b.stride = 1)))

/-- What the closure compares. -/
def SameRow (ab : ArrayView1 × ArrayView1) : Prop :=
  ab.1.toList = if ab.1.Opposed ab.2 then ab.2.toList.reverse else ab.2.toList

theorem reverse_of_length_le_one {α : Type*} {l : List α} (h : l.length ≤ 1) : l.reverse = l := by
  match l, h with
  | [], _ => rfl
  | [_], _ => rfl

/-- Slices in the order of the memory are equal exactly if the rows are the same. -/
theorem slices_eq_iff {a b : ArrayView1} (hlen : a.len = b.len) (ha : a.isContiguous = true)
    (hb : b.isContiguous = true) :
    (if a.stride = -1 then a.toList.reverse else a.toList) =
      (if b.stride = -1 then b.toList.reverse else b.toList) ↔ SameRow (a, b) := by
  simp only [ArrayView1.isContiguous, Bool.or_eq_true, decide_eq_true_eq] at ha hb
  have hshort : a.len ≤ 1 → a.toList.reverse = a.toList ∧ b.toList.reverse = b.toList := by
    intro h
    constructor
    · exact reverse_of_length_le_one (by rw [a.length_toList]; exact h)
    · exact reverse_of_length_le_one (by rw [b.length_toList, ← hlen]; exact h)
  unfold SameRow
  by_cases hopposed : a.Opposed b
  · rw [if_pos hopposed]
    rcases hopposed.2 with ⟨hforth, hback⟩ | ⟨hback, hforth⟩
    · rw [if_neg (by omega), if_pos hback]
    · rw [if_pos hback, if_neg (by omega)]
      exact List.reverse_eq_iff
  · rw [if_neg hopposed]
    by_cases hone : a.len ≤ 1
    · obtain ⟨hra, hrb⟩ := hshort hone
      rw [hra, hrb, ite_self, ite_self]
    · unfold ArrayView1.Opposed at hopposed
      by_cases hback : a.stride = -1
      · rw [if_pos hback, if_pos (by omega)]
        exact List.reverse_inj
      · rw [if_neg hback, if_neg (by omega)]

theorem compareRows_spec {a b : ArrayView1} (hlen : a.len = b.len) :
    (compareRows true (a, b) = .Done false ∧ ¬ SameRow (a, b)) ∨
      ∃ c, compareRows true (a, b) = .Continue c ∧ (c = true ↔ SameRow (a, b)) := by
  unfold compareRows
  simp only [Bool.not_true, Bool.false_eq_true, if_false, ArrayView1.asSliceMemoryOrder_eq]
  by_cases hboth : a.isContiguous = true ∧ b.isContiguous = true
  · rw [if_pos hboth.1, if_pos hboth.2, ← slices_eq_iff hlen hboth.1 hboth.2]
    have hlength : (if a.stride = -1 then a.toList.reverse else a.toList).length =
        (if b.stride = -1 then b.toList.reverse else b.toList).length := by
      split <;> split <;> simp [ArrayView1.length_toList, hlen]
    generalize (if a.stride = -1 then a.toList.reverse else a.toList) = sa at hlength
    generalize (if b.stride = -1 then b.toList.reverse else b.toList) = sb at hlength
    rw [← simdableChunks_eq_iff hlength]
    simp only
    split
    · rename_i hchunk
      exact Or.inl ⟨rfl, fun h => Bool.false_ne_true (h.1.symm.trans hchunk)⟩
    · rename_i hchunk
      rw [Bool.not_eq_true] at hchunk
      exact Or.inr ⟨_, rfl, by simp [hchunk]⟩
  · -- the rows are compared by index, and are not opposed
    have hopposed : ¬ a.Opposed b := by
      simp only [ArrayView1.isContiguous, Bool.or_eq_true, decide_eq_true_eq] at hboth
      unfold ArrayView1.Opposed
      omega
    refine Or.inr ⟨b.toList == a.toList, ?_, ?_⟩
    · split
      · rename_i hsa hsb
        split at hsa
        · split at hsb
          · rename_i ha hb
            exact absurd ⟨ha, hb⟩ hboth
          · cases hsb
        · cases hsa
      · rfl
    · rw [SameRow, if_neg hopposed, beq_iff_eq]
      exact eq_comm

namespace ArrayView2

/-- The rows of one view lie forward in memory and those of the other backward. -/
def Opposed (a b : ArrayView2) : Prop :=
  2 ≤ a.width ∧ (a.colStride = 1 ∧ b.colStride = -1 ∨ a.colStride = -1 ∧ b.colStride = 1)

instance (a b : ArrayView2) : Decidable (a.Opposed b) :=
  inferInstanceAs (Decidable (2 ≤ a.width ∧
    (a.colStride = 1 ∧ b.colStride = -1 ∨ a.colStride = -1 ∧ b.colStride = 1)))

theorem toList_row (v : ArrayView2) (y : Nat) :
    (v.row y).toList = (List.range v.width).map (v.toGrid.get y) := rfl

theorem toList_row_reversedRows (v : ArrayView2) (y : Nat) :
    (v.reversedRows.row y).toList = (v.row y).toList.reverse := by
  apply List.ext_getElem
  · simp [ArrayView1.toList, row, reversedRows]
  · intro x hx hx'
    simp only [ArrayView1.toList, row, reversedRows, List.length_map, List.length_range] at hx
    simp only [ArrayView1.toList, row, reversedRows, List.getElem_map, List.getElem_range,
      List.getElem_reverse, List.length_map, List.length_range]
    congr 1
    rw [show ((v.width - 1 - x : Nat) : Int) = (v.width : Int) - 1 - x by omega]
    ring

/-- Arrays agree if they have one shape and their rows are equal. -/
theorem agree_iff (a b : ArrayView2) : a.toGrid.Agree b.toGrid ↔
    a.dim = b.dim ∧ ∀ y < a.height, (a.row y).toList = (b.row y).toList := by
  simp only [toList_row, dim, Prod.mk.injEq, and_assoc]
  constructor
  · rintro ⟨hh, hw, hget⟩
    refine ⟨hh, hw, fun y hy => ?_⟩
    rw [show b.width = a.width from hw.symm, List.map_inj_left]
    exact fun x hx => hget y x hy (List.mem_range.mp hx)
  · rintro ⟨hh, hw, hrows⟩
    refine ⟨hh, hw, fun y x hy hx => ?_⟩
    have hrow := hrows y hy
    rw [← hw, List.map_inj_left] at hrow
    exact hrow x (List.mem_range.mpr hx)

/-- **What `simd_eq` compares**: the rows of opposed views in opposite directions, and all others
index by index. -/
theorem simdEq_spec (a b : ArrayView2) : a.simdEq b = true ↔
    a.toGrid.Agree (if a.Opposed b then b.reversedRows.toGrid else b.toGrid) := by
  have hrows : a.simdEq b = true ↔
      a.dim = b.dim ∧ ∀ y < a.height, SameRow (a.row y, b.row y) := by
    unfold simdEq
    split
    · rename_i hdim
      simp [hdim]
    · rename_i hdim
      rw [not_not] at hdim
      have hh : a.height = b.height := congrArg Prod.fst hdim
      have hw : a.width = b.width := congrArg Prod.snd hdim
      have hzip : a.rows.zip b.rows = (List.range a.height).map fun y => (a.row y, b.row y) := by
        rw [rows, rows, ← hh, List.zip_map']
      rw [hzip, foldWhile_true_iff (P := SameRow) (fun _ => rfl), List.forall_mem_map]
      · simp only [List.mem_range, hdim, true_and]
      · intro x hx
        obtain ⟨y, -, rfl⟩ := List.mem_map.mp hx
        exact compareRows_spec hw
  rw [hrows]
  by_cases hopposed : a.Opposed b
  · rw [if_pos hopposed, agree_iff]
    simp only [toList_row_reversedRows]
    have hrow : ∀ y, SameRow (a.row y, b.row y) ↔ (a.row y).toList = (b.row y).toList.reverse := by
      intro y
      rw [SameRow, if_pos (show (a.row y).Opposed (b.row y) from hopposed)]
    simp only [hrow]
    rfl
  · rw [if_neg hopposed, agree_iff]
    have hrow : ∀ y, SameRow (a.row y, b.row y) ↔ (a.row y).toList = (b.row y).toList := by
      intro y
      rw [SameRow, if_neg (show ¬ (a.row y).Opposed (b.row y) from hopposed)]
    simp only [hrow]

/-- **`simd_eq` is the comparison index by index, exactly unless the views are opposed and the rows
of the one are those of the other when read in one direction only.** -/
theorem simdEq_agrees_iff (a b : ArrayView2) :
    (a.simdEq b = true ↔ a.toGrid.Agree b.toGrid) ↔
      (a.Opposed b → (a.toGrid.Agree b.reversedRows.toGrid ↔ a.toGrid.Agree b.toGrid)) := by
  rw [simdEq_spec]
  by_cases hopposed : a.Opposed b
  · rw [if_pos hopposed]
    exact ⟨fun h _ => h, fun h => h hopposed⟩
  · rw [if_neg hopposed]
    exact ⟨fun _ h => absurd h hopposed, fun _ => Iff.rfl⟩

/-- A black pixel and a white one. -/
def blackWhite (address : Int) : Pixel32 :=
  if address = 0 then ⟨0, 0, 0, 255⟩ else ⟨255, 255, 255, 255⟩

/-- A row of two pixels differs from itself read backwards, and is found equal; it equals a row of
the same pixels that lies backward in memory, and is found different. -/
theorem opposed_rows_differ :
    (simdEq ⟨blackWhite, 0, 1, 2, 2, 1⟩ ⟨blackWhite, 1, 1, 2, 2, -1⟩ = true ∧
        ¬ Grid.Agree (toGrid ⟨blackWhite, 0, 1, 2, 2, 1⟩) (toGrid ⟨blackWhite, 1, 1, 2, 2, -1⟩)) ∧
      simdEq ⟨blackWhite, 0, 1, 2, 2, 1⟩ ⟨fun i => blackWhite (1 - i), 1, 1, 2, 2, -1⟩ = false ∧
        Grid.Agree (toGrid ⟨blackWhite, 0, 1, 2, 2, 1⟩)
          (toGrid ⟨fun i => blackWhite (1 - i), 1, 1, 2, 2, -1⟩) := by
  refine ⟨⟨by decide, fun h => ?_⟩, by decide, rfl, rfl, ?_⟩
  · exact absurd (h.2.2 0 0 (by decide) (by decide)) (by decide)
  · intro y x hy hx
    simp only [toGrid] at hy hx ⊢
    congr 1
    omega

/-- Views whose rows lie forward in memory are compared as their arrays. -/
theorem simdEq_toGrid {a b : ArrayView2} (ha : a.colStride = 1) (hb : b.colStride = 1) :
    a.simdEq b = ApertureC.simdEq a.toGrid b.toGrid := by
  have hopposed : ¬ a.Opposed b := by
    unfold Opposed
    omega
  rw [Bool.eq_iff_iff, simdEq_spec, if_neg hopposed, simdEq_iff]

end ArrayView2

end ApertureC
