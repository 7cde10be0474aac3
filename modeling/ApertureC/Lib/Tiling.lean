import Mathlib.Data.List.Basic
import Mathlib.Order.Monotone.Basic

/-!
# Cutting a range and a rectangle into pieces

A sequence of cut positions `f 0, f 1, …, f k` cuts a range of numbers into the half-open pieces
`[f i, f (i + 1))`, and two such sequences cut a rectangle into cells, listed row by row.

* `countP_cuts` — for a monotone sequence every number between the first and the last cut lies in
  exactly one piece, and every other number in none.
* `countP_cells` — the cells that a point lies in are counted row by column.
* `cells_eq_map` — the cells row by row, indexed by one number.

Principal results: `countP_cuts`, `countP_cells`, `mem_take_cells` (the cells among the first
so many) and `pairwise_cells` (a relation between the cells in their order).
-/

set_option autoImplicit false

namespace Tiling

variable {α : Type*}

/-- The pieces between `k + 1` cuts cover the numbers between the first and the last, once. -/
theorem countP_cuts {f : Nat → Nat} (hf : Monotone f) (x : Nat) : ∀ k : Nat,
    (List.range k).countP (fun i => decide (f i ≤ x ∧ x < f (i + 1))) =
      if f 0 ≤ x ∧ x < f k then 1 else 0
  | 0 => by
    have h : ¬ (f 0 ≤ x ∧ x < f 0) := by omega
    rw [if_neg h]
    rfl
  | k + 1 => by
    have h0 : f 0 ≤ f k := hf (Nat.zero_le k)
    have hk : f k ≤ f (k + 1) := hf (Nat.le_succ k)
    rw [List.range_succ, List.countP_append, countP_cuts hf x k, List.countP_singleton]
    simp only [decide_eq_true_eq]
    split_ifs <;> omega

/-- The cells row by row. -/
def cells (f : Nat → Nat → α) (rows cols : Nat) : List α :=
  (List.range rows).flatMap fun row => (List.range cols).map (f row)

theorem cells_succ (f : Nat → Nat → α) (rows cols : Nat) :
    cells f (rows + 1) cols = cells f rows cols ++ (List.range cols).map (f rows) := by
  rw [cells, List.range_succ, List.flatMap_append, List.flatMap_singleton]
  rfl

@[simp] theorem length_cells (f : Nat → Nat → α) (rows cols : Nat) :
    (cells f rows cols).length = rows * cols := by
  simp [cells, List.length_flatMap]

theorem cells_map (f : Nat → Nat → α) (rows cols : Nat) :
    cells f rows cols = (cells Prod.mk rows cols).map fun rc => f rc.1 rc.2 := by
  simp only [cells, List.map_flatMap, List.map_map, Function.comp_def]

/-- A relation that holds from each cell to the later ones of its row and of later rows. -/
theorem pairwise_cells {R : α → α → Prop} {f : Nat → Nat → α} {rows cols : Nat}
    (hrow : ∀ row col col', col < col' → col' < cols → R (f row col) (f row col'))
    (hrows : ∀ row row' col col', row < row' → row' < rows → R (f row col) (f row' col')) :
    (cells f rows cols).Pairwise R := by
  rw [cells, List.pairwise_flatMap]
  constructor
  · intro row _
    rw [List.pairwise_map]
    apply List.pairwise_lt_range.imp_of_mem
    intro col col' _ hcol' hlt
    exact hrow row col col' hlt (List.mem_range.mp hcol')
  · apply List.pairwise_lt_range.imp_of_mem
    intro row row' _ hrow' hlt a ha b hb
    obtain ⟨col, -, rfl⟩ := List.mem_map.mp ha
    obtain ⟨col', -, rfl⟩ := List.mem_map.mp hb
    exact hrows row row' col col' hlt (List.mem_range.mp hrow')

/-- A test on the row and a test on the column pass together as often as the product says. -/
theorem countP_cells {f : Nat → Nat → α} {p : α → Bool} {P Q : Nat → Bool}
    (hp : ∀ row col, p (f row col) = (P row && Q col)) (cols : Nat) : ∀ rows : Nat,
    (cells f rows cols).countP p =
      (List.range rows).countP P * (List.range cols).countP Q
  | 0 => by simp [cells]
  | rows + 1 => by
    have hrow : ((List.range cols).map (f rows)).countP p =
        (List.range cols).countP fun col => P rows && Q col := by
      rw [List.countP_map]
      apply List.countP_congr
      intro col _
      rw [Function.comp_apply, hp]
    rw [cells_succ, List.countP_append, countP_cells hp cols rows, hrow, List.range_succ,
      List.countP_append, List.countP_singleton, Nat.add_mul]
    cases hP : P rows with
    | false => simp
    | true => simp

theorem index_cell (row : Nat) {col cols : Nat} (h : col < cols) :
    (row * cols + col) / cols = row ∧ (row * cols + col) % cols = col := by
  have hc : 0 < cols := Nat.zero_lt_of_lt h
  rw [Nat.mul_comm row cols, Nat.mul_add_div hc, Nat.mul_add_mod, Nat.div_eq_of_lt h,
    Nat.mod_eq_of_lt h]
  exact ⟨rfl, rfl⟩

/-- The cells indexed by their position in the list. -/
theorem cells_eq_map (f : Nat → Nat → α) {cols : Nat} : ∀ rows : Nat,
    cells f rows cols = (List.range (rows * cols)).map fun i => f (i / cols) (i % cols)
  | 0 => by simp [cells]
  | rows + 1 => by
    have hlast : (List.range cols).map (f rows) =
        ((List.range cols).map (rows * cols + ·)).map fun i => f (i / cols) (i % cols) := by
      rw [List.map_map]
      apply List.map_congr_left
      intro col hcol
      have hi := index_cell rows (List.mem_range.mp hcol)
      rw [Function.comp_apply, hi.1, hi.2]
    rw [cells_succ, cells_eq_map f rows, hlast, Nat.add_mul, Nat.one_mul, List.range_add,
      List.map_append]

/-- The first `n` cells are the ones whose index is below `n`. -/
theorem mem_take_cells {f : Nat → Nat → α} {rows cols n : Nat} (hc : 0 < cols) {a : α} :
    a ∈ (cells f rows cols).take n ↔
      ∃ row col, row < rows ∧ col < cols ∧ row * cols + col < n ∧ f row col = a := by
  rw [cells_eq_map f, ← List.map_take, List.take_range, List.mem_map]
  constructor
  · rintro ⟨i, hi, rfl⟩
    rw [List.mem_range] at hi
    have hdiv : i / cols * cols + i % cols = i := Nat.div_add_mod' i cols
    refine ⟨i / cols, i % cols, ?_, Nat.mod_lt i hc, by omega, rfl⟩
    exact Nat.div_lt_of_lt_mul (by rw [Nat.mul_comm]; omega)
  · rintro ⟨row, col, hrow, hcol, hn, rfl⟩
    refine ⟨row * cols + col, ?_, ?_⟩
    · have hle : (row + 1) * cols ≤ rows * cols := Nat.mul_le_mul_right cols hrow
      rw [Nat.add_mul] at hle
      rw [List.mem_range]
      omega
    · show f ((row * cols + col) / cols) ((row * cols + col) % cols) = f row col
      rw [(index_cell row hcol).1, (index_cell row hcol).2]

end Tiling
