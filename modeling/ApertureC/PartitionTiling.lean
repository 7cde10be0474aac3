import ApertureC.Lib.Tiling
import ApertureC.Partition
import Mathlib.Tactic.Linarith

/-!
# When the partition tiles the screen

`partition` in `aperturec-graphics/src/partition.rs` fills the grid with the lowest score row by
row and stops at the number of partitions asked for.  A grid with a spare cell may score lower
than every grid of exactly that number: its last cell is then missing, and the pixels in it
belong to no encoder.

* `Tiles` — every pixel lies in exactly one box, and no box reaches outside.
* `IsBest` — what the search has found after the first so many row counts.
* `Squarest` — a grid of exactly `n` cells that no candidate undercuts.

Principal result: `partition_tiles_iff` (**when `partition` tiles the screen**: there are no
pixels, or the squarest exact grid is not undercut and its cut positions fit 64 bits).
-/

set_option autoImplicit false

namespace ApertureC

open Geometry Tiling

/-- The box does not reach outside the resolution. -/
def Inside (resolution : Size) (b : Box2D) : Prop :=
  b.min.x ≤ resolution.width ∧ b.min.y ≤ resolution.height ∧
    b.max.x ≤ resolution.width ∧ b.max.y ≤ resolution.height

instance (resolution : Size) (b : Box2D) : Decidable (Inside resolution b) :=
  inferInstanceAs (Decidable (_ ∧ _ ∧ _ ∧ _))

/-- Every pixel lies in exactly one of the boxes, and none reaches outside the resolution. -/
def Tiles (resolution : Size) (boxes : List Box2D) : Prop :=
  (∀ p : Point, p.x < resolution.width → p.y < resolution.height →
    boxes.countP (fun b => decide (p ∈ b)) = 1) ∧
  ∀ b ∈ boxes, Inside resolution b

namespace Partition

/-! ## Cut positions -/

/-- The product does not wrap, for any index up to the number of parts. -/
def Unwrapped (length parts : Nat) : Prop := length * parts < 2 ^ 64

theorem cut_le {length index parts : Nat} (h : index ≤ parts) : cut length index parts ≤ length := by
  have hmod : length * index % 2 ^ 64 ≤ length * parts :=
    (Nat.mod_le _ _).trans (Nat.mul_le_mul_left length h)
  exact (Nat.div_le_div_right hmod).trans (Nat.div_le_of_le_mul (by rw [Nat.mul_comm]))

/-- A cut reaches the far end only at the last index, and only when nothing wraps. -/
theorem reaches_end {length index parts : Nat} (hp : 0 < parts) (hl : 0 < length)
    (h : length ≤ cut length index parts) : parts ≤ index ∧ Unwrapped length parts := by
  have hmul : length * parts ≤ length * index % 2 ^ 64 := (Nat.le_div_iff_mul_le hp).mp h
  have hlt : length * index % 2 ^ 64 < 2 ^ 64 := Nat.mod_lt _ (Nat.two_pow_pos 64)
  have hle : length * parts ≤ length * index := hmul.trans (Nat.mod_le _ _)
  exact ⟨Nat.le_of_mul_le_mul_left hle hl, lt_of_le_of_lt hmul hlt⟩

theorem cut_of_unwrapped {length index parts : Nat} (hu : Unwrapped length parts)
    (h : index ≤ parts) : cut length index parts = length * index / parts := by
  have hle : length * index ≤ length * parts := Nat.mul_le_mul_left length h
  rw [cut, Nat.mod_eq_of_lt (lt_of_le_of_lt hle hu)]

/-- The pieces between the cuts cover every position once when nothing wraps. -/
theorem countP_cut {length parts : Nat} (hp : 0 < parts) (hu : Unwrapped length parts) {x : Nat}
    (hx : x < length) :
    (List.range parts).countP
      (fun i => decide (cut length i parts ≤ x ∧ x < cut length (i + 1) parts)) = 1 := by
  have hmono : Monotone fun i => length * i / parts :=
    fun i j hij => Nat.div_le_div_right (Nat.mul_le_mul_left length hij)
  have hcount := countP_cuts hmono x parts
  rw [if_pos ⟨by simp, by rwa [Nat.mul_div_cancel length hp]⟩] at hcount
  have hcongr := List.countP_congr (l := List.range parts)
    (p := fun i => decide (cut length i parts ≤ x ∧ x < cut length (i + 1) parts))
    (q := fun i => decide (length * i / parts ≤ x ∧ x < length * (i + 1) / parts)) <| by
      intro i hi
      have hi' : i < parts := List.mem_range.mp hi
      rw [cut_of_unwrapped hu (by omega), cut_of_unwrapped hu (by omega)]
  exact hcongr.trans hcount

/-! ## The search -/

/-- Every row count up to `n` gives a layout of at least `n` cells. -/
theorem candidate_some (n : Nat) {rows : Nat} (h : 0 < rows) :
    ∃ cols, n ≤ rows * cols ∧
      candidate n rows = some ⟨rows, cols, rows * cols - n, ((rows : Int) - cols).natAbs⟩ := by
  have hn : n ≤ rows * ((n + rows - 1) / rows) := by
    have hdiv := Nat.div_add_mod (n + rows - 1) rows
    have hmod := Nat.mod_lt (n + rows - 1) h
    omega
  exact ⟨_, hn, if_neg (Nat.not_lt.mpr hn)⟩

/-- The layout whose row count divides `n` has no spare cell. -/
theorem candidate_exact {n rows cols : Nat} (h : rows * cols = n) (hr : 0 < rows) :
    candidate n rows = some ⟨rows, cols, 0, ((rows : Int) - cols).natAbs⟩ := by
  have hcols : (n + rows - 1) / rows = cols := by
    rw [← h, Nat.add_sub_assoc hr, Nat.mul_add_div hr, Nat.div_eq_of_lt (by omega), Nat.add_zero]
  unfold candidate
  simp only [hcols, h, Nat.lt_irrefl, if_false, Nat.sub_self]

/-- The best layout among the row counts `1 … k`: the first of the lowest score. -/
structure IsBest (n k : Nat) (l : Layout) : Prop where
  found : candidate n l.rows = some l
  pos : 0 < l.rows
  le : l.rows ≤ k
  lowest : ∀ rows l', 0 < rows → rows ≤ k → candidate n rows = some l' → l.score ≤ l'.score
  first : ∀ rows l', 0 < rows → rows ≤ k → candidate n rows = some l' →
    l'.score = l.score → l.rows ≤ rows

theorem isBest_one (n : Nat) : ∃ l, improve n none 1 = some l ∧ IsBest n 1 l := by
  obtain ⟨cols, -, hc⟩ := candidate_some n (Nat.one_pos)
  refine ⟨_, by rw [improve, hc]; rfl, hc, Nat.one_pos, Nat.le_refl 1, ?_, ?_⟩
  · intro rows l' hpos hle h
    rw [show rows = 1 by omega, hc] at h
    cases h
    exact Nat.le_refl _
  · intro rows l' hpos _ _ _
    exact hpos

/-- One more row count. -/
theorem IsBest.improve {n k : Nat} {l : Layout} (h : IsBest n k l) :
    ∃ l', Partition.improve n (some l) (k + 1) = some l' ∧ IsBest n (k + 1) l' := by
  obtain ⟨cols, -, hc⟩ := candidate_some n (Nat.succ_pos k)
  rw [Partition.improve, hc]
  simp only [Option.all_some, decide_eq_true_eq]
  split
  · rename_i hlt
    refine ⟨_, rfl, hc, Nat.succ_pos k, Nat.le_refl _, ?_, ?_⟩
    · intro rows l' hpos hle hl'
      obtain hk | hk : rows ≤ k ∨ rows = k + 1 := by omega
      · exact (Nat.le_of_lt hlt).trans (h.lowest rows l' hpos hk hl')
      · rw [hk, hc] at hl'
        cases hl'
        exact Nat.le_refl _
    · intro rows l' hpos hle hl' heq
      by_contra hrows
      have hk : rows ≤ k := by
        have : ¬ k + 1 ≤ rows := hrows
        omega
      have := h.lowest rows l' hpos hk hl'
      omega
  · rename_i hge
    refine ⟨l, rfl, h.found, h.pos, Nat.le_succ_of_le h.le, ?_, ?_⟩
    · intro rows l' hpos hle hl'
      obtain hk | hk : rows ≤ k ∨ rows = k + 1 := by omega
      · exact h.lowest rows l' hpos hk hl'
      · rw [hk, hc] at hl'
        cases hl'
        exact Nat.le_of_not_lt hge
    · intro rows l' hpos hle hl' heq
      obtain hk | hk : rows ≤ k ∨ rows = k + 1 := by omega
      · exact h.first rows l' hpos hk hl' heq
      · rw [hk]
        exact Nat.le_succ_of_le h.le

/-- **The search finds the first layout of the lowest score.** -/
theorem best_spec {n : Nat} (hn : 0 < n) : ∃ l, best n = some l ∧ IsBest n n l := by
  have hrun : ∀ k, ∃ l, (List.range' 1 (k + 1)).foldl (improve n) none = some l ∧
      IsBest n (k + 1) l := by
    intro k
    induction k with
    | zero => exact isBest_one n
    | succ k ih =>
      obtain ⟨l, hl, hbest⟩ := ih
      rw [List.range'_1_concat, List.foldl_append, hl, Nat.add_comm 1 (k + 1)]
      exact hbest.improve
  obtain ⟨k, rfl⟩ : ∃ k, n = k + 1 := ⟨n - 1, by omega⟩
  exact hrun k

/-- A grid of exactly `n` cells, no taller than wide, that no candidate undercuts. -/
structure Squarest (n rows cols : Nat) : Prop where
  exact : rows * cols = n
  wide : rows ≤ cols
  lowest : ∀ r l, 0 < r → r ≤ n → candidate n r = some l → cols - rows ≤ l.score

theorem score_exact (rows cols squareness : Nat) :
    Layout.score ⟨rows, cols, 0, squareness⟩ = squareness := by
  rw [Layout.score, Nat.zero_mul, Nat.zero_add]

/-- The best layout without a spare cell is the squarest grid. -/
theorem IsBest.squarest {n : Nat} {l : Layout} (hn : 0 < n) (h : IsBest n n l)
    (hex : l.rows * l.cols = n) : Squarest n l.rows l.cols := by
  have hcols : 0 < l.cols := Nat.pos_of_mul_pos_left (by omega : 0 < l.rows * l.cols)
  have hl : l = ⟨l.rows, l.cols, 0, ((l.rows : Int) - l.cols).natAbs⟩ := by
    have := h.found
    rw [candidate_exact hex h.pos] at this
    exact (Option.some.inj this).symm
  have hscore : l.score = ((l.rows : Int) - l.cols).natAbs := by
    rw [hl, score_exact]
  have hwide : l.rows ≤ l.cols := by
    -- the grid turned on its side scores the same, so it is not found first
    have hturn := candidate_exact (n := n) (by rw [Nat.mul_comm]; exact hex) hcols
    apply h.first l.cols _ hcols _ hturn
    · rw [hscore, score_exact]
      omega
    · rw [← hex]
      exact Nat.le_mul_of_pos_left _ h.pos
  refine ⟨hex, hwide, fun r l' hpos hle hl' => ?_⟩
  have := h.lowest r l' hpos hle hl'
  omega

/-- When a squarest grid exists the search finds it. -/
theorem IsBest.eq_squarest {n rows cols : Nat} {l : Layout} (hn : 0 < n) (h : IsBest n n l)
    (hs : Squarest n rows cols) : l.rows = rows ∧ l.cols = cols := by
  have hpos : 0 < rows := Nat.pos_of_mul_pos_right (by rw [hs.exact]; exact hn)
  have hrn : rows ≤ n := by
    rw [← hs.exact]
    exact Nat.le_mul_of_pos_right _ (lt_of_lt_of_le hpos hs.wide)
  have hexact := candidate_exact hs.exact hpos
  have hle := h.lowest rows _ hpos hrn hexact
  have hge := hs.lowest l.rows l h.pos h.le h.found
  have hwide := hs.wide
  rw [score_exact] at hle
  have hfirst : l.rows ≤ rows := by
    apply h.first rows _ hpos hrn hexact
    rw [score_exact]
    omega
  have hrows : l.rows = rows := by
    -- fewer rows are less square, whatever the spare cells
    obtain ⟨c, hc, hfound⟩ := candidate_some n h.pos
    rw [h.found] at hfound
    have hl := Option.some.inj hfound
    have hscore : ((l.rows : Int) - c).natAbs ≤ l.score := by
      rw [hl]
      exact Nat.le_add_left _ _
    have hcols : cols ≤ c := by
      have hmul : rows * cols ≤ rows * c := by
        rw [hs.exact]
        exact hc.trans (Nat.mul_le_mul_right c hfirst)
      exact Nat.le_of_mul_le_mul_left hmul hpos
    omega
  have hl := h.found
  rw [hrows, hexact] at hl
  rw [← Option.some.inj hl]
  exact ⟨rfl, rfl⟩

/-! ## The boxes -/

theorem mem_cell {resolution : Size} {l : Layout} {row col : Nat} {p : Point} :
    p ∈ cell resolution l row col ↔
      (cut resolution.width col l.cols ≤ p.x ∧ p.x < cut resolution.width (col + 1) l.cols) ∧
        cut resolution.height row l.rows ≤ p.y ∧
          p.y < cut resolution.height (row + 1) l.rows := Iff.rfl

theorem inside_cell {resolution : Size} {l : Layout} {row col : Nat} (hr : row < l.rows)
    (hc : col < l.cols) : Inside resolution (cell resolution l row col) :=
  ⟨cut_le (Nat.le_of_lt hc), cut_le (Nat.le_of_lt hr), cut_le hc, cut_le hr⟩

/-- All the cells together cover every pixel once when nothing wraps. -/
theorem countP_cell {resolution : Size} {l : Layout} (hr : 0 < l.rows) (hc : 0 < l.cols)
    (hw : Unwrapped resolution.width l.cols) (hh : Unwrapped resolution.height l.rows)
    {p : Point} (hx : p.x < resolution.width) (hy : p.y < resolution.height) :
    (cells (cell resolution l) l.rows l.cols).countP (fun b => decide (p ∈ b)) = 1 := by
  have hsplit : ∀ row col, decide (p ∈ cell resolution l row col) =
      (decide (cut resolution.height row l.rows ≤ p.y ∧
          p.y < cut resolution.height (row + 1) l.rows) &&
        decide (cut resolution.width col l.cols ≤ p.x ∧
          p.x < cut resolution.width (col + 1) l.cols)) := by
    intro row col
    rw [← Bool.decide_and]
    apply decide_eq_decide.mpr
    rw [mem_cell]
    exact and_comm
  rw [countP_cells hsplit, countP_cut hr hh hy, countP_cut hc hw hx]

/-- The last pixel is covered only by the last cell, and only when nothing wraps. -/
theorem corner_mem {resolution : Size} {l : Layout} {row col : Nat} (hr : row < l.rows)
    (hc : col < l.cols) (hw : 0 < resolution.width) (hh : 0 < resolution.height)
    (h : (⟨resolution.width - 1, resolution.height - 1⟩ : Point) ∈ cell resolution l row col) :
    row + 1 = l.rows ∧ col + 1 = l.cols ∧ Unwrapped resolution.width l.cols ∧
      Unwrapped resolution.height l.rows := by
  obtain ⟨⟨-, hx⟩, -, hy⟩ := mem_cell.mp h
  have hcol := reaches_end (Nat.zero_lt_of_lt hc) hw (Nat.le_of_pred_lt hx)
  have hrow := reaches_end (Nat.zero_lt_of_lt hr) hh (Nat.le_of_pred_lt hy)
  exact ⟨by omega, by omega, hcol.2, hrow.2⟩

end Partition

open ApertureC.Partition

/-- `partition` returns the first boxes of the best layout. -/
theorem partition_eq (resolution : Size) {n : Nat} (hn : 0 < n) :
    ∃ l, IsBest n n l ∧ 0 < l.cols ∧ n ≤ l.rows * l.cols ∧
      partition resolution n = some ((cells (cell resolution l) l.rows l.cols).take n) := by
  obtain ⟨l, hl, hbest⟩ := best_spec hn
  obtain ⟨cols, hcols, hfound⟩ := candidate_some n hbest.pos
  have hlc : l.cols = cols := by
    rw [hbest.found] at hfound
    rw [Option.some.inj hfound]
  rw [← hlc] at hcols
  refine ⟨l, hbest, Nat.pos_of_mul_pos_left (by omega : 0 < l.rows * l.cols), hcols, ?_⟩
  rw [partition, hl]
  rfl

/-- **When `partition` tiles the screen.** -/
theorem partition_tiles_iff (resolution : Size) {n : Nat} (hn : 0 < n) :
    (∃ boxes, partition resolution n = some boxes ∧ Tiles resolution boxes) ↔
      resolution.width = 0 ∨ resolution.height = 0 ∨
        ∃ rows cols, Squarest n rows cols ∧ resolution.width * cols < 2 ^ 64 ∧
          resolution.height * rows < 2 ^ 64 := by
  obtain ⟨l, hbest, hc, hcells, hpart⟩ := partition_eq resolution hn
  have hinside : ∀ b ∈ (cells (cell resolution l) l.rows l.cols).take n, Inside resolution b := by
    intro b hb
    obtain ⟨row, col, hrow, hcol, -, rfl⟩ := (mem_take_cells hc).mp hb
    exact inside_cell hrow hcol
  constructor
  · rintro ⟨boxes, hboxes, hcover, -⟩
    rw [hpart] at hboxes
    cases hboxes
    by_cases hw : resolution.width = 0
    · exact Or.inl hw
    by_cases hh : resolution.height = 0
    · exact Or.inr (Or.inl hh)
    -- some box holds the last pixel
    have hone := hcover ⟨resolution.width - 1, resolution.height - 1⟩
      (Nat.sub_one_lt hw) (Nat.sub_one_lt hh)
    obtain ⟨b, hb, hmem⟩ := List.countP_pos_iff.mp (by rw [hone]; exact Nat.one_pos)
    obtain ⟨row, col, hrow, hcol, hlt, rfl⟩ := (mem_take_cells hc).mp hb
    obtain ⟨hlast, hlastc, huw, huh⟩ := corner_mem hrow hcol (Nat.pos_of_ne_zero hw)
      (Nat.pos_of_ne_zero hh) (of_decide_eq_true hmem)
    have hex : l.rows * l.cols = n := by
      have hmul : l.rows * l.cols = row * l.cols + l.cols := by
        rw [← hlast, Nat.add_mul, Nat.one_mul]
      omega
    exact Or.inr (Or.inr ⟨l.rows, l.cols, hbest.squarest hn hex, huw, huh⟩)
  · intro h
    refine ⟨_, hpart, ?_, hinside⟩
    intro p hx hy
    obtain h | h | ⟨rows, cols, hs, hw, hh⟩ := h
    · omega
    · omega
    · obtain ⟨rfl, rfl⟩ := hbest.eq_squarest hn hs
      rw [List.take_of_length_le (by rw [length_cells, hs.exact])]
      exact countP_cell hbest.pos hc hw hh hx hy

/-- Four boxes tile a screen of 20 by 20 pixels. -/
theorem partition_tiles_iff_four :
    ∃ boxes, partition ⟨20, 20⟩ 4 = some boxes ∧ Tiles ⟨20, 20⟩ boxes := by
  apply (partition_tiles_iff ⟨20, 20⟩ (show 0 < 4 by decide)).mpr
  refine Or.inr (Or.inr ⟨2, 2, ⟨rfl, Nat.le_refl 2, ?_⟩, by decide, by decide⟩)
  intro r l _ _ _
  exact Nat.zero_le l.score

/-- Seventeen partitions are laid out on a 3 by 6 grid, and the last pixel is in no box. -/
theorem partition_leaves_gap :
    ¬ ∃ boxes, partition ⟨1920, 1080⟩ 17 = some boxes ∧ Tiles ⟨1920, 1080⟩ boxes := by
  rintro ⟨boxes, hboxes, hcover, -⟩
  have hone : boxes.countP (fun b => decide ((⟨1919, 1079⟩ : Point) ∈ b)) = 1 :=
    hcover ⟨1919, 1079⟩ (by decide) (by decide)
  have hnone : (partition ⟨1920, 1080⟩ 17).map
      (fun bs => bs.countP fun b => decide ((⟨1919, 1079⟩ : Point) ∈ b)) = some 0 := by
    decide +kernel
  rw [hboxes, Option.map_some, hone] at hnone
  cases hnone

end ApertureC
