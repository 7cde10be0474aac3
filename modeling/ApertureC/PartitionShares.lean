import ApertureC.Lib.Usize
import ApertureC.PartitionTiling

/-!
# The shares of the displays

`partition_displays` in `aperturec-graphics/src/partition.rs`, in builds with and without overflow
checks: the products `width * (col + 1)` and `height * (row + 1)` of `partition` are the only
arithmetic of it that can leave 64 bits for a result that fits in memory.

* `partitionIn`, `partitionDisplaysIn` — the two functions in a build.
* `Fair` — what the result promises, `Shares` the promise together with when there is one.

Principal results: `partitionDisplaysIn_wraps` (a build without checks is `partitionDisplays`),
`partitionDisplays_fair_iff` (the decoders are shared out fairly in every build exactly when no cut
position of an enabled display leaves 64 bits) and `partitionDisplays_fair` (**they are shared out
fairly for every display and decoder count that the program passes**).
-/

set_option autoImplicit false

namespace ApertureC

open Geometry Tiling MapM Usize ApertureC.Partition

/-! ## Builds with and without overflow checks -/

namespace Partition

/-- `length * index / parts` -/
def cutIn (o : Overflow) (length index parts : Nat) : Option Nat :=
  (o.mul length index).map (· / parts)

/-- The body of the inner loop, with the row bounds. -/
def cellIn (o : Overflow) (resolution : Size) (l : Layout) (row col : Nat) : Option Box2D := do
  let y0 ← cutIn o resolution.height row l.rows
  let y1 ← cutIn o resolution.height (row + 1) l.rows
  let x0 ← cutIn o resolution.width col l.cols
  let x1 ← cutIn o resolution.width (col + 1) l.cols
  return ⟨⟨x0, y0⟩, ⟨x1, y1⟩⟩

end Partition

/-- `partition` -/
def partitionIn (o : Overflow) (resolution : Size) (maxPartitions : Nat) : Option (List Box2D) :=
  (best maxPartitions).bind fun l =>
    ((cells Prod.mk l.rows l.cols).take maxPartitions).mapM fun rc =>
      cellIn o resolution l rc.1 rc.2

/-- The closure of `partition_displays` over the displays in order, with `rem` as its state. -/
def partitionEachIn (o : Overflow) (base : Nat) : Nat → List Display → Option (List (List Box2D))
  | _, [] => some []
  | rem, d :: ds =>
    if !d.isEnabled then (partitionEachIn o base rem ds).map ([] :: ·)
    else
      let extra := if rem > 0 then 1 else 0
      if base + extra = 0 then none
      else
        match partitionIn o d.area.size (base + extra) with
        | none => none
        | some areas => (partitionEachIn o base (rem - extra) ds).map (areas :: ·)

/-- `partition_displays` -/
def partitionDisplaysIn (o : Overflow) (displays : List Display) (maxDecoderCount : Nat) :
    Option (Except PartitionError (List (List Box2D))) :=
  let enabled := enabledCount displays
  if enabled = 0 then some (.error .noEnabledDisplays)
  else if maxDecoderCount = 0 then some (.error .maxDecoderCountZero)
  else if enabled > maxDecoderCount then
    some (.error (.moreDisplaysThanDecoders enabled maxDecoderCount))
  else
    (partitionEachIn o (maxDecoderCount / enabled) (maxDecoderCount % enabled) displays).map .ok

/-! ## A build without checks -/

theorem Partition.cellIn_wraps (resolution : Size) (l : Layout) (row col : Nat) :
    cellIn .wraps resolution l row col = some (cell resolution l row col) := rfl

theorem partitionIn_wraps (resolution : Size) (n : Nat) :
    partitionIn .wraps resolution n = partition resolution n := by
  unfold partitionIn partition
  cases hbest : best n with
  | none => rfl
  | some l =>
    show ((cells Prod.mk l.rows l.cols).take n).mapM _ =
      some ((cells (cell resolution l) l.rows l.cols).take n)
    rw [cells_map (cell resolution l), ← List.map_take]
    exact mapM_eq_pure_map fun rc _ => cellIn_wraps resolution l rc.1 rc.2

theorem partitionEachIn_wraps (base : Nat) : ∀ (rem : Nat) (displays : List Display),
    partitionEachIn .wraps base rem displays = partitionEach base rem displays
  | _, [] => rfl
  | rem, d :: ds => by
    have hrest := fun r => partitionEachIn_wraps base r ds
    cases hd : d.isEnabled with
    | false => simp [partitionEachIn, partitionEach, hd, hrest]
    | true =>
      cases hareas : partition d.area.size (base + if rem > 0 then 1 else 0) with
      | none => simp [partitionEachIn, partitionEach, hd, partitionIn_wraps, hareas]
      | some areas => simp [partitionEachIn, partitionEach, hd, partitionIn_wraps, hareas, hrest]

/-- **A build without overflow checks** computes `partitionDisplays`. -/
theorem partitionDisplaysIn_wraps (displays : List Display) (n : Nat) :
    partitionDisplaysIn .wraps displays n = partitionDisplays displays n := by
  simp only [partitionDisplaysIn, partitionDisplays, partitionEachIn_wraps]

/-! ## The layout -/

namespace Partition

theorem candidate_eq_some {n rows : Nat} {l : Layout} (h : candidate n rows = some l) :
    l = ⟨rows, (n + rows - 1) / rows, rows * ((n + rows - 1) / rows) - n,
      ((rows : Int) - ((n + rows - 1) / rows : Nat)).natAbs⟩ := by
  simp only [candidate, Option.ite_none_left_eq_some, Option.some.injEq] at h
  exact h.2.symm

/-- The quotient rounded up is the least number of columns that holds `n` cells. -/
theorem ceil_le_iff {n rows c : Nat} (h : 0 < rows) : (n + rows - 1) / rows ≤ c ↔ n ≤ rows * c := by
  rw [Nat.div_le_iff_le_mul_add_pred h]
  omega

/-- The search has one outcome. -/
theorem IsBest.unique {n k : Nat} {l l' : Layout} (h : IsBest n k l) (h' : IsBest n k l') :
    l = l' := by
  have hle := h.lowest l'.rows l' h'.pos h'.le h'.found
  have hge := h'.lowest l.rows l h.pos h.le h.found
  have hrows := h.first l'.rows l' h'.pos h'.le h'.found (Nat.le_antisymm hge hle)
  have hrows' := h'.first l.rows l h.pos h.le h.found (Nat.le_antisymm hle hge)
  have hfound := h.found
  rw [Nat.le_antisymm hrows hrows', h'.found] at hfound
  exact (Option.some.inj hfound).symm

theorem IsBest.cols_pos {n k : Nat} {l : Layout} (hn : 0 < n) (h : IsBest n k l) : 0 < l.cols := by
  obtain ⟨cols, hcols, hfound⟩ := candidate_some n h.pos
  rw [h.found] at hfound
  rw [Option.some.inj hfound]
  exact Nat.pos_of_mul_pos_left (lt_of_lt_of_le hn hcols)

/-- The first row is full. -/
theorem IsBest.cols_le {n k : Nat} {l : Layout} (h : IsBest n k l) : l.cols ≤ n := by
  rw [candidate_eq_some h.found]
  exact (ceil_le_iff h.pos).mpr (Nat.le_mul_of_pos_left n h.pos)

/-- The last row is not empty: with one row less, and as many columns, the score is lower. -/
theorem IsBest.last_row {n k : Nat} {l : Layout} (hn : 0 < n) (h : IsBest n k l) :
    (l.rows - 1) * l.cols < n := by
  by_contra hge
  have hle : n ≤ (l.rows - 1) * l.cols := Nat.le_of_not_lt hge
  have hpos : 0 < l.rows - 1 := Nat.pos_of_mul_pos_right (lt_of_lt_of_le hn hle)
  have hcpos : 0 < l.cols := Nat.pos_of_mul_pos_left (lt_of_lt_of_le hn hle)
  obtain ⟨c, hc, hfound⟩ := candidate_some n hpos
  have hl := candidate_eq_some h.found
  have hl' := candidate_eq_some hfound
  have hcols : l.cols = (n + l.rows - 1) / l.rows := congrArg Layout.cols hl
  have hcols' : c = (n + (l.rows - 1) - 1) / (l.rows - 1) := congrArg Layout.cols hl'
  have hcl : c = l.cols := by
    apply Nat.le_antisymm
    · rw [hcols', ceil_le_iff hpos]
      exact hle
    · rw [hcols, ceil_le_iff h.pos]
      exact hc.trans (Nat.mul_le_mul_right c (Nat.sub_le _ _))
  have hscore := h.lowest (l.rows - 1) _ hpos (by have := h.le; omega) hfound
  have hsplit : l.rows * l.cols = (l.rows - 1) * l.cols + l.cols := by
    rw [Nat.sub_one_mul]
    exact (Nat.sub_add_cancel (Nat.le_mul_of_pos_left _ h.pos)).symm
  have hunused : l.unused = l.rows * l.cols - n := by
    rw [hcols]
    exact congrArg Layout.unused hl
  have hsquare : l.squareness = ((l.rows : Int) - l.cols).natAbs := by
    rw [hcols]
    exact congrArg Layout.squareness hl
  simp only [Layout.score, hunused, hsquare, hcl] at hscore
  omega

end Partition

/-! ## Cut positions that fit -/

/-- No cut position of the best layout leaves 64 bits. -/
def CutsFit (resolution : Size) (n : Nat) : Prop :=
  ∀ l, IsBest n n l → Unwrapped resolution.width l.cols ∧ Unwrapped resolution.height l.rows

/-- So it is whenever the sides times the number of partitions fit. -/
theorem cutsFit_of_mul_lt {resolution : Size} {n : Nat}
    (hw : resolution.width * n < 2 ^ 64) (hh : resolution.height * n < 2 ^ 64) :
    CutsFit resolution n := by
  intro l hbest
  constructor
  · exact lt_of_le_of_lt (Nat.mul_le_mul_left _ hbest.cols_le) hw
  · exact lt_of_le_of_lt (Nat.mul_le_mul_left _ hbest.le) hh

namespace Partition

theorem cutIn_of_unwrapped (o : Overflow) {length index parts : Nat} (hu : Unwrapped length parts)
    (h : index ≤ parts) : cutIn o length index parts = some (cut length index parts) := by
  cases o with
  | wraps => rfl
  | panics =>
    have hlt : length * index < 2 ^ 64 := lt_of_le_of_lt (Nat.mul_le_mul_left length h) hu
    rw [cut, Nat.mod_eq_of_lt hlt, cutIn, Overflow.mul, Overflow.fit_of_lt _ hlt, Option.map_some]

theorem unwrapped_of_cutIn {length parts c : Nat} (h : cutIn .panics length parts parts = some c) :
    Unwrapped length parts := by
  simp only [cutIn, Overflow.mul, Option.map_eq_some_iff, Overflow.fit_panics_eq_some_iff] at h
  obtain ⟨-, ⟨hlt, -⟩, -⟩ := h
  exact hlt

variable {resolution : Size} {l : Layout} {row col : Nat}

theorem cellIn_of_unwrapped (o : Overflow) (hw : Unwrapped resolution.width l.cols)
    (hh : Unwrapped resolution.height l.rows) (hr : row < l.rows) (hc : col < l.cols) :
    cellIn o resolution l row col = some (cell resolution l row col) := by
  rw [cellIn, cutIn_of_unwrapped o hh (Nat.le_of_lt hr), cutIn_of_unwrapped o hh hr,
    cutIn_of_unwrapped o hw (Nat.le_of_lt hc), cutIn_of_unwrapped o hw hc]
  rfl

theorem cutIn_of_cellIn {o : Overflow} {b : Box2D} (h : cellIn o resolution l row col = some b) :
    (∃ y, cutIn o resolution.height (row + 1) l.rows = some y) ∧
      ∃ x, cutIn o resolution.width (col + 1) l.cols = some x := by
  simp only [cellIn, Option.bind_eq_bind, Option.bind_eq_some_iff] at h
  obtain ⟨-, -, y, hy, -, -, x, hx, -⟩ := h
  exact ⟨⟨y, hy⟩, x, hx⟩

end Partition

/-- Where every cut fits, no build differs from another. -/
theorem partitionIn_of_cutsFit (o : Overflow) {resolution : Size} {n : Nat} (hn : 0 < n)
    (h : CutsFit resolution n) : partitionIn o resolution n = partition resolution n := by
  obtain ⟨l, hl, hbest⟩ := best_spec hn
  obtain ⟨hw, hh⟩ := h l hbest
  have hc := hbest.cols_pos hn
  rw [← partitionIn_wraps, partitionIn, partitionIn, hl]
  show ((cells Prod.mk l.rows l.cols).take n).mapM _ =
    ((cells Prod.mk l.rows l.cols).take n).mapM _
  have hall : ∀ (o : Overflow), ∀ rc ∈ (cells Prod.mk l.rows l.cols).take n,
      cellIn o resolution l rc.1 rc.2 = some (cell resolution l rc.1 rc.2) := by
    intro o rc hrc
    obtain ⟨row, col, hrow, hcol, -, rfl⟩ := (mem_take_cells hc).mp hrc
    exact cellIn_of_unwrapped o hw hh hrow hcol
  rw [mapM_eq_pure_map (hall o), mapM_eq_pure_map (hall .wraps)]

/-- A build with checks gets through only when every cut fits. -/
theorem cutsFit_of_partitionIn {resolution : Size} {n : Nat} (hn : 0 < n)
    (h : (partitionIn .panics resolution n).isSome = true) : CutsFit resolution n := by
  intro l hbest
  obtain ⟨l', hl, hbest'⟩ := best_spec hn
  cases hbest.unique hbest'
  obtain ⟨boxes, hboxes⟩ := Option.isSome_iff_exists.mp h
  rw [partitionIn, hl] at hboxes
  have hcell := isSome_of_mapM hboxes
  have hrow := hbest.last_row hn
  have hcol := hbest.cols_le
  have hpos := hbest.pos
  have hc := hbest.cols_pos hn
  constructor
  · -- the last cell of the first row
    obtain ⟨b, hb⟩ := Option.isSome_iff_exists.mp (hcell (0, l.cols - 1)
      ((mem_take_cells hc).mpr ⟨0, l.cols - 1, hpos, by omega, by omega, rfl⟩))
    obtain ⟨-, x, hx⟩ := cutIn_of_cellIn hb
    rw [Nat.sub_add_cancel hc] at hx
    exact unwrapped_of_cutIn hx
  · -- the first cell of the last row
    obtain ⟨b, hb⟩ := Option.isSome_iff_exists.mp (hcell (l.rows - 1, 0)
      ((mem_take_cells hc).mpr ⟨l.rows - 1, 0, by omega, hc, by omega, rfl⟩))
    obtain ⟨⟨y, hy⟩, -⟩ := cutIn_of_cellIn hb
    rw [Nat.sub_add_cancel hpos] at hy
    exact unwrapped_of_cutIn hy

/-! ## The boxes of one display -/

theorem length_partition {resolution : Size} {n : Nat} {boxes : List Box2D} (hn : 0 < n)
    (h : partition resolution n = some boxes) : boxes.length = n := by
  obtain ⟨l, -, -, hcells, hpart⟩ := partition_eq resolution hn
  rw [hpart] at h
  cases h
  rw [List.length_take, length_cells]
  exact Nat.min_eq_left hcells

theorem inside_of_partition {resolution : Size} {n : Nat} {boxes : List Box2D} (hn : 0 < n)
    (h : partition resolution n = some boxes) : ∀ b ∈ boxes, Inside resolution b := by
  obtain ⟨l, -, hc, -, hpart⟩ := partition_eq resolution hn
  rw [hpart] at h
  cases h
  intro b hb
  obtain ⟨row, col, hrow, hcol, -, rfl⟩ := (mem_take_cells hc).mp hb
  exact inside_cell hrow hcol

/-- Unwrapped cut positions do not decrease. -/
theorem Partition.cut_mono {length parts i j : Nat} (hu : Unwrapped length parts) (hij : i ≤ j)
    (hj : j ≤ parts) : cut length i parts ≤ cut length j parts := by
  rw [cut_of_unwrapped hu (hij.trans hj), cut_of_unwrapped hu hj]
  exact Nat.div_le_div_right (Nat.mul_le_mul_left length hij)

theorem disjoint_of_partition {resolution : Size} {n : Nat} {boxes : List Box2D} (hn : 0 < n)
    (hfit : CutsFit resolution n) (h : partition resolution n = some boxes) :
    boxes.Pairwise Box2D.Disjoint := by
  obtain ⟨l, hbest, -, -, hpart⟩ := partition_eq resolution hn
  obtain ⟨hw, hh⟩ := hfit l hbest
  rw [hpart] at h
  cases h
  apply List.Pairwise.sublist (List.take_sublist _ _)
  apply pairwise_cells
  · intro row col col' hlt hcol p hp hp'
    have hle := cut_mono hw (Nat.succ_le_of_lt hlt) (Nat.le_of_lt hcol)
    have h₁ := (mem_cell.mp hp).1.2
    have h₂ := (mem_cell.mp hp').1.1
    exact absurd (lt_of_lt_of_le h₁ (hle.trans h₂)) (lt_irrefl _)
  · intro row row' col col' hlt hrow p hp hp'
    have hle := cut_mono hh (Nat.succ_le_of_lt hlt) (Nat.le_of_lt hrow)
    have h₁ := (mem_cell.mp hp).2.2
    have h₂ := (mem_cell.mp hp').2.1
    exact absurd (lt_of_lt_of_le h₁ (hle.trans h₂)) (lt_irrefl _)

/-! ## The shares in turn -/

/-- `P` holds of the size and the share of every enabled display. -/
def EachShare (P : Size → Nat → Prop) (base : Nat) : Nat → List Display → Prop
  | _, [] => True
  | rem, d :: ds =>
    if d.isEnabled then
      P d.area.size (base + if rem > 0 then 1 else 0) ∧
        EachShare P base (rem - if rem > 0 then 1 else 0) ds
    else EachShare P base rem ds

/-- The share of a display by the number of enabled displays before it. -/
theorem eachShare_iff {P : Size → Nat → Prop} {base : Nat} : ∀ {rem : Nat} {displays : List Display},
    EachShare P base rem displays ↔ ∀ i d, displays[i]? = some d → d.isEnabled = true →
      P d.area.size (base + if enabledCount (displays.take i) < rem then 1 else 0)
  | rem, [] => by simp [EachShare]
  | rem, d :: ds => by
    have htake : ∀ i, enabledCount ((d :: ds).take (i + 1)) =
        enabledCount (ds.take i) + if d.isEnabled then 1 else 0 := by
      intro i
      rw [List.take_succ_cons, enabledCount, List.countP_cons]
      rfl
    -- the first display and the others
    have hsplit : (∀ i d', (d :: ds)[i]? = some d' → d'.isEnabled = true → P d'.area.size
          (base + if enabledCount ((d :: ds).take i) < rem then 1 else 0)) ↔
        (d.isEnabled = true → P d.area.size (base + if 0 < rem then 1 else 0)) ∧
          ∀ i d', ds[i]? = some d' → d'.isEnabled = true → P d'.area.size
            (base + if enabledCount (ds.take i) + (if d.isEnabled then 1 else 0) < rem
              then 1 else 0) := by
      constructor
      · intro h
        refine ⟨h 0 d rfl, fun i d' hd' hon => ?_⟩
        have := h (i + 1) d' hd' hon
        rwa [htake] at this
      · rintro ⟨hhead, htail⟩ i d' hd' hon
        cases i with
        | zero =>
          cases hd'
          exact hhead hon
        | succ i =>
          rw [htake]
          exact htail i d' hd' hon
    rw [hsplit, EachShare]
    cases hd : d.isEnabled with
    | false =>
      have ih : EachShare P base rem ds ↔ _ := eachShare_iff
      simp [ih]
    | true =>
      have hrem : ∀ k, (k + 1 < rem) ↔ k < rem - if rem > 0 then 1 else 0 := by
        intro k
        split <;> omega
      have ih : EachShare P base (rem - if rem > 0 then 1 else 0) ds ↔ _ := eachShare_iff
      simp only [if_true, true_imp_iff, hrem, ih, gt_iff_lt]

/-- Where every share fits, no build differs from another. -/
theorem partitionEachIn_of_cutsFit (o : Overflow) {base : Nat} (hb : 0 < base) :
    ∀ {rem : Nat} {displays : List Display}, EachShare CutsFit base rem displays →
      partitionEachIn o base rem displays = partitionEach base rem displays
  | _, [], _ => rfl
  | rem, d :: ds, h => by
    unfold EachShare at h
    cases hd : d.isEnabled with
    | false =>
      simp only [hd, Bool.false_eq_true, if_false] at h
      simp only [partitionEachIn, partitionEach, hd, partitionEachIn_of_cutsFit o hb h]
      rfl
    | true =>
      simp only [hd, if_true] at h
      obtain ⟨hfit, hrest⟩ := h
      simp only [partitionEachIn, partitionEach, hd, partitionEachIn_of_cutsFit o hb hrest,
        partitionIn_of_cutsFit o (by omega) hfit]
      rfl

/-- A build with checks gets through only when every share fits. -/
theorem cutsFit_of_partitionEachIn {base : Nat} (hb : 0 < base) :
    ∀ {rem : Nat} {displays : List Display} {areas : List (List Box2D)},
      partitionEachIn .panics base rem displays = some areas → EachShare CutsFit base rem displays
  | _, [], _, _ => trivial
  | rem, d :: ds, areas, h => by
    unfold partitionEachIn at h
    unfold EachShare
    generalize (if rem > 0 then 1 else 0) = extra at h ⊢
    cases hd : d.isEnabled with
    | false =>
      rw [hd] at h
      obtain ⟨rest, hrest, -⟩ := Option.map_eq_some_iff.mp h
      exact cutsFit_of_partitionEachIn hb hrest
    | true =>
      have hne : base + extra ≠ 0 := by omega
      simp only [hd, Bool.not_true, Bool.false_eq_true, if_false, if_neg hne] at h
      split at h
      · cases h
      · rename_i boxes hboxes
        obtain ⟨rest, hrest, -⟩ := Option.map_eq_some_iff.mp h
        refine ⟨cutsFit_of_partitionIn (by omega) ?_, cutsFit_of_partitionEachIn hb hrest⟩
        rw [hboxes]
        rfl

/-! ## What the result promises -/

/-- The numbers of boxes of the enabled displays, in order. -/
def enabledCounts (displays : List Display) (areas : List (List Box2D)) : List Nat :=
  ((displays.zip areas).filter fun da => da.1.isEnabled).map fun da => da.2.length

/-- `n` decoders shared out fairly: all of them, over the enabled displays only, the larger shares
first and none larger by more than one, and the boxes of each display disjoint and inside it. -/
structure Fair (displays : List Display) (n : Nat) (areas : List (List Box2D)) : Prop where
  length_eq : areas.length = displays.length
  disabled : ∀ da ∈ displays.zip areas, da.1.isEnabled = false → da.2 = []
  total : (areas.map List.length).sum = n
  even : (enabledCounts displays areas).Pairwise fun a b => b ≤ a ∧ a ≤ b + 1
  inside : ∀ da ∈ displays.zip areas, ∀ b ∈ da.2, Inside da.1.area.size b
  disjoint : ∀ da ∈ displays.zip areas, da.2.Pairwise Box2D.Disjoint

/-- The function returns, `Ok` exactly when there is an enabled display and a decoder for each,
and an `Ok` is fair. -/
structure Shares (displays : List Display) (n : Nat)
    (result : Option (Except PartitionError (List (List Box2D)))) : Prop where
  returns : result.isSome = true
  ok_iff : (∃ areas, result = some (.ok areas)) ↔
    0 < enabledCount displays ∧ n ≠ 0 ∧ enabledCount displays ≤ n
  fair : ∀ areas, result = some (.ok areas) → Fair displays n areas

/-- The first displays get one more than the others. -/
theorem enabledCounts_eq {base : Nat} (hb : 0 < base) : ∀ {rem : Nat} {displays : List Display}
    {areas : List (List Box2D)}, partitionEach base rem displays = some areas →
    enabledCounts displays areas =
        List.replicate (min rem (enabledCount displays)) (base + 1) ++
          List.replicate (enabledCount displays - rem) base ∧
      (areas.map List.length).sum = (enabledCounts displays areas).sum
  | rem, [], areas, h => by
    cases h
    exact ⟨by simp [enabledCounts, enabledCount], rfl⟩
  | rem, d :: ds, areas, h => by
    have hcons : enabledCount (d :: ds) = enabledCount ds + if d.isEnabled then 1 else 0 :=
      List.countP_cons
    rcases partitionEach_cons h with ⟨hd, rest, hrest, rfl⟩ | ⟨hd, boxes, rest, hboxes, hrest, rfl⟩
    · obtain ⟨hcounts, hsum⟩ := enabledCounts_eq hb hrest
      have hskip : enabledCounts (d :: ds) ([] :: rest) = enabledCounts ds rest := by
        simp [enabledCounts, hd]
      rw [hskip, hcons, hd]
      refine ⟨hcounts, ?_⟩
      rw [List.map_cons, List.sum_cons, hsum]
      exact Nat.zero_add _
    · obtain ⟨hcounts, hsum⟩ := enabledCounts_eq hb hrest
      have hlen := length_partition (by omega) hboxes
      have hhead : enabledCounts (d :: ds) (boxes :: rest) =
          boxes.length :: enabledCounts ds rest := by
        simp [enabledCounts, hd]
      refine ⟨?_, ?_⟩
      · rw [hhead, hcounts, hlen, hcons, hd]
        by_cases hrem : rem > 0
        · obtain ⟨r, rfl⟩ : ∃ r, rem = r + 1 := ⟨rem - 1, by omega⟩
          have hmin : min (r + 1) (enabledCount ds + 1) = min r (enabledCount ds) + 1 := by omega
          have hsub : enabledCount ds + 1 - (r + 1) = enabledCount ds - r := by omega
          simp only [if_pos hrem, if_true, Nat.add_sub_cancel, hmin, hsub, List.replicate_succ,
            List.cons_append]
        · obtain rfl : rem = 0 := by omega
          simp [List.replicate_succ]
      · rw [hhead, List.map_cons, List.sum_cons, List.sum_cons, hsum]

/-- The boxes of every display. -/
theorem boxes_of_partitionEach {base : Nat} (hb : 0 < base) : ∀ {rem : Nat}
    {displays : List Display} {areas : List (List Box2D)}, EachShare CutsFit base rem displays →
    partitionEach base rem displays = some areas → ∀ da ∈ displays.zip areas,
      (∀ b ∈ da.2, Inside da.1.area.size b) ∧ da.2.Pairwise Box2D.Disjoint
  | _, [], _, _, _, da, hda => nomatch hda
  | rem, d :: ds, areas, hfit, h, da, hda => by
    unfold EachShare at hfit
    rcases partitionEach_cons h with ⟨hd, rest, hrest, rfl⟩ | ⟨hd, boxes, rest, hboxes, hrest, rfl⟩
    · simp only [hd, Bool.false_eq_true, if_false] at hfit
      rcases List.mem_cons.mp hda with rfl | hda
      · exact ⟨(fun _ hb => nomatch hb), List.Pairwise.nil⟩
      · exact boxes_of_partitionEach hb hfit hrest da hda
    · simp only [hd, if_true] at hfit
      rcases List.mem_cons.mp hda with rfl | hda
      · exact ⟨inside_of_partition (by omega) hboxes,
          disjoint_of_partition (by omega) hfit.1 hboxes⟩
      · exact boxes_of_partitionEach hb hfit.2 hrest da hda

/-- Some shares of `base + 1` and then shares of `base` are even. -/
theorem pairwise_shares (base k m : Nat) :
    (List.replicate k (base + 1) ++ List.replicate m base).Pairwise
      fun a b => b ≤ a ∧ a ≤ b + 1 := by
  refine List.pairwise_append.mpr ⟨?_, ?_, ?_⟩
  · exact List.pairwise_replicate.mpr (Or.inr ⟨by omega, by omega⟩)
  · exact List.pairwise_replicate.mpr (Or.inr ⟨by omega, by omega⟩)
  · intro a ha b hb
    rw [List.eq_of_mem_replicate ha, List.eq_of_mem_replicate hb]
    exact ⟨by omega, by omega⟩

/-- **The shares are fair** where every cut position fits. -/
theorem fair_of_partitionEach {displays : List Display} {n : Nat} {areas : List (List Box2D)}
    (h₀ : 0 < enabledCount displays) (hn : enabledCount displays ≤ n)
    (hfit : EachShare CutsFit (n / enabledCount displays) (n % enabledCount displays) displays)
    (h : partitionEach (n / enabledCount displays) (n % enabledCount displays) displays =
      some areas) : Fair displays n areas := by
  have hb : 0 < n / enabledCount displays := Nat.div_pos hn h₀
  have hlt := Nat.mod_lt n h₀
  obtain ⟨areas', ha, hlen⟩ := partitionEach_length hb (n % enabledCount displays) displays
  rw [h] at ha
  cases ha
  obtain ⟨hcounts, hsum⟩ := enabledCounts_eq hb h
  have hboxes := boxes_of_partitionEach hb hfit h
  refine ⟨hlen, partitionEach_disabled h, ?_, ?_, fun da hda => (hboxes da hda).1,
    fun da hda => (hboxes da hda).2⟩
  · -- `r` shares of `q + 1` and `e - r` of `q` are `e * q + r`
    rw [hsum, hcounts, List.sum_append, List.sum_replicate_nat, List.sum_replicate_nat,
      Nat.min_eq_left hlt.le, Nat.mul_add, Nat.mul_one, Nat.add_right_comm, ← Nat.add_mul,
      Nat.add_sub_cancel' hlt.le]
    exact Nat.div_add_mod n (enabledCount displays)
  · rw [hcounts]
    exact pairwise_shares _ _ _

/-- The share of the display at an index. -/
def share (displays : List Display) (n i : Nat) : Nat :=
  n / enabledCount displays +
    if enabledCount (displays.take i) < n % enabledCount displays then 1 else 0

/-- **`partition_displays` shares the decoders out fairly**, in builds with and without overflow
checks, exactly when there is nothing to share or the cut positions of every enabled display, laid
out for its share, fit 64 bits. -/
theorem partitionDisplays_fair_iff (displays : List Display) (n : Nat) :
    (∀ o, Shares displays n (partitionDisplaysIn o displays n)) ↔
      (0 < enabledCount displays → enabledCount displays ≤ n →
        ∀ i d, displays[i]? = some d → d.isEnabled = true →
          CutsFit d.area.size (share displays n i)) := by
  by_cases h₀ : enabledCount displays = 0
  · refine ⟨fun _ h => by omega, fun _ o => ?_⟩
    have hres : partitionDisplaysIn o displays n = some (.error .noEnabledDisplays) := by
      rw [partitionDisplaysIn, if_pos h₀]
    rw [hres]
    exact ⟨rfl, ⟨(fun ⟨_, h⟩ => nomatch h), fun h => by omega⟩, fun _ h => nomatch h⟩
  by_cases hn : enabledCount displays ≤ n
  · have hres : ∀ o, partitionDisplaysIn o displays n =
        (partitionEachIn o (n / enabledCount displays) (n % enabledCount displays) displays).map
          .ok := by
      intro o
      rw [partitionDisplaysIn, if_neg h₀, if_neg (by omega), if_neg (by omega)]
    have hb : 0 < n / enabledCount displays := Nat.div_pos hn (by omega)
    have hcond : (0 < enabledCount displays → enabledCount displays ≤ n →
        ∀ i d, displays[i]? = some d → d.isEnabled = true →
          CutsFit d.area.size (share displays n i)) ↔
        EachShare CutsFit (n / enabledCount displays) (n % enabledCount displays) displays := by
      rw [eachShare_iff]
      exact ⟨fun h => h (by omega) hn, fun h _ _ => h⟩
    rw [hcond]
    constructor
    · intro h
      obtain ⟨areas, hareas⟩ := (h .panics).ok_iff.mpr ⟨by omega, by omega, hn⟩
      rw [hres .panics] at hareas
      obtain ⟨areas', heach, -⟩ := Option.map_eq_some_iff.mp hareas
      exact cutsFit_of_partitionEachIn hb heach
    · intro hfit o
      obtain ⟨areas, heach, -⟩ := partitionEach_length hb (n % enabledCount displays) displays
      rw [hres o, partitionEachIn_of_cutsFit o hb hfit, heach]
      refine ⟨rfl, ⟨fun _ => ⟨by omega, by omega, hn⟩, fun _ => ⟨areas, rfl⟩⟩, ?_⟩
      intro areas' h
      cases h
      exact fair_of_partitionEach (by omega) hn hfit heach
  · refine ⟨fun _ _ h => absurd h hn, fun _ o => ?_⟩
    obtain ⟨e, he⟩ : ∃ e, partitionDisplaysIn o displays n = some (.error e) := by
      rw [partitionDisplaysIn, if_neg h₀]
      split
      · exact ⟨_, rfl⟩
      · rw [if_pos (by omega)]
        exact ⟨_, rfl⟩
    rw [he]
    exact ⟨rfl, ⟨(fun ⟨_, h⟩ => nomatch h), fun h => absurd h.2.2 hn⟩, fun _ h => nomatch h⟩

/-- No display is given more than all decoders. -/
theorem share_le {displays : List Display} (h₀ : 0 < enabledCount displays) (n i : Nat) :
    share displays n i ≤ n := by
  have hdiv := Nat.div_add_mod n (enabledCount displays)
  have hle : n / enabledCount displays ≤ enabledCount displays * (n / enabledCount displays) :=
    Nat.le_mul_of_pos_left _ h₀
  unfold share
  split <;> omega

/-- The sides of an enabled display have 16 bits, as those that `set_displays` returns. -/
def Display.SidesFit (d : Display) : Prop :=
  d.isEnabled = true → d.area.size.width < 2 ^ 16 ∧ d.area.size.height < 2 ^ 16

/-- **`partition_displays` shares the decoders out fairly**: in every build, for displays whose
enabled sides have 16 bits and a decoder count of 32 bits. -/
theorem partitionDisplays_fair (displays : List Display) (hsides : ∀ d ∈ displays, d.SidesFit)
    (n : Nat) (hn : n < 2 ^ 32) (o : Overflow) :
    Shares displays n (partitionDisplaysIn o displays n) := by
  refine (partitionDisplays_fair_iff displays n).mpr (fun h₀ _ i d hd hen => ?_) o
  obtain ⟨hwidth, hheight⟩ := hsides d (List.mem_of_getElem? hd) hen
  have hshare : share displays n i < 2 ^ 32 := lt_of_le_of_lt (share_le h₀ n i) hn
  have hmul : ∀ side, side < 2 ^ 16 → side * share displays n i < 2 ^ 64 := fun side hside =>
    calc side * share displays n i ≤ 2 ^ 16 * 2 ^ 32 := Nat.mul_le_mul hside.le hshare.le
      _ < 2 ^ 64 := by decide
  exact cutsFit_of_mul_lt (hmul _ hwidth) (hmul _ hheight)

/-- A display that is off between two that are on, and five decoders: three and two. -/
theorem partitionDisplays_fair_five :
    Shares [⟨⟨⟨0, 0⟩, ⟨1920, 1080⟩⟩, true⟩, ⟨⟨⟨0, 0⟩, ⟨0, 0⟩⟩, false⟩,
        ⟨⟨⟨1920, 0⟩, ⟨1280, 720⟩⟩, true⟩] 5
      (partitionDisplaysIn .panics [⟨⟨⟨0, 0⟩, ⟨1920, 1080⟩⟩, true⟩, ⟨⟨⟨0, 0⟩, ⟨0, 0⟩⟩, false⟩,
        ⟨⟨⟨1920, 0⟩, ⟨1280, 720⟩⟩, true⟩] 5) :=
  partitionDisplays_fair _ (by unfold Display.SidesFit; decide) 5 (by decide) .panics

end ApertureC
