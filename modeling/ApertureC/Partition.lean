import ApertureC.Protocol
import Mathlib.Data.List.Basic

/-!
# Partitioning displays over encoders

`aperturec-graphics/src/partition.rs`.  `None` in a result type stands for a panic.

* `Partition.Layout`, `partition` — the grid with the lowest score, filled row by row up to the
  number of partitions.
* `partitionDisplays` — the decoders shared out over the enabled displays.

Principal results: `partition_isSome` (**`partition` never panics**: dividing by one row is always
a candidate) and `partitionDisplays_spec` (the displays are partitioned exactly when some display
is enabled and there is a decoder for each enabled one; nothing in it panics).
-/

set_option autoImplicit false

namespace ApertureC

open Geometry

inductive PartitionError where
  | moreDisplaysThanDecoders (displayCount maxDecoders : Nat)
  | noEnabledDisplays
  | maxDecoderCountZero
  deriving DecidableEq, Repr

namespace Partition

structure Layout where
  rows : Nat
  cols : Nat
  unused : Nat
  squareness : Nat
  deriving DecidableEq, Repr

def Layout.score (l : Layout) : Nat := l.unused * 10 + l.squareness

/-- The layout with this many rows, unless it has too few cells. -/
def candidate (maxPartitions rows : Nat) : Option Layout :=
  let cols := (maxPartitions + rows - 1) / rows
  let total := rows * cols
  if total < maxPartitions then none
  else some ⟨rows, cols, total - maxPartitions, ((rows : Int) - cols).natAbs⟩

/-- One iteration of the search: a layout replaces the best one when its score is lower. -/
def improve (maxPartitions : Nat) (best : Option Layout) (rows : Nat) : Option Layout :=
  match candidate maxPartitions rows with
  | none => best
  | some layout => if best.all fun b => layout.score < b.score then some layout else best

def best (maxPartitions : Nat) : Option Layout :=
  (List.range' 1 maxPartitions).foldl (improve maxPartitions) none

/-- `length * index / parts`, where the product wraps at 64 bits. -/
def cut (length index parts : Nat) : Nat := length * index % 2 ^ 64 / parts

def cell (resolution : Size) (l : Layout) (row col : Nat) : Box2D :=
  ⟨⟨cut resolution.width col l.cols, cut resolution.height row l.rows⟩,
   ⟨cut resolution.width (col + 1) l.cols, cut resolution.height (row + 1) l.rows⟩⟩

end Partition

/-- `partition`; the loops stop at the last partition asked for. -/
def partition (resolution : Size) (maxPartitions : Nat) : Option (List Box2D) :=
  (Partition.best maxPartitions).map fun layout =>
    ((List.range layout.rows).flatMap fun row =>
      (List.range layout.cols).map (Partition.cell resolution layout row)).take maxPartitions

/-- The areas of the displays in order; the first `rem` enabled ones get one partition more. -/
def partitionEach (base : Nat) : Nat → List Display → Option (List (List Box2D))
  | _, [] => some []
  | rem, d :: ds =>
    if !d.isEnabled then (partitionEach base rem ds).map ([] :: ·)
    else
      let extra := if rem > 0 then 1 else 0
      -- `NonZeroUsize::new(base + extra).unwrap()`
      if base + extra = 0 then none
      else
        match partition d.area.size (base + extra) with
        | none => none
        | some areas => (partitionEach base (rem - extra) ds).map (areas :: ·)

def enabledCount (displays : List Display) : Nat := displays.countP fun d => d.isEnabled

/-- `partition_displays` -/
def partitionDisplays (displays : List Display) (maxDecoderCount : Nat) :
    Option (Except PartitionError (List (List Box2D))) :=
  let enabled := enabledCount displays
  if enabled = 0 then some (.error .noEnabledDisplays)
  else if maxDecoderCount = 0 then some (.error .maxDecoderCountZero)
  else if enabled > maxDecoderCount then
    some (.error (.moreDisplaysThanDecoders enabled maxDecoderCount))
  else
    (partitionEach (maxDecoderCount / enabled) (maxDecoderCount % enabled) displays).map .ok

/-! ## No panic -/

namespace Partition

theorem improve_isSome {n : Nat} {b : Option Layout} (h : b.isSome) (rows : Nat) :
    (improve n b rows).isSome := by
  unfold improve
  split
  · exact h
  · split
    · rfl
    · exact h

theorem foldl_improve_isSome {n : Nat} : ∀ (rows : List Nat) {b : Option Layout}, b.isSome →
    (rows.foldl (improve n) b).isSome
  | [], _, h => h
  | r :: rows, _, h => foldl_improve_isSome rows (improve_isSome h r)

theorem improve_one_isSome (n : Nat) : (improve n none 1).isSome := by
  simp [improve, candidate]

theorem best_isSome {n : Nat} (h : 0 < n) : (best n).isSome := by
  cases n with
  | zero => cases h
  | succ k =>
    rw [best, List.range'_succ, List.foldl_cons]
    exact foldl_improve_isSome _ (improve_one_isSome _)

end Partition

/-- **`partition` never panics.** -/
theorem partition_isSome (resolution : Size) {n : Nat} (h : 0 < n) :
    (partition resolution n).isSome := by
  rw [partition, Option.isSome_map]
  exact Partition.best_isSome h

theorem partitionEach_length {base : Nat} (h : 0 < base) : ∀ (rem : Nat) (displays : List Display),
    ∃ areas, partitionEach base rem displays = some areas ∧ areas.length = displays.length
  | _, [] => ⟨[], rfl, rfl⟩
  | rem, d :: ds => by
    unfold partitionEach
    split
    · obtain ⟨areas, ha, hlen⟩ := partitionEach_length h rem ds
      exact ⟨[] :: areas, by rw [ha]; rfl, by simp [hlen]⟩
    · have hne : base + (if rem > 0 then 1 else 0) ≠ 0 := by omega
      obtain ⟨boxes, hb⟩ := Option.isSome_iff_exists.mp
        (partition_isSome d.area.size (Nat.pos_of_ne_zero hne))
      obtain ⟨areas, ha, hlen⟩ := partitionEach_length h (rem - if rem > 0 then 1 else 0) ds
      exact ⟨boxes :: areas, by simp only [if_neg hne, hb, ha, Option.map_some], by simp [hlen]⟩

/-- What the first display gets, and what is left for the others. -/
theorem partitionEach_cons {base rem : Nat} {d : Display} {ds : List Display}
    {areas : List (List Box2D)} (h : partitionEach base rem (d :: ds) = some areas) :
    (d.isEnabled = false ∧ ∃ rest, partitionEach base rem ds = some rest ∧ areas = [] :: rest) ∨
    (d.isEnabled = true ∧ ∃ boxes rest,
      partition d.area.size (base + if rem > 0 then 1 else 0) = some boxes ∧
      partitionEach base (rem - if rem > 0 then 1 else 0) ds = some rest ∧
      areas = boxes :: rest) := by
  unfold partitionEach at h
  generalize (if rem > 0 then 1 else 0) = extra at h ⊢
  cases hd : d.isEnabled with
  | false =>
    rw [hd] at h
    obtain ⟨rest, hrest, heq⟩ := Option.map_eq_some_iff.mp h
    exact Or.inl ⟨rfl, rest, hrest, heq.symm⟩
  | true =>
    right
    simp only [hd, Bool.not_true, Bool.false_eq_true, if_false] at h
    split at h
    · cases h
    · split at h
      · cases h
      · rename_i boxes hboxes
        obtain ⟨rest, hrest, heq⟩ := Option.map_eq_some_iff.mp h
        exact ⟨rfl, boxes, rest, hboxes, hrest, heq.symm⟩

/-- A disabled display gets no partition. -/
theorem partitionEach_disabled {base : Nat} : ∀ {rem : Nat} {displays : List Display}
    {areas : List (List Box2D)}, partitionEach base rem displays = some areas →
    ∀ da ∈ displays.zip areas, da.1.isEnabled = false → da.2 = []
  | _, [], _, _, da, hda, _ => nomatch hda
  | rem, d :: ds, areas, h, da, hda, hd => by
    rcases partitionEach_cons h with ⟨-, rest, hrest, rfl⟩ | ⟨hon, boxes, rest, -, hrest, rfl⟩
    · rcases List.mem_cons.mp hda with rfl | hda
      · rfl
      · exact partitionEach_disabled hrest da hda hd
    · rcases List.mem_cons.mp hda with rfl | hda
      · rw [show d.isEnabled = false from hd] at hon
        cases hon
      · exact partitionEach_disabled hrest da hda hd

/-- **When displays can be partitioned.** -/
theorem partitionDisplays_spec (displays : List Display) (n : Nat) :
    (0 < enabledCount displays ∧ enabledCount displays ≤ n ∧
      ∃ areas, partitionDisplays displays n = some (.ok areas) ∧
        areas.length = displays.length) ∨
    (¬ (0 < enabledCount displays ∧ enabledCount displays ≤ n) ∧
      ∃ e, partitionDisplays displays n = some (.error e)) := by
  by_cases h₀ : enabledCount displays = 0
  · exact Or.inr ⟨by omega, .noEnabledDisplays, by rw [partitionDisplays, if_pos h₀]⟩
  · by_cases h₁ : enabledCount displays ≤ n
    · left
      have hbase : 0 < n / enabledCount displays := Nat.div_pos h₁ (Nat.pos_of_ne_zero h₀)
      obtain ⟨areas, ha, hlen⟩ :=
        partitionEach_length hbase (n % enabledCount displays) displays
      refine ⟨Nat.pos_of_ne_zero h₀, h₁, areas, ?_, hlen⟩
      rw [partitionDisplays, if_neg h₀, if_neg (by omega), if_neg (by omega), ha, Option.map_some]
    · right
      refine ⟨by omega, ?_⟩
      rw [partitionDisplays, if_neg h₀]
      split
      · exact ⟨_, rfl⟩
      · rw [if_pos (by omega)]
        exact ⟨_, rfl⟩

/-- One entry for each display, and none for a disabled one. -/
theorem partitionDisplays_ok {displays : List Display} {n : Nat} {areas : List (List Box2D)}
    (h : partitionDisplays displays n = some (.ok areas)) :
    displays.length = areas.length ∧
      ∀ da ∈ displays.zip areas, da.1.isEnabled = false → da.2 = [] := by
  rcases partitionDisplays_spec displays n with ⟨h₀, h₁, areas', ha, hlen⟩ | ⟨-, e, he⟩
  · rw [ha] at h
    cases h
    refine ⟨hlen.symm, ?_⟩
    rw [partitionDisplays, if_neg (by omega), if_neg (by omega), if_neg (by omega)] at ha
    obtain ⟨areas', heach, hok⟩ := Option.map_eq_some_iff.mp ha
    cases hok
    exact partitionEach_disabled heach
  · rw [he] at h
    cases h

end ApertureC
