import Mathlib.Data.Finset.Max
import Mathlib.Data.Finset.Range
import Mathlib.Data.Finset.SDiff
import Mathlib.Tactic.Linarith

/-!
# Sets of integers kept as disjoint ranges

A range set is a finite set of naturals; `rangesLen` is the number of maximal runs of consecutive
elements, which is the number of elements whose successor is missing.

Principal result: `isInitial_iff` — a set that starts at `0` and has one range is an initial
segment, and conversely.
-/

set_option autoImplicit false

namespace RangeSet

/-- The number of maximal ranges. -/
def rangesLen (s : Finset Nat) : Nat := (s.filter fun x => x + 1 ∉ s).card

/-- The set starts at `0` and has one range. -/
def IsInitial (s : Finset Nat) : Prop := s.min = (0 : Nat) ∧ rangesLen s = 1

instance (s : Finset Nat) : Decidable (IsInitial s) :=
  inferInstanceAs (Decidable (s.min = (0 : Nat) ∧ rangesLen s = 1))

/-- Below the only element whose successor is missing there is no gap. -/
theorem mem_of_le {s : Finset Nat} {m : Nat} (h₀ : 0 ∈ s)
    (hm : ∀ x ∈ s, x + 1 ∉ s → x = m) : ∀ x, x ≤ m → x ∈ s
  | 0, _ => h₀
  | x + 1, hx => by
    have ih : x ∈ s := mem_of_le h₀ hm x (by omega)
    by_contra hno
    have := hm x ih hno
    omega

theorem rangesLen_range (m : Nat) : rangesLen (Finset.range (m + 1)) = 1 := by
  have hends : ((Finset.range (m + 1)).filter fun x => x + 1 ∉ Finset.range (m + 1)) = {m} := by
    ext x
    simp only [Finset.mem_filter, Finset.mem_range, Finset.mem_singleton]
    omega
  rw [rangesLen, hends, Finset.card_singleton]

/-- **One range from zero is an initial segment.** -/
theorem isInitial_iff (s : Finset Nat) : IsInitial s ↔ ∃ m, s = Finset.range (m + 1) := by
  unfold IsInitial rangesLen
  constructor
  · intro ⟨hmin, hone⟩
    have h₀ : 0 ∈ s := Finset.mem_of_min hmin
    obtain ⟨m, hm⟩ := Finset.card_eq_one.mp hone
    have hend : ∀ x, (x ∈ s ∧ x + 1 ∉ s) ↔ x = m := by
      intro x
      rw [← Finset.mem_singleton, ← hm, Finset.mem_filter]
    refine ⟨m, Finset.Subset.antisymm ?_ ?_⟩
    · intro x hx
      have hmax : s.max' ⟨x, hx⟩ = m := by
        refine (hend _).mp ⟨Finset.max'_mem _ _, fun hsucc => ?_⟩
        have := Finset.le_max' s _ hsucc
        omega
      have := Finset.le_max' s x hx
      rw [Finset.mem_range]
      omega
    · intro x hx
      rw [Finset.mem_range] at hx
      exact mem_of_le h₀ (fun x hx hno => (hend x).mp ⟨hx, hno⟩) x (by omega)
  · intro ⟨m, hm⟩
    subst hm
    refine ⟨?_, rangesLen_range m⟩
    refine le_antisymm (Finset.min_le (by simp)) ?_
    exact Finset.le_min fun x _ => WithTop.coe_le_coe.mpr (Nat.zero_le x)

end RangeSet
