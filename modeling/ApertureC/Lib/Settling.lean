import ApertureC.Lib.Machine
import Mathlib.Algebra.BigOperators.Group.Finset.Basic
import Mathlib.Algebra.Order.BigOperators.Group.Finset
import Mathlib.Order.WellFounded

/-!
# Machines that come to rest

Some of the actions of a machine are its own: it takes them when it is left alone.  If they lower a
measure, the machine comes to rest.

* `Idle` — none of the machine's own actions is enabled.
* `Settles` — left alone, the machine comes to rest, and a property holds wherever it rests.
* `Sinks` — an invariant under which every own action lowers a measure.
* `sum_change`, `sum_le_sum_add` — sums of such measures.

Principal result: `Sinks.settles`.
-/

set_option autoImplicit false

namespace Machine

section Rest

variable {σ α τ : Type*} (step : σ → α → Option σ) (own : α → Prop)

/-- None of the machine's own actions is enabled. -/
def Idle (s : σ) : Prop := ∀ a, own a → step s a = none

/-- Left alone, the machine does not go on for ever, and `P` holds wherever it comes to rest. -/
structure Settles (P : σ → Prop) (s : σ) : Prop where
  finite : ∀ (states : ℕ → σ) (acts : ℕ → α), states 0 = s →
    ¬ ∀ n, own (acts n) ∧ step (states n) (acts n) = some (states (n + 1))
  reached : ∃ as t, (∀ a ∈ as, own a) ∧ run step s as = some t ∧ Idle step own t
  rest : ∀ as t, (∀ a ∈ as, own a) → run step s as = some t → Idle step own t → P t

/-- Own actions keep an invariant and lower a measure. -/
structure Sinks [LT τ] (I : σ → Prop) (work : σ → τ) : Prop where
  keep : ∀ s a s', I s → own a → step s a = some s' → I s'
  sink : ∀ s a s', I s → own a → step s a = some s' → work s' < work s

variable {step own} [LT τ] {I : σ → Prop} {work : σ → τ}

theorem Sinks.run (h : Sinks step own I work) :
    ∀ {as : List α} {s t : σ}, (∀ a ∈ as, own a) → run step s as = some t → I s → I t
  | [], s, t, _, hr, hs => by
    cases hr
    exact hs
  | a :: as, s, t, has, hr, hs => by
    obtain ⟨s', hs', hr'⟩ := run_cons_eq_some.mp hr
    have ha := has a List.mem_cons_self
    exact h.run (fun b hb => has b (List.mem_cons_of_mem _ hb)) hr' (h.keep s a s' hs ha hs')

variable [WellFoundedLT τ]

/-- Own actions do not go on for ever. -/
theorem Sinks.no_endless_run (h : Sinks step own I work) {states : ℕ → σ} {acts : ℕ → α}
    (h₀ : I (states 0)) :
    ¬ ∀ n, own (acts n) ∧ step (states n) (acts n) = some (states (n + 1)) := by
  intro hrun
  have hI : ∀ n, I (states n) := by
    intro n
    induction n with
    | zero => exact h₀
    | succ n ih => exact h.keep _ _ _ ih (hrun n).1 (hrun n).2
  obtain ⟨n, hn⟩ := WellFounded.not_rel_apply_succ (r := (· < ·)) fun n => work (states n)
  exact hn (h.sink _ _ _ (hI n) (hrun n).1 (hrun n).2)

/-- Left alone, the machine reaches an idle state. -/
theorem Sinks.exists_idle (h : Sinks step own I work) {s : σ} (hs : I s) :
    ∃ as t, (∀ a ∈ as, own a) ∧ Machine.run step s as = some t ∧ Idle step own t := by
  induction hw : work s using WellFoundedLT.induction generalizing s with
  | ind w ih =>
    by_cases hidle : Idle step own s
    · exact ⟨[], s, nofun, rfl, hidle⟩
    · unfold Idle at hidle
      push Not at hidle
      obtain ⟨a, ha, hne⟩ := hidle
      obtain ⟨s', hs'⟩ := Option.ne_none_iff_exists'.mp hne
      obtain ⟨as, t, has, hrun, hidle'⟩ :=
        ih (work s') (hw ▸ h.sink s a s' hs ha hs') (h.keep s a s' hs ha hs') rfl
      refine ⟨a :: as, t, fun b hb => ?_, by rw [run_cons_some hs', hrun], hidle'⟩
      rcases List.mem_cons.mp hb with rfl | hb
      · exact ha
      · exact has b hb

/-- **What sinks settles**, where the invariant gives the property in idle states. -/
theorem Sinks.settles (h : Sinks step own I work) {P : σ → Prop}
    (hidle : ∀ s, I s → Idle step own s → P s) {s : σ} (hs : I s) : Settles step own P s where
  finite _ _ h₀ := h.no_endless_run (h₀ ▸ hs)
  reached := h.exists_idle hs
  rest _ t has hr ht := hidle t (h.run has hr hs) ht

end Rest

/-! ## Sums of measures -/

/-- One term of a sum changes. -/
theorem sum_change {n i : ℕ} (hi : i < n) {f g : ℕ → ℕ} (h : ∀ j, j ≠ i → f j = g j) :
    ∑ j ∈ Finset.range n, f j + g i = ∑ j ∈ Finset.range n, g j + f i := by
  have hrest : ∑ j ∈ (Finset.range n).erase i, f j = ∑ j ∈ (Finset.range n).erase i, g j :=
    Finset.sum_congr rfl fun j hj => h j (Finset.ne_of_mem_erase hj)
  rw [← Finset.sum_erase_add _ f (Finset.mem_range.mpr hi),
    ← Finset.sum_erase_add _ g (Finset.mem_range.mpr hi), hrest]
  omega

/-- Every term grows by `c` at most. -/
theorem sum_le_sum_add {n c : ℕ} {f g : ℕ → ℕ} (h : ∀ j, f j ≤ g j + c) :
    ∑ j ∈ Finset.range n, f j ≤ ∑ j ∈ Finset.range n, g j + n * c := by
  calc ∑ j ∈ Finset.range n, f j ≤ ∑ j ∈ Finset.range n, (g j + c) :=
        Finset.sum_le_sum fun j _ => h j
    _ = ∑ j ∈ Finset.range n, g j + n * c := by
        rw [Finset.sum_add_distrib]
        simp

end Machine
