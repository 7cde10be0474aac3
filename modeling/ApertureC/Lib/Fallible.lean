import Mathlib.Logic.Relation

/-!
# Computations that may fail

A computation on states may fail, and it changes the state either way: what it did before it failed
stays done.

* `Fallible`, with `fail`, `guard`, `ofOption` and `attempt` — the computations and their monad.
* `Fallible.Moves` — what a computation does to the state, however it ends.

Principal results: `bind_eq_some` (a sequence succeeds through its parts) and the rules of `Moves`:
what every part does, the sequence does.
-/

set_option autoImplicit false

/-- A computation on states `σ` that yields an `α` or fails. -/
def Fallible (σ α : Type) : Type := σ → Option α × σ

namespace Fallible

variable {σ α β : Type}

instance : Monad (Fallible σ) where
  pure a := fun s => (some a, s)
  bind p f := fun s =>
    match p s with
    | (some a, s') => f a s'
    | (none, s') => (none, s')

def fail : Fallible σ α := fun s => (none, s)

def ofOption (a : Option α) : Fallible σ α := fun s => (a, s)

def guard (p : Prop) [Decidable p] : Fallible σ Unit := if p then pure () else fail

/-- The computation, with its failure as a result. -/
def attempt (p : Fallible σ α) : Fallible σ (Option α) := fun s => (some (p s).1, (p s).2)

@[simp] theorem pure_run (a : α) (s : σ) : (pure a : Fallible σ α) s = (some a, s) := rfl

@[simp] theorem fail_run (s : σ) : (fail : Fallible σ α) s = (none, s) := rfl

@[simp] theorem ofOption_run (a : Option α) (s : σ) : ofOption a s = (a, s) := rfl

@[simp] theorem attempt_run (p : Fallible σ α) (s : σ) : attempt p s = (some (p s).1, (p s).2) :=
  rfl

theorem bind_run_some {p : Fallible σ α} {s s' : σ} {a : α} (h : p s = (some a, s'))
    (f : α → Fallible σ β) : (p >>= f) s = f a s' := by
  change (match p s with | (some a, s') => f a s' | (none, s') => (none, s')) = _
  rw [h]

theorem bind_run_none {p : Fallible σ α} {s s' : σ} (h : p s = (none, s'))
    (f : α → Fallible σ β) : (p >>= f) s = (none, s') := by
  change (match p s with | (some a, s') => f a s' | (none, s') => (none, s')) = _
  rw [h]

/-- A sequence succeeds through its parts. -/
theorem bind_eq_some {p : Fallible σ α} {f : α → Fallible σ β} {s t : σ} {b : β} :
    (p >>= f) s = (some b, t) ↔ ∃ a s', p s = (some a, s') ∧ f a s' = (some b, t) := by
  rcases h : p s with ⟨_ | a, s'⟩
  · rw [bind_run_none h]
    simp
  · rw [bind_run_some h]
    constructor
    · intro hf
      exact ⟨a, s', rfl, hf⟩
    · rintro ⟨a', s'', hs, hf⟩
      cases hs
      exact hf

/-- A sequence fails in its first part or in its second. -/
theorem bind_eq_none {p : Fallible σ α} {f : α → Fallible σ β} {s t : σ} :
    (p >>= f) s = (none, t) ↔
      p s = (none, t) ∨ ∃ a s', p s = (some a, s') ∧ f a s' = (none, t) := by
  rcases h : p s with ⟨_ | a, s'⟩
  · rw [bind_run_none h]
    simp
  · rw [bind_run_some h]
    constructor
    · intro hf
      exact Or.inr ⟨a, s', rfl, hf⟩
    · rintro (hp | ⟨a', s'', hs, hf⟩)
      · cases hp
      · cases hs
        exact hf

theorem ofOption_eq_some {a : Option α} {b : α} {s t : σ} :
    ofOption a s = (some b, t) ↔ a = some b ∧ s = t := by
  rw [ofOption_run, Prod.mk.injEq]

theorem guard_eq_some {p : Prop} [Decidable p] {s t : σ} {u : Unit} :
    guard p s = (some u, t) ↔ p ∧ s = t := by
  unfold guard
  split <;> rename_i h <;> simp [h]

/-! ## What a computation does to the state -/

/-- The computation takes every state to one related to it, whether it succeeds or not. -/
def Moves (R : σ → σ → Prop) (p : Fallible σ α) : Prop := ∀ s, R s (p s).2

section Moves

variable {R : σ → σ → Prop} (hrefl : ∀ s, R s s) (htrans : ∀ s t u, R s t → R t u → R s u)

include hrefl in
theorem Moves.pure (a : α) : Moves R (pure a : Fallible σ α) := fun s => hrefl s

include hrefl in
theorem Moves.fail : Moves R (fail : Fallible σ α) := fun s => hrefl s

include hrefl in
theorem Moves.ofOption (a : Option α) : Moves R (ofOption a : Fallible σ α) := fun s => hrefl s

include hrefl in
theorem Moves.guard (p : Prop) [Decidable p] : Moves R (guard p : Fallible σ Unit) := by
  unfold Fallible.guard
  split
  · exact Moves.pure hrefl ()
  · exact Moves.fail hrefl

theorem Moves.attempt {p : Fallible σ α} (h : Moves R p) : Moves R (attempt p) := h

include htrans in
/-- What both parts do, the sequence does. -/
theorem Moves.bind {p : Fallible σ α} {f : α → Fallible σ β} (hp : Moves R p)
    (hf : ∀ a, Moves R (f a)) : Moves R (p >>= f) := by
  intro s
  have hs := hp s
  rcases h : p s with ⟨_ | a, s'⟩ <;> rw [h] at hs
  · rw [bind_run_none h]
    exact hs
  · rw [bind_run_some h]
    exact htrans s s' _ hs (hf a s')

theorem Moves.ite {c : Prop} [Decidable c] {p q : Fallible σ α} (hp : Moves R p)
    (hq : Moves R q) : Moves R (if c then p else q) := by
  split
  · exact hp
  · exact hq

end Moves

end Fallible
