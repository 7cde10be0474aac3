import Mathlib.Logic.Basic

/-!
# Runs of partial step functions

A machine is a step function `step : σ → α → Option σ`; `none` means that the action is not
enabled.  A run is a list of actions.

* `run` — execute a list of actions, failing on the first disabled one.
* `Reachable` — some run leads from one state to another.
* `Always` — a property holds in **every** state a run passes through, ends included.
* `Guarded` — every action of a run is taken in a state that satisfies a guard.
* `observe` — the machine together with a note of what it did so far.

Principal results: `Reachable.invariant` (an inductive invariant holds of every reachable
state), `Guarded.always` (an invariant that only guarded steps preserve holds all along a guarded
run) and `always_iff_guarded` (when the guard is exact for one step, it is exact for whole runs).
-/

set_option autoImplicit false

namespace Machine

variable {σ α : Type*} (step : σ → α → Option σ)

/-- Execute a list of actions in order. -/
def run (s : σ) : List α → Option σ
  | [] => some s
  | a :: as =>
    match step s a with
    | some s' => run s' as
    | none => none

/-- Some run leads from `s₀` to `s`. -/
def Reachable (s₀ s : σ) : Prop := ∃ as : List α, run step s₀ as = some s

/-- `P` holds in every state the run passes through. -/
def Always (P : σ → Prop) (s : σ) : List α → Prop
  | [] => P s
  | a :: as => P s ∧ ∀ s', step s a = some s' → Always P s' as

/-- Every action the run takes is taken in a state that allows it. -/
def Guarded (G : σ → α → Prop) (s : σ) : List α → Prop
  | [] => True
  | a :: as => ∀ s', step s a = some s' → G s a ∧ Guarded G s' as

theorem guarded_cons_iff {G : σ → α → Prop} {s s' : σ} {a : α} (h : step s a = some s')
    (as : List α) : Guarded step G s (a :: as) ↔ G s a ∧ Guarded step G s' as := by
  simp [Guarded, h]

instance decidableGuarded (G : σ → α → Prop) [∀ s a, Decidable (G s a)] :
    ∀ (as : List α) (s : σ), Decidable (Guarded step G s as)
  | [], _ => isTrue trivial
  | a :: as, s =>
    match h : step s a with
    | none => isTrue fun s' hs => by rw [h] at hs; cases hs
    | some s' =>
      have := decidableGuarded G as s'
      decidable_of_iff _ (guarded_cons_iff step h as).symm

variable {step}

@[simp] theorem run_nil (s : σ) : run step s [] = some s := rfl

theorem run_cons_some {s s' : σ} {a : α} (h : step s a = some s') (as : List α) :
    run step s (a :: as) = run step s' as := by
  simp [run, h]

theorem run_cons_eq_some {s t : σ} {a : α} {as : List α} :
    run step s (a :: as) = some t ↔ ∃ s', step s a = some s' ∧ run step s' as = some t := by
  cases h : step s a <;> simp [run, h]

theorem run_append {s t : σ} {as : List α} (h : run step s as = some t) (bs : List α) :
    run step s (as ++ bs) = run step t bs := by
  induction as generalizing s with
  | nil => cases h; rfl
  | cons a as ih =>
    obtain ⟨s', hs, hr⟩ := run_cons_eq_some.mp h
    rw [List.cons_append, run_cons_some hs, ih hr]

/-- A machine whose actions are always enabled carries every run out to its end. -/
theorem run_isSome (h : ∀ s a, (step s a).isSome = true) (as : List α) (s : σ) :
    ∃ t, run step s as = some t := by
  induction as generalizing s with
  | nil => exact ⟨s, rfl⟩
  | cons a as ih =>
    obtain ⟨s', hs⟩ := Option.isSome_iff_exists.mp (h s a)
    obtain ⟨t, ht⟩ := ih s'
    exact ⟨t, by rw [run_cons_some hs, ht]⟩

theorem Reachable.refl (s : σ) : Reachable step s s := ⟨[], rfl⟩

theorem Reachable.trans {s t u : σ} (h : Reachable step s t) (h' : Reachable step t u) :
    Reachable step s u := by
  obtain ⟨as, ha⟩ := h
  obtain ⟨bs, hb⟩ := h'
  exact ⟨as ++ bs, by rw [run_append ha, hb]⟩

theorem Reachable.head {s s' t : σ} {a : α} (h : step s a = some s') (h' : Reachable step s' t) :
    Reachable step s t := by
  obtain ⟨as, ha⟩ := h'
  exact ⟨a :: as, by rw [run_cons_some h, ha]⟩

theorem Reachable.tail {s t t' : σ} {a : α} (h : Reachable step s t) (h' : step t a = some t') :
    Reachable step s t' :=
  h.trans (Reachable.head h' (Reachable.refl t'))

/-- **Inductive invariants hold of every reachable state.** -/
theorem Reachable.invariant {I : σ → Prop} {s t : σ} (h : Reachable step s t) (h₀ : I s)
    (hstep : ∀ s a s', I s → step s a = some s' → I s') : I t := by
  obtain ⟨as, ha⟩ := h
  induction as generalizing s with
  | nil => cases ha; exact h₀
  | cons a as ih =>
    obtain ⟨s', hs, hr⟩ := run_cons_eq_some.mp ha
    exact ih (hstep s a s' h₀ hs) hr

/-- **An invariant that every step preserves holds all along every run.** -/
theorem always_of_invariant {I : σ → Prop} (hstep : ∀ s a s', I s → step s a = some s' → I s') :
    ∀ (as : List α) {s : σ}, I s → Always step I s as
  | [], _, h => h
  | a :: as, s, h => ⟨h, fun s' hs => always_of_invariant hstep as (hstep s a s' h hs)⟩

/-- What always holds holds at the start. -/
theorem Always.head {P : σ → Prop} : ∀ {as : List α} {s : σ}, Always step P s as → P s
  | [], _, h => h
  | _ :: _, _, h => h.1

theorem Always.mono {P Q : σ → Prop} (hPQ : ∀ s, P s → Q s) :
    ∀ {as : List α} {s : σ}, Always step P s as → Always step Q s as
  | [], s, h => hPQ s h
  | _ :: _, s, h => ⟨hPQ s h.1, fun s' hs => Always.mono hPQ (h.2 s' hs)⟩

/-- A run that completes ends in a state that satisfies what always holds. -/
theorem Always.last {P : σ → Prop} :
    ∀ {as : List α} {s t : σ}, Always step P s as → run step s as = some t → P t
  | [], s, t, h, hr => by cases hr; exact h
  | _ :: _, s, t, h, hr => by
    obtain ⟨s', hs, hr'⟩ := run_cons_eq_some.mp hr
    exact (h.2 s' hs).last hr'

/-- **An invariant that guarded steps preserve holds all along a guarded run.** -/
theorem Guarded.always {G : σ → α → Prop} {I : σ → Prop}
    (hstep : ∀ s a s', I s → G s a → step s a = some s' → I s') :
    ∀ {as : List α} {s : σ}, Guarded step G s as → I s → Always step I s as
  | [], _, _, h₀ => h₀
  | a :: _, s, hG, h₀ => by
    refine ⟨h₀, fun s' hs => ?_⟩
    obtain ⟨hg, hrest⟩ := hG s' hs
    exact Guarded.always hstep hrest (hstep s a s' h₀ hg hs)

/-- A run along which `P` holds is guarded, when the step that breaks the guard breaks `P`. -/
theorem Always.guarded {G : σ → α → Prop} {I P : σ → Prop}
    (hI : ∀ s a s', I s → step s a = some s' → I s')
    (hstep : ∀ s a s', I s → step s a = some s' → P s' → G s a) :
    ∀ {as : List α} {s : σ}, Always step P s as → I s → Guarded step G s as
  | [], _, _, _ => trivial
  | a :: _, s, h, hs => by
    intro s' h'
    have hrest := h.2 s' h'
    exact ⟨hstep s a s' hs h' hrest.head, Always.guarded hI hstep hrest (hI s a s' hs h')⟩

/-- **A guard that is exact for one step is exact for runs.**  `I` is an invariant of the
machine; under it one step keeps `P` exactly when the guard allows it. -/
theorem always_iff_guarded {G : σ → α → Prop} {I P : σ → Prop}
    (hI : ∀ s a s', I s → step s a = some s' → I s')
    (hstep : ∀ s a s', I s → P s → step s a = some s' → (P s' ↔ G s a)) :
    ∀ {as : List α} {s : σ}, I s → P s → (Always step P s as ↔ Guarded step G s as)
  | [], s, _, hP => by simp [Always, Guarded, hP]
  | a :: as, s, hIs, hP => by
    simp only [Always, Guarded, hP, true_and]
    refine forall_congr' fun s' => forall_congr' fun hs => ?_
    have hIs' := hI s a s' hIs hs
    constructor
    · intro h
      have hP' : P s' := h.head
      exact ⟨(hstep s a s' hIs hP hs).mp hP', (always_iff_guarded hI hstep hIs' hP').mp h⟩
    · rintro ⟨hg, hrest⟩
      have hP' : P s' := (hstep s a s' hIs hP hs).mpr hg
      exact (always_iff_guarded hI hstep hIs' hP').mpr hrest

/-- Properties that agree under an invariant hold all along the same runs. -/
theorem always_congr {I P Q : σ → Prop} (hI : ∀ s a s', I s → step s a = some s' → I s')
    (hPQ : ∀ s, I s → (P s ↔ Q s)) :
    ∀ (as : List α) {s : σ}, I s → (Always step P s as ↔ Always step Q s as)
  | [], s, hs => hPQ s hs
  | a :: as, s, hs => by
    simp only [Always, hPQ s hs]
    exact and_congr_right fun _ => forall_congr' fun s' => forall_congr' fun h =>
      always_congr hI hPQ as (hI s a s' hs h)

/-- A conjunction always holds exactly when its parts do. -/
theorem always_and {P Q : σ → Prop} :
    ∀ (as : List α) (s : σ), Always step (fun s => P s ∧ Q s) s as ↔
      Always step P s as ∧ Always step Q s as
  | [], s => Iff.rfl
  | a :: as, s => by
    simp only [Always, always_and as]
    constructor
    · rintro ⟨⟨hP, hQ⟩, h⟩
      exact ⟨⟨hP, fun s' hs => (h s' hs).1⟩, hQ, fun s' hs => (h s' hs).2⟩
    · rintro ⟨⟨hP, hP'⟩, hQ, hQ'⟩
      exact ⟨⟨hP, hQ⟩, fun s' hs => ⟨hP' s' hs, hQ' s' hs⟩⟩

/-! ## Observed machines -/

/-- The machine, with a note that every action is entered into. -/
def observe {τ : Type*} (step : σ → α → Option σ) (note : σ → α → τ → τ) (x : σ × τ) (a : α) :
    Option (σ × τ) :=
  (step x.1 a).map fun s' => (s', note x.1 a x.2)

theorem observe_eq_some {τ : Type*} {note : σ → α → τ → τ} {x y : σ × τ} {a : α} :
    observe step note x a = some y ↔ step x.1 a = some y.1 ∧ y.2 = note x.1 a x.2 := by
  obtain ⟨s', n'⟩ := y
  simp only [observe, Option.map_eq_some_iff, Prod.mk.injEq]
  constructor
  · rintro ⟨s₁, hs, rfl, rfl⟩
    exact ⟨hs, rfl⟩
  · rintro ⟨hs, rfl⟩
    exact ⟨s', hs, rfl, rfl⟩

/-- An observed machine goes through the states of the machine. -/
theorem always_observe {τ : Type*} {note : σ → α → τ → τ} {P : σ → Prop} :
    ∀ (as : List α) (x : σ × τ),
      Always (observe step note) (fun x => P x.1) x as ↔ Always step P x.1 as
  | [], _ => Iff.rfl
  | a :: as, x => by
    refine and_congr_right fun _ => ⟨fun h s' hs => ?_, fun h y hy => ?_⟩
    · exact (always_observe as (s', note x.1 a x.2)).mp (h _ (observe_eq_some.mpr ⟨hs, rfl⟩))
    · exact (always_observe as y).mpr (h _ (observe_eq_some.mp hy).1)

end Machine
