import Mathlib.Data.List.Basic
import Mathlib.Logic.Function.Basic

/-!
# One stream split over several queues

Entries arrive in one order and wait in first-in-first-out queues, one for each kind of entry;
whoever handles them takes from the queues in an order of its own.  An entry has a position in the
order of arrival and a key, and entries of one key should be handled in the order of arrival.

* `State`, `arrive`, `taken` — the queues with the histories of what arrived and what was handled.
* `State.Wf` — what arrived was handled or waits in one queue; every queue is in order.
* `State.InOrder` — for every key, what was handled is what arrived first.
* `State.Oldest` — no older entry of the same key waits in another queue.

Principal results: `wf_arrive`, `wf_taken` and `inOrder_taken_iff` (**taking an entry keeps the
order exactly when it is the oldest of its key**).
-/

set_option autoImplicit false

namespace SplitStream

variable {κ ε ι : Type} [DecidableEq κ] [DecidableEq ι] {position : ε → Nat} {key : ε → ι}

structure State (κ ε : Type) where
  queue : κ → List ε
  received : List ε
  handled : List ε

/-- An entry arrives in the queue of its kind. -/
def arrive (s : State κ ε) (k : κ) (e : ε) : State κ ε :=
  ⟨Function.update s.queue k (s.queue k ++ [e]), s.received ++ [e], s.handled⟩

/-- The first entry of a queue has been taken and handled. -/
def taken (s : State κ ε) (k : κ) (e : ε) (rest : List ε) : State κ ε :=
  ⟨Function.update s.queue k rest, s.received, s.handled ++ [e]⟩

/-- The entries with a given key. -/
def ofKey (key : ε → ι) (i : ι) (es : List ε) : List ε := es.filter fun e => key e = i

/-- For every key, the entries handled are the ones that arrived first. -/
def State.InOrder (key : ε → ι) (s : State κ ε) : Prop :=
  ∀ i, ofKey key i s.handled <+: ofKey key i s.received

/-- No older entry of the same key waits in a queue other than `k`. -/
def State.Oldest (position : ε → Nat) (key : ε → ι) (s : State κ ε) (k : κ) (e : ε) : Prop :=
  ∀ k', k' ≠ k → ∀ e' ∈ s.queue k', key e' = key e → position e < position e'

/-- Everything that arrived was handled once or waits once, in order of arrival. -/
structure State.Wf (position : ε → Nat) (s : State κ ε) : Prop where
  positions : ∀ e ∈ s.received, position e < s.received.length
  sorted : s.received.Pairwise fun a b => position a < position b
  queues : ∀ k, (s.queue k).Pairwise fun a b => position a < position b
  mem : ∀ e, e ∈ s.received ↔ e ∈ s.handled ∨ ∃ k, e ∈ s.queue k
  waiting : ∀ k, ∀ e ∈ s.queue k, e ∉ s.handled
  one : ∀ k k', ∀ e ∈ s.queue k, e ∈ s.queue k' → k = k'

theorem mem_ofKey {i : ι} {e : ε} {es : List ε} : e ∈ ofKey key i es ↔ e ∈ es ∧ key e = i := by
  simp [ofKey]

theorem ofKey_append (i : ι) (es es' : List ε) :
    ofKey key i (es ++ es') = ofKey key i es ++ ofKey key i es' :=
  List.filter_append _ _

theorem ofKey_singleton_self (e : ε) : ofKey key (key e) [e] = [e] := by
  simp [ofKey]

theorem ofKey_singleton_of_ne {i : ι} {e : ε} (h : key e ≠ i) : ofKey key i [e] = [] := by
  simp [ofKey, h]

omit [DecidableEq κ] in
theorem wf_nil : (State.mk (fun _ : κ => ([] : List ε)) [] []).Wf position where
  positions := by simp
  sorted := List.Pairwise.nil
  queues _ := List.Pairwise.nil
  mem := by simp
  waiting := by simp
  one := by simp

/-- An entry that arrives last keeps everything in place. -/
theorem wf_arrive {s : State κ ε} (h : s.Wf position) (k : κ) {e : ε}
    (he : position e = s.received.length) : (arrive s k e).Wf position := by
  have hnew : e ∉ s.received := fun hmem => by
    have := h.positions e hmem
    omega
  have hnotq : ∀ k', e ∉ s.queue k' := fun k' hmem => hnew ((h.mem e).mpr (Or.inr ⟨k', hmem⟩))
  have hqueue : ∀ k' e', e' ∈ (arrive s k e).queue k' ↔ e' ∈ s.queue k' ∨ (k' = k ∧ e' = e) := by
    intro k' e'
    by_cases hk : k' = k
    · subst hk
      simp [arrive]
    · simp [arrive, hk]
  constructor
  · intro e' he'
    simp only [arrive, List.length_append, List.length_singleton] at he' ⊢
    rcases List.mem_append.mp he' with hmem | hmem
    · have := h.positions e' hmem
      omega
    · rw [List.mem_singleton.mp hmem]
      omega
  · refine List.pairwise_append.mpr ⟨h.sorted, List.pairwise_singleton _ _, ?_⟩
    intro a ha b hb
    rw [List.mem_singleton.mp hb, he]
    exact h.positions a ha
  · intro k'
    by_cases hk : k' = k
    · subst hk
      simp only [arrive, Function.update_self]
      refine List.pairwise_append.mpr ⟨h.queues k', List.pairwise_singleton _ _, ?_⟩
      intro a ha b hb
      rw [List.mem_singleton.mp hb, he]
      exact h.positions a ((h.mem a).mpr (Or.inr ⟨k', ha⟩))
    · simp only [arrive, Function.update_of_ne hk]
      exact h.queues k'
  · intro e'
    have hold := h.mem e'
    constructor
    · intro hmem
      rcases List.mem_append.mp hmem with hmem | hmem
      · rcases hold.mp hmem with hh | ⟨k', hk'⟩
        · exact Or.inl hh
        · exact Or.inr ⟨k', (hqueue k' e').mpr (Or.inl hk')⟩
      · exact Or.inr ⟨k, (hqueue k e').mpr (Or.inr ⟨rfl, List.mem_singleton.mp hmem⟩)⟩
    · rintro (hh | ⟨k', hk'⟩)
      · exact List.mem_append_left _ (hold.mpr (Or.inl hh))
      · rcases (hqueue k' e').mp hk' with hq | ⟨-, rfl⟩
        · exact List.mem_append_left _ (hold.mpr (Or.inr ⟨k', hq⟩))
        · exact List.mem_append_right _ (List.mem_singleton_self _)
  · intro k' e' hk' hh
    rcases (hqueue k' e').mp hk' with hq | ⟨-, rfl⟩
    · exact h.waiting k' e' hq hh
    · exact hnew ((h.mem e').mpr (Or.inl hh))
  · intro k₁ k₂ e' h₁ h₂
    rcases (hqueue k₁ e').mp h₁ with hq₁ | ⟨rfl, rfl⟩
    · rcases (hqueue k₂ e').mp h₂ with hq₂ | ⟨rfl, rfl⟩
      · exact h.one k₁ k₂ e' hq₁ hq₂
      · exact absurd hq₁ (hnotq k₁)
    · rcases (hqueue k₂ e').mp h₂ with hq₂ | ⟨rfl, -⟩
      · exact absurd hq₂ (hnotq k₂)
      · rfl

theorem inOrder_arrive {s : State κ ε} (h : s.InOrder key) (k : κ) (e : ε) :
    (arrive s k e).InOrder key := by
  intro i
  simp only [arrive, ofKey_append]
  exact (h i).trans (List.prefix_append _ _)

omit [DecidableEq κ] in
theorem not_mem_rest {s : State κ ε} (h : s.Wf position) {k : κ} {e : ε} {rest : List ε}
    (hq : s.queue k = e :: rest) : e ∉ rest := by
  intro hmem
  have hsorted := h.queues k
  rw [hq] at hsorted
  exact Nat.lt_irrefl _ ((List.pairwise_cons.mp hsorted).1 e hmem)

/-- Taking the first entry of a queue keeps everything in place. -/
theorem wf_taken {s : State κ ε} (h : s.Wf position) {k : κ} {e : ε} {rest : List ε}
    (hq : s.queue k = e :: rest) : (taken s k e rest).Wf position := by
  have hsub : ∀ k' e', e' ∈ (taken s k e rest).queue k' → e' ∈ s.queue k' ∧ e' ≠ e := by
    intro k' e' he'
    by_cases hk : k' = k
    · subst hk
      simp only [taken, Function.update_self] at he'
      refine ⟨by rw [hq]; exact List.mem_cons_of_mem _ he', ?_⟩
      rintro rfl
      exact not_mem_rest h hq he'
    · simp only [taken, Function.update_of_ne hk] at he'
      refine ⟨he', ?_⟩
      rintro rfl
      exact hk (h.one k' k e' he' (by rw [hq]; exact List.mem_cons_self))
  have hback : ∀ k' e', e' ∈ s.queue k' → e' ≠ e → e' ∈ (taken s k e rest).queue k' := by
    intro k' e' he' hne
    by_cases hk : k' = k
    · subst hk
      rw [hq] at he'
      simp only [taken, Function.update_self]
      exact (List.mem_cons.mp he').resolve_left hne
    · simpa only [taken, Function.update_of_ne hk] using he'
  constructor
  · exact h.positions
  · exact h.sorted
  · intro k'
    by_cases hk : k' = k
    · subst hk
      have hsorted := h.queues k'
      rw [hq] at hsorted
      simpa only [taken, Function.update_self] using (List.pairwise_cons.mp hsorted).2
    · simpa only [taken, Function.update_of_ne hk] using h.queues k'
  · intro e'
    have hold : e' ∈ (taken s k e rest).received ↔ _ := h.mem e'
    rw [hold]
    simp only [taken, List.mem_append, List.mem_singleton]
    constructor
    · rintro (hh | ⟨k', hk'⟩)
      · exact Or.inl (Or.inl hh)
      · by_cases hne : e' = e
        · exact Or.inl (Or.inr hne)
        · exact Or.inr ⟨k', hback k' e' hk' hne⟩
    · rintro ((hh | rfl) | ⟨k', hk'⟩)
      · exact Or.inl hh
      · exact Or.inr ⟨k, by rw [hq]; exact List.mem_cons_self⟩
      · exact Or.inr ⟨k', (hsub k' e' hk').1⟩
  · intro k' e' he' hh
    obtain ⟨hmem, hne⟩ := hsub k' e' he'
    rcases List.mem_append.mp hh with hh | hh
    · exact h.waiting k' e' hmem hh
    · exact hne (List.mem_singleton.mp hh)
  · intro k₁ k₂ e' h₁ h₂
    exact h.one k₁ k₂ e' (hsub k₁ e' h₁).1 (hsub k₂ e' h₂).1

omit [DecidableEq κ] in
/-- What follows the handled entries of a key in the order of arrival waits in a queue. -/
theorem mem_rest_iff {s : State κ ε} (h : s.Wf position) {i : ι} {rest : List ε}
    (hrest : ofKey key i s.handled ++ rest = ofKey key i s.received) {e : ε} :
    e ∈ rest ↔ key e = i ∧ ∃ k, e ∈ s.queue k := by
  have hsorted : (ofKey key i s.handled ++ rest).Pairwise fun a b => position a < position b := by
    rw [hrest]
    exact h.sorted.filter _
  have hdisj := (List.pairwise_append.mp hsorted).2.2
  constructor
  · intro he
    have hmem : e ∈ ofKey key i s.received := by
      rw [← hrest]
      exact List.mem_append_right _ he
    obtain ⟨hrec, hkey⟩ := mem_ofKey.mp hmem
    refine ⟨hkey, ((h.mem e).mp hrec).resolve_left fun hh => ?_⟩
    exact Nat.lt_irrefl _ (hdisj e (mem_ofKey.mpr ⟨hh, hkey⟩) e he)
  · rintro ⟨hkey, k, hq⟩
    have hmem : e ∈ ofKey key i s.handled ++ rest := by
      rw [hrest]
      exact mem_ofKey.mpr ⟨(h.mem e).mpr (Or.inr ⟨k, hq⟩), hkey⟩
    refine (List.mem_append.mp hmem).resolve_left fun hh => ?_
    exact h.waiting k e hq (mem_ofKey.mp hh).1

/-- **Taking an entry keeps the order exactly when no older entry of its key waits elsewhere.** -/
theorem inOrder_taken_iff {s : State κ ε} (h : s.Wf position) (hin : s.InOrder key) {k : κ} {e : ε}
    {rest : List ε} (hq : s.queue k = e :: rest) :
    (taken s k e rest).InOrder key ↔ s.Oldest position key k e := by
  have hother : (taken s k e rest).InOrder key ↔
      ofKey key (key e) s.handled ++ [e] <+: ofKey key (key e) s.received := by
    constructor
    · intro h'
      have := h' (key e)
      simpa only [taken, ofKey_append, ofKey_singleton_self] using this
    · intro h' i
      simp only [taken, ofKey_append]
      by_cases hi : key e = i
      · subst hi
        rwa [ofKey_singleton_self]
      · rw [ofKey_singleton_of_ne hi, List.append_nil]
        exact hin i
  rw [hother]
  obtain ⟨left, hleft⟩ := hin (key e)
  have hmem : e ∈ left := (mem_rest_iff h hleft).mpr ⟨rfl, k, by rw [hq]; exact List.mem_cons_self⟩
  have hsorted : left.Pairwise fun a b => position a < position b := by
    have : (ofKey key (key e) s.handled ++ left).Pairwise fun a b => position a < position b := by
      rw [hleft]
      exact h.sorted.filter _
    exact (List.pairwise_append.mp this).2.1
  rw [← hleft, List.prefix_append_right_inj]
  cases left with
  | nil => cases hmem
  | cons e₀ left =>
    obtain ⟨hfirst, -⟩ := List.pairwise_cons.mp hsorted
    constructor
    · -- the first of the rest is the entry taken, so everything else is younger
      intro hpre k' hk' e' he' hkey
      obtain rfl : e = e₀ := by simpa using hpre
      have hin' : e' ∈ e :: left := (mem_rest_iff h hleft).mpr ⟨hkey, k', he'⟩
      rcases List.mem_cons.mp hin' with rfl | hin'
      · exact absurd (h.one k' k e' he' (by rw [hq]; exact List.mem_cons_self)) hk'
      · exact hfirst e' hin'
    · intro hold
      rcases List.mem_cons.mp hmem with rfl | hlater
      · simp
      · -- an older entry would be first in its queue, or wait in another one
        obtain ⟨hkey, k', hk'⟩ := (mem_rest_iff h hleft).mp (List.mem_cons_self (a := e₀))
        have holder := hfirst e hlater
        by_cases hkk : k' = k
        · subst hkk
          rw [hq] at hk'
          have hqs := h.queues k'
          rw [hq] at hqs
          rcases List.mem_cons.mp hk' with rfl | hk'
          · omega
          · have := (List.pairwise_cons.mp hqs).1 e₀ hk'
            omega
        · have := hold k' hkk e₀ hk' hkey
          omega

end SplitStream
