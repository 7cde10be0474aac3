import ApertureC.SessionLoop

/-!
# From the end of a session to its cleanup (`aperturec-server/src/server.rs`)

A handled event cancels the loop's own token, so that the cleanup is the next thing the loop does;
the `else` arm of the `select!` is reached when nothing is left to wait for.

* `Loop.Ready` — what has been ruled out when no branch polled so far is pending.
* `Loop.Inv` — the invariant of the loop, with the form of its log.

Principal results: `Loop.Inv.pollInactive` (**the inactivity receiver is not polled again**) and
`Moved.inv` (**every step keeps the invariant**).
-/

set_option autoImplicit false

namespace ApertureC.ServerSession

/-- The log of a session: the goodbye, if one was queued, and then the cancellation. -/
def logOf (queued : Option ServerGoodbyeReason) (cleanup : Bool) : List Entry :=
  (queued.map Entry.goodbye).toList ++ if cleanup then [.cancelTokens] else []

/-! ## The loop -/

namespace Loop

/-- What has been ruled out when no branch polled so far is pending. -/
def Ready (l : Loop) (drained : Bool) : Prop :=
  match l.pc with
  | .poll b false => (b = .cancelled ∨ l.cleanupStarted = true) ∧ (b = .backend → drained = true)
  | .poll _ true => True
  | .polled false => l.cleanupStarted = true ∧ drained = true ∧ l.backendResult.isSome = true
  | .polled true => True
  | .cancelTokens => True
  | .left => l.cleanupStarted = true ∧ drained = true ∧ l.backendResult.isSome = true

structure Inv (l : Loop) (drained : Bool) : Prop where
  reason : l.gbReason = l.reasons.head?
  started : l.cleanupStarted = true → l.ct = true
  fresh : l.cleanupStarted = false → l.ct = true →
    l.pc = .poll .cancelled false ∨ l.pc = .cancelTokens
  cancelling : l.pc = .cancelTokens → l.cleanupStarted = false ∧ l.ct = true
  off : ∀ b ∈ l.disabled, b = .inactive ∨ (b = .tasks ∧ drained = true)
  completed : l.inactiveDone = true → Branch.inactive ∈ l.disabled ∨ l.ct = true
  once : l.repolled = false
  said : ∃ queued, l.log = logOf queued l.cleanupStarted ∧
    (l.cleanupStarted = false → l.pc ≠ .cancelTokens → queued = none) ∧
    ∀ r, queued = some r → l.reasons.head? = some r
  ready : l.Ready drained

theorem inv_init (drained : Bool) : init.Inv drained where
  reason := rfl
  started := fun h => (nomatch h)
  fresh := fun _ h => (nomatch h)
  cancelling := fun h => (nomatch h)
  off := fun _ hb => (nomatch hb)
  completed := fun h => (nomatch h)
  once := rfl
  said := ⟨none, rfl, fun _ _ => rfl, fun _ hr => (nomatch hr)⟩
  ready := ⟨Or.inl rfl, fun h => (nomatch h)⟩

theorem not_disabled {l : Loop} {b : Branch} (h : l.enabled b = true) : b ∉ l.disabled := by
  rw [enabled, Bool.and_eq_true, Bool.not_eq_true', decide_eq_false_iff_not] at h
  exact h.2

theorem precondition_of_enabled {l : Loop} {b : Branch} (h : l.enabled b = true) :
    l.precondition b = true := (Bool.and_eq_true_iff.mp h).1

/-- A branch that is not enabled is disabled, or its condition does not hold. -/
theorem not_enabled {l : Loop} {b : Branch} (h : l.enabled b = false) :
    l.precondition b = false ∨ b ∈ l.disabled := by
  rw [enabled, Bool.and_eq_false_iff, Bool.not_eq_false', decide_eq_true_eq] at h
  exact h

variable {l l' : Loop} {drained : Bool}

/-- While another branch than `cancelled` is polled, the session goes on or the cleanup has
started. -/
theorem Inv.running (h : l.Inv drained) {b : Branch} {pending : Bool}
    (hpc : l.pc = .poll b pending) (hb : b ≠ .cancelled) (hc : l.cleanupStarted = false) :
    l.ct = false := by
  rw [← Bool.not_eq_true]
  intro hct
  rcases h.fresh hc hct with hp | hp <;> rw [hpc] at hp
  · cases hp
    exact hb rfl
  · cases hp

/-- **The inactivity receiver is not polled again after it has completed.** -/
theorem Inv.pollInactive (h : l.Inv drained) {pending : Bool}
    (hpc : l.pc = .poll .inactive pending) (he : l.enabled .inactive = true) :
    l.pollInactive = l := by
  have hdone : l.inactiveDone = false := by
    rw [← Bool.not_eq_true]
    intro hdone
    rcases h.completed hdone with hoff | hct
    · exact not_disabled he hoff
    · have hc : l.cleanupStarted = false := by
        simpa [precondition] using precondition_of_enabled he
      rw [h.running hpc (by decide) hc] at hct
      cases hct
  have hsame : (l.repolled || l.inactiveDone) = l.repolled := by rw [hdone, Bool.or_false]
  show ({ l with repolled := l.repolled || l.inactiveDone } : Loop) = l
  rw [hsame]

/-- The parts of the invariant that do not speak of the branch that is polled. -/
theorem Inv.poll (h : l.Inv drained) {b b' : Branch} {pending pending' : Bool}
    (hpc : l.pc = .poll b pending) {next : Pc} (hnext : next = .poll b' pending' ∨
      next = .polled pending')
    (hfresh : l.cleanupStarted = false → l.ct = false)
    (hready : ({ l with pc := next } : Loop).Ready drained) :
    ({ l with pc := next } : Loop).Inv drained := by
  have hne : next ≠ .cancelTokens := by
    rintro rfl
    rcases hnext with hn | hn <;> cases hn
  obtain ⟨queued, hlog, hnone, hhead⟩ := h.said
  refine ⟨h.reason, h.started, ?_, fun hp => absurd hp hne, h.off, h.completed, h.once,
    ⟨queued, hlog, fun hc _ => hnone hc ?_, hhead⟩, hready⟩
  · intro hc hct
    rw [show l.ct = true from hct] at hfresh
    cases hfresh hc
  · rw [hpc]
    exact fun hp => (nomatch hp)

/-- Passing on from a branch. -/
theorem Inv.pass (h : l.Inv drained) {b : Branch} {pending : Bool} (hpc : l.pc = .poll b pending)
    (hfresh : l.cleanupStarted = false → l.ct = false) {pending' : Bool}
    (hready : (l.pass b pending').Ready drained) : (l.pass b pending').Inv drained := by
  cases b with
  | backend =>
    have hnext : Pc.polled pending' = .poll .cancelled pending' ∨
        Pc.polled pending' = .polled pending' := Or.inr rfl
    exact h.poll hpc hnext hfresh hready
  | _ => exact h.poll hpc (Or.inl rfl) hfresh hready

theorem ready_pending (l : Loop) (b : Branch) : (l.pass b true).Ready drained := by
  cases b <;> exact trivial

/-! ### The steps of the loop -/

/-- A branch that is not enabled is passed over. -/
theorem Inv.skips (h : l.Inv drained) {b : Branch} {pending : Bool} (hpc : l.pc = .poll b pending)
    (he : l.enabled b = false) : (l.pass b pending).Inv drained := by
  have hcleanup : b ≠ .tasks → b ≠ .backend → b ∉ l.disabled → l.cleanupStarted = true := by
    intro ht hb hoff
    rcases not_enabled he with hp | hmem
    · cases b <;> first | exact absurd rfl ht | exact absurd rfl hb | simpa [precondition] using hp
    · exact absurd hmem hoff
  have hstart : b = .cancelled → l.cleanupStarted = true := by
    rintro rfl
    apply hcleanup (by decide) (by decide)
    intro hmem
    rcases h.off _ hmem with hb | ⟨hb, -⟩ <;> cases hb
  have hfresh : l.cleanupStarted = false → l.ct = false := by
    intro hc
    apply h.running hpc _ hc
    rintro rfl
    rw [hstart rfl] at hc
    cases hc
  apply h.pass hpc hfresh
  cases pending with
  | true => exact ready_pending l b
  | false =>
    have hready := h.ready
    rw [Ready, hpc] at hready
    have hclean : l.cleanupStarted = true := by
      rcases hready.1 with hb | hc
      · exact hstart hb
      · exact hc
    cases b with
    | cancelled => exact ⟨Or.inr hclean, fun hb => (nomatch hb)⟩
    | stopped => exact ⟨Or.inr hclean, fun hb => (nomatch hb)⟩
    | newSession => exact ⟨Or.inr hclean, fun hb => (nomatch hb)⟩
    | inactive => exact ⟨Or.inr hclean, fun hb => (nomatch hb)⟩
    | tasks =>
      refine ⟨Or.inr hclean, fun _ => ?_⟩
      rcases not_enabled he with hp | hmem
      · cases hp
      · rcases h.off _ hmem with hb | ⟨-, hd⟩
        · cases hb
        · exact hd
    | backend =>
      refine ⟨hclean, hready.2 rfl, ?_⟩
      rcases not_enabled he with hp | hmem
      · show l.backendResult.isSome = true
        rw [precondition, Option.isNone_eq_false_iff] at hp
        exact hp
      · rcases h.off _ hmem with hb | ⟨hb, -⟩ <;> cases hb

/-- A branch is pending. -/
theorem Inv.waits (h : l.Inv drained) {b : Branch} {pending : Bool} (hpc : l.pc = .poll b pending)
    (hb : b = .cancelled → l.ct = false) : (l.pass b true).Inv drained := by
  apply h.pass hpc _ (ready_pending l b)
  intro hc
  by_cases hbc : b = .cancelled
  · exact hb hbc
  · exact h.running hpc hbc hc

/-- The pattern of a branch does not match. -/
theorem Inv.disables (h : l.Inv drained) {b : Branch} {pending : Bool}
    (hpc : l.pc = .poll b pending) (hb : b = .inactive ∨ (b = .tasks ∧ drained = true))
    {done : Bool} (hdone : done = true → l.inactiveDone = true ∨ b = .inactive) :
    (({ l with inactiveDone := done }.disable b).pass b pending).Inv drained := by
  have hne : b ≠ .cancelled := by
    rintro rfl
    rcases hb with hb | ⟨hb, -⟩ <;> cases hb
  have hinv : ({ l with inactiveDone := done }.disable b).Inv drained := by
    refine ⟨h.reason, h.started, h.fresh, h.cancelling, ?_, ?_, h.once, h.said, h.ready⟩
    · intro b' hb'
      rcases List.mem_cons.mp hb' with rfl | hb'
      · exact hb
      · exact h.off b' hb'
    · intro hd
      rcases hdone hd with hold | rfl
      · rcases h.completed hold with hoff | hct
        · exact Or.inl (List.mem_cons_of_mem _ hoff)
        · exact Or.inr hct
      · exact Or.inl List.mem_cons_self
  apply hinv.pass hpc (h.running hpc hne)
  cases pending with
  | true => exact ready_pending _ b
  | false =>
    have hready := h.ready
    rw [Ready, hpc] at hready
    have hclean := hready.1.resolve_left hne
    rcases hb with rfl | ⟨rfl, hd⟩
    · exact ⟨Or.inr hclean, fun hb => (nomatch hb)⟩
    · exact ⟨Or.inr hclean, fun _ => hd⟩

/-- An event has been handled: the next branch to be polled is that of `ct.cancelled()`. -/
theorem Inv.handles (h : l.Inv drained) {b : Branch} {pending : Bool}
    (hpc : l.pc = .poll b pending) (hl : Session.Handled l l') : l'.Inv drained := by
  obtain ⟨queued, hlog, hnone, hhead⟩ := h.said
  have hreason : l'.gbReason = l'.reasons.head? := by
    rcases hl.reasons with ⟨hr, hg⟩ | ⟨r, hr, hg⟩
    · rw [hr, hg]
      exact h.reason
    · rw [hr, hg, h.reason]
      cases l.reasons <;> rfl
  have hkept : ∀ r, l.reasons.head? = some r → l'.reasons.head? = some r := by
    intro r hr
    rcases hl.reasons with ⟨hr', -⟩ | ⟨r', hr', -⟩
    · rw [hr']
      exact hr
    · rw [hr', List.head?_append, hr]
      rfl
  refine ⟨hreason, fun _ => hl.ct, fun _ _ => Or.inl hl.pc, ?_, ?_, fun _ => Or.inr hl.ct, ?_, ?_,
    ?_⟩
  · rw [hl.pc]
    exact fun hp => (nomatch hp)
  · rw [hl.disabled]
    exact fun b hb => (nomatch hb)
  · rw [hl.repolled]
    exact h.once
  · refine ⟨queued, ?_, ?_, fun r hr => hkept r (hhead r hr)⟩
    · rw [hl.log, hl.cleanup]
      exact hlog
    · rw [hl.cleanup]
      refine fun hc _ => hnone hc ?_
      rw [hpc]
      exact fun hp => (nomatch hp)
  · rw [Ready, hl.pc]
    exact ⟨Or.inl rfl, fun hb => (nomatch hb)⟩

/-- Nothing is logged before the cleanup. -/
theorem Inv.log_nil (h : l.Inv drained) {pending : Bool} (hpc : l.pc = .poll .cancelled pending)
    (he : l.enabled .cancelled = true) : l.log = [] := by
  have hc : l.cleanupStarted = false := by
    simpa [precondition] using precondition_of_enabled he
  obtain ⟨queued, hlog, hnone, -⟩ := h.said
  have hqueued : queued = none := by
    apply hnone hc
    rw [hpc]
    exact fun hp => (nomatch hp)
  rw [hlog, hqueued, hc]
  rfl

/-- **The cleanup starts with the goodbye**, which carries the first reason. -/
theorem Inv.queues (h : l.Inv drained) {pending : Bool} (hpc : l.pc = .poll .cancelled pending)
    (he : l.enabled .cancelled = true) (hct : l.ct = true) {queued : Option ServerGoodbyeReason}
    (hq : ∀ r, queued = some r → l.gbReason = some r) : (l.saidGoodbye queued).Inv drained := by
  have hc : l.cleanupStarted = false := by
    simpa [precondition] using precondition_of_enabled he
  refine ⟨h.reason, h.started, fun _ _ => Or.inr rfl, fun _ => ⟨hc, hct⟩, h.off, h.completed,
    h.once, ⟨queued, ?_, fun _ hp => absurd rfl hp, ?_⟩, trivial⟩
  · show l.log ++ (queued.map Entry.goodbye).toList = logOf queued l.cleanupStarted
    rw [h.log_nil hpc he, hc]
    simp [logOf]
  · intro r hr
    show l.reasons.head? = some r
    rw [← h.reason]
    exact hq r hr

/-- The tokens are cancelled. -/
theorem Inv.cancels (h : l.Inv drained) (hpc : l.pc = .cancelTokens) :
    l.cancelledTokens.Inv drained := by
  obtain ⟨hc, hct⟩ := h.cancelling hpc
  obtain ⟨queued, hlog, -, hhead⟩ := h.said
  refine ⟨h.reason, fun _ => hct, fun hf => (nomatch hf), fun hp => (nomatch hp),
    fun b hb => (nomatch hb), fun _ => Or.inr hct, h.once,
    ⟨queued, ?_, fun hf => (nomatch hf), hhead⟩, Or.inl rfl, fun hb => (nomatch hb)⟩
  show l.log ++ [Entry.cancelTokens] = logOf queued true
  rw [hlog, hc]
  simp [logOf]

/-- All branches have been polled. -/
theorem Inv.ends (h : l.Inv drained) {pending : Bool} (hpc : l.pc = .polled pending) :
    (l.endPoll pending).Inv drained := by
  obtain ⟨queued, hlog, hnone, hhead⟩ := h.said
  have hrun : l.cleanupStarted = false → l.ct = false := by
    intro hc
    rw [← Bool.not_eq_true]
    intro hct
    rcases h.fresh hc hct with hp | hp <;> rw [hpc] at hp <;> cases hp
  have hsaid : l.cleanupStarted = false → queued = none := by
    refine fun hc => hnone hc ?_
    rw [hpc]
    exact fun hp => (nomatch hp)
  refine ⟨h.reason, h.started, ?_, ?_, h.off, h.completed, h.once,
    ⟨queued, hlog, fun hc _ => hsaid hc, hhead⟩, ?_⟩
  · intro hc hct
    rw [show l.ct = true from hct] at hrun
    cases hrun hc
  · intro hp
    cases pending <;> cases hp
  · cases pending with
    | true => exact ⟨Or.inl rfl, fun hb => (nomatch hb)⟩
    | false =>
      have hready := h.ready
      rw [Ready, hpc] at hready
      exact hready

/-- More results of tasks have been taken. -/
theorem Inv.mono (h : l.Inv drained) {drained' : Bool} (hd : drained = true → drained' = true) :
    l.Inv drained' := by
  refine ⟨h.reason, h.started, h.fresh, h.cancelling, ?_, h.completed, h.once, h.said, ?_⟩
  · intro b hb
    rcases h.off b hb with hi | ⟨ht, hdr⟩
    · exact Or.inl hi
    · exact Or.inr ⟨ht, hd hdr⟩
  · have hready := h.ready
    unfold Ready at hready ⊢
    split
    · rename_i hpc
      rw [hpc] at hready
      exact ⟨hready.1, fun hb => hd (hready.2 hb)⟩
    · trivial
    · rename_i hpc
      rw [hpc] at hready
      exact ⟨hready.1, hd hready.2.1, hready.2.2⟩
    · trivial
    · trivial
    · rename_i hpc
      rw [hpc] at hready
      exact ⟨hready.1, hd hready.2.1, hready.2.2⟩

end Loop

namespace Session

/-- **Every step keeps the invariant of the loop.** -/
theorem Moved.inv {l l' : Loop} {drained : Bool} (h : Moved l drained l') (hi : l.Inv drained) :
    l'.Inv drained := by
  cases h with
  | stays => exact hi
  | skips b pending hpc he => exact hi.skips hpc he
  | waits b pending hpc he hb => exact hi.waits hpc hb
  | drops pending hpc he => exact hi.disables hpc (Or.inl rfl) fun _ => Or.inr rfl
  | drains pending hpc hd => exact hi.disables hpc (Or.inr ⟨rfl, hd⟩) fun hdone => Or.inl hdone
  | handles b pending l' hpc he hb hl => exact hi.handles hpc hl
  | queues pending queued hpc he hct hq => exact hi.queues hpc he hct hq
  | cancels hpc => exact hi.cancels hpc
  | ends pending hpc => exact hi.ends hpc

end Session

end ApertureC.ServerSession
