import ApertureC.SessionCleanup

/-!
# How a session is torn down (`aperturec-server/src/server.rs`)

* `Tokens` — whose tokens are cancelled before and after the cleanup.
* `OnItsWay`, `Delivery` — what becomes of a goodbye that is queued while the transmit task is at the
  head of its loop.
* `Orderly` — the session is torn down in order.

Principal results: `step_tokens`, `step_txEffect`, `step_inv` and `teardown_orderly` (**the teardown
is orderly**, in every run).  A handler that stops on its own cancels its token before the cleanup,
and a transmit task that is stopping does not write the goodbye (`teardown_client_goodbye`).
-/

set_option autoImplicit false

namespace ApertureC.ServerSession

namespace Session

variable {s s' : Session}

/-! ## The tokens -/

/-- What a step does to a task, apart from the cancellation of all tokens. -/
structure TaskKept (t t' : SessionTask) : Prop where
  drained : t.drained = true → t'.drained = true
  kept : t.cancelled = true → t'.cancelled = true
  itself : t'.cancelled = true → t.cancelled = true ∨ t'.cancelledItself = true
  keptItself : t.cancelledItself = true → t'.cancelledItself = true
  able : t'.cancelledItself = true → t.cancelledItself = true ∨ t'.kind.cancelsItself = true
  kind : t'.kind = t.kind

theorem TaskKept.refl (t : SessionTask) : TaskKept t t :=
  ⟨id, id, Or.inl, id, Or.inl, rfl⟩

structure ControlKept (c c' : Control) : Prop where
  drained : c.drained = true → c'.drained = true
  kept : c.cancelled = true → c'.cancelled = true
  itself : c'.cancelled = true → c.cancelled = true ∨ c'.cancelledItself = true
  keptItself : c.cancelledItself = true → c'.cancelledItself = true

theorem ControlKept.refl (c : Control) : ControlKept c c := ⟨id, id, Or.inl, id⟩

structure Kept (s s' : Session) : Prop where
  cleanup : s'.loop.cleanupStarted = s.loop.cleanupStarted
  backend : s'.backendCancelled = s.backendCancelled
  control : ControlKept s.control s'.control
  tasks : ∀ t' ∈ s'.tasks, ∃ t ∈ s.tasks, TaskKept t t'

theorem join_kept {c c' : Control} {res : Option Bool} (h : c.join = some (c', res)) :
    ControlKept c c' := by
  unfold Control.join at h
  split at h
  · rename_i ok _ _
    cases ok <;> cases h <;> exact ⟨fun hd => by simp_all [Control.cancelItself], fun _ => rfl,
      fun _ => Or.inr rfl, fun _ => rfl⟩
  · dsimp only at h
    split at h
    · rename_i ok _ _
      cases ok <;> cases h <;> exact ⟨fun hd => by simp_all [Control.cancelItself], fun _ => rfl,
        fun _ => Or.inr rfl, fun _ => rfl⟩
    · split at h
      · cases h
        exact ⟨fun _ => rfl, id, Or.inl, id⟩
      · cases h

theorem txStep_kept {c c' : Control} {ok : Bool} (h : c.txStep ok = some c') :
    ControlKept c c' := by
  unfold Control.txStep at h
  split at h
  · split at h <;> cases h <;> exact ⟨id, id, Or.inl, id⟩
  · cases h
    exact ⟨id, id, Or.inl, id⟩
  · cases h
    cases ok <;> exact ⟨id, id, Or.inl, id⟩
  · cases h
    exact ⟨id, id, Or.inl, id⟩
  · cases h

/-- The ways in which a step changes a session. -/
inductive Change (s : Session) : Session → Prop
  | loop (l : Loop) (hl : l.cleanupStarted = s.loop.cleanupStarted) : Change s { s with loop := l }
  | queues (pending : Bool) (r : ServerGoodbyeReason) (hpc : s.loop.pc = .poll .cancelled pending)
      (he : s.loop.enabled .cancelled = true) :
      Change s { s with
        loop := s.loop.saidGoodbye (some r)
        control := { s.control with toSend := some r }
        onTime := decide (s.control.tx = .recv) }
  | cancels : Change s s.cancelTokens
  | joins (c : Control) (res : Option Bool) (l : Loop)
      (hl : l.cleanupStarted = s.loop.cleanupStarted) (h : s.control.join = some (c, res)) :
      Change s { s with control := c, loop := l }
  | transmits (ok : Bool) (c : Control) (h : s.control.txStep ok = some c) :
      Change s { s with control := c }
  | rxEnds (ok : Bool) : Change s { s with control := { s.control with rx := some ok } }
  | task (i : Nat) (t t' : SessionTask) (l : Loop) (ht : s.tasks[i]? = some t)
      (hl : l.cleanupStarted = s.loop.cleanupStarted) (hk : TaskKept t t') :
      Change s { s with tasks := s.tasks.set i t', loop := l }
  | outside (stopped newSession : Bool) (inactive : Oneshot) (backend : Option Loop.BackendOutcome) :
      Change s { s with
        stopped := stopped
        newSession := newSession
        inactive := inactive
        backend := backend }

theorem pollBranch_change {b : Branch} {pending : Bool} (hpc : s.loop.pc = .poll b pending)
    (he : s.loop.enabled b = true) (h : s.pollBranch b pending = some s') : Change s s' := by
  cases b with
  | cancelled =>
    simp only [pollBranch] at h
    split at h
    · unfold sayGoodbye at h
      split at h
      · cases h
        exact .loop _ rfl
      · rename_i r _
        split at h
        · cases h
          exact .loop _ rfl
        · split at h
          · cases h
            exact .queues pending r hpc he
          · cases h
    · cases h
      exact .loop _ rfl
  | stopped =>
    cases h
    apply Change.loop
    split <;> rfl
  | newSession =>
    cases h
    apply Change.loop
    split <;> rfl
  | inactive =>
    simp only [pollBranch] at h
    split at h <;> cases h <;> exact .loop _ rfl
  | tasks =>
    cases h
    apply Change.loop
    split <;> rfl
  | backend =>
    simp only [pollBranch] at h
    split at h
    · cases h
      exact .loop _ rfl
    · cases h
      exact .loop _ (handled_backend _ _).cleanup

theorem turn_change (h : s.turn = some s') : Change s s' := by
  unfold turn at h
  split at h
  · rename_i b pending hpc
    split at h
    · rename_i he
      exact pollBranch_change hpc he h
    · cases h
      exact .loop _ rfl
  · cases h
    exact .loop _ rfl
  · cases h
    exact .cancels
  · cases h

theorem pollControl_change (h : s.pollControl = some s') : Change s s' := by
  unfold pollControl at h
  split at h
  · split at h
    · cases h
    · rename_i hj
      cases h
      exact .joins _ _ _ rfl hj
    · rename_i hj
      cases h
      exact .joins _ _ _ (handled_taskResult _ _).cleanup hj
  · cases h

theorem pollTask_change {i : Nat} (h : s.pollTask i = some s') : Change s s' := by
  unfold pollTask at h
  split at h
  · cases h
  · rename_i t ht
    split at h
    · split at h
      · split at h
        · rename_i hable
          cases h
          exact .task i t _ _ ht rfl
            ⟨id, fun _ => rfl, fun _ => Or.inr rfl, fun _ => rfl, fun _ => Or.inr hable, rfl⟩
        · cases h
      · cases h
        exact .task i t _ _ ht (handled_taskResult _ _).cleanup
          ⟨fun _ => rfl, id, Or.inl, id, Or.inl, rfl⟩
    · cases h

/-- **What a step changes.** -/
theorem step_change {a : SessionAct} (h : s.step a = some s') : Change s s' := by
  cases a with
  | turn => exact turn_change h
  | pollControl => exact pollControl_change h
  | pollTask i => exact pollTask_change h
  | stop =>
    cases h
    exact .outside true s.newSession s.inactive s.backend
  | login =>
    cases h
    exact .outside s.stopped true s.inactive s.backend
  | inactivity sends =>
    simp only [step] at h
    split at h
    · cases h
      exact .outside s.stopped s.newSession _ s.backend
    · cases h
  | rxEnds ok =>
    simp only [step] at h
    split at h
    · cases h
      exact .rxEnds ok
    · cases h
  | tx ok =>
    obtain ⟨c, hc, rfl⟩ := Option.map_eq_some_iff.mp h
    exact .transmits ok c hc
  | taskEnds i ok =>
    simp only [step] at h
    split at h
    · cases h
    · rename_i t ht
      split at h
      · cases h
        exact .task i t _ s.loop ht rfl ⟨id, id, Or.inl, id, Or.inl, rfl⟩
      · cases h
  | backendEnds outcome =>
    simp only [step] at h
    split at h
    · cases h
      exact .outside s.stopped s.newSession s.inactive (some outcome)
    · cases h

/-- **What a step does to the tokens.** -/
theorem step_kept {a : SessionAct} (h : s.step a = some s') :
    Kept s s' ∨ s' = s.cancelTokens := by
  have same : ∀ t ∈ s.tasks, ∃ t₀ ∈ s.tasks, TaskKept t₀ t := fun t ht => ⟨t, ht, .refl t⟩
  cases step_change h with
  | loop l hl => exact Or.inl ⟨hl, rfl, .refl _, same⟩
  | queues pending r hpc he => exact Or.inl ⟨rfl, rfl, ⟨id, id, Or.inl, id⟩, same⟩
  | cancels => exact Or.inr rfl
  | joins c res l hl hj => exact Or.inl ⟨hl, rfl, join_kept hj, same⟩
  | transmits ok c hc => exact Or.inl ⟨rfl, rfl, txStep_kept hc, same⟩
  | rxEnds ok => exact Or.inl ⟨rfl, rfl, ⟨id, id, Or.inl, id⟩, same⟩
  | outside stopped newSession inactive backend => exact Or.inl ⟨rfl, rfl, .refl _, same⟩
  | task i t t' l ht hl hk =>
    refine Or.inl ⟨hl, rfl, .refl _, ?_⟩
    intro t₁ ht₁
    rcases List.mem_or_eq_of_mem_set ht₁ with hmem | rfl
    · exact same t₁ hmem
    · exact ⟨t, List.mem_of_getElem? ht, hk⟩

/-- Whose tokens are cancelled: before the cleanup, those of handlers that did it themselves; then,
all of them. -/
structure Tokens (s : Session) : Prop where
  control : s.loop.cleanupStarted = false → s.control.cancelled = true →
    s.control.cancelledItself = true
  tasks : s.loop.cleanupStarted = false → ∀ t ∈ s.tasks, t.cancelled = true →
    t.cancelledItself = true
  able : ∀ t ∈ s.tasks, t.cancelledItself = true → t.kind.cancelsItself = true
  backend : s.backendCancelled = s.loop.cleanupStarted
  all : s.loop.cleanupStarted = true → s.control.cancelled = true ∧ ∀ t ∈ s.tasks,
    t.cancelled = true

theorem tokens_init (encoders : Nat) : (init encoders).Tokens := by
  have hfresh : ∀ t ∈ (init encoders).tasks, t.cancelled = false ∧ t.cancelledItself = false := by
    intro t ht
    obtain ⟨kind, -, rfl⟩ := List.mem_map.mp ht
    exact ⟨rfl, rfl⟩
  refine ⟨fun _ hc => (nomatch hc), ?_, ?_, rfl, fun hc => (nomatch hc)⟩
  · intro _ t ht hc
    rw [(hfresh t ht).1] at hc
    cases hc
  · intro t ht hc
    rw [(hfresh t ht).2] at hc
    cases hc

theorem step_tokens {a : SessionAct} (h : s.step a = some s') (ht : s.Tokens) : s'.Tokens := by
  rcases step_kept h with hk | rfl
  · refine ⟨?_, ?_, ?_, ?_, ?_⟩
    · rw [hk.cleanup]
      intro hc hcan
      rcases hk.control.itself hcan with hold | hnew
      · exact hk.control.keptItself (ht.control hc hold)
      · exact hnew
    · rw [hk.cleanup]
      intro hc t' ht' hcan
      obtain ⟨t, hmem, hkt⟩ := hk.tasks t' ht'
      rcases hkt.itself hcan with hold | hnew
      · exact hkt.keptItself (ht.tasks hc t hmem hold)
      · exact hnew
    · intro t' ht' hcan
      obtain ⟨t, hmem, hkt⟩ := hk.tasks t' ht'
      rcases hkt.able hcan with hold | hnew
      · rw [hkt.kind]
        exact ht.able t hmem hold
      · exact hnew
    · rw [hk.cleanup, hk.backend]
      exact ht.backend
    · rw [hk.cleanup]
      intro hc
      obtain ⟨hcontrol, htasks⟩ := ht.all hc
      refine ⟨hk.control.kept hcontrol, ?_⟩
      intro t' ht'
      obtain ⟨t, hmem, hkt⟩ := hk.tasks t' ht'
      exact hkt.kept (htasks t hmem)
  · refine ⟨fun hc => (nomatch hc), fun hc => (nomatch hc), ?_, rfl, fun _ => ⟨rfl, ?_⟩⟩
    · intro t' ht' hcan
      obtain ⟨t, hmem, rfl⟩ := List.mem_map.mp ht'
      exact ht.able t hmem hcan
    · intro t' ht'
      obtain ⟨t, -, rfl⟩ := List.mem_map.mp ht'
      rfl

/-- Results that were taken stay taken. -/
theorem step_drained {a : SessionAct} (h : s.step a = some s') (hd : s.drained = true) :
    s'.drained = true := by
  rw [drained, Bool.and_eq_true, List.all_eq_true] at hd ⊢
  rcases step_kept h with hk | rfl
  · refine ⟨hk.control.drained hd.1, ?_⟩
    intro t' ht'
    obtain ⟨t, hmem, hkt⟩ := hk.tasks t' ht'
    exact hkt.drained (hd.2 t hmem)
  · refine ⟨hd.1, ?_⟩
    intro t' ht'
    obtain ⟨t, hmem, rfl⟩ := List.mem_map.mp ht'
    exact hd.2 t hmem

/-! ## The goodbye -/

/-- What becomes of a goodbye that finds the transmit task at the head of its loop: it waits in the
channel, is being sent, was written, or its write failed. -/
def OnItsWay (c : Control) (r : ServerGoodbyeReason) : Prop :=
  (c.toSend = some r ∧ c.tx = .recv ∧ c.written = []) ∨
  (c.toSend = none ∧ c.tx = .sending r ∧ c.written = []) ∨
  (c.toSend = none ∧ c.written = [r] ∧ ∀ r', c.tx ≠ .sending r') ∨
  c.tx = .done false

/-- The transmit task has only goodbyes of the log. -/
structure Delivery (s : Session) : Prop where
  toSend : ∀ r, s.control.toSend = some r → Entry.goodbye r ∈ s.loop.log
  sending : ∀ r, s.control.tx = .sending r → Entry.goodbye r ∈ s.loop.log
  written : ∀ r ∈ s.control.written, Entry.goodbye r ∈ s.loop.log
  onTime : s.onTime = true → ∃ r, Entry.goodbye r ∈ s.loop.log ∧ OnItsWay s.control r

theorem OnItsWay.txStep {c c' : Control} {r : ServerGoodbyeReason} {ok : Bool}
    (h : OnItsWay c r) (hs : c.txStep ok = some c') : OnItsWay c' r := by
  unfold Control.txStep at hs
  rcases h with ⟨hsend, htx, hw⟩ | ⟨hsend, htx, hw⟩ | ⟨hsend, hw, htx⟩ | htx
  · simp only [htx, hsend] at hs
    cases hs
    exact Or.inr (Or.inl ⟨rfl, rfl, hw⟩)
  · simp only [htx] at hs
    cases ok <;> cases hs
    · exact Or.inr (Or.inr (Or.inr rfl))
    · refine Or.inr (Or.inr (Or.inl ⟨hsend, ?_, fun r' hr' => (nomatch hr')⟩))
      show c.written ++ [r] = [r]
      rw [hw]
      rfl
  · right; right; left
    split at hs
    · simp only [hsend] at hs
      cases hs
      exact ⟨rfl, hw, fun r' hr' => (nomatch hr')⟩
    · cases hs
      refine ⟨hsend, hw, fun r' => ?_⟩
      show (if c.cancelled = true then TxTask.flushing else .recv) ≠ .sending r'
      split <;> exact fun hr' => (nomatch hr')
    · rename_i r' hr'
      exact absurd hr' (htx r')
    · cases hs
      exact ⟨hsend, hw, fun r' hr' => (nomatch hr')⟩
    · cases hs
  · simp only [htx] at hs
    cases hs

/-- The transmit task goes on. -/
theorem Delivery.txStep {c : Control} {ok : Bool} (h : s.Delivery)
    (hs : s.control.txStep ok = some c) : Delivery { s with control := c } := by
  refine ⟨?_, ?_, ?_, ?_⟩
  · intro r hr
    apply h.toSend
    unfold Control.txStep at hs
    split at hs
    · split at hs <;> cases hs
      · cases hr
      · exact hr
    · cases hs
      exact hr
    · cases ok <;> cases hs <;> exact hr
    · cases hs
      exact hr
    · cases hs
  · intro r hr
    unfold Control.txStep at hs
    split at hs
    · split at hs
      · rename_i r' hr'
        cases hs
        cases hr
        exact h.toSend r hr'
      · cases hs
        cases hr
    · cases hs
      change (if s.control.cancelled = true then TxTask.flushing else .recv) = .sending r at hr
      split at hr <;> cases hr
    · cases ok <;> cases hs <;> cases hr
    · cases hs
      cases hr
    · cases hs
  · intro r hr
    unfold Control.txStep at hs
    split at hs
    · split at hs <;> cases hs <;> exact h.written r hr
    · cases hs
      exact h.written r hr
    · rename_i r' hr'
      cases ok <;> cases hs
      · exact h.written r hr
      · rcases List.mem_append.mp hr with hr | hr
        · exact h.written r hr
        · rw [List.mem_singleton.mp hr]
          exact h.sending r' hr'
    · cases hs
      exact h.written r hr
    · cases hs
  · intro ht
    obtain ⟨r, hmem, hway⟩ := h.onTime ht
    exact ⟨r, hmem, hway.txStep hs⟩

/-- The transmit task, its channel and what it wrote are the same. -/
structure SameTx (c c' : Control) : Prop where
  toSend : c'.toSend = c.toSend
  tx : c'.tx = c.tx
  written : c'.written = c.written

/-- A step that leaves the transmit task alone, and forgets nothing of the log. -/
theorem Delivery.of_sameTx (h : s.Delivery) (hlog : s.loop.log ⊆ s'.loop.log)
    (hc : SameTx s.control s'.control) (ht : s'.onTime = s.onTime) : s'.Delivery := by
  refine ⟨?_, ?_, ?_, ?_⟩
  · rw [hc.toSend]
    exact fun r hr => hlog (h.toSend r hr)
  · rw [hc.tx]
    exact fun r hr => hlog (h.sending r hr)
  · rw [hc.written]
    exact fun r hr => hlog (h.written r hr)
  · rw [ht]
    intro hon
    obtain ⟨r, hmem, hway⟩ := h.onTime hon
    refine ⟨r, hlog hmem, ?_⟩
    unfold OnItsWay at hway ⊢
    rw [hc.toSend, hc.tx, hc.written]
    exact hway

/-- The goodbye is queued. -/
theorem Delivery.queues (h : s.Delivery) (hlog : s.loop.log = []) (r : ServerGoodbyeReason) :
    Delivery { s with
      loop := s.loop.saidGoodbye (some r)
      control := { s.control with toSend := some r }
      onTime := decide (s.control.tx = .recv) } := by
  have hnone : ∀ r', Entry.goodbye r' ∉ s.loop.log := by
    intro r'
    rw [hlog]
    exact List.not_mem_nil
  have hmem : Entry.goodbye r ∈ (s.loop.saidGoodbye (some r)).log :=
    List.mem_append_right _ (List.mem_singleton.mpr rfl)
  refine ⟨?_, ?_, ?_, ?_⟩
  · intro r' hr'
    cases hr'
    exact hmem
  · intro r' hr'
    exact absurd (h.sending r' hr') (hnone r')
  · intro r' hr'
    exact absurd (h.written r' hr') (hnone r')
  · intro hon
    have hw : s.control.written = [] :=
      List.eq_nil_iff_forall_not_mem.mpr fun r' hr' => hnone r' (h.written r' hr')
    exact ⟨r, hmem, Or.inl ⟨rfl, of_decide_eq_true hon, hw⟩⟩

/-- What a step does to the transmit task: nothing, a step of its own, or a goodbye is queued. -/
inductive TxEffect (s : Session) : Session → Prop
  | same {s' : Session} (hc : SameTx s.control s'.control) (ht : s'.onTime = s.onTime) :
      TxEffect s s'
  | steps (ok : Bool) (c : Control) (h : s.control.txStep ok = some c) :
      TxEffect s { s with control := c }
  | queues (pending : Bool) (r : ServerGoodbyeReason) (hpc : s.loop.pc = .poll .cancelled pending)
      (he : s.loop.enabled .cancelled = true) :
      TxEffect s { s with
        loop := s.loop.saidGoodbye (some r)
        control := { s.control with toSend := some r }
        onTime := decide (s.control.tx = .recv) }

theorem SameTx.refl (c : Control) : SameTx c c := ⟨rfl, rfl, rfl⟩

theorem join_sameTx {c c' : Control} {res : Option Bool} (h : c.join = some (c', res)) :
    SameTx c c' := by
  unfold Control.join at h
  split at h
  · rename_i ok _ _
    cases ok <;> cases h <;> exact ⟨rfl, rfl, rfl⟩
  · dsimp only at h
    split at h
    · rename_i ok _ _
      cases ok <;> cases h <;> exact ⟨rfl, rfl, rfl⟩
    · split at h
      · cases h
        exact ⟨rfl, rfl, rfl⟩
      · cases h

theorem step_txEffect {a : SessionAct} (h : s.step a = some s') : TxEffect s s' := by
  cases step_change h with
  | loop l hl => exact .same (.refl _) rfl
  | queues pending r hpc he => exact .queues pending r hpc he
  | cancels => exact .same ⟨rfl, rfl, rfl⟩ rfl
  | joins c res l hl hj => exact .same (join_sameTx hj) rfl
  | transmits ok c hc => exact .steps ok c hc
  | rxEnds ok => exact .same ⟨rfl, rfl, rfl⟩ rfl
  | task i t t' l ht hl hk => exact .same (.refl _) rfl
  | outside stopped newSession inactive backend => exact .same (.refl _) rfl

/-- The log only grows. -/
theorem Moved.log_subset {l l' : Loop} {drained : Bool} (h : Moved l drained l') :
    l.log ⊆ l'.log := by
  cases h with
  | handles b pending l' hpc he hb hl =>
    rw [hl.log]
    exact List.Subset.refl _
  | queues pending queued hpc he hct hq => exact List.subset_append_left _ _
  | cancels hpc => exact List.subset_append_left _ _
  | _ => exact List.Subset.refl _

/-! ## The session -/

/-- Nothing is lost of the order in which a session ends. -/
structure Inv (s : Session) : Prop where
  loop : s.loop.Inv s.drained
  tokens : s.Tokens
  delivery : s.Delivery

theorem inv_init (encoders : Nat) : (init encoders).Inv :=
  ⟨Loop.inv_init _, tokens_init encoders, fun _ hr => (nomatch hr), fun _ hr => (nomatch hr),
    fun _ hr => (nomatch hr), fun hon => (nomatch hon)⟩

/-- **Every step keeps the invariant of the session.** -/
theorem step_inv {a : SessionAct} (h : s.step a = some s') (hi : s.Inv) : s'.Inv := by
  have hmoved : Moved s.loop s.drained s'.loop := by
    apply step_moved _ h
    rintro he ⟨pending, hpc⟩
    exact hi.loop.pollInactive hpc he
  refine ⟨(hmoved.inv hi.loop).mono (step_drained h), step_tokens h hi.tokens, ?_⟩
  cases step_txEffect h with
  | same hc ht => exact hi.delivery.of_sameTx hmoved.log_subset hc ht
  | steps ok c hc => exact hi.delivery.txStep hc
  | queues pending r hpc he => exact hi.delivery.queues (hi.loop.log_nil hpc he) r

/-- The teardown of a session is in order.  At most one goodbye is queued, before the tokens are
cancelled, and it carries the reason of the first event; if the transmit task was at the head of its
loop, it writes the goodbye before it ends well.  Before the cleanup a token is cancelled only by the
handler it belongs to, and after it all are.  The inactivity receiver is not polled again, and when
the loop is left nothing is missing. -/
structure Orderly (s : Session) : Prop where
  goodbye : ∃ queued, s.loop.log = logOf queued s.loop.cleanupStarted ∧
    ∀ r, queued = some r → s.loop.reasons.head? = some r
  written : ∀ r ∈ s.control.written, Entry.goodbye r ∈ s.loop.log
  delivered : s.onTime = true → s.control.tx = .done true →
    ∃ r, Entry.goodbye r ∈ s.loop.log ∧ s.control.written = [r]
  before : s.loop.cleanupStarted = false → s.backendCancelled = false ∧
    (s.control.cancelled = true → s.control.cancelledItself = true) ∧
    ∀ t ∈ s.tasks, t.cancelled = true → t.cancelledItself = true ∧ t.kind.cancelsItself = true
  cancelled : s.loop.cleanupStarted = true → s.backendCancelled = true ∧
    s.control.cancelled = true ∧ ∀ t ∈ s.tasks, t.cancelled = true
  once : s.loop.repolled = false
  left : s.loop.pc = .left → s.loop.cleanupStarted = true ∧ s.drained = true ∧
    s.loop.backendResult.isSome = true

theorem Inv.orderly (h : s.Inv) : s.Orderly := by
  obtain ⟨queued, hlog, -, hhead⟩ := h.loop.said
  refine ⟨⟨queued, hlog, hhead⟩, h.delivery.written, ?_, ?_, ?_, h.loop.once, ?_⟩
  · intro hon hdone
    obtain ⟨r, hmem, hway⟩ := h.delivery.onTime hon
    rcases hway with ⟨-, htx, -⟩ | ⟨-, htx, -⟩ | ⟨-, hw, -⟩ | htx
    · rw [hdone] at htx
      cases htx
    · rw [hdone] at htx
      cases htx
    · exact ⟨r, hmem, hw⟩
    · rw [hdone] at htx
      cases htx
  · intro hc
    refine ⟨h.tokens.backend.trans hc, h.tokens.control hc, fun t ht hcan => ?_⟩
    have hself := h.tokens.tasks hc t ht hcan
    exact ⟨hself, h.tokens.able t ht hself⟩
  · intro hc
    exact ⟨h.tokens.backend.trans hc, h.tokens.all hc⟩
  · intro hpc
    have hready := h.loop.ready
    rw [Loop.Ready, hpc] at hready
    exact hready

/-- **The teardown is orderly** in every state of every run, whatever ends the session and whatever
the tasks do. -/
theorem teardown_orderly (encoders : Nat) (acts : List SessionAct) :
    Machine.Always step (fun s => s.Orderly) (init encoders) acts := by
  have hinv : Machine.Always step (fun s => s.Inv) (init encoders) acts :=
    Machine.always_of_invariant (fun _ _ _ hi h => step_inv h hi) acts (inv_init encoders)
  exact hinv.mono fun _ h => h.orderly

/-- The client says goodbye, and its handler cancels its token although no cleanup has started.  When
the control channel fails instead, the transmit task may stop before the goodbye is queued. -/
theorem teardown_client_goodbye :
    (∃ acts s, Machine.run step (init 0) acts = some s ∧ s.loop.cleanupStarted = false ∧
      s.control.cancelled = true) ∧
    ∃ acts s, Machine.run step (init 0) acts = some s ∧
      s.loop.log = [.goodbye .internalError] ∧ s.control.tx = .done true ∧
      s.control.written = [] :=
  ⟨⟨[.rxEnds true, .turn, .turn, .turn, .turn, .pollControl], _, rfl, rfl, rfl⟩,
    ⟨[.rxEnds false, .turn, .turn, .turn, .turn, .tx true, .pollControl, .tx true, .turn, .tx true],
      _, rfl, rfl, rfl, rfl⟩⟩

end Session

end ApertureC.ServerSession
