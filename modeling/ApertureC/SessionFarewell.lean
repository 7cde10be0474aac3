import ApertureC.SessionTeardown

/-!
# What a session says at its end (`aperturec-server/src/server.rs`)

The control channel of an active session carries at most one goodbye, whose reason is an event that
has happened.

* `inFlight` — the goodbyes written, being sent and waiting in the channel.
* `Failed`, `Happened` — the events behind the reasons.

Principal results: `step_inFlight`, `step_reasons` (**a reason is recorded when it has happened**)
and `step_farewell`.
-/

set_option autoImplicit false

namespace ApertureC.ServerSession

def Entry.goodbye? : Entry → Option ServerGoodbyeReason
  | .goodbye reason => some reason
  | .cancelTokens => none

/-- The goodbyes that were queued. -/
def goodbyes (log : List Entry) : List ServerGoodbyeReason := log.filterMap Entry.goodbye?

def TxTask.sends : TxTask → Option ServerGoodbyeReason
  | .sending reason => some reason
  | _ => none

/-- The goodbyes written, being sent and waiting in the channel. -/
def Control.inFlight (c : Control) : List ServerGoodbyeReason :=
  c.written ++ c.tx.sends.toList ++ c.toSend.toList

/-- The transmit task writes at the end of what it has written. -/
theorem Control.txStep_written {c c' : Control} {ok : Bool} (h : c.txStep ok = some c') :
    c.written <+: c'.written := by
  unfold txStep at h
  split at h
  · split at h <;> cases h <;> exact List.prefix_rfl
  · cases h
    exact List.prefix_rfl
  · cases ok <;> cases h
    · exact List.prefix_rfl
    · exact List.prefix_append _ _
  · cases h
    exact List.prefix_rfl
  · cases h

/-- The transmit task makes up no goodbyes. -/
theorem Control.txStep_inFlight {c c' : Control} {ok : Bool} (h : c.txStep ok = some c') :
    c'.inFlight.Sublist c.inFlight := by
  unfold txStep at h
  split at h
  · rename_i htx
    split at h
    · rename_i r hr
      cases h
      simp [inFlight, TxTask.sends, htx, hr]
    · rename_i hr
      cases h
      simp [inFlight, TxTask.sends, htx, hr]
  · rename_i htx
    cases h
    by_cases hc : c.cancelled = true <;> simp [inFlight, TxTask.sends, htx, hc]
  · rename_i r htx
    cases ok with
    | true =>
      cases h
      simp [inFlight, TxTask.sends, htx]
    | false =>
      cases h
      simp [inFlight, TxTask.sends, htx]
  · rename_i htx
    cases h
    simp [inFlight, TxTask.sends, htx]
  · cases h

namespace Session

variable {s s' : Session}

/-! ## At most one goodbye -/

/-- The log says no more goodbyes than one. -/
theorem goodbyes_logOf (queued : Option ServerGoodbyeReason) (cleanup : Bool) :
    goodbyes (logOf queued cleanup) = queued.toList := by
  cases queued <;> cases cleanup <;> rfl

theorem log_grows {l l' : Loop} {drained : Bool} (h : Moved l drained l') : l.log <+: l'.log := by
  cases h with
  | handles b pending l' hpc he hb hl =>
    rw [hl.log]
  | queues pending queued hpc he hct hq => exact List.prefix_append _ _
  | cancels hpc => exact List.prefix_append _ _
  | _ => exact List.prefix_rfl

/-- What is in flight was queued. -/
def Queued (s : Session) : Prop := s.control.inFlight.Sublist (goodbyes s.loop.log)

theorem queued_init (encoders : Nat) : (init encoders).Queued := List.Sublist.refl _

/-- **What is in flight was queued.** -/
theorem step_inFlight {a : SessionAct} (h : s.step a = some s') (hi : s.Inv) (hq : s.Queued) :
    s'.Queued := by
  have hmoved : Moved s.loop s.drained s'.loop := by
    apply step_moved _ h
    rintro he ⟨pending, hpc⟩
    exact hi.loop.pollInactive hpc he
  have hlog : (goodbyes s.loop.log).Sublist (goodbyes s'.loop.log) :=
    ((log_grows hmoved).sublist).filterMap _
  cases step_txEffect h with
  | same hc ht =>
    unfold Queued Control.inFlight at hq ⊢
    rw [hc.written, hc.tx, hc.toSend]
    exact hq.trans hlog
  | steps ok c hc => exact (Control.txStep_inFlight hc).trans hq
  | queues pending r hpc he =>
    have hnil : s.loop.log = [] := hi.loop.log_nil hpc he
    unfold Queued at hq ⊢
    rw [hnil] at hq
    obtain ⟨hw, -⟩ := List.append_eq_nil_iff.mp (List.sublist_nil.mp hq)
    show (s.control.written ++ s.control.tx.sends.toList ++ [r]).Sublist
      (goodbyes (s.loop.log ++ [Entry.goodbye r]))
    rw [hw, hnil]
    exact List.Sublist.refl _

/-- At most one goodbye is written. -/
theorem Queued.length_written (hq : s.Queued) (hi : s.Inv) : s.control.written.length ≤ 1 := by
  obtain ⟨queued, hlog, -, -⟩ := hi.loop.said
  unfold Queued at hq
  rw [hlog, goodbyes_logOf] at hq
  have hlen : s.control.written.length ≤ s.control.inFlight.length := by
    unfold Control.inFlight
    simp only [List.length_append]
    omega
  have hqueued : queued.toList.length ≤ 1 := by cases queued <;> simp
  exact (hlen.trans hq.length_le).trans hqueued

/-- What a session has written stays written. -/
theorem step_written {a : SessionAct} (h : s.step a = some s') :
    s.control.written <+: s'.control.written := by
  cases step_txEffect h with
  | same hc ht => rw [hc.written]
  | steps ok c hc => exact Control.txStep_written hc
  | queues pending r hpc he => exact List.prefix_rfl

/-! ## The events behind the reasons -/

/-- A task or a side of the control channel has failed. -/
def Failed (s : Session) : Prop :=
  s.control.rx = some false ∨ s.control.tx = .done false ∨ ∃ t ∈ s.tasks, t.result = some false

/-- The event that a reason stands for has happened. -/
def Happened (s : Session) : ServerGoodbyeReason → Prop
  | .shuttingDown => s.stopped = true
  | .otherLogin => s.newSession = true
  | .inactiveTimeout => s.inactive = .sent
  | .internalError => s.Failed ∨ s.backend = some (.stopped true false)
  | .processExited => s.backend = some (.stopped true true)
  | _ => False

/-- What has happened stays so. -/
structure Remembers (s s' : Session) : Prop where
  stopped : s.stopped = true → s'.stopped = true
  newSession : s.newSession = true → s'.newSession = true
  inactive : s.inactive = .sent → s'.inactive = .sent
  backend : ∀ outcome, s.backend = some outcome → s'.backend = some outcome
  failed : s.Failed → s'.Failed

theorem Remembers.happened (h : Remembers s s') {r : ServerGoodbyeReason} (hr : s.Happened r) :
    s'.Happened r := by
  cases r with
  | shuttingDown => exact h.stopped hr
  | otherLogin => exact h.newSession hr
  | inactiveTimeout => exact h.inactive hr
  | internalError => exact hr.imp h.failed (h.backend _)
  | processExited => exact h.backend _ hr
  | _ => exact hr

/-- A step that the events do not depend on. -/
theorem remembers_of_eq (hs : s'.stopped = s.stopped) (hn : s'.newSession = s.newSession)
    (hi : s'.inactive = s.inactive) (hb : s'.backend = s.backend) (hf : s.Failed → s'.Failed) :
    Remembers s s' where
  stopped := by
    rw [hs]
    exact id
  newSession := by
    rw [hn]
    exact id
  inactive := by
    rw [hi]
    exact id
  backend := by
    rw [hb]
    exact fun _ => id
  failed := hf

theorem remembers_loop (s : Session) (l : Loop) : Remembers s { s with loop := l } :=
  remembers_of_eq rfl rfl rfl rfl id

/-- A failure of the control channel is not undone. -/
theorem failed_control {c : Control} (hrx : c.rx = s.control.rx)
    (htx : s.control.tx = .done false → c.tx = .done false) (l : Loop) (onTime : Bool)
    (h : s.Failed) : Failed { s with control := c, loop := l, onTime := onTime } := by
  rcases h with h | h | h
  · exact Or.inl (hrx.trans h)
  · exact Or.inr (Or.inl (htx h))
  · exact Or.inr (Or.inr h)

/-- A failure of a task is not undone. -/
theorem failed_set {i : Nat} {t : SessionTask} (t' : SessionTask) (ht : s.tasks[i]? = some t)
    (hk : t.result = some false → t'.result = some false) (l : Loop) (h : s.Failed) :
    Failed { s with tasks := s.tasks.set i t', loop := l } := by
  rcases h with h | h | ⟨t₀, hmem, hres⟩
  · exact Or.inl h
  · exact Or.inr (Or.inl h)
  · refine Or.inr (Or.inr ?_)
    obtain ⟨j, hj⟩ := List.mem_iff_getElem?.mp hmem
    have hlen : i < s.tasks.length := (List.getElem?_eq_some_iff.mp ht).1
    by_cases hij : i = j
    · subst hij
      rw [ht] at hj
      cases hj
      exact ⟨t', List.mem_of_getElem? (List.getElem?_set_self hlen), hk hres⟩
    · refine ⟨t₀, List.mem_of_getElem? (i := j) ?_, hres⟩
      show (s.tasks.set i t')[j]? = some t₀
      rw [List.getElem?_set_ne hij]
      exact hj

theorem join_keeps {c c' : Control} {res : Option Bool} (h : c.join = some (c', res)) :
    c'.rx = c.rx := by
  unfold Control.join at h
  split at h
  · rename_i ok _ _
    cases ok <;> cases h <;> rfl
  · dsimp only at h
    split at h
    · rename_i ok _ _
      cases ok <;> cases h <;> rfl
    · split at h
      · cases h
        rfl
      · cases h

theorem txStep_keeps {c c' : Control} {ok : Bool} (h : c.txStep ok = some c') : c'.rx = c.rx := by
  unfold Control.txStep at h
  split at h
  · split at h <;> cases h <;> rfl
  · cases h
    rfl
  · cases ok <;> cases h <;> rfl
  · cases h
    rfl
  · cases h

/-- The joined future fails when one of its sides has. -/
theorem join_failed {c c' : Control} (h : c.join = some (c', some false)) :
    c.rx = some false ∨ c.tx = .done false := by
  unfold Control.join at h
  split at h
  · rename_i ok hrx _
    cases ok <;> cases h
    exact Or.inl hrx
  · dsimp only at h
    split at h
    · rename_i ok htx _
      cases ok <;> cases h
      exact Or.inr htx
    · split at h <;> cases h

theorem handleTaskResult_reasons {l : Loop} {ok : Bool} {r : ServerGoodbyeReason}
    (h : r ∈ (l.handleTaskResult ok).reasons) :
    r ∈ l.reasons ∨ r = .internalError ∧ ok = false := by
  unfold Loop.handleTaskResult at h
  split at h
  · rename_i hif
    rcases List.mem_append.mp h with h | h
    · exact Or.inl h
    · refine Or.inr ⟨List.mem_singleton.mp h, ?_⟩
      simpa using (Bool.and_eq_true_iff.mp hif).2
  · exact Or.inl h

theorem handleBackend_reasons {l : Loop} {outcome : Loop.BackendOutcome} {r : ServerGoodbyeReason}
    (h : r ∈ (l.handleBackend outcome).reasons) :
    r ∈ l.reasons ∨ (r = .processExited ∧ outcome = .stopped true true) ∨
      (r = .internalError ∧ outcome = .stopped true false) := by
  cases outcome with
  | stopped error rootExited =>
    cases error with
    | false => exact Or.inl h
    | true =>
      rcases List.mem_append.mp h with h | h
      · exact Or.inl h
      · have hr := List.mem_singleton.mp h
        cases rootExited with
        | true => exact Or.inr (Or.inl ⟨hr, rfl⟩)
        | false => exact Or.inr (Or.inr ⟨hr, rfl⟩)
  | unrecoverable => exact Or.inl h

/-- What a step does to the events and to the reasons. -/
structure Records (s s' : Session) : Prop where
  remembers : Remembers s s'
  reasons : ∀ r ∈ s'.loop.reasons, r ∈ s.loop.reasons ∨ s'.Happened r

/-- The loop goes on without an event. -/
theorem records_loop {l : Loop} (hr : l.reasons = s.loop.reasons) :
    Records s { s with loop := l } :=
  ⟨remembers_loop s l, fun r hmem => Or.inl (by rw [← hr]; exact hmem)⟩

theorem records_quiet (h : Remembers s s') (hr : s'.loop.reasons = s.loop.reasons) :
    Records s s' :=
  ⟨h, fun r hmem => Or.inl (by rw [← hr]; exact hmem)⟩

/-- The loop records a reason. -/
theorem records_reason {l : Loop} {reason : ServerGoodbyeReason}
    (hr : l.reasons = s.loop.reasons ++ [reason]) (hh : Happened { s with loop := l } reason) :
    Records s { s with loop := l } := by
  refine ⟨remembers_loop s l, fun r hmem => ?_⟩
  change r ∈ l.reasons at hmem
  rw [hr] at hmem
  rcases List.mem_append.mp hmem with hmem | hmem
  · exact Or.inl hmem
  · rw [List.mem_singleton.mp hmem]
    exact Or.inr hh

theorem sayGoodbye_records (h : s.sayGoodbye = some s') : Records s s' := by
  unfold sayGoodbye at h
  split at h
  · cases h
    exact records_loop rfl
  · split at h
    · cases h
      exact records_loop rfl
    · split at h
      · cases h
        exact records_quiet
          (remembers_of_eq rfl rfl rfl rfl (failed_control rfl id _ _)) rfl
      · cases h

theorem pollBranch_records {b : Branch} {pending : Bool} (h : s.pollBranch b pending = some s') :
    Records s s' := by
  cases b with
  | cancelled =>
    simp only [pollBranch] at h
    split at h
    · exact sayGoodbye_records h
    · cases h
      exact records_loop rfl
  | stopped =>
    cases h
    by_cases hs : s.stopped = true
    · rw [if_pos hs]
      exact records_reason rfl hs
    · rw [if_neg hs]
      exact records_loop rfl
  | newSession =>
    cases h
    by_cases hs : s.newSession = true
    · rw [if_pos hs]
      exact records_reason rfl hs
    · rw [if_neg hs]
      exact records_loop rfl
  | inactive =>
    simp only [pollBranch] at h
    split at h
    · cases h
      exact records_loop rfl
    · rename_i hi
      cases h
      exact records_reason rfl hi
    · cases h
      exact records_loop rfl
  | tasks =>
    cases h
    by_cases hd : s.drained = true
    · rw [if_pos hd]
      exact records_loop rfl
    · rw [if_neg hd]
      exact records_loop rfl
  | backend =>
    simp only [pollBranch] at h
    split at h
    · cases h
      exact records_loop rfl
    · rename_i outcome hb
      cases h
      refine ⟨remembers_loop s _, fun r hmem => ?_⟩
      rcases handleBackend_reasons hmem with hmem | ⟨rfl, rfl⟩ | ⟨rfl, rfl⟩
      · exact Or.inl hmem
      · exact Or.inr hb
      · exact Or.inr (Or.inr hb)

theorem turn_records (h : s.turn = some s') : Records s s' := by
  unfold turn at h
  split at h
  · split at h
    · exact pollBranch_records h
    · cases h
      exact records_loop rfl
  · cases h
    exact records_loop rfl
  · cases h
    refine records_quiet (remembers_of_eq rfl rfl rfl rfl ?_) rfl
    rintro (hf | hf | ⟨t, hmem, hres⟩)
    · exact Or.inl hf
    · exact Or.inr (Or.inl hf)
    · exact Or.inr (Or.inr ⟨_, List.mem_map_of_mem hmem, hres⟩)
  · cases h

theorem pollControl_records (h : s.pollControl = some s') : Records s s' := by
  unfold pollControl at h
  split at h
  · split at h
    · cases h
    · rename_i c hj
      cases h
      refine records_quiet (remembers_of_eq rfl rfl rfl rfl ?_) rfl
      exact failed_control (join_keeps hj) (fun htx => (join_sameTx hj).tx.trans htx) _ s.onTime
    · rename_i c ok hj
      cases h
      have hfailed : s.Failed → Failed { s with control := c, loop := s.loop.handleTaskResult ok } :=
        failed_control (join_keeps hj) (fun htx => (join_sameTx hj).tx.trans htx) _ s.onTime
      refine ⟨remembers_of_eq rfl rfl rfl rfl hfailed, fun r hmem => ?_⟩
      rcases handleTaskResult_reasons hmem with hmem | ⟨rfl, rfl⟩
      · exact Or.inl hmem
      · refine Or.inr (Or.inl (hfailed ?_))
        rcases join_failed hj with hf | hf
        · exact Or.inl hf
        · exact Or.inr (Or.inl hf)
  · cases h

theorem pollTask_records {i : Nat} (h : s.pollTask i = some s') : Records s s' := by
  unfold pollTask at h
  split at h
  · cases h
  · rename_i t ht
    split at h
    · split at h
      · split at h
        · cases h
          have hfailed := failed_set { t with cancelled := true, cancelledItself := true } ht id s.loop
          exact records_quiet (remembers_of_eq rfl rfl rfl rfl hfailed) rfl
        · cases h
      · rename_i ok hres
        cases h
        have hfailed := failed_set { t with drained := true } ht id
          (s.loop.handleTaskResult ok)
        refine ⟨remembers_of_eq rfl rfl rfl rfl hfailed, fun r hmem => ?_⟩
        rcases handleTaskResult_reasons hmem with hmem | ⟨rfl, rfl⟩
        · exact Or.inl hmem
        · exact Or.inr (Or.inl (hfailed (Or.inr (Or.inr ⟨t, List.mem_of_getElem? ht, hres⟩))))
    · cases h

/-- **A reason is recorded when it has happened.** -/
theorem step_reasons {a : SessionAct} (h : s.step a = some s') : Records s s' := by
  cases a with
  | turn => exact turn_records h
  | pollControl => exact pollControl_records h
  | pollTask i => exact pollTask_records h
  | stop =>
    cases h
    exact records_quiet ⟨fun _ => rfl, id, id, fun _ => id, id⟩ rfl
  | login =>
    cases h
    exact records_quiet ⟨id, fun _ => rfl, id, fun _ => id, id⟩ rfl
  | inactivity sends =>
    simp only [step] at h
    split at h
    · rename_i hi
      cases h
      refine records_quiet ⟨id, id, fun hs => ?_, fun _ => id, id⟩ rfl
      rw [hi] at hs
      cases hs
    · cases h
  | rxEnds ok =>
    simp only [step] at h
    split at h
    · rename_i hrx
      cases h
      refine records_quiet (remembers_of_eq rfl rfl rfl rfl ?_) rfl
      rintro (hf | hf | hf)
      · rw [hrx] at hf
        cases hf
      · exact Or.inr (Or.inl hf)
      · exact Or.inr (Or.inr hf)
    · cases h
  | tx ok =>
    obtain ⟨c, hc, rfl⟩ := Option.map_eq_some_iff.mp h
    refine records_quiet (remembers_of_eq rfl rfl rfl rfl ?_) rfl
    refine failed_control (txStep_keeps hc) (fun htx => ?_) s.loop s.onTime
    rw [Control.txStep, htx] at hc
    cases hc
  | taskEnds i ok =>
    simp only [step] at h
    split at h
    · cases h
    · rename_i t ht
      split at h
      · rename_i hnone
        cases h
        refine records_quiet (remembers_of_eq rfl rfl rfl rfl ?_) rfl
        refine failed_set _ ht (fun hres => ?_) s.loop
        rw [hres] at hnone
        cases hnone
      · cases h
  | backendEnds outcome =>
    simp only [step] at h
    split at h
    · rename_i hb
      cases h
      refine records_quiet ⟨id, id, id, fun outcome' hs => ?_, id⟩ rfl
      rw [hb] at hs
      cases hs
    · cases h

/-! ## The farewell -/

/-- A session says at most one goodbye, and for what has happened. -/
structure Farewell (s : Session) : Prop where
  inv : s.Inv
  queued : s.Queued
  happened : ∀ r ∈ s.loop.reasons, s.Happened r

/-- **Every step keeps the farewell.** -/
theorem step_farewell {a : SessionAct} (h : s.step a = some s') (hf : s.Farewell) :
    s'.Farewell := by
  obtain ⟨hremembers, hreasons⟩ := step_reasons h
  refine ⟨step_inv h hf.inv, step_inFlight h hf.inv hf.queued, fun r hr => ?_⟩
  rcases hreasons r hr with hr | hr
  · exact hremembers.happened (hf.happened r hr)
  · exact hr

/-- The token of the server may be cancelled, and a session be waiting, before the loop starts. -/
theorem farewell_init (encoders : Nat) (stopped newSession : Bool) :
    Farewell { init encoders with stopped := stopped, newSession := newSession } where
  inv := ⟨Loop.inv_init _, ⟨(tokens_init encoders).control, (tokens_init encoders).tasks,
    (tokens_init encoders).able, (tokens_init encoders).backend, (tokens_init encoders).all⟩,
    (inv_init encoders).delivery.of_sameTx (List.Subset.refl _) (SameTx.refl _) rfl⟩
  queued := queued_init encoders
  happened := by
    intro r hr
    cases hr

/-- What is written was queued for a reason that has happened. -/
theorem Farewell.written (hf : s.Farewell) {r : ServerGoodbyeReason}
    (hr : r ∈ s.control.written) : s.Happened r := by
  obtain ⟨queued, hlog, -, hhead⟩ := hf.inv.loop.said
  have hmem := hf.inv.delivery.written r hr
  rw [hlog] at hmem
  have hqueued : queued = some r := by
    cases queued with
    | none =>
      cases hc : s.loop.cleanupStarted <;> rw [hc] at hmem <;> simp [logOf] at hmem
    | some r' =>
      cases hc : s.loop.cleanupStarted <;> rw [hc] at hmem <;> simp [logOf] at hmem
      all_goals rw [hmem]
  have hhead := hhead r hqueued
  exact hf.happened r (List.mem_of_head? hhead)

end Session

end ApertureC.ServerSession
