import ApertureC.ClientWorkers
import ApertureC.Lib.Machine

/-!
# The loop of an active session (`aperturec-server/src/server.rs`)

The loop waits for the end of the session, says goodbye, cancels the tokens of all tasks, and goes on
until it has every result.  Its `select!` is `biased`: the branches are polled in a fixed order, and
the tasks run on other threads in between.

* `Branch`, `Pc` — the branches of the `select!`, and where the loop is.  A branch whose pattern did
  not match stays disabled until the next `select!`.
* `Loop` — the loop's variables, with its own token `ct`.
* `Control` — the control channel handler (`task/control_channel_handler.rs`): a transmit task with
  a channel of capacity one, a receive task, and the future that joins the two.
* `SessionTask` — another task of `task_results`, up to its result.  A handler may cancel its own
  token while its future is polled.
* `Session.step` — the loop polls a branch or one of the futures of `task_results`, or the world
  around it moves.

`inactiveDone`, `repolled`, `reasons`, `log`, `onTime` and `cancelledItself` are history.

Principal result: `step_moved` (what a step does to the loop).
-/

set_option autoImplicit false

namespace ApertureC.ServerSession

inductive Branch where
  | cancelled
  | stopped
  | newSession
  | inactive
  | tasks
  | backend
  deriving DecidableEq, Repr

def Branch.next : Branch → Option Branch
  | .cancelled => some .stopped
  | .stopped => some .newSession
  | .newSession => some .inactive
  | .inactive => some .tasks
  | .tasks => some .backend
  | .backend => none

/-- The loop polls a branch (was one pending before it?), has polled them all, is about to cancel the
tokens, or has been left. -/
inductive Pc where
  | poll (b : Branch) (pending : Bool)
  | polled (pending : Bool)
  | cancelTokens
  | left
  deriving DecidableEq, Repr

inductive Entry where
  | goodbye (reason : ServerGoodbyeReason)
  | cancelTokens
  deriving DecidableEq, Repr

/-- `Result<SwapableBackend<B>>` -/
inductive BackendResult where
  | backend
  | unrecoverable
  deriving DecidableEq, Repr

structure Loop where
  cleanupStarted : Bool
  taskError : Bool
  gbReason : Option ServerGoodbyeReason
  ct : Bool
  backendResult : Option BackendResult
  pc : Pc
  /-- The branches whose pattern did not match in this `select!`. -/
  disabled : List Branch
  /-- History: the inactivity receiver has completed. -/
  inactiveDone : Bool
  /-- History: it was polled after that, which panics. -/
  repolled : Bool
  /-- History: the reasons of the events handled, whether they were recorded or not. -/
  reasons : List ServerGoodbyeReason
  /-- History: the goodbyes queued and the cancellation of the tokens. -/
  log : List Entry
  deriving DecidableEq, Repr

namespace Loop

def init : Loop where
  cleanupStarted := false
  taskError := false
  gbReason := none
  ct := false
  backendResult := none
  pc := .poll .cancelled false
  disabled := []
  inactiveDone := false
  repolled := false
  reasons := []
  log := []

/-- The condition after the comma. -/
def precondition (l : Loop) : Branch → Bool
  | .tasks => true
  | .backend => l.backendResult.isNone
  | _ => !l.cleanupStarted

def enabled (l : Loop) (b : Branch) : Bool := l.precondition b && !decide (b ∈ l.disabled)

/-- Go on to the next branch. -/
def pass (l : Loop) (b : Branch) (pending : Bool) : Loop :=
  { l with
    pc := match b.next with
      | some b' => .poll b' pending
      | none => .polled pending }

def disable (l : Loop) (b : Branch) : Loop := { l with disabled := b :: l.disabled }

/-- The handler has ended: the next `select!`. -/
def again (l : Loop) : Loop := { l with pc := .poll .cancelled false, disabled := [] }

/-- The inactivity receiver is polled. -/
def pollInactive (l : Loop) : Loop := { l with repolled := l.repolled || l.inactiveDone }

/-- `if gb_reason.is_none()` -/
def record (l : Loop) (r : ServerGoodbyeReason) : Loop :=
  { l with
    gbReason := if l.gbReason.isNone then some r else l.gbReason
    reasons := l.reasons ++ [r] }

/-- `ct.cancel()` at the end of a handler. -/
def cancel (l : Loop) : Loop := { l with ct := true }

def handleStopped (l : Loop) : Loop := (l.record .shuttingDown).cancel.again

def handleNewSession (l : Loop) : Loop := (l.record .otherLogin).cancel.again

def handleInactive (l : Loop) : Loop :=
  ({ l with inactiveDone := true }.record .inactiveTimeout).cancel.again

def handleTaskResult (l : Loop) (ok : Bool) : Loop :=
  if !l.taskError && !l.cleanupStarted && !ok then
    ({ l with taskError := true }.record .internalError).cancel.again
  else l.cancel.again

/-- The backend, and whether it stopped with an error and the root process had exited by then; or an
error without a backend. -/
inductive BackendOutcome where
  | stopped (error rootExited : Bool)
  | unrecoverable
  deriving DecidableEq, Repr

def handleBackend (l : Loop) : BackendOutcome → Loop
  | .stopped error rootExited =>
    let l :=
      if error then l.record (if rootExited then .processExited else .internalError) else l
    { l with backendResult := some .backend }.cancel.again
  | .unrecoverable => { l with backendResult := some .unrecoverable }.cancel.again

/-- The goodbye, if there is one, has been queued or refused. -/
def saidGoodbye (l : Loop) (queued : Option ServerGoodbyeReason) : Loop :=
  { l with pc := .cancelTokens, log := l.log ++ (queued.map Entry.goodbye).toList }

/-- `cts.iter().for_each(CancellationToken::cancel)` -/
def cancelledTokens (l : Loop) : Loop :=
  { l with cleanupStarted := true, log := l.log ++ [Entry.cancelTokens] }.again

/-- All branches have been polled. -/
def endPoll (l : Loop) (pending : Bool) : Loop :=
  { l with pc := if pending then .poll .cancelled false else .left }

end Loop

/-! ## The tasks -/

inductive TaskKind where
  | event
  | media
  | tunnel
  | rateLimit
  | frameSync
  | mallocTrim
  | encoder
  deriving DecidableEq, Repr

/-- The event and tunnel channel handlers cancel their own tokens when a task of theirs has ended. -/
def TaskKind.cancelsItself : TaskKind → Bool
  | .event => true
  | .tunnel => true
  | _ => false

structure SessionTask where
  kind : TaskKind
  /-- Its token is cancelled. -/
  cancelled : Bool
  /-- Whether it ended well, once it has. -/
  result : Option Bool
  /-- The loop has taken its result. -/
  drained : Bool
  cancelledItself : Bool
  deriving DecidableEq, Repr

/-- The transmit task: at the head of its loop, between `recv` and `cancelled`, sending, flushing, or
at its end. -/
inductive TxTask where
  | recv
  | token
  | sending (reason : ServerGoodbyeReason)
  | flushing
  | done (ok : Bool)
  deriving DecidableEq, Repr

structure Control where
  cancelled : Bool
  /-- The channel of the transmit task, of capacity one. -/
  toSend : Option ServerGoodbyeReason
  tx : TxTask
  /-- The goodbyes written to the control channel. -/
  written : List ServerGoodbyeReason
  /-- Whether the receive task ended well, once it has. -/
  rx : Option Bool
  rxJoined : Bool
  txJoined : Bool
  drained : Bool
  cancelledItself : Bool
  deriving DecidableEq, Repr

namespace Control

def init : Control where
  cancelled := false
  toSend := none
  tx := .recv
  written := []
  rx := none
  rxJoined := false
  txJoined := false
  drained := false
  cancelledItself := false

/-- `.inspect(|_| self.state.ct.cancel())` -/
def cancelItself (c : Control) : Control := { c with cancelled := true, cancelledItself := true }

/-- The future of the handler is polled; the second component is its result. -/
def join (c : Control) : Option (Control × Option Bool) :=
  match c.rx, c.rxJoined with
  | some ok, false =>
    let c := { c.cancelItself with rxJoined := true }
    some (if ok then (c, none) else ({ c with drained := true }, some false))
  | _, rxJoined =>
    match c.tx, c.txJoined with
    | .done ok, false =>
      let c := { c.cancelItself with txJoined := true }
      some (if ok then (c, none) else ({ c with drained := true }, some false))
    | _, txJoined =>
      if rxJoined && txJoined then some ({ c with drained := true }, some true) else none

/-- The transmit task goes on; `ok` says whether a write succeeds. -/
def txStep (c : Control) (ok : Bool) : Option Control :=
  match c.tx with
  | .recv =>
    match c.toSend with
    | some r => some { c with toSend := none, tx := .sending r }
    | none => some { c with tx := .token }
  | .token => some { c with tx := if c.cancelled then .flushing else .recv }
  | .sending r =>
    some (if ok then { c with written := c.written ++ [r], tx := .recv }
      else { c with tx := .done false })
  | .flushing => some { c with tx := .done true }
  | .done _ => none

end Control

/-! ## The session -/

inductive Oneshot where
  | pending
  | sent
  | dropped
  deriving DecidableEq, Repr

structure Session where
  loop : Loop
  /-- The server's own token. -/
  stopped : Bool
  newSession : Bool
  inactive : Oneshot
  control : Control
  tasks : List SessionTask
  backend : Option Loop.BackendOutcome
  backendCancelled : Bool
  /-- History: the goodbye was queued while the transmit task was at the head of its loop. -/
  onTime : Bool
  deriving DecidableEq, Repr

inductive SessionAct where
  | turn
  | pollControl
  | pollTask (i : Nat)
  | stop
  | login
  | inactivity (sends : Bool)
  | rxEnds (ok : Bool)
  | tx (ok : Bool)
  | taskEnds (i : Nat) (ok : Bool)
  | backendEnds (outcome : Loop.BackendOutcome)

namespace Session

def kinds (encoders : Nat) : List TaskKind :=
  [.event, .media, .tunnel, .rateLimit, .frameSync, .mallocTrim] ++
    List.replicate encoders .encoder

def init (encoders : Nat) : Session where
  loop := .init
  stopped := false
  newSession := false
  inactive := .pending
  control := .init
  tasks := (kinds encoders).map fun kind => ⟨kind, false, none, false, false⟩
  backend := none
  backendCancelled := false
  onTime := false

/-- `task_results` is empty. -/
def drained (s : Session) : Bool := s.control.drained && s.tasks.all fun t => t.drained

/-- The handler of `ct.cancelled()`, up to the send: the channel may be closed or full. -/
def sayGoodbye (s : Session) : Option Session :=
  match s.loop.gbReason with
  | none => some { s with loop := s.loop.saidGoodbye none }
  | some r =>
    match s.control.tx with
    | .done _ => some { s with loop := s.loop.saidGoodbye none }
    | tx =>
      if s.control.toSend.isNone then
        some { s with
          loop := s.loop.saidGoodbye (some r)
          control := { s.control with toSend := some r }
          onTime := decide (tx = .recv) }
      else none

def cancelTokens (s : Session) : Session :=
  { s with
    loop := s.loop.cancelledTokens
    control := { s.control with cancelled := true }
    tasks := s.tasks.map fun t => { t with cancelled := true }
    backendCancelled := true }

/-- An enabled branch is polled; the futures of `task_results` that are polled have their own
steps. -/
def pollBranch (s : Session) (b : Branch) (pending : Bool) : Option Session :=
  match b with
  | .cancelled =>
    if s.loop.ct then s.sayGoodbye else some { s with loop := s.loop.pass b true }
  | .stopped =>
    some { s with loop := if s.stopped then s.loop.handleStopped else s.loop.pass b true }
  | .newSession =>
    some { s with loop := if s.newSession then s.loop.handleNewSession else s.loop.pass b true }
  | .inactive =>
    let l := s.loop.pollInactive
    match s.inactive with
    | .pending => some { s with loop := l.pass b true }
    | .sent => some { s with loop := l.handleInactive }
    -- the pattern `Ok(())` does not match
    | .dropped =>
      some { s with loop := ({ l with inactiveDone := true }.disable b).pass b pending }
  | .tasks =>
    some { s with
      loop := if s.drained then (s.loop.disable b).pass b pending else s.loop.pass b true }
  | .backend =>
    match s.backend with
    | none => some { s with loop := s.loop.pass b true }
    | some outcome => some { s with loop := s.loop.handleBackend outcome }

/-- The loop goes on. -/
def turn (s : Session) : Option Session :=
  match s.loop.pc with
  | .poll b pending =>
    if s.loop.enabled b then s.pollBranch b pending
    else some { s with loop := s.loop.pass b pending }
  | .polled pending => some { s with loop := s.loop.endPoll pending }
  | .cancelTokens => some s.cancelTokens
  | .left => none

/-- Is `task_results` being polled? -/
def pollsTasks (s : Session) : Bool :=
  match s.loop.pc with
  | .poll .tasks _ => s.loop.enabled .tasks
  | _ => false

def pollControl (s : Session) : Option Session :=
  if s.pollsTasks && !s.control.drained then
    match s.control.join with
    | none => none
    | some (control, none) => some { s with control := control }
    | some (control, some ok) =>
      some { s with control := control, loop := s.loop.handleTaskResult ok }
  else none

def pollTask (s : Session) (i : Nat) : Option Session :=
  match s.tasks[i]? with
  | none => none
  | some t =>
    if s.pollsTasks && !t.drained then
      match t.result with
      | none =>
        if t.kind.cancelsItself then
          some { s with tasks := s.tasks.set i { t with cancelled := true, cancelledItself := true } }
        else none
      | some ok =>
        some { s with
          tasks := s.tasks.set i { t with drained := true }
          loop := s.loop.handleTaskResult ok }
    else none

def step (s : Session) : SessionAct → Option Session
  | .turn => s.turn
  | .pollControl => s.pollControl
  | .pollTask i => s.pollTask i
  | .stop => some { s with stopped := true }
  | .login => some { s with newSession := true }
  | .inactivity sends =>
    match s.inactive with
    | .pending => some { s with inactive := if sends then .sent else .dropped }
    | _ => none
  | .rxEnds ok =>
    match s.control.rx with
    | none => some { s with control := { s.control with rx := some ok } }
    | some _ => none
  | .tx ok => (s.control.txStep ok).map fun control => { s with control := control }
  | .taskEnds i ok =>
    match s.tasks[i]? with
    | none => none
    | some t =>
      if t.result.isNone then some { s with tasks := s.tasks.set i { t with result := some ok } }
      else none
  | .backendEnds outcome =>
    match s.backend with
    | none => some { s with backend := some outcome }
    | some _ => none

/-! ## What a step does to the loop -/

/-- What the handlers other than the one of `ct.cancelled()` leave: the reasons of the event, and
maybe the backend. -/
structure Handled (l l' : Loop) : Prop where
  pc : l'.pc = .poll .cancelled false
  disabled : l'.disabled = []
  ct : l'.ct = true
  cleanup : l'.cleanupStarted = l.cleanupStarted
  log : l'.log = l.log
  repolled : l'.repolled = l.repolled
  backend : l.backendResult.isSome → l'.backendResult.isSome
  reasons : (l'.reasons = l.reasons ∧ l'.gbReason = l.gbReason) ∨
    ∃ r, l'.reasons = l.reasons ++ [r] ∧
      l'.gbReason = if l.gbReason.isNone then some r else l.gbReason

/-- A step of the loop; `drained` says whether `task_results` is empty. -/
inductive Moved (l : Loop) (drained : Bool) : Loop → Prop
  | stays : Moved l drained l
  | skips (b : Branch) (pending : Bool) (hpc : l.pc = .poll b pending)
      (h : l.enabled b = false) : Moved l drained (l.pass b pending)
  | waits (b : Branch) (pending : Bool) (hpc : l.pc = .poll b pending) (h : l.enabled b = true)
      (hb : b = .cancelled → l.ct = false) : Moved l drained (l.pass b true)
  | drops (pending : Bool) (hpc : l.pc = .poll .inactive pending)
      (h : l.enabled .inactive = true) :
      Moved l drained (({ l with inactiveDone := true }.disable .inactive).pass .inactive pending)
  | drains (pending : Bool) (hpc : l.pc = .poll .tasks pending) (hd : drained = true) :
      Moved l drained ((l.disable .tasks).pass .tasks pending)
  | handles (b : Branch) (pending : Bool) (l' : Loop) (hpc : l.pc = .poll b pending)
      (h : l.enabled b = true) (hb : b ≠ .cancelled) (hl : Handled l l') : Moved l drained l'
  | queues (pending : Bool) (queued : Option ServerGoodbyeReason)
      (hpc : l.pc = .poll .cancelled pending) (h : l.enabled .cancelled = true)
      (hct : l.ct = true) (hq : ∀ r, queued = some r → l.gbReason = some r) :
      Moved l drained (l.saidGoodbye queued)
  | cancels (hpc : l.pc = .cancelTokens) : Moved l drained l.cancelledTokens
  | ends (pending : Bool) (hpc : l.pc = .polled pending) : Moved l drained (l.endPoll pending)

theorem handled_record {l : Loop} (r : ServerGoodbyeReason) : Handled l (l.record r).cancel.again :=
  ⟨rfl, rfl, rfl, rfl, rfl, rfl, id, Or.inr ⟨r, rfl, rfl⟩⟩

theorem handled_inactive (l : Loop) : Handled l l.handleInactive :=
  ⟨rfl, rfl, rfl, rfl, rfl, rfl, id, Or.inr ⟨_, rfl, rfl⟩⟩

theorem handled_taskResult (l : Loop) (ok : Bool) : Handled l (l.handleTaskResult ok) := by
  unfold Loop.handleTaskResult
  split
  · exact ⟨rfl, rfl, rfl, rfl, rfl, rfl, id, Or.inr ⟨_, rfl, rfl⟩⟩
  · exact ⟨rfl, rfl, rfl, rfl, rfl, rfl, id, Or.inl ⟨rfl, rfl⟩⟩

theorem handled_backend (l : Loop) (outcome : Loop.BackendOutcome) :
    Handled l (l.handleBackend outcome) := by
  cases outcome with
  | stopped error rootExited =>
    cases error with
    | true => exact ⟨rfl, rfl, rfl, rfl, rfl, rfl, fun _ => rfl, Or.inr ⟨_, rfl, rfl⟩⟩
    | false => exact ⟨rfl, rfl, rfl, rfl, rfl, rfl, fun _ => rfl, Or.inl ⟨rfl, rfl⟩⟩
  | unrecoverable => exact ⟨rfl, rfl, rfl, rfl, rfl, rfl, fun _ => rfl, Or.inl ⟨rfl, rfl⟩⟩

variable {s s' : Session}

theorem sayGoodbye_moved {pending : Bool} (hpc : s.loop.pc = .poll .cancelled pending)
    (he : s.loop.enabled .cancelled = true) (hct : s.loop.ct = true)
    (h : s.sayGoodbye = some s') : Moved s.loop s.drained s'.loop := by
  have hnone : Moved s.loop s.drained (s.loop.saidGoodbye none) :=
    .queues pending none hpc he hct fun r hr => (nomatch hr)
  unfold sayGoodbye at h
  split at h
  · cases h
    exact hnone
  · rename_i r hr
    split at h
    · cases h
      exact hnone
    · split at h
      · cases h
        apply Moved.queues pending (some r) hpc he hct
        intro r' hr'
        rw [hr, hr']
      · cases h

/-- A polled branch. `hoff`: the receiver of an enabled `inactive` branch has not completed. -/
theorem pollBranch_moved {b : Branch} {pending : Bool} (hpc : s.loop.pc = .poll b pending)
    (he : s.loop.enabled b = true) (hoff : b = .inactive → s.loop.pollInactive = s.loop)
    (h : s.pollBranch b pending = some s') : Moved s.loop s.drained s'.loop := by
  cases b with
  | cancelled =>
    simp only [pollBranch] at h
    split at h
    · rename_i hct
      exact sayGoodbye_moved hpc he hct h
    · rename_i hct
      cases h
      exact .waits _ pending hpc he fun _ => Bool.eq_false_iff.mpr hct
  | stopped =>
    cases h
    show Moved _ _ (if s.stopped = true then _ else _)
    split
    · exact .handles _ pending _ hpc he (by decide) (handled_record _)
    · exact .waits _ pending hpc he (by simp)
  | newSession =>
    cases h
    show Moved _ _ (if s.newSession = true then _ else _)
    split
    · exact .handles _ pending _ hpc he (by decide) (handled_record _)
    · exact .waits _ pending hpc he (by simp)
  | inactive =>
    simp only [pollBranch, hoff rfl] at h
    split at h
    · cases h
      exact .waits _ pending hpc he (by simp)
    · cases h
      exact .handles _ pending _ hpc he (by decide) (handled_inactive _)
    · cases h
      exact .drops pending hpc he
  | tasks =>
    cases h
    show Moved _ _ (if s.drained = true then _ else _)
    split
    · rename_i hd
      exact .drains pending hpc hd
    · exact .waits _ pending hpc he (by simp)
  | backend =>
    simp only [pollBranch] at h
    split at h
    · cases h
      exact .waits _ pending hpc he (by simp)
    · cases h
      exact .handles _ pending _ hpc he (by decide) (handled_backend _ _)

theorem taskResult_moved (h : s.pollsTasks = true) (ok : Bool) :
    Moved s.loop s.drained (s.loop.handleTaskResult ok) := by
  unfold pollsTasks at h
  split at h
  · rename_i pending hpc
    exact .handles _ pending _ hpc h (by decide) (handled_taskResult _ ok)
  · cases h

theorem pollControl_moved (h : s.pollControl = some s') : Moved s.loop s.drained s'.loop := by
  unfold pollControl at h
  split at h
  · rename_i hpoll
    split at h
    · cases h
    · cases h
      exact .stays
    · cases h
      exact taskResult_moved (Bool.and_eq_true_iff.mp hpoll).1 _
  · cases h

theorem pollTask_moved {i : Nat} (h : s.pollTask i = some s') :
    Moved s.loop s.drained s'.loop := by
  unfold pollTask at h
  split at h
  · cases h
  · split at h
    · rename_i hpoll
      split at h
      · split at h
        · cases h
          exact .stays
        · cases h
      · cases h
        exact taskResult_moved (Bool.and_eq_true_iff.mp hpoll).1 _
    · cases h

/-- **What a step does to the loop.** -/
theorem step_moved {a : SessionAct}
    (hoff : s.loop.enabled .inactive = true → (∃ p, s.loop.pc = .poll .inactive p) →
      s.loop.pollInactive = s.loop) (h : s.step a = some s') :
    Moved s.loop s.drained s'.loop := by
  cases a with
  | turn =>
    simp only [step, turn] at h
    split at h
    · rename_i b pending hpc
      split at h
      · rename_i he
        refine pollBranch_moved hpc he ?_ h
        rintro rfl
        exact hoff he ⟨pending, hpc⟩
      · rename_i he
        cases h
        exact .skips b pending hpc (Bool.eq_false_iff.mpr he)
    · rename_i pending hpc
      cases h
      exact .ends pending hpc
    · rename_i hpc
      cases h
      exact .cancels hpc
    · cases h
  | pollControl => exact pollControl_moved h
  | pollTask i => exact pollTask_moved h
  | stop =>
    cases h
    exact .stays
  | login =>
    cases h
    exact .stays
  | inactivity sends =>
    simp only [step] at h
    split at h
    · cases h
      exact .stays
    · cases h
  | rxEnds ok =>
    simp only [step] at h
    split at h
    · cases h
      exact .stays
    · cases h
  | tx ok =>
    obtain ⟨control, -, rfl⟩ := Option.map_eq_some_iff.mp h
    exact .stays
  | taskEnds i ok =>
    simp only [step] at h
    split at h
    · cases h
    · split at h
      · cases h
        exact .stays
      · cases h
  | backendEnds outcome =>
    simp only [step] at h
    split at h
    · cases h
      exact .stays
    · cases h

end Session

end ApertureC.ServerSession
