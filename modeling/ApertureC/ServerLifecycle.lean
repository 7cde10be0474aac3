import ApertureC.Handshake
import ApertureC.SessionTeardown

/-!
# The life of a server

The main loop of `aperturec-server/src/main.rs` over the states of `server.rs`: the server waits for
a session, prepares and announces it, serves it, and goes back to waiting.  Connections are accepted
and authenticated by the stream of `session.rs`, which makes progress only while it is polled: by
`next` when no session is active, and by `peek` in the loop of an active one.

* `SwapableBackend` — the backend of the root program, and the one a client asked for.
* `SessionStream`, `StreamAct` — the peekable stream of authenticated sessions.
* `Phase` — the states of the server, with the awaits of `SessionInactive::try_transition` apart; an
  active server holds the `Session` of `SessionLoop`.
* `Server.step` — one step of the server, of its stream, of an active session or of the world.

`accepted` and `backends` number the connections and the backends, and `log` is history: what was
authenticated, taken, launched, sent, activated and ended, and when the server was told to stop.

Principal result: `step_effect` (**what a step does**, one case for each kind of step).
-/

set_option autoImplicit false

namespace ApertureC.ServerLifecycle

open Handshake ServerSession

/-! ## Backends -/

/-- `SwapableBackend<B>` -/
structure SwapableBackend (B : Type) where
  root : B
  clientSpecified : Option B
  deriving DecidableEq, Repr

namespace SwapableBackend

variable {B : Type}

def new (root : B) : SwapableBackend B := ⟨root, none⟩

def setClientSpecified (b : SwapableBackend B) (clientSpecified : B) : SwapableBackend B :=
  { b with clientSpecified := some clientSpecified }

/-- `Deref`: the backend a client asked for comes first. -/
def deref (b : SwapableBackend B) : B := b.clientSpecified.getD b.root

def intoRoot (b : SwapableBackend B) : B := b.root

end SwapableBackend

/-- How a process ended. -/
inductive ExitStatus where
  | success
  | failure
  deriving DecidableEq, Repr

/-- What `wait_root_process` says when it is ready. -/
inductive WaitResult where
  | exited (status : ExitStatus)
  | failed
  deriving DecidableEq, Repr

/-! ## The stream of sessions -/

/-- `AuthenticatedSession`, with the number of its connection. -/
structure AuthenticatedSession where
  conn : Nat
  clientInit : Proto.ClientInit

/-- Where the future of the stream is: accepting a connection, receiving its first message, saying
goodbye to it, or at its end. -/
inductive Listening where
  | accepting
  | receiving (conn : Nat)
  | refusing (conn : Nat)
  | ended
  deriving DecidableEq, Repr

/-- `Peekable<AuthenticatedStream>` -/
structure SessionStream where
  listening : Listening
  peeked : Option AuthenticatedSession

/-- The first message on the control channel of a connection. -/
inductive Received where
  | clientInit (ci : Proto.ClientInit)
  | other
  | error

/-- The stream is polled, and: a connection is accepted, or fails to be, or the listener is closed; a
message has been received; the goodbye has been sent, or has timed out. -/
inductive StreamAct where
  | accept
  | acceptFails
  | closed
  | receive (m : Received)
  | refused (delivered : Bool)

/-! ## The server -/

/-- The error that the main task ends with. -/
inductive MainError where
  | serverStopped
  | initialization
  | listen
  | rootProcess (result : WaitResult)
  | backendUnrecoverable
  deriving DecidableEq, Repr

inductive Phase where
  | created
  | backendInitialized (root : Nat)
  | inactive (root : Nat)
  /-- A session has been taken from the stream. -/
  | preparing (root : Nat) (session : AuthenticatedSession)
  /-- It is prepared, and the token is about to be looked at. -/
  | checking (backend : SwapableBackend Nat) (session : AuthenticatedSession) (plan : Plan)
  /-- Its `ServerInit` is about to be sent. -/
  | announcing (backend : SwapableBackend Nat) (session : AuthenticatedSession) (plan : Plan)
  /-- `SessionActive`, before its tasks run. -/
  | activated (backend : SwapableBackend Nat) (session : AuthenticatedSession) (plan : Plan)
  | active (backend : SwapableBackend Nat) (session : AuthenticatedSession) (tasks : Session)
  | terminated (backend : Option (SwapableBackend Nat))
  | exited (result : Except MainError Unit)

inductive Entry where
  | stopped
  | authenticated (session : AuthenticatedSession)
  | took (conn : Nat)
  | launched (conn backend : Nat)
  | sent (conn : Nat) (m : ServerMessage)
  | activated (conn clientId : Nat)
  | ended (conn : Nat)

structure Server where
  phase : Phase
  stream : SessionStream
  cancelled : Bool
  nextClientId : Nat
  /-- The connections accepted so far. -/
  accepted : Nat
  /-- The backends initialised so far. -/
  backends : Nat
  /-- How the process of a backend ended, once it has. -/
  processes : Nat → Option ExitStatus
  log : List Entry

inductive Act where
  | stop
  | processExits (backend : Nat) (status : ExitStatus)
  | initialization (ok : Bool)
  | listen (ok : Bool)
  | stream (a : StreamAct)
  | next
  | waitRootProcess (result : WaitResult)
  | sawStop
  | prepare (ans : Answers) (delivered : Bool)
  | check (delivered : Bool)
  | announce (sent flushed : Bool)
  | start (ok : Bool)
  | session (a : SessionAct)
  | leave
  | resume (waitFails : Bool)

namespace Server

/-- `Server::<Created>::new` -/
def init : Server where
  phase := .created
  stream := ⟨.accepting, none⟩
  cancelled := false
  nextClientId := 0
  accepted := 0
  backends := 0
  processes := fun _ => none
  log := []

/-- `send_flush_goodbye`, if it is delivered. -/
def goodbye (conn : Nat) (reason : ServerGoodbyeReason) (delivered : Bool) : List Entry :=
  if delivered then [.sent conn (.serverGoodbye reason)] else []

/-- `wait_root_process().now_or_never()` -/
def waitNow (s : Server) (backend : Nat) (fails : Bool) : Option WaitResult :=
  if fails then some .failed else (s.processes backend).map .exited

/-- The stream has an item, or has ended. -/
def streamReady (s : Server) : Bool :=
  s.stream.peeked.isSome || decide (s.stream.listening = .ended)

/-- `Handle::stop`; the loop of an active session shares the token. -/
def stop (s : Server) : Server :=
  { s with
    phase := match s.phase with
      | .active backend session tasks => .active backend session { tasks with stopped := true }
      | phase => phase
    cancelled := true
    log := s.log ++ [.stopped] }

/-- Is the stream polled?  By `next` while no session is active, by `peek` in the loop of an active
one; both first look at the item that was peeked. -/
def pollsStream (s : Server) : Bool :=
  s.stream.peeked.isNone &&
    match s.phase with
    | .inactive _ => true
    | .active _ _ tasks =>
      match tasks.loop.pc with
      | .poll .newSession _ => tasks.loop.enabled .newSession
      | _ => false
    | _ => false

def setListening (s : Server) (listening : Listening) : Server :=
  { s with stream := { s.stream with listening } }

/-- The session leaves the stream, and is prepared next. -/
def take (s : Server) (root : Nat) (session : AuthenticatedSession) : Server :=
  { s with phase := .preparing root session, log := s.log ++ [.took session.conn] }

/-- The stream yields a session: to `next`, which ends its `select!` with it, or to `peek`. -/
def yields (s : Server) (session : AuthenticatedSession) : Option Server :=
  let s := { s.setListening .accepting with log := s.log ++ [Entry.authenticated session] }
  match s.phase with
  | .inactive root => some (s.take root session)
  | .active backend current tasks =>
    some { s with
      phase := .active backend current { tasks with newSession := true }
      stream := { s.stream with peeked := some session } }
  | _ => none

/-- The stream ends. -/
def streamEnds (s : Server) : Option Server :=
  let s := s.setListening .ended
  match s.phase with
  | .inactive root => some { s with phase := .terminated (some (.new root)) }
  | .active backend current tasks =>
    some { s with phase := .active backend current { tasks with newSession := true } }
  | _ => none

def streamStep (verify : String → Bool) (s : Server) (a : StreamAct) : Option Server :=
  if !s.pollsStream then none
  else
    match a, s.stream.listening with
    | .accept, .accepting =>
      some { s.setListening (.receiving s.accepted) with accepted := s.accepted + 1 }
    | .acceptFails, .accepting => some s
    | .closed, .accepting => s.streamEnds
    | .receive (.clientInit ci), .receiving conn =>
      if verify ci.authToken then s.yields ⟨conn, ci⟩ else some (s.setListening (.refusing conn))
    | .receive .other, .receiving _ => some (s.setListening .accepting)
    | .receive .error, .receiving _ => some (s.setListening .accepting)
    | .refused delivered, .refusing conn =>
      some { s.setListening .accepting with
        log := s.log ++ goodbye conn .authenticationFailure delivered }
    | _, _ => none

/-- A backend for the client, if its program was launched. -/
def launch (s : Server) (conn : Nat) (launched : Bool) : Server :=
  if launched then
    { s with backends := s.backends + 1, log := s.log ++ [.launched conn s.backends] }
  else s

/-- Back to the root backend; one of the client is dropped. -/
def recover (s : Server) (root : Nat) : Server :=
  { s with phase := .terminated (some (.new root)) }

def prepareStep (config : Configuration) (s : Server) (root : Nat) (session : AuthenticatedSession)
    (ans : Answers) (delivered : Bool) : Option Server :=
  match Handshake.prepare config ans session.clientInit with
  | .panicked => none
  | .refused launched reason =>
    let s := (s.launch session.conn launched).recover root
    some { s with log := s.log ++ goodbye session.conn reason delivered }
  | .failed launched => some ((s.launch session.conn launched).recover root)
  | .ready launched plan =>
    let backend : SwapableBackend Nat :=
      if launched then (SwapableBackend.new root).setClientSpecified s.backends
      else SwapableBackend.new root
    some { s.launch session.conn launched with phase := .checking backend session plan }

/-- The tasks of a session, at the start of its loop. -/
def firstTasks (s : Server) (plan : Plan) : Session :=
  { Session.init plan.maxEncoderCount with stopped := s.cancelled, newSession := s.streamReady }

/-- What an active session has written to its control channel. -/
def written (conn : Nat) (tasks tasks' : Session) : List Entry :=
  (tasks'.control.written.drop tasks.control.written.length).map fun reason =>
    .sent conn (.serverGoodbye reason)

/-- The world of an active session: its token and its stream are those of the server. -/
def ofSession : SessionAct → Bool
  | .stop => false
  | .login => false
  | _ => true

/-- `backend_out` -/
def backendOut (backend : SwapableBackend Nat) : Option BackendResult → Option (SwapableBackend Nat)
  | some .backend => some backend
  | _ => none

def resumeStep (s : Server) (backend : Option (SwapableBackend Nat)) (waitFails : Bool) : Server :=
  match backend, s.cancelled with
  | some b, false =>
    match s.waitNow b.deref waitFails with
    | some (.exited .success) => { s with phase := .exited (.ok ()) }
    | some result => { s with phase := .exited (.error (.rootProcess result)) }
    | none => { s with phase := .inactive b.intoRoot }
  | _, true => { s with phase := .exited (.ok ()) }
  | none, false => { s with phase := .exited (.error .backendUnrecoverable) }

def step (config : Configuration) (verify : String → Bool) (s : Server) (a : Act) : Option Server :=
  match a, s.phase with
  | .stop, .exited _ => none
  | .stop, _ => if s.cancelled then none else some s.stop
  | .processExits backend status, _ =>
    if backend < s.backends && (s.processes backend).isNone then
      some { s with processes := Function.update s.processes backend (some status) }
    else none
  | .initialization ok, .created =>
    some (if ok then { s with phase := .backendInitialized s.backends, backends := s.backends + 1 }
      else { s with phase := .exited (.error .initialization) })
  | .sawStop, .created =>
    if s.cancelled then some { s with phase := .exited (.error .serverStopped) } else none
  | .listen ok, .backendInitialized root =>
    some { s with
      phase := if s.cancelled then .exited (.error .serverStopped)
        else if ok then .inactive root else .exited (.error .listen) }
  | .stream a, _ => s.streamStep verify a
  | .next, .inactive root =>
    match s.stream.peeked, s.stream.listening with
    | some session, _ => some ({ s with stream := { s.stream with peeked := none } }.take root session)
    | none, .ended => some (s.recover root)
    | none, _ => none
  | .waitRootProcess result, .inactive root =>
    if s.waitNow root (decide (result = .failed)) = some result then some (s.recover root) else none
  | .sawStop, .inactive root => if s.cancelled then some (s.recover root) else none
  | .prepare ans delivered, .preparing root session =>
    s.prepareStep config root session ans delivered
  | .check delivered, .checking backend session plan =>
    if s.cancelled then
      let s := s.recover backend.intoRoot
      some { s with log := s.log ++ goodbye session.conn .shuttingDown delivered }
    else some { s with phase := .announcing backend session plan }
  | .announce sent flushed, .announcing backend session plan =>
    let init := plan.serverInit s.nextClientId config.name
    let s := if sent then { s with log := s.log ++ [.sent session.conn (.serverInit init)] } else s
    if sent && flushed then
      some { s with
        phase := .activated backend session plan
        nextClientId := s.nextClientId + 1
        log := s.log ++ [.activated session.conn s.nextClientId] }
    else some (s.recover backend.intoRoot)
  | .start ok, .activated backend session plan =>
    some (if ok then { s with phase := .active backend session (s.firstTasks plan) }
      else { s with phase := .terminated (some backend), log := s.log ++ [.ended session.conn] })
  | .session a, .active backend session tasks =>
    if ofSession a then
      (tasks.step a).map fun tasks' =>
        { s with
          phase := .active backend session tasks'
          log := s.log ++ written session.conn tasks tasks' }
    else none
  | .leave, .active backend session tasks =>
    match tasks.loop.pc with
    | .left =>
      some { s with
        phase := .terminated (backendOut backend tasks.loop.backendResult)
        log := s.log ++ [.ended session.conn] }
    | _ => none
  | .resume waitFails, .terminated backend => some (s.resumeStep backend waitFails)
  | _, _ => none

/-! ## What a step does -/

/-- The result that the main loop is left with after a session or a wait. -/
def ExitsWith (s : Server) (backend : Option (SwapableBackend Nat)) :
    Except MainError Unit → Prop
  | .ok () => s.cancelled = true ∨
      ∃ b, backend = some b ∧ s.processes b.deref = some .success
  | .error .backendUnrecoverable => s.cancelled = false ∧ backend = none
  | .error (.rootProcess (.exited .failure)) => s.cancelled = false ∧
      ∃ b, backend = some b ∧ s.processes b.deref = some .failure
  | .error (.rootProcess .failed) => s.cancelled = false ∧ backend.isSome = true
  | .error _ => False

/-- The kinds of steps. -/
inductive Effect (config : Configuration) (verify : String → Bool) (s : Server) : Server → Prop
  | stops (hx : ∀ result, s.phase ≠ .exited result) (hc : s.cancelled = false) :
      Effect config verify s s.stop
  | processExits (backend : Nat) (status : ExitStatus) (hb : backend < s.backends)
      (hp : s.processes backend = none) :
      Effect config verify s
        { s with processes := Function.update s.processes backend (some status) }
  | initializes (hp : s.phase = .created) :
      Effect config verify s
        { s with phase := .backendInitialized s.backends, backends := s.backends + 1 }
  | listens (root : Nat) (hp : s.phase = .backendInitialized root) (hc : s.cancelled = false) :
      Effect config verify s { s with phase := .inactive root }
  | exitsEarly (hp : s.phase = .created ∨ ∃ root, s.phase = .backendInitialized root)
      (e : MainError) (he : e = .serverStopped ∨ e = .initialization ∨ e = .listen)
      (hc : e = .serverStopped → s.cancelled = true) :
      Effect config verify s { s with phase := .exited (.error e) }
  /-- The stream does nothing that is seen. -/
  | idles : Effect config verify s s
  | accepts (hs : s.pollsStream = true) (hl : s.stream.listening = .accepting) :
      Effect config verify s
        { s.setListening (.receiving s.accepted) with accepted := s.accepted + 1 }
  | drops (conn : Nat) (hs : s.pollsStream = true) (hl : s.stream.listening = .receiving conn) :
      Effect config verify s (s.setListening .accepting)
  | rejects (conn : Nat) (ci : Proto.ClientInit) (hs : s.pollsStream = true)
      (hl : s.stream.listening = .receiving conn) (hv : verify ci.authToken = false) :
      Effect config verify s (s.setListening (.refusing conn))
  | refuses (conn : Nat) (delivered : Bool) (hs : s.pollsStream = true)
      (hl : s.stream.listening = .refusing conn) :
      Effect config verify s
        { s.setListening .accepting with
          log := s.log ++ goodbye conn .authenticationFailure delivered }
  | yields (conn root : Nat) (ci : Proto.ClientInit) (hs : s.pollsStream = true)
      (hl : s.stream.listening = .receiving conn) (hv : verify ci.authToken = true)
      (hp : s.phase = .inactive root) :
      Effect config verify s
        { s.setListening .accepting with
          phase := .preparing root ⟨conn, ci⟩
          log := s.log ++ [.authenticated ⟨conn, ci⟩] ++ [.took conn] }
  | peeks (conn : Nat) (ci : Proto.ClientInit) (backend : SwapableBackend Nat)
      (current : AuthenticatedSession) (tasks : Session) (hs : s.pollsStream = true)
      (hl : s.stream.listening = .receiving conn) (hv : verify ci.authToken = true)
      (hp : s.phase = .active backend current tasks) :
      Effect config verify s
        { s with
          phase := .active backend current { tasks with newSession := true }
          stream := ⟨.accepting, some ⟨conn, ci⟩⟩
          log := s.log ++ [.authenticated ⟨conn, ci⟩] }
  | closes (backend : SwapableBackend Nat) (current : AuthenticatedSession) (tasks : Session)
      (hs : s.pollsStream = true) (hl : s.stream.listening = .accepting)
      (hp : s.phase = .active backend current tasks) :
      Effect config verify s
        { s.setListening .ended with
          phase := .active backend current { tasks with newSession := true } }
  /-- The wait for a session ends without one. -/
  | interrupts (root : Nat) (hp : s.phase = .inactive root) (listening : Listening)
      (hl : listening = s.stream.listening ∨ listening = .ended ∧
        s.stream.listening = .accepting ∧ s.stream.peeked = none) :
      Effect config verify s ((s.setListening listening).recover root)
  | takes (root : Nat) (session : AuthenticatedSession) (hp : s.phase = .inactive root)
      (hs : s.stream.peeked = some session) :
      Effect config verify s
        { s with
          phase := .preparing root session
          stream := { s.stream with peeked := none }
          log := s.log ++ [.took session.conn] }
  | turnsAway (root : Nat) (session : AuthenticatedSession) (ans : Answers)
      (hp : s.phase = .preparing root session) (launched : Bool) (farewell : List Entry)
      (hans : (∃ reason delivered,
          Handshake.prepare config ans session.clientInit = .refused launched reason ∧
          farewell = goodbye session.conn reason delivered) ∨
        Handshake.prepare config ans session.clientInit = .failed launched ∧ farewell = []) :
      Effect config verify s
        { (s.launch session.conn launched).recover root with
          log := (s.launch session.conn launched).log ++ farewell }
  | prepares (root : Nat) (session : AuthenticatedSession) (ans : Answers)
      (hp : s.phase = .preparing root session) (launched : Bool) (plan : Plan)
      (hans : Handshake.prepare config ans session.clientInit = .ready launched plan) :
      Effect config verify s
        { s.launch session.conn launched with
          phase := .checking ⟨root, if launched then some s.backends else none⟩ session plan }
  | shutsDown (backend : SwapableBackend Nat) (session : AuthenticatedSession) (plan : Plan)
      (delivered : Bool) (hp : s.phase = .checking backend session plan)
      (hc : s.cancelled = true) :
      Effect config verify s
        { s.recover backend.root with
          log := s.log ++ goodbye session.conn .shuttingDown delivered }
  | checks (backend : SwapableBackend Nat) (session : AuthenticatedSession) (plan : Plan)
      (hp : s.phase = .checking backend session plan) (hc : s.cancelled = false) :
      Effect config verify s { s with phase := .announcing backend session plan }
  | breaksOff (backend : SwapableBackend Nat) (session : AuthenticatedSession) (plan : Plan)
      (sent : Bool) (hp : s.phase = .announcing backend session plan) :
      Effect config verify s
        { s.recover backend.root with
          log := s.log ++ if sent then
            [.sent session.conn (.serverInit (plan.serverInit s.nextClientId config.name))]
          else [] }
  | activates (backend : SwapableBackend Nat) (session : AuthenticatedSession) (plan : Plan)
      (hp : s.phase = .announcing backend session plan) :
      Effect config verify s
        { s with
          phase := .activated backend session plan
          nextClientId := s.nextClientId + 1
          log := s.log ++
            [.sent session.conn (.serverInit (plan.serverInit s.nextClientId config.name))] ++
            [.activated session.conn s.nextClientId] }
  | misfires (backend : SwapableBackend Nat) (session : AuthenticatedSession) (plan : Plan)
      (hp : s.phase = .activated backend session plan) :
      Effect config verify s
        { s with
          phase := .terminated (some backend)
          log := s.log ++ [.ended session.conn] }
  | starts (backend : SwapableBackend Nat) (session : AuthenticatedSession) (plan : Plan)
      (hp : s.phase = .activated backend session plan) :
      Effect config verify s { s with phase := .active backend session (s.firstTasks plan) }
  | serves (backend : SwapableBackend Nat) (session : AuthenticatedSession) (tasks tasks' : Session)
      (a : SessionAct) (hp : s.phase = .active backend session tasks) (ha : ofSession a = true)
      (ht : tasks.step a = some tasks') :
      Effect config verify s
        { s with
          phase := .active backend session tasks'
          log := s.log ++ written session.conn tasks tasks' }
  | leaves (backend : SwapableBackend Nat) (session : AuthenticatedSession) (tasks : Session)
      (hp : s.phase = .active backend session tasks) (hpc : tasks.loop.pc = .left) :
      Effect config verify s
        { s with
          phase := .terminated (backendOut backend tasks.loop.backendResult)
          log := s.log ++ [.ended session.conn] }
  | resumes (backend : SwapableBackend Nat) (hp : s.phase = .terminated (some backend))
      (hc : s.cancelled = false) (hw : s.processes backend.deref = none) :
      Effect config verify s { s with phase := .inactive backend.root }
  | exits (backend : Option (SwapableBackend Nat)) (result : Except MainError Unit)
      (hp : s.phase = .terminated backend) (hr : ExitsWith s backend result) :
      Effect config verify s { s with phase := .exited result }

variable {config : Configuration} {verify : String → Bool} {s s' : Server}

theorem yields_effect {conn : Nat} {ci : Proto.ClientInit} (hs : s.pollsStream = true)
    (hl : s.stream.listening = .receiving conn) (hv : verify ci.authToken = true)
    (h : s.yields ⟨conn, ci⟩ = some s') : Effect config verify s s' := by
  unfold yields at h
  dsimp only at h
  split at h
  · rename_i root hp
    cases h
    exact .yields conn root ci hs hl hv hp
  · rename_i backend current tasks hp
    cases h
    exact .peeks conn ci backend current tasks hs hl hv hp
  · cases h

theorem streamEnds_effect (hs : s.pollsStream = true) (hl : s.stream.listening = .accepting)
    (h : s.streamEnds = some s') : Effect config verify s s' := by
  have hpeeked : s.stream.peeked = none := by
    unfold pollsStream at hs
    exact Option.isNone_iff_eq_none.mp (Bool.and_eq_true_iff.mp hs).1
  unfold streamEnds at h
  dsimp only at h
  split at h
  · rename_i root hp
    cases h
    have hphase : s.phase = .inactive root := hp
    exact .interrupts root hphase .ended (Or.inr ⟨rfl, hl, hpeeked⟩)
  · rename_i backend current tasks hp
    cases h
    exact .closes backend current tasks hs hl hp
  · cases h

theorem streamStep_effect {a : StreamAct} (h : s.streamStep verify a = some s') :
    Effect config verify s s' := by
  unfold streamStep at h
  split at h
  · cases h
  · rename_i hpolls
    have hs : s.pollsStream = true := by simpa using hpolls
    split at h
    · rename_i hl
      cases h
      exact .accepts hs hl
    · cases h
      exact .idles
    · rename_i hl
      exact streamEnds_effect hs hl h
    · rename_i ci conn hl
      split at h
      · rename_i hv
        exact yields_effect hs hl hv h
      · rename_i hv
        cases h
        exact .rejects conn ci hs hl (Bool.eq_false_iff.mpr hv)
    · rename_i conn hl
      cases h
      exact .drops conn hs hl
    · rename_i conn hl
      cases h
      exact .drops conn hs hl
    · rename_i delivered conn hl
      cases h
      exact .refuses conn delivered hs hl
    · cases h

theorem prepareStep_effect {root : Nat} {session : AuthenticatedSession} {ans : Answers}
    {delivered : Bool} (hp : s.phase = .preparing root session)
    (h : s.prepareStep config root session ans delivered = some s') :
    Effect config verify s s' := by
  unfold prepareStep at h
  split at h
  · cases h
  · rename_i launched reason hans
    cases h
    exact .turnsAway root session ans hp launched _ (Or.inl ⟨reason, delivered, hans, rfl⟩)
  · rename_i launched hans
    cases h
    have heq : (s.launch session.conn launched).recover root =
        { (s.launch session.conn launched).recover root with
          log := (s.launch session.conn launched).log ++ [] } := by
      rw [List.append_nil]
      rfl
    rw [heq]
    exact .turnsAway root session ans hp launched [] (Or.inr ⟨hans, rfl⟩)
  · rename_i launched plan hans
    cases h
    cases launched with
    | true => exact .prepares root session ans hp true plan hans
    | false => exact .prepares root session ans hp false plan hans

theorem resumeStep_effect {backend : Option (SwapableBackend Nat)} {waitFails : Bool}
    (hp : s.phase = .terminated backend) : Effect config verify s (s.resumeStep backend waitFails) := by
  unfold resumeStep
  split
  · rename_i b hc
    split
    · rename_i hw
      apply Effect.exits _ _ hp
      refine Or.inr ⟨b, rfl, ?_⟩
      unfold waitNow at hw
      split at hw
      · cases hw
      · obtain ⟨status, hstatus, heq⟩ := Option.map_eq_some_iff.mp hw
        cases heq
        exact hstatus
    · rename_i result hnot hw
      apply Effect.exits _ _ hp
      unfold waitNow at hw
      split at hw
      · cases hw
        exact ⟨hc, rfl⟩
      · obtain ⟨status, hstatus, rfl⟩ := Option.map_eq_some_iff.mp hw
        cases status with
        | success => exact absurd rfl hnot
        | failure => exact ⟨hc, b, rfl, hstatus⟩
    · rename_i hw
      apply Effect.resumes b hp hc
      unfold waitNow at hw
      split at hw
      · cases hw
      · exact Option.map_eq_none_iff.mp hw
  · rename_i hc
    exact .exits _ _ hp (Or.inl hc)
  · rename_i hc
    exact .exits _ _ hp ⟨hc, rfl⟩

/-- **What a step does.** -/
theorem step_effect {a : Act} (h : s.step config verify a = some s') :
    Effect config verify s s' := by
  unfold step at h
  split at h
  · cases h
  · rename_i hx
    split at h
    · cases h
    · rename_i hc
      cases h
      exact .stops hx (Bool.eq_false_iff.mpr hc)
  · rename_i backend status
    split at h
    · rename_i hb
      cases h
      rw [Bool.and_eq_true, decide_eq_true_iff, Option.isNone_iff_eq_none] at hb
      exact .processExits backend status hb.1 hb.2
    · cases h
  · rename_i ok hp
    cases h
    cases ok with
    | true => exact .initializes hp
    | false => exact .exitsEarly (Or.inl hp) .initialization (by simp) (by simp)
  · rename_i hp
    split at h
    · rename_i hc
      cases h
      exact .exitsEarly (Or.inl hp) .serverStopped (by simp) fun _ => hc
    · cases h
  · rename_i ok root hp
    cases h
    by_cases hc : s.cancelled = true
    · rw [if_pos hc]
      exact .exitsEarly (Or.inr ⟨root, hp⟩) .serverStopped (by simp) fun _ => hc
    · rw [if_neg hc]
      cases ok with
      | true => exact .listens root hp (Bool.eq_false_iff.mpr hc)
      | false => exact .exitsEarly (Or.inr ⟨root, hp⟩) .listen (by simp) (by simp)
  · exact streamStep_effect h
  · rename_i root hp
    split at h
    · rename_i session hs
      cases h
      exact .takes root session hp hs
    · cases h
      exact .interrupts root hp s.stream.listening (Or.inl rfl)
    · cases h
  · rename_i result root hp
    split at h
    · cases h
      exact .interrupts root hp s.stream.listening (Or.inl rfl)
    · cases h
  · rename_i root hp
    split at h
    · cases h
      exact .interrupts root hp s.stream.listening (Or.inl rfl)
    · cases h
  · rename_i ans delivered root session hp
    exact prepareStep_effect hp h
  · rename_i delivered backend session plan hp
    split at h
    · rename_i hc
      cases h
      exact .shutsDown backend session plan delivered hp hc
    · rename_i hc
      cases h
      exact .checks backend session plan hp (Bool.eq_false_iff.mpr hc)
  · rename_i sent flushed backend session plan hp
    cases sent with
    | true =>
      cases flushed with
      | true =>
        cases h
        exact .activates backend session plan hp
      | false =>
        cases h
        exact .breaksOff backend session plan true hp
    | false =>
      cases h
      have heq : s.recover backend.intoRoot =
          { s.recover backend.root with log := s.log ++ if false = true then
            [.sent session.conn (.serverInit (plan.serverInit s.nextClientId config.name))]
          else [] } := by
        rw [if_neg Bool.false_ne_true, List.append_nil]
        rfl
      show Effect config verify s (s.recover backend.intoRoot)
      rw [heq]
      exact .breaksOff backend session plan false hp
  · rename_i ok backend session plan hp
    cases h
    cases ok with
    | true => exact .starts backend session plan hp
    | false => exact .misfires backend session plan hp
  · rename_i a backend session tasks hp
    split at h
    · rename_i ha
      obtain ⟨tasks', ht, rfl⟩ := Option.map_eq_some_iff.mp h
      exact .serves backend session tasks tasks' a hp ha ht
    · cases h
  · rename_i backend session tasks hp
    split at h
    · rename_i hpc
      cases h
      exact .leaves backend session tasks hp hpc
    · cases h
  · rename_i waitFails backend hp
    cases h
    exact resumeStep_effect hp
  · cases h

end Server

end ApertureC.ServerLifecycle
