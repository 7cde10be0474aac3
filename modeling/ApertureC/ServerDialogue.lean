import ApertureC.ServerOrder
import ApertureC.SessionFarewell

/-!
# What each client is told

On its control channel a connection is told nothing, or a goodbye, or one `ServerInit` and then at
most one goodbye (`aperturec-server/src/server.rs`, `session.rs`).

* `messagesTo` — what was sent to a connection.
* `Grounds`, `Dialogue` — what a connection may have been told, and why.
* `noteSession`, `watchSessions` — the server, with a note of what its sessions went through.
* `Later`, `Stage`, `Conversing` — what a step adds, what a phase has said, and the invariant.

Principal results: `effect_later`, `effect_conversing` (**every step keeps the dialogues**),
`dialogues` and `offers_accepted` (the clients accept what they are told).
-/

set_option autoImplicit false

namespace ApertureC.ServerLifecycle

open Handshake ServerSession

/-! ## What was sent -/

@[simp] def Entry.message? (conn : Nat) : Entry → Option ServerMessage
  | .sent conn' m => if conn' = conn then some m else none
  | _ => none

/-- What was sent to a connection. -/
def messagesTo (conn : Nat) (log : List Entry) : List ServerMessage :=
  log.filterMap (Entry.message? conn)

@[simp] theorem messagesTo_append (conn : Nat) (log log' : List Entry) :
    messagesTo conn (log ++ log') = messagesTo conn log ++ messagesTo conn log' :=
  List.filterMap_append

@[simp] theorem messagesTo_nil (conn : Nat) : messagesTo conn [] = [] := rfl

@[simp] theorem messagesTo_sent (conn : Nat) (m : ServerMessage) :
    messagesTo conn [.sent conn m] = [m] := by
  simp [messagesTo]

theorem messagesTo_sent_of_ne {conn conn' : Nat} (h : conn' ≠ conn) (m : ServerMessage) :
    messagesTo conn [.sent conn' m] = [] := by
  simp [messagesTo, h]

theorem messagesTo_goodbye (conn : Nat) (reason : ServerGoodbyeReason) (delivered : Bool) :
    messagesTo conn (Server.goodbye conn reason delivered) =
      if delivered then [.serverGoodbye reason] else [] := by
  cases delivered <;> simp [Server.goodbye]

theorem messagesTo_goodbye_of_ne {conn conn' : Nat} (h : conn' ≠ conn)
    (reason : ServerGoodbyeReason) (delivered : Bool) :
    messagesTo conn (Server.goodbye conn' reason delivered) = [] := by
  cases delivered
  · rfl
  · exact messagesTo_sent_of_ne h _

theorem messagesTo_written {conn : Nat} {tasks tasks' : Session}
    (h : tasks.control.written <+: tasks'.control.written) :
    tasks.control.written.map ServerMessage.serverGoodbye ++
      messagesTo conn (Server.written conn tasks tasks') =
      tasks'.control.written.map ServerMessage.serverGoodbye := by
  obtain ⟨more, hmore⟩ := h
  have hmap : ∀ reasons : List ServerGoodbyeReason,
      messagesTo conn (reasons.map fun reason => .sent conn (.serverGoodbye reason)) =
        reasons.map ServerMessage.serverGoodbye := by
    intro reasons
    induction reasons with
    | nil => rfl
    | cons reason reasons ih =>
      rw [List.map_cons, ← List.singleton_append, messagesTo_append, ih, messagesTo_sent]
      rfl
  rw [Server.written, hmap, ← hmore, List.drop_left, List.map_append]

theorem messagesTo_written_of_ne {conn conn' : Nat} (h : conn' ≠ conn) (tasks tasks' : Session) :
    messagesTo conn (Server.written conn' tasks tasks') = [] := by
  rw [Server.written, messagesTo, List.filterMap_map, List.filterMap_eq_nil_iff]
  intro reason _
  exact if_neg h

/-! ## What a connection may have been told -/

/-- A session can be prepared so. -/
def Ready (config : Configuration) (session : AuthenticatedSession) (plan : Plan) : Prop :=
  ∃ ans launched, Handshake.prepare config ans session.clientInit = .ready launched plan

/-- A session can be refused so. -/
def Refused (config : Configuration) (session : AuthenticatedSession)
    (reason : ServerGoodbyeReason) : Prop :=
  ∃ ans launched, Handshake.prepare config ans session.clientInit = .refused launched reason

/-- The active session, with the number of its connection. -/
def Phase.session? : Phase → Option (Nat × Session)
  | .active _ session tasks => some (session.conn, tasks)
  | _ => none

/-- Why a session that started is told goodbye: the server was stopped, or another client has been
authenticated since (or the listener was closed), or what the reason stands for has happened to the
session itself.  `past`: the sessions as every step has left them. -/
def Grounds (s : Server) (past : List (Nat × Session)) (conn : Nat) : ServerGoodbyeReason → Prop
  | .shuttingDown => s.cancelled = true
  | .otherLogin => (∃ later ∈ authenticated s.log, conn < later.conn) ∨ s.stream.listening = .ended
  | reason => ∃ tasks, (conn, tasks) ∈ past ∧ tasks.Happened reason

/-- What a connection may have been told, and why. -/
inductive Dialogue (config : Configuration) (s : Server) (past : List (Nat × Session)) (conn : Nat) :
    List ServerMessage → Prop
  | silent : Dialogue config s past conn []
  /-- It was not authenticated. -/
  | rejected (h : ∀ session ∈ authenticated s.log, session.conn ≠ conn) :
      Dialogue config s past conn [.serverGoodbye .authenticationFailure]
  /-- Its session was not prepared. -/
  | refused (session : AuthenticatedSession) (hs : session ∈ authenticated s.log)
      (hconn : session.conn = conn) (reason : ServerGoodbyeReason)
      (hr : Refused config session reason) : Dialogue config s past conn [.serverGoodbye reason]
  /-- The server was stopped before the session started. -/
  | stopped (session : AuthenticatedSession) (hs : session ∈ authenticated s.log)
      (hconn : session.conn = conn) (hc : s.cancelled = true) :
      Dialogue config s past conn [.serverGoodbye .shuttingDown]
  /-- Its session was announced, and came to an end after it had started, if at all. -/
  | served (session : AuthenticatedSession) (hs : session ∈ authenticated s.log)
      (hconn : session.conn = conn) (plan : Plan) (hplan : Ready config session plan)
      (clientId : Nat) (farewell : List ServerGoodbyeReason) (hlen : farewell.length ≤ 1)
      (hid : (conn, clientId) ∈ activated s.log ∨ farewell = [])
      (hgrounds : ∀ reason ∈ farewell, Grounds s past conn reason) :
      Dialogue config s past conn (.serverInit (plan.serverInit clientId config.name) ::
        farewell.map .serverGoodbye)

/-- What has happened so far is not forgotten. -/
theorem Dialogue.mono_past {config : Configuration} {s : Server} {past past' : List (Nat × Session)}
    {conn : Nat} {ms : List ServerMessage} (h : Dialogue config s past conn ms)
    (hsub : past ⊆ past') : Dialogue config s past' conn ms := by
  cases h with
  | silent => exact .silent
  | rejected hr => exact .rejected hr
  | refused session hs hconn reason hr => exact .refused session hs hconn reason hr
  | stopped session hs hconn hc => exact .stopped session hs hconn hc
  | served session hs hconn plan hplan clientId farewell hlen hid hgrounds =>
    refine .served session hs hconn plan hplan clientId farewell hlen hid fun reason hr => ?_
    have hg := hgrounds reason hr
    cases reason with
    | shuttingDown => exact hg
    | otherLogin => exact hg
    | _ => exact hg.imp fun _ h => ⟨hsub h.1, h.2⟩

namespace Server

/-- What a step leaves of the active session is noted. -/
def noteSession (config : Configuration) (verify : String → Bool) (s : Server) (a : Act)
    (past : List (Nat × Session)) : List (Nat × Session) :=
  past ++ ((s.step config verify a).bind fun s' => s'.phase.session?).toList

/-- The server, with a note of what its sessions went through. -/
def watchSessions (config : Configuration) (verify : String → Bool) :
    Server × List (Nat × Session) → Act → Option (Server × List (Nat × Session)) :=
  Machine.observe (step config verify) (noteSession config verify)

variable {config : Configuration} {verify : String → Bool} {s s' : Server}
variable {past : List (Nat × Session)}

/-- The connections that wait for their first message. -/
def pending (s : Server) : List Nat :=
  s.stream.handshaking.toList ++ conns s.stream.peeked ++ conns s.phase.waiting

/-- What a step adds. -/
structure Later (verify : String → Bool) (s s' : Server) : Prop where
  accepted : s.accepted ≤ s'.accepted
  pending : ∀ c ∈ s'.pending, c ∈ s.pending ∨ c = s.accepted
  authenticated : authenticated s.log ⊆ authenticated s'.log
  authenticates : ∀ session ∈ ServerLifecycle.authenticated s'.log,
    session ∈ ServerLifecycle.authenticated s.log ∨
      session.conn ∈ s.pending ∧ verify session.clientInit.authToken = true
  activated : activated s.log ⊆ activated s'.log
  cancelled : s.cancelled = true → s'.cancelled = true
  ended : s.stream.listening = .ended → s'.stream.listening = .ended
  ready : ∀ backend session tasks, s.phase = .active backend session tasks →
    s.streamReady = true → s'.streamReady = true

/-- What was said at this point of a session. -/
def Stage (config : Configuration) (s : Server) : Phase → Prop
  | .checking _ session plan => Ready config session plan
  | .announcing _ session plan => Ready config session plan
  | .activated _ session plan => Ready config session plan ∧ ∃ clientId,
      (session.conn, clientId) ∈ activated s.log ∧
      messagesTo session.conn s.log = [.serverInit (plan.serverInit clientId config.name)]
  | .active _ session tasks => tasks.Farewell ∧ (tasks.stopped = true → s.cancelled = true) ∧
      (tasks.newSession = true → s.streamReady = true) ∧ ∃ plan clientId,
      Ready config session plan ∧ (session.conn, clientId) ∈ activated s.log ∧
      messagesTo session.conn s.log = .serverInit (plan.serverInit clientId config.name) ::
        tasks.control.written.map .serverGoodbye
  | _ => True

/-- The dialogues so far. -/
structure Conversing (config : Configuration) (verify : String → Bool) (s : Server)
    (past : List (Nat × Session)) : Prop where
  verified : ∀ session ∈ authenticated s.log, verify session.clientInit.authToken = true
  dialogue : ∀ conn, Dialogue config s past conn (messagesTo conn s.log)
  heard : ∀ conn, messagesTo conn s.log ≠ [] → conn < s.accepted ∧ conn ∉ s.pending
  stage : s.Stage config s.phase

/-! ## What a step adds -/

theorem streamReady_of_polls (h : s.pollsStream = true) (hl : s.stream.listening ≠ .ended) :
    s.streamReady = false := by
  rw [streamReady, pollsStream_peeked h, decide_eq_false hl]
  rfl

/-- The connections that wait while the stream is polled. -/
theorem pending_setListening (h : s.pollsStream = true) (listening : Listening) :
    (s.setListening listening).pending = (SessionStream.mk listening none).handshaking.toList := by
  have hpeeked := pollsStream_peeked h
  have hwait : s.phase.waiting = none := by
    rw [pollsStream, hpeeked] at h
    cases hp : s.phase <;> rw [hp] at h <;> first | rfl | cases h
  show _ ++ conns s.stream.peeked ++ conns s.phase.waiting = _
  rw [hpeeked, hwait, conns_none, List.append_nil, List.append_nil]
  rfl

theorem pending_of_polls (h : s.pollsStream = true) :
    s.pending = s.stream.handshaking.toList := by
  have heq := pending_setListening h s.stream.listening
  unfold SessionStream.handshaking at heq ⊢
  exact heq

/-- A step that adds no sessions. -/
theorem later_quiet (ha : s.accepted ≤ s'.accepted)
    (hp : ∀ c ∈ s'.pending, c ∈ s.pending ∨ c = s.accepted)
    (hauth : authenticated s'.log = authenticated s.log)
    (hact : activated s.log ⊆ activated s'.log)
    (hc : s.cancelled = true → s'.cancelled = true)
    (he : s.stream.listening = .ended → s'.stream.listening = .ended)
    (hr : ∀ backend session tasks, s.phase = .active backend session tasks →
      s.streamReady = true → s'.streamReady = true) : Later verify s s' where
  accepted := ha
  pending := hp
  authenticated := by rw [hauth]; exact List.Subset.refl _
  authenticates := by
    rw [hauth]
    exact fun session hs => Or.inl hs
  activated := hact
  cancelled := hc
  ended := he
  ready := hr

/-- A step of the phase, which leaves the stream alone. -/
theorem later_phase (hstream : s'.stream = s.stream) (haccepted : s'.accepted = s.accepted)
    (hw : ∀ session, s'.phase.waiting = some session → s.phase.waiting = some session)
    (hauth : authenticated s'.log = authenticated s.log)
    (hact : activated s.log ⊆ activated s'.log)
    (hc : s.cancelled = true → s'.cancelled = true) : Later verify s s' := by
  refine later_quiet (Nat.le_of_eq haccepted.symm) (fun c hmem => Or.inl ?_) hauth hact hc ?_ ?_
  · unfold pending at hmem ⊢
    rw [hstream] at hmem
    rcases List.mem_append.mp hmem with hmem | hmem
    · exact List.mem_append_left _ hmem
    · refine List.mem_append_right _ ?_
      cases hwait : s'.phase.waiting with
      | none =>
        rw [hwait] at hmem
        cases hmem
      | some session =>
        rw [hw session hwait, ← hwait]
        exact hmem
  · rw [hstream]
    exact id
  · intro backend session tasks _ hready
    unfold streamReady at hready ⊢
    rw [hstream]
    exact hready

/-! ### The stream -/

/-- A step of the stream that yields no session. -/
theorem later_listens (hs : s.pollsStream = true) (hl : s.stream.listening ≠ .ended)
    {listening : Listening} (hstream : s'.stream = (s.setListening listening).stream)
    (hphase : s'.phase = s.phase) (ha : s.accepted ≤ s'.accepted) (hc : s'.cancelled = s.cancelled)
    (hp : ∀ c ∈ (SessionStream.mk listening none).handshaking.toList,
      c ∈ s.stream.handshaking.toList ∨ c = s.accepted)
    (hauth : authenticated s'.log = authenticated s.log)
    (hact : activated s'.log = activated s.log) : Later verify s s' := by
  have hpending : s'.pending = (SessionStream.mk listening none).handshaking.toList := by
    rw [← pending_setListening hs listening]
    unfold pending
    rw [hstream, hphase]
    rfl
  refine later_quiet ha (fun c hmem => ?_) hauth ?_ ?_ (fun he => absurd he hl) ?_
  · rw [hpending] at hmem
    rw [pending_of_polls hs]
    exact hp c hmem
  · rw [hact]
    exact List.Subset.refl _
  · rw [hc]
    exact id
  · intro _ _ _ _ hready
    rw [streamReady_of_polls hs hl] at hready
    cases hready

/-- A connection is authenticated. -/
theorem later_authenticates {conn : Nat} {ci : Proto.ClientInit}
    (hl : s.stream.listening = .receiving conn) (hv : verify ci.authToken = true)
    (ha : s'.accepted = s.accepted) (hp : ∀ c ∈ s'.pending, c ∈ s.pending)
    (hauth : authenticated s'.log = authenticated s.log ++ [⟨conn, ci⟩])
    (hact : activated s'.log = activated s.log) (hc : s'.cancelled = s.cancelled)
    (hr : ∀ backend session tasks, s.phase = .active backend session tasks →
      s'.streamReady = true) : Later verify s s' where
  accepted := Nat.le_of_eq ha.symm
  pending := fun c hmem => Or.inl (hp c hmem)
  authenticated := by
    rw [hauth]
    exact List.subset_append_left _ _
  authenticates := by
    intro session hmem
    rw [hauth] at hmem
    rcases List.mem_append.mp hmem with hmem | hmem
    · exact Or.inl hmem
    · rw [List.mem_singleton.mp hmem]
      exact Or.inr ⟨by simp [Server.pending, hl], hv⟩
  activated := by
    rw [hact]
    exact List.Subset.refl _
  cancelled := by
    rw [hc]
    exact id
  ended := by
    rw [hl]
    exact fun he => by cases he
  ready := fun backend session tasks hphase _ => hr backend session tasks hphase

theorem later_peeks {conn : Nat} {ci : Proto.ClientInit} {backend : SwapableBackend Nat}
    {current : AuthenticatedSession} {tasks : Session}
    (hl : s.stream.listening = .receiving conn) (hv : verify ci.authToken = true)
    (hp : s.phase = .active backend current tasks) :
    Later verify s { s with
      phase := .active backend current { tasks with newSession := true }
      stream := ⟨.accepting, some ⟨conn, ci⟩⟩
      log := s.log ++ [.authenticated ⟨conn, ci⟩] } := by
  refine later_authenticates hl hv rfl ?_ ?_ ?_ rfl fun _ _ _ _ => rfl
  · simp [pending, hl, hp]
  · simp [authenticated]
  · simp [activated]

theorem later_closes {backend : SwapableBackend Nat} {current : AuthenticatedSession}
    {tasks : Session} (hl : s.stream.listening = .accepting)
    (hp : s.phase = .active backend current tasks) :
    Later verify s { s.setListening .ended with
      phase := .active backend current { tasks with newSession := true } } := by
  refine later_quiet (Nat.le_refl _) ?_ rfl (List.Subset.refl _) id (fun _ => rfl) ?_
  · intro c hmem
    exact Or.inl (by simpa [pending, setListening, hl, hp] using hmem)
  · simp [streamReady, setListening]

/-- The wait for a session is over. -/
theorem later_interrupts {root : Nat} (hp : s.phase = .inactive root) {listening : Listening}
    (hl : listening = s.stream.listening ∨ listening = .ended ∧
      s.stream.listening = .accepting ∧ s.stream.peeked = none) :
    Later verify s ((s.setListening listening).recover root) := by
  refine later_quiet (Nat.le_refl _) ?_ rfl (List.Subset.refl _) id ?_ ?_
  · rcases hl with rfl | ⟨rfl, hl, hpeeked⟩
    · intro c hmem
      exact Or.inl (by simpa [pending, recover, setListening, hp] using hmem)
    · simp [pending, recover, setListening, hp, hpeeked]
  · rcases hl with rfl | ⟨rfl, hl, hpeeked⟩
    · exact id
    · exact fun _ => rfl
  · simp [hp]

theorem later_takes {root : Nat} {session : AuthenticatedSession} (hp : s.phase = .inactive root)
    (hs : s.stream.peeked = some session) :
    Later verify s { s with
      phase := .preparing root session
      stream := { s.stream with peeked := none }
      log := s.log ++ [.took session.conn] } := by
  refine later_quiet (Nat.le_refl _) ?_ ?_ ?_ id id ?_
  · intro c hmem
    exact Or.inl (by simpa [pending, hp, hs] using hmem)
  · simp [authenticated]
  · simp [activated]
  · simp [hp]

/-! ### The phases -/

theorem later_stop : Later verify s s.stop := by
  refine later_phase rfl rfl ?_ ?_ ?_ fun _ => rfl
  · cases hp : s.phase <;> simp [stop, hp]
  · simp [stop, authenticated]
  · simp [stop, activated]

/-- Goodbyes neither authenticate nor activate. -/
theorem goodbye_adds (log : List Entry) (conn : Nat) (reason : ServerGoodbyeReason)
    (delivered : Bool) :
    authenticated (log ++ goodbye conn reason delivered) = authenticated log ∧
      activated (log ++ goodbye conn reason delivered) = activated log := by
  simp [authenticated, activated]

/-- Nor does the launch of a program. -/
theorem launch_adds (s : Server) (conn : Nat) (launched : Bool) :
    authenticated (s.launch conn launched).log = authenticated s.log ∧
      activated (s.launch conn launched).log = activated s.log := by
  cases launched <;> simp [launch, authenticated, activated]

/-- What a client is told whose session is not prepared. -/
def TurnedAway (config : Configuration) (session : AuthenticatedSession) (ans : Answers)
    (launched : Bool) (farewell : List Entry) : Prop :=
  (∃ reason delivered,
    Handshake.prepare config ans session.clientInit = .refused launched reason ∧
      farewell = goodbye session.conn reason delivered) ∨
    Handshake.prepare config ans session.clientInit = .failed launched ∧ farewell = []

theorem TurnedAway.adds {session : AuthenticatedSession} {ans : Answers} {launched : Bool}
    {farewell : List Entry} (h : TurnedAway config session ans launched farewell)
    (log : List Entry) :
    authenticated (log ++ farewell) = authenticated log ∧
      activated (log ++ farewell) = activated log := by
  rcases h with ⟨reason, delivered, -, rfl⟩ | ⟨-, rfl⟩
  · exact goodbye_adds log session.conn reason delivered
  · rw [List.append_nil]
    exact ⟨rfl, rfl⟩

theorem later_turnsAway {root : Nat} {session : AuthenticatedSession} {ans : Answers}
    {launched : Bool} {farewell : List Entry}
    (h : TurnedAway config session ans launched farewell) :
    Later verify s { (s.launch session.conn launched).recover root with
      log := (s.launch session.conn launched).log ++ farewell } := by
  refine later_phase ?_ ?_ (by simp [recover]) ?_ ?_ ?_
  · cases launched <;> rfl
  · cases launched <;> rfl
  · exact (h.adds _).1.trans (launch_adds s _ _).1
  · rw [(h.adds _).2, (launch_adds s _ _).2]
    exact List.Subset.refl _
  · cases launched <;> exact id

theorem later_prepares {root : Nat} {session : AuthenticatedSession} {launched : Bool} {plan : Plan}
    (hp : s.phase = .preparing root session) :
    Later verify s { s.launch session.conn launched with
      phase := .checking ⟨root, if launched then some s.backends else none⟩ session plan } := by
  refine later_phase ?_ ?_ (by simp [hp]) (launch_adds s _ _).1 ?_ ?_
  · cases launched <;> rfl
  · cases launched <;> rfl
  · rw [(launch_adds s _ _).2]
    exact List.Subset.refl _
  · cases launched <;> exact id

/-- **What a step adds.** -/
theorem effect_later (h : Effect config verify s s') : Later verify s s' := by
  cases h with
  | stops hx hc => exact later_stop
  | processExits backend status hb hp =>
    exact later_phase rfl rfl (fun _ => id) rfl (List.Subset.refl _) id
  | initializes hp => exact later_phase rfl rfl (by simp) rfl (List.Subset.refl _) id
  | listens root hp hc => exact later_phase rfl rfl (by simp) rfl (List.Subset.refl _) id
  | exitsEarly hp e he hc => exact later_phase rfl rfl (by simp) rfl (List.Subset.refl _) id
  | idles => exact later_phase rfl rfl (fun _ => id) rfl (List.Subset.refl _) id
  | accepts hs hl =>
    exact later_listens hs (by simp [hl]) rfl rfl (Nat.le_succ _) rfl (by simp) rfl rfl
  | drops conn hs hl =>
    exact later_listens hs (by simp [hl]) rfl rfl (Nat.le_refl _) rfl (by simp) rfl rfl
  | rejects conn ci hs hl hv =>
    exact later_listens hs (by simp [hl]) rfl rfl (Nat.le_refl _) rfl (by simp [hl]) rfl rfl
  | refuses conn delivered hs hl =>
    obtain ⟨hauth, hact⟩ := goodbye_adds s.log conn .authenticationFailure delivered
    exact later_listens hs (by simp [hl]) rfl rfl (Nat.le_refl _) rfl (by simp) hauth hact
  | yields conn root ci hs hl hv hp =>
    have hnone := pollsStream_peeked hs
    refine later_authenticates hl hv rfl ?_ ?_ ?_ rfl ?_
    · simp [pending, setListening, hnone, hl]
    · simp [authenticated, List.filterMap_cons]
    · simp [activated, List.filterMap_cons]
    · simp [hp]
  | peeks conn ci backend current tasks hs hl hv hp => exact later_peeks hl hv hp
  | closes backend current tasks hs hl hp => exact later_closes hl hp
  | interrupts root hp listening hl => exact later_interrupts hp hl
  | takes root session hp hs => exact later_takes hp hs
  | turnsAway root session ans hp launched farewell hans => exact later_turnsAway hans
  | prepares root session ans hp launched plan hans => exact later_prepares hp
  | shutsDown backend session plan delivered hp hc =>
    refine later_phase rfl rfl (by simp [recover]) (goodbye_adds _ _ _ _).1 ?_ id
    rw [(goodbye_adds _ _ _ _).2]
    exact List.Subset.refl _
  | checks backend session plan hp hc =>
    exact later_phase rfl rfl (by simp [hp]) rfl (List.Subset.refl _) id
  | breaksOff backend session plan sent hp =>
    refine later_phase rfl rfl (by simp [recover]) ?_ ?_ id
    · cases sent <;> simp [authenticated]
    · cases sent <;> simp [activated]
  | activates backend session plan hp =>
    refine later_phase rfl rfl (by simp) ?_ ?_ id
    · simp [authenticated, List.filterMap_cons]
    · simp [activated, List.filterMap_cons]
  | misfires backend session plan hp =>
    refine later_phase rfl rfl (by simp) ?_ ?_ id
    · simp [authenticated]
    · simp [activated]
  | starts backend session plan hp =>
    exact later_phase rfl rfl (by simp) rfl (List.Subset.refl _) id
  | serves backend session tasks tasks' a hp ha ht =>
    refine later_phase rfl rfl (by simp) ?_ ?_ id
    · simp [authenticated]
    · simp [activated]
  | leaves backend session tasks hp hpc =>
    refine later_phase rfl rfl (by simp) ?_ ?_ id
    · simp [authenticated]
    · simp [activated]
  | resumes backend hp hc hw => exact later_phase rfl rfl (by simp) rfl (List.Subset.refl _) id
  | exits backend result hp hr => exact later_phase rfl rfl (by simp) rfl (List.Subset.refl _) id

/-! ## Every step keeps the dialogues -/

theorem Later.grounds (h : Later verify s s') {conn : Nat} {reason : ServerGoodbyeReason}
    (hg : Grounds s past conn reason) : Grounds s' past conn reason := by
  cases reason with
  | shuttingDown => exact h.cancelled hg
  | otherLogin =>
    rcases hg with ⟨later, hmem, hlt⟩ | hended
    · exact Or.inl ⟨later, h.authenticated hmem, hlt⟩
    · exact Or.inr (h.ended hended)
  | _ => exact hg

/-- A dialogue in which nothing more is said; `hh`: a connection that was rejected is not waiting. -/
theorem Later.dialogue (h : Later verify s s') {conn : Nat} {ms : List ServerMessage}
    (hd : Dialogue config s past conn ms) (hh : ms ≠ [] → conn ∉ s.pending) :
    Dialogue config s' past conn ms := by
  cases hd with
  | silent => exact .silent
  | rejected hr =>
    refine .rejected fun session hs hconn => ?_
    rcases h.authenticates session hs with hs | ⟨hs, -⟩
    · exact hr session hs hconn
    · rw [hconn] at hs
      exact hh (List.cons_ne_nil _ _) hs
  | refused session hs hconn reason hr =>
    exact .refused session (h.authenticated hs) hconn reason hr
  | stopped session hs hconn hc =>
    exact .stopped session (h.authenticated hs) hconn (h.cancelled hc)
  | served session hs hconn plan hplan clientId farewell hlen hid hgrounds =>
    exact .served session (h.authenticated hs) hconn plan hplan clientId farewell hlen
      (hid.imp_left fun hid => h.activated hid) fun reason hr => h.grounds (hgrounds reason hr)

/-- A phase that goes on has said what it had said; `hm`: no more is said to its client. -/
theorem Later.stage (h : Later verify s s') (hphase : s'.phase = s.phase)
    (hm : ∀ conn, messagesTo conn s.log ≠ [] → messagesTo conn s'.log = messagesTo conn s.log)
    (hs : s.Stage config s.phase) : s'.Stage config s'.phase := by
  rw [hphase]
  cases hp : s.phase with
  | checking backend session plan =>
    rw [hp] at hs
    exact hs
  | announcing backend session plan =>
    rw [hp] at hs
    exact hs
  | activated backend session plan =>
    rw [hp] at hs
    obtain ⟨hplan, clientId, hid, hsaid⟩ := hs
    refine ⟨hplan, clientId, h.activated hid, ?_⟩
    rw [hm _ (by rw [hsaid]; exact List.cons_ne_nil _ _), hsaid]
  | active backend session tasks =>
    rw [hp] at hs
    obtain ⟨hfarewell, hstop, hnew, plan, clientId, hplan, hid, hsaid⟩ := hs
    refine ⟨hfarewell, fun ht => h.cancelled (hstop ht), fun ht => h.ready _ _ _ hp (hnew ht), plan,
      clientId, hplan, h.activated hid, ?_⟩
    rw [hm _ (by rw [hsaid]; exact List.cons_ne_nil _ _), hsaid]
  | _ => exact trivial

theorem Later.verified (h : Later verify s s') (hc : s.Conversing config verify past) :
    ∀ session ∈ ServerLifecycle.authenticated s'.log,
      verify session.clientInit.authToken = true := by
  intro session hs
  rcases h.authenticates session hs with hs | ⟨-, hv⟩
  · exact hc.verified session hs
  · exact hv

theorem Later.heard (h : Later verify s s') {conn : Nat}
    (hh : conn < s.accepted ∧ conn ∉ s.pending) : conn < s'.accepted ∧ conn ∉ s'.pending := by
  refine ⟨Nat.lt_of_lt_of_le hh.1 h.accepted, fun hmem => ?_⟩
  rcases h.pending conn hmem with hmem | heq
  · exact hh.2 hmem
  · omega

/-- A step in which nothing is said. -/
theorem Conversing.silently (hc : s.Conversing config verify past) (h : Later verify s s')
    (hm : ∀ conn, messagesTo conn s'.log = messagesTo conn s.log)
    (hs : s'.Stage config s'.phase) : s'.Conversing config verify past where
  verified := h.verified hc
  dialogue := by
    intro conn
    rw [hm]
    exact h.dialogue (hc.dialogue conn) fun hne => (hc.heard conn hne).2
  heard := by
    intro conn
    rw [hm]
    exact fun hne => h.heard (hc.heard conn hne)
  stage := hs

/-- A step in which something is said to a connection. -/
theorem Conversing.speaks (hc : s.Conversing config verify past) (h : Later verify s s') (conn : Nat)
    (hm : ∀ conn', conn ≠ conn' → messagesTo conn' s'.log = messagesTo conn' s.log)
    (hd : Dialogue config s' past conn (messagesTo conn s'.log))
    (hh : conn < s'.accepted ∧ conn ∉ s'.pending)
    (hs : s'.Stage config s'.phase) : s'.Conversing config verify past where
  verified := h.verified hc
  dialogue := by
    intro conn'
    by_cases heq : conn = conn'
    · rw [← heq]
      exact hd
    · rw [hm conn' heq]
      exact h.dialogue (hc.dialogue conn') fun hne => (hc.heard conn' hne).2
  heard := by
    intro conn'
    by_cases heq : conn = conn'
    · rw [← heq]
      exact fun _ => hh
    · rw [hm conn' heq]
      exact fun hne => h.heard (hc.heard conn' hne)
  stage := hs

/-! ### The connections that wait -/

/-- The session that waits to start is neither in the stream nor still to be authenticated. -/
theorem waiting_apart (ho : s.view.Order) {session : AuthenticatedSession}
    (hw : s.phase.waiting = some session) : session.conn < s.accepted ∧
      session.conn ∉ s.stream.handshaking.toList ++ conns s.stream.peeked := by
  have hmem : session.conn ∈ (authenticated s.log).map AuthenticatedSession.conn :=
    List.mem_map_of_mem (ho.known session (Or.inr (Or.inl hw)))
  refine ⟨ho.accepted _ (List.mem_append_left _ hmem), fun h => ?_⟩
  rcases List.mem_append.mp h with h | h
  · have hlt := (List.pairwise_append.mp ho.increasing).2.2 _ hmem _ h
    exact Nat.lt_irrefl _ hlt
  · obtain ⟨earlier, htaken, -⟩ := ho.waiting
    have hwaiting : s.view.waiting = some session := hw
    rw [hwaiting] at htaken
    have hpair := (List.pairwise_append.mp ho.increasing).1
    rw [ho.queue, htaken] at hpair
    have hlt := (List.pairwise_append.mp hpair).2.2 session.conn
      (List.mem_append_right _ (List.mem_singleton.mpr rfl)) session.conn h
    exact Nat.lt_irrefl _ hlt

theorem recover_pending (s : Server) (root : Nat) :
    (s.recover root).pending = s.stream.handshaking.toList ++ conns s.stream.peeked :=
  List.append_nil _

/-- Nothing has been said to a connection that waits. -/
theorem Conversing.unheard (hc : s.Conversing config verify past) {conn : Nat}
    (h : conn ∈ s.pending) : messagesTo conn s.log = [] := by
  by_contra hne
  exact (hc.heard conn hne).2 h

theorem waiting_mem {session : AuthenticatedSession} (hw : s.phase.waiting = some session) :
    session.conn ∈ s.pending := by
  refine List.mem_append_right _ ?_
  rw [hw]
  exact List.mem_singleton.mpr rfl

/-- The session being served is older than the one that waits in the stream. -/
theorem serving_lt (ho : s.view.Order) {session later : AuthenticatedSession}
    (hs : s.phase.serving = some session) (hp : s.stream.peeked = some later) :
    session.conn < later.conn := by
  have hpair := (List.pairwise_append.mp ho.increasing).1
  have hserving : s.view.serving = some session := hs
  have hpeeked : s.view.peeked = some later := hp
  obtain ⟨earlier, htaken, hsub⟩ := ho.waiting
  have hmem : session.conn ∈ s.view.taken := by
    rw [htaken]
    refine List.mem_append_left _ (hsub.subset ?_)
    rw [ho.serving, hserving]
    exact List.mem_append_right _ (List.mem_singleton.mpr rfl)
  rw [ho.queue, hpeeked] at hpair
  exact (List.pairwise_append.mp hpair).2.2 _ hmem _ (List.mem_singleton.mpr rfl)

/-! ### The sessions -/

/-- An active session has its grounds in the server. -/
theorem grounds_of_happened (ho : s.view.Order) {session : AuthenticatedSession} {tasks : Session}
    (hs : s.phase.serving = some session) (hpast : (session.conn, tasks) ∈ past)
    (hstop : tasks.stopped = true → s.cancelled = true)
    (hnew : tasks.newSession = true → s.streamReady = true) {reason : ServerGoodbyeReason}
    (h : tasks.Happened reason) : Grounds s past session.conn reason := by
  cases reason with
  | shuttingDown => exact hstop h
  | otherLogin =>
    have hready := hnew h
    unfold streamReady at hready
    rw [Bool.or_eq_true] at hready
    rcases hready with hpeeked | hended
    · obtain ⟨later, hlater⟩ := Option.isSome_iff_exists.mp hpeeked
      refine Or.inl ⟨later, ho.known later (Or.inl hlater), ?_⟩
      exact serving_lt ho hs hlater
    · exact Or.inr (of_decide_eq_true hended)
  | _ => exact ⟨tasks, hpast, h⟩

/-- The token and the stream of an active session are moved by the server alone. -/
theorem session_world {tasks tasks' : Session} {a : SessionAct} (ha : ofSession a = true)
    (h : tasks.step a = some tasks') :
    tasks'.stopped = tasks.stopped ∧ tasks'.newSession = tasks.newSession := by
  have hgoodbye : ∀ t, tasks.sayGoodbye = some t →
      t.stopped = tasks.stopped ∧ t.newSession = tasks.newSession := by
    intro t ht
    unfold Session.sayGoodbye at ht
    split at ht
    · cases ht
      exact ⟨rfl, rfl⟩
    · split at ht
      · cases ht
        exact ⟨rfl, rfl⟩
      · split at ht <;> cases ht
        exact ⟨rfl, rfl⟩
  have hbranch : ∀ b pending t, tasks.pollBranch b pending = some t →
      t.stopped = tasks.stopped ∧ t.newSession = tasks.newSession := by
    intro b pending t ht
    cases b with
    | cancelled =>
      simp only [Session.pollBranch] at ht
      split at ht
      · exact hgoodbye t ht
      · cases ht
        exact ⟨rfl, rfl⟩
    | inactive =>
      simp only [Session.pollBranch] at ht
      split at ht <;> cases ht <;> exact ⟨rfl, rfl⟩
    | backend =>
      simp only [Session.pollBranch] at ht
      split at ht <;> cases ht <;> exact ⟨rfl, rfl⟩
    | _ =>
      cases ht
      exact ⟨rfl, rfl⟩
  cases a with
  | stop => cases ha
  | login => cases ha
  | turn =>
    simp only [Session.step, Session.turn] at h
    split at h
    · split at h
      · exact hbranch _ _ _ h
      · cases h
        exact ⟨rfl, rfl⟩
    · cases h
      exact ⟨rfl, rfl⟩
    · cases h
      exact ⟨rfl, rfl⟩
    · cases h
  | pollControl =>
    simp only [Session.step, Session.pollControl] at h
    split at h
    · split at h <;> cases h <;> exact ⟨rfl, rfl⟩
    · cases h
  | pollTask i =>
    simp only [Session.step, Session.pollTask] at h
    split at h
    · cases h
    · split at h
      · split at h
        · split at h <;> cases h
          exact ⟨rfl, rfl⟩
        · cases h
          exact ⟨rfl, rfl⟩
      · cases h
  | inactivity sends =>
    simp only [Session.step] at h
    split at h <;> cases h
    exact ⟨rfl, rfl⟩
  | rxEnds ok =>
    simp only [Session.step] at h
    split at h <;> cases h
    exact ⟨rfl, rfl⟩
  | tx ok =>
    obtain ⟨c, -, rfl⟩ := Option.map_eq_some_iff.mp h
    exact ⟨rfl, rfl⟩
  | taskEnds i ok =>
    simp only [Session.step] at h
    split at h
    · cases h
    · split at h <;> cases h
      exact ⟨rfl, rfl⟩
  | backendEnds outcome =>
    simp only [Session.step] at h
    split at h <;> cases h
    exact ⟨rfl, rfl⟩

/-- What the world does to an active session; nothing is said. -/
theorem Conversing.worldMoves (hc : s.Conversing config verify past) (hl : Later verify s s')
    {backend : SwapableBackend Nat} {session : AuthenticatedSession} {tasks tasks' : Session}
    {a : SessionAct} (hp : s.phase = .active backend session tasks)
    (hp' : s'.phase = .active backend session tasks') (ht : tasks.step a = some tasks')
    (hcontrol : tasks'.control = tasks.control)
    (hm : ∀ conn, messagesTo conn s'.log = messagesTo conn s.log)
    (hstop : tasks'.stopped = true → tasks.stopped = true ∨ s'.cancelled = true)
    (hnew : tasks'.newSession = true → tasks.newSession = true ∨ s'.streamReady = true) :
    s'.Conversing config verify past := by
  refine hc.silently hl hm ?_
  have hstage := hc.stage
  rw [hp] at hstage
  obtain ⟨hfarewell, hstopped, hready, plan, clientId, hplan, hid, hsaid⟩ := hstage
  rw [hp']
  refine ⟨Session.step_farewell ht hfarewell, fun h => ?_, fun h => ?_, plan, clientId, hplan,
    hl.activated hid, ?_⟩
  · exact (hstop h).elim (fun h => hl.cancelled (hstopped h)) id
  · exact (hnew h).elim (fun h => hl.ready _ _ _ hp (hready h)) id
  · rw [hm, hcontrol]
    exact hsaid

/-- A session that was waiting to start is told something. -/
theorem Conversing.answers (hc : s.Conversing config verify past) (ho : s.view.Order)
    (hl : Later verify s s') {session : AuthenticatedSession} (hw : s.phase.waiting = some session)
    (haccepted : s'.accepted = s.accepted)
    (hpending : s'.pending = s.stream.handshaking.toList ++ conns s.stream.peeked)
    (hm : ∀ conn, session.conn ≠ conn → messagesTo conn s'.log = messagesTo conn s.log)
    (hd : session ∈ authenticated s'.log →
      Dialogue config s' past session.conn (messagesTo session.conn s'.log))
    (hs : s'.Stage config s'.phase) : s'.Conversing config verify past := by
  have hmem : session ∈ authenticated s.log := ho.known session (Or.inr (Or.inl hw))
  refine hc.speaks hl session.conn hm (hd (hl.authenticated hmem)) ?_ hs
  rw [hpending, haccepted]
  exact waiting_apart ho hw

/-- Entries that say nothing. -/
theorem messagesTo_quiet (s : Server) {log : List Entry} (h : ∀ conn, messagesTo conn log = [])
    (conn : Nat) : messagesTo conn (s.log ++ log) = messagesTo conn s.log := by
  rw [messagesTo_append, h conn, List.append_nil]

/-! ### The kinds of steps -/

theorem conversing_stop (hc : s.Conversing config verify past) :
    s.stop.Conversing config verify past := by
  have hl : Later verify s s.stop := later_stop
  have hquiet : ∀ conn, messagesTo conn s.stop.log = messagesTo conn s.log :=
    messagesTo_quiet s fun _ => rfl
  cases hp : s.phase with
  | active backend session tasks =>
    refine hc.worldMoves (a := .stop) hl hp ?_ rfl rfl hquiet (fun _ => Or.inr rfl) Or.inl
    simp [stop, hp]
  | _ =>
    have hphase : s.stop.phase = s.phase := by simp [stop, hp]
    exact hc.silently hl hquiet (hl.stage hphase (fun conn _ => hquiet conn) hc.stage)

/-- A connection that was not authenticated is told so, if the goodbye is delivered. -/
theorem conversing_refuses (ho : s.view.Order) (hc : s.Conversing config verify past) {conn : Nat}
    {delivered : Bool} (hs : s.pollsStream = true) (hl : s.stream.listening = .refusing conn) :
    Conversing config verify { s.setListening .accepting with
      log := s.log ++ goodbye conn .authenticationFailure delivered } past := by
  have heffect : Effect config verify s _ := .refuses conn delivered hs hl
  have hlater := effect_later heffect
  have hother : ∀ conn', conn ≠ conn' → messagesTo conn'
      (s.log ++ goodbye conn .authenticationFailure delivered) = messagesTo conn' s.log := by
    intro conn' hne
    rw [messagesTo_append, messagesTo_goodbye_of_ne hne, List.append_nil]
  have hmem : conn ∈ s.pending := by
    rw [pending_of_polls hs]
    simp [hl]
  have hhand : s.view.handshaking = some conn := by simp [view_eq, hl]
  have hin : conn ∈ s.view.authenticated.map AuthenticatedSession.conn ++
      s.view.handshaking.toList := by
    rw [hhand]
    exact List.mem_append_right _ (List.mem_singleton.mpr rfl)
  refine hc.speaks hlater conn hother ?_ ⟨ho.accepted conn hin, ?_⟩ (hlater.stage rfl ?_ hc.stage)
  · show Dialogue config _ past conn
      (messagesTo conn (s.log ++ goodbye conn .authenticationFailure delivered))
    rw [messagesTo_append, hc.unheard hmem, messagesTo_goodbye]
    cases delivered with
    | false => exact .silent
    | true =>
      refine .rejected fun session hsession hconn => ?_
      have hauth : session ∈ s.view.authenticated := by
        simpa [view_eq, authenticated] using hsession
      have hlt := (List.pairwise_append.mp ho.increasing).2.2 session.conn
        (List.mem_map_of_mem hauth) conn (by rw [hhand]; exact List.mem_singleton.mpr rfl)
      omega
  · show conn ∉ (s.setListening .accepting).pending
    rw [pending_setListening hs]
    exact List.not_mem_nil
  · intro conn' hne
    apply hother
    rintro rfl
    exact hne (hc.unheard hmem)

/-- A client is told why its session was not prepared, if it was refused. -/
theorem conversing_turnsAway (ho : s.view.Order) (hc : s.Conversing config verify past) {root : Nat}
    {session : AuthenticatedSession} {ans : Answers} (hp : s.phase = .preparing root session)
    {launched : Bool} {farewell : List Entry}
    (h : TurnedAway config session ans launched farewell) :
    Conversing config verify { (s.launch session.conn launched).recover root with
      log := (s.launch session.conn launched).log ++ farewell } past := by
  have hlaunch : ∀ conn, messagesTo conn (s.launch session.conn launched).log =
      messagesTo conn s.log := by
    intro conn
    cases launched
    · rfl
    · exact messagesTo_quiet s (fun _ => rfl) conn
  have hw : s.phase.waiting = some session := by rw [hp]; rfl
  refine hc.answers ho (later_turnsAway h) hw ?_ ?_ (fun conn hne => ?_) (fun hmem => ?_) trivial
  · cases launched <;> rfl
  · cases launched <;> exact recover_pending s root
  · show messagesTo conn (_ ++ farewell) = _
    rw [messagesTo_append, hlaunch]
    rcases h with ⟨reason, delivered, -, rfl⟩ | ⟨-, rfl⟩
    · rw [messagesTo_goodbye_of_ne hne, List.append_nil]
    · exact List.append_nil _
  · show Dialogue config _ past session.conn
      (messagesTo session.conn ((s.launch session.conn launched).log ++ farewell))
    rw [messagesTo_append, hlaunch, hc.unheard (waiting_mem hw), List.nil_append]
    rcases h with ⟨reason, delivered, hans, rfl⟩ | ⟨-, rfl⟩
    · rw [messagesTo_goodbye]
      cases delivered with
      | false => exact .silent
      | true => exact .refused session hmem rfl reason ⟨ans, launched, hans⟩
    · exact .silent

/-- The server is stopped before the session starts. -/
theorem conversing_shutsDown (ho : s.view.Order) (hc : s.Conversing config verify past)
    {backend : SwapableBackend Nat} {session : AuthenticatedSession} {plan : Plan} {delivered : Bool}
    (hp : s.phase = .checking backend session plan) (hcan : s.cancelled = true) :
    Conversing config verify { s.recover backend.root with
      log := s.log ++ goodbye session.conn .shuttingDown delivered } past := by
  have hw : s.phase.waiting = some session := by rw [hp]; rfl
  have heffect : Effect config verify s _ := .shutsDown backend session plan delivered hp hcan
  refine hc.answers ho (effect_later heffect) hw rfl (recover_pending s _) (fun conn hne => ?_)
    (fun hmem => ?_) trivial
  · show messagesTo conn (s.log ++ goodbye session.conn .shuttingDown delivered) = _
    rw [messagesTo_append, messagesTo_goodbye_of_ne hne, List.append_nil]
  · show Dialogue config _ past session.conn
      (messagesTo session.conn (s.log ++ goodbye session.conn .shuttingDown delivered))
    rw [messagesTo_append, hc.unheard (waiting_mem hw), messagesTo_goodbye]
    cases delivered with
    | false => exact .silent
    | true => exact .stopped session hmem rfl hcan

/-- The `ServerInit` is sent, and the session does not start. -/
theorem conversing_breaksOff (ho : s.view.Order) (hc : s.Conversing config verify past)
    {backend : SwapableBackend Nat} {session : AuthenticatedSession} {plan : Plan}
    (hp : s.phase = .announcing backend session plan) :
    Conversing config verify { s.recover backend.root with
      log := s.log ++
        [.sent session.conn (.serverInit (plan.serverInit s.nextClientId config.name))] } past := by
  have hplan := hc.stage
  rw [hp] at hplan
  have hw : s.phase.waiting = some session := by rw [hp]; rfl
  have heffect : Effect config verify s _ := .breaksOff backend session plan true hp
  refine hc.answers ho (effect_later heffect) hw rfl (recover_pending s _) (fun conn hne => ?_)
    (fun hmem => ?_) trivial
  · show messagesTo conn (s.log ++ [_]) = _
    rw [messagesTo_append, messagesTo_sent_of_ne hne, List.append_nil]
  · show Dialogue config _ past session.conn (messagesTo session.conn (s.log ++ [_]))
    rw [messagesTo_append, hc.unheard (waiting_mem hw), messagesTo_sent]
    exact .served session hmem rfl plan hplan s.nextClientId [] (Nat.zero_le _) (Or.inr rfl)
      fun reason hr => by cases hr

/-- The `ServerInit` is sent. -/
theorem conversing_activates (ho : s.view.Order) (hc : s.Conversing config verify past)
    {backend : SwapableBackend Nat} {session : AuthenticatedSession} {plan : Plan}
    (hp : s.phase = .announcing backend session plan) :
    Conversing config verify { s with
      phase := .activated backend session plan
      nextClientId := s.nextClientId + 1
      log := s.log ++
        [.sent session.conn (.serverInit (plan.serverInit s.nextClientId config.name))] ++
        [.activated session.conn s.nextClientId] } past := by
  have hplan := hc.stage
  rw [hp] at hplan
  have hw : s.phase.waiting = some session := by rw [hp]; rfl
  have hsaid : messagesTo session.conn (s.log ++
      [.sent session.conn (.serverInit (plan.serverInit s.nextClientId config.name))] ++
      [.activated session.conn s.nextClientId]) =
      [.serverInit (plan.serverInit s.nextClientId config.name)] := by
    rw [messagesTo_append, messagesTo_append, hc.unheard (waiting_mem hw), messagesTo_sent]
    rfl
  have hid : (session.conn, s.nextClientId) ∈ activated (s.log ++
      [.sent session.conn (.serverInit (plan.serverInit s.nextClientId config.name))] ++
      [.activated session.conn s.nextClientId]) := by
    simp [activated, List.filterMap_cons]
  have heffect : Effect config verify s _ := .activates backend session plan hp
  refine hc.answers ho (effect_later heffect) hw rfl (recover_pending s backend.root)
    (fun conn hne => ?_) (fun hmem => ?_) ⟨hplan, s.nextClientId, hid, hsaid⟩
  · show messagesTo conn (s.log ++ [_] ++ [_]) = _
    rw [messagesTo_append, messagesTo_append, messagesTo_sent_of_ne hne, List.append_nil]
    exact List.append_nil _
  · show Dialogue config _ past session.conn (messagesTo session.conn (s.log ++ [_] ++ [_]))
    rw [hsaid]
    exact .served session hmem rfl plan hplan s.nextClientId [] (Nat.zero_le _) (Or.inr rfl)
      fun reason hr => by cases hr

/-- An active session makes a step, and may be told goodbye for what has happened. -/
theorem conversing_serves (ho : s.view.Order) (hc : s.Conversing config verify past)
    {backend : SwapableBackend Nat} {session : AuthenticatedSession} {tasks tasks' : Session}
    {a : SessionAct} (hp : s.phase = .active backend session tasks) (ha : ofSession a = true)
    (ht : tasks.step a = some tasks') (hpast : (session.conn, tasks') ∈ past) :
    Conversing config verify { s with
      phase := .active backend session tasks'
      log := s.log ++ written session.conn tasks tasks' } past := by
  have heffect : Effect config verify s _ := .serves backend session tasks tasks' a hp ha ht
  have hl := effect_later heffect
  have hstage := hc.stage
  rw [hp] at hstage
  obtain ⟨hfarewell, hstop, hnew, plan, clientId, hplan, hid, hsaid⟩ := hstage
  obtain ⟨hstopped, hnewSession⟩ := session_world ha ht
  rw [← hstopped] at hstop
  rw [← hnewSession] at hnew
  have hfarewell' := Session.step_farewell ht hfarewell
  have hserving : s.phase.serving = some session := by rw [hp]; rfl
  have hmem : session ∈ authenticated s.log := ho.known session (Or.inr (Or.inr hserving))
  have hheard := hc.heard session.conn (by rw [hsaid]; exact List.cons_ne_nil _ _)
  have hsaid' : messagesTo session.conn (s.log ++ written session.conn tasks tasks') =
      .serverInit (plan.serverInit clientId config.name) ::
        tasks'.control.written.map .serverGoodbye := by
    rw [messagesTo_append, hsaid, List.cons_append,
      messagesTo_written (Session.step_written ht)]
  refine hc.speaks hl session.conn (fun conn hne => ?_) ?_ (hl.heard hheard)
    ⟨hfarewell', hstop, hnew, plan, clientId, hplan, hl.activated hid, hsaid'⟩
  · rw [messagesTo_append, messagesTo_written_of_ne hne, List.append_nil]
  · rw [hsaid']
    refine .served session (hl.authenticated hmem) rfl plan hplan clientId _
      (hfarewell'.queued.length_written hfarewell'.inv) (Or.inl (hl.activated hid)) ?_
    intro reason hr
    exact hl.grounds (grounds_of_happened ho hserving hpast hstop hnew (hfarewell'.written hr))

/-- **Every step keeps the dialogues**; `hpast`: what it leaves of the active session is noted. -/
theorem effect_conversing (h : Effect config verify s s') (ho : s.view.Order)
    (hc : s.Conversing config verify past)
    (hpast : ∀ x, s'.phase.session? = some x → x ∈ past) :
    s'.Conversing config verify past := by
  have hl := effect_later h
  cases h with
  | stops hx hcan => exact conversing_stop hc
  | processExits backend status hb hp =>
    exact hc.silently hl (fun _ => rfl) (hl.stage rfl (fun _ _ => rfl) hc.stage)
  | initializes hp => exact hc.silently hl (fun _ => rfl) trivial
  | listens root hp hcan => exact hc.silently hl (fun _ => rfl) trivial
  | exitsEarly hp e he hcan => exact hc.silently hl (fun _ => rfl) trivial
  | idles => exact hc
  | accepts hs hlisten =>
    exact hc.silently hl (fun _ => rfl) (hl.stage rfl (fun _ _ => rfl) hc.stage)
  | drops conn hs hlisten =>
    exact hc.silently hl (fun _ => rfl) (hl.stage rfl (fun _ _ => rfl) hc.stage)
  | rejects conn ci hs hlisten hv =>
    exact hc.silently hl (fun _ => rfl) (hl.stage rfl (fun _ _ => rfl) hc.stage)
  | refuses conn delivered hs hlisten => exact conversing_refuses ho hc hs hlisten
  | yields conn root ci hs hlisten hv hp =>
    refine hc.silently hl (fun conn' => ?_) trivial
    rw [List.append_assoc]
    exact messagesTo_quiet s (fun _ => rfl) conn'
  | peeks conn ci backend current tasks hs hlisten hv hp =>
    exact hc.worldMoves (a := .login) hl hp rfl rfl rfl (messagesTo_quiet s fun _ => rfl) Or.inl
      fun _ => Or.inr rfl
  | closes backend current tasks hs hlisten hp =>
    refine hc.worldMoves (a := .login) hl hp rfl rfl rfl (fun _ => rfl) Or.inl fun _ => Or.inr ?_
    simp [streamReady, setListening]
  | interrupts root hp listening hlisten => exact hc.silently hl (fun _ => rfl) trivial
  | takes root session hp hs =>
    exact hc.silently hl (messagesTo_quiet s fun _ => rfl) trivial
  | turnsAway root session ans hp launched farewell hans => exact conversing_turnsAway ho hc hp hans
  | prepares root session ans hp launched plan hans =>
    refine hc.silently hl (fun conn => ?_) ⟨ans, launched, hans⟩
    cases launched
    · rfl
    · exact messagesTo_quiet s (fun _ => rfl) conn
  | shutsDown backend session plan delivered hp hcan => exact conversing_shutsDown ho hc hp hcan
  | checks backend session plan hp hcan =>
    have hstage := hc.stage
    rw [hp] at hstage
    exact hc.silently hl (fun _ => rfl) hstage
  | breaksOff backend session plan sent hp =>
    cases sent with
    | false => exact hc.silently hl (messagesTo_quiet s fun _ => rfl) trivial
    | true => exact conversing_breaksOff ho hc hp
  | activates backend session plan hp => exact conversing_activates ho hc hp
  | misfires backend session plan hp =>
    exact hc.silently hl (messagesTo_quiet s fun _ => rfl) trivial
  | starts backend session plan hp =>
    have hstage := hc.stage
    rw [hp] at hstage
    obtain ⟨hplan, clientId, hid, hsaid⟩ := hstage
    exact hc.silently hl (fun _ => rfl)
      ⟨Session.farewell_init _ _ _, id, id, plan, clientId, hplan, hid, hsaid⟩
  | serves backend session tasks tasks' a hp ha ht =>
    exact conversing_serves ho hc hp ha ht (hpast _ rfl)
  | leaves backend session tasks hp hpc =>
    exact hc.silently hl (messagesTo_quiet s fun _ => rfl) trivial
  | resumes backend hp hcan hw => exact hc.silently hl (fun _ => rfl) trivial
  | exits backend result hp hr => exact hc.silently hl (fun _ => rfl) trivial

theorem conversing_init : init.Conversing config verify [] where
  verified := by
    intro session hs
    cases hs
  dialogue := fun _ => .silent
  heard := by
    intro conn hne
    exact absurd rfl hne
  stage := trivial

/-- What has happened so far is not forgotten. -/
theorem Conversing.mono_past (hc : s.Conversing config verify past) {past' : List (Nat × Session)}
    (hsub : past ⊆ past') : s.Conversing config verify past' where
  verified := hc.verified
  dialogue := fun conn => (hc.dialogue conn).mono_past hsub
  heard := hc.heard
  stage := hc.stage

theorem conversing_always (config : Configuration) (verify : String → Bool) (acts : List Act) :
    Machine.Always (watchSessions config verify)
      (fun x => x.1.view.Order ∧ x.1.Conversing config verify x.2) (init, []) acts := by
  refine Machine.always_of_invariant (fun x a y hi hs => ?_) acts ⟨order_init, conversing_init⟩
  obtain ⟨hstep, hnote⟩ := Machine.observe_eq_some.mp hs
  have heffect := step_effect hstep
  have hpast : y.2 = x.2 ++ y.1.phase.session?.toList := by
    rw [hnote, noteSession, hstep]
    rfl
  refine ⟨effect_order heffect hi.1, effect_conversing heffect hi.1 (hi.2.mono_past ?_) ?_⟩
  · rw [hpast]
    exact List.subset_append_left _ _
  · intro session hsession
    rw [hpast, hsession]
    exact List.mem_append_right _ (List.mem_singleton.mpr rfl)

end Server

/-! ## What each client is told -/

/-- Those who were authenticated had the token, and every connection was told nothing, or goodbye
with its reason, or that its session starts and then at most one goodbye, for what has happened. -/
structure Told (config : Configuration) (verify : String → Bool) (s : Server)
    (past : List (Nat × Session)) : Prop where
  verified : ∀ session ∈ authenticated s.log, verify session.clientInit.authToken = true
  dialogue : ∀ conn, Dialogue config s past conn (messagesTo conn s.log)

/-- **What each client is told** at every moment of every run, whatever clients send, however
backends, sockets and sends turn out, and whenever the server is stopped. -/
theorem dialogues (config : Configuration) (verify : String → Bool) (acts : List Act) :
    Machine.Always (Server.watchSessions config verify) (fun x => Told config verify x.1 x.2)
      (Server.init, []) acts :=
  (Server.conversing_always config verify acts).mono fun _ h => ⟨h.2.verified, h.2.dialogue⟩

/-- What a client that was told that its session starts makes of it, if it is ready for the decoders it
asked for: it accepts, and finds the areas and the tunnels that it asked for. -/
def Accepts (clientInit : Proto.ClientInit) (serverInit : Proto.ServerInit) : Prop :=
  ∀ decoderMax, clientInit.maxDecoderCount ≤ decoderMax →
    ∃ p listen, connect decoderMax (.serverInit serverInit) = .ok p ∧
      p.displayConfig.encoderCount = clientInit.maxDecoderCount ∧
      p.allocatedTunnels = (generateResponses listen clientInit.tunnelRequests).1

/-- **The clients accept what they are told**: whoever is told that a session starts was authenticated
with the token, and accepts. -/
theorem offers_accepted (config : Configuration) (verify : String → Bool) (acts : List Act) :
    Machine.Always (Server.step config verify)
      (fun s => ∀ conn serverInit, .serverInit serverInit ∈ messagesTo conn s.log →
        ∃ session ∈ authenticated s.log, session.conn = conn ∧
          verify session.clientInit.authToken = true ∧ Accepts session.clientInit serverInit)
      Server.init acts := by
  refine (Machine.always_observe acts (Server.init, [])).mp
    ((Server.conversing_always config verify acts).mono fun x h conn serverInit hmem => ?_)
  obtain ⟨-, hconversing⟩ := h
  have hdialogue := hconversing.dialogue conn
  generalize messagesTo conn x.1.log = ms at hdialogue hmem
  cases hdialogue with
  | silent => cases hmem
  | rejected hr =>
    rw [List.mem_singleton] at hmem
    cases hmem
  | refused session hs hconn reason hr =>
    rw [List.mem_singleton] at hmem
    cases hmem
  | stopped session hs hconn hc =>
    rw [List.mem_singleton] at hmem
    cases hmem
  | served session hs hconn plan hplan clientId farewell hlen hid hgrounds =>
    have hinit : serverInit = plan.serverInit clientId config.name := by
      rcases List.mem_cons.mp hmem with heq | hmem
      · cases heq
        rfl
      · obtain ⟨reason, -, heq⟩ := List.mem_map.mp hmem
        cases heq
    obtain ⟨ans, launched, hready⟩ := hplan
    have hfits := prepare_ready hready
    refine ⟨session, hs, hconn, hconversing.verified session hs, fun decoderMax hmax => ?_⟩
    obtain ⟨p, hp, -, -, -, -, hcount, htunnels⟩ := connect_of_ready hfits hmax clientId config.name
    refine ⟨p, ans.listen, ?_, hcount, htunnels.trans hfits.responses⟩
    rw [hinit]
    exact hp

end ApertureC.ServerLifecycle
