import ApertureC.Lib.History
import ApertureC.ServerLifecycle

/-!
# The order of sessions

Connections are taken from the stream in the order in which they were authenticated, none is taken
twice and none is lost while the server goes on; the sessions that start are among them, in the same
order, each with the next client id, and one is over before the next one starts
(`aperturec-server/src/server.rs`, `session.rs`).

* `authenticated`, `taken`, `activated`, `ended` — what the log says of these; `activated` also gives
  the client ids.
* `Order` — how they stand to each other and to where the server is.

Principal results: `effect_order` (**every step keeps the order**) and `sessions_in_order`.
-/

set_option autoImplicit false

namespace ApertureC.ServerLifecycle

open Handshake ServerSession

/-! ## Reading the log -/

@[simp] def Entry.session? : Entry → Option AuthenticatedSession
  | .authenticated session => some session
  | _ => none

@[simp] def Entry.took? : Entry → Option Nat
  | .took conn => some conn
  | _ => none

@[simp] def Entry.activated? : Entry → Option (Nat × Nat)
  | .activated conn clientId => some (conn, clientId)
  | _ => none

@[simp] def Entry.ended? : Entry → Option Nat
  | .ended conn => some conn
  | _ => none

def authenticated (log : List Entry) : List AuthenticatedSession := log.filterMap Entry.session?

def taken (log : List Entry) : List Nat := log.filterMap Entry.took?

/-- The connections whose sessions started, with their client ids. -/
def activated (log : List Entry) : List (Nat × Nat) := log.filterMap Entry.activated?

def ended (log : List Entry) : List Nat := log.filterMap Entry.ended?

/-- A reading of the log that no message changes. -/
def Silent {α : Type} (f : Entry → Option α) : Prop := ∀ conn m, f (.sent conn m) = none

@[simp] theorem Silent.goodbye {α : Type} {f : Entry → Option α} (hf : Silent f) (conn : Nat)
    (reason : ServerGoodbyeReason) (delivered : Bool) :
    (Server.goodbye conn reason delivered).filterMap f = [] := by
  cases delivered with
  | true => exact List.filterMap_cons_none (hf conn _)
  | false => rfl

@[simp] theorem Silent.written {α : Type} {f : Entry → Option α} (hf : Silent f) (conn : Nat)
    (tasks tasks' : Session) : (Server.written conn tasks tasks').filterMap f = [] := by
  rw [Server.written, List.filterMap_map, List.filterMap_eq_nil_iff]
  intro reason _
  exact hf conn _

@[simp] theorem silent_session : Silent Entry.session? := fun _ _ => rfl

@[simp] theorem silent_took : Silent Entry.took? := fun _ _ => rfl

@[simp] theorem silent_activated : Silent Entry.activated? := fun _ _ => rfl

@[simp] theorem silent_ended : Silent Entry.ended? := fun _ _ => rfl

/-! ## Where the server is -/

/-- The connection whose first message is waited for, or that is being refused. -/
@[simp] def SessionStream.handshaking (stream : SessionStream) : Option Nat :=
  match stream.listening with
  | .receiving conn => some conn
  | .refusing conn => some conn
  | _ => none

/-- The session that was taken and has not started. -/
@[simp] def Phase.waiting : Phase → Option AuthenticatedSession
  | .preparing _ session => some session
  | .checking _ session _ => some session
  | .announcing _ session _ => some session
  | _ => none

/-- The session that has started and is not over. -/
@[simp] def Phase.serving : Phase → Option AuthenticatedSession
  | .activated _ session _ => some session
  | .active _ session _ => some session
  | _ => none

/-- What the order of sessions depends on. -/
structure View where
  authenticated : List AuthenticatedSession
  taken : List Nat
  activated : List (Nat × Nat)
  ended : List Nat
  accepted : Nat
  nextClientId : Nat
  handshaking : Option Nat
  peeked : Option AuthenticatedSession
  waiting : Option AuthenticatedSession
  serving : Option AuthenticatedSession

def Server.view (s : Server) : View where
  authenticated := ServerLifecycle.authenticated s.log
  taken := ServerLifecycle.taken s.log
  activated := ServerLifecycle.activated s.log
  ended := ServerLifecycle.ended s.log
  accepted := s.accepted
  nextClientId := s.nextClientId
  handshaking := s.stream.handshaking
  peeked := s.stream.peeked
  waiting := s.phase.waiting
  serving := s.phase.serving

def conns (session : Option AuthenticatedSession) : List Nat :=
  (session.map AuthenticatedSession.conn).toList

@[simp] theorem conns_none : conns none = [] := rfl

@[simp] theorem conns_some (session : AuthenticatedSession) :
    conns (some session) = [session.conn] := rfl

/-- How sessions stand to each other: connections are numbered as they come; those authenticated are
taken in order, up to one that waits in the stream; those that start are among those taken before the
one that waits to start, have consecutive client ids, and are over apart from the one being
served. -/
structure View.Order (v : View) : Prop where
  increasing : (v.authenticated.map AuthenticatedSession.conn ++ v.handshaking.toList).Pairwise
    (· < ·)
  accepted : ∀ c ∈ v.authenticated.map AuthenticatedSession.conn ++ v.handshaking.toList,
    c < v.accepted
  queue : v.authenticated.map AuthenticatedSession.conn = v.taken ++ conns v.peeked
  peeked : v.peeked.isSome = true → v.handshaking = none
  waiting : ∃ earlier, v.taken = earlier ++ conns v.waiting ∧
    (v.activated.map Prod.fst).Sublist earlier
  serving : v.activated.map Prod.fst = v.ended ++ conns v.serving
  ids : v.activated.map Prod.snd = List.range v.nextClientId
  known : ∀ session, v.peeked = some session ∨ v.waiting = some session ∨
    v.serving = some session → session ∈ v.authenticated

/-! ## Every step keeps the order -/

namespace View.Order

variable {v : View}

/-- A connection is accepted. -/
theorem accepts (h : v.Order) (hh : v.handshaking = none) (hp : v.peeked = none) :
    View.Order { v with handshaking := some v.accepted, accepted := v.accepted + 1 } where
  increasing := by
    have hi := h.increasing
    rw [hh, Option.toList_none, List.append_nil] at hi
    refine List.pairwise_append.mpr ⟨hi, List.pairwise_singleton _ _, ?_⟩
    intro c hc d hd
    rw [Option.toList_some, List.mem_singleton] at hd
    rw [hd]
    exact h.accepted c (List.mem_append_left _ hc)
  accepted := by
    intro c hc
    rcases List.mem_append.mp hc with hc | hc
    · exact Nat.lt_succ_of_lt (h.accepted c (List.mem_append_left _ hc))
    · rw [Option.toList_some, List.mem_singleton] at hc
      rw [hc]
      exact Nat.lt_succ_self _
  queue := h.queue
  peeked := by
    intro hsome
    change v.peeked.isSome = true at hsome
    rw [hp] at hsome
    cases hsome
  waiting := h.waiting
  serving := h.serving
  ids := h.ids
  known := h.known

/-- A connection is given up. -/
theorem forgets (h : v.Order) : View.Order { v with handshaking := none } where
  increasing := by
    rw [Option.toList_none, List.append_nil]
    exact h.increasing.sublist (List.sublist_append_left _ _)
  accepted := by
    intro c hc
    rw [Option.toList_none, List.append_nil] at hc
    exact h.accepted c (List.mem_append_left _ hc)
  queue := h.queue
  peeked := fun _ => rfl
  waiting := h.waiting
  serving := h.serving
  ids := h.ids
  known := h.known

/-- A connection is authenticated, and waits in the stream. -/
theorem peeks (h : v.Order) (session : AuthenticatedSession)
    (hh : v.handshaking = some session.conn) (hp : v.peeked = none) :
    View.Order { v with
      authenticated := v.authenticated ++ [session]
      handshaking := none
      peeked := some session } where
  increasing := by
    have hi := h.increasing
    rw [hh] at hi
    simpa using hi
  accepted := by
    have ha := h.accepted
    rw [hh] at ha
    simpa using ha
  queue := by
    have hq := h.queue
    rw [hp] at hq
    simp [hq]
  peeked := fun _ => rfl
  waiting := h.waiting
  serving := h.serving
  ids := h.ids
  known := by
    intro session' hs
    rcases hs with hs | hs
    · cases hs
      exact List.mem_append_right _ (List.mem_singleton.mpr rfl)
    · exact List.mem_append_left _ (h.known session' (Or.inr hs))

/-- The session that waits in the stream is taken. -/
theorem takes (h : v.Order) (session : AuthenticatedSession) (hp : v.peeked = some session)
    (hw : v.waiting = none) :
    View.Order { v with
      taken := v.taken ++ [session.conn]
      peeked := none
      waiting := some session } where
  increasing := h.increasing
  accepted := h.accepted
  queue := by
    have hq := h.queue
    rw [hp] at hq
    simp [hq]
  peeked := by simp
  waiting := by
    obtain ⟨earlier, htaken, hsub⟩ := h.waiting
    rw [hw] at htaken
    refine ⟨v.taken, rfl, ?_⟩
    rw [htaken]
    simpa using hsub
  serving := h.serving
  ids := h.ids
  known := by
    intro session' hs
    rcases hs with hs | hs | hs
    · cases hs
    · cases hs
      exact h.known session (Or.inl hp)
    · exact h.known session' (Or.inr (Or.inr hs))

/-- The session that waited to start does not. -/
theorem abandons (h : v.Order) : View.Order { v with waiting := none } where
  increasing := h.increasing
  accepted := h.accepted
  queue := h.queue
  peeked := h.peeked
  waiting := by
    obtain ⟨earlier, htaken, hsub⟩ := h.waiting
    refine ⟨v.taken, by simp, ?_⟩
    rw [htaken]
    exact hsub.trans (List.sublist_append_left _ _)
  serving := h.serving
  ids := h.ids
  known := by
    intro session' hs
    rcases hs with hs | hs | hs
    · exact h.known session' (Or.inl hs)
    · cases hs
    · exact h.known session' (Or.inr (Or.inr hs))

/-- The session that waited to start does, with the next client id. -/
theorem activates (h : v.Order) (session : AuthenticatedSession) (hw : v.waiting = some session)
    (hs : v.serving = none) :
    View.Order { v with
      activated := v.activated ++ [(session.conn, v.nextClientId)]
      nextClientId := v.nextClientId + 1
      waiting := none
      serving := some session } where
  increasing := h.increasing
  accepted := h.accepted
  queue := h.queue
  peeked := h.peeked
  waiting := by
    obtain ⟨earlier, htaken, hsub⟩ := h.waiting
    rw [hw] at htaken
    refine ⟨v.taken, by simp, ?_⟩
    rw [htaken, List.map_append]
    exact hsub.append (List.Sublist.refl _)
  serving := by
    have hserving := h.serving
    rw [hs] at hserving
    simp [hserving]
  ids := by
    simp [h.ids, List.range_succ]
  known := by
    intro session' hs'
    rcases hs' with hs' | hs' | hs'
    · exact h.known session' (Or.inl hs')
    · cases hs'
    · cases hs'
      exact h.known session (Or.inr (Or.inl hw))

/-- The session that was served is over. -/
theorem ends (h : v.Order) (session : AuthenticatedSession) (hs : v.serving = some session) :
    View.Order { v with ended := v.ended ++ [session.conn], serving := none } where
  increasing := h.increasing
  accepted := h.accepted
  queue := h.queue
  peeked := h.peeked
  waiting := h.waiting
  serving := by
    have hserving := h.serving
    rw [hs] at hserving
    simp [hserving]
  ids := h.ids
  known := by
    intro session' hs'
    rcases hs' with hs' | hs' | hs'
    · exact h.known session' (Or.inl hs')
    · exact h.known session' (Or.inr (Or.inl hs'))
    · cases hs'

end View.Order

namespace Server

variable {config : Configuration} {verify : String → Bool} {s s' : Server}

/-- The readings of the log, to be read entry by entry. -/
theorem view_eq (s : Server) : s.view =
    ⟨s.log.filterMap Entry.session?, s.log.filterMap Entry.took?, s.log.filterMap Entry.activated?,
      s.log.filterMap Entry.ended?, s.accepted, s.nextClientId, s.stream.handshaking,
      s.stream.peeked, s.phase.waiting, s.phase.serving⟩ := rfl

/-- A step that the order does not depend on. -/
theorem order_of_eq {v v' : View} (h : v.Order) (heq : v' = v) : v'.Order := heq ▸ h

theorem launch_log (s : Server) (conn : Nat) (launched : Bool) :
    (s.launch conn launched).log =
      s.log ++ if launched then [.launched conn s.backends] else [] := by
  cases launched with
  | true => rfl
  | false => exact (List.append_nil _).symm

theorem pollsStream_peeked (h : s.pollsStream = true) : s.stream.peeked = none := by
  unfold pollsStream at h
  exact Option.isNone_iff_eq_none.mp (Bool.and_eq_true_iff.mp h).1

theorem order_init : init.view.Order where
  increasing := List.Pairwise.nil
  accepted := fun _ hc => by cases hc
  queue := rfl
  peeked := fun h => by cases h
  waiting := ⟨[], rfl, List.Sublist.refl _⟩
  serving := rfl
  ids := rfl
  known := by
    rintro session (h | h | h) <;> cases h

/-- **Every step keeps the order.** -/
theorem effect_order (h : Effect config verify s s') (ho : s.view.Order) : s'.view.Order := by
  cases h with
  | stops hx hc =>
    refine order_of_eq ho ?_
    cases hp : s.phase <;> simp [view_eq, stop, hp]
  | processExits backend status hb hp => exact ho
  | initializes hp => exact order_of_eq ho (by simp [view_eq, hp])
  | listens root hp hc => exact order_of_eq ho (by simp [view_eq, hp])
  | exitsEarly hp e he hc =>
    rcases hp with hp | ⟨root, hp⟩
    · exact order_of_eq ho (by simp [view_eq, hp])
    · exact order_of_eq ho (by simp [view_eq, hp])
  | idles => exact ho
  | accepts hs hl =>
    refine order_of_eq (ho.accepts ?_ ?_) (by simp [view_eq, setListening])
    · simp [view_eq, hl]
    · exact pollsStream_peeked hs
  | drops conn hs hl => exact order_of_eq ho.forgets (by simp [view_eq, setListening])
  | rejects conn ci hs hl hv => exact order_of_eq ho (by simp [view_eq, setListening, hl])
  | refuses conn delivered hs hl =>
    exact order_of_eq ho.forgets (by simp [view_eq, setListening])
  | yields conn root ci hs hl hv hp =>
    have hpeeked : s.view.peeked = none := pollsStream_peeked hs
    have hhand : s.view.handshaking = some conn := by simp [view_eq, hl]
    have hyield := ho.peeks ⟨conn, ci⟩ hhand hpeeked
    refine order_of_eq (hyield.takes ⟨conn, ci⟩ rfl ?_) ?_
    · simp [view_eq, hp]
    · have hnone : s.stream.peeked = none := hpeeked
      simp [view_eq, setListening, hnone, hp, List.filterMap_cons]
  | peeks conn ci backend current tasks hs hl hv hp =>
    have hpeeked : s.view.peeked = none := pollsStream_peeked hs
    have hhand : s.view.handshaking = some conn := by simp [view_eq, hl]
    exact order_of_eq (ho.peeks ⟨conn, ci⟩ hhand hpeeked) (by simp [view_eq, hp])
  | closes backend current tasks hs hl hp =>
    exact order_of_eq ho (by simp [view_eq, setListening, hl, hp])
  | interrupts root hp listening hl =>
    rcases hl with rfl | ⟨rfl, hl, -⟩
    · exact order_of_eq ho (by simp [view_eq, recover, setListening, hp])
    · exact order_of_eq ho (by simp [view_eq, recover, setListening, hp, hl])
  | takes root session hp hs =>
    refine order_of_eq (ho.takes session hs ?_) (by simp [view_eq, hp])
    simp [view_eq, hp]
  | turnsAway root session ans hp launched farewell hans =>
    refine order_of_eq ho.abandons ?_
    have hsilent : ∀ {α : Type} {f : Entry → Option α}, Silent f → farewell.filterMap f = [] := by
      intro α f hf
      rcases hans with ⟨reason, delivered, -, rfl⟩ | ⟨-, rfl⟩
      · exact hf.goodbye _ _ _
      · rfl
    cases launched <;> simp [view_eq, launch, recover, hp, hsilent, List.filterMap_cons]
  | prepares root session ans hp launched plan hans =>
    cases launched <;> exact order_of_eq ho (by simp [view_eq, launch, hp])
  | shutsDown backend session plan delivered hp hc =>
    exact order_of_eq ho.abandons (by simp [view_eq, recover, hp])
  | checks backend session plan hp hc => exact order_of_eq ho (by simp [view_eq, hp])
  | breaksOff backend session plan sent hp =>
    cases sent <;> exact order_of_eq ho.abandons (by simp [view_eq, recover, hp])
  | activates backend session plan hp =>
    refine order_of_eq (ho.activates session ?_ ?_) ?_
    · simp [view_eq, hp]
    · simp [view_eq, hp]
    · simp [view_eq, hp, List.filterMap_cons]
  | misfires backend session plan hp =>
    refine order_of_eq (ho.ends session ?_) (by simp [view_eq, hp])
    simp [view_eq, hp]
  | starts backend session plan hp => exact order_of_eq ho (by simp [view_eq, hp])
  | serves backend session tasks tasks' a hp ha ht =>
    exact order_of_eq ho (by simp [view_eq, hp])
  | leaves backend session tasks hp hpc =>
    refine order_of_eq (ho.ends session ?_) (by simp [view_eq, hp])
    simp [view_eq, hp]
  | resumes backend hp hc hw => exact order_of_eq ho (by simp [view_eq, hp])
  | exits backend result hp hr => exact order_of_eq ho (by simp [view_eq, hp])

end Server

/-! ## Sessions in order -/

/-- Sessions are served in the order in which they were authenticated, one after the other: all that
were authenticated have been taken, apart from one that waits; those that started were taken, in this
order, with client ids `0`, `1`, `2`, …; and all that started are over, apart from one. -/
structure InOrder (log : List Entry) : Prop where
  authenticated : ((authenticated log).map AuthenticatedSession.conn).Pairwise (· < ·)
  taken : ∃ waiting, (ServerLifecycle.authenticated log).map AuthenticatedSession.conn =
    ServerLifecycle.taken log ++ waiting ∧ waiting.length ≤ 1
  started : ((activated log).map Prod.fst).Sublist (ServerLifecycle.taken log)
  ids : (activated log).map Prod.snd = List.range (activated log).length
  finished : ∃ serving, (activated log).map Prod.fst = ended log ++ serving ∧ serving.length ≤ 1

theorem length_conns (session : Option AuthenticatedSession) : (conns session).length ≤ 1 := by
  cases session <;> simp

theorem View.Order.inOrder {s : Server} (h : s.view.Order) : InOrder s.log where
  authenticated := h.increasing.sublist (List.sublist_append_left _ _)
  taken := ⟨_, h.queue, length_conns _⟩
  started := by
    obtain ⟨earlier, htaken, hsub⟩ := h.waiting
    change ServerLifecycle.taken s.log = earlier ++ _ at htaken
    rw [htaken]
    exact hsub.trans (List.sublist_append_left _ _)
  ids := by
    have hids := h.ids
    change (ServerLifecycle.activated s.log).map Prod.snd = List.range s.nextClientId at hids
    have hlen : (ServerLifecycle.activated s.log).length = s.nextClientId := by
      rw [← List.length_map, hids, List.length_range]
    rw [hlen, hids]
  finished := ⟨_, h.serving, length_conns _⟩

/-- **Sessions are served in order** at every moment of every run, whatever clients send, however
backends, sockets and sends turn out, and whenever the server is stopped. -/
theorem sessions_in_order (config : Configuration) (verify : String → Bool) (acts : List Act) :
    Machine.Always (Server.step config verify) (fun s => InOrder s.log) Server.init acts := by
  have hinv : Machine.Always (Server.step config verify) (fun s => s.view.Order) Server.init acts :=
    Machine.always_of_invariant (fun _ _ _ ho hs => Server.effect_order (Server.step_effect hs) ho)
      acts Server.order_init
  exact hinv.mono fun _ h => h.inOrder

end ApertureC.ServerLifecycle
