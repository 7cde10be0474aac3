import ApertureC.Lib.Machine
import ApertureC.Tunnel
import Mathlib.Logic.Function.Basic

/-!
# The tunnel channel of the server (`aperturec-server/src/task/tunnel_channel_handler.rs`)

Four kinds of tasks share unbounded queues: the accept task, the receive task, one task for each
TCP stream, and the dispatch loop, which alone writes to the tunnel channel.  The loop's `select!`
is `biased`: it polls its branches in a fixed order, and another task may push on any queue between
two polls.

* `Branch` — the branches in the order in which they are polled.
* `StreamTask` — the task of one TCP stream with its channel of capacity one.
* `Dispatch` — the state of the loop and of the tasks around it.  Messages of the client carry
  their position in the order of arrival.
* `Dispatch.poll` — the loop polls one branch: it goes on to the next one when there is nothing to
  take, else it handles what it takes and starts again with the first branch.  A handler that has
  to wait is one step, taken when it can end; meanwhile the loop does nothing else.
* `Dispatch.step` — a poll, or a step of one of the other tasks.

`accepted`, `received` and `handled` are history: no step of the source reads them.

Principal results: `poll_polled` and `step_cases` (what a poll and a step can do).
-/

set_option autoImplicit false

namespace ApertureC.TunnelServer

open Tunnel

/-- The branches of the `select!`, in the order in which they are polled; at `waiting` none was
ready. -/
inductive Branch
  | opensFromClient
  | newTcpStreams
  | streamTasks
  | dataToClient
  | dataFromClient
  | closesFromClient
  | closesToClient
  | opensToClient
  | waiting
  deriving DecidableEq, Repr

def Branch.next : Branch → Branch
  | .opensFromClient => .newTcpStreams
  | .newTcpStreams => .streamTasks
  | .streamTasks => .dataToClient
  | .dataToClient => .dataFromClient
  | .dataFromClient => .closesFromClient
  | .closesFromClient => .closesToClient
  | .closesToClient => .opensToClient
  | .opensToClient => .waiting
  | .waiting => .opensFromClient

/-- The task of one TCP stream: what its channel holds, whether the sender was dropped, whether the
task ended, and whether the loop took its result. -/
structure StreamTask where
  id : Id
  toTx : List (List UInt8)
  toTxDropped : Bool
  finished : Bool
  joined : Bool
  deriving DecidableEq, Repr

/-- A message of the client with its position in the order of arrival. -/
structure Arrival where
  position : Nat
  id : Id
  body : Body
  deriving DecidableEq, Repr

/-- Where the connections of a tunnel come from: a listener of the server, or the client. -/
inductive Bound
  | serverBound
  | clientBound
  deriving DecidableEq, Repr

structure Dispatch where
  /-- `tunnels`, of which `server_bound_tids` and `client_bound_tunnels` are the two parts. -/
  tunnels : Nat → Option Bound
  branch : Branch
  /-- The next stream id of the accept task. -/
  sid : Nat
  opensFromClient : List Arrival
  newTcpStreams : List Id
  dataToClient : List (Id × List UInt8)
  dataFromClient : List Arrival
  closesFromClient : List Arrival
  closesToClient : List Id
  opensToClient : List Id
  streamTasks : List StreamTask
  /-- `txs`: the stream task that a stream's data is sent to. -/
  txs : Id → Option Nat
  closedByClient : List Id
  /-- The messages written to the tunnel channel. -/
  toClient : List Message
  /-- History: the streams the accept task accepted. -/
  accepted : List Id
  /-- History: the messages of the client, in order of arrival. -/
  received : List Arrival
  /-- History: the messages of the client that the loop has handled. -/
  handled : List Arrival

namespace Dispatch

/-- The session starts with its tunnels and no stream. -/
def init (tunnels : Nat → Option Bound) : Dispatch where
  tunnels := tunnels
  branch := .opensFromClient
  sid := 0
  opensFromClient := []
  newTcpStreams := []
  dataToClient := []
  dataFromClient := []
  closesFromClient := []
  closesToClient := []
  opensToClient := []
  streamTasks := []
  txs := fun _ => none
  closedByClient := []
  toClient := []
  accepted := []
  received := []
  handled := []

def setTask (s : Dispatch) (i : Nat) (f : StreamTask → StreamTask) : Dispatch :=
  { s with streamTasks := s.streamTasks.modify i f }

/-- Remove the entry of a stream from `txs`; the sender is dropped. -/
def removeTx (s : Dispatch) (id : Id) : Dispatch :=
  match s.txs id with
  | none => s
  | some i =>
    { s.setTask i (fun t => { t with toTxDropped := true }) with
      txs := Function.update s.txs id none }

def write (s : Dispatch) (m : Message) : Dispatch := { s with toClient := s.toClient ++ [m] }

/-! ## The handlers of the dispatch loop -/

/-- `open-from-client`: the tunnel may not exist, and lookup or connect may fail. -/
def handleOpenFromClient (s : Dispatch) (a : Arrival) (connects : Bool) : Dispatch :=
  if s.tunnels a.id.tunnel = some .clientBound ∧ connects = true then
    { s with newTcpStreams := s.newTcpStreams ++ [a.id], handled := s.handled ++ [a] }
  else { s with closesToClient := s.closesToClient ++ [a.id], handled := s.handled ++ [a] }

/-- `new-tcp-stream`: an older sender under the same id is dropped. -/
def handleNewTcpStream (s : Dispatch) (id : Id) : Dispatch :=
  let s := s.removeTx id
  { s with
    streamTasks := s.streamTasks ++ [⟨id, [], false, false, false⟩]
    txs := Function.update s.txs id (some s.streamTasks.length)
    opensToClient :=
      if s.tunnels id.tunnel = some .serverBound then s.opensToClient ++ [id]
      else s.opensToClient }

/-- `stream-task-result` -/
def handleStreamTaskResult (s : Dispatch) (i : Nat) (id : Id) : Dispatch :=
  let s := s.setTask i fun t => { t with joined := true }
  let s :=
    if id ∈ s.closedByClient then { s with closedByClient := s.closedByClient.erase id }
    else { s with closesToClient := s.closesToClient ++ [id] }
  s.removeTx id

/-- `data-from-client`: waits for room in the channel of a running stream task. -/
def handleDataFromClient (s : Dispatch) (a : Arrival) (data : List UInt8) : Option Dispatch :=
  match s.txs a.id with
  | none => some { s with handled := s.handled ++ [a] }
  | some i =>
    match s.streamTasks[i]? with
    | none => none
    | some t =>
      if t.finished then some { s with handled := s.handled ++ [a] }
      else if t.toTx.length < 1 then
        some { s.setTask i (fun t => { t with toTx := t.toTx ++ [data] }) with
          handled := s.handled ++ [a] }
      else none

/-- `closes-from-client` -/
def handleCloseFromClient (s : Dispatch) (a : Arrival) : Dispatch :=
  match s.txs a.id with
  | none => { s with handled := s.handled ++ [a] }
  | some _ =>
    let closed := if a.id ∈ s.closedByClient then s.closedByClient else s.closedByClient ++ [a.id]
    { s.removeTx a.id with closedByClient := closed, handled := s.handled ++ [a] }

/-- Nothing to take: go on to the next branch. -/
def pass (s : Dispatch) : Dispatch := { s with branch := s.branch.next }

/-- The handler has ended: the loop starts again. -/
def again (s : Dispatch) : Dispatch := { s with branch := .opensFromClient }

/-- The loop polls the branch it has come to.  `connects` says how an open of the client goes,
`joined` which of the finished stream tasks is reported first. -/
def poll (s : Dispatch) (connects : Bool) (joined : Nat) : Option Dispatch :=
  match s.branch with
  | .opensFromClient =>
    match s.opensFromClient with
    | [] => some s.pass
    | a :: rest => some (({ s with opensFromClient := rest }).handleOpenFromClient a connects).again
  | .newTcpStreams =>
    match s.newTcpStreams with
    | [] => some s.pass
    | id :: rest => some (({ s with newTcpStreams := rest }).handleNewTcpStream id).again
  | .streamTasks =>
    if s.streamTasks.any fun t => t.finished && !t.joined then
      match s.streamTasks[joined]? with
      | none => none
      | some t =>
        if t.finished && !t.joined then some (s.handleStreamTaskResult joined t.id).again else none
    else some s.pass
  | .dataToClient =>
    match s.dataToClient with
    | [] => some s.pass
    | (id, data) :: rest =>
      some (({ s with dataToClient := rest }).write (tcpData id data)).again
  | .dataFromClient =>
    match s.dataFromClient with
    | [] => some s.pass
    | a :: rest =>
      match a.body with
      | .tcpData data =>
        (({ s with dataFromClient := rest }).handleDataFromClient a data).map again
      | _ => none
  | .closesFromClient =>
    match s.closesFromClient with
    | [] => some s.pass
    | a :: rest => some (({ s with closesFromClient := rest }).handleCloseFromClient a).again
  | .closesToClient =>
    match s.closesToClient with
    | [] => some s.pass
    | id :: rest => some (({ s with closesToClient := rest }).write (closeTcpStream id)).again
  | .opensToClient =>
    match s.opensToClient with
    | [] => some s.pass
    | id :: rest => some (({ s with opensToClient := rest }).write (openTcpStream id)).again
  | .waiting => some s.again

/-! ## The other tasks -/

/-- The accept task: a connection on the port of a server-bound tunnel. -/
def accept (s : Dispatch) (tid : Nat) : Option Dispatch :=
  if s.tunnels tid = some .serverBound then
    some { s with
      newTcpStreams := s.newTcpStreams ++ [⟨tid, s.sid⟩]
      sid := s.sid + 1
      accepted := s.accepted ++ [⟨tid, s.sid⟩] }
  else none

/-- The receive task: a message without a body is skipped. -/
def receive (s : Dispatch) (m : Message) : Dispatch :=
  match m.message with
  | none => s
  | some body =>
    let a : Arrival := ⟨s.received.length, m.id, body⟩
    let s := { s with received := s.received ++ [a] }
    match body with
    | .openTcp => { s with opensFromClient := s.opensFromClient ++ [a] }
    | .closeTcp => { s with closesFromClient := s.closesFromClient ++ [a] }
    | .tcpData _ => { s with dataFromClient := s.dataFromClient ++ [a] }

/-- A stream task reads from its local peer. -/
def read (s : Dispatch) (i : Nat) (data : List UInt8) : Option Dispatch :=
  match s.streamTasks[i]? with
  | none => none
  | some t =>
    if t.finished then none else some { s with dataToClient := s.dataToClient ++ [(t.id, data)] }

/-- A stream task takes data from its channel and writes it to its local peer. -/
def writeLocal (s : Dispatch) (i : Nat) : Option Dispatch :=
  match s.streamTasks[i]? with
  | none => none
  | some t =>
    if t.finished || t.toTx.isEmpty then none
    else some (s.setTask i fun t => { t with toTx := t.toTx.tail })

/-- A stream task ends: end of file, an error, or its channel is closed and empty. -/
def finish (s : Dispatch) (i : Nat) : Option Dispatch :=
  match s.streamTasks[i]? with
  | none => none
  | some t => if t.finished then none else some (s.setTask i fun t => { t with finished := true })

/-! ## What the helpers leave alone -/

theorem removeTx_eq (s : Dispatch) (id : Id) :
    ∃ streamTasks txs, s.removeTx id = { s with streamTasks := streamTasks, txs := txs } := by
  unfold removeTx
  split
  · exact ⟨s.streamTasks, s.txs, rfl⟩
  · exact ⟨_, _, rfl⟩

/-- What handling data of the client changes. -/
theorem handleDataFromClient_eq {s s' : Dispatch} {a : Arrival} {data : List UInt8}
    (h : s.handleDataFromClient a data = some s') :
    ∃ streamTasks, s' = { s with streamTasks := streamTasks, handled := s.handled ++ [a] } := by
  unfold handleDataFromClient at h
  split at h
  · cases h
    exact ⟨s.streamTasks, rfl⟩
  · split at h
    · cases h
    · split at h
      · cases h
        exact ⟨s.streamTasks, rfl⟩
      · split at h
        · cases h
          exact ⟨_, rfl⟩
        · cases h

/-- What handling a close of the client changes. -/
theorem handleCloseFromClient_eq (s : Dispatch) (a : Arrival) :
    ∃ streamTasks txs closed, s.handleCloseFromClient a =
      { s with
        streamTasks := streamTasks, txs := txs, closedByClient := closed
        handled := s.handled ++ [a] } := by
  unfold handleCloseFromClient
  split
  · exact ⟨s.streamTasks, s.txs, s.closedByClient, rfl⟩
  · obtain ⟨tasks, txs, h⟩ := s.removeTx_eq a.id
    rw [h]
    exact ⟨tasks, txs, _, rfl⟩

/-- What starting a stream task changes. -/
theorem handleNewTcpStream_eq (s : Dispatch) (id : Id) :
    ∃ streamTasks txs, s.handleNewTcpStream id =
      { s with
        streamTasks := streamTasks, txs := txs
        opensToClient :=
          if s.tunnels id.tunnel = some .serverBound then s.opensToClient ++ [id]
          else s.opensToClient } := by
  obtain ⟨tasks, txs, h⟩ := s.removeTx_eq id
  unfold handleNewTcpStream
  rw [h]
  exact ⟨_, _, rfl⟩

/-- What the result of a stream task changes. -/
theorem handleStreamTaskResult_eq (s : Dispatch) (i : Nat) (id : Id) :
    ∃ streamTasks txs closed closesToClient, s.handleStreamTaskResult i id =
      { s with
        streamTasks := streamTasks, txs := txs, closedByClient := closed
        closesToClient := closesToClient } := by
  unfold handleStreamTaskResult
  dsimp only
  split
  · obtain ⟨tasks, txs, h⟩ := removeTx_eq
      { s.setTask i (fun t => { t with joined := true }) with
        closedByClient := s.closedByClient.erase id } id
    exact ⟨tasks, txs, _, _, h⟩
  · obtain ⟨tasks, txs, h⟩ := removeTx_eq
      { s.setTask i (fun t => { t with joined := true }) with
        closesToClient := s.closesToClient ++ [id] } id
    exact ⟨tasks, txs, _, _, h⟩

/-- What a message of the client changes before it is handled. -/
theorem receive_eq (s : Dispatch) (m : Message) :
    ∃ opens data closes received, s.receive m =
      { s with
        opensFromClient := opens, dataFromClient := data, closesFromClient := closes
        received := received } := by
  unfold receive
  split
  · exact ⟨s.opensFromClient, s.dataFromClient, s.closesFromClient, s.received, rfl⟩
  · dsimp only
    split <;> exact ⟨_, _, _, _, rfl⟩

/-- Nothing to take in the branch the loop has come to. -/
def Idle (s : Dispatch) : Prop :=
  match s.branch with
  | .opensFromClient => s.opensFromClient = []
  | .newTcpStreams => s.newTcpStreams = []
  | .dataToClient => s.dataToClient = []
  | .dataFromClient => s.dataFromClient = []
  | .closesFromClient => s.closesFromClient = []
  | .closesToClient => s.closesToClient = []
  | .opensToClient => s.opensToClient = []
  | .streamTasks => True
  | .waiting => True

/-- What a poll can do. -/
inductive Polled (s : Dispatch) : Dispatch → Prop
  | passes (b : Branch) (h : s.Idle) : Polled s { s with branch := b }
  | connects (a : Arrival) (rest : List Arrival) (hb : s.branch = .opensFromClient)
      (hq : s.opensFromClient = a :: rest) (ht : s.tunnels a.id.tunnel = some .clientBound) :
      Polled s { s with
        branch := .opensFromClient, opensFromClient := rest
        newTcpStreams := s.newTcpStreams ++ [a.id], handled := s.handled ++ [a] }
  | refuses (a : Arrival) (rest : List Arrival) (hb : s.branch = .opensFromClient)
      (hq : s.opensFromClient = a :: rest) :
      Polled s { s with
        branch := .opensFromClient, opensFromClient := rest
        closesToClient := s.closesToClient ++ [a.id], handled := s.handled ++ [a] }
  | starts (id : Id) (rest : List Id) (tasks : List StreamTask) (txs : Id → Option Nat)
      (hb : s.branch = .newTcpStreams) (hq : s.newTcpStreams = id :: rest) :
      Polled s { s with
        branch := .opensFromClient, newTcpStreams := rest, streamTasks := tasks, txs := txs
        opensToClient :=
          if s.tunnels id.tunnel = some .serverBound then s.opensToClient ++ [id]
          else s.opensToClient }
  | joins (tasks : List StreamTask) (txs : Id → Option Nat) (closed closes : List Id)
      (hb : s.branch = .streamTasks) :
      Polled s { s with
        branch := .opensFromClient, streamTasks := tasks, txs := txs, closedByClient := closed
        closesToClient := closes }
  | sendsData (id : Id) (data : List UInt8) (rest : List (Id × List UInt8))
      (hb : s.branch = .dataToClient) (hq : s.dataToClient = (id, data) :: rest) :
      Polled s { s with
        branch := .opensFromClient, dataToClient := rest
        toClient := s.toClient ++ [tcpData id data] }
  | feeds (a : Arrival) (rest : List Arrival) (tasks : List StreamTask)
      (hb : s.branch = .dataFromClient) (hq : s.dataFromClient = a :: rest) :
      Polled s { s with
        branch := .opensFromClient, dataFromClient := rest, streamTasks := tasks
        handled := s.handled ++ [a] }
  | halfCloses (a : Arrival) (rest : List Arrival) (tasks : List StreamTask)
      (txs : Id → Option Nat) (closed : List Id)
      (hb : s.branch = .closesFromClient) (hq : s.closesFromClient = a :: rest) :
      Polled s { s with
        branch := .opensFromClient, closesFromClient := rest, streamTasks := tasks, txs := txs
        closedByClient := closed, handled := s.handled ++ [a] }
  | sendsClose (id : Id) (rest : List Id) (hb : s.branch = .closesToClient)
      (hq : s.closesToClient = id :: rest) :
      Polled s { s with
        branch := .opensFromClient, closesToClient := rest
        toClient := s.toClient ++ [closeTcpStream id] }
  | sendsOpen (id : Id) (rest : List Id) (hb : s.branch = .opensToClient)
      (hq : s.opensToClient = id :: rest) :
      Polled s { s with
        branch := .opensFromClient, opensToClient := rest
        toClient := s.toClient ++ [openTcpStream id] }

/-- **What a poll can do**, branch by branch. -/
theorem poll_polled {s s' : Dispatch} {connects : Bool} {joined : Nat}
    (h : s.poll connects joined = some s') : Polled s s' := by
  unfold poll at h
  split at h
  · rename_i hb
    split at h
    · rename_i hq
      cases h
      exact .passes _ (by simpa [Idle, hb] using hq)
    · rename_i a rest hq
      cases h
      unfold handleOpenFromClient
      split
      · rename_i ht
        exact .connects a rest hb hq ht.1
      · exact .refuses a rest hb hq
  · rename_i hb
    split at h
    · rename_i hq
      cases h
      exact .passes _ (by simpa [Idle, hb] using hq)
    · rename_i id rest hq
      cases h
      obtain ⟨tasks, txs, he⟩ := handleNewTcpStream_eq { s with newTcpStreams := rest } id
      rw [he]
      exact .starts id rest tasks txs hb hq
  · rename_i hb
    split at h
    · split at h
      · cases h
      · rename_i t _
        split at h
        · cases h
          obtain ⟨tasks, txs, closed, closes, he⟩ := s.handleStreamTaskResult_eq joined t.id
          rw [he]
          exact .joins tasks txs closed closes hb
        · cases h
    · cases h
      exact .passes _ (by simp [Idle, hb])
  · rename_i hb
    split at h
    · rename_i hq
      cases h
      exact .passes _ (by simpa [Idle, hb] using hq)
    · rename_i id data rest hq
      cases h
      exact .sendsData id data rest hb hq
  · rename_i hb
    split at h
    · rename_i hq
      cases h
      exact .passes _ (by simpa [Idle, hb] using hq)
    · rename_i a rest hq
      split at h
      · obtain ⟨s₁, h₁, rfl⟩ := Option.map_eq_some_iff.mp h
        obtain ⟨tasks, rfl⟩ := handleDataFromClient_eq h₁
        exact .feeds a rest tasks hb hq
      · cases h
  · rename_i hb
    split at h
    · rename_i hq
      cases h
      exact .passes _ (by simpa [Idle, hb] using hq)
    · rename_i a rest hq
      cases h
      obtain ⟨tasks, txs, closed, he⟩ :=
        handleCloseFromClient_eq { s with closesFromClient := rest } a
      rw [he]
      exact .halfCloses a rest tasks txs closed hb hq
  · rename_i hb
    split at h
    · rename_i hq
      cases h
      exact .passes _ (by simpa [Idle, hb] using hq)
    · rename_i id rest hq
      cases h
      exact .sendsClose id rest hb hq
  · rename_i hb
    split at h
    · rename_i hq
      cases h
      exact .passes _ (by simpa [Idle, hb] using hq)
    · rename_i id rest hq
      cases h
      exact .sendsOpen id rest hb hq
  · rename_i hb
    cases h
    exact .passes _ (by simp [Idle, hb])

end Dispatch

inductive DispatchAct where
  | poll (connects : Bool) (joined : Nat)
  | accept (tid : Nat)
  | receive (m : Message)
  | read (i : Nat) (data : List UInt8)
  | writeLocal (i : Nat)
  | finish (i : Nat)

/-- One step of the server's tunnel tasks. -/
def Dispatch.step (s : Dispatch) : DispatchAct → Option Dispatch
  | .poll connects joined => s.poll connects joined
  | .accept tid => s.accept tid
  | .receive m => some (s.receive m)
  | .read i data => s.read i data
  | .writeLocal i => s.writeLocal i
  | .finish i => s.finish i

/-- The steps of the other tasks. -/
inductive Dispatch.Moved (s : Dispatch) : Dispatch → Prop
  | accepts (tid : Nat) (ht : s.tunnels tid = some .serverBound) :
      Moved s { s with
        newTcpStreams := s.newTcpStreams ++ [⟨tid, s.sid⟩]
        sid := s.sid + 1
        accepted := s.accepted ++ [⟨tid, s.sid⟩] }
  | receives (m : Message) : Moved s (s.receive m)
  | runs (tasks : List StreamTask) (data : List (Id × List UInt8)) :
      Moved s { s with streamTasks := tasks, dataToClient := data }

/-- **What a step can do.** -/
theorem Dispatch.step_cases {s s' : Dispatch} {a : DispatchAct} (h : s.step a = some s') :
    (∃ connects joined, a = .poll connects joined ∧ s.Polled s') ∨
    ((∀ connects joined, a ≠ .poll connects joined) ∧ s.Moved s') := by
  cases a with
  | poll connects joined => exact Or.inl ⟨connects, joined, rfl, poll_polled h⟩
  | accept tid =>
    refine Or.inr ⟨by simp, ?_⟩
    simp only [step, accept] at h
    split at h
    · rename_i ht
      cases h
      exact .accepts tid ht
    · cases h
  | receive m =>
    cases h
    exact Or.inr ⟨by simp, .receives m⟩
  | read i data =>
    refine Or.inr ⟨by simp, ?_⟩
    simp only [step, read] at h
    split at h
    · cases h
    · split at h
      · cases h
      · cases h
        exact .runs _ _
  | writeLocal i =>
    refine Or.inr ⟨by simp, ?_⟩
    simp only [step, writeLocal] at h
    split at h
    · cases h
    · split at h
      · cases h
      · cases h
        exact .runs _ _
  | finish i =>
    refine Or.inr ⟨by simp, ?_⟩
    simp only [step, finish] at h
    split at h
    · cases h
    · split at h
      · cases h
      · cases h
        exact .runs _ _

end ApertureC.TunnelServer
