import Mathlib.Algebra.GroupWithZero.Nat
import Std.Data.ExtTreeMap.Lemmas
import Mathlib.Data.List.Basic

/-!
# The tunnel channel of the client (`aperturec-client/src/channels/tunnel.rs`)

`tc-main` keeps the streams of all tunnels; every stream whose TCP connection is established has a
read thread and a write thread.  `tc-main` feeds the write thread over a channel of capacity one,
and the threads report their results to `tc-main` over a channel without capacity.

* `Tunnels.allocate` — the tunnels of either side, from the requests and the server's responses.
* `State`, `handleOpenFromServer`, `handleCloseFromServer`, `handleDataFromServer`,
  `handleNewStreamEstablished`, `handleStreamResult` — the handlers of `tc-main`.  A handler that
  sends leaves the send in `ops`; `tc-main` is in its select when `ops` is empty.
* `StreamThreads` — the two threads of an established stream.  A server may open an id again while
  the threads of an earlier stream of that id still run, so the threads are numbered.
* `TcState.step` — one step of `tc-main`, of a thread, or of the world around them.

The accept and connect threads and the two QUIC threads belong to the world: they hand over what
they have and take what they are sent.  The model ends with the streams; `tc-main` joins the accept
and QUIC threads after that.

Principal result: `allocate_sided` (a tunnel that the server may open streams on is never one
that the client listens on).
-/

set_option autoImplicit false

namespace ApertureC.Tunnel

structure Id where
  tunnel : Nat
  stream : Nat
  deriving DecidableEq, Repr

instance : Ord Id where
  compare := compareLex (compareOn Id.tunnel) (compareOn Id.stream)

instance : Std.TransOrd Id := inferInstanceAs (Std.TransCmp (compareLex _ _))

instance : Std.LawfulEqOrd Id where
  eq_of_compare {a b} h := by
    rw [show compare a b = compareLex (compareOn Id.tunnel) (compareOn Id.stream) a b from rfl,
      compareLex_eq_eq] at h
    cases a
    cases b
    rw [Id.mk.injEq]
    exact ⟨Std.LawfulEqOrd.eq_of_compare h.1, Std.LawfulEqOrd.eq_of_compare h.2⟩

/-! ## Messages and allocations -/

/-- `proto::message::Message`. -/
inductive Body where
  | openTcp
  | closeTcp
  | tcpData (data : List UInt8)
  deriving DecidableEq, Repr

/-- `proto::Message`; the body may be missing on the wire. -/
structure Message where
  id : Id
  message : Option Body
  deriving DecidableEq, Repr

def openTcpStream (id : Id) : Message := ⟨id, some .openTcp⟩

def closeTcpStream (id : Id) : Message := ⟨id, some .closeTcp⟩

def tcpData (id : Id) (data : List UInt8) : Message := ⟨id, some (.tcpData data)⟩

inductive Side where
  | client
  | server
  deriving DecidableEq, Repr

/-- `TryFrom<i32> for Side`. -/
def Side.tryFrom : Int → Option Side
  | 0 => some .client
  | 1 => some .server
  | _ => none

/-- `proto::Description`, without the address that an accept thread binds. -/
structure Description where
  side : Int
  forwardAddress : String
  forwardPort : Nat
  deriving DecidableEq, Repr

/-- `desc.side()`: an unknown number is the default side. -/
def Description.getSide (desc : Description) : Side := (Side.tryFrom desc.side).getD .client

/-- `proto::response::Message`. -/
inductive Response where
  | success (desc : Description)
  | failure (reason : String)

structure Tunnels where
  serverBound : Std.ExtTreeMap Nat Description
  clientBound : Std.ExtTreeMap Nat Description

/-- One request: tunnels without a successful response are left out. -/
def Tunnels.add (allocated : Std.ExtTreeMap Nat (Option Response)) (t : Tunnels) (tunnel : Nat) :
    Tunnels :=
  match allocated[tunnel]? with
  | some (some (.success desc)) =>
    match Side.tryFrom desc.side with
    | some .server => { t with serverBound := t.serverBound.insert tunnel desc }
    | some .client => { t with clientBound := t.clientBound.insert tunnel desc }
    | none => t
  | _ => t

/-- The loop of `setup` over the requested tunnels. -/
def Tunnels.allocate (requested : List Nat) (allocated : Std.ExtTreeMap Nat (Option Response)) :
    Tunnels :=
  requested.foldl (Tunnels.add allocated) ⟨∅, ∅⟩

theorem add_cases (allocated : Std.ExtTreeMap Nat (Option Response)) (t : Tunnels) (tunnel : Nat) :
    t.add allocated tunnel = t ∨
    (∃ desc, t.add allocated tunnel = { t with clientBound := t.clientBound.insert tunnel desc }) ∨
    ∃ desc, Side.tryFrom desc.side = some .server ∧
      t.add allocated tunnel = { t with serverBound := t.serverBound.insert tunnel desc } := by
  unfold Tunnels.add
  split
  · rename_i desc _
    split
    · rename_i hside
      exact Or.inr (Or.inr ⟨desc, hside, rfl⟩)
    · exact Or.inr (Or.inl ⟨desc, rfl⟩)
    · exact Or.inl rfl
  · exact Or.inl rfl

/-- Every server-bound tunnel is on the server's side. -/
def Tunnels.Sided (t : Tunnels) : Prop :=
  ∀ (k : Nat) (desc : Description), t.serverBound[k]? = some desc → desc.getSide = .server

theorem add_sided {allocated : Std.ExtTreeMap Nat (Option Response)} {t : Tunnels} (h : t.Sided)
    (tunnel : Nat) : (t.add allocated tunnel).Sided := by
  rcases add_cases allocated t tunnel with heq | ⟨desc, heq⟩ | ⟨desc, hside, heq⟩
  · rw [heq]; exact h
  · rw [heq]; exact h
  · rw [heq]
    intro k d hk
    simp only [Std.ExtTreeMap.getElem?_insert] at hk
    split at hk
    · cases hk
      rw [Description.getSide, hside]
      rfl
    · exact h k d hk

/-- **The server opens streams only on tunnels of its own side.** -/
theorem allocate_sided (requested : List Nat)
    (allocated : Std.ExtTreeMap Nat (Option Response)) :
    (Tunnels.allocate requested allocated).Sided := by
  have hfold : ∀ (l : List Nat) (t : Tunnels), t.Sided →
      (l.foldl (Tunnels.add allocated) t).Sided := by
    intro l
    induction l with
    | nil => exact fun t h => h
    | cons tunnel l ih => exact fun t h => ih _ (add_sided h tunnel)
  refine hfold requested ⟨∅, ∅⟩ (fun k d hk => ?_)
  simp at hk

/-! ## Streams and their threads -/

/-- The state of a stream.  `opened c` names its threads. -/
inductive State where
  | opening (queued : List UInt8)
  | opened (c : Nat)
  | halfClosed
  | fullyClosed
  deriving DecidableEq, Repr

/-- Why a read or a write failed. -/
inductive IoError where
  | wouldBlock
  | other
  deriving DecidableEq, Repr

inductive ReadThread where
  | reading
  | forwarding (data : List UInt8)
  | reporting (result : Except IoError Unit)
  | finished

inductive WriteThread where
  | writing (data : List UInt8)
  | receiving
  | reporting (result : Except IoError Unit)
  | finished

/-- The threads of an established stream, the channel `to_tx` between `tc-main` and the write thread,
and what has been written to the socket. -/
structure StreamThreads where
  id : Id
  toTx : List (List UInt8)
  toTxDropped : Bool
  shut : Bool
  read : ReadThread
  write : WriteThread
  written : List UInt8

/-- The write thread writes what was queued while the stream was opening first. -/
def StreamThreads.spawn (id : Id) (queued : List UInt8) : StreamThreads where
  id := id
  toTx := []
  toTxDropped := false
  shut := false
  read := .reading
  write := .writing queued
  written := []

inductive ThreadAct where
  | readData (data : List UInt8)
  | readEnd (result : Except IoError Unit)
  | writeOk
  | writeFails (n : Nat) (e : IoError)
  | takeData
  | disconnected
  deriving DecidableEq

/-- A step of a thread on its own.  A read of no bytes is the end of the stream; a write that fails
has written a part, and one of no bytes does not fail. -/
def StreamThreads.step (t : StreamThreads) : ThreadAct → Option StreamThreads
  | .readData data =>
    match t.read with
    | .reading =>
      if 0 < data.length ∧ data.length ≤ 0x1000 then some { t with read := .forwarding data }
      else none
    | _ => none
  | .readEnd result =>
    match t.read with
    | .reading => some { t with read := .reporting result }
    | _ => none
  | .writeOk =>
    match t.write with
    | .writing data => some { t with write := .receiving, written := t.written ++ data }
    | _ => none
  | .writeFails n e =>
    match t.write with
    | .writing data =>
      if n < data.length then
        some { t with write := .reporting (.error e), written := t.written ++ data.take n }
      else none
    | _ => none
  | .takeData =>
    match t.write, t.toTx with
    | .receiving, data :: rest => some { t with write := .writing data, toTx := rest }
    | _, _ => none
  | .disconnected =>
    match t.write, t.toTx with
    | .receiving, [] => if t.toTxDropped then some { t with write := .reporting (.ok ()) } else none
    | _, _ => none

/-- What is read off every element is the same when the changed one keeps it. -/
theorem map_modify_of_eq {α β : Type} {f : α → β} {g : α → α} (h : ∀ a, f (g a) = f a) :
    ∀ (l : List α) (i : Nat), (l.modify i g).map f = l.map f
  | [], i => by simp
  | a :: l, 0 => by simp [h]
  | a :: l, i + 1 => by simp [map_modify_of_eq h l i]

/-! ## `tc-main` -/

/-- The operations of `tc-main` that may wait, in the order it performs them. -/
inductive Op where
  | notify
  | toQuic (m : Message)
  | toTx (c : Nat) (data : List UInt8)
  | establish (id : Id) (queued : List UInt8)
  | shutdown (c : Nat)
  | joinRead (c : Nat)
  | joinWrite (c : Nat)
  | dropTx (c : Nat)
  deriving DecidableEq, Repr

/-- A connect thread, with the address it connects to. -/
structure Connecting where
  id : Id
  address : String
  port : Nat
  deriving DecidableEq, Repr

structure TcState where
  ops : List Op
  left : Bool
  streams : Std.ExtTreeMap Id State
  threads : List StreamThreads
  connecting : List Connecting
  accepted : Nat → Nat
  toServer : List Message

namespace TcState

def initial : TcState := ⟨[], false, ∅, [], [], fun _ => 0, []⟩

/-- `tc-main` is in its select. -/
def selecting (s : TcState) : Bool := s.ops.isEmpty && !s.left

def modifyThreads (s : TcState) (c : Nat) (f : StreamThreads → StreamThreads) : TcState :=
  { s with threads := s.threads.modify c f }

/-- The entry of an opened stream leaves the map, and `to_tx` is dropped with it. -/
def dropTx (s : TcState) (c : Nat) : TcState :=
  s.modifyThreads c fun t => { t with toTxDropped := true }

def setState (s : TcState) (id : Id) (st : State) : TcState :=
  { s with streams := s.streams.insert id st }

def remove (s : TcState) (id : Id) : TcState := { s with streams := s.streams.erase id }

def send (s : TcState) (ops : List Op) : TcState := { s with ops := ops }

def handleOpenFromServer (tunnels : Tunnels) (s : TcState) (id : Id) : TcState :=
  match tunnels.serverBound[id.tunnel]? with
  | none => s.send [.toQuic (closeTcpStream id)]
  | some desc =>
    if desc.getSide = .client then s.send [.toQuic (closeTcpStream id)]
    else if s.streams[id]?.isSome then s.send [.toQuic (closeTcpStream id)]
    else
      { s.setState id (.opening []) with
        connecting := s.connecting ++ [⟨id, desc.forwardAddress, desc.forwardPort % 2 ^ 16⟩] }

def handleCloseFromServer (s : TcState) (id : Id) : TcState :=
  match s.streams[id]? with
  | some (.opening _) => s.setState id .halfClosed
  | some (.opened c) => (s.dropTx c).setState id .halfClosed
  | some .halfClosed => s.setState id .fullyClosed
  | some .fullyClosed => s.remove id
  | none => s

def handleDataFromServer (s : TcState) (id : Id) (data : List UInt8) : TcState :=
  match s.streams[id]? with
  | some (.opened c) => s.send [.toTx c data]
  | some (.opening queued) => s.setState id (.opening (queued ++ data))
  | some .halfClosed => s
  | some .fullyClosed => s.send [.toQuic (closeTcpStream id)]
  | none => s

/-- The entry is taken out of the map before its state is looked at. -/
def handleNewStreamEstablished (tunnels : Tunnels) (s : TcState) (id : Id) : TcState :=
  match s.streams[id]? with
  | some (.opening queued) => (s.remove id).send [.establish id queued]
  | some (.opened c) => (s.dropTx c).remove id
  | some .halfClosed => s.remove id
  | some .fullyClosed => s.remove id
  | none =>
    if tunnels.clientBound.contains id.tunnel then
      s.send [.toQuic (openTcpStream id), .establish id []]
    else s

def handleStreamResult (s : TcState) (id : Id) : TcState :=
  match s.streams[id]? with
  | some (.opening _) => s.remove id
  | some (.opened c) => (s.dropTx c).setState id .halfClosed
  | some .halfClosed => s.setState id .fullyClosed
  | some .fullyClosed => (s.remove id).send [.toQuic (closeTcpStream id)]
  | none => s

/-- What `tc-main` does with an entry once it has left its loop. -/
def teardown : Id × State → List Op
  | (id, .opened c) => [.shutdown c, .joinRead c, .joinWrite c, .toQuic (closeTcpStream id), .dropTx c]
  | (id, _) => [.toQuic (closeTcpStream id)]

/-- `tc-main` leaves its loop, and the map is moved into the teardown. -/
def leave (s : TcState) : TcState :=
  { s with left := true, ops := s.streams.toList.flatMap teardown, streams := ∅ }

/-- The next operation; `none` while it waits.  A send to a write thread that has ended fails, and
fails at once. -/
def perform (s : TcState) : Op → Option TcState
  | .notify => some s
  | .toQuic m => some { s with toServer := s.toServer ++ [m] }
  | .toTx c data =>
    match s.threads[c]? with
    | none => none
    | some t =>
      match t.write with
      | .finished => some s
      | _ =>
        if t.toTx.length < 1 then some (s.modifyThreads c fun t => { t with toTx := t.toTx ++ [data] })
        else none
  | .establish id queued =>
    some { s.setState id (.opened s.threads.length) with
      threads := s.threads ++ [.spawn id queued] }
  | .shutdown c => some (s.modifyThreads c fun t => { t with shut := true })
  | .joinRead c =>
    match s.threads[c]? with
    | some { read := .finished, .. } => some s
    | _ => none
  | .joinWrite c =>
    match s.threads[c]? with
    | some { write := .finished, .. } => some s
    | _ => none
  | .dropTx c => some (s.dropTx c)

end TcState

/-- A step.  `server none` is an error of the connection. -/
inductive Act where
  | allocations
  | terminate
  | hangUp
  | server (msg : Option Message)
  | quicRxGone
  | accepted (tunnel : Nat)
  | connected (i : Nat)
  | connectFailed (i : Nat)
  | perform
  | thread (c : Nat) (a : ThreadAct)
  | forward (c : Nat)
  | reportRead (c : Nat)
  | reportWrite (c : Nat)
  deriving DecidableEq

namespace TcState

/-- A message of the server, or an error of the connection. -/
def handleServer (tunnels : Tunnels) (s : TcState) : Option Message → TcState
  | none => s.send [.notify]
  | some ⟨id, some .openTcp⟩ => s.handleOpenFromServer tunnels id
  | some ⟨id, some .closeTcp⟩ => s.handleCloseFromServer id
  | some ⟨id, some (.tcpData data)⟩ => s.handleDataFromServer id data
  | some ⟨_, none⟩ => s

def step (tunnels : Tunnels) (s : TcState) : Act → Option TcState
  | .allocations => if s.selecting then some s else none
  | .terminate => if s.selecting then some s.leave else none
  | .hangUp => if s.selecting then some s.leave else none
  | .server msg => if s.selecting then some (s.handleServer tunnels msg) else none
  | .quicRxGone => if s.selecting then some s.leave else none
  | .accepted tunnel =>
    if s.selecting && tunnels.clientBound.contains tunnel then
      some ({ s with accepted := fun t => if t = tunnel then s.accepted t + 1 else s.accepted t
        }.handleNewStreamEstablished tunnels ⟨tunnel, s.accepted tunnel⟩)
    else none
  | .connected i =>
    match s.connecting[i]? with
    | none => none
    | some x =>
      if s.selecting then
        some ({ s with connecting := s.connecting.eraseIdx i }.handleNewStreamEstablished tunnels x.id)
      else none
  | .connectFailed i =>
    match s.connecting[i]? with
    | none => none
    | some x =>
      some { s with
        connecting := s.connecting.eraseIdx i
        toServer := s.toServer ++ [closeTcpStream x.id] }
  | .perform =>
    match s.ops with
    | [] => none
    | op :: ops => { s with ops := ops }.perform op
  | .thread c a =>
    match s.threads[c]? with
    | none => none
    | some t => (t.step a).map fun t => { s with threads := s.threads.set c t }
  | .forward c =>
    match s.threads[c]? with
    | some t =>
      match t.read with
      | .forwarding data =>
        some { s with
          threads := s.threads.set c { t with read := .reading }
          toServer := s.toServer ++ [tcpData t.id data] }
      | _ => none
    | none => none
  | .reportRead c =>
    match s.threads[c]? with
    | some t =>
      match t.read with
      | .reporting _ =>
        if s.selecting then
          some ({ s with threads := s.threads.set c { t with read := .finished }
            }.handleStreamResult t.id)
        else none
      | _ => none
    | none => none
  | .reportWrite c =>
    match s.threads[c]? with
    | some t =>
      match t.write with
      | .reporting _ =>
        if s.selecting then
          some ({ s with threads := s.threads.set c { t with write := .finished }
            }.handleStreamResult t.id)
        else none
      | _ => none
    | none => none

end TcState

end ApertureC.Tunnel
