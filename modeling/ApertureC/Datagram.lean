import ApertureC.Lib.Machine
import Mathlib.Data.List.Basic

/-!
# The out-of-order transport (`aperturec-channel/src/transport/datagram.rs`)

Every datagram has a QUIC stream of its own.  `receive` accepts streams and keeps one future for
each in `rx_streams`; a future collects the chunks of its stream and is done when the stream ends.
The futures outlive a call of `receive`, which may be abandoned wherever it is suspended.

* `Stream` — a stream as its sender and the network leave it: what is transmitted, the chunks that
  have arrived, how many of them were taken, and how it ended.
* `RxFuture.turn` — one turn of the loop in a future of `rx_streams`.
* `Select`, `Pc` — the `select!` of `receive`: it polls its enabled branches in a random order, and
  comes to its `else` arm when all of them are disabled.
* `Transport.step` — one step of `receive`, or of the senders and the network.

`accepted` and `results` are history; a result comes with the stream it is about.

Principal result: `step_effect` (what a step does to the streams, their futures and the history).
-/

set_option autoImplicit false

namespace ApertureC.Datagram

variable {ε : Type}

/-- `stream::RxError`. -/
inductive StreamRxError (ε : Type) where
  | quic (e : ε)
  | empty
  deriving DecidableEq, Repr

/-- `datagram::RxError`. -/
inductive RxError (ε : Type) where
  | accept
  | stream (e : StreamRxError ε)
  | quic (e : ε)
  deriving DecidableEq, Repr

/-- A stream is finished by its sender, or fails. -/
inductive End (ε : Type) where
  | clean
  | error (e : ε)
  deriving DecidableEq, Repr

structure Stream (ε : Type) where
  /-- What the sender transmits. -/
  content : List UInt8
  /-- The chunks that have arrived, in order. -/
  chunks : List (List UInt8)
  /-- How many chunks were taken. -/
  taken : Nat
  ended : Option (End ε)
  deriving DecidableEq, Repr

namespace Stream

def arrived (st : Stream ε) : List UInt8 := st.chunks.flatten

/-- One poll of the stream's `receive`; `none` is pending. -/
def receive (st : Stream ε) : Option (Except (StreamRxError ε) (List UInt8) × Stream ε) :=
  match st.chunks[st.taken]? with
  | some chunk => some (.ok chunk, { st with taken := st.taken + 1 })
  | none =>
    match st.ended with
    | none => none
    | some .clean => some (.error .empty, st)
    | some (.error e) => some (.error (.quic e), st)

end Stream

/-- A future of `rx_streams`: the stream it owns and the `data` it has collected. -/
structure RxFuture where
  stream : Nat
  data : List UInt8
  deriving DecidableEq, Repr

inductive Turn (ε : Type) where
  | pending
  | extended (f : RxFuture)
  | complete (res : Except (RxError ε) (List UInt8))

/-- One turn of the loop in a future. -/
def RxFuture.turn (f : RxFuture) (st : Stream ε) : Turn ε × Stream ε :=
  match st.receive with
  | none => (.pending, st)
  | some (.ok chunk, st') => (.extended { f with data := f.data ++ chunk }, st')
  | some (.error .empty, st') => (.complete (.ok f.data), st')
  | some (.error error, st') => (.complete (.error (.stream error)), st')

/-! ## The transport -/

inductive Branch where
  | accept
  | streams
  deriving DecidableEq, Repr

/-- The branches of a `select!` that are enabled. -/
structure Select where
  accept : Bool
  streams : Bool
  deriving DecidableEq, Repr

def Select.enabled (sel : Select) : Branch → Bool
  | .accept => sel.accept
  | .streams => sel.streams

/-- Where a call of `receive` is: nowhere, at its `select!` (maybe suspended there), or in a poll of
it, with the branches still to be polled and whether one was pending. -/
inductive Pc where
  | idle
  | select (sel : Select) (suspended : Bool)
  | polling (sel : Select) (pending : Bool) (todo : List Branch)
  | unreachable
  deriving DecidableEq, Repr

structure Transport (ε : Type) where
  /-- The streams that the senders have opened. -/
  streams : List (Stream ε)
  /-- The streams that wait to be accepted. -/
  incoming : List Nat
  /-- What `accept` fails with once the connection is closed. -/
  closed : Option (RxError ε)
  rxStreams : List RxFuture
  pc : Pc
  /-- History: the streams accepted. -/
  accepted : List Nat
  /-- History: what the calls of `receive` returned, each with its stream. -/
  results : List (Option Nat × Except (RxError ε) (List UInt8))

inductive Act (ε : Type) where
  | opens (content : List UInt8)
  | arrives (i n : Nat)
  | finishes (i : Nat)
  | fails (i : Nat) (e : ε) (discard : Bool)
  | closes (e : RxError ε)
  | call
  | poll (acceptFirst : Bool)
  | skip
  | accepts (k : Nat)
  | acceptFails
  | acceptPends
  | future (j : Nat)
  | nextPends
  | nextNone
  | endPoll
  | yield
  | abandon

namespace Transport

def init : Transport ε := ⟨[], [], none, [], .idle, [], []⟩

/-- The streams whose result was returned. -/
def returned (s : Transport ε) : List Nat := s.results.filterMap Prod.fst

/-- The `select!` at the head of the loop. -/
def enter (s : Transport ε) : Transport ε :=
  { s with pc := .select ⟨true, !s.rxStreams.isEmpty⟩ false }

/-- `break res` -/
def finish (s : Transport ε) (i : Option Nat) (res : Except (RxError ε) (List UInt8)) :
    Transport ε :=
  { s with pc := .idle, results := s.results ++ [(i, res)] }

/-- The `accept` branch hands over a stream; the order in which streams are accepted is open. -/
def acceptStream (s : Transport ε) (k : Nat) : Option (Transport ε) :=
  match s.incoming[k]? with
  | none => none
  | some i =>
    some ({ s with
      incoming := s.incoming.eraseIdx k
      rxStreams := s.rxStreams ++ [RxFuture.mk i []]
      accepted := s.accepted ++ [i] } : Transport ε).enter

/-- `rx_streams.next()` polls one of the futures. -/
def pollFuture (s : Transport ε) (j : Nat) : Option (Transport ε) :=
  match s.rxStreams[j]? with
  | none => none
  | some f =>
    match s.streams[f.stream]? with
    | none => none
    | some st =>
      match f.turn st with
      | (.pending, _) => some s
      | (.extended f', st') =>
        some { s with rxStreams := s.rxStreams.set j f', streams := s.streams.set f.stream st' }
      | (.complete res, st') =>
        some (({ s with
          rxStreams := s.rxStreams.eraseIdx j
          streams := s.streams.set f.stream st' } : Transport ε).finish (some f.stream) res)

/-- The poll of an enabled branch. -/
def pollBranch (s : Transport ε) (sel : Select) (pending : Bool) (b : Branch) (todo : List Branch) :
    Act ε → Option (Transport ε)
  | .accepts k => if b = .accept then s.acceptStream k else none
  | .acceptFails =>
    if b = .accept then
      match s.closed with
      | none => none
      | some e => some (s.finish none (.error e))
    else none
  | .acceptPends => if b = .accept then some { s with pc := .polling sel true todo } else none
  | .future j => if b = .streams then s.pollFuture j else none
  | .nextPends =>
    if b = .streams ∧ s.rxStreams.isEmpty = false then
      some { s with pc := .polling sel true todo }
    else none
  | .nextNone =>
    -- the pattern `Some(complete_stream)` does not match
    if b = .streams ∧ s.rxStreams.isEmpty = true then
      some { s with pc := .polling { sel with streams := false } pending todo }
    else none
  | _ => none

/-- The senders and the network change a stream that has not ended. -/
def changeStream (s : Transport ε) (i : Nat) (f : Stream ε → Option (Stream ε)) :
    Option (Transport ε) :=
  match s.streams[i]? with
  | none => none
  | some st =>
    if st.ended.isNone then (f st).map fun st' => { s with streams := s.streams.set i st' }
    else none

def step (s : Transport ε) (a : Act ε) : Option (Transport ε) :=
  match a with
  | .opens content =>
    some { s with
      streams := s.streams ++ [⟨content, [], 0, none⟩]
      incoming := s.incoming ++ [s.streams.length] }
  | .arrives i n =>
    s.changeStream i fun st =>
      some { st with chunks := st.chunks ++ [(st.content.drop st.arrived.length).take n] }
  | .finishes i =>
    s.changeStream i fun st =>
      if st.arrived = st.content then some { st with ended := some .clean } else none
  | .fails i e discard =>
    s.changeStream i fun st =>
      some { st with
        ended := some (.error e)
        taken := if discard then st.chunks.length else st.taken }
  | .closes e => if s.closed.isNone then some { s with closed := some e } else none
  | .call =>
    match s.pc with
    | .idle => some s.enter
    | _ => none
  | .poll acceptFirst =>
    match s.pc with
    | .select sel _ =>
      some { s with
        pc := .polling sel false
          (if acceptFirst then [.accept, .streams] else [.streams, .accept]) }
    | _ => none
  | .skip =>
    match s.pc with
    | .polling sel pending (b :: todo) =>
      if sel.enabled b then none else some { s with pc := .polling sel pending todo }
    | _ => none
  | .endPoll =>
    match s.pc with
    | .polling sel pending [] =>
      some { s with pc := if pending then .select sel true else .unreachable }
    | _ => none
  | .yield =>
    -- a task that has run for long is suspended before it polls
    match s.pc with
    | .select sel _ => some { s with pc := .select sel true }
    | _ => none
  | .abandon =>
    match s.pc with
    | .select _ true => some { s with pc := .idle }
    | _ => none
  | a =>
    match s.pc with
    | .polling sel pending (b :: todo) =>
      if sel.enabled b then s.pollBranch sel pending b todo a else none
    | _ => none

/-! ## What a step does -/

variable {s s' : Transport ε}

/-- The sender and the network extend a stream that has not ended, or end it. -/
inductive Grows (st : Stream ε) : Stream ε → Prop
  | chunk (n : Nat) :
      Grows st { st with chunks := st.chunks ++ [(st.content.drop st.arrived.length).take n] }
  | clean (h : st.arrived = st.content) : Grows st { st with ended := some .clean }
  | error (e : ε) (n : Nat) (h : n ≤ st.chunks.length ∨ n = st.taken) :
      Grows st { st with ended := some (.error e), taken := n }

/-- What a step does to the streams, the futures and the history. -/
inductive Effect (s : Transport ε) : Transport ε → Prop
  | quiet (pc : Pc) (closed : Option (RxError ε)) : Effect s { s with pc := pc, closed := closed }
  | opens (content : List UInt8) :
      Effect s { s with
        streams := s.streams ++ [⟨content, [], 0, none⟩]
        incoming := s.incoming ++ [s.streams.length] }
  | grows (i : Nat) (st st' : Stream ε) (hi : s.streams[i]? = some st) (he : st.ended = none)
      (hg : Grows st st') : Effect s { s with streams := s.streams.set i st' }
  | accepts (k i : Nat) (pc : Pc) (hk : s.incoming[k]? = some i) :
      Effect s { s with
        incoming := s.incoming.eraseIdx k
        rxStreams := s.rxStreams ++ [RxFuture.mk i []]
        accepted := s.accepted ++ [i]
        pc := pc }
  | reads (j : Nat) (f : RxFuture) (st : Stream ε) (chunk : List UInt8)
      (hj : s.rxStreams[j]? = some f) (hst : s.streams[f.stream]? = some st)
      (hc : st.chunks[st.taken]? = some chunk) :
      Effect s { s with
        rxStreams := s.rxStreams.set j { f with data := f.data ++ chunk }
        streams := s.streams.set f.stream { st with taken := st.taken + 1 } }
  | completes (j : Nat) (f : RxFuture) (st : Stream ε) (hj : s.rxStreams[j]? = some f)
      (hst : s.streams[f.stream]? = some st) (hc : st.chunks[st.taken]? = none)
      (he : st.ended = some .clean) :
      Effect s { s with
        rxStreams := s.rxStreams.eraseIdx j
        pc := .idle
        results := s.results ++ [(some f.stream, .ok f.data)] }
  | breaks (j : Nat) (f : RxFuture) (e : RxError ε) (hj : s.rxStreams[j]? = some f) :
      Effect s { s with
        rxStreams := s.rxStreams.eraseIdx j
        pc := .idle
        results := s.results ++ [(some f.stream, .error e)] }
  | fails (e : RxError ε) :
      Effect s { s with pc := .idle, results := s.results ++ [(none, .error e)] }

theorem set_self {i : Nat} {st : Stream ε} (h : s.streams[i]? = some st) :
    s.streams.set i st = s.streams := by
  obtain ⟨hi, rfl⟩ := List.getElem?_eq_some_iff.mp h
  exact List.set_getElem_self hi

theorem pollFuture_effect {j : Nat} (h : s.pollFuture j = some s') : Effect s s' := by
  unfold pollFuture at h
  split at h
  · cases h
  · rename_i f hj
    split at h
    · cases h
    · rename_i st hst
      simp only [RxFuture.turn, Stream.receive] at h
      cases hc : st.chunks[st.taken]? with
      | some chunk =>
        simp only [hc] at h
        cases h
        exact .reads j f st chunk hj hst hc
      | none =>
        cases he : st.ended with
        | none =>
          simp only [hc, he] at h
          cases h
          exact .quiet s.pc s.closed
        | some e =>
          cases e with
          | clean =>
            simp only [hc, he, set_self hst] at h
            cases h
            exact .completes j f st hj hst hc he
          | error e =>
            simp only [hc, he, set_self hst] at h
            cases h
            exact .breaks j f _ hj

theorem changeStream_effect {i : Nat} {f : Stream ε → Option (Stream ε)}
    (hf : ∀ st st', f st = some st' → Grows st st') (h : s.changeStream i f = some s') :
    Effect s s' := by
  unfold changeStream at h
  split at h
  · cases h
  · rename_i st hst
    split at h
    · rename_i he
      obtain ⟨st', hst', rfl⟩ := Option.map_eq_some_iff.mp h
      exact .grows i st st' hst (Option.isNone_iff_eq_none.mp he) (hf st st' hst')
    · cases h

theorem pollBranch_effect {sel : Select} {pending : Bool} {b : Branch} {todo : List Branch}
    {a : Act ε} (h : s.pollBranch sel pending b todo a = some s') : Effect s s' := by
  unfold pollBranch at h
  split at h
  · rename_i k
    split at h
    · unfold acceptStream at h
      split at h
      · cases h
      · rename_i i hk
        cases h
        exact .accepts k i _ hk
    · cases h
  · split at h
    · split at h
      · cases h
      · cases h
        exact .fails _
    · cases h
  · split at h
    · cases h
      exact .quiet _ _
    · cases h
  · split at h
    · exact pollFuture_effect h
    · cases h
  · split at h
    · cases h
      exact .quiet _ _
    · cases h
  · split at h
    · cases h
      exact .quiet _ _
    · cases h
  · cases h

/-- **What a step does to the streams, their futures and the history.** -/
theorem step_effect {a : Act ε} (h : s.step a = some s') : Effect s s' := by
  cases a with
  | opens content =>
    cases h
    exact .opens _
  | arrives i n =>
    refine changeStream_effect ?_ h
    intro st st' hst
    cases hst
    exact .chunk _
  | finishes i =>
    refine changeStream_effect ?_ h
    intro st st' hst
    split at hst
    · rename_i harr
      cases hst
      exact .clean harr
    · cases hst
  | fails i e discard =>
    refine changeStream_effect ?_ h
    intro st st' hst
    cases hst
    apply Grows.error
    cases discard
    · exact Or.inr rfl
    · exact Or.inl (Nat.le_refl _)
  | closes e =>
    simp only [step] at h
    split at h
    · cases h
      exact .quiet _ _
    · cases h
  | skip =>
    simp only [step] at h
    split at h
    · split at h
      · cases h
      · cases h
        exact .quiet _ _
    · cases h
  | call | poll | endPoll | yield | abandon =>
    simp only [step] at h
    split at h
    · cases h
      exact .quiet _ _
    · cases h
  | accepts | acceptFails | acceptPends | future | nextPends | nextNone =>
    simp only [step] at h
    split at h
    · split at h
      · exact pollBranch_effect h
      · cases h
    · cases h

end Transport

end ApertureC.Datagram
