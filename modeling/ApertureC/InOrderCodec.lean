import Mathlib.Data.List.Rotate
import ApertureC.Lib.Varint

/-!
# The in-order codec

`aperturec-channel/src/codec/in_order.rs`: messages travel over a byte stream as a length
delimiter followed by the encoded message.  The receiver keeps the bytes that have arrived and
were not used yet in `receive_buf`, across calls that return without a message.

* `Prost`, `Prost.Lawful` — what the serialisation library gives for one message type, and what
  the codec relies on.
* `Event`, `Call` — what the transport does next, and the three ways to ask for a message.
* `receiveInternal`, `session` — one call on a receiver, and a list of calls.
* `ReceiverSimplex.held` — the bytes that were sent and not returned yet, read or not.

Principal results: `receiveInternal_encodeAll` (a call on a stream of messages returns the first
one or is interrupted, and loses nothing either way) and `session_round_trip` (**a session returns
the messages sent, in order**, under any chunking and any interruptions).
-/

set_option autoImplicit false

namespace ApertureC.InOrder

/-! ## The serialisation library -/

/-- The functions of `prost` that the codec calls, for messages `M`; `none` is a decode error. -/
structure Prost (M : Type) where
  /-- `Message::encode` -/
  encode : M → List UInt8
  /-- `Message::decode` -/
  decode : List UInt8 → Option M
  /-- `encode_length_delimiter` -/
  encodeLengthDelimiter : Nat → List UInt8
  /-- `decode_length_delimiter` -/
  decodeLengthDelimiter : List UInt8 → Option Nat

/-- Decoding undoes encoding, no strict part of a delimiter decodes as one, and the bytes of a
message can be counted at 64 bits. -/
structure Prost.Lawful {M : Type} (P : Prost M) : Prop where
  decode_encode : ∀ m, P.decode (P.encode m) = some m
  delimiter : ∀ m, P.decodeLengthDelimiter (P.encodeLengthDelimiter (P.encode m).length) =
    some (P.encode m).length
  delimiter_nil : P.decodeLengthDelimiter [] = none
  delimiter_take : ∀ m d, d < (P.encodeLengthDelimiter (P.encode m).length).length →
    P.decodeLengthDelimiter ((P.encodeLengthDelimiter (P.encode m).length).take d) = none
  encoded_lt : ∀ m, (P.encodeLengthDelimiter (P.encode m).length).length + (P.encode m).length <
    2 ^ 64

variable {M : Type}

/-- `encode`: the message behind its length delimiter. -/
def encode (P : Prost M) (m : M) : List UInt8 :=
  P.encodeLengthDelimiter (P.encode m).length ++ P.encode m

/-- The bytes a sender of these messages puts on the stream. -/
def encodeAll (P : Prost M) (ms : List M) : List UInt8 := ms.flatMap (encode P)

/-! ## The transport -/

/-- What the transport does next: a chunk arrives, nothing arrives for a while, or it fails. -/
inductive Event
  | bytes (b : List UInt8)
  | quiet
  | fail
  deriving DecidableEq, Repr

/-- The bytes an event brings. -/
def Event.payload : Event → List UInt8
  | .bytes b => b
  | .quiet => []
  | .fail => []

/-- The bytes still to arrive. -/
def wire (t : List Event) : List UInt8 := t.flatMap Event.payload

/-- The number of events that are no chunks. -/
def interruptions (t : List Event) : Nat := t.countP fun e => e = .quiet ∨ e = .fail

/-- No chunk is empty. -/
def Chunked (t : List Event) : Prop := .bytes [] ∉ t

/-- What one receive of the transport gives.  A receive that is `pending` does not come back: it
blocks for ever, or the future that awaits it is dropped. -/
inductive Recv
  | bytes (b : List UInt8)
  | none
  | error
  | pending
  deriving DecidableEq, Repr

/-- `Receive::receive`: blocks while the transport is quiet. -/
def transportReceive : List Event → Recv × List Event
  | [] => (.pending, [])
  | .bytes b :: t => (.bytes b, t)
  | .quiet :: t => transportReceive t
  | .fail :: t => (.error, t)

/-- `TimeoutReceive::receive_timeout`: gives up when the transport is quiet. -/
def transportReceiveTimeout : List Event → Recv × List Event
  | [] => (.none, [])
  | .bytes b :: t => (.bytes b, t)
  | .quiet :: t => (.none, t)
  | .fail :: t => (.error, t)

/-- `AsyncReceive::receive`, with the future dropped at the await when the transport is quiet. -/
def transportAsyncReceive : List Event → Recv × List Event
  | [] => (.pending, [])
  | .bytes b :: t => (.bytes b, t)
  | .quiet :: t => (.pending, t)
  | .fail :: t => (.error, t)

/-- The ways to ask for a message: `sync_impls::receive`, `sync_impls::receive_timeout` and
`async_impls::receive`. -/
inductive Call
  | receive
  | receiveTimeout
  | asyncReceive
  deriving DecidableEq, Repr

/-- `recv_fn`: the receive of the transport that the call uses. -/
def Call.recv : Call → List Event → Recv × List Event
  | .receive => transportReceive
  | .receiveTimeout => transportReceiveTimeout
  | .asyncReceive => transportAsyncReceive

/-! ## Receiving -/

/-- `ReceiverSimplex`: the transport, and the bytes that arrived and were not used yet. -/
structure ReceiverSimplex where
  transport : List Event
  receiveBuf : List UInt8
  deriving DecidableEq, Repr

/-- `ReceiverSimplex::new` -/
def ReceiverSimplex.new (t : List Event) : ReceiverSimplex := ⟨t, []⟩

/-- How a call ends. -/
inductive Outcome (M : Type)
  | message (m : M) (len : Nat)
  | timedOut
  | transportError
  | decodeError
  | panicked
  | pending
  deriving DecidableEq, Repr

/-- `match recv_fn()? { Some(bytes) => buf.extend(bytes), None => return Ok(None) }`: take bytes
from the transport, or leave the call with an outcome. -/
def Call.fill (M : Type) (c : Call) (r : ReceiverSimplex) : Option (Outcome M) × ReceiverSimplex :=
  match c.recv r.transport with
  | (.bytes b, t) => (none, ⟨t, r.receiveBuf ++ b⟩)
  | (.none, t) => (some .timedOut, ⟨t, r.receiveBuf⟩)
  | (.error, t) => (some .transportError, ⟨t, r.receiveBuf⟩)
  | (.pending, t) => (some .pending, ⟨t, r.receiveBuf⟩)

/-- The bytes that were sent and not returned as a message yet. -/
def ReceiverSimplex.held (r : ReceiverSimplex) : List UInt8 := r.receiveBuf ++ wire r.transport

/-- A bound on the work left: bytes not returned yet and events not used yet. -/
def ReceiverSimplex.budget (r : ReceiverSimplex) : Nat := r.held.length + r.transport.length

/-- The call ended without a message because the transport gave no bytes. -/
def Outcome.Interrupted {M : Type} : Outcome M → Prop
  | .timedOut => True
  | .transportError => True
  | .pending => True
  | .message _ _ => False
  | .decodeError => False
  | .panicked => False

/-- What a receive of the transport can do: bring the chunk behind some quiet events, or come back
without bytes after the transport was interrupted or exhausted. -/
theorem Call.recv_cases (c : Call) : ∀ t : List Event,
    (∃ n b t', t = List.replicate n .quiet ++ .bytes b :: t' ∧ c.recv t = (.bytes b, t')) ∨
    (∃ used t' v, t = used ++ t' ∧ wire used = [] ∧ (t' = [] ∨ 0 < interruptions used) ∧
      c.recv t = (v, t') ∧ ∀ b, v ≠ .bytes b)
  | [] => by
    right
    cases c
    all_goals exact ⟨[], [], _, rfl, rfl, Or.inl rfl, rfl, fun b h => by cases h⟩
  | .bytes b :: t => by
    left
    cases c <;> exact ⟨0, b, t, rfl, rfl⟩
  | .fail :: t => by
    right
    cases c
    all_goals exact ⟨[.fail], t, _, rfl, rfl, Or.inr (by decide), rfl, fun b h => by cases h⟩
  | .quiet :: t => by
    cases c with
    | receive =>
      -- the blocking receive waits on
      rcases Call.recv_cases .receive t with ⟨n, b, t', ht, hr⟩ | ⟨used, t', v, ht, hw, _, hr, hv⟩
      · exact Or.inl ⟨n + 1, b, t', by rw [ht]; rfl, hr⟩
      · exact Or.inr ⟨.quiet :: used, t', v, by rw [ht]; rfl, hw,
          Or.inr (by simp [interruptions]), hr, hv⟩
    | receiveTimeout =>
      exact Or.inr ⟨[.quiet], t, _, rfl, rfl, Or.inr (by decide), rfl, fun b h => by cases h⟩
    | asyncReceive =>
      exact Or.inr ⟨[.quiet], t, _, rfl, rfl, Or.inr (by decide), rfl, fun b h => by cases h⟩

/-- **What `fill` can do**: append the next chunk, or leave the call with the buffer as it is. -/
theorem Call.fill_cases (c : Call) (r : ReceiverSimplex) :
    (∃ n b t, r.transport = List.replicate n .quiet ++ .bytes b :: t ∧
      c.fill M r = (none, ⟨t, r.receiveBuf ++ b⟩)) ∨
    (∃ o used t, r.transport = used ++ t ∧ wire used = [] ∧ (t = [] ∨ 0 < interruptions used) ∧
      o.Interrupted ∧ c.fill M r = (some o, ⟨t, r.receiveBuf⟩)) := by
  rcases c.recv_cases r.transport with ⟨n, b, t, ht, hr⟩ | ⟨used, t, v, ht, hw, hd, hr, hv⟩
  · exact Or.inl ⟨n, b, t, ht, by simp only [Call.fill, hr]⟩
  · right
    cases v with
    | bytes b => exact absurd rfl (hv b)
    | none => exact ⟨.timedOut, used, t, ht, hw, hd, trivial, by simp only [Call.fill, hr]⟩
    | error => exact ⟨.transportError, used, t, ht, hw, hd, trivial, by simp only [Call.fill, hr]⟩
    | pending => exact ⟨.pending, used, t, ht, hw, hd, trivial, by simp only [Call.fill, hr]⟩

@[simp] theorem wire_append (t u : List Event) : wire (t ++ u) = wire t ++ wire u := by
  simp [wire]

@[simp] theorem wire_cons_bytes (b : List UInt8) (t : List Event) :
    wire (.bytes b :: t) = b ++ wire t := rfl

@[simp] theorem wire_replicate_quiet (n : Nat) : wire (List.replicate n .quiet) = [] := by
  simp [wire, Event.payload]

theorem ReceiverSimplex.length_le_budget (r : ReceiverSimplex) :
    r.receiveBuf.length ≤ r.budget := by
  simp only [ReceiverSimplex.budget, ReceiverSimplex.held, List.length_append]
  omega

theorem Call.fill_budget {c : Call} {r r' : ReceiverSimplex} (h : c.fill M r = (none, r')) :
    r'.budget < r.budget := by
  rcases c.fill_cases (M := M) r with ⟨n, b, t, ht, hf⟩ | ⟨o, used, t, ht, hw, hd, ho, hf⟩
  · rw [hf] at h
    obtain ⟨-, rfl⟩ := Prod.mk.inj h
    simp only [ReceiverSimplex.budget, ReceiverSimplex.held, ht]
    simp
    omega
  · rw [hf] at h
    cases h

/-- The first loop of `receive_internal`: the length of the delimiter and of the message.  Slicing
past the end of the buffer panics. -/
def delimiterLoop (P : Prost M) (c : Call) (delimLen : Nat) (r : ReceiverSimplex) :
    Except (Outcome M) (Nat × Nat) × ReceiverSimplex :=
  if delimLen ≤ r.receiveBuf.length then
    match P.decodeLengthDelimiter (r.receiveBuf.take delimLen) with
    | some msgLen => (.ok (delimLen, msgLen), r)
    | none =>
      if delimLen + 1 > r.receiveBuf.length then
        match _h : c.fill M r with
        | (some o, r') => (.error o, r')
        | (none, r') => delimiterLoop P c (delimLen + 1) r'
      else delimiterLoop P c (delimLen + 1) r
  else (.error .panicked, r)
termination_by r.budget + 1 - delimLen
decreasing_by
  · have := Call.fill_budget _h
    have := r.length_le_budget
    omega
  · have := r.length_le_budget
    omega

/-- The second loop of `receive_internal`: receive until the whole message is there. -/
def bodyLoop (M : Type) (c : Call) (totalLen : Nat) (r : ReceiverSimplex) :
    Option (Outcome M) × ReceiverSimplex :=
  if totalLen > r.receiveBuf.length then
    match _h : c.fill M r with
    | (some o, r') => (some o, r')
    | (none, r') => bodyLoop M c totalLen r'
  else (none, r)
termination_by r.budget
decreasing_by exact Call.fill_budget _h

/-- Rotate the used bytes to the end, zeroize them and cut them off. -/
def cleanUp (buf : List UInt8) (totalLen : Nat) : List UInt8 :=
  let remainingLen := buf.length - totalLen
  let buf := buf.rotate totalLen
  let buf := buf.take remainingLen ++ List.replicate (buf.length - remainingLen) 0
  buf.take remainingLen

/-- `delim_len + msg_len`, at 64 bits. -/
def totalLen (delimLen msgLen : Nat) : Nat := (delimLen + msgLen) % 2 ^ 64

/-- `receive_internal`, and `async_impls::receive` with the same body.  Slicing from behind the end
panics. -/
def receiveInternal (P : Prost M) (c : Call) (r : ReceiverSimplex) : Outcome M × ReceiverSimplex :=
  match delimiterLoop P c 0 r with
  | (.error o, r) => (o, r)
  | (.ok (delimLen, msgLen), r) =>
    let total := totalLen delimLen msgLen
    match bodyLoop M c total r with
    | (some o, r) => (o, r)
    | (none, r) =>
      if delimLen ≤ total then
        match P.decode ((r.receiveBuf.take total).drop delimLen) with
        | none => (.decodeError, r)
        | some msg => (.message msg total, { r with receiveBuf := cleanUp r.receiveBuf total })
      else (.panicked, r)

/-- `sync_impls::receive` -/
def receive (P : Prost M) (r : ReceiverSimplex) : Outcome M × ReceiverSimplex :=
  receiveInternal P .receive r

/-- `sync_impls::receive_timeout` -/
def receiveTimeout (P : Prost M) (r : ReceiverSimplex) : Outcome M × ReceiverSimplex :=
  receiveInternal P .receiveTimeout r

/-- `async_impls::receive` -/
def asyncReceive (P : Prost M) (r : ReceiverSimplex) : Outcome M × ReceiverSimplex :=
  receiveInternal P .asyncReceive r

/-- Make a call. -/
def perform (P : Prost M) : Call → ReceiverSimplex → Outcome M × ReceiverSimplex
  | .receive => receive P
  | .receiveTimeout => receiveTimeout P
  | .asyncReceive => asyncReceive P

/-- Calls made one after the other on a receiver, with their outcomes. -/
def session (P : Prost M) : List Call → ReceiverSimplex → List (Outcome M) × ReceiverSimplex
  | [], r => ([], r)
  | c :: cs, r =>
    let (o, r') := perform P c r
    let (os, r'') := session P cs r'
    (o :: os, r'')

/-- The message an outcome carries, with the length returned for it. -/
def Outcome.result? : Outcome M → Option (M × Nat)
  | .message m len => some (m, len)
  | _ => none

/-- The messages returned, each with its length. -/
def results (os : List (Outcome M)) : List (M × Nat) := os.filterMap Outcome.result?

theorem perform_eq (P : Prost M) (c : Call) : perform P c = receiveInternal P c := by
  cases c <;> rfl

/-! ## What a call does to the bytes held -/

/-- Bytes moved from the transport to the buffer, and some events were used up. -/
structure Advances (r r' : ReceiverSimplex) : Prop where
  held : r'.held = r.held
  transport : r'.transport <:+ r.transport

theorem Advances.refl (r : ReceiverSimplex) : Advances r r := ⟨rfl, List.suffix_rfl⟩

theorem Advances.trans {r r' r'' : ReceiverSimplex} (h : Advances r r') (h' : Advances r' r'') :
    Advances r r'' :=
  ⟨h'.held.trans h.held, h'.transport.trans h.transport⟩

theorem Chunked.suffix {t t' : List Event} (hc : Chunked t) (h : t' <:+ t) : Chunked t' :=
  fun hmem => hc (h.subset hmem)

theorem interruptions_suffix {t t' : List Event} (h : t' <:+ t) :
    interruptions t' ≤ interruptions t :=
  h.sublist.countP_le

theorem ReceiverSimplex.take_held {r : ReceiverSimplex} {d : Nat} (h : d ≤ r.receiveBuf.length) :
    r.receiveBuf.take d = r.held.take d := by
  rw [ReceiverSimplex.held, List.take_append_of_le_length h]

theorem ReceiverSimplex.receiveBuf_length_le (r : ReceiverSimplex) :
    r.receiveBuf.length ≤ r.held.length := by
  simp [ReceiverSimplex.held]

theorem Call.fill_advances (c : Call) (r : ReceiverSimplex) : Advances r (c.fill M r).2 := by
  rcases c.fill_cases (M := M) r with ⟨n, b, t, ht, hf⟩ | ⟨o, used, t, ht, hw, -, -, hf⟩
  · rw [hf]
    refine ⟨?_, List.replicate n .quiet ++ [.bytes b], ?_⟩
    · simp [ReceiverSimplex.held, ht]
    · simp [ht]
  · rw [hf]
    exact ⟨by simp [ReceiverSimplex.held, ht, hw], used, ht.symm⟩

theorem delimiterLoop_advances (P : Prost M) (c : Call) (d : Nat) (r : ReceiverSimplex) :
    Advances r (delimiterLoop P c d r).2 := by
  fun_induction delimiterLoop P c d r with
  | case1 => exact Advances.refl _
  | case2 d r hd hdec hlt o r' hf =>
    have := c.fill_advances (M := M) r
    rwa [hf] at this
  | case3 d r hd hdec hlt r' hf ih =>
    have := c.fill_advances (M := M) r
    rw [hf] at this
    exact this.trans ih
  | case4 d r hd hdec hlt ih => exact ih
  | case5 => exact Advances.refl _

theorem bodyLoop_advances (c : Call) (n : Nat) (r : ReceiverSimplex) :
    Advances r (bodyLoop M c n r).2 := by
  fun_induction bodyLoop M c n r with
  | case1 r hlt o r' hf =>
    have := c.fill_advances (M := M) r
    rwa [hf] at this
  | case2 r hlt r' hf ih =>
    have := c.fill_advances (M := M) r
    rw [hf] at this
    exact this.trans ih
  | case3 => exact Advances.refl _

theorem bodyLoop_enough {c : Call} {n : Nat} {r r' : ReceiverSimplex}
    (h : bodyLoop M c n r = (none, r')) : n ≤ r'.receiveBuf.length := by
  fun_induction bodyLoop M c n r with
  | case1 => cases h
  | case2 r hlt r₁ hf ih => exact ih h
  | case3 r hge =>
    obtain ⟨-, rfl⟩ := Prod.mk.inj h
    omega

theorem cleanUp_eq {buf : List UInt8} {n : Nat} (h : n ≤ buf.length) :
    cleanUp buf n = buf.drop n := by
  have hcut : (buf.drop n ++ buf.take n).take (buf.length - n) = buf.drop n :=
    List.take_left' (by simp)
  simp only [cleanUp, List.rotate_eq_drop_append_take h, hcut]
  exact List.take_left' (by simp)

theorem held_cleanUp {r : ReceiverSimplex} {n : Nat} (h : n ≤ r.receiveBuf.length) :
    ReceiverSimplex.held { r with receiveBuf := cleanUp r.receiveBuf n } = r.held.drop n := by
  simp only [ReceiverSimplex.held, cleanUp_eq h]
  exact (List.drop_append_of_le_length h).symm

/-! ## Frames

What a call looks for in the bytes held, buffered or still on the way. -/

/-- The bytes start with a delimiter of `d` bytes for a message of `n` bytes, all there, that
decodes to `m`. -/
structure Frame (P : Prost M) (bs : List UInt8) (d n : Nat) (m : M) : Prop where
  delimiter : P.decodeLengthDelimiter (bs.take d) = some n
  shorter : ∀ d' < d, P.decodeLengthDelimiter (bs.take d') = none
  ordered : d ≤ totalLen d n
  complete : totalLen d n ≤ bs.length
  body : P.decode ((bs.take (totalLen d n)).drop d) = some m

theorem take_eq_of_le {bs bs' : List UInt8} {j k : Nat} (heq : bs'.take k = bs.take k)
    (h : j ≤ k) : bs'.take j = bs.take j := by
  have := congrArg (List.take j) heq
  rwa [List.take_take, List.take_take, Nat.min_eq_left h] at this

/-- Only the bytes of the frame matter. -/
theorem Frame.of_take_eq {P : Prost M} {bs bs' : List UInt8} {d n : Nat} {m : M}
    (h : Frame P bs d n m) (heq : bs'.take (totalLen d n) = bs.take (totalLen d n)) : Frame P bs' d n m where
  delimiter := by
    rw [take_eq_of_le heq h.ordered]
    exact h.delimiter
  shorter := by
    intro d' hd
    rw [take_eq_of_le heq (hd.le.trans h.ordered)]
    exact h.shorter d' hd
  ordered := h.ordered
  complete := by
    have hlen := congrArg List.length heq
    have := h.complete
    rw [List.length_take, List.length_take] at hlen
    omega
  body := by
    rw [heq]
    exact h.body

theorem totalLen_encode {P : Prost M} (hP : P.Lawful) (m : M) :
    totalLen (P.encodeLengthDelimiter (P.encode m).length).length (P.encode m).length =
      (encode P m).length := by
  rw [totalLen, Nat.mod_eq_of_lt (hP.encoded_lt m), encode, List.length_append]

theorem frame_encode {P : Prost M} (hP : P.Lawful) (m : M) (rest : List UInt8) :
    Frame P (encode P m ++ rest) (P.encodeLengthDelimiter (P.encode m).length).length
      (P.encode m).length m where
  delimiter := by
    rw [encode, List.append_assoc, List.take_left]
    exact hP.delimiter m
  shorter := by
    intro d hd
    rw [encode, List.append_assoc, List.take_append_of_le_length (by omega)]
    exact hP.delimiter_take m d hd
  ordered := by
    rw [totalLen_encode hP, encode, List.length_append]
    omega
  complete := by
    rw [totalLen_encode hP, List.length_append]
    omega
  body := by
    rw [totalLen_encode hP, List.take_left, encode, List.drop_left]
    exact hP.decode_encode m

/-! ## What a returned message says of the bytes -/

theorem delimiterLoop_ok {P : Prost M} {c : Call} {d₀ d n : Nat} {r r' : ReceiverSimplex}
    (h : delimiterLoop P c d₀ r = (.ok (d, n), r')) :
    P.decodeLengthDelimiter (r.held.take d) = some n ∧
      ∀ d', d₀ ≤ d' → d' < d → P.decodeLengthDelimiter (r.held.take d') = none := by
  fun_induction delimiterLoop P c d₀ r with
  | case1 d₀ r hd msgLen hm =>
    obtain ⟨h₁, -⟩ := Prod.mk.inj h
    obtain ⟨rfl, rfl⟩ := Prod.mk.inj (Except.ok.inj h₁)
    rw [ReceiverSimplex.take_held hd] at hm
    exact ⟨hm, fun d' h₁ h₂ => by omega⟩
  | case2 => cases h
  | case3 d₀ r hd hdec hlt r₁ hf ih =>
    have hadv := c.fill_advances (M := M) r
    rw [hf] at hadv
    rw [ReceiverSimplex.take_held hd] at hdec
    rw [hadv.held] at ih
    refine ⟨(ih h).1, fun d' h₁ h₂ => ?_⟩
    rcases Nat.eq_or_lt_of_le h₁ with rfl | hlt
    · exact hdec
    · exact (ih h).2 d' hlt h₂
  | case4 d₀ r hd hdec hlt ih =>
    rw [ReceiverSimplex.take_held hd] at hdec
    refine ⟨(ih h).1, fun d' h₁ h₂ => ?_⟩
    rcases Nat.eq_or_lt_of_le h₁ with rfl | hlt
    · exact hdec
    · exact (ih h).2 d' hlt h₂
  | case5 => cases h

theorem Call.fill_leaves {c : Call} {r r' : ReceiverSimplex} {o : Outcome M}
    (h : c.fill M r = (some o, r')) : o.Interrupted := by
  rcases c.fill_cases (M := M) r with ⟨n, b, t, ht, hf⟩ | ⟨o', used, t, ht, hw, hd, ho, hf⟩
  · rw [hf] at h
    cases h
  · rw [hf] at h
    cases h
    exact ho

theorem delimiterLoop_error {P : Prost M} {c : Call} {d : Nat} {r r' : ReceiverSimplex}
    {o : Outcome M} (h : delimiterLoop P c d r = (.error o, r')) :
    o.Interrupted ∨ o = .panicked := by
  fun_induction delimiterLoop P c d r with
  | case1 => cases h
  | case2 d r hd hdec hlt o₁ r₁ hf =>
    cases h
    exact Or.inl (Call.fill_leaves hf)
  | case3 d r hd hdec hlt r₁ hf ih => exact ih h
  | case4 d r hd hdec hlt ih => exact ih h
  | case5 =>
    cases h
    exact Or.inr rfl

theorem bodyLoop_leaves {c : Call} {n : Nat} {r r' : ReceiverSimplex} {o : Outcome M}
    (h : bodyLoop M c n r = (some o, r')) : o.Interrupted := by
  fun_induction bodyLoop M c n r with
  | case1 r hlt o₁ r₁ hf =>
    cases h
    exact Call.fill_leaves hf
  | case2 r hlt r₁ hf ih => exact ih h
  | case3 => cases h

theorem Outcome.Interrupted.result? {o : Outcome M} (h : o.Interrupted) : o.result? = none := by
  cases o with
  | message m len => exact h.elim
  | _ => rfl

/-- **What a call can do**, whatever the bytes are: return the frame at the head of the bytes
held and keep the rest, or return no message and keep every byte. -/
theorem receiveInternal_cases (P : Prost M) (c : Call) (r : ReceiverSimplex) :
    (∃ d n m r', Frame P r.held d n m ∧ r'.held = r.held.drop (totalLen d n) ∧
      r'.transport <:+ r.transport ∧
      receiveInternal P c r = (.message m (totalLen d n), r')) ∨
    (∃ o r', o.result? = none ∧ Advances r r' ∧ receiveInternal P c r = (o, r')) := by
  have h₁ := delimiterLoop_advances P c 0 r
  rcases hd : delimiterLoop P c 0 r with ⟨o | ⟨d, n⟩, r₁⟩
  · right
    rw [hd] at h₁
    refine ⟨o, r₁, ?_, h₁, by simp only [receiveInternal, hd]⟩
    rcases delimiterLoop_error hd with ho | rfl
    · exact ho.result?
    · rfl
  · rw [hd] at h₁
    have h₂ := bodyLoop_advances (M := M) c (totalLen d n) r₁
    rcases hb : bodyLoop M c (totalLen d n) r₁ with ⟨_ | o, r₂⟩
    · rw [hb] at h₂
      have henough := bodyLoop_enough hb
      have hadv : Advances r r₂ := h₁.trans h₂
      by_cases hord : d ≤ totalLen d n
      case neg =>
        exact Or.inr ⟨.panicked, r₂, rfl, hadv, by simp only [receiveInternal, hd, hb, if_neg hord]⟩
      cases hm : P.decode ((r₂.receiveBuf.take (totalLen d n)).drop d) with
      | none =>
        exact Or.inr ⟨.decodeError, r₂, rfl, hadv,
          by simp only [receiveInternal, hd, hb, if_pos hord, hm]⟩
      | some m =>
        obtain ⟨hdelim, hshorter⟩ := delimiterLoop_ok hd
        rw [ReceiverSimplex.take_held henough, hadv.held] at hm
        left
        refine ⟨d, n, m, { r₂ with receiveBuf := cleanUp r₂.receiveBuf (totalLen d n) }, ?_, ?_,
          hadv.transport, ?_⟩
        · refine ⟨hdelim, fun d' h => hshorter d' (Nat.zero_le _) h, hord, ?_, hm⟩
          have := r₂.receiveBuf_length_le
          rw [hadv.held] at this
          omega
        · rw [held_cleanUp henough, hadv.held]
        · rw [← hadv.held, ← ReceiverSimplex.take_held henough] at hm
          simp only [receiveInternal, hd, hb, if_pos hord, hm]
    · rw [hb] at h₂
      exact Or.inr ⟨o, r₂, (bodyLoop_leaves hb).result?, h₁.trans h₂,
        by simp only [receiveInternal, hd, hb]⟩

/-! ## A stream that holds a frame -/

/-- A fill that goes on brings at least one byte. -/
theorem Call.fill_grows {c : Call} {r r' : ReceiverSimplex} (h : c.fill M r = (none, r'))
    (hc : Chunked r.transport) :
    Advances r r' ∧ r.receiveBuf.length < r'.receiveBuf.length := by
  have hadv := c.fill_advances (M := M) r
  rw [h] at hadv
  refine ⟨hadv, ?_⟩
  rcases c.fill_cases (M := M) r with ⟨n, b, t, ht, hf⟩ | ⟨o, used, t, ht, hw, hd, ho, hf⟩
  · rw [hf] at h
    cases h
    have hb : b ≠ [] := by
      rintro rfl
      apply hc
      rw [ht]
      simp
    have : 0 < b.length := List.length_pos_iff.mpr hb
    simp only [List.length_append]
    omega
  · rw [hf] at h
    cases h

/-- A fill that leaves the call while bytes are on the way was interrupted. -/
theorem Call.fill_interrupted {c : Call} {r r' : ReceiverSimplex} {o : Outcome M}
    (h : c.fill M r = (some o, r')) (hs : r.receiveBuf.length < r.held.length) :
    interruptions r'.transport < interruptions r.transport := by
  rcases c.fill_cases (M := M) r with ⟨n, b, t, ht, hf⟩ | ⟨o, used, t, ht, hw, hd, ho, hf⟩
  · rw [hf] at h
    cases h
  · rw [hf] at h
    cases h
    rcases hd with rfl | hi
    · -- an exhausted transport has no bytes on the way
      simp [ReceiverSimplex.held, ht, hw] at hs
    · simp only [ht, interruptions, List.countP_append] at hi ⊢
      omega

theorem lt_of_delimiter {P : Prost M} {r : ReceiverSimplex} {d₀ d n : Nat}
    (hdelim : P.decodeLengthDelimiter (r.held.take d) = some n) (hd : d₀ ≤ d)
    (hb : d₀ ≤ r.receiveBuf.length)
    (hnone : P.decodeLengthDelimiter (r.receiveBuf.take d₀) = none) : d₀ < d := by
  rcases Nat.eq_or_lt_of_le hd with rfl | hlt
  · rw [ReceiverSimplex.take_held hb, hdelim] at hnone
    cases hnone
  · exact hlt

theorem delimiterLoop_frame {P : Prost M} {c : Call} {d n : Nat} (d₀ : Nat) (r : ReceiverSimplex)
    (hdelim : P.decodeLengthDelimiter (r.held.take d) = some n)
    (hshorter : ∀ d' < d, P.decodeLengthDelimiter (r.held.take d') = none)
    (hlen : d ≤ r.held.length) (hd : d₀ ≤ d) (hb : d₀ ≤ r.receiveBuf.length)
    (hc : Chunked r.transport) :
    (∃ r', delimiterLoop P c d₀ r = (.ok (d, n), r')) ∨
    (∃ o r', delimiterLoop P c d₀ r = (.error o, r') ∧ o.Interrupted ∧
      interruptions r'.transport < interruptions r.transport) := by
  fun_induction delimiterLoop P c d₀ r with
  | case1 d₀ r hle msgLen hm =>
    left
    rw [ReceiverSimplex.take_held hle] at hm
    rcases Nat.eq_or_lt_of_le hd with rfl | hlt
    · rw [hdelim] at hm
      cases hm
      exact ⟨r, rfl⟩
    · rw [hshorter d₀ hlt] at hm
      cases hm
  | case2 d₀ r hle hnone hlt o r' hf =>
    -- the buffer ends inside the delimiter, and the transport gives nothing
    have := lt_of_delimiter hdelim hd hle hnone
    exact Or.inr ⟨o, r', rfl, Call.fill_leaves hf, Call.fill_interrupted hf (by omega)⟩
  | case3 d₀ r hle hnone hlt r' hf ih =>
    have := lt_of_delimiter hdelim hd hle hnone
    obtain ⟨hadv, hgrow⟩ := Call.fill_grows hf hc
    have hi := interruptions_suffix hadv.transport
    rw [hadv.held] at ih
    rcases ih hdelim hshorter hlen (by omega) (by omega) (hc.suffix hadv.transport) with
      ⟨r₂, hr⟩ | ⟨o, r₂, hr, ho, hlt⟩
    · exact Or.inl ⟨r₂, hr⟩
    · exact Or.inr ⟨o, r₂, hr, ho, by omega⟩
  | case4 d₀ r hle hnone hlt ih =>
    have := lt_of_delimiter hdelim hd hle hnone
    exact ih hdelim hshorter hlen (by omega) (by omega) hc
  | case5 d₀ r hle => exact absurd hb hle

theorem bodyLoop_frame {c : Call} {n : Nat} (r : ReceiverSimplex) (hlen : n ≤ r.held.length)
    (hc : Chunked r.transport) :
    (∃ r', bodyLoop M c n r = (none, r')) ∨
    (∃ o r', bodyLoop M c n r = (some o, r') ∧ o.Interrupted ∧
      interruptions r'.transport < interruptions r.transport) := by
  fun_induction bodyLoop M c n r with
  | case1 r hlt o r' hf =>
    exact Or.inr ⟨o, r', rfl, Call.fill_leaves hf, Call.fill_interrupted hf (by omega)⟩
  | case2 r hlt r' hf ih =>
    obtain ⟨hadv, -⟩ := Call.fill_grows hf hc
    have hi := interruptions_suffix hadv.transport
    rw [hadv.held] at ih
    rcases ih hlen (hc.suffix hadv.transport) with ⟨r₂, hr⟩ | ⟨o, r₂, hr, ho, hlt⟩
    · exact Or.inl ⟨r₂, hr⟩
    · exact Or.inr ⟨o, r₂, hr, ho, by omega⟩
  | case3 r hlt => exact Or.inl ⟨r, rfl⟩

/-- **A call on a stream that holds a frame returns it or is interrupted.** -/
theorem receiveInternal_frame {P : Prost M} (c : Call) {r : ReceiverSimplex} {d n : Nat} {m : M}
    (hF : Frame P r.held d n m) (hc : Chunked r.transport) :
    (∃ r', receiveInternal P c r = (.message m (totalLen d n), r') ∧ r'.held = r.held.drop (totalLen d n) ∧
      r'.transport <:+ r.transport) ∨
    (∃ o r', receiveInternal P c r = (o, r') ∧ o.Interrupted ∧ Advances r r' ∧
      interruptions r'.transport < interruptions r.transport) := by
  have hlen := hF.complete
  have h₁ := delimiterLoop_advances P c 0 r
  rcases delimiterLoop_frame (c := c) 0 r hF.delimiter hF.shorter (hF.ordered.trans hlen)
    (Nat.zero_le _) (Nat.zero_le _) hc with ⟨r₁, hd⟩ | ⟨o, r₁, hd, ho, hi⟩
  · replace h₁ : Advances r r₁ := by rwa [hd] at h₁
    have h₂ := bodyLoop_advances (M := M) c (totalLen d n) r₁
    have hle := interruptions_suffix h₁.transport
    rw [← h₁.held] at hlen
    rcases bodyLoop_frame (M := M) (c := c) r₁ hlen (hc.suffix h₁.transport) with
      ⟨r₂, hb⟩ | ⟨o, r₂, hb, ho, hi⟩
    · rw [hb] at h₂
      have hadv : Advances r r₂ := h₁.trans h₂
      have henough := bodyLoop_enough hb
      have hbody : P.decode ((r₂.receiveBuf.take (totalLen d n)).drop d) = some m := by
        rw [ReceiverSimplex.take_held henough, hadv.held]
        exact hF.body
      refine Or.inl ⟨{ r₂ with receiveBuf := cleanUp r₂.receiveBuf (totalLen d n) }, ?_, ?_,
        hadv.transport⟩
      · simp only [receiveInternal, hd, hb, if_pos hF.ordered, hbody]
      · rw [held_cleanUp henough, hadv.held]
    · rw [hb] at h₂
      exact Or.inr ⟨o, r₂, by simp only [receiveInternal, hd, hb], ho, h₁.trans h₂, by omega⟩
  · rw [hd] at h₁
    exact Or.inr ⟨o, r₁, by simp only [receiveInternal, hd], ho, h₁, hi⟩

/-- **A call on a stream with no byte left is interrupted.** -/
theorem receiveInternal_nil {P : Prost M} (hP : P.Lawful) (c : Call) {r : ReceiverSimplex}
    (hheld : r.held = []) (hc : Chunked r.transport) :
    ∃ o r', receiveInternal P c r = (o, r') ∧ o.Interrupted ∧ Advances r r' := by
  have hlen := r.receiveBuf_length_le
  rw [hheld, List.length_nil] at hlen
  have hnone : P.decodeLengthDelimiter (r.receiveBuf.take 0) = none := hP.delimiter_nil
  have hfill := c.fill_advances (M := M) r
  rcases hf : c.fill M r with ⟨_ | o, r'⟩
  · -- a chunk would have brought a byte
    obtain ⟨hadv, hgrow⟩ := Call.fill_grows hf hc
    have := r'.receiveBuf_length_le
    rw [hadv.held, hheld, List.length_nil] at this
    omega
  · have hd : delimiterLoop P c 0 r = (.error o, r') := by
      rw [delimiterLoop]
      simp only [Nat.zero_le, if_true, hnone, if_pos (show 0 + 1 > r.receiveBuf.length by omega)]
      split
      · rename_i o₁ r₁ hf₁
        rw [hf] at hf₁
        cases hf₁
        rfl
      · rename_i r₁ hf₁
        rw [hf] at hf₁
        cases hf₁
    rw [hf] at hfill
    exact ⟨o, r', by simp only [receiveInternal, hd], Call.fill_leaves hf, hfill⟩

/-! ## Sessions -/

/-- A message with the length of its encoding, as `receive_with_len` returns it. -/
def withLen (P : Prost M) (m : M) : M × Nat := (m, (encode P m).length)

/-- **One call of a receiver whose stream is a list of whole messages**: it returns the first one
and holds the others, or it is interrupted and holds them all. -/
theorem receiveInternal_encodeAll {P : Prost M} (hP : P.Lawful) (c : Call) {r : ReceiverSimplex}
    {ms : List M} (hheld : r.held = encodeAll P ms) (hc : Chunked r.transport) :
    ∃ o r', receiveInternal P c r = (o, r') ∧ r'.transport <:+ r.transport ∧
      ((∃ m ms', ms = m :: ms' ∧ o = .message m (encode P m).length ∧
          r'.held = encodeAll P ms') ∨
        (o.Interrupted ∧ r'.held = encodeAll P ms ∧
          (ms = [] ∨ interruptions r'.transport < interruptions r.transport))) := by
  cases ms with
  | nil =>
    obtain ⟨o, r', he, ho, hadv⟩ := receiveInternal_nil hP c hheld hc
    exact ⟨o, r', he, hadv.transport, Or.inr ⟨ho, hadv.held.trans hheld, Or.inl rfl⟩⟩
  | cons m ms =>
    have hF := frame_encode hP m (encodeAll P ms)
    have hlen := totalLen_encode hP m
    have hcons : r.held = encode P m ++ encodeAll P ms := hheld
    rw [← hcons] at hF
    rcases receiveInternal_frame c hF hc with ⟨r', he, hr', ht⟩ | ⟨o, r', he, ho, hadv, hi⟩
    · refine ⟨_, r', he, ht, Or.inl ⟨m, ms, rfl, by rw [hlen], ?_⟩⟩
      rw [hr', hcons, hlen, List.drop_left]
    · exact ⟨o, r', he, hadv.transport, Or.inr ⟨ho, hadv.held.trans hheld, Or.inr hi⟩⟩

/-- **A session on a stream of whole messages.**  After any calls the results are the first `k`
messages with their lengths, the receiver holds the encodings of the others, no call failed to
decode or panicked, and `k` counts all messages once there were enough calls. -/
theorem session_encodeAll {P : Prost M} (hP : P.Lawful) : ∀ (cs : List Call) (r : ReceiverSimplex)
    (ms : List M), r.held = encodeAll P ms → Chunked r.transport →
    ∃ k, k ≤ ms.length ∧ results (session P cs r).1 = (ms.take k).map (withLen P) ∧
      (session P cs r).2.held = encodeAll P (ms.drop k) ∧
      (∀ o ∈ (session P cs r).1, o.Interrupted ∨ ∃ m len, o = .message m len) ∧
      (ms.length + interruptions r.transport ≤ cs.length → k = ms.length)
  | [], r, ms, hheld, _ => by
    refine ⟨0, Nat.zero_le _, rfl, hheld, ?_, fun h => ?_⟩
    · intro o ho
      cases ho
    · simp only [List.length_nil] at h
      omega
  | c :: cs, r, ms, hheld, hc => by
    obtain ⟨o, r', he, ht, hcase⟩ := receiveInternal_encodeAll hP c hheld hc
    have hi := interruptions_suffix ht
    simp only [session, perform_eq, he]
    rcases hcase with ⟨m, ms', rfl, rfl, hr'⟩ | ⟨ho, hr', hd⟩
    · obtain ⟨k, hk, hres, hheld', hos, hall⟩ := session_encodeAll hP cs r' ms' hr' (hc.suffix ht)
      refine ⟨k + 1, by simpa using hk, ?_, by simpa using hheld', ?_, ?_⟩
      · simp [results, Outcome.result?, withLen] at hres ⊢
        exact hres
      · intro o ho
        rcases List.mem_cons.mp ho with rfl | ho
        · exact Or.inr ⟨_, _, rfl⟩
        · exact hos o ho
      · intro h
        simp only [List.length_cons] at h ⊢
        have := hall (by omega)
        omega
    · obtain ⟨k, hk, hres, hheld', hos, hall⟩ := session_encodeAll hP cs r' ms hr' (hc.suffix ht)
      refine ⟨k, hk, ?_, hheld', ?_, ?_⟩
      · rw [results, List.filterMap_cons, ho.result?]
        exact hres
      · intro o₁ ho₁
        rcases List.mem_cons.mp ho₁ with rfl | ho₁
        · exact Or.inl ho
        · exact hos o₁ ho₁
      · intro h
        simp only [List.length_cons] at h
        rcases hd with rfl | hlt
        · simpa using hk
        · exact hall (by omega)

/-- **Round trip under any chunking.**  The messages are encoded and the bytes arrive in any
non-empty chunks, with any quiet spells and failures of the transport between them; then any calls
of `receive`, `receive_timeout` and the asynchronous `receive` are made on one receiver. -/
theorem session_round_trip {P : Prost M} (hP : P.Lawful) (ms : List M) (events : List Event)
    (hbytes : wire events = encodeAll P ms) (hchunks : Chunked events) (cs : List Call) :
    ∃ k, k ≤ ms.length ∧
      results (session P cs (.new events)).1 = (ms.take k).map (withLen P) ∧
      (session P cs (.new events)).2.held = encodeAll P (ms.drop k) ∧
      (∀ o ∈ (session P cs (.new events)).1, o.Interrupted ∨ ∃ m len, o = .message m len) ∧
      (k = ms.length → (session P cs (.new events)).2.receiveBuf = [] ∧
        wire (session P cs (.new events)).2.transport = []) ∧
      (ms.length + interruptions events ≤ cs.length → k = ms.length) := by
  obtain ⟨k, hk, hres, hheld, hos, hall⟩ :=
    session_encodeAll hP cs (.new events) ms hbytes hchunks
  refine ⟨k, hk, hres, hheld, hos, fun hk' => ?_, hall⟩
  rw [hk', List.drop_length] at hheld
  exact List.append_eq_nil_iff.mp hheld

/-- A message with one `bool` field, in the wire format with real length delimiters. -/
def flagProst : Prost Bool where
  encode
    | false => []
    | true => [0x08, 0x01]
  decode
    | [] => some false
    | [0x08, 0x00] => some false
    | [0x08, 0x01] => some true
    | _ => none
  encodeLengthDelimiter := Varint.encode
  decodeLengthDelimiter := Varint.decode

theorem flagProst_lawful : flagProst.Lawful where
  decode_encode m := by cases m <;> rfl
  delimiter m := Varint.decode_encode (by cases m <;> decide)
  delimiter_nil := rfl
  delimiter_take _ _ h := Varint.decode_take_encode h
  encoded_lt m := by cases m <;> decide

theorem session_round_trip_flags :
    results (session flagProst [.receiveTimeout, .asyncReceive, .receive]
      (.new [.bytes [0x02], .quiet, .bytes [0x08, 0x01, 0x00]])).1 = [(true, 3), (false, 1)] ∧
    (session flagProst [.receiveTimeout, .asyncReceive, .receive]
      (.new [.bytes [0x02], .quiet, .bytes [0x08, 0x01, 0x00]])).2.receiveBuf = [] := by
  obtain ⟨k, -, hres, -, -, hend, hall⟩ := session_round_trip flagProst_lawful [true, false]
    [.bytes [0x02], .quiet, .bytes [0x08, 0x01, 0x00]] (by decide) (by unfold Chunked; decide)
    [.receiveTimeout, .asyncReceive, .receive]
  have hk : k = 2 := hall (by decide)
  subst hk
  exact ⟨hres, (hend rfl).1⟩

end ApertureC.InOrder
