import Mathlib.Algebra.Order.BigOperators.Group.List
import Mathlib.Algebra.Order.Group.Nat
import ApertureC.InOrderCodec

/-!
# Splitting in-order duplex channels

`Duplex::split` and `AsyncDuplex::split` of `aperturec-channel/src/codec/in_order.rs`.  Both give
the receive half of the transport to a receiver of its own; the synchronous one moves
`receive_buf` along, the asynchronous one starts with an empty buffer.

* `Duplex`, `AsyncDuplex` — the receive side of the channels, with `split`.
* `Duplex.receiver`, `AsyncDuplex.receiver` — what the unsplit channel receives from.

Principal results: `session_lens` (**the lengths returned account for every byte taken**, on any
bytes) and `split_same_iff` (the split loses nothing exactly when the buffer is empty).
-/

set_option autoImplicit false

namespace ApertureC.InOrder

variable {M : Type}

/-! ## The channels -/

/-- `Duplex`, receive side -/
structure Duplex where
  transport : List Event
  receiveBuf : List UInt8
  deriving DecidableEq, Repr

/-- `AsyncDuplex`, receive side -/
structure AsyncDuplex where
  transport : List Event
  receiveBuf : List UInt8
  deriving DecidableEq, Repr

/-- `AsyncDuplex::new` -/
def AsyncDuplex.new (t : List Event) : AsyncDuplex := ⟨t, []⟩

/-- What `Duplex::receive_with_len` works on. -/
def Duplex.receiver (d : Duplex) : ReceiverSimplex := ⟨d.transport, d.receiveBuf⟩

/-- What `AsyncDuplex::receive_with_len` works on. -/
def AsyncDuplex.receiver (d : AsyncDuplex) : ReceiverSimplex := ⟨d.transport, d.receiveBuf⟩

/-- `Duplex::split`, receive half: the buffer moves along. -/
def Duplex.split (d : Duplex) : ReceiverSimplex := ⟨d.transport, d.receiveBuf⟩

/-- `AsyncDuplex::split`, receive half: `AsyncReceiverSimplex::new(rh)`. -/
def AsyncDuplex.split (d : AsyncDuplex) : ReceiverSimplex := ReceiverSimplex.new d.transport

/-- The messages that `n` asynchronous receives return, each with its length. -/
def receives (P : Prost M) (n : Nat) (r : ReceiverSimplex) : List (M × Nat) :=
  results (session P (List.replicate n .asyncReceive) r).1

/-- The channel after `n` receives. -/
def AsyncDuplex.after (P : Prost M) (n : Nat) (d : AsyncDuplex) : AsyncDuplex :=
  let r := (session P (List.replicate n .asyncReceive) d.receiver).2
  ⟨r.transport, r.receiveBuf⟩

@[simp] theorem AsyncDuplex.receiver_after (P : Prost M) (n : Nat) (d : AsyncDuplex) :
    (d.after P n).receiver = (session P (List.replicate n .asyncReceive) d.receiver).2 := rfl

@[simp] theorem AsyncDuplex.held_split (d : AsyncDuplex) : d.split.held = wire d.transport := rfl

/-- Splitting loses nothing: receiving on goes the same way on the receive half. -/
def AsyncDuplex.SplitSame (P : Prost M) (d : AsyncDuplex) : Prop :=
  ∀ n, receives P n d.split = receives P n d.receiver

/-! ## Accounting for bytes -/

/-- **The lengths returned account for every byte taken**, whatever the bytes are. -/
theorem session_lens (P : Prost M) : ∀ (cs : List Call) (r : ReceiverSimplex),
    ((results (session P cs r).1).map Prod.snd).sum + (session P cs r).2.held.length =
      r.held.length
  | [], r => by simp [session, results]
  | c :: cs, r => by
    simp only [session, perform_eq]
    rcases receiveInternal_cases P c r with ⟨d, n, m, r', hF, hr', -, he⟩ | ⟨o, r', ho, hadv, he⟩
    · have ih := session_lens P cs r'
      have hlen : r'.held.length = r.held.length - (totalLen d n) := by rw [hr', List.length_drop]
      have := hF.complete
      simp only [he, results, List.filterMap_cons, Outcome.result?, List.map_cons, List.sum_cons]
      simp only [results] at ih
      omega
    · have ih := session_lens P cs r'
      rw [hadv.held] at ih
      simp only [he, results, List.filterMap_cons, ho]
      exact ih

theorem session_suffix (P : Prost M) : ∀ (cs : List Call) (r : ReceiverSimplex),
    (session P cs r).2.transport <:+ r.transport
  | [], _ => List.suffix_rfl
  | c :: cs, r => by
    simp only [session, perform_eq]
    rcases receiveInternal_cases P c r with ⟨d, n, m, r', -, -, ht, he⟩ | ⟨o, r', -, hadv, he⟩
    · rw [he]
      exact (session_suffix P cs r').trans ht
    · rw [he]
      exact (session_suffix P cs r').trans hadv.transport

/-- No single length returned exceeds the bytes held. -/
theorem receives_le {P : Prost M} {n : Nat} {r : ReceiverSimplex} {m : M} {len : Nat}
    (h : (m, len) ∈ receives P n r) : len ≤ r.held.length := by
  have hsum := session_lens P (List.replicate n .asyncReceive) r
  have hmem : len ∈ (receives P n r).map Prod.snd := List.mem_map.mpr ⟨_, h, rfl⟩
  have hle : len ≤ ((receives P n r).map Prod.snd).sum := List.le_sum_of_mem hmem
  simp only [receives] at hle
  omega

/-- Without a frame in the bytes held no message is returned. -/
theorem receives_eq_nil {P : Prost M} {r : ReceiverSimplex}
    (h : ∀ d n m, ¬ Frame P r.held d n m) : ∀ n, receives P n r = []
  | 0 => rfl
  | n + 1 => by
    rcases receiveInternal_cases P .asyncReceive r with ⟨d, k, m, r', hF, -⟩ | ⟨o, r', ho, hadv, he⟩
    · exact absurd hF (h d k m)
    · have ih := receives_eq_nil (P := P) (r := r') (by rw [hadv.held]; exact h) n
      simp only [receives, List.replicate_succ, session, perform_eq, he, results,
        List.filterMap_cons, ho]
      exact ih

/-! ## Bytes that arrive one by one -/

/-- A transport that delivers the bytes one by one, without a break. -/
def trickle (bs : List UInt8) : List Event := bs.map fun b => .bytes [b]

@[simp] theorem wire_trickle (bs : List UInt8) : wire (trickle bs) = bs := by
  simp [wire, trickle, List.flatMap_map, Event.payload]

theorem chunked_trickle (bs : List UInt8) : Chunked (trickle bs) := by
  simp [Chunked, trickle]

theorem interruptions_trickle (bs : List UInt8) : interruptions (trickle bs) = 0 := by
  simp [interruptions, trickle]

/-- A frame that trickles in is returned by the first receive. -/
theorem receives_trickle {P : Prost M} {buf bs : List UInt8} {d n : Nat} {m : M}
    (hF : Frame P (buf ++ bs) d n m) : receives P 1 ⟨trickle bs, buf⟩ = [(m, totalLen d n)] := by
  have hheld : ReceiverSimplex.held ⟨trickle bs, buf⟩ = buf ++ bs := by
    simp [ReceiverSimplex.held]
  rw [← hheld] at hF
  rcases receiveInternal_frame .asyncReceive hF (chunked_trickle bs) with
    ⟨r', he, -⟩ | ⟨o, r', -, -, -, hi⟩
  · simp [receives, session, perform_eq, he, results, Outcome.result?]
  · rw [interruptions_trickle] at hi
    exact absurd hi (Nat.not_lt_zero _)

/-! ## When the split loses nothing -/

/-- With bytes in the buffer some later bytes are received differently on the receive half. -/
theorem exists_receives_ne [Inhabited M] {P : Prost M} (hP : P.Lawful) {buf : List UInt8}
    (hbuf : buf ≠ []) : ∃ t, receives P 1 (.new t) ≠ receives P 1 ⟨t, buf⟩ := by
  by_cases hex : ∃ bs d n m, Frame P (buf ++ bs) d n m
  · -- cut the stream at the end of the frame: the receive half has too few bytes for it
    obtain ⟨bs, d, n, m, hF⟩ := hex
    have hd : d ≠ 0 := by
      rintro rfl
      have := hF.delimiter
      rw [List.take_zero, hP.delimiter_nil] at this
      cases this
    have hpos : 0 < buf.length := List.length_pos_iff.mpr hbuf
    have hord := hF.ordered
    refine ⟨trickle (bs.take (totalLen d n - buf.length)), fun hsame => ?_⟩
    have hcut : Frame P (buf ++ bs.take (totalLen d n - buf.length)) d n m := by
      apply hF.of_take_eq
      rw [List.take_append, List.take_append, List.take_take, Nat.min_self]
    rw [receives_trickle hcut] at hsame
    have hle : totalLen d n ≤ (ReceiverSimplex.new (trickle (bs.take (totalLen d n - buf.length)))).held.length :=
      receives_le (P := P) (n := 1) (m := m) (by rw [hsame]; exact List.mem_singleton_self _)
    simp only [ReceiverSimplex.held, ReceiverSimplex.new, List.nil_append, wire_trickle,
      List.length_take] at hle
    omega
  · -- the buffered bytes never become a message
    have hnone : ∀ bs d n m, ¬ Frame P (buf ++ bs) d n m :=
      fun bs d n m hF => hex ⟨bs, d, n, m, hF⟩
    refine ⟨trickle (encode P default), fun hsame => ?_⟩
    have hF := frame_encode hP default []
    have hsplit : receives P 1 (.new (trickle (encode P default))) = [(default, _)] :=
      receives_trickle (by simpa using hF)
    rw [hsplit, receives_eq_nil (by simpa [ReceiverSimplex.held] using hnone _)] at hsame
    cases hsame

/-- Whole messages to come are received the same way only when none of their bytes is in the
buffer. -/
theorem receiveBuf_eq_nil_of_same {P : Prost M} (hP : P.Lawful) {d : AsyncDuplex} {ms : List M}
    (hheld : d.receiver.held = encodeAll P ms) (hc : Chunked d.transport)
    (hsame : d.SplitSame P) : d.receiveBuf = [] := by
  let n := ms.length + interruptions d.transport
  obtain ⟨k, -, -, hleft, -, hall⟩ :=
    session_encodeAll hP (List.replicate n .asyncReceive) d.receiver ms hheld hc
  have hk : k = ms.length := hall (by rw [List.length_replicate]; exact Nat.le_refl _)
  have hall' := session_lens P (List.replicate n .asyncReceive) d.receiver
  have hpart := session_lens P (List.replicate n .asyncReceive) d.split
  rw [hleft, hk, List.drop_length] at hall'
  have hn : results (session P (List.replicate n .asyncReceive) d.split).1 =
      results (session P (List.replicate n .asyncReceive) d.receiver).1 := hsame n
  rw [hn, AsyncDuplex.held_split] at hpart
  have hlen : d.receiver.held.length = d.receiveBuf.length + (wire d.transport).length :=
    List.length_append
  apply List.eq_nil_of_length_eq_zero
  simp only [encodeAll, List.flatMap_nil, List.length_nil] at hall'
  omega

/-- **A split loses nothing exactly when `receive_buf` goes along or is empty.**  The synchronous
split is the same channel on every stream.  The asynchronous one is, on every later stream, exactly
when the buffer is empty; and when the peer sends whole messages, on the very stream that follows
exactly when the buffer is empty. -/
theorem split_same_iff [Inhabited M] {P : Prost M} (hP : P.Lawful) :
    (∀ (d : Duplex) (cs : List Call), session P cs d.split = session P cs d.receiver) ∧
    (∀ d : AsyncDuplex,
      (∀ later, AsyncDuplex.SplitSame P { d with transport := later }) ↔ d.receiveBuf = []) ∧
    (∀ (ms : List M) (events : List Event) (k : Nat),
      wire events = encodeAll P ms → Chunked events →
      (((AsyncDuplex.new events).after P k).SplitSame P ↔
        ((AsyncDuplex.new events).after P k).receiveBuf = [])) := by
  refine ⟨fun d cs => rfl, fun d => ⟨fun h => ?_, fun h later n => ?_⟩,
    fun ms events k hbytes hc => ⟨fun h => ?_, fun h n => ?_⟩⟩
  · by_contra hbuf
    obtain ⟨t, ht⟩ := exists_receives_ne hP hbuf
    exact ht (h t 1)
  · simp only [AsyncDuplex.split, AsyncDuplex.receiver, ReceiverSimplex.new, h]
  · obtain ⟨j, -, -, hheld, -⟩ := session_encodeAll hP (List.replicate k .asyncReceive)
      (AsyncDuplex.new events).receiver ms hbytes hc
    have hsuffix := session_suffix P (List.replicate k .asyncReceive)
      (AsyncDuplex.new events).receiver
    exact receiveBuf_eq_nil_of_same hP hheld (hc.suffix hsuffix) h
  · simp only [AsyncDuplex.split, AsyncDuplex.receiver, ReceiverSimplex.new, h]

/-- A chunk that ends with the message leaves the buffer empty. -/
theorem split_same_flag :
    ((AsyncDuplex.new [.bytes [0x02, 0x08, 0x01], .bytes [0x00]]).after flagProst 1).SplitSame
      flagProst :=
  ((split_same_iff flagProst_lawful).2.2 [true, false]
    [.bytes [0x02, 0x08, 0x01], .bytes [0x00]] 1 (by decide) (by unfold Chunked; decide)).mpr
    (by decide +kernel)

/-- A chunk that holds two messages: the second one is lost in the split. -/
theorem split_drops_buffered_flag :
    ¬ ((AsyncDuplex.new [.bytes [0x02, 0x08, 0x01, 0x00]]).after flagProst 1).SplitSame flagProst := by
  intro h
  have hsplit : receives flagProst 1
      ((AsyncDuplex.new [.bytes [0x02, 0x08, 0x01, 0x00]]).after flagProst 1).split = [] := by
    decide +kernel
  have hunsplit : receives flagProst 1
      ((AsyncDuplex.new [.bytes [0x02, 0x08, 0x01, 0x00]]).after flagProst 1).receiver =
        [(false, 1)] := by
    decide +kernel
  have := h 1
  rw [hsplit, hunsplit] at this
  cases this

end ApertureC.InOrder
