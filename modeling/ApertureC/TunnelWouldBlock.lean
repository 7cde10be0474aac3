import ApertureC.TunnelInvariant
import Mathlib.Data.List.TakeWhile

/-!
# Streams that are not ready (`aperturec-client/src/channels/tunnel.rs`)

A socket accepted by `mio` does not block: a `read` without data and a `write` without room return
`WouldBlock`.  The threads of a stream, call by call.

* `readThread`, `writeAll`, `writeThread` — the loops of the two threads over the outcomes of their
  calls; `readTask` — the reads of the server's `task/tunnel_channel_handler.rs`.
* `sentByPeer`, `calls` — what the peer sent, and the write calls that the chunks take, when
  `WouldBlock` means that the stream is not ready yet.

Principal results: `run_readActs` and `writeAll_step` (the loops are those of the tunnel machine),
`readTask_flatten` (the server forwards everything) and `streams_served_iff` (**the threads of a
client-bound stream serve it exactly when no data follow a `WouldBlock` and no write returns it**).
-/

set_option autoImplicit false

namespace ApertureC.Tunnel

/-! ## Reading -/

/-- What a `read` returns; no bytes are the end of the stream. -/
abbrev ReadOutcome := Except IoError (List UInt8)

/-- The loop of `tc-stream-read-thread`: the chunks it forwards, and its result unless it is still
reading. -/
def readThread : List ReadOutcome → List (List UInt8) × Option (Except IoError Unit)
  | [] => ([], none)
  | .error e :: _ => ([], some (.error e))
  | .ok data :: rest =>
    if data.length = 0 then ([], some (.ok ()))
    else
      let (forwarded, result) := readThread rest
      (data :: forwarded, result)

/-- The reads of the server's stream task, which goes on after `WouldBlock`. -/
def readTask : List ReadOutcome → List (List UInt8) × Option (Except IoError Unit)
  | [] => ([], none)
  | .error .wouldBlock :: rest => readTask rest
  | .error .other :: _ => ([], some (.error .other))
  | .ok data :: rest =>
    if data.length = 0 then ([], some (.ok ()))
    else
      let (forwarded, result) := readTask rest
      (data :: forwarded, result)

/-- The stream has ended: its end is read, or an error other than `WouldBlock`. -/
def ends : ReadOutcome → Bool
  | .ok data => data.isEmpty
  | .error .wouldBlock => false
  | .error .other => true

def bytes : ReadOutcome → List UInt8
  | .ok data => data
  | .error _ => []

/-- The reads before the stream ends. -/
def live (outcomes : List ReadOutcome) : List ReadOutcome := outcomes.takeWhile fun o => !ends o

/-- What the local peer sent before the stream ended. -/
def sentByPeer (outcomes : List ReadOutcome) : List UInt8 := (live outcomes).flatMap bytes

/-- No data are read after a `WouldBlock`. -/
def ReadyToRead (outcomes : List ReadOutcome) : Prop :=
  ∀ pre post, live outcomes = pre ++ .error .wouldBlock :: post → ∀ o ∈ post, o = .error .wouldBlock

@[simp] theorem live_wouldBlock (rest : List ReadOutcome) :
    live (.error .wouldBlock :: rest) = .error .wouldBlock :: live rest := rfl

@[simp] theorem live_other (rest : List ReadOutcome) : live (.error .other :: rest) = [] := rfl

@[simp] theorem live_end (rest : List ReadOutcome) : live (.ok [] :: rest) = [] := rfl

@[simp] theorem live_data (b : UInt8) (bs : List UInt8) (rest : List ReadOutcome) :
    live (.ok (b :: bs) :: rest) = .ok (b :: bs) :: live rest := rfl

theorem sentByPeer_eq_nil_iff (outcomes : List ReadOutcome) :
    sentByPeer outcomes = [] ↔ ∀ o ∈ live outcomes, o = .error .wouldBlock := by
  unfold sentByPeer
  rw [List.flatMap_eq_nil_iff]
  refine forall₂_congr fun o ho => ?_
  have hlive : ends o = false := by
    simpa using List.mem_takeWhile_imp ho
  match o, hlive with
  | .error .wouldBlock, _ => simp [bytes]
  | .ok (b :: bs), _ => simp [bytes]

theorem readyToRead_of_live_nil {outcomes : List ReadOutcome} (h : live outcomes = []) :
    ReadyToRead outcomes := by
  intro pre post heq
  rw [h] at heq
  simp at heq

theorem readyToRead_wouldBlock (rest : List ReadOutcome) :
    ReadyToRead (.error .wouldBlock :: rest) ↔ ∀ o ∈ live rest, o = .error .wouldBlock := by
  constructor
  · intro h
    exact h [] (live rest) rfl
  · intro h pre post heq o ho
    rw [live_wouldBlock] at heq
    cases pre with
    | nil =>
      cases heq
      exact h o ho
    | cons p pre =>
      have htail := (List.cons.inj heq).2
      exact h o (by rw [htail]; exact List.mem_append_right _ (List.mem_cons_of_mem _ ho))

theorem readyToRead_data (b : UInt8) (bs : List UInt8) (rest : List ReadOutcome) :
    ReadyToRead (.ok (b :: bs) :: rest) ↔ ReadyToRead rest := by
  constructor
  · intro h pre post heq
    exact h (.ok (b :: bs) :: pre) post (by rw [live_data, heq]; rfl)
  · intro h pre post heq
    rw [live_data] at heq
    cases pre with
    | nil => cases heq
    | cons p pre => exact h pre post (List.cons.inj heq).2

/-- **The read thread forwards what the peer sent exactly when no data follow a `WouldBlock`.** -/
theorem readThread_flatten_iff (outcomes : List ReadOutcome) :
    (readThread outcomes).1.flatten = sentByPeer outcomes ↔ ReadyToRead outcomes := by
  induction outcomes with
  | nil => exact iff_of_true rfl (readyToRead_of_live_nil rfl)
  | cons o rest ih =>
    match o with
    | .error .other => exact iff_of_true rfl (readyToRead_of_live_nil rfl)
    | .error .wouldBlock =>
      rw [readyToRead_wouldBlock, ← sentByPeer_eq_nil_iff]
      exact eq_comm
    | .ok [] => exact iff_of_true rfl (readyToRead_of_live_nil rfl)
    | .ok (b :: bs) =>
      rw [readyToRead_data, ← ih]
      simp [readThread, sentByPeer, bytes]

/-- The server forwards all that the peer sent, whenever that is ready. -/
theorem readTask_flatten (outcomes : List ReadOutcome) :
    (readTask outcomes).1.flatten = sentByPeer outcomes := by
  induction outcomes with
  | nil => rfl
  | cons o rest ih =>
    match o with
    | .error .other => rfl
    | .error .wouldBlock => simpa [readTask, sentByPeer, bytes] using ih
    | .ok [] => rfl
    | .ok (b :: bs) => simpa [readTask, sentByPeer, bytes] using ih

/-! ### In the tunnel machine -/

/-- The actions of the read thread of `c`. -/
def readActs (c : Nat) : List ReadOutcome → List Act
  | [] => []
  | .error e :: _ => [.thread c (.readEnd (.error e))]
  | .ok data :: rest =>
    if data.length = 0 then [.thread c (.readEnd (.ok ()))]
    else .thread c (.readData data) :: .forward c :: readActs c rest

/-- **A read thread of the tunnel machine sends the chunks of the loop**, whatever the rest of the
client does. -/
theorem run_readActs {tunnels : Tunnels} {c : Nat} :
    ∀ {outcomes : List ReadOutcome} {s : TcState} {t : StreamThreads}, s.threads[c]? = some t →
      t.read = .reading → (∀ o ∈ outcomes, (bytes o).length ≤ 0x1000) →
      ∃ s', Machine.run (TcState.step tunnels) s (readActs c outcomes) = some s' ∧
        s'.toServer = s.toServer ++ (readThread outcomes).1.map (tcpData t.id)
  | [], s, t, _, _, _ => ⟨s, rfl, (List.append_nil _).symm⟩
  | .error e :: _, s, t, ht, hr, _ => by
    have hstep : s.step tunnels (.thread c (.readEnd (.error e))) =
        some { s with threads := s.threads.set c { t with read := .reporting (.error e) } } := by
      simp [TcState.step, ht, StreamThreads.step, hr]
    exact ⟨_, Machine.run_cons_some hstep [], (List.append_nil _).symm⟩
  | .ok data :: rest, s, t, ht, hr, hlen => by
    by_cases hdata : data.length = 0
    · have hstep : s.step tunnels (.thread c (.readEnd (.ok ()))) =
          some { s with threads := s.threads.set c { t with read := .reporting (.ok ()) } } := by
        simp [TcState.step, ht, StreamThreads.step, hr]
      refine ⟨{ s with threads := s.threads.set c { t with read := .reporting (.ok ()) } }, ?_, ?_⟩
      · rw [readActs, if_pos hdata]
        exact Machine.run_cons_some hstep []
      · simp [readThread, hdata]
    · have hlt : c < s.threads.length := (List.getElem?_eq_some_iff.mp ht).1
      have hsize : 0 < data.length ∧ data.length ≤ 0x1000 :=
        ⟨Nat.pos_of_ne_zero hdata, hlen (.ok data) List.mem_cons_self⟩
      have hread : s.step tunnels (.thread c (.readData data)) =
          some { s with threads := s.threads.set c { t with read := .forwarding data } } := by
        simp [TcState.step, ht, StreamThreads.step, hr, hsize]
      have hforward : TcState.step tunnels
          { s with threads := s.threads.set c { t with read := .forwarding data } } (.forward c) =
          some { s with
            threads := s.threads.set c { t with read := .reading }
            toServer := s.toServer ++ [tcpData t.id data] } := by
        simp [TcState.step, hlt]
      have hrest : ∃ s', Machine.run (TcState.step tunnels) { s with
            threads := s.threads.set c { t with read := .reading }
            toServer := s.toServer ++ [tcpData t.id data] } (readActs c rest) = some s' ∧
          s'.toServer =
            s.toServer ++ [tcpData t.id data] ++ (readThread rest).1.map (tcpData t.id) :=
        @run_readActs tunnels c rest _ { t with read := .reading } (List.getElem?_set_self hlt) rfl
          fun o ho => hlen o (List.mem_cons_of_mem _ ho)
      obtain ⟨s', hrun, hsent⟩ := hrest
      refine ⟨s', ?_, ?_⟩
      · rw [readActs, if_neg hdata, Machine.run_cons_some hread, Machine.run_cons_some hforward, hrun]
      · rw [hsent]
        simp [readThread, hdata]

/-! ## Writing -/

/-- What a `write` returns. -/
inductive WriteOutcome where
  | wrote (n : Nat)
  | interrupted
  | failed (e : IoError)
  deriving DecidableEq, Repr

/-- How `write_all` ends, with the outcomes left for later calls; `waiting` is within a call. -/
inductive WriteAllEnd where
  | done (rest : List WriteOutcome)
  | waiting
  | failed (e : IoError)
  deriving DecidableEq, Repr

/-- `Write::write_all`: what it writes, and how it ends.  A write of no bytes is an error. -/
def writeAll : List UInt8 → List WriteOutcome → List UInt8 × WriteAllEnd
  | [], outs => ([], .done outs)
  | _ :: _, [] => ([], .waiting)
  | b :: bs, .wrote n :: outs =>
    if n = 0 then ([], .failed .other)
    else
      let (written, result) := writeAll ((b :: bs).drop n) outs
      ((b :: bs).take n ++ written, result)
  | b :: bs, .interrupted :: outs => writeAll (b :: bs) outs
  | _ :: _, .failed e :: _ => ([], .failed e)

/-- What a write thread does in the end: it waits for more chunks, waits within a call, or has
failed. -/
inductive WriteEnd where
  | receiving
  | waiting
  | failed (e : IoError)
  deriving DecidableEq, Repr

/-- `tc-stream-write-thread`, over what was queued and the chunks that it is handed. -/
def writeThread : List (List UInt8) → List WriteOutcome → List UInt8 × WriteEnd
  | [], _ => ([], .receiving)
  | data :: rest, outs =>
    match writeAll data outs with
    | (written, .done outs) =>
      let (later, result) := writeThread rest outs
      (written ++ later, result)
    | (written, .waiting) => (written, .waiting)
    | (written, .failed e) => (written, .failed e)

/-- The outcomes of the write calls that a buffer takes when `WouldBlock` is tried again, and what is
left after them. -/
def callsFor : List UInt8 → List WriteOutcome → List WriteOutcome × List WriteOutcome
  | [], outs => ([], outs)
  | _ :: _, [] => ([], [])
  | b :: bs, .wrote n :: outs =>
    if n = 0 then ([.wrote n], [])
    else
      let (calls, rest) := callsFor ((b :: bs).drop n) outs
      (.wrote n :: calls, rest)
  | b :: bs, .interrupted :: outs =>
    let (calls, rest) := callsFor (b :: bs) outs
    (.interrupted :: calls, rest)
  | b :: bs, .failed .wouldBlock :: outs =>
    let (calls, rest) := callsFor (b :: bs) outs
    (.failed .wouldBlock :: calls, rest)
  | _ :: _, .failed .other :: _ => ([.failed .other], [])

/-- The outcomes of the write calls that the chunks take. -/
def calls : List (List UInt8) → List WriteOutcome → List WriteOutcome
  | [], _ => []
  | data :: rest, outs => (callsFor data outs).1 ++ calls rest (callsFor data outs).2

/-- Every byte is written, unless the thread waits within a call or fails with an error other than
`WouldBlock`. -/
def WritesAll (chunks : List (List UInt8)) (outs : List WriteOutcome) : Prop :=
  ((writeThread chunks outs).2 = .receiving → (writeThread chunks outs).1 = chunks.flatten) ∧
    (writeThread chunks outs).2 ≠ .failed .wouldBlock

/-- How `write_all` ends is how the calls for its buffer end, up to the first `WouldBlock`. -/
theorem writeAll_spec (outs : List WriteOutcome) : ∀ buf : List UInt8,
    match writeAll buf outs with
    | (written, .done rest) =>
      written = buf ∧ .failed .wouldBlock ∉ (callsFor buf outs).1 ∧ (callsFor buf outs).2 = rest
    | (_, .waiting) =>
      .failed .wouldBlock ∉ (callsFor buf outs).1 ∧ (callsFor buf outs).2 = []
    | (_, .failed .other) =>
      .failed .wouldBlock ∉ (callsFor buf outs).1 ∧ (callsFor buf outs).2 = []
    | (_, .failed .wouldBlock) => .failed .wouldBlock ∈ (callsFor buf outs).1 := by
  induction outs with
  | nil =>
    intro buf
    cases buf <;> simp [writeAll, callsFor]
  | cons o outs ih =>
    intro buf
    cases buf with
    | nil => simp [writeAll, callsFor]
    | cons b bs =>
      match o with
      | .wrote n =>
        by_cases hn : n = 0
        · simp [writeAll, callsFor, hn]
        · have hrest := ih ((b :: bs).drop n)
          rw [writeAll, callsFor, if_neg hn, if_neg hn]
          revert hrest
          generalize writeAll ((b :: bs).drop n) outs = r
          match r with
          | (written, .done rest) =>
            rintro ⟨rfl, hno, hleft⟩
            exact ⟨List.take_append_drop n _, by simpa using hno, hleft⟩
          | (_, .waiting) => exact fun h => ⟨by simpa using h.1, h.2⟩
          | (_, .failed .other) => exact fun h => ⟨by simpa using h.1, h.2⟩
          | (_, .failed .wouldBlock) => exact fun h => List.mem_cons_of_mem _ h
      | .interrupted =>
        have hrest := ih (b :: bs)
        rw [writeAll, callsFor]
        revert hrest
        generalize writeAll (b :: bs) outs = r
        match r with
        | (_, .done rest) => exact fun h => ⟨h.1, by simpa using h.2.1, h.2.2⟩
        | (_, .waiting) => exact fun h => ⟨by simpa using h.1, h.2⟩
        | (_, .failed .other) => exact fun h => ⟨by simpa using h.1, h.2⟩
        | (_, .failed .wouldBlock) => exact fun h => List.mem_cons_of_mem _ h
      | .failed .wouldBlock => simp [writeAll, callsFor]
      | .failed .other => simp [writeAll, callsFor]

theorem callsFor_nil : ∀ data : List UInt8, callsFor data [] = ([], [])
  | [] => rfl
  | _ :: _ => rfl

theorem calls_nil : ∀ chunks : List (List UInt8), calls chunks [] = []
  | [] => rfl
  | data :: rest => by simp [calls, callsFor_nil, calls_nil rest]

/-- **The write thread writes every byte it is handed exactly when none of the calls for them returns
`WouldBlock`.** -/
theorem writesAll_iff (chunks : List (List UInt8)) (outs : List WriteOutcome) :
    WritesAll chunks outs ↔ .failed .wouldBlock ∉ calls chunks outs := by
  unfold WritesAll
  induction chunks generalizing outs with
  | nil => simp [writeThread, calls]
  | cons data rest ih =>
    have hspec := writeAll_spec outs data
    rw [writeThread, calls]
    revert hspec
    generalize writeAll data outs = r
    match r with
    | (_, .done left) =>
      rintro ⟨rfl, hno, hleft⟩
      have hrest := ih left
      simp only [hleft, List.mem_append, hno, false_or, List.flatten_cons,
        List.append_cancel_left_eq]
      exact hrest
    | (_, .waiting) =>
      rintro ⟨hno, hleft⟩
      simp [hleft, calls_nil, hno]
    | (_, .failed .other) =>
      rintro ⟨hno, hleft⟩
      simp [hleft, calls_nil, hno]
    | (_, .failed .wouldBlock) =>
      intro hin
      simp [hin]

/-- What is written is a part of the buffer, and not all of it when `write_all` does not succeed. -/
theorem writeAll_prefix (outs : List WriteOutcome) : ∀ buf : List UInt8,
    (writeAll buf outs).1 <+: buf ∧
      ((∀ rest, (writeAll buf outs).2 ≠ .done rest) →
        (writeAll buf outs).1.length < buf.length) := by
  induction outs with
  | nil =>
    intro buf
    cases buf <;> simp [writeAll]
  | cons o outs ih =>
    intro buf
    cases buf with
    | nil => simp [writeAll]
    | cons b bs =>
      match o with
      | .wrote n =>
        by_cases hn : n = 0
        · simp [writeAll, hn]
        · obtain ⟨hpre, hlt⟩ := ih ((b :: bs).drop n)
          rw [writeAll, if_neg hn]
          constructor
          · have hjoin := (List.prefix_append_right_inj ((b :: bs).take n)).mpr hpre
            rwa [List.take_append_drop] at hjoin
          · intro hdone
            have hshort := hlt hdone
            simp only [List.length_append, List.length_take, List.length_drop] at hshort ⊢
            omega
      | .interrupted => exact ih (b :: bs)
      | .failed e => simp [writeAll]

/-- **A write of the tunnel machine is a `write_all` of its chunk.** -/
theorem writeAll_step {t : StreamThreads} {data : List UInt8} (ht : t.write = .writing data)
    (outs : List WriteOutcome) :
    match writeAll data outs with
    | (written, .done _) =>
      t.step .writeOk = some { t with write := .receiving, written := t.written ++ written }
    | (_, .waiting) => True
    | (written, .failed e) =>
      t.step (.writeFails written.length e) =
        some { t with write := .reporting (.error e), written := t.written ++ written } := by
  have hspec := writeAll_spec outs data
  obtain ⟨hpre, hlt⟩ := writeAll_prefix outs data
  revert hspec hpre hlt
  generalize writeAll data outs = r
  obtain ⟨written, result⟩ := r
  cases result with
  | done rest =>
    rintro ⟨rfl, -⟩ - -
    simp [StreamThreads.step, ht]
  | waiting => exact fun _ _ _ => trivial
  | failed e =>
    intro _ hpre hlt
    have hshort : written.length < data.length := hlt fun rest h => by cases h
    have htake : data.take written.length = written := (List.prefix_iff_eq_take.mp hpre).symm
    simp [StreamThreads.step, ht, hshort, htake]

/-! ## Both threads -/

/-- **A stream that is momentarily not ready is treated as ended**: its threads serve it exactly when
no data follow a `WouldBlock`, and no write of the bytes handed to them returns one. -/
theorem streams_served_iff (reads : List ReadOutcome) (chunks : List (List UInt8))
    (writes : List WriteOutcome) :
    ((readThread reads).1.flatten = sentByPeer reads ∧ WritesAll chunks writes) ↔
      ReadyToRead reads ∧ .failed .wouldBlock ∉ calls chunks writes :=
  and_congr (readThread_flatten_iff reads) (writesAll_iff chunks writes)

/-- The peer of an accepted connection is slow: its bytes come after the first `read`, and its socket
buffer is full at the first `write`. -/
theorem slow_peer :
    (readThread [.error .wouldBlock, .ok [104, 105]]).1.flatten ≠
        sentByPeer [.error .wouldBlock, .ok [104, 105]] ∧
      ¬ WritesAll [[1, 2]] [.failed .wouldBlock, .wrote 2] := by
  refine ⟨by decide, fun h => ?_⟩
  exact h.2 rfl

end ApertureC.Tunnel
