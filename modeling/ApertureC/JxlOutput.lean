import Mathlib.Algebra.GroupWithZero.Nat
import ApertureC.Lib.Machine
import Mathlib.Data.List.Basic
import Mathlib.Order.Nat

/-!
# The output buffer of the JPEG XL encoder

`jxl::OutputBuffer` in `aperturec-server/src/task/encoder.rs` is the output processor of the
encoder: the encoder asks for a buffer, writes a prefix of it, releases it, seeks, and declares a
prefix of its stream final.

* `ByteVec` — `Vec<u8>`: an allocation, of which the first `len` bytes are the content.
* `OutputBuffer` — the four callbacks; `none` is a panic or an underflow.
* `Stream` — what the encoder means: a position, and the last byte written at each position.
* `Session`, `step` — a call that the contract of an output processor allows: one buffer at a
  time, at most its reported size is written, no seek while it is out or below the finalized
  position, which never decreases and never exceeds the written extent.

The allocator may give more than it was asked for; each call that can allocate says how much.

Principal results: `getBuffer_spec` (where a returned buffer lies), `step_good`, and
`outputBuffer_iff` (**which runs put every byte at its position**).
-/

set_option autoImplicit false

namespace ApertureC.Jxl

/-- `isize::MAX`, the bound of every capacity. -/
def ISIZE_MAX : Nat := 2 ^ 63 - 1

/-- The byte at `i` after `bytes` were written from `start` on. -/
def overwrite (start : Nat) (bytes : List UInt8) (i : Nat) (old : Option UInt8) : Option UInt8 :=
  if start ≤ i then bytes[i - start]?.or old else old

/-! ## The vector -/

/-- `Vec<u8>`; a byte of the allocation that was never written is `none`. -/
structure ByteVec where
  block : List (Option UInt8)
  len : Nat
  len_le : len ≤ block.length
  block_le : block.length ≤ ISIZE_MAX

namespace ByteVec

def new : ByteVec := ⟨[], 0, Nat.le_refl 0, Nat.zero_le _⟩

def capacity (v : ByteVec) : Nat := v.block.length

/-- The content. -/
def output (v : ByteVec) : List (Option UInt8) := v.block.take v.len

/-- `Allocator::grow`: the old block is kept. -/
def grow (v : ByteVec) (capacity : Nat) (h : capacity ≤ ISIZE_MAX) : ByteVec where
  block := v.block ++ List.replicate (capacity - v.block.length) none
  len := v.len
  len_le := by
    have := v.len_le
    rw [List.length_append]
    omega
  block_le := by
    have := v.block_le
    rw [List.length_append, List.length_replicate]
    omega

/-- A capacity above `isize::MAX` panics. -/
def reserveExact (v : ByteVec) (additional extra : Nat) : Option ByteVec :=
  if additional ≤ v.capacity - v.len then some v
  else if v.len + additional ≤ ISIZE_MAX then
    some (v.grow (min (v.len + additional + extra) ISIZE_MAX) (Nat.min_le_right _ _))
  else none

/-- `reserve` promises what `reserve_exact` does. -/
def reserve (v : ByteVec) (additional extra : Nat) : Option ByteVec :=
  v.reserveExact additional extra

/-- Behind the capacity the content is undefined. -/
def setLen (v : ByteVec) (len : Nat) : Option ByteVec :=
  if h : len ≤ v.block.length then some { v with len := len, len_le := h } else none

/-- Write into the allocation; what lies behind it is lost. -/
def fill (v : ByteVec) (start : Nat) (bytes : List UInt8) : ByteVec where
  block := v.block.mapIdx (overwrite start bytes)
  len := v.len
  len_le := by rw [List.length_mapIdx]; exact v.len_le
  block_le := by rw [List.length_mapIdx]; exact v.block_le

/-- The same content in an allocation that continues the old one. -/
structure Extends (v w : ByteVec) : Prop where
  len_eq : w.len = v.len
  prefix_block : v.block <+: w.block

theorem Extends.refl (v : ByteVec) : Extends v v := ⟨rfl, List.prefix_refl _⟩

theorem Extends.capacity_le {v w : ByteVec} (h : Extends v w) : v.capacity ≤ w.capacity :=
  h.prefix_block.length_le

theorem Extends.get {v w : ByteVec} (h : Extends v w) {i : Nat} {cell : Option UInt8}
    (hi : v.block[i]? = some cell) : w.block[i]? = some cell := by
  obtain ⟨rest, hrest⟩ := h.prefix_block
  have hlt : i < v.block.length := (List.getElem?_eq_some_iff.mp hi).1
  rw [← hrest, List.getElem?_append_left hlt]
  exact hi

/-- **A successful reservation has room**, and it succeeds unless the capacity overflows. -/
theorem reserveExact_spec (v : ByteVec) (additional extra : Nat) :
    (v.len + additional ≤ ISIZE_MAX ∧
      ∃ w, v.reserveExact additional extra = some w ∧ Extends v w ∧
        v.len + additional ≤ w.capacity) ∨
    (ISIZE_MAX < v.len + additional ∧ v.reserveExact additional extra = none) := by
  have hlen : v.len ≤ v.capacity := v.len_le
  have hcap : v.capacity ≤ ISIZE_MAX := v.block_le
  unfold reserveExact
  by_cases hroom : additional ≤ v.capacity - v.len
  · rw [if_pos hroom]
    exact Or.inl ⟨by omega, v, rfl, Extends.refl v, by omega⟩
  · rw [if_neg hroom]
    by_cases hfit : v.len + additional ≤ ISIZE_MAX
    · rw [if_pos hfit]
      refine Or.inl ⟨hfit, _, rfl, ⟨rfl, List.prefix_append _ _⟩, ?_⟩
      simp only [capacity, grow, List.length_append, List.length_replicate] at hroom ⊢
      omega
    · rw [if_neg hfit]
      exact Or.inr ⟨by omega, rfl⟩

@[simp] theorem capacity_fill (v : ByteVec) (start : Nat) (bytes : List UInt8) :
    (v.fill start bytes).capacity = v.capacity :=
  List.length_mapIdx

@[simp] theorem len_fill (v : ByteVec) (start : Nat) (bytes : List UInt8) :
    (v.fill start bytes).len = v.len := rfl

/-- **What a write leaves in the allocation.** -/
theorem getElem?_fill (v : ByteVec) (start : Nat) (bytes : List UInt8) (i : Nat) :
    (v.fill start bytes).block[i]? = (v.block[i]?).map (overwrite start bytes i) :=
  List.getElem?_mapIdx

theorem output_get {v : ByteVec} {i : Nat} (h : i < v.len) : v.output[i]? = v.block[i]? :=
  List.getElem?_take_of_lt h

end ByteVec

/-! ## The callbacks -/

/-- What the encoder gets: where the slice starts in the vector, how long it is, and the size it
is said to have. -/
structure Granted where
  requested : Nat
  start : Nat
  length : Nat
  reported : Nat
  deriving DecidableEq, Repr

structure OutputBuffer where
  buf : ByteVec
  position : Nat

def checkedSub (a b : Nat) : Option Nat := if b ≤ a then some (a - b) else none

theorem checkedSub_eq_some {a b c : Nat} : checkedSub a b = some c ↔ b ≤ a ∧ c = a - b := by
  unfold checkedSub
  split
  · rename_i h
    simp only [h, true_and, Option.some.injEq, eq_comm]
  · rename_i h
    simp only [h, false_and, reduceCtorEq]

namespace OutputBuffer

def new : OutputBuffer := ⟨ByteVec.new, 0⟩

/-- `spare_capacity_mut()[position..]`: the spare capacity starts behind the content. -/
def spareFrom (buf : ByteVec) (position : Nat) : Option (Nat × Nat) :=
  if position ≤ buf.capacity - buf.len then
    some (buf.len + position, buf.capacity - buf.len - position)
  else none

def getBuffer (o : OutputBuffer) (requestedSize extra : Nat) : Option (Granted × OutputBuffer) := do
  let finalizedPosition := o.buf.len
  let unfinalizedWrittenSpace ← checkedSub o.position finalizedPosition
  let freeSpace ← checkedSub o.buf.capacity o.position
  let buf ←
    (if freeSpace < requestedSize then
      o.buf.reserveExact (unfinalizedWrittenSpace + requestedSize) extra
    else some o.buf)
  let size ← checkedSub buf.capacity o.position
  let (start, length) ← spareFrom buf o.position
  return (⟨requestedSize, start, length, size⟩, ⟨buf, o.position⟩)

def releaseBuffer (o : OutputBuffer) (writtenBytes : Nat) : OutputBuffer :=
  { o with position := o.position + writtenBytes }

def seek (o : OutputBuffer) (position extra : Nat) : Option OutputBuffer := do
  let buf ←
    (if position ≥ o.buf.capacity then
      (checkedSub position o.buf.len).bind fun amount => o.buf.reserveExact amount extra
    else some o.buf)
  return ⟨buf, position⟩

def setFinalizedPosition (o : OutputBuffer) (finalizedPosition extra : Nat) :
    Option OutputBuffer := do
  let buf ←
    (if finalizedPosition > o.buf.capacity then
      (checkedSub finalizedPosition o.buf.len).bind fun amount => o.buf.reserve amount extra
    else some o.buf)
  let buf ← buf.setLen finalizedPosition
  return { o with buf }

/-- **Where a returned buffer lies**: it starts `len` behind the position, and is `len` shorter than
reported. -/
theorem getBuffer_spec {o o' : OutputBuffer} {size extra : Nat} {g : Granted}
    (h : o.getBuffer size extra = some (g, o')) :
    o.position + size ≤ ISIZE_MAX ∧ o'.position = o.position ∧ ByteVec.Extends o.buf o'.buf ∧
      g = ⟨size, o.buf.len + o.position, o'.buf.capacity - o.buf.len - o.position,
        o'.buf.capacity - o.position⟩ ∧
      o.position + size ≤ o'.buf.capacity ∧ o.buf.len + o.position ≤ o'.buf.capacity := by
  have hlen : o.buf.len ≤ o.buf.capacity := o.buf.len_le
  have hcap : o.buf.capacity ≤ ISIZE_MAX := o.buf.block_le
  simp only [getBuffer, Option.bind_eq_bind, Option.bind_eq_some_iff, checkedSub_eq_some,
    Option.pure_def, Option.some.injEq, Prod.mk.injEq] at h
  obtain ⟨_, ⟨hfinal, rfl⟩, _, ⟨hpos, rfl⟩, buf, hbuf, _, ⟨hpos', rfl⟩, ⟨start, length⟩, hspare,
    rfl, rfl⟩ := h
  have hroom : ByteVec.Extends o.buf buf ∧ o.position + size ≤ buf.capacity ∧
      o.position + size ≤ ISIZE_MAX := by
    split at hbuf
    · rename_i hfew
      rcases o.buf.reserveExact_spec (o.position - o.buf.len + size) extra with
        ⟨hfit, w, hw, hext, hroom⟩ | ⟨-, hnone⟩
      · rw [hw] at hbuf
        cases hbuf
        exact ⟨hext, by omega, by omega⟩
      · rw [hnone] at hbuf
        cases hbuf
    · rename_i henough
      cases hbuf
      exact ⟨ByteVec.Extends.refl _, by omega, by omega⟩
  obtain ⟨hext, hroom, hfit⟩ := hroom
  have hsame := hext.len_eq
  unfold spareFrom at hspare
  split at hspare
  · rename_i hin
    cases hspare
    rw [hsame] at hin ⊢
    refine ⟨hfit, rfl, hext, rfl, hroom, ?_⟩
    show o.buf.len + o.position ≤ buf.capacity
    omega
  · cases hspare

/-- While nothing is finalized a buffer is returned whenever its size fits. -/
theorem getBuffer_isSome {o : OutputBuffer} {size : Nat} (extra : Nat) (hlen : o.buf.len = 0)
    (hpos : o.position ≤ o.buf.capacity) (hfit : o.position + size ≤ ISIZE_MAX) :
    ∃ g o', o.getBuffer size extra = some (g, o') := by
  have hbuf : ∃ buf, (if o.buf.capacity - o.position < size then
      o.buf.reserveExact (o.position - 0 + size) extra else some o.buf) = some buf ∧
      ByteVec.Extends o.buf buf := by
    split
    · rcases o.buf.reserveExact_spec (o.position - 0 + size) extra with
        ⟨-, w, hw, hext, -⟩ | ⟨hover, -⟩
      · exact ⟨w, hw, hext⟩
      · rw [hlen] at hover
        omega
    · exact ⟨o.buf, rfl, ByteVec.Extends.refl _⟩
  obtain ⟨buf, hbuf, hext⟩ := hbuf
  have hle := hext.capacity_le
  have hsub : checkedSub o.position 0 = some (o.position - 0) := if_pos (Nat.zero_le _)
  have hfree : checkedSub o.buf.capacity o.position = some (o.buf.capacity - o.position) :=
    if_pos hpos
  have hsize : checkedSub buf.capacity o.position = some (buf.capacity - o.position) :=
    if_pos (by omega)
  have hspare : spareFrom buf o.position =
      some (buf.len + o.position, buf.capacity - buf.len - o.position) := by
    apply if_pos
    rw [hext.len_eq, hlen]
    omega
  simp only [getBuffer, hlen, hsub, hfree, hbuf, hsize, hspare, Option.bind_eq_bind,
    Option.bind_some, Option.pure_def]
  exact ⟨_, _, rfl⟩

/-- **A seek fails exactly when no capacity reaches the position.** -/
theorem seek_spec (o : OutputBuffer) (position extra : Nat) :
    (position ≤ ISIZE_MAX ∧ ∃ o', o.seek position extra = some o' ∧ o'.position = position ∧
      ByteVec.Extends o.buf o'.buf ∧ position ≤ o'.buf.capacity) ∨
    (ISIZE_MAX < position ∧ o.seek position extra = none) := by
  have hlen : o.buf.len ≤ o.buf.capacity := o.buf.len_le
  have hcap : o.buf.capacity ≤ ISIZE_MAX := o.buf.block_le
  unfold seek
  by_cases hin : position ≥ o.buf.capacity
  · have hsub : checkedSub position o.buf.len = some (position - o.buf.len) :=
      if_pos (by omega)
    rw [if_pos hin, hsub]
    rcases o.buf.reserveExact_spec (position - o.buf.len) extra with
      ⟨hfit, w, hw, hext, hroom⟩ | ⟨hover, hnone⟩
    · refine Or.inl ⟨by omega, ⟨w, position⟩, ?_, rfl, hext, ?_⟩
      · simp only [Option.bind_some, hw]
        rfl
      · show position ≤ w.capacity
        omega
    · refine Or.inr ⟨by omega, ?_⟩
      simp only [Option.bind_some, hnone]
      rfl
  · rw [if_neg hin]
    refine Or.inl ⟨by omega, ⟨o.buf, position⟩, rfl, rfl, ByteVec.Extends.refl _, ?_⟩
    show position ≤ o.buf.capacity
    omega

theorem of_seek {o o' : OutputBuffer} {position extra : Nat}
    (h : o.seek position extra = some o') :
    position ≤ ISIZE_MAX ∧ o'.position = position ∧ ByteVec.Extends o.buf o'.buf ∧
      position ≤ o'.buf.capacity := by
  rcases o.seek_spec position extra with ⟨hfit, o₁, hseek, hspec⟩ | ⟨-, hfail⟩
  · rw [h] at hseek
    cases hseek
    exact ⟨hfit, hspec⟩
  · rw [h] at hfail
    cases hfail

/-- A position inside the allocation becomes the length of the content. -/
theorem setFinalizedPosition_eq {o : OutputBuffer} {position : Nat} (extra : Nat)
    (h : position ≤ o.buf.capacity) :
    o.setFinalizedPosition position extra =
      some ⟨{ o.buf with len := position, len_le := h }, o.position⟩ := by
  have hin : ¬ position > o.buf.capacity := by omega
  have hset : o.buf.setLen position = some { o.buf with len := position, len_le := h } := dif_pos h
  rw [setFinalizedPosition, if_neg hin]
  show (o.buf.setLen position).bind _ = _
  rw [hset]
  rfl

end OutputBuffer

/-! ## The contract -/

/-- The stream as the encoder sees it. -/
structure Stream where
  position : Nat
  extent : Nat
  finalized : Nat
  byteAt : Nat → Option UInt8

namespace Stream

def start : Stream := ⟨0, 0, 0, fun _ => none⟩

/-- Write at the position and move it behind the bytes. -/
def write (s : Stream) (bytes : List UInt8) : Stream where
  position := s.position + bytes.length
  extent := if bytes.isEmpty then s.extent else max s.extent (s.position + bytes.length)
  finalized := s.finalized
  byteAt i := overwrite s.position bytes i (s.byteAt i)

end Stream

inductive Call where
  | getBuffer (size extra : Nat)
  | releaseBuffer (bytes : List UInt8)
  | seek (position extra : Nat)
  | setFinalizedPosition (position extra : Nat)
  deriving DecidableEq, Repr

/-- The output buffer in use: the buffer that is out, and what the encoder means to have written. -/
structure Session where
  out : OutputBuffer
  granted : Option Granted
  stream : Stream
  panicked : Bool

namespace Session

def start : Session := ⟨OutputBuffer.new, none, Stream.start, false⟩

/-- The contract of an output processor. -/
def Allowed (s : Session) : Call → Prop
  | .getBuffer _ _ => s.granted = none
  | .releaseBuffer bytes => ∃ g, s.granted = some g ∧ bytes.length ≤ g.reported
  | .seek position _ => s.granted = none ∧ s.stream.finalized ≤ position
  | .setFinalizedPosition position _ =>
    s.stream.finalized ≤ position ∧ position ≤ s.stream.extent

instance (s : Session) : (c : Call) → Decidable (s.Allowed c)
  | .getBuffer _ _ => decidable_of_iff (s.granted.isNone = true) (by simp [Allowed])
  | .releaseBuffer bytes =>
    decidable_of_iff ((s.granted.any fun g => bytes.length ≤ g.reported) = true)
      (by cases h : s.granted <;> simp [Allowed, h])
  | .seek position _ =>
    decidable_of_iff (s.granted.isNone = true ∧ s.stream.finalized ≤ position) (by simp [Allowed])
  | .setFinalizedPosition position _ =>
    inferInstanceAs (Decidable (s.stream.finalized ≤ position ∧ position ≤ s.stream.extent))

/-- A call; the encoder writes the bytes it releases from the start of its buffer on. -/
def call (s : Session) : Call → Option Session
  | .getBuffer size extra =>
    (s.out.getBuffer size extra).map fun (g, out) => { s with out, granted := some g }
  | .releaseBuffer bytes =>
    s.granted.map fun g =>
      { s with
        out := { s.out with buf := s.out.buf.fill g.start bytes }.releaseBuffer bytes.length
        granted := none
        stream := s.stream.write bytes }
  | .seek position extra =>
    (s.out.seek position extra).map fun out =>
      { s with out, stream := { s.stream with position } }
  | .setFinalizedPosition position extra =>
    (s.out.setFinalizedPosition position extra).map fun out =>
      { s with out, stream := { s.stream with finalized := position } }

/-- A panic ends the session. -/
def step (s : Session) (c : Call) : Option Session :=
  if s.panicked = false ∧ s.Allowed c then some ((s.call c).getD { s with panicked := true })
  else none

theorem step_eq_some {s s' : Session} {c : Call} :
    s.step c = some s' ↔ s.panicked = false ∧ s.Allowed c ∧
      (s.call c = some s' ∨ s.call c = none ∧ s' = { s with panicked := true }) := by
  unfold step
  by_cases h : s.panicked = false ∧ s.Allowed c
  · rw [if_pos h]
    cases hc : s.call c with
    | none => simp [h, eq_comm]
    | some t => simp [h]
  · rw [if_neg h]
    constructor
    · intro hnone
      cases hnone
    · rintro ⟨hrun, hallowed, -⟩
      exact absurd ⟨hrun, hallowed⟩ h

/-! ## What a call does -/

theorem call_getBuffer {s s' : Session} {size extra : Nat}
    (hc : s.call (.getBuffer size extra) = some s') :
    ∃ out, s' = { s with
        out, granted := some ⟨size, s.out.buf.len + s.out.position,
          out.buf.capacity - s.out.buf.len - s.out.position,
          out.buf.capacity - s.out.position⟩ } ∧
      out.position = s.out.position ∧ ByteVec.Extends s.out.buf out.buf ∧
      s.out.position + size ≤ ISIZE_MAX ∧ s.out.position + size ≤ out.buf.capacity := by
  simp only [call, Option.map_eq_some_iff, Prod.exists] at hc
  obtain ⟨g, out, hget, rfl⟩ := hc
  obtain ⟨hfit, hpos, hext, rfl, hroom, -⟩ := OutputBuffer.getBuffer_spec hget
  exact ⟨out, rfl, hpos, hext, hfit, hroom⟩

theorem call_releaseBuffer {s : Session} {g : Granted} (hg : s.granted = some g)
    (bytes : List UInt8) :
    s.call (.releaseBuffer bytes) = some { s with
      out := ⟨s.out.buf.fill g.start bytes, s.out.position + bytes.length⟩
      granted := none
      stream := s.stream.write bytes } := by
  rw [call, hg]
  rfl

theorem call_seek {s s' : Session} {position extra : Nat}
    (hc : s.call (.seek position extra) = some s') :
    ∃ out, s' = { s with out, stream := { s.stream with position } } ∧
      out.position = position ∧ ByteVec.Extends s.out.buf out.buf ∧
      position ≤ ISIZE_MAX ∧ position ≤ out.buf.capacity := by
  simp only [call, Option.map_eq_some_iff] at hc
  obtain ⟨out, hseek, rfl⟩ := hc
  obtain ⟨hfit, hpos, hext, hroom⟩ := OutputBuffer.of_seek hseek
  exact ⟨out, rfl, hpos, hext, hfit, hroom⟩

theorem call_setFinalizedPosition {s : Session} {position : Nat} (extra : Nat)
    (h : position ≤ s.out.buf.capacity) :
    s.call (.setFinalizedPosition position extra) = some { s with
      out := ⟨{ s.out.buf with len := position, len_le := h }, s.out.position⟩
      stream := { s.stream with finalized := position } } := by
  rw [call, OutputBuffer.setFinalizedPosition_eq extra h]
  rfl

/-! ## What every run keeps -/

/-- The code and the encoder agree on the position and the finalized position, and what the encoder
wrote or may write fits in the capacity. -/
structure Inv (s : Session) : Prop where
  position : s.out.position = s.stream.position
  finalized : s.out.buf.len = s.stream.finalized
  position_le : s.out.position ≤ s.out.buf.capacity
  extent_le : s.stream.extent ≤ s.out.buf.capacity
  granted_le : ∀ g, s.granted = some g → s.out.position + g.reported ≤ s.out.buf.capacity

theorem start_inv : Inv start :=
  ⟨rfl, rfl, Nat.le_refl 0, Nat.le_refl 0, fun _ h => (nomatch h)⟩

/-- **A call keeps the invariant.** -/
theorem call_inv {s s' : Session} {c : Call} (h : Inv s) (hallowed : s.Allowed c)
    (hc : s.call c = some s') : Inv s' := by
  obtain ⟨hposition, hfinalized, hposle, hextent, hgranted⟩ := h
  cases c with
  | getBuffer size extra =>
    obtain ⟨out, rfl, hpos, hext, -, hroom⟩ := call_getBuffer hc
    have hcap := hext.capacity_le
    refine ⟨hpos.trans hposition, hext.len_eq.trans hfinalized, ?_, hextent.trans hcap, ?_⟩
    · show out.position ≤ out.buf.capacity
      omega
    · rintro g ⟨⟩
      show out.position + (out.buf.capacity - s.out.position) ≤ out.buf.capacity
      omega
  | releaseBuffer bytes =>
    obtain ⟨g, hg, hlen⟩ := hallowed
    rw [call_releaseBuffer hg] at hc
    cases hc
    have hroom := hgranted g hg
    have hend : s.out.position + bytes.length ≤ s.out.buf.capacity := by omega
    refine ⟨?_, hfinalized, ?_, ?_, fun _ h => (nomatch h)⟩
    · show s.out.position + bytes.length = s.stream.position + bytes.length
      rw [hposition]
    · show s.out.position + bytes.length ≤ (s.out.buf.fill g.start bytes).capacity
      rw [ByteVec.capacity_fill]
      exact hend
    · show (s.stream.write bytes).extent ≤ (s.out.buf.fill g.start bytes).capacity
      rw [ByteVec.capacity_fill, Stream.write, ← hposition]
      dsimp only
      split
      · exact hextent
      · exact max_le hextent hend
  | seek position extra =>
    obtain ⟨hnone, -⟩ := hallowed
    obtain ⟨out, rfl, hpos, hext, -, hle⟩ := call_seek hc
    refine ⟨hpos, hext.len_eq.trans hfinalized, ?_, hextent.trans hext.capacity_le, ?_⟩
    · show out.position ≤ out.buf.capacity
      omega
    · intro g hg
      rw [show s.granted = some g from hg] at hnone
      cases hnone
  | setFinalizedPosition position extra =>
    obtain ⟨-, hle⟩ := hallowed
    rw [call_setFinalizedPosition extra (hle.trans hextent)] at hc
    cases hc
    exact ⟨hposition, rfl, hposle, hextent, hgranted⟩

theorem step_inv (s : Session) (c : Call) (s' : Session) (h : Inv s) (hs : s.step c = some s') :
    Inv s' := by
  obtain ⟨-, hallowed, hc | ⟨-, rfl⟩⟩ := step_eq_some.mp hs
  · exact call_inv h hallowed hc
  · exact ⟨h.position, h.finalized, h.position_le, h.extent_le, h.granted_le⟩

/-! ## The guarded runs -/

/-- Every call so far returned, a buffer that is out starts at the position and has the reported
size, which is at least the requested one, and the content holds the last byte written at each
position of the stream. -/
structure Served (s : Session) : Prop where
  running : s.panicked = false
  granted : ∀ g, s.granted = some g →
    g.start = s.out.position ∧ g.length = g.reported ∧ g.requested ≤ g.reported
  output : ∀ i < s.out.buf.len, ∀ b, s.stream.byteAt i = some b →
    s.out.buf.output[i]? = some (some b)

/-- A buffer is asked for before anything is finalized, and the positions fit in a capacity. -/
def Guard (s : Session) : Call → Prop
  | .getBuffer size _ => s.stream.finalized = 0 ∧ s.stream.position + size ≤ ISIZE_MAX
  | .seek position _ => position ≤ ISIZE_MAX
  | .releaseBuffer _ => True
  | .setFinalizedPosition _ _ => True

/-- The invariant of the guarded runs: also what is not final yet is in its place. -/
structure Good (s : Session) : Prop extends Inv s where
  running : s.panicked = false
  served : ∀ g, s.granted = some g →
    g.start = s.out.position ∧ g.length = g.reported ∧ g.requested ≤ g.reported
  kept : ∀ i b, s.stream.byteAt i = some b → s.out.buf.block[i]? = some (some b)

theorem start_good : Good start :=
  ⟨start_inv, rfl, fun _ h => (nomatch h), fun _ _ h => (nomatch h)⟩

theorem Good.to_served {s : Session} (h : Good s) : Served s := by
  refine ⟨h.running, h.served, ?_⟩
  intro i hi b hb
  rw [ByteVec.output_get hi]
  exact h.kept i b hb

/-- A guarded call does not panic. -/
theorem call_isSome {s : Session} {c : Call} (h : Inv s) (hallowed : s.Allowed c)
    (hg : Guard s c) : ∃ s', s.call c = some s' := by
  cases c with
  | getBuffer size extra =>
    obtain ⟨hzero, hfit⟩ := hg
    rw [← h.finalized] at hzero
    rw [← h.position] at hfit
    obtain ⟨g, out, hget⟩ := OutputBuffer.getBuffer_isSome extra hzero h.position_le hfit
    simp only [call, hget, Option.map_some]
    exact ⟨_, rfl⟩
  | releaseBuffer bytes =>
    obtain ⟨g, hgranted, -⟩ := hallowed
    exact ⟨_, call_releaseBuffer hgranted bytes⟩
  | seek position extra =>
    rcases s.out.seek_spec position extra with ⟨-, out, hseek, -⟩ | ⟨hover, -⟩
    · simp only [call, hseek, Option.map_some]
      exact ⟨_, rfl⟩
    · exact absurd hg (by show ¬ position ≤ ISIZE_MAX; omega)
  | setFinalizedPosition position extra =>
    exact ⟨_, call_setFinalizedPosition extra (hallowed.2.trans h.extent_le)⟩

/-- Bytes that fit keep every byte of the stream in its place. -/
theorem kept_fill {v : ByteVec} {s : Stream} {bytes : List UInt8}
    (h : ∀ i b, s.byteAt i = some b → v.block[i]? = some (some b))
    (hfit : s.position + bytes.length ≤ v.capacity) {i : Nat} {b : UInt8}
    (hb : (s.write bytes).byteAt i = some b) :
    (v.fill s.position bytes).block[i]? = some (some b) := by
  rw [ByteVec.getElem?_fill]
  simp only [Stream.write] at hb
  by_cases hin : s.position ≤ i ∧ i - s.position < bytes.length
  · -- a new byte
    have hcell : i < v.block.length := by
      have : v.capacity = v.block.length := rfl
      omega
    have hnew : ∀ old, overwrite s.position bytes i old = bytes[i - s.position]? := by
      intro old
      rw [overwrite, if_pos hin.1, List.getElem?_eq_getElem hin.2]
      rfl
    rw [hnew] at hb
    rw [List.getElem?_eq_getElem hcell, Option.map_some, hnew, hb]
  · have hold : ∀ old, overwrite s.position bytes i old = old := by
      intro old
      unfold overwrite
      split
      · rename_i hle
        rw [List.getElem?_eq_none (by omega)]
        rfl
      · rfl
    rw [hold] at hb
    rw [h i b hb, Option.map_some, hold]

/-- **A guarded call keeps every byte in its place.** -/
theorem call_good {s s' : Session} {c : Call} (h : Good s) (hallowed : s.Allowed c)
    (hg : Guard s c) (hc : s.call c = some s') : Good s' := by
  have hinv := call_inv h.toInv hallowed hc
  cases c with
  | getBuffer size extra =>
    obtain ⟨hzero, -⟩ := hg
    rw [← h.finalized] at hzero
    obtain ⟨out, rfl, hpos, hext, -, hroom⟩ := call_getBuffer hc
    refine ⟨hinv, h.running, ?_, fun i b hb => hext.get (h.kept i b hb)⟩
    rintro g ⟨⟩
    show s.out.buf.len + s.out.position = out.position ∧
      out.buf.capacity - s.out.buf.len - s.out.position = out.buf.capacity - s.out.position ∧
      size ≤ out.buf.capacity - s.out.position
    omega
  | releaseBuffer bytes =>
    obtain ⟨g, hgranted, hlen⟩ := hallowed
    rw [call_releaseBuffer hgranted] at hc
    cases hc
    have hroom := h.granted_le g hgranted
    refine ⟨hinv, h.running, fun _ h => (nomatch h), ?_⟩
    intro i b hb
    show (s.out.buf.fill g.start bytes).block[i]? = some (some b)
    rw [(h.served g hgranted).1, h.position]
    rw [h.position] at hroom
    exact kept_fill h.kept (by omega) hb
  | seek position extra =>
    obtain ⟨hnone, -⟩ := hallowed
    obtain ⟨out, rfl, -, hext, -⟩ := call_seek hc
    refine ⟨hinv, h.running, ?_, fun i b hb => hext.get (h.kept i b hb)⟩
    intro g hg
    rw [show s.granted = some g from hg] at hnone
    cases hnone
  | setFinalizedPosition position extra =>
    rw [call_setFinalizedPosition extra (hallowed.2.trans h.extent_le)] at hc
    cases hc
    exact ⟨hinv, h.running, h.served, h.kept⟩

theorem step_good (s : Session) (c : Call) (s' : Session) (h : Good s) (hg : Guard s c)
    (hs : s.step c = some s') : Good s' := by
  obtain ⟨-, hallowed, hc | ⟨hc, -⟩⟩ := step_eq_some.mp hs
  · exact call_good h hallowed hg hc
  · obtain ⟨t, ht⟩ := call_isSome h.toInv hallowed hg
    rw [hc] at ht
    cases ht

/-- **A call that serves the encoder was guarded.** -/
theorem step_guard (s : Session) (c : Call) (s' : Session) (h : Inv s) (hs : s.step c = some s')
    (hserved : Served s') : Guard s c := by
  obtain ⟨-, -, hc | ⟨-, rfl⟩⟩ := step_eq_some.mp hs
  · cases c with
    | getBuffer size extra =>
      obtain ⟨out, rfl, hpos, -, hfit, -⟩ := call_getBuffer hc
      obtain ⟨hstart, -⟩ := hserved.granted _ rfl
      have hstart : s.out.buf.len + s.out.position = out.position := hstart
      refine ⟨?_, ?_⟩
      · rw [← h.finalized]
        omega
      · rw [← h.position]
        exact hfit
    | releaseBuffer bytes => trivial
    | seek position extra =>
      obtain ⟨out, -, -, -, hfit, -⟩ := call_seek hc
      exact hfit
    | setFinalizedPosition position extra => trivial
  · have := hserved.running
    cases this

end Session

open Machine in
/-- **Which runs put every byte at its position**: the ones in which a buffer is asked for only
while nothing is finalized, and no position exceeds the largest capacity. -/
theorem outputBuffer_iff (calls : List Call) :
    Always Session.step Session.Served Session.start calls ↔
      Guarded Session.step Session.Guard Session.start calls := by
  constructor
  · intro h
    exact h.guarded Session.step_inv Session.step_guard Session.start_inv
  · intro h
    have hgood := h.always Session.step_good Session.start_good
    exact hgood.mono fun _ hs => hs.to_served

/-- Four bytes are written and the first of them is finalized; the next buffer starts at 5, not at
4, and has three bytes where four are reported. -/
theorem outputBuffer_misplaces : ¬ Machine.Always Session.step Session.Served Session.start
    [.getBuffer 4 0, .releaseBuffer [1, 2, 3, 4], .setFinalizedPosition 1 0, .getBuffer 4 0] := by
  intro h
  have hlast := (((h.2 _ rfl).2 _ rfl).2 _ rfl).2 _ rfl
  exact absurd (hlast.granted _ rfl).1 (by decide)

end ApertureC.Jxl
