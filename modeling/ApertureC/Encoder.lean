import ApertureC.TrackingBuffer

/-!
# The encoder task (`aperturec-server/src/task/encoder.rs`)

* `Scheme.compress` — the compression schemes; the Zlib and JPEG XL compressors are a parameter,
  the raw scheme copies the bytes of the view in row-major order.
* `EncoderTask.relevant`, `EncoderTask.encoding`, `EncoderTask.dispatch` — the frame branch of the
  task's loop: clip every buffer to the encoder's area, compress each part, and send a fragment for
  each compression that succeeds, in the order in which they complete.
* `EncoderTask.encodeFrame` — the messages of one frame for a given completion order.
* `EncoderTask.reconfigure` — the command branch.

`none` is a panic.

Principal result: `encoding_raw` — a raw encoding of a relevant buffer never panics or fails.
-/

set_option autoImplicit false

namespace ApertureC

open Geometry

/-- `n as u32`. -/
def asU32 (n : Nat) : Nat := n % 2 ^ 32

inductive Scheme where
  | raw
  | zlib
  | jpegxl
  deriving DecidableEq, Repr

/-- The compressors of the external codec libraries. -/
structure Compressors where
  zlib : Grid Pixel24 → Except String (List UInt8)
  jpegxl : Grid Pixel24 → Except String (List UInt8)

/-- No external compressor; the raw scheme does not call one. -/
def noCompressors : Compressors := ⟨fun _ => .error "zlib", fun _ => .error "jpegxl"⟩

namespace Scheme

def asCodec : Scheme → Codec
  | .raw => .raw
  | .zlib => .zlib
  | .jpegxl => .jpegxl

/-- `TryFrom<Codec> for Scheme`; JPEG XL compressors are assumed to be created. -/
def tryFrom : Codec → Except String Scheme
  | .raw => .ok .raw
  | .zlib => .ok .zlib
  | .jpegxl => .ok .jpegxl
  | .unspecified => .error "Unsupported codec"

def compress (comp : Compressors) (s : Scheme) (rawData : Grid Pixel24) (area : Box2D) :
    Option (Except String (List UInt8)) := do
  let view ← rawData.slice area
  return match s with
    | .raw => .ok (castBytes view.toVec)
    | .zlib => comp.zlib view
    | .jpegxl => comp.jpegxl view

end Scheme

structure EncoderTask where
  id : Nat
  area : Box2D
  compressionScheme : Scheme
  deriving DecidableEq, Repr

namespace EncoderTask

/-- `Command::Reconfigure`. -/
def reconfigure (enc : EncoderTask) (newId : Nat) (area : Box2D) : EncoderTask :=
  { enc with id := newId, area := area }

/-- The buffers the encoder has a part of, with that part. -/
def relevant (enc : EncoderTask) (frame : Frame) : List (SubframeBuffer Pixel24 × Box2D) :=
  frame.buffers.filterMap fun buffer =>
    (enc.area.intersection buffer.area.toBox2D).map fun intersection => (buffer, intersection)

/-- One of the futures in `encodings`. -/
def encoding (comp : Compressors) (enc : EncoderTask) (part : SubframeBuffer Pixel24 × Box2D) :
    Option (Except String (List UInt8 × Box2D)) := do
  let bufferRelativeArea ← part.2.relativeTo part.1.origin
  let encRelativeArea ← part.2.relativeTo enc.area.min
  let data ← enc.compressionScheme.compress comp part.1.pixels bufferRelativeArea
  return data.map fun data => (data, encRelativeArea)

def emptyFrameTerminal (enc : EncoderTask) (frame : Frame) : EmptyFrameTerminal where
  frame := frame.id
  encoder := asU32 enc.id
  displayConfig := asU32 frame.displayConfig
  display := asU32 frame.display

def frameFragment (enc : EncoderTask) (frame : Frame) (sequence : Nat) (terminal : Bool)
    (data : List UInt8) (encRelativeArea : Box2D) : FrameFragment where
  frame := frame.id
  encoder := asU32 enc.id
  displayConfig := asU32 frame.displayConfig
  display := asU32 frame.display
  sequence := asU32 sequence
  terminal := terminal
  codec := enc.compressionScheme.asCodec.toInt
  location := some encRelativeArea.min
  dimension := some encRelativeArea.size
  data := data

/-- `while let Some(res) = encodings.next().await`. -/
def dispatch (enc : EncoderTask) (frame : Frame) (relevantLen : Nat) :
    Nat → List (Except String (List UInt8 × Box2D)) → List MediaMessage
  | _, [] => []
  | sequence, .ok (data, encRelativeArea) :: encodings =>
    .fragment (enc.frameFragment frame sequence (decide (sequence = relevantLen - 1)) data
      encRelativeArea) :: dispatch enc frame relevantLen (sequence + 1) encodings
  | sequence, .error _ :: encodings => dispatch enc frame relevantLen sequence encodings

/-- The messages of one frame; `completed` is the relevant parts in the order in which their
encodings complete. -/
def encodeFrame (comp : Compressors) (enc : EncoderTask) (frame : Frame)
    (completed : List (SubframeBuffer Pixel24 × Box2D)) : Option (List MediaMessage) :=
  if (enc.relevant frame).isEmpty then some [.terminal (enc.emptyFrameTerminal frame)]
  else do
    let encodings ← completed.mapM (enc.encoding comp)
    return enc.dispatch frame (enc.relevant frame).length 0 encodings

theorem mem_relevant {enc : EncoderTask} {frame : Frame} {b : SubframeBuffer Pixel24} {i : Box2D} :
    (b, i) ∈ enc.relevant frame ↔
      b ∈ frame.buffers ∧ enc.area.intersection b.area.toBox2D = some i := by
  unfold relevant
  rw [List.mem_filterMap]
  constructor
  · intro ⟨b', hb', h⟩
    rw [Option.map_eq_some_iff] at h
    obtain ⟨i', hi', heq⟩ := h
    cases heq
    exact ⟨hb', hi'⟩
  · intro ⟨hb, hi⟩
    exact ⟨b, hb, by rw [hi]; rfl⟩

/-- The part of a buffer inside the encoder's area, relative to the buffer and to the area. -/
theorem relevant_fits {enc : EncoderTask} {b : SubframeBuffer Pixel24} {i : Box2D}
    (hi : enc.area.intersection b.area.toBox2D = some i) :
    ∃ br rel : Box2D, i.relativeTo b.origin = some br ∧ i.relativeTo enc.area.min = some rel ∧
      br = ⟨⟨i.min.x - b.origin.x, i.min.y - b.origin.y⟩,
        ⟨i.max.x - b.origin.x, i.max.y - b.origin.y⟩⟩ ∧
      b.pixels.Fits br ∧ (br.size = i.size ∧ rel.size = i.size) ∧
      rel.min.x + enc.area.min.x = i.min.x ∧ rel.min.y + enc.area.min.y = i.min.y := by
  obtain ⟨heq, p, hp⟩ := Box2D.intersection_eq_some hi
  rw [Box2D.mem_def] at hp
  have hbounds : enc.area.min.x ≤ i.min.x ∧ enc.area.min.y ≤ i.min.y ∧ b.origin.x ≤ i.min.x ∧
      b.origin.y ≤ i.min.y ∧ i.max.x ≤ b.origin.x + b.pixels.width ∧
      i.max.y ≤ b.origin.y + b.pixels.height := by
    rw [heq]
    simp only [Box2D.intersectionUnchecked, SubframeBuffer.area, Rect.toBox2D, Grid.size]
    omega
  obtain ⟨hx, hy, hbx, hby, hbx', hby'⟩ := hbounds
  refine ⟨_, ⟨⟨i.min.x - enc.area.min.x, i.min.y - enc.area.min.y⟩,
    ⟨i.max.x - enc.area.min.x, i.max.y - enc.area.min.y⟩⟩, if_pos (by omega), if_pos (by omega),
    rfl, ?_, ?_, ?_⟩
  · simp only [Grid.Fits]
    omega
  · simp only [Box2D.size, Box2D.width, Box2D.height, Size.mk.injEq]
    omega
  · simp only
    omega

/-- **The raw encoding of a part**: the bytes of its pixels, placed relative to the encoder's
area. -/
theorem encoding_raw (comp : Compressors) {enc : EncoderTask} (hraw : enc.compressionScheme = .raw)
    {b : SubframeBuffer Pixel24} {i : Box2D} (hi : enc.area.intersection b.area.toBox2D = some i) :
    ∃ (view : Grid Pixel24) (rel : Box2D),
      enc.encoding comp (b, i) = some (.ok (castBytes view.toVec, rel)) ∧
      view.size = i.size ∧ rel.size = i.size ∧
      (rel.min.x + enc.area.min.x = i.min.x ∧ rel.min.y + enc.area.min.y = i.min.y) ∧
      ∀ y x, view.get y x = b.pixels.get (i.min.y - b.origin.y + y) (i.min.x - b.origin.x + x) := by
  obtain ⟨br, rel, hbr, hrel, heq, hfit, ⟨hsize, hsize'⟩, hmin⟩ := relevant_fits hi
  refine ⟨⟨br.height, br.width, fun y x => b.pixels.get (br.min.y + y) (br.min.x + x)⟩, rel, ?_,
    hsize, hsize', hmin, ?_⟩
  · unfold encoding
    simp only [hbr, hrel, hraw, Scheme.compress, Grid.slice_eq_some hfit, Option.bind_eq_bind,
      Option.bind_some, Option.pure_def]
    rfl
  · intro y x
    rw [heq]

end EncoderTask

end ApertureC
