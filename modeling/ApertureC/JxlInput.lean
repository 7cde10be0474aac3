import ApertureC.Lib.Geometry
import Mathlib.Algebra.Ring.Int.Defs

/-!
# The input of the JPEG XL encoder

`jxl::Compressor::compress` in `aperturec-server/src/task/encoder.rs` hands the encoder a byte
slice of the frame buffer, built from the dimensions and strides of an `ndarray` view.

* `Axis`, `View` — the lengths and strides of a row-major buffer of pixels, and of a slice of it;
  an axis of at most one element has stride 0.
* `inputBytes` — the slice: where it starts, and the `InputSource` over it.
* `InputSource.getColorChannelDataAt` — the callback of the encoder.

An offset and a length are each at most the number of bytes of the buffer, so nothing overflows.

Principal results: `inputBytes_eq` (what is built for an area), `slice_end_le_iff` (when it stays
inside the buffer), and `jxlInput_iff` (when it does and the callback gives the pixels).
-/

set_option autoImplicit false

namespace ApertureC.Jxl

open Geometry

/-- `mem::size_of::<Pixel24>()` -/
def PIXEL_SIZE : Nat := 3

/-! ## Views -/

/-- One axis of an `ndarray` view, in elements. -/
structure Axis where
  len : Nat
  stride : Int
  deriving DecidableEq, Repr

/-- `do_slice` with step one: the new axis and the offset of its first element; a range that does
not fit panics. -/
def Axis.slice (a : Axis) (start stop : Nat) : Option (Int × Axis) :=
  if start ≤ stop ∧ stop ≤ a.len then
    some (if stop - start = 0 then 0 else start * a.stride,
      ⟨stop - start, if stop - start ≤ 1 then 0 else a.stride⟩)
  else none

/-- `ArrayView2<Pixel24>`: the offset of the first element in the buffer, and the two axes. -/
structure View where
  offset : Int
  y : Axis
  x : Axis
  deriving DecidableEq, Repr

/-- The whole of a row-major buffer. -/
def View.rowMajor (height width : Nat) : View := ⟨0, ⟨height, width⟩, ⟨width, 1⟩⟩

/-- `raw_data.slice(area.as_slice())` -/
def View.slice (v : View) (area : Box2D) : Option View := do
  let (offY, y) ← v.y.slice area.min.y area.max.y
  let (offX, x) ← v.x.slice area.min.x area.max.x
  return ⟨v.offset + offY + offX, y, x⟩

/-! ## The input source -/

structure InputSource where
  bytesLen : Nat
  size : Size
  strideToNextRow : Nat
  deriving DecidableEq, Repr

namespace InputSource

def rowMemWidth (s : InputSource) : Nat := s.size.width + s.strideToNextRow

def new (bytesLen : Nat) (size : Size) (strideToNextRow : Nat) : Except String InputSource :=
  if bytesLen = (size.width + strideToNextRow) * size.height * PIXEL_SIZE then
    .ok ⟨bytesLen, size, strideToNextRow⟩
  else .error "invalid input source size"

/-- `get_color_channel_data_at_extern`: the offset of the returned pointer in the slice, and the
row offset; `bytes[offset..]` panics behind the end. -/
def getColorChannelDataAt (s : InputSource) (xpos ypos : Nat) : Option (Nat × Nat) :=
  let offset := (xpos + ypos * s.rowMemWidth) * PIXEL_SIZE
  if offset ≤ s.bytesLen then some (offset, s.rowMemWidth * PIXEL_SIZE) else none

end InputSource

/-- The check of the columns in `compress`. -/
def ensureAdjacent (x : Axis) : Except String Unit :=
  if x.len > 1 then
    if x.stride = 1 then .ok ()
    else .error s!"Elements in each column are not-adjacent, stride is {x.stride}"
  else if x.len = 1 then .ok ()
  else .error "Width <= 0"

/-- `stride_to_next_row` in `compress`. -/
def strideToNextRow (y : Axis) (width : Nat) : Except String Nat :=
  if y.len > 1 then
    if y.stride > 0 then .ok (y.stride.toNat - width)
    else .error s!"Rows are traversed in reverse order, stride is {y.stride}"
  else if y.len = 1 then .ok 0
  else .error "Height <= 0"

/-- What `compress` builds for a view: the start of the slice in the buffer, in bytes, and the
input source over it. -/
def inputBytes (v : View) : Except String (Int × InputSource) := do
  ensureAdjacent v.x
  let stride ← strideToNextRow v.y v.x.len
  let len := (v.x.len + stride) * v.y.len * PIXEL_SIZE
  let source ← InputSource.new len ⟨v.x.len, v.y.len⟩ stride
  return (v.offset * PIXEL_SIZE, source)

/-! ## Areas of a buffer -/

/-- A non-empty area of a row-major buffer. -/
structure AreaOf (height width : Nat) (area : Box2D) : Prop where
  x_lt : area.min.x < area.max.x
  y_lt : area.min.y < area.max.y
  x_le : area.max.x ≤ width
  y_le : area.max.y ≤ height

/-- The row stride that the view of an area reports. -/
def rowStride (width : Nat) (area : Box2D) : Int := if area.height ≤ 1 then 0 else width

section Area

variable {height width : Nat} {area : Box2D}

theorem slice_rowMajor (h : AreaOf height width area) :
    (View.rowMajor height width).slice area = some
      ⟨area.min.y * width + area.min.x, ⟨area.height, rowStride width area⟩,
        ⟨area.width, if area.width ≤ 1 then 0 else 1⟩⟩ := by
  obtain ⟨hx, hy, hxl, hyl⟩ := h
  have hw : area.max.x - area.min.x ≠ 0 := by omega
  have hh : area.max.y - area.min.y ≠ 0 := by omega
  have hfx : area.min.x ≤ area.max.x ∧ area.max.x ≤ width := ⟨by omega, hxl⟩
  have hfy : area.min.y ≤ area.max.y ∧ area.max.y ≤ height := ⟨by omega, hyl⟩
  simp only [View.slice, View.rowMajor, Axis.slice, if_pos hfx, if_pos hfy, if_neg hw, if_neg hh,
    Option.bind_eq_bind, Option.bind_some, Option.pure_def, Box2D.width, Box2D.height, rowStride,
    zero_add, mul_one]
  rfl

/-- The pixels from the end of one row of the view to the start of the next. -/
def gap (width : Nat) (area : Box2D) : Nat := if area.height ≤ 1 then 0 else width - area.width

theorem AreaOf.width_pos (h : AreaOf height width area) : 0 < area.width :=
  Nat.sub_pos_of_lt h.x_lt

theorem AreaOf.height_pos (h : AreaOf height width area) : 0 < area.height :=
  Nat.sub_pos_of_lt h.y_lt

theorem AreaOf.width_le (h : AreaOf height width area) : area.min.x + area.width ≤ width := by
  have := h.x_lt
  have := h.x_le
  simp only [Box2D.width]
  omega

theorem ensureAdjacent_area (h : AreaOf height width area) :
    ensureAdjacent ⟨area.width, if area.width ≤ 1 then 0 else 1⟩ = .ok () := by
  have hpos := h.width_pos
  unfold ensureAdjacent
  by_cases hw : area.width > 1
  · have hle : ¬ area.width ≤ 1 := by omega
    simp only [hw, hle, if_true, if_false]
  · have hone : area.width = 1 := by omega
    simp only [hone, gt_iff_lt, lt_irrefl, if_true, if_false]

theorem strideToNextRow_area (h : AreaOf height width area) :
    strideToNextRow ⟨area.height, rowStride width area⟩ area.width = .ok (gap width area) := by
  have hpos := h.height_pos
  have hw := h.width_pos
  have hle := h.width_le
  unfold strideToNextRow rowStride gap
  by_cases hh : area.height > 1
  · have hh' : ¬ area.height ≤ 1 := by omega
    have hstride : (width : Int) > 0 := by omega
    simp only [hh, hh', hstride, if_true, if_false, Int.toNat_natCast]
  · have hone : area.height = 1 := by omega
    simp only [hone, gt_iff_lt, lt_irrefl, le_refl, if_true, if_false]

/-- The input source for an area. -/
def sourceOf (width : Nat) (area : Box2D) : InputSource where
  bytesLen := (area.width + gap width area) * area.height * PIXEL_SIZE
  size := area.size
  strideToNextRow := gap width area

/-- **What `compress` builds for an area**; no check fails. -/
theorem inputBytes_eq (h : AreaOf height width area) :
    ∃ v, (View.rowMajor height width).slice area = some v ∧
      inputBytes v = .ok ((area.min.y * width + area.min.x) * PIXEL_SIZE, sourceOf width area) := by
  refine ⟨_, slice_rowMajor h, ?_⟩
  have hnew : InputSource.new ((area.width + gap width area) * area.height * PIXEL_SIZE)
      ⟨area.width, area.height⟩ (gap width area) = .ok (sourceOf width area) := if_pos rfl
  simp only [inputBytes, ensureAdjacent_area h, strideToNextRow_area h]
  show (InputSource.new ((area.width + gap width area) * area.height * PIXEL_SIZE)
      ⟨area.width, area.height⟩ (gap width area)).bind _ = _
  rw [hnew]
  rfl

/-! ## Where the slice ends -/

/-- The slice ends inside the buffer exactly when its rows start in the first column, or there is
a row below it, or it has one row. -/
theorem slice_end_le_iff (h : AreaOf height width area) :
    (area.min.y * width + area.min.x) * PIXEL_SIZE + (sourceOf width area).bytesLen ≤
        height * width * PIXEL_SIZE ↔
      area.height = 1 ∨ area.min.x = 0 ∨ area.max.y < height := by
  have hx := h.x_lt
  have hy := h.y_lt
  have hxl := h.x_le
  have hyl := h.y_le
  have hw := h.width_le
  have hh : area.min.y + area.height = area.max.y := by
    simp only [Box2D.height]
    omega
  by_cases hone : area.height = 1
  · -- one row of the view, and it ends in its row of the buffer
    have hrow : (area.min.y + 1) * width ≤ height * width := Nat.mul_le_mul_right width (by omega)
    rw [Nat.add_mul, Nat.one_mul] at hrow
    simp only [sourceOf, gap, hone, le_refl, if_true, Nat.mul_one, Nat.add_zero, true_or, iff_true,
      PIXEL_SIZE]
    omega
  · have hgap : area.width + gap width area = width := by
      have hpos := h.height_pos
      rw [gap, if_neg (by omega)]
      omega
    have hend : area.min.y * width + area.min.x + width * area.height =
        area.max.y * width + area.min.x := by
      rw [← hh, Nat.add_mul, Nat.mul_comm width]
      omega
    simp only [sourceOf, hgap, hone, false_or, PIXEL_SIZE]
    rw [← Nat.add_mul, hend]
    constructor
    · intro hle
      by_contra hno
      have hlast : area.max.y = height := by omega
      rw [hlast] at hle
      omega
    · rintro (hzero | hbelow)
      · have hrows := Nat.mul_le_mul_right width hyl
        rw [hzero]
        omega
      · have hrows : (area.max.y + 1) * width ≤ height * width :=
          Nat.mul_le_mul_right width hbelow
        rw [Nat.add_mul, Nat.one_mul] at hrows
        omega

/-- The row pitch that the source reports is the buffer's, unless there is only one row. -/
theorem rowMemWidth_eq_iff (h : AreaOf height width area) :
    (sourceOf width area).rowMemWidth = width ↔ area.height = 1 → area.width = width := by
  have hpos := h.height_pos
  have hw := h.width_le
  simp only [InputSource.rowMemWidth, sourceOf, Box2D.size, gap]
  split <;> omega

/-- **The callback inside the view**: the offset of the pixel in the buffer. -/
theorem getColorChannelDataAt_eq (h : AreaOf height width area) {x y : Nat} (hx : x < area.width)
    (hy : y < area.height) :
    ∃ offset, (sourceOf width area).getColorChannelDataAt x y =
        some (offset, (sourceOf width area).rowMemWidth * PIXEL_SIZE) ∧
      (area.min.y * width + area.min.x) * PIXEL_SIZE + offset =
        ((area.min.y + y) * width + (area.min.x + x)) * PIXEL_SIZE := by
  have hw := h.width_le
  have hmem : (sourceOf width area).rowMemWidth = area.width + gap width area := rfl
  have hlast : x + y * (area.width + gap width area) ≤
      (area.width + gap width area) * area.height := by
    have hrows : (y + 1) * (area.width + gap width area) ≤
        area.height * (area.width + gap width area) := Nat.mul_le_mul_right _ hy
    rw [Nat.add_mul, Nat.one_mul] at hrows
    rw [Nat.mul_comm _ area.height]
    omega
  refine ⟨(x + y * (area.width + gap width area)) * PIXEL_SIZE, ?_, ?_⟩
  · rw [InputSource.getColorChannelDataAt, hmem]
    exact if_pos (Nat.mul_le_mul_right PIXEL_SIZE hlast)
  · have hstep : y * (area.width + gap width area) = y * width := by
      by_cases hone : area.height = 1
      · rw [show y = 0 by omega, Nat.zero_mul, Nat.zero_mul]
      · have hpos := h.height_pos
        rw [gap, if_neg (by omega), Nat.add_sub_cancel' (by omega)]
    rw [hstep, ← Nat.add_mul, Nat.add_mul area.min.y]
    congr 1
    omega

/-! ## The contract -/

/-- The slice that `compress` builds for the view of an area lies inside the buffer, and for every
pixel of the view the callback gives its offset in the buffer and the row pitch of the buffer. -/
def InputCorrect (height width : Nat) (area : Box2D) : Prop :=
  ∃ v start source, (View.rowMajor height width).slice area = some v ∧
    inputBytes v = .ok ((start : Nat), source) ∧
    start + source.bytesLen ≤ height * width * PIXEL_SIZE ∧
    ∀ x y, x < area.width → y < area.height →
      ∃ offset, source.getColorChannelDataAt x y = some (offset, width * PIXEL_SIZE) ∧
        start + offset = ((area.min.y + y) * width + (area.min.x + x)) * PIXEL_SIZE

/-- **When the input of the encoder is correct**: for one row exactly when it is a whole row of the
buffer, for several exactly when they start in the first column or do not reach the last row. -/
theorem jxlInput_iff (h : AreaOf height width area) :
    InputCorrect height width area ↔
      if area.height = 1 then area.width = width
      else area.min.x = 0 ∨ area.max.y < height := by
  obtain ⟨v, hv, hin⟩ := inputBytes_eq h
  have hcast : ((area.min.y * width + area.min.x : Int) * (PIXEL_SIZE : Nat)) =
      (((area.min.y * width + area.min.x) * PIXEL_SIZE : Nat) : Int) := by
    push_cast
    rfl
  have hend := slice_end_le_iff h
  have hpitch := rowMemWidth_eq_iff h
  constructor
  · rintro ⟨v', start, source, hv', hin', hle, hat⟩
    rw [hv] at hv'
    cases hv'
    rw [hin] at hin'
    obtain ⟨hstart, rfl⟩ := Prod.mk.inj (Except.ok.inj hin')
    rw [hcast, Int.natCast_inj] at hstart
    subst hstart
    have hrow : (sourceOf width area).rowMemWidth = width := by
      obtain ⟨offset, hoffset, -⟩ := hat 0 0 h.width_pos h.height_pos
      obtain ⟨offset', hoffset', -⟩ := getColorChannelDataAt_eq h h.width_pos h.height_pos
      rw [hoffset'] at hoffset
      have := (Prod.mk.inj (Option.some.inj hoffset)).2
      exact Nat.eq_of_mul_eq_mul_right (by decide) this
    rw [hend] at hle
    split
    · rename_i hone
      exact hpitch.mp hrow hone
    · rename_i hone
      exact hle.resolve_left hone
  · intro hcond
    have hrow : (sourceOf width area).rowMemWidth = width := by
      apply hpitch.mpr
      intro hone
      rwa [if_pos hone] at hcond
    refine ⟨v, (area.min.y * width + area.min.x) * PIXEL_SIZE, sourceOf width area, hv, ?_, ?_, ?_⟩
    · rw [hin, hcast]
    · rw [hend]
      by_cases hone : area.height = 1
      · exact Or.inl hone
      · rw [if_neg hone] at hcond
        exact Or.inr hcond
    · intro x y hx hy
      obtain ⟨offset, hoffset, heq⟩ := getColorChannelDataAt_eq h hx hy
      rw [hrow] at hoffset
      exact ⟨offset, hoffset, heq⟩

/-- Two rows above the last one. -/
theorem jxlInput_iff_above : InputCorrect 4 4 ⟨⟨1, 1⟩, ⟨3, 3⟩⟩ := by
  apply (jxlInput_iff ⟨by decide, by decide, by decide, by decide⟩).mpr
  decide

/-- The right column of a 2 by 2 buffer: the slice ends three bytes behind the buffer. -/
theorem jxlInput_overruns : ¬ InputCorrect 2 2 ⟨⟨1, 0⟩, ⟨2, 2⟩⟩ := by
  have h : AreaOf 2 2 ⟨⟨1, 0⟩, ⟨2, 2⟩⟩ := ⟨by decide, by decide, by decide, by decide⟩
  rintro ⟨v, start, source, hv, hin, hle, -⟩
  obtain ⟨v', hv', hin'⟩ := inputBytes_eq h
  rw [hv] at hv'
  cases hv'
  rw [hin] at hin'
  obtain ⟨hstart, rfl⟩ := Prod.mk.inj (Except.ok.inj hin')
  have hthree : start = 3 := by
    simp [PIXEL_SIZE] at hstart
    omega
  rw [hthree] at hle
  exact absurd hle (by decide)

end Area

end ApertureC.Jxl
