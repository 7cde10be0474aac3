import Mathlib.Algebra.GroupWithZero.Nat
import ApertureC.Lib.Geometry

/-!
# The shared framebuffer and the bytes that captures read from it

Model of `XFrameBuffer` and `XPixelMap` in `aperturec-server/src/backend/x.rs`:

* `XFrameBuffer.new` — attaches the segment and checks the XWD header at its start.  The sum of the
  size check is in `u32` and wraps, and the size of the segment is cut to 32 bits before it is
  compared; a build with overflow checks panics where the sum wraps, and accepts fewer headers.
* `XFrameBuffer.colorOffset`, `XPixelMap.asNdarray` — the addresses, in `usize`, which also wraps.
* `XFrameBuffer.CoversCaptures` — every byte of every capture inside the window is in the segment.

The header lies in the segment; only the fields that are read are kept.

Principal results: `XFrameBuffer.new_ok_iff` (what is accepted), `new_coversCaptures_iff` (an
accepted framebuffer covers its captures exactly when the last pixel of the window is inside the
segment) and `coversCaptures_of_noColors` (what the size check leaves out).
-/

set_option autoImplicit false

namespace ApertureC

open Geometry

def XPIXMAP_DEPTH : UInt32 := 24
def XWD_FILE_VERSION : UInt32 := 7
def X_BYTES_PER_PIXEL : Nat := 4

/-- `mem::size_of::<XWDColor>()`. -/
def SIZE_OF_XWD_COLOR : Nat := 12

structure XWDFileHeader where
  headerSize : UInt32
  fileVersion : UInt32
  pixmapDepth : UInt32
  bitsPerPixel : UInt32
  bytesPerLine : UInt32
  ncolors : UInt32
  windowWidth : UInt32
  windowHeight : UInt32
  deriving DecidableEq, Repr

/-- A shared memory segment.  No mapping has `2 ^ 63` bytes or more. -/
structure ShmSegment where
  shmSegsz : Nat
  mappable : shmSegsz < 2 ^ 63

/-- What `shmat` returns. -/
inductive Attached where
  | failed
  | null
  | mapped
  deriving DecidableEq, Repr

/-- What the system calls of `XFrameBuffer::new` return, and the header found in the segment. -/
structure ShmCalls where
  shmat : Attached
  ipcStat : Option ShmSegment
  ipcRmid : Bool
  header : XWDFileHeader

structure XFrameBuffer where
  segment : ShmSegment
  header : XWDFileHeader

def XFrameBuffer.colorOffset (fb : XFrameBuffer) : Nat :=
  fb.header.headerSize.toNat + fb.header.ncolors.toNat * SIZE_OF_XWD_COLOR

/-- The bytes that the size check asks for, in `u32`. -/
def XWDFileHeader.requiredSize (header : XWDFileHeader) : UInt32 :=
  header.headerSize + header.windowHeight * header.bytesPerLine

def XFrameBuffer.new (calls : ShmCalls) : Except String XFrameBuffer :=
  match calls.shmat with
  | .failed => .error "shmat failed"
  | .null => .error "null shmaddr"
  | .mapped =>
    match calls.ipcStat with
    | none => .error "shmctl IPC_STAT failed"
    | some segment =>
      if calls.ipcRmid = false then .error "shmctl IPC_RMID failed"
      else if calls.header.fileVersion ≠ XWD_FILE_VERSION then
        .error s!"unknown XWD file version: {calls.header.fileVersion}"
      else if UInt32.ofNat segment.shmSegsz < calls.header.requiredSize then
        .error "shmem segment too small"
      else if calls.header.pixmapDepth ≠ XPIXMAP_DEPTH then
        .error s!"invalid X pixmap depth: {calls.header.pixmapDepth}"
      else if calls.header.bitsPerPixel ≠ UInt32.ofNat (X_BYTES_PER_PIXEL * 8) then
        .error s!"invalid bits per pixel: {calls.header.bitsPerPixel}"
      else .ok ⟨segment, calls.header⟩

structure XPixelMap where
  framebuffer : XFrameBuffer
  area : Rect

/-- A view of pixels in the segment, its strides counted in pixels. -/
structure PixelView where
  pixelOffset : Nat
  height : Nat
  width : Nat
  rowStride : Nat
  deriving DecidableEq, Repr

/-- Where byte `k` of a pixel of the view is, from the start of the segment. -/
def PixelView.address (v : PixelView) (row col k : Nat) : Nat :=
  (v.pixelOffset + (row * v.rowStride + col) * X_BYTES_PER_PIXEL + k) % 2 ^ 64

def XPixelMap.asNdarray (pm : XPixelMap) : PixelView :=
  let header := pm.framebuffer.header
  { pixelOffset := (pm.framebuffer.colorOffset + pm.area.origin.y * header.bytesPerLine.toNat
      + pm.area.origin.x * X_BYTES_PER_PIXEL) % 2 ^ 64
    height := pm.area.size.height
    width := pm.area.size.width
    rowStride := header.bytesPerLine.toNat / X_BYTES_PER_PIXEL }

/-- Every byte of every pixel of the view lies in the segment. -/
def PixelView.Inside (v : PixelView) (segment : ShmSegment) : Prop :=
  ∀ row < v.height, ∀ col < v.width, ∀ k < X_BYTES_PER_PIXEL,
    v.address row col k < segment.shmSegsz

/-- The area lies in the window of the header. -/
def XWDFileHeader.InWindow (header : XWDFileHeader) (area : Rect) : Prop :=
  area.origin.x + area.size.width ≤ header.windowWidth.toNat ∧
    area.origin.y + area.size.height ≤ header.windowHeight.toNat

/-- Every capture inside the window reads inside the segment. -/
def XFrameBuffer.CoversCaptures (fb : XFrameBuffer) : Prop :=
  ∀ area, fb.header.InWindow area → (XPixelMap.mk fb area).asNdarray.Inside fb.segment

/-- The window has no pixel, or its last pixel ends inside the segment. -/
def XFrameBuffer.LastPixelInside (fb : XFrameBuffer) : Prop :=
  fb.header.windowWidth.toNat = 0 ∨ fb.header.windowHeight.toNat = 0 ∨
    fb.colorOffset + (fb.header.windowHeight.toNat - 1) * fb.header.bytesPerLine.toNat
      + fb.header.windowWidth.toNat * X_BYTES_PER_PIXEL ≤ fb.segment.shmSegsz

instance (fb : XFrameBuffer) : Decidable fb.LastPixelInside :=
  inferInstanceAs (Decidable (_ ∨ _ ∨ _))

/-! ## What is accepted -/

theorem XFrameBuffer.new_ok_iff {calls : ShmCalls} {fb : XFrameBuffer} :
    XFrameBuffer.new calls = .ok fb ↔
      calls.shmat = .mapped ∧ calls.ipcStat = some fb.segment ∧ calls.ipcRmid = true ∧
      calls.header = fb.header ∧ fb.header.fileVersion = XWD_FILE_VERSION ∧
      fb.header.requiredSize ≤ UInt32.ofNat fb.segment.shmSegsz ∧
      fb.header.pixmapDepth = XPIXMAP_DEPTH ∧
      fb.header.bitsPerPixel = UInt32.ofNat (X_BYTES_PER_PIXEL * 8) := by
  obtain ⟨segment, header⟩ := fb
  obtain ⟨shmat, ipcStat, ipcRmid, header'⟩ := calls
  unfold XFrameBuffer.new
  cases shmat with
  | failed => simp
  | null => simp
  | mapped =>
    cases ipcStat with
    | none => simp
    | some segment' =>
      simp only
      split_ifs with hrmid hversion hsize hdepth hbits
      · simp [hrmid]
      · simp only [false_iff]
        rintro ⟨-, -, -, rfl, h, -⟩
        exact hversion h
      · simp only [false_iff, Option.some.injEq]
        rintro ⟨-, rfl, -, rfl, -, h, -⟩
        exact absurd hsize (UInt32.not_lt.mpr h)
      · simp only [false_iff]
        rintro ⟨-, -, -, rfl, -, -, h, -⟩
        exact hdepth h
      · simp only [false_iff]
        rintro ⟨-, -, -, rfl, -, -, -, h⟩
        exact hbits h
      · simp only [Except.ok.injEq, XFrameBuffer.mk.injEq, Option.some.injEq, true_and]
        constructor
        · rintro ⟨rfl, rfl⟩
          exact ⟨rfl, by simpa using hrmid, rfl, of_not_not hversion,
            UInt32.not_lt.mp hsize, of_not_not hdepth, of_not_not hbits⟩
        · rintro ⟨hsegment, -, hheader, -⟩
          exact ⟨hsegment, hheader⟩

/-! ## The bytes of a capture -/

theorem colorOffset_lt (fb : XFrameBuffer) : fb.colorOffset < 2 ^ 36 := by
  have h₁ := fb.header.headerSize.toNat_lt
  have h₂ := fb.header.ncolors.toNat_lt
  unfold XFrameBuffer.colorOffset SIZE_OF_XWD_COLOR
  omega

/-- No byte of a capture has an address past its place in rows of `bytes_per_line`. -/
theorem address_le (pm : XPixelMap) (row col k : Nat) :
    pm.asNdarray.address row col k ≤ pm.framebuffer.colorOffset
      + (pm.area.origin.y + row) * pm.framebuffer.header.bytesPerLine.toNat
      + (pm.area.origin.x + col) * X_BYTES_PER_PIXEL + k := by
  have hrow := Nat.mul_le_mul_left row
    (Nat.div_mul_le_self pm.framebuffer.header.bytesPerLine.toNat X_BYTES_PER_PIXEL)
  rw [← Nat.mul_assoc] at hrow
  refine Nat.le_trans (Nat.mod_le _ _) ?_
  have hoffset := Nat.mod_le (pm.framebuffer.colorOffset
    + pm.area.origin.y * pm.framebuffer.header.bytesPerLine.toNat
    + pm.area.origin.x * X_BYTES_PER_PIXEL) (2 ^ 64)
  simp only [XPixelMap.asNdarray, Nat.add_mul]
  omega

/-- The address of the last byte of the only pixel of a capture, when it does not wrap. -/
theorem address_single {fb : XFrameBuffer} {x y : Nat}
    (h : fb.colorOffset + y * fb.header.bytesPerLine.toNat + x * X_BYTES_PER_PIXEL + 3 < 2 ^ 64) :
    (XPixelMap.mk fb ⟨⟨x, y⟩, ⟨1, 1⟩⟩).asNdarray.address 0 0 3 =
      fb.colorOffset + y * fb.header.bytesPerLine.toNat + x * X_BYTES_PER_PIXEL + 3 := by
  simp only [PixelView.address, XPixelMap.asNdarray, Nat.zero_mul, Nat.add_zero]
  omega

/-- Rows of a covered window end inside the segment, one after another. -/
theorem row_inside {fb : XFrameBuffer} (h : fb.CoversCaptures)
    (hw : 0 < fb.header.windowWidth.toNat) :
    ∀ y < fb.header.windowHeight.toNat,
      fb.colorOffset + y * fb.header.bytesPerLine.toNat
        + fb.header.windowWidth.toNat * X_BYTES_PER_PIXEL ≤ fb.segment.shmSegsz := by
  have hwidth := fb.header.windowWidth.toNat_lt
  have hline := fb.header.bytesPerLine.toNat_lt
  have hcolor := colorOffset_lt fb
  have hseg := fb.segment.mappable
  -- the last pixel of a row is read where it is as long as the row starts below `2 ^ 63 + 2 ^ 36`
  have hlast : ∀ y < fb.header.windowHeight.toNat,
      fb.colorOffset + y * fb.header.bytesPerLine.toNat < 2 ^ 63 + 2 ^ 36 →
      fb.colorOffset + y * fb.header.bytesPerLine.toNat
        + fb.header.windowWidth.toNat * X_BYTES_PER_PIXEL ≤ fb.segment.shmSegsz := by
    intro y hy hstart
    have hin := h ⟨⟨fb.header.windowWidth.toNat - 1, y⟩, ⟨1, 1⟩⟩ ⟨by simp only; omega, hy⟩
      0 Nat.one_pos 0 Nat.one_pos 3 (by decide)
    rw [address_single (by unfold X_BYTES_PER_PIXEL; omega)] at hin
    unfold X_BYTES_PER_PIXEL at hin ⊢
    omega
  intro y
  induction y with
  | zero => exact fun hy => hlast 0 hy (by omega)
  | succ y ih =>
    intro hy
    have hprev := ih (by omega)
    apply hlast (y + 1) hy
    rw [Nat.add_mul, Nat.one_mul]
    omega

theorem XFrameBuffer.LastPixelInside.coversCaptures {fb : XFrameBuffer} (h : fb.LastPixelInside) :
    fb.CoversCaptures := by
  rintro area ⟨hx, hy⟩ row hrow col hcol k hk
  have hrow' : row < area.size.height := hrow
  have hcol' : col < area.size.width := hcol
  have haddress := address_le ⟨fb, area⟩ row col k
  have hline := Nat.mul_le_mul_right fb.header.bytesPerLine.toNat
    (show area.origin.y + row ≤ fb.header.windowHeight.toNat - 1 by omega)
  obtain h | h | h := h
  · omega
  · omega
  · simp only [X_BYTES_PER_PIXEL] at hk haddress h
    omega

/-- **An accepted framebuffer covers every capture inside its window exactly when the last pixel of
the window ends inside the segment**, which the size check does not ask for. -/
theorem new_coversCaptures_iff {calls : ShmCalls} {fb : XFrameBuffer}
    (hnew : XFrameBuffer.new calls = .ok fb) :
    fb.CoversCaptures ↔
      calls.header.windowWidth.toNat = 0 ∨ calls.header.windowHeight.toNat = 0 ∨
        calls.header.headerSize.toNat + calls.header.ncolors.toNat * SIZE_OF_XWD_COLOR
          + (calls.header.windowHeight.toNat - 1) * calls.header.bytesPerLine.toNat
          + calls.header.windowWidth.toNat * X_BYTES_PER_PIXEL ≤ fb.segment.shmSegsz := by
  obtain ⟨-, -, -, hheader, -⟩ := XFrameBuffer.new_ok_iff.mp hnew
  rw [hheader]
  constructor
  · intro h
    by_cases hw : fb.header.windowWidth.toNat = 0
    · exact .inl hw
    by_cases hh : fb.header.windowHeight.toNat = 0
    · exact .inr (.inl hh)
    exact .inr (.inr (row_inside h (by omega) _ (by omega)))
  · exact XFrameBuffer.LastPixelInside.coversCaptures

/-- One pixel, without a colour table, in a segment of just the size that is checked. -/
def onePixelCalls (ncolors : UInt32) : ShmCalls where
  shmat := .mapped
  ipcStat := some ⟨104, by decide⟩
  ipcRmid := true
  header := ⟨100, 7, 24, 32, 4, ncolors, 1, 1⟩

/-- Without a colour table the pixel is inside. -/
theorem new_coversCaptures_iff_onePixel :
    (XFrameBuffer.mk ⟨104, by decide⟩ ⟨100, 7, 24, 32, 4, 0, 1, 1⟩).CoversCaptures :=
  (new_coversCaptures_iff (show XFrameBuffer.new (onePixelCalls 0) = .ok _ from rfl)).mpr
    (by decide)

/-- With a colour table of one entry the pixel is outside. -/
theorem new_not_coversCaptures :
    ∃ calls fb, XFrameBuffer.new calls = .ok fb ∧ ¬ fb.CoversCaptures := by
  refine ⟨onePixelCalls 1, ⟨⟨104, by decide⟩, ⟨100, 7, 24, 32, 4, 1, 1, 1⟩⟩, rfl, fun h => ?_⟩
  have hin := h ⟨⟨0, 0⟩, ⟨1, 1⟩⟩ ⟨by decide, by decide⟩ 0 (by decide) 0 (by decide) 0 (by decide)
  revert hin
  decide

/-- What the size check leaves out: without a colour table, with rows as long as the window and a
sum that fits 32 bits, every accepted framebuffer covers its captures. -/
theorem coversCaptures_of_noColors {calls : ShmCalls} {fb : XFrameBuffer}
    (hnew : XFrameBuffer.new calls = .ok fb) (hcolors : fb.header.ncolors = 0)
    (hline : fb.header.windowWidth.toNat * X_BYTES_PER_PIXEL ≤ fb.header.bytesPerLine.toNat)
    (hsum : fb.header.headerSize.toNat
      + fb.header.windowHeight.toNat * fb.header.bytesPerLine.toNat < 2 ^ 32) :
    fb.CoversCaptures := by
  obtain ⟨-, -, -, -, -, hsize, -⟩ := XFrameBuffer.new_ok_iff.mp hnew
  apply XFrameBuffer.LastPixelInside.coversCaptures
  have hprod : fb.header.windowHeight.toNat * fb.header.bytesPerLine.toNat < 2 ^ 32 := by omega
  rw [UInt32.le_iff_toNat_le, XWDFileHeader.requiredSize, UInt32.toNat_add, UInt32.toNat_mul,
    UInt32.toNat_ofNat', Nat.mod_eq_of_lt hprod, Nat.mod_eq_of_lt hsum] at hsize
  have hsegment := Nat.le_trans hsize (Nat.mod_le _ _)
  by_cases hh : fb.header.windowHeight.toNat = 0
  · exact .inr (.inl hh)
  have hrows : (fb.header.windowHeight.toNat - 1) * fb.header.bytesPerLine.toNat
      + fb.header.bytesPerLine.toNat
      = fb.header.windowHeight.toNat * fb.header.bytesPerLine.toNat := by
    rw [← Nat.succ_mul]
    congr 1
    omega
  refine .inr (.inr ?_)
  rw [XFrameBuffer.colorOffset, hcolors]
  simp only [UInt32.toNat_zero, Nat.zero_mul, Nat.add_zero]
  omega

end ApertureC
