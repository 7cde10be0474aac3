import ApertureC.CursorSync

/-!
# The cursor's image, from the X server to the toolkit

An image of a cursor is encoded three times: by the X server as words (`backend/x.rs` of the server),
by the server as bytes, which the client reads as pixels (`channels/event.rs` of the client), and by
the client as a texture (`main.rs` of `aperturec-client-gtk4`).

* `GetCursorImageReply`, `Argb` — the X server's image; `toCursorImage` is the server's conversion.
* `changeCursor` — `Ui::change_cursor`, up to the texture and the hotspot.
* `Texture.pixel` — the texture read as its format says.
* `Matches` — the texture has the size and the pixels of the captured image.

Principal results: `converts` (every captured image reaches the client, pixel by pixel) and
`matches_iff` (**the texture is the captured image exactly when that is square and has as much red
as blue in every pixel**).
-/

set_option autoImplicit false

namespace ApertureC

open Geometry

/-! ## Words, bytes and pixels -/

/-- The channels of a pixel. -/
structure Rgba where
  red : UInt8
  green : UInt8
  blue : UInt8
  alpha : UInt8
  deriving DecidableEq, Repr

/-- A pixel of the X server: alpha in the most significant byte, then red, green and blue. -/
def Argb.channels (x : UInt32) : Rgba :=
  ⟨(x >>> 16).toUInt8, (x >>> 8).toUInt8, x.toUInt8, (x >>> 24).toUInt8⟩

/-- `u32::to_le_bytes` -/
def toLeBytes (x : UInt32) : List UInt8 :=
  [x.toUInt8, (x >>> 8).toUInt8, (x >>> 16).toUInt8, (x >>> 24).toUInt8]

/-- `xfixes::GetCursorImageReply`: one word for every pixel. -/
structure GetCursorImageReply where
  cursorSerial : UInt32
  width : UInt16
  height : UInt16
  xhot : UInt16
  yhot : UInt16
  cursorImage : List UInt32
  length_eq : cursorImage.length = width.toNat * height.toNat

namespace GetCursorImageReply

/-- `From<xfixes::GetCursorImageReply> for CursorImage` -/
def toCursorImage (reply : GetCursorImageReply) : Backend.CursorImage where
  serial := reply.cursorSerial.toNat
  width := reply.width.toNat
  height := reply.height.toNat
  xHot := reply.xhot.toNat
  yHot := reply.yhot.toNat
  data := reply.cursorImage.flatMap toLeBytes

/-- The captured pixel in column `x` of row `y`. -/
def pixel (reply : GetCursorImageReply) (x y : Nat) : Option Rgba :=
  reply.cursorImage[y * reply.width.toNat + x]?.map Argb.channels

end GetCursorImageReply

/-- The pixel that the client reads from a word's bytes. -/
def pixelOfWord (x : UInt32) : Pixel32 :=
  ⟨x.toUInt8, (x >>> 8).toUInt8, (x >>> 16).toUInt8, (x >>> 24).toUInt8⟩

theorem pixel32Chunks_toLeBytes (xs : List UInt32) :
    pixel32Chunks (xs.flatMap toLeBytes) = xs.map pixelOfWord := by
  induction xs with
  | nil => rfl
  | cons x xs ih =>
    rw [List.flatMap_cons, toLeBytes]
    simp only [List.cons_append, List.nil_append, pixel32Chunks, List.map_cons, ih, pixelOfWord]

theorem length_flatMap_toLeBytes (xs : List UInt32) :
    (xs.flatMap toLeBytes).length = 4 * xs.length := by
  induction xs with
  | nil => rfl
  | cons x xs ih =>
    rw [List.flatMap_cons, List.length_append, ih, List.length_cons]
    simp only [toLeBytes, List.length_cons, List.length_nil]
    omega

/-- **Every captured image reaches the client**, with its size, its hotspot and its pixels. -/
theorem converts (reply : GetCursorImageReply) (id : Nat) : ∃ pixels,
    Cursor.tryFrom (reply.toCursorImage.content.toMessage id) =
      .ok ⟨⟨reply.xhot.toNat, reply.yhot.toNat⟩, pixels⟩ ∧
    pixels = ⟨reply.height.toNat, reply.width.toNat, fun y x =>
      (reply.cursorImage.map pixelOfWord).getD (y * reply.width.toNat + x) default⟩ := by
  have hw := reply.width.toNat_lt
  have hh := reply.height.toNat_lt
  have hprod : reply.width.toNat * reply.height.toNat < 2 ^ 32 := by
    have := Nat.mul_lt_mul'' hw hh
    omega
  have hlen : (reply.cursorImage.flatMap toLeBytes).length =
      4 * (reply.width.toNat * reply.height.toNat) := by
    rw [length_flatMap_toLeBytes, reply.length_eq]
  have hvec : (reply.cursorImage.map pixelOfWord).length =
      reply.height.toNat * reply.width.toNat := by
    rw [List.length_map, reply.length_eq, Nat.mul_comm]
  refine ⟨_, ?_, rfl⟩
  simp only [Cursor.tryFrom, CursorContent.toMessage, Backend.CursorImage.content,
    GetCursorImageReply.toCursorImage, pixel32Chunks_toLeBytes, Grid.ofVec, hvec, if_true]
  rw [if_neg]
  rw [hlen, not_not]
  omega

/-! ## The texture -/

/-- `gdk::MemoryTexture` in the format `R8g8b8a8`. -/
structure Texture where
  width : Nat
  height : Nat
  bytes : List UInt8
  stride : Nat
  deriving DecidableEq, Repr

/-- The four bytes of a pixel are its red, green, blue and alpha. -/
def Texture.pixel (t : Texture) (x y : Nat) : Option Rgba :=
  match (t.bytes.drop (y * t.stride + 4 * x)).take 4 with
  | [r, g, b, a] => some ⟨r, g, b, a⟩
  | _ => none

/-- `gdk::Cursor` -/
structure ToolkitCursor where
  texture : Texture
  hotspotX : Nat
  hotspotY : Nat
  deriving DecidableEq, Repr

/-- `bytemuck::cast_slice` of a pixel vector. -/
def castPixel32 (ps : List Pixel32) : List UInt8 :=
  ps.flatMap fun p => [p.blue, p.green, p.red, p.alpha]

/-- `Ui::change_cursor`; `shape` is rows by columns. -/
def changeCursor (cursor : Cursor) : ToolkitCursor :=
  let shape := (cursor.pixels.height, cursor.pixels.width)
  let (width, height) := (shape.1, shape.2)
  let bytesVec := castPixel32 cursor.pixels.toVec
  ⟨⟨width, height, bytesVec, width * 4⟩, cursor.hot.x, cursor.hot.y⟩

/-- The toolkit's cursor is the captured one. -/
structure Matches (reply : GetCursorImageReply) (cursor : ToolkitCursor) : Prop where
  width : cursor.texture.width = reply.width.toNat
  height : cursor.texture.height = reply.height.toNat
  stride : cursor.texture.stride = 4 * reply.width.toNat
  pixel : ∀ x y, x < reply.width.toNat → y < reply.height.toNat →
    cursor.texture.pixel x y = reply.pixel x y
  hotspotX : cursor.hotspotX = reply.xhot.toNat
  hotspotY : cursor.hotspotY = reply.yhot.toNat

theorem castPixel32_at (ps : List Pixel32) (n : Nat) :
    ((castPixel32 ps).drop (4 * n)).take 4 =
      (ps[n]?).elim [] fun p => [p.blue, p.green, p.red, p.alpha] := by
  induction ps generalizing n with
  | nil => simp [castPixel32]
  | cons p ps ih =>
    rw [castPixel32, List.flatMap_cons]
    cases n with
    | zero => rfl
    | succ n =>
      have hdrop : ([p.blue, p.green, p.red, p.alpha] ++
          ps.flatMap fun p => [p.blue, p.green, p.red, p.alpha]).drop (4 * (n + 1)) =
          (castPixel32 ps).drop (4 * n) := by
        rw [show 4 * (n + 1) = 4 + 4 * n by omega, ← List.drop_drop]
        rfl
      rw [hdrop, ih n]
      rfl

/-- The pixels of a client's image are those of the captured words. -/
theorem toVec_words (reply : GetCursorImageReply) {x y : Nat} (hx : x < reply.width.toNat)
    (hy : y < reply.height.toNat) : ∃ c,
    reply.cursorImage[y * reply.width.toNat + x]? = some c ∧
      (Grid.toVec ⟨reply.height.toNat, reply.width.toNat, fun y x =>
        (reply.cursorImage.map pixelOfWord).getD (y * reply.width.toNat + x) default⟩)[
          y * reply.width.toNat + x]? = some (pixelOfWord c) := by
  have hlt : y * reply.width.toNat + x < reply.cursorImage.length := by
    rw [reply.length_eq, Nat.mul_comm reply.width.toNat]
    have := Nat.mul_le_mul_right reply.width.toNat (show y + 1 ≤ reply.height.toNat from hy)
    rw [Nat.add_mul, Nat.one_mul] at this
    omega
  refine ⟨_, List.getElem?_eq_getElem hlt, ?_⟩
  have hget := Grid.toVec_get (⟨reply.height.toNat, reply.width.toNat, fun y x =>
    (reply.cursorImage.map pixelOfWord).getD (y * reply.width.toNat + x) default⟩ :
      Grid Pixel32) hy hx
  rw [hget]
  simp [List.getD_eq_getElem?_getD, List.getElem?_eq_getElem hlt]

/-- **A texture of a square image shows blue for red and red for blue.** -/
theorem square_pixel (reply : GetCursorImageReply) (h : reply.width = reply.height) (hot : Point)
    {x y : Nat} (hx : x < reply.width.toNat) (hy : y < reply.height.toNat) : ∃ c,
    reply.cursorImage[y * reply.width.toNat + x]? = some c ∧
      (changeCursor ⟨hot, ⟨reply.height.toNat, reply.width.toNat, fun y x =>
        (reply.cursorImage.map pixelOfWord).getD (y * reply.width.toNat + x) default⟩⟩
      ).texture.pixel x y =
        some ⟨(Argb.channels c).blue, (Argb.channels c).green, (Argb.channels c).red,
          (Argb.channels c).alpha⟩ := by
  obtain ⟨c, hc, hvec⟩ := toVec_words reply hx hy
  refine ⟨c, hc, ?_⟩
  have hindex : y * (reply.height.toNat * 4) + 4 * x = 4 * (y * reply.width.toNat + x) := by
    rw [h, ← Nat.mul_assoc]
    omega
  simp only [changeCursor, Texture.pixel, hindex, castPixel32_at, hvec]
  rfl

/-- **The cursor arrives as captured exactly when it is square and has as much red as blue in every
pixel.** -/
theorem matches_iff (reply : GetCursorImageReply) (id : Nat) :
    (∃ cursor, Cursor.tryFrom (reply.toCursorImage.content.toMessage id) = .ok cursor ∧
        Matches reply (changeCursor cursor)) ↔
      reply.width = reply.height ∧
        ∀ c ∈ reply.cursorImage, (Argb.channels c).red = (Argb.channels c).blue := by
  obtain ⟨pixels, hok, rfl⟩ := converts reply id
  constructor
  · rintro ⟨cursor, hcursor, hm⟩
    rw [hok] at hcursor
    cases hcursor
    have hsquare : reply.width = reply.height := UInt16.toNat_inj.mp hm.width.symm
    refine ⟨hsquare, fun c hc => ?_⟩
    obtain ⟨i, hi⟩ := List.mem_iff_getElem?.mp hc
    have hlt : i < reply.width.toNat * reply.height.toNat := by
      rw [← reply.length_eq]
      exact (List.getElem?_eq_some_iff.mp hi).1
    have hpos : 0 < reply.width.toNat := Nat.pos_of_mul_pos_right (Nat.zero_lt_of_lt hlt)
    have hx : i % reply.width.toNat < reply.width.toNat := Nat.mod_lt _ hpos
    have hy : i / reply.width.toNat < reply.height.toNat := Nat.div_lt_of_lt_mul hlt
    have hsplit : i / reply.width.toNat * reply.width.toNat + i % reply.width.toNat = i := by
      rw [Nat.mul_comm]
      exact Nat.div_add_mod i _
    obtain ⟨c', hc', hshown⟩ := square_pixel reply hsquare _ hx hy
    have hequal := hm.pixel _ _ hx hy
    rw [hshown, GetCursorImageReply.pixel, hc'] at hequal
    rw [hsplit, hi] at hc'
    cases hc'
    have hred := congrArg (fun pixel => pixel.map Rgba.red) hequal
    exact (Option.some.inj hred).symm
  · rintro ⟨hsquare, hgrey⟩
    refine ⟨_, hok, ?_, ?_, ?_, ?_, rfl, rfl⟩
    · rw [hsquare]
      rfl
    · rw [← hsquare]
      rfl
    · rw [hsquare]
      exact Nat.mul_comm _ _
    · intro x y hx hy
      obtain ⟨c, hc, hshown⟩ := square_pixel reply hsquare _ hx hy
      have heq := hgrey c (List.mem_of_getElem? hc)
      rw [hshown, GetCursorImageReply.pixel, hc, Option.map_some, Option.some.injEq]
      generalize Argb.channels c = channels at heq
      obtain ⟨red, green, blue, alpha⟩ := channels
      simp only at heq
      rw [heq]

/-- A cursor of one red pixel. -/
def redDot : GetCursorImageReply := ⟨1, 1, 1, 0, 0, [0xFFFF0000], rfl⟩

/-- A grey cursor of two columns and one row. -/
def greyBar : GetCursorImageReply := ⟨2, 2, 1, 0, 0, [0xFF808080, 0xFF808080], rfl⟩

/-- The red pixel is shown blue, and the two columns are shown as two rows. -/
theorem cursor_differs :
    (¬ ∃ cursor, Cursor.tryFrom (redDot.toCursorImage.content.toMessage 7) = .ok cursor ∧
        Matches redDot (changeCursor cursor)) ∧
      ¬ ∃ cursor, Cursor.tryFrom (greyBar.toCursorImage.content.toMessage 7) = .ok cursor ∧
        Matches greyBar (changeCursor cursor) := by
  constructor
  · rintro ⟨cursor, hcursor, hm⟩
    obtain ⟨pixels, hok, rfl⟩ := converts redDot 7
    rw [hok] at hcursor
    cases hcursor
    exact absurd (hm.pixel 0 0 (by decide) (by decide)) (by decide)
  · rintro ⟨cursor, hcursor, hm⟩
    obtain ⟨pixels, hok, rfl⟩ := converts greyBar 7
    rw [hok] at hcursor
    cases hcursor
    exact absurd hm.width (by decide)

end ApertureC
