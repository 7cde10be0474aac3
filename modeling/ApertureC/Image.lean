import ApertureC.Frame
import ApertureC.Lib.LastWriter

/-!
# The client's image (`aperturec-client-gtk4/src/image.rs`)

* `Image.draw` — copy an array of pixels to a place of the image, pixel by pixel and only where the
  image does not show a newer frame; `none` is the failed assertion or a slice out of bounds.  The
  outline of the `draw-debug` feature is not part of a default build.
* `Image.drawAll` — a list of draws in order.

Principal results: `drawAll_spec` — a list of draws inside the image never panics, and every pixel
is a last-writer register over the draws that cover it — and `drawAll_perm`: on a new image the
order of the draws does not matter, each pixel comes from the newest draw over it.
-/

set_option autoImplicit false

namespace ApertureC

open Geometry LastWriter

structure Image where
  pixels : Grid Pixel32
  responsibleFrames : Grid Nat

namespace Image

def size (img : Image) : Size := img.pixels.size

def withRgba (size : Size) (red green blue alpha : UInt8) : Image where
  pixels := Grid.fromElem size ⟨blue, green, red, alpha⟩
  responsibleFrames := Grid.fromElem size 0

def withRgb (size : Size) (red green blue : UInt8) : Image := withRgba size red green blue 255

def new (size : Size) : Image := withRgba size 0 0 0 0

def black (size : Size) : Image := withRgb size 0 0 0

def draw (img : Image) (src : Grid Pixel24) (dstOrigin : Point) (frame : Nat) : Option Image :=
  let dstArea : Rect := ⟨dstOrigin, src.size⟩
  if (Rect.fromSize img.size).containsRect dstArea then do
    let pixels ← img.pixels.modifyIn dstArea.toBox2D fun y x dst =>
      if img.responsibleFrames.get y x ≤ frame then
        Pixel32.fromPixel24 (src.get (y - dstOrigin.y) (x - dstOrigin.x))
      else dst
    let responsibleFrames ← img.responsibleFrames.modifyIn dstArea.toBox2D fun _ _ responsible =>
      if responsible ≤ frame then frame else responsible
    return ⟨pixels, responsibleFrames⟩
  else none

def drawAll (img : Image) (draws : List Draw) : Option Image :=
  draws.foldlM (fun img d => img.draw d.pixels d.origin d.frame) img

/-- Both arrays have the given size. -/
def Sized (img : Image) (size : Size) : Prop :=
  img.pixels.size = size ∧ img.responsibleFrames.size = size

/-- A pixel together with the frame it comes from. -/
def pixelAt (img : Image) (p : Point) : Stamped Nat Pixel32 :=
  ⟨img.responsibleFrames.get p.y p.x, img.pixels.get p.y p.x⟩

end Image

/-- The draw lies inside an image of the given size. -/
def Draw.Inside (d : Draw) (size : Size) : Prop :=
  d.origin.x + d.pixels.width ≤ size.width ∧ d.origin.y + d.pixels.height ≤ size.height

/-- What the draw writes at a pixel, if it covers it. -/
def Draw.writeAt (p : Point) (d : Draw) : Option (Stamped Nat Pixel32) :=
  if p ∈ d.area.toBox2D then
    some ⟨d.frame, Pixel32.fromPixel24 (d.pixels.get (p.y - d.origin.y) (p.x - d.origin.x))⟩
  else none

namespace Image

theorem withRgba_sized (size : Size) (red green blue alpha : UInt8) :
    (withRgba size red green blue alpha).Sized size := ⟨rfl, rfl⟩

/-- A draw that does not panic writes each of its pixels and no other. -/
theorem draw_eq_some {img img' : Image} {d : Draw}
    (h : img.draw d.pixels d.origin d.frame = some img') :
    (∀ size, img.Sized size → img'.Sized size) ∧
      ∀ p, img'.pixelAt p = (match d.writeAt p with
        | some w => write (img.pixelAt p) w
        | none => img.pixelAt p) := by
  unfold draw at h
  simp only at h
  split at h
  · simp only [Grid.modifyIn, Option.bind_eq_bind, Option.bind_eq_some_iff, Option.pure_def,
      Option.ite_none_right_eq_some, Option.some.injEq] at h
    obtain ⟨_, ⟨-, rfl⟩, _, ⟨-, rfl⟩, rfl⟩ := h
    refine ⟨fun size hsize => hsize, fun p => ?_⟩
    simp only [pixelAt, Draw.writeAt, Draw.area]
    by_cases hmem : p ∈ (⟨d.origin, d.pixels.size⟩ : Rect).toBox2D
    · simp only [hmem, if_true, write]
      by_cases hle : img.responsibleFrames.get p.y p.x ≤ d.frame
      · simp only [hle, if_true]
      · simp only [hle, if_false]
    · simp only [hmem, if_false]
  · cases h

/-- The assertion `draw not contained by image` of a draw that does not panic. -/
theorem draw_contained {img img' : Image} {src : Grid Pixel24} {o : Point} {frame : Nat}
    (h : img.draw src o frame = some img') :
    (Rect.fromSize img.size).containsRect ⟨o, src.size⟩ = true := by
  unfold draw at h
  simp only at h
  split at h
  · assumption
  · cases h

/-- One draw inside the image writes each of its pixels and no other. -/
theorem draw_spec {img : Image} {size : Size} (hsize : img.Sized size) {d : Draw}
    (h : d.Inside size) :
    ∃ img', img.draw d.pixels d.origin d.frame = some img' ∧ img'.Sized size ∧
      ∀ p, img'.pixelAt p = (match d.writeAt p with
        | some w => write (img.pixelAt p) w
        | none => img.pixelAt p) := by
  have hsize' := hsize
  obtain ⟨hp, hr⟩ := hsize
  obtain ⟨hx, hy⟩ := h
  have hpw : img.pixels.width = size.width := congrArg Size.width hp
  have hph : img.pixels.height = size.height := congrArg Size.height hp
  have hrw : img.responsibleFrames.width = size.width := congrArg Size.width hr
  have hrh : img.responsibleFrames.height = size.height := congrArg Size.height hr
  have hin : (Rect.fromSize img.size).containsRect d.area = true := by
    have hsize : img.size = size := hp
    refine Rect.containsRect_of_le (Nat.zero_le _) ?_ (Nat.zero_le _) ?_
    · simp only [Rect.fromSize, Point.zero, Draw.area, Grid.size, hsize]
      omega
    · simp only [Rect.fromSize, Point.zero, Draw.area, Grid.size, hsize]
      omega
  have hfit : img.pixels.Fits d.area.toBox2D := by
    simp only [Grid.Fits, Rect.toBox2D, Draw.area, Grid.size]
    omega
  have hfit' : img.responsibleFrames.Fits d.area.toBox2D := by
    simp only [Grid.Fits, Rect.toBox2D, Draw.area, Grid.size]
    omega
  obtain ⟨img', hdraw⟩ : ∃ img', img.draw d.pixels d.origin d.frame = some img' := by
    unfold draw
    simp only [Draw.area] at hin hfit hfit' ⊢
    rw [if_pos hin, Grid.modifyIn_eq_some hfit, Grid.modifyIn_eq_some hfit']
    exact ⟨_, rfl⟩
  obtain ⟨hsized, hat⟩ := draw_eq_some hdraw
  exact ⟨img', hdraw, hsized size hsize', hat⟩

/-- **A list of draws inside the image never panics, and every pixel keeps the newest of the
writes to it.** -/
theorem drawAll_spec {size : Size} :
    ∀ (draws : List Draw) {img : Image}, img.Sized size → (∀ d ∈ draws, d.Inside size) →
      ∃ img', img.drawAll draws = some img' ∧ img'.Sized size ∧
        ∀ p, img'.pixelAt p = (draws.filterMap (Draw.writeAt p)).foldl write (img.pixelAt p)
  | [], img, hsize, _ => ⟨img, rfl, hsize, fun _ => rfl⟩
  | d :: draws, img, hsize, h => by
    obtain ⟨img₁, h₁, hsize₁, hat₁⟩ := draw_spec hsize (h d List.mem_cons_self)
    obtain ⟨img₂, h₂, hsize₂, hat₂⟩ :=
      drawAll_spec draws hsize₁ fun d' hd' => h d' (List.mem_cons_of_mem _ hd')
    refine ⟨img₂, ?_, hsize₂, fun p => ?_⟩
    · rw [drawAll, List.foldlM_cons, h₁]
      exact h₂
    · rw [hat₂ p, hat₁ p]
      cases hw : d.writeAt p with
      | none => rw [List.filterMap_cons_none hw]
      | some w => rw [List.filterMap_cons_some hw, List.foldl_cons]

/-! ## The order of the draws -/

/-- An image that nothing has been drawn on. -/
structure IsNew (img : Image) (size : Size) : Prop where
  sized : img.Sized size
  responsible : ∀ p : Point, p.x < size.width → p.y < size.height →
    img.responsibleFrames.get p.y p.x = 0

theorem withRgba_isNew (size : Size) (red green blue alpha : UInt8) :
    (withRgba size red green blue alpha).IsNew size :=
  ⟨withRgba_sized size red green blue alpha, fun _ _ _ => rfl⟩

/-- Images of one size with the same pixels and frames are one. -/
theorem ext_of_pixelAt {a b : Image} {size : Size} (ha : a.Sized size) (hb : b.Sized size)
    (h : ∀ p, a.pixelAt p = b.pixelAt p) : a = b := by
  obtain ⟨⟨ph, pw, pget⟩, rh, rw, rget⟩ := a
  obtain ⟨⟨ph', pw', pget'⟩, rh', rw', rget'⟩ := b
  simp only [Sized, Grid.size] at ha hb
  obtain ⟨rfl, hr⟩ := ha
  obtain ⟨hp', hr'⟩ := hb
  have hpget : pget = pget' := by
    funext y x
    exact congrArg Stamped.value (h ⟨x, y⟩)
  have hrget : rget = rget' := by
    funext y x
    exact congrArg Stamped.stamp (h ⟨x, y⟩)
  simp only [Size.mk.injEq] at hr hp' hr'
  obtain ⟨rfl, rfl⟩ := hr
  obtain ⟨rfl, rfl⟩ := hp'
  obtain ⟨rfl, rfl⟩ := hr'
  rw [hpget, hrget]

end Image

theorem Draw.of_writeAt {p : Point} {d : Draw} {w : Stamped Nat Pixel32}
    (h : d.writeAt p = some w) : p ∈ d.area.toBox2D ∧ w = ⟨d.frame,
      Pixel32.fromPixel24 (d.pixels.get (p.y - d.origin.y) (p.x - d.origin.x))⟩ := by
  simp only [Draw.writeAt, Option.ite_none_right_eq_some, Option.some.injEq] at h
  exact ⟨h.1, h.2.symm⟩

theorem Draw.writeAt_eq_some {d : Draw} {p : Point} (hp : p ∈ d.area.toBox2D) :
    d.writeAt p = some
      ⟨d.frame, Pixel32.fromPixel24 (d.pixels.get (p.y - d.origin.y) (p.x - d.origin.x))⟩ :=
  if_pos hp

theorem Draw.writeAt_eq_none {d : Draw} {p : Point} (hp : p ∉ d.area.toBox2D) :
    d.writeAt p = none :=
  if_neg hp

/-- Draws with one frame id do not overlap. -/
def FrameDisjoint (draws : List Draw) : Prop :=
  draws.Pairwise fun d e => d.frame = e.frame → d.area.toBox2D.Disjoint e.area.toBox2D

/-- What two draws write at a pixel is one write when it carries one frame. -/
def Draw.Compatible (p : Point) (d e : Draw) : Prop :=
  ∀ v w, d.writeAt p = some v → e.writeAt p = some w → v.stamp = w.stamp → v = w

theorem Draw.Compatible.refl (p : Point) (d : Draw) : d.Compatible p d := by
  intro v w hv hw _
  exact Option.some.inj (hv.symm.trans hw)

theorem Draw.Compatible.symm {p : Point} {d e : Draw} (h : d.Compatible p e) :
    e.Compatible p d := by
  intro v w hv hw hvw
  exact (h w v hw hv hvw.symm).symm

theorem Draw.compatible_of_disjoint {d e : Draw}
    (h : d.frame = e.frame → d.area.toBox2D.Disjoint e.area.toBox2D) (p : Point) :
    d.Compatible p e := by
  intro v w hv hw hvw
  obtain ⟨hpd, rfl⟩ := Draw.of_writeAt hv
  obtain ⟨hpe, rfl⟩ := Draw.of_writeAt hw
  exact absurd hpe (h hvw p hpd)

/-- At any pixel, no frame id stands for two different writes. -/
theorem FrameDisjoint.write_inj {draws : List Draw} (h : FrameDisjoint draws) (p : Point) :
    ∀ v ∈ draws.filterMap (Draw.writeAt p), ∀ w ∈ draws.filterMap (Draw.writeAt p),
      v.stamp = w.stamp → v = w := by
  have hpair : draws.Pairwise (Draw.Compatible p) :=
    h.imp fun hde => Draw.compatible_of_disjoint hde p
  have hall := hpair.forall_of_forall_of_flip (fun d _ => Draw.Compatible.refl p d)
    (hpair.imp fun hde => hde.symm)
  intro v hv w hw
  obtain ⟨d, hd, hdv⟩ := List.mem_filterMap.mp hv
  obtain ⟨e, he, hew⟩ := List.mem_filterMap.mp hw
  exact hall hd he v w hdv hew

namespace Image

/-- The draws in two orders leave one image. -/
theorem drawAll_eq_of_perm {img : Image} {size : Size} (hsize : img.Sized size)
    {draws order : List Draw} (hin : ∀ d ∈ draws, d.Inside size) (hdisj : FrameDisjoint draws)
    (hp : draws.Perm order) : img.drawAll order = img.drawAll draws := by
  obtain ⟨out, hout, hsized, hat⟩ := drawAll_spec draws hsize hin
  obtain ⟨out', hout', hsized', hat'⟩ := drawAll_spec order hsize
    fun d hd => hin d (hp.mem_iff.mpr hd)
  rw [hout, hout', ext_of_pixelAt hsized' hsized]
  intro p
  rw [hat p, hat' p]
  exact (foldl_write_perm (hp.filterMap (Draw.writeAt p)) (hdisj.write_inj p)
    (img.pixelAt p)).symm

/-- A pixel of a new image after a list of draws. -/
theorem foldl_writeAt_isNew {img : Image} {size : Size} (hnew : img.IsNew size)
    {draws : List Draw} (hdisj : FrameDisjoint draws) {p : Point} (hx : p.x < size.width)
    (hy : p.y < size.height) :
    ((∀ d ∈ draws, p ∉ d.area.toBox2D) →
      (draws.filterMap (Draw.writeAt p)).foldl write (img.pixelAt p) = img.pixelAt p) ∧
    ∀ d ∈ draws, p ∈ d.area.toBox2D →
      (∀ e ∈ draws, p ∈ e.area.toBox2D → e.frame ≤ d.frame) →
      d.writeAt p = some ((draws.filterMap (Draw.writeAt p)).foldl write (img.pixelAt p)) := by
  constructor
  · intro hnone
    have hnil : draws.filterMap (Draw.writeAt p) = [] := by
      refine List.filterMap_eq_nil_iff.mpr fun d hd => ?_
      exact Draw.writeAt_eq_none (hnone d hd)
    rw [hnil, List.foldl_nil]
  · intro d hd hpd hmax
    have hw := Draw.writeAt_eq_some hpd
    have hmem := List.mem_filterMap.mpr ⟨d, hd, hw⟩
    have hzero : (img.pixelAt p).stamp = 0 := hnew.responsible p hx hy
    rcases foldl_write_spec (draws.filterMap (Draw.writeAt p)) (img.pixelAt p) with
      ⟨-, hold⟩ | ⟨hin, -, hle⟩
    · -- no write is older than a pixel nothing was drawn on
      have := hold _ hmem
      rw [hzero] at this
      exact absurd this (Nat.not_lt_zero _)
    · obtain ⟨e, he, hew⟩ := List.mem_filterMap.mp hin
      obtain ⟨hpe, hweq⟩ := Draw.of_writeAt hew
      have h₁ := hle _ hmem
      have h₂ := hmax e he hpe
      rw [hw, hdisj.write_inj p _ hmem _ hin]
      rw [hweq] at h₁ ⊢
      exact Nat.le_antisymm h₁ h₂

/-- **Drawing on a new image does not depend on the order.**  Any permutation of the draws leaves
the same image; a pixel shows the newest draw over it, opaque, and is unchanged under none. -/
theorem drawAll_perm {img : Image} {size : Size} (hnew : img.IsNew size) {draws : List Draw}
    (hin : ∀ d ∈ draws, d.Inside size) (hdisj : FrameDisjoint draws) :
    ∃ out, (∀ order, draws.Perm order → img.drawAll order = some out) ∧ out.Sized size ∧
      ∀ p : Point, p.x < size.width → p.y < size.height →
        ((∀ d ∈ draws, p ∉ d.area.toBox2D) →
          out.pixels.get p.y p.x = img.pixels.get p.y p.x ∧
          out.responsibleFrames.get p.y p.x = 0) ∧
        ∀ d ∈ draws, p ∈ d.area.toBox2D →
          (∀ e ∈ draws, p ∈ e.area.toBox2D → e.frame ≤ d.frame) →
          out.pixels.get p.y p.x =
            Pixel32.fromPixel24 (d.pixels.get (p.y - d.origin.y) (p.x - d.origin.x)) ∧
          out.responsibleFrames.get p.y p.x = d.frame := by
  obtain ⟨out, hout, hsized, hat⟩ := drawAll_spec draws hnew.sized hin
  refine ⟨out, fun order hp => ?_, hsized, fun p hx hy => ?_⟩
  · rw [drawAll_eq_of_perm hnew.sized hin hdisj hp, hout]
  · obtain ⟨hnone, hcover⟩ := foldl_writeAt_isNew hnew hdisj hx hy
    rw [← hat p] at hnone hcover
    constructor
    · intro h
      have heq := hnone h
      exact ⟨congrArg Stamped.value heq,
        (congrArg Stamped.stamp heq).trans (hnew.responsible p hx hy)⟩
    · intro d hd hpd hmax
      obtain ⟨-, heq⟩ := Draw.of_writeAt (hcover d hd hpd hmax)
      exact ⟨congrArg Stamped.value heq, congrArg Stamped.stamp heq⟩

/-- A red draw of frame 1 and a blue one of frame 2 over a part of it, the newer one first. -/
theorem drawAll_perm_late :
    ∃ out, (black ⟨2, 1⟩).drawAll
        [⟨2, ⟨1, 0⟩, ⟨1, 1, fun _ _ => ⟨255, 0, 0⟩⟩⟩, ⟨1, ⟨0, 0⟩, ⟨1, 2, fun _ _ => ⟨0, 0, 255⟩⟩⟩] =
        some out ∧
      out.pixels.get 0 1 = ⟨255, 0, 0, 255⟩ ∧ out.responsibleFrames.get 0 1 = 2 := by
  have hdisj : FrameDisjoint [⟨1, ⟨0, 0⟩, ⟨1, 2, fun _ _ => ⟨0, 0, 255⟩⟩⟩,
      ⟨2, ⟨1, 0⟩, ⟨1, 1, fun _ _ => ⟨255, 0, 0⟩⟩⟩] := by
    simp [FrameDisjoint]
  obtain ⟨out, hout, -, hat⟩ := drawAll_perm (withRgba_isNew ⟨2, 1⟩ 0 0 0 255)
    (by simp [Draw.Inside]) hdisj
  refine ⟨out, hout _ (List.Perm.swap _ _ _), ?_⟩
  obtain ⟨-, hcover⟩ := hat ⟨1, 0⟩ (by decide) (by decide)
  exact hcover _ (List.mem_cons_of_mem _ List.mem_cons_self) (by decide) (by decide)

end Image

end ApertureC
