import ApertureC.TrackingBuffer
import ApertureC.Lib.Machine

/-!
# Replaying the frames of a tracking buffer

* `Frame.drawOn`, `replay` — write the buffers of a frame, and of a list of frames, to an image.
* `BufferOp`, `CutLog`, `CutLog.step` — the calls on a tracking buffer, with the frames cut since it
  was last resized.
* `Reconstructs` — the frames are numbered from zero, their buffers are disjoint and inside the
  display, and replaying them gives the contents of the buffer where nothing is damaged.

Principal results: `drawOn_spec` (a frame that shows `data` writes it wherever it has a buffer) and
`reconstructs_run` (every run of calls reconstructs the buffer).
-/

set_option autoImplicit false

namespace ApertureC

open Geometry

/-! ## Replay -/

/-- Write one buffer to an image; `none` when it does not fit. -/
def SubframeBuffer.drawOn (img : Grid Pixel24) (b : SubframeBuffer Pixel24) : Option (Grid Pixel24) :=
  img.assign b.area.toBox2D id b.pixels

/-- Write every buffer of a frame. -/
def Frame.drawOn (img : Grid Pixel24) (f : Frame) : Option (Grid Pixel24) :=
  f.buffers.foldlM SubframeBuffer.drawOn img

/-- Write the frames one after another. -/
def replay (img : Grid Pixel24) (frames : List Frame) : Option (Grid Pixel24) :=
  frames.foldlM Frame.drawOn img

/-- One buffer that shows `data` writes it to its area. -/
theorem SubframeBuffer.drawOn_spec {data : Grid Pixel32} {img : Grid Pixel24}
    {b : SubframeBuffer Pixel24} (hsize : img.size = data.size) (h : TrackingBuffer.Shows data b) :
    ∃ img', b.drawOn img = some img' ∧ img'.size = img.size ∧ ∀ p : Point, img'.get p.y p.x =
      if p ∈ b.area.toBox2D then Pixel24.assignElem (data.get p.y p.x) else img.get p.y p.x := by
  obtain ⟨hfit, hpix⟩ := h
  have hh : img.height = data.height := congrArg Size.height hsize
  have hw : img.width = data.width := congrArg Size.width hsize
  have hbh : b.pixels.height = b.area.toBox2D.height := by
    show b.pixels.height = b.origin.y + b.pixels.height - b.origin.y
    omega
  have hbw : b.pixels.width = b.area.toBox2D.width := by
    show b.pixels.width = b.origin.x + b.pixels.width - b.origin.x
    omega
  obtain ⟨g, hg, hgh, hgw, hget⟩ := Grid.assign_spec (hfit.congr hh hw) hbh hbw id
  refine ⟨g, hg, ?_, fun p => ?_⟩
  · simp only [Grid.size, hgh, hgw]
  · rw [hget p.y p.x]
    by_cases hp : p ∈ b.area.toBox2D
    · rw [if_pos hp, if_pos hp, id_eq, hpix]
      rw [Rect.mem_toBox2D] at hp
      have hy : b.origin.y + (p.y - b.origin.y) = p.y := Nat.add_sub_cancel' hp.2.1
      have hx : b.origin.x + (p.x - b.origin.x) = p.x := Nat.add_sub_cancel' hp.1.1
      show Pixel24.assignElem (data.get (b.origin.y + (p.y - b.origin.y))
        (b.origin.x + (p.x - b.origin.x))) = _
      rw [hy, hx]
    · rw [if_neg hp, if_neg hp]

/-- **A frame that shows `data` writes it wherever it has a buffer**, and nothing elsewhere. -/
theorem foldlM_drawOn_spec {data : Grid Pixel32} {bs : List (SubframeBuffer Pixel24)}
    (h : ∀ b ∈ bs, TrackingBuffer.Shows data b) {img : Grid Pixel24}
    (hsize : img.size = data.size) :
    ∃ img', bs.foldlM SubframeBuffer.drawOn img = some img' ∧ img'.size = img.size ∧
      (∀ p, (∃ b ∈ bs, p ∈ b.area.toBox2D) →
        img'.get p.y p.x = Pixel24.assignElem (data.get p.y p.x)) ∧
      ∀ p, (¬ ∃ b ∈ bs, p ∈ b.area.toBox2D) → img'.get p.y p.x = img.get p.y p.x := by
  induction bs generalizing img with
  | nil => exact ⟨img, rfl, rfl, (fun p ⟨b, hb, _⟩ => nomatch hb), fun p _ => rfl⟩
  | cons b bs ih =>
    obtain ⟨img₁, h₁, hsize₁, hget₁⟩ := SubframeBuffer.drawOn_spec hsize (h b List.mem_cons_self)
    obtain ⟨img₂, h₂, hsize₂, hin₂, hout₂⟩ :=
      ih (fun b' hb' => h b' (List.mem_cons_of_mem b hb')) (hsize₁.trans hsize)
    refine ⟨img₂, ?_, hsize₂.trans hsize₁, fun p hp => ?_, fun p hp => ?_⟩
    · rw [List.foldlM_cons, h₁]
      exact h₂
    · by_cases hrest : ∃ b ∈ bs, p ∈ b.area.toBox2D
      · exact hin₂ p hrest
      · obtain ⟨b', hb', hpb⟩ := hp
        rcases List.mem_cons.mp hb' with heq | hb'
        · rw [hout₂ p hrest, hget₁ p, if_pos (heq ▸ hpb)]
        · exact absurd ⟨b', hb', hpb⟩ hrest
    · have hrest : ¬ ∃ b ∈ bs, p ∈ b.area.toBox2D := by
        rintro ⟨b', hb', hpb⟩
        exact hp ⟨b', List.mem_cons_of_mem b hb', hpb⟩
      rw [hout₂ p hrest, hget₁ p, if_neg fun hpb => hp ⟨b, List.mem_cons_self, hpb⟩]

theorem replay_concat {img img' img'' : Grid Pixel24} {frames : List Frame} {f : Frame}
    (h : replay img frames = some img') (hf : f.drawOn img' = some img'') :
    replay img (frames ++ [f]) = some img'' := by
  unfold replay at h ⊢
  rw [List.foldlM_append, h]
  show [f].foldlM Frame.drawOn img' = some img''
  rw [List.foldlM_cons, hf]
  rfl

/-! ## The buffers of a frame -/

/-- The buffers of a frame that is cut are disjoint. -/
theorem TrackingBuffer.cutFrame_buffers {tb tb' : TrackingBuffer} (h : tb.WF) {f : Frame}
    (hcut : tb.cutFrame = some (some f, tb')) :
    (f.buffers.map fun b => b.area.toBox2D).Pairwise Box2D.Disjoint := by
  cases hd : tb.damage with
  | none => simp [cutFrame, hd] at hcut
  | partialAreas areas =>
    obtain ⟨hnon, hin⟩ := h.areas areas hd
    obtain ⟨bs, hbs, -, hareas⟩ := mapM_cutBuffer_spec areas.inner hin
    have hf : f.buffers = bs := by
      simp only [cutFrame, hd, hbs, Option.bind_eq_bind, Option.map_some, Option.bind_some,
        Option.pure_def, Option.some.injEq, Prod.mk.injEq] at hcut
      rw [← hcut.1]
    rw [hf, hareas]
    exact hnon
  | full =>
    have hf : ∃ b, f.buffers = [b] := by
      cases hb : tb.cutBuffer (Box2D.fromSize tb.display.area.size) with
      | none => simp [cutFrame, hd, hb] at hcut
      | some b =>
        simp only [cutFrame, hd, hb, h.size_eq, if_true, Option.bind_eq_bind, Option.map_some,
          Option.bind_some, Option.pure_def, Option.some.injEq, Prod.mk.injEq] at hcut
        exact ⟨b, by rw [← hcut.1]⟩
    obtain ⟨b, hb⟩ := hf
    rw [hb]
    exact List.pairwise_singleton _ _

/-! ## Runs -/

inductive BufferOp where
  | update (fb : SubframeBuffer Pixel32)
  | cutFrame
  | resize (display : Display) (displayConfig : Nat)

/-- A tracking buffer and the frames that were cut since it was last resized. -/
structure CutLog where
  tb : TrackingBuffer
  frames : List Frame

namespace CutLog

def step (cc : ConnectedComponents) (x : CutLog) : BufferOp → Option CutLog
  | .update fb => (x.tb.update cc fb).map fun tb => { x with tb := tb }
  | .cutFrame => x.tb.cutFrame.map fun (frame?, tb) => ⟨tb, x.frames ++ frame?.toList⟩
  | .resize display displayConfig => some ⟨x.tb.resize display displayConfig, []⟩

/-- A new tracking buffer. -/
def start (displayId : Nat) (display : Display) (displayConfig : Nat) : CutLog :=
  ⟨.new displayId display displayConfig, []⟩

end CutLog

/-- The frames cut since the last resize reconstruct the buffer. -/
structure Reconstructs (x : CutLog) : Prop where
  ids : x.frames.map Frame.id = List.range x.frames.length
  displayConfig : ∀ f ∈ x.frames, f.displayConfig = x.tb.displayConfig
  disjoint : ∀ f ∈ x.frames, (f.buffers.map fun b => b.area.toBox2D).Pairwise Box2D.Disjoint
  inside : ∀ f ∈ x.frames, ∀ b ∈ f.buffers,
    b.area.origin.x + b.area.size.width ≤ x.tb.display.area.size.width ∧
    b.area.origin.y + b.area.size.height ≤ x.tb.display.area.size.height
  replayed : ∀ img : Grid Pixel24, img.size = x.tb.display.area.size →
    ∃ img', replay img x.frames = some img' ∧ img'.size = img.size ∧
      ∀ p, x.tb.InDisplay p → ¬ x.tb.Damaged p →
        img'.get p.y p.x = Pixel24.assignElem (x.tb.data.get p.y p.x)

/-- The invariant of a run: the next frame takes the next number. -/
structure CutLog.Inv (x : CutLog) : Prop where
  wf : x.tb.WF
  next : x.tb.currFrameId = x.frames.length
  reconstructs : Reconstructs x

/-- Nothing is cut yet and everything is damaged. -/
theorem CutLog.inv_of_full {tb : TrackingBuffer} (hwf : tb.WF) (hid : tb.currFrameId = 0)
    (hfull : tb.damage = .full) : CutLog.Inv ⟨tb, []⟩ := by
  refine ⟨hwf, hid, rfl, (fun f hf => nomatch hf), (fun f hf => nomatch hf),
    (fun f hf => nomatch hf), fun img _ => ⟨img, rfl, rfl, fun p _ hp => ?_⟩⟩
  exact absurd (TrackingBuffer.damaged_full hfull p) hp

/-- An update damages every pixel it changes. -/
theorem CutLog.Inv.update (cc : ConnectedComponents) {x : CutLog} (h : x.Inv)
    (fb : SubframeBuffer Pixel32) : ∃ y, x.step cc (.update fb) = some y ∧ y.Inv := by
  obtain ⟨tb', htb', hwf, ⟨hdisp, -, hconf, hid⟩, -, hundam⟩ :=
    TrackingBuffer.update_spec cc h.wf fb
  refine ⟨⟨tb', x.frames⟩, ?_, hwf, hid.trans h.next, ?_⟩
  · rw [step, htb', Option.map_some]
  · obtain ⟨hids, hconfig, hdisj, hinside, hreplay⟩ := h.reconstructs
    refine ⟨hids, fun f hf => ?_, hdisj, fun f hf b hb => ?_, fun img himg => ?_⟩
    · exact (hconfig f hf).trans hconf.symm
    · rw [hdisp]
      exact hinside f hf b hb
    · simp only [hdisp] at himg
      obtain ⟨img', himg', hsize, hget⟩ := hreplay img himg
      refine ⟨img', himg', hsize, fun p hp hd => ?_⟩
      obtain ⟨hnd, hsame⟩ := hundam p hd
      have hp' : x.tb.InDisplay p := by
        simpa only [TrackingBuffer.InDisplay, hdisp] using hp
      rw [hget p hp' hnd, hsame]

/-- A cut appends the frame of everything that is damaged. -/
theorem CutLog.Inv.cut (cc : ConnectedComponents) {x : CutLog} (h : x.Inv) :
    ∃ y, x.step cc .cutFrame = some y ∧ y.Inv := by
  rcases TrackingBuffer.cutFrame_spec h.wf with ⟨-, hcut⟩ | ⟨f, -, hf, hcut⟩
  · refine ⟨x, ?_, h⟩
    rw [step, hcut, Option.map_some]
    simp only [Option.toList_none, List.append_nil]
  · refine ⟨⟨{ x.tb.clear with currFrameId := x.tb.currFrameId + 1 }, x.frames ++ [f]⟩, ?_, ?_⟩
    · rw [step, hcut]
      rfl
    · obtain ⟨hids, hconfig, hdisj, hinside, hreplay⟩ := h.reconstructs
      refine ⟨TrackingBuffer.clear_wf h.wf _, ?_, ?_, ?_, ?_, ?_, ?_⟩
      · show x.tb.currFrameId + 1 = _
        rw [h.next, List.length_append, List.length_singleton]
      · rw [List.map_append, hids, List.length_append, List.length_singleton, List.range_succ,
          List.map_singleton, hf.id_eq, h.next]
      · intro g hg
        rcases List.mem_append.mp hg with hg | hg
        · exact hconfig g hg
        · rw [List.mem_singleton.mp hg]
          exact hf.displayConfig_eq
      · intro g hg
        rcases List.mem_append.mp hg with hg | hg
        · exact hdisj g hg
        · rw [List.mem_singleton.mp hg]
          exact TrackingBuffer.cutFrame_buffers h.wf hcut
      · intro g hg b hb
        rcases List.mem_append.mp hg with hg | hg
        · exact hinside g hg b hb
        · rw [List.mem_singleton.mp hg] at hb
          have hfit := (hf.shows b hb).1
          rw [Grid.Fits, h.wf.height_eq, h.wf.width_eq] at hfit
          exact ⟨hfit.2.2, hfit.1.2⟩
      · intro img himg
        obtain ⟨img', himg', hsize', hget'⟩ := hreplay img himg
        have hdata : img'.size = x.tb.data.size :=
          hsize'.trans (Eq.trans himg h.wf.size_eq.symm)
        obtain ⟨img'', himg'', hsize'', hin, hout⟩ := foldlM_drawOn_spec hf.shows hdata
        refine ⟨img'', replay_concat himg' himg'', hsize''.trans hsize', fun p hp _ => ?_⟩
        by_cases hd : x.tb.Damaged p
        · exact hin p ((hf.covers p hp).mp hd)
        · rw [hout p fun hc => hd ((hf.covers p hp).mpr hc)]
          exact hget' p hp hd

/-- **Cut frames reconstruct the tracking buffer**: every run of updates, cuts and resizes is
carried out to its end, and the frames cut since the last resize reconstruct the buffer. -/
theorem reconstructs_run (cc : ConnectedComponents) (displayId : Nat) (display : Display)
    (displayConfig : Nat) (ops : List BufferOp) :
    ∃ x, Machine.run (CutLog.step cc) (CutLog.start displayId display displayConfig) ops = some x ∧
      Reconstructs x := by
  suffices h : ∀ {x : CutLog}, x.Inv → ∃ y, Machine.run (CutLog.step cc) x ops = some y ∧ y.Inv by
    obtain ⟨x, hx, hinv⟩ := h (CutLog.inv_of_full
      (TrackingBuffer.new_wf displayId display displayConfig) rfl rfl)
    exact ⟨x, hx, hinv.reconstructs⟩
  induction ops with
  | nil => exact fun h => ⟨_, rfl, h⟩
  | cons op ops ih =>
    intro x h
    have hstep : ∃ y, x.step cc op = some y ∧ y.Inv := by
      cases op with
      | update fb => exact h.update cc fb
      | cutFrame => exact h.cut cc
      | resize display displayConfig =>
        exact ⟨_, rfl, CutLog.inv_of_full (TrackingBuffer.resize_wf _ _ _) rfl rfl⟩
    obtain ⟨y, hy, hinv⟩ := hstep
    obtain ⟨z, hz, hinv'⟩ := ih hinv
    exact ⟨z, by rw [Machine.run_cons_some hy, hz], hinv'⟩

end ApertureC
