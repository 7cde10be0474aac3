import ApertureC.Encoder
import ApertureC.FrameStages
import ApertureC.Image

/-!
# From the tracking buffer to the client's image

The whole media path of one display: updates and cuts on the server, encoding by every encoder,
decoding, placement and drawing on the client.

* `Recording`, `Recording.run` — a sequence of `update` and `cut_frame` calls, with the frames it
  cuts and the contents of the buffer at the last cut.
* `encoderDraws`, `pipelineDraws` — the draws the client makes of every frame and encoder.
* `Synced` — the invariant of a recording: where nothing is damaged, the newest frame that covers a
  pixel shows it.

Principal results: `encoderDraws_spec` (an encoder's draws show the frame on exactly the part of it
in the encoder's area), `Synced.run` (every recording keeps the invariant) and `pixels_converge`
(whatever the order of the draws, the image shows the buffer as it was at the last cut).
-/

set_option autoImplicit false

namespace ApertureC

open Geometry LastWriter MapM

/-! ## The server's side -/

inductive Op where
  | update (fb : SubframeBuffer Pixel32)
  | cut

structure Recording where
  tb : TrackingBuffer
  frames : List Frame
  /-- `data` at the time of the last call of `cut_frame`. -/
  lastCut : Option (Grid Pixel32)

namespace Recording

def step (cc : ConnectedComponents) (r : Recording) : Op → Option Recording
  | .update fb => do
    let tb ← r.tb.update cc fb
    return { r with tb := tb }
  | .cut => do
    let (frame?, tb) ← r.tb.cutFrame
    return ⟨tb, r.frames ++ frame?.toList, some r.tb.data⟩

def run (cc : ConnectedComponents) (r : Recording) (ops : List Op) : Option Recording :=
  ops.foldlM (step cc) r

/-- A new tracking buffer and nothing cut. -/
def start (displayId : Nat) (display : Display) (displayConfig : Nat) : Recording :=
  ⟨.new displayId display displayConfig, [], none⟩

end Recording

/-! ## The client's side -/

/-- The draw of a fragment, with the exact sum for its origin. -/
def DecodedFragmentData.drawAt (frag : DecodedFragmentData) (areaOrigin : Point) : Draw where
  frame := frag.frame
  origin :=
    ⟨frag.decoderRelativeOrigin.x + areaOrigin.x, frag.decoderRelativeOrigin.y + areaOrigin.y⟩
  pixels := frag.pixmap

/-- **The framer's draw is the exact one** when it lies inside a display, whose sides are `usize`. -/
theorem DecodedFragmentData.toDraw_eq_drawAt {frag : DecodedFragmentData} {areaOrigin : Point}
    {size : Size} (hwidth : size.width < 2 ^ 64) (hheight : size.height < 2 ^ 64)
    (h : (frag.drawAt areaOrigin).Inside size) : frag.toDraw areaOrigin = frag.drawAt areaOrigin := by
  have hfits : frag.decoderRelativeOrigin.AddFits areaOrigin := by
    simp only [Draw.Inside, drawAt] at h
    exact ⟨by omega, by omega⟩
  rw [toDraw, Point.wrappingAdd_of_fits hfits, drawAt]

/-- The draws of one message of an encoder whose area starts at `areaOrigin`; `none` is a failed
conversion or decoding.  What the server cuts lies inside its display, where the framer's draws are
exact. -/
def messageDraws (codecs : Codecs) (areaOrigin : Point) : MediaMessage → Option (List Draw)
  | .fragment frag =>
    match EncodedFragmentData.tryFrom frag with
    | .error _ => none
    | .ok e =>
      match e.decode codecs with
      | .error _ => none
      | .ok d => some [d.drawAt areaOrigin]
  | .terminal _ => some []

/-- The draws of one frame and one encoder. -/
def encoderDraws (comp : Compressors) (codecs : Codecs) (frame : Frame) (enc : EncoderTask)
    (completed : List (SubframeBuffer Pixel24 × Box2D)) : Option (List Draw) := do
  let msgs ← enc.encodeFrame comp frame completed
  (msgs.mapM (messageDraws codecs enc.area.min)).map List.flatten

/-- The draws of every frame and every encoder; `completed` gives the completion orders. -/
def pipelineDraws (comp : Compressors) (codecs : Codecs) (encs : List EncoderTask)
    (completed : Frame → EncoderTask → List (SubframeBuffer Pixel24 × Box2D))
    (frames : List Frame) : Option (List Draw) :=
  (frames.mapM fun f =>
    (encs.mapM fun e => encoderDraws comp codecs f e (completed f e)).map List.flatten).map
      List.flatten

/-- One encoder per area, with the raw codec. -/
def rawEncoders (areas : List Box2D) : List EncoderTask :=
  areas.zipIdx.map fun a => ⟨a.2, a.1, .raw⟩

/-! ## One encoder -/

/-- The draw shows `data` on a region. -/
structure DrawsRegion (data : Grid Pixel32) (frame : Nat) (i : Box2D) (d : Draw) : Prop where
  frame_eq : d.frame = frame
  area_eq : d.area.toBox2D = i
  shows : ∀ p, p ∈ i → d.pixels.get (p.y - d.origin.y) (p.x - d.origin.x) =
    Pixel24.assignElem (data.get p.y p.x)

/-- **Encoding, decoding and placing a part gives back the part.** -/
theorem messageDraws_raw (comp : Compressors) (codecs : Codecs) {enc : EncoderTask}
    (hraw : enc.compressionScheme = .raw) (frame : Frame) {data : Grid Pixel32}
    {b : SubframeBuffer Pixel24} (hb : TrackingBuffer.Shows data b) {i : Box2D}
    (hi : enc.area.intersection b.area.toBox2D = some i) :
    ∃ bytes rel, enc.encoding comp (b, i) = some (.ok (bytes, rel)) ∧
      ∀ sequence terminal, ∃ d, DrawsRegion data frame.id i d ∧
        messageDraws codecs enc.area.min
          (.fragment (enc.frameFragment frame sequence terminal bytes rel)) = some [d] := by
  obtain ⟨view, rel, henc, hvsize, hrsize, ⟨hrx, hry⟩, hget⟩ :=
    EncoderTask.encoding_raw comp hraw hi
  refine ⟨_, rel, henc, fun sequence terminal => ?_⟩
  obtain ⟨pixmap, hvec, hh, hw, hagree⟩ := Grid.ofVec_toVec view
  obtain ⟨heq, q, hq⟩ := Box2D.intersection_eq_some hi
  rw [Box2D.mem_def] at hq
  have hpw : pixmap.width = i.max.x - i.min.x := hw.trans (congrArg Size.width hvsize)
  have hph : pixmap.height = i.max.y - i.min.y := hh.trans (congrArg Size.height hvsize)
  have hlen : (castBytes view.toVec).length = rel.size.area * 3 := by
    rw [length_castBytes, Grid.length_toVec, hrsize, ← hvsize]
    simp only [Size.area, Grid.size, Nat.mul_comm]
  have hdec : EncodedFragmentData.decode codecs
      ⟨frame.id, asU32 enc.id, asU32 sequence, asU32 frame.display, asU32 frame.displayConfig,
        terminal, .raw, rel.size, rel.min, castBytes view.toVec⟩ =
      .ok ⟨frame.id, asU32 enc.id, asU32 sequence, terminal, rel.min, pixmap⟩ := by
    unfold EncodedFragmentData.decode
    simp only [decodeBytes, hlen, ne_eq, not_true, if_false, castPixels_castBytes]
    rw [hrsize, ← hvsize, hvec]
  refine ⟨⟨frame.id, ⟨rel.min.x + enc.area.min.x, rel.min.y + enc.area.min.y⟩, pixmap⟩,
    ⟨rfl, ?_, fun p hp => ?_⟩, ?_⟩
  · obtain ⟨⟨x₀, y₀⟩, ⟨x₁, y₁⟩⟩ := i
    simp only at hrx hry hpw hph hq
    simp only [Draw.area, Rect.toBox2D, Grid.size, hrx, hry, hpw, hph]
    rw [show x₀ + (x₁ - x₀) = x₁ by omega, show y₀ + (y₁ - y₀) = y₁ by omega]
  · have hpb : p ∈ b.area.toBox2D := by
      rw [heq] at hp
      exact (Box2D.mem_intersectionUnchecked.mp hp).2
    have hib : b.origin.x ≤ i.min.x ∧ b.origin.y ≤ i.min.y := by
      rw [heq]
      simp only [Box2D.intersectionUnchecked, SubframeBuffer.area, Rect.toBox2D]
      omega
    rw [Box2D.mem_def] at hp
    rw [SubframeBuffer.area, Rect.mem_toBox2D] at hpb
    simp only [hrx, hry]
    rw [hagree _ _ (by omega) (by omega), hget, hb.2]
    rw [show b.origin.y + (i.min.y - b.origin.y + (p.y - i.min.y)) = p.y by omega,
      show b.origin.x + (i.min.x - b.origin.x + (p.x - i.min.x)) = p.x by omega]
  · simp only [messageDraws, EncodedFragmentData.tryFrom, EncoderTask.frameFragment, hraw,
      Scheme.asCodec, Codec.tryFrom_toInt, hdec]
    rfl

/-- The draws of a list of parts, in the order in which their encodings complete. -/
theorem dispatch_draws (comp : Compressors) (codecs : Codecs) {enc : EncoderTask}
    (hraw : enc.compressionScheme = .raw) (frame : Frame) {data : Grid Pixel32} (n : Nat) :
    ∀ (parts : List (SubframeBuffer Pixel24 × Box2D)) (sequence : Nat),
      (∀ part ∈ parts, TrackingBuffer.Shows data part.1 ∧
        enc.area.intersection part.1.area.toBox2D = some part.2) →
      ∃ encodings ds, parts.mapM (enc.encoding comp) = some encodings ∧
        ((enc.dispatch frame n sequence encodings).mapM
          (messageDraws codecs enc.area.min)).map List.flatten = some ds ∧
        (∀ d ∈ ds, ∃ part ∈ parts, DrawsRegion data frame.id part.2 d) ∧
        ∀ part ∈ parts, ∃ d ∈ ds, DrawsRegion data frame.id part.2 d
  | [], _, _ => ⟨[], [], rfl, rfl, (fun d hd => nomatch hd), (fun part hp => nomatch hp)⟩
  | (b, i) :: parts, sequence, h => by
    obtain ⟨hb, hi⟩ := h _ List.mem_cons_self
    obtain ⟨bytes, rel, henc, hdraw⟩ := messageDraws_raw comp codecs hraw frame hb hi
    obtain ⟨d, hd, hmsg⟩ := hdraw sequence (decide (sequence = n - 1))
    obtain ⟨encodings, ds, hencs, hds, hall, hall'⟩ := dispatch_draws comp codecs hraw frame n parts
      (sequence + 1) fun part hp => h part (List.mem_cons_of_mem _ hp)
    obtain ⟨dss, hdss, hflat⟩ := Option.map_eq_some_iff.mp hds
    refine ⟨.ok (bytes, rel) :: encodings, d :: ds, ?_, ?_, fun d' hd' => ?_, fun part hp => ?_⟩
    · simp [List.mapM_cons, henc, hencs]
    · simp [EncoderTask.dispatch, List.mapM_cons, hmsg, hdss, hflat]
    · rcases List.mem_cons.mp hd' with h | h
      · rw [h]
        exact ⟨_, List.mem_cons_self, hd⟩
      · obtain ⟨part, hp, hreg⟩ := hall d' h
        exact ⟨part, List.mem_cons_of_mem _ hp, hreg⟩
    · rcases List.mem_cons.mp hp with h | h
      · rw [h]
        exact ⟨d, List.mem_cons_self, hd⟩
      · obtain ⟨d', hd', hreg⟩ := hall' part h
        exact ⟨d', List.mem_cons_of_mem _ hd', hreg⟩

/-- The frame has a pixel for `p`. -/
def Frame.CoversPixel (f : Frame) (p : Point) : Prop := ∃ b ∈ f.buffers, p ∈ b.area.toBox2D

/-- **An encoder's draws show the frame on exactly the part of it in the encoder's area.** -/
theorem encoderDraws_spec (comp : Compressors) (codecs : Codecs) {enc : EncoderTask}
    (hraw : enc.compressionScheme = .raw) {frame : Frame} {data : Grid Pixel32}
    (hshows : ∀ b ∈ frame.buffers, TrackingBuffer.Shows data b)
    {completed : List (SubframeBuffer Pixel24 × Box2D)}
    (hperm : completed.Perm (enc.relevant frame)) :
    ∃ ds, encoderDraws comp codecs frame enc completed = some ds ∧
      (∀ d ∈ ds, d.Inside data.size ∧ ∃ i, DrawsRegion data frame.id i d ∧
        ∀ p ∈ i, frame.CoversPixel p) ∧
      ∀ p ∈ enc.area, frame.CoversPixel p → ∃ d ∈ ds, p ∈ d.area.toBox2D := by
  have hparts : ∀ part ∈ completed, part.1 ∈ frame.buffers ∧ TrackingBuffer.Shows data part.1 ∧
      enc.area.intersection part.1.area.toBox2D = some part.2 := by
    intro ⟨b, i⟩ hmem
    obtain ⟨hb, hi⟩ := EncoderTask.mem_relevant.mp (hperm.mem_iff.mp hmem)
    exact ⟨hb, hshows b hb, hi⟩
  obtain ⟨encodings, ds, hencs, hds, hall, hall'⟩ :=
    dispatch_draws comp codecs hraw frame (enc.relevant frame).length completed 0
      fun part hp => (hparts part hp).2
  have hds' : encoderDraws comp codecs frame enc completed = some ds := by
    unfold encoderDraws EncoderTask.encodeFrame
    split
    · rename_i hempty
      have hnil : completed = [] := by
        rw [List.isEmpty_iff] at hempty
        rw [hempty] at hperm
        exact hperm.eq_nil
      have hdsnil : ds = [] := by
        cases ds with
        | nil => rfl
        | cons d ds =>
          obtain ⟨part, hp, -⟩ := hall d List.mem_cons_self
          rw [hnil] at hp
          cases hp
      rw [hdsnil]
      rfl
    · simp only [hencs, Option.bind_eq_bind, Option.bind_some, Option.pure_def, hds]
  refine ⟨ds, hds', fun d hd => ?_, fun p hpa ⟨b, hb, hpb⟩ => ?_⟩
  · obtain ⟨⟨b, i⟩, hpart, hreg⟩ := hall d hd
    obtain ⟨hb, hshow, hi⟩ := hparts _ hpart
    obtain ⟨heq, -, -⟩ := Box2D.intersection_eq_some hi
    simp only at heq hreg
    refine ⟨?_, i, hreg, fun p hp => ⟨b, hb, ?_⟩⟩
    · have harea := hreg.area_eq
      rw [heq] at harea
      have hfit := hshow.1
      have hmax := congrArg Box2D.max harea
      simp only [Draw.area, Rect.toBox2D, Box2D.intersectionUnchecked, SubframeBuffer.area,
        Grid.size, Point.mk.injEq, Grid.Fits] at hmax hfit
      simp only [Draw.Inside, Grid.size]
      omega
    · rw [heq] at hp
      exact (Box2D.mem_intersectionUnchecked.mp hp).2
  · rcases Box2D.intersection_spec enc.area b.area.toBox2D with ⟨-, hdis⟩ | ⟨i, hi, -, hmem⟩
    · exact absurd hpb (hdis p hpa)
    · have hpart := hperm.mem_iff.mpr (EncoderTask.mem_relevant.mpr ⟨hb, hi⟩)
      obtain ⟨d, hd, hreg⟩ := hall' _ hpart
      refine ⟨d, hd, ?_⟩
      rw [hreg.area_eq]
      exact (hmem p).mpr ⟨hpa, hpb⟩

/-! ## All encoders and frames -/

theorem rawEncoders_raw {areas : List Box2D} {enc : EncoderTask} (h : enc ∈ rawEncoders areas) :
    enc.compressionScheme = .raw := by
  obtain ⟨a, -, rfl⟩ := List.mem_map.mp h
  rfl

theorem exists_rawEncoder {areas : List Box2D} {a : Box2D} (h : a ∈ areas) :
    ∃ enc ∈ rawEncoders areas, enc.area = a := by
  obtain ⟨i, hi⟩ := List.mem_iff_getElem?.mp h
  exact ⟨⟨i, a, .raw⟩, List.mem_map.mpr ⟨(a, i), List.mem_zipIdx_iff_getElem?.mpr hi, rfl⟩, rfl⟩

/-- **All draws of a list of frames**: each shows a frame, and a pixel of the display that a frame
covers is covered by one of its draws. -/
theorem pipelineDraws_spec (comp : Compressors) (codecs : Codecs) {areas : List Box2D} {size : Size}
    (hcover : ∀ p ∈ Box2D.fromSize size, ∃ a ∈ areas, p ∈ a)
    {completed : Frame → EncoderTask → List (SubframeBuffer Pixel24 × Box2D)}
    (hperm : ∀ f e, (completed f e).Perm (e.relevant f)) {frames : List Frame}
    {dataOf : Frame → Grid Pixel32}
    (hshows : ∀ f ∈ frames, (dataOf f).size = size ∧
      ∀ b ∈ f.buffers, TrackingBuffer.Shows (dataOf f) b) :
    ∃ draws, pipelineDraws comp codecs (rawEncoders areas) completed frames = some draws ∧
      (∀ d ∈ draws, d.Inside size ∧ ∃ f ∈ frames, ∃ i, DrawsRegion (dataOf f) f.id i d ∧
        ∀ p ∈ i, f.CoversPixel p) ∧
      ∀ f ∈ frames, ∀ p ∈ Box2D.fromSize size, f.CoversPixel p →
        ∃ d ∈ draws, d.frame = f.id ∧ p ∈ d.area.toBox2D := by
  have henc : ∀ f ∈ frames, ∀ e ∈ rawEncoders areas, ∃ ds,
      encoderDraws comp codecs f e (completed f e) = some ds ∧
      (∀ d ∈ ds, d.Inside size ∧ ∃ i, DrawsRegion (dataOf f) f.id i d ∧
        ∀ p ∈ i, f.CoversPixel p) ∧
      ∀ p ∈ e.area, f.CoversPixel p → ∃ d ∈ ds, p ∈ d.area.toBox2D := by
    intro f hf e he
    obtain ⟨hsize, hshow⟩ := hshows f hf
    rw [← hsize]
    exact encoderDraws_spec comp codecs (rawEncoders_raw he) hshow (hperm f e)
  have hframe : ∀ f ∈ frames, ∃ ds, ((rawEncoders areas).mapM fun e =>
      encoderDraws comp codecs f e (completed f e)).map List.flatten = some ds ∧
      ∀ d, d ∈ ds ↔ ∃ e ∈ rawEncoders areas, ∃ ys,
        encoderDraws comp codecs f e (completed f e) = some ys ∧ d ∈ ys := by
    intro f hf
    refine mapM_flatten_spec _ fun e he => ?_
    obtain ⟨ds, hds, -⟩ := henc f hf e he
    exact ⟨ds, hds⟩
  obtain ⟨draws, hdraws, hmem⟩ := mapM_flatten_spec (g := fun f =>
    ((rawEncoders areas).mapM fun e => encoderDraws comp codecs f e (completed f e)).map
      List.flatten) frames fun f hf => by
        obtain ⟨ds, hds, -⟩ := hframe f hf
        exact ⟨ds, hds⟩
  refine ⟨draws, hdraws, fun d hd => ?_, fun f hf p hp hpf => ?_⟩
  · obtain ⟨f, hf, ys, hys, hdy⟩ := (hmem d).mp hd
    obtain ⟨ds, hds, hdmem⟩ := hframe f hf
    rw [hds] at hys
    cases hys
    obtain ⟨e, he, zs, hzs, hdz⟩ := (hdmem d).mp hdy
    obtain ⟨ws, hws, hreg, -⟩ := henc f hf e he
    rw [hws] at hzs
    cases hzs
    obtain ⟨hin, i, hi⟩ := hreg d hdz
    exact ⟨hin, f, hf, i, hi⟩
  · obtain ⟨a, ha, hpa⟩ := hcover p hp
    obtain ⟨e, he, rfl⟩ := exists_rawEncoder ha
    obtain ⟨ds, hds, hdmem⟩ := hframe f hf
    obtain ⟨ws, hws, hreg, hcov⟩ := henc f hf e he
    obtain ⟨d, hd, hpd⟩ := hcov p hpa hpf
    obtain ⟨-, i, hi, -⟩ := hreg d hd
    exact ⟨d, (hmem d).mpr ⟨f, hf, ds, hds, (hdmem d).mpr ⟨e, he, ws, hws, hd⟩⟩, hi.frame_eq, hpd⟩

/-! ## Recordings -/

/-- Every buffer of the frame that has the pixel gives it this colour. -/
def Frame.ShowsPixel (f : Frame) (p : Point) (c : Pixel24) : Prop :=
  ∀ b ∈ f.buffers, p ∈ b.area.toBox2D → b.pixels.get (p.y - b.origin.y) (p.x - b.origin.x) = c

/-- The newest frame that has the pixel gives it this colour. -/
def NewestShows (frames : List Frame) (p : Point) (c : Pixel24) : Prop :=
  ∃ f ∈ frames, f.CoversPixel p ∧ f.ShowsPixel p c ∧
    ∀ g ∈ frames, g.CoversPixel p → g.id ≤ f.id

/-- The invariant of a recording of a display of the given size. -/
structure Synced (size : Size) (r : Recording) : Prop where
  wf : r.tb.WF
  size_eq : r.tb.display.area.size = size
  ids : r.frames.Pairwise fun f g => f.id < g.id
  ids_lt : ∀ f ∈ r.frames, f.id < r.tb.currFrameId
  shows : ∀ f ∈ r.frames, ∃ data : Grid Pixel32, data.size = size ∧
    ∀ b ∈ f.buffers, TrackingBuffer.Shows data b
  undamaged : ∀ p, r.tb.InDisplay p → ¬ r.tb.Damaged p →
    NewestShows r.frames p (Pixel24.assignElem (r.tb.data.get p.y p.x))
  lastCut : ∀ data, r.lastCut = some data → ∀ p, r.tb.InDisplay p →
    NewestShows r.frames p (Pixel24.assignElem (data.get p.y p.x))

theorem start_synced (displayId : Nat) (display : Display) (displayConfig : Nat) :
    Synced display.area.size (Recording.start displayId display displayConfig) := by
  refine ⟨TrackingBuffer.new_wf _ _ _, rfl, List.Pairwise.nil, (fun f hf => nomatch hf),
    (fun f hf => nomatch hf), fun p _ hp => ?_, (fun data h => nomatch h)⟩
  exact absurd (TrackingBuffer.damaged_full rfl p) hp

theorem showsPixel_of_shows {f : Frame} {data : Grid Pixel32}
    (h : ∀ b ∈ f.buffers, TrackingBuffer.Shows data b) (p : Point) :
    f.ShowsPixel p (Pixel24.assignElem (data.get p.y p.x)) := by
  intro b hb hp
  simp only [SubframeBuffer.area, Rect.mem_toBox2D] at hp
  rw [(h b hb).2, show b.origin.y + (p.y - b.origin.y) = p.y by omega,
    show b.origin.x + (p.x - b.origin.x) = p.x by omega]

/-- An update keeps the invariant. -/
theorem Synced.update (cc : ConnectedComponents) {size : Size} {r : Recording} (h : Synced size r)
    (fb : SubframeBuffer Pixel32) : ∃ r', r.step cc (.update fb) = some r' ∧ Synced size r' ∧
      r'.lastCut = r.lastCut := by
  obtain ⟨tb', htb', hwf, ⟨hdisp, -, -, hid⟩, -, hundam⟩ := TrackingBuffer.update_spec cc h.wf fb
  have hin : ∀ p, tb'.InDisplay p → r.tb.InDisplay p := by
    intro p hp
    simpa only [TrackingBuffer.InDisplay, hdisp] using hp
  refine ⟨{ r with tb := tb' }, ?_, ⟨hwf, ?_, h.ids, ?_, h.shows, fun p hp hd => ?_,
    fun data hdata p hp => h.lastCut data hdata p (hin p hp)⟩, rfl⟩
  · rw [Recording.step, htb']
    rfl
  · simp only [hdisp]
    exact h.size_eq
  · simp only [hid]
    exact h.ids_lt
  · obtain ⟨hnd, hsame⟩ := hundam p hd
    simp only [hsame]
    exact h.undamaged p (hin p hp) hnd

/-- A cut without damage changes nothing. -/
theorem Synced.cut_none {size : Size} {r : Recording} (h : Synced size r)
    (hd : r.tb.damage = .none) : Synced size ⟨r.tb, r.frames, some r.tb.data⟩ := by
  refine ⟨h.wf, h.size_eq, h.ids, h.ids_lt, h.shows, h.undamaged, fun data hdata p hp => ?_⟩
  cases hdata
  refine h.undamaged p hp ?_
  simp [TrackingBuffer.Damaged, hd]

/-- A cut with damage adds the newest frame, which shows every damaged pixel. -/
theorem Synced.cut_some {size : Size} {r : Recording} (h : Synced size r) {f : Frame}
    (hf : r.tb.Cuts f) :
    Synced size ⟨{ r.tb.clear with currFrameId := r.tb.currFrameId + 1 }, r.frames ++ [f],
      some r.tb.data⟩ := by
  have hnew : ∀ p, r.tb.InDisplay p →
      NewestShows (r.frames ++ [f]) p (Pixel24.assignElem (r.tb.data.get p.y p.x)) := by
    intro p hp
    have hlast : f ∈ r.frames ++ [f] := List.mem_append_right _ List.mem_cons_self
    by_cases hd : r.tb.Damaged p
    · refine ⟨f, hlast, (hf.covers p hp).mp hd, showsPixel_of_shows hf.shows p, fun g hg _ => ?_⟩
      rcases List.mem_append.mp hg with hg | hg
      · have := h.ids_lt g hg
        rw [hf.id_eq]
        omega
      · rw [List.mem_singleton.mp hg]
    · obtain ⟨g, hg, hcov, hshow, hmax⟩ := h.undamaged p hp hd
      refine ⟨g, List.mem_append_left _ hg, hcov, hshow, fun g' hg' hcov' => ?_⟩
      rcases List.mem_append.mp hg' with hg' | hg'
      · exact hmax g' hg' hcov'
      · rw [List.mem_singleton.mp hg'] at hcov'
        exact absurd ((hf.covers p hp).mpr hcov') hd
  refine ⟨TrackingBuffer.clear_wf h.wf _, h.size_eq, ?_, fun g hg => ?_, fun g hg => ?_,
    fun p hp _ => hnew p hp, fun data hdata p hp => ?_⟩
  · refine List.pairwise_append.mpr ⟨h.ids, List.pairwise_singleton _ _, fun g hg f' hf' => ?_⟩
    rw [List.mem_singleton.mp hf', hf.id_eq]
    exact h.ids_lt g hg
  · rcases List.mem_append.mp hg with hg | hg
    · exact Nat.lt_succ_of_lt (h.ids_lt g hg)
    · rw [List.mem_singleton.mp hg, hf.id_eq]
      exact Nat.lt_succ_self _
  · rcases List.mem_append.mp hg with hg | hg
    · exact h.shows g hg
    · rw [List.mem_singleton.mp hg]
      exact ⟨r.tb.data, h.wf.size_eq.trans h.size_eq, hf.shows⟩
  · cases hdata
    exact hnew p hp

/-- A cut keeps the invariant and records the contents of the buffer. -/
theorem Synced.cut (cc : ConnectedComponents) {size : Size} {r : Recording} (h : Synced size r) :
    ∃ r', r.step cc .cut = some r' ∧ Synced size r' ∧ r'.lastCut.isSome = true := by
  rcases TrackingBuffer.cutFrame_spec h.wf with ⟨hd, hcut⟩ | ⟨f, -, hf, hcut⟩
  · refine ⟨⟨r.tb, r.frames, some r.tb.data⟩, ?_, h.cut_none hd, rfl⟩
    simp [Recording.step, hcut]
  · refine ⟨_, ?_, h.cut_some hf, rfl⟩
    simp [Recording.step, hcut]

/-- **Every recording keeps the invariant**, never panics, and has a last cut as soon as it
contains one. -/
theorem Synced.run (cc : ConnectedComponents) {size : Size} :
    ∀ (ops : List Op) {r : Recording}, Synced size r →
      ∃ r', r.run cc ops = some r' ∧ Synced size r' ∧
        (.cut ∈ ops ∨ r.lastCut.isSome = true → r'.lastCut.isSome = true)
  | [], r, h => ⟨r, rfl, h, fun hc => by simpa using hc⟩
  | op :: ops, r, h => by
    have hstep : ∃ r₁, r.step cc op = some r₁ ∧ Synced size r₁ ∧
        (op = .cut ∨ r.lastCut.isSome = true → r₁.lastCut.isSome = true) := by
      cases op with
      | update fb =>
        obtain ⟨r₁, h₁, hs₁, hlast⟩ := h.update cc fb
        refine ⟨r₁, h₁, hs₁, fun hc => ?_⟩
        rw [hlast]
        rcases hc with hc | hc
        · cases hc
        · exact hc
      | cut =>
        obtain ⟨r₁, h₁, hs₁, hlast⟩ := h.cut cc
        exact ⟨r₁, h₁, hs₁, fun _ => hlast⟩
    obtain ⟨r₁, h₁, hs₁, hlast₁⟩ := hstep
    obtain ⟨r₂, h₂, hs₂, hlast₂⟩ := Synced.run cc ops hs₁
    refine ⟨r₂, ?_, hs₂, fun hc => hlast₂ ?_⟩
    · rw [Recording.run, List.foldlM_cons, h₁]
      exact h₂
    · rcases hc with hc | hc
      · rcases List.mem_cons.mp hc with hc | hc
        · exact Or.inr (hlast₁ (Or.inl hc.symm))
        · exact Or.inl hc
      · exact Or.inr (hlast₁ (Or.inr hc))

/-! ## Convergence -/

/-- Frames of different ids are different. -/
theorem eq_of_id_eq {frames : List Frame} (h : frames.Pairwise fun f g => f.id < g.id) {f g : Frame}
    (hf : f ∈ frames) (hg : g ∈ frames) (heq : f.id = g.id) : f = g := by
  obtain ⟨i, hi, rfl⟩ := List.mem_iff_getElem.mp hf
  obtain ⟨j, hj, rfl⟩ := List.mem_iff_getElem.mp hg
  rw [List.pairwise_iff_getElem] at h
  rcases lt_trichotomy i j with hij | hij | hij
  · have := h i j hi hj hij
    omega
  · subst hij
    rfl
  · have := h j i hj hi hij
    omega

/-- **The client's image converges.**  Whatever updates and cuts are made, in whatever order the
encodings complete and the draws are applied, the image shows the tracking buffer as it was at the
last cut. -/
theorem pixels_converge (cc : ConnectedComponents) (comp : Compressors) (codecs : Codecs)
    (displayId displayConfig : Nat) (display : Display) (areas : List Box2D)
    (hcover : ∀ p ∈ Box2D.fromSize display.area.size, ∃ a ∈ areas, p ∈ a)
    (ops : List Op) (hcut : .cut ∈ ops) :
    ∃ r data, (Recording.start displayId display displayConfig).run cc ops = some r ∧
      r.lastCut = some data ∧
      ∀ completed : Frame → EncoderTask → List (SubframeBuffer Pixel24 × Box2D),
        (∀ f e, (completed f e).Perm (e.relevant f)) →
        ∃ draws, pipelineDraws comp codecs (rawEncoders areas) completed r.frames = some draws ∧
          ∀ order : List Draw, order.Perm draws → ∀ red green blue alpha : UInt8,
            ∃ img, (Image.withRgba display.area.size red green blue alpha).drawAll order = some img ∧
              ∀ p ∈ Box2D.fromSize display.area.size,
                Pixel24.assignElem (img.pixels.get p.y p.x) =
                  Pixel24.assignElem (data.get p.y p.x) := by
  obtain ⟨r, hrun, hsync, hlast⟩ :=
    Synced.run cc ops (start_synced displayId display displayConfig)
  obtain ⟨data, hdata⟩ := Option.isSome_iff_exists.mp (hlast (Or.inl hcut))
  refine ⟨r, data, hrun, hdata, fun completed hperm => ?_⟩
  have : Nonempty (Grid Pixel32) := ⟨data⟩
  choose! dataOf hdataOf using hsync.shows
  obtain ⟨draws, hdraws, hreg, hcov⟩ := pipelineDraws_spec comp codecs hcover hperm hdataOf
  refine ⟨draws, hdraws, fun order horder red green blue alpha => ?_⟩
  obtain ⟨img, himg, -, hat⟩ := Image.drawAll_spec order
    (Image.withRgba_sized display.area.size red green blue alpha)
    fun d hd => (hreg d (horder.mem_iff.mp hd)).1
  refine ⟨img, himg, fun p hp => ?_⟩
  have hpd : r.tb.InDisplay p := by
    rw [Box2D.mem_def] at hp
    rw [TrackingBuffer.InDisplay, hsync.size_eq]
    exact ⟨hp.1.2, hp.2.2⟩
  obtain ⟨f, hf, hfcov, hfshow, hfmax⟩ := hsync.lastCut data hdata p hpd
  -- the newest frame has a draw at the pixel, so the register holds a draw of a frame at least as new
  obtain ⟨d, hd, hdframe, hdp⟩ := hcov f hf p hp hfcov
  have hwrite : (⟨d.frame, Pixel32.fromPixel24 (d.pixels.get (p.y - d.origin.y) (p.x - d.origin.x))⟩ :
      Stamped Nat Pixel32) ∈ order.filterMap (Draw.writeAt p) :=
    List.mem_filterMap.mpr ⟨d, horder.mem_iff.mpr hd, if_pos hdp⟩
  rcases foldl_write_spec (order.filterMap (Draw.writeAt p))
    ((Image.withRgba display.area.size red green blue alpha).pixelAt p) with
    ⟨-, hold⟩ | ⟨hmem, -, hmax⟩
  · exact absurd (hold _ hwrite) (Nat.not_lt_zero _)
  · rw [← hat p] at hmem hmax
    obtain ⟨d', hd', hw'⟩ := List.mem_filterMap.mp hmem
    obtain ⟨-, g, hg, i, hgreg, hgcov⟩ := hreg d' (horder.mem_iff.mp hd')
    unfold Draw.writeAt at hw'
    split at hw'
    · rename_i hpd'
      have hpat := (Option.some.inj hw').symm
      have hstamp : (img.pixelAt p).stamp = d'.frame := congrArg Stamped.stamp hpat
      have hvalue : img.pixels.get p.y p.x = _ := congrArg Stamped.value hpat
      rw [hgreg.area_eq] at hpd'
      have hle := hfmax g hg (hgcov p hpd')
      have hge := hmax _ hwrite
      rw [hstamp, hgreg.frame_eq] at hge
      simp only [hdframe] at hge
      have hgf : g = f := eq_of_id_eq hsync.ids hg hf (by omega)
      rw [hgf] at hgreg
      obtain ⟨b, hb, hpb⟩ := hfcov
      have hcolour := showsPixel_of_shows (hdataOf f hf).2 p b hb hpb
      rw [hvalue, Pixel24.assignElem_fromPixel24, hgreg.shows p hpd', ← hcolour]
      exact hfshow b hb hpb
    · cases hw'

/-- Two encoders share a display of two pixels, and one update covers the areas of both. -/
theorem pixels_converge_straddling :
    ∃ r data, (Recording.start 0 ⟨⟨⟨0, 0⟩, ⟨2, 1⟩⟩, true⟩ 0).run oneComponent
        [.cut, .update ⟨⟨0, 0⟩, ⟨1, 2, fun _ x => ⟨UInt8.ofNat x, 2, 3, 4⟩⟩⟩, .cut] = some r ∧
      r.lastCut = some data ∧
      ∀ completed : Frame → EncoderTask → List (SubframeBuffer Pixel24 × Box2D),
        (∀ f e, (completed f e).Perm (e.relevant f)) →
        ∃ draws, pipelineDraws noCompressors rawOnly
            (rawEncoders [⟨⟨0, 0⟩, ⟨1, 1⟩⟩, ⟨⟨1, 0⟩, ⟨2, 1⟩⟩]) completed r.frames = some draws ∧
          ∀ order : List Draw, order.Perm draws → ∀ red green blue alpha : UInt8,
            ∃ img, (Image.withRgba ⟨2, 1⟩ red green blue alpha).drawAll order = some img ∧
              ∀ p ∈ Box2D.fromSize ⟨2, 1⟩,
                Pixel24.assignElem (img.pixels.get p.y p.x) =
                  Pixel24.assignElem (data.get p.y p.x) := by
  have hcover : ∀ p ∈ Box2D.fromSize ⟨2, 1⟩,
      ∃ a ∈ ([⟨⟨0, 0⟩, ⟨1, 1⟩⟩, ⟨⟨1, 0⟩, ⟨2, 1⟩⟩] : List Box2D), p ∈ a := by
    intro p hp
    simp only [Box2D.mem_def, Box2D.fromSize, Point.zero] at hp
    by_cases hx : p.x = 0
    · exact ⟨_, List.mem_cons_self, by rw [Box2D.mem_def]; simp only; omega⟩
    · exact ⟨_, List.mem_cons_of_mem _ List.mem_cons_self, by rw [Box2D.mem_def]; simp only; omega⟩
  exact pixels_converge oneComponent noCompressors rawOnly 0 0 ⟨⟨⟨0, 0⟩, ⟨2, 1⟩⟩, true⟩
    [⟨⟨0, 0⟩, ⟨1, 1⟩⟩, ⟨⟨1, 0⟩, ⟨2, 1⟩⟩] hcover _ List.mem_cons_self

end ApertureC
