import ApertureC.DamageStream
import ApertureC.MediaPipeline

/-!
# What the frames of a display show

The frames that the frame tasks of `aperturec-server/src/task/frame_sync.rs` cut, across changes of
the displays: a tracking buffer numbers its frames from zero for every configuration, and frames of
older ones may still be on their way.  A task whose senders are none cuts frames as well, and sends
them to no encoder; what is said here is said of the frames cut.

* `framesOf` — the frames of a display cut since its tracking buffer was resized last.
* `DisplayFramed`, `Ahead`, `Framed` — those frames are a recording of the tracking buffer; a
  configuration on its way is newer than the tracking buffers that have not got it.
* `Shown` — what a pixel of a display comes to.

Principal results: `frames_show` (**the newest frame cut in its configuration shows a tracking
buffer wherever it is not damaged**) and `screen_shown` (every pixel of every enabled display is
shown by the newest frame cut, or damaged, or its damage is on its way), in every state of every
run.
-/

set_option autoImplicit false

namespace ApertureC

open Geometry

/-! ## The frames of a display -/

/-- The frame is of the display, in the configuration that its tracking buffer has. -/
def isCurrent (d : Nat) (ds : DisplayState) (f : Frame) : Bool :=
  decide (f.display = d ∧ f.displayConfig = ds.tb.displayConfig)

def framesOf (cuts : List Frame) (d : Nat) (ds : DisplayState) : List Frame :=
  cuts.filter (isCurrent d ds)

structure DisplayFramed (cuts : List Frame) (d : Nat) (ds : DisplayState) : Prop where
  id_eq : ds.tb.displayId = d
  cuts_le : ∀ f ∈ cuts, f.display = d → f.displayConfig ≤ ds.tb.displayConfig
  synced : Synced ds.tb.display.area.size ⟨ds.tb, framesOf cuts d ds, none⟩

/-- What was cut last does not matter. -/
theorem Synced.forget {size : Size} {tb : TrackingBuffer} {frames : List Frame}
    {lastCut : Option (Grid Pixel32)} (h : Synced size ⟨tb, frames, lastCut⟩) :
    Synced size ⟨tb, frames, none⟩ :=
  ⟨h.wf, h.size_eq, h.ids, h.ids_lt, h.shows, h.undamaged, nofun⟩

theorem synced_resize (tb : TrackingBuffer) (display : Display) (displayConfig : Nat) :
    Synced display.area.size ⟨tb.resize display displayConfig, [], none⟩ := by
  refine ⟨TrackingBuffer.resize_wf _ _ _, rfl, List.Pairwise.nil, nofun, nofun,
    fun p _ hp => ?_, nofun⟩
  exact absurd (TrackingBuffer.damaged_full rfl p) hp

section Display

variable {cuts : List Frame} {d : Nat} {ds ds' : DisplayState}

theorem isCurrent_iff {f : Frame} :
    isCurrent d ds f = true ↔ f.display = d ∧ f.displayConfig = ds.tb.displayConfig := by
  simp [isCurrent]

/-- The tracking buffer has not changed. -/
theorem DisplayFramed.congr (h : DisplayFramed cuts d ds) (htb : ds'.tb = ds.tb) :
    DisplayFramed cuts d ds' := by
  obtain ⟨hid, hcuts, hsynced⟩ := h
  have hframes : framesOf cuts d ds' = framesOf cuts d ds := by
    unfold framesOf isCurrent
    rw [htb]
  refine ⟨by rw [htb]; exact hid, by rw [htb]; exact hcuts, ?_⟩
  rw [hframes, htb]
  exact hsynced

theorem DisplayFramed.update {cc : ConnectedComponents} (h : DisplayFramed cuts d ds)
    {fb : SubframeBuffer Pixel32} {tb : TrackingBuffer} (htb : ds.tb.update cc fb = some tb) :
    DisplayFramed cuts d { ds with tb := tb } := by
  obtain ⟨tb', htb', -, ⟨hdisplay, hid, hconfig, -⟩, -⟩ :=
    TrackingBuffer.update_spec cc h.synced.wf fb
  obtain ⟨r, hr, hsynced, hlast⟩ := h.synced.update cc fb
  rw [htb] at htb'
  cases htb'
  rw [Recording.step, htb] at hr
  cases hr
  have hframes : framesOf cuts d { ds with tb := tb } = framesOf cuts d ds := by
    unfold framesOf isCurrent
    simp only [hconfig]
  refine ⟨hid.trans h.id_eq, by rw [hconfig]; exact h.cuts_le, ?_⟩
  rw [hframes, hdisplay]
  exact hsynced

/-- The frame that is cut is the newest. -/
theorem DisplayFramed.cut (h : DisplayFramed cuts d ds) {permits : List Nat} {f : Frame}
    (hcuts : ds.tb.Cuts f) :
    DisplayFramed (cuts ++ [f]) d
      { ds with
        tb := { ds.tb.clear with currFrameId := ds.tb.currFrameId + 1 }
        task := .send permits (some f) } := by
  have hnew : isCurrent d ds f = true :=
    isCurrent_iff.mpr ⟨hcuts.display_eq.trans h.id_eq, hcuts.displayConfig_eq⟩
  have hframes : framesOf (cuts ++ [f]) d
      { ds with
        tb := { ds.tb.clear with currFrameId := ds.tb.currFrameId + 1 }
        task := .send permits (some f) } = framesOf cuts d ds ++ [f] := by
    change (cuts ++ [f]).filter (isCurrent d ds) = _
    rw [List.filter_append, List.filter_singleton, hnew]
    rfl
  refine ⟨h.id_eq, fun g hg hgd => ?_, ?_⟩
  · rcases List.mem_append.mp hg with hg | hg
    · exact h.cuts_le g hg hgd
    · rw [List.mem_singleton.mp hg]
      exact hcuts.displayConfig_eq.le
  · rw [hframes]
    exact (h.synced.cut_some hcuts).forget

/-- A frame of another display is cut. -/
theorem DisplayFramed.cut_other (h : DisplayFramed cuts d ds) {f : Frame} (hne : f.display ≠ d) :
    DisplayFramed (cuts ++ [f]) d ds := by
  have hnot : isCurrent d ds f = false := by
    simp [isCurrent, hne]
  have hframes : framesOf (cuts ++ [f]) d ds = framesOf cuts d ds := by
    unfold framesOf
    rw [List.filter_append, List.filter_singleton, hnot]
    exact List.append_nil _
  refine ⟨h.id_eq, fun g hg hgd => ?_, ?_⟩
  · rcases List.mem_append.mp hg with hg | hg
    · exact h.cuts_le g hg hgd
    · rw [List.mem_singleton.mp hg] at hgd
      exact absurd hgd hne
  · rw [hframes]
    exact h.synced

/-- A newer configuration begins without frames. -/
theorem DisplayFramed.resize (h : DisplayFramed cuts d ds) (display : Display) {c : Nat}
    (hc : ds.tb.displayConfig < c) :
    DisplayFramed cuts d { ds with tb := ds.tb.resize display c } := by
  have hframes : framesOf cuts d { ds with tb := ds.tb.resize display c } = [] := by
    unfold framesOf
    rw [List.filter_eq_nil_iff]
    intro f hf hcur
    obtain ⟨hfd, hfc⟩ := isCurrent_iff.mp hcur
    have hle := h.cuts_le f hf hfd
    simp only [TrackingBuffer.resize] at hfc
    omega
  refine ⟨h.id_eq, fun f hf hfd => (h.cuts_le f hf hfd).trans hc.le, ?_⟩
  rw [hframes]
  exact synced_resize ds.tb display c

end Display

/-! ## The server's tasks -/

namespace Server

/-- From a display on, the tracking buffers have older configurations. -/
def Older (s : Server) (l : Layout) (n : Nat) : Prop :=
  l.configId ≤ s.displayConfigId ∧ ∀ d, n ≤ d → (s.displays d).tb.displayConfig < l.configId

/-- Configurations on their way are newer than the tracking buffers that have not got them. -/
structure Ahead (s : Server) : Prop where
  ids : ∀ d, (s.displays d).tb.displayConfig ≤ s.displayConfigId
  queued : ∀ l ∈ s.newDisplayConfigs, s.Older l 0
  resizing : ∀ l d, s.configTask = .resize l d → s.Older l d
  replacing : ∀ l d, s.configTask = .replace l d → s.Older l (d + 1)

structure Framed (s : Server) : Prop where
  displays : ∀ d, DisplayFramed s.cuts d (s.displays d)
  ahead : s.Ahead
  phase : s.Phase

/-- A tracking buffer that is not damaged is shown by the newest frame cut in its configuration. -/
def FramesShow (s : Server) : Prop :=
  ∀ d p, (s.displays d).tb.InDisplay p → ¬ (s.displays d).tb.Damaged p →
    NewestShows (framesOf s.cuts d (s.displays d)) p
      (Pixel24.assignElem ((s.displays d).tb.data.get p.y p.x))

section Steps

variable {s s' : Server}

theorem Framed.show (h : s.Framed) : s.FramesShow :=
  fun d p hp hd => (h.displays d).synced.undamaged p hp hd

theorem Older.mono {l : Layout} {n m : Nat} (h : s.Older l n) (hnm : n ≤ m)
    (hid : s.displayConfigId ≤ s'.displayConfigId)
    (hconfigs : ∀ d, m ≤ d →
      (s'.displays d).tb.displayConfig = (s.displays d).tb.displayConfig) : s'.Older l m :=
  ⟨h.1.trans hid, fun d hd => by rw [hconfigs d hd]; exact h.2 d (hnm.trans hd)⟩

/-- A step that neither resizes nor hands a configuration on. -/
theorem Ahead.congr (h : s.Ahead) (hid : s.displayConfigId ≤ s'.displayConfigId)
    (hconfigs : ∀ d, (s'.displays d).tb.displayConfig = (s.displays d).tb.displayConfig)
    (hnew : s'.newDisplayConfigs = s.newDisplayConfigs) (htask : s'.configTask = s.configTask) :
    s'.Ahead := by
  refine ⟨fun d => ?_, fun l hl => ?_, fun l d hc => ?_, fun l d hc => ?_⟩
  · rw [hconfigs]
    exact (h.ids d).trans hid
  · rw [hnew] at hl
    exact (h.queued l hl).mono (le_refl _) hid fun d _ => hconfigs d
  · rw [htask] at hc
    exact (h.resizing l d hc).mono (le_refl _) hid fun d _ => hconfigs d
  · rw [htask] at hc
    exact (h.replacing l d hc).mono (le_refl _) hid fun d _ => hconfigs d

theorem framed_displayEvent (h : s.Framed) {displays : List (Display × List Box2D)}
    (hs : s.displayEvent displays = some s') : s'.Framed := by
  have hphase := (displayEvent_phase h.phase hs).1
  obtain ⟨-, -, rfl⟩ := displayEvent_spec hs
  refine ⟨h.displays, ⟨fun d => (h.ahead.ids d).trans (Nat.le_succ _), fun l hl => ?_,
    fun l d hc => (h.ahead.resizing l d hc).mono (le_refl _) (Nat.le_succ _) fun _ _ => rfl,
    fun l d hc => (h.ahead.replacing l d hc).mono (le_refl _) (Nat.le_succ _) fun _ _ => rfl⟩,
    hphase⟩
  rw [List.mem_singleton.mp hl]
  exact ⟨le_refl _, fun d _ => Nat.lt_succ_of_le (h.ahead.ids d)⟩

theorem framed_backend (h : s.Framed) (hs : s.backendStep = some s') : s'.Framed := by
  have hphase := (backendStep_phase h.phase hs).1
  cases backendStep_move hs <;>
    exact ⟨h.displays, h.ahead.congr (le_refl _) (fun _ => rfl) rfl rfl, hphase⟩

/-- A tracking buffer is resized to a configuration that is newer than its frames. -/
theorem framed_config (h : s.Framed) (hs : s.configStep = some s') : s'.Framed := by
  have hphase := (configStep_phase h.phase hs).1
  cases configStep_move hs with
  | refuse l rest e hc hnew hcheck =>
    refine ⟨h.displays, ⟨h.ahead.ids, fun l' hl => ?_, nofun, nofun⟩, hphase⟩
    exact h.ahead.queued l' (hnew ▸ List.mem_cons_of_mem _ hl)
  | accept l rest hc hnew hcheck =>
    refine ⟨h.displays, ⟨h.ahead.ids, fun l' hl => ?_, fun l' d hc' => ?_, nofun⟩, hphase⟩
    · exact h.ahead.queued l' (hnew ▸ List.mem_cons_of_mem _ hl)
    · cases hc'
      exact h.ahead.queued l (hnew ▸ List.mem_cons_self)
  | finish l d hc hnone => exact ⟨h.displays, ⟨h.ahead.ids, h.ahead.queued, nofun, nofun⟩, hphase⟩
  | resize l d display areas hc hget =>
    obtain ⟨hle, hlt⟩ := h.ahead.resizing l d hc
    have hnone := h.phase.resizing (Or.inl hc)
    have hframed : ∀ d', DisplayFramed s.cuts d' ((s.setDisplay d fun ds =>
        { ds with tb := ds.tb.resize display l.configId }).displays d') :=
      setDisplay_forall h.displays ((h.displays d).resize display (hlt d (le_refl d)))
    have hids : ∀ d', ((s.setDisplay d fun ds =>
        { ds with tb := ds.tb.resize display l.configId }).displays d').tb.displayConfig ≤
          s.displayConfigId :=
      setDisplay_forall (P := fun _ ds => ds.tb.displayConfig ≤ s.displayConfigId) h.ahead.ids hle
    refine ⟨hframed, ⟨hids, fun l' hl => ?_, nofun, fun l' d' hc' => ?_⟩, hphase⟩
    · simp only [setDisplay, hnone] at hl
      cases hl
    · cases hc'
      refine ⟨hle, fun d' hd' => ?_⟩
      simp only [setDisplay_of_ne s (show d' ≠ d by omega)]
      exact hlt d' (by omega)
  | replace l d hc =>
    obtain ⟨hle, hlt⟩ := h.ahead.replacing l d hc
    have hnone := h.phase.resizing (Or.inr hc)
    have hsame : ∀ d', ((s.setDisplay d fun ds =>
        { ds with txSubset := l.subset d, subsetConfig := l.configId }).displays d').tb =
          (s.displays d').tb :=
      setDisplay_forall (P := fun d' ds => ds.tb = (s.displays d').tb) (fun _ => rfl) rfl
    have hframed : ∀ d', DisplayFramed s.cuts d' ((s.setDisplay d fun ds =>
        { ds with txSubset := l.subset d, subsetConfig := l.configId }).displays d') :=
      setDisplay_forall h.displays ((h.displays d).congr rfl)
    refine ⟨hframed, ⟨fun d' => ?_, fun l' hl => ?_, fun l' d' hc' => ?_, nofun⟩, hphase⟩
    · simp only [hsame]
      exact h.ahead.ids d'
    · simp only [setDisplay, hnone] at hl
      cases hl
    · cases hc'
      refine ⟨hle, fun d' hd' => ?_⟩
      simp only [hsame]
      exact hlt d' hd'
  | signal l hc => exact ⟨h.displays, ⟨h.ahead.ids, h.ahead.queued, nofun, nofun⟩, hphase⟩

/-- The frame task of a display cuts its own frames. -/
theorem framed_frame (h : s.Framed) {d : Nat} (hmove : s.FrameMove d s') : s'.Framed := by
  have hsame := hmove.same.1
  have hphase := hsame.phase h.phase
  have hahead : s'.Ahead :=
    h.ahead.congr hmove.displayConfig.1.ge hmove.displayConfig.2 hsame.configs hsame.configTask
  cases hmove with
  | cut permits f ht hcuts =>
    refine ⟨fun d' => ?_, hahead, hphase⟩
    by_cases hd : d' = d
    · rw [hd, setDisplay_self]
      exact (h.displays d).cut hcuts
    · rw [setDisplay_of_ne _ hd]
      refine (h.displays d').cut_other fun hfd => hd ?_
      rw [← hfd, hcuts.display_eq, (h.displays d).id_eq]
  | _ => exact ⟨setDisplay_forall h.displays ((h.displays d).congr rfl), hahead, hphase⟩

theorem framed_update {cc : ConnectedComponents} (h : s.Framed) {d : Nat}
    {fb : SubframeBuffer Pixel32} (hs : s.update cc d fb = some s') : s'.Framed := by
  obtain ⟨-, tb, htb, rfl⟩ := update_spec hs
  obtain ⟨tb', htb', -, ⟨hdisplay, -, hconfig, -⟩, -⟩ :=
    TrackingBuffer.update_spec cc (h.displays d).synced.wf fb
  rw [htb] at htb'
  cases htb'
  refine ⟨setDisplay_forall h.displays ((h.displays d).update htb),
    h.ahead.congr (le_refl _) ?_ rfl rfl, (SameConfig.setBuffer s hdisplay).phase h.phase⟩
  exact setDisplay_forall
    (P := fun d' ds => ds.tb.displayConfig = (s.displays d').tb.displayConfig) (fun _ => rfl) hconfig

theorem framed_step {cc : ConnectedComponents} {comp : Compressors} (h : s.Framed) {a : ServerAct}
    (hs : s.step cc comp a = some s') : s'.Framed := by
  have hwf : ∀ d, (s.displays d).tb.WF := fun d => (h.displays d).synced.wf
  cases a with
  | displayEvent displays => exact framed_displayEvent h hs
  | displayEventFailed =>
    have hphase := (displayEventFailed_same hs).1.phase h.phase
    have hs' := displayEventFailed_spec hs
    subst hs'
    exact ⟨h.displays, h.ahead.congr (Nat.le_succ _) (fun _ => rfl) rfl rfl, hphase⟩
  | backend => exact framed_backend h hs
  | config => exact framed_config h hs
  | frame d | reserved d | waited d =>
    exact framed_frame h (frameTask_move (d := d) rfl hwf hs).2
  | update d fb => exact framed_update h hs
  | takeCommand e =>
    have hphase := (takeCommand_same hs).1.phase h.phase
    obtain ⟨-, -, command, rest, -, rfl⟩ := takeCommand_spec hs
    exact ⟨h.displays, h.ahead.congr (le_refl _) (fun _ => rfl) rfl rfl, hphase⟩
  | takeFrame e =>
    have hphase := (takeFrame_same hs).1.phase h.phase
    obtain ⟨-, -, frame, rest, -, rfl⟩ := takeFrame_spec hs
    exact ⟨h.displays, h.ahead.congr (le_refl _) (fun _ => rfl) rfl rfl, hphase⟩
  | encode e order =>
    have hphase := (encode_same hs).1.phase h.phase
    obtain ⟨-, frame, parts, messages, -, -, rfl⟩ := encode_spec hs
    exact ⟨h.displays, h.ahead.congr (le_refl _) (fun _ => rfl) rfl rfl, hphase⟩

end Steps

theorem framed_init (maxEncoderCount : Nat) (scheme : Scheme)
    (displays : List (Display × List Box2D)) : (init maxEncoderCount scheme displays).Framed := by
  refine ⟨fun d => ⟨rfl, nofun, ?_⟩, ⟨fun d => le_refl _, nofun, nofun, nofun⟩, ⟨rfl, rfl⟩⟩
  exact start_synced d _ 0

/-- **The newest frame cut in its configuration shows a tracking buffer wherever it is not
damaged**, in every state of every run, across all changes of the displays. -/
theorem frames_show (cc : ConnectedComponents) (comp : Compressors) (maxEncoderCount : Nat)
    (scheme : Scheme) (displays : List (Display × List Box2D)) (as : List ServerAct) :
    Machine.Always (step cc comp) FramesShow (init maxEncoderCount scheme displays) as := by
  apply Machine.Always.mono (fun s h => Framed.show h)
  exact Machine.always_of_invariant (fun s a s' h hs => framed_step h hs) as
    (framed_init maxEncoderCount scheme displays)

end Server

/-! ## The whole way -/

namespace Desktop

/-- A pixel of an enabled display is shown by the newest frame cut as the framebuffer has it, or a
frame that will show it has still to be cut, or its damage is on its way. -/
def Shown (s : Desktop) : Prop :=
  ∀ d, d < s.server.displayCount → (s.server.displays d).tb.display.isEnabled = true →
    ∀ p, (s.server.displays d).tb.InDisplay p →
      NewestShows (framesOf s.server.cuts d (s.server.displays d)) p
          (Pixel24.assignElem (s.framebuffer (onScreen (s.server.displays d).tb.display p))) ∨
        (s.server.displays d).tb.Damaged p ∨
        s.Pending d (onScreen (s.server.displays d).tb.display p)

theorem Tracked.shown {s : Desktop} (h : s.Tracked) (hframed : s.server.Framed) : s.Shown := by
  intro d hd hon p hp
  by_cases hdamaged : (s.server.displays d).tb.Damaged p
  · exact Or.inr (Or.inl hdamaged)
  · rcases h d hd hon p hp with hsame | hpending
    · rw [← hsame]
      exact Or.inl (hframed.show d p hp hdamaged)
    · exact Or.inr (Or.inr hpending)

section Runs

variable {limit : Size} {cc : ConnectedComponents} {comp : Compressors}

theorem framed_step {s s' : Desktop} {a : Act} (h : s.server.Framed)
    (hs : s.step limit cc comp a = some s') : s'.server.Framed := by
  rcases step_server limit cc comp hs with heq | ⟨b, hb, -⟩
  · rw [heq]
    exact h
  · exact Server.framed_step h hb

/-- **Every pixel of every enabled display is shown by the newest frame cut in the configuration as
the framebuffer has it, or damaged, or its damage is on its way**, in every state of every run in
which the X server accepts the damage of display events. -/
theorem screen_shown (cc : ConnectedComponents) (comp : Compressors) (hsmall : Small limit)
    {extent : Size} (maxEncoderCount : Nat) (scheme : Scheme)
    {displays : List (Display × List Box2D)} (hin : InLimit limit (displays.map Prod.fst))
    (hextent : deriveExtent (displays.map Prod.fst) = some extent)
    (framebuffer : Point → Pixel32) {as : List Act}
    (hG : Machine.Guarded (step limit cc comp) Damages
      (start limit extent maxEncoderCount scheme displays framebuffer) as) :
    Machine.Always (step limit cc comp) Shown
      (start limit extent maxEncoderCount scheme displays framebuffer) as := by
  have hinv : Machine.Always (step limit cc comp) (fun s => Inv limit s ∧ s.server.Framed)
      (start limit extent maxEncoderCount scheme displays framebuffer) as :=
    hG.always (fun s a s' h hdamages hs =>
        ⟨inv_step hsmall h.1 hdamages hs, framed_step h.2 hs⟩)
      ⟨inv_start hsmall hin hextent framebuffer,
        Server.framed_init maxEncoderCount scheme displays⟩
  exact hinv.mono fun s h => h.1.tracked.shown h.2

end Runs

theorem screen_shown_pair :
    Machine.Always (step ⟨4, 1⟩ oneComponent noCompressors) Shown pair enableAndDraw :=
  screen_shown oneComponent noCompressors (by decide) 2 .raw (by decide)
    (by decide) _ (by decide +kernel)

end Desktop

end ApertureC
