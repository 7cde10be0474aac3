import ApertureC.ServerRest

/-!
# Frames on their way to the encoders

The frame channels between the frame tasks and the encoders
(`aperturec-server/src/task/frame_sync.rs`, `task/encoder.rs`), across changes of the displays: a
task reserves its permits one by one and keeps them while it waits, sends with those that it has,
and permits can be revoked before they are used.

* `cutFor`, `sentFor` — the frames of a display that have been cut, and those that have been sent.
* `sentTo`, `encodedBy` — the frames sent to an encoder and those that it has encoded.
* `Delivered` — what holds of the channels.

Principal result: `frames_delivered` (**a display's frames are sent once each in the order of the
cuts, and every encoder encodes the frames sent to it once each, in order; no channel holds more
than one frame or permit, and no permit is held twice**), in every state of every run.
-/

set_option autoImplicit false

namespace ApertureC

open Geometry

namespace Server

/-- The frames of a display that have been cut, the oldest first. -/
def cutFor (s : Server) (d : Nat) : List Frame :=
  s.cuts.filter fun f => f.display = d

/-- The frames of a display that its task has sent, the oldest first, whatever permits it had. -/
def sentFor (s : Server) (d : Nat) : List Frame :=
  (s.sent.map Prod.fst).filter fun f => f.display = d

/-- The frames sent to an encoder, the oldest first. -/
def sentTo (s : Server) (e : Nat) : List Frame :=
  (s.sent.filter fun x => e ∈ x.2).map Prod.fst

/-- The frames that an encoder has encoded, the oldest first. -/
def encodedBy (s : Server) (e : Nat) : List Frame :=
  (s.produced.filter fun p => p.encoder = e).map Production.frame

structure Delivered (s : Server) : Prop where
  handed : ∀ d, s.cutFor d = s.sentFor d ++ (s.displays d).task.frame.toList
  inOrder : ∀ e, s.sentTo e =
    s.encodedBy e ++ (s.encoders e).encoding.toList ++ (s.encoders e).frames
  capacity : ∀ e, (s.encoders e).frames.length + (s.encoders e).reserved ≤ 1
  held : ∀ d, ∀ e ∈ (s.displays d).task.permits,
    (s.encoders e).reserved = 1 ∧ (s.encoders e).frames = []
  alone : ∀ d d' e, e ∈ (s.displays d).task.permits → e ∈ (s.displays d').task.permits → d = d'

/-- The task holds no other permits, and the same frame. -/
def SameHold (task task' : FrameTask) : Prop :=
  (∀ e ∈ task'.permits, e ∈ task.permits) ∧ task'.frame = task.frame

theorem SameHold.refl (task : FrameTask) : SameHold task task := ⟨fun _ he => he, rfl⟩

/-- The channel of an encoder is as it was, and so is what it encodes. -/
def SameChannel (enc enc' : EncoderState) : Prop :=
  enc'.frames = enc.frames ∧ enc'.reserved = enc.reserved ∧ enc'.encoding = enc.encoding

theorem SameChannel.refl (enc : EncoderState) : SameChannel enc enc := ⟨rfl, rfl, rfl⟩

section Steps

variable {s s' : Server}

/-- A frame that a task is about to send is of its display. -/
theorem Delivered.display_eq (h : s.Delivered) {d : Nat} {f : Frame}
    (hf : f ∈ (s.displays d).task.frame) : f.display = d := by
  have hmem : f ∈ s.cutFor d := by
    rw [h.handed d]
    exact List.mem_append_right _ (Option.mem_toList.mpr hf)
  exact of_decide_eq_true (List.mem_filter.mp hmem).2

/-- A step that gives no permit and moves no frame. -/
theorem Delivered.congr (h : s.Delivered)
    (htasks : ∀ d, SameHold (s.displays d).task (s'.displays d).task)
    (hencoders : ∀ e, SameChannel (s.encoders e) (s'.encoders e))
    (hcuts : s'.cuts = s.cuts) (hsent : s'.sent = s.sent) (hproduced : s'.produced = s.produced) :
    s'.Delivered := by
  refine ⟨fun d => ?_, fun e => ?_, fun e => ?_, fun d e he => ?_, fun d d' e he he' => ?_⟩
  · unfold cutFor sentFor
    rw [hcuts, hsent, (htasks d).2]
    exact h.handed d
  · obtain ⟨hframes, -, hencoding⟩ := hencoders e
    unfold sentTo encodedBy
    rw [hsent, hproduced, hframes, hencoding]
    exact h.inOrder e
  · obtain ⟨hframes, hreserved, -⟩ := hencoders e
    rw [hframes, hreserved]
    exact h.capacity e
  · obtain ⟨hframes, hreserved, -⟩ := hencoders e
    rw [hframes, hreserved]
    exact h.held d e ((htasks d).1 e he)
  · exact h.alone d d' e ((htasks d).1 e he) ((htasks d').1 e he')

theorem delivered_setDisplay (h : s.Delivered) {d : Nat} {f : DisplayState → DisplayState}
    (hf : SameHold (s.displays d).task (f (s.displays d)).task) : (s.setDisplay d f).Delivered :=
  h.congr (setDisplay_forall (P := fun d' ds => SameHold (s.displays d').task ds.task)
    (fun _ => .refl _) hf) (fun _ => .refl _) rfl rfl rfl

theorem delivered_setEncoder (h : s.Delivered) {e : Nat} {f : EncoderState → EncoderState}
    (hf : ∀ enc, SameChannel enc (f enc)) : (s.setEncoder e f).Delivered := by
  refine h.congr (fun _ => .refl _) (fun e' => ?_) rfl rfl rfl
  rw [setEncoder_apply]
  split
  · exact hf _
  · exact .refl _

/-- A permit comes from a channel that is empty, so no other task holds it. -/
theorem delivered_reserved (h : s.Delivered) {d e : Nat} {txs reserved : List Nat} {waited : Bool}
    (ht : (s.displays d).task = .join txs reserved waited) (hnew : e ∉ reserved)
    (hempty : (s.encoders e).frames = []) (hfree : (s.encoders e).reserved = 0) :
    ((s.setEncoder e fun enc => { enc with reserved := 1 }).setDisplay d fun ds =>
      { ds with task := .join txs (e :: reserved) waited }).Delivered := by
  have hfresh : ∀ d', e ∉ (s.displays d').task.permits := by
    intro d' he
    have hone := (h.held d' e he).1
    rw [hfree] at hone
    cases hone
  have hpermits : ∀ d' e', e' ∈ (((s.setEncoder e fun enc =>
      { enc with reserved := 1 }).setDisplay d fun ds =>
        { ds with task := .join txs (e :: reserved) waited }).displays d').task.permits →
      (e' = e ∧ d' = d) ∨ (e' ≠ e ∧ e' ∈ (s.displays d').task.permits) := by
    intro d' e' he'
    by_cases hd : d' = d
    · rw [hd, setDisplay_self] at he'
      rcases List.mem_cons.mp he' with heq | he'
      · exact Or.inl ⟨heq, hd⟩
      · refine Or.inr ⟨fun heq => hnew (heq ▸ he'), ?_⟩
        rw [hd, ht]
        exact he'
    · rw [setDisplay_of_ne _ hd] at he'
      exact Or.inr ⟨fun heq => hfresh d' (heq ▸ he'), he'⟩
  refine ⟨fun d' => ?_, fun e' => ?_, fun e' => ?_, fun d' e' he' => ?_,
    fun d₁ d₂ e' he₁ he₂ => ?_⟩
  · have hframe : ∀ d', (((s.setEncoder e fun enc =>
        { enc with reserved := 1 }).setDisplay d fun ds =>
          { ds with task := .join txs (e :: reserved) waited }).displays d').task.frame =
            (s.displays d').task.frame :=
      setDisplay_forall (P := fun d' ds => ds.task.frame = (s.displays d').task.frame)
        (fun _ => rfl) (by rw [ht]; rfl)
    rw [hframe]
    exact h.handed d'
  · have hold := h.inOrder e'
    simp only [setDisplay, setEncoder_apply]
    split <;> exact hold
  · simp only [setDisplay, setEncoder_apply]
    split
    · rename_i heq
      rw [heq, hempty]
      exact le_refl _
    · exact h.capacity e'
  · simp only [setDisplay, setEncoder_apply]
    rcases hpermits d' e' he' with ⟨heq, -⟩ | ⟨hne, he⟩
    · rw [if_pos heq, heq]
      exact ⟨rfl, hempty⟩
    · rw [if_neg hne]
      exact h.held d' e' he
  · rcases hpermits d₁ e' he₁ with ⟨heq, hd₁⟩ | ⟨hne, hold₁⟩ <;>
      rcases hpermits d₂ e' he₂ with ⟨heq', hd₂⟩ | ⟨hne', hold₂⟩
    · rw [hd₁, hd₂]
    · exact absurd heq hne'
    · exact absurd heq' hne
    · exact h.alone d₁ d₂ e' hold₁ hold₂

/-- A frame task cuts a frame of its display. -/
theorem delivered_cut (h : s.Delivered) {d : Nat} {permits : List Nat}
    (ht : (s.displays d).task = .cut permits) {f : Frame} (hdisplay : f.display = d)
    {g : DisplayState → DisplayState} (hg : (g (s.displays d)).task = .send permits (some f)) :
    ((s.noteCut (some f)).setDisplay d g).Delivered := by
  have hpermits : ∀ d', (((s.noteCut (some f)).setDisplay d g).displays d').task.permits =
      (s.displays d').task.permits :=
    setDisplay_forall (P := fun d' ds => ds.task.permits = (s.displays d').task.permits)
      (fun _ => rfl) (by simp only [noteCut, hg, ht]; rfl)
  refine ⟨fun d' => ?_, h.inOrder, h.capacity, fun d' e he => ?_, fun d₁ d₂ e he₁ he₂ => ?_⟩
  · have hold := h.handed d'
    have hcut : ((s.noteCut (some f)).setDisplay d g).cutFor d' =
        s.cutFor d' ++ [f].filter fun f => f.display = d' := by
      simp [cutFor, setDisplay, noteCut, List.filter_append]
    change ((s.noteCut (some f)).setDisplay d g).cutFor d' = s.sentFor d' ++ _
    rw [hcut, hold]
    by_cases hd : d' = d
    · rw [hd, setDisplay_self, ht]
      simp only [noteCut, hg]
      simp [FrameTask.frame, hdisplay]
    · rw [setDisplay_of_ne _ hd]
      have hne : ¬ f.display = d' := fun heq => hd (heq.symm.trans hdisplay)
      simp [noteCut, hne]
  · rw [hpermits] at he
    exact h.held d' e he
  · rw [hpermits] at he₁ he₂
    exact h.alone d₁ d₂ e he₁ he₂

theorem sentTo_sendFrame (s : Server) (permits : List Nat) (frame : Option Frame) (e : Nat) :
    (s.sendFrame permits frame).sentTo e =
      s.sentTo e ++ if e ∈ permits then frame.toList else [] := by
  unfold sentTo sendFrame
  rw [List.filter_append, List.map_append]
  cases frame with
  | none => simp
  | some f =>
    by_cases hmem : e ∈ permits <;> simp [hmem]

theorem sentFor_sendFrame (s : Server) (permits : List Nat) (frame : Option Frame) (d : Nat) :
    (s.sendFrame permits frame).sentFor d =
      s.sentFor d ++ frame.toList.filter fun f => f.display = d := by
  unfold sentFor sendFrame
  rw [List.map_append, List.filter_append]
  cases frame <;> simp

/-- A frame task uses its permits, or they are revoked: no other task has them. -/
theorem delivered_release (h : s.Delivered) {d : Nat} {permits : List Nat} {frame : Option Frame}
    (hpermits : (s.displays d).task.permits = permits)
    (hframe : (s.displays d).task.frame = frame) {f : DisplayState → DisplayState} {revoked : Bool}
    (hf : (f (s.displays d)).task = .clone revoked) :
    ((s.sendFrame permits frame).setDisplay d f).Delivered := by
  have hother : ∀ d', d' ≠ d → ∀ e ∈ (s.displays d').task.permits, e ∉ permits :=
    fun d' hd e he hmem => hd (h.alone d' d e he (hpermits ▸ hmem))
  have hold : ∀ d', ∀ e ∈ (((s.sendFrame permits frame).setDisplay d f).displays d').task.permits,
      d' ≠ d ∧ e ∈ (s.displays d').task.permits := by
    intro d' e he
    by_cases hd : d' = d
    · rw [hd, setDisplay_self] at he
      have hnone : e ∈ (f (s.displays d)).task.permits := he
      rw [hf] at hnone
      cases hnone
    · rw [setDisplay_of_ne _ hd] at he
      exact ⟨hd, he⟩
  refine ⟨fun d' => ?_, fun e => ?_, fun e => ?_, fun d' e he => ?_, fun d₁ d₂ e he₁ he₂ => ?_⟩
  · have hsent := sentFor_sendFrame s permits frame d'
    change s.cutFor d' = (s.sendFrame permits frame).sentFor d' ++ _
    rw [hsent, h.handed d']
    have hdisplay : ∀ g ∈ frame.toList, g.display = d := fun g hg =>
      h.display_eq (hframe ▸ Option.mem_toList.mp hg)
    by_cases hd : d' = d
    · have hall : frame.toList.filter (fun f => f.display = d) = frame.toList :=
        List.filter_eq_self.mpr fun g hg => decide_eq_true (hdisplay g hg)
      rw [hd, setDisplay_self, hframe, hall]
      simp only [sendFrame, hf, FrameTask.frame, Option.toList_none, List.append_nil]
    · have hnone : frame.toList.filter (fun f => f.display = d') = [] :=
        List.filter_eq_nil_iff.mpr fun g hg heq =>
          hd ((of_decide_eq_true heq).symm.trans (hdisplay g hg))
      rw [setDisplay_of_ne _ hd, hnone, List.append_nil]
      rfl
  · have hsent := sentTo_sendFrame s permits frame e
    change (s.sendFrame permits frame).sentTo e = _
    rw [hsent, h.inOrder e]
    simp only [setDisplay, sendFrame, encodedBy]
    split
    · rw [List.append_assoc]
    · rw [List.append_nil]
  · simp only [setDisplay, sendFrame]
    split
    · rename_i hmem
      rw [(h.held d e (hpermits ▸ hmem)).2, List.nil_append]
      exact Option.length_toList_le
    · exact h.capacity e
  · obtain ⟨hd, he⟩ := hold d' e he
    simp only [setDisplay, sendFrame, if_neg (hother d' hd e he)]
    exact h.held d' e he
  · exact h.alone d₁ d₂ e (hold d₁ e he₁).2 (hold d₂ e he₂).2

/-- Revoking permits is using them for no frame. -/
theorem setReserved_zero (s : Server) (permits : List Nat) :
    s.setReserved permits 0 = s.sendFrame permits none := by
  simp [setReserved, sendFrame]

theorem delivered_frame (h : s.Delivered) (hid : ∀ d, (s.displays d).tb.displayId = d) {d : Nat}
    (hmove : s.FrameMove d s') : s'.Delivered := by
  cases hmove with
  | clone revoked ht =>
    refine delivered_setDisplay h ⟨nofun, ?_⟩
    rw [ht]
    rfl
  | reserved e txs reserved waited ht hmem hnew he hempty hfree =>
    exact delivered_reserved h ht hnew hempty hfree
  | joined txs reserved ht hall =>
    refine delivered_setDisplay h ?_
    rw [ht]
    exact ⟨hall, rfl⟩
  | revoke permits ht =>
    rw [setReserved_zero]
    exact delivered_release h (by rw [ht]; rfl) (by rw [ht]; rfl) rfl
  | waited _ _ _ ht | check _ ht | undamaged _ ht =>
    refine delivered_setDisplay h ?_
    rw [ht]
    exact ⟨fun _ he => he, rfl⟩
  | cut permits f ht hcuts => exact delivered_cut h ht (hcuts.display_eq.trans (hid d)) rfl
  | send permits frame ht => exact delivered_release h (by rw [ht]; rfl) (by rw [ht]; rfl) rfl

/-- The encoder takes the oldest frame of its channel. -/
theorem delivered_takeFrame (h : s.Delivered) {e : Nat} (hs : s.takeFrame e = some s') :
    s'.Delivered := by
  obtain ⟨-, hencoding, frame, rest, hframes, rfl⟩ := takeFrame_spec hs
  refine ⟨h.handed, fun e' => ?_, fun e' => ?_, fun d e' he => ?_, h.alone⟩
  · have hold := h.inOrder e'
    change s.sentTo e' = s.encodedBy e' ++ _ ++ _
    simp only [setEncoder_apply]
    by_cases he : e' = e
    · rw [he, hencoding, hframes] at hold
      rw [if_pos he, he, hold]
      simp
    · rw [if_neg he]
      exact hold
  · have hold := h.capacity e'
    simp only [setEncoder_apply]
    by_cases he : e' = e
    · rw [he, hframes, List.length_cons] at hold
      rw [if_pos he, he]
      simp only
      omega
    · rw [if_neg he]
      exact hold
  · obtain ⟨hreserved, hempty⟩ := h.held d e' he
    simp only [setEncoder_apply]
    by_cases he' : e' = e
    · rw [he', hframes] at hempty
      cases hempty
    · rw [if_neg he']
      exact ⟨hreserved, hempty⟩

/-- The encoder encodes the frame that it has taken. -/
theorem delivered_encode {comp : Compressors} (h : s.Delivered) {e : Nat} {order : List Nat}
    (hs : s.encode comp e order = some s') : s'.Delivered := by
  obtain ⟨-, frame, parts, messages, hencoding, -, rfl⟩ := encode_spec hs
  have hkept : ∀ e',
      ((s.setEncoder e fun enc => { enc with encoding := none }).encoders e').frames =
        (s.encoders e').frames ∧
      ((s.setEncoder e fun enc => { enc with encoding := none }).encoders e').reserved =
        (s.encoders e').reserved := by
    intro e'
    rw [setEncoder_apply]
    split <;> exact ⟨rfl, rfl⟩
  refine ⟨h.handed, fun e' => ?_, fun e' => ?_, fun d e' he => ?_, h.alone⟩
  · have hold := h.inOrder e'
    simp only [sentTo, encodedBy, setEncoder_apply] at hold ⊢
    rw [List.filter_append, List.map_append]
    by_cases he : e' = e
    · rw [he, hencoding] at hold
      simp [he, setEncoder, hold]
    · have hne : ¬ e = e' := fun heq => he heq.symm
      simp [he, hne, setEncoder, hold]
  · rw [(hkept e').1, (hkept e').2]
    exact h.capacity e'
  · rw [(hkept e').1, (hkept e').2]
    exact h.held d e' he

theorem delivered_step {cc : ConnectedComponents} {comp : Compressors} (h : s.Delivered)
    (hwf : ∀ d, (s.displays d).tb.WF) (hid : ∀ d, (s.displays d).tb.displayId = d) {a : ServerAct}
    (hs : s.step cc comp a = some s') : s'.Delivered := by
  cases a with
  | displayEvent displays =>
    obtain ⟨-, -, rfl⟩ := displayEvent_spec hs
    exact h.congr (fun _ => .refl _) (fun _ => .refl _) rfl rfl rfl
  | displayEventFailed =>
    have hs' := displayEventFailed_spec hs
    subst hs'
    exact h.congr (fun _ => .refl _) (fun _ => .refl _) rfl rfl rfl
  | backend =>
    cases backendStep_move hs with
    | command l e command commands hb hroom =>
      have hset := delivered_setEncoder h (e := e)
        (f := fun enc => { enc with commands := [command] }) fun _ => ⟨rfl, rfl, rfl⟩
      exact hset.congr (fun _ => .refl _) (fun _ => .refl _) rfl rfl rfl
    | _ => exact h.congr (fun _ => .refl _) (fun _ => .refl _) rfl rfl rfl
  | config =>
    cases configStep_move hs with
    | resize l d display areas hc hget =>
      have hset := delivered_setDisplay h (d := d)
        (f := fun ds => { ds with tb := ds.tb.resize display l.configId }) (.refl _)
      exact hset.congr (fun _ => .refl _) (fun _ => .refl _) rfl rfl rfl
    | replace l d hc =>
      have hset := delivered_setDisplay h (d := d)
        (f := fun ds => { ds with txSubset := l.subset d, subsetConfig := l.configId }) (.refl _)
      exact hset.congr (fun _ => .refl _) (fun _ => .refl _) rfl rfl rfl
    | _ => exact h.congr (fun _ => .refl _) (fun _ => .refl _) rfl rfl rfl
  | frame d | reserved d | waited d =>
    exact delivered_frame h hid (frameTask_move (d := d) rfl hwf hs).2
  | update d fb =>
    obtain ⟨-, tb, -, rfl⟩ := update_spec hs
    exact delivered_setDisplay h (.refl _)
  | takeCommand e =>
    obtain ⟨-, -, command, rest, -, rfl⟩ := takeCommand_spec hs
    exact delivered_setEncoder h fun _ => ⟨rfl, rfl, rfl⟩
  | takeFrame e => exact delivered_takeFrame h hs
  | encode e order => exact delivered_encode h hs

end Steps

theorem delivered_init (maxEncoderCount : Nat) (scheme : Scheme)
    (displays : List (Display × List Box2D)) :
    (init maxEncoderCount scheme displays).Delivered :=
  ⟨fun _ => rfl, fun _ => rfl, fun _ => Nat.zero_le _, nofun, nofun⟩

/-- **Every frame cut is sent once on the permits of its task, in order, and every encoder encodes
the frames sent to it once each and in order**, with at most the newest ones still to be encoded, in
every state of every run; a frame task that holds a permit of a channel holds it alone, and finds
the channel empty. -/
theorem frames_delivered (cc : ConnectedComponents) (comp : Compressors) (maxEncoderCount : Nat)
    (scheme : Scheme) (displays : List (Display × List Box2D)) (as : List ServerAct) :
    Machine.Always (step cc comp) Delivered (init maxEncoderCount scheme displays) as := by
  have hboth : Machine.Always (step cc comp) (fun s => s.Framed ∧ s.Delivered)
      (init maxEncoderCount scheme displays) as := by
    refine Machine.always_of_invariant (fun s a s' h hs => ?_) as
      ⟨framed_init maxEncoderCount scheme displays, delivered_init maxEncoderCount scheme displays⟩
    exact ⟨framed_step h.1 hs, delivered_step h.2 (fun d => (h.1.displays d).synced.wf)
      (fun d => (h.1.displays d).id_eq) hs⟩
  exact hboth.mono fun s h => h.2

end Server

end ApertureC
