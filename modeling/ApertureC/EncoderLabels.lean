import ApertureC.FrameRouting

/-!
# Labels of media messages and the geometry of their encoder

Commands and frames reach an encoder on two queues that are filled by different tasks.

* `EncoderAssigned` — the id and area that a configuration gives an encoder.
* `Server.Labelled` — every message is labelled with a configuration that gave its encoder the id
  and area it was produced with.
* `Server.FrameAligned` — an encoder takes a frame of a configuration only when the last command it
  has taken is that configuration's.

Principal results: `encodeFrame_displayConfig` (a message's label is its frame's),
`labelInv_step` and `always_labelled_of_frameAligned` (labels are right along every run whose frames
are taken in line with the commands); `labelled_fails` is a run in which they are not.
-/

set_option autoImplicit false

namespace ApertureC

open Geometry

/-- Configuration `c` gives encoder `e` this id and area. -/
def EncoderAssigned (history : List Layout) (e c id : Nat) (area : Box2D) : Prop :=
  ∃ l, layoutOf history c = some l ∧ l.assignment[e]? = some (id, area)

/-- The frame's configuration is that of the last command, and its id fits the label. -/
def Fitting (enc : EncoderState) (f : Frame) : Prop :=
  enc.config = f.displayConfig ∧ f.displayConfig < 2 ^ 32

instance (enc : EncoderState) (f : Frame) : Decidable (Fitting enc f) :=
  inferInstanceAs (Decidable (_ ∧ _))

/-- The encoder's geometry, and that of every command on its way to it, is of a configuration. -/
structure EncoderOk (history : List Layout) (e : Nat) (enc : EncoderState) : Prop where
  task : EncoderAssigned history e enc.config enc.task.id enc.task.area
  commands : ∀ cmd ∈ enc.commands, EncoderAssigned history e cmd.config cmd.newId cmd.area
  encoding : ∀ f ∈ enc.encoding, Fitting enc f

namespace Server

/-- Every message is labelled with a configuration that gave its encoder the geometry it was
produced with. -/
def Labelled (s : Server) : Prop :=
  ∀ p ∈ s.produced, ∀ m ∈ p.messages,
    EncoderAssigned s.history p.encoder m.displayConfig p.task.id p.task.area

/-- A frame is taken after the command of its configuration and before the next, and its
configuration's id fits the label. -/
def FrameAligned (s : Server) : ServerAct → Prop
  | .takeFrame e => ∀ f ∈ (s.encoders e).frames.head?, Fitting (s.encoders e) f
  | _ => True

instance (s : Server) : ∀ a, Decidable (s.FrameAligned a)
  | .takeFrame e => inferInstanceAs (Decidable (∀ f ∈ (s.encoders e).frames.head?,
      Fitting (s.encoders e) f))
  | .displayEvent _ => inferInstanceAs (Decidable True)
  | .displayEventFailed => inferInstanceAs (Decidable True)
  | .backend => inferInstanceAs (Decidable True)
  | .config => inferInstanceAs (Decidable True)
  | .frame _ => inferInstanceAs (Decidable True)
  | .reserved _ _ => inferInstanceAs (Decidable True)
  | .waited _ _ => inferInstanceAs (Decidable True)
  | .update _ _ => inferInstanceAs (Decidable True)
  | .takeCommand _ => inferInstanceAs (Decidable True)
  | .encode _ _ => inferInstanceAs (Decidable True)

/-- The commands the backend has still to send. -/
def toSend (s : Server) : List (Nat × Reconfigure) :=
  match s.backend with
  | .reconfigure _ commands => commands
  | _ => []

structure LabelInv (s : Server) : Prop where
  ids : ∀ l ∈ s.history, l.configId ≤ s.displayConfigId
  toSend : ∀ x ∈ s.toSend, EncoderAssigned s.history x.1 x.2.config x.2.newId x.2.area
  encoders : ∀ e < s.encoderCount, EncoderOk s.history e (s.encoders e)
  labelled : s.Labelled

end Server

/-! ## Labels -/

theorem dispatch_displayConfig (enc : EncoderTask) (frame : Frame) (n : Nat) :
    ∀ (encodings : List (Except String (List UInt8 × Box2D))) (sequence : Nat),
      ∀ m ∈ enc.dispatch frame n sequence encodings, m.displayConfig = asU32 frame.displayConfig
  | [], _, m, hm => by cases hm
  | .ok (data, area) :: encodings, sequence, m, hm => by
    rcases List.mem_cons.mp hm with hm | hm
    · rw [hm]
      rfl
    · exact dispatch_displayConfig enc frame n encodings _ m hm
  | .error e :: encodings, sequence, m, hm => dispatch_displayConfig enc frame n encodings _ m hm

/-- Every message of a frame carries the frame's configuration. -/
theorem encodeFrame_displayConfig {comp : Compressors} {enc : EncoderTask} {frame : Frame}
    {completed : List (SubframeBuffer Pixel24 × Box2D)} {msgs : List MediaMessage}
    (h : enc.encodeFrame comp frame completed = some msgs) :
    ∀ m ∈ msgs, m.displayConfig = asU32 frame.displayConfig := by
  unfold EncoderTask.encodeFrame at h
  split at h
  · cases h
    intro m hm
    rw [List.mem_singleton.mp hm]
    rfl
  · simp only [Option.bind_eq_bind, Option.bind_eq_some_iff, Option.pure_def] at h
    obtain ⟨encodings, -, h⟩ := h
    cases h
    exact dispatch_displayConfig enc frame _ encodings 0

/-! ## Assignments -/

theorem length_assignment (l : Layout) : l.assignment.length = l.encoderCount := by
  simp [Layout.assignment, Layout.encoderCount, List.length_flatMap]

theorem EncoderAssigned.mono {history history' : List Layout} (h : Extends history history')
    {e c id : Nat} {area : Box2D} (ha : EncoderAssigned history e c id area) :
    EncoderAssigned history' e c id area := by
  obtain ⟨l, hl, hassign⟩ := ha
  exact ⟨l, h c l hl, hassign⟩

theorem EncoderOk.mono {history history' : List Layout} (h : Extends history history') {e : Nat}
    {enc : EncoderState} (ho : EncoderOk history e enc) : EncoderOk history' e enc :=
  ⟨ho.task.mono h, fun cmd hcmd => (ho.commands cmd hcmd).mono h, ho.encoding⟩

/-- An encoder's geometry and commands are as they were, and what it encodes. -/
def SameGeometry (enc enc' : EncoderState) : Prop :=
  enc'.task = enc.task ∧ enc'.commands = enc.commands ∧ enc'.config = enc.config ∧
    enc'.encoding = enc.encoding

theorem EncoderOk.congr {history : List Layout} {e : Nat} {enc enc' : EncoderState}
    (h : EncoderOk history e enc) (hsame : SameGeometry enc enc') : EncoderOk history e enc' := by
  obtain ⟨htask, hcommands, hconfig, hencoding⟩ := hsame
  refine ⟨?_, ?_, fun f hf => ?_⟩
  · rw [htask, hconfig]
    exact h.task
  · rw [hcommands]
    exact h.commands
  · unfold Fitting
    rw [hencoding] at hf
    rw [hconfig]
    exact h.encoding f hf

theorem mem_zip_range {α : Type} {n : Nat} {l : List α} {x : Nat × α}
    (h : x ∈ (List.range n).zip l) : l[x.1]? = some x.2 := by
  obtain ⟨i, hi⟩ := List.mem_iff_getElem?.mp h
  rw [List.getElem?_zip_eq_some] at hi
  obtain ⟨h₁, h₂⟩ := hi
  rw [List.getElem?_range] at h₁
  · cases h₁
    exact h₂
  · by_contra hge
    rw [List.getElem?_eq_none (by simpa using hge)] at h₁
    cases h₁

namespace Server

/-! ## The steps -/

theorem setReserved_sameGeometry (s : Server) (txs : List Nat) (n e : Nat) :
    SameGeometry (s.encoders e) ((s.setReserved txs n).encoders e) := by
  unfold setReserved
  simp only
  split
  · exact ⟨rfl, rfl, rfl, rfl⟩
  · exact ⟨rfl, rfl, rfl, rfl⟩

theorem sendFrame_sameGeometry (s : Server) (permits : List Nat) (frame : Option Frame) (e : Nat) :
    SameGeometry (s.encoders e) ((s.sendFrame permits frame).encoders e) := by
  unfold sendFrame
  simp only
  split
  · exact ⟨rfl, rfl, rfl, rfl⟩
  · exact ⟨rfl, rfl, rfl, rfl⟩

/-- A step that changes the geometry of no encoder. -/
theorem LabelInv.congr {s s' : Server} (h : s.LabelInv) (hhist : s'.history = s.history)
    (hid : s'.displayConfigId = s.displayConfigId) (hback : s'.backend = s.backend)
    (hcount : s'.encoderCount = s.encoderCount) (hprod : s'.produced = s.produced)
    (henc : ∀ e, SameGeometry (s.encoders e) (s'.encoders e)) : s'.LabelInv := by
  refine ⟨?_, ?_, ?_, ?_⟩
  · rw [hhist, hid]
    exact h.ids
  · unfold Server.toSend
    rw [hhist, hback]
    exact h.toSend
  · rw [hhist, hcount]
    exact fun e he => (h.encoders e he).congr (henc e)
  · unfold Labelled
    rw [hhist, hprod]
    exact h.labelled

/-- A step that changes one encoder. -/
theorem LabelInv.setEncoder {s s' : Server} (h : s.LabelInv) {e : Nat} {enc : EncoderState}
    (hhist : s'.history = s.history) (hid : s'.displayConfigId = s.displayConfigId)
    (hback : ∀ x ∈ s'.toSend, x ∈ s.toSend) (hcount : s'.encoderCount = s.encoderCount)
    (henc : s'.encoders = Function.update s.encoders e enc)
    (hok : e < s.encoderCount → EncoderOk s.history e enc) (hlab : s'.Labelled) : s'.LabelInv := by
  refine ⟨?_, ?_, fun e' he' => ?_, hlab⟩
  · rw [hhist, hid]
    exact h.ids
  · rw [hhist]
    exact fun x hx => h.toSend x (hback x hx)
  · rw [hcount] at he'
    rw [hhist, henc]
    by_cases heq : e' = e
    · subst heq
      rw [Function.update_self]
      exact hok he'
    · rw [Function.update_of_ne heq]
      exact h.encoders e' he'

theorem labelInv_displayEvent {s s' : Server} (h : s.LabelInv)
    {displays : List (Display × List Box2D)} (hs : s.displayEvent displays = some s') :
    s'.LabelInv := by
  obtain ⟨hids, hext, hnew⟩ := displayEvent_history h.ids hs
  obtain ⟨-, -, rfl⟩ := displayEvent_spec hs
  refine ⟨hids, fun x hx => ?_, fun e he => (h.encoders e he).mono hext,
    fun p hp m hm => (h.labelled p hp m hm).mono hext⟩
  obtain ⟨y, hy, rfl⟩ := List.mem_map.mp hx
  exact ⟨_, hnew, mem_zip_range hy⟩

theorem labelInv_backend {s s' : Server} (h : s.LabelInv) (hs : s.backendStep = some s') :
    s'.LabelInv := by
  cases backendStep_move hs with
  | reconfigured l hb => exact ⟨h.ids, nofun, h.encoders, h.labelled⟩
  | command l e command commands hb hroom =>
    have hsend : s.toSend = (e, command) :: commands := by simp [toSend, hb]
    refine h.setEncoder rfl rfl ?_ rfl rfl (fun he => ?_) h.labelled
    · intro x hx
      rw [hsend]
      exact List.mem_cons_of_mem _ hx
    · refine ⟨(h.encoders e he).task, fun cmd hcmd => ?_, (h.encoders e he).encoding⟩
      rw [List.mem_singleton.mp hcmd]
      exact h.toSend (e, command) (by rw [hsend]; exact List.mem_cons_self)
  | complete l hb hcompleted => exact ⟨h.ids, nofun, h.encoders, h.labelled⟩

/-- No step of a frame task changes an encoder's geometry. -/
theorem FrameMove.sameGeometry {s s' : Server} {d : Nat} (h : s.FrameMove d s') (e : Nat) :
    SameGeometry (s.encoders e) (s'.encoders e) := by
  cases h with
  | reserved e' =>
    by_cases he : e = e'
    · subst he
      simp [SameGeometry, setDisplay, setEncoder]
    · simp [SameGeometry, setDisplay, setEncoder, he]
  | revoke permits => exact setReserved_sameGeometry s permits 0 e
  | send permits frame => exact sendFrame_sameGeometry s permits frame e
  | _ => exact ⟨rfl, rfl, rfl, rfl⟩

theorem labelInv_frame {s s' : Server} (h : s.LabelInv) {d : Nat} (hmove : s.FrameMove d s') :
    s'.LabelInv := by
  have hsame := hmove.sameGeometry
  cases hmove <;> exact h.congr rfl rfl rfl rfl rfl hsame

theorem labelInv_takeCommand {s s' : Server} (h : s.LabelInv) {e : Nat}
    (hs : s.takeCommand e = some s') : s'.LabelInv := by
  obtain ⟨he, hnone, command, rest, heq, rfl⟩ := takeCommand_spec hs
  have hcommands := (h.encoders e he).commands
  rw [heq] at hcommands
  refine h.setEncoder rfl rfl (fun x hx => hx) rfl rfl (fun _ => ⟨?_, ?_, fun f hf => ?_⟩)
    h.labelled
  · exact hcommands command List.mem_cons_self
  · exact fun cmd hcmd => hcommands cmd (List.mem_cons_of_mem _ hcmd)
  · simp only [hnone] at hf
    cases hf

/-- An encoder takes a frame in line with the commands. -/
theorem labelInv_takeFrame {s s' : Server} (h : s.LabelInv) {e : Nat}
    (hal : s.FrameAligned (.takeFrame e)) (hs : s.takeFrame e = some s') : s'.LabelInv := by
  obtain ⟨he, -, frame, rest, hframes, rfl⟩ := takeFrame_spec hs
  have hok := h.encoders e he
  refine h.setEncoder rfl rfl (fun x hx => hx) rfl rfl
    (fun _ => ⟨hok.task, hok.commands, fun f hf => ?_⟩) h.labelled
  cases hf
  exact hal frame (by rw [hframes]; rfl)

/-- **A frame taken in line with the commands gives messages with the right label.** -/
theorem labelInv_encode {comp : Compressors} {s s' : Server} (h : s.LabelInv) {e : Nat}
    {order : List Nat} (hs : s.encode comp e order = some s') : s'.LabelInv := by
  obtain ⟨he, frame, parts, messages, hframe, hmessages, rfl⟩ := encode_spec hs
  have hok := h.encoders e he
  obtain ⟨hconfig, hfits⟩ := hok.encoding frame hframe
  refine h.setEncoder rfl rfl (fun x hx => hx) rfl rfl
    (fun _ => ⟨hok.task, hok.commands, nofun⟩) ?_
  intro p hp m hm
  rcases List.mem_append.mp hp with hp | hp
  · exact h.labelled p hp m hm
  · rw [List.mem_singleton.mp hp] at hm ⊢
    rw [encodeFrame_displayConfig hmessages m hm, asU32, Nat.mod_eq_of_lt hfits, ← hconfig]
    exact hok.task

theorem labelInv_step {cc : ConnectedComponents} {comp : Compressors} {s s' : Server}
    {a : ServerAct} (h : s.LabelInv) (hwf : ∀ d, (s.displays d).tb.WF) (hal : s.FrameAligned a)
    (hs : s.step cc comp a = some s') : s'.LabelInv := by
  have hsame : ∀ e, SameGeometry (s.encoders e) (s.encoders e) := fun e => ⟨rfl, rfl, rfl, rfl⟩
  cases a with
  | displayEvent displays => exact labelInv_displayEvent h hs
  | displayEventFailed =>
    have hs' := displayEventFailed_spec hs
    subst hs'
    exact ⟨fun l hl => Nat.le_succ_of_le (h.ids l hl), h.toSend, h.encoders, h.labelled⟩
  | backend => exact labelInv_backend h hs
  | config => cases configStep_move hs <;> exact h.congr rfl rfl rfl rfl rfl hsame
  | frame d | reserved d | waited d =>
    exact labelInv_frame h (frameTask_move (d := d) rfl hwf hs).2
  | update d fb =>
    obtain ⟨-, tb, -, rfl⟩ := update_spec hs
    exact h.congr rfl rfl rfl rfl rfl hsame
  | takeCommand e => exact labelInv_takeCommand h hs
  | takeFrame e => exact labelInv_takeFrame h hal hs
  | encode e order => exact labelInv_encode h hs

theorem labelInv_init (maxEncoderCount : Nat) (scheme : Scheme)
    (displays : List (Display × List Box2D)) : (init maxEncoderCount scheme displays).LabelInv := by
  refine ⟨fun l hl => ?_, nofun, fun e he => ⟨?_, nofun, nofun⟩, nofun⟩
  · rw [List.mem_singleton.mp hl]
    exact Nat.zero_le _
  · refine ⟨⟨0, displays⟩, rfl, ?_⟩
    have hlt : e < (Layout.mk 0 displays).assignment.length := by
      rw [length_assignment]
      exact he
    simp only [init, List.getElem?_eq_getElem hlt, Option.getD_some]

end Server

open Server in
/-- **A message's configuration label matches the geometry of its encoder**, in every state of every
run in which each frame is taken right after the command of its configuration. -/
theorem always_labelled_of_frameAligned (cc : ConnectedComponents) (comp : Compressors)
    (maxEncoderCount : Nat) (scheme : Scheme) (displays : List (Display × List Box2D))
    (acts : List ServerAct)
    (hal : Machine.Guarded (step cc comp) FrameAligned (init maxEncoderCount scheme displays) acts) :
    Machine.Always (step cc comp) Labelled (init maxEncoderCount scheme displays) acts := by
  have h : Machine.Always (step cc comp) (fun s => s.SendersInv ∧ s.LabelInv)
      (init maxEncoderCount scheme displays) acts := by
    refine hal.always (fun s a s' hinv hguard hstep => ?_)
      ⟨sendersInv_init maxEncoderCount scheme displays,
        labelInv_init maxEncoderCount scheme displays⟩
    have hwf : ∀ d, (s.displays d).tb.WF := fun d => (hinv.1.displays d).wf
    exact ⟨sendersInv_step hinv.1 hstep, labelInv_step hinv.2 hwf hguard hstep⟩
  exact h.mono fun s hs => hs.2.labelled

/-! ## A frame and a command for one encoder -/

/-- The first display's task sends a frame to both encoders. -/
def sendFirst : List ServerAct :=
  [.frame 0, .reserved 0 1, .reserved 0 0, .waited 0 0, .frame 0, .frame 0, .frame 0, .frame 0]

/-- A frame of the first configuration is encoded before the displays change, and one of the second
afterwards. -/
def encodeAroundChange : List ServerAct :=
  sendFirst ++ [.takeFrame 0, .takeFrame 1, .encode 0 [0], .encode 1 [0]] ++
    .displayEvent bothEnabled :: applyBoth ++
    [.backend, .backend, .takeCommand 0, .takeCommand 1] ++
    [.frame 0, .reserved 0 0, .waited 0 1, .frame 0, .frame 0, .frame 0, .reserved 0 0, .frame 0,
     .frame 0, .frame 0, .frame 0, .takeFrame 0, .encode 0 [0]]

/-- The run completes with a message of every encoder for the first frame and one for the second. -/
theorem always_labelled_of_frameAligned_change :
    (Machine.run (Server.step oneComponent noCompressors) (Server.init 2 .raw oneEnabled)
      encodeAroundChange).map
        (fun s => s.produced.map fun p => p.messages.map fun m => m.displayConfig) =
        some [[0], [0], [1]] ∧
    Machine.Guarded (Server.step oneComponent noCompressors) Server.FrameAligned
      (Server.init 2 .raw oneEnabled) encodeAroundChange ∧
    Machine.Always (Server.step oneComponent noCompressors) Server.Labelled
      (Server.init 2 .raw oneEnabled) encodeAroundChange :=
  have h : Machine.Guarded (Server.step oneComponent noCompressors) Server.FrameAligned
      (Server.init 2 .raw oneEnabled) encodeAroundChange := by decide +kernel
  ⟨by decide +kernel, h,
    always_labelled_of_frameAligned oneComponent noCompressors 2 .raw oneEnabled
      encodeAroundChange h⟩

/-- The second encoder is reconfigured while a frame of the old configuration waits in its queue, and
then encodes it with the new area. -/
def overtakenFrame : List ServerAct :=
  sendFirst ++
    [.displayEvent bothEnabled, .backend, .backend, .takeCommand 1, .takeFrame 1, .encode 1 [0]]

theorem labelled_fails :
    ¬ Machine.Always (Server.step oneComponent noCompressors) Server.Labelled
      (Server.init 2 .raw oneEnabled) overtakenFrame := by
  have hrun : (Machine.run (Server.step oneComponent noCompressors) (Server.init 2 .raw oneEnabled)
      overtakenFrame).any (fun s =>
        decide ((s.produced.map fun p =>
          (p.encoder, p.task.id, p.task.area, p.messages.map fun m => m.displayConfig)) =
            [(1, 0, ⟨⟨0, 0⟩, ⟨2, 1⟩⟩, [0])]) &&
        decide ((layoutOf s.history 0).bind (fun l => l.assignment[1]?) =
          some (1, ⟨⟨1, 0⟩, ⟨2, 1⟩⟩))) = true := by
    decide +kernel
  intro h
  obtain ⟨s, hs, hboth⟩ := Option.any_eq_true _ _ |>.mp hrun
  simp only [Bool.and_eq_true, decide_eq_true_eq] at hboth
  obtain ⟨hprod, hlayout⟩ := hboth
  obtain ⟨p, hp, heq⟩ : ∃ p ∈ s.produced,
      (p.encoder, p.task.id, p.task.area, p.messages.map fun m => m.displayConfig) =
        (1, 0, ⟨⟨0, 0⟩, ⟨2, 1⟩⟩, [0]) := by
    refine List.mem_map.mp ?_
    rw [hprod]
    exact List.mem_cons_self
  simp only [Prod.mk.injEq] at heq
  obtain ⟨henc, hid, -, hmsgs⟩ := heq
  obtain ⟨m, hm, hlabel⟩ : ∃ m ∈ p.messages, m.displayConfig = 0 := by
    refine List.mem_map.mp ?_
    rw [hmsgs]
    exact List.mem_cons_self
  obtain ⟨l, hl, hassign⟩ := h.last hs p hp m hm
  rw [hlabel] at hl
  rw [hl, Option.bind_some] at hlayout
  rw [henc, hlayout, hid] at hassign
  cases hassign

end ApertureC
