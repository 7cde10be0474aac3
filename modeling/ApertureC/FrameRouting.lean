import ApertureC.ServerSteps

/-!
# Frames and the channels they are sent on

* `Assigned` — the channels that a configuration gives a display.
* `Server.SendersInv` — the subsets and senders held anywhere are those of a configuration.
* `Server.Routed` — every frame has been sent on exactly the channels its configuration gives its
  display.
* `Server.CutAligned` — a frame is cut only while the tracking buffer is at the configuration whose
  channels the task has cloned.
* `Server.RoutingInv` — the frame that a task is about to send is of the configuration of its
  senders.

Principal results: `sendersInv_step` (every step keeps the senders), `routingInv_step` (an aligned
step keeps the invariant) and `always_routed_of_cutAligned` (frames are routed along every run whose
cuts are aligned); `routed_fails` is a run with a cut that is not.
-/

set_option autoImplicit false

namespace ApertureC

open Geometry

/-- The channels that configuration `c` gives display `d`. -/
def Assigned (history : List Layout) (d c : Nat) (txs : List Nat) : Prop :=
  ∃ l, layoutOf history c = some l ∧ txs = l.subset d

/-- What a display holds is of a configuration. -/
structure DisplayOk (history : List Layout) (d : Nat) (ds : DisplayState) : Prop where
  wf : ds.tb.WF
  id_eq : ds.tb.displayId = d
  subset : Assigned history d ds.subsetConfig ds.txSubset
  senders : ∀ txs ∈ ds.task.txs, Assigned history d ds.clonedConfig txs

namespace Server

/-- Every frame sent went out on exactly the channels its configuration gives its display. -/
def Routed (s : Server) : Prop :=
  ∀ x ∈ s.sent, Assigned s.history x.1.display x.1.displayConfig x.2

/-- A cut happens at the configuration whose channels the task has cloned. -/
def CutAligned (s : Server) : ServerAct → Prop
  | .frame d => (s.displays d).isCutting = true →
      (s.displays d).tb.displayConfig = (s.displays d).clonedConfig
  | _ => True

instance (s : Server) : ∀ a, Decidable (s.CutAligned a)
  | .frame d => inferInstanceAs (Decidable ((s.displays d).isCutting = true →
      (s.displays d).tb.displayConfig = (s.displays d).clonedConfig))
  | .displayEvent _ => inferInstanceAs (Decidable True)
  | .displayEventFailed => inferInstanceAs (Decidable True)
  | .backend => inferInstanceAs (Decidable True)
  | .config => inferInstanceAs (Decidable True)
  | .reserved _ _ => inferInstanceAs (Decidable True)
  | .waited _ _ => inferInstanceAs (Decidable True)
  | .update _ _ => inferInstanceAs (Decidable True)
  | .takeCommand _ => inferInstanceAs (Decidable True)
  | .takeFrame _ => inferInstanceAs (Decidable True)
  | .encode _ _ => inferInstanceAs (Decidable True)

/-- The configuration the display config task works on. -/
def applying (s : Server) : Option Layout :=
  match s.configTask with
  | .resize l _ => some l
  | .replace l _ => some l
  | .signal l => some l
  | _ => none

structure SendersInv (s : Server) : Prop where
  ids : ∀ l ∈ s.history, l.configId ≤ s.displayConfigId
  pending : ∀ l ∈ s.newDisplayConfigs, layoutOf s.history l.configId = some l
  applying : ∀ l ∈ s.applying, layoutOf s.history l.configId = some l
  displays : ∀ d, DisplayOk s.history d (s.displays d)

/-- The frame that the task is about to send is its display's, and of the configuration of its
senders. -/
def HeldAligned (d : Nat) (ds : DisplayState) : Prop :=
  ∀ f ∈ ds.task.frame, f.display = d ∧ f.displayConfig = ds.clonedConfig

structure RoutingInv (s : Server) : Prop where
  senders : s.SendersInv
  held : ∀ d, HeldAligned d (s.displays d)
  routed : s.Routed

end Server

/-! ## The history only grows -/

/-- Every configuration of the first history is in the second, under its id. -/
def Extends (history history' : List Layout) : Prop :=
  ∀ c l, layoutOf history c = some l → layoutOf history' c = some l

theorem mem_of_layoutOf {history : List Layout} {c : Nat} {l : Layout}
    (h : layoutOf history c = some l) : l ∈ history ∧ l.configId = c := by
  unfold layoutOf at h
  exact ⟨List.mem_of_find?_eq_some h, by simpa using List.find?_some h⟩

theorem extends_append {history : List Layout} {l : Layout}
    (h : ∀ l' ∈ history, l'.configId < l.configId) :
    Extends history (history ++ [l]) ∧ layoutOf (history ++ [l]) l.configId = some l := by
  constructor
  · intro c l' hl'
    unfold layoutOf at hl' ⊢
    rw [List.find?_append, hl']
    rfl
  · unfold layoutOf
    have hnone : history.find? (fun l' => l'.configId = l.configId) = none := by
      rw [List.find?_eq_none]
      intro l' hl'
      have := h l' hl'
      simp only [decide_eq_true_eq]
      omega
    rw [List.find?_append, hnone]
    simp

theorem Assigned.mono {history history' : List Layout} (h : Extends history history') {d c : Nat}
    {txs : List Nat} (ha : Assigned history d c txs) : Assigned history' d c txs := by
  obtain ⟨l, hl, htxs⟩ := ha
  exact ⟨l, h c l hl, htxs⟩

theorem DisplayOk.mono {history history' : List Layout} (h : Extends history history') {d : Nat}
    {ds : DisplayState} (hd : DisplayOk history d ds) : DisplayOk history' d ds :=
  ⟨hd.wf, hd.id_eq, hd.subset.mono h, fun txs htxs => (hd.senders txs htxs).mono h⟩

/-- The task goes on with the senders that it has. -/
theorem DisplayOk.task {history : List Layout} {d : Nat} {ds ds' : DisplayState}
    (h : DisplayOk history d ds) (htb : ds'.tb = ds.tb) (hsubset : ds'.txSubset = ds.txSubset)
    (hconfig : ds'.subsetConfig = ds.subsetConfig) (hcloned : ds'.clonedConfig = ds.clonedConfig)
    (htxs : ∀ txs ∈ ds'.task.txs, txs ∈ ds.task.txs) : DisplayOk history d ds' := by
  refine ⟨by rw [htb]; exact h.wf, by rw [htb]; exact h.id_eq, ?_, fun txs hmem => ?_⟩
  · rw [hsubset, hconfig]
    exact h.subset
  · rw [hcloned]
    exact h.senders txs (htxs txs hmem)

namespace Server

/-! ## The steps -/

section Steps

variable {s s' : Server}

/-- A step that touches neither the configurations nor the displays. -/
theorem SendersInv.congr (h : s.SendersInv) (hhist : s'.history = s.history)
    (hid : s.displayConfigId ≤ s'.displayConfigId)
    (hnew : ∀ l ∈ s'.newDisplayConfigs, l ∈ s.newDisplayConfigs)
    (happ : ∀ l ∈ s'.applying, l ∈ s.applying ∨ l ∈ s.newDisplayConfigs)
    (hdisp : ∀ d, DisplayOk s.history d (s'.displays d)) : s'.SendersInv := by
  refine ⟨?_, ?_, ?_, ?_⟩
  · rw [hhist]
    exact fun l hl => (h.ids l hl).trans hid
  · rw [hhist]
    exact fun l hl => h.pending l (hnew l hl)
  · rw [hhist]
    exact fun l hl => (happ l hl).elim (h.applying l) (h.pending l)
  · rw [hhist]
    exact hdisp

/-- A display event adds its layout to the history, under an id that no other layout has. -/
theorem displayEvent_history (hids : ∀ l ∈ s.history, l.configId ≤ s.displayConfigId)
    {displays : List (Display × List Box2D)} (hs : s.displayEvent displays = some s') :
    (∀ l ∈ s'.history, l.configId ≤ s'.displayConfigId) ∧ Extends s.history s'.history ∧
      layoutOf s'.history (s.displayConfigId + 1) = some ⟨s.displayConfigId + 1, displays⟩ := by
  obtain ⟨-, -, rfl⟩ := displayEvent_spec hs
  have hlt : ∀ l' ∈ s.history, l'.configId < s.displayConfigId + 1 := fun l' hl' =>
    Nat.lt_succ_of_le (hids l' hl')
  refine ⟨fun l hl => ?_, extends_append (l := ⟨s.displayConfigId + 1, displays⟩) hlt⟩
  rcases List.mem_append.mp hl with hl | hl
  · exact (hlt l hl).le
  · rw [List.mem_singleton.mp hl]

theorem sendersInv_displayEvent (h : s.SendersInv) {displays : List (Display × List Box2D)}
    (hs : s.displayEvent displays = some s') : s'.SendersInv := by
  obtain ⟨hids, hext, hnew⟩ := displayEvent_history h.ids hs
  obtain ⟨-, -, rfl⟩ := displayEvent_spec hs
  refine ⟨hids, fun l hl => ?_, fun l hl => hext _ _ (h.applying l hl),
    fun d => (h.displays d).mono hext⟩
  rw [List.mem_singleton.mp hl]
  exact hnew

theorem sendersInv_config (h : s.SendersInv) (hs : s.configStep = some s') : s'.SendersInv := by
  cases configStep_move hs with
  | refuse l rest e hc hnew hcheck =>
    refine h.congr rfl (le_refl _) (fun l' hl' => ?_) nofun h.displays
    exact hnew ▸ List.mem_cons_of_mem _ hl'
  | accept l rest hc hnew hcheck =>
    refine h.congr rfl (le_refl _) (fun l' hl' => ?_) (fun l' hl' => ?_) h.displays
    · exact hnew ▸ List.mem_cons_of_mem _ hl'
    · cases hl'
      exact Or.inr (hnew ▸ List.mem_cons_self)
  | finish l d hc hnone =>
    refine h.congr rfl (le_refl _) (fun _ hl => hl) (fun l' hl' => Or.inl ?_) h.displays
    cases hl'
    simp [applying, hc]
  | resize l d display areas hc hget =>
    have hdisplays : ∀ d', DisplayOk s.history d' ((s.setDisplay d fun ds =>
        { ds with tb := ds.tb.resize display l.configId }).displays d') := by
      obtain ⟨-, hid, hsub, hsenders⟩ := h.displays d
      exact setDisplay_forall h.displays ⟨TrackingBuffer.resize_wf _ _ _, hid, hsub, hsenders⟩
    refine h.congr rfl (le_refl _) (fun _ hl => hl) (fun l' hl' => Or.inl ?_) hdisplays
    cases hl'
    simp [applying, hc]
  | replace l d hc =>
    have happ : l ∈ s.applying := by simp [applying, hc]
    have hdisplays : ∀ d', DisplayOk s.history d' ((s.setDisplay d fun ds =>
        { ds with txSubset := l.subset d, subsetConfig := l.configId }).displays d') := by
      obtain ⟨hwf, hid, -, hsenders⟩ := h.displays d
      exact setDisplay_forall h.displays ⟨hwf, hid, ⟨l, h.applying l happ, rfl⟩, hsenders⟩
    refine h.congr rfl (le_refl _) (fun _ hl => hl) (fun l' hl' => Or.inl ?_) hdisplays
    cases hl'
    exact happ
  | signal l hc => exact h.congr rfl (le_refl _) (fun _ hl => hl) nofun h.displays

/-- A frame task clones the senders of its display, and keeps them until it clones again. -/
theorem sendersInv_frame (h : s.SendersInv) {d : Nat} (hmove : s.FrameMove d s') :
    s'.SendersInv := by
  have hd := h.displays d
  cases hmove with
  | clone revoked ht =>
    refine h.congr rfl (le_refl _) (fun _ hl => hl) (fun _ hl => Or.inl hl)
      (setDisplay_forall h.displays ⟨hd.wf, hd.id_eq, hd.subset, fun txs htxs => ?_⟩)
    cases htxs
    exact hd.subset
  | reserved _ _ _ _ ht | waited _ _ _ ht | joined _ _ ht | check _ ht | undamaged _ ht =>
    refine h.congr rfl (le_refl _) (fun _ hl => hl) (fun _ hl => Or.inl hl)
      (setDisplay_forall h.displays (hd.task rfl rfl rfl rfl fun _ htxs => ?_))
    rw [ht]
    exact htxs
  | cut permits f ht hcuts =>
    refine h.congr rfl (le_refl _) (fun _ hl => hl) (fun _ hl => Or.inl hl)
      (setDisplay_forall h.displays ⟨TrackingBuffer.clear_wf hd.wf _, hd.id_eq, hd.subset,
        fun txs htxs => hd.senders txs ?_⟩)
    rw [ht]
    exact htxs
  | revoke | send =>
    exact h.congr rfl (le_refl _) (fun _ hl => hl) (fun _ hl => Or.inl hl)
      (setDisplay_forall h.displays (hd.task rfl rfl rfl rfl nofun))

/-- **Every step keeps the senders.** -/
theorem sendersInv_step {cc : ConnectedComponents} {comp : Compressors} {a : ServerAct}
    (h : s.SendersInv) (hs : s.step cc comp a = some s') : s'.SendersInv := by
  have hwf : ∀ d, (s.displays d).tb.WF := fun d => (h.displays d).wf
  cases a with
  | displayEvent displays => exact sendersInv_displayEvent h hs
  | displayEventFailed =>
    have hs' := displayEventFailed_spec hs
    subst hs'
    exact h.congr rfl (Nat.le_succ _) (fun _ hl => hl) (fun _ hl => Or.inl hl) h.displays
  | backend =>
    cases backendStep_move hs <;>
      exact h.congr rfl (le_refl _) (fun _ hl => hl) (fun _ hl => Or.inl hl) h.displays
  | config => exact sendersInv_config h hs
  | frame d | reserved d | waited d =>
    exact sendersInv_frame h (frameTask_move (d := d) rfl hwf hs).2
  | update d fb =>
    obtain ⟨-, tb, htb, rfl⟩ := update_spec hs
    obtain ⟨hwf, hid, hsub, hsenders⟩ := h.displays d
    obtain ⟨tb', htb', hwf', ⟨-, hid', -, -⟩, -, -⟩ := TrackingBuffer.update_spec cc hwf fb
    rw [htb] at htb'
    cases htb'
    exact h.congr rfl (le_refl _) (fun _ hl => hl) (fun _ hl => Or.inl hl)
      (setDisplay_forall h.displays ⟨hwf', hid'.trans hid, hsub, hsenders⟩)
  | takeCommand e =>
    obtain ⟨-, -, command, rest, -, rfl⟩ := takeCommand_spec hs
    exact h.congr rfl (le_refl _) (fun _ hl => hl) (fun _ hl => Or.inl hl) h.displays
  | takeFrame e =>
    obtain ⟨-, -, frame, rest, -, rfl⟩ := takeFrame_spec hs
    exact h.congr rfl (le_refl _) (fun _ hl => hl) (fun _ hl => Or.inl hl) h.displays
  | encode e order =>
    obtain ⟨-, frame, parts, messages, -, -, rfl⟩ := encode_spec hs
    exact h.congr rfl (le_refl _) (fun _ hl => hl) (fun _ hl => Or.inl hl) h.displays

theorem sendersInv_init (maxEncoderCount : Nat) (scheme : Scheme)
    (displays : List (Display × List Box2D)) :
    (init maxEncoderCount scheme displays).SendersInv := by
  refine ⟨fun l hl => ?_, nofun, nofun, fun d => ?_⟩
  · rw [List.mem_singleton.mp hl]
    exact Nat.zero_le _
  · exact ⟨TrackingBuffer.new_wf _ _ _, rfl, ⟨_, rfl, rfl⟩, nofun⟩

/-! ## Aligned cuts -/

/-- A step that sends nothing, and changes neither a frame held nor what its senders are of. -/
theorem RoutingInv.congr (h : s.RoutingInv) (hsenders : s'.SendersInv)
    (hext : Extends s.history s'.history) (hheld : ∀ d, HeldAligned d (s'.displays d))
    (hsent : s'.sent = s.sent) : s'.RoutingInv := by
  refine ⟨hsenders, hheld, fun x hx => ?_⟩
  rw [hsent] at hx
  exact (h.routed x hx).mono hext

theorem reserveOwned_not_cutting {d e : Nat} (hs : s.reserveOwned d e = some s') :
    (s.displays d).isCutting = false := by
  unfold DisplayState.isCutting
  cases ht : (s.displays d).task <;> simp [reserveOwned, ht] at hs ⊢

theorem waitForDamage_not_cutting {d version : Nat} (hs : s.waitForDamage d version = some s') :
    (s.displays d).isCutting = false := by
  unfold DisplayState.isCutting
  cases ht : (s.displays d).task <;> simp [waitForDamage, ht] at hs ⊢

/-- **A step of a frame task keeps the invariant when its cut is aligned.** -/
theorem routingInv_frame (h : s.RoutingInv) {d : Nat} (hcut : s.CutAligned (.frame d))
    (hmove : s.FrameMove d s') : s'.RoutingInv := by
  have hsenders := sendersInv_frame h.senders hmove
  have hd := h.senders.displays d
  cases hmove with
  | cut permits f ht hcuts =>
    have haligned := hcut (by simp [DisplayState.isCutting, ht])
    refine h.congr hsenders (fun _ _ hl => hl) (setDisplay_forall h.held fun f' hf' => ?_) rfl
    cases hf'
    exact ⟨hcuts.display_eq.trans hd.id_eq, hcuts.displayConfig_eq.trans haligned⟩
  | send permits frame ht =>
    refine ⟨hsenders, setDisplay_forall h.held nofun, fun x hx => ?_⟩
    rcases List.mem_append.mp hx with hx | hx
    · exact h.routed x hx
    · cases frame with
      | none => cases hx
      | some f =>
        rw [List.mem_singleton.mp hx]
        obtain ⟨hdisplay, hconfig⟩ := h.held d f (by rw [ht]; rfl)
        have hassigned := hd.senders permits (by rw [ht]; rfl)
        rw [← hconfig, ← hdisplay] at hassigned
        exact hassigned
  | _ => exact h.congr hsenders (fun _ _ hl => hl) (setDisplay_forall h.held nofun) rfl

/-- **Every step keeps the invariant when its cut is aligned.** -/
theorem routingInv_step {cc : ConnectedComponents} {comp : Compressors} {a : ServerAct}
    (h : s.RoutingInv) (hcut : s.CutAligned a) (hs : s.step cc comp a = some s') :
    s'.RoutingInv := by
  have hsenders := sendersInv_step h.senders hs
  cases a with
  | displayEvent displays =>
    have hext := (displayEvent_history h.senders.ids hs).2.1
    obtain ⟨-, -, rfl⟩ := displayEvent_spec hs
    exact h.congr hsenders hext h.held rfl
  | displayEventFailed =>
    have hs' := displayEventFailed_spec hs
    subst hs'
    exact h.congr hsenders (fun _ _ hl => hl) h.held rfl
  | backend =>
    cases backendStep_move hs <;> exact h.congr hsenders (fun _ _ hl => hl) h.held rfl
  | config =>
    cases configStep_move hs with
    | resize l d display areas hc hget =>
      have hheld : ∀ d', HeldAligned d' ((s.setDisplay d fun ds =>
          { ds with tb := ds.tb.resize display l.configId }).displays d') :=
        setDisplay_forall h.held (h.held d)
      exact h.congr hsenders (fun _ _ hl => hl) hheld rfl
    | replace l d hc =>
      have hheld : ∀ d', HeldAligned d' ((s.setDisplay d fun ds =>
          { ds with txSubset := l.subset d, subsetConfig := l.configId }).displays d') :=
        setDisplay_forall h.held (h.held d)
      exact h.congr hsenders (fun _ _ hl => hl) hheld rfl
    | _ => exact h.congr hsenders (fun _ _ hl => hl) h.held rfl
  | frame d => exact routingInv_frame h hcut (frameStep_move (h.senders.displays d).wf hs).2
  | reserved d e =>
    have hjoins := reserveOwned_not_cutting hs
    refine routingInv_frame h (fun hcutting => ?_) (reserveOwned_move hs).2
    rw [hjoins] at hcutting
    cases hcutting
  | waited d version =>
    have hjoins := waitForDamage_not_cutting hs
    refine routingInv_frame h (fun hcutting => ?_) (waitForDamage_move hs).2
    rw [hjoins] at hcutting
    cases hcutting
  | update d fb =>
    obtain ⟨-, tb, -, rfl⟩ := update_spec hs
    exact h.congr hsenders (fun _ _ hl => hl) (setDisplay_forall h.held (h.held d)) rfl
  | takeCommand e =>
    obtain ⟨-, -, command, rest, -, rfl⟩ := takeCommand_spec hs
    exact h.congr hsenders (fun _ _ hl => hl) h.held rfl
  | takeFrame e =>
    obtain ⟨-, -, frame, rest, -, rfl⟩ := takeFrame_spec hs
    exact h.congr hsenders (fun _ _ hl => hl) h.held rfl
  | encode e order =>
    obtain ⟨-, frame, parts, messages, -, -, rfl⟩ := encode_spec hs
    exact h.congr hsenders (fun _ _ hl => hl) h.held rfl

theorem routingInv_init (maxEncoderCount : Nat) (scheme : Scheme)
    (displays : List (Display × List Box2D)) : (init maxEncoderCount scheme displays).RoutingInv :=
  ⟨sendersInv_init maxEncoderCount scheme displays, fun _ => nofun, nofun⟩

end Steps

end Server

open Server in
/-- **Frames go to exactly the encoders of their configuration**, in every state of every run whose
cuts are aligned. -/
theorem always_routed_of_cutAligned (cc : ConnectedComponents) (comp : Compressors)
    (maxEncoderCount : Nat) (scheme : Scheme) (displays : List (Display × List Box2D))
    (acts : List ServerAct)
    (hcut : Machine.Guarded (step cc comp) CutAligned (init maxEncoderCount scheme displays) acts) :
    Machine.Always (step cc comp) Routed (init maxEncoderCount scheme displays) acts := by
  have h : Machine.Always (step cc comp) RoutingInv (init maxEncoderCount scheme displays) acts :=
    hcut.always (fun _ _ _ hinv hguard hstep => routingInv_step hinv hguard hstep)
      (routingInv_init maxEncoderCount scheme displays)
  exact h.mono fun s hs => hs.routed

/-! ## Two displays that share two encoders -/

/-- The first display has both encoders, the second is disabled. -/
def oneEnabled : List (Display × List Box2D) :=
  [(⟨⟨⟨0, 0⟩, ⟨2, 1⟩⟩, true⟩, [⟨⟨0, 0⟩, ⟨1, 1⟩⟩, ⟨⟨1, 0⟩, ⟨2, 1⟩⟩]),
   (⟨⟨⟨2, 0⟩, ⟨2, 1⟩⟩, false⟩, [])]

/-- Each display has one encoder. -/
def bothEnabled : List (Display × List Box2D) :=
  [(⟨⟨⟨0, 0⟩, ⟨2, 1⟩⟩, true⟩, [⟨⟨0, 0⟩, ⟨2, 1⟩⟩]),
   (⟨⟨⟨2, 0⟩, ⟨2, 1⟩⟩, true⟩, [⟨⟨0, 0⟩, ⟨2, 1⟩⟩])]

/-- The display config task from taking a configuration to signalling it. -/
def applyBoth : List ServerAct :=
  [.config, .config, .config, .config, .config, .config, .config]

/-- The second display is enabled, and then the first display's task goes around twice. -/
def enableThenCut : List ServerAct :=
  .displayEvent bothEnabled :: applyBoth ++
    [.frame 0, .reserved 0 0, .waited 0 1, .frame 0, .frame 0, .frame 0, .reserved 0 0, .frame 0,
     .frame 0, .frame 0, .frame 0]

/-- The run completes with one frame of the new configuration sent. -/
theorem always_routed_of_cutAligned_enable :
    (Machine.run (Server.step oneComponent noCompressors) (Server.init 2 .raw oneEnabled)
      enableThenCut).map (fun s => s.sent.map fun x => (x.1.displayConfig, x.2)) =
        some [(1, [0])] ∧
    Machine.Guarded (Server.step oneComponent noCompressors) Server.CutAligned
      (Server.init 2 .raw oneEnabled) enableThenCut ∧
    Machine.Always (Server.step oneComponent noCompressors) Server.Routed
      (Server.init 2 .raw oneEnabled) enableThenCut :=
  have h : Machine.Guarded (Server.step oneComponent noCompressors) Server.CutAligned
      (Server.init 2 .raw oneEnabled) enableThenCut := by decide +kernel
  ⟨by decide +kernel, h,
    always_routed_of_cutAligned oneComponent noCompressors 2 .raw oneEnabled enableThenCut h⟩

/-- The task holds permits on both channels and has passed the revoke check when the tracking buffer
is resized: the frame of configuration 1 goes out on both channels, but that configuration gives the
display only the first. -/
theorem routed_fails :
    ¬ Machine.Always (Server.step oneComponent noCompressors) Server.Routed
      (Server.init 2 .raw oneEnabled)
      [.frame 0, .reserved 0 0, .reserved 0 1, .waited 0 0, .frame 0, .frame 0,
       .displayEvent bothEnabled, .config, .config, .frame 0, .frame 0] := by
  have hrun : (Machine.run (Server.step oneComponent noCompressors) (Server.init 2 .raw oneEnabled)
      [.frame 0, .reserved 0 0, .reserved 0 1, .waited 0 0, .frame 0, .frame 0,
       .displayEvent bothEnabled, .config, .config, .frame 0, .frame 0]).any (fun s =>
        decide ((s.sent.map fun x => (x.1.display, x.1.displayConfig, x.2)) = [(0, 1, [0, 1])]) &&
        decide ((layoutOf s.history 1).map (fun l => l.subset 0) = some [0])) = true := by
    decide +kernel
  intro h
  obtain ⟨s, hs, hboth⟩ := Option.any_eq_true _ _ |>.mp hrun
  simp only [Bool.and_eq_true, decide_eq_true_eq] at hboth
  obtain ⟨hsent, hlayout⟩ := hboth
  obtain ⟨x, hx, heq⟩ : ∃ x ∈ s.sent, (x.1.display, x.1.displayConfig, x.2) = (0, 1, [0, 1]) := by
    have hmem : (0, 1, [0, 1]) ∈ s.sent.map fun x => (x.1.display, x.1.displayConfig, x.2) := by
      rw [hsent]
      exact List.mem_cons_self
    exact List.mem_map.mp hmem
  obtain ⟨l, hl, htxs⟩ := h.last hs x hx
  simp only [Prod.mk.injEq] at heq
  rw [heq.2.1] at hl
  rw [heq.1, heq.2.2] at htxs
  rw [hl, Option.map_some, ← htxs] at hlayout
  cases hlayout

end ApertureC
