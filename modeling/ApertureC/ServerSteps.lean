import ApertureC.FrameSync

/-!
# What each of the server's tasks does in a step

The steps of `Server` taken apart once, and how far the tasks have got with a display configuration.

* `BackendMove`, `ConfigMove`, `FrameMove` — the steps of the backend task, the display config task
  and the frame task of a display, case by case.
* `FrameTask.txs`, `FrameTask.permits`, `FrameTask.frame` — the senders, the permits and the frame
  that a frame task holds.
* `Phase` — the display config task works on the configuration that the backend task waits for.
* `SameConfig`, `SameData` — a step that leaves the configurations or the tracking buffers alone.

Principal results: `backendStep_move`, `configStep_move`, `frameTask_move` (a step is one of those
moves) and `displayEvent_phase`, `backendStep_phase`, `configStep_phase` (**when the backend task
goes on, the displays are those of its configuration**).
-/

set_option autoImplicit false

namespace ApertureC

open Geometry

namespace FrameTask

/-- The senders that the task has cloned. -/
def txs : FrameTask → Option (List Nat)
  | .clone _ => none
  | .join txs _ _ => some txs
  | .check permits => some permits
  | .cut permits => some permits
  | .send permits _ => some permits

/-- The permits that the task holds. -/
def permits : FrameTask → List Nat
  | .clone _ => []
  | .join _ reserved _ => reserved
  | .check permits => permits
  | .cut permits => permits
  | .send permits _ => permits

/-- The frame that the task is about to send. -/
def frame : FrameTask → Option Frame
  | .send _ frame => frame
  | _ => none

end FrameTask

/-- The display whose frame task takes the step. -/
def ServerAct.frameTask : ServerAct → Option Nat
  | .frame d => some d
  | .reserved d _ => some d
  | .waited d _ => some d
  | _ => none

namespace Server

/-! ## Moves -/

inductive BackendMove (s : Server) : Server → Prop
  | reconfigured (l : Layout) (hb : s.backend = .reconfigure l []) :
    BackendMove s { s with backend := .awaitComplete l }
  | command (l : Layout) (e : Nat) (command : Reconfigure) (commands : List (Nat × Reconfigure))
      (hb : s.backend = .reconfigure l ((e, command) :: commands))
      (hroom : (s.encoders e).commands = []) :
    BackendMove s { s.setEncoder e (fun enc => { enc with commands := [command] }) with
      backend := .reconfigure l commands }
  | complete (l : Layout) (hb : s.backend = .awaitComplete l) (hcompleted : s.completed = true) :
    BackendMove s { s with backend := .select, events := s.events ++ [l] }

theorem backendStep_move {s s' : Server} (hs : s.backendStep = some s') : s.BackendMove s' := by
  unfold backendStep at hs
  split at hs
  · cases hs
  · rename_i l hb
    cases hs
    exact .reconfigured l hb
  · rename_i l e command commands hb
    split at hs
    · rename_i hroom
      cases hs
      exact .command l e command commands hb (List.isEmpty_iff.mp hroom)
    · cases hs
  · rename_i l hb
    split at hs
    · rename_i hcompleted
      cases hs
      exact .complete l hb hcompleted
    · cases hs

inductive ConfigMove (s : Server) : Server → Prop
  | refuse (l : Layout) (rest : List Layout) (e : String) (hc : s.configTask = .recv)
      (hnew : s.newDisplayConfigs = l :: rest)
      (hcheck : l.check s.displayCount s.maxEncoderCount = .error e) :
    ConfigMove s { s with newDisplayConfigs := rest, configTask := .failed e }
  | accept (l : Layout) (rest : List Layout) (hc : s.configTask = .recv)
      (hnew : s.newDisplayConfigs = l :: rest)
      (hcheck : l.check s.displayCount s.maxEncoderCount = .ok ()) :
    ConfigMove s { s with newDisplayConfigs := rest, configTask := .resize l 0 }
  | finish (l : Layout) (d : Nat) (hc : s.configTask = .resize l d)
      (hnone : l.displays[d]? = none) :
    ConfigMove s { s with configTask := .signal l }
  | resize (l : Layout) (d : Nat) (display : Display) (areas : List Box2D)
      (hc : s.configTask = .resize l d) (hget : l.displays[d]? = some (display, areas)) :
    ConfigMove s { s.setDisplay d (fun ds => { ds with tb := ds.tb.resize display l.configId }) with
      configTask := .replace l d }
  | replace (l : Layout) (d : Nat) (hc : s.configTask = .replace l d) :
    ConfigMove s { s.setDisplay d (fun ds =>
        { ds with txSubset := l.subset d, subsetConfig := l.configId }) with
      configTask := .resize l (d + 1) }
  | signal (l : Layout) (hc : s.configTask = .signal l) :
    ConfigMove s { s with
      revokeWatch := s.revokeWatch + 1, completed := true, configTask := .recv }

theorem configStep_move {s s' : Server} (hs : s.configStep = some s') : s.ConfigMove s' := by
  unfold configStep at hs
  split at hs
  · rename_i hc
    split at hs
    · cases hs
    · rename_i l rest hnew
      split at hs
      · rename_i e hcheck
        cases hs
        exact .refuse l rest e hc hnew hcheck
      · rename_i hcheck
        cases hs
        exact .accept l rest hc hnew hcheck
  · rename_i l d hc
    split at hs
    · rename_i hnone
      cases hs
      exact .finish l d hc hnone
    · rename_i display areas hget
      cases hs
      exact .resize l d display areas hc hget
  · rename_i l d hc
    cases hs
    exact .replace l d hc
  · rename_i l hc
    cases hs
    exact .signal l hc
  · cases hs

inductive FrameMove (s : Server) (d : Nat) : Server → Prop
  | clone (revoked : Bool) (ht : (s.displays d).task = .clone revoked) :
    FrameMove s d (s.setDisplay d fun ds =>
      { ds with task := .join ds.txSubset [] revoked, clonedConfig := ds.subsetConfig })
  | reserved (e : Nat) (txs reserved : List Nat) (waited : Bool)
      (ht : (s.displays d).task = .join txs reserved waited) (hmem : e ∈ txs)
      (hnew : e ∉ reserved) (he : e < s.encoderCount) (hempty : (s.encoders e).frames = [])
      (hfree : (s.encoders e).reserved = 0) :
    FrameMove s d ((s.setEncoder e fun enc => { enc with reserved := 1 }).setDisplay d fun ds =>
      { ds with task := .join txs (e :: reserved) waited })
  | waited (version : Nat) (txs reserved : List Nat)
      (ht : (s.displays d).task = .join txs reserved false)
      (hnew : ∀ n ∈ (s.displays d).damageSeen, n < version)
      (hle : version ≤ (s.displays d).tb.damageWatch) :
    FrameMove s d (s.setDisplay d fun ds =>
      { ds with task := .join txs reserved true, damageSeen := some version })
  | joined (txs reserved : List Nat) (ht : (s.displays d).task = .join txs reserved true)
      (hall : ∀ e ∈ txs, e ∈ reserved) :
    FrameMove s d (s.setDisplay d fun ds => { ds with task := .check txs })
  | revoke (permits : List Nat) (ht : (s.displays d).task = .check permits)
      (hseen : (s.displays d).revokeSeen ≠ s.revokeWatch) :
    FrameMove s d ((s.setReserved permits 0).setDisplay d fun ds =>
      { ds with task := .clone true, revokeSeen := s.revokeWatch })
  | check (permits : List Nat) (ht : (s.displays d).task = .check permits)
      (hseen : (s.displays d).revokeSeen = s.revokeWatch) :
    FrameMove s d (s.setDisplay d fun ds => { ds with task := .cut permits })
  | undamaged (permits : List Nat) (ht : (s.displays d).task = .cut permits)
      (hnone : (s.displays d).tb.damage = .none) :
    FrameMove s d (s.setDisplay d fun ds => { ds with task := .send permits none })
  | cut (permits : List Nat) (f : Frame) (ht : (s.displays d).task = .cut permits)
      (hcuts : (s.displays d).tb.Cuts f)
      (hcut : (s.displays d).tb.cutFrame = some (some f,
        { (s.displays d).tb.clear with currFrameId := (s.displays d).tb.currFrameId + 1 })) :
    FrameMove s d ((s.noteCut (some f)).setDisplay d fun ds =>
      { ds with
        tb := { ds.tb.clear with currFrameId := ds.tb.currFrameId + 1 }
        task := .send permits (some f) })
  | send (permits : List Nat) (frame : Option Frame)
      (ht : (s.displays d).task = .send permits frame) :
    FrameMove s d ((s.sendFrame permits frame).setDisplay d fun ds =>
      { ds with task := .clone false })

theorem frameStep_move {s s' : Server} {d : Nat} (hwf : (s.displays d).tb.WF)
    (hs : s.frameStep d = some s') : d < s.displayCount ∧ s.FrameMove d s' := by
  unfold frameStep at hs
  split at hs
  · rename_i hd
    refine ⟨hd, ?_⟩
    split at hs
    · rename_i revoked ht
      cases hs
      exact .clone revoked ht
    · rename_i txs reserved waited ht
      split at hs
      · rename_i hall
        cases hs
        simp only [Bool.and_eq_true, List.all_eq_true, decide_eq_true_eq] at hall
        exact .joined txs reserved (ht.trans (by rw [hall.1])) hall.2
      · cases hs
    · rename_i permits ht
      split at hs
      · rename_i hseen
        cases hs
        exact .revoke permits ht hseen
      · rename_i hseen
        cases hs
        exact .check permits ht (not_not.mp hseen)
    · rename_i permits ht
      rcases TrackingBuffer.cutFrame_spec hwf with ⟨hnone, hcut⟩ | ⟨f, -, hcuts, hcut⟩ <;>
        rw [hcut] at hs
      · simp only [noteCut, Option.toList_none, List.append_nil, Option.some.injEq] at hs
        rw [← hs]
        exact .undamaged permits ht hnone
      · cases hs
        exact .cut permits f ht hcuts hcut
    · rename_i permits frame ht
      cases hs
      exact .send permits frame ht
  · cases hs

theorem reserveOwned_move {s s' : Server} {d e : Nat} (hs : s.reserveOwned d e = some s') :
    d < s.displayCount ∧ s.FrameMove d s' := by
  unfold reserveOwned at hs
  split at hs
  · rename_i hroom
    simp only [Bool.and_eq_true, decide_eq_true_eq, List.isEmpty_iff, beq_iff_eq] at hroom
    obtain ⟨⟨⟨hd, he⟩, hempty⟩, hfree⟩ := hroom
    split at hs
    · rename_i txs reserved waited ht
      split at hs
      · rename_i hmem
        cases hs
        exact ⟨hd, .reserved e txs reserved waited ht hmem.1 hmem.2 he hempty hfree⟩
      · cases hs
    · cases hs
  · cases hs

theorem waitForDamage_move {s s' : Server} {d version : Nat}
    (hs : s.waitForDamage d version = some s') : d < s.displayCount ∧ s.FrameMove d s' := by
  unfold waitForDamage at hs
  split at hs
  · rename_i hd
    split at hs
    · rename_i txs reserved ht
      split at hs
      · rename_i hversion
        cases hs
        exact ⟨hd, .waited version txs reserved ht hversion.1 hversion.2⟩
      · cases hs
    · cases hs
  · cases hs

/-- A step of a frame task is one of its moves. -/
theorem frameTask_move {cc : ConnectedComponents} {comp : Compressors} {s s' : Server}
    {a : ServerAct} {d : Nat} (ha : a.frameTask = some d) (hwf : ∀ d, (s.displays d).tb.WF)
    (hs : s.step cc comp a = some s') : d < s.displayCount ∧ s.FrameMove d s' := by
  cases a <;> cases ha
  case frame => exact frameStep_move (hwf d) hs
  case reserved => exact reserveOwned_move hs
  case waited => exact waitForDamage_move hs

theorem takeCommand_spec {s s' : Server} {e : Nat} (hs : s.takeCommand e = some s') :
    e < s.encoderCount ∧ (s.encoders e).encoding = none ∧
      ∃ command rest, (s.encoders e).commands = command :: rest ∧
        s' = s.setEncoder e fun enc =>
          { enc with
            task := enc.task.reconfigure command.newId command.area
            commands := rest
            config := command.config } := by
  unfold takeCommand at hs
  split at hs
  · rename_i he
    simp only [Bool.and_eq_true, decide_eq_true_eq, Option.isNone_iff_eq_none] at he
    split at hs
    · cases hs
    · rename_i command rest hcommands
      cases hs
      exact ⟨he.1, he.2, command, rest, hcommands, rfl⟩
  · cases hs

theorem takeFrame_spec {s s' : Server} {e : Nat} (hs : s.takeFrame e = some s') :
    e < s.encoderCount ∧ (s.encoders e).encoding = none ∧
      ∃ frame rest, (s.encoders e).frames = frame :: rest ∧
        s' = s.setEncoder e fun enc => { enc with frames := rest, encoding := some frame } := by
  unfold takeFrame at hs
  split at hs
  · rename_i he
    simp only [Bool.and_eq_true, decide_eq_true_eq, Option.isNone_iff_eq_none] at he
    split at hs
    · cases hs
    · rename_i frame rest hframes
      cases hs
      exact ⟨he.1.1, he.1.2, frame, rest, hframes, rfl⟩
  · cases hs

theorem encode_spec {comp : Compressors} {s s' : Server} {e : Nat} {order : List Nat}
    (hs : s.encode comp e order = some s') :
    e < s.encoderCount ∧ ∃ frame parts messages, (s.encoders e).encoding = some frame ∧
      (s.encoders e).task.encodeFrame comp frame parts = some messages ∧
      s' = { s.setEncoder e (fun enc => { enc with encoding := none }) with
        produced := s.produced ++ [⟨e, (s.encoders e).task, frame, messages⟩] } := by
  simp only [encode] at hs
  split at hs
  · rename_i he
    split at hs
    · cases hs
    · rename_i frame hframe
      split at hs
      · split at hs
        · cases hs
        · rename_i messages hmessages
          cases hs
          exact ⟨he, frame, _, messages, hframe, hmessages, rfl⟩
      · cases hs
  · cases hs

theorem displayEvent_spec {s s' : Server} {displays : List (Display × List Box2D)}
    (hs : s.displayEvent displays = some s') :
    s.backend = .select ∧ s.newDisplayConfigs = [] ∧
      s' = { s with
        displayConfigId := s.displayConfigId + 1
        newDisplayConfigs := [⟨s.displayConfigId + 1, displays⟩]
        completed := false
        history := s.history ++ [⟨s.displayConfigId + 1, displays⟩]
        backend := .reconfigure ⟨s.displayConfigId + 1, displays⟩
          (((List.range s.encoderCount).zip
            (⟨s.displayConfigId + 1, displays⟩ : Layout).assignment).map fun a =>
              (a.1, ⟨a.2.1, a.2.2, s.displayConfigId + 1⟩)) } := by
  unfold displayEvent at hs
  split at hs
  · rename_i hselect hnew
    cases hs
    exact ⟨hselect, hnew, rfl⟩
  · cases hs

theorem displayEventFailed_spec {s s' : Server} (hs : s.displayEventFailed = some s') :
    s' = { s with displayConfigId := s.displayConfigId + 1 } := by
  unfold displayEventFailed at hs
  split at hs
  · cases hs
    rfl
  · cases hs

theorem update_spec {cc : ConnectedComponents} {s s' : Server} {d : Nat}
    {fb : SubframeBuffer Pixel32} (hs : s.update cc d fb = some s') :
    d < s.displayCount ∧ ∃ tb, (s.displays d).tb.update cc fb = some tb ∧
      s' = s.setDisplay d fun ds => { ds with tb := tb } := by
  unfold update at hs
  split at hs
  · rename_i hd
    split at hs
    · cases hs
    · rename_i tb htb
      cases hs
      exact ⟨hd, tb, htb, rfl⟩
  · cases hs

@[simp] theorem setDisplay_self (s : Server) (d : Nat) (f : DisplayState → DisplayState) :
    (s.setDisplay d f).displays d = f (s.displays d) := Function.update_self ..

theorem setDisplay_of_ne (s : Server) {d d' : Nat} (h : d' ≠ d) (f : DisplayState → DisplayState) :
    (s.setDisplay d f).displays d' = s.displays d' := Function.update_of_ne h ..

/-- What holds of the changed display and of all the others holds of all. -/
theorem setDisplay_forall {s : Server} {d : Nat} {f : DisplayState → DisplayState}
    {P : Nat → DisplayState → Prop} (h : ∀ d', P d' (s.displays d')) (hd : P d (f (s.displays d)))
    (d' : Nat) : P d' ((s.setDisplay d f).displays d') := by
  by_cases heq : d' = d
  · rw [heq, setDisplay_self]
    exact hd
  · rw [setDisplay_of_ne s heq]
    exact h d'

/-! ## How far a configuration has been applied -/

/-- The first displays of a configuration are those of the tracking buffers. -/
def Applied (s : Server) (l : Layout) (n : Nat) : Prop :=
  ∀ d, d < n → d < s.displayCount → ∃ x ∈ l.displays, (s.displays d).tb.display = x.1

/-- The display config task between being given a configuration and signalling it. -/
def Applying (s : Server) (l : Layout) : Prop :=
  match s.configTask with
  | .recv => (s.newDisplayConfigs = [l] ∧ s.completed = false) ∨
      (s.newDisplayConfigs = [] ∧ s.completed = true ∧ s.Applied l s.displayCount)
  | .resize l' d => l' = l ∧ s.newDisplayConfigs = [] ∧ s.completed = false ∧
      l.displays.length = s.displayCount ∧ s.Applied l d
  | .replace l' d => l' = l ∧ s.newDisplayConfigs = [] ∧ s.completed = false ∧
      l.displays.length = s.displayCount ∧ s.Applied l (d + 1)
  | .signal l' => l' = l ∧ s.newDisplayConfigs = [] ∧ s.completed = false ∧
      s.Applied l s.displayCount
  | .failed _ => s.completed = false ∧
      ∃ e, l.check s.displayCount s.maxEncoderCount = .error e

/-- The configuration that the backend task is changing to. -/
def changing (s : Server) : Option Layout :=
  match s.backend with
  | .select => none
  | .reconfigure l _ => some l
  | .awaitComplete l => some l

/-- The configuration that the backend task is changing to is being applied; otherwise none is. -/
def Phase (s : Server) : Prop :=
  match s.changing with
  | none => s.newDisplayConfigs = [] ∧ s.configTask = .recv
  | some l => s.Applying l

/-- No configuration comes in while one is being applied. -/
theorem Phase.resizing {s : Server} (h : s.Phase) {l : Layout} {d : Nat}
    (hc : s.configTask = .resize l d ∨ s.configTask = .replace l d) : s.newDisplayConfigs = [] := by
  unfold Phase at h
  split at h
  · exact h.1
  · unfold Applying at h
    rcases hc with hc | hc <;> rw [hc] at h <;> exact h.2.1

/-- Everything that a phase is about is as before. -/
structure SameConfig (s s' : Server) : Prop where
  count : s'.displayCount = s.displayCount
  encoders : s'.maxEncoderCount = s.maxEncoderCount
  backend : s'.backend = s.backend
  configs : s'.newDisplayConfigs = s.newDisplayConfigs
  configTask : s'.configTask = s.configTask
  completed : s'.completed = s.completed
  display : ∀ d, (s'.displays d).tb.display = (s.displays d).tb.display

theorem Applied.congr {s s' : Server} {l : Layout} {n : Nat} (h : s.Applied l n)
    (hcount : s'.displayCount = s.displayCount)
    (hdisplay : ∀ d, (s'.displays d).tb.display = (s.displays d).tb.display) : s'.Applied l n := by
  intro d hd hlt
  rw [hcount] at hlt
  rw [hdisplay]
  exact h d hd hlt

theorem Applying.congr {s s' : Server} {l : Layout} (h : s.Applying l)
    (hcount : s'.displayCount = s.displayCount) (hencoders : s'.maxEncoderCount = s.maxEncoderCount)
    (hconfigs : s'.newDisplayConfigs = s.newDisplayConfigs)
    (htask : s'.configTask = s.configTask) (hcompleted : s'.completed = s.completed)
    (hdisplay : ∀ d, (s'.displays d).tb.display = (s.displays d).tb.display) : s'.Applying l := by
  unfold Applying at h ⊢
  rw [htask, hconfigs, hcompleted, hcount, hencoders]
  cases hc : s.configTask <;> rw [hc] at h <;> simp only at h ⊢
  · exact h.imp_right fun h => ⟨h.1, h.2.1, h.2.2.congr hcount hdisplay⟩
  · exact ⟨h.1, h.2.1, h.2.2.1, h.2.2.2.1, h.2.2.2.2.congr hcount hdisplay⟩
  · exact ⟨h.1, h.2.1, h.2.2.1, h.2.2.2.1, h.2.2.2.2.congr hcount hdisplay⟩
  · exact ⟨h.1, h.2.1, h.2.2.1, h.2.2.2.congr hcount hdisplay⟩
  · exact h

theorem SameConfig.changing {s s' : Server} (h : SameConfig s s') : s'.changing = s.changing := by
  unfold Server.changing
  rw [h.backend]

theorem SameConfig.phase {s s' : Server} (h : SameConfig s s') (hp : s.Phase) : s'.Phase := by
  unfold Phase at hp ⊢
  rw [h.changing, h.configs, h.configTask]
  cases hc : s.changing <;> rw [hc] at hp
  · exact hp
  · exact Applying.congr hp h.count h.encoders h.configs h.configTask h.completed h.display

theorem SameConfig.refl (s : Server) : SameConfig s s :=
  ⟨rfl, rfl, rfl, rfl, rfl, rfl, fun _ => rfl⟩

/-- A tracking buffer is replaced by one of the same display. -/
theorem SameConfig.setBuffer (s : Server) {d : Nat} {tb : TrackingBuffer}
    (hdisplay : tb.display = (s.displays d).tb.display) :
    SameConfig s (s.setDisplay d fun ds => { ds with tb := tb }) :=
  ⟨rfl, rfl, rfl, rfl, rfl, rfl, setDisplay_forall
    (P := fun d' ds => ds.tb.display = (s.displays d').tb.display) (fun _ => rfl) hdisplay⟩

/-- Every tracking buffer holds what it held. -/
def SameData (s s' : Server) : Prop :=
  ∀ d, (s'.displays d).tb.data = (s.displays d).tb.data ∧
    ((s.displays d).tb.WF → (s'.displays d).tb.WF)

/-- The tracking buffer of a display shows what it showed. -/
def SameShown (ds ds' : DisplayState) : Prop :=
  ds'.tb.display = ds.tb.display ∧ ds'.tb.data = ds.tb.data ∧ (ds.tb.WF → ds'.tb.WF)

theorem SameShown.refl (ds : DisplayState) : SameShown ds ds := ⟨rfl, rfl, fun h => h⟩

theorem same_of_displays {s s' : Server} (hcount : s'.displayCount = s.displayCount)
    (hencoders : s'.maxEncoderCount = s.maxEncoderCount)
    (hbackend : s'.backend = s.backend) (hconfigs : s'.newDisplayConfigs = s.newDisplayConfigs)
    (htask : s'.configTask = s.configTask) (hcompleted : s'.completed = s.completed)
    (hdisplays : ∀ d, SameShown (s.displays d) (s'.displays d)) :
    SameConfig s s' ∧ SameData s s' :=
  ⟨⟨hcount, hencoders, hbackend, hconfigs, htask, hcompleted, fun d => (hdisplays d).1⟩,
    fun d => (hdisplays d).2⟩

/-- A frame task cuts a tracking buffer, but it changes no pixel of it. -/
theorem FrameMove.same {s s' : Server} {d : Nat} (h : s.FrameMove d s') :
    SameConfig s s' ∧ SameData s s' := by
  cases h <;> refine same_of_displays rfl rfl rfl rfl rfl rfl
    (setDisplay_forall (P := fun d' => SameShown (s.displays d')) (fun _ => .refl _) ?_)
  case cut => exact ⟨rfl, rfl, fun h => TrackingBuffer.clear_wf h _⟩
  all_goals exact ⟨rfl, rfl, fun h => h⟩

theorem FrameMove.displayConfig {s s' : Server} {d : Nat} (h : s.FrameMove d s') :
    s'.displayConfigId = s.displayConfigId ∧
      ∀ d', (s'.displays d').tb.displayConfig = (s.displays d').tb.displayConfig := by
  cases h <;> exact ⟨rfl, setDisplay_forall
    (P := fun d' ds => ds.tb.displayConfig = (s.displays d').tb.displayConfig) (fun _ => rfl) rfl⟩

theorem takeCommand_same {s s' : Server} {e : Nat} (hs : s.takeCommand e = some s') :
    SameConfig s s' ∧ SameData s s' := by
  obtain ⟨-, -, command, rest, -, rfl⟩ := takeCommand_spec hs
  exact same_of_displays rfl rfl rfl rfl rfl rfl fun d => .refl _

theorem takeFrame_same {s s' : Server} {e : Nat} (hs : s.takeFrame e = some s') :
    SameConfig s s' ∧ SameData s s' := by
  obtain ⟨-, -, frame, rest, -, rfl⟩ := takeFrame_spec hs
  exact same_of_displays rfl rfl rfl rfl rfl rfl fun d => .refl _

theorem encode_same {comp : Compressors} {s s' : Server} {e : Nat} {order : List Nat}
    (hs : s.encode comp e order = some s') : SameConfig s s' ∧ SameData s s' := by
  obtain ⟨-, frame, parts, messages, -, -, rfl⟩ := encode_spec hs
  exact same_of_displays rfl rfl rfl rfl rfl rfl fun d => .refl _

theorem displayEventFailed_same {s s' : Server} (hs : s.displayEventFailed = some s') :
    SameConfig s s' ∧ SameData s s' := by
  rw [displayEventFailed_spec hs]
  exact same_of_displays rfl rfl rfl rfl rfl rfl fun d => .refl _

theorem displayEvent_phase {s s' : Server} (hp : s.Phase)
    {displays : List (Display × List Box2D)} (hs : s.displayEvent displays = some s') :
    s'.Phase ∧ s'.changing = some ⟨s.displayConfigId + 1, displays⟩ ∧
      s'.displayCount = s.displayCount ∧ s'.displays = s.displays := by
  obtain ⟨hselect, -, rfl⟩ := displayEvent_spec hs
  simp only [Phase, changing, hselect] at hp
  refine ⟨?_, rfl, rfl, rfl⟩
  simp [Phase, changing, Applying, hp.2]

/-- A step of the backend task changes no display; when it ends, the configuration is applied. -/
theorem backendStep_phase {s s' : Server} (hp : s.Phase) (hs : s.backendStep = some s') :
    s'.Phase ∧ s'.displayCount = s.displayCount ∧ s'.displays = s.displays ∧
      ((∃ l commands, s.backend = .reconfigure l commands ∧ s'.changing = s.changing) ∨
        ∃ l, s.backend = .awaitComplete l ∧ s'.changing = none ∧ s.Applied l s.displayCount) := by
  cases backendStep_move hs with
  | reconfigured l hb =>
    simp only [Phase, changing, hb] at hp
    exact ⟨hp.congr rfl rfl rfl rfl rfl fun _ => rfl, rfl, rfl,
      Or.inl ⟨l, [], hb, by simp only [changing, hb]⟩⟩
  | command l e command commands hb hroom =>
    simp only [Phase, changing, hb] at hp
    exact ⟨hp.congr rfl rfl rfl rfl rfl fun _ => rfl, rfl, rfl,
      Or.inl ⟨l, _, hb, by simp only [changing, hb]⟩⟩
  | complete l hb hcompleted =>
    simp only [Phase, changing, hb, Applying, hcompleted] at hp
    have hdone : s.configTask = .recv ∧ s.newDisplayConfigs = [] ∧
        s.Applied l s.displayCount := by
      cases hc : s.configTask <;> rw [hc] at hp <;> simp at hp
      exact ⟨rfl, hp⟩
    obtain ⟨hrecv, hconfigs, happlied⟩ := hdone
    exact ⟨⟨hconfigs, hrecv⟩, rfl, rfl, Or.inr ⟨l, hb, rfl, happlied⟩⟩

theorem check_ok {maxDisplayCount maxEncoderCount : Nat} {l : Layout}
    (h : l.check maxDisplayCount maxEncoderCount = .ok ()) :
    l.displays.length = maxDisplayCount := by
  simp only [Layout.check] at h
  split at h
  · cases h
  · rename_i hlen
    simpa using hlen

/-- The display config task resizes the tracking buffers to the displays of the configuration that
the backend task is changing to. -/
theorem configStep_phase {s s' : Server} (hp : s.Phase) (hs : s.configStep = some s') :
    s'.Phase ∧ s'.displayCount = s.displayCount ∧ s'.backend = s.backend ∧
      ∀ d, (s'.displays d).tb = (s.displays d).tb ∨ ∃ l x, s.changing = some l ∧ x ∈ l.displays ∧
        (s'.displays d).tb = (s.displays d).tb.resize x.1 l.configId := by
  have hmove := configStep_move hs
  cases hchanging : s.changing with
  | none =>
    simp only [Phase, hchanging] at hp
    simp [configStep, hp.1, hp.2] at hs
  | some l =>
    have happlying : s.Applying l := by
      simpa only [Phase, hchanging] using hp
    have hphase : s'.backend = s.backend → s'.Applying l → s'.Phase := by
      intro hb ha
      have hc : s'.changing = some l := by
        rw [← hchanging]
        simp only [changing, hb]
      simpa only [Phase, hc] using ha
    cases hmove with
    | refuse l' rest e hc hnew hcheck =>
      simp only [Applying, hc] at happlying
      rcases happlying with ⟨hconfigs, hcompleted⟩ | ⟨hconfigs, -⟩ <;> rw [hnew] at hconfigs <;>
        cases hconfigs
      exact ⟨hphase rfl ⟨hcompleted, e, hcheck⟩, rfl, rfl, fun d => Or.inl rfl⟩
    | accept l' rest hc hnew hcheck =>
      simp only [Applying, hc] at happlying
      rcases happlying with ⟨hconfigs, hcompleted⟩ | ⟨hconfigs, -⟩ <;> rw [hnew] at hconfigs <;>
        cases hconfigs
      refine ⟨hphase rfl ⟨rfl, rfl, hcompleted, check_ok hcheck, ?_⟩, rfl, rfl, fun d => Or.inl rfl⟩
      intro d hd
      omega
    | finish l' d hc hnone =>
      simp only [Applying, hc] at happlying
      obtain ⟨rfl, hconfigs, hcompleted, hlength, happlied⟩ := happlying
      have hle := List.getElem?_eq_none_iff.mp hnone
      refine ⟨hphase rfl ⟨rfl, hconfigs, hcompleted, fun d' hd' hcount => ?_⟩, rfl, rfl,
        fun d => Or.inl rfl⟩
      exact happlied d' (by simp only at hd'; omega) hcount
    | resize l' d display areas hc hget =>
      simp only [Applying, hc] at happlying
      obtain ⟨rfl, hconfigs, hcompleted, hlength, happlied⟩ := happlying
      have hmem : (display, areas) ∈ l'.displays := List.mem_of_getElem? hget
      have htb : ∀ d', ((s.setDisplay d fun ds =>
          { ds with tb := ds.tb.resize display l'.configId }).displays d').tb =
            (s.displays d').tb ∨ ∃ l x, some l' = some l ∧ x ∈ l.displays ∧
          ((s.setDisplay d fun ds => { ds with tb := ds.tb.resize display l'.configId }).displays
            d').tb = (s.displays d').tb.resize x.1 l.configId :=
        setDisplay_forall (P := fun d' ds => ds.tb = (s.displays d').tb ∨
          ∃ l x, some l' = some l ∧ x ∈ l.displays ∧
            ds.tb = (s.displays d').tb.resize x.1 l.configId)
          (fun d' => Or.inl rfl) (Or.inr ⟨l', _, rfl, hmem, rfl⟩)
      refine ⟨hphase rfl ⟨rfl, hconfigs, hcompleted, hlength, fun d' hd' hcount => ?_⟩, rfl, rfl,
        htb⟩
      by_cases hd : d' = d
      · refine ⟨_, hmem, ?_⟩
        rw [hd]
        simp only [setDisplay_self]
        rfl
      · obtain ⟨x, hx, hdisplay⟩ := happlied d' (by omega) hcount
        refine ⟨x, hx, ?_⟩
        simp only [setDisplay_of_ne s hd]
        exact hdisplay
    | replace l' d hc =>
      simp only [Applying, hc] at happlying
      obtain ⟨rfl, hconfigs, hcompleted, hlength, happlied⟩ := happlying
      have hsame : ∀ d', ((s.setDisplay d fun ds =>
          { ds with txSubset := l'.subset d, subsetConfig := l'.configId }).displays d').tb =
            (s.displays d').tb :=
        setDisplay_forall (P := fun d' ds => ds.tb = (s.displays d').tb) (fun d' => rfl) rfl
      refine ⟨hphase rfl ⟨rfl, hconfigs, hcompleted, hlength, fun d' hd' hcount => ?_⟩, rfl, rfl,
        fun d' => Or.inl (hsame d')⟩
      obtain ⟨x, hx, hdisplay⟩ := happlied d' hd' hcount
      exact ⟨x, hx, by rw [hsame d']; exact hdisplay⟩
    | signal l' hc =>
      simp only [Applying, hc] at happlying
      obtain ⟨rfl, hconfigs, -, happlied⟩ := happlying
      exact ⟨hphase rfl (Or.inr ⟨hconfigs, rfl, happlied⟩), rfl, rfl, fun d => Or.inl rfl⟩

end Server

end ApertureC
