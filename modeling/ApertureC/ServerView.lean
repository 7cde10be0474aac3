import ApertureC.FrameRouting
import ApertureC.FrameWake

/-!
# A display of the server

The frame task and the tracking buffer of one display (`aperturec-server/src/task/frame_sync.rs`)
among all the tasks of the server.  What `Server` has of a display is a `WakeState`, and a step of
the server is a run of at most two of its actions.

* `SameTask`, `View` — a display of the server and the one display of `WakeState`.
* `Viewed` — a display is viewed by a state in which damage has a wake-up.

Principal results: `view_step` and `view_run` (**every step and every run of the server is a run of
each display's machine**), `viewed_step`, and `Viewed.newer` (a task that sleeps while there is
damage can be woken).
-/

set_option autoImplicit false

namespace ApertureC

open Geometry

/-- The same step of the same task.  `WakeTask` remembers for longer that the permits were
revoked. -/
inductive SameTask : FrameTask → WakeTask → Prop
  | clone (revoked : Bool) : SameTask (.clone revoked) (.clone revoked)
  | waiting (txs reserved : List Nat) :
    SameTask (.join txs reserved false) (.join false txs reserved false)
  | waited (revoked : Bool) (txs reserved : List Nat) :
    SameTask (.join txs reserved true) (.join revoked txs reserved true)
  | check (permits : List Nat) : SameTask (.check permits) (.check permits)
  | cut (permits : List Nat) : SameTask (.cut permits) (.cut permits)
  | send (permits : List Nat) (frame : Option Frame) :
    SameTask (.send permits frame) (.send permits frame)

structure View (ds : DisplayState) (revokeWatch : Nat) (w : WakeState) : Prop where
  tb : w.tb = ds.tb
  txSubset : w.txSubset = ds.txSubset
  task : SameTask ds.task w.task
  damageSeen : w.damageSeen = ds.damageSeen
  revokeSeen : w.revokeSeen = ds.revokeSeen
  revokeWatch : w.revokeWatch = revokeWatch

/-- What a display of the server shares with a `WakeState`. -/
def viewOf (ds : DisplayState) (revokeWatch : Nat) (task : WakeTask) : WakeState :=
  ⟨ds.tb, ds.txSubset, task, ds.damageSeen, revokeWatch, ds.revokeSeen⟩

theorem View.eq_viewOf {ds : DisplayState} {revokeWatch : Nat} {w : WakeState}
    (h : View ds revokeWatch w) : w = viewOf ds revokeWatch w.task := by
  obtain ⟨htb, hsubset, -, hdamage, hseen, hwatch⟩ := h
  cases w
  simp only at htb hsubset hdamage hseen hwatch
  simp only [viewOf, htb, hsubset, hdamage, hseen, hwatch]

theorem view_viewOf {ds : DisplayState} {revokeWatch : Nat} {task : WakeTask}
    (h : SameTask ds.task task) : View ds revokeWatch (viewOf ds revokeWatch task) :=
  ⟨rfl, rfl, h, rfl, rfl, rfl⟩

/-- A display is viewed by a state in which damage has a wake-up. -/
def Viewed (ds : DisplayState) (revokeWatch : Nat) : Prop :=
  ∃ w consumed, View ds revokeWatch w ∧ WakeState.Inv (w, consumed)

/-- **A task that sleeps while there is damage can be woken.** -/
theorem Viewed.newer {ds : DisplayState} {revokeWatch : Nat} (h : Viewed ds revokeWatch)
    {txs reserved : List Nat} (ht : ds.task = .join txs reserved false)
    (hdamage : ds.tb.damage ≠ .none) : ∀ n ∈ ds.damageSeen, n < ds.tb.damageWatch := by
  obtain ⟨w, consumed, hview, hinv⟩ := h
  have htask := hview.task
  rw [ht] at htask
  have howes : w.task.owesCut = false := by
    generalize w.task = task at htask
    cases htask
    rfl
  rw [← hview.damageSeen, ← hview.tb]
  exact hinv.newer (by rw [hview.tb]; exact hdamage) howes

namespace Server

section Steps

variable {s s' : Server} {cc : ConnectedComponents}

/-- A step of the frame task of the display. -/
theorem view_frame {d : Nat} {w : WakeState} (h : View (s.displays d) s.revokeWatch w)
    (hmove : s.FrameMove d s') :
    ∃ w', Machine.Reachable (WakeState.step cc) w w' ∧
      View (s'.displays d) s'.revokeWatch w' := by
  have hone : ∀ {a : WakeAct} {w' : WakeState}, WakeState.step cc w a = some w' →
      View (s'.displays d) s'.revokeWatch w' →
      ∃ w', Machine.Reachable (WakeState.step cc) w w' ∧
        View (s'.displays d) s'.revokeWatch w' :=
    fun hstep hview => ⟨_, Machine.Reachable.head hstep (.refl _), hview⟩
  have htask := h.task
  rw [h.eq_viewOf] at hone ⊢
  generalize w.task = task at htask hone ⊢
  cases hmove with
  | clone revoked ht =>
    rw [ht] at htask
    cases htask
    cases revoked with
    | false =>
      refine hone (a := .clone) rfl ?_
      rw [setDisplay_self]
      exact view_viewOf (.waiting _ _)
    | true =>
      -- there is nothing to wait for
      refine ⟨_, Machine.Reachable.head (a := .clone) rfl
        (Machine.Reachable.head (a := .waited 0) rfl (.refl _)), ?_⟩
      rw [setDisplay_self]
      exact view_viewOf (.waited _ _ _)
  | reserved e txs reserved waited ht hmem hnew he hempty hfree =>
    rw [ht] at htask
    cases htask with
    | waiting =>
      refine hone (a := .reserved e) (if_pos ⟨hmem, hnew⟩) ?_
      rw [setDisplay_self]
      exact view_viewOf (.waiting _ _)
    | waited revoked =>
      refine hone (a := .reserved e) (if_pos ⟨hmem, hnew⟩) ?_
      rw [setDisplay_self]
      exact view_viewOf (.waited revoked _ _)
  | waited version txs reserved ht hnew hle =>
    rw [ht] at htask
    cases htask
    refine hone (a := .waited version) (if_pos ⟨hnew, hle⟩) ?_
    rw [setDisplay_self]
    exact view_viewOf (.waited _ _ _)
  | joined txs reserved ht hall =>
    rw [ht] at htask
    cases htask
    refine hone (a := .joined) (if_pos hall) ?_
    rw [setDisplay_self]
    exact view_viewOf (.check _)
  | revoke permits ht hseen =>
    rw [ht] at htask
    cases htask
    refine hone (a := .check) (if_pos hseen) ?_
    rw [setDisplay_self]
    exact view_viewOf (.clone true)
  | check permits ht hseen =>
    rw [ht] at htask
    cases htask
    refine hone (a := .check) (if_neg (not_not.mpr hseen)) ?_
    rw [setDisplay_self]
    exact view_viewOf (.cut _)
  | undamaged permits ht hnone =>
    rw [ht] at htask
    cases htask
    have hcut : (s.displays d).tb.cutFrame = some (none, (s.displays d).tb) := by
      simp [TrackingBuffer.cutFrame, hnone]
    refine hone (a := .cut) (Option.map_eq_some_iff.mpr ⟨_, hcut, rfl⟩) ?_
    rw [setDisplay_self]
    exact view_viewOf (.send _ _)
  | cut permits f ht hcuts hcut =>
    rw [ht] at htask
    cases htask
    refine hone (a := .cut) (Option.map_eq_some_iff.mpr ⟨_, hcut, rfl⟩) ?_
    rw [setDisplay_self]
    exact view_viewOf (.send _ _)
  | send permits frame ht =>
    rw [ht] at htask
    cases htask
    refine hone (a := .send) rfl ?_
    rw [setDisplay_self]
    exact view_viewOf (.clone false)

/-- A frame task leaves the other displays alone. -/
theorem FrameMove.other {d d' : Nat} (h : s.FrameMove d s') (hne : d' ≠ d) :
    s'.displays d' = s.displays d' ∧ s'.revokeWatch = s.revokeWatch := by
  cases h <;> exact ⟨setDisplay_of_ne _ hne _, rfl⟩

/-- A display is resized, is given its senders, and then every task is told to reserve again. -/
theorem view_config {d : Nat} {w : WakeState} (h : View (s.displays d) s.revokeWatch w)
    (hs : s.configStep = some s') :
    ∃ w', Machine.Reachable (WakeState.step cc) w w' ∧
      View (s'.displays d) s'.revokeWatch w' := by
  have hone : ∀ {a : WakeAct} {w' : WakeState},
      WakeState.step cc (viewOf (s.displays d) s.revokeWatch w.task) a = some w' →
      Machine.Reachable (WakeState.step cc) w w' := by
    intro a w' hstep
    rw [← h.eq_viewOf] at hstep
    exact .head hstep (.refl _)
  cases configStep_move hs with
  | refuse | accept | finish => exact ⟨w, .refl w, h⟩
  | resize l d' display areas hc hget =>
    by_cases hd : d = d'
    · refine ⟨_, hone (a := .resize display l.configId) rfl, ?_⟩
      rw [← hd, setDisplay_self]
      exact view_viewOf h.task
    · refine ⟨w, .refl w, ?_⟩
      rw [setDisplay_of_ne s hd]
      exact h
  | replace l d' hc =>
    by_cases hd : d = d'
    · refine ⟨_, hone (a := .replace (l.subset d)) rfl, ?_⟩
      rw [← hd, setDisplay_self]
      exact view_viewOf h.task
    · refine ⟨w, .refl w, ?_⟩
      rw [setDisplay_of_ne s hd]
      exact h
  | signal l hc => exact ⟨_, hone (a := .revoke) rfl, view_viewOf h.task⟩

/-- **Every step of the server is a run of each display's machine.** -/
theorem view_step {comp : Compressors} (hwf : ∀ d, (s.displays d).tb.WF) {d : Nat} {w : WakeState}
    (h : View (s.displays d) s.revokeWatch w) {a : ServerAct} (hs : s.step cc comp a = some s') :
    ∃ w', Machine.Reachable (WakeState.step cc) w w' ∧
      View (s'.displays d) s'.revokeWatch w' := by
  cases a with
  | displayEvent displays =>
    obtain ⟨-, -, rfl⟩ := displayEvent_spec hs
    exact ⟨w, .refl w, h⟩
  | displayEventFailed =>
    have hs' := displayEventFailed_spec hs
    subst hs'
    exact ⟨w, .refl w, h⟩
  | backend => cases backendStep_move hs <;> exact ⟨w, .refl w, h⟩
  | config => exact view_config h hs
  | frame d' | reserved d' | waited d' =>
    obtain ⟨-, hmove⟩ := frameTask_move (d := d') rfl hwf hs
    by_cases hd : d = d'
    · rw [← hd] at hmove
      exact view_frame h hmove
    · obtain ⟨hdisplay, hrevoke⟩ := hmove.other hd
      rw [hdisplay, hrevoke]
      exact ⟨w, .refl w, h⟩
  | update d' fb =>
    obtain ⟨-, tb, htb, rfl⟩ := update_spec hs
    by_cases hd : d = d'
    · rw [← hd] at htb ⊢
      refine ⟨viewOf { s.displays d with tb := tb } s.revokeWatch w.task,
        .head (a := .update fb) ?_ (.refl _), ?_⟩
      · rw [h.eq_viewOf]
        exact Option.map_eq_some_iff.mpr ⟨tb, htb, rfl⟩
      · rw [setDisplay_self]
        exact view_viewOf h.task
    · refine ⟨w, .refl w, ?_⟩
      rw [setDisplay_of_ne s hd]
      exact h
  | takeCommand e =>
    obtain ⟨-, -, command, rest, -, rfl⟩ := takeCommand_spec hs
    exact ⟨w, .refl w, h⟩
  | takeFrame e =>
    obtain ⟨-, -, frame, rest, -, rfl⟩ := takeFrame_spec hs
    exact ⟨w, .refl w, h⟩
  | encode e order =>
    obtain ⟨-, frame, parts, messages, -, -, rfl⟩ := encode_spec hs
    exact ⟨w, .refl w, h⟩

theorem viewed_step {comp : Compressors} (hwf : ∀ d, (s.displays d).tb.WF)
    (h : ∀ d, Viewed (s.displays d) s.revokeWatch) {a : ServerAct}
    (hs : s.step cc comp a = some s') (d : Nat) : Viewed (s'.displays d) s'.revokeWatch := by
  obtain ⟨w, consumed, hview, hinv⟩ := h d
  obtain ⟨w', hrun, hview'⟩ := view_step hwf hview hs
  obtain ⟨consumed', hinv'⟩ := hinv.run hrun
  exact ⟨w', consumed', hview', hinv'⟩

end Steps

section Runs

variable (maxEncoderCount : Nat) (scheme : Scheme) (displays : List (Display × List Box2D))

theorem view_init (d : Nat) :
    View ((init maxEncoderCount scheme displays).displays d)
      (init maxEncoderCount scheme displays).revokeWatch
      (.start d ((init maxEncoderCount scheme displays).displays d).tb.display 0
        ((init maxEncoderCount scheme displays).displays d).txSubset) :=
  ⟨rfl, rfl, .clone false, rfl, rfl, rfl⟩

theorem viewed_init (d : Nat) :
    Viewed ((init maxEncoderCount scheme displays).displays d)
      (init maxEncoderCount scheme displays).revokeWatch :=
  ⟨_, false, view_init maxEncoderCount scheme displays d, WakeState.start_inv _ _ _ _⟩

/-- **Every run of the server is a run of each display's machine.** -/
theorem view_run (cc : ConnectedComponents) (comp : Compressors) {s : Server}
    (hr : Machine.Reachable (step cc comp) (init maxEncoderCount scheme displays) s) (d : Nat) :
    ∃ w, Machine.Reachable (WakeState.step cc)
        (.start d ((init maxEncoderCount scheme displays).displays d).tb.display 0
          ((init maxEncoderCount scheme displays).displays d).txSubset) w ∧
      View (s.displays d) s.revokeWatch w := by
  have hinv := hr.invariant
    (I := fun s => s.SendersInv ∧ ∃ w, Machine.Reachable (WakeState.step cc)
        (.start d ((init maxEncoderCount scheme displays).displays d).tb.display 0
          ((init maxEncoderCount scheme displays).displays d).txSubset) w ∧
      View (s.displays d) s.revokeWatch w)
    ⟨sendersInv_init maxEncoderCount scheme displays,
      _, .refl _, view_init maxEncoderCount scheme displays d⟩
    fun s a s' ⟨hsenders, w, hrun, hview⟩ hs => by
      obtain ⟨w', hrun', hview'⟩ := view_step (fun d => (hsenders.displays d).wf) hview hs
      exact ⟨sendersInv_step hsenders hs, w', hrun.trans hrun', hview'⟩
  exact hinv.2

end Runs

end Server

end ApertureC
