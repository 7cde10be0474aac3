import ApertureC.TrackingBuffer
import ApertureC.Lib.Machine

/-!
# Waking the frame task of a display (`aperturec-server/src/task/frame_sync.rs`)

One display's frame task against everything that changes its tracking buffer.  The task reserves a
permit on every frame channel and waits for damage at the same time, so a wake-up may be consumed
long before the last permit comes; every await is an action of its own.

* `WakeTask`, `WakeState`, `WakeAct`, `WakeState.step` — the task's loop, with the updates, the
  resizes, the new sender subsets and the revocations that reach it in any order.
* `WakeState.Unseen` — the damage watch has a change the task has not seen.
* `WakeTask.owesCut` — the task has consumed a wake-up, or is in its `permits_revoked` pass, and has
  not called `cut_frame` since; `noteConsumed` records the same from the actions.

Principal results: `update_watch` (an update of an undamaged buffer damages it only with a
notification) and `always_woken` (damage is never left without a wake-up).
-/

set_option autoImplicit false

namespace ApertureC

open Geometry

/-! ## Notifications -/

namespace TrackingBuffer

theorem applyCover_watch {new : Grid Pixel32} {o : Point} {tb tb' : TrackingBuffer} {b : Box2D}
    (h : applyCover new o tb b = some tb') : tb'.damageWatch = tb.damageWatch + 1 := by
  unfold applyCover at h
  cases hs : new.slice b with
  | none => simp [hs] at h
  | some src =>
    cases ha : tb.data.assign (b.translate o) id src with
    | none => simp [hs, ha] at h
    | some data =>
      simp only [hs, ha, Option.bind_eq_bind, Option.bind_some, Option.pure_def,
        Option.some.injEq] at h
      rw [← h]
      rfl

/-- Every box of a cover is notified. -/
theorem foldlM_applyCover_watch {new : Grid Pixel32} {o : Point} {bs : List Box2D} :
    ∀ {tb tb' : TrackingBuffer}, bs.foldlM (applyCover new o) tb = some tb' →
      tb'.damageWatch = tb.damageWatch + bs.length := by
  induction bs with
  | nil =>
    intro tb tb' h
    cases h
    rfl
  | cons b bs ih =>
    intro tb tb' h
    rw [List.foldlM_cons] at h
    cases hb : applyCover new o tb b with
    | none => simp [hb] at h
    | some tb₁ =>
      rw [hb] at h
      have h₁ := applyCover_watch hb
      have h₂ := ih h
      rw [List.length_cons]
      omega

/-- **An update notifies whenever it damages an undamaged buffer**, and never takes a notification
back. -/
theorem update_watch {cc : ConnectedComponents} {tb tb' : TrackingBuffer}
    {fb : SubframeBuffer Pixel32} (h : tb.update cc fb = some tb') :
    tb.damageWatch ≤ tb'.damageWatch ∧
      (tb.damage = .none → tb'.damage ≠ .none → tb.damageWatch < tb'.damageWatch) := by
  have hsame : tb.damageWatch ≤ tb.damageWatch ∧
      (tb.damage = .none → tb.damage ≠ .none → tb.damageWatch < tb.damageWatch) :=
    ⟨le_refl _, fun h₁ h₂ => absurd h₁ h₂⟩
  have hdiff : ∀ {new : Grid Pixel32} {o : Point} {bs : List Box2D},
      bs.foldlM (applyCover new o) tb = some tb' → tb.damageWatch ≤ tb'.damageWatch ∧
        (tb.damage = .none → tb'.damage ≠ .none → tb.damageWatch < tb'.damageWatch) := by
    intro new o bs hbs
    have hwatch := foldlM_applyCover_watch hbs
    cases bs with
    | nil =>
      cases hbs
      exact hsame
    | cons b bs =>
      rw [List.length_cons] at hwatch
      exact ⟨by omega, fun _ _ => by omega⟩
  unfold update at h
  split at h
  · cases h
    exact hsame
  · split at h
    · cases h
      exact hsame
    · rename_i i _
      cases hfb : i.relativeTo fb.origin with
      | none => simp [hfb] at h
      | some fbr =>
        cases htb : i.relativeTo tb.display.area.origin with
        | none => simp [hfb, htb] at h
        | some tbr =>
          cases hnew : fb.pixels.slice fbr.toBox2D with
          | none => simp [hfb, htb, hnew] at h
          | some new =>
            simp only [hfb, htb, hnew, Option.bind_eq_bind, Option.bind_some, Option.pure_def] at h
            split at h
            · rename_i hfull
              cases ha : tb.data.assign tbr.toBox2D id new with
              | none => simp [ha] at h
              | some data =>
                simp only [ha, Option.bind_some, Option.some.injEq] at h
                rw [← h]
                refine ⟨le_refl _, fun hnone => ?_⟩
                rw [hfull] at hnone
                cases hnone
            · cases hcurr : tb.data.slice tbr.toBox2D with
              | none => simp [hcurr] at h
              | some curr =>
                cases hcover : diffRectangleCover cc curr new with
                | none => simp [hcurr, hcover] at h
                | some cover =>
                  simp only [hcurr, hcover, Option.bind_some] at h
                  exact hdiff h

/-- After a cut nothing is damaged. -/
theorem cutFrame_damage {tb tb' : TrackingBuffer} {f : Option Frame}
    (h : tb.cutFrame = some (f, tb')) :
    tb'.damage = .none ∧ tb'.damageWatch = tb.damageWatch := by
  unfold cutFrame at h
  cases hd : tb.damage with
  | none =>
    simp only [hd, Option.bind_eq_bind, Option.bind_some, Option.pure_def, Option.some.injEq,
      Prod.mk.injEq] at h
    rw [← h.2]
    exact ⟨hd, rfl⟩
  | partialAreas areas =>
    cases hb : areas.inner.mapM tb.cutBuffer with
    | none => simp [hd, hb] at h
    | some bs =>
      simp only [hd, hb, Option.map_some, Option.bind_eq_bind, Option.bind_some, Option.pure_def,
        Option.some.injEq, Prod.mk.injEq] at h
      rw [← h.2]
      exact ⟨rfl, rfl⟩
  | full =>
    simp only [hd] at h
    split at h
    · cases hb : tb.cutBuffer (Box2D.fromSize tb.display.area.size) with
      | none => simp [hb] at h
      | some b =>
        simp only [hb, Option.map_some, Option.bind_eq_bind, Option.bind_some, Option.pure_def,
          Option.some.injEq, Prod.mk.injEq] at h
        rw [← h.2]
        exact ⟨rfl, rfl⟩
    · cases h

end TrackingBuffer

/-! ## The task -/

/-- The frame task, by the step it is about to take. -/
inductive WakeTask where
  | clone (permitsRevoked : Bool)
  /-- `try_join` of the reservations of `txs` and of `dh_fut`; `reserved` and `waited` have come. -/
  | join (permitsRevoked : Bool) (txs reserved : List Nat) (waited : Bool)
  | check (permits : List Nat)
  | cut (permits : List Nat)
  | send (permits : List Nat) (frame : Option Frame)

/-- A wake-up has been consumed, or the task is in its `permits_revoked` pass, and `cut_frame` has
not been called since. -/
def WakeTask.owesCut : WakeTask → Bool
  | .clone permitsRevoked => permitsRevoked
  | .join permitsRevoked _ _ waited => permitsRevoked || waited
  | .check _ => true
  | .cut _ => true
  | .send _ _ => false

structure WakeState where
  tb : TrackingBuffer
  txSubset : List Nat
  task : WakeTask
  /-- The version of the damage watch the handle has seen; a new handle is marked as changed. -/
  damageSeen : Option Nat
  revokeWatch : Nat
  revokeSeen : Nat

inductive WakeAct where
  /-- A frame buffer of the backend. -/
  | update (fb : SubframeBuffer Pixel32)
  /-- The three steps of a reconfiguration. -/
  | resize (display : Display) (displayConfig : Nat)
  | replace (txs : List Nat)
  | revoke
  /-- The steps of the task. -/
  | clone
  | reserved (tx : Nat)
  | waited (version : Nat)
  | joined
  | check
  | cut
  | send

namespace WakeState

/-- The task starts with the damage handle that has just been created. -/
def start (displayId : Nat) (display : Display) (displayConfig : Nat) (txs : List Nat) :
    WakeState where
  tb := .new displayId display displayConfig
  txSubset := txs
  task := .clone false
  damageSeen := none
  revokeWatch := 0
  revokeSeen := 0

/-- `watch.changed()` returns at once. -/
def Unseen (s : WakeState) : Prop := s.damageSeen ≠ some s.tb.damageWatch

instance (s : WakeState) : Decidable s.Unseen :=
  inferInstanceAs (Decidable (s.damageSeen ≠ some s.tb.damageWatch))

def step (cc : ConnectedComponents) (s : WakeState) : WakeAct → Option WakeState
  | .update fb => (s.tb.update cc fb).map fun tb => { s with tb := tb }
  | .resize display displayConfig => some { s with tb := s.tb.resize display displayConfig }
  | .replace txs => some { s with txSubset := txs }
  | .revoke => some { s with revokeWatch := s.revokeWatch + 1 }
  | .clone =>
    match s.task with
    | .clone permitsRevoked => some { s with task := .join permitsRevoked s.txSubset [] false }
    | _ => none
  | .reserved tx =>
    match s.task with
    | .join permitsRevoked txs reserved waited =>
      if tx ∈ txs ∧ tx ∉ reserved then
        some { s with task := .join permitsRevoked txs (tx :: reserved) waited }
      else none
    | _ => none
  | .waited version =>
    match s.task with
    | .join true txs reserved false => some { s with task := .join true txs reserved true }
    | .join false txs reserved false =>
      -- an update holds the lock of the buffer and not of the watch, so the version that is seen
      -- may be one it sent before its last
      if (∀ n ∈ s.damageSeen, n < version) ∧ version ≤ s.tb.damageWatch then
        some { s with task := .join false txs reserved true, damageSeen := some version }
      else none
    | _ => none
  | .joined =>
    match s.task with
    | .join _ txs reserved true =>
      if ∀ tx ∈ txs, tx ∈ reserved then some { s with task := .check txs } else none
    | _ => none
  | .check =>
    match s.task with
    | .check permits =>
      if s.revokeSeen ≠ s.revokeWatch then
        some { s with task := .clone true, revokeSeen := s.revokeWatch }
      else some { s with task := .cut permits }
    | _ => none
  | .cut =>
    match s.task with
    | .cut permits =>
      s.tb.cutFrame.map fun (frame, tb) => { s with tb := tb, task := .send permits frame }
    | _ => none
  | .send =>
    match s.task with
    | .send _ _ => some { s with task := .clone false }
    | _ => none

end WakeState

/-- Whether a wake-up has been consumed since the last call of `cut_frame`. -/
def noteConsumed (s : WakeState) : WakeAct → Bool → Bool
  | .waited _, consumed =>
    match s.task with
    | .join permitsRevoked _ _ _ => if permitsRevoked then consumed else true
    | _ => consumed
  | .cut, _ => false
  | _, consumed => consumed

/-- The task sleeps in `wait_for_damage`. -/
def WakeTask.sleeps : WakeTask → Bool
  | .join false _ _ false => true
  | _ => false

/-! ## The invariant -/

/-- Damage has a wake-up: the watch has an unseen change, or the task owes a cut.  A sleeping task
with damage can be woken. -/
structure Woken (cc : ConnectedComponents) (x : WakeState × Bool) : Prop where
  wake : x.1.tb.damage ≠ .none → x.1.Unseen ∨ x.1.task.owesCut = true
  /-- Owing a cut means that a wake-up has been consumed and `cut_frame` not called since. -/
  owes : x.1.task.owesCut = x.2
  awake : x.1.tb.damage ≠ .none → x.1.task.sleeps = true →
    ∃ version s', x.1.step cc (.waited version) = some s' ∧ s'.task.owesCut = true

/-- The invariant of a run. -/
structure WakeState.Inv (x : WakeState × Bool) : Prop where
  seen : ∀ n ∈ x.1.damageSeen, n ≤ x.1.tb.damageWatch
  wake : x.1.tb.damage ≠ .none → x.1.Unseen ∨ x.1.task.owesCut = true
  owes : x.1.task.owesCut = x.2

namespace WakeState

/-- A change stays unseen while the watch moves on. -/
theorem Unseen.mono {s : WakeState} {tb : TrackingBuffer} (h : s.Unseen)
    (hseen : ∀ n ∈ s.damageSeen, n ≤ s.tb.damageWatch) (hle : s.tb.damageWatch ≤ tb.damageWatch) :
    Unseen { s with tb := tb } := by
  intro heq
  have hn : tb.damageWatch ≤ s.tb.damageWatch := hseen _ heq
  have hw : s.tb.damageWatch = tb.damageWatch := by omega
  apply h
  rw [hw]
  exact heq

/-- A notification that has just been sent is unseen. -/
theorem unseen_of_lt {s : WakeState} {tb : TrackingBuffer}
    (hseen : ∀ n ∈ s.damageSeen, n ≤ s.tb.damageWatch) (hlt : s.tb.damageWatch < tb.damageWatch) :
    Unseen { s with tb := tb } := by
  intro heq
  have hn : tb.damageWatch ≤ s.tb.damageWatch := hseen _ heq
  omega

/-- **The buffer changes**: it is damaged only with a notification. -/
theorem Inv.setBuffer {s : WakeState} {consumed : Bool} (h : Inv (s, consumed))
    {tb : TrackingBuffer} (hle : s.tb.damageWatch ≤ tb.damageWatch)
    (hnew : s.tb.damage = .none → tb.damage ≠ .none → s.tb.damageWatch < tb.damageWatch) :
    Inv ({ s with tb := tb }, consumed) := by
  refine ⟨fun n hn => (h.seen n hn).trans hle, fun hd => ?_, h.owes⟩
  by_cases hnone : s.tb.damage = .none
  · exact Or.inl (unseen_of_lt h.seen (hnew hnone hd))
  · rcases h.wake hnone with hu | howes
    · exact Or.inl (hu.mono h.seen hle)
    · exact Or.inr howes

/-- **The task moves on** without calling `cut_frame`, and owes as much as before. -/
theorem Inv.setTask {s : WakeState} {consumed : Bool} (h : Inv (s, consumed)) {task : WakeTask}
    (howes : task.owesCut = s.task.owesCut) : Inv ({ s with task := task }, consumed) := by
  refine ⟨h.seen, fun hd => ?_, howes.trans h.owes⟩
  rcases h.wake hd with hu | ho
  · exact Or.inl hu
  · exact Or.inr (howes.trans ho)

/-- **One action keeps the invariant.** -/
theorem inv_step {cc : ConnectedComponents} {x y : WakeState × Bool} {a : WakeAct} (h : Inv x)
    (hs : Machine.observe (step cc) noteConsumed x a = some y) : Inv y := by
  obtain ⟨s, consumed⟩ := x
  obtain ⟨s', consumed'⟩ := y
  obtain ⟨hstep, hnote⟩ := Machine.observe_eq_some.mp hs
  simp only at hstep hnote
  cases a with
  | update fb =>
    cases hnote
    obtain ⟨tb, htb, rfl⟩ := Option.map_eq_some_iff.mp hstep
    obtain ⟨hle, hnew⟩ := TrackingBuffer.update_watch htb
    exact h.setBuffer hle hnew
  | resize display displayConfig =>
    cases hnote
    cases hstep
    exact h.setBuffer (Nat.le_succ _) fun _ _ => Nat.lt_succ_self _
  | replace txs =>
    cases hnote
    cases hstep
    exact ⟨h.seen, h.wake, h.owes⟩
  | revoke =>
    cases hnote
    cases hstep
    exact ⟨h.seen, h.wake, h.owes⟩
  | clone =>
    cases hnote
    simp only [step] at hstep
    split at hstep
    · rename_i permitsRevoked htask
      cases hstep
      apply h.setTask
      simp [htask, WakeTask.owesCut]
    · cases hstep
  | reserved tx =>
    cases hnote
    simp only [step] at hstep
    split at hstep
    · rename_i permitsRevoked txs reserved waited htask
      split at hstep
      · cases hstep
        apply h.setTask
        rw [htask]
        rfl
      · cases hstep
    · cases hstep
  | waited version =>
    simp only [step] at hstep
    simp only [noteConsumed] at hnote
    split at hstep
    · rename_i txs reserved htask
      cases hstep
      simp only [htask, if_true] at hnote
      rw [hnote]
      apply h.setTask
      rw [htask]
      rfl
    · rename_i txs reserved htask
      split at hstep
      · rename_i hver
        cases hstep
        simp only [htask, Bool.false_eq_true, if_false] at hnote
        rw [hnote]
        refine ⟨fun n hn => ?_, fun _ => Or.inr rfl, rfl⟩
        cases hn
        exact hver.2
      · cases hstep
    · cases hstep
  | joined =>
    cases hnote
    simp only [step] at hstep
    split at hstep
    · rename_i permitsRevoked txs reserved htask
      split at hstep
      · cases hstep
        apply h.setTask
        simp [htask, WakeTask.owesCut]
      · cases hstep
    · cases hstep
  | check =>
    cases hnote
    simp only [step] at hstep
    split at hstep
    · rename_i permits htask
      have howes : s.task.owesCut = true := by
        rw [htask]
        rfl
      split at hstep
      · cases hstep
        exact ⟨h.seen, fun _ => Or.inr rfl, howes.symm.trans h.owes⟩
      · cases hstep
        exact h.setTask howes.symm
    · cases hstep
  | cut =>
    cases hnote
    simp only [step] at hstep
    split at hstep
    · rename_i permits htask
      obtain ⟨⟨frame, tb⟩, hcut, rfl⟩ := Option.map_eq_some_iff.mp hstep
      obtain ⟨hdamage, hwatch⟩ := TrackingBuffer.cutFrame_damage hcut
      refine ⟨fun n hn => ?_, fun hd => absurd hdamage hd, rfl⟩
      show n ≤ tb.damageWatch
      rw [hwatch]
      exact h.seen n hn
    · cases hstep
  | send =>
    cases hnote
    simp only [step] at hstep
    split at hstep
    · rename_i permits frame htask
      cases hstep
      apply h.setTask
      rw [htask]
      rfl
    · cases hstep

/-- **Every run keeps the invariant.** -/
theorem Inv.run {cc : ConnectedComponents} {s s' : WakeState} {consumed : Bool}
    (h : Inv (s, consumed)) (hr : Machine.Reachable (step cc) s s') :
    ∃ consumed', Inv (s', consumed') := by
  refine hr.invariant (I := fun s => ∃ consumed, Inv (s, consumed)) ⟨consumed, h⟩ ?_
  rintro s a s' ⟨consumed, h⟩ hs
  exact ⟨_, inv_step h (Machine.observe_eq_some.mpr ⟨hs, rfl⟩)⟩

/-- The version that the watch has is newer than the one the task has seen. -/
theorem Inv.newer {s : WakeState} {consumed : Bool} (h : Inv (s, consumed))
    (hd : s.tb.damage ≠ .none) (howes : s.task.owesCut = false) :
    ∀ n ∈ s.damageSeen, n < s.tb.damageWatch := by
  have hunseen : s.Unseen := by
    rcases h.wake hd with hu | ho
    · exact hu
    · rw [howes] at ho
      cases ho
  refine fun n hn => lt_of_le_of_ne (h.seen n hn) fun heq => hunseen ?_
  rw [← heq]
  exact hn

theorem Inv.woken (cc : ConnectedComponents) {x : WakeState × Bool} (h : Inv x) : Woken cc x := by
  obtain ⟨s, consumed⟩ := x
  refine ⟨h.wake, h.owes, fun hd hsleeps => ?_⟩
  simp only at hd hsleeps ⊢
  unfold WakeTask.sleeps at hsleeps
  split at hsleeps
  · rename_i txs reserved htask
    have hnew := h.newer hd (by rw [htask]; rfl)
    refine ⟨s.tb.damageWatch, { s with
      task := .join false txs reserved true
      damageSeen := some s.tb.damageWatch }, ?_, rfl⟩
    simp only [step, htask]
    rw [if_pos ⟨hnew, le_refl _⟩]
  · cases hsleeps

theorem start_inv (displayId : Nat) (display : Display) (displayConfig : Nat) (txs : List Nat) :
    Inv (start displayId display displayConfig txs, false) := by
  refine ⟨(fun n hn => nomatch hn), fun _ => Or.inl ?_, rfl⟩
  intro heq
  cases heq

end WakeState

/-- **Damage is never left without a wake-up**, in every state of every interleaving of updates and
reconfigurations with the frame task of a display. -/
theorem always_woken (cc : ConnectedComponents) (displayId : Nat) (display : Display)
    (displayConfig : Nat) (txs : List Nat) (acts : List WakeAct) :
    Machine.Always (Machine.observe (WakeState.step cc) noteConsumed) (Woken cc)
      (WakeState.start displayId display displayConfig txs, false) acts := by
  have hstep : ∀ x a y, WakeState.Inv x →
      Machine.observe (WakeState.step cc) noteConsumed x a = some y → WakeState.Inv y :=
    fun x a y hx hs => WakeState.inv_step hx hs
  have hinv := Machine.always_of_invariant hstep acts
    (WakeState.start_inv displayId display displayConfig txs)
  exact hinv.mono fun x hx => hx.woken cc

end ApertureC
