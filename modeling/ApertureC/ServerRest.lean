import ApertureC.EncoderTermination
import ApertureC.Lib.Settling
import ApertureC.ScreenShown
import ApertureC.ServerView

/-!
# Where the server's tasks wait

What the backend task, the display config task, the frame tasks and the encoder tasks of `Server`
wait for (`aperturec-server/src/task/backend.rs`, `task/frame_sync.rs`, `task/encoder.rs`), and what
they have left to do.  What the encoders produce is always taken.

* `DisplaySupplied`, `Supplied` — senders and commands are for encoders that exist; permits that are
  reserved are held by a frame task.
* `Awake` — besides, damage has a wake-up on every display.
* `WaitsFor`, `Blocked` — a frame task waits for a permit that another holds.
* `changeWork`, `commandWork`, `frameWork` — steps that are left.

Principal results: `awake_step` (every step keeps the tasks awake), `configStep_none`,
`takeCommand_none`, `takeFrame_none`, `encode_none`, `Awake.resting` (**what a task waits for when
it cannot take a step**), `WaitsFor.config_ne` (who can wait for whom) and `backendStep_work`,
`configStep_work`, `takeCommand_work`, `takeFrame_work`, `encode_work`, `FrameMove.work` (a step
lowers what is left to do).
-/

set_option autoImplicit false

namespace ApertureC

open Geometry

/-! ## What a display still has to do -/

namespace FrameTask

/-- The senders whose permits have still to come. -/
def missing : FrameTask → List Nat
  | .join txs reserved _ => txs.filter (· ∉ reserved)
  | _ => []

/-- Steps that the task takes without being woken, with what the frames that it sends make the
encoders do.  Going around, it reserves a permit for each of the senders. -/
def work (encoderCount senders : Nat) : FrameTask → Nat
  | .clone false => senders + 1
  | .clone true => 2 * senders + 2 * encoderCount + 6
  | .join txs reserved false => (txs.filter (· ∉ reserved)).length
  | .join txs reserved true =>
    (txs.filter (· ∉ reserved)).length + senders + 2 * encoderCount + 5
  | .check _ => senders + 2 * encoderCount + 4
  | .cut _ => senders + 2 * encoderCount + 3
  | .send _ _ => senders + 2 * encoderCount + 2

end FrameTask

namespace DisplayState

/-- The notifications that the task has not seen. -/
def unseen (ds : DisplayState) : Nat :=
  match ds.damageSeen with
  | none => ds.tb.damageWatch + 1
  | some n => ds.tb.damageWatch - n

/-- A wake-up to come and a revocation to come are worth what they make the task do. -/
def work (encoderCount revokeWatch : Nat) (ds : DisplayState) : Nat :=
  ds.task.work encoderCount ds.txSubset.length +
    ds.unseen * (ds.txSubset.length + 2 * encoderCount + 6) +
    (if ds.revokeSeen = revokeWatch then 0 else ds.txSubset.length + 3)

/-- Only the task has moved on. -/
theorem work_lt {encoderCount revokeWatch n : Nat} {ds ds' : DisplayState}
    (hseen : ds'.damageSeen = ds.damageSeen) (hwatch : ds'.tb.damageWatch = ds.tb.damageWatch)
    (hrevoke : ds'.revokeSeen = ds.revokeSeen) (hsubset : ds'.txSubset = ds.txSubset)
    (htask : ds'.task.work encoderCount ds.txSubset.length + n <
      ds.task.work encoderCount ds.txSubset.length) :
    ds'.work encoderCount revokeWatch + n < ds.work encoderCount revokeWatch := by
  simp only [work, unseen, hseen, hwatch, hrevoke, hsubset]
  omega

/-- A wake-up pays for the way to the next wait. -/
theorem work_waited {encoderCount revokeWatch version : Nat} {ds : DisplayState}
    {txs reserved : List Nat} (ht : ds.task = .join txs reserved false)
    (hnew : ∀ n ∈ ds.damageSeen, n < version) (hle : version ≤ ds.tb.damageWatch) :
    work encoderCount revokeWatch
        { ds with task := .join txs reserved true, damageSeen := some version } <
      ds.work encoderCount revokeWatch := by
  have hunseen : ds.tb.damageWatch - version + 1 ≤ ds.unseen := by
    unfold unseen
    cases hseen : ds.damageSeen with
    | none =>
      simp only
      omega
    | some n =>
      have := hnew n hseen
      simp only
      omega
  have hpays := Nat.mul_le_mul_right (ds.txSubset.length + 2 * encoderCount + 6) hunseen
  rw [Nat.succ_mul] at hpays
  simp only [work, ht, FrameTask.work]
  simp only [unseen] at hpays ⊢
  omega

end DisplayState

/-- A permit that comes is missing no more. -/
theorem length_filter_cons_lt {txs reserved : List Nat} {e : Nat} (hmem : e ∈ txs)
    (hnew : e ∉ reserved) :
    (txs.filter (· ∉ e :: reserved)).length < (txs.filter (· ∉ reserved)).length := by
  have hsub : txs.filter (· ∉ e :: reserved) = (txs.filter (· ∉ reserved)).filter (· ≠ e) := by
    rw [List.filter_filter]
    congr 1
    funext x
    simp [not_or]
  rw [hsub]
  refine List.length_filter_lt_length_iff_exists.mpr ⟨e, List.mem_filter.mpr ⟨hmem, ?_⟩, ?_⟩
  · simpa using hnew
  · simp

/-- A frame in a channel is taken and then encoded. -/
def EncoderState.work (enc : EncoderState) : Nat :=
  2 * enc.frames.length + enc.encoding.toList.length

/-- The senders of a display are for encoders that exist. -/
structure DisplaySupplied (encoderCount : Nat) (ds : DisplayState) : Prop where
  subset : ∀ e ∈ ds.txSubset, e < encoderCount
  joining : ∀ txs reserved waited, ds.task = .join txs reserved waited →
    (∀ e ∈ txs, e < encoderCount) ∧ ∀ e ∈ reserved, e ∈ txs

/-- The permits that a task holds are of its senders. -/
theorem DisplaySupplied.permits {encoderCount : Nat} {ds : DisplayState}
    (h : DisplaySupplied encoderCount ds) {e : Nat} (he : e ∈ ds.task.permits) :
    ∃ txs ∈ ds.task.txs, e ∈ txs := by
  cases ht : ds.task with
  | clone revoked =>
    rw [ht] at he
    cases he
  | join txs reserved waited =>
    rw [ht] at he
    exact ⟨txs, rfl, (h.joining txs reserved waited ht).2 e he⟩
  | check permits =>
    rw [ht] at he
    exact ⟨permits, rfl, he⟩
  | cut permits =>
    rw [ht] at he
    exact ⟨permits, rfl, he⟩
  | send permits frame =>
    rw [ht] at he
    exact ⟨permits, rfl, he⟩

/-- The channels of a display come after those of the displays before it. -/
theorem Layout.offset_succ (l : Layout) (d : Nat) : l.offset (d + 1) = l.offset d + l.count d := by
  simp only [offset, count, List.take_add_one, List.map_append, List.sum_append]
  cases l.displays[d]? <;> simp

theorem Layout.offset_mono (l : Layout) : Monotone l.offset :=
  monotone_nat_of_le_succ fun d => by rw [l.offset_succ]; exact Nat.le_add_right _ _

/-- No channel belongs to two displays. -/
theorem Layout.eq_of_mem_subset {l : Layout} {d d' e : Nat} (h : e ∈ l.subset d)
    (h' : e ∈ l.subset d') : d = d' := by
  simp only [subset, List.mem_range'_1, ← offset_succ] at h h'
  by_contra hne
  rcases Nat.lt_or_gt_of_ne hne with hlt | hlt
  · have := l.offset_mono (Nat.succ_le_of_lt hlt)
    simp only [Nat.succ_eq_add_one] at this
    omega
  · have := l.offset_mono (Nat.succ_le_of_lt hlt)
    simp only [Nat.succ_eq_add_one] at this
    omega

/-- The channels of a display are channels of the configuration. -/
theorem Layout.lt_of_mem_subset {l : Layout} {d e : Nat} (h : e ∈ l.subset d) :
    e < l.encoderCount := by
  simp only [Layout.subset, Layout.offset, Layout.count, List.mem_range'_1] at h
  cases hx : l.displays[d]? with
  | none =>
    rw [hx] at h
    simp only [Option.map_none, Option.getD_none] at h
    omega
  | some x =>
    rw [hx] at h
    simp only [Option.map_some, Option.getD_some] at h
    obtain ⟨hd, hget⟩ := List.getElem?_eq_some_iff.mp hx
    have hsum : l.encoderCount = ((l.displays.take d).map fun d => d.2.length).sum +
        (x.2.length + ((l.displays.drop (d + 1)).map fun d => d.2.length).sum) := by
      rw [Layout.encoderCount]
      conv_lhs => rw [← List.take_append_drop d l.displays]
      rw [List.map_append, List.sum_append, List.drop_eq_getElem_cons hd, hget, List.map_cons,
        List.sum_cons]
    omega

/-! ## The server's tasks -/

namespace Server

/-- The tasks can be changed to the displays of the configuration. -/
def Fits (s : Server) (l : Layout) : Prop :=
  (l.check s.displayCount s.maxEncoderCount).isOk = true ∧ l.encoderCount ≤ s.encoderCount ∧
    ∃ x ∈ l.displays, x.1.isEnabled = true

instance (s : Server) (l : Layout) : Decidable (s.Fits l) := inferInstanceAs (Decidable (_ ∧ _))

/-- A frame task holds a permit of the encoder. -/
def Holds (s : Server) (e : Nat) : Prop :=
  ∃ d, d < s.displayCount ∧ e ∈ (s.displays d).task.permits

structure Supplied (s : Server) : Prop where
  fits : ∀ l, s.changing = some l → s.Fits l
  commands : ∀ l commands, s.backend = .reconfigure l commands →
    ∀ x ∈ commands, x.1 < s.encoderCount
  displays : ∀ d, DisplaySupplied s.encoderCount (s.displays d)
  reserved : ∀ e, (s.encoders e).reserved ≠ 0 → s.Holds e

/-- What the tasks need exists, and damage has a wake-up on every display. -/
structure Awake (s : Server) : Prop extends s.Supplied where
  viewed : ∀ d, Viewed (s.displays d) s.revokeWatch

section Steps

variable {s s' : Server}

theorem setEncoder_apply (s : Server) (e e' : Nat) (f : EncoderState → EncoderState) :
    (s.setEncoder e f).encoders e' = if e' = e then f (s.encoders e') else s.encoders e' := by
  by_cases he : e' = e
  · rw [if_pos he, he]
    exact Function.update_self ..
  · rw [if_neg he]
    exact Function.update_of_ne he ..

theorem Holds.setDisplay {d e : Nat} {f : DisplayState → DisplayState} (h : s.Holds e)
    (hd : e ∈ (s.displays d).task.permits → e ∈ (f (s.displays d)).task.permits) :
    (s.setDisplay d f).Holds e := by
  obtain ⟨d', hd', hmem⟩ := h
  refine ⟨d', hd', ?_⟩
  by_cases heq : d' = d
  · rw [heq] at hmem ⊢
    rw [setDisplay_self]
    exact hd hmem
  · rw [setDisplay_of_ne s heq]
    exact hmem

theorem FrameMove.sizes {d : Nat} (h : s.FrameMove d s') :
    s'.displayCount = s.displayCount ∧ s'.maxEncoderCount = s.maxEncoderCount ∧
      s'.encoderCount = s.encoderCount := by
  cases h <;> exact ⟨rfl, rfl, rfl⟩

theorem FrameMove.supplied {d : Nat} (h : s.FrameMove d s')
    (hd : ∀ d, DisplaySupplied s.encoderCount (s.displays d)) :
    ∀ d, DisplaySupplied s.encoderCount (s'.displays d) := by
  obtain ⟨hsubset, hjoining⟩ := hd d
  cases h with
  | clone revoked ht =>
    refine setDisplay_forall (P := fun _ => DisplaySupplied s.encoderCount) hd
      ⟨hsubset, fun txs reserved waited heq => ?_⟩
    cases heq
    exact ⟨hsubset, nofun⟩
  | reserved e txs reserved waited ht hmem hnew he hempty hfree =>
    refine setDisplay_forall (P := fun _ => DisplaySupplied s.encoderCount) hd
      ⟨hsubset, fun txs' reserved' waited' heq => ?_⟩
    cases heq
    obtain ⟨hlt, hsub⟩ := hjoining txs reserved waited ht
    refine ⟨hlt, fun e' he' => ?_⟩
    rcases List.mem_cons.mp he' with rfl | he'
    · exact hmem
    · exact hsub e' he'
  | waited version txs reserved ht hnew hle =>
    refine setDisplay_forall (P := fun _ => DisplaySupplied s.encoderCount) hd
      ⟨hsubset, fun txs' reserved' waited' heq => ?_⟩
    cases heq
    exact hjoining txs reserved false ht
  | _ =>
    exact setDisplay_forall (P := fun _ => DisplaySupplied s.encoderCount) hd ⟨hsubset, nofun⟩

/-- A permit that is reserved goes from step to step with the task that holds it, and is freed by
it. -/
theorem FrameMove.holds {d : Nat} (hcount : d < s.displayCount) (h : s.FrameMove d s')
    (hsupplied : DisplaySupplied s.encoderCount (s.displays d))
    (hr : ∀ e, (s.encoders e).reserved ≠ 0 → s.Holds e) :
    ∀ e, (s'.encoders e).reserved ≠ 0 → s'.Holds e := by
  intro e he
  cases h with
  | clone revoked ht =>
    refine (hr e he).setDisplay fun hmem => ?_
    simp [ht, FrameTask.permits] at hmem
  | reserved e' txs reserved waited ht hmem hnew he' hempty hfree =>
    by_cases heq : e = e'
    · refine ⟨d, hcount, ?_⟩
      rw [setDisplay_self, heq]
      exact List.mem_cons_self
    · simp only [setDisplay, setEncoder_apply, if_neg heq] at he
      refine Holds.setDisplay (s := s.setEncoder e' _) (hr e he) fun hold => ?_
      simp only [setEncoder, ht, FrameTask.permits] at hold ⊢
      exact List.mem_cons_of_mem _ hold
  | joined txs reserved ht hall =>
    refine (hr e he).setDisplay fun hmem => ?_
    simp only [ht, FrameTask.permits] at hmem ⊢
    exact (hsupplied.joining txs reserved true ht).2 e hmem
  | revoke permits ht hrevoked =>
    by_cases hmem : e ∈ permits
    · simp [setDisplay, setReserved, hmem] at he
    · simp only [setDisplay, setReserved, if_neg hmem] at he
      refine Holds.setDisplay (s := s.setReserved permits 0) (hr e he) fun hold => ?_
      simp only [setReserved, ht, FrameTask.permits] at hold
      exact absurd hold hmem
  | waited _ _ _ ht | check _ ht | undamaged _ ht =>
    refine (hr e he).setDisplay fun hmem => ?_
    simpa only [ht, FrameTask.permits] using hmem
  | cut permits f ht hcuts =>
    refine Holds.setDisplay (s := s.noteCut (some f)) (hr e he) fun hmem => ?_
    simpa only [noteCut, ht, FrameTask.permits] using hmem
  | send permits frame ht =>
    by_cases hmem : e ∈ permits
    · simp [setDisplay, sendFrame, hmem] at he
    · simp only [setDisplay, sendFrame, if_neg hmem] at he
      refine Holds.setDisplay (s := s.sendFrame permits frame) (hr e he) fun hold => ?_
      simp only [sendFrame, ht, FrameTask.permits] at hold
      exact absurd hold hmem

theorem Phase.replacing (h : s.Phase) {l : Layout} {d : Nat} (hc : s.configTask = .replace l d) :
    s.changing = some l := by
  unfold Phase at h
  split at h
  · rw [hc] at h
    cases h.2
  · rename_i l' hchanging
    simp only [Applying, hc] at h
    rw [hchanging, h.1]

theorem supplied_displayEvent (h : s.Supplied) {displays : List (Display × List Box2D)}
    (hfits : s.Fits ⟨s.displayConfigId + 1, displays⟩)
    (hs : s.displayEvent displays = some s') : s'.Supplied := by
  obtain ⟨-, -, rfl⟩ := displayEvent_spec hs
  refine ⟨fun l hl => ?_, fun l commands hb x hx => ?_, h.displays, h.reserved⟩
  · cases hl
    exact hfits
  · cases hb
    obtain ⟨a, ha, rfl⟩ := List.mem_map.mp hx
    exact List.mem_range.mp (List.of_mem_zip ha).1

theorem supplied_backend (h : s.Supplied) (hs : s.backendStep = some s') : s'.Supplied := by
  cases backendStep_move hs with
  | reconfigured l hb =>
    refine ⟨fun l' hl => ?_, fun l' commands hb' => ?_, h.displays, h.reserved⟩
    · cases hl
      exact h.fits l (by simp only [changing, hb])
    · cases hb'
  | command l e command commands hb hroom =>
    refine ⟨fun l' hl => ?_, fun l' commands' hb' x hx => ?_, h.displays, fun e' he => ?_⟩
    · cases hl
      exact h.fits l (by simp only [changing, hb])
    · cases hb'
      exact h.commands l _ hb x (List.mem_cons_of_mem _ hx)
    · refine h.reserved e' ?_
      simp only [setEncoder_apply] at he
      split at he <;> exact he
  | complete l hb hcompleted =>
    refine ⟨fun l' hl => ?_, fun l' commands hb' => ?_, h.displays, h.reserved⟩
    · cases hl
    · cases hb'

theorem supplied_config (h : s.Supplied) (hphase : s.Phase) (hs : s.configStep = some s') :
    s'.Supplied := by
  cases configStep_move hs with
  | refuse l rest e hc hnew hcheck => exact ⟨h.fits, h.commands, h.displays, h.reserved⟩
  | accept l rest hc hnew hcheck => exact ⟨h.fits, h.commands, h.displays, h.reserved⟩
  | finish l d hc hnone => exact ⟨h.fits, h.commands, h.displays, h.reserved⟩
  | resize l d display areas hc hget =>
    have hdisplays : ∀ d', DisplaySupplied s.encoderCount ((s.setDisplay d fun ds =>
        { ds with tb := ds.tb.resize display l.configId }).displays d') :=
      setDisplay_forall (P := fun _ => DisplaySupplied s.encoderCount) h.displays
        ⟨(h.displays d).subset, (h.displays d).joining⟩
    have hholds : ∀ e, s.Holds e → (s.setDisplay d fun ds =>
        { ds with tb := ds.tb.resize display l.configId }).Holds e :=
      fun e he => he.setDisplay fun hm => hm
    exact ⟨h.fits, h.commands, hdisplays, fun e he => hholds e (h.reserved e he)⟩
  | replace l d hc =>
    have hfits := h.fits l (hphase.replacing hc)
    have hdisplays : ∀ d', DisplaySupplied s.encoderCount ((s.setDisplay d fun ds =>
        { ds with txSubset := l.subset d, subsetConfig := l.configId }).displays d') :=
      setDisplay_forall (P := fun _ => DisplaySupplied s.encoderCount) h.displays
        ⟨fun e he => (Layout.lt_of_mem_subset he).trans_le hfits.2.1, (h.displays d).joining⟩
    have hholds : ∀ e, s.Holds e → (s.setDisplay d fun ds =>
        { ds with txSubset := l.subset d, subsetConfig := l.configId }).Holds e :=
      fun e he => he.setDisplay fun hm => hm
    exact ⟨h.fits, h.commands, hdisplays, fun e he => hholds e (h.reserved e he)⟩
  | signal l hc => exact ⟨h.fits, h.commands, h.displays, h.reserved⟩

theorem supplied_frame (h : s.Supplied) {d : Nat} (hd : d < s.displayCount)
    (hmove : s.FrameMove d s') : s'.Supplied := by
  obtain ⟨hcount, hmax, hencoders⟩ := hmove.sizes
  have hbackend := hmove.same.1.backend
  have hchanging := hmove.same.1.changing
  refine ⟨fun l hl => ?_, fun l commands hb => ?_, ?_, hmove.holds hd (h.displays d) h.reserved⟩
  · rw [hchanging] at hl
    unfold Fits
    rw [hcount, hmax, hencoders]
    exact h.fits l hl
  · rw [hbackend] at hb
    rw [hencoders]
    exact h.commands l commands hb
  · rw [hencoders]
    exact hmove.supplied h.displays

/-- An encoder that changes what it does keeps its permits. -/
theorem Supplied.setEncoder (h : s.Supplied) (e : Nat) {f : EncoderState → EncoderState}
    (hf : ∀ enc, (f enc).reserved = enc.reserved) : (s.setEncoder e f).Supplied := by
  refine ⟨h.fits, h.commands, h.displays, fun e' he => h.reserved e' ?_⟩
  simp only [setEncoder_apply] at he
  split at he
  · rwa [hf] at he
  · exact he

theorem supplied_step {cc : ConnectedComponents} {comp : Compressors} (h : s.Supplied)
    (hframed : s.Framed) {a : ServerAct}
    (hfits : ∀ displays, a = .displayEvent displays → s.Fits ⟨s.displayConfigId + 1, displays⟩)
    (hs : s.step cc comp a = some s') : s'.Supplied := by
  have hwf : ∀ d, (s.displays d).tb.WF := fun d => (hframed.displays d).synced.wf
  cases a with
  | displayEvent displays => exact supplied_displayEvent h (hfits displays rfl) hs
  | displayEventFailed =>
    have hs' := displayEventFailed_spec hs
    subst hs'
    exact ⟨h.fits, h.commands, h.displays, h.reserved⟩
  | backend => exact supplied_backend h hs
  | config => exact supplied_config h hframed.phase hs
  | frame d | reserved d | waited d =>
    obtain ⟨hd, hmove⟩ := frameTask_move (d := d) rfl hwf hs
    exact supplied_frame h hd hmove
  | update d fb =>
    obtain ⟨-, tb, htb, rfl⟩ := update_spec hs
    exact ⟨h.fits, h.commands, setDisplay_forall (P := fun _ => DisplaySupplied s.encoderCount)
      h.displays ⟨(h.displays d).subset, (h.displays d).joining⟩,
      fun e he => (h.reserved e he).setDisplay fun hm => hm⟩
  | takeCommand e =>
    obtain ⟨-, -, command, rest, -, rfl⟩ := takeCommand_spec hs
    exact h.setEncoder e fun _ => rfl
  | takeFrame e =>
    obtain ⟨-, -, frame, rest, -, rfl⟩ := takeFrame_spec hs
    exact h.setEncoder e fun _ => rfl
  | encode e order =>
    obtain ⟨-, frame, parts, messages, -, -, rfl⟩ := encode_spec hs
    have hset := h.setEncoder e (f := fun enc => { enc with encoding := none }) fun _ => rfl
    exact ⟨hset.fits, hset.commands, hset.displays, hset.reserved⟩

/-- **A step of any task keeps the tasks awake.** -/
theorem awake_step {cc : ConnectedComponents} {comp : Compressors} (h : s.Awake)
    (hframed : s.Framed) {a : ServerAct}
    (hfits : ∀ displays, a = .displayEvent displays → s.Fits ⟨s.displayConfigId + 1, displays⟩)
    (hs : s.step cc comp a = some s') : s'.Awake :=
  ⟨supplied_step h.toSupplied hframed hfits hs,
    viewed_step (fun d => (hframed.displays d).synced.wf) h.viewed hs⟩

end Steps

/-- No step changes the number of displays. -/
theorem step_displayCount {cc : ConnectedComponents} {comp : Compressors} {s s' : Server}
    (hwf : ∀ d, (s.displays d).tb.WF) {a : ServerAct} (hs : s.step cc comp a = some s') :
    s'.displayCount = s.displayCount := by
  cases a with
  | displayEvent displays =>
    obtain ⟨-, -, rfl⟩ := displayEvent_spec hs
    rfl
  | displayEventFailed =>
    have hs' := displayEventFailed_spec hs
    rw [hs']
  | backend => cases backendStep_move hs <;> rfl
  | config => cases configStep_move hs <;> rfl
  | frame d | reserved d | waited d => exact (frameTask_move (d := d) rfl hwf hs).2.sizes.1
  | update d fb =>
    obtain ⟨-, tb, -, rfl⟩ := update_spec hs
    rfl
  | takeCommand e => exact (takeCommand_same hs).1.count
  | takeFrame e => exact (takeFrame_same hs).1.count
  | encode e order => exact (encode_same hs).1.count

theorem supplied_init (maxEncoderCount : Nat) (scheme : Scheme)
    (displays : List (Display × List Box2D)) : (init maxEncoderCount scheme displays).Supplied := by
  refine ⟨nofun, nofun, fun d => ⟨fun e he => ?_, nofun⟩, ?_⟩
  · exact Layout.lt_of_mem_subset he
  · intro e he
    exact absurd rfl he

theorem awake_init (maxEncoderCount : Nat) (scheme : Scheme)
    (displays : List (Display × List Box2D)) : (init maxEncoderCount scheme displays).Awake :=
  ⟨supplied_init maxEncoderCount scheme displays, viewed_init maxEncoderCount scheme displays⟩

/-! ## Where a task cannot take a step -/

section Stuck

variable {s : Server}

theorem configStep_none (h : s.Awake) (hphase : s.Phase) (hs : s.configStep = none) :
    s.configTask = .recv ∧ s.newDisplayConfigs = [] := by
  cases hc : s.configTask with
  | recv =>
    cases hnew : s.newDisplayConfigs with
    | nil => exact ⟨rfl, rfl⟩
    | cons l rest =>
      simp only [configStep, hc, hnew] at hs
      split at hs <;> cases hs
  | resize l d =>
    simp only [configStep, hc] at hs
    split at hs <;> cases hs
  | replace l d =>
    simp only [configStep, hc] at hs
    cases hs
  | signal l =>
    simp only [configStep, hc] at hs
    cases hs
  | failed e =>
    -- the checks of the configuration have been passed
    cases hchanging : s.changing with
    | none =>
      simp only [Phase, hchanging, hc] at hphase
      cases hphase.2
    | some l =>
      simp only [Phase, hchanging, Applying, hc] at hphase
      obtain ⟨-, e', herror⟩ := hphase
      have hok := (h.fits l hchanging).1
      rw [herror] at hok
      cases hok

theorem takeCommand_none {e : Nat} (he : e < s.encoderCount)
    (hencoding : (s.encoders e).encoding = none) (hs : s.takeCommand e = none) :
    (s.encoders e).commands = [] := by
  cases hcommands : (s.encoders e).commands with
  | nil => rfl
  | cons command rest => simp [takeCommand, he, hencoding, hcommands] at hs

/-- Encoding a frame never panics. -/
theorem encodeFrame_some (comp : Compressors) (enc : EncoderTask) (frame : Frame) :
    ∃ messages, enc.encodeFrame comp frame (enc.relevant frame) = some messages := by
  obtain ⟨completed, hparts, heq⟩ := EncoderTask.encodeFrame_eq comp enc frame fun _ h => h
  have hrelevant : ∀ c ∈ completed, c.1 ∈ enc.relevant frame := fun c hc =>
    hparts ▸ List.mem_map_of_mem hc
  obtain ⟨encodings, hmap, -⟩ := enc.encodings_spec hrelevant
  rw [heq, EncoderTask.frameMessages]
  split
  · exact ⟨_, rfl⟩
  · rw [hmap]
    exact ⟨_, rfl⟩

/-- Taking the elements of a list in their order gives the list. -/
theorem filterMap_getElem?_range {α : Type*} (l : List α) :
    (List.range l.length).filterMap (fun i => l[i]?) = l := by
  induction l with
  | nil => rfl
  | cons a l ih =>
    rw [List.length_cons, List.range_succ_eq_map, List.filterMap_cons]
    simp only [List.getElem?_cons_zero, List.filterMap_map, Function.comp_def,
      List.getElem?_cons_succ, ih]

theorem takeFrame_none {e : Nat} (he : e < s.encoderCount)
    (hencoding : (s.encoders e).encoding = none) (hcommands : (s.encoders e).commands = [])
    (hs : s.takeFrame e = none) : (s.encoders e).frames = [] := by
  cases hframes : (s.encoders e).frames with
  | nil => rfl
  | cons frame rest => simp [takeFrame, he, hencoding, hcommands, hframes] at hs

theorem encode_none {comp : Compressors} {e : Nat} (he : e < s.encoderCount)
    (hs : ∀ order, s.encode comp e order = none) : (s.encoders e).encoding = none := by
  cases hencoding : (s.encoders e).encoding with
  | none => rfl
  | some frame =>
    have hnone := hs (List.range ((s.encoders e).task.relevant frame).length)
    have hparts := filterMap_getElem?_range ((s.encoders e).task.relevant frame)
    have hperm : (List.range ((s.encoders e).task.relevant frame).length).isPerm
        (List.range ((s.encoders e).task.relevant frame).length) = true :=
      List.isPerm_iff.mpr (List.Perm.refl _)
    obtain ⟨messages, hmessages⟩ := encodeFrame_some comp (s.encoders e).task frame
    simp [encode, he, hencoding, hparts, hperm, hmessages] at hnone

theorem frameStep_none {d : Nat} (hd : d < s.displayCount) (hwf : (s.displays d).tb.WF)
    (hs : s.frameStep d = none) : ∃ txs reserved waited,
      (s.displays d).task = .join txs reserved waited ∧
      ¬ (waited = true ∧ ∀ e ∈ txs, e ∈ reserved) := by
  unfold frameStep at hs
  rw [if_pos hd] at hs
  cases ht : (s.displays d).task with
  | clone revoked =>
    rw [ht] at hs
    cases hs
  | join txs reserved waited =>
    refine ⟨txs, reserved, waited, rfl, fun hready => ?_⟩
    rw [ht] at hs
    simp only at hs
    rw [if_pos (by simpa using hready)] at hs
    cases hs
  | check permits =>
    rw [ht] at hs
    simp only at hs
    split at hs <;> cases hs
  | cut permits =>
    rw [ht] at hs
    rcases TrackingBuffer.cutFrame_spec hwf with ⟨-, hcut⟩ | ⟨f, -, -, hcut⟩ <;>
      rw [hcut] at hs <;> cases hs
  | send permits frame =>
    rw [ht] at hs
    cases hs

section Joining

variable {d : Nat} {txs reserved : List Nat}

/-- A permit that does not come from an empty channel is held. -/
theorem reserveOwned_none {e : Nat} {waited : Bool} (hd : d < s.displayCount)
    (ht : (s.displays d).task = .join txs reserved waited) (hmem : e ∈ txs) (hnew : e ∉ reserved)
    (he : e < s.encoderCount) (hempty : (s.encoders e).frames = [])
    (hs : s.reserveOwned d e = none) : (s.encoders e).reserved ≠ 0 := by
  intro hfree
  simp [reserveOwned, hd, he, hempty, hfree, ht, hmem, hnew] at hs

/-- A task that is not woken has seen all the notifications. -/
theorem waitForDamage_none {version : Nat} (hd : d < s.displayCount)
    (ht : (s.displays d).task = .join txs reserved false)
    (hs : s.waitForDamage d version = none) :
    ¬ ((∀ n ∈ (s.displays d).damageSeen, n < version) ∧
      version ≤ (s.displays d).tb.damageWatch) := by
  intro hnew
  simp only [waitForDamage, if_pos hd, ht] at hs
  rw [if_pos hnew] at hs
  cases hs

end Joining

/-! ### Who waits for whom -/

/-- The frame task of display `d` waits for a permit that the one of `d'` holds. -/
def WaitsFor (s : Server) (d d' : Nat) : Prop :=
  ∃ e ∈ (s.displays d).task.missing, e ∈ (s.displays d').task.permits

instance (s : Server) (d d' : Nat) : Decidable (s.WaitsFor d d') :=
  inferInstanceAs (Decidable (∃ e ∈ _, _))

/-- A frame task waits for the task of another display, and their senders are of different
configurations. -/
def Blocked (s : Server) (d : Nat) : Prop :=
  ∃ d', d' < s.displayCount ∧ s.WaitsFor d d' ∧
    (s.displays d').clonedConfig ≠ (s.displays d).clonedConfig

instance (s : Server) (d : Nat) : Decidable (s.Blocked d) :=
  inferInstanceAs (Decidable (∃ d', d' < _ ∧ _))

/-- A task that waits for permits has senders. -/
theorem mem_missing {task : FrameTask} {e : Nat} (h : e ∈ task.missing) :
    (∃ txs ∈ task.txs, e ∈ txs) ∧ e ∉ task.permits := by
  cases task with
  | join txs reserved waited =>
    obtain ⟨hmem, hnew⟩ := List.mem_filter.mp h
    exact ⟨⟨txs, rfl, hmem⟩, of_decide_eq_true hnew⟩
  | _ => cases h

/-- **Tasks whose senders are of one configuration do not wait for each other.** -/
theorem WaitsFor.config_ne (hsenders : s.SendersInv)
    (hsupplied : ∀ d, DisplaySupplied s.encoderCount (s.displays d)) {d d' : Nat}
    (h : s.WaitsFor d d') : (s.displays d').clonedConfig ≠ (s.displays d).clonedConfig := by
  obtain ⟨e, hmissing, hheld⟩ := h
  obtain ⟨⟨txs, htxs, hmem⟩, hnew⟩ := mem_missing hmissing
  intro hconfig
  obtain ⟨txs', htxs', hmem'⟩ := (hsupplied d').permits hheld
  obtain ⟨l, hl, rfl⟩ := (hsenders.displays d).senders txs htxs
  obtain ⟨l', hl', rfl⟩ := (hsenders.displays d').senders txs' htxs'
  rw [hconfig, hl] at hl'
  cases hl'
  have hsame := Layout.eq_of_mem_subset hmem hmem'
  rw [← hsame] at hheld
  exact hnew hheld

/-- While there is one configuration, no task is blocked. -/
theorem Blocked.changed (hsenders : s.SendersInv)
    (hsupplied : ∀ d, DisplaySupplied s.encoderCount (s.displays d)) {d : Nat}
    (h : s.Blocked d) : 1 < s.history.length := by
  obtain ⟨d', -, ⟨e, hmissing, hheld⟩, hne⟩ := h
  obtain ⟨⟨txs, htxs, -⟩, -⟩ := mem_missing hmissing
  obtain ⟨txs', htxs', -⟩ := (hsupplied d').permits hheld
  obtain ⟨l, hl, -⟩ := (hsenders.displays d).senders txs htxs
  obtain ⟨l', hl', -⟩ := (hsenders.displays d').senders txs' htxs'
  obtain ⟨hmem, hid⟩ := mem_of_layoutOf hl
  obtain ⟨hmem', hid'⟩ := mem_of_layoutOf hl'
  by_contra hle
  cases hhist : s.history with
  | nil =>
    rw [hhist] at hmem
    cases hmem
  | cons first rest =>
    have hrest : rest = [] := by
      rw [hhist, List.length_cons] at hle
      exact List.length_eq_zero_iff.mp (by omega)
    rw [hhist, hrest, List.mem_singleton] at hmem hmem'
    rw [← hid, ← hid', hmem, hmem'] at hne
    exact hne rfl

/-- The second display's task goes around between the resize of its tracking buffer and the
replacement of its senders, so it sleeps on a permit of a channel that the first display is
given. -/
example :
    (Machine.run (step oneComponent noCompressors)
      (init 3 .raw
        [(⟨⟨⟨0, 0⟩, ⟨2, 1⟩⟩, true⟩, [⟨⟨0, 0⟩, ⟨2, 1⟩⟩]),
         (⟨⟨⟨2, 0⟩, ⟨2, 1⟩⟩, true⟩, [⟨⟨0, 0⟩, ⟨1, 1⟩⟩, ⟨⟨1, 0⟩, ⟨2, 1⟩⟩])])
      [.displayEvent
        [(⟨⟨⟨0, 0⟩, ⟨2, 1⟩⟩, true⟩, [⟨⟨0, 0⟩, ⟨1, 1⟩⟩, ⟨⟨1, 0⟩, ⟨2, 1⟩⟩]),
         (⟨⟨⟨2, 0⟩, ⟨2, 1⟩⟩, true⟩, [⟨⟨0, 0⟩, ⟨2, 1⟩⟩])],
       .config, .config, .config, .config,
       .frame 1, .reserved 1 1, .reserved 1 2, .waited 1 1, .frame 1, .frame 1, .frame 1, .frame 1,
       .takeFrame 1, .encode 1 [0], .takeFrame 2, .encode 2 [0],
       .frame 1, .reserved 1 1, .reserved 1 2,
       .config, .config, .config, .frame 0, .reserved 0 0, .waited 0 1]).any
        (fun s => s.Blocked 0 ∧ (s.displays 1).damageSeen = some (s.displays 1).tb.damageWatch) =
      true := by
  decide +kernel

/-- **Where no frame task can take a step, each waits for damage and has seen all there is, or it is
blocked.** -/
theorem Awake.resting (h : s.Awake) (hsenders : s.SendersInv)
    (hempty : ∀ e, e < s.encoderCount → (s.encoders e).frames = [])
    (hstep : ∀ d, s.frameStep d = none) (hreserve : ∀ d e, s.reserveOwned d e = none)
    (hwait : ∀ d version, s.waitForDamage d version = none) {d : Nat} (hd : d < s.displayCount) :
    s.Blocked d ∨ (s.displays d).tb.damage = .none := by
  obtain ⟨txs, reserved, waited, ht, hstuck⟩ :=
    frameStep_none hd (hsenders.displays d).wf (hstep d)
  by_cases hall : ∀ e ∈ txs, e ∈ reserved
  · -- it has its permits, so it sleeps
    have hasleep : waited = false := by
      cases waited with
      | false => rfl
      | true => exact absurd ⟨rfl, hall⟩ hstuck
    rw [hasleep] at ht
    refine Or.inr ?_
    by_contra hdamage
    exact waitForDamage_none hd ht (hwait d _) ⟨(h.viewed d).newer ht hdamage, le_refl _⟩
  · push Not at hall
    obtain ⟨e, hmem, hnew⟩ := hall
    have he := ((h.displays d).joining txs reserved waited ht).1 e hmem
    have hreserved := reserveOwned_none hd ht hmem hnew he (hempty e he) (hreserve d e)
    obtain ⟨d', hd', hheld⟩ := h.reserved e hreserved
    have hwaits : s.WaitsFor d d' := by
      refine ⟨e, ?_, hheld⟩
      rw [ht]
      exact List.mem_filter.mpr ⟨hmem, by simpa using hnew⟩
    exact Or.inl ⟨d', hd', hwaits, hwaits.config_ne hsenders h.displays⟩

end Stuck

/-! ## What the tasks have left to do -/

/-- Steps of the backend task and the display config task until the displays have been changed. -/
def changeWork (s : Server) : Nat :=
  (match s.backend with
    | .select => 0
    | .awaitComplete _ => 1
    | .reconfigure _ commands => commands.length + 2) +
  (match s.configTask with
    | .recv => 0
    | .resize l d => 2 * (l.displays.length - d) + 2
    | .replace l d => 2 * (l.displays.length - (d + 1)) + 3
    | .signal _ => 1
    | .failed _ => 0) +
  (s.newDisplayConfigs.map fun l => 2 * l.displays.length + 3).sum

def commandWork (s : Server) : Nat :=
  ∑ e ∈ Finset.range s.encoderCount, (s.encoders e).commands.length

def frameWork (s : Server) : Nat :=
  ∑ d ∈ Finset.range s.displayCount, (s.displays d).work s.encoderCount s.revokeWatch +
    ∑ e ∈ Finset.range s.encoderCount, (s.encoders e).work

section Work

variable {s s' : Server}

theorem backendStep_work (hs : s.backendStep = some s') : s'.changeWork < s.changeWork := by
  cases backendStep_move hs with
  | reconfigured l hb =>
    simp only [changeWork, hb, List.length_nil]
    omega
  | command l e command commands hb hroom =>
    simp only [changeWork, hb, List.length_cons, setEncoder]
    omega
  | complete l hb hcompleted =>
    simp only [changeWork, hb]
    omega

theorem configStep_work (hs : s.configStep = some s') : s'.changeWork < s.changeWork := by
  cases configStep_move hs with
  | refuse l rest e hc hnew hcheck =>
    simp only [changeWork, hc, hnew, List.map_cons, List.sum_cons]
    omega
  | accept l rest hc hnew hcheck =>
    simp only [changeWork, hc, hnew, List.map_cons, List.sum_cons]
    omega
  | finish l d hc hnone =>
    simp only [changeWork, hc]
    omega
  | resize l d display areas hc hget =>
    have hlt := (List.getElem?_eq_some_iff.mp hget).1
    simp only [changeWork, hc, setDisplay]
    omega
  | replace l d hc =>
    simp only [changeWork, hc, setDisplay]
    omega
  | signal l hc =>
    simp only [changeWork, hc]
    omega

theorem takeCommand_work {e : Nat} (hs : s.takeCommand e = some s') :
    s'.changeWork = s.changeWork ∧ s'.commandWork < s.commandWork := by
  obtain ⟨he, -, command, rest, hcommands, rfl⟩ := takeCommand_spec hs
  refine ⟨rfl, Finset.sum_lt_sum (fun e' _ => ?_) ⟨e, Finset.mem_range.mpr he, ?_⟩⟩
  · rw [setEncoder_apply]
    split
    · rename_i heq
      rw [heq, hcommands, List.length_cons]
      exact Nat.le_succ _
    · exact le_refl _
  · rw [setEncoder_apply, if_pos rfl, hcommands, List.length_cons]
    exact Nat.lt_succ_self _

/-- One encoder has less to do. -/
theorem setEncoder_work {e : Nat} (he : e < s.encoderCount) {f : EncoderState → EncoderState}
    (hcommands : (f (s.encoders e)).commands = (s.encoders e).commands)
    (hwork : (f (s.encoders e)).work < (s.encoders e).work) :
    (s.setEncoder e f).changeWork = s.changeWork ∧
      (s.setEncoder e f).commandWork = s.commandWork ∧
      (s.setEncoder e f).frameWork < s.frameWork := by
  refine ⟨rfl, Finset.sum_congr rfl fun e' _ => ?_, Nat.add_lt_add_left ?_ _⟩
  · simp only [setEncoder_apply]
    split
    · rename_i heq
      rw [heq, hcommands]
    · rfl
  · refine Finset.sum_lt_sum (fun e' _ => ?_) ⟨e, Finset.mem_range.mpr he, ?_⟩
    · simp only [setEncoder_apply]
      split
      · rename_i heq
        rw [heq]
        exact hwork.le
      · exact le_refl _
    · simp only [setEncoder_apply, if_pos]
      exact hwork

theorem takeFrame_work {e : Nat} (hs : s.takeFrame e = some s') :
    s'.changeWork = s.changeWork ∧ s'.commandWork = s.commandWork ∧
      s'.frameWork < s.frameWork := by
  obtain ⟨he, hencoding, frame, rest, hframes, rfl⟩ := takeFrame_spec hs
  refine setEncoder_work he rfl ?_
  simp only [EncoderState.work, hencoding, hframes, List.length_cons, Option.toList_some,
    Option.toList_none, List.length_nil]
  omega

theorem encode_work {comp : Compressors} {e : Nat} {order : List Nat}
    (hs : s.encode comp e order = some s') :
    s'.changeWork = s.changeWork ∧ s'.commandWork = s.commandWork ∧
      s'.frameWork < s.frameWork := by
  obtain ⟨he, frame, parts, messages, hencoding, -, rfl⟩ := encode_spec hs
  refine setEncoder_work (f := fun enc => { enc with encoding := none }) he rfl ?_
  simp only [EncoderState.work, hencoding, Option.toList_some, Option.toList_none,
    List.length_cons, List.length_nil]
  omega

/-- One display has less to do, by more than the frames that it sends make the encoders do. -/
theorem frameWork_lt {d n : Nat} (hd : d < s.displayCount)
    (hcount : s'.displayCount = s.displayCount) (hencoders : s'.encoderCount = s.encoderCount)
    (hrevoke : s'.revokeWatch = s.revokeWatch)
    (hother : ∀ d', d' ≠ d → s'.displays d' = s.displays d')
    (hframes : ∑ e ∈ Finset.range s.encoderCount, (s'.encoders e).work ≤
      ∑ e ∈ Finset.range s.encoderCount, (s.encoders e).work + n)
    (hwork : (s'.displays d).work s.encoderCount s.revokeWatch + n <
      (s.displays d).work s.encoderCount s.revokeWatch) : s'.frameWork < s.frameWork := by
  have hsum := Machine.sum_change hd
    (f := fun d => (s'.displays d).work s.encoderCount s.revokeWatch)
    (g := fun d => (s.displays d).work s.encoderCount s.revokeWatch)
    fun d' hd' => by rw [hother d' hd']
  unfold frameWork
  rw [hcount, hencoders, hrevoke]
  omega

/-- A step that changes a display and at most the permits of encoders. -/
theorem setDisplay_work {t : Server} {d : Nat} {f : DisplayState → DisplayState}
    (hd : d < s.displayCount) (hsame : t.displayCount = s.displayCount ∧
      t.encoderCount = s.encoderCount ∧ t.revokeWatch = s.revokeWatch ∧ t.displays = s.displays)
    (hchange : t.changeWork = s.changeWork)
    (hencoders : ∀ e, (t.encoders e).commands = (s.encoders e).commands ∧
      (t.encoders e).work = (s.encoders e).work)
    (hwork : (f (s.displays d)).work s.encoderCount s.revokeWatch <
      (s.displays d).work s.encoderCount s.revokeWatch) :
    (t.setDisplay d f).changeWork = s.changeWork ∧
      (t.setDisplay d f).commandWork = s.commandWork ∧
      (t.setDisplay d f).frameWork < s.frameWork := by
  obtain ⟨hcount, hencoderCount, hrevoke, hdisplays⟩ := hsame
  refine ⟨hchange, ?_, frameWork_lt hd hcount hencoderCount hrevoke (fun d' hne => ?_)
    (n := 0) (Finset.sum_congr rfl fun e _ => (hencoders e).2).le ?_⟩
  · unfold commandWork
    simp only [setDisplay, hencoderCount]
    exact Finset.sum_congr rfl fun e _ => by rw [(hencoders e).1]
  · rw [setDisplay_of_ne t hne, hdisplays]
  · rw [setDisplay_self, hdisplays]
    exact hwork

theorem setReserved_work (s : Server) (txs : List Nat) (n e : Nat) :
    ((s.setReserved txs n).encoders e).commands = (s.encoders e).commands ∧
      ((s.setReserved txs n).encoders e).work = (s.encoders e).work := by
  simp only [setReserved]
  split <;> exact ⟨rfl, rfl⟩

theorem FrameMove.work {d : Nat} (hd : d < s.displayCount) (h : s.FrameMove d s') :
    s'.changeWork = s.changeWork ∧ s'.commandWork = s.commandWork ∧
      s'.frameWork < s.frameWork := by
  have hkept : ∀ e, (s.encoders e).commands = (s.encoders e).commands ∧
      (s.encoders e).work = (s.encoders e).work := fun e => ⟨rfl, rfl⟩
  cases h with
  | clone revoked ht =>
    refine setDisplay_work hd ⟨rfl, rfl, rfl, rfl⟩ rfl hkept
      (DisplayState.work_lt (n := 0) rfl rfl rfl rfl ?_)
    have hlen := List.length_filter_le (fun e => decide (e ∉ ([] : List Nat)))
      (s.displays d).txSubset
    rw [ht]
    cases revoked <;> simp only [FrameTask.work] <;> omega
  | reserved e txs reserved waited ht hmem hnew he hempty hfree =>
    have hcomes := length_filter_cons_lt hmem hnew
    refine setDisplay_work hd ⟨rfl, rfl, rfl, rfl⟩ rfl (fun e' => ?_)
      (DisplayState.work_lt (n := 0) rfl rfl rfl rfl ?_)
    · rw [setEncoder_apply]
      split <;> exact ⟨rfl, rfl⟩
    · rw [ht]
      cases waited <;> simp only [FrameTask.work] <;> omega
  | waited version txs reserved ht hnew hle =>
    exact setDisplay_work hd ⟨rfl, rfl, rfl, rfl⟩ rfl hkept (DisplayState.work_waited ht hnew hle)
  | revoke permits ht hseen =>
    refine setDisplay_work hd ⟨rfl, rfl, rfl, rfl⟩ rfl (setReserved_work s permits 0) ?_
    simp only [DisplayState.work, DisplayState.unseen, ht, FrameTask.work, if_neg hseen, if_true]
    omega
  | joined _ _ ht | check _ ht | undamaged _ ht | cut _ _ ht =>
    refine setDisplay_work hd ⟨rfl, rfl, rfl, rfl⟩ rfl hkept
      (DisplayState.work_lt (n := 0) rfl rfl rfl rfl ?_)
    simp only [ht, FrameTask.work]
    omega
  | send permits frame ht =>
    refine ⟨rfl, Finset.sum_congr rfl fun e _ => ?_, frameWork_lt hd rfl rfl rfl
      (fun d' h => setDisplay_of_ne (s.sendFrame permits frame) h _) (n := s.encoderCount * 2)
      (Machine.sum_le_sum_add fun e => ?_) ?_⟩
    · simp only [setDisplay, sendFrame]
      split <;> rfl
    · have hone : frame.toList.length ≤ 1 := Option.length_toList_le
      simp only [setDisplay, sendFrame]
      split
      · simp only [EncoderState.work, List.length_append]
        omega
      · exact Nat.le_add_right _ _
    · rw [setDisplay_self]
      refine DisplayState.work_lt rfl rfl rfl rfl ?_
      simp only [ht, FrameTask.work]
      omega

end Work

end Server

end ApertureC
