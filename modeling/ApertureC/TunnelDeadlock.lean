import ApertureC.TunnelInvariant

/-!
# Deadlocks with a write thread (`aperturec-client/src/channels/tunnel.rs`)

* `Deadlocked` — `tc-main` waits in `to_tx.send` and the write thread waits to report its result.

Principal results: `Deadlocked.step` (such a state is never left) and `write_deadlock_iff` (a run has
none exactly when data are taken, and writes fail, only at the right moments).
-/

set_option autoImplicit false

namespace ApertureC.Tunnel

open TcState

variable {tunnels : Tunnels} {s s' : TcState} {id : Id}

/-- `tc-main` waits in `to_tx.send` for a stream whose write thread waits to report to it. -/
def Deadlocked (s : TcState) : Prop :=
  ∃ c, feeding s.ops = some c ∧ full s.threads c = true ∧ reportsWrite s.threads c = true

theorem full_eq {threads : List StreamThreads} {c : Nat} {t : StreamThreads}
    (h : threads[c]? = some t) : full threads c = !t.toTx.isEmpty := by
  simp [full, h]

theorem reportsWrite_eq {threads : List StreamThreads} {c : Nat} {t : StreamThreads}
    (h : threads[c]? = some t) : reportsWrite threads c = t.write.isReporting := by
  simp [reportsWrite, h]

theorem not_deadlocked_of_feeding (h : feeding s.ops = none) : ¬ Deadlocked s := by
  rintro ⟨c, hc, -⟩
  rw [h] at hc
  cases hc

/-- `tc-main` waits to feed a stream only when the list of its operations says so. -/
theorem feeding_mem {ops : List Op} {c : Nat} (h : feeding ops = some c) :
    ∃ data, Op.toTx c data ∈ ops := by
  cases ops with
  | nil => cases h
  | cons op ops =>
    cases op <;> simp only [feeding, List.head?_cons, Option.bind_some, Op.feeds, reduceCtorEq,
      Option.some.injEq] at h
    subst h
    exact ⟨_, List.mem_cons_self⟩

theorem feeding_eq_none {ops : List Op} (h : ∀ op ∈ ops, op.feeds = none) : feeding ops = none := by
  cases ops with
  | nil => rfl
  | cons op ops => exact h op List.mem_cons_self

theorem feeds_of_inTeardown {op : Op} (h : op.inTeardown = true) : op.feeds = none := by
  cases op <;> first | rfl | cases h

theorem Handles.not_deadlocked (hh : Handles s s' id) (hops : s.ops = []) : ¬ Deadlocked s' := by
  refine not_deadlocked_of_feeding (feeding_eq_none fun op hop => ?_)
  rcases hh.ops op hop with hop | ⟨-, hop⟩
  · rw [hops] at hop
    cases hop
  · exact hop

/-- A thread reports a failed write, or that `to_tx` was dropped; otherwise it was reporting. -/
theorem threadStep_write {t t' : StreamThreads} {b : ThreadAct} (h : t.step b = some t')
    (hr : t'.write.isReporting = true) (hfull : t'.toTx ≠ []) :
    t.toTx = t'.toTx ∧ (t.write = t'.write ∨ ∃ n e, b = .writeFails n e) := by
  cases b <;> simp only [StreamThreads.step] at h
  case readData data =>
    split at h
    · split at h <;> cases h
      exact ⟨rfl, Or.inl rfl⟩
    · cases h
  case readEnd result =>
    split at h <;> cases h
    exact ⟨rfl, Or.inl rfl⟩
  case writeOk =>
    split at h <;> cases h
    cases hr
  case writeFails n e =>
    split at h
    · split at h <;> cases h
      exact ⟨rfl, Or.inr ⟨n, e, rfl⟩⟩
    · cases h
  case takeData =>
    split at h <;> cases h
    cases hr
  case disconnected =>
    split at h
    · rename_i hempty
      split at h <;> cases h
      exact absurd hempty hfull
    · cases h

/-- A failed write leaves the channel as it is. -/
theorem writeFails_eq {t t' : StreamThreads} {n : Nat} {e : IoError}
    (h : t.step (.writeFails n e) = some t') :
    t'.toTx = t.toTx ∧ t'.write.isReporting = true := by
  simp only [StreamThreads.step] at h
  split at h
  · split at h <;> cases h
    exact ⟨rfl, rfl⟩
  · cases h

/-- After a change of the threads of `c`, a deadlock is an old one or one with `c`. -/
theorem deadlocked_set {c : Nat} {t t' : StreamThreads} (ht : s.threads[c]? = some t)
    (hd : Deadlocked { s with threads := s.threads.set c t' }) :
    Deadlocked s ∨ feeding s.ops = some c ∧ t'.toTx ≠ [] ∧ t'.write.isReporting = true := by
  obtain ⟨c', hfeed, hfull, hr⟩ := hd
  by_cases hc : c = c'
  · subst hc
    have hget : (s.threads.set c t')[c]? = some t' :=
      List.getElem?_set_self (List.getElem?_eq_some_iff.mp ht).1
    rw [full_eq hget] at hfull
    rw [reportsWrite_eq hget] at hr
    exact Or.inr ⟨hfeed, by simpa using hfull, hr⟩
  · have hget : (s.threads.set c t')[c']? = s.threads[c']? := List.getElem?_set_ne hc
    refine Or.inl ⟨c', hfeed, ?_, ?_⟩
    · simpa only [full, hget] using hfull
    · simpa only [reportsWrite, hget] using hr

/-- The threads of `c` change, but neither the channel nor a report. -/
theorem not_deadlocked_set {c : Nat} {t t' : StreamThreads} (hd : ¬ Deadlocked s)
    (ht : s.threads[c]? = some t) (htx : t'.toTx ≠ [] → t'.write.isReporting = true →
      t.toTx = t'.toTx ∧ t.write = t'.write) :
    ¬ Deadlocked { s with threads := s.threads.set c t' } := by
  intro hd'
  rcases deadlocked_set ht hd' with hd' | ⟨hfeed, hne, hr⟩
  · exact hd hd'
  · obtain ⟨htx, hwrite⟩ := htx hne hr
    refine hd ⟨c, hfeed, ?_, ?_⟩
    · rw [full_eq ht, htx]
      simpa using hne
    · rw [reportsWrite_eq ht, hwrite]
      exact hr

/-- A step of the threads of a stream. -/
theorem thread_deadlock_iff {c : Nat} {b : ThreadAct} {t t' : StreamThreads} (hd : ¬ Deadlocked s)
    (ht : s.threads[c]? = some t) (hb : t.step b = some t') :
    ¬ Deadlocked { s with threads := s.threads.set c t' } ↔ Accepts s (.thread c b) := by
  have hget : (s.threads.set c t')[c]? = some t' :=
    List.getElem?_set_self (List.getElem?_eq_some_iff.mp ht).1
  by_cases hfail : ∃ n e, b = .writeFails n e
  · obtain ⟨n, e, rfl⟩ := hfail
    obtain ⟨htx, hr⟩ := writeFails_eq hb
    show _ ↔ (feeding s.ops = some c → full s.threads c = false)
    constructor
    · intro hd' hfeed
      by_contra hfull
      rw [Bool.not_eq_false] at hfull
      refine hd' ⟨c, hfeed, ?_, ?_⟩
      · rw [full_eq hget, htx, ← full_eq ht]
        exact hfull
      · rw [reportsWrite_eq hget]
        exact hr
    · intro hacc hd'
      rcases deadlocked_set ht hd' with hd' | ⟨hfeed, hne, -⟩
      · exact hd hd'
      · have hfull := hacc hfeed
        rw [full_eq ht, ← htx] at hfull
        exact hne (by simpa using hfull)
  · have hacc : Accepts s (.thread c b) := by
      cases b <;> first | exact trivial | exact absurd ⟨_, _, rfl⟩ hfail
    refine ⟨fun _ => hacc, fun _ => not_deadlocked_set hd ht fun hne hr => ?_⟩
    obtain ⟨htx, hwrite⟩ := threadStep_write hb hr hne
    exact ⟨htx, hwrite.resolve_right hfail⟩

/-- **One step runs into a deadlock exactly when it does not accept its input.** -/
theorem step_deadlock_iff {a : Act} (hw : s.Wf) (hd : ¬ Deadlocked s)
    (h : s.step tunnels a = some s') : ¬ Deadlocked s' ↔ Accepts s a := by
  rcases step_stepped h with ⟨hops, hleft, hstreams, hthreads, hok⟩ | ⟨hsel, id, hh, hok⟩ |
    ⟨hsel, id, c, data, hopened, rfl, rfl⟩ | ⟨hsel, rfl, hok⟩ | ⟨op, ops, hops, hp, hok⟩ |
    ⟨c, b, t, t', ht, rfl, hb, rfl⟩ | ⟨c, t, data, ht, hread, rfl, hok⟩ |
    ⟨hsel, c, t, t', ht, hid, rfl, hok⟩
  · refine ⟨fun _ => hok, fun _ => ?_⟩
    unfold Deadlocked
    rw [hops, hthreads]
    exact hd
  · exact ⟨fun _ => hok, fun _ => hh.not_deadlocked (selecting_iff.mp hsel).1⟩
  · show ¬ Deadlocked (s.send [.toTx c data]) ↔ stalled s id = false
    have hst : stalled s id = (full s.threads c && reportsWrite s.threads c) := by
      simp [stalled, hopened]
    rw [hst]
    constructor
    · intro hd'
      by_contra hb
      rw [Bool.not_eq_false, Bool.and_eq_true] at hb
      exact hd' ⟨c, rfl, hb⟩
    · rintro hb ⟨c', hfeed, hfull, hr⟩
      cases (Option.some.inj hfeed : c = c')
      rw [show full s.threads c = true from hfull, show reportsWrite s.threads c = true from hr] at hb
      cases hb
  · refine ⟨fun _ => hok, fun _ => not_deadlocked_of_feeding (feeding_eq_none fun op hop => ?_)⟩
    exact feeds_of_inTeardown (leave_inTeardown hop)
  · refine ⟨fun _ => hok, fun _ => not_deadlocked_of_feeding ?_⟩
    rw [perform_ops hp]
    cases hfeed : feeding ops with
    | none => rfl
    | some c =>
      obtain ⟨data, hop⟩ := feeding_mem hfeed
      have hone := (hw.feed c data (hops ▸ List.mem_cons_of_mem op hop)).1
      rw [hops] at hone
      rw [(List.cons.inj hone).2] at hop
      cases hop
  · exact thread_deadlock_iff hd ht hb
  · exact ⟨fun _ => hok, fun _ => not_deadlocked_set hd ht fun _ _ => ⟨rfl, rfl⟩⟩
  · refine ⟨fun _ => hok, fun _ => ?_⟩
    exact (handleResult_handles _ t.id).not_deadlocked (selecting_iff.mp hsel).1

/-- **A deadlock with a write thread is never left.** -/
theorem Deadlocked.step {a : Act} (hd : Deadlocked s) (h : s.step tunnels a = some s') :
    Deadlocked s' := by
  obtain ⟨c, hfeed, hfull, hr⟩ := hd
  obtain ⟨op, ops, hops⟩ : ∃ op ops, s.ops = op :: ops := by
    cases hops : s.ops with
    | nil => rw [hops] at hfeed; cases hfeed
    | cons op ops => exact ⟨op, ops, rfl⟩
  obtain ⟨t, ht⟩ : ∃ t, s.threads[c]? = some t := by
    cases ht : s.threads[c]? with
    | none => rw [full, ht] at hfull; cases hfull
    | some t => exact ⟨t, rfl⟩
  rw [full_eq ht] at hfull
  rw [reportsWrite_eq ht] at hr
  obtain ⟨r, hwrite⟩ : ∃ r, t.write = .reporting r := by
    cases hw : t.write <;> rw [hw] at hr <;> first | exact ⟨_, rfl⟩ | cases hr
  have hlen : ¬ t.toTx.length < 1 := by
    cases htx : t.toTx with
    | nil => rw [htx] at hfull; cases hfull
    | cons d l => simp
  have hwait : { s with ops := ops }.perform op = none := by
    rw [hops] at hfeed
    cases op <;> simp only [feeding, List.head?_cons, Option.bind_some, Op.feeds, reduceCtorEq,
      Option.some.injEq] at hfeed
    subst hfeed
    simp only [TcState.perform, ht, hwrite, if_neg hlen]
  obtain ⟨hops', t', ht', hw', htx'⟩ := (step_stepped h).persist
    (P := fun t' => t'.write = .reporting r ∧ t'.toTx = t.toTx)
    (fun _ _ hp hm => ⟨(hm.write_reporting hp.1).1, (hm.write_reporting hp.1).2.trans hp.2⟩)
    hops hwait ht ⟨hwrite, rfl⟩
  refine ⟨c, by rw [hops']; exact hfeed, ?_, ?_⟩
  · rw [full_eq ht', htx']
    exact hfull
  · rw [reportsWrite_eq ht', hw']
    rfl

/-- **Deadlocks with a write thread.**  In a run of the tunnel channel `tc-main` never waits in
`to_tx.send` for a stream whose write thread waits to report its result, exactly when it takes data
of the server only for streams that are not stalled, and a local write fails only while `tc-main`
does not wait for room in the channel of its stream. -/
theorem write_deadlock_iff (tunnels : Tunnels) (acts : List Act) :
    Machine.Always (TcState.step tunnels) (fun s => ¬ Deadlocked s) .initial acts ↔
      Machine.Guarded (TcState.step tunnels) Accepts .initial acts :=
  Machine.always_iff_guarded (I := TcState.Wf) (fun _ _ _ hw h => step_wf hw h)
    (fun _ _ _ hw hd h => step_deadlock_iff hw hd h) wf_initial
    (not_deadlocked_of_feeding rfl)

/-- The client listens on tunnel 0. -/
def oneTunnel : Tunnels := ⟨∅, (∅ : Std.ExtTreeMap Nat Description).insert 0 ⟨0, "", 0⟩⟩

/-- The local peer closes its connection while the server sends three chunks: the write of the first
fails, the second fills the channel, and `tc-main` waits with the third. -/
def threeChunks : List Act :=
  [.accepted 0, .perform, .perform, .thread 0 .writeOk,
    .server (some (tcpData ⟨0, 0⟩ [1])), .perform, .thread 0 .takeData,
    .server (some (tcpData ⟨0, 0⟩ [2])), .perform, .thread 0 (.writeFails 0 .other),
    .server (some (tcpData ⟨0, 0⟩ [3]))]

theorem three_chunks_deadlock :
    ¬ Machine.Always (TcState.step oneTunnel) (fun s => ¬ Deadlocked s) .initial threeChunks := by
  have hrun : (Machine.run (TcState.step oneTunnel) .initial threeChunks).any (fun s =>
      feeding s.ops == some 0 && full s.threads 0 && reportsWrite s.threads 0) = true := by
    decide +kernel
  obtain ⟨s, hs, hd⟩ := (Option.any_eq_true _ _).mp hrun
  simp only [Bool.and_eq_true, beq_iff_eq] at hd
  intro h
  exact h.last hs ⟨0, hd.1.1, hd.1.2, hd.2⟩

end ApertureC.Tunnel
