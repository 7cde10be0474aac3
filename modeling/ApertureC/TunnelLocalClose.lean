import Mathlib.Algebra.GroupWithZero.Nat
import ApertureC.TunnelInvariant
import Mathlib.Data.List.Perm.Basic

/-!
# Streams that the server does not close (`aperturec-client/src/channels/tunnel.rs`)

A stream that has ended on the client's side should be closed at the server, once, and its entry
should be gone.

* `Tally` — the entry of a stream, and the threads that work for it: started, without a result,
  connecting, about to be started.
* `Stage` — how the tally of a stream develops as long as the server does not close it.
* `Concluded` — both threads have reported, or the connection could not be made.

Principal results: `step_staged` and `local_close_unsettled` (**a run in which the stream concludes
and the server does not close it always passes through a state in which the stream is not
settled**).
-/

set_option autoImplicit false

namespace ApertureC.Tunnel

open TcState

variable {tunnels : Tunnels} {s s' : TcState} {id : Id}

/-! ## Sums over the threads -/

theorem sum_map_set (f : StreamThreads → Nat) {t : StreamThreads} (t' : StreamThreads) :
    ∀ {l : List StreamThreads} {c : Nat}, l[c]? = some t →
      ((l.set c t').map f).sum + f t = (l.map f).sum + f t'
  | [], _, h => by simp at h
  | t₀ :: l, 0, h => by
    obtain rfl : t₀ = t := by simpa using h
    simp only [List.set_cons_zero, List.map_cons, List.sum_cons]
    omega
  | t₀ :: l, c + 1, h => by
    have ih := sum_map_set f t' (l := l) (c := c) (by simpa using h)
    simp only [List.set_cons_succ, List.map_cons, List.sum_cons]
    omega

def ReadThread.isFinished : ReadThread → Bool
  | .finished => true
  | _ => false

def WriteThread.isFinished : WriteThread → Bool
  | .finished => true
  | _ => false

/-- The threads of a stream that have not reported. -/
def StreamThreads.unreported (t : StreamThreads) : Nat :=
  (if t.read.isFinished then 0 else 1) + if t.write.isFinished then 0 else 1

/-- The pairs of threads that were started for a stream. -/
def started (id : Id) (threads : List StreamThreads) : Nat :=
  (threads.map fun t => if t.id = id then 1 else 0).sum

/-- The threads started for a stream that have not reported. -/
def unreported (id : Id) (threads : List StreamThreads) : Nat :=
  (threads.map fun t => if t.id = id then t.unreported else 0).sum

/-- The connect threads of a stream. -/
def connecting (id : Id) (l : List Connecting) : Nat := l.countP fun x => x.id = id

def Op.establishes (id : Id) : Op → Bool
  | .establish id' _ => id' = id
  | _ => false

/-- The threads of a stream that are about to be started. -/
def establishing (id : Id) (ops : List Op) : Nat := ops.countP (Op.establishes id)

/-! ## The tally of a stream -/

structure Tally where
  entry : Option State
  started : Nat
  unreported : Nat
  connecting : Nat
  establishing : Nat

def tally (id : Id) (s : TcState) : Tally where
  entry := s.streams[id]?
  started := started id s.threads
  unreported := unreported id s.threads
  connecting := connecting id s.connecting
  establishing := establishing id s.ops

@[simp] theorem tally_setState (id : Id) (s : TcState) (st : State) :
    tally id (s.setState id st) = { tally id s with entry := some st } := by
  simp only [tally, setState_self]
  rfl

theorem tally_setState_other {id' : Id} (h : id' ≠ id) (s : TcState) (st : State) :
    tally id (s.setState id' st) = tally id s := by
  simp only [tally, setState_other s id' st h.symm]
  rfl

@[simp] theorem tally_remove (id : Id) (s : TcState) :
    tally id (s.remove id) = { tally id s with entry := none } := by
  simp only [tally, remove_self]
  rfl

theorem tally_remove_other {id' : Id} (h : id' ≠ id) (s : TcState) :
    tally id (s.remove id') = tally id s := by
  simp only [tally, remove_other s id' h.symm]
  rfl

/-- What does not end a thread leaves the tally as it is. -/
theorem tally_modifyThreads {f : StreamThreads → StreamThreads} (s : TcState) (c : Nat)
    (hid : ∀ t, (f t).id = t.id) (hf : ∀ t, (f t).unreported = t.unreported) :
    tally id (s.modifyThreads c f) = tally id s := by
  simp only [tally, modifyThreads, started, unreported]
  rw [map_modify_of_eq fun t => by rw [hid], map_modify_of_eq fun t => by rw [hid, hf]]

@[simp] theorem tally_dropTx (id : Id) (s : TcState) (c : Nat) :
    tally id (s.dropTx c) = tally id s :=
  tally_modifyThreads s c (fun _ => rfl) (fun _ => rfl)

/-- Nothing is about to be started while `tc-main` is in its select. -/
theorem tally_selecting (id : Id) (hsel : s.selecting = true) : (tally id s).establishing = 0 := by
  rw [tally, (selecting_iff.mp hsel).1]
  rfl

/-- Operations that start nothing for the stream. -/
theorem tally_send {ops : List Op} (hsel : s.selecting = true)
    (h : ∀ op ∈ ops, op.establishes id = false) : tally id (s.send ops) = tally id s := by
  have hzero : establishing id ops = 0 := by
    rw [establishing, List.countP_eq_zero]
    exact fun op hop => by rw [h op hop]; exact Bool.false_ne_true
  simp only [tally, send, (selecting_iff.mp hsel).1, hzero]
  rfl

theorem tally_toQuic (hsel : s.selecting = true) (m : Message) :
    tally id (s.send [.toQuic m]) = tally id s :=
  tally_send hsel fun op hop => by rw [List.mem_singleton.mp hop]; rfl

/-- The threads of `c` move, and what they have not reported is the same. -/
theorem tally_set {c : Nat} {t t' : StreamThreads} (ht : s.threads[c]? = some t)
    (hid : t'.id = t.id) (hu : t'.unreported = t.unreported) :
    tally id { s with threads := s.threads.set c t' } = tally id s := by
  have h1 := sum_map_set (fun t => if t.id = id then 1 else 0) t' ht
  have h2 := sum_map_set (fun t => if t.id = id then t.unreported else 0) t' ht
  simp only [hid, hu] at h1 h2
  simp only [tally, Tally.mk.injEq, started, unreported, true_and, and_true]
  omega

/-- The threads of another stream move. -/
theorem tally_set_other {c : Nat} {t t' : StreamThreads} (ht : s.threads[c]? = some t)
    (hid : t'.id = t.id) (h : t.id ≠ id) :
    tally id { s with threads := s.threads.set c t' } = tally id s := by
  have h1 := sum_map_set (fun t => if t.id = id then 1 else 0) t' ht
  have h2 := sum_map_set (fun t => if t.id = id then t.unreported else 0) t' ht
  simp only [hid, h, if_false] at h1 h2
  simp only [tally, Tally.mk.injEq, started, unreported, true_and, and_true]
  omega

/-- A thread of the stream has ended. -/
theorem tally_report {c : Nat} {t t' : StreamThreads} (ht : s.threads[c]? = some t)
    (hid : t'.id = t.id) (hu : t.unreported = t'.unreported + 1) (h : t.id = id) :
    tally id s = { tally id { s with threads := s.threads.set c t' } with
      unreported := (tally id { s with threads := s.threads.set c t' }).unreported + 1 } := by
  have h1 := sum_map_set (fun t => if t.id = id then 1 else 0) t' ht
  have h2 := sum_map_set (fun t => if t.id = id then t.unreported else 0) t' ht
  simp only [hid, h, if_true] at h1 h2
  simp only [tally, Tally.mk.injEq, started, unreported, true_and, and_true]
  omega

/-! ## The stages of a stream -/

/-- What the entry says about the threads, as long as the server does not close the stream.  A
stream whose connection could not be made stays `opening`. -/
def Stage (failed : Prop) (x : Tally) : Prop :=
  match x.entry with
  | none => ¬ failed ∧ x.started = 0 ∧ x.unreported = 0 ∧ x.connecting = 0 ∧ x.establishing ≤ 1
  | some (.opening _) => (failed → x.connecting = 0) ∧
      x.started = 0 ∧ x.unreported = 0 ∧ x.connecting ≤ 1 ∧ x.establishing = 0
  | some (.opened _) => ¬ failed ∧
      x.started = 1 ∧ x.unreported = 2 ∧ x.connecting = 0 ∧ x.establishing = 0
  | some .halfClosed => ¬ failed ∧
      x.started = 1 ∧ x.unreported = 1 ∧ x.connecting = 0 ∧ x.establishing = 0
  | some .fullyClosed => ¬ failed ∧
      x.started = 1 ∧ x.unreported = 0 ∧ x.connecting = 0 ∧ x.establishing = 0

/-- A stream that no accept thread has handed over yet. -/
def Unaccepted (tunnels : Tunnels) (id : Id) (accepted : Nat → Nat) : Prop :=
  tunnels.clientBound.contains id.tunnel = true ∧ accepted id.tunnel ≤ id.stream

structure Staged (tunnels : Tunnels) (id : Id) (failed : Prop) (s : TcState) : Prop where
  stage : Stage failed (tally id s)
  fresh : Unaccepted tunnels id s.accepted →
    (tally id s).entry = none ∧ (tally id s).establishing = 0

/-! ### The handlers -/

theorem tally_entry (id : Id) (s : TcState) : (tally id s).entry = s.streams[id]? := rfl

/-- A server opens a stream on a tunnel that is bound to it, if it has no entry yet. -/
theorem tally_handleOpen (hsel : s.selecting = true) (id' : Id) :
    tally id (s.handleOpenFromServer tunnels id') = tally id s ∨
    tunnels.serverBound.contains id.tunnel = true ∧ s.streams[id]? = none ∧
      tally id (s.handleOpenFromServer tunnels id') = { tally id s with
        entry := some (.opening [])
        connecting := (tally id s).connecting + 1 } := by
  unfold handleOpenFromServer
  split
  · exact Or.inl (tally_toQuic hsel _)
  · rename_i desc hdesc
    split
    · exact Or.inl (tally_toQuic hsel _)
    · split
      · exact Or.inl (tally_toQuic hsel _)
      · rename_i hnone
        by_cases h : id' = id
        · subst h
          refine Or.inr ⟨?_, by simpa using hnone, ?_⟩
          · rw [Std.ExtTreeMap.contains_eq_isSome_getElem?, hdesc]
            rfl
          · have heq := tally_setState id' s (.opening [])
            simp only [tally, Tally.mk.injEq] at heq ⊢
            exact ⟨heq.1, rfl, rfl, by simp [connecting], rfl⟩
        · left
          have heq := tally_setState_other h s (.opening [])
          simp only [tally, Tally.mk.injEq] at heq ⊢
          exact ⟨heq.1, rfl, rfl, by simp [connecting, h], rfl⟩

theorem tally_handleClose {id' : Id} (h : id' ≠ id) (s : TcState) :
    tally id (s.handleCloseFromServer id') = tally id s := by
  unfold handleCloseFromServer
  split
  · rw [tally_setState_other h]
  · rw [tally_setState_other h, tally_dropTx]
  · rw [tally_setState_other h]
  · rw [tally_remove_other h]
  · rfl

/-- Data of an opening stream are queued in its entry. -/
theorem tally_handleData (hsel : s.selecting = true) (id' : Id) (data : List UInt8) :
    tally id (s.handleDataFromServer id' data) = tally id s ∨
    ∃ queued queued', s.streams[id]? = some (.opening queued) ∧
      tally id (s.handleDataFromServer id' data) =
        { tally id s with entry := some (.opening queued') } := by
  unfold handleDataFromServer
  split
  · exact Or.inl (tally_send hsel fun op hop => by rw [List.mem_singleton.mp hop]; rfl)
  · rename_i queued hq
    by_cases h : id' = id
    · subst h
      exact Or.inr ⟨queued, queued ++ data, hq, tally_setState id' s _⟩
    · exact Or.inl (tally_setState_other h s _)
  · exact Or.inl rfl
  · exact Or.inl (tally_toQuic hsel _)
  · exact Or.inl rfl

theorem tally_handleNew (tunnels : Tunnels) {id' : Id} (hsel : s.selecting = true) (h : id' ≠ id) :
    tally id (s.handleNewStreamEstablished tunnels id') = tally id s := by
  have hestablish : ∀ queued, (Op.establish id' queued).establishes id = false := by
    intro queued
    simpa [Op.establishes] using h
  unfold handleNewStreamEstablished
  split
  · refine (tally_send (s := s.remove id') hsel fun op hop => ?_).trans (tally_remove_other h s)
    rw [List.mem_singleton.mp hop]
    exact hestablish _
  · rw [tally_remove_other h, tally_dropTx]
  · rw [tally_remove_other h]
  · rw [tally_remove_other h]
  · split
    · refine tally_send hsel fun op hop => ?_
      rcases List.mem_cons.mp hop with rfl | hop
      · rfl
      · rw [List.mem_singleton.mp hop]
        exact hestablish _
    · rfl

theorem tally_handleResult {id' : Id} (hsel : s.selecting = true) (h : id' ≠ id) :
    tally id (s.handleStreamResult id') = tally id s := by
  unfold handleStreamResult
  split
  · rw [tally_remove_other h]
  · rw [tally_setState_other h, tally_dropTx]
  · rw [tally_setState_other h]
  · exact (tally_toQuic (s := s.remove id') hsel _).trans (tally_remove_other h s)
  · rfl

/-- A handler that leaves the tally of the stream, and what was accepted, as they are. -/
theorem Staged.of_tally {failed : Prop} (h : Staged tunnels id failed s)
    (ht : tally id s' = tally id s) (ha : s'.accepted = s.accepted) :
    Staged tunnels id failed s' := by
  refine ⟨?_, ?_⟩
  · rw [ht]
    exact h.stage
  · rw [ht, ha]
    exact h.fresh

theorem handleOpen_staged {failed : Prop} (hdisj : tunnels.serverBound.contains id.tunnel = true →
    tunnels.clientBound.contains id.tunnel = false) (hsel : s.selecting = true)
    (h : Staged tunnels id failed s) (id' : Id) :
    Staged tunnels id failed (s.handleOpenFromServer tunnels id') := by
  have hacc : (s.handleOpenFromServer tunnels id').accepted = s.accepted := by
    unfold handleOpenFromServer
    split
    · rfl
    · split
      · rfl
      · split <;> rfl
  rcases tally_handleOpen hsel id' with heq | ⟨hserver, hnone, heq⟩
  · exact h.of_tally heq hacc
  · refine ⟨?_, fun hu => ?_⟩
    · have hst := h.stage
      have hest := tally_selecting id hsel
      rw [heq]
      simp only [Stage, tally_entry, hnone] at hst ⊢
      exact ⟨fun hf => absurd hf hst.1, hst.2.1, hst.2.2.1, by omega, hest⟩
    · have hclient := hu.1
      rw [hdisj hserver] at hclient
      cases hclient

theorem handleData_staged {failed : Prop} (hsel : s.selecting = true)
    (h : Staged tunnels id failed s) (id' : Id) (data : List UInt8) :
    Staged tunnels id failed (s.handleDataFromServer id' data) := by
  have hacc : (s.handleDataFromServer id' data).accepted = s.accepted := by
    unfold handleDataFromServer
    split <;> rfl
  rcases tally_handleData hsel id' data with heq | ⟨queued, queued', hq, heq⟩
  · exact h.of_tally heq hacc
  · refine ⟨?_, fun hu => ?_⟩
    · have hst := h.stage
      rw [heq]
      simp only [Stage, tally_entry, hq] at hst ⊢
      exact hst
    · rw [hacc] at hu
      have := (h.fresh hu).1
      rw [tally_entry, hq] at this
      cases this

/-- The result of a thread that had not reported. -/
theorem handleResult_stage {failed : Prop}
    (h : Stage failed { tally id s with unreported := (tally id s).unreported + 1 }) :
    Stage failed (tally id (s.handleStreamResult id)) := by
  unfold handleStreamResult
  split
  · rename_i hq
    simp only [Stage, tally_entry, hq] at h
    omega
  · rename_i hq
    simp only [Stage, tally_entry, hq] at h
    rw [tally_setState, tally_dropTx]
    simp only [Stage]
    exact ⟨h.1, h.2.1, by omega, h.2.2.2⟩
  · rename_i hq
    simp only [Stage, tally_entry, hq] at h
    rw [tally_setState]
    simp only [Stage]
    exact ⟨h.1, h.2.1, by omega, h.2.2.2⟩
  · rename_i hq
    simp only [Stage, tally_entry, hq] at h
    omega
  · rename_i hq
    simp only [Stage, tally_entry, hq] at h
    omega

theorem handleResult_accepted (s : TcState) (id : Id) :
    (s.handleStreamResult id).accepted = s.accepted := by
  unfold handleStreamResult
  split <;> rfl

/-- **A thread has ended, and `tc-main` handles its result.** -/
theorem report_staged {failed : Prop} {c : Nat} {t t' : StreamThreads} (hsel : s.selecting = true)
    (h : Staged tunnels id failed s) (ht : s.threads[c]? = some t) (hid : t'.id = t.id)
    (hu : t.unreported = t'.unreported + 1) :
    Staged tunnels id failed
      ({ s with threads := s.threads.set c t' }.handleStreamResult t.id) := by
  by_cases hne : t.id = id
  · have heq := tally_report ht hid hu hne
    subst hne
    refine ⟨handleResult_stage (heq ▸ h.stage), fun hun => ?_⟩
    have hst := h.stage
    have hnone := (h.fresh (by rw [handleResult_accepted] at hun; exact hun)).1
    simp only [Stage, hnone] at hst
    rw [heq] at hst
    simp only at hst
    omega
  · refine h.of_tally ?_ (handleResult_accepted _ _)
    rw [tally_handleResult (s := { s with threads := s.threads.set c t' }) hsel hne,
      tally_set_other ht hid hne]

theorem handleNew_accepted (s : TcState) (id : Id) :
    (s.handleNewStreamEstablished tunnels id).accepted = s.accepted := by
  unfold handleNewStreamEstablished
  split
  · rfl
  · rfl
  · rfl
  · rfl
  · split <;> rfl

/-- One connect thread less. -/
theorem connecting_eraseIdx (id : Id) {l : List Connecting} {i : Nat} {x : Connecting}
    (h : l[i]? = some x) :
    connecting id l = connecting id (l.eraseIdx i) + if x.id = id then 1 else 0 := by
  obtain ⟨hi, rfl⟩ := List.getElem?_eq_some_iff.mp h
  have hperm := (List.getElem_cons_eraseIdx_perm hi).countP_eq fun x => decide (x.id = id)
  rw [connecting, ← hperm, List.countP_cons]
  simp [connecting]

/-- Only an opening stream has a connect thread, and it has one. -/
theorem Stage.of_connecting {failed : Prop} {x : Tally} (h : Stage failed x)
    (hx : 0 < x.connecting) : ∃ queued, x.entry = some (.opening queued) ∧ ¬ failed ∧
      x.started = 0 ∧ x.unreported = 0 ∧ x.connecting = 1 ∧ x.establishing = 0 := by
  unfold Stage at h
  split at h
  case h_2 queued hq =>
    refine ⟨queued, hq, fun hf => ?_, h.2.1, h.2.2.1, by omega, h.2.2.2.2⟩
    have := h.1 hf
    omega
  all_goals omega

/-- Threads are about to be started only for a stream without an entry. -/
theorem Stage.of_establishing {failed : Prop} {x : Tally} (h : Stage failed x)
    (hx : 0 < x.establishing) : x.entry = none ∧ ¬ failed ∧
      x.started = 0 ∧ x.unreported = 0 ∧ x.connecting = 0 ∧ x.establishing = 1 := by
  unfold Stage at h
  split at h
  · rename_i hnone
    exact ⟨hnone, h.1, h.2.1, h.2.2.1, h.2.2.2.1, by omega⟩
  all_goals omega

theorem connected_staged {failed : Prop} {i : Nat} {x : Connecting} (hsel : s.selecting = true)
    (h : Staged tunnels id failed s) (hx : s.connecting[i]? = some x) :
    Staged tunnels id failed
      ({ s with connecting := s.connecting.eraseIdx i }.handleNewStreamEstablished tunnels x.id) := by
  have hcon := connecting_eraseIdx id hx
  by_cases hid : x.id = id
  · subst hid
    simp only [if_true] at hcon
    obtain ⟨queued, hq, hnf, hn, hu, hone, hest⟩ := h.stage.of_connecting
      (by simp only [tally]; omega)
    rw [tally_entry] at hq
    simp only [tally] at hn hu hone
    refine ⟨?_, fun hacc => ?_⟩
    · simp only [handleNewStreamEstablished, hq, Stage, tally, send, remove_self]
      refine ⟨hnf, hn, hu, ?_, ?_⟩
      · simp only [remove]
        omega
      · simp [establishing, Op.establishes]
    · have hnone := (h.fresh (by rw [handleNew_accepted] at hacc; exact hacc)).1
      rw [tally_entry, hq] at hnone
      cases hnone
  · refine h.of_tally ?_ (handleNew_accepted _ _)
    rw [tally_handleNew tunnels (s := { s with connecting := s.connecting.eraseIdx i }) hsel hid]
    simp only [hid, if_false, Nat.add_zero] at hcon
    simp only [tally, Tally.mk.injEq, true_and, and_true]
    exact hcon.symm

theorem connectFailed_staged {failed : Prop} {i : Nat} {x : Connecting}
    (h : Staged tunnels id failed s) (hx : s.connecting[i]? = some x) (m : List Message) :
    Staged tunnels id (failed ∨ x.id = id)
      { s with connecting := s.connecting.eraseIdx i, toServer := m } := by
  have hcon := connecting_eraseIdx id hx
  by_cases hid : x.id = id
  · simp only [hid, if_true] at hcon
    obtain ⟨queued, hq, hnf, hn, hu, hone, hest⟩ := h.stage.of_connecting
      (by simp only [tally]; omega)
    refine ⟨?_, fun hacc => h.fresh hacc⟩
    rw [tally_entry] at hq
    simp only [tally] at hn hu hone hest
    simp only [Stage, tally, hq]
    exact ⟨fun _ => by omega, hn, hu, by omega, hest⟩
  · simp only [hid, if_false, Nat.add_zero, or_false] at hcon ⊢
    refine h.of_tally ?_ rfl
    simp only [tally, Tally.mk.injEq, true_and, and_true]
    exact hcon.symm

theorem accepted_staged {failed : Prop} {tunnel : Nat} (hsel : s.selecting = true)
    (hclient : tunnels.clientBound.contains tunnel = true) (h : Staged tunnels id failed s) :
    Staged tunnels id failed
      ({ s with accepted := fun t => if t = tunnel then s.accepted t + 1 else s.accepted t
        }.handleNewStreamEstablished tunnels ⟨tunnel, s.accepted tunnel⟩) := by
  by_cases hid : ⟨tunnel, s.accepted tunnel⟩ = id
  · subst hid
    obtain ⟨hnone, hest⟩ := h.fresh ⟨hclient, Nat.le_refl _⟩
    have hst := h.stage
    rw [tally_entry] at hnone
    simp only [Stage, tally_entry, hnone] at hst
    refine ⟨?_, fun hun => ?_⟩
    · simp only [handleNewStreamEstablished, hnone, hclient, if_true, Stage, tally, send]
      exact ⟨hst.1, hst.2.1, hst.2.2.1, hst.2.2.2.1, by simp [establishing, Op.establishes]⟩
    · have hlt := hun.2
      rw [handleNew_accepted] at hlt
      simp only [if_true] at hlt
      omega
  · have heq := tally_handleNew tunnels (s := { s with
      accepted := fun t => if t = tunnel then s.accepted t + 1 else s.accepted t }) hsel hid
    refine ⟨?_, fun hun => ?_⟩
    · rw [heq]
      exact h.stage
    · rw [heq]
      refine h.fresh ⟨hun.1, ?_⟩
      have hle := hun.2
      rw [handleNew_accepted] at hle
      simp only at hle
      split at hle <;> omega

/-- An operation that starts nothing for the stream is done. -/
theorem tally_tail {op : Op} {ops : List Op} (hops : s.ops = op :: ops)
    (h : op.establishes id = false) : tally id { s with ops := ops } = tally id s := by
  simp only [tally, hops, establishing, List.countP_cons, h]
  rfl

/-- **An operation of `tc-main` keeps the stage.** -/
theorem perform_staged {failed : Prop} {op : Op} {ops : List Op} (h : Staged tunnels id failed s)
    (hops : s.ops = op :: ops) (hp : { s with ops := ops }.perform op = some s') :
    Staged tunnels id failed s' := by
  have hquiet : op.establishes id = false → Staged tunnels id failed { s with ops := ops } :=
    fun hq => h.of_tally (tally_tail hops hq) rfl
  have hmodify : ∀ {c f}, op.establishes id = false → (∀ t : StreamThreads, (f t).id = t.id) →
      (∀ t : StreamThreads, (f t).unreported = t.unreported) →
      Staged tunnels id failed ({ s with ops := ops }.modifyThreads c f) :=
    fun hq hid hf => (hquiet hq).of_tally (tally_modifyThreads _ _ hid hf) rfl
  cases op <;> simp only [TcState.perform] at hp
  case notify => cases hp; exact hquiet rfl
  case toQuic m => cases hp; exact (hquiet rfl).of_tally rfl rfl
  case toTx c data =>
    split at hp
    · cases hp
    · split at hp
      · cases hp; exact hquiet rfl
      · split at hp <;> cases hp
        exact hmodify rfl (fun _ => rfl) (fun _ => rfl)
  case establish id' queued =>
    cases hp
    by_cases hid : id' = id
    · subst hid
      have hpos : 0 < (tally id' s).establishing := by
        simp [tally, hops, establishing, Op.establishes]
      obtain ⟨hnone, hnf, hn, hu, hcon, hest⟩ := h.stage.of_establishing hpos
      simp only [tally, started, unreported, establishing, hops] at hn hu hcon hest
      refine ⟨?_, fun hacc => ?_⟩
      · simp only [Stage, tally, started, unreported, establishing, List.map_append,
          List.sum_append, hn, hu, setState_self]
        refine ⟨hnf, by simp [StreamThreads.spawn], ?_, hcon, ?_⟩
        · simp [StreamThreads.spawn, StreamThreads.unreported, ReadThread.isFinished,
            WriteThread.isFinished]
        · rw [List.countP_cons_of_pos (by simp [Op.establishes])] at hest
          exact Nat.succ.inj hest
      · have hzero := (h.fresh hacc).2
        omega
    · refine h.of_tally ?_ rfl
      have hentry := setState_other { s with ops := ops } id' (.opened s.threads.length)
        (Ne.symm hid)
      simp only [tally, Tally.mk.injEq, started, unreported, establishing, hops]
      refine ⟨hentry, ?_, ?_, rfl, ?_⟩
      · simp [StreamThreads.spawn, hid]
      · simp [StreamThreads.spawn, hid]
      · simp [Op.establishes, hid, setState]
  case shutdown c => cases hp; exact hmodify rfl (fun _ => rfl) (fun _ => rfl)
  case joinRead c =>
    split at hp <;> cases hp
    exact hquiet rfl
  case joinWrite c =>
    split at hp <;> cases hp
    exact hquiet rfl
  case dropTx c => cases hp; exact hmodify rfl (fun _ => rfl) (fun _ => rfl)

/-! ### Steps -/

/-- A thread that moves on its own does not end. -/
theorem threadStep_unreported {t t' : StreamThreads} {a : ThreadAct} (h : t.step a = some t') :
    t'.unreported = t.unreported := by
  cases a <;> simp only [StreamThreads.step] at h
  case readData data =>
    split at h
    · rename_i hr
      split at h <;> cases h
      simp [StreamThreads.unreported, hr, ReadThread.isFinished]
    · cases h
  case readEnd result =>
    split at h <;> cases h
    rename_i hr
    simp [StreamThreads.unreported, hr, ReadThread.isFinished]
  case writeOk =>
    split at h <;> cases h
    rename_i hw
    simp [StreamThreads.unreported, hw, WriteThread.isFinished]
  case writeFails n e =>
    split at h
    · rename_i hw
      split at h <;> cases h
      simp [StreamThreads.unreported, hw, WriteThread.isFinished]
    · cases h
  case takeData =>
    split at h <;> cases h
    rename_i hw _
    simp [StreamThreads.unreported, hw, WriteThread.isFinished]
  case disconnected =>
    split at h
    · rename_i hw _
      split at h <;> cases h
      simp [StreamThreads.unreported, hw, WriteThread.isFinished]
    · cases h

/-- The connection of the stream cannot be made, while `tc-main` is in its loop. -/
def fails (id : Id) (s : TcState) : Act → Bool
  | .connectFailed i => !s.left && s.connecting[i]?.any fun x => x.id = id
  | _ => false

/-- `tc-main` does not come back to its loop. -/
theorem step_left {a : Act} (h : s.step tunnels a = some s') (hl : s'.left = false) :
    s.left = false := by
  rcases step_stepped h with ⟨-, hleft, -, -, -⟩ | ⟨hsel, -, -, -⟩ | ⟨hsel, -, -, -, -, -, -⟩ |
    ⟨hsel, -, -⟩ | ⟨op, ops, hops, hp, -⟩ | ⟨c, b, t, t', -, -, -, rfl⟩ |
    ⟨c, t, data, -, -, rfl, -⟩ | ⟨hsel, -, -, -, -, -, -, -⟩
  · exact hleft ▸ hl
  · exact (selecting_iff.mp hsel).2
  · exact (selecting_iff.mp hsel).2
  · exact (selecting_iff.mp hsel).2
  · exact (perform_frame hp).2.symm.trans hl
  · exact hl
  · exact hl
  · exact (selecting_iff.mp hsel).2

/-- No tunnel is bound to both sides. -/
def Tunnels.Disjoint (tunnels : Tunnels) : Prop :=
  ∀ k, tunnels.serverBound.contains k = true → tunnels.clientBound.contains k = false

theorem handleServer_staged {failed : Prop} {msg : Option Message} (hdisj : tunnels.Disjoint)
    (hsel : s.selecting = true) (hmsg : msg ≠ some (closeTcpStream id))
    (h : Staged tunnels id failed s) : Staged tunnels id failed (s.handleServer tunnels msg) := by
  match msg with
  | none =>
    refine h.of_tally (tally_send hsel fun op hop => ?_) rfl
    rw [List.mem_singleton.mp hop]
    rfl
  | some ⟨id', some .openTcp⟩ => exact handleOpen_staged (hdisj id.tunnel) hsel h id'
  | some ⟨id', some .closeTcp⟩ =>
    have hne : id' ≠ id := by
      rintro rfl
      exact hmsg rfl
    have hacc : (s.handleCloseFromServer id').accepted = s.accepted := by
      unfold handleCloseFromServer
      split <;> rfl
    exact h.of_tally (tally_handleClose hne s) hacc
  | some ⟨id', some (.tcpData data)⟩ => exact handleData_staged hsel h id' data
  | some ⟨id', none⟩ => exact h

/-- **A step that stays in the loop keeps the stage of a stream that the server does not close.** -/
theorem step_staged {failed : Prop} {a : Act} (hdisj : tunnels.Disjoint)
    (ha : a ≠ .server (some (closeTcpStream id))) (h : Staged tunnels id failed s)
    (hs : s.step tunnels a = some s') (hl : s'.left = false) :
    Staged tunnels id (failed ∨ fails id s a = true) s' := by
  have hleft := step_left hs hl
  have hquiet : fails id s a = false → Staged tunnels id failed s' →
      Staged tunnels id (failed ∨ fails id s a = true) s' := by
    intro hf h'
    rw [hf]
    simpa using h'
  cases step_taken hs with
  | allocations sel => exact hquiet rfl h
  | leaves act sel => cases hl
  | server msg sel =>
    exact hquiet rfl (handleServer_staged hdisj sel (fun hm => ha (by rw [hm])) h)
  | accepted tunnel sel bound => exact hquiet rfl (accepted_staged sel bound h)
  | connected i x hx sel => exact hquiet rfl (connected_staged sel h hx)
  | connectFailed i x hx =>
    have hf : (fails id s (.connectFailed i) = true) = (x.id = id) := by
      simp [fails, hleft, hx]
    rw [hf]
    exact connectFailed_staged h hx _
  | perform op ops s' hops hp => exact hquiet rfl (perform_staged h hops hp)
  | thread c b t t' ht hb =>
    exact hquiet rfl (h.of_tally
      (tally_set ht (threadStep_keeps hb).id_eq (threadStep_unreported hb)) rfl)
  | forward c t data ht hread =>
    have hu : ({ t with read := .reading } : StreamThreads).unreported = t.unreported := by
      simp [StreamThreads.unreported, hread, ReadThread.isFinished]
    exact hquiet rfl (h.of_tally (tally_set ht rfl hu) rfl)
  | reportRead c t result ht hread sel =>
    refine hquiet rfl (report_staged sel h ht rfl ?_)
    simp [StreamThreads.unreported, hread, ReadThread.isFinished, Nat.add_comm]
  | reportWrite c t result ht hwrite sel =>
    refine hquiet rfl (report_staged sel h ht rfl ?_)
    simp [StreamThreads.unreported, hwrite, WriteThread.isFinished]

/-! ## Streams that have ended on the client's side -/

/-- Both threads of the stream have ended, and their results were handled. -/
def Finished (id : Id) (threads : List StreamThreads) : Prop :=
  ∃ (c : Nat) (t : StreamThreads), threads[c]? = some t ∧ t.id = id ∧
    t.read.isFinished = true ∧ t.write.isFinished = true

/-- Exactly one close was sent for the stream, and it has no entry. -/
def Settled (id : Id) (s : TcState) : Prop :=
  s.toServer.count (closeTcpStream id) = 1 ∧ s.streams[id]? = none

/-- `tc-main`, with a note whether the connection of the stream could not be made. -/
def watch (tunnels : Tunnels) (id : Id) : TcState × Bool → Act → Option (TcState × Bool) :=
  Machine.observe (TcState.step tunnels) fun s a failed => failed || fails id s a

/-- The stream has ended on the client's side. -/
def Concluded (id : Id) (x : TcState × Bool) : Prop := x.2 = true ∨ Finished id x.1.threads

theorem finished_started {threads : List StreamThreads} {c : Nat} {t : StreamThreads}
    (ht : threads[c]? = some t) (hid : t.id = id) : 0 < started id threads := by
  rw [started, List.sum_pos_iff_exists_pos_nat]
  exact ⟨1, List.mem_map.mpr ⟨t, List.mem_of_getElem? ht, if_pos hid⟩, Nat.one_pos⟩

/-- A stream that has started or whose connection could not be made has an entry. -/
theorem Stage.entry_ne_none {failed : Prop} {x : Tally} (h : Stage failed x)
    (hx : failed ∨ 0 < x.started) : x.entry ≠ none := by
  intro hnone
  simp only [Stage, hnone] at h
  rcases hx with hf | hpos
  · exact h.1 hf
  · omega

theorem finished_set {threads : List StreamThreads} {c : Nat} {t t' : StreamThreads}
    (h : Finished id (threads.set c t')) (ht : threads[c]? = some t) (hk : Keeps t t') :
    Finished id threads := by
  obtain ⟨c', t₁, h₁, hid, hr, hw⟩ := h
  have hlt := (List.getElem?_eq_some_iff.mp ht).1
  by_cases hc : c = c'
  · subst hc
    rw [List.getElem?_set_self hlt] at h₁
    cases h₁
    refine ⟨c, t, ht, hk.id_eq ▸ hid, ?_, ?_⟩
    · by_contra hne
      have hread := hk.read fun h => hne (by rw [h]; rfl)
      cases h : t'.read <;> simp_all [ReadThread.isFinished]
    · by_contra hne
      have hwrite := hk.write fun h => hne (by rw [h]; rfl)
      cases h : t'.write <;> simp_all [WriteThread.isFinished]
  · rw [List.getElem?_set_ne hc] at h₁
    exact ⟨c', t₁, h₁, hid, hr, hw⟩

theorem finished_modify {threads : List StreamThreads} {c : Nat}
    {f : StreamThreads → StreamThreads} (h : Finished id (threads.modify c f))
    (hf : ∀ t, (f t).id = t.id ∧ (f t).read = t.read ∧ (f t).write = t.write) :
    Finished id threads := by
  obtain ⟨c', t₁, h₁, hid, hr, hw⟩ := h
  rw [List.getElem?_modify] at h₁
  obtain ⟨t, ht, heq⟩ := Option.map_eq_some_iff.mp h₁
  refine ⟨c', t, ht, ?_⟩
  split at heq
  · rw [← heq, (hf t).1] at hid
    rw [← heq, (hf t).2.1] at hr
    rw [← heq, (hf t).2.2] at hw
    exact ⟨hid, hr, hw⟩
  · rw [← heq] at hid hr hw
    exact ⟨hid, hr, hw⟩

/-- An operation of `tc-main` ends no thread. -/
theorem perform_finished {op : Op} (h : s.perform op = some s') (hf : Finished id s'.threads) :
    Finished id s.threads := by
  cases op <;> simp only [TcState.perform] at h
  case notify => cases h; exact hf
  case toQuic m => cases h; exact hf
  case toTx c data =>
    split at h
    · cases h
    · split at h
      · cases h; exact hf
      · split at h <;> cases h
        exact finished_modify hf fun _ => ⟨rfl, rfl, rfl⟩
  case establish id' queued =>
    cases h
    obtain ⟨c, t, ht, hid, hr, hw⟩ := hf
    rw [List.getElem?_append] at ht
    split at ht
    · exact ⟨c, t, ht, hid, hr, hw⟩
    · rw [List.getElem?_singleton] at ht
      split at ht <;> cases ht
      cases hr
  case shutdown c => cases h; exact finished_modify hf fun _ => ⟨rfl, rfl, rfl⟩
  case joinRead c => split at h <;> cases h; exact hf
  case joinWrite c => split at h <;> cases h; exact hf
  case dropTx c => cases h; exact finished_modify hf fun _ => ⟨rfl, rfl, rfl⟩

/-- A stream finishes while `tc-main` is in its loop. -/
theorem step_finished {a : Act} (h : s.step tunnels a = some s') (hf : Finished id s'.threads)
    (hn : ¬ Finished id s.threads) : s'.left = false := by
  rcases step_stepped h with ⟨-, -, -, hthreads, -⟩ | ⟨hsel, id', hh, -⟩ |
    ⟨hsel, id', c, data, -, -, rfl⟩ | ⟨hsel, rfl, -⟩ | ⟨op, ops, hops, hp, -⟩ |
    ⟨c, b, t, t', ht, -, hb, rfl⟩ | ⟨c, t, data, ht, hread, rfl, -⟩ |
    ⟨hsel, c, t, t', ht, -, rfl, -⟩
  · rw [hthreads] at hf
    exact absurd hf hn
  · exact hh.left.trans (selecting_iff.mp hsel).2
  · exact (selecting_iff.mp hsel).2
  · exact absurd hf hn
  · exact absurd (perform_finished hp hf) hn
  · exact absurd (finished_set hf ht (threadStep_keeps hb)) hn
  · exact absurd (finished_set hf ht ⟨rfl, rfl, (fun _ h => nomatch h), fun h => h⟩) hn
  · exact (handleResult_handles _ _).left.trans (selecting_iff.mp hsel).2

/-- A stream concludes while `tc-main` is in its loop. -/
theorem watch_concluded {x y : TcState × Bool} {a : Act} (h : watch tunnels id x a = some y)
    (hc : Concluded id y) (hn : ¬ Concluded id x) : y.1.left = false := by
  obtain ⟨hs, hnote⟩ := Machine.observe_eq_some.mp h
  rcases hc with hfail | hfin
  · rw [hnote, Bool.or_eq_true] at hfail
    rcases hfail with hfail | hfail
    · exact absurd (Or.inl hfail) hn
    · cases a <;> simp only [fails, Bool.false_eq_true, Bool.and_eq_true, Bool.not_eq_true'] at hfail
      generalize y.1 = s' at hs
      cases step_taken hs with
      | leaves act sel => rcases act with act | act | act <;> cases act
      | connectFailed i x hx => exact hfail.1
  · exact step_finished hs hfin fun hf => hn (Or.inr hf)

/-- The stage of the stream, as long as `tc-main` is in its loop. -/
def Watched (tunnels : Tunnels) (id : Id) (x : TcState × Bool) : Prop :=
  x.1.left = false → Staged tunnels id (x.2 = true) x.1

theorem watch_watched {x y : TcState × Bool} {a : Act} (hdisj : tunnels.Disjoint)
    (ha : a ≠ .server (some (closeTcpStream id))) (hw : Watched tunnels id x)
    (h : watch tunnels id x a = some y) : Watched tunnels id y := by
  obtain ⟨hs, hnote⟩ := Machine.observe_eq_some.mp h
  intro hl
  have hst := step_staged hdisj ha (hw (step_left hs hl)) hs hl
  rw [hnote, Bool.or_eq_true]
  exact hst

/-- A concluded stream has an entry, so it is not settled. -/
theorem Watched.not_settled {x : TcState × Bool} (hw : Watched tunnels id x)
    (hl : x.1.left = false) (hc : Concluded id x) : ¬ Settled id x.1 := by
  intro hset
  refine (hw hl).stage.entry_ne_none ?_ hset.2
  rcases hc with hf | ⟨c, t, ht, hid, -, -⟩
  · exact Or.inl hf
  · exact Or.inr (finished_started ht hid)

theorem run_unsettled (hdisj : tunnels.Disjoint) {acts : List Act} {x y : TcState × Bool}
    (hopen : Act.server (some (closeTcpStream id)) ∉ acts) (hw : Watched tunnels id x)
    (hn : ¬ Concluded id x) (hrun : Machine.run (watch tunnels id) x acts = some y)
    (hc : Concluded id y) :
    ¬ Machine.Always (watch tunnels id) (fun x => Concluded id x → Settled id x.1) x acts := by
  induction acts generalizing x with
  | nil =>
    cases hrun
    exact absurd hc hn
  | cons a acts ih =>
    obtain ⟨x', hx', hrun'⟩ := Machine.run_cons_eq_some.mp hrun
    rw [List.mem_cons, not_or] at hopen
    have hw' := watch_watched hdisj (fun h => hopen.1 h.symm) hw hx'
    rintro ⟨-, hrest⟩
    have halways := hrest x' hx'
    by_cases hc' : Concluded id x'
    · exact hw'.not_settled (watch_concluded hx' hc' hn) hc' (halways.head hc')
    · exact ih hopen.2 hw' hc' hrun' halways

/-! ### The tunnels of `setup` -/

/-- Every tunnel was allocated by the server, for the side it is bound to. -/
structure Tunnels.Allocated (allocated : Std.ExtTreeMap Nat (Option Response)) (t : Tunnels) :
    Prop where
  server : ∀ (k : Nat) (desc : Description), t.serverBound[k]? = some desc →
    allocated[k]? = some (some (.success desc)) ∧ Side.tryFrom desc.side = some .server
  client : ∀ (k : Nat) (desc : Description), t.clientBound[k]? = some desc →
    allocated[k]? = some (some (.success desc)) ∧ Side.tryFrom desc.side = some .client

theorem add_allocated {allocated : Std.ExtTreeMap Nat (Option Response)} {t : Tunnels}
    (h : t.Allocated allocated) (tunnel : Nat) : (t.add allocated tunnel).Allocated allocated := by
  unfold Tunnels.add
  split
  · rename_i desc hdesc
    split
    · rename_i hside
      refine ⟨fun k d hk => ?_, h.client⟩
      simp only [Std.ExtTreeMap.getElem?_insert] at hk
      split at hk
      · rename_i hkey
        cases hk
        rw [← Std.LawfulEqOrd.eq_of_compare hkey]
        exact ⟨hdesc, hside⟩
      · exact h.server k d hk
    · rename_i hside
      refine ⟨h.server, fun k d hk => ?_⟩
      simp only [Std.ExtTreeMap.getElem?_insert] at hk
      split at hk
      · rename_i hkey
        cases hk
        rw [← Std.LawfulEqOrd.eq_of_compare hkey]
        exact ⟨hdesc, hside⟩
      · exact h.client k d hk
    · exact h
  · exact h

theorem allocate_allocated (allocated : Std.ExtTreeMap Nat (Option Response)) (l : List Nat) :
    ∀ {t : Tunnels}, t.Allocated allocated →
      (l.foldl (Tunnels.add allocated) t).Allocated allocated := by
  induction l with
  | nil => exact fun h => h
  | cons tunnel l ih => exact fun h => ih (add_allocated h tunnel)

/-- **A tunnel is bound to one side.** -/
theorem allocate_disjoint (requested : List Nat)
    (allocated : Std.ExtTreeMap Nat (Option Response)) :
    (Tunnels.allocate requested allocated).Disjoint := by
  have h : (Tunnels.allocate requested allocated).Allocated allocated := by
    refine allocate_allocated allocated requested ⟨fun k d hk => ?_, fun k d hk => ?_⟩
    · simp at hk
    · simp at hk
  intro k hserver
  by_contra hclient
  rw [Bool.not_eq_false, Std.ExtTreeMap.contains_eq_isSome_getElem?] at hclient
  rw [Std.ExtTreeMap.contains_eq_isSome_getElem?] at hserver
  obtain ⟨d, hd⟩ := Option.isSome_iff_exists.mp hserver
  obtain ⟨d', hd'⟩ := Option.isSome_iff_exists.mp hclient
  obtain ⟨heq, hside⟩ := h.server k d hd
  obtain ⟨heq', hside'⟩ := h.client k d' hd'
  rw [heq] at heq'
  cases heq'
  rw [hside] at hside'
  cases hside'

/-! ### Runs -/

theorem watched_initial (tunnels : Tunnels) (id : Id) : Watched tunnels id (.initial, false) := by
  refine fun _ => ⟨?_, fun _ => ?_⟩
  · simp [Stage, tally, TcState.initial, started, unreported, connecting, establishing]
  · simp [tally, TcState.initial, establishing]

/-- **Local closes are not settled.**  In every run in which a stream ends on the client's side (both
its threads have ended and their results were handled, or its connection could not be made) and the
server does not close it, `tc-main` is in a state where the stream has ended and is not settled. -/
theorem local_close_unsettled (requested : List Nat)
    (allocated : Std.ExtTreeMap Nat (Option Response)) (id : Id) {acts : List Act}
    {x : TcState × Bool}
    (hrun : Machine.run (watch (Tunnels.allocate requested allocated) id) (.initial, false) acts =
      some x)
    (hopen : Act.server (some (closeTcpStream id)) ∉ acts) (hc : Concluded id x) :
    ¬ Machine.Always (watch (Tunnels.allocate requested allocated) id)
      (fun x => Concluded id x → Settled id x.1) (.initial, false) acts := by
  refine run_unsettled (allocate_disjoint requested allocated) hopen (watched_initial _ id) ?_ hrun
    hc
  rintro (hf | ⟨c, t, ht, -⟩)
  · cases hf
  · simp [TcState.initial] at ht

/-- The server allocates tunnel 0 of its own side and tunnel 1 of the client's. -/
def bothSides : Std.ExtTreeMap Nat (Option Response) :=
  ((∅ : Std.ExtTreeMap Nat (Option Response)).insert 0 (some (.success ⟨1, "localhost", 22⟩))).insert
    1 (some (.success ⟨0, "", 0⟩))

/-- The server opens a stream to a port that nobody listens on. -/
def refused : List Act := [.server (some (openTcpStream ⟨0, 0⟩)), .connectFailed 0]

theorem refused_unsettled :
    ¬ Machine.Always (watch (Tunnels.allocate [0, 1] bothSides) ⟨0, 0⟩)
      (fun x => Concluded ⟨0, 0⟩ x → Settled ⟨0, 0⟩ x.1) (.initial, false) refused := by
  have hrun : (Machine.run (watch (Tunnels.allocate [0, 1] bothSides) ⟨0, 0⟩) (.initial, false)
      refused).any (fun x => x.2) = true := by
    decide +kernel
  obtain ⟨x, hx, hf⟩ := (Option.any_eq_true _ _).mp hrun
  exact local_close_unsettled [0, 1] bothSides ⟨0, 0⟩ hx (by decide) (Or.inl hf)

/-- A local peer connects, closes its connection, and both threads of the stream end. -/
def connectAndClose : List Act :=
  [.accepted 1, .perform, .perform, .thread 0 .writeOk, .thread 0 (.readEnd (.ok ())),
    .reportRead 0, .thread 0 .disconnected, .reportWrite 0]

/-- No close is sent for the stream, and its entry stays. -/
theorem connectAndClose_unsettled :
    ∃ x, Machine.run (watch (Tunnels.allocate [0, 1] bothSides) ⟨1, 0⟩) (.initial, false)
        connectAndClose = some x ∧
      Act.server (some (closeTcpStream ⟨1, 0⟩)) ∉ connectAndClose ∧ Concluded ⟨1, 0⟩ x ∧
      x.1.toServer = [openTcpStream ⟨1, 0⟩] ∧ x.1.streams[(⟨1, 0⟩ : Id)]? = some .fullyClosed ∧
      ¬ Settled ⟨1, 0⟩ x.1 := by
  have hrun : (Machine.run (watch (Tunnels.allocate [0, 1] bothSides) ⟨1, 0⟩) (.initial, false)
      connectAndClose).any (fun x =>
        x.1.threads[0]?.any (fun t => t.id = ⟨1, 0⟩ ∧ t.read.isFinished ∧ t.write.isFinished) ∧
        x.1.toServer = [openTcpStream ⟨1, 0⟩] ∧ x.1.streams[(⟨1, 0⟩ : Id)]? = some .fullyClosed) =
      true := by
    decide +kernel
  obtain ⟨x, hx, hd⟩ := (Option.any_eq_true _ _).mp hrun
  simp only [decide_eq_true_eq] at hd
  obtain ⟨hthread, hsent, hentry⟩ := hd
  obtain ⟨t, ht, hid, hr, hw⟩ := by
    simpa using (Option.any_eq_true _ _).mp hthread
  refine ⟨x, hx, by decide, Or.inr ⟨0, t, ht, hid, hr, hw⟩, hsent, hentry, fun hset => ?_⟩
  rw [hset.2] at hentry
  cases hentry

end ApertureC.Tunnel
