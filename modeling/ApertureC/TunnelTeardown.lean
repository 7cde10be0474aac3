import ApertureC.TunnelDeadlock

/-!
# The teardown of the tunnel streams (`aperturec-client/src/channels/tunnel.rs`)

* `Stuck` — `tc-main` waits in a join of a thread that waits for `tc-main`.

Principal results: `Stuck.step` (such a state is never left) and `teardown_stuck_iff` (the teardown
of the streams gets stuck exactly when a stream is open).
-/

set_option autoImplicit false

namespace ApertureC.Tunnel

open TcState

variable {tunnels : Tunnels} {s s' : TcState} {id : Id}

def ReadThread.isReporting : ReadThread → Bool
  | .reporting _ => true
  | _ => false

/-- `tc-main` waits in a join of a thread that waits to report to it, or of a write thread that waits
for data while `tc-main` holds its `to_tx`. -/
def Stuck (s : TcState) : Prop :=
  (∃ c ops t r, s.ops = .joinRead c :: ops ∧ s.threads[c]? = some t ∧ t.read = .reporting r) ∨
  ∃ c ops t, s.ops = .joinWrite c :: ops ∧ s.threads[c]? = some t ∧
    ((∃ r, t.write = .reporting r) ∨ t.write = .receiving ∧ t.toTx = [] ∧ t.toTxDropped = false)

/-- **A stuck teardown stays stuck.** -/
theorem Stuck.step {a : Act} (hs : Stuck s) (h : s.step tunnels a = some s') : Stuck s' := by
  rcases hs with ⟨c, ops, t, r, hops, ht, hr⟩ | ⟨c, ops, t, hops, ht, hr⟩
  · have hwait : { s with ops := ops }.perform (.joinRead c) = none := by
      simp only [TcState.perform, ht]
      split
      · rename_i heq
        rw [Option.some.injEq] at heq
        rw [heq] at hr
        cases hr
      · rfl
    obtain ⟨hops', t', ht', hr'⟩ := (step_stepped h).persist (P := fun t => t.read = .reporting r)
      (fun _ _ hp hm => hm.read_reporting hp) hops hwait ht hr
    exact Or.inl ⟨c, ops, t', r, hops'.trans hops, ht', hr'⟩
  · have hwait : { s with ops := ops }.perform (.joinWrite c) = none := by
      simp only [TcState.perform, ht]
      split
      · rename_i heq
        rw [Option.some.injEq] at heq
        rw [heq] at hr
        rcases hr with ⟨r, hr⟩ | ⟨hr, -⟩ <;> cases hr
      · rfl
    obtain ⟨hops', t', ht', hr'⟩ := (step_stepped h).persist
      (P := fun t => (∃ r, t.write = .reporting r) ∨
        t.write = .receiving ∧ t.toTx = [] ∧ t.toTxDropped = false)
      (fun _ _ hp hm => hp.imp (Exists.imp fun r hr => (hm.write_reporting hr).1)
        fun hp => hm.write_receiving hp.1 hp.2.1 hp.2.2) hops hwait ht hr
    exact Or.inr ⟨c, ops, t', hops'.trans hops, ht', hr'⟩

/-! ### The way to the join -/

/-- `tc-main` performs its next operation. -/
theorem reach_perform {op : Op} {ops : List Op} (hops : s.ops = op :: ops)
    (hp : { s with ops := ops }.perform op = some s') :
    Machine.Reachable (TcState.step tunnels) s s' := by
  refine Machine.Reachable.head (a := .perform) ?_ (.refl s')
  simp only [TcState.step, hops]
  exact hp

/-- The teardown reaches the join of the read thread of the first opened stream. -/
theorem reach_join (tunnels : Tunnels) : ∀ (l : List (Id × State)) {s : TcState},
    s.ops = l.flatMap teardown →
    (∀ id c, (id, State.opened c) ∈ l → ∃ t, s.threads[c]? = some t ∧ t.read ≠ .finished) →
    (∃ id c, (id, State.opened c) ∈ l) →
    ∃ s' c ops t, Machine.Reachable (TcState.step tunnels) s s' ∧ s'.ops = .joinRead c :: ops ∧
      s'.threads[c]? = some t ∧ t.read ≠ .finished
  | [], _, _, _, ⟨_, _, h⟩ => nomatch h
  | (id, st) :: l, s, hops, hlive, hopen => by
    rw [List.flatMap_cons] at hops
    have hrest : ∀ id c, (id, State.opened c) ∈ l →
        ∃ t, s.threads[c]? = some t ∧ t.read ≠ .finished :=
      fun id c hmem => hlive id c (List.mem_cons_of_mem _ hmem)
    have hskip : (∀ c, st ≠ .opened c) → ∃ s' c ops t,
        Machine.Reachable (TcState.step tunnels) s s' ∧ s'.ops = .joinRead c :: ops ∧
          s'.threads[c]? = some t ∧ t.read ≠ .finished := by
      intro hst
      have htear : teardown (id, st) = [.toQuic (closeTcpStream id)] := by
        cases st <;> first | rfl | exact absurd rfl (hst _)
      rw [htear] at hops
      have hopen' : ∃ id c, (id, State.opened c) ∈ l := by
        obtain ⟨id', c, hmem⟩ := hopen
        rcases List.mem_cons.mp hmem with heq | hmem
        · exact absurd (Prod.mk.inj heq).2.symm (hst c)
        · exact ⟨id', c, hmem⟩
      obtain ⟨s', c, ops, t, hreach, hrest'⟩ := reach_join tunnels l
        (s := { s with
          ops := l.flatMap teardown, toServer := s.toServer ++ [closeTcpStream id] })
        rfl hrest hopen'
      exact ⟨s', c, ops, t, (reach_perform hops rfl).trans hreach, hrest'⟩
    cases st with
    | opened c =>
      obtain ⟨t, ht, hread⟩ := hlive id c List.mem_cons_self
      refine ⟨_, c, _, { t with shut := true }, reach_perform hops rfl, rfl, ?_, hread⟩
      simp [TcState.modifyThreads, ht]
    | opening queued =>
      apply hskip
      intro c h
      cases h
    | halfClosed =>
      apply hskip
      intro c h
      cases h
    | fullyClosed =>
      apply hskip
      intro c h
      cases h

/-- A read thread that is joined ends up in its report, which nobody takes. -/
theorem reach_stuck (tunnels : Tunnels) {c : Nat} {ops : List Op} {t : StreamThreads}
    (hops : s.ops = .joinRead c :: ops) (ht : s.threads[c]? = some t) (hread : t.read ≠ .finished) :
    ∃ s', Machine.Reachable (TcState.step tunnels) s s' ∧ Stuck s' := by
  have hreading : ∀ {u : TcState} {t : StreamThreads}, u.ops = .joinRead c :: ops →
      u.threads[c]? = some t → t.read = .reading →
      ∃ s', Machine.Reachable (TcState.step tunnels) u s' ∧ Stuck s' := by
    intro u t hops ht hr
    have hstep : u.step tunnels (.thread c (.readEnd (.ok ()))) =
        some { u with threads := u.threads.set c { t with read := .reporting (.ok ()) } } := by
      simp only [TcState.step, ht, StreamThreads.step, hr, Option.map_some]
    refine ⟨_, .head hstep (.refl _),
      Or.inl ⟨c, ops, { t with read := .reporting (.ok ()) }, .ok (), hops, ?_, rfl⟩⟩
    exact List.getElem?_set_self (List.getElem?_eq_some_iff.mp ht).1
  cases hr : t.read with
  | reading => exact hreading hops ht hr
  | forwarding data =>
    have hstep : s.step tunnels (.forward c) = some { s with
        threads := s.threads.set c { t with read := .reading }
        toServer := s.toServer ++ [tcpData t.id data] } := by
      simp only [TcState.step, ht, hr]
    have hget : (s.threads.set c { t with read := .reading })[c]? =
        some { t with read := .reading } :=
      List.getElem?_set_self (List.getElem?_eq_some_iff.mp ht).1
    obtain ⟨s', hreach, hstuck⟩ := hreading (u := { s with
      threads := s.threads.set c { t with read := .reading }
      toServer := s.toServer ++ [tcpData t.id data] }) hops hget rfl
    exact ⟨s', .head hstep hreach, hstuck⟩
  | reporting r => exact ⟨s, .refl s, Or.inl ⟨c, ops, t, r, hops, ht, hr⟩⟩
  | finished => exact absurd hr hread

/-- Without an opened stream the teardown joins no thread of a stream. -/
theorem not_stuck_of_closed (acts : List Act) (hleft : s.left = true)
    (hops : ∀ op ∈ s.ops, ∃ m, op = .toQuic m) :
    Machine.Always (TcState.step tunnels) (fun s => ¬ Stuck s) s acts := by
  have hinv : Machine.Always (TcState.step tunnels)
      (fun s => s.left = true ∧ ∀ op ∈ s.ops, ∃ m, op = .toQuic m) s acts := by
    refine Machine.always_of_invariant (fun s a s' hI h => ?_) acts ⟨hleft, hops⟩
    have hsel : ¬ s.selecting = true := by
      intro hs
      rw [(selecting_iff.mp hs).2] at hI
      cases hI.1
    rcases step_stepped h with ⟨hops', hl, -, -, -⟩ | ⟨hs, -, -, -⟩ | ⟨hs, -, -, -, -, -, -⟩ |
      ⟨hs, -, -⟩ | ⟨op, ops, hops', hp, -⟩ | ⟨c, b, t, t', -, -, -, rfl⟩ |
      ⟨c, t, data, -, -, rfl, -⟩ | ⟨hs, -, -, -, -, -, -, -⟩
    · rw [hops', hl]
      exact hI
    · exact absurd hs hsel
    · exact absurd hs hsel
    · exact absurd hs hsel
    · obtain ⟨m, rfl⟩ := hI.2 op (by rw [hops']; exact List.mem_cons_self)
      cases hp
      exact ⟨hI.1, fun o ho => hI.2 o (by rw [hops']; exact List.mem_cons_of_mem _ ho)⟩
    · exact hI
    · exact hI
    · exact absurd hs hsel
  refine hinv.mono fun t ht hs => ?_
  rcases hs with ⟨c, ops, u, r, hops, -, -⟩ | ⟨c, ops, u, hops, -, -⟩
  · obtain ⟨m, hm⟩ := ht.2 (.joinRead c) (by rw [hops]; exact List.mem_cons_self)
    cases hm
  · obtain ⟨m, hm⟩ := ht.2 (.joinWrite c) (by rw [hops]; exact List.mem_cons_self)
    cases hm

/-- **The teardown of the streams.**  After `tc-main` leaves its loop on `Terminate`, no interleaving
has it stuck in a join of a stream's thread exactly when no stream is opened at that moment. -/
theorem teardown_stuck_iff (tunnels : Tunnels)
    (hr : Machine.Reachable (TcState.step tunnels) .initial s)
    (h : s.step tunnels .terminate = some s') :
    (∀ acts, Machine.Always (TcState.step tunnels) (fun s => ¬ Stuck s) s' acts) ↔
      ∀ (id : Id) (c : Nat), s.streams[id]? ≠ some (.opened c) := by
  have hw := reachable_wf hr
  have hs' : s' = s.leave := by
    cases step_taken h with
    | leaves act sel => rfl
  subst hs'
  constructor
  · intro hall id c hc
    have hmem : (id, State.opened c) ∈ s.streams.toList :=
      Std.ExtTreeMap.mem_toList_iff_getElem?_eq_some.mpr hc
    obtain ⟨u, c', ops, t, hreach, hops, ht, hread⟩ := reach_join tunnels
      s.streams.toList (s := s.leave) rfl
      (fun id c hmem => by
        obtain ⟨t, ht, hlive⟩ :=
          hw.opened id c (Std.ExtTreeMap.mem_toList_iff_getElem?_eq_some.mp hmem)
        exact ⟨t, ht, hlive.read⟩)
      ⟨id, c, hmem⟩
    obtain ⟨v, hreach', hstuck⟩ := reach_stuck tunnels hops ht hread
    obtain ⟨acts, hacts⟩ := hreach.trans hreach'
    exact (hall acts).last hacts hstuck
  · intro hclosed acts
    refine not_stuck_of_closed acts rfl fun op hop => ?_
    obtain ⟨⟨id, st⟩, hx, hop⟩ := List.mem_flatMap.mp hop
    have hst := Std.ExtTreeMap.mem_toList_iff_getElem?_eq_some.mp hx
    cases st with
    | opened c => exact absurd hst (hclosed id c)
    | opening queued => exact ⟨_, List.mem_singleton.mp hop⟩
    | halfClosed => exact ⟨_, List.mem_singleton.mp hop⟩
    | fullyClosed => exact ⟨_, List.mem_singleton.mp hop⟩

/-- A stream that the server has closed is not opened. -/
def closedStream : List Act :=
  [.accepted 0, .perform, .perform, .server (some (closeTcpStream ⟨0, 0⟩))]

theorem teardown_stuck_iff_closed :
    ∃ s s', Machine.run (TcState.step oneTunnel) .initial closedStream = some s ∧
      s.step oneTunnel .terminate = some s' ∧ s.streams[(⟨0, 0⟩ : Id)]? = some .halfClosed ∧
      ∀ acts, Machine.Always (TcState.step oneTunnel) (fun s => ¬ Stuck s) s' acts := by
  have hrun : (Machine.run (TcState.step oneTunnel) .initial closedStream).any (fun s =>
      s.selecting && s.streams.toList == [(⟨0, 0⟩, .halfClosed)]) = true := by
    decide +kernel
  obtain ⟨s, hs, hd⟩ := (Option.any_eq_true _ _).mp hrun
  simp only [Bool.and_eq_true, beq_iff_eq] at hd
  have hmem : ∀ (id : Id) (st : State), s.streams[id]? = some st ↔
      (id, st) = (⟨0, 0⟩, .halfClosed) := by
    intro id st
    rw [← Std.ExtTreeMap.mem_toList_iff_getElem?_eq_some, hd.2, List.mem_singleton]
  have hstep : s.step oneTunnel .terminate = some s.leave := if_pos hd.1
  refine ⟨s, s.leave, hs, hstep, (hmem _ _).mpr rfl, ?_⟩
  refine (teardown_stuck_iff oneTunnel ⟨closedStream, hs⟩ hstep).mpr fun id c hc => ?_
  cases (Prod.mk.inj ((hmem id _).mp hc)).2

/-- The client is terminated while a stream is open and its first read is still to come: the socket is
shut down, the read thread sees the end of the stream, and `tc-main` joins it. -/
def terminateOpen : List Act :=
  [.accepted 0, .perform, .perform, .terminate, .perform, .thread 0 (.readEnd (.ok ()))]

theorem open_stream_stuck :
    ¬ Machine.Always (TcState.step oneTunnel) (fun s => ¬ Stuck s) .initial terminateOpen := by
  have hrun : (Machine.run (TcState.step oneTunnel) .initial terminateOpen).any (fun s =>
      s.ops.head? == some (.joinRead 0) && (s.threads[0]?.map fun t => t.read.isReporting) ==
        some true) = true := by
    decide +kernel
  obtain ⟨s, hs, hd⟩ := (Option.any_eq_true _ _).mp hrun
  simp only [Bool.and_eq_true, beq_iff_eq, Option.map_eq_some_iff, List.head?_eq_some_iff] at hd
  obtain ⟨⟨ops, hops⟩, t, ht, hr⟩ := hd
  intro h
  refine h.last hs (Or.inl ?_)
  cases hread : t.read with
  | reporting r => exact ⟨0, ops, t, r, hops, ht, hread⟩
  | reading => rw [hread] at hr; cases hr
  | forwarding data => rw [hread] at hr; cases hr
  | finished => rw [hread] at hr; cases hr

end ApertureC.Tunnel
