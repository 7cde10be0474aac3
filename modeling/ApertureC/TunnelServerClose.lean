import ApertureC.TunnelLocalClose

/-!
# Streams that the server closes (`aperturec-client/src/channels/tunnel.rs`)

A stream that the server closes should be closed at the local peer, once what was queued for it is
written.  The socket is shared by the entry, the read thread and the write thread; it is shut down in
the teardown only, and dropped with the last of the three.

* `Shed` — a stream whose entry was dropped: nothing shuts its socket down any more.
* `Follows` — what a step does to the threads of a stream that is not shut down.
* `ReachesPeer` — the streams that were opened when the server closed them are at their end once
  their write threads have ended.
* `PeerEndsFirst` — the result of the write thread of such a stream is taken after that of its read
  thread.

Principal results: `step_shed`, `step_follows` and `server_close_reaches_iff` (**the closes of the
server reach the local peers exactly in the runs in which the peers end first**).
-/

set_option autoImplicit false

namespace ApertureC.Tunnel

open TcState

variable {tunnels : Tunnels} {s s' : TcState} {id : Id} {c : Nat}

/-! ## Streams without an entry -/

/-- The socket of `c` is held by its threads at most, and will not be shut down. -/
structure Shed (s : TcState) (c : Nat) : Prop where
  thread : ∃ t, s.threads[c]? = some t ∧ t.toTxDropped = true ∧ t.shut = false
  entry : ∀ id : Id, s.streams[id]? ≠ some (.opened c)
  ops : Op.shutdown c ∉ s.ops

/-- A handler opens no entry. -/
theorem Handles.entry {id' : Id} (hh : Handles s s' id)
    (h : s'.streams[id']? = some (.opened c)) : s.streams[id']? = some (.opened c) := by
  rcases hh.map with ⟨heq, -⟩ | hc
  · rw [← heq]
    exact h
  · by_cases hid : id' = id
    · rw [hid] at h
      exact absurd h (hc.entry c)
    · rw [← hc.other id' hid]
      exact h

theorem Handles.shutdown_not_mem (hh : Handles s s' id) (h : Op.shutdown c ∉ s.ops) :
    Op.shutdown c ∉ s'.ops := by
  intro hop
  rcases hh.ops _ hop with hop | ⟨hloop, -⟩
  · exact h hop
  · cases hloop

/-- The entries that an operation of `tc-main` leaves or makes. -/
theorem perform_entry {op : Op} (h : s.perform op = some s') {id' : Id}
    (hentry : s'.streams[id']? = some (.opened c)) :
    s.streams[id']? = some (.opened c) ∨
    c = s.threads.length ∧ ∃ id queued, s'.threads[c]? = some (.spawn id queued) := by
  cases op <;> simp only [TcState.perform] at h
  case toTx c data =>
    split at h
    · cases h
    · split at h
      · cases h; exact Or.inl hentry
      · split at h <;> cases h
        exact Or.inl hentry
  case establish id queued =>
    cases h
    by_cases hid : id' = id
    · subst hid
      rw [show (s.setState id' (.opened s.threads.length)).streams[id']? =
        some (.opened s.threads.length) from setState_self s id' _] at hentry
      cases hentry
      exact Or.inr ⟨rfl, id', queued, by simp⟩
    · rw [show (s.setState id (.opened s.threads.length)).streams[id']? = s.streams[id']? from
        setState_other s id _ hid] at hentry
      exact Or.inl hentry
  case joinRead c => split at h <;> cases h; exact Or.inl hentry
  case joinWrite c => split at h <;> cases h; exact Or.inl hentry
  all_goals cases h; exact Or.inl hentry

/-- The teardown shuts down the sockets of the opened entries. -/
theorem leave_shutdown (h : Op.shutdown c ∈ s.leave.ops) :
    ∃ id : Id, s.streams[id]? = some (.opened c) := by
  obtain ⟨⟨id, st⟩, hmem, hop⟩ := List.mem_flatMap.mp h
  refine ⟨id, ?_⟩
  rw [Std.ExtTreeMap.mem_toList_iff_getElem?_eq_some] at hmem
  cases st with
  | opened c' =>
    have hc : c = c' := by simpa [teardown] using hop
    rw [hc]
    exact hmem
  | opening queued => simp [teardown] at hop
  | halfClosed => simp [teardown] at hop
  | fullyClosed => simp [teardown] at hop

/-- An opened entry was opened before, or its threads have just been started. -/
theorem step_entry {a : Act} {id' : Id} (h : s.step tunnels a = some s')
    (hentry : s'.streams[id']? = some (.opened c)) :
    s.streams[id']? = some (.opened c) ∨
    c = s.threads.length ∧ ∃ id queued, s'.threads[c]? = some (.spawn id queued) := by
  rcases step_stepped h with ⟨-, -, hstreams, -, -⟩ | ⟨-, id, hh, -⟩ |
    ⟨-, id, c', data, -, -, rfl⟩ | ⟨-, rfl, -⟩ | ⟨op, ops, -, hp, -⟩ |
    ⟨c', b, t, t', -, -, -, rfl⟩ | ⟨c', t, data, -, -, rfl, -⟩ | ⟨-, c', t, t', -, -, rfl, -⟩
  · exact Or.inl (hstreams ▸ hentry)
  · exact Or.inl (hh.entry hentry)
  · exact Or.inl hentry
  · simp [TcState.leave] at hentry
  · exact perform_entry hp hentry
  · exact Or.inl hentry
  · exact Or.inl hentry
  · exact Or.inl
      ((handleResult_handles { s with threads := s.threads.set c' t' } t.id).entry hentry)

/-- No step comes to shut the socket of a stream without an entry down. -/
theorem step_shutdown_not_mem {a : Act} (h : s.step tunnels a = some s')
    (hentry : ∀ id : Id, s.streams[id]? ≠ some (.opened c)) (hops : Op.shutdown c ∉ s.ops) :
    Op.shutdown c ∉ s'.ops := by
  rcases step_stepped h with ⟨hops', -, -, -, -⟩ | ⟨-, id, hh, -⟩ |
    ⟨-, id, c', data, -, -, rfl⟩ | ⟨-, rfl, -⟩ | ⟨op, ops, hops', hp, -⟩ |
    ⟨c', b, t, t', -, -, -, rfl⟩ | ⟨c', t, data, -, -, rfl, -⟩ | ⟨-, c', t, t', -, -, rfl, -⟩
  · rw [hops']
    exact hops
  · exact hh.shutdown_not_mem hops
  · simp [send]
  · intro hop
    obtain ⟨id, hid⟩ := leave_shutdown hop
    exact hentry id hid
  · rw [perform_ops hp]
    rw [hops', List.mem_cons, not_or] at hops
    exact hops.2
  · exact hops
  · exact hops
  · exact (handleResult_handles { s with threads := s.threads.set c' t' } t.id).shutdown_not_mem
      hops

/-! ## The threads of a stream -/

/-- The write thread whose result `tc-main` handles. -/
def Act.endsWrite : Act → Option Nat
  | .reportWrite c => some c
  | _ => none

/-- What a step does to the threads of a stream whose socket is not shut down. -/
structure Follows (a : Act) (c : Nat) (t t' : StreamThreads) : Prop where
  dropped : t.toTxDropped = true → t'.toTxDropped = true
  shut : t'.shut = t.shut
  read : t.read.isFinished = true → t'.read.isFinished = true
  write : t'.write.isFinished = true ↔ t.write.isFinished = true ∨ a.endsWrite = some c
  quiet : a.endsWrite = some c → t'.read = t.read

theorem Follows.refl {a : Act} (ha : a.endsWrite = none) (c : Nat) (t : StreamThreads) :
    Follows a c t t :=
  ⟨fun h => h, rfl, fun h => h, by simp [ha], fun h => by simp [ha] at h⟩

theorem Follows.drop {a : Act} {t t' : StreamThreads} (h : Follows a c t t') :
    Follows a c t { t' with toTxDropped := true } :=
  ⟨fun _ => rfl, h.shut, h.read, h.write, h.quiet⟩

/-- A handler drops the `to_tx` of a stream at most. -/
theorem Handles.follows {a : Act} {t₀ t : StreamThreads} (hh : Handles s s' id)
    (ht : s.threads[c]? = some t) (hf : Follows a c t₀ t) :
    ∃ t', s'.threads[c]? = some t' ∧ Follows a c t₀ t' := by
  have hsame : s'.threads = s.threads → ∃ t', s'.threads[c]? = some t' ∧ Follows a c t₀ t' :=
    fun heq => ⟨t, heq ▸ ht, hf⟩
  rcases hh.map with ⟨-, heq⟩ | hc
  · exact hsame heq
  · rcases hc.threads with heq | ⟨c', -, heq⟩
    · exact hsame heq
    · rw [heq, dropTx, modifyThreads, List.getElem?_modify, ht]
      by_cases hcc : c' = c
      · exact ⟨{ t with toTxDropped := true }, by simp [hcc], hf.drop⟩
      · exact ⟨t, by simp [hcc], hf⟩

/-- A read thread that has not ended moves. -/
theorem Follows.of_read {a : Act} (ha : a.endsWrite = none) {t : StreamThreads}
    (hr : t.read.isFinished = false) (r : ReadThread) : Follows a c t { t with read := r } := by
  refine ⟨fun h => h, rfl, fun h => ?_, by simp [ha], fun h => by simp [ha] at h⟩
  rw [hr] at h
  cases h

/-- A write thread that has not ended moves, and does not end. -/
theorem Follows.of_write {a : Act} (ha : a.endsWrite = none) {t : StreamThreads}
    (hw : t.write.isFinished = false) {w : WriteThread} (hw' : w.isFinished = false)
    (toTx : List (List UInt8)) (written : List UInt8) :
    Follows a c t { t with write := w, toTx := toTx, written := written } :=
  ⟨fun h => h, rfl, fun h => h, by simp [hw, hw', ha], fun h => by simp [ha] at h⟩

theorem threadStep_follows {a : Act} {b : ThreadAct} {t t' : StreamThreads} (h : t.step b = some t')
    (ha : a.endsWrite = none) : Follows a c t t' := by
  cases b <;> simp only [StreamThreads.step] at h
  case readData data =>
    split at h
    · rename_i hr
      split at h <;> cases h
      exact .of_read ha (by rw [hr]; rfl) _
    · cases h
  case readEnd result =>
    split at h <;> cases h
    rename_i hr
    exact .of_read ha (by rw [hr]; rfl) _
  case writeOk =>
    split at h <;> cases h
    rename_i hw
    exact .of_write ha (by rw [hw]; rfl) rfl _ _
  case writeFails n e =>
    split at h
    · rename_i hw
      split at h <;> cases h
      exact .of_write ha (by rw [hw]; rfl) rfl _ _
    · cases h
  case takeData =>
    split at h <;> cases h
    rename_i hw _
    exact .of_write ha (by rw [hw]; rfl) rfl _ _
  case disconnected =>
    split at h
    · rename_i hw _
      split at h <;> cases h
      exact .of_write ha (by rw [hw]; rfl) rfl _ _
    · cases h

/-- The threads of `c'` move, seen at `c`. -/
theorem set_follows {a : Act} {threads : List StreamThreads} {c' : Nat} {t t₀ : StreamThreads}
    (t' : StreamThreads) (ht : threads[c]? = some t) (h₀ : threads[c']? = some t₀)
    (hself : c' = c → Follows a c t₀ t') (hother : c' ≠ c → Follows a c t t) :
    ∃ t₁, (threads.set c' t')[c]? = some t₁ ∧ Follows a c t t₁ := by
  by_cases hc : c' = c
  · subst hc
    rw [ht] at h₀
    cases h₀
    exact ⟨t', by rw [List.getElem?_set_self (List.getElem?_eq_some_iff.mp ht).1], hself rfl⟩
  · exact ⟨t, by rw [List.getElem?_set_ne hc]; exact ht, hother hc⟩

theorem perform_follows {op : Op} {t : StreamThreads} (h : s.perform op = some s')
    (hshut : op ≠ .shutdown c) (ht : s.threads[c]? = some t) :
    ∃ t', s'.threads[c]? = some t' ∧ Follows .perform c t t' := by
  have hrefl := Follows.refl (a := .perform) rfl c t
  have hmodify : ∀ {c' : Nat} {f : StreamThreads → StreamThreads},
      (c' = c → Follows .perform c t (f t)) →
      ∃ t', (s.modifyThreads c' f).threads[c]? = some t' ∧ Follows .perform c t t' := by
    intro c' f hf
    rw [modifyThreads, List.getElem?_modify, ht]
    by_cases hc : c' = c
    · exact ⟨f t, by simp [hc], hf hc⟩
    · exact ⟨t, by simp [hc], hrefl⟩
  cases op <;> simp only [TcState.perform] at h
  case notify => cases h; exact ⟨t, ht, hrefl⟩
  case toQuic m => cases h; exact ⟨t, ht, hrefl⟩
  case toTx c' data =>
    split at h
    · cases h
    · split at h
      · cases h; exact ⟨t, ht, hrefl⟩
      · split at h <;> cases h
        exact hmodify fun _ => ⟨hrefl.dropped, hrefl.shut, hrefl.read, hrefl.write, hrefl.quiet⟩
  case establish id queued =>
    cases h
    refine ⟨t, ?_, hrefl⟩
    rw [List.getElem?_append_left (List.getElem?_eq_some_iff.mp ht).1]
    exact ht
  case shutdown c' =>
    cases h
    exact hmodify fun hc => absurd (by rw [hc]) hshut
  case joinRead c' => split at h <;> cases h; exact ⟨t, ht, hrefl⟩
  case joinWrite c' => split at h <;> cases h; exact ⟨t, ht, hrefl⟩
  case dropTx c' =>
    cases h
    exact hmodify fun _ => hrefl.drop

theorem handleServer_follows {t : StreamThreads} (msg : Option Message)
    (ht : s.threads[c]? = some t) :
    ∃ t', (s.handleServer tunnels msg).threads[c]? = some t' ∧ Follows (.server msg) c t t' := by
  have hrefl := Follows.refl (a := .server msg) rfl c t
  match msg with
  | none => exact ⟨t, ht, hrefl⟩
  | some ⟨id, some .openTcp⟩ => exact (handleOpen_handles tunnels s id).follows ht hrefl
  | some ⟨id, some .closeTcp⟩ => exact (handleClose_handles s id).follows ht hrefl
  | some ⟨id, some (.tcpData data)⟩ =>
    rcases handleData_cases s id data with ⟨c', -, heq⟩ | ⟨-, hh⟩
    · refine ⟨t, ?_, hrefl⟩
      rw [handleServer, heq]
      exact ht
    · exact hh.follows ht hrefl
  | some ⟨id, none⟩ => exact ⟨t, ht, hrefl⟩

/-- **What a step does to the threads of a stream whose socket is not shut down.** -/
theorem step_follows {a : Act} {t : StreamThreads} (h : s.step tunnels a = some s')
    (hshut : Op.shutdown c ∉ s.ops) (ht : s.threads[c]? = some t) :
    ∃ t', s'.threads[c]? = some t' ∧ Follows a c t t' := by
  cases step_taken h with
  | allocations sel => exact ⟨t, ht, .refl rfl c t⟩
  | leaves act sel => exact ⟨t, ht, .refl (by rcases act with rfl | rfl | rfl <;> rfl) c t⟩
  | server msg sel => exact handleServer_follows msg ht
  | accepted tunnel sel bound =>
    have hh := handleNew_handles tunnels { s with
      accepted := fun t => if t = tunnel then s.accepted t + 1 else s.accepted t }
      ⟨tunnel, s.accepted tunnel⟩
    exact hh.follows ht (.refl rfl c t)
  | connected i x hx sel =>
    have hh := handleNew_handles tunnels { s with connecting := s.connecting.eraseIdx i } x.id
    exact hh.follows ht (.refl rfl c t)
  | connectFailed i x hx => exact ⟨t, ht, .refl rfl c t⟩
  | perform op ops s' hops hp =>
    refine perform_follows hp ?_ ht
    rintro rfl
    exact hshut (by simp [hops])
  | thread c' b t₀ t' h₀ hb =>
    exact set_follows _ ht h₀ (fun _ => threadStep_follows hb rfl) fun _ => .refl rfl c t
  | forward c' t₀ data h₀ hread =>
    exact set_follows _ ht h₀ (fun _ => .of_read rfl (by rw [hread]; rfl) _)
      fun _ => .refl rfl c t
  | reportRead c' t₀ result h₀ hread sel =>
    obtain ⟨t₁, ht₁, hf⟩ := set_follows (a := .reportRead c')
      { t₀ with read := .finished } ht h₀ (fun _ => .of_read rfl (by rw [hread]; rfl) _)
      fun _ => .refl rfl c t
    exact (handleResult_handles { s with
      threads := s.threads.set c' { t₀ with read := .finished } } t₀.id).follows ht₁ hf
  | reportWrite c' t₀ result h₀ hwrite sel =>
    obtain ⟨t₁, ht₁, hf⟩ := set_follows (a := .reportWrite c')
      { t₀ with write := .finished } ht h₀
      (fun hc => ⟨fun h => h, rfl, fun h => h, by simp [Act.endsWrite, hc, WriteThread.isFinished],
        fun _ => rfl⟩)
      fun hc => ⟨fun h => h, rfl, fun h => h, by simp [Act.endsWrite, hc],
        fun h => absurd (Option.some.inj h) hc⟩
    exact (handleResult_handles { s with
      threads := s.threads.set c' { t₀ with write := .finished } } t₀.id).follows ht₁ hf

/-- **A stream without an entry stays so, whatever happens.** -/
theorem step_shed {a : Act} (h : s.step tunnels a = some s') (hs : Shed s c) : Shed s' c := by
  obtain ⟨t, ht, hdropped, hshut⟩ := hs.thread
  obtain ⟨t', ht', hf⟩ := step_follows h hs.ops ht
  refine ⟨⟨t', ht', hf.dropped hdropped, hf.shut.trans hshut⟩, fun id hid => ?_,
    step_shutdown_not_mem h hs.entry hs.ops⟩
  rcases step_entry h hid with hid | ⟨hc, -⟩
  · exact hs.entry id hid
  · exact Nat.ne_of_lt (List.getElem?_eq_some_iff.mp ht).1 hc

/-- The socket of an opened entry is not shut down. -/
def Unshut (s : TcState) : Prop :=
  ∀ (id : Id) (c : Nat), s.streams[id]? = some (.opened c) →
    ∀ t, s.threads[c]? = some t → t.shut = false

theorem step_unshut {a : Act} (hw : s.Wf) (h : s.step tunnels a = some s') (hu : Unshut s) :
    Unshut s' := by
  intro id c hid t' ht'
  rcases step_entry h hid with hid | ⟨-, id', queued, hnew⟩
  · obtain ⟨t, ht, -⟩ := hw.opened id c hid
    have hops : Op.shutdown c ∉ s.ops := by
      intro hop
      cases hleft : s.left with
      | false => cases hw.loop hleft _ hop
      | true =>
        rw [(hw.tear hleft).2 id] at hid
        cases hid
    obtain ⟨t₁, ht₁, hf⟩ := step_follows h hops ht
    rw [ht'] at ht₁
    cases ht₁
    exact hf.shut.trans (hu id c hid t ht)
  · rw [hnew] at ht'
    cases ht'
    rfl

/-! ## Closes of the server -/

/-- The opened stream that the server closes. -/
def closedByServer (s : TcState) : Act → Option Nat
  | .server (some ⟨id, some .closeTcp⟩) =>
    match s.streams[id]? with
    | some (.opened c) => some c
    | _ => none
  | _ => none

/-- `tc-main`, with a note of the opened streams that the server has closed. -/
def watchCloses (tunnels : Tunnels) : TcState × List Nat → Act → Option (TcState × List Nat) :=
  Machine.observe (TcState.step tunnels) fun s a closed => (closedByServer s a).toList ++ closed

/-- The connection is shut down, or the entry and both threads have dropped it. -/
def StreamThreads.Ended (t : StreamThreads) : Prop :=
  t.shut = true ∨ t.toTxDropped = true ∧ t.read.isFinished = true ∧ t.write.isFinished = true

/-- The closes of the server have reached the local peers of the streams whose write threads have
ended. -/
def ReachesPeer (x : TcState × List Nat) : Prop :=
  ∀ c ∈ x.2, ∀ t, x.1.threads[c]? = some t → t.write.isFinished = true → t.Ended

/-- `tc-main` handles the end of the write thread of a stream that the server has closed only after
the end of its read thread: the local peer has ended the connection before. -/
def PeerEndsFirst (x : TcState × List Nat) : Act → Prop
  | .reportWrite c => c ∈ x.2 → ∀ t, x.1.threads[c]? = some t → t.read.isFinished = true
  | _ => True

/-- What holds of the streams that the server has closed. -/
structure Watching (x : TcState × List Nat) : Prop where
  wf : x.1.Wf
  unshut : Unshut x.1
  shed : ∀ c ∈ x.2, Shed x.1 c

theorem closedByServer_eq_some {a : Act} (h : closedByServer s a = some c) :
    ∃ id, a = .server (some (closeTcpStream id)) ∧ s.streams[id]? = some (.opened c) := by
  cases a <;> simp only [closedByServer, reduceCtorEq] at h
  rename_i msg
  match msg, h with
  | some ⟨id, some .closeTcp⟩, h =>
    simp only at h
    split at h <;> cases h
    rename_i hc
    exact ⟨id, rfl, hc⟩

/-- **A close of an opened stream drops its entry, and its threads still run.** -/
theorem closedByServer_step {a : Act} (hw : s.Wf) (hu : Unshut s) (h : s.step tunnels a = some s')
    (hc : closedByServer s a = some c) :
    Shed s' c ∧ ∀ t, s'.threads[c]? = some t → t.write.isFinished = false := by
  obtain ⟨id, rfl, hopened⟩ := closedByServer_eq_some hc
  obtain ⟨t, ht, hlive⟩ := hw.opened id c hopened
  obtain ⟨hsel, rfl⟩ : s.selecting = true ∧
      s' = s.handleServer tunnels (some (closeTcpStream id)) := by
    cases step_taken h with
    | leaves act sel => rcases act with act | act | act <;> cases act
    | server msg sel => exact ⟨sel, rfl⟩
  have heq : s.handleServer tunnels (some (closeTcpStream id)) =
      (s.dropTx c).setState id .halfClosed := by
    simp only [handleServer, closeTcpStream, handleCloseFromServer, hopened]
  have hthread : (s.dropTx c).threads[c]? = some { t with toTxDropped := true } := by
    simp [dropTx, modifyThreads, ht]
  rw [heq]
  refine ⟨⟨⟨_, hthread, rfl, hu id c hopened t ht⟩, fun id' hid' => ?_, ?_⟩, fun t' ht' => ?_⟩
  · -- no other entry names the threads, which are of this id
    by_cases hid : id' = id
    · rw [hid, setState_self] at hid'
      cases hid'
    · rw [setState_other _ id _ hid] at hid'
      obtain ⟨t', ht', hlive'⟩ := hw.opened id' c hid'
      rw [ht] at ht'
      cases ht'
      exact hid (hlive'.id_eq.symm.trans hlive.id_eq)
  · rw [show ((s.dropTx c).setState id .halfClosed).ops = s.ops from rfl, (selecting_iff.mp hsel).1]
    exact List.not_mem_nil
  · rw [show ((s.dropTx c).setState id .halfClosed).threads[c]? = _ from hthread] at ht'
    cases ht'
    have hwrite := hlive.write
    cases hwr : t.write <;> simp_all [WriteThread.isFinished]

theorem watchCloses_watching {x y : TcState × List Nat} {a : Act} (hx : Watching x)
    (h : watchCloses tunnels x a = some y) : Watching y := by
  obtain ⟨hs, hnote⟩ := Machine.observe_eq_some.mp h
  refine ⟨step_wf hx.wf hs, step_unshut hx.wf hs hx.unshut, fun c hc => ?_⟩
  rw [hnote, List.mem_append, Option.mem_toList] at hc
  rcases hc with hc | hc
  · exact (closedByServer_step hx.wf hx.unshut hs hc).1
  · exact step_shed hs (hx.shed c hc)

/-- The threads of a stream that the server has closed hold the connection until both have ended. -/
theorem Shed.ended_iff {t : StreamThreads} (h : Shed s c) (ht : s.threads[c]? = some t)
    (hw : t.write.isFinished = true) : t.Ended ↔ t.read.isFinished = true := by
  obtain ⟨t', ht', hdropped, hshut⟩ := h.thread
  rw [ht] at ht'
  cases ht'
  simp [StreamThreads.Ended, hdropped, hshut, hw]

/-- **One step keeps the closes with the local peers exactly when the peer ends first.** -/
theorem watchCloses_reaches_iff {x y : TcState × List Nat} {a : Act} (hx : Watching x)
    (hr : ReachesPeer x) (h : watchCloses tunnels x a = some y) :
    ReachesPeer y ↔ PeerEndsFirst x a := by
  have hy := watchCloses_watching hx h
  obtain ⟨hs, hnote⟩ := Machine.observe_eq_some.mp h
  have hmem : ∀ c ∈ x.2, c ∈ y.2 := fun c hc => by rw [hnote]; exact List.mem_append_right _ hc
  constructor
  · intro hreach
    cases a <;> try trivial
    rename_i c
    intro hc t ht
    obtain ⟨t', ht', hf⟩ := step_follows hs (hx.shed c hc).ops ht
    have hw' : t'.write.isFinished = true := hf.write.mpr (Or.inr rfl)
    have hread := ((hy.shed c (hmem c hc)).ended_iff ht' hw').mp (hreach c (hmem c hc) t' ht' hw')
    rw [← hf.quiet rfl]
    exact hread
  · intro hfirst c hc t' ht' hw'
    rw [(hy.shed c hc).ended_iff ht' hw']
    rw [hnote, List.mem_append, Option.mem_toList] at hc
    rcases hc with hc | hc
    · have := (closedByServer_step hx.wf hx.unshut hs hc).2 t' ht'
      rw [hw'] at this
      cases this
    · obtain ⟨t, ht, -, -⟩ := (hx.shed c hc).thread
      obtain ⟨t₁, ht₁, hf⟩ := step_follows hs (hx.shed c hc).ops ht
      rw [ht'] at ht₁
      cases ht₁
      refine hf.read ?_
      rcases hf.write.mp hw' with hw | ha
      · exact ((hx.shed c hc).ended_iff ht hw).mp (hr c hc t ht hw)
      · cases a <;> simp only [Act.endsWrite, reduceCtorEq, Option.some.injEq] at ha
        subst ha
        exact hfirst hc t ht

/-- **Closes of the server.**  In a run of the tunnel channel the connection of every stream that was
opened when the server closed it is shut down or dropped once its write thread has ended, exactly when
`tc-main` handles the end of the write thread of such a stream only after that of its read thread. -/
theorem server_close_reaches_iff (tunnels : Tunnels) (acts : List Act) :
    Machine.Always (watchCloses tunnels) ReachesPeer (.initial, []) acts ↔
      Machine.Guarded (watchCloses tunnels) PeerEndsFirst (.initial, []) acts := by
  refine Machine.always_iff_guarded (I := Watching) (fun _ _ _ hx h => watchCloses_watching hx h)
    (fun _ _ _ hx hr h => watchCloses_reaches_iff hx hr h) ⟨wf_initial, ?_, ?_⟩ ?_
  · intro id c hid
    simp [TcState.initial] at hid
  · exact fun c hc => absurd hc List.not_mem_nil
  · exact fun c hc => absurd hc List.not_mem_nil

/-- The server opens a stream to a local peer that only listens, sends a chunk and closes the stream.
The client has connected, so that the reads of its socket block. -/
def sendAndClose : List Act :=
  [.server (some (openTcpStream ⟨0, 0⟩)), .connected 0, .perform, .thread 0 .writeOk,
    .server (some (tcpData ⟨0, 0⟩ [7])), .perform, .server (some (closeTcpStream ⟨0, 0⟩)),
    .thread 0 .takeData, .thread 0 .writeOk, .thread 0 .disconnected, .reportWrite 0]

/-- The chunk is written, the write thread has ended, and the connection stays open. -/
theorem sendAndClose_not_reached :
    ¬ Machine.Always (watchCloses (Tunnels.allocate [0, 1] bothSides)) ReachesPeer (.initial, [])
      sendAndClose := by
  have hrun : (Machine.run (watchCloses (Tunnels.allocate [0, 1] bothSides)) (.initial, [])
      sendAndClose).any (fun x => 0 ∈ x.2 ∧
        x.1.threads[0]?.any (fun t => t.written = [7] ∧ t.write.isFinished ∧ !t.shut ∧
          !t.read.isFinished)) = true := by
    decide +kernel
  obtain ⟨x, hx, hd⟩ := (Option.any_eq_true _ _).mp hrun
  rw [decide_eq_true_eq] at hd
  obtain ⟨hmem, hthread⟩ := hd
  obtain ⟨t, ht, hd⟩ := (Option.any_eq_true _ _).mp hthread
  simp only [decide_eq_true_eq, Bool.not_eq_true'] at hd
  intro h
  rcases h.last hx 0 hmem t ht hd.2.1 with hshut | ⟨-, hread, -⟩
  · rw [hd.2.2.1] at hshut
    cases hshut
  · rw [hd.2.2.2] at hread
    cases hread

end ApertureC.Tunnel
