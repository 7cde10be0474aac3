import ApertureC.TunnelLocalClose

/-!
# The bytes of a tunnelled stream (`aperturec-client/src/channels/tunnel.rs`)

What the server sends for a stream reaches the local socket over four stations: the queue of the
opening entry, the operation that starts the threads, the write thread and the channel to it.

* `StreamThreads.supply` — what a pair of threads has written or will write.
* `Heard`, `listen` — the opens of a stream and the data received since, noted beside the machine.
* `Relay` — the station at which the data of a stream are; one case for each.

Principal results: `step_relay` and `written_prefix` (**the bytes written to the socket of a stream
that is opened once are a prefix of what the server sent for it**).
-/

set_option autoImplicit false

namespace ApertureC.Tunnel

open TcState

variable {tunnels : Tunnels} {s s' : TcState} {id : Id}

/-! ## What the threads hold -/

def WriteThread.inFlight : WriteThread → List UInt8
  | .writing data => data
  | _ => []

/-- The thread has not stopped writing. -/
def WriteThread.isWriting : WriteThread → Bool
  | .writing _ | .receiving => true
  | _ => false

/-- What is written, and what will be unless a write fails. -/
def StreamThreads.supply (t : StreamThreads) : List UInt8 :=
  if t.write.isWriting then t.written ++ t.write.inFlight ++ t.toTx.flatten else t.written

theorem StreamThreads.written_inFlight_prefix (t : StreamThreads) :
    t.written ++ t.write.inFlight <+: t.supply := by
  unfold supply
  cases h : t.write with
  | writing data => exact List.prefix_append _ _
  | receiving => exact List.prefix_append _ _
  | reporting result => simp [WriteThread.inFlight, WriteThread.isWriting]
  | finished => simp [WriteThread.inFlight, WriteThread.isWriting]

/-- The threads move on with what they have: only a failed write cuts the supply short. -/
structure Flows (t t' : StreamThreads) : Prop where
  id_eq : t'.id = t.id
  shorter : t'.supply <+: t.supply
  kept : t'.write.isWriting = true → t.write.isWriting = true ∧ t'.supply = t.supply

/-- The supply is kept. -/
theorem Flows.of_supply {t t' : StreamThreads} (hid : t'.id = t.id) (hs : t'.supply = t.supply)
    (hw : t'.write.isWriting = true → t.write.isWriting = true) : Flows t t' :=
  ⟨hid, hs ▸ List.prefix_refl _, fun h => ⟨hw h, hs⟩⟩

theorem Flows.of_eq {t t' : StreamThreads} (hid : t'.id = t.id) (hw : t'.write = t.write)
    (htx : t'.toTx = t.toTx) (hwr : t'.written = t.written) : Flows t t' := by
  refine Flows.of_supply hid ?_ fun h => by rwa [← hw]
  unfold StreamThreads.supply
  rw [hw, htx, hwr]

theorem Flows.refl (t : StreamThreads) : Flows t t := Flows.of_eq rfl rfl rfl rfl

/-- A thread that has stopped writing keeps what it has written. -/
theorem Flows.stopped {t t' : StreamThreads} (hid : t'.id = t.id)
    (hw : t'.write.isWriting = false) (hp : t'.written <+: t.supply) : Flows t t' := by
  refine ⟨hid, ?_, fun h => ?_⟩
  · unfold StreamThreads.supply at hp ⊢
    rw [hw]
    exact hp
  · rw [hw] at h
    cases h

/-- **A thread on its own does not change what it will write**, short of a failed write. -/
theorem threadStep_flows {t t' : StreamThreads} {a : ThreadAct} (h : t.step a = some t') :
    Flows t t' := by
  cases a <;> simp only [StreamThreads.step] at h
  case readData data =>
    split at h
    · split at h <;> cases h
      exact Flows.of_eq rfl rfl rfl rfl
    · cases h
  case readEnd result =>
    split at h <;> cases h
    exact Flows.of_eq rfl rfl rfl rfl
  case writeOk =>
    split at h <;> cases h
    rename_i data hw
    refine Flows.of_supply rfl ?_ fun _ => by rw [hw]; rfl
    simp [StreamThreads.supply, WriteThread.isWriting, WriteThread.inFlight, hw]
  case writeFails n e =>
    split at h
    · rename_i data hw
      split at h <;> cases h
      refine Flows.stopped rfl rfl ?_
      have hpart : t.written ++ data.take n <+: t.written ++ data :=
        (List.prefix_append_right_inj _).mpr (List.take_prefix n data)
      have hall := t.written_inFlight_prefix
      rw [hw] at hall
      exact hpart.trans hall
    · cases h
  case takeData =>
    split at h <;> cases h
    rename_i data rest hw htx
    refine Flows.of_supply rfl ?_ fun _ => by rw [hw]; rfl
    simp [StreamThreads.supply, WriteThread.isWriting, WriteThread.inFlight, hw, htx]
  case disconnected =>
    split at h
    · split at h <;> cases h
      refine Flows.stopped rfl rfl ?_
      exact (List.prefix_append _ _).trans t.written_inFlight_prefix
    · cases h

/-- The same threads, each moved on with what it has. -/
def Onward (threads threads' : List StreamThreads) : Prop :=
  ∀ c : Nat, Option.Rel Flows threads[c]? threads'[c]?

theorem Onward.refl (threads : List StreamThreads) : Onward threads threads := by
  intro c
  cases threads[c]? with
  | none => exact .none
  | some t => exact .some (Flows.refl t)

theorem onward_set {threads : List StreamThreads} {c : Nat} {t t' : StreamThreads}
    (ht : threads[c]? = some t) (hf : Flows t t') : Onward threads (threads.set c t') := by
  intro c'
  by_cases hc : c = c'
  · subst hc
    rw [List.getElem?_set_self (List.getElem?_eq_some_iff.mp ht).1, ht]
    exact .some hf
  · rw [List.getElem?_set_ne hc]
    exact Onward.refl threads c'

theorem onward_modify (threads : List StreamThreads) (c : Nat)
    {f : StreamThreads → StreamThreads} (hf : ∀ t, Flows t (f t)) :
    Onward threads (threads.modify c f) := by
  intro c'
  rw [List.getElem?_modify]
  cases threads[c']? with
  | none => exact .none
  | some t =>
    by_cases hc : c = c'
    · simpa [hc] using Option.Rel.some (hf t)
    · simpa [hc] using Option.Rel.some (Flows.refl t)

theorem onward_dropTx (s : TcState) (c : Nat) : Onward s.threads (s.dropTx c).threads :=
  onward_modify s.threads c fun _ => Flows.of_eq rfl rfl rfl rfl

/-- No threads were started for the stream. -/
def Unstarted (id : Id) (threads : List StreamThreads) : Prop :=
  ∀ (c : Nat) (t : StreamThreads), threads[c]? = some t → t.id ≠ id

/-- The threads of `c` are the only ones of the stream. -/
structure Sole (id : Id) (threads : List StreamThreads) (c : Nat) (t : StreamThreads) : Prop where
  get : threads[c]? = some t
  id_eq : t.id = id
  only : ∀ (c' : Nat) (t' : StreamThreads), threads[c']? = some t' → t'.id = id → c' = c

theorem Unstarted.onward {threads threads' : List StreamThreads} (h : Unstarted id threads)
    (hf : Onward threads threads') : Unstarted id threads' := by
  intro c t' ht'
  have hc := hf c
  rw [ht'] at hc
  cases hr : threads[c]? with
  | none => rw [hr] at hc; cases hc
  | some t =>
    rw [hr] at hc
    cases hc with
    | some hflow =>
      rw [hflow.id_eq]
      exact h c t hr

theorem Sole.onward {threads threads' : List StreamThreads} {c : Nat} {t : StreamThreads}
    (h : Sole id threads c t) (hf : Onward threads threads') :
    ∃ t', Sole id threads' c t' ∧ Flows t t' := by
  have hc := hf c
  rw [h.get] at hc
  cases hr : threads'[c]? with
  | none => rw [hr] at hc; cases hc
  | some t' =>
    rw [hr] at hc
    cases hc with
    | some hflow =>
      refine ⟨t', ⟨hr, hflow.id_eq.trans h.id_eq, fun c₁ t₁ ht₁ hid₁ => ?_⟩, hflow⟩
      have hc₁ := hf c₁
      rw [ht₁] at hc₁
      cases hr₁ : threads[c₁]? with
      | none => rw [hr₁] at hc₁; cases hc₁
      | some t₀ =>
        rw [hr₁] at hc₁
        cases hc₁ with
        | some hflow₁ => exact h.only c₁ t₀ hr₁ (hflow₁.id_eq.symm.trans hid₁)

/-- Threads of another stream are started. -/
theorem Unstarted.append {threads : List StreamThreads} {t : StreamThreads}
    (h : Unstarted id threads) (hne : t.id ≠ id) : Unstarted id (threads ++ [t]) := by
  intro c t' ht'
  rw [List.getElem?_append] at ht'
  split at ht'
  · exact h c t' ht'
  · rw [List.getElem?_singleton] at ht'
    split at ht' <;> cases ht'
    exact hne

theorem Sole.append {threads : List StreamThreads} {c : Nat} {t t₁ : StreamThreads}
    (h : Sole id threads c t) (hne : t₁.id ≠ id) : Sole id (threads ++ [t₁]) c t := by
  refine ⟨?_, h.id_eq, fun c' t' ht' hid' => ?_⟩
  · rw [List.getElem?_append_left (List.getElem?_eq_some_iff.mp h.get).1]
    exact h.get
  · rw [List.getElem?_append] at ht'
    split at ht'
    · exact h.only c' t' ht' hid'
    · rw [List.getElem?_singleton] at ht'
      split at ht' <;> cases ht'
      exact absurd hid' hne

/-- What is done to the threads of `c'` without changing their id. -/
theorem Unstarted.modify {threads : List StreamThreads} (h : Unstarted id threads) (c' : Nat)
    {f : StreamThreads → StreamThreads} (hf : ∀ t, (f t).id = t.id) :
    Unstarted id (threads.modify c' f) := by
  intro c t ht
  rw [List.getElem?_modify] at ht
  obtain ⟨t₀, ht₀, heq⟩ := Option.map_eq_some_iff.mp ht
  have hid := h c t₀ ht₀
  split at heq <;> cases heq
  · rw [hf]
    exact hid
  · exact hid

theorem Sole.modify {threads : List StreamThreads} {c : Nat} {t : StreamThreads}
    (h : Sole id threads c t) (c' : Nat) {f : StreamThreads → StreamThreads}
    (hf : ∀ t, (f t).id = t.id) :
    Sole id (threads.modify c' f) c (if c' = c then f t else t) := by
  refine ⟨?_, ?_, fun c₁ t₁ ht₁ hid₁ => ?_⟩
  · rw [List.getElem?_modify, h.get]
    split <;> rfl
  · split
    · rw [hf]
      exact h.id_eq
    · exact h.id_eq
  · rw [List.getElem?_modify] at ht₁
    obtain ⟨t₀, ht₀, heq⟩ := Option.map_eq_some_iff.mp ht₁
    refine h.only c₁ t₀ ht₀ ?_
    rw [← hid₁]
    split at heq <;> cases heq
    · exact (hf t₀).symm
    · rfl

/-! ## What the server sends -/

/-- The opens of a stream so far, and the data that the server has sent since the last one. -/
structure Heard where
  opens : Nat
  since : List UInt8
  deriving DecidableEq, Repr

/-- The step opens the stream: an `OpenTcp` of the server is accepted, or one is sent to it. -/
def opens (tunnels : Tunnels) (id : Id) (s : TcState) : Act → Bool
  | .server (some ⟨id', some .openTcp⟩) =>
    id' = id && s.streams[id]?.isNone &&
      tunnels.serverBound[id.tunnel]?.any fun desc => desc.getSide ≠ .client
  | .accepted tunnel =>
    ⟨tunnel, s.accepted tunnel⟩ = id && s.streams[id]?.isNone &&
      tunnels.clientBound.contains id.tunnel
  | .connected i =>
    (s.connecting[i]?.any fun x => x.id = id) && s.streams[id]?.isNone &&
      tunnels.clientBound.contains id.tunnel
  | _ => false

/-- The payload that the server sends for the stream. -/
def heard (id : Id) : Act → List UInt8
  | .server (some ⟨id', some (.tcpData data)⟩) => if id' = id then data else []
  | _ => []

def listen (tunnels : Tunnels) (id : Id) (s : TcState) (a : Act) (h : Heard) : Heard :=
  if opens tunnels id s a then ⟨h.opens + 1, []⟩ else ⟨h.opens, h.since ++ heard id a⟩

/-! ## The stations -/

/-- No threads are about to be started for the stream. -/
def Quiet (id : Id) (ops : List Op) : Prop := ∀ op ∈ ops, op.establishes id = false

/-- The entry is neither opening nor opened. -/
def Shut (entry : Option State) : Prop :=
  (∀ queued, entry ≠ some (.opening queued)) ∧ ∀ c, entry ≠ some (.opened c)

/-- What `tc-main` is about to feed to the threads of `c`. -/
def fed (c : Nat) : List Op → List UInt8
  | [] => []
  | .toTx c' data :: ops => (if c' = c then data else []) ++ fed c ops
  | _ :: ops => fed c ops

theorem fed_eq_nil {c : Nat} : ∀ {ops : List Op}, (∀ data, Op.toTx c data ∉ ops) → fed c ops = []
  | [], _ => rfl
  | op :: ops, h => by
    have ih : fed c ops = [] := fed_eq_nil fun data hop => h data (List.mem_cons_of_mem op hop)
    cases op with
    | toTx c' data =>
      have hne : c' ≠ c := by
        rintro rfl
        exact h data List.mem_cons_self
      simp [fed, hne, ih]
    | _ => exact ih

/-- Where the data of a stream are.  `first` and `once` count the opens of the stream. -/
inductive Relay (id : Id) (opens : Nat) (since : List UInt8) (s : TcState) : Prop
  | absent (first : opens = 0 → s.streams[id]? = none) (unstarted : Unstarted id s.threads)
      (quiet : Quiet id s.ops) (shut : Shut s.streams[id]?)
  | queued (once : opens = 1) (unstarted : Unstarted id s.threads) (quiet : Quiet id s.ops)
      (entry : s.streams[id]? = some (.opening since))
  | starting (once : opens = 1) (unstarted : Unstarted id s.threads)
      (entry : s.streams[id]? = none)
      (ops : s.ops = [.establish id since] ∨ ∃ m, s.ops = [.toQuic m, .establish id since])
  | opened (once : opens = 1) (c : Nat) (t : StreamThreads) (sole : Sole id s.threads c t)
      (quiet : Quiet id s.ops) (entry : s.streams[id]? = some (.opened c))
      (bound : t.supply <+: since)
      (whole : t.write.isWriting = true → t.supply ++ fed c s.ops = since)
  | detached (once : opens = 1) (c : Nat) (t : StreamThreads) (sole : Sole id s.threads c t)
      (quiet : Quiet id s.ops) (shut : Shut s.streams[id]?)
      (unfed : ∀ data, Op.toTx c data ∉ s.ops) (bound : t.supply <+: since)

/-- The new operations of `tc-main` neither start nor feed threads of the stream. -/
structure Spares (id : Id) (s : TcState) (ops : List Op) : Prop where
  quiet : Quiet id ops
  unfed : ∀ (c : Nat) (t : StreamThreads) (data : List UInt8),
    s.threads[c]? = some t → t.id = id → Op.toTx c data ∉ ops

theorem Spares.of_unfed {ops : List Op} (hq : Quiet id ops) (h : ∀ c data, Op.toTx c data ∉ ops) :
    Spares id s ops :=
  ⟨hq, fun c _ data _ _ => h c data⟩

theorem Spares.nil : Spares id s [] :=
  Spares.of_unfed (fun _ h => nomatch h) fun _ _ h => nomatch h

theorem Spares.of_nil {ops : List Op} (h : ops = []) : Spares id s ops := by
  rw [h]
  exact Spares.nil

theorem Spares.toQuic (m : Message) : Spares id s [.toQuic m] := by
  refine Spares.of_unfed (fun op hop => ?_) fun c data hop => ?_
  · rw [List.mem_singleton.mp hop]
    rfl
  · cases List.mem_singleton.mp hop

variable {n : Nat} {since : List UInt8}

/-- **A step that does not touch the entry of the stream, nor gives its threads anything, leaves its
data where they are.** -/
theorem Relay.frame (h : Relay id n since s) (hentry : s'.streams[id]? = s.streams[id]?)
    (hf : Onward s.threads s'.threads)
    (hops : s'.ops = s.ops ∨ s.ops = [] ∧ Spares id s s'.ops) : Relay id n since s' := by
  have hquiet : Quiet id s.ops → Quiet id s'.ops := by
    intro hq
    rcases hops with heq | ⟨-, hsp⟩
    · rw [heq]; exact hq
    · exact hsp.quiet
  cases h with
  | absent first unstarted quiet shut =>
    exact .absent (fun h => hentry.trans (first h)) (unstarted.onward hf) (hquiet quiet)
      (by rw [hentry]; exact shut)
  | queued once unstarted quiet entry =>
    exact .queued once (unstarted.onward hf) (hquiet quiet) (hentry.trans entry)
  | starting once unstarted entry ops =>
    refine .starting once (unstarted.onward hf) (hentry.trans entry) ?_
    rcases hops with heq | ⟨hnil, -⟩
    · rw [heq]; exact ops
    · rcases ops with ops | ⟨m, ops⟩ <;> rw [hnil] at ops <;> cases ops
  | opened once c t sole quiet entry bound whole =>
    obtain ⟨t', sole', hflow⟩ := sole.onward hf
    refine .opened once c t' sole' (hquiet quiet) (hentry.trans entry)
      (hflow.shorter.trans bound) fun hw => ?_
    obtain ⟨hw₀, hsupply⟩ := hflow.kept hw
    have hfed : fed c s'.ops = fed c s.ops := by
      rcases hops with heq | ⟨hnil, hsp⟩
      · rw [heq]
      · rw [hnil, fed_eq_nil fun data => hsp.unfed c t data sole.get sole.id_eq]
        rfl
    rw [hsupply, hfed]
    exact whole hw₀
  | detached once c t sole quiet shut unfed bound =>
    obtain ⟨t', sole', hflow⟩ := sole.onward hf
    refine .detached once c t' sole' (hquiet quiet) (by rw [hentry]; exact shut) ?_
      (hflow.shorter.trans bound)
    rcases hops with heq | ⟨-, hsp⟩
    · rw [heq]; exact unfed
    · exact fun data => hsp.unfed c t data sole.get sole.id_eq

theorem Relay.append_nil (h : Relay id n since s) : Relay id n (since ++ []) s := by
  rw [List.append_nil]
  exact h

/-- The entry of the stream is closed: nothing more is queued or fed. -/
theorem Relay.close (h : Relay id n since s) (hnil : s.ops = [])
    (hfirst : s.streams[id]? = none → s'.streams[id]? = none) (hshut : Shut s'.streams[id]?)
    (hf : Onward s.threads s'.threads) (hsp : Spares id s s'.ops) : Relay id n since s' := by
  cases h with
  | absent first unstarted quiet shut =>
    exact .absent (fun h => hfirst (first h)) (unstarted.onward hf) hsp.quiet hshut
  | queued once unstarted quiet entry =>
    exact .absent (fun h => by omega) (unstarted.onward hf) hsp.quiet hshut
  | starting once unstarted entry ops =>
    rcases ops with ops | ⟨m, ops⟩ <;> rw [hnil] at ops <;> cases ops
  | opened once c t sole quiet entry bound whole =>
    obtain ⟨t', sole', hflow⟩ := sole.onward hf
    exact .detached once c t' sole' hsp.quiet hshut
      (fun data => hsp.unfed c t data sole.get sole.id_eq) (hflow.shorter.trans bound)
  | detached once c t sole quiet shut unfed bound =>
    obtain ⟨t', sole', hflow⟩ := sole.onward hf
    exact .detached once c t' sole' hsp.quiet hshut
      (fun data => hsp.unfed c t data sole.get sole.id_eq) (hflow.shorter.trans bound)

/-- More data are received, and nothing becomes of them. -/
theorem Relay.ignore (h : Relay id n since s) (hshut : Shut s.streams[id]?) (hnil : s.ops = [])
    (data : List UInt8) : Relay id n (since ++ data) s := by
  cases h with
  | absent first unstarted quiet shut => exact .absent first unstarted quiet shut
  | queued once unstarted quiet entry => exact absurd entry (hshut.1 since)
  | starting once unstarted entry ops =>
    rcases ops with ops | ⟨m, ops⟩ <;> rw [hnil] at ops <;> cases ops
  | opened once c t sole quiet entry bound whole => exact absurd entry (hshut.2 c)
  | detached once c t sole quiet shut unfed bound =>
    exact .detached once c t sole quiet shut unfed (bound.trans (List.prefix_append _ _))

theorem shut_none : Shut none := by
  simp [Shut]

theorem shut_halfClosed : Shut (some .halfClosed) := by
  simp [Shut]

theorem shut_fullyClosed : Shut (some .fullyClosed) := by
  simp [Shut]

/-! ## The handlers -/

/-- A handler for another stream. -/
theorem Handles.relay_of_ne {id' : Id} (hh : Handles s s' id') (hne : id ≠ id') (hnil : s.ops = [])
    (hq : Quiet id s'.ops) (h : Relay id n since s) : Relay id n since s' := by
  refine h.frame (hh.streams_of_ne hne) ?_ (Or.inr ⟨hnil, Spares.of_unfed hq fun c data hop => ?_⟩)
  · rcases hh.map with ⟨-, heq⟩ | hc
    · rw [heq]
      exact Onward.refl _
    · rcases hc.threads with heq | ⟨c, -, heq⟩
      · rw [heq]
        exact Onward.refl _
      · rw [heq]
        exact onward_dropTx s c
  · rcases hh.ops _ hop with hop | ⟨-, hop⟩
    · rw [hnil] at hop
      cases hop
    · cases hop

theorem Relay.fresh (h : Relay id 0 since s) :
    s.streams[id]? = none ∧ Unstarted id s.threads ∧ Quiet id s.ops := by
  cases h with
  | absent first unstarted quiet shut => exact ⟨first rfl, unstarted, quiet⟩
  | queued once => omega
  | starting once => omega
  | opened once => omega
  | detached once => omega

/-- While a stream is opening, what it has been sent is in its queue. -/
theorem Relay.of_opening {q : List UInt8} (h : Relay id n since s)
    (hentry : s.streams[id]? = some (.opening q)) :
    n = 1 ∧ Unstarted id s.threads ∧ Quiet id s.ops ∧ q = since := by
  cases h with
  | absent first unstarted quiet shut => exact absurd hentry (shut.1 q)
  | starting once unstarted entry ops => rw [hentry] at entry; cases entry
  | opened once c t sole quiet entry => rw [hentry] at entry; cases entry
  | detached once c t sole quiet shut unfed bound => exact absurd hentry (shut.1 q)
  | queued once unstarted quiet entry =>
    rw [hentry] at entry
    cases entry
    exact ⟨once, unstarted, quiet, rfl⟩

theorem handleOpen_ops (tunnels : Tunnels) (s : TcState) (id : Id) :
    (s.handleOpenFromServer tunnels id).ops = s.ops ∨
      (s.handleOpenFromServer tunnels id).ops = [.toQuic (closeTcpStream id)] := by
  unfold handleOpenFromServer
  split
  · exact Or.inr rfl
  · split
    · exact Or.inr rfl
    · split
      · exact Or.inr rfl
      · exact Or.inl rfl

theorem handleOpen_relay {id' : Id} (hnil : s.ops = []) (h : Relay id n since s)
    (ho : opens tunnels id s (.server (some ⟨id', some .openTcp⟩)) = false) :
    Relay id n since (s.handleOpenFromServer tunnels id') := by
  by_cases hid : id = id'
  · subst hid
    have hrefused : Relay id n since (s.send [.toQuic (closeTcpStream id)]) :=
      h.frame rfl (Onward.refl _) (Or.inr ⟨hnil, Spares.toQuic _⟩)
    unfold handleOpenFromServer
    split
    · exact hrefused
    · rename_i desc hdesc
      split
      · exact hrefused
      · rename_i hside
        split
        · exact hrefused
        · rename_i hentry
          simp [opens, hdesc, hside, Option.not_isSome_iff_eq_none.mp hentry] at ho
  · refine (handleOpen_handles tunnels s id').relay_of_ne hid hnil ?_ h
    rcases handleOpen_ops tunnels s id' with heq | heq
    · exact (Spares.of_nil (s := s) (heq.trans hnil)).quiet
    · rw [heq]
      exact (Spares.toQuic (s := s) _).quiet

/-- An accepted open starts with an empty queue. -/
theorem handleOpen_opens {id' : Id} (h : Relay id 0 since s)
    (ho : opens tunnels id s (.server (some ⟨id', some .openTcp⟩)) = true) :
    Relay id 1 [] (s.handleOpenFromServer tunnels id') := by
  obtain ⟨hentry, hunstarted, hquiet⟩ := h.fresh
  simp only [opens, hentry, Bool.and_eq_true, decide_eq_true_eq, Option.any_eq_true] at ho
  obtain ⟨⟨rfl, -⟩, desc, hdesc, hside⟩ := ho
  unfold handleOpenFromServer
  simp only [hdesc, hside, if_false, hentry, Option.isSome_none, Bool.false_eq_true]
  exact .queued rfl hunstarted hquiet (setState_self s id' _)

theorem handleClose_relay {id' : Id} (hnil : s.ops = []) (h : Relay id n since s) :
    Relay id n since (s.handleCloseFromServer id') := by
  have hops : (s.handleCloseFromServer id').ops = s.ops := by
    unfold handleCloseFromServer
    split <;> rfl
  by_cases hid : id = id'
  · subst hid
    have hspare : Spares id s (s.handleCloseFromServer id).ops :=
      Spares.of_nil (hops.trans hnil)
    revert hspare
    unfold handleCloseFromServer
    split
    · rename_i q hentry
      exact h.close hnil (fun hn => by rw [hentry] at hn; cases hn)
        (by rw [setState_self]; exact shut_halfClosed) (Onward.refl _)
    · rename_i c hentry
      exact h.close hnil (fun hn => by rw [hentry] at hn; cases hn)
        (by rw [setState_self]; exact shut_halfClosed) (onward_dropTx s c)
    · rename_i hentry
      exact h.close hnil (fun hn => by rw [hentry] at hn; cases hn)
        (by rw [setState_self]; exact shut_fullyClosed) (Onward.refl _)
    · exact h.close hnil (fun _ => remove_self s id)
        (by rw [remove_self]; exact shut_none) (Onward.refl _)
    · exact fun _ => h
  · exact (handleClose_handles s id').relay_of_ne hid hnil
      (Spares.of_nil (s := s) (hops.trans hnil)).quiet h

/-- **Data join the end of what the server has sent for their own stream**, wherever that is. -/
theorem handleData_relay {id' : Id} (hw : s.Wf) (hnil : s.ops = []) (h : Relay id n since s)
    (data : List UInt8) :
    Relay id n (since ++ heard id (.server (some (tcpData id' data))))
      (s.handleDataFromServer id' data) := by
  by_cases hid : id = id'
  · subst hid
    have hheard : heard id (.server (some (tcpData id data))) = data := if_pos rfl
    rw [hheard]
    unfold handleDataFromServer
    split
    · rename_i c hentry
      cases h with
      | absent first unstarted quiet shut => exact absurd hentry (shut.2 c)
      | queued once unstarted quiet entry => rw [hentry] at entry; cases entry
      | starting once unstarted entry ops => rw [hentry] at entry; cases entry
      | detached once c' t sole quiet shut unfed bound => exact absurd hentry (shut.2 c)
      | opened once c' t sole quiet entry bound whole =>
        rw [hentry] at entry
        cases entry
        refine .opened once c t sole (fun op hop => ?_) hentry
          (bound.trans (List.prefix_append _ _)) fun hwriting => ?_
        · rw [List.mem_singleton.mp hop]
          rfl
        · have hwhole := whole hwriting
          rw [hnil] at hwhole
          simpa [fed, send] using hwhole
    · rename_i q hentry
      obtain ⟨once, unstarted, quiet, rfl⟩ := h.of_opening hentry
      exact .queued once unstarted quiet (setState_self s id _)
    · rename_i hentry
      exact h.ignore (by rw [hentry]; exact shut_halfClosed) hnil data
    · rename_i hentry
      have hmore := h.ignore (by rw [hentry]; exact shut_fullyClosed) hnil data
      exact hmore.frame rfl (Onward.refl _) (Or.inr ⟨hnil, Spares.toQuic _⟩)
    · rename_i hentry
      exact h.ignore (by rw [hentry]; exact shut_none) hnil data
  · have hheard : heard id (.server (some (tcpData id' data))) = [] :=
      if_neg fun heq => hid heq.symm
    rw [hheard, List.append_nil]
    rcases handleData_cases s id' data with ⟨c, hopened, heq⟩ | ⟨-, hh⟩
    · rw [heq]
      refine h.frame rfl (Onward.refl _) (Or.inr ⟨hnil, ⟨fun op hop => ?_, ?_⟩⟩)
      · rw [List.mem_singleton.mp hop]
        rfl
      · intro c' t data' ht htid hop
        cases List.mem_singleton.mp hop
        obtain ⟨t₀, ht₀, hlive⟩ := hw.opened id' c hopened
        rw [ht] at ht₀
        cases ht₀
        exact hid (htid.symm.trans hlive.id_eq)
    · refine hh.relay_of_ne hid hnil (fun op hop => ?_) h
      unfold handleDataFromServer at hop
      split at hop
      · rw [List.mem_singleton.mp hop]
        rfl
      · rw [show (s.setState id' _).ops = s.ops from rfl, hnil] at hop
        cases hop
      · rw [hnil] at hop
        cases hop
      · rw [List.mem_singleton.mp hop]
        rfl
      · rw [hnil] at hop
        cases hop

theorem handleNew_relay {id' : Id} (hnil : s.ops = []) (h : Relay id n since s)
    (ho : id' = id → s.streams[id]? = none → tunnels.clientBound.contains id.tunnel = false) :
    Relay id n since (s.handleNewStreamEstablished tunnels id') := by
  by_cases hid : id = id'
  · subst hid
    unfold handleNewStreamEstablished
    split
    · rename_i q hentry
      obtain ⟨once, unstarted, -, rfl⟩ := h.of_opening hentry
      exact .starting once unstarted (remove_self s id) (Or.inl rfl)
    · rename_i c hentry
      exact h.close hnil (fun _ => remove_self _ id) (by rw [remove_self]; exact shut_none)
        (onward_dropTx s c) (Spares.of_nil hnil)
    · exact h.close hnil (fun _ => remove_self _ id) (by rw [remove_self]; exact shut_none)
        (Onward.refl _) (Spares.of_nil hnil)
    · exact h.close hnil (fun _ => remove_self _ id) (by rw [remove_self]; exact shut_none)
        (Onward.refl _) (Spares.of_nil hnil)
    · rename_i hentry
      rw [ho rfl hentry]
      exact h
  · refine (handleNew_handles tunnels s id').relay_of_ne hid hnil (fun op hop => ?_) h
    have hestablish : ∀ q, (Op.establish id' q).establishes id = false := fun q =>
      decide_eq_false fun heq => hid heq.symm
    unfold handleNewStreamEstablished at hop
    split at hop
    · rw [List.mem_singleton.mp hop]
      exact hestablish _
    · rw [show ((s.dropTx _).remove id').ops = s.ops from rfl, hnil] at hop
      cases hop
    · rw [show (s.remove id').ops = s.ops from rfl, hnil] at hop
      cases hop
    · rw [show (s.remove id').ops = s.ops from rfl, hnil] at hop
      cases hop
    · split at hop
      · rcases List.mem_cons.mp hop with rfl | hop
        · rfl
        · rw [List.mem_singleton.mp hop]
          exact hestablish _
      · rw [hnil] at hop
        cases hop

/-- A stream that the client opens starts with nothing. -/
theorem handleNew_opens (h : Relay id 0 since s)
    (hbound : tunnels.clientBound.contains id.tunnel = true) :
    Relay id 1 [] (s.handleNewStreamEstablished tunnels id) := by
  obtain ⟨hentry, hunstarted, hquiet⟩ := h.fresh
  unfold handleNewStreamEstablished
  simp only [hentry, hbound, if_true]
  exact .starting rfl hunstarted hentry (Or.inr ⟨_, rfl⟩)

theorem handleResult_relay {id' : Id} (hnil : s.ops = []) (h : Relay id n since s) :
    Relay id n since (s.handleStreamResult id') := by
  have hspare : ∀ i, Spares i s (s.handleStreamResult id').ops := by
    intro i
    unfold handleStreamResult
    split
    · exact Spares.of_nil hnil
    · exact Spares.of_nil hnil
    · exact Spares.of_nil hnil
    · exact Spares.toQuic _
    · exact Spares.of_nil hnil
  by_cases hid : id = id'
  · subst hid
    have hsp := hspare id
    revert hsp
    unfold handleStreamResult
    split
    · exact h.close hnil (fun _ => remove_self s id)
        (by rw [remove_self]; exact shut_none) (Onward.refl _)
    · rename_i c hentry
      exact h.close hnil (fun hn => by rw [hentry] at hn; cases hn)
        (by rw [setState_self]; exact shut_halfClosed) (onward_dropTx s c)
    · rename_i hentry
      exact h.close hnil (fun hn => by rw [hentry] at hn; cases hn)
        (by rw [setState_self]; exact shut_fullyClosed) (Onward.refl _)
    · exact h.close hnil (fun _ => remove_self s id)
        (show Shut (s.remove id).streams[id]? by rw [remove_self]; exact shut_none)
        (Onward.refl _)
    · exact fun _ => h
  · exact (handleResult_handles s id').relay_of_ne hid hnil (hspare id).quiet h

/-- What was queued is written first. -/
theorem spawn_supply (id : Id) (queued : List UInt8) :
    (StreamThreads.spawn id queued).supply = queued := by
  simp [StreamThreads.supply, StreamThreads.spawn, WriteThread.isWriting, WriteThread.inFlight]

/-- `tc-main` feeds a thread that has not ended. -/
theorem feed_supply (t : StreamThreads) (data : List UInt8) :
    (t.write.isWriting = true →
      ({ t with toTx := t.toTx ++ [data] } : StreamThreads).supply = t.supply ++ data) ∧
    (t.write.isWriting = false →
      ({ t with toTx := t.toTx ++ [data] } : StreamThreads).supply = t.supply) := by
  constructor
  · intro h
    simp [StreamThreads.supply, h]
  · intro h
    simp [StreamThreads.supply, h]

/-- One operation less, and it was not about the stream. -/
theorem Relay.skip {op : Op} {ops : List Op} (h : Relay id n since s) (hops : s.ops = op :: ops)
    (hop : op.establishes id = false) (hfeeds : op.feeds = none) :
    Relay id n since { s with ops := ops } := by
  have hquiet : Quiet id s.ops → Quiet id ops :=
    fun hq o ho => hq o (by rw [hops]; exact List.mem_cons_of_mem op ho)
  cases h with
  | absent first unstarted quiet shut => exact .absent first unstarted (hquiet quiet) shut
  | queued once unstarted quiet entry => exact .queued once unstarted (hquiet quiet) entry
  | starting once unstarted entry hstart =>
    rcases hstart with hstart | ⟨m, hstart⟩
    · rw [hops] at hstart
      cases hstart
      simp [Op.establishes] at hop
    · rw [hops] at hstart
      cases hstart
      exact .starting once unstarted entry (Or.inl rfl)
  | opened once c t sole quiet entry bound whole =>
    refine .opened once c t sole (hquiet quiet) entry bound fun hw => ?_
    rw [← whole hw, hops]
    cases op <;> first | rfl | cases hfeeds
  | detached once c t sole quiet shut unfed bound =>
    refine .detached once c t sole (hquiet quiet) shut (fun data hin => ?_) bound
    exact unfed data (by rw [hops]; exact List.mem_cons_of_mem op hin)

/-- The threads of a stream are started. -/
theorem establish_relay {ops : List Op} {id' : Id} {queued : List UInt8} (h : Relay id n since s)
    (hops : s.ops = .establish id' queued :: ops)
    (hp : { s with ops := ops }.perform (.establish id' queued) = some s') :
    Relay id n since s' := by
  cases hp
  by_cases hid : id' = id
  · subst hid
    have hnoise : ¬ Quiet id' s.ops := by
      intro hq
      have := hq (.establish id' queued) (by rw [hops]; exact List.mem_cons_self)
      simp [Op.establishes] at this
    cases h with
    | absent first unstarted quiet shut => exact absurd quiet hnoise
    | queued once unstarted quiet entry => exact absurd quiet hnoise
    | opened once c t sole quiet entry bound whole => exact absurd quiet hnoise
    | detached once c t sole quiet shut unfed bound => exact absurd quiet hnoise
    | starting once unstarted entry hstart =>
      obtain ⟨rfl, rfl⟩ : queued = since ∧ ops = [] := by
        rcases hstart with hstart | ⟨m, hstart⟩ <;> rw [hops] at hstart <;> cases hstart
        exact ⟨rfl, rfl⟩
      refine .opened once s.threads.length (.spawn id' queued) ⟨by simp, rfl, ?_⟩
        (Spares.nil (s := s)).quiet (setState_self _ id' _) ?_ fun _ => ?_
      · intro c' t' ht' hid'
        rw [List.getElem?_append] at ht'
        split at ht'
        · exact absurd hid' (unstarted c' t' ht')
        · rw [List.getElem?_singleton] at ht'
          split at ht' <;> cases ht'
          rename_i hlt hzero
          exact Nat.le_antisymm (Nat.le_of_sub_eq_zero hzero) (Nat.le_of_not_lt hlt)
      · exact (spawn_supply id' queued).symm ▸ List.prefix_refl _
      · rw [spawn_supply]
        exact List.append_nil _
  · have hskip := h.skip hops (decide_eq_false hid) rfl
    have hother : ∀ st, (({ s with ops := ops } : TcState).setState id' st).streams[id]? =
        s.streams[id]? := fun st => setState_other _ id' st fun heq => hid heq.symm
    cases hskip with
    | absent first unstarted quiet shut =>
      exact .absent (fun h => (hother _).trans (first h)) (unstarted.append hid) quiet
        (by rw [hother]; exact shut)
    | queued once unstarted quiet entry =>
      exact .queued once (unstarted.append hid) quiet ((hother _).trans entry)
    | starting once unstarted entry hstart =>
      exact .starting once (unstarted.append hid) ((hother _).trans entry) hstart
    | opened once c t sole quiet entry bound whole =>
      exact .opened once c t (sole.append hid) quiet ((hother _).trans entry) bound whole
    | detached once c t sole quiet shut unfed bound =>
      exact .detached once c t (sole.append hid) quiet (by rw [hother]; exact shut) unfed bound

/-- Data are handed to a write thread. -/
theorem toTx_relay {ops : List Op} {c : Nat} {data : List UInt8} (hw : s.Wf)
    (h : Relay id n since s) (hops : s.ops = .toTx c data :: ops)
    (hp : { s with ops := ops }.perform (.toTx c data) = some s') : Relay id n since s' := by
  obtain ⟨hone, t, ht, -⟩ := hw.feed c data (by rw [hops]; exact List.mem_cons_self)
  obtain rfl : ops = [] := (List.cons.inj (hops.symm.trans hone)).2
  have hnew : t.write.isWriting = false ∧ s' = { s with ops := [] } ∨
      s' = ({ s with ops := [] } : TcState).modifyThreads c fun t =>
        { t with toTx := t.toTx ++ [data] } := by
    simp only [TcState.perform, ht] at hp
    split at hp
    · rename_i hfin
      cases hp
      exact Or.inl ⟨by rw [hfin]; rfl, rfl⟩
    · split at hp <;> cases hp
      exact Or.inr rfl
  have hquiet : Quiet id [] := (Spares.nil (s := s)).quiet
  cases h with
  | absent first unstarted quiet shut =>
    rcases hnew with ⟨-, rfl⟩ | rfl
    · exact .absent first unstarted hquiet shut
    · exact .absent first (unstarted.modify c fun _ => rfl) hquiet shut
  | queued once unstarted quiet entry =>
    rcases hnew with ⟨-, rfl⟩ | rfl
    · exact .queued once unstarted hquiet entry
    · exact .queued once (unstarted.modify c fun _ => rfl) hquiet entry
  | starting once unstarted entry hstart =>
    rcases hstart with hstart | ⟨m, hstart⟩ <;> rw [hops] at hstart <;> cases hstart
  | opened once c₀ t₀ sole quiet entry bound whole =>
    rw [hops] at whole
    rcases hnew with ⟨hdead, rfl⟩ | rfl
    · refine .opened once c₀ t₀ sole hquiet entry bound fun hw => ?_
      have hne : c ≠ c₀ := by
        rintro rfl
        rw [sole.get] at ht
        cases ht
        rw [hdead] at hw
        cases hw
      simpa [fed, hne] using whole hw
    · have hsole := sole.modify c (f := fun t => { t with toTx := t.toTx ++ [data] })
        fun _ => rfl
      by_cases hc : c = c₀
      · subst hc
        rw [if_pos rfl] at hsole
        obtain ⟨hgrow, hkeep⟩ := feed_supply t₀ data
        cases hw : t₀.write.isWriting with
        | true =>
          have hwhole : t₀.supply ++ data = since := by simpa [fed] using whole hw
          refine .opened once c _ hsole hquiet entry ?_ fun _ => ?_
          · exact ((hgrow hw).trans hwhole).symm ▸ List.prefix_refl _
          · rw [hgrow hw, hwhole]
            exact List.append_nil _
        | false =>
          refine .opened once c _ hsole hquiet entry ?_ fun hw' => ?_
          · rw [hkeep hw]
            exact bound
          · rw [show t₀.write.isWriting = true from hw'] at hw
            cases hw
      · rw [if_neg hc] at hsole
        refine .opened once c₀ t₀ hsole hquiet entry bound fun hw => ?_
        have hwhole : t₀.supply = since := by simpa [fed, hc] using whole hw
        exact (List.append_nil _).trans hwhole
  | detached once c₀ t₀ sole quiet shut unfed bound =>
    have hne : c ≠ c₀ := by
      rintro rfl
      exact unfed data (by rw [hops]; exact List.mem_cons_self)
    rcases hnew with ⟨-, rfl⟩ | rfl
    · exact .detached once c₀ t₀ sole hquiet shut (fun _ h => by cases h) bound
    · have hsole := sole.modify c (f := fun t => { t with toTx := t.toTx ++ [data] })
        fun _ => rfl
      rw [if_neg hne] at hsole
      exact .detached once c₀ t₀ hsole hquiet shut (fun _ h => by cases h) bound

/-- **An operation of `tc-main` takes the data of a stream to the next station.** -/
theorem perform_relay {op : Op} {ops : List Op} (hw : s.Wf) (h : Relay id n since s)
    (hops : s.ops = op :: ops) (hp : { s with ops := ops }.perform op = some s') :
    Relay id n since s' := by
  cases op with
  | establish id' queued => exact establish_relay h hops hp
  | toTx c data => exact toTx_relay hw h hops hp
  | notify =>
    cases hp
    exact h.skip hops rfl rfl
  | toQuic m =>
    cases hp
    exact (h.skip hops rfl rfl).frame rfl (Onward.refl _) (Or.inl rfl)
  | shutdown c =>
    cases hp
    exact (h.skip hops rfl rfl).frame rfl
      (onward_modify _ c fun _ => Flows.of_eq rfl rfl rfl rfl) (Or.inl rfl)
  | joinRead c =>
    simp only [TcState.perform] at hp
    split at hp <;> cases hp
    exact h.skip hops rfl rfl
  | joinWrite c =>
    simp only [TcState.perform] at hp
    split at hp <;> cases hp
    exact h.skip hops rfl rfl
  | dropTx c =>
    cases hp
    exact (h.skip hops rfl rfl).frame rfl (onward_dropTx _ c) (Or.inl rfl)

theorem leave_relay (hnil : s.ops = []) (h : Relay id n since s) : Relay id n since s.leave := by
  have hnone : s.leave.streams[id]? = none := by simp [TcState.leave]
  refine h.close hnil (fun _ => hnone) (by rw [hnone]; exact shut_none) (Onward.refl _) ?_
  refine Spares.of_unfed (fun op hop => ?_) fun c data hop => ?_
  · have htear := leave_inTeardown hop
    cases op <;> first | rfl | cases htear
  · cases leave_inTeardown hop

theorem server_relay {msg : Option Message} (hw : s.Wf) (hnil : s.ops = [])
    (h : Relay id n since s) (ho : opens tunnels id s (.server msg) = false) :
    Relay id n (since ++ heard id (.server msg)) (s.handleServer tunnels msg) := by
  match msg with
  | none =>
    have hspare : Spares id s [.notify] := by
      refine Spares.of_unfed (fun op hop => ?_) fun c data hop => ?_
      · rw [List.mem_singleton.mp hop]
        rfl
      · cases List.mem_singleton.mp hop
    have hsent : Relay id n since (s.send [.notify]) :=
      h.frame rfl (Onward.refl _) (Or.inr ⟨hnil, hspare⟩)
    exact hsent.append_nil
  | some ⟨id', some .openTcp⟩ => exact (handleOpen_relay hnil h ho).append_nil
  | some ⟨id', some .closeTcp⟩ => exact (handleClose_relay hnil h).append_nil
  | some ⟨id', some (.tcpData data)⟩ => exact handleData_relay hw hnil h data
  | some ⟨id', none⟩ => exact h.append_nil

/-- **The step that opens a stream for the first time starts with nothing.** -/
theorem opens_relay {a : Act} (h : Relay id 0 since s) (ho : opens tunnels id s a = true)
    (hs : s.step tunnels a = some s') : Relay id 1 [] s' := by
  cases step_taken hs with
  | server msg sel =>
    match msg with
    | some ⟨id', some .openTcp⟩ => exact handleOpen_opens h ho
  | accepted tunnel sel bound =>
    simp only [opens, Bool.and_eq_true, decide_eq_true_eq] at ho
    obtain ⟨⟨hid, -⟩, hbound⟩ := ho
    rw [hid]
    exact handleNew_opens (h.frame rfl (Onward.refl _) (Or.inl rfl)) hbound
  | connected i x hx sel =>
    simp only [opens, hx, Option.any_some, Bool.and_eq_true, decide_eq_true_eq] at ho
    obtain ⟨⟨hid, -⟩, hbound⟩ := ho
    rw [hid]
    exact handleNew_opens (h.frame rfl (Onward.refl _) (Or.inl rfl)) hbound
  | leaves act sel => rcases act with rfl | rfl | rfl <;> cases ho
  | _ => cases ho

/-- **Every other step keeps the data of the stream on their way.** -/
theorem step_relay {a : Act} (hw : s.Wf) (h : Relay id n since s)
    (ho : opens tunnels id s a = false) (hs : s.step tunnels a = some s') :
    Relay id n (since ++ heard id a) s' := by
  have hnil : s.selecting = true → s.ops = [] := fun hsel => (selecting_iff.mp hsel).1
  cases step_taken hs with
  | allocations sel => exact h.append_nil
  | leaves act sel =>
    have hleave := (leave_relay (hnil sel) h).append_nil
    rcases act with rfl | rfl | rfl <;> exact hleave
  | server msg sel => exact server_relay hw (hnil sel) h ho
  | accepted tunnel sel bound =>
    refine Relay.append_nil (handleNew_relay (hnil sel)
      (h.frame rfl (Onward.refl _) (Or.inl rfl)) fun hid hentry => ?_)
    simpa [opens, hid, show s.streams[id]? = none from hentry] using ho
  | connected i x hx sel =>
    refine Relay.append_nil (handleNew_relay (hnil sel)
      (h.frame rfl (Onward.refl _) (Or.inl rfl)) fun hid hentry => ?_)
    simpa [opens, hx, hid, show s.streams[id]? = none from hentry] using ho
  | connectFailed i x hx => exact Relay.append_nil (h.frame rfl (Onward.refl _) (Or.inl rfl))
  | perform op ops s' hops hp => exact (perform_relay hw h hops hp).append_nil
  | thread c b t t' ht hb =>
    exact Relay.append_nil (h.frame rfl (onward_set ht (threadStep_flows hb)) (Or.inl rfl))
  | forward c t data ht hread =>
    have hflow : Flows t { t with read := .reading } := Flows.of_eq rfl rfl rfl rfl
    exact Relay.append_nil (h.frame rfl (onward_set ht hflow) (Or.inl rfl))
  | reportRead c t result ht hread sel =>
    have hflow : Flows t { t with read := .finished } := Flows.of_eq rfl rfl rfl rfl
    have hset : Relay id n since
        { s with threads := s.threads.set c { t with read := .finished } } :=
      h.frame rfl (onward_set ht hflow) (Or.inl rfl)
    exact Relay.append_nil (handleResult_relay (hnil sel) hset)
  | reportWrite c t result ht hwrite sel =>
    have hflow : Flows t { t with write := .finished } := by
      refine Flows.stopped rfl rfl ?_
      exact (List.prefix_append _ _).trans t.written_inFlight_prefix
    have hset : Relay id n since
        { s with threads := s.threads.set c { t with write := .finished } } :=
      h.frame rfl (onward_set ht hflow) (Or.inl rfl)
    exact Relay.append_nil (handleResult_relay (hnil sel) hset)

theorem Relay.bound (h : Relay id n since s) {t : StreamThreads} (ht : t ∈ s.threads)
    (hid : t.id = id) : t.supply <+: since := by
  obtain ⟨c, hc⟩ := List.mem_iff_getElem?.mp ht
  cases h with
  | absent first unstarted => exact absurd hid (unstarted c t hc)
  | queued once unstarted => exact absurd hid (unstarted c t hc)
  | starting once unstarted => exact absurd hid (unstarted c t hc)
  | opened once c' t' sole quiet entry bound =>
    obtain rfl := sole.only c t hc hid
    cases hc.symm.trans sole.get
    exact bound
  | detached once c' t' sole quiet shut unfed bound =>
    obtain rfl := sole.only c t hc hid
    cases hc.symm.trans sole.get
    exact bound

/-- The machine, with the opens of a stream and the data received since noted beside it. -/
def hearing (tunnels : Tunnels) (id : Id) : TcState × Heard → Act → Option (TcState × Heard) :=
  Machine.observe (TcState.step tunnels) (listen tunnels id)

/-- While the stream has been opened once at most, its data are at one of the stations. -/
def Relayed (id : Id) (x : TcState × Heard) : Prop :=
  x.1.Wf ∧ (x.2.opens ≤ 1 → Relay id x.2.opens x.2.since x.1)

theorem hearing_relayed {x y : TcState × Heard} {a : Act} (hx : Relayed id x)
    (h : hearing tunnels id x a = some y) : Relayed id y := by
  obtain ⟨hs, hnote⟩ := Machine.observe_eq_some.mp h
  obtain ⟨hw, hr⟩ := hx
  refine ⟨step_wf hw hs, fun honce => ?_⟩
  unfold listen at hnote
  split at hnote
  · rename_i ho
    rw [hnote] at honce ⊢
    have hzero : x.2.opens = 0 := by
      simpa using honce
    rw [hzero]
    exact opens_relay (hzero ▸ hr (by omega)) ho hs
  · rename_i ho
    rw [hnote] at honce ⊢
    exact step_relay hw (hr honce) (Bool.not_eq_true _ ▸ ho) hs

theorem relayed_initial (id : Id) : Relayed id (.initial, ⟨0, []⟩) := by
  have hquiet : Quiet id TcState.initial.ops := (Spares.nil (s := .initial)).quiet
  refine ⟨wf_initial, fun _ => .absent (fun _ => ?_) (fun c t h => ?_) hquiet ?_⟩
  · simp [TcState.initial]
  · simp [TcState.initial] at h
  · simp [TcState.initial, shut_none]

/-- **Tunnelled bytes reach the local socket in order**: in every run, and at every moment of a
write, what has been written to the socket of a stream that is opened once is a prefix of what the
server has sent for it since. -/
theorem written_prefix (tunnels : Tunnels) (id : Id) (x : TcState × Heard)
    (h : Machine.Reachable (hearing tunnels id) (.initial, ⟨0, []⟩) x) (honce : x.2.opens ≤ 1)
    (t : StreamThreads) (ht : t ∈ x.1.threads) (hid : t.id = id) (k : Nat) :
    t.written ++ t.write.inFlight.take k <+: x.2.since := by
  have hx : Relayed id x :=
    h.invariant (relayed_initial id) fun _ _ _ hx hs => hearing_relayed hx hs
  have hpart : t.written ++ t.write.inFlight.take k <+: t.written ++ t.write.inFlight :=
    (List.prefix_append_right_inj _).mpr (List.take_prefix k _)
  exact (hpart.trans t.written_inFlight_prefix).trans ((hx.2 honce).bound ht hid)

/-- The server opens a stream and sends data before and after its connection is made. -/
def earlyAndLate : List Act :=
  [.server (some (openTcpStream ⟨0, 0⟩)), .server (some (tcpData ⟨0, 0⟩ [1, 2])), .connected 0,
    .perform, .server (some (tcpData ⟨0, 0⟩ [3, 4])), .perform, .thread 0 .writeOk,
    .thread 0 .takeData]

/-- The early data are written, and a byte of the later ones. -/
theorem earlyAndLate_prefix :
    ∃ x t, Machine.run (hearing (Tunnels.allocate [0, 1] bothSides) ⟨0, 0⟩) (.initial, ⟨0, []⟩)
        earlyAndLate = some x ∧ t ∈ x.1.threads ∧ t.written ++ t.write.inFlight.take 1 = [1, 2, 3] ∧
      t.written ++ t.write.inFlight.take 1 <+: x.2.since := by
  have hrun : (Machine.run (hearing (Tunnels.allocate [0, 1] bothSides) ⟨0, 0⟩)
      (.initial, ⟨0, []⟩) earlyAndLate).any (fun x => decide (x.2.opens ≤ 1) &&
        x.1.threads[0]?.any fun t => decide (t.id = ⟨0, 0⟩) &&
          decide (t.written ++ t.write.inFlight.take 1 = [1, 2, 3])) = true := by
    decide +kernel
  obtain ⟨x, hx, hd⟩ := (Option.any_eq_true _ _).mp hrun
  obtain ⟨honce, hthread⟩ := (Bool.and_eq_true _ _).mp hd
  obtain ⟨t, ht, hd⟩ := (Option.any_eq_true _ _).mp hthread
  obtain ⟨hid, hwritten⟩ := (Bool.and_eq_true _ _).mp hd
  have hmem : t ∈ x.1.threads := List.mem_of_getElem? ht
  exact ⟨x, t, hx, hmem, of_decide_eq_true hwritten,
    written_prefix _ ⟨0, 0⟩ x ⟨_, hx⟩ (of_decide_eq_true honce) t hmem (of_decide_eq_true hid) 1⟩

end ApertureC.Tunnel
