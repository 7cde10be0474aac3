import ApertureC.Lib.Machine
import ApertureC.Tunnel

/-!
# The invariant of the tunnel streams (`aperturec-client/src/channels/tunnel.rs`)

* `Wf` — what holds in every reachable state: `tc-main` waits to feed a stream only while it holds
  the stream's `to_tx`, and an opened entry names threads of its own id that still run.
* `Handles` — what a handler of the loop may do to the map and to the threads.
* `Taken` — the step function as a relation, one case for each kind of action.
* `Stepped` — what a step does, and whether it accepts its input.

Principal results: `step_taken`, `step_stepped`, `step_wf` and `Stepped.persist` (while `tc-main` waits, what the
threads of a stream keep on their own stays so).
-/

set_option autoImplicit false

namespace ApertureC.Tunnel

/-- The stream an operation feeds. -/
def Op.feeds : Op → Option Nat
  | .toTx c _ => some c
  | _ => none

/-- The operations of the handlers of the loop. -/
def Op.inLoop : Op → Bool
  | .notify | .toQuic _ | .toTx _ _ | .establish _ _ => true
  | _ => false

/-- The operations of the teardown. -/
def Op.inTeardown : Op → Bool
  | .toQuic _ | .shutdown _ | .joinRead _ | .joinWrite _ | .dropTx _ => true
  | _ => false

/-- The threads of an opened entry: `to_tx` is held, and neither has reported its result. -/
structure StreamThreads.Live (id : Id) (t : StreamThreads) : Prop where
  id_eq : t.id = id
  held : t.toTxDropped = false
  read : t.read ≠ .finished
  write : t.write ≠ .finished

structure Wf (ops : List Op) (left : Bool) (streams : Std.ExtTreeMap Id State)
    (threads : List StreamThreads) : Prop where
  feed : ∀ c data, Op.toTx c data ∈ ops →
    ops = [.toTx c data] ∧ ∃ t, threads[c]? = some t ∧ t.toTxDropped = false
  loop : left = false → ∀ op ∈ ops, op.inLoop = true
  tear : left = true → (∀ op ∈ ops, op.inTeardown = true) ∧ ∀ id : Id, streams[id]? = none
  opened : ∀ (id : Id) (c : Nat), streams[id]? = some (.opened c) →
    ∃ t, threads[c]? = some t ∧ t.Live id

def TcState.Wf (s : TcState) : Prop := Tunnel.Wf s.ops s.left s.streams s.threads

/-! ## What a handler does -/

/-- `id` loses its entry or gets one that is not opened, and if it was opened, `to_tx` is dropped. -/
structure Closes (s s' : TcState) (id : Id) : Prop where
  other : ∀ id', id' ≠ id → s'.streams[id']? = s.streams[id']?
  entry : ∀ c, s'.streams[id]? ≠ some (.opened c)
  threads : s'.threads = s.threads ∨
    ∃ c, s.streams[id]? = some (.opened c) ∧ s'.threads = (s.dropTx c).threads

/-- A handler closes an entry or leaves the map as it is, and feeds no stream. -/
structure Handles (s s' : TcState) (id : Id) : Prop where
  left : s'.left = s.left
  ops : ∀ op ∈ s'.ops, op ∈ s.ops ∨ op.inLoop = true ∧ op.feeds = none
  map : s'.streams = s.streams ∧ s'.threads = s.threads ∨ Closes s s' id

variable {tunnels : Tunnels} {s s' : TcState} {id : Id}

/-- A handler that sends nothing. -/
theorem Handles.silent (hl : s'.left = s.left) (hops : s'.ops = s.ops)
    (hmap : s'.streams = s.streams ∧ s'.threads = s.threads ∨ Closes s s' id) : Handles s s' id :=
  ⟨hl, fun _ hop => Or.inl (hops ▸ hop), hmap⟩

namespace TcState

theorem setState_other (s : TcState) (id : Id) (st : State) {id' : Id} (h : id' ≠ id) :
    (s.setState id st).streams[id']? = s.streams[id']? := by
  simp only [setState, Std.ExtTreeMap.getElem?_insert]
  rw [if_neg]
  exact fun hc => h (Std.LawfulEqOrd.eq_of_compare hc).symm

theorem setState_self (s : TcState) (id : Id) (st : State) :
    (s.setState id st).streams[id]? = some st := by
  simp [setState]

theorem remove_other (s : TcState) (id : Id) {id' : Id} (h : id' ≠ id) :
    (s.remove id).streams[id']? = s.streams[id']? := by
  simp only [remove, Std.ExtTreeMap.getElem?_erase]
  rw [if_neg]
  exact fun hc => h (Std.LawfulEqOrd.eq_of_compare hc).symm

theorem remove_self (s : TcState) (id : Id) : (s.remove id).streams[id]? = none := by
  simp [remove]

theorem closes_setState (s : TcState) (id : Id) {st : State} (h : ∀ c, st ≠ .opened c) :
    Closes s (s.setState id st) id := by
  refine ⟨fun id' hne => s.setState_other id st hne, fun c hc => ?_, Or.inl rfl⟩
  rw [setState_self] at hc
  exact h c (Option.some.inj hc)

theorem closes_drop {c : Nat} (h : s.streams[id]? = some (.opened c)) :
    Closes s ((s.dropTx c).setState id .halfClosed) id := by
  refine ⟨fun id' hne => setState_other _ id _ hne, fun c' hc => ?_, Or.inr ⟨c, h, rfl⟩⟩
  rw [setState_self] at hc
  cases hc

theorem closes_remove (s : TcState) (id : Id) : Closes s (s.remove id) id := by
  refine ⟨fun id' hne => s.remove_other id hne, fun c hc => ?_, Or.inl rfl⟩
  rw [remove_self] at hc
  cases hc

theorem closes_drop_remove {c : Nat}
    (h : s.streams[id]? = some (.opened c)) : Closes s ((s.dropTx c).remove id) id := by
  refine ⟨fun id' hne => remove_other _ id hne, fun c' hc => ?_, Or.inr ⟨c, h, rfl⟩⟩
  rw [remove_self] at hc
  cases hc

/-- A handler that leaves the map as it is and sends `ops`. -/
theorem handles_send {ops : List Op} (h : ∀ op ∈ ops, op.inLoop = true ∧ op.feeds = none) :
    Handles s (s.send ops) id :=
  ⟨rfl, fun op hop => Or.inr (h op hop), Or.inl ⟨rfl, rfl⟩⟩

theorem toQuic_quiet {m : Message} {op : Op} (h : op ∈ [Op.toQuic m]) :
    op.inLoop = true ∧ op.feeds = none := by
  rw [List.mem_singleton] at h
  rw [h]
  exact ⟨rfl, rfl⟩

theorem handleOpen_handles (tunnels : Tunnels) (s : TcState) (id : Id) :
    Handles s (s.handleOpenFromServer tunnels id) id := by
  unfold handleOpenFromServer
  split
  · exact handles_send fun op hop => toQuic_quiet hop
  · split
    · exact handles_send fun op hop => toQuic_quiet hop
    · split
      · exact handles_send fun op hop => toQuic_quiet hop
      · have hc := closes_setState s id (fun c (h : State.opening [] = .opened c) => nomatch h)
        exact Handles.silent rfl rfl (Or.inr ⟨hc.other, hc.entry, hc.threads⟩)

theorem handleClose_handles (s : TcState) (id : Id) : Handles s (s.handleCloseFromServer id) id := by
  unfold handleCloseFromServer
  split
  · exact Handles.silent rfl rfl (Or.inr (closes_setState s id (fun c h => nomatch h)))
  · rename_i c h
    exact Handles.silent rfl rfl (Or.inr (closes_drop h))
  · exact Handles.silent rfl rfl (Or.inr (closes_setState s id (fun c h => nomatch h)))
  · exact Handles.silent rfl rfl (Or.inr (closes_remove s id))
  · exact Handles.silent rfl rfl (Or.inl ⟨rfl, rfl⟩)

/-- Data are fed to an opened stream, and to no other. -/
theorem handleData_cases (s : TcState) (id : Id) (data : List UInt8) :
    (∃ c, s.streams[id]? = some (.opened c) ∧
      s.handleDataFromServer id data = s.send [.toTx c data]) ∨
    (∀ c, s.streams[id]? ≠ some (.opened c)) ∧ Handles s (s.handleDataFromServer id data) id := by
  unfold handleDataFromServer
  split
  · rename_i c h
    exact Or.inl ⟨c, h, rfl⟩
  · rename_i queued h
    refine Or.inr ⟨fun c hc => ?_, ?_⟩
    · rw [h] at hc
      cases hc
    · exact Handles.silent rfl rfl (Or.inr (closes_setState s id (fun c h => nomatch h)))
  · rename_i h
    refine Or.inr ⟨fun c hc => ?_, Handles.silent rfl rfl (Or.inl ⟨rfl, rfl⟩)⟩
    rw [h] at hc
    cases hc
  · rename_i h
    refine Or.inr ⟨fun c hc => ?_, handles_send fun op hop => toQuic_quiet hop⟩
    rw [h] at hc
    cases hc
  · rename_i h
    refine Or.inr ⟨fun c hc => ?_, Handles.silent rfl rfl (Or.inl ⟨rfl, rfl⟩)⟩
    rw [h] at hc
    cases hc

theorem handleNew_handles (tunnels : Tunnels) (s : TcState) (id : Id) :
    Handles s (s.handleNewStreamEstablished tunnels id) id := by
  have hremove := closes_remove s id
  unfold handleNewStreamEstablished
  split
  · refine ⟨rfl, fun op hop => Or.inr ?_, Or.inr ⟨hremove.other, hremove.entry, hremove.threads⟩⟩
    rw [List.mem_singleton.mp hop]
    exact ⟨rfl, rfl⟩
  · rename_i c h
    exact Handles.silent rfl rfl (Or.inr (closes_drop_remove h))
  · exact Handles.silent rfl rfl (Or.inr hremove)
  · exact Handles.silent rfl rfl (Or.inr hremove)
  · split
    · refine handles_send fun op hop => ?_
      rcases List.mem_cons.mp hop with rfl | hop
      · exact ⟨rfl, rfl⟩
      · rw [List.mem_singleton.mp hop]
        exact ⟨rfl, rfl⟩
    · exact Handles.silent rfl rfl (Or.inl ⟨rfl, rfl⟩)

theorem handleResult_handles (s : TcState) (id : Id) : Handles s (s.handleStreamResult id) id := by
  unfold handleStreamResult
  split
  · exact Handles.silent rfl rfl (Or.inr (closes_remove s id))
  · rename_i c h
    exact Handles.silent rfl rfl (Or.inr (closes_drop h))
  · exact Handles.silent rfl rfl (Or.inr (closes_setState s id (fun c h => nomatch h)))
  · have hremove := closes_remove s id
    exact ⟨rfl, fun op hop => Or.inr (toQuic_quiet hop),
      Or.inr ⟨hremove.other, hremove.entry, hremove.threads⟩⟩
  · exact Handles.silent rfl rfl (Or.inl ⟨rfl, rfl⟩)

theorem selecting_iff : s.selecting = true ↔ s.ops = [] ∧ s.left = false := by
  simp [selecting]

end TcState

/-! ## The invariant -/

open TcState

/-- An operation leaves the operations after it, and `tc-main` where it is. -/
theorem perform_frame {op : Op} (h : s.perform op = some s') :
    s'.ops = s.ops ∧ s'.left = s.left := by
  cases op <;> simp only [TcState.perform] at h
  case toTx c data =>
    split at h
    · cases h
    · split at h
      · cases h
        exact ⟨rfl, rfl⟩
      · split at h <;> cases h
        exact ⟨rfl, rfl⟩
  case joinRead c =>
    split at h <;> cases h
    exact ⟨rfl, rfl⟩
  case joinWrite c =>
    split at h <;> cases h
    exact ⟨rfl, rfl⟩
  all_goals
    cases h
    exact ⟨rfl, rfl⟩

theorem perform_ops {op : Op} (h : s.perform op = some s') : s'.ops = s.ops := (perform_frame h).1

/-- A handler moves the threads of its own id only. -/
theorem Handles.threads_of_ne (hh : Handles s s' id) {c : Nat} {t : StreamThreads}
    (hid : ∀ c t, s.streams[id]? = some (.opened c) → s.threads[c]? = some t → t.id = id)
    (ht : s.threads[c]? = some t) (hne : t.id ≠ id) : s'.threads[c]? = some t := by
  rcases hh.map with ⟨-, heq⟩ | hc
  · rw [heq]; exact ht
  · rcases hc.threads with heq | ⟨c', hc', heq⟩
    · rw [heq]; exact ht
    · have hcc : c' ≠ c := by
        rintro rfl
        exact hne (hid c' t hc' ht)
      rw [heq, dropTx, modifyThreads, List.getElem?_modify, ht]
      simp [hcc]

theorem Handles.streams_of_ne (hh : Handles s s' id) {id' : Id} (hne : id' ≠ id) :
    s'.streams[id']? = s.streams[id']? := by
  rcases hh.map with ⟨heq, -⟩ | hc
  · rw [heq]
  · exact hc.other id' hne

/-- **A handler keeps the invariant.** -/
theorem Handles.wf (hh : Handles s s' id) (hw : s.Wf) (hops : s.ops = []) (hleft : s.left = false) :
    s'.Wf := by
  have hnew : ∀ op ∈ s'.ops, op.inLoop = true ∧ op.feeds = none := by
    intro op hop
    rcases hh.ops op hop with hop | hop
    · rw [hops] at hop
      cases hop
    · exact hop
  refine ⟨fun c data hop => ?_, fun _ op hop => (hnew op hop).1, fun hl => ?_, fun id' c hc => ?_⟩
  · exact nomatch (hnew _ hop).2
  · rw [hh.left, hleft] at hl
    cases hl
  · by_cases hid : id' = id
    · subst hid
      rcases hh.map with ⟨hs, ht⟩ | hclose
      · rw [hs] at hc
        rw [ht]
        exact hw.opened id' c hc
      · exact absurd hc (hclose.entry c)
    · rw [hh.streams_of_ne hid] at hc
      obtain ⟨t, ht, hlive⟩ := hw.opened id' c hc
      refine ⟨t, hh.threads_of_ne (fun c t hc ht => ?_) ht (by rw [hlive.id_eq]; exact hid), hlive⟩
      obtain ⟨t', ht', hlive'⟩ := hw.opened id c hc
      rw [ht] at ht'
      cases ht'
      exact hlive'.id_eq

/-- The result of a stream closes its entry. -/
theorem handleResult_entry (s : TcState) (id : Id) (c : Nat) :
    (s.handleStreamResult id).streams[id]? ≠ some (.opened c) := by
  rcases (handleResult_handles s id).map with ⟨hs, -⟩ | hclose
  · rw [hs]
    intro hc
    rw [handleStreamResult, hc] at hs
    have := (closes_drop hc).entry c
    rw [hs] at this
    exact this hc
  · exact hclose.entry c

/-- A thread of `c` has ended, and `tc-main` handles its result. -/
theorem result_wf {c : Nat} {t t' : StreamThreads} (hw : s.Wf) (hops : s.ops = [])
    (hleft : s.left = false) (ht : s.threads[c]? = some t) (hid : t'.id = t.id) :
    ({ s with threads := s.threads.set c t' }.handleStreamResult t.id).Wf := by
  have hh := handleResult_handles { s with threads := s.threads.set c t' } t.id
  have hget : ∀ c' t₀, s.threads[c']? = some t₀ → ∃ t₁,
      (s.threads.set c t')[c']? = some t₁ ∧ t₁.id = t₀.id ∧ (c' ≠ c → t₁ = t₀) := by
    intro c' t₀ h₀
    by_cases hc : c = c'
    · subst hc
      have hlt : c < s.threads.length := (List.getElem?_eq_some_iff.mp ht).1
      rw [ht] at h₀
      cases h₀
      exact ⟨t', by rw [List.getElem?_set_self hlt], hid, fun h => absurd rfl h⟩
    · exact ⟨t₀, by rw [List.getElem?_set_ne hc]; exact h₀, rfl, fun _ => rfl⟩
  refine ⟨fun c' data hop => ?_, fun _ op hop => ?_, fun hl => ?_, fun id' c' hc' => ?_⟩
  · rcases hh.ops _ hop with hop | ⟨-, hop⟩
    · rw [show ({ s with threads := s.threads.set c t' } : TcState).ops = [] from hops] at hop
      cases hop
    · cases hop
  · rcases hh.ops _ hop with hop | ⟨hop, -⟩
    · rw [show ({ s with threads := s.threads.set c t' } : TcState).ops = [] from hops] at hop
      cases hop
    · exact hop
  · rw [hh.left] at hl
    rw [show ({ s with threads := s.threads.set c t' } : TcState).left = false from hleft] at hl
    cases hl
  · by_cases hne : id' = t.id
    · subst hne
      exact absurd hc' (handleResult_entry _ _ c')
    · rw [hh.streams_of_ne hne] at hc'
      obtain ⟨t₀, h₀, hlive⟩ := hw.opened id' c' hc'
      obtain ⟨t₁, h₁, hid₁, heq⟩ := hget c' t₀ h₀
      have hcc : c' ≠ c := by
        rintro rfl
        rw [ht] at h₀
        cases h₀
        exact hne hlive.id_eq.symm
      have hlive₁ : t₁.Live id' := by rw [heq hcc]; exact hlive
      refine ⟨t₁, hh.threads_of_ne (fun c₂ t₂ hc₂ ht₂ => ?_) h₁
        (by rw [hlive₁.id_eq]; exact hne), hlive₁⟩
      obtain ⟨t₃, h₃, hlive₃⟩ := hw.opened t.id c₂ hc₂
      obtain ⟨t₄, h₄, hid₄, -⟩ := hget c₂ t₃ h₃
      rw [ht₂] at h₄
      cases h₄
      rw [hid₄, hlive₃.id_eq]

/-! ### Steps -/

/-- The threads are not moved to an end, and keep their id and their `to_tx`. -/
structure Keeps (t t' : StreamThreads) : Prop where
  id_eq : t'.id = t.id
  dropped : t'.toTxDropped = t.toTxDropped
  read : t.read ≠ .finished → t'.read ≠ .finished
  write : t.write ≠ .finished → t'.write ≠ .finished

theorem Keeps.live {t t' : StreamThreads} (h : Keeps t t') (hl : t.Live id) : t'.Live id :=
  ⟨h.id_eq.trans hl.id_eq, h.dropped.trans hl.held, h.read hl.read, h.write hl.write⟩

theorem threadStep_keeps {t t' : StreamThreads} {a : ThreadAct} (h : t.step a = some t') :
    Keeps t t' := by
  cases a <;> simp only [StreamThreads.step] at h
  case readData data =>
    split at h
    · split at h <;> cases h
      exact ⟨rfl, rfl, (fun _ h => nomatch h), id⟩
    · cases h
  case readEnd result =>
    split at h <;> cases h
    exact ⟨rfl, rfl, (fun _ h => nomatch h), id⟩
  case writeOk =>
    split at h <;> cases h
    exact ⟨rfl, rfl, id, (fun _ h => nomatch h)⟩
  case writeFails n e =>
    split at h
    · split at h <;> cases h
      exact ⟨rfl, rfl, id, (fun _ h => nomatch h)⟩
    · cases h
  case takeData =>
    split at h <;> cases h
    exact ⟨rfl, rfl, id, (fun _ h => nomatch h)⟩
  case disconnected =>
    split at h
    · split at h <;> cases h
      exact ⟨rfl, rfl, id, (fun _ h => nomatch h)⟩
    · cases h

/-- A change of the threads of `c`, seen at any number. -/
theorem exists_getElem?_set {R : StreamThreads → StreamThreads → Prop} (hrefl : ∀ t, R t t)
    {threads : List StreamThreads} {c c' : Nat} {t t' t₀ : StreamThreads}
    (ht : threads[c]? = some t) (hR : R t t') (h₀ : threads[c']? = some t₀) :
    ∃ t₁, (threads.set c t')[c']? = some t₁ ∧ R t₀ t₁ := by
  by_cases hc : c = c'
  · subst hc
    rw [ht] at h₀
    cases h₀
    exact ⟨t', by rw [List.getElem?_set_self (List.getElem?_eq_some_iff.mp ht).1], hR⟩
  · exact ⟨t₀, by rw [List.getElem?_set_ne hc]; exact h₀, hrefl t₀⟩

theorem Keeps.refl (t : StreamThreads) : Keeps t t := ⟨rfl, rfl, fun h => h, fun h => h⟩

/-- The threads of `c` move without an end. -/
theorem wf_set {c : Nat} {t t' : StreamThreads} {ops : List Op} {left : Bool}
    {streams : Std.ExtTreeMap Id State} {threads : List StreamThreads}
    (hw : Wf ops left streams threads) (ht : threads[c]? = some t) (hk : Keeps t t') :
    Wf ops left streams (threads.set c t') := by
  refine ⟨fun c' data hop => ?_, hw.loop, hw.tear, fun id c' hc' => ?_⟩
  · obtain ⟨hops, t₀, h₀, hheld⟩ := hw.feed c' data hop
    obtain ⟨t₁, h₁, hkeep⟩ := exists_getElem?_set Keeps.refl ht hk h₀
    exact ⟨hops, t₁, h₁, hkeep.dropped.trans hheld⟩
  · obtain ⟨t₀, h₀, hlive⟩ := hw.opened id c' hc'
    obtain ⟨t₁, h₁, hkeep⟩ := exists_getElem?_set Keeps.refl ht hk h₀
    exact ⟨t₁, h₁, hkeep.live hlive⟩

/-- The threads of `c` change without an end. -/
theorem wf_modify {c : Nat} {f : StreamThreads → StreamThreads} {ops : List Op} {left : Bool}
    {streams : Std.ExtTreeMap Id State} {threads : List StreamThreads}
    (hw : Wf ops left streams threads) (hk : ∀ t, Keeps t (f t)) :
    Wf ops left streams (threads.modify c f) := by
  cases ht : threads[c]? with
  | none =>
    have heq : threads.modify c f = threads := by
      refine List.ext_getElem? fun i => ?_
      rw [List.getElem?_modify]
      cases hi : threads[i]? with
      | none => rfl
      | some t =>
        have hne : c ≠ i := by
          rintro rfl
          rw [ht] at hi
          cases hi
        simp [hne]
    rw [heq]
    exact hw
  | some t =>
    have heq : threads.modify c f = threads.set c (f t) := by
      refine List.ext_getElem? fun i => ?_
      rw [List.getElem?_modify, List.getElem?_set]
      by_cases hc : c = i
      · subst hc
        obtain ⟨hlt, heq⟩ := List.getElem?_eq_some_iff.mp ht
        simp [hlt, heq]
      · cases hi : threads[i]? <;> simp [hc]
    rw [heq]
    exact wf_set hw ht (hk t)

/-- One operation less. -/
theorem Wf.tail {op : Op} {ops : List Op} {left : Bool} {streams : Std.ExtTreeMap Id State}
    {threads : List StreamThreads} (hw : Wf (op :: ops) left streams threads) :
    Wf ops left streams threads := by
  refine ⟨fun c data hop => ?_, fun hl o ho => hw.loop hl o (List.mem_cons_of_mem op ho),
    fun hl => ⟨fun o ho => (hw.tear hl).1 o (List.mem_cons_of_mem op ho), (hw.tear hl).2⟩, hw.opened⟩
  have hops := (hw.feed c data (List.mem_cons_of_mem op hop)).1
  rw [(List.cons.inj hops).2] at hop
  cases hop

/-- **An operation of `tc-main` keeps the invariant.** -/
theorem perform_wf {op : Op} (hw : Wf (op :: s.ops) s.left s.streams s.threads)
    (h : s.perform op = some s') : s'.Wf := by
  have htail := hw.tail
  cases op <;> simp only [TcState.perform] at h
  case notify => cases h; exact htail
  case toQuic m => cases h; exact htail
  case toTx c data =>
    split at h
    · cases h
    · split at h
      · cases h; exact htail
      · split at h <;> cases h
        exact wf_modify htail fun t => ⟨rfl, rfl, id, id⟩
  case establish id queued =>
    cases h
    have hno : ∀ c data, Op.toTx c data ∉ s.ops := by
      intro c data hop
      have hops := (hw.feed c data (List.mem_cons_of_mem _ hop)).1
      cases (List.cons.inj hops).1
    have hleft : s.left = false := by
      by_contra hl
      exact nomatch (hw.tear (by simpa using hl)).1 _ List.mem_cons_self
    refine ⟨fun c data hop => absurd hop (hno c data), htail.loop, fun hl => ?_, fun id' c hc => ?_⟩
    · rw [show s.left = true from hl] at hleft
      cases hleft
    · by_cases hid : id' = id
      · subst hid
        rw [show (s.setState id' (.opened s.threads.length)).streams[id']? =
          some (.opened s.threads.length) from setState_self s id' _] at hc
        cases hc
        refine ⟨.spawn id' queued, by simp, rfl, rfl, ?_, ?_⟩ <;> simp [StreamThreads.spawn]
      · have hold : s.streams[id']? = some (.opened c) := by
          rw [← setState_other s id (.opened s.threads.length) hid]
          exact hc
        obtain ⟨t, ht, hlive⟩ := htail.opened id' c hold
        refine ⟨t, ?_, hlive⟩
        rw [List.getElem?_append_left (List.getElem?_eq_some_iff.mp ht).1]
        exact ht
  case shutdown c => cases h; exact wf_modify htail fun t => ⟨rfl, rfl, id, id⟩
  case joinRead c =>
    split at h <;> cases h
    exact htail
  case joinWrite c =>
    split at h <;> cases h
    exact htail
  case dropTx c =>
    cases h
    have hleft : s.left = true := by
      by_contra hl
      exact nomatch hw.loop (by simpa using hl) _ List.mem_cons_self
    have htear := htail.tear hleft
    refine ⟨fun c data hop => ?_, htail.loop, htail.tear, fun id c hc => ?_⟩
    · exact nomatch htear.1 _ hop
    · rw [show (s.dropTx _).streams[id]? = none from htear.2 id] at hc
      cases hc

/-! ## Steps -/

/-- The stream that `tc-main` waits to feed. -/
def feeding (ops : List Op) : Option Nat := ops.head?.bind Op.feeds

def WriteThread.isReporting : WriteThread → Bool
  | .reporting _ => true
  | _ => false

/-- The channel to a write thread holds a chunk already. -/
def full (threads : List StreamThreads) (c : Nat) : Bool :=
  (threads[c]?.map fun t => !t.toTx.isEmpty).getD false

/-- A write thread waits to report its result. -/
def reportsWrite (threads : List StreamThreads) (c : Nat) : Bool :=
  (threads[c]?.map fun t => t.write.isReporting).getD false

/-- The stream is opened, its channel is full and its write thread is reporting. -/
def stalled (s : TcState) (id : Id) : Bool :=
  match s.streams[id]? with
  | some (.opened c) => full s.threads c && reportsWrite s.threads c
  | _ => false

/-- Data are taken only for a stream that is not stalled, and a write fails only while `tc-main` is
not waiting for room in the channel of its stream. -/
def Accepts (s : TcState) : Act → Prop
  | .server (some ⟨id, some (.tcpData _)⟩) => stalled s id = false
  | .thread c (.writeFails _ _) => feeding s.ops = some c → full s.threads c = false
  | _ => True

/-- What an action is taken on, and where it leads. -/
inductive Taken (tunnels : Tunnels) (s : TcState) : Act → TcState → Prop
  | allocations (sel : s.selecting = true) : Taken tunnels s .allocations s
  | leaves {a : Act} (act : a = .terminate ∨ a = .hangUp ∨ a = .quicRxGone)
      (sel : s.selecting = true) : Taken tunnels s a s.leave
  | server (msg : Option Message) (sel : s.selecting = true) :
      Taken tunnels s (.server msg) (s.handleServer tunnels msg)
  | accepted (tunnel : Nat) (sel : s.selecting = true)
      (bound : tunnels.clientBound.contains tunnel = true) :
      Taken tunnels s (.accepted tunnel)
        ({ s with accepted := fun t => if t = tunnel then s.accepted t + 1 else s.accepted t
          }.handleNewStreamEstablished tunnels ⟨tunnel, s.accepted tunnel⟩)
  | connected (i : Nat) (x : Connecting) (hx : s.connecting[i]? = some x)
      (sel : s.selecting = true) :
      Taken tunnels s (.connected i)
        ({ s with connecting := s.connecting.eraseIdx i }.handleNewStreamEstablished tunnels x.id)
  | connectFailed (i : Nat) (x : Connecting) (hx : s.connecting[i]? = some x) :
      Taken tunnels s (.connectFailed i) { s with
        connecting := s.connecting.eraseIdx i
        toServer := s.toServer ++ [closeTcpStream x.id] }
  | perform (op : Op) (ops : List Op) (s' : TcState) (hops : s.ops = op :: ops)
      (hp : { s with ops := ops }.perform op = some s') : Taken tunnels s .perform s'
  | thread (c : Nat) (b : ThreadAct) (t t' : StreamThreads) (ht : s.threads[c]? = some t)
      (hb : t.step b = some t') :
      Taken tunnels s (.thread c b) { s with threads := s.threads.set c t' }
  | forward (c : Nat) (t : StreamThreads) (data : List UInt8) (ht : s.threads[c]? = some t)
      (hread : t.read = .forwarding data) :
      Taken tunnels s (.forward c) { s with
        threads := s.threads.set c { t with read := .reading }
        toServer := s.toServer ++ [tcpData t.id data] }
  | reportRead (c : Nat) (t : StreamThreads) (result : Except IoError Unit)
      (ht : s.threads[c]? = some t) (hread : t.read = .reporting result)
      (sel : s.selecting = true) :
      Taken tunnels s (.reportRead c)
        ({ s with threads := s.threads.set c { t with read := .finished }
          }.handleStreamResult t.id)
  | reportWrite (c : Nat) (t : StreamThreads) (result : Except IoError Unit)
      (ht : s.threads[c]? = some t) (hwrite : t.write = .reporting result)
      (sel : s.selecting = true) :
      Taken tunnels s (.reportWrite c)
        ({ s with threads := s.threads.set c { t with write := .finished }
          }.handleStreamResult t.id)

theorem step_taken {a : Act} (h : s.step tunnels a = some s') : Taken tunnels s a s' := by
  cases a <;> simp only [TcState.step] at h
  case allocations =>
    split at h <;> cases h
    exact .allocations ‹_›
  case terminate =>
    split at h <;> cases h
    exact .leaves (Or.inl rfl) ‹_›
  case hangUp =>
    split at h <;> cases h
    exact .leaves (Or.inr (Or.inl rfl)) ‹_›
  case quicRxGone =>
    split at h <;> cases h
    exact .leaves (Or.inr (Or.inr rfl)) ‹_›
  case server msg =>
    split at h <;> cases h
    exact .server msg ‹_›
  case accepted tunnel =>
    split at h <;> cases h
    rename_i hs
    rw [Bool.and_eq_true] at hs
    exact .accepted tunnel hs.1 hs.2
  case connected i =>
    split at h
    · cases h
    · rename_i x hx
      split at h <;> cases h
      exact .connected i x hx ‹_›
  case connectFailed i =>
    split at h <;> cases h
    rename_i x hx
    exact .connectFailed i x hx
  case perform =>
    split at h
    · cases h
    · rename_i op ops hops
      exact .perform op ops s' hops h
  case thread c b =>
    split at h
    · cases h
    · rename_i t ht
      obtain ⟨t', hb, rfl⟩ := Option.map_eq_some_iff.mp h
      exact .thread c b t t' ht hb
  case forward c =>
    split at h
    · rename_i t ht
      split at h <;> cases h
      rename_i data hread
      exact .forward c t data ht hread
    · cases h
  case reportRead c =>
    split at h
    · rename_i t ht
      split at h
      · rename_i result hread
        split at h <;> cases h
        exact .reportRead c t result ht hread ‹_›
      · cases h
    · cases h
  case reportWrite c =>
    split at h
    · rename_i t ht
      split at h
      · rename_i result hwrite
        split at h <;> cases h
        exact .reportWrite c t result ht hwrite ‹_›
      · cases h
    · cases h

/-- What a step does to the operations, the entries and the threads. -/
inductive Stepped (s s' : TcState) (a : Act) : Prop
  | idle (ops : s'.ops = s.ops) (left : s'.left = s.left) (streams : s'.streams = s.streams)
      (threads : s'.threads = s.threads) (ok : Accepts s a)
  | handler (sel : s.selecting = true) (id : Id) (hh : Handles s s' id) (ok : Accepts s a)
  | feed (sel : s.selecting = true) (id : Id) (c : Nat) (data : List UInt8)
      (opened : s.streams[id]? = some (.opened c))
      (act : a = .server (some ⟨id, some (.tcpData data)⟩)) (eq : s' = s.send [.toTx c data])
  | leave (sel : s.selecting = true) (eq : s' = s.leave) (ok : Accepts s a)
  | perform (op : Op) (ops : List Op) (hops : s.ops = op :: ops)
      (hp : { s with ops := ops }.perform op = some s') (ok : Accepts s a)
  | thread (c : Nat) (b : ThreadAct) (t t' : StreamThreads) (ht : s.threads[c]? = some t)
      (act : a = .thread c b) (hb : t.step b = some t')
      (eq : s' = { s with threads := s.threads.set c t' })
  | forward (c : Nat) (t : StreamThreads) (data : List UInt8) (ht : s.threads[c]? = some t)
      (hread : t.read = .forwarding data)
      (eq : s' = { s with
        threads := s.threads.set c { t with read := .reading }
        toServer := s.toServer ++ [tcpData t.id data] }) (ok : Accepts s a)
  | result (sel : s.selecting = true) (c : Nat) (t t' : StreamThreads)
      (ht : s.threads[c]? = some t) (hid : t'.id = t.id)
      (eq : s' = { s with threads := s.threads.set c t' }.handleStreamResult t.id)
      (ok : Accepts s a)

theorem handleServer_stepped {msg : Option Message} (sel : s.selecting = true) :
    Stepped s (s.handleServer tunnels msg) (.server msg) := by
  match msg with
  | none =>
    refine .handler sel ⟨0, 0⟩ (handles_send fun op hop => ?_) trivial
    rw [List.mem_singleton.mp hop]
    exact ⟨rfl, rfl⟩
  | some ⟨id, some .openTcp⟩ => exact .handler sel id (handleOpen_handles tunnels s id) trivial
  | some ⟨id, some .closeTcp⟩ => exact .handler sel id (handleClose_handles s id) trivial
  | some ⟨id, some (.tcpData data)⟩ =>
    rcases handleData_cases s id data with ⟨c, hc, heq⟩ | ⟨hc, hh⟩
    · exact .feed sel id c data hc rfl heq
    · refine .handler sel id hh ?_
      show stalled s id = false
      unfold stalled
      split
      · rename_i c h
        exact absurd h (hc c)
      · rfl
  | some ⟨id, none⟩ => exact .idle rfl rfl rfl rfl trivial

theorem step_stepped {a : Act} (h : s.step tunnels a = some s') : Stepped s s' a := by
  cases step_taken h with
  | allocations sel => exact .idle rfl rfl rfl rfl trivial
  | leaves act sel =>
    refine .leave sel rfl ?_
    rcases act with rfl | rfl | rfl <;> trivial
  | server msg sel => exact handleServer_stepped sel
  | accepted tunnel sel bound =>
    have hh := handleNew_handles tunnels { s with
      accepted := fun t => if t = tunnel then s.accepted t + 1 else s.accepted t }
      ⟨tunnel, s.accepted tunnel⟩
    exact .handler sel _ ⟨hh.left, hh.ops, hh.map.imp id fun hc =>
      ⟨hc.other, hc.entry, hc.threads⟩⟩ trivial
  | connected i x hx sel =>
    have hh := handleNew_handles tunnels { s with connecting := s.connecting.eraseIdx i } x.id
    exact .handler sel _ ⟨hh.left, hh.ops, hh.map.imp id fun hc =>
      ⟨hc.other, hc.entry, hc.threads⟩⟩ trivial
  | connectFailed i x hx => exact .idle rfl rfl rfl rfl trivial
  | perform op ops s' hops hp => exact .perform op ops hops hp trivial
  | thread c b t t' ht hb => exact .thread c b t t' ht rfl hb rfl
  | forward c t data ht hread => exact .forward c t data ht hread rfl trivial
  | reportRead c t result ht hread sel =>
    exact .result sel c t { t with read := .finished } ht rfl rfl trivial
  | reportWrite c t result ht hwrite sel =>
    exact .result sel c t { t with write := .finished } ht rfl rfl trivial

/-- What the teardown does is of the teardown. -/
theorem teardown_inTeardown {x : Id × State} {op : Op} (h : op ∈ teardown x) :
    op.inTeardown = true := by
  obtain ⟨id, st⟩ := x
  cases st <;> simp only [teardown, List.mem_cons, List.not_mem_nil, or_false] at h
  case opened c => rcases h with rfl | rfl | rfl | rfl | rfl <;> rfl
  all_goals rw [h]; rfl

theorem leave_inTeardown {op : Op} (h : op ∈ s.leave.ops) : op.inTeardown = true := by
  obtain ⟨x, -, hx⟩ := List.mem_flatMap.mp h
  exact teardown_inTeardown hx

/-- **Every step keeps the invariant.** -/
theorem step_wf {a : Act} (hw : s.Wf) (h : s.step tunnels a = some s') : s'.Wf := by
  rcases step_stepped h with ⟨hops, hleft, hstreams, hthreads, -⟩ | ⟨hsel, id, hh, -⟩ |
    ⟨hsel, id, c, data, hopened, -, rfl⟩ | ⟨hsel, rfl, -⟩ | ⟨op, ops, hops, hp, -⟩ |
    ⟨c, b, t, t', ht, -, hb, rfl⟩ | ⟨c, t, data, ht, hread, rfl, -⟩ |
    ⟨hsel, c, t, t', ht, hid, rfl, -⟩
  · unfold TcState.Wf
    rw [hops, hleft, hstreams, hthreads]
    exact hw
  · obtain ⟨hops, hleft⟩ := selecting_iff.mp hsel
    exact hh.wf hw hops hleft
  · obtain ⟨-, hleft⟩ := selecting_iff.mp hsel
    refine ⟨fun c' data' hop => ?_, fun _ op hop => ?_, fun hl => ?_, hw.opened⟩
    · cases List.mem_singleton.mp hop
      obtain ⟨t, ht, hlive⟩ := hw.opened id c hopened
      exact ⟨rfl, t, ht, hlive.held⟩
    · rw [List.mem_singleton.mp hop]
      rfl
    · rw [show s.left = true from hl] at hleft
      cases hleft
  · refine ⟨fun c data hop => ?_, (fun hl => nomatch hl),
      fun _ => ⟨fun op hop => leave_inTeardown hop, fun id => by simp [TcState.leave]⟩,
      fun id c hc => ?_⟩
    · exact nomatch leave_inTeardown hop
    · simp [TcState.leave] at hc
  · unfold TcState.Wf at hw
    rw [hops] at hw
    exact perform_wf (s := { s with ops := ops }) hw hp
  · exact wf_set hw ht (threadStep_keeps hb)
  · exact wf_set hw ht ⟨rfl, rfl, (fun _ h => nomatch h), id⟩
  · obtain ⟨hops, hleft⟩ := selecting_iff.mp hsel
    exact result_wf hw hops hleft ht hid

theorem wf_initial : TcState.initial.Wf := by
  refine ⟨(fun _ _ h => nomatch h), (fun _ _ h => nomatch h), (fun h => nomatch h), fun id c hc => ?_⟩
  simp [TcState.initial] at hc

/-- The invariant holds of every reachable state. -/
theorem reachable_wf (h : Machine.Reachable (TcState.step tunnels) .initial s) : s.Wf :=
  h.invariant wf_initial fun _ _ _ hw hs => step_wf hw hs

/-! ### While `tc-main` waits -/

/-- A step of the threads of a stream while `tc-main` waits. -/
def Moves (t t' : StreamThreads) : Prop :=
  (∃ b, t.step b = some t') ∨ ∃ data, t.read = .forwarding data ∧ t' = { t with read := .reading }

/-- A read thread that reports waits for `tc-main`. -/
theorem Moves.read_reporting {t t' : StreamThreads} {r : Except IoError Unit} (h : Moves t t')
    (hr : t.read = .reporting r) : t'.read = .reporting r := by
  rcases h with ⟨b, hb⟩ | ⟨data, hread, -⟩
  · cases b <;> simp only [StreamThreads.step, hr] at hb
    case readData => cases hb
    case readEnd => cases hb
    case writeOk => split at hb <;> cases hb; rfl
    case writeFails =>
      split at hb
      · split at hb <;> cases hb
        rfl
      · cases hb
    case takeData => split at hb <;> cases hb; rfl
    case disconnected =>
      split at hb
      · split at hb <;> cases hb
        rfl
      · cases hb
  · rw [hr] at hread
    cases hread

/-- A write thread that reports waits for `tc-main`. -/
theorem Moves.write_reporting {t t' : StreamThreads} {r : Except IoError Unit} (h : Moves t t')
    (hr : t.write = .reporting r) : t'.write = .reporting r ∧ t'.toTx = t.toTx := by
  rcases h with ⟨b, hb⟩ | ⟨data, -, rfl⟩
  · cases b <;> simp only [StreamThreads.step, hr] at hb
    case readData =>
      split at hb
      · split at hb <;> cases hb
        exact ⟨rfl, rfl⟩
      · cases hb
    case readEnd => split at hb <;> cases hb; exact ⟨rfl, rfl⟩
    all_goals cases hb
  · exact ⟨hr, rfl⟩

/-- A write thread with nothing to write waits for `tc-main`, which holds its `to_tx`. -/
theorem Moves.write_receiving {t t' : StreamThreads} (h : Moves t t') (hr : t.write = .receiving)
    (htx : t.toTx = []) (hheld : t.toTxDropped = false) :
    t'.write = .receiving ∧ t'.toTx = [] ∧ t'.toTxDropped = false := by
  rcases h with ⟨b, hb⟩ | ⟨data, -, rfl⟩
  · cases b <;> simp only [StreamThreads.step, hr, htx, hheld] at hb
    case readData =>
      split at hb
      · split at hb <;> cases hb
        exact ⟨rfl, rfl, rfl⟩
      · cases hb
    case readEnd => split at hb <;> cases hb; exact ⟨rfl, rfl, rfl⟩
    all_goals cases hb
  · exact ⟨hr, htx, hheld⟩

/-- While `tc-main` waits, what the threads of a stream keep on their own stays so. -/
theorem Stepped.persist {P : StreamThreads → Prop} {a : Act} {op : Op} {ops : List Op} {c : Nat}
    {t : StreamThreads} (hP : ∀ t t', P t → Moves t t' → P t') (h : Stepped s s' a)
    (hops : s.ops = op :: ops) (hwait : { s with ops := ops }.perform op = none)
    (ht : s.threads[c]? = some t) (hPt : P t) :
    s'.ops = s.ops ∧ ∃ t', s'.threads[c]? = some t' ∧ P t' := by
  have hsel : ¬ s.selecting = true := by
    intro hs
    rw [(selecting_iff.mp hs).1] at hops
    cases hops
  have hmove : ∀ {c₀ t₀ t₁}, s.threads[c₀]? = some t₀ → Moves t₀ t₁ →
      ∃ t', (s.threads.set c₀ t₁)[c]? = some t' ∧ P t' := by
    intro c₀ t₀ t₁ h₀ hm
    obtain ⟨t', ht', hkeep⟩ := exists_getElem?_set (R := fun t t' => P t → P t') (fun _ h => h) h₀
      (fun hp => hP t₀ t₁ hp hm) ht
    exact ⟨t', ht', hkeep hPt⟩
  rcases h with ⟨hops', -, -, hthreads, -⟩ | ⟨hs, -, -, -⟩ | ⟨hs, -, -, -, -, -, -⟩ |
    ⟨hs, -, -⟩ | ⟨op', ops', hops', hp, -⟩ | ⟨c', b, t₀, t₁, h₀, -, hb, rfl⟩ |
    ⟨c', t₀, data, h₀, hread, rfl, -⟩ | ⟨hs, -, -, -, -, -, -, -⟩
  · exact ⟨hops', t, hthreads ▸ ht, hPt⟩
  · exact absurd hs hsel
  · exact absurd hs hsel
  · exact absurd hs hsel
  · rw [hops] at hops'
    cases hops'
    rw [hwait] at hp
    cases hp
  · exact ⟨rfl, hmove h₀ (Or.inl ⟨b, hb⟩)⟩
  · exact ⟨rfl, hmove h₀ (Or.inr ⟨data, hread, rfl⟩)⟩
  · exact absurd hs hsel

end ApertureC.Tunnel
