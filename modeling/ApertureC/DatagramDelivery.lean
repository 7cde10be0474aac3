import ApertureC.Datagram
import Mathlib.Data.List.Nodup
import Mathlib.Data.List.Perm.Basic
import Mathlib.Data.List.Range

/-!
# What the out-of-order transport delivers (`aperturec-channel/src/transport/datagram.rs`)

* `Stream.read`, `Stream.Wf` — what was taken of a stream; a stream delivers its content in order.
* `Inv` — every stream waits to be accepted, is read by one future, or was returned; a future holds
  what was read of its stream.
* `Live` — the `accept` branch stays enabled, and was pending when a poll of the `select!` ends.
* `Delivers` — accepted streams are returned or pending, each once; data is whole.

Principal results: `Effect.inv`, `step_live` and `delivers_once` (**each stream is delivered whole
and at most once**, whatever the senders, the network and the callers of `receive` do).
-/

set_option autoImplicit false

namespace ApertureC.Datagram

variable {ε : Type}

/-! ## Streams -/

namespace Stream

variable {st st' : Stream ε}

/-- The chunks taken so far. -/
def read (st : Stream ε) : List UInt8 := (st.chunks.take st.taken).flatten

/-- The stream has not failed. -/
def Intact (st : Stream ε) : Prop := ∀ e, st.ended ≠ some (.error e)

/-- A stream delivers its content in order, and all of it before it ends. -/
structure Wf (st : Stream ε) : Prop where
  arrived : st.arrived <+: st.content
  clean : st.ended = some .clean → st.arrived = st.content
  taken : st.taken ≤ st.chunks.length

theorem read_take {chunk : List UInt8} (h : st.chunks[st.taken]? = some chunk) :
    ({ st with taken := st.taken + 1 } : Stream ε).read = st.read ++ chunk := by
  show (st.chunks.take (st.taken + 1)).flatten = _
  rw [List.take_add_one, h, List.flatten_append]
  simp [read]

/-- At the end of a stream everything that arrived has been read. -/
theorem read_eq_arrived (h : st.chunks[st.taken]? = none) : st.read = st.arrived := by
  rw [read, List.take_of_length_le (List.getElem?_eq_none_iff.mp h), arrived]

theorem Wf.take {chunk : List UInt8} (h : st.Wf) (hc : st.chunks[st.taken]? = some chunk) :
    ({ st with taken := st.taken + 1 } : Stream ε).Wf :=
  ⟨h.arrived, h.clean, (List.getElem?_eq_some_iff.mp hc).choose⟩

end Stream

namespace Transport

variable {s s' : Transport ε} {st st' : Stream ε}

theorem Grows.wf (hg : Grows st st') (he : st.ended = none) (h : st.Wf) : st'.Wf := by
  cases hg with
  | chunk n =>
    refine ⟨?_, ?_, ?_⟩
    · obtain ⟨rest, hrest⟩ := h.arrived
      have hdrop : st.content.drop st.arrived.length = rest := by
        rw [← hrest, List.drop_left]
      refine ⟨rest.drop n, ?_⟩
      show (st.chunks ++ [(st.content.drop st.arrived.length).take n]).flatten ++ _ = _
      rw [hdrop, List.flatten_append, List.flatten_singleton, List.append_assoc,
        List.take_append_drop]
      exact hrest
    · intro hclean
      rw [show st.ended = some .clean from hclean] at he
      cases he
    · exact h.taken.trans (by simp)
  | clean hc => exact ⟨h.arrived, fun _ => hc, h.taken⟩
  | error e n hn =>
    refine ⟨h.arrived, ?_, ?_⟩
    · intro hclean
      cases hclean
    · obtain hn | hn := hn
      · exact hn
      · exact hn.trans_le h.taken

/-- What the receiver has taken of a stream stays the same as long as it does not fail. -/
theorem Grows.intact (hg : Grows st st') (h : st.Wf) (hi : st'.Intact) :
    st'.taken = st.taken ∧ st'.read = st.read := by
  cases hg with
  | chunk n =>
    refine ⟨rfl, ?_⟩
    show (List.take st.taken (st.chunks ++ _)).flatten = _
    rw [List.take_append_of_le_length h.taken]
    rfl
  | clean hc => exact ⟨rfl, rfl⟩
  | error e n hn => exact absurd rfl (hi e)

/-! ## The invariant -/

/-- What holds between two steps. -/
structure Inv (s : Transport ε) : Prop where
  streams : ∀ (i : Nat) (st : Stream ε), s.streams[i]? = some st → st.Wf
  opened : (s.incoming ++ s.accepted).Perm (List.range s.streams.length)
  accepted : s.accepted.Perm (s.returned ++ s.rxStreams.map RxFuture.stream)
  fresh : ∀ i ∈ s.incoming, ∀ st : Stream ε, s.streams[i]? = some st → st.Intact → st.taken = 0
  data : ∀ f ∈ s.rxStreams, ∀ st : Stream ε, s.streams[f.stream]? = some st → st.Intact →
    f.data = st.read
  whole : ∀ i data, (some i, .ok data) ∈ s.results →
    ∃ st : Stream ε, s.streams[i]? = some st ∧ st.ended = some .clean ∧ data = st.content
  origin : ∀ data, (none, .ok data) ∉ s.results

/-- A stream waits, is read or was returned, and only one of these. -/
theorem Inv.nodup (h : s.Inv) :
    (s.incoming ++ (s.returned ++ s.rxStreams.map RxFuture.stream)).Nodup := by
  have hperm := (h.accepted.append_left s.incoming).symm.trans h.opened
  exact hperm.nodup_iff.mpr List.nodup_range

theorem Inv.not_incoming (h : s.Inv) {j : Nat} {f : RxFuture} (hj : s.rxStreams[j]? = some f) :
    f.stream ∉ s.incoming := by
  intro hmem
  have hmap : f.stream ∈ s.returned ++ s.rxStreams.map RxFuture.stream :=
    List.mem_append_right _ (List.mem_map_of_mem (List.mem_of_getElem? hj))
  exact List.disjoint_of_nodup_append h.nodup hmem hmap

/-- The futures own different streams. -/
theorem Inv.stream_inj (h : s.Inv) {j j' : Nat} {f f' : RxFuture}
    (hj : s.rxStreams[j]? = some f) (hj' : s.rxStreams[j']? = some f')
    (hs : f'.stream = f.stream) : j' = j := by
  have hnd : (s.rxStreams.map RxFuture.stream).Nodup :=
    (List.nodup_append.mp (List.nodup_append.mp h.nodup).2.1).2.1
  have hlt' : j' < (s.rxStreams.map RxFuture.stream).length := by
    rw [List.length_map]
    exact (List.getElem?_eq_some_iff.mp hj').choose
  apply (List.getElem?_inj hlt' hnd).mp
  rw [List.getElem?_map, List.getElem?_map, hj, hj']
  exact congrArg some hs

theorem Inv.lt_of_mem (h : s.Inv) {i : Nat} (hi : i ∈ s.incoming ++ s.accepted) :
    i < s.streams.length := List.mem_range.mp (h.opened.mem_iff.mp hi)

theorem inv_init : (init : Transport ε).Inv where
  streams := by simp [init]
  opened := List.Perm.refl _
  accepted := List.Perm.refl _
  fresh := by simp [init]
  data := by simp [init]
  whole := by simp [init]
  origin := by simp [init]

theorem intact_of_none (h : st.ended = none) : st.Intact := by
  intro e he
  rw [h] at he
  cases he

theorem getElem?_set_stream {streams : List (Stream ε)} {i k : Nat} {new : Stream ε}
    (h : (streams.set i new)[k]? = some st) :
    (k = i ∧ st = new) ∨ (k ≠ i ∧ streams[k]? = some st) := by
  rw [List.getElem?_set] at h
  split at h
  · rename_i hik
    split at h
    · cases h
      exact Or.inl ⟨hik.symm, rfl⟩
    · cases h
  · rename_i hik
    exact Or.inr ⟨Ne.symm hik, h⟩

/-- A sender opens a stream. -/
theorem Inv.opens (h : s.Inv) (content : List UInt8) :
    ({ s with
      streams := s.streams ++ [⟨content, [], 0, none⟩]
      incoming := s.incoming ++ [s.streams.length] } : Transport ε).Inv := by
  have hold : ∀ (i : Nat) (st : Stream ε), (s.streams ++ [⟨content, [], 0, none⟩])[i]? = some st →
      s.streams[i]? = some st ∨ (i = s.streams.length ∧ st = ⟨content, [], 0, none⟩) := by
    intro i st hi
    by_cases hlt : i < s.streams.length
    · rw [List.getElem?_append_left hlt] at hi
      exact Or.inl hi
    · have hlen := (List.getElem?_eq_some_iff.mp hi).choose
      rw [List.length_append, List.length_singleton] at hlen
      have heq : i = s.streams.length := by omega
      subst heq
      rw [List.getElem?_concat_length] at hi
      exact Or.inr ⟨rfl, (Option.some.inj hi).symm⟩
  refine ⟨?_, ?_, h.accepted, ?_, ?_, ?_, h.origin⟩
  · intro i st hi
    obtain hi | ⟨-, rfl⟩ := hold i st hi
    · exact h.streams i st hi
    · exact ⟨List.nil_prefix, fun hc => (nomatch hc), Nat.le_refl 0⟩
  · show ((s.incoming ++ [s.streams.length]) ++ s.accepted).Perm (List.range (_ ++ [_]).length)
    rw [List.length_append, List.length_singleton, List.range_succ, List.append_assoc]
    calc (s.incoming ++ ([s.streams.length] ++ s.accepted)).Perm
          (s.incoming ++ (s.accepted ++ [s.streams.length])) :=
            List.perm_append_comm.append_left _
      _ = (s.incoming ++ s.accepted) ++ [s.streams.length] := (List.append_assoc _ _ _).symm
      _ |>.Perm (List.range s.streams.length ++ [s.streams.length]) :=
            h.opened.append_right _
  · intro i hi st hst hint
    obtain hst | ⟨-, rfl⟩ := hold i st hst
    · rcases List.mem_append.mp hi with hi | hi
      · exact h.fresh i hi st hst hint
      · have hlt := (List.getElem?_eq_some_iff.mp hst).choose
        rw [List.mem_singleton.mp hi] at hlt
        omega
    · rfl
  · intro f hf st hst hint
    obtain hst | ⟨heq, -⟩ := hold f.stream st hst
    · exact h.data f hf st hst hint
    · have hmem : f.stream ∈ s.accepted :=
        h.accepted.mem_iff.mpr (List.mem_append_right _ (List.mem_map_of_mem hf))
      have := h.lt_of_mem (List.mem_append_right _ hmem)
      omega
  · intro i data hmem
    obtain ⟨st, hst, hrest⟩ := h.whole i data hmem
    have hlt := (List.getElem?_eq_some_iff.mp hst).choose
    exact ⟨st, by rw [List.getElem?_append_left hlt]; exact hst, hrest⟩

/-- A stream that has not ended goes on, or ends. -/
theorem Inv.grows (h : s.Inv) {i : Nat} (hi : s.streams[i]? = some st) (he : st.ended = none)
    (hg : Grows st st') : ({ s with streams := s.streams.set i st' } : Transport ε).Inv := by
  have hwf := h.streams i st hi
  refine ⟨?_, ?_, h.accepted, ?_, ?_, ?_, h.origin⟩
  · intro k st₁ hk
    obtain ⟨-, rfl⟩ | ⟨-, hk⟩ := getElem?_set_stream hk
    · exact hg.wf he hwf
    · exact h.streams k st₁ hk
  · show (s.incoming ++ s.accepted).Perm (List.range (s.streams.set i st').length)
    rw [List.length_set]
    exact h.opened
  · intro k hk st₁ hst hint
    obtain ⟨rfl, rfl⟩ | ⟨-, hst⟩ := getElem?_set_stream hst
    · rw [(hg.intact hwf hint).1]
      exact h.fresh k hk st hi (intact_of_none he)
    · exact h.fresh k hk st₁ hst hint
  · intro f hf st₁ hst hint
    obtain ⟨heq, rfl⟩ | ⟨-, hst⟩ := getElem?_set_stream hst
    · rw [(hg.intact hwf hint).2]
      exact h.data f hf st (by rw [heq]; exact hi) (intact_of_none he)
    · exact h.data f hf st₁ hst hint
  · intro k data hmem
    obtain ⟨st₁, hst, hclean, hdata⟩ := h.whole k data hmem
    have hne : i ≠ k := by
      -- a stream that was returned has ended
      rintro rfl
      rw [hi] at hst
      cases hst
      rw [he] at hclean
      cases hclean
    exact ⟨st₁, by rw [List.getElem?_set_ne hne]; exact hst, hclean, hdata⟩

/-- A stream is accepted. -/
theorem Inv.accepts (h : s.Inv) {k i : Nat} (hk : s.incoming[k]? = some i) (pc : Pc) :
    ({ s with
      incoming := s.incoming.eraseIdx k
      rxStreams := s.rxStreams ++ [RxFuture.mk i []]
      accepted := s.accepted ++ [i]
      pc := pc } : Transport ε).Inv := by
  obtain ⟨hlt, hget⟩ := List.getElem?_eq_some_iff.mp hk
  have hi : i ∈ s.incoming := List.mem_of_getElem? hk
  have herase : (i :: s.incoming.eraseIdx k).Perm s.incoming := by
    rw [← hget]
    exact List.getElem_cons_eraseIdx_perm hlt
  refine ⟨h.streams, ?_, ?_, ?_, ?_, h.whole, h.origin⟩
  · show (s.incoming.eraseIdx k ++ (s.accepted ++ [i])).Perm _
    refine List.Perm.trans ?_ h.opened
    calc (s.incoming.eraseIdx k ++ (s.accepted ++ [i])).Perm
          (s.incoming.eraseIdx k ++ ([i] ++ s.accepted)) := List.perm_append_comm.append_left _
      _ |>.Perm (i :: s.incoming.eraseIdx k ++ s.accepted) := List.perm_middle
      _ |>.Perm (s.incoming ++ s.accepted) := herase.append_right _
  · show (s.accepted ++ [i]).Perm (s.returned ++ (s.rxStreams ++ [RxFuture.mk i []]).map _)
    rw [List.map_append, ← List.append_assoc]
    exact h.accepted.append_right [i]
  · intro i' hi' st hst hint
    exact h.fresh i' (List.mem_of_mem_eraseIdx hi') st hst hint
  · intro f hf st hst hint
    rcases List.mem_append.mp hf with hf | hf
    · exact h.data f hf st hst hint
    · rw [List.mem_singleton.mp hf] at hst ⊢
      have hzero := h.fresh i hi st hst hint
      rw [Stream.read, hzero]
      rfl

/-- A future that takes data keeps its stream. -/
theorem map_stream_set {fs : List RxFuture} {j : Nat} {f : RxFuture} (hj : fs[j]? = some f)
    {data : List UInt8} :
    (fs.set j { f with data := data }).map RxFuture.stream = fs.map RxFuture.stream := by
  obtain ⟨hlt, rfl⟩ := List.getElem?_eq_some_iff.mp hj
  rw [List.map_set]
  apply List.ext_getElem?
  intro k
  rw [List.getElem?_set]
  split
  · rename_i hjk
    subst hjk
    simp [hlt]
  · rfl

/-- A future takes a chunk. -/
theorem Inv.reads (h : s.Inv) {j : Nat} {f : RxFuture} {chunk : List UInt8}
    (hj : s.rxStreams[j]? = some f) (hst : s.streams[f.stream]? = some st)
    (hc : st.chunks[st.taken]? = some chunk) :
    ({ s with
      rxStreams := s.rxStreams.set j { f with data := f.data ++ chunk }
      streams := s.streams.set f.stream { st with taken := st.taken + 1 } } : Transport ε).Inv := by
  refine ⟨?_, ?_, ?_, ?_, ?_, ?_, h.origin⟩
  · intro k st₁ hk
    obtain ⟨-, rfl⟩ | ⟨-, hk⟩ := getElem?_set_stream hk
    · exact (h.streams _ st hst).take hc
    · exact h.streams k st₁ hk
  · show (s.incoming ++ s.accepted).Perm (List.range (s.streams.set f.stream _).length)
    rw [List.length_set]
    exact h.opened
  · show s.accepted.Perm (s.returned ++ _)
    rw [map_stream_set hj]
    exact h.accepted
  · intro i hi st₁ hst₁ hint
    obtain ⟨rfl, -⟩ | ⟨-, hst₁⟩ := getElem?_set_stream hst₁
    · exact absurd hi (h.not_incoming hj)
    · exact h.fresh i hi st₁ hst₁ hint
  · intro f' hf' st₁ hst₁ hint
    obtain ⟨j', hj'⟩ := List.getElem?_of_mem hf'
    rw [List.getElem?_set] at hj'
    split at hj'
    · split at hj'
      · cases hj'
        -- the future that was polled
        obtain ⟨-, rfl⟩ | ⟨hne, -⟩ := getElem?_set_stream hst₁
        · rw [Stream.read_take hc]
          exact congrArg (· ++ chunk) (h.data f (List.mem_of_getElem? hj) st hst hint)
        · exact absurd rfl hne
      · cases hj'
    · rename_i hne
      -- another future owns another stream
      obtain ⟨heq, -⟩ | ⟨-, hst₁⟩ := getElem?_set_stream hst₁
      · exact absurd (h.stream_inj hj hj' heq).symm hne
      · exact h.data f' (List.mem_of_getElem? hj') st₁ hst₁ hint
  · intro k data hmem
    obtain ⟨st₁, hst₁, hrest⟩ := h.whole k data hmem
    by_cases hk : f.stream = k
    · subst hk
      rw [hst] at hst₁
      cases hst₁
      exact ⟨{ st with taken := st.taken + 1 },
        List.getElem?_set_self (List.getElem?_eq_some_iff.mp hst).choose, hrest⟩
    · exact ⟨st₁, by rw [List.getElem?_set_ne hk]; exact hst₁, hrest⟩

/-- A future is done: its stream passes from the pending ones to the returned ones. -/
theorem Inv.returns (h : s.Inv) {j : Nat} {f : RxFuture} (hj : s.rxStreams[j]? = some f)
    (res : Except (RxError ε) (List UInt8))
    (hres : ∀ data, res = .ok data → ∃ st : Stream ε, s.streams[f.stream]? = some st ∧
      st.ended = some .clean ∧ data = st.content) :
    ({ s with
      rxStreams := s.rxStreams.eraseIdx j
      pc := .idle
      results := s.results ++ [(some f.stream, res)] } : Transport ε).Inv := by
  obtain ⟨hlt, hget⟩ := List.getElem?_eq_some_iff.mp hj
  refine ⟨h.streams, h.opened, ?_, h.fresh, ?_, ?_, ?_⟩
  · have herase : (f.stream :: (s.rxStreams.eraseIdx j).map RxFuture.stream).Perm
        (s.rxStreams.map RxFuture.stream) := by
      have := (List.getElem_cons_eraseIdx_perm hlt).map RxFuture.stream
      rwa [List.map_cons, hget] at this
    have hret : ({ s with
        rxStreams := s.rxStreams.eraseIdx j
        pc := .idle
        results := s.results ++ [(some f.stream, res)] } : Transport ε).returned =
        s.returned ++ [f.stream] := List.filterMap_append
    show s.accepted.Perm (_ ++ _)
    rw [hret, List.append_assoc]
    exact h.accepted.trans (herase.symm.append_left _)
  · intro f' hf' st hst hint
    exact h.data f' (List.mem_of_mem_eraseIdx hf') st hst hint
  · intro i data hmem
    rcases List.mem_append.mp hmem with hmem | hmem
    · exact h.whole i data hmem
    · rw [List.mem_singleton, Prod.mk.injEq, Option.some.injEq] at hmem
      obtain ⟨rfl, hdata⟩ := hmem
      exact hres data hdata.symm
  · intro data hmem
    rcases List.mem_append.mp hmem with hmem | hmem
    · exact h.origin data hmem
    · rw [List.mem_singleton, Prod.mk.injEq] at hmem
      cases hmem.1

/-- `accept` fails: no stream is touched. -/
theorem Inv.fails (h : s.Inv) (e : RxError ε) :
    ({ s with pc := .idle, results := s.results ++ [(none, .error e)] } : Transport ε).Inv := by
  refine ⟨h.streams, h.opened, ?_, h.fresh, h.data, ?_, ?_⟩
  · have hret : ({ s with pc := .idle, results := s.results ++ [(none, .error e)] } :
        Transport ε).returned = s.returned := by
      simp [returned]
    rw [hret]
    exact h.accepted
  · intro i data hmem
    rcases List.mem_append.mp hmem with hmem | hmem
    · exact h.whole i data hmem
    · rw [List.mem_singleton, Prod.mk.injEq] at hmem
      cases hmem.1
  · intro data hmem
    rcases List.mem_append.mp hmem with hmem | hmem
    · exact h.origin data hmem
    · rw [List.mem_singleton, Prod.mk.injEq] at hmem
      cases hmem.2

/-- **Every step keeps the invariant.** -/
theorem Effect.inv (he : Effect s s') (h : s.Inv) : s'.Inv := by
  cases he with
  | quiet pc closed =>
    exact ⟨h.streams, h.opened, h.accepted, h.fresh, h.data, h.whole, h.origin⟩
  | opens content => exact h.opens content
  | grows i st st' hi hnone hg => exact h.grows hi hnone hg
  | accepts k i pc hk => exact h.accepts hk pc
  | reads j f st chunk hj hst hc => exact h.reads hj hst hc
  | completes j f st hj hst hc hclean =>
    apply h.returns hj
    intro data hdata
    cases hdata
    refine ⟨st, hst, hclean, ?_⟩
    have hint : st.Intact := by
      intro e he
      rw [hclean] at he
      cases he
    rw [h.data f (List.mem_of_getElem? hj) st hst hint, Stream.read_eq_arrived hc]
    exact (h.streams _ st hst).clean hclean
  | breaks j f e hj =>
    apply h.returns hj
    intro data hdata
    cases hdata
  | fails e => exact h.fails e

/-! ## The select -/

/-- `accept` stays enabled, and is pending once it was polled. -/
def Live : Pc → Prop
  | .idle => True
  | .select sel _ => sel.accept = true
  | .polling sel pending todo => sel.accept = true ∧ (Branch.accept ∈ todo ∨ pending = true)
  | .unreachable => False

theorem pollBranch_live {sel : Select} {pending : Bool} {b : Branch} {todo : List Branch}
    {a : Act ε} (hpc : s.pc = .polling sel pending (b :: todo)) (hl : Live s.pc)
    (h : s.pollBranch sel pending b todo a = some s') : Live s'.pc := by
  unfold pollBranch at h
  split at h
  · split at h
    · unfold acceptStream at h
      split at h
      · cases h
      · cases h
        exact rfl
    · cases h
  · split at h
    · split at h
      · cases h
      · cases h
        exact trivial
    · cases h
  · split at h
    · cases h
      rw [hpc] at hl
      exact ⟨hl.1, Or.inr rfl⟩
    · cases h
  · split at h
    · unfold pollFuture at h
      split at h
      · cases h
      · split at h
        · cases h
        · split at h
          · cases h
            exact hl
          · cases h
            exact hl
          · cases h
            exact trivial
    · cases h
  · split at h
    · cases h
      rw [hpc] at hl
      exact ⟨hl.1, Or.inr rfl⟩
    · cases h
  · split at h
    · rename_i hb
      cases h
      rw [hpc, hb.1] at hl
      obtain ⟨hsel, hmem | hpend⟩ := hl
      · obtain hmem | hmem := List.mem_cons.mp hmem
        · cases hmem
        · exact ⟨hsel, Or.inl hmem⟩
      · exact ⟨hsel, Or.inr hpend⟩
    · cases h
  · cases h

theorem changeStream_pc {i : Nat} {f : Stream ε → Option (Stream ε)}
    (h : s.changeStream i f = some s') : s'.pc = s.pc := by
  unfold changeStream at h
  split at h
  · cases h
  · split at h
    · obtain ⟨st', -, rfl⟩ := Option.map_eq_some_iff.mp h
      rfl
    · cases h

/-- **`receive` never comes to its `else` arm.** -/
theorem step_live {a : Act ε} (hl : Live s.pc) (h : s.step a = some s') : Live s'.pc := by
  cases a with
  | opens content =>
    cases h
    exact hl
  | arrives | finishes | fails =>
    rw [changeStream_pc h]
    exact hl
  | closes e =>
    simp only [step] at h
    split at h
    · cases h
      exact hl
    · cases h
  | call =>
    simp only [step] at h
    split at h
    · cases h
      exact rfl
    · cases h
  | poll acceptFirst =>
    simp only [step] at h
    split at h
    · rename_i sel suspended hpc
      cases h
      rw [hpc] at hl
      refine ⟨hl, Or.inl ?_⟩
      cases acceptFirst <;> decide
    · cases h
  | skip =>
    simp only [step] at h
    split at h
    · rename_i sel pending b todo hpc
      split at h
      · cases h
      · rename_i hoff
        cases h
        rw [hpc] at hl
        obtain ⟨hsel, hmem | hpend⟩ := hl
        · obtain rfl | hmem := List.mem_cons.mp hmem
          · exact absurd hsel hoff
          · exact ⟨hsel, Or.inl hmem⟩
        · exact ⟨hsel, Or.inr hpend⟩
    · cases h
  | endPoll =>
    simp only [step] at h
    split at h
    · rename_i sel pending hpc
      cases h
      rw [hpc] at hl
      obtain ⟨hsel, hmem | hpend⟩ := hl
      · cases hmem
      · rw [hpend]
        exact hsel
    · cases h
  | yield =>
    simp only [step] at h
    split at h
    · rename_i sel suspended hpc
      cases h
      rw [hpc] at hl
      exact hl
    · cases h
  | abandon =>
    simp only [step] at h
    split at h
    · cases h
      exact trivial
    · cases h
  | accepts | acceptFails | acceptPends | future | nextPends | nextNone =>
    simp only [step] at h
    split at h
    · rename_i sel pending b todo hpc
      split at h
      · exact pollBranch_live hpc hl h
      · cases h
    · cases h

/-! ## What the transport delivers -/

/-- The accepted streams are the returned and the pending ones, each once; data is the whole content
of a stream that has ended cleanly; and `receive` is not in its `else` arm. -/
structure Delivers (s : Transport ε) : Prop where
  accounted : s.accepted.Perm (s.returned ++ s.rxStreams.map RxFuture.stream)
  once : (s.returned ++ s.rxStreams.map RxFuture.stream).Nodup
  whole : ∀ i data, (i, .ok data) ∈ s.results → ∃ k st, i = some k ∧
    s.streams[k]? = some st ∧ st.ended = some .clean ∧ data = st.content
  reachable : s.pc ≠ .unreachable

theorem Inv.delivers (h : s.Inv) (hl : Live s.pc) : s.Delivers := by
  refine ⟨h.accepted, (List.nodup_append.mp h.nodup).2.1, ?_, ?_⟩
  · intro i data hmem
    cases i with
    | none => exact absurd hmem (h.origin data)
    | some k =>
      obtain ⟨st, hst⟩ := h.whole k data hmem
      exact ⟨k, st, rfl, hst⟩
  · intro hpc
    rw [hpc] at hl
    exact hl

/-- **Every stream is delivered whole and at most once**, whatever the senders, the network and the
callers of `receive` do. -/
theorem delivers_once (acts : List (Act ε)) :
    Machine.Always step (fun s : Transport ε => s.Delivers) init acts := by
  have hinv : Machine.Always step (fun s : Transport ε => s.Inv ∧ Live s.pc) init acts := by
    apply Machine.always_of_invariant
    · rintro s a s' ⟨hi, hl⟩ h
      exact ⟨(step_effect h).inv hi, step_live hl h⟩
    · exact ⟨inv_init, trivial⟩
  exact hinv.mono fun s h => h.1.delivers h.2

/-- The second of two streams ends first; the call that read half of the first one was abandoned. -/
example : ((Machine.run step (init : Transport Unit)
    [.opens [1, 2, 3], .opens [4, 5], .call, .poll true, .accepts 0, .arrives 0 2, .poll false,
      .future 0, .nextPends, .acceptPends, .endPoll, .abandon, .call, .poll true, .accepts 0,
      .arrives 1 2, .finishes 1, .poll false, .future 1, .arrives 0 1, .future 1, .call,
      .finishes 0, .poll false, .future 0, .future 0]).map results) =
    some [(some 1, .ok [4, 5]), (some 0, .ok [1, 2, 3])] := rfl

end Transport

end ApertureC.Datagram
