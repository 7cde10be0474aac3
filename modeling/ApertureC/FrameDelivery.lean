import ApertureC.FrameStages

/-!
# Delivery of one frame

The messages of a frame reach a fresh framer in any order.

* `DecoderMessages`, `FrameMessages` — what the server sends of a frame: per decoder one empty
  terminal, or fragments numbered from zero of which the last is terminal.
* `Pending` — the state of a decoder when given messages of it are still to come.
* `reportAll`, `Completed` — hand the messages over, and the outcome that is wanted of it.

Principal results: `Pending.mark` (one message), `markAll_complete_iff` (a decoder's fragments, in
any order, complete its frame at the last one) and `completed_iff_last_terminal` — the frame ends
complete and drawn exactly when the last message handed over is a terminal.
-/

set_option autoImplicit false

namespace ApertureC

open Geometry

def Report.decoder : Report → Nat
  | .fragment e => e.decoder
  | .emptyTerminal t => t.encoder

def Report.frame : Report → Nat
  | .fragment e => e.frame
  | .emptyTerminal t => t.frame

/-- The message is an empty frame terminal or a terminal fragment. -/
def Report.isTerminal : Report → Bool
  | .fragment e => e.terminal
  | .emptyTerminal _ => true

/-- The decoded fragment of a message, if it is one. -/
def Report.decoded (codecs : Codecs) : Report → Option DecodedFragmentData
  | .fragment e => (e.decode codecs).toOption
  | .emptyTerminal _ => none

def Report.fragment? : Report → Option EncodedFragmentData
  | .fragment e => some e
  | .emptyTerminal _ => none

/-- The messages of frame `frame` for decoder `i`, as the server produces them. -/
inductive DecoderMessages (codecs : Codecs) (frame i : Nat) : List Report → Prop
  | empty (t : EmptyFrameTerminal) (hframe : t.frame = frame) (hdecoder : t.encoder = i) :
      DecoderMessages codecs frame i [.emptyTerminal t]
  | fragments (es : List EncodedFragmentData) (hne : es ≠ [])
      (hes : ∀ j (hj : j < es.length), es[j].frame = frame ∧ es[j].decoder = i ∧
        es[j].sequence = j ∧ (es[j].terminal = true ↔ j + 1 = es.length) ∧
        (es[j].decode codecs).isOk = true) :
      DecoderMessages codecs frame i (es.map .fragment)

/-- All messages of a frame for `k` decoders, in any order. -/
def FrameMessages (codecs : Codecs) (frame k : Nat) (msgs : List Report) : Prop :=
  ∃ shares : List (List Report), shares.length = k ∧
    (∀ i (hi : i < shares.length), DecoderMessages codecs frame i shares[i]) ∧
    msgs.Perm shares.flatten

/-- Hand over a list of messages; the first failing call ends it. -/
def reportAll (codecs : Codecs) : DisplayFramer → List Report → Except Failure Unit × DisplayFramer
  | df, [] => (.ok (), df)
  | df, m :: msgs =>
    match df.report codecs m with
    | (.ok (), df) => reportAll codecs df msgs
    | (.error e, df) => (.error e, df)

/-- No call failed; the frame is complete and in no other stage, and exactly its fragments are
queued for drawing. -/
def Completed (codecs : Codecs) (frame : Nat) (msgs : List Report)
    (res : Except Failure Unit × DisplayFramer) : Prop :=
  res.1 = .ok () ∧ frame ∈ res.2.complete ∧ frame ∉ res.2.inFlight ∧ frame ∉ res.2.earlyDraw ∧
    res.2.undrawnFragments.Perm (msgs.filterMap (Report.decoded codecs))

/-! ## One decoder -/

/-- The change of a decoder's state by one message. -/
def DecoderFrameState.mark (st : DecoderFrameState) : Report → Except FrameError DecoderFrameState
  | .fragment e => st.markSequenceReceived e.sequence e.terminal
  | .emptyTerminal _ => st.markEmptyFrameTerminalReceived

def sequences (es : List EncodedFragmentData) : List Nat := es.map fun e => e.sequence

/-- The state of a decoder of which exactly the given messages are still to come. -/
inductive Pending : DecoderFrameState → List Report → Prop
  | complete : Pending .complete []
  | empty (t : EmptyFrameTerminal) : Pending (.inFlight ∅) [.emptyTerminal t]
  | inFlight {received : Finset Nat} {es : List EncodedFragmentData} (n : Nat)
      (hsub : received ⊆ Finset.range n) (hterm : ∀ e ∈ es, (e.terminal = true ↔ e.sequence = n))
      (hnodup : (sequences es).Nodup) (hmem : ∀ j, j ∈ sequences es ↔ j ≤ n ∧ j ∉ received) :
      Pending (.inFlight received) (es.map .fragment)
  | terminated {missing : Finset Nat} {es : List EncodedFragmentData} (hne : missing.Nonempty)
      (hterm : ∀ e ∈ es, e.terminal = false) (hnodup : (sequences es).Nodup)
      (hmem : ∀ j, j ∈ sequences es ↔ j ∈ missing) :
      Pending (.terminatedIncomplete missing) (es.map .fragment)

theorem sequences_nodup_cons {e : EncodedFragmentData} {es : List EncodedFragmentData}
    (h : (sequences (e :: es)).Nodup) : e.sequence ∉ sequences es ∧ (sequences es).Nodup :=
  List.nodup_cons.mp h

theorem sequences_eq_nil {es : List EncodedFragmentData} (h : ∀ j, j ∉ sequences es) : es = [] := by
  cases es with
  | nil => rfl
  | cons e es => exact absurd List.mem_cons_self (h e.sequence)

/-- A decoder is complete exactly when nothing more is to come. -/
theorem Pending.complete_iff {st : DecoderFrameState} {rem : List Report} (h : Pending st rem) :
    st = .complete ↔ rem = [] := by
  cases h with
  | complete => exact ⟨fun _ => rfl, fun _ => rfl⟩
  | empty t => exact ⟨(fun h => nomatch h), (fun h => nomatch h)⟩
  | inFlight n hsub hterm hnodup hmem =>
    refine ⟨(fun h => nomatch h), fun h => ?_⟩
    have hn : n ∈ sequences _ := (hmem n).mpr ⟨le_refl n, fun hr => by simpa using hsub hr⟩
    rw [List.map_eq_nil_iff] at h
    rw [h] at hn
    cases hn
  | terminated hne hterm hnodup hmem =>
    refine ⟨(fun h => nomatch h), fun h => ?_⟩
    obtain ⟨j, hj⟩ := hne
    have hn := (hmem j).mpr hj
    rw [List.map_eq_nil_iff] at h
    rw [h] at hn
    cases hn

/-- What is to come once `e` has arrived. -/
theorem mem_sequences_tail {e : EncodedFragmentData} {es : List EncodedFragmentData}
    {P : Nat → Prop} (hnodup : (sequences (e :: es)).Nodup)
    (hmem : ∀ j, j ∈ sequences (e :: es) ↔ P j) (j : Nat) :
    j ∈ sequences es ↔ P j ∧ j ≠ e.sequence := by
  have hfresh := (sequences_nodup_cons hnodup).1
  rw [← hmem j]
  constructor
  · intro hj
    exact ⟨List.mem_cons_of_mem _ hj, fun heq => hfresh (by rwa [heq] at hj)⟩
  · intro ⟨h₁, h₂⟩
    rcases List.mem_cons.mp h₁ with h | h
    · exact absurd h h₂
    · exact h

/-- The terminal has arrived: the decoder waits for the sequences below it. -/
theorem Pending.ofTerminal {received : Finset Nat} {es : List EncodedFragmentData} {n : Nat}
    (hsub : received ⊆ Finset.range (n + 1)) (hn : n ∈ received)
    (hterm : ∀ e ∈ es, e.terminal = false) (hnodup : (sequences es).Nodup)
    (hmem : ∀ j, j ∈ sequences es ↔ j ≤ n ∧ j ∉ received) :
    Pending (if RangeSet.IsInitial received then .complete
      else .terminatedIncomplete (Finset.range (n + 1) \ received)) (es.map .fragment) := by
  split
  · rename_i hinit
    obtain ⟨m, hm⟩ := (RangeSet.isInitial_iff _).mp hinit
    have hnm : n < m + 1 := by
      rw [← Finset.mem_range, ← hm]
      exact hn
    have hnil : es = [] := by
      refine sequences_eq_nil fun j hj => ?_
      obtain ⟨h₁, h₂⟩ := (hmem j).mp hj
      rw [hm, Finset.mem_range] at h₂
      omega
    rw [hnil]
    exact .complete
  · rename_i hinit
    refine .terminated ?_ hterm hnodup fun j => ?_
    · by_contra hno
      rw [Finset.not_nonempty_iff_eq_empty, Finset.sdiff_eq_empty_iff_subset] at hno
      exact hinit ((RangeSet.isInitial_iff _).mpr ⟨n, Finset.Subset.antisymm hsub hno⟩)
    · rw [hmem j, Finset.mem_sdiff, Finset.mem_range, Nat.lt_succ_iff]

/-- A fragment that arrives while its decoder is in flight. -/
theorem Pending.mark_inFlight {received : Finset Nat} {e : EncodedFragmentData}
    {es : List EncodedFragmentData} {n : Nat} (hsub : received ⊆ Finset.range n)
    (hterm : ∀ e' ∈ e :: es, (e'.terminal = true ↔ e'.sequence = n))
    (hnodup : (sequences (e :: es)).Nodup)
    (hmem : ∀ j, j ∈ sequences (e :: es) ↔ j ≤ n ∧ j ∉ received) :
    ∃ st', (DecoderFrameState.inFlight received).mark (.fragment e) = .ok st' ∧
      Pending st' (es.map .fragment) := by
  obtain ⟨hle, hnew⟩ := (hmem e.sequence).mp List.mem_cons_self
  obtain ⟨hfresh, hnodup'⟩ := sequences_nodup_cons hnodup
  have hrest : ∀ j, j ∈ sequences es ↔ j ≤ n ∧ j ∉ insert e.sequence received := by
    intro j
    rw [mem_sequences_tail hnodup hmem, Finset.mem_insert, not_or]
    tauto
  simp only [DecoderFrameState.mark, DecoderFrameState.markSequenceReceived, if_neg hnew]
  cases ht : e.terminal with
  | false =>
    have hne : e.sequence ≠ n := fun h => by
      have := (hterm e List.mem_cons_self).mpr h
      rw [ht] at this
      cases this
    refine ⟨_, rfl, .inFlight n ?_ (fun e' he' => hterm e' (List.mem_cons_of_mem _ he')) hnodup'
      hrest⟩
    intro j hj
    rcases Finset.mem_insert.mp hj with hj | hj
    · rw [Finset.mem_range]
      omega
    · exact hsub hj
  | true =>
    have hn : e.sequence = n := (hterm e List.mem_cons_self).mp ht
    rw [hn] at hfresh hrest ⊢
    have hsub' : insert n received ⊆ Finset.range (n + 1) := by
      intro j hj
      rcases Finset.mem_insert.mp hj with hj | hj
      · rw [Finset.mem_range]
        omega
      · have := Finset.mem_range.mp (hsub hj)
        rw [Finset.mem_range]
        omega
    have hterm' : ∀ e' ∈ es, e'.terminal = false := by
      intro e' he'
      by_contra hno
      have heq := (hterm e' (List.mem_cons_of_mem _ he')).mp (by simpa using hno)
      refine hfresh ?_
      rw [← heq]
      exact List.mem_map_of_mem he'
    refine ⟨_, ?_, Pending.ofTerminal hsub' (Finset.mem_insert_self n received) hterm' hnodup'
      hrest⟩
    rw [if_pos rfl, apply_ite Except.ok]

/-- A fragment that arrives after its decoder's terminal. -/
theorem Pending.mark_terminated {missing : Finset Nat} {e : EncodedFragmentData}
    {es : List EncodedFragmentData} (hterm : ∀ e' ∈ e :: es, e'.terminal = false)
    (hnodup : (sequences (e :: es)).Nodup) (hmem : ∀ j, j ∈ sequences (e :: es) ↔ j ∈ missing) :
    ∃ st', (DecoderFrameState.terminatedIncomplete missing).mark (.fragment e) = .ok st' ∧
      Pending st' (es.map .fragment) := by
  have hnodup' := (sequences_nodup_cons hnodup).2
  have hrest : ∀ j, j ∈ sequences es ↔ j ∈ missing.erase e.sequence := by
    intro j
    rw [mem_sequences_tail hnodup hmem, Finset.mem_erase, and_comm]
  simp only [DecoderFrameState.mark, DecoderFrameState.markSequenceReceived,
    hterm e List.mem_cons_self]
  by_cases hempty : missing.erase e.sequence = ∅
  · simp only [hempty, if_true]
    refine ⟨_, rfl, ?_⟩
    have hnil : es = [] := sequences_eq_nil fun j hj => by
      have := (hrest j).mp hj
      rw [hempty] at this
      cases this
    rw [hnil]
    exact .complete
  · simp only [if_neg hempty]
    exact ⟨_, rfl, .terminated (Finset.nonempty_iff_ne_empty.mpr hempty)
      (fun e' he' => hterm e' (List.mem_cons_of_mem _ he')) hnodup' hrest⟩

/-- **One message of a decoder is accepted**, whichever of those still to come it is. -/
theorem Pending.mark {st : DecoderFrameState} {m : Report} {rem : List Report}
    (h : Pending st (m :: rem)) : ∃ st', st.mark m = .ok st' ∧ Pending st' rem := by
  generalize hl : m :: rem = l at h
  cases h with
  | complete => cases hl
  | empty t =>
    cases hl
    exact ⟨.complete, rfl, .complete⟩
  | inFlight n hsub hterm hnodup hmem =>
    rename_i received es
    cases es with
    | nil => cases hl
    | cons e es =>
      cases hl
      exact Pending.mark_inFlight hsub hterm hnodup hmem
  | terminated hne hterm hnodup hmem =>
    rename_i missing es
    cases es with
    | nil => cases hl
    | cons e es =>
      cases hl
      exact Pending.mark_terminated hterm hnodup hmem

/-! ## The fragments of one decoder, in any order -/

/-- The fragment `sequence` of `n`, of which the last one is terminal. -/
def fragmentOf (n sequence : Nat) : EncodedFragmentData :=
  ⟨0, 0, sequence, 0, 0, decide (sequence + 1 = n), .raw, ⟨0, 0⟩, ⟨0, 0⟩, []⟩

/-- `mark_sequence_received` for one sequence after another, of `n` sequences. -/
def DecoderFrameState.markAll (n : Nat) (st : DecoderFrameState) (l : List Nat) :
    Except FrameError DecoderFrameState :=
  l.foldlM (fun st sequence => st.markSequenceReceived sequence (decide (sequence + 1 = n))) st

/-- Sequences that are still to come are all accepted, and those after them are still to come. -/
theorem Pending.markAll {n : Nat} {l l' : List Nat} {st : DecoderFrameState}
    (h : Pending st (((l ++ l').map (fragmentOf n)).map .fragment)) :
    ∃ st', st.markAll n l = .ok st' ∧ Pending st' ((l'.map (fragmentOf n)).map .fragment) := by
  induction l generalizing st with
  | nil => exact ⟨st, rfl, h⟩
  | cons sequence l ih =>
    obtain ⟨st₁, hmark, hrest⟩ := h.mark
    obtain ⟨st', hall, hpend⟩ := ih hrest
    refine ⟨st', ?_, hpend⟩
    rw [DecoderFrameState.markAll, List.foldlM_cons]
    have hmark' : st.markSequenceReceived sequence (decide (sequence + 1 = n)) = .ok st₁ := hmark
    rw [hmark']
    exact hall

/-- All sequences are to come when none has been received. -/
theorem Pending.default {n : Nat} {l : List Nat} (hn : 0 < n) (hl : l.Perm (List.range n)) :
    Pending .default ((l.map (fragmentOf n)).map .fragment) := by
  have hsequences : sequences (l.map (fragmentOf n)) = l := by
    rw [sequences, List.map_map]
    exact List.map_id l
  refine .inFlight (n - 1) (Finset.empty_subset _) ?_ ?_ ?_
  · intro e he
    obtain ⟨sequence, -, rfl⟩ := List.mem_map.mp he
    simp only [fragmentOf, decide_eq_true_eq]
    omega
  · rw [hsequences]
    exact hl.nodup_iff.mpr List.nodup_range
  · intro j
    rw [hsequences, hl.mem_iff, List.mem_range]
    simp only [Finset.notMem_empty, not_false_eq_true, and_true]
    omega

/-- **A decoder's frame completes exactly at its last fragment**, in whatever order they come. -/
theorem markAll_complete_iff {n : Nat} (hn : 0 < n) {l : List Nat} (hl : l.Perm (List.range n)) :
    ∀ i ≤ n, ∃ st, DecoderFrameState.default.markAll n (l.take i) = .ok st ∧
      (st = .complete ↔ i = n) := by
  intro i hi
  have hlen : l.length = n := by
    rw [hl.length_eq, List.length_range]
  have hpend : Pending .default (((l.take i ++ l.drop i).map (fragmentOf n)).map .fragment) := by
    rw [List.take_append_drop]
    exact Pending.default hn hl
  obtain ⟨st, hall, hrest⟩ := hpend.markAll
  refine ⟨st, hall, ?_⟩
  rw [hrest.complete_iff, List.map_eq_nil_iff, List.map_eq_nil_iff, List.drop_eq_nil_iff, hlen]
  omega

/-- Two of three fragments, the terminal first. -/
theorem markAll_complete_iff_two_of_three :
    ∃ st, DecoderFrameState.default.markAll 3 ([2, 0, 1].take 2) = .ok st ∧
      (st = .complete ↔ 2 = 3) :=
  markAll_complete_iff (by decide) (by decide) 2 (by decide)

/-! ## The frame -/

/-- The messages of a list that are for decoder `i`. -/
def forDecoder (i : Nat) (msgs : List Report) : List Report := msgs.filter fun m => m.decoder = i

/-- The entry of a frame in flight, new if there is none. -/
def DisplayFramer.entry (df : DisplayFramer) (frame : Nat) : InFlightFrame :=
  (df.inFlight[frame]?).getD (InFlightFrame.new df.decoderAreas)

/-- The framer with a new entry for a frame in flight. -/
def DisplayFramer.withEntry (df : DisplayFramer) (frame : Nat) (fr : InFlightFrame) :
    DisplayFramer :=
  { df with inFlight := df.inFlight.insert frame fr }

/-- The framer knows of one frame only; `rem` of it is still to come and `got` has arrived. -/
structure Holding (frame : Nat) (areas : List Rect) (rem : List Report)
    (got : List DecodedFragmentData) (df : DisplayFramer) : Prop where
  areas_eq : df.decoderAreas = areas
  early : df.earlyDraw = ∅
  complete : df.complete = ∅
  undrawn : df.undrawnFragments = []
  only : ∀ g, g ∈ df.inFlight → g = frame
  length : (df.entry frame).decoderFrameStates.length = areas.length
  states : ∀ i st, (df.entry frame).decoderFrameStates[i]? = some st → Pending st (forDecoder i rem)
  fragments : (df.entry frame).decodedFragments = got

theorem forDecoder_cons_self (m : Report) (rem : List Report) :
    forDecoder m.decoder (m :: rem) = m :: forDecoder m.decoder rem := by
  simp [forDecoder]

theorem forDecoder_cons_ne {m : Report} {i : Nat} (h : m.decoder ≠ i) (rem : List Report) :
    forDecoder i (m :: rem) = forDecoder i rem := by
  simp [forDecoder, h]

/-- One message changes its decoder's state and no other. -/
theorem updateState_pending {states : List DecoderFrameState} {m : Report} {rem : List Report}
    (hlt : m.decoder < states.length)
    (h : ∀ i st, states[i]? = some st → Pending st (forDecoder i (m :: rem))) (oob : FrameError) :
    ∃ states', updateState states m.decoder oob (fun st => st.mark m) = .ok states' ∧
      states'.length = states.length ∧
      ∀ i st, states'[i]? = some st → Pending st (forDecoder i rem) := by
  have hget : states[m.decoder]? = some states[m.decoder] := List.getElem?_eq_getElem hlt
  have hpend := h _ _ hget
  rw [forDecoder_cons_self] at hpend
  obtain ⟨st', hmark, hpend'⟩ := hpend.mark
  refine ⟨states.set m.decoder st', ?_, List.length_set, fun i st hi => ?_⟩
  · rw [updateState, hget]
    simp only [hmark]
    rfl
  · rw [List.getElem?_set] at hi
    split at hi
    · rename_i heq
      cases hi
      rw [← heq]
      exact hpend'
    · rename_i hne
      have := h i st hi
      rwa [forDecoder_cons_ne hne] at this

/-- The only frame leaves no gap to fill. -/
theorem Holding.fillGap {frame : Nat} {areas : List Rect} {rem : List Report}
    {got : List DecodedFragmentData} {df : DisplayFramer} (h : Holding frame areas rem got df) :
    df.fillGap frame = df.inFlight := by
  unfold DisplayFramer.fillGap
  split
  · rename_i m hm
    rw [h.only m (DisplayFramer.last_mem hm), Nat.sub_self]
    rfl
  · rfl

/-- The state with a new entry for the only frame. -/
theorem Holding.insert {frame : Nat} {areas : List Rect} {rem rem' : List Report}
    {got got' : List DecodedFragmentData} {df : DisplayFramer} (h : Holding frame areas rem got df)
    {fr : InFlightFrame} (hlen : fr.decoderFrameStates.length = areas.length)
    (hst : ∀ i st, fr.decoderFrameStates[i]? = some st → Pending st (forDecoder i rem'))
    (hgot : fr.decodedFragments = got') :
    Holding frame areas rem' got' (df.withEntry frame fr) := by
  have hentry : (df.withEntry frame fr).entry frame = fr := by
    simp [DisplayFramer.entry, DisplayFramer.withEntry]
  refine ⟨h.areas_eq, h.early, h.complete, h.undrawn, fun g hg => ?_, ?_, ?_, ?_⟩
  · rw [DisplayFramer.withEntry, Std.ExtTreeMap.mem_insert, Nat.compare_eq_eq] at hg
    rcases hg with hg | hg
    · exact hg.symm
    · exact h.only g hg
  · rw [hentry]; exact hlen
  · rw [hentry]; exact hst
  · rw [hentry]; exact hgot

/-- A decoded fragment of the only frame goes to its entry. -/
theorem Holding.addFragment {frame : Nat} {areas : List Rect} {rem : List Report}
    {got : List DecodedFragmentData} {df : DisplayFramer} (h : Holding frame areas rem got df)
    {frag : DecodedFragmentData} {fr : InFlightFrame} (hf : frag.frame = frame)
    (hfr : (df.entry frame).addFragment frag = .ok fr) :
    df.addFragment frag = (.ok (), df.withEntry frame fr) := by
  have hnone : df.earlyDraw[frame]? = none := by rw [h.early]; simp
  unfold DisplayFramer.addFragment
  rw [hf, hnone, h.fillGap]
  simp only [DisplayFramer.entry] at hfr
  simp only [hfr, DisplayFramer.withEntry]

theorem Holding.terminateEmpty {frame : Nat} {areas : List Rect} {rem : List Report}
    {got : List DecodedFragmentData} {df : DisplayFramer} (h : Holding frame areas rem got df)
    {decoder : Nat} {fr : InFlightFrame}
    (hfr : (df.entry frame).terminateEmpty decoder = .ok fr) :
    df.terminateEmpty frame decoder = (.ok (), df.withEntry frame fr) := by
  have hnone : df.earlyDraw[frame]? = none := by rw [h.early]; simp
  unfold DisplayFramer.terminateEmpty
  rw [hnone]
  simp only [DisplayFramer.entry] at hfr
  simp only [hfr, DisplayFramer.withEntry]

/-- **One message of the frame is recorded**; a terminal is then reported. -/
theorem Holding.report {codecs : Codecs} {frame : Nat} {areas : List Rect} {m : Report}
    {rem : List Report} {got : List DecodedFragmentData} {df : DisplayFramer}
    (h : Holding frame areas (m :: rem) got df) (hframe : m.frame = frame)
    (hdec : m.decoder < areas.length)
    (hok : ∀ e, m = .fragment e → (e.decode codecs).isOk = true) :
    ∃ df', Holding frame areas rem (got ++ (m.decoded codecs).toList) df' ∧ frame ∈ df'.inFlight ∧
      df.report codecs m =
        if m.isTerminal then df'.reportTerminal frame m.decoder else (.ok (), df') := by
  have hlt : m.decoder < (df.entry frame).decoderFrameStates.length := by rw [h.length]; exact hdec
  obtain ⟨states', hupd, hlen, hst⟩ :=
    updateState_pending hlt h.states (.invalidDecoder m.decoder)
  have hlen' : states'.length = areas.length := hlen.trans h.length
  have hcomp : frame ∉ df.complete := by rw [h.complete]; simp
  have hdec' : m.decoder < df.decoderAreas.length := by rw [h.areas_eq]; exact hdec
  cases m with
  | fragment e =>
    have hisok := hok e rfl
    simp only [Report.frame, Report.decoder] at hframe hdec' hupd
    cases hd : e.decode codecs with
    | error err =>
      rw [hd] at hisok
      cases hisok
    | ok frag =>
      obtain ⟨l₁, l₂, l₃, l₄, -⟩ := EncodedFragmentData.decode_labels hd
      have hf : frag.frame = frame := l₁.trans hframe
      let fr : InFlightFrame := ⟨states', (df.entry frame).decodedFragments ++ [frag]⟩
      have hfr : (df.entry frame).addFragment frag = .ok fr := by
        simp only [InFlightFrame.addFragment, l₂, l₃, l₄]
        simp only [DecoderFrameState.mark] at hupd
        rw [hupd]
        rfl
      have hadd := h.addFragment hf hfr
      refine ⟨df.withEntry frame fr, h.insert hlen' hst ?_, by simp [DisplayFramer.withEntry], ?_⟩
      · simp only [fr]
        rw [h.fragments]
        simp [Report.decoded, hd, Except.toOption]
      · simp only [DisplayFramer.report, DisplayFramer.reportFragment, hdec', hframe, hcomp, hd,
          hadd, not_true, if_false, Report.isTerminal, Report.decoder, l₄, hf, l₂]
        rfl
  | emptyTerminal t =>
    simp only [Report.frame, Report.decoder] at hframe hdec' hupd
    let fr : InFlightFrame := ⟨states', (df.entry frame).decodedFragments⟩
    have hfr : (df.entry frame).terminateEmpty t.encoder = .ok fr := by
      simp only [InFlightFrame.terminateEmpty]
      simp only [DecoderFrameState.mark] at hupd
      rw [hupd]
      rfl
    have hadd := h.terminateEmpty hfr
    refine ⟨df.withEntry frame fr, h.insert hlen' hst ?_, by simp [DisplayFramer.withEntry], ?_⟩
    · simp only [fr]
      rw [h.fragments]
      simp [Report.decoded]
    · simp only [DisplayFramer.report, DisplayFramer.reportEmptyFrameTerminal, hdec', hframe,
        hcomp, hadd, not_true, if_false, Report.isTerminal, Report.decoder, if_true]

/-- All decoders are complete exactly when nothing more of the frame is to come. -/
theorem Holding.allComplete_iff {frame : Nat} {areas : List Rect} {rem : List Report}
    {got : List DecodedFragmentData} {df : DisplayFramer} (h : Holding frame areas rem got df)
    (hrem : ∀ m ∈ rem, m.decoder < areas.length) :
    allComplete (df.entry frame).decoderFrameStates = true ↔ rem = [] := by
  unfold allComplete
  rw [List.all_eq_true]
  constructor
  · intro hall
    cases rem with
    | nil => rfl
    | cons m rem =>
      have hlt : m.decoder < (df.entry frame).decoderFrameStates.length := by
        rw [h.length]
        exact hrem m List.mem_cons_self
      have hget := List.getElem?_eq_getElem hlt
      have hst := hall _ (List.getElem_mem hlt)
      have hnil := (h.states _ _ hget).complete_iff.mp (by simpa using hst)
      rw [forDecoder_cons_self] at hnil
      cases hnil
  · intro hnil st hst
    obtain ⟨i, hi⟩ := List.mem_iff_getElem?.mp hst
    have hpend := h.states i st hi
    rw [hnil] at hpend
    simpa using hpend.complete_iff.mpr rfl

/-- **A terminal completes the frame when nothing more is to come**, and changes nothing before. -/
theorem Holding.reportTerminal {frame decoder : Nat} {areas : List Rect} {rem : List Report}
    {got : List DecodedFragmentData} {df : DisplayFramer} (h : Holding frame areas rem got df)
    (hin : frame ∈ df.inFlight) (hdec : decoder < areas.length)
    (hrem : ∀ m ∈ rem, m.decoder < areas.length) :
    (rem ≠ [] ∧ df.reportTerminal frame decoder = (.ok (), df)) ∨
    (rem = [] ∧ ∃ df', df.reportTerminal frame decoder = (.ok (), df') ∧ frame ∈ df'.complete ∧
      frame ∉ df'.inFlight ∧ frame ∉ df'.earlyDraw ∧ df'.undrawnFragments = got) := by
  have hcomp : frame ∉ df.complete := by rw [h.complete]; simp
  have hearly : df.earlyDraw[frame]? = none := by rw [h.early]; simp
  have hdec' : decoder < df.decoderAreas.length := by rw [h.areas_eq]; exact hdec
  have hget : df.inFlight[frame]? = some (df.entry frame) := by
    unfold DisplayFramer.entry
    rw [Std.ExtTreeMap.mem_iff_isSome_getElem?] at hin
    obtain ⟨fr, hfr⟩ := Option.isSome_iff_exists.mp hin
    rw [hfr]
    rfl
  by_cases hnil : rem = []
  · right
    have hcomplete : (df.entry frame).tryComplete = some (df.entry frame).decodedFragments := by
      rw [InFlightFrame.tryComplete, if_pos ((h.allComplete_iff hrem).mpr hnil)]
    have hreport : df.reportTerminal frame decoder =
        (.ok (), df.completeInFlight frame (df.entry frame).decodedFragments) := by
      simp [DisplayFramer.reportTerminal, hcomp, hdec', hearly, hget, hcomplete]
    have hnone : ∀ p : Nat → Bool, (df.inFlight.erase frame).filter (fun g _ => p g) = ∅ := by
      intro p
      refine Std.ExtTreeMap.eq_empty_iff_forall_not_mem.mpr fun g hg => ?_
      have hg' := Std.ExtTreeMap.mem_of_mem_filter hg
      rw [Std.ExtTreeMap.mem_erase, ne_eq, Nat.compare_eq_eq] at hg'
      exact hg'.1 (h.only g hg'.2).symm
    have hlist : (∅ : Std.ExtTreeMap Nat InFlightFrame).toList = [] :=
      Std.ExtTreeMap.toList_eq_nil_iff.mpr rfl
    refine ⟨hnil, _, hreport, ?_⟩
    simp only [DisplayFramer.completeInFlight, hnone, hlist, List.foldl_nil]
    simp [h.early, h.complete, h.undrawn, h.fragments]
  · left
    have hincomplete : (df.entry frame).tryComplete = none := by
      rw [InFlightFrame.tryComplete, if_neg fun hall => hnil ((h.allComplete_iff hrem).mp hall)]
    refine ⟨hnil, ?_⟩
    simp [DisplayFramer.reportTerminal, hcomp, hdec', hearly, hget, hincomplete]

/-! ## The whole delivery -/

/-- **The run**: every message is accepted; the frame completes with the last one when that is a
terminal, and otherwise is left in flight. -/
theorem reportAll_spec {codecs : Codecs} {frame : Nat} {areas : List Rect} :
    ∀ (msgs : List Report) (got : List DecodedFragmentData) (df : DisplayFramer),
      Holding frame areas msgs got df → msgs ≠ [] →
      (∀ m ∈ msgs, m.frame = frame ∧ m.decoder < areas.length ∧
        ∀ e, m = .fragment e → (e.decode codecs).isOk = true) →
      ∃ df', reportAll codecs df msgs = (.ok (), df') ∧
        (((∃ m ∈ msgs.getLast?, m.isTerminal = true) ∧ frame ∈ df'.complete ∧
            frame ∉ df'.inFlight ∧ frame ∉ df'.earlyDraw ∧
            df'.undrawnFragments = got ++ msgs.filterMap (Report.decoded codecs)) ∨
          ((¬ ∃ m ∈ msgs.getLast?, m.isTerminal = true) ∧ frame ∈ df'.inFlight))
  | [], _, _, _, hne, _ => absurd rfl hne
  | [m], got, df, h, _, hall => by
    obtain ⟨hframe, hdec, hok⟩ := hall m List.mem_cons_self
    obtain ⟨df₁, hhold, hin, hrep⟩ := h.report hframe hdec hok
    unfold reportAll
    rw [hrep]
    cases hterm : m.isTerminal with
    | false =>
      refine ⟨df₁, rfl, Or.inr ⟨?_, hin⟩⟩
      simp [hterm]
    | true =>
      rcases hhold.reportTerminal hin hdec (fun m' hm' => nomatch hm') with
        ⟨hne, -⟩ | ⟨-, df', hdf', hcomp, hnin, hne, hdraw⟩
      · exact absurd rfl hne
      · refine ⟨df', ?_, Or.inl ⟨by simp [hterm], hcomp, hnin, hne, ?_⟩⟩
        · simp only [if_true, hdf', reportAll]
        · rw [hdraw]
          cases hd : m.decoded codecs <;> simp [hd]
  | m :: m' :: msgs, got, df, h, _, hall => by
    obtain ⟨hframe, hdec, hok⟩ := hall m List.mem_cons_self
    have hall' := fun x hx => hall x (List.mem_cons_of_mem m hx)
    obtain ⟨df₁, hhold, hin, hrep⟩ := h.report hframe hdec hok
    have hrep' : df.report codecs m = (.ok (), df₁) := by
      rw [hrep]
      split
      · rcases hhold.reportTerminal hin hdec (fun x hx => (hall' x hx).2.1) with
          ⟨-, heq⟩ | ⟨hnil, -⟩
        · exact heq
        · cases hnil
      · rfl
    obtain ⟨df', hdf', hend⟩ := reportAll_spec (m' :: msgs) _ df₁ hhold (List.cons_ne_nil _ _) hall'
    refine ⟨df', ?_, ?_⟩
    · rw [reportAll, hrep']
      exact hdf'
    · rw [List.getLast?_cons_cons]
      rcases hend with ⟨hlast, hcomp, hnin, hne, hdraw⟩ | hend
      · refine Or.inl ⟨hlast, hcomp, hnin, hne, ?_⟩
        rw [hdraw, List.append_assoc]
        cases hd : m.decoded codecs <;> simp [List.filterMap_cons, hd]
      · exact Or.inr hend

theorem DecoderMessages.labels {codecs : Codecs} {frame i : Nat} {ms : List Report}
    (h : DecoderMessages codecs frame i ms) :
    ∀ m ∈ ms, m.frame = frame ∧ m.decoder = i ∧
      ∀ e, m = .fragment e → (e.decode codecs).isOk = true := by
  intro m hm
  cases h with
  | empty t hframe hdecoder =>
    rw [List.mem_singleton.mp hm]
    exact ⟨hframe, hdecoder, (fun e he => nomatch he)⟩
  | fragments es hne hes =>
    obtain ⟨e, he, rfl⟩ := List.mem_map.mp hm
    obtain ⟨j, hj, rfl⟩ := List.mem_iff_getElem.mp he
    obtain ⟨h₁, h₂, -, -, h₅⟩ := hes j hj
    refine ⟨h₁, h₂, fun e' he' => ?_⟩
    cases he'
    exact h₅

theorem eq_map_fragment : ∀ (rem : List Report), (∀ m ∈ rem, ∃ e, m = .fragment e) →
    rem = (rem.filterMap Report.fragment?).map .fragment
  | [], _ => rfl
  | m :: rem, h => by
    obtain ⟨e, rfl⟩ := h m List.mem_cons_self
    have ih := eq_map_fragment rem fun m hm => h m (List.mem_cons_of_mem _ hm)
    exact congrArg (Report.fragment e :: ·) ih

/-- Fragments numbered from zero of which exactly the last is terminal are pending, in any order,
before any of them has arrived. -/
theorem Pending.ofFragments {es : List EncodedFragmentData} {rem : List Report} (hne : es ≠ [])
    (hseq : sequences es = List.range es.length)
    (hterm : ∀ e ∈ es, (e.terminal = true ↔ e.sequence + 1 = es.length))
    (hperm : rem.Perm (es.map .fragment)) : Pending DecoderFrameState.default rem := by
  have hfilter : (es.map Report.fragment).filterMap Report.fragment? = es := by
    rw [List.filterMap_map]
    exact List.filterMap_some
  have hperm' : (rem.filterMap Report.fragment?).Perm es := by
    rw [← hfilter]
    exact hperm.filterMap _
  have hrem : rem = (rem.filterMap Report.fragment?).map .fragment := by
    refine eq_map_fragment rem fun m hm => ?_
    obtain ⟨e, -, he⟩ := List.mem_map.mp (hperm.mem_iff.mp hm)
    exact ⟨e, he.symm⟩
  have hseq' : (sequences (rem.filterMap Report.fragment?)).Perm (List.range es.length) := by
    rw [← hseq]
    exact hperm'.map _
  have hpos : 0 < es.length := List.length_pos_iff.mpr hne
  rw [hrem]
  refine .inFlight (es.length - 1) (Finset.empty_subset _) ?_ ?_ ?_
  · intro e he
    rw [hterm e (hperm'.mem_iff.mp he)]
    omega
  · exact hseq'.nodup_iff.mpr List.nodup_range
  · intro j
    rw [hseq'.mem_iff, List.mem_range]
    simp only [Finset.notMem_empty, not_false_eq_true, and_true]
    omega

/-- Before anything has arrived of a decoder, all its messages are pending, in any order. -/
theorem DecoderMessages.pending {codecs : Codecs} {frame i : Nat} {ms rem : List Report}
    (h : DecoderMessages codecs frame i ms) (hperm : rem.Perm ms) :
    Pending DecoderFrameState.default rem := by
  cases h with
  | empty t hframe hdecoder =>
    rw [List.perm_singleton.mp hperm]
    exact .empty t
  | fragments es hne hes =>
    refine Pending.ofFragments hne ?_ ?_ hperm
    · refine List.ext_getElem (by simp [sequences]) fun j h₁ h₂ => ?_
      simp only [sequences, List.getElem_map, List.getElem_range]
      exact (hes j (by simpa using h₂)).2.2.1
    · intro e he
      obtain ⟨j, hj, rfl⟩ := List.mem_iff_getElem.mp he
      obtain ⟨-, -, h₃, h₄, -⟩ := hes j hj
      rw [h₄, h₃]

/-- The messages for one decoder are its share. -/
theorem forDecoder_flatten :
    ∀ (shares : List (List Report)) (k : Nat),
      (∀ i (hi : i < shares.length), ∀ m ∈ shares[i], m.decoder = k + i) →
      ∀ i (hi : i < shares.length), forDecoder (k + i) shares.flatten = shares[i]
  | [], _, _, i, hi => absurd hi (by simp)
  | ms :: shares, k, h, i, hi => by
    have hhead : ∀ m ∈ ms, m.decoder = k := fun m hm => h 0 (by simp) m hm
    have htail : ∀ i (hi : i < shares.length), ∀ m ∈ shares[i], m.decoder = k + 1 + i := by
      intro i hi m hm
      have := h (i + 1) (by simpa using hi) m hm
      omega
    have hlater : ∀ m ∈ shares.flatten, k < m.decoder := by
      intro m hm
      obtain ⟨ms', hms', hm'⟩ := List.mem_flatten.mp hm
      obtain ⟨j, hj, rfl⟩ := List.mem_iff_getElem.mp hms'
      have := htail j hj m hm'
      omega
    rw [List.flatten_cons, forDecoder, List.filter_append]
    cases i with
    | zero =>
      have h₁ : (ms.filter fun m => m.decoder = k + 0) = ms := by
        refine List.filter_eq_self.mpr fun m hm => ?_
        simpa using hhead m hm
      have h₂ : (shares.flatten.filter fun m => m.decoder = k + 0) = [] := by
        refine List.filter_eq_nil_iff.mpr fun m hm => ?_
        have := hlater m hm
        simp only [decide_eq_true_eq]
        omega
      rw [h₁, h₂, List.append_nil]
      rfl
    | succ i =>
      have h₁ : (ms.filter fun m => m.decoder = k + (i + 1)) = [] := by
        refine List.filter_eq_nil_iff.mpr fun m hm => ?_
        have := hhead m hm
        simp only [decide_eq_true_eq]
        omega
      have ih := forDecoder_flatten shares (k + 1) htail i (by simpa using hi)
      rw [show k + 1 + i = k + (i + 1) by omega] at ih
      rw [h₁, List.nil_append]
      exact ih

/-- A fresh framer holds nothing and waits for everything. -/
theorem FrameMessages.holding {codecs : Codecs} {frame : Nat} {areas : List Rect}
    {msgs : List Report} (h : FrameMessages codecs frame areas.length msgs) (area : Rect) :
    Holding frame areas msgs [] (DisplayFramer.new area areas) ∧
      ∀ m ∈ msgs, m.frame = frame ∧ m.decoder < areas.length ∧
        ∀ e, m = .fragment e → (e.decode codecs).isOk = true := by
  obtain ⟨shares, hlen, hshare, hperm⟩ := h
  have hentry : (DisplayFramer.new area areas).entry frame = InFlightFrame.new areas := by
    simp [DisplayFramer.entry, DisplayFramer.new]
  refine ⟨⟨rfl, rfl, rfl, rfl, fun g hg => ?_, ?_, fun i st hi => ?_, ?_⟩, fun m hm => ?_⟩
  · simp [DisplayFramer.new] at hg
  · rw [hentry]
    simp [InFlightFrame.new]
  · rw [hentry] at hi
    simp only [InFlightFrame.new, List.getElem?_replicate] at hi
    split at hi
    · rename_i hlt
      cases hi
      have hi' : i < shares.length := by omega
      refine (hshare i hi').pending ?_
      have hflat := forDecoder_flatten shares 0
        (fun i hi m hm => by rw [Nat.zero_add]; exact ((hshare i hi).labels m hm).2.1) i hi'
      rw [Nat.zero_add] at hflat
      rw [← hflat]
      exact hperm.filter _
    · cases hi
  · rw [hentry]
    rfl
  · obtain ⟨ms, hms, hm'⟩ := List.mem_flatten.mp (hperm.mem_iff.mp hm)
    obtain ⟨i, hi, rfl⟩ := List.mem_iff_getElem.mp hms
    obtain ⟨h₁, h₂, h₃⟩ := (hshare i hi).labels m hm'
    exact ⟨h₁, by omega, h₃⟩

/-- **A frame handed over in any order completes exactly when its last message is a terminal.** -/
theorem completed_iff_last_terminal (codecs : Codecs) (area : Rect) (areas : List Rect)
    (frame : Nat) (msgs : List Report) (h : FrameMessages codecs frame areas.length msgs) :
    Completed codecs frame msgs (reportAll codecs (DisplayFramer.new area areas) msgs) ↔
      ∃ m ∈ msgs.getLast?, m.isTerminal = true := by
  obtain ⟨hhold, hlabels⟩ := h.holding area
  cases msgs with
  | nil =>
    constructor
    · rintro ⟨-, hcomp, -⟩
      simp [reportAll, DisplayFramer.new] at hcomp
    · rintro ⟨m, hm, -⟩
      cases hm
  | cons m msgs =>
    obtain ⟨df', hdf', hend⟩ := reportAll_spec _ _ _ hhold (List.cons_ne_nil m msgs) hlabels
    rw [hdf']
    rcases hend with ⟨hlast, hcomp, hnin, hne, hdraw⟩ | ⟨hlast, hin⟩
    · refine ⟨fun _ => hlast, fun _ => ⟨rfl, hcomp, hnin, hne, ?_⟩⟩
      simp only [hdraw, List.nil_append, List.Perm.refl]
    · exact ⟨fun hc => absurd hin hc.2.2.1, fun hl => absurd hl hlast⟩

/-- Two fragments and an empty terminal of two decoders, the terminal fragment last. -/
theorem completed_iff_last_terminal_two :
    FrameMessages rawOnly 7 2
      [.fragment (pixelFragment 7 0 0 false), .emptyTerminal ⟨7, 1, 0, 0⟩,
       .fragment (pixelFragment 7 0 1 true)] ∧
    Completed rawOnly 7
      [.fragment (pixelFragment 7 0 0 false), .emptyTerminal ⟨7, 1, 0, 0⟩,
       .fragment (pixelFragment 7 0 1 true)]
      (reportAll rawOnly (DisplayFramer.new pixelArea [pixelArea, pixelArea])
        [.fragment (pixelFragment 7 0 0 false), .emptyTerminal ⟨7, 1, 0, 0⟩,
         .fragment (pixelFragment 7 0 1 true)]) := by
  have h : FrameMessages rawOnly 7 2
      [.fragment (pixelFragment 7 0 0 false), .emptyTerminal ⟨7, 1, 0, 0⟩,
       .fragment (pixelFragment 7 0 1 true)] := by
    refine ⟨[[pixelFragment 7 0 0 false, pixelFragment 7 0 1 true].map .fragment,
      [.emptyTerminal ⟨7, 1, 0, 0⟩]], rfl, fun i hi => ?_, ?_⟩
    · match i, hi with
      | 0, _ => exact .fragments _ (List.cons_ne_nil _ _) (by decide +kernel)
      | 1, _ => exact .empty _ rfl rfl
    · exact (List.Perm.swap _ _ []).cons _
  exact ⟨h, (completed_iff_last_terminal rawOnly pixelArea [pixelArea, pixelArea] 7 _ h).mpr
    ⟨_, rfl, rfl⟩⟩

/-- The terminal fragment arrives before the fragment it waits for: the frame stays in flight. -/
theorem completed_fails :
    FrameMessages rawOnly 7 1
      [.fragment (pixelFragment 7 0 1 true), .fragment (pixelFragment 7 0 0 false)] ∧
    ¬ Completed rawOnly 7
      [.fragment (pixelFragment 7 0 1 true), .fragment (pixelFragment 7 0 0 false)]
      (reportAll rawOnly (DisplayFramer.new pixelArea [pixelArea])
        [.fragment (pixelFragment 7 0 1 true), .fragment (pixelFragment 7 0 0 false)]) := by
  refine ⟨⟨[[pixelFragment 7 0 0 false, pixelFragment 7 0 1 true].map .fragment], rfl,
    fun i hi => ?_, List.Perm.swap _ _ []⟩, fun hc => ?_⟩
  · match i, hi with
    | 0, _ => exact .fragments _ (List.cons_ne_nil _ _) (by decide +kernel)
  · have hno : 7 ∉ (reportAll rawOnly (DisplayFramer.new pixelArea [pixelArea])
        [.fragment (pixelFragment 7 0 1 true), .fragment (pixelFragment 7 0 0 false)]).2.complete := by
      decide +kernel
    exact hno hc.2.1

end ApertureC
