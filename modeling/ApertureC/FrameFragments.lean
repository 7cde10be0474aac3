import ApertureC.FrameDelivery
import ApertureC.MediaLoop
import ApertureC.Lib.MapTotal
import Mathlib.Algebra.Order.Group.Multiset

/-!
# The fragments a framer holds

A fragment that is accepted waits in a frame in flight, then in the draw queue of its display,
until the caller takes it as a draw.

* `DisplayFramer.waiting`, `DisplayFramer.held` — the fragments of one display.
* `FramerCall`, `framerStep` — the calls of the media thread.

Principal results: `report_spec` (a report is refused and changes nothing, or its fragment is
added once) and `refused_unchanged` (no message panics, and a refused one changes nothing).
-/

set_option autoImplicit false

namespace ApertureC

open Geometry MapTotal

namespace DisplayFramer

/-! ## One display -/

/-- The fragments of the frames in flight. -/
def waiting (df : DisplayFramer) : Multiset DecodedFragmentData :=
  total (fun fr => (fr.decodedFragments : Multiset DecodedFragmentData)) df.inFlight

/-- The fragments that have been accepted and not yet returned. -/
def held (df : DisplayFramer) : Multiset DecodedFragmentData := df.undrawnFragments + df.waiting

/-- The display and the decoders have not changed. -/
def SameAreas (df df' : DisplayFramer) : Prop :=
  df.area = df'.area ∧ df.decoderAreas = df'.decoderAreas

theorem SameAreas.refl (df : DisplayFramer) : df.SameAreas df := ⟨rfl, rfl⟩

theorem SameAreas.trans {df df' df'' : DisplayFramer} (h : df.SameAreas df')
    (h' : df'.SameAreas df'') : df.SameAreas df'' :=
  ⟨h.1.trans h'.1, h.2.trans h'.2⟩

/-- Drawing older frames early queues the fragments of each. -/
theorem foldl_drawEarly_queue :
    ∀ (l : List (Nat × InFlightFrame)) (df : DisplayFramer),
      (l.foldl drawEarly df).SameAreas df ∧
      (l.foldl drawEarly df).undrawnFragments =
        df.undrawnFragments ++ l.flatMap fun e => e.2.decodedFragments
  | [], df => ⟨SameAreas.refl df, by simp⟩
  | (id, fr) :: l, df => by
    obtain ⟨⟨harea, hareas⟩, hqueue⟩ := foldl_drawEarly_queue l (df.drawEarly (id, fr))
    have hone : (df.drawEarly (id, fr)).area = df.area ∧
        (df.drawEarly (id, fr)).decoderAreas = df.decoderAreas ∧
        (df.drawEarly (id, fr)).undrawnFragments = df.undrawnFragments ++ fr.decodedFragments := by
      cases hc : allComplete fr.decoderFrameStates <;>
        simp [drawEarly, InFlightFrame.forceComplete, hc]
    obtain ⟨h₁, h₂, h₃⟩ := hone
    rw [h₁] at harea
    rw [h₂] at hareas
    refine ⟨⟨harea, hareas⟩, ?_⟩
    rw [List.foldl_cons, hqueue, h₃, List.flatMap_cons, List.append_assoc]

theorem total_eq_flatMap (m : Std.ExtTreeMap Nat InFlightFrame) :
    total (fun fr => (fr.decodedFragments : Multiset DecodedFragmentData)) m =
      ↑(m.toList.flatMap fun e => e.2.decodedFragments) := by
  rw [total]
  induction m.toList with
  | nil => rfl
  | cons e l ih => rw [List.map_cons, List.sum_cons, ih, List.flatMap_cons, Multiset.coe_add]

/-- **Completing a frame moves its fragments, and those of every older frame, to the queue.** -/
theorem completeInFlight_held {df : DisplayFramer} {frame : Nat} {fr : InFlightFrame}
    (h : df.inFlight[frame]? = some fr) :
    (df.completeInFlight frame fr.decodedFragments).SameAreas df ∧
      (df.completeInFlight frame fr.decodedFragments).held = df.held := by
  unfold completeInFlight
  simp only
  obtain ⟨hin, -, -⟩ := foldl_drawEarly_spec
    ((df.inFlight.erase frame).filter fun id _ => id < frame).toList
    { df with
      inFlight := (df.inFlight.erase frame).filter fun id _ => frame ≤ id
      complete := insert frame df.complete
      undrawnFragments := df.undrawnFragments ++ fr.decodedFragments }
  obtain ⟨hareas, hqueue⟩ := foldl_drawEarly_queue
    ((df.inFlight.erase frame).filter fun id _ => id < frame).toList
    { df with
      inFlight := (df.inFlight.erase frame).filter fun id _ => frame ≤ id
      complete := insert frame df.complete
      undrawnFragments := df.undrawnFragments ++ fr.decodedFragments }
  refine ⟨hareas, ?_⟩
  have hsplit := total_filter
    (fun fr : InFlightFrame => (fr.decodedFragments : Multiset DecodedFragmentData))
    (df.inFlight.erase frame) fun id _ => id < frame
  have hnot : (fun (id : Nat) (_ : InFlightFrame) => !decide (id < frame)) =
      fun id _ => decide (frame ≤ id) := by
    funext id _
    rw [← decide_not, decide_eq_decide]
    omega
  have herase := total_erase
    (fun fr : InFlightFrame => (fr.decodedFragments : Multiset DecodedFragmentData)) df.inFlight
    frame
  rw [entry_of_some _ h] at herase
  rw [hnot] at hsplit
  rw [held, waiting, hin, hqueue, ← Multiset.coe_add, ← Multiset.coe_add, ← total_eq_flatMap,
    add_assoc, hsplit, add_assoc, herase]
  rfl

/-- A terminal that is recorded moves fragments only from frames in flight to the queue. -/
theorem reportTerminal_held (df : DisplayFramer) (frame decoder : Nat) :
    (df.reportTerminal frame decoder).2.SameAreas df ∧
      (df.reportTerminal frame decoder).2.held = df.held := by
  have hsame : df.SameAreas df ∧ df.held = df.held := ⟨SameAreas.refl df, rfl⟩
  unfold reportTerminal
  split
  · exact hsame
  · split
    · exact hsame
    · split
      · split
        · exact ⟨SameAreas.refl df, rfl⟩
        · exact hsame
      · split
        · rename_i fr hfr
          split
          · rename_i dfs hdfs
            unfold InFlightFrame.tryComplete at hdfs
            split at hdfs
            · cases hdfs
              exact completeInFlight_held hfr
            · cases hdfs
          · exact hsame
        · exact hsame

/-- The terminal of a frame that has just been recorded is not refused. -/
theorem reportTerminal_ok {df : DisplayFramer} {frame decoder : Nat} (hcomp : frame ∉ df.complete)
    (hdec : decoder < df.decoderAreas.length) (h : frame ∈ df.earlyDraw ∨ frame ∈ df.inFlight) :
    (df.reportTerminal frame decoder).1 = .ok () := by
  have hpanic := reportTerminal_ne_panic decoder h
  unfold reportTerminal at hpanic ⊢
  rw [if_neg hcomp, if_neg (not_not.mpr hdec)] at hpanic ⊢
  split
  · split <;> rfl
  · rename_i hearly
    simp only [hearly] at hpanic
    split
    · split <;> rfl
    · rename_i hnone
      simp only [hnone] at hpanic
      exact absurd rfl hpanic

/-! ## Recording -/

theorem total_fillGap (df : DisplayFramer) (frame : Nat) :
    total (fun fr => (fr.decodedFragments : Multiset DecodedFragmentData)) (df.fillGap frame) =
      df.waiting := by
  have hfold : ∀ (fs : List Nat) (m : Std.ExtTreeMap Nat InFlightFrame),
      total (fun fr => (fr.decodedFragments : Multiset DecodedFragmentData))
        (fs.foldl (fun m f => m.insertIfNew f (InFlightFrame.new df.decoderAreas)) m) =
      total (fun fr => (fr.decodedFragments : Multiset DecodedFragmentData)) m := by
    intro fs
    induction fs with
    | nil => exact fun m => rfl
    | cons f fs ih =>
      intro m
      rw [List.foldl_cons, ih]
      exact total_insertIfNew _ m f rfl
  unfold fillGap
  split
  · exact hfold _ _
  · rfl

/-- The gap is filled with frames older than the one that arrives. -/
theorem getElem?_fillGap (df : DisplayFramer) (frame : Nat) :
    (df.fillGap frame)[frame]? = df.inFlight[frame]? := by
  have hfold : ∀ (fs : List Nat), frame ∉ fs → ∀ m : Std.ExtTreeMap Nat InFlightFrame,
      (fs.foldl (fun m f => m.insertIfNew f (InFlightFrame.new df.decoderAreas)) m)[frame]? =
        m[frame]? := by
    intro fs
    induction fs with
    | nil => exact fun _ m => rfl
    | cons f fs ih =>
      intro hfs m
      rw [List.mem_cons, not_or] at hfs
      rw [List.foldl_cons, ih hfs.2, Std.ExtTreeMap.getElem?_insertIfNew, if_neg]
      intro h
      exact hfs.1 (Nat.compare_eq_eq.mp h.1).symm
  unfold fillGap
  split
  · refine hfold _ ?_ _
    rw [List.mem_range'_1]
    omega
  · rfl

/-- No gap is left before a frame that is in flight already. -/
theorem fillGap_of_mem {df : DisplayFramer} {frame : Nat} (h : frame ∈ df.inFlight) :
    df.fillGap frame = df.inFlight := by
  unfold fillGap
  split
  · rename_i m hm
    have hle : frame ≤ m := by
      have hmem : frame ∈ df.inFlight.keys := by simpa using h
      obtain ⟨i, hi, rfl⟩ := List.getElem_of_mem hmem
      rw [List.getLast?_eq_getElem?, List.getElem?_eq_some_iff] at hm
      obtain ⟨hj, rfl⟩ := hm
      have hsorted := List.pairwise_iff_getElem.mp df.inFlight.ordered_keys
      rcases Nat.lt_or_ge i (df.inFlight.keys.length - 1) with hlt | hge
      · exact le_of_lt (Nat.compare_eq_lt.mp (hsorted i _ hi hj hlt))
      · have : i = df.inFlight.keys.length - 1 := by omega
        exact le_of_eq (by simp only [this])
    rw [show frame - m = 0 by omega]
    rfl
  · rfl

/-- Storing the entry that is there changes nothing. -/
theorem insert_getD {m : Std.ExtTreeMap Nat InFlightFrame} {k : Nat} (h : k ∈ m)
    (fr : InFlightFrame) : m.insert k ((m[k]?).getD fr) = m := by
  refine Std.ExtTreeMap.ext_getElem? fun k' => ?_
  rw [Std.ExtTreeMap.getElem?_insert]
  split
  · rename_i heq
    rw [← Nat.compare_eq_eq.mp heq, Std.ExtTreeMap.getElem?_eq_some_getElem h]
    rfl
  · rfl

/-- A decoder that exists accepts its first message of a frame. -/
theorem updateState_new {areas : List Rect} {decoder : Nat} (h : decoder < areas.length)
    (oob : FrameError) (mark : DecoderFrameState → Except FrameError DecoderFrameState)
    (hmark : (mark DecoderFrameState.default).isOk = true) :
    ∃ states, updateState (InFlightFrame.new areas).decoderFrameStates decoder oob mark =
      .ok states := by
  unfold updateState InFlightFrame.new
  simp only [List.getElem?_replicate, h, if_true]
  cases hm : mark DecoderFrameState.default with
  | error e =>
    rw [hm] at hmark
    cases hmark
  | ok st => exact ⟨_, rfl⟩

theorem addFragment_new {areas : List Rect} {frag : DecodedFragmentData}
    (h : frag.decoder < areas.length) :
    ∃ fr, (InFlightFrame.new areas).addFragment frag = .ok fr := by
  obtain ⟨states, hs⟩ := updateState_new h (.invalidDecoder frag.decoder)
    (fun st => st.markSequenceReceived frag.sequence frag.terminal) (by
      unfold DecoderFrameState.markSequenceReceived DecoderFrameState.default
      simp only [Finset.notMem_empty, if_false]
      split
      · split <;> rfl
      · rfl)
  exact ⟨_, by rw [InFlightFrame.addFragment, hs]; rfl⟩

theorem terminateEmpty_new {areas : List Rect} {decoder : Nat} (h : decoder < areas.length) :
    ∃ fr, (InFlightFrame.new areas).terminateEmpty decoder = .ok fr := by
  obtain ⟨states, hs⟩ := updateState_new h (.invalidDecoder decoder)
    (fun st => st.markEmptyFrameTerminalReceived) rfl
  exact ⟨_, by rw [InFlightFrame.terminateEmpty, hs]; rfl⟩

theorem addFragment_ok {fr fr' : InFlightFrame} {frag : DecodedFragmentData}
    (h : fr.addFragment frag = .ok fr') :
    updateState fr.decoderFrameStates frag.decoder (.invalidDecoder frag.decoder)
        (fun st => st.markSequenceReceived frag.sequence frag.terminal) =
          .ok fr'.decoderFrameStates ∧
      fr'.decodedFragments = fr.decodedFragments ++ [frag] := by
  unfold InFlightFrame.addFragment at h
  cases hs : updateState fr.decoderFrameStates frag.decoder (.invalidDecoder frag.decoder) fun st =>
      st.markSequenceReceived frag.sequence frag.terminal with
  | error e =>
    rw [hs] at h
    cases h
  | ok states =>
    rw [hs] at h
    cases h
    exact ⟨rfl, rfl⟩

theorem terminateEmpty_ok {fr fr' : InFlightFrame} {decoder : Nat}
    (h : fr.terminateEmpty decoder = .ok fr') :
    updateState fr.decoderFrameStates decoder (.invalidDecoder decoder)
        (fun st => st.markEmptyFrameTerminalReceived) = .ok fr'.decoderFrameStates ∧
      fr'.decodedFragments = fr.decodedFragments := by
  unfold InFlightFrame.terminateEmpty at h
  cases hs : updateState fr.decoderFrameStates decoder (.invalidDecoder decoder) fun st =>
      st.markEmptyFrameTerminalReceived with
  | error e =>
    rw [hs] at h
    cases h
  | ok states =>
    rw [hs] at h
    cases h
    exact ⟨rfl, rfl⟩

/-- What is in flight once the entry of a frame is stored. -/
theorem total_store {m : Std.ExtTreeMap Nat InFlightFrame} {frame : Nat} {areas : List Rect}
    {fr : InFlightFrame} {new : List DecodedFragmentData}
    (h : fr.decodedFragments =
      ((m[frame]?).getD (InFlightFrame.new areas)).decodedFragments ++ new) :
    total (fun fr => (fr.decodedFragments : Multiset DecodedFragmentData)) (m.insert frame fr) =
      new + total (fun fr => (fr.decodedFragments : Multiset DecodedFragmentData)) m := by
  have hins := total_insert
    (fun fr : InFlightFrame => (fr.decodedFragments : Multiset DecodedFragmentData)) m frame fr
  have hentry : MapTotal.entry
      (fun fr : InFlightFrame => (fr.decodedFragments : Multiset DecodedFragmentData)) m frame =
      (((m[frame]?).getD (InFlightFrame.new areas)).decodedFragments :
        Multiset DecodedFragmentData) := by
    unfold MapTotal.entry
    cases m[frame]? <;> rfl
  rw [hentry, h, ← Multiset.coe_add, add_assoc] at hins
  exact add_left_cancel hins

/-- **Recording a fragment changes nothing when it is refused, and adds the fragment once.** -/
theorem addFragment_held {df : DisplayFramer} {frag : DecodedFragmentData}
    (hdec : frag.decoder < df.decoderAreas.length) :
    (∃ e, df.addFragment frag = (.error (.err e), df)) ∨
    ∃ df', df.addFragment frag = (.ok (), df') ∧ df'.SameAreas df ∧
      df'.complete = df.complete ∧ df'.held = {frag} + df.held := by
  unfold addFragment
  cases hearly : df.earlyDraw[frag.frame]? with
  | some early =>
    simp only
    split
    · exact Or.inl ⟨_, rfl⟩
    · refine Or.inr ⟨_, rfl, SameAreas.refl df, rfl, ?_⟩
      rw [held, held, ← Multiset.coe_add, add_right_comm, add_comm]
      rfl
  | none =>
    simp only
    rw [getElem?_fillGap]
    split
    · rename_i e herr
      by_cases hmem : frag.frame ∈ df.inFlight
      · -- the frame is in flight already, so no gap was filled and its entry is stored back
        rw [fillGap_of_mem hmem, insert_getD hmem]
        exact Or.inl ⟨_, rfl⟩
      · obtain ⟨fr, hfr⟩ := addFragment_new hdec
        rw [Std.ExtTreeMap.getElem?_eq_none hmem, Option.getD_none, hfr] at herr
        cases herr
    · rename_i fr hok
      refine Or.inr ⟨_, rfl, SameAreas.refl df, rfl, ?_⟩
      have hfrags := (addFragment_ok hok).2
      rw [← getElem?_fillGap] at hfrags
      have hstore := total_store hfrags
      rw [total_fillGap] at hstore
      rw [held, held, waiting, hstore]
      exact add_left_comm _ _ _

/-- **Recording an empty frame terminal changes nothing when it is refused, and no fragments.** -/
theorem terminateEmpty_held {df : DisplayFramer} {frame decoder : Nat}
    (hdec : decoder < df.decoderAreas.length) :
    (∃ e, df.terminateEmpty frame decoder = (.error (.err e), df)) ∨
    ∃ df', df.terminateEmpty frame decoder = (.ok (), df') ∧ df'.SameAreas df ∧
      df'.complete = df.complete ∧ df'.held = df.held := by
  unfold terminateEmpty
  cases hearly : df.earlyDraw[frame]? with
  | some early =>
    simp only
    split
    · exact Or.inl ⟨_, rfl⟩
    · exact Or.inr ⟨_, rfl, SameAreas.refl df, rfl, rfl⟩
  | none =>
    simp only
    split
    · rename_i e herr
      by_cases hmem : frame ∈ df.inFlight
      · rw [insert_getD hmem]
        exact Or.inl ⟨_, rfl⟩
      · obtain ⟨fr, hfr⟩ := terminateEmpty_new hdec
        rw [Std.ExtTreeMap.getElem?_eq_none hmem, Option.getD_none, hfr] at herr
        cases herr
    · rename_i fr hok
      refine Or.inr ⟨_, rfl, SameAreas.refl df, rfl, ?_⟩
      have hfrags := (terminateEmpty_ok hok).2
      have hstore := total_store (hfrags.trans (List.append_nil _).symm)
      rw [held, held, waiting, hstore]
      exact congrArg _ (zero_add _)

/-! ## Reports -/

/-- The terminal of a decoder whose report was taken is recorded, and keeps what is held. -/
theorem reportTerminal_taken {df df' : DisplayFramer} (hareas : df'.SameAreas df)
    (hc : df'.complete = df.complete) {frame decoder : Nat} (hcomp : frame ∉ df.complete)
    (hdec : decoder < df.decoderAreas.length)
    (hmem : frame ∈ df'.earlyDraw ∨ frame ∈ df'.inFlight) :
    ∃ df'', df'.reportTerminal frame decoder = (.ok (), df'') ∧ df''.SameAreas df ∧
      df''.held = df'.held := by
  have hok : (df'.reportTerminal frame decoder).1 = .ok () := by
    apply reportTerminal_ok
    · rw [hc]
      exact hcomp
    · rw [hareas.2]
      exact hdec
    · exact hmem
  obtain ⟨hareas', hheld⟩ := reportTerminal_held df' frame decoder
  exact ⟨_, Prod.ext hok rfl, hareas'.trans hareas, hheld⟩

/-- **A report is refused and changes nothing, or it is accepted and its fragment, if it is one, is
added once.** -/
theorem report_spec (codecs : Codecs) (df : DisplayFramer) (r : Report) :
    (∃ e, df.report codecs r = (.error (.err e), df)) ∨
    ∃ df', df.report codecs r = (.ok (), df') ∧ df'.SameAreas df ∧
      r.decoder < df.decoderAreas.length ∧ ((r.decoded codecs).isSome = r.fragment?.isSome) ∧
      df'.held = ↑(r.decoded codecs).toList + df.held := by
  cases r with
  | fragment e =>
    unfold report reportFragment
    simp only
    split
    · exact Or.inl ⟨_, rfl⟩
    · rename_i hdec
      split
      · exact Or.inl ⟨_, rfl⟩
      · rename_i hcomp
        split
        · exact Or.inl ⟨_, rfl⟩
        · rename_i frag hfrag
          obtain ⟨hframe, hdecoder, -, -, -⟩ := EncodedFragmentData.decode_labels hfrag
          rw [not_not] at hdec
          have hdec' := hdec
          rw [← hdecoder] at hdec
          have hmem := (addFragment_spec df frag).2.2
          have hdecoded : Report.decoded codecs (.fragment e) = some frag := by
            rw [Report.decoded, hfrag]
            rfl
          rw [hdecoded]
          rcases addFragment_held hdec with ⟨err, hadd⟩ | ⟨df', hadd, hareas, hc, hheld⟩
          · rw [hadd]
            exact Or.inl ⟨err, rfl⟩
          · rw [hadd] at hmem ⊢
            simp only
            refine Or.inr ?_
            split
            · rw [← hframe] at hcomp
              obtain ⟨df'', hterm, hareas', hheld'⟩ := reportTerminal_taken hareas hc hcomp hdec
                (hmem.2.1.imp (hmem.1 _).mpr id)
              exact ⟨df'', hterm, hareas', hdec', rfl, hheld'.trans hheld⟩
            · exact ⟨df', rfl, hareas, hdec', rfl, hheld⟩
  | emptyTerminal t =>
    unfold report reportEmptyFrameTerminal
    simp only
    split
    · exact Or.inl ⟨_, rfl⟩
    · rename_i hdec
      split
      · exact Or.inl ⟨_, rfl⟩
      · rename_i hcomp
        rw [not_not] at hdec
        have hmem := (terminateEmpty_spec df t.frame t.encoder).2.2
        rcases terminateEmpty_held hdec with ⟨err, hadd⟩ | ⟨df', hadd, hareas, hc, hheld⟩
        · rw [hadd]
          exact Or.inl ⟨err, rfl⟩
        · rw [hadd] at hmem ⊢
          simp only
          obtain ⟨df'', hterm, hareas', hheld'⟩ := reportTerminal_taken hareas hc hcomp hdec
            (hmem.2.1.imp (hmem.1 _).mpr id)
          refine Or.inr ⟨df'', hterm, hareas', hdec, rfl, ?_⟩
          rw [hheld', hheld]
          exact (zero_add _).symm

end DisplayFramer

/-! ## The calls of the media thread -/

inductive FramerCall where
  | reportMm (msg : MediaMessage)
  | getDrawsAndReset

/-- One call; a panic leaves no framer. -/
def framerStep (codecs : Codecs) (fr : Framer) : FramerCall → Option Framer
  | .reportMm msg =>
    match fr.reportMm codecs msg with
    | (.error .panic, _) => none
    | (_, fr') => some fr'
  | .getDrawsAndReset => some fr.getDrawsAndReset.2

/-- **A media message never panics**, and one that is refused leaves the framer as it was. -/
theorem Framer.reportMm_spec (codecs : Codecs) (fr : Framer) (msg : MediaMessage) :
    (∃ e, fr.reportMm codecs msg = (.error (.err e), fr)) ∨
    fr.reportMm codecs msg = (.ok (), fr) ∧ fr.target msg = .ok none ∨
    ∃ r df df', Report.tryFrom msg = .ok r ∧ fr.target msg = .ok (some msg.display) ∧
      fr.displays[msg.display]? = some df ∧ df.report codecs r = (.ok (), df') ∧
      fr.reportMm codecs msg =
        (.ok (), { fr with displays := fr.displays.set msg.display df' }) := by
  rcases fr.reportMm_eq codecs msg with ⟨e, -, hr⟩ | ⟨htarget, hr⟩ | ⟨r, hfrom, hlt, htarget, hr⟩
  · exact Or.inl ⟨e, hr⟩
  · exact Or.inr (Or.inl ⟨hr, htarget⟩)
  · have hdf : fr.displays[msg.display]? = some fr.displays[msg.display] :=
      List.getElem?_eq_getElem hlt
    rw [Framer.handTo, hdf] at hr
    simp only at hr
    rcases DisplayFramer.report_spec codecs fr.displays[msg.display] r with ⟨e, h⟩ | ⟨df', h, -⟩
    · refine Or.inl ⟨e, ?_⟩
      rw [hr, h]
      simp only [List.set_getElem_self]
    · refine Or.inr (Or.inr ⟨r, _, df', hfrom, htarget, hdf, h, ?_⟩)
      rw [hr, h]

/-- Of the messages that are not refused, those of the current configuration go to a display. -/
theorem Framer.current_iff_target {fr : Framer} {msg : MediaMessage} {t : Option Nat}
    (h : fr.target msg = .ok t) : msg.displayConfig = fr.displayConfig.id ↔ t.isSome = true := by
  unfold Framer.target at h
  split at h
  · cases h
  · split at h
    · cases h
      simp only [Option.isSome_none, Bool.false_eq_true, iff_false]
      omega
    · split at h
      · cases h
      · rename_i hge heq
        split at h
        · cases h
          simpa using heq
        · cases h

theorem framerStep_isSome (codecs : Codecs) (fr : Framer) (c : FramerCall) :
    (framerStep codecs fr c).isSome = true := by
  cases c with
  | getDrawsAndReset => rfl
  | reportMm msg =>
    simp only [framerStep]
    rcases fr.reportMm_spec codecs msg with ⟨e, h⟩ | ⟨h, -⟩ | ⟨r, df, df', -, -, -, -, h⟩
    · rw [h]
      rfl
    · rw [h]
      rfl
    · rw [h]
      rfl

/-- **A refused media message leaves the framer untouched, and no message panics**: every sequence
of calls is carried out to its end, and in the state it leaves every message that is refused
changes nothing. -/
theorem refused_unchanged (codecs : Codecs) (dc : DisplayConfiguration) (calls : List FramerCall) :
    ∃ fr, Machine.run (framerStep codecs) (Framer.new dc) calls = some fr ∧
      ∀ msg, (fr.reportMm codecs msg).1 ≠ .error .panic ∧
        ∀ e, (fr.reportMm codecs msg).1 = .error e → (fr.reportMm codecs msg).2 = fr := by
  obtain ⟨fr, hr⟩ := Machine.run_isSome (framerStep_isSome codecs) calls (Framer.new dc)
  refine ⟨fr, hr, fun msg => ?_⟩
  rcases fr.reportMm_spec codecs msg with ⟨e, h⟩ | ⟨h, -⟩ | ⟨r, df, df', -, -, -, -, h⟩
  · rw [h]
    exact ⟨by simp, fun e' _ => rfl⟩
  · rw [h]
    exact ⟨by simp, fun e' _ => rfl⟩
  · rw [h]
    exact ⟨by simp, (fun e' he => nomatch he)⟩

end ApertureC
