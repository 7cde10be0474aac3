import ApertureC.FrameFragments

/-!
# Repeated fragments

A display's framer notes what it has received of a frame, so that a fragment that comes again is
refused.

* `FragmentKey`, `noteAccepted`, `acceptStep` — the fragments that a framer has accepted.
* `DecoderFrameState.Knows`, `Remembers` — what a decoder's state and a framer know of them.
* `Repeats` — an accepted fragment comes again while its decoder's frame is terminated and
  incomplete; the state no longer tells what has come.
* `RefillsEarly` — a frame that is drawn early is put in flight again, as if nothing of it had come.

Principal results: `addFragment_remembers` (a fragment that is recorded is new, and is known from
then on), `repeats_accepted` (every one of the first kind is accepted again) and `accepted_once`
(**no fragment is accepted twice in a run without the two**); `accepted_twice` is a run for each.
-/

set_option autoImplicit false

namespace ApertureC

open Geometry

/-- What tells the fragments of a display apart. -/
structure FragmentKey where
  frame : Nat
  decoder : Nat
  sequence : Nat
  deriving DecidableEq, Repr

def EncodedFragmentData.key (e : EncodedFragmentData) : FragmentKey :=
  ⟨e.frame, e.decoder, e.sequence⟩

def DecodedFragmentData.key (frag : DecodedFragmentData) : FragmentKey :=
  ⟨frag.frame, frag.decoder, frag.sequence⟩

variable {accepted accepted' : List FragmentKey} {frame decoder : Nat}

/-! ## One decoder -/

namespace DecoderFrameState

variable {st st' : DecoderFrameState} {sequence : Nat} {terminal : Bool}

def isTerminatedIncomplete : DecoderFrameState → Bool
  | .terminatedIncomplete _ => true
  | _ => false

/-- While it is in flight, the decoder's frame has received every accepted fragment. -/
def Knows (accepted : List FragmentKey) (frame decoder : Nat) (st : DecoderFrameState) : Prop :=
  ∀ received, st = .inFlight received → ∀ s, ⟨frame, decoder, s⟩ ∈ accepted → s ∈ received

theorem Knows.mono (hk : st.Knows accepted frame decoder)
    (h : ∀ s, ⟨frame, decoder, s⟩ ∈ accepted' → ⟨frame, decoder, s⟩ ∈ accepted) :
    st.Knows accepted' frame decoder :=
  fun received hst s hs => hk received hst s (h s hs)

/-- **A fragment that is marked is known.** -/
theorem markSequenceReceived_knows (hk : st.Knows accepted frame decoder)
    (h : st.markSequenceReceived sequence terminal = .ok st') :
    st'.Knows (accepted ++ [⟨frame, decoder, sequence⟩]) frame decoder := by
  intro received' hst' s hs
  cases st with
  | inFlight received =>
    simp only [markSequenceReceived] at h
    split at h
    · cases h
    · split at h
      · split at h <;> cases h <;> cases hst'
      · cases h
        cases hst'
        rw [Finset.mem_insert]
        rcases List.mem_append.mp hs with hs | hs
        · exact Or.inr (hk received rfl s hs)
        · rw [List.mem_singleton, FragmentKey.mk.injEq] at hs
          exact Or.inl hs.2.2
  | terminatedIncomplete missing =>
    simp only [markSequenceReceived] at h
    split at h
    · cases h
    · split at h <;> cases h <;> cases hst'
  | complete => cases h

/-- **A fragment that is marked is new**, unless the decoder's frame is terminated and
incomplete. -/
theorem markSequenceReceived_fresh (hk : st.Knows accepted frame decoder)
    (hst : terminal = false → st.isTerminatedIncomplete = false)
    (h : st.markSequenceReceived sequence terminal = .ok st') :
    ⟨frame, decoder, sequence⟩ ∉ accepted := by
  intro hmem
  cases st with
  | inFlight received =>
    simp only [markSequenceReceived] at h
    rw [if_pos (hk received rfl sequence hmem)] at h
    cases h
  | terminatedIncomplete missing =>
    cases terminal with
    | true => cases h
    | false => exact absurd (hst rfl) Bool.noConfusion
  | complete => cases h

/-- Nothing but a terminal is refused while the decoder's frame is terminated and incomplete. -/
theorem markSequenceReceived_terminated (h : st.isTerminatedIncomplete = true) (sequence : Nat) :
    ∃ st', st.markSequenceReceived sequence false = .ok st' := by
  cases st with
  | inFlight received => cases h
  | complete => cases h
  | terminatedIncomplete missing =>
    simp only [markSequenceReceived, Bool.false_eq_true, if_false]
    split
    · exact ⟨_, rfl⟩
    · exact ⟨_, rfl⟩

theorem markEmptyFrameTerminalReceived_knows
    (h : st.markEmptyFrameTerminalReceived = .ok st') : st'.Knows accepted frame decoder := by
  intro received hst'
  cases st with
  | inFlight received =>
    simp only [markEmptyFrameTerminalReceived] at h
    split at h
    · cases h
      cases hst'
    · cases h
  | terminatedIncomplete missing => cases h
  | complete => cases h

end DecoderFrameState

/-! ## One frame -/

/-- Every decoder's state knows the accepted fragments of the frame. -/
def Knows (accepted : List FragmentKey) (frame : Nat) (states : List DecoderFrameState) : Prop :=
  ∀ (i : Nat) (st : DecoderFrameState), states[i]? = some st → st.Knows accepted frame i

theorem Knows.mono {states : List DecoderFrameState} (hk : Knows accepted frame states)
    (h : ∀ key ∈ accepted', key ∈ accepted ∨ key.frame ≠ frame) :
    Knows accepted' frame states := by
  refine fun i st hi => (hk i st hi).mono fun s hs => ?_
  rcases h _ hs with hs | hne
  · exact hs
  · exact absurd rfl hne

/-- The states of one frame say nothing about the fragments of another. -/
theorem Knows.other {f : Nat} {states : List DecoderFrameState}
    (hacc : ∀ key ∈ accepted', key ∈ accepted ∨ key.frame = frame) (hf : f ≠ frame)
    (hk : Knows accepted f states) : Knows accepted' f states := by
  refine hk.mono fun key hkey => (hacc key hkey).imp_right ?_
  rintro rfl rfl
  exact hf rfl

theorem knows_new (areas : List Rect) (h : ∀ key ∈ accepted, key.frame ≠ frame) :
    Knows accepted frame (InFlightFrame.new areas).decoderFrameStates :=
  fun _ _ _ _ _ _ hs => absurd rfl (h _ hs)

theorem updateState_ok {states states' : List DecoderFrameState} {oob : FrameError}
    {mark : DecoderFrameState → Except FrameError DecoderFrameState}
    (h : updateState states decoder oob mark = .ok states') : ∃ st st',
      states[decoder]? = some st ∧ mark st = .ok st' ∧ states' = states.set decoder st' := by
  unfold updateState at h
  cases hst : states[decoder]? with
  | none =>
    rw [hst] at h
    cases h
  | some st =>
    rw [hst] at h
    simp only at h
    cases hmark : mark st with
    | error e =>
      rw [hmark] at h
      cases h
    | ok st' =>
      rw [hmark] at h
      cases h
      exact ⟨st, st', rfl, hmark, rfl⟩

theorem updateState_mark {states : List DecoderFrameState} {st st' : DecoderFrameState}
    {oob : FrameError} {mark : DecoderFrameState → Except FrameError DecoderFrameState}
    (hget : states[decoder]? = some st) (hmark : mark st = .ok st') :
    updateState states decoder oob mark = .ok (states.set decoder st') := by
  rw [updateState, hget]
  simp only [hmark]
  rfl

/-- A frame's states know what they knew when the state of one decoder changes. -/
theorem Knows.set {states : List DecoderFrameState} {st' : DecoderFrameState}
    (hk : Knows accepted frame states)
    (hacc : ∀ key ∈ accepted', key ∈ accepted ∨ key.decoder = decoder)
    (hst' : st'.Knows accepted' frame decoder) :
    Knows accepted' frame (states.set decoder st') := by
  intro i st hi
  rw [List.getElem?_set] at hi
  split at hi
  · rename_i heq
    split at hi
    · cases hi
      rw [← heq]
      exact hst'
    · cases hi
  · rename_i hne
    refine (hk i st hi).mono fun s hs => ?_
    rcases hacc _ hs with hs | heq
    · exact hs
    · exact absurd heq.symm hne

/-- **A fragment that a frame's states accept is new and known from then on.** -/
theorem Knows.fragment {states states' : List DecoderFrameState} {oob : FrameError}
    {sequence : Nat} {terminal : Bool} (hk : Knows accepted frame states)
    (hst : ∀ st, states[decoder]? = some st → ⟨frame, decoder, sequence⟩ ∈ accepted →
      terminal = false → st.isTerminatedIncomplete = false)
    (h : updateState states decoder oob (fun st => st.markSequenceReceived sequence terminal) =
      .ok states') :
    ⟨frame, decoder, sequence⟩ ∉ accepted ∧
      Knows (accepted ++ [⟨frame, decoder, sequence⟩]) frame states' := by
  obtain ⟨st, st', hget, hmark, rfl⟩ := updateState_ok h
  have hknows := hk decoder st hget
  refine ⟨fun hmem => ?_, hk.set ?_ (DecoderFrameState.markSequenceReceived_knows hknows hmark)⟩
  · exact DecoderFrameState.markSequenceReceived_fresh hknows (hst st hget hmem) hmark hmem
  · intro key hkey
    rcases List.mem_append.mp hkey with hkey | hkey
    · exact Or.inl hkey
    · rw [List.mem_singleton.mp hkey]
      exact Or.inr rfl

theorem Knows.emptyTerminal {states states' : List DecoderFrameState} {oob : FrameError}
    (hk : Knows accepted frame states)
    (h : updateState states decoder oob (fun st => st.markEmptyFrameTerminalReceived) =
      .ok states') : Knows accepted frame states' := by
  obtain ⟨st, st', -, hmark, rfl⟩ := updateState_ok h
  exact hk.set (fun key hkey => Or.inl hkey)
    (DecoderFrameState.markEmptyFrameTerminalReceived_knows hmark)

/-! ## One display -/

namespace DisplayFramer

variable {df df' : DisplayFramer}

/-- A framer knows the fragments it has accepted, of every frame that is not complete. -/
structure Remembers (df : DisplayFramer) (accepted : List FragmentKey) : Prop where
  apart : ∀ f ∈ df.inFlight, f ∈ df.earlyDraw → f ∈ df.complete
  early : ∀ f early, df.earlyDraw[f]? = some early →
    f ∈ df.complete ∨ Knows accepted f early.decoderFrameStates
  inFlight : ∀ f fr, df.inFlight[f]? = some fr →
    f ∈ df.complete ∨ Knows accepted f fr.decoderFrameStates
  staged : ∀ key ∈ accepted,
    key.frame ∈ df.complete ∨ key.frame ∈ df.earlyDraw ∨ key.frame ∈ df.inFlight

theorem new_remembers (area : Rect) (areas : List Rect) : (new area areas).Remembers [] := by
  refine ⟨fun f hf => ?_, fun f early hf => ?_, fun f fr hf => ?_, fun key hkey => ?_⟩
  · simp [new] at hf
  · simp [new] at hf
  · simp [new] at hf
  · cases hkey

/-- No fragment of a frame that has no stage was accepted. -/
theorem Remembers.frame_ne (h : df.Remembers accepted) (hcomp : frame ∉ df.complete)
    (hearly : frame ∉ df.earlyDraw) (hin : frame ∉ df.inFlight) :
    ∀ key ∈ accepted, key.frame ≠ frame := by
  rintro key hkey rfl
  rcases h.staged key hkey with hc | he | hf
  · exact hcomp hc
  · exact hearly he
  · exact hin hf

/-- The entry of a frame in flight, or a new one, knows the accepted fragments. -/
theorem Remembers.entry (h : df.Remembers accepted) (hcomp : frame ∉ df.complete)
    (hearly : frame ∉ df.earlyDraw) : Knows accepted frame (df.entry frame).decoderFrameStates := by
  unfold DisplayFramer.entry
  cases hfr : df.inFlight[frame]? with
  | some fr => exact (h.inFlight frame fr hfr).resolve_left hcomp
  | none => exact knows_new _ (h.frame_ne hcomp hearly (by grind))

/-- The states of a frame drawn early change. -/
theorem Remembers.insert_early (h : df.Remembers accepted) {states : List DecoderFrameState}
    (hacc : ∀ key ∈ accepted', key ∈ accepted ∨ key.frame = frame) (hmem : frame ∈ df.earlyDraw)
    (hk : Knows accepted' frame states) (queue : List DecodedFragmentData) :
    ({ df with
      earlyDraw := df.earlyDraw.insert frame ⟨states⟩
      undrawnFragments := queue } : DisplayFramer).Remembers accepted' := by
  refine ⟨fun f hf he => ?_, fun f early he => ?_, fun f fr hfr => ?_, fun key hkey => ?_⟩
  · rw [Std.ExtTreeMap.mem_insert, Nat.compare_eq_eq] at he
    refine h.apart f hf ?_
    rcases he with rfl | he
    · exact hmem
    · exact he
  · rw [Std.ExtTreeMap.getElem?_insert] at he
    split at he
    · rename_i heq
      cases he
      rw [← Nat.compare_eq_eq.mp heq]
      exact Or.inr hk
    · rename_i hne
      exact (h.early f early he).imp_right (Knows.other hacc fun heq => hne (Nat.compare_eq_eq.mpr heq.symm))
  · by_cases hf : f = frame
    · rw [hf] at hfr ⊢
      exact Or.inl (h.apart frame (by grind) hmem)
    · exact (h.inFlight f fr hfr).imp_right (Knows.other hacc hf)
  · rw [Std.ExtTreeMap.mem_insert, Nat.compare_eq_eq]
    rcases hacc key hkey with hkey | heq
    · exact (h.staged key hkey).imp_right fun h => h.imp_left Or.inr
    · exact Or.inr (Or.inl (Or.inl heq.symm))

/-- A frame in flight is stored. -/
theorem Remembers.insert_inFlight (h : df.Remembers accepted) {fr : InFlightFrame}
    (hacc : ∀ key ∈ accepted', key ∈ accepted ∨ key.frame = frame) (hnot : frame ∉ df.earlyDraw)
    (hk : Knows accepted' frame fr.decoderFrameStates) :
    ({ df with inFlight := df.inFlight.insert frame fr } : DisplayFramer).Remembers accepted' := by
  refine ⟨fun f hf he => ?_, fun f early he => ?_, fun f fr' hfr => ?_, fun key hkey => ?_⟩
  · rw [Std.ExtTreeMap.mem_insert, Nat.compare_eq_eq] at hf
    rcases hf with rfl | hf
    · exact absurd he hnot
    · exact h.apart f hf he
  · have hf : f ≠ frame := by
      rintro rfl
      exact hnot (by grind)
    exact (h.early f early he).imp_right (Knows.other hacc hf)
  · rw [Std.ExtTreeMap.getElem?_insert] at hfr
    split at hfr
    · rename_i heq
      cases hfr
      rw [← Nat.compare_eq_eq.mp heq]
      exact Or.inr hk
    · rename_i hne
      exact (h.inFlight f fr' hfr).imp_right
        (Knows.other hacc fun heq => hne (Nat.compare_eq_eq.mpr heq.symm))
  · rw [Std.ExtTreeMap.mem_insert, Nat.compare_eq_eq]
    rcases hacc key hkey with hkey | heq
    · exact (h.staged key hkey).imp_right fun h => h.imp_right Or.inr
    · exact Or.inr (Or.inr (Or.inl heq.symm))

/-! ## Filling the gap -/

/-- A frame that fills the gap is new. -/
theorem getElem?_fillGap_cases {f : Nat} {fr : InFlightFrame}
    (h : (df.fillGap frame)[f]? = some fr) :
    df.inFlight[f]? = some fr ∨ f ∉ df.inFlight ∧ fr = InFlightFrame.new df.decoderAreas := by
  have hfold : ∀ (fs : List Nat) (m : Std.ExtTreeMap Nat InFlightFrame),
      (fs.foldl (fun m f => m.insertIfNew f (InFlightFrame.new df.decoderAreas)) m)[f]? =
        some fr → m[f]? = some fr ∨ f ∉ m ∧ fr = InFlightFrame.new df.decoderAreas := by
    intro fs
    induction fs with
    | nil => exact fun m h => Or.inl h
    | cons g fs ih =>
      intro m h
      rcases ih _ h with h | ⟨hnot, hnew⟩
      · rw [Std.ExtTreeMap.getElem?_insertIfNew] at h
        split at h
        · rename_i heq
          cases h
          rw [← Nat.compare_eq_eq.mp heq.1]
          exact Or.inr ⟨heq.2, rfl⟩
        · exact Or.inl h
      · refine Or.inr ⟨fun hmem => hnot ?_, hnew⟩
        exact Std.ExtTreeMap.mem_insertIfNew.mpr (Or.inr hmem)
  unfold fillGap at h
  split at h
  · exact hfold _ _ h
  · exact Or.inl h

/-- **Filling the gap forgets nothing when no frame in it is drawn early.** -/
theorem Remembers.fillGap (h : df.Remembers accepted)
    (hclear : ∀ g < frame, (∃ m ∈ df.inFlight.keys.getLast?, m < g) → g ∈ df.earlyDraw →
      g ∈ df.complete) :
    ({ df with inFlight := df.fillGap frame } : DisplayFramer).Remembers accepted := by
  have hapart : ∀ f ∈ df.fillGap frame, f ∈ df.earlyDraw → f ∈ df.complete := by
    intro f hf he
    rcases (mem_fillGap df frame f).mp hf with hf | ⟨m, hm, hle, hlt⟩
    · exact h.apart f hf he
    · by_cases hmf : m = f
      · rw [hmf] at hm
        exact h.apart f (last_mem hm) he
      · exact hclear f hlt ⟨m, hm, by omega⟩ he
  refine ⟨hapart, h.early, fun f fr hfr => ?_, fun key hkey => ?_⟩
  · rcases getElem?_fillGap_cases hfr with hfr' | ⟨hnot, rfl⟩
    · exact h.inFlight f fr hfr'
    · by_cases hcomp : f ∈ df.complete
      · exact Or.inl hcomp
      · have hmem : f ∈ df.fillGap frame := by
          simp only at hfr
          grind
        refine Or.inr (knows_new _ (h.frame_ne hcomp ?_ hnot))
        exact fun he => hcomp (hapart f hmem he)
  · refine (h.staged key hkey).imp_right fun h => h.imp_right fun hf => ?_
    exact (mem_fillGap df frame key.frame).mpr (Or.inl hf)

/-! ## Recording a fragment -/

/-- The state of a decoder in the stage that its frame is in. -/
def decoderState (df : DisplayFramer) (frame decoder : Nat) : Option DecoderFrameState :=
  match df.earlyDraw[frame]? with
  | some early => early.decoderFrameStates[decoder]?
  | none => (df.inFlight[frame]?).bind fun fr => fr.decoderFrameStates[decoder]?

theorem mem_append_key {frag : DecodedFragmentData} :
    ∀ key ∈ accepted ++ [frag.key], key ∈ accepted ∨ key.frame = frag.frame := by
  intro key hkey
  rcases List.mem_append.mp hkey with hkey | hkey
  · exact Or.inl hkey
  · rw [List.mem_singleton.mp hkey]
    exact Or.inr rfl

/-- **A fragment that is recorded is new, and is known from then on.** -/
theorem addFragment_remembers {frag : DecodedFragmentData} (h : df.Remembers accepted)
    (hcomp : frag.frame ∉ df.complete)
    (hclear : frag.frame ∉ df.earlyDraw → ∀ g < frag.frame,
      (∃ m ∈ df.inFlight.keys.getLast?, m < g) → g ∈ df.earlyDraw → g ∈ df.complete)
    (hst : ∀ st, df.decoderState frag.frame frag.decoder = some st → frag.key ∈ accepted →
      frag.terminal = false → st.isTerminatedIncomplete = false)
    (hadd : df.addFragment frag = (.ok (), df')) :
    frag.key ∉ accepted ∧ df'.Remembers (accepted ++ [frag.key]) := by
  unfold addFragment at hadd
  split at hadd
  · rename_i early hearly
    simp only [decoderState, hearly] at hst
    unfold EarlyDrawFrame.markFragmentReceived at hadd
    cases hs : updateState early.decoderFrameStates frag.decoder
        (.fragmentNoDecoder frag.sequence frag.decoder)
        fun st => st.markSequenceReceived frag.sequence frag.terminal with
    | error e =>
      rw [hs] at hadd
      cases hadd
    | ok states =>
      rw [hs] at hadd
      cases hadd
      have hk := (h.early frag.frame early hearly).resolve_left hcomp
      obtain ⟨hfresh, hknows⟩ := hk.fragment hst hs
      exact ⟨hfresh, h.insert_early mem_append_key (by grind) hknows _⟩
  · rename_i hnone
    have hnot : frag.frame ∉ df.earlyDraw := by grind
    have hgap := h.fillGap (hclear hnot)
    simp only at hadd
    split at hadd
    · cases hadd
    · rename_i fr hok
      cases hadd
      rw [getElem?_fillGap] at hok
      have hk := h.entry hcomp hnot
      have hstates : ∀ st, ((df.inFlight[frag.frame]?).getD
          (InFlightFrame.new df.decoderAreas)).decoderFrameStates[frag.decoder]? = some st →
          frag.key ∈ accepted → frag.terminal = false → st.isTerminatedIncomplete = false := by
        intro st hget hmem
        cases hfr : df.inFlight[frag.frame]? with
        | some fr =>
          rw [hfr] at hget
          exact hst st (by simp [decoderState, hnone, hfr] at hget ⊢; exact hget) hmem
        | none => exact absurd rfl (h.frame_ne hcomp hnot (by grind) _ hmem)
      obtain ⟨hfresh, hknows⟩ := hk.fragment hstates (addFragment_ok hok).1
      exact ⟨hfresh, hgap.insert_inFlight mem_append_key hnot hknows⟩

/-! ## Terminals -/

/-- The states of the frames drawn early are those that were there, or those of the older frames. -/
theorem foldl_drawEarly_early {P : Nat → List DecoderFrameState → Prop}
    (l : List (Nat × InFlightFrame)) (hl : ∀ e ∈ l, P e.1 e.2.decoderFrameStates)
    (hdf : ∀ f early, df.earlyDraw[f]? = some early → P f early.decoderFrameStates) :
    ∀ f early, (l.foldl drawEarly df).earlyDraw[f]? = some early →
      P f early.decoderFrameStates := by
  induction l generalizing df with
  | nil => exact hdf
  | cons e l ih =>
    obtain ⟨id, fr⟩ := e
    rw [List.forall_mem_cons] at hl
    refine ih hl.2 fun f early hf => ?_
    cases hc : allComplete fr.decoderFrameStates with
    | true =>
      simp only [drawEarly, InFlightFrame.forceComplete, hc, if_true] at hf
      exact hdf f early hf
    | false =>
      simp only [drawEarly, InFlightFrame.forceComplete, hc, Bool.false_eq_true, if_false,
        Std.ExtTreeMap.getElem?_insert] at hf
      split at hf
      · rename_i heq
        cases hf
        rw [← Nat.compare_eq_eq.mp heq]
        exact hl.1
      · exact hdf f early hf

theorem completeInFlight_early (h : df.Remembers accepted) (dfs : List DecodedFragmentData) :
    ∀ f early, (df.completeInFlight frame dfs).earlyDraw[f]? = some early →
      f ∈ df.complete ∨ Knows accepted f early.decoderFrameStates := by
  unfold completeInFlight
  apply foldl_drawEarly_early (P := fun f states => f ∈ df.complete ∨ Knows accepted f states)
  · intro e he
    rw [Std.ExtTreeMap.mem_toList_iff_getElem?_eq_some] at he
    exact h.inFlight e.1 e.2 (by grind)
  · exact h.early

theorem completeInFlight_remembers (h : df.Remembers accepted)
    (dfs : List DecodedFragmentData) : (df.completeInFlight frame dfs).Remembers accepted := by
  obtain ⟨hin, hearly, hcomp⟩ := completeInFlight_spec df frame dfs
  have hkept : ∀ g ∈ df.complete, g ∈ (df.completeInFlight frame dfs).complete :=
    fun g hg => (hcomp g).mpr (Or.inl (Or.inr hg))
  have hstill : ∀ g fr, (df.completeInFlight frame dfs).inFlight[g]? = some fr →
      df.inFlight[g]? = some fr ∧ frame < g := by
    intro g fr hg
    rw [hin, Option.ite_none_right_eq_some] at hg
    exact hg.symm
  refine ⟨fun g hg he => ?_, fun g early he => ?_, fun g fr hg => ?_, fun key hkey => ?_⟩
  · obtain ⟨hg, hlt⟩ := hstill g _ (Std.ExtTreeMap.getElem?_eq_some_getElem hg)
    rcases (hearly g).mp he with he | ⟨fr, ⟨-, hgt⟩, -⟩
    · exact hkept g (h.apart g (by grind) he)
    · omega
  · exact (completeInFlight_early h dfs g early he).imp_left (hkept g)
  · exact (h.inFlight g fr (hstill g fr hg).1).imp_left (hkept g)
  · rcases h.staged key hkey with hc | he | hf
    · exact Or.inl (hkept _ hc)
    · exact Or.inr (Or.inl ((hearly _).mpr (Or.inl he)))
    · have hget := Std.ExtTreeMap.getElem?_eq_some_getElem hf
      rcases Nat.lt_trichotomy key.frame frame with hlt | heq | hgt
      · -- an older frame is drawn early, or complete
        cases hall : allComplete df.inFlight[key.frame].decoderFrameStates with
        | true => exact Or.inl ((hcomp _).mpr (Or.inr ⟨_, ⟨hget, hlt⟩, hall⟩))
        | false => exact Or.inr (Or.inl ((hearly _).mpr (Or.inr ⟨_, ⟨hget, hlt⟩, hall⟩)))
      · exact Or.inl ((hcomp _).mpr (Or.inl (Or.inl heq)))
      · have hget' := hin key.frame
        rw [if_pos hgt, hget] at hget'
        exact Or.inr (Or.inr (Std.ExtTreeMap.mem_iff_isSome_getElem?.mpr (by rw [hget']; rfl)))

/-- **A terminal forgets nothing.** -/
theorem reportTerminal_remembers (h : df.Remembers accepted) (frame decoder : Nat) :
    (df.reportTerminal frame decoder).2.Remembers accepted := by
  unfold reportTerminal
  split
  · exact h
  · split
    · exact h
    · split
      · split
        · refine ⟨fun f hf he => ?_, fun f early he => ?_, fun f fr hf => ?_, fun key hkey => ?_⟩
          · exact Finset.mem_insert_of_mem (h.apart f hf (Std.ExtTreeMap.mem_of_mem_erase he))
          · exact (h.early f early (by grind)).imp_left Finset.mem_insert_of_mem
          · exact (h.inFlight f fr hf).imp_left Finset.mem_insert_of_mem
          · have := h.staged key hkey
            grind
        · exact h
      · split
        · split
          · exact completeInFlight_remembers h _
          · exact h
        · exact h

/-! ## Reports -/

/-- The fragments that have been accepted, after a report. -/
def noteAccepted (codecs : Codecs) (df : DisplayFramer) (r : Report)
    (accepted : List FragmentKey) : List FragmentKey :=
  match r, (df.report codecs r).1 with
  | .fragment e, .ok _ => accepted ++ [e.key]
  | _, _ => accepted

theorem noteAccepted_refused {codecs : Codecs} {r : Report} {err : Failure}
    (h : (df.report codecs r).1 = .error err) : noteAccepted codecs df r accepted = accepted := by
  unfold noteAccepted
  rw [h]
  cases r <;> rfl

theorem noteAccepted_fragment {codecs : Codecs} {e : EncodedFragmentData}
    (h : (df.report codecs (.fragment e)).1 = .ok ()) :
    noteAccepted codecs df (.fragment e) accepted = accepted ++ [e.key] := by
  unfold noteAccepted
  rw [h]

theorem noteAccepted_emptyTerminal (codecs : Codecs) (t : EmptyFrameTerminal) :
    noteAccepted codecs df (.emptyTerminal t) accepted = accepted := by
  unfold noteAccepted
  split
  · rename_i heq _
    cases heq
  · rfl

/-- One report, with a note of the fragments that have been accepted. -/
abbrev acceptStep (codecs : Codecs) :
    DisplayFramer × List FragmentKey → Report → Option (DisplayFramer × List FragmentKey) :=
  Machine.observe (step codecs) (noteAccepted codecs)

/-- An accepted fragment that decodes comes again, not as a terminal, while its decoder's frame is
terminated and incomplete. -/
def Repeats (codecs : Codecs) (x : DisplayFramer × List FragmentKey) (e : EncodedFragmentData) :
    Prop :=
  (e.key ∈ x.2 ∧ e.terminal = false) ∧
    (e.decoder < x.1.decoderAreas.length ∧ e.frame ∉ x.1.complete ∧
      (e.decode codecs).isOk = true) ∧
    (x.1.decoderState e.frame e.decoder).any DecoderFrameState.isTerminatedIncomplete = true

/-- A fragment that fills the gap finds a frame in it that is drawn early and incomplete. -/
def RefillsEarly (codecs : Codecs) (df : DisplayFramer) (e : EncodedFragmentData) : Prop :=
  df.FillsGap codecs e ∧ ∃ g < e.frame,
    (∃ m ∈ df.inFlight.keys.getLast?, m < g) ∧ g ∈ df.earlyDraw ∧ g ∉ df.complete

/-- The report is neither an unnoticed repetition nor does it put a frame in flight again. -/
def Unrepeated (codecs : Codecs) (x : DisplayFramer × List FragmentKey) : Report → Prop
  | .fragment e => ¬ Repeats codecs x e ∧ ¬ RefillsEarly codecs x.1 e
  | .emptyTerminal _ => True

instance (codecs : Codecs) (x : DisplayFramer × List FragmentKey) (e : EncodedFragmentData) :
    Decidable (Repeats codecs x e) :=
  inferInstanceAs (Decidable ((_ ∧ _) ∧ (_ ∧ _ ∧ _) ∧ _))

instance (codecs : Codecs) (df : DisplayFramer) (e : EncodedFragmentData) :
    Decidable (df.RefillsEarly codecs e) :=
  inferInstanceAs (Decidable (df.FillsGap codecs e ∧ ∃ g < e.frame,
    (∃ m ∈ df.inFlight.keys.getLast?, m < g) ∧ g ∈ df.earlyDraw ∧ g ∉ df.complete))

instance (codecs : Codecs) (x : DisplayFramer × List FragmentKey) :
    ∀ r, Decidable (Unrepeated codecs x r)
  | .fragment e => inferInstanceAs (Decidable (¬ Repeats codecs x e ∧ ¬ RefillsEarly codecs x.1 e))
  | .emptyTerminal _ => inferInstanceAs (Decidable True)

/-- What is left of a report of a fragment once it has passed the checks. -/
theorem reportFragment_ok {codecs : Codecs} {e : EncodedFragmentData}
    (h : df.reportFragment codecs e = (.ok (), df')) : ∃ frag df₁,
      e.decode codecs = .ok frag ∧ e.decoder < df.decoderAreas.length ∧ e.frame ∉ df.complete ∧
      df.addFragment frag = (.ok (), df₁) ∧
      df' = if frag.terminal then (df₁.reportTerminal frag.frame frag.decoder).2 else df₁ := by
  unfold reportFragment at h
  split at h
  · cases h
  · rename_i hdec
    split at h
    · cases h
    · rename_i hcomp
      split at h
      · cases h
      · rename_i frag hfrag
        split at h
        · cases h
        · rename_i df₁ hadd
          refine ⟨frag, df₁, hfrag, not_not.mp hdec, hcomp, hadd, ?_⟩
          split at h
          · rename_i hterm
            rw [if_pos hterm, h]
          · rename_i hterm
            cases h
            rw [if_neg hterm]

/-- **An accepted fragment is new, and is known from then on**, unless it is an unnoticed repetition
or puts a frame in flight again. -/
theorem reportFragment_remembers {codecs : Codecs} {e : EncodedFragmentData}
    (h : df.Remembers accepted) (hrep : ¬ Repeats codecs (df, accepted) e)
    (hfill : ¬ df.RefillsEarly codecs e) (hok : df.reportFragment codecs e = (.ok (), df')) :
    e.key ∉ accepted ∧ df'.Remembers (accepted ++ [e.key]) := by
  obtain ⟨frag, df₁, hfrag, hdec, hcomp, hadd, rfl⟩ := reportFragment_ok hok
  obtain ⟨hframe, hdecoder, hsequence, hterminal, -⟩ := EncodedFragmentData.decode_labels hfrag
  have hisOk : (e.decode codecs).isOk = true := by
    rw [hfrag]
    rfl
  have hkey : frag.key = e.key := by
    rw [DecodedFragmentData.key, hframe, hdecoder, hsequence]
    rfl
  have hclear : frag.frame ∉ df.earlyDraw → ∀ g < frag.frame,
      (∃ m ∈ df.inFlight.keys.getLast?, m < g) → g ∈ df.earlyDraw → g ∈ df.complete := by
    rw [hframe]
    intro hnot g hlt hm he
    by_contra hg
    exact hfill ⟨⟨hdec, hcomp, hisOk, hnot⟩, g, hlt, hm, he, hg⟩
  have hst : ∀ st, df.decoderState frag.frame frag.decoder = some st → frag.key ∈ accepted →
      frag.terminal = false → st.isTerminatedIncomplete = false := by
    rw [hkey, hframe, hdecoder, hterminal]
    intro st hget hmem hterm
    by_contra hst
    refine hrep ⟨⟨hmem, hterm⟩, ⟨hdec, hcomp, hisOk⟩, ?_⟩
    rw [hget]
    simpa using hst
  obtain ⟨hfresh, hremembers⟩ := addFragment_remembers h (hframe ▸ hcomp) hclear hst hadd
  rw [hkey] at hfresh hremembers
  refine ⟨hfresh, ?_⟩
  split
  · exact reportTerminal_remembers hremembers _ _
  · exact hremembers

/-- **An unnoticed repetition is accepted.** -/
theorem repeats_accepted {codecs : Codecs} {e : EncodedFragmentData}
    (h : Repeats codecs (df, accepted) e) : (df.report codecs (.fragment e)).1 = .ok () := by
  obtain ⟨⟨-, hterm⟩, ⟨hdec, hcomp, hisOk⟩, hany⟩ := h
  obtain ⟨st, hget, hst⟩ := (Option.any_eq_true _ _).mp hany
  cases hfrag : e.decode codecs with
  | error err =>
    rw [hfrag] at hisOk
    cases hisOk
  | ok frag =>
    obtain ⟨hframe, hdecoder, -, hterminal, -⟩ := EncodedFragmentData.decode_labels hfrag
    have hmark : ∃ st', st.markSequenceReceived frag.sequence frag.terminal = .ok st' := by
      rw [hterminal, hterm]
      exact DecoderFrameState.markSequenceReceived_terminated hst frag.sequence
    obtain ⟨st', hmark⟩ := hmark
    have hadd : (df.addFragment frag).1 = .ok () := by
      rw [← hframe, ← hdecoder] at hget
      unfold decoderState at hget
      unfold addFragment
      cases hearly : df.earlyDraw[frag.frame]? with
      | some early =>
        simp only [hearly] at hget ⊢
        rw [EarlyDrawFrame.markFragmentReceived, updateState_mark hget hmark]
        rfl
      | none =>
        simp only [hearly] at hget ⊢
        obtain ⟨fr, hfr, hget⟩ := Option.bind_eq_some_iff.mp hget
        rw [getElem?_fillGap, hfr, Option.getD_some, InFlightFrame.addFragment,
          updateState_mark hget hmark]
        rfl
    unfold report reportFragment
    simp only
    rw [if_neg (not_not.mpr hdec), if_neg hcomp, hfrag]
    simp only
    split
    · rename_i hadd'
      rw [hadd'] at hadd
      cases hadd
    · rw [hterminal, hterm]
      rfl

theorem terminateEmpty_remembers (h : df.Remembers accepted) (hcomp : frame ∉ df.complete)
    (hadd : df.terminateEmpty frame decoder = (.ok (), df')) : df'.Remembers accepted := by
  unfold terminateEmpty at hadd
  split at hadd
  · rename_i early hearly
    unfold EarlyDrawFrame.markEmptyFrameTerminalReceived at hadd
    cases hs : updateState early.decoderFrameStates decoder (.emptyTerminalNoDecoder decoder)
        fun st => st.markEmptyFrameTerminalReceived with
    | error e =>
      rw [hs] at hadd
      cases hadd
    | ok states =>
      rw [hs] at hadd
      cases hadd
      have hk := (h.early frame early hearly).resolve_left hcomp
      exact h.insert_early (fun key hkey => Or.inl hkey) (by grind) (hk.emptyTerminal hs) _
  · rename_i hnone
    have hnot : frame ∉ df.earlyDraw := by grind
    have hk := h.entry hcomp hnot
    simp only at hadd
    split at hadd
    · cases hadd
    · rename_i fr hok
      cases hadd
      have hknows := hk.emptyTerminal (terminateEmpty_ok hok).1
      exact h.insert_inFlight (fun key hkey => Or.inl hkey) hnot hknows

theorem reportEmptyFrameTerminal_remembers {t : EmptyFrameTerminal} (h : df.Remembers accepted)
    (hok : df.reportEmptyFrameTerminal t = (.ok (), df')) : df'.Remembers accepted := by
  unfold reportEmptyFrameTerminal at hok
  split at hok
  · cases hok
  · split at hok
    · cases hok
    · rename_i hcomp
      split at hok
      · cases hok
      · rename_i df₁ hadd
        have hremembers := reportTerminal_remembers (terminateEmpty_remembers h hcomp hadd)
          t.frame t.encoder
        rw [hok] at hremembers
        exact hremembers

/-! ## Runs -/

/-- What holds along a run: no fragment was accepted twice, and all of them are known. -/
def Once (x : DisplayFramer × List FragmentKey) : Prop := x.2.Nodup ∧ x.1.Remembers x.2

theorem step_once {codecs : Codecs} {x y : DisplayFramer × List FragmentKey} {r : Report}
    (h : Once x) (hr : Unrepeated codecs x r)
    (hstep : acceptStep codecs x r = some y) : Once y := by
  obtain ⟨df, accepted⟩ := x
  obtain ⟨df', accepted'⟩ := y
  rw [Machine.observe_eq_some] at hstep
  obtain ⟨hstep, hnote⟩ := hstep
  simp only at hstep hnote
  rw [step_eq, Option.some.injEq] at hstep
  rcases report_spec codecs df r with ⟨err, hrefused⟩ | ⟨df'', hok, -⟩
  · -- a refused report changes nothing
    rw [hrefused] at hstep
    obtain rfl : df = df' := hstep
    rw [noteAccepted_refused (by rw [hrefused])] at hnote
    rw [hnote]
    exact h
  · rw [hok] at hstep
    obtain rfl : df'' = df' := hstep
    cases r with
    | fragment e =>
      obtain ⟨hfresh, hremembers⟩ := reportFragment_remembers h.2 hr.1 hr.2 hok
      rw [noteAccepted_fragment (by rw [hok])] at hnote
      subst hnote
      refine ⟨List.nodup_append.mpr ⟨h.1, List.nodup_singleton _, ?_⟩, hremembers⟩
      rintro key hkey _ hsingle rfl
      rw [List.mem_singleton.mp hsingle] at hkey
      exact hfresh hkey
    | emptyTerminal t =>
      rw [noteAccepted_emptyTerminal] at hnote
      subst hnote
      exact ⟨h.1, reportEmptyFrameTerminal_remembers h.2 hok⟩

end DisplayFramer

open DisplayFramer in
/-- **No fragment is accepted twice**, in every state of every run without unnoticed repetitions and
without frames that are put in flight again. -/
theorem accepted_once (codecs : Codecs) (area : Rect) (areas : List Rect) (rs : List Report)
    (hrs : Machine.Guarded (acceptStep codecs) (Unrepeated codecs) (new area areas, []) rs) :
    Machine.Always (acceptStep codecs) (fun x => x.2.Nodup) (new area areas, []) rs := by
  have hstart : Once (new area areas, []) := ⟨List.nodup_nil, new_remembers area areas⟩
  refine Machine.Always.mono (fun x hx => hx.1) (Machine.Guarded.always ?_ hrs hstart)
  exact fun x r y hx hr hstep => step_once hx hr hstep

/-- Repetitions arrive while the frame is in flight, as its terminal, when its decoder is complete
and when the frame is. -/
def repeatedReports : List Report :=
  [.fragment (pixelFragment 0 0 0 false), .fragment (pixelFragment 0 0 0 false),
   .fragment (pixelFragment 0 0 2 true), .fragment (pixelFragment 0 0 2 true),
   .fragment (pixelFragment 0 0 1 false), .fragment (pixelFragment 0 0 1 false),
   .fragment (pixelFragment 1 0 0 true), .fragment (pixelFragment 0 0 2 false),
   .fragment (pixelFragment 1 0 0 true)]

theorem accepted_once_repeated :
    Machine.Always (DisplayFramer.acceptStep rawOnly) (fun x => x.2.Nodup)
      (DisplayFramer.new pixelArea [pixelArea], []) repeatedReports :=
  accepted_once rawOnly pixelArea [pixelArea] repeatedReports (by decide +kernel)

/-- Fragment 0 comes again while fragment 1 is missing; and frame 5, drawn early with its
fragment 0, is in the gap between the frames 3 and 8, so that frame 8 draws it early anew. -/
theorem accepted_twice :
    (¬ Machine.Always (DisplayFramer.acceptStep rawOnly) (fun x => x.2.Nodup)
      (DisplayFramer.new pixelArea [pixelArea], [])
      [.fragment (pixelFragment 0 0 0 false), .fragment (pixelFragment 0 0 2 true),
       .fragment (pixelFragment 0 0 0 false)]) ∧
    ¬ Machine.Always (DisplayFramer.acceptStep rawOnly) (fun x => x.2.Nodup)
      (DisplayFramer.new pixelArea [pixelArea], [])
      [.fragment (pixelFragment 5 0 0 false), .fragment (pixelFragment 7 0 0 true),
       .fragment (pixelFragment 3 0 0 false), .fragment (pixelFragment 8 0 0 true),
       .fragment (pixelFragment 5 0 0 false)] := by
  have hends : ∀ rs, (Machine.run (DisplayFramer.acceptStep rawOnly)
      (DisplayFramer.new pixelArea [pixelArea], []) rs).any (fun x => !decide x.2.Nodup) = true →
      ¬ Machine.Always (DisplayFramer.acceptStep rawOnly) (fun x => x.2.Nodup)
        (DisplayFramer.new pixelArea [pixelArea], []) rs := by
    intro rs hany h
    obtain ⟨x, hx, hdup⟩ := (Option.any_eq_true _ _).mp hany
    simp only [Bool.not_eq_true', decide_eq_false_iff_not] at hdup
    exact hdup (h.last hx)
  exact ⟨hends _ (by decide +kernel), hends _ (by decide +kernel)⟩

end ApertureC
