import ApertureC.Frame
import ApertureC.Lib.Machine

/-!
# The stages of a frame

A display's framer receives reports one after another; a frame is in flight, drawn early or
complete.

* `Report`, `DisplayFramer.report`, `DisplayFramer.step` — one call, and its state when it does not
  panic.
* `DisplayFramer.Staged` — every frame is in at most one stage.
* `DisplayFramer.GapClear` — the fragment does not fill a gap with a frame that has left flight.

Principal results: `report_ne_panic` (no report reaches the `unreachable!`) and
`always_staged_of_gapClear` (frames stay in one stage along every run whose fragments meet
`GapClear`); `staged_fails` is a run that does not.
-/

set_option autoImplicit false

namespace ApertureC

open Geometry

inductive Report where
  | fragment (e : EncodedFragmentData)
  | emptyTerminal (t : EmptyFrameTerminal)
  deriving DecidableEq, Repr

namespace DisplayFramer

def report (codecs : Codecs) (df : DisplayFramer) : Report → Except Failure Unit × DisplayFramer
  | .fragment e => df.reportFragment codecs e
  | .emptyTerminal t => df.reportEmptyFrameTerminal t

/-- The state a call leaves; a panic leaves none. -/
def step (codecs : Codecs) (df : DisplayFramer) (r : Report) : Option DisplayFramer :=
  match df.report codecs r with
  | (.error .panic, _) => none
  | (_, df') => some df'

/-- Every frame is in at most one stage. -/
def Staged (df : DisplayFramer) : Prop :=
  (∀ f, f ∈ df.inFlight → f ∉ df.earlyDraw) ∧ (∀ f, f ∈ df.inFlight → f ∉ df.complete) ∧
    ∀ f, f ∈ df.earlyDraw → f ∉ df.complete

/-- The fragment passes the checks and its frame is not drawn early, so it fills the gap. -/
def FillsGap (codecs : Codecs) (df : DisplayFramer) (e : EncodedFragmentData) : Prop :=
  e.decoder < df.decoderAreas.length ∧ e.frame ∉ df.complete ∧ (e.decode codecs).isOk = true ∧
    e.frame ∉ df.earlyDraw

/-- A fragment that fills the gap finds every frame between the newest frame in flight and its own
neither complete nor drawn early. -/
def GapClear (codecs : Codecs) (df : DisplayFramer) : Report → Prop
  | .fragment e => df.FillsGap codecs e → ∀ g < e.frame,
      (∃ m ∈ df.inFlight.keys.getLast?, m < g) → g ∉ df.complete ∧ g ∉ df.earlyDraw
  | .emptyTerminal _ => True

instance (codecs : Codecs) (df : DisplayFramer) (e : EncodedFragmentData) :
    Decidable (df.FillsGap codecs e) :=
  inferInstanceAs (Decidable (_ ∧ _ ∧ _ ∧ _))

instance (codecs : Codecs) (df : DisplayFramer) : ∀ r, Decidable (df.GapClear codecs r)
  | .fragment e => inferInstanceAs (Decidable (df.FillsGap codecs e → ∀ g < e.frame,
      (∃ m ∈ df.inFlight.keys.getLast?, m < g) → g ∉ df.complete ∧ g ∉ df.earlyDraw))
  | .emptyTerminal _ => inferInstanceAs (Decidable True)

/-! ## What each part of a report does to the stages -/

theorem mem_foldl_insertIfNew (fr : InFlightFrame) :
    ∀ (fs : List Nat) (m : Std.ExtTreeMap Nat InFlightFrame) (g : Nat),
      g ∈ fs.foldl (fun m f => m.insertIfNew f fr) m ↔ g ∈ m ∨ g ∈ fs
  | [], m, g => by simp
  | f :: fs, m, g => by
    rw [List.foldl_cons, mem_foldl_insertIfNew fr fs]
    simp only [Std.ExtTreeMap.mem_insertIfNew, List.mem_cons, Nat.compare_eq_eq]
    grind

theorem mem_fillGap (df : DisplayFramer) (frame g : Nat) :
    g ∈ df.fillGap frame ↔
      g ∈ df.inFlight ∨ ∃ m ∈ df.inFlight.keys.getLast?, m ≤ g ∧ g < frame := by
  unfold fillGap
  split
  · rename_i m hm
    rw [mem_foldl_insertIfNew, List.mem_range'_1]
    simp only [hm, Option.mem_def, Option.some.injEq, exists_eq_left']
    have : m ≤ g ∧ g < m + (frame - m) ↔ m ≤ g ∧ g < frame := by omega
    rw [this]
  · rename_i hm
    simp [hm]

theorem last_mem {m : Std.ExtTreeMap Nat InFlightFrame} {k : Nat} (h : k ∈ m.keys.getLast?) :
    k ∈ m := by
  have : k ∈ m.keys := List.mem_of_mem_getLast? h
  simpa using this

/-- Drawing older frames early sends each of them to exactly one other stage. -/
theorem foldl_drawEarly_spec :
    ∀ (l : List (Nat × InFlightFrame)) (df : DisplayFramer),
      (l.foldl drawEarly df).inFlight = df.inFlight ∧
      (∀ g, g ∈ (l.foldl drawEarly df).earlyDraw ↔
        g ∈ df.earlyDraw ∨ ∃ fr, (g, fr) ∈ l ∧ allComplete fr.decoderFrameStates = false) ∧
      ∀ g, g ∈ (l.foldl drawEarly df).complete ↔
        g ∈ df.complete ∨ ∃ fr, (g, fr) ∈ l ∧ allComplete fr.decoderFrameStates = true
  | [], df => by simp
  | (id, fr) :: l, df => by
    obtain ⟨hin, hearly, hcomp⟩ := foldl_drawEarly_spec l (df.drawEarly (id, fr))
    rw [List.foldl_cons]
    cases hc : allComplete fr.decoderFrameStates with
    | true =>
      have hd : df.drawEarly (id, fr) = { df with
          complete := insert id df.complete
          undrawnFragments := df.undrawnFragments ++ fr.decodedFragments } := by
        simp [drawEarly, InFlightFrame.forceComplete, hc]
      rw [hd] at hin hearly hcomp ⊢
      refine ⟨hin, fun g => ?_, fun g => ?_⟩
      · rw [hearly]
        grind
      · rw [hcomp, Finset.mem_insert]
        grind
    | false =>
      have hd : df.drawEarly (id, fr) = { df with
          earlyDraw := df.earlyDraw.insert id ⟨fr.decoderFrameStates⟩
          undrawnFragments := df.undrawnFragments ++ fr.decodedFragments } := by
        simp [drawEarly, InFlightFrame.forceComplete, hc]
      rw [hd] at hin hearly hcomp ⊢
      refine ⟨hin, fun g => ?_, fun g => ?_⟩
      · rw [hearly]
        simp only [Std.ExtTreeMap.mem_insert, Nat.compare_eq_eq]
        grind
      · rw [hcomp]
        grind

/-- Completing a frame in flight sends every older one to exactly one other stage. -/
theorem completeInFlight_spec (df : DisplayFramer) (frame : Nat) (dfs : List DecodedFragmentData) :
    (∀ g, (df.completeInFlight frame dfs).inFlight[g]? =
      if frame < g then df.inFlight[g]? else none) ∧
    (∀ g, g ∈ (df.completeInFlight frame dfs).earlyDraw ↔ g ∈ df.earlyDraw ∨
      ∃ fr, (df.inFlight[g]? = some fr ∧ g < frame) ∧ allComplete fr.decoderFrameStates = false) ∧
    ∀ g, g ∈ (df.completeInFlight frame dfs).complete ↔ (g = frame ∨ g ∈ df.complete) ∨
      ∃ fr, (df.inFlight[g]? = some fr ∧ g < frame) ∧ allComplete fr.decoderFrameStates = true := by
  unfold completeInFlight
  obtain ⟨hin, hearly, hcomp⟩ := foldl_drawEarly_spec
    ((df.inFlight.erase frame).filter fun id _ => id < frame).toList
    { df with
      inFlight := (df.inFlight.erase frame).filter fun id _ => frame ≤ id
      complete := insert frame df.complete
      undrawnFragments := df.undrawnFragments ++ dfs }
  have holder : ∀ g fr,
      (g, fr) ∈ ((df.inFlight.erase frame).filter fun id _ => id < frame).toList ↔
        df.inFlight[g]? = some fr ∧ g < frame := by
    intro g fr
    rw [Std.ExtTreeMap.mem_toList_iff_getElem?_eq_some]
    grind
  simp only at hin hearly hcomp ⊢
  refine ⟨fun g => ?_, fun g => ?_, fun g => ?_⟩
  · rw [hin]
    split <;> grind
  · rw [hearly]
    simp only [holder]
  · rw [hcomp, Finset.mem_insert]
    simp only [holder]

/-- **Completing a frame in flight keeps the stages apart.** -/
theorem completeInFlight_staged {df : DisplayFramer} (h : df.Staged) {frame : Nat}
    (hf : frame ∈ df.inFlight) (dfs : List DecodedFragmentData) :
    (df.completeInFlight frame dfs).Staged := by
  obtain ⟨h₁, h₂, h₃⟩ := h
  obtain ⟨hin, hearly, hcomp⟩ := completeInFlight_spec df frame dfs
  have hstill : ∀ g, g ∈ (df.completeInFlight frame dfs).inFlight →
      g ∈ df.inFlight ∧ frame < g := by
    intro g hg
    have := hin g
    grind
  refine ⟨fun g hg he => ?_, fun g hg hc => ?_, fun g he hc => ?_⟩
  · obtain ⟨hg, hlt⟩ := hstill g hg
    rcases (hearly g).mp he with he | ⟨fr, hfr, -⟩
    · exact h₁ g hg he
    · omega
  · obtain ⟨hg, hlt⟩ := hstill g hg
    rcases (hcomp g).mp hc with (hc | hc) | ⟨fr, hfr, -⟩
    · omega
    · exact h₂ g hg hc
    · omega
  · rcases (hearly g).mp he with he | ⟨fr, ⟨hg, hlt⟩, hall⟩
    · rcases (hcomp g).mp hc with (hc | hc) | ⟨fr, hfr, -⟩
      · rw [hc] at he
        exact h₁ frame hf he
      · exact h₃ g he hc
      · exact h₁ g (by grind) he
    · rcases (hcomp g).mp hc with (hc | hc) | ⟨fr', ⟨hg', -⟩, hall'⟩
      · omega
      · exact h₂ g (by grind) hc
      · rw [hg] at hg'
        cases hg'
        rw [hall] at hall'
        cases hall'

/-- **A terminal keeps the stages apart**: the frame stays where it is, or completes. -/
theorem reportTerminal_staged {df : DisplayFramer} (h : df.Staged) (frame decoder : Nat) :
    (df.reportTerminal frame decoder).2.Staged := by
  unfold reportTerminal
  split
  · exact h
  · split
    · exact h
    · split
      · rename_i early hearly
        split
        · obtain ⟨h₁, h₂, h₃⟩ := h
          have hmem : frame ∈ df.earlyDraw := by grind
          refine ⟨fun f hf he => ?_, fun f hf hc => ?_, fun f he hc => ?_⟩
          · exact h₁ f hf (Std.ExtTreeMap.mem_of_mem_erase he)
          · rcases Finset.mem_insert.mp hc with hc | hc
            · rw [hc] at hf
              exact h₁ frame hf hmem
            · exact h₂ f hf hc
          · rcases Finset.mem_insert.mp hc with hc | hc
            · rw [hc] at he
              simp at he
            · exact h₃ f (Std.ExtTreeMap.mem_of_mem_erase he) hc
        · exact h
      · split
        · rename_i fr hfr
          split
          · exact completeInFlight_staged h (by grind) _
          · exact h
        · exact h

/-- A frame that has just been recorded is drawn early or in flight. -/
theorem reportTerminal_ne_panic {df : DisplayFramer} {frame : Nat} (decoder : Nat)
    (h : frame ∈ df.earlyDraw ∨ frame ∈ df.inFlight) :
    (df.reportTerminal frame decoder).1 ≠ .error .panic := by
  unfold reportTerminal
  split
  · intro hp; cases hp
  · split
    · intro hp; cases hp
    · split
      · split <;> intro hp <;> cases hp
      · rename_i hnone
        split
        · split <;> intro hp <;> cases hp
        · rename_i hnone'
          exfalso
          rcases h with h | h
          · grind
          · grind

/-- What recording a fragment does to the stages. -/
theorem addFragment_spec (df : DisplayFramer) (frag : DecodedFragmentData) :
    (df.addFragment frag).1 ≠ .error .panic ∧
    (df.addFragment frag).2.complete = df.complete ∧
    (∀ g, g ∈ (df.addFragment frag).2.earlyDraw ↔ g ∈ df.earlyDraw) ∧
    (frag.frame ∈ df.earlyDraw ∨ frag.frame ∈ (df.addFragment frag).2.inFlight) ∧
    ∀ g, g ∈ (df.addFragment frag).2.inFlight → g ∈ df.inFlight ∨ (frag.frame ∉ df.earlyDraw ∧
      (g = frag.frame ∨ ∃ m ∈ df.inFlight.keys.getLast?, m ≤ g ∧ g < frag.frame)) := by
  unfold addFragment
  split
  · rename_i early hearly
    have hmem : frag.frame ∈ df.earlyDraw := by grind
    split
    · exact ⟨by simp, rfl, fun g => Iff.rfl, Or.inl hmem, fun g hg => Or.inl hg⟩
    · refine ⟨by simp, rfl, fun g => ?_, Or.inl hmem, fun g hg => Or.inl hg⟩
      grind
  · rename_i hnone
    have hnot : frag.frame ∉ df.earlyDraw := by grind
    have hgap : ∀ g fr, g ∈ (df.fillGap frag.frame).insert frag.frame fr → g ∈ df.inFlight ∨
        (frag.frame ∉ df.earlyDraw ∧
          (g = frag.frame ∨ ∃ m ∈ df.inFlight.keys.getLast?, m ≤ g ∧ g < frag.frame)) := by
      intro g fr hg
      rw [Std.ExtTreeMap.mem_insert, Nat.compare_eq_eq, mem_fillGap] at hg
      rcases hg with hg | hg | hg
      · exact Or.inr ⟨hnot, Or.inl hg.symm⟩
      · exact Or.inl hg
      · exact Or.inr ⟨hnot, Or.inr hg⟩
    simp only
    split
    · exact ⟨by simp, rfl, fun g => Iff.rfl, Or.inr (by simp), fun g hg => hgap g _ hg⟩
    · exact ⟨by simp, rfl, fun g => Iff.rfl, Or.inr (by simp), fun g hg => hgap g _ hg⟩

/-- What recording an empty frame terminal does to the stages. -/
theorem terminateEmpty_spec (df : DisplayFramer) (frame decoder : Nat) :
    (df.terminateEmpty frame decoder).1 ≠ .error .panic ∧
    (df.terminateEmpty frame decoder).2.complete = df.complete ∧
    (∀ g, g ∈ (df.terminateEmpty frame decoder).2.earlyDraw ↔ g ∈ df.earlyDraw) ∧
    (frame ∈ df.earlyDraw ∨ frame ∈ (df.terminateEmpty frame decoder).2.inFlight) ∧
    ∀ g, g ∈ (df.terminateEmpty frame decoder).2.inFlight →
      g ∈ df.inFlight ∨ (frame ∉ df.earlyDraw ∧ g = frame) := by
  unfold terminateEmpty
  split
  · rename_i early hearly
    have hmem : frame ∈ df.earlyDraw := by grind
    split
    · exact ⟨by simp, rfl, fun g => Iff.rfl, Or.inl hmem, fun g hg => Or.inl hg⟩
    · refine ⟨by simp, rfl, fun g => ?_, Or.inl hmem, fun g hg => Or.inl hg⟩
      grind
  · rename_i hnone
    have hnot : frame ∉ df.earlyDraw := by grind
    have hins : ∀ g fr, g ∈ df.inFlight.insert frame fr →
        g ∈ df.inFlight ∨ (frame ∉ df.earlyDraw ∧ g = frame) := by
      intro g fr hg
      rw [Std.ExtTreeMap.mem_insert, Nat.compare_eq_eq] at hg
      rcases hg with hg | hg
      · exact Or.inr ⟨hnot, hg.symm⟩
      · exact Or.inl hg
    simp only
    split
    · exact ⟨by simp, rfl, fun g => Iff.rfl, Or.inr (by simp), fun g hg => hins g _ hg⟩
    · exact ⟨by simp, rfl, fun g => Iff.rfl, Or.inr (by simp), fun g hg => hins g _ hg⟩

/-! ## Reports -/

/-- **No report panics**, in any state. -/
theorem report_ne_panic (codecs : Codecs) (df : DisplayFramer) (r : Report) :
    (df.report codecs r).1 ≠ .error .panic := by
  cases r with
  | fragment e =>
    unfold report reportFragment
    simp only
    split
    · intro h; cases h
    · split
      · intro h; cases h
      · split
        · intro h; cases h
        · rename_i frag _
          obtain ⟨hne, -, hearly, hmem, -⟩ := addFragment_spec df frag
          split
          · rename_i err df' hadd
            rw [hadd] at hne
            exact hne
          · rename_i df' hadd
            rw [hadd] at hearly hmem
            split
            · refine reportTerminal_ne_panic _ ?_
              rcases hmem with hmem | hmem
              · exact Or.inl ((hearly _).mpr hmem)
              · exact Or.inr hmem
            · intro h; cases h
  | emptyTerminal t =>
    unfold report reportEmptyFrameTerminal
    simp only
    split
    · intro h; cases h
    · split
      · intro h; cases h
      · obtain ⟨hne, -, hearly, hmem, -⟩ := terminateEmpty_spec df t.frame t.encoder
        split
        · rename_i err df' hadd
          rw [hadd] at hne
          exact hne
        · rename_i df' hadd
          rw [hadd] at hearly hmem
          refine reportTerminal_ne_panic _ ?_
          rcases hmem with hmem | hmem
          · exact Or.inl ((hearly _).mpr hmem)
          · exact Or.inr hmem

theorem step_eq (codecs : Codecs) (df : DisplayFramer) (r : Report) :
    df.step codecs r = some (df.report codecs r).2 := by
  have h := report_ne_panic codecs df r
  unfold step
  split
  · rename_i hp
    rw [hp] at h
    exact absurd rfl h
  · rename_i hr
    rw [hr]

/-- The stages stay apart when the frames a report puts in flight have not left it. -/
theorem staged_of_inFlight {df df' : DisplayFramer} (h : df.Staged)
    (hcomp : df'.complete = df.complete) (hearly : ∀ g, g ∈ df'.earlyDraw ↔ g ∈ df.earlyDraw)
    (hin : ∀ g, g ∈ df'.inFlight → g ∈ df.inFlight ∨ (g ∉ df.complete ∧ g ∉ df.earlyDraw)) :
    df'.Staged := by
  obtain ⟨h₁, h₂, h₃⟩ := h
  refine ⟨fun g hg he => ?_, fun g hg hc => ?_, fun g he hc => ?_⟩
  · rw [hearly] at he
    rcases hin g hg with hg | hg
    · exact h₁ g hg he
    · exact hg.2 he
  · rw [hcomp] at hc
    rcases hin g hg with hg | hg
    · exact h₂ g hg hc
    · exact hg.1 hc
  · rw [hearly] at he
    rw [hcomp] at hc
    exact h₃ g he hc

/-- **One report keeps every frame in at most one stage when it meets `GapClear`.** -/
theorem report_staged {codecs : Codecs} {df : DisplayFramer} (h : df.Staged) {r : Report}
    (hgap : df.GapClear codecs r) : (df.report codecs r).2.Staged := by
  cases r with
  | fragment e =>
    unfold report reportFragment
    simp only
    split
    · exact h
    · rename_i hdec
      split
      · exact h
      · rename_i hcomp
        split
        · exact h
        · rename_i frag hfrag
          obtain ⟨hframe, -, -, -, -⟩ := EncodedFragmentData.decode_labels hfrag
          obtain ⟨-, hcomp', hearly, -, hin⟩ := addFragment_spec df frag
          have hst : (df.addFragment frag).2.Staged := by
            refine staged_of_inFlight h hcomp' hearly fun g hg => ?_
            rcases hin g hg with hg | ⟨hno, hg⟩
            · exact Or.inl hg
            · rw [hframe] at hg hno
              have hfills : df.FillsGap codecs e :=
                ⟨by simpa using hdec, hcomp, by rw [hfrag]; rfl, hno⟩
              rcases hg with hg | ⟨m, hm, hle, hlt⟩
              · rw [hg]
                exact Or.inr ⟨hcomp, hno⟩
              · by_cases hmg : m = g
                · rw [← hmg]
                  exact Or.inl (last_mem hm)
                · exact Or.inr (hgap hfills g hlt ⟨m, hm, by omega⟩)
          split
          · rename_i hadd
            rw [hadd] at hst
            exact hst
          · rename_i hadd
            rw [hadd] at hst
            split
            · exact reportTerminal_staged hst _ _
            · exact hst
  | emptyTerminal t =>
    unfold report reportEmptyFrameTerminal
    simp only
    split
    · exact h
    · split
      · exact h
      · rename_i hcomp
        obtain ⟨-, hcomp', hearly, -, hin⟩ := terminateEmpty_spec df t.frame t.encoder
        have hst : (df.terminateEmpty t.frame t.encoder).2.Staged := by
          refine staged_of_inFlight h hcomp' hearly fun g hg => ?_
          rcases hin g hg with hg | ⟨hno, hg⟩
          · exact Or.inl hg
          · rw [hg]
            exact Or.inr ⟨hcomp, hno⟩
        split
        · rename_i hadd
          rw [hadd] at hst
          exact hst
        · rename_i hadd
          rw [hadd] at hst
          exact reportTerminal_staged hst _ _

theorem new_staged (area : Rect) (areas : List Rect) : (new area areas).Staged := by
  refine ⟨fun f hf => ?_, fun f hf => ?_, fun f hf => ?_⟩ <;> simp [new] at hf

end DisplayFramer

open DisplayFramer in
/-- **Every frame is in at most one stage**, in every state of every run whose fragments meet
`GapClear`. -/
theorem always_staged_of_gapClear (codecs : Codecs) (area : Rect) (areas : List Rect)
    (rs : List Report)
    (hgap : Machine.Guarded (step codecs) (GapClear codecs) (new area areas) rs) :
    Machine.Always (step codecs) Staged (new area areas) rs := by
  refine Machine.Guarded.always ?_ hgap (new_staged area areas)
  intro df r df' hst hg hstep
  rw [step_eq] at hstep
  cases hstep
  exact report_staged hst hg

/-! ## Runs of a display with one decoder -/

/-- The external decoders are not called for raw fragments. -/
def rawOnly : Codecs := ⟨fun _ => .error "zlib", fun _ => .error "jpegxl"⟩

/-- A raw fragment of one pixel. -/
def pixelFragment (frame decoder sequence : Nat) (terminal : Bool) : EncodedFragmentData :=
  ⟨frame, decoder, sequence, 0, 0, terminal, .raw, ⟨1, 1⟩, ⟨0, 0⟩, [1, 2, 3]⟩

def pixelArea : Rect := ⟨⟨0, 0⟩, ⟨1, 1⟩⟩

/-- Frame 2 completes while frame 0 waits for its first fragment, which then arrives. -/
theorem always_staged_of_gapClear_run :
    Machine.Guarded (DisplayFramer.step rawOnly) (DisplayFramer.GapClear rawOnly)
      (DisplayFramer.new pixelArea [pixelArea])
      [.fragment (pixelFragment 0 0 1 true), .fragment (pixelFragment 2 0 0 true),
       .fragment (pixelFragment 0 0 0 false)] ∧
    Machine.Always (DisplayFramer.step rawOnly) DisplayFramer.Staged
      (DisplayFramer.new pixelArea [pixelArea])
      [.fragment (pixelFragment 0 0 1 true), .fragment (pixelFragment 2 0 0 true),
       .fragment (pixelFragment 0 0 0 false)] :=
  have h : Machine.Guarded (DisplayFramer.step rawOnly) (DisplayFramer.GapClear rawOnly)
      (DisplayFramer.new pixelArea [pixelArea])
      [.fragment (pixelFragment 0 0 1 true), .fragment (pixelFragment 2 0 0 true),
       .fragment (pixelFragment 0 0 0 false)] := by decide +kernel
  ⟨h, always_staged_of_gapClear rawOnly pixelArea [pixelArea] _ h⟩

/-- Frame 5 is complete; frame 3 goes in flight, and frame 6 fills the gap 3..6 with frame 5. -/
theorem staged_fails :
    ¬ Machine.Always (DisplayFramer.step rawOnly) DisplayFramer.Staged
      (DisplayFramer.new pixelArea [pixelArea])
      [.fragment (pixelFragment 5 0 0 true), .fragment (pixelFragment 3 0 0 false),
       .fragment (pixelFragment 6 0 0 false)] := by
  have hrun : (Machine.run (DisplayFramer.step rawOnly) (DisplayFramer.new pixelArea [pixelArea])
      [.fragment (pixelFragment 5 0 0 true), .fragment (pixelFragment 3 0 0 false),
       .fragment (pixelFragment 6 0 0 false)]).any
        (fun df => decide (5 ∈ df.inFlight) && decide (5 ∈ df.complete)) = true := by
    decide +kernel
  intro h
  obtain ⟨df, hdf, hboth⟩ := Option.any_eq_true _ _ |>.mp hrun
  have hst := h.last hdf
  simp only [Bool.and_eq_true, decide_eq_true_eq] at hboth
  exact hst.2.1 5 hboth.1 hboth.2

end ApertureC
