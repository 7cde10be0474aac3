import ApertureC.Encoder
import ApertureC.FrameDelivery
import ApertureC.MediaLoop

/-!
# The end of a frame

The frame branch of the encoder task (`aperturec-server/src/task/encoder.rs`) numbers the fragments
it sends and flags the one whose number is the last of the relevant parts; a part whose compression
fails takes no number.

* `encodingOf`, `frameMessages` — the futures and the messages of a frame when the compression of
  each part ends in a given way and in a given order.
* `DecoderFrameState.receive` — what the client keeps of a decoder's messages.
* `TerminatedOnce` — one empty terminal, or fragments numbered from zero of which exactly the last
  is terminal; the client's decoder ends complete.

Principal results: `encodeFrame_eq` (the encoder with given compressors is an instance) and
`terminatedOnce_iff` (**a frame is terminated exactly when no compression fails**).
-/

set_option autoImplicit false

namespace ApertureC

open Geometry

namespace EncoderTask

/-- One of the futures in `encodings`, when the compression ends in `outcome`. -/
def encodingOf (enc : EncoderTask) (part : SubframeBuffer Pixel24 × Box2D)
    (outcome : Except String (List UInt8)) : Option (Except String (List UInt8 × Box2D)) := do
  let _ ← part.2.relativeTo part.1.origin
  let encRelativeArea ← part.2.relativeTo enc.area.min
  return outcome.map fun data => (data, encRelativeArea)

/-- The messages of one frame; `completed` is the relevant parts in the order in which their
encodings complete, each with the end of its compression. -/
def frameMessages (enc : EncoderTask) (frame : Frame)
    (completed : List ((SubframeBuffer Pixel24 × Box2D) × Except String (List UInt8))) :
    Option (List MediaMessage) :=
  if (enc.relevant frame).isEmpty then some [.terminal (enc.emptyFrameTerminal frame)]
  else do
    let encodings ← completed.mapM fun c => enc.encodingOf c.1 c.2
    return enc.dispatch frame (enc.relevant frame).length 0 encodings

/-! ## Given compressors -/

/-- Compressing a relevant part does not panic. -/
theorem encoding_eq_encodingOf (comp : Compressors) {enc : EncoderTask}
    {b : SubframeBuffer Pixel24} {i : Box2D} (hi : enc.area.intersection b.area.toBox2D = some i) :
    ∃ outcome, enc.encoding comp (b, i) = enc.encodingOf (b, i) outcome := by
  obtain ⟨br, rel, hbr, hrel, -, hfit, -⟩ := relevant_fits hi
  obtain ⟨outcome, houtcome⟩ : ∃ outcome,
      enc.compressionScheme.compress comp b.pixels br = some outcome := by
    rw [Scheme.compress, Grid.slice_eq_some hfit]
    exact ⟨_, rfl⟩
  refine ⟨outcome, ?_⟩
  simp only [encoding, encodingOf, hbr, hrel, houtcome, Option.bind_eq_bind, Option.bind_some]

/-- **The encoder with given compressors**: for some ends of the compressions it sends exactly the
messages of `frameMessages`. -/
theorem encodeFrame_eq (comp : Compressors) (enc : EncoderTask) (frame : Frame)
    {parts : List (SubframeBuffer Pixel24 × Box2D)} (h : ∀ part ∈ parts,
      part ∈ enc.relevant frame) :
    ∃ completed, completed.map Prod.fst = parts ∧
      enc.encodeFrame comp frame parts = enc.frameMessages frame completed := by
  have hall : ∀ l : List (SubframeBuffer Pixel24 × Box2D), (∀ part ∈ l, part ∈ enc.relevant frame) →
      ∃ completed : List ((SubframeBuffer Pixel24 × Box2D) × Except String (List UInt8)),
        completed.map Prod.fst = l ∧
        l.mapM (enc.encoding comp) = completed.mapM fun c => enc.encodingOf c.1 c.2 := by
    intro l hl
    induction l with
    | nil => exact ⟨[], rfl, rfl⟩
    | cons part l ih =>
      obtain ⟨completed, hfst, hmap⟩ := ih fun p hp => hl p (List.mem_cons_of_mem _ hp)
      obtain ⟨outcome, heq⟩ := encoding_eq_encodingOf comp
        (mem_relevant.mp (hl part List.mem_cons_self)).2
      refine ⟨(part, outcome) :: completed, by rw [List.map_cons, hfst], ?_⟩
      rw [List.mapM_cons, List.mapM_cons, hmap, heq]
  obtain ⟨completed, hfst, hmap⟩ := hall parts h
  refine ⟨completed, hfst, ?_⟩
  rw [encodeFrame, frameMessages, hmap]

/-! ## The fragments -/

/-- The encodings that succeed, in order. -/
def successes (encodings : List (Except String (List UInt8 × Box2D))) :
    List (List UInt8 × Box2D) :=
  encodings.filterMap Except.toOption

/-- The fragments of the encodings that succeed, numbered in order. -/
def fragments (enc : EncoderTask) (frame : Frame) (relevantLen : Nat)
    (encodings : List (Except String (List UInt8 × Box2D))) (sequence : Nat) :
    List FrameFragment :=
  ((successes encodings).zipIdx sequence).map fun x =>
    enc.frameFragment frame x.2 (decide (x.2 = relevantLen - 1)) x.1.1 x.1.2

theorem dispatch_eq_fragments (enc : EncoderTask) (frame : Frame) (relevantLen : Nat)
    (encodings : List (Except String (List UInt8 × Box2D))) (sequence : Nat) :
    enc.dispatch frame relevantLen sequence encodings =
      (enc.fragments frame relevantLen encodings sequence).map .fragment := by
  induction encodings generalizing sequence with
  | nil => rfl
  | cons res encodings ih =>
    cases res with
    | error e => exact ih sequence
    | ok x =>
      obtain ⟨data, area⟩ := x
      rw [dispatch, ih (sequence + 1)]
      rfl

@[simp] theorem length_fragments (enc : EncoderTask) (frame : Frame) (relevantLen : Nat)
    (encodings : List (Except String (List UInt8 × Box2D))) (sequence : Nat) :
    (enc.fragments frame relevantLen encodings sequence).length = (successes encodings).length := by
  simp [fragments]

theorem map_fragments {β : Type} (enc : EncoderTask) (frame : Frame) (relevantLen : Nat)
    (encodings : List (Except String (List UInt8 × Box2D))) {f : FrameFragment → β} {g : Nat → β}
    (h : ∀ sequence data area, f (enc.frameFragment frame sequence
      (decide (sequence = relevantLen - 1)) data area) = g sequence) :
    (enc.fragments frame relevantLen encodings 0).map f =
      (List.range (successes encodings).length).map g := by
  rw [fragments, List.map_map]
  calc ((successes encodings).zipIdx 0).map _
      = (((successes encodings).zipIdx 0).map Prod.snd).map g := by
        rw [List.map_map]
        apply List.map_congr_left
        intro x _
        exact h x.2 x.1.1 x.1.2
    _ = (List.range (successes encodings).length).map g := by
        rw [List.zipIdx_map_snd, List.range_eq_range']

/-- The fragments of a frame are converted by the client, with their numbers and flags. -/
theorem tryFrom_frameFragment (enc : EncoderTask) (frame : Frame) (sequence : Nat)
    (terminal : Bool) (data : List UInt8) (area : Box2D) :
    ∃ e, EncodedFragmentData.tryFrom (enc.frameFragment frame sequence terminal data area) =
      .ok e := by
  simp [EncodedFragmentData.tryFrom, frameFragment]

theorem tryFrom_of_mem_fragments {enc : EncoderTask} {frame : Frame} {relevantLen : Nat}
    {encodings : List (Except String (List UInt8 × Box2D))} {sequence : Nat} {frag : FrameFragment}
    (h : frag ∈ enc.fragments frame relevantLen encodings sequence) :
    ∃ e, EncodedFragmentData.tryFrom frag = .ok e := by
  obtain ⟨x, -, rfl⟩ := List.mem_map.mp h
  exact tryFrom_frameFragment enc frame _ _ _ _

/-- The futures of relevant parts do not panic; as many succeed as compressions do. -/
theorem encodings_spec (enc : EncoderTask) {frame : Frame} :
    ∀ {completed : List ((SubframeBuffer Pixel24 × Box2D) × Except String (List UInt8))},
      (∀ c ∈ completed, c.1 ∈ enc.relevant frame) →
      ∃ encodings, completed.mapM (fun c => enc.encodingOf c.1 c.2) = some encodings ∧
        (successes encodings).length = completed.countP fun c => c.2.isOk
  | [], _ => ⟨[], rfl, rfl⟩
  | ((b, i), outcome) :: completed, h => by
    obtain ⟨encodings, hmap, hcount⟩ :=
      encodings_spec enc fun c hc => h c (List.mem_cons_of_mem _ hc)
    obtain ⟨br, rel, hbr, hrel, -⟩ := relevant_fits (mem_relevant.mp (h _ List.mem_cons_self)).2
    have hone : enc.encodingOf (b, i) outcome = some (outcome.map fun data => (data, rel)) := by
      rw [encodingOf, hbr, hrel]
      rfl
    refine ⟨_, by rw [List.mapM_cons, hone, hmap]; rfl, ?_⟩
    rw [List.countP_cons, ← hcount]
    cases outcome with
    | ok data => rfl
    | error e => rfl

end EncoderTask

/-! ## The client's side -/

namespace DecoderFrameState

/-- The state of a decoder after messages of one frame, in the order of their arrival. -/
def receive (st : DecoderFrameState) : List MediaMessage → Except FrameError DecoderFrameState
  | [] => .ok st
  | msg :: msgs =>
    match Report.tryFrom msg with
    | .error e => .error e
    | .ok r =>
      match st.mark r with
      | .error e => .error e
      | .ok st => receive st msgs

/-- When exactly the messages are pending, the decoder ends complete. -/
theorem receive_pending : ∀ {msgs : List MediaMessage} {st : DecoderFrameState},
    (∀ msg ∈ msgs, ∃ r, Report.tryFrom msg = .ok r) →
    Pending st (msgs.filterMap fun msg => (Report.tryFrom msg).toOption) →
    st.receive msgs = .ok .complete
  | [], st, _, h => by rw [receive, h.complete_iff.mpr rfl]
  | msg :: msgs, st, hok, h => by
    obtain ⟨r, hr⟩ := hok msg List.mem_cons_self
    have hrest : (msg :: msgs).filterMap (fun msg => (Report.tryFrom msg).toOption) =
        r :: msgs.filterMap fun msg => (Report.tryFrom msg).toOption :=
      List.filterMap_cons_some (by rw [hr]; rfl)
    rw [hrest] at h
    obtain ⟨st', hmark, h'⟩ := h.mark
    simp only [receive, hr, hmark]
    exact receive_pending (fun m hm => hok m (List.mem_cons_of_mem _ hm)) h'

end DecoderFrameState

/-- The frame is terminated once: by an empty terminal alone, or by the last of its fragments,
which are numbered from zero in the order in which they are sent.  In whatever order the messages
arrive, the client's decoder ends complete. -/
structure TerminatedOnce (msgs : List MediaMessage) : Prop where
  shape : (∃ term, msgs = [.terminal term]) ∨
    ∃ frags : List FrameFragment, frags ≠ [] ∧ msgs = frags.map .fragment ∧
      frags.map FrameFragment.sequence = List.range frags.length ∧
      frags.map FrameFragment.terminal =
        (List.range frags.length).map fun k => decide (k + 1 = frags.length)
  completes : ∀ order, msgs.Perm order → DecoderFrameState.default.receive order = .ok .complete

/-- The reports of fragments that convert keep their numbers and flags. -/
theorem reports_of_fragments : ∀ {frags : List FrameFragment},
    (∀ frag ∈ frags, ∃ e, EncodedFragmentData.tryFrom frag = .ok e) →
    ∃ es : List EncodedFragmentData,
      (frags.map MediaMessage.fragment).filterMap (fun msg => (Report.tryFrom msg).toOption) =
        es.map .fragment ∧
      sequences es = frags.map FrameFragment.sequence ∧
      es.map EncodedFragmentData.terminal = frags.map FrameFragment.terminal
  | [], _ => ⟨[], rfl, rfl, rfl⟩
  | frag :: frags, hok => by
    obtain ⟨e, he⟩ := hok frag List.mem_cons_self
    obtain ⟨es, hreports, hseq, hterm⟩ :=
      reports_of_fragments fun f hf => hok f (List.mem_cons_of_mem _ hf)
    obtain ⟨-, -, hnum, hflag⟩ := EncodedFragmentData.of_tryFrom he
    have hreport : (Report.tryFrom (.fragment frag)).toOption = some (.fragment e) := by
      rw [Report.tryFrom, he]
      rfl
    refine ⟨e :: es, ?_, ?_, ?_⟩
    · rw [List.map_cons, List.filterMap_cons, hreport, hreports]
      rfl
    · rw [List.map_cons, ← hseq, ← hnum]
      rfl
    · rw [List.map_cons, List.map_cons, hterm, hflag]

/-- Well numbered fragments complete the decoder in any order. -/
theorem receive_fragments {frags : List FrameFragment} (hne : frags ≠ [])
    (hok : ∀ frag ∈ frags, ∃ e, EncodedFragmentData.tryFrom frag = .ok e)
    (hseq : frags.map FrameFragment.sequence = List.range frags.length)
    (hterm : frags.map FrameFragment.terminal =
      (List.range frags.length).map fun k => decide (k + 1 = frags.length))
    {order : List MediaMessage} (hperm : (frags.map MediaMessage.fragment).Perm order) :
    DecoderFrameState.default.receive order = .ok .complete := by
  obtain ⟨es, hreports, hnum, hflag⟩ := reports_of_fragments hok
  have hlen : frags.length = es.length := by
    have := congrArg List.length hnum
    simpa [sequences] using this.symm
  rw [hseq, hlen] at hnum
  rw [hterm, hlen] at hflag
  apply DecoderFrameState.receive_pending
  · intro msg hmsg
    obtain ⟨frag, hfrag, rfl⟩ := List.mem_map.mp (hperm.mem_iff.mpr hmsg)
    obtain ⟨e, he⟩ := hok frag hfrag
    exact ⟨.fragment e, by rw [Report.tryFrom, he]; rfl⟩
  · refine Pending.ofFragments ?_ hnum ?_ ?_
    · intro hnil
      rw [hnil, List.length_nil, List.length_eq_zero_iff] at hlen
      exact hne hlen
    · intro e he
      obtain ⟨j, hj, rfl⟩ := List.mem_iff_getElem.mp he
      have h₁ : es[j].sequence = j := by
        have := congrArg (fun l => l[j]?) hnum
        simpa [sequences, hj] using this
      have h₂ : es[j].terminal = decide (j + 1 = es.length) := by
        have := congrArg (fun l => l[j]?) hflag
        simpa [hj] using this
      rw [h₁, h₂, decide_eq_true_eq]
    · rw [← hreports]
      exact (hperm.filterMap _).symm

/-! ## When a frame is terminated -/

section Termination

variable {enc : EncoderTask} {frame : Frame}
  {completed : List ((SubframeBuffer Pixel24 × Box2D) × Except String (List UInt8))}

open EncoderTask

theorem map_fragment_inj {frags frags' : List FrameFragment}
    (h : frags.map MediaMessage.fragment = frags'.map MediaMessage.fragment) : frags = frags' :=
  List.map_injective_iff.mpr (fun _ _ heq => MediaMessage.fragment.inj heq) h

/-- Only `u32` numbers survive the cast. -/
theorem map_asU32_range (m : Nat) :
    (List.range m).map asU32 = List.range m ↔ m ≤ 2 ^ 32 := by
  constructor
  · intro h
    by_contra hlt
    have hget := congrArg (fun l => l[2 ^ 32]?) h
    simp only [List.getElem?_map, List.getElem?_range (Nat.lt_of_not_le hlt), Option.map_some,
      asU32, Nat.mod_self] at hget
    cases hget
  · intro h
    rw [List.map_congr_left, List.map_id]
    intro k hk
    exact Nat.mod_eq_of_lt (lt_of_lt_of_le (List.mem_range.mp hk) h)

/-- The numbers and the flags of the fragments of a frame. -/
theorem fragments_numbers (enc : EncoderTask) (frame : Frame) (relevantLen : Nat)
    (encodings : List (Except String (List UInt8 × Box2D))) :
    (enc.fragments frame relevantLen encodings 0).map FrameFragment.sequence =
        (List.range (successes encodings).length).map asU32 ∧
      (enc.fragments frame relevantLen encodings 0).map FrameFragment.terminal =
        (List.range (successes encodings).length).map fun k => decide (k = relevantLen - 1) :=
  ⟨map_fragments enc frame relevantLen encodings fun _ _ _ => rfl,
    map_fragments enc frame relevantLen encodings fun _ _ _ => rfl⟩

/-- A frame without a relevant part is terminated by the empty terminal. -/
theorem terminatedOnce_empty (term : EmptyFrameTerminal) : TerminatedOnce [.terminal term] := by
  refine ⟨Or.inl ⟨term, rfl⟩, fun order hperm => ?_⟩
  rw [List.perm_singleton.mp hperm.symm]
  rfl

/-- The fragments of a frame terminate it exactly when every relevant part has one. -/
theorem terminatedOnce_fragments {relevantLen : Nat} (hpos : 0 < relevantLen)
    {encodings : List (Except String (List UInt8 × Box2D))}
    (hle : (successes encodings).length ≤ relevantLen) :
    TerminatedOnce ((enc.fragments frame relevantLen encodings 0).map .fragment) ↔
      (successes encodings).length = relevantLen ∧ relevantLen ≤ 2 ^ 32 := by
  obtain ⟨hseq, hterm⟩ := fragments_numbers enc frame relevantLen encodings
  have hlen := length_fragments enc frame relevantLen encodings 0
  constructor
  · rintro ⟨⟨term, h⟩ | ⟨frags, hne, h, hseq', hterm'⟩, -⟩
    · -- fragments only
      cases hfrags : enc.fragments frame relevantLen encodings 0 with
      | nil =>
        rw [hfrags] at h
        cases h
      | cons frag frags =>
        rw [hfrags] at h
        cases h
    · cases map_fragment_inj h
      rw [hseq, hlen, map_asU32_range] at hseq'
      rw [hterm, hlen] at hterm'
      have hm : 0 < (successes encodings).length := by
        rw [← hlen]
        exact List.length_pos_iff.mpr hne
      -- the flag of the last fragment
      have hlast := congrArg (fun l => l[(successes encodings).length - 1]?) hterm'
      simp only [List.getElem?_map, List.getElem?_range (Nat.sub_lt hm Nat.one_pos),
        Option.map_some, Option.some.injEq, decide_eq_decide] at hlast
      omega
  · rintro ⟨heq, hsmall⟩
    have hne : enc.fragments frame relevantLen encodings 0 ≠ [] := by
      rw [← List.length_pos_iff, hlen]
      omega
    have hseq' : (enc.fragments frame relevantLen encodings 0).map FrameFragment.sequence =
        List.range (enc.fragments frame relevantLen encodings 0).length := by
      rw [hseq, hlen, map_asU32_range]
      omega
    have hterm' : (enc.fragments frame relevantLen encodings 0).map FrameFragment.terminal =
        (List.range (enc.fragments frame relevantLen encodings 0).length).map fun k =>
          decide (k + 1 = (enc.fragments frame relevantLen encodings 0).length) := by
      rw [hterm, hlen]
      apply List.map_congr_left
      intro k _
      rw [decide_eq_decide]
      omega
    refine ⟨Or.inr ⟨_, hne, rfl, hseq', hterm'⟩, fun order hperm => ?_⟩
    exact receive_fragments hne (fun frag h => tryFrom_of_mem_fragments h) hseq' hterm' hperm

/-- **A frame is terminated exactly once precisely when no compression fails.**  `completed` is
the relevant parts of the frame in any order, each with an end of its compression. -/
theorem terminatedOnce_iff (hperm : (completed.map Prod.fst).Perm (enc.relevant frame)) :
    (∃ msgs, enc.frameMessages frame completed = some msgs ∧ TerminatedOnce msgs) ↔
      enc.relevant frame = [] ∨
        (∀ c ∈ completed, ∃ data, c.2 = .ok data) ∧ (enc.relevant frame).length ≤ 2 ^ 32 := by
  by_cases hnil : enc.relevant frame = []
  · have hmsgs : enc.frameMessages frame completed =
        some [.terminal (enc.emptyFrameTerminal frame)] := by
      rw [frameMessages, hnil]
      rfl
    rw [hmsgs]
    exact ⟨fun _ => Or.inl hnil, fun _ => ⟨_, rfl, terminatedOnce_empty _⟩⟩
  · have hmem : ∀ c ∈ completed, c.1 ∈ enc.relevant frame := fun c hc =>
      hperm.mem_iff.mp (List.mem_map_of_mem hc)
    obtain ⟨encodings, hmap, hcount⟩ := encodings_spec enc hmem
    have hmsgs : enc.frameMessages frame completed =
        some ((enc.fragments frame (enc.relevant frame).length encodings 0).map .fragment) := by
      rw [frameMessages, if_neg (by simpa using hnil), hmap]
      exact congrArg some (dispatch_eq_fragments enc frame _ encodings 0)
    have hlen : (enc.relevant frame).length = completed.length := by
      rw [← hperm.length_eq, List.length_map]
    have hall : (successes encodings).length = (enc.relevant frame).length ↔
        ∀ c ∈ completed, ∃ data, c.2 = .ok data := by
      rw [hcount, hlen, List.countP_eq_length]
      refine forall_congr' fun c => forall_congr' fun _ => ?_
      cases c.2 with
      | ok data => exact ⟨fun _ => ⟨data, rfl⟩, fun _ => rfl⟩
      | error e => exact ⟨(fun h => nomatch h), fun ⟨_, h⟩ => nomatch h⟩
    have hle : (successes encodings).length ≤ (enc.relevant frame).length := by
      rw [hcount, hlen]
      exact List.countP_le_length
    rw [hmsgs]
    simp only [Option.some.injEq, exists_eq_left', hnil, false_or]
    rw [terminatedOnce_fragments (List.length_pos_iff.mpr hnil) hle, hall]

end Termination

/-- An encoder with two buffers of one pixel each in its area. -/
def pairEncoder : EncoderTask := ⟨0, ⟨⟨0, 0⟩, ⟨2, 1⟩⟩, .zlib⟩

def leftPart : SubframeBuffer Pixel24 × Box2D :=
  (⟨⟨0, 0⟩, ⟨1, 1, fun _ _ => ⟨1, 2, 3⟩⟩⟩, ⟨⟨0, 0⟩, ⟨1, 1⟩⟩)

def rightPart : SubframeBuffer Pixel24 × Box2D :=
  (⟨⟨1, 0⟩, ⟨1, 1, fun _ _ => ⟨4, 5, 6⟩⟩⟩, ⟨⟨1, 0⟩, ⟨2, 1⟩⟩)

def pairFrame : Frame := ⟨1, 0, 0, [leftPart.1, rightPart.1]⟩

/-- Both parts are compressed, the second one first. -/
theorem terminatedOnce_iff_pair :
    ∃ msgs, pairEncoder.frameMessages pairFrame [(rightPart, .ok [7]), (leftPart, .ok [8])] =
      some msgs ∧ TerminatedOnce msgs := by
  have hperm : (([(rightPart, .ok [7]), (leftPart, .ok [8])] :
      List ((SubframeBuffer Pixel24 × Box2D) × Except String (List UInt8))).map Prod.fst).Perm
        (pairEncoder.relevant pairFrame) := List.Perm.swap _ _ []
  apply (terminatedOnce_iff hperm).mpr
  refine Or.inr ⟨?_, by decide⟩
  simp

/-- The second of two compressions fails: one fragment is sent, and it is not terminal. -/
theorem terminatedOnce_fails :
    ¬ ∃ msgs, pairEncoder.frameMessages pairFrame
      [(leftPart, .ok [8]), (rightPart, .error "compression failed")] = some msgs ∧
      TerminatedOnce msgs := by
  rintro ⟨msgs, hmsgs, ⟨hshape, -⟩⟩
  have hone : msgs = [.fragment ⟨1, 0, 0, 0, 0, false, 2, some ⟨0, 0⟩, some ⟨1, 1⟩, [8]⟩] :=
    (Option.some.inj hmsgs).symm
  rw [hone] at hshape
  rcases hshape with ⟨term, h⟩ | ⟨frags, -, h, -, hterm⟩
  · cases h
  · have hfrags : [_] = frags := map_fragment_inj h
    rw [← hfrags] at hterm
    simp at hterm

end ApertureC
