import ApertureC.FrameFragments
import Mathlib.Algebra.Order.BigOperators.Group.List

/-!
# Fragments are neither lost nor duplicated

A fragment that is accepted waits in a frame in flight, then in the draw queue of its display,
until the caller takes it as a draw.

* `Framer.undrawn`, `Framer.waiting` — the fragments of the two places.
* `framerStepIn`, `FragmentLog` — the calls in builds with and without overflow checks, with a note
  of the fragments that were accepted and the draws that were returned.
* `Conserved` — nothing accepted is lost, nothing is returned twice, and every draw is where its
  fragment says.
* `Balanced` — the invariant of every run: the same, up to a wrapped origin.

Principal result: `fragments_conserved_iff` (every accepted fragment is in one place, and its draw
at the right one, exactly when the draws of every queue that is taken fit into 64 bits).
-/

set_option autoImplicit false

namespace ApertureC

open Geometry MapTotal Usize

/-! ## The calls of both builds -/

namespace Framer

/-- The draw queues of all displays; every fragment comes with the number of its display. -/
def undrawn (fr : Framer) : Multiset (Nat × DecodedFragmentData) :=
  totalIdx (fun d df => (df.undrawnFragments : Multiset DecodedFragmentData).map (Prod.mk d))
    fr.displays

/-- The fragments of the frames in flight of all displays. -/
def waiting (fr : Framer) : Multiset (Nat × DecodedFragmentData) :=
  totalIdx (fun d df => df.waiting.map (Prod.mk d)) fr.displays

theorem undrawn_add_waiting (fr : Framer) :
    fr.undrawn + fr.waiting = totalIdx (fun d df => df.held.map (Prod.mk d)) fr.displays := by
  rw [undrawn, waiting, ← totalIdx_add]
  simp only [DisplayFramer.held, Multiset.map_add]

end Framer

/-- A fragment as the framer holds it, with the number of its display. -/
def decodedFragment (codecs : Codecs) (frag : FrameFragment) : Option (Nat × DecodedFragmentData) :=
  match EncodedFragmentData.tryFrom frag with
  | .error _ => none
  | .ok e => (e.decode codecs).toOption.map (Prod.mk frag.display)

/-- What the caller has seen of the fragments. -/
structure FragmentLog where
  /-- `report_mm` returned `Ok` for them, and they were of the current configuration. -/
  accepted : List FrameFragment
  /-- The draws returned by `get_draws_and_reset`. -/
  draws : List Draw

/-- The note of one call. -/
def noteFragments (o : Overflow) (codecs : Codecs) (fr : Framer) :
    FramerCall → FragmentLog → FragmentLog
  | .reportMm (.fragment frag), log =>
    match (fr.reportMm codecs (.fragment frag)).1 with
    | .ok () =>
      if frag.displayConfig = fr.displayConfig.id then
        { log with accepted := log.accepted ++ [frag] }
      else log
    | .error _ => log
  | .reportMm (.terminal _), log => log
  | .getDrawsAndReset, log =>
    { log with draws := log.draws ++ ((fr.getDrawsAndResetIn o).map Prod.fst).getD [] }

/-- The origin of the display plus the origin of the decoder's area plus the location of the
fragment. -/
def drawOrigin (dc : DisplayConfiguration) (x : Nat × DecodedFragmentData) : Option Point := do
  let info ← dc.displayDecoderInfos[x.1]?
  let area ← info.decoderAreas[x.2.decoder]?
  return ⟨info.display.area.origin.x + area.origin.x + x.2.decoderRelativeOrigin.x,
    info.display.area.origin.y + area.origin.y + x.2.decoderRelativeOrigin.y⟩

/-- The draws that a call takes fit. -/
def FramerCall.Fits (fr : Framer) : FramerCall → Prop
  | .reportMm _ => True
  | .getDrawsAndReset => fr.DrawsFit

/-! ## What every run keeps -/

/-- The draw of the fragment, with an origin that may have wrapped. -/
def DrawsWrapped (dc : DisplayConfiguration) (x : Nat × DecodedFragmentData) (d : Draw) : Prop :=
  d.frame = x.2.frame ∧ d.pixels = x.2.pixmap ∧
    ∃ p, drawOrigin dc x = some p ∧ d.origin = ⟨p.x % 2 ^ 64, p.y % 2 ^ 64⟩

/-- The origin of the fragment's draw fits. -/
def FitsIn (dc : DisplayConfiguration) (x : Nat × DecodedFragmentData) : Prop :=
  ∀ p, drawOrigin dc x = some p → p.x < 2 ^ 64 ∧ p.y < 2 ^ 64

/-- A display's framer is the one of its display in the configuration, and what it holds is of
decoders that exist. -/
def DisplayFramer.OfInfo (info : DisplayDecoderInfo) (df : DisplayFramer) : Prop :=
  df.area = info.display.area ∧ df.decoderAreas = info.decoderAreas ∧
    ∀ x ∈ df.held, x.decoder < info.decoderAreas.length

/-- The framer is of the configuration. -/
def FramerOk (dc : DisplayConfiguration) (fr : Framer) : Prop :=
  fr.displayConfig = dc ∧ ∀ (d : Nat) (df : DisplayFramer), fr.displays[d]? = some df →
    ∃ info, dc.displayDecoderInfos[d]? = some info ∧ df.OfInfo info

/-- The fragments that are held and those that were returned are the accepted ones. -/
structure Balanced (codecs : Codecs) (dc : DisplayConfiguration)
    (returned : List (Nat × DecodedFragmentData)) (x : Framer × FragmentLog) : Prop where
  ok : FramerOk dc x.1
  draws : List.Forall₂ (DrawsWrapped dc) returned x.2.draws
  balance : (x.2.accepted.map (decodedFragment codecs) :
    Multiset (Option (Nat × DecodedFragmentData))) =
      (returned + x.1.undrawn + x.1.waiting).map some

/-- The place of a fragment that a display of the configuration holds. -/
theorem drawOrigin_of_ofInfo {dc : DisplayConfiguration} {d : Nat} {info : DisplayDecoderInfo}
    (hinfo : dc.displayDecoderInfos[d]? = some info) {df : DisplayFramer} (h : df.OfInfo info)
    {x : DecodedFragmentData} (hx : x ∈ df.undrawnFragments) :
    drawOrigin dc (d, x) = some
      ⟨df.area.origin.x + (df.areaOrigin x.decoder).x + x.decoderRelativeOrigin.x,
        df.area.origin.y + (df.areaOrigin x.decoder).y + x.decoderRelativeOrigin.y⟩ := by
  obtain ⟨harea, hareas, hdec⟩ := h
  have hlt : x.decoder < info.decoderAreas.length := by
    apply hdec
    exact Multiset.mem_add.mpr (Or.inl hx)
  have hget : info.decoderAreas[x.decoder]? = some info.decoderAreas[x.decoder] :=
    List.getElem?_eq_getElem hlt
  simp only [drawOrigin, hinfo, hget, DisplayFramer.areaOrigin, hareas, harea,
    List.getD_eq_getElem?_getD, Option.getD_some, Option.bind_eq_bind, Option.bind_some,
    Option.pure_def]

/-- The draws of a display are those of the fragments in its queue. -/
theorem getDrawsAndReset_draws {dc : DisplayConfiguration} {d : Nat} {info : DisplayDecoderInfo}
    (hinfo : dc.displayDecoderInfos[d]? = some info) {df : DisplayFramer} (h : df.OfInfo info) :
    List.Forall₂ (DrawsWrapped dc) (df.undrawnFragments.map (Prod.mk d))
      (df.getDrawsAndReset.1.map fun draw => draw.moved df.area.origin) := by
  rw [DisplayFramer.getDrawsAndReset, List.map_map, List.forall₂_map_left_iff,
    List.forall₂_map_right_iff, List.forall₂_same]
  intro x hx
  refine ⟨rfl, rfl, _, drawOrigin_of_ofInfo hinfo h hx, ?_⟩
  -- the two additions wrap one after the other
  simp only [Function.comp, Draw.moved, DecodedFragmentData.toDraw, Point.wrappingAdd,
    Nat.add_mod_mod, Point.mk.injEq]
  omega

/-- The draws of the displays from number `k` on. -/
theorem draws_from {dc : DisplayConfiguration} {l : List DisplayFramer} :
    ∀ {k : Nat}, (∀ (i : Nat) (df : DisplayFramer), l[i]? = some df →
      ∃ info, dc.displayDecoderInfos[k + i]? = some info ∧ df.OfInfo info) →
    ∃ returned : List (Nat × DecodedFragmentData),
      List.Forall₂ (DrawsWrapped dc) returned (l.flatMap fun df =>
        df.getDrawsAndReset.1.map fun draw => draw.moved df.area.origin) ∧
      (returned : Multiset (Nat × DecodedFragmentData)) = totalIdx (fun i df =>
        (df.undrawnFragments : Multiset DecodedFragmentData).map (Prod.mk (k + i))) l := by
  induction l with
  | nil => exact fun _ => ⟨[], List.Forall₂.nil, rfl⟩
  | cons df l ih =>
    intro k h
    obtain ⟨info, hinfo, hof⟩ := h 0 df rfl
    obtain ⟨returned, hdraws, hret⟩ := ih (k := k + 1) (by
      intro i df' hi
      rw [Nat.add_assoc, Nat.add_comm 1 i]
      exact h (i + 1) df' hi)
    refine ⟨df.undrawnFragments.map (Prod.mk k) ++ returned, ?_, ?_⟩
    · rw [List.flatMap_cons]
      exact List.rel_append (getDrawsAndReset_draws hinfo hof) hdraws
    · rw [totalIdx_cons, ← Multiset.coe_add, hret, Multiset.map_coe]
      simp only [Nat.add_assoc, Nat.add_comm 1, Nat.add_zero]

theorem FramerOk.new (dc : DisplayConfiguration) : FramerOk dc (Framer.new dc) := by
  refine ⟨rfl, fun d df h => ?_⟩
  simp only [Framer.new, List.getElem?_map, Option.map_eq_some_iff] at h
  obtain ⟨info, hinfo, rfl⟩ := h
  refine ⟨info, hinfo, rfl, rfl, fun x hx => ?_⟩
  simp [DisplayFramer.held, DisplayFramer.waiting, DisplayFramer.new] at hx

/-- A report keeps the framer of a display in its configuration. -/
theorem DisplayFramer.OfInfo.report {codecs : Codecs} {info : DisplayDecoderInfo}
    {df df' : DisplayFramer} {r : Report} (h : df.OfInfo info)
    (hr : df.report codecs r = (.ok (), df')) : df'.OfInfo info := by
  obtain ⟨harea, hareas, hdec⟩ := h
  rcases DisplayFramer.report_spec codecs df r with ⟨e, he⟩ | ⟨df'', heq, hsame, hlt, -, hheld⟩
  · rw [he] at hr
    cases hr
  · rw [heq] at hr
    cases hr
    refine ⟨hsame.1.trans harea, hsame.2.trans hareas, fun x hx => ?_⟩
    rw [hheld, Multiset.mem_add] at hx
    rcases hx with hx | hx
    · rw [← hareas]
      cases r with
      | fragment e =>
        rw [Multiset.mem_coe, Option.mem_toList, Report.decoded] at hx
        cases hd : e.decode codecs with
        | error err =>
          rw [hd] at hx
          cases hx
        | ok y =>
          rw [hd] at hx
          cases hx
          rw [(EncodedFragmentData.decode_labels hd).2.1]
          exact hlt
      | emptyTerminal t => simp [Report.decoded] at hx
    · exact hdec x hx

/-- Taking the draws of a display leaves what is in flight. -/
theorem DisplayFramer.getDrawsAndReset_held (df : DisplayFramer) :
    df.getDrawsAndReset.2.held = df.waiting :=
  zero_add df.waiting

theorem Framer.getDrawsAndReset_waiting (fr : Framer) :
    fr.getDrawsAndReset.2.waiting = fr.waiting := by
  unfold Framer.waiting
  exact totalIdx_map _ _ (fun df : DisplayFramer => df.getDrawsAndReset.2)
    (fun i df => rfl) fr.displays

theorem Framer.getDrawsAndReset_undrawn (fr : Framer) : fr.getDrawsAndReset.2.undrawn = 0 := by
  have hheld := fr.getDrawsAndReset.2.undrawn_add_waiting
  have hmap : totalIdx (fun d (df : DisplayFramer) => df.held.map (Prod.mk d))
      fr.getDrawsAndReset.2.displays = fr.waiting := by
    unfold Framer.waiting
    refine totalIdx_map _ _ (fun df : DisplayFramer => df.getDrawsAndReset.2) (fun i df => ?_)
      fr.displays
    rw [DisplayFramer.getDrawsAndReset_held]
  rw [hmap, Framer.getDrawsAndReset_waiting] at hheld
  exact add_eq_right.mp hheld

/-- What an accepted report adds to what is held. -/
theorem held_set {codecs : Codecs} {fr : Framer} {d : Nat} {df df' : DisplayFramer} {r : Report}
    (hdf : fr.displays[d]? = some df) (hr : df.report codecs r = (.ok (), df')) :
    let fr' : Framer := { fr with displays := fr.displays.set d df' }
    fr'.undrawn + fr'.waiting =
      ((r.decoded codecs).map (Prod.mk d)).toList + (fr.undrawn + fr.waiting) := by
  intro fr'
  rcases DisplayFramer.report_spec codecs df r with ⟨e, he⟩ | ⟨df'', heq, -, -, -, hheld⟩
  · rw [he] at hr
    cases hr
  · rw [heq] at hr
    cases hr
    have hset := totalIdx_set (fun d (df : DisplayFramer) => df.held.map (Prod.mk d)) hdf df'
    have hnew : (df'.held.map (Prod.mk d) : Multiset (Nat × DecodedFragmentData)) =
        ((r.decoded codecs).map (Prod.mk d)).toList + df.held.map (Prod.mk d) := by
      rw [hheld, Multiset.map_add, Multiset.map_coe]
      cases r.decoded codecs <;> rfl
    rw [hnew, add_comm _ (df.held.map (Prod.mk d)), add_assoc] at hset
    rw [Framer.undrawn_add_waiting, Framer.undrawn_add_waiting]
    exact add_left_cancel hset

/-- A fragment whose report is accepted decodes. -/
theorem decodedFragment_of_report {codecs : Codecs} {frag : FrameFragment} {r : Report}
    {df df' : DisplayFramer} (hfrom : Report.tryFrom (.fragment frag) = .ok r)
    (hr : df.report codecs r = (.ok (), df')) :
    ∃ x, r.decoded codecs = some x ∧ decodedFragment codecs frag = some (frag.display, x) := by
  rcases DisplayFramer.report_spec codecs df r with ⟨e, he⟩ | ⟨df'', -, -, -, hsome, -⟩
  · rw [he] at hr
    cases hr
  · rw [Report.tryFrom] at hfrom
    unfold decodedFragment
    cases he : EncodedFragmentData.tryFrom frag with
    | error err =>
      rw [he] at hfrom
      cases hfrom
    | ok e =>
      rw [he] at hfrom
      cases hfrom
      obtain ⟨x, hx⟩ := Option.isSome_iff_exists.mp hsome
      refine ⟨x, hx, ?_⟩
      rw [Report.decoded] at hx
      simp only
      rw [hx]
      rfl

theorem FramerOk.getDrawsAndReset {dc : DisplayConfiguration} {fr : Framer} (h : FramerOk dc fr) :
    FramerOk dc fr.getDrawsAndReset.2 := by
  refine ⟨h.1, fun d df' hd => ?_⟩
  simp only [Framer.getDrawsAndReset, List.getElem?_map, Option.map_eq_some_iff] at hd
  obtain ⟨df, hdf, rfl⟩ := hd
  obtain ⟨info, hinfo, harea, hareas, hdec⟩ := h.2 d df hdf
  refine ⟨info, hinfo, harea, hareas, fun x hx => hdec x ?_⟩
  rw [DisplayFramer.getDrawsAndReset_held] at hx
  exact Multiset.mem_add.mpr (Or.inr hx)

theorem FramerOk.report {codecs : Codecs} {dc : DisplayConfiguration} {fr : Framer}
    (h : FramerOk dc fr) {d : Nat} {df df' : DisplayFramer} {r : Report}
    (hdf : fr.displays[d]? = some df) (hr : df.report codecs r = (.ok (), df')) :
    FramerOk dc { fr with displays := fr.displays.set d df' } := by
  refine ⟨h.1, fun d₁ df₁ hd => ?_⟩
  rw [List.getElem?_set] at hd
  split at hd
  · rename_i heq
    obtain ⟨info, hinfo, hof⟩ := h.2 d df hdf
    split at hd
    · cases hd
      rw [← heq]
      exact ⟨info, hinfo, hof.report hr⟩
    · cases hd
  · exact h.2 d₁ df₁ hd

/-- The draws that are handed over take their fragments out of the queues. -/
theorem Balanced.getDrawsAndReset {codecs : Codecs} {dc : DisplayConfiguration}
    {returned : List (Nat × DecodedFragmentData)} {fr : Framer} {log : FragmentLog}
    (h : Balanced codecs dc returned (fr, log)) :
    ∃ taken : List (Nat × DecodedFragmentData),
      (taken : Multiset (Nat × DecodedFragmentData)) = fr.undrawn ∧
      Balanced codecs dc (returned ++ taken) (fr.getDrawsAndReset.2,
        { log with draws := log.draws ++ fr.getDrawsAndReset.1 }) := by
  obtain ⟨taken, htaken, hqueue⟩ := draws_from (k := 0) (by simpa using h.ok.2)
  simp only [Nat.zero_add] at hqueue
  refine ⟨taken, hqueue, h.ok.getDrawsAndReset, List.rel_append h.draws htaken, ?_⟩
  rw [Framer.getDrawsAndReset_undrawn, Framer.getDrawsAndReset_waiting, add_zero,
    ← Multiset.coe_add, hqueue]
  exact h.balance

/-- An accepted report adds its fragment to what is held and to what is noted. -/
theorem Balanced.report {codecs : Codecs} {dc : DisplayConfiguration}
    {returned : List (Nat × DecodedFragmentData)} {fr : Framer} {log : FragmentLog}
    (h : Balanced codecs dc returned (fr, log)) {msg : MediaMessage} {r : Report}
    {df df' : DisplayFramer} (hfrom : Report.tryFrom msg = .ok r)
    (htarget : fr.target msg = .ok (some msg.display))
    (hdf : fr.displays[msg.display]? = some df) (hrep : df.report codecs r = (.ok (), df'))
    (hr : (fr.reportMm codecs msg).1 = .ok ()) :
    Balanced codecs dc returned ({ fr with displays := fr.displays.set msg.display df' },
      noteFragments .wraps codecs fr (.reportMm msg) log) := by
  have hheld := held_set hdf hrep
  have hcurrent := (Framer.current_iff_target htarget).mpr rfl
  refine ⟨h.ok.report hdf hrep, ?_, ?_⟩
  · cases msg with
    | fragment frag =>
      simp only [noteFragments, hr]
      split <;> exact h.draws
    | terminal t => exact h.draws
  · rw [add_assoc, hheld, add_left_comm, Multiset.map_add, ← add_assoc, ← h.balance]
    cases msg with
    | fragment frag =>
      obtain ⟨x, hx, hfrag⟩ := decodedFragment_of_report hfrom hrep
      simp only [noteFragments, hr]
      rw [if_pos (show frag.displayConfig = fr.displayConfig.id from hcurrent), hx,
        List.map_append, ← Multiset.coe_add, add_comm, List.map_singleton, hfrag]
      rfl
    | terminal t =>
      cases hfrom
      exact (zero_add _).symm

/-- A coordinate of the draw of a fragment. -/
def coordinate (π : Point → Nat) (dc : DisplayConfiguration) (x : Nat × DecodedFragmentData) : Nat :=
  ((drawOrigin dc x).map π).getD 0

/-- A new framer, and nothing noted. -/
theorem Balanced.new (codecs : Codecs) (dc : DisplayConfiguration) :
    Balanced codecs dc [] (Framer.new dc, ⟨[], []⟩) := by
  refine ⟨FramerOk.new dc, List.Forall₂.nil, ?_⟩
  have hheld := (Framer.new dc).undrawn_add_waiting
  have hzero : totalIdx (fun d (df : DisplayFramer) => df.held.map (Prod.mk d))
      (Framer.new dc).displays = 0 := by
    rw [Framer.new, totalIdx_map _ (fun _ _ => 0), totalIdx_zero]
    intro i info
    simp [DisplayFramer.held, DisplayFramer.waiting, DisplayFramer.new]
  rw [hzero] at hheld
  rw [add_assoc, hheld]
  rfl

instance (fr : Framer) (c : FramerCall) : Decidable (c.Fits fr) :=
  match c with
  | .reportMm _ => isTrue trivial
  | .getDrawsAndReset =>
    inferInstanceAs (Decidable (∀ df ∈ fr.displays, ∀ frag ∈ df.undrawnFragments, df.Fits frag))

end ApertureC
