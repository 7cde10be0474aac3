import ApertureC.FrameStages

/-!
# The loop of the media thread (`aperturec-client/src/channels/media.rs`)

* `takeDraws`, `configure`, `receive` — the three things `mc-main` does in its loop: flush the
  draws of the framer, follow a display configuration, and report a media message.
* `MediaInput`, `mediaStep`, `mediaRun` — the loop over the inputs it selects.
* `Framer.target` — where a message goes: to the framer of a display, nowhere (an older
  configuration), or back as an error.
* `MediaEntry`, `mediaTrace` — what the loop did with every message.

Principal results: `reportMm_eq` (a report is decided by `target`) and
`handed_after_configuration` — messages of a configuration are given to the framer of their display
when they come after it, and refused without effect when they come before it.
-/

set_option autoImplicit false

namespace ApertureC

open Geometry

/-- What the framer of the display is given for a message, or why the message is refused. -/
def Report.tryFrom : MediaMessage → Except FrameError Report
  | .fragment frag => (EncodedFragmentData.tryFrom frag).map .fragment
  | .terminal term => .ok (.emptyTerminal term)

/-- A converted fragment keeps its labels, its number and its flag. -/
theorem EncodedFragmentData.of_tryFrom {frag : FrameFragment} {e : EncodedFragmentData}
    (h : EncodedFragmentData.tryFrom frag = .ok e) :
    e.displayConfig = frag.displayConfig ∧ e.display = frag.display ∧
      e.sequence = frag.sequence ∧ e.terminal = frag.terminal := by
  unfold EncodedFragmentData.tryFrom at h
  split at h
  · cases h
  · split at h
    · cases h
    · split at h
      · cases h
      · cases h
        exact ⟨rfl, rfl, rfl, rfl⟩

namespace Framer

/-- Where a message goes: `none` is silently dropped, `some d` is handed to display `d`. -/
def target (fr : Framer) (msg : MediaMessage) : Except FrameError (Option Nat) :=
  match Report.tryFrom msg with
  | .error e => .error e
  | .ok _ =>
    if msg.displayConfig < fr.displayConfig.id then .ok none
    else if msg.displayConfig ≠ fr.displayConfig.id then
      .error (.mismatchingConfig msg.displayConfig fr.displayConfig.id)
    else if msg.display < fr.displays.length then .ok (some msg.display)
    else .error (.invalidDisplay msg.display)

/-- The framer of a display is given a report. -/
def handTo (codecs : Codecs) (fr : Framer) (display : Nat) (r : Report) :
    Except Failure Unit × Framer :=
  match fr.displays[display]? with
  | none => (.error (.err (.invalidDisplay display)), fr)
  | some df =>
    ((df.report codecs r).1,
      { fr with displays := fr.displays.set display (df.report codecs r).2 })

/-- Dispatch of a report, by the configuration and the display it names. -/
theorem dispatch_eq (codecs : Codecs) (fr : Framer) (displayConfig display : Nat) (r : Report) :
    fr.dispatch displayConfig display (fun df => df.report codecs r) =
      if displayConfig < fr.displayConfig.id then (.ok (), fr)
      else if displayConfig ≠ fr.displayConfig.id then
        (.error (.err (.mismatchingConfig displayConfig fr.displayConfig.id)), fr)
      else fr.handTo codecs display r := rfl

/-- **A report is decided by `target`**: an error or an older configuration leaves the framer as it
is, and otherwise exactly the framer of the display is given the message. -/
theorem reportMm_eq (codecs : Codecs) (fr : Framer) (msg : MediaMessage) :
    (∃ e, fr.target msg = .error e ∧ fr.reportMm codecs msg = (.error (.err e), fr)) ∨
    (fr.target msg = .ok none ∧ fr.reportMm codecs msg = (.ok (), fr)) ∨
    ∃ r, Report.tryFrom msg = .ok r ∧ msg.display < fr.displays.length ∧
      fr.target msg = .ok (some msg.display) ∧
      fr.reportMm codecs msg = fr.handTo codecs msg.display r := by
  have hreport : (∃ e, Report.tryFrom msg = .error e ∧
        fr.reportMm codecs msg = (.error (.err e), fr)) ∨
      ∃ r, Report.tryFrom msg = .ok r ∧ fr.reportMm codecs msg =
        fr.dispatch msg.displayConfig msg.display (fun df => df.report codecs r) := by
    cases msg with
    | fragment frag =>
      simp only [Report.tryFrom, reportMm, reportFragment]
      cases he : EncodedFragmentData.tryFrom frag with
      | error e => exact Or.inl ⟨e, rfl, rfl⟩
      | ok e =>
        obtain ⟨hconfig, hdisplay, -⟩ := EncodedFragmentData.of_tryFrom he
        simp only [hconfig, hdisplay]
        exact Or.inr ⟨_, rfl, rfl⟩
    | terminal term => exact Or.inr ⟨_, rfl, rfl⟩
  rcases hreport with ⟨e, he, hr⟩ | ⟨r, hok, hr⟩
  · refine Or.inl ⟨e, ?_, hr⟩
    rw [target, he]
  · rw [hr, dispatch_eq, target, hok]
    simp only
    split
    · exact Or.inr (Or.inl ⟨rfl, rfl⟩)
    · split
      · exact Or.inl ⟨_, rfl, rfl⟩
      · split
        · rename_i hlt
          exact Or.inr (Or.inr ⟨r, rfl, hlt, rfl, rfl⟩)
        · rename_i hge
          refine Or.inl ⟨_, rfl, ?_⟩
          rw [handTo, List.getElem?_eq_none (by omega)]

end Framer

/-! ## The loop -/

/-- `if framer.has_draws() { for draw in framer.get_draws_and_reset() { .. } }`. -/
def takeDraws (fr : Framer) : List Draw × Framer :=
  if fr.hasDraws then fr.getDrawsAndReset else ([], fr)

/-- A display configuration from the primary thread. -/
def configure (fr : Framer) (dc : DisplayConfiguration) : Framer :=
  if dc.id > fr.displayConfig.id then Framer.new dc else fr

/-- A message from the network; one with an empty body is ignored. -/
def receive (codecs : Codecs) (fr : Framer) : Option MediaMessage → Except Failure Unit × Framer
  | some msg => fr.reportMm codecs msg
  | none => (.ok (), fr)

inductive MediaInput where
  | configuration (dc : DisplayConfiguration)
  | message (msg : Option MediaMessage)

/-- One turn of the loop. -/
def mediaStep (codecs : Codecs) (fr : Framer) : MediaInput → Framer
  | .configuration dc => configure (takeDraws fr).2 dc
  | .message msg => (receive codecs (takeDraws fr).2 msg).2

def mediaRun (codecs : Codecs) (fr : Framer) (inputs : List MediaInput) : Framer :=
  inputs.foldl (mediaStep codecs) fr

/-- What the loop did with a message: the framer it found, the result of the report, and the framer
it left. -/
structure MediaEntry where
  msg : MediaMessage
  before : Framer
  result : Except Failure Unit
  after : Framer

/-- The message is given to the framer of its display, and nothing else changes. -/
def MediaEntry.Handed (codecs : Codecs) (x : MediaEntry) : Prop :=
  ∃ r df, Report.tryFrom x.msg = .ok r ∧ x.before.displays[x.msg.display]? = some df ∧
    x.result = (df.report codecs r).1 ∧
    x.after = { x.before with
      displays := x.before.displays.set x.msg.display (df.report codecs r).2 }

/-- The message is refused because the framer is of an older configuration, and nothing changes. -/
def MediaEntry.Refused (x : MediaEntry) : Prop :=
  x.before.displayConfig.id < x.msg.displayConfig ∧
    x.result = .error (.err (.mismatchingConfig x.msg.displayConfig x.before.displayConfig.id)) ∧
    x.after = x.before

/-- The loop flushes the draws of the framer and receives the message. -/
def mediaEntry (codecs : Codecs) (fr : Framer) (msg : MediaMessage) : MediaEntry where
  msg := msg
  before := (takeDraws fr).2
  result := (receive codecs (takeDraws fr).2 (some msg)).1
  after := (receive codecs (takeDraws fr).2 (some msg)).2

/-- The messages of a run, each with what the loop did with it. -/
def mediaTrace (codecs : Codecs) : Framer → List MediaInput → List MediaEntry
  | _, [] => []
  | fr, .message (some msg) :: inputs =>
    mediaEntry codecs fr msg :: mediaTrace codecs (mediaEntry codecs fr msg).after inputs
  | fr, i :: inputs => mediaTrace codecs (mediaStep codecs fr i) inputs

/-- The messages among the inputs. -/
def messages (inputs : List MediaInput) : List MediaMessage :=
  inputs.filterMap fun i =>
    match i with
    | .message msg => msg
    | .configuration _ => none

/-- The message converts and names a display of the configuration. -/
def MediaMessage.Valid (dc : DisplayConfiguration) (msg : MediaMessage) : Prop :=
  msg.display < dc.displayDecoderInfos.length ∧ (Report.tryFrom msg).isOk = true

/-- The framer is of the given configuration and has one framer per display. -/
def Framer.Of (dc : DisplayConfiguration) (fr : Framer) : Prop :=
  fr.displayConfig = dc ∧ fr.displays.length = dc.displayDecoderInfos.length

theorem new_of (dc : DisplayConfiguration) : (Framer.new dc).Of dc := by
  refine ⟨rfl, ?_⟩
  simp [Framer.new]

theorem takeDraws_of {dc : DisplayConfiguration} {fr : Framer} (h : fr.Of dc) :
    (takeDraws fr).2.Of dc := by
  unfold takeDraws
  split
  · refine ⟨h.1, ?_⟩
    simp only [Framer.getDrawsAndReset, List.length_map]
    exact h.2
  · exact h

theorem receive_of (codecs : Codecs) {dc : DisplayConfiguration} {fr : Framer} (h : fr.Of dc)
    (msg : Option MediaMessage) : (receive codecs fr msg).2.Of dc := by
  cases msg with
  | none => exact h
  | some msg =>
    rw [receive]
    rcases fr.reportMm_eq codecs msg with ⟨e, -, hr⟩ | ⟨-, hr⟩ | ⟨r, -, -, -, hr⟩
    · rw [hr]; exact h
    · rw [hr]; exact h
    · rw [hr]
      unfold Framer.handTo
      split
      · exact h
      · refine ⟨h.1, ?_⟩
        rw [List.length_set]
        exact h.2

/-- An input moves the framer on only to a newer configuration. -/
theorem mediaStep_of (codecs : Codecs) {dc : DisplayConfiguration} {fr : Framer} (h : fr.Of dc)
    (i : MediaInput) :
    ((mediaStep codecs fr i).Of dc ∧ ∀ dc', i = .configuration dc' → dc'.id ≤ dc.id) ∨
    ∃ dc', i = .configuration dc' ∧ dc.id < dc'.id ∧ (mediaStep codecs fr i).Of dc' := by
  have hd := takeDraws_of h
  cases i with
  | message msg => exact Or.inl ⟨receive_of codecs hd msg, (fun dc' h => nomatch h)⟩
  | configuration dc' =>
    simp only [mediaStep, configure]
    rw [hd.1]
    split
    · rename_i hgt
      exact Or.inr ⟨dc', rfl, hgt, new_of dc'⟩
    · rename_i hle
      refine Or.inl ⟨hd, fun dc'' heq => ?_⟩
      cases heq
      omega

/-- A message of the framer's configuration is given to the framer of its display. -/
theorem mediaEntry_handed (codecs : Codecs) {c : DisplayConfiguration} {fr : Framer} (h : fr.Of c)
    {msg : MediaMessage} (hc : msg.displayConfig = c.id) (hvalid : msg.Valid c) :
    (mediaEntry codecs fr msg).before.displayConfig = c ∧
      (mediaEntry codecs fr msg).Handed codecs := by
  obtain ⟨hconfig, hlen⟩ := takeDraws_of h
  obtain ⟨hdisplay, hok⟩ := hvalid
  have htarget : (takeDraws fr).2.target msg = .ok (some msg.display) := by
    cases hr : Report.tryFrom msg with
    | error e =>
      rw [hr] at hok
      cases hok
    | ok r =>
      simp only [Framer.target, hr, hconfig, hc, hlen]
      rw [if_neg (by omega), if_neg (by simp), if_pos hdisplay]
  rcases (takeDraws fr).2.reportMm_eq codecs msg with ⟨e, he, -⟩ | ⟨hn, -⟩ | ⟨r, hfrom, hlt, -, hr⟩
  · rw [htarget] at he
    cases he
  · rw [htarget] at hn
    cases hn
  · have hdf := List.getElem?_eq_getElem hlt
    rw [Framer.handTo, hdf] at hr
    exact ⟨hconfig, r, _, hfrom, hdf, congrArg Prod.fst hr, congrArg Prod.snd hr⟩

/-- A message of a newer configuration is refused. -/
theorem mediaEntry_refused (codecs : Codecs) {dc : DisplayConfiguration} {fr : Framer}
    (h : fr.Of dc) {msg : MediaMessage} (hlt : dc.id < msg.displayConfig)
    (hok : (Report.tryFrom msg).isOk = true) : (mediaEntry codecs fr msg).Refused := by
  have hconfig := (takeDraws_of h).1
  have htarget : (takeDraws fr).2.target msg =
      .error (.mismatchingConfig msg.displayConfig (takeDraws fr).2.displayConfig.id) := by
    cases hr : Report.tryFrom msg with
    | error e =>
      rw [hr] at hok
      cases hok
    | ok r =>
      simp only [Framer.target, hr, hconfig]
      rw [if_neg (by omega), if_pos (by omega)]
  have hbefore : (takeDraws fr).2.displayConfig.id < msg.displayConfig := by
    rw [hconfig]
    exact hlt
  rcases (takeDraws fr).2.reportMm_eq codecs msg with ⟨e, he, hr⟩ | ⟨hn, -⟩ | ⟨r, -, -, ht, -⟩
  · rw [htarget] at he
    cases he
    exact ⟨hbefore, congrArg Prod.fst hr, congrArg Prod.snd hr⟩
  · rw [htarget] at hn
    cases hn
  · rw [htarget] at ht
    cases ht

/-- An entry of a run is that of its first message, or one of the rest. -/
theorem mem_mediaTrace_cons {codecs : Codecs} {fr : Framer} {i : MediaInput}
    {inputs : List MediaInput} {x : MediaEntry} (hx : x ∈ mediaTrace codecs fr (i :: inputs)) :
    (∃ msg, i = .message (some msg) ∧ x = mediaEntry codecs fr msg) ∨
      x ∈ mediaTrace codecs (mediaStep codecs fr i) inputs := by
  match i with
  | .configuration dc => exact Or.inr hx
  | .message none => exact Or.inr hx
  | .message (some msg) =>
    rcases List.mem_cons.mp hx with rfl | hx
    · exact Or.inl ⟨msg, rfl, rfl⟩
    · exact Or.inr hx

/-- Before the configuration, its messages are refused as mismatching. -/
theorem mediaTrace_before (codecs : Codecs) {c : DisplayConfiguration} :
    ∀ (inputs : List MediaInput) {dc : DisplayConfiguration} {fr : Framer}, fr.Of dc →
      dc.id < c.id → (∀ dc', .configuration dc' ∈ inputs → dc'.id < c.id) →
      (∃ dc', (mediaRun codecs fr inputs).Of dc' ∧ dc'.id < c.id) ∧
      ∀ x ∈ mediaTrace codecs fr inputs, x.msg.displayConfig = c.id →
        (Report.tryFrom x.msg).isOk = true → x.Refused
  | [], dc, fr, h, hlt, _ => ⟨⟨dc, h, hlt⟩, (fun x hx => nomatch hx)⟩
  | i :: inputs, dc, fr, h, hlt, hall => by
    have hrest := fun dc' hdc' => hall dc' (List.mem_cons_of_mem i hdc')
    have hnext : ∃ dc', (mediaStep codecs fr i).Of dc' ∧ dc'.id < c.id := by
      rcases mediaStep_of codecs h i with ⟨hof, -⟩ | ⟨dc', heq, -, hof⟩
      · exact ⟨dc, hof, hlt⟩
      · exact ⟨dc', hof, hall dc' (heq ▸ List.mem_cons_self)⟩
    obtain ⟨dc', hof', hlt'⟩ := hnext
    obtain ⟨hrun, htrace⟩ := mediaTrace_before codecs inputs hof' hlt' hrest
    refine ⟨hrun, fun x hx => ?_⟩
    rcases mem_mediaTrace_cons hx with ⟨msg, rfl, rfl⟩ | hx
    · intro hc hok
      refine mediaEntry_refused codecs h ?_ hok
      exact lt_of_lt_of_eq hlt hc.symm
    · exact htrace x hx

/-- While the configuration is current, its valid messages are given to their display. -/
theorem mediaTrace_after (codecs : Codecs) {c : DisplayConfiguration} :
    ∀ (inputs : List MediaInput) {fr : Framer}, fr.Of c →
      (∀ dc', .configuration dc' ∈ inputs → dc'.id ≤ c.id) →
      (mediaRun codecs fr inputs).Of c ∧
      ∀ x ∈ mediaTrace codecs fr inputs, x.msg.displayConfig = c.id → x.msg.Valid c →
        x.before.displayConfig = c ∧ x.Handed codecs
  | [], fr, h, _ => ⟨h, (fun x hx => nomatch hx)⟩
  | i :: inputs, fr, h, hall => by
    have hrest := fun dc' hdc' => hall dc' (List.mem_cons_of_mem i hdc')
    have hof : (mediaStep codecs fr i).Of c := by
      rcases mediaStep_of codecs h i with ⟨hof, -⟩ | ⟨dc', heq, hlt, -⟩
      · exact hof
      · have := hall dc' (heq ▸ List.mem_cons_self)
        omega
    obtain ⟨hrun, htrace⟩ := mediaTrace_after codecs inputs hof hrest
    refine ⟨hrun, fun x hx => ?_⟩
    rcases mem_mediaTrace_cons hx with ⟨msg, rfl, rfl⟩ | hx
    · exact fun hc hvalid => mediaEntry_handed codecs h hc hvalid
    · exact htrace x hx

theorem mediaTrace_append (codecs : Codecs) :
    ∀ (xs ys : List MediaInput) (fr : Framer),
      mediaTrace codecs fr (xs ++ ys) =
        mediaTrace codecs fr xs ++ mediaTrace codecs (mediaRun codecs fr xs) ys
  | [], _, _ => rfl
  | .configuration dc :: xs, ys, fr => mediaTrace_append codecs xs ys _
  | .message none :: xs, ys, fr => mediaTrace_append codecs xs ys _
  | .message (some msg) :: xs, ys, fr => by
    rw [List.cons_append, mediaTrace, mediaTrace, mediaTrace_append codecs xs ys]
    rfl

theorem mediaTrace_messages (codecs : Codecs) :
    ∀ (inputs : List MediaInput) (fr : Framer),
      (mediaTrace codecs fr inputs).map MediaEntry.msg = messages inputs
  | [], _ => rfl
  | .configuration dc :: inputs, fr => mediaTrace_messages codecs inputs _
  | .message none :: inputs, fr => mediaTrace_messages codecs inputs _
  | .message (some msg) :: inputs, fr => by
    rw [mediaTrace, List.map_cons, mediaTrace_messages codecs inputs]
    rfl

theorem mem_of_mem_mediaTrace {codecs : Codecs} {inputs : List MediaInput} {fr : Framer}
    {x : MediaEntry} (h : x ∈ mediaTrace codecs fr inputs) : .message (some x.msg) ∈ inputs := by
  have hx : x.msg ∈ messages inputs := by
    rw [← mediaTrace_messages codecs inputs fr]
    exact List.mem_map_of_mem h
  obtain ⟨i, hi, heq⟩ := List.mem_filterMap.mp hx
  cases i with
  | configuration dc => cases heq
  | message msg =>
    simp only at heq
    rw [← heq]
    exact hi

/-- **Messages of a configuration are given to the framer of their display when they come after it,
and refused without effect when they come before it.**  In the end the configuration is the
framer's. -/
theorem handed_after_configuration (codecs : Codecs) (first c : DisplayConfiguration)
    (hfirst : first.id < c.id) (before after : List MediaInput)
    (hbefore : ∀ dc, .configuration dc ∈ before → dc.id < c.id)
    (hafter : ∀ dc, .configuration dc ∈ after → dc.id ≤ c.id)
    (hvalid : ∀ msg, .message (some msg) ∈ before ++ after → msg.displayConfig = c.id →
      msg.Valid c) :
    (mediaRun codecs (Framer.new first) (before ++ .configuration c :: after)).displayConfig = c ∧
    ∃ early late, mediaTrace codecs (Framer.new first) (before ++ .configuration c :: after) =
        early ++ late ∧
      early.map MediaEntry.msg = messages before ∧ late.map MediaEntry.msg = messages after ∧
      (∀ x ∈ early, x.msg.displayConfig = c.id → x.Refused) ∧
      ∀ x ∈ late, x.msg.displayConfig = c.id →
        x.before.displayConfig = c ∧ x.Handed codecs := by
  obtain ⟨⟨dc, hdc, hlt⟩, hearly⟩ := mediaTrace_before codecs before (new_of first) hfirst hbefore
  have hof : (mediaStep codecs (mediaRun codecs (Framer.new first) before) (.configuration c)).Of
      c := by
    rcases mediaStep_of codecs hdc (.configuration c) with ⟨-, hle⟩ | ⟨dc', heq, -, hof⟩
    · have := hle c rfl
      omega
    · cases heq
      exact hof
  obtain ⟨hrun, hlate⟩ := mediaTrace_after codecs after hof hafter
  refine ⟨?_, _, _, mediaTrace_append codecs before _ _, mediaTrace_messages codecs _ _,
    mediaTrace_messages codecs _ _, fun x hx hc => ?_, fun x hx hc => ?_⟩
  · rw [mediaRun, List.foldl_append, List.foldl_cons]
    exact hrun.1
  · have hmem := mem_of_mem_mediaTrace hx
    exact hearly x hx hc (hvalid x.msg (List.mem_append_left _ hmem) hc).2
  · have hmem : .message (some x.msg) ∈ after := mem_of_mem_mediaTrace hx
    exact hlate x hx hc (hvalid x.msg (List.mem_append_right _ hmem) hc)

/-- A display of one pixel with one decoder. -/
def pixelConfiguration (id : Nat) : DisplayConfiguration :=
  ⟨id, [⟨⟨pixelArea, true⟩, [pixelArea]⟩]⟩

/-- An empty frame terminal of configuration 1 before that configuration, and one after it. -/
theorem handed_after_configuration_one :
    (mediaRun rawOnly (Framer.new (pixelConfiguration 0))
      ([.message (some (.terminal ⟨0, 0, 0, 1⟩))] ++ .configuration (pixelConfiguration 1) ::
        [.message (some (.terminal ⟨1, 0, 0, 1⟩))])).displayConfig = pixelConfiguration 1 ∧
    ∃ early late, mediaTrace rawOnly (Framer.new (pixelConfiguration 0))
        ([.message (some (.terminal ⟨0, 0, 0, 1⟩))] ++ .configuration (pixelConfiguration 1) ::
          [.message (some (.terminal ⟨1, 0, 0, 1⟩))]) = early ++ late ∧
      early.map MediaEntry.msg = messages [.message (some (.terminal ⟨0, 0, 0, 1⟩))] ∧
      late.map MediaEntry.msg = messages [.message (some (.terminal ⟨1, 0, 0, 1⟩))] ∧
      (∀ x ∈ early, x.msg.displayConfig = 1 → x.Refused) ∧
      ∀ x ∈ late, x.msg.displayConfig = 1 →
        x.before.displayConfig = pixelConfiguration 1 ∧ x.Handed rawOnly := by
  refine handed_after_configuration rawOnly (pixelConfiguration 0) (pixelConfiguration 1)
    (by decide) [.message (some (.terminal ⟨0, 0, 0, 1⟩))]
    [.message (some (.terminal ⟨1, 0, 0, 1⟩))] ?_ ?_ ?_
  · intro dc h
    simp at h
  · intro dc h
    simp at h
  · intro msg h _
    simp only [List.cons_append, List.nil_append, List.mem_cons, MediaInput.message.injEq,
      Option.some.injEq, List.not_mem_nil, or_false] at h
    rcases h with h | h
    · rw [h]
      exact ⟨by decide, rfl⟩
    · rw [h]
      exact ⟨by decide, rfl⟩

/-- A message that overtakes its configuration is refused, and is not given to the framer of its
display when the configuration comes. -/
theorem handed_before_configuration_fails :
    (mediaRun rawOnly (Framer.new (pixelConfiguration 0))
      [.message (some (.terminal ⟨0, 0, 0, 1⟩)), .configuration (pixelConfiguration 1)]).displayConfig
        = pixelConfiguration 1 ∧
    ¬ ∀ x ∈ mediaTrace rawOnly (Framer.new (pixelConfiguration 0))
        [.message (some (.terminal ⟨0, 0, 0, 1⟩)), .configuration (pixelConfiguration 1)],
      x.msg.displayConfig = 1 → x.Handed rawOnly := by
  refine ⟨rfl, fun h => ?_⟩
  -- the framer of display 0 accepts the terminal, and the loop has returned an error
  obtain ⟨r, df, hfrom, hdf, hresult, -⟩ := h _ List.mem_cons_self rfl
  cases hfrom
  cases hdf
  revert hresult
  decide

end ApertureC
