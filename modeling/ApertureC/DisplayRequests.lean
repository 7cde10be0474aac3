import ApertureC.DisplayExtent
import ApertureC.Lib.Machine
import ApertureC.PartitionShares
import ApertureC.XDisplays

/-!
# Display requests to an X server

What `set_displays` of `XDisplays` comes to over a sequence of requests, and when it succeeds.

* `setDisplays_answers` — the answers of `BackendTask` that a call amounts to.
* `Obliging` — an X server that refuses no request it could grant.
* `Settable` — what a requested display has to be.

Principal results: `displays_shown` (**the displays in force are shown**, in every state of every run),
`setDisplays_ok_iff` (when a request succeeds), `setDisplays_sidesFit` (the sides of what is returned
have 16 bits), `setDisplays_size` (the screen is trimmed to the displays) and `setDisplays_again`
(repeating a request changes nothing).
-/

set_option autoImplicit false

namespace ApertureC.XDisplays

open Geometry

section Runs

variable {σ : Type} (r : RandR σ) (x : X)

/-! ## Requests in turn -/

/-- A request for displays, and the displays that are in force after it. -/
def step (state : σ × List Display) (requested : List Display) : Option (σ × List Display) :=
  match setDisplays r x requested state.1 with
  | (some result, t) => some (t, setResult result)
  | (none, _) => none

/-- The displays in force are shown by CRTCs in their order. -/
structure InForce (state : σ × List Display) : Prop where
  named : Named (r.screen state.1)
  shown : ∃ ids, ids.Sublist (List.range x.maxDisplayCount) ∧
    List.Forall₂ (Shows (r.screen state.1)) ids state.2

theorem step_inForce (hh : Heeds r) {state state' : σ × List Display} {requested : List Display}
    (h : InForce r x state) (hstep : step r x state requested = some state') :
    InForce r x state' := by
  unfold step at hstep
  rcases hset : setDisplays r x requested state.1 with ⟨_ | result, t⟩ <;> rw [hset] at hstep
  · cases hstep
  · cases hstep
    obtain ⟨hnamed, ids, hsub, hshown, -⟩ := setDisplays_shown hh h.named hset
    exact ⟨hnamed, ids, hsub, hshown⟩

/-- **The displays in force are shown**, in every state of every run, whatever the X server refuses, if
it ignores nothing: the screen begins with modes named by their sizes and with no display in force. -/
theorem displays_shown (hh : Heeds r) (s : σ) (hn : Named (r.screen s)) (requests : List (List Display)) :
    Machine.Always (step r x) (InForce r x) (s, []) requests := by
  apply Machine.always_of_invariant
  · intro state requested state' h hstep
    exact step_inForce r x hh h hstep
  · exact ⟨hn, [], List.nil_sublist _, .nil⟩

end Runs

/-- Two displays side by side, then only the second one. -/
theorem displays_shown_desk :
    Machine.Always (step Xvfb.deskServer Xvfb.deskX) (InForce Xvfb.deskServer Xvfb.deskX)
      (Xvfb.desk, []) [Xvfb.sideBySide, Xvfb.sideBySide.map fun d => ⟨d.area, d.area.origin.x ≠ 0⟩] :=
  displays_shown Xvfb.deskServer Xvfb.deskX Xvfb.heeds Xvfb.desk Xvfb.named_desk _

/-- An X server that only says in its reply that it failed is not noticed: the displays are reported,
and the screen is as it was. -/
example :
    let (result, s) := setDisplays (Xvfb.failing (by decide)) Xvfb.deskX Xvfb.sideBySide Xvfb.desk
    result = some (.ok ⟨true, Xvfb.sideBySide ++ [Display.default]⟩) ∧
      s.screen.crtcs = Xvfb.desk.screen.crtcs := by
  decide +kernel

/-! ## The answers of a call -/

section Answers

variable {σ : Type} {r : RandR σ} {x : X} {s t : σ}

theorem setEach_congr {a b : XAnswers} {id : Nat} {ds : List Display}
    (h : ∀ j, id ≤ j → a.setDisplay j = b.setDisplay j ∧ a.getDisplay j = b.getDisplay j) :
    setEach a id ds = setEach b id ds := by
  induction ds generalizing id with
  | nil => rfl
  | cons d ds ih =>
    obtain ⟨hset, hget⟩ := h id (le_refl id)
    rw [setEach, setEach, ih fun j hj => h j (by omega), hset, hget]

/-- The answers from an id on, with others for that id. -/
def answersWith (a : XAnswers) (id : Nat) (set : Option SetDisplaySuccess)
    (get : Option Display) : XAnswers where
  setDisplay j d := if j = id then set else a.setDisplay j d
  getDisplay j := if j = id then get else a.getDisplay j

theorem setEach_answersWith (a : XAnswers) (id : Nat) (set : Option SetDisplaySuccess)
    (get : Option Display) (ds : List Display) :
    setEach (answersWith a id set get) (id + 1) ds = setEach a (id + 1) ds := by
  apply setEach_congr
  intro j hj
  have hne : j ≠ id := by omega
  exact ⟨funext fun d => if_neg hne, if_neg hne⟩

theorem setEachDisplay_answers (hh : Heeds r) (hn : Named (r.screen s)) {id : Nat} {ds : List Display}
    {result : Bool × Bool × List Display}
    (h : setEachDisplay r x id ds s = (some result, t)) : ∃ a, setEach a id ds = result := by
  induction ds generalizing id s t result with
  | nil =>
    cases h
    exact ⟨⟨fun _ _ => none, fun _ => none⟩, rfl⟩
  | cons d ds ih =>
    obtain ⟨s₁, rest, hrest, hframe, hcase⟩ := setEachDisplay_cons hh hn h
    obtain ⟨a, ha⟩ := ih (hframe.named hn) hrest
    rcases hcase with ⟨kind, -, -, rfl⟩ | ⟨-, ⟨current, -, rfl⟩ | rfl⟩
    · refine ⟨answersWith a id (some kind) none, ?_⟩
      rw [setEach, setEach_answersWith, ha]
      simp [answersWith]
    · refine ⟨answersWith a id none (some current), ?_⟩
      rw [setEach, setEach_answersWith, ha]
      simp [answersWith]
    · refine ⟨answersWith a id none none, ?_⟩
      rw [setEach, setEach_answersWith, ha]
      simp [answersWith]

/-- **A call is one of those that the backend task is proved correct for**: some answers of the X
server lead to its result. -/
theorem setDisplays_answers (hh : Heeds r) (hn : Named (r.screen s)) {requested : List Display}
    {result : Except (List Display) SetDisplaysSuccess}
    (h : setDisplays r x requested s = (some result, t)) :
    ∃ a, ApertureC.setDisplays a x.maxDisplayCount requested = result := by
  obtain ⟨s₀, ⟨errors, changed, final⟩, s₂, t', hs₀, heach, -, hsteps⟩ :=
    setDisplays_steps (r := r) (x := x) requested s
  rw [hsteps] at h
  cases h
  have hbefore := resizeScreenIf_kept (r := r) (resizeDisplays x.maxDisplayCount requested) .gt s₀
  rw [hs₀] at hbefore
  obtain ⟨a, ha⟩ := setEachDisplay_answers hh (hbefore.named hn) heach
  refine ⟨a, ?_⟩
  rw [ApertureC.setDisplays, ha]
  cases errors <;> rfl

end Answers

/-! ## An obliging X server -/

/-- A request that could be granted is, and none is ignored. -/
structure Obliging {σ : Type} (r : RandR σ) : Prop where
  heeds : Heeds r
  grants : ∀ req s reply z, Answers r.limit (r.screen s) req reply z → reply.heeded = true →
    ∃ reply' t, r.send req s = (some reply', t)

theorem Xvfb.obliging {limit : Size} (limit_lt : limit.width < 65536 ∧ limit.height < 65536) :
    Obliging (Xvfb.server limit_lt) := by
  refine ⟨heeds, fun req s reply z h hheeded => ?_⟩
  change ∃ reply' t, Xvfb.send limit_lt req s = (some reply', t)
  cases h with
  | grabServer => exact ⟨_, _, rfl⟩
  | geometry => exact ⟨_, _, rfl⟩
  | screenSize width height z' hpos hlimit hsize hcrtcs hmodes houtputs =>
    have hfits := z.fits
    rw [hcrtcs, hsize] at hfits
    exact ⟨_, _, dif_pos ⟨hpos, hlimit, hfits⟩⟩
  | crtcInfo i c hc =>
    have hc' : s.screen.crtcs[i]? = some c := hc
    rw [Xvfb.send, hc']
    exact ⟨_, _, rfl⟩
  | resources => exact ⟨_, _, rfl⟩
  | createMode width height name id z' hname hid hsize hcrtcs hmodes houtputs =>
    exact ⟨_, _, if_pos hname⟩
  | addOutputMode output mode z' houtput hmode hsize hcrtcs hmodes houtputs =>
    exact ⟨_, _, if_pos ⟨houtput, hmode⟩⟩
  | setCrtcConfig crtc x y mode outputs c z' houtput hc hcrtc hsize hcrtcs hmodes houtputs =>
    -- the screen after the request holds the CRTC, so it fits
    have hmem : c ∈ z.crtcs := by
      rw [hcrtcs]
      exact List.mem_set hcrtc c
    have hfits := z.fits c hmem
    rw [hsize] at hfits
    have hc' : configured s.screen.modes x y mode outputs = some c := hc
    rw [Xvfb.send, hc']
    exact ⟨_, _, dif_pos ⟨houtput, hcrtc, hfits⟩⟩
  | ignored crtc x y mode outputs status hstatus =>
    exact absurd (of_decide_eq_true hheeded) hstatus
  | deleteOutputMode output mode z' hunused hsize hcrtcs hmodes houtputs =>
    exact ⟨_, _, if_pos hunused⟩
  | destroyMode mode z' hunused hsize hcrtcs hmodes houtputs =>
    exact ⟨_, _, if_pos hunused⟩
  | region width height => exact ⟨_, _, rfl⟩

/-- The area fits into the fields of a request. -/
def Fits16 (d : Display) : Prop :=
  d.area.size.width < 65536 ∧ d.area.size.height < 65536 ∧
    d.area.origin.x < 32768 ∧ d.area.origin.y < 32768

/-- A display that a CRTC can be set to: both are disabled, or the area fits and is in bounds or
already shown. -/
def Settable (x : X) (z : Screen) (id : Nat) (d : Display) : Prop :=
  id < x.displayCount ∧ ∃ c, z.crtcs[id]? = some c ∧
    ((d.isEnabled = false ∧ c.isEnabled = false) ∨
      Fits16 d ∧ (d.isEnabled = true → InBounds x d ∨ Shows z id d))

section Oblige

variable {σ : Type} {r : RandR σ} {x : X} {s t : σ}

theorem Obliging.send (hob : Obliging r) {req : Request} {reply : Reply} {z : Screen}
    (h : Answers r.limit (r.screen s) req reply z) (hheeded : reply.heeded = true) :
    ∃ reply' t, r.send req s = (some reply', t) ∧
      Answers r.limit (r.screen s) req reply' (r.screen t) := by
  obtain ⟨reply', t, ht⟩ := hob.grants req s reply z h hheeded
  exact ⟨reply', t, ht, r.answers req s reply' t ht⟩

theorem Obliging.checkedVoidRequest (hob : Obliging r) {req : Request} {reply : Reply} {z : Screen}
    (h : Answers r.limit (r.screen s) req reply z) (hheeded : reply.heeded = true) :
    ∃ t reply', XDisplays.checkedVoidRequest r req s = (some (), t) ∧
      Answers r.limit (r.screen s) req reply' (r.screen t) := by
  obtain ⟨reply', t, ht, hanswer⟩ := hob.send h hheeded
  exact ⟨t, reply', Fallible.bind_run_some ht _, hanswer⟩

theorem Obliging.getCrtcInfo (hob : Obliging r) {id : Nat} {c : Crtc}
    (hc : (r.screen s).crtcs[id]? = some c) :
    ∃ t, XDisplays.getCrtcInfo r id s = (some c, t) ∧ r.screen t = r.screen s := by
  obtain ⟨reply, t, ht, hanswer⟩ := hob.send (.crtcInfo id c hc) rfl
  obtain ⟨c', rfl, hc', hscreen⟩ := hanswer.crtcInfo_inv
  rw [hc] at hc'
  cases hc'
  exact ⟨t, Fallible.bind_run_some ht _, hscreen⟩

theorem Obliging.findModeByName (hob : Obliging r) (target : List UInt8) (s : σ) :
    ∃ t, XDisplays.findModeByName r target s =
        (some (((r.screen s).modes.find? fun m => m.name = target).map Mode.id), t) ∧
      r.screen t = r.screen s := by
  obtain ⟨reply, t, ht, hanswer⟩ := hob.send .resources rfl
  obtain ⟨rfl, hscreen⟩ := hanswer.resources_inv
  refine ⟨t, (Fallible.bind_run_some ht _).trans ?_, hscreen⟩
  exact congrArg (fun found => (some found, t)) (findName_resources target _ [])

theorem Obliging.createMode (hob : Obliging r) {width height : Nat} {s : σ}
    (hnone : ((r.screen s).modes.find? fun m => m.name = modeName width height) = none) :
    ∃ id t, XDisplays.createMode r width height s = (some id, t) := by
  have hname : ∀ m ∈ (r.screen s).modes, m.name ≠ modeName width height := by
    intro m hm
    simpa using List.find?_eq_none.mp hnone m hm
  obtain ⟨reply, t, ht, hanswer⟩ := hob.send (.createMode width height (modeName width height)
    (Xvfb.freshId (r.screen s).modes)
    { r.screen s with
      modes := (r.screen s).modes ++
        [⟨Xvfb.freshId (r.screen s).modes, width, height, modeName width height⟩]
      ids := Xvfb.nodup_freshId (r.screen s) width height _ }
    hname (Nat.succ_ne_zero _) rfl rfl rfl rfl) rfl
  obtain ⟨id', rfl, -⟩ := hanswer.createMode_inv
  exact ⟨id', t, Fallible.bind_run_some ht _⟩

theorem Answers.addOutputMode_mem {limit : Size} {z z' : Screen} {output mode : Nat} {reply : Reply}
    (h : Answers limit z (.addOutputMode output mode) reply z') : mode ∈ z'.outputModes output := by
  obtain ⟨-, -, -, houtputs⟩ := h.addOutputMode_inv
  rw [houtputs, Function.update_self]
  exact List.mem_insert_self

/-- A display in bounds gets a mode. -/
theorem Obliging.prepareMode (hob : Obliging r) {id width height : Nat} {d : Display} {s : σ}
    (hid : id < (r.screen s).crtcs.length) (hbounds : InBounds x d) :
    ∃ mode t, XDisplays.prepareMode r x id d width height s = (some mode, t) ∧
      mode ∈ (r.screen t).outputModes id := by
  -- once there is a mode, it is added to the output
  have hadd : ∀ (s : σ) (m : Mode), id < (r.screen s).crtcs.length → m ∈ (r.screen s).modes →
      ∃ t, (do XDisplays.checkedVoidRequest r (.addOutputMode id m.id); pure m.id :
          Fallible σ Nat) s = (some m.id, t) ∧ m.id ∈ (r.screen t).outputModes id := by
    intro s m hid hm
    obtain ⟨t, reply, ht, hanswer⟩ := hob.checkedVoidRequest (.addOutputMode id m.id
      { r.screen s with
        outputModes := Function.update (r.screen s).outputModes id
          (((r.screen s).outputModes id).insert m.id) }
      hid (List.mem_map_of_mem hm) rfl rfl rfl rfl) rfl
    exact ⟨t, Fallible.bind_run_some ht _, hanswer.addOutputMode_mem⟩
  obtain ⟨s₁, hfind, hscreen⟩ := hob.findModeByName (modeName width height) s
  rw [← hscreen] at hid
  unfold XDisplays.prepareMode
  rw [Fallible.bind_run_some (Fallible.guard_eq_some (u := ()) |>.mpr ⟨hbounds, rfl⟩),
    Fallible.bind_run_some hfind]
  cases hfound : (r.screen s).modes.find? fun m => m.name = modeName width height with
  | some m =>
    have hm := List.mem_of_find?_eq_some hfound
    rw [← hscreen] at hm
    obtain ⟨t, ht, hmem⟩ := hadd s₁ m hid hm
    exact ⟨m.id, t, ht, hmem⟩
  | none =>
    rw [← hscreen] at hfound
    obtain ⟨id', s₂, hcreate⟩ := hob.createMode hfound
    obtain ⟨-, hcrtcs, hmodes, -⟩ := createMode_eq_some hcreate
    rw [← hcrtcs] at hid
    obtain ⟨t, ht, hmem⟩ := hadd s₂ ⟨id', width, height, modeName width height⟩ hid (by
      rw [hmodes]
      exact List.mem_append_right _ (List.mem_singleton.mpr rfl))
    exact ⟨id', t, (Fallible.bind_run_some hcreate _).trans ht, hmem⟩

theorem InBounds.hasPixels {d : Display} (h : InBounds x d) : HasPixels d.area := by
  obtain ⟨-, hw, hh⟩ := h
  simp only [minWidth, minHeight] at hw hh
  exact ⟨by omega, by omega⟩

/-- A CRTC that is set to a display that fits is within the screen. -/
theorem Obliging.setCrtcConfig (hob : Obliging r) {id mode : Nat} {px py : Int}
    {outputs : List Nat} {c : Crtc} (hid : id < (r.screen s).crtcs.length)
    (houtput : ∀ output ∈ outputs, mode ∈ (r.screen s).outputModes output)
    (hc : configured (r.screen s).modes px py mode outputs = some c)
    (hfits : c.isEnabled = true → c.FitsIn (r.screen s).size) :
    ∃ t, XDisplays.checkedVoidRequest r (.setCrtcConfig id px py mode outputs) s = (some (), t) := by
  have hall : ∀ c' ∈ (r.screen s).crtcs.set id c, c'.isEnabled = true →
      c'.FitsIn (r.screen s).size := by
    intro c' hc' hon
    rcases List.mem_or_eq_of_mem_set hc' with hc' | rfl
    · exact (r.screen s).fits c' hc' hon
    · exact hfits hon
  obtain ⟨t, reply, ht, -⟩ := hob.checkedVoidRequest (.setCrtcConfig id px py mode outputs c
    { r.screen s with
      crtcs := (r.screen s).crtcs.set id c
      fits := hall } houtput hc hid rfl rfl rfl rfl) rfl
  exact ⟨t, ht⟩

theorem dropMode_isSome (id : Nat) (c : Change) (s : σ) :
    ∃ t, dropMode r x id c s = (some (), t) := by
  unfold dropMode
  split
  · exact ⟨_, rfl⟩
  · exact ⟨_, rfl⟩

theorem Fits16.conversions {d : Display} (h : Fits16 d) :
    u16TryFrom d.area.size.width = some d.area.size.width ∧
      u16TryFrom d.area.size.height = some d.area.size.height ∧
      i16TryFrom d.area.origin.x = some (d.area.origin.x : Int) ∧
      i16TryFrom d.area.origin.y = some (d.area.origin.y : Int) :=
  ⟨if_pos h.1, if_pos h.2.1, if_pos h.2.2.1, if_pos h.2.2.2⟩

theorem Obliging.planDisplay (hob : Obliging r) {id : Nat} {d : Display}
    (hset : Settable x (r.screen s) id d) :
    ∃ plan t, XDisplays.planDisplay r x id d s = (some plan, t) ∧
      ∀ c, plan = some c → ∀ output ∈ c.outputs, c.mode ∈ (r.screen t).outputModes output := by
  obtain ⟨hid, info, hinfo, hcase⟩ := hset
  obtain ⟨s₁, hget, hscreen⟩ := hob.getCrtcInfo hinfo
  unfold XDisplays.planDisplay
  rw [Fallible.bind_run_some (Fallible.guard_eq_some (u := ()) |>.mpr ⟨hid, rfl⟩),
    Fallible.bind_run_some hget]
  by_cases hoff : d.isEnabled = false ∧ info.isEnabled = false
  · rw [if_pos hoff]
    exact ⟨none, s₁, rfl, fun c hc => by cases hc⟩
  · rw [if_neg hoff]
    obtain ⟨hfits, hbounds⟩ := hcase.resolve_left hoff
    obtain ⟨hw, hh, hx, hy⟩ := hfits.conversions
    rw [hw, hh, hx, hy, Fallible.bind_run_some (Fallible.ofOption_run _ s₁),
      Fallible.bind_run_some (Fallible.ofOption_run _ s₁),
      Fallible.bind_run_some (Fallible.ofOption_run _ s₁),
      Fallible.bind_run_some (Fallible.ofOption_run _ s₁)]
    by_cases hsame : info.isEnabled = true ∧ d.isEnabled = true ∧
        info.width = d.area.size.width ∧ info.height = d.area.size.height ∧
        info.x = d.area.origin.x ∧ info.y = d.area.origin.y
    · rw [if_pos hsame]
      exact ⟨none, s₁, rfl, fun c hc => by cases hc⟩
    · rw [if_neg hsame]
      by_cases hd : d.isEnabled = true
      · -- it is not shown yet, so it is in bounds
        have hin : InBounds x d := by
          rcases hbounds hd with hin | ⟨c, hc, hon, harea⟩
          · exact hin
          · rw [hinfo] at hc
            cases hc
            obtain ⟨hx, hy, hw, hh⟩ := harea hd
            exact absurd ⟨hon.trans hd, hd, hw, hh, hx, hy⟩ hsame
        have hlt : id < (r.screen s₁).crtcs.length := by
          rw [hscreen]
          exact (List.getElem?_eq_some_iff.mp hinfo).1
        obtain ⟨mode, t, hmode, hmem⟩ := hob.prepareMode hlt hin
        rw [if_pos hd]
        refine ⟨_, t, Fallible.bind_run_some hmode _, ?_⟩
        rintro c hc output houtput
        cases hc
        rw [List.mem_singleton.mp houtput]
        exact hmem
      · rw [if_neg hd]
        refine ⟨_, s₁, rfl, ?_⟩
        rintro c hc output houtput
        cases hc
        cases houtput

/-- **A settable display that has room on the screen is set.** -/
theorem Obliging.setDisplay (hob : Obliging r) (hn : Named (r.screen s)) {id : Nat} {d : Display}
    (hset : Settable x (r.screen s) id d)
    (hroom : d.isEnabled = true → Within d.area (r.screen s).size) :
    ∃ kind t, XDisplays.setDisplay r x id d s = (some kind, t) := by
  obtain ⟨plan, s₁, hplan, houtput⟩ := hob.planDisplay hset
  have hstill : Still (r.screen s) (r.screen s₁) := by
    have hmoves := planDisplay_still r x id d s
    rw [hplan] at hmoves
    exact hmoves
  unfold XDisplays.setDisplay
  rw [Fallible.bind_run_some hplan]
  rcases planDisplay_eq_some hn hplan with ⟨rfl, -, -⟩ | ⟨c, rfl, hinfo, hoff, hon⟩
  · exact ⟨_, _, rfl⟩
  · have hid : id < (r.screen s₁).crtcs.length := by
      rw [hstill.crtcs]
      exact (List.getElem?_eq_some_iff.mp hinfo).1
    have hsetCrtc : ∃ t, XDisplays.checkedVoidRequest r
        (.setCrtcConfig id c.x c.y c.mode c.outputs) s₁ = (some (), t) := by
      cases hd : d.isEnabled with
      | false =>
        refine hob.setCrtcConfig hid (houtput c rfl) (c := .off) ?_ fun h => by cases h
        rw [hoff hd, configured_off]
      | true =>
        obtain ⟨hbounds, houtputs, hx, hy, m, hm, hmode, hw, hh⟩ := hon hd
        refine hob.setCrtcConfig hid (houtput c rfl)
          (c := ⟨c.x, c.y, m.width, m.height, m.id, [id]⟩) ?_ fun _ => ?_
        · rw [houtputs, ← hmode, configured_on hm]
        · obtain ⟨hright, hbottom⟩ := hroom hd
          obtain ⟨hpw, hph⟩ := hbounds.hasPixels
          refine ⟨⟨by simp only; omega, by simp only; omega⟩, ⟨by simp only; omega, by simp only; omega⟩, ?_, ?_⟩
          · rw [hstill.size]
            simp only
            omega
          · rw [hstill.size]
            simp only
            omega
    obtain ⟨s₂, hs₂⟩ := hsetCrtc
    obtain ⟨t, ht⟩ := dropMode_isSome (r := r) (x := x) id c s₂
    exact ⟨_, t, (Fallible.bind_run_some hs₂ _).trans (Fallible.bind_run_some ht _)⟩

/-! ### When a display is set -/

theorem planDisplay_settable {id : Nat} {d : Display} {plan : Option Change}
    (hn : Named (r.screen s)) (h : XDisplays.planDisplay r x id d s = (some plan, t)) :
    Settable x (r.screen s) id d := by
  have hplan := planDisplay_eq_some hn h
  obtain ⟨u, s₁, hguard, h⟩ := Fallible.bind_eq_some.mp h
  obtain ⟨hid, rfl⟩ := Fallible.guard_eq_some.mp hguard
  obtain ⟨info, s₂, hinfo, h⟩ := Fallible.bind_eq_some.mp h
  obtain ⟨hcrtc, -⟩ := getCrtcInfo_eq_some hinfo
  refine ⟨hid, info, hcrtc, ?_⟩
  split at h
  · rename_i hoff
    exact Or.inl hoff
  · obtain ⟨width, s₃, hw, h⟩ := Fallible.bind_eq_some.mp h
    obtain ⟨height, s₄, hh, h⟩ := Fallible.bind_eq_some.mp h
    obtain ⟨px, s₅, hx, h⟩ := Fallible.bind_eq_some.mp h
    obtain ⟨py, s₆, hy, h⟩ := Fallible.bind_eq_some.mp h
    have hw' := (u16TryFrom_eq_some.mp (Fallible.ofOption_eq_some.mp hw).1).1
    have hh' := (u16TryFrom_eq_some.mp (Fallible.ofOption_eq_some.mp hh).1).1
    have hx' := (i16TryFrom_eq_some.mp (Fallible.ofOption_eq_some.mp hx).1).1
    have hy' := (i16TryFrom_eq_some.mp (Fallible.ofOption_eq_some.mp hy).1).1
    refine Or.inr ⟨⟨hw', hh', hx', hy'⟩, fun hd => ?_⟩
    rcases hplan with ⟨-, hshows, -⟩ | ⟨c, -, -, -, hon⟩
    · exact Or.inr hshows
    · exact Or.inl (hon hd).1

theorem setDisplay_settable {id : Nat} {d : Display} {kind : SetDisplaySuccess}
    (hn : Named (r.screen s)) (h : XDisplays.setDisplay r x id d s = (some kind, t)) :
    Settable x (r.screen s) id d := by
  obtain ⟨plan, s₁, hplan, -⟩ := Fallible.bind_eq_some.mp h
  exact planDisplay_settable hn hplan

theorem Settable.congr {z z' : Screen} {id : Nat} {d : Display}
    (hz : z'.crtcs[id]? = z.crtcs[id]?) : Settable x z' id d ↔ Settable x z id d := by
  have hshows : Shows z' id d ↔ Shows z id d :=
    ⟨fun h => h.congr hz.symm, fun h => h.congr hz⟩
  rw [Settable, Settable, hz, hshows]

/-- The loop is without errors exactly when every display is settable, as long as the enabled ones have
room on the screen. -/
theorem setEachDisplay_settable (hh : Heeds r) (hn : Named (r.screen s)) {id : Nat}
    {ds : List Display} {result : Bool × Bool × List Display}
    (h : setEachDisplay r x id ds s = (some result, t)) :
    (result.1 = false → ∀ i d, ds[i]? = some d → Settable x (r.screen s) (id + i) d) ∧
    (Obliging r → (∀ i d, ds[i]? = some d → Settable x (r.screen s) (id + i) d) →
      (∀ d ∈ ds, d.isEnabled = true → Within d.area (r.screen s).size) → result.1 = false) := by
  induction ds generalizing id s t result with
  | nil =>
    cases h
    constructor
    · intro _ i d hd
      cases hd
    · intro _ _ _
      rfl
  | cons d ds ih =>
    rw [setEachDisplay, Fallible.bind_run_some (Fallible.attempt_run _ s)] at h
    rcases hset : XDisplays.setDisplay r x id d s with ⟨_ | kind, s₁⟩ <;> rw [hset] at h <;>
      dsimp only at h
    · have herr : result.1 = true := by
        rw [Fallible.bind_run_some (Fallible.attempt_run _ s₁)] at h
        rcases hget : getDisplay r x id s₁ with ⟨_ | current, s₂⟩ <;> rw [hget] at h <;>
          obtain ⟨rest, s₃, hrest, h⟩ := Fallible.bind_eq_some.mp h <;> cases h <;> rfl
      rw [herr]
      constructor
      · intro h
        cases h
      · intro hob hsettable hroom
        obtain ⟨kind, s₂, hok⟩ := hob.setDisplay hn (hsettable 0 d rfl)
          (hroom d List.mem_cons_self)
        rw [Nat.add_zero, hset] at hok
        cases hok
    · obtain ⟨-, hframe, -⟩ := setDisplay_ok hh hn hset
      obtain ⟨rest, s₂, hrest, h⟩ := Fallible.bind_eq_some.mp h
      cases h
      obtain ⟨hall, hnone⟩ := ih (hframe.named hn) hrest
      have hlater : ∀ i d, Settable x (r.screen s₁) (id + 1 + i) d ↔
          Settable x (r.screen s) (id + (i + 1)) d := by
        intro i d
        rw [show id + 1 + i = id + (i + 1) by omega]
        exact Settable.congr (hframe.others _ (by omega))
      constructor
      · intro herr i d' hd'
        cases i with
        | zero =>
          cases hd'
          exact setDisplay_settable hn hset
        | succ i => exact (hlater i d').mp (hall herr i d' hd')
      · intro hob hsettable hroom
        refine hnone hob (fun i d' hd' => (hlater i d').mpr (hsettable (i + 1) d' hd')) ?_
        intro d' hd' hon
        rw [hframe.size]
        exact hroom d' (List.mem_cons_of_mem _ hd') hon

/-! ### The size of the screen -/

theorem Answers.screenSize_inv {limit : Size} {z z' : Screen} {width height : Nat} {reply : Reply}
    (h : Answers limit z (.setScreenSize width height) reply z') : z'.size = ⟨width, height⟩ := by
  cases h with
  | screenSize width height z' hpos hlimit hsize hcrtcs hmodes houtputs => exact hsize

theorem Obliging.getGeometry (hob : Obliging r) (s : σ) :
    ∃ t, XDisplays.getGeometry r s = (some (r.screen s).size, t) ∧ r.screen t = r.screen s := by
  obtain ⟨reply, t, ht, hanswer⟩ := hob.send .geometry rfl
  obtain ⟨rfl, hscreen⟩ := hanswer.geometry_inv
  exact ⟨t, Fallible.bind_run_some ht _, hscreen⟩

/-- A screen takes every size that its CRTCs fit in. -/
theorem Obliging.setScreenSize (hob : Obliging r) {size : Size} {s : σ}
    (hpos : 0 < size.width ∧ 0 < size.height)
    (hlimit : size.width ≤ r.limit.width ∧ size.height ≤ r.limit.height)
    (hfits : ∀ c ∈ (r.screen s).crtcs, c.isEnabled = true → c.FitsIn size) :
    ∃ t, XDisplays.checkedVoidRequest r
        (.setScreenSize (size.width % 65536) (size.height % 65536)) s = (some (), t) ∧
      (r.screen t).size = size := by
  obtain ⟨hw, hh⟩ := r.limit_lt
  rw [Nat.mod_eq_of_lt (by omega), Nat.mod_eq_of_lt (by omega)]
  obtain ⟨t, reply, ht, hanswer⟩ := hob.checkedVoidRequest (.screenSize size.width size.height
    { r.screen s with
      size := size
      size_lt := ⟨by omega, by omega⟩
      fits := hfits } hpos hlimit rfl rfl rfl rfl) rfl
  exact ⟨t, ht, hanswer.screenSize_inv⟩

theorem Crtc.FitsIn.mono {c : Crtc} {size size' : Size} (h : c.FitsIn size)
    (hw : size.width ≤ size'.width) (hh : size.height ≤ size'.height) : c.FitsIn size' where
  pos := h.pos
  origin := h.origin
  right := by
    have hright := h.right
    omega
  bottom := by
    have hbottom := h.bottom
    omega

/-- Enlarging the screen makes room for displays within the limit. -/
theorem Obliging.enlarge (hob : Obliging r) {displays : List Display} {s : σ}
    (h : ∀ d ∈ displays, d.isEnabled = true → Within d.area r.limit ∧ HasPixels d.area) :
    ∀ d ∈ displays, d.isEnabled = true →
      Within d.area (r.screen (resizeScreenIf r displays .gt s).2).size := by
  rcases deriveExtent_spec r.limit_lt h with ⟨-, hoff⟩ | ⟨extent, hextent, hw, hh, hlw, hlh, hwithin⟩
  · intro d hd hon
    rw [hoff d hd] at hon
    cases hon
  · obtain ⟨s₁, hgeometry, hscreen⟩ := hob.getGeometry s
    obtain ⟨hsw, hsh⟩ := r.size_le s
    have hgrown : ∃ t, resizeScreenIf r displays .gt s = (some (), t) ∧
        extent.width ≤ (r.screen t).size.width ∧ extent.height ≤ (r.screen t).size.height := by
      unfold resizeScreenIf
      rw [hextent, Fallible.bind_run_some (Fallible.ofOption_run _ s),
        Fallible.bind_run_some hgeometry]
      simp only [reduceCtorEq, if_false]
      by_cases henough : compare (max extent.width (r.screen s).size.width)
          (r.screen s).size.width ≠ .gt ∧
        compare (max extent.height (r.screen s).size.height) (r.screen s).size.height ≠ .gt
      · rw [if_pos henough]
        simp only [ne_eq, Nat.compare_eq_gt] at henough
        refine ⟨s₁, rfl, ?_⟩
        rw [hscreen]
        omega
      · rw [if_neg henough]
        have hfits : ∀ c ∈ (r.screen s₁).crtcs, c.isEnabled = true →
            c.FitsIn ⟨max extent.width (r.screen s).size.width,
              max extent.height (r.screen s).size.height⟩ := by
          intro c hc hon
          rw [← hscreen]
          exact ((r.screen s₁).fits c hc hon).mono (le_max_right _ _) (le_max_right _ _)
        obtain ⟨t, ht, hsize⟩ := hob.setScreenSize
          ⟨lt_max_of_lt_left hw, lt_max_of_lt_left hh⟩
          ⟨max_le hlw hsw, max_le hlh hsh⟩ hfits
        refine ⟨t, ht, ?_⟩
        rw [hsize]
        exact ⟨le_max_left _ _, le_max_left _ _⟩
    obtain ⟨t, ht, hwidth, hheight⟩ := hgrown
    intro d hd hon
    obtain ⟨hdw, hdh⟩ := hwithin d hd hon
    rw [ht]
    exact ⟨hdw.trans hwidth, hdh.trans hheight⟩

/-- Trimming the screen to displays that its CRTCs fit in gives it their extent. -/
theorem Obliging.trim (hob : Obliging r) {displays : List Display} {extent : Size} {s : σ}
    (hextent : deriveExtent displays = some extent) (hpos : 0 < extent.width ∧ 0 < extent.height)
    (hle : extent.width ≤ (r.screen s).size.width ∧ extent.height ≤ (r.screen s).size.height)
    (hfits : ∀ c ∈ (r.screen s).crtcs, c.isEnabled = true → c.FitsIn extent) :
    (r.screen (resizeScreenIf r displays .lt s).2).size = extent := by
  obtain ⟨s₁, hgeometry, hscreen⟩ := hob.getGeometry s
  obtain ⟨hsw, hsh⟩ := r.size_le s
  have hmin : (⟨min extent.width (r.screen s).size.width,
      min extent.height (r.screen s).size.height⟩ : Size) = extent := by
    rw [min_eq_left hle.1, min_eq_left hle.2]
  have htrimmed : ∃ t, resizeScreenIf r displays .lt s = (some (), t) ∧
      (r.screen t).size = extent := by
    unfold resizeScreenIf
    rw [hextent, Fallible.bind_run_some (Fallible.ofOption_run _ s),
      Fallible.bind_run_some hgeometry]
    simp only [if_true, hmin]
    by_cases hsame : compare extent.width (r.screen s).size.width ≠ .lt ∧
        compare extent.height (r.screen s).size.height ≠ .lt
    · rw [if_pos hsame]
      simp only [ne_eq, Nat.compare_eq_lt] at hsame
      refine ⟨s₁, rfl, ?_⟩
      rw [hscreen]
      have hw : (r.screen s).size.width = extent.width := by omega
      have hh : (r.screen s).size.height = extent.height := by omega
      rcases hsize : (r.screen s).size with ⟨w, h⟩
      rw [hsize] at hw hh
      cases hw
      cases hh
      rfl
    · rw [if_neg hsame]
      rw [← hscreen] at hfits
      exact hob.setScreenSize hpos ⟨by omega, by omega⟩ hfits
  obtain ⟨t, ht, hsize⟩ := htrimmed
  rw [ht]
  exact hsize

/-- A screen that is large enough is not enlarged. -/
theorem resizeScreenIf_enough {displays : List Display} {s : σ}
    (hle : ∀ extent, deriveExtent displays = some extent →
      extent.width ≤ (r.screen s).size.width ∧ extent.height ≤ (r.screen s).size.height) :
    r.screen (resizeScreenIf r displays .gt s).2 = r.screen s := by
  obtain ⟨hscreen, hsize⟩ := getGeometry_run (r := r) s
  unfold resizeScreenIf
  cases hextent : deriveExtent displays with
  | none => rfl
  | some extent =>
    obtain ⟨hw, hh⟩ := hle extent hextent
    rw [Fallible.bind_run_some (Fallible.ofOption_run _ s)]
    rcases hgeometry : XDisplays.getGeometry r s with ⟨_ | size, t⟩ <;>
      rw [hgeometry] at hscreen hsize
    · rw [Fallible.bind_run_none hgeometry]
      exact hscreen
    · cases hsize size rfl
      rw [Fallible.bind_run_some hgeometry]
      simp only [reduceCtorEq, if_false]
      rw [if_pos (by simp only [ne_eq, Nat.compare_eq_gt]; omega)]
      exact hscreen

/-! ### The whole request -/

/-- The X server was started with the size that `X` knows, and has a CRTC for every display. -/
structure Started (r : RandR σ) (x : X) (z : Screen) : Prop where
  limit : r.limit = ⟨x.maxWidth, x.maxHeight⟩
  crtcs : z.crtcs.length = x.maxDisplayCount
  named : Named z

theorem InBounds.within {d : Display} (hlimit : r.limit = ⟨x.maxWidth, x.maxHeight⟩)
    (h : InBounds x d) : Within d.area r.limit ∧ HasPixels d.area := by
  have hpixels := h.hasPixels
  obtain ⟨hcontains, -⟩ := h
  have hempty : d.area.isEmpty = false := by
    obtain ⟨hw, hh⟩ := hpixels
    simp [Rect.isEmpty]
    omega
  have hinside := (Rect.containsRect_iff hempty).mp hcontains
  rw [hlimit]
  simp only [Point.zero, Within] at hinside ⊢
  exact ⟨by omega, hpixels⟩

/-- A display that is shown has pixels and lies within the screen. -/
theorem Shows.within {z : Screen} {id : Nat} {d : Display} (h : Shows z id d)
    (hon : d.isEnabled = true) : Within d.area z.size ∧ HasPixels d.area := by
  obtain ⟨c, hc, hcon, harea⟩ := h
  obtain ⟨hx, hy, hw, hh⟩ := harea hon
  obtain ⟨hpos, horigin, hright, hbottom⟩ :=
    z.fits c (List.mem_of_getElem? hc) (hcon.trans hon)
  simp only [Within, HasPixels]
  omega

theorem inLimit_of_shows {z : Screen} {ids : List Nat} {ds : List Display}
    (h : List.Forall₂ (Shows z) ids ds) : InLimit z.size ds := by
  induction h with
  | nil =>
    intro d hd
    cases hd
  | cons hshows _ ih =>
    intro d hd hon
    rcases List.mem_cons.mp hd with rfl | hd
    · exact hshows.within hon
    · exact ih d hd hon

/-- The displays in force lie within the limit. -/
theorem InForce.inLimit {state : σ × List Display} (h : InForce r x state) :
    InLimit r.limit state.2 := by
  obtain ⟨ids, -, hshown⟩ := h.shown
  obtain ⟨hsw, hsh⟩ := r.size_le state.1
  intro d hd hon
  obtain ⟨⟨hw, hh⟩, hpixels⟩ := inLimit_of_shows hshown d hd hon
  exact ⟨⟨hw.trans hsw, hh.trans hsh⟩, hpixels⟩

/-! ### The sides of the displays -/

/-- The enabled displays that are set have sides of 16 bits. -/
theorem setDisplay_sidesFit {id : Nat} {d : Display} {kind : SetDisplaySuccess}
    (h : XDisplays.setDisplay r x id d s = (some kind, t)) : d.SidesFit := by
  intro hon
  obtain ⟨plan, s₁, h, -⟩ := Fallible.bind_eq_some.mp h
  obtain ⟨u, s₂, -, h⟩ := Fallible.bind_eq_some.mp h
  obtain ⟨info, s₃, -, h⟩ := Fallible.bind_eq_some.mp h
  rw [if_neg (by simp [hon])] at h
  obtain ⟨width, s₄, hw, h⟩ := Fallible.bind_eq_some.mp h
  obtain ⟨height, s₅, hh, -⟩ := Fallible.bind_eq_some.mp h
  exact ⟨(u16TryFrom_eq_some.mp (Fallible.ofOption_eq_some.mp hw).1).1,
    (u16TryFrom_eq_some.mp (Fallible.ofOption_eq_some.mp hh).1).1⟩

/-- And so have those that are shown. -/
theorem Shows.sidesFit {z : Screen} {id : Nat} {d : Display} (h : Shows z id d) : d.SidesFit := by
  intro hon
  obtain ⟨⟨hw, hh⟩, -⟩ := h.within hon
  obtain ⟨hzw, hzh⟩ := z.size_lt
  exact ⟨by omega, by omega⟩

theorem setEachDisplay_sidesFit {id : Nat} {ds : List Display} {result : Bool × Bool × List Display}
    (h : setEachDisplay r x id ds s = (some result, t)) : ∀ d ∈ result.2.2, d.SidesFit := by
  induction ds generalizing id s t result with
  | nil =>
    cases h
    exact fun d hd => absurd hd List.not_mem_nil
  | cons d ds ih =>
    rw [setEachDisplay, Fallible.bind_run_some (Fallible.attempt_run _ s)] at h
    rcases hset : XDisplays.setDisplay r x id d s with ⟨_ | kind, s₁⟩ <;> rw [hset] at h <;>
      dsimp only at h
    · rw [Fallible.bind_run_some (Fallible.attempt_run _ s₁)] at h
      rcases hget : getDisplay r x id s₁ with ⟨_ | current, s₂⟩ <;> rw [hget] at h <;>
        obtain ⟨rest, s₃, hrest, h⟩ := Fallible.bind_eq_some.mp h <;> cases h <;>
        have hsides := ih hrest
      · exact hsides
      · exact List.forall_mem_cons.mpr ⟨(getDisplay_eq_some hget).2.sidesFit, hsides⟩
    · obtain ⟨rest, s₂, hrest, h⟩ := Fallible.bind_eq_some.mp h
      cases h
      exact List.forall_mem_cons.mpr ⟨setDisplay_sidesFit hset, ih hrest⟩

/-- **The enabled displays that `set_displays` returns have sides of 16 bits**, whether it succeeds or
not, as `partition_displays` needs them. -/
theorem setDisplays_sidesFit {requested : List Display}
    {result : Except (List Display) SetDisplaysSuccess}
    (h : XDisplays.setDisplays r x requested s = (some result, t)) :
    ∀ d ∈ setResult result, d.SidesFit := by
  obtain ⟨s₀, ⟨errors, changed, final⟩, s₂, t', -, heach, -, hsteps⟩ :=
    setDisplays_steps (r := r) (x := x) requested s
  rw [hsteps] at h
  cases h
  have hsides := setEachDisplay_sidesFit heach
  cases errors <;> exact hsides

/-! ### Displays within the limit -/

/-- A settable display lies within the limit. -/
theorem Settable.within {id : Nat} {d : Display} (hlimit : r.limit = ⟨x.maxWidth, x.maxHeight⟩)
    (h : Settable x (r.screen s) id d) (hon : d.isEnabled = true) :
    Within d.area r.limit ∧ HasPixels d.area := by
  obtain ⟨-, c, -, ⟨hoff, -⟩ | ⟨-, hbounds⟩⟩ := h
  · rw [hoff] at hon
    cases hon
  · rcases hbounds hon with hin | hshows
    · exact hin.within hlimit
    · obtain ⟨⟨hw, hh⟩, hpixels⟩ := hshows.within hon
      obtain ⟨hsw, hsh⟩ := r.size_le s
      exact ⟨⟨hw.trans hsw, hh.trans hsh⟩, hpixels⟩

/-- Every display that is requested is settable. -/
def AllSettable (x : X) (z : Screen) (requested : List Display) : Prop :=
  ∀ id d, (resizeDisplays x.maxDisplayCount requested)[id]? = some d → Settable x z id d

/-- A screen with the same CRTCs settles it for all the ids of the loop. -/
theorem allSettable_iff {z z' : Screen} (hcrtcs : z'.crtcs = z.crtcs) (requested : List Display) :
    (∀ i d, (resizeDisplays x.maxDisplayCount requested)[i]? = some d →
      Settable x z' (0 + i) d) ↔ AllSettable x z requested := by
  refine forall₂_congr fun i d => imp_congr_right fun _ => ?_
  rw [Nat.zero_add]
  exact Settable.congr (by rw [hcrtcs])

/-- A request that succeeds is for displays that are settable, whatever the X server refuses. -/
theorem Started.allSettable (hstart : Started r x (r.screen s)) (hh : Heeds r) {requested : List Display}
    {success : SetDisplaysSuccess}
    (h : XDisplays.setDisplays r x requested s = (some (.ok success), t)) :
    AllSettable x (r.screen s) requested := by
  obtain ⟨s₀, each, s₂, t', hs₀, heach, -, hsteps⟩ :=
    setDisplays_steps (r := r) (x := x) requested s
  have hkept := resizeScreenIf_kept (r := r) (resizeDisplays x.maxDisplayCount requested) .gt s₀
  rw [hs₀] at hkept
  rw [hsteps] at h
  refine (allSettable_iff hkept.crtcs requested).mp
    ((setEachDisplay_settable hh (hkept.named hstart.named) heach).1 ?_)
  cases herr : each.1 with
  | false => rfl
  | true =>
    rw [herr] at h
    cases h

/-- **A request succeeds exactly when every display is settable**, on an obliging X server. -/
theorem setDisplays_ok_iff (hob : Obliging r) (hstart : Started r x (r.screen s))
    (requested : List Display) :
    (∃ success t, XDisplays.setDisplays r x requested s = (some (.ok success), t)) ↔
      AllSettable x (r.screen s) requested := by
  constructor
  · rintro ⟨success, t, h⟩
    exact hstart.allSettable hob.heeds h
  · intro h
    obtain ⟨s₀, each, s₂, t, hs₀, heach, -, hsteps⟩ :=
      setDisplays_steps (r := r) (x := x) requested s
    have hkept := resizeScreenIf_kept (r := r) (resizeDisplays x.maxDisplayCount requested) .gt s₀
    rw [hs₀] at hkept
    have herr : each.1 = false := by
      refine (setEachDisplay_settable hob.heeds (hkept.named hstart.named) heach).2 hob
        ((allSettable_iff hkept.crtcs requested).mpr h) ?_
      apply hob.enlarge
      intro d hd hon
      obtain ⟨i, hi⟩ := List.mem_iff_getElem?.mp hd
      exact (h i d hi).within hstart.limit hon
    rw [hsteps, herr]
    exact ⟨_, _, rfl⟩

theorem Xvfb.started_desk : Started deskServer deskX (deskServer.screen desk) :=
  ⟨rfl, rfl, named_desk⟩

/-- The desk after that request. -/
def Xvfb.settled : Xvfb ⟨2560, 1080⟩ := (XDisplays.setDisplays deskServer deskX sideBySide desk).2

theorem Xvfb.setDisplays_desk : XDisplays.setDisplays deskServer deskX sideBySide desk =
    (some (.ok ⟨true, sideBySide ++ [Display.default]⟩), settled) := by
  have hfst : (XDisplays.setDisplays deskServer deskX sideBySide desk).1 =
      some (.ok ⟨true, sideBySide ++ [Display.default]⟩) := by
    decide +kernel
  rw [settled, ← hfst]

theorem setDisplays_ok_iff_desk :
    AllSettable Xvfb.deskX (Xvfb.deskServer.screen Xvfb.desk) Xvfb.sideBySide :=
  (setDisplays_ok_iff (Xvfb.obliging (by decide)) Xvfb.started_desk Xvfb.sideBySide).mp
    ⟨_, _, Xvfb.setDisplays_desk⟩

/-- The displays of a loop without errors are shown, id after id. -/
theorem SetEach.shows {z z' : Screen} {id : Nat} {ds : List Display}
    {result : Bool × Bool × List Display} (h : SetEach z z' id ds result)
    (herr : result.1 = false) :
    result.2.2 = ds ∧ ∀ i d, ds[i]? = some d → Shows z' (id + i) d := by
  obtain ⟨ids, -, hshown, hall⟩ := h.shown
  obtain ⟨rfl, hfinal⟩ := hall herr
  rw [hfinal] at hshown
  refine ⟨hfinal, fun i d hd => ?_⟩
  obtain ⟨hi, hd⟩ := List.getElem?_eq_some_iff.mp hd
  have hget := (List.forall₂_iff_get.mp hshown).2 i (by simpa using hi) hi
  rw [List.get_eq_getElem, List.get_eq_getElem, List.getElem_range', Nat.one_mul, hd] at hget
  exact hget

/-- **After a request that changed something, the screen has the extent of its displays.** -/
theorem setDisplays_size (hob : Obliging r) (hstart : Started r x (r.screen s))
    {requested : List Display} {success : SetDisplaysSuccess} {extent : Size}
    (h : XDisplays.setDisplays r x requested s = (some (.ok success), t))
    (hchanged : success.changed = true) (hextent : deriveExtent success.displays = some extent) :
    (r.screen t).size = extent := by
  obtain ⟨s₀, ⟨errors, changed, final⟩, s₂, t', hs₀, heach, ht, hsteps⟩ :=
    setDisplays_steps (r := r) (x := x) requested s
  have hkept := resizeScreenIf_kept (r := r) (resizeDisplays x.maxDisplayCount requested) .gt s₀
  rw [hs₀] at hkept
  have hset := setEachDisplay_spec hob.heeds (hkept.named hstart.named) heach
  rw [hsteps] at h
  cases errors with
  | true => cases h
  | false =>
    cases h
    simp only at hchanged hextent
    subst hchanged
    obtain ⟨hfinal, hshows⟩ := hset.shows rfl
    simp only at hfinal
    rw [ht, trimmed, if_pos rfl]
    have hwithin : ∀ d ∈ final, d.isEnabled = true →
        Within d.area (r.screen s₂).size ∧ HasPixels d.area := by
      intro d hd hon
      rw [hfinal] at hd
      obtain ⟨i, hi⟩ := List.mem_iff_getElem?.mp hd
      exact (hshows i d hi).within hon
    rcases deriveExtent_spec (r.screen s₂).size_lt hwithin with
      ⟨hnone, -⟩ | ⟨extent', hextent', hw, hh, hlw, hlh, hall⟩
    · rw [hnone] at hextent
      cases hextent
    · rw [hextent] at hextent'
      cases hextent'
      refine hob.trim hextent ⟨hw, hh⟩ ⟨hlw, hlh⟩ fun c hc hon => ?_
      -- the CRTC shows one of the displays
      obtain ⟨i, hi⟩ := List.mem_iff_getElem?.mp hc
      have hlt : i < (resizeDisplays x.maxDisplayCount requested).length := by
        rw [length_resizeDisplays, ← hstart.crtcs, ← hkept.crtcs, ← hset.length]
        exact (List.getElem?_eq_some_iff.mp hi).1
      have hd := List.getElem?_eq_getElem hlt
      have hmem : (resizeDisplays x.maxDisplayCount requested)[i] ∈ final := by
        rw [hfinal]
        exact List.getElem_mem hlt
      obtain ⟨c', hc', hcon, harea⟩ := hshows i _ hd
      rw [Nat.zero_add, hi] at hc'
      cases hc'
      rw [hon] at hcon
      obtain ⟨hx, hy, hcw, hch⟩ := harea hcon.symm
      obtain ⟨hright, hbottom⟩ := hall _ hmem hcon.symm
      have hfits := (r.screen s₂).fits c hc hon
      exact ⟨hfits.pos, hfits.origin, by rw [hx, hcw]; exact_mod_cast hright,
        by rw [hy, hch]; exact_mod_cast hbottom⟩

theorem setDisplays_size_desk : (Xvfb.deskServer.screen Xvfb.settled).size = ⟨2080, 720⟩ :=
  setDisplays_size (Xvfb.obliging (by decide)) Xvfb.started_desk Xvfb.setDisplays_desk rfl
    (by decide)

/-! ### Repeating a request -/

/-- A display that is shown already needs no change. -/
theorem Obliging.setDisplay_again (hob : Obliging r) {id : Nat} {d : Display}
    (hid : id < x.displayCount) (hfits : d.isEnabled = true → Fits16 d)
    (hshows : Shows (r.screen s) id d) :
    ∃ t, XDisplays.setDisplay r x id d s = (some .noChange, t) ∧ r.screen t = r.screen s := by
  obtain ⟨info, hinfo, hon, harea⟩ := hshows
  obtain ⟨s₁, hget, hscreen⟩ := hob.getCrtcInfo hinfo
  have hplan : XDisplays.planDisplay r x id d s = (some none, s₁) := by
    unfold XDisplays.planDisplay
    rw [Fallible.bind_run_some (Fallible.guard_eq_some (u := ()) |>.mpr ⟨hid, rfl⟩),
      Fallible.bind_run_some hget]
    cases hd : d.isEnabled with
    | false =>
      rw [if_pos ⟨rfl, hon.trans hd⟩]
      rfl
    | true =>
      obtain ⟨hw, hh, hx, hy⟩ := (hfits hd).conversions
      obtain ⟨hcx, hcy, hcw, hch⟩ := harea hd
      rw [if_neg (by simp), hw, hh, hx, hy, Fallible.bind_run_some (Fallible.ofOption_run _ s₁),
        Fallible.bind_run_some (Fallible.ofOption_run _ s₁),
        Fallible.bind_run_some (Fallible.ofOption_run _ s₁),
        Fallible.bind_run_some (Fallible.ofOption_run _ s₁),
        if_pos ⟨hon.trans hd, rfl, hcw, hch, hcx, hcy⟩]
      rfl
  exact ⟨s₁, Fallible.bind_run_some hplan _, hscreen⟩

theorem Obliging.setEachDisplay_again (hob : Obliging r) {id : Nat} {ds : List Display}
    (h : ∀ i d, ds[i]? = some d → id + i < x.displayCount ∧ (d.isEnabled = true → Fits16 d) ∧
      Shows (r.screen s) (id + i) d) :
    ∃ t, setEachDisplay r x id ds s = (some (false, false, ds), t) ∧
      r.screen t = r.screen s := by
  induction ds generalizing id s with
  | nil => exact ⟨s, rfl, rfl⟩
  | cons d ds ih =>
    obtain ⟨hid, hfits, hshows⟩ := h 0 d rfl
    rw [Nat.add_zero] at hid hshows
    obtain ⟨s₁, hset, hscreen⟩ := hob.setDisplay_again hid hfits hshows
    have hrest : ∀ i d, ds[i]? = some d → id + 1 + i < x.displayCount ∧
        (d.isEnabled = true → Fits16 d) ∧ Shows (r.screen s₁) (id + 1 + i) d := by
      intro i d hd
      rw [hscreen, show id + 1 + i = id + (i + 1) by omega]
      exact h (i + 1) d hd
    obtain ⟨t, ht, hscreen'⟩ := ih hrest
    refine ⟨t, ?_, hscreen'.trans hscreen⟩
    rw [setEachDisplay, Fallible.bind_run_some (Fallible.attempt_run _ s), hset]
    exact Fallible.bind_run_some ht _

/-- **A request that has succeeded changes nothing when it is repeated.** -/
theorem setDisplays_again (hob : Obliging r) (hstart : Started r x (r.screen s))
    {requested : List Display} {success : SetDisplaysSuccess}
    (h : XDisplays.setDisplays r x requested s = (some (.ok success), t)) :
    ∃ u, XDisplays.setDisplays r x requested t = (some (.ok ⟨false, success.displays⟩), u) ∧
      r.screen u = r.screen t := by
  have hsettable := hstart.allSettable hob.heeds h
  obtain ⟨-, ids, -, hshown, hall⟩ := setDisplays_shown hob.heeds hstart.named h
  obtain ⟨rfl, hdisplays, -⟩ := hall success rfl
  rw [setResult, hdisplays] at hshown
  have hshows : ∀ i d, (resizeDisplays x.maxDisplayCount requested)[i]? = some d →
      Shows (r.screen t) i d := by
    intro i d hd
    obtain ⟨hi, hd⟩ := List.getElem?_eq_some_iff.mp hd
    have hget := (List.forall₂_iff_get.mp hshown).2 i (by simpa [length_resizeDisplays] using hi) hi
    rw [List.get_eq_getElem, List.get_eq_getElem, List.getElem_range, hd] at hget
    exact hget
  obtain ⟨s₀, each, s₂, u, hs₀, heach, hu, hsteps⟩ :=
    setDisplays_steps (r := r) (x := x) requested t
  -- the screen is large enough for what it shows
  have henough : r.screen (resizeScreenIf r (resizeDisplays x.maxDisplayCount requested)
      .gt s₀).2 = r.screen t := by
    rw [← hs₀]
    apply resizeScreenIf_enough
    intro extent hextent
    rw [hs₀]
    rcases deriveExtent_spec (r.screen t).size_lt fun d hd hon => by
        obtain ⟨i, hi⟩ := List.mem_iff_getElem?.mp hd
        exact (hshows i d hi).within hon with
      ⟨hnone, -⟩ | ⟨extent', hextent', -, -, hw, hh, -⟩
    · rw [hnone] at hextent
      cases hextent
    · rw [hextent] at hextent'
      cases hextent'
      exact ⟨hw, hh⟩
  have hall : ∀ i d, (resizeDisplays x.maxDisplayCount requested)[i]? = some d →
      0 + i < x.displayCount ∧ (d.isEnabled = true → Fits16 d) ∧
        Shows (r.screen (resizeScreenIf r (resizeDisplays x.maxDisplayCount requested) .gt s₀).2)
          (0 + i) d := by
    intro i d hd
    obtain ⟨hid, c, hc, hcase⟩ := hsettable i d hd
    rw [henough, Nat.zero_add]
    refine ⟨hid, fun hon => ?_, hshows i d hd⟩
    rcases hcase with ⟨hoff, -⟩ | ⟨hfits, -⟩
    · rw [hoff] at hon
      cases hon
    · exact hfits
  obtain ⟨u₂, hagain, hscreen⟩ := hob.setEachDisplay_again hall
  rw [hagain] at heach
  cases heach
  refine ⟨u, ?_, ?_⟩
  · rw [hsteps, hdisplays]
    rfl
  · rw [hu, trimmed, if_neg (by simp), hscreen, henough]

theorem setDisplays_again_desk :
    ∃ u, XDisplays.setDisplays Xvfb.deskServer Xvfb.deskX Xvfb.sideBySide Xvfb.settled =
        (some (.ok ⟨false, Xvfb.sideBySide ++ [Display.default]⟩), u) ∧
      Xvfb.deskServer.screen u = Xvfb.deskServer.screen Xvfb.settled :=
  setDisplays_again (Xvfb.obliging (by decide)) Xvfb.started_desk Xvfb.setDisplays_desk

end Oblige

end ApertureC.XDisplays
