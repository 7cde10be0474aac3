import ApertureC.DisplayRequests
import Mathlib.Data.List.Perm.Subperm

/-!
# The modes in use

`set_display` of `XDisplays` creates a mode for a size it has not seen, and it removes the mode that
a CRTC had once no output needs it. On an X server that refuses nothing it could grant, this keeps
the modes from piling up.

* `ModesUsed` — every mode but the default one is on the list of an output, and an output lists only
  the default mode and the one that its CRTC shows.
* `ModesBut` — the same up to one output, while it is being changed.

Principal result: `modes_used` (**the modes are the default one and those that are shown**, in every
state of every run of requests that succeed).
-/

set_option autoImplicit false

namespace ApertureC.XDisplays

open Geometry

/-- The CRTC is enabled with this mode. -/
def Showing (z : Screen) (id mode : Nat) : Prop :=
  ∃ c, z.crtcs[id]? = some c ∧ c.isEnabled = true ∧ c.mode = mode

/-- Every mode but the default one is listed by an output, and the outputs list nothing else than
what they show, but for some modes of one output. -/
structure ModesBut (x : X) (z : Screen) (id : Nat) (others : Nat → Prop) : Prop where
  own : ∀ (i : Nat) (c : Crtc), z.crtcs[i]? = some c → c.isEnabled = true → c.outputs = [i] ∧ c.mode ≠ 0
  nonzero : ∀ m ∈ z.modes, m.id ≠ 0
  listed : ∀ i < z.crtcs.length, ∀ mode ∈ z.outputModes i,
    mode = x.defaultModeId ∨ Showing z i mode ∨ i = id ∧ others mode
  used : ∀ m ∈ z.modes, m.id = x.defaultModeId ∨ ∃ i < z.crtcs.length, m.id ∈ z.outputModes i

/-- The modes are in use. -/
def ModesUsed (x : X) (z : Screen) : Prop := ∀ id, ModesBut x z id fun _ => False

theorem ModesBut.used_of_none {x : X} {z : Screen} {id : Nat} {others : Nat → Prop}
    (h : ModesBut x z id others) (hnone : ∀ mode, others mode → mode = x.defaultModeId ∨
      Showing z id mode) : ModesUsed x z := by
  refine fun _ => ⟨h.own, h.nonzero, fun i hi mode hmode => ?_, h.used⟩
  rcases h.listed i hi mode hmode with hdefault | hshowing | ⟨rfl, hother⟩
  · exact Or.inl hdefault
  · exact Or.inr (Or.inl hshowing)
  · exact (hnone mode hother).imp_right Or.inl

theorem ModesUsed.listed {x : X} {z : Screen} (h : ModesUsed x z) {i mode : Nat}
    (hi : i < z.crtcs.length) (hmode : mode ∈ z.outputModes i) :
    mode = x.defaultModeId ∨ Showing z i mode := by
  rcases (h i).listed i hi mode hmode with hdefault | hshowing | ⟨-, hother⟩
  · exact Or.inl hdefault
  · exact Or.inr hshowing
  · exact hother.elim

theorem Showing.congr {z z' : Screen} {id mode : Nat} (hz : z'.crtcs[id]? = z.crtcs[id]?)
    (h : Showing z id mode) : Showing z' id mode := by
  obtain ⟨c, hc, hon⟩ := h
  exact ⟨c, hz.trans hc, hon⟩

/-! ## One change of the screen -/

section Changes

variable {x : X} {z z' : Screen} {id mode : Nat}

/-- A mode, perhaps a new one, is added to the output. -/
theorem ModesUsed.addOutputMode (h : ModesUsed x z) (hid : id < z.crtcs.length)
    (hcrtcs : z'.crtcs = z.crtcs)
    (hmodes : z'.modes = z.modes ∨
      mode ≠ 0 ∧ ∃ m : Mode, m.id = mode ∧ z'.modes = z.modes ++ [m])
    (houtputs : z'.outputModes =
      Function.update z.outputModes id ((z.outputModes id).insert mode)) :
    ModesBut x z' id (· = mode) := by
  have hmem : ∀ i other, other ∈ z'.outputModes i ↔
      other ∈ z.outputModes i ∨ i = id ∧ other = mode := by
    intro i other
    rw [houtputs]
    by_cases hi : i = id
    · rw [hi, Function.update_self, List.mem_insert_iff]
      simp only [true_and]
      exact or_comm
    · rw [Function.update_of_ne hi]
      simp [hi]
  have hall : ∀ m ∈ z'.modes, m ∈ z.modes ∨ m.id = mode ∧ mode ≠ 0 := by
    intro m hm
    rcases hmodes with hsame | ⟨hmode, m', hm', hnew⟩
    · rw [hsame] at hm
      exact Or.inl hm
    · rw [hnew] at hm
      rcases List.mem_append.mp hm with hm | hm
      · exact Or.inl hm
      · rw [List.mem_singleton.mp hm]
        exact Or.inr ⟨hm', hmode⟩
  refine ⟨by rw [hcrtcs]; exact (h id).own, ?_, ?_, ?_⟩
  · intro m hm
    rcases hall m hm with hm | ⟨rfl, hmode⟩
    · exact (h id).nonzero m hm
    · exact hmode
  · intro i hi other hother
    rw [hcrtcs] at hi
    rcases (hmem i other).mp hother with hother | hnew
    · rcases h.listed hi hother with hdefault | hshowing
      · exact Or.inl hdefault
      · exact Or.inr (Or.inl (hshowing.congr (by rw [hcrtcs])))
    · exact Or.inr (Or.inr hnew)
  · intro m hm
    rw [hcrtcs]
    rcases hall m hm with hm | ⟨hnew, -⟩
    · rcases (h id).used m hm with hdefault | ⟨i, hi, hlisted⟩
      · exact Or.inl hdefault
      · exact Or.inr ⟨i, hi, (hmem i m.id).mpr (Or.inl hlisted)⟩
    · exact Or.inr ⟨id, hid, (hmem id m.id).mpr (Or.inr ⟨rfl, hnew⟩)⟩

/-- The CRTC is set to the mode that its output has got, or switched off: its output still lists the
mode that was there before. -/
theorem ModesBut.setCrtcConfig {info c : Crtc} {px py : Int} {outputs : List Nat}
    (h : ModesBut x z id fun other => outputs ≠ [] ∧ other = mode)
    (hinfo : z.crtcs[id]? = some info) (houtput : outputs = [] ∨ outputs = [id])
    (hc : configured z.modes px py mode outputs = some c)
    (hcrtcs : z'.crtcs = z.crtcs.set id c) (hmodes : z'.modes = z.modes)
    (houtputs : z'.outputModes = z.outputModes) :
    ModesBut x z' id fun other => info.isEnabled = true ∧ other = info.mode := by
  have hid : id < z.crtcs.length := (List.getElem?_eq_some_iff.mp hinfo).1
  have hself : z'.crtcs[id]? = some c := by
    rw [hcrtcs, List.getElem?_set_self hid]
  have hothers : ∀ i, i ≠ id → z'.crtcs[i]? = z.crtcs[i]? := by
    intro i hi
    rw [hcrtcs, List.getElem?_set_ne (Ne.symm hi)]
  have hnew : c = .off ∧ outputs = [] ∨ c.outputs = [id] ∧ c.mode = mode ∧ mode ≠ 0 := by
    unfold configured at hc
    split at hc
    · rename_i hoff
      cases hc
      exact Or.inl ⟨rfl, hoff⟩
    · rename_i hon
      obtain ⟨m, hm, rfl⟩ := Option.map_eq_some_iff.mp hc
      have hmode : m.id = mode := by simpa using List.find?_some hm
      refine Or.inr ⟨houtput.resolve_left hon, rfl, ?_⟩
      rw [← hmode]
      exact h.nonzero m (List.mem_of_find?_eq_some hm)
  refine ⟨?_, by rw [hmodes]; exact h.nonzero, ?_, ?_⟩
  · intro i c' hc' hon
    by_cases hi : i = id
    · subst hi
      rw [hself] at hc'
      cases hc'
      rcases hnew with ⟨rfl, -⟩ | ⟨houtputs', hmode, hnonzero⟩
      · cases hon
      · exact ⟨houtputs', hmode ▸ hnonzero⟩
    · rw [hothers i hi] at hc'
      exact h.own i c' hc' hon
  · intro i hi other hother
    rw [hcrtcs, List.length_set] at hi
    rw [houtputs] at hother
    rcases h.listed i hi other hother with hdefault | hshowing | ⟨rfl, hon, rfl⟩
    · exact Or.inl hdefault
    · by_cases hid' : i = id
      · -- what was shown before
        obtain ⟨c', hc', hon, hmode⟩ := hshowing
        rw [hid', hinfo] at hc'
        cases hc'
        exact Or.inr (Or.inr ⟨hid', hon, hmode.symm⟩)
      · exact Or.inr (Or.inl (hshowing.congr (hothers i hid')))
    · rcases hnew with ⟨-, hoff⟩ | ⟨houtputs', hmode, -⟩
      · exact absurd hoff hon
      · exact Or.inr (Or.inl ⟨c, hself, by rw [Crtc.isEnabled, houtputs']; rfl, hmode⟩)
  · intro m hm
    rw [hmodes] at hm
    rw [hcrtcs, List.length_set, houtputs]
    exact h.used m hm

/-- The mode is deleted from the output, and destroyed unless an output needs it. -/
theorem ModesBut.deleteOutputMode (h : ModesBut x z id (· = mode))
    (hcrtcs : z'.crtcs = z.crtcs)
    (hmodes : z'.modes = z.modes.filter (fun m => m.id ≠ mode) ∨
      z'.modes = z.modes ∧ ∃ i < z.crtcs.length, mode ∈ z'.outputModes i)
    (houtputs : z'.outputModes =
      Function.update z.outputModes id ((z.outputModes id).filter (· ≠ mode))) :
    ModesUsed x z' := by
  have hmem : ∀ i other, other ∈ z'.outputModes i ↔
      other ∈ z.outputModes i ∧ ¬ (i = id ∧ other = mode) := by
    intro i other
    rw [houtputs]
    by_cases hi : i = id
    · rw [hi, Function.update_self, List.mem_filter]
      simp
    · rw [Function.update_of_ne hi]
      simp [hi]
  have hall : ∀ m ∈ z'.modes, m ∈ z.modes := by
    intro m hm
    rcases hmodes with hfilter | ⟨hsame, -⟩
    · rw [hfilter] at hm
      exact (List.mem_filter.mp hm).1
    · rwa [hsame] at hm
  refine fun _ => ⟨by rw [hcrtcs]; exact h.own, fun m hm => h.nonzero m (hall m hm), ?_, ?_⟩
  · intro i hi other hother
    rw [hcrtcs] at hi
    obtain ⟨hother, hnot⟩ := (hmem i other).mp hother
    rcases h.listed i hi other hother with hdefault | hshowing | hdeleted
    · exact Or.inl hdefault
    · exact Or.inr (Or.inl (hshowing.congr (by rw [hcrtcs])))
    · exact absurd hdeleted hnot
  · intro m hm
    rw [hcrtcs]
    by_cases hdeleted : m.id = mode
    · rcases hmodes with hfilter | ⟨-, hneeded⟩
      · rw [hfilter] at hm
        simpa [hdeleted] using (List.mem_filter.mp hm).2
      · rw [hdeleted]
        exact Or.inr hneeded
    · rcases h.used m (hall m hm) with hdefault | ⟨i, hi, hlisted⟩
      · exact Or.inl hdefault
      · exact Or.inr ⟨i, hi, (hmem i m.id).mpr ⟨hlisted, fun hboth => hdeleted hboth.2⟩⟩

theorem ModesUsed.kept (h : ModesUsed x z) (hz : Kept z z') : ModesUsed x z' := by
  intro i
  refine ⟨by rw [hz.crtcs]; exact (h i).own, by rw [hz.modes]; exact (h i).nonzero, ?_, ?_⟩
  · rw [hz.crtcs, hz.outputModes]
    intro j hj mode hmode
    exact (h.listed hj hmode).imp_right fun hshowing =>
      Or.inl (hshowing.congr (by rw [hz.crtcs]))
  · rw [hz.modes, hz.crtcs, hz.outputModes]
    exact (h i).used

end Changes

/-! ## Setting a display -/

theorem Answers.deleteOutputMode_inv {limit : Size} {z z' : Screen} {output mode : Nat}
    {reply : Reply} (h : Answers limit z (.deleteOutputMode output mode) reply z') :
    z'.crtcs = z.crtcs ∧ z'.modes = z.modes ∧
      z'.outputModes =
        Function.update z.outputModes output ((z.outputModes output).filter (· ≠ mode)) := by
  cases h with
  | deleteOutputMode output mode z' hunused hsize hcrtcs hmodes houtputs =>
    exact ⟨hcrtcs, hmodes, houtputs⟩

theorem Answers.destroyMode_inv {limit : Size} {z z' : Screen} {mode : Nat} {reply : Reply}
    (h : Answers limit z (.destroyMode mode) reply z') :
    z'.crtcs = z.crtcs ∧ z'.modes = z.modes.filter (fun m => m.id ≠ mode) ∧
      z'.outputModes = z.outputModes := by
  cases h with
  | destroyMode mode z' hunused hsize hcrtcs hmodes houtputs =>
    exact ⟨hcrtcs, hmodes, houtputs⟩

section Setting

variable {σ : Type} {r : RandR σ} {x : X} {s t : σ}

/-- The mode that is prepared is the only one that its output lists beside those in use. -/
theorem prepareMode_modesUsed (h : ModesUsed x (r.screen s)) {id width height mode : Nat}
    {d : Display} (hrun : prepareMode r x id d width height s = (some mode, t)) :
    (r.screen t).crtcs = (r.screen s).crtcs ∧ ModesBut x (r.screen t) id (· = mode) := by
  obtain ⟨u, s₁, hguard, hrun⟩ := Fallible.bind_eq_some.mp hrun
  obtain ⟨-, rfl⟩ := Fallible.guard_eq_some.mp hguard
  obtain ⟨found, s₂, hfind, hrun⟩ := Fallible.bind_eq_some.mp hrun
  obtain ⟨-, hscreen⟩ := findModeByName_eq_some hfind
  cases found with
  | some id' =>
    obtain ⟨mode', s₃, hmode, hrun⟩ := Fallible.bind_eq_some.mp hrun
    cases hmode
    obtain ⟨u, s₄, hadd, hrun⟩ := Fallible.bind_eq_some.mp hrun
    cases hrun
    obtain ⟨reply, hanswer⟩ := checkedVoidRequest_eq_some hadd
    obtain ⟨hid, hcrtcs, hmodes, houtputs⟩ := hanswer.addOutputMode_inv
    rw [hscreen] at hid hcrtcs hmodes houtputs
    exact ⟨hcrtcs, h.addOutputMode hid hcrtcs (Or.inl hmodes) houtputs⟩
  | none =>
    obtain ⟨mode', s₃, hcreate, hrun⟩ := Fallible.bind_eq_some.mp hrun
    obtain ⟨u, s₄, hadd, hrun⟩ := Fallible.bind_eq_some.mp hrun
    cases hrun
    obtain ⟨hnonzero, hcrtcs₁, hmodes₁, houtputs₁⟩ := createMode_eq_some hcreate
    obtain ⟨reply, hanswer⟩ := checkedVoidRequest_eq_some hadd
    obtain ⟨hid, hcrtcs, hmodes, houtputs⟩ := hanswer.addOutputMode_inv
    rw [hscreen] at hcrtcs₁ hmodes₁ houtputs₁
    rw [hcrtcs₁] at hid hcrtcs
    rw [hmodes₁] at hmodes
    rw [houtputs₁] at houtputs
    exact ⟨hcrtcs, h.addOutputMode hid hcrtcs (Or.inr ⟨hnonzero, _, rfl, hmodes⟩) houtputs⟩

/-- A plan leaves the modes in use, but for the one it is about to set. -/
theorem planDisplay_modesUsed (h : ModesUsed x (r.screen s)) {id : Nat} {d : Display}
    {plan : Option Change} (hrun : planDisplay r x id d s = (some plan, t)) :
    (plan = none ∧ r.screen t = r.screen s) ∨
    ∃ c, plan = some c ∧ (r.screen t).crtcs[id]? = some c.info ∧
      (c.outputs = [] ∧ c.mode = 0 ∨ c.outputs = [id]) ∧
      ModesBut x (r.screen t) id fun other => c.outputs ≠ [] ∧ other = c.mode := by
  obtain ⟨u, s₁, hguard, hrun⟩ := Fallible.bind_eq_some.mp hrun
  obtain ⟨-, rfl⟩ := Fallible.guard_eq_some.mp hguard
  obtain ⟨info, s₂, hinfo, hrun⟩ := Fallible.bind_eq_some.mp hrun
  obtain ⟨hcrtc, hscreen⟩ := getCrtcInfo_eq_some hinfo
  split at hrun
  · cases hrun
    exact Or.inl ⟨rfl, hscreen⟩
  · obtain ⟨width, s₃, hw, hrun⟩ := Fallible.bind_eq_some.mp hrun
    obtain ⟨height, s₄, hh, hrun⟩ := Fallible.bind_eq_some.mp hrun
    obtain ⟨px, s₅, hx, hrun⟩ := Fallible.bind_eq_some.mp hrun
    obtain ⟨py, s₆, hy, hrun⟩ := Fallible.bind_eq_some.mp hrun
    obtain ⟨-, rfl⟩ := Fallible.ofOption_eq_some.mp hw
    obtain ⟨-, rfl⟩ := Fallible.ofOption_eq_some.mp hh
    obtain ⟨-, rfl⟩ := Fallible.ofOption_eq_some.mp hx
    obtain ⟨-, rfl⟩ := Fallible.ofOption_eq_some.mp hy
    split at hrun
    · cases hrun
      exact Or.inl ⟨rfl, hscreen⟩
    · split at hrun
      · obtain ⟨mode, s₇, hmode, hrun⟩ := Fallible.bind_eq_some.mp hrun
        cases hrun
        rw [← hscreen] at h hcrtc
        obtain ⟨hcrtcs, hbut⟩ := prepareMode_modesUsed h hmode
        refine Or.inr ⟨_, rfl, by rw [hcrtcs]; exact hcrtc, Or.inr rfl, ?_⟩
        simpa using hbut
      · cases hrun
        rw [← hscreen] at h hcrtc
        refine Or.inr ⟨_, rfl, hcrtc, Or.inl ⟨rfl, rfl⟩, ?_⟩
        simpa using h id

/-- The mode that was there before is removed when nothing needs it. -/
theorem Obliging.dropMode_modesUsed (hob : Obliging r) {id : Nat} {c : Change} {crtc : Crtc}
    (h : ModesBut x (r.screen s) id fun other => c.info.isEnabled = true ∧ other = c.info.mode)
    (hcrtc : (r.screen s).crtcs[id]? = some crtc) (hmode : crtc.mode = c.mode)
    (hon : crtc.isEnabled = true ∨ c.mode = 0)
    (hinfo : c.info.isEnabled = true → c.info.mode ≠ 0) :
    ModesUsed x (r.screen (dropMode r x id c s).2) := by
  unfold dropMode
  by_cases hdrop : c.info.isEnabled = true ∧ c.info.mode ≠ c.mode ∧ c.info.mode ≠ x.defaultModeId
  · rw [if_pos hdrop, Fallible.bind_run_some (Fallible.attempt_run _ s)]
    obtain ⟨hbefore, hne, -⟩ := hdrop
    have hunused : ∀ c' ∈ (r.screen s).crtcs, id ∈ c'.outputs → c'.mode ≠ c.info.mode := by
      intro c' hc' houtput
      obtain ⟨i, hi⟩ := List.mem_iff_getElem?.mp hc'
      have hon' : c'.isEnabled = true := by
        rw [Crtc.isEnabled, Bool.not_eq_true', List.isEmpty_eq_false_iff]
        exact List.ne_nil_of_mem houtput
      rw [(h.own i c' hi hon').1, List.mem_singleton] at houtput
      rw [← houtput, hcrtc] at hi
      cases hi
      rw [hmode]
      exact hne.symm
    obtain ⟨s₁, reply, hdelete, hanswer⟩ := hob.checkedVoidRequest (.deleteOutputMode id c.info.mode
      { r.screen s with
        outputModes := Function.update (r.screen s).outputModes id
          (((r.screen s).outputModes id).filter (· ≠ c.info.mode)) }
      hunused rfl rfl rfl rfl) rfl
    obtain ⟨hcrtcs, hmodes, houtputs⟩ := hanswer.deleteOutputMode_inv
    have hbut : ModesBut x (r.screen s) id (· = c.info.mode) := by simpa [hbefore] using h
    rw [Fallible.bind_run_some hdelete]
    rcases hsend : r.send (.destroyMode c.info.mode) s₁ with ⟨_ | reply', t⟩
    · have hrun : XDisplays.checkedVoidRequest r (.destroyMode c.info.mode) s₁ = (none, t) :=
        Fallible.bind_run_none hsend _
      have hneeded : ∃ i < (r.screen s).crtcs.length, c.info.mode ∈ (r.screen s₁).outputModes i := by
        by_contra hnone
        rw [← hcrtcs] at hnone
        obtain ⟨reply'', t', hsend'⟩ := hob.grants _ s₁ .done { r.screen s₁ with
            modes := (r.screen s₁).modes.filter fun m => m.id ≠ c.info.mode
            ids := (r.screen s₁).ids.sublist (List.filter_sublist.map _) }
          (.destroyMode c.info.mode _ (fun i hi hmem => hnone ⟨i, hi, hmem⟩) rfl rfl rfl rfl) rfl
        rw [hsend] at hsend'
        cases hsend'
      rw [hrun]
      change ModesUsed x (r.screen t)
      rw [r.refused _ s₁ t hsend]
      exact hbut.deleteOutputMode hcrtcs (Or.inr ⟨hmodes, hneeded⟩) houtputs
    · have hrun : XDisplays.checkedVoidRequest r (.destroyMode c.info.mode) s₁ = (some (), t) :=
        Fallible.bind_run_some hsend _
      obtain ⟨hcrtcs', hmodes', houtputs'⟩ := (r.answers _ s₁ reply' t hsend).destroyMode_inv
      rw [hcrtcs] at hcrtcs'
      rw [hmodes] at hmodes'
      rw [houtputs] at houtputs'
      rw [hrun]
      exact hbut.deleteOutputMode hcrtcs' (Or.inl hmodes') houtputs'
  · rw [if_neg hdrop]
    refine h.used_of_none ?_
    rintro mode ⟨hbefore, rfl⟩
    by_cases hdefault : c.info.mode = x.defaultModeId
    · exact Or.inl hdefault
    · -- it is still what the CRTC shows
      have hsame : c.info.mode = c.mode := by
        by_contra hne
        exact hdrop ⟨hbefore, hne, hdefault⟩
      refine Or.inr ⟨crtc, hcrtc, ?_, hmode.trans hsame.symm⟩
      refine hon.resolve_right fun hzero => hinfo hbefore ?_
      rw [hsame, hzero]

/-- **A display that is set leaves the modes in use.** -/
theorem Obliging.setDisplay_modesUsed (hob : Obliging r) (h : ModesUsed x (r.screen s)) {id : Nat}
    {d : Display} {kind : SetDisplaySuccess}
    (hrun : XDisplays.setDisplay r x id d s = (some kind, t)) : ModesUsed x (r.screen t) := by
  obtain ⟨plan, s₁, hplan, hrun⟩ := Fallible.bind_eq_some.mp hrun
  rcases planDisplay_modesUsed h hplan with ⟨rfl, hscreen⟩ | ⟨c, rfl, hinfo, houtput, hbut⟩
  · cases hrun
    rw [hscreen]
    exact h
  · obtain ⟨u, s₂, hset, hrun⟩ := Fallible.bind_eq_some.mp hrun
    obtain ⟨u', s₃, hdrop, hrun⟩ := Fallible.bind_eq_some.mp hrun
    cases hrun
    obtain ⟨crtc, hcrtc, hlt, -, hcrtcs, hmodes, houtputs⟩ := setCrtcConfig_eq_some hob.heeds hset
    have hself : (r.screen s₂).crtcs[id]? = some crtc := by
      rw [hcrtcs, List.getElem?_set_self hlt]
    have hafter := hbut.setCrtcConfig hinfo (houtput.imp_left And.left) hcrtc hcrtcs hmodes houtputs
    have hdropped : ModesUsed x (r.screen (dropMode r x id c s₂).2) := by
      have hnonzero : c.info.isEnabled = true → c.info.mode ≠ 0 :=
        fun hon => (hbut.own id c.info hinfo hon).2
      rcases houtput with ⟨hoff, hzero⟩ | hid
      · rw [hoff, configured_off] at hcrtc
        cases hcrtc
        exact hob.dropMode_modesUsed hafter hself hzero.symm (Or.inr hzero) hnonzero
      · rw [configured, hid, if_neg (by simp)] at hcrtc
        obtain ⟨m, hm, rfl⟩ := Option.map_eq_some_iff.mp hcrtc
        exact hob.dropMode_modesUsed hafter hself rfl (Or.inl rfl) hnonzero
    rw [hdrop] at hdropped
    exact hdropped

/-- So does a loop without errors. -/
theorem Obliging.setEachDisplay_modesUsed (hob : Obliging r) (h : ModesUsed x (r.screen s))
    {id : Nat} {ds : List Display} {result : Bool × Bool × List Display}
    (hrun : setEachDisplay r x id ds s = (some result, t)) (herr : result.1 = false) :
    ModesUsed x (r.screen t) := by
  induction ds generalizing id s result with
  | nil =>
    cases hrun
    exact h
  | cons d ds ih =>
    rw [setEachDisplay, Fallible.bind_run_some (Fallible.attempt_run _ s)] at hrun
    rcases hset : XDisplays.setDisplay r x id d s with ⟨_ | kind, s₁⟩ <;> rw [hset] at hrun <;>
      dsimp only at hrun
    · exfalso
      rw [Fallible.bind_run_some (Fallible.attempt_run _ s₁)] at hrun
      rcases hget : getDisplay r x id s₁ with ⟨_ | current, s₂⟩ <;> rw [hget] at hrun <;>
        obtain ⟨rest, s₃, hrest, hrun⟩ := Fallible.bind_eq_some.mp hrun <;> cases hrun <;>
        cases herr
    · obtain ⟨rest, s₂, hrest, hrun⟩ := Fallible.bind_eq_some.mp hrun
      cases hrun
      exact ih (hob.setDisplay_modesUsed h hset) hrest herr

/-- And so does a request that succeeds. -/
theorem Obliging.setDisplays_modesUsed (hob : Obliging r) (h : ModesUsed x (r.screen s))
    {requested : List Display} {success : SetDisplaysSuccess}
    (hrun : XDisplays.setDisplays r x requested s = (some (.ok success), t)) :
    ModesUsed x (r.screen t) := by
  obtain ⟨s₀, ⟨errors, changed, final⟩, s₂, t', hs₀, heach, ht, hsteps⟩ :=
    setDisplays_steps (r := r) (x := x) requested s
  have hbefore := resizeScreenIf_kept (r := r) (resizeDisplays x.maxDisplayCount requested) .gt s₀
  have hafter := trimmed_kept (r := r) (errors, changed, final) s₂
  rw [hs₀] at hbefore
  rw [← ht] at hafter
  rw [hsteps] at hrun
  cases errors with
  | true => cases hrun
  | false =>
    cases hrun
    exact (hob.setEachDisplay_modesUsed (h.kept hbefore) heach rfl).kept hafter

end Setting

/-! ## Runs -/

/-- Every mode is the default one or shown by a CRTC, and there is at most one mode more than there
are CRTCs. -/
structure OnlyShown (x : X) (z : Screen) : Prop where
  shown : ∀ m ∈ z.modes, m.id = x.defaultModeId ∨ ∃ id, Showing z id m.id
  count : z.modes.length ≤ z.crtcs.length + 1

theorem ModesUsed.onlyShown {x : X} {z : Screen} (h : ModesUsed x z) : OnlyShown x z := by
  have hshown : ∀ m ∈ z.modes, m.id = x.defaultModeId ∨ ∃ id, Showing z id m.id := by
    intro m hm
    rcases (h 0).used m hm with hdefault | ⟨i, hi, hlisted⟩
    · exact Or.inl hdefault
    · exact (h.listed hi hlisted).imp_right fun hshowing => ⟨i, hshowing⟩
  refine ⟨hshown, ?_⟩
  -- the ids are different, and all of them are the default one or shown
  have hsub : z.modes.map Mode.id ⊆ x.defaultModeId :: z.crtcs.map Crtc.mode := by
    intro id hid
    obtain ⟨m, hm, rfl⟩ := List.mem_map.mp hid
    rcases hshown m hm with hdefault | ⟨i, c, hc, -, hmode⟩
    · rw [hdefault]
      exact List.mem_cons_self
    · rw [← hmode]
      exact List.mem_cons_of_mem _ (List.mem_map_of_mem (List.mem_of_getElem? hc))
  have hle := (z.ids.subperm hsub).length_le
  simpa using hle

section Runs

variable {σ : Type} (r : RandR σ) (x : X)

/-- A request that succeeds. -/
def stepOk (s : σ) (requested : List Display) : Option σ :=
  match setDisplays r x requested s with
  | (some (.ok _), t) => some t
  | _ => none

/-- **The modes are the default one and those that are shown**, in every state of every run of
requests that succeed. -/
theorem modes_used (hob : Obliging r) (s : σ) (h : ModesUsed x (r.screen s))
    (requests : List (List Display)) :
    Machine.Always (stepOk r x) (fun t => OnlyShown x (r.screen t)) s requests := by
  have hused : Machine.Always (stepOk r x) (fun t => ModesUsed x (r.screen t)) s requests := by
    apply Machine.always_of_invariant
    · intro s requested t h hstep
      unfold stepOk at hstep
      split at hstep
      · rename_i success t' hset
        cases hstep
        exact hob.setDisplays_modesUsed h hset
      · cases hstep
    · exact h
  exact hused.mono fun t h => h.onlyShown

end Runs

theorem Xvfb.modesUsed_desk : ModesUsed deskX (deskServer.screen desk) := by
  intro id
  refine ⟨?_, ?_, ?_, ?_⟩
  · intro i c hc hon
    rcases i with _ | _ | _ | i <;> cases hc
    · exact ⟨rfl, by decide⟩
    · cases hon
    · cases hon
  · intro m hm
    cases List.mem_singleton.mp hm
    decide
  · intro i hi mode hmode
    exact Or.inl (List.mem_singleton.mp hmode)
  · intro m hm
    cases List.mem_singleton.mp hm
    exact Or.inl rfl

theorem modes_used_desk :
    Machine.Always (stepOk Xvfb.deskServer Xvfb.deskX)
      (fun t => OnlyShown Xvfb.deskX (Xvfb.deskServer.screen t)) Xvfb.desk
      [Xvfb.sideBySide, Xvfb.sideBySide.drop 1, []] :=
  modes_used Xvfb.deskServer Xvfb.deskX (Xvfb.obliging (by decide)) Xvfb.desk Xvfb.modesUsed_desk _

/-- A request that fails can leave a mode that nothing shows: the screen was not enlarged. -/
example :
    let tooFar : List Display :=
      [⟨⟨⟨0, 0⟩, ⟨2200, 900⟩⟩, true⟩, ⟨⟨⟨9000, 0⟩, ⟨800, 600⟩⟩, true⟩]
    let s := (setDisplays Xvfb.deskServer Xvfb.deskX tooFar Xvfb.settled).2
    (s.screen.modes.map Mode.id, s.screen.crtcs.map Crtc.mode) = ([1, 2, 3, 4], [2, 3, 0]) := by
  decide +kernel

end ApertureC.XDisplays
