import ApertureC.ServerRest
import Mathlib.Data.Prod.Lex

/-!
# The screen comes to rest

What goes on when nothing is drawn and no display event comes: the server's tasks come to rest, and
then every enabled display is shown, or its frame task is blocked.  A task keeps the permits that it
has while it waits for damage, so after a change of the displays one that still has senders of an
older configuration can keep another from cutting.

* `Serves` — a display event whose displays the tasks can be changed to.
* `Served` — the invariant of a run of such events.
* `work` — what is left to do: changes of displays, then damage, then commands, then frames.
* `Settled` — the displays have been changed, and everything is shown that is not blocked.

Principal results: `work_step` (every step of the tasks lowers what is left to do), `Served.settled`
(where none can take a step) and `screen_settles` (**the tasks come to rest, and every display is
shown whose frame task is not blocked**), from every state of every run.
-/

set_option autoImplicit false

namespace ApertureC

open Geometry

namespace Desktop

/-- What goes on when nothing is drawn and no display event comes. -/
def Act.own : Act → Bool
  | .draw _ _ => false
  | .display _ _ => false
  | .displayFailed _ _ => false
  | _ => true

/-- The X server accepts the damage of a display event, and the tasks can be changed to it. -/
def Serves (s : Desktop) : Act → Prop
  | .display displays damaged =>
    damaged = true ∧ s.server.Fits ⟨s.server.displayConfigId + 1, displays⟩
  | _ => True

instance (s : Desktop) : ∀ a, Decidable (s.Serves a)
  | .display _ _ => inferInstanceAs (Decidable (_ ∧ _))
  | .draw _ _ => inferInstanceAs (Decidable True)
  | .report => inferInstanceAs (Decidable True)
  | .displayFailed _ _ => inferInstanceAs (Decidable True)
  | .backend => inferInstanceAs (Decidable True)
  | .take _ => inferInstanceAs (Decidable True)
  | .receive => inferInstanceAs (Decidable True)
  | .update _ => inferInstanceAs (Decidable True)
  | .task _ => inferInstanceAs (Decidable True)

/-- What holds in every state of a run in which the tasks can be changed to the displays. -/
structure Served (limit : Size) (s : Desktop) : Prop where
  inv : Inv limit s
  framed : s.server.Framed
  senders : s.server.SendersInv
  awake : s.server.Awake
  updating : ∀ d ∈ s.updating.2, d < s.server.displayCount

/-- The displays have been changed, every frame has been encoded, and the newest frame cut for a
pixel of an enabled display shows the framebuffer, where no frame task is blocked.  None is while
the displays are the first. -/
structure Settled (s : Desktop) : Prop where
  backend : s.server.backend = .select
  encoders : ∀ e, e < s.server.encoderCount → (s.server.encoders e).commands = [] ∧
    (s.server.encoders e).frames = [] ∧ (s.server.encoders e).encoding = none
  shown : ∀ d, d < s.server.displayCount → (s.server.displays d).tb.display.isEnabled = true →
    s.server.Blocked d ∨ ∀ p, (s.server.displays d).tb.InDisplay p →
      NewestShows (framesOf s.server.cuts d (s.server.displays d)) p
        (Pixel24.assignElem (s.framebuffer (onScreen (s.server.displays d).tb.display p)))
  changed : ∀ d, s.server.Blocked d → 1 < s.server.history.length

/-- An area has to be reported, taken, received and used for every display. -/
def damageWork (s : Desktop) : Nat :=
  (s.server.displayCount + 3) * s.drawn.length + (s.server.displayCount + 2) * s.damage.length +
    (s.server.displayCount + 1) * s.captured.length + s.updating.2.length

/-- Changes of the displays come first: they make damage.  Damage makes frames. -/
def work (s : Desktop) : ℕ ×ₗ ℕ ×ₗ ℕ ×ₗ ℕ :=
  toLex (s.server.changeWork, toLex (s.damageWork,
    toLex (s.server.commandWork, s.server.frameWork)))

section Steps

variable {limit : Size} {cc : ConnectedComponents} {comp : Compressors} {s s' : Desktop}

theorem work_of_change (h : s'.server.changeWork < s.server.changeWork) : s'.work < s.work :=
  Prod.Lex.toLex_lt_toLex.mpr (Or.inl h)

theorem work_of_damage (hserver : s'.server.changeWork = s.server.changeWork)
    (h : s'.damageWork < s.damageWork) : s'.work < s.work :=
  Prod.Lex.toLex_lt_toLex.mpr (Or.inr ⟨hserver, Prod.Lex.toLex_lt_toLex.mpr (Or.inl h)⟩)

/-- Commands and frames are taken when there is nothing else to do. -/
theorem work_of_task {server : Server} (hcount : server.displayCount = s.server.displayCount)
    (hchange : server.changeWork = s.server.changeWork)
    (h : server.commandWork < s.server.commandWork ∨
      server.commandWork = s.server.commandWork ∧ server.frameWork < s.server.frameWork) :
    work { s with server := server } < s.work := by
  refine Prod.Lex.toLex_lt_toLex.mpr (Or.inr ⟨hchange, Prod.Lex.toLex_lt_toLex.mpr (Or.inr ⟨?_,
    Prod.Lex.toLex_lt_toLex.mpr h⟩)⟩)
  simp only [damageWork, hcount]

/-- A step changes neither how many displays there are nor that updates are for them. -/
theorem Served.updates (h : s.Served limit) {a : Act} (hs : s.step limit cc comp a = some s')
    (hcount : s'.server.displayCount = s.server.displayCount) :
    ∀ d ∈ s'.updating.2, d < s'.server.displayCount := by
  rw [hcount]
  cases step_move limit cc comp hs with
  | receive area rest hnone hcaptured => exact fun d hd => List.mem_range.mp hd
  | update d hmem server hserver =>
    exact fun d' hd' => h.updating d' (List.mem_of_mem_filter hd')
  | _ => exact h.updating

theorem served_step (hsmall : Small limit) (h : s.Served limit) {a : Act} (hserves : s.Serves a)
    (hs : s.step limit cc comp a = some s') : s'.Served limit := by
  have hdamages : s.Damages a := by
    cases a <;> first | exact trivial | exact hserves.1
  have hinv := inv_step hsmall h.inv hdamages hs
  have hframed := framed_step h.framed hs
  rcases step_server limit cc comp hs with heq | ⟨b, hb, hdisplay⟩
  · exact ⟨hinv, hframed, by rw [heq]; exact h.senders, by rw [heq]; exact h.awake,
      h.updates hs (by rw [heq])⟩
  · have hawake := Server.awake_step h.awake h.framed (fun displays hbd => by
      obtain ⟨damaged, rfl⟩ := hdisplay displays hbd
      exact hserves.2) hb
    exact ⟨hinv, hframed, Server.sendersInv_step h.senders hb, hawake,
      h.updates hs (Server.step_displayCount h.inv.wf hb)⟩

theorem served_start (hsmall : Small limit) {extent : Size} (maxEncoderCount : Nat)
    (scheme : Scheme) {displays : List (Display × List Box2D)}
    (hin : InLimit limit (displays.map Prod.fst))
    (hextent : deriveExtent (displays.map Prod.fst) = some extent)
    (framebuffer : Point → Pixel32) :
    (start limit extent maxEncoderCount scheme displays framebuffer).Served limit :=
  ⟨inv_start hsmall hin hextent framebuffer, Server.framed_init maxEncoderCount scheme displays,
    Server.sendersInv_init maxEncoderCount scheme displays,
    Server.awake_init maxEncoderCount scheme displays, nofun⟩

/-- What the tasks do lowers what they have left to do. -/
theorem work_step (h : s.Served limit) {a : Act} (hown : a.own = true)
    (hs : s.step limit cc comp a = some s') : s'.work < s.work := by
  cases step_move limit cc comp hs with
  | draw area pixels harea => cases hown
  | display displays damaged hin server hserver => cases hown
  | displayFailed displays damaged hin server hserver => cases hown
  | report area rest hdrawn =>
    refine work_of_damage rfl ?_
    simp only [damageWork, hdrawn, List.length_cons, List.length_append, List.length_nil,
      Nat.mul_add]
    omega
  | complete l hb server hserver extent hextent =>
    exact work_of_change (Server.backendStep_work hserver)
  | backend hb server hserver => exact work_of_change (Server.backendStep_work hserver)
  | take n area areas hselect htake =>
    refine work_of_damage rfl ?_
    have hlength : (s.damage.drop n).length + 1 ≤ s.damage.length := by
      have hall := congrArg List.length (List.take_append_drop n s.damage)
      rw [htake, List.length_append, List.length_cons] at hall
      omega
    -- however many areas are taken, one is captured at most
    have hcaptured : (s.displayExtent.intersection (bounding area areas)).toList.length ≤ 1 :=
      Option.length_toList_le
    have htaken := Nat.mul_le_mul_left (s.server.displayCount + 2) hlength
    have hcost := Nat.mul_le_mul_left (s.server.displayCount + 1) hcaptured
    simp only [damageWork, List.length_append, Nat.mul_add] at htaken hcost ⊢
    omega
  | receive area rest hnone hcaptured =>
    refine work_of_damage rfl ?_
    simp only [damageWork, hcaptured, hnone, List.length_cons, List.length_range, List.length_nil,
      Nat.mul_add]
    omega
  | update d hmem server hserver =>
    obtain ⟨-, tb, -, rfl⟩ := Server.update_spec hserver
    have hless : (s.updating.2.filter (· ≠ d)).length < s.updating.2.length :=
      List.length_filter_lt_length_iff_exists.mpr ⟨d, hmem, by simp⟩
    exact work_of_damage rfl (Nat.add_lt_add_left hless _)
  | config server hserver => exact work_of_change (Server.configStep_work hserver)
  | frame b d hb server hserver =>
    obtain ⟨hd, hmove⟩ := Server.frameTask_move hb h.inv.wf hserver
    obtain ⟨hchange, hcommands, hframes⟩ := hmove.work hd
    exact work_of_task hmove.sizes.1 hchange (Or.inr ⟨hcommands, hframes⟩)
  | takeCommand e server hserver =>
    obtain ⟨hchange, hcommands⟩ := Server.takeCommand_work hserver
    exact work_of_task (Server.takeCommand_same hserver).1.count hchange (Or.inl hcommands)
  | takeFrame e server hserver =>
    obtain ⟨hchange, hcommands, hframes⟩ := Server.takeFrame_work hserver
    exact work_of_task (Server.takeFrame_same hserver).1.count hchange
      (Or.inr ⟨hcommands, hframes⟩)
  | encode e order server hserver =>
    obtain ⟨hchange, hcommands, hframes⟩ := Server.encode_work hserver
    exact work_of_task (Server.encode_same hserver).1.count hchange (Or.inr ⟨hcommands, hframes⟩)

end Steps

/-! ### Where the tasks rest -/

section Rest

variable {limit : Size} {cc : ConnectedComponents} {comp : Compressors} {s : Desktop}

/-- The backend task waits for nothing but the encoders and the display config task. -/
theorem Served.select (hsmall : Small limit) (h : s.Served limit)
    (hconfig : s.server.configTask = .recv ∧ s.server.newDisplayConfigs = [])
    (hcommands : ∀ e, e < s.server.encoderCount → (s.server.encoders e).commands = [])
    (hs : s.backendStep = none) : s.server.backend = .select := by
  cases hb : s.server.backend with
  | select => rfl
  | reconfigure l commands =>
    cases commands with
    | nil => simp [backendStep, Server.backendStep, hb] at hs
    | cons x commands =>
      have hroom := hcommands x.1 (h.awake.commands l _ hb x List.mem_cons_self)
      simp [backendStep, Server.backendStep, hb, hroom] at hs
  | awaitComplete l =>
    have hchanging : s.server.changing = some l := by
      simp only [Server.changing, hb]
    have hcompleted : s.server.completed = true := by
      have hphase := h.inv.phase
      simp only [Server.Phase, hchanging, Server.Applying, hconfig.1, hconfig.2] at hphase
      rcases hphase with ⟨hnew, -⟩ | ⟨-, hcompleted, -⟩
      · cases hnew
      · exact hcompleted
    -- one of the displays is enabled, so they have an extent
    have hextent := h.inv.extent
    simp only [Extends, hchanging] at hextent
    obtain ⟨-, -, x, hx, hon⟩ := h.awake.fits l hchanging
    rcases deriveExtent_spec hsmall hextent.1 with ⟨-, hoff⟩ | ⟨extent, hextent', -⟩
    · rw [hoff x.1 (List.mem_map_of_mem hx)] at hon
      cases hon
    · simp [backendStep, Server.backendStep, hb, hcompleted, hextent'] at hs

/-- **Where none of the tasks can take a step, everything is shown that is not blocked.** -/
theorem Served.settled (hsmall : Small limit) (h : s.Served limit)
    (hidle : Machine.Idle (step limit cc comp) (fun a => a.own = true) s) : s.Settled := by
  have htask : ∀ {f : Server → Option Server},
      (f s.server).map (fun server => { s with server := server }) = none → f s.server = none :=
    fun hnone => Option.map_eq_none_iff.mp hnone
  have hconfig := Server.configStep_none h.awake h.inv.phase
    (htask (f := Server.configStep) (hidle (.task .config) rfl))
  have hencoding : ∀ e, e < s.server.encoderCount → (s.server.encoders e).encoding = none :=
    fun e he => Server.encode_none he fun order =>
      htask (f := fun server => server.encode comp e order) (hidle (.task (.encode e order)) rfl)
  have hcommands : ∀ e, e < s.server.encoderCount → (s.server.encoders e).commands = [] :=
    fun e he => Server.takeCommand_none he (hencoding e he)
      (htask (f := fun server => server.takeCommand e) (hidle (.task (.takeCommand e)) rfl))
  have hframes : ∀ e, e < s.server.encoderCount → (s.server.encoders e).frames = [] :=
    fun e he => Server.takeFrame_none he (hencoding e he) (hcommands e he)
      (htask (f := fun server => server.takeFrame e) (hidle (.task (.takeFrame e)) rfl))
  have hselect := h.select hsmall hconfig hcommands (hidle .backend rfl)
  have hdrawn : s.drawn = [] := by
    cases hd : s.drawn with
    | nil => rfl
    | cons area rest =>
      have hnone := hidle .report rfl
      simp [step, hd] at hnone
  have hdamage : s.damage = [] := by
    cases hd : s.damage with
    | nil => rfl
    | cons area rest =>
      have hnone := hidle (.take 1) rfl
      simp [step, takeDamage, hselect, hd] at hnone
  have hupdating : s.updating.2 = [] := by
    cases hu : s.updating.2 with
    | nil => rfl
    | cons d rest =>
      have hmem : d ∈ s.updating.2 := hu ▸ List.mem_cons_self
      obtain ⟨tb, htb, -⟩ := TrackingBuffer.update_spec cc (h.inv.wf d)
        (capture s.framebuffer s.updating.1)
      have hnone := hidle (.update d) rfl
      simp [step, updateDisplay, hmem, Server.update, h.updating d hmem, htb] at hnone
  have hcaptured : s.captured = [] := by
    cases hc : s.captured with
    | nil => rfl
    | cons area rest =>
      have hnone := hidle .receive rfl
      simp [step, receive, hupdating, hc] at hnone
  refine ⟨hselect, fun e he => ⟨hcommands e he, hframes e he, hencoding e he⟩,
    fun d hd hon => ?_, fun d hblocked => hblocked.changed h.senders h.awake.displays⟩
  refine (h.awake.resting h.senders hframes
    (fun d => htask (f := fun server => server.frameStep d) (hidle (.task (.frame d)) rfl))
    (fun d e => htask (f := fun server => server.reserveOwned d e)
      (hidle (.task (.reserved d e)) rfl))
    (fun d version => htask (f := fun server => server.waitForDamage d version)
      (hidle (.task (.waited d version)) rfl)) hd).imp_right fun hclean p hp => ?_
  rcases h.inv.tracked.shown h.framed d hd hon p hp with hshown | hdamaged | hpending
  · exact hshown
  · simp only [TrackingBuffer.Damaged, hclean] at hdamaged
  · rcases hpending with ⟨area, harea, -⟩ | ⟨area, harea, -⟩ | ⟨hmem, -⟩
    · rw [hdrawn, hdamage] at harea
      cases harea
    · rw [hcaptured] at harea
      cases harea
    · rw [hupdating] at hmem
      cases hmem

end Rest

/-! ## Runs -/

section Runs

variable {limit : Size}

/-- **When nothing is drawn any more and no display event comes, the tasks come to rest, and then
the newest frames cut show the framebuffer on every enabled display whose frame task is not
blocked**, whatever was drawn before and however the displays were changed, in every order of the
tasks' steps. -/
theorem screen_settles (cc : ConnectedComponents) (comp : Compressors) (hsmall : Small limit)
    {extent : Size} (maxEncoderCount : Nat) (scheme : Scheme)
    {displays : List (Display × List Box2D)} (hin : InLimit limit (displays.map Prod.fst))
    (hextent : deriveExtent (displays.map Prod.fst) = some extent)
    (framebuffer : Point → Pixel32) {as : List Act}
    (hG : Machine.Guarded (step limit cc comp) Serves
      (start limit extent maxEncoderCount scheme displays framebuffer) as) :
    Machine.Always (step limit cc comp)
      (Machine.Settles (step limit cc comp) (fun a => a.own = true) Settled)
      (start limit extent maxEncoderCount scheme displays framebuffer) as := by
  have hsinks : Machine.Sinks (step limit cc comp) (fun a => a.own = true) (Served limit) work := by
    refine ⟨fun s a s' h hown hs => served_step hsmall h ?_ hs, fun s a s' h hown hs =>
      work_step h hown hs⟩
    cases a <;> first | exact trivial | cases hown
  have hserved := hG.always (fun s a s' h hserves hs => served_step hsmall h hserves hs)
    (served_start hsmall maxEncoderCount scheme hin hextent framebuffer)
  exact hserved.mono fun s h => hsinks.settles (fun s h hidle => h.settled hsmall hidle) h

end Runs

theorem screen_settles_pair :
    Machine.Always (step ⟨4, 1⟩ oneComponent noCompressors)
      (Machine.Settles (step ⟨4, 1⟩ oneComponent noCompressors) (fun a => a.own = true) Settled)
      pair enableAndDraw :=
  screen_settles oneComponent noCompressors (by decide) 2 .raw (by decide)
    (by decide) _ (by decide +kernel)

end Desktop

end ApertureC
