import ApertureC.ServerDialogue

/-!
# The backends, the stop and the end of a server

(`aperturec-server/src/server.rs`, `main.rs`)

* `startedSince`, `Phase.allowance` — what a stopped server still does.
* `launched`, `Backing` — whose the backends are.
* `Ends` — how the main loop can end.

Principal results: `winds_down` (**a stopped server starts at most one thing more**),
`backends_owned` and `ends_with`.  The process that ends the server need not be the root program: the
server waits on the backend that the last session left (`client_program_ends_server`).
-/

set_option autoImplicit false

namespace ApertureC.ServerLifecycle

open Handshake ServerSession

/-! ## The stop -/

def Entry.isStop : Entry → Bool
  | .stopped => true
  | _ => false

/-- A connection is taken, or told that its session starts. -/
def Entry.starts : Entry → Bool
  | .took _ => true
  | .sent _ (.serverInit _) => true
  | _ => false

/-- How many connections were taken or told that their sessions start since the server was
stopped. -/
def startedSince (log : List Entry) : Nat := (History.since Entry.isStop log).countP Entry.starts

/-- How much a stopped server may have started when it is in this phase. -/
def Phase.allowance : Phase → Nat
  | .created => 0
  | .backendInitialized _ => 0
  | .inactive _ => 0
  | .announcing _ _ _ => 0
  | _ => 1

theorem Phase.allowance_le (p : Phase) : p.allowance ≤ 1 := by
  cases p <;> simp [allowance]

namespace Server

variable {config : Configuration} {verify : String → Bool} {s s' : Server}

structure Winding (s : Server) : Prop where
  stopped : s.cancelled = s.log.any Entry.isStop
  started : s.cancelled = true → startedSince s.log ≤ s.phase.allowance

theorem winding_init : init.Winding := ⟨rfl, fun h => by cases h⟩

/-- A step that is not the stop; `hn`: a stopped server may start what it starts. -/
theorem Winding.goesOn (h : s.Winding) (entries : List Entry) (hlog : s'.log = s.log ++ entries)
    (hstop : entries.any Entry.isStop = false) (hc : s'.cancelled = s.cancelled)
    (hn : s.cancelled = true →
      s.phase.allowance + entries.countP Entry.starts ≤ s'.phase.allowance) : s'.Winding where
  stopped := by rw [hc, h.stopped, hlog, List.any_append, hstop, Bool.or_false]
  started := by
    rw [hc]
    intro hcan
    have hany : s.log.any Entry.isStop = true := by rw [← h.stopped, hcan]
    have hstarted := h.started hcan
    have hmore := hn hcan
    unfold startedSince at hstarted ⊢
    rw [hlog, History.since_append hany, List.countP_append]
    omega

/-- A step that enters nothing. -/
theorem Winding.silently (h : s.Winding) (hlog : s'.log = s.log) (hc : s'.cancelled = s.cancelled)
    (hn : s.cancelled = true → s.phase.allowance ≤ s'.phase.allowance) : s'.Winding :=
  h.goesOn [] (hlog.trans (List.append_nil _).symm) rfl hc hn

/-- Goodbyes neither stop the server nor start anything. -/
theorem goodbye_quiet (conn : Nat) (reason : ServerGoodbyeReason) (delivered : Bool) :
    (goodbye conn reason delivered).any Entry.isStop = false ∧
      (goodbye conn reason delivered).countP Entry.starts = 0 := by
  cases delivered <;> exact ⟨rfl, rfl⟩

theorem written_quiet (conn : Nat) (tasks tasks' : Session) :
    (written conn tasks tasks').any Entry.isStop = false ∧
      (written conn tasks tasks').countP Entry.starts = 0 := by
  constructor
  · rw [written, List.any_map, List.any_eq_false]
    intro reason _ h
    cases h
  · rw [written, List.countP_map, List.countP_eq_zero]
    intro reason _ h
    cases h

theorem launch_append (s : Server) (conn : Nat) (launched : Bool) :
    ∃ entries, (s.launch conn launched).log = s.log ++ entries ∧
      entries.any Entry.isStop = false ∧ entries.countP Entry.starts = 0 := by
  refine ⟨_, launch_log s conn launched, ?_⟩
  cases launched <;> exact ⟨rfl, rfl⟩

/-- **Every step of a stopped server keeps to its allowance.** -/
theorem effect_winding (h : Effect config verify s s') (hw : s.Winding) : s'.Winding := by
  cases h with
  | stops hx hcan =>
    have hnone : s.log.any Entry.isStop = false := by rw [← hw.stopped, hcan]
    have hlog : s.stop.log = s.log ++ [.stopped] := rfl
    refine ⟨?_, fun _ => ?_⟩
    · rw [hlog, List.any_append, hnone]
      rfl
    · have hzero : startedSince s.stop.log = 0 := by
        rw [hlog, startedSince, History.since_append_first hnone rfl]
        rfl
      omega
  | processExits backend status hb hp =>
    exact hw.silently rfl rfl fun _ => Nat.le_refl _
  | initializes hp =>
    exact hw.silently rfl rfl fun _ => by
      simp [hp, Phase.allowance]
  | listens root hp hcan =>
    refine hw.silently rfl rfl fun hc => ?_
    rw [hcan] at hc
    cases hc
  | exitsEarly hp e he hcan =>
    refine hw.silently rfl rfl fun _ => ?_
    exact s.phase.allowance_le
  | idles => exact hw
  | accepts hs hl =>
    exact hw.silently rfl rfl fun _ => Nat.le_refl _
  | drops conn hs hl =>
    exact hw.silently rfl rfl fun _ => Nat.le_refl _
  | rejects conn ci hs hl hv =>
    exact hw.silently rfl rfl fun _ => Nat.le_refl _
  | refuses conn delivered hs hl =>
    obtain ⟨hany, hcount⟩ := goodbye_quiet conn .authenticationFailure delivered
    refine hw.goesOn _ rfl hany rfl fun _ => ?_
    rw [hcount]
    exact Nat.le_refl _
  | yields conn root ci hs hl hv hp =>
    refine hw.goesOn _ (List.append_assoc _ _ _) rfl rfl fun _ => ?_
    simp [hp, Phase.allowance, Entry.starts]
  | peeks conn ci backend current tasks hs hl hv hp =>
    refine hw.goesOn _ rfl rfl rfl fun _ => ?_
    simp [hp, Phase.allowance, Entry.starts]
  | closes backend current tasks hs hl hp =>
    refine hw.silently rfl rfl fun _ => ?_
    simp [hp, Phase.allowance]
  | interrupts root hp listening hl =>
    refine hw.silently rfl rfl fun _ => ?_
    exact s.phase.allowance_le
  | takes root session hp hs =>
    refine hw.goesOn _ rfl rfl rfl fun _ => ?_
    simp [hp, Phase.allowance, Entry.starts]
  | turnsAway root session ans hp launched farewell hans =>
    obtain ⟨entries, hlog, hany, hcount⟩ := launch_append s session.conn launched
    have hfarewell : farewell.any Entry.isStop = false ∧ farewell.countP Entry.starts = 0 := by
      rcases hans with ⟨reason, delivered, -, rfl⟩ | ⟨-, rfl⟩
      · exact goodbye_quiet _ _ _
      · exact ⟨rfl, rfl⟩
    refine hw.goesOn (entries ++ farewell) ?_ ?_ ?_ fun _ => ?_
    · show (s.launch session.conn launched).log ++ farewell = _
      rw [hlog, List.append_assoc]
    · rw [List.any_append, hany, hfarewell.1]
      rfl
    · cases launched <;> rfl
    · rw [List.countP_append, hcount, hfarewell.2]
      exact s.phase.allowance_le
  | prepares root session ans hp launched plan hans =>
    obtain ⟨entries, hlog, hany, hcount⟩ := launch_append s session.conn launched
    refine hw.goesOn entries hlog hany ?_ fun _ => ?_
    · cases launched <;> rfl
    · rw [hcount]
      exact s.phase.allowance_le
  | shutsDown backend session plan delivered hp hcan =>
    obtain ⟨hany, hcount⟩ := goodbye_quiet session.conn .shuttingDown delivered
    refine hw.goesOn _ rfl hany rfl fun _ => ?_
    rw [hcount]
    exact s.phase.allowance_le
  | checks backend session plan hp hcan =>
    refine hw.silently rfl rfl fun hc => ?_
    rw [hcan] at hc
    cases hc
  | breaksOff backend session plan sent hp =>
    refine hw.goesOn _ rfl ?_ rfl fun _ => ?_
    · cases sent <;> rfl
    · cases sent <;> simp [hp, Phase.allowance, recover, Entry.starts]
  | activates backend session plan hp =>
    refine hw.goesOn _ (List.append_assoc _ _ _) rfl rfl fun _ => ?_
    rw [hp]
    exact Nat.le_refl 1
  | misfires backend session plan hp =>
    refine hw.goesOn _ rfl rfl rfl fun _ => ?_
    rw [hp]
    exact Nat.le_refl 1
  | starts backend session plan hp =>
    refine hw.silently rfl rfl fun _ => ?_
    simp [hp, Phase.allowance]
  | serves backend session tasks tasks' a hp ha ht =>
    obtain ⟨hany, hcount⟩ := written_quiet session.conn tasks tasks'
    refine hw.goesOn _ rfl hany rfl fun _ => ?_
    rw [hcount]
    exact s.phase.allowance_le
  | leaves backend session tasks hp hpc =>
    refine hw.goesOn _ rfl rfl rfl fun _ => ?_
    simp [hp, Phase.allowance, Entry.starts]
  | resumes backend hp hcan hwait =>
    refine hw.silently rfl rfl fun hc => ?_
    rw [hcan] at hc
    cases hc
  | exits backend result hp hr =>
    refine hw.silently rfl rfl fun _ => ?_
    exact s.phase.allowance_le

end Server

/-- Since it was stopped, the server has taken one more connection, or told one more that its session
starts, or neither. -/
structure WindsDown (s : Server) : Prop where
  stopped : s.cancelled = s.log.any Entry.isStop
  started : s.cancelled = true → startedSince s.log ≤ 1

/-- **A stopped server starts at most one thing more**, in every run: the connection that it was
about to take, or the session that it was about to announce. -/
theorem winds_down (config : Configuration) (verify : String → Bool) (acts : List Act) :
    Machine.Always (Server.step config verify) WindsDown Server.init acts := by
  have hinv : Machine.Always (Server.step config verify) (fun s => s.Winding) Server.init acts :=
    Machine.always_of_invariant
      (fun _ _ _ hw hs => Server.effect_winding (Server.step_effect hs) hw) acts Server.winding_init
  exact hinv.mono fun s h => ⟨h.stopped, fun hc => (h.started hc).trans s.phase.allowance_le⟩

/-! ## The backends -/

@[simp] def Entry.launched? : Entry → Option (Nat × Nat)
  | .launched conn backend => some (conn, backend)
  | _ => none

/-- The connections whose programs were launched, with their backends. -/
def launched (log : List Entry) : List (Nat × Nat) := log.filterMap Entry.launched?

@[simp] theorem silent_launched : Silent Entry.launched? := fun _ _ => rfl

/-- The backend of the root program, once there is one. -/
@[simp] def Phase.root : Phase → Option Nat
  | .backendInitialized root => some root
  | .inactive root => some root
  | .preparing root _ => some root
  | .checking backend _ _ => some backend.root
  | .announcing backend _ _ => some backend.root
  | .activated backend _ _ => some backend.root
  | .active backend _ _ => some backend.root
  | .terminated (some backend) => some backend.root
  | _ => none

/-- The backend that a client asked for. -/
@[simp] def Phase.clientSpecified : Phase → Option Nat
  | .checking backend _ _ => backend.clientSpecified
  | .announcing backend _ _ => backend.clientSpecified
  | .activated backend _ _ => backend.clientSpecified
  | .active backend _ _ => backend.clientSpecified
  | .terminated (some backend) => backend.clientSpecified
  | _ => none

/-- The program of the connection that was taken last. -/
def LaunchedLast (log : List Entry) (backend : Nat) : Prop :=
  ∃ conn, (taken log).getLast? = some conn ∧ (conn, backend) ∈ launched log

/-- What the ownership of backends depends on. -/
structure Backing where
  launched : List (Nat × Nat)
  taken : List Nat
  authenticated : List AuthenticatedSession
  backends : Nat
  created : Bool
  root : Option Nat
  clientSpecified : Option Nat
  preparing : Option AuthenticatedSession

@[simp] def Phase.isCreated : Phase → Bool
  | .created => true
  | _ => false

@[simp] def Phase.preparing? : Phase → Option AuthenticatedSession
  | .preparing _ session => some session
  | _ => none

def Server.backing (s : Server) : Backing where
  launched := s.log.filterMap Entry.launched?
  taken := s.log.filterMap Entry.took?
  authenticated := s.log.filterMap Entry.session?
  backends := s.backends
  created := s.phase.isCreated
  root := s.phase.root
  clientSpecified := s.phase.clientSpecified
  preparing := s.phase.preparing?

namespace Backing

/-- The root backend is the first one, and the others were launched for clients: for one that is
being prepared at most one each, when it asked for a program and the server allows it.  What stands
in for the root backend is the program of the connection that was taken last. -/
structure Owned (config : Configuration) (v : Backing) : Prop where
  created : v.created = true → v.backends = 0
  root : ∀ root, v.root = some root → root = 0 ∧ v.backends ≠ 0
  ids : v.launched.map Prod.snd = List.range' 1 (v.backends - 1)
  once : ∃ earlier, v.taken = earlier ++ conns v.preparing ∧ (v.launched.map Prod.fst).Sublist earlier
  asked : ∀ p ∈ v.launched, ∃ session ∈ v.authenticated, session.conn = p.1 ∧
    session.clientInit.clientSpecifiedProgramCmdline ≠ "" ∧ config.allowClientExec = true
  own : ∀ backend, v.clientSpecified = some backend →
    ∃ conn, v.taken.getLast? = some conn ∧ (conn, backend) ∈ v.launched

variable {config : Configuration} {v : Backing}

/-- The phase keeps the root backend at most. -/
theorem Owned.dismisses (h : v.Owned config) {root : Option Nat}
    (hroot : ∀ r, root = some r → v.root = some r) :
    Owned config { v with
      created := false
      root := root
      clientSpecified := none
      preparing := none } where
  created := fun hc => by cases hc
  root := fun r hr => h.root r (hroot r hr)
  ids := h.ids
  once := by
    obtain ⟨earlier, htaken, hsub⟩ := h.once
    refine ⟨v.taken, (List.append_nil _).symm, ?_⟩
    rw [htaken]
    exact hsub.trans (List.sublist_append_left _ _)
  asked := h.asked
  own := fun b hb => by cases hb

/-- The root backend is initialised. -/
theorem Owned.initializes (h : v.Owned config) (hc : v.created = true) :
    Owned config { v with
      created := false
      root := some v.backends
      backends := v.backends + 1 } where
  created := fun hf => by cases hf
  root := by
    intro r hr
    cases hr
    exact ⟨h.created hc, Nat.succ_ne_zero _⟩
  ids := by
    have hids := h.ids
    rw [h.created hc] at hids ⊢
    exact hids
  once := h.once
  asked := h.asked
  own := h.own

/-- A session is authenticated. -/
theorem Owned.authenticates (h : v.Owned config) (session : AuthenticatedSession) :
    Owned config { v with authenticated := v.authenticated ++ [session] } where
  created := h.created
  root := h.root
  ids := h.ids
  once := h.once
  asked := by
    intro p hp
    obtain ⟨owner, hmem, hasked⟩ := h.asked p hp
    exact ⟨owner, List.mem_append_left _ hmem, hasked⟩
  own := h.own

/-- A session is taken, and prepared next. -/
theorem Owned.takes (h : v.Owned config) (session : AuthenticatedSession)
    (hclient : v.clientSpecified = none) (hprep : v.preparing = none) :
    Owned config { v with
      taken := v.taken ++ [session.conn]
      preparing := some session } where
  created := h.created
  root := h.root
  ids := h.ids
  once := by
    obtain ⟨earlier, htaken, hsub⟩ := h.once
    rw [hprep, conns_none, List.append_nil] at htaken
    exact ⟨v.taken, rfl, by rw [htaken]; exact hsub⟩
  asked := h.asked
  own := by
    intro b hb
    change v.clientSpecified = some b at hb
    rw [hclient] at hb
    cases hb

/-- The program of the session that is being prepared is launched. -/
theorem Owned.launches (h : v.Owned config) {session : AuthenticatedSession}
    (hprep : v.preparing = some session) (hmem : session ∈ v.authenticated)
    (hroot : v.root.isSome = true)
    (hasked : session.clientInit.clientSpecifiedProgramCmdline ≠ "" ∧
      config.allowClientExec = true) :
    Owned config { v with
      launched := v.launched ++ [(session.conn, v.backends)]
      backends := v.backends + 1
      clientSpecified := some v.backends
      preparing := none } where
  created := by
    intro hc
    obtain ⟨r, hr⟩ := Option.isSome_iff_exists.mp hroot
    exact absurd (h.created hc) (h.root r hr).2
  root := fun r hr => ⟨(h.root r hr).1, Nat.succ_ne_zero _⟩
  ids := by
    obtain ⟨r, hr⟩ := Option.isSome_iff_exists.mp hroot
    have hne := (h.root r hr).2
    show (v.launched ++ [(session.conn, v.backends)]).map Prod.snd =
      List.range' 1 (v.backends + 1 - 1)
    obtain ⟨n, hn⟩ : ∃ n, v.backends = n + 1 := ⟨v.backends - 1, by omega⟩
    rw [List.map_append, h.ids, hn, Nat.add_sub_cancel, Nat.add_sub_cancel, List.range'_concat]
    simp [Nat.add_comm]
  once := by
    obtain ⟨earlier, htaken, hsub⟩ := h.once
    rw [hprep, conns_some] at htaken
    refine ⟨v.taken, (List.append_nil _).symm, ?_⟩
    rw [htaken, List.map_append]
    exact hsub.append (List.Sublist.refl _)
  asked := by
    intro p hp
    rcases List.mem_append.mp hp with hp | hp
    · exact h.asked p hp
    · rw [List.mem_singleton.mp hp]
      exact ⟨session, hmem, rfl, hasked⟩
  own := by
    intro b hb
    cases hb
    obtain ⟨earlier, htaken, -⟩ := h.once
    rw [hprep, conns_some] at htaken
    refine ⟨session.conn, ?_, List.mem_append_right _ (List.mem_singleton.mpr rfl)⟩
    show v.taken.getLast? = some session.conn
    rw [htaken, List.getLast?_concat]

end Backing

namespace Server

variable {config : Configuration} {verify : String → Bool} {s s' : Server}

theorem owned_of_eq {v v' : Backing} (h : v.Owned config) (heq : v' = v) : v'.Owned config :=
  heq ▸ h

theorem owned_init : init.backing.Owned config where
  created := fun _ => rfl
  root := fun _ hr => by cases hr
  ids := rfl
  once := ⟨[], rfl, List.Sublist.refl _⟩
  asked := fun _ hp => by cases hp
  own := fun _ hb => by cases hb

/-- The program of the session being prepared is launched, if it is. -/
theorem owned_launch (ho : s.backing.Owned config) {session : AuthenticatedSession} {root : Nat}
    (hp : s.phase = .preparing root session) (hmem : session ∈ authenticated s.log)
    {launched : Bool} (hasked : launched = true →
      session.clientInit.clientSpecifiedProgramCmdline ≠ "" ∧ config.allowClientExec = true) :
    Backing.Owned config { s.backing with
      launched := s.backing.launched ++ if launched then [(session.conn, s.backends)] else []
      backends := s.backends + launched.toNat
      clientSpecified := if launched then some s.backends else none
      preparing := none } := by
  have hprep : s.backing.preparing = some session := by simp [backing, hp]
  have hroot : s.backing.root = some root := by simp [backing, hp]
  cases launched with
  | true =>
    exact ho.launches hprep hmem (by rw [hroot]; rfl) (hasked rfl)
  | false =>
    refine owned_of_eq (ho.dismisses fun _ => id) ?_
    simp [backing, hp]

/-- **Every step keeps the backends with those they belong to.** -/
theorem effect_owned (h : Effect config verify s s') (hv : s.view.Order)
    (ho : s.backing.Owned config) : s'.backing.Owned config := by
  cases h with
  | stops hx hc =>
    refine owned_of_eq ho ?_
    cases hp : s.phase <;> simp [backing, stop, hp]
  | processExits backend status hb hp => exact ho
  | initializes hp =>
    refine owned_of_eq (ho.initializes (by simp [backing, hp])) ?_
    simp [backing, hp]
  | listens root hp hc => exact owned_of_eq ho (by simp [backing, hp])
  | exitsEarly hp e he hc =>
    exact ho.dismisses fun r hr => by cases hr
  | idles => exact ho
  | accepts hs hl => exact ho
  | drops conn hs hl => exact ho
  | rejects conn ci hs hl hv => exact ho
  | refuses conn delivered hs hl => exact owned_of_eq ho (by simp [backing, setListening])
  | yields conn root ci hs hl hv hp =>
    refine owned_of_eq ((ho.authenticates ⟨conn, ci⟩).takes ⟨conn, ci⟩ ?_ ?_) ?_
    · simp [backing, hp]
    · simp [backing, hp]
    · simp [backing, setListening, hp, List.filterMap_cons]
  | peeks conn ci backend current tasks hs hl hv hp =>
    refine owned_of_eq (ho.authenticates ⟨conn, ci⟩) ?_
    simp [backing, hp]
  | closes backend current tasks hs hl hp =>
    exact owned_of_eq ho (by simp [backing, setListening, hp])
  | interrupts root hp listening hl =>
    refine owned_of_eq ho ?_
    simp [backing, recover, setListening, SwapableBackend.new, hp]
  | takes root session hp hs =>
    refine owned_of_eq (ho.takes session ?_ ?_) ?_
    · simp [backing, hp]
    · simp [backing, hp]
    · simp [backing, hp]
  | turnsAway root session ans hp launched farewell hans =>
    have hw : s.phase.waiting = some session := by rw [hp]; rfl
    have hasked : launched = true → session.clientInit.clientSpecifiedProgramCmdline ≠ "" ∧
        config.allowClientExec = true := by
      rintro rfl
      rcases hans with ⟨reason, delivered, hans, -⟩ | ⟨hans, -⟩
      · exact prepare_launched (Or.inl ⟨reason, hans⟩)
      · exact prepare_launched (Or.inr (Or.inl hans))
    have hlaunch := owned_launch ho hp (hv.known session (Or.inr (Or.inl hw))) hasked
    have hroot : s.backing.root = some root := by simp [backing, hp]
    have hmoves := hlaunch.dismisses fun r (hr : some root = some r) => hroot.trans hr
    have hsilent : ∀ {α : Type} {f : Entry → Option α}, Silent f → farewell.filterMap f = [] := by
      intro α f hf
      rcases hans with ⟨reason, delivered, -, rfl⟩ | ⟨-, rfl⟩
      · exact hf.goodbye _ _ _
      · rfl
    refine owned_of_eq hmoves ?_
    cases launched <;>
      simp [backing, launch, recover, SwapableBackend.new, hsilent, List.filterMap_cons]
  | prepares root session ans hp launched plan hans =>
    have hw : s.phase.waiting = some session := by rw [hp]; rfl
    have hasked : launched = true → session.clientInit.clientSpecifiedProgramCmdline ≠ "" ∧
        config.allowClientExec = true := by
      rintro rfl
      exact prepare_launched (Or.inr (Or.inr ⟨plan, hans⟩))
    refine owned_of_eq (owned_launch ho hp (hv.known session (Or.inr (Or.inl hw))) hasked) ?_
    cases launched <;> simp [backing, launch, hp]
  | shutsDown backend session plan delivered hp hc =>
    have hroot : s.backing.root = some backend.root := by simp [backing, hp]
    have hmoves := ho.dismisses fun r (hr : some backend.root = some r) => hroot.trans hr
    refine owned_of_eq hmoves ?_
    simp [backing, recover, SwapableBackend.new]
  | checks backend session plan hp hc => exact owned_of_eq ho (by simp [backing, hp])
  | breaksOff backend session plan sent hp =>
    have hroot : s.backing.root = some backend.root := by simp [backing, hp]
    have hmoves := ho.dismisses fun r (hr : some backend.root = some r) => hroot.trans hr
    refine owned_of_eq hmoves ?_
    cases sent <;> simp [backing, recover, SwapableBackend.new]
  | activates backend session plan hp =>
    exact owned_of_eq ho (by simp [backing, hp, List.filterMap_cons])
  | misfires backend session plan hp => exact owned_of_eq ho (by simp [backing, hp])
  | starts backend session plan hp => exact owned_of_eq ho (by simp [backing, hp])
  | serves backend session tasks tasks' a hp ha ht => exact owned_of_eq ho (by simp [backing, hp])
  | leaves backend session tasks hp hpc =>
    have hout : backendOut backend tasks.loop.backendResult = some backend ∨
        backendOut backend tasks.loop.backendResult = none := by
      cases hr : tasks.loop.backendResult with
      | none => exact Or.inr rfl
      | some result => cases result <;> simp [backendOut]
    rcases hout with hout | hout
    · exact owned_of_eq ho (by simp [backing, hp, hout])
    · have hmoves := ho.dismisses fun r (hr : none = some r) => by cases hr
      exact owned_of_eq hmoves (by simp [backing, hout])
  | resumes backend hp hc hw =>
    have hroot : s.backing.root = some backend.root := by simp [backing, hp]
    have hmoves := ho.dismisses fun r (hr : some backend.root = some r) => hroot.trans hr
    exact owned_of_eq hmoves (by simp [backing])
  | exits backend result hp hr =>
    have hmoves := ho.dismisses fun r (hr : none = some r) => by cases hr
    exact owned_of_eq hmoves (by simp [backing])

end Server

/-- The root backend is the first one.  The others were launched for clients that asked for a program
and were allowed to, at most one for each connection that was taken; and what stands in for the root
backend is the program of the connection that was taken last. -/
structure BackendsOwned (config : Configuration) (s : Server) : Prop where
  root : ∀ root, s.phase.root = some root → root = 0
  ids : (launched s.log).map Prod.snd = List.range' 1 (launched s.log).length
  distinct : (taken s.log).Nodup
  once : ((launched s.log).map Prod.fst).Sublist (taken s.log)
  asked : ∀ p ∈ launched s.log, ∃ session ∈ authenticated s.log, session.conn = p.1 ∧
    session.clientInit.clientSpecifiedProgramCmdline ≠ "" ∧ config.allowClientExec = true
  own : ∀ backend, s.phase.clientSpecified = some backend → LaunchedLast s.log backend

theorem Backing.Owned.backendsOwned {config : Configuration} {s : Server}
    (h : s.backing.Owned config) (hv : s.view.Order) : BackendsOwned config s where
  root := fun root hr => (h.root root hr).1
  distinct := by
    have hpair := (List.pairwise_append.mp hv.increasing).1
    rw [hv.queue] at hpair
    exact (List.pairwise_append.mp hpair).1.imp Nat.ne_of_lt
  ids := by
    have hids : (ServerLifecycle.launched s.log).map Prod.snd = List.range' 1 (s.backends - 1) := h.ids
    have hlen : (ServerLifecycle.launched s.log).length = s.backends - 1 := by
      rw [← List.length_map (f := Prod.snd), hids, List.length_range']
    rw [hids, hlen]
  once := by
    obtain ⟨earlier, htaken, hsub⟩ := h.once
    change ServerLifecycle.taken s.log = _ at htaken
    rw [htaken]
    exact hsub.trans (List.sublist_append_left _ _)
  asked := h.asked
  own := h.own

/-- **The backends are with those they belong to** at every moment of every run. -/
theorem backends_owned (config : Configuration) (verify : String → Bool) (acts : List Act) :
    Machine.Always (Server.step config verify) (BackendsOwned config) Server.init acts := by
  have hinv : Machine.Always (Server.step config verify)
      (fun s => s.view.Order ∧ s.backing.Owned config) Server.init acts := by
    refine Machine.always_of_invariant (fun s a s' hi hs => ?_) acts
      ⟨Server.order_init, Server.owned_init⟩
    have heffect := Server.step_effect hs
    exact ⟨Server.effect_order heffect hi.1, Server.effect_owned heffect hi.1 hi.2⟩
  exact hinv.mono fun _ h => h.2.backendsOwned h.1

/-! ## The end -/

/-- The backend that the server waits on: that of the root program, or of the client whose session
was the last. -/
def Current (s : Server) (backend : Nat) : Prop := backend = 0 ∨ LaunchedLast s.log backend

/-- How the main loop can end. -/
def Ends (s : Server) : Except MainError Unit → Prop
  | .ok () => s.cancelled = true ∨ ∃ backend, Current s backend ∧
      s.processes backend = some .success
  | .error .serverStopped => s.cancelled = true ∧ taken s.log = []
  | .error .initialization => taken s.log = []
  | .error .listen => taken s.log = []
  | .error .backendUnrecoverable => s.cancelled = false ∧ activated s.log ≠ []
  | .error (.rootProcess .failed) => s.cancelled = false
  | .error (.rootProcess (.exited .failure)) => s.cancelled = false ∧ ∃ backend,
      Current s backend ∧ s.processes backend = some .failure
  | .error (.rootProcess (.exited .success)) => False

namespace Server

variable {config : Configuration} {verify : String → Bool} {s s' : Server}

/-- The result of `main` when the main task ends; it panics with the error of the task unless the server
was told to stop before. -/
def mainResult (s : Server) : Option (Except MainError Unit) :=
  match s.phase with
  | .exited (.error e) => some (if s.cancelled then .ok () else .error e)
  | .exited (.ok ()) => some (.ok ())
  | _ => none

/-- How a server comes to its end. -/
def Ending (s : Server) : Phase → Prop
  | .created => taken s.log = []
  | .backendInitialized _ => taken s.log = []
  | .terminated none => activated s.log ≠ []
  | .exited result => Ends s result
  | _ => True

theorem ending_of_polls (h : s.pollsStream = true) (hphase : s'.phase = s.phase) :
    s'.Ending s'.phase := by
  have hpeeked := pollsStream_peeked h
  rw [hphase]
  rw [pollsStream, hpeeked] at h
  cases hp : s.phase <;> rw [hp] at h <;> first | exact trivial | cases h

/-- The exit of a process does not change what has been found. -/
theorem ends_processExits {backend : Nat} {status : ExitStatus} (hb : s.processes backend = none)
    {result : Except MainError Unit} (h : Ends s result) :
    Ends { s with processes := Function.update s.processes backend (some status) } result := by
  have hkept : ∀ b st, s.processes b = some st →
      Function.update s.processes backend (some status) b = some st := by
    intro b st hst
    rw [Function.update_of_ne, hst]
    rintro rfl
    rw [hb] at hst
    cases hst
  cases result with
  | ok u =>
    rcases h with hc | ⟨b, hcurrent, hst⟩
    · exact Or.inl hc
    · exact Or.inr ⟨b, hcurrent, hkept b _ hst⟩
  | error e =>
    cases e with
    | rootProcess result =>
      cases result with
      | failed => exact h
      | exited exit =>
        cases exit with
        | success => exact h
        | failure =>
          obtain ⟨hc, b, hcurrent, hst⟩ := h
          exact ⟨hc, b, hcurrent, hkept b _ hst⟩
    | _ => exact h

/-- The backend that `deref` chooses. -/
theorem current_deref (ho : s.backing.Owned config) {backend : SwapableBackend Nat}
    (hp : s.phase = .terminated (some backend)) : Current s backend.deref := by
  unfold SwapableBackend.deref
  cases hc : backend.clientSpecified with
  | none => exact Or.inl (ho.root _ (by simp [backing, hp])).1
  | some b => exact Or.inr (ho.own b (by simp [backing, hp, hc]))

/-- **Every step that ends the server ends it so.** -/
theorem effect_ending (h : Effect config verify s s') (hv : s.view.Order)
    (ho : s.backing.Owned config) (he : s.Ending s.phase) : s'.Ending s'.phase := by
  cases h with
  | stops hx hc =>
    cases hp : s.phase with
    | exited result => exact absurd hp (hx result)
    | created =>
      rw [hp] at he
      have hphase : s.stop.phase = .created := by simp [stop, hp]
      rw [hphase]
      show taken (s.log ++ [.stopped]) = []
      rw [taken, List.filterMap_append, ← taken, he]
      rfl
    | backendInitialized root =>
      rw [hp] at he
      have hphase : s.stop.phase = .backendInitialized root := by simp [stop, hp]
      rw [hphase]
      show taken (s.log ++ [.stopped]) = []
      rw [taken, List.filterMap_append, ← taken, he]
      rfl
    | terminated backend =>
      rw [hp] at he
      have hphase : s.stop.phase = .terminated backend := by simp [stop, hp]
      rw [hphase]
      cases backend with
      | some backend => exact trivial
      | none =>
        show activated (s.log ++ [.stopped]) ≠ []
        rw [activated, List.filterMap_append]
        exact List.append_ne_nil_of_left_ne_nil he _
    | active backend session tasks =>
      have hphase : s.stop.phase = .active backend session { tasks with stopped := true } := by
        simp [stop, hp]
      rw [hphase]
      exact trivial
    | _ =>
      have hphase : s.stop.phase = s.phase := by simp [stop, hp]
      rw [hphase, hp]
      exact trivial
  | processExits backend status hb hpr =>
    show Ending _ s.phase
    cases hp : s.phase with
    | exited result =>
      rw [hp] at he
      exact ends_processExits hpr he
    | created =>
      rw [hp] at he
      exact he
    | backendInitialized root =>
      rw [hp] at he
      exact he
    | terminated backend =>
      rw [hp] at he
      cases backend with
      | some backend => exact trivial
      | none => exact he
    | _ => exact trivial
  | initializes hp =>
    rw [hp] at he
    exact he
  | exitsEarly hp e hkind hc =>
    have htaken : taken s.log = [] := by
      rcases hp with hp | ⟨root, hp⟩ <;> rw [hp] at he <;> exact he
    rcases hkind with rfl | rfl | rfl
    · exact ⟨hc rfl, htaken⟩
    · exact htaken
    · exact htaken
  | idles => exact he
  | accepts hs hl => exact ending_of_polls hs rfl
  | drops conn hs hl => exact ending_of_polls hs rfl
  | rejects conn ci hs hl hv => exact ending_of_polls hs rfl
  | refuses conn delivered hs hl => exact ending_of_polls hs rfl
  | leaves backend session tasks hp hpc =>
    cases hout : backendOut backend tasks.loop.backendResult with
    | some backend => exact trivial
    | none =>
      show activated (s.log ++ [.ended session.conn]) ≠ []
      have hserving : s.view.serving = some session := by simp [view_eq, hp]
      have hlast := hv.serving
      rw [hserving, conns_some] at hlast
      rw [activated, List.filterMap_append]
      refine List.append_ne_nil_of_left_ne_nil (fun hnil => ?_) _
      change s.view.activated = [] at hnil
      rw [hnil] at hlast
      simp at hlast
  | exits backend result hp hr =>
    show Ends _ result
    cases result with
    | ok u =>
      rcases hr with hc | ⟨b, rfl, hst⟩
      · exact Or.inl hc
      · exact Or.inr ⟨b.deref, current_deref ho hp, hst⟩
    | error e =>
      cases e with
      | backendUnrecoverable =>
        obtain ⟨hc, rfl⟩ := hr
        rw [hp] at he
        exact ⟨hc, he⟩
      | rootProcess result =>
        cases result with
        | failed => exact hr.1
        | exited status =>
          cases status with
          | success => exact hr.elim
          | failure =>
            obtain ⟨hc, b, rfl, hst⟩ := hr
            exact ⟨hc, b.deref, current_deref ho hp, hst⟩
      | _ => exact hr.elim
  | _ => exact trivial

end Server

/-- A server that ended did so for a reason: it was stopped, or the process it waited on had ended,
or could not be waited for, or the backend of a session was lost, or it had never served; and `main`
panics only if it was not told to stop before. -/
structure EndsWith (s : Server) : Prop where
  result : ∀ result, s.phase = .exited result → Ends s result
  panics : ∀ e, s.mainResult = some (.error e) → s.cancelled = false ∧ e ≠ .serverStopped

/-- **How the server ends**, in every run. -/
theorem ends_with (config : Configuration) (verify : String → Bool) (acts : List Act) :
    Machine.Always (Server.step config verify) EndsWith Server.init acts := by
  have hinv : Machine.Always (Server.step config verify)
      (fun s => s.view.Order ∧ s.backing.Owned config ∧ s.Ending s.phase) Server.init acts := by
    refine Machine.always_of_invariant (fun s a s' hi hs => ?_) acts
      ⟨Server.order_init, Server.owned_init, rfl⟩
    obtain ⟨hv, ho, he⟩ := hi
    have heffect := Server.step_effect hs
    exact ⟨Server.effect_order heffect hv, Server.effect_owned heffect hv ho,
      Server.effect_ending heffect hv ho he⟩
  refine hinv.mono fun s h => ?_
  obtain ⟨-, -, he⟩ := h
  have hends : ∀ result, s.phase = .exited result → Ends s result := by
    intro result hp
    rw [hp] at he
    exact he
  refine ⟨hends, fun e hmain => ?_⟩
  unfold Server.mainResult at hmain
  split at hmain
  · rename_i e' hp
    cases hc : s.cancelled with
    | true =>
      rw [hc] at hmain
      cases hmain
    | false =>
      rw [hc] at hmain
      cases hmain
      refine ⟨rfl, ?_⟩
      rintro rfl
      have hstopped := (hends _ hp).1
      rw [hc] at hstopped
      cases hstopped
  · cases hmain
  · cases hmain

/-- A client is authenticated and its program launched; its session does not start, and the program
exits. -/
def programRun : List Act :=
  [.initialization true, .listen true, .stream .accept,
    .stream (.receive (.clientInit
      ⟨"", some [⟨some (.fromRect ⟨⟨0, 0⟩, ⟨8, 6⟩⟩), true⟩], none, 1, "program", 0, false, false, false,
        ∅⟩)),
    .prepare ⟨fun _ _ _ => .error "", fun _ => true, fun displays => .ok ⟨false, displays⟩,
      fun _ _ _ => true⟩ true,
    .check true, .announce true true, .start false, .processExits 1 .success, .resume false]

/-- The server ends well with the program of a client, although nobody stopped it and its root
program runs. -/
theorem client_program_ends_server :
    ∃ s, Machine.run (Server.step ⟨"", true, none⟩ fun _ => true) Server.init programRun = some s ∧
      s.phase = .exited (.ok ()) ∧ s.cancelled = false ∧ s.processes 0 = none :=
  ⟨_, rfl, rfl, rfl, rfl⟩

end ApertureC.ServerLifecycle
