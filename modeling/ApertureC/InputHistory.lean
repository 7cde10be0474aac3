import ApertureC.Lib.Machine
import ApertureC.XInput

/-!
# Input over the sessions of a server

What is down on the X server after any sequence of events, lock settings and resets, however they
end.

* `Act`, `step` — the operations of the backend, each noted with its outcome.
* `toldKey`, `toldButton` — what a history tells of a key and of a button.
* `clientKey`, `clientButton`, `clientTarget` — what a client holds down, and where its pointer is.

Principal results: `history_tells` (**what a history tells is so**, in every state of every run),
`session_input` (a session that begins well shows the X server what its client holds) and
`setLockState_mask` (a session begins with the locks that its client asked for).
-/

set_option autoImplicit false

namespace ApertureC.XInput

open Geometry

/-! ## Histories -/

/-- An operation of the backend that is about input. -/
inductive Act where
  | event (event : Event)
  | lock (traced : Bool) (lockState : LockState)
  | reset
  deriving DecidableEq, Repr

section Histories

variable {σ : Type} (x : XServer σ)

def operate (a : Act) (s : σ) : Outcome × σ :=
  match a with
  | .event event => notifyEvent x event s
  | .lock traced lockState => setLockState x traced lockState s
  | .reset => resetSessionState x s

/-- An operation, and the note of how it ended. -/
def step (t : σ × List (Act × Outcome)) (a : Act) : Option (σ × List (Act × Outcome)) :=
  some ((operate x a t.1).2, t.2 ++ [(a, (operate x a t.1).1)])

/-- What is told of a key when `known` was told before: a reset or a lock that goes wrong may leave
a key either way. -/
def toldKey (k : Nat) (known : Option Bool) : Act × Outcome → Option Bool
  | (.event (.key key isDepressed), .ok) =>
    if asU8 key = k ∧ InRange x k then some isDepressed else known
  | (.event _, _) => known
  | (.lock _ _, .ok) => if known = some false then known else none
  | (.lock _ _, _) => none
  | (.reset, .ok) => some false
  | (.reset, _) => if known = some false then known else none

/-- What is told of a button: resets and locks do not touch it, and a pointer event that goes wrong
may leave the buttons it names either way. -/
def toldButton (b : Nat) (known : Option Bool) : Act × Outcome → Option Bool
  | (.event (.pointer _ buttonStates _), outcome) =>
    if ∀ bs ∈ buttonStates, buttonDetail bs.1 ≠ some b then known
    else if outcome = .ok then some (lastState b false buttonStates)
    else none
  | _ => known

theorem lastState_cons (b : Nat) (down : Bool) (bs : WireButton × Bool)
    (buttonStates : List (WireButton × Bool)) :
    lastState b down (bs :: buttonStates) =
      lastState b (if buttonDetail bs.1 = some b then bs.2 else down) buttonStates := rfl

/-- The last word on a button that is mentioned does not depend on how it was. -/
theorem lastState_congr {b : Nat} {buttonStates : List (WireButton × Bool)}
    (h : ¬ ∀ bs ∈ buttonStates, buttonDetail bs.1 ≠ some b) (down down' : Bool) :
    lastState b down buttonStates = lastState b down' buttonStates := by
  induction buttonStates generalizing down down' with
  | nil => simp at h
  | cons bs buttonStates ih =>
    rw [lastState_cons, lastState_cons]
    by_cases hbs : buttonDetail bs.1 = some b
    · rw [if_pos hbs, if_pos hbs]
    · rw [if_neg hbs, if_neg hbs]
      exact ih (fun hrest => h (List.forall_mem_cons.mpr ⟨hbs, hrest⟩)) down down'

/-- One operation: what it tells of a key is so. -/
theorem keys_operate (a : Act) (s : σ) (k : Nat) {known : Option Bool}
    (hknown : ∀ down, known = some down → (x.devices s).keys k = down) (down : Bool)
    (htold : toldKey x k known (a, (operate x a s).1) = some down) :
    (x.devices (operate x a s).2).keys k = down := by
  -- a key that is known to be up stays up when the operation presses none
  have hup : ∀ s' : σ, ((x.devices s').keys k = true → (x.devices s).keys k = true) →
      (if known = some false then known else none) = some down →
      (x.devices s').keys k = down := by
    intro s' hfall h
    split at h
    · rename_i hfalse
      rw [hfalse] at h
      cases h
      rw [← Bool.not_eq_true]
      intro hdown
      exact absurd (hfall hdown) (by rw [hknown false hfalse]; simp)
    · cases h
  cases a with
  | event event =>
    cases event with
    | key key isDepressed =>
      have hkeys := notifyEvent_key x key isDepressed s k
      rw [operate] at htold ⊢
      rw [hkeys]
      cases ho : (notifyEvent x (.key key isDepressed) s).1 <;> rw [ho] at htold <;>
        simp only [toldKey] at htold
      · by_cases hk : asU8 key = k ∧ InRange x k
        · rw [if_pos hk] at htold
          rw [if_pos ⟨rfl, hk⟩]
          exact Option.some.inj htold
        · rw [if_neg hk] at htold
          rw [if_neg fun h => hk h.2]
          exact hknown down htold
      · simpa using hknown down htold
      · simpa using hknown down htold
    | pointer location buttonStates cursor =>
      rw [operate, notifyEvent_pointer_keys]
      exact hknown down htold
    | display displays => exact hknown down htold
  | lock traced lockState =>
    obtain ⟨hkeys, -⟩ := setLockState_effect x traced lockState s
    rw [operate] at htold ⊢
    cases ho : (setLockState x traced lockState s).1 <;> rw [ho] at htold <;>
      simp only [toldKey] at htold
    · exact hup _ (hkeys ho k) htold
    · cases htold
    · cases htold
  | reset =>
    obtain ⟨hkeys, -⟩ := resetSessionState_effect x s
    rw [operate] at htold ⊢
    cases ho : (resetSessionState x s).1 <;> rw [ho] at htold <;> simp only [toldKey] at htold
    · cases htold
      rw [← Bool.not_eq_true]
      exact fun hdown => (hkeys k hdown).2 ho
    · exact hup _ (fun hdown => (hkeys k hdown).1) htold
    · exact hup _ (fun hdown => (hkeys k hdown).1) htold

theorem buttons_eq {d d' : Devices} (h : d.pointer = d'.pointer) : d.buttons = d'.buttons :=
  congrArg Prod.fst h

theorem target_eq {d d' : Devices} (h : d.pointer = d'.pointer) : d.target = d'.target :=
  congrArg Prod.snd h

/-- One operation: what it tells of a button is so. -/
theorem buttons_operate (a : Act) (s : σ) (b : Nat) {known : Option Bool}
    (hknown : ∀ down, known = some down → (x.devices s).buttons b = down) (down : Bool)
    (htold : toldButton b known (a, (operate x a s).1) = some down) :
    (x.devices (operate x a s).2).buttons b = down := by
  cases a with
  | event event =>
    cases event with
    | key key isDepressed =>
      rw [operate, buttons_eq (notifyEvent_key_pointer x key isDepressed s)]
      exact hknown down htold
    | pointer location buttonStates cursor =>
      obtain ⟨hlast, hother⟩ := notifyEvent_pointer_buttons x location buttonStates cursor s b
      rw [operate] at htold ⊢
      simp only [toldButton] at htold
      split at htold
      · rename_i hbs
        rw [hother hbs]
        exact hknown down htold
      · rename_i hbs
        split at htold
        · rename_i ho
          cases htold
          rw [hlast ho]
          exact lastState_congr hbs _ _
        · cases htold
    | display displays => exact hknown down htold
  | lock traced lockState =>
    rw [operate, buttons_eq (setLockState_effect x traced lockState s).2]
    exact hknown down htold
  | reset =>
    rw [operate, buttons_eq (resetSessionState_effect x s).2]
    exact hknown down htold

/-- What a history tells of the keys and the buttons is so. -/
structure Tells (t : σ × List (Act × Outcome)) : Prop where
  keys : ∀ k down, t.2.foldl (toldKey x k) none = some down → (x.devices t.1).keys k = down
  buttons : ∀ b down, t.2.foldl (toldButton b) none = some down →
    (x.devices t.1).buttons b = down

/-- **What the history tells is so**, in every state of every run: whatever events come, whatever
the X server refuses, and wherever sessions begin and end. -/
theorem history_tells (s : σ) (acts : List Act) :
    Machine.Always (step x) (Tells x) (s, []) acts := by
  apply Machine.always_of_invariant
  · rintro ⟨s, log⟩ a t htells ht
    cases Option.some.inj ht
    constructor
    · intro k down htold
      rw [List.foldl_append] at htold
      exact keys_operate x a s k (htells.keys k) down htold
    · intro b down htold
      rw [List.foldl_append] at htold
      exact buttons_operate x a s b (htells.buttons b) down htold
  · constructor
    · intro k down h
      cases h
    · intro b down h
      cases h

end Histories

/-! ## A session -/

/-- The keys a client holds down after its events, as the X server numbers them. -/
def clientKey (k : Nat) (down : Bool) : UserEvent → Bool
  | .key code isPressed => if code % 256 = k then isPressed else down
  | _ => down

/-- The buttons it holds down: the toolkit numbers them from 1, and so does the X server. -/
def clientButton (b : Nat) (down : Bool) : UserEvent → Bool
  | .mouseButton code isPressed _ => if (code + 1) % 256 = b then isPressed else down
  | _ => down

/-- Where its pointer is. -/
def clientTarget (target : Int × Int) : UserEvent → Int × Int
  | .mouseButton _ _ pos => (asI16 pos.x, asI16 pos.y)
  | .pointer pos => (asI16 pos.x, asI16 pos.y)
  | _ => target

theorem buttonDetail_mapped (n : Nat) : buttonDetail (wireButton (.mapped n)) = some (n % 256) := by
  have h : (asU8 (asU8 n - 1) + 1) % 256 = n % 256 := by
    unfold asU8
    omega
  exact congrArg some h

theorem buttonDetail_unmapped (code : Nat) :
    buttonDetail (wireButton (.unmapped code)) = some ((code + 1) % 256) := by
  have h : (asU8 code + 1) % 256 = (code + 1) % 256 := by
    unfold asU8
    omega
  exact congrArg some h

/-- **The server presses the button that the toolkit reported.** -/
theorem buttonDetail_fromCode (code : Nat) :
    buttonDetail (wireButton (Button.fromCode code)) = some ((code + 1) % 256) := by
  unfold Button.fromCode
  by_cases hcode : code < 2 ^ 31
  · simp only [if_pos hcode]
    split
    · rw [buttonDetail_mapped]
      congr 1
    · exact buttonDetail_unmapped code
  · simp only [if_neg hcode]
    split
    · rw [buttonDetail_mapped]
      congr 1
      omega
    · exact buttonDetail_unmapped code

/-- A client's messages are never refused. -/
theorem tryFrom_wireMessage (ue : UserEvent) :
    Event.tryFrom (wireMessage ue.toMessage) = some (match ue with
      | .mouseButton code isPressed pos =>
        .pointer pos [(wireButton (Button.fromCode code), isPressed)] 1
      | .pointer pos => .pointer pos [] 1
      | .key code isPressed => .key code isPressed
      | .displayChange displays => .display displays) := by
  cases ue with
  | mouseButton code isPressed pos => rfl
  | pointer pos => rfl
  | key code isPressed => rfl
  | displayChange displays =>
    have hmap : (displays.map Proto.DisplayInfo.fromDisplay).mapM Display.tryFrom =
        .ok displays := by
      have hdisplay : ∀ d ∈ displays,
          (Display.tryFrom ∘ Proto.DisplayInfo.fromDisplay) d = pure (id d) := fun d _ => rfl
      rw [List.mapM_map, MapM.mapM_eq_pure_map hdisplay, List.map_id]
      rfl
    simp only [UserEvent.toMessage, wireMessage, Event.tryFrom, hmap]
    rfl

section Session

variable {σ : Type} (x : XServer σ)

/-- An event of the client reaches the backend: the event task receives the message, and fails when
it is not an event; the backend task sets the displays itself. -/
def serveEvent (ue : UserEvent) (s : σ) : Outcome × σ :=
  match Event.tryFrom (wireMessage ue.toMessage) with
  | none => (.failed, s)
  | some (.display displays) => x.setDisplays displays s
  | some event => notifyEvent x event s

/-- The events of a client, up to the first that is not handled; how many of them are. -/
def serve : List UserEvent → σ → Nat × σ
  | [], s => (0, s)
  | ue :: ues, s =>
    match serveEvent x ue s with
    | (.ok, s') => ((serve ues s').1 + 1, (serve ues s').2)
    | (_, s') => (0, s')

/-- The keys after an event, however it ends. -/
theorem serveEvent_keys (ue : UserEvent) (s : σ) {k : Nat} (hk : InRange x k) :
    (x.devices (serveEvent x ue s).2).keys k =
      if (serveEvent x ue s).1 = .ok then clientKey k ((x.devices s).keys k) ue
      else (x.devices s).keys k := by
  rw [serveEvent, tryFrom_wireMessage]
  cases ue with
  | mouseButton code isPressed pos =>
    dsimp only
    rw [notifyEvent_pointer_keys]
    simp [clientKey]
  | pointer pos =>
    dsimp only
    rw [notifyEvent_pointer_keys]
    simp [clientKey]
  | key code isPressed =>
    dsimp only
    rw [notifyEvent_key, asU8_natCast, clientKey]
    by_cases ho : (notifyEvent x (.key code isPressed) s).1 = .ok <;>
      by_cases hcode : code % 256 = k <;> simp [ho, hcode, hk]
  | displayChange displays =>
    dsimp only
    rw [x.devices_setDisplays]
    simp [clientKey]

/-- The pointer and its buttons after an event that succeeds. -/
theorem serveEvent_pointer (ue : UserEvent) (s : σ) (ho : (serveEvent x ue s).1 = .ok) :
    (∀ b, (x.devices (serveEvent x ue s).2).buttons b =
      clientButton b ((x.devices s).buttons b) ue) ∧
    (x.devices (serveEvent x ue s).2).target = clientTarget (x.devices s).target ue := by
  rw [serveEvent, tryFrom_wireMessage] at ho ⊢
  cases ue with
  | mouseButton code isPressed pos =>
    refine ⟨fun b => ?_, notifyEvent_pointer_target x _ _ _ s ho⟩
    rw [(notifyEvent_pointer_buttons x _ _ _ s b).1 ho]
    simp [lastState, clientButton, buttonDetail_fromCode]
  | pointer pos =>
    refine ⟨fun b => ?_, notifyEvent_pointer_target x _ _ _ s ho⟩
    rw [(notifyEvent_pointer_buttons x _ _ _ s b).1 ho]
    rfl
  | key code isPressed =>
    have hpointer := notifyEvent_key_pointer x code isPressed s
    exact ⟨fun b => congrFun (buttons_eq hpointer) b, target_eq hpointer⟩
  | displayChange displays =>
    dsimp only
    rw [x.devices_setDisplays]
    exact ⟨fun b => rfl, rfl⟩

theorem serve_cons (ue : UserEvent) (ues : List UserEvent) (s : σ) :
    serve x (ue :: ues) s =
      if (serveEvent x ue s).1 = .ok then
        ((serve x ues (serveEvent x ue s).2).1 + 1, (serve x ues (serveEvent x ue s).2).2)
      else (0, (serveEvent x ue s).2) := by
  rw [serve]
  rcases serveEvent x ue s with ⟨outcome, s'⟩
  cases outcome <;> rfl

theorem serve_keys (ues : List UserEvent) (s : σ) {k : Nat} (hk : InRange x k) :
    (x.devices (serve x ues s).2).keys k =
      (ues.take (serve x ues s).1).foldl (clientKey k) ((x.devices s).keys k) := by
  induction ues generalizing s with
  | nil => rfl
  | cons ue ues ih =>
    have hevent := serveEvent_keys x ue s hk
    rw [serve_cons]
    split
    · rename_i ho
      rw [if_pos ho] at hevent
      rw [ih, hevent]
      rfl
    · rename_i ho
      rw [if_neg ho] at hevent
      exact hevent

theorem serve_pointer (ues : List UserEvent) (s : σ) (h : (serve x ues s).1 = ues.length) :
    (∀ b, (x.devices (serve x ues s).2).buttons b =
      ues.foldl (clientButton b) ((x.devices s).buttons b)) ∧
    (x.devices (serve x ues s).2).target = ues.foldl clientTarget (x.devices s).target := by
  induction ues generalizing s with
  | nil => exact ⟨fun _ => rfl, rfl⟩
  | cons ue ues ih =>
    rw [serve_cons] at h ⊢
    split at h
    · rename_i ho
      rw [if_pos ho]
      obtain ⟨hbuttons, htarget⟩ := ih _ (Nat.succ.inj h)
      obtain ⟨hb, ht⟩ := serveEvent_pointer x ue s ho
      refine ⟨fun b => ?_, ?_⟩
      · rw [hbuttons, hb]
        rfl
      · rw [htarget, ht]
        rfl
    · cases h

/-- **In a session that begins well, the keys that are down are those that the client holds**, up to
the first event that is not handled; and so are the buttons and the pointer, except that a button
that was down before the session is still down until the client releases it.  Between the reset and
the locks nothing touches the devices. -/
theorem session_input (traced : Bool) (lockState : LockState) (ues : List UserEvent) {s s' : σ}
    (hreset : (resetSessionState x s).1 = .ok)
    (hs' : x.devices s' = x.devices (resetSessionState x s).2)
    (hlocks : (setLockState x traced lockState s').1 = .ok) :
    let r := serve x ues (setLockState x traced lockState s').2
    (∀ k, (x.devices r.2).keys k =
      (decide (InRange x k) && (ues.take r.1).foldl (clientKey k) false)) ∧
    (r.1 = ues.length →
      (∀ b, (x.devices r.2).buttons b =
        ues.foldl (clientButton b) ((x.devices s).buttons b)) ∧
      (x.devices r.2).target = ues.foldl clientTarget (x.devices s).target) := by
  obtain ⟨hkeys, hpointer⟩ := resetSessionState_effect x s
  obtain ⟨hkeys', hpointer'⟩ := setLockState_effect x traced lockState s'
  rw [hs'] at hkeys' hpointer'
  have hup : ∀ k, (x.devices (setLockState x traced lockState s').2).keys k = false := by
    intro k
    rw [← Bool.not_eq_true]
    exact fun hdown => (hkeys k (hkeys' hlocks k hdown)).2 hreset
  have hsame := hpointer'.trans hpointer
  dsimp only
  constructor
  · intro k
    by_cases hk : InRange x k
    · rw [serve_keys x ues _ hk, hup k, decide_eq_true hk, Bool.true_and]
    · rw [decide_eq_false hk, Bool.false_and, ← Bool.not_eq_true]
      exact fun hdown => hk (x.keys_in_range _ k hdown)
  · intro hall
    rw [← buttons_eq hsame, ← target_eq hsame]
    exact serve_pointer x ues _ hall

/-- A key, the second button and a lock are left on by an earlier session. -/
theorem session_input_pc :
    let stuck : Xvfb := ⟨⟨fun k => k = 38, fun b => b = 2, (0, 0)⟩, 2, by simp⟩
    let typed : List UserEvent :=
      [.key 65 true, .mouseButton 0 true ⟨3, 4⟩, .key 65 false, .key 50 true, .pointer ⟨5, 6⟩]
    let begun := setLockState Xvfb.pc true ⟨some false, some false, some true⟩
      (resetSessionState Xvfb.pc stuck).2
    let devices := (serve Xvfb.pc typed begun.2).2.devices
    devices.keys 38 = false ∧ devices.keys 65 = false ∧ devices.keys 50 = true ∧
      devices.buttons 1 = true ∧ devices.buttons 2 = true ∧ devices.target = (5, 6) := by
  intro stuck typed begun devices
  obtain ⟨hkeys, hpointer⟩ := session_input Xvfb.pc true ⟨some false, some false, some true⟩ typed
    (s := stuck) (by decide) rfl (by decide)
  obtain ⟨hbuttons, htarget⟩ := hpointer (by decide)
  exact ⟨(hkeys 38).trans (by decide), (hkeys 65).trans (by decide), (hkeys 50).trans (by decide),
    (hbuttons 1).trans (by decide), (hbuttons 2).trans (by decide), htarget.trans (by decide)⟩

end Session

/-! ## The locks of a session -/

section Locks

variable {σ : Type} {x : XServer σ} {mask : σ → Nat} {mapping : Nat × List Nat}
  {lockOf : Nat → Option Nat}

/-- An X server whose modifiers are mapped by `mapping` and whose mask is `mask`: tapping a key
while no key is down switches the modifier that `lockOf` gives it, if any. -/
structure TapsLock (x : XServer σ) (mask : σ → Nat) (mapping : Nat × List Nat)
    (lockOf : Nat → Option Nat) : Prop where
  queryPointer : ∀ s m, (x.queryPointer s).1 = some m → m = mask s
  mask_queryPointer : ∀ s, mask (x.queryPointer s).2 = mask s
  getModifierMapping : ∀ s m, (x.getModifierMapping s).1 = some m → m = mapping
  mask_getModifierMapping : ∀ s, mask (x.getModifierMapping s).2 = mask s
  mask_tap : ∀ kc s, kc < 256 → (∀ k, (x.devices s).keys k = false) →
    (perform x ((tap kc).map some) s).1 = .ok → ∀ j,
      (mask (perform x ((tap kc).map some) s).2).testBit j =
        ((mask s).testBit j ^^ decide (lockOf kc = some j))

/-- Tapping a key switches its lock. -/
theorem Xvfb.tapsLock {mapping : Nat × List Nat} {lockOf : Nat → Option Nat} :
    TapsLock (Xvfb.server mapping lockOf) Xvfb.mask mapping lockOf where
  queryPointer s m h := (Option.some.inj h).symm
  mask_queryPointer _ := rfl
  getModifierMapping s m h := (Option.some.inj h).symm
  mask_getModifierMapping _ := rfl
  mask_tap kc s hkc hup hok j := by
    have htap : (tap kc).map some = [some (keyRequest kc true), some (keyRequest kc false)] := rfl
    rw [htap, perform_cons] at hok ⊢
    have hrange : InRange (keyRequest kc true) := by
      by_contra h
      have hrefused : ((server mapping lockOf).fakeInput (keyRequest kc true) s).1 = false := by
        change (fakeInput lockOf _ s).1 = false
        rw [fakeInput, dif_neg h]
      rw [hrefused] at hok
      cases hok
    have hrange' : InRange (keyRequest kc false) := fun _ => hrange (Or.inl rfl)
    have haccepted : ((server mapping lockOf).fakeInput (keyRequest kc true) s).1 = true := by
      change (fakeInput lockOf _ s).1 = true
      rw [fakeInput, dif_pos hrange]
    rw [haccepted, if_pos rfl, perform_singleton]
    change (fakeInput lockOf _ (fakeInput lockOf _ s).2).2.mask.testBit j = _
    rw [mask_fakeInput, if_pos hrange', switch, if_neg (by simp [keyRequest]), mask_fakeInput,
      if_pos hrange, switch, if_pos ⟨rfl, hup _⟩]
    simp only [keyRequest, asU8_of_lt hkc]
    cases hlock : lockOf kc with
    | none => simp
    | some i =>
      rw [Nat.testBit_xor, Nat.one_shiftLeft, Nat.testBit_two_pow]
      simp

theorem perform_append (reqs reqs' : List (Option FakeInput)) (s : σ) :
    perform x (reqs ++ reqs') s =
      if (perform x reqs s).1 = .ok then perform x reqs' (perform x reqs s).2
      else perform x reqs s := by
  induction reqs generalizing s with
  | nil => simp [perform]
  | cons req reqs ih =>
    cases req with
    | none => simp [perform]
    | some req =>
      rw [List.cons_append, perform, perform]
      rcases x.fakeInput req s with ⟨accepted, s'⟩
      cases accepted with
      | false => simp
      | true => exact ih s'

/-- The bit of a modifier after taps. -/
theorem mask_perform_taps (h : TapsLock x mask mapping lockOf) (j : Nat) (taps : List Nat) (s : σ)
    (htaps : ∀ kc ∈ taps, kc < 256) (hup : ∀ k, (x.devices s).keys k = false)
    (hok : (perform x ((taps.flatMap tap).map some) s).1 = .ok) :
    (mask (perform x ((taps.flatMap tap).map some) s).2).testBit j =
      taps.foldl (fun bit kc => bit ^^ decide (lockOf kc = some j)) ((mask s).testBit j) := by
  induction taps generalizing s with
  | nil => rfl
  | cons kc taps ih =>
    rw [List.flatMap_cons, List.map_append, perform_append] at hok ⊢
    split at hok
    · rename_i htap
      rw [if_pos htap, List.foldl_cons, ← h.mask_tap kc s (htaps kc List.mem_cons_self) hup htap]
      refine ih _ (fun kc' hkc' => htaps kc' (List.mem_cons_of_mem _ hkc')) (fun k => ?_) hok
      -- the tap leaves no key down
      have hkeys := (perform_taps x [kc] s).1
      rw [List.flatMap_singleton] at hkeys
      rw [← Bool.not_eq_true]
      intro hdown
      exact absurd (hkeys htap k hdown) (by simp [hup k])
    · rename_i htap
      exact absurd hok htap

/-- How a setting of the locks succeeds. -/
theorem setLockState_ok {traced : Bool} {lockState : LockState} {s : σ}
    (hok : (setLockState x traced lockState s).1 = .ok) :
    ∃ m s₁, x.queryPointer s = (some m, s₁) ∧
      ((toChange lockState m = [] ∧ (setLockState x traced lockState s).2 = s₁) ∨
        ∃ n keycodes s₂ s₃, x.getModifierMapping s₁ = (some (n, keycodes), s₂) ∧
          perform x ((((toChange lockState m).filterMap
            (lockTap x n keycodes)).flatMap tap).map some) s₂ = (.ok, s₃) ∧
          ((setLockState x traced lockState s).2 = s₃ ∨
            (setLockState x traced lockState s).2 = (x.queryPointer s₃).2)) := by
  unfold setLockState at hok ⊢
  rcases h₁ : x.queryPointer s with ⟨_ | m, s₁⟩ <;> rw [h₁] at hok
  · cases hok
  · refine ⟨m, s₁, rfl, ?_⟩
    dsimp only at hok ⊢
    split at hok
    · rename_i hnone
      exact Or.inl ⟨hnone, by rw [if_pos hnone]⟩
    · rename_i hsome
      rw [if_neg hsome]
      refine Or.inr ?_
      rcases h₂ : x.getModifierMapping s₁ with ⟨_ | ⟨n, keycodes⟩, s₂⟩ <;> rw [h₂] at hok
      · cases hok
      · dsimp only at hok ⊢
        split at hok
        · cases hok
        · rename_i hn
          rw [if_neg hn]
          rcases h₃ : perform x ((((toChange lockState m).filterMap
              (lockTap x n keycodes)).flatMap tap).map some) s₂ with ⟨outcome, s₃⟩
          rw [h₃] at hok
          cases outcome with
          | ok =>
            refine ⟨n, keycodes, s₂, s₃, rfl, h₃, ?_⟩
            cases traced with
            | false => exact Or.inl rfl
            | true =>
              refine Or.inr ?_
              dsimp only
              rcases x.queryPointer s₃ with ⟨_ | m', s₄⟩ <;> rfl
          | failed => cases hok
          | panicked => cases hok

/-- Switching each modifier of a list once. -/
theorem foldl_switch {f : Lock → Option Nat} (j : Nat) {ls : List Lock}
    (hnodup : (ls.map Lock.modifier).Nodup)
    (hf : ∀ l ∈ ls, ∀ kc, f l = some kc → lockOf kc = some l.modifier) (bit : Bool) :
    (ls.filterMap f).foldl (fun bit kc => bit ^^ decide (lockOf kc = some j)) bit =
      (bit ^^ decide (∃ l ∈ ls, l.modifier = j ∧ (f l).isSome)) := by
  induction ls generalizing bit with
  | nil => simp
  | cons l ls ih =>
    rw [List.map_cons, List.nodup_cons] at hnodup
    have hrest := ih hnodup.2 fun l' hl' => hf l' (List.mem_cons_of_mem _ hl')
    cases hl : f l with
    | none => simp [hl, hrest]
    | some kc =>
      have hkc := hf l List.mem_cons_self kc hl
      rw [List.filterMap_cons_some hl, List.foldl_cons, hrest, hkc]
      by_cases hj : l.modifier = j
      · have hnone : ¬ ∃ l' ∈ ls, l'.modifier = j ∧ (f l').isSome := by
          rintro ⟨l', hl', hj', -⟩
          exact hnodup.1 (List.mem_map.mpr ⟨l', hl', hj'.trans hj.symm⟩)
        simp [hnone, hj, hl]
      · simp [hj]

/-- A lock whose key can be used. -/
def Usable (x : XServer σ) (mapping : Nat × List Nat) (l : Lock) : Prop :=
  (lockTap x mapping.1 mapping.2 l).isSome

instance (l : Lock) : Decidable (Usable x mapping l) := inferInstanceAs (Decidable (_ = true))

theorem nodup_locks (lockState : LockState) : (lockState.locks.map Lock.modifier).Nodup := by
  simp [LockState.locks]

theorem nodup_toChange (lockState : LockState) (m : Nat) :
    ((toChange lockState m).map Lock.modifier).Nodup :=
  (nodup_locks lockState).sublist ((List.filter_sublist.trans List.filter_sublist).map _)

theorem mem_toChange {lockState : LockState} {m : Nat} {l : Lock} :
    l ∈ toChange lockState m ↔ l ∈ lockState.locks ∧ l.endState.isSome ∧
      l.endState ≠ some (m.testBit l.modifier) := by
  simp [toChange, and_comm]

theorem lockTap_lt {n kc : Nat} {keycodes : List Nat} {l : Lock}
    (h : lockTap x n keycodes l = some kc) : kc < 256 := by
  have hmax := x.maxKeycode_lt
  have hkc := (Option.filter_eq_some_iff.mp h).2
  simp only [decide_eq_true_eq] at hkc
  omega

/-- The bits after a setting of the locks that succeeds. -/
theorem mask_setLockState (h : TapsLock x mask mapping lockOf) {traced : Bool}
    {lockState : LockState} {s : σ} (hkeys : ∀ l ∈ lockState.locks, ∀ kc,
      lockTap x mapping.1 mapping.2 l = some kc → lockOf kc = some l.modifier)
    (hup : ∀ k, (x.devices s).keys k = false)
    (hok : (setLockState x traced lockState s).1 = .ok) (j : Nat) :
    (mask (setLockState x traced lockState s).2).testBit j = ((mask s).testBit j ^^
      decide (∃ l ∈ toChange lockState (mask s), l.modifier = j ∧ Usable x mapping l)) := by
  obtain ⟨m, s₁, h₁, hdone⟩ := setLockState_ok hok
  have hm := h.queryPointer s m (congrArg Prod.fst h₁)
  have hmask₁ := h.mask_queryPointer s
  have hdevices₁ := x.devices_queryPointer s
  rw [h₁] at hmask₁ hdevices₁
  subst hm
  rcases hdone with ⟨hnone, hs⟩ | ⟨n, keycodes, s₂, s₃, h₂, h₃, hs⟩
  · rw [hs, hnone, hmask₁]
    simp
  · have hmapping := h.getModifierMapping s₁ _ (congrArg Prod.fst h₂)
    have hmask₂ := h.mask_getModifierMapping s₁
    have hdevices₂ := x.devices_getModifierMapping s₁
    rw [h₂] at hmask₂ hdevices₂
    subst hmapping
    have hlt : ∀ kc ∈ (toChange lockState (mask s)).filterMap (lockTap x n keycodes), kc < 256 := by
      intro kc hkc
      obtain ⟨l, -, hl⟩ := List.mem_filterMap.mp hkc
      exact lockTap_lt hl
    have htaps := mask_perform_taps h j _ s₂ hlt (fun k => by rw [hdevices₂, hdevices₁, hup k])
      (congrArg Prod.fst h₃)
    rw [h₃, hmask₂, hmask₁, foldl_switch j (nodup_toChange lockState _)
      fun l hl => hkeys l (mem_toChange.mp hl).1] at htaps
    have hend : mask (setLockState x traced lockState s).2 = mask s₃ := by
      rcases hs with hs | hs <;> rw [hs]
      exact h.mask_queryPointer s₃
    rw [hend]
    exact htaps

/-- A lock that differs is switched, and then it is as asked. -/
theorem xor_switch (endState : Option Bool) (bit : Bool) :
    (bit ^^ decide (endState.isSome ∧ endState ≠ some bit)) = endState.getD bit := by
  cases endState with
  | none => simp
  | some b => cases b <;> cases bit <;> rfl

/-- **A session begins with the locks that its client asked for**, as far as their keys can be used,
and no other modifier changes. -/
theorem setLockState_mask (h : TapsLock x mask mapping lockOf) (traced : Bool)
    (lockState : LockState) (s : σ) (hkeys : ∀ l ∈ lockState.locks, ∀ kc,
      lockTap x mapping.1 mapping.2 l = some kc → lockOf kc = some l.modifier)
    (hup : ∀ k, (x.devices s).keys k = false)
    (hok : (setLockState x traced lockState s).1 = .ok) :
    (∀ l ∈ lockState.locks, (mask (setLockState x traced lockState s).2).testBit l.modifier =
      if Usable x mapping l then l.endState.getD ((mask s).testBit l.modifier)
      else (mask s).testBit l.modifier) ∧
    ∀ j, (∀ l ∈ lockState.locks, l.modifier ≠ j) →
      (mask (setLockState x traced lockState s).2).testBit j = (mask s).testBit j := by
  have hmask := mask_setLockState h hkeys hup hok
  constructor
  · intro l hl
    have hself : (∃ l' ∈ toChange lockState (mask s), l'.modifier = l.modifier ∧
        Usable x mapping l') ↔ l ∈ toChange lockState (mask s) ∧ Usable x mapping l := by
      constructor
      · rintro ⟨l', hl', heq, husable⟩
        cases List.inj_on_of_nodup_map (nodup_locks lockState) (mem_toChange.mp hl').1 hl heq
        exact ⟨hl', husable⟩
      · rintro ⟨hl', husable⟩
        exact ⟨l, hl', rfl, husable⟩
    rw [hmask]
    by_cases husable : Usable x mapping l
    · have hchange : (∃ l' ∈ toChange lockState (mask s), l'.modifier = l.modifier ∧
          Usable x mapping l') ↔
            l.endState.isSome ∧ l.endState ≠ some ((mask s).testBit l.modifier) := by
        rw [hself, mem_toChange]
        simp [hl, husable]
      rw [if_pos husable, decide_eq_decide.mpr hchange]
      exact xor_switch l.endState _
    · rw [if_neg husable, decide_eq_false fun h => husable (hself.mp h).2, Bool.xor_false]
  · intro j hj
    rw [hmask, decide_eq_false, Bool.xor_false]
    rintro ⟨l, hl, heq, -⟩
    exact hj l (mem_toChange.mp hl).1 heq

/-- Caps lock is on and is to be off, and scroll lock the other way round. -/
theorem setLockState_mask_pc :
    let s : Xvfb := { Xvfb.start with mask := 2 }
    let mask := (setLockState Xvfb.pc true ⟨some false, some true, some false⟩ s).2.mask
    mask.testBit 1 = false ∧ mask.testBit 4 = false ∧ mask.testBit 5 = true ∧
      mask.testBit 0 = false := by
  intro s mask
  have hkeys : ∀ l ∈ LockState.locks ⟨some false, some true, some false⟩, ∀ kc,
      lockTap Xvfb.pc Xvfb.pcMapping.1 Xvfb.pcMapping.2 l = some kc →
        Xvfb.pcLocks kc = some l.modifier := by
    intro l hl kc hkc
    simp only [LockState.locks, List.mem_cons, List.not_mem_nil, or_false] at hl
    rcases hl with rfl | rfl | rfl <;> cases hkc <;> rfl
  obtain ⟨hlocks, hother⟩ :=
    setLockState_mask Xvfb.tapsLock true _ s hkeys (fun _ => rfl) (by decide)
  exact ⟨(hlocks ⟨some false, 1⟩ (by decide)).trans (by decide),
    (hlocks ⟨some false, 4⟩ (by decide)).trans (by decide),
    (hlocks ⟨some true, 5⟩ (by decide)).trans (by decide), (hother 0 (by decide)).trans (by decide)⟩

end Locks

end ApertureC.XInput
