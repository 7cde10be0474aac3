import ApertureC.DisplayConfigWire
import ApertureC.PointerInput

/-!
# Input on the X server

What `aperturec-server/src/backend/x.rs` does to the keys and buttons of its X server: it feeds in
the events of a client, sets the locks that a session begins with, and resets the server before the
first session and after every one.

* `XServer` — an X server: how it answers the requests made here, and what its documentation says of
  the answers while nobody else makes input.
* `Event.tryFrom` — a message of a client as an event of `backend/mod.rs`.
* `notifyEvent`, `resetSessionState`, `setLockState` — the operations of `X`, as the requests they
  make and how they end.

* `perform_effect` — the requests that are accepted have their effect; from it, what every operation
  does to the devices.

Arithmetic on bytes wraps, as in a release build.
-/

set_option autoImplicit false

namespace ApertureC.XInput

open Geometry

/-! ## Devices -/

/-- `xtest::FakeInput`; its other fields are the same in every request. -/
structure FakeInput where
  type : Nat
  detail : Nat
  rootX : Int
  rootY : Int
  deriving DecidableEq, Repr

/-- The keys and buttons that are down, and where the pointer was last sent. -/
structure Devices where
  keys : Nat → Bool
  buttons : Nat → Bool
  target : Int × Int

/-- All but the keys. -/
def Devices.pointer (d : Devices) : (Nat → Bool) × (Int × Int) := (d.buttons, d.target)

/-- What an accepted request does: the types are `KeyPress`, `KeyRelease`, `ButtonPress`,
`ButtonRelease` and `MotionNotify`. -/
def Devices.apply (d : Devices) (req : FakeInput) : Devices :=
  match req.type with
  | 2 => { d with keys := Function.update d.keys req.detail true }
  | 3 => { d with keys := Function.update d.keys req.detail false }
  | 4 => { d with buttons := Function.update d.buttons req.detail true }
  | 5 => { d with buttons := Function.update d.buttons req.detail false }
  | 6 => { d with target := (req.rootX, req.rootY) }
  | _ => d

/-- How an operation ends: with `Ok`, with an error, or with a panic. -/
inductive Outcome where
  | ok
  | failed
  | panicked
  deriving DecidableEq, Repr

/-- An X server with states `σ`.  A request that is refused changes nothing, `QueryKeymap` answers
with one bit for every key, and setting the displays has nothing to do with the devices. -/
structure XServer (σ : Type) where
  minKeycode : Nat
  maxKeycode : Nat
  devices : σ → Devices
  fakeInput : FakeInput → σ → Bool × σ
  setInputFocus : σ → Bool × σ
  queryKeymap : σ → Option (List Nat) × σ
  queryPointer : σ → Option Nat × σ
  getModifierMapping : σ → Option (Nat × List Nat) × σ
  setDisplays : List Display → σ → Outcome × σ
  maxKeycode_lt : maxKeycode < 256
  keys_in_range : ∀ s k, (devices s).keys k = true → minKeycode ≤ k ∧ k ≤ maxKeycode
  devices_fakeInput : ∀ req s, devices (fakeInput req s).2 =
    if (fakeInput req s).1 then (devices s).apply req else devices s
  devices_setInputFocus : ∀ s, devices (setInputFocus s).2 = devices s
  devices_queryKeymap : ∀ s, devices (queryKeymap s).2 = devices s
  devices_queryPointer : ∀ s, devices (queryPointer s).2 = devices s
  devices_getModifierMapping : ∀ s, devices (getModifierMapping s).2 = devices s
  devices_setDisplays : ∀ displays s, devices (setDisplays displays s).2 = devices s
  queryKeymap_keys : ∀ s bytes, (queryKeymap s).1 = some bytes → bytes.length = 32 ∧
    ∀ index byte, bytes[index]? = some byte → ∀ bit < 8,
      byte.testBit bit = (devices s).keys (8 * index + bit)

/-! ## Events -/

/-- `button::Kind` -/
inductive ButtonKind where
  | mappedButton (idx : Int)
  | unmappedButton (idx : Nat)
  deriving DecidableEq, Repr

/-- `event::Button` -/
structure WireButton where
  kind : Option ButtonKind
  deriving DecidableEq, Repr

/-- `event::ButtonState` -/
structure ButtonState where
  button : Option WireButton
  isDepressed : Bool
  deriving DecidableEq, Repr

/-- `client_to_server::Message` -/
inductive Message where
  | keyEvent (key : Nat) (down : Bool)
  | pointerEvent (buttonStates : List ButtonState) (location : Option Point) (cursor : Int)
  | displayEvent (displays : List Proto.DisplayInfo)
  deriving DecidableEq, Repr

/-- `backend::Event`; the cursor of a pointer event is its number. -/
inductive Event where
  | key (key : Nat) (isDepressed : Bool)
  | pointer (location : Point) (buttonStates : List (WireButton × Bool)) (cursor : Nat)
  | display (displays : List Display)
  deriving DecidableEq, Repr

/-- `common::Cursor::try_from` -/
def cursorTryFrom (n : Int) : Option Nat := if 0 ≤ n ∧ n ≤ 21 then some n.toNat else none

/-- `TryFrom<em_c2s::Message> for Event` -/
def Event.tryFrom : Message → Option Event
  | .keyEvent code down => some (.key code down)
  | .pointerEvent buttonStates location cursor =>
    match cursorTryFrom cursor, location,
      buttonStates.mapM fun bs => bs.button.map fun button => (button, bs.isDepressed) with
    | some cursor, some location, some buttonStates =>
      some (.pointer location buttonStates cursor)
    | _, _, _ => none
  | .displayEvent displays => ((displays.mapM Display.tryFrom).toOption).map .display

/-- The button of a client as it is sent. -/
def wireButton : Button → WireButton
  | .mapped n => ⟨some (.mappedButton n)⟩
  | .unmapped code => ⟨some (.unmappedButton code)⟩

/-- The message of a client as it is sent; its cursor is `Cursor::Default`. -/
def wireMessage : C2s.Message → Message
  | .keyEvent key down => .keyEvent key down
  | .pointerEvent event =>
    .pointerEvent (event.buttonStates.map fun bs => ⟨some (wireButton bs.1), bs.2⟩) event.location 1
  | .displayEvent displays => .displayEvent displays

/-! ## Operations -/

/-- `as u8` -/
def asU8 (n : Int) : Nat := (n % 256).toNat

/-- `as i16` -/
def asI16 (n : Nat) : Int :=
  if n % 65536 < 32768 then (n % 65536 : Nat) else (n % 65536 : Nat) - 65536

/-- `u8_for_button`; a button without a kind panics. -/
def u8ForButton (button : WireButton) : Option Nat :=
  match button.kind with
  | some (.mappedButton idx) => some (asU8 (asU8 idx - 1))
  | some (.unmappedButton idx) => some (asU8 idx)
  | none => none

section Operations

variable {σ : Type} (x : XServer σ)

/-- The requests in turn, up to the first that is refused; `none` panics before its request. -/
def perform : List (Option FakeInput) → σ → Outcome × σ
  | [], s => (.ok, s)
  | none :: _, s => (.panicked, s)
  | some req :: reqs, s =>
    match x.fakeInput req s with
    | (true, s') => perform reqs s'
    | (false, s') => (.failed, s')

def keyRequest (key : Nat) (isDepressed : Bool) : FakeInput :=
  ⟨if isDepressed then 2 else 3, asU8 key, 0, 0⟩

/-- The detail of the request for a button. -/
def buttonDetail (button : WireButton) : Option Nat :=
  (u8ForButton button).map fun n => (n + 1) % 256

def buttonRequest (location : Point) (bs : WireButton × Bool) : Option FakeInput :=
  (buttonDetail bs.1).map fun detail =>
    ⟨if bs.2 then 4 else 5, detail, asI16 location.x, asI16 location.y⟩

def motionRequest (location : Point) : FakeInput := ⟨6, 0, asI16 location.x, asI16 location.y⟩

def InRange (keycode : Nat) : Prop := x.minKeycode ≤ keycode ∧ keycode ≤ x.maxKeycode

instance (keycode : Nat) : Decidable (InRange x keycode) := inferInstanceAs (Decidable (_ ∧ _))

/-- `notify_event`; a display event is unreachable. -/
def notifyEvent (event : Event) (s : σ) : Outcome × σ :=
  match event with
  | .key key isDepressed =>
    if InRange x (asU8 key) then perform x [some (keyRequest key isDepressed)] s else (.ok, s)
  | .pointer location buttonStates _ =>
    perform x (buttonStates.map (buttonRequest location) ++ [some (motionRequest location)]) s
  | .display _ => (.panicked, s)

/-- The keycodes of a byte of the keymap that are down and in range. -/
def byteKeycodes (index byte : Nat) : List Nat :=
  if byte = 0 then []
  else (List.range 8).filterMap fun bit =>
    if byte.testBit bit then
      let keycode := asU8 (index * 8 + bit : Nat)
      if InRange x keycode then some keycode else none
    else none

/-- The loops of `release_pressed_keys`. -/
def heldKeycodes (bytes : List Nat) : List Nat :=
  bytes.zipIdx.flatMap fun byteIndex => byteKeycodes x byteIndex.2 byteIndex.1

def releasePressedKeys (s : σ) : Outcome × σ :=
  match x.queryKeymap s with
  | (some bytes, s) =>
    perform x ((heldKeycodes x bytes).map fun keycode => some (keyRequest keycode false)) s
  | (none, s) => (.failed, s)

/-- `clear_focus` -/
def clearFocus (s : σ) : Outcome × σ :=
  match x.setInputFocus s with
  | (true, s) => (.ok, s)
  | (false, s) => (.failed, s)

def resetSessionState (s : σ) : Outcome × σ :=
  match releasePressedKeys x s with
  | (.ok, s) => clearFocus x s
  | r => r

/-! ### Locks -/

/-- `backend::LockState` -/
structure LockState where
  isCapsLocked : Option Bool
  isScrollLocked : Option Bool
  isNumLocked : Option Bool
  deriving DecidableEq, Repr

/-- The modifier of a lock, as its index in the map and as its bit in the mask, and the state it is
to be in. -/
structure Lock where
  endState : Option Bool
  modifier : Nat
  deriving DecidableEq, Repr

/-- The locks of a session: `Lock`, `N2` and `N3`. -/
def LockState.locks (lockState : LockState) : List Lock :=
  [⟨lockState.isCapsLocked, 1⟩, ⟨lockState.isNumLocked, 4⟩, ⟨lockState.isScrollLocked, 5⟩]

/-- The two `retain`s. -/
def toChange (lockState : LockState) (mask : Nat) : List Lock :=
  (lockState.locks.filter fun l => l.endState.isSome).filter fun l =>
    l.endState ≠ some (mask.testBit l.modifier)

/-- The first keycode of a modifier. -/
def lockKeycode (keycodesPerModifier : Nat) (keycodes : List Nat) (l : Lock) : Option Nat :=
  ((keycodes.drop (keycodesPerModifier * l.modifier)).take keycodesPerModifier).head?

/-- The key of a lock, when it can be used; the bounds are strict here. -/
def lockTap (keycodesPerModifier : Nat) (keycodes : List Nat) (l : Lock) : Option Nat :=
  (lockKeycode keycodesPerModifier keycodes l).filter fun kc =>
    x.minKeycode < kc ∧ kc < x.maxKeycode

/-- A press and a release. -/
def tap (kc : Nat) : List FakeInput := [keyRequest kc true, keyRequest kc false]

/-- `set_lock_state`; the mask is queried once more if traces are on, and `chunks` panics at 0. -/
def setLockState (traced : Bool) (lockState : LockState) (s : σ) : Outcome × σ :=
  match x.queryPointer s with
  | (none, s) => (.failed, s)
  | (some mask, s) =>
    let locks := toChange lockState mask
    if locks = [] then (.ok, s)
    else
      match x.getModifierMapping s with
      | (none, s) => (.failed, s)
      | (some (keycodesPerModifier, keycodes), s) =>
        if keycodesPerModifier = 0 then (.panicked, s)
        else
          let taps := locks.filterMap (lockTap x keycodesPerModifier keycodes)
          match perform x ((taps.flatMap tap).map some) s with
          | (.ok, s) =>
            if traced then
              match x.queryPointer s with
              | (some _, s) => (.ok, s)
              | (none, s) => (.failed, s)
            else (.ok, s)
          | r => r

end Operations

/-! ## What requests do -/

/-- Whether a key is down after a request. -/
def onKey (keycode : Nat) (down : Bool) (req : FakeInput) : Bool :=
  if req.type = 2 ∧ req.detail = keycode then true
  else if req.type = 3 ∧ req.detail = keycode then false
  else down

/-- Whether a button is down after a request. -/
def onButton (button : Nat) (down : Bool) (req : FakeInput) : Bool :=
  if req.type = 4 ∧ req.detail = button then true
  else if req.type = 5 ∧ req.detail = button then false
  else down

/-- Where the pointer was last sent after a request. -/
def onTarget (target : Int × Int) (req : FakeInput) : Int × Int :=
  if req.type = 6 then (req.rootX, req.rootY) else target

theorem keys_apply (d : Devices) (req : FakeInput) (k : Nat) :
    (d.apply req).keys k = onKey k (d.keys k) req := by
  unfold Devices.apply onKey
  split <;> rename_i htype <;> simp_all [Function.update_apply, eq_comm]

theorem buttons_apply (d : Devices) (req : FakeInput) (b : Nat) :
    (d.apply req).buttons b = onButton b (d.buttons b) req := by
  unfold Devices.apply onButton
  split <;> rename_i htype <;> simp_all [Function.update_apply, eq_comm]

theorem target_apply (d : Devices) (req : FakeInput) :
    (d.apply req).target = onTarget d.target req := by
  unfold Devices.apply onTarget
  split <;> rename_i htype <;> simp_all

theorem keys_foldl (reqs : List FakeInput) (d : Devices) (k : Nat) :
    (reqs.foldl Devices.apply d).keys k = reqs.foldl (onKey k) (d.keys k) := by
  induction reqs generalizing d with
  | nil => rfl
  | cons req reqs ih =>
    rw [List.foldl_cons, List.foldl_cons, ih, keys_apply]

theorem buttons_foldl (reqs : List FakeInput) (d : Devices) (b : Nat) :
    (reqs.foldl Devices.apply d).buttons b = reqs.foldl (onButton b) (d.buttons b) := by
  induction reqs generalizing d with
  | nil => rfl
  | cons req reqs ih =>
    rw [List.foldl_cons, List.foldl_cons, ih, buttons_apply]

theorem target_foldl (reqs : List FakeInput) (d : Devices) :
    (reqs.foldl Devices.apply d).target = reqs.foldl onTarget d.target := by
  induction reqs generalizing d with
  | nil => rfl
  | cons req reqs ih =>
    rw [List.foldl_cons, List.foldl_cons, ih, target_apply]

section Effects

variable {σ : Type} (x : XServer σ)

/-- **The requests that were accepted had their effect**, and they are the first ones. -/
theorem perform_effect (reqs : List (Option FakeInput)) (s : σ) :
    ∃ accepted rest, reqs = List.map some accepted ++ rest ∧
      x.devices (perform x reqs s).2 = accepted.foldl Devices.apply (x.devices s) ∧
      ((perform x reqs s).1 = .ok → rest = []) := by
  induction reqs generalizing s with
  | nil => exact ⟨[], [], rfl, rfl, fun _ => rfl⟩
  | cons req reqs ih =>
    cases req with
    | none => exact ⟨[], none :: reqs, rfl, rfl, fun h => by cases h⟩
    | some req =>
      have heffect := x.devices_fakeInput req s
      rw [perform]
      rcases h : x.fakeInput req s with ⟨accepted, s'⟩
      rw [h] at heffect
      cases accepted with
      | false => exact ⟨[], some req :: reqs, rfl, heffect, fun h => by cases h⟩
      | true =>
        have hs' : x.devices s' = (x.devices s).apply req := heffect
        obtain ⟨accepted, rest, hreqs, hdevices, hok⟩ := ih s'
        refine ⟨req :: accepted, rest, by rw [hreqs]; rfl, ?_, hok⟩
        rw [List.foldl_cons, ← hs']
        exact hdevices

/-! ### Events -/

theorem asU8_natCast (n : Nat) : asU8 n = n % 256 := by
  unfold asU8
  omega

theorem asU8_of_lt {n : Nat} (h : n < 256) : asU8 n = n := by
  rw [asU8_natCast, Nat.mod_eq_of_lt h]

@[simp] theorem onKey_keyRequest (k key : Nat) (down isDepressed : Bool) :
    onKey k down (keyRequest key isDepressed) = if asU8 key = k then isDepressed else down := by
  cases isDepressed <;> simp [onKey, keyRequest]

theorem pointer_keyRequest (d : Devices) (key : Nat) (isDepressed : Bool) :
    (d.apply (keyRequest key isDepressed)).pointer = d.pointer := by
  cases isDepressed <;> rfl

/-- Requests for keys leave the pointer and its buttons alone. -/
theorem pointer_foldl {reqs : List FakeInput} (d : Devices)
    (h : ∀ req ∈ reqs, ∃ key isDepressed, req = keyRequest key isDepressed) :
    (reqs.foldl Devices.apply d).pointer = d.pointer := by
  induction reqs generalizing d with
  | nil => rfl
  | cons req reqs ih =>
    obtain ⟨key, isDepressed, rfl⟩ := h _ List.mem_cons_self
    rw [List.foldl_cons, ih _ fun req' hreq' => h req' (List.mem_cons_of_mem _ hreq'),
      pointer_keyRequest]

@[simp] theorem onButton_motionRequest (b : Nat) (down : Bool) (location : Point) :
    onButton b down (motionRequest location) = down := by
  simp [onButton, motionRequest]

theorem onButton_buttonRequest {location : Point} {bs : WireButton × Bool} {req : FakeInput}
    (h : buttonRequest location bs = some req) (b : Nat) (down : Bool) :
    onButton b down req = if buttonDetail bs.1 = some b then bs.2 else down := by
  obtain ⟨detail, hdetail, rfl⟩ := Option.map_eq_some_iff.mp h
  obtain ⟨button, isDepressed⟩ := bs
  simp only at hdetail
  cases isDepressed <;> simp [onButton, hdetail]

theorem onKey_buttonRequest {location : Point} {bs : WireButton × Bool} {req : FakeInput}
    (h : buttonRequest location bs = some req) (k : Nat) (down : Bool) :
    onKey k down req = down := by
  obtain ⟨detail, -, rfl⟩ := Option.map_eq_some_iff.mp h
  obtain ⟨button, isDepressed⟩ := bs
  cases isDepressed <;> simp [onKey]

theorem foldl_eq_self {α β : Type} {f : β → α → β} {as : List α} {b : β}
    (h : ∀ a ∈ as, f b a = b) : as.foldl f b = b := by
  induction as with
  | nil => rfl
  | cons a as ih =>
    rw [List.foldl_cons, h a List.mem_cons_self]
    exact ih fun a' ha' => h a' (List.mem_cons_of_mem _ ha')

theorem perform_cons (req : FakeInput) (reqs : List (Option FakeInput)) (s : σ) :
    perform x (some req :: reqs) s =
      if (x.fakeInput req s).1 then perform x reqs (x.fakeInput req s).2
      else (.failed, (x.fakeInput req s).2) := by
  rw [perform]
  rcases x.fakeInput req s with ⟨accepted, s'⟩
  cases accepted <;> rfl

theorem perform_singleton (req : FakeInput) (s : σ) :
    perform x [some req] s =
      (if (x.fakeInput req s).1 then .ok else .failed, (x.fakeInput req s).2) := by
  rw [perform_cons]
  split <;> rfl

/-- What a key event does to a key, however it ends. -/
theorem notifyEvent_key (key : Nat) (isDepressed : Bool) (s : σ) (k : Nat) :
    (x.devices (notifyEvent x (.key key isDepressed) s).2).keys k =
      if (notifyEvent x (.key key isDepressed) s).1 = .ok ∧ asU8 key = k ∧ InRange x k then
        isDepressed else (x.devices s).keys k := by
  unfold notifyEvent
  dsimp only
  split
  · rename_i hrange
    rw [perform_singleton, x.devices_fakeInput]
    cases (x.fakeInput (keyRequest key isDepressed) s).1 with
    | false => simp
    | true =>
      simp only [if_true, keys_apply, onKey_keyRequest, true_and]
      by_cases hk : asU8 key = k
      · rw [if_pos hk, if_pos ⟨hk, hk ▸ hrange⟩]
      · rw [if_neg hk, if_neg fun h => hk h.1]
  · rename_i hrange
    rw [if_neg]
    rintro ⟨-, rfl, hk⟩
    exact hrange hk

theorem notifyEvent_key_pointer (key : Nat) (isDepressed : Bool) (s : σ) :
    (x.devices (notifyEvent x (.key key isDepressed) s).2).pointer = (x.devices s).pointer := by
  unfold notifyEvent
  dsimp only
  split
  · rw [perform_singleton, x.devices_fakeInput]
    split
    · exact pointer_keyRequest _ key isDepressed
    · rfl
  · rfl

/-- The requests of a pointer event that were accepted. -/
theorem mem_accepted {location : Point} {buttonStates : List (WireButton × Bool)}
    {accepted : List FakeInput} {rest : List (Option FakeInput)}
    (h : buttonStates.map (buttonRequest location) ++ [some (motionRequest location)] =
      List.map some accepted ++ rest) {req : FakeInput} (hreq : req ∈ accepted) :
    req = motionRequest location ∨
      ∃ bs ∈ buttonStates, buttonRequest location bs = some req := by
  have hmem : some req ∈ List.map some accepted ++ rest :=
    List.mem_append_left _ (List.mem_map_of_mem hreq)
  rw [← h] at hmem
  rcases List.mem_append.mp hmem with hb | hm
  · obtain ⟨bs, hbs, hreq⟩ := List.mem_map.mp hb
    exact Or.inr ⟨bs, hbs, hreq⟩
  · exact Or.inl (Option.some.inj (List.mem_singleton.mp hm))

theorem notifyEvent_pointer_keys (location : Point) (buttonStates : List (WireButton × Bool))
    (cursor : Nat) (s : σ) (k : Nat) :
    (x.devices (notifyEvent x (.pointer location buttonStates cursor) s).2).keys k =
      (x.devices s).keys k := by
  obtain ⟨accepted, rest, hreqs, hdevices, -⟩ := perform_effect x
    (buttonStates.map (buttonRequest location) ++ [some (motionRequest location)]) s
  rw [notifyEvent, hdevices, keys_foldl]
  apply foldl_eq_self
  intro req hreq
  rcases mem_accepted hreqs hreq with rfl | ⟨bs, -, hbs⟩
  · simp [onKey, motionRequest]
  · exact onKey_buttonRequest hbs k _

/-- Whether a button is down after the button states of an event. -/
def lastState (b : Nat) (down : Bool) (buttonStates : List (WireButton × Bool)) : Bool :=
  buttonStates.foldl (fun down bs => if buttonDetail bs.1 = some b then bs.2 else down) down

theorem foldl_onButton {location : Point} (b : Nat) {buttonStates : List (WireButton × Bool)}
    {accepted : List FakeInput} (down : Bool)
    (h : buttonStates.map (buttonRequest location) ++ [some (motionRequest location)] =
      List.map some accepted) :
    accepted.foldl (onButton b) down = lastState b down buttonStates := by
  induction buttonStates generalizing accepted down with
  | nil =>
    cases accepted with
    | nil => cases h
    | cons req accepted =>
      obtain ⟨hreq, haccepted⟩ := List.cons.inj h
      cases List.map_eq_nil_iff.mp haccepted.symm
      cases Option.some.inj hreq
      exact onButton_motionRequest b down location
  | cons bs buttonStates ih =>
    cases accepted with
    | nil => cases h
    | cons req accepted =>
      obtain ⟨hreq, haccepted⟩ := List.cons.inj h
      rw [List.foldl_cons, onButton_buttonRequest hreq, ih _ haccepted]
      rfl

/-- A button that a pointer event mentions, and one that it does not, after the event. -/
theorem notifyEvent_pointer_buttons (location : Point) (buttonStates : List (WireButton × Bool))
    (cursor : Nat) (s : σ) (b : Nat) :
    ((notifyEvent x (.pointer location buttonStates cursor) s).1 = .ok →
      (x.devices (notifyEvent x (.pointer location buttonStates cursor) s).2).buttons b =
        lastState b ((x.devices s).buttons b) buttonStates) ∧
    ((∀ bs ∈ buttonStates, buttonDetail bs.1 ≠ some b) →
      (x.devices (notifyEvent x (.pointer location buttonStates cursor) s).2).buttons b =
        (x.devices s).buttons b) := by
  obtain ⟨accepted, rest, hreqs, hdevices, hok⟩ := perform_effect x
    (buttonStates.map (buttonRequest location) ++ [some (motionRequest location)]) s
  rw [notifyEvent, hdevices, buttons_foldl]
  constructor
  · intro h
    rw [hok h, List.append_nil] at hreqs
    exact foldl_onButton b _ hreqs
  · intro hbs
    apply foldl_eq_self
    intro req hreq
    rcases mem_accepted hreqs hreq with rfl | ⟨bs, hmem, hreq⟩
    · exact onButton_motionRequest b _ location
    · rw [onButton_buttonRequest hreq, if_neg (hbs bs hmem)]

/-- A pointer event that succeeds sends the pointer to its location. -/
theorem notifyEvent_pointer_target (location : Point) (buttonStates : List (WireButton × Bool))
    (cursor : Nat) (s : σ)
    (h : (notifyEvent x (.pointer location buttonStates cursor) s).1 = .ok) :
    (x.devices (notifyEvent x (.pointer location buttonStates cursor) s).2).target =
      (asI16 location.x, asI16 location.y) := by
  obtain ⟨accepted, rest, hreqs, hdevices, hok⟩ := perform_effect x
    (buttonStates.map (buttonRequest location) ++ [some (motionRequest location)]) s
  rw [hok h, List.append_nil] at hreqs
  obtain ⟨buttons, motion, rfl, -, hmotion⟩ := List.map_eq_append_iff.mp hreqs.symm
  obtain ⟨req, rfl, hreq⟩ := List.map_eq_singleton_iff.mp hmotion
  rw [notifyEvent, hdevices, target_foldl, List.foldl_append, Option.some.inj hreq]
  rfl

/-! ### The reset -/

/-- Releasing keys only lets go of keys, and of every one of them. -/
theorem foldl_release (k : Nat) (down : Bool) (keycodes : List Nat) :
    (keycodes.map fun keycode => keyRequest keycode false).foldl (onKey k) down = true ↔
      down = true ∧ ∀ keycode ∈ keycodes, asU8 keycode ≠ k := by
  induction keycodes generalizing down with
  | nil => simp
  | cons keycode keycodes ih =>
    rw [List.map_cons, List.foldl_cons, ih, onKey_keyRequest]
    by_cases h : asU8 keycode = k <;> simp [h]

/-- A key whose bit is set is among those that are released. -/
theorem mem_heldKeycodes {bytes : List Nat} {k byte : Nat} (hbyte : bytes[k / 8]? = some byte)
    (hbit : byte.testBit (k % 8) = true) (hk : k < 256) (hrange : InRange x k) :
    k ∈ heldKeycodes x bytes := by
  have hzero : byte ≠ 0 := by
    rintro rfl
    simp at hbit
  have hkeycode : asU8 (k / 8 * 8 + k % 8 : Nat) = k := by
    rw [Nat.div_add_mod', asU8_of_lt hk]
  refine List.mem_flatMap.mpr ⟨(byte, k / 8), List.mem_zipIdx_iff_getElem?.mpr hbyte, ?_⟩
  simp only [byteKeycodes, if_neg hzero]
  refine List.mem_filterMap.mpr ⟨k % 8, List.mem_range.mpr (Nat.mod_lt k (by omega)), ?_⟩
  rw [if_pos hbit, hkeycode, if_pos hrange]

/-- The first of some releases are the releases of the first keycodes. -/
theorem exists_released {keycodes : List Nat} {accepted : List FakeInput}
    {rest : List (Option FakeInput)}
    (h : (keycodes.map fun keycode => some (keyRequest keycode false)) =
      List.map some accepted ++ rest) :
    ∃ released, accepted = (released.map fun keycode => keyRequest keycode false) ∧
      (rest = [] → released = keycodes) := by
  obtain ⟨released, others, hkeycodes, haccepted, hrest⟩ := List.map_eq_append_iff.mp h
  refine ⟨released, ?_, ?_⟩
  · apply List.map_injective_iff.mpr (Option.some_injective FakeInput)
    rw [← haccepted, List.map_map]
    rfl
  · rintro rfl
    rw [hkeycodes, List.map_eq_nil_iff.mp hrest, List.append_nil]

/-- Releasing the pressed keys presses none, leaves the buttons alone and, when it succeeds, leaves
no key down. -/
theorem releasePressedKeys_effect (s : σ) :
    (∀ k, (x.devices (releasePressedKeys x s).2).keys k = true →
      (x.devices s).keys k = true ∧ (releasePressedKeys x s).1 ≠ .ok) ∧
    (x.devices (releasePressedKeys x s).2).pointer = (x.devices s).pointer := by
  have hdevices := x.devices_queryKeymap s
  have hkeys := x.queryKeymap_keys s
  unfold releasePressedKeys
  rcases h : x.queryKeymap s with ⟨_ | bytes, s'⟩
  · rw [h] at hdevices
    dsimp only at hdevices ⊢
    rw [hdevices]
    exact ⟨fun k hk => ⟨hk, by simp⟩, rfl⟩
  · rw [h] at hdevices hkeys
    obtain ⟨hlength, hbits⟩ := hkeys bytes rfl
    dsimp only at hdevices ⊢
    obtain ⟨accepted, rest, hreqs, heffect, hok⟩ := perform_effect x
      ((heldKeycodes x bytes).map fun keycode => some (keyRequest keycode false)) s'
    obtain ⟨released, rfl, hreleased⟩ := exists_released hreqs
    rw [heffect, hdevices]
    constructor
    · intro k hk
      rw [keys_foldl, foldl_release] at hk
      refine ⟨hk.1, fun hdone => ?_⟩
      -- the key was down, so its bit was set in the keymap
      have hrange := x.keys_in_range s k hk.1
      have hlt : k < 256 := lt_of_le_of_lt hrange.2 x.maxKeycode_lt
      have hindex : k / 8 < bytes.length := by omega
      have hbit := hbits (k / 8) bytes[k / 8] (List.getElem?_eq_getElem hindex) (k % 8) (by omega)
      rw [Nat.div_add_mod, hk.1] at hbit
      have hmem := mem_heldKeycodes x (List.getElem?_eq_getElem hindex) hbit hlt hrange
      rw [← hreleased (hok hdone)] at hmem
      exact hk.2 k hmem (asU8_of_lt hlt)
    · apply pointer_foldl
      intro req hreq
      obtain ⟨keycode, -, rfl⟩ := List.mem_map.mp hreq
      exact ⟨keycode, false, rfl⟩

theorem resetSessionState_effect (s : σ) :
    (∀ k, (x.devices (resetSessionState x s).2).keys k = true →
      (x.devices s).keys k = true ∧ (resetSessionState x s).1 ≠ .ok) ∧
    (x.devices (resetSessionState x s).2).pointer = (x.devices s).pointer := by
  obtain ⟨hkeys, hpointer⟩ := releasePressedKeys_effect x s
  unfold resetSessionState
  split
  · rename_i s' h
    rw [h] at hkeys hpointer
    have hdevices : x.devices (clearFocus x s').2 = x.devices s' := by
      have hfocus := x.devices_setInputFocus s'
      unfold clearFocus
      split <;> rename_i h' <;> rw [h'] at hfocus <;> exact hfocus
    rw [hdevices]
    exact ⟨fun k hk => absurd rfl (hkeys k hk).2, hpointer⟩
  · exact ⟨hkeys, hpointer⟩

/-! ### The locks -/

theorem foldl_taps (k : Nat) (down : Bool) (taps : List Nat) :
    (taps.flatMap tap).foldl (onKey k) down = true ↔ down = true ∧ ∀ kc ∈ taps, asU8 kc ≠ k := by
  induction taps generalizing down with
  | nil => simp
  | cons kc taps ih =>
    rw [List.flatMap_cons, List.foldl_append, ih]
    simp only [tap, List.foldl_cons, List.foldl_nil, onKey_keyRequest]
    by_cases h : asU8 kc = k <;> simp [h]

/-- Tapping keys leaves no key down that was not, when it succeeds, and leaves the buttons alone. -/
theorem perform_taps (taps : List Nat) (s : σ) :
    ((perform x ((taps.flatMap tap).map some) s).1 = .ok → ∀ k,
      (x.devices (perform x ((taps.flatMap tap).map some) s).2).keys k = true →
        (x.devices s).keys k = true) ∧
    (x.devices (perform x ((taps.flatMap tap).map some) s).2).pointer = (x.devices s).pointer := by
  obtain ⟨accepted, rest, hreqs, hdevices, hok⟩ := perform_effect x ((taps.flatMap tap).map some) s
  rw [hdevices]
  constructor
  · intro h k hk
    rw [hok h, List.append_nil] at hreqs
    rw [← List.map_injective_iff.mpr (Option.some_injective FakeInput) hreqs, keys_foldl,
      foldl_taps] at hk
    exact hk.1
  · apply pointer_foldl
    intro req hreq
    have hmem : some req ∈ (taps.flatMap tap).map some := by
      rw [hreqs]
      exact List.mem_append_left _ (List.mem_map_of_mem hreq)
    obtain ⟨req', hreq', heq⟩ := List.mem_map.mp hmem
    cases heq
    obtain ⟨kc, -, hkc⟩ := List.mem_flatMap.mp hreq'
    rcases List.mem_pair.mp hkc with rfl | rfl <;> exact ⟨kc, _, rfl⟩

/-- Setting the locks is tapping some keys, as far as keys and buttons are concerned. -/
theorem setLockState_taps (traced : Bool) (lockState : LockState) (s : σ) :
    ∃ (taps : List Nat) (s' : σ), x.devices s' = x.devices s ∧
      x.devices (setLockState x traced lockState s).2 =
        x.devices (perform x ((taps.flatMap tap).map some) s').2 ∧
      ((setLockState x traced lockState s).1 = .ok →
        (perform x ((taps.flatMap tap).map some) s').1 = .ok) := by
  have hpointer := x.devices_queryPointer s
  unfold setLockState
  rcases h₁ : x.queryPointer s with ⟨_ | mask, s₁⟩ <;> rw [h₁] at hpointer
  · exact ⟨[], s₁, hpointer, rfl, fun _ => rfl⟩
  · dsimp only
    split
    · exact ⟨[], s₁, hpointer, rfl, fun _ => rfl⟩
    · have hmapping := x.devices_getModifierMapping s₁
      rcases h₂ : x.getModifierMapping s₁ with ⟨_ | ⟨keycodesPerModifier, keycodes⟩, s₂⟩ <;>
        rw [h₂] at hmapping
      · exact ⟨[], s₂, hmapping.trans hpointer, rfl, fun _ => rfl⟩
      · dsimp only
        split
        · exact ⟨[], s₂, hmapping.trans hpointer, rfl, fun _ => rfl⟩
        · refine ⟨(toChange lockState mask).filterMap (lockTap x keycodesPerModifier keycodes), s₂,
            hmapping.trans hpointer, ?_⟩
          rcases perform x ((((toChange lockState mask).filterMap
              (lockTap x keycodesPerModifier keycodes)).flatMap tap).map some) s₂ with ⟨outcome, s₃⟩
          cases outcome with
          | ok =>
            have htrace := x.devices_queryPointer s₃
            dsimp only
            split
            · split <;> rename_i h₄ <;> rw [h₄] at htrace <;> exact ⟨htrace, fun _ => rfl⟩
            · exact ⟨rfl, fun _ => rfl⟩
          | failed => exact ⟨rfl, fun h => h⟩
          | panicked => exact ⟨rfl, fun h => h⟩

theorem setLockState_effect (traced : Bool) (lockState : LockState) (s : σ) :
    ((setLockState x traced lockState s).1 = .ok → ∀ k,
      (x.devices (setLockState x traced lockState s).2).keys k = true →
        (x.devices s).keys k = true) ∧
    (x.devices (setLockState x traced lockState s).2).pointer = (x.devices s).pointer := by
  obtain ⟨taps, s', hs', hdevices, hok⟩ := setLockState_taps x traced lockState s
  obtain ⟨hkeys, hpointer⟩ := perform_taps x taps s'
  rw [hdevices, ← hs']
  exact ⟨fun h => hkeys (hok h), hpointer⟩

end Effects

/-! ## An X server of this kind -/

/-- The devices of an X server with the keycodes from 8 to 255, and its modifiers. -/
structure Xvfb where
  devices : Devices
  mask : Nat
  in_range : ∀ k, devices.keys k = true → 8 ≤ k ∧ k ≤ 255

namespace Xvfb

def start : Xvfb := ⟨⟨fun _ => false, fun _ => false, (0, 0)⟩, 0, fun _ h => by cases h⟩

/-- A key that is pressed while it is up switches its lock. -/
def switch (lockOf : Nat → Option Nat) (s : Xvfb) (req : FakeInput) : Nat :=
  if req.type = 2 ∧ s.devices.keys req.detail = false then
    match lockOf req.detail with
    | some i => s.mask ^^^ 1 <<< i
    | none => s.mask
  else s.mask

def InRange (req : FakeInput) : Prop :=
  req.type = 2 ∨ req.type = 3 → 8 ≤ req.detail ∧ req.detail ≤ 255

instance (req : FakeInput) : Decidable (InRange req) := inferInstanceAs (Decidable (_ → _))

theorem in_range_apply {s : Xvfb} {req : FakeInput} (h : InRange req) (k : Nat)
    (hk : (s.devices.apply req).keys k = true) : 8 ≤ k ∧ k ≤ 255 := by
  rw [keys_apply, onKey] at hk
  split at hk
  · rename_i hpress
    exact hpress.2 ▸ h (Or.inl hpress.1)
  · split at hk
    · cases hk
    · exact s.in_range k hk

def fakeInput (lockOf : Nat → Option Nat) (req : FakeInput) (s : Xvfb) : Bool × Xvfb :=
  if h : InRange req then (true, ⟨s.devices.apply req, s.switch lockOf req, in_range_apply h⟩)
  else (false, s)

theorem mask_fakeInput (lockOf : Nat → Option Nat) (req : FakeInput) (s : Xvfb) :
    (fakeInput lockOf req s).2.mask = if InRange req then s.switch lockOf req else s.mask := by
  unfold fakeInput
  split <;> simp [*]

/-- The keymap, with the least significant bit first. -/
def keymap (s : Xvfb) : List Nat :=
  (List.range 32).map fun index =>
    Nat.ofBits fun bit : Fin 8 => s.devices.keys (8 * index + bit)

/-- A server that accepts every request for an existing key. -/
def server (mapping : Nat × List Nat) (lockOf : Nat → Option Nat) : XServer Xvfb where
  minKeycode := 8
  maxKeycode := 255
  devices := devices
  fakeInput := fakeInput lockOf
  setInputFocus s := (true, s)
  queryKeymap s := (some s.keymap, s)
  queryPointer s := (some s.mask, s)
  getModifierMapping s := (some mapping, s)
  setDisplays _ s := (.ok, s)
  maxKeycode_lt := by omega
  keys_in_range s k := s.in_range k
  devices_fakeInput req s := by
    unfold fakeInput
    split <;> rfl
  devices_setInputFocus _ := rfl
  devices_queryKeymap _ := rfl
  devices_queryPointer _ := rfl
  devices_getModifierMapping _ := rfl
  devices_setDisplays _ _ := rfl
  queryKeymap_keys s bytes h := by
    cases Option.some.inj h
    refine ⟨by simp [keymap], ?_⟩
    intro index byte hbyte bit hbit
    rw [keymap, List.getElem?_map, Option.map_eq_some_iff] at hbyte
    obtain ⟨index', hindex, rfl⟩ := hbyte
    obtain ⟨hlt, rfl⟩ := List.getElem?_eq_some_iff.mp hindex
    rw [List.getElem_range, Nat.testBit_ofBits_lt _ _ hbit]

/-- The modifier map of a usual keyboard, two keycodes each. -/
def pcMapping : Nat × List Nat :=
  (2, [50, 62, 66, 0, 37, 105, 64, 205, 77, 0, 78, 0, 133, 134, 92, 203])

/-- Its locks. -/
def pcLocks : Nat → Option Nat
  | 66 => some 1
  | 77 => some 4
  | 78 => some 5
  | _ => none

def pc : XServer Xvfb := server pcMapping pcLocks

end Xvfb

end ApertureC.XInput
