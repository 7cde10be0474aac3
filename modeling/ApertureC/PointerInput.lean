import ApertureC.BackendTask
import ApertureC.ClientWorkers
import ApertureC.UiFreshness

/-!
# Pointer input

A window sends the pointer's position to the server when it moves and when a button is pressed or
released: the handlers of `Window::new` in `aperturec-client-gtk4/src/main.rs`, the connection in
`aperturec-client/src/lib.rs` and the message in `channels/event.rs`.

* `Window.motion`, `Window.pressed`, `Window.released` — the handlers, at whole coordinates.
* `UserEvent.toMessage` — the message of an event.
* `serverPixel` — the pixel of the server that is drawn at a position of a window.
* `Agrees` — the positions sent at a position of a window are those of the pixel drawn there.

Principal results: `shown_serverPixel` (what a window shows at a position is what the screen shows at
the server's pixel), `input_agrees_iff` (**input and drawing agree exactly when every window begins
at the origin**) and `not_agrees_of_two` (they never do with two windows).
-/

set_option autoImplicit false

namespace ApertureC

open Geometry

/-! ## Events and messages -/

/-- `proto::Button`; the mapped buttons are numbered from 0 to 9. -/
inductive Button where
  | mapped (n : Nat)
  | unmapped (code : Nat)
  deriving DecidableEq, Repr

/-- `Button::from_code`, where the code is read as an `i32`. -/
def Button.fromCode (code : Nat) : Button :=
  let n : Int := (if code < 2 ^ 31 then (code : Int) else (code : Int) - 2 ^ 32) + 1
  if 0 ≤ n ∧ n ≤ 9 then .mapped n.toNat else .unmapped code

/-- `proto::PointerEvent`; the cursor is the default one. -/
structure PointerEvent where
  buttonStates : List (Button × Bool)
  location : Option Point
  deriving DecidableEq, Repr

/-- `c2s::Message` -/
inductive C2s.Message where
  | keyEvent (key : Nat) (down : Bool)
  | pointerEvent (event : PointerEvent)
  | displayEvent (displays : List Proto.DisplayInfo)
  deriving DecidableEq, Repr

/-- `From<UserEvent> for c2s::Message` -/
def UserEvent.toMessage : UserEvent → C2s.Message
  | .mouseButton code isPressed pos =>
    .pointerEvent ⟨[(Button.fromCode code, isPressed)], some pos⟩
  | .pointer pos => .pointerEvent ⟨[], some pos⟩
  | .key code isPressed => .keyEvent code isPressed
  | .displayChange displays => .displayEvent (displays.map .fromDisplay)

/-- The location that a message carries. -/
def C2s.Message.location : C2s.Message → Option Point
  | .pointerEvent event => event.location
  | _ => none

namespace Connection

def pointerMove (x y : Nat) : UserEvent := .pointer ⟨x, y⟩

def setMouseButtonState (code x y : Nat) (isPressed : Bool) : UserEvent :=
  .mouseButton code isPressed ⟨x, y⟩

def mouseButtonPress (code x y : Nat) : UserEvent := setMouseButtonState code x y true

def mouseButtonRelease (code x y : Nat) : UserEvent := setMouseButtonState code x y false

end Connection

namespace Window

/-- `x.round() as _` of a whole coordinate: a negative one saturates. -/
def coordinate (x : Int) : Nat := x.toNat

def motion (x y : Int) : UserEvent := Connection.pointerMove (coordinate x) (coordinate y)

/-- The toolkit's buttons start at 1; 0 is none. -/
def pressed (currentButton : Nat) (x y : Int) : Option UserEvent :=
  if currentButton = 0 then none
  else some (Connection.mouseButtonPress (currentButton - 1) (coordinate x) (coordinate y))

def released (currentButton : Nat) (x y : Int) : Option UserEvent :=
  if currentButton = 0 then none
  else some (Connection.mouseButtonRelease (currentButton - 1) (coordinate x) (coordinate y))

end Window

/-! ## Input and drawing -/

/-- The pixel of the server that a window of this area shows at a position. -/
def serverPixel (area : Rect) (p : Point) : Point := ⟨area.origin.x + p.x, area.origin.y + p.y⟩

/-- A window shows at a position what the screen shows at the server's pixel. -/
theorem Ui.Consistent.shown_serverPixel {ui : Ui} (hc : ui.Consistent) {e : Rect × Image}
    (he : e ∈ ui.windows) {p : Point} (hx : p.x < e.1.size.width) (hy : p.y < e.1.size.height) :
    ui.shown (serverPixel e.1 p) = some (e.2.pixelAt p) := by
  have hcontains : e.1.contains (serverPixel e.1 p) = true := by
    rw [Rect.contains_iff]
    simp only [serverPixel]
    omega
  have hwindow := hc.windowAt_eq_some.mpr ⟨he, hcontains⟩
  rw [Ui.shown, hwindow, Option.map_some]
  simp only [Ui.registerAt, serverPixel, Nat.add_sub_cancel_left]

/-- A draw of the server's pixel is written at the position of the window. -/
theorem Ui.Consistent.draw_serverPixel {ui ui' : Ui} (hc : ui.Consistent) {d : Draw}
    (h : ui.draw d = some ui') {e : Rect × Image} (hwin : ui.windowAt d.origin = some e) {p : Point}
    (hx : p.x < e.1.size.width) (hy : p.y < e.1.size.height)
    (hp : serverPixel e.1 p ∈ d.area.toBox2D) :
    ∃ w, d.writeAt (serverPixel e.1 p) = some w ∧
      ui'.shown (serverPixel e.1 p) = some (LastWriter.write (e.2.pixelAt p) w) := by
  obtain ⟨he, -⟩ := hc.windowAt_eq_some.mp hwin
  obtain ⟨r, w, hr, hw, hw'⟩ := hc.draw_shown h hwin hp
  rw [hc.shown_serverPixel he hx hy] at hr
  cases hr
  exact ⟨w, hw, hw'⟩

/-- What a window of this area sends for the pointer at a position is the place of the pixel that is
drawn there. -/
def Agrees (area : Rect) (p : Point) : Prop :=
  (Window.motion p.x p.y).toMessage.location = some (serverPixel area p) ∧
    ∀ currentButton event,
      Window.pressed currentButton p.x p.y = some event ∨
        Window.released currentButton p.x p.y = some event →
      event.toMessage.location = some (serverPixel area p)

/-- The handlers send the position in the window. -/
theorem sent_location (p : Point) :
    (Window.motion p.x p.y).toMessage.location = some p ∧
      ∀ currentButton event,
        Window.pressed currentButton p.x p.y = some event ∨
          Window.released currentButton p.x p.y = some event →
        event.toMessage.location = some p := by
  refine ⟨rfl, ?_⟩
  intro currentButton event h
  rcases h with h | h
  · unfold Window.pressed at h
    split at h <;> cases h
    rfl
  · unfold Window.released at h
    split at h <;> cases h
    rfl

theorem serverPixel_eq_self_iff (area : Rect) (p : Point) :
    serverPixel area p = p ↔ area.origin = Point.zero := by
  obtain ⟨⟨ox, oy⟩, size⟩ := area
  obtain ⟨px, py⟩ := p
  simp only [serverPixel, Point.zero, Point.mk.injEq]
  omega

theorem agrees_iff (area : Rect) (p : Point) : Agrees area p ↔ area.origin = Point.zero := by
  obtain ⟨hmotion, hbutton⟩ := sent_location p
  rw [← serverPixel_eq_self_iff area p]
  constructor
  · intro h
    exact Option.some.inj (h.1.symm.trans hmotion)
  · intro heq
    rw [Agrees, heq]
    exact ⟨hmotion, hbutton⟩

/-- **Pointer input and drawing use the same coordinates exactly when every window of the current
mode that has a pixel begins at the origin.** -/
theorem input_agrees_iff (ui : Ui) :
    (∀ e ∈ ui.windows, ∀ p : Point, p.x < e.1.size.width → p.y < e.1.size.height →
        Agrees e.1 p) ↔
      ∀ e ∈ ui.windows, e.1.isEmpty = false → e.1.origin = Point.zero := by
  refine forall₂_congr fun e _ => ?_
  constructor
  · intro h hempty
    have hsize : 0 < e.1.size.width ∧ 0 < e.1.size.height := by
      simpa [Rect.isEmpty, Nat.pos_iff_ne_zero] using hempty
    exact (agrees_iff e.1 Point.zero).mp (h Point.zero hsize.1 hsize.2)
  · intro h p hx hy
    refine (agrees_iff e.1 p).mpr (h ?_)
    simp [Rect.isEmpty]
    omega

theorem single_agrees {ui : Ui} {fullscreen : Bool} (h : ui.windowMode = .single fullscreen)
    {e : Rect × Image} (he : e ∈ ui.windows) (p : Point) : Agrees e.1 p := by
  rw [agrees_iff]
  rw [Ui.windows, h] at he
  rw [List.mem_singleton.mp he]
  rfl

/-- **With two windows, input disagrees with drawing in one of them.** -/
theorem not_agrees_of_two {ui : Ui} (hc : ui.Consistent) {e₁ e₂ : Rect × Image}
    (h₁ : e₁ ∈ ui.windows) (h₂ : e₂ ∈ ui.windows) (hne : e₁ ≠ e₂) (hempty₁ : e₁.1.isEmpty = false)
    (hempty₂ : e₂.1.isEmpty = false) :
    ¬ ∀ e ∈ ui.windows, ∀ p : Point, p.x < e.1.size.width → p.y < e.1.size.height →
      Agrees e.1 p := by
  have hzero : ∀ e : Rect × Image, e.1.isEmpty = false → e.1.origin = Point.zero →
      e.1.contains Point.zero = true := by
    intro e hempty horigin
    have hsize : 0 < e.1.size.width ∧ 0 < e.1.size.height := by
      simpa [Rect.isEmpty, Nat.pos_iff_ne_zero] using hempty
    rw [Rect.contains_iff, horigin]
    simp only [Point.zero]
    omega
  intro h
  have horigin := (input_agrees_iff ui).mp h
  have hat₁ := hc.windowAt_eq_some.mpr ⟨h₁, hzero e₁ hempty₁ (horigin e₁ h₁ hempty₁)⟩
  have hat₂ := hc.windowAt_eq_some.mpr ⟨h₂, hzero e₂ hempty₂ (horigin e₂ h₂ hempty₂)⟩
  rw [hat₁] at hat₂
  cases hat₂
  exact hne rfl

/-- Two monitors side by side: the pointer in the corner of the second one is sent as the corner of
the first. -/
theorem second_monitor_disagrees : ∃ ui image,
    Ui.new .multiFullscreen (Session.pairConfig 0) (some Session.pairMonitors) = some (.ok ui) ∧
      ((⟨⟨1, 0⟩, ⟨1, 1⟩⟩, image) : Rect × Image) ∈ ui.windows ∧
      (Window.motion 0 0).toMessage.location = some ⟨0, 0⟩ ∧
      serverPixel ⟨⟨1, 0⟩, ⟨1, 1⟩⟩ ⟨0, 0⟩ = ⟨1, 0⟩ ∧
      ¬ Agrees ⟨⟨1, 0⟩, ⟨1, 1⟩⟩ ⟨0, 0⟩ := by
  refine ⟨_, _, rfl, List.mem_cons_of_mem _ List.mem_cons_self, rfl, rfl, fun h => ?_⟩
  have hsent := h.1
  exact absurd hsent (by decide)

end ApertureC
