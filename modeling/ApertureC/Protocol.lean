import Mathlib.Algebra.GroupWithZero.Nat
import ApertureC.Lib.Geometry
import ApertureC.Lib.MapM

/-!
# Messages and display configurations

* `Display`, `DisplayDecoderInfo`, `DisplayConfiguration` — `aperturec-graphics/src/display.rs`.
* `Codec`, `FrameFragment`, `EmptyFrameTerminal`, `MediaMessage` — the media messages of
  `aperturec-protocol/proto/media.proto`.  Sub-messages are optional on the wire and enumerations
  are open integers, so both are checked when a message is converted.
* `Proto.DisplayConfiguration`, `DisplayConfiguration.tryFrom` — the wire form of a display
  configuration and its conversion, `aperturec-protocol/src/convenience.rs`.

Principal result: `DisplayConfiguration.tryFrom_disabled` (a configuration that converts gives no
decoder to a disabled display).
-/

set_option autoImplicit false

namespace ApertureC

open Geometry MapM

structure Display where
  area : Rect
  isEnabled : Bool
  deriving DecidableEq, Repr

structure DisplayDecoderInfo where
  display : Display
  decoderAreas : List Rect
  deriving DecidableEq, Repr

structure DisplayConfiguration where
  id : Nat
  displayDecoderInfos : List DisplayDecoderInfo
  deriving DecidableEq, Repr

def DisplayConfiguration.encoderCount (c : DisplayConfiguration) : Nat :=
  (c.displayDecoderInfos.map fun ddi => ddi.decoderAreas.length).sum

inductive Codec where
  | unspecified
  | raw
  | zlib
  | jpegxl
  deriving DecidableEq, Repr

/-- The number of a codec on the wire. -/
def Codec.toInt : Codec → Int
  | .unspecified => 0
  | .raw => 1
  | .zlib => 2
  | .jpegxl => 3

/-- `TryFrom<i32> for Codec`. -/
def Codec.tryFrom (n : Int) : Option Codec :=
  [Codec.unspecified, .raw, .zlib, .jpegxl].find? fun c => c.toInt = n

@[simp] theorem Codec.tryFrom_toInt (c : Codec) : Codec.tryFrom c.toInt = some c := by
  cases c <;> rfl

structure FrameFragment where
  frame : Nat
  encoder : Nat
  sequence : Nat
  display : Nat
  displayConfig : Nat
  terminal : Bool
  codec : Int
  location : Option Point
  dimension : Option Size
  data : List UInt8
  deriving DecidableEq, Repr

structure EmptyFrameTerminal where
  frame : Nat
  encoder : Nat
  display : Nat
  displayConfig : Nat
  deriving DecidableEq, Repr

/-- `media::server_to_client::Message`. -/
inductive MediaMessage where
  | fragment (frag : FrameFragment)
  | terminal (term : EmptyFrameTerminal)
  deriving DecidableEq, Repr

namespace MediaMessage

def displayConfig : MediaMessage → Nat
  | .fragment frag => frag.displayConfig
  | .terminal term => term.displayConfig

def display : MediaMessage → Nat
  | .fragment frag => frag.display
  | .terminal term => term.display

end MediaMessage

/-! ## Display configurations on the wire -/

namespace Proto

structure Rectangle where
  location : Option Point
  dimension : Option Size
  deriving DecidableEq, Repr

structure DisplayInfo where
  area : Option Rectangle
  isEnabled : Bool
  deriving DecidableEq, Repr

structure DisplayDecoderInfo where
  display : Option DisplayInfo
  decoderAreas : List Rectangle
  deriving DecidableEq, Repr

structure DisplayConfiguration where
  id : Nat
  displayDecoderInfos : List DisplayDecoderInfo
  deriving DecidableEq, Repr

end Proto

inductive ConvertError where
  | missingField (field : String)
  | decoderAssignedToDisabledDisplay
  deriving DecidableEq, Repr

/-- `TryFrom<common::Rectangle> for Rect`. -/
def rectTryFrom (r : Proto.Rectangle) : Except ConvertError Rect :=
  match r.location, r.dimension with
  | none, _ => .error (.missingField "location")
  | some _, none => .error (.missingField "dimension")
  | some location, some dimension => .ok ⟨location, dimension⟩

/-- `TryFrom<common::DisplayInfo> for Display`. -/
def Display.tryFrom (d : Proto.DisplayInfo) : Except ConvertError Display :=
  match d.area with
  | none => .error (.missingField "area")
  | some area => (rectTryFrom area).map fun area => ⟨area, d.isEnabled⟩

/-- `TryFrom<common::DisplayDecoderInfo> for DisplayDecoderInfo`. -/
def DisplayDecoderInfo.tryFrom (ddi : Proto.DisplayDecoderInfo) :
    Except ConvertError DisplayDecoderInfo :=
  match ddi.display with
  | none => .error (.missingField "display")
  | some display =>
    match Display.tryFrom display with
    | .error e => .error e
    | .ok display =>
      if !display.isEnabled then
        if !ddi.decoderAreas.isEmpty then .error .decoderAssignedToDisabledDisplay
        else .ok ⟨display, []⟩
      else (ddi.decoderAreas.mapM rectTryFrom).map (DisplayDecoderInfo.mk display)

/-- `TryFrom<common::DisplayConfiguration> for DisplayConfiguration`. -/
def DisplayConfiguration.tryFrom (dc : Proto.DisplayConfiguration) :
    Except ConvertError DisplayConfiguration :=
  (dc.displayDecoderInfos.mapM DisplayDecoderInfo.tryFrom).map (DisplayConfiguration.mk dc.id)

theorem DisplayDecoderInfo.tryFrom_disabled {p : Proto.DisplayDecoderInfo} {ddi : DisplayDecoderInfo}
    (h : DisplayDecoderInfo.tryFrom p = .ok ddi) (hd : ddi.display.isEnabled = false) :
    ddi.decoderAreas = [] := by
  unfold DisplayDecoderInfo.tryFrom at h
  split at h
  · cases h
  · split at h
    · cases h
    · split at h
      · split at h
        · cases h
        · cases h; rfl
      · rename_i henabled
        cases hm : p.decoderAreas.mapM rectTryFrom with
        | error e => rw [hm] at h; cases h
        | ok areas =>
          rw [hm] at h
          cases h
          exact absurd (by rw [hd]; rfl) henabled

/-- **A configuration that converts gives no decoder to a disabled display.** -/
theorem DisplayConfiguration.tryFrom_disabled {p : Proto.DisplayConfiguration}
    {dc : DisplayConfiguration} (h : DisplayConfiguration.tryFrom p = .ok dc) :
    ∀ ddi ∈ dc.displayDecoderInfos, ddi.display.isEnabled = false → ddi.decoderAreas = [] := by
  unfold DisplayConfiguration.tryFrom at h
  cases hm : p.displayDecoderInfos.mapM DisplayDecoderInfo.tryFrom with
  | error e => rw [hm] at h; cases h
  | ok infos =>
    rw [hm] at h
    cases h
    intro ddi hddi hd
    obtain ⟨q, -, hq⟩ := mem_of_mapM hm ddi hddi
    exact DisplayDecoderInfo.tryFrom_disabled hq hd

end ApertureC
