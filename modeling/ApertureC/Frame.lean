import ApertureC.Lib.RangeSet
import ApertureC.Lib.Usize
import ApertureC.Pixel
import ApertureC.Protocol
import Std.Data.ExtTreeMap.Lemmas

/-!
# The client's framer (`aperturec-client/src/frame.rs`)

* `EncodedFragmentData.tryFrom`, `EncodedFragmentData.decode` — conversion and decoding of a
  fragment; the Zlib and JPEG XL decoders are a parameter.
* `DecoderFrameState`, `InFlightFrame`, `EarlyDrawFrame` — what has been received of a frame.
* `DisplayFramer.reportFragment`, `reportEmptyFrameTerminal`, `reportTerminal` — the frames of one
  display move between `inFlight`, `earlyDraw` and `complete`.  Each returns its result together
  with the state it leaves, because an error after a change keeps the change.
* `Framer.reportMm`, `Framer.getDrawsAndReset` — dispatch over the displays of a configuration.

`usize` is 64 bits wide, so the conversions of the message's integers never fail.  The location of a
fragment is any such integer, and nothing checks it before the origins are added: `toDraw` and
`getDrawsAndReset` are those of a build without overflow checks, where the sums wrap, and
`toDrawIn` and `getDrawsAndResetIn` those of either build.

Principal results: `EncodedFragmentData.decode_labels` (decoding keeps the labels of a fragment) and
`Framer.getDrawsAndResetIn_eq_some_iff` (the builds differ only where an origin does not fit).
-/

set_option autoImplicit false

namespace ApertureC

open Geometry Usize

/-- The errors of the module; `text` is their message. -/
inductive FrameError where
  | noOrigin
  | noDimension
  | unknownCodec (codec : Int)
  | unsupportedCodec (codec : Codec)
  | codecFailed (msg : String)
  | decompressedLength (len : Nat) (size : Size)
  | shape
  | identicalSequence (sequence : Nat)
  | duplicateTerminals
  | completeDecoderFrame
  | nonEmptyFrame
  | previouslyTerminated
  | invalidDecoder (decoder : Nat)
  | fragmentNoDecoder (sequence decoder : Nat)
  | emptyTerminalNoDecoder (decoder : Nat)
  | fragmentForComplete (frame : Nat)
  | emptyTerminalForComplete (frame : Nat)
  | terminalForComplete
  | terminalInvalidDecoder (decoder : Nat)
  | mismatchingConfig (got current : Nat)
  | invalidDisplay (display : Nat)
  deriving DecidableEq, Repr

def Codec.debug : Codec → String
  | .unspecified => "Unspecified"
  | .raw => "Raw"
  | .zlib => "Zlib"
  | .jpegxl => "Jpegxl"

def FrameError.text : FrameError → String
  | .noOrigin => "no origin"
  | .noDimension => "no dimension"
  | .unknownCodec codec => s!"unknown enumeration value {codec}"
  | .unsupportedCodec codec => s!"Unsupported codec: {codec.debug}"
  | .codecFailed msg => msg
  | .decompressedLength len size =>
    s!"Decompressed Length {len} < {size.width}x{size.height}x{3} = {size.area * 3}"
  | .shape => "ShapeError/IncompatibleShape: incompatible shapes"
  | .identicalSequence sequence => s!"identical sequence {sequence}"
  | .duplicateTerminals => "received duplicate terminals"
  | .completeDecoderFrame => "marking sequence received for complete decoder frame"
  | .nonEmptyFrame => "marking non-empty frame terminated with empty frame terminal"
  | .previouslyTerminated =>
    "marking empty frame terminal received for previously terminated frame"
  | .invalidDecoder decoder => s!"Invalid decoder {decoder}"
  | .fragmentNoDecoder sequence decoder =>
    s!"mark fragment {sequence} received for decoder {decoder}, which does not exist"
  | .emptyTerminalNoDecoder decoder =>
    s!"mark empty frame terminal received for decoder {decoder}, which does not exist"
  | .fragmentForComplete frame => s!"fragment for complete frame {frame}"
  | .emptyTerminalForComplete frame => s!"empty frame terminal for complete frame {frame}"
  | .terminalForComplete => "terminal for complete frame"
  | .terminalInvalidDecoder decoder => s!"invalid decoder {decoder}"
  | .mismatchingConfig got current => s!"Mismatching display config id {got} != {current}"
  | .invalidDisplay display => s!"Invalid display {display}"

/-- A call either returns an error or panics (`unreachable!`). -/
inductive Failure where
  | err (e : FrameError)
  | panic
  deriving DecidableEq, Repr

/-! ## Decoding -/

/-- The decoders of the external codec libraries. -/
structure Codecs where
  zlib : List UInt8 → Except String (List UInt8)
  jpegxl : List UInt8 → Except String (List UInt8)

/-- `decode`. -/
def decodeBytes (codecs : Codecs) (codec : Codec) (data : List UInt8) :
    Except FrameError (List UInt8) :=
  match codec with
  | .raw => .ok data
  | .zlib => (codecs.zlib data).mapError .codecFailed
  | .jpegxl => (codecs.jpegxl data).mapError .codecFailed
  | .unspecified => .error (.unsupportedCodec .unspecified)

structure EncodedFragmentData where
  frame : Nat
  decoder : Nat
  sequence : Nat
  display : Nat
  displayConfig : Nat
  terminal : Bool
  codec : Codec
  size : Size
  decoderRelativeOrigin : Point
  encodedPixels : List UInt8
  deriving DecidableEq, Repr

structure DecodedFragmentData where
  frame : Nat
  decoder : Nat
  sequence : Nat
  terminal : Bool
  decoderRelativeOrigin : Point
  pixmap : Grid Pixel24

def EncodedFragmentData.tryFrom (frag : FrameFragment) : Except FrameError EncodedFragmentData :=
  match frag.location with
  | none => .error .noOrigin
  | some origin =>
    match frag.dimension with
    | none => .error .noDimension
    | some size =>
      match Codec.tryFrom frag.codec with
      | none => .error (.unknownCodec frag.codec)
      | some codec =>
        .ok ⟨frag.frame, frag.encoder, frag.sequence, frag.display, frag.displayConfig,
          frag.terminal, codec, size, origin, frag.data⟩

def EncodedFragmentData.decode (codecs : Codecs) (e : EncodedFragmentData) :
    Except FrameError DecodedFragmentData :=
  match decodeBytes codecs e.codec e.encodedPixels with
  | .error err => .error err
  | .ok data =>
    if data.length ≠ e.size.area * 3 then .error (.decompressedLength data.length e.size)
    else
      match Grid.ofVec e.size (castPixels data) with
      | none => .error .shape
      | some pixmap =>
        .ok ⟨e.frame, e.decoder, e.sequence, e.terminal, e.decoderRelativeOrigin, pixmap⟩

/-- Decoding keeps the labels of a fragment. -/
theorem EncodedFragmentData.decode_labels {codecs : Codecs} {e : EncodedFragmentData}
    {d : DecodedFragmentData} (h : e.decode codecs = .ok d) :
    d.frame = e.frame ∧ d.decoder = e.decoder ∧ d.sequence = e.sequence ∧
      d.terminal = e.terminal ∧ d.decoderRelativeOrigin = e.decoderRelativeOrigin := by
  unfold EncodedFragmentData.decode at h
  split at h
  · cases h
  · split at h
    · cases h
    · split at h
      · cases h
      · cases h
        exact ⟨rfl, rfl, rfl, rfl, rfl⟩

/-! ## What one decoder has delivered of a frame -/

inductive DecoderFrameState where
  | inFlight (received : Finset Nat)
  | terminatedIncomplete (missingSequences : Finset Nat)
  | complete
  deriving DecidableEq

namespace DecoderFrameState

def default : DecoderFrameState := .inFlight ∅

def markSequenceReceived (st : DecoderFrameState) (sequence : Nat) (terminal : Bool) :
    Except FrameError DecoderFrameState :=
  match st with
  | .inFlight received =>
    if sequence ∈ received then .error (.identicalSequence sequence)
    else
      let received := insert sequence received
      if terminal then
        if RangeSet.IsInitial received then .ok .complete
        else .ok (.terminatedIncomplete (Finset.range (sequence + 1) \ received))
      else .ok (.inFlight received)
  | .terminatedIncomplete missing =>
    if terminal then .error .duplicateTerminals
    else
      let missing := missing.erase sequence
      if missing = ∅ then .ok .complete else .ok (.terminatedIncomplete missing)
  | .complete => .error .completeDecoderFrame

def markEmptyFrameTerminalReceived (st : DecoderFrameState) :
    Except FrameError DecoderFrameState :=
  match st with
  | .inFlight received => if received = ∅ then .ok .complete else .error .nonEmptyFrame
  | _ => .error .previouslyTerminated

end DecoderFrameState

/-! ## Frames -/

structure InFlightFrame where
  decoderFrameStates : List DecoderFrameState
  decodedFragments : List DecodedFragmentData

structure EarlyDrawFrame where
  decoderFrameStates : List DecoderFrameState

/-- Every decoder state is `Complete`. -/
def allComplete (states : List DecoderFrameState) : Bool := states.all fun s => s = .complete

/-- Change the state of one decoder; `oob` is the error for a decoder that does not exist. -/
def updateState (states : List DecoderFrameState) (decoder : Nat) (oob : FrameError)
    (mark : DecoderFrameState → Except FrameError DecoderFrameState) :
    Except FrameError (List DecoderFrameState) :=
  match states[decoder]? with
  | none => .error oob
  | some st => (mark st).map fun st' => states.set decoder st'

namespace InFlightFrame

def new (areas : List Rect) : InFlightFrame :=
  ⟨List.replicate areas.length DecoderFrameState.default, []⟩

def addFragment (fr : InFlightFrame) (frag : DecodedFragmentData) :
    Except FrameError InFlightFrame :=
  (updateState fr.decoderFrameStates frag.decoder (.invalidDecoder frag.decoder) fun st =>
    st.markSequenceReceived frag.sequence frag.terminal).map fun states =>
      ⟨states, fr.decodedFragments ++ [frag]⟩

def terminateEmpty (fr : InFlightFrame) (decoder : Nat) : Except FrameError InFlightFrame :=
  (updateState fr.decoderFrameStates decoder (.invalidDecoder decoder) fun st =>
    st.markEmptyFrameTerminalReceived).map fun states => { fr with decoderFrameStates := states }

/-- `try_complete`: the fragments of the frame when it is complete. -/
def tryComplete (fr : InFlightFrame) : Option (List DecodedFragmentData) :=
  if allComplete fr.decoderFrameStates then some fr.decodedFragments else none

/-- `force_complete`: the frame to go on tracking, unless it is complete, and its fragments. -/
def forceComplete (fr : InFlightFrame) : Option EarlyDrawFrame × List DecodedFragmentData :=
  if allComplete fr.decoderFrameStates then (none, fr.decodedFragments)
  else (some ⟨fr.decoderFrameStates⟩, fr.decodedFragments)

end InFlightFrame

namespace EarlyDrawFrame

def markFragmentReceived (fr : EarlyDrawFrame) (decoder sequence : Nat) (terminal : Bool) :
    Except FrameError EarlyDrawFrame :=
  (updateState fr.decoderFrameStates decoder (.fragmentNoDecoder sequence decoder) fun st =>
    st.markSequenceReceived sequence terminal).map fun states => ⟨states⟩

def markEmptyFrameTerminalReceived (fr : EarlyDrawFrame) (decoder : Nat) :
    Except FrameError EarlyDrawFrame :=
  (updateState fr.decoderFrameStates decoder (.emptyTerminalNoDecoder decoder) fun st =>
    st.markEmptyFrameTerminalReceived).map fun states => ⟨states⟩

def tryComplete (fr : EarlyDrawFrame) : Bool := allComplete fr.decoderFrameStates

end EarlyDrawFrame

structure Draw where
  frame : Nat
  origin : Point
  pixels : Grid Pixel24

def Draw.area (d : Draw) : Rect := ⟨d.origin, d.pixels.size⟩

/-- The draw of a fragment whose decoder's area starts at `areaOrigin`. -/
def DecodedFragmentData.toDraw (frag : DecodedFragmentData) (areaOrigin : Point) : Draw where
  frame := frag.frame
  origin := frag.decoderRelativeOrigin.wrappingAdd areaOrigin
  pixels := frag.pixmap

def DecodedFragmentData.toDrawIn (o : Overflow) (frag : DecodedFragmentData) (areaOrigin : Point) :
    Option Draw :=
  (frag.decoderRelativeOrigin.addIn o areaOrigin).map fun origin =>
    ⟨frag.frame, origin, frag.pixmap⟩

/-- The draw moved by the origin of its display. -/
def Draw.moved (draw : Draw) (displayOrigin : Point) : Draw :=
  { draw with origin := displayOrigin.wrappingAdd draw.origin }

def Draw.movedIn (o : Overflow) (draw : Draw) (displayOrigin : Point) : Option Draw :=
  (displayOrigin.addIn o draw.origin).map fun origin => { draw with origin := origin }

/-! ## The framer of one display -/

structure DisplayFramer where
  area : Rect
  decoderAreas : List Rect
  inFlight : Std.ExtTreeMap Nat InFlightFrame
  earlyDraw : Std.ExtTreeMap Nat EarlyDrawFrame
  complete : Finset Nat
  /-- `DrawState::undrawn_fragments`. -/
  undrawnFragments : List DecodedFragmentData

namespace DisplayFramer

def new (area : Rect) (decoderAreas : List Rect) : DisplayFramer where
  area := area
  decoderAreas := decoderAreas
  inFlight := ∅
  earlyDraw := ∅
  complete := ∅
  undrawnFragments := []

/-- Draw one older frame early, or complete it when nothing of it is missing. -/
def drawEarly (df : DisplayFramer) (entry : Nat × InFlightFrame) : DisplayFramer :=
  match entry.2.forceComplete with
  | (none, dfs) =>
    { df with
      complete := insert entry.1 df.complete
      undrawnFragments := df.undrawnFragments ++ dfs }
  | (some early, dfs) =>
    { df with
      earlyDraw := df.earlyDraw.insert entry.1 early
      undrawnFragments := df.undrawnFragments ++ dfs }

/-- The frame is complete: queue its fragments and draw every older frame early. -/
def completeInFlight (df : DisplayFramer) (frame : Nat) (dfs : List DecodedFragmentData) :
    DisplayFramer :=
  let inFlight := df.inFlight.erase frame
  let needsEarlyDraw := inFlight.filter fun id _ => id < frame
  let stillInFlight := inFlight.filter fun id _ => frame ≤ id
  needsEarlyDraw.toList.foldl drawEarly
    { df with
      inFlight := stillInFlight
      complete := insert frame df.complete
      undrawnFragments := df.undrawnFragments ++ dfs }

def reportTerminal (df : DisplayFramer) (frame decoder : Nat) :
    Except Failure Unit × DisplayFramer :=
  if frame ∈ df.complete then (.error (.err .terminalForComplete), df)
  else if ¬ decoder < df.decoderAreas.length then
    (.error (.err (.terminalInvalidDecoder decoder)), df)
  else
    match df.earlyDraw[frame]? with
    | some early =>
      if early.tryComplete then
        (.ok (), { df with
          earlyDraw := df.earlyDraw.erase frame
          complete := insert frame df.complete })
      else (.ok (), df)
    | none =>
      match df.inFlight[frame]? with
      | some fr =>
        match fr.tryComplete with
        | some dfs => (.ok (), df.completeInFlight frame dfs)
        | none => (.ok (), df)
      | none => (.error .panic, df)

/-- `for f in curr_max..frame`: an entry for every frame between the newest one and this one. -/
def fillGap (df : DisplayFramer) (frame : Nat) : Std.ExtTreeMap Nat InFlightFrame :=
  match df.inFlight.keys.getLast? with
  | some currMax =>
    (List.range' currMax (frame - currMax)).foldl
      (fun m f => m.insertIfNew f (InFlightFrame.new df.decoderAreas)) df.inFlight
  | none => df.inFlight

/-- Record a decoded fragment in the stage its frame is in. -/
def addFragment (df : DisplayFramer) (frag : DecodedFragmentData) :
    Except Failure Unit × DisplayFramer :=
  match df.earlyDraw[frag.frame]? with
  | some early =>
    match early.markFragmentReceived frag.decoder frag.sequence frag.terminal with
    | .error e => (.error (.err e), df)
    | .ok early =>
      (.ok (), { df with
        earlyDraw := df.earlyDraw.insert frag.frame early
        undrawnFragments := df.undrawnFragments ++ [frag] })
  | none =>
    let inFlight := df.fillGap frag.frame
    let fr := (inFlight[frag.frame]?).getD (InFlightFrame.new df.decoderAreas)
    match fr.addFragment frag with
    | .error e => (.error (.err e), { df with inFlight := inFlight.insert frag.frame fr })
    | .ok fr => (.ok (), { df with inFlight := inFlight.insert frag.frame fr })

def reportFragment (codecs : Codecs) (df : DisplayFramer) (e : EncodedFragmentData) :
    Except Failure Unit × DisplayFramer :=
  if ¬ e.decoder < df.decoderAreas.length then (.error (.err (.invalidDecoder e.decoder)), df)
  else if e.frame ∈ df.complete then (.error (.err (.fragmentForComplete e.frame)), df)
  else
    match e.decode codecs with
    | .error err => (.error (.err err), df)
    | .ok frag =>
      match df.addFragment frag with
      | (.error err, df) => (.error err, df)
      | (.ok (), df) =>
        if frag.terminal then df.reportTerminal frag.frame frag.decoder else (.ok (), df)

/-- Record an empty frame terminal in the stage its frame is in. -/
def terminateEmpty (df : DisplayFramer) (frame decoder : Nat) :
    Except Failure Unit × DisplayFramer :=
  match df.earlyDraw[frame]? with
  | some early =>
    match early.markEmptyFrameTerminalReceived decoder with
    | .error e => (.error (.err e), df)
    | .ok early => (.ok (), { df with earlyDraw := df.earlyDraw.insert frame early })
  | none =>
    let fr := (df.inFlight[frame]?).getD (InFlightFrame.new df.decoderAreas)
    match fr.terminateEmpty decoder with
    | .error e => (.error (.err e), { df with inFlight := df.inFlight.insert frame fr })
    | .ok fr => (.ok (), { df with inFlight := df.inFlight.insert frame fr })

def reportEmptyFrameTerminal (df : DisplayFramer) (term : EmptyFrameTerminal) :
    Except Failure Unit × DisplayFramer :=
  if ¬ term.encoder < df.decoderAreas.length then
    (.error (.err (.invalidDecoder term.encoder)), df)
  else if term.frame ∈ df.complete then
    (.error (.err (.emptyTerminalForComplete term.frame)), df)
  else
    match df.terminateEmpty term.frame term.encoder with
    | (.error err, df) => (.error err, df)
    | (.ok (), df) => df.reportTerminal term.frame term.encoder

/-- `self.decoder_areas[decoder].origin` -/
def areaOrigin (df : DisplayFramer) (decoder : Nat) : Point :=
  (df.decoderAreas.getD decoder ⟨Point.zero, ⟨0, 0⟩⟩).origin

def getDrawsAndReset (df : DisplayFramer) : List Draw × DisplayFramer :=
  (df.undrawnFragments.map fun frag => frag.toDraw (df.areaOrigin frag.decoder),
   { df with undrawnFragments := [] })

/-- `none` is a panic. -/
def getDrawsAndResetIn (o : Overflow) (df : DisplayFramer) : Option (List Draw × DisplayFramer) :=
  (df.undrawnFragments.mapM fun (frag : DecodedFragmentData) =>
    frag.toDrawIn o (df.areaOrigin frag.decoder)).map
      fun draws => (draws, { df with undrawnFragments := [] })

def hasDraws (df : DisplayFramer) : Bool := !df.undrawnFragments.isEmpty

end DisplayFramer

/-! ## The framer of a display configuration -/

structure Framer where
  displayConfig : DisplayConfiguration
  displays : List DisplayFramer

namespace Framer

def new (config : DisplayConfiguration) : Framer where
  displayConfig := config
  displays := config.displayDecoderInfos.map fun d => DisplayFramer.new d.display.area d.decoderAreas

/-- Hand a message to the framer of its display when it is of the current configuration. -/
def dispatch (fr : Framer) (displayConfig display : Nat)
    (report : DisplayFramer → Except Failure Unit × DisplayFramer) :
    Except Failure Unit × Framer :=
  if displayConfig < fr.displayConfig.id then (.ok (), fr)
  else if displayConfig ≠ fr.displayConfig.id then
    (.error (.err (.mismatchingConfig displayConfig fr.displayConfig.id)), fr)
  else
    match fr.displays[display]? with
    | none => (.error (.err (.invalidDisplay display)), fr)
    | some df => ((report df).1, { fr with displays := fr.displays.set display (report df).2 })

def reportFragment (codecs : Codecs) (fr : Framer) (frag : FrameFragment) :
    Except Failure Unit × Framer :=
  match EncodedFragmentData.tryFrom frag with
  | .error e => (.error (.err e), fr)
  | .ok e => fr.dispatch e.displayConfig e.display fun df => df.reportFragment codecs e

def reportEmptyFrameTerminal (fr : Framer) (term : EmptyFrameTerminal) :
    Except Failure Unit × Framer :=
  fr.dispatch term.displayConfig term.display fun df => df.reportEmptyFrameTerminal term

def reportMm (codecs : Codecs) (fr : Framer) (msg : MediaMessage) : Except Failure Unit × Framer :=
  match msg with
  | .fragment frag => fr.reportFragment codecs frag
  | .terminal term => fr.reportEmptyFrameTerminal term

def getDrawsAndReset (fr : Framer) : List Draw × Framer :=
  (fr.displays.flatMap fun df =>
    df.getDrawsAndReset.1.map fun draw => draw.moved df.area.origin,
   { fr with displays := fr.displays.map fun df => df.getDrawsAndReset.2 })

/-- The draws of one display, moved by its origin. -/
def displayDrawsIn (o : Overflow) (df : DisplayFramer) : Option (List Draw × DisplayFramer) := do
  let (draws, df') ← df.getDrawsAndResetIn o
  let moved ← draws.mapM fun draw => draw.movedIn o df.area.origin
  return (moved, df')

def getDrawsAndResetIn (o : Overflow) (fr : Framer) : Option (List Draw × Framer) :=
  (fr.displays.mapM (displayDrawsIn o)).map fun drawn =>
    (drawn.flatMap Prod.fst, { fr with displays := drawn.map Prod.snd })

def hasDraws (fr : Framer) : Bool := fr.displays.any DisplayFramer.hasDraws

end Framer

/-! ## Draws in the two builds -/

/-- Display origin, decoder area origin and location add up to 64 bits. -/
def DisplayFramer.Fits (df : DisplayFramer) (frag : DecodedFragmentData) : Prop :=
  df.area.origin.x + (df.areaOrigin frag.decoder).x + frag.decoderRelativeOrigin.x < 2 ^ 64 ∧
  df.area.origin.y + (df.areaOrigin frag.decoder).y + frag.decoderRelativeOrigin.y < 2 ^ 64

instance (df : DisplayFramer) (frag : DecodedFragmentData) : Decidable (df.Fits frag) :=
  inferInstanceAs (Decidable (_ ∧ _))

/-- Every draw of the queue fits. -/
def DisplayFramer.DrawsFit (df : DisplayFramer) : Prop := ∀ frag ∈ df.undrawnFragments, df.Fits frag

def Framer.DrawsFit (fr : Framer) : Prop := ∀ df ∈ fr.displays, df.DrawsFit

end ApertureC
