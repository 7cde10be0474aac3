import ApertureC.Encoder
import ApertureC.Lib.Machine
import Mathlib.Logic.Function.Basic

/-!
# Reconfiguration on the server

The tasks that take part when the displays of a session change, as one machine.  An action is one
atomic step of one task; a step that has to wait is not enabled.

* the backend task (`task/backend.rs`): send `NewDisplayConfig`, then `Reconfigure` to every encoder
  in turn, wait for the completion and queue the configuration for the client;
* the display config task (`task/frame_sync.rs`): per display resize the tracking buffer, then
  replace the sender subset; finally signal the revoke watch;
* the frame task of each display: clone the subset, reserve a permit on each sender while it waits
  for damage, check the revoke watch, cut, send;
* the encoder tasks (`task/encoder.rs`): take a command, or a frame when there is no command, and
  encode the frame.

The permits of a frame task come one by one, and each is kept while the others and the damage are
waited for.  A watch is a counter of the values sent, and a receiver remembers the last it has seen.
Fields marked as history are not read by any step that the source has; they record what has been
done and which configuration a value comes from.
-/

set_option autoImplicit false

namespace ApertureC

open Geometry

/-- The displays of a configuration with the areas of their encoders (`NewDisplayConfig` carries the
number of areas, `Reconfigure` the areas). -/
structure Layout where
  configId : Nat
  displays : List (Display × List Box2D)
  deriving DecidableEq, Repr

namespace Layout

def encoderCount (l : Layout) : Nat := (l.displays.map fun d => d.2.length).sum

/-- The index of a display's first frame channel. -/
def offset (l : Layout) (d : Nat) : Nat := ((l.displays.take d).map fun d => d.2.length).sum

def count (l : Layout) (d : Nat) : Nat := ((l.displays[d]?).map fun d => d.2.length).getD 0

/-- `frame_txs[i..i + count]`: the frame channels of a display. -/
def subset (l : Layout) (d : Nat) : List Nat := List.range' (l.offset d) (l.count d)

/-- The id and area of every encoder, in the order of the encoders. -/
def assignment (l : Layout) : List (Nat × Box2D) :=
  l.displays.flatMap fun d => d.2.zipIdx.map Prod.swap

/-- The display config task's checks. -/
def check (maxDisplayCount maxEncoderCount : Nat) (l : Layout) : Except String Unit :=
  let disabledDisplayCount := (l.displays.map fun d => if d.1.isEnabled then 0 else d.2.length).sum
  if l.displays.length ≠ maxDisplayCount then
    .error s!"Display count does not equal max number of displays: {l.displays.length} != {maxDisplayCount}"
  else if ¬ l.encoderCount ≤ maxEncoderCount then
    .error s!"Encoder count greater than max number of encoders: {l.encoderCount} > {maxEncoderCount}"
  else if disabledDisplayCount ≠ 0 then
    .error s!"Disabled Displays have {disabledDisplayCount} encoders assigned, expected 0"
  else .ok ()

end Layout

/-- The configuration with a given id. -/
def layoutOf (history : List Layout) (c : Nat) : Option Layout :=
  history.find? fun l => l.configId = c

/-- The frame task of a display, by the step it is about to take. -/
inductive FrameTask where
  | clone (permitsRevoked : Bool)
  /-- `try_join` of the reservations of `txs`, of which `reserved` have come, and of `dh_fut`, which
  is over at once when the permits were revoked. -/
  | join (txs reserved : List Nat) (waited : Bool)
  | check (permits : List Nat)
  | cut (permits : List Nat)
  | send (permits : List Nat) (frame : Option Frame)

structure DisplayState where
  tb : TrackingBuffer
  txSubset : List Nat
  task : FrameTask
  /-- The damage seen by the task's handle; a new handle is marked as changed. -/
  damageSeen : Option Nat
  revokeSeen : Nat
  /-- History: the configuration `txSubset` is of. -/
  subsetConfig : Nat
  /-- History: the configuration the task's senders are of. -/
  clonedConfig : Nat

/-- The frame task is about to cut. -/
def DisplayState.isCutting (ds : DisplayState) : Bool :=
  match ds.task with
  | .cut _ => true
  | _ => false

/-- `Command::Reconfigure`; `config` is history. -/
structure Reconfigure where
  newId : Nat
  area : Box2D
  config : Nat

structure EncoderState where
  task : EncoderTask
  /-- `command_rx`, of capacity one. -/
  commands : List Reconfigure
  /-- `frame_rx`, of capacity one. -/
  frames : List Frame
  /-- Permits reserved on the frame channel. -/
  reserved : Nat
  /-- The frame that has been taken and is being encoded. -/
  encoding : Option Frame
  /-- History: the configuration of the last command taken. -/
  config : Nat

inductive BackendTask where
  | select
  | reconfigure (l : Layout) (commands : List (Nat × Reconfigure))
  | awaitComplete (l : Layout)

inductive ConfigTask where
  | recv
  | resize (l : Layout) (d : Nat)
  | replace (l : Layout) (d : Nat)
  | signal (l : Layout)
  | failed (error : String)

/-- The messages one encoder sends for one frame. -/
structure Production where
  encoder : Nat
  task : EncoderTask
  frame : Frame
  messages : List MediaMessage

structure Server where
  displayCount : Nat
  maxEncoderCount : Nat
  /-- Encoder tasks are started for the areas of the first configuration. -/
  encoderCount : Nat
  displays : Nat → DisplayState
  encoders : Nat → EncoderState
  backend : BackendTask
  displayConfigId : Nat
  /-- `display_config_rx`, of capacity one. -/
  newDisplayConfigs : List Layout
  configTask : ConfigTask
  revokeWatch : Nat
  completed : Bool
  /-- `DisplayConfiguration` messages queued for the client. -/
  events : List Layout
  /-- History: every configuration of the session. -/
  history : List Layout
  /-- History: every frame cut. -/
  cuts : List Frame
  /-- History: every frame that its task has done with, and the channels it was sent on; they are
  none when the task had no senders. -/
  sent : List (Frame × List Nat)
  /-- History: everything the encoders have produced. -/
  produced : List Production

namespace Server

def setDisplay (s : Server) (d : Nat) (f : DisplayState → DisplayState) : Server :=
  { s with displays := Function.update s.displays d (f (s.displays d)) }

def setEncoder (s : Server) (e : Nat) (f : EncoderState → EncoderState) : Server :=
  { s with encoders := Function.update s.encoders e (f (s.encoders e)) }

/-- The session starts with a configuration of id 0. -/
def init (maxEncoderCount : Nat) (scheme : Scheme) (displays : List (Display × List Box2D)) :
    Server :=
  let l : Layout := ⟨0, displays⟩
  { displayCount := displays.length
    maxEncoderCount := maxEncoderCount
    encoderCount := l.encoderCount
    displays := fun d =>
      { tb := .new d ((displays[d]?).map Prod.fst |>.getD ⟨⟨Point.zero, ⟨0, 0⟩⟩, false⟩) 0
        txSubset := l.subset d
        task := .clone false
        damageSeen := none
        revokeSeen := 0
        subsetConfig := 0
        clonedConfig := 0 }
    encoders := fun e =>
      let a := (l.assignment[e]?).getD (0, ⟨Point.zero, Point.zero⟩)
      { task := ⟨a.1, a.2, scheme⟩
        commands := []
        frames := []
        reserved := 0
        encoding := none
        config := 0 }
    backend := .select
    displayConfigId := 0
    newDisplayConfigs := []
    configTask := .recv
    revokeWatch := 0
    completed := false
    events := []
    history := [l]
    cuts := []
    sent := []
    produced := [] }

/-! ## The backend task -/

/-- A display event whose displays have been set and partitioned. -/
def displayEvent (s : Server) (displays : List (Display × List Box2D)) : Option Server :=
  match s.backend, s.newDisplayConfigs with
  | .select, [] =>
    let l : Layout := ⟨s.displayConfigId + 1, displays⟩
    some { s with
      displayConfigId := l.configId
      newDisplayConfigs := [l]
      completed := false
      history := s.history ++ [l]
      backend := .reconfigure l (((List.range s.encoderCount).zip l.assignment).map fun a =>
        (a.1, ⟨a.2.1, a.2.2, l.configId⟩)) }
  | _, _ => none

/-- A display event whose configuration cannot be built: its id is skipped. -/
def displayEventFailed (s : Server) : Option Server :=
  match s.backend with
  | .select => some { s with displayConfigId := s.displayConfigId + 1 }
  | _ => none

def backendStep (s : Server) : Option Server :=
  match s.backend with
  | .select => none
  | .reconfigure l [] => some { s with backend := .awaitComplete l }
  | .reconfigure l ((e, command) :: commands) =>
    if (s.encoders e).commands.isEmpty then
      some { s.setEncoder e (fun enc => { enc with commands := [command] }) with
        backend := .reconfigure l commands }
    else none
  | .awaitComplete l =>
    if s.completed then some { s with backend := .select, events := s.events ++ [l] } else none

/-! ## The display config task -/

def configStep (s : Server) : Option Server :=
  match s.configTask with
  | .recv =>
    match s.newDisplayConfigs with
    | [] => none
    | l :: rest =>
      match l.check s.displayCount s.maxEncoderCount with
      | .error e => some { s with newDisplayConfigs := rest, configTask := .failed e }
      | .ok () => some { s with newDisplayConfigs := rest, configTask := .resize l 0 }
  | .resize l d =>
    match l.displays[d]? with
    | none => some { s with configTask := .signal l }
    | some (display, _) =>
      some { s.setDisplay d (fun ds => { ds with tb := ds.tb.resize display l.configId }) with
        configTask := .replace l d }
  | .replace l d =>
    some { s.setDisplay d (fun ds =>
        { ds with txSubset := l.subset d, subsetConfig := l.configId }) with
      configTask := .resize l (d + 1) }
  | .signal _ =>
    some { s with revokeWatch := s.revokeWatch + 1, completed := true, configTask := .recv }
  | .failed _ => none

/-! ## The frame task of a display -/

def setReserved (s : Server) (txs : List Nat) (n : Nat) : Server :=
  { s with encoders := fun e =>
      if e ∈ txs then { s.encoders e with reserved := n } else s.encoders e }

/-- `permit.send(frame.clone())` for every permit: without a permit the frame goes nowhere, and
without a frame the permits are dropped. -/
def sendFrame (s : Server) (permits : List Nat) (frame : Option Frame) : Server :=
  { s with
    encoders := fun e =>
      if e ∈ permits then
        { s.encoders e with reserved := 0, frames := (s.encoders e).frames ++ frame.toList }
      else s.encoders e
    sent := s.sent ++ (frame.map fun f => (f, permits)).toList }

/-- History: the frame has been cut. -/
def noteCut (s : Server) (frame : Option Frame) : Server :=
  { s with cuts := s.cuts ++ frame.toList }

/-- The steps of the task between its awaits. -/
def frameStep (s : Server) (d : Nat) : Option Server :=
  if d < s.displayCount then
    match (s.displays d).task with
    | .clone revoked =>
      some (s.setDisplay d fun ds =>
        { ds with task := .join ds.txSubset [] revoked, clonedConfig := ds.subsetConfig })
    | .join txs reserved waited =>
      if waited && txs.all (· ∈ reserved) then
        some (s.setDisplay d fun ds => { ds with task := .check txs })
      else none
    | .check permits =>
      if (s.displays d).revokeSeen ≠ s.revokeWatch then
        some ((s.setReserved permits 0).setDisplay d fun ds =>
          { ds with task := .clone true, revokeSeen := s.revokeWatch })
      else some (s.setDisplay d fun ds => { ds with task := .cut permits })
    | .cut permits =>
      match (s.displays d).tb.cutFrame with
      | none => none
      | some (frame, tb) =>
        some ((s.noteCut frame).setDisplay d fun ds =>
          { ds with tb := tb, task := .send permits frame })
    | .send permits frame =>
      some ((s.sendFrame permits frame).setDisplay d fun ds => { ds with task := .clone false })
  else none

/-- `reserve_owned`: a permit comes when the channel holds neither a frame nor a permit. -/
def reserveOwned (s : Server) (d e : Nat) : Option Server :=
  if d < s.displayCount && e < s.encoderCount && (s.encoders e).frames.isEmpty &&
      (s.encoders e).reserved == 0 then
    match (s.displays d).task with
    | .join txs reserved waited =>
      if e ∈ txs ∧ e ∉ reserved then
        some ((s.setEncoder e fun enc => { enc with reserved := 1 }).setDisplay d fun ds =>
          { ds with task := .join txs (e :: reserved) waited })
      else none
    | _ => none
  else none

/-- `wait_for_damage`.  An update holds the lock of the buffer and not of the watch, so the version
that is seen may be one it sent before its last. -/
def waitForDamage (s : Server) (d version : Nat) : Option Server :=
  if d < s.displayCount then
    match (s.displays d).task with
    | .join txs reserved false =>
      if (∀ n ∈ (s.displays d).damageSeen, n < version) ∧
          version ≤ (s.displays d).tb.damageWatch then
        some (s.setDisplay d fun ds =>
          { ds with task := .join txs reserved true, damageSeen := some version })
      else none
    | _ => none
  else none

/-- A frame buffer reaches the tracking buffer of a display. -/
def update (cc : ConnectedComponents) (s : Server) (d : Nat) (fb : SubframeBuffer Pixel32) :
    Option Server :=
  if d < s.displayCount then
    match (s.displays d).tb.update cc fb with
    | none => none
    | some tb => some (s.setDisplay d fun ds => { ds with tb := tb })
  else none

/-! ## The encoder tasks -/

def takeCommand (s : Server) (e : Nat) : Option Server :=
  if e < s.encoderCount && (s.encoders e).encoding.isNone then
    match (s.encoders e).commands with
    | [] => none
    | command :: rest =>
      some (s.setEncoder e fun enc =>
        { enc with
          task := enc.task.reconfigure command.newId command.area
          commands := rest
          config := command.config })
  else none

/-- `biased`: a frame is taken only when there is no command. -/
def takeFrame (s : Server) (e : Nat) : Option Server :=
  if e < s.encoderCount && (s.encoders e).encoding.isNone && (s.encoders e).commands.isEmpty then
    match (s.encoders e).frames with
    | [] => none
    | frame :: rest =>
      some (s.setEncoder e fun enc => { enc with frames := rest, encoding := some frame })
  else none

/-- The rest of the branch, up to the next `select`.  `order` is the order in which the encodings
complete. -/
def encode (comp : Compressors) (s : Server) (e : Nat) (order : List Nat) : Option Server :=
  if e < s.encoderCount then
    match (s.encoders e).encoding with
    | none => none
    | some frame =>
      let enc := (s.encoders e).task
      let parts := enc.relevant frame
      if order.isPerm (List.range parts.length) then
        match enc.encodeFrame comp frame (order.filterMap fun i => parts[i]?) with
        | none => none
        | some messages =>
          some { s.setEncoder e (fun enc => { enc with encoding := none }) with
            produced := s.produced ++ [⟨e, enc, frame, messages⟩] }
      else none
  else none

end Server

inductive ServerAct where
  | displayEvent (displays : List (Display × List Box2D))
  | displayEventFailed
  | backend
  | config
  | frame (d : Nat)
  | reserved (d e : Nat)
  | waited (d version : Nat)
  | update (d : Nat) (fb : SubframeBuffer Pixel32)
  | takeCommand (e : Nat)
  | takeFrame (e : Nat)
  | encode (e : Nat) (order : List Nat)

/-- One atomic step. -/
def Server.step (cc : ConnectedComponents) (comp : Compressors) (s : Server) :
    ServerAct → Option Server
  | .displayEvent displays => s.displayEvent displays
  | .displayEventFailed => s.displayEventFailed
  | .backend => s.backendStep
  | .config => s.configStep
  | .frame d => s.frameStep d
  | .reserved d e => s.reserveOwned d e
  | .waited d version => s.waitForDamage d version
  | .update d fb => s.update cc d fb
  | .takeCommand e => s.takeCommand e
  | .takeFrame e => s.takeFrame e
  | .encode e order => s.encode comp e order

end ApertureC
