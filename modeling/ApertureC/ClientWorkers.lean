import ApertureC.Lib.Worker
import ApertureC.MediaLoop

/-!
# The channel workers of the client (`aperturec-client/src/channels/{control,event,media}.rs`)

Each worker is a main thread and a network thread, and differs from the others in the body of its
main loop only.

* `controlCode` — `cc-main`: goodbyes and the handshake out, server goodbyes in.
* `eventCode` — `ec-main`: user events out; display configurations and cursors in.  The images of
  cursors are cached, so that a change of the cursor names one by its id.
* `mediaCode` — `mc-main`: media messages into the framer, and the draws of the framer out.  It
  waits for a first display configuration before it listens to the network.

Payloads that a worker passes on unread (the handshake, the text of a transport error) are left
out.  A request to send on the network comes with its outcome.

Principal results: `mediaCode_flushed` and `mediaCode_data` (`mc-main` selects with its draws handed
out, and its framer follows `mediaStep`) and `terminate_finishes_iff` — when a worker can finish
after `Terminate`.
-/

set_option autoImplicit false

namespace ApertureC

open Geometry Worker

/-- A transport error of a channel. -/
inductive ChannelError where
  | rx
  | tx
  deriving DecidableEq, Repr

/-! ## Control -/

inductive ServerGoodbyeReason where
  | unspecified
  | shuttingDown
  | networkError
  | processExited
  | internalError
  | authenticationFailure
  | invalidConfiguration
  | processLaunchFailed
  | clientExecDisallowed
  | otherLogin
  | inactiveTimeout
  deriving DecidableEq, Repr

/-- `gb.reason()`: an unknown number is the default reason. -/
def ServerGoodbyeReason.ofInt : Int → ServerGoodbyeReason
  | 1 => .shuttingDown
  | 2 => .networkError
  | 3 => .processExited
  | 4 => .internalError
  | 5 => .authenticationFailure
  | 6 => .invalidConfiguration
  | 7 => .processLaunchFailed
  | 8 => .clientExecDisallowed
  | 9 => .otherLogin
  | 10 => .inactiveTimeout
  | _ => .unspecified

def ServerGoodbyeReason.friendlyStr : ServerGoodbyeReason → String
  | .authenticationFailure => "Authentication failure, check auth token"
  | .clientExecDisallowed => "Server does not allow client specified applications"
  | .inactiveTimeout => "Client has been inactive for too long"
  | .networkError => "A network error has occurred"
  | .otherLogin => "Server was logged into elsewhere"
  | .processExited => "Remote application has terminated"
  | .processLaunchFailed => "Failed to launch remote application, check server logs"
  | .shuttingDown => "Server is shutting down"
  | .unspecified => "SERVER_GOODBYE_UNSPECIFIED"
  | .internalError => "SERVER_GOODBYE_REASON_INTERNAL_ERROR"
  | .invalidConfiguration => "SERVER_GOODBYE_REASON_INVALID_CONFIGURATION"

inductive ClientGoodbyeReason where
  | userRequested
  | networkError
  | terminating
  deriving DecidableEq, Repr

/-- `control::Notification`, without `Terminate`. -/
inductive ControlRequest where
  | init
  | goodbye (reason : ClientGoodbyeReason) (id : Nat)
  deriving DecidableEq, Repr

/-- `control::server_to_client::Message`. -/
inductive ControlMessage where
  | serverInit
  | serverGoodbye (reason : Int)
  deriving DecidableEq, Repr

/-- `control::PrimaryThreadNotification`. -/
inductive ControlPtn where
  | error (e : ChannelError)
  | serverInit
  | serverGoodbye (reason : String)
  deriving DecidableEq, Repr

/-- The main loop of the control worker; an error of the network thread ends it. -/
def controlCode : Code Unit (ControlRequest × Bool) ControlMessage ChannelError ControlPtn where
  listens _ := true
  onRequest _ q := ⟨(), if q.2 then [] else [.error .tx], .select⟩
  onMessage
    | _, .ok (.serverGoodbye reason) =>
      ⟨(), [.serverGoodbye (ServerGoodbyeReason.ofInt reason).friendlyStr], .select⟩
    | _, .ok .serverInit => ⟨(), [.serverInit], .select⟩
    | _, .error e => ⟨(), [.error e], .join⟩

/-! ## Event -/

/-- `event::UserEvent`. -/
inductive UserEvent where
  | mouseButton (code : Nat) (isPressed : Bool) (pos : Point)
  | pointer (pos : Point)
  | key (code : Nat) (isPressed : Bool)
  | displayChange (displays : List Display)
  deriving DecidableEq, Repr

/-- `proto::CursorImage`. -/
structure CursorImage where
  id : Nat
  width : Nat
  height : Nat
  xHot : Nat
  yHot : Nat
  data : List UInt8
  deriving DecidableEq, Repr

structure Cursor where
  hot : Point
  pixels : Grid Pixel32

/-- `as_chunks::<4>().0`, each chunk as a pixel. -/
def pixel32Chunks : List UInt8 → List Pixel32
  | b :: g :: r :: a :: rest => ⟨b, g, r, a⟩ :: pixel32Chunks rest
  | _ => []

/-- `TryFrom<proto::CursorImage> for Cursor`.  The product of the length check is a `usize`. -/
def Cursor.tryFrom (ci : CursorImage) : Except String Cursor :=
  let expected := ci.width * ci.height * 4 % 2 ^ 64
  if expected ≠ ci.data.length then
    .error s!"pixels buffer of length {ci.data.length} does not match expected size {expected} bytes for dimensions {ci.width}x{ci.height}"
  else
    match Grid.ofVec ⟨ci.width, ci.height⟩ (pixel32Chunks ci.data) with
    | some pixels => .ok ⟨⟨ci.xHot, ci.yHot⟩, pixels⟩
    | none => .error "ShapeError/IncompatibleShape: incompatible shapes"

/-- `event::server_to_client::Message`. -/
inductive EventMessage where
  | displayConfiguration (dc : Proto.DisplayConfiguration)
  | cursorImage (ci : CursorImage)
  | cursorChange (id : Nat)
  deriving DecidableEq, Repr

/-- `event::Error`. -/
inductive EventError where
  | channelRx
  | channelTx
  | protocol (text : String)
  deriving DecidableEq, Repr

def EventError.ofChannel : ChannelError → EventError
  | .rx => .channelRx
  | .tx => .channelTx

/-- `event::PrimaryThreadNotification`. -/
inductive EventPtn where
  | displayConfiguration (dc : DisplayConfiguration)
  | cursor (c : Cursor)
  | error (e : EventError)

abbrev CursorCache := Std.ExtTreeMap Nat Cursor

/-- What `ec-main` does with a message of the server. -/
def onEventMessage (cache : CursorCache) : EventMessage → CursorCache × List EventPtn
  | .displayConfiguration dc =>
    match DisplayConfiguration.tryFrom dc with
    | .ok dc => (cache, [.displayConfiguration dc])
    | .error _ => (cache, [])
  | .cursorImage ci =>
    match Cursor.tryFrom ci with
    | .ok cursor => (cache.insert ci.id cursor, [])
    | .error _ => (cache, [])
  | .cursorChange id =>
    match cache[id]? with
    | some cursor => (cache, [.cursor cursor])
    | none => (cache, [])

/-- The main loop of the event worker; it goes on after an error. -/
def eventCode : Code CursorCache (UserEvent × Bool) EventMessage ChannelError EventPtn where
  listens _ := true
  onRequest cache q := ⟨cache, if q.2 then [] else [.error .channelTx], .select⟩
  onMessage
    | cache, .ok msg => ⟨(onEventMessage cache msg).1, (onEventMessage cache msg).2, .select⟩
    | cache, .error e => ⟨cache, [.error (.ofChannel e)], .select⟩

/-! ## Media -/

/-- `media::PrimaryThreadNotification`. -/
inductive MediaPtn where
  | error (e : ChannelError)
  | draw (d : Draw)

/-- The top of the loop: the draws of the framer are sent before the next select. -/
def flush (out : List MediaPtn) (fr : Framer) : Handled (Option Framer) MediaPtn :=
  ⟨some (takeDraws fr).2, out ++ (takeDraws fr).1.map .draw, .select⟩

/-- The main loop of the media worker.  A panic of the framer unwinds the thread. -/
def mediaCode (codecs : Codecs) :
    Code (Option Framer) DisplayConfiguration (Option MediaMessage) ChannelError MediaPtn where
  listens framer := framer.isSome
  onRequest
    | none, dc => flush [] (Framer.new dc)
    | some fr, dc => flush [] (configure fr dc)
  onMessage
    | none, _ => ⟨none, [], .select⟩
    | some fr, .ok msg =>
      match receive codecs fr msg with
      | (.error .panic, fr') => ⟨some fr', [], .gone⟩
      | (_, fr') => flush [] fr'
    | some fr, .error e => flush [.error e] fr

/-! ### The worker and its loop -/

/-- The framer has handed out its draws, as it has whenever the main thread selects. -/
def Framer.Flushed (fr : Framer) : Prop := fr.hasDraws = false

theorem Framer.new_flushed (dc : DisplayConfiguration) : (Framer.new dc).Flushed := by
  simp [Framer.Flushed, Framer.new, Framer.hasDraws, DisplayFramer.new, DisplayFramer.hasDraws]

theorem takeDraws_flushed {fr : Framer} (h : fr.Flushed) : takeDraws fr = ([], fr) := by
  rw [Framer.Flushed] at h
  simp [takeDraws, h]

theorem flushed_takeDraws (fr : Framer) : (takeDraws fr).2.Flushed := by
  unfold takeDraws
  split
  · simp [Framer.Flushed, Framer.hasDraws, Framer.getDrawsAndReset, DisplayFramer.hasDraws,
      DisplayFramer.getDrawsAndReset]
  · rename_i h
    simpa [Framer.Flushed] using h

theorem flush_flushed (out : List MediaPtn) (fr : Framer) :
    ∀ fr', (flush out fr).data = some fr' → fr'.Flushed := by
  intro fr' h
  cases h
  exact flushed_takeDraws fr

/-- A handler of `mc-main` hands out the draws of its framer, unless that panics. -/
theorem onMessage_flushed (codecs : Codecs) (d : Option Framer)
    (r : Except ChannelError (Option MediaMessage))
    (hgone : ((mediaCode codecs).onMessage d r).next ≠ .gone) :
    ∀ fr, ((mediaCode codecs).onMessage d r).data = some fr → fr.Flushed := by
  cases d with
  | none => intro fr h; cases h
  | some fr =>
    cases r with
    | error e => exact flush_flushed _ _
    | ok msg =>
      simp only [mediaCode] at hgone ⊢
      split
      · rename_i hpanic
        rw [hpanic] at hgone
        exact absurd rfl hgone
      · exact flush_flushed _ _

/-- **`mc-main` selects with its draws handed out.** -/
theorem mediaCode_flushed (codecs : Codecs) {dc : DisplayConfiguration}
    {w : State (Option Framer) (Option MediaMessage) ChannelError MediaPtn}
    (hr : Machine.Reachable (step (mediaCode codecs)) (.initial (some (Framer.new dc))) w)
    (hgone : w.next ≠ .gone) : ∀ fr, w.data = some fr → fr.Flushed := by
  refine hr.invariant (I := fun w => w.next ≠ .gone → ∀ fr, w.data = some fr → fr.Flushed)
    (fun _ fr h => ?_) (fun s a s' hI hstep => ?_) hgone
  · cases h
    exact Framer.new_flushed dc
  · refine step_data (P := fun d => ∀ fr, d = some fr → fr.Flushed) (fun d q _ _ => ?_)
      (fun d r _ hgone => onMessage_flushed codecs d r hgone) hI hstep
    cases d with
    | none => exact flush_flushed _ _
    | some fr => exact flush_flushed _ _

/-- **The framer of `mc-main` follows the loop**: a handler leaves the framer of `mediaStep` with its
draws handed out. -/
theorem mediaCode_data (codecs : Codecs) {fr : Framer} (h : fr.Flushed) :
    (∀ dc, ((mediaCode codecs).onRequest (some fr) dc).data =
      some (takeDraws (mediaStep codecs fr (.configuration dc))).2) ∧
    ∀ msg, ((mediaCode codecs).onMessage (some fr) (.ok msg)).next = .select →
      ((mediaCode codecs).onMessage (some fr) (.ok msg)).data =
        some (takeDraws (mediaStep codecs fr (.message msg))).2 := by
  constructor
  · intro dc
    rw [mediaStep, takeDraws_flushed h]
    rfl
  · intro msg hnext
    rw [mediaStep, takeDraws_flushed h]
    rcases hr : receive codecs fr msg with ⟨r, fr'⟩
    simp only [mediaCode, hr] at hnext ⊢
    split at hnext
    · cases hnext
    · rename_i heq
      cases heq
      rfl

/-! ## Termination -/

/-- **When a worker can finish after `Terminate`.**  In whatever state the main thread takes
`Terminate`, no later state has it in its join with the network thread in its send exactly when
the network thread has already ended on an error, or `mc-main` is still waiting for its first
display configuration. -/
theorem terminate_finishes_iff (codecs : Codecs) :
    (∀ w w', step controlCode w .terminate = some w' →
      (Finishes controlCode w' ↔ w.network = .finished)) ∧
    (∀ w w', step eventCode w .terminate = some w' →
      (Finishes eventCode w' ↔ w.network = .finished)) ∧
    ∀ w w', step (mediaCode codecs) w .terminate = some w' →
      (Finishes (mediaCode codecs) w' ↔ w.data = none ∨ w.network = .finished) := by
  refine ⟨fun w w' h => ?_, fun w w' h => ?_, fun w w' h => ?_⟩
  · rw [finishes_iff .rx h]
    simp [controlCode]
  · rw [finishes_iff .rx h]
    simp [eventCode]
  · rw [finishes_iff .rx h]
    simp [mediaCode]

/-- `ec-main` after an error, `cc-main` at work and `mc-main` before its configuration. -/
theorem terminate_finishes_witness :
    Machine.run (step eventCode) (.initial ∅)
        [.receive (.error .rx), .handOver, .deliver, .terminate] =
      some ⟨∅, [], .join, .finished, false⟩ ∧
    Finishes eventCode ⟨∅, [], .join, .finished, false⟩ ∧
    ¬ Finishes controlCode ⟨(), [], .join, .receiving, false⟩ ∧
    Finishes (mediaCode rawOnly) ⟨none, [], .gone, .receiving, false⟩ := by
  obtain ⟨hcontrol, hevent, hmedia⟩ := terminate_finishes_iff rawOnly
  refine ⟨rfl, ?_, fun hf => ?_, ?_⟩
  · exact (hevent ⟨∅, [], .select, .finished, false⟩ _ rfl).mpr rfl
  · exact nomatch (hcontrol (.initial ()) _ rfl).mp hf
  · exact (hmedia (.initial none) _ rfl).mpr (Or.inl rfl)

/-- Each worker is terminated and its connection is then closed: the network thread wakes with an
error that nobody receives. -/
theorem terminate_stuck :
    ¬ Machine.Always (step controlCode) (fun w => ¬ Stuck w) (.initial ())
      [.terminate, .close, .receive (.error .rx)] ∧
    ¬ Machine.Always (step eventCode) (fun w => ¬ Stuck w) (.initial ∅)
      [.terminate, .close, .receive (.error .rx)] ∧
    ¬ Machine.Always (step (mediaCode rawOnly)) (fun w => ¬ Stuck w) (.initial none)
      [.request ⟨0, []⟩, .terminate, .close, .receive (.error .rx)] := by
  refine ⟨fun h => ?_, fun h => ?_, fun h => ?_⟩
  · exact h.last (t := ⟨(), [], .join, .sending (.error .rx), true⟩) rfl ⟨rfl, rfl, rfl⟩
  · exact h.last (t := ⟨∅, [], .join, .sending (.error .rx), true⟩) rfl ⟨rfl, rfl, rfl⟩
  · exact h.last (t := ⟨some (Framer.new ⟨0, []⟩), [], .join, .sending (.error .rx), true⟩) rfl
      ⟨rfl, rfl, rfl⟩

/-- **`cc-main` never finishes after `Terminate`**: its loop ends on the error that ends the network
thread, so `Terminate` always finds that thread alive. -/
theorem control_never_finishes {w w' : State Unit ControlMessage ChannelError ControlPtn}
    (hr : Machine.Reachable (step controlCode) (.initial ()) w)
    (h : step controlCode w .terminate = some w') : ¬ Finishes controlCode w' := by
  have hlive : w.network = .finished → w.next ≠ .select :=
    hr.invariant (I := fun w => w.network = .finished → w.next ≠ .select)
      (fun hinit => nomatch hinit)
      (fun s a s' hI hstep hn => step_live (fun d e => by simp [controlCode]) hI hstep hn)
  have hselect : w.next = .select := by
    cases step_stepped h with
    | terminate hsel => exact (selecting_iff.mp hsel).2
  intro hf
  rw [finishes_iff .rx h] at hf
  rcases hf with hl | hn
  · cases hl
  · exact hlive hn hselect

end ApertureC
