import ApertureC.FrameSync
import ApertureC.Partition

/-!
# Display requests in the backend task

What `aperturec-server/src/task/backend.rs` does with a display event of the client: set the
displays, partition what came of it, number and announce the new configuration, reconfigure the
encoders, wait for the frame-sync task and tell the client.

* `setDisplays` — `X::set_displays`, over the answers of the X server.
* `BackendVars`, `Channels`, `Sent` — the state of the task, which of its channels are open, and
  what it sends.
* `handleDisplay` — the handling of one event; `Handling` says how it ends.

Principal results: `handleDisplay_panicked_iff` and `handleDisplay_safe_iff` (**the event is
survived exactly when the displays can be partitioned**).
-/

set_option autoImplicit false

namespace ApertureC

open Geometry

/-! ## Conversions -/

/-- `TryFrom<Rect> for common::Rectangle`; a `usize` always fits. -/
def Proto.Rectangle.fromRect (r : Rect) : Proto.Rectangle := ⟨some r.origin, some r.size⟩

/-- `Box2D::to_rect`, where the differences wrap at 64 bits. -/
def boxToRect (b : Box2D) : Rect :=
  ⟨b.min, ⟨(b.max.x + 2 ^ 64 - b.min.x) % 2 ^ 64, (b.max.y + 2 ^ 64 - b.min.y) % 2 ^ 64⟩⟩

/-- `TryFrom<Display> for common::DisplayInfo` -/
def Proto.DisplayInfo.fromDisplay (d : Display) : Proto.DisplayInfo :=
  ⟨some (.fromRect d.area), d.isEnabled⟩

/-- `display_config_from_parts` -/
def displayConfigFromParts (id : Nat) (displays : List Display) (areas : List (List Box2D)) :
    Except String Proto.DisplayConfiguration :=
  if displays.length ≠ areas.length then
    .error s!"Display and area count do not match: {displays.length} != {areas.length}"
  else
    .ok ⟨id, (displays.zip areas).map fun da =>
      ⟨some (.fromDisplay da.1), da.2.map fun b => .fromRect (boxToRect b)⟩⟩

/-- `Rect::union`: an empty rectangle adds nothing. -/
def rectUnion (a b : Rect) : Rect :=
  if a.size.width = 0 ∨ a.size.height = 0 then b
  else if b.size.width = 0 ∨ b.size.height = 0 then a
  else
    let maxX := max ((a.origin.x + a.size.width) % 2 ^ 64) ((b.origin.x + b.size.width) % 2 ^ 64)
    let maxY := max ((a.origin.y + a.size.height) % 2 ^ 64) ((b.origin.y + b.size.height) % 2 ^ 64)
    boxToRect ⟨⟨min a.origin.x b.origin.x, min a.origin.y b.origin.y⟩, ⟨maxX, maxY⟩⟩

/-- `derive_extent`: the size that holds every enabled display, `none` without one. -/
def deriveExtent (displays : List Display) : Option Size :=
  let areas := (displays.filter fun d => d.isEnabled).map Display.area
  let extent := areas.foldl (fun acc b => some (acc.elim b fun a => rectUnion a b)) none
  extent.map fun r => ⟨(r.origin.x + r.size.width) % 2 ^ 64, (r.origin.y + r.size.height) % 2 ^ 64⟩

/-! ## Setting the displays -/

structure SetDisplaysSuccess where
  changed : Bool
  displays : List Display
  deriving DecidableEq, Repr

inductive SetDisplaySuccess where
  | noChange
  | updated
  deriving DecidableEq, Repr

/-- The X server's answers: setting a display, and reading one back. -/
structure XAnswers where
  setDisplay : Nat → Display → Option SetDisplaySuccess
  getDisplay : Nat → Option Display

/-- `Display::default()` -/
def Display.default : Display := ⟨⟨Point.zero, ⟨0, 0⟩⟩, false⟩

/-- `requested_displays.resize_with(max_display_count, Display::default)` -/
def resizeDisplays (maxDisplayCount : Nat) (displays : List Display) : List Display :=
  displays.take maxDisplayCount ++
    List.replicate (maxDisplayCount - displays.length) Display.default

/-- The loop of `X::set_displays`: errors, changed and the final displays. -/
def setEach (x : XAnswers) : Nat → List Display → Bool × Bool × List Display
  | _, [] => (false, false, [])
  | id, d :: ds =>
    let (errors, changed, final) := setEach x (id + 1) ds
    match x.setDisplay id d with
    | some kind => (errors, changed || kind = .updated, d :: final)
    | none =>
      match x.getDisplay id with
      | some current => (true, changed, current :: final)
      | none => (true, changed, final)

/-- `X::set_displays` -/
def setDisplays (x : XAnswers) (maxDisplayCount : Nat) (requested : List Display) :
    Except (List Display) SetDisplaysSuccess :=
  match setEach x 0 (resizeDisplays maxDisplayCount requested) with
  | (true, _, final) => .error final
  | (false, changed, final) => .ok ⟨changed, final⟩

/-! ## Handling the event -/

/-- The variables of the task that a display event changes. -/
structure BackendVars where
  displayConfigId : Nat
  displayExtent : Rect
  deriving DecidableEq, Repr

/-- Which sends and waits succeed: the receiver of a channel may be gone. -/
structure Channels where
  displayConfig : Bool
  encoder : Nat → Bool
  complete : Bool
  event : Bool

/-- What the task sends to the frame-sync task, to an encoder and to the client. -/
inductive Sent where
  | newDisplayConfig (l : Layout)
  | reconfigure (tx encId : Nat) (area : Box2D)
  | displayConfiguration (dc : Proto.DisplayConfiguration)
  deriving DecidableEq, Repr

/-- How the handling of an event ends: the task panics, leaves its loop with an error, or goes on
with the next event. -/
inductive Handling where
  | panicked
  | stopped
  | continues
  deriving DecidableEq, Repr

/-- The displays in force after `set_displays`, whether it succeeded or not. -/
def setResult : Except (List Display) SetDisplaysSuccess → List Display
  | .ok success => success.displays
  | .error displays => displays

/-- Send `Reconfigure` to the encoders in turn, up to the first one that is gone. -/
def reconfigureEncoders (ch : Channels) : List (Nat × Nat × Box2D) → Bool × List Sent
  | [] => (true, [])
  | (tx, encId, area) :: rest =>
    if ch.encoder tx then
      let (ok, sent) := reconfigureEncoders ch rest
      (ok, .reconfigure tx encId area :: sent)
    else (false, [])

/-- The announcement of a configuration that has been built. -/
def announce (ch : Channels) (encoders : Nat) (s : BackendVars) (l : Layout)
    (dc : Proto.DisplayConfiguration) : Handling × BackendVars × List Sent :=
  if !ch.displayConfig then (.stopped, s, [])
  else
    let (ok, commands) := reconfigureEncoders ch ((List.range encoders).zip l.assignment)
    let sent := .newDisplayConfig l :: commands
    if !ok then (.stopped, s, sent)
    else if !ch.complete then (.stopped, s, sent)
    else if !ch.event then (.stopped, s, sent)
    else
      let sent := sent ++ [.displayConfiguration dc]
      match deriveExtent (l.displays.map Prod.fst) with
      | some extent => (.continues, { s with displayExtent := ⟨Point.zero, extent⟩ }, sent)
      | none => (.stopped, s, sent)

/-- The handling of `Event::Display`, given what `set_displays` returned. -/
def handleDisplay (ch : Channels) (encoders : Nat) (s : BackendVars)
    (result : Except (List Display) SetDisplaysSuccess) : Handling × BackendVars × List Sent :=
  let displays := setResult result
  match partitionDisplays displays encoders with
  | none => (.panicked, s, [])
  -- `.expect("Failed to re-partition displays")`
  | some (.error _) => (.panicked, s, [])
  | some (.ok encoderAreas) =>
    let s := { s with displayConfigId := s.displayConfigId + 1 }
    match displayConfigFromParts s.displayConfigId displays encoderAreas with
    | .error _ => (.continues, s, [])
    | .ok dc => announce ch encoders s ⟨s.displayConfigId, displays.zip encoderAreas⟩ dc

/-- The displays can be shared out over the encoders. -/
def Partitionable (displays : List Display) (encoders : Nat) : Prop :=
  0 < enabledCount displays ∧ enabledCount displays ≤ encoders

/-- The event is survived: no panic, and displays that cannot be partitioned change nothing for the
task, the frame-sync task, the encoders and the client. -/
def Survived (displays : List Display) (encoders : Nat) (s : BackendVars)
    (h : Handling × BackendVars × List Sent) : Prop :=
  h.1 ≠ .panicked ∧ (¬ Partitionable displays encoders → h = (.continues, s, []))

theorem announce_not_panicked (ch : Channels) (encoders : Nat) (s : BackendVars) (l : Layout)
    (dc : Proto.DisplayConfiguration) : (announce ch encoders s l dc).1 ≠ .panicked := by
  unfold announce
  split
  · simp
  · dsimp only
    split
    · simp
    · split
      · simp
      · split
        · simp
        · split <;> simp

/-- **The task panics exactly on displays that cannot be partitioned.** -/
theorem handleDisplay_panicked_iff (ch : Channels) (encoders : Nat) (s : BackendVars)
    (result : Except (List Display) SetDisplaysSuccess) :
    (handleDisplay ch encoders s result).1 = .panicked ↔
      ¬ Partitionable (setResult result) encoders := by
  unfold handleDisplay Partitionable
  rcases partitionDisplays_spec (setResult result) encoders with
    ⟨h₀, h₁, areas, ha, hlen⟩ | ⟨hnot, e, he⟩
  · simp only [ha, h₀, h₁, and_self, not_true_eq_false, iff_false]
    split
    · simp
    · exact announce_not_panicked ch encoders _ _ _
  · simp only [he, true_iff]
    exact hnot

/-- **A display event is survived exactly when some display is enabled and there is an encoder for
each enabled one**, whatever `set_displays` returned and whichever channels are open. -/
theorem handleDisplay_safe_iff (ch : Channels) (encoders : Nat) (s : BackendVars)
    (result : Except (List Display) SetDisplaysSuccess) :
    Survived (setResult result) encoders s (handleDisplay ch encoders s result) ↔
      0 < enabledCount (setResult result) ∧ enabledCount (setResult result) ≤ encoders := by
  have hiff := handleDisplay_panicked_iff ch encoders s result
  constructor
  · intro h
    by_contra hnot
    exact h.1 (hiff.mpr hnot)
  · intro h
    exact ⟨fun hp => hiff.mp hp h, fun hnot => absurd h hnot⟩

theorem foldl_union_isSome : ∀ (areas : List Rect) (acc : Option Rect), acc.isSome ∨ areas ≠ [] →
    (areas.foldl (fun acc b => some (acc.elim b fun a => rectUnion a b)) acc).isSome
  | [], acc, h => by simpa using h
  | b :: areas, acc, _ => foldl_union_isSome areas _ (Or.inl rfl)

theorem deriveExtent_isSome {displays : List Display} (h : 0 < enabledCount displays) :
    (deriveExtent displays).isSome := by
  have hne : (displays.filter fun d => d.isEnabled).map Display.area ≠ [] := by
    rw [enabledCount, List.countP_eq_length_filter] at h
    simpa using List.length_pos_iff.mp h
  simp only [deriveExtent, Option.isSome_map]
  exact foldl_union_isSome _ none (Or.inr hne)

theorem reconfigureEncoders_all {ch : Channels} (h : ∀ e, ch.encoder e = true) :
    ∀ commands : List (Nat × Nat × Box2D), reconfigureEncoders ch commands =
      (true, commands.map fun a => .reconfigure a.1 a.2.1 a.2.2)
  | [] => rfl
  | (tx, encId, area) :: rest => by
    simp only [reconfigureEncoders, h, if_true, reconfigureEncoders_all h rest, List.map_cons]

/-- **A new configuration reaches the frame-sync task, the encoders and the client, in this order**,
when displays can be partitioned and every channel is open. -/
theorem handleDisplay_announces {ch : Channels} (hd : ch.displayConfig = true)
    (he : ∀ e, ch.encoder e = true) (hc : ch.complete = true) (hv : ch.event = true)
    {encoders : Nat} (s : BackendVars) {result : Except (List Display) SetDisplaysSuccess}
    (h : Partitionable (setResult result) encoders) :
    ∃ areas dc extent, partitionDisplays (setResult result) encoders = some (.ok areas) ∧
      displayConfigFromParts (s.displayConfigId + 1) (setResult result) areas = .ok dc ∧
      handleDisplay ch encoders s result =
        (.continues, ⟨s.displayConfigId + 1, ⟨Point.zero, extent⟩⟩,
          .newDisplayConfig ⟨s.displayConfigId + 1, (setResult result).zip areas⟩ ::
            ((List.range encoders).zip (Layout.assignment
              ⟨s.displayConfigId + 1, (setResult result).zip areas⟩)).map
                (fun a => .reconfigure a.1 a.2.1 a.2.2) ++
            [.displayConfiguration dc]) := by
  rcases partitionDisplays_spec (setResult result) encoders with
    ⟨h₀, h₁, areas, ha, hlen⟩ | ⟨hnot, -⟩
  · obtain ⟨extent, hx⟩ := Option.isSome_iff_exists.mp (deriveExtent_isSome h₀)
    have hfst : ((setResult result).zip areas).map Prod.fst = setResult result :=
      List.map_fst_zip (by omega)
    obtain ⟨dc, hdc⟩ : ∃ dc, displayConfigFromParts (s.displayConfigId + 1) (setResult result)
        areas = .ok dc :=
      ⟨_, by rw [displayConfigFromParts, if_neg (not_not.mpr hlen.symm)]⟩
    refine ⟨areas, dc, extent, ha, hdc, ?_⟩
    simp only [handleDisplay, ha, hdc, announce, hd, hc, hv, reconfigureEncoders_all he, hfst, hx,
      Bool.not_true, Bool.false_eq_true, if_false]
  · exact absurd h hnot

/-- The step of the server machine sends the same commands. -/
theorem displayEvent_commands {sv sv' : Server} {displays : List (Display × List Box2D)}
    (h : sv.displayEvent displays = some sv') :
    ∃ l : Layout, l = ⟨sv.displayConfigId + 1, displays⟩ ∧ sv'.newDisplayConfigs = [l] ∧
      sv'.backend = .reconfigure l (((List.range sv.encoderCount).zip l.assignment).map fun a =>
        (a.1, ⟨a.2.1, a.2.2, l.configId⟩)) := by
  unfold Server.displayEvent at h
  split at h
  · cases h
    exact ⟨_, rfl, rfl, rfl⟩
  · cases h

/-- A client disables its only display, and the X server does so. -/
theorem handleDisplay_all_disabled :
    ¬ Survived (setResult (setDisplays ⟨fun _ _ => some .updated, fun _ => none⟩ 1
        [⟨⟨⟨0, 0⟩, ⟨800, 600⟩⟩, false⟩])) 4 ⟨0, ⟨⟨0, 0⟩, ⟨800, 600⟩⟩⟩
      (handleDisplay ⟨true, fun _ => true, true, true⟩ 4 ⟨0, ⟨⟨0, 0⟩, ⟨800, 600⟩⟩⟩
        (setDisplays ⟨fun _ _ => some .updated, fun _ => none⟩ 1
          [⟨⟨⟨0, 0⟩, ⟨800, 600⟩⟩, false⟩])) := by
  intro h
  exact h.1 (by decide)

end ApertureC
