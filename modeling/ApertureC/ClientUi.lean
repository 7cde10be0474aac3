import ApertureC.EuclidMap
import ApertureC.Image
import ApertureC.Protocol

/-!
# The user interface of the client (`aperturec-client-gtk4/src/main.rs`)

* `Monitors` — the monitors of the client, each with its usable area.
* `WindowMode.deriveNext` — the window mode that a display configuration calls for.
* `Ui` — one window for the single-window modes and one for every monitor.  A window is its image;
  the toolkit's side of it (visibility, default size, queued redraws) is left out.
* `Ui.new`, `Ui.setWindowMode`, `Ui.requestDisplayConfig`, `Ui.handleMonitorsChanged`,
  `Ui.setDisplayConfiguration`, `Ui.draw` — the handlers of the event loop.  `none` is a panic.

Principal results: `deriveNext_eq_multi` (only multi-monitor mode leads to itself),
`setDisplayConfiguration_cases` (what a display configuration does) and `draw_eq_some` (what a draw
does).
-/

set_option autoImplicit false

namespace ApertureC

open Geometry

/-! ## Monitors -/

/-- The usable area of every monitor, by its total area. -/
structure Monitors where
  map : EuclidMap Rect
  deriving DecidableEq

namespace DisplayConfiguration

/-- The areas of the enabled displays. -/
def enabledAreas (dc : DisplayConfiguration) : List Rect :=
  (dc.displayDecoderInfos.filter fun ddi => ddi.display.isEnabled).map fun ddi => ddi.display.area

end DisplayConfiguration

namespace Monitors

def usableAreas (m : Monitors) : List Rect := m.map.values

def «matches» (m : Monitors) (dc : DisplayConfiguration) : Bool :=
  decide (EuclidMap.setOf dc.enabledAreas = EuclidMap.setOf m.usableAreas)

/-- The loop of `current` over the toolkit's monitors. -/
def collect : List (Rect × Rect) → EuclidMap Rect → Except String (EuclidMap Rect)
  | [], map => .ok map
  | (totalArea, usableArea) :: mons, map =>
    if !totalArea.containsRect usableArea then
      .error "usable area exceeds total area of monitor"
    else if !(map.insert totalArea usableArea).2.isEmpty then
      .error "at least two monitors overlap"
    else collect mons (map.insert totalArea usableArea).1

/-- `gdk` lists the total and the usable area of every monitor of the default display. -/
def current (gdk : Option (List (Rect × Rect))) : Except String Monitors :=
  match gdk with
  | none => .error "no default display"
  | some mons =>
    if mons.isEmpty then .error "no monitors found for display"
    else
      match collect mons EuclidMap.new with
      | .error error => .error error
      | .ok map => if map.entries.isEmpty then .error "no monitors" else .ok ⟨map⟩

/-- The total area of the monitor at a point. -/
def gdkMonitorAtPoint (m : Monitors) (p : Point) : Option Rect := (m.map.get p).map Prod.fst

end Monitors

/-! ## Window modes -/

inductive WindowMode where
  | single (fullscreen : Bool)
  | multi
  deriving DecidableEq, Repr

inductive DisplayMode where
  | windowed (size : Size)
  | singleFullscreen
  | multiFullscreen
  deriving DecidableEq, Repr

/-- `From<DisplayMode> for WindowMode`. -/
def DisplayMode.toWindowMode : DisplayMode → WindowMode
  | .windowed _ => .single false
  | .singleFullscreen => .single true
  | .multiFullscreen => .multi

def WindowMode.deriveNext (currentMode : WindowMode) (dc : DisplayConfiguration)
    (monitors : Monitors) : Except String WindowMode :=
  if dc.enabledAreas.length = 0 then .error "no enabled displays"
  else if dc.enabledAreas.length = 1 then
    match currentMode with
    | .single fullscreen => .ok (.single fullscreen)
    | .multi => .ok (.single true)
  else
    match currentMode with
    | .single _ =>
      .error "Server provided multi-monitor display configuration in single-window mode"
    | .multi =>
      if monitors.matches dc then .ok .multi
      else
        .error ("Server provided multi-monitor initial display configuration which does not " ++
          "match monitors geometry on client")

theorem deriveNext_eq_multi {mode : WindowMode} {dc : DisplayConfiguration} {monitors : Monitors} :
    mode.deriveNext dc monitors = .ok .multi ↔
      mode = .multi ∧ 2 ≤ dc.enabledAreas.length ∧ monitors.matches dc = true := by
  unfold WindowMode.deriveNext
  cases mode with
  | single fullscreen =>
    split
    · simp
    · split <;> simp
  | multi =>
    split
    · rename_i h
      simp [h]
    · split
      · rename_i h
        simp [h]
      · have : 2 ≤ dc.enabledAreas.length := by omega
        by_cases hm : monitors.matches dc = true
        · simp [hm, this]
        · simp [hm]

/-! ## The user interface -/

def defaultResolution : Size := ⟨800, 600⟩

structure Ui where
  /-- The display changes requested from the server. -/
  requests : List (List Display)
  mmWindows : EuclidMap Image
  singleWindow : Image
  serverCanMm : Bool
  hotplugDisabledMm : Bool
  windowMode : WindowMode
  displayConfigId : Nat
  monitors : Monitors

namespace Ui

def requestDisplayConfig (ui : Ui) : Ui :=
  match ui.windowMode with
  | .single _ =>
    let size := ui.singleWindow.size
    { ui with
      singleWindow := Image.black size
      requests := ui.requests ++ [[⟨⟨Point.zero, size⟩, true⟩]] }
  | .multi =>
    { ui with
      mmWindows := ui.mmWindows.mapValues fun area _ => Image.black area.size
      requests := ui.requests ++ [ui.mmWindows.keys.map fun area => ⟨area, true⟩] }

/-- Show the windows of a mode; the panic is `monitor state out of sync`. -/
def showWindows (ui : Ui) : WindowMode → Option Unit
  | .single _ => some ()
  | .multi =>
    if ui.mmWindows.keys.all fun area => (ui.monitors.gdkMonitorAtPoint area.origin).isSome then
      some ()
    else none

def setWindowMode (ui : Ui) (windowMode : WindowMode) : Option (Ui × Except String Unit) :=
  if windowMode = .multi ∧ (ui.serverCanMm = false ∨ ui.hotplugDisabledMm = true) then
    some (ui, .error "multi-monitor mode disabled for this session")
  else do
    ui.showWindows windowMode
    return ({ ui with windowMode := windowMode }.requestDisplayConfig, .ok ())

def setWindowModeFromServer (ui : Ui) (windowMode : WindowMode) :
    Option (Ui × Except String Unit) :=
  if windowMode = .multi ∧ (ui.serverCanMm = false ∨ ui.hotplugDisabledMm = true) then
    some (ui, .error "server requested multi-monitor mode after it was disabled")
  else do
    ui.showWindows windowMode
    return ({ ui with windowMode := windowMode }, .ok ())

/-- No multi-monitor mode for the rest of the session. -/
def disableMm (ui : Ui) (monitors : Monitors) : Ui :=
  { ui with hotplugDisabledMm := true, serverCanMm := false, monitors := monitors }

/-- `gdk` is what the toolkit reports now. -/
def handleMonitorsChanged (ui : Ui) (gdk : Option (List (Rect × Rect))) : Option Ui :=
  if ui.hotplugDisabledMm then some ui
  else
    let ui₁ := ui.disableMm ((Monitors.current gdk).toOption.getD ui.monitors)
    if ui₁.windowMode = .multi then (ui₁.setWindowMode (.single true)).map Prod.fst
    else some ui₁

def windowAt (ui : Ui) (p : Point) : Option (Rect × Image) :=
  match ui.windowMode with
  | .single _ =>
    if (Rect.fromSize ui.singleWindow.size).contains p then
      some (Rect.fromSize ui.singleWindow.size, ui.singleWindow)
    else none
  | .multi => ui.mmWindows.get p

/-- The image of the window at a point is replaced. -/
def setImageAt (ui : Ui) (p : Point) (image : Image) : Ui :=
  match ui.windowMode with
  | .single _ => { ui with singleWindow := image }
  | .multi =>
    { ui with mmWindows := ui.mmWindows.mapValues fun area old =>
        if area.contains p then image else old }

def draw (ui : Ui) (d : Draw) : Option Ui :=
  match ui.windowAt d.origin with
  | none => some ui
  | some (winArea, image) => do
    let image ← image.draw d.pixels
      ⟨d.origin.x - winArea.origin.x, d.origin.y - winArea.origin.y⟩ d.frame
    return ui.setImageAt d.origin image

/-- The mode a configuration calls for.  After a change of the monitors an unusable one means
single-monitor fullscreen. -/
def nextWindowMode (ui : Ui) (dc : DisplayConfiguration) : Except String WindowMode :=
  match ui.windowMode.deriveNext dc ui.monitors with
  | .ok mode => .ok mode
  | .error error => if ui.hotplugDisabledMm then .ok (.single true) else .error error

/-- The single window takes the size of `display_decoder_infos[0]`, enabled or not. -/
def replaceSingleImage (ui : Ui) (dc : DisplayConfiguration) : WindowMode → Option Ui
  | .multi => some ui
  | .single _ => do
    let ddi ← dc.displayDecoderInfos.head?
    return { ui with singleWindow := Image.black ddi.display.area.size }

/-- The windows change only when the mode does. -/
def adoptWindowMode (ui : Ui) (effective : WindowMode) : Option (Ui × Except String Unit) :=
  if effective ≠ ui.windowMode then ui.setWindowModeFromServer effective else some (ui, .ok ())

def setDisplayConfiguration (ui : Ui) (dc : DisplayConfiguration) :
    Option (Ui × Except String Unit) :=
  if dc.id ≤ ui.displayConfigId then some (ui, .error "out-of-date display configuration")
  else
    match ui.nextWindowMode dc with
    | .error error => some (ui, .error error)
    | .ok next => do
      let effective := if ui.hotplugDisabledMm ∧ next = .multi then .single true else next
      let ui₁ : Ui := { ui with
        serverCanMm := if ui.windowMode = .multi ∧ next ≠ .multi then false else ui.serverCanMm }
      let ui₂ ← ui₁.replaceSingleImage dc effective
      let ui₃ : Ui := { ui₂ with
        mmWindows := if next = .multi ∧ ui₂.windowMode ≠ .multi then
          ui₂.mmWindows.mapValues fun area _ => Image.black area.size else ui₂.mmWindows }
      let (ui₄, result) ← ui₃.adoptWindowMode effective
      match result with
      | .error error => return (ui₄, .error error)
      | .ok () => return ({ ui₄ with displayConfigId := dc.id }, .ok ())

def new (initialDisplayMode : DisplayMode) (initialDisplayConfig : DisplayConfiguration)
    (gdk : Option (List (Rect × Rect))) : Option (Except String Ui) :=
  match Monitors.current gdk with
  | .error error => some (.error error)
  | .ok monitors =>
    match initialDisplayMode.toWindowMode.deriveNext initialDisplayConfig monitors with
    | .error error => some (.error error)
    | .ok initialWindowMode => do
      let ddi ← initialDisplayConfig.displayDecoderInfos.head?
      let dcSize := ddi.display.area.size
      let initialWindowedSize := match initialWindowMode with
        | .multi => defaultResolution
        | .single true => ⟨dcSize.width / 2, dcSize.height / 2⟩
        | .single false => dcSize
      let serverCanMm :=
        !decide (initialDisplayMode = .multiFullscreen ∧ initialWindowMode ≠ .multi)
      let (ui, result) ← Ui.setWindowMode
        { requests := []
          mmWindows := EuclidMap.fromIter
            (monitors.usableAreas.map fun area => (area, Image.new area.size))
          singleWindow := Image.new initialWindowedSize
          serverCanMm := serverCanMm
          hotplugDisabledMm := false
          windowMode := initialWindowMode
          displayConfigId := initialDisplayConfig.id
          monitors := monitors } initialWindowMode
      return result.map fun () => ui

/-! ## What the handlers do -/

variable {ui ui' : Ui} {result : Except String Unit} {dc : DisplayConfiguration}

theorem showWindows_single (ui : Ui) (fullscreen : Bool) :
    ui.showWindows (.single fullscreen) = some () := rfl

/-- A mode is refused, or it is entered and a display configuration for it requested. -/
theorem setWindowMode_cases {mode : WindowMode} (h : ui.setWindowMode mode = some (ui', result)) :
    (ui' = ui ∧ ∃ error, result = .error error) ∨
      (result = .ok () ∧ (mode = .multi → ui.hotplugDisabledMm = false) ∧
        ui' = { ui with windowMode := mode }.requestDisplayConfig) := by
  unfold setWindowMode at h
  split at h
  · cases h
    exact Or.inl ⟨rfl, _, rfl⟩
  · rename_i hallowed
    simp only [Option.bind_eq_bind, Option.bind_eq_some_iff, Option.pure_def, Option.some.injEq,
      Prod.mk.injEq] at h
    obtain ⟨-, -, rfl, rfl⟩ := h
    refine Or.inr ⟨rfl, fun hmode => ?_, rfl⟩
    simpa using fun hp => hallowed ⟨hmode, Or.inr hp⟩

theorem setWindowMode_single (ui : Ui) (fullscreen : Bool) :
    ui.setWindowMode (.single fullscreen) =
      some ({ ui with windowMode := .single fullscreen }.requestDisplayConfig, .ok ()) := by
  simp [setWindowMode, showWindows_single]

theorem setWindowModeFromServer_single (ui : Ui) (fullscreen : Bool) :
    ui.setWindowModeFromServer (.single fullscreen) =
      some ({ ui with windowMode := .single fullscreen }, .ok ()) := by
  simp [setWindowModeFromServer, showWindows_single]

theorem adoptWindowMode_single (ui : Ui) (fullscreen : Bool) :
    ui.adoptWindowMode (.single fullscreen) =
      some ({ ui with windowMode := .single fullscreen }, .ok ()) := by
  unfold adoptWindowMode
  split
  · exact setWindowModeFromServer_single ui fullscreen
  · rename_i h
    rw [ne_eq, not_not] at h
    rw [h]

theorem nextWindowMode_eq_multi :
    ui.nextWindowMode dc = .ok .multi ↔
      ui.windowMode = .multi ∧ 2 ≤ dc.enabledAreas.length ∧ ui.monitors.matches dc = true := by
  rw [← deriveNext_eq_multi, nextWindowMode]
  cases ui.windowMode.deriveNext dc ui.monitors with
  | ok mode => simp
  | error error => cases ui.hotplugDisabledMm <;> simp

/-- The configuration continues multi-monitor mode. -/
def ContinuesMulti (ui : Ui) (dc : DisplayConfiguration) : Prop :=
  (ui.displayConfigId < dc.id ∧ ui.hotplugDisabledMm = false) ∧
    ui.windowMode = .multi ∧ 2 ≤ dc.enabledAreas.length ∧ ui.monitors.matches dc = true

instance (ui : Ui) (dc : DisplayConfiguration) : Decidable (ui.ContinuesMulti dc) :=
  inferInstanceAs (Decidable ((ui.displayConfigId < dc.id ∧ ui.hotplugDisabledMm = false) ∧
    ui.windowMode = .multi ∧ 2 ≤ dc.enabledAreas.length ∧ ui.monitors.matches dc = true))

theorem continuesMulti_iff :
    ui.ContinuesMulti dc ↔ (ui.displayConfigId < dc.id ∧ ui.hotplugDisabledMm = false) ∧
      ui.nextWindowMode dc = .ok .multi := by
  rw [nextWindowMode_eq_multi]
  rfl

/-- **What a display configuration does**: it is refused, or it keeps the windows of
multi-monitor mode as they are, or it leads to a single window with a new image. -/
theorem setDisplayConfiguration_cases
    (h : ui.setDisplayConfiguration dc = some (ui', result)) :
    (¬ ui.ContinuesMulti dc ∧ ui' = ui ∧ ∃ error, result = .error error) ∨
    (ui.ContinuesMulti dc ∧ result = .ok () ∧ ui' = { ui with displayConfigId := dc.id }) ∨
    (¬ ui.ContinuesMulti dc ∧ result = .ok () ∧ ∃ fullscreen serverCanMm ddi,
      dc.displayDecoderInfos.head? = some ddi ∧
      ui' = { ui with
        singleWindow := Image.black ddi.display.area.size
        serverCanMm := serverCanMm
        windowMode := .single fullscreen
        displayConfigId := dc.id }) := by
  rw [continuesMulti_iff]
  unfold setDisplayConfiguration at h
  split at h
  · rename_i hid
    cases h
    exact Or.inl ⟨fun hc => absurd hc.1.1 (Nat.not_lt.mpr hid), rfl, _, rfl⟩
  · rename_i hid
    cases hnext : ui.nextWindowMode dc with
    | error error =>
      rw [hnext] at h
      cases h
      exact Or.inl ⟨(fun hc => nomatch hc.2), rfl, _, rfl⟩
    | ok next =>
      rw [hnext] at h
      simp only at h
      cases next with
      | single fullscreen =>
        simp only [reduceCtorEq, and_false, false_and, if_false, replaceSingleImage,
          Option.bind_eq_bind, Option.bind_eq_some_iff, Option.pure_def, Option.some.injEq] at h
        obtain ⟨_, ⟨ddi, hddi, rfl⟩, h⟩ := h
        simp only [adoptWindowMode_single, Option.some.injEq, exists_eq_left', Prod.mk.injEq] at h
        obtain ⟨rfl, rfl⟩ := h
        exact Or.inr (Or.inr ⟨(fun hc => nomatch hc.2), rfl, fullscreen, _, ddi, hddi, rfl⟩)
      | multi =>
        have hmode := (nextWindowMode_eq_multi.mp hnext).1
        cases hplug : ui.hotplugDisabledMm with
        | false =>
          simp [hplug, hmode, replaceSingleImage, adoptWindowMode] at h
          obtain ⟨rfl, rfl⟩ := h
          exact Or.inr (Or.inl ⟨⟨⟨Nat.lt_of_not_le hid, rfl⟩, rfl⟩, rfl, by rw [hmode]⟩)
        | true =>
          simp only [hplug, hmode, true_and, if_true, replaceSingleImage, Option.bind_eq_bind,
            Option.bind_eq_some_iff, Option.pure_def, Option.some.injEq] at h
          obtain ⟨_, ⟨ddi, hddi, rfl⟩, h⟩ := h
          simp only [adoptWindowMode_single, Option.some.injEq, exists_eq_left', Prod.mk.injEq,
            ne_eq, not_true_eq_false, if_false] at h
          obtain ⟨rfl, rfl⟩ := h
          exact Or.inr (Or.inr ⟨(fun hc => nomatch hc.1.2), rfl, true, _, ddi, hddi, rfl⟩)

/-- The first change of the monitors ends multi-monitor mode for good. -/
theorem handleMonitorsChanged_cases {gdk : Option (List (Rect × Rect))}
    (h : ui.handleMonitorsChanged gdk = some ui') :
    (ui.hotplugDisabledMm = true ∧ ui' = ui) ∨
    ∃ monitors, (ui.windowMode ≠ .multi ∧ ui' = ui.disableMm monitors) ∨
      (ui.windowMode = .multi ∧
        ui' = { ui.disableMm monitors with windowMode := .single true }.requestDisplayConfig) := by
  unfold handleMonitorsChanged at h
  split at h
  · rename_i hplug
    cases h
    exact Or.inl ⟨hplug, rfl⟩
  · refine Or.inr ⟨(Monitors.current gdk).toOption.getD ui.monitors, ?_⟩
    simp only [setWindowMode_single] at h
    split at h
    · rename_i hmulti
      cases h
      exact Or.inr ⟨hmulti, rfl⟩
    · rename_i hmulti
      cases h
      exact Or.inl ⟨hmulti, rfl⟩

end Ui

end ApertureC
