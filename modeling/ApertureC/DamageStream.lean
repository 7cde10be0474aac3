import ApertureC.DisplayExtent
import ApertureC.FrameRouting
import ApertureC.ServerSteps

/-!
# From the framebuffer to the tracking buffers

The way of a changed pixel on the server: the X server draws into the shared framebuffer and reports
where (`damage_stream` of `aperturec-server/src/backend/x.rs`), the backend task captures what is on
the displays (`aperturec-server/src/task/backend.rs`), and the frame-sync task updates the tracking
buffers (`aperturec-server/src/task/frame_sync.rs`).  A captured area is read when it is used.

* `Desktop`, `Desktop.step` — the tasks of `Server` with the framebuffer, the damage on its way and
  the extent of the displays.
* `Move` — the steps, case by case.
* `Pending` — a pixel that damage on its way covers.
* `Inv` — the invariant of a run.

Principal results: `inv_step` (every step keeps the invariant) and `always_tracked` (**a display
shows the framebuffer wherever no damage is on its way**, in every state of every run).
-/

set_option autoImplicit false

namespace ApertureC

open Geometry

/-- The server's tasks and the X server's framebuffer. -/
structure Desktop where
  server : Server
  framebuffer : Point → Pixel32
  /-- Areas that the X server has drawn into and not reported yet. -/
  drawn : List Rect
  /-- The areas in `damage_stream`. -/
  damage : List Rect
  displayExtent : Rect
  /-- The areas in `damage_rx`. -/
  captured : List Rect
  /-- The area that the tracking buffers are updated with, and those that have not been yet. -/
  updating : Rect × List Nat

namespace Desktop

/-- `XPixelMap::as_ndarray` with its origin. -/
def capture (framebuffer : Point → Pixel32) (area : Rect) : SubframeBuffer Pixel32 :=
  ⟨area.origin, ⟨area.size.height, area.size.width,
    fun y x => framebuffer ⟨area.origin.x + x, area.origin.y + y⟩⟩⟩

/-- What `set_displays` damages in the end. -/
def addedDamage (displays : List Display) : List Rect :=
  match deriveExtent displays with
  | some extent => [⟨Point.zero, ⟨extent.width % 65536, extent.height % 65536⟩⟩]
  | none => []

/-- `damaged` says whether the X server accepted the damage of `set_displays`. -/
inductive Act where
  | draw (area : Rect) (pixels : Point → Pixel32)
  | report
  | display (displays : List (Display × List Box2D)) (damaged : Bool)
  | displayFailed (displays : List Display) (damaged : Bool)
  | backend
  | take (n : Nat)
  | receive
  | update (d : Nat)
  | task (a : ServerAct)

/-- The session begins with the extent of its displays and the whole screen in `damage_stream`. -/
def start (limit extent : Size) (maxEncoderCount : Nat) (scheme : Scheme)
    (displays : List (Display × List Box2D)) (framebuffer : Point → Pixel32) : Desktop where
  server := .init maxEncoderCount scheme displays
  framebuffer := framebuffer
  drawn := []
  damage := [⟨Point.zero, limit⟩]
  displayExtent := Rect.fromSize extent
  captured := []
  updating := (⟨Point.zero, ⟨0, 0⟩⟩, [])

section Step

variable (limit : Size) (cc : ConnectedComponents) (comp : Compressors)

/-- A step of the backend task after a display event; at its end the extent is derived. -/
def backendStep (s : Desktop) : Option Desktop :=
  match s.server.backend with
  | .awaitComplete l =>
    match s.server.backendStep, deriveExtent (l.displays.map Prod.fst) with
    | some server, some extent =>
      some { s with server := server, displayExtent := Rect.fromSize extent }
    -- without an extent the task breaks
    | _, _ => none
  | _ => s.server.backendStep.map fun server => { s with server := server }

/-- The damage that is there is taken at once: as much of it as the stream yields. -/
def takeDamage (s : Desktop) (n : Nat) : Option Desktop :=
  match s.server.backend, s.damage.take n with
  | .select, area :: areas =>
    some { s with
      damage := s.damage.drop n
      captured := s.captured ++ (s.displayExtent.intersection (bounding area areas)).toList }
  | _, _ => none

/-- The next captured area goes to every tracking buffer. -/
def receive (s : Desktop) : Option Desktop :=
  match s.updating.2, s.captured with
  | [], area :: rest =>
    some { s with captured := rest, updating := (area, List.range s.server.displayCount) }
  | _, _ => none

def updateDisplay (s : Desktop) (d : Nat) : Option Desktop :=
  if d ∈ s.updating.2 then
    (s.server.update cc d (capture s.framebuffer s.updating.1)).map fun server =>
      { s with server := server, updating := (s.updating.1, s.updating.2.filter (· ≠ d)) }
  else none

def step (s : Desktop) : Act → Option Desktop
  | .draw area pixels =>
    if Within area limit ∧ HasPixels area then
      some { s with
        framebuffer := fun p => if p ∈ area.toBox2D then pixels p else s.framebuffer p
        drawn := s.drawn ++ [area] }
    else none
  | .report =>
    match s.drawn with
    | [] => none
    | area :: rest => some { s with drawn := rest, damage := s.damage ++ [area] }
  | .display displays damaged =>
    if InLimit limit (displays.map Prod.fst) then
      (s.server.displayEvent displays).map fun server =>
        { s with
          server := server
          drawn := s.drawn ++ if damaged then addedDamage (displays.map Prod.fst) else [] }
    else none
  | .displayFailed displays damaged =>
    if InLimit limit displays then
      s.server.displayEventFailed.map fun server =>
        { s with
          server := server
          drawn := s.drawn ++ if damaged then addedDamage displays else [] }
    else none
  | .backend => s.backendStep
  | .take n => s.takeDamage n
  | .receive => s.receive
  | .update d => s.updateDisplay cc d
  | .task a =>
    match a with
    | .config | .frame _ | .reserved _ _ | .waited _ _ | .takeCommand _ | .takeFrame _
    | .encode _ _ =>
      (s.server.step cc comp a).map fun server => { s with server := server }
    | _ => none

/-- What each act does. -/
inductive Move (s : Desktop) : Act → Desktop → Prop
  | draw (area : Rect) (pixels : Point → Pixel32) (harea : Within area limit ∧ HasPixels area) :
    Move s (.draw area pixels) { s with
      framebuffer := fun p => if p ∈ area.toBox2D then pixels p else s.framebuffer p
      drawn := s.drawn ++ [area] }
  | report (area : Rect) (rest : List Rect) (hdrawn : s.drawn = area :: rest) :
    Move s .report { s with drawn := rest, damage := s.damage ++ [area] }
  | display (displays : List (Display × List Box2D)) (damaged : Bool)
      (hin : InLimit limit (displays.map Prod.fst)) (server : Server)
      (hserver : s.server.displayEvent displays = some server) :
    Move s (.display displays damaged) { s with
      server := server
      drawn := s.drawn ++ if damaged then addedDamage (displays.map Prod.fst) else [] }
  | displayFailed (displays : List Display) (damaged : Bool) (hin : InLimit limit displays)
      (server : Server) (hserver : s.server.displayEventFailed = some server) :
    Move s (.displayFailed displays damaged) { s with
      server := server
      drawn := s.drawn ++ if damaged then addedDamage displays else [] }
  | complete (l : Layout) (hb : s.server.backend = .awaitComplete l) (server : Server)
      (hserver : s.server.backendStep = some server) (extent : Size)
      (hextent : deriveExtent (l.displays.map Prod.fst) = some extent) :
    Move s .backend { s with server := server, displayExtent := Rect.fromSize extent }
  | backend (hb : ∀ l, s.server.backend ≠ .awaitComplete l) (server : Server)
      (hserver : s.server.backendStep = some server) :
    Move s .backend { s with server := server }
  | take (n : Nat) (area : Rect) (areas : List Rect) (hselect : s.server.backend = .select)
      (htake : s.damage.take n = area :: areas) :
    Move s (.take n) { s with
      damage := s.damage.drop n
      captured := s.captured ++ (s.displayExtent.intersection (bounding area areas)).toList }
  | receive (area : Rect) (rest : List Rect) (hnone : s.updating.2 = [])
      (hcaptured : s.captured = area :: rest) :
    Move s .receive { s with
      captured := rest, updating := (area, List.range s.server.displayCount) }
  | update (d : Nat) (hmem : d ∈ s.updating.2) (server : Server)
      (hserver : s.server.update cc d (capture s.framebuffer s.updating.1) = some server) :
    Move s (.update d) { s with
      server := server, updating := (s.updating.1, s.updating.2.filter (· ≠ d)) }
  | config (server : Server) (hserver : s.server.configStep = some server) :
    Move s (.task .config) { s with server := server }
  | frame (a : ServerAct) (d : Nat) (ha : a.frameTask = some d) (server : Server)
      (hserver : s.server.step cc comp a = some server) :
    Move s (.task a) { s with server := server }
  | takeCommand (e : Nat) (server : Server) (hserver : s.server.takeCommand e = some server) :
    Move s (.task (.takeCommand e)) { s with server := server }
  | takeFrame (e : Nat) (server : Server) (hserver : s.server.takeFrame e = some server) :
    Move s (.task (.takeFrame e)) { s with server := server }
  | encode (e : Nat) (order : List Nat) (server : Server)
      (hserver : s.server.encode comp e order = some server) :
    Move s (.task (.encode e order)) { s with server := server }

theorem step_move {s s' : Desktop} {a : Act} (hs : s.step limit cc comp a = some s') :
    s.Move limit cc comp a s' := by
  unfold step at hs
  cases a with
  | draw area pixels =>
    simp only at hs
    split at hs
    · rename_i harea
      cases hs
      exact .draw area pixels harea
    · cases hs
  | report =>
    simp only at hs
    split at hs
    · cases hs
    · rename_i area rest hdrawn
      cases hs
      exact .report area rest hdrawn
  | display displays damaged =>
    simp only at hs
    split at hs
    · rename_i hin
      obtain ⟨server, hserver, rfl⟩ := Option.map_eq_some_iff.mp hs
      exact .display displays damaged hin server hserver
    · cases hs
  | displayFailed displays damaged =>
    simp only at hs
    split at hs
    · rename_i hin
      obtain ⟨server, hserver, rfl⟩ := Option.map_eq_some_iff.mp hs
      exact .displayFailed displays damaged hin server hserver
    · cases hs
  | backend =>
    simp only [backendStep] at hs
    split at hs
    · rename_i l hb
      split at hs
      · rename_i server extent hserver hextent
        cases hs
        exact .complete l hb server hserver extent hextent
      · cases hs
    · rename_i hb
      obtain ⟨server, hserver, rfl⟩ := Option.map_eq_some_iff.mp hs
      exact .backend hb server hserver
  | take n =>
    simp only [takeDamage] at hs
    split at hs
    · rename_i area areas hselect htake
      cases hs
      exact .take n area areas hselect htake
    · cases hs
  | receive =>
    simp only [receive] at hs
    split at hs
    · rename_i area rest hnone hcaptured
      cases hs
      exact .receive area rest hnone hcaptured
    · cases hs
  | update d =>
    simp only [updateDisplay] at hs
    split at hs
    · rename_i hmem
      obtain ⟨server, hserver, rfl⟩ := Option.map_eq_some_iff.mp hs
      exact .update d hmem server hserver
    · cases hs
  | task b =>
    cases b with
    | config =>
      obtain ⟨server, hserver, rfl⟩ := Option.map_eq_some_iff.mp hs
      exact .config server hserver
    | frame d =>
      obtain ⟨server, hserver, rfl⟩ := Option.map_eq_some_iff.mp hs
      exact .frame (.frame d) d rfl server hserver
    | reserved d e =>
      obtain ⟨server, hserver, rfl⟩ := Option.map_eq_some_iff.mp hs
      exact .frame (.reserved d e) d rfl server hserver
    | waited d version =>
      obtain ⟨server, hserver, rfl⟩ := Option.map_eq_some_iff.mp hs
      exact .frame (.waited d version) d rfl server hserver
    | takeCommand e =>
      obtain ⟨server, hserver, rfl⟩ := Option.map_eq_some_iff.mp hs
      exact .takeCommand e server hserver
    | takeFrame e =>
      obtain ⟨server, hserver, rfl⟩ := Option.map_eq_some_iff.mp hs
      exact .takeFrame e server hserver
    | encode e order =>
      obtain ⟨server, hserver, rfl⟩ := Option.map_eq_some_iff.mp hs
      exact .encode e order server hserver
    | displayEvent displays => cases hs
    | displayEventFailed => cases hs
    | backend => cases hs
    | update d fb => cases hs

/-- **A step is a step of the server's tasks, or it leaves them alone.** -/
theorem step_server {s s' : Desktop} {a : Act} (hs : s.step limit cc comp a = some s') :
    s'.server = s.server ∨ ∃ b, s.server.step cc comp b = some s'.server ∧
      ∀ displays, b = .displayEvent displays → ∃ damaged, a = .display displays damaged := by
  cases step_move limit cc comp hs with
  | draw area pixels harea => exact Or.inl rfl
  | report area rest hdrawn => exact Or.inl rfl
  | display displays damaged hin server hserver =>
    refine Or.inr ⟨.displayEvent displays, hserver, fun displays' heq => ⟨damaged, ?_⟩⟩
    cases heq
    rfl
  | displayFailed displays damaged hin server hserver =>
    exact Or.inr ⟨.displayEventFailed, hserver, nofun⟩
  | complete l hb server hserver extent hextent => exact Or.inr ⟨.backend, hserver, nofun⟩
  | backend hb server hserver => exact Or.inr ⟨.backend, hserver, nofun⟩
  | take n area areas hselect htake => exact Or.inl rfl
  | receive area rest hnone hcaptured => exact Or.inl rfl
  | update d hmem server hserver => exact Or.inr ⟨.update d _, hserver, nofun⟩
  | config server hserver => exact Or.inr ⟨.config, hserver, nofun⟩
  | frame b d hb server hserver =>
    refine Or.inr ⟨b, hserver, fun displays heq => ?_⟩
    rw [heq] at hb
    cases hb
  | takeCommand e server hserver => exact Or.inr ⟨.takeCommand e, hserver, nofun⟩
  | takeFrame e server hserver => exact Or.inr ⟨.takeFrame e, hserver, nofun⟩
  | encode e order server hserver => exact Or.inr ⟨.encode e order, hserver, nofun⟩

/-- The X server accepts the damage of a display event. -/
def Damages (_ : Desktop) : Act → Prop
  | .display _ damaged => damaged = true
  | _ => True

instance (s : Desktop) : ∀ a, Decidable (s.Damages a)
  | .display _ damaged => inferInstanceAs (Decidable (damaged = true))
  | .draw _ _ => inferInstanceAs (Decidable True)
  | .report => inferInstanceAs (Decidable True)
  | .displayFailed _ _ => inferInstanceAs (Decidable True)
  | .backend => inferInstanceAs (Decidable True)
  | .take _ => inferInstanceAs (Decidable True)
  | .receive => inferInstanceAs (Decidable True)
  | .update _ => inferInstanceAs (Decidable True)
  | .task _ => inferInstanceAs (Decidable True)

end Step

end Desktop

/-! ## Pending damage -/

namespace Desktop

/-- Where on the screen a pixel of a display is. -/
def onScreen (display : Display) (p : Point) : Point :=
  ⟨display.area.origin.x + p.x, display.area.origin.y + p.y⟩

/-- Damage that has not been taken covers the pixel of the screen. -/
def Waiting (s : Desktop) (q : Point) : Prop := ∃ area ∈ s.drawn ++ s.damage, q ∈ area.toBox2D

/-- Damage on its way to the display covers the pixel of the screen. -/
def Pending (s : Desktop) (d : Nat) (q : Point) : Prop :=
  s.Waiting q ∨ (∃ area ∈ s.captured, q ∈ area.toBox2D) ∨
    (d ∈ s.updating.2 ∧ q ∈ s.updating.1.toBox2D)

/-- The enabled displays show the framebuffer wherever no damage is on its way. -/
def Tracked (s : Desktop) : Prop :=
  ∀ d, d < s.server.displayCount → (s.server.displays d).tb.display.isEnabled = true →
    ∀ p, (s.server.displays d).tb.InDisplay p →
      (s.server.displays d).tb.data.get p.y p.x =
          s.framebuffer (onScreen (s.server.displays d).tb.display p) ∨
        s.Pending d (onScreen (s.server.displays d).tb.display p)

/-- The extent holds the enabled displays, or the damage of those that are coming is waiting. -/
def Extends (limit : Size) (s : Desktop) : Prop :=
  match s.server.changing with
  | none => ∀ d, d < s.server.displayCount → (s.server.displays d).tb.display.isEnabled = true →
      ∀ p, (s.server.displays d).tb.InDisplay p →
        onScreen (s.server.displays d).tb.display p ∈ s.displayExtent.toBox2D
  | some l => InLimit limit (l.displays.map Prod.fst) ∧
      ∀ x ∈ l.displays, x.1.isEnabled = true → ∀ q ∈ x.1.area.toBox2D, s.Waiting q

structure Inv (limit : Size) (s : Desktop) : Prop where
  areas : ∀ area ∈ s.drawn ++ s.damage, Within area limit ∧ HasPixels area
  wf : ∀ d, (s.server.displays d).tb.WF
  phase : s.server.Phase
  extent : s.Extends limit
  tracked : s.Tracked

theorem onScreen_mem {tb : TrackingBuffer} {p : Point} (hp : tb.InDisplay p) :
    onScreen tb.display p ∈ tb.display.area.toBox2D := by
  obtain ⟨hx, hy⟩ := hp
  rw [Rect.mem_toBox2D]
  simp only [onScreen]
  omega

theorem mem_fromSize_of_within {a : Rect} {size : Size} (h : Within a size) {q : Point}
    (hq : q ∈ a.toBox2D) : q ∈ (Rect.fromSize size).toBox2D := by
  rw [Rect.mem_toBox2D] at hq ⊢
  simp only [Within, Rect.fromSize, Point.zero] at h ⊢
  omega

/-- What `set_displays` damages is on the screen, and covers the enabled displays. -/
theorem addedDamage_spec {limit : Size} (hsmall : Small limit) {displays : List Display}
    (h : InLimit limit displays) :
    (∀ area ∈ addedDamage displays, Within area limit ∧ HasPixels area) ∧
      ∀ d ∈ displays, d.isEnabled = true → ∀ q ∈ d.area.toBox2D,
        ∃ area ∈ addedDamage displays, q ∈ area.toBox2D := by
  rcases deriveExtent_spec hsmall h with ⟨hnone, hoff⟩ | ⟨extent, hextent, hw, hh, hlw, hlh, hall⟩
  · rw [addedDamage, hnone]
    refine ⟨by simp, fun d hd hon => ?_⟩
    rw [hoff d hd] at hon
    cases hon
  · obtain ⟨hsw, hsh⟩ := hsmall
    rw [addedDamage, hextent]
    simp only [List.mem_singleton, forall_eq, exists_eq_left]
    rw [Nat.mod_eq_of_lt (by omega), Nat.mod_eq_of_lt (by omega)]
    refine ⟨?_, fun d hd hon q hq => mem_fromSize_of_within (hall d hd hon) hq⟩
    simp only [Within, HasPixels, Point.zero]
    omega

/-! ### What a step leaves pending -/

section Pending

variable {limit : Size} {s s' : Desktop}

theorem Waiting.mono (h : ∀ area ∈ s.drawn ++ s.damage, area ∈ s'.drawn ++ s'.damage) {q : Point}
    (hq : s.Waiting q) : s'.Waiting q := by
  obtain ⟨area, harea, hmem⟩ := hq
  exact ⟨area, h area harea, hmem⟩

/-- The displays and the extent are as before, and no less is waiting. -/
theorem Extends.congr (h : s.Extends limit) (hsame : Server.SameConfig s.server s'.server)
    (hextent : s'.displayExtent = s.displayExtent) (hwaiting : ∀ q, s.Waiting q → s'.Waiting q) :
    s'.Extends limit := by
  unfold Extends at h ⊢
  rw [hsame.changing, hextent]
  cases hc : s.server.changing <;> rw [hc] at h
  · intro d hd hon p hp
    simp only [TrackingBuffer.InDisplay, hsame.count, hsame.display] at hd hon hp ⊢
    exact h d hd hon p hp
  · exact ⟨h.1, fun x hx hon q hq => hwaiting q (h.2 x hx hon q hq)⟩

/-- A step of the server's tasks that changes no display and no pixel. -/
theorem Inv.server (h : Inv limit s) {server : Server} (hsame : Server.SameConfig s.server server)
    (hdata : Server.SameData s.server server) : Inv limit { s with server := server } := by
  refine ⟨h.areas, fun d => (hdata d).2 (h.wf d), hsame.phase h.phase,
    h.extent.congr hsame rfl fun q hq => hq, fun d hd hon p hp => ?_⟩
  simp only [TrackingBuffer.InDisplay, hsame.count, hsame.display, (hdata d).1] at hd hon hp ⊢
  exact h.tracked d hd hon p hp

/-- Less is shown, or more is waiting. -/
theorem Tracked.mono (h : s.Tracked) (hserver : s'.server = s.server)
    (hpixels : ∀ d p, d < s.server.displayCount →
      (s.server.displays d).tb.display.isEnabled = true → (s.server.displays d).tb.InDisplay p →
      s'.framebuffer (onScreen (s.server.displays d).tb.display p) ≠
        s.framebuffer (onScreen (s.server.displays d).tb.display p) →
      s'.Pending d (onScreen (s.server.displays d).tb.display p))
    (hpending : ∀ d p, d < s.server.displayCount →
      (s.server.displays d).tb.display.isEnabled = true → (s.server.displays d).tb.InDisplay p →
      s.Pending d (onScreen (s.server.displays d).tb.display p) →
      s'.Pending d (onScreen (s.server.displays d).tb.display p)) : s'.Tracked := by
  intro d hd hon p hp
  rw [hserver] at hd hon hp ⊢
  by_cases hsame : s'.framebuffer (onScreen (s.server.displays d).tb.display p) =
      s.framebuffer (onScreen (s.server.displays d).tb.display p)
  · rw [hsame]
    exact (h d hd hon p hp).imp_right (hpending d p hd hon hp)
  · exact Or.inr (hpixels d p hd hon hp hsame)

theorem Pending.mono (hwaiting : ∀ area ∈ s.drawn ++ s.damage, area ∈ s'.drawn ++ s'.damage)
    (hcaptured : s'.captured = s.captured) (hupdating : s'.updating = s.updating) {d : Nat}
    {q : Point} (h : s.Pending d q) : s'.Pending d q := by
  unfold Pending at h ⊢
  rw [hcaptured, hupdating]
  exact h.imp_left (Waiting.mono hwaiting)

/-- More areas of the screen are damaged, wherever the framebuffer changes. -/
theorem Inv.damage (h : Inv limit s) (hserver : s'.server = s.server)
    (hextent : s'.displayExtent = s.displayExtent) (hcaptured : s'.captured = s.captured)
    (hupdating : s'.updating = s.updating)
    (hwaiting : ∀ area ∈ s.drawn ++ s.damage, area ∈ s'.drawn ++ s'.damage)
    (hareas : ∀ area ∈ s'.drawn ++ s'.damage, Within area limit ∧ HasPixels area)
    (hpixels : ∀ q, s'.framebuffer q ≠ s.framebuffer q → s'.Waiting q) : Inv limit s' := by
  have hsame : Server.SameConfig s.server s'.server := by
    rw [hserver]
    exact .refl _
  exact ⟨hareas, by rw [hserver]; exact h.wf, by rw [hserver]; exact h.phase,
    h.extent.congr hsame hextent fun q => Waiting.mono hwaiting,
    h.tracked.mono hserver (fun d p _ _ _ hne => Or.inl (hpixels _ hne))
      fun d p _ _ _ => Pending.mono hwaiting hcaptured hupdating⟩

end Pending

/-! ### One lemma for each act -/

section Acts

variable {limit : Size} {s s' : Desktop}

theorem inv_draw (h : Inv limit s) {area : Rect} (harea : Within area limit ∧ HasPixels area)
    (pixels : Point → Pixel32) :
    Inv limit { s with
      framebuffer := fun p => if p ∈ area.toBox2D then pixels p else s.framebuffer p
      drawn := s.drawn ++ [area] } := by
  have hmem : ∀ b, b ∈ (s.drawn ++ [area]) ++ s.damage ↔ b ∈ s.drawn ++ s.damage ∨ b = area := by
    intro b
    simp only [List.mem_append, List.mem_singleton]
    tauto
  refine h.damage rfl rfl rfl rfl (fun b hb => (hmem b).mpr (Or.inl hb)) (fun b hb => ?_)
    fun q hne => ?_
  · rcases (hmem b).mp hb with hb | rfl
    · exact h.areas b hb
    · exact harea
  · refine ⟨area, (hmem area).mpr (Or.inr rfl), ?_⟩
    by_contra hq
    exact hne (if_neg hq)

theorem inv_report (h : Inv limit s) {area : Rect} {rest : List Rect}
    (hdrawn : s.drawn = area :: rest) :
    Inv limit { s with drawn := rest, damage := s.damage ++ [area] } := by
  have hmem : ∀ b, b ∈ rest ++ (s.damage ++ [area]) ↔ b ∈ s.drawn ++ s.damage := by
    intro b
    rw [hdrawn]
    simp only [List.mem_append, List.mem_cons, List.not_mem_nil, or_false]
    tauto
  exact h.damage rfl rfl rfl rfl (fun b => (hmem b).mpr) (fun b hb => h.areas b ((hmem b).mp hb))
    fun q hne => absurd rfl hne

/-- A display event begins to change the displays, with the damage of their extent waiting. -/
theorem inv_display (hsmall : Small limit) (h : Inv limit s)
    {displays : List (Display × List Box2D)} (hin : InLimit limit (displays.map Prod.fst))
    {server : Server} (hs : s.server.displayEvent displays = some server) :
    Inv limit { s with
      server := server
      drawn := s.drawn ++ addedDamage (displays.map Prod.fst) } := by
  obtain ⟨hphase, hchanging, hcount, hdisplays⟩ := Server.displayEvent_phase h.phase hs
  obtain ⟨hadded, hcovers⟩ := addedDamage_spec hsmall hin
  have hmem : ∀ b, b ∈ (s.drawn ++ addedDamage (displays.map Prod.fst)) ++ s.damage ↔
      b ∈ s.drawn ++ s.damage ∨ b ∈ addedDamage (displays.map Prod.fst) := by
    intro b
    simp only [List.mem_append]
    tauto
  refine ⟨fun b hb => ?_, by rw [hdisplays]; exact h.wf, hphase, ?_, fun d hd hon p hp => ?_⟩
  · rcases (hmem b).mp hb with hb | hb
    · exact h.areas b hb
    · exact hadded b hb
  · simp only [Extends, hchanging]
    refine ⟨hin, fun x hx hon q hq => ?_⟩
    obtain ⟨area, harea, hmemq⟩ := hcovers x.1 (List.mem_map_of_mem hx) hon q hq
    exact ⟨area, (hmem area).mpr (Or.inr harea), hmemq⟩
  · simp only [hcount, hdisplays] at hd hon hp ⊢
    refine (h.tracked d hd hon p hp).imp_right fun hpending => ?_
    exact hpending.imp_left (Waiting.mono fun b hb => (hmem b).mpr (Or.inl hb))

theorem inv_displayFailed (hsmall : Small limit) (h : Inv limit s) {displays : List Display}
    (hin : InLimit limit displays) {server : Server}
    (hs : s.server.displayEventFailed = some server) (damaged : Bool) :
    Inv limit { s with
      server := server
      drawn := s.drawn ++ if damaged then addedDamage displays else [] } := by
  obtain ⟨hsame, hdata⟩ := Server.displayEventFailed_same hs
  refine (h.server hsame hdata).damage rfl rfl rfl rfl (fun b hb => ?_) (fun b hb => ?_)
    fun q hne => absurd rfl hne
  · simp only [List.mem_append] at hb ⊢
    tauto
  · simp only [List.mem_append] at hb
    rcases hb with (hb | hb) | hb
    · exact h.areas b (List.mem_append_left _ hb)
    · cases damaged
      · cases hb
      · exact (addedDamage_spec hsmall hin).1 b hb
    · exact h.areas b (List.mem_append_right _ hb)

/-- Whatever the extent is, the displays and the damage are as before. -/
theorem Inv.backend (h : Inv limit s) {server : Server} {displayExtent : Rect}
    (hphase : server.Phase) (hcount : server.displayCount = s.server.displayCount)
    (hdisplays : server.displays = s.server.displays)
    (hextent : Extends limit { s with server := server, displayExtent := displayExtent }) :
    Inv limit { s with server := server, displayExtent := displayExtent } := by
  refine ⟨h.areas, by simp only [hdisplays]; exact h.wf, hphase, hextent, fun d hd hon p hp => ?_⟩
  simp only [hcount, hdisplays] at hd hon hp ⊢
  exact h.tracked d hd hon p hp

/-- The backend task ends with the extent of the displays that it has changed to. -/
theorem inv_complete (hsmall : Small limit) (h : Inv limit s) {l : Layout}
    (hb : s.server.backend = .awaitComplete l) {server : Server}
    (hs : s.server.backendStep = some server) {extent : Size}
    (hextent : deriveExtent (l.displays.map Prod.fst) = some extent) :
    Inv limit { s with server := server, displayExtent := Rect.fromSize extent } := by
  have hold := h.extent
  obtain ⟨hphase, hcount, hdisplays, hcases⟩ := Server.backendStep_phase h.phase hs
  refine h.backend hphase hcount hdisplays ?_
  obtain ⟨l', commands, hb', -⟩ | ⟨l', hb', hchanging, happlied⟩ := hcases <;> rw [hb] at hb' <;>
    cases hb'
  simp only [Extends, Server.changing, hb] at hold
  simp only [Extends, hchanging, hcount, hdisplays]
  intro d hd hon p hp
  obtain ⟨x, hx, hdisplay⟩ := happlied d hd hd
  rcases deriveExtent_spec hsmall hold.1 with ⟨hnone, -⟩ | ⟨e, he, -, -, -, -, hall⟩
  · rw [hextent] at hnone
    cases hnone
  · rw [hextent] at he
    cases he
    refine mem_fromSize_of_within (hall x.1 (List.mem_map_of_mem hx) ?_) ?_
    · rw [← hdisplay]
      exact hon
    · rw [← hdisplay]
      exact onScreen_mem hp

theorem inv_backend (h : Inv limit s) (hb : ∀ l, s.server.backend ≠ .awaitComplete l)
    {server : Server} (hs : s.server.backendStep = some server) :
    Inv limit { s with server := server } := by
  have hold := h.extent
  obtain ⟨hphase, hcount, hdisplays, hcases⟩ := Server.backendStep_phase h.phase hs
  refine h.backend hphase hcount hdisplays ?_
  obtain ⟨l, commands, hb', hchanging⟩ | ⟨l, hb', -⟩ := hcases
  · unfold Extends at hold ⊢
    simp only [hchanging, hcount, hdisplays]
    exact hold
  · exact absurd hb' (hb l)

/-- The damage taken is captured as far as a display shows it. -/
theorem inv_take (hsmall : Small limit) (h : Inv limit s) {n : Nat} {area : Rect}
    {areas : List Rect} (hselect : s.server.backend = .select)
    (htake : s.damage.take n = area :: areas) :
    Inv limit { s with
      damage := s.damage.drop n
      captured := s.captured ++ (s.displayExtent.intersection (bounding area areas)).toList } := by
  have hdamage : s.damage = (area :: areas) ++ s.damage.drop n := by
    rw [← htake, List.take_append_drop]
  have htaken : ∀ b ∈ area :: areas, Within b limit ∧ HasPixels b := fun b hb =>
    h.areas b (List.mem_append_right _ (hdamage ▸ List.mem_append_left _ hb))
  obtain ⟨-, -, hbounding⟩ := bounding_spec hsmall (htaken area List.mem_cons_self)
    fun b hb => htaken b (List.mem_cons_of_mem _ hb)
  have hchanging : s.server.changing = none := by
    simp only [Server.changing, hselect]
  have hold := h.extent
  simp only [Extends, hchanging] at hold
  refine ⟨fun b hb => h.areas b ?_, h.wf, h.phase, ?_, h.tracked.mono rfl
    (fun d p _ _ _ hne => absurd rfl hne) fun d p hd hon hp hpending => ?_⟩
  · rcases List.mem_append.mp hb with hb | hb
    · exact List.mem_append_left _ hb
    · exact List.mem_append_right _ (List.mem_of_mem_drop hb)
  · simp only [Extends, hchanging]
    exact hold
  · rcases hpending with ⟨b, hb, hq⟩ | ⟨b, hb, hq⟩ | hq
    · rw [hdamage, ← List.append_assoc, List.mem_append, List.mem_append] at hb
      rcases hb with (hb | hb) | hb
      · exact Or.inl ⟨b, List.mem_append_left _ hb, hq⟩
      · -- the display shows it, so it is in the extent
        refine Or.inr (Or.inl ?_)
        rcases Rect.intersection_spec s.displayExtent (bounding area areas) with
          ⟨-, hdis⟩ | ⟨i, hi, hmem⟩
        · exact absurd (hbounding b hb _ hq) (hdis _ (hold d hd hon p hp))
        · refine ⟨i, ?_, (hmem _).mpr ⟨hold d hd hon p hp, hbounding b hb _ hq⟩⟩
          rw [hi]
          exact List.mem_append_right _ List.mem_cons_self
      · exact Or.inl ⟨b, List.mem_append_right _ hb, hq⟩
    · exact Or.inr (Or.inl ⟨b, List.mem_append_left _ hb, hq⟩)
    · exact Or.inr (Or.inr hq)

theorem inv_receive (h : Inv limit s) {area : Rect} {rest : List Rect}
    (hnone : s.updating.2 = []) (hcaptured : s.captured = area :: rest) :
    Inv limit { s with
      captured := rest, updating := (area, List.range s.server.displayCount) } := by
  refine ⟨h.areas, h.wf, h.phase, h.extent, h.tracked.mono rfl
    (fun d p _ _ _ hne => absurd rfl hne) fun d p hd hon hp hpending => ?_⟩
  rcases hpending with hq | ⟨b, hb, hq⟩ | ⟨hmem, -⟩
  · exact Or.inl hq
  · rw [hcaptured] at hb
    rcases List.mem_cons.mp hb with rfl | hb
    · exact Or.inr (Or.inr ⟨List.mem_range.mpr hd, hq⟩)
    · exact Or.inr (Or.inl ⟨b, hb, hq⟩)
  · rw [hnone] at hmem
    cases hmem

/-- A capture holds the framebuffer's pixels of its area. -/
theorem incoming_capture {tb : TrackingBuffer} (hon : tb.display.isEnabled = true)
    (framebuffer : Point → Pixel32) (area : Rect) (p : Point) :
    tb.incoming (capture framebuffer area) p =
      if onScreen tb.display p ∈ area.toBox2D then some (framebuffer (onScreen tb.display p))
      else none := by
  have harea : (capture framebuffer area).area = area := rfl
  simp only [TrackingBuffer.incoming, harea, hon, true_and]
  by_cases hq : onScreen tb.display p ∈ area.toBox2D
  · rw [if_pos hq]
    refine (if_pos hq).trans ?_
    rw [Rect.mem_toBox2D] at hq
    simp only [onScreen, capture] at hq ⊢
    rw [Nat.add_sub_cancel' hq.1.1, Nat.add_sub_cancel' hq.2.1]
  · rw [if_neg hq]
    exact if_neg hq

/-- The tracking buffer of a display takes over the area that it is updated with. -/
theorem inv_update {cc : ConnectedComponents} (h : Inv limit s) {d : Nat} {server : Server}
    (hs : s.server.update cc d (capture s.framebuffer s.updating.1) = some server) :
    Inv limit { s with
      server := server, updating := (s.updating.1, s.updating.2.filter (· ≠ d)) } := by
  obtain ⟨-, tb, htb', rfl⟩ := Server.update_spec hs
  obtain ⟨tb', htb, hwf, ⟨hdisplay, -⟩, hdata, -⟩ :=
    TrackingBuffer.update_spec cc (h.wf d) (capture s.framebuffer s.updating.1)
  rw [htb] at htb'
  cases htb'
  have hsame := Server.SameConfig.setBuffer s.server hdisplay
  have hself : ((s.server.setDisplay d fun ds => { ds with tb := tb }).displays d).tb = tb := by
    rw [Server.setDisplay_self]
  have hother : ∀ d', d' ≠ d → (s.server.setDisplay d fun ds => { ds with tb := tb }).displays d'
      = s.server.displays d' := fun d' hd' => Server.setDisplay_of_ne _ hd' _
  refine ⟨h.areas, fun d' => ?_, hsame.phase h.phase, ?_, fun d' hd' hon p hp => ?_⟩
  · by_cases hd : d' = d
    · rw [hd, hself]
      exact hwf
    · simp only [hother d' hd]
      exact h.wf d'
  · exact h.extent.congr hsame rfl fun q hq => hq
  · simp only [TrackingBuffer.InDisplay, hsame.count, hsame.display] at hd' hon hp ⊢
    have hshown := h.tracked d' hd' hon p hp
    by_cases hd : d' = d
    · rw [hd] at hon hp hshown ⊢
      rw [hself, hdata p hp, incoming_capture hon]
      by_cases hq : onScreen (s.server.displays d).tb.display p ∈ s.updating.1.toBox2D
      · rw [if_pos hq]
        exact Or.inl rfl
      · rw [if_neg hq]
        refine hshown.imp_right fun hpending => ?_
        rcases hpending with hw | hc | ⟨-, hu⟩
        · exact Or.inl hw
        · exact Or.inr (Or.inl hc)
        · exact absurd hu hq
    · simp only [hother d' hd]
      refine hshown.imp_right fun hpending => ?_
      rcases hpending with hw | hc | ⟨hmem, hu⟩
      · exact Or.inl hw
      · exact Or.inr (Or.inl hc)
      · exact Or.inr (Or.inr ⟨List.mem_filter.mpr ⟨hmem, by simpa using hd⟩, hu⟩)

/-- The display config task resizes a display only when its damage is waiting. -/
theorem inv_config (h : Inv limit s) {server : Server} (hs : s.server.configStep = some server) :
    Inv limit { s with server := server } := by
  obtain ⟨hphase, hcount, hbackend, htb⟩ := Server.configStep_phase h.phase hs
  have hchanging : server.changing = s.server.changing := by
    simp only [Server.changing, hbackend]
  have hold := h.extent
  refine ⟨h.areas, fun d => ?_, hphase, ?_, fun d hd hon p hp => ?_⟩
  · rcases htb d with heq | ⟨l, x, -, -, heq⟩ <;> simp only [heq]
    · exact h.wf d
    · exact TrackingBuffer.resize_wf _ _ _
  · unfold Extends at hold ⊢
    simp only [hchanging, hcount]
    cases hc : s.server.changing <;> rw [hc] at hold
    · intro d hd hon p hp
      rcases htb d with heq | ⟨l, x, hl, -, -⟩
      · rw [heq] at hon hp ⊢
        exact hold d hd hon p hp
      · rw [hc] at hl
        cases hl
    · exact hold
  · simp only [hcount] at hd hon hp ⊢
    rcases htb d with heq | ⟨l, x, hl, hx, heq⟩
    · rw [heq] at hon hp ⊢
      exact h.tracked d hd hon p hp
    · rw [heq] at hon hp ⊢
      simp only [Extends, hl] at hold
      exact Or.inr (Or.inl (hold.2 x hx hon _ (onScreen_mem hp)))

end Acts

/-! ## Runs -/

section Runs

variable {limit : Size} {cc : ConnectedComponents} {comp : Compressors}

/-- Every step keeps the invariant. -/
theorem inv_step (hsmall : Small limit) {s s' : Desktop} {a : Act} (h : Inv limit s)
    (hdamages : s.Damages a) (hs : s.step limit cc comp a = some s') : Inv limit s' := by
  cases step_move limit cc comp hs with
  | draw area pixels harea => exact inv_draw h harea pixels
  | report area rest hdrawn => exact inv_report h hdrawn
  | display displays damaged hin server hserver =>
    cases hdamages
    exact inv_display hsmall h hin hserver
  | displayFailed displays damaged hin server hserver =>
    exact inv_displayFailed hsmall h hin hserver damaged
  | complete l hb server hserver extent hextent => exact inv_complete hsmall h hb hserver hextent
  | backend hb server hserver => exact inv_backend h hb hserver
  | take n area areas hselect htake => exact inv_take hsmall h hselect htake
  | receive area rest hnone hcaptured => exact inv_receive h hnone hcaptured
  | update d hmem server hserver => exact inv_update h hserver
  | config server hserver => exact inv_config h hserver
  | frame b d hb server hserver =>
    obtain ⟨hsame, hdata⟩ := (Server.frameTask_move hb h.wf hserver).2.same
    exact h.server hsame hdata
  | takeCommand e server hserver =>
    obtain ⟨hsame, hdata⟩ := Server.takeCommand_same hserver
    exact h.server hsame hdata
  | takeFrame e server hserver =>
    obtain ⟨hsame, hdata⟩ := Server.takeFrame_same hserver
    exact h.server hsame hdata
  | encode e order server hserver =>
    obtain ⟨hsame, hdata⟩ := Server.encode_same hserver
    exact h.server hsame hdata

/-- A display of the first configuration. -/
theorem init_display (maxEncoderCount : Nat) (scheme : Scheme)
    {displays : List (Display × List Box2D)} {d : Nat} (hd : d < displays.length) :
    ∃ x ∈ displays,
      ((Server.init maxEncoderCount scheme displays).displays d).tb = .new d x.1 0 := by
  refine ⟨displays[d], List.getElem_mem hd, ?_⟩
  simp [Server.init, List.getElem?_eq_getElem hd]

theorem inv_start (hsmall : Small limit) {extent : Size} {maxEncoderCount : Nat} {scheme : Scheme}
    {displays : List (Display × List Box2D)} (hin : InLimit limit (displays.map Prod.fst))
    (hextent : deriveExtent (displays.map Prod.fst) = some extent)
    (framebuffer : Point → Pixel32) :
    Inv limit (start limit extent maxEncoderCount scheme displays framebuffer) := by
  rcases deriveExtent_spec hsmall hin with ⟨hnone, -⟩ | ⟨e, he, hw, hh, hlw, hlh, hall⟩
  · rw [hextent] at hnone
    cases hnone
  rw [hextent] at he
  cases he
  refine ⟨fun area harea => ?_, fun d => TrackingBuffer.new_wf _ _ _, ⟨rfl, rfl⟩, ?_,
    fun d hd hon p hp => ?_⟩
  · rw [List.mem_singleton.mp harea]
    simp only [Within, HasPixels, Point.zero]
    omega
  · intro d hd hon p hp
    obtain ⟨x, hx, htb⟩ := init_display maxEncoderCount scheme hd
    simp only [start, htb] at hon hp ⊢
    exact mem_fromSize_of_within (hall x.1 (List.mem_map_of_mem hx) hon) (onScreen_mem hp)
  · obtain ⟨x, hx, htb⟩ := init_display maxEncoderCount scheme hd
    simp only [start, htb] at hon hp ⊢
    exact Or.inr (Or.inl ⟨⟨Point.zero, limit⟩, List.mem_cons_self,
      mem_fromSize_of_within (hin x.1 (List.mem_map_of_mem hx) hon).1 (onScreen_mem hp)⟩)

/-- **Every enabled display shows the framebuffer wherever no damage is on its way**, in every state
of every run in which the X server accepts the damage of display events: whatever is drawn, however
many areas are taken at once, and wherever a change of displays has got. -/
theorem always_tracked (cc : ConnectedComponents) (comp : Compressors) (hsmall : Small limit)
    {extent : Size} (maxEncoderCount : Nat) (scheme : Scheme)
    {displays : List (Display × List Box2D)} (hin : InLimit limit (displays.map Prod.fst))
    (hextent : deriveExtent (displays.map Prod.fst) = some extent)
    (framebuffer : Point → Pixel32) {as : List Act}
    (hG : Machine.Guarded (step limit cc comp) Damages
      (start limit extent maxEncoderCount scheme displays framebuffer) as) :
    Machine.Always (step limit cc comp) Tracked
      (start limit extent maxEncoderCount scheme displays framebuffer) as := by
  apply Machine.Always.mono (fun s h => Inv.tracked h)
  exact hG.always (fun s a s' h hdamages hs => inv_step hsmall h hdamages hs)
    (inv_start hsmall hin hextent framebuffer)

end Runs

/-- A screen of two displays, of which the first is enabled. -/
def pair : Desktop :=
  start ⟨4, 1⟩ ⟨2, 1⟩ 2 .raw oneEnabled fun p => ⟨UInt8.ofNat p.x, 0, 0, 0⟩

/-- The second display is enabled while the damage of a drawing is on its way. -/
def enableAndDraw : List Act :=
  [.take 1, .receive, .update 0, .draw ⟨⟨1, 0⟩, ⟨2, 1⟩⟩ fun _ => ⟨7, 7, 7, 7⟩,
    .display bothEnabled true, .report, .report, .backend, .update 1, .task .config,
    .task .config, .task .config, .task .config, .task .config, .task .config, .task .config,
    .backend, .backend, .backend, .take 2, .receive, .update 0, .update 1]

theorem always_tracked_pair :
    (Machine.run (step ⟨4, 1⟩ oneComponent noCompressors) pair enableAndDraw).isSome = true ∧
    Machine.Always (step ⟨4, 1⟩ oneComponent noCompressors) Tracked pair enableAndDraw :=
  ⟨by decide +kernel, always_tracked oneComponent noCompressors (by decide) 2 .raw (by decide)
    (by decide) _ (by decide +kernel)⟩

end Desktop

end ApertureC
