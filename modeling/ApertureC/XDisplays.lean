import ApertureC.BackendTask
import ApertureC.Lib.Fallible
import Mathlib.Data.List.Nodup

/-!
# Setting the displays of the X server

`X::set_displays` of `aperturec-server/src/backend/x.rs` over the RandR requests it makes: the
screen is enlarged, every CRTC is set to its display through a mode that is looked up by name or
created, and the screen is trimmed.

* `Screen`, `Request`, `Answers` — what the X server holds, and what its documentation says of the
  requests; while they are made the server is grabbed.
* `RandR` — an X server: any request may be refused, and then it changes nothing.
* `Heeds` — it ignores no `SetCrtcConfig`, which the code would not notice.
* `setDisplay`, `getDisplay`, `resizeScreenIf`, `setDisplays` — the functions of `X`.

Principal results: `findName_resources` (looking a mode up by name), `setDisplay_ok` (**a display
that is set is shown**, and no other one changes) and `setDisplays_shown` (**what is returned is
shown**).
-/

set_option autoImplicit false

namespace ApertureC.XDisplays

open Geometry

/-! ## The X server -/

/-- A mode with its name, which is bytes. -/
structure Mode where
  id : Nat
  width : Nat
  height : Nat
  name : List UInt8
  deriving DecidableEq, Repr

/-- What `GetCrtcInfo` says of a CRTC; `Mode::none` is 0. -/
structure Crtc where
  x : Int
  y : Int
  width : Nat
  height : Nat
  mode : Nat
  outputs : List Nat
  deriving DecidableEq, Repr

/-- A CRTC that shows nothing. -/
def Crtc.off : Crtc := ⟨0, 0, 0, 0, 0, []⟩

def Crtc.isEnabled (c : Crtc) : Bool := !c.outputs.isEmpty

/-- The CRTC has pixels, and they lie within the size. -/
structure Crtc.FitsIn (c : Crtc) (size : Size) : Prop where
  pos : 0 < c.width ∧ 0 < c.height
  origin : 0 ≤ c.x ∧ 0 ≤ c.y
  right : c.x + c.width ≤ size.width
  bottom : c.y + c.height ≤ size.height

/-- The screen: sizes have 16 bits, every CRTC that is enabled fits, and the ids of the modes are
different. -/
structure Screen where
  size : Size
  crtcs : List Crtc
  modes : List Mode
  outputModes : Nat → List Nat
  size_lt : size.width < 65536 ∧ size.height < 65536
  fits : ∀ c ∈ crtcs, c.isEnabled = true → c.FitsIn size
  ids : (modes.map Mode.id).Nodup

inductive Request where
  | grabServer
  | getGeometry
  | setScreenSize (width height : Nat)
  | getCrtcInfo (crtc : Nat)
  | getScreenResources
  | createMode (width height : Nat) (name : List UInt8)
  | addOutputMode (output mode : Nat)
  | setCrtcConfig (crtc : Nat) (x y : Int) (mode : Nat) (outputs : List Nat)
  | deleteOutputMode (output mode : Nat)
  | destroyMode (mode : Nat)
  -- `CreateRegion`, `damage::Add` and `DestroyRegion`
  | region (width height : Nat)
  deriving DecidableEq, Repr

/-- `randr::SetConfig`: what a `SetCrtcConfig` that is not refused comes to. -/
inductive SetConfig where
  | success
  | invalidConfigTime
  | invalidTime
  | failed
  deriving DecidableEq, Repr

inductive Reply where
  | done
  | geometry (size : Size)
  | crtcInfo (info : Crtc)
  /-- The id of every mode with the length of its name, and the names one after another. -/
  | resources (modes : List (Nat × Nat)) (names : List UInt8)
  | mode (id : Nat)
  | crtcConfig (status : SetConfig)
  deriving DecidableEq, Repr

/-- The request was not ignored. -/
def Reply.heeded : Reply → Bool
  | .crtcConfig status => decide (status = .success)
  | _ => true

/-- The CRTC that a configuration asks for. -/
def configured (modes : List Mode) (x y : Int) (mode : Nat) (outputs : List Nat) : Option Crtc :=
  if outputs = [] then some .off
  else (modes.find? fun m => m.id = mode).map fun m => ⟨x, y, m.width, m.height, mode, outputs⟩

/-- What a request that is accepted answers, and the screen after it, which has at most the size
that the server was started with. -/
inductive Answers (limit : Size) (z : Screen) : Request → Reply → Screen → Prop where
  | grabServer : Answers limit z .grabServer .done z
  | geometry : Answers limit z .getGeometry (.geometry z.size) z
  | screenSize (width height : Nat) (z' : Screen) (hpos : 0 < width ∧ 0 < height)
      (hlimit : width ≤ limit.width ∧ height ≤ limit.height) (hsize : z'.size = ⟨width, height⟩)
      (hcrtcs : z'.crtcs = z.crtcs) (hmodes : z'.modes = z.modes)
      (houtputs : z'.outputModes = z.outputModes) :
      Answers limit z (.setScreenSize width height) .done z'
  | crtcInfo (i : Nat) (c : Crtc) (hc : z.crtcs[i]? = some c) :
      Answers limit z (.getCrtcInfo i) (.crtcInfo c) z
  | resources : Answers limit z .getScreenResources
      (.resources (z.modes.map fun m => (m.id, m.name.length)) (z.modes.flatMap Mode.name)) z
  | createMode (width height : Nat) (name : List UInt8) (id : Nat) (z' : Screen)
      (hname : ∀ m ∈ z.modes, m.name ≠ name) (hid : id ≠ 0)
      (hsize : z'.size = z.size) (hcrtcs : z'.crtcs = z.crtcs)
      (hmodes : z'.modes = z.modes ++ [⟨id, width, height, name⟩])
      (houtputs : z'.outputModes = z.outputModes) :
      Answers limit z (.createMode width height name) (.mode id) z'
  | addOutputMode (output mode : Nat) (z' : Screen) (houtput : output < z.crtcs.length)
      (hmode : mode ∈ z.modes.map Mode.id)
      (hsize : z'.size = z.size) (hcrtcs : z'.crtcs = z.crtcs) (hmodes : z'.modes = z.modes)
      (houtputs : z'.outputModes =
        Function.update z.outputModes output ((z.outputModes output).insert mode)) :
      Answers limit z (.addOutputMode output mode) .done z'
  | setCrtcConfig (crtc : Nat) (x y : Int) (mode : Nat) (outputs : List Nat) (c : Crtc)
      (z' : Screen) (houtput : ∀ output ∈ outputs, mode ∈ z.outputModes output)
      (hc : configured z.modes x y mode outputs = some c) (hcrtc : crtc < z.crtcs.length)
      (hsize : z'.size = z.size) (hcrtcs : z'.crtcs = z.crtcs.set crtc c)
      (hmodes : z'.modes = z.modes) (houtputs : z'.outputModes = z.outputModes) :
      Answers limit z (.setCrtcConfig crtc x y mode outputs) (.crtcConfig .success) z'
  /-- With any other status the request is ignored. -/
  | ignored (crtc : Nat) (x y : Int) (mode : Nat) (outputs : List Nat) (status : SetConfig)
      (hstatus : status ≠ .success) :
      Answers limit z (.setCrtcConfig crtc x y mode outputs) (.crtcConfig status) z
  | deleteOutputMode (output mode : Nat) (z' : Screen)
      (hunused : ∀ c ∈ z.crtcs, output ∈ c.outputs → c.mode ≠ mode)
      (hsize : z'.size = z.size) (hcrtcs : z'.crtcs = z.crtcs) (hmodes : z'.modes = z.modes)
      (houtputs : z'.outputModes =
        Function.update z.outputModes output ((z.outputModes output).filter (· ≠ mode))) :
      Answers limit z (.deleteOutputMode output mode) .done z'
  | destroyMode (mode : Nat) (z' : Screen)
      (hunused : ∀ output < z.crtcs.length, mode ∉ z.outputModes output)
      (hsize : z'.size = z.size) (hcrtcs : z'.crtcs = z.crtcs)
      (hmodes : z'.modes = z.modes.filter fun m => m.id ≠ mode)
      (houtputs : z'.outputModes = z.outputModes) :
      Answers limit z (.destroyMode mode) .done z'
  | region (width height : Nat) : Answers limit z (.region width height) .done z

/-- An X server with states `σ`; a request goes out by `checked_void_request` or by
`checked_request_with_reply`. -/
structure RandR (σ : Type) where
  limit : Size
  screen : σ → Screen
  send : Request → Fallible σ Reply
  limit_lt : limit.width < 65536 ∧ limit.height < 65536
  size_le : ∀ s, (screen s).size.width ≤ limit.width ∧ (screen s).size.height ≤ limit.height
  answers : ∀ req s reply s', send req s = (some reply, s') →
    Answers limit (screen s) req reply (screen s')
  refused : ∀ req s s', send req s = (none, s') → screen s' = screen s

/-- The X server ignores no request: `set_display` does not read the status of `SetCrtcConfig`. -/
def Heeds {σ : Type} (r : RandR σ) : Prop :=
  ∀ req s reply t, r.send req s = (some reply, t) → reply.heeded = true

/-! ## The code -/

/-- The fields of `X`, with as many CRTCs as outputs; the ids of displays count them. -/
structure X where
  maxDisplayCount : Nat
  maxWidth : Nat
  maxHeight : Nat
  displayCount : Nat
  defaultModeId : Nat
  deriving DecidableEq, Repr

def minWidth : Nat := 800

def minHeight : Nat := 600

/-- `usize::try_into::<u16>()` -/
def u16TryFrom (n : Nat) : Option Nat := if n < 65536 then some n else none

/-- `usize::try_into::<i16>()` -/
def i16TryFrom (n : Nat) : Option Int := if n < 32768 then some n else none

/-- `i16 as usize` -/
def asUsize (n : Int) : Nat := (n % 18446744073709551616).toNat

/-- `format!("{width}x{height}")` -/
def modeName (width height : Nat) : List UInt8 :=
  (width.repr ++ "x" ++ height.repr).toByteArray.data.toList

/-- The loop of `find_mode_by_name`: the names stand one after another. -/
def findName (target names : List UInt8) : Nat → List (Nat × Nat) → Option Nat
  | _, [] => none
  | offset, (id, len) :: modes =>
    if offset + len ≤ names.length ∧ (names.drop offset).take len = target then some id
    else findName target names (offset + len) modes

section Code

variable {σ : Type} (r : RandR σ) (x : X)

/-- A request whose reply, if it has one, is not read. -/
def checkedVoidRequest (req : Request) : Fallible σ Unit := do
  let _ ← r.send req
  pure ()

def getGeometry : Fallible σ Size := do
  match ← r.send .getGeometry with
  | .geometry size => pure size
  | _ => Fallible.fail

def getCrtcInfo (crtc : Nat) : Fallible σ Crtc := do
  match ← r.send (.getCrtcInfo crtc) with
  | .crtcInfo info => pure info
  | _ => Fallible.fail

def findModeByName (target : List UInt8) : Fallible σ (Option Nat) := do
  match ← r.send .getScreenResources with
  | .resources modes names => pure (findName target names 0 modes)
  | _ => Fallible.fail

def createMode (width height : Nat) : Fallible σ Nat := do
  match ← r.send (.createMode width height (modeName width height)) with
  | .mode id => pure id
  | _ => Fallible.fail

/-- `resize_screen_if`, with `Ordering::Less` or `Ordering::Greater`. -/
def resizeScreenIf (displays : List Display) (resizeIf : Ordering) : Fallible σ Unit := do
  let requested ← Fallible.ofOption (deriveExtent displays)
  let current ← getGeometry r
  let combined : Size :=
    if resizeIf = .lt then
      ⟨min requested.width current.width, min requested.height current.height⟩
    else ⟨max requested.width current.width, max requested.height current.height⟩
  if compare combined.width current.width ≠ resizeIf ∧
      compare combined.height current.height ≠ resizeIf then pure ()
  else checkedVoidRequest r (.setScreenSize (combined.width % 65536) (combined.height % 65536))

def getDisplay (id : Nat) : Fallible σ Display := do
  Fallible.guard (id < x.displayCount)
  let info ← getCrtcInfo r id
  pure ⟨⟨⟨asUsize info.x, asUsize info.y⟩, ⟨info.width, info.height⟩⟩, info.isEnabled⟩

/-- The bounds of a display. -/
def InBounds (d : Display) : Prop :=
  Rect.containsRect ⟨Point.zero, ⟨x.maxWidth, x.maxHeight⟩⟩ d.area = true ∧
    minWidth ≤ d.area.size.width ∧ minHeight ≤ d.area.size.height

instance (d : Display) : Decidable (InBounds x d) := inferInstanceAs (Decidable (_ ∧ _))

/-- The mode of an enabled display, found or created, and added to its output. -/
def prepareMode (id : Nat) (d : Display) (width height : Nat) : Fallible σ Nat := do
  Fallible.guard (InBounds x d)
  let mode ←
    match ← findModeByName r (modeName width height) with
    | some mode => pure mode
    | none => createMode r width height
  checkedVoidRequest r (.addOutputMode id mode)
  pure mode

/-- What a CRTC is to be set to. -/
structure Change where
  info : Crtc
  mode : Nat
  x : Int
  y : Int
  outputs : List Nat
  deriving DecidableEq, Repr

/-- `set_display` up to the configuration of the CRTC; `none` is no change. -/
def planDisplay (id : Nat) (d : Display) : Fallible σ (Option Change) := do
  Fallible.guard (id < x.displayCount)
  let info ← getCrtcInfo r id
  if d.isEnabled = false ∧ info.isEnabled = false then pure none
  else do
    let width ← Fallible.ofOption (u16TryFrom d.area.size.width)
    let height ← Fallible.ofOption (u16TryFrom d.area.size.height)
    let px ← Fallible.ofOption (i16TryFrom d.area.origin.x)
    let py ← Fallible.ofOption (i16TryFrom d.area.origin.y)
    if info.isEnabled = true ∧ d.isEnabled = true ∧ info.width = width ∧ info.height = height ∧
        info.x = px ∧ info.y = py then pure none
    else if d.isEnabled = true then do
      let mode ← prepareMode r x id d width height
      pure (some ⟨info, mode, px, py, [id]⟩)
    else pure (some ⟨info, 0, 0, 0, []⟩)

/-- The mode that a CRTC had is removed, if it may be; failures are ignored. -/
def dropMode (id : Nat) (c : Change) : Fallible σ Unit :=
  if c.info.isEnabled = true ∧ c.info.mode ≠ c.mode ∧ c.info.mode ≠ x.defaultModeId then do
    let _ ← Fallible.attempt do
      checkedVoidRequest r (.deleteOutputMode id c.info.mode)
      checkedVoidRequest r (.destroyMode c.info.mode)
    pure ()
  else pure ()

def setDisplay (id : Nat) (d : Display) : Fallible σ SetDisplaySuccess := do
  match ← planDisplay r x id d with
  | none => pure .noChange
  | some c => do
    checkedVoidRequest r (.setCrtcConfig id c.x c.y c.mode c.outputs)
    dropMode r x id c
    pure .updated

/-- The loop of `set_displays`: errors, changed and the final displays. -/
def setEachDisplay : Nat → List Display → Fallible σ (Bool × Bool × List Display)
  | _, [] => pure (false, false, [])
  | id, d :: ds => do
    match ← Fallible.attempt (setDisplay r x id d) with
    | some kind => do
      let (errors, changed, final) ← setEachDisplay (id + 1) ds
      pure (errors, changed || kind = .updated, d :: final)
    | none => do
      match ← Fallible.attempt (getDisplay r x id) with
      | some current => do
        let (_, changed, final) ← setEachDisplay (id + 1) ds
        pure (true, changed, current :: final)
      | none => do
        let (_, changed, final) ← setEachDisplay (id + 1) ds
        pure (true, changed, final)

/-- `damage_add`, where an extent is shown. -/
def damageAdd (displays : List Display) : Fallible σ Unit :=
  match deriveExtent displays with
  | some extent => checkedVoidRequest r (.region (extent.width % 65536) (extent.height % 65536))
  | none => pure ()

/-- `set_displays`; a failure to grab, to resize or to damage is a warning. -/
def setDisplays (requested : List Display) :
    Fallible σ (Except (List Display) SetDisplaysSuccess) := do
  let _ ← Fallible.attempt (checkedVoidRequest r .grabServer)
  let requested := resizeDisplays x.maxDisplayCount requested
  let _ ← Fallible.attempt (resizeScreenIf r requested .gt)
  let (errors, changed, final) ← setEachDisplay r x 0 requested
  if changed = true then do
    let _ ← Fallible.attempt (resizeScreenIf r final .lt)
    let _ ← Fallible.attempt (damageAdd r final)
    pure (if errors = true then .error final else .ok ⟨changed, final⟩)
  else do
    let _ ← Fallible.attempt (damageAdd r final)
    pure (if errors = true then .error final else .ok ⟨changed, final⟩)

end Code

/-! ## Names of modes -/

/-- **Looking a name up in the resources finds the first mode of that name.** -/
theorem findName_resources (target : List UInt8) (modes : List Mode) (before : List UInt8) :
    findName target (before ++ modes.flatMap Mode.name) before.length
        (modes.map fun m => (m.id, m.name.length)) =
      (modes.find? fun m => m.name = target).map Mode.id := by
  induction modes generalizing before with
  | nil => rfl
  | cons m modes ih =>
    have hnames : before ++ (m :: modes).flatMap Mode.name =
        (before ++ m.name) ++ modes.flatMap Mode.name := by
      rw [List.flatMap_cons, List.append_assoc]
    have hlength : before.length + m.name.length ≤
        (before ++ (m :: modes).flatMap Mode.name).length := by
      rw [hnames, List.length_append, List.length_append]
      omega
    have hbytes : ((before ++ (m :: modes).flatMap Mode.name).drop before.length).take
        m.name.length = m.name := by
      rw [List.drop_left, List.flatMap_cons, List.take_left]
    rw [List.map_cons, findName, hbytes]
    by_cases htarget : m.name = target
    · rw [if_pos ⟨hlength, htarget⟩, List.find?_cons_of_pos (by simpa using htarget)]
      rfl
    · rw [if_neg fun h => htarget h.2, List.find?_cons_of_neg (by simpa using htarget), hnames,
        ← List.length_append]
      exact ih (before ++ m.name)

theorem not_x_mem_repr (n : Nat) : 'x' ∉ n.repr.toList := by
  rw [Nat.toList_repr]
  intro h
  exact absurd (Nat.isDigit_of_mem_toDigits (by omega) (by omega) h) (by decide)

theorem repr_inj {m n : Nat} (h : m.repr.toList = n.repr.toList) : m = n := by
  rw [Nat.toList_repr, Nat.toList_repr] at h
  rw [← Nat.ofDigitChars_toDigits (b := 10) (n := m) (by omega) (by omega), h,
    Nat.ofDigitChars_toDigits (by omega) (by omega)]

/-- The name of a mode says its size. -/
theorem modeName_inj {width height width' height' : Nat}
    (h : modeName width height = modeName width' height') : width = width' ∧ height = height' := by
  have hstring : width.repr ++ "x" ++ height.repr = width'.repr ++ "x" ++ height'.repr := by
    apply String.toByteArray_inj.mp
    apply ByteArray.ext
    exact Array.ext' h
  have hlist := congrArg String.toList hstring
  simp only [String.toList_append, List.append_assoc] at hlist
  have hx : "x".toList = ['x'] := rfl
  rw [hx, List.singleton_append, List.singleton_append,
    List.append_cons_inj_of_notMem (not_x_mem_repr _) (not_x_mem_repr _)] at hlist
  exact ⟨repr_inj hlist.1, repr_inj hlist.2.2⟩

/-! ## What the functions leave alone -/

/-- Modes are named by their sizes. -/
def Named (z : Screen) : Prop :=
  ∀ m ∈ z.modes, ∀ width height, m.name = modeName width height →
    m.width = width ∧ m.height = height

/-- Neither the size nor a CRTC has changed. -/
structure Still (z z' : Screen) : Prop where
  size : z'.size = z.size
  crtcs : z'.crtcs = z.crtcs
  named : Named z → Named z'

/-- The size has not changed, nor has any other CRTC than this one. -/
structure Frame (id : Nat) (z z' : Screen) : Prop where
  size : z'.size = z.size
  length : z'.crtcs.length = z.crtcs.length
  others : ∀ j, j ≠ id → z'.crtcs[j]? = z.crtcs[j]?
  named : Named z → Named z'

theorem Still.refl (z : Screen) : Still z z := ⟨rfl, rfl, fun h => h⟩

theorem Still.trans {z z' z'' : Screen} (h : Still z z') (h' : Still z' z'') : Still z z'' where
  size := h'.size.trans h.size
  crtcs := h'.crtcs.trans h.crtcs
  named := fun hn => h'.named (h.named hn)

theorem Still.frame {z z' : Screen} (h : Still z z') (id : Nat) : Frame id z z' where
  size := h.size
  length := by rw [h.crtcs]
  others := fun j _ => by rw [h.crtcs]
  named := h.named

theorem Frame.trans {id : Nat} {z z' z'' : Screen} (h : Frame id z z') (h' : Frame id z' z'') :
    Frame id z z'' where
  size := h'.size.trans h.size
  length := h'.length.trans h.length
  others := fun j hj => (h'.others j hj).trans (h.others j hj)
  named := fun hn => h'.named (h.named hn)

/-- The requests that leave the size and the CRTCs alone. -/
def Quiet : Request → Prop
  | .setScreenSize _ _ => False
  | .setCrtcConfig _ _ _ _ _ => False
  | .createMode width height name => name = modeName width height
  | _ => True

theorem Answers.still {limit : Size} {z z' : Screen} {req : Request} {reply : Reply}
    (h : Answers limit z req reply z') (hq : Quiet req) : Still z z' := by
  cases h with
  | screenSize => cases hq
  | setCrtcConfig => cases hq
  | createMode width height name id z' hname hid hsize hcrtcs hmodes houtputs =>
    refine ⟨hsize, hcrtcs, ?_⟩
    intro hn m hm w h' hname'
    rw [hmodes] at hm
    rcases List.mem_append.mp hm with hm | hm
    · exact hn m hm w h' hname'
    · cases List.mem_singleton.mp hm
      exact modeName_inj ((hq : name = _).symm.trans hname')
  | addOutputMode output mode z' houtput hmode hsize hcrtcs hmodes houtputs =>
    exact ⟨hsize, hcrtcs, fun hn => by rw [Named, hmodes]; exact hn⟩
  | deleteOutputMode output mode z' hunused hsize hcrtcs hmodes houtputs =>
    exact ⟨hsize, hcrtcs, fun hn => by rw [Named, hmodes]; exact hn⟩
  | destroyMode mode z' hunused hsize hcrtcs hmodes houtputs =>
    refine ⟨hsize, hcrtcs, fun hn m hm => ?_⟩
    rw [hmodes] at hm
    exact hn m (List.mem_filter.mp hm).1
  | _ => exact Still.refl z

section Frames

variable {σ : Type} (r : RandR σ) (x : X)

/-- The states before and after have still screens. -/
def StillStates (s s' : σ) : Prop := Still (r.screen s) (r.screen s')

theorem StillStates.refl (s : σ) : StillStates r s s := Still.refl _

theorem StillStates.trans (s t u : σ) (h : StillStates r s t) (h' : StillStates r t u) :
    StillStates r s u := Still.trans h h'

theorem send_still {req : Request} (hq : Quiet req) :
    Fallible.Moves (StillStates r) (r.send req) := by
  intro s
  rcases h : r.send req s with ⟨_ | reply, s'⟩
  · rw [StillStates, r.refused req s s' h]
    exact Still.refl _
  · exact (r.answers req s reply s' h).still hq

theorem checkedVoidRequest_still {req : Request} (hq : Quiet req) :
    Fallible.Moves (StillStates r) (checkedVoidRequest r req) :=
  (send_still r hq).bind (StillStates.trans r) fun _ => .pure (StillStates.refl r) ()

theorem getCrtcInfo_still (id : Nat) : Fallible.Moves (StillStates r) (getCrtcInfo r id) := by
  unfold getCrtcInfo
  refine (send_still r (by trivial)).bind (StillStates.trans r) fun reply => ?_
  split
  · exact .pure (StillStates.refl r) _
  · exact .fail (StillStates.refl r)

theorem findModeByName_still (target : List UInt8) :
    Fallible.Moves (StillStates r) (findModeByName r target) := by
  unfold findModeByName
  refine (send_still r (by trivial)).bind (StillStates.trans r) fun reply => ?_
  split
  · exact .pure (StillStates.refl r) _
  · exact .fail (StillStates.refl r)

theorem createMode_still (width height : Nat) :
    Fallible.Moves (StillStates r) (createMode r width height) := by
  unfold createMode
  refine (send_still r (by exact rfl)).bind (StillStates.trans r) fun reply => ?_
  split
  · exact .pure (StillStates.refl r) _
  · exact .fail (StillStates.refl r)

theorem prepareMode_still (id : Nat) (d : Display) (width height : Nat) :
    Fallible.Moves (StillStates r) (prepareMode r x id d width height) := by
  unfold prepareMode
  refine (Fallible.Moves.guard (StillStates.refl r) _).bind (StillStates.trans r) fun _ => ?_
  refine (findModeByName_still r _).bind (StillStates.trans r) fun found => ?_
  have hadd : ∀ mode, Fallible.Moves (StillStates r)
      (do checkedVoidRequest r (.addOutputMode id mode); pure mode) := fun mode =>
    (checkedVoidRequest_still r (by trivial)).bind (StillStates.trans r) fun _ =>
      .pure (StillStates.refl r) mode
  cases found with
  | none => exact (createMode_still r width height).bind (StillStates.trans r) hadd
  | some mode =>
    exact (Fallible.Moves.pure (StillStates.refl r) mode).bind (StillStates.trans r) hadd

theorem planDisplay_still (id : Nat) (d : Display) :
    Fallible.Moves (StillStates r) (planDisplay r x id d) := by
  have hrefl := StillStates.refl r
  have htrans := StillStates.trans r
  unfold planDisplay
  refine (Fallible.Moves.guard hrefl _).bind htrans fun _ => ?_
  refine (getCrtcInfo_still r id).bind htrans fun info => ?_
  refine Fallible.Moves.ite (.pure hrefl _) ?_
  refine (Fallible.Moves.ofOption hrefl _).bind htrans fun width => ?_
  refine (Fallible.Moves.ofOption hrefl _).bind htrans fun height => ?_
  refine (Fallible.Moves.ofOption hrefl _).bind htrans fun px => ?_
  refine (Fallible.Moves.ofOption hrefl _).bind htrans fun py => ?_
  refine Fallible.Moves.ite (.pure hrefl _) (Fallible.Moves.ite ?_ (.pure hrefl _))
  exact (prepareMode_still r x id d width height).bind htrans fun mode => .pure hrefl _

theorem getDisplay_still (id : Nat) : Fallible.Moves (StillStates r) (getDisplay r x id) := by
  have hrefl := StillStates.refl r
  have htrans := StillStates.trans r
  unfold getDisplay
  refine (Fallible.Moves.guard hrefl _).bind htrans fun _ => ?_
  exact (getCrtcInfo_still r id).bind htrans fun info => .pure hrefl _

theorem dropMode_still (id : Nat) (c : Change) :
    Fallible.Moves (StillStates r) (dropMode r x id c) := by
  have hrefl := StillStates.refl r
  have htrans := StillStates.trans r
  unfold dropMode
  refine Fallible.Moves.ite (Fallible.Moves.bind htrans (Fallible.Moves.attempt ?_) fun _ =>
    .pure hrefl ()) (.pure hrefl ())
  exact (checkedVoidRequest_still r (by trivial)).bind htrans fun _ =>
    checkedVoidRequest_still r (by trivial)

/-- The requests that leave the screen as it is. -/
def Idle (req : Request) : Prop :=
  ∀ limit z reply z', Answers limit z req reply z' → z' = z

theorem idle_grabServer : Idle .grabServer := by
  intro limit z reply z' h
  cases h
  rfl

theorem idle_region (width height : Nat) : Idle (.region width height) := by
  intro limit z reply z' h
  cases h
  rfl

theorem checkedVoidRequest_idle {req : Request} (hidle : Idle req) (s : σ) :
    r.screen (checkedVoidRequest r req s).2 = r.screen s := by
  rcases hsend : r.send req s with ⟨_ | reply, t⟩
  · rw [checkedVoidRequest, Fallible.bind_run_none hsend]
    exact r.refused req s t hsend
  · rw [checkedVoidRequest, Fallible.bind_run_some hsend]
    exact hidle _ _ _ _ (r.answers req s reply t hsend)

theorem damageAdd_idle (displays : List Display) (s : σ) :
    r.screen (damageAdd r displays s).2 = r.screen s := by
  unfold damageAdd
  cases deriveExtent displays with
  | none => rfl
  | some extent => exact checkedVoidRequest_idle r (idle_region _ _) s

end Frames

/-! ## What is shown -/

/-- A CRTC shows a display: it is enabled when the display is, and then it has its area. -/
def Shows (z : Screen) (id : Nat) (d : Display) : Prop :=
  ∃ c, z.crtcs[id]? = some c ∧ c.isEnabled = d.isEnabled ∧
    (d.isEnabled = true → c.x = d.area.origin.x ∧ c.y = d.area.origin.y ∧
      c.width = d.area.size.width ∧ c.height = d.area.size.height)

theorem Answers.crtcInfo_inv {limit : Size} {z z' : Screen} {id : Nat} {reply : Reply}
    (h : Answers limit z (.getCrtcInfo id) reply z') :
    ∃ c, reply = .crtcInfo c ∧ z.crtcs[id]? = some c ∧ z' = z := by
  cases h with
  | crtcInfo i c hc => exact ⟨c, rfl, hc, rfl⟩

theorem Answers.resources_inv {limit : Size} {z z' : Screen} {reply : Reply}
    (h : Answers limit z .getScreenResources reply z') :
    reply = .resources (z.modes.map fun m => (m.id, m.name.length)) (z.modes.flatMap Mode.name) ∧
      z' = z := by
  cases h with
  | resources => exact ⟨rfl, rfl⟩

theorem Answers.createMode_inv {limit : Size} {z z' : Screen} {width height : Nat}
    {name : List UInt8} {reply : Reply}
    (h : Answers limit z (.createMode width height name) reply z') :
    ∃ id, reply = .mode id ∧ id ≠ 0 ∧ z'.crtcs = z.crtcs ∧
      z'.modes = z.modes ++ [⟨id, width, height, name⟩] ∧ z'.outputModes = z.outputModes := by
  cases h with
  | createMode width height name id z' hname hid hsize hcrtcs hmodes houtputs =>
    exact ⟨id, rfl, hid, hcrtcs, hmodes, houtputs⟩

theorem Answers.addOutputMode_inv {limit : Size} {z z' : Screen} {output mode : Nat} {reply : Reply}
    (h : Answers limit z (.addOutputMode output mode) reply z') :
    output < z.crtcs.length ∧ z'.crtcs = z.crtcs ∧ z'.modes = z.modes ∧
      z'.outputModes =
        Function.update z.outputModes output ((z.outputModes output).insert mode) := by
  cases h with
  | addOutputMode output mode z' houtput hmode hsize hcrtcs hmodes houtputs =>
    exact ⟨houtput, hcrtcs, hmodes, houtputs⟩

theorem Answers.setCrtcConfig_inv {limit : Size} {z z' : Screen} {crtc mode : Nat} {x y : Int}
    {outputs : List Nat} {reply : Reply}
    (h : Answers limit z (.setCrtcConfig crtc x y mode outputs) reply z')
    (hheeded : reply.heeded = true) :
    ∃ c, configured z.modes x y mode outputs = some c ∧ crtc < z.crtcs.length ∧
      z'.size = z.size ∧ z'.crtcs = z.crtcs.set crtc c ∧ z'.modes = z.modes ∧
      z'.outputModes = z.outputModes := by
  cases h with
  | setCrtcConfig crtc x y mode outputs c z' houtput hc hcrtc hsize hcrtcs hmodes houtputs =>
    exact ⟨c, hc, hcrtc, hsize, hcrtcs, hmodes, houtputs⟩
  | ignored crtc x y mode outputs status hstatus => exact absurd (of_decide_eq_true hheeded) hstatus

section Shown

variable {σ : Type} {r : RandR σ} {x : X} {s t : σ}

theorem checkedVoidRequest_eq_some {req : Request} {u : Unit}
    (h : checkedVoidRequest r req s = (some u, t)) :
    ∃ reply, Answers r.limit (r.screen s) req reply (r.screen t) := by
  obtain ⟨reply, s', hs, ht⟩ := Fallible.bind_eq_some.mp h
  cases ht
  exact ⟨reply, r.answers req s reply t hs⟩

/-- A CRTC that was configured, unless the request was ignored. -/
theorem setCrtcConfig_eq_some (hh : Heeds r) {crtc mode : Nat} {px py : Int} {outputs : List Nat}
    {u : Unit} (h : checkedVoidRequest r (.setCrtcConfig crtc px py mode outputs) s = (some u, t)) :
    ∃ c, configured (r.screen s).modes px py mode outputs = some c ∧
      crtc < (r.screen s).crtcs.length ∧ (r.screen t).size = (r.screen s).size ∧
      (r.screen t).crtcs = (r.screen s).crtcs.set crtc c ∧
      (r.screen t).modes = (r.screen s).modes ∧
      (r.screen t).outputModes = (r.screen s).outputModes := by
  obtain ⟨reply, s', hs, ht⟩ := Fallible.bind_eq_some.mp h
  cases ht
  exact (r.answers _ s reply t hs).setCrtcConfig_inv (hh _ s reply t hs)

theorem getCrtcInfo_eq_some {id : Nat} {info : Crtc} (h : getCrtcInfo r id s = (some info, t)) :
    (r.screen s).crtcs[id]? = some info ∧ r.screen t = r.screen s := by
  obtain ⟨reply, s', hs, ht⟩ := Fallible.bind_eq_some.mp h
  obtain ⟨c, rfl, hc, hscreen⟩ := (r.answers _ s reply s' hs).crtcInfo_inv
  cases ht
  exact ⟨hc, hscreen⟩

/-- A mode that is found by its name, or its absence. -/
theorem findModeByName_eq_some {target : List UInt8} {found : Option Nat}
    (h : findModeByName r target s = (some found, t)) :
    found = ((r.screen s).modes.find? fun m => m.name = target).map Mode.id ∧
      r.screen t = r.screen s := by
  obtain ⟨reply, s', hs, ht⟩ := Fallible.bind_eq_some.mp h
  obtain ⟨rfl, hscreen⟩ := (r.answers _ s reply s' hs).resources_inv
  cases ht
  exact ⟨findName_resources target _ [], hscreen⟩

theorem createMode_eq_some {width height id : Nat}
    (h : createMode r width height s = (some id, t)) :
    id ≠ 0 ∧ (r.screen t).crtcs = (r.screen s).crtcs ∧
      (r.screen t).modes =
        (r.screen s).modes ++ [⟨id, width, height, modeName width height⟩] ∧
      (r.screen t).outputModes = (r.screen s).outputModes := by
  obtain ⟨reply, s', hs, ht⟩ := Fallible.bind_eq_some.mp h
  obtain ⟨id', rfl, hanswer⟩ := (r.answers _ s reply s' hs).createMode_inv
  cases ht
  exact hanswer

/-- The mode that is prepared has the size of the display. -/
theorem prepareMode_eq_some (hn : Named (r.screen s)) {id width height mode : Nat} {d : Display}
    (h : prepareMode r x id d width height s = (some mode, t)) :
    InBounds x d ∧ ∃ m ∈ (r.screen t).modes, m.id = mode ∧ m.width = width ∧ m.height = height := by
  obtain ⟨u, s₁, hguard, h⟩ := Fallible.bind_eq_some.mp h
  obtain ⟨hbounds, rfl⟩ := Fallible.guard_eq_some.mp hguard
  refine ⟨hbounds, ?_⟩
  obtain ⟨found, s₂, hfind, h⟩ := Fallible.bind_eq_some.mp h
  obtain ⟨hfound, hscreen⟩ := findModeByName_eq_some hfind
  cases found with
  | some id' =>
    obtain ⟨m, hm, rfl⟩ := Option.map_eq_some_iff.mp hfound.symm
    obtain ⟨mode', s₃, hmode, h⟩ := Fallible.bind_eq_some.mp h
    cases hmode
    obtain ⟨u, s₄, hadd, h⟩ := Fallible.bind_eq_some.mp h
    cases h
    obtain ⟨reply, hanswer⟩ := checkedVoidRequest_eq_some hadd
    have hmem := List.mem_of_find?_eq_some hm
    obtain ⟨-, -, hmodes, -⟩ := hanswer.addOutputMode_inv
    rw [hmodes, hscreen]
    exact ⟨m, hmem, rfl, hn m hmem width height (by simpa using List.find?_some hm)⟩
  | none =>
    obtain ⟨mode', s₃, hmode, h⟩ := Fallible.bind_eq_some.mp h
    obtain ⟨u, s₄, hadd, h⟩ := Fallible.bind_eq_some.mp h
    cases h
    obtain ⟨reply, hanswer⟩ := checkedVoidRequest_eq_some hadd
    obtain ⟨-, -, hmodes, -⟩ := hanswer.addOutputMode_inv
    obtain ⟨-, -, hcreated, -⟩ := createMode_eq_some hmode
    rw [hmodes, hcreated]
    exact ⟨_, List.mem_append_right _ (List.mem_singleton.mpr rfl), rfl, rfl, rfl⟩

theorem u16TryFrom_eq_some {n m : Nat} : u16TryFrom n = some m ↔ n < 65536 ∧ m = n := by
  unfold u16TryFrom
  split <;> rename_i h <;> simp [h, eq_comm]

theorem i16TryFrom_eq_some {n : Nat} {m : Int} : i16TryFrom n = some m ↔ n < 32768 ∧ m = n := by
  unfold i16TryFrom
  split <;> rename_i h <;> simp [h, eq_comm]

/-- What a plan is: for a display that is shown already, nothing; else a change of its CRTC, with a
mode of its size when it is enabled. -/
theorem planDisplay_eq_some (hn : Named (r.screen s)) {id : Nat} {d : Display}
    {plan : Option Change} (h : planDisplay r x id d s = (some plan, t)) :
    (plan = none ∧ Shows (r.screen s) id d ∧ r.screen t = r.screen s) ∨
    ∃ c, plan = some c ∧ (r.screen s).crtcs[id]? = some c.info ∧
      (d.isEnabled = false → c.outputs = []) ∧
      (d.isEnabled = true → InBounds x d ∧ c.outputs = [id] ∧
        c.x = d.area.origin.x ∧ c.y = d.area.origin.y ∧
        ∃ m ∈ (r.screen t).modes, m.id = c.mode ∧ m.width = d.area.size.width ∧
          m.height = d.area.size.height) := by
  obtain ⟨u, s₁, hguard, h⟩ := Fallible.bind_eq_some.mp h
  obtain ⟨-, rfl⟩ := Fallible.guard_eq_some.mp hguard
  obtain ⟨info, s₂, hinfo, h⟩ := Fallible.bind_eq_some.mp h
  obtain ⟨hcrtc, hscreen⟩ := getCrtcInfo_eq_some hinfo
  split at h
  · rename_i hoff
    cases h
    exact Or.inl ⟨rfl, ⟨info, hcrtc, hoff.2.trans hoff.1.symm, by simp [hoff.1]⟩, hscreen⟩
  · obtain ⟨width, s₃, hw, h⟩ := Fallible.bind_eq_some.mp h
    obtain ⟨height, s₄, hh, h⟩ := Fallible.bind_eq_some.mp h
    obtain ⟨px, s₅, hx, h⟩ := Fallible.bind_eq_some.mp h
    obtain ⟨py, s₆, hy, h⟩ := Fallible.bind_eq_some.mp h
    obtain ⟨hw', rfl⟩ := Fallible.ofOption_eq_some.mp hw
    obtain ⟨hh', rfl⟩ := Fallible.ofOption_eq_some.mp hh
    obtain ⟨hx', rfl⟩ := Fallible.ofOption_eq_some.mp hx
    obtain ⟨hy', rfl⟩ := Fallible.ofOption_eq_some.mp hy
    obtain ⟨-, rfl⟩ := u16TryFrom_eq_some.mp hw'
    obtain ⟨-, rfl⟩ := u16TryFrom_eq_some.mp hh'
    obtain ⟨-, rfl⟩ := i16TryFrom_eq_some.mp hx'
    obtain ⟨-, rfl⟩ := i16TryFrom_eq_some.mp hy'
    split at h
    · rename_i hsame
      obtain ⟨hon, hd, harea⟩ := hsame
      cases h
      exact Or.inl ⟨rfl, ⟨info, hcrtc, hon.trans hd.symm, fun _ =>
        ⟨harea.2.2.1, harea.2.2.2, harea.1, harea.2.1⟩⟩, hscreen⟩
    · split at h
      · rename_i hd
        obtain ⟨mode, s₇, hmode, h⟩ := Fallible.bind_eq_some.mp h
        cases h
        rw [← hscreen] at hn
        obtain ⟨hbounds, hm⟩ := prepareMode_eq_some hn hmode
        exact Or.inr ⟨_, rfl, hcrtc, by simp [hd], fun _ => ⟨hbounds, rfl, rfl, rfl, hm⟩⟩
      · rename_i hd
        cases h
        exact Or.inr ⟨_, rfl, hcrtc, fun _ => rfl, fun h => absurd h hd⟩

theorem configured_off (modes : List Mode) (px py : Int) (mode : Nat) :
    configured modes px py mode [] = some .off := if_pos rfl

theorem configured_on {z : Screen} {m : Mode} (hm : m ∈ z.modes) (px py : Int) (id : Nat) :
    configured z.modes px py m.id [id] = some ⟨px, py, m.width, m.height, m.id, [id]⟩ := by
  have hfind : z.modes.find? (fun m' => m'.id = m.id) = some m := by
    obtain ⟨m', hm'⟩ := Option.isSome_iff_exists.mp
      (List.find?_isSome (p := fun m' : Mode => decide (m'.id = m.id)) |>.mpr ⟨m, hm, by simp⟩)
    have hid : m'.id = m.id := by simpa using List.find?_some hm'
    rw [hm', List.inj_on_of_nodup_map z.ids (List.mem_of_find?_eq_some hm') hm hid]
  rw [configured, if_neg (by simp), hfind]
  rfl

/-- **A display that is set is shown**, and nothing happens when it was already. -/
theorem setDisplay_ok (hh : Heeds r) (hn : Named (r.screen s)) {id : Nat} {d : Display}
    {kind : SetDisplaySuccess} (h : setDisplay r x id d s = (some kind, t)) :
    Shows (r.screen t) id d ∧ Frame id (r.screen s) (r.screen t) ∧
      (kind = .noChange → r.screen t = r.screen s) := by
  obtain ⟨plan, s₁, hplan, h⟩ := Fallible.bind_eq_some.mp h
  have hstill : Still (r.screen s) (r.screen s₁) := by
    have hmoves := planDisplay_still r x id d s
    rw [hplan] at hmoves
    exact hmoves
  rcases planDisplay_eq_some hn hplan with ⟨rfl, hshows, hscreen⟩ | ⟨c, rfl, -, hoff, hon⟩
  · cases h
    rw [hscreen]
    exact ⟨hshows, (Still.refl _).frame id, fun _ => rfl⟩
  · obtain ⟨u, s₂, hset, h⟩ := Fallible.bind_eq_some.mp h
    obtain ⟨u', s₃, hdrop, h⟩ := Fallible.bind_eq_some.mp h
    cases h
    obtain ⟨crtc, hcrtc, hlt, hsize, hcrtcs, hmodes, -⟩ := setCrtcConfig_eq_some hh hset
    have hdropped : Still (r.screen s₂) (r.screen t) := by
      have hmoves := dropMode_still r x id c s₂
      rw [hdrop] at hmoves
      exact hmoves
    have hself : (r.screen t).crtcs[id]? = some crtc := by
      rw [hdropped.crtcs, hcrtcs, List.getElem?_set_self hlt]
    have hframe : Frame id (r.screen s₁) (r.screen s₂) := by
      refine ⟨hsize, by rw [hcrtcs, List.length_set], fun j hj => ?_, fun hn' => ?_⟩
      · rw [hcrtcs, List.getElem?_set_ne (Ne.symm hj)]
      · rw [Named, hmodes]
        exact hn'
    refine ⟨⟨crtc, hself, ?_⟩, ((hstill.frame id).trans hframe).trans (hdropped.frame id),
      fun h => by cases h⟩
    cases hd : d.isEnabled with
    | false =>
      rw [hoff hd, configured_off] at hcrtc
      cases hcrtc
      exact ⟨rfl, fun h => by cases h⟩
    | true =>
      obtain ⟨-, houtputs, hx, hy, m, hm, hmode, hw, hh⟩ := hon hd
      rw [houtputs, ← hmode, configured_on hm] at hcrtc
      cases hcrtc
      exact ⟨rfl, fun _ => ⟨hx, hy, hw, hh⟩⟩

/-- A display that could not be set has changed no CRTC. -/
theorem setDisplay_none {id : Nat} {d : Display} (h : setDisplay r x id d s = (none, t)) :
    Still (r.screen s) (r.screen t) := by
  have hmoves := planDisplay_still r x id d s
  rcases Fallible.bind_eq_none.mp h with hplan | ⟨plan, s₁, hplan, h⟩ <;> rw [hplan] at hmoves
  · exact hmoves
  · cases plan with
    | none => cases h
    | some c =>
      rcases Fallible.bind_eq_none.mp h with hset | ⟨u, s₂, hset, h⟩
      · rcases Fallible.bind_eq_none.mp hset with hsend | ⟨reply, s₂, hsend, h⟩
        · rw [r.refused _ s₁ t hsend]
          exact hmoves
        · cases h
      · rcases Fallible.bind_eq_none.mp h with hdrop | ⟨u', s₃, hdrop, h⟩
        · exfalso
          unfold dropMode at hdrop
          split at hdrop
          · rcases Fallible.bind_eq_none.mp hdrop with h' | ⟨_, _, _, h'⟩ <;> cases h'
          · cases hdrop
        · cases h

theorem asUsize_of_nonneg {n : Int} (h : 0 ≤ n) (hlt : n < 65536) : (asUsize n : Int) = n := by
  unfold asUsize
  omega

/-- The display that is read back is shown. -/
theorem getDisplay_eq_some {id : Nat} {d : Display} (h : getDisplay r x id s = (some d, t)) :
    r.screen t = r.screen s ∧ Shows (r.screen s) id d := by
  obtain ⟨u, s₁, hguard, h⟩ := Fallible.bind_eq_some.mp h
  obtain ⟨-, rfl⟩ := Fallible.guard_eq_some.mp hguard
  obtain ⟨info, s₂, hinfo, h⟩ := Fallible.bind_eq_some.mp h
  obtain ⟨hcrtc, hscreen⟩ := getCrtcInfo_eq_some hinfo
  cases h
  refine ⟨hscreen, info, hcrtc, rfl, fun hon => ?_⟩
  obtain ⟨-, ⟨hx, hy⟩, hright, hbottom⟩ := (r.screen s).fits info (List.mem_of_getElem? hcrtc) hon
  obtain ⟨hwidth, hheight⟩ := (r.screen s).size_lt
  exact ⟨(asUsize_of_nonneg hx (by omega)).symm, (asUsize_of_nonneg hy (by omega)).symm, rfl, rfl⟩

/-! ## All displays -/

theorem Shows.congr {z z' : Screen} {id : Nat} {d : Display} (h : Shows z id d)
    (hz : z'.crtcs[id]? = z.crtcs[id]?) : Shows z' id d := by
  obtain ⟨c, hc, hd⟩ := h
  exact ⟨c, hz.trans hc, hd⟩

/-- What the loop over the displays comes to, from this id on. -/
structure SetEach (z z' : Screen) (id : Nat) (ds : List Display)
    (result : Bool × Bool × List Display) : Prop where
  size : z'.size = z.size
  length : z'.crtcs.length = z.crtcs.length
  named : Named z'
  before : ∀ j, j < id → z'.crtcs[j]? = z.crtcs[j]?
  shown : ∃ ids, ids.Sublist (List.range' id ds.length) ∧
    List.Forall₂ (Shows z') ids result.2.2 ∧
    (result.1 = false → ids = List.range' id ds.length ∧ result.2.2 = ds)
  unchanged : result.2.1 = false → z'.crtcs = z.crtcs

/-- The loop goes on after an error. -/
theorem setEachDisplay_isSome (id : Nat) (ds : List Display) (s : σ) :
    ∃ result t, setEachDisplay r x id ds s = (some result, t) := by
  induction ds generalizing id s with
  | nil => exact ⟨_, _, rfl⟩
  | cons d ds ih =>
    rw [setEachDisplay, Fallible.bind_run_some (Fallible.attempt_run _ s)]
    rcases setDisplay r x id d s with ⟨_ | kind, s₁⟩
    · dsimp only
      rw [Fallible.bind_run_some (Fallible.attempt_run _ s₁)]
      rcases getDisplay r x id s₁ with ⟨_ | current, s₂⟩ <;>
        obtain ⟨result, t, hrest⟩ := ih (id + 1) s₂
      · exact ⟨_, _, Fallible.bind_run_some hrest _⟩
      · exact ⟨_, _, Fallible.bind_run_some hrest _⟩
    · obtain ⟨result, t, hrest⟩ := ih (id + 1) s₁
      exact ⟨_, _, Fallible.bind_run_some hrest _⟩

/-- One round of the loop and the rest of it: the display is set, or the one that is read back is
shown, or neither. -/
theorem setEachDisplay_cons (hh : Heeds r) (hn : Named (r.screen s)) {id : Nat} {d : Display}
    {ds : List Display} {result : Bool × Bool × List Display}
    (h : setEachDisplay r x id (d :: ds) s = (some result, t)) :
    ∃ s₁ rest, setEachDisplay r x (id + 1) ds s₁ = (some rest, t) ∧
      Frame id (r.screen s) (r.screen s₁) ∧
      ((∃ kind, Shows (r.screen s₁) id d ∧
          (kind = SetDisplaySuccess.noChange → r.screen s₁ = r.screen s) ∧
          result = (rest.1, rest.2.1 || kind = .updated, d :: rest.2.2)) ∨
        (r.screen s₁).crtcs = (r.screen s).crtcs ∧
          ((∃ current, Shows (r.screen s₁) id current ∧
              result = (true, rest.2.1, current :: rest.2.2)) ∨
            result = (true, rest.2))) := by
  rw [setEachDisplay, Fallible.bind_run_some (Fallible.attempt_run _ s)] at h
  rcases hset : setDisplay r x id d s with ⟨_ | kind, s₁⟩ <;> rw [hset] at h <;> dsimp only at h
  · have hstill := setDisplay_none hset
    rw [Fallible.bind_run_some (Fallible.attempt_run _ s₁)] at h
    rcases hget : getDisplay r x id s₁ with ⟨_ | current, s₂⟩ <;> rw [hget] at h <;>
      obtain ⟨rest, s₃, hrest, h⟩ := Fallible.bind_eq_some.mp h <;> cases h
    · have hmoves := getDisplay_still r x id s₁
      rw [hget] at hmoves
      have hboth := hstill.trans hmoves
      exact ⟨s₂, rest, hrest, hboth.frame id, Or.inr ⟨hboth.crtcs, Or.inr rfl⟩⟩
    · obtain ⟨hscreen, hshows⟩ := getDisplay_eq_some hget
      rw [← hscreen] at hshows hstill
      exact ⟨s₂, rest, hrest, hstill.frame id,
        Or.inr ⟨hstill.crtcs, Or.inl ⟨current, hshows, rfl⟩⟩⟩
  · obtain ⟨hshows, hframe, hsame⟩ := setDisplay_ok hh hn hset
    obtain ⟨rest, s₃, hrest, h⟩ := Fallible.bind_eq_some.mp h
    cases h
    exact ⟨s₁, rest, hrest, hframe, Or.inl ⟨kind, hshows, hsame, rfl⟩⟩

theorem setEachDisplay_spec (hh : Heeds r) (hn : Named (r.screen s)) {id : Nat} {ds : List Display}
    {result : Bool × Bool × List Display}
    (h : setEachDisplay r x id ds s = (some result, t)) :
    SetEach (r.screen s) (r.screen t) id ds result := by
  induction ds generalizing id s t result with
  | nil =>
    cases h
    exact ⟨rfl, rfl, hn, fun _ _ => rfl, ⟨[], List.Sublist.refl _, .nil, fun _ => ⟨rfl, rfl⟩⟩,
      fun _ => rfl⟩
  | cons d ds ih =>
    obtain ⟨s₁, rest, hrest, hframe, hcase⟩ := setEachDisplay_cons hh hn h
    have hset := ih (hframe.named hn) hrest
    have hkept : (r.screen t).crtcs[id]? = (r.screen s₁).crtcs[id]? := hset.before id (by omega)
    obtain ⟨ids, hsub, hshown, hall⟩ := hset.shown
    have hbefore : ∀ j, j < id → (r.screen t).crtcs[j]? = (r.screen s).crtcs[j]? := fun j hj =>
      (hset.before j (by omega)).trans (hframe.others j (by omega))
    rcases hcase with ⟨kind, hshows, hsame, rfl⟩ | ⟨hcrtcs, ⟨current, hshows, rfl⟩ | rfl⟩
    · refine ⟨hset.size.trans hframe.size, hset.length.trans hframe.length, hset.named, hbefore,
        ⟨id :: ids, hsub.cons_cons id, .cons (hshows.congr hkept) hshown, ?_⟩, ?_⟩
      · intro herr
        obtain ⟨rfl, hfinal⟩ := hall herr
        exact ⟨rfl, by rw [hfinal]⟩
      · intro hchanged
        obtain ⟨hrest', hkind⟩ := Bool.or_eq_false_iff.mp hchanged
        have hno : kind = .noChange := by
          cases kind with
          | noChange => rfl
          | updated => simp at hkind
        rw [hset.unchanged hrest', hsame hno]
    · exact ⟨hset.size.trans hframe.size, hset.length.trans hframe.length, hset.named, hbefore,
        ⟨id :: ids, hsub.cons_cons id, .cons (hshows.congr hkept) hshown, fun h => by cases h⟩,
        fun hchanged => (hset.unchanged hchanged).trans hcrtcs⟩
    · exact ⟨hset.size.trans hframe.size, hset.length.trans hframe.length, hset.named, hbefore,
        ⟨ids, hsub.cons id, hshown, fun h => by cases h⟩,
        fun hchanged => (hset.unchanged hchanged).trans hcrtcs⟩

/-! ### Resizing and damage -/

/-- Nothing but the size has changed. -/
structure Kept (z z' : Screen) : Prop where
  crtcs : z'.crtcs = z.crtcs
  modes : z'.modes = z.modes
  outputModes : z'.outputModes = z.outputModes

theorem Kept.refl (z : Screen) : Kept z z := ⟨rfl, rfl, rfl⟩

theorem Kept.trans {z z' z'' : Screen} (h : Kept z z') (h' : Kept z' z'') : Kept z z'' :=
  ⟨h'.crtcs.trans h.crtcs, h'.modes.trans h.modes, h'.outputModes.trans h.outputModes⟩

theorem Kept.named {z z' : Screen} (h : Kept z z') (hn : Named z) : Named z' := by
  rw [Named, h.modes]
  exact hn

theorem Answers.kept {limit : Size} {z z' : Screen} {width height : Nat} {reply : Reply}
    (h : Answers limit z (.setScreenSize width height) reply z') : Kept z z' := by
  cases h with
  | screenSize width height z' hpos hlimit hsize hcrtcs hmodes houtputs =>
    exact ⟨hcrtcs, hmodes, houtputs⟩

theorem Answers.geometry_inv {limit : Size} {z z' : Screen} {reply : Reply}
    (h : Answers limit z .getGeometry reply z') : reply = .geometry z.size ∧ z' = z := by
  cases h with
  | geometry => exact ⟨rfl, rfl⟩

theorem getGeometry_run (s : σ) : r.screen (getGeometry r s).2 = r.screen s ∧
    ∀ size, (getGeometry r s).1 = some size → size = (r.screen s).size := by
  rcases hsend : r.send .getGeometry s with ⟨_ | reply, t⟩
  · have hrun : getGeometry r s = (none, t) := Fallible.bind_run_none hsend _
    rw [hrun]
    exact ⟨r.refused _ s t hsend, fun size h => by cases h⟩
  · obtain ⟨rfl, hscreen⟩ := (r.answers _ s reply t hsend).geometry_inv
    have hrun : getGeometry r s = (some (r.screen s).size, t) := Fallible.bind_run_some hsend _
    rw [hrun]
    exact ⟨hscreen, fun size h => (Option.some.inj h).symm⟩

/-- Resizing the screen changes its size only. -/
theorem resizeScreenIf_kept (displays : List Display) (resizeIf : Ordering) (s : σ) :
    Kept (r.screen s) (r.screen (resizeScreenIf r displays resizeIf s).2) := by
  have hrefl : ∀ s : σ, Kept (r.screen s) (r.screen s) := fun s => Kept.refl _
  have htrans : ∀ s t u : σ, Kept (r.screen s) (r.screen t) → Kept (r.screen t) (r.screen u) →
      Kept (r.screen s) (r.screen u) := fun s t u => Kept.trans
  have hvoid : ∀ width height, Fallible.Moves (fun s t => Kept (r.screen s) (r.screen t))
      (checkedVoidRequest r (.setScreenSize width height)) := by
    intro width height s
    rcases h : checkedVoidRequest r (.setScreenSize width height) s with ⟨_ | u, t⟩
    · rcases Fallible.bind_eq_none.mp h with hsend | ⟨reply, s₁, hsend, h⟩
      · rw [r.refused _ s t hsend]
        exact hrefl s
      · cases h
    · obtain ⟨reply, hanswer⟩ := checkedVoidRequest_eq_some h
      exact hanswer.kept
  have hmoves : Fallible.Moves (fun s t => Kept (r.screen s) (r.screen t))
      (resizeScreenIf r displays resizeIf) := by
    unfold resizeScreenIf
    refine (Fallible.Moves.ofOption hrefl _).bind htrans fun requested => ?_
    have hgeometry : Fallible.Moves (fun s t => Kept (r.screen s) (r.screen t))
        (getGeometry r) := by
      intro s
      obtain ⟨hscreen, -⟩ := getGeometry_run (r := r) s
      rw [hscreen]
      exact hrefl s
    exact hgeometry.bind htrans fun current =>
      Fallible.Moves.ite (.pure hrefl _) (hvoid _ _)
  exact hmoves s

/-! ### The whole request -/

/-- What `set_displays` comes to: it shows what it returns, display after display, and everything
that was requested when it succeeds. -/
structure SetShown (x : X) (z z' : Screen) (requested : List Display)
    (result : Except (List Display) SetDisplaysSuccess) : Prop where
  named : Named z'
  shown : ∃ ids, ids.Sublist (List.range x.maxDisplayCount) ∧
    List.Forall₂ (Shows z') ids (setResult result) ∧
    ∀ success, result = .ok success → ids = List.range x.maxDisplayCount ∧
      success.displays = resizeDisplays x.maxDisplayCount requested ∧
      (success.changed = false → z'.crtcs = z.crtcs)

theorem length_resizeDisplays (n : Nat) (displays : List Display) :
    (resizeDisplays n displays).length = n := by
  rw [resizeDisplays, List.length_append, List.length_take, List.length_replicate]
  omega

/-- The screen after the loop is trimmed when something changed. -/
def trimmed (r : RandR σ) (each : Bool × Bool × List Display) (s : σ) : σ :=
  if each.2.1 = true then (resizeScreenIf r each.2.2 .lt s).2 else s

/-- The steps of `set_displays`, which never fails: the screen is enlarged, the displays are set one
after another, and the screen is trimmed. -/
theorem setDisplays_steps (requested : List Display) (s : σ) :
    ∃ s₀ each s₂ t, r.screen s₀ = r.screen s ∧
      setEachDisplay r x 0 (resizeDisplays x.maxDisplayCount requested)
        (resizeScreenIf r (resizeDisplays x.maxDisplayCount requested) .gt s₀).2 =
          (some each, s₂) ∧
      r.screen t = r.screen (trimmed r each s₂) ∧
      setDisplays r x requested s =
        (some (if each.1 = true then .error each.2.2 else .ok ⟨each.2.1, each.2.2⟩), t) := by
  unfold setDisplays
  rw [Fallible.bind_run_some (Fallible.attempt_run _ s)]
  dsimp only
  rw [Fallible.bind_run_some (Fallible.attempt_run _ _)]
  obtain ⟨each, s₂, heach⟩ := setEachDisplay_isSome (r := r) (x := x) 0
    (resizeDisplays x.maxDisplayCount requested) (resizeScreenIf r
      (resizeDisplays x.maxDisplayCount requested) .gt (checkedVoidRequest r .grabServer s).2).2
  refine ⟨(checkedVoidRequest r .grabServer s).2, each, s₂, ?_⟩
  rw [Fallible.bind_run_some heach]
  have hgrab := checkedVoidRequest_idle r idle_grabServer s
  obtain ⟨errors, changed, final⟩ := each
  dsimp only
  cases changed with
  | false =>
    rw [if_neg (by simp), Fallible.bind_run_some (Fallible.attempt_run _ s₂)]
    exact ⟨_, hgrab, heach, damageAdd_idle r final s₂, rfl⟩
  | true =>
    rw [if_pos rfl, Fallible.bind_run_some (Fallible.attempt_run _ s₂),
      Fallible.bind_run_some (Fallible.attempt_run _ _)]
    exact ⟨_, hgrab, heach, damageAdd_idle r final _, rfl⟩

theorem trimmed_kept (each : Bool × Bool × List Display) (s : σ) :
    Kept (r.screen s) (r.screen (trimmed r each s)) := by
  unfold trimmed
  split
  · exact resizeScreenIf_kept each.2.2 .lt s
  · exact Kept.refl _

theorem Shows.kept {z z' : Screen} {id : Nat} {d : Display} (h : Shows z id d) (hz : Kept z z') :
    Shows z' id d := h.congr (by rw [hz.crtcs])

/-- **What is returned is shown**, whatever the X server refuses, if it ignores nothing. -/
theorem setDisplays_shown (hh : Heeds r) {requested : List Display} (hn : Named (r.screen s))
    {result : Except (List Display) SetDisplaysSuccess}
    (h : setDisplays r x requested s = (some result, t)) :
    SetShown x (r.screen s) (r.screen t) requested result := by
  obtain ⟨s₀, ⟨errors, changed, final⟩, s₂, t', hs₀, heach, ht, hsteps⟩ :=
    setDisplays_steps (r := r) (x := x) requested s
  rw [hsteps] at h
  cases h
  have hbefore := resizeScreenIf_kept (r := r) (resizeDisplays x.maxDisplayCount requested) .gt s₀
  have hafter := trimmed_kept (r := r) (errors, changed, final) s₂
  rw [hs₀] at hbefore
  rw [← ht] at hafter
  have hset := setEachDisplay_spec hh (hbefore.named hn) heach
  obtain ⟨ids, hsub, hshown, hall⟩ := hset.shown
  rw [length_resizeDisplays, ← List.range_eq_range'] at hsub
  have hshown' : List.Forall₂ (Shows (r.screen t)) ids final :=
    hshown.imp fun id d h => h.kept hafter
  refine ⟨hafter.named hset.named, ids, hsub, ?_, ?_⟩
  · cases errors <;> exact hshown'
  · intro success hsuccess
    cases errors with
    | true => cases hsuccess
    | false =>
      cases hsuccess
      obtain ⟨rfl, hfinal⟩ := hall rfl
      rw [length_resizeDisplays, ← List.range_eq_range']
      refine ⟨rfl, hfinal, fun hchanged => ?_⟩
      rw [hafter.crtcs, hset.unchanged hchanged, hbefore.crtcs]

end Shown

/-! ## An X server of this kind -/

instance (c : Crtc) (size : Size) : Decidable (c.FitsIn size) :=
  decidable_of_iff ((0 < c.width ∧ 0 < c.height) ∧ (0 ≤ c.x ∧ 0 ≤ c.y) ∧
      c.x + c.width ≤ size.width ∧ c.y + c.height ≤ size.height)
    ⟨fun h => ⟨h.1, h.2.1, h.2.2.1, h.2.2.2⟩, fun h => ⟨h.pos, h.origin, h.right, h.bottom⟩⟩

/-- A screen that never exceeds the size it was started with. -/
structure Xvfb (limit : Size) where
  screen : Screen
  size_le : screen.size.width ≤ limit.width ∧ screen.size.height ≤ limit.height

namespace Xvfb

variable {limit : Size}

/-- An id that no mode has. -/
def freshId (modes : List Mode) : Nat := (modes.map Mode.id).foldr max 0 + 1

theorem le_foldr_max {ids : List Nat} {id : Nat} (h : id ∈ ids) : id ≤ ids.foldr max 0 := by
  induction ids with
  | nil => cases h
  | cons id' ids ih =>
    rw [List.foldr_cons]
    rcases List.mem_cons.mp h with rfl | h
    · exact le_max_left _ _
    · exact (ih h).trans (le_max_right _ _)

theorem nodup_freshId (z : Screen) (width height : Nat) (name : List UInt8) :
    ((z.modes ++ [(⟨freshId z.modes, width, height, name⟩ : Mode)]).map Mode.id).Nodup := by
  rw [List.map_append, List.map_singleton, List.nodup_append]
  refine ⟨z.ids, by simp, ?_⟩
  intro id hid id' hid' heq
  have hnew : id' = freshId z.modes := List.mem_singleton.mp hid'
  have hle := le_foldr_max hid
  rw [heq, hnew, freshId] at hle
  omega

theorem fits_set {z : Screen} {c : Crtc} (hc : c.isEnabled = true → c.FitsIn z.size) (crtc : Nat) :
    ∀ c' ∈ z.crtcs.set crtc c, c'.isEnabled = true → c'.FitsIn z.size := by
  intro c' hc' hon
  rcases List.mem_or_eq_of_mem_set hc' with hc' | rfl
  · exact z.fits c' hc' hon
  · exact hc hon

/-- Every request that can be granted is. -/
def send (limit_lt : limit.width < 65536 ∧ limit.height < 65536) :
    Request → Fallible (Xvfb limit) Reply
  | .grabServer, s => (some .done, s)
  | .getGeometry, s => (some (.geometry s.screen.size), s)
  | .setScreenSize width height, s =>
    if h : (0 < width ∧ 0 < height) ∧ (width ≤ limit.width ∧ height ≤ limit.height) ∧
        ∀ c ∈ s.screen.crtcs, c.isEnabled = true → c.FitsIn ⟨width, height⟩ then
      (some .done, ⟨{ s.screen with
        size := ⟨width, height⟩
        size_lt := ⟨h.2.1.1.trans_lt limit_lt.1, h.2.1.2.trans_lt limit_lt.2⟩
        fits := h.2.2 }, h.2.1⟩)
    else (none, s)
  | .getCrtcInfo crtc, s =>
    match s.screen.crtcs[crtc]? with
    | some c => (some (.crtcInfo c), s)
    | none => (none, s)
  | .getScreenResources, s =>
    (some (.resources (s.screen.modes.map fun m => (m.id, m.name.length))
      (s.screen.modes.flatMap Mode.name)), s)
  | .createMode width height name, s =>
    if ∀ m ∈ s.screen.modes, m.name ≠ name then
      (some (.mode (freshId s.screen.modes)), ⟨{ s.screen with
        modes := s.screen.modes ++ [⟨freshId s.screen.modes, width, height, name⟩]
        ids := nodup_freshId s.screen width height name }, s.size_le⟩)
    else (none, s)
  | .addOutputMode output mode, s =>
    if output < s.screen.crtcs.length ∧ mode ∈ s.screen.modes.map Mode.id then
      (some .done, ⟨{ s.screen with
        outputModes := Function.update s.screen.outputModes output
          ((s.screen.outputModes output).insert mode) }, s.size_le⟩)
    else (none, s)
  | .setCrtcConfig crtc x y mode outputs, s =>
    match configured s.screen.modes x y mode outputs with
    | some c =>
      if h : (∀ output ∈ outputs, mode ∈ s.screen.outputModes output) ∧
          crtc < s.screen.crtcs.length ∧ (c.isEnabled = true → c.FitsIn s.screen.size) then
        (some (.crtcConfig .success), ⟨{ s.screen with
          crtcs := s.screen.crtcs.set crtc c
          fits := fits_set h.2.2 crtc }, s.size_le⟩)
      else (none, s)
    | none => (none, s)
  | .deleteOutputMode output mode, s =>
    if ∀ c ∈ s.screen.crtcs, output ∈ c.outputs → c.mode ≠ mode then
      (some .done, ⟨{ s.screen with
        outputModes := Function.update s.screen.outputModes output
          ((s.screen.outputModes output).filter (· ≠ mode)) }, s.size_le⟩)
    else (none, s)
  | .destroyMode mode, s =>
    if ∀ output < s.screen.crtcs.length, mode ∉ s.screen.outputModes output then
      (some .done, ⟨{ s.screen with
        modes := s.screen.modes.filter fun m => m.id ≠ mode
        ids := s.screen.ids.sublist (List.filter_sublist.map _) }, s.size_le⟩)
    else (none, s)
  | .region _ _, s => (some .done, s)

variable {limit_lt : limit.width < 65536 ∧ limit.height < 65536}

theorem send_answers (req : Request) (s : Xvfb limit) :
    (∃ reply s', send limit_lt req s = (some reply, s') ∧
      Answers limit s.screen req reply s'.screen) ∨
    send limit_lt req s = (none, s) := by
  cases req with
  | grabServer => exact Or.inl ⟨_, _, rfl, .grabServer⟩
  | getGeometry => exact Or.inl ⟨_, _, rfl, .geometry⟩
  | setScreenSize width height =>
    rw [send]
    split
    · rename_i h
      exact Or.inl ⟨_, _, rfl, .screenSize width height _ h.1 h.2.1 rfl rfl rfl rfl⟩
    · exact Or.inr rfl
  | getCrtcInfo crtc =>
    rw [send]
    split
    · rename_i c hc
      exact Or.inl ⟨_, _, rfl, .crtcInfo crtc c hc⟩
    · exact Or.inr rfl
  | getScreenResources => exact Or.inl ⟨_, _, rfl, .resources⟩
  | createMode width height name =>
    rw [send]
    split
    · rename_i h
      exact Or.inl ⟨_, _, rfl, .createMode width height name _ _ h (Nat.succ_ne_zero _) rfl rfl rfl
        rfl⟩
    · exact Or.inr rfl
  | addOutputMode output mode =>
    rw [send]
    split
    · rename_i h
      exact Or.inl ⟨_, _, rfl, .addOutputMode output mode _ h.1 h.2 rfl rfl rfl rfl⟩
    · exact Or.inr rfl
  | setCrtcConfig crtc x y mode outputs =>
    rw [send]
    split
    · rename_i c hc
      split
      · rename_i h
        exact Or.inl ⟨_, _, rfl, .setCrtcConfig crtc x y mode outputs c _ h.1 hc h.2.1 rfl rfl rfl
          rfl⟩
      · exact Or.inr rfl
    · exact Or.inr rfl
  | deleteOutputMode output mode =>
    rw [send]
    split
    · rename_i h
      exact Or.inl ⟨_, _, rfl, .deleteOutputMode output mode _ h rfl rfl rfl rfl⟩
    · exact Or.inr rfl
  | destroyMode mode =>
    rw [send]
    split
    · rename_i h
      exact Or.inl ⟨_, _, rfl, .destroyMode mode _ h rfl rfl rfl rfl⟩
    · exact Or.inr rfl
  | region width height => exact Or.inl ⟨_, _, rfl, .region width height⟩

theorem send_refused {req : Request} {s s' : Xvfb limit} (h : send limit_lt req s = (none, s')) :
    s'.screen = s.screen := by
  rcases send_answers req s with ⟨reply', t, ht, -⟩ | hnone
  · rw [ht] at h
    cases h
  · rw [hnone] at h
    cases h
    rfl

/-- An X server that grants every request it can. -/
def server (limit_lt : limit.width < 65536 ∧ limit.height < 65536) : RandR (Xvfb limit) where
  limit := limit
  screen := screen
  send := send limit_lt
  limit_lt := limit_lt
  size_le := size_le
  answers req s reply s' h := by
    rcases send_answers req s with ⟨reply', t, ht, hanswer⟩ | hnone
    · rw [ht] at h
      cases h
      exact hanswer
    · rw [hnone] at h
      cases h
  refused _ _ _ h := send_refused h

/-- It ignores nothing. -/
theorem heeds : Heeds (server limit_lt) := by
  intro req s reply t h
  have hanswer := (server limit_lt).answers req s reply t h
  generalize (server limit_lt).screen t = z' at hanswer
  cases hanswer with
  | ignored crtc x y mode outputs status hstatus =>
    change send limit_lt (.setCrtcConfig crtc x y mode outputs) s = _ at h
    rw [send] at h
    split at h
    · split at h <;> cases h
      exact absurd rfl hstatus
    · cases h
  | _ => rfl

/-- An X server that fails to configure any CRTC, and says so in its reply only. -/
def failing (limit_lt : limit.width < 65536 ∧ limit.height < 65536) : RandR (Xvfb limit) :=
  { server limit_lt with
    send := fun req s =>
      match req with
      | .setCrtcConfig _ _ _ _ _ => (some (.crtcConfig .failed), s)
      | req => send limit_lt req s
    answers := by
      intro req s reply s' h
      cases req with
      | setCrtcConfig crtc x y mode outputs =>
        cases h
        exact .ignored crtc x y mode outputs .failed (by decide)
      | _ => exact (server limit_lt).answers _ s reply s' h
    refused := by
      intro req s s' h
      cases req with
      | setCrtcConfig crtc x y mode outputs => cases h
      | _ => exact send_refused h }

/-- A desk with three CRTCs, of which the first shows the whole screen. -/
def desk : Xvfb ⟨2560, 1080⟩ where
  screen := {
    size := ⟨2560, 1080⟩
    crtcs := [⟨0, 0, 2560, 1080, 1, [0]⟩, .off, .off]
    modes := [⟨1, 2560, 1080, modeName 2560 1080⟩]
    outputModes := fun _ => [1]
    size_lt := by decide
    fits := by decide
    ids := by decide }
  size_le := by decide

/-- Its server. -/
def deskServer : RandR (Xvfb ⟨2560, 1080⟩) := server (by decide)

/-- And the fields of `X` there. -/
def deskX : X := ⟨3, 2560, 1080, 3, 1⟩

/-- A request for two displays side by side. -/
def sideBySide : List Display :=
  [⟨⟨⟨0, 0⟩, ⟨1280, 720⟩⟩, true⟩, ⟨⟨⟨1280, 0⟩, ⟨800, 600⟩⟩, true⟩]

theorem named_desk : Named (deskServer.screen desk) := by
  intro m hm width height hname
  cases List.mem_singleton.mp hm
  exact modeName_inj hname

end Xvfb

end ApertureC.XDisplays
