import ApertureC.BackendTask

/-!
# The display slots of the X server

The requests that `X::set_displays` makes for one slot, and what the list it returns says about the
slots, `src/aperturec-server/src/backend/x.rs`.

* `SlotReplies` — what the X server answers for one slot; `getDisplay`, `setDisplay`,
  `findModeByName` — `X::get_display`, `X::set_display`, `X::find_mode_by_name`.
* `Describes`, `Aligned` — entry `i` of a list of displays is about slot `i`.

Principal results: `aligned_iff` (**the returned list has an entry for every slot, at its place,
exactly when no slot fails both to be set and to be read back**) and `setDisplays_aligned_iff` (the
same of `set_displays` over the replies, with the check of the display config task).
-/

set_option autoImplicit false

namespace ApertureC

open Geometry

/-! ## The requests for one slot -/

/-- `randr::GetCrtcInfoReply` -/
structure CrtcInfo where
  x : Int
  y : Int
  width : Nat
  height : Nat
  mode : Nat
  outputs : List Nat
  deriving DecidableEq, Repr

/-- `randr::ModeInfo`, as far as the search for a name reads it. -/
structure ModeInfo where
  id : Nat
  nameLen : Nat
  deriving DecidableEq, Repr

/-- `randr::GetScreenResourcesCurrentReply`: the modes and their names, one after the other. -/
structure ScreenResources where
  modes : List ModeInfo
  names : List UInt8
  deriving DecidableEq, Repr

/-- The answers to the requests for one slot; `none` and `false` are errors. -/
structure SlotReplies where
  /-- The slot is in `X::displays`. -/
  known : Bool
  /-- `GetCrtcInfo` of `set_display`. -/
  crtcInfo : Option CrtcInfo
  screenResources : Option ScreenResources
  /-- `CreateMode`, by the name. -/
  createMode : String → Option Nat
  addOutputMode : Nat → Bool
  /-- `SetCrtcConfig`, by position and mode; mode `0` is `Mode::none()`. -/
  setCrtcConfig : Int → Int → Nat → Bool
  /-- `GetCrtcInfo` of `get_display`, after a failure. -/
  currentCrtcInfo : Option CrtcInfo

/-- The limits `X` is initialised with. -/
structure XLimits where
  maxWidth : Nat
  maxHeight : Nat
  maxDisplayCount : Nat
  deriving DecidableEq, Repr

/-- `X::MIN_WIDTH` -/
def minWidth : Nat := 800

/-- `X::MIN_HEIGHT` -/
def minHeight : Nat := 600

/-- An `i16` as a `usize`: the sign is extended. -/
def usizeOfI16 (x : Int) : Nat := (x % 2 ^ 64).toNat

/-- `X::get_display` -/
def getDisplay (r : SlotReplies) : Option Display := do
  guard r.known
  let crtcInfo ← r.currentCrtcInfo
  return ⟨⟨⟨usizeOfI16 crtcInfo.x, usizeOfI16 crtcInfo.y⟩, ⟨crtcInfo.width, crtcInfo.height⟩⟩,
    !crtcInfo.outputs.isEmpty⟩

/-- The loop of `X::find_mode_by_name`, from an offset into the names on. -/
def findModeFrom (names : List UInt8) (target : String) : Nat → List ModeInfo → Option Nat
  | _, [] => none
  | offset, mode :: modes =>
    if offset + mode.nameLen ≤ names.length ∧
        (names.drop offset).take mode.nameLen = target.toUTF8.toList then some mode.id
    else findModeFrom names target (offset + mode.nameLen) modes

/-- `X::find_mode_by_name` -/
def findModeByName (r : SlotReplies) (target : String) : Option (Option Nat) :=
  r.screenResources.map fun sr => findModeFrom sr.names target 0 sr.modes

/-- The mode of a size: the one that has its name, or a new one. -/
def modeOfSize (r : SlotReplies) (width height : Nat) : Option Nat := do
  let name := s!"{width}x{height}"
  match ← findModeByName r name with
  | some mode => some mode
  | none => r.createMode name

/-- `X::set_display`.  What becomes of the old mode does not matter to the result. -/
def setDisplay (x : XLimits) (r : SlotReplies) (display : Display) : Option SetDisplaySuccess := do
  guard r.known
  let crtcInfo ← r.crtcInfo
  let isCrtcEnabled := !crtcInfo.outputs.isEmpty
  if !display.isEnabled && !isCrtcEnabled then return .noChange
  -- `try_into` to `u16` and `i16`
  guard (display.area.size.width < 2 ^ 16 ∧ display.area.size.height < 2 ^ 16)
  guard (display.area.origin.x < 2 ^ 15 ∧ display.area.origin.y < 2 ^ 15)
  if isCrtcEnabled && display.isEnabled && crtcInfo.width = display.area.size.width &&
      crtcInfo.height = display.area.size.height && crtcInfo.x = display.area.origin.x &&
      crtcInfo.y = display.area.origin.y then return .noChange
  if display.isEnabled then
    guard (Rect.containsRect ⟨Point.zero, ⟨x.maxWidth, x.maxHeight⟩⟩ display.area ∧
      minWidth ≤ display.area.size.width ∧ minHeight ≤ display.area.size.height)
    let mode ← modeOfSize r display.area.size.width display.area.size.height
    guard (r.addOutputMode mode)
    guard (r.setCrtcConfig display.area.origin.x display.area.origin.y mode)
    return .updated
  else
    guard (r.setCrtcConfig 0 0 0)
    return .updated

/-- What `set_displays` learns of the slots from the replies. -/
def XLimits.answers (x : XLimits) (replies : Nat → SlotReplies) : XAnswers where
  setDisplay id := setDisplay x (replies id)
  getDisplay id := getDisplay (replies id)

/-! ## Entries and slots -/

/-- An entry is about a slot: it is the request for it when that was granted, and otherwise what was
read back. -/
def Describes (x : XAnswers) (id : Nat) (requested entry : Display) : Prop :=
  ((x.setDisplay id requested).isSome ∧ entry = requested) ∨
    (x.setDisplay id requested = none ∧ x.getDisplay id = some entry)

/-- Setting the slot or reading it back succeeds. -/
def Answered (x : XAnswers) (id : Nat) (requested : Display) : Prop :=
  x.setDisplay id requested = none → x.getDisplay id ≠ none

/-- One entry per request, the entry at place `i` about slot `first + i`. -/
structure Aligned (x : XAnswers) (first : Nat) (requested final : List Display) : Prop where
  length_eq : final.length = requested.length
  describes : ∀ i d entry, requested[i]? = some d → final[i]? = some entry →
    Describes x (first + i) d entry

theorem Aligned.cons {x : XAnswers} {first : Nat} {d entry : Display}
    {requested final : List Display} (h : Describes x first d entry)
    (ht : Aligned x (first + 1) requested final) :
    Aligned x first (d :: requested) (entry :: final) where
  length_eq := by simp [ht.length_eq]
  describes := by
    intro i d' entry' hd he
    cases i with
    | zero =>
      simp only [List.getElem?_cons_zero, Option.some.injEq] at hd he
      subst hd he
      simpa using h
    | succ i =>
      rw [List.getElem?_cons_succ] at hd he
      have h' := ht.describes i d' entry' hd he
      rwa [show first + 1 + i = first + (i + 1) by omega] at h'

theorem setEach_length_le (x : XAnswers) : ∀ (first : Nat) (ds : List Display),
    (setEach x first ds).2.2.length ≤ ds.length
  | _, [] => Nat.le_refl _
  | first, d :: ds => by
    have ih := setEach_length_le x (first + 1) ds
    unfold setEach
    dsimp only
    split
    · simpa using ih
    · split
      · simpa using ih
      · exact Nat.le_succ_of_le ih

/-- Without an answer for some slot, an entry is missing. -/
theorem setEach_answered (x : XAnswers) : ∀ (first : Nat) (ds : List Display),
    (setEach x first ds).2.2.length = ds.length →
      ∀ i d, ds[i]? = some d → Answered x (first + i) d
  | _, [], _ => by simp
  | first, d :: ds, h => by
    have hle := setEach_length_le x (first + 1) ds
    have ih := setEach_answered x (first + 1) ds
    unfold setEach at h
    dsimp only at h
    have hboth : (setEach x (first + 1) ds).2.2.length = ds.length ∧ Answered x first d := by
      unfold Answered
      split at h
      · rename_i kind hs
        exact ⟨by simpa using h, fun hn => by simp [hs] at hn⟩
      · split at h
        · rename_i hg
          exact ⟨by simpa using h, fun _ => by simp [hg]⟩
        · have h' : (setEach x (first + 1) ds).2.2.length = ds.length + 1 := h
          omega
    intro i d' hd
    cases i with
    | zero =>
      simp only [List.getElem?_cons_zero, Option.some.injEq] at hd
      subst hd
      exact hboth.2
    | succ i =>
      rw [List.getElem?_cons_succ] at hd
      have h' := ih hboth.1 i d' hd
      rwa [show first + 1 + i = first + (i + 1) by omega] at h'

theorem setEach_aligned (x : XAnswers) : ∀ (first : Nat) (ds : List Display),
    (∀ i d, ds[i]? = some d → Answered x (first + i) d) →
      Aligned x first ds (setEach x first ds).2.2
  | _, [], _ => ⟨rfl, by simp⟩
  | first, d :: ds, h => by
    have ih := setEach_aligned x (first + 1) ds fun i d' hd => by
      have h' := h (i + 1) d' (by simpa using hd)
      rwa [show first + (i + 1) = first + 1 + i by omega] at h'
    have hfirst : Answered x first d := h 0 d rfl
    unfold setEach
    dsimp only
    split
    · rename_i kind hs
      exact ih.cons (Or.inl ⟨by simp [hs], rfl⟩)
    · rename_i hs
      split
      · rename_i current hg
        exact ih.cons (Or.inr ⟨hs, hg⟩)
      · rename_i hg
        exact absurd hg (hfirst hs)

/-- The result of `set_displays`, in `Ok` or in `Err`, holds the displays its loop collected. -/
theorem setResult_setDisplays (x : XAnswers) (maxDisplayCount : Nat) (requested : List Display) :
    setResult (setDisplays x maxDisplayCount requested) =
      (setEach x 0 (resizeDisplays maxDisplayCount requested)).2.2 := by
  unfold setDisplays
  split <;> simp_all [setResult]

theorem length_resizeDisplays (maxDisplayCount : Nat) (displays : List Display) :
    (resizeDisplays maxDisplayCount displays).length = maxDisplayCount := by
  simp only [resizeDisplays, List.length_append, List.length_take, List.length_replicate]
  omega

/-- **The reported displays match the slots exactly when every slot is answered for.** -/
theorem aligned_iff (x : XAnswers) (maxDisplayCount : Nat) (requested : List Display) :
    Aligned x 0 (resizeDisplays maxDisplayCount requested)
        (setResult (setDisplays x maxDisplayCount requested)) ↔
      ∀ i d, (resizeDisplays maxDisplayCount requested)[i]? = some d → Answered x i d := by
  rw [setResult_setDisplays]
  constructor
  · intro h i d hd
    simpa using setEach_answered x 0 _ h.length_eq i d hd
  · intro h
    exact setEach_aligned x 0 _ fun i d hd => by simpa using h i d hd

/-- The display config task counts the displays of the announced configuration. -/
theorem length_announced {displays : List Display} {encoders : Nat} {areas : List (List Box2D)}
    (h : partitionDisplays displays encoders = some (.ok areas)) :
    (displays.zip areas).length = displays.length := by
  rcases partitionDisplays_spec displays encoders with ⟨-, -, areas', ha, hlen⟩ | ⟨-, e, he⟩
  · rw [ha] at h
    cases h
    rw [List.length_zip, hlen, Nat.min_self]
  · rw [he] at h
    cases h

/-- **`set_displays` reports one entry per display slot, at its place, exactly when no slot fails
both to be set and to be read back**; the display config task then counts the displays right. -/
theorem setDisplays_aligned_iff (x : XLimits) (replies : Nat → SlotReplies)
    (requested : List Display) :
    (Aligned (x.answers replies) 0 (resizeDisplays x.maxDisplayCount requested)
        (setResult (setDisplays (x.answers replies) x.maxDisplayCount requested)) ∧
      (setResult (setDisplays (x.answers replies) x.maxDisplayCount requested)).length =
        x.maxDisplayCount ∧
      ∀ encoders areas configId, partitionDisplays
          (setResult (setDisplays (x.answers replies) x.maxDisplayCount requested)) encoders =
            some (.ok areas) →
        (Layout.displays ⟨configId, (setResult
          (setDisplays (x.answers replies) x.maxDisplayCount requested)).zip areas⟩).length =
            x.maxDisplayCount) ↔
      ∀ i d, (resizeDisplays x.maxDisplayCount requested)[i]? = some d →
        setDisplay x (replies i) d = none → getDisplay (replies i) ≠ none := by
  have hiff := aligned_iff (x.answers replies) x.maxDisplayCount requested
  constructor
  · intro h
    exact hiff.mp h.1
  · intro h
    have hal := hiff.mpr h
    have hlen := hal.length_eq
    rw [length_resizeDisplays] at hlen
    refine ⟨hal, hlen, ?_⟩
    intro encoders areas configId ha
    exact (length_announced ha).trans hlen

/-- The CRTC of the first of two slots is gone, and both displays are to be disabled: the one entry
that is left, for slot one, stands at the place of slot zero. -/
theorem setDisplays_shifted :
    let replies : Nat → SlotReplies := fun id =>
      { known := true, crtcInfo := if id = 0 then none else some ⟨0, 0, 0, 0, 0, []⟩,
        screenResources := none, createMode := fun _ => none, addOutputMode := fun _ => false,
        setCrtcConfig := fun _ _ _ => false, currentCrtcInfo := none }
    let requested : List Display :=
      [⟨⟨⟨0, 0⟩, ⟨800, 600⟩⟩, false⟩, ⟨⟨⟨800, 0⟩, ⟨800, 600⟩⟩, false⟩]
    let x : XLimits := ⟨3840, 2160, 2⟩
    setResult (setDisplays (x.answers replies) 2 requested) =
        [⟨⟨⟨800, 0⟩, ⟨800, 600⟩⟩, false⟩] ∧
      ¬ Aligned (x.answers replies) 0 (resizeDisplays 2 requested)
        (setResult (setDisplays (x.answers replies) 2 requested)) := by
  intro replies requested x
  have h : setResult (setDisplays (x.answers replies) 2 requested) =
      [⟨⟨⟨800, 0⟩, ⟨800, 600⟩⟩, false⟩] := by decide
  refine ⟨h, fun hal => ?_⟩
  have hlen := hal.length_eq
  rw [h, length_resizeDisplays] at hlen
  simp at hlen

end ApertureC
