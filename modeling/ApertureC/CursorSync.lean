import ApertureC.ClientWorkers

/-!
# The cursor, from the server's backend task to the client's primary thread

The server (`aperturec-server/src/task/backend.rs`) answers a notification that the cursor changed
with the image of the cursor, or with its id when the image has been sent; the client
(`aperturec-client/src/channels/event.rs`) keeps the images and looks up the ids.

* `cursorMessage`, `handleCursor`, `backendRun` — the server's branch for a notification, its cache
  of ids by serial and its suppression of repeats; the hasher is a parameter.
* `EcMain.receive`, `ecMain` — the client's messages one after another, with what each hands to the
  primary thread.
* `CursorsSent` — what the backend task has sent, against its cache.

Principal results: `cursorMessage_cases` (every way to answer a notification) and
`cursorChange_preceded` (an id is sent only after its image, so the client has it).
-/

set_option autoImplicit false

namespace ApertureC

open Geometry

/-! ## The server -/

/-- `backend::CursorImage`. -/
structure Backend.CursorImage where
  serial : Nat
  width : Nat
  height : Nat
  xHot : Nat
  yHot : Nat
  data : List UInt8
  deriving DecidableEq, Repr

/-- What `Hash for CursorImage` feeds to the hasher: everything but the serial. -/
structure CursorContent where
  width : Nat
  height : Nat
  xHot : Nat
  yHot : Nat
  data : List UInt8
  deriving DecidableEq, Repr

def Backend.CursorImage.content (image : Backend.CursorImage) : CursorContent :=
  ⟨image.width, image.height, image.xHot, image.yHot, image.data⟩

/-- `em::CursorImage { id, width, height, x_hot, y_hot, data }`. -/
def CursorContent.toMessage (id : Nat) (c : CursorContent) : CursorImage :=
  ⟨id, c.width, c.height, c.xHot, c.yHot, c.data⟩

/-- The ids of the images by their serials. -/
abbrev CursorIds := Std.ExtTreeMap Nat Nat

structure CursorVars where
  cursorCache : CursorIds
  lastCursorId : Nat

/-- The id and the message of a captured image, and the cache afterwards. -/
def capturedMessage (hash : CursorContent → Nat) (cache : CursorIds) (serial : Nat)
    (image : Backend.CursorImage) : (Nat × EventMessage) × CursorIds :=
  match if serial ≠ image.serial then cache[image.serial]? else none with
  | some id => ((id, .cursorChange id), cache)
  | none =>
    let id := hash image.content
    if cache.toList.any fun e => e.2 == id then
      ((id, .cursorChange id), cache.insert image.serial id)
    else ((id, .cursorImage (image.content.toMessage id)), cache.insert image.serial id)

/-- The id and the message that answer a notification; `capture` is what `capture_cursor` returns
when it is called, and a failed capture answers nothing. -/
def cursorMessage (hash : CursorContent → Nat) (cache : CursorIds) (serial : Nat)
    (capture : Except String Backend.CursorImage) : Option (Nat × EventMessage) × CursorIds :=
  match cache[serial]? with
  | some id => (some (id, .cursorChange id), cache)
  | none =>
    match capture with
    | .error _ => (none, cache)
    | .ok image =>
      (some (capturedMessage hash cache serial image).1, (capturedMessage hash cache serial image).2)

/-- The branch of the select for a notification: the id that was sent last is not sent again. -/
def handleCursor (hash : CursorContent → Nat) (v : CursorVars) (serial : Nat)
    (capture : Except String Backend.CursorImage) : CursorVars × List EventMessage :=
  match cursorMessage hash v.cursorCache serial capture with
  | (none, cache) => ({ v with cursorCache := cache }, [])
  | (some (id, msg), cache) =>
    if id ≠ v.lastCursorId then (⟨cache, id⟩, [msg])
    else ({ v with cursorCache := cache }, [])

/-- What the backend task sends events for. -/
inductive BackendInput where
  | cursorChange (serial : Nat) (capture : Except String Backend.CursorImage)
  | display (dc : Proto.DisplayConfiguration)

structure BackendRun where
  vars : CursorVars
  /-- The messages sent on `event_tx`. -/
  sent : List EventMessage

namespace BackendRun

def start : BackendRun := ⟨⟨∅, 0⟩, []⟩

def step (hash : CursorContent → Nat) (s : BackendRun) : BackendInput → BackendRun
  | .cursorChange serial capture =>
    ⟨(handleCursor hash s.vars serial capture).1,
      s.sent ++ (handleCursor hash s.vars serial capture).2⟩
  | .display dc => { s with sent := s.sent ++ [.displayConfiguration dc] }

end BackendRun

def backendRun (hash : CursorContent → Nat) (inputs : List BackendInput) : BackendRun :=
  inputs.foldl (BackendRun.step hash) .start

theorem backendRun_concat (hash : CursorContent → Nat) (inputs : List BackendInput)
    (i : BackendInput) :
    backendRun hash (inputs ++ [i]) = (backendRun hash inputs).step hash i := by
  rw [backendRun, List.foldl_append]
  rfl

/-- The images that were captured. -/
def BackendInput.captured : BackendInput → List CursorContent
  | .cursorChange _ (.ok image) => [image.content]
  | _ => []

def captured (inputs : List BackendInput) : List CursorContent :=
  inputs.flatMap BackendInput.captured

/-- Some serial has the id. -/
def HasId (cache : CursorIds) (id : Nat) : Prop :=
  ∃ serial : Nat, cache[serial]? = some id

theorem any_iff_hasId (cache : CursorIds) (id : Nat) :
    (cache.toList.any fun e => e.2 == id) = true ↔ HasId cache id := by
  rw [List.any_eq_true]
  constructor
  · rintro ⟨⟨serial, id'⟩, hmem, heq⟩
    rw [Std.ExtTreeMap.mem_toList_iff_getElem?_eq_some] at hmem
    rw [beq_iff_eq] at heq
    exact ⟨serial, heq ▸ hmem⟩
  · rintro ⟨serial, h⟩
    exact ⟨(serial, id), Std.ExtTreeMap.mem_toList_iff_getElem?_eq_some.mpr h, beq_self_eq_true id⟩

/-- **Every way to answer a notification.** -/
theorem cursorMessage_cases (hash : CursorContent → Nat) (cache : CursorIds) (serial : Nat)
    (capture : Except String Backend.CursorImage) :
    (∃ id, cache[serial]? = some id ∧
      cursorMessage hash cache serial capture = (some (id, .cursorChange id), cache)) ∨
    (∃ e, cache[serial]? = none ∧ capture = .error e ∧
      cursorMessage hash cache serial capture = (none, cache)) ∨
    ∃ image, cache[serial]? = none ∧ capture = .ok image ∧
      ((∃ id, cache[image.serial]? = some id ∧
        cursorMessage hash cache serial capture = (some (id, .cursorChange id), cache)) ∨
      (cache[image.serial]? = none ∧ HasId cache (hash image.content) ∧
        cursorMessage hash cache serial capture =
          (some (hash image.content, .cursorChange (hash image.content)),
            cache.insert image.serial (hash image.content))) ∨
      (cache[image.serial]? = none ∧ ¬ HasId cache (hash image.content) ∧
        cursorMessage hash cache serial capture =
          (some (hash image.content, .cursorImage (image.content.toMessage (hash image.content))),
            cache.insert image.serial (hash image.content)))) := by
  unfold cursorMessage
  cases hserial : cache[serial]? with
  | some id => exact Or.inl ⟨id, rfl, rfl⟩
  | none =>
    cases capture with
    | error e => exact Or.inr (Or.inl ⟨e, rfl, rfl, rfl⟩)
    | ok image =>
      refine Or.inr (Or.inr ⟨image, rfl, rfl, ?_⟩)
      have hlookup : (if serial ≠ image.serial then cache[image.serial]? else none) =
          cache[image.serial]? := by
        by_cases heq : serial = image.serial
        · rw [if_neg (not_not.mpr heq), ← heq, hserial]
        · rw [if_pos heq]
      simp only [capturedMessage, hlookup]
      cases himage : cache[image.serial]? with
      | some id => exact Or.inl ⟨id, rfl, rfl⟩
      | none =>
        refine Or.inr ?_
        by_cases hid : HasId cache (hash image.content)
        · refine Or.inl ⟨rfl, hid, ?_⟩
          simp only [if_pos ((any_iff_hasId cache _).mpr hid)]
        · refine Or.inr ⟨rfl, hid, ?_⟩
          simp only [if_neg (mt (any_iff_hasId cache _).mp hid)]

/-! ## The client -/

/-- `ec-main`: the cache of the images, and what was handed to the primary thread, each with the
message it answers. -/
structure EcMain where
  cache : CursorCache
  out : List (EventMessage × EventPtn)

namespace EcMain

def start : EcMain := ⟨∅, []⟩

def receive (s : EcMain) (msg : EventMessage) : EcMain :=
  ⟨(onEventMessage s.cache msg).1, s.out ++ (onEventMessage s.cache msg).2.map fun n => (msg, n)⟩

/-- A cursor that is handed over, with its id. -/
def cursorOf : EventMessage × EventPtn → Option (Nat × Cursor)
  | (.cursorChange id, .cursor c) => some (id, c)
  | _ => none

/-- The last cursor handed to the primary thread. -/
def lastCursor (s : EcMain) : Option (Nat × Cursor) := (s.out.filterMap cursorOf).getLast?

end EcMain

def ecMain (msgs : List EventMessage) : EcMain := msgs.foldl EcMain.receive .start

theorem ecMain_concat (msgs : List EventMessage) (msg : EventMessage) :
    ecMain (msgs ++ [msg]) = (ecMain msgs).receive msg := by
  rw [ecMain, List.foldl_append]
  rfl

theorem EcMain.receive_display (s : EcMain) (dc : Proto.DisplayConfiguration) :
    (s.receive (.displayConfiguration dc)).cache = s.cache ∧
      (s.receive (.displayConfiguration dc)).lastCursor = s.lastCursor := by
  unfold receive lastCursor onEventMessage
  simp only
  split
  · refine ⟨rfl, ?_⟩
    rw [List.filterMap_append]
    simp [cursorOf]
  · exact ⟨rfl, by simp⟩

theorem EcMain.receive_image (s : EcMain) (ci : CursorImage) :
    (∀ id, (s.receive (.cursorImage ci)).cache[id]? =
      if id = ci.id ∧ (Cursor.tryFrom ci).isOk = true then (Cursor.tryFrom ci).toOption
      else s.cache[id]?) ∧
      (s.receive (.cursorImage ci)).lastCursor = s.lastCursor := by
  unfold receive lastCursor onEventMessage
  simp only
  cases hok : Cursor.tryFrom ci with
  | ok cursor =>
    refine ⟨fun id => ?_, by simp⟩
    simp only [Std.ExtTreeMap.getElem?_insert, Nat.compare_eq_eq]
    by_cases hid : ci.id = id
    · rw [if_pos hid, if_pos ⟨hid.symm, rfl⟩]
      rfl
    · rw [if_neg hid, if_neg fun h => hid h.1.symm]
  | error e =>
    refine ⟨fun id => ?_, by simp⟩
    rw [if_neg fun h => by cases h.2]

theorem EcMain.receive_change (s : EcMain) (id : Nat) :
    (s.receive (.cursorChange id)).cache = s.cache ∧
      (s.receive (.cursorChange id)).lastCursor =
        (s.cache[id]?.map fun c => (id, c)).or s.lastCursor := by
  unfold receive lastCursor onEventMessage
  simp only
  cases hc : s.cache[id]? with
  | some cursor => exact ⟨rfl, by simp [List.filterMap_append, cursorOf]⟩
  | none => exact ⟨rfl, by simp⟩

/-! ## An id is sent only after its image -/

/-- What the backend task has sent, against its cache. -/
structure CursorsSent (s : BackendRun) : Prop where
  cached : ∀ id, HasId s.vars.cursorCache id →
    ∃ ci, EventMessage.cursorImage ci ∈ s.sent ∧ ci.id = id
  last : s.vars.lastCursorId = 0 ∨ HasId s.vars.cursorCache s.vars.lastCursorId
  preceded : ∀ pre id post, s.sent = pre ++ .cursorChange id :: post →
    ∃ ci, EventMessage.cursorImage ci ∈ pre ∧ ci.id = id

theorem hasId_insert {cache : CursorIds} {serial id : Nat} (h : cache[serial]? = none) (id' : Nat) :
    HasId (cache.insert serial id) id' ↔ id' = id ∨ HasId cache id' := by
  unfold HasId
  simp only [Std.ExtTreeMap.getElem?_insert, Nat.compare_eq_eq]
  constructor
  · rintro ⟨serial', hs⟩
    split at hs
    · cases hs
      exact Or.inl rfl
    · exact Or.inr ⟨serial', hs⟩
  · rintro (heq | ⟨serial', hs⟩)
    · exact ⟨serial, by rw [if_pos rfl, heq]⟩
    · refine ⟨serial', ?_⟩
      rw [if_neg, hs]
      intro heq
      rw [heq, hs] at h
      cases h

/-- Where a message list with one message more is cut. -/
theorem concat_eq_append_cons {α : Type} {l pre post : List α} {a b : α}
    (h : l ++ [a] = pre ++ b :: post) :
    (∃ post', l = pre ++ b :: post') ∨ (pre = l ∧ a = b) := by
  rcases List.eq_nil_or_concat post with hpost | ⟨post', c, hpost⟩
  · rw [hpost] at h
    obtain ⟨h₁, h₂⟩ := List.append_inj' h rfl
    exact Or.inr ⟨h₁.symm, by simpa using h₂⟩
  · rw [hpost, List.concat_eq_append, ← List.cons_append, ← List.append_assoc] at h
    exact Or.inl ⟨post', (List.append_inj' h rfl).1⟩

/-- A message that is no change of the cursor may follow anything. -/
theorem CursorsSent.append {s : BackendRun} (h : CursorsSent s) {msg : EventMessage}
    (hmsg : ∀ id, msg = .cursorChange id → HasId s.vars.cursorCache id) :
    ∀ pre id post, s.sent ++ [msg] = pre ++ .cursorChange id :: post →
      ∃ ci, EventMessage.cursorImage ci ∈ pre ∧ ci.id = id := by
  intro pre id post heq
  rcases concat_eq_append_cons heq with ⟨post', hsent⟩ | ⟨hpre, hlast⟩
  · exact h.preceded pre id post' hsent
  · rw [hpre]
    exact h.cached id (hmsg id hlast)

/-- An id that is in the cache, or that comes with its image, may be sent. -/
theorem CursorsSent.send {s : BackendRun} (h : CursorsSent s) {cache : CursorIds} {id : Nat}
    {msg : EventMessage} (hcache : ∀ id', HasId cache id' ↔ id' = id ∨ HasId s.vars.cursorCache id')
    (hmsg : msg = .cursorChange id ∧ HasId s.vars.cursorCache id ∨
      ∃ ci, msg = .cursorImage ci ∧ ci.id = id) :
    CursorsSent ⟨⟨cache, id⟩, s.sent ++ [msg]⟩ := by
  have hold : ∀ id', HasId s.vars.cursorCache id' →
      ∃ ci, EventMessage.cursorImage ci ∈ s.sent ++ [msg] ∧ ci.id = id' := by
    intro id' hid
    obtain ⟨ci, hci, heq⟩ := h.cached id' hid
    exact ⟨ci, List.mem_append_left _ hci, heq⟩
  refine ⟨fun id' hid => ?_, Or.inr ((hcache id).mpr (Or.inl rfl)), h.append fun id' heq => ?_⟩
  · rcases (hcache id').mp hid with heq | hid
    · rcases hmsg with ⟨-, hid⟩ | ⟨ci, heq', hci⟩
      · exact hold id' (heq ▸ hid)
      · refine ⟨ci, ?_, hci.trans heq.symm⟩
        rw [heq']
        exact List.mem_append_right _ List.mem_cons_self
    · exact hold id' hid
  · rcases hmsg with ⟨hm, hid⟩ | ⟨ci, hm, -⟩
    · rw [hm] at heq
      cases heq
      exact hid
    · rw [hm] at heq
      cases heq

theorem hasId_same {cache : CursorIds} {id : Nat} (h : HasId cache id) (id' : Nat) :
    HasId cache id' ↔ id' = id ∨ HasId cache id' := by
  constructor
  · exact Or.inr
  · rintro (heq | hid)
    · rw [heq]
      exact h
    · exact hid

/-- An id of the cache: its message goes out unless it is the last one sent. -/
theorem CursorsSent.known {hash : CursorContent → Nat} {s : BackendRun} (h : CursorsSent s)
    {serial : Nat} {capture : Except String Backend.CursorImage} {id : Nat} {cache : CursorIds}
    (hcache : ∀ id', HasId cache id' ↔ id' = id ∨ HasId s.vars.cursorCache id')
    (hid : HasId s.vars.cursorCache id)
    (hmsg : cursorMessage hash s.vars.cursorCache serial capture =
      (some (id, .cursorChange id), cache)) :
    CursorsSent (s.step hash (.cursorChange serial capture)) := by
  rw [BackendRun.step, handleCursor, hmsg]
  simp only
  split
  · exact h.send hcache (Or.inl ⟨rfl, hid⟩)
  · refine ⟨fun id' hid' => ?_, ?_, ?_⟩
    · rw [List.append_nil]
      rcases (hcache id').mp hid' with heq | hid'
      · exact h.cached id' (heq ▸ hid)
      · exact h.cached id' hid'
    · exact h.last.imp (fun hl => hl) fun hl => (hcache _).mpr (Or.inr hl)
    · rw [List.append_nil]
      exact h.preceded

/-- A new id is neither zero nor in the cache, so it is not the last one sent. -/
theorem CursorsSent.ne_last {s : BackendRun} (h : CursorsSent s) {id : Nat} (hzero : id ≠ 0)
    (hid : ¬ HasId s.vars.cursorCache id) : id ≠ s.vars.lastCursorId := by
  intro heq
  rcases h.last with hl | hl
  · exact hzero (heq.trans hl)
  · apply hid
    rw [heq]
    exact hl

/-- **One input keeps the invariant**, when the image it captures does not hash to zero. -/
theorem CursorsSent.step {hash : CursorContent → Nat} {s : BackendRun} (h : CursorsSent s)
    {i : BackendInput} (hne : ∀ c ∈ i.captured, hash c ≠ 0) : CursorsSent (s.step hash i) := by
  cases i with
  | display dc =>
    refine ⟨fun id hid => ?_, h.last, h.append (fun id heq => nomatch heq)⟩
    obtain ⟨ci, hci, heq⟩ := h.cached id hid
    exact ⟨ci, List.mem_append_left _ hci, heq⟩
  | cursorChange serial capture =>
    rcases cursorMessage_cases hash s.vars.cursorCache serial capture with
      ⟨id, hlookup, hmsg⟩ | ⟨e, -, -, hmsg⟩ | ⟨image, -, hcapture, hrest⟩
    · have hid : HasId s.vars.cursorCache id := ⟨serial, hlookup⟩
      exact h.known (hasId_same hid) hid hmsg
    · rw [BackendRun.step, handleCursor, hmsg]
      simp only [List.append_nil]
      exact h
    · rcases hrest with ⟨id, hlookup, hmsg⟩ | ⟨hnone, hid, hmsg⟩ | ⟨hnone, hid, hmsg⟩
      · have hid : HasId s.vars.cursorCache id := ⟨image.serial, hlookup⟩
        exact h.known (hasId_same hid) hid hmsg
      · exact h.known (hasId_insert hnone) hid hmsg
      · have hzero : hash image.content ≠ 0 := by
          apply hne
          rw [hcapture]
          exact List.mem_cons_self
        rw [BackendRun.step, handleCursor, hmsg]
        simp only
        rw [if_pos (h.ne_last hzero hid)]
        exact h.send (hasId_insert hnone) (Or.inr ⟨_, rfl, rfl⟩)

theorem cursorsSent_run {hash : CursorContent → Nat} {inputs : List BackendInput}
    (hne : ∀ c ∈ captured inputs, hash c ≠ 0) : CursorsSent (backendRun hash inputs) := by
  induction inputs using List.reverseRecOn with
  | nil =>
    refine ⟨fun id hid => ?_, Or.inl rfl, fun pre id post heq => ?_⟩
    · obtain ⟨serial, hs⟩ := hid
      simp [backendRun, BackendRun.start] at hs
    · cases pre <;> cases heq
  | append_singleton inputs i ih =>
    rw [captured, List.flatMap_append] at hne
    rw [backendRun_concat]
    apply (ih fun c hc => hne c (List.mem_append_left _ hc)).step
    intro c hc
    apply hne c
    exact List.mem_append_right _ (by simpa using hc)

/-- The client has every image that converts. -/
theorem ecMain_cached {msgs : List EventMessage} {ci : CursorImage}
    (h : EventMessage.cursorImage ci ∈ msgs) (hok : (Cursor.tryFrom ci).isOk = true) :
    (ecMain msgs).cache[ci.id]?.isSome = true := by
  induction msgs using List.reverseRecOn with
  | nil => cases h
  | append_singleton msgs msg ih =>
    rw [ecMain_concat]
    have hold : EventMessage.cursorImage ci ∈ msgs → (ecMain msgs).cache[ci.id]?.isSome = true := ih
    cases msg with
    | displayConfiguration dc =>
      rw [((ecMain msgs).receive_display dc).1]
      exact hold (by simpa using h)
    | cursorChange id =>
      rw [((ecMain msgs).receive_change id).1]
      exact hold (by simpa using h)
    | cursorImage ci' =>
      rw [((ecMain msgs).receive_image ci').1]
      by_cases hid : ci.id = ci'.id ∧ (Cursor.tryFrom ci').isOk = true
      · rw [if_pos hid]
        cases hc : Cursor.tryFrom ci' with
        | ok cursor => rfl
        | error e =>
          rw [hc] at hid
          cases hid.2
      · rw [if_neg hid]
        rcases List.mem_append.mp h with h | h
        · exact hold h
        · cases List.mem_singleton.mp h
          exact absurd ⟨rfl, hok⟩ hid

/-- **A change of the cursor always refers to an image the client has**: its image was sent before,
and when all images convert, the client's lookup finds it. -/
theorem cursorChange_preceded (hash : CursorContent → Nat) (inputs : List BackendInput)
    (hne : ∀ c ∈ captured inputs, hash c ≠ 0) (pre : List EventMessage) (id : Nat)
    (post : List EventMessage)
    (hsent : (backendRun hash inputs).sent = pre ++ .cursorChange id :: post) :
    (∃ ci, EventMessage.cursorImage ci ∈ pre ∧ ci.id = id) ∧
      ((∀ ci, EventMessage.cursorImage ci ∈ (backendRun hash inputs).sent →
        (Cursor.tryFrom ci).isOk = true) → (ecMain pre).cache[id]?.isSome = true) := by
  obtain ⟨ci, hci, heq⟩ := (cursorsSent_run hne).preceded pre id post hsent
  refine ⟨⟨ci, hci, heq⟩, fun hok => ?_⟩
  rw [← heq]
  apply ecMain_cached hci
  apply hok
  rw [hsent]
  exact List.mem_append_left _ hci

/-- An image of one pixel. -/
def pixelCursor (serial : Nat) (value : UInt8) : Backend.CursorImage :=
  ⟨serial, 1, 1, 0, 0, [value, value, value, 255]⟩

/-- A hasher that tells the images of one pixel apart. -/
def firstByte (c : CursorContent) : Nat := c.data.head?.elim 1 fun b => b.toNat + 1

/-- Serials 5 and 6 have different images, and the notification for serial 7 captures the image of
serial 5 again. -/
theorem cursorChange_preceded_three :
    (∃ ci, EventMessage.cursorImage ci ∈
        [EventMessage.cursorImage ((pixelCursor 5 0).content.toMessage 1),
          .cursorImage ((pixelCursor 6 1).content.toMessage 2)] ∧ ci.id = 1) ∧
      ((∀ ci, EventMessage.cursorImage ci ∈ (backendRun firstByte
          [.cursorChange 5 (.ok (pixelCursor 5 0)), .cursorChange 6 (.ok (pixelCursor 6 1)),
            .cursorChange 7 (.ok (pixelCursor 5 0))]).sent → (Cursor.tryFrom ci).isOk = true) →
        (ecMain [EventMessage.cursorImage ((pixelCursor 5 0).content.toMessage 1),
          .cursorImage ((pixelCursor 6 1).content.toMessage 2)]).cache[1]?.isSome = true) :=
  cursorChange_preceded firstByte
    [.cursorChange 5 (.ok (pixelCursor 5 0)), .cursorChange 6 (.ok (pixelCursor 6 1)),
      .cursorChange 7 (.ok (pixelCursor 5 0))] (by decide) _ 1 [] (by decide +kernel)

end ApertureC
