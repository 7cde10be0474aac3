import ApertureC.CursorSync

/-!
# The cursor the client shows

Both sides together, over every sequence of notifications and captures.

* `Designation`, `designated` — the images that the notifications make current, one after another,
  from the serials alone.
* `ShowsCurrent` — when a cursor message was sent, the last cursor handed to the primary thread is
  the image whose id is the server's `last_cursor_id`.
* `Reselected` — an image is current, and it was current before another one was.

Principal result: `showsCurrent_iff`.  An image that becomes current for the first time is sent
without a change of the cursor, so the client stores it and shows it only when it becomes current
again.
-/

set_option autoImplicit false

namespace ApertureC

/-! ## Images by serial -/

/-- The images known by their serials, and the images made current so far. -/
structure Designation where
  known : List (Nat × CursorContent)
  images : List CursorContent

namespace Designation

/-- The image of a notification is the one known by its serial; otherwise one is captured, and that
is the one known by the serial of the capture or a new one. -/
def step (d : Designation) : BackendInput → Designation
  | .display _ => d
  | .cursorChange serial capture =>
    match d.known.lookup serial with
    | some c => { d with images := d.images ++ [c] }
    | none =>
      match capture with
      | .error _ => d
      | .ok image =>
        match d.known.lookup image.serial with
        | some c => { d with images := d.images ++ [c] }
        | none => ⟨(image.serial, image.content) :: d.known, d.images ++ [image.content]⟩

/-- The images made current are those that are known. -/
structure WF (d : Designation) : Prop where
  known : ∀ serial c, d.known.lookup serial = some c → c ∈ d.images
  images : ∀ c ∈ d.images, ∃ serial, d.known.lookup serial = some c

end Designation

def designation (inputs : List BackendInput) : Designation := inputs.foldl Designation.step ⟨[], []⟩

/-- The images the notifications make current, in order. -/
def designated (inputs : List BackendInput) : List CursorContent := (designation inputs).images

theorem designation_concat (inputs : List BackendInput) (i : BackendInput) :
    designation (inputs ++ [i]) = (designation inputs).step i := by
  rw [designation, List.foldl_append]
  rfl

/-- The server's cache has the id of every known image. -/
def Designation.Cached (hash : CursorContent → Nat) (d : Designation) (cache : CursorIds) : Prop :=
  ∀ serial : Nat, cache[serial]? = (d.known.lookup serial).map hash

theorem Designation.Cached.some {hash : CursorContent → Nat} {d : Designation} {cache : CursorIds}
    (h : d.Cached hash cache) (hwf : d.WF) {serial id : Nat} (hs : cache[serial]? = some id) :
    ∃ c, d.known.lookup serial = .some c ∧ hash c = id ∧ c ∈ d.images := by
  rw [h serial, Option.map_eq_some_iff] at hs
  obtain ⟨c, hc, heq⟩ := hs
  exact ⟨c, hc, heq, hwf.known serial c hc⟩

theorem Designation.Cached.none {hash : CursorContent → Nat} {d : Designation} {cache : CursorIds}
    (h : d.Cached hash cache) {serial : Nat} (hs : cache[serial]? = none) :
    d.known.lookup serial = .none := by
  rw [h serial, Option.map_eq_none_iff] at hs
  exact hs

theorem Designation.Cached.hasId {hash : CursorContent → Nat} {d : Designation} {cache : CursorIds}
    (h : d.Cached hash cache) (hwf : d.WF) (id : Nat) :
    HasId cache id ↔ ∃ c ∈ d.images, hash c = id := by
  constructor
  · rintro ⟨serial, hs⟩
    obtain ⟨c, -, heq, hc⟩ := h.some hwf hs
    exact ⟨c, hc, heq⟩
  · rintro ⟨c, hc, heq⟩
    obtain ⟨serial, hs⟩ := hwf.images c hc
    exact ⟨serial, by rw [h serial, hs, Option.map_some, heq]⟩

/-- The message for an image that becomes current: its id when it is known, else the image. -/
def newsOf (hash : CursorContent → Nat) (images : List CursorContent) (c : CursorContent) :
    EventMessage :=
  if c ∈ images then .cursorChange (hash c) else .cursorImage (c.toMessage (hash c))

/-- A known image becomes current once more. -/
theorem Designation.WF.again {d : Designation} (h : d.WF) {c : CursorContent} (hc : c ∈ d.images) :
    Designation.WF { d with images := d.images ++ [c] } := by
  refine ⟨fun serial c' hs => List.mem_append_left _ (h.known serial c' hs), fun c' hc' => ?_⟩
  rcases List.mem_append.mp hc' with hc' | hc'
  · exact h.images c' hc'
  · rw [List.mem_singleton.mp hc']
    exact h.images c hc

/-- A new image becomes known and current. -/
theorem Designation.WF.learn {d : Designation} (h : d.WF) {serial : Nat}
    (hnone : d.known.lookup serial = none) (c : CursorContent) :
    Designation.WF ⟨(serial, c) :: d.known, d.images ++ [c]⟩ := by
  refine ⟨fun serial' c' hs => ?_, fun c' hc' => ?_⟩
  · rw [List.lookup_cons] at hs
    split at hs
    · cases hs
      exact List.mem_append_right _ List.mem_cons_self
    · exact List.mem_append_left _ (h.known serial' c' hs)
  · rcases List.mem_append.mp hc' with hc' | hc'
    · obtain ⟨serial', hs⟩ := h.images c' hc'
      refine ⟨serial', ?_⟩
      rw [List.lookup_cons]
      split
      · rename_i heq
        rw [beq_iff_eq] at heq
        rw [heq, hnone] at hs
        cases hs
      · exact hs
    · rw [List.mem_singleton.mp hc']
      exact ⟨serial, by simp⟩

theorem Designation.Cached.learn {hash : CursorContent → Nat} {d : Designation} {cache : CursorIds}
    (h : d.Cached hash cache) (serial : Nat) (c : CursorContent) (images : List CursorContent) :
    Designation.Cached hash ⟨(serial, c) :: d.known, images⟩ (cache.insert serial (hash c)) := by
  intro serial'
  rw [Std.ExtTreeMap.getElem?_insert, List.lookup_cons]
  by_cases heq : serial = serial'
  · rw [if_pos (Nat.compare_eq_eq.mpr heq), heq]
    simp
  · rw [if_neg (mt Nat.compare_eq_eq.mp heq), h serial']
    have hne : (serial' == serial) = false := by
      rw [beq_eq_false_iff_ne]
      exact fun h => heq h.symm
    rw [hne]

/-- **The server answers a notification with the image it designates**: with its id when it was
designated before, else with the image itself; a failed capture designates nothing. -/
theorem cursorMessage_designates {hash : CursorContent → Nat} {d : Designation}
    {cache : CursorIds} (hwf : d.WF) (hcached : d.Cached hash cache) (serial : Nat)
    (capture : Except String Backend.CursorImage)
    (hinj : ∀ c ∈ d.images, ∀ image, capture = .ok image → hash image.content = hash c →
      image.content = c) :
    ((d.step (.cursorChange serial capture)) = d ∧
      cursorMessage hash cache serial capture = (none, cache)) ∨
    ∃ c cache', (d.step (.cursorChange serial capture)).images = d.images ++ [c] ∧
      (c ∈ d.images ∨ ∃ image, capture = .ok image ∧ image.content = c) ∧
      cursorMessage hash cache serial capture = (some (hash c, newsOf hash d.images c), cache') ∧
      (d.step (.cursorChange serial capture)).WF ∧
      (d.step (.cursorChange serial capture)).Cached hash cache' := by
  have hagain : ∀ {c : CursorContent}, c ∈ d.images →
      newsOf hash d.images c = .cursorChange (hash c) := fun hc => if_pos hc
  rcases cursorMessage_cases hash cache serial capture with
    ⟨id, hlookup, hmsg⟩ | ⟨e, hlookup, hcapture, hmsg⟩ | ⟨image, hlookup, hcapture, hrest⟩
  · obtain ⟨c, hc, rfl, hmem⟩ := hcached.some hwf hlookup
    have hstep : d.step (.cursorChange serial capture) = { d with images := d.images ++ [c] } := by
      simp only [Designation.step, hc]
    rw [← hagain hmem] at hmsg
    rw [hstep]
    exact Or.inr ⟨c, cache, rfl, Or.inl hmem, hmsg, hwf.again hmem, hcached⟩
  · refine Or.inl ⟨?_, hmsg⟩
    simp only [Designation.step, hcached.none hlookup, hcapture]
  · rcases hrest with ⟨id, himage, hmsg⟩ | ⟨himage, hid, hmsg⟩ | ⟨himage, hid, hmsg⟩
    · obtain ⟨c, hc, rfl, hmem⟩ := hcached.some hwf himage
      have hstep : d.step (.cursorChange serial capture) =
          { d with images := d.images ++ [c] } := by
        simp only [Designation.step, hcached.none hlookup, hcapture, hc]
      rw [← hagain hmem] at hmsg
      rw [hstep]
      exact Or.inr ⟨c, cache, rfl, Or.inl hmem, hmsg, hwf.again hmem, hcached⟩
    · -- the image has the id of a known image, so it is that image
      have hstep : d.step (.cursorChange serial capture) =
          ⟨(image.serial, image.content) :: d.known, d.images ++ [image.content]⟩ := by
        simp only [Designation.step, hcached.none hlookup, hcapture, hcached.none himage]
      obtain ⟨c, hmem, heq⟩ := (hcached.hasId hwf _).mp hid
      rw [← hinj c hmem image hcapture heq.symm] at hmem
      rw [← hagain hmem] at hmsg
      rw [hstep]
      exact Or.inr ⟨image.content, _, rfl, Or.inl hmem, hmsg, hwf.learn (hcached.none himage) _,
        hcached.learn _ _ _⟩
    · have hstep : d.step (.cursorChange serial capture) =
          ⟨(image.serial, image.content) :: d.known, d.images ++ [image.content]⟩ := by
        simp only [Designation.step, hcached.none hlookup, hcapture, hcached.none himage]
      have hnew : image.content ∉ d.images := fun hmem =>
        hid ((hcached.hasId hwf _).mpr ⟨_, hmem, rfl⟩)
      have hnews : newsOf hash d.images image.content =
          .cursorImage (image.content.toMessage (hash image.content)) := if_neg hnew
      rw [← hnews] at hmsg
      rw [hstep]
      exact Or.inr ⟨image.content, _, rfl, Or.inr ⟨image, hcapture, rfl⟩, hmsg,
        hwf.learn (hcached.none himage) _, hcached.learn _ _ _⟩

/-! ## Being current again -/

/-- `c` is current, and it was current before another image was. -/
def Reselected (c : CursorContent) (images : List CursorContent) : Prop :=
  ∃ before d run, images = before ++ d :: run ∧ c ∈ before ∧ d ≠ c ∧ run ≠ [] ∧ ∀ x ∈ run, x = c

theorem Reselected.getLast {c : CursorContent} {images : List CursorContent}
    (h : Reselected c images) : images.getLast? = some c := by
  obtain ⟨before, d, run, rfl, -, -, hne, hall⟩ := h
  rcases List.eq_nil_or_concat run with hnil | ⟨run', x, hrun⟩
  · exact absurd hnil hne
  · rw [List.concat_eq_append] at hrun
    have hx : x = c := by
      apply hall
      rw [hrun]
      exact List.mem_append_right _ List.mem_cons_self
    rw [hrun, ← List.cons_append, ← List.append_assoc, List.getLast?_concat, hx]

/-- Staying current changes nothing. -/
theorem reselected_concat_same {c : CursorContent} {images : List CursorContent}
    (h : images.getLast? = some c) : Reselected c (images ++ [c]) ↔ Reselected c images := by
  constructor
  · rintro ⟨before, d, run, heq, hc, hd, hne, hall⟩
    rcases List.eq_nil_or_concat run with hnil | ⟨run', x, hrun⟩
    · exact absurd hnil hne
    · rw [List.concat_eq_append] at hrun
      rw [hrun, ← List.cons_append, ← List.append_assoc] at heq
      obtain ⟨himages, -⟩ := List.append_inj' heq rfl
      refine ⟨before, d, run', himages, hc, hd, fun hnil => ?_, fun y hy => hall y ?_⟩
      · rw [himages, hnil, List.getLast?_concat] at h
        cases h
        exact hd rfl
      · rw [hrun]
        exact List.mem_append_left _ hy
  · rintro ⟨before, d, run, heq, hc, hd, -, hall⟩
    refine ⟨before, d, run ++ [c], ?_, hc, hd, by simp, fun x hx => ?_⟩
    · rw [heq, List.append_assoc, List.cons_append]
    · rcases List.mem_append.mp hx with hx | hx
      · exact hall x hx
      · exact List.mem_singleton.mp hx

/-- Becoming current is being current again exactly for an image that was current before. -/
theorem reselected_concat_ne {c d : CursorContent} {images : List CursorContent}
    (h : images.getLast? = some d) (hd : d ≠ c) : Reselected c (images ++ [c]) ↔ c ∈ images := by
  constructor
  · rintro ⟨before, d', run, heq, hc, -, hne, -⟩
    rcases List.eq_nil_or_concat run with hnil | ⟨run', x, hrun⟩
    · exact absurd hnil hne
    · rw [hrun, List.concat_eq_append, ← List.cons_append, ← List.append_assoc] at heq
      obtain ⟨himages, -⟩ := List.append_inj' heq rfl
      rw [himages]
      exact List.mem_append_left _ hc
  · intro hc
    obtain ⟨before, rfl⟩ := List.getLast?_eq_some_iff.mp h
    refine ⟨before, d, [c], by simp, ?_, hd, by simp, fun x hx => List.mem_singleton.mp hx⟩
    rcases List.mem_append.mp hc with hc | hc
    · exact hc
    · exact absurd (List.mem_singleton.mp hc).symm hd

theorem not_reselected_singleton (c : CursorContent) : ¬ Reselected c [c] := by
  rintro ⟨before, d, run, heq, hc, -, -, -⟩
  cases before with
  | nil => cases hc
  | cons b before => cases before <;> cases heq

/-! ## Both sides -/

/-- The message is about the cursor. -/
def EventMessage.isCursor : EventMessage → Bool
  | .displayConfiguration _ => false
  | _ => true

/-- The cursor that the client makes of an image. -/
def CursorContent.cursor (hash : CursorContent → Nat) (c : CursorContent) : Except String Cursor :=
  Cursor.tryFrom (c.toMessage (hash c))

/-- Once a cursor message was sent, the last cursor handed to the primary thread is the captured
image whose id is the server's `last_cursor_id`. -/
def ShowsCurrent (hash : CursorContent → Nat) (inputs : List BackendInput) : Prop :=
  let run := backendRun hash inputs
  (∃ msg ∈ run.sent, msg.isCursor = true) →
    ∃ c ∈ captured inputs, hash c = run.vars.lastCursorId ∧
      ∃ cursor, c.cursor hash = .ok cursor ∧
        (ecMain run.sent).lastCursor = some (run.vars.lastCursorId, cursor)

/-- The client has received every designated image, and shows the current one exactly when it is
current again and converts. -/
structure ClientSync (hash : CursorContent → Nat) (images : List CursorContent) (client : EcMain) :
    Prop where
  cached : ∀ c ∈ images, client.cache[hash c]? = (c.cursor hash).toOption
  fresh : ∀ id : Nat, (∀ c ∈ images, hash c ≠ id) → client.cache[id]? = none
  handed : ∀ id cursor, client.lastCursor = some (id, cursor) →
    ∃ c ∈ images, hash c = id ∧ c.cursor hash = .ok cursor
  shown : ∀ c, images.getLast? = some c →
    ((∃ cursor, client.lastCursor = some (hash c, cursor)) ↔
      Reselected c images ∧ (c.cursor hash).isOk = true)

namespace ClientSync

variable {hash : CursorContent → Nat} {images : List CursorContent} {client : EcMain}

theorem start (hash : CursorContent → Nat) : ClientSync hash [] EcMain.start :=
  ⟨(fun _ h => nomatch h), fun _ _ => rfl, (fun _ _ h => nomatch h), (fun _ h => nomatch h)⟩

/-- Only the cache and the last cursor matter. -/
theorem congr (h : ClientSync hash images client) {client' : EcMain}
    (hcache : client'.cache = client.cache) (hlast : client'.lastCursor = client.lastCursor) :
    ClientSync hash images client' := by
  refine ⟨?_, ?_, ?_, ?_⟩
  · rw [hcache]
    exact h.cached
  · rw [hcache]
    exact h.fresh
  · rw [hlast]
    exact h.handed
  · rw [hlast]
    exact h.shown

/-- The current image stays current. -/
theorem same (h : ClientSync hash images client) {c : CursorContent}
    (hlast : images.getLast? = some c) : ClientSync hash (images ++ [c]) client := by
  have hc : c ∈ images := List.mem_of_mem_getLast? hlast
  have hmem : ∀ x ∈ images ++ [c], x ∈ images := by
    intro x hx
    rcases List.mem_append.mp hx with hx | hx
    · exact hx
    · rw [List.mem_singleton.mp hx]
      exact hc
  refine ⟨fun x hx => h.cached x (hmem x hx),
    fun id hid => h.fresh id fun x hx => hid x (List.mem_append_left _ hx),
    fun id cursor hcur => ?_, fun x hx => ?_⟩
  · obtain ⟨x, hx, heq⟩ := h.handed id cursor hcur
    exact ⟨x, List.mem_append_left _ hx, heq⟩
  · rw [List.getLast?_concat] at hx
    cases hx
    rw [reselected_concat_same hlast]
    exact h.shown c hlast

/-- A known image becomes current: its id is looked up in the cache. -/
theorem change (h : ClientSync hash images client) {c d : CursorContent} (hc : c ∈ images)
    (hlast : images.getLast? = some d) (hd : d ≠ c)
    (hinj : ∀ x ∈ images, hash x = hash c → x = c) :
    ClientSync hash (images ++ [c]) (client.receive (.cursorChange (hash c))) := by
  obtain ⟨hcache, hcursor⟩ := client.receive_change (hash c)
  rw [h.cached c hc] at hcursor
  refine ⟨fun x hx => ?_, fun id hid => ?_, fun id cursor hcur => ?_, fun x hx => ?_⟩
  · rw [hcache]
    rcases List.mem_append.mp hx with hx | hx
    · exact h.cached x hx
    · rw [List.mem_singleton.mp hx]
      exact h.cached c hc
  · rw [hcache]
    exact h.fresh id fun x hx => hid x (List.mem_append_left _ hx)
  · rw [hcursor] at hcur
    cases hok : c.cursor hash with
    | ok cursor' =>
      rw [hok] at hcur
      cases hcur
      exact ⟨c, List.mem_append_left _ hc, rfl, hok⟩
    | error e =>
      rw [hok] at hcur
      obtain ⟨x, hx, heq⟩ := h.handed id cursor hcur
      exact ⟨x, List.mem_append_left _ hx, heq⟩
  · rw [List.getLast?_concat] at hx
    cases hx
    rw [reselected_concat_ne hlast hd, hcursor]
    cases hok : c.cursor hash with
    | ok cursor => exact ⟨fun _ => ⟨hc, rfl⟩, fun _ => ⟨cursor, rfl⟩⟩
    | error e =>
      constructor
      · -- the id was not handed over before, because its image does not convert
        rintro ⟨cursor, hcur⟩
        obtain ⟨x, hx, heq, hxok⟩ := h.handed (hash c) cursor hcur
        rw [hinj x hx heq, hok] at hxok
        cases hxok
      · rintro ⟨-, hfalse⟩
        cases hfalse

/-- A new image becomes current: it is stored and not handed over. -/
theorem image (h : ClientSync hash images client) {c : CursorContent} (hc : c ∉ images)
    (hinj : ∀ x ∈ images, hash x = hash c → x = c) :
    ClientSync hash (images ++ [c]) (client.receive (.cursorImage (c.toMessage (hash c)))) := by
  obtain ⟨hcache, hcursor⟩ := client.receive_image (c.toMessage (hash c))
  have hold : ∀ x ∈ images, hash x ≠ hash c := fun x hx heq => hc (hinj x hx heq ▸ hx)
  refine ⟨fun x hx => ?_, fun id hid => ?_, fun id cursor hcur => ?_, fun x hx => ?_⟩
  · rw [hcache]
    rcases List.mem_append.mp hx with hx | hx
    · rw [if_neg fun heq => hold x hx heq.1]
      exact h.cached x hx
    · rw [List.mem_singleton.mp hx]
      unfold CursorContent.cursor
      by_cases hok : (Cursor.tryFrom (c.toMessage (hash c))).isOk = true
      · rw [if_pos ⟨rfl, hok⟩]
      · rw [if_neg fun heq => hok heq.2, h.fresh (hash c) hold]
        cases he : Cursor.tryFrom (c.toMessage (hash c)) with
        | ok cursor =>
          rw [he] at hok
          exact absurd rfl hok
        | error e => rfl
  · rw [hcache, if_neg fun heq => hid c (List.mem_append_right _ List.mem_cons_self) heq.1.symm]
    exact h.fresh id fun x hx => hid x (List.mem_append_left _ hx)
  · rw [hcursor] at hcur
    obtain ⟨x, hx, heq⟩ := h.handed id cursor hcur
    exact ⟨x, List.mem_append_left _ hx, heq⟩
  · rw [List.getLast?_concat] at hx
    cases hx
    constructor
    · rintro ⟨cursor, hcur⟩
      rw [hcursor] at hcur
      obtain ⟨x, hx, heq, -⟩ := h.handed (hash c) cursor hcur
      exact absurd heq (hold x hx)
    · rintro ⟨hres, -⟩
      exfalso
      cases hlast : images.getLast? with
      | none =>
        rw [List.getLast?_eq_none_iff] at hlast
        rw [hlast] at hres
        exact not_reselected_singleton c hres
      | some d =>
        have hd : d ≠ c := by
          intro heq
          exact hc (heq ▸ List.mem_of_mem_getLast? hlast)
        exact hc ((reselected_concat_ne hlast hd).mp hres)

/-- **An image becomes current after another one**: the client stores a new image, and hands over a
known one. -/
theorem news (h : ClientSync hash images client) {c : CursorContent}
    (hne : images.getLast? ≠ some c) (hinj : ∀ x ∈ images, hash x = hash c → x = c) :
    ClientSync hash (images ++ [c]) (client.receive (newsOf hash images c)) := by
  unfold newsOf
  split
  case isTrue hmem =>
    cases hl : images.getLast? with
    | none =>
      rw [List.getLast?_eq_none_iff] at hl
      rw [hl] at hmem
      cases hmem
    | some d =>
      have hd : d ≠ c := by
        intro heq
        apply hne
        rw [hl, heq]
      exact h.change hmem hl hd hinj
  case isFalse hmem => exact h.image hmem hinj

end ClientSync

/-- Server, client and the designated images, after any inputs. -/
structure CursorSync (hash : CursorContent → Nat) (inputs : List BackendInput) : Prop where
  wf : (designation inputs).WF
  seen : ∀ c ∈ designated inputs, c ∈ captured inputs
  cached : (designation inputs).Cached hash (backendRun hash inputs).vars.cursorCache
  last : (backendRun hash inputs).vars.lastCursorId = (designated inputs).getLast?.elim 0 hash
  sent : (∃ msg ∈ (backendRun hash inputs).sent, msg.isCursor = true) ↔ designated inputs ≠ []
  client : ClientSync hash (designated inputs) (ecMain (backendRun hash inputs).sent)

theorem cursorSync_nil (hash : CursorContent → Nat) : CursorSync hash [] := by
  refine ⟨⟨fun serial c h => ?_, (fun _ h => nomatch h)⟩, (fun _ h => nomatch h), fun serial => ?_,
    rfl, ?_, ClientSync.start hash⟩
  · simp [designation] at h
  · simp [backendRun, BackendRun.start, designation]
  · simp [backendRun, BackendRun.start, designated, designation]

theorem captured_concat {inputs : List BackendInput} (i : BackendInput) {c : CursorContent}
    (h : c ∈ captured inputs) : c ∈ captured (inputs ++ [i]) := by
  rw [captured, List.flatMap_append]
  exact List.mem_append_left _ h

namespace CursorSync

variable {hash : CursorContent → Nat} {inputs inputs' : List BackendInput}

/-- An input that makes no image current and sends nothing about the cursor changes nothing. -/
theorem congr (h : CursorSync hash inputs) (hcap : ∀ c ∈ captured inputs, c ∈ captured inputs')
    (hd : designation inputs' = designation inputs)
    (hvars : (backendRun hash inputs').vars = (backendRun hash inputs).vars)
    (hsent : (∃ msg ∈ (backendRun hash inputs').sent, msg.isCursor = true) ↔
      ∃ msg ∈ (backendRun hash inputs).sent, msg.isCursor = true)
    (hclient : ClientSync hash (designated inputs) (ecMain (backendRun hash inputs').sent)) :
    CursorSync hash inputs' := by
  have himages : designated inputs' = designated inputs := by
    rw [designated, hd]
    rfl
  refine ⟨?_, ?_, ?_, ?_, ?_, ?_⟩
  · rw [hd]
    exact h.wf
  · rw [himages]
    exact fun c hc => hcap c (h.seen c hc)
  · rw [hd, hvars]
    exact h.cached
  · rw [himages, hvars]
    exact h.last
  · rw [himages, hsent]
    exact h.sent
  · rw [himages]
    exact hclient

theorem display (h : CursorSync hash inputs) (dc : Proto.DisplayConfiguration) :
    CursorSync hash (inputs ++ [.display dc]) := by
  have hr : backendRun hash (inputs ++ [.display dc]) = ⟨(backendRun hash inputs).vars,
      (backendRun hash inputs).sent ++ [.displayConfiguration dc]⟩ := by
    rw [backendRun_concat]
    rfl
  obtain ⟨hcache, hcursor⟩ := (ecMain (backendRun hash inputs).sent).receive_display dc
  apply h.congr
  · exact fun c hc => captured_concat _ hc
  · rw [designation_concat]
    rfl
  · rw [hr]
  · rw [hr]
    simp [EventMessage.isCursor]
  · rw [hr, ecMain_concat]
    exact h.client.congr hcache hcursor

/-- The last id is that of the current image. -/
theorem lastCursorId_eq_iff (h : CursorSync hash inputs) {c : CursorContent} (hne : hash c ≠ 0)
    (hinj : ∀ x ∈ designated inputs, hash x = hash c → x = c) :
    hash c = (backendRun hash inputs).vars.lastCursorId ↔
      (designated inputs).getLast? = some c := by
  have hlast := h.last
  cases hl : (designated inputs).getLast? with
  | none =>
    rw [hl] at hlast
    exact iff_of_false (fun heq => hne (heq.trans hlast)) (by simp)
  | some d =>
    rw [hl] at hlast
    rw [hlast, Option.some.injEq]
    constructor
    · intro heq
      exact hinj d (List.mem_of_mem_getLast? hl) heq.symm
    · intro heq
      rw [heq]
      rfl

/-- **An image becomes current**: when it already was, nothing is sent; otherwise its news are. -/
theorem designates (h : CursorSync hash inputs) {c : CursorContent} {cache : CursorIds}
    (hcap : ∀ x ∈ captured inputs, x ∈ captured inputs') (hc : c ∈ captured inputs')
    (hinj : ∀ x ∈ designated inputs, hash x = hash c → x = c) (hne : hash c ≠ 0)
    (himages : designated inputs' = designated inputs ++ [c]) (hwf : (designation inputs').WF)
    (hcached : (designation inputs').Cached hash cache)
    (hrun : backendRun hash inputs' =
      if hash c ≠ (backendRun hash inputs).vars.lastCursorId then
        ⟨⟨cache, hash c⟩, (backendRun hash inputs).sent ++ [newsOf hash (designated inputs) c]⟩
      else ⟨⟨cache, (backendRun hash inputs).vars.lastCursorId⟩, (backendRun hash inputs).sent⟩) :
    CursorSync hash inputs' := by
  have hseen : ∀ x ∈ designated inputs', x ∈ captured inputs' := by
    intro x hx
    rw [himages] at hx
    rcases List.mem_append.mp hx with hx | hx
    · exact hcap x (h.seen x hx)
    · rw [List.mem_singleton.mp hx]
      exact hc
  have hlast := h.lastCursorId_eq_iff hne hinj
  by_cases heq : hash c = (backendRun hash inputs).vars.lastCursorId
  · -- the current image stays current
    have hcur := hlast.mp heq
    have hsome : designated inputs ≠ [] := List.ne_nil_of_mem (List.mem_of_mem_getLast? hcur)
    rw [if_neg (fun hnot => hnot heq)] at hrun
    refine ⟨hwf, hseen, ?_, ?_, ?_, ?_⟩
    · rw [hrun]
      exact hcached
    · rw [hrun, himages, List.getLast?_concat]
      exact heq.symm
    · rw [hrun, himages]
      exact iff_of_true (h.sent.mpr hsome) (by simp)
    · rw [hrun, himages]
      exact h.client.same hcur
  · rw [if_pos heq] at hrun
    refine ⟨hwf, hseen, ?_, ?_, ?_, ?_⟩
    · rw [hrun]
      exact hcached
    · rw [hrun, himages, List.getLast?_concat]
      rfl
    · rw [hrun, himages]
      refine iff_of_true ⟨_, List.mem_append_right _ List.mem_cons_self, ?_⟩ (by simp)
      unfold newsOf
      split <;> rfl
    · rw [hrun, himages, ecMain_concat]
      exact h.client.news (mt hlast.mpr heq) hinj

/-- **One input keeps the two sides in step.** -/
theorem concat {i : BackendInput} (h : CursorSync hash inputs)
    (hinj : ∀ c ∈ captured (inputs ++ [i]), ∀ d ∈ captured (inputs ++ [i]), hash c = hash d → c = d)
    (hne : ∀ c ∈ captured (inputs ++ [i]), hash c ≠ 0) : CursorSync hash (inputs ++ [i]) := by
  have hold : ∀ c ∈ captured inputs, c ∈ captured (inputs ++ [i]) :=
    fun c hc => captured_concat i hc
  cases i with
  | display dc => exact h.display dc
  | cursorChange serial capture =>
    have hcapture : ∀ image, capture = .ok image →
        image.content ∈ captured (inputs ++ [.cursorChange serial capture]) := by
      intro image himage
      rw [captured, List.flatMap_append, himage]
      exact List.mem_append_right _ List.mem_cons_self
    have hrun : backendRun hash (inputs ++ [.cursorChange serial capture]) =
        ⟨(handleCursor hash (backendRun hash inputs).vars serial capture).1,
          (backendRun hash inputs).sent ++
            (handleCursor hash (backendRun hash inputs).vars serial capture).2⟩ := by
      rw [backendRun_concat]
      rfl
    rcases cursorMessage_designates h.wf h.cached serial capture (fun c hc image himage heq =>
        hinj _ (hcapture image himage) c (hold c (h.seen c hc)) heq) with
      ⟨hstep, hmsg⟩ | ⟨c, cache', himages, hc, hmsg, hwf, hcached⟩
    · have hr : backendRun hash (inputs ++ [.cursorChange serial capture]) =
          backendRun hash inputs := by
        rw [hrun, handleCursor, hmsg]
        simp only [List.append_nil]
      apply h.congr hold
      · rw [designation_concat, hstep]
      · rw [hr]
      · rw [hr]
      · rw [hr]
        exact h.client
    · rw [← designation_concat] at himages hwf hcached
      have hcmem : c ∈ captured (inputs ++ [.cursorChange serial capture]) := by
        rcases hc with hc | ⟨image, himage, heq⟩
        · exact hold c (h.seen c hc)
        · rw [← heq]
          exact hcapture image himage
      apply h.designates hold hcmem
        (fun x hx heq => hinj x (hold x (h.seen x hx)) c hcmem heq) (hne c hcmem) himages hwf hcached
      rw [hrun, handleCursor, hmsg]
      by_cases heq : hash c = (backendRun hash inputs).vars.lastCursorId
      · simp only [heq, ne_eq, not_true_eq_false, if_false, List.append_nil]
      · simp only [ne_eq, heq, not_false_eq_true, if_true]
        rfl

end CursorSync

theorem cursorSync_run {hash : CursorContent → Nat} {inputs : List BackendInput}
    (hinj : ∀ c ∈ captured inputs, ∀ d ∈ captured inputs, hash c = hash d → c = d)
    (hne : ∀ c ∈ captured inputs, hash c ≠ 0) : CursorSync hash inputs := by
  induction inputs using List.reverseRecOn with
  | nil => exact cursorSync_nil hash
  | append_singleton inputs i ih =>
    have hsub : ∀ c ∈ captured inputs, c ∈ captured (inputs ++ [i]) :=
      fun c hc => captured_concat i hc
    apply (ih (fun c hc d hd => hinj c (hsub c hc) d (hsub d hd))
      fun c hc => hne c (hsub c hc)).concat hinj hne

/-- **The client shows the server's cursor exactly when it was current once before**: the image that
was made current last was made current earlier, another one was in between, and it converts; or no
image was made current at all. -/
theorem showsCurrent_iff (hash : CursorContent → Nat) (inputs : List BackendInput)
    (hinj : ∀ c ∈ captured inputs, ∀ d ∈ captured inputs, hash c = hash d → c = d)
    (hne : ∀ c ∈ captured inputs, hash c ≠ 0) :
    ShowsCurrent hash inputs ↔ designated inputs = [] ∨
      ∃ c, Reselected c (designated inputs) ∧ (c.cursor hash).isOk = true := by
  have h := cursorSync_run hinj hne
  have hlast := h.last
  cases hl : (designated inputs).getLast? with
  | none =>
    rw [List.getLast?_eq_none_iff] at hl
    refine iff_of_true (fun hsent => ?_) (Or.inl hl)
    exact absurd hl (h.sent.mp hsent)
  | some c =>
    rw [hl] at hlast
    have hmem : c ∈ designated inputs := List.mem_of_mem_getLast? hl
    have hne' : designated inputs ≠ [] := List.ne_nil_of_mem hmem
    constructor
    · intro hshows
      obtain ⟨c', hc', hid, cursor, -, hcur⟩ := hshows (h.sent.mpr hne')
      rw [hlast] at hcur
      exact Or.inr ⟨c, (h.client.shown c hl).mp ⟨cursor, hcur⟩⟩
    · rintro (hnil | ⟨c', hres, hok⟩)
      · exact absurd hnil hne'
      · have heq : c' = c := by
          have := hres.getLast.symm.trans hl
          exact Option.some.inj this
        rw [heq] at hres hok
        obtain ⟨cursor, hcur⟩ := (h.client.shown c hl).mpr ⟨hres, hok⟩
        obtain ⟨x, hx, hxid, hxok⟩ := h.client.handed _ _ hcur
        rw [hinj x (h.seen x hx) c (h.seen c hmem) hxid] at hxok
        intro _
        refine ⟨c, h.seen c hmem, hlast.symm, cursor, hxok, ?_⟩
        rw [hlast]
        exact hcur

/-- Two images in turn, and the first one again. -/
theorem showsCurrent_iff_again :
    ShowsCurrent firstByte [.cursorChange 5 (.ok (pixelCursor 5 0)),
      .cursorChange 6 (.ok (pixelCursor 6 1)), .cursorChange 5 (.ok (pixelCursor 5 0))] :=
  (showsCurrent_iff firstByte [.cursorChange 5 (.ok (pixelCursor 5 0)),
      .cursorChange 6 (.ok (pixelCursor 6 1)), .cursorChange 5 (.ok (pixelCursor 5 0))]
    (by decide) (by decide)).mpr
    (Or.inr ⟨(pixelCursor 5 0).content,
      ⟨[(pixelCursor 5 0).content], (pixelCursor 6 1).content, [(pixelCursor 5 0).content],
        by decide +kernel, by decide, by decide, by decide, by decide⟩, by decide +kernel⟩)

/-- The first cursor of a session: its image is sent, and is never handed to the primary thread. -/
theorem showsCurrent_fails :
    (∀ c ∈ captured [.cursorChange 5 (.ok (pixelCursor 5 0))], firstByte c ≠ 0) ∧
    (∀ c ∈ captured [.cursorChange 5 (.ok (pixelCursor 5 0))],
      ∀ d ∈ captured [.cursorChange 5 (.ok (pixelCursor 5 0))],
        firstByte c = firstByte d → c = d) ∧
    ¬ ShowsCurrent firstByte [.cursorChange 5 (.ok (pixelCursor 5 0))] := by
  refine ⟨by decide, by decide, fun h => ?_⟩
  have hsent : ∃ msg ∈ (backendRun firstByte [.cursorChange 5 (.ok (pixelCursor 5 0))]).sent,
      msg.isCursor = true := by decide +kernel
  obtain ⟨c, -, -, cursor, -, hcur⟩ := h hsent
  have hnone : (ecMain (backendRun firstByte
      [.cursorChange 5 (.ok (pixelCursor 5 0))]).sent).lastCursor.isNone = true := by
    decide +kernel
  rw [hcur] at hnone
  cases hnone

end ApertureC
