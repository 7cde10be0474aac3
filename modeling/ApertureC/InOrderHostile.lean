import ApertureC.InOrderCodec

/-!
# The in-order codec on arbitrary bytes

What `receive_internal` of `aperturec-channel/src/codec/in_order.rs` does when the bytes on the
stream are not what a sender of messages would have written: any bytes, in any chunks.

* `Call.chunks` — the chunks a call can take before the transport interrupts it.
* `Delimits` — the bytes begin with a delimiter, the first prefix of them that decodes.
* `DelimiterEnd` — the three ways the delimiter loop ends: it finds the delimiter, slices past the
  end of the buffer behind an empty chunk, or is left because the transport gives nothing.
* `prefixesExamined` — the prefixes that the loop tries to decode.

Principal results: `delimiterLoop_spec`, `session_safe_iff` (**no call panics exactly when no
delimiter announces a length at the top of the range and no empty chunk splits a delimiter**) and
`rejects_iff` (**a malformed delimiter is never rejected**).
-/

set_option autoImplicit false

namespace ApertureC.InOrder

variable {M : Type}

/-! ## Chunks -/

/-- The chunks that a call can take from the transport before it is interrupted. -/
def Call.chunks (c : Call) : List Event → List (List UInt8)
  | [] => []
  | .bytes b :: t => b :: c.chunks t
  | .quiet :: t =>
    match c with
    | .receive => c.chunks t
    | .receiveTimeout => []
    | .asyncReceive => []
  | .fail :: _ => []

/-- A receive of the transport brings the next chunk, or there is none. -/
theorem Call.recv_chunks (c : Call) : ∀ t : List Event,
    (∃ b t', c.recv t = (.bytes b, t') ∧ c.chunks t = b :: c.chunks t') ∨
    ((∀ b, (c.recv t).1 ≠ .bytes b) ∧ c.chunks t = [])
  | [] => by
    right
    cases c
    all_goals exact ⟨(fun b h => nomatch h), rfl⟩
  | .bytes b :: t => by
    left
    cases c
    all_goals exact ⟨b, t, rfl, rfl⟩
  | .fail :: t => by
    right
    cases c
    all_goals exact ⟨(fun b h => nomatch h), rfl⟩
  | .quiet :: t => by
    cases c with
    | receive => exact Call.recv_chunks .receive t
    | receiveTimeout => exact Or.inr ⟨(fun b h => nomatch h), rfl⟩
    | asyncReceive => exact Or.inr ⟨(fun b h => nomatch h), rfl⟩

theorem Call.fill_none {c : Call} {r r' : ReceiverSimplex} (h : c.fill M r = (none, r')) :
    ∃ b, c.chunks r.transport = b :: c.chunks r'.transport ∧
      r'.receiveBuf = r.receiveBuf ++ b := by
  unfold Call.fill at h
  rcases c.recv_chunks r.transport with ⟨b, t, hr, hc⟩ | ⟨hr, -⟩
  · rw [hr] at h
    cases h
    exact ⟨b, hc, rfl⟩
  · split at h
    · rename_i b t heq
      exact absurd (by rw [heq]) (hr b)
    · cases h
    · cases h
    · cases h

theorem Call.fill_some {c : Call} {r r' : ReceiverSimplex} {o : Outcome M}
    (h : c.fill M r = (some o, r')) :
    c.chunks r.transport = [] ∧ r'.receiveBuf = r.receiveBuf := by
  unfold Call.fill at h
  rcases c.recv_chunks r.transport with ⟨b, t, hr, -⟩ | ⟨-, hc⟩
  · rw [hr] at h
    cases h
  · split at h
    · cases h
    · cases h
      exact ⟨hc, rfl⟩
    · cases h
      exact ⟨hc, rfl⟩
    · cases h
      exact ⟨hc, rfl⟩

/-! ## Delimiters -/

/-- The first prefix of the bytes that decodes has length `d`, and announces `n` bytes. -/
structure Delimits (P : Prost M) (bs : List UInt8) (d n : Nat) : Prop where
  decodes : P.decodeLengthDelimiter (bs.take d) = some n
  le : d ≤ bs.length
  shorter : ∀ d' < d, P.decodeLengthDelimiter (bs.take d') = none

theorem Delimits.unique {P : Prost M} {bs : List UInt8} {d n d' n' : Nat} (h : Delimits P bs d n)
    (h' : Delimits P bs d' n') : d = d' ∧ n = n' := by
  have hd : d = d' := by
    rcases Nat.lt_trichotomy d d' with hlt | heq | hgt
    · have := h.decodes
      rw [h'.shorter d hlt] at this
      cases this
    · exact heq
    · have := h'.decodes
      rw [h.shorter d' hgt] at this
      cases this
  subst hd
  exact ⟨rfl, Option.some.inj (h.decodes.symm.trans h'.decodes)⟩

/-- More bytes do not change the delimiter. -/
theorem Delimits.append {P : Prost M} {bs : List UInt8} {d n : Nat} (h : Delimits P bs d n)
    (more : List UInt8) : Delimits P (bs ++ more) d n where
  decodes := by
    rw [List.take_append_of_le_length h.le]
    exact h.decodes
  le := by
    rw [List.length_append]
    exact Nat.le_add_right_of_le h.le
  shorter := by
    intro d' hd
    rw [List.take_append_of_le_length (hd.le.trans h.le)]
    exact h.shorter d' hd

/-- No prefix of the bytes decodes. -/
def Undelimited (P : Prost M) (bs : List UInt8) : Prop :=
  ∀ d ≤ bs.length, P.decodeLengthDelimiter (bs.take d) = none

theorem Undelimited.not_delimits {P : Prost M} {bs : List UInt8} (h : Undelimited P bs) {d n : Nat} :
    ¬ Delimits P bs d n := by
  intro hd
  have := hd.decodes
  rw [h d hd.le] at this
  cases this

/-- The whole of the bytes and every shorter prefix has been tried. -/
theorem undelimited_of_behind {P : Prost M} {bs : List UInt8} {d : Nat} (hlen : bs.length = d)
    (hbehind : ∀ d' < d, P.decodeLengthDelimiter (bs.take d') = none)
    (hdec : P.decodeLengthDelimiter (bs.take d) = none) : Undelimited P bs := by
  intro d' hd'
  rcases Nat.lt_or_eq_of_le hd' with hlt | rfl
  · exact hbehind d' (by omega)
  · rw [hlen]
    exact hdec

/-! ## The delimiter loop -/

/-- The prefixes of the buffer that the loop decodes, the empty one first. -/
def prefixesExamined (P : Prost M) (c : Call) (delimLen : Nat) (r : ReceiverSimplex) :
    List (List UInt8) :=
  if delimLen ≤ r.receiveBuf.length then
    r.receiveBuf.take delimLen ::
      match P.decodeLengthDelimiter (r.receiveBuf.take delimLen) with
      | some _ => []
      | none =>
        if delimLen + 1 > r.receiveBuf.length then
          match _h : c.fill M r with
          | (some _, _) => []
          | (none, r') => prefixesExamined P c (delimLen + 1) r'
        else prefixesExamined P c (delimLen + 1) r
  else []
termination_by r.budget + 1 - delimLen
decreasing_by
  · have := Call.fill_budget _h
    have := r.length_le_budget
    omega
  · have := r.length_le_budget
    omega

/-- How the delimiter loop ends on the bytes `buf` of the buffer and the chunks `cs` still to come,
when the prefixes shorter than `d₀` are behind it; `examined` counts the prefixes from there. -/
inductive DelimiterEnd (P : Prost M) (buf : List UInt8) (cs : List (List UInt8)) (d₀ examined : Nat)
    (res : Except (Outcome M) (Nat × Nat)) (buf' : List UInt8) : Prop
  /-- The delimiter is found after the first so many chunks. -/
  | found (got rest : List (List UInt8)) (d n : Nat) (hcs : cs = got ++ rest) (hgot : [] ∉ got)
      (hbuf : buf' = buf ++ got.flatten) (hd : Delimits P buf' d n) (hle : d₀ ≤ d)
      (hres : res = .ok (d, n)) (hexamined : examined + d₀ = d + 1)
  /-- An empty chunk arrives before it. -/
  | gap (got rest : List (List UInt8)) (hcs : cs = got ++ [] :: rest) (hgot : [] ∉ got)
      (hno : Undelimited P (buf ++ got.flatten)) (hres : res = .error .panicked)
      (hexamined : examined + d₀ = (buf ++ got.flatten).length + 1)
  /-- The transport gives nothing any more. -/
  | left (o : Outcome M) (hgot : [] ∉ cs) (hno : Undelimited P (buf ++ cs.flatten))
      (ho : o.Interrupted) (hres : res = .error o)
      (hexamined : examined + d₀ = (buf ++ cs.flatten).length + 1)

/-- One more chunk in front. -/
theorem DelimiterEnd.cons {P : Prost M} {buf b : List UInt8} {cs : List (List UInt8)}
    {d examined : Nat} {res : Except (Outcome M) (Nat × Nat)} {buf' : List UInt8} (hb : b ≠ [])
    (h : DelimiterEnd P (buf ++ b) cs (d + 1) examined res buf') :
    DelimiterEnd P buf (b :: cs) d (examined + 1) res buf' := by
  have hmem : ∀ {got : List (List UInt8)}, [] ∉ got → [] ∉ b :: got := by
    intro got hgot hmem
    rcases List.mem_cons.mp hmem with heq | hmem
    · exact hb heq.symm
    · exact hgot hmem
  cases h with
  | found got rest d' n hcs hgot hbuf hd hle hres hexamined =>
    rw [List.append_assoc] at hbuf
    exact .found (b :: got) rest d' n (by rw [hcs]; rfl) (hmem hgot) hbuf hd (by omega) hres
      (by omega)
  | gap got rest hcs hgot hno hres hexamined =>
    rw [List.append_assoc] at hno hexamined
    exact .gap (b :: got) rest (by rw [hcs]; rfl) (hmem hgot) hno hres (by
      rw [List.flatten_cons]
      omega)
  | left o hgot hno ho hres hexamined =>
    rw [List.append_assoc] at hno hexamined
    exact .left o (hmem hgot) hno ho hres (by
      rw [List.flatten_cons]
      omega)

/-- One more prefix of the buffer that does not decode. -/
theorem DelimiterEnd.step {P : Prost M} {buf : List UInt8} {cs : List (List UInt8)}
    {d examined : Nat} {res : Except (Outcome M) (Nat × Nat)} {buf' : List UInt8}
    (h : DelimiterEnd P buf cs (d + 1) examined res buf') :
    DelimiterEnd P buf cs d (examined + 1) res buf' := by
  cases h with
  | found got rest d' n hcs hgot hbuf hd hle hres hexamined =>
    exact .found got rest d' n hcs hgot hbuf hd (by omega) hres (by omega)
  | gap got rest hcs hgot hno hres hexamined =>
    exact .gap got rest hcs hgot hno hres (by omega)
  | left o hgot hno ho hres hexamined =>
    exact .left o hgot hno ho hres (by omega)

/-- **How the delimiter loop ends.** -/
theorem delimiterLoop_spec (P : Prost M) (c : Call) (d : Nat) (r : ReceiverSimplex)
    (hd : d ≤ r.receiveBuf.length)
    (hbehind : ∀ d' < d, P.decodeLengthDelimiter (r.receiveBuf.take d') = none) :
    DelimiterEnd P r.receiveBuf (c.chunks r.transport) d (prefixesExamined P c d r).length
      (delimiterLoop P c d r).1 (delimiterLoop P c d r).2.receiveBuf := by
  fun_induction delimiterLoop P c d r with
  | case1 d r hle n hdec =>
    rw [prefixesExamined, if_pos hle, hdec]
    exact .found [] _ d n rfl (by simp) (by simp) ⟨hdec, hle, hbehind⟩ (Nat.le_refl d) rfl
      (Nat.add_comm _ _)
  | case2 d r hle hdec hlt o r' hf =>
    obtain ⟨hcs, -⟩ := Call.fill_some hf
    have hlen : r.receiveBuf.length = d := by omega
    have hexamined : (prefixesExamined P c d r).length = 1 := by
      rw [prefixesExamined, if_pos hle]
      simp only [hdec, if_pos hlt]
      split
      · rfl
      · rename_i r₁ hf₁
        rw [hf] at hf₁
        cases hf₁
    rw [hcs, hexamined]
    have hno := undelimited_of_behind hlen hbehind hdec
    refine .left o (by simp) (by simpa using hno) (Call.fill_leaves hf) rfl ?_
    simp [hlen, Nat.add_comm]
  | case3 d r hle hdec hlt r' hf ih =>
    obtain ⟨b, hcs, hbuf⟩ := Call.fill_none hf
    have hlen : r.receiveBuf.length = d := by omega
    have hexamined : (prefixesExamined P c d r).length =
        (prefixesExamined P c (d + 1) r').length + 1 := by
      rw [prefixesExamined, if_pos hle]
      simp only [hdec, if_pos hlt]
      split
      · rename_i o₁ r₁ hf₁
        rw [hf] at hf₁
        cases hf₁
      · rename_i r₁ hf₁
        rw [hf] at hf₁
        cases hf₁
        rfl
    have hno := undelimited_of_behind hlen hbehind hdec
    rw [hcs, hexamined]
    by_cases hb : b = []
    · subst hb
      rw [List.append_nil] at hbuf
      have hshort : ¬ d + 1 ≤ r'.receiveBuf.length := by
        rw [hbuf]
        omega
      rw [delimiterLoop, if_neg hshort, prefixesExamined, if_neg hshort]
      refine .gap [] _ rfl (by simp) (by simpa using hno) rfl ?_
      simp [hlen, Nat.add_comm]
    · have hpos : 0 < b.length := List.length_pos_iff.mpr hb
      rw [hbuf] at ih
      refine (ih ?_ ?_).cons hb
      · rw [List.length_append]
        omega
      · intro d' hd'
        rw [List.take_append_of_le_length (by omega)]
        exact hno d' (by omega)
  | case4 d r hle hdec hlt ih =>
    have hexamined : (prefixesExamined P c d r).length =
        (prefixesExamined P c (d + 1) r).length + 1 := by
      rw [prefixesExamined, if_pos hle]
      simp only [hdec, if_neg hlt, List.length_cons]
    rw [hexamined]
    refine (ih (by omega) ?_).step
    intro d' hd'
    rcases Nat.lt_or_eq_of_le (Nat.le_of_lt_succ hd') with hlt' | rfl
    · exact hbehind d' hlt'
    · exact hdec
  | case5 d r hle => exact absurd hd hle

/-! ## Panics -/

/-- The bytes that a call can have in its buffer before it is interrupted. -/
def Call.available (c : Call) (r : ReceiverSimplex) : List UInt8 :=
  r.receiveBuf ++ (c.chunks r.transport).flatten

/-- Delimiters announce a `usize`. -/
def Prost.Sized (P : Prost M) : Prop :=
  ∀ bs n, P.decodeLengthDelimiter bs = some n → n < 2 ^ 64

/-- The condition for one call: a delimiter has begun before every empty chunk, and the length that
the delimiter announces, with its own, is below `2 ^ 64`. -/
structure CallSafe (P : Prost M) (c : Call) (r : ReceiverSimplex) : Prop where
  nonempty : ∀ got rest, c.chunks r.transport = got ++ [] :: rest →
    ∃ d n, Delimits P (r.receiveBuf ++ got.flatten) d n
  fits : ∀ d n, Delimits P (c.available r) d n → d + n < 2 ^ 64

theorem Outcome.Interrupted.ne_panicked {o : Outcome M} (h : o.Interrupted) : o ≠ .panicked := by
  rintro rfl
  exact h

/-- A sum of the lengths that wraps is shorter than the delimiter. -/
theorem totalLen_lt {d n : Nat} (hn : n < 2 ^ 64) (hover : 2 ^ 64 ≤ d + n) : totalLen d n < d := by
  have hmod := Nat.div_add_mod (d + n) (2 ^ 64)
  have hdiv : 1 ≤ (d + n) / 2 ^ 64 := (Nat.one_le_div_iff (Nat.two_pow_pos 64)).mpr hover
  rw [totalLen]
  omega

/-- Behind the delimiter loop a call panics exactly when the sum of the lengths wraps. -/
theorem receiveInternal_of_delimiter {P : Prost M} (hP : P.Sized) {c : Call}
    {r r' : ReceiverSimplex} {d n : Nat} (hloop : delimiterLoop P c 0 r = (.ok (d, n), r'))
    (hd : Delimits P r'.receiveBuf d n) :
    (receiveInternal P c r).1 ≠ .panicked ↔ d + n < 2 ^ 64 := by
  have hn := hP _ n hd.decodes
  rcases hb : bodyLoop M c (totalLen d n) r' with ⟨_ | o, r''⟩
  · simp only [receiveInternal, hloop, hb]
    by_cases hfit : d + n < 2 ^ 64
    · have htotal : totalLen d n = d + n := Nat.mod_eq_of_lt hfit
      rw [htotal, if_pos (Nat.le_add_right d n)]
      refine ⟨fun _ => hfit, fun _ h => ?_⟩
      split at h
      · cases h
      · cases h
    · have hwrap := totalLen_lt hn (Nat.le_of_not_lt hfit)
      rw [if_neg (Nat.not_le.mpr hwrap)]
      exact ⟨fun h => absurd rfl h, fun h => absurd h hfit⟩
  · -- with a wrapped sum there is nothing to wait for
    have hfit : d + n < 2 ^ 64 := by
      by_contra hover
      have hwrap : totalLen d n ≤ r'.receiveBuf.length :=
        (totalLen_lt hn (Nat.le_of_not_lt hover)).le.trans hd.le
      rw [bodyLoop, if_neg (Nat.not_lt.mpr hwrap)] at hb
      cases hb
    simp only [receiveInternal, hloop, hb]
    exact ⟨fun _ => hfit, fun _ => (bodyLoop_leaves hb).ne_panicked⟩

/-- A chunk list that has a gap, and its part before the first one. -/
theorem append_prefix_of_not_mem {got rest got' rest' : List (List UInt8)} (hgot : [] ∉ got)
    (h : got ++ rest = got' ++ [] :: rest') : ∃ more, got' = got ++ more := by
  rcases List.append_eq_append_iff.mp h with ⟨more, hmore, -⟩ | ⟨more, hmore, hcons⟩
  · exact ⟨more, hmore⟩
  · cases more with
    | nil => exact ⟨[], by simpa using hmore.symm⟩
    | cons b more =>
      rw [List.cons_append] at hcons
      obtain ⟨rfl, -⟩ := List.cons.inj hcons
      exact absurd (by rw [hmore]; simp) hgot

/-- **When one call does not panic**, on any receiver. -/
theorem perform_safe_iff {P : Prost M} (hP : P.Sized) (c : Call) (r : ReceiverSimplex) :
    (perform P c r).1 ≠ .panicked ↔ CallSafe P c r := by
  rw [perform_eq]
  have hspec := delimiterLoop_spec P c 0 r (Nat.zero_le _) fun d' hd' => by omega
  rcases hloop : delimiterLoop P c 0 r with ⟨res, r'⟩
  rw [hloop] at hspec
  cases hspec with
  | found got rest d n hcs hgot hbuf hd hle hres hexamined =>
    simp only at hres hbuf hd
    subst hres
    rw [receiveInternal_of_delimiter hP hloop hd]
    have havail : Delimits P (c.available r) d n := by
      rw [Call.available, hcs, List.flatten_append, ← List.append_assoc, ← hbuf]
      exact hd.append _
    constructor
    · intro hfit
      refine ⟨fun got' rest' hcs' => ?_, fun d' n' hd' => ?_⟩
      · obtain ⟨more, rfl⟩ := append_prefix_of_not_mem hgot (hcs.symm.trans hcs')
        rw [List.flatten_append, ← List.append_assoc, ← hbuf]
        exact ⟨d, n, hd.append _⟩
      · obtain ⟨rfl, rfl⟩ := havail.unique hd'
        exact hfit
    · intro hsafe
      exact hsafe.fits d n havail
  | gap got rest hcs hgot hno hres hexamined =>
    simp only at hres
    subst hres
    simp only [receiveInternal, hloop]
    refine ⟨fun h => absurd rfl h, fun hsafe => ?_⟩
    obtain ⟨d, n, hd⟩ := hsafe.nonempty got rest hcs
    exact absurd hd hno.not_delimits
  | left o hgot hno ho hres hexamined =>
    simp only at hres
    subst hres
    simp only [receiveInternal, hloop]
    refine ⟨fun _ => ⟨fun got rest hcs => ?_, fun d n hd => ?_⟩, fun _ => ho.ne_panicked⟩
    · exact absurd (by rw [hcs]; simp) hgot
    · exact absurd hd hno.not_delimits

/-- Every call of a session is made on a receiver that satisfies its condition. -/
def SessionSafe (P : Prost M) : List Call → ReceiverSimplex → Prop
  | [], _ => True
  | c :: cs, r => CallSafe P c r ∧ SessionSafe P cs (perform P c r).2

/-- **When no call crashes the receiver.**  For any bytes in any chunks, any quiet spells and
failures of the transport and any calls on one receiver: no call overflows or slices outside the
buffer exactly when each of them meets `CallSafe`. -/
theorem session_safe_iff {P : Prost M} (hP : P.Sized) (cs : List Call) (r : ReceiverSimplex) :
    (∀ o ∈ (session P cs r).1, o ≠ .panicked) ↔ SessionSafe P cs r := by
  induction cs generalizing r with
  | nil => exact ⟨fun _ => trivial, (fun _ o ho => nomatch ho)⟩
  | cons c cs ih =>
    show (∀ o ∈ (perform P c r).1 :: (session P cs (perform P c r).2).1, o ≠ .panicked) ↔ _
    rw [List.forall_mem_cons, perform_safe_iff hP, ih]
    rfl

theorem flagProst_sized : flagProst.Sized := fun _ _ h => Varint.decode_lt h

/-- A message that arrives byte by byte. -/
theorem session_safe_iff_flag :
    .panicked ∉
      (session flagProst [.receive] (.new [.bytes [0x02], .bytes [0x08], .bytes [0x01]])).1 := by
  intro hpanic
  refine (session_safe_iff flagProst_sized _ _).mpr ?_ _ hpanic rfl
  refine ⟨⟨fun got rest h => ?_, fun d n hd => ?_⟩, trivial⟩
  · exact absurd (show [] ∈ Call.receive.chunks [.bytes [0x02], .bytes [0x08], .bytes [0x01]] by
      rw [show Call.receive.chunks [.bytes [0x02], .bytes [0x08], .bytes [0x01]] = _ from h]
      simp) (by decide)
  · have hone : Delimits flagProst (Call.receive.available
        (.new [.bytes [0x02], .bytes [0x08], .bytes [0x01]])) 1 2 := by
      refine ⟨rfl, by decide, fun d' hd' => ?_⟩
      rw [Nat.lt_one_iff.mp hd']
      rfl
    obtain ⟨rfl, rfl⟩ := hone.unique hd
    decide

/-- Ten bytes announce `2 ^ 64 - 1` bytes: the sum of the lengths wraps to 9, and the slice from 10
panics. -/
theorem session_panics :
    ¬ ∀ o ∈ (session flagProst [.receive] (.new [.bytes
      [0xff, 0xff, 0xff, 0xff, 0xff, 0xff, 0xff, 0xff, 0xff, 0x01]])).1, o ≠ .panicked := by
  intro h
  have hsafe := (perform_safe_iff flagProst_sized .receive _).mp (h _ List.mem_cons_self)
  have hten : Delimits flagProst (Call.receive.available (.new [.bytes
      [0xff, 0xff, 0xff, 0xff, 0xff, 0xff, 0xff, 0xff, 0xff, 0x01]])) 10 (2 ^ 64 - 1) := by
    refine ⟨by decide, by decide, ?_⟩
    decide
  have := hsafe.fits _ _ hten
  omega

/-! ## Malformed delimiters -/

/-- The first ten bytes are there, and they do not begin with a varint. -/
def Malformed (bs : List UInt8) : Prop := 10 ≤ bs.length ∧ Varint.decode (bs.take 10) = none

/-- A malformed delimiter is rejected at once, with the transport untouched, and besides the empty
prefix no more than ten prefixes are examined. -/
structure RejectsMalformed (P : Prost M) (c : Call) (r : ReceiverSimplex) : Prop where
  rejects : Malformed r.receiveBuf → perform P c r = (.decodeError, r)
  bounded : (prefixesExamined P c 0 r).length ≤ 10 + 1

/-- The bytes that arrive before the call is interrupted or an empty chunk does. -/
def Call.arrived (c : Call) (r : ReceiverSimplex) : List UInt8 :=
  r.receiveBuf ++ ((c.chunks r.transport).takeWhile fun b => b ≠ []).flatten

theorem takeWhile_of_not_mem {got : List (List UInt8)} (hgot : [] ∉ got) (rest : List (List UInt8)) :
    (got ++ rest).takeWhile (fun b => b ≠ []) = got ++ rest.takeWhile fun b => b ≠ [] := by
  apply List.takeWhile_append_of_pos
  intro b hb
  rw [decide_eq_true_eq]
  rintro rfl
  exact hgot hb

section Varints

variable {P : Prost M} (hP : P.decodeLengthDelimiter = Varint.decode)

include hP

/-- Bytes that begin with a varint have a delimiter, of at most ten bytes. -/
theorem delimits_le {bs : List UInt8} {d n : Nat} (h : Delimits P bs d n) :
    d ≤ 10 ∧ Varint.decode bs = some n := by
  have hdec := h.decodes
  rw [hP] at hdec
  constructor
  · by_contra hgt
    have hten := h.shorter 10 (Nat.lt_of_not_le hgt)
    have hmin : min 10 d = 10 := Nat.min_eq_left (Nat.le_of_lt (Nat.lt_of_not_le hgt))
    rw [hP] at hten
    rw [← Varint.decode_take_ten, List.take_take, hmin, hten] at hdec
    cases hdec
  · have := Varint.decode_append hdec (bs.drop d)
    rwa [List.take_append_drop] at this

theorem decode_eq_none_of_undelimited {bs : List UInt8} (h : Undelimited P bs) :
    Varint.decode bs = none := by
  have := h bs.length (Nat.le_refl _)
  rwa [hP, List.take_length] at this

/-- Malformed bytes have no delimiter. -/
theorem Malformed.not_delimits {bs : List UInt8} (h : Malformed bs) {more : List UInt8} {d n : Nat} :
    ¬ Delimits P (bs ++ more) d n := by
  intro hd
  have hdec := (delimits_le hP hd).2
  rw [← Varint.decode_take_ten, List.take_append_of_le_length h.1, h.2] at hdec
  cases hdec

/-- **A call on a malformed buffer** is never answered: it panics on an empty chunk, or ends when
the transport gives nothing. -/
theorem Malformed.unanswered {c : Call} {r : ReceiverSimplex} (h : Malformed r.receiveBuf) :
    (perform P c r).1 = .panicked ∨ (perform P c r).1.Interrupted := by
  have hspec := delimiterLoop_spec P c 0 r (Nat.zero_le _) fun d' hd' => by omega
  rw [perform_eq]
  rcases hloop : delimiterLoop P c 0 r with ⟨res, r'⟩
  rw [hloop] at hspec
  cases hspec with
  | found got rest d n hcs hgot hbuf hd hle hres hexamined =>
    simp only at hbuf hd
    rw [hbuf] at hd
    exact absurd hd (h.not_delimits hP)
  | gap got rest hcs hgot hno hres hexamined =>
    simp only at hres
    left
    rw [receiveInternal, hloop, hres]
  | left o hgot hno ho hres hexamined =>
    simp only at hres
    right
    rw [receiveInternal, hloop, hres]
    exact ho

theorem Malformed.not_rejected {c : Call} {r : ReceiverSimplex} (h : Malformed r.receiveBuf) :
    perform P c r ≠ (.decodeError, r) := by
  intro hrej
  rcases h.unanswered (c := c) hP with hpanic | hleft
  · rw [hrej] at hpanic
    cases hpanic
  · rw [hrej] at hleft
    exact hleft

/-- **When a malformed delimiter is rejected**: never.  A call meets the promise only where the
buffer is not malformed and, of the bytes that arrive, a varint stands at the head or there are no
more than ten. -/
theorem rejects_iff (c : Call) (r : ReceiverSimplex) :
    RejectsMalformed P c r ↔ ¬ Malformed r.receiveBuf ∧
      ((Varint.decode (c.arrived r)).isSome ∨ (c.arrived r).length ≤ 10) := by
  have hspec := delimiterLoop_spec P c 0 r (Nat.zero_le _) fun d' hd' => by omega
  rcases hloop : delimiterLoop P c 0 r with ⟨res, r'⟩
  rw [hloop] at hspec
  -- what each end of the loop says of the examined prefixes
  have hcount : (prefixesExamined P c 0 r).length ≤ 10 + 1 ↔
      ((Varint.decode (c.arrived r)).isSome ∨ (c.arrived r).length ≤ 10) := by
    cases hspec with
    | found got rest d n hcs hgot hbuf hd hle hres hexamined =>
      have harrived : Delimits P (c.arrived r) d n := by
        rw [Call.arrived, hcs, takeWhile_of_not_mem hgot, List.flatten_append, ← List.append_assoc,
          ← hbuf]
        exact hd.append _
      obtain ⟨hten, hdec⟩ := delimits_le hP harrived
      refine ⟨fun _ => Or.inl ?_, fun _ => by omega⟩
      rw [hdec]
      rfl
    | gap got rest hcs hgot hno hres hexamined =>
      have harrived : c.arrived r = r.receiveBuf ++ got.flatten := by
        rw [Call.arrived, hcs, takeWhile_of_not_mem hgot]
        simp
      rw [harrived, decode_eq_none_of_undelimited hP hno]
      simp only [Option.isSome_none, Bool.false_eq_true, false_or]
      omega
    | left o hgot hno ho hres hexamined =>
      have harrived : c.arrived r = r.receiveBuf ++ (c.chunks r.transport).flatten := by
        have := takeWhile_of_not_mem hgot []
        rw [List.append_nil, List.takeWhile_nil, List.append_nil] at this
        rw [Call.arrived, this]
      rw [harrived, decode_eq_none_of_undelimited hP hno]
      simp only [Option.isSome_none, Bool.false_eq_true, false_or]
      omega
  constructor
  · intro h
    exact ⟨fun hbad => hbad.not_rejected hP (h.rejects hbad), hcount.mp h.bounded⟩
  · rintro ⟨hgood, hbound⟩
    exact ⟨fun hbad => absurd hbad hgood, hcount.mpr hbound⟩

end Varints

/-- A delimiter that arrives in two parts. -/
theorem rejects_iff_flag :
    RejectsMalformed flagProst .receive (.new [.bytes [0x80], .bytes [0x01]]) := by
  apply (rejects_iff rfl .receive _).mpr
  refine ⟨fun h => absurd h.1 (by decide), Or.inr (by decide)⟩

/-- Ten bytes of which all have the high bit set: the call waits for more. -/
theorem rejects_fails :
    ¬ RejectsMalformed flagProst .receive ⟨[], List.replicate 10 0xff⟩ := by
  intro h
  have hbad : Malformed (List.replicate 10 (0xff : UInt8)) := ⟨by decide, by decide⟩
  exact hbad.not_rejected rfl (h.rejects hbad)

end ApertureC.InOrder
