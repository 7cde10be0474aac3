import Mathlib.Algebra.GroupWithZero.Nat
import Mathlib.Data.Nat.Basic

/-!
# Internet addresses and their text

The addresses of `core::net` and the reading of them by `IpAddr::from_str`:

* `Ipv4Addr`, `Ipv6Addr`, `IpAddr` — the addresses and their octets.
* `readNumber`, `readSeparator`, `readIpv4Addr`, `readGroups`, `readIpv6Addr` — the readers.  A
  reader that fails takes nothing; one that succeeds returns what is left of the text.
* `IpAddr.parse` — the whole text as an address.

`Reads p Q` says what a reader takes off the front of a text; there is one such lemma for each
reader.

Principal result: `IpAddr.parse_reads` — the characters of a text that is an address, the length of
an IPv4 one, and that an IPv6 address with a text of at most 16 characters has an octet 0.
-/

set_option autoImplicit false

namespace Net

structure Ipv4Addr where
  a : UInt8
  b : UInt8
  c : UInt8
  d : UInt8
  deriving DecidableEq, Repr

def Ipv4Addr.octets (addr : Ipv4Addr) : List UInt8 := [addr.a, addr.b, addr.c, addr.d]

structure Ipv6Addr where
  segments : Vector UInt16 8
  deriving DecidableEq, Repr

/-- `u16::to_be_bytes`. -/
def toBeBytes (segment : UInt16) : List UInt8 := [(segment >>> 8).toUInt8, segment.toUInt8]

def Ipv6Addr.octets (addr : Ipv6Addr) : List UInt8 := addr.segments.toList.flatMap toBeBytes

inductive IpAddr where
  | v4 (addr : Ipv4Addr)
  | v6 (addr : Ipv6Addr)
  deriving DecidableEq, Repr

def IpAddr.octets : IpAddr → List UInt8
  | .v4 addr => addr.octets
  | .v6 addr => addr.octets

/-- Takes a value off the front of a text, or fails. -/
abbrev Reader (α : Type) := List Char → Option (α × List Char)

/-- `char::to_digit`, for a radix of at most 16. -/
def toDigit (radix : Nat) (c : Char) : Option Nat :=
  let digit :=
    if 48 ≤ c.toNat ∧ c.toNat ≤ 57 then some (c.toNat - 48)
    else if 97 ≤ c.toNat ∧ c.toNat ≤ 102 then some (c.toNat - 87)
    else if 65 ≤ c.toNat ∧ c.toNat ≤ 70 then some (c.toNat - 55)
    else none
  digit.filter (· < radix)

/-- The loop of `read_number`: `digitCount` digits have been read, and `result` is their value. -/
def readDigits (radix maxDigits : Nat) : Nat → Nat → Reader (Nat × Nat)
  | result, digitCount, [] => some ((result, digitCount), [])
  | result, digitCount, c :: s =>
    match toDigit radix c with
    | none => some ((result, digitCount), c :: s)
    | some digit =>
      if maxDigits < digitCount + 1 then none
      else readDigits radix maxDigits (result * radix + digit) (digitCount + 1) s

/-- A number below `bound`. -/
def readNumber (radix maxDigits bound : Nat) (allowZeroPrefix : Bool) : Reader Nat := fun s =>
  match readDigits radix maxDigits 0 0 s with
  | none => none
  | some ((result, digitCount), rest) =>
    if digitCount = 0 then none
    else if allowZeroPrefix = false ∧ s.head? = some '0' ∧ 1 < digitCount then none
    else if result < bound then some (result, rest)
    else none

/-- The separator stands before every element of an indexed loop but the first. -/
def readSeparator {α : Type} (sep : Char) (index : Nat) (inner : Reader α) : Reader α := fun s =>
  if index = 0 then inner s
  else
    match s with
    | [] => none
    | c :: s => if c = sep then inner s else none

def readOctet (index : Nat) : Reader Nat := readSeparator '.' index (readNumber 10 3 256 false)

def readIpv4Addr : Reader Ipv4Addr := fun s => do
  let (a, s) ← readOctet 0 s
  let (b, s) ← readOctet 1 s
  let (c, s) ← readOctet 2 s
  let (d, s) ← readOctet 3 s
  return (⟨.ofNat a, .ofNat b, .ofNat c, .ofNat d⟩, s)

/-- `u16::from_be_bytes`. -/
def fromBeBytes (hi lo : UInt8) : UInt16 := .ofNat (hi.toNat * 256 + lo.toNat)

/-- The loop of `read_groups` with `left` groups to go, and whether an IPv4 address ended it. -/
def readGroups : Nat → Nat → List Char → (List UInt16 × Bool) × List Char
  | 0, _, s => (([], false), s)
  | left + 1, index, s =>
    -- an embedded address takes two groups
    match if 0 < left then readSeparator ':' index readIpv4Addr s else none with
    | some (addr, s) => (([fromBeBytes addr.a addr.b, fromBeBytes addr.c addr.d], true), s)
    | none =>
      match readSeparator ':' index (readNumber 16 4 65536 true) s with
      | none => (([], false), s)
      | some (group, s) =>
        let ((groups, ipv4), s) := readGroups left (index + 1) s
        ((.ofNat group :: groups, ipv4), s)

/-- Eight segments, `head` from the front, `tail` at the end and zeroes between them. -/
def Ipv6Addr.ofGroups (head tail : List UInt16) : Ipv6Addr :=
  ⟨Vector.ofFn fun i : Fin 8 =>
    if 8 - tail.length ≤ i.val then tail.getD (i.val - (8 - tail.length)) 0 else head.getD i.val 0⟩

def readIpv6Addr : Reader Ipv6Addr := fun s =>
  let ((head, headIpv4), s) := readGroups 8 0 s
  if head.length = 8 then some (.ofGroups head [], s)
  else if headIpv4 then none
  else
    match s with
    | ':' :: ':' :: s =>
      let ((tail, _), s) := readGroups (8 - (head.length + 1)) 0 s
      some (.ofGroups head tail, s)
    | _ => none

def readIpAddr : Reader IpAddr := fun s =>
  match readIpv4Addr s with
  | some (addr, s) => some (.v4 addr, s)
  | none => (readIpv6Addr s).map fun (addr, s) => (.v6 addr, s)

/-- `IpAddr::from_str`: the address has to be the whole text. -/
def IpAddr.parse (text : String) : Option IpAddr :=
  match readIpAddr text.toList with
  | some (addr, []) => some addr
  | _ => none

example : IpAddr.parse "127.0.0.1" = some (.v4 ⟨127, 0, 0, 1⟩) := by decide

example : IpAddr.parse "fe80::1" = some (.v6 ⟨#v[0xfe80, 0, 0, 0, 0, 0, 0, 1]⟩) := by decide

example : IpAddr.parse "localhost" = none := by decide

/-! ## What the readers take -/

/-- The characters of an address lie between `'.'` and `'f'`. -/
def AddrChar (c : Char) : Prop := 46 ≤ c.toNat ∧ c.toNat ≤ 102

instance (c : Char) : Decidable (AddrChar c) := inferInstanceAs (Decidable (_ ∧ _))

theorem toDigit_some {radix d : Nat} {c : Char} (h : toDigit radix c = some d) :
    AddrChar c ∧ d < radix := by
  unfold toDigit at h
  obtain ⟨hdigit, hlt⟩ := Option.filter_eq_some_iff.mp h
  refine ⟨?_, by simpa using hlt⟩
  unfold AddrChar
  split_ifs at hdigit <;> omega

/-- What the reader accepts starts with characters of an address, of which `Q` holds. -/
def Reads {α : Type} (p : Reader α) (Q : List Char → α → Prop) : Prop :=
  ∀ s a rest, p s = some (a, rest) →
    ∃ used, s = used ++ rest ∧ (∀ c ∈ used, AddrChar c) ∧ Q used a

theorem readDigits_reads {radix maxDigits : Nat} (result digitCount : Nat)
    (hcount : digitCount ≤ maxDigits) :
    Reads (readDigits radix maxDigits result digitCount) fun used out =>
      out.2 = digitCount + used.length ∧ out.2 ≤ maxDigits ∧
        out.1 < (result + 1) * radix ^ used.length := by
  intro s
  induction s generalizing result digitCount with
  | nil =>
    rintro ⟨value, count⟩ rest h
    obtain ⟨⟨rfl, rfl⟩, rfl⟩ := by simpa [readDigits] using h
    exact ⟨[], rfl, by simp, by simp, hcount, by simp⟩
  | cons c s ih =>
    rintro ⟨value, count⟩ rest h
    unfold readDigits at h
    cases hdigit : toDigit radix c with
    | none =>
      simp only [hdigit] at h
      obtain ⟨⟨rfl, rfl⟩, rfl⟩ := by simpa using h
      exact ⟨[], rfl, by simp, by simp, hcount, by simp⟩
    | some digit =>
      simp only [hdigit] at h
      split_ifs at h with hmax
      obtain ⟨hc, hlt⟩ := toDigit_some hdigit
      obtain ⟨used, rfl, hused, hlen, hle, hvalue⟩ := ih _ _ (by omega) _ _ h
      refine ⟨c :: used, rfl, by simpa using ⟨hc, hused⟩, ?_, hle, ?_⟩
      · simp only at hlen ⊢
        rw [hlen, List.length_cons]
        omega
      · have hstep : result * radix + digit + 1 ≤ (result + 1) * radix := by
          rw [Nat.add_mul]
          omega
        calc value < (result * radix + digit + 1) * radix ^ used.length := hvalue
          _ ≤ (result + 1) * radix * radix ^ used.length := Nat.mul_le_mul_right _ hstep
          _ = (result + 1) * radix ^ (c :: used).length := by
            rw [List.length_cons, Nat.pow_succ, Nat.mul_assoc, Nat.mul_comm radix]

theorem readNumber_reads {radix maxDigits bound : Nat} {allowZeroPrefix : Bool} :
    Reads (readNumber radix maxDigits bound allowZeroPrefix) fun used value =>
      1 ≤ used.length ∧ used.length ≤ maxDigits ∧ value < radix ^ used.length ∧ value < bound := by
  intro s value rest h
  unfold readNumber at h
  split at h
  · cases h
  · rename_i result digitCount rest' hdigits
    split_ifs at h with hzero hlead hbound
    obtain ⟨rfl, rfl⟩ := by simpa using h
    obtain ⟨used, hs, hused, hlen, hmax, hvalue⟩ :=
      readDigits_reads 0 0 (Nat.zero_le _) _ _ _ hdigits
    simp only [Nat.zero_add, Nat.one_mul] at hlen hmax hvalue
    exact ⟨used, hs, hused, by omega, by omega, hvalue, hbound⟩

/-- The separator takes one character more, but for the first element. -/
theorem readSeparator_reads {α : Type} {sep : Char} {index : Nat} {inner : Reader α}
    {Q : List Char → α → Prop} (hsep : AddrChar sep) (h : Reads inner Q) :
    Reads (readSeparator sep index inner) fun used a =>
      ∃ element, Q element a ∧ used.length = element.length + min index 1 := by
  intro s a rest hread
  unfold readSeparator at hread
  by_cases hindex : index = 0
  · rw [if_pos hindex] at hread
    obtain ⟨used, hs, hused, hQ⟩ := h _ _ _ hread
    exact ⟨used, hs, hused, used, hQ, by rw [hindex]; rfl⟩
  · rw [if_neg hindex] at hread
    cases s with
    | nil => cases hread
    | cons c s =>
      simp only at hread
      split_ifs at hread with hc
      obtain ⟨used, rfl, hused, hQ⟩ := h _ _ _ hread
      refine ⟨c :: used, rfl, by simpa [hc] using ⟨hsep, hused⟩, used, hQ, ?_⟩
      rw [List.length_cons]
      omega

theorem readOctet_reads (index : Nat) :
    Reads (readOctet index) fun used _ =>
      1 + min index 1 ≤ used.length ∧ used.length ≤ 3 + min index 1 := by
  intro s a rest h
  obtain ⟨used, hs, hused, digits, ⟨hlo, hhi, -⟩, hlen⟩ :=
    readSeparator_reads (by decide) readNumber_reads s a rest h
  exact ⟨used, hs, hused, by omega, by omega⟩

theorem readIpv4Addr_reads :
    Reads readIpv4Addr fun used _ => 7 ≤ used.length ∧ used.length ≤ 15 := by
  intro s addr rest h
  simp only [readIpv4Addr, Option.bind_eq_bind, Option.bind_eq_some_iff, Option.pure_def,
    Prod.exists, Option.some.injEq, Prod.mk.injEq] at h
  obtain ⟨a, s₁, ha, b, s₂, hb, c, s₃, hc, d, s₄, hd, -, rfl⟩ := h
  obtain ⟨u₁, rfl, h₁, hlo₁, hhi₁⟩ := readOctet_reads 0 _ _ _ ha
  obtain ⟨u₂, rfl, h₂, hlo₂, hhi₂⟩ := readOctet_reads 1 _ _ _ hb
  obtain ⟨u₃, rfl, h₃, hlo₃, hhi₃⟩ := readOctet_reads 2 _ _ _ hc
  obtain ⟨u₄, rfl, h₄, hlo₄, hhi₄⟩ := readOctet_reads 3 _ _ _ hd
  refine ⟨u₁ ++ (u₂ ++ (u₃ ++ u₄)), by simp, ?_, ?_⟩
  · simp only [List.mem_append]
    rintro ch (hch | hch | hch | hch)
    exacts [h₁ ch hch, h₂ ch hch, h₃ ch hch, h₄ ch hch]
  · simp only [List.length_append]
    omega

/-- A group with two digits or more takes three characters, but for a separator that the first one
lacks. -/
theorem readGroup_reads (index : Nat) :
    Reads (readSeparator ':' index (readNumber 16 4 65536 true)) fun used group =>
      16 ≤ (UInt16.ofNat group).toNat → 3 ≤ used.length + (1 - index) := by
  intro s group rest h
  obtain ⟨used, hs, hused, digits, ⟨hone, -, hvalue, -⟩, hlen⟩ :=
    readSeparator_reads (by decide) readNumber_reads s group rest h
  refine ⟨used, hs, hused, fun hgroup => ?_⟩
  -- one digit has a value below 16
  have htwo : digits.length ≠ 1 := by
    intro hdigit
    rw [hdigit] at hvalue
    rw [UInt16.toNat_ofNat'] at hgroup
    omega
  omega

/-- An embedded address takes more characters than two groups do. -/
theorem readEmbedded_reads (index : Nat) :
    Reads (readSeparator ':' index readIpv4Addr) fun used _ => 6 ≤ used.length := by
  intro s addr rest h
  obtain ⟨used, hs, hused, text, ⟨hlo, -⟩, hlen⟩ :=
    readSeparator_reads (by decide) readIpv4Addr_reads s addr rest h
  exact ⟨used, hs, hused, by omega⟩

/-- Groups with two digits or more take three characters each, but for the separator that the first
one lacks. -/
theorem readGroups_used (left : Nat) : ∀ (index : Nat) (s : List Char),
    ∃ used, s = used ++ (readGroups left index s).2 ∧ (∀ c ∈ used, AddrChar c) ∧
      (readGroups left index s).1.1.length ≤ left ∧
      ((∀ group ∈ (readGroups left index s).1.1, 16 ≤ group.toNat) →
        3 * (readGroups left index s).1.1.length ≤ used.length + (1 - index)) := by
  induction left with
  | zero => exact fun index s => ⟨[], rfl, by simp, by simp [readGroups], by simp [readGroups]⟩
  | succ left ih =>
    intro index s
    unfold readGroups
    cases hipv4 : if 0 < left then readSeparator ':' index readIpv4Addr s else none with
    | some out =>
      obtain ⟨addr, rest⟩ := out
      split_ifs at hipv4 with hleft
      obtain ⟨used, rfl, hused, hlen⟩ := readEmbedded_reads index _ _ _ hipv4
      refine ⟨used, rfl, hused, ?_, fun _ => ?_⟩
      · simp only [List.length_cons, List.length_nil]
        omega
      · simp only [List.length_cons, List.length_nil]
        omega
    | none =>
      simp only
      cases hgroup : readSeparator ':' index (readNumber 16 4 65536 true) s with
      | none => exact ⟨[], rfl, by simp, by simp, by simp⟩
      | some out =>
        obtain ⟨group, s'⟩ := out
        obtain ⟨used₁, rfl, hused₁, hshort⟩ := readGroup_reads index _ _ _ hgroup
        obtain ⟨used₂, hs', hused₂, hle, hlong⟩ := ih (index + 1) s'
        rcases hgroups : readGroups left (index + 1) s' with ⟨⟨groups, ipv4⟩, rest⟩
        simp only [hgroups] at hs' hle hlong ⊢
        refine ⟨used₁ ++ used₂, by rw [hs', List.append_assoc], ?_, ?_, fun hall => ?_⟩
        · intro c hc
          exact (List.mem_append.mp hc).elim (hused₁ c) (hused₂ c)
        · rw [List.length_cons]
          omega
        · have h₁ := hshort (hall _ List.mem_cons_self)
          have h₂ := hlong fun g hg => hall g (List.mem_cons_of_mem _ hg)
          rw [List.length_cons, List.length_append]
          omega

/-! ## The octets of an address -/

theorem Ipv4Addr.octets_length (addr : Ipv4Addr) : addr.octets.length = 4 := rfl

theorem Ipv6Addr.octets_length (addr : Ipv6Addr) : addr.octets.length = 16 := by
  simp [Ipv6Addr.octets, List.length_flatMap, toBeBytes, List.map_const']

theorem IpAddr.octets_length (addr : IpAddr) :
    addr.octets.length = 4 ∨ addr.octets.length = 16 := by
  cases addr with
  | v4 addr => exact .inl addr.octets_length
  | v6 addr => exact .inr addr.octets_length

theorem zero_mem_toBeBytes {segment : UInt16} (h : segment.toNat < 16) :
    0 ∈ toBeBytes segment := by
  refine List.mem_cons.mpr (.inl ?_)
  apply UInt8.toNat_inj.mp
  rw [UInt16.toNat_toUInt8, UInt16.toNat_shiftRight, Nat.shiftRight_eq_div_pow]
  have hbits : (8 : UInt16).toNat % 16 = 8 := rfl
  rw [hbits, UInt8.toNat_zero]
  omega

theorem Ipv6Addr.zero_mem_octets {addr : Ipv6Addr} {i : Nat} (hi : i < 8)
    (h : addr.segments[i].toNat < 16) : 0 ∈ addr.octets := by
  rw [Ipv6Addr.octets, List.mem_flatMap]
  exact ⟨addr.segments[i], by simp, zero_mem_toBeBytes h⟩

/-- `head` from the front, where no tail reaches. -/
theorem Ipv6Addr.getElem_ofGroups {head tail : List UInt16} {i : Nat} (hi : i < 8)
    (h : i + tail.length < 8) : (Ipv6Addr.ofGroups head tail).segments[i] = head.getD i 0 := by
  simp only [Ipv6Addr.ofGroups, Vector.getElem_ofFn]
  rw [if_neg (by omega)]

/-- An IPv6 address with a text of at most 16 characters has an octet 0: either a group of one
digit or a `::`. -/
theorem readIpv6Addr_reads :
    Reads readIpv6Addr fun used addr => used.length ≤ 16 → 0 ∈ addr.octets := by
  intro s addr rest h
  obtain ⟨used₁, hs, hused₁, hle, hlong⟩ := readGroups_used 8 0 s
  unfold readIpv6Addr at h
  rcases hhead : readGroups 8 0 s with ⟨⟨head, ipv4⟩, s₁⟩
  simp only [hhead] at hs hle hlong h
  split_ifs at h with hfull hipv4
  · obtain ⟨rfl, rfl⟩ := by simpa using h
    refine ⟨used₁, hs, hused₁, fun hlen => ?_⟩
    -- eight groups of two digits or more would take 23 characters
    obtain ⟨group, hgroup, hsmall⟩ : ∃ group ∈ head, group.toNat < 16 := by
      by_contra hnone
      have := hlong fun g hg => Nat.le_of_not_lt fun hg' => hnone ⟨g, hg, hg'⟩
      omega
    obtain ⟨i, hi, rfl⟩ := List.mem_iff_getElem.mp hgroup
    apply Ipv6Addr.zero_mem_octets (show i < 8 by omega)
    rw [Ipv6Addr.getElem_ofGroups (by omega) (by simp only [List.length_nil]; omega),
      List.getD_eq_getElem?_getD, List.getElem?_eq_getElem hi]
    exact hsmall
  · split at h
    · rename_i s₂
      obtain ⟨used₂, hs₂, hused₂, hle₂, -⟩ := readGroups_used (8 - (head.length + 1)) 0 s₂
      rcases htail : readGroups (8 - (head.length + 1)) 0 s₂ with ⟨⟨tail, ipv4'⟩, s₃⟩
      simp only [htail] at hs₂ hle₂ h
      obtain ⟨rfl, rfl⟩ := by simpa using h
      refine ⟨used₁ ++ (':' :: ':' :: used₂), by simp [hs, hs₂], ?_, fun _ => ?_⟩
      · simp only [List.mem_append, List.mem_cons]
        rintro c (hc | rfl | rfl | hc)
        exacts [hused₁ c hc, by decide, by decide, hused₂ c hc]
      · apply Ipv6Addr.zero_mem_octets (show head.length < 8 by omega)
        rw [Ipv6Addr.getElem_ofGroups (by omega) (by omega), List.getD_eq_getElem?_getD,
          List.getElem?_eq_none (Nat.le_refl _)]
        decide
    · cases h

/-! ## The whole text -/

/-- What a text that is an address is like. -/
theorem IpAddr.parse_reads {text : String} {addr : IpAddr} (h : IpAddr.parse text = some addr) :
    (∀ c ∈ text.toList, AddrChar c) ∧
      match addr with
      | .v4 _ => 7 ≤ text.length ∧ text.length ≤ 15
      | .v6 addr => text.length ≤ 16 → 0 ∈ addr.octets := by
  unfold IpAddr.parse readIpAddr at h
  rw [← String.length_toList]
  cases hipv4 : readIpv4Addr text.toList with
  | some out =>
    obtain ⟨addr', rest⟩ := out
    simp only [hipv4] at h
    split at h
    · rename_i heq
      obtain ⟨rfl, rfl⟩ := by simpa using heq
      obtain rfl := by simpa using h
      obtain ⟨used, hs, hused, hlen⟩ := readIpv4Addr_reads _ _ _ hipv4
      rw [hs, List.append_nil]
      exact ⟨hused, hlen⟩
    · cases h
  | none =>
    simp only [hipv4] at h
    split at h
    · rename_i heq
      obtain ⟨⟨addr', rest⟩, hipv6, hout⟩ := Option.map_eq_some_iff.mp heq
      obtain ⟨rfl, rfl⟩ := by simpa using hout
      obtain rfl := by simpa using h
      obtain ⟨used, hs, hused, hlen⟩ := readIpv6Addr_reads _ _ _ hipv6
      rw [hs, List.append_nil]
      exact ⟨hused, hlen⟩
    · cases h

end Net
