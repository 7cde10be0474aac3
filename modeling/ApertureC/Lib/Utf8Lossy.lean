import Mathlib.Data.Nat.Basic

/-!
# Octets as text

`String::from_utf8_lossy`: octets that are UTF-8 are decoded, and every longest start of a character
that does not go on as one becomes a replacement character.

* `charWidth`, `firstChar` — the character that starts at an octet, and how many of the octets that
  follow belong to it.
* `lossyChars`, `fromUtf8Lossy` — the whole text.

Principal result: `fromUtf8Lossy_ascii` — octets that are read as ASCII text are its characters.
-/

set_option autoImplicit false

namespace Utf8

def REPLACEMENT_CHARACTER : Char := '\uFFFD'

/-- `utf8_char_width`; 0 for an octet that starts no character. -/
def charWidth (first : UInt8) : Nat :=
  if first < 0x80 then 1
  else if first < 0xC2 then 0
  else if first < 0xE0 then 2
  else if first < 0xF0 then 3
  else if first < 0xF5 then 4
  else 0

def isContinuation (octet : UInt8) : Bool := 0x80 ≤ octet ∧ octet ≤ 0xBF

/-- The second octets of a character of three or four: none that is overlong, a surrogate or too
large. -/
def isSecond (first octet : UInt8) : Bool :=
  if first = 0xE0 then 0xA0 ≤ octet ∧ octet ≤ 0xBF
  else if first = 0xED then 0x80 ≤ octet ∧ octet ≤ 0x9F
  else if first = 0xF0 then 0x90 ≤ octet ∧ octet ≤ 0xBF
  else if first = 0xF4 then 0x80 ≤ octet ∧ octet ≤ 0x8F
  else isContinuation octet

/-- The six bits that a continuation octet holds. -/
def bits (octet : UInt8) : Nat := octet.toNat % 64

/-- The character at the head of `first :: rest`, and how many octets of `rest` it takes. -/
def firstChar (first : UInt8) (rest : List UInt8) : Char × Nat :=
  match charWidth first, rest with
  | 1, _ => (Char.ofNat first.toNat, 0)
  | 2, b :: _ =>
    if isContinuation b then (Char.ofNat (first.toNat % 32 * 64 + bits b), 1)
    else (REPLACEMENT_CHARACTER, 0)
  | 3, b :: rest =>
    if isSecond first b then
      match rest with
      | c :: _ =>
        if isContinuation c then
          (Char.ofNat (first.toNat % 16 * 4096 + bits b * 64 + bits c), 2)
        else (REPLACEMENT_CHARACTER, 1)
      | [] => (REPLACEMENT_CHARACTER, 1)
    else (REPLACEMENT_CHARACTER, 0)
  | 4, b :: rest =>
    if isSecond first b then
      match rest with
      | c :: rest =>
        if isContinuation c then
          match rest with
          | d :: _ =>
            if isContinuation d then
              (Char.ofNat (first.toNat % 8 * 262144 + bits b * 4096 + bits c * 64 + bits d), 3)
            else (REPLACEMENT_CHARACTER, 2)
          | [] => (REPLACEMENT_CHARACTER, 2)
        else (REPLACEMENT_CHARACTER, 1)
      | [] => (REPLACEMENT_CHARACTER, 1)
    else (REPLACEMENT_CHARACTER, 0)
  | _, _ => (REPLACEMENT_CHARACTER, 0)

/-- The characters of the octets after the first `skip`, which belong to a character before them. -/
def lossyChars : Nat → List UInt8 → List Char
  | _, [] => []
  | 0, first :: rest => (firstChar first rest).1 :: lossyChars (firstChar first rest).2 rest
  | skip + 1, _ :: rest => lossyChars skip rest

def fromUtf8Lossy (octets : List UInt8) : String := String.ofList (lossyChars 0 octets)

example : fromUtf8Lossy [0x61, 0xC3, 0xA9, 0xE2, 0x82, 0x7F] = "aé\uFFFD\x7F" := by decide

/-- A character with a code from 128 on, which is no surrogate. -/
theorem le_toNat_ofNat {n : Nat} (hn : 128 ≤ n) (hvalid : n.isValidChar) :
    128 ≤ (Char.ofNat n).toNat := by
  rw [Char.ofNat, dif_pos hvalid]
  exact hn

theorem le_replacement : 128 ≤ REPLACEMENT_CHARACTER.toNat := by decide

theorem charWidth_bounds (first : UInt8) :
    (charWidth first = 1 → first.toNat < 128) ∧
      (charWidth first = 2 → 0xC2 ≤ first.toNat ∧ first.toNat < 0xE0) ∧
      (charWidth first = 3 → 0xE0 ≤ first.toNat ∧ first.toNat < 0xF0) ∧
      (charWidth first = 4 → 0xF0 ≤ first.toNat ∧ first.toNat < 0xF5) := by
  unfold charWidth
  simp only [UInt8.lt_iff_toNat_lt, UInt8.reduceToNat]
  split_ifs <;> simp <;> omega

theorem bits_lt (octet : UInt8) : bits octet < 64 := Nat.mod_lt _ (by decide)

/-- What the second octet of a long character leaves out. -/
theorem isSecond_bits {first b : UInt8} (h : isSecond first b = true) :
    (first.toNat = 0xE0 → 32 ≤ bits b) ∧ (first.toNat = 0xED → bits b < 32) ∧
      (first.toNat = 0xF0 → 16 ≤ bits b) ∧ (first.toNat = 0xF4 → bits b < 16) := by
  unfold isSecond isContinuation at h
  unfold bits
  simp only [← UInt8.toNat_inj, UInt8.le_iff_toNat_le, UInt8.reduceToNat] at h
  split_ifs at h <;> simp only [decide_eq_true_eq] at h <;> omega

theorem le_two {first b : UInt8} (hwidth : charWidth first = 2) :
    128 ≤ (Char.ofNat (first.toNat % 32 * 64 + bits b)).toNat := by
  have hfirst := (charWidth_bounds first).2.1 hwidth
  have hb := bits_lt b
  exact le_toNat_ofNat (by omega) (.inl (by omega))

theorem le_three {first b c : UInt8} (hwidth : charWidth first = 3)
    (hsecond : isSecond first b = true) :
    128 ≤ (Char.ofNat (first.toNat % 16 * 4096 + bits b * 64 + bits c)).toNat := by
  have hfirst := (charWidth_bounds first).2.2.1 hwidth
  obtain ⟨hlow, hsurrogate, -⟩ := isSecond_bits hsecond
  have hb := bits_lt b
  have hc := bits_lt c
  refine le_toNat_ofNat (by omega) ?_
  unfold Nat.isValidChar
  omega

theorem le_four {first b c d : UInt8} (hwidth : charWidth first = 4)
    (hsecond : isSecond first b = true) :
    128 ≤ (Char.ofNat
      (first.toNat % 8 * 262144 + bits b * 4096 + bits c * 64 + bits d)).toNat := by
  have hfirst := (charWidth_bounds first).2.2.2 hwidth
  obtain ⟨-, -, hlow, hhigh⟩ := isSecond_bits hsecond
  have hb := bits_lt b
  have hc := bits_lt c
  have hd := bits_lt d
  refine le_toNat_ofNat (by omega) (.inr ?_)
  omega

theorem le_firstChar {first : UInt8} {rest : List UInt8} (h : charWidth first ≠ 1) :
    128 ≤ (firstChar first rest).1.toNat := by
  unfold firstChar
  split
  case h_1 hwidth => exact absurd hwidth h
  case h_2 hwidth =>
    split_ifs
    · exact le_two hwidth
    · exact le_replacement
  case h_3 hwidth =>
    split_ifs with hsecond
    · split
      · split_ifs
        · exact le_three hwidth hsecond
        · exact le_replacement
      · exact le_replacement
    · exact le_replacement
  case h_4 hwidth =>
    split_ifs with hsecond
    · split
      · split_ifs
        · split
          · split_ifs
            · exact le_four hwidth hsecond
            · exact le_replacement
          · exact le_replacement
        · exact le_replacement
      · exact le_replacement
    · exact le_replacement
  case h_5 => exact le_replacement

/-- Only an octet below 128 is read as an ASCII character. -/
theorem firstChar_ascii {first : UInt8} {rest : List UInt8}
    (h : (firstChar first rest).1.toNat < 128) :
    firstChar first rest = (Char.ofNat first.toNat, 0) := by
  have hwidth : charWidth first = 1 := by
    by_contra hne
    have hle : 128 ≤ (firstChar first rest).1.toNat := le_firstChar hne
    omega
  unfold firstChar
  rw [hwidth]
  rfl

theorem lossyChars_ascii {octets : List UInt8} (h : ∀ c ∈ lossyChars 0 octets, c.toNat < 128) :
    lossyChars 0 octets = octets.map fun octet => Char.ofNat octet.toNat := by
  induction octets with
  | nil => rfl
  | cons first rest ih =>
    simp only [lossyChars, List.mem_cons] at h
    have hfirst := firstChar_ascii (h _ (.inl rfl))
    rw [hfirst] at h
    simp only [lossyChars, hfirst, List.map_cons]
    rw [ih fun c hc => h c (.inr hc)]

/-- Octets that are read as ASCII text are its characters. -/
theorem fromUtf8Lossy_ascii {octets : List UInt8} {text : String}
    (h : fromUtf8Lossy octets = text) (hascii : ∀ c ∈ text.toList, c.toNat < 128) :
    text.toList = octets.map fun octet => Char.ofNat octet.toNat := by
  subst h
  rw [fromUtf8Lossy, String.toList_ofList] at *
  exact lossyChars_ascii hascii

end Utf8
