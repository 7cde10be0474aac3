import Mathlib.Tactic.NormNum

/-!
# Base-128 varints

Unsigned 64-bit numbers as one to ten bytes: seven payload bits a byte, least significant group
first, the high bit set on every byte but the last.

* `encode`, `decode` — the two directions; `decode` reads the varint at the head of a byte string
  and rejects one that does not end within ten bytes or that overflows 64 bits.

Principal results: `decode_encode` (reading undoes writing) and `decode_take_encode` (no strict
part of a varint reads as a varint), for every number below `2 ^ 64`; `decode_append` (what follows
a varint does not matter), `decode_take_ten` (only ten bytes are looked at) and `decode_lt`.
-/

set_option autoImplicit false

namespace Varint

/-- At most `k` groups of the number, least significant first. -/
def encodeLoop : Nat → Nat → List UInt8
  | 0, _ => []
  | k + 1, n =>
    if n < 128 then [UInt8.ofNat n] else UInt8.ofNat (n % 128 + 128) :: encodeLoop k (n / 128)

/-- Read at most `k` groups; the last of them may hold the topmost bit only. -/
def decodeLoop : Nat → List UInt8 → Option Nat
  | 0, _ => none
  | _ + 1, [] => none
  | k + 1, b :: bs =>
    if b.toNat < 128 then
      if k = 0 ∧ 2 ≤ b.toNat then none else some b.toNat
    else (decodeLoop k bs).map fun n => b.toNat - 128 + 128 * n

/-- The varint of a number. -/
def encode (n : Nat) : List UInt8 := encodeLoop 10 n

/-- The number whose varint stands at the head of the bytes. -/
def decode (bs : List UInt8) : Option Nat := decodeLoop 10 bs

theorem toNat_ofNat_lt {n : Nat} (h : n < 256) : (UInt8.ofNat n).toNat = n := by
  simp only [UInt8.toNat_ofNat']
  omega

theorem toNat_more (n : Nat) : (UInt8.ofNat (n % 128 + 128)).toNat = n % 128 + 128 :=
  toNat_ofNat_lt (by omega)

theorem decodeLoop_encodeLoop : ∀ (k n : Nat), n < 2 * 128 ^ k →
    decodeLoop (k + 1) (encodeLoop (k + 1) n) = some n
  | 0, n, h => by
    have hn : n < 2 := by simpa using h
    have hb : (UInt8.ofNat n).toNat = n := toNat_ofNat_lt (by omega)
    rw [encodeLoop, if_pos (by omega), decodeLoop, hb]
    rw [if_pos (by omega), if_neg (by omega)]
  | k + 1, n, h => by
    rw [encodeLoop]
    split
    · rename_i hn
      have hb : (UInt8.ofNat n).toNat = n := toNat_ofNat_lt (by omega)
      rw [decodeLoop, hb, if_pos hn, if_neg (by omega)]
    · rename_i hn
      have hrest : n / 128 < 2 * 128 ^ k := by
        rw [Nat.pow_succ] at h
        omega
      rw [decodeLoop, toNat_more, if_neg (by omega), decodeLoop_encodeLoop k _ hrest]
      simp only [Option.map_some, Option.some.injEq]
      omega

theorem decodeLoop_take : ∀ (k n d : Nat), d < (encodeLoop k n).length →
    decodeLoop k ((encodeLoop k n).take d) = none
  | 0, _, _, _ => rfl
  | _ + 1, _, 0, _ => rfl
  | k + 1, n, d + 1, h => by
    rw [encodeLoop] at h ⊢
    split at h
    · simp at h
    · rename_i hn
      have hd : d < (encodeLoop k (n / 128)).length := by simpa using h
      rw [if_neg hn, List.take_succ_cons, decodeLoop, toNat_more, if_neg (by omega)]
      rw [decodeLoop_take k _ d hd, Option.map_none]

/-- **Reading a varint gives the number written.** -/
theorem decode_encode {n : Nat} (h : n < 2 ^ 64) : decode (encode n) = some n := by
  have h' : n < 2 * 128 ^ 9 := by
    norm_num at h ⊢
    exact h
  exact decodeLoop_encodeLoop 9 n h'

/-- **A strict part of a varint does not read as one.** -/
theorem decode_take_encode {n d : Nat} (h : d < (encode n).length) :
    decode ((encode n).take d) = none :=
  decodeLoop_take 10 n d h

/-! ## Any bytes -/

theorem decodeLoop_append (bs : List UInt8) : ∀ {k : Nat} {as : List UInt8} {n : Nat},
    decodeLoop k as = some n → decodeLoop k (as ++ bs) = some n
  | 0, _, _, h => nomatch h
  | _ + 1, [], _, h => nomatch h
  | k + 1, a :: as, n, h => by
    rw [decodeLoop] at h
    rw [List.cons_append, decodeLoop]
    split at h
    · rename_i ha
      rw [if_pos ha]
      exact h
    · rename_i ha
      obtain ⟨m, hm, rfl⟩ := Option.map_eq_some_iff.mp h
      rw [if_neg ha, decodeLoop_append bs hm, Option.map_some]

theorem decodeLoop_take_self : ∀ (k : Nat) (bs : List UInt8),
    decodeLoop k (bs.take k) = decodeLoop k bs
  | 0, _ => rfl
  | _ + 1, [] => rfl
  | k + 1, b :: bs => by
    rw [List.take_succ_cons, decodeLoop, decodeLoop, decodeLoop_take_self k bs]

theorem decodeLoop_lt : ∀ {k : Nat} {bs : List UInt8} {n : Nat},
    decodeLoop (k + 1) bs = some n → n < 2 * 128 ^ k
  | _, [], _, h => nomatch h
  | 0, b :: bs, n, h => by
    rw [decodeLoop] at h
    split at h
    · split at h
      · cases h
      · cases h
        omega
    · cases h
  | k + 1, b :: bs, n, h => by
    rw [decodeLoop] at h
    have hpos : 0 < 128 ^ k := Nat.pow_pos (by decide)
    split at h
    · rw [if_neg (by omega)] at h
      cases h
      rw [Nat.pow_succ]
      omega
    · obtain ⟨m, hm, rfl⟩ := Option.map_eq_some_iff.mp h
      have hlt := decodeLoop_lt hm
      have hb := b.toNat_lt
      rw [Nat.pow_succ]
      omega

/-- **What follows a varint does not matter.** -/
theorem decode_append {as : List UInt8} {n : Nat} (h : decode as = some n) (bs : List UInt8) :
    decode (as ++ bs) = some n :=
  decodeLoop_append bs h

/-- **Only the first ten bytes are looked at.** -/
theorem decode_take_ten (bs : List UInt8) : decode (bs.take 10) = decode bs :=
  decodeLoop_take_self 10 bs

/-- **A varint is a 64-bit number.** -/
theorem decode_lt {bs : List UInt8} {n : Nat} (h : decode bs = some n) : n < 2 ^ 64 := by
  have hlt : n < 2 * 128 ^ 9 := decodeLoop_lt h
  norm_num at hlt ⊢
  exact hlt

end Varint
