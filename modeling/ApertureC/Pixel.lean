import ApertureC.Lib.Grid
import Mathlib.Data.List.Basic

/-!
# Pixels (`aperturec-graphics/src/pixel.rs`)

* `Pixel24`, `Pixel32` — `repr(C)` pixels in B-G-R(-A) byte order, with the two conversions the
  media pipeline uses: `AssignElem<Pixel32> for Pixel24` drops the alpha channel, and
  `From<Pixel24> for Pixel32` makes the pixel opaque.
* `simdEq` — `Pixel32MapExt::simd_eq` on arrays whose rows are contiguous: every row is compared
  in chunks of eight 32-bit words and a remainder, with an early exit.
* `castBytes`, `castPixels` — the byte view of a pixel vector and back.

Principal results: `simdEq_iff` (`simd_eq` is equality of shape and of every pixel) and
`castPixels_castBytes` (the byte view loses nothing).
-/

set_option autoImplicit false

namespace ApertureC

open Geometry

structure Pixel24 where
  blue : UInt8
  green : UInt8
  red : UInt8
  deriving DecidableEq, Repr, Inhabited

structure Pixel32 where
  blue : UInt8
  green : UInt8
  red : UInt8
  alpha : UInt8
  deriving DecidableEq, Repr, Inhabited

/-- `AssignElem<Pixel32> for &mut Pixel24`: the colour without the alpha channel. -/
def Pixel24.assignElem (p : Pixel32) : Pixel24 := ⟨p.blue, p.green, p.red⟩

/-- `From<Pixel24> for Pixel32`. -/
def Pixel32.fromPixel24 (p : Pixel24) : Pixel32 := ⟨p.blue, p.green, p.red, 255⟩

@[simp] theorem Pixel24.assignElem_fromPixel24 (p : Pixel24) :
    Pixel24.assignElem (Pixel32.fromPixel24 p) = p := rfl

/-! ## Comparison -/

/-- The four bytes of a pixel as one 32-bit word. -/
def Pixel32.word (p : Pixel32) : Nat :=
  p.blue.toNat + 256 * (p.green.toNat + 256 * (p.red.toNat + 256 * p.alpha.toNat))

theorem Pixel32.word_inj {p q : Pixel32} : p.word = q.word ↔ p = q := by
  constructor
  · intro h
    have hb := p.blue.toNat_lt; have hg := p.green.toNat_lt; have hr := p.red.toNat_lt
    have hb' := q.blue.toNat_lt; have hg' := q.green.toNat_lt; have hr' := q.red.toNat_lt
    simp only [Pixel32.word] at h
    obtain ⟨h₁, h₂, h₃, h₄⟩ : p.blue.toNat = q.blue.toNat ∧ p.green.toNat = q.green.toNat ∧
        p.red.toNat = q.red.toNat ∧ p.alpha.toNat = q.alpha.toNat := by omega
    obtain ⟨b, g, r, a⟩ := p
    obtain ⟨b', g', r', a'⟩ := q
    simp only at h₁ h₂ h₃ h₄
    rw [UInt8.toNat_inj.mp h₁, UInt8.toNat_inj.mp h₂, UInt8.toNat_inj.mp h₃, UInt8.toNat_inj.mp h₄]
  · rintro rfl; rfl

/-- `as_simdable_chunks`: the full chunks of `k` words, and the remaining pixels. -/
def asSimdableChunks (k : Nat) (row : List Pixel32) : List (List Nat) × List Pixel32 :=
  ((List.range (row.length / k)).map fun i => ((row.drop (i * k)).take k).map Pixel32.word,
   row.drop (row.length / k * k))

/-- The rows of an array in order. -/
def rows (g : Grid Pixel32) : List (List Pixel32) :=
  (List.range g.height).map fun y => (List.range g.width).map (g.get y)

/-- The `fold_while` over the row pairs: chunk by chunk, then the remainder. -/
def foldRows : Bool → List (List Pixel32 × List Pixel32) → Bool
  | acc, [] => acc
  | acc, (a, b) :: rest =>
    if !acc then false
    else
      let ca := asSimdableChunks 8 a
      let cb := asSimdableChunks 8 b
      if (ca.1.zip cb.1).any (fun c => c.1 != c.2) then false
      else foldRows (ca.2 == cb.2) rest

/-- `simd_eq`. -/
def simdEq (a b : Grid Pixel32) : Bool :=
  if (a.height, a.width) ≠ (b.height, b.width) then false
  else foldRows true ((rows a).zip (rows b))

/-- A chunked row is compared like the row itself. -/
theorem chunks_eq_iff {k : Nat} (hk : 0 < k) {a b : List Pixel32} (hlen : a.length = b.length) :
    ((∀ i < a.length / k, ((a.drop (i * k)).take k).map Pixel32.word =
        ((b.drop (i * k)).take k).map Pixel32.word) ∧
      a.drop (a.length / k * k) = b.drop (b.length / k * k)) ↔ a = b := by
  constructor
  · rintro ⟨hc, hr⟩
    apply List.ext_getElem hlen
    intro n hn hn'
    by_cases hq : n / k < a.length / k
    · -- inside chunk `n / k`, at position `n % k`
      have h := congrArg (fun l => l[n % k]?) (hc (n / k) hq)
      have hm : n % k < k := Nat.mod_lt _ hk
      have hsplit : n / k * k + n % k = n := by rw [Nat.mul_comm]; exact Nat.div_add_mod n k
      simp only [List.getElem?_map, List.getElem?_take_of_lt hm, List.getElem?_drop, hsplit,
        List.getElem?_eq_getElem hn, List.getElem?_eq_getElem hn', Option.map_some,
        Option.some.injEq] at h
      exact Pixel32.word_inj.mp h
    · -- in the remainder
      have hle : a.length / k * k ≤ n := by
        have h₁ : a.length / k ≤ n / k := by omega
        have h₂ : n / k * k ≤ n := Nat.div_mul_le_self n k
        exact (Nat.mul_le_mul_right k h₁).trans h₂
      have h := congrArg (fun l => l[n - a.length / k * k]?) hr
      simp only [List.getElem?_drop, ← hlen, Nat.add_sub_cancel' hle,
        List.getElem?_eq_getElem hn, List.getElem?_eq_getElem hn', Option.some.injEq] at h
      exact h
  · rintro rfl
    exact ⟨fun _ _ => rfl, rfl⟩

/-- The comparison of two rows, chunks first and then the remainder. -/
theorem simdableChunks_eq_iff {a b : List Pixel32} (hlen : a.length = b.length) :
    (((asSimdableChunks 8 a).1.zip (asSimdableChunks 8 b).1).any (fun c => c.1 != c.2) = false ∧
      (asSimdableChunks 8 a).2 = (asSimdableChunks 8 b).2) ↔ a = b := by
  have hchunks : ((asSimdableChunks 8 a).1.zip (asSimdableChunks 8 b).1).any
      (fun c => c.1 != c.2) = false ↔ ∀ i < a.length / 8,
        ((a.drop (i * 8)).take 8).map Pixel32.word =
          ((b.drop (i * 8)).take 8).map Pixel32.word := by
    simp [asSimdableChunks, ← hlen, List.zip_map', List.any_eq_false]
  rw [hchunks]
  exact chunks_eq_iff (by omega) hlen

theorem foldRows_true_iff :
    ∀ {ps : List (List Pixel32 × List Pixel32)}, (∀ p ∈ ps, p.1.length = p.2.length) →
      (foldRows true ps = true ↔ ∀ p ∈ ps, p.1 = p.2)
  | [], _ => by simp [foldRows]
  | (a, b) :: rest, hlen => by
    have hrow := simdableChunks_eq_iff (hlen (a, b) (by simp))
    have ih := foldRows_true_iff fun p hp => hlen p (List.mem_cons_of_mem _ hp)
    have hfalse : foldRows false rest = false := by
      cases rest with
      | nil => rfl
      | cons p rest => obtain ⟨x, y⟩ := p; simp [foldRows]
    simp only [foldRows, List.forall_mem_cons, Bool.not_true, Bool.false_eq_true, if_false]
    split
    · rename_i hany
      -- a chunk differs: the fold stops with `false`
      refine ⟨(fun h => nomatch h), fun h => ?_⟩
      have := (hrow.mpr h.1).1
      rw [hany] at this
      cases this
    · rename_i hany
      by_cases hrem : (asSimdableChunks 8 a).2 = (asSimdableChunks 8 b).2
      · rw [beq_iff_eq.mpr hrem, ih]
        have : a = b := hrow.mp ⟨by simpa using hany, hrem⟩
        simp [this]
      · rw [beq_eq_false_iff_ne.mpr hrem, hfalse]
        refine ⟨(fun h => nomatch h), fun h => absurd ?_ hrem⟩
        rw [h.1]

/-- **`simd_eq` is element-wise equality** of arrays of one shape. -/
theorem simdEq_iff (a b : Grid Pixel32) : simdEq a b = true ↔ a.Agree b := by
  unfold simdEq
  split
  · rename_i h
    refine ⟨(fun h' => nomatch h'), fun h' => absurd ?_ h⟩
    rw [h'.1, h'.2.1]
  · rename_i h
    simp only [ne_eq, Prod.mk.injEq, not_not] at h
    have hzip : (rows a).zip (rows b) = (List.range a.height).map fun y =>
        ((List.range a.width).map (a.get y), (List.range a.width).map (b.get y)) := by
      rw [rows, rows, ← h.1, ← h.2, List.zip_map']
    rw [hzip, foldRows_true_iff (by simp)]
    simp only [List.mem_map, List.mem_range, forall_exists_index, and_imp,
      forall_apply_eq_imp_iff₂, List.map_inj_left, Grid.Agree, h.1, h.2, true_and]
    exact ⟨fun h y x hy hx => h y hy x hx, fun h y hy x hx => h y x hy hx⟩

/-! ## Bytes -/

/-- The bytes of a pixel slice (`slice::from_raw_parts(.. as *const u8, ..)`). -/
def castBytes (ps : List Pixel24) : List UInt8 := ps.flatMap fun p => [p.blue, p.green, p.red]

/-- `Vec::from_raw_parts(ptr as *mut Pixel24, len / 3, ..)`. -/
def castPixels : List UInt8 → List Pixel24
  | b :: g :: r :: rest => ⟨b, g, r⟩ :: castPixels rest
  | _ => []

theorem length_castBytes (ps : List Pixel24) : (castBytes ps).length = ps.length * 3 := by
  simp [castBytes, List.length_flatMap]

theorem castPixels_castBytes : ∀ ps : List Pixel24, castPixels (castBytes ps) = ps
  | [] => rfl
  | p :: ps => by
    have ih := castPixels_castBytes ps
    rw [castBytes] at ih
    rw [castBytes, List.flatMap_cons]
    simp only [List.cons_append, List.nil_append, castPixels, ih]

end ApertureC
