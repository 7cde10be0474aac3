import Mathlib.Data.Nat.Init
import Mathlib.Tactic.Common

/-!
# Integer boxes and rectangles of the plane

The part of the `euclid` geometry types that the development uses, at coordinate type `usize`
(here `Nat`): half-open boxes `[min.x, max.x) × [min.y, max.y)`, and rectangles given by origin
and size.  The far edges of rectangles are taken to fit into 64 bits, so that `Rect.toBox2D` and
`Box2D.translate` add without wrapping.

* `Box2D.intersection` — `None` when the common part is empty.
* `Box2D.containsBox`, `Rect.containsRect` — an empty box is contained in every box.
* `Rect.relativeTo` / `Box2D.relativeTo` — the cast to `i64`, translation by a negated origin
  and cast back to `usize`; the cast of a negative coordinate panics (`none`).

Principal results: `Box2D.intersection_spec` (`Some` exactly when the boxes share a point, and
then the points are the common ones) and the membership lemmas.
-/

set_option autoImplicit false

namespace Geometry

structure Point where
  x : Nat
  y : Nat
  deriving DecidableEq, Repr

def Point.zero : Point := ⟨0, 0⟩

structure Size where
  width : Nat
  height : Nat
  deriving DecidableEq, Repr

def Size.area (s : Size) : Nat := s.width * s.height

structure Box2D where
  min : Point
  max : Point
  deriving DecidableEq, Repr

structure Rect where
  origin : Point
  size : Size
  deriving DecidableEq, Repr

namespace Box2D

instance : Membership Point Box2D where
  mem b p := (b.min.x ≤ p.x ∧ p.x < b.max.x) ∧ b.min.y ≤ p.y ∧ p.y < b.max.y

theorem mem_def {b : Box2D} {p : Point} :
    p ∈ b ↔ (b.min.x ≤ p.x ∧ p.x < b.max.x) ∧ b.min.y ≤ p.y ∧ p.y < b.max.y := Iff.rfl

instance (p : Point) (b : Box2D) : Decidable (p ∈ b) :=
  inferInstanceAs (Decidable ((b.min.x ≤ p.x ∧ p.x < b.max.x) ∧ b.min.y ≤ p.y ∧ p.y < b.max.y))

def isEmpty (b : Box2D) : Bool := !(decide (b.min.x < b.max.x) && decide (b.min.y < b.max.y))

def isNegative (b : Box2D) : Bool := decide (b.max.x < b.min.x) || decide (b.max.y < b.min.y)

def width (b : Box2D) : Nat := b.max.x - b.min.x

def height (b : Box2D) : Nat := b.max.y - b.min.y

def size (b : Box2D) : Size := ⟨b.width, b.height⟩

def fromSize (s : Size) : Box2D := ⟨Point.zero, ⟨s.width, s.height⟩⟩

def containsBox (a b : Box2D) : Bool :=
  b.isEmpty || (decide (a.min.x ≤ b.min.x) && decide (b.max.x ≤ a.max.x) &&
    decide (a.min.y ≤ b.min.y) && decide (b.max.y ≤ a.max.y))

def intersectionUnchecked (a b : Box2D) : Box2D :=
  ⟨⟨Max.max a.min.x b.min.x, Max.max a.min.y b.min.y⟩,
   ⟨Min.min a.max.x b.max.x, Min.min a.max.y b.max.y⟩⟩

def intersection (a b : Box2D) : Option Box2D :=
  if (a.intersectionUnchecked b).isEmpty then none else some (a.intersectionUnchecked b)

/-- `translate` by a vector with non-negative coordinates. -/
def translate (b : Box2D) (v : Point) : Box2D :=
  ⟨⟨b.min.x + v.x, b.min.y + v.y⟩, ⟨b.max.x + v.x, b.max.y + v.y⟩⟩

/-- `to_i64().translate(-o).to_usize()`. -/
def relativeTo (b : Box2D) (o : Point) : Option Box2D :=
  if o.x ≤ b.min.x ∧ o.y ≤ b.min.y ∧ o.x ≤ b.max.x ∧ o.y ≤ b.max.y then
    some ⟨⟨b.min.x - o.x, b.min.y - o.y⟩, ⟨b.max.x - o.x, b.max.y - o.y⟩⟩
  else none

def toRect (b : Box2D) : Rect := ⟨b.min, b.size⟩

/-- No point lies in both boxes. -/
def Disjoint (a b : Box2D) : Prop := ∀ p, p ∈ a → p ∉ b

theorem Disjoint.symm {a b : Box2D} (h : Disjoint a b) : Disjoint b a := fun p hb ha => h p ha hb

theorem isEmpty_eq_false_iff {b : Box2D} :
    b.isEmpty = false ↔ b.min.x < b.max.x ∧ b.min.y < b.max.y := by
  simp [isEmpty]

theorem isEmpty_iff {b : Box2D} : b.isEmpty = true ↔ ∀ p, p ∉ b := by
  simp only [isEmpty, Bool.not_eq_true', Bool.and_eq_false_iff, decide_eq_false_iff_not, Nat.not_lt]
  constructor
  · intro h p hp
    rw [mem_def] at hp
    omega
  · intro h
    by_contra hne
    exact h b.min (by rw [mem_def]; omega)

theorem isEmpty_eq_false_of_mem {b : Box2D} {p : Point} (h : p ∈ b) : b.isEmpty = false := by
  by_contra hne
  exact isEmpty_iff.mp (by simpa using hne) p h

theorem isNegative_eq_false_of_mem {b : Box2D} {p : Point} (h : p ∈ b) : b.isNegative = false := by
  rw [mem_def] at h
  simp only [isNegative, Bool.or_eq_false_iff, decide_eq_false_iff_not]
  omega

theorem mem_intersectionUnchecked {a b : Box2D} {p : Point} :
    p ∈ a.intersectionUnchecked b ↔ p ∈ a ∧ p ∈ b := by
  simp only [mem_def, intersectionUnchecked]
  grind

/-- **The intersection is the set of common points**, and `None` exactly when there are none. -/
theorem intersection_spec (a b : Box2D) :
    (a.intersection b = none ∧ Disjoint a b) ∨
    (∃ i, a.intersection b = some i ∧ (∃ p, p ∈ i) ∧ ∀ p, p ∈ i ↔ p ∈ a ∧ p ∈ b) := by
  unfold intersection
  split
  · rename_i h
    refine Or.inl ⟨rfl, fun p ha hb => ?_⟩
    exact isEmpty_iff.mp h p (mem_intersectionUnchecked.mpr ⟨ha, hb⟩)
  · rename_i h
    refine Or.inr ⟨_, rfl, ?_, fun p => mem_intersectionUnchecked⟩
    by_contra hne
    exact h (isEmpty_iff.mpr fun p hp => hne ⟨p, hp⟩)

theorem intersection_eq_some {a b i : Box2D} (h : a.intersection b = some i) :
    i = a.intersectionUnchecked b ∧ ∃ p, p ∈ i := by
  unfold intersection at h
  split at h
  · cases h
  · rename_i hne
    cases h
    refine ⟨rfl, ?_⟩
    by_contra hno
    exact hne (isEmpty_iff.mpr fun p hp => hno ⟨p, hp⟩)

theorem mem_of_containsBox {a b : Box2D} (h : a.containsBox b = true) {p : Point} (hp : p ∈ b) :
    p ∈ a := by
  simp only [containsBox, isEmpty_eq_false_of_mem hp, Bool.false_or, Bool.and_eq_true,
    decide_eq_true_eq] at h
  rw [mem_def] at *
  omega

theorem mem_translate {b : Box2D} {v p : Point} :
    p ∈ b.translate v ↔ v.x ≤ p.x ∧ v.y ≤ p.y ∧ (⟨p.x - v.x, p.y - v.y⟩ : Point) ∈ b := by
  simp only [mem_def, translate]
  omega

end Box2D

namespace Rect

def toBox2D (r : Rect) : Box2D :=
  ⟨r.origin, ⟨r.origin.x + r.size.width, r.origin.y + r.size.height⟩⟩

def width (r : Rect) : Nat := r.size.width

def height (r : Rect) : Nat := r.size.height

def fromSize (s : Size) : Rect := ⟨Point.zero, s⟩

def isEmpty (r : Rect) : Bool := !(decide (0 < r.size.width) && decide (0 < r.size.height))

def intersection (a b : Rect) : Option Rect :=
  let i := a.toBox2D.intersectionUnchecked b.toBox2D
  if i.isEmpty then none else some i.toRect

def containsRect (a b : Rect) : Bool :=
  b.isEmpty || (decide (a.origin.x ≤ b.origin.x) &&
    decide (b.origin.x + b.size.width ≤ a.origin.x + a.size.width) &&
    decide (a.origin.y ≤ b.origin.y) &&
    decide (b.origin.y + b.size.height ≤ a.origin.y + a.size.height))

def contains (r : Rect) (p : Point) : Bool := decide (p ∈ r.toBox2D)

def intersects (a b : Rect) : Bool :=
  decide (a.toBox2D.min.x < b.toBox2D.max.x) && decide (b.toBox2D.min.x < a.toBox2D.max.x) &&
    decide (a.toBox2D.min.y < b.toBox2D.max.y) && decide (b.toBox2D.min.y < a.toBox2D.max.y)

/-- `to_i64().translate(-o).to_usize()`. -/
def relativeTo (r : Rect) (o : Point) : Option Rect :=
  if o.x ≤ r.origin.x ∧ o.y ≤ r.origin.y then
    some ⟨⟨r.origin.x - o.x, r.origin.y - o.y⟩, r.size⟩
  else none

theorem mem_toBox2D {r : Rect} {p : Point} :
    p ∈ r.toBox2D ↔ (r.origin.x ≤ p.x ∧ p.x < r.origin.x + r.size.width) ∧
      r.origin.y ≤ p.y ∧ p.y < r.origin.y + r.size.height := Iff.rfl

theorem contains_iff {r : Rect} {p : Point} :
    r.contains p = true ↔ (r.origin.x ≤ p.x ∧ p.x < r.origin.x + r.size.width) ∧
      r.origin.y ≤ p.y ∧ p.y < r.origin.y + r.size.height := by
  rw [contains, decide_eq_true_iff, mem_toBox2D]

theorem intersects_comm (a b : Rect) : a.intersects b = b.intersects a := by
  rw [Bool.eq_iff_iff]
  simp only [intersects, Bool.and_eq_true, decide_eq_true_eq]
  omega

/-- Rectangles with a common point intersect. -/
theorem intersects_of_contains {a b : Rect} {p : Point} (ha : a.contains p = true)
    (hb : b.contains p = true) : a.intersects b = true := by
  rw [contains_iff] at ha hb
  simp only [intersects, Bool.and_eq_true, decide_eq_true_eq]
  simp only [toBox2D]
  omega

theorem isEmpty_eq_false_iff {r : Rect} :
    r.isEmpty = false ↔ 0 < r.size.width ∧ 0 < r.size.height := by
  simp [isEmpty]

theorem isEmpty_eq_false_of_mem {r : Rect} {p : Point} (hp : p ∈ r.toBox2D) :
    r.isEmpty = false := by
  rw [mem_toBox2D] at hp
  rw [isEmpty_eq_false_iff]
  omega

theorem containsRect_iff {a b : Rect} (hb : b.isEmpty = false) :
    a.containsRect b = true ↔
      (a.origin.x ≤ b.origin.x ∧ b.origin.x + b.size.width ≤ a.origin.x + a.size.width) ∧
      a.origin.y ≤ b.origin.y ∧ b.origin.y + b.size.height ≤ a.origin.y + a.size.height := by
  simp only [containsRect, hb, Bool.false_or, Bool.and_eq_true, decide_eq_true_eq, and_assoc]

theorem containsRect_of_le {a b : Rect} (hx : a.origin.x ≤ b.origin.x)
    (hx' : b.origin.x + b.size.width ≤ a.origin.x + a.size.width) (hy : a.origin.y ≤ b.origin.y)
    (hy' : b.origin.y + b.size.height ≤ a.origin.y + a.size.height) : a.containsRect b = true := by
  simp [containsRect, hx, hx', hy, hy']

theorem mem_of_containsRect {a b : Rect} (h : a.containsRect b = true) {p : Point}
    (hp : p ∈ b.toBox2D) : p ∈ a.toBox2D := by
  rw [containsRect_iff (isEmpty_eq_false_of_mem hp)] at h
  rw [mem_toBox2D] at *
  omega

theorem containsRect_trans {a b c : Rect} (hab : a.containsRect b = true)
    (hbc : b.containsRect c = true) : a.containsRect c = true := by
  cases hc : c.isEmpty with
  | true => rw [containsRect, hc, Bool.true_or]
  | false =>
    rw [containsRect_iff hc] at hbc ⊢
    have hb : b.isEmpty = false := by
      rw [isEmpty_eq_false_iff] at hc ⊢
      omega
    rw [containsRect_iff hb] at hab
    omega

theorem origin_mem {r : Rect} (h : r.isEmpty = false) : r.origin ∈ r.toBox2D := by
  rw [isEmpty_eq_false_iff] at h
  rw [mem_toBox2D]
  omega

/-- A rectangle contains another if it contains its points. -/
theorem containsRect_of_forall_mem {a b : Rect} (h : ∀ p ∈ b.toBox2D, p ∈ a.toBox2D) :
    a.containsRect b = true := by
  cases hb : b.isEmpty with
  | true => rw [containsRect, hb, Bool.true_or]
  | false =>
    have horigin := h _ (origin_mem hb)
    rw [isEmpty_eq_false_iff] at hb
    have hcorner := h ⟨b.origin.x + b.size.width - 1, b.origin.y + b.size.height - 1⟩
      (mem_toBox2D.mpr (by simp only; omega))
    rw [mem_toBox2D] at horigin hcorner
    simp only at hcorner
    exact containsRect_of_le (by omega) (by omega) (by omega) (by omega)

theorem containsRect_refl (r : Rect) : r.containsRect r = true := by
  simp [containsRect]

/-- A non-empty intersection of rectangles lies inside both. -/
theorem intersection_eq_some {a b i : Rect} (h : a.intersection b = some i) :
    (a.origin.x ≤ i.origin.x ∧ i.origin.x + i.size.width ≤ a.origin.x + a.size.width) ∧
    (a.origin.y ≤ i.origin.y ∧ i.origin.y + i.size.height ≤ a.origin.y + a.size.height) ∧
    (b.origin.x ≤ i.origin.x ∧ i.origin.x + i.size.width ≤ b.origin.x + b.size.width) ∧
    (b.origin.y ≤ i.origin.y ∧ i.origin.y + i.size.height ≤ b.origin.y + b.size.height) ∧
    0 < i.size.width ∧ 0 < i.size.height := by
  simp only [intersection] at h
  split at h
  · cases h
  · rename_i hne
    cases h
    rw [Bool.not_eq_true, Box2D.isEmpty_eq_false_iff] at hne
    simp only [Box2D.intersectionUnchecked, toBox2D] at hne
    simp only [Box2D.toRect, Box2D.size, Box2D.width, Box2D.height, Box2D.intersectionUnchecked,
      toBox2D]
    omega

/-- The intersection is the set of common points. -/
theorem intersection_spec (a b : Rect) :
    (a.intersection b = none ∧ ∀ p, p ∈ a.toBox2D → p ∉ b.toBox2D) ∨
    (∃ i, a.intersection b = some i ∧ ∀ p, p ∈ i.toBox2D ↔ p ∈ a.toBox2D ∧ p ∈ b.toBox2D) := by
  simp only [intersection]
  split
  · rename_i h
    refine Or.inl ⟨rfl, fun p ha hb => ?_⟩
    exact Box2D.isEmpty_iff.mp h p (Box2D.mem_intersectionUnchecked.mpr ⟨ha, hb⟩)
  · rename_i h
    refine Or.inr ⟨_, rfl, fun p => ?_⟩
    rw [← Box2D.mem_intersectionUnchecked]
    rw [Bool.not_eq_true, Box2D.isEmpty_eq_false_iff] at h
    simp only [toBox2D, Box2D.toRect, Box2D.size, Box2D.width, Box2D.height, Box2D.mem_def]
    omega

theorem intersection_isSome_iff {a b : Rect} :
    (a.intersection b).isSome = true ↔ ∃ p, p ∈ a.toBox2D ∧ p ∈ b.toBox2D := by
  rcases intersection_spec a b with ⟨hnone, hno⟩ | ⟨i, hi, hmem⟩
  · rw [hnone]
    simpa using hno
  · obtain ⟨-, -, -, -, hw, hh⟩ := intersection_eq_some hi
    have hi₀ : i.origin ∈ i.toBox2D := by
      rw [mem_toBox2D]
      omega
    rw [hi]
    exact ⟨fun _ => ⟨i.origin, (hmem _).mp hi₀⟩, fun _ => rfl⟩

end Rect

end Geometry
