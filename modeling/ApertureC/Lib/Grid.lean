import ApertureC.Lib.Geometry
import Mathlib.Data.List.Basic
import Mathlib.Tactic.Linarith

/-!
# Two-dimensional arrays

A `Grid` is a `height × width` array in row-major (standard) layout, indexed by row and column as
`ndarray::Array2` is.  Entries outside the shape are never read: every partial view goes through
`slice` and every write through `modifyIn`, and both check the bounds (`none` is the panic).

* `slice` — `s![min.y..max.y, min.x..max.x]`; a range that ends before it starts is empty.
* `modifyIn`, `assign` — pointwise change of a region, and assignment of an array of the region's
  shape through a conversion of the elements.
* `toVec`, `ofVec` — the elements in row-major order, and `from_shape_vec`.

Principal results: `slice_eq_some`, `modifyIn_eq_some`, `assign_spec` (regions inside the shape
never panic) and `ofVec_toVec` (the row-major vector determines the array).
-/

set_option autoImplicit false

open Geometry

structure Grid (α : Type*) where
  height : Nat
  width : Nat
  get : Nat → Nat → α

namespace Grid

variable {α β : Type*}

def fromElem (s : Size) (a : α) : Grid α := ⟨s.height, s.width, fun _ _ => a⟩

def size (g : Grid α) : Size := ⟨g.width, g.height⟩

/-- The region lies inside the shape. -/
def Fits (g : Grid α) (b : Box2D) : Prop :=
  (b.min.y ≤ g.height ∧ b.max.y ≤ g.height) ∧ b.min.x ≤ g.width ∧ b.max.x ≤ g.width

instance (g : Grid α) (b : Box2D) : Decidable (g.Fits b) :=
  inferInstanceAs (Decidable ((b.min.y ≤ g.height ∧ b.max.y ≤ g.height) ∧
    b.min.x ≤ g.width ∧ b.max.x ≤ g.width))

def slice (g : Grid α) (b : Box2D) : Option (Grid α) :=
  if g.Fits b then
    some ⟨b.height, b.width, fun y x => g.get (b.min.y + y) (b.min.x + x)⟩
  else none

/-- Change every element of a region; `f` receives the element's row and column in `g`. -/
def modifyIn (g : Grid β) (b : Box2D) (f : Nat → Nat → β → β) : Option (Grid β) :=
  if g.Fits b then
    some { g with get := fun y x => if (⟨x, y⟩ : Point) ∈ b then f y x (g.get y x) else g.get y x }
  else none

/-- `src.assign_to(dst.slice_mut(b))`. -/
def assign (dst : Grid β) (b : Box2D) (conv : α → β) (src : Grid α) : Option (Grid β) :=
  if src.height = b.height ∧ src.width = b.width then
    dst.modifyIn b fun y x _ => conv (src.get (y - b.min.y) (x - b.min.x))
  else none

/-- The elements in row-major order. -/
def toVec (g : Grid α) : List α :=
  (List.range g.height).flatMap fun y => (List.range g.width).map (g.get y)

/-- `Array2::from_shape_vec`. -/
def ofVec [Inhabited α] (s : Size) (l : List α) : Option (Grid α) :=
  if l.length = s.height * s.width then
    some ⟨s.height, s.width, fun y x => l.getD (y * s.width + x) default⟩
  else none

/-- Every element satisfies `p`. -/
def all (g : Grid α) (p : α → Bool) : Bool := g.toVec.all p

/-- The two arrays have one shape and agree inside it. -/
def Agree (g g' : Grid α) : Prop :=
  g.height = g'.height ∧ g.width = g'.width ∧
    ∀ y x, y < g.height → x < g.width → g.get y x = g'.get y x

theorem Fits.congr {g : Grid α} {g' : Grid β} {b : Box2D} (h : g.Fits b) (hh : g'.height = g.height)
    (hw : g'.width = g.width) : g'.Fits b := by
  unfold Fits at *
  rw [hh, hw]
  exact h

theorem slice_eq_some {g : Grid α} {b : Box2D} (h : g.Fits b) :
    g.slice b = some ⟨b.height, b.width, fun y x => g.get (b.min.y + y) (b.min.x + x)⟩ :=
  if_pos h

theorem modifyIn_eq_some {g : Grid β} {b : Box2D} (h : g.Fits b) (f : Nat → Nat → β → β) :
    g.modifyIn b f =
      some { g with
        get := fun y x => if (⟨x, y⟩ : Point) ∈ b then f y x (g.get y x) else g.get y x } :=
  if_pos h

/-- Assignment to a region inside the shape changes exactly that region. -/
theorem assign_spec {dst : Grid β} {b : Box2D} {src : Grid α} (h : dst.Fits b)
    (hh : src.height = b.height) (hw : src.width = b.width) (conv : α → β) :
    ∃ g, dst.assign b conv src = some g ∧ g.height = dst.height ∧ g.width = dst.width ∧
      ∀ y x, g.get y x =
        if (⟨x, y⟩ : Point) ∈ b then conv (src.get (y - b.min.y) (x - b.min.x))
        else dst.get y x := by
  rw [assign, if_pos ⟨hh, hw⟩, modifyIn_eq_some h]
  exact ⟨_, rfl, rfl, rfl, fun _ _ => rfl⟩

/-! ## Row-major vectors -/

theorem length_toVec (g : Grid α) : g.toVec.length = g.height * g.width := by
  simp [toVec, List.length_flatMap]

/-- The first `n` rows, as a vector. -/
theorem rows_get (f : Nat → Nat → α) (w : Nat) :
    ∀ (n : Nat) {y x : Nat}, y < n → x < w →
      ((List.range n).flatMap fun y => (List.range w).map (f y))[y * w + x]? = some (f y x)
  | 0, _, _, hy, _ => absurd hy (by omega)
  | n + 1, y, x, hy, hx => by
    have hlen : ((List.range n).flatMap fun y => (List.range w).map (f y)).length = n * w := by
      simp [List.length_flatMap]
    rw [List.range_succ, List.flatMap_append, List.flatMap_singleton]
    by_cases hn : y < n
    · have hlt : y * w + x < n * w := by
        have := Nat.mul_le_mul_right w (show y + 1 ≤ n from hn)
        rw [Nat.add_mul, Nat.one_mul] at this
        omega
      rw [List.getElem?_append_left (by rw [hlen]; exact hlt)]
      exact rows_get f w n hn hx
    · have hyn : y = n := by omega
      subst hyn
      rw [List.getElem?_append_right (by rw [hlen]; omega), hlen, Nat.add_sub_cancel_left]
      simp [hx]

theorem toVec_get (g : Grid α) {y x : Nat} (hy : y < g.height) (hx : x < g.width) :
    g.toVec[y * g.width + x]? = some (g.get y x) :=
  rows_get g.get g.width g.height hy hx

theorem mem_toVec {g : Grid α} {a : α} :
    a ∈ g.toVec ↔ ∃ y x, y < g.height ∧ x < g.width ∧ g.get y x = a := by
  simp only [toVec, List.mem_flatMap, List.mem_map, List.mem_range]
  constructor
  · rintro ⟨y, hy, x, hx, rfl⟩
    exact ⟨y, x, hy, hx, rfl⟩
  · rintro ⟨y, x, hy, hx, rfl⟩
    exact ⟨y, hy, x, hx, rfl⟩

/-- **The row-major vector determines the array.** -/
theorem ofVec_toVec [Inhabited α] (g : Grid α) :
    ∃ g', ofVec g.size g.toVec = some g' ∧ g'.Agree g := by
  refine ⟨_, if_pos (length_toVec g), rfl, rfl, fun y x hy hx => ?_⟩
  simp only [size] at *
  rw [List.getD_eq_getElem?_getD, toVec_get g hy hx]
  rfl

end Grid
