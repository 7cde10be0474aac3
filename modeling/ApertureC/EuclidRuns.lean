import ApertureC.EuclidMap

/-!
# Maps of rectangles under any sequence of operations

What holds of an `EuclidMap` and of an `EuclidSet` (`aperturec-graphics/src/euclid_collections`)
whatever was inserted and removed before.

* `Op`, `apply`, `run` — the operations that change a map, and a sequence of them.
* `Sorted` — the entries stand in the order of their origins.
* `Replaces` — an entry has come into a map in place of those it intersects.
* `EuclidSet.contains` — the lookup of a rectangle by its origin.

Principal results: `run_inv` (the rectangles stay apart and sorted) and `run_sound` (**after every
sequence of operations the rectangles are apart and sorted, `insert` replaces the entries that the
new rectangle intersects, `get` finds the only entry with a point, and a set contains the rectangles
stored in it**).
-/

set_option autoImplicit false

namespace ApertureC

open Geometry

namespace EuclidMap

variable {V : Type*} {m : EuclidMap V}

/-- An operation that changes a map; `fromIter` starts a new one. -/
inductive Op (V : Type*) where
  | insert (key : Rect) (value : V)
  | removeAtPoint (p : Point)
  | removeAllOverlaps (key : Rect)
  | pop
  | fromIter (l : List (Rect × V))

def apply (m : EuclidMap V) : Op V → EuclidMap V
  | .insert key value => (m.insert key value).1
  | .removeAtPoint p => (m.removeAtPoint p).1
  | .removeAllOverlaps key => (m.removeAllOverlaps key).1
  | .pop => m.pop.1
  | .fromIter l => fromIter l

/-- The map after the operations, starting with an empty one. -/
def run (ops : List (Op V)) : EuclidMap V := ops.foldl apply new

/-! ## The order of the entries -/

/-- The order of the entries, that of their origins. -/
def entryLe (a b : Rect × V) : Prop := originLe a.1 b.1

instance (a b : Rect × V) : Decidable (entryLe a b) :=
  inferInstanceAs (Decidable (originLe a.1 b.1))

/-- The entries stand in the order of their origins. -/
def Sorted (m : EuclidMap V) : Prop := m.entries.Pairwise entryLe

instance : Std.Total (entryLe (V := V)) where
  total a b := by
    simp only [entryLe, originLe]
    omega

instance : IsTrans (Rect × V) entryLe where
  trans a b c hab hbc := by
    simp only [entryLe, originLe] at *
    omega

theorem insert_entries (m : EuclidMap V) (key : Rect) (value : V) :
    (m.insert key value).1.entries =
      ((m.removeAllOverlaps key).1.entries ++ [(key, value)]).insertionSort entryLe := rfl

theorem insert_sorted (m : EuclidMap V) (key : Rect) (value : V) :
    (m.insert key value).1.Sorted := by
  rw [Sorted, insert_entries]
  exact List.pairwise_insertionSort entryLe _

theorem foldl_insert_sorted (l : List (Rect × V)) (h : m.Sorted) :
    (l.foldl (fun m e => (m.insert e.1 e.2).1) m).Sorted := by
  induction l generalizing m with
  | nil => exact h
  | cons e l ih => exact ih (insert_sorted m e.1 e.2)

/-! ## The invariant -/

/-- The rectangles are apart and sorted. -/
structure Inv (m : EuclidMap V) : Prop where
  apart : m.Apart
  sorted : m.Sorted

theorem new_inv : (new : EuclidMap V).Inv := ⟨List.Pairwise.nil, List.Pairwise.nil⟩

/-- A map keeps its invariant when entries go. -/
theorem Inv.sublist {l : List (Rect × V)} (h : m.Inv) (hl : l.Sublist m.entries) :
    (⟨l⟩ : EuclidMap V).Inv :=
  ⟨h.apart.sublist hl, h.sorted.sublist hl⟩

theorem apply_inv (h : m.Inv) (op : Op V) : (m.apply op).Inv := by
  cases op with
  | insert key value => exact ⟨insert_apart h.apart key value, insert_sorted m key value⟩
  | removeAtPoint p => exact h.sublist List.eraseP_sublist
  | removeAllOverlaps key => exact h.sublist List.filter_sublist
  | pop => exact h.sublist (List.dropLast_sublist _)
  | fromIter l => exact ⟨fromIter_apart l, foldl_insert_sorted l new_inv.sorted⟩

theorem foldl_apply_inv (ops : List (Op V)) (h : m.Inv) : (ops.foldl apply m).Inv := by
  induction ops generalizing m with
  | nil => exact h
  | cons op ops ih => exact ih (apply_inv h op)

/-- **The rectangles of a map stay apart and sorted.** -/
theorem run_inv (ops : List (Op V)) : (run ops).Inv := foldl_apply_inv ops new_inv

/-! ## What the operations return -/

/-- A list that has another's elements, in their order, and `x` has `x` at one place among them. -/
theorem eq_append_cons_of_perm {α : Type*} {l l' : List α} {x : α} (hsub : l.Sublist l')
    (hperm : l'.Perm (x :: l)) : ∃ before after, l = before ++ after ∧
      l' = before ++ x :: after := by
  induction hsub with
  | slnil => exact absurd hperm.length_eq (by simp)
  | cons y hsub _ =>
    have hlen := hperm.length_eq
    simp only [List.length_cons, Nat.add_right_cancel_iff] at hlen
    obtain rfl := hsub.eq_of_length hlen.symm
    have hxy : [y].Perm [x] :=
      (List.perm_append_right_iff _).mp (show ([y] ++ _).Perm ([x] ++ _) from hperm)
    rw [List.singleton_perm_singleton.mp hxy]
    exact ⟨[], _, rfl, rfl⟩
  | cons_cons y hsub ih =>
    obtain ⟨before, after, rfl, rfl⟩ := ih ((hperm.trans (List.Perm.swap _ _ _)).cons_inv)
    exact ⟨y :: before, after, rfl, rfl⟩

/-- `(m', existing)` is `m` with an entry in place of those that `key` intersects. -/
structure Replaces (m : EuclidMap V) (key : Rect) (value : V)
    (result : EuclidMap V × List (Rect × V)) : Prop where
  existing : result.2 = m.entries.filter fun e => e.1.intersects key
  entries : ∃ before after,
    (m.entries.filter fun e => !e.1.intersects key) = before ++ after ∧
      result.1.entries = before ++ (key, value) :: after

theorem insert_replaces (h : m.Sorted) (key : Rect) (value : V) :
    m.Replaces key value (m.insert key value) := by
  refine ⟨rfl, eq_append_cons_of_perm ?_ ?_⟩
  · rw [insert_entries]
    exact List.sublist_insertionSort (h.sublist List.filter_sublist) (List.sublist_append_left _ _)
  · rw [insert_entries]
    exact (List.perm_insertionSort _ _).trans (List.perm_append_singleton _ _)

/-- `get` returns the entries that contain the point: one, or none. -/
theorem filter_contains (h : m.Apart) (p : Point) :
    (m.entries.filter fun e => e.1.contains p) = (m.get p).toList := by
  rw [get, ← List.head?_filter]
  have hpair : (m.entries.filter fun e => e.1.contains p).Pairwise fun a b =>
      a.1.intersects b.1 = false := h.sublist List.filter_sublist
  cases hl : m.entries.filter fun e => e.1.contains p with
  | nil => rfl
  | cons a l =>
    cases l with
    | nil => rfl
    | cons b l =>
      have hmem : ∀ e ∈ a :: b :: l, e.1.contains p = true := by
        rw [← hl]
        exact fun e he => (List.mem_filter.mp he).2
      rw [hl, List.pairwise_cons] at hpair
      have hab := hpair.1 b List.mem_cons_self
      rw [Rect.intersects_of_contains (hmem a (by simp)) (hmem b (by simp))] at hab
      cases hab

end EuclidMap

/-! ## Sets -/

/-- `EuclidSet::contains` -/
def EuclidSet.contains (s : EuclidSet) (key : Rect) : Bool :=
  (((s.get key.origin).map Prod.fst).map fun rect => decide (rect = key)).getD false

theorem EuclidSet.contains_iff {s : EuclidSet} (h : s.Apart) {key : Rect}
    (hkey : key.isEmpty = false) : EuclidSet.contains s key = true ↔ key ∈ s.keys := by
  have horigin : key.contains key.origin = true := decide_eq_true (Rect.origin_mem hkey)
  constructor
  · intro hcontains
    unfold EuclidSet.contains at hcontains
    cases hget : s.get key.origin with
    | none =>
      rw [hget] at hcontains
      cases hcontains
    | some e =>
      rw [hget, Option.map_some, Option.map_some, Option.getD_some, decide_eq_true_eq] at hcontains
      exact List.mem_map.mpr ⟨e, (EuclidMap.mem_of_get hget).1, hcontains⟩
  · intro hmem
    obtain ⟨e, he, rfl⟩ := List.mem_map.mp hmem
    unfold EuclidSet.contains
    rw [(EuclidMap.get_eq_some h).mpr ⟨he, horigin⟩]
    simp

namespace EuclidMap

/-- What the operations on a map promise. -/
structure Sound {V : Type*} (m : EuclidMap V) : Prop where
  apart : m.Apart
  sorted : m.Sorted
  insert : ∀ key value, m.Replaces key value (m.insert key value)
  get : ∀ p, (m.entries.filter fun e => e.1.contains p) = (m.get p).toList

/-- **After every sequence of operations, a map is as its operations promise, and a set contains
the rectangles stored in it.** -/
theorem run_sound {V : Type*} (ops : List (Op V)) (setOps : List (Op Unit)) :
    (run ops).Sound ∧ ∀ key, key.isEmpty = false →
      (EuclidSet.contains (run setOps) key = true ↔ key ∈ (run setOps).keys) := by
  have h := run_inv ops
  refine ⟨⟨h.apart, h.sorted, insert_replaces h.sorted, filter_contains h.apart⟩, ?_⟩
  intro key hkey
  exact EuclidSet.contains_iff (run_inv setOps).apart hkey

end EuclidMap

end ApertureC
