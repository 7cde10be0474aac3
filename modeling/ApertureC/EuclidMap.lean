import ApertureC.Lib.Geometry
import Mathlib.Data.List.Sort

/-!
# Maps of disjoint rectangles (`aperturec-graphics/src/euclid_collections/{map,set}.rs`)

* `EuclidMap` — rectangles that do not intersect, each with a value, sorted by origin.  A new
  rectangle takes the place of those it intersects.
* `EuclidSet` — the same without values.

The far edges of the keys, `origin + size`, are taken to be below 2^64; a key beyond would panic in a
build with overflow checks.

Principal results: `fromIter_apart` (**the rectangles of a map do not intersect**), `get_eq_some`
(a point is in one of them at most) and `keys_fromIter` (the rectangles do not depend on the
values).
-/

set_option autoImplicit false

namespace ApertureC

open Geometry

/-- The order of `sort_by_key(|entry| <(_, _)>::from(entry.key.origin))`. -/
def originLe (a b : Rect) : Prop :=
  a.origin.x < b.origin.x ∨ a.origin.x = b.origin.x ∧ a.origin.y ≤ b.origin.y

instance (a b : Rect) : Decidable (originLe a b) :=
  inferInstanceAs (Decidable
    (a.origin.x < b.origin.x ∨ a.origin.x = b.origin.x ∧ a.origin.y ≤ b.origin.y))

structure EuclidMap (V : Type*) where
  entries : List (Rect × V)
  deriving DecidableEq

abbrev EuclidSet := EuclidMap Unit

namespace EuclidMap

variable {V W : Type*} {m : EuclidMap V} {key : Rect} {value : V}

def new : EuclidMap V := ⟨[]⟩

/-- `remove_all_overlaps`, and the entries it removes. -/
def removeAllOverlaps (m : EuclidMap V) (key : Rect) : EuclidMap V × List (Rect × V) :=
  (⟨m.entries.filter fun e => !e.1.intersects key⟩, m.entries.filter fun e => e.1.intersects key)

def insert (m : EuclidMap V) (key : Rect) (value : V) : EuclidMap V × List (Rect × V) :=
  let existing := (m.removeAllOverlaps key).2
  let rest := (m.removeAllOverlaps key).1
  (⟨(rest.entries ++ [(key, value)]).insertionSort fun a b => originLe a.1 b.1⟩, existing)

def get (m : EuclidMap V) (p : Point) : Option (Rect × V) :=
  m.entries.find? fun e => e.1.contains p

/-- `extract_if(..).next()`: only the first entry with the point is removed. -/
def removeAtPoint (m : EuclidMap V) (p : Point) : EuclidMap V × Option (Rect × V) :=
  (⟨m.entries.eraseP fun e => e.1.contains p⟩, m.entries.find? fun e => e.1.contains p)

def pop (m : EuclidMap V) : EuclidMap V × Option (Rect × V) :=
  (⟨m.entries.dropLast⟩, m.entries.getLast?)

def keys (m : EuclidMap V) : List Rect := m.entries.map Prod.fst

def values (m : EuclidMap V) : List V := m.entries.map Prod.snd

/-- `iter_mut`: every value is replaced, and the rectangles stay. -/
def mapValues (m : EuclidMap V) (f : Rect → V → W) : EuclidMap W :=
  ⟨m.entries.map fun e => (e.1, f e.1 e.2)⟩

def fromIter (l : List (Rect × V)) : EuclidMap V :=
  l.foldl (fun m e => (m.insert e.1 e.2).1) new

/-- `EuclidSet::from_iter`. -/
def setOf (l : List Rect) : EuclidSet := fromIter (l.map fun key => (key, ()))

/-! ## The rectangles of a map -/

/-- No two rectangles intersect. -/
def Apart (m : EuclidMap V) : Prop :=
  m.entries.Pairwise fun a b => a.1.intersects b.1 = false

theorem mem_insert {e : Rect × V} :
    e ∈ (m.insert key value).1.entries ↔
      (e ∈ m.entries ∧ e.1.intersects key = false) ∨ e = (key, value) := by
  simp [insert, removeAllOverlaps, List.mem_insertionSort]

theorem insert_apart (h : m.Apart) (key : Rect) (value : V) : (m.insert key value).1.Apart := by
  have hsymm : ∀ a b : Rect × V, a.1.intersects b.1 = false → b.1.intersects a.1 = false :=
    fun a b hab => by rw [Rect.intersects_comm]; exact hab
  refine ((List.perm_insertionSort _ _).symm.pairwise ?_) fun {a b} => hsymm a b
  rw [List.pairwise_append]
  refine ⟨h.sublist List.filter_sublist, List.pairwise_singleton _ _, fun a ha b hb => ?_⟩
  rw [List.mem_singleton.mp hb]
  simpa using (List.mem_filter.mp ha).2

theorem foldl_insert_apart :
    ∀ (l : List (Rect × V)) {m : EuclidMap V}, m.Apart →
      (l.foldl (fun m e => (m.insert e.1 e.2).1) m).Apart
  | [], _, h => h
  | e :: l, _, h => foldl_insert_apart l (insert_apart h e.1 e.2)

/-- **The rectangles of a map do not intersect.** -/
theorem fromIter_apart (l : List (Rect × V)) : (fromIter l).Apart :=
  foldl_insert_apart l List.Pairwise.nil

theorem foldl_insert_mem {e : Rect × V} :
    ∀ (l : List (Rect × V)) {m : EuclidMap V},
      e ∈ (l.foldl (fun m e => (m.insert e.1 e.2).1) m).entries → e ∈ m.entries ∨ e ∈ l
  | [], _, h => Or.inl h
  | e' :: l, m, h => by
    rcases foldl_insert_mem l h with h | h
    · rcases mem_insert.mp h with ⟨h, -⟩ | h
      · exact Or.inl h
      · exact Or.inr (h ▸ List.mem_cons_self)
    · exact Or.inr (List.mem_cons_of_mem _ h)

/-- The entries of a map are among those it was made of. -/
theorem mem_of_mem_fromIter {l : List (Rect × V)} {e : Rect × V} (h : e ∈ (fromIter l).entries) :
    e ∈ l := by
  rcases foldl_insert_mem l h with h | h
  · cases h
  · exact h

theorem mem_of_get {e : Rect × V} {p : Point} (h : m.get p = some e) :
    e ∈ m.entries ∧ e.1.contains p = true :=
  ⟨List.mem_of_find?_eq_some h, List.find?_some (p := fun e : Rect × V => e.1.contains p) h⟩

/-- A point is in one rectangle of a map at most. -/
theorem Apart.eq_of_contains (h : m.Apart) {a b : Rect × V} {p : Point} (ha : a ∈ m.entries)
    (hb : b ∈ m.entries) (hpa : a.1.contains p = true) (hpb : b.1.contains p = true) : a = b := by
  have hmeet := Rect.intersects_of_contains hpa hpb
  have hall : ∀ a ∈ m.entries, ∀ b ∈ m.entries, a.1.intersects b.1 = true → a = b := by
    refine fun a ha b hb => List.Pairwise.forall_of_forall_of_flip
      (R := fun a b : Rect × V => a.1.intersects b.1 = true → a = b) (fun _ _ _ => rfl)
      (h.imp fun hab hab' => ?_) (h.imp fun hab hab' => ?_) ha hb
    · rw [hab] at hab'
      cases hab'
    · rw [Rect.intersects_comm, hab] at hab'
      cases hab'
  exact hall a ha b hb hmeet

theorem get_eq_some (h : m.Apart) {e : Rect × V} {p : Point} :
    m.get p = some e ↔ e ∈ m.entries ∧ e.1.contains p = true := by
  refine ⟨mem_of_get, ?_⟩
  rintro ⟨hmem, hp⟩
  cases hget : m.get p with
  | none => exact absurd hp (List.find?_eq_none.mp hget e hmem)
  | some e' =>
    obtain ⟨hmem', hp'⟩ := mem_of_get hget
    rw [h.eq_of_contains hmem' hmem hp' hp]

theorem get_mapValues (m : EuclidMap V) (f : Rect → V → W) (p : Point) :
    (m.mapValues f).get p = (m.get p).map fun e => (e.1, f e.1 e.2) := by
  rw [get, mapValues, List.find?_map]
  rfl

theorem Apart.mapValues (h : m.Apart) (f : Rect → V → W) : (m.mapValues f).Apart :=
  List.pairwise_map.mpr h

/-! ## The rectangles do not depend on the values -/

theorem keys_mapValues (m : EuclidMap V) (f : Rect → V → W) : (m.mapValues f).keys = m.keys := by
  simp [keys, mapValues, Function.comp_def]

theorem mapValues_insert (m : EuclidMap V) (f : Rect → V → W) (key : Rect) (value : V) :
    ((m.mapValues f).insert key (f key value)).1 = (m.insert key value).1.mapValues f := by
  simp only [insert, removeAllOverlaps, mapValues, EuclidMap.mk.injEq]
  rw [List.map_insertionSort (fun a b : Rect × V => originLe a.1 b.1)
    (s := fun a b : Rect × W => originLe a.1 b.1) _ _ fun _ _ _ _ => Iff.rfl]
  simp [List.filter_map, Function.comp_def]

theorem foldl_mapValues (f : Rect → V → W) :
    ∀ (l : List (Rect × V)) (m : EuclidMap V),
      (l.map fun e => (e.1, f e.1 e.2)).foldl (fun m e => (m.insert e.1 e.2).1) (m.mapValues f) =
        (l.foldl (fun m e => (m.insert e.1 e.2).1) m).mapValues f
  | [], _ => rfl
  | e :: l, m => by
    simp only [List.map_cons, List.foldl_cons]
    rw [mapValues_insert]
    exact foldl_mapValues f l _

/-- **The rectangles of a map do not depend on its values.** -/
theorem keys_fromIter (l : List (Rect × V)) :
    (fromIter l).keys = (setOf (l.map Prod.fst)).keys := by
  have h := foldl_mapValues (fun _ _ => ()) l new
  rw [show (new : EuclidMap V).mapValues (fun _ _ => ()) = new from rfl] at h
  rw [setOf, List.map_map, ← keys_mapValues _ fun _ _ => ()]
  exact (congrArg keys h).symm

end EuclidMap

end ApertureC
