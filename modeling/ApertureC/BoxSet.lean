import ApertureC.Lib.Geometry
import Mathlib.Data.List.Basic

/-!
# The box set (`aperturec-graphics/src/boxset.rs`)

* `pieces` — the body of the inner loop of `Set::add`: a box that meets an existing box is cut
  into the up to eight regions around the intersection, any other box is kept as it is.
* `BoxSet.add`, `BoxSet.union`, `BoxSet.fromIter` — the insertion of one box, of the boxes of an
  iterator into a copy of the set, and the collection from an iterator.
* `BoxSet.Build` — a set under construction: any nesting of these operations.

Principal results: `pieces_spec` (the pieces of `b` against `e` are disjoint and cover exactly
`b \ e`), `BoxSet.add_spec` and `BoxSet.fromIter_spec` — the boxes of a set stay pairwise
disjoint and cover exactly the union of the boxes that were added — and
`BoxSet.Build.eval_disjoint_covers`, the same for every way of building a set.
-/

set_option autoImplicit false

namespace ApertureC

open Geometry

/-- The eight regions of `b` around its intersection `i` with an existing box. -/
def batch (b i : Box2D) : List Box2D :=
  [⟨⟨b.min.x, b.min.y⟩, ⟨i.min.x, i.min.y⟩⟩,
   ⟨⟨i.min.x, b.min.y⟩, ⟨i.max.x, i.min.y⟩⟩,
   ⟨⟨i.max.x, b.min.y⟩, ⟨b.max.x, i.min.y⟩⟩,
   ⟨⟨b.min.x, i.min.y⟩, ⟨i.min.x, i.max.y⟩⟩,
   ⟨⟨i.max.x, i.min.y⟩, ⟨b.max.x, i.max.y⟩⟩,
   ⟨⟨b.min.x, i.max.y⟩, ⟨i.min.x, b.max.y⟩⟩,
   ⟨⟨i.min.x, i.max.y⟩, ⟨i.max.x, b.max.y⟩⟩,
   ⟨⟨i.max.x, i.max.y⟩, ⟨b.max.x, b.max.y⟩⟩]

/-- What one box `b` of the work list contributes against the existing box `e`. -/
def pieces (e b : Box2D) : List Box2D :=
  match b.intersection e with
  | some i => (batch b i).filter (fun r => !r.isNegative && !r.isEmpty)
  | none => [b]

/-- `while let Some(b) = new.pop()`: the work list is emptied from its end. -/
def cutAgainst (new : List Box2D) (e : Box2D) : List Box2D := new.reverse.flatMap (pieces e)

structure BoxSet where
  inner : List Box2D
  deriving DecidableEq, Repr

namespace BoxSet

def default : BoxSet := ⟨[]⟩

def withInitialBox (b : Box2D) : BoxSet := ⟨[b]⟩

/-- `Set::add`. -/
def add (s : BoxSet) (new : Box2D) : BoxSet :=
  if s.inner.isEmpty then ⟨[new]⟩
  else if s.inner.any (fun existing => existing.containsBox new) then s
  else if s.inner.all (fun existing => new.containsBox existing) then ⟨[new]⟩
  else ⟨s.inner ++ s.inner.foldl cutAgainst [new]⟩

/-- `Set::union`: every box of `other` is added to a clone of the set. -/
def union (s : BoxSet) (other : List Box2D) : BoxSet := other.foldl add s

/-- `FromIterator for Set`. -/
def fromIter (bs : List Box2D) : BoxSet := bs.foldl add default

/-- A set under construction. -/
inductive Build where
  | default
  | withInitialBox (b : Box2D)
  | fromIter (bs : List Box2D)
  | add (s : Build) (new : Box2D)
  | union (s : Build) (other : List Box2D)
  -- `&Set` iterates over its boxes, so that one set can be added to another
  | unionSet (s other : Build)

/-- The set that the operations leave. -/
def Build.eval : Build → BoxSet
  | .default => BoxSet.default
  | .withInitialBox b => BoxSet.withInitialBox b
  | .fromIter bs => BoxSet.fromIter bs
  | .add s new => s.eval.add new
  | .union s other => s.eval.union other
  | .unionSet s other => s.eval.union other.eval.inner

/-- The boxes handed to the operations, in order. -/
def Build.added : Build → List Box2D
  | .default => []
  | .withInitialBox b => [b]
  | .fromIter bs => bs
  | .add s new => s.added ++ [new]
  | .union s other => s.added ++ other
  | .unionSet s other => s.added ++ other.added

/-- `p` lies in one of the boxes of the set. -/
def Covers (s : BoxSet) (p : Point) : Prop := ∃ b ∈ s.inner, p ∈ b

/-- No two boxes of the set share a point. -/
def Nonoverlapping (s : BoxSet) : Prop := s.inner.Pairwise Box2D.Disjoint

end BoxSet

/-! ## Cutting one box -/

section Cut

variable {b e i : Box2D}

/-- The eight regions are exactly the part of `b` outside `i`, whenever `i` lies inside `b`. -/
theorem mem_batch (hx : b.min.x ≤ i.min.x ∧ i.max.x ≤ b.max.x)
    (hy : b.min.y ≤ i.min.y ∧ i.max.y ≤ b.max.y) (hix : i.min.x ≤ i.max.x) (hiy : i.min.y ≤ i.max.y)
    (p : Point) : (∃ r ∈ batch b i, p ∈ r) ↔ p ∈ b ∧ p ∉ i := by
  simp only [batch, List.mem_cons, List.not_mem_nil, or_false, exists_eq_or_imp, exists_eq_left,
    Box2D.mem_def]
  omega

theorem batch_disjoint (hix : i.min.x ≤ i.max.x) (hiy : i.min.y ≤ i.max.y) :
    (batch b i).Pairwise Box2D.Disjoint := by
  simp only [batch, List.pairwise_cons, List.mem_cons, List.not_mem_nil, or_false,
    forall_eq_or_imp, forall_eq, List.Pairwise.nil, and_true, Box2D.Disjoint, Box2D.mem_def,
    false_imp_iff, implies_true]
  refine ⟨⟨?_, ?_, ?_, ?_, ?_, ?_, ?_⟩, ⟨?_, ?_, ?_, ?_, ?_, ?_⟩, ⟨?_, ?_, ?_, ?_, ?_⟩,
    ⟨?_, ?_, ?_, ?_⟩, ⟨?_, ?_, ?_⟩, ⟨?_, ?_⟩, ?_⟩ <;> intro p <;> omega

/-- **The pieces of `b` against `e`**: pairwise disjoint, and exactly `b \ e` together. -/
theorem pieces_spec (e b : Box2D) :
    (pieces e b).Pairwise Box2D.Disjoint ∧ ∀ p, (∃ r ∈ pieces e b, p ∈ r) ↔ p ∈ b ∧ p ∉ e := by
  rcases Box2D.intersection_spec b e with ⟨hn, hd⟩ | ⟨i, hs, ⟨q, hq⟩, hi⟩
  · simp only [pieces, hn]
    refine ⟨List.pairwise_singleton _ _, fun p => ?_⟩
    simp only [List.mem_singleton, exists_eq_left]
    exact ⟨fun h => ⟨h, hd p h⟩, fun h => h.1⟩
  · obtain ⟨rfl, -⟩ := Box2D.intersection_eq_some hs
    have hm := hi
    simp only [pieces, hs]
    -- the intersection lies inside `b` and is not empty
    have hin : (b.min.x ≤ (b.intersectionUnchecked e).min.x ∧
        (b.intersectionUnchecked e).max.x ≤ b.max.x) ∧
        (b.min.y ≤ (b.intersectionUnchecked e).min.y ∧
        (b.intersectionUnchecked e).max.y ≤ b.max.y) := by
      simp only [Box2D.intersectionUnchecked]; omega
    have hne : (b.intersectionUnchecked e).min.x ≤ (b.intersectionUnchecked e).max.x ∧
        (b.intersectionUnchecked e).min.y ≤ (b.intersectionUnchecked e).max.y := by
      rw [Box2D.mem_def] at hq; omega
    refine ⟨(batch_disjoint hne.1 hne.2).filter _, fun p => ?_⟩
    have hb := mem_batch hin.1 hin.2 hne.1 hne.2 p
    constructor
    · rintro ⟨r, hr, hp⟩
      obtain ⟨h₁, h₂⟩ := hb.mp ⟨r, (List.mem_filter.mp hr).1, hp⟩
      exact ⟨h₁, fun he => h₂ ((hm p).mpr ⟨h₁, he⟩)⟩
    · rintro ⟨h₁, h₂⟩
      obtain ⟨r, hr, hp⟩ := hb.mpr ⟨h₁, fun h => h₂ ((hm p).mp h).2⟩
      refine ⟨r, List.mem_filter.mpr ⟨hr, ?_⟩, hp⟩
      simp [Box2D.isNegative_eq_false_of_mem hp, Box2D.isEmpty_eq_false_of_mem hp]

end Cut

/-! ## The work list -/

/-- One existing box: the work list stays disjoint and loses exactly the points of `e`. -/
theorem cutAgainst_spec {new : List Box2D} (hd : new.Pairwise Box2D.Disjoint) (e : Box2D) :
    (cutAgainst new e).Pairwise Box2D.Disjoint ∧
      ∀ p, (∃ r ∈ cutAgainst new e, p ∈ r) ↔ (∃ b ∈ new, p ∈ b) ∧ p ∉ e := by
  have hsub : ∀ b r, r ∈ pieces e b → ∀ p, p ∈ r → p ∈ b := fun b r hr p hp =>
    (((pieces_spec e b).2 p).mp ⟨r, hr, hp⟩).1
  refine ⟨?_, fun p => ?_⟩
  · unfold cutAgainst
    rw [List.pairwise_flatMap]
    refine ⟨fun b _ => (pieces_spec e b).1, ?_⟩
    have hrev : new.reverse.Pairwise Box2D.Disjoint :=
      List.pairwise_reverse.mpr (hd.imp fun h => h.symm)
    refine hrev.imp fun {a b} hab r hr r' hr' p hp hp' => ?_
    exact hab p (hsub a r hr p hp) (hsub b r' hr' p hp')
  · simp only [cutAgainst, List.mem_flatMap, List.mem_reverse]
    constructor
    · rintro ⟨r, ⟨b, hb, hr⟩, hp⟩
      have h := ((pieces_spec e b).2 p).mp ⟨r, hr, hp⟩
      exact ⟨⟨b, hb, h.1⟩, h.2⟩
    · rintro ⟨⟨b, hb, hpb⟩, hne⟩
      obtain ⟨r, hr, hp⟩ := ((pieces_spec e b).2 p).mpr ⟨hpb, hne⟩
      exact ⟨r, ⟨b, hb, hr⟩, hp⟩

/-- All existing boxes: what is left of the work list is its part outside all of them. -/
theorem foldl_cutAgainst_spec :
    ∀ (es : List Box2D) {new : List Box2D}, new.Pairwise Box2D.Disjoint →
      (es.foldl cutAgainst new).Pairwise Box2D.Disjoint ∧
        ∀ p, (∃ r ∈ es.foldl cutAgainst new, p ∈ r) ↔ (∃ b ∈ new, p ∈ b) ∧ ∀ e ∈ es, p ∉ e
  | [], new, hd => ⟨hd, fun p => by simp⟩
  | e :: es, new, hd => by
    obtain ⟨hd', hc⟩ := cutAgainst_spec hd e
    obtain ⟨hd'', hc'⟩ := foldl_cutAgainst_spec es hd'
    refine ⟨hd'', fun p => ?_⟩
    rw [List.foldl_cons, hc' p, hc p]
    simp only [List.mem_cons, forall_eq_or_imp, and_assoc]

namespace BoxSet

/-- **Insertion keeps the boxes disjoint and adds exactly the points of the new box.** -/
theorem add_spec {s : BoxSet} (hs : s.Nonoverlapping) (new : Box2D) :
    (s.add new).Nonoverlapping ∧ ∀ p, (s.add new).Covers p ↔ s.Covers p ∨ p ∈ new := by
  have hone : ([new] : List Box2D).Pairwise Box2D.Disjoint := List.pairwise_singleton _ _
  unfold add
  split
  · rename_i h
    refine ⟨hone, fun p => ?_⟩
    simp [Covers, List.isEmpty_iff.mp h]
  · split
    · rename_i h
      obtain ⟨e, he, hc⟩ := List.any_eq_true.mp h
      refine ⟨hs, fun p => ⟨Or.inl, ?_⟩⟩
      rintro (h | h)
      · exact h
      · exact ⟨e, he, Box2D.mem_of_containsBox hc h⟩
    · split
      · rename_i h
        refine ⟨hone, fun p => ?_⟩
        simp only [Covers, List.mem_singleton, exists_eq_left]
        refine ⟨Or.inr, ?_⟩
        rintro (⟨e, he, hp⟩ | hp)
        · exact Box2D.mem_of_containsBox (List.all_eq_true.mp h e he) hp
        · exact hp
      · obtain ⟨hd, hc⟩ := foldl_cutAgainst_spec s.inner hone
        refine ⟨?_, fun p => ?_⟩
        · refine List.pairwise_append.mpr ⟨hs, hd, fun e he r hr p hpe hpr => ?_⟩
          exact ((hc p).mp ⟨r, hr, hpr⟩).2 e he hpe
        · simp only [Covers, List.mem_append, or_and_right, exists_or, hc p, List.mem_singleton,
            exists_eq_left]
          constructor
          · rintro (h | h)
            · exact Or.inl h
            · exact Or.inr h.1
          · rintro (h | h)
            · exact Or.inl h
            · by_cases hin : ∃ b ∈ s.inner, p ∈ b
              · exact Or.inl hin
              · exact Or.inr ⟨h, fun e he hp => hin ⟨e, he, hp⟩⟩

theorem foldl_add_spec :
    ∀ (bs : List Box2D) {s : BoxSet}, s.Nonoverlapping →
      (bs.foldl add s).Nonoverlapping ∧
        ∀ p, (bs.foldl add s).Covers p ↔ s.Covers p ∨ ∃ b ∈ bs, p ∈ b
  | [], s, hs => ⟨hs, fun p => by simp⟩
  | b :: bs, s, hs => by
    obtain ⟨hs', hc⟩ := add_spec hs b
    obtain ⟨hs'', hc'⟩ := foldl_add_spec bs hs'
    refine ⟨hs'', fun p => ?_⟩
    rw [List.foldl_cons, hc' p, hc p]
    simp only [List.mem_cons, exists_eq_or_imp, or_assoc]

/-- **A collected set covers exactly the union of its boxes, without overlap.** -/
theorem fromIter_spec (bs : List Box2D) :
    (fromIter bs).Nonoverlapping ∧ ∀ p, (fromIter bs).Covers p ↔ ∃ b ∈ bs, p ∈ b := by
  obtain ⟨hd, hc⟩ := foldl_add_spec bs (show default.Nonoverlapping from List.Pairwise.nil)
  refine ⟨hd, fun p => ?_⟩
  rw [fromIter, hc p]
  simp [Covers, default]

theorem union_spec {s : BoxSet} (hs : s.Nonoverlapping) (other : List Box2D) :
    (s.union other).Nonoverlapping ∧
      ∀ p, (s.union other).Covers p ↔ s.Covers p ∨ ∃ b ∈ other, p ∈ b :=
  foldl_add_spec other hs

/-- **However a set is built, its boxes are disjoint and cover what was added.** -/
theorem Build.eval_disjoint_covers (t : Build) :
    t.eval.Nonoverlapping ∧ ∀ p, t.eval.Covers p ↔ ∃ b ∈ t.added, p ∈ b := by
  induction t with
  | default => exact ⟨List.Pairwise.nil, fun p => by simp [eval, added, Covers, BoxSet.default]⟩
  | withInitialBox b =>
    exact ⟨List.pairwise_singleton _ _,
      fun p => by simp [eval, added, Covers, BoxSet.withInitialBox]⟩
  | fromIter bs => exact fromIter_spec bs
  | add s new ih =>
    obtain ⟨hd, hc⟩ := ih
    obtain ⟨hd', hc'⟩ := add_spec hd new
    refine ⟨hd', fun p => ?_⟩
    show (s.eval.add new).Covers p ↔ _
    rw [hc' p, hc p]
    simp only [added, List.mem_append, List.mem_singleton, or_and_right, exists_or,
      exists_eq_left]
  | union s other ih =>
    obtain ⟨hd, hc⟩ := ih
    obtain ⟨hd', hc'⟩ := union_spec hd other
    refine ⟨hd', fun p => ?_⟩
    show (s.eval.union other).Covers p ↔ _
    rw [hc' p, hc p]
    simp only [added, List.mem_append, or_and_right, exists_or]
  | unionSet s other ihs iho =>
    obtain ⟨hd, hc⟩ := ihs
    obtain ⟨hd', hc'⟩ := union_spec hd other.eval.inner
    refine ⟨hd', fun p => ?_⟩
    show (s.eval.union other.eval.inner).Covers p ↔ _
    -- the boxes of the other set cover what was added to it
    have ho : (∃ b ∈ other.eval.inner, p ∈ b) ↔ ∃ b ∈ other.added, p ∈ b := iho.2 p
    rw [hc' p, hc p, ho]
    simp only [added, List.mem_append, or_and_right, exists_or]

/-! ## No empty boxes -/

theorem pieces_nonempty {e b : Box2D} (hb : b.isEmpty = false) :
    ∀ r ∈ pieces e b, r.isEmpty = false := by
  intro r hr
  unfold pieces at hr
  split at hr
  · have := (List.mem_filter.mp hr).2
    simp only [Bool.and_eq_true, Bool.not_eq_true'] at this
    exact this.2
  · rw [List.mem_singleton.mp hr]; exact hb

theorem foldl_cutAgainst_nonempty :
    ∀ (es : List Box2D) {new : List Box2D}, (∀ r ∈ new, r.isEmpty = false) →
      ∀ r ∈ es.foldl cutAgainst new, r.isEmpty = false
  | [], _, h => h
  | e :: es, new, h => by
    refine foldl_cutAgainst_nonempty es fun r hr => ?_
    obtain ⟨b, hb, hr⟩ := List.mem_flatMap.mp hr
    exact pieces_nonempty (h b (List.mem_reverse.mp hb)) r hr

theorem add_nonempty {s : BoxSet} (hs : ∀ r ∈ s.inner, r.isEmpty = false) {new : Box2D}
    (hn : new.isEmpty = false) : ∀ r ∈ (s.add new).inner, r.isEmpty = false := by
  have hone : ∀ r ∈ [new], r.isEmpty = false := by
    intro r hr
    rw [List.mem_singleton.mp hr]; exact hn
  unfold add
  split
  · exact hone
  · split
    · exact hs
    · split
      · exact hone
      · intro r hr
        rcases List.mem_append.mp hr with hr | hr
        · exact hs r hr
        · exact foldl_cutAgainst_nonempty s.inner hone r hr

theorem fromIter_nonempty {bs : List Box2D} (h : ∀ b ∈ bs, b.isEmpty = false) :
    ∀ r ∈ (fromIter bs).inner, r.isEmpty = false := by
  suffices ∀ (l : List Box2D) (s : BoxSet), (∀ b ∈ l, b.isEmpty = false) →
      (∀ r ∈ s.inner, r.isEmpty = false) → ∀ r ∈ (l.foldl add s).inner, r.isEmpty = false from
    this bs default h (fun r hr => by cases hr)
  intro l
  induction l with
  | nil => intro s _ hs; exact hs
  | cons b l ih =>
    intro s hl hs
    exact ih _ (fun b' hb' => hl b' (List.mem_cons_of_mem _ hb'))
      (add_nonempty hs (hl b List.mem_cons_self))

end BoxSet

end ApertureC
