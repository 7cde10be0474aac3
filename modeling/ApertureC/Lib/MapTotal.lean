import Mathlib.Algebra.BigOperators.Group.List.Basic
import Mathlib.Algebra.Order.Group.Multiset
import Std.Data.ExtTreeMap.Lemmas

/-!
# Totals over the entries of a map or a list

* `total f m` — the sum of the quantity `f` over the values of a map, in any additive monoid (a
  count, a weight, a bag of contents).
* `totalIdx f l` — the same over a list, where the quantity may depend on the position.

Principal results: `total_insert` and `totalIdx_set` (what a new entry adds and the replaced one
takes away), `total_erase` and `total_filter` (a map split in two by a predicate).
-/

set_option autoImplicit false

namespace MapTotal

open Std

variable {κ β M : Type*} {cmp : κ → κ → Ordering} [TransCmp cmp] [LawfulEqCmp cmp]

/-- The sum of a quantity over the values of a map. -/
def total [AddCommMonoid M] (f : β → M) (m : ExtTreeMap κ β cmp) : M :=
  (m.toList.map fun e => f e.2).sum

omit [LawfulEqCmp cmp] in
theorem nodup_toList (m : ExtTreeMap κ β cmp) : m.toList.Nodup := by
  refine m.distinct_keys_toList.imp fun {a b} h heq => h ?_
  rw [heq]
  exact ReflCmp.compare_self

/-- Two maps have the same entries up to order when they look up alike. -/
theorem toList_perm_cons {m m' : ExtTreeMap κ β cmp} {k : κ} {v : β} (hk : m'[k]? = none)
    (h : ∀ k' v', m[k']? = some v' ↔ (k' = k ∧ v' = v) ∨ m'[k']? = some v') :
    m.toList.Perm ((k, v) :: m'.toList) := by
  have hfresh : (k, v) ∉ m'.toList := by
    rw [ExtTreeMap.mem_toList_iff_getElem?_eq_some, hk]
    exact fun h => nomatch h
  refine (List.perm_ext_iff_of_nodup (nodup_toList m)
    (List.nodup_cons.mpr ⟨hfresh, nodup_toList m'⟩)).mpr fun ⟨k', v'⟩ => ?_
  rw [List.mem_cons, ExtTreeMap.mem_toList_iff_getElem?_eq_some,
    ExtTreeMap.mem_toList_iff_getElem?_eq_some, Prod.mk.injEq]
  exact h k' v'

section Sums

variable [AddCommMonoid M] (f : β → M)

omit [LawfulEqCmp cmp] in
@[simp] theorem total_empty : total f (∅ : ExtTreeMap κ β cmp) = 0 := by
  rw [total, ExtTreeMap.toList_eq_nil_iff.mpr rfl, List.map_nil, List.sum_nil]

/-- What an entry contributes to the total. -/
def entry (m : ExtTreeMap κ β cmp) (k : κ) : M := (m[k]?).elim 0 f

omit [LawfulEqCmp cmp] in
theorem entry_of_some {m : ExtTreeMap κ β cmp} {k : κ} {v : β} (h : m[k]? = some v) :
    entry f m k = f v := by
  simp [entry, h]

omit [LawfulEqCmp cmp] in
theorem entry_of_none {m : ExtTreeMap κ β cmp} {k : κ} (h : m[k]? = none) : entry f m k = 0 := by
  simp [entry, h]

/-- **Erasing an entry takes away exactly what it contributes.** -/
theorem total_erase (m : ExtTreeMap κ β cmp) (k : κ) :
    entry f m k + total f (m.erase k) = total f m := by
  cases h : m[k]? with
  | none =>
    have hm : m.erase k = m := by
      refine ExtTreeMap.ext_getElem? fun k' => ?_
      rw [ExtTreeMap.getElem?_erase]
      split
      · rename_i heq
        rw [← LawfulEqCmp.eq_of_compare heq, h]
      · rfl
    rw [entry_of_none f h, hm, zero_add]
  | some v =>
    have hperm : m.toList.Perm ((k, v) :: (m.erase k).toList) := by
      refine toList_perm_cons ?_ fun k' v' => ?_
      · rw [ExtTreeMap.getElem?_erase, if_pos ReflCmp.compare_self]
      · rw [ExtTreeMap.getElem?_erase]
        by_cases hk : k' = k
        · rw [hk, h, if_pos ReflCmp.compare_self]
          simp [eq_comm]
        · rw [if_neg fun heq => hk (LawfulEqCmp.eq_of_compare heq).symm]
          simp [hk]
    rw [entry_of_some f h, total, total, (hperm.map _).sum_eq]
    simp

/-- **A new entry adds what it contributes, and the entry it replaces is taken away.** -/
theorem total_insert (m : ExtTreeMap κ β cmp) (k : κ) (v : β) :
    entry f m k + total f (m.insert k v) = f v + total f m := by
  have hsome : (m.insert k v)[k]? = some v := by
    rw [ExtTreeMap.getElem?_insert, if_pos ReflCmp.compare_self]
  have herase : (m.insert k v).erase k = m.erase k := by
    refine ExtTreeMap.ext_getElem? fun k' => ?_
    rw [ExtTreeMap.getElem?_erase, ExtTreeMap.getElem?_erase, ExtTreeMap.getElem?_insert]
    split <;> rfl
  rw [← total_erase f (m.insert k v) k, entry_of_some f hsome, herase, ← total_erase f m k]
  exact add_left_comm _ _ _

/-- An entry that contributes nothing changes no total. -/
theorem total_insertIfNew (m : ExtTreeMap κ β cmp) (k : κ) {v : β} (hv : f v = 0) :
    total f (m.insertIfNew k v) = total f m := by
  by_cases hk : k ∈ m
  · have hm : m.insertIfNew k v = m := by
      refine ExtTreeMap.ext_getElem? fun k' => ?_
      rw [ExtTreeMap.getElem?_insertIfNew, if_neg fun h => h.2 hk]
    rw [hm]
  · have hm : m.insertIfNew k v = m.insert k v := by
      refine ExtTreeMap.ext_getElem? fun k' => ?_
      rw [ExtTreeMap.getElem?_insertIfNew, ExtTreeMap.getElem?_insert]
      by_cases heq : cmp k k' = .eq
      · rw [if_pos ⟨heq, hk⟩, if_pos heq]
      · rw [if_neg fun h => heq h.1, if_neg heq]
    have hnone : m[k]? = none := ExtTreeMap.getElem?_eq_none hk
    have htotal := total_insert f m k v
    rw [entry_of_none f hnone, hv, zero_add, zero_add] at htotal
    rw [hm, htotal]

omit [LawfulEqCmp cmp] in
/-- **A predicate splits the total in two.** -/
theorem total_filter (m : ExtTreeMap κ β cmp) (p : κ → β → Bool) :
    total f (m.filter p) + total f (m.filter fun k v => !p k v) = total f m := by
  rw [total, total, total, ExtTreeMap.toList_filter, ExtTreeMap.toList_filter,
    ← List.sum_append, ← List.map_append]
  refine ((List.Perm.map _ ?_).sum_eq)
  exact List.filter_append_perm (fun e : κ × β => p e.1 e.2) m.toList

end Sums

/-! ## Lists -/

section Lists

variable {α : Type*} [AddCommMonoid M]

/-- The sum of a quantity over the elements of a list and their positions. -/
def totalIdx (f : Nat → α → M) (l : List α) : M := (l.mapIdx f).sum

theorem totalIdx_cons (f : Nat → α → M) (a : α) (l : List α) :
    totalIdx f (a :: l) = f 0 a + totalIdx (fun i => f (i + 1)) l := by
  rw [totalIdx, List.mapIdx_cons, List.sum_cons]
  rfl

@[simp] theorem totalIdx_zero (l : List α) : totalIdx (fun _ _ => (0 : M)) l = 0 := by
  induction l with
  | nil => rfl
  | cons a l ih => rw [totalIdx_cons, ih, add_zero]

theorem totalIdx_add (f g : Nat → α → M) (l : List α) :
    totalIdx (fun i a => f i a + g i a) l = totalIdx f l + totalIdx g l := by
  induction l generalizing f g with
  | nil => exact (add_zero 0).symm
  | cons a l ih =>
    rw [totalIdx_cons, totalIdx_cons, totalIdx_cons, ih]
    exact add_add_add_comm _ _ _ _

/-- A list whose elements contribute alike has the same total. -/
theorem totalIdx_map {γ : Type*} (f : Nat → γ → M) (g : Nat → α → M) (h : α → γ)
    (hfg : ∀ i a, f i (h a) = g i a) (l : List α) : totalIdx f (l.map h) = totalIdx g l := by
  induction l generalizing f g with
  | nil => rfl
  | cons a l ih => rw [List.map_cons, totalIdx_cons, totalIdx_cons, hfg, ih _ _ fun i => hfg (i + 1)]

/-- **Replacing an element adds what the new one contributes and takes the old one away.** -/
theorem totalIdx_set (f : Nat → α → M) {l : List α} {i : Nat} {a : α} (h : l[i]? = some a) (b : α) :
    f i a + totalIdx f (l.set i b) = f i b + totalIdx f l := by
  induction l generalizing f i with
  | nil => simp at h
  | cons c l ih =>
    cases i with
    | zero =>
      cases h
      rw [List.set_cons_zero, totalIdx_cons, totalIdx_cons]
      exact add_left_comm _ _ _
    | succ i =>
      rw [List.set_cons_succ, totalIdx_cons, totalIdx_cons, add_left_comm,
        ih (fun j => f (j + 1)) h, add_left_comm]

end Lists

end MapTotal
