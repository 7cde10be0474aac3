import Mathlib.Data.List.Basic
import Std.Data.ExtTreeMap.Lemmas

/-!
# Collecting lists into ordered maps

`Std.ExtTreeMap.ofList` collects pairs into a map; with one pair for each key nothing is lost.

* `DistinctKeys` — a list of pairs has every key at most once.

Principal results: `getElem?_ofList_iff` (the entries of a collected map are the pairs of the list)
and `getElem?_ofList_split` (a map taken apart by a test, changed on both sides and collected again is
changed entry by entry).
-/

set_option autoImplicit false

namespace Collect

variable {α β γ : Type} [DecidableEq α] [Ord α] [Std.TransOrd α] [Std.LawfulEqOrd α]

/-- Every key occurs once. -/
def DistinctKeys (l : List (α × β)) : Prop := l.Pairwise fun a b => a.1 ≠ b.1

omit [DecidableEq α] [Ord α] [Std.TransOrd α] [Std.LawfulEqOrd α] in
theorem DistinctKeys.value_eq {l : List (α × β)} (h : DistinctKeys l) {k : α} {v w : β}
    (hv : (k, v) ∈ l) (hw : (k, w) ∈ l) : v = w := by
  induction l with
  | nil => cases hv
  | cons a l ih =>
    obtain ⟨hhead, htail⟩ := List.pairwise_cons.mp h
    rcases List.mem_cons.mp hv with hav | hv
    · rcases List.mem_cons.mp hw with haw | hw
      · exact (Prod.mk.inj (hav.trans haw.symm)).2
      · exact absurd (congrArg Prod.fst hav.symm) (hhead (k, w) hw)
    · rcases List.mem_cons.mp hw with haw | hw
      · exact absurd (congrArg Prod.fst haw.symm) (hhead (k, v) hv)
      · exact ih htail hv hw

/-- **The entries of a collected map are the pairs of the list.** -/
theorem getElem?_ofList_iff {l : List (α × β)} (h : DistinctKeys l) {k : α} {v : β} :
    (Std.ExtTreeMap.ofList l)[k]? = some v ↔ (k, v) ∈ l := by
  have hdistinct : l.Pairwise fun a b => ¬ compare a.1 b.1 = .eq :=
    h.imp fun hne heq => hne (Std.LawfulEqOrd.eq_of_compare heq)
  have hget : ∀ w, (k, w) ∈ l → (Std.ExtTreeMap.ofList l)[k]? = some w := fun w hw =>
    Std.ExtTreeMap.getElem?_ofList_of_mem Std.ReflOrd.compare_self hdistinct hw
  constructor
  · intro hv
    have hmem : k ∈ Std.ExtTreeMap.ofList l :=
      Std.ExtTreeMap.mem_iff_isSome_getElem?.mpr (by rw [hv]; rfl)
    rw [Std.ExtTreeMap.mem_ofList, List.contains_iff_mem] at hmem
    obtain ⟨⟨k', w⟩, hw, rfl⟩ := List.mem_map.mp hmem
    rw [hget w hw] at hv
    cases hv
    exact hw
  · exact hget v

/-- **A map taken apart by a test and collected again is changed entry by entry.** -/
theorem getElem?_ofList_split (m : Std.ExtTreeMap α β) (p q : α × β → Bool) (f g : α × β → γ)
    (hpq : ∀ r, q r = !p r) (k : α) :
    (Std.ExtTreeMap.ofList ((m.toList.filter p).map (fun r => (r.1, f r)) ++
      (m.toList.filter q).map fun r => (r.1, g r)))[k]? =
      m[k]?.map fun v => if p (k, v) then f (k, v) else g (k, v) := by
  have hm : DistinctKeys m.toList := by
    refine Std.ExtTreeMap.distinct_keys_toList.imp fun {a b} hne heq => hne ?_
    rw [heq]
    exact Std.ReflOrd.compare_self
  have hdistinct : DistinctKeys ((m.toList.filter p).map (fun r => (r.1, f r)) ++
      (m.toList.filter q).map fun r => (r.1, g r)) := by
    refine List.pairwise_append.mpr ⟨?_, ?_, ?_⟩
    · exact List.pairwise_map.mpr (hm.sublist List.filter_sublist)
    · exact List.pairwise_map.mpr (hm.sublist List.filter_sublist)
    · rintro a ha b hb
      obtain ⟨⟨k₁, v₁⟩, h₁, rfl⟩ := List.mem_map.mp ha
      obtain ⟨⟨k₂, v₂⟩, h₂, rfl⟩ := List.mem_map.mp hb
      rw [List.mem_filter] at h₁ h₂
      -- one key cannot pass both tests
      rintro (rfl : k₁ = k₂)
      obtain rfl := hm.value_eq h₁.1 h₂.1
      rw [hpq, h₁.2] at h₂
      cases h₂.2
  apply Option.ext
  intro c
  rw [getElem?_ofList_iff hdistinct, List.mem_append, List.mem_map, List.mem_map,
    Option.map_eq_some_iff]
  constructor
  · rintro (⟨⟨k', v⟩, hv, heq⟩ | ⟨⟨k', v⟩, hv, heq⟩)
    · cases heq
      rw [List.mem_filter, Std.ExtTreeMap.mem_toList_iff_getElem?_eq_some] at hv
      exact ⟨v, hv.1, by rw [if_pos hv.2]⟩
    · cases heq
      rw [List.mem_filter, Std.ExtTreeMap.mem_toList_iff_getElem?_eq_some, hpq] at hv
      refine ⟨v, hv.1, ?_⟩
      rw [if_neg (by simpa using hv.2)]
  · rintro ⟨v, hv, hc⟩
    rw [← Std.ExtTreeMap.mem_toList_iff_getElem?_eq_some] at hv
    cases hp : p (k, v) with
    | true =>
      rw [if_pos hp] at hc
      exact Or.inl ⟨(k, v), List.mem_filter.mpr ⟨hv, hp⟩, by rw [hc]⟩
    | false =>
      rw [if_neg (by rw [hp]; exact Bool.false_ne_true)] at hc
      exact Or.inr ⟨(k, v), List.mem_filter.mpr ⟨hv, by rw [hpq, hp]; rfl⟩, by rw [hc]⟩

end Collect
