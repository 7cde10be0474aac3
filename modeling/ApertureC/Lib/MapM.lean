import Mathlib.Data.List.Basic

/-!
# Lists of conversions that may fail

`l.mapM f` converts every element of a list, and fails with the first that does not convert.

Principal results: `mapM_eq_pure_map` (no element fails, in any monad), `mapM_guarded` (the
elements that fail are known, and fail alike), `mapM_eq_some_iff` (the elements that succeed are
known), and `mem_of_mapM` (what is in a converted list).
-/

set_option autoImplicit false

namespace MapM

/-- Conversions that all succeed are a map. -/
theorem mapM_eq_pure_map {α β : Type} {m : Type → Type} [Monad m] [LawfulMonad m] {f : α → m β}
    {g : α → β} : ∀ {l : List α}, (∀ a ∈ l, f a = pure (g a)) → l.mapM f = pure (l.map g)
  | [], _ => List.mapM_nil
  | a :: l, h => by
    have ih : l.mapM f = pure (l.map g) :=
      mapM_eq_pure_map fun a' ha' => h a' (List.mem_cons_of_mem a ha')
    simp only [List.mapM_cons, h a List.mem_cons_self, ih, pure_bind, List.map_cons]

section Option

variable {α β : Type} {f : α → Option β}

theorem isSome_of_mapM : ∀ {l : List α} {bs : List β}, l.mapM f = some bs →
    ∀ a ∈ l, (f a).isSome = true
  | [], _, _, _, ha => nomatch ha
  | a :: l, bs, h, a', ha' => by
    rw [List.mapM_cons] at h
    obtain ⟨b, hb, h⟩ := Option.bind_eq_some_iff.mp h
    obtain ⟨bs', hbs, -⟩ := Option.bind_eq_some_iff.mp h
    rcases List.mem_cons.mp ha' with rfl | ha'
    · rw [hb]
      rfl
    · exact isSome_of_mapM hbs a' ha'

/-- What is in a converted list is what its elements convert to. -/
theorem mem_iff_of_mapM : ∀ {l : List α} {bs : List β}, l.mapM f = some bs →
    ∀ b, b ∈ bs ↔ ∃ a ∈ l, f a = some b
  | [], bs, h, b => by
    rw [List.mapM_nil, Option.pure_def, Option.some.injEq] at h
    simp [← h]
  | a :: l, bs, h, b => by
    rw [List.mapM_cons] at h
    obtain ⟨b', hb', h⟩ := Option.bind_eq_some_iff.mp h
    obtain ⟨bs', hbs', h⟩ := Option.bind_eq_some_iff.mp h
    rw [Option.pure_def, Option.some.injEq] at h
    rw [← h, List.mem_cons, mem_iff_of_mapM hbs' b, List.exists_mem_cons_iff, hb',
      Option.some.injEq, eq_comm]

/-- Elements that are each converted to a list, the lists joined. -/
theorem mapM_flatten_spec {g : α → Option (List β)} :
    ∀ (l : List α), (∀ x ∈ l, ∃ ys, g x = some ys) →
      ∃ zs, (l.mapM g).map List.flatten = some zs ∧
        ∀ z, z ∈ zs ↔ ∃ x ∈ l, ∃ ys, g x = some ys ∧ z ∈ ys
  | [], _ => ⟨[], rfl, fun z => by simp⟩
  | x :: l, h => by
    obtain ⟨ys, hys⟩ := h x List.mem_cons_self
    obtain ⟨zs, hzs, hmem⟩ := mapM_flatten_spec l fun x' hx' => h x' (List.mem_cons_of_mem _ hx')
    obtain ⟨zss, hzss, hflat⟩ := Option.map_eq_some_iff.mp hzs
    refine ⟨ys ++ zs, ?_, fun z => ?_⟩
    · simp [List.mapM_cons, hys, hzss, hflat]
    · rw [List.mem_append, hmem z]
      constructor
      · intro hz
        rcases hz with hz | ⟨x', hx', ys', hys', hz⟩
        · exact ⟨x, List.mem_cons_self, ys, hys, hz⟩
        · exact ⟨x', List.mem_cons_of_mem _ hx', ys', hys', hz⟩
      · intro ⟨x', hx', ys', hys', hz⟩
        rcases List.mem_cons.mp hx' with heq | hx'
        · rw [heq, hys] at hys'
          cases hys'
          exact Or.inl hz
        · exact Or.inr ⟨x', hx', ys', hys', hz⟩

end Option

section Except

variable {α β ε : Type} {f : α → Except ε β}

/-- The elements of a converted list are converted elements. -/
theorem mem_of_mapM :
    ∀ {l : List α} {l' : List β}, l.mapM f = .ok l' → ∀ b ∈ l', ∃ a ∈ l, f a = .ok b
  | [], l', h, b, hb => by
    rw [List.mapM_nil] at h
    cases h
    cases hb
  | a :: l, l', h, b, hb => by
    rw [List.mapM_cons] at h
    cases ha : f a with
    | error e => rw [ha] at h; cases h
    | ok b' =>
      cases hl : l.mapM f with
      | error e => rw [ha, hl] at h; cases h
      | ok bs =>
        rw [ha, hl] at h
        cases h
        rcases List.mem_cons.mp hb with rfl | hb
        · exact ⟨a, List.mem_cons_self, ha⟩
        · obtain ⟨a', ha', hf⟩ := mem_of_mapM hl b hb
          exact ⟨a', List.mem_cons_of_mem a ha', hf⟩

/-- **Conversions that fail, all with one error, on the elements that satisfy `bad`.** -/
theorem mapM_guarded {bad : α → Prop} {e : ε} {g : α → β} (hbad : ∀ a, bad a → f a = .error e)
    (hgood : ∀ a, ¬ bad a → f a = .ok (g a)) : ∀ l : List α,
    ((∃ a ∈ l, bad a) ∧ l.mapM f = .error e) ∨ ((∀ a ∈ l, ¬ bad a) ∧ l.mapM f = .ok (l.map g))
  | [] => Or.inr ⟨(fun _ h => nomatch h), rfl⟩
  | a :: l => by
    by_cases ha : bad a
    · left
      refine ⟨⟨a, List.mem_cons_self, ha⟩, ?_⟩
      rw [List.mapM_cons, hbad a ha]
      rfl
    · rcases mapM_guarded hbad hgood l with ⟨⟨a', ha', hb⟩, heq⟩ | ⟨hall, heq⟩
      · left
        refine ⟨⟨a', List.mem_cons_of_mem a ha', hb⟩, ?_⟩
        rw [List.mapM_cons, hgood a ha, heq]
        rfl
      · right
        refine ⟨List.forall_mem_cons.mpr ⟨ha, hall⟩, ?_⟩
        rw [List.mapM_cons, hgood a ha, heq]
        rfl

end Except

end MapM
