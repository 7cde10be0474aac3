import Mathlib.Data.List.Basic

/-!
# Histories

A history is a list of entries, the oldest first, that grows at its end.

* `since` — what was entered after the first entry of a kind.

Principal results: `since_append` (what is entered later is entered since) and
`since_append_first` (nothing has been entered since an entry that was just made).
-/

set_option autoImplicit false

namespace History

variable {ε : Type*} (p : ε → Bool)

/-- What was entered after the first entry of a kind. -/
def since : List ε → List ε
  | [] => []
  | e :: log => if p e then log else since log

variable {p}

/-- **What is entered later is entered since.** -/
theorem since_append {log : List ε} (h : log.any p = true) (entries : List ε) :
    since p (log ++ entries) = since p log ++ entries := by
  induction log with
  | nil => cases h
  | cons e log ih =>
    cases he : p e with
    | true => simp only [List.cons_append, since, he, if_true]
    | false =>
      rw [List.any_cons, he, Bool.false_or] at h
      simp only [List.cons_append, since, he, Bool.false_eq_true, if_false, ih h]

/-- Nothing has been entered since an entry that was just made. -/
theorem since_append_first {log : List ε} (h : log.any p = false) {e : ε} (he : p e = true) :
    since p (log ++ [e]) = [] := by
  induction log with
  | nil => simp only [List.nil_append, since, he, if_true]
  | cons e' log ih =>
    rw [List.any_cons, Bool.or_eq_false_iff] at h
    simp only [List.cons_append, since, h.1, Bool.false_eq_true, if_false, ih h.2]

end History
