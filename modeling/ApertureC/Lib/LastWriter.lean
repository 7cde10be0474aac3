import Mathlib.Order.Lattice
import Mathlib.Data.List.Perm.Basic

/-!
# Registers that keep the newest write

A register holds a value and the stamp of the write it comes from; a write replaces it unless it
is older.

Principal results: `foldl_write_spec` — after any sequence of writes the register holds one of the
newest of them, or its first contents when every write is older — and `foldl_write_perm`: when
equal stamps mean equal writes, the order of the writes does not matter.
-/

set_option autoImplicit false

namespace LastWriter

variable {τ α : Type*} [LinearOrder τ]

structure Stamped (τ α : Type*) where
  stamp : τ
  value : α

/-- Write unless the register is newer. -/
def write (r w : Stamped τ α) : Stamped τ α := if r.stamp ≤ w.stamp then w else r

theorem write_cases (r w : Stamped τ α) :
    (write r w = w ∧ r.stamp ≤ w.stamp) ∨ (write r w = r ∧ w.stamp < r.stamp) := by
  unfold write
  split
  · rename_i hrw
    exact Or.inl ⟨rfl, hrw⟩
  · rename_i hrw
    exact Or.inr ⟨rfl, not_le.mp hrw⟩

/-- **The newest write wins.** -/
theorem foldl_write_spec :
    ∀ (ws : List (Stamped τ α)) (r : Stamped τ α),
      (ws.foldl write r = r ∧ ∀ w ∈ ws, w.stamp < r.stamp) ∨
      (ws.foldl write r ∈ ws ∧ r.stamp ≤ (ws.foldl write r).stamp ∧
        ∀ w ∈ ws, w.stamp ≤ (ws.foldl write r).stamp)
  | [], r => Or.inl ⟨rfl, fun w hw => nomatch hw⟩
  | w :: ws, r => by
    rw [List.foldl_cons]
    rcases foldl_write_spec ws (write r w) with ⟨heq, hold⟩ | ⟨hmem, hle, hmax⟩
    · rw [heq]
      rcases write_cases r w with ⟨hwrite, hrw⟩ | ⟨hwrite, hwr⟩
      · rw [hwrite] at hold ⊢
        refine Or.inr ⟨List.mem_cons_self, hrw, fun w' hw' => ?_⟩
        rcases List.mem_cons.mp hw' with h | h
        · rw [h]
        · exact (hold w' h).le
      · rw [hwrite] at hold ⊢
        refine Or.inl ⟨rfl, fun w' hw' => ?_⟩
        rcases List.mem_cons.mp hw' with h | h
        · rw [h]
          exact hwr
        · exact hold w' h
    · have hr : r.stamp ≤ (write r w).stamp ∧ w.stamp ≤ (write r w).stamp := by
        rcases write_cases r w with ⟨hwrite, hrw⟩ | ⟨hwrite, hwr⟩
        · rw [hwrite]
          exact ⟨hrw, le_refl _⟩
        · rw [hwrite]
          exact ⟨le_refl _, hwr.le⟩
      refine Or.inr ⟨List.mem_cons_of_mem _ hmem, hr.1.trans hle, fun w' hw' => ?_⟩
      rcases List.mem_cons.mp hw' with h | h
      · rw [h]
        exact hr.2.trans hle
      · exact hmax w' h

/-- Two writes commute unless they carry one stamp and differ. -/
theorem write_right_comm {v w : Stamped τ α} (h : v.stamp = w.stamp → v = w) (r : Stamped τ α) :
    write (write r v) w = write (write r w) v := by
  rcases lt_trichotomy v.stamp w.stamp with hlt | heq | hgt
  · -- `w` wins over `v` in either order, and over `r` whenever `v` does
    have hw : write w v = w := if_neg (not_le.mpr hlt)
    rcases write_cases r v with ⟨hv, hrv⟩ | ⟨hv, hvr⟩
    · rw [hv, show write r w = w from if_pos (hrv.trans hlt.le), hw]
      exact if_pos hlt.le
    · rw [hv]
      rcases write_cases r w with ⟨hrw, -⟩ | ⟨hrw, -⟩
      · rw [hrw, hw]
      · rw [hrw, hv]
  · rw [h heq]
  · have hv : write v w = v := if_neg (not_le.mpr hgt)
    rcases write_cases r w with ⟨hw, hrw⟩ | ⟨hw, hwr⟩
    · rw [hw, show write r v = v from if_pos (hrw.trans hgt.le), hv]
      exact (if_pos hgt.le).symm
    · rw [hw]
      rcases write_cases r v with ⟨hrv, -⟩ | ⟨hrv, -⟩
      · rw [hrv, hv]
      · rw [hrv, hw]

/-- **The order of the writes does not matter** when no stamp is used for two different ones. -/
theorem foldl_write_perm {vs ws : List (Stamped τ α)} (hp : vs.Perm ws)
    (h : ∀ v ∈ vs, ∀ w ∈ vs, v.stamp = w.stamp → v = w) (r : Stamped τ α) :
    vs.foldl write r = ws.foldl write r := by
  apply hp.foldl_eq'
  intro v hv w hw r
  exact write_right_comm (h v hv w hw) r

end LastWriter
