import Mathlib.Algebra.GroupWithZero.Nat
import Mathlib.Data.List.Basic
import Mathlib.Order.Nat

/-!
# A fair counting semaphore

A semaphore whose requests may take any number of permits.  A request that does not find enough takes
those there are and waits; permits added later go to the requests that wait, oldest first.

* `Semaphore` — the available permits, and the waiting requests in their order.
* `tryAcquire`, `acquire`, `addPermits`, `forgetPermits` — the operations.
* `held` — the permits that are available or collected by requests that wait.
* `Fair` — no permit is available while a request waits, and no request that waits has enough.

Principal results: `hand_held` and the `_held` lemma of each operation (**permits are neither lost
nor made**), and the `_fair` lemmas.
-/

set_option autoImplicit false

/-- A request that waits, with what it needs and what it has collected. -/
structure Waiter (ι : Type*) where
  tag : ι
  needed : Nat
  collected : Nat
  deriving DecidableEq, Repr

/-- Available permits and waiting requests, the oldest first. -/
structure Semaphore (ι : Type*) where
  permits : Nat
  waiters : List (Waiter ι)
  deriving DecidableEq, Repr

namespace Semaphore

variable {ι : Type*}

def new (n : Nat) : Semaphore ι := ⟨n, []⟩

/-- Take permits if there are enough. -/
def tryAcquire (s : Semaphore ι) (n : Nat) : Option (Semaphore ι) :=
  if n ≤ s.permits then some { s with permits := s.permits - n } else none

/-- Take permits if there are enough, and otherwise take what there is and wait. -/
def acquire (s : Semaphore ι) (tag : ι) (n : Nat) : Bool × Semaphore ι :=
  if n ≤ s.permits then (true, { s with permits := s.permits - n })
  else (false, ⟨0, s.waiters ++ [⟨tag, n, s.permits⟩]⟩)

/-- Hand permits to the requests that wait: those that now have enough, those that still wait, and
the permits that are left over. -/
def hand : Nat → List (Waiter ι) → List (Waiter ι) × List (Waiter ι) × Nat
  | n, [] => ([], [], n)
  | n, w :: ws =>
    if w.needed - w.collected ≤ n then
      let rest := hand (n - (w.needed - w.collected)) ws
      (w :: rest.1, rest.2.1, rest.2.2)
    else ([], { w with collected := w.collected + n } :: ws, 0)

/-- Add permits: the requests they complete, and the semaphore after it. -/
def addPermits (s : Semaphore ι) (n : Nat) : List (Waiter ι) × Semaphore ι :=
  let handed := hand n s.waiters
  (handed.1, ⟨s.permits + handed.2.2, handed.2.1⟩)

/-- Remove available permits, as far as there are. -/
def forgetPermits (s : Semaphore ι) (n : Nat) : Semaphore ι := { s with permits := s.permits - n }

/-- What the requests have collected. -/
def collected (ws : List (Waiter ι)) : Nat := (ws.map Waiter.collected).sum

/-- What the requests need in all. -/
def needed (ws : List (Waiter ι)) : Nat := (ws.map Waiter.needed).sum

@[simp] theorem collected_nil : collected ([] : List (Waiter ι)) = 0 := rfl

@[simp] theorem collected_cons (w : Waiter ι) (ws : List (Waiter ι)) :
    collected (w :: ws) = w.collected + collected ws := by
  simp [collected]

@[simp] theorem needed_nil : needed ([] : List (Waiter ι)) = 0 := rfl

@[simp] theorem needed_cons (w : Waiter ι) (ws : List (Waiter ι)) :
    needed (w :: ws) = w.needed + needed ws := by
  simp [needed]

/-- The permits that have not been used. -/
def held (s : Semaphore ι) : Nat := s.permits + collected s.waiters

/-- Permits are available only when no request waits, and a request that waits needs more than it
has. -/
structure Fair (s : Semaphore ι) : Prop where
  none_left : s.waiters ≠ [] → s.permits = 0
  short : ∀ w ∈ s.waiters, w.collected < w.needed

theorem new_fair (n : Nat) : (new n : Semaphore ι).Fair :=
  ⟨fun h => absurd rfl h, fun w hw => by simp [new] at hw⟩

/-! ## Handing out -/

/-- **Handing out moves permits, and makes none.** -/
theorem hand_held (ws : List (Waiter ι)) (h : ∀ w ∈ ws, w.collected < w.needed) (n : Nat) :
    needed (hand n ws).1 + collected (hand n ws).2.1 + (hand n ws).2.2 = collected ws + n := by
  induction ws generalizing n with
  | nil => simp [hand]
  | cons w ws ih =>
    have hw := h w List.mem_cons_self
    unfold hand
    split
    · have hrest := ih (fun w' hw' => h w' (List.mem_cons_of_mem w hw'))
        (n - (w.needed - w.collected))
      simp only [needed_cons, collected_cons]
      omega
    · simp only [needed_nil, collected_cons]
      omega

/-- Nothing is left over while a request waits. -/
theorem hand_left (ws : List (Waiter ι)) (n : Nat) :
    (hand n ws).2.1 ≠ [] → (hand n ws).2.2 = 0 := by
  induction ws generalizing n with
  | nil => simp [hand]
  | cons w ws ih =>
    unfold hand
    split
    · exact ih _
    · exact fun _ => rfl

theorem hand_left_le (ws : List (Waiter ι)) (n : Nat) : (hand n ws).2.2 ≤ n := by
  induction ws generalizing n with
  | nil => simp [hand]
  | cons w ws ih =>
    unfold hand
    split
    · exact (ih _).trans (Nat.sub_le _ _)
    · exact Nat.zero_le n

/-- A property of the requests' tags and needs passes to those served and to those that still
wait. -/
theorem hand_forall {P : ι → Nat → Prop} (ws : List (Waiter ι)) (h : ∀ w ∈ ws, P w.tag w.needed)
    (n : Nat) : (∀ w ∈ (hand n ws).1, P w.tag w.needed) ∧
      ∀ w ∈ (hand n ws).2.1, P w.tag w.needed := by
  induction ws generalizing n with
  | nil => simp [hand]
  | cons w ws ih =>
    have hw := h w List.mem_cons_self
    have hws : ∀ w' ∈ ws, P w'.tag w'.needed := fun w' hw' => h w' (List.mem_cons_of_mem w hw')
    unfold hand
    split
    · obtain ⟨hserved, hwaiting⟩ := ih hws (n - (w.needed - w.collected))
      exact ⟨List.forall_mem_cons.mpr ⟨hw, hserved⟩, hwaiting⟩
    · exact ⟨by simp, List.forall_mem_cons.mpr ⟨hw, hws⟩⟩

theorem hand_short (ws : List (Waiter ι)) (h : ∀ w ∈ ws, w.collected < w.needed) (n : Nat) :
    ∀ w ∈ (hand n ws).2.1, w.collected < w.needed := by
  induction ws generalizing n with
  | nil => simp [hand]
  | cons w ws ih =>
    have hws : ∀ w' ∈ ws, w'.collected < w'.needed :=
      fun w' hw' => h w' (List.mem_cons_of_mem w hw')
    unfold hand
    split
    · exact ih hws _
    · refine List.forall_mem_cons.mpr ⟨?_, hws⟩
      show w.collected + n < w.needed
      omega

/-! ## The operations -/

variable {s s' : Semaphore ι}

theorem tryAcquire_held {n : Nat} (h : s.tryAcquire n = some s') :
    s'.held + n = s.held ∧ s'.waiters = s.waiters ∧ s'.permits ≤ s.permits := by
  unfold tryAcquire at h
  split at h <;> cases h
  refine ⟨?_, rfl, Nat.sub_le _ _⟩
  simp only [held]
  omega

theorem tryAcquire_fair {n : Nat} (hf : s.Fair) (h : s.tryAcquire n = some s') : s'.Fair := by
  obtain ⟨-, hw, hle⟩ := tryAcquire_held h
  refine ⟨fun hne => ?_, fun w hin => hf.short w (hw ▸ hin)⟩
  have hzero := hf.none_left (hw ▸ hne)
  omega

theorem acquire_held (s : Semaphore ι) (tag : ι) (n : Nat) :
    (s.acquire tag n).2.held + (if (s.acquire tag n).1 then n else 0) = s.held ∧
      (s.acquire tag n).2.permits ≤ s.permits := by
  unfold acquire
  split
  · simp only [held, if_true]
    omega
  · simp [held, collected]
    omega

theorem acquire_fair (hf : s.Fair) (tag : ι) (n : Nat) : (s.acquire tag n).2.Fair := by
  unfold acquire
  split
  · refine ⟨fun hne => ?_, hf.short⟩
    have hzero := hf.none_left hne
    show s.permits - n = 0
    omega
  · rename_i hlt
    refine ⟨fun _ => rfl, fun w hw => ?_⟩
    rcases List.mem_append.mp hw with hw | hw
    · exact hf.short w hw
    · rw [List.mem_singleton.mp hw]
      exact Nat.lt_of_not_le hlt

theorem addPermits_held (hf : s.Fair) (n : Nat) :
    (s.addPermits n).2.held + needed (s.addPermits n).1 = s.held + n ∧
      (s.addPermits n).2.permits ≤ s.permits + n := by
  have hsum := hand_held s.waiters hf.short n
  have hleft := hand_left_le s.waiters n
  simp only [addPermits, held]
  omega

theorem addPermits_fair (hf : s.Fair) (n : Nat) : (s.addPermits n).2.Fair := by
  refine ⟨fun hne => ?_, hand_short s.waiters hf.short n⟩
  have hleft := hand_left s.waiters n hne
  have hzero : s.permits = 0 := by
    refine hf.none_left fun hnil => hne ?_
    show (hand n s.waiters).2.1 = []
    rw [hnil]
    rfl
  show s.permits + (hand n s.waiters).2.2 = 0
  omega

end Semaphore
