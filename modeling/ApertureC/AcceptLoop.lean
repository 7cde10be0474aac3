import ApertureC.Lib.Machine

/-!
# The accept loop of the client (`aperturec-client/src/channels/tunnel.rs`)

A `tc-accept` thread waits in `poll` for its listener and its waker.  Events are edge-triggered: the
listener's event is due when a connection has arrived since the last one was reported, however many
have.  The loop accepts one connection for each event.

* `Acceptor`, `step` — the thread, the listener and the waker; `accepting` and `forwarding` are the
  loop over the reported events.
* `missed` — the steps that leave a connection to an event that will not come.
* `Waits` — the connections that wait are those with an event to come, and the missed ones.

Principal results: `step_waits`, `stranded_iff` (the thread sleeps on a connection exactly when it
sleeps after a missed one) and `guarded_never_stranded` (**it never does so in a run that misses
none**).
-/

set_option autoImplicit false

namespace ApertureC.Accept

inductive Token where
  | listener
  | waker
  deriving DecidableEq, Repr

/-- Where the thread is: in `poll`, in the loop over the events, in the send of a connection to
`tc-main`, or gone. -/
inductive Phase where
  | polling
  | accepting (events : List Token)
  | forwarding (events : List Token)
  | exited
  deriving DecidableEq, Repr

structure Acceptor where
  /-- The connections that wait to be accepted. -/
  backlog : Nat
  listenerDue : Bool
  wakerDue : Bool
  phase : Phase
  streamId : Nat
  /-- The stream ids sent to `tc-main`. -/
  forwarded : List Nat
  deriving DecidableEq, Repr

inductive Act where
  | arrive
  | wake
  | poll (listenerFirst : Bool)
  | pollFails
  | accept
  | acceptFails (aborted : Bool)
  | sent
  | mainGone
  | next
  deriving DecidableEq, Repr

namespace Acceptor

def initial : Acceptor := ⟨0, false, false, .polling, 0, []⟩

/-- The events that `poll` reports. -/
def events (s : Acceptor) (listenerFirst : Bool) : List Token :=
  let listener := if s.listenerDue then [Token.listener] else []
  let waker := if s.wakerDue then [Token.waker] else []
  if listenerFirst then listener ++ waker else waker ++ listener

/-- A step of the world or of the thread.  A connection is aborted when its accept fails for good;
otherwise it goes on waiting. -/
def step (s : Acceptor) : Act → Option Acceptor
  | .arrive => some { s with backlog := s.backlog + 1, listenerDue := true }
  | .wake => some { s with wakerDue := true }
  | .poll listenerFirst =>
    match s.phase with
    | .polling =>
      if s.listenerDue || s.wakerDue then
        some { s with
          listenerDue := false
          wakerDue := false
          phase := .accepting (s.events listenerFirst) }
      else none
    | _ => none
  | .pollFails =>
    match s.phase with
    | .polling => some { s with phase := .exited }
    | _ => none
  | .accept =>
    match s.phase with
    | .accepting (.listener :: rest) =>
      if 0 < s.backlog then some { s with backlog := s.backlog - 1, phase := .forwarding rest }
      else none
    | _ => none
  | .acceptFails aborted =>
    match s.phase with
    -- the `break` leaves the loop over the events, not the accept loop
    | .accepting (.listener :: _) =>
      some { s with backlog := if aborted then s.backlog - 1 else s.backlog, phase := .polling }
    | _ => none
  | .sent =>
    match s.phase with
    | .forwarding rest =>
      some { s with
        phase := .accepting rest
        streamId := s.streamId + 1
        forwarded := s.forwarded ++ [s.streamId] }
    | _ => none
  | .mainGone =>
    match s.phase with
    | .forwarding _ => some { s with phase := .polling }
    | _ => none
  | .next =>
    match s.phase with
    | .accepting [] => some { s with phase := .polling }
    | .accepting (.waker :: _) => some { s with phase := .exited }
    | _ => none

/-- The thread is blocked in `poll`, and no event is due. -/
def Asleep (s : Acceptor) : Prop :=
  s.phase = .polling ∧ s.listenerDue = false ∧ s.wakerDue = false

/-- The thread is asleep while a connection waits. -/
def Stranded (s : Acceptor) : Prop := s.Asleep ∧ 0 < s.backlog

/-! ## Events and connections -/

/-- The step leaves a connection without an event of its own: it arrives while the event of an
earlier one is still due, or its accept fails and it goes on waiting. -/
def missed (s : Acceptor) : Act → Nat
  | .arrive => if s.listenerDue then 1 else 0
  | .acceptFails aborted => if aborted then 0 else 1
  | _ => 0

/-- The listener's events that the thread has still to handle. -/
def unhandled : Phase → Nat
  | .accepting events => events.count .listener
  | .forwarding events => events.count .listener
  | _ => 0

/-- The loop over the events has room for one event of the listener. -/
def Single : Phase → Prop
  | .accepting events => events.count .listener ≤ 1
  | .forwarding events => events.count .listener = 0
  | _ => True

/-- The listener's events to come, the due one included. -/
def coming (s : Acceptor) : Nat := (if s.listenerDue then 1 else 0) + unhandled s.phase

/-- Until the thread has gone, every connection that waits has an event to come or was missed. -/
def Waits (s : Acceptor) (m : Nat) : Prop :=
  s.phase = .exited ∨ Single s.phase ∧ s.backlog = s.coming + m

theorem count_events (s : Acceptor) (listenerFirst : Bool) :
    (s.events listenerFirst).count .listener = if s.listenerDue then 1 else 0 := by
  unfold events
  cases s.listenerDue <;> cases s.wakerDue <;> cases listenerFirst <;> rfl

/-- **A step accounts for every connection.** -/
theorem step_waits {s s' : Acceptor} {a : Act} {m : Nat} (hw : s.Waits m)
    (h : s.step a = some s') : s'.Waits (m + s.missed a) := by
  rcases hw with hexited | ⟨hsingle, hback⟩
  · cases a <;> simp only [step, hexited] at h <;> cases h
    · exact Or.inl rfl
    · exact Or.inl rfl
  · cases a with
    | arrive =>
      cases h
      refine Or.inr ⟨hsingle, ?_⟩
      cases hdue : s.listenerDue <;> simp [coming, missed, hdue] at hback ⊢ <;> omega
    | wake =>
      cases h
      exact Or.inr ⟨hsingle, hback⟩
    | poll listenerFirst =>
      simp only [step] at h
      split at h
      · rename_i hphase
        split at h <;> cases h
        have hcount := s.count_events listenerFirst
        refine Or.inr ⟨?_, ?_⟩
        · show (s.events listenerFirst).count .listener ≤ 1
          rw [hcount]
          split <;> omega
        · simp only [coming, unhandled, hphase, missed] at hback ⊢
          rw [hcount, hback]
          simp
      · cases h
    | pollFails =>
      simp only [step] at h
      split at h <;> cases h
      exact Or.inl rfl
    | accept =>
      simp only [step] at h
      split at h
      · rename_i rest hphase
        split at h <;> cases h
        simp only [coming, unhandled, Single, hphase, List.count_cons_self] at hback hsingle
        refine Or.inr ⟨?_, ?_⟩
        · show rest.count .listener = 0
          omega
        · simp only [coming, unhandled, missed]
          omega
      · cases h
    | acceptFails aborted =>
      simp only [step] at h
      split at h <;> cases h
      rename_i rest hphase
      simp only [coming, unhandled, Single, hphase, List.count_cons_self] at hback hsingle
      refine Or.inr ⟨trivial, ?_⟩
      cases aborted <;> simp only [coming, unhandled, missed] <;> simp <;> omega
    | sent =>
      simp only [step] at h
      split at h <;> cases h
      rename_i rest hphase
      simp only [coming, unhandled, Single, hphase] at hback hsingle
      refine Or.inr ⟨?_, ?_⟩
      · show rest.count .listener ≤ 1
        omega
      · simpa [coming, unhandled, missed] using hback
    | mainGone =>
      simp only [step] at h
      split at h <;> cases h
      rename_i rest hphase
      simp only [coming, unhandled, Single, hphase] at hback hsingle
      refine Or.inr ⟨trivial, ?_⟩
      simp only [coming, unhandled, missed]
      omega
    | next =>
      simp only [step] at h
      split at h <;> cases h
      · rename_i hphase
        simp only [coming, unhandled, hphase] at hback
        exact Or.inr ⟨trivial, hback⟩
      · exact Or.inl rfl

theorem waits_initial : initial.Waits 0 := Or.inr ⟨trivial, rfl⟩

/-- While the thread sleeps, the connections that wait are the missed ones. -/
theorem Waits.stranded_iff {s : Acceptor} {m : Nat} (h : s.Waits m) :
    s.Stranded ↔ s.Asleep ∧ 0 < m := by
  unfold Stranded
  refine and_congr_right fun hasleep => ?_
  obtain ⟨hphase, hdue, -⟩ := hasleep
  rcases h with hexited | ⟨-, hback⟩
  · rw [hphase] at hexited
    cases hexited
  · simp only [coming, unhandled, hphase, hdue, Bool.false_eq_true, if_false] at hback
    omega

/-! ## Runs -/

/-- The machine with the missed connections counted beside it. -/
def counting : Acceptor × Nat → Act → Option (Acceptor × Nat) :=
  Machine.observe step fun s a m => m + s.missed a

/-- **In every state of every run, the thread sleeps on a connection exactly when it sleeps and the
run has missed one.** -/
theorem stranded_iff {s : Acceptor} {m : Nat}
    (h : Machine.Reachable counting (initial, 0) (s, m)) : s.Stranded ↔ s.Asleep ∧ 0 < m := by
  have hw : (s, m).1.Waits (s, m).2 :=
    h.invariant (I := fun x => x.1.Waits x.2) waits_initial fun x a y hx hs => by
      obtain ⟨hstep, hnote⟩ := Machine.observe_eq_some.mp hs
      rw [hnote]
      exact step_waits hx hstep
  exact Waits.stranded_iff hw

/-- **The accept loop never sleeps on a pending connection, in a run in which no connection arrives
while the event of another is due, and none goes on waiting after a failed accept.** -/
theorem guarded_never_stranded (as : List Act)
    (h : Machine.Guarded step (fun s a => s.missed a = 0) initial as) :
    Machine.Always step (fun s => ¬ s.Stranded) initial as := by
  have hwaits : Machine.Always step (fun s => s.Waits 0) initial as := by
    refine h.always (fun s a s' hw hg hs => ?_) waits_initial
    have hw' := step_waits hw hs
    rwa [hg] at hw'
  refine hwaits.mono fun s hw hstranded => ?_
  exact absurd (hw.stranded_iff.mp hstranded).2 (Nat.lt_irrefl 0)

/-- Two connections, the second while the first is being accepted. -/
def oneByOne : List Act :=
  [.arrive, .poll true, .accept, .arrive, .sent, .next, .poll true, .accept, .sent, .next]

theorem oneByOne_never_stranded :
    Machine.Always step (fun s => ¬ s.Stranded) initial oneByOne :=
  guarded_never_stranded oneByOne (by decide)

/-- Two connections before the thread has polled. -/
def bunched : List Act := [.arrive, .arrive, .poll true, .accept, .sent, .next]

/-- The second connection waits in the listener, and the thread sleeps. -/
theorem bunched_stranded : ∃ s, Machine.run step initial bunched = some s ∧
    s.forwarded = [0] ∧ s.backlog = 1 ∧ s.Stranded := by
  refine ⟨⟨1, false, false, .polling, 1, [0]⟩, by decide, rfl, rfl, ?_⟩
  exact ⟨⟨rfl, rfl, rfl⟩, Nat.one_pos⟩

end Acceptor

end ApertureC.Accept
