import ApertureC.Lib.Machine

/-!
# Workers with a network thread

A worker is a pair of threads.  The **network thread** blocks receiving from a connection and hands
every result to the main thread over a channel without capacity; it ends after it has handed over
an error.  The **main thread** selects between requests and the network thread, sends what it has
to say to its peer over another channel without capacity, and on termination joins the network
thread while it still owns the receiving end.

* `Code` — what the main loop does with a request and with a result of the network thread.
* `step` — one step of either thread, or of the connection.
* `Stuck` — the main thread waits in its join, the network thread in its send.

Principal results: `Stuck.step` (such a state is never left) and `finishes_iff` (after a
termination no stuck state is reachable exactly when the main thread had not yet started to listen,
or the network thread had already finished).
-/

set_option autoImplicit false

namespace Worker

/-- What the main thread does after its sends. -/
inductive Next where
  | select
  | join
  | gone
  deriving DecidableEq, Repr

/-- The network thread. -/
inductive Network (Msg Err : Type) where
  | receiving
  | sending (r : Except Err Msg)
  | finished

/-- The outcome of a handler of the main loop. -/
structure Handled (σ Out : Type) where
  data : σ
  out : List Out
  next : Next

/-- The body of a main loop.  `listens` tells when its select includes the network thread. -/
structure Code (σ Req Msg Err Out : Type) where
  listens : σ → Bool
  onRequest : σ → Req → Handled σ Out
  onMessage : σ → Except Err Msg → Handled σ Out

structure State (σ Msg Err Out : Type) where
  data : σ
  out : List Out
  next : Next
  network : Network Msg Err
  closed : Bool

/-- Both threads have just been spawned. -/
def State.initial {σ Msg Err Out : Type} (data : σ) : State σ Msg Err Out :=
  ⟨data, [], .select, .receiving, false⟩

inductive Act (Req Msg Err : Type) where
  | receive (r : Except Err Msg)
  | handOver
  | dropSend
  | request (q : Req)
  | terminate
  | hangUp
  | deliver
  | networkGone
  | join
  | close

/-- The main thread takes the result of the network thread. -/
def Act.isHandOver {Req Msg Err : Type} : Act Req Msg Err → Bool
  | .handOver => true
  | _ => false

section Step

variable {σ Req Msg Err Out : Type} (c : Code σ Req Msg Err Out)

/-- The network thread once its send is over: it ends after an error. -/
def Network.after : Except Err Msg → Network Msg Err
  | .ok _ => .receiving
  | .error _ => .finished

/-- The main thread is in its select. -/
def State.selecting (w : State σ Msg Err Out) : Bool := w.out.isEmpty && w.next == .select

/-- The main thread has ended, and the receiving ends it owned are dropped. -/
def State.ended (w : State σ Msg Err Out) : Bool := w.out.isEmpty && w.next == .gone

def State.handled (w : State σ Msg Err Out) (h : Handled σ Out) : State σ Msg Err Out :=
  { w with data := h.data, out := h.out, next := h.next }

/-- The main thread leaves its loop: it joins the network thread once it has listened to it. -/
def State.leave (w : State σ Msg Err Out) : State σ Msg Err Out :=
  { w with next := if c.listens w.data then .join else .gone }

/-- One step.  After the connection is closed, the network thread receives an error. -/
def step (w : State σ Msg Err Out) : Act Req Msg Err → Option (State σ Msg Err Out)
  | .receive r =>
    match w.network with
    | .receiving => if w.closed && r.isOk then none else some { w with network := .sending r }
    | _ => none
  | .handOver =>
    match w.network with
    | .sending r =>
      if w.selecting && c.listens w.data then
        some { w.handled (c.onMessage w.data r) with network := .after r }
      else none
    | _ => none
  | .dropSend =>
    match w.network with
    | .sending r => if w.ended then some { w with network := .after r } else none
    | _ => none
  | .request q => if w.selecting then some (w.handled (c.onRequest w.data q)) else none
  | .terminate => if w.selecting then some (w.leave c) else none
  | .hangUp => if w.selecting then some (w.leave c) else none
  | .deliver =>
    match w.out with
    | [] => none
    | _ :: out => some { w with out := out }
  | .networkGone =>
    match w.network with
    | .finished => if w.selecting && c.listens w.data then some { w with next := .join } else none
    | _ => none
  | .join =>
    match w.network with
    | .finished => if w.out.isEmpty && w.next == .join then some { w with next := .gone } else none
    | _ => none
  | .close => some { w with closed := true }

end Step

variable {σ Req Msg Err Out : Type} {c : Code σ Req Msg Err Out} {w w' : State σ Msg Err Out}

/-- The network thread waits in its send. -/
def Network.isSending : Network Msg Err → Bool
  | .sending _ => true
  | _ => false

/-- The main thread waits in its join, the network thread in its send. -/
def Stuck (w : State σ Msg Err Out) : Prop :=
  w.out = [] ∧ w.next = .join ∧ w.network.isSending = true

theorem selecting_iff : w.selecting = true ↔ w.out = [] ∧ w.next = .select := by
  simp [State.selecting]

theorem ended_iff : w.ended = true ↔ w.out = [] ∧ w.next = .gone := by
  simp [State.ended]

/-- What a step does, and when it is possible. -/
inductive Stepped (c : Code σ Req Msg Err Out) (w : State σ Msg Err Out) :
    Act Req Msg Err → State σ Msg Err Out → Prop where
  | receive (r : Except Err Msg) (hn : w.network = .receiving)
      (hr : (w.closed && r.isOk) = false) : Stepped c w (.receive r) { w with network := .sending r }
  | handOver (r : Except Err Msg) (hn : w.network = .sending r) (hsel : w.selecting = true)
      (hl : c.listens w.data = true) :
      Stepped c w .handOver { w.handled (c.onMessage w.data r) with network := .after r }
  | dropSend (r : Except Err Msg) (hn : w.network = .sending r) (hend : w.ended = true) :
      Stepped c w .dropSend { w with network := .after r }
  | request (q : Req) (hsel : w.selecting = true) :
      Stepped c w (.request q) (w.handled (c.onRequest w.data q))
  | terminate (hsel : w.selecting = true) : Stepped c w .terminate (w.leave c)
  | hangUp (hsel : w.selecting = true) : Stepped c w .hangUp (w.leave c)
  | deliver (m : Out) (out : List Out) (hout : w.out = m :: out) :
      Stepped c w .deliver { w with out := out }
  | networkGone (hn : w.network = .finished) (hsel : w.selecting = true)
      (hl : c.listens w.data = true) : Stepped c w .networkGone { w with next := .join }
  | join (hn : w.network = .finished) (hout : w.out = []) (hnext : w.next = .join) :
      Stepped c w .join { w with next := .gone }
  | close : Stepped c w .close { w with closed := true }

theorem step_stepped {a : Act Req Msg Err} (h : step c w a = some w') : Stepped c w a w' := by
  cases a <;> simp only [step] at h
  case receive r =>
    split at h
    · rename_i hn
      split at h
      · cases h
      · rename_i hr
        cases h
        exact .receive r hn (by simpa using hr)
    · cases h
  case handOver =>
    split at h
    · rename_i r hn
      split at h
      · rename_i hsel
        cases h
        rw [Bool.and_eq_true] at hsel
        exact .handOver r hn hsel.1 hsel.2
      · cases h
    · cases h
  case dropSend =>
    split at h
    · rename_i r hn
      split at h
      · rename_i hend
        cases h
        exact .dropSend r hn hend
      · cases h
    · cases h
  case request q =>
    split at h
    · rename_i hsel
      cases h
      exact .request q hsel
    · cases h
  case terminate =>
    split at h
    · rename_i hsel
      cases h
      exact .terminate hsel
    · cases h
  case hangUp =>
    split at h
    · rename_i hsel
      cases h
      exact .hangUp hsel
    · cases h
  case deliver =>
    split at h
    · cases h
    · rename_i m out hout
      cases h
      exact .deliver m out hout
  case networkGone =>
    split at h
    · rename_i hn
      split at h
      · rename_i hsel
        cases h
        rw [Bool.and_eq_true] at hsel
        exact .networkGone hn hsel.1 hsel.2
      · cases h
    · cases h
  case join =>
    split at h
    · rename_i hn
      split at h
      · rename_i hj
        cases h
        rw [Bool.and_eq_true, List.isEmpty_iff, beq_iff_eq] at hj
        exact .join hn hj.1 hj.2
      · cases h
    · cases h
  case close =>
    cases h
    exact .close

/-- The main thread takes a step only from its select, with something to send, or at its join. -/
theorem step_idle {a : Act Req Msg Err} (hout : w.out = []) (hnext : w.next ≠ .select)
    (h : step c w a = some w') :
    w'.out = [] ∧ (w'.next = w.next ∨ w.next = .join ∧ w.network = .finished) := by
  have hsel : w.selecting ≠ true := fun hs => hnext (selecting_iff.mp hs).2
  cases step_stepped h with
  | receive r hn hr => exact ⟨hout, Or.inl rfl⟩
  | handOver r hn hs hl => exact absurd hs hsel
  | dropSend r hn hend => exact ⟨hout, Or.inl rfl⟩
  | request q hs => exact absurd hs hsel
  | terminate hs => exact absurd hs hsel
  | hangUp hs => exact absurd hs hsel
  | deliver m out hm => rw [hout] at hm; cases hm
  | networkGone hn hs hl => exact absurd hs hsel
  | join hn _ hj => exact ⟨hout, Or.inr ⟨hj, hn⟩⟩
  | close => exact ⟨hout, Or.inl rfl⟩

/-- What the main thread will have to send once it takes the result of the network thread. -/
def State.saysNext (c : Code σ Req Msg Err Out) (w : State σ Msg Err Out) : List Out :=
  match w.network with
  | .sending r => (c.onMessage w.data r).out
  | _ => []

/-- Only a request and a result of the network thread give the main thread something to send. -/
theorem step_silent {a : Act Req Msg Err} (h : step c w a = some w') (hout : w.out = [])
    (hreq : ∀ q, a ≠ .request q) (hquiet : a.isHandOver = true → w.saysNext c = []) : w'.out = [] := by
  cases step_stepped h with
  | receive r hn hr => exact hout
  | handOver r hn hsel hl =>
    have := hquiet rfl
    rwa [State.saysNext, hn] at this
  | dropSend r hn hend => exact hout
  | request q hsel => exact absurd rfl (hreq q)
  | terminate hsel => exact hout
  | hangUp hsel => exact hout
  | deliver m out hm => rw [hout] at hm; cases hm
  | networkGone hn hsel hl => exact hout
  | join hn _ hnext => exact hout
  | close => exact hout

/-- A main thread with something to send keeps it until it is delivered. -/
theorem step_speaking {a : Act Req Msg Err} (hout : w.out ≠ []) (ha : a ≠ .deliver)
    (h : step c w a = some w') : w'.out = w.out := by
  have hsel : w.selecting ≠ true := fun hs => hout (selecting_iff.mp hs).1
  cases step_stepped h with
  | receive r hn hr => rfl
  | handOver r hn hs hl => exact absurd hs hsel
  | dropSend r hn hend => rfl
  | request q hs => exact absurd hs hsel
  | terminate hs => exact absurd hs hsel
  | hangUp hs => exact absurd hs hsel
  | deliver m out hm => exact absurd rfl ha
  | networkGone hn hs hl => exact absurd hs hsel
  | join hn hnil hnext => exact absurd hnil hout
  | close => rfl

/-- The network thread never starts again. -/
theorem step_finished {a : Act Req Msg Err} (hfin : w.network = .finished)
    (h : step c w a = some w') : w'.network = .finished := by
  cases step_stepped h with
  | receive r hn hr => rw [hfin] at hn; cases hn
  | handOver r hn hsel hl => rw [hfin] at hn; cases hn
  | dropSend r hn hend => rw [hfin] at hn; cases hn
  | request q hsel => exact hfin
  | terminate hsel => exact hfin
  | hangUp hsel => exact hfin
  | deliver m out hout => exact hfin
  | networkGone hn hsel hl => exact hfin
  | join hn hout hnext => exact hfin
  | close => exact hfin

/-- The network thread leaves its send only when the main thread takes it or has ended. -/
theorem step_sending {a : Act Req Msg Err} (hsend : w.network.isSending = true)
    (hjoin : w.next = .join) (h : step c w a = some w') : w'.network.isSending = true := by
  have hsel : w.selecting ≠ true := by
    intro hs
    have := (selecting_iff.mp hs).2
    rw [hjoin] at this
    cases this
  have hfin : w.network ≠ .finished := by
    intro hn
    rw [hn] at hsend
    cases hsend
  cases step_stepped h with
  | receive r hn hr => rfl
  | handOver r hn hs hl => exact absurd hs hsel
  | dropSend r hn hend =>
    have := (ended_iff.mp hend).2
    rw [hjoin] at this
    cases this
  | request q hs => exact absurd hs hsel
  | terminate hs => exact absurd hs hsel
  | hangUp hs => exact absurd hs hsel
  | deliver m out hout => exact hsend
  | networkGone hn hs hl => exact absurd hn hfin
  | join hn hout hnext => exact absurd hn hfin
  | close => exact hsend

/-- **A stuck worker stays stuck.** -/
theorem Stuck.step {a : Act Req Msg Err} (hs : Stuck w) (h : step c w a = some w') : Stuck w' := by
  obtain ⟨hout, hnext, hsend⟩ := hs
  obtain ⟨hout', hnext'⟩ := step_idle hout (by rw [hnext]; decide) h
  refine ⟨hout', ?_, step_sending hsend hnext h⟩
  rcases hnext' with hnext' | ⟨-, hfin⟩
  · rw [hnext', hnext]
  · rw [hfin] at hsend; cases hsend

/-- When the main loop ends on every error, a main thread in its select has a live network thread. -/
theorem step_live {a : Act Req Msg Err} (hleave : ∀ d e, (c.onMessage d (.error e)).next ≠ .select)
    (hI : w.network = .finished → w.next ≠ .select) (h : step c w a = some w')
    (hfin : w'.network = .finished) : w'.next ≠ .select := by
  cases step_stepped h with
  | receive r hn hr => cases hfin
  | handOver r hn hsel hl =>
    cases r with
    | ok msg => cases hfin
    | error e => exact hleave w.data e
  | dropSend r hn hend =>
    have hgone : w.next = .gone := (ended_iff.mp hend).2
    intro hselect
    rw [hgone] at hselect
    cases hselect
  | request q hsel => exact absurd (selecting_iff.mp hsel).2 (hI hfin)
  | terminate hsel => exact absurd (selecting_iff.mp hsel).2 (hI hfin)
  | hangUp hsel => exact absurd (selecting_iff.mp hsel).2 (hI hfin)
  | deliver m out hout => exact hI hfin
  | networkGone hn hsel hl => intro hselect; cases hselect
  | join hn hout hnext => intro hselect; cases hselect
  | close => exact hI hfin

/-- What the handlers establish, unless they end the loop, the data keeps until the main thread has
ended. -/
theorem step_data {a : Act Req Msg Err} {P : σ → Prop}
    (hreq : ∀ d q, P d → (c.onRequest d q).next ≠ .gone → P (c.onRequest d q).data)
    (hmsg : ∀ d r, P d → (c.onMessage d r).next ≠ .gone → P (c.onMessage d r).data)
    (hI : w.next ≠ .gone → P w.data) (h : step c w a = some w') (hgone : w'.next ≠ .gone) :
    P w'.data := by
  have hselect : w.selecting = true → w.next ≠ .gone := by
    intro hsel hw
    have := (selecting_iff.mp hsel).2
    rw [hw] at this
    cases this
  cases step_stepped h with
  | receive r hn hr => exact hI hgone
  | handOver r hn hsel hl => exact hmsg w.data r (hI (hselect hsel)) hgone
  | dropSend r hn hend => exact hI hgone
  | request q hsel => exact hreq w.data q (hI (hselect hsel)) hgone
  | terminate hsel => exact hI (hselect hsel)
  | hangUp hsel => exact hI (hselect hsel)
  | deliver m out hout => exact hI hgone
  | networkGone hn hsel hl => exact hI (hselect hsel)
  | join hn hout hnext => exact absurd rfl hgone
  | close => exact hI hgone

/-- No run from here gets stuck. -/
def Finishes (c : Code σ Req Msg Err Out) (w : State σ Msg Err Out) : Prop :=
  ∀ acts : List (Act Req Msg Err), Machine.Always (step c) (fun t => ¬ Stuck t) w acts

theorem finishes_of_finished (h : w.network = .finished) : Finishes c w := by
  intro acts
  have hall : Machine.Always (step c) (fun t => t.network = .finished) w acts :=
    Machine.always_of_invariant (fun _ _ _ ht hstep => step_finished ht hstep) acts h
  refine hall.mono fun t ht hs => ?_
  rw [Stuck, ht] at hs
  cases hs.2.2

theorem finishes_of_gone (hout : w.out = []) (h : w.next = .gone) : Finishes c w := by
  intro acts
  have hstep : ∀ s (a : Act Req Msg Err) s', s.out = [] ∧ s.next = .gone →
      step c s a = some s' → s'.out = [] ∧ s'.next = .gone := by
    intro s a s' hs h
    obtain ⟨hout', hnext'⟩ := step_idle hs.1 (by rw [hs.2]; decide) h
    rcases hnext' with hnext' | ⟨hjoin, -⟩
    · exact ⟨hout', hnext'.trans hs.2⟩
    · rw [hs.2] at hjoin; cases hjoin
  refine (Machine.always_of_invariant hstep acts ⟨hout, h⟩).mono fun t ht hs => ?_
  rw [Stuck, ht.2] at hs
  cases hs.2.1

theorem step_terminate (h : step c w (.terminate : Act Req Msg Err) = some w') :
    w.out = [] ∧ w' = w.leave c := by
  cases step_stepped h with
  | terminate hsel => exact ⟨(selecting_iff.mp hsel).1, rfl⟩

/-- A worker that joins a network thread which has not finished gets stuck when the connection is
closed. -/
theorem not_finishes_of_join (e : Err) (hout : w.out = []) (hnext : w.next = .join)
    (hn : w.network ≠ .finished) : ¬ Finishes c w := by
  intro hf
  cases hw : w.network with
  | receiving =>
    refine (hf [.close, .receive (.error e)]).last (t := { w with
      closed := true, network := .sending (.error e) }) ?_ ⟨hout, hnext, rfl⟩
    simp [Machine.run, step, hw, Except.isOk, Except.toBool]
  | sending r => exact (hf []) ⟨hout, hnext, by rw [hw]; rfl⟩
  | finished => exact hn hw

/-- **A worker finishes after a termination exactly when it had not listened to its network thread
yet, or that thread had finished.** -/
theorem finishes_iff (e : Err) (h : step c w (.terminate : Act Req Msg Err) = some w') :
    Finishes c w' ↔ c.listens w.data = false ∨ w.network = .finished := by
  obtain ⟨hout, rfl⟩ := step_terminate h
  constructor
  · intro hf
    by_cases hl : c.listens w.data
    · refine Or.inr (Classical.byContradiction fun hn => ?_)
      exact not_finishes_of_join (w := w.leave c) e hout (by simp [State.leave, hl]) hn hf
    · exact Or.inl (by simpa using hl)
  · rintro (hl | hn)
    · exact finishes_of_gone (w := w.leave c) hout (by simp [State.leave, hl])
    · exact finishes_of_finished hn

end Worker
