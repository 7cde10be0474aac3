import ApertureC.ClientWorkers

/-!
# The primary thread of the client and its workers (`aperturec-client/src/lib.rs`)

The primary thread selects between the notifications of the `Connection` and the messages of four
workers.  All its channels but the event queue of the UI have no capacity: a send waits until the
receiver is in its select.

* `PrimaryOp` — one operation of a handler of the primary thread; `shutdown` is what follows its
  loop.
* `Client.step` — one step of the primary thread, of `ec-main` or `mc-main` with their network
  threads, or of the world around them.  A thread whose next operation is a send may still be on
  its way to it, so the bias of a select does not restrict the order of steps; the control and the
  tunnel worker accept every message.

Principal results: `step_workers`, `run_workers` (the workers of the client run as workers do) and
`no_deadlock_of_clear` — the primary thread and a worker never wait in sends to one another when no
thread begins to send to a thread that has something to send to it.
-/

set_option autoImplicit false

namespace ApertureC

open Geometry Worker

/-- `ToCC`, `ToEC`, `ToMC` and `ToTC`: a request to a worker, or `Terminate`. -/
inductive Command (Req : Type) where
  | request (q : Req)
  | terminate

/-- The notifications of the `Connection`.  Tunnel allocations are passed on unread. -/
inductive Notification where
  | terminate
  | toCc (n : Command ControlRequest)
  | toEc (n : Command UserEvent)
  | toMc (n : Command DisplayConfiguration)
  | toTc (n : Command Unit)

inductive WorkerError where
  | control (e : ChannelError)
  | event (e : EventError)
  | media (e : ChannelError)

inductive QuitReason where
  | serverGoodbye (serverReason : String)
  | unrecoverableError (e : WorkerError)

/-- `Event`, as the UI receives it. -/
inductive ClientEvent where
  | draw (d : Draw)
  | cursorChange (c : Cursor)
  | displayChange (dc : DisplayConfiguration)
  | quit (reason : QuitReason)

inductive PrimaryOp where
  | toCc (n : Command ControlRequest)
  | toEc (n : Command UserEvent)
  | toMc (n : Command DisplayConfiguration)
  | toTc (n : Command Unit)
  | emit (e : ClientEvent)
  | exit

/-! ## The handlers of the primary thread -/

/-- After the loop every worker is told to terminate, and the connection is closed. -/
def shutdown : List PrimaryOp :=
  [.toCc .terminate, .toEc .terminate, .toMc .terminate, .toTc .terminate, .exit]

def onNotification : Notification → List PrimaryOp
  | .terminate => shutdown
  | .toCc n => [.toCc n]
  | .toEc n => [.toEc n]
  | .toMc n => [.toMc n]
  | .toTc n => [.toTc n]

def onControl : ControlPtn → List PrimaryOp
  | .serverInit => []
  | .serverGoodbye reason => .emit (.quit (.serverGoodbye reason)) :: shutdown
  | .error e => .emit (.quit (.unrecoverableError (.control e))) :: shutdown

def onEvent : EventPtn → List PrimaryOp
  | .displayConfiguration dc => [.toMc (.request dc), .emit (.displayChange dc)]
  | .cursor c => [.emit (.cursorChange c)]
  | .error (.protocol _) => []
  | .error e => .emit (.quit (.unrecoverableError (.event e))) :: shutdown

def onMedia : MediaPtn → List PrimaryOp
  | .draw d => [.emit (.draw d)]
  | .error e => .emit (.quit (.unrecoverableError (.media e))) :: shutdown

/-! ## The client -/

structure Client where
  ops : List PrimaryOp
  exited : Bool
  ec : State CursorCache EventMessage ChannelError EventPtn
  mc : State (Option Framer) (Option MediaMessage) ChannelError MediaPtn
  events : List ClientEvent

abbrev EventAct := Act (UserEvent × Bool) EventMessage ChannelError

abbrev MediaAct := Act DisplayConfiguration (Option MediaMessage) ChannelError

/-- A step.  `sent` tells whether the network accepts what a step of the primary thread makes a
worker send; the `…Gone` steps are disconnected channels. -/
inductive ClientAct where
  | notification (n : Notification)
  | hangUp
  | control (m : ControlPtn)
  | controlGone
  | event
  | eventGone
  | media
  | mediaGone
  | tunnel
  | tunnelGone
  | perform (sent : Bool)
  | ec (a : EventAct)
  | mc (a : MediaAct)

/-- The steps a worker takes without the primary thread, or after that has ended. -/
def ownStep {Req Msg Err : Type} (primaryExited : Bool) : Act Req Msg Err → Bool
  | .request _ | .terminate => false
  | .hangUp | .deliver => primaryExited
  | _ => true

namespace Client

/-- The primary thread is spawned once `mc-main` has its first display configuration. -/
def initial (dc : DisplayConfiguration) : Client where
  ops := []
  exited := false
  ec := .initial ∅
  mc := .initial (some (Framer.new dc))
  events := []

/-- The primary thread leaves its select with operations to perform. -/
def take (s : Client) (ops : List PrimaryOp) : Option Client :=
  if s.ops.isEmpty && !s.exited then some { s with ops := ops } else none

/-- `send_or_warn`: a message to a worker that has ended is dropped. -/
def sendEc (s : Client) (a : EventAct) : Option Client :=
  if s.ec.ended then some s else (Worker.step eventCode s.ec a).map fun w => { s with ec := w }

def sendMc (codecs : Codecs) (s : Client) (a : MediaAct) : Option Client :=
  if s.mc.ended then some s
  else (Worker.step (mediaCode codecs) s.mc a).map fun w => { s with mc := w }

/-- The next operation of the primary thread. -/
def perform (codecs : Codecs) (sent : Bool) (s : Client) : PrimaryOp → Option Client
  | .toCc _ => some s
  | .toEc (.request ue) => s.sendEc (.request (ue, sent))
  | .toEc .terminate => s.sendEc .terminate
  | .toMc (.request dc) => s.sendMc codecs (.request dc)
  | .toMc .terminate => s.sendMc codecs .terminate
  | .toTc _ => some s
  | .emit e => some { s with events := s.events ++ [e] }
  | .exit =>
    some { s with
      exited := true, ec := { s.ec with closed := true }, mc := { s.mc with closed := true } }

def step (codecs : Codecs) (s : Client) : ClientAct → Option Client
  | .notification n => s.take (onNotification n)
  | .hangUp => s.take shutdown
  | .control m => s.take (onControl m)
  | .controlGone => s.take shutdown
  | .event =>
    match s.ec.out with
    | [] => none
    | m :: out => { s with ec := { s.ec with out := out } }.take (onEvent m)
  | .eventGone => if s.ec.ended then s.take shutdown else none
  | .media =>
    match s.mc.out with
    | [] => none
    | m :: out => { s with mc := { s.mc with out := out } }.take (onMedia m)
  | .mediaGone => if s.mc.ended then s.take shutdown else none
  | .tunnel => s.take []
  | .tunnelGone => s.take shutdown
  | .perform sent =>
    match s.ops with
    | [] => none
    | op :: ops => { s with ops := ops }.perform codecs sent op
  | .ec a =>
    if ownStep s.exited a then
      (Worker.step eventCode s.ec a).map fun w => { s with ec := w }
    else none
  | .mc a =>
    if ownStep s.exited a then
      (Worker.step (mediaCode codecs) s.mc a).map fun w => { s with mc := w }
    else none

variable {codecs : Codecs} {s s' : Client} {ops : List PrimaryOp} {a : ClientAct}

theorem take_eq_some (h : s.take ops = some s') :
    s.ops = [] ∧ s.exited = false ∧ s' = { s with ops := ops } := by
  unfold take at h
  split at h
  · rename_i hsel
    cases h
    simpa using hsel
  · cases h

/-- What the primary thread takes up in a step, unless it is a message of a worker. -/
def takes : ClientAct → Option (List PrimaryOp)
  | .notification n => some (onNotification n)
  | .control m => some (onControl m)
  | .hangUp | .controlGone | .eventGone | .mediaGone | .tunnelGone => some shutdown
  | .tunnel => some []
  | .event | .media | .perform _ | .ec _ | .mc _ => none

/-- What a step does, and when it is possible. -/
inductive Stepped (codecs : Codecs) (s : Client) : ClientAct → Client → Prop where
  | take {a : ClientAct} (ops : List PrimaryOp) (ha : takes a = some ops) (hops : s.ops = [])
      (hx : s.exited = false) : Stepped codecs s a { s with ops := ops }
  | event (m : EventPtn) (out : List EventPtn) (hout : s.ec.out = m :: out) (hops : s.ops = [])
      (hx : s.exited = false) :
      Stepped codecs s .event { s with ec := { s.ec with out := out }, ops := onEvent m }
  | media (m : MediaPtn) (out : List MediaPtn) (hout : s.mc.out = m :: out) (hops : s.ops = [])
      (hx : s.exited = false) :
      Stepped codecs s .media { s with mc := { s.mc with out := out }, ops := onMedia m }
  | perform (sent : Bool) (op : PrimaryOp) (ops : List PrimaryOp) (s' : Client)
      (hops : s.ops = op :: ops) (hp : { s with ops := ops }.perform codecs sent op = some s') :
      Stepped codecs s (.perform sent) s'
  | ec (b : EventAct) (w : State CursorCache EventMessage ChannelError EventPtn)
      (hown : ownStep s.exited b = true) (hw : Worker.step eventCode s.ec b = some w) :
      Stepped codecs s (.ec b) { s with ec := w }
  | mc (b : MediaAct) (w : State (Option Framer) (Option MediaMessage) ChannelError MediaPtn)
      (hown : ownStep s.exited b = true) (hw : Worker.step (mediaCode codecs) s.mc b = some w) :
      Stepped codecs s (.mc b) { s with mc := w }

theorem take_stepped (ha : takes a = some ops) (h : s.take ops = some s') :
    Stepped codecs s a s' := by
  obtain ⟨hops, hx, rfl⟩ := take_eq_some h
  exact .take ops ha hops hx

theorem step_stepped (h : step codecs s a = some s') : Stepped codecs s a s' := by
  cases a <;> simp only [step] at h
  case notification n => exact take_stepped rfl h
  case hangUp => exact take_stepped rfl h
  case control m => exact take_stepped rfl h
  case controlGone => exact take_stepped rfl h
  case tunnel => exact take_stepped rfl h
  case tunnelGone => exact take_stepped rfl h
  case eventGone =>
    split at h
    · exact take_stepped rfl h
    · cases h
  case mediaGone =>
    split at h
    · exact take_stepped rfl h
    · cases h
  case event =>
    split at h
    · cases h
    · rename_i m out hout
      obtain ⟨hops, hx, rfl⟩ := take_eq_some h
      exact .event m out hout hops hx
  case media =>
    split at h
    · cases h
    · rename_i m out hout
      obtain ⟨hops, hx, rfl⟩ := take_eq_some h
      exact .media m out hout hops hx
  case perform sent =>
    split at h
    · cases h
    · rename_i op ops hops
      exact .perform sent op ops s' hops h
  case ec b =>
    split at h
    · rename_i hown
      obtain ⟨w, hw, rfl⟩ := Option.map_eq_some_iff.mp h
      exact .ec b w hown hw
    · cases h
  case mc b =>
    split at h
    · rename_i hown
      obtain ⟨w, hw, rfl⟩ := Option.map_eq_some_iff.mp h
      exact .mc b w hown hw
    · cases h

/-! ### The workers of the client -/

/-- The step of one worker, as part of a step of the client. -/
def WorkerStep {σ Req Msg Err Out : Type} (c : Code σ Req Msg Err Out)
    (w w' : State σ Msg Err Out) : Prop :=
  w' = w ∨ ∃ b, Worker.step c w b = some w'

theorem sendEc_workers {b : EventAct} (h : s.sendEc b = some s') :
    WorkerStep eventCode s.ec s'.ec ∧ s'.mc = s.mc ∧ s'.ops = s.ops := by
  unfold sendEc at h
  split at h
  · cases h
    exact ⟨Or.inl rfl, rfl, rfl⟩
  · obtain ⟨w, hw, rfl⟩ := Option.map_eq_some_iff.mp h
    exact ⟨Or.inr ⟨b, hw⟩, rfl, rfl⟩

theorem sendMc_workers {b : MediaAct} (h : s.sendMc codecs b = some s') :
    WorkerStep (mediaCode codecs) s.mc s'.mc ∧ s'.ec = s.ec ∧ s'.ops = s.ops := by
  unfold sendMc at h
  split at h
  · cases h
    exact ⟨Or.inl rfl, rfl, rfl⟩
  · obtain ⟨w, hw, rfl⟩ := Option.map_eq_some_iff.mp h
    exact ⟨Or.inr ⟨b, hw⟩, rfl, rfl⟩

/-- An operation of the primary thread moves at most the worker it is for. -/
theorem perform_workers {sent : Bool} {op : PrimaryOp} (h : s.perform codecs sent op = some s') :
    WorkerStep eventCode s.ec s'.ec ∧ WorkerStep (mediaCode codecs) s.mc s'.mc := by
  cases op with
  | toCc n => cases h; exact ⟨Or.inl rfl, Or.inl rfl⟩
  | toTc n => cases h; exact ⟨Or.inl rfl, Or.inl rfl⟩
  | emit e => cases h; exact ⟨Or.inl rfl, Or.inl rfl⟩
  | toEc n =>
    have hw : WorkerStep eventCode s.ec s'.ec ∧ s'.mc = s.mc ∧ s'.ops = s.ops := by
      cases n <;> exact sendEc_workers h
    exact ⟨hw.1, Or.inl hw.2.1⟩
  | toMc n =>
    have hw : WorkerStep (mediaCode codecs) s.mc s'.mc ∧ s'.ec = s.ec ∧ s'.ops = s.ops := by
      cases n <;> exact sendMc_workers h
    exact ⟨Or.inl hw.2.1, hw.1⟩
  | exit => cases h; exact ⟨Or.inr ⟨.close, rfl⟩, Or.inr ⟨.close, rfl⟩⟩

theorem step_workers (h : step codecs s a = some s') :
    WorkerStep eventCode s.ec s'.ec ∧ WorkerStep (mediaCode codecs) s.mc s'.mc := by
  cases step_stepped h with
  | take ops ha hops hx => exact ⟨Or.inl rfl, Or.inl rfl⟩
  | event m out hout hops hx =>
    refine ⟨Or.inr ⟨.deliver, ?_⟩, Or.inl rfl⟩
    simp only [Worker.step, hout]
  | media m out hout hops hx =>
    refine ⟨Or.inl rfl, Or.inr ⟨.deliver, ?_⟩⟩
    simp only [Worker.step, hout]
  | perform sent op ops s' hops hp => exact perform_workers (s := { s with ops := ops }) hp
  | ec b w hown hw => exact ⟨Or.inr ⟨b, hw⟩, Or.inl rfl⟩
  | mc b w hown hw => exact ⟨Or.inl rfl, Or.inr ⟨b, hw⟩⟩

/-- **The workers of the client run as workers do**: in every run of the client each is in a state
that a run of its own reaches. -/
theorem run_workers {dc : DisplayConfiguration}
    (h : Machine.Reachable (step codecs) (initial dc) s) :
    Machine.Reachable (Worker.step eventCode) (.initial ∅) s.ec ∧
    Machine.Reachable (Worker.step (mediaCode codecs)) (.initial (some (Framer.new dc))) s.mc := by
  refine h.invariant (I := fun s => Machine.Reachable (Worker.step eventCode) (.initial ∅) s.ec ∧
    Machine.Reachable (Worker.step (mediaCode codecs)) (.initial (some (Framer.new dc))) s.mc)
    ⟨.refl _, .refl _⟩ (fun s a s' hI hstep => ?_)
  obtain ⟨hec, hmc⟩ := step_workers hstep
  constructor
  · rcases hec with heq | ⟨b, hb⟩
    · rw [heq]; exact hI.1
    · exact hI.1.tail hb
  · rcases hmc with heq | ⟨b, hb⟩
    · rw [heq]; exact hI.2
    · exact hI.2.tail hb

end Client

/-! ## Deadlocks -/

/-- The workers that send to the primary thread and receive from it. -/
inductive Peer where
  | ec
  | mc
  deriving DecidableEq, Repr

/-- The worker an operation waits for. -/
def PrimaryOp.peer : PrimaryOp → Option Peer
  | .toEc _ => some .ec
  | .toMc _ => some .mc
  | _ => none

/-- The workers a list of operations waits for, in order. -/
def targets (ops : List PrimaryOp) : List Peer := ops.filterMap PrimaryOp.peer

/-- None of the workers the operations wait for has something to send. -/
def Unopposed (ops : List PrimaryOp) (ec : List EventPtn) (mc : List MediaPtn) : Prop :=
  (Peer.ec ∈ targets ops → ec = []) ∧ (Peer.mc ∈ targets ops → mc = [])

instance (ops : List PrimaryOp) (ec : List EventPtn) (mc : List MediaPtn) :
    Decidable (Unopposed ops ec mc) :=
  inferInstanceAs (Decidable ((Peer.ec ∈ targets ops → ec = []) ∧ (Peer.mc ∈ targets ops → mc = [])))

theorem unopposed_nil (ec : List EventPtn) (mc : List MediaPtn) : Unopposed [] ec mc :=
  ⟨(fun hmem => nomatch hmem), (fun hmem => nomatch hmem)⟩

namespace Client

variable {codecs : Codecs} {s s' : Client} {ops : List PrimaryOp} {a : ClientAct}

/-- The primary thread waits in a send to a worker that waits in a send to it. -/
def Deadlocked (s : Client) : Prop :=
  (s.ops.head?.bind PrimaryOp.peer = some .ec ∧ s.ec.out ≠ []) ∨
  (s.ops.head?.bind PrimaryOp.peer = some .mc ∧ s.mc.out ≠ [])

/-- No thread begins to send to a thread that has something to send to it: what the primary thread
takes up makes it send only to silent workers, and a worker takes a message that makes it speak
only when the primary thread has nothing for it. -/
def Clear (codecs : Codecs) (s : Client) : ClientAct → Prop
  | .notification n => Unopposed (onNotification n) s.ec.out s.mc.out
  | .control m => Unopposed (onControl m) s.ec.out s.mc.out
  | .event => Unopposed ((s.ec.out.take 1).flatMap onEvent) s.ec.out.tail s.mc.out
  | .media => Unopposed ((s.mc.out.take 1).flatMap onMedia) s.ec.out s.mc.out.tail
  | .hangUp | .controlGone | .eventGone | .mediaGone | .tunnelGone =>
    Unopposed shutdown s.ec.out s.mc.out
  | .ec b => b.isHandOver = true → Peer.ec ∈ targets s.ops → s.ec.saysNext eventCode = []
  | .mc b => b.isHandOver = true → Peer.mc ∈ targets s.ops → s.mc.saysNext (mediaCode codecs) = []
  | .tunnel | .perform _ => True

instance (codecs : Codecs) (s : Client) : ∀ a, Decidable (Clear codecs s a)
  | .notification n => inferInstanceAs (Decidable (Unopposed (onNotification n) s.ec.out s.mc.out))
  | .control m => inferInstanceAs (Decidable (Unopposed (onControl m) s.ec.out s.mc.out))
  | .event => inferInstanceAs (Decidable
      (Unopposed ((s.ec.out.take 1).flatMap onEvent) s.ec.out.tail s.mc.out))
  | .media => inferInstanceAs (Decidable
      (Unopposed ((s.mc.out.take 1).flatMap onMedia) s.ec.out s.mc.out.tail))
  | .hangUp | .controlGone | .eventGone | .mediaGone | .tunnelGone =>
    inferInstanceAs (Decidable (Unopposed shutdown s.ec.out s.mc.out))
  | .ec b => inferInstanceAs (Decidable
      (b.isHandOver = true → Peer.ec ∈ targets s.ops → s.ec.saysNext eventCode = []))
  | .mc b => inferInstanceAs (Decidable
      (b.isHandOver = true → Peer.mc ∈ targets s.ops → s.mc.saysNext (mediaCode codecs) = []))
  | .tunnel | .perform _ => isTrue trivial

/-- The operations of a handler name each worker at most once. -/
theorem targets_shutdown_nodup : (targets shutdown).Nodup := by decide

theorem targets_onNotification_nodup (n : Notification) : (targets (onNotification n)).Nodup := by
  cases n with
  | terminate => exact targets_shutdown_nodup
  | toCc n => exact List.nodup_nil
  | toEc n => exact List.nodup_singleton _
  | toMc n => exact List.nodup_singleton _
  | toTc n => exact List.nodup_nil

theorem targets_emit (e : ClientEvent) (ops : List PrimaryOp) :
    targets (.emit e :: ops) = targets ops := rfl

theorem targets_onControl_nodup (m : ControlPtn) : (targets (onControl m)).Nodup := by
  cases m <;> simp only [onControl, targets_emit, targets_shutdown_nodup]
  exact List.nodup_nil

theorem targets_onEvent_nodup (m : EventPtn) : (targets (onEvent m)).Nodup := by
  cases m with
  | displayConfiguration dc => exact List.nodup_singleton _
  | cursor c => exact List.nodup_nil
  | error e =>
    cases e <;> simp only [onEvent, targets_emit, targets_shutdown_nodup]
    exact List.nodup_nil

theorem targets_onMedia_nodup (m : MediaPtn) : (targets (onMedia m)).Nodup := by
  cases m <;> simp only [onMedia, targets_emit, targets_shutdown_nodup]
  exact List.nodup_nil

/-- The invariant of a run without deadlock. -/
structure Quiet (ops : List PrimaryOp) (ec : List EventPtn) (mc : List MediaPtn) : Prop where
  once : (targets ops).Nodup
  unopposed : Unopposed ops ec mc

theorem Quiet.not_deadlocked (h : Quiet s.ops s.ec.out s.mc.out) : ¬ Deadlocked s := by
  have hmem : ∀ p, s.ops.head?.bind PrimaryOp.peer = some p → p ∈ targets s.ops := by
    intro p hp
    cases hops : s.ops with
    | nil => rw [hops] at hp; cases hp
    | cons op ops =>
      rw [hops] at hp
      exact List.mem_filterMap.mpr ⟨op, List.mem_cons_self, hp⟩
  rintro (⟨hp, hout⟩ | ⟨hp, hout⟩)
  · exact hout (h.unopposed.1 (hmem _ hp))
  · exact hout (h.unopposed.2 (hmem _ hp))

theorem targets_cons (op : PrimaryOp) (ops : List PrimaryOp) :
    targets (op :: ops) = op.peer.toList ++ targets ops := by
  cases op <;> rfl

/-- One operation less. -/
theorem Quiet.tail {op : PrimaryOp} {ec : List EventPtn} {mc : List MediaPtn}
    (h : Quiet (op :: ops) ec mc) : Quiet ops ec mc := by
  have hsub : ∀ p, p ∈ targets ops → p ∈ targets (op :: ops) := by
    intro p hp
    rw [targets_cons]
    exact List.mem_append_right _ hp
  refine ⟨?_, fun hp => h.unopposed.1 (hsub _ hp), fun hp => h.unopposed.2 (hsub _ hp)⟩
  have := h.once
  rw [targets_cons] at this
  exact (List.nodup_append.mp this).2.1

/-- An operation of the primary thread leaves a worker silent that none of the others is for. -/
theorem quiet_perform {sent : Bool} {op : PrimaryOp}
    (h : Quiet (op :: s.ops) s.ec.out s.mc.out) (hp : s.perform codecs sent op = some s') :
    Quiet s'.ops s'.ec.out s'.mc.out := by
  have htail := h.tail
  have honce := h.once
  rw [targets_cons] at honce
  cases op with
  | toCc n => cases hp; exact htail
  | toTc n => cases hp; exact htail
  | emit e => cases hp; exact htail
  | exit => cases hp; exact htail
  | toEc n =>
    obtain ⟨-, hmc, hops⟩ : WorkerStep eventCode s.ec s'.ec ∧ s'.mc = s.mc ∧ s'.ops = s.ops := by
      cases n <;> exact sendEc_workers hp
    have hnot : Peer.ec ∉ targets s.ops := (List.nodup_cons.mp honce).1
    rw [hops, hmc]
    exact ⟨htail.once, fun hmem => absurd hmem hnot, htail.unopposed.2⟩
  | toMc n =>
    obtain ⟨-, hec, hops⟩ : WorkerStep (mediaCode codecs) s.mc s'.mc ∧ s'.ec = s.ec ∧
        s'.ops = s.ops := by
      cases n <;> exact sendMc_workers hp
    have hnot : Peer.mc ∉ targets s.ops := (List.nodup_cons.mp honce).1
    rw [hops, hec]
    exact ⟨htail.once, htail.unopposed.1, fun hmem => absurd hmem hnot⟩

theorem targets_takes_nodup (ha : takes a = some ops) : (targets ops).Nodup := by
  cases a <;> simp only [takes, reduceCtorEq, Option.some.injEq] at ha <;> subst ha
  case notification n => exact targets_onNotification_nodup n
  case control m => exact targets_onControl_nodup m
  case tunnel => exact List.nodup_nil
  all_goals exact targets_shutdown_nodup

/-- What the primary thread takes up in a clear step is for silent workers. -/
theorem Clear.takes (hc : Clear codecs s a) (ha : takes a = some ops) :
    Unopposed ops s.ec.out s.mc.out := by
  cases a <;> simp only [Client.takes, reduceCtorEq, Option.some.injEq] at ha <;> subst ha
  case tunnel => exact unopposed_nil _ _
  all_goals exact hc

theorem ownStep_request {Req Msg Err : Type} {e : Bool} {b : Act Req Msg Err}
    (h : ownStep e b = true) : ∀ q, b ≠ .request q := by
  rintro q rfl
  cases h

/-- **A clear step keeps the invariant.** -/
theorem quiet_step (hq : Quiet s.ops s.ec.out s.mc.out) (hc : Clear codecs s a)
    (h : step codecs s a = some s') : Quiet s'.ops s'.ec.out s'.mc.out := by
  cases step_stepped h with
  | take ops ha hops hx => exact ⟨targets_takes_nodup ha, hc.takes ha⟩
  | event m out hout hops hx =>
    simp only [Clear, hout, List.take_succ_cons, List.take_zero, List.flatMap_cons,
      List.flatMap_nil, List.append_nil, List.tail_cons] at hc
    exact ⟨targets_onEvent_nodup m, hc⟩
  | media m out hout hops hx =>
    simp only [Clear, hout, List.take_succ_cons, List.take_zero, List.flatMap_cons,
      List.flatMap_nil, List.append_nil, List.tail_cons] at hc
    exact ⟨targets_onMedia_nodup m, hc⟩
  | perform sent op ops s' hops hp =>
    rw [hops] at hq
    exact quiet_perform (s := { s with ops := ops }) hq hp
  | ec b w hown hw =>
    refine ⟨hq.once, fun hmem => ?_, hq.unopposed.2⟩
    exact step_silent hw (hq.unopposed.1 hmem) (ownStep_request hown) fun hb => hc hb hmem
  | mc b w hown hw =>
    refine ⟨hq.once, hq.unopposed.1, fun hmem => ?_⟩
    exact step_silent hw (hq.unopposed.2 hmem) (ownStep_request hown) fun hb => hc hb hmem

/-- **The rendezvous channels of the running client.**  In every run in which no thread begins to
send to a thread that has something to send to it, the primary thread never waits in a send to
`ec-main` or `mc-main` while that thread waits in a send to it. -/
theorem no_deadlock_of_clear (codecs : Codecs) (dc : DisplayConfiguration) (acts : List ClientAct)
    (hclear : Machine.Guarded (step codecs) (Clear codecs) (initial dc) acts) :
    Machine.Always (step codecs) (fun s => ¬ Deadlocked s) (initial dc) acts := by
  have hq : Machine.Always (step codecs) (fun s => Quiet s.ops s.ec.out s.mc.out) (initial dc)
      acts :=
    hclear.always (fun _ _ _ hI hg hs => quiet_step hI hg hs) ⟨List.nodup_nil, unopposed_nil _ _⟩
  exact hq.mono fun s hs => hs.not_deadlocked

/-- A thread with something to send takes no step of its own that ends its send. -/
theorem out_of_ownStep {σ Req Msg Err Out : Type} {c : Code σ Req Msg Err Out}
    {w w' : State σ Msg Err Out} {b : Act Req Msg Err} (hout : w.out ≠ [])
    (hown : ownStep false b = true) (h : Worker.step c w b = some w') : w'.out ≠ [] := by
  rw [step_speaking hout (by rintro rfl; cases hown) h]
  exact hout

/-- An operation for a worker that has something to say waits. -/
theorem perform_waits {sent : Bool} {op : PrimaryOp}
    (h : (op.peer = some .ec ∧ s.ec.out ≠ []) ∨ (op.peer = some .mc ∧ s.mc.out ≠ [])) :
    s.perform codecs sent op = none := by
  rcases h with ⟨hp, hout⟩ | ⟨hp, hout⟩
  · cases op <;> simp only [PrimaryOp.peer, reduceCtorEq, Option.some.injEq] at hp
    rename_i n
    cases n <;> simp [perform, sendEc, State.ended, Worker.step, State.selecting, hout]
  · cases op <;> simp only [PrimaryOp.peer, reduceCtorEq, Option.some.injEq] at hp
    rename_i n
    cases n <;> simp [perform, sendMc, State.ended, Worker.step, State.selecting, hout]

/-- **A deadlock is never left**: no thread of it can move, and the others do not help. -/
theorem Deadlocked.step (hx : s.exited = false) (hd : Deadlocked s)
    (h : step codecs s a = some s') : s'.exited = false ∧ Deadlocked s' := by
  have hbusy : s.ops ≠ [] := by
    intro hnil
    rw [Deadlocked, hnil] at hd
    rcases hd with ⟨hp, -⟩ | ⟨hp, -⟩ <;> cases hp
  cases step_stepped h with
  | take ops ha hops _ => exact absurd hops hbusy
  | event m out hout hops _ => exact absurd hops hbusy
  | media m out hout hops _ => exact absurd hops hbusy
  | perform sent op ops s' hops hp =>
    rw [Deadlocked, hops] at hd
    rw [perform_waits (s := { s with ops := ops }) hd] at hp
    cases hp
  | ec b w hown hw =>
    rw [hx] at hown
    exact ⟨hx, hd.imp (fun hd => ⟨hd.1, out_of_ownStep hd.2 hown hw⟩) id⟩
  | mc b w hown hw =>
    rw [hx] at hown
    exact ⟨hx, hd.imp id (fun hd => ⟨hd.1, out_of_ownStep hd.2 hown hw⟩)⟩

/-- A display configuration reaches the UI and `mc-main`, and a key press the server, one after the
other. -/
theorem no_deadlock_of_clear_witness :
    Machine.Always (step rawOnly) (fun s => ¬ Deadlocked s) (initial ⟨0, []⟩)
      [.ec (.receive (.ok (.displayConfiguration ⟨1, []⟩))), .ec .handOver, .event, .perform true,
        .perform true, .notification (.toEc (.request (.key 30 true))), .perform true] ∧
    (Machine.run (step rawOnly) (initial ⟨0, []⟩)
      [.ec (.receive (.ok (.displayConfiguration ⟨1, []⟩))), .ec .handOver, .event, .perform true,
        .perform true, .notification (.toEc (.request (.key 30 true))), .perform true]).isSome =
      true := by
  refine ⟨no_deadlock_of_clear rawOnly ⟨0, []⟩ _ ?_, by decide +kernel⟩
  decide +kernel

/-- A key is pressed while `ec-main` hands over a display configuration: the primary thread waits
in a send to `ec-main`, and `ec-main` in a send to the primary thread. -/
theorem key_press_deadlocks :
    ¬ Machine.Always (step rawOnly) (fun s => ¬ Deadlocked s) (initial ⟨0, []⟩)
      [.ec (.receive (.ok (.displayConfiguration ⟨1, []⟩))), .ec .handOver,
        .notification (.toEc (.request (.key 30 true)))] := by
  intro h
  refine h.last (t := { initial ⟨0, []⟩ with
    ops := [.toEc (.request (.key 30 true))]
    ec := ⟨∅, [.displayConfiguration ⟨1, []⟩], .select, .receiving, false⟩ }) rfl ?_
  exact Or.inl ⟨rfl, (fun hout => nomatch hout)⟩

end Client

end ApertureC
