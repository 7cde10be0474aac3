import ApertureC.TunnelDispatch
import Mathlib.Data.List.Nodup

/-!
# Streams closed by one side (`aperturec-server/src/task/tunnel_channel_handler.rs`)

A stream ends at the server when its task does.  If the client has closed it by then, `txs` has
lost its entry and `closed_by_client` remembers the stream, so that no `CloseTcpStream` answers the
client's own; otherwise the loop queues one.

* `closedWhileRegistered`, `noteClosed` — the history of the closes of the client that found an
  entry in `txs`.
* `Account` — how often an id was opened, waits for its task, has a running or a joined task, is in
  `txs` and in `closed_by_client`, and was put in the queue of closes.
* `AccountStep` — what one step does to the account of an id.
* `Account.Sound` — the invariant of the account of an id that was opened at most once.

Principal results: `step_account` (every step is one of these on every id) and
`closed_by_one_side` (**every stream is closed by exactly one side, in every run**).
-/

set_option autoImplicit false

namespace ApertureC.TunnelServer

open Tunnel

/-- The ids that the client asked to open. -/
def opensOf (as : List Arrival) : List Id :=
  as.filterMap fun a => if a.body = .openTcp then some a.id else none

/-- The streams that the server told the client to close. -/
def closesOf (ms : List Message) : List Id :=
  ms.filterMap fun m => if m.message = some .closeTcp then some m.id else none

namespace Dispatch

/-- The ids opened by either side: the opens of the client, and the connections accepted. -/
def openedIds (s : Dispatch) : List Id := opensOf s.received ++ s.accepted

/-- Every `CloseTcpStream` queued so far, the ones already sent included. -/
def queuedCloses (s : Dispatch) : List Id := closesOf s.toClient ++ s.closesToClient

/-- The stream whose close the loop takes, if it has an entry in `txs`. -/
def closedWhileRegistered (s : Dispatch) : DispatchAct → List Id
  | .poll _ _ =>
    match s.branch, s.closesFromClient with
    | .closesFromClient, a :: _ => if (s.txs a.id).isSome then [a.id] else []
    | _, _ => []
  | _ => []

/-- History: the streams whose close was handled while they were registered. -/
def noteClosed (s : Dispatch) (act : DispatchAct) (closed : List Id) : List Id :=
  closed ++ s.closedWhileRegistered act

end Dispatch

/-- `txs` and `closed_by_client` share the streams that have not been joined between them, and a
joined stream was closed by the client or by one `CloseTcpStream`. -/
structure ClosedByOneSide (s : Dispatch) (closed : List Id) : Prop where
  disjoint : ∀ id ∈ s.closedByClient, s.txs id = none
  union : ∀ id, (id ∈ s.closedByClient ∨ (s.txs id).isSome) ↔
    ∃ t ∈ s.streamTasks, t.id = id ∧ t.joined = false
  closes : ∀ t ∈ s.streamTasks, t.joined = true →
    s.queuedCloses.count t.id = if t.id ∈ closed then 0 else 1

/-! ## The account of an id -/

structure Account where
  opened : Nat
  waiting : Nat
  running : Nat
  joined : Nat
  registered : Nat
  marked : Nat
  closes : Nat
  closed : Nat
  deriving DecidableEq, Repr

/-- The streams with a task, and whether its result was taken. -/
def table (tasks : List StreamTask) : List (Id × Bool) := tasks.map fun t => (t.id, t.joined)

def account (id : Id) (s : Dispatch) (closed : List Id) : Account where
  opened := s.openedIds.count id
  waiting := (s.opensFromClient.map Arrival.id).count id + s.newTcpStreams.count id
  running := (table s.streamTasks).count (id, false)
  joined := (table s.streamTasks).count (id, true)
  registered := if (s.txs id).isSome then 1 else 0
  marked := s.closedByClient.count id
  closes := s.queuedCloses.count id
  closed := closed.count id

/-- What a step does to the account of an id. -/
inductive AccountStep (x : Account) : Account → Prop
  | same : AccountStep x x
  | opens : AccountStep x { x with opened := x.opened + 1, waiting := x.waiting + 1 }
  | refuses (n : Nat) (h : x.waiting = n + 1) :
      AccountStep x { x with waiting := n, closes := x.closes + 1 }
  | starts (n : Nat) (h : x.waiting = n + 1) :
      AccountStep x { x with waiting := n, running := x.running + 1, registered := 1 }
  | joins (n : Nat) (h : x.running = n + 1) :
      AccountStep x { x with
        running := n, joined := x.joined + 1, registered := 0, marked := x.marked - 1
        closes := x.closes + if x.marked = 0 then 1 else 0 }
  | closes (h : x.registered = 1) :
      AccountStep x { x with
        registered := 0, marked := if x.marked = 0 then 1 else x.marked
        closed := x.closed + 1 }

/-- An id that was opened once is waiting, running or joined, or it was refused; a running one is
registered, or marked as closed by the client. -/
structure Account.Sound (x : Account) : Prop where
  split : x.waiting + x.running + x.joined ≤ x.opened
  sides : x.registered + x.marked = x.running
  started : x.closed ≤ x.running + x.joined
  known : x.marked ≤ x.closed
  one : x.registered + x.closed ≤ 1
  notices : x.closes + x.waiting + x.running + x.closed = x.opened + x.marked

theorem AccountStep.opened_le {x y : Account} (h : AccountStep x y) : x.opened ≤ y.opened := by
  cases h with
  | opens => exact Nat.le_succ _
  | _ => exact Nat.le_refl _

/-- **A step keeps the account of an id that is opened at most once.** -/
theorem AccountStep.sound {x y : Account} (h : AccountStep x y) (hy : y.opened ≤ 1)
    (hx : x.Sound) : y.Sound := by
  obtain ⟨hsplit, hsides, hstarted, hknown, hone, hnotices⟩ := hx
  cases h with
  | same => exact ⟨hsplit, hsides, hstarted, hknown, hone, hnotices⟩
  | opens =>
    have : x.opened + 1 ≤ 1 := hy
    constructor <;> dsimp only <;> omega
  | refuses n h =>
    have : x.opened ≤ 1 := hy
    constructor <;> dsimp only <;> omega
  | starts n h =>
    have : x.opened ≤ 1 := hy
    constructor <;> dsimp only <;> omega
  | joins n h =>
    have : x.opened ≤ 1 := hy
    by_cases hm : x.marked = 0
    · constructor <;> simp only [hm, if_true] <;> omega
    · constructor <;> simp only [hm, if_false] <;> omega
  | closes h =>
    have : x.opened ≤ 1 := hy
    have hm : x.marked = 0 := by omega
    constructor <;> simp only [hm, if_true] <;> omega

/-! ## The tasks and the queue of closes -/

/-- What a task does apart from being joined does not show in the table. -/
theorem table_modify {f : StreamTask → StreamTask} (hf : ∀ t, (f t).id = t.id ∧
    (f t).joined = t.joined) (tasks : List StreamTask) (i : Nat) :
    table (tasks.modify i f) = table tasks := by
  apply map_modify_of_eq
  intro t
  rw [(hf t).1, (hf t).2]

/-- The result of a task is taken. -/
theorem table_join {t : StreamTask} (hj : t.joined = false) : ∀ {tasks : List StreamTask} {i : Nat},
    tasks[i]? = some t → ∃ before after, table tasks = before ++ (t.id, false) :: after ∧
      table (tasks.modify i fun t => { t with joined := true }) = before ++ (t.id, true) :: after
  | [], _, h => by cases h
  | t₀ :: tasks, 0, h => by
    cases h
    exact ⟨[], table tasks, by simp [table, hj], by simp [table]⟩
  | t₀ :: tasks, i + 1, h => by
    have htail : tasks[i]? = some t := h
    obtain ⟨before, after, h₁, h₂⟩ := table_join hj htail
    refine ⟨(t₀.id, t₀.joined) :: before, after, ?_, ?_⟩
    · rw [List.cons_append, ← h₁]
      rfl
    · rw [List.cons_append, ← h₂]
      rfl

theorem mem_table {tasks : List StreamTask} {id : Id} {joined : Bool} :
    0 < (table tasks).count (id, joined) ↔ ∃ t ∈ tasks, t.id = id ∧ t.joined = joined := by
  rw [List.count_pos_iff, table, List.mem_map]
  simp only [Prod.mk.injEq]

@[simp] theorem closesOf_append (ms ms' : List Message) :
    closesOf (ms ++ ms') = closesOf ms ++ closesOf ms' := List.filterMap_append

@[simp] theorem opensOf_append (as as' : List Arrival) :
    opensOf (as ++ as') = opensOf as ++ opensOf as' := List.filterMap_append

namespace Dispatch

variable {s s' : Dispatch} {id : Id} {closed : List Id}

/-- What a task does apart from being joined is not in the account. -/
theorem setTask_account {f : StreamTask → StreamTask} (hf : ∀ t, (f t).id = t.id ∧
    (f t).joined = t.joined) (s : Dispatch) (i : Nat) (id : Id) (closed : List Id) :
    account id (s.setTask i f) closed = account id s closed := by
  simp only [account, setTask, table_modify hf]
  rfl

/-- Removing an entry of `txs` does not show in the table. -/
theorem removeTx_account (s : Dispatch) (id' id : Id) (closed : List Id) :
    account id (s.removeTx id') closed =
      { account id s closed with
        registered := if id = id' then 0 else (account id s closed).registered } := by
  unfold removeTx
  split
  · rename_i hnone
    by_cases h : id = id'
    · subst h
      simp [account, hnone]
    · simp [h]
  · by_cases h : id = id'
    · subst h
      simp [account, setTask, table_modify, Function.update_self, openedIds, queuedCloses]
    · simp [account, setTask, table_modify, h, openedIds, queuedCloses]

/-! ## The handlers -/

/-- An open of the client is refused, or waits for its task. -/
theorem handleOpenFromClient_account {a : Arrival} {rest : List Arrival}
    (hq : s.opensFromClient = a :: rest) (connects : Bool) (id : Id) (closed : List Id) :
    AccountStep (account id s closed)
      (account id ({ s with opensFromClient := rest }.handleOpenFromClient a connects) closed) := by
  unfold handleOpenFromClient
  split
  · convert AccountStep.same using 1
    simp only [account, hq, List.map_cons, List.count_cons, List.count_append, List.count_nil,
      openedIds, queuedCloses, Account.mk.injEq, true_and, and_true]
    omega
  · by_cases h : id = a.id
    · subst h
      convert AccountStep.refuses ((rest.map Arrival.id).count a.id + s.newTcpStreams.count a.id)
        ?_ using 1
      · simp only [account, openedIds, queuedCloses, List.count_append, List.count_singleton_self,
          Nat.add_assoc]
      · simp only [account, hq, List.map_cons, List.count_cons_self]
        omega
    · convert AccountStep.same using 1
      simp [account, hq, openedIds, queuedCloses, Ne.symm h]

/-- The task of a stream is started. -/
theorem handleNewTcpStream_account {id' : Id} {rest : List Id}
    (hq : s.newTcpStreams = id' :: rest) (id : Id) (closed : List Id) :
    AccountStep (account id s closed)
      (account id ({ s with newTcpStreams := rest }.handleNewTcpStream id') closed) := by
  have hrm := removeTx_account { s with newTcpStreams := rest } id' id closed
  by_cases h : id = id'
  · subst h
    convert AccountStep.starts ((s.opensFromClient.map Arrival.id).count id + rest.count id) ?_
      using 1
    · simp only [account, Account.mk.injEq] at hrm
      obtain ⟨h₁, h₂, h₃, h₄, -, h₅, h₆, -⟩ := hrm
      simp only [account, Account.mk.injEq]
      refine ⟨h₁, h₂, ?_, ?_, ?_, h₅, h₆, trivial⟩
      · rw [← h₃]
        simp [handleNewTcpStream, table]
      · rw [← h₄]
        simp [handleNewTcpStream, table]
      · simp [handleNewTcpStream]
    · simp only [account, hq, List.count_cons_self]
      omega
  · convert AccountStep.same using 1
    simp only [h, if_false] at hrm
    simp only [account, Account.mk.injEq] at hrm
    obtain ⟨h₁, h₂, h₃, h₄, h₅, h₆, h₇, -⟩ := hrm
    simp only [account, Account.mk.injEq]
    refine ⟨h₁, ?_, ?_, ?_, ?_, h₆, h₇, trivial⟩
    · rw [hq, List.count_cons_of_ne (Ne.symm h)]
      exact h₂
    · rw [← h₃]
      simp [handleNewTcpStream, table, Ne.symm h]
    · rw [← h₄]
      simp [handleNewTcpStream, table, Ne.symm h]
    · rw [← h₅]
      simp [handleNewTcpStream, Function.update_of_ne h]

/-- The result of a stream task is taken. -/
theorem handleStreamTaskResult_account {i : Nat} {t : StreamTask} (ht : s.streamTasks[i]? = some t)
    (hj : t.joined = false) (id : Id) (closed : List Id) :
    AccountStep (account id s closed) (account id (s.handleStreamTaskResult i t.id) closed) := by
  obtain ⟨before, after, hbefore, hafter⟩ := table_join hj ht
  unfold handleStreamTaskResult
  dsimp only
  rw [removeTx_account]
  by_cases h : id = t.id
  · subst h
    convert AccountStep.joins (before.count (t.id, false) + after.count (t.id, false)) ?_ using 1
    · by_cases hmem : t.id ∈ s.closedByClient
      · have hpos := List.count_pos_iff.mpr hmem
        simp [setTask, account, hbefore, hafter, hmem, openedIds, queuedCloses]
        omega
      · have hzero := List.count_eq_zero.mpr hmem
        simp [setTask, account, hbefore, hafter, hmem, openedIds, queuedCloses, hzero]
        omega
    · simp only [account, hbefore, List.count_append, List.count_cons_self]
      omega
  · convert AccountStep.same using 1
    have hne : t.id ≠ id := Ne.symm h
    by_cases hmem : t.id ∈ s.closedByClient
    · simp [setTask, account, hbefore, hafter, hmem, openedIds, queuedCloses,
        List.count_erase_of_ne h, h, hne]
    · simp [setTask, account, hbefore, hafter, hmem, openedIds, queuedCloses, h, hne]

/-- The client closes a stream. -/
theorem handleCloseFromClient_account (s : Dispatch) (a : Arrival) (rest : List Arrival) (id : Id)
    (closed : List Id) :
    AccountStep (account id s closed)
      (account id ({ s with closesFromClient := rest }.handleCloseFromClient a)
        (closed ++ if (s.txs a.id).isSome then [a.id] else [])) := by
  unfold handleCloseFromClient
  split
  · rename_i hnone
    have hnone' : s.txs a.id = none := hnone
    simp only [hnone', Option.isSome_none, Bool.false_eq_true, if_false, List.append_nil]
    exact AccountStep.same
  · rename_i j hsome
    have hsome' : s.txs a.id = some j := hsome
    have hrm := removeTx_account { s with closesFromClient := rest } a.id id closed
    simp only [hsome', Option.isSome_some, if_true]
    simp only [account, Account.mk.injEq] at hrm
    obtain ⟨h₁, h₂, h₃, h₄, h₅, -, h₆, -⟩ := hrm
    by_cases h : id = a.id
    · subst h
      convert AccountStep.closes ?_ using 1
      · simp only [account, Account.mk.injEq]
        refine ⟨h₁, h₂, h₃, h₄, ?_, ?_, h₆, ?_⟩
        · rw [h₅, if_pos rfl]
        · by_cases hmem : a.id ∈ s.closedByClient
          · have hpos := List.count_pos_iff.mpr hmem
            rw [if_pos hmem]
            exact (if_neg (Nat.ne_of_gt hpos)).symm
          · have hzero := List.count_eq_zero.mpr hmem
            have hone : (s.closedByClient ++ [a.id]).count a.id = 1 := by
              rw [List.count_append, hzero, List.count_singleton_self]
            rw [if_neg hmem, hone]
            exact (if_pos hzero).symm
        · rw [List.count_append, List.count_singleton_self]
      · simp [account, hsome']
    · convert AccountStep.same using 1
      simp only [account, Account.mk.injEq]
      refine ⟨h₁, h₂, h₃, h₄, ?_, ?_, h₆, ?_⟩
      · rw [h₅, if_neg h]
      · split
        · rfl
        · simp [Ne.symm h]
      · simp [Ne.symm h]

/-- Data of the client go to a task, at most. -/
theorem handleDataFromClient_account {a : Arrival} {data : List UInt8}
    (h : s.handleDataFromClient a data = some s') (id : Id) (closed : List Id) :
    account id s' closed = account id s closed := by
  unfold handleDataFromClient at h
  split at h
  · cases h
    rfl
  · split at h
    · cases h
    · split at h
      · cases h
        rfl
      · split at h
        · rename_i i _ _ t _ _ _
          cases h
          show account id (s.setTask i fun t => { t with toTx := t.toTx ++ [data] }) closed = _
          apply setTask_account
          exact fun t => ⟨rfl, rfl⟩
        · cases h

/-- A close that the loop sends stays in the account. -/
theorem writeClose_account {id' : Id} {rest : List Id} (hq : s.closesToClient = id' :: rest)
    (id : Id) (closed : List Id) :
    account id ({ s with closesToClient := rest }.write (closeTcpStream id')) closed =
      account id s closed := by
  have hcloses : ({ s with closesToClient := rest }.write (closeTcpStream id')).queuedCloses =
      s.queuedCloses := by
    rw [queuedCloses, queuedCloses, hq, write, closesOf_append, List.append_assoc]
    rfl
  simp only [account, hcloses]
  rfl

/-- Another message that the loop sends is not in the account. -/
theorem write_account {m : Message} (hm : m.message ≠ some .closeTcp) (s : Dispatch) (id : Id)
    (closed : List Id) : account id (s.write m) closed = account id s closed := by
  have hcloses : (s.write m).queuedCloses = s.queuedCloses := by
    have hnil : closesOf [m] = [] := by simp [closesOf, hm]
    rw [queuedCloses, write, closesOf_append, hnil, List.append_nil]
    rfl
  simp only [account, hcloses]
  rfl

/-- A message of the client opens an id, or is not in the account. -/
theorem receive_account (s : Dispatch) (m : Message) (id : Id) (closed : List Id) :
    AccountStep (account id s closed) (account id (s.receive m) closed) := by
  unfold receive
  split
  · exact AccountStep.same
  · dsimp only
    split
    · by_cases h : id = m.id
      · subst h
        convert AccountStep.opens using 1
        simp [account, openedIds, queuedCloses, opensOf]
        omega
      · convert AccountStep.same using 1
        simp [account, openedIds, queuedCloses, opensOf, Ne.symm h]
    · convert AccountStep.same using 1
      simp [account, openedIds, queuedCloses, opensOf]
    · convert AccountStep.same using 1
      simp [account, openedIds, queuedCloses, opensOf]

/-! ## The steps -/

theorem noteClosed_poll {connects : Bool} {joined : Nat} (hb : s.branch ≠ .closesFromClient)
    (closed : List Id) : s.noteClosed (.poll connects joined) closed = closed := by
  have hnil : s.closedWhileRegistered (.poll connects joined) = [] := by
    cases hb' : s.branch with
    | closesFromClient => exact absurd hb' hb
    | _ => simp only [closedWhileRegistered, hb']
  rw [noteClosed, hnil, List.append_nil]

theorem noteClosed_close {connects : Bool} {joined : Nat} {a : Arrival} {rest : List Arrival}
    (hb : s.branch = .closesFromClient) (hq : s.closesFromClient = a :: rest) (closed : List Id) :
    s.noteClosed (.poll connects joined) closed =
      closed ++ if (s.txs a.id).isSome then [a.id] else [] := by
  simp only [noteClosed, closedWhileRegistered, hb, hq]

theorem noteClosed_other {act : DispatchAct} (h : ∀ connects joined, act ≠ .poll connects joined)
    (closed : List Id) : s.noteClosed act closed = closed := by
  have hnil : s.closedWhileRegistered act = [] := by
    cases act with
    | poll connects joined => exact absurd rfl (h connects joined)
    | _ => rfl
  rw [noteClosed, hnil, List.append_nil]

theorem poll_account {connects : Bool} {joined : Nat} (h : s.poll connects joined = some s')
    (id : Id) (closed : List Id) :
    AccountStep (account id s closed)
      (account id s' (s.noteClosed (.poll connects joined) closed)) := by
  unfold poll at h
  split at h
  · rename_i hb
    rw [noteClosed_poll (by simp [hb])]
    split at h
    · cases h
      exact AccountStep.same
    · rename_i hq
      cases h
      exact handleOpenFromClient_account hq connects id closed
  · rename_i hb
    rw [noteClosed_poll (by simp [hb])]
    split at h
    · cases h
      exact AccountStep.same
    · rename_i hq
      cases h
      exact handleNewTcpStream_account hq id closed
  · rename_i hb
    rw [noteClosed_poll (by simp [hb])]
    split at h
    · split at h
      · cases h
      · rename_i t ht
        split at h
        · rename_i hready
          cases h
          rw [Bool.and_eq_true, Bool.not_eq_true'] at hready
          exact handleStreamTaskResult_account ht hready.2 id closed
        · cases h
    · cases h
      exact AccountStep.same
  · rename_i hb
    rw [noteClosed_poll (by simp [hb])]
    split at h
    · cases h
      exact AccountStep.same
    · rename_i id' data rest hq
      cases h
      convert AccountStep.same using 1
      exact write_account (m := tcpData id' data) (by simp [tcpData])
        { s with dataToClient := rest } id closed
  · rename_i hb
    rw [noteClosed_poll (by simp [hb])]
    split at h
    · cases h
      exact AccountStep.same
    · split at h
      · obtain ⟨s₁, h₁, rfl⟩ := Option.map_eq_some_iff.mp h
        convert AccountStep.same using 1
        exact handleDataFromClient_account h₁ id closed
      · cases h
  · rename_i hb
    split at h
    · rename_i hq
      cases h
      have hnil : s.noteClosed (.poll connects joined) closed = closed := by
        simp only [noteClosed, closedWhileRegistered, hb, hq, List.append_nil]
      rw [hnil]
      exact AccountStep.same
    · rename_i a rest hq
      cases h
      rw [noteClosed_close hb hq]
      exact handleCloseFromClient_account s a rest id closed
  · rename_i hb
    rw [noteClosed_poll (by simp [hb])]
    split at h
    · cases h
      exact AccountStep.same
    · rename_i id' rest hq
      cases h
      convert AccountStep.same using 1
      exact writeClose_account hq id closed
  · rename_i hb
    rw [noteClosed_poll (by simp [hb])]
    split at h
    · cases h
      exact AccountStep.same
    · rename_i id' rest hq
      cases h
      convert AccountStep.same using 1
      exact write_account (m := openTcpStream id') (by simp [openTcpStream])
        { s with opensToClient := rest } id closed
  · rename_i hb
    rw [noteClosed_poll (by simp [hb])]
    cases h
    exact AccountStep.same

/-- **What a step does to the account of an id.** -/
theorem step_account {act : DispatchAct} (h : s.step act = some s') (id : Id)
    (closed : List Id) :
    AccountStep (account id s closed) (account id s' (s.noteClosed act closed)) := by
  cases act with
  | poll connects joined => exact poll_account h id closed
  | accept tid =>
    rw [noteClosed_other (by simp)]
    simp only [step, accept] at h
    split at h
    · cases h
      by_cases hid : id = ⟨tid, s.sid⟩
      · subst hid
        convert AccountStep.opens using 1
        simp [account, openedIds, queuedCloses]
        omega
      · convert AccountStep.same using 1
        simp [account, openedIds, queuedCloses, Ne.symm hid]
    · cases h
  | receive m =>
    rw [noteClosed_other (by simp)]
    cases h
    exact receive_account s m id closed
  | read i data =>
    rw [noteClosed_other (by simp)]
    simp only [step, read] at h
    split at h
    · cases h
    · split at h
      · cases h
      · cases h
        exact AccountStep.same
  | writeLocal i =>
    rw [noteClosed_other (by simp)]
    simp only [step, writeLocal] at h
    split at h
    · cases h
    · split at h
      · cases h
      · cases h
        convert AccountStep.same using 1
        apply setTask_account
        exact fun t => ⟨rfl, rfl⟩
  | finish i =>
    rw [noteClosed_other (by simp)]
    simp only [step, finish] at h
    split at h
    · cases h
    · split at h
      · cases h
      · cases h
        convert AccountStep.same using 1
        apply setTask_account
        exact fun t => ⟨rfl, rfl⟩

theorem account_init (tunnels : Nat → Option Bound) (id : Id) :
    (account id (init tunnels) []).Sound :=
  ⟨Nat.le_refl 0, rfl, Nat.le_refl 0, Nat.le_refl 0, Nat.zero_le 1, rfl⟩

/-- The accounts of ids opened at most once say that each stream is closed by one side. -/
theorem closedByOneSide_of_sound (hs : s.openedIds.Nodup)
    (h : ∀ id, (account id s closed).opened ≤ 1 → (account id s closed).Sound) :
    ClosedByOneSide s closed := by
  have hone : ∀ id, (account id s closed).opened ≤ 1 := List.nodup_iff_count_le_one.mp hs
  constructor
  · intro id hid
    have hmark : 0 < (account id s closed).marked := List.count_pos_iff.mpr hid
    obtain ⟨h₁, h₂, -, -, -, -⟩ := h id (hone id)
    have := hone id
    have hreg : (account id s closed).registered = 0 := by omega
    by_contra hne
    have : (s.txs id).isSome = true := Option.isSome_iff_ne_none.mpr hne
    simp [account, this] at hreg
  · intro id
    have h₂ := (h id (hone id)).sides
    have hreg : 0 < (account id s closed).registered ↔ (s.txs id).isSome = true := by
      by_cases hsome : (s.txs id).isSome = true <;> simp [account, hsome]
    rw [← mem_table, ← List.count_pos_iff, ← hreg]
    show 0 < (account id s closed).marked ∨ _ ↔ 0 < (account id s closed).running
    omega
  · intro t ht hj
    have hjoin : 0 < (account t.id s closed).joined := mem_table.mpr ⟨t, ht, rfl, hj⟩
    obtain ⟨h₁, h₂, h₃, h₄, h₅, h₆⟩ := h t.id (hone t.id)
    have h₇ := hone t.id
    show (account t.id s closed).closes = _
    by_cases hmem : t.id ∈ closed
    · have hpos : 0 < (account t.id s closed).closed := List.count_pos_iff.mpr hmem
      rw [if_pos hmem]
      omega
    · have hzero : (account t.id s closed).closed = 0 := List.count_eq_zero.mpr hmem
      rw [if_neg hmem]
      omega

/-- **Every stream is closed by exactly one side**, in every state of every run in which no id has
been opened twice. -/
theorem closed_by_one_side (tunnels : Nat → Option Bound) (acts : List DispatchAct) :
    Machine.Always (Machine.observe step noteClosed)
      (fun x => x.1.openedIds.Nodup → ClosedByOneSide x.1 x.2) (init tunnels, []) acts := by
  have hsound : Machine.Always (Machine.observe step noteClosed)
      (fun x => ∀ id, (account id x.1 x.2).opened ≤ 1 → (account id x.1 x.2).Sound)
      (init tunnels, []) acts := by
    apply Machine.always_of_invariant
    · rintro x act y hx hy id hle
      obtain ⟨hstep, hnote⟩ := Machine.observe_eq_some.mp hy
      have hacc := step_account hstep id x.2
      rw [← hnote] at hacc
      exact hacc.sound hle (hx id (Nat.le_trans hacc.opened_le hle))
    · exact fun id _ => account_init tunnels id
  exact hsound.mono fun x hx hs => closedByOneSide_of_sound hs hx

end Dispatch

end ApertureC.TunnelServer
