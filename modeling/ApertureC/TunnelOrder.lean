import ApertureC.Lib.SplitStream
import ApertureC.TunnelDispatch

/-!
# Message order in the server's tunnel channel

The dispatch loop takes the client's messages from three queues and writes its own from three
others, by fixed priority.

* `Kind`, `Dispatch.split` — the client's messages as one stream split over three queues
  (`SplitStream`).
* `Dispatch.TakesOldest` — a poll takes a message only when no older one of its stream waits in
  another queue.
* `Dispatch.Announced` — an open is written before data or a close of a server-bound stream.
* `Dispatch.OpenWritten` — a poll takes data or a close of a server-bound stream only after the
  open of that stream has left the queues.

Principal results: `always_inOrder_iff` and `always_announced_iff` (**the order is kept in every
state of a run exactly when every poll of the run meets the condition**).
-/

set_option autoImplicit false

namespace ApertureC.TunnelServer

open Tunnel Machine

/-! ## The client's messages -/

/-- The queues of the receive task. -/
inductive Kind
  | opens
  | data
  | closes
  deriving DecidableEq, Repr

/-- The branch that takes from a queue. -/
def Kind.branch : Kind → Branch
  | .opens => .opensFromClient
  | .data => .dataFromClient
  | .closes => .closesFromClient

namespace Dispatch

def queue (s : Dispatch) : Kind → List Arrival
  | .opens => s.opensFromClient
  | .data => s.dataFromClient
  | .closes => s.closesFromClient

/-- The client's messages as a stream split over the queues. -/
def split (s : Dispatch) : SplitStream.State Kind Arrival := ⟨s.queue, s.received, s.handled⟩

/-- The poll takes this message of the client. -/
def Takes (s : Dispatch) (a : DispatchAct) (k : Kind) (e : Arrival) : Prop :=
  (∃ connects joined, a = .poll connects joined) ∧ s.branch = k.branch ∧ (s.queue k).head? = some e

/-- The loop handles the messages of each stream in the order in which the client sent them. -/
def InOrder (s : Dispatch) : Prop := s.split.InOrder Arrival.id

/-- A message that the poll takes is the oldest one of its stream that waits in any queue. -/
def TakesOldest (s : Dispatch) (a : DispatchAct) : Prop :=
  ∀ k e, s.Takes a k e → s.split.Oldest Arrival.position Arrival.id k e

theorem queue_eq_update {s s' : Dispatch} {k : Kind} {l : List Arrival} (hk : s'.queue k = l)
    (h : ∀ k', k' ≠ k → s'.queue k' = s.queue k') : s'.queue = Function.update s.queue k l := by
  funext k'
  by_cases hkk : k' = k
  · subst hkk
    rw [Function.update_self, hk]
  · rw [Function.update_of_ne hkk, h k' hkk]

theorem split_eq_taken {s s' : Dispatch} {k : Kind} {e : Arrival} {rest : List Arrival}
    (hk : s'.queue k = rest) (h : ∀ k', k' ≠ k → s'.queue k' = s.queue k')
    (hr : s'.received = s.received) (hh : s'.handled = s.handled ++ [e]) :
    s'.split = SplitStream.taken s.split k e rest := by
  simp only [split, SplitStream.taken, queue_eq_update hk h, hr, hh]

theorem split_eq_arrive {s s' : Dispatch} {k : Kind} {e : Arrival}
    (hk : s'.queue k = s.queue k ++ [e]) (h : ∀ k', k' ≠ k → s'.queue k' = s.queue k')
    (hr : s'.received = s.received ++ [e]) (hh : s'.handled = s.handled) :
    s'.split = SplitStream.arrive s.split k e := by
  simp only [split, SplitStream.arrive, queue_eq_update hk h, hr, hh]

theorem split_congr {s s' : Dispatch} (ho : s'.opensFromClient = s.opensFromClient)
    (hd : s'.dataFromClient = s.dataFromClient) (hc : s'.closesFromClient = s.closesFromClient)
    (hr : s'.received = s.received) (hh : s'.handled = s.handled) : s'.split = s.split := by
  have hq : s'.queue = s.queue := by
    funext k
    cases k with
    | opens => exact ho
    | data => exact hd
    | closes => exact hc
  simp only [split, hq, hr, hh]

/-- What a poll does to the client's messages: it takes one, the first of its queue, or none. -/
theorem polled_split {s s' : Dispatch} (h : s.Polled s') :
    (s'.split = s.split ∧ ∀ k, s.branch = k.branch → s.queue k = []) ∨
    (∃ k e rest, s.branch = k.branch ∧ s.queue k = e :: rest ∧
      s'.split = SplitStream.taken s.split k e rest) := by
  have hother : ∀ {b : Branch}, s.branch = b → (∀ k, b ≠ Kind.branch k) →
      ∀ k, s.branch = k.branch → s.queue k = [] := by
    intro b hb hne k hk
    exact absurd (hb.symm.trans hk) (hne k)
  cases h with
  | passes b hidle =>
    refine Or.inl ⟨split_congr rfl rfl rfl rfl rfl, fun k hk => ?_⟩
    rw [Idle, hk] at hidle
    cases k <;> exact hidle
  | connects a rest hb hq _ =>
    refine Or.inr ⟨.opens, a, rest, hb, hq, split_eq_taken rfl (fun k' hk' => ?_) rfl rfl⟩
    cases k' <;> first | rfl | exact absurd rfl hk'
  | refuses a rest hb hq =>
    refine Or.inr ⟨.opens, a, rest, hb, hq, split_eq_taken rfl (fun k' hk' => ?_) rfl rfl⟩
    cases k' <;> first | rfl | exact absurd rfl hk'
  | feeds a rest tasks hb hq =>
    refine Or.inr ⟨.data, a, rest, hb, hq, split_eq_taken rfl (fun k' hk' => ?_) rfl rfl⟩
    cases k' <;> first | rfl | exact absurd rfl hk'
  | halfCloses a rest tasks txs closed hb hq =>
    refine Or.inr ⟨.closes, a, rest, hb, hq, split_eq_taken rfl (fun k' hk' => ?_) rfl rfl⟩
    cases k' <;> first | rfl | exact absurd rfl hk'
  | starts id rest tasks txs hb hq =>
    exact Or.inl ⟨split_congr rfl rfl rfl rfl rfl, hother hb (by intro k; cases k <;> decide)⟩
  | joins tasks txs closed closes hb =>
    exact Or.inl ⟨split_congr rfl rfl rfl rfl rfl, hother hb (by intro k; cases k <;> decide)⟩
  | sendsData id data rest hb hq =>
    exact Or.inl ⟨split_congr rfl rfl rfl rfl rfl, hother hb (by intro k; cases k <;> decide)⟩
  | sendsClose id rest hb hq =>
    exact Or.inl ⟨split_congr rfl rfl rfl rfl rfl, hother hb (by intro k; cases k <;> decide)⟩
  | sendsOpen id rest hb hq =>
    exact Or.inl ⟨split_congr rfl rfl rfl rfl rfl, hother hb (by intro k; cases k <;> decide)⟩

theorem receive_split (s : Dispatch) (m : Message) :
    (s.receive m).split = s.split ∨
      ∃ k e, e.position = s.received.length ∧
        (s.receive m).split = SplitStream.arrive s.split k e := by
  unfold receive
  split
  · exact Or.inl rfl
  · rename_i body _
    right
    cases body with
    | openTcp =>
      refine ⟨.opens, ⟨s.received.length, m.id, .openTcp⟩, rfl,
        split_eq_arrive rfl (fun k' hk' => ?_) rfl rfl⟩
      cases k' <;> first | rfl | exact absurd rfl hk'
    | closeTcp =>
      refine ⟨.closes, ⟨s.received.length, m.id, .closeTcp⟩, rfl,
        split_eq_arrive rfl (fun k' hk' => ?_) rfl rfl⟩
      cases k' <;> first | rfl | exact absurd rfl hk'
    | tcpData data =>
      refine ⟨.data, ⟨s.received.length, m.id, .tcpData data⟩, rfl,
        split_eq_arrive rfl (fun k' hk' => ?_) rfl rfl⟩
      cases k' <;> first | rfl | exact absurd rfl hk'

/-- **What a step does to the client's messages**: it takes the first of a queue, or none leaves
the queues, or one arrives. -/
theorem step_split {s s' : Dispatch} {a : DispatchAct} (h : s.step a = some s') :
    (∃ k e rest, s.Takes a k e ∧ s.split.queue k = e :: rest ∧
      s'.split = SplitStream.taken s.split k e rest) ∨
    ((∀ k e, ¬ s.Takes a k e) ∧ (s'.split = s.split ∨
      ∃ k e, e.position = s.received.length ∧ s'.split = SplitStream.arrive s.split k e)) := by
  rcases step_cases h with ⟨connects, joined, rfl, hp⟩ | ⟨hnot, hm⟩
  · rcases polled_split hp with ⟨hs, hempty⟩ | ⟨k, e, rest, hb, hq, hs⟩
    · refine Or.inr ⟨?_, Or.inl hs⟩
      rintro k e ⟨-, hb, hhead⟩
      rw [hempty k hb] at hhead
      cases hhead
    · exact Or.inl ⟨k, e, rest, ⟨⟨_, _, rfl⟩, hb, by rw [hq]; rfl⟩, hq, hs⟩
  · refine Or.inr ⟨?_, ?_⟩
    · rintro k e ⟨⟨connects, joined, ha⟩, -⟩
      exact hnot connects joined ha
    · cases hm with
      | accepts tid ht => exact Or.inl rfl
      | receives m => exact receive_split s m
      | runs tasks data => exact Or.inl rfl

theorem step_wf {s s' : Dispatch} {a : DispatchAct} (hs : s.split.Wf Arrival.position)
    (h : s.step a = some s') : s'.split.Wf Arrival.position := by
  rcases step_split h with ⟨k, e, rest, -, hq, hs'⟩ | ⟨-, hs' | ⟨k, e, he, hs'⟩⟩
  · rw [hs']
    exact SplitStream.wf_taken hs hq
  · rw [hs']
    exact hs
  · rw [hs']
    exact SplitStream.wf_arrive hs k he

/-- One step keeps the order exactly when it takes the oldest message of its stream. -/
theorem step_inOrder_iff {s s' : Dispatch} {a : DispatchAct} (hs : s.split.Wf Arrival.position)
    (hin : s.InOrder) (h : s.step a = some s') : s'.InOrder ↔ s.TakesOldest a := by
  unfold InOrder
  rcases step_split h with ⟨k, e, rest, ht, hq, hs'⟩ | ⟨hnot, hs'⟩
  · rw [hs', SplitStream.inOrder_taken_iff hs hin hq]
    constructor
    · intro hold k' e' ht'
      -- a poll takes from one queue only
      have hk : k' = k := by
        have := ht.2.1.symm.trans ht'.2.1
        cases k <;> cases k' <;> first | rfl | cases this
      subst hk
      have he : e' = e := Option.some.inj (ht'.2.2.symm.trans ht.2.2)
      rw [he]
      exact hold
    · intro hall
      exact hall k e ht
  · have hvac : s.TakesOldest a := fun k e ht => absurd ht (hnot k e)
    refine ⟨fun _ => hvac, fun _ => ?_⟩
    rcases hs' with hs' | ⟨k, e, -, hs'⟩
    · rw [hs']
      exact hin
    · rw [hs']
      exact SplitStream.inOrder_arrive hin k e

/-- **The client's order is kept in every state of a run exactly when every message is taken while
no older one of its stream waits in another queue.** -/
theorem always_inOrder_iff (tunnels : Nat → Option Bound) (as : List DispatchAct) :
    Always step InOrder (init tunnels) as ↔ Guarded step TakesOldest (init tunnels) as := by
  have hq : (init tunnels).queue = fun _ => [] := by
    funext k
    cases k <;> rfl
  have hinit : (init tunnels).split.Wf Arrival.position := by
    simp only [split, hq]
    exact SplitStream.wf_nil
  exact always_iff_guarded (I := fun s => s.split.Wf Arrival.position)
    (fun s a s' hs h => step_wf hs h)
    (fun s a s' hs hin h => step_inOrder_iff hs hin h) hinit (fun i => List.prefix_rfl)

end Dispatch

/-- A client opens a stream of tunnel 1; once the loop has passed the data branch, data and a close
arrive. -/
def closeOvertakesData : List DispatchAct :=
  [.receive (openTcpStream ⟨1, 0⟩), .poll true 0, .poll true 0, .poll true 0,
    .poll true 0, .poll true 0, .poll true 0, .poll true 0, .poll true 0,
    .receive (tcpData ⟨1, 0⟩ [7]), .receive (closeTcpStream ⟨1, 0⟩), .poll true 0]

theorem closeOvertakesData_not_inOrder :
    ¬ Always Dispatch.step Dispatch.InOrder (.init fun _ => some .clientBound)
      closeOvertakesData := by
  intro h
  have hrun : (run Dispatch.step (.init fun _ => some .clientBound) closeOvertakesData).map
      (fun s => (s.received, s.handled)) =
        some ([⟨0, ⟨1, 0⟩, .openTcp⟩, ⟨1, ⟨1, 0⟩, .tcpData [7]⟩, ⟨2, ⟨1, 0⟩, .closeTcp⟩],
          [⟨0, ⟨1, 0⟩, .openTcp⟩, ⟨2, ⟨1, 0⟩, .closeTcp⟩]) := by decide
  obtain ⟨t, ht, he⟩ := Option.map_eq_some_iff.mp hrun
  obtain ⟨hr, hh⟩ := Prod.mk.inj he
  have hin := h.last ht ⟨1, 0⟩
  simp only [Dispatch.split, hr, hh] at hin
  exact absurd hin (by decide)

namespace Dispatch

/-! ## The server's messages -/

/-- In these messages an open stands before any data or close of a server-bound stream. -/
def OpensFirst (tunnels : Nat → Option Bound) (ms : List Message) : Prop :=
  ∀ (id : Id) (body : Body) (before after : List Message),
    tunnels id.tunnel = some .serverBound → body ≠ .openTcp →
    ms = before ++ ⟨id, some body⟩ :: after → openTcpStream id ∈ before

/-- An open is written before any data or close of a server-bound stream. -/
def Announced (s : Dispatch) : Prop := OpensFirst s.tunnels s.toClient

/-- The poll takes data or a close of this stream to write it. -/
def Speaks (s : Dispatch) (a : DispatchAct) (id : Id) : Prop :=
  (∃ connects joined, a = .poll connects joined) ∧
    ((s.branch = .dataToClient ∧ (s.dataToClient.head?).map Prod.fst = some id) ∨
      (s.branch = .closesToClient ∧ s.closesToClient.head? = some id))

/-- Data or a close of a server-bound stream is taken only when the stream has been accepted and
waits neither as a new stream nor for its open to be written. -/
def OpenWritten (s : Dispatch) (a : DispatchAct) : Prop :=
  ∀ id, s.Speaks a id → s.tunnels id.tunnel = some .serverBound →
    id ∈ s.accepted ∧ id ∉ s.newTcpStreams ∧ id ∉ s.opensToClient

/-- The server-bound streams among these. -/
def bound (s : Dispatch) (ids : List Id) : List Id :=
  ids.filter fun id => s.tunnels id.tunnel = some .serverBound

/-- The streams whose open has been written. -/
def opened (ms : List Message) : List Id :=
  ms.filterMap fun m => if m.message = some .openTcp then some m.id else none

/-- Every accepted stream waits as a new stream, waits for its open to be written, or has it
written, and is in one of these places once. -/
structure Opens (s : Dispatch) : Prop where
  sids : ∀ id ∈ s.accepted, id.stream < s.sid
  distinct : s.accepted.Nodup
  places : (s.bound s.newTcpStreams ++ s.opensToClient ++ opened s.toClient).Perm s.accepted

theorem opened_append (ms ms' : List Message) : opened (ms ++ ms') = opened ms ++ opened ms' := by
  simp [opened]

theorem mem_opened {ms : List Message} {id : Id} : id ∈ opened ms ↔ openTcpStream id ∈ ms := by
  simp only [opened, List.mem_filterMap, openTcpStream]
  constructor
  · rintro ⟨⟨id', body⟩, hm, h⟩
    simp only [Option.ite_none_right_eq_some, Option.some.injEq] at h
    obtain ⟨rfl, rfl⟩ := h
    exact hm
  · intro h
    exact ⟨_, h, by simp⟩

theorem mem_bound {s : Dispatch} {ids : List Id} {id : Id} :
    id ∈ s.bound ids ↔ id ∈ ids ∧ s.tunnels id.tunnel = some .serverBound := by
  simp [bound]

/-- Where the open of a server-bound stream is. -/
theorem Opens.written_iff {s : Dispatch} (h : s.Opens) {id : Id}
    (hid : s.tunnels id.tunnel = some .serverBound) :
    openTcpStream id ∈ s.toClient ↔
      id ∈ s.accepted ∧ id ∉ s.newTcpStreams ∧ id ∉ s.opensToClient := by
  have hnodup := h.places.nodup_iff.mpr h.distinct
  have hmem : id ∈ s.accepted ↔
      (id ∈ s.newTcpStreams ∨ id ∈ s.opensToClient) ∨ openTcpStream id ∈ s.toClient := by
    rw [← h.places.mem_iff, List.mem_append, List.mem_append, mem_bound, mem_opened]
    simp only [hid, and_true]
  have hdisj := (List.nodup_append.mp hnodup).2.2
  constructor
  · intro hopen
    refine ⟨hmem.mpr (Or.inr hopen), fun hnew => ?_, fun hwait => ?_⟩
    · exact hdisj id (List.mem_append_left _ (mem_bound.mpr ⟨hnew, hid⟩)) id
        (mem_opened.mpr hopen) rfl
    · exact hdisj id (List.mem_append_right _ hwait) id (mem_opened.mpr hopen) rfl
  · rintro ⟨hacc, hnew, hwait⟩
    exact (hmem.mp hacc).resolve_left fun h => h.elim hnew hwait

theorem polled_opens {s s' : Dispatch} (hs : s.Opens) (h : s.Polled s') : s'.Opens := by
  have hcount := fun id => hs.places.count_eq id
  cases h with
  | passes b hidle => exact ⟨hs.sids, hs.distinct, hs.places⟩
  | connects a rest hb hq ht =>
    refine ⟨hs.sids, hs.distinct, ?_⟩
    have hskip : s.bound (s.newTcpStreams ++ [a.id]) = s.bound s.newTcpStreams := by
      simp [bound, ht]
    exact hskip ▸ hs.places
  | refuses a rest hb hq => exact ⟨hs.sids, hs.distinct, hs.places⟩
  | starts id rest tasks txs hb hq =>
    refine ⟨hs.sids, hs.distinct, List.perm_iff_count.mpr fun id' => ?_⟩
    have := hcount id'
    rw [hq] at this
    by_cases ht : s.tunnels id.tunnel = some .serverBound
    · simp only [bound, List.filter_cons, ht, decide_true, if_true, List.count_append,
        List.count_cons, List.count_nil] at this ⊢
      omega
    · simp only [bound, List.filter_cons, ht, decide_false, if_false, List.count_append,
        Bool.false_eq_true] at this ⊢
      omega
  | joins tasks txs closed closes hb => exact ⟨hs.sids, hs.distinct, hs.places⟩
  | sendsData id data rest hb hq =>
    refine ⟨hs.sids, hs.distinct, ?_⟩
    have : opened (s.toClient ++ [tcpData id data]) = opened s.toClient := by
      simp [opened, tcpData]
    exact this ▸ hs.places
  | feeds a rest tasks hb hq => exact ⟨hs.sids, hs.distinct, hs.places⟩
  | halfCloses a rest tasks txs closed hb hq => exact ⟨hs.sids, hs.distinct, hs.places⟩
  | sendsClose id rest hb hq =>
    refine ⟨hs.sids, hs.distinct, ?_⟩
    have : opened (s.toClient ++ [closeTcpStream id]) = opened s.toClient := by
      simp [opened, closeTcpStream]
    exact this ▸ hs.places
  | sendsOpen id rest hb hq =>
    refine ⟨hs.sids, hs.distinct, List.perm_iff_count.mpr fun id' => ?_⟩
    have hone : opened [openTcpStream id] = [id] := rfl
    have := hcount id'
    rw [hq] at this
    simp only [bound, opened_append, hone, List.count_append, List.count_cons,
      List.count_nil] at this ⊢
    omega

theorem step_opens {s s' : Dispatch} {a : DispatchAct} (hs : s.Opens) (h : s.step a = some s') :
    s'.Opens := by
  rcases step_cases h with ⟨connects, joined, rfl, hp⟩ | ⟨-, hm⟩
  · exact polled_opens hs hp
  · cases hm with
    | accepts tid ht =>
      have hnew : (⟨tid, s.sid⟩ : Id) ∉ s.accepted := fun hmem => Nat.lt_irrefl _ (hs.sids _ hmem)
      refine ⟨?_, ?_, List.perm_iff_count.mpr fun id' => ?_⟩
      · intro id hid
        rcases List.mem_append.mp hid with hid | hid
        · exact Nat.lt_succ_of_lt (hs.sids id hid)
        · rw [List.mem_singleton.mp hid]
          exact Nat.lt_succ_self _
      · refine List.nodup_append.mpr ⟨hs.distinct, List.pairwise_singleton _ _, ?_⟩
        intro a ha b hb
        rw [List.mem_singleton.mp hb]
        rintro rfl
        exact hnew ha
      · have := hs.places.count_eq id'
        simp only [bound, List.filter_append, List.filter_cons, ht, decide_true, if_true,
          List.filter_nil, List.count_append] at this ⊢
        omega
    | receives m =>
      obtain ⟨opens, data, closes, received, he⟩ := s.receive_eq m
      rw [he]
      exact ⟨hs.sids, hs.distinct, hs.places⟩
    | runs tasks data => exact ⟨hs.sids, hs.distinct, hs.places⟩


theorem opensFirst_append_iff {tunnels : Nat → Option Bound} {ms : List Message} {id : Id}
    {body : Body} (h : OpensFirst tunnels ms) :
    OpensFirst tunnels (ms ++ [⟨id, some body⟩]) ↔
      (tunnels id.tunnel = some .serverBound → body ≠ .openTcp → openTcpStream id ∈ ms) := by
  constructor
  · intro h' ht hb
    exact h' id body ms [] ht hb rfl
  · intro hlast id' body' before after ht hb heq
    rcases List.eq_nil_or_concat after with rfl | ⟨after, m, rfl⟩
    · obtain ⟨rfl, hm⟩ := List.append_inj' heq rfl
      cases hm
      exact hlast ht hb
    · have heq' : ms ++ [⟨id, some body⟩] = (before ++ ⟨id', some body'⟩ :: after) ++ [m] := by
        simpa using heq
      obtain ⟨rfl, -⟩ := List.append_inj' heq' rfl
      exact h id' body' before after ht hb rfl

theorem not_speaks_of_branch {s : Dispatch} {b : Branch} (hb : s.branch = b)
    (hd : b ≠ .dataToClient) (hc : b ≠ .closesToClient) (a : DispatchAct) (id : Id) :
    ¬ s.Speaks a id := by
  rintro ⟨-, ⟨h, -⟩ | ⟨h, -⟩⟩
  · exact hd (hb.symm.trans h)
  · exact hc (hb.symm.trans h)

theorem not_speaks_of_idle {s : Dispatch} (hidle : s.Idle) (a : DispatchAct) (id : Id) :
    ¬ s.Speaks a id := by
  rintro ⟨-, ⟨hb, hhead⟩ | ⟨hb, hhead⟩⟩
  · rw [Idle, hb] at hidle
    simp only at hidle
    rw [hidle] at hhead
    cases hhead
  · rw [Idle, hb] at hidle
    simp only at hidle
    rw [hidle] at hhead
    cases hhead

/-- What a step writes, if anything. -/
def Writes (s s' : Dispatch) (a : DispatchAct) : Prop :=
  (∃ id body, s.Speaks a id ∧ body ≠ .openTcp ∧ s'.toClient = s.toClient ++ [⟨id, some body⟩]) ∨
    ((∀ id, ¬ s.Speaks a id) ∧
      (s'.toClient = s.toClient ∨ ∃ id, s'.toClient = s.toClient ++ [openTcpStream id]))

/-- **What a step writes**: data or a close of the stream it takes, an open, or nothing. -/
theorem step_writes {s s' : Dispatch} {a : DispatchAct} (h : s.step a = some s') :
    s'.tunnels = s.tunnels ∧ Writes s s' a := by
  rcases step_cases h with ⟨connects, joined, rfl, hp⟩ | ⟨hnot, hm⟩
  · have quiet : ∀ {b : Branch}, s.branch = b → b ≠ .dataToClient → b ≠ .closesToClient →
        s'.toClient = s.toClient → Writes s s' (.poll connects joined) := by
      intro b hb hd hc heq
      exact Or.inr ⟨not_speaks_of_branch hb hd hc _, Or.inl heq⟩
    cases hp with
    | passes b hidle => exact ⟨rfl, Or.inr ⟨not_speaks_of_idle hidle _, Or.inl rfl⟩⟩
    | connects a rest hb => exact ⟨rfl, quiet hb (by decide) (by decide) rfl⟩
    | refuses a rest hb => exact ⟨rfl, quiet hb (by decide) (by decide) rfl⟩
    | starts id rest tasks txs hb => exact ⟨rfl, quiet hb (by decide) (by decide) rfl⟩
    | joins tasks txs closed closes hb => exact ⟨rfl, quiet hb (by decide) (by decide) rfl⟩
    | feeds a rest tasks hb => exact ⟨rfl, quiet hb (by decide) (by decide) rfl⟩
    | halfCloses a rest tasks txs closed hb => exact ⟨rfl, quiet hb (by decide) (by decide) rfl⟩
    | sendsData id data rest hb hq =>
      have hspeaks : s.Speaks (.poll connects joined) id :=
        ⟨⟨_, _, rfl⟩, Or.inl ⟨hb, by rw [hq]; rfl⟩⟩
      exact ⟨rfl, Or.inl ⟨id, .tcpData data, hspeaks, by simp, rfl⟩⟩
    | sendsClose id rest hb hq =>
      have hspeaks : s.Speaks (.poll connects joined) id :=
        ⟨⟨_, _, rfl⟩, Or.inr ⟨hb, by rw [hq]; rfl⟩⟩
      exact ⟨rfl, Or.inl ⟨id, .closeTcp, hspeaks, by simp, rfl⟩⟩
    | sendsOpen id rest hb hq =>
      exact ⟨rfl, Or.inr ⟨not_speaks_of_branch hb (by decide) (by decide) _, Or.inr ⟨id, rfl⟩⟩⟩
  · have hno : ∀ id, ¬ s.Speaks a id := by
      rintro id ⟨⟨connects, joined, ha⟩, -⟩
      exact hnot connects joined ha
    cases hm with
    | accepts tid ht => exact ⟨rfl, Or.inr ⟨hno, Or.inl rfl⟩⟩
    | receives m =>
      obtain ⟨opens, data, closes, received, he⟩ := s.receive_eq m
      rw [he]
      exact ⟨rfl, Or.inr ⟨hno, Or.inl rfl⟩⟩
    | runs tasks data => exact ⟨rfl, Or.inr ⟨hno, Or.inl rfl⟩⟩

theorem Speaks.unique {s : Dispatch} {a : DispatchAct} {id id' : Id} (h : s.Speaks a id)
    (h' : s.Speaks a id') : id' = id := by
  rcases h.2 with ⟨hb, hq⟩ | ⟨hb, hq⟩
  · rcases h'.2 with ⟨-, hq'⟩ | ⟨hb', -⟩
    · exact Option.some.inj (hq'.symm.trans hq)
    · cases hb.symm.trans hb'
  · rcases h'.2 with ⟨hb', -⟩ | ⟨-, hq'⟩
    · cases hb.symm.trans hb'
    · exact Option.some.inj (hq'.symm.trans hq)

/-- One step keeps opens first exactly when it speaks of opened streams only. -/
theorem step_announced_iff {s s' : Dispatch} {a : DispatchAct} (hs : s.Opens) (hann : s.Announced)
    (h : s.step a = some s') : s'.Announced ↔ s.OpenWritten a := by
  unfold Announced at hann ⊢
  obtain ⟨ht, ⟨id, body, hspeaks, hb, hw⟩ | ⟨hno, hw⟩⟩ := step_writes h
  · rw [ht, hw, opensFirst_append_iff hann]
    constructor
    · intro hopen id' hspeaks' hbound
      obtain rfl := hspeaks.unique hspeaks'
      exact (hs.written_iff hbound).mp (hopen hbound hb)
    · intro hguard hbound _
      exact (hs.written_iff hbound).mpr (hguard id hspeaks hbound)
  · have hvac : s.OpenWritten a := fun id hspeaks => absurd hspeaks (hno id)
    refine ⟨fun _ => hvac, fun _ => ?_⟩
    rw [ht]
    rcases hw with hw | ⟨id, hw⟩
    · rw [hw]
      exact hann
    · rw [hw]
      exact (opensFirst_append_iff hann).mpr fun _ hne => absurd rfl hne

/-- **Every server-bound stream is announced before it is used, in every state of a run, exactly
when data and closes are taken only while no open of their stream waits.** -/
theorem always_announced_iff (tunnels : Nat → Option Bound) (as : List DispatchAct) :
    Always step Announced (init tunnels) as ↔ Guarded step OpenWritten (init tunnels) as := by
  have hinit : (init tunnels).Opens := ⟨by simp [init], by simp [init], by simp [init, bound, opened]⟩
  have hann : (init tunnels).Announced := by
    intro id body before after _ _ heq
    simp [init] at heq
  exact always_iff_guarded (I := Opens) (fun s a s' hs h => step_opens hs h)
    (fun s a s' hs hann h => step_announced_iff hs hann h) hinit hann

end Dispatch

/-- A connection is accepted on tunnel 1 and its task reads a byte while the loop has yet to come
to the last branch. -/
def dataOvertakesOpen : List DispatchAct :=
  [.accept 1, .poll true 0, .poll true 0, .read 0 [7],
    .poll true 0, .poll true 0, .poll true 0, .poll true 0]

theorem dataOvertakesOpen_not_announced :
    ¬ Always Dispatch.step Dispatch.Announced (.init fun _ => some .serverBound)
      dataOvertakesOpen := by
  intro h
  have hrun : (run Dispatch.step (.init fun _ => some .serverBound) dataOvertakesOpen).map
      (fun s => (s.toClient, s.tunnels 1)) =
        some ([tcpData ⟨1, 0⟩ [7]], some .serverBound) := by decide
  obtain ⟨t, ht, he⟩ := Option.map_eq_some_iff.mp hrun
  obtain ⟨hw, hb⟩ := Prod.mk.inj he
  have hopen := h.last ht ⟨1, 0⟩ (.tcpData [7]) [] [] hb (by simp) hw
  cases hopen

end ApertureC.TunnelServer
