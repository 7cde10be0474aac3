import ApertureC.ClientThreads

/-!
# The order of draws and display changes (`aperturec-client/src/lib.rs`)

A draw carries no configuration, so the UI has to receive it between the display change of its
configuration and the next one.

* `Origin` — what a draw is made of: the configuration of the framer of `mc-main` and the messages
  that framer was handed since it was made.
* `replay`, `Origin.draws` — the framer that an origin stands for, and the draws it makes.
* `Trace` — the client observed: the origin of every draw on its way from the framer to the queue of
  the UI.
* `InOrder` — every draw in the queue is made from messages of the configuration of the last display
  change before it.
* `pipeline` — the configurations on their way from the network thread of `ec-main` to `mc-main`.

Principal results: `onMessage_draws` (the framer of `mc-main` is that of the origin, and so are its
draws), `step_sublist` (configurations are not overtaken) and `draws_in_order` (**when the
configurations have increasing ids, the draws are in order**).
-/

set_option autoImplicit false

namespace ApertureC.Client

open Worker

/-! ## Where draws come from -/

structure Origin where
  config : DisplayConfiguration
  handed : List MediaMessage
  deriving DecidableEq

/-- The draw is of configuration `c`, and of nothing else. -/
def Origin.Of (o : Origin) (c : Nat) : Prop :=
  o.config.id = c ∧ ∀ m ∈ o.handed, m.displayConfig = c

/-- A new framer of the configuration after the messages, its draws handed out after each. -/
def replay (codecs : Codecs) (dc : DisplayConfiguration) (handed : List MediaMessage) : Framer :=
  handed.foldl (fun fr msg => (takeDraws (receive codecs fr (some msg)).2).2) (Framer.new dc)

/-- The draws that such a framer hands out after the last of the messages. -/
def Origin.draws (codecs : Codecs) (o : Origin) : List Draw :=
  match o.handed.getLast? with
  | some msg =>
    (takeDraws (receive codecs (replay codecs o.config o.handed.dropLast) (some msg)).2).1
  | none => []

/-- What `mc-main` sends is of configuration `c`; a draw is one of those of its origin. -/
def MadeOf (codecs : Codecs) (c : Nat) (m : MediaPtn) (o : Origin) : Prop :=
  o.Of c ∧ ∀ d, m = .draw d → d ∈ o.draws codecs

/-- What a message hands to the displays of the framer. -/
def handedTo (fr : Framer) : Option MediaMessage → List MediaMessage
  | some msg =>
    match fr.target msg with
    | .ok (some _) => [msg]
    | _ => []
  | none => []

abbrev EventWorker := State CursorCache EventMessage ChannelError EventPtn

abbrev MediaWorker := State (Option Framer) (Option MediaMessage) ChannelError MediaPtn

/-- The origins of the draws that `mc-main` has to send, of the draw that the primary thread has
taken, and of those in the queue of the UI. -/
structure Trace where
  origin : Origin
  sent : List Origin
  taken : Origin
  log : List (ClientEvent × Origin)

namespace Trace

def initial (dc : DisplayConfiguration) : Trace := ⟨⟨dc, []⟩, [], ⟨dc, []⟩, []⟩

/-- `mc-main` takes what its network thread has. -/
def onMessage (codecs : Codecs) (w : MediaWorker) (n : Trace) : Trace :=
  match w.data, w.network with
  | some fr, .sending r =>
    let origin : Origin :=
      match r with
      | .ok msg => ⟨n.origin.config, n.origin.handed ++ handedTo fr msg⟩
      | .error _ => n.origin
    { n with
      origin := origin
      sent := ((mediaCode codecs).onMessage (some fr) r).out.map fun _ => origin }
  | _, _ => n

/-- `mc-main` takes a configuration, unless it has ended. -/
def onRequest (codecs : Codecs) (w : MediaWorker) (dc : DisplayConfiguration) (n : Trace) : Trace :=
  match w.data with
  | some fr =>
    if w.ended then n
    else
      let origin := if dc.id > fr.displayConfig.id then ⟨dc, []⟩ else n.origin
      { n with
        origin := origin
        sent := ((mediaCode codecs).onRequest (some fr) dc).out.map fun _ => origin }
  | none => n

/-- A step of `mc-main` and its network thread on their own. -/
def onMc (codecs : Codecs) (w : MediaWorker) (b : MediaAct) (n : Trace) : Trace :=
  match b with
  | .handOver => n.onMessage codecs w
  | .deliver => { n with sent := n.sent.tail }
  | _ => n

def note (codecs : Codecs) (s : Client) (a : ClientAct) (n : Trace) : Trace :=
  match a with
  | .mc b => n.onMc codecs s.mc b
  | .media => { n with sent := n.sent.tail, taken := n.sent.headD n.origin }
  | .perform _ =>
    match s.ops with
    | .toMc (.request dc) :: _ => n.onRequest codecs s.mc dc
    | .emit e :: _ => { n with log := n.log ++ [(e, n.taken)] }
    | _ => n
  | _ => n

end Trace

/-- The client, with the origins of its draws. -/
def traced (codecs : Codecs) : Client × Trace → ClientAct → Option (Client × Trace) :=
  Machine.observe (step codecs) (Trace.note codecs)

/-- The configuration a display change announces. -/
def announced : ClientEvent → Option Nat
  | .displayChange dc => some dc.id
  | _ => none

/-- The configuration of the last display change, and at the start that of the connection. -/
def current (first : Nat) (events : List ClientEvent) : Nat :=
  events.foldl (fun c e => (announced e).getD c) first

/-- Every draw is made from messages of one configuration, and comes after the display change of that
configuration and before the next one. -/
def InOrder (codecs : Codecs) (first : Nat) (log : List (ClientEvent × Origin)) : Prop :=
  ∀ before d o after, log = before ++ (.draw d, o) :: after →
    o.Of (current first (before.map Prod.fst)) ∧ d ∈ o.draws codecs

theorem current_append (first : Nat) (events : List ClientEvent) (e : ClientEvent) :
    current first (events ++ [e]) = (announced e).getD (current first events) := by
  rw [current, List.foldl_append]
  rfl

/-- One more event. -/
theorem InOrder.append {codecs : Codecs} {first : Nat} {log : List (ClientEvent × Origin)}
    (h : InOrder codecs first log) {e : ClientEvent} {o : Origin}
    (he : ∀ d, e = .draw d → o.Of (current first (log.map Prod.fst)) ∧ d ∈ o.draws codecs) :
    InOrder codecs first (log ++ [(e, o)]) := by
  intro before d o' after heq
  rcases List.eq_nil_or_concat after with rfl | ⟨after, x, rfl⟩
  · obtain ⟨rfl, hlast⟩ := List.append_inj' heq rfl
    cases hlast
    exact he d rfl
  · rw [List.concat_eq_append, ← List.cons_append, ← List.append_assoc] at heq
    exact h before d o' after (List.append_inj' heq rfl).1

/-! ## Configurations on their way -/

/-- The configuration that an operation brings to `mc-main`. -/
def requested : PrimaryOp → Option Nat
  | .toMc (.request dc) => some dc.id
  | _ => none

/-- The configuration that `ec-main` has for the primary thread. -/
def reported : EventPtn → Option Nat
  | .displayConfiguration dc => some dc.id
  | _ => none

/-- The configuration that the network thread of `ec-main` has. -/
def held : Network EventMessage ChannelError → List Nat
  | .sending (.ok (.displayConfiguration dc)) => [dc.id]
  | _ => []

/-- The configurations that `ec-main` and its network thread have. -/
def carried (w : EventWorker) : List Nat := w.out.filterMap reported ++ held w.network

def pipeline (s : Client) : List Nat := s.ops.filterMap requested ++ carried s.ec

/-- The configuration that a step brings to the network thread of `ec-main`. -/
def arriving : ClientAct → Option Nat
  | .ec (.receive (.ok (.displayConfiguration dc))) => some dc.id
  | _ => none

/-- The configurations that `ec-main` receives. -/
def received (acts : List ClientAct) : List Nat := acts.filterMap arriving

/-- The configuration that an operation announces to the UI. -/
def announces : PrimaryOp → Option Nat
  | .emit e => announced e
  | _ => none

/-- What `mc-main` is to draw: a configuration that it has been told is announced next. -/
def aim (first : Nat) (s : Client) : Nat :=
  (s.ops.head?.bind announces).getD (current first s.events)

/-- An operation that neither brings a configuration nor announces one, and emits no draw. -/
def plain : PrimaryOp → Bool
  | .toMc (.request _) => false
  | .emit (.draw _) => false
  | .emit (.displayChange _) => false
  | _ => true

/-- What the primary thread is at. -/
inductive Phase : List PrimaryOp → Prop
  | plain {ops : List PrimaryOp} (h : ∀ op ∈ ops, plain op = true) : Phase ops
  | draw (d : Draw) : Phase [.emit (.draw d)]
  | configure (dc : DisplayConfiguration) : Phase [.toMc (.request dc), .emit (.displayChange dc)]
  | announce (dc : DisplayConfiguration) : Phase [.emit (.displayChange dc)]

variable {codecs : Codecs} {s s' : Client} {n n' : Trace} {first : Nat}

theorem plain_requested {op : PrimaryOp} (h : plain op = true) : requested op = none := by
  cases op with
  | toMc n =>
    cases n with
    | request dc => cases h
    | terminate => rfl
  | _ => rfl

theorem plain_filterMap {ops : List PrimaryOp} (h : ∀ op ∈ ops, plain op = true) :
    ops.filterMap requested = [] := by
  rw [List.filterMap_eq_nil_iff]
  exact fun op hop => plain_requested (h op hop)

theorem shutdown_plain : ∀ op ∈ shutdown, plain op = true := by
  intro op hop
  simp only [shutdown, List.mem_cons, List.not_mem_nil, or_false] at hop
  rcases hop with rfl | rfl | rfl | rfl | rfl <;> rfl

theorem aim_of_head (h : s.ops.head?.bind announces = none) :
    aim first s = current first s.events := by
  rw [aim, h]
  rfl

theorem plain_announces {op : PrimaryOp} (h : plain op = true) : announces op = none := by
  cases op with
  | emit e =>
    cases e with
    | displayChange dc => cases h
    | _ => rfl
  | _ => rfl

theorem plain_head {ops : List PrimaryOp} (h : ∀ op ∈ ops, plain op = true) :
    ops.head?.bind announces = none := by
  cases ops with
  | nil => rfl
  | cons op ops => exact plain_announces (h op List.mem_cons_self)

/-! ### `mc-main` -/

/-- The framer of `mc-main` is the one its origin stands for, of configuration `c`, and so is what it
has to send. -/
structure Draws (codecs : Codecs) (c : Nat) (w : MediaWorker) (n : Trace) : Prop where
  framer : w.next ≠ .gone →
    w.data = some (replay codecs n.origin.config n.origin.handed) ∧ n.origin.Of c
  sent : List.Forall₂ (MadeOf codecs c) w.out n.sent
  gone : w.next = .gone → w.out = []

theorem replay_append (codecs : Codecs) (dc : DisplayConfiguration) (handed : List MediaMessage)
    (msg : MediaMessage) : replay codecs dc (handed ++ [msg]) =
      (takeDraws (receive codecs (replay codecs dc handed) (some msg)).2).2 := by
  rw [replay, List.foldl_append]
  rfl

theorem Origin.draws_append (codecs : Codecs) (dc : DisplayConfiguration)
    (handed : List MediaMessage) (msg : MediaMessage) :
    Origin.draws codecs ⟨dc, handed ++ [msg]⟩ =
      (takeDraws (receive codecs (replay codecs dc handed) (some msg)).2).1 := by
  simp only [draws, List.getLast?_concat, List.dropLast_concat]

/-- A framer has handed out its draws. -/
theorem replay_flushed (codecs : Codecs) (dc : DisplayConfiguration) (handed : List MediaMessage) :
    (replay codecs dc handed).Flushed := by
  rcases List.eq_nil_or_concat handed with rfl | ⟨handed, msg, rfl⟩
  · exact Framer.new_flushed dc
  · rw [List.concat_eq_append, replay_append]
    exact flushed_takeDraws _

/-- A message that a framer is handed is of its configuration. -/
theorem handedTo_config {fr : Framer} {msg : Option MediaMessage} {m : MediaMessage}
    (h : m ∈ handedTo fr msg) : m.displayConfig = fr.displayConfig.id := by
  cases msg with
  | none => cases h
  | some msg =>
    simp only [handedTo] at h
    split at h
    · rename_i d hd
      rw [List.mem_singleton] at h
      rw [h]
      unfold Framer.target at hd
      split at hd
      · cases hd
      · split at hd
        · cases hd
        · split at hd
          · cases hd
          · rename_i heq
            simpa using heq
    · cases h

/-- What is not handed to a display leaves the framer as it is, so that the draws of a framer are
made of what it was handed. -/
theorem receive_of_not_handed (codecs : Codecs) {fr : Framer} {msg : Option MediaMessage}
    (h : handedTo fr msg = []) : (receive codecs fr msg).2 = fr := by
  cases msg with
  | none => rfl
  | some msg =>
    simp only [receive]
    rcases fr.reportMm_eq codecs msg with ⟨e, -, hr⟩ | ⟨-, hr⟩ | ⟨r, -, -, ht, -⟩
    · rw [hr]
    · rw [hr]
    · simp [handedTo, ht] at h

theorem receive_config (codecs : Codecs) (fr : Framer) (msg : Option MediaMessage) :
    (receive codecs fr msg).2.displayConfig = fr.displayConfig := by
  cases msg with
  | none => rfl
  | some msg =>
    simp only [receive]
    rcases fr.reportMm_eq codecs msg with ⟨e, -, hr⟩ | ⟨-, hr⟩ | ⟨r, -, -, -, hr⟩
    · rw [hr]
    · rw [hr]
    · rw [hr]
      unfold Framer.handTo
      split <;> rfl

theorem takeDraws_config (fr : Framer) : (takeDraws fr).2.displayConfig = fr.displayConfig := by
  unfold takeDraws
  split <;> rfl

theorem replay_config (codecs : Codecs) (dc : DisplayConfiguration) (handed : List MediaMessage) :
    (replay codecs dc handed).displayConfig = dc := by
  induction handed using List.reverseRecOn with
  | nil => rfl
  | append_singleton handed msg ih => rw [replay_append, takeDraws_config, receive_config, ih]

/-- A handler that ends `mc-main` has nothing to send. -/
theorem onMessage_gone (codecs : Codecs) (d : Option Framer)
    (r : Except ChannelError (Option MediaMessage))
    (h : ((mediaCode codecs).onMessage d r).next = .gone) :
    ((mediaCode codecs).onMessage d r).out = [] := by
  cases d with
  | none => rfl
  | some fr =>
    cases r with
    | error e => cases h
    | ok msg =>
      rcases hr : receive codecs fr msg with ⟨x, fr'⟩
      simp only [mediaCode, hr] at h ⊢
      cases x with
      | ok u => cases h
      | error f =>
        cases f with
        | err e => cases h
        | panic => rfl

/-- A message that a flushed framer is not handed makes no draws and leaves the framer. -/
theorem takeDraws_of_not_handed (codecs : Codecs) {fr : Framer} (hfr : fr.Flushed)
    {msg : Option MediaMessage} (h : handedTo fr msg = []) :
    takeDraws (receive codecs fr msg).2 = ([], fr) := by
  rw [receive_of_not_handed codecs h, takeDraws_flushed hfr]

/-- What a framer is handed of a message is nothing or the message. -/
theorem handedTo_cases (fr : Framer) (msg : Option MediaMessage) :
    handedTo fr msg = [] ∨ ∃ m, msg = some m ∧ handedTo fr msg = [m] := by
  cases msg with
  | none => exact Or.inl rfl
  | some m =>
    simp only [handedTo]
    split
    · exact Or.inr ⟨m, rfl, rfl⟩
    · exact Or.inl rfl

/-- A framer that an origin stands for, after a message: it is the one that the origin with the
message stands for, and so are the draws that it hands out. -/
theorem receive_origin (codecs : Codecs) (o : Origin) (msg : Option MediaMessage) :
    let fr := replay codecs o.config o.handed
    let o' : Origin := ⟨o.config, o.handed ++ handedTo fr msg⟩
    (takeDraws (receive codecs fr msg).2).2 = replay codecs o'.config o'.handed ∧
      ∀ d ∈ (takeDraws (receive codecs fr msg).2).1, d ∈ o'.draws codecs := by
  intro fr o'
  rcases handedTo_cases fr msg with hnil | ⟨m, rfl, hone⟩
  · have hsame : o' = o := by
      simp only [o', hnil, List.append_nil]
    rw [takeDraws_of_not_handed codecs (replay_flushed codecs _ _) hnil, hsame]
    exact ⟨rfl, fun d hd => nomatch hd⟩
  · have hsnoc : o' = ⟨o.config, o.handed ++ [m]⟩ := by
      simp only [o', hone]
    rw [hsnoc, Origin.draws_append, replay_append]
    exact ⟨rfl, fun d hd => hd⟩

/-- What is flushed is of the origin, the error before it too. -/
theorem forall₂_flush {codecs : Codecs} {c : Nat} {o : Origin} (ho : o.Of c) {out : List MediaPtn}
    {fr : Framer} (hout : ∀ m ∈ out, ∀ d, m ≠ .draw d)
    (hdraws : ∀ d ∈ (takeDraws fr).1, d ∈ o.draws codecs) :
    List.Forall₂ (MadeOf codecs c) (flush out fr).out ((flush out fr).out.map fun _ => o) := by
  rw [List.forall₂_map_right_iff, List.forall₂_same]
  intro m hm
  refine ⟨ho, fun d hd => ?_⟩
  subst hd
  rcases List.mem_append.mp hm with hm | hm
  · exact absurd rfl (hout _ hm d)
  · obtain ⟨d', hd', heq⟩ := List.mem_map.mp hm
    cases heq
    exact hdraws d hd'

/-- **`mc-main` draws what it is handed of its configuration**: its framer stays the one that its
origin stands for, and what it sends is drawn by that framer. -/
theorem onMessage_draws {c : Nat} {w : MediaWorker}
    {r : Except ChannelError (Option MediaMessage)} (h : Draws codecs c w n)
    (hn : w.network = .sending r) (hsel : w.selecting = true) :
    Draws codecs c { w.handled ((mediaCode codecs).onMessage w.data r) with network := .after r }
      (n.onMessage codecs w) := by
  have hnext : w.next ≠ .gone := by
    rw [(selecting_iff.mp hsel).2]
    intro h
    cases h
  obtain ⟨hdata, horigin⟩ := h.framer hnext
  have hflushed := replay_flushed codecs n.origin.config n.origin.handed
  cases r with
  | error e =>
    have hsame : takeDraws (replay codecs n.origin.config n.origin.handed) =
        ([], replay codecs n.origin.config n.origin.handed) := takeDraws_flushed hflushed
    simp only [Trace.onMessage, hdata, hn, State.handled]
    refine ⟨fun _ => ⟨?_, horigin⟩, ?_, fun hgone => by cases hgone⟩
    · simp only [mediaCode, flush, hsame]
    · refine forall₂_flush horigin (fun m hm d => ?_) ?_
      · rw [List.mem_singleton.mp hm]
        intro h
        cases h
      · rw [hsame]
        intro d hd
        cases hd
  | ok msg =>
    obtain ⟨hframer, hdraws⟩ := receive_origin codecs n.origin msg
    have horigin' : Origin.Of ⟨n.origin.config, n.origin.handed ++
        handedTo (replay codecs n.origin.config n.origin.handed) msg⟩ c := by
      refine ⟨horigin.1, fun m hm => ?_⟩
      rcases List.mem_append.mp hm with hm | hm
      · exact horigin.2 m hm
      · rw [handedTo_config hm, replay_config]
        exact horigin.1
    have hpanic := onMessage_gone codecs w.data (.ok msg)
    simp only [Trace.onMessage, hdata, hn, State.handled] at hpanic ⊢
    simp only [mediaCode] at hpanic ⊢
    split
    · exact ⟨fun hne => absurd rfl hne, List.Forall₂.nil, fun _ => rfl⟩
    · rename_i x fr' hne heq
      rw [heq] at hframer hdraws
      refine ⟨fun _ => ⟨congrArg some hframer, horigin'⟩, ?_, fun hgone => by cases hgone⟩
      exact forall₂_flush horigin' (fun m hm => by cases hm) hdraws

/-- What ends the loop of `mc-main`, or leaves it as it is. -/
theorem Draws.of_next {c : Nat} {w w' : MediaWorker} (h : Draws codecs c w n)
    (hdata : w'.data = w.data) (hout : w'.out = w.out)
    (hnext : w'.next = w.next ∨ w.out = [] ∧ w.next ≠ .gone) : Draws codecs c w' n := by
  refine ⟨fun hne => ?_, hout ▸ h.sent, fun hgone => ?_⟩
  · rw [hdata]
    refine h.framer ?_
    rcases hnext with heq | ⟨-, hne'⟩
    · rwa [heq] at hne
    · exact hne'
  · rw [hout]
    rcases hnext with heq | ⟨hnil, -⟩
    · exact h.gone (heq ▸ hgone)
    · exact hnil

theorem selecting_of {w : MediaWorker} (hsel : w.selecting = true) : w.out = [] ∧ w.next ≠ .gone := by
  obtain ⟨hout, hnext⟩ := selecting_iff.mp hsel
  exact ⟨hout, by rw [hnext]; exact fun h => nomatch h⟩

/-- **The steps of `mc-main` on its own.** -/
theorem onMc_draws {c : Nat} {w w' : MediaWorker} {b : MediaAct} (h : Draws codecs c w n)
    (hb : ∀ dc, b ≠ .request dc) (hw : Worker.step (mediaCode codecs) w b = some w') :
    Draws codecs c w' (n.onMc codecs w b) := by
  cases Worker.step_stepped hw with
  | receive r hn hr => exact h.of_next rfl rfl (Or.inl rfl)
  | handOver r hn hsel hl => exact onMessage_draws h hn hsel
  | dropSend r hn hend => exact h.of_next rfl rfl (Or.inl rfl)
  | request q hsel => exact absurd rfl (hb q)
  | terminate hsel => exact h.of_next rfl rfl (Or.inr (selecting_of hsel))
  | hangUp hsel => exact h.of_next rfl rfl (Or.inr (selecting_of hsel))
  | deliver m out hout =>
    have hsent := h.sent
    rw [hout] at hsent
    refine ⟨h.framer, ?_, fun hgone => ?_⟩
    · obtain ⟨o, sent, -, hrest, heq⟩ := List.forall₂_cons_left_iff.mp hsent
      simp only [Trace.onMc, heq, List.tail_cons]
      exact hrest
    · have hnil := h.gone hgone
      rw [hout] at hnil
      cases hnil
  | networkGone hn hsel hl => exact h.of_next rfl rfl (Or.inr (selecting_of hsel))
  | join hn hout hnext =>
    refine h.of_next rfl rfl (Or.inr ⟨hout, ?_⟩)
    rw [hnext]
    exact fun h => nomatch h
  | close => exact h.of_next rfl rfl (Or.inl rfl)

/-- **A newer configuration**: `mc-main` draws with a new framer, or has ended. -/
theorem onRequest_draws {c : Nat} {dc : DisplayConfiguration} (h : Draws codecs c s.mc n)
    (hlt : c < dc.id) (hs : s.sendMc codecs (.request dc) = some s') :
    Draws codecs dc.id s'.mc (n.onRequest codecs s.mc dc) := by
  unfold sendMc at hs
  split at hs
  · rename_i hend
    cases hs
    obtain ⟨hout, hgone⟩ := ended_iff.mp hend
    have hsent := h.sent
    rw [hout] at hsent
    have hnil : n.sent = [] := List.forall₂_nil_left_iff.mp hsent
    have heq : n.onRequest codecs s.mc dc = n := by
      unfold Trace.onRequest
      split
      · rw [if_pos hend]
      · rfl
    rw [heq]
    refine ⟨fun hne => absurd hgone hne, ?_, h.gone⟩
    rw [hout, hnil]
    exact List.Forall₂.nil
  · rename_i hend
    obtain ⟨w, hw, rfl⟩ := Option.map_eq_some_iff.mp hs
    cases Worker.step_stepped hw with
    | request q hsel =>
      obtain ⟨hdata, hconfig, -⟩ := h.framer (selecting_of hsel).2
      have hgt : dc.id > (replay codecs n.origin.config n.origin.handed).displayConfig.id := by
        rw [replay_config]
        omega
      have hflush : (mediaCode codecs).onRequest
          (some (replay codecs n.origin.config n.origin.handed)) dc =
            ⟨some (Framer.new dc), [], .select⟩ := by
        simp only [mediaCode, configure, if_pos hgt, flush, takeDraws_flushed (Framer.new_flushed dc)]
        rfl
      simp only [Trace.onRequest, hdata, if_neg hend, if_pos hgt, hflush, State.handled]
      exact ⟨fun _ => ⟨rfl, rfl, (fun m hm => by cases hm)⟩, List.Forall₂.nil, fun _ => rfl⟩

/-! ### `ec-main` -/

theorem tryFrom_id {dc : Proto.DisplayConfiguration} {dc' : DisplayConfiguration}
    (h : DisplayConfiguration.tryFrom dc = .ok dc') : dc'.id = dc.id := by
  unfold DisplayConfiguration.tryFrom at h
  cases hm : dc.displayDecoderInfos.mapM DisplayDecoderInfo.tryFrom with
  | error e => rw [hm] at h; cases h
  | ok infos => rw [hm] at h; cases h; rfl

/-- `ec-main` reports the configuration of a message at most. -/
theorem onMessage_reported (cache : CursorCache) (r : Except ChannelError EventMessage) :
    ((eventCode.onMessage cache r).out.filterMap reported).Sublist (held (.sending r)) := by
  cases r with
  | error e => exact List.Sublist.refl _
  | ok msg =>
    cases msg with
    | displayConfiguration dc =>
      simp only [eventCode, onEventMessage, held]
      cases hdc : DisplayConfiguration.tryFrom dc with
      | error e => exact List.nil_sublist _
      | ok dc' => simp [reported, tryFrom_id hdc]
    | cursorImage ci =>
      simp only [eventCode, onEventMessage]
      split <;> exact List.nil_sublist _
    | cursorChange id =>
      simp only [eventCode, onEventMessage]
      split <;> exact List.nil_sublist _

/-- **Configurations are not overtaken in `ec-main`.** -/
theorem ec_sublist {w w' : EventWorker} {b : EventAct} (h : Worker.step eventCode w b = some w') :
    (carried w').Sublist (carried w ++ (arriving (.ec b)).toList) := by
  have hkeep : carried w' = carried w →
      (carried w').Sublist (carried w ++ (arriving (.ec b)).toList) := by
    intro heq
    rw [heq]
    exact List.sublist_append_left _ _
  cases Worker.step_stepped h with
  | receive r hn hr =>
    have hheld : held (.sending r) = (arriving (.ec (.receive r))).toList := by
      match r with
      | .error e => rfl
      | .ok (.displayConfiguration dc) => rfl
      | .ok (.cursorImage ci) => rfl
      | .ok (.cursorChange id) => rfl
    simp only [carried, hn, hheld]
    simp [held]
  | handOver r hn hsel hl =>
    have hafter : held (.after r) = [] := by cases r <;> rfl
    simp only [carried, State.handled, hafter, List.append_nil, hn, (selecting_iff.mp hsel).1,
      List.filterMap_nil, List.nil_append]
    exact (onMessage_reported w.data r).trans (List.sublist_append_left _ _)
  | dropSend r hn hend =>
    have hafter : held (.after r) = [] := by cases r <;> rfl
    simp only [carried, hafter, List.append_nil, List.append_assoc]
    exact List.sublist_append_left _ _
  | request q hsel =>
    refine hkeep ?_
    simp only [carried, State.handled, (selecting_iff.mp hsel).1, eventCode]
    split <;> rfl
  | terminate hsel => exact hkeep rfl
  | hangUp hsel => exact hkeep rfl
  | deliver m out hout =>
    simp only [carried, hout, List.append_assoc]
    refine List.Sublist.append ?_ (List.sublist_append_left _ _)
    exact (List.sublist_cons_self m out).filterMap reported
  | networkGone hn hsel hl => exact hkeep rfl
  | join hn hout hnext => exact hkeep rfl
  | close => exact hkeep rfl

/-! ## The primary thread -/

/-- The events that an operation puts into the queue of the UI. -/
def emitted : PrimaryOp → List ClientEvent
  | .emit e => [e]
  | _ => []

/-- What an operation of the primary thread changes beside `mc-main`. -/
theorem perform_frame {sent : Bool} {op : PrimaryOp} (h : s.perform codecs sent op = some s') :
    s'.ops = s.ops ∧ (carried s'.ec).Sublist (carried s.ec) ∧
      s'.events = s.events ++ emitted op := by
  have hec : ∀ {b}, arriving (.ec b) = none → s.sendEc b = some s' →
      s'.ops = s.ops ∧ (carried s'.ec).Sublist (carried s.ec) ∧ s'.events = s.events ++ [] := by
    intro b hb hs
    unfold sendEc at hs
    split at hs
    · cases hs
      exact ⟨rfl, List.Sublist.refl _, by simp⟩
    · obtain ⟨w, hw, rfl⟩ := Option.map_eq_some_iff.mp hs
      have hsub := ec_sublist hw
      rw [hb] at hsub
      exact ⟨rfl, by simpa using hsub, by simp⟩
  have hmc : ∀ {b}, s.sendMc codecs b = some s' →
      s'.ops = s.ops ∧ (carried s'.ec).Sublist (carried s.ec) ∧ s'.events = s.events ++ [] := by
    intro b hs
    unfold sendMc at hs
    split at hs
    · cases hs
      exact ⟨rfl, List.Sublist.refl _, by simp⟩
    · obtain ⟨w, hw, rfl⟩ := Option.map_eq_some_iff.mp hs
      exact ⟨rfl, List.Sublist.refl _, by simp⟩
  cases op with
  | toCc n => cases h; exact ⟨rfl, List.Sublist.refl _, by simp [emitted]⟩
  | toTc n => cases h; exact ⟨rfl, List.Sublist.refl _, by simp [emitted]⟩
  | emit e => cases h; exact ⟨rfl, List.Sublist.refl _, rfl⟩
  | exit => cases h; exact ⟨rfl, List.Sublist.refl _, by simp [emitted]⟩
  | toEc n => cases n <;> exact hec rfl h
  | toMc n => cases n <;> exact hmc h

theorem takes_plain {a : ClientAct} {ops : List PrimaryOp} (ha : takes a = some ops)
    (hreq : ∀ dc, a ≠ .notification (.toMc (.request dc))) : ∀ op ∈ ops, plain op = true := by
  cases a <;> simp only [takes, reduceCtorEq, Option.some.injEq] at ha <;> subst ha
  case notification m =>
    cases m with
    | terminate => exact shutdown_plain
    | toCc m => simp [onNotification, plain]
    | toEc m => simp [onNotification, plain]
    | toTc m => simp [onNotification, plain]
    | toMc m =>
      cases m with
      | request dc => exact absurd rfl (hreq dc)
      | terminate => simp [onNotification, plain]
  case control m =>
    cases m with
    | serverInit => simp [onControl]
    | serverGoodbye r => exact List.forall_mem_cons.mpr ⟨rfl, shutdown_plain⟩
    | error e => exact List.forall_mem_cons.mpr ⟨rfl, shutdown_plain⟩
  case tunnel => exact fun op hop => absurd hop List.not_mem_nil
  all_goals exact shutdown_plain

theorem onMedia_phase (m : MediaPtn) : Phase (onMedia m) := by
  cases m with
  | draw d => exact .draw d
  | error e => exact .plain (List.forall_mem_cons.mpr ⟨rfl, shutdown_plain⟩)

theorem onEvent_phase (m : EventPtn) : Phase (onEvent m) := by
  cases m with
  | displayConfiguration dc => exact .configure dc
  | cursor c => exact .plain (by simp [onEvent, plain])
  | error e =>
    cases e with
    | protocol text => exact .plain (by simp [onEvent])
    | channelRx => exact .plain (List.forall_mem_cons.mpr ⟨rfl, shutdown_plain⟩)
    | channelTx => exact .plain (List.forall_mem_cons.mpr ⟨rfl, shutdown_plain⟩)

/-- The rest of what the primary thread is at. -/
theorem Phase.tail {op : PrimaryOp} {ops : List PrimaryOp} (h : Phase (op :: ops)) : Phase ops := by
  cases h with
  | plain h => exact .plain fun o ho => h o (List.mem_cons_of_mem op ho)
  | draw d => exact .plain (by simp)
  | configure dc => exact .announce dc
  | announce dc => exact .plain (by simp)

theorem onMedia_head (m : MediaPtn) : (onMedia m).head?.bind announces = none := by
  cases m <;> rfl

theorem onMedia_requested (m : MediaPtn) : (onMedia m).filterMap requested = [] := by
  cases m <;> rfl

theorem onEvent_head (m : EventPtn) : (onEvent m).head?.bind announces = none := by
  cases m with
  | error e => cases e <;> rfl
  | _ => rfl

theorem onEvent_requested (m : EventPtn) :
    (onEvent m).filterMap requested = (reported m).toList := by
  cases m with
  | error e => cases e <;> rfl
  | _ => rfl

theorem requested_cons (dc : DisplayConfiguration) (ops : List PrimaryOp) :
    (.toMc (.request dc) :: ops).filterMap requested = dc.id :: ops.filterMap requested := rfl

/-- Only a configuration for `mc-main` changes what that is to draw. -/
theorem perform_aim (first : Nat) {sent : Bool} {op : PrimaryOp} {ops : List PrimaryOp}
    (hphase : Phase (op :: ops)) (hops : s.ops = op :: ops)
    (hp : { s with ops := ops }.perform codecs sent op = some s') :
    requested op = none ∧ aim first s' = aim first s ∨
    ∃ dc, op = .toMc (.request dc) ∧ aim first s' = dc.id := by
  obtain ⟨hops', -, hevents⟩ := perform_frame hp
  simp only at hops' hevents
  cases hphase with
  | plain h =>
    have hop := h op List.mem_cons_self
    have hrest : ∀ o ∈ ops, plain o = true := fun o ho => h o (List.mem_cons_of_mem op ho)
    refine Or.inl ⟨plain_requested hop, ?_⟩
    rw [aim_of_head (s := s') (by rw [hops']; exact plain_head hrest),
      aim_of_head (s := s) (by rw [hops]; exact plain_announces hop), hevents]
    cases op with
    | emit e =>
      rw [emitted, current_append, show announced e = none from plain_announces hop]
      rfl
    | _ => simp [emitted]
  | draw d =>
    refine Or.inl ⟨rfl, ?_⟩
    rw [aim_of_head (s := s') (by rw [hops']; rfl), aim_of_head (s := s) (by rw [hops]; rfl),
      hevents, emitted, current_append]
    rfl
  | announce dc =>
    refine Or.inl ⟨rfl, ?_⟩
    rw [aim_of_head (s := s') (by rw [hops']; rfl), hevents, emitted, current_append, aim, hops]
    rfl
  | configure dc =>
    refine Or.inr ⟨dc, rfl, ?_⟩
    rw [aim, hops']
    rfl

/-- An operation of the primary thread brings `mc-main` the next configuration at most. -/
theorem perform_sublist {sent : Bool} {op : PrimaryOp} {ops : List PrimaryOp}
    (hphase : Phase (op :: ops)) (hops : s.ops = op :: ops)
    (hp : { s with ops := ops }.perform codecs sent op = some s') :
    (aim first s' :: pipeline s').Sublist (aim first s :: pipeline s) := by
  obtain ⟨hops', hcarried, -⟩ := perform_frame hp
  simp only at hops' hcarried
  have hpipe : (ops.filterMap requested ++ carried s'.ec).Sublist
      (ops.filterMap requested ++ carried s.ec) :=
    List.Sublist.append (List.Sublist.refl _) hcarried
  rcases perform_aim first hphase hops hp with ⟨hreq, haim⟩ | ⟨dc, rfl, haim⟩
  · rw [haim, pipeline, pipeline, hops, hops', List.filterMap_cons_none hreq]
    exact hpipe.cons_cons _
  · rw [haim, pipeline, pipeline, hops, hops', requested_cons]
    exact (hpipe.cons_cons dc.id).cons (aim first s)

/-- **Configurations are not overtaken**, and `mc-main` is given them in order. -/
theorem step_sublist (first : Nat) {a : ClientAct} (hphase : Phase s.ops)
    (hreq : ∀ dc, a ≠ .notification (.toMc (.request dc))) (h : step codecs s a = some s') :
    (aim first s' :: pipeline s').Sublist (aim first s :: (pipeline s ++ (arriving a).toList)) := by
  have hleft : ∀ {l : List Nat}, l.Sublist (aim first s :: pipeline s) →
      l.Sublist (aim first s :: (pipeline s ++ (arriving a).toList)) := fun hl =>
    hl.trans ((List.sublist_append_left _ _).cons_cons _)
  cases step_stepped h with
  | take ops ha hops hx =>
    have hplain := takes_plain ha hreq
    refine hleft ?_
    rw [aim_of_head (s := { s with ops := ops }) (plain_head hplain),
      aim_of_head (s := s) (by rw [hops]; rfl), pipeline, pipeline, hops, plain_filterMap hplain]
    exact List.Sublist.refl _
  | event m out hout hops hx =>
    refine hleft ?_
    rw [aim_of_head (s := { s with ec := { s.ec with out := out }, ops := onEvent m })
        (onEvent_head m), aim_of_head (s := s) (by rw [hops]; rfl), pipeline, pipeline, hops,
      onEvent_requested, carried, carried, hout]
    cases hm : reported m with
    | none => simp [hm]
    | some c => simp [hm]
  | media m out hout hops hx =>
    refine hleft ?_
    rw [aim_of_head (s := { s with mc := { s.mc with out := out }, ops := onMedia m })
        (onMedia_head m), aim_of_head (s := s) (by rw [hops]; rfl), pipeline, pipeline, hops,
      onMedia_requested]
    exact List.Sublist.refl _
  | perform sent op ops s' hops hp =>
    rw [hops] at hphase
    exact hleft (perform_sublist hphase hops hp)
  | ec b w hown hw =>
    rw [show aim first { s with ec := w } = aim first s from rfl]
    refine List.Sublist.cons_cons _ ?_
    simp only [pipeline, List.append_assoc]
    exact List.Sublist.append (List.Sublist.refl _) (ec_sublist hw)
  | mc b w hown hw => exact hleft (List.Sublist.refl _)

/-! ## Runs -/

/-- The invariant: `future` are the configurations that `ec-main` is still to receive. -/
structure Traced (codecs : Codecs) (first : Nat) (future : List Nat) (x : Client × Trace) :
    Prop where
  phase : Phase x.1.ops
  ids : (aim first x.1 :: (pipeline x.1 ++ future)).Pairwise (· < ·)
  draws : Draws codecs (aim first x.1) x.1.mc x.2
  taken : ∀ d, x.1.ops = [.emit (.draw d)] →
    x.2.taken.Of (current first x.1.events) ∧ d ∈ x.2.taken.draws codecs
  log : x.2.log.map Prod.fst = x.1.events
  inOrder : InOrder codecs first x.2.log

theorem plain_ne_draw {ops : List PrimaryOp} (h : ∀ op ∈ ops, plain op = true) (d : Draw) :
    ops ≠ [.emit (.draw d)] := by
  rintro rfl
  exact nomatch h _ List.mem_cons_self

/-- An operation of the primary thread, as `mc-main` sees it. -/
theorem perform_draws {sent : Bool} {op : PrimaryOp} {ops : List PrimaryOp} {future : List Nat}
    (hx : Traced codecs first future (s, n)) (hops : s.ops = op :: ops)
    (hp : { s with ops := ops }.perform codecs sent op = some s') :
    Draws codecs (aim first s') s'.mc (n.note codecs s (.perform sent)) := by
  have hphase : Phase (op :: ops) := hops ▸ hx.phase
  have hdraws : Draws codecs (aim first s) s.mc n := hx.draws
  simp only [Trace.note, hops]
  rcases perform_aim first hphase hops hp with ⟨hreq, haim⟩ | ⟨dc, rfl, haim⟩
  · rw [haim]
    cases op with
    | toCc m => cases hp; exact hdraws
    | toTc m => cases hp; exact hdraws
    | emit e => cases hp; exact ⟨hdraws.framer, hdraws.sent, hdraws.gone⟩
    | exit => cases hp; exact hdraws.of_next rfl rfl (Or.inl rfl)
    | toEc m =>
      have hmc : s'.mc = s.mc := by
        cases m <;> exact (sendEc_workers hp).2.1
      rw [hmc]
      exact hdraws
    | toMc m =>
      cases m with
      | request dc => cases hreq
      | terminate =>
        simp only [perform, sendMc] at hp
        split at hp
        · cases hp
          exact hdraws
        · obtain ⟨w, hw, rfl⟩ := Option.map_eq_some_iff.mp hp
          exact onMc_draws (b := .terminate) hdraws (fun dc h => by cases h) hw
  · rw [haim]
    refine onRequest_draws (s := { s with ops := ops }) hdraws ?_ hp
    have hids := hx.ids
    simp only [pipeline, hops, requested_cons] at hids
    exact List.rel_of_pairwise_cons hids List.mem_cons_self

/-- An operation of the primary thread, as the UI sees it. -/
theorem perform_inOrder {sent : Bool} {op : PrimaryOp} {ops : List PrimaryOp} {future : List Nat}
    (hx : Traced codecs first future (s, n)) (hops : s.ops = op :: ops)
    (hp : { s with ops := ops }.perform codecs sent op = some s') :
    (n.note codecs s (.perform sent)).log.map Prod.fst = s'.events ∧
    InOrder codecs first (n.note codecs s (.perform sent)).log := by
  have hphase : Phase (op :: ops) := hops ▸ hx.phase
  have hlog : n.log.map Prod.fst = s.events := hx.log
  have hevents := (perform_frame hp).2.2
  simp only [Trace.note, hops] at hevents ⊢
  rw [hevents]
  cases op with
  | emit e =>
    refine ⟨by simp [hlog, emitted], hx.inOrder.append fun d hd => ?_⟩
    rw [hlog]
    refine hx.taken d ?_
    subst hd
    cases hphase with
    | plain h => exact nomatch h _ List.mem_cons_self
    | draw d => exact hops
  | toMc m =>
    cases m with
    | request dc =>
      have heq : (n.onRequest codecs s.mc dc).log = n.log := by
        unfold Trace.onRequest
        split
        · split <;> rfl
        · rfl
      simp only [heq]
      exact ⟨by simp [hlog, emitted], hx.inOrder⟩
    | terminate => exact ⟨by simp [hlog, emitted], hx.inOrder⟩
  | toCc m => exact ⟨by simp [hlog, emitted], hx.inOrder⟩
  | toEc m => exact ⟨by simp [hlog, emitted], hx.inOrder⟩
  | toTc m => exact ⟨by simp [hlog, emitted], hx.inOrder⟩
  | exit => exact ⟨by simp [hlog, emitted], hx.inOrder⟩

theorem note_of_takes {a : ClientAct} {ops : List PrimaryOp} (ha : takes a = some ops) :
    n.note codecs s a = n := by
  cases a <;> simp only [takes, reduceCtorEq] at ha <;> rfl

/-- The primary thread takes the oldest of what `mc-main` sent. -/
theorem media_draws {c : Nat} {m : MediaPtn} {out : List MediaPtn} (h : Draws codecs c s.mc n)
    (hout : s.mc.out = m :: out) :
    Draws codecs c { s.mc with out := out } (n.note codecs s .media) ∧
      MadeOf codecs c m (n.note codecs s .media).taken := by
  have hsent := h.sent
  rw [hout] at hsent
  obtain ⟨o, sent, hmade, hrest, heq⟩ := List.forall₂_cons_left_iff.mp hsent
  refine ⟨⟨h.framer, ?_, fun hgone => ?_⟩, ?_⟩
  · simp only [Trace.note, heq, List.tail_cons]
    exact hrest
  · have hnil := h.gone hgone
    rw [hout] at hnil
    cases hnil
  · simp only [Trace.note, heq, List.headD_cons]
    exact hmade

/-- `mc-main` logs nothing. -/
theorem Trace.onMc_log (codecs : Codecs) (w : MediaWorker) (b : MediaAct) (n : Trace) :
    (n.onMc codecs w b).log = n.log ∧ (n.onMc codecs w b).taken = n.taken := by
  unfold Trace.onMc
  split
  · unfold Trace.onMessage
    split <;> exact ⟨rfl, rfl⟩
  · exact ⟨rfl, rfl⟩
  · exact ⟨rfl, rfl⟩

/-- **Every step keeps the draws in order.** -/
theorem step_traced {a : ClientAct} {future : List Nat} {x y : Client × Trace}
    (hx : Traced codecs first ((arriving a).toList ++ future) x)
    (hreq : ∀ dc, a ≠ .notification (.toMc (.request dc))) (h : traced codecs x a = some y) :
    Traced codecs first future y := by
  obtain ⟨s, n⟩ := x
  obtain ⟨s', n'⟩ := y
  obtain ⟨hs, hn⟩ := Machine.observe_eq_some.mp h
  simp only at hs hn
  subst hn
  have hphase := hx.phase
  have hids : (aim first s' :: (pipeline s' ++ future)).Pairwise (· < ·) := by
    refine hx.ids.sublist ?_
    have hsub := (step_sublist first hphase hreq hs).append (List.Sublist.refl future)
    simpa using hsub
  cases step_stepped hs with
  | take ops ha hops _ =>
    have hplain := takes_plain ha hreq
    have haim : aim first { s with ops := ops } = aim first s := by
      rw [aim_of_head (s := { s with ops := ops }) (plain_head hplain),
        aim_of_head (s := s) (by rw [hops]; rfl)]
    rw [note_of_takes ha]
    refine ⟨.plain hplain, hids, ?_, fun d hd => absurd hd (plain_ne_draw hplain d), hx.log,
      hx.inOrder⟩
    simp only [haim]
    exact hx.draws
  | event m out hout hops _ =>
    have haim : aim first { s with ec := { s.ec with out := out }, ops := onEvent m } =
        aim first s := by
      rw [aim_of_head (s := { s with ec := { s.ec with out := out }, ops := onEvent m })
        (onEvent_head m), aim_of_head (s := s) (by rw [hops]; rfl)]
    refine ⟨onEvent_phase m, hids, ?_, fun d hd => ?_, hx.log, hx.inOrder⟩
    · simp only [haim]
      exact hx.draws
    · cases m with
      | error e => cases e <;> cases hd
      | _ => cases hd
  | media m out hout hops _ =>
    have hcur : aim first s = current first s.events := aim_of_head (by rw [hops]; rfl)
    have haim : aim first { s with mc := { s.mc with out := out }, ops := onMedia m } =
        aim first s := by
      rw [hcur, aim_of_head (s := { s with mc := { s.mc with out := out }, ops := onMedia m })
        (onMedia_head m)]
    obtain ⟨htail, hof, hmade⟩ := media_draws hx.draws hout
    refine ⟨onMedia_phase m, hids, ?_, fun d hd => ?_, hx.log, hx.inOrder⟩
    · simp only [haim]
      exact htail
    · refine ⟨by rw [← hcur]; exact hof, hmade d ?_⟩
      cases m with
      | draw d' =>
        cases hd
        rfl
      | error e => cases hd
  | perform sent op ops s' hops hp =>
    obtain ⟨hlog, hin⟩ := perform_inOrder hx hops hp
    have hops' := (perform_frame hp).1
    have htail : Phase ops := (hops ▸ hphase : Phase (op :: ops)).tail
    refine ⟨hops' ▸ htail, hids, perform_draws hx hops hp, fun d hd => ?_, hlog, hin⟩
    rw [hops'] at hd
    simp only at hd
    subst hd
    simp only [hops] at hphase
    cases hphase with
    | plain h => exact nomatch h _ (List.mem_cons_of_mem op List.mem_cons_self)
  | ec b w hown hw => exact ⟨hphase, hids, hx.draws, hx.taken, hx.log, hx.inOrder⟩
  | mc b w hown hw =>
    have hlog := n.onMc_log codecs s.mc b
    refine ⟨hphase, hids, onMc_draws hx.draws (ownStep_request hown) hw, fun d hd => ?_, ?_, ?_⟩
    · simp only [Trace.note, hlog.2]
      exact hx.taken d hd
    · simp only [Trace.note, hlog.1]
      exact hx.log
    · simp only [Trace.note, hlog.1]
      exact hx.inOrder

theorem traced_initial (dc : DisplayConfiguration) {future : List Nat}
    (h : (dc.id :: future).Pairwise (· < ·)) :
    Traced codecs dc.id future (initial dc, .initial dc) := by
  refine ⟨.plain (fun op hop => nomatch hop), h,
    ⟨fun _ => ⟨rfl, rfl, (fun m hm => nomatch hm)⟩, List.Forall₂.nil, fun _ => rfl⟩,
    (fun d hd => nomatch hd), rfl, ?_⟩
  · intro before d o after heq
    simp [Trace.initial] at heq

theorem always_traced : ∀ {acts : List ClientAct} {x : Client × Trace},
    Traced codecs first (received acts) x →
    (∀ dc, ClientAct.notification (.toMc (.request dc)) ∉ acts) →
    Machine.Always (traced codecs)
      (fun x => x.2.log.map Prod.fst = x.1.events ∧ InOrder codecs first x.2.log) x acts
  | [], x, hx, _ => ⟨hx.log, hx.inOrder⟩
  | a :: acts, x, hx, hreq => by
    refine ⟨⟨hx.log, hx.inOrder⟩, fun y hy => ?_⟩
    have heq : received (a :: acts) = (arriving a).toList ++ received acts := by
      rw [received, List.filterMap_cons]
      cases arriving a <;> rfl
    rw [heq] at hx
    refine always_traced (step_traced hx (fun dc hdc => ?_) hy) fun dc hdc => ?_
    · exact hreq dc (by rw [hdc]; exact List.mem_cons_self)
    · exact hreq dc (List.mem_cons_of_mem a hdc)

/-- **Draws and display changes.**  In every run of the client in which `ec-main` receives display
configurations with increasing ids, and `mc-main` gets none from elsewhere, every draw in the queue
of the UI is one that a framer of some configuration makes of messages of that configuration alone,
and comes after the display change of that configuration (or from the start, for the configuration
of the connection) and before the next display change. -/
theorem draws_in_order (codecs : Codecs) (dc : DisplayConfiguration) (acts : List ClientAct)
    (hids : (dc.id :: received acts).Pairwise (· < ·))
    (hreq : ∀ dc, ClientAct.notification (.toMc (.request dc)) ∉ acts) :
    Machine.Always (traced codecs)
      (fun x => x.2.log.map Prod.fst = x.1.events ∧ InOrder codecs dc.id x.2.log)
      (initial dc, .initial dc) acts :=
  always_traced (traced_initial dc hids) hreq

/-- A whole frame of one pixel. -/
def onePixel (displayConfig : Nat) : MediaMessage :=
  .fragment ⟨0, 0, 0, 0, displayConfig, true, 1, some ⟨0, 0⟩, some ⟨1, 1⟩, [1, 2, 3]⟩

/-- A frame of configuration 0 and one of configuration 1; configuration 1 is on its way before the
first frame is drawn, and the second frame is there before configuration 1 is announced. -/
def twoConfigurations : List ClientAct :=
  [.mc (.receive (.ok (some (onePixel 0)))), .mc .handOver,
    .ec (.receive (.ok (.displayConfiguration ⟨1, [⟨some ⟨some ⟨some ⟨0, 0⟩, some ⟨1, 1⟩⟩, true⟩,
      [⟨some ⟨0, 0⟩, some ⟨1, 1⟩⟩]⟩]⟩))), .ec .handOver,
    .media, .perform true, .event, .perform true,
    .mc (.receive (.ok (some (onePixel 1)))), .mc .handOver, .perform true, .media, .perform true]

theorem draws_in_order_two :
    Machine.Always (traced rawOnly)
      (fun x => x.2.log.map Prod.fst = x.1.events ∧ InOrder rawOnly 0 x.2.log)
      (initial (pixelConfiguration 0), .initial (pixelConfiguration 0)) twoConfigurations ∧
    (Machine.run (traced rawOnly) (initial (pixelConfiguration 0), .initial (pixelConfiguration 0))
      twoConfigurations).any (fun x => (x.2.log.map fun e => (announced e.1, e.2)) =
        [(none, ⟨pixelConfiguration 0, [onePixel 0]⟩), (some 1, ⟨pixelConfiguration 0, [onePixel 0]⟩),
          (none, ⟨pixelConfiguration 1, [onePixel 1]⟩)]) = true := by
  refine ⟨draws_in_order rawOnly (pixelConfiguration 0) twoConfigurations (by decide) ?_,
    by decide +kernel⟩
  intro dc h
  simp [twoConfigurations] at h

end ApertureC.Client
