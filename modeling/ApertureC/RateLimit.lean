import ApertureC.Lib.Machine
import ApertureC.Lib.Semaphore

/-!
# The rate limiter of the server (`aperturec-server/src/task/rate_limit.rs`)

Every request is a task of its own, so that requests and fills interleave at each of their calls to
the semaphore.

* `Configuration.new`, `rateLimitCapacity` — the rate in force and the tokens of one fill.
* `TokenBucket`, `step` — `get_tokens` is `request` and, when it blocks, `acquire`; `fill` is `load`
  and `refill`.
* `Inv` — the permits that the bucket was ever given are at most its capacity for the start and for
  each fill.

Principal results: `step_inv`, `run_whole` (tokens are bytes when no request has 2^32 of them) and
`tokens_bounded` (**the tokens granted and collected are at most the capacity for the start and for
each fill**).
-/

set_option autoImplicit false

namespace ApertureC.RateLimit

/-! ## The rate -/

structure Configuration where
  mbpsMax : Option Nat
  deriving DecidableEq, Repr

/-- `Configuration::new`: the stricter of the two limits; a client's `0` is no limit. -/
def Configuration.new (serverMbpsMax : Option Nat) (clientMbpsMax : Nat) : Configuration :=
  match serverMbpsMax, clientMbpsMax with
  | some serverMax, 0 => ⟨some serverMax⟩
  | some serverMax, clientMax => ⟨some (min serverMax clientMax)⟩
  | none, 0 => ⟨none⟩
  | none, clientMax => ⟨some clientMax⟩

/-- `RATE_LIMIT_FILL_MS` -/
def rateLimitFillMs : Nat := 1000 / 8

/-- `rate_limit_capacity`: the bytes of one interval at the configured rate. -/
def rateLimitCapacity (config : Configuration) : Nat :=
  config.mbpsMax.getD 0 * 1000000 % 2 ^ 64 / 8 / 1000 * rateLimitFillMs

/-- Eight fills, those of a second, are within the configured rate. -/
theorem rateLimitCapacity_le (config : Configuration) :
    8 * rateLimitCapacity config ≤ config.mbpsMax.getD 0 * 1000000 / 8 := by
  unfold rateLimitCapacity rateLimitFillMs
  have hmod := Nat.mod_le (config.mbpsMax.getD 0 * 1000000) (2 ^ 64)
  omega

/-! ## The bucket -/

/-- `TokenBucket`, with the calls in progress; a request that waits is known by its count. -/
structure TokenBucket where
  bucket : Semaphore Nat
  tokenCapacity : Nat
  /-- The requests between `try_acquire_many` and `acquire_many`. -/
  blocked : List Nat
  /-- `dropped_token_count` of the `fill` in progress. -/
  filling : Option Int
  /-- History: the tokens granted. -/
  granted : Nat
  /-- History: the counts of the requests that were granted. -/
  sent : Nat
  /-- History: the calls of `fill`. -/
  fills : Nat

inductive Act where
  | request (count : Nat)
  | acquire (i : Nat)
  | load
  | refill
  deriving DecidableEq, Repr

/-- `count as u32` -/
def permitsFor (count : Nat) : Nat := count % 2 ^ 32

namespace TokenBucket

def new (tokenCapacity : Nat) : TokenBucket := ⟨.new tokenCapacity, tokenCapacity, [], none, 0, 0, 0⟩

/-- A request has its tokens, and forgets them. -/
def grant (s : TokenBucket) (count : Nat) : TokenBucket :=
  { s with granted := s.granted + permitsFor count, sent := s.sent + count }

/-- The requests that a fill has completed. -/
def grantAll (s : TokenBucket) (served : List (Waiter Nat)) : TokenBucket :=
  { s with
    granted := s.granted + Semaphore.needed served
    sent := s.sent + (served.map Waiter.tag).sum }

def step (s : TokenBucket) : Act → Option TokenBucket
  | .request count =>
    match s.bucket.tryAcquire (permitsFor count) with
    | some bucket => some ({ s with bucket := bucket }.grant count)
    | none => some { s with blocked := s.blocked ++ [count] }
  | .acquire i =>
    match s.blocked[i]? with
    | none => none
    | some count =>
      let acquired := s.bucket.acquire count (permitsFor count)
      let s := { s with bucket := acquired.2, blocked := s.blocked.eraseIdx i }
      some (if acquired.1 then s.grant count else s)
  | .load =>
    match s.filling with
    | some _ => none
    | none => some { s with filling := some ((s.tokenCapacity : Int) - s.bucket.permits) }
  | .refill =>
    match s.filling with
    | none => none
    | some droppedTokenCount =>
      let s := { s with filling := none, fills := s.fills + 1 }
      if 0 < droppedTokenCount then
        let added := s.bucket.addPermits droppedTokenCount.toNat
        some ({ s with bucket := added.2 }.grantAll added.1)
      else if droppedTokenCount < 0 then
        some { s with bucket := s.bucket.forgetPermits (-droppedTokenCount).toNat }
      else some s

/-! ## The bound -/

/-- The bucket has never been given more than its capacity, at the start and at each fill. -/
structure Inv (c : Nat) (s : TokenBucket) : Prop where
  capacity : s.tokenCapacity = c
  fair : s.bucket.Fair
  permits : s.bucket.permits ≤ c
  filling : ∀ d, s.filling = some d → 0 ≤ d ∧ s.bucket.permits + d ≤ c
  given : s.granted + s.bucket.held ≤ c * (1 + s.fills)

theorem new_inv (c : Nat) : (new c).Inv c where
  capacity := rfl
  fair := Semaphore.new_fair c
  permits := Nat.le_refl c
  filling := fun _ h => nomatch h
  given := by simp [new, Semaphore.new, Semaphore.held]

/-- A call that leaves permits or takes them. -/
theorem Inv.taken {c : Nat} {s s' : TokenBucket} (h : s.Inv c)
    (hcapacity : s'.tokenCapacity = s.tokenCapacity) (hfair : s'.bucket.Fair)
    (hpermits : s'.bucket.permits ≤ s.bucket.permits) (hfilling : s'.filling = s.filling)
    (hfills : s'.fills = s.fills)
    (hgiven : s'.granted + s'.bucket.held = s.granted + s.bucket.held) : s'.Inv c where
  capacity := hcapacity.trans h.capacity
  fair := hfair
  permits := hpermits.trans h.permits
  filling := by
    intro d hd
    obtain ⟨hnonneg, hroom⟩ := h.filling d (hfilling ▸ hd)
    exact ⟨hnonneg, by omega⟩
  given := by
    rw [hgiven, hfills]
    exact h.given

/-- **Every call keeps the bound**, whatever other calls are in progress. -/
theorem step_inv {c : Nat} {s s' : TokenBucket} {a : Act} (h : s.Inv c)
    (hs : s.step a = some s') : s'.Inv c := by
  cases a with
  | request count =>
    simp only [step] at hs
    split at hs
    · rename_i bucket hacquired
      cases hs
      obtain ⟨hheld, -, hle⟩ := Semaphore.tryAcquire_held hacquired
      refine h.taken rfl (Semaphore.tryAcquire_fair h.fair hacquired) hle rfl rfl ?_
      simp only [grant]
      omega
    · cases hs
      exact h.taken rfl h.fair (Nat.le_refl _) rfl rfl rfl
  | acquire i =>
    simp only [step] at hs
    split at hs
    · cases hs
    · rename_i count _
      obtain ⟨hheld, hle⟩ := s.bucket.acquire_held count (permitsFor count)
      have hfair := Semaphore.acquire_fair h.fair count (permitsFor count)
      simp only [Option.some.injEq] at hs
      split at hs
      · rename_i hdone
        rw [if_pos hdone] at hheld
        subst hs
        refine h.taken rfl hfair hle rfl rfl ?_
        simp only [grant]
        omega
      · rename_i hwaits
        rw [if_neg hwaits] at hheld
        subst hs
        refine h.taken rfl hfair hle rfl rfl ?_
        show s.granted + (s.bucket.acquire count (permitsFor count)).2.held =
          s.granted + s.bucket.held
        omega
  | load =>
    simp only [step] at hs
    split at hs
    · cases hs
    · cases hs
      refine ⟨h.capacity, h.fair, h.permits, fun d hd => ?_, h.given⟩
      have hpermits := h.permits
      have hcapacity := h.capacity
      simp only [Option.some.injEq] at hd
      subst hd
      refine ⟨by omega, ?_⟩
      show (s.bucket.permits : Int) + ((s.tokenCapacity : Int) - s.bucket.permits) ≤ c
      omega
  | refill =>
    simp only [step] at hs
    split at hs
    · cases hs
    · rename_i d hd
      obtain ⟨hnonneg, hroom⟩ := h.filling d hd
      have hgiven := h.given
      have hmore : c * (1 + (s.fills + 1)) = c * (1 + s.fills) + c := by
        rw [← Nat.add_assoc, Nat.mul_succ]
      split at hs
      · obtain ⟨hheld, hle⟩ := Semaphore.addPermits_held h.fair d.toNat
        cases hs
        refine ⟨h.capacity, Semaphore.addPermits_fair h.fair _, ?_, (fun _ h => nomatch h), ?_⟩
        · simp only [grantAll]
          omega
        · simp only [grantAll, hmore]
          omega
      · split at hs
        · omega
        · cases hs
          refine ⟨h.capacity, h.fair, h.permits, (fun _ h => nomatch h), ?_⟩
          simp only [hmore]
          omega

theorem reachable_inv {c : Nat} {s : TokenBucket} (h : Machine.Reachable step (new c) s) :
    s.Inv c :=
  h.invariant (new_inv c) fun _ _ _ hs hstep => step_inv hs hstep

/-! ## Tokens and bytes -/

theorem permitsFor_of_lt {count : Nat} (h : count < 2 ^ 32) : permitsFor count = count :=
  Nat.mod_eq_of_lt h

/-- A request of 2^32 bytes is granted without a token. -/
example : permitsFor (2 ^ 32) = 0 := rfl

/-- No request has been cut short by `as u32`: the tokens are the bytes. -/
structure Whole (s : TokenBucket) : Prop where
  blocked : ∀ count ∈ s.blocked, count < 2 ^ 32
  waiters : ∀ w ∈ s.bucket.waiters, w.needed = w.tag
  sent : s.sent = s.granted

theorem needed_eq_tags : ∀ {ws : List (Waiter Nat)}, (∀ w ∈ ws, w.needed = w.tag) →
    Semaphore.needed ws = (ws.map Waiter.tag).sum
  | [], _ => rfl
  | w :: ws, h => by
    have hw := h w List.mem_cons_self
    have hws := needed_eq_tags fun w' hw' => h w' (List.mem_cons_of_mem w hw')
    simp [hw, hws]

theorem step_whole {s s' : TokenBucket} {a : Act} (h : s.Whole)
    (ha : ∀ count, a = .request count → count < 2 ^ 32) (hs : s.step a = some s') : s'.Whole := by
  have hsent := h.sent
  cases a with
  | request count =>
    have hlt := ha count rfl
    simp only [step] at hs
    split at hs
    · rename_i bucket hacquired
      cases hs
      obtain ⟨-, hwaiters, -⟩ := Semaphore.tryAcquire_held hacquired
      refine ⟨h.blocked, fun w hw => h.waiters w (hwaiters ▸ hw), ?_⟩
      simp only [grant, permitsFor_of_lt hlt, hsent]
    · cases hs
      refine ⟨fun count' hin => ?_, h.waiters, hsent⟩
      rcases List.mem_append.mp hin with hin | hin
      · exact h.blocked count' hin
      · rw [List.mem_singleton.mp hin]
        exact hlt
  | acquire i =>
    simp only [step] at hs
    split at hs
    · cases hs
    · rename_i count hcount
      have hlt := h.blocked count (List.mem_of_getElem? hcount)
      have hblocked : ∀ count' ∈ s.blocked.eraseIdx i, count' < 2 ^ 32 :=
        fun count' hin => h.blocked count' (List.mem_of_mem_eraseIdx hin)
      simp only [Semaphore.acquire, Option.some.injEq] at hs
      split at hs
      · simp only [if_true] at hs
        subst hs
        refine ⟨hblocked, h.waiters, ?_⟩
        simp only [grant, permitsFor_of_lt hlt, hsent]
      · simp only [Bool.false_eq_true, if_false] at hs
        subst hs
        refine ⟨hblocked, fun w hw => ?_, hsent⟩
        rcases List.mem_append.mp hw with hw | hw
        · exact h.waiters w hw
        · rw [List.mem_singleton.mp hw]
          exact permitsFor_of_lt hlt
  | load =>
    simp only [step] at hs
    split at hs <;> cases hs
    exact ⟨h.blocked, h.waiters, hsent⟩
  | refill =>
    simp only [step] at hs
    split at hs
    · cases hs
    · rename_i d _
      split at hs
      · cases hs
        obtain ⟨hserved, hwaiting⟩ := Semaphore.hand_forall
          (P := fun tag needed => needed = tag) s.bucket.waiters h.waiters d.toNat
        refine ⟨h.blocked, hwaiting, ?_⟩
        show s.sent + ((Semaphore.hand d.toNat s.bucket.waiters).1.map Waiter.tag).sum =
          s.granted + Semaphore.needed (Semaphore.hand d.toNat s.bucket.waiters).1
        rw [hsent, needed_eq_tags hserved]
      · split at hs <;> cases hs
        · exact ⟨h.blocked, h.waiters, hsent⟩
        · exact ⟨h.blocked, h.waiters, hsent⟩

theorem new_whole (c : Nat) : (new c).Whole :=
  ⟨by simp [new], by simp [new, Semaphore.new], rfl⟩

theorem run_whole {as : List Act} {s s' : TokenBucket} (h : s.Whole)
    (hlt : ∀ count, .request count ∈ as → count < 2 ^ 32)
    (hr : Machine.run step s as = some s') : s'.Whole := by
  induction as generalizing s with
  | nil =>
    cases hr
    exact h
  | cons a as ih =>
    obtain ⟨s₁, hs, hr⟩ := Machine.run_cons_eq_some.mp hr
    refine ih (step_whole h (fun count ha => ?_) hs)
      (fun count hc => hlt count (List.mem_cons_of_mem a hc)) hr
    exact hlt count (by rw [ha]; exact List.mem_cons_self)

/-! ## The bound -/

/-- **The rate limiter bounds what is granted**: for every capacity, all requests and every
interleaving with fills, the available permits are at most the capacity, and the tokens granted and
those collected by requests that wait are at most the capacity for the start and for each fill.
Tokens are the permits of the semaphore; they are bytes as long as no request has 2^32 of them, and
then the bytes granted are bounded alike. -/
theorem tokens_bounded (c : Nat) (as : List Act) (s : TokenBucket)
    (h : Machine.run step (new c) as = some s) :
    s.bucket.permits ≤ c ∧
      s.granted + Semaphore.collected s.bucket.waiters ≤ c * (1 + s.fills) ∧
      ((∀ count, .request count ∈ as → count < 2 ^ 32) →
        s.sent + Semaphore.collected s.bucket.waiters ≤ c * (1 + s.fills)) := by
  have hinv := reachable_inv ⟨as, h⟩
  have hgiven := hinv.given
  have hgranted : s.granted + Semaphore.collected s.bucket.waiters ≤ c * (1 + s.fills) := by
    simp only [Semaphore.held] at hgiven
    omega
  refine ⟨hinv.permits, hgranted, fun hlt => ?_⟩
  rw [(run_whole (new_whole c) hlt h).sent]
  exact hgranted

/-- Two requests larger than what is left wait in turn, and a fill is collected by the first. -/
theorem tokens_bounded_waiting :
    ∃ s, Machine.run step (new 10)
        [.request 7, .request 20, .acquire 0, .request 5, .acquire 0, .load, .refill] = some s ∧
      s.granted = 7 ∧ Semaphore.collected s.bucket.waiters = 13 ∧
      s.bucket.permits ≤ 10 ∧ 7 + 13 ≤ 10 * (1 + 1) ∧ s.sent + 13 ≤ 20 := by
  have hrun : Machine.run step (new 10)
      [.request 7, .request 20, .acquire 0, .request 5, .acquire 0, .load, .refill] =
        some ⟨⟨0, [⟨20, 20, 13⟩, ⟨5, 5, 0⟩]⟩, 10, [], none, 7, 7, 1⟩ := rfl
  obtain ⟨hpermits, hgranted, hsent⟩ := tokens_bounded 10 _ _ hrun
  refine ⟨_, hrun, rfl, rfl, hpermits, hgranted, hsent fun count hcount => ?_⟩
  simp only [List.mem_cons, Act.request.injEq, reduceCtorEq, List.not_mem_nil, or_false,
    false_or] at hcount
  omega

end TokenBucket

end ApertureC.RateLimit
