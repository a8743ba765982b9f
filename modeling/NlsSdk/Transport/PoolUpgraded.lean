import NlsSdk.Transport.PoolIndex

/-!
# Preconnected connections are upgraded

`preconnectNodeByRequest` opens a connection, polls the status of its node and
judges the outcome by the loop counter. Beside the pool, how far the connection
behind each handle has come.
-/
namespace NlsSdk.Transport

open Library

/-! ## The attempt to connect -/

/-- What the calls of an attempt return; `starting k` is whether the status reads `NodeStarting`
when the loop looks for the `k`-th time. -/
structure DirectConnect where
  parseUrlInformation : Bool := true
  directIp : Bool := true
  ipFromCache : Bool := false
  syncConnectProcess : ℤ := 0
  syncSslProcess : Bool := true
  nodeRequestProcess : ℤ := 0
  preNodeStartStepByStep : Bool := true
  starting : ℕ → Bool

namespace DirectConnect

/-- `while (tryCount-- > 0 && status != NodeStarting)`: the counter after the loop, with `k` looks
behind it. -/
def tryCountAfter (starting : ℕ → Bool) (k : ℕ) : ℕ → ℤ
  | 0 => -1
  | tryCount + 1 => if starting k then tryCount else tryCountAfter starting (k + 1) tryCount

def syncDirectConnect (d : DirectConnect) (ip : Bool) : Bool :=
  if ip then
    if d.syncConnectProcess = 0 then
      if d.syncSslProcess then
        if d.nodeRequestProcess < 0 then false
        else if d.preNodeStartStepByStep then
          tryCountAfter d.starting 0 50 ≠ 0
        else true
      else false
    else false
  else false

def directLinkIpFromCache (d : DirectConnect) : Bool :=
  if !d.parseUrlInformation then false
  else if d.directIp then d.syncDirectConnect true
  else if d.ipFromCache then d.syncDirectConnect true
  else false

/-- The attempt comes to the loop. -/
def Polls (d : DirectConnect) : Prop :=
  d.parseUrlInformation = true ∧ (d.directIp = true ∨ d.ipFromCache = true) ∧
    d.syncConnectProcess = 0 ∧ d.syncSslProcess = true ∧ 0 ≤ d.nodeRequestProcess

/-- `NodeStarting` is seen at one of the polls. -/
def Observed (d : DirectConnect) : Prop :=
  d.Polls ∧ ∃ k < 50, d.starting k = true

instance (d : DirectConnect) : Decidable d.Polls := inferInstanceAs (Decidable (_ ∧ _))

instance (d : DirectConnect) : Decidable d.Observed :=
  inferInstanceAs (Decidable (d.Polls ∧ ∃ k < 50, d.starting k = true))

/-- It is seen before the last poll. -/
def SeenInTime (d : DirectConnect) : Prop :=
  ∃ k < 49, d.starting k = true

/-- The counter is 0 when the status is reached at the last poll, and only then. -/
lemma tryCountAfter_eq_zero (starting : ℕ → Bool) (k n : ℕ) :
    tryCountAfter starting k (n + 1) = 0 ↔
      starting (k + n) = true ∧ ∀ j < n, starting (k + j) = false := by
  induction n generalizing k with
  | zero =>
    by_cases seen : starting k
    · simp [tryCountAfter, seen]
    · simp [tryCountAfter, seen]
  | succ n ih =>
    rw [tryCountAfter]
    by_cases seen : starting k
    · rw [if_pos seen]
      refine iff_of_false (by omega) fun h => ?_
      have first := h.2 0 (by omega)
      rw [Nat.add_zero, seen] at first
      cases first
    · rw [if_neg seen, ih]
      have shift : ∀ j, k + 1 + j = k + (j + 1) := fun j => by omega
      constructor
      · rintro ⟨last, before⟩
        refine ⟨shift n ▸ last, fun j less => ?_⟩
        cases j with
        | zero => simpa using seen
        | succ j => exact shift j ▸ before j (by omega)
      · rintro ⟨last, before⟩
        refine ⟨(shift n).symm ▸ last, fun j less => ?_⟩
        rw [shift]
        exact before (j + 1) (by omega)

/-- The attempt succeeds unless the status is reached at the last poll. -/
lemma directLinkIpFromCache_iff (d : DirectConnect) (steps : d.preNodeStartStepByStep = true) :
    d.directLinkIpFromCache = true ↔
      d.Polls ∧ ¬ (d.starting 49 = true ∧ ∀ j < 49, d.starting j = false) := by
  have last := tryCountAfter_eq_zero d.starting 0 49
  simp only [Nat.zero_add] at last
  have loop : d.syncDirectConnect true = true ↔
      d.syncConnectProcess = 0 ∧ d.syncSslProcess = true ∧ 0 ≤ d.nodeRequestProcess ∧
        ¬ (d.starting 49 = true ∧ ∀ j < 49, d.starting j = false) := by
    rw [← last]
    unfold syncDirectConnect
    rw [if_pos rfl, if_pos steps]
    split_ifs with connect ssl failed
    · simp [connect, ssl, not_le.mpr failed]
    · simp [connect, ssl, not_lt.mp failed]
    · simp [ssl]
    · simp [connect]
  unfold directLinkIpFromCache Polls
  split_ifs with parse direct cache
  · simp only [Bool.not_eq_true'] at parse
    simp [parse]
  · rw [loop]
    simp only [Bool.not_eq_true', Bool.not_eq_false] at parse
    simp [parse, direct, and_assoc]
  · rw [loop]
    simp only [Bool.not_eq_true', Bool.not_eq_false] at parse
    simp [parse, cache, and_assoc]
  · simp [direct, cache]

/-- The verdict is right exactly when the status is reached before the last poll: at the last one
it is taken for a time-out, and a time-out for success. -/
theorem directLinkIpFromCache_right (d : DirectConnect) (steps : d.preNodeStartStepByStep = true) :
    (d.directLinkIpFromCache = true ↔ d.Observed) ↔ (d.Polls → d.SeenInTime) := by
  rw [d.directLinkIpFromCache_iff steps, Observed]
  by_cases polls : d.Polls
  · simp only [polls, true_and, forall_const]
    constructor
    · intro right
      by_contra late
      have before : ∀ j < 49, d.starting j = false := by
        intro j less
        by_contra seen
        exact late ⟨j, less, by simpa using seen⟩
      by_cases last : d.starting 49 = true
      · exact right.mpr ⟨49, by omega, last⟩ ⟨last, before⟩
      · obtain ⟨k, less, seen⟩ := right.mp fun h => last h.1
        rcases Nat.lt_or_ge k 49 with early | at_last
        · rw [before k early] at seen
          cases seen
        · obtain rfl : k = 49 := by omega
          exact last seen
    · rintro ⟨k, less, seen⟩
      refine iff_of_true (fun h => ?_) ⟨k, by omega, seen⟩
      rw [h.2 k less] at seen
      cases seen
  · simp [polls]

end DirectConnect

/-! ## The pool and its connections -/

/-- For the connection behind each handle: the node has reached `NodeStarting`, and a Start has
been sent. -/
structure Upgrading where
  pool : ConnectedPool
  upgraded : Ptr → Bool := fun _ => false
  startSent : Ptr → Bool := fun _ => false

namespace Upgrading

open ConnectedPool

inductive Action
  | pool (a : PoolAction)
  | /-- The pool opens a connection of its own; the start of the request may be refused. -/
    preconnectNodeByRequest (newRequest : Ptr) (type : NlsType) (now : UInt64) (startInner : Bool)
      (attempt : DirectConnect)
  | /-- A request opens a connection on the handle it holds. -/
    connect (request : Ptr)
  | /-- The server answers with 101. -/
    handshaked (request : Ptr)
  | sendStart (request : Ptr)

/-- The connection behind the handle is a new one. -/
def reopen (s : Upgrading) (handle : Ptr) (upgraded : Bool) : Upgrading :=
  { s with
    upgraded := fun h => if h = handle then upgraded else s.upgraded h
    startSent := fun h => if h = handle then false else s.startSent h }

def step (s : Upgrading) : Action → Upgrading
  -- only `preconnectNodeByRequest` pushes to this vector
  | .pool (.pushPreconnectedNode ..) => s
  | .pool a => { s with pool := s.pool.step a }
  | .preconnectNodeByRequest newRequest type now startInner attempt =>
    let attempt := { attempt with preNodeStartStepByStep := true }
    if startInner then
      let opened := s.reopen (s.pool.memory newRequest).sslHandle (decide attempt.Observed)
      if attempt.directLinkIpFromCache then
        { opened with pool := s.pool.step (.pushPreconnectedNode newRequest type true now) }
      else opened
    else s
  | .connect request => s.reopen (s.pool.memory request).sslHandle false
  | .handshaked request =>
    { s with upgraded := fun h =>
        if h = (s.pool.memory request).sslHandle then true else s.upgraded h }
  | .sendStart request =>
    { s with startSent := fun h =>
        if h = (s.pool.memory request).sslHandle then true else s.startSent h }

/-- The slot of the preconnected vector holds a connection. -/
def Holds (s : Upgrading) (t : PoolType) (i : ℕ) (it : ConnectedNodeProcess) : Prop :=
  s.pool.slot t .preconnected i = some it ∧ it.status = .preNodeConnected

/-- Every connection that a preconnected slot offers is upgraded, and nothing was started on it. -/
def Offered (s : Upgrading) : Prop :=
  ∀ t i it, s.pool.slot t .preconnected i = some it → Pickable .preconnected it →
    s.upgraded it.sslHandle = true ∧ s.startSent it.sslHandle = false

/-- When an action keeps that. An attempt that polls sees the status before its last poll and opens
a handle that no preconnected slot holds, a preconnected slot that is given back has not carried a
Start, and a Start is sent on no connection that is offered. -/
def Timely (s : Upgrading) : Action → Prop
  | .pool (.finishPushPreNode type fd ssl index) => ∀ t i it, poolOf type = some t →
    s.pool.findNode t index.toNat (hasConnection fd ssl) = some (.preconnected, i, it) →
      s.startSent it.sslHandle = false
  | .pool _ => True
  | .preconnectNodeByRequest newRequest _ _ startInner attempt =>
    (startInner = true → attempt.Polls → attempt.SeenInTime) ∧
      ∀ t i it, s.Holds t i it → it.sslHandle ≠ (s.pool.memory newRequest).sslHandle
  | .connect request =>
    ∀ t i it, s.Holds t i it → it.sslHandle ≠ (s.pool.memory request).sslHandle
  | .handshaked _ => True
  | .sendStart request => ∀ t i it, s.pool.slot t .preconnected i = some it →
    Pickable .preconnected it → it.sslHandle ≠ (s.pool.memory request).sslHandle

/-- A connection in the preconnected vector is upgraded, and unused while it is offered. -/
structure Ready (s : Upgrading) : Prop where
  upgraded : ∀ t i it, s.Holds t i it → s.upgraded it.sslHandle = true
  unused : ∀ t i it, s.Holds t i it → it.canPick = true → s.startSent it.sslHandle = false

lemma Ready.offered {s : Upgrading} (ready : s.Ready) : s.Offered := by
  intro t i it there pick
  exact ⟨ready.upgraded t i it ⟨there, pick.1⟩, ready.unused t i it ⟨there, pick.1⟩ pick.2⟩

/-- Opening a handle that no slot holds. -/
lemma ready_reopen {s : Upgrading} (ready : s.Ready) {handle : Ptr}
    (foreign : ∀ t i it, s.Holds t i it → it.sslHandle ≠ handle) (now : Bool) :
    (s.reopen handle now).Ready where
  upgraded := by
    intro t i it holds
    exact (if_neg (foreign t i it holds)).trans (ready.upgraded t i it holds)
  unused := by
    intro t i it holds pick
    exact (if_neg (foreign t i it holds)).trans (ready.unused t i it holds pick)

/-- A step of the pool: what is stored has to be upgraded, what is given back unused. -/
lemma ready_pool {s : Upgrading} (ready : s.Ready) (a : PoolAction)
    (stored : ∀ request type now, pushed a = some (.preconnected, request, type, now) →
      s.upgraded (s.pool.memory request).sslHandle = true)
    (given : ∀ type fd ssl index t i it, a = .finishPushPreNode type fd ssl index →
      poolOf type = some t →
      s.pool.findNode t index.toNat (hasConnection fd ssl) = some (.preconnected, i, it) →
        s.startSent it.sslHandle = false) :
    ({ s with pool := s.pool.step a } : Upgrading).Ready := by
  have both : ∀ t i after, (s.pool.step a).slot t .preconnected i = some after →
      after.status = .preNodeConnected →
        s.upgraded after.sslHandle = true ∧
          (after.canPick = true → s.startSent after.sslHandle = false) := by
    intro t i after at_ used
    obtain ⟨it, there, change⟩ := step_slot at_
    have was : it.status = .preNodeConnected → s.Holds t i it := by
      intro used'
      rcases there with there | ⟨-, type, rfl⟩
      · exact ⟨there, used'⟩
      · cases used'
    cases change with
    | same => exact ⟨ready.upgraded t i after (was used), ready.unused t i after (was used)⟩
    | taken => exact ⟨ready.upgraded t i it (was used), by nofun⟩
    | usedUp => exact ⟨ready.upgraded t i it (was used), by nofun⟩
    | abnormal => exact ⟨ready.upgraded t i it (was used), ready.unused t i it (was used)⟩
    | begun => exact ⟨ready.upgraded t i it (was used), ready.unused t i it (was used)⟩
    | finished finish service found =>
      exact ⟨ready.upgraded t i it (was used), fun _ => given _ _ _ _ t i it finish service found⟩
    | stored push => exact ⟨stored _ _ _ push, by nofun⟩
    | moved move service given vector => cases vector
    | movedAway => cases used
    | deletedRequest => cases used
    | deletedSSL => cases used
    | released => cases used
    | @timedOut checks _ tick idle work =>
      rcases s.pool.timeoutSlot_cases .preconnected (checks t .preconnected i) it with
        ⟨time, same⟩ | ⟨-, status, -⟩
      · rw [same] at used ⊢
        exact ⟨ready.upgraded t i it (was used), ready.unused t i it (was used)⟩
      · rw [status] at used
        cases used
  exact ⟨fun t i it holds => (both t i it holds.1 holds.2).1,
    fun t i it holds => (both t i it holds.1 holds.2).2⟩

theorem ready_step {s : Upgrading} (ready : s.Ready) {a : Action} (timely : s.Timely a) :
    (s.step a).Ready := by
  cases a with
  | pool a =>
    by_cases ours : ∃ request type newNode now, a = .pushPreconnectedNode request type newNode now
    · obtain ⟨request, type, newNode, now, rfl⟩ := ours
      exact ready
    · have same : s.step (.pool a) = { s with pool := s.pool.step a } := by
        cases a with
        | pushPreconnectedNode request type newNode now =>
          exact absurd ⟨request, type, newNode, now, rfl⟩ ours
        | _ => rfl
      rw [same]
      refine ready_pool ready a ?_ ?_
      · intro request type now push
        cases a with
        | pushPreconnectedNode request type newNode now =>
          exact absurd ⟨request, type, newNode, now, rfl⟩ ours
        | _ => simp [pushed] at push
      · rintro type fd ssl index t i it rfl service found
        exact timely t i it service found
  | preconnectNodeByRequest newRequest type now startInner attempt =>
    simp only [step]
    split
    · rename_i ok
      have opened := ready_reopen ready timely.2
      split
      · rename_i success
        set attempt' : DirectConnect := { attempt with preNodeStartStepByStep := true }
        have observed : attempt'.Observed :=
          ((attempt'.directLinkIpFromCache_right rfl).mpr (timely.1 ok)).mp success
        refine ready_pool (opened (decide attempt'.Observed)) _ ?_ (by simp)
        intro request type' now' push
        obtain ⟨rfl, -, -⟩ : newRequest = request ∧ type = type' ∧ now = now' := by
          simpa [pushed] using push
        exact (if_pos rfl).trans (decide_eq_true observed)
      · exact opened _
    · exact ready
  | connect request => exact ready_reopen ready timely false
  | handshaked request =>
    refine ⟨fun t i it holds => ?_, ready.unused⟩
    simp only [step]
    split
    · rfl
    · exact ready.upgraded t i it holds
  | sendStart request =>
    refine ⟨ready.upgraded, fun t i it holds pick => ?_⟩
    simp only [step]
    rw [if_neg (timely t i it holds.1 ⟨holds.2, pick⟩)]
    exact ready.unused t i it holds pick

/-- A pool with no connections. -/
def start (maxNumber : ℕ) (timeoutMs requestedTimeoutMs : UInt32) : Upgrading where
  pool := new maxNumber timeoutMs requestedTimeoutMs

lemma ready_start (maxNumber : ℕ) (timeoutMs requestedTimeoutMs : UInt32) :
    (start maxNumber timeoutMs requestedTimeoutMs).Ready where
  upgraded := by
    rintro t i it ⟨there, -⟩
    cases there
  unused := by
    rintro t i it ⟨there, -⟩
    cases there

/-- In a timely run every preconnected slot that can be picked holds an upgraded and unused
connection, and the verdict of every attempt is right; for one attempt that is so exactly when it
sees the status before its last poll. -/
theorem upgraded_connections (maxNumber : ℕ) (timeoutMs requestedTimeoutMs : UInt32)
    (acts : List Action) (timely : Along step Timely (start maxNumber timeoutMs requestedTimeoutMs) acts) :
    (∀ bs, bs <+: acts → (run step (start maxNumber timeoutMs requestedTimeoutMs) bs).Offered) ∧
    (∀ bs request type now attempt,
      bs ++ [.preconnectNodeByRequest request type now true attempt] <+: acts →
        attempt.preNodeStartStepByStep = true →
        (attempt.directLinkIpFromCache = true ↔ attempt.Observed)) ∧
    ∀ attempt : DirectConnect, attempt.preNodeStartStepByStep = true →
      ((attempt.directLinkIpFromCache = true ↔ attempt.Observed) ↔
        (attempt.Polls → attempt.SeenInTime)) := by
  refine ⟨fun bs part => ?_, fun bs request type now attempt part steps => ?_,
    fun attempt => attempt.directLinkIpFromCache_right⟩
  · have along : Along step Timely (start maxNumber timeoutMs requestedTimeoutMs) bs := by
      obtain ⟨rest, rfl⟩ := part
      rw [along_append] at timely
      exact timely.1
    exact (invariant_along (I := Ready) (fun s a good now => ready_step good now)
      (ready_start maxNumber timeoutMs requestedTimeoutMs) along).offered
  · have now := along_iff_forall.mp timely bs _ part
    exact (attempt.directLinkIpFromCache_right steps).mpr (now.1 rfl)

/-- A new request with a handle. -/
def oneRequest : Ptr → RequestObject
  | 1 => { socketFd := 3, sslHandle := 11, nativeSslHandle := 11 }
  | _ => {}

/-- The pool connects the new request and offers the connection. -/
def preconnecting (starting : ℕ → Bool) : List Action :=
  [.pool (.outside oneRequest),
    .preconnectNodeByRequest 1 .typeAsr 1000 true { starting := starting },
    .pool (.finishPushPreNode .typeAsr 3 11 0)]

/-- The server answers before the third poll. -/
theorem upgraded_connections_third :
    (run step (start 1 15000 7000) (preconnecting fun k => k == 2)).Offered := by
  refine (upgraded_connections 1 15000 7000 (preconnecting fun k => k == 2) ?_).1 _ ⟨[], rfl⟩
  refine ⟨trivial, ⟨fun _ _ => ⟨2, by omega, rfl⟩, ?_⟩, ?_, trivial⟩
  · rintro t i it ⟨there, -⟩
    cases there
  · intro t i it service found
    obtain rfl := Option.some.inj service
    have handle := (findNode_found found).2.2
    simp only [hasConnection, Bool.and_eq_true, beq_iff_eq] at handle
    rw [← handle.2]
    decide

/-- The server has not answered when the polls are over, and the connection is offered. -/
theorem half_open_offered :
    ¬ (∀ acts, (run step (start 1 15000 7000) acts).Offered) := by
  intro claim
  have offered := claim (preconnecting fun _ => false) .sr 0
    { type := .typeAsr, status := .preNodeConnected, socketFd := 3, sslHandle := 11,
      canPick := true, request := 1 } (by decide) (by decide)
  exact absurd offered.1 (by decide)

end Upgrading

end NlsSdk.Transport
