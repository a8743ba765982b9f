import NlsSdk.Transport.PoolSound

/-!
# Credentials of pooled connections

Beside the pool, what each connection was opened with: the fields of the
parameters that the upgrade request carries.
-/
namespace NlsSdk.Transport

open Library

/-- What `requestPackage` and `requestDashScopePackage` send of the parameters. -/
structure Handshake where
  url : Bytes
  token : Bytes
  apikey : Bytes
  httpHeader : Bytes
  deriving DecidableEq, Repr

def INlsRequestParam.handshake (param : INlsRequestParam) : Handshake where
  url := param.url
  token := param.token
  apikey := param.apikey
  httpHeader := param.httpHeader

/-- Equal parameters have the same address, whatever the rest of the handshake is. -/
lemma INlsRequestParam.equals_url {a b : INlsRequestParam} (equal : a.equals b = true) :
    a.url = b.url := by
  simp only [equals, Bool.and_eq_true, beq_iff_eq] at equal
  exact equal.1.1.1.1.1.2

/-- The pool and what the connection behind each handle was opened with. -/
structure Authenticated where
  pool : ConnectedPool
  auth : Ptr → Option Handshake := fun _ => none

namespace Authenticated

open ConnectedPool

inductive Action
  | pool (a : PoolAction)
  | /-- The request sends its upgrade request on the handle it holds. -/
    connect (request : Ptr)
  | /-- A handle is deleted outside of the pool. -/
    deleteSSL (sslHandle : Ptr)

def step (s : Authenticated) : Action → Authenticated
  | .pool a =>
    let pool := s.pool.step a
    let now := pool.deleted.drop s.pool.deleted.length
    { pool := pool
      auth := fun handle => if .ssl handle ∈ now then none else s.auth handle }
  | .connect request =>
    let held := s.pool.memory request
    { s with auth := fun handle =>
        if handle = held.sslHandle then some held.param.handshake else s.auth handle }
  | .deleteSSL sslHandle =>
    { s with auth := fun handle => if handle = sslHandle then none else s.auth handle }

/-- The slot holds a connection of the pool. -/
def Owner (s : Authenticated) (kind : Kind) (t : PoolType) (i : ℕ) (it : ConnectedNodeProcess) :
    Prop :=
  s.pool.slot t kind i = some it ∧ it.status = kind.status

/-- The request has a connection that is open, or gave one to the pool. -/
def Connected (s : Authenticated) (request : Ptr) : Prop :=
  s.auth (s.pool.memory request).sslHandle ≠ none ∨
    ∃ kind t i it, s.Owner kind t i it ∧ it.request = request

/-- What keeps the users apart. Parameters that the upgrade request carries stay as they are once
there is a connection, a handle that is opened for the first time is nobody else's, and a slot that
compares equal to a request agrees with it in the three fields `operator==` leaves out. -/
def Careful (s : Authenticated) : Action → Prop
  | .pool (.outside memory) => ∀ request,
    ((memory request).sslHandle = (s.pool.memory request).sslHandle ∨
      s.auth (memory request).sslHandle = none) ∧
    (s.Connected request →
      (memory request).param.handshake = (s.pool.memory request).param.handshake)
  | .pool a => ∀ kind request type t i it, popped a = some (kind, request, type) →
    poolOf type = some t → s.pool.slot t kind i = some it →
    s.pool.canTake kind t request it = true →
      (s.pool.memory it.request).param.token = (s.pool.memory request).param.token ∧
      (s.pool.memory it.request).param.apikey = (s.pool.memory request).param.apikey ∧
      (s.pool.memory it.request).param.httpHeader = (s.pool.memory request).param.httpHeader
  | .connect request => s.auth (s.pool.memory request).sslHandle = none →
    (∀ other, other ≠ request →
      (s.pool.memory other).sslHandle ≠ (s.pool.memory request).sslHandle) ∧
    ∀ kind t i it, s.Owner kind t i it → it.sslHandle ≠ (s.pool.memory request).sslHandle
  | .deleteSSL _ => True

lemma careful_of_none {s : Authenticated} {a : PoolAction} (inside : ∀ memory, a ≠ .outside memory)
    (none_ : popped a = none) : s.Careful (.pool a) := by
  have never : ∀ kind request type, popped a ≠ some (kind, request, type) := by
    intro kind request type pop
    rw [none_] at pop
    cases pop
  cases a with
  | outside memory => exact absurd rfl (inside memory)
  | _ => exact fun kind request type _ _ _ pop => absurd pop (never kind request type)

/-- Every open connection was opened with the fields of whoever holds it. -/
structure Matched (s : Authenticated) : Prop where
  requests : ∀ request h, s.auth (s.pool.memory request).sslHandle = some h →
    h = (s.pool.memory request).param.handshake
  slots : ∀ kind t i it, s.Owner kind t i it → ∀ h, s.auth it.sslHandle = some h →
    h = (s.pool.memory it.request).param.handshake

lemma auth_of_step {s : Authenticated} {a : PoolAction} {handle : Ptr} {h : Handshake}
    (after : (s.step (.pool a)).auth handle = some h) : s.auth handle = some h := by
  simp only [step] at after
  split at after
  · cases after
  · exact after

/-- A slot that matches a request was opened with the request's own fields. -/
lemma handshake_of_take {s : Authenticated} (matched : s.Matched) {a : PoolAction} {kind : Kind}
    {request : Ptr} {type : NlsType} {t : PoolType} {i : ℕ} {it : ConnectedNodeProcess}
    (careful : s.Careful (.pool a)) (pop : popped a = some (kind, request, type))
    (service : poolOf type = some t) (there : s.pool.slot t kind i = some it)
    (take : s.pool.canTake kind t request it = true) {h : Handshake}
    (opened : s.auth it.sslHandle = some h) : h = (s.pool.memory request).param.handshake := by
  have agree : (s.pool.memory it.request).param.token = (s.pool.memory request).param.token ∧
      (s.pool.memory it.request).param.apikey = (s.pool.memory request).param.apikey ∧
      (s.pool.memory it.request).param.httpHeader = (s.pool.memory request).param.httpHeader := by
    cases a with
    | popPrestartedNode => exact careful kind request type t i it pop service there take
    | popPreconnectedNode => exact careful kind request type t i it pop service there take
    | _ => cases pop
  have take' := take
  simp only [canTake, equalFlag, Bool.and_eq_true, beq_iff_eq] at take'
  have owner := matched.slots kind t i it ⟨there, take'.1.1⟩ h opened
  rw [owner]
  unfold INlsRequestParam.handshake
  rw [INlsRequestParam.equals_url take'.2.1.1, agree.1, agree.2.1, agree.2.2]

lemma param_of_step {s : ConnectedPool} {a : PoolAction} (inside : ∀ memory, a ≠ .outside memory)
    (request : Ptr) : ((s.step a).memory request).param = (s.memory request).param := by
  rcases step_memory inside request with ⟨index, same⟩ | ⟨t, kind, i, it, -, same⟩
  · rw [same]
  · rw [same]

/-- The requests after a step of the pool. -/
lemma requests_of_pool {s : Authenticated} (matched : s.Matched) {a : PoolAction}
    (inside : ∀ memory, a ≠ .outside memory) (careful : s.Careful (.pool a)) (request : Ptr)
    {h : Handshake}
    (opened : (s.step (.pool a)).auth ((s.pool.step a).memory request).sslHandle = some h) :
    h = ((s.pool.step a).memory request).param.handshake := by
  have before := auth_of_step opened
  rw [param_of_step inside]
  rcases step_memory inside request with ⟨index, same⟩ | ⟨t, kind, i, it, gave, same⟩
  · rw [same] at before
    exact matched.requests request h before
  · rw [same] at before
    obtain ⟨type, pop, service⟩ := gave.pop
    exact handshake_of_take matched careful pop service gave.there gave.take before

/-- The slots after a step of the pool. -/
lemma slots_of_pool {s : Authenticated} (matched : s.Matched) {a : PoolAction}
    (inside : ∀ memory, a ≠ .outside memory) {kind : Kind} {t : PoolType} {i : ℕ}
    {after : ConnectedNodeProcess} (owner : (s.step (.pool a)).Owner kind t i after)
    {h : Handshake} (opened : (s.step (.pool a)).auth after.sslHandle = some h) :
    h = ((s.pool.step a).memory after.request).param.handshake := by
  have before := auth_of_step opened
  rw [param_of_step inside]
  obtain ⟨at_, used⟩ := owner
  obtain ⟨it, there, change⟩ := step_slot at_
  -- a slot that was not there is not in use
  have was : it.status = kind.status → s.Owner kind t i it := by
    intro used'
    rcases there with there | ⟨-, type, rfl⟩
    · exact ⟨there, used'⟩
    · exact absurd used'.symm kind.status_ne
  cases change with
  | same => exact matched.slots kind t i after (was used) h before
  | taken => exact matched.slots kind t i it (was used) h before
  | usedUp => exact matched.slots kind t i it (was used) h before
  | abnormal => exact matched.slots kind t i it (was used) h before
  | finished => exact matched.slots kind t i it (was used) h before
  | begun => exact matched.slots kind t i it (was used) h before
  | @stored request => exact matched.requests request h before
  | @moved request _ _ _ _ node move service given vector found =>
    obtain ⟨-, -, -, handle⟩ := existent_found found
    refine matched.requests node.request h ?_
    rw [← handle]
    exact before
  | movedAway => exact absurd used.symm kind.status_ne
  | deletedRequest => exact absurd used.symm kind.status_ne
  | deletedSSL => exact absurd used.symm kind.status_ne
  | released => exact absurd used.symm kind.status_ne
  | @timedOut checks _ tick idle work =>
    rcases s.pool.timeoutSlot_cases kind (checks t kind i) it with ⟨time, same⟩ | ⟨-, status, -⟩
    · rw [same] at before used ⊢
      exact matched.slots kind t i it (was used) h before
    · exact absurd (status.symm.trans used).symm kind.status_ne

theorem matched_step {s : Authenticated} (matched : s.Matched) {a : Action}
    (careful : s.Careful a) : (s.step a).Matched := by
  cases a with
  | deleteSSL handle =>
    constructor
    · intro request h opened
      simp only [step] at opened
      split at opened
      · cases opened
      · exact matched.requests request h opened
    · intro kind t i it owner h opened
      simp only [step] at opened
      split at opened
      · cases opened
      · exact matched.slots kind t i it owner h opened
  | connect request =>
    have known : ∀ h, s.auth (s.pool.memory request).sslHandle = some h →
        h = (s.pool.memory request).param.handshake := matched.requests request
    constructor
    · intro other h opened
      simp only [step] at opened
      split at opened
      · rename_i same
        obtain rfl := Option.some.inj opened
        by_cases this : other = request
        · rw [this]
          rfl
        · cases free : s.auth (s.pool.memory request).sslHandle with
          | none => exact absurd same ((careful free).1 other this)
          | some h =>
            rw [← known h free]
            exact matched.requests other h (by rw [same, free])
      · exact matched.requests other h opened
    · intro kind t i it owner h opened
      simp only [step] at opened
      split at opened
      · rename_i same
        obtain rfl := Option.some.inj opened
        cases free : s.auth (s.pool.memory request).sslHandle with
        | none => exact absurd same ((careful free).2 kind t i it owner)
        | some h =>
          rw [← known h free]
          exact matched.slots kind t i it owner h (by rw [same, free])
      · exact matched.slots kind t i it owner h opened
  | pool a =>
    by_cases inside : ∀ memory, a ≠ .outside memory
    · exact ⟨fun request h opened => requests_of_pool matched inside careful request opened,
        fun kind t i it owner h opened => slots_of_pool matched inside owner opened⟩
    · simp only [not_forall, not_not] at inside
      obtain ⟨memory, rfl⟩ := inside
      constructor
      · intro request h opened
        have before := auth_of_step opened
        obtain ⟨handle, fixed⟩ := careful request
        have kept : s.auth (s.pool.memory request).sslHandle = some h := by
          rcases handle with same | unopened
          · rw [← same]
            exact before
          · exact absurd (before.symm.trans unopened) (by simp)
        refine (matched.requests request h kept).trans (fixed (.inl ?_)).symm
        rw [kept]
        simp
      · intro kind t i it owner h opened
        have before := auth_of_step opened
        have fixed := (careful it.request).2 (.inr ⟨kind, t, i, it, owner, rfl⟩)
        exact (matched.slots kind t i it owner h before).trans fixed.symm

/-- A pool with no connections. -/
def start (maxNumber : ℕ) (timeoutMs requestedTimeoutMs : UInt32) : Authenticated where
  pool := new maxNumber timeoutMs requestedTimeoutMs

lemma matched_start (maxNumber : ℕ) (timeoutMs requestedTimeoutMs : UInt32) :
    (start maxNumber timeoutMs requestedTimeoutMs).Matched where
  requests := by
    intro request h opened
    cases opened
  slots := by
    intro kind t i it owner h opened
    cases opened

/-- In a careful run a connection that is handed out was opened with the fields of the request
that gets it. -/
theorem credential_isolation (maxNumber : ℕ) (timeoutMs requestedTimeoutMs : UInt32)
    (acts : List Action)
    (careful : Along step Careful (start maxNumber timeoutMs requestedTimeoutMs) acts) :
    ∀ bs a kind request type, bs ++ [.pool a] <+: acts → popped a = some (kind, request, type) →
      ((run step (start maxNumber timeoutMs requestedTimeoutMs) bs).pool.popNode kind request
        type).2 = true →
      ∀ h, (run step (start maxNumber timeoutMs requestedTimeoutMs) bs).auth
          (((run step (start maxNumber timeoutMs requestedTimeoutMs) bs).pool.popNode kind request
            type).1.memory request).sslHandle = some h →
        h = ((run step (start maxNumber timeoutMs requestedTimeoutMs) bs).pool.memory
          request).param.handshake := by
  intro bs a kind request type part pop ok h opened
  have along : Along step Careful (start maxNumber timeoutMs requestedTimeoutMs) bs := by
    obtain ⟨rest, rfl⟩ := part
    rw [along_append, along_append] at careful
    exact careful.1.1
  have matched := invariant_along (I := Matched) (fun s a good now => matched_step good now)
    (matched_start maxNumber timeoutMs requestedTimeoutMs) along
  have now := along_iff_forall.mp careful bs (.pool a) part
  obtain ⟨t, i, it, service, -, there, take, handle⟩ := popNode_true ok
  rw [handle] at opened
  exact handshake_of_take matched now pop service there take opened

/-- Two requests with a handle each and tokens of their own. -/
def withTokens (token other : Bytes) : Ptr → RequestObject
  | 1 => { param := { token := token }, socketFd := 3, sslHandle := 11, nativeSslHandle := 11 }
  | 2 => { param := { token := other }, socketFd := 4, sslHandle := 12, nativeSslHandle := 12 }
  | _ => {}

/-- The first request connects and gives its connection to the pool. -/
def sharing (token other : Bytes) : List Action :=
  [.pool (.outside (withTokens token other)), .connect 1,
    .pool (.pushPrestartedNode 1 .typeAsr true 1000), .pool (.finishPushPreNode .typeAsr 3 11 0)]

lemma careful_sharing (token : Bytes) :
    Along step Careful (start 1 15000 7000) (sharing token token) := by
  refine ⟨fun request => ⟨.inr rfl, ?_⟩, fun _ => ⟨?_, ?_⟩, ?_, ?_, trivial⟩
  · rintro (opened | ⟨kind, t, i, it, ⟨there, -⟩, -⟩)
    · exact absurd rfl opened
    · cases there
  · intro other apart
    match other with
    | 0 => exact Nat.ne_of_beq_eq_false rfl
    | 1 => exact absurd rfl apart
    | 2 => exact Nat.ne_of_beq_eq_false rfl
    | n + 3 => exact Nat.ne_of_beq_eq_false rfl
  · rintro kind t i it ⟨there, -⟩
    cases there
  · exact careful_of_none (by simp) rfl
  · exact careful_of_none (by simp) rfl

/-- The second request has the same token. -/
theorem credential_isolation_shared :
    ((run step (start 1 15000 7000) (sharing [116] [116])).pool.memory 1).param.handshake =
      ((run step (start 1 15000 7000) (sharing [116] [116])).pool.memory 2).param.handshake := by
  refine credential_isolation 1 15000 7000
    (sharing [116] [116] ++ [.pool (.popPrestartedNode 2 .typeAsr)]) ?_ (sharing [116] [116])
    (.popPrestartedNode 2 .typeAsr) .prestarted 2 .typeAsr ⟨[], rfl⟩ rfl (by decide) _ (by decide)
  rw [along_append]
  refine ⟨careful_sharing [116], ?_, trivial⟩
  intro kind request type t i it pop service there take
  obtain ⟨rfl, rfl, rfl⟩ : Kind.prestarted = kind ∧ 2 = request ∧ NlsType.typeAsr = type := by
    simpa [popped] using pop
  obtain rfl := Option.some.inj service
  have one : (run step (start 1 15000 7000) (sharing [116] [116])).pool.size .sr .prestarted = 1 := by
    decide
  have inside := slot_size _ _ _ there
  rw [one] at inside
  obtain rfl : i = 0 := by omega
  have first : ((run step (start 1 15000 7000) (sharing [116] [116])).pool.slot .sr .prestarted
      0).map (·.request) = some 1 := by decide
  rw [there, Option.map_some, Option.some.injEq] at first
  rw [first]
  decide

/-- Two requests that differ in the token only: the second one runs on the first one's
connection. -/
theorem other_token_accepted :
    ¬ (∀ acts a kind request type, popped a = some (kind, request, type) →
      ((run step (start 1 15000 7000) acts).pool.popNode kind request type).2 = true →
      ∀ h, (run step (start 1 15000 7000) acts).auth
          (((run step (start 1 15000 7000) acts).pool.popNode kind request type).1.memory
            request).sslHandle = some h →
        h = ((run step (start 1 15000 7000) acts).pool.memory request).param.handshake) := by
  intro claim
  have same := claim (sharing [97] [98]) (.popPrestartedNode 2 .typeAsr) .prestarted 2 .typeAsr rfl
    (by decide) { url := [], token := [97], apikey := [], httpHeader := [] } (by decide)
  exact absurd same (by decide)

end Authenticated

end NlsSdk.Transport
