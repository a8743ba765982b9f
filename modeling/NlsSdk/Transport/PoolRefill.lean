import NlsSdk.Transport.PoolRegistry

/-!
# The refill of the pool

`preconnectNodeByRequest`: a request like the one that timed out is created,
started, linked and pushed as a preconnected node, or released again.
-/
namespace NlsSdk.Transport

open Library

/-- How the start and the link of the new request come out, and what they leave it with. -/
structure Preconnecting where
  new : NewRequest
  /-- Whether `startInner` came as far as `usePreconnection`. -/
  usePreconnection : Bool
  started : Bool
  linked : Bool
  held : RequestObject := {}
  now : UInt64

/-- The version is passed for the synthesizer only. -/
def createdFrom (new : NewRequest) (old : INlsRequestParam) : NewRequest :=
  { new with param := { new.param with
      mode := old.mode
      sdkName := old.sdkName
      version := if old.mode = .typeTts then old.version else new.param.version } }

namespace ConnectedPool

/-- Push, when the vectors of the service are there or filled first. -/
lemma push_new (s : ConnectedPool) {newRequest : Ptr} {type : NlsType} {t : PoolType}
    (given : newRequest ≠ 0) (service : poolOf type = some t) (now : UInt64) :
    s.pushPreconnectedNode newRequest type true now =
      (s.prepared t type).store .preconnected newRequest t now := by
  unfold pushPreconnectedNode pushNode
  rw [if_neg given, service]
  rfl

/-- A slot of the prepared vectors that points at a request did so before. -/
lemma slot_of_prepared {s : ConnectedPool} {t t' : PoolType} {kind : Kind} {type : NlsType} {i : ℕ}
    {it : ConnectedNodeProcess} (there : (s.prepared t type).slot t' kind i = some it)
    (owned : it.request ≠ 0) : s.slot t' kind i = some it := by
  rcases s.slot_prepared t t' kind type i with same | ⟨-, added⟩
  · rw [← same]
    exact there
  · rw [added, Option.some.injEq] at there
    exact absurd (congrArg ConnectedNodeProcess.request there).symm owned

/-- Making a slot pickable leaves every slot its request. -/
lemma finishPushPreNode_requests (s : ConnectedPool) (type : NlsType) (fd : ℤ) (ssl : Ptr)
    (index : ℤ) (t : PoolType) (kind : Kind) (i : ℕ) :
    ((s.finishPushPreNode type fd ssl index).slot t kind i).map (·.request) =
      (s.slot t kind i).map (·.request) := by
  unfold finishPushPreNode
  cases poolOf type with
  | none => rfl
  | some t' =>
    dsimp only
    cases search : s.findNode t' index.toNat (hasConnection fd ssl) with
    | none => rfl
    | some found =>
      obtain ⟨kind', j, it⟩ := found
      dsimp only
      rw [slot_modifyList, slot_modifySlot]
      split
      · rename_i here
        obtain ⟨rfl, rfl, rfl⟩ := here
        cases s.slot t kind i with
        | none => rfl
        | some it => rfl
      · rfl

/-- A slot that has an owner after a search by handle had it before. -/
lemma slot_of_deletePreNodeBySSL {s : ConnectedPool} {ssl : Ptr} {type : NlsType} {t : PoolType}
    {kind : Kind} {i : ℕ} {it : ConnectedNodeProcess}
    (there : (s.deletePreNodeBySSL ssl type).slot t kind i = some it) (owned : it.request ≠ 0) :
    s.slot t kind i = some it := by
  unfold deletePreNodeBySSL at there
  cases service : poolOf type with
  | none =>
    rw [service] at there
    exact there
  | some t' =>
    rw [service] at there
    dsimp only at there
    cases search : s.findNode t' 0 (fun it => it.sslHandle == ssl) with
    | none =>
      rw [search] at there
      exact there
    | some found =>
      obtain ⟨kind', j, owner⟩ := found
      rw [search] at there
      dsimp only at there
      rw [slot_modifySlot, slot_deleteOwner, slot_deleteOwner] at there
      split at there
      · obtain ⟨_, -, rfl⟩ := Option.map_eq_some_iff.mp there
        exact absurd rfl owned
      · exact there

end ConnectedPool

namespace NlsClientImpl

open ConnectedPool

/-- The new request with the parameters of the old one, started and linked. -/
def startNew (c : NlsClientImpl) (old : INlsRequestParam) (instance_ : Ptr) (o : Preconnecting) :
    NlsClientImpl :=
  let c := c.createRequest (createdFrom o.new old) instance_ false
  { c with
    isUsingPreconnection :=
      Function.update c.isUsingPreconnection o.new.request o.usePreconnection
    preconnectedPool := c.preconnectedPool.setMemory o.new.request fun created =>
      { o.held with param := created.param.assign old } }

/-- The request is pushed, and made pickable or deleted from the pool again. -/
def insertNew (c : NlsClientImpl) (newRequest : Ptr) (type : NlsType) (now : UInt64) :
    NlsClientImpl :=
  let (pool, result) := c.preconnectedPool.pushPreconnectedNode newRequest type true now
  let c := c.withPool pool
  let node := pool.memory newRequest
  if result then
    c.withPool (pool.finishPushPreNode type node.socketFd node.sslHandle node.poolIndex)
  else c.withPool (pool.deletePreNodeBySSL node.sslHandle type)

/-- The parameters of a request. -/
def param (c : NlsClientImpl) (request : Ptr) : INlsRequestParam :=
  (c.preconnectedPool.memory request).param

/-- A request of another service creates nothing, and neither does one that cannot be
registered. -/
def Creates (c : NlsClientImpl) (request instance_ : Ptr) (o : Preconnecting) : Prop :=
  request ≠ 0 ∧ poolOf (c.param request).mode ≠ none ∧
    (c.register (createdFrom o.new (c.param request)) instance_).2 = .ok 0

instance (c : NlsClientImpl) (request instance_ : Ptr) (o : Preconnecting) :
    Decidable (c.Creates request instance_ o) :=
  inferInstanceAs (Decidable (_ ∧ _ ∧ _))

def preconnectNodeByRequest (c : NlsClientImpl) (request instance_ : Ptr) (o : Preconnecting) :
    NlsClientImpl :=
  if c.Creates request instance_ o then
    let type := (c.param request).mode
    let started := c.startNew (c.param request) instance_ o
    if o.started ∧ o.linked then started.insertNew o.new.request type o.now
    else started.releaseRequestImpl o.new.request instance_
  else c

/-! ## What becomes of the request -/

/-- The slot at the place points at the request. -/
def PointsAt (c : NlsClientImpl) (request : Ptr) (place : PoolType × Kind × ℕ) : Prop :=
  ∃ it, c.preconnectedPool.slot place.1 place.2.1 place.2.2 = some it ∧ it.request = request

/-- Exactly one slot points at the request, or it is deleted and it and its node are not registered
any more. -/
def Accounted (c : NlsClientImpl) (new : NewRequest) : Prop :=
  (∃! place, c.PointsAt new.request place) ∨
    (¬ c.Exists new.request ∧ c.Unregistered new.request ∧
      c.nodeManager.requestListByNode new.node = none)

/-- A request that is created is accounted for when the function returns. -/
def Conserves (c : NlsClientImpl) (request instance_ : Ptr) (o : Preconnecting) : Prop :=
  c.Creates request instance_ o →
    (c.preconnectNodeByRequest request instance_ o).Accounted o.new

/-- The connection is there, and no slot of the preconnected vector can take it. -/
def Refused (c : NlsClientImpl) (request : Ptr) (o : Preconnecting) : Prop :=
  (o.started = true ∧ o.linked = true) ∧
    ∀ t, poolOf (c.param request).mode = some t → ∀ i it,
      (c.preconnectedPool.prepared t (c.param request).mode).slot t .preconnected i = some it →
        isFree it = false

variable {c : NlsClientImpl} {request instance_ : Ptr} {o : Preconnecting}

lemma not_exists_withPool {pool : ConnectedPool} (gone : ¬ c.Exists request) :
    ¬ (c.withPool pool).Exists request := by
  rw [exists_withPool]
  exact fun exists_ => gone exists_.1

lemma not_owns_iff : ¬ c.preconnectedPool.Owns request ↔ ∀ place, ¬ c.PointsAt request place := by
  unfold Owns PointsAt
  push Not
  exact ⟨fun none_ place => none_ place.1 place.2.1 place.2.2, fun none_ t kind i => none_ (t, kind, i)⟩

/-- Where the slots own requests that exist, `new` returns an address that no slot points at. -/
lemma Registry.unowned (good : c.Registry) (given : request ≠ 0) (unused : ¬ c.Exists request) :
    ¬ c.preconnectedPool.Owns request := by
  rintro ⟨t, kind, i, it, there, rfl⟩
  exact unused (good.owned.live t kind i it there given)

/-! ## The release -/

lemma leavePool_nodeManager (c : NlsClientImpl) (request : Ptr) (held : RequestObject)
    (inPool abnormal : Bool) :
    (c.leavePool request held inPool abnormal).nodeManager = c.nodeManager := by
  unfold leavePool
  split
  · split
    · rfl
    · rfl
  · rfl

lemma leavePool_gone {held : RequestObject} {inPool abnormal : Bool} {other : Ptr}
    (gone : ¬ c.Exists other) : ¬ (c.leavePool request held inPool abnormal).Exists other := by
  unfold leavePool
  split
  · split
    · exact not_exists_withPool gone
    · exact not_exists_withPool gone
  · exact not_exists_withPool gone

/-- A request is left to the pool only where a slot points at it. -/
lemma inPool_points (inPool : (c.sslBelongToPool request).2.2 = true) :
    ∃ place, c.PointsAt request place := by
  unfold sslBelongToPool ConnectedPool.sslBelongToPool at inPool
  dsimp only at inPool
  split_ifs at inPool
  split at inPool
  · rename_i kind i it search
    obtain ⟨t, -, found⟩ := Option.bind_eq_some_iff.mp search
    exact ⟨⟨t, kind, i⟩, it, (findNode_found found).1, (beq_iff_eq.mp inPool).symm⟩
  · cases inPool

/-- A registered request to which no slot points is deleted with its entries. -/
lemma releaseRequest_accounts {new : NewRequest} {status : NodeStatus}
    (node : c.memory.getConnectNode new.request = new.node) (some_ : new.node ≠ 0)
    (known : ∃ info, c.nodeManager.infoByRequest new.request = some info ∧ info.node = new.node)
    (check : c.nodeManager.checkRequestExist c.memory new.request = .ok status)
    (outside : ∀ place, ¬ c.PointsAt new.request place) :
    (c.releaseRequest new.request).Accounted new := by
  obtain ⟨given, -⟩ := check_known check
  have out : (c.sslBelongToPool new.request).2.2 = false := by
    cases inPool : (c.sslBelongToPool new.request).2.2 with
    | false => rfl
    | true =>
      obtain ⟨place, points⟩ := inPool_points inPool
      exact absurd points (outside place)
  rw [releaseRequest_known (node.trans_ne some_) check, out]
  refine .inr ⟨leavePool_gone ?_, ?_, ?_⟩
  · unfold deleteUnless
    rw [if_neg (by simp), exists_withPool, perished_deleteRequest]
    rintro ⟨-, kept⟩
    exact kept (List.mem_cons_self ..)
  · rw [Unregistered, leavePool_nodeManager]
    exact forget_unregistered given
  · obtain ⟨info, known, own⟩ := known
    rw [leavePool_nodeManager, ← own]
    simp only [deleteUnless, forget, NlsNodeManager.removeRequestFromInfo, if_neg given, known]
    exact Function.update_self ..

/-! ## The creation -/

/-- What a registration that succeeds leaves. -/
lemma register_ok {new : NewRequest} {k : ℕ} (ok : (c.register new instance_).2 = .ok k) :
    instance_ ≠ 0 ∧ new.request ≠ 0 ∧ new.node ≠ 0 ∧
      (c.register new instance_).1.infoByRequest new.request =
        some (NlsNodeManager.newInfo (c.memory.construct new) new.request instance_) ∧
      (c.register new instance_).1.requestListByNode new.node ≠ none := by
  have node : (c.memory.construct new).getConnectNode new.request = new.node :=
    Function.update_self ..
  have info : (c.register new instance_).1.infoByRequest new.request =
      some (NlsNodeManager.newInfo (c.memory.construct new) new.request instance_) := by
    rw [register, add_ok ok, Function.update_self]
  refine ⟨?_, ?_, ?_, info, ?_⟩
  · rintro rfl
    cases ok
  · intro null
    simp only [register, NlsNodeManager.addRequestIntoInfoWithInstance, null] at ok
    split at ok
    · cases ok
    · cases ok
  · intro null
    simp only [register, NlsNodeManager.addRequestIntoInfoWithInstance, node, null] at ok
    split_ifs at ok
  · unfold register NlsNodeManager.addRequestIntoInfoWithInstance at ok ⊢
    dsimp only at ok ⊢
    split_ifs at ok ⊢
    cases known : c.nodeManager.infoByRequest new.request with
    | none =>
      dsimp only
      rw [node]
      cases listed : c.nodeManager.requestListByNode new.node with
      | none => simp
      | some other => simp [listed]
    | some old =>
      rw [known] at ok
      dsimp only at ok ⊢
      split_ifs at ok ⊢
      simp [node]

/-- What the new request is when it is started. -/
lemma startNew_eq (creates : c.Creates request instance_ o) :
    c.startNew (c.param request) instance_ o =
      { c.enroll (createdFrom o.new (c.param request)) instance_ false with
        isUsingPreconnection :=
          Function.update (Function.update c.isUsingPreconnection o.new.request false) o.new.request
            o.usePreconnection
        preconnectedPool :=
          (c.preconnectedPool.setMemory o.new.request fun _ =>
            (createdFrom o.new (c.param request)).object).setMemory o.new.request fun created =>
              { o.held with param := created.param.assign (c.param request) } } := by
  unfold startNew createRequest
  rw [creates.2.2]
  rfl

lemma pointsAt_startNew (creates : c.Creates request instance_ o) {place : PoolType × Kind × ℕ} :
    (c.startNew (c.param request) instance_ o).PointsAt o.new.request place ↔
      c.PointsAt o.new.request place := by
  rw [startNew_eq creates]
  rfl

lemma exists_startNew (creates : c.Creates request instance_ o) :
    (c.startNew (c.param request) instance_ o).Exists o.new.request := by
  rw [startNew_eq creates]
  exact Function.update_self ..

/-- Both checks of a release find a request that was just registered. -/
lemma registered_checks {new : NewRequest} {k : ℕ}
    (ok : (c.register new instance_).2 = .ok k) :
    (c.register new instance_).1.checkRequestWithInstance (c.memory.construct new) new.request
        instance_ = .ok 0 ∧
      (c.register new instance_).1.checkRequestExist (c.memory.construct new) new.request =
        .ok .nodeStatusCreated := by
  obtain ⟨client, given, node, known, listed⟩ := register_ok ok
  have own : (c.memory.construct new).getConnectNode new.request = new.node :=
    Function.update_self ..
  unfold NlsNodeManager.checkRequestWithInstance NlsNodeManager.checkRequestExist
  rw [if_neg client, if_neg given, if_neg given, known]
  simp [NlsNodeManager.newInfo, own, listed]

lemma releaseOwnRequest_of {k : ℕ}
    (own : c.nodeManager.checkRequestWithInstance c.memory request instance_ = .ok k) :
    c.releaseOwnRequest request instance_ = c.releaseRequest request := by
  unfold releaseOwnRequest
  rw [own]

/-- A request that is not started or not linked is released. -/
lemma release_accounts (creates : c.Creates request instance_ o)
    (outside : ∀ place, ¬ c.PointsAt o.new.request place) :
    ((c.startNew (c.param request) instance_ o).releaseRequestImpl o.new.request
      instance_).Accounted o.new := by
  obtain ⟨client, given, node, known, listed⟩ := register_ok creates.2.2
  obtain ⟨own, exists_⟩ := registered_checks creates.2.2
  have unheld (place) : ¬ (c.startNew (c.param request) instance_ o).PointsAt o.new.request place :=
    fun points => outside place ((pointsAt_startNew creates).mp points)
  rw [startNew_eq creates] at unheld ⊢
  unfold releaseRequestImpl
  rw [releaseOwnRequest_of own]
  refine releaseRequest_accounts ?_ node ⟨_, known, ?_⟩ exists_ unheld
  · exact Function.update_self ..
  · exact Function.update_self ..

/-! ## The insertion -/

/-- The vectors a push works with do not depend on the new request. -/
lemma prepared_startNew (creates : c.Creates request instance_ o) (t : PoolType) (type : NlsType) :
    ((c.startNew (c.param request) instance_ o).preconnectedPool.prepared t type).nodes =
      (c.preconnectedPool.prepared t type).nodes := by
  rw [startNew_eq creates]
  unfold prepared
  by_cases unfilled : c.preconnectedPool.Unfilled t
  · rw [if_pos unfilled, if_pos (by exact unfilled)]
    rfl
  · rw [if_neg unfilled, if_neg (by exact unfilled)]
    rfl

lemma pointsAt_iff {place : PoolType × Kind × ℕ} : c.PointsAt request place ↔
    (c.preconnectedPool.slot place.1 place.2.1 place.2.2).map (·.request) = some request := by
  rw [PointsAt, Option.map_eq_some_iff]

/-- A request that is in no slot is neither put into one nor deleted by the search for its
handle. -/
lemma deletePreNodeBySSL_leaves (exists_ : c.Exists request) (given : request ≠ 0)
    (outside : ∀ place, ¬ c.PointsAt request place) (ssl : Ptr) (type : NlsType) :
    (c.withPool (c.preconnectedPool.deletePreNodeBySSL ssl type)).Exists request ∧
      ∀ place, ¬ (c.withPool (c.preconnectedPool.deletePreNodeBySSL ssl type)).PointsAt request
        place := by
  constructor
  · rw [exists_withPool]
    refine ⟨exists_, fun gone => ?_⟩
    obtain ⟨t, kind, i, it, erased, own⟩ :=
      deletedBy_of_perished (a := .deletePreNodeBySSL ssl type) gone
    exact outside ⟨t, kind, i⟩ ⟨it, erased.there, own⟩
  · rintro place ⟨it, there, own⟩
    exact outside place ⟨it, slot_of_deletePreNodeBySSL there (own.trans_ne given), own⟩

/-- Where no slot is free the request stays, and nothing points at it. -/
lemma insertNew_full {type : NlsType} {t : PoolType} (service : poolOf type = some t)
    (full : firstFrom isFree 0
      ((c.preconnectedPool.prepared t type).nodes t .preconnected).requests = none)
    (exists_ : c.Exists request) (given : request ≠ 0)
    (outside : ∀ place, ¬ c.PointsAt request place) (now : UInt64) :
    (c.insertNew request type now).Exists request ∧
      ∀ place, ¬ (c.insertNew request type now).PointsAt request place := by
  have push : c.preconnectedPool.pushPreconnectedNode request type true now =
      (c.preconnectedPool.prepared t type, false) := by
    rw [push_new _ given service]
    unfold store
    rw [full]
  unfold insertNew
  rw [push]
  refine deletePreNodeBySSL_leaves (c := c.withPool (c.preconnectedPool.prepared t type)) ?_ given
    ?_ _ type
  · rw [exists_withPool, perished, prepared_deleted, List.drop_length]
    exact ⟨exists_, List.not_mem_nil⟩
  · rintro place ⟨it, there, own⟩
    exact outside place ⟨it, slot_of_prepared there (own.trans_ne given), own⟩

/-- The first free slot takes the request. -/
lemma insertNew_stored {type : NlsType} {t : PoolType} {index : ℕ} {free : ConnectedNodeProcess}
    (service : poolOf type = some t)
    (found : firstFrom isFree 0
      ((c.preconnectedPool.prepared t type).nodes t .preconnected).requests = some (index, free))
    (given : request ≠ 0) (outside : ∀ place, ¬ c.PointsAt request place) (now : UInt64) :
    ∃! place, (c.insertNew request type now).PointsAt request place := by
  have push : (c.preconnectedPool.pushPreconnectedNode request type true now).2 = true ∧
      ∀ t' kind i, (c.preconnectedPool.pushPreconnectedNode request type true now).1.slot t' kind i =
        if t' = t ∧ kind = .preconnected ∧ i = index then
          some ((c.preconnectedPool.prepared t type).stored .preconnected request now free)
        else (c.preconnectedPool.prepared t type).slot t' kind i := by
    rw [push_new _ given service]
    unfold store
    rw [found]
    refine ⟨rfl, fun t' kind i => ?_⟩
    have there := (free_found found).1
    refine Eq.trans (slot_modifySlot ..) ?_
    rw [there]
    rfl
  obtain ⟨result, slots⟩ := push
  have after (place) : (c.insertNew request type now).PointsAt request place ↔
      place = (t, .preconnected, index) := by
    obtain ⟨t', kind, i⟩ := place
    rw [pointsAt_iff]
    unfold insertNew
    dsimp only
    rw [if_pos result]
    refine (Eq.congr_left (finishPushPreNode_requests ..)).trans ?_
    rw [slots]
    split
    · rename_i here
      obtain ⟨rfl, rfl, rfl⟩ := here
      simp [stored]
    · rename_i other
      refine iff_of_false (fun own => ?_) (fun same => ?_)
      · obtain ⟨it, there, own⟩ := Option.map_eq_some_iff.mp own
        exact outside (t', kind, i) ⟨it, slot_of_prepared there (own.trans_ne given), own⟩
      · cases same
        exact other ⟨rfl, rfl, rfl⟩
  exact ⟨(t, .preconnected, index), (after _).mpr rfl, fun place points => (after place).mp points⟩

/-- The refill conserves its request exactly when it is not refused: whenever the new request
starts and links, the preconnected vector of its service has a free slot. The address that `new`
returns is not one that a slot points at. -/
theorem preconnect_conserves_iff (c : NlsClientImpl) (request instance_ : Ptr) (o : Preconnecting)
    (unowned : ¬ c.preconnectedPool.Owns o.new.request) :
    c.Conserves request instance_ o ↔
      (c.Creates request instance_ o → ¬ c.Refused request o) := by
  have outside := not_owns_iff.mp unowned
  refine imp_congr_right fun creates => ?_
  have given : o.new.request ≠ 0 := (register_ok creates.2.2).2.1
  have unheld (place) : ¬ (c.startNew (c.param request) instance_ o).PointsAt o.new.request place :=
    fun points => outside place ((pointsAt_startNew creates).mp points)
  unfold preconnectNodeByRequest
  rw [if_pos creates]
  dsimp only
  by_cases connected : o.started = true ∧ o.linked = true
  · rw [if_pos connected]
    obtain ⟨t, service⟩ := Option.ne_none_iff_exists'.mp creates.2.1
    have same := congrFun (congrFun (prepared_startNew creates t (c.param request).mode) t)
      .preconnected
    cases search : firstFrom isFree 0
        ((c.preconnectedPool.prepared t (c.param request).mode).nodes t .preconnected).requests with
    | none =>
      obtain ⟨exists_, unpointed⟩ := insertNew_full service (same ▸ search)
        (exists_startNew creates) given unheld o.now
      refine iff_of_false ?_ (not_not.mpr ⟨connected, fun t' service' i it there => ?_⟩)
      · rintro (⟨place, points, -⟩ | ⟨gone, -⟩)
        · exact unpointed place points
        · exact gone exists_
      · obtain rfl := Option.some.inj (service.symm.trans service')
        by_contra free
        exact firstFrom_eq_none.mp search i (Nat.zero_le i) ⟨it, there, by simpa using free⟩
    | some found =>
      obtain ⟨index, it⟩ := found
      refine iff_of_true (.inl ?_) ?_
      · exact insertNew_stored service (same ▸ search) given unheld o.now
      · rintro ⟨-, full⟩
        obtain ⟨there, free⟩ := free_found search
        rw [full t service index it there] at free
        cases free
  · rw [if_neg connected]
    exact iff_of_true (release_accounts creates outside) fun refused => connected refused.1

/-! ## A pool whose only preconnected node times out -/

/-- The recognizer's connection is pushed, not used for half a minute, and taken for its
release. -/
def timedOut : List ClientAction :=
  [.createRequest asr 5 true, .pool (.pushPreconnectedNode 1 .typeAsr true 0),
    .pool (.connectPoolEventCallback fun _ _ _ => ⟨30000, true⟩),
    .pool (.beginRelease .sr .preconnected 0)]

/-- The new request starts and links. -/
def refilled : Preconnecting where
  new := { request := 7, node := 8, sslHandle := 9 }
  usePreconnection := true
  started := true
  linked := true
  held := { socketFd := 4, sslHandle := 9, nativeSslHandle := 9 }
  now := 30000

lemma not_owns_of_requests {s : ConnectedPool}
    (none_ : ∀ t kind, request ∉ (s.nodes t kind).requests.map (·.request)) : ¬ s.Owns request := by
  rintro ⟨t, kind, i, it, there, own⟩
  exact none_ t kind (List.mem_map.mpr ⟨it, List.mem_of_getElem? there, own⟩)

lemma timedOut_unowned (maxNumber : ℕ) (small : maxNumber = 1 ∨ maxNumber = 2) :
    ¬ (run step (new maxNumber 30000 30000) timedOut).preconnectedPool.Owns refilled.new.request := by
  refine not_owns_of_requests fun t kind => ?_
  rcases small with rfl | rfl
  · cases t <;> cases kind <;> decide
  · cases t <;> cases kind <;> decide

/-- With a vector of one slot the old request is still in it when the new one is pushed: the new
one exists, is registered, and is in no slot. -/
theorem refused_request_leaked :
    ¬ (run step (new 1 30000 30000) timedOut).Conserves 1 5 refilled := by
  intro conserves
  have creates : (run step (new 1 30000 30000) timedOut).Creates 1 5 refilled := by decide
  have lost := @insertNew_full (startNew (run step (new 1 30000 30000) timedOut)
    ((run step (new 1 30000 30000) timedOut).param 1) 5 refilled) refilled.new.request
    .typeAsr .sr rfl (by decide) (exists_startNew creates) (by decide)
    (fun place points => not_owns_iff.mp (timedOut_unowned 1 (.inl rfl)) place
      ((pointsAt_startNew creates).mp points)) refilled.now
  have accounted := conserves creates
  unfold preconnectNodeByRequest at accounted
  rw [if_pos creates] at accounted
  rcases accounted with ⟨place, points, -⟩ | ⟨gone, -⟩
  · exact lost.2 place points
  · exact gone lost.1

/-- With two slots it is conserved. -/
theorem preconnect_conserves_timedOut :
    (run step (new 2 30000 30000) timedOut).Conserves 1 5 refilled := by
  refine (preconnect_conserves_iff _ 1 5 refilled (timedOut_unowned 2 (.inr rfl))).mpr ?_
  rintro - ⟨-, full⟩
  have used := full .sr rfl 1 (fresh .typeAsr) rfl
  cases used

end NlsClientImpl

end NlsSdk.Transport
