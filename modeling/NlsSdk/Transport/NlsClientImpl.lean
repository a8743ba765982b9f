import NlsSdk.Transport.PoolOwners

/-!
# The client

`NlsClientImpl`: the requests the user creates and releases and those the pool
creates for itself, over the node manager and the pool. What exists and what
the user still holds is kept beside the fields of the source.
-/
namespace NlsSdk.Transport

open Library

structure NlsClientImpl where
  nodeManager : NlsNodeManager := {}
  preconnectedPool : ConnectedPool
  memory : Memory := ⟨fun _ => 0, fun _ => 0, fun _ => []⟩
  isUsingPreconnection : Ptr → Bool := fun _ => false
  /-- The requests and SSL handles that exist. -/
  live : Ptr → Bool := fun _ => false
  liveHandles : Ptr → Bool := fun _ => false
  /-- The requests the user has created and not yet passed to a release. -/
  held : Ptr → Bool := fun _ => false

/-- What `new` returns: the addresses of the request, its node and its SSL handle. -/
structure NewRequest where
  request : Ptr
  node : Ptr
  sslHandle : Ptr
  uuid : Bytes := []
  param : INlsRequestParam := {}
  deriving DecidableEq, Repr

/-- The constructors run before the request is registered. -/
def Memory.construct (memory : Memory) (new : NewRequest) : Memory where
  getConnectNode := Function.update memory.getConnectNode new.request new.node
  getRequest := Function.update memory.getRequest new.node new.request
  getNodeUUID := Function.update memory.getNodeUUID new.node new.uuid

/-- The part of them that the pool reads. -/
def NewRequest.object (new : NewRequest) : RequestObject where
  param := new.param
  sslHandle := new.sslHandle
  nativeSslHandle := new.sslHandle

namespace NlsClientImpl

/-- The entries of the log after an earlier state. -/
def perished (before after : ConnectedPool) : List Deletion :=
  after.deleted.drop before.deleted.length

/-- The pool has changed, and what it has deleted does not exist any more. -/
def withPool (c : NlsClientImpl) (pool : ConnectedPool) : NlsClientImpl :=
  { c with
    preconnectedPool := pool
    live := fun request =>
      c.live request && !(perished c.preconnectedPool pool).contains (.request request)
    liveHandles := fun sslHandle =>
      c.liveHandles sslHandle && !(perished c.preconnectedPool pool).contains (.ssl sslHandle) }

/-- What registering the new request returns. -/
def register (c : NlsClientImpl) (new : NewRequest) (instance_ : Ptr) : NlsNodeManager × Ret :=
  c.nodeManager.addRequestIntoInfoWithInstance (c.memory.construct new) new.request instance_

/-- The request exists and is registered. -/
def enroll (c : NlsClientImpl) (new : NewRequest) (instance_ : Ptr) (byUser : Bool) :
    NlsClientImpl where
  nodeManager := (c.register new instance_).1
  preconnectedPool := c.preconnectedPool.setMemory new.request fun _ => new.object
  memory := c.memory.construct new
  isUsingPreconnection := Function.update c.isUsingPreconnection new.request false
  live := Function.update c.live new.request true
  liveHandles := Function.update c.liveHandles new.sslHandle true
  held := Function.update c.held new.request byUser

/-- `createRecognizerRequestImpl` and its siblings: a request that cannot be registered is deleted
at once. The pool creates requests in the same way, which no user holds. -/
def createRequest (c : NlsClientImpl) (new : NewRequest) (instance_ : Ptr) (byUser : Bool) :
    NlsClientImpl :=
  match (c.register new instance_).2 with
  | .error _ => c
  | .ok _ => c.enroll new instance_ byUser

/-- `sslInConnectedPool`, `oriRequestIsAbnormal` and `requestInPool`. -/
def sslBelongToPool (c : NlsClientImpl) (request : Ptr) : Bool × Bool × Bool :=
  if c.isUsingPreconnection request then
    c.preconnectedPool.sslBelongToPool request (c.preconnectedPool.memory request).param.mode
  else (false, false, false)

/-- The request is deleted, unless it is left to the pool. -/
def deleteUnless (c : NlsClientImpl) (request : Ptr) (requestInPool : Bool) : NlsClientImpl :=
  if requestInPool then c else c.withPool (c.preconnectedPool.deleteRequest request)

/-- The last part of `releaseRequest`; `held` is what the request held. -/
def leavePool (c : NlsClientImpl) (request : Ptr) (held : RequestObject)
    (sslInConnectedPool oriRequestIsAbnormal : Bool) : NlsClientImpl :=
  if sslInConnectedPool then
    if oriRequestIsAbnormal then
      c.withPool (c.preconnectedPool.deletePreNodeBySSL held.sslHandle held.param.mode)
    else
      c.withPool (c.preconnectedPool.finishPushPreNode held.param.mode held.socketFd held.sslHandle
        held.poolIndex)
  else c.withPool (c.preconnectedPool.deletePreNodeByRequest request held.param.mode)

def releaseRequest (c : NlsClientImpl) (request : Ptr) : NlsClientImpl :=
  if request = 0 ∨ c.memory.getConnectNode request = 0 then c
  else match c.nodeManager.checkRequestExist c.memory request with
    | .error _ => c
    | .ok _ =>
      let (sslInConnectedPool, oriRequestIsAbnormal, requestInPool) := c.sslBelongToPool request
      match c.nodeManager.removeRequestFromInfo request with
      | (nodeManager, .error _) =>
        { c with nodeManager := nodeManager }.leavePool request (c.preconnectedPool.memory request)
          sslInConnectedPool oriRequestIsAbnormal
      | (nodeManager, .ok _) =>
        ({ c with nodeManager := nodeManager }.deleteUnless request requestInPool).leavePool request
          (c.preconnectedPool.memory request) sslInConnectedPool oriRequestIsAbnormal

/-- A request of another client stays. -/
def releaseOwnRequest (c : NlsClientImpl) (request instance_ : Ptr) : NlsClientImpl :=
  match c.nodeManager.checkRequestWithInstance c.memory request instance_ with
  | .error _ => c
  | .ok _ => c.releaseRequest request

/-- `releaseRecognizerRequestImpl` and its siblings; `cancel` has been called. The user does not
hold the request any more. -/
def releaseRequestImpl (c : NlsClientImpl) (request instance_ : Ptr) : NlsClientImpl :=
  { c with held := Function.update c.held request false }.releaseOwnRequest request instance_

def updateNodeStatus (c : NlsClientImpl) (node : Ptr) (status : NodeStatus) : NlsClientImpl :=
  { c with nodeManager := (c.nodeManager.updateNodeStatus c.memory node status).1 }

end NlsClientImpl

/-! ## Runs -/

/-- What the user, the work threads and the pool do. -/
inductive ClientAction
  | createRequest (new : NewRequest) (instance_ : Ptr) (byUser : Bool)
  | usePreconnection (request : Ptr) (usePreconnection : Bool)
  | updateNodeStatus (node : Ptr) (status : NodeStatus)
  | releaseRequest (request instance_ : Ptr)
  | pool (a : PoolAction)

def NlsClientImpl.step (c : NlsClientImpl) : ClientAction → NlsClientImpl
  | .createRequest new instance_ byUser => c.createRequest new instance_ byUser
  | .usePreconnection request value =>
    { c with isUsingPreconnection := Function.update c.isUsingPreconnection request value }
  | .updateNodeStatus node status => c.updateNodeStatus node status
  | .releaseRequest request instance_ => c.releaseRequestImpl request instance_
  | .pool a => c.withPool (c.preconnectedPool.step a)

/-- A client with a pool and no requests. -/
def NlsClientImpl.new (maxNumber : ℕ) (timeoutMs requestedTimeoutMs : UInt32) : NlsClientImpl where
  preconnectedPool := .new maxNumber timeoutMs requestedTimeoutMs

namespace NlsClientImpl

open ConnectedPool

variable {c : NlsClientImpl} {request : Ptr}

/-! ## What exists -/

def Exists (c : NlsClientImpl) (request : Ptr) : Prop := c.live request = true

lemma exists_withPool {pool : ConnectedPool} : (c.withPool pool).Exists request ↔
    c.Exists request ∧ .request request ∉ perished c.preconnectedPool pool := by
  simp [Exists, withPool]

/-- What a step of the pool has deleted. -/
lemma deletedBy_of_perished {s : ConnectedPool} {a : PoolAction}
    (gone : .request request ∈ perished s (s.step a)) : s.DeletedBy a request := by
  unfold perished at gone
  rcases s.step_deleted a with same | ⟨t, kind, i, it, popper, -, added⟩ |
    ⟨t, kind, i, it, erased, added⟩
  · rw [same, List.drop_length] at gone
    cases gone
  · rw [added, List.drop_left, oldDeletions] at gone
    split at gone
    · cases gone
    · simp at gone
  · rw [added, List.drop_left, requestDeletions] at gone
    refine ⟨t, kind, i, it, erased, ?_⟩
    rcases List.mem_cons.mp gone with same | later
    · exact (Deletion.request.inj same).symm
    · split at later
      · simp at later
      · cases later

lemma perished_deleteRequest (s : ConnectedPool) (request : Ptr) :
    perished s (s.deleteRequest request) = s.requestDeletions request := by
  unfold perished deleteRequest ConnectedPool.delete requestDeletions
  dsimp only
  rw [List.drop_left]

lemma exists_enroll {new : NewRequest} {instance_ : Ptr} {byUser : Bool} :
    (c.enroll new instance_ byUser).Exists request ↔ request = new.request ∨ c.Exists request := by
  by_cases same : request = new.request
  · simp [Exists, enroll, same]
  · simp [Exists, enroll, same]

/-! ## The parts of a release -/

lemma check_known {m : NlsNodeManager} {memory : Memory} {status : NodeStatus}
    (check : m.checkRequestExist memory request = .ok status) :
    request ≠ 0 ∧ ∃ info, m.infoByRequest request = some info := by
  unfold NlsNodeManager.checkRequestExist at check
  split at check
  · cases check
  · rename_i some_
    split at check
    · rename_i info known
      exact ⟨some_, info, known⟩
    · cases check

lemma sslBelongToPool_inPool (inPool : (c.sslBelongToPool request).2.2 = true) :
    (c.sslBelongToPool request).1 = true := by
  unfold sslBelongToPool ConnectedPool.sslBelongToPool at inPool ⊢
  dsimp only at inPool ⊢
  split_ifs at inPool ⊢
  split at inPool
  · rfl
  · cases inPool

/-- The entry of a request is taken out. -/
def forget (c : NlsClientImpl) (request : Ptr) : NlsClientImpl :=
  { c with nodeManager := (c.nodeManager.removeRequestFromInfo request).1 }

/-- The release of a request that is registered. -/
lemma releaseRequest_known {status : NodeStatus} (node : c.memory.getConnectNode request ≠ 0)
    (check : c.nodeManager.checkRequestExist c.memory request = .ok status) :
    c.releaseRequest request =
      ((c.forget request).deleteUnless request (c.sslBelongToPool request).2.2).leavePool request
        (c.preconnectedPool.memory request) (c.sslBelongToPool request).1
        (c.sslBelongToPool request).2.1 := by
  obtain ⟨given, info, known⟩ := check_known check
  have removed : c.nodeManager.removeRequestFromInfo request =
      ((c.nodeManager.removeRequestFromInfo request).1, .ok 0) := by
    simp only [NlsNodeManager.removeRequestFromInfo, if_neg given, known]
  unfold releaseRequest
  rw [if_neg (not_or.mpr ⟨given, node⟩), check]
  dsimp only
  rw [removed]
  rfl

/-- A release does nothing, or takes the request out and leaves the pool. -/
lemma releaseRequest_cases (c : NlsClientImpl) (request : Ptr) :
    c.releaseRequest request = c ∨
      request ≠ 0 ∧
      (∃ status, c.nodeManager.checkRequestExist c.memory request = .ok status) ∧
      c.releaseRequest request =
        ((c.forget request).deleteUnless request (c.sslBelongToPool request).2.2).leavePool request
          (c.preconnectedPool.memory request) (c.sslBelongToPool request).1
          (c.sslBelongToPool request).2.1 := by
  by_cases null : request = 0 ∨ c.memory.getConnectNode request = 0
  · left
    unfold releaseRequest
    rw [if_pos null]
  · obtain ⟨given, node⟩ := not_or.mp null
    cases check : c.nodeManager.checkRequestExist c.memory request with
    | error code =>
      left
      unfold releaseRequest
      rw [if_neg null, check]
    | ok status => exact .inr ⟨given, ⟨status, rfl⟩, releaseRequest_known node check⟩

/-- The request may be taken from its slot before it is deleted. -/
lemma delete_then_leave (c : NlsClientImpl) (request : Ptr) (type : NlsType) :
    (c.withPool (c.preconnectedPool.deleteRequest request)).withPool
        ((c.preconnectedPool.deleteRequest request).deletePreNodeByRequest request type) =
      (c.withPool (c.preconnectedPool.deletePreNodeByRequest request type)).withPool
        ((c.preconnectedPool.deletePreNodeByRequest request type).deleteRequest request) := by
  have commute : (c.preconnectedPool.deleteRequest request).deletePreNodeByRequest request type =
      (c.preconnectedPool.deletePreNodeByRequest request type).deleteRequest request := by
    unfold deletePreNodeByRequest
    cases poolOf type with
    | none => rfl
    | some t =>
      have same : (c.preconnectedPool.deleteRequest request).findNode t 0
          (fun it => request == it.request) =
        c.preconnectedPool.findNode t 0 (fun it => request == it.request) := rfl
      dsimp only
      rw [same]
      cases c.preconnectedPool.findNode t 0 (fun it => request == it.request) with
      | none => rfl
      | some place => rfl
  have kept : (c.preconnectedPool.deletePreNodeByRequest request type).deleted =
        c.preconnectedPool.deleted ∧
      (c.preconnectedPool.deletePreNodeByRequest request type).memory =
        c.preconnectedPool.memory := by
    unfold deletePreNodeByRequest
    split
    · exact ⟨rfl, rfl⟩
    · split
      · exact ⟨rfl, rfl⟩
      · exact ⟨rfl, rfl⟩
  have none_ : perished c.preconnectedPool
      (c.preconnectedPool.deletePreNodeByRequest request type) = [] := by
    rw [perished, kept.1, List.drop_length]
  have same : (c.preconnectedPool.deletePreNodeByRequest request type).requestDeletions request =
      c.preconnectedPool.requestDeletions request := by
    rw [requestDeletions, kept.2, requestDeletions]
  have later : perished (c.preconnectedPool.deleteRequest request)
      ((c.preconnectedPool.deletePreNodeByRequest request type).deleteRequest request) = [] := by
    rw [← commute, perished]
    have : ((c.preconnectedPool.deleteRequest request).deletePreNodeByRequest request type).deleted =
        (c.preconnectedPool.deleteRequest request).deleted := by
      rw [commute]
      unfold deleteRequest ConnectedPool.delete
      dsimp only
      rw [kept.1, kept.2]
    rw [this, List.drop_length]
  unfold withPool
  dsimp only
  rw [commute, later, none_, perished_deleteRequest, perished_deleteRequest, same]
  simp

end NlsClientImpl

end NlsSdk.Transport
