import NlsSdk.Library.Mutex
import NlsSdk.Library.Run
import NlsSdk.Transport.ConnectedPool

/-!
# The lock of the pool

The operations of the pool with the places where they take and release `_lock`,
exit by exit. What they do to the pool is what `ConnectedPool` says; here it is
shown that every one of them but `stopConnectedPool` leaves the lock free.
-/
namespace NlsSdk.Transport

open Library

/-- The pool with its events and the calls that were made on `_lock`. -/
structure LockedPool where
  pool : ConnectedPool
  calls : List MutexCall := []
  /-- `_connectPoolEvent != NULL` -/
  connectPoolEvent : Bool := true
  connectPoolTimerFlag : Bool := true
  /-- `_nodeReleaseEvent != NULL` -/
  nodeReleaseEvent : Bool := true
  /-- the loop of the pool's thread has not been told to end -/
  dispatching : Bool := true

/-- How the client finds a request that is released. -/
structure Releasable where
  registered : Bool
  isUsingPreconnection : Bool
  /-- `removeRequestFromInfo` returns `Success` -/
  removed : Bool

/-- What comes of the new request of a slot; `others` is what other calls do to the pool until it is
pushed. -/
structure Refill where
  /-- null when it cannot be created -/
  newRequest : Ptr
  held : RequestObject
  /-- started and linked -/
  linked : Bool
  now : UInt64
  others : ConnectedPool → ConnectedPool
  release : Releasable

namespace LockedPool

open ConnectedPool

def lock (m : LockedPool) : LockedPool := { m with calls := m.calls ++ [.lock] }

def unlock (m : LockedPool) : LockedPool := { m with calls := m.calls ++ [.unlock] }

def setPool (m : LockedPool) (s : ConnectedPool) : LockedPool := { m with pool := s }

/-! ## Taking and storing -/

/-- What the two functions below share. -/
def popNode (m : LockedPool) (kind : Kind) (request : Ptr) (type : NlsType) : LockedPool × Bool :=
  if request = 0 then (m, false)
  else
    let m := m.lock
    match poolOf type with
    | none => (m.unlock, false)
    | some t =>
      if m.pool.Unfilled t then ((m.setPool (m.pool.initThisNodesPool t type)).unlock, false)
      else if 0 < m.pool.getNumberOfNodes t kind then
        let popped := match kind with
          | .prestarted => m.pool.popOnePrestartedNode request t
          | .preconnected => m.pool.popOnePreconnectedNode request t
        if popped.2 then ((m.setPool popped.1).unlock, true)
        else ((m.setPool popped.1).unlock, false)
      else (m.unlock, false)

def popPrestartedNode (m : LockedPool) (request : Ptr) (type : NlsType) : LockedPool × Bool :=
  m.popNode .prestarted request type

def popPreconnectedNode (m : LockedPool) (request : Ptr) (type : NlsType) : LockedPool × Bool :=
  m.popNode .preconnected request type

/-- What the two functions below share. -/
def pushNode (m : LockedPool) (kind : Kind) (request : Ptr) (type : NlsType) (newNode : Bool)
    (now : UInt64) : LockedPool × Bool :=
  if request = 0 then (m, false)
  else
    let m := m.lock
    match poolOf type with
    | none => (m.unlock, false)
    | some t =>
      let m := m.setPool (m.pool.prepared t type)
      match if newNode then none else m.pool.existent kind request t with
      | some (index, _) =>
        ((m.setPool (m.pool.modifySlot t kind index
          (usedUp (m.pool.memory request).lastOpTimestampMs))).unlock, true)
      | none =>
        let stored := m.pool.store kind request t now
        if stored.2 then ((m.setPool stored.1).unlock, true)
        else ((m.setPool stored.1).unlock, false)

def pushPreconnectedNode (m : LockedPool) (request : Ptr) (type : NlsType) (newNode : Bool)
    (now : UInt64) : LockedPool × Bool :=
  m.pushNode .preconnected request type newNode now

def pushPrestartedNode (m : LockedPool) (request : Ptr) (type : NlsType) (newNode : Bool)
    (now : UInt64) : LockedPool × Bool :=
  m.pushNode .prestarted request type newNode now

def pushPrestartedNodeFromPreconnected (m : LockedPool) (request : Ptr) (type : NlsType)
    (now : UInt64) : LockedPool × Bool :=
  if request = 0 then (m, false)
  else
    let m := m.lock
    if (m.pool.memory request).poolIndex < 0 then (m.unlock, false)
    else
      let pushed := m.pool.pushPrestartedNodeFromPreconnected request type now
      ((m.setPool pushed.1).unlock, pushed.2)

/-! ## Looking a connection up -/

def sslBelongToPool (m : LockedPool) (request : Ptr) (type : NlsType) :
    LockedPool × Bool × Bool × Bool :=
  let m := m.lock
  let held := m.pool.memory request
  match (poolOf type).bind fun t =>
      m.pool.findNode t 0 (hasConnection held.socketFd held.sslHandle) with
  | some (_, _, it) => (m.unlock, true, it.isAbnormal, request == it.request)
  | none => (m.unlock, false, false, false)

def curRequestIsAbnormal (m : LockedPool) (request : Ptr) (type : NlsType) : LockedPool :=
  let m := m.lock
  match poolOf type with
  | none => m.unlock
  | some t =>
    let held := m.pool.memory request
    match m.pool.findNode t 0 (hasConnection held.socketFd held.sslHandle) with
    | none => m.unlock
    | some (kind, index, _) =>
      (m.setPool ((m.pool.modifySlot t kind index fun it =>
        { it with isAbnormal := true }).modifyList t kind (removeElement · index))).unlock

def finishPushPreNode (m : LockedPool) (type : NlsType) (curSocketFd : ℤ) (curSslHandle : Ptr)
    (index : ℤ) : LockedPool :=
  let m := m.lock
  match poolOf type with
  | none => m.unlock
  | some t =>
    match m.pool.findNode t index.toNat (hasConnection curSocketFd curSslHandle) with
    | none => m.unlock
    | some (kind, curIndex, _) =>
      (m.setPool ((m.pool.modifySlot t kind curIndex fun it =>
        { it with canPick := true, curRequest := 0, curRequestInvalid := false }).modifyList t kind
        (insertListInOrder · curIndex))).unlock

def requestInPool (m : LockedPool) (request : Ptr) (type : NlsType) : LockedPool × Bool :=
  let m := m.lock
  match (poolOf type).bind fun t => m.pool.findNode t 0 fun it => request == it.request with
  | some _ => (m.unlock, true)
  | none => (m.unlock, false)

def deletePreNodeByRequest (m : LockedPool) (request : Ptr) (type : NlsType) : LockedPool × Bool :=
  let m := m.lock
  match poolOf type with
  | none => (m.unlock, false)
  | some t =>
    match m.pool.findNode t 0 fun it => request == it.request with
    | none => (m.unlock, false)
    | some (kind, index, _) =>
      ((m.setPool (m.pool.modifySlot t kind index .clearNode)).unlock, true)

/-- The request is deleted under the lock; its destructor makes no call on the pool. -/
def deletePreNodeBySSL (m : LockedPool) (curSslHandle : Ptr) (type : NlsType) : LockedPool × Bool :=
  let m := m.lock
  match poolOf type with
  | none => (m.unlock, false)
  | some t =>
    match m.pool.findNode t 0 fun it => it.sslHandle == curSslHandle with
    | none => (m.unlock, false)
    | some (kind, index, it) =>
      ((m.setPool ((m.pool.deleteOwner it).modifySlot t kind index .clearNode)).unlock, true)

/-! ## The thread of the pool -/

/-- The pings are written under the lock; they make no call on the pool. -/
def connectPoolEventCallback (m : LockedPool) (closed : Bool)
    (checks : PoolType → Kind → ℕ → Check) : LockedPool :=
  let m := m.lock
  let m := if closed then m else m.setPool (m.pool.connectPoolEventCallback checks)
  m.unlock

/-- The last part of `releaseRequest`. -/
def leavePool (m : LockedPool) (request : Ptr) (held : RequestObject)
    (sslInConnectedPool oriRequestIsAbnormal : Bool) : LockedPool :=
  if sslInConnectedPool then
    if oriRequestIsAbnormal then (m.deletePreNodeBySSL held.sslHandle held.param.mode).1
    else m.finishPushPreNode held.param.mode held.socketFd held.sslHandle held.poolIndex
  else (m.deletePreNodeByRequest request held.param.mode).1

/-- The calls of `NlsClientImpl::releaseRequest` on the pool. -/
def releaseRequest (m : LockedPool) (request : Ptr) (r : Releasable) : LockedPool :=
  if r.registered then
    let held := m.pool.memory request
    let asked := if r.isUsingPreconnection then m.sslBelongToPool request held.param.mode
      else (m, false, false, false)
    let m := if r.removed ∧ asked.2.2.2 = false then
        asked.1.setPool (asked.1.pool.deleteRequest request)
      else asked.1
    m.leavePool request held asked.2.1 asked.2.2.1
  else m

/-- The lock is not held here: the pool's own operations take it one after another. -/
def preconnectNodeByRequest (m : LockedPool) (request : Ptr) (o : Refill) : LockedPool :=
  let type := (m.pool.memory request).param.mode
  if request = 0 ∨ poolOf type = none ∨ o.newRequest = 0 then m
  else
    let m := m.setPool ((o.others m.pool).setMemory o.newRequest fun _ => o.held)
    if o.linked then
      let (m, result) := m.pushPreconnectedNode o.newRequest type true o.now
      let node := m.pool.memory o.newRequest
      if result then m.finishPushPreNode type node.socketFd node.sslHandle node.poolIndex
      else (m.deletePreNodeBySSL node.sslHandle type).1
    else m.releaseRequest o.newRequest o.release

/-- One slot of the loop below. -/
def releaseSlot (m : LockedPool) (t : PoolType) (kind : Kind) (index : ℕ) (o : Refill) :
    LockedPool :=
  let m := m.setPool (m.pool.beginRelease t kind index)
  match m.pool.releasing, (m.pool.nodes t kind).requests[index]? with
  | some at_, some it =>
    let m := if at_.preconnect then m.preconnectNodeByRequest it.request o else m
    m.setPool m.pool.endRelease
  | _, _ => m

def deleteOrPreconnectNodeShouldReleased (m : LockedPool) (t : PoolType) (kind : Kind)
    (refills : ℕ → Refill) : LockedPool :=
  (List.range (m.pool.nodes t kind).requests.length).foldl
    (fun m index => m.releaseSlot t kind index (refills index)) m

def nodeReleaseEventCallback (m : LockedPool) (read : Bool)
    (refills : PoolType → Kind → ℕ → Refill) : LockedPool :=
  if read then
    [PoolType.fss, .sr, .st, .sy].foldl (fun m t =>
      if m.pool.work t then
        (m.deleteOrPreconnectNodeShouldReleased t .prestarted
          (refills t .prestarted)).deleteOrPreconnectNodeShouldReleased t .preconnected
          (refills t .preconnected)
      else m) m
  else m

/-! ## The beginning and the end -/

def startConnectedPool (m : LockedPool) : LockedPool := m

/-- The events are freed and the loop is told to end; there is no `MUTEX_UNLOCK`. -/
def stopConnectedPool (m : LockedPool) : LockedPool :=
  let m := m.lock
  let m := if m.connectPoolEvent then
      { m with connectPoolTimerFlag := false, connectPoolEvent := false } else m
  let m := if m.nodeReleaseEvent then { m with nodeReleaseEvent := false } else m
  { m with dispatching := false }

end LockedPool

namespace ConnectedPool

def deletePreNode (s : ConnectedPool) (t : PoolType) (kind : Kind) : ConnectedPool :=
  let deleted := (s.nodes t kind).requests.foldl deleteOwner s
  deleted.setNodes t kind { s.nodes t kind with requests := [] }

end ConnectedPool

namespace LockedPool

/-- `~ConnectedPool`, which does not take the lock. -/
def destruct (m : LockedPool) : LockedPool :=
  m.setPool ([PoolType.fss, .sr, .st, .sy].foldl (fun s t =>
    if s.work t then (s.deletePreNode t .prestarted).deletePreNode t .preconnected else s) m.pool)

end LockedPool

/-- What is called on a pool; `call` are its actions, the parts of the deferred release and what the
rest of the library does to requests among them, which come without the lock. -/
inductive PoolOperation
  | startConnectedPool
  | stopConnectedPool
  | call (a : PoolAction)
  | sslBelongToPool (request : Ptr) (type : NlsType)
  | requestInPool (request : Ptr) (type : NlsType)
  | timerClosed
  | nodeReleaseEventCallback (read : Bool) (refills : PoolType → Kind → ℕ → Refill)
  | destruct

namespace LockedPool

def performCall (m : LockedPool) : PoolAction → LockedPool
  | .popPrestartedNode request type => (m.popPrestartedNode request type).1
  | .popPreconnectedNode request type => (m.popPreconnectedNode request type).1
  | .pushPreconnectedNode request type newNode now =>
    (m.pushPreconnectedNode request type newNode now).1
  | .pushPrestartedNode request type newNode now =>
    (m.pushPrestartedNode request type newNode now).1
  | .pushPrestartedNodeFromPreconnected request type now =>
    (m.pushPrestartedNodeFromPreconnected request type now).1
  | .curRequestIsAbnormal request type => m.curRequestIsAbnormal request type
  | .finishPushPreNode type curSocketFd curSslHandle index =>
    m.finishPushPreNode type curSocketFd curSslHandle index
  | .deletePreNodeByRequest request type => (m.deletePreNodeByRequest request type).1
  | .deletePreNodeBySSL curSslHandle type => (m.deletePreNodeBySSL curSslHandle type).1
  | .connectPoolEventCallback checks => m.connectPoolEventCallback false checks
  | .beginRelease t kind index => m.setPool (m.pool.beginRelease t kind index)
  | .endRelease => m.setPool m.pool.endRelease
  | .outside memory => m.setPool { m.pool with memory := memory }

def perform (m : LockedPool) : PoolOperation → LockedPool
  | .startConnectedPool => m.startConnectedPool
  | .stopConnectedPool => m.stopConnectedPool
  | .call a => m.performCall a
  | .sslBelongToPool request type => (m.sslBelongToPool request type).1
  | .requestInPool request type => (m.requestInPool request type).1
  | .timerClosed => m.connectPoolEventCallback true fun _ _ _ => ⟨0, true⟩
  | .nodeReleaseEventCallback read refills => m.nodeReleaseEventCallback read refills
  | .destruct => m.destruct

/-- The calls that one operation makes on the lock. -/
def lockCalls (m : LockedPool) (operation : PoolOperation) : List MutexCall :=
  (m.perform operation).calls.drop m.calls.length

/-! ## Critical sections -/

open ConnectedPool

/-- The pool is changed in one critical section. -/
def within (m : LockedPool) (s : ConnectedPool) : LockedPool :=
  { m with pool := s, calls := m.calls ++ [.lock, .unlock] }

@[simp] lemma pool_lock (m : LockedPool) : m.lock.pool = m.pool := rfl

@[simp] lemma pool_setPool (m : LockedPool) (s : ConnectedPool) : (m.setPool s).pool = s := rfl

@[simp] lemma pool_within (m : LockedPool) (s : ConnectedPool) : (m.within s).pool = s := rfl

@[simp] lemma unlock_lock (m : LockedPool) : m.lock.unlock = m.within m.pool := by
  simp [lock, unlock, within]

@[simp] lemma unlock_setPool (m : LockedPool) (s : ConnectedPool) :
    (m.lock.setPool s).unlock = m.within s := by
  simp [lock, unlock, setPool, within]

@[simp] lemma setPool_setPool (m : LockedPool) (s s' : ConnectedPool) :
    (m.setPool s).setPool s' = m.setPool s' := rfl

variable (m : LockedPool)

/-- Two exits that return what was tested. -/
lemma ite_pair {α : Type*} (a : α) (b : Bool) : (if b then (a, true) else (a, false)) = (a, b) := by
  cases b <;> rfl

lemma popNode_eq (kind : Kind) (request : Ptr) (type : NlsType) :
    m.popNode kind request type =
      if request = 0 then (m, false)
      else (m.within (m.pool.popNode kind request type).1,
        (m.pool.popNode kind request type).2) := by
  unfold popNode ConnectedPool.popNode
  by_cases null : request = 0
  · simp [null]
  rw [if_neg null, if_neg null, if_neg null]
  cases poolOf type with
  | none => simp
  | some t =>
    dsimp only [pool_lock]
    by_cases unfilled : m.pool.Unfilled t
    · simp [unfilled]
    simp only [unfilled, if_false]
    by_cases some_ : 0 < m.pool.getNumberOfNodes t kind
    · simp only [some_, if_true, unlock_setPool]
      exact ite_pair ..
    · simp [some_]

lemma pushNode_eq (kind : Kind) (request : Ptr) (type : NlsType) (newNode : Bool) (now : UInt64) :
    m.pushNode kind request type newNode now =
      if request = 0 then (m, false)
      else (m.within (m.pool.pushNode kind request type newNode now).1,
        (m.pool.pushNode kind request type newNode now).2) := by
  unfold pushNode ConnectedPool.pushNode
  by_cases null : request = 0
  · simp [null]
  rw [if_neg null, if_neg null, if_neg null]
  cases poolOf type with
  | none => simp
  | some t =>
    dsimp only [pool_lock, pool_setPool, ConnectedPool.pushFilled]
    cases if newNode then none
      else (m.pool.prepared t type).existent kind request t with
    | some found => simp
    | none =>
      simp only [setPool_setPool, unlock_setPool]
      exact ite_pair ..

lemma pushPrestartedNodeFromPreconnected_eq (request : Ptr) (type : NlsType) (now : UInt64) :
    m.pushPrestartedNodeFromPreconnected request type now =
      if request = 0 then (m, false)
      else (m.within (m.pool.pushPrestartedNodeFromPreconnected request type now).1,
        (m.pool.pushPrestartedNodeFromPreconnected request type now).2) := by
  unfold pushPrestartedNodeFromPreconnected
  by_cases null : request = 0
  · simp [null]
  rw [if_neg null, if_neg null]
  dsimp only [pool_lock]
  by_cases outside : (m.pool.memory request).poolIndex < 0
  · have none_ : ∀ t, m.pool.existent .preconnected request t = none := by
      intro t
      unfold existent
      rw [if_neg (by omega)]
    have same : m.pool.pushPrestartedNodeFromPreconnected request type now = (m.pool, false) := by
      unfold ConnectedPool.pushPrestartedNodeFromPreconnected
      rw [if_neg null]
      cases poolOf type with
      | none => rfl
      | some t =>
        dsimp only
        rw [none_]
    simp [outside, same]
  · simp [outside]

lemma sslBelongToPool_eq (request : Ptr) (type : NlsType) :
    m.sslBelongToPool request type =
      (m.within m.pool, m.pool.sslBelongToPool request type) := by
  unfold sslBelongToPool ConnectedPool.sslBelongToPool
  dsimp only [pool_lock]
  cases (poolOf type).bind fun t => m.pool.findNode t 0
    (hasConnection (m.pool.memory request).socketFd (m.pool.memory request).sslHandle) with
  | none => simp
  | some found => simp

lemma curRequestIsAbnormal_eq (request : Ptr) (type : NlsType) :
    m.curRequestIsAbnormal request type =
      m.within (m.pool.curRequestIsAbnormal request type) := by
  unfold curRequestIsAbnormal ConnectedPool.curRequestIsAbnormal
  cases poolOf type with
  | none => simp
  | some t =>
    dsimp only [pool_lock]
    cases m.pool.findNode t 0 (hasConnection (m.pool.memory request).socketFd
      (m.pool.memory request).sslHandle) with
    | none => simp
    | some found => simp

lemma finishPushPreNode_eq (type : NlsType) (curSocketFd : ℤ) (curSslHandle : Ptr) (index : ℤ) :
    m.finishPushPreNode type curSocketFd curSslHandle index =
      m.within (m.pool.finishPushPreNode type curSocketFd curSslHandle index) := by
  unfold finishPushPreNode ConnectedPool.finishPushPreNode
  cases poolOf type with
  | none => simp
  | some t =>
    dsimp only [pool_lock]
    cases m.pool.findNode t index.toNat (hasConnection curSocketFd curSslHandle) with
    | none => simp
    | some found => simp

lemma requestInPool_eq (request : Ptr) (type : NlsType) :
    m.requestInPool request type = (m.within m.pool, m.pool.requestInPool request type) := by
  unfold requestInPool ConnectedPool.requestInPool
  cases poolOf type with
  | none => simp
  | some t =>
    dsimp only [pool_lock, Option.bind_some]
    cases m.pool.findNode t 0 fun it => request == it.request with
    | none => simp
    | some found => simp

lemma deletePreNodeByRequest_eq (request : Ptr) (type : NlsType) :
    (m.deletePreNodeByRequest request type).1 =
      m.within (m.pool.deletePreNodeByRequest request type) := by
  unfold deletePreNodeByRequest ConnectedPool.deletePreNodeByRequest
  cases poolOf type with
  | none => simp
  | some t =>
    dsimp only [pool_lock]
    cases m.pool.findNode t 0 fun it => request == it.request with
    | none => simp
    | some found => simp

lemma deletePreNodeBySSL_eq (curSslHandle : Ptr) (type : NlsType) :
    (m.deletePreNodeBySSL curSslHandle type).1 =
      m.within (m.pool.deletePreNodeBySSL curSslHandle type) := by
  unfold deletePreNodeBySSL ConnectedPool.deletePreNodeBySSL
  cases poolOf type with
  | none => simp
  | some t =>
    dsimp only [pool_lock]
    cases m.pool.findNode t 0 fun it => it.sslHandle == curSslHandle with
    | none => simp
    | some found => simp

lemma connectPoolEventCallback_eq (closed : Bool) (checks : PoolType → Kind → ℕ → Check) :
    m.connectPoolEventCallback closed checks =
      m.within (if closed then m.pool else m.pool.connectPoolEventCallback checks) := by
  unfold connectPoolEventCallback
  split <;> simp

/-! ## The operations -/

lemma popNode_pool (kind : Kind) (request : Ptr) (type : NlsType) :
    (m.popNode kind request type).1.pool = (m.pool.popNode kind request type).1 := by
  rw [popNode_eq]
  split
  · rename_i null
    rw [ConnectedPool.popNode, if_pos null]
  · rfl

lemma pushNode_pool (kind : Kind) (request : Ptr) (type : NlsType) (newNode : Bool)
    (now : UInt64) : (m.pushNode kind request type newNode now).1.pool =
      (m.pool.pushNode kind request type newNode now).1 := by
  rw [pushNode_eq]
  split
  · rename_i null
    rw [ConnectedPool.pushNode, if_pos null]
  · rfl

lemma pushPrestartedNodeFromPreconnected_pool (request : Ptr) (type : NlsType) (now : UInt64) :
    (m.pushPrestartedNodeFromPreconnected request type now).1.pool =
      (m.pool.pushPrestartedNodeFromPreconnected request type now).1 := by
  rw [pushPrestartedNodeFromPreconnected_eq]
  split
  · rename_i null
    rw [ConnectedPool.pushPrestartedNodeFromPreconnected, if_pos null]
  · rfl

/-- What is done to the pool is what `ConnectedPool` says. -/
theorem performCall_pool (a : PoolAction) : (m.performCall a).pool = m.pool.step a := by
  cases a with
  | popPrestartedNode request type => exact popNode_pool ..
  | popPreconnectedNode request type => exact popNode_pool ..
  | pushPreconnectedNode request type newNode now => exact pushNode_pool ..
  | pushPrestartedNode request type newNode now => exact pushNode_pool ..
  | pushPrestartedNodeFromPreconnected request type now =>
    exact pushPrestartedNodeFromPreconnected_pool ..
  | curRequestIsAbnormal request type =>
    exact congrArg LockedPool.pool (m.curRequestIsAbnormal_eq request type)
  | finishPushPreNode type fd ssl index =>
    exact congrArg LockedPool.pool (m.finishPushPreNode_eq type fd ssl index)
  | deletePreNodeByRequest request type =>
    exact congrArg LockedPool.pool (m.deletePreNodeByRequest_eq request type)
  | deletePreNodeBySSL ssl type =>
    exact congrArg LockedPool.pool (m.deletePreNodeBySSL_eq ssl type)
  | connectPoolEventCallback checks =>
    exact congrArg LockedPool.pool (m.connectPoolEventCallback_eq false checks)
  | beginRelease t kind index => rfl
  | endRelease => rfl
  | outside memory => rfl

/-- The calls that were made in between leave the lock as they find it. -/
def Keeps (m m' : LockedPool) : Prop :=
  ∃ calls, MutexCall.Balanced calls ∧ m'.calls = m.calls ++ calls

variable {m} {m' m'' : LockedPool}

lemma Keeps.refl (m : LockedPool) : m.Keeps m :=
  ⟨[], MutexCall.balanced_nil, (List.append_nil _).symm⟩

lemma Keeps.trans (first : m.Keeps m') (then_ : m'.Keeps m'') : m.Keeps m'' := by
  obtain ⟨calls, balanced, same⟩ := first
  obtain ⟨later, balanced', same'⟩ := then_
  exact ⟨calls ++ later, balanced.append balanced', by rw [same', same, List.append_assoc]⟩

lemma keeps_setPool (m : LockedPool) (s : ConnectedPool) : m.Keeps (m.setPool s) := Keeps.refl m

lemma keeps_within (m : LockedPool) (s : ConnectedPool) : m.Keeps (m.within s) :=
  ⟨[.lock, .unlock], MutexCall.balanced_section, rfl⟩

lemma keeps_foldl {α : Type*} {f : LockedPool → α → LockedPool}
    (each : ∀ (m : LockedPool) (a : α), m.Keeps (f m a)) (as : List α) (m : LockedPool) : m.Keeps (as.foldl f m) := by
  induction as generalizing m with
  | nil => exact Keeps.refl m
  | cons a as ih =>
    rw [List.foldl_cons]
    exact (each m a).trans (ih _)

lemma popNode_keeps (m : LockedPool) (kind : Kind) (request : Ptr) (type : NlsType) :
    m.Keeps (m.popNode kind request type).1 := by
  rw [popNode_eq]
  split
  · exact Keeps.refl m
  · exact keeps_within ..

lemma pushNode_keeps (m : LockedPool) (kind : Kind) (request : Ptr) (type : NlsType)
    (newNode : Bool) (now : UInt64) : m.Keeps (m.pushNode kind request type newNode now).1 := by
  rw [pushNode_eq]
  split
  · exact Keeps.refl m
  · exact keeps_within ..

lemma performCall_keeps (m : LockedPool) (a : PoolAction) : m.Keeps (m.performCall a) := by
  cases a with
  | popPrestartedNode request type => exact popNode_keeps ..
  | popPreconnectedNode request type => exact popNode_keeps ..
  | pushPreconnectedNode request type newNode now => exact pushNode_keeps ..
  | pushPrestartedNode request type newNode now => exact pushNode_keeps ..
  | pushPrestartedNodeFromPreconnected request type now =>
    rw [performCall, pushPrestartedNodeFromPreconnected_eq]
    split
    · exact Keeps.refl m
    · exact keeps_within ..
  | curRequestIsAbnormal request type =>
    rw [performCall, curRequestIsAbnormal_eq]
    exact keeps_within ..
  | finishPushPreNode type fd ssl index =>
    rw [performCall, finishPushPreNode_eq]
    exact keeps_within ..
  | deletePreNodeByRequest request type =>
    rw [performCall, deletePreNodeByRequest_eq]
    exact keeps_within ..
  | deletePreNodeBySSL ssl type =>
    rw [performCall, deletePreNodeBySSL_eq]
    exact keeps_within ..
  | connectPoolEventCallback checks =>
    rw [performCall, connectPoolEventCallback_eq]
    exact keeps_within ..
  | beginRelease t kind index => exact keeps_setPool ..
  | endRelease => exact keeps_setPool ..
  | outside memory => exact keeps_setPool ..

lemma deletePreNodeByRequest_keeps (m : LockedPool) (request : Ptr) (type : NlsType) :
    m.Keeps (m.deletePreNodeByRequest request type).1 :=
  m.performCall_keeps (.deletePreNodeByRequest request type)

lemma deletePreNodeBySSL_keeps (m : LockedPool) (ssl : Ptr) (type : NlsType) :
    m.Keeps (m.deletePreNodeBySSL ssl type).1 :=
  m.performCall_keeps (.deletePreNodeBySSL ssl type)

lemma finishPushPreNode_keeps (m : LockedPool) (type : NlsType) (fd : ℤ) (ssl : Ptr) (index : ℤ) :
    m.Keeps (m.finishPushPreNode type fd ssl index) :=
  m.performCall_keeps (.finishPushPreNode type fd ssl index)

lemma sslBelongToPool_keeps (m : LockedPool) (request : Ptr) (type : NlsType) :
    m.Keeps (m.sslBelongToPool request type).1 := by
  rw [sslBelongToPool_eq]
  exact keeps_within ..

lemma leavePool_keeps (m : LockedPool) (request : Ptr) (held : RequestObject)
    (inPool abnormal : Bool) : m.Keeps (m.leavePool request held inPool abnormal) := by
  unfold leavePool
  split
  · split
    · exact deletePreNodeBySSL_keeps ..
    · exact finishPushPreNode_keeps ..
  · exact deletePreNodeByRequest_keeps ..

lemma releaseRequest_keeps (m : LockedPool) (request : Ptr) (r : Releasable) :
    m.Keeps (m.releaseRequest request r) := by
  have asked : m.Keeps (if r.isUsingPreconnection then
      m.sslBelongToPool request (m.pool.memory request).param.mode
      else (m, false, false, false)).1 := by
    split
    · exact sslBelongToPool_keeps ..
    · exact Keeps.refl m
  unfold releaseRequest
  split
  · dsimp only
    generalize (if r.isUsingPreconnection then
      m.sslBelongToPool request (m.pool.memory request).param.mode
      else (m, false, false, false)) = found at asked ⊢
    split
    · exact (asked.trans (keeps_setPool ..)).trans (leavePool_keeps ..)
    · exact asked.trans (leavePool_keeps ..)
  · exact Keeps.refl m

lemma preconnectNodeByRequest_keeps (m : LockedPool) (request : Ptr) (o : Refill) :
    m.Keeps (m.preconnectNodeByRequest request o) := by
  unfold preconnectNodeByRequest
  dsimp only
  split
  · exact Keeps.refl m
  split
  · split
    · exact ((keeps_setPool ..).trans (pushNode_keeps ..)).trans (finishPushPreNode_keeps ..)
    · exact ((keeps_setPool ..).trans (pushNode_keeps ..)).trans (deletePreNodeBySSL_keeps ..)
  · exact (keeps_setPool ..).trans (releaseRequest_keeps ..)

lemma releaseSlot_keeps (m : LockedPool) (t : PoolType) (kind : Kind) (index : ℕ) (o : Refill) :
    m.Keeps (m.releaseSlot t kind index o) := by
  have begun := m.keeps_setPool (m.pool.beginRelease t kind index)
  unfold releaseSlot
  dsimp only
  split
  · split
    · exact (begun.trans (preconnectNodeByRequest_keeps ..)).trans (keeps_setPool ..)
    · exact begun.trans (keeps_setPool ..)
  · exact begun

lemma deleteOrPreconnectNodeShouldReleased_keeps (m : LockedPool) (t : PoolType) (kind : Kind)
    (refills : ℕ → Refill) :
    m.Keeps (m.deleteOrPreconnectNodeShouldReleased t kind refills) :=
  keeps_foldl (fun m index => m.releaseSlot_keeps t kind index (refills index)) _ m

lemma nodeReleaseEventCallback_keeps (m : LockedPool) (read : Bool)
    (refills : PoolType → Kind → ℕ → Refill) :
    m.Keeps (m.nodeReleaseEventCallback read refills) := by
  unfold nodeReleaseEventCallback
  split
  · refine keeps_foldl (fun m t => ?_) _ m
    split
    · exact (deleteOrPreconnectNodeShouldReleased_keeps ..).trans
        (deleteOrPreconnectNodeShouldReleased_keeps ..)
    · exact Keeps.refl m
  · exact Keeps.refl m

lemma perform_keeps (m : LockedPool) {operation : PoolOperation}
    (other : operation ≠ .stopConnectedPool) : m.Keeps (m.perform operation) := by
  cases operation with
  | startConnectedPool => exact Keeps.refl m
  | stopConnectedPool => exact absurd rfl other
  | call a => exact performCall_keeps ..
  | sslBelongToPool request type => exact sslBelongToPool_keeps ..
  | requestInPool request type =>
    rw [perform, requestInPool_eq]
    exact keeps_within ..
  | timerClosed =>
    rw [perform, connectPoolEventCallback_eq]
    exact keeps_within ..
  | nodeReleaseEventCallback read refills => exact nodeReleaseEventCallback_keeps ..
  | destruct => exact keeps_setPool ..

lemma stopConnectedPool_calls (m : LockedPool) : m.stopConnectedPool.calls = m.calls ++ [.lock] := by
  unfold stopConnectedPool
  dsimp only
  split <;> split <;> rfl

lemma lockCalls_stop (m : LockedPool) : m.lockCalls .stopConnectedPool = [.lock] := by
  rw [lockCalls, perform, stopConnectedPool_calls, List.drop_left]

/-- In every state of the pool, on every branch: an operation is balanced unless it is
`stopConnectedPool`. -/
theorem lockCalls_balanced_iff (m : LockedPool) (operation : PoolOperation) :
    MutexCall.Balanced (m.lockCalls operation) ↔ operation ≠ .stopConnectedPool := by
  constructor
  · rintro balanced rfl
    rw [lockCalls_stop] at balanced
    cases balanced
  · intro other
    obtain ⟨calls, balanced, same⟩ := m.perform_keeps other
    rwa [lockCalls, same, List.drop_left]

end LockedPool

/-! ## Runs -/

/-- The pool and whether its lock is held by a call that has returned. -/
structure SharedPool where
  object : LockedPool
  held : Bool := false

namespace SharedPool

/-- An operation is called; one that waits for the lock for good changes nothing. -/
def step (w : SharedPool) (operation : PoolOperation) : SharedPool :=
  match MutexCall.passes w.held (w.object.lockCalls operation) with
  | some held => ⟨w.object.perform operation, held⟩
  | none => w

/-- The operation returns, has released the lock as often as it has taken it and leaves it free. -/
def Released (w : SharedPool) (operation : PoolOperation) : Prop :=
  (w.object.lockCalls operation).count .lock = (w.object.lockCalls operation).count .unlock ∧
    MutexCall.passes w.held (w.object.lockCalls operation) = some false

instance (w : SharedPool) (operation : PoolOperation) : Decidable (w.Released operation) :=
  inferInstanceAs (Decidable (_ ∧ _))

/-- A pool as it is constructed. -/
def new (maxNumber : ℕ) (timeoutMs requestedTimeoutMs : UInt32) : SharedPool where
  object := { pool := .new maxNumber timeoutMs requestedTimeoutMs }

lemma released_iff {w : SharedPool} (free : w.held = false) (operation : PoolOperation) :
    w.Released operation ↔ operation ≠ .stopConnectedPool := by
  rw [← w.object.lockCalls_balanced_iff operation, Released, free]
  exact ⟨fun released => released.2, fun balanced => ⟨balanced.count_eq, balanced⟩⟩

lemma step_free {w : SharedPool} {operation : PoolOperation}
    (released : w.Released operation) : (w.step operation).held = false := by
  rw [step, released.2]

/-- In a run of operations each one returns with the lock released, so that none blocks a later one,
if and only if `stopConnectedPool` is not among them. -/
theorem released_along_iff (maxNumber : ℕ) (timeoutMs requestedTimeoutMs : UInt32)
    (operations : List PoolOperation) :
    Along step Released (new maxNumber timeoutMs requestedTimeoutMs) operations ↔
      PoolOperation.stopConnectedPool ∉ operations := by
  have start : (new maxNumber timeoutMs requestedTimeoutMs).held = false := rfl
  generalize new maxNumber timeoutMs requestedTimeoutMs = w at start ⊢
  induction operations generalizing w with
  | nil => simp
  | cons operation operations ih =>
    rw [along_cons, List.mem_cons, not_or, released_iff start]
    constructor
    · rintro ⟨other, later⟩
      have released := (released_iff start operation).mpr other
      exact ⟨Ne.symm other, (ih _ (step_free released)).mp later⟩
    · rintro ⟨other, later⟩
      have released := (released_iff start operation).mpr (Ne.symm other)
      exact ⟨Ne.symm other, (ih _ (step_free released)).mpr later⟩

/-- Behind `stopConnectedPool` the next call waits for good. -/
theorem stopConnectedPool_unreleased :
    let w := new 1 30000 30000
    let stopped := w.step .stopConnectedPool
    ¬w.Released .stopConnectedPool ∧ stopped.held = true ∧
      MutexCall.passes stopped.held
        (stopped.object.lockCalls (.call (.popPrestartedNode 1 .typeAsr))) = none := by
  decide

end SharedPool

/-! ## Threads -/

open Relation

variable {θ : Type*} [DecidableEq θ]

/-- The calls on the lock of threads that call the pool, each call in the state it finds. -/
def callers (work : θ → List (LockedPool × PoolOperation)) : Threads θ where
  todo i := ((work i).map fun call => call.1.lockCalls call.2).flatten

/-- Whatever the threads have done so far, all of them can finish. -/
theorem callers_finish [Fintype θ] (work : θ → List (LockedPool × PoolOperation))
    (others : ∀ i, ∀ call ∈ work i, call.2 ≠ .stopConnectedPool) {s : Threads θ}
    (reached : ReflTransGen Threads.Step (callers work) s) :
    ∃ last, ReflTransGen Threads.Step s last ∧ ∀ i, last.todo i = [] := by
  have sound : (callers work).Sound := by
    refine Threads.sound_of_balanced fun i => MutexCall.Balanced.flatten fun calls is => ?_
    obtain ⟨call, called, rfl⟩ := List.mem_map.mp is
    exact (call.1.lockCalls_balanced_iff call.2).mpr (others i call called)
  exact (sound.reached reached).finishes

/-- Once `stopConnectedPool` has the lock, no thread that waits for it ever gets it. -/
theorem stopConnectedPool_blocks {s : Threads θ} {i j : θ} {m : LockedPool}
    {rest : List MutexCall} (free : s.owner = none)
    (next : s.todo i = m.lockCalls .stopConnectedPool) (waits : s.todo j = .lock :: rest)
    (other : j ≠ i) :
    ∃ stopped, Threads.Step s stopped ∧ ∀ last, ReflTransGen Threads.Step stopped last →
      last.todo j = .lock :: rest := by
  rw [LockedPool.lockCalls_stop] at next
  refine ⟨_, .lock s i [] free next, fun last reached => ?_⟩
  exact (Threads.blocked_forever rfl (Function.update_self ..)
    ((Function.update_of_ne other ..).trans waits) reached).2.2

end NlsSdk.Transport
