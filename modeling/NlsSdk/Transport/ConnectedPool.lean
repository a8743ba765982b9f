import NlsSdk.Library.SlotTable
import NlsSdk.Library.Run
import NlsSdk.Transport.NodeManager

/-!
# The pool of connections

`ConnectedPool`: for each service two vectors of slots, one of connections that
served a request (prestarted) and one of connections that were only upgraded
(preconnected), each with the list of the indices that may be picked.
-/
namespace NlsSdk.Transport

open Library

/-- The fields of the parameters the pool or the upgrade request reads. -/
structure INlsRequestParam where
  enableWakeWord : Bool := false
  enableRecvTimeout : Bool := false
  enableOnMessage : Bool := false
  enableReconnect : Bool := false
  timeout : ℤ := 0
  recvTimeout : ℤ := 0
  sendTimeout : ℤ := 0
  sampleRate : ℤ := 0
  requestType : NlsRequestType := .speechNormal
  url : Bytes := []
  outputFormat : Bytes := []
  appKey : Bytes := []
  format : Bytes := []
  mode : NlsType := .typeAsr
  sdkName : Bytes := []
  version : ℕ := 0
  token : Bytes := []
  apikey : Bytes := []
  httpHeader : Bytes := []
  tokenExpirationTime : UInt64 := 0
  deriving DecidableEq, Repr

/-- `operator==`. -/
def INlsRequestParam.equals (a b : INlsRequestParam) : Bool :=
  a.enableWakeWord == b.enableWakeWord && a.enableRecvTimeout == b.enableRecvTimeout &&
    a.enableOnMessage == b.enableOnMessage && a.enableReconnect == b.enableReconnect &&
    a.timeout == b.timeout && a.recvTimeout == b.recvTimeout && a.sendTimeout == b.sendTimeout &&
    a.sampleRate == b.sampleRate && a.requestType == b.requestType && a.url == b.url &&
    a.outputFormat == b.outputFormat && a.appKey == b.appKey && a.format == b.format &&
    a.mode == b.mode && a.sdkName == b.sdkName

/-- `operator=`: the version and the deadline of the token stay. -/
def INlsRequestParam.assign (a b : INlsRequestParam) : INlsRequestParam :=
  { b with version := a.version, tokenExpirationTime := a.tokenExpirationTime }

/-- What a request and its node hold, as far as the pool reads or writes it. -/
structure RequestObject where
  param : INlsRequestParam := {}
  socketFd : ℤ := -1
  sslHandle : Ptr := 0
  nativeSslHandle : Ptr := 0
  urlAddress : Bytes := []
  poolIndex : ℤ := -1
  lastOpTimestampMs : UInt64 := 0
  deriving DecidableEq, Repr

inductive ConnectedStatus
  | preNodeInvalid | preNodeToBeCreated | preNodeCreated | preNodeConnected | preNodeStarted
  deriving DecidableEq, Repr

structure ConnectedNodeProcess where
  type : NlsType
  status : ConnectedStatus := .preNodeInvalid
  startTimestamp : UInt64 := 0
  workableTimestamp : UInt64 := 0
  tokenExpirationTimestamp : UInt64 := 0
  socketFd : ℤ := -1
  sslHandle : Ptr := 0
  canPick : Bool := false
  ttsVersion : ℕ := 0
  request : Ptr := 0
  isAbnormal : Bool := false
  shouldRelease : Bool := false
  shouldPreconnect : Bool := false
  curRequest : Ptr := 0
  curRequestInvalid : Bool := false
  sdkName : Bytes := []
  deriving DecidableEq, Repr

def ConnectedNodeProcess.clearNode (it : ConnectedNodeProcess) : ConnectedNodeProcess where
  type := it.type
  status := .preNodeToBeCreated

/-- The two vectors of a service. -/
inductive Kind
  | prestarted | preconnected
  deriving DecidableEq, Repr

/-- The status of a slot in use. -/
def Kind.status : Kind → ConnectedStatus
  | .prestarted => .preNodeStarted
  | .preconnected => .preNodeConnected

lemma Kind.status_ne (kind : Kind) : kind.status ≠ .preNodeToBeCreated := by
  cases kind <;> decide

/-- A vector of slots and its list of indices. -/
structure PreNodes where
  indexList : List ℕ := []
  requests : List ConnectedNodeProcess := []
  deriving DecidableEq, Repr

/-- The services that have a pool, under the names of their members. -/
inductive PoolType
  | sr | st | sy | fss
  deriving DecidableEq, Repr

def poolOf : NlsType → Option PoolType
  | .typeAsr => some .sr
  | .typeRealTime => some .st
  | .typeTts => some .sy
  | .typeStreamInputTts => some .fss
  | _ => none

/-- Something the pool has deleted. -/
inductive Deletion
  | request (request : Ptr)
  | ssl (sslHandle : Ptr)
  deriving DecidableEq, Repr

/-- Where the deferred release stands between its two looks at a slot. -/
structure Releasing where
  type : PoolType
  kind : Kind
  index : ℕ
  preconnect : Bool
  deriving DecidableEq, Repr

/-- The pool, the requests it looks at and what it has deleted. `nodes .sr .prestarted` stands for
`_srRequests.prestartedRequests` and its list, and so on. -/
structure ConnectedPool where
  maxPreconnectedNumber : ℕ
  preconnectedTimeoutMs : UInt64
  prerequestedTimeoutMs : UInt64
  nodes : PoolType → Kind → PreNodes := fun _ _ => {}
  work : PoolType → Bool := fun _ => false
  memory : Ptr → RequestObject := fun _ => {}
  deleted : List Deletion := []
  releasing : Option Releasing := none

/-! ## Lists of indices -/

def insertListInOrder (lst : List ℕ) (a : ℕ) : List ℕ := lst.orderedInsert (· ≤ ·) a

def removeElement (lst : List ℕ) (a : ℕ) : List ℕ := lst.filter (· ≠ a)

def popListFront : List ℕ → ℕ × List ℕ
  | [] => (0, [])
  | index :: rest => (index, rest)

namespace ConnectedPool

/-! ## Slots -/

def setNodes (s : ConnectedPool) (t : PoolType) (kind : Kind) (nodes : PreNodes) : ConnectedPool :=
  { s with nodes := fun t' kind' => if t' = t ∧ kind' = kind then nodes else s.nodes t' kind' }

/-- Change one slot. -/
def modifySlot (s : ConnectedPool) (t : PoolType) (kind : Kind) (index : ℕ)
    (f : ConnectedNodeProcess → ConnectedNodeProcess) : ConnectedPool :=
  s.setNodes t kind
    { s.nodes t kind with requests := (s.nodes t kind).requests.modify index f }

/-- Change a list of indices. -/
def modifyList (s : ConnectedPool) (t : PoolType) (kind : Kind) (f : List ℕ → List ℕ) :
    ConnectedPool :=
  s.setNodes t kind { s.nodes t kind with indexList := f (s.nodes t kind).indexList }

def setMemory (s : ConnectedPool) (request : Ptr) (f : RequestObject → RequestObject) :
    ConnectedPool :=
  { s with memory := fun r => if r = request then f (s.memory r) else s.memory r }

def delete (s : ConnectedPool) (objects : List Deletion) : ConnectedPool :=
  { s with deleted := s.deleted ++ objects }

/-- `delete request`: its node deletes the SSL handle it was created with, where it still has it. -/
def deleteRequest (s : ConnectedPool) (request : Ptr) : ConnectedPool :=
  let held := s.memory request
  s.delete (.request request ::
    if held.sslHandle ≠ 0 ∧ held.sslHandle = held.nativeSslHandle then [.ssl held.sslHandle]
    else [])

/-- The number of slots in use. -/
def getNumberOfNodes (s : ConnectedPool) (t : PoolType) (kind : Kind) : ℕ :=
  (s.nodes t kind).requests.countP (fun it => it.status == kind.status)

def getNumberOfPrestartedNodes (s : ConnectedPool) (t : PoolType) : ℕ :=
  s.getNumberOfNodes t .prestarted

def getNumberOfPreconnectedNodes (s : ConnectedPool) (t : PoolType) : ℕ :=
  s.getNumberOfNodes t .preconnected

/-- Fill a vector up with slots to be created. -/
def fillNodes (s : ConnectedPool) (t : PoolType) (kind : Kind) (type : NlsType) : ConnectedPool :=
  let nodes := s.nodes t kind
  s.setNodes t kind
    { nodes with
      requests := nodes.requests ++
        List.replicate (s.maxPreconnectedNumber - nodes.requests.length)
          { type := type, status := .preNodeToBeCreated } }

def initThisNodesPool (s : ConnectedPool) (t : PoolType) (type : NlsType) : ConnectedPool :=
  (s.fillNodes t .prestarted type).fillNodes t .preconnected type

/-- A service neither of whose vectors is filled has no nodes yet. -/
def Unfilled (s : ConnectedPool) (t : PoolType) : Prop :=
  (s.nodes t .prestarted).requests = [] ∨ (s.nodes t .preconnected).requests = []

instance (s : ConnectedPool) (t : PoolType) : Decidable (s.Unfilled t) :=
  inferInstanceAs (Decidable (_ ∨ _))

/-- What a push works with: the vectors of the service are filled first. -/
def prepared (s : ConnectedPool) (t : PoolType) (type : NlsType) : ConnectedPool :=
  if s.Unfilled t then s.initThisNodesPool t type else s

/-! ## Taking a connection -/

/-- `equalFlag`: whether the request may run on the connection of the slot. -/
def equalFlag (s : ConnectedPool) (kind : Kind) (t : PoolType) (request : Ptr)
    (it : ConnectedNodeProcess) : Bool :=
  let paramsInPool := (s.memory it.request).param
  let paramsInRequest := (s.memory request).param
  paramsInPool.equals paramsInRequest &&
    (match kind with
      | .prestarted => paramsInPool.sdkName == paramsInRequest.sdkName
      | .preconnected => it.sdkName == paramsInRequest.sdkName) &&
    (t != .sy ||
      match kind with
      | .prestarted => paramsInPool.version == paramsInRequest.version
      | .preconnected => it.ttsVersion == paramsInRequest.version)

/-- What the loop stops at. -/
def canTake (s : ConnectedPool) (kind : Kind) (t : PoolType) (request : Ptr)
    (it : ConnectedNodeProcess) : Bool :=
  it.status == kind.status && it.canPick && s.equalFlag kind t request it

/-- The request gets the connection of the slot and loses its own. -/
def fillNode (s : ConnectedPool) (request : Ptr) (index : ℕ) (it : ConnectedNodeProcess) :
    ConnectedPool :=
  let oldSSL := (s.memory request).sslHandle
  (s.delete (if oldSSL = 0 then [] else [.ssl oldSSL])).setMemory request fun held =>
    { held with
      sslHandle := it.sslHandle
      socketFd := it.socketFd
      urlAddress := (s.memory it.request).urlAddress
      poolIndex := index }

/-- The loop of the two functions below; `list` is the list it pops from. -/
def popOneNode (s : ConnectedPool) (kind list : Kind) (request : Ptr) (t : PoolType) :
    ConnectedPool × Bool :=
  let (popIndex, rest) := popListFront (s.nodes t list).indexList
  match firstFrom (s.canTake kind t request) popIndex (s.nodes t kind).requests with
  | none => (s.modifyList t list fun _ => rest, false)
  | some (index, it) =>
    let s := s.fillNode request index it
    let s := s.modifySlot t kind index fun it =>
      { it with canPick := false, curRequest := request, curRequestInvalid := false }
    (s.modifyList t list fun _ => removeElement rest index, true)

def popOnePrestartedNode (s : ConnectedPool) (request : Ptr) (t : PoolType) :
    ConnectedPool × Bool :=
  s.popOneNode .prestarted .prestarted request t

/-- For the recognizer the loop pops from the list of the other vector. -/
def popOnePreconnectedNode (s : ConnectedPool) (request : Ptr) (t : PoolType) :
    ConnectedPool × Bool :=
  s.popOneNode .preconnected (match t with | .sr => .prestarted | _ => .preconnected) request t

/-- What the two functions below share. -/
def popNode (s : ConnectedPool) (kind : Kind) (request : Ptr) (type : NlsType) :
    ConnectedPool × Bool :=
  if request = 0 then (s, false)
  else match poolOf type with
    | none => (s, false)
    | some t =>
      if s.Unfilled t then (s.initThisNodesPool t type, false)
      else if 0 < s.getNumberOfNodes t kind then
        match kind with
        | .prestarted => s.popOnePrestartedNode request t
        | .preconnected => s.popOnePreconnectedNode request t
      else (s, false)

def popPrestartedNode (s : ConnectedPool) (request : Ptr) (type : NlsType) :
    ConnectedPool × Bool :=
  s.popNode .prestarted request type

def popPreconnectedNode (s : ConnectedPool) (request : Ptr) (type : NlsType) :
    ConnectedPool × Bool :=
  s.popNode .preconnected request type

/-! ## Storing a connection -/

/-- The time after which the token is not trusted, at least an hour ahead of its deadline. -/
def tokenDeadline (old expiration now : UInt64) : UInt64 :=
  let redundancyTimeDiffMs : UInt64 := 3600000
  let diffTimeMs : UInt64 := 43200000
  if redundancyTimeDiffMs < expiration then
    if now + diffTimeMs ≤ expiration then now + diffTimeMs
    else if now + redundancyTimeDiffMs ≤ expiration then expiration - redundancyTimeDiffMs
    else expiration
  else old

/-- Whether a slot can be filled. -/
def isFree (it : ConnectedNodeProcess) : Bool :=
  it.status == .preNodeToBeCreated && !it.shouldRelease && it.request == 0

/-- The slot the request points at, when it has the request's connection. -/
def existent (s : ConnectedPool) (kind : Kind) (request : Ptr) (t : PoolType) :
    Option (ℕ × ConnectedNodeProcess) :=
  let index := (s.memory request).poolIndex
  let requests := (s.nodes t kind).requests
  -- a negative index is larger than any size once it is converted
  if 0 ≤ index ∧ index ≤ requests.length then
    match requests[index.toNat]? with
    | some node =>
      if node.status = kind.status ∧
          (s.memory request).socketFd = (s.memory node.request).socketFd ∧
          (s.memory request).sslHandle = (s.memory node.request).sslHandle then
        some (index.toNat, node)
      else none
    | none => none
  else none

/-- A free slot filled with the request. -/
def stored (s : ConnectedPool) (kind : Kind) (request : Ptr) (now : UInt64)
    (it : ConnectedNodeProcess) : ConnectedNodeProcess :=
  let held := s.memory request
  { it with
    type := held.param.mode
    status := kind.status
    workableTimestamp := held.lastOpTimestampMs
    startTimestamp := held.lastOpTimestampMs
    ttsVersion := if held.param.mode = .typeTts then held.param.version else it.ttsVersion
    sdkName := held.param.sdkName
    request := request
    socketFd := held.socketFd
    sslHandle := held.sslHandle
    canPick := false
    curRequest := 0
    shouldRelease := false
    shouldPreconnect := false
    curRequestInvalid := false
    isAbnormal := false
    tokenExpirationTimestamp :=
      tokenDeadline it.tokenExpirationTimestamp held.param.tokenExpirationTime now }

/-- Store in the first free slot. -/
def store (s : ConnectedPool) (kind : Kind) (request : Ptr) (t : PoolType) (now : UInt64) :
    ConnectedPool × Bool :=
  match firstFrom isFree 0 (s.nodes t kind).requests with
  | none => (s, false)
  | some (index, _) =>
    let filled := s.modifySlot t kind index (s.stored kind request now)
    let filled := filled.setMemory request fun held => { held with poolIndex := index }
    ({ filled with work := fun t' => if t' = t then true else filled.work t' }, true)

/-- The mark of a slot whose request has finished with the connection. -/
def usedUp (lastOp : UInt64) (it : ConnectedNodeProcess) : ConnectedNodeProcess :=
  { it with workableTimestamp := lastOp, canPick := false, curRequestInvalid := true }

/-- Push to a vector that is filled: an old node may be in the pool already. -/
def pushFilled (s : ConnectedPool) (kind : Kind) (request : Ptr) (t : PoolType) (newNode : Bool)
    (now : UInt64) : ConnectedPool × Bool :=
  match if newNode then none else s.existent kind request t with
  | some (index, _) =>
    (s.modifySlot t kind index (usedUp (s.memory request).lastOpTimestampMs), true)
  | none => s.store kind request t now

/-- What the two functions below share. -/
def pushNode (s : ConnectedPool) (kind : Kind) (request : Ptr) (type : NlsType) (newNode : Bool)
    (now : UInt64) : ConnectedPool × Bool :=
  if request = 0 then (s, false)
  else match poolOf type with
    | none => (s, false)
    | some t => (s.prepared t type).pushFilled kind request t newNode now

def pushPreconnectedNode (s : ConnectedPool) (request : Ptr) (type : NlsType) (newNode : Bool)
    (now : UInt64) : ConnectedPool × Bool :=
  s.pushNode .preconnected request type newNode now

def pushPrestartedNode (s : ConnectedPool) (request : Ptr) (type : NlsType) (newNode : Bool)
    (now : UInt64) : ConnectedPool × Bool :=
  s.pushNode .prestarted request type newNode now

/-- A free slot filled with the connection of a preconnected one; its other flags stay. -/
def moved (s : ConnectedPool) (request owner : Ptr) (now : UInt64) (it : ConnectedNodeProcess) :
    ConnectedNodeProcess :=
  let held := s.memory owner
  { it with
    type := held.param.mode
    status := .preNodeStarted
    workableTimestamp := held.lastOpTimestampMs
    startTimestamp := held.lastOpTimestampMs
    ttsVersion := if held.param.mode = .typeTts then held.param.version else it.ttsVersion
    sdkName := (s.memory request).param.sdkName
    request := owner
    socketFd := (s.memory request).socketFd
    sslHandle := (s.memory request).sslHandle
    canPick := false
    curRequest := 0
    tokenExpirationTimestamp :=
      tokenDeadline it.tokenExpirationTimestamp held.param.tokenExpirationTime now }

def pushPrestartedNodeFromPreconnected (s : ConnectedPool) (request : Ptr) (type : NlsType)
    (now : UInt64) : ConnectedPool × Bool :=
  if request = 0 then (s, false)
  else match poolOf type with
    | none => (s, false)
    | some t =>
      match s.existent .preconnected request t with
      | none => (s, false)
      | some (index, node) =>
        match firstFrom isFree 0 (s.nodes t .prestarted).requests with
        | none => (s.modifySlot t .preconnected index .clearNode, false)
        | some (free, _) =>
          let filled := s.modifySlot t .prestarted free (s.moved request node.request now)
          let filled := filled.setMemory node.request fun held => { held with poolIndex := free }
          let filled := { filled with work := fun t' => if t' = t then true else filled.work t' }
          (filled.modifySlot t .preconnected index .clearNode, true)

/-! ## Looking a connection up -/

/-- The first slot in use that satisfies the test, the prestarted vector before the other. The
count of nodes that precedes each loop only skips one that finds nothing. -/
def findNode (s : ConnectedPool) (t : PoolType) (start : ℕ) (p : ConnectedNodeProcess → Bool) :
    Option (Kind × ℕ × ConnectedNodeProcess) :=
  let search (kind : Kind) :=
    firstFrom (fun it => it.status == kind.status && p it) start (s.nodes t kind).requests
  match search .prestarted with
  | some found => some (.prestarted, found)
  | none => (search .preconnected).map fun found => (.preconnected, found)

/-- The connection that a slot holds. -/
def hasConnection (socketFd : ℤ) (sslHandle : Ptr) (it : ConnectedNodeProcess) : Bool :=
  socketFd == it.socketFd && sslHandle == it.sslHandle

/-- The result is whether it is found, `oriRequestIsAbnormal` and `requestInPool`. -/
def sslBelongToPool (s : ConnectedPool) (request : Ptr) (type : NlsType) : Bool × Bool × Bool :=
  let held := s.memory request
  match (poolOf type).bind fun t =>
      s.findNode t 0 (hasConnection held.socketFd held.sslHandle) with
  | some (_, _, it) => (true, it.isAbnormal, request == it.request)
  | none => (false, false, false)

def curRequestIsAbnormal (s : ConnectedPool) (request : Ptr) (type : NlsType) : ConnectedPool :=
  match poolOf type with
  | none => s
  | some t =>
    let held := s.memory request
    match s.findNode t 0 (hasConnection held.socketFd held.sslHandle) with
    | none => s
    | some (kind, index, _) =>
      (s.modifySlot t kind index fun it => { it with isAbnormal := true }).modifyList t kind
        (removeElement · index)

def finishPushPreNode (s : ConnectedPool) (type : NlsType) (curSocketFd : ℤ)
    (curSslHandle : Ptr) (index : ℤ) : ConnectedPool :=
  match poolOf type with
  | none => s
  | some t =>
    -- a negative index starts the search at 0
    match s.findNode t index.toNat (hasConnection curSocketFd curSslHandle) with
    | none => s
    | some (kind, curIndex, _) =>
      (s.modifySlot t kind curIndex fun it =>
        { it with canPick := true, curRequest := 0, curRequestInvalid := false }).modifyList t kind
        (insertListInOrder · curIndex)

def requestInPool (s : ConnectedPool) (request : Ptr) (type : NlsType) : Bool :=
  match poolOf type with
  | none => false
  | some t => (s.findNode t 0 fun it => request == it.request).isSome

def deletePreNodeByRequest (s : ConnectedPool) (request : Ptr) (type : NlsType) :
    ConnectedPool :=
  match poolOf type with
  | none => s
  | some t =>
    match s.findNode t 0 fun it => request == it.request with
    | none => s
    | some (kind, index, _) => s.modifySlot t kind index .clearNode

/-- Delete the request of a slot, if it has one. -/
def deleteOwner (s : ConnectedPool) (it : ConnectedNodeProcess) : ConnectedPool :=
  if it.request ≠ 0 then s.deleteRequest it.request else s

def deletePreNodeBySSL (s : ConnectedPool) (curSslHandle : Ptr) (type : NlsType) :
    ConnectedPool :=
  match poolOf type with
  | none => s
  | some t =>
    match s.findNode t 0 fun it => it.sslHandle == curSslHandle with
    | none => s
    | some (kind, index, it) => (s.deleteOwner it).modifySlot t kind index .clearNode

/-! ## The timer -/

/-- What the timer reads at a slot: the time, and what `syncPingCmd` returned. -/
structure Check where
  now : UInt64
  pingOk : Bool
  deriving DecidableEq, Repr

def timeoutMs (s : ConnectedPool) : Kind → UInt64
  | .prestarted => s.prerequestedTimeoutMs
  | .preconnected => s.preconnectedTimeoutMs

/-- The last use of a connection is taken from the request it is lent to. -/
def refresh (s : ConnectedPool) (it : ConnectedNodeProcess) : ConnectedNodeProcess :=
  if !it.curRequestInvalid ∧ it.curRequest ≠ 0 ∧
      0 < (s.memory it.curRequest).lastOpTimestampMs then
    { it with workableTimestamp := (s.memory it.curRequest).lastOpTimestampMs }
  else it

/-- `timeout`. -/
def idleTimeout (s : ConnectedPool) (kind : Kind) (now : UInt64) (it : ConnectedNodeProcess) :
    Bool :=
  s.timeoutMs kind ≤ now - it.workableTimestamp

def tokenTimeout (now : UInt64) (it : ConnectedNodeProcess) : Bool :=
  0 < it.tokenExpirationTimestamp ∧ it.tokenExpirationTimestamp ≤ now

/-- What every branch that empties a slot writes. -/
def emptied (it : ConnectedNodeProcess) : ConnectedNodeProcess :=
  { it with
    status := .preNodeToBeCreated
    startTimestamp := 0
    workableTimestamp := 0
    socketFd := -1
    sslHandle := 0
    ttsVersion := 0
    canPick := false
    curRequestInvalid := false
    shouldRelease := true }

/-- The branch of the deadlines. -/
def expired (kind : Kind) (byToken : Bool) (it : ConnectedNodeProcess) : ConnectedNodeProcess :=
  let it := { emptied it with shouldPreconnect := it.shouldPreconnect || !byToken }
  match kind with
  | .prestarted => { it with tokenExpirationTimestamp := 0, sdkName := [] }
  | .preconnected => it

/-- The branch of the ping. -/
def unreachable (kind : Kind) (it : ConnectedNodeProcess) : ConnectedNodeProcess :=
  let it := { emptied it with shouldPreconnect := false, sdkName := [] }
  match kind with
  | .prestarted => it
  | .preconnected => { it with tokenExpirationTimestamp := 0 }

/-- What the loops of `timeoutPrestartedNode` and `timeoutPreconnectedNode` do at a slot. -/
def timeoutSlot (s : ConnectedPool) (kind : Kind) (check : Check) (it : ConnectedNodeProcess) :
    ConnectedNodeProcess :=
  if it.status = kind.status then
    let it := s.refresh it
    if s.idleTimeout kind check.now it ∨ tokenTimeout check.now it then
      if it.curRequest = 0 then expired kind (tokenTimeout check.now it) it else it
    else if it.request = 0 ∨ check.pingOk then it
    else unreachable kind it
  else it

def timeoutNode (s : ConnectedPool) (t : PoolType) (kind : Kind) (checks : ℕ → Check) :
    PreNodes :=
  { s.nodes t kind with
    requests := (s.nodes t kind).requests.mapIdx fun i it => s.timeoutSlot kind (checks i) it }

def timeoutPrestartedNode (s : ConnectedPool) (t : PoolType) (checks : ℕ → Check) : PreNodes :=
  s.timeoutNode t .prestarted checks

def timeoutPreconnectedNode (s : ConnectedPool) (t : PoolType) (checks : ℕ → Check) : PreNodes :=
  s.timeoutNode t .preconnected checks

/-- One tick; the deferred release runs on the same thread. -/
def connectPoolEventCallback (s : ConnectedPool) (checks : PoolType → Kind → ℕ → Check) :
    ConnectedPool :=
  if s.releasing.isSome then s
  else { s with
    nodes := fun t kind =>
      if s.work t then
        match kind with
        | .prestarted => s.timeoutPrestartedNode t (checks t .prestarted)
        | .preconnected => s.timeoutPreconnectedNode t (checks t .preconnected)
      else s.nodes t kind }

/-! ## The deferred release -/

/-- `deleteOrPreconnectNodeShouldReleased` at a slot, up to the new connection: the lock of the
pool is not held, so other calls may come between this part and the next. -/
def beginRelease (s : ConnectedPool) (t : PoolType) (kind : Kind) (index : ℕ) : ConnectedPool :=
  match s.releasing, (s.nodes t kind).requests[index]? with
  | none, some it =>
    if it.shouldRelease ∧ s.work t then
      { s.modifySlot t kind index fun it =>
          { it with shouldRelease := false, shouldPreconnect := false } with
        releasing := some ⟨t, kind, index, it.shouldPreconnect⟩ }
    else s
  | _, _ => s

/-- From there on: delete the request of the slot and empty it. -/
def endRelease (s : ConnectedPool) : ConnectedPool :=
  match s.releasing with
  | none => s
  | some at_ =>
    match (s.nodes at_.type at_.kind).requests[at_.index]? with
    | none => { s with releasing := none }
    | some it =>
      { (s.deleteOwner it).modifySlot at_.type at_.kind at_.index .clearNode with
        releasing := none }

end ConnectedPool

/-! ## Runs -/

/-- What can happen to the pool; `outside` is whatever the rest of the library does to requests. -/
inductive PoolAction
  | popPrestartedNode (request : Ptr) (type : NlsType)
  | popPreconnectedNode (request : Ptr) (type : NlsType)
  | pushPreconnectedNode (request : Ptr) (type : NlsType) (newNode : Bool) (now : UInt64)
  | pushPrestartedNode (request : Ptr) (type : NlsType) (newNode : Bool) (now : UInt64)
  | pushPrestartedNodeFromPreconnected (request : Ptr) (type : NlsType) (now : UInt64)
  | curRequestIsAbnormal (request : Ptr) (type : NlsType)
  | finishPushPreNode (type : NlsType) (curSocketFd : ℤ) (curSslHandle : Ptr) (index : ℤ)
  | deletePreNodeByRequest (request : Ptr) (type : NlsType)
  | deletePreNodeBySSL (curSslHandle : Ptr) (type : NlsType)
  | connectPoolEventCallback (checks : PoolType → Kind → ℕ → ConnectedPool.Check)
  | beginRelease (t : PoolType) (kind : Kind) (index : ℕ)
  | endRelease
  | outside (memory : Ptr → RequestObject)

def ConnectedPool.step (s : ConnectedPool) : PoolAction → ConnectedPool
  | .popPrestartedNode request type => (s.popPrestartedNode request type).1
  | .popPreconnectedNode request type => (s.popPreconnectedNode request type).1
  | .pushPreconnectedNode request type newNode now =>
    (s.pushPreconnectedNode request type newNode now).1
  | .pushPrestartedNode request type newNode now =>
    (s.pushPrestartedNode request type newNode now).1
  | .pushPrestartedNodeFromPreconnected request type now =>
    (s.pushPrestartedNodeFromPreconnected request type now).1
  | .curRequestIsAbnormal request type => s.curRequestIsAbnormal request type
  | .finishPushPreNode type curSocketFd curSslHandle index =>
    s.finishPushPreNode type curSocketFd curSslHandle index
  | .deletePreNodeByRequest request type => s.deletePreNodeByRequest request type
  | .deletePreNodeBySSL curSslHandle type => s.deletePreNodeBySSL curSslHandle type
  | .connectPoolEventCallback checks => s.connectPoolEventCallback checks
  | .beginRelease t kind index => s.beginRelease t kind index
  | .endRelease => s.endRelease
  | .outside memory => { s with memory := memory }

/-- A pool as it is constructed. -/
def ConnectedPool.new (maxNumber : ℕ) (timeoutMs requestedTimeoutMs : UInt32) : ConnectedPool where
  maxPreconnectedNumber := maxNumber
  preconnectedTimeoutMs := timeoutMs.toUInt64
  prerequestedTimeoutMs := requestedTimeoutMs.toUInt64

end NlsSdk.Transport
