import NlsSdk.Library.Run
import NlsSdk.Transport.Global

/-!
# The node manager

`NlsNodeManager`: the requests that exist and the nodes they were registered
with, kept in two maps. What a request or a node holds is read from memory at
the time of the call.
-/
namespace NlsSdk.Transport

open Library

inductive NodeStatus
  | nodeStatusInvalid | nodeStatusCreated | nodeStatusInvoking | nodeStatusInvoked
  | nodeStatusConnecting | nodeStatusConnected | nodeStatusHandshaking | nodeStatusHandshaked
  | nodeStatusRunning | nodeStatusCancelling | nodeStatusClosing | nodeStatusClosed
  | nodeStatusReleasing | nodeStatusReleased
  deriving DecidableEq, Repr

/-- The value of the enumerator. -/
def NodeStatus.value (status : NodeStatus) : ℕ := status.ctorIdx

/-- An address; 0 is the null pointer. -/
abbrev Ptr := ℕ

structure NodeInfo where
  request : Ptr
  node : Ptr
  instance_ : Ptr
  uuid : Bytes
  status : NodeStatus
  deriving DecidableEq, Repr

/-- What the objects hold when a call looks at them. -/
structure Memory where
  getConnectNode : Ptr → Ptr
  getRequest : Ptr → Ptr
  getNodeUUID : Ptr → Bytes

structure NlsNodeManager where
  requestListByNode : Ptr → Option Ptr := fun _ => none
  infoByRequest : Ptr → Option NodeInfo := fun _ => none

namespace NlsNodeManager

/-- A request in use must not be registered again. -/
def Conflicts (info : NodeInfo) : Prop :=
  NodeStatus.nodeStatusCreated.value < info.status.value ∧
    info.status.value < NodeStatus.nodeStatusReleased.value

instance (info : NodeInfo) : Decidable (Conflicts info) := inferInstanceAs (Decidable (_ ∧ _))

def newInfo (memory : Memory) (request instance_ : Ptr) : NodeInfo where
  request := request
  node := memory.getConnectNode request
  instance_ := instance_
  uuid := memory.getNodeUUID (memory.getConnectNode request)
  status := .nodeStatusCreated

def addRequestIntoInfoWithInstance (m : NlsNodeManager) (memory : Memory)
    (request instance_ : Ptr) : NlsNodeManager × Ret :=
  if instance_ = 0 then (m, .error .eventClientEmpty)
  else if request = 0 then (m, .error .requestEmpty)
  else
    let node := memory.getConnectNode request
    if node = 0 then (m, .error .nodeEmpty)
    else match m.infoByRequest request with
      | some info =>
        if Conflicts info then (m, .error .invalidRequest)
        else if info.instance_ ≠ instance_ then (m, .error .invalidRequest)
        else
          ({ infoByRequest :=
              Function.update m.infoByRequest request (some (newInfo memory request instance_))
             requestListByNode := Function.update m.requestListByNode node (some request) },
            .ok 0)
      | none =>
        ({ infoByRequest :=
            Function.update m.infoByRequest request (some (newInfo memory request instance_))
           -- `insert` leaves an entry that is there
           requestListByNode := match m.requestListByNode node with
            | some _ => m.requestListByNode
            | none => Function.update m.requestListByNode node (some request) },
          .ok 0)

/-- The end of the call: a call that waits first only looks at the status. -/
def removeRequestFromInfo (m : NlsNodeManager) (request : Ptr) : NlsNodeManager × Ret :=
  if request = 0 then (m, .error .requestEmpty)
  else match m.infoByRequest request with
    | some info =>
      ({ infoByRequest := Function.update m.infoByRequest request none
         requestListByNode := Function.update m.requestListByNode info.node none }, .ok 0)
    | none => (m, .error .invalidRequest)

/-- Whether the request belongs to the client. -/
def checkRequestWithInstance (m : NlsNodeManager) (memory : Memory) (request instance_ : Ptr) :
    Ret :=
  if instance_ = 0 then .error .eventClientEmpty
  else if request = 0 then .error .requestEmpty
  else match m.infoByRequest request with
    | some info =>
      let node := memory.getConnectNode request
      if info.instance_ ≠ instance_ then .error .invalidRequest
      else if m.requestListByNode node = none then .error .invalidRequest
      else if info.uuid ≠ memory.getNodeUUID node then .error .invalidRequest
      else .ok 0
    | none => .error .invalidRequest

def checkRequestExist (m : NlsNodeManager) (memory : Memory) (request : Ptr) :
    Except NlsRetCode NodeStatus :=
  if request = 0 then .error .requestEmpty
  else match m.infoByRequest request with
    | some info =>
      let node := memory.getConnectNode request
      if info.request ≠ request then .error .invalidRequest
      else if m.requestListByNode node = none then .error .invalidRequest
      else if info.uuid ≠ memory.getNodeUUID node then .error .invalidRequest
      else .ok info.status
    | none => .error .requestEmpty

def checkNodeExist (m : NlsNodeManager) (memory : Memory) (node : Ptr) :
    Except NlsRetCode NodeStatus :=
  if node = 0 then .error .nodeEmpty
  else if m.requestListByNode node = none then .error .nodeEmpty
  else
    let request := memory.getRequest node
    if request = 0 then .error .requestEmpty
    else match m.infoByRequest request with
      | some info =>
        if info.request ≠ request then .error .invalidRequest
        else if info.uuid ≠ memory.getNodeUUID node then .error .invalidRequest
        else .ok info.status
      | none => .error .requestEmpty

def updateNodeStatus (m : NlsNodeManager) (memory : Memory) (node : Ptr) (status : NodeStatus) :
    NlsNodeManager × Ret :=
  if node = 0 then (m, .error .nodeEmpty)
  else if m.requestListByNode node = none then (m, .error .nodeEmpty)
  else
    let request := memory.getRequest node
    match m.infoByRequest request with
    | some info =>
      if info.uuid ≠ memory.getNodeUUID node then (m, .error .invalidRequest)
      else
        ({ m with infoByRequest :=
            Function.update m.infoByRequest request (some { info with status := status }) },
          .ok 0)
    | none => (m, .error .invaildNodeStatus)

/-- A node and its request are found under the same conditions, with the same status. -/
theorem check_agree (m : NlsNodeManager) {memory : Memory} {node : Ptr} (some_ : node ≠ 0)
    (linked : memory.getConnectNode (memory.getRequest node) = node) (status : NodeStatus) :
    m.checkNodeExist memory node = .ok status ↔
      m.checkRequestExist memory (memory.getRequest node) = .ok status := by
  unfold checkNodeExist checkRequestExist
  rw [linked, if_neg some_]
  by_cases noRequest : memory.getRequest node = 0
  · simp only [noRequest, if_true]
    split <;> simp
  simp only [noRequest, if_false]
  by_cases listed : m.requestListByNode node = none
  · rw [if_pos listed]
    cases m.infoByRequest (memory.getRequest node) with
    | none => simp
    | some info =>
      dsimp only
      split <;> simp
  · rw [if_neg listed]
    cases m.infoByRequest (memory.getRequest node) with
    | none => simp
    | some info => simp [listed]

/-! ## Calls -/

/-- A call of the manager, with what it finds in memory. -/
inductive Call
  | addRequestIntoInfoWithInstance (memory : Memory) (request instance_ : Ptr)
  | removeRequestFromInfo (request : Ptr)
  | checkRequestExist (memory : Memory) (request : Ptr)
  | checkNodeExist (memory : Memory) (node : Ptr)
  | updateNodeStatus (memory : Memory) (node : Ptr) (status : NodeStatus)

def call (m : NlsNodeManager) : Call → NlsNodeManager
  | .addRequestIntoInfoWithInstance memory request instance_ =>
    (m.addRequestIntoInfoWithInstance memory request instance_).1
  | .removeRequestFromInfo request => (m.removeRequestFromInfo request).1
  | .checkRequestExist _ _ => m
  | .checkNodeExist _ _ => m
  | .updateNodeStatus memory node status => (m.updateNodeStatus memory node status).1

/-- The record found through a node. -/
def infoByNode (m : NlsNodeManager) (node : Ptr) : Option NodeInfo :=
  m.requestListByNode node >>= m.infoByRequest

/-- The maps are mutually inverse, and a record is the same from either side. -/
structure Inverse (m : NlsNodeManager) : Prop where
  inverse : ∀ node request, m.requestListByNode node = some request ↔
    ∃ info, m.infoByRequest request = some info ∧ info.node = node
  record : ∀ request info, m.infoByRequest request = some info →
    m.infoByNode info.node = some info ∧ info.request = request

/-- A call that registers a request does so with the node it has, or, for a new request, with a
node no request has. -/
def Registers (m : NlsNodeManager) : Call → Prop
  | .addRequestIntoInfoWithInstance memory request instance_ =>
    instance_ ≠ 0 → request ≠ 0 → memory.getConnectNode request ≠ 0 →
      match m.infoByRequest request with
      | some info => Conflicts info ∨ info.instance_ ≠ instance_ ∨
          info.node = memory.getConnectNode request
      | none => m.requestListByNode (memory.getConnectNode request) = none
  | _ => True

variable {m : NlsNodeManager} {memory : Memory} {request node : Ptr}

/-- Maps that are mutually inverse, as far as one side tells. -/
lemma inverse_of_iff (inverse : ∀ node request, m.requestListByNode node = some request ↔
      ∃ info, m.infoByRequest request = some info ∧ info.node = node)
    (own : ∀ request info, m.infoByRequest request = some info → info.request = request) :
    m.Inverse := by
  refine ⟨inverse, fun request info known => ⟨?_, own request info known⟩⟩
  have listed := (inverse info.node request).mpr ⟨info, known, rfl⟩
  rw [infoByNode, listed]
  exact known

/-- Changing anything but the node of a record changes no inverse. -/
lemma Inverse.update (inverse : m.Inverse) {info info' : NodeInfo}
    (known : m.infoByRequest request = some info) (node : info'.node = info.node)
    (own : info'.request = info.request) :
    Inverse { m with infoByRequest := Function.update m.infoByRequest request (some info') } := by
  apply inverse_of_iff
  · intro node' request'
    dsimp only
    rw [inverse.inverse]
    by_cases same : request' = request
    · subst same
      rw [Function.update_self, known]
      simp [node]
    · rw [Function.update_of_ne same]
  · intro request' info'' is
    dsimp only at is
    by_cases same : request' = request
    · subst same
      rw [Function.update_self] at is
      obtain rfl := Option.some.inj is
      rw [own]
      exact (inverse.record request' info known).2
    · rw [Function.update_of_ne same] at is
      exact (inverse.record request' info'' is).2

/-- A request registered again keeps the maps inverse when its node is the one recorded. -/
lemma cover_iff (inverse : m.Inverse) {info : NodeInfo} (instance_ : Ptr)
    (known : m.infoByRequest request = some info) :
    Inverse
      { infoByRequest :=
          Function.update m.infoByRequest request (some (newInfo memory request instance_))
        requestListByNode :=
          Function.update m.requestListByNode (memory.getConnectNode request) (some request) } ↔
      info.node = memory.getConnectNode request := by
  have listed := (inverse.inverse info.node request).mpr ⟨info, known, rfl⟩
  constructor
  · intro inverse'
    by_contra other
    -- the entry of the node recorded before is still there
    obtain ⟨info', found, same⟩ := (inverse'.inverse info.node request).mp (by
      dsimp only
      rw [Function.update_of_ne other]
      exact listed)
    dsimp only at found
    rw [Function.update_self] at found
    obtain rfl := Option.some.inj found
    exact other same.symm
  · intro same
    rw [← same, ← listed, Function.update_eq_self]
    exact inverse.update known same.symm (inverse.record request info known).2.symm

/-- A new request keeps the maps inverse when no other has its node. -/
lemma insert_iff (inverse : m.Inverse) (instance_ : Ptr) (unknown : m.infoByRequest request = none) :
    Inverse
      { infoByRequest :=
          Function.update m.infoByRequest request (some (newInfo memory request instance_))
        requestListByNode := match m.requestListByNode (memory.getConnectNode request) with
          | some _ => m.requestListByNode
          | none =>
            Function.update m.requestListByNode (memory.getConnectNode request) (some request) } ↔
      m.requestListByNode (memory.getConnectNode request) = none := by
  have new : (newInfo memory request instance_).node = memory.getConnectNode request := rfl
  generalize memory.getConnectNode request = node at new ⊢
  cases taken : m.requestListByNode node with
  | some other =>
    simp only [reduceCtorEq, iff_false]
    intro inverse'
    have listed := (inverse'.inverse node request).mpr ⟨_, Function.update_self .., new⟩
    obtain ⟨info, known, -⟩ := (inverse.inverse node request).mp listed
    rw [unknown] at known
    cases known
  | none =>
    refine iff_of_true (inverse_of_iff ?_ ?_) rfl
    · intro node' request'
      dsimp only
      have before := inverse.inverse node' request'
      by_cases sameNode : node' = node <;> by_cases sameRequest : request' = request
      · subst sameNode sameRequest
        simp [new]
      · subst sameNode
        rw [Function.update_self, Function.update_of_ne sameRequest, ← before, taken]
        simp [Ne.symm sameRequest]
      · subst sameRequest
        rw [Function.update_of_ne sameNode, Function.update_self, before, unknown]
        simp [new, Ne.symm sameNode]
      · rw [Function.update_of_ne sameNode, Function.update_of_ne sameRequest]
        exact before
    · intro request' info is
      dsimp only at is
      by_cases same : request' = request
      · subst same
        rw [Function.update_self] at is
        obtain rfl := Option.some.inj is
        rfl
      · rw [Function.update_of_ne same] at is
        exact (inverse.record request' info is).2

/-- Registering a request keeps the maps inverse exactly when it has this node, or, for a new
one, when no request has this node. -/
lemma registers_iff (inverse : m.Inverse) (instance_ : Ptr) :
    Inverse (m.addRequestIntoInfoWithInstance memory request instance_).1 ↔
      m.Registers (.addRequestIntoInfoWithInstance memory request instance_) := by
  unfold addRequestIntoInfoWithInstance Registers
  by_cases noInstance : instance_ = 0
  · rw [if_pos noInstance]
    exact iff_of_true inverse fun is => absurd noInstance is
  by_cases noRequest : request = 0
  · rw [if_neg noInstance, if_pos noRequest]
    exact iff_of_true inverse fun _ is => absurd noRequest is
  by_cases noNode : memory.getConnectNode request = 0
  · rw [if_neg noInstance, if_neg noRequest]
    dsimp only
    rw [if_pos noNode]
    exact iff_of_true inverse fun _ _ is => absurd noNode is
  rw [if_neg noInstance, if_neg noRequest]
  dsimp only
  rw [if_neg noNode]
  simp only [noInstance, noRequest, noNode, ne_eq, not_false_eq_true, forall_const]
  cases known : m.infoByRequest request with
  | some info =>
    dsimp only
    by_cases conflict : Conflicts info
    · rw [if_pos conflict]
      exact iff_of_true inverse (Or.inl conflict)
    by_cases foreign : info.instance_ = instance_
    · rw [if_neg conflict, if_neg (not_not.mpr foreign), cover_iff inverse instance_ known]
      simp only [conflict, foreign, false_or, not_true_eq_false]
    · rw [if_neg conflict, if_pos foreign]
      exact iff_of_true inverse (Or.inr (Or.inl foreign))
  | none => exact insert_iff inverse instance_ known

/-- A removed request leaves no entry behind. -/
lemma removeRequest_inverse (inverse : m.Inverse) (request : Ptr) :
    Inverse (m.removeRequestFromInfo request).1 := by
  unfold removeRequestFromInfo
  split
  · exact inverse
  split
  case h_2 => exact inverse
  rename_i info known
  have listed := (inverse.inverse info.node request).mpr ⟨info, known, rfl⟩
  apply inverse_of_iff
  · intro node' request'
    dsimp only
    have before := inverse.inverse node' request'
    by_cases sameNode : node' = info.node <;> by_cases sameRequest : request' = request
    · subst sameNode sameRequest
      simp
    · subst sameNode
      rw [Function.update_self, Function.update_of_ne sameRequest, ← before, listed]
      simp [Ne.symm sameRequest]
    · subst sameRequest
      rw [Function.update_of_ne sameNode, Function.update_self, before, known]
      simp [Ne.symm sameNode]
    · rw [Function.update_of_ne sameNode, Function.update_of_ne sameRequest]
      exact before
  · intro request' info' is
    dsimp only at is
    by_cases same : request' = request
    · subst same
      rw [Function.update_self] at is
      cases is
    · rw [Function.update_of_ne same] at is
      exact (inverse.record request' info' is).2

lemma updateNodeStatus_inverse (inverse : m.Inverse) (status : NodeStatus) :
    Inverse (m.updateNodeStatus memory node status).1 := by
  unfold updateNodeStatus
  split
  · exact inverse
  split
  · exact inverse
  dsimp only
  split
  · rename_i info known
    split
    · exact inverse
    · exact inverse.update known rfl rfl
  · exact inverse

/-- Each call keeps the maps inverse exactly when it registers nothing in another's place. -/
theorem call_inverse (m : NlsNodeManager) (c : Call) (inverse : m.Inverse) :
    (m.call c).Inverse ↔ m.Registers c := by
  cases c with
  | addRequestIntoInfoWithInstance memory request instance_ =>
    exact registers_iff inverse instance_
  | removeRequestFromInfo request =>
    exact iff_of_true (removeRequest_inverse inverse request) trivial
  | checkRequestExist memory request => exact iff_of_true inverse trivial
  | checkNodeExist memory node => exact iff_of_true inverse trivial
  | updateNodeStatus memory node status =>
    exact iff_of_true (updateNodeStatus_inverse inverse status) trivial

lemma inverse_empty : Inverse {} := by
  apply inverse_of_iff
  · simp
  · simp

/-- In every sequence of calls the maps are mutually inverse in every state reached exactly when
each call registers a request with a node of its own. -/
theorem node_bijection (calls : List Call) :
    (∀ before, before <+: calls → (run call {} before).Inverse) ↔
      Along call Registers {} calls :=
  along_iff_invariant call_inverse inverse_empty calls

/-- Memory in which every request has this node. -/
def withNode (node : Ptr) : Memory := ⟨fun _ => node, fun _ => 1, fun _ => []⟩

/-- A request registered again with another node leaves the entry of the first. -/
theorem readded_node_stale :
    ¬Inverse (run call {} [.addRequestIntoInfoWithInstance (withNode 10) 1 5,
      .addRequestIntoInfoWithInstance (withNode 11) 1 5]) := by
  intro inverse
  obtain ⟨info, found, same⟩ := (inverse.inverse 10 1).mp (by decide)
  have known : (run call {} [.addRequestIntoInfoWithInstance (withNode 10) 1 5,
      .addRequestIntoInfoWithInstance (withNode 11) 1 5]).infoByRequest 1 =
    some ⟨1, 11, 5, [], .nodeStatusCreated⟩ := by decide
  rw [known] at found
  obtain rfl := Option.some.inj found
  cases same

end NlsNodeManager

end NlsSdk.Transport
