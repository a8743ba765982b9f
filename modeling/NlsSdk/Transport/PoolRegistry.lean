import NlsSdk.Transport.NlsClientImpl

/-!
# The registry and the requests that exist

A request is registered when it is created, and the pool deletes requests
without a word to the node manager. The entries stay right in the runs in which
the pool deletes only requests that the user has released.
-/
namespace NlsSdk.Transport

open Library

namespace NlsClientImpl

open ConnectedPool

def Unregistered (c : NlsClientImpl) (request : Ptr) : Prop :=
  c.nodeManager.infoByRequest request = none

/-- Every entry is of a request and a node that exist, and a request at another address can be
registered. -/
structure HoldsLive (c : NlsClientImpl) : Prop where
  infoByRequest : ∀ request info, c.nodeManager.infoByRequest request = some info →
    c.Exists request
  requestListByNode : ∀ node request, c.nodeManager.requestListByNode node = some request →
    c.Exists request ∧ c.memory.getConnectNode request = node
  registers : ∀ new instance_, instance_ ≠ 0 → new.request ≠ 0 → new.node ≠ 0 →
    ¬ c.Exists new.request → (c.register new instance_).2 = .ok 0

/-- The pool acts in order, and a slot deleted by its handle has an owner that was released. -/
structure KeepsRegistered (c : NlsClientImpl) (a : PoolAction) : Prop where
  orderly : Orderly c.preconnectedPool c.Exists c.Unregistered a
  bySSL : ∀ ssl type t kind i it, a = .deletePreNodeBySSL ssl type → poolOf type = some t →
    c.preconnectedPool.findNode t 0 (fun it => it.sslHandle == ssl) = some (kind, i, it) →
      c.Unregistered it.request

/-- A release leaves no slot with the request it deletes, and deletes no other that is
registered. -/
structure ReleasesAlone (c : NlsClientImpl) (request : Ptr) : Prop where
  leaves : (c.sslBelongToPool request).2.2 = false →
    ∀ t kind i it, c.preconnectedPool.slot t kind i = some it → it.request = request →
      (c.sslBelongToPool request).1 = false ∧
        poolOf (c.preconnectedPool.memory request).param.mode = some t ∧ it.status = kind.status
  bySSL : (c.sslBelongToPool request).1 = true → (c.sslBelongToPool request).2.1 = true →
    ∀ t kind i it, poolOf (c.preconnectedPool.memory request).param.mode = some t →
      c.preconnectedPool.findNode t 0
        (fun it => it.sslHandle == (c.preconnectedPool.memory request).sslHandle) =
          some (kind, i, it) →
        it.request = request ∨ c.Unregistered it.request

/-- What is asked of a step: `new` returns memory that is not in use, and the pool and the
releases keep to the above. -/
def Tidy (c : NlsClientImpl) : ClientAction → Prop
  | .createRequest new _ _ => ¬ c.Exists new.request ∧
      ∀ request, c.Exists request → c.memory.getConnectNode request ≠ new.node
  | .usePreconnection _ _ => True
  | .updateNodeStatus _ _ => True
  | .releaseRequest request _ =>
    ∀ status, c.nodeManager.checkRequestExist c.memory request = .ok status →
      c.ReleasesAlone request
  | .pool a => c.KeepsRegistered a

/-- The entries, and the owners of the slots. -/
structure Registry (c : NlsClientImpl) : Prop where
  inverse : c.nodeManager.Inverse
  known : ∀ request info, c.nodeManager.infoByRequest request = some info →
    c.Exists request ∧ info.node = c.memory.getConnectNode request
  distinct : ∀ request other, c.Exists request → c.Exists other →
    c.memory.getConnectNode other = c.memory.getConnectNode request → other = request
  owned : Owned c.preconnectedPool c.Exists c.Unregistered

variable {c : NlsClientImpl} {request : Ptr}

/-! ## The manager -/

lemma add_ok {m : NlsNodeManager} {memory : Memory} {instance_ : Ptr} {k : ℕ}
    (ok : (m.addRequestIntoInfoWithInstance memory request instance_).2 = .ok k) :
    (m.addRequestIntoInfoWithInstance memory request instance_).1.infoByRequest =
      Function.update m.infoByRequest request
        (some (NlsNodeManager.newInfo memory request instance_)) := by
  unfold NlsNodeManager.addRequestIntoInfoWithInstance at ok ⊢
  dsimp only at ok ⊢
  split_ifs at ok ⊢
  cases known : m.infoByRequest request with
  | none => rfl
  | some info =>
    rw [known] at ok
    dsimp only at ok ⊢
    split_ifs at ok ⊢
    rfl

lemma updateNodeStatus_info (m : NlsNodeManager) (memory : Memory) (node : Ptr)
    (status : NodeStatus) (request : Ptr) :
    (m.updateNodeStatus memory node status).1.infoByRequest request = m.infoByRequest request ∨
      ∃ info, m.infoByRequest request = some info ∧
        (m.updateNodeStatus memory node status).1.infoByRequest request =
          some { info with status := status } := by
  unfold NlsNodeManager.updateNodeStatus
  split
  · exact .inl rfl
  split
  · exact .inl rfl
  dsimp only
  split
  · rename_i info known
    split
    · exact .inl rfl
    · dsimp only
      by_cases same : request = memory.getRequest node
      · subst same
        rw [Function.update_self]
        exact .inr ⟨info, known, rfl⟩
      · rw [Function.update_of_ne same]
        exact .inl rfl
  · exact .inl rfl

lemma forget_info (c : NlsClientImpl) (request other : Ptr) :
    (c.forget request).nodeManager.infoByRequest other =
      if other = request ∧ request ≠ 0 then none else c.nodeManager.infoByRequest other := by
  unfold forget NlsNodeManager.removeRequestFromInfo
  by_cases null : request = 0
  · rw [if_pos null, if_neg fun h => h.2 null]
  · rw [if_neg null]
    cases known : c.nodeManager.infoByRequest request with
    | none =>
      dsimp only
      split
      · rename_i same
        rw [same.1, known]
      · rfl
    | some info =>
      dsimp only
      by_cases same : other = request
      · rw [if_pos ⟨same, null⟩, same, Function.update_self]
      · rw [if_neg fun h => same h.1, Function.update_of_ne same]

lemma forget_unregistered (some_ : request ≠ 0) : (c.forget request).Unregistered request := by
  rw [Unregistered, forget_info, if_pos ⟨rfl, some_⟩]

lemma Unregistered.forget {other : Ptr} (unregistered : c.Unregistered other) :
    (c.forget request).Unregistered other := by
  rw [Unregistered, forget_info]
  split
  · rfl
  · exact unregistered

lemma Registry.forget (good : c.Registry) (request : Ptr) : (c.forget request).Registry where
  inverse := NlsNodeManager.removeRequest_inverse good.inverse request
  known other info known := by
    rw [forget_info] at known
    split at known
    · cases known
    · exact good.known other info known
  distinct := good.distinct
  owned := good.owned.mono (fun _ _ live => live) fun _ _ _ gone => gone.forget

/-- An action of the pool keeps the registry when it deletes no request that is registered. -/
lemma Registry.pool (good : c.Registry) {a : PoolAction} (keeps : c.KeepsRegistered a) :
    (c.withPool (c.preconnectedPool.step a)).Registry where
  inverse := good.inverse
  known request info known := by
    obtain ⟨live, node⟩ := good.known request info known
    refine ⟨exists_withPool.mpr ⟨live, fun gone => ?_⟩, node⟩
    have unregistered : c.Unregistered request := by
      rcases deletedBy_gone good.owned (deletedBy_of_perished gone) with gone |
        ⟨ssl, type, t, kind, i, it, delete_, service, found, same⟩
      · exact gone
      · rw [← same]
        exact keeps.bySSL ssl type t kind i it delete_ service found
    exact absurd (known.symm.trans unregistered) (by simp)
  distinct request other live live' same :=
    good.distinct request other (exists_withPool.mp live).1 (exists_withPool.mp live').1 same
  owned := by
    refine (owned_step good.owned keeps.orderly).mono ?_ fun _ _ _ gone => gone
    rintro request - ⟨live, kept⟩
    exact exists_withPool.mpr ⟨live, fun gone => kept (deletedBy_of_perished gone)⟩

lemma keepsRegistered_of {a : PoolAction} (noPush : pushed a = none)
    (noTick : ∀ checks, a ≠ .connectPoolEventCallback checks)
    (noDelete : ∀ ssl type, a ≠ .deletePreNodeBySSL ssl type) : c.KeepsRegistered a where
  orderly := orderly_of noPush noTick
  bySSL ssl type _ _ _ _ delete_ := absurd delete_ (noDelete ssl type)

/-- So does the deletion of a request that is not registered and owns no slot. -/
lemma Registry.delete (good : c.Registry) (unregistered : c.Unregistered request)
    (alone : ¬ c.preconnectedPool.Owns request) :
    (c.withPool (c.preconnectedPool.deleteRequest request)).Registry := by
  have others : ∀ other, c.Exists other → other ≠ request →
      (c.withPool (c.preconnectedPool.deleteRequest request)).Exists other := by
    intro other live different
    refine exists_withPool.mpr ⟨live, ?_⟩
    rw [perished_deleteRequest, requestDeletions]
    intro gone
    rcases List.mem_cons.mp gone with same | later
    · exact different (Deletion.request.inj same)
    · split at later
      · simp at later
      · cases later
  constructor
  · exact good.inverse
  · intro other info known
    obtain ⟨live, node⟩ := good.known other info known
    refine ⟨others other live ?_, node⟩
    rintro rfl
    rw [Unregistered] at unregistered
    exact absurd (unregistered.symm.trans known) (by simp)
  · intro first second live live' same
    exact good.distinct first second (exists_withPool.mp live).1 (exists_withPool.mp live').1 same
  · refine (good.owned.congr (c.preconnectedPool.deleteRequest request) rfl rfl).mono ?_
      fun _ _ _ gone => gone
    intro other owns live
    refine others other live ?_
    rintro rfl
    exact alone owns

/-! ## Steps -/

lemma createRequest_registry (good : c.Registry) {new : NewRequest} (instance_ : Ptr)
    (byUser : Bool) (unused : ¬ c.Exists new.request)
    (unusedNode : ∀ request, c.Exists request → c.memory.getConnectNode request ≠ new.node) :
    (c.createRequest new instance_ byUser).Registry := by
  unfold createRequest
  cases result : (c.register new instance_).2 with
  | error code => exact good
  | ok k =>
    have unregistered : c.nodeManager.infoByRequest new.request = none := by
      cases known : c.nodeManager.infoByRequest new.request with
      | none => rfl
      | some info => exact absurd (good.known _ info known).1 unused
    have node : (c.memory.construct new).getConnectNode new.request = new.node :=
      Function.update_self ..
    have info : (c.enroll new instance_ byUser).nodeManager.infoByRequest = _ := add_ok result
    have old : ∀ other, c.Exists other → other ≠ new.request := by
      rintro _ live rfl
      exact unused live
    have oldNode : ∀ other, c.Exists other →
        (c.memory.construct new).getConnectNode other = c.memory.getConnectNode other :=
      fun other live => Function.update_of_ne (old other live) ..
    constructor
    · refine (NlsNodeManager.registers_iff good.inverse instance_).mpr fun _ _ _ => ?_
      rw [unregistered, node]
      dsimp only
      cases listed : c.nodeManager.requestListByNode new.node with
      | none => rfl
      | some other =>
        obtain ⟨info, known, same⟩ := (good.inverse.inverse new.node other).mp listed
        obtain ⟨live, node⟩ := good.known other info known
        exact absurd (node.symm.trans same) (unusedNode other live)
    · intro other info' known
      rw [info] at known
      by_cases same : other = new.request
      · subst same
        rw [Function.update_self, Option.some.injEq] at known
        subst known
        exact ⟨exists_enroll.mpr (.inl rfl), rfl⟩
      · rw [Function.update_of_ne same] at known
        obtain ⟨live, node⟩ := good.known other info' known
        exact ⟨exists_enroll.mpr (.inr live), node.trans (oldNode other live).symm⟩
    · intro first second live live' same
      have same : (c.memory.construct new).getConnectNode second =
        (c.memory.construct new).getConnectNode first := same
      rcases exists_enroll.mp live with isNew | live
      · rcases exists_enroll.mp live' with isNew' | live'
        · rw [isNew, isNew']
        · rw [isNew, node, oldNode second live'] at same
          exact absurd same (unusedNode second live')
      · rcases exists_enroll.mp live' with isNew' | live'
        · rw [isNew', node, oldNode first live] at same
          exact absurd same.symm (unusedNode first live)
        · rw [oldNode first live, oldNode second live'] at same
          exact good.distinct first second live live' same
    · refine Owned.mono (good.owned.congr
        (c.enroll new instance_ byUser).preconnectedPool rfl rfl) ?_ ?_
      · intro other _ live
        exact exists_enroll.mpr (.inr live)
      · intro other _ live gone
        rw [Unregistered, info, Function.update_of_ne (old other live)]
        exact gone

lemma updateNodeStatus_registry (good : c.Registry) (node : Ptr) (status : NodeStatus) :
    (c.updateNodeStatus node status).Registry where
  inverse := NlsNodeManager.updateNodeStatus_inverse good.inverse status
  known request info known := by
    rcases updateNodeStatus_info c.nodeManager c.memory node status request with same |
      ⟨info', known', changed⟩
    · exact good.known request info (same.symm.trans known)
    · obtain rfl := Option.some.inj (changed.symm.trans known)
      exact good.known request info' known'
  distinct := good.distinct
  owned := by
    refine good.owned.mono (fun _ _ live => live) fun request _ _ gone => ?_
    rcases updateNodeStatus_info c.nodeManager c.memory node status request with same |
      ⟨info', known', -⟩
    · exact same.trans gone
    · exact absurd (known'.symm.trans gone) (by simp)

lemma releaseRequest_registry (good : c.Registry)
    (alone : ∀ status, c.nodeManager.checkRequestExist c.memory request = .ok status →
      c.ReleasesAlone request) : (c.releaseRequest request).Registry := by
  rcases releaseRequest_cases c request with same | ⟨some_, ⟨status, check⟩, same⟩
  · rw [same]
    exact good
  rw [same]
  have alone := alone status check
  have forgot := good.forget request
  have unregistered := forget_unregistered (c := c) some_
  -- what the last part does to a client that keeps the slots
  have last : ∀ d : NlsClientImpl, d.Registry → d.nodeManager = (c.forget request).nodeManager →
      d.preconnectedPool.nodes = c.preconnectedPool.nodes →
      (c.sslBelongToPool request).1 = true →
      (d.leavePool request (c.preconnectedPool.memory request) true
        (c.sslBelongToPool request).2.1).Registry := by
    intro d good manager nodes inPool
    unfold leavePool
    rw [if_pos rfl]
    split
    · rename_i abnormal
      refine good.pool (a := .deletePreNodeBySSL _ _) ⟨orderly_of rfl (by simp), ?_⟩
      intro ssl type t kind i it delete_ service found
      obtain ⟨rfl, rfl⟩ := PoolAction.deletePreNodeBySSL.inj delete_
      have found' : c.preconnectedPool.findNode t 0 (fun it => it.sslHandle ==
          (c.preconnectedPool.memory request).sslHandle) = some (kind, i, it) := by
        rw [← found, findNode, findNode, nodes]
      have gone : (c.forget request).Unregistered it.request := by
        rcases alone.bySSL inPool abnormal t kind i it service found' with own | gone
        · rw [own]
          exact unregistered
        · exact gone.forget
      rw [Unregistered, manager]
      exact gone
    · exact good.pool (a := .finishPushPreNode _ _ _ _) (keepsRegistered_of rfl (by simp) (by simp))
  cases requestInPool : (c.sslBelongToPool request).2.2 with
  | true =>
    have inPool := sslBelongToPool_inPool requestInPool
    rw [inPool]
    exact last (c.forget request) forgot rfl rfl inPool
  | false =>
    have leaves := alone.leaves requestInPool
    cases inPool : (c.sslBelongToPool request).1 with
    | true =>
      have owns : ¬ (c.forget request).preconnectedPool.Owns request := by
        rintro ⟨t, kind, i, it, there, own⟩
        have out := (leaves t kind i it there own).1
        rw [inPool] at out
        cases out
      refine last _ ?_ rfl rfl inPool
      exact forgot.delete unregistered owns
    | false =>
      unfold leavePool deleteUnless
      rw [if_neg (by simp), if_neg (by simp)]
      have step := delete_then_leave (c.forget request) request
        (c.preconnectedPool.memory request).param.mode
      refine Eq.mpr (congrArg Registry step) ?_
      refine Registry.delete (Registry.pool forgot (a := .deletePreNodeByRequest _ _)
        (keepsRegistered_of rfl (by simp) (by simp))) unregistered ?_
      refine deletePreNodeByRequest_leaves forgot.owned some_ fun t kind i it there own => ?_
      exact (leaves t kind i it there own).2

/-- A tidy step keeps the registry. -/
theorem registry_step (a : ClientAction) (good : c.Registry) (tidy : c.Tidy a) :
    (c.step a).Registry := by
  cases a with
  | createRequest new instance_ byUser =>
    exact createRequest_registry good instance_ byUser tidy.1 tidy.2
  | usePreconnection request value =>
    exact ⟨good.inverse, good.known, good.distinct, good.owned⟩
  | updateNodeStatus node status => exact updateNodeStatus_registry good node status
  | releaseRequest request instance_ =>
    have given : Registry { c with held := Function.update c.held request false } :=
      ⟨good.inverse, good.known, good.distinct, good.owned⟩
    simp only [step, releaseRequestImpl]
    unfold releaseOwnRequest
    split
    · exact given
    · exact releaseRequest_registry given fun status check =>
        ⟨(tidy status check).leaves, (tidy status check).bySSL⟩
  | pool a => exact good.pool tidy

lemma registry_new (maxNumber : ℕ) (timeoutMs requestedTimeoutMs : UInt32) :
    (new maxNumber timeoutMs requestedTimeoutMs).Registry where
  inverse := NlsNodeManager.inverse_empty
  known request info known := by cases known
  distinct request other live := by cases live
  owned := by
    have empty : ∀ t kind i, (ConnectedPool.new maxNumber timeoutMs requestedTimeoutMs).slot t kind i =
        none := fun t kind i => rfl
    refine ⟨sound_new .., ?_, ?_, ?_, ?_⟩
    · intro t kind i it at_
      cases at_
    · intro t kind i it t' kind' i' it' at_
      cases at_
    · intro t kind i it at_
      cases at_
    · intro t kind i it at_
      cases at_

lemma Registry.holdsLive (good : c.Registry) : c.HoldsLive where
  infoByRequest request info known := (good.known request info known).1
  requestListByNode node request listed := by
    obtain ⟨info, known, same⟩ := (good.inverse.inverse node request).mp listed
    obtain ⟨live, own⟩ := good.known request info known
    exact ⟨live, own.symm.trans same⟩
  registers new instance_ client some_ node unused := by
    have unregistered : c.nodeManager.infoByRequest new.request = none := by
      cases known : c.nodeManager.infoByRequest new.request with
      | none => rfl
      | some info => exact absurd (good.known _ info known).1 unused
    have own : (c.memory.construct new).getConnectNode new.request = new.node :=
      Function.update_self ..
    simp only [register, NlsNodeManager.addRequestIntoInfoWithInstance, if_neg client,
      if_neg some_, own, if_neg node, unregistered]

/-- In every run whose steps are tidy the registry holds live requests and nodes only, and every
request the allocator returns can be registered. -/
theorem registry_live (maxNumber : ℕ) (timeoutMs requestedTimeoutMs : UInt32)
    (as : List ClientAction)
    (tidy : Along step Tidy (new maxNumber timeoutMs requestedTimeoutMs) as) :
    ∀ bs, bs <+: as → (run step (new maxNumber timeoutMs requestedTimeoutMs) bs).HoldsLive := by
  rintro bs ⟨rest, rfl⟩
  rw [along_append] at tidy
  refine Registry.holdsLive (invariant_along (fun c a good tidy => ?_) (registry_new ..) tidy.1)
  exact registry_step a good tidy

def asr : NewRequest := { request := 1, node := 2, sslHandle := 3 }

/-- A session in the pool: its request is created, leaves its connection, is released or not, and
the connection fails its ping. -/
def spentSession (released : Bool) : List ClientAction :=
  [.createRequest asr 5 true, .usePreconnection 1 true, .updateNodeStatus 2 .nodeStatusClosed,
    .pool (.pushPrestartedNode 1 .typeAsr true 0)] ++
  (if released then [.releaseRequest 1 5] else []) ++
  [.pool (.connectPoolEventCallback fun _ _ _ => ⟨1, false⟩),
    .pool (.beginRelease .sr .prestarted 0), .pool .endRelease]

/-- A request that the user has not released is deleted with its entry left, and nothing can be
registered at its address. -/
theorem deleted_request_registered :
    let c := run step (new 1 30000 30000) (spentSession false)
    (c.nodeManager.infoByRequest 1).isSome = true ∧ c.live 1 = false ∧
      (c.register asr 5).2 = .error .invalidRequest := by
  decide

lemma all_released (request : Ptr) :
    (run step (new 1 30000 30000) ((spentSession true).take 5)).Unregistered request := by
  have entries : (run step (new 1 30000 30000)
      ((spentSession true).take 5)).nodeManager.infoByRequest =
      Function.update (Function.update (Function.update (fun _ => none) 1
        (some ⟨1, 2, 5, [], .nodeStatusCreated⟩)) 1 (some ⟨1, 2, 5, [], .nodeStatusClosed⟩)) 1
        none := rfl
  rw [Unregistered, entries]
  by_cases same : request = 1
  · rw [same, Function.update_self]
  · simp [same]

/-- The same session with a release in it. -/
theorem registry_live_spent :
    (run step (new 1 30000 30000) (spentSession true)).HoldsLive := by
  refine registry_live 1 30000 30000 (spentSession true) ⟨⟨?_, ?_⟩, trivial, trivial,
    ⟨⟨?_, ?_⟩, ?_⟩, ?_, ⟨⟨?_, ?_⟩, ?_⟩, keepsRegistered_of rfl (by simp) (by simp),
    keepsRegistered_of rfl (by simp) (by simp), trivial⟩ _ (List.prefix_refl _)
  · simp [Exists, new]
  · simp [Exists, new]
  · intro kind request type now t push some_ service isNew
    cases push
    refine ⟨rfl, ?_⟩
    rintro ⟨t, kind, i, it, there, -⟩
    cases there
  · intro checks tick
    cases tick
  · intro ssl type t kind i it delete_
    cases delete_
  · intro status check
    refine ⟨fun out => ?_, fun inPool abnormal => ?_⟩
    · exact absurd out (by decide)
    · exact absurd abnormal (by decide)
  · intro kind request type now t push
    cases push
  · intro checks tick idle t kind i it work there used emptied
    exact all_released it.request
  · intro ssl type t kind i it delete_
    cases delete_

end NlsClientImpl

end NlsSdk.Transport
