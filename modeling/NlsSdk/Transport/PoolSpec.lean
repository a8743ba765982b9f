import NlsSdk.Transport.ConnectedPool

/-!
# What a step of the pool does to a slot

`Change` lists the ways in which an action turns one slot into another, and
`step_slot` says that there are no others.
-/
namespace NlsSdk.Transport

open Library

namespace ConnectedPool

def slot (s : ConnectedPool) (t : PoolType) (kind : Kind) (i : ℕ) : Option ConnectedNodeProcess :=
  (s.nodes t kind).requests[i]?

/-! ## The fields after an update -/

section Fields

variable (s : ConnectedPool) (t t' : PoolType) (kind kind' : Kind) (i j : ℕ)
variable (f : ConnectedNodeProcess → ConnectedNodeProcess) (g : List ℕ → List ℕ)
variable (h : RequestObject → RequestObject) (request : Ptr) (objects : List Deletion)

@[simp] lemma modifySlot_memory : (s.modifySlot t kind i f).memory = s.memory := rfl
@[simp] lemma modifyList_memory : (s.modifyList t kind g).memory = s.memory := rfl
@[simp] lemma delete_memory : (s.delete objects).memory = s.memory := rfl
@[simp] lemma deleteRequest_memory : (s.deleteRequest request).memory = s.memory := rfl
@[simp] lemma fillNodes_memory (type : NlsType) : (s.fillNodes t kind type).memory = s.memory := rfl
@[simp] lemma initThisNodesPool_memory (type : NlsType) :
    (s.initThisNodesPool t type).memory = s.memory := rfl

@[simp] lemma modifySlot_releasing : (s.modifySlot t kind i f).releasing = s.releasing := rfl
@[simp] lemma modifyList_releasing : (s.modifyList t kind g).releasing = s.releasing := rfl
@[simp] lemma setMemory_releasing : (s.setMemory request h).releasing = s.releasing := rfl
@[simp] lemma initThisNodesPool_releasing (type : NlsType) :
    (s.initThisNodesPool t type).releasing = s.releasing := rfl

@[simp] lemma setMemory_nodes : (s.setMemory request h).nodes = s.nodes := rfl
@[simp] lemma delete_nodes : (s.delete objects).nodes = s.nodes := rfl
@[simp] lemma deleteRequest_nodes : (s.deleteRequest request).nodes = s.nodes := rfl
@[simp] lemma fillNode_nodes (it : ConnectedNodeProcess) :
    (s.fillNode request i it).nodes = s.nodes := rfl

@[simp] lemma deleteOwner_memory (it : ConnectedNodeProcess) :
    (s.deleteOwner it).memory = s.memory := by
  unfold deleteOwner
  split <;> rfl

@[simp] lemma deleteOwner_nodes (it : ConnectedNodeProcess) :
    (s.deleteOwner it).nodes = s.nodes := by
  unfold deleteOwner
  split <;> rfl

@[simp] lemma deleteOwner_releasing (it : ConnectedNodeProcess) :
    (s.deleteOwner it).releasing = s.releasing := by
  unfold deleteOwner
  split <;> rfl

@[simp] lemma slot_setMemory : (s.setMemory request h).slot t kind i = s.slot t kind i := rfl
@[simp] lemma slot_deleteRequest : (s.deleteRequest request).slot t kind i = s.slot t kind i := rfl
@[simp] lemma slot_fillNode (it : ConnectedNodeProcess) :
    (s.fillNode request j it).slot t kind i = s.slot t kind i := rfl

@[simp] lemma slot_deleteOwner (it : ConnectedNodeProcess) :
    (s.deleteOwner it).slot t kind i = s.slot t kind i := by
  rw [slot, deleteOwner_nodes, slot]

@[simp] lemma slot_modifyList : (s.modifyList t kind g).slot t' kind' i = s.slot t' kind' i := by
  unfold slot modifyList setNodes
  dsimp only
  split
  · rename_i same
    obtain ⟨rfl, rfl⟩ := same
    rfl
  · rfl

lemma slot_modifySlot :
    (s.modifySlot t kind i f).slot t' kind' j =
      if t' = t ∧ kind' = kind ∧ j = i then (s.slot t kind i).map f else s.slot t' kind' j := by
  unfold slot modifySlot setNodes
  dsimp only
  by_cases vector : t' = t ∧ kind' = kind
  · obtain ⟨rfl, rfl⟩ := vector
    rw [if_pos ⟨rfl, rfl⟩, List.getElem?_modify]
    by_cases same : j = i
    · subst same
      simp
    · simp [same, Ne.symm same]
  · rw [if_neg vector, if_neg fun h => vector ⟨h.1, h.2.1⟩]

lemma modifySlot_indexList :
    ((s.modifySlot t kind i f).nodes t' kind').indexList = (s.nodes t' kind').indexList := by
  unfold modifySlot setNodes
  dsimp only
  split
  · rename_i same
    obtain ⟨rfl, rfl⟩ := same
    rfl
  · rfl

lemma modifyList_indexList :
    ((s.modifyList t kind g).nodes t' kind').indexList =
      if t' = t ∧ kind' = kind then g (s.nodes t kind).indexList
      else (s.nodes t' kind').indexList := by
  unfold modifyList setNodes
  dsimp only
  split
  · rfl
  · rfl

lemma fillNodes_indexList (type : NlsType) :
    ((s.fillNodes t kind type).nodes t' kind').indexList = (s.nodes t' kind').indexList := by
  unfold fillNodes setNodes
  dsimp only
  split
  · rename_i same
    obtain ⟨rfl, rfl⟩ := same
    rfl
  · rfl

end Fields

/-- A slot that `initThisNodesPool` adds. -/
def fresh (type : NlsType) : ConnectedNodeProcess :=
  { type := type, status := .preNodeToBeCreated }

/-- The slots that are there stay, the others are to be created. -/
lemma slot_fillNodes (s : ConnectedPool) (t t' : PoolType) (kind kind' : Kind) (type : NlsType)
    (i : ℕ) :
    (s.fillNodes t kind type).slot t' kind' i = s.slot t' kind' i ∨
      (s.slot t' kind' i = none ∧ (s.fillNodes t kind type).slot t' kind' i = some (fresh type)) := by
  unfold slot fillNodes setNodes
  dsimp only
  by_cases vector : t' = t ∧ kind' = kind
  · obtain ⟨rfl, rfl⟩ := vector
    rw [if_pos ⟨rfl, rfl⟩]
    by_cases inside : i < (s.nodes t' kind').requests.length
    · rw [List.getElem?_append_left inside]
      exact .inl rfl
    · rw [List.getElem?_append_right (by omega), List.getElem?_replicate]
      have outside := List.getElem?_eq_none_iff.mpr (not_lt.mp inside)
      split
      · exact .inr ⟨outside, rfl⟩
      · exact .inl outside.symm
  · rw [if_neg vector]
    exact .inl rfl

lemma slot_initThisNodesPool (s : ConnectedPool) (t t' : PoolType) (kind : Kind) (type : NlsType)
    (i : ℕ) :
    (s.initThisNodesPool t type).slot t' kind i = s.slot t' kind i ∨
      (s.slot t' kind i = none ∧
        (s.initThisNodesPool t type).slot t' kind i = some (fresh type)) := by
  unfold initThisNodesPool
  rcases (s.fillNodes t .prestarted type).slot_fillNodes t t' .preconnected kind type i with
    same | ⟨missing, added⟩
  · rw [same]
    exact slot_fillNodes ..
  · rcases s.slot_fillNodes t t' .prestarted kind type i with same | ⟨-, there⟩
    · exact .inr ⟨same ▸ missing, added⟩
    · rw [there] at missing
      exact absurd missing (by simp)

@[simp] lemma prepared_memory (s : ConnectedPool) (t : PoolType) (type : NlsType) :
    (s.prepared t type).memory = s.memory := by
  unfold prepared
  split <;> rfl

@[simp] lemma prepared_releasing (s : ConnectedPool) (t : PoolType) (type : NlsType) :
    (s.prepared t type).releasing = s.releasing := by
  unfold prepared
  split <;> rfl

lemma slot_prepared (s : ConnectedPool) (t t' : PoolType) (kind : Kind) (type : NlsType) (i : ℕ) :
    (s.prepared t type).slot t' kind i = s.slot t' kind i ∨
      (s.slot t' kind i = none ∧ (s.prepared t type).slot t' kind i = some (fresh type)) := by
  unfold prepared
  split
  · exact slot_initThisNodesPool ..
  · exact .inl rfl

/-! ## What a search finds -/

lemma findNode_found {s : ConnectedPool} {t : PoolType} {start i : ℕ} {kind : Kind}
    {p : ConnectedNodeProcess → Bool} {it : ConnectedNodeProcess}
    (found : s.findNode t start p = some (kind, i, it)) :
    s.slot t kind i = some it ∧ it.status = kind.status ∧ p it = true := by
  have search : firstFrom (fun it => it.status == kind.status && p it) start
      (s.nodes t kind).requests = some (i, it) := by
    unfold findNode at found
    dsimp only at found
    split at found
    · rename_i first
      obtain ⟨rfl, rfl⟩ := Prod.mk.inj (Option.some.inj found)
      exact first
    · obtain ⟨_, second, same⟩ := Option.map_eq_some_iff.mp found
      obtain ⟨rfl, rfl⟩ := Prod.mk.inj same
      exact second
  obtain ⟨-, there, holds, -⟩ := firstFrom_eq_some.mp search
  simp only [Bool.and_eq_true, beq_iff_eq] at holds
  exact ⟨there, holds⟩

lemma existent_found {s : ConnectedPool} {t : PoolType} {request : Ptr} {i : ℕ} {kind : Kind}
    {node : ConnectedNodeProcess} (found : s.existent kind request t = some (i, node)) :
    s.slot t kind i = some node ∧ node.status = kind.status ∧
      (s.memory request).socketFd = (s.memory node.request).socketFd ∧
      (s.memory request).sslHandle = (s.memory node.request).sslHandle := by
  unfold existent at found
  dsimp only at found
  split at found
  · split at found
    · split at found
      · rename_i there same
        obtain ⟨rfl, rfl⟩ := Prod.mk.inj (Option.some.inj found)
        exact ⟨there, same⟩
      · cases found
    · cases found
  · cases found

lemma existent_index {s : ConnectedPool} {t : PoolType} {request : Ptr} {i : ℕ} {kind : Kind}
    {node : ConnectedNodeProcess} (found : s.existent kind request t = some (i, node)) :
    (s.memory request).poolIndex = i := by
  unfold existent at found
  dsimp only at found
  split at found
  · rename_i range
    split at found
    · split at found
      · obtain ⟨rfl, -⟩ := Prod.mk.inj (Option.some.inj found)
        omega
      · cases found
    · cases found
  · cases found

lemma existent_of_slot {s : ConnectedPool} {t : PoolType} {request : Ptr} {i : ℕ} {kind : Kind}
    {node : ConnectedNodeProcess} (there : s.slot t kind i = some node)
    (index : (s.memory request).poolIndex = i) (used : node.status = kind.status)
    (fd : (s.memory request).socketFd = (s.memory node.request).socketFd)
    (ssl : (s.memory request).sslHandle = (s.memory node.request).sslHandle) :
    s.existent kind request t = some (i, node) := by
  have inside : i < (s.nodes t kind).requests.length := (List.getElem?_eq_some_iff.mp there).1
  unfold existent
  dsimp only
  rw [index, if_pos ⟨by omega, by omega⟩, Int.toNat_natCast,
    show (s.nodes t kind).requests[i]? = some node from there]
  exact if_pos ⟨used, fd, ssl⟩

/-- The slots added by the preparation are not in use. -/
lemma existent_prepared {s : ConnectedPool} {t : PoolType} {type : NlsType} {request : Ptr}
    {kind : Kind} {i : ℕ} {node : ConnectedNodeProcess} :
    (s.prepared t type).existent kind request t = some (i, node) ↔
      s.existent kind request t = some (i, node) := by
  constructor
  · intro found
    obtain ⟨there, used, fd, ssl⟩ := existent_found found
    have index := existent_index found
    rw [prepared_memory] at fd ssl index
    rcases s.slot_prepared t t kind type i with same | ⟨-, added⟩
    · exact existent_of_slot (same ▸ there) index used fd ssl
    · rw [added, Option.some.injEq] at there
      subst there
      exact absurd used.symm kind.status_ne
  · intro found
    obtain ⟨there, used, fd, ssl⟩ := existent_found found
    have index := existent_index found
    have kept : (s.prepared t type).slot t kind i = some node := by
      rcases s.slot_prepared t t kind type i with same | ⟨missing, -⟩
      · rw [same]
        exact there
      · rw [there] at missing
        cases missing
    refine existent_of_slot kept ?_ used ?_ ?_
    · rw [prepared_memory]
      exact index
    · rw [prepared_memory]
      exact fd
    · rw [prepared_memory]
      exact ssl

lemma existent_prepared_none {s : ConnectedPool} {t : PoolType} {type : NlsType} {request : Ptr}
    {kind : Kind} (none_ : (s.prepared t type).existent kind request t = none) :
    s.existent kind request t = none := by
  cases found : s.existent kind request t with
  | none => rfl
  | some place =>
    rw [existent_prepared.mpr found] at none_
    cases none_

lemma free_found {s : ConnectedPool} {t : PoolType} {kind : Kind} {i : ℕ}
    {it : ConnectedNodeProcess}
    (found : firstFrom isFree 0 (s.nodes t kind).requests = some (i, it)) :
    s.slot t kind i = some it ∧ isFree it = true := by
  obtain ⟨-, there, free, -⟩ := firstFrom_eq_some.mp found
  exact ⟨there, free⟩

/-! ## Changes of a slot -/

/-- The requests and the vector an action pops for. -/
def popped : PoolAction → Option (Kind × Ptr × NlsType)
  | .popPrestartedNode request type => some (.prestarted, request, type)
  | .popPreconnectedNode request type => some (.preconnected, request, type)
  | _ => none

/-- The request and the vector an action pushes to. -/
def pushed : PoolAction → Option (Kind × Ptr × NlsType × UInt64)
  | .pushPrestartedNode request type _ now => some (.prestarted, request, type, now)
  | .pushPreconnectedNode request type _ now => some (.preconnected, request, type, now)
  | _ => none

/-- A push of a node that is said to be new. -/
def isNew : PoolAction → Bool
  | .pushPrestartedNode _ _ newNode _ => newNode
  | .pushPreconnectedNode _ _ newNode _ => newNode
  | _ => false

/-- How an action changes the slot `i` of a vector. -/
inductive Change (s : ConnectedPool) (a : PoolAction) (t : PoolType) (kind : Kind) (i : ℕ) :
    ConnectedNodeProcess → ConnectedNodeProcess → Prop
  | same (it) : Change s a t kind i it it
  | taken {request type it} (pop : popped a = some (kind, request, type))
      (service : poolOf type = some t) (given : request ≠ 0)
      (take : s.canTake kind t request it = true) :
      Change s a t kind i it
        { it with canPick := false, curRequest := request, curRequestInvalid := false }
  | stored {request type now it} (push : pushed a = some (kind, request, type, now))
      (service : poolOf type = some t) (given : request ≠ 0) (free : isFree it = true)
      (first : firstFrom isFree 0 ((s.prepared t type).nodes t kind).requests = some (i, it))
      (new : isNew a = true ∨ s.existent kind request t = none) :
      Change s a t kind i it (s.stored kind request now it)
  | usedUp {request type now it} (push : pushed a = some (kind, request, type, now))
      (service : poolOf type = some t) (given : request ≠ 0)
      (found : s.existent kind request t = some (i, it)) :
      Change s a t kind i it (usedUp (s.memory request).lastOpTimestampMs it)
  | moved {request type now it index node}
      (move : a = .pushPrestartedNodeFromPreconnected request type now)
      (service : poolOf type = some t) (given : request ≠ 0) (vector : kind = .prestarted)
      (found : s.existent .preconnected request t = some (index, node))
      (free : isFree it = true)
      (first : firstFrom isFree 0 (s.nodes t .prestarted).requests = some (i, it)) :
      Change s a t kind i it (s.moved request node.request now it)
  | movedAway {request type now it} (move : a = .pushPrestartedNodeFromPreconnected request type now)
      (service : poolOf type = some t) (given : request ≠ 0) (vector : kind = .preconnected)
      (found : s.existent .preconnected request t = some (i, it)) :
      Change s a t kind i it it.clearNode
  | abnormal {request type it} (mark : a = .curRequestIsAbnormal request type)
      (service : poolOf type = some t)
      (found : s.findNode t 0 (hasConnection (s.memory request).socketFd
        (s.memory request).sslHandle) = some (kind, i, it)) :
      Change s a t kind i it { it with isAbnormal := true }
  | finished {type fd ssl index it} (finish : a = .finishPushPreNode type fd ssl index)
      (service : poolOf type = some t)
      (found : s.findNode t index.toNat (hasConnection fd ssl) = some (kind, i, it)) :
      Change s a t kind i it { it with canPick := true, curRequest := 0, curRequestInvalid := false }
  | deletedRequest {request type it} (delete_ : a = .deletePreNodeByRequest request type)
      (service : poolOf type = some t)
      (found : s.findNode t 0 (fun it => request == it.request) = some (kind, i, it)) :
      Change s a t kind i it it.clearNode
  | deletedSSL {ssl type it} (delete_ : a = .deletePreNodeBySSL ssl type)
      (service : poolOf type = some t)
      (found : s.findNode t 0 (fun it => it.sslHandle == ssl) = some (kind, i, it)) :
      Change s a t kind i it it.clearNode
  | timedOut {checks it} (tick : a = .connectPoolEventCallback checks) (idle : s.releasing = none)
      (work : s.work t = true) :
      Change s a t kind i it (s.timeoutSlot kind (checks t kind i) it)
  | begun {it} (release : a = .beginRelease t kind i) (idle : s.releasing = none)
      (there : s.slot t kind i = some it) (marked : it.shouldRelease = true)
      (work : s.work t = true) :
      Change s a t kind i it { it with shouldRelease := false, shouldPreconnect := false }
  | released {it preconnect} (release : a = .endRelease)
      (here : s.releasing = some ⟨t, kind, i, preconnect⟩) :
      Change s a t kind i it it.clearNode

/-- A slot that was there has changed in one of the ways above. -/
def Changed (s : ConnectedPool) (a : PoolAction) (t : PoolType) (kind : Kind) (i : ℕ)
    (after : ConnectedNodeProcess) : Prop :=
  ∃ before, (s.slot t kind i = some before ∨
      s.slot t kind i = none ∧ ∃ type, before = fresh type) ∧
    Change s a t kind i before after

lemma Changed.of_same {s : ConnectedPool} {a : PoolAction} {t : PoolType} {kind : Kind} {i : ℕ}
    {it : ConnectedNodeProcess} (there : s.slot t kind i = some it) : Changed s a t kind i it :=
  ⟨it, .inl there, .same it⟩

lemma Changed.of_prepared {s : ConnectedPool} {a : PoolAction} {t : PoolType} {kind : Kind}
    {i : ℕ} {before after : ConnectedNodeProcess} (t' : PoolType) (type : NlsType)
    (there : (s.prepared t' type).slot t kind i = some before)
    (change : Change s a t kind i before after) : Changed s a t kind i after := by
  rcases s.slot_prepared t' t kind type i with
    same | ⟨missing, added⟩
  · exact ⟨before, .inl (same ▸ there), change⟩
  · rw [added, Option.some.injEq] at there
    exact ⟨before, .inr ⟨missing, type, there.symm⟩, change⟩

/-- Where one slot is modified, only that slot changes. -/
lemma Changed.of_modifySlot {s p : ConnectedPool} {a : PoolAction} {t t' : PoolType}
    {kind kind' : Kind} {i j : ℕ} {f : ConnectedNodeProcess → ConnectedNodeProcess}
    {it after : ConnectedNodeProcess} (there : p.slot t kind i = some it)
    (others : ∀ it, p.slot t' kind' j = some it → Changed s a t' kind' j it)
    (this : t' = t → kind' = kind → j = i → Changed s a t' kind' j (f it))
    (at_ : (p.modifySlot t kind i f).slot t' kind' j = some after) :
    Changed s a t' kind' j after := by
  rw [slot_modifySlot] at at_
  split at at_
  · rename_i here
    rw [there, Option.map_some, Option.some.injEq] at at_
    subst at_
    exact this here.1 here.2.1 here.2.2
  · exact others after at_

section Steps

variable {s : ConnectedPool} {t : PoolType} {kind : Kind} {i : ℕ} {after : ConnectedNodeProcess}

lemma changed_popOneNode {a : PoolAction} {kind' list : Kind} {request : Ptr} {t' : PoolType}
    {type : NlsType} (pop : popped a = some (kind', request, type))
    (service : poolOf type = some t') (given : request ≠ 0)
    (at_ : (s.popOneNode kind' list request t').1.slot t kind i = some after) :
    Changed s a t kind i after := by
  unfold popOneNode at at_
  dsimp only at at_
  split at at_
  · rw [slot_modifyList] at at_
    exact .of_same at_
  · rename_i index it search
    obtain ⟨-, there, take, -⟩ := firstFrom_eq_some.mp search
    rw [slot_modifyList] at at_
    refine .of_modifySlot (p := s.fillNode request index it) there (fun it same => .of_same same)
      ?_ at_
    rintro rfl rfl rfl
    exact ⟨it, .inl there, .taken pop service given take⟩

lemma changed_popNode {a : PoolAction} {kind' : Kind} {request : Ptr} {type : NlsType}
    (pop : popped a = some (kind', request, type))
    (at_ : (s.popNode kind' request type).1.slot t kind i = some after) :
    Changed s a t kind i after := by
  unfold popNode at at_
  split at at_
  · exact .of_same at_
  · rename_i given
    split at at_
    · exact .of_same at_
    · rename_i t' service
      split at at_
      · rename_i unfilled
        refine .of_prepared t' type ?_ (.same after)
        rw [prepared, if_pos unfilled]
        exact at_
      · split at at_
        · split at at_
          · exact changed_popOneNode pop service given at_
          · exact changed_popOneNode pop service given at_
        · exact .of_same at_

lemma changed_pushNode {a : PoolAction} {kind' : Kind} {request : Ptr} {type : NlsType}
    {newNode : Bool} {now : UInt64} (push : pushed a = some (kind', request, type, now))
    (new : isNew a = newNode)
    (at_ : (s.pushNode kind' request type newNode now).1.slot t kind i = some after) :
    Changed s a t kind i after := by
  unfold pushNode at at_
  split at at_
  · exact .of_same at_
  · rename_i given
    split at at_
    · exact .of_same at_
    · rename_i t' service
      have others : ∀ it, (s.prepared t' type).slot t kind i = some it → Changed s a t kind i it :=
        fun it same => .of_prepared t' type same (.same it)
      unfold pushFilled at at_
      split at at_
      · rename_i index it found
        have existent : (s.prepared t' type).existent kind' request t' = some (index, it) := by
          cases newNode
          · exact found
          · cases found
        refine .of_modifySlot (existent_found existent).1 others ?_ at_
        rintro rfl rfl rfl
        rw [prepared_memory]
        exact .of_prepared t type (existent_found existent).1
          (.usedUp push service given (existent_prepared.mp existent))
      · rename_i none_
        have fresh_ : isNew a = true ∨ s.existent kind' request t' = none := by
          cases newNode
          · exact .inr (existent_prepared_none none_)
          · exact .inl new
        unfold store at at_
        split at at_
        · exact others after at_
        · rename_i index it search
          obtain ⟨there, free⟩ := free_found search
          refine .of_modifySlot (p := s.prepared t' type) there others ?_ at_
          rintro rfl rfl rfl
          refine .of_prepared t type there ?_
          have same : (s.prepared t type).stored kind request now it = s.stored kind request now it := by
            unfold stored
            rw [prepared_memory]
          rw [same]
          exact .stored push service given free search fresh_

lemma changed_pushPrestartedNodeFromPreconnected {request : Ptr} {type : NlsType} {now : UInt64}
    (at_ : (s.pushPrestartedNodeFromPreconnected request type now).1.slot t kind i = some after) :
    Changed s (.pushPrestartedNodeFromPreconnected request type now) t kind i after := by
  unfold pushPrestartedNodeFromPreconnected at at_
  split at at_
  · exact .of_same at_
  · rename_i given
    split at at_
    · exact .of_same at_
    · rename_i t' service
      split at at_
      · exact .of_same at_
      · rename_i index node found
        have source := (existent_found found).1
        split at at_
        · refine .of_modifySlot source (fun it same => .of_same same) ?_ at_
          rintro rfl rfl rfl
          exact ⟨node, .inl source, .movedAway rfl service given rfl found⟩
        · rename_i free_ it search
          obtain ⟨there, free⟩ := free_found search
          have kept : (s.modifySlot t' .prestarted free_ (s.moved request node.request now)).slot t'
              .preconnected index = some node := by
            rw [slot_modifySlot, if_neg (by simp)]
            exact source
          refine .of_modifySlot (p := s.modifySlot t' .prestarted free_
            (s.moved request node.request now)) kept ?_ ?_ at_
          · intro it' other
            refine .of_modifySlot there (fun it same => .of_same same) ?_ other
            rintro rfl rfl rfl
            exact ⟨it, .inl there, .moved rfl service given rfl found free search⟩
          · rintro rfl rfl rfl
            exact ⟨node, .inl source, .movedAway rfl service given rfl found⟩

/-- Nothing else can happen to a slot. -/
theorem step_slot {a : PoolAction} (at_ : (s.step a).slot t kind i = some after) :
    Changed s a t kind i after := by
  cases a with
  | popPrestartedNode request type => exact changed_popNode rfl at_
  | popPreconnectedNode request type => exact changed_popNode rfl at_
  | pushPreconnectedNode request type newNode now => exact changed_pushNode rfl rfl at_
  | pushPrestartedNode request type newNode now => exact changed_pushNode rfl rfl at_
  | pushPrestartedNodeFromPreconnected request type now =>
    exact changed_pushPrestartedNodeFromPreconnected at_
  | curRequestIsAbnormal request type =>
    simp only [step, curRequestIsAbnormal] at at_
    split at at_
    · exact .of_same at_
    · rename_i t' service
      split at at_
      · exact .of_same at_
      · rename_i kind' index it found
        rw [slot_modifyList] at at_
        refine .of_modifySlot (findNode_found found).1 (fun it same => .of_same same) ?_ at_
        rintro rfl rfl rfl
        exact ⟨it, .inl (findNode_found found).1, .abnormal rfl service found⟩
  | finishPushPreNode type fd ssl index =>
    simp only [step, finishPushPreNode] at at_
    split at at_
    · exact .of_same at_
    · rename_i t' service
      split at at_
      · exact .of_same at_
      · rename_i kind' index it found
        rw [slot_modifyList] at at_
        refine .of_modifySlot (findNode_found found).1 (fun it same => .of_same same) ?_ at_
        rintro rfl rfl rfl
        exact ⟨it, .inl (findNode_found found).1, .finished rfl service found⟩
  | deletePreNodeByRequest request type =>
    simp only [step, deletePreNodeByRequest] at at_
    split at at_
    · exact .of_same at_
    · rename_i t' service
      split at at_
      · exact .of_same at_
      · rename_i kind' index it found
        refine .of_modifySlot (findNode_found found).1 (fun it same => .of_same same) ?_ at_
        rintro rfl rfl rfl
        exact ⟨it, .inl (findNode_found found).1, .deletedRequest rfl service found⟩
  | deletePreNodeBySSL ssl type =>
    simp only [step, deletePreNodeBySSL] at at_
    split at at_
    · exact .of_same at_
    · rename_i t' service
      split at at_
      · exact .of_same at_
      · rename_i kind' index it found
        have there := (findNode_found found).1
        refine .of_modifySlot (p := s.deleteOwner it) (by rw [slot_deleteOwner]; exact there)
          (fun it same => .of_same (by rw [← same, slot_deleteOwner])) ?_ at_
        rintro rfl rfl rfl
        exact ⟨it, .inl there, .deletedSSL rfl service found⟩
  | connectPoolEventCallback checks =>
    simp only [step, slot, connectPoolEventCallback] at at_
    split at at_
    · exact .of_same at_
    · rename_i idle
      rw [Option.isSome_iff_ne_none, not_not] at idle
      dsimp only at at_
      split at at_
      · rename_i work
        have tick : ((s.nodes t kind).requests.mapIdx fun i it =>
            s.timeoutSlot kind (checks t kind i) it)[i]? = some after := by
          cases kind <;> exact at_
        rw [List.getElem?_mapIdx] at tick
        obtain ⟨it, there, rfl⟩ := Option.map_eq_some_iff.mp tick
        exact ⟨it, .inl there, .timedOut rfl idle work⟩
      · exact .of_same at_
  | beginRelease t' kind' index =>
    simp only [step, beginRelease] at at_
    split at at_
    · rename_i it idle there
      split at at_
      · rename_i marked
        refine .of_modifySlot (p := s) there (fun it same => .of_same same) ?_ at_
        rintro rfl rfl rfl
        exact ⟨it, .inl there, .begun rfl idle there marked.1 marked.2⟩
      · exact .of_same at_
    · exact .of_same at_
  | endRelease =>
    simp only [step, endRelease] at at_
    split at at_
    · exact .of_same at_
    · rename_i here at_here
      split at at_
      · exact .of_same at_
      · rename_i it there
        have kept : (s.deleteOwner it).slot here.type here.kind here.index = some it := by
          rw [slot_deleteOwner]
          exact there
        refine .of_modifySlot kept (fun it same => .of_same (by rw [← same, slot_deleteOwner])) ?_ at_
        rintro rfl rfl rfl
        exact ⟨it, .inl there, .released rfl at_here⟩
  | outside memory => exact .of_same at_

end Steps

/-! ## Sizes -/

def size (s : ConnectedPool) (t : PoolType) (kind : Kind) : ℕ := (s.nodes t kind).requests.length

section Sizes

variable (s : ConnectedPool) (t t' : PoolType) (kind kind' : Kind)

lemma slot_isSome {i : ℕ} (inside : i < s.size t kind) : ∃ it, s.slot t kind i = some it :=
  ⟨_, List.getElem?_eq_getElem inside⟩

lemma slot_size {i : ℕ} {it : ConnectedNodeProcess} (there : s.slot t kind i = some it) :
    i < s.size t kind :=
  (List.getElem?_eq_some_iff.mp there).1

@[simp] lemma size_modifySlot (i : ℕ) (f : ConnectedNodeProcess → ConnectedNodeProcess) :
    (s.modifySlot t kind i f).size t' kind' = s.size t' kind' := by
  unfold size modifySlot setNodes
  dsimp only
  split
  · rename_i same
    obtain ⟨rfl, rfl⟩ := same
    exact List.length_modify ..
  · rfl

@[simp] lemma size_modifyList (g : List ℕ → List ℕ) :
    (s.modifyList t kind g).size t' kind' = s.size t' kind' := by
  unfold size modifyList setNodes
  dsimp only
  split
  · rename_i same
    obtain ⟨rfl, rfl⟩ := same
    rfl
  · rfl

@[simp] lemma size_setMemory (request : Ptr) (h : RequestObject → RequestObject) :
    (s.setMemory request h).size t kind = s.size t kind := rfl

@[simp] lemma size_fillNode (request : Ptr) (i : ℕ) (it : ConnectedNodeProcess) :
    (s.fillNode request i it).size t kind = s.size t kind := rfl

@[simp] lemma size_deleteOwner (it : ConnectedNodeProcess) :
    (s.deleteOwner it).size t kind = s.size t kind := by
  rw [size, deleteOwner_nodes, size]

lemma size_fillNodes (type : NlsType) :
    (s.fillNodes t kind type).size t' kind' =
      if t' = t ∧ kind' = kind then max (s.size t' kind') s.maxPreconnectedNumber
      else s.size t' kind' := by
  unfold size fillNodes setNodes
  dsimp only
  split
  · rename_i same
    obtain ⟨rfl, rfl⟩ := same
    rw [List.length_append, List.length_replicate]
    omega
  · rfl

lemma size_initThisNodesPool (type : NlsType) :
    (s.initThisNodesPool t type).size t' kind =
      if t' = t then max (s.size t' kind) s.maxPreconnectedNumber else s.size t' kind := by
  unfold initThisNodesPool
  rw [size_fillNodes, size_fillNodes]
  by_cases same : t' = t
  · cases kind <;> simp [same, fillNodes, setNodes]
  · simp [same]

end Sizes

/-- A step fills both vectors of a service, or leaves every size. -/
def Filled (s s' : ConnectedPool) : Prop :=
  (∀ t kind, s'.size t kind = s.size t kind) ∨
    ∃ t', ∀ t kind, s'.size t kind =
      if t = t' then max (s.size t kind) s.maxPreconnectedNumber else s.size t kind

lemma Filled.of_prepared {s s' : ConnectedPool} (t' : PoolType) (type : NlsType)
    (sizes : ∀ t kind, s'.size t kind = (s.prepared t' type).size t kind) : Filled s s' := by
  unfold prepared at sizes
  split at sizes
  · exact .inr ⟨t', fun t kind => (sizes t kind).trans (s.size_initThisNodesPool t' t kind type)⟩
  · exact .inl sizes

lemma filled_popNode (s : ConnectedPool) (kind : Kind) (request : Ptr) (type : NlsType) :
    Filled s (s.popNode kind request type).1 := by
  have loop : ∀ kind list t, Filled s (s.popOneNode kind list request t).1 := by
    intro kind list t
    unfold popOneNode
    dsimp only
    split
    · exact .inl fun t kind => by simp
    · exact .inl fun t kind => by simp
  unfold popNode
  split
  · exact .inl fun _ _ => rfl
  · split
    · exact .inl fun _ _ => rfl
    · rename_i t' _
      split
      · rename_i unfilled
        refine .of_prepared t' type fun t kind => ?_
        rw [prepared, if_pos unfilled]
      · split
        · split
          · exact loop ..
          · exact loop ..
        · exact .inl fun _ _ => rfl

lemma filled_pushNode (s : ConnectedPool) (kind : Kind) (request : Ptr) (type : NlsType)
    (newNode : Bool) (now : UInt64) :
    Filled s (s.pushNode kind request type newNode now).1 := by
  unfold pushNode
  split
  · exact .inl fun _ _ => rfl
  · split
    · exact .inl fun _ _ => rfl
    · rename_i t' _
      refine .of_prepared t' type fun t kind' => ?_
      unfold pushFilled
      split
      · simp
      · unfold store
        split
        · rfl
        · exact size_modifySlot ..

/-- The sizes of the vectors after a step. -/
theorem step_filled (s : ConnectedPool) (a : PoolAction) : Filled s (s.step a) := by
  cases a with
  | popPrestartedNode request type => exact s.filled_popNode ..
  | popPreconnectedNode request type => exact s.filled_popNode ..
  | pushPreconnectedNode request type newNode now => exact s.filled_pushNode ..
  | pushPrestartedNode request type newNode now => exact s.filled_pushNode ..
  | pushPrestartedNodeFromPreconnected request type now =>
    simp only [step, pushPrestartedNodeFromPreconnected]
    refine .inl fun t kind => ?_
    split
    · rfl
    · split
      · rfl
      · split
        · rfl
        · split
          · exact size_modifySlot ..
          · exact (size_modifySlot ..).trans (size_modifySlot ..)
  | curRequestIsAbnormal request type =>
    simp only [step, curRequestIsAbnormal]
    refine .inl fun t kind => ?_
    split
    · rfl
    · split
      · rfl
      · rw [size_modifyList, size_modifySlot]
  | finishPushPreNode type fd ssl index =>
    simp only [step, finishPushPreNode]
    refine .inl fun t kind => ?_
    split
    · rfl
    · split
      · rfl
      · rw [size_modifyList, size_modifySlot]
  | deletePreNodeByRequest request type =>
    simp only [step, deletePreNodeByRequest]
    refine .inl fun t kind => ?_
    split
    · rfl
    · split
      · rfl
      · rw [size_modifySlot]
  | deletePreNodeBySSL ssl type =>
    simp only [step, deletePreNodeBySSL]
    refine .inl fun t kind => ?_
    split
    · rfl
    · split
      · rfl
      · rw [size_modifySlot, size_deleteOwner]
  | connectPoolEventCallback checks =>
    simp only [step, connectPoolEventCallback]
    refine .inl fun t kind => ?_
    split
    · rfl
    · unfold size
      dsimp only
      split
      · cases kind <;> exact List.length_mapIdx
      · rfl
  | beginRelease t' kind' index =>
    simp only [step, beginRelease]
    refine .inl fun t kind => ?_
    split
    · split
      · exact size_modifySlot ..
      · rfl
    · rfl
  | endRelease =>
    simp only [step, endRelease]
    refine .inl fun t kind => ?_
    split
    · rfl
    · split
      · rfl
      · exact (size_modifySlot ..).trans (size_deleteOwner ..)
  | outside memory => exact .inl fun _ _ => rfl

/-- A slot stays where it is, changed in one of the ways above. -/
theorem slot_step {s : ConnectedPool} (a : PoolAction) {t : PoolType} {kind : Kind} {i : ℕ}
    {it : ConnectedNodeProcess} (there : s.slot t kind i = some it) :
    ∃ after, (s.step a).slot t kind i = some after ∧ Change s a t kind i it after := by
  have inside : i < (s.step a).size t kind := by
    have old := s.slot_size t kind there
    rcases s.step_filled a with same | ⟨t', filled⟩
    · rw [same]
      exact old
    · rw [filled]
      split
      · omega
      · exact old
  obtain ⟨after, at_⟩ := (s.step a).slot_isSome t kind inside
  obtain ⟨before, old | ⟨missing, -⟩, change⟩ := step_slot at_
  · rw [there, Option.some.injEq] at old
    subst old
    exact ⟨after, at_, change⟩
  · rw [there] at missing
    cases missing

/-! ## Requests -/

/-- The slot whose connection a pop gives away. -/
structure Given (s : ConnectedPool) (a : PoolAction) (t : PoolType) (kind : Kind) (i : ℕ)
    (it : ConnectedNodeProcess) (request : Ptr) : Prop where
  pop : ∃ type, popped a = some (kind, request, type) ∧ poolOf type = some t
  there : s.slot t kind i = some it
  take : s.canTake kind t request it = true
  given : request ≠ 0

/-- How a pool action changes what a request holds: the index, or everything a pop writes. -/
def Rewritten (s : ConnectedPool) (a : PoolAction) (request : Ptr) (after : RequestObject) : Prop :=
  (∃ index, after = { s.memory request with poolIndex := index }) ∨
    ∃ t kind i it, Given s a t kind i it request ∧
      after =
        { s.memory request with
          sslHandle := it.sslHandle
          socketFd := it.socketFd
          urlAddress := (s.memory it.request).urlAddress
          poolIndex := i }

lemma Rewritten.of_same {s : ConnectedPool} {a : PoolAction} {request : Ptr}
    {after : RequestObject} (same : after = s.memory request) : Rewritten s a request after :=
  .inl ⟨(s.memory request).poolIndex, same⟩

lemma setMemory_memory (s : ConnectedPool) (request r : Ptr) (h : RequestObject → RequestObject) :
    (s.setMemory request h).memory r = if r = request then h (s.memory r) else s.memory r := rfl

/-- Setting the index of a request. -/
lemma Rewritten.of_index {s p : ConnectedPool} {a : PoolAction} {request r : Ptr} {index : ℤ}
    (same : p.memory = s.memory) :
    Rewritten s a r ((p.setMemory request fun held => { held with poolIndex := index }).memory r) := by
  rw [setMemory_memory, same]
  split
  · exact .inl ⟨index, rfl⟩
  · exact .of_same rfl

lemma rewritten_popOneNode {s : ConnectedPool} {a : PoolAction} {kind list : Kind} {request : Ptr}
    {t : PoolType} {type : NlsType} (pop : popped a = some (kind, request, type))
    (service : poolOf type = some t) (given : request ≠ 0) (r : Ptr) :
    Rewritten s a r ((s.popOneNode kind list request t).1.memory r) := by
  unfold popOneNode
  dsimp only
  split
  · exact .of_same rfl
  · rename_i index it search
    obtain ⟨-, there, take, -⟩ := firstFrom_eq_some.mp search
    change Rewritten s a r ((s.fillNode request index it).memory r)
    unfold fillNode
    rw [setMemory_memory]
    split
    · rename_i same
      subst same
      exact .inr ⟨t, kind, index, it, ⟨⟨type, pop, service⟩, there, take, given⟩, rfl⟩
    · exact .of_same rfl

lemma rewritten_popNode {s : ConnectedPool} {a : PoolAction} {kind : Kind} {request : Ptr}
    {type : NlsType} (pop : popped a = some (kind, request, type)) (r : Ptr) :
    Rewritten s a r ((s.popNode kind request type).1.memory r) := by
  unfold popNode
  split
  · exact .of_same rfl
  · rename_i given
    split
    · exact .of_same rfl
    · rename_i t service
      split
      · exact .of_same rfl
      · split
        · split
          · exact rewritten_popOneNode pop service given r
          · exact rewritten_popOneNode pop service given r
        · exact .of_same rfl

lemma rewritten_pushNode {s : ConnectedPool} {a : PoolAction} {kind : Kind} {request : Ptr}
    {type : NlsType} {newNode : Bool} {now : UInt64} (r : Ptr) :
    Rewritten s a r ((s.pushNode kind request type newNode now).1.memory r) := by
  unfold pushNode
  split
  · exact .of_same rfl
  · split
    · exact .of_same rfl
    · rename_i t service
      unfold pushFilled
      split
      · exact .of_same (congrFun (prepared_memory s t type) r)
      · unfold store
        split
        · exact .of_same (congrFun (prepared_memory s t type) r)
        · exact .of_index (prepared_memory s t type)

/-- Only a pop changes more than the index of a request. -/
theorem step_memory {s : ConnectedPool} {a : PoolAction} (inside : ∀ memory, a ≠ .outside memory)
    (r : Ptr) : Rewritten s a r ((s.step a).memory r) := by
  cases a with
  | popPrestartedNode request type => exact rewritten_popNode rfl r
  | popPreconnectedNode request type => exact rewritten_popNode rfl r
  | pushPreconnectedNode request type newNode now => exact rewritten_pushNode r
  | pushPrestartedNode request type newNode now => exact rewritten_pushNode r
  | pushPrestartedNodeFromPreconnected request type now =>
    simp only [step, pushPrestartedNodeFromPreconnected]
    split
    · exact .of_same rfl
    · split
      · exact .of_same rfl
      · split
        · exact .of_same rfl
        · split
          · exact .of_same rfl
          · exact .of_index (p := s.modifySlot _ _ _ _) rfl
  | curRequestIsAbnormal request type =>
    simp only [step, curRequestIsAbnormal]
    split
    · exact .of_same rfl
    · split <;> exact .of_same rfl
  | finishPushPreNode type fd ssl index =>
    simp only [step, finishPushPreNode]
    split
    · exact .of_same rfl
    · split <;> exact .of_same rfl
  | deletePreNodeByRequest request type =>
    simp only [step, deletePreNodeByRequest]
    split
    · exact .of_same rfl
    · split <;> exact .of_same rfl
  | deletePreNodeBySSL ssl type =>
    simp only [step, deletePreNodeBySSL]
    split
    · exact .of_same rfl
    · split
      · exact .of_same rfl
      · exact .of_same (by rw [modifySlot_memory, deleteOwner_memory])
  | connectPoolEventCallback checks =>
    simp only [step, connectPoolEventCallback]
    split <;> exact .of_same rfl
  | beginRelease t kind i =>
    simp only [step, beginRelease]
    split
    · split <;> exact .of_same rfl
    · exact .of_same rfl
  | endRelease =>
    simp only [step, endRelease]
    split
    · exact .of_same rfl
    · split
      · exact .of_same rfl
      · exact .of_same (by rw [modifySlot_memory, deleteOwner_memory])
  | outside memory => exact absurd rfl (inside memory)

/-- A pop that succeeds gives the connection of a slot that matches. -/
lemma popOneNode_true {s : ConnectedPool} {kind list : Kind} {request : Ptr} {t : PoolType}
    (ok : (s.popOneNode kind list request t).2 = true) :
    ∃ i it, s.slot t kind i = some it ∧ s.canTake kind t request it = true ∧
      ((s.popOneNode kind list request t).1.memory request).sslHandle = it.sslHandle := by
  unfold popOneNode at ok ⊢
  dsimp only at ok ⊢
  split at ok
  · cases ok
  · rename_i index it search
    obtain ⟨-, there, take, -⟩ := firstFrom_eq_some.mp search
    refine ⟨index, it, there, take, ?_⟩
    change ((s.fillNode request index it).memory request).sslHandle = it.sslHandle
    rw [fillNode, setMemory_memory, if_pos rfl]

theorem popNode_true {s : ConnectedPool} {kind : Kind} {request : Ptr} {type : NlsType}
    (ok : (s.popNode kind request type).2 = true) :
    ∃ t i it, poolOf type = some t ∧ request ≠ 0 ∧ s.slot t kind i = some it ∧
      s.canTake kind t request it = true ∧
      ((s.popNode kind request type).1.memory request).sslHandle = it.sslHandle := by
  unfold popNode at ok ⊢
  split_ifs at ok ⊢ with null
  cases service : poolOf type with
  | none =>
    rw [service] at ok
    cases ok
  | some t =>
    rw [service] at ok
    dsimp only at ok ⊢
    split_ifs at ok ⊢ with unfilled some_
    cases kind with
    | prestarted =>
      obtain ⟨i, it, there, take, handle⟩ := popOneNode_true ok
      exact ⟨t, i, it, rfl, null, there, take, handle⟩
    | preconnected =>
      obtain ⟨i, it, there, take, handle⟩ := popOneNode_true ok
      exact ⟨t, i, it, rfl, null, there, take, handle⟩

/-! ## Deletions -/

/-- What deleting a request deletes. -/
def requestDeletions (s : ConnectedPool) (request : Ptr) : List Deletion :=
  .request request ::
    if (s.memory request).sslHandle ≠ 0 ∧
        (s.memory request).sslHandle = (s.memory request).nativeSslHandle then
      [.ssl (s.memory request).sslHandle]
    else []

/-- What a pop deletes: the handle the request had. -/
def oldDeletions (s : ConnectedPool) (request : Ptr) : List Deletion :=
  if (s.memory request).sslHandle = 0 then [] else [.ssl (s.memory request).sslHandle]

/-- The slot whose request an action deletes; the slot is emptied. -/
structure Erased (s : ConnectedPool) (a : PoolAction) (t : PoolType) (kind : Kind) (i : ℕ)
    (it : ConnectedNodeProcess) : Prop where
  there : s.slot t kind i = some it
  owned : it.request ≠ 0
  cleared : (s.step a).slot t kind i = some it.clearNode
  by_ : (a = .endRelease ∧ ∃ preconnect, s.releasing = some ⟨t, kind, i, preconnect⟩) ∨
    ∃ ssl type, a = .deletePreNodeBySSL ssl type ∧ poolOf type = some t ∧
      s.findNode t 0 (fun it => it.sslHandle == ssl) = some (kind, i, it)

/-- Which objects a step deletes. -/
def Deletes (s : ConnectedPool) (a : PoolAction) (deleted : List Deletion) : Prop :=
  deleted = s.deleted ∨
    (∃ t kind i it request, Given s a t kind i it request ∧
      deleted = s.deleted ++ s.oldDeletions request) ∨
    ∃ t kind i it, Erased s a t kind i it ∧
      deleted = s.deleted ++ s.requestDeletions it.request

lemma deleteOwner_deleted (s : ConnectedPool) (it : ConnectedNodeProcess) :
    (s.deleteOwner it).deleted =
      s.deleted ++ if it.request = 0 then [] else s.requestDeletions it.request := by
  unfold deleteOwner
  by_cases null : it.request = 0
  · rw [if_neg (not_not.mpr null), if_pos null, List.append_nil]
  · rw [if_pos null, if_neg null]
    rfl

lemma deletes_popNode {s : ConnectedPool} {a : PoolAction} {kind : Kind} {request : Ptr}
    {type : NlsType} (pop : popped a = some (kind, request, type)) :
    Deletes s a (s.popNode kind request type).1.deleted := by
  have loop : ∀ list t, poolOf type = some t → request ≠ 0 →
      Deletes s a (s.popOneNode kind list request t).1.deleted := by
    intro list t service given
    unfold popOneNode
    dsimp only
    split
    · exact .inl rfl
    · rename_i index it search
      obtain ⟨-, there, take, -⟩ := firstFrom_eq_some.mp search
      exact .inr (.inl ⟨t, kind, index, it, request,
        ⟨⟨type, pop, service⟩, there, take, given⟩, rfl⟩)
  unfold popNode
  split
  · exact .inl rfl
  · rename_i given
    split
    · exact .inl rfl
    · rename_i t service
      split
      · exact .inl rfl
      · split
        · split
          · exact loop _ t service given
          · exact loop _ t service given
        · exact .inl rfl

lemma prepared_deleted (s : ConnectedPool) (t : PoolType) (type : NlsType) :
    (s.prepared t type).deleted = s.deleted := by
  unfold prepared
  split <;> rfl

lemma deletes_pushNode {s : ConnectedPool} {a : PoolAction} {kind : Kind} {request : Ptr}
    {type : NlsType} {newNode : Bool} {now : UInt64} :
    Deletes s a (s.pushNode kind request type newNode now).1.deleted := by
  refine .inl ?_
  unfold pushNode
  split
  · rfl
  · split
    · rfl
    · rename_i t service
      unfold pushFilled
      split
      · exact prepared_deleted s t type
      · unfold store
        split
        · exact prepared_deleted s t type
        · exact prepared_deleted s t type

/-- A slot that is modified. -/
lemma slot_modifySlot_self {s : ConnectedPool} {t : PoolType} {kind : Kind} {i : ℕ}
    {f : ConnectedNodeProcess → ConnectedNodeProcess} {it : ConnectedNodeProcess}
    (there : s.slot t kind i = some it) : (s.modifySlot t kind i f).slot t kind i = some (f it) := by
  rw [slot_modifySlot, if_pos ⟨rfl, rfl, rfl⟩, there]
  rfl

/-- Only a pop, the end of a release and a deletion by handle delete something. -/
theorem step_deleted (s : ConnectedPool) (a : PoolAction) : Deletes s a (s.step a).deleted := by
  cases a with
  | popPrestartedNode request type => exact deletes_popNode rfl
  | popPreconnectedNode request type => exact deletes_popNode rfl
  | pushPreconnectedNode request type newNode now => exact deletes_pushNode
  | pushPrestartedNode request type newNode now => exact deletes_pushNode
  | pushPrestartedNodeFromPreconnected request type now =>
    refine .inl ?_
    simp only [step, pushPrestartedNodeFromPreconnected]
    split
    · rfl
    · split
      · rfl
      · split
        · rfl
        · split <;> rfl
  | curRequestIsAbnormal request type =>
    refine .inl ?_
    simp only [step, curRequestIsAbnormal]
    split
    · rfl
    · split <;> rfl
  | finishPushPreNode type fd ssl index =>
    refine .inl ?_
    simp only [step, finishPushPreNode]
    split
    · rfl
    · split <;> rfl
  | deletePreNodeByRequest request type =>
    refine .inl ?_
    simp only [step, deletePreNodeByRequest]
    split
    · rfl
    · split <;> rfl
  | deletePreNodeBySSL ssl type =>
    cases service : poolOf type with
    | none =>
      refine .inl ?_
      simp only [step, deletePreNodeBySSL, service]
    | some t =>
      cases found : s.findNode t 0 (fun it => it.sslHandle == ssl) with
      | none =>
        refine .inl ?_
        simp only [step, deletePreNodeBySSL, service, found]
      | some place =>
        obtain ⟨kind, i, it⟩ := place
        have there := (findNode_found found).1
        have after : s.step (.deletePreNodeBySSL ssl type) =
            (s.deleteOwner it).modifySlot t kind i .clearNode := by
          simp only [step, deletePreNodeBySSL, service, found]
        rw [after]
        change Deletes s _ (s.deleteOwner it).deleted
        rw [deleteOwner_deleted]
        split
        · exact .inl (List.append_nil _)
        · rename_i owned
          refine .inr (.inr ⟨t, kind, i, it, ⟨there, owned, ?_, .inr ⟨ssl, type, rfl, service,
            found⟩⟩, rfl⟩)
          rw [after]
          exact slot_modifySlot_self ((slot_deleteOwner ..).trans there)
  | connectPoolEventCallback checks =>
    refine .inl ?_
    simp only [step, connectPoolEventCallback]
    split <;> rfl
  | beginRelease t kind i =>
    refine .inl ?_
    simp only [step, beginRelease]
    split
    · split <;> rfl
    · rfl
  | endRelease =>
    cases here : s.releasing with
    | none =>
      refine .inl ?_
      simp only [step, endRelease, here]
    | some at_ =>
      cases there : s.slot at_.type at_.kind at_.index with
      | none =>
        refine .inl ?_
        have there' : (s.nodes at_.type at_.kind).requests[at_.index]? = none := there
        simp only [step, endRelease, here, there']
      | some it =>
        have there' : (s.nodes at_.type at_.kind).requests[at_.index]? = some it := there
        have after : s.step .endRelease =
            { (s.deleteOwner it).modifySlot at_.type at_.kind at_.index .clearNode with
              releasing := none } := by
          simp only [step, endRelease, here, there']
        rw [after]
        change Deletes s _ (s.deleteOwner it).deleted
        rw [deleteOwner_deleted]
        split
        · exact .inl (List.append_nil _)
        · rename_i owned
          refine .inr (.inr ⟨at_.type, at_.kind, at_.index, it, ⟨there, owned, ?_,
            .inl ⟨rfl, at_.preconnect, here⟩⟩, rfl⟩)
          rw [after]
          exact slot_modifySlot_self ((slot_deleteOwner ..).trans there)
  | outside memory => exact .inl rfl

/-- A connection that is moved is not left behind. -/
lemma moved_source {s : ConnectedPool} {request : Ptr} {type : NlsType} {now : UInt64}
    {t : PoolType} {index : ℕ} {node : ConnectedNodeProcess} (service : poolOf type = some t)
    (given : request ≠ 0) (found : s.existent .preconnected request t = some (index, node)) :
    (s.step (.pushPrestartedNodeFromPreconnected request type now)).slot t .preconnected index =
      some node.clearNode := by
  have source := (existent_found found).1
  simp only [step, pushPrestartedNodeFromPreconnected, if_neg given, service, found]
  split
  · exact slot_modifySlot_self source
  · refine slot_modifySlot_self (s := s.modifySlot _ _ _ _) ?_
    rw [slot_modifySlot, if_neg (by simp)]
    exact source

end ConnectedPool

end NlsSdk.Transport
