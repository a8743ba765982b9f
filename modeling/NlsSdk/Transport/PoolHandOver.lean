import NlsSdk.Transport.PoolSpec

/-!
# Connections that change their slot

A connection that served its first request is moved from the preconnected
vector to the prestarted one, and a request that is released makes its slot
pickable again.
-/
namespace NlsSdk.Transport

open Library

namespace ConnectedPool

variable {s : ConnectedPool} {request : Ptr} {type : NlsType} {now : UInt64} {t : PoolType}
  {index : ℕ} {node : ConnectedNodeProcess}

/-! ## From the preconnected vector to the prestarted one -/

/-- The connection has left its slot and is in one that was empty, with its request and handle; no
other slot has changed, and neither have the node and the parameters of the request. -/
structure HandedOver (s after : ConnectedPool) (t : PoolType) (i : ℕ) (node : ConnectedNodeProcess)
    (free : ℕ) (it : ConnectedNodeProcess) : Prop where
  source : s.slot t .preconnected i = some node
  used : node.status = .preNodeConnected
  target : s.slot t .prestarted free = some it
  empty : isFree it = true
  left : after.slot t .preconnected i = some node.clearNode
  arrived : ∃ moved, after.slot t .prestarted free = some moved ∧ moved.status = .preNodeStarted ∧
    moved.request = node.request ∧ moved.sslHandle = node.sslHandle
  object : after.memory node.request = { s.memory node.request with poolIndex := free }
  others : ∀ t' kind' j, ¬ (t' = t ∧ kind' = .preconnected ∧ j = i) →
    ¬ (t' = t ∧ kind' = .prestarted ∧ j = free) → after.slot t' kind' j = s.slot t' kind' j

/-- The move succeeds as a whole, or leaves every vector and every list of indices. -/
def MovesWhole (s : ConnectedPool) (request : Ptr) (type : NlsType) (now : UInt64) : Prop :=
  ((s.pushPrestartedNodeFromPreconnected request type now).2 = false →
      (s.pushPrestartedNodeFromPreconnected request type now).1.nodes = s.nodes) ∧
    ((s.pushPrestartedNodeFromPreconnected request type now).2 = true →
      ∃ t i node free it, HandedOver s (s.pushPrestartedNodeFromPreconnected request type now).1 t i
        node free it)

/-- A slot that is found has somewhere to go, and records the handle its request holds. -/
def HasRoom (s : ConnectedPool) (request : Ptr) (type : NlsType) : Prop :=
  ∀ t i node, request ≠ 0 → poolOf type = some t →
    s.existent .preconnected request t = some (i, node) →
      (∃ free it, s.slot t .prestarted free = some it ∧ isFree it = true) ∧
        node.sslHandle = (s.memory request).sslHandle

/-- The pool after a move that succeeds. -/
def movedPool (s : ConnectedPool) (request : Ptr) (t : PoolType) (index : ℕ)
    (node : ConnectedNodeProcess) (free : ℕ) (now : UInt64) : ConnectedPool :=
  let filled := s.modifySlot t .prestarted free (s.moved request node.request now)
  let filled := filled.setMemory node.request fun held => { held with poolIndex := free }
  let filled := { filled with work := fun t' => if t' = t then true else filled.work t' }
  filled.modifySlot t .preconnected index .clearNode

/-- Nothing is found, nothing is free, or the slot is moved. -/
lemma pushFromPreconnected_cases (s : ConnectedPool) (request : Ptr) (type : NlsType)
    (now : UInt64) :
    (s.pushPrestartedNodeFromPreconnected request type now = (s, false) ∧
        ∀ t place, request ≠ 0 → poolOf type = some t →
          s.existent .preconnected request t ≠ some place) ∨
      ∃ t index node, request ≠ 0 ∧ poolOf type = some t ∧
        s.existent .preconnected request t = some (index, node) ∧
        ((firstFrom isFree 0 (s.nodes t .prestarted).requests = none ∧
            s.pushPrestartedNodeFromPreconnected request type now =
              (s.modifySlot t .preconnected index .clearNode, false)) ∨
          ∃ free it, firstFrom isFree 0 (s.nodes t .prestarted).requests = some (free, it) ∧
            s.pushPrestartedNodeFromPreconnected request type now =
              (s.movedPool request t index node free now, true)) := by
  unfold pushPrestartedNodeFromPreconnected
  by_cases null : request = 0
  · rw [if_pos null]
    exact .inl ⟨rfl, fun _ _ given => absurd null given⟩
  rw [if_neg null]
  cases service : poolOf type with
  | none => exact .inl ⟨rfl, fun _ _ _ is => by cases is⟩
  | some t =>
    dsimp only
    cases found : s.existent .preconnected request t with
    | none =>
      refine .inl ⟨rfl, fun t' place _ is => ?_⟩
      obtain rfl := Option.some.inj is
      rw [found]
      simp
    | some place =>
      obtain ⟨index, node⟩ := place
      refine .inr ⟨t, index, node, null, rfl, found, ?_⟩
      dsimp only
      cases search : firstFrom isFree 0 (s.nodes t .prestarted).requests with
      | none => exact .inl ⟨rfl, rfl⟩
      | some place => exact .inr ⟨place.1, place.2, rfl, rfl⟩

/-- The slots after a move. -/
lemma slot_movedPool {free : ℕ} {it : ConnectedNodeProcess}
    (source : s.slot t .preconnected index = some node)
    (target : s.slot t .prestarted free = some it) (t' : PoolType) (kind : Kind) (j : ℕ) :
    (s.movedPool request t index node free now).slot t' kind j =
      if t' = t ∧ kind = .preconnected ∧ j = index then some node.clearNode
      else if t' = t ∧ kind = .prestarted ∧ j = free then
        some (s.moved request node.request now it)
      else s.slot t' kind j := by
  have outer : (s.movedPool request t index node free now).slot t' kind j =
      ((s.modifySlot t .prestarted free (s.moved request node.request now)).modifySlot t
        .preconnected index .clearNode).slot t' kind j := rfl
  have first : (s.modifySlot t .prestarted free (s.moved request node.request now)).slot t
      .preconnected index = some node := by
    rw [slot_modifySlot, if_neg (by simp)]
    exact source
  rw [outer, slot_modifySlot, first, slot_modifySlot, target]
  rfl

/-- The move is whole exactly when the slot it finds has room in the other vector and records the
handle that its request holds. -/
theorem move_whole_iff (s : ConnectedPool) (request : Ptr) (type : NlsType) (now : UInt64) :
    s.MovesWhole request type now ↔ s.HasRoom request type := by
  rcases s.pushFromPreconnected_cases request type now with ⟨same, missing⟩ |
    ⟨t, index, node, given, service, found, ⟨full, lost⟩ | ⟨free, it, search, moved⟩⟩
  · unfold MovesWhole
    rw [same]
    refine iff_of_true ⟨fun _ => rfl, (fun ok => by cases ok)⟩ ?_
    intro t i node given service found
    exact absurd found (missing t (i, node) given service)
  · obtain ⟨source, used, -⟩ := existent_found found
    refine iff_of_false ?_ ?_
    · rintro ⟨unchanged, -⟩
      rw [lost] at unchanged
      have cleared : (s.modifySlot t .preconnected index .clearNode).slot t .preconnected index =
          some node.clearNode := by
        rw [slot_modifySlot, if_pos ⟨rfl, rfl, rfl⟩, source]
        rfl
      rw [slot, unchanged rfl] at cleared
      have same := Option.some.inj (source.symm.trans cleared)
      rw [same] at used
      cases used
    · intro room
      obtain ⟨⟨free, it, there, empty⟩, -⟩ := room t index node given service found
      exact firstFrom_eq_none.mp full free (Nat.zero_le free) ⟨it, there, empty⟩
  · obtain ⟨source, used, -⟩ := existent_found found
    obtain ⟨target, empty⟩ := free_found search
    have slots : ∀ t' kind j, (s.movedPool request t index node free now).slot t' kind j = _ :=
      slot_movedPool source target
    unfold MovesWhole
    rw [moved]
    constructor
    · rintro ⟨-, whole⟩
      obtain ⟨t', i, node', free', it', handed⟩ := whole rfl
      -- only one slot in use was cleared, and only one empty slot is in use now
      have left := handed.left
      rw [slots] at left
      split_ifs at left with here elsewhere
      · obtain ⟨rfl, -, rfl⟩ := here
        have same : node' = node := Option.some.inj (handed.source.symm.trans source)
        subst same
        obtain ⟨after, arrived, started, -, handle⟩ := handed.arrived
        rw [slots, if_neg (by simp)] at arrived
        split_ifs at arrived with there
        · obtain rfl := Option.some.inj arrived
          intro t'' i' node'' _ service' found'
          obtain rfl := Option.some.inj (service.symm.trans service')
          rw [found, Option.some.injEq, Prod.mk.injEq] at found'
          obtain ⟨rfl, rfl⟩ := found'
          exact ⟨⟨free, it, target, empty⟩, handle.symm⟩
        · rw [handed.target, Option.some.injEq] at arrived
          subst arrived
          have empty' := handed.empty
          simp [isFree, started] at empty'
      · cases elsewhere.2.1
      · rw [handed.source, Option.some.injEq] at left
        have status := handed.used
        rw [left] at status
        cases status
    · intro room
      obtain ⟨-, handle⟩ := room t index node given service found
      refine ⟨(fun bad => by cases bad), fun _ => ⟨t, index, node, free, it, ?_⟩⟩
      constructor
      · exact source
      · exact used
      · exact target
      · exact empty
      · rw [slots, if_pos ⟨rfl, rfl, rfl⟩]
      · refine ⟨s.moved request node.request now it, ?_, rfl, rfl, handle.symm⟩
        rw [slots, if_neg (by simp), if_pos ⟨rfl, rfl, rfl⟩]
      · exact if_pos rfl
      · intro t' kind' j notSource notTarget
        rw [slots, if_neg notSource, if_neg notTarget]

/-- Four requests with a connection each. -/
def withConnections : Ptr → RequestObject
  | 1 => { socketFd := 3, sslHandle := 11, nativeSslHandle := 11 }
  | 2 => { socketFd := 4, sslHandle := 12, nativeSslHandle := 12 }
  | 3 => { socketFd := 5, sslHandle := 13, nativeSslHandle := 13 }
  | 4 => { socketFd := 6, sslHandle := 14, nativeSslHandle := 14 }
  | _ => {}

/-- The second request leaves its connection, the first one connects, and the third one runs on the
connection of the first. -/
def lentConnection : List PoolAction :=
  [.outside withConnections, .pushPrestartedNode 2 .typeRealTime true 0,
    .pushPreconnectedNode 1 .typeRealTime true 0, .finishPushPreNode .typeRealTime 3 11 0,
    .popPreconnectedNode 3 .typeRealTime]

/-- The prestarted vector is full: the connection is in neither vector afterwards. -/
theorem lost_when_full :
    let s := run step (new 1 15000 7000) lentConnection
    let moved := s.pushPrestartedNodeFromPreconnected 3 .typeRealTime 0
    moved.2 = false ∧ (s.slot .st .preconnected 0).map (·.request) = some 1 ∧
      (moved.1.slot .st .preconnected 0).map (·.request) = some 0 ∧
      (moved.1.slot .st .prestarted 0).map (·.request) = some 2 := by
  decide

/-! ## After the release -/

/-- The slot of a service that holds a request: as its own, or by its connection. -/
def Holds (s : ConnectedPool) (request : Ptr) (kind : Kind) (it : ConnectedNodeProcess) : Prop :=
  it.status = kind.status ∧
    (it.request = request ∨
      hasConnection (s.memory request).socketFd (s.memory request).sslHandle it = true)

instance (s : ConnectedPool) (request : Ptr) (kind : Kind) (it : ConnectedNodeProcess) :
    Decidable (s.Holds request kind it) := inferInstanceAs (Decidable (_ ∧ _))

/-- What a release calls at the end. -/
def finish (s : ConnectedPool) (request : Ptr) (type : NlsType) : ConnectedPool :=
  s.finishPushPreNode type (s.memory request).socketFd (s.memory request).sslHandle
    (s.memory request).poolIndex

/-- The slot may be picked and stands in the list. -/
def Listed (s : ConnectedPool) (t : PoolType) (kind : Kind) (i : ℕ) : Prop :=
  (∃ it, s.slot t kind i = some it ∧ it.canPick = true) ∧ i ∈ (s.nodes t kind).indexList

/-- The connection of the request, in a slot in use. -/
def ConnectionAt (s : ConnectedPool) (request : Ptr) (t : PoolType) (kind : Kind) (i : ℕ) : Prop :=
  ∃ it, s.slot t kind i = some it ∧ it.status = kind.status ∧
    hasConnection (s.memory request).socketFd (s.memory request).sslHandle it = true

/-- The index stored in the request is not behind the slot, and the search meets the slot first. -/
structure Reached (s : ConnectedPool) (request : Ptr) (t : PoolType) (kind : Kind) (i : ℕ) :
    Prop where
  at_ : s.ConnectionAt request t kind i
  index : (s.memory request).poolIndex ≤ i
  first : ∀ j : ℕ, (s.memory request).poolIndex ≤ j → j < i → ¬ s.ConnectionAt request t kind j
  vector : kind = .preconnected →
    ∀ j : ℕ, (s.memory request).poolIndex ≤ j → ¬ s.ConnectionAt request t .prestarted j

lemma slotOf_connectionAt {kind : Kind} {j : ℕ} :
    SlotOf (fun it => (it.status == kind.status && hasConnection (s.memory request).socketFd
      (s.memory request).sslHandle it) = true) (s.nodes t kind).requests j ↔
      s.ConnectionAt request t kind j := by
  simp only [SlotOf, ConnectionAt, slot, Bool.and_eq_true, beq_iff_eq]

/-- What the search of a release finds. -/
lemma finish_finds_iff {kind : Kind} {i : ℕ} :
    (∃ it, s.findNode t (s.memory request).poolIndex.toNat
      (hasConnection (s.memory request).socketFd (s.memory request).sslHandle) =
        some (kind, i, it)) ↔ s.Reached request t kind i := by
  have below : ∀ j : ℕ, (s.memory request).poolIndex.toNat ≤ j ↔
      (s.memory request).poolIndex ≤ j := by
    intro j
    omega
  have search : ∀ kind i, (∃ it, firstFrom (fun it => it.status == kind.status &&
      hasConnection (s.memory request).socketFd (s.memory request).sslHandle it)
        (s.memory request).poolIndex.toNat (s.nodes t kind).requests = some (i, it)) ↔
      s.ConnectionAt request t kind i ∧ (s.memory request).poolIndex ≤ i ∧
        ∀ j : ℕ, (s.memory request).poolIndex ≤ j → j < i → ¬ s.ConnectionAt request t kind j := by
    intro kind i
    simp only [firstFrom_eq_some, below, slotOf_connectionAt]
    constructor
    · rintro ⟨it, from_, there, holds, first⟩
      simp only [Bool.and_eq_true, beq_iff_eq] at holds
      exact ⟨⟨it, there, holds⟩, from_, fun j fromJ less => first j fromJ less⟩
    · rintro ⟨⟨it, there, holds⟩, from_, first⟩
      exact ⟨it, from_, there, by simp [holds], fun j fromJ less => first j fromJ less⟩
  have missing : firstFrom (fun it => it.status == Kind.prestarted.status &&
      hasConnection (s.memory request).socketFd (s.memory request).sslHandle it)
        (s.memory request).poolIndex.toNat (s.nodes t .prestarted).requests = none ↔
      ∀ j : ℕ, (s.memory request).poolIndex ≤ j → ¬ s.ConnectionAt request t .prestarted j := by
    simp only [firstFrom_eq_none, below, slotOf_connectionAt]
  unfold findNode
  dsimp only
  cases prestarted : firstFrom (fun it => it.status == Kind.prestarted.status &&
      hasConnection (s.memory request).socketFd (s.memory request).sslHandle it)
        (s.memory request).poolIndex.toNat (s.nodes t .prestarted).requests with
  | some place =>
    obtain ⟨j, it⟩ := place
    dsimp only
    cases kind with
    | prestarted =>
      constructor
      · rintro ⟨it', same⟩
        simp only [Option.some.injEq, Prod.mk.injEq, true_and] at same
        obtain ⟨rfl, rfl⟩ := same
        obtain ⟨at_, index, first⟩ := (search .prestarted j).mp ⟨it, prestarted⟩
        exact ⟨at_, index, first, fun is => by cases is⟩
      · intro reached
        obtain ⟨it', found⟩ := (search .prestarted i).mpr
          ⟨reached.at_, reached.index, reached.first⟩
        rw [prestarted, Option.some.injEq, Prod.mk.injEq] at found
        obtain ⟨rfl, rfl⟩ := found
        exact ⟨it, rfl⟩
    | preconnected =>
      refine iff_of_false (by simp) fun reached => ?_
      have none_ := missing.mpr (reached.vector rfl)
      rw [prestarted] at none_
      cases none_
  | none =>
    dsimp only
    have none_ := missing.mp prestarted
    cases kind with
    | prestarted =>
      refine iff_of_false (by simp) fun reached => ?_
      exact none_ i reached.index reached.at_
    | preconnected =>
      simp only [Option.map_eq_some_iff, Prod.mk.injEq, true_and, exists_eq_right]
      rw [search .preconnected i]
      constructor
      · rintro ⟨at_, index, first⟩
        exact ⟨at_, index, first, fun _ => none_⟩
      · intro reached
        exact ⟨reached.at_, reached.index, reached.first⟩

/-- After a release the slots that hold the request may be picked, each exactly when the search
reaches it or it could be picked before. -/
theorem finished_pickable_iff (s : ConnectedPool) (request : Ptr) (type : NlsType) (t : PoolType)
    (service : poolOf type = some t) :
    (∀ kind i it, s.slot t kind i = some it → s.Holds request kind it →
      (s.finish request type).Listed t kind i) ↔
      ∀ kind i it, s.slot t kind i = some it → s.Holds request kind it →
        s.Reached request t kind i ∨ s.Listed t kind i := by
  have one : ∀ kind i it, s.slot t kind i = some it →
      ((s.finish request type).Listed t kind i ↔
        s.Reached request t kind i ∨ s.Listed t kind i) := by
    intro kind i it there
    rw [← finish_finds_iff]
    unfold finish finishPushPreNode
    rw [service]
    dsimp only
    cases found : s.findNode t (s.memory request).poolIndex.toNat
        (hasConnection (s.memory request).socketFd (s.memory request).sslHandle) with
    | none => simp
    | some place =>
      obtain ⟨kind', j, node⟩ := place
      have source := (findNode_found found).1
      dsimp only
      unfold Listed
      rw [slot_modifyList, slot_modifySlot, modifyList_indexList, modifySlot_indexList, source]
      by_cases here : kind = kind' ∧ i = j
      · obtain ⟨rfl, rfl⟩ := here
        simp [insertListInOrder]
      · have elsewhere : ¬ (t = t ∧ kind = kind' ∧ i = j) := fun h => here h.2
        rw [if_neg elsewhere]
        have other : ¬ ∃ it', some (kind', j, node) = some (kind, i, it') := by
          rintro ⟨it', same⟩
          simp only [Option.some.injEq, Prod.mk.injEq] at same
          exact here ⟨same.1.symm, same.2.1.symm⟩
        rw [or_iff_right other]
        by_cases vector : t = t ∧ kind = kind'
        · rw [if_pos vector]
          have index : i ≠ j := fun same => here ⟨vector.2, same⟩
          rw [vector.2]
          simp [insertListInOrder, index]
        · rw [if_neg vector, modifySlot_indexList]
  constructor
  · intro finished kind i it there holds
    exact (one kind i it there).mp (finished kind i it there holds)
  · intro reached kind i it there holds
    exact (one kind i it there).mpr (reached kind i it there holds)

/-- Two connections are lent, and the second one moves from place 1 to place 0. -/
def movedForward : List PoolAction :=
  [.outside withConnections, .pushPreconnectedNode 1 .typeRealTime true 0,
    .pushPreconnectedNode 2 .typeRealTime true 0, .finishPushPreNode .typeRealTime 3 11 0,
    .finishPushPreNode .typeRealTime 4 12 1, .popPreconnectedNode 3 .typeRealTime,
    .popPreconnectedNode 4 .typeRealTime,
    .pushPrestartedNodeFromPreconnected 4 .typeRealTime 0]

/-- The request still has the old place, so its release does not find the connection. -/
theorem moved_connection_unpickable :
    let s := run step (new 2 15000 7000) movedForward
    ((run step (new 2 15000 7000) movedForward.dropLast).pushPrestartedNodeFromPreconnected 4
      .typeRealTime 0).2 = true ∧
      (s.slot .st .prestarted 0).map (fun it => decide (s.Holds 4 .prestarted it)) = some true ∧
      ((s.finish 4 .typeRealTime).slot .st .prestarted 0).map (·.canPick) = some false ∧
      ((s.finish 4 .typeRealTime).nodes .st .prestarted).indexList = [] := by
  decide

/-- The same pool, for the request whose connection has not moved. -/
theorem finished_pickable_third :
    let s := run step (new 2 15000 7000) movedForward
    (∀ kind i it, s.slot .st kind i = some it → s.Holds 3 kind it →
      (s.finish 3 .typeRealTime).Listed .st kind i) ↔
      ∀ kind i it, s.slot .st kind i = some it → s.Holds 3 kind it →
        s.Reached 3 .st kind i ∨ s.Listed .st kind i :=
  finished_pickable_iff (run step (new 2 15000 7000) movedForward) 3 .typeRealTime .st rfl

end ConnectedPool

end NlsSdk.Transport
