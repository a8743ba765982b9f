import NlsSdk.Transport.PoolMaintenance
import NlsSdk.Transport.PoolSound

/-!
# The lists of indices of the pool

When the list of a vector holds exactly the slots that may be picked.
-/
namespace NlsSdk.Transport

open Library

namespace ConnectedPool

/-- The connection of the slot can be taken. -/
def Pickable (kind : Kind) (it : ConnectedNodeProcess) : Prop :=
  it.status = kind.status ∧ it.canPick = true

instance (kind : Kind) (it : ConnectedNodeProcess) : Decidable (Pickable kind it) :=
  inferInstanceAs (Decidable (_ ∧ _))

def PickableAt (s : ConnectedPool) (t : PoolType) (kind : Kind) (i : ℕ) : Prop :=
  ∃ it, s.slot t kind i = some it ∧ Pickable kind it

/-- Every list is strictly increasing and holds exactly the indices of the pickable slots. -/
def Indexed (s : ConnectedPool) : Prop :=
  ∀ t kind, Represents (s.nodes t kind).indexList (s.PickableAt t kind)

/-- Some slot matches the request. -/
def HasMatch (s : ConnectedPool) (t : PoolType) (kind : Kind) (request : Ptr) : Prop :=
  ∃ i it, s.slot t kind i = some it ∧ s.canTake kind t request it = true

/-- The front of the list matches the request, if there is a front. -/
def FrontMatches (s : ConnectedPool) (t : PoolType) (kind : Kind) (request : Ptr) : Prop :=
  ∀ i rest, (s.nodes t kind).indexList = i :: rest →
    ∃ it, s.slot t kind i = some it ∧ s.canTake kind t request it = true

/-- For the recognizer's second vector: the list of the first one is empty and nothing matches. -/
def LeavesOther (s : ConnectedPool) (request : Ptr) : Prop :=
  (∃ i it, s.slot .sr .preconnected i = some it ∧ it.status = .preNodeConnected) →
    (s.nodes .sr .prestarted).indexList = [] ∧ ¬ s.HasMatch .sr .preconnected request

/-- When an action keeps the lists right. -/
def Restores (s : ConnectedPool) : PoolAction → Prop
  | .popPrestartedNode request type =>
    request ≠ 0 → ∀ t, poolOf type = some t → s.FrontMatches t .prestarted request
  | .popPreconnectedNode request type =>
    request ≠ 0 → ∀ t, poolOf type = some t →
      if t = .sr then s.LeavesOther request else s.FrontMatches t .preconnected request
  | .pushPreconnectedNode request type newNode _ =>
    request ≠ 0 → newNode = false → ∀ t i it, poolOf type = some t →
      s.existent .preconnected request t = some (i, it) → ¬ Pickable .preconnected it
  | .pushPrestartedNode request type newNode _ =>
    request ≠ 0 → newNode = false → ∀ t i it, poolOf type = some t →
      s.existent .prestarted request t = some (i, it) → ¬ Pickable .prestarted it
  | .pushPrestartedNodeFromPreconnected request type _ =>
    request ≠ 0 → ∀ t i it, poolOf type = some t →
      s.existent .preconnected request t = some (i, it) → ¬ Pickable .preconnected it
  | .curRequestIsAbnormal request type =>
    ∀ t kind i it, poolOf type = some t →
      s.findNode t 0 (hasConnection (s.memory request).socketFd (s.memory request).sslHandle) =
        some (kind, i, it) → ¬ Pickable kind it
  | .finishPushPreNode type fd ssl index =>
    ∀ t kind i it, poolOf type = some t →
      s.findNode t index.toNat (hasConnection fd ssl) = some (kind, i, it) → ¬ Pickable kind it
  | .deletePreNodeByRequest request type =>
    ∀ t kind i it, poolOf type = some t →
      s.findNode t 0 (fun it => request == it.request) = some (kind, i, it) → ¬ Pickable kind it
  | .deletePreNodeBySSL ssl type =>
    ∀ t kind i it, poolOf type = some t →
      s.findNode t 0 (fun it => it.sslHandle == ssl) = some (kind, i, it) → ¬ Pickable kind it
  | .connectPoolEventCallback checks =>
    s.releasing = none → ∀ t kind i it, s.work t = true → s.slot t kind i = some it →
      Pickable kind it → ¬ s.Overdue kind (checks t kind i) it ∧ Answers (checks t kind i) it
  | .beginRelease .. => True
  | .endRelease => True
  | .outside _ => True

/-! ## Lists and slots -/

section

variable {s s' : ConnectedPool}

/-- Once what the lists hold is known, it is enough to compare. -/
lemma indexed_iff {q : PoolType → Kind → ℕ → Prop}
    (lists : ∀ t kind, Represents (s'.nodes t kind).indexList (q t kind)) :
    s'.Indexed ↔ ∀ t kind i, q t kind i ↔ s'.PickableAt t kind i :=
  forall_congr' fun t => forall_congr' fun kind => (lists t kind).iff_same

lemma indexed_of_same (indexed : s.Indexed)
    (lists : ∀ t kind, (s'.nodes t kind).indexList = (s.nodes t kind).indexList)
    (slots : ∀ t kind i, s.PickableAt t kind i ↔ s'.PickableAt t kind i) : s'.Indexed := by
  refine (indexed_iff (q := s.PickableAt) fun t kind => ?_).mpr slots
  rw [lists]
  exact indexed t kind

lemma pickableAt_modifySlot {t t' : PoolType} {kind kind' : Kind} {i j : ℕ}
    {f : ConnectedNodeProcess → ConnectedNodeProcess} {it : ConnectedNodeProcess}
    (there : s.slot t kind i = some it) :
    (s.modifySlot t kind i f).PickableAt t' kind' j ↔
      if t' = t ∧ kind' = kind ∧ j = i then Pickable kind (f it) else s.PickableAt t' kind' j := by
  unfold PickableAt
  rw [slot_modifySlot]
  split
  · rename_i here
    obtain ⟨rfl, rfl, rfl⟩ := here
    simp [there]
  · rfl

lemma pickableAt_iff {t : PoolType} {kind : Kind} {i : ℕ} {it : ConnectedNodeProcess}
    (there : s.slot t kind i = some it) : s.PickableAt t kind i ↔ Pickable kind it := by
  simp [PickableAt, there]

/-- A change of one slot, with the lists left alone. -/
lemma indexed_modifySlot (indexed : s.Indexed) {t : PoolType} {kind : Kind} {i : ℕ}
    {f : ConnectedNodeProcess → ConnectedNodeProcess} {it : ConnectedNodeProcess}
    (there : s.slot t kind i = some it) :
    (s.modifySlot t kind i f).Indexed ↔ (Pickable kind it ↔ Pickable kind (f it)) := by
  have lists : ∀ t' kind', Represents ((s.modifySlot t kind i f).nodes t' kind').indexList
      (s.PickableAt t' kind') := by
    intro t' kind'
    rw [modifySlot_indexList]
    exact indexed t' kind'
  rw [indexed_iff lists]
  constructor
  · intro same
    have here := same t kind i
    rwa [pickableAt_modifySlot there, if_pos ⟨rfl, rfl, rfl⟩, pickableAt_iff there] at here
  · intro same t' kind' j
    rw [pickableAt_modifySlot there]
    split
    · rename_i here
      obtain ⟨rfl, rfl, rfl⟩ := here
      rw [pickableAt_iff there]
      exact same
    · rfl

lemma not_pickable_clearNode (kind : Kind) (it : ConnectedNodeProcess) :
    ¬ Pickable kind it.clearNode := by
  intro pick
  exact kind.status_ne pick.1.symm

lemma not_pickable_of_free {kind : Kind} {it : ConnectedNodeProcess} (free : isFree it = true) :
    ¬ Pickable kind it := by
  intro pick
  exact kind.status_ne (pick.1.symm.trans (isFree_iff.mp free).1)

lemma not_pickable_fresh (kind : Kind) (type : NlsType) : ¬ Pickable kind (fresh type) := by
  intro pick
  exact kind.status_ne pick.1.symm

/-- A slot that is emptied keeps the lists right when it could not be picked. -/
lemma indexed_clearNode (indexed : s.Indexed) {t : PoolType} {kind : Kind} {i : ℕ}
    {it : ConnectedNodeProcess} (there : s.slot t kind i = some it) :
    (s.modifySlot t kind i .clearNode).Indexed ↔ ¬ Pickable kind it := by
  rw [indexed_modifySlot indexed there]
  simp [not_pickable_clearNode]

lemma pickableAt_prepared {t t' : PoolType} {kind : Kind} {type : NlsType} {i : ℕ} :
    s.PickableAt t' kind i ↔ (s.prepared t type).PickableAt t' kind i := by
  unfold PickableAt
  rcases s.slot_prepared t t' kind type i with same | ⟨missing, added⟩
  · rw [same]
  · simp [missing, added, not_pickable_fresh]

lemma prepared_indexList (t t' : PoolType) (kind : Kind) (type : NlsType) :
    ((s.prepared t type).nodes t' kind).indexList = (s.nodes t' kind).indexList := by
  unfold prepared
  split
  · rw [initThisNodesPool, fillNodes_indexList, fillNodes_indexList]
  · rfl

lemma indexed_prepared (indexed : s.Indexed) (t : PoolType) (type : NlsType) :
    (s.prepared t type).Indexed :=
  indexed_of_same indexed (fun _ _ => prepared_indexList ..) fun _ _ _ => pickableAt_prepared

end

/-! ## Each action -/

section

variable {s : ConnectedPool}

lemma canTake_pickable {kind : Kind} {t : PoolType} {request : Ptr} {it : ConnectedNodeProcess}
    (take : s.canTake kind t request it = true) : Pickable kind it := by
  simp only [canTake, Bool.and_eq_true, beq_iff_eq] at take
  exact take.1

/-- What is pickable once the slot `index` is taken. -/
lemma pickableAt_taken {t t' : PoolType} {kind kind' list : Kind} {request : Ptr} {index j : ℕ}
    {it : ConnectedNodeProcess} {g : List ℕ → List ℕ} (there : s.slot t kind index = some it) :
    (((s.fillNode request index it).modifySlot t kind index fun it =>
        { it with canPick := false, curRequest := request, curRequestInvalid := false }).modifyList
        t list g).PickableAt t' kind' j ↔
      s.PickableAt t' kind' j ∧ ¬ (t' = t ∧ kind' = kind ∧ j = index) := by
  unfold PickableAt
  rw [slot_modifyList, slot_modifySlot, slot_fillNode]
  split
  · rename_i here
    simp [there, Pickable, here]
  · rename_i other
    rw [slot_fillNode, and_iff_left other]

/-- What the list that was popped from holds. -/
lemma represents_popListFront {l : List ℕ} {p : ℕ → Prop} (right : Represents l p) :
    (l = [] ∧ Represents (popListFront l).2 p) ∨
      ∃ rest, l = (popListFront l).1 :: rest ∧ p (popListFront l).1 ∧
        Represents (popListFront l).2 fun j => p j ∧ j ≠ (popListFront l).1 := by
  cases l with
  | nil => exact .inl ⟨rfl, right⟩
  | cons front rest => exact .inr ⟨rest, rfl, right.front, right.tail⟩

/-- Every pickable slot is at or after the index the search starts from. -/
lemma popListFront_le {l : List ℕ} {p : ℕ → Prop} (right : Represents l p) {j : ℕ} (holds : p j) :
    (popListFront l).1 ≤ j := by
  cases l with
  | nil => exact Nat.zero_le j
  | cons front rest => exact right.front_le holds

lemma pickableAt_modifyList {t t' : PoolType} {kind kind' : Kind} {g : List ℕ → List ℕ} {j : ℕ} :
    (s.modifyList t kind g).PickableAt t' kind' j ↔ s.PickableAt t' kind' j := by
  rw [PickableAt, PickableAt, slot_modifyList]

/-- A front that is popped and not taken is lost. -/
lemma indexed_lost (indexed : s.Indexed) (t : PoolType) (list : Kind) :
    (s.modifyList t list fun _ => (popListFront (s.nodes t list).indexList).2).Indexed ↔
      (s.nodes t list).indexList = [] := by
  rcases represents_popListFront (indexed t list) with ⟨empty, -⟩ | ⟨rest, cons, front, tail⟩
  · refine iff_of_true ?_ empty
    refine indexed_of_same indexed (fun t' kind' => ?_) fun _ _ _ => pickableAt_modifyList.symm
    rw [modifyList_indexList]
    split
    · rename_i here
      obtain ⟨rfl, rfl⟩ := here
      rw [empty]
      rfl
    · rfl
  · refine iff_of_false (fun after => ?_) fun empty => ?_
    · have lost := (after t list).mem (popListFront (s.nodes t list).indexList).1
      rw [modifyList_indexList, if_pos ⟨rfl, rfl⟩, tail.mem, pickableAt_modifyList] at lost
      exact absurd rfl (lost.mpr front).2
    · rw [empty] at cons
      cases cons

/-- A loop over the vector whose list it pops from. -/
lemma indexed_popOneNode (indexed : s.Indexed) (kind : Kind) (request : Ptr) (t : PoolType) :
    (s.popOneNode kind kind request t).1.Indexed ↔ s.FrontMatches t kind request := by
  have right := indexed t kind
  unfold popOneNode
  dsimp only
  split
  · -- nothing matches, and the front is lost
    rename_i none_
    have nothing := firstFrom_eq_none.mp none_
    refine (indexed_lost indexed t kind).trans ?_
    constructor
    · intro empty i rest cons
      rw [empty] at cons
      cases cons
    · intro matches_
      rcases represents_popListFront right with ⟨empty, -⟩ | ⟨rest, cons, -, -⟩
      · exact empty
      · obtain ⟨it, there, take⟩ := matches_ _ rest cons
        exact absurd ⟨it, there, take⟩ (nothing _ le_rfl)
  · rename_i index it search
    obtain ⟨from_, there, take, before⟩ := firstFrom_eq_some.mp search
    have pick : s.PickableAt t kind index := ⟨it, there, canTake_pickable take⟩
    rcases represents_popListFront right with ⟨empty, -⟩ | ⟨rest, list, front, tail⟩
    · have never := (Represents.nil_iff (p := s.PickableAt t kind)).mp (empty ▸ right)
      exact absurd pick (never index)
    · have lists : ∀ t' kind', Represents
          ((((s.fillNode request index it).modifySlot t kind index fun it =>
            { it with canPick := false, curRequest := request, curRequestInvalid := false }).modifyList
            t kind fun _ => removeElement (popListFront (s.nodes t kind).indexList).2 index).nodes
            t' kind').indexList
          (fun j => s.PickableAt t' kind' j ∧ (t' = t ∧ kind' = kind →
            j ≠ (popListFront (s.nodes t kind).indexList).1 ∧ j ≠ index)) := by
        intro t' kind'
        rw [modifyList_indexList, modifySlot_indexList, fillNode_nodes]
        split
        · rename_i here
          obtain ⟨rfl, rfl⟩ := here
          refine (Represents.congr fun j => ?_).mp (tail.filter index)
          simp [and_assoc]
        · rename_i other
          refine (Represents.congr fun j => ?_).mp (indexed t' kind')
          simp [other]
      rw [indexed_iff lists]
      constructor
      · intro same i rest' list'
        rw [list] at list'
        obtain ⟨rfl, -⟩ := List.cons.inj list'
        have here := same t kind (popListFront (s.nodes t kind).indexList).1
        rw [pickableAt_taken there] at here
        by_cases at_front : (popListFront (s.nodes t kind).indexList).1 = index
        · rw [at_front]
          exact ⟨it, there, take⟩
        · have kept := here.mpr ⟨front, fun h => at_front h.2.2⟩
          exact absurd rfl (kept.2 ⟨rfl, rfl⟩).1
      · intro matches_ t' kind' j
        obtain ⟨it', there', take'⟩ := matches_ _ rest list
        have at_front : (popListFront (s.nodes t kind).indexList).1 = index := by
          by_contra other
          exact before _ le_rfl (lt_of_le_of_ne from_ other) ⟨it', there', take'⟩
        rw [pickableAt_taken there, at_front]
        constructor
        · rintro ⟨holds, apart⟩
          exact ⟨holds, fun h => (apart ⟨h.1, h.2.1⟩).2 h.2.2⟩
        · rintro ⟨holds, apart⟩
          exact ⟨holds, fun h => ⟨fun e => apart ⟨h.1, h.2, e⟩, fun e => apart ⟨h.1, h.2, e⟩⟩⟩

/-- The loop of the recognizer over one vector that pops from the list of the other. -/
lemma indexed_popOther (indexed : s.Indexed) (request : Ptr) :
    (s.popOneNode .preconnected .prestarted request .sr).1.Indexed ↔
      (s.nodes .sr .prestarted).indexList = [] ∧ ¬ s.HasMatch .sr .preconnected request := by
  unfold popOneNode
  dsimp only
  split
  · rename_i none_
    have nothing := firstFrom_eq_none.mp none_
    refine (indexed_lost indexed .sr .prestarted).trans (iff_self_and.mpr ?_)
    rintro empty ⟨i, it, there, take⟩
    rw [empty] at nothing
    exact nothing i (Nat.zero_le i) ⟨it, there, take⟩
  · rename_i index it search
    obtain ⟨-, there, take, -⟩ := firstFrom_eq_some.mp search
    refine iff_of_false (fun after => ?_) fun h => h.2 ⟨index, it, there, take⟩
    have listed := (after .sr .preconnected).mem index
    rw [modifyList_indexList, if_neg (by simp), modifySlot_indexList, fillNode_nodes,
      (indexed .sr .preconnected).mem, pickableAt_taken there] at listed
    exact (listed.mp ⟨it, there, canTake_pickable take⟩).2 ⟨rfl, rfl, rfl⟩

lemma getNumberOfNodes_eq_zero {t : PoolType} {kind : Kind} :
    s.getNumberOfNodes t kind = 0 ↔
      ∀ i it, s.slot t kind i = some it → it.status ≠ kind.status := by
  rw [getNumberOfNodes, List.countP_eq_zero]
  constructor
  · intro none_ i it there used
    exact none_ it (List.mem_of_getElem? there) (beq_iff_eq.mpr used)
  · intro none_ it inside used
    obtain ⟨i, there⟩ := List.mem_iff_getElem?.mp inside
    exact none_ i it there (beq_iff_eq.mp used)

/-- In a pool that has not been filled there are no slots. -/
lemma slot_of_unfilled (sound : s.Sound) {t : PoolType} (unfilled : s.Unfilled t) (kind : Kind)
    (i : ℕ) : s.slot t kind i = none := by
  have same := sound.filled t
  have empty : s.size t kind = 0 := by
    unfold size at same ⊢
    rcases unfilled with none_ | none_
    · rw [none_] at same
      cases kind
      · rw [none_]
        rfl
      · exact same.symm
    · rw [none_] at same
      cases kind
      · exact same
      · rw [none_]
        rfl
  exact List.getElem?_eq_none_iff.mpr (by unfold size at empty; omega)

lemma frontMatches_of_unused (indexed : s.Indexed) {t : PoolType} {kind : Kind} (request : Ptr)
    (unused : s.getNumberOfNodes t kind = 0) : s.FrontMatches t kind request := by
  intro i rest list
  have right := indexed t kind
  rw [list] at right
  obtain ⟨it, there, used, -⟩ := right.front
  exact absurd used (getNumberOfNodes_eq_zero.mp unused i it there)

lemma indexed_popNode (sound : s.Sound) (indexed : s.Indexed) {kind : Kind} {request : Ptr}
    {type : NlsType} {C : PoolType → Prop}
    (loop : ∀ t, poolOf type = some t → s.getNumberOfNodes t kind ≠ 0 →
      ((match kind with
        | .prestarted => s.popOnePrestartedNode request t
        | .preconnected => s.popOnePreconnectedNode request t).1.Indexed ↔ C t))
    (unused : ∀ t, s.getNumberOfNodes t kind = 0 → C t) :
    (s.popNode kind request type).1.Indexed ↔
      (request ≠ 0 → ∀ t, poolOf type = some t → C t) := by
  unfold popNode
  split
  · rename_i null
    exact iff_of_true indexed fun given => absurd null given
  · rename_i given
    split
    · rename_i none_
      exact iff_of_true indexed fun _ t service => absurd (none_.symm.trans service) (by simp)
    · rename_i t service
      have cond_iff : (request ≠ 0 → ∀ t, poolOf type = some t → C t) ↔ C t := by
        constructor
        · intro cond
          exact cond given t service
        · rintro cond - t' service'
          obtain rfl := Option.some.inj (service.symm.trans service')
          exact cond
      rw [cond_iff]
      split
      · rename_i unfilled
        have none_ : s.getNumberOfNodes t kind = 0 := by
          refine getNumberOfNodes_eq_zero.mpr fun i it there => ?_
          rw [slot_of_unfilled sound unfilled kind i] at there
          cases there
        have filled := indexed_prepared indexed t type
        rw [prepared, if_pos unfilled] at filled
        exact iff_of_true filled (unused t none_)
      · split
        · rename_i some_
          exact loop t service some_.ne'
        · rename_i none_
          exact iff_of_true indexed (unused t (by omega))

lemma indexed_pushNode (indexed : s.Indexed) {kind : Kind} {request : Ptr}
    {type : NlsType} {newNode : Bool} {now : UInt64} :
    (s.pushNode kind request type newNode now).1.Indexed ↔
      (request ≠ 0 → newNode = false → ∀ t i it, poolOf type = some t →
        s.existent kind request t = some (i, it) → ¬ Pickable kind it) := by
  unfold pushNode
  split
  · rename_i null
    exact iff_of_true indexed fun given => absurd null given
  · rename_i given
    split
    · rename_i none_
      exact iff_of_true indexed fun _ _ t _ _ service => absurd (none_.symm.trans service) (by simp)
    · rename_i t service
      have filled := indexed_prepared indexed t type
      unfold pushFilled
      split
      · rename_i index it found
        have old : newNode = false := by
          cases newNode
          · rfl
          · cases found
        subst old
        have existent := existent_prepared.mp found
        refine (indexed_modifySlot filled (existent_found found).1).trans ?_
        have never : ¬ Pickable kind
            (usedUp ((s.prepared t type).memory request).lastOpTimestampMs it) := by
          rintro ⟨-, pick⟩
          cases pick
        rw [iff_false_right never]
        constructor
        · rintro fresh_ - - t' i' it' service' found'
          obtain rfl := Option.some.inj (service.symm.trans service')
          obtain ⟨rfl, rfl⟩ := Prod.mk.inj (Option.some.inj (existent.symm.trans found'))
          exact fresh_
        · intro cond
          exact cond given rfl t index it service existent
      · rename_i none_
        refine iff_of_true ?_ ?_
        · unfold store
          split
          · exact filled
          · rename_i index it search
            obtain ⟨there, free⟩ := free_found search
            refine (indexed_modifySlot filled there).mpr (iff_of_false (not_pickable_of_free free) ?_)
            rintro ⟨-, pick⟩
            cases pick
        · rintro - rfl t' i it service' found
          obtain rfl := Option.some.inj (service.symm.trans service')
          rw [if_neg (by simp), existent_prepared.mpr found] at none_
          cases none_

lemma indexed_move (indexed : s.Indexed) {request : Ptr} {type : NlsType} {now : UInt64} :
    (s.pushPrestartedNodeFromPreconnected request type now).1.Indexed ↔
      (request ≠ 0 → ∀ t i it, poolOf type = some t →
        s.existent .preconnected request t = some (i, it) → ¬ Pickable .preconnected it) := by
  unfold pushPrestartedNodeFromPreconnected
  split
  · rename_i null
    exact iff_of_true indexed fun given => absurd null given
  · rename_i given
    split
    · rename_i none_
      exact iff_of_true indexed fun _ t _ _ service => absurd (none_.symm.trans service) (by simp)
    · rename_i t service
      split
      · rename_i none_
        refine iff_of_true indexed fun _ t' i it service' found => ?_
        obtain rfl := Option.some.inj (service.symm.trans service')
        rw [none_] at found
        cases found
      · rename_i index node found
        have cond_iff : (request ≠ 0 → ∀ t i it, poolOf type = some t →
            s.existent .preconnected request t = some (i, it) → ¬ Pickable .preconnected it) ↔
            ¬ Pickable .preconnected node := by
          constructor
          · intro cond
            exact cond given t index node service found
          · rintro cond - t' i it service' found'
            obtain rfl := Option.some.inj (service.symm.trans service')
            obtain ⟨rfl, rfl⟩ := Prod.mk.inj (Option.some.inj (found.symm.trans found'))
            exact cond
        have source := (existent_found found).1
        rw [cond_iff]
        split
        · exact indexed_clearNode indexed source
        · rename_i free_ it search
          obtain ⟨there, free⟩ := free_found search
          have filled : (s.modifySlot t .prestarted free_
              (s.moved request node.request now)).Indexed := by
            refine (indexed_modifySlot indexed there).mpr (iff_of_false (not_pickable_of_free free) ?_)
            rintro ⟨-, pick⟩
            cases pick
          refine indexed_clearNode (i := index) filled ?_
          rw [slot_modifySlot, if_neg (by simp)]
          exact source

/-- A search and what is done at the slot it finds. -/
lemma indexed_found (indexed : s.Indexed) {type : NlsType} {start : ℕ}
    {p : ConnectedNodeProcess → Bool}
    {g : PoolType → Kind → ℕ → ConnectedNodeProcess → ConnectedPool}
    (keeps : ∀ t kind i it, s.slot t kind i = some it → it.status = kind.status →
      ((g t kind i it).Indexed ↔ ¬ Pickable kind it)) :
    (match poolOf type with
      | none => s
      | some t =>
        match s.findNode t start p with
        | none => s
        | some (kind, i, it) => g t kind i it).Indexed ↔
      ∀ t kind i it, poolOf type = some t → s.findNode t start p = some (kind, i, it) →
        ¬ Pickable kind it := by
  split
  · rename_i none_
    exact iff_of_true indexed fun t _ _ _ service => absurd (none_.symm.trans service) (by simp)
  · rename_i t service
    split
    · rename_i none_
      refine iff_of_true indexed fun t' kind i it service' found => ?_
      obtain rfl := Option.some.inj (service.symm.trans service')
      rw [none_] at found
      cases found
    · rename_i kind i it found
      obtain ⟨there, used, -⟩ := findNode_found found
      rw [keeps t kind i it there used]
      constructor
      · intro fresh_ t' kind' i' it' service' found'
        obtain rfl := Option.some.inj (service.symm.trans service')
        have same := Option.some.inj (found.symm.trans found')
        simp only [Prod.mk.injEq] at same
        obtain ⟨rfl, rfl, rfl⟩ := same
        exact fresh_
      · intro cond
        exact cond t kind i it service found

lemma indexed_removeElement (indexed : s.Indexed) (t : PoolType) (kind : Kind) (i : ℕ) :
    (s.modifyList t kind (removeElement · i)).Indexed ↔ ¬ s.PickableAt t kind i := by
  have lists : ∀ t' kind', Represents
      ((s.modifyList t kind (removeElement · i)).nodes t' kind').indexList
      (fun j => s.PickableAt t' kind' j ∧ (t' = t ∧ kind' = kind → j ≠ i)) := by
    intro t' kind'
    rw [modifyList_indexList]
    split
    · rename_i here
      obtain ⟨rfl, rfl⟩ := here
      refine (Represents.congr fun j => ?_).mp ((indexed t' kind').filter i)
      simp
    · rename_i other
      refine (Represents.congr fun j => ?_).mp (indexed t' kind')
      simp [other]
  rw [indexed_iff lists]
  simp only [pickableAt_modifyList, and_iff_left_iff_imp]
  constructor
  · intro same pick
    exact same t kind i pick ⟨rfl, rfl⟩ rfl
  · rintro fresh_ t' kind' j pick ⟨rfl, rfl⟩ rfl
    exact fresh_ pick

lemma indexed_abnormal (indexed : s.Indexed) {t : PoolType} {kind : Kind} {i : ℕ}
    {it : ConnectedNodeProcess} (there : s.slot t kind i = some it) :
    ((s.modifySlot t kind i fun it => { it with isAbnormal := true }).modifyList t kind
      (removeElement · i)).Indexed ↔ ¬ Pickable kind it := by
  have marked := (indexed_modifySlot (f := fun it => { it with isAbnormal := true }) indexed
    there).mpr Iff.rfl
  rw [indexed_removeElement marked, pickableAt_modifySlot there, if_pos ⟨rfl, rfl, rfl⟩]
  rfl

lemma indexed_finish (indexed : s.Indexed) {t : PoolType} {kind : Kind} {i : ℕ}
    {it : ConnectedNodeProcess} (there : s.slot t kind i = some it)
    (used : it.status = kind.status) :
    ((s.modifySlot t kind i fun it =>
      { it with canPick := true, curRequest := 0, curRequestInvalid := false }).modifyList t kind
      (insertListInOrder · i)).Indexed ↔ ¬ Pickable kind it := by
  have now : ∀ t' kind' j, ((s.modifySlot t kind i fun it =>
      { it with canPick := true, curRequest := 0, curRequestInvalid := false }).modifyList t kind
      (insertListInOrder · i)).PickableAt t' kind' j ↔
      s.PickableAt t' kind' j ∨ (t' = t ∧ kind' = kind ∧ j = i) := by
    intro t' kind' j
    rw [pickableAt_modifyList, pickableAt_modifySlot there]
    split
    · rename_i here
      exact iff_of_true ⟨used, rfl⟩ (.inr here)
    · rename_i other
      simp [other]
  rw [← pickableAt_iff there]
  constructor
  · intro after
    have right := after t kind
    rw [modifyList_indexList, if_pos ⟨rfl, rfl⟩, modifySlot_indexList] at right
    refine ((indexed t kind).insert_iff fun j => ?_).mp right
    simp [now]
  · intro fresh_ t' kind'
    simp only [modifyList_indexList, modifySlot_indexList]
    split
    · rename_i here
      obtain ⟨rfl, rfl⟩ := here
      refine ((indexed t' kind').insert_iff fun j => ?_).mpr fresh_
      simp [now]
    · rename_i other
      refine (Represents.congr fun j => ?_).mp (indexed t' kind')
      rw [now, or_iff_left fun h => other ⟨h.1, h.2.1⟩]

/-! ## The timer -/

/-- A pickable slot survives exactly when no deadline has passed and the ping is answered. -/
lemma pickable_timeoutSlot {kind : Kind} {check : Check} {it : ConnectedNodeProcess}
    (slot : SoundSlot kind it) :
    Pickable kind (s.timeoutSlot kind check it) ↔
      Pickable kind it ∧ (Pickable kind it → ¬ s.Overdue kind check it ∧ Answers check it) := by
  by_cases pick : Pickable kind it
  · have same : s.refresh it = it := by
      rw [refresh, if_neg]
      rw [slot.idle pick.2]
      simp
    simp only [pick, true_and, forall_const]
    rw [timeoutSlot, if_pos pick.1, same]
    have overdue_iff : s.Overdue kind check it ↔
        (s.idleTimeout kind check.now it = true ∨ tokenTimeout check.now it = true) := by
      rw [Overdue, same]
    dsimp only
    by_cases late : s.Overdue kind check it
    · rw [if_pos (overdue_iff.mp late), if_pos (slot.idle pick.2)]
      refine iff_of_false (fun after => ?_) fun h => h.1 late
      exact kind.status_ne (after.1.symm.trans (expired_status ..))
    · rw [if_neg fun h => late (overdue_iff.mpr h)]
      by_cases answers : Answers check it
      · rw [if_pos (show it.request = 0 ∨ check.pingOk = true from answers)]
        exact iff_of_true pick ⟨late, answers⟩
      · rw [if_neg (show ¬ (it.request = 0 ∨ check.pingOk = true) from answers)]
        refine iff_of_false (fun after => ?_) fun h => answers h.2
        exact kind.status_ne (after.1.symm.trans (unreachable_status ..))
  · simp only [pick, false_and, iff_false]
    rcases s.timeoutSlot_cases kind check it with ⟨time, same⟩ | ⟨-, status, -⟩
    · rw [same]
      exact pick
    · intro after
      exact kind.status_ne (after.1.symm.trans status)

lemma slot_tick {checks : PoolType → Kind → ℕ → Check} {t : PoolType} {kind : Kind} {i : ℕ} :
    (s.connectPoolEventCallback checks).slot t kind i =
      if s.releasing.isNone ∧ s.work t then
        (s.slot t kind i).map (s.timeoutSlot kind (checks t kind i))
      else s.slot t kind i := by
  unfold slot
  rw [connectPoolEventCallback_nodes]
  split
  · exact List.getElem?_mapIdx
  · rfl

lemma tick_indexList (s : ConnectedPool) (checks : PoolType → Kind → ℕ → Check) (t : PoolType)
    (kind : Kind) :
    ((s.connectPoolEventCallback checks).nodes t kind).indexList = (s.nodes t kind).indexList := by
  unfold connectPoolEventCallback
  split
  · rfl
  · dsimp only
    split
    · cases kind <;> rfl
    · rfl

lemma indexed_tick (sound : s.Sound) (indexed : s.Indexed)
    {checks : PoolType → Kind → ℕ → Check} :
    (s.connectPoolEventCallback checks).Indexed ↔
      (s.releasing = none → ∀ t kind i it, s.work t = true → s.slot t kind i = some it →
        Pickable kind it →
          ¬ s.Overdue kind (checks t kind i) it ∧ Answers (checks t kind i) it) := by
  have lists : ∀ t kind, Represents ((s.connectPoolEventCallback checks).nodes t kind).indexList
      (s.PickableAt t kind) := by
    intro t kind
    rw [tick_indexList]
    exact indexed t kind
  rw [indexed_iff lists]
  constructor
  · intro same idle t kind i it work there pick
    obtain ⟨after, now, still⟩ := (same t kind i).mp ⟨it, there, pick⟩
    rw [slot_tick, if_pos ⟨by rw [idle]; rfl, work⟩, there, Option.map_some, Option.some.injEq] at now
    subst now
    exact ((pickable_timeoutSlot (sound.slots _ _ _ _ there)).mp still).2 pick
  · intro cond t kind i
    unfold PickableAt
    rw [slot_tick]
    split
    · rename_i looks
      have idle := Option.isNone_iff_eq_none.mp looks.1
      cases there : s.slot t kind i with
      | none => rfl
      | some it =>
        simp only [Option.map_some, Option.some.injEq, exists_eq_left']
        rw [pickable_timeoutSlot (sound.slots _ _ _ _ there)]
        exact (and_iff_left fun pick => cond idle t kind i it looks.2 there pick).symm
    · rfl

/-! ## Runs -/

/-- An action keeps the lists right exactly when it meets its condition. -/
theorem indexed_step (sound : s.Sound) (indexed : s.Indexed) (a : PoolAction) :
    (s.step a).Indexed ↔ s.Restores a := by
  cases a with
  | popPrestartedNode request type =>
    refine indexed_popNode sound indexed (fun t _ _ => ?_) fun t unused => ?_
    · exact indexed_popOneNode indexed .prestarted request t
    · exact frontMatches_of_unused indexed request unused
  | popPreconnectedNode request type =>
    refine indexed_popNode sound indexed (fun t _ some_ => ?_) fun t unused => ?_
    · cases t with
      | sr =>
        refine (indexed_popOther indexed request).trans ?_
        rw [if_pos rfl, LeavesOther]
        constructor
        · intro h _
          exact h
        · intro h
          apply h
          by_contra none_
          refine some_ (getNumberOfNodes_eq_zero.mpr fun i it there used => ?_)
          exact none_ ⟨i, it, there, used⟩
      | st => exact indexed_popOneNode indexed .preconnected request .st
      | sy => exact indexed_popOneNode indexed .preconnected request .sy
      | fss => exact indexed_popOneNode indexed .preconnected request .fss
    · split
      · rename_i same
        subst same
        rintro ⟨i, it, there, used⟩
        exact absurd used (getNumberOfNodes_eq_zero.mp unused i it there)
      · exact frontMatches_of_unused indexed request unused
  | pushPreconnectedNode request type newNode now => exact indexed_pushNode indexed
  | pushPrestartedNode request type newNode now => exact indexed_pushNode indexed
  | pushPrestartedNodeFromPreconnected request type now => exact indexed_move indexed
  | curRequestIsAbnormal request type =>
    exact indexed_found indexed fun t kind i it there _ => indexed_abnormal indexed there
  | finishPushPreNode type fd ssl index =>
    exact indexed_found indexed fun t kind i it there used => indexed_finish indexed there used
  | deletePreNodeByRequest request type =>
    exact indexed_found indexed fun t kind i it there _ => indexed_clearNode indexed there
  | deletePreNodeBySSL ssl type =>
    refine indexed_found indexed fun t kind i it there _ => ?_
    have kept : (s.deleteOwner it).Indexed := by
      refine indexed_of_same indexed (fun _ _ => ?_) fun _ _ _ => ?_
      · rw [deleteOwner_nodes]
      · rw [PickableAt, PickableAt, slot_deleteOwner]
    exact indexed_clearNode kept ((s.slot_deleteOwner t kind i it).trans there)
  | connectPoolEventCallback checks => exact indexed_tick sound indexed
  | beginRelease t kind i =>
    refine iff_of_true ?_ trivial
    simp only [step, beginRelease]
    split
    · rename_i it idle there
      split
      · exact (indexed_modifySlot indexed there).mpr Iff.rfl
      · exact indexed
    · exact indexed
  | endRelease =>
    refine iff_of_true ?_ trivial
    simp only [step, endRelease]
    split
    · exact indexed
    · rename_i at_ here
      obtain ⟨it, there, status, -⟩ := sound.releasing at_ here
      split
      · exact indexed
      · rename_i it' there'
        have kept : (s.deleteOwner it').Indexed := by
          refine indexed_of_same indexed (fun _ _ => ?_) fun _ _ _ => ?_
          · rw [deleteOwner_nodes]
          · rw [PickableAt, PickableAt, slot_deleteOwner]
        refine (indexed_clearNode kept ((slot_deleteOwner ..).trans there)).mpr ?_
        intro pick
        exact at_.kind.status_ne (pick.1.symm.trans status)
  | outside memory => exact iff_of_true indexed trivial

lemma indexed_new (maxNumber : ℕ) (timeoutMs requestedTimeoutMs : UInt32) :
    (new maxNumber timeoutMs requestedTimeoutMs).Indexed := by
  intro t kind
  refine Represents.nil_iff.mpr fun i => ?_
  rintro ⟨it, there, -⟩
  cases there

/-- In a pool whose lists are right, a loop finds a match as soon as there is one. -/
lemma popOneNode_iff (indexed : s.Indexed) (kind : Kind) (request : Ptr) (t : PoolType) :
    (s.popOneNode kind kind request t).2 = true ↔ s.HasMatch t kind request := by
  have below : ∀ i, SlotOf (s.canTake kind t request · = true) (s.nodes t kind).requests i →
      (popListFront (s.nodes t kind).indexList).1 ≤ i := by
    intro i found
    exact popListFront_le (indexed t kind) (slotOf_imp found fun _ => canTake_pickable)
  refine Iff.trans ?_ (firstFrom_isSome_iff below)
  unfold popOneNode
  dsimp only
  split
  · rename_i none_
    rw [none_]
    simp
  · rename_i some_
    rw [some_]
    simp

/-- A pop that keeps the lists right gives a connection exactly when some slot matches. -/
lemma popNode_iff (sound : s.Sound) (indexed : s.Indexed) {a : PoolAction} (restores : s.Restores a)
    {kind : Kind} {request : Ptr} {type : NlsType} {t : PoolType}
    (pop : popped a = some (kind, request, type)) (given : request ≠ 0)
    (service : poolOf type = some t) :
    (s.popNode kind request type).2 = true ↔ s.HasMatch t kind request := by
  have unused : s.getNumberOfNodes t kind = 0 → ¬ s.HasMatch t kind request := by
    rintro none_ ⟨i, it, there, take⟩
    exact getNumberOfNodes_eq_zero.mp none_ i it there (canTake_pickable take).1
  unfold popNode
  rw [if_neg given, service]
  dsimp only
  split
  · rename_i unfilled
    refine iff_of_false (by simp) (unused (getNumberOfNodes_eq_zero.mpr fun i it there => ?_))
    rw [slot_of_unfilled sound unfilled kind i] at there
    cases there
  · split
    · rename_i some_
      cases kind with
      | prestarted => exact popOneNode_iff indexed .prestarted request t
      | preconnected =>
        cases a with
        | popPreconnectedNode request' type' =>
          obtain ⟨rfl, rfl⟩ : request' = request ∧ type' = type := by
            simpa [popped] using pop
          cases t with
          | sr =>
            have leaves := restores given .sr service
            rw [if_pos rfl] at leaves
            have some_used : ∃ i it, s.slot .sr .preconnected i = some it ∧
                it.status = .preNodeConnected := by
              by_contra none_
              refine some_.ne' (getNumberOfNodes_eq_zero.mpr fun i it there used => ?_)
              exact none_ ⟨i, it, there, used⟩
            obtain ⟨-, unmatched⟩ := leaves some_used
            refine iff_of_false ?_ unmatched
            unfold popOnePreconnectedNode popOneNode
            dsimp only
            split
            · simp
            · rename_i index it search
              obtain ⟨-, there, take, -⟩ := firstFrom_eq_some.mp search
              exact absurd ⟨index, it, there, take⟩ unmatched
          | st => exact popOneNode_iff indexed .preconnected request' .st
          | sy => exact popOneNode_iff indexed .preconnected request' .sy
          | fss => exact popOneNode_iff indexed .preconnected request' .fss
        | _ => simp [popped] at pop
    · rename_i none_
      exact iff_of_false (by simp) (unused (by omega))

end

/-- The lists are right in every state of a run exactly when each of its actions meets its
condition, and in such a run a pop succeeds exactly when some slot matches the request. -/
theorem index_lists (maxNumber : ℕ) (timeoutMs requestedTimeoutMs : UInt32)
    (calls : List PoolAction) :
    ((∀ bs, bs <+: calls →
        (run step (new maxNumber timeoutMs requestedTimeoutMs) bs).Indexed) ↔
      Along step Restores (new maxNumber timeoutMs requestedTimeoutMs) calls) ∧
    (Along step Restores (new maxNumber timeoutMs requestedTimeoutMs) calls →
      ∀ bs a kind request type t, bs ++ [a] <+: calls → popped a = some (kind, request, type) →
        request ≠ 0 → poolOf type = some t →
        (((run step (new maxNumber timeoutMs requestedTimeoutMs) bs).popNode kind request type).2 =
            true ↔
          (run step (new maxNumber timeoutMs requestedTimeoutMs) bs).HasMatch t kind request)) := by
  set start := new maxNumber timeoutMs requestedTimeoutMs with start_eq
  have sound : ∀ bs, (run step start bs).Sound := sound_run maxNumber timeoutMs requestedTimeoutMs
  have both : (∀ bs, bs <+: calls → (run step start bs).Sound ∧ (run step start bs).Indexed) ↔
      Along step Restores start calls := by
    refine along_iff_invariant (I := fun s : ConnectedPool => s.Sound ∧ s.Indexed)
      (fun s a good => ?_)
      ⟨sound [], indexed_new maxNumber timeoutMs requestedTimeoutMs⟩ calls
    rw [and_iff_right (sound_step good.1 a)]
    exact indexed_step good.1 good.2 a
  refine ⟨?_, fun along bs a kind request type t part pop given service => ?_⟩
  · rw [← both]
    exact forall_congr' fun bs => forall_congr' fun _ => (and_iff_right (sound bs)).symm
  · have restores := along_iff_forall.mp along bs a part
    have before : bs <+: calls := (List.prefix_append bs [a]).trans part
    exact popNode_iff (sound bs) (both.mpr along bs before).2 restores pop given service

/-- Two requests for different addresses. -/
def otherUrl : Ptr → RequestObject
  | 1 => { socketFd := 3, sslHandle := 11, nativeSslHandle := 11, lastOpTimestampMs := 1000 }
  | 2 => { param := { url := [119] }, socketFd := 4, sslHandle := 12, nativeSslHandle := 12 }
  | _ => {}

/-- The slot of the first request is skipped for the second one, and its index is gone. -/
theorem skipped_slot_lost :
    ¬ (∀ maxNumber timeoutMs requestedTimeoutMs calls,
      (run step (new maxNumber timeoutMs requestedTimeoutMs) calls).Indexed) := by
  intro claim
  have right := claim 1 15000 7000 [.outside otherUrl, .pushPrestartedNode 1 .typeAsr true 1000,
    .finishPushPreNode .typeAsr 3 11 0, .popPrestartedNode 2 .typeAsr] .sr .prestarted
  have lost := (right.mem 0).mpr ⟨
    { type := .typeAsr, status := .preNodeStarted, startTimestamp := 1000,
      workableTimestamp := 1000, socketFd := 3, sslHandle := 11, canPick := true, request := 1 },
    by decide, by decide⟩
  exact absurd lost (by decide)

end ConnectedPool

end NlsSdk.Transport
