import NlsSdk.Transport.PoolSound

/-!
# Lending

A pop hands the connection of a slot to a request, and the end of a push gives it back.
`lent_once` weighs one against the other.
-/
namespace NlsSdk.Transport

open Library

namespace ConnectedPool

variable {s : ConnectedPool} {t : PoolType} {kind : Kind} {i : ℕ} {request : Ptr} {type : NlsType}

def pickable (t : PoolType) (kind : Kind) (i : ℕ) (s : ConnectedPool) : Bool :=
  ((s.slot t kind i).map (·.canPick)).getD false

/-- How often a pop hands out the connection of the slot: once when it succeeds and tells the
request the index of the slot. -/
def popHandsOut (t : PoolType) (i : ℕ) (kind : Kind) (s : ConnectedPool) (request : Ptr)
    (type : NlsType) : ℕ :=
  if poolOf type = some t ∧ (s.popNode kind request type).2 = true ∧
      ((s.popNode kind request type).1.memory request).poolIndex = i then 1
  else 0

def handsOut (t : PoolType) (kind : Kind) (i : ℕ) (s : ConnectedPool) : PoolAction → ℕ
  | .popPrestartedNode request type =>
    if kind = .prestarted then popHandsOut t i .prestarted s request type else 0
  | .popPreconnectedNode request type =>
    if kind = .preconnected then popHandsOut t i .preconnected s request type else 0
  | _ => 0

/-- How often an action gives the connection of the slot back: once when the end of a push finds
it. -/
def givesBack (t : PoolType) (kind : Kind) (i : ℕ) (s : ConnectedPool) : PoolAction → ℕ
  | .finishPushPreNode type fd ssl index =>
    if poolOf type = some t ∧
        (s.findNode t index.toNat (hasConnection fd ssl)).map (fun found => (found.1, found.2.1)) =
          some (kind, i) then 1
    else 0
  | _ => 0

/-! ## Steps -/

lemma pickable_of_slot {it : ConnectedNodeProcess} (there : s.slot t kind i = some it) :
    pickable t kind i s = it.canPick := by
  rw [pickable, there]
  rfl

lemma popOneNode_took {list : Kind} (ok : (s.popOneNode kind list request t).2 = true)
    (index : ((s.popOneNode kind list request t).1.memory request).poolIndex = i) :
    pickable t kind i s = true ∧ pickable t kind i (s.popOneNode kind list request t).1 = false := by
  unfold popOneNode at ok index ⊢
  dsimp only at ok index ⊢
  cases search : firstFrom (s.canTake kind t request)
      (popListFront (s.nodes t list).indexList).1 (s.nodes t kind).requests with
  | none =>
    rw [search] at ok
    cases ok
  | some found =>
    obtain ⟨j, it⟩ := found
    rw [search] at index
    obtain ⟨-, there, take, -⟩ := firstFrom_eq_some.mp search
    change ((s.fillNode request j it).memory request).poolIndex = _ at index
    rw [fillNode, setMemory_memory, if_pos rfl] at index
    obtain rfl : j = i := Int.ofNat.inj index
    have before : s.slot t kind j = some it := there
    have filled : (s.fillNode request j it).slot t kind j = some it := before
    simp only [canTake, Bool.and_eq_true, beq_iff_eq] at take
    refine ⟨(pickable_of_slot before).trans take.1.2, ?_⟩
    dsimp only
    rw [pickable, slot_modifyList, slot_modifySlot_self filled]
    rfl

/-- A pop takes a slot that can be picked, and then it cannot. -/
lemma popNode_took (service : poolOf type = some t)
    (ok : (s.popNode kind request type).2 = true)
    (index : ((s.popNode kind request type).1.memory request).poolIndex = i) :
    pickable t kind i s = true ∧ pickable t kind i (s.popNode kind request type).1 = false := by
  unfold popNode at ok index ⊢
  split_ifs at ok index ⊢ with null
  rw [service] at ok index ⊢
  dsimp only at ok index ⊢
  split_ifs at ok index ⊢ with unfilled some_
  cases kind with
  | prestarted => exact popOneNode_took ok index
  | preconnected => exact popOneNode_took ok index

lemma handsOut_took {a : PoolAction} (out : handsOut t kind i s a ≠ 0) :
    handsOut t kind i s a = 1 ∧ pickable t kind i s = true ∧
      pickable t kind i (s.step a) = false := by
  have pop (kind : Kind) (request : Ptr) (type : NlsType)
      (out : popHandsOut t i kind s request type ≠ 0) :
      popHandsOut t i kind s request type = 1 ∧ pickable t kind i s = true ∧
        pickable t kind i (s.popNode kind request type).1 = false := by
    unfold popHandsOut at out ⊢
    split at out
    · next took =>
      rw [if_pos took]
      exact ⟨rfl, popNode_took took.1 took.2.1 took.2.2⟩
    · exact absurd rfl out
  cases a with
  | popPrestartedNode request type =>
    simp only [handsOut] at out ⊢
    split_ifs at out ⊢ with vector
    · subst vector
      exact pop .prestarted request type out
    · exact absurd rfl out
  | popPreconnectedNode request type =>
    simp only [handsOut] at out ⊢
    split_ifs at out ⊢ with vector
    · subst vector
      exact pop .preconnected request type out
    · exact absurd rfl out
  | _ => exact absurd rfl out

/-- Only the end of a push makes a slot pickable. -/
lemma pickable_step {a : PoolAction} (picks : pickable t kind i (s.step a) = true) :
    pickable t kind i s = true ∨ givesBack t kind i s a = 1 := by
  cases at_ : (s.step a).slot t kind i with
  | none =>
    rw [pickable, at_] at picks
    cases picks
  | some after =>
    have can : after.canPick = true := (pickable_of_slot at_).symm.trans picks
    obtain ⟨before, old, change⟩ := step_slot at_
    -- a slot that is new cannot be picked
    have kept (pick : before.canPick = true) : pickable t kind i s = true := by
      obtain there | ⟨-, type, rfl⟩ := old
      · exact (pickable_of_slot there).trans pick
      · cases pick
    cases change with
    | same => exact .inl (kept can)
    | taken => cases can
    | stored => cases can
    | usedUp => cases can
    | moved => cases can
    | movedAway => cases can
    | abnormal => exact .inl (kept can)
    | finished finish service found =>
      subst finish
      right
      rw [givesBack, if_pos]
      refine ⟨service, ?_⟩
      rw [found]
      rfl
    | deletedRequest => cases can
    | deletedSSL => cases can
    | @timedOut checks tick idle work =>
      obtain ⟨time, same⟩ | ⟨-, -, -, none_, -⟩ :=
        s.timeoutSlot_cases kind (checks t kind i) before
      · rw [same] at can
        exact .inl (kept can)
      · rw [none_] at can
        cases can
    | begun => exact .inl (kept can)
    | released => cases can

/-- In every run of the pool the connection of a slot is handed out no more often than it was there
to be picked at first and has been given back: what is lent is not lent again. -/
theorem lent_once (s : ConnectedPool) (as : List PoolAction) (t : PoolType) (kind : Kind) (i : ℕ) :
    total step (handsOut t kind i) s as + (pickable t kind i (run step s as)).toNat ≤
      (pickable t kind i s).toNat + total step (givesBack t kind i) s as := by
  refine @total_le_gain _ _ step (handsOut t kind i) (givesBack t kind i)
    (fun s => (pickable t kind i s).toNat) (fun s a => ?_) s as
  by_cases out : handsOut t kind i s a = 0
  · rw [out, Nat.zero_add]
    cases picks : pickable t kind i (s.step a) with
    | false => exact Nat.zero_le _
    | true =>
      obtain before | back := pickable_step picks
      · rw [before]
        exact Nat.le_add_right _ _
      · rw [back]
        exact Nat.le_add_left _ _
  · obtain ⟨one, before, after⟩ := handsOut_took out
    rw [one, before, after]
    exact Nat.le_add_right _ _

end ConnectedPool

end NlsSdk.Transport
