import NlsSdk.Transport.PoolSpec

/-!
# What every reachable pool satisfies

Which requests the slots have, and what the marks of the timer mean. Nothing
is asked of the callers.
-/
namespace NlsSdk.Transport

open Library

namespace ConnectedPool

/-- The owner and the marks of a slot. -/
structure SoundSlot (kind : Kind) (it : ConnectedNodeProcess) : Prop where
  owned : it.status = kind.status → it.request ≠ 0
  marked : it.shouldRelease = true → it.status = .preNodeToBeCreated ∧ it.request ≠ 0
  idle : it.canPick = true → it.curRequest = 0

/-- A slot that the deferred release has begun with. -/
def InRelease (it : ConnectedNodeProcess) : Prop :=
  it.status = .preNodeToBeCreated ∧ it.request ≠ 0

structure Sound (s : ConnectedPool) : Prop where
  slots : ∀ t kind i it, s.slot t kind i = some it → SoundSlot kind it
  releasing : ∀ at_, s.releasing = some at_ →
    ∃ it, s.slot at_.type at_.kind at_.index = some it ∧ InRelease it
  filled : ∀ t, s.size t .prestarted = s.size t .preconnected

lemma isFree_iff {it : ConnectedNodeProcess} :
    isFree it = true ↔
      it.status = .preNodeToBeCreated ∧ it.shouldRelease = false ∧ it.request = 0 := by
  simp [isFree, and_assoc]

lemma soundSlot_fresh (kind : Kind) (type : NlsType) : SoundSlot kind (fresh type) where
  owned := by
    intro used
    exact absurd used.symm kind.status_ne
  marked := by simp [fresh]
  idle := by simp [fresh]

lemma soundSlot_clearNode (kind : Kind) (it : ConnectedNodeProcess) :
    SoundSlot kind it.clearNode where
  owned := by
    intro used
    exact absurd used.symm kind.status_ne
  marked := by simp [ConnectedNodeProcess.clearNode]
  idle := by simp [ConnectedNodeProcess.clearNode]

/-- The timer leaves a slot, up to its time of use, or empties and marks it. -/
lemma timeoutSlot_cases (s : ConnectedPool) (kind : Kind) (check : Check)
    (it : ConnectedNodeProcess) :
    (∃ time, s.timeoutSlot kind check it = { it with workableTimestamp := time }) ∨
      (it.status = kind.status ∧ (s.timeoutSlot kind check it).status = .preNodeToBeCreated ∧
        (s.timeoutSlot kind check it).request = it.request ∧
        (s.timeoutSlot kind check it).canPick = false ∧
        (s.timeoutSlot kind check it).shouldRelease = true ∧
        (s.timeoutSlot kind check it).sslHandle = 0) := by
  have fresh_ : ∃ time, s.refresh it = { it with workableTimestamp := time } := by
    unfold refresh
    split
    · exact ⟨_, rfl⟩
    · exact ⟨it.workableTimestamp, rfl⟩
  obtain ⟨time, fresh_⟩ := fresh_
  unfold timeoutSlot
  rw [fresh_]
  split
  · rename_i used
    dsimp only
    split
    · split
      · cases kind <;> exact .inr ⟨used, rfl, rfl, rfl, rfl, rfl⟩
      · exact .inl ⟨time, rfl⟩
    · split
      · exact .inl ⟨time, rfl⟩
      · cases kind <;> exact .inr ⟨used, rfl, rfl, rfl, rfl, rfl⟩
  · exact .inl ⟨it.workableTimestamp, rfl⟩

lemma soundSlot_change {s : ConnectedPool} {a : PoolAction} {t : PoolType} {kind : Kind} {i : ℕ}
    {it after : ConnectedNodeProcess} (sound : s.Sound) (was : SoundSlot kind it)
    (change : Change s a t kind i it after) : SoundSlot kind after := by
  cases change with
  | same => exact was
  | taken pop service given take => exact ⟨was.owned, was.marked, fun pick => by cases pick⟩
  | stored push service given free =>
    exact ⟨fun _ => given, (by nofun), (by nofun)⟩
  | usedUp push service given found => exact ⟨was.owned, was.marked, fun pick => by cases pick⟩
  | moved move service given vector found free =>
    obtain ⟨there, used, -⟩ := existent_found found
    refine ⟨fun _ => (sound.slots _ _ _ _ there).owned used, fun mark => ?_, fun pick => by cases pick⟩
    exact absurd mark (by simp [ConnectedPool.moved, (isFree_iff.mp free).2.1])
  | movedAway => exact soundSlot_clearNode ..
  | abnormal => exact ⟨was.owned, was.marked, was.idle⟩
  | finished => exact ⟨was.owned, was.marked, fun _ => rfl⟩
  | deletedRequest => exact soundSlot_clearNode ..
  | deletedSSL => exact soundSlot_clearNode ..
  | @timedOut checks _ tick idle work =>
    rcases s.timeoutSlot_cases kind (checks t kind i) it with ⟨time, same⟩ | emptied
    · rw [same]
      exact ⟨was.owned, was.marked, was.idle⟩
    · obtain ⟨used, status, request, pick, -, -⟩ := emptied
      refine ⟨fun again => ?_, fun _ => ⟨status, ?_⟩, fun picked => ?_⟩
      · exact absurd (status.symm.trans again).symm kind.status_ne
      · rw [request]
        exact was.owned used
      · exact absurd picked (by simp [pick])
  | begun => exact ⟨was.owned, (by nofun), was.idle⟩
  | released => exact soundSlot_clearNode ..

/-- Only the release itself ends the release of a slot. -/
lemma inRelease_change {s : ConnectedPool} {a : PoolAction} {t : PoolType} {kind : Kind} {i : ℕ}
    {it after : ConnectedNodeProcess} {preconnect : Bool}
    (here : s.releasing = some ⟨t, kind, i, preconnect⟩) (busy : a ≠ .endRelease)
    (was : InRelease it) (change : Change s a t kind i it after) :
    InRelease after ∧ after.request = it.request := by
  have unused : it.status ≠ kind.status := fun used => kind.status_ne (used.symm.trans was.1)
  cases change with
  | same => exact ⟨was, rfl⟩
  | taken pop service given take =>
    simp only [canTake, Bool.and_eq_true, beq_iff_eq] at take
    exact absurd take.1.1 unused
  | stored push service given free => exact absurd (isFree_iff.mp free).2.2 was.2
  | usedUp push service given found => exact absurd (existent_found found).2.1 unused
  | moved move service given vector found free => exact absurd (isFree_iff.mp free).2.2 was.2
  | movedAway move service given vector found =>
    subst vector
    exact absurd (existent_found found).2.1 unused
  | abnormal mark service found => exact absurd (findNode_found found).2.1 unused
  | finished finish service found => exact absurd (findNode_found found).2.1 unused
  | deletedRequest delete_ service found => exact absurd (findNode_found found).2.1 unused
  | deletedSSL delete_ service found => exact absurd (findNode_found found).2.1 unused
  | timedOut tick idle work => exact absurd (here.symm.trans idle) (by simp)
  | begun release idle => exact absurd (here.symm.trans idle) (by simp)
  | released release => exact absurd release busy

/-- Which slot is in release. -/
lemma step_releasing (s : ConnectedPool) (a : PoolAction) :
    (a ≠ .endRelease ∧ (s.step a).releasing = s.releasing) ∨
      (a = .endRelease ∧ (s.step a).releasing = none) ∨
      ∃ t kind i it, a = .beginRelease t kind i ∧ s.slot t kind i = some it ∧
        it.shouldRelease = true ∧ s.releasing = none ∧
        (s.step a).releasing = some ⟨t, kind, i, it.shouldPreconnect⟩ := by
  have loop : ∀ kind list request t,
      (s.popOneNode kind list request t).1.releasing = s.releasing := by
    intro kind list request t
    unfold popOneNode
    dsimp only
    split <;> rfl
  have pop : ∀ kind request type, (s.popNode kind request type).1.releasing = s.releasing := by
    intro kind request type
    unfold popNode
    split
    · rfl
    · split
      · rfl
      · split
        · rfl
        · split
          · split
            · exact loop ..
            · exact loop ..
          · rfl
  have push : ∀ kind request type newNode now,
      (s.pushNode kind request type newNode now).1.releasing = s.releasing := by
    intro kind request type newNode now
    unfold pushNode
    split
    · rfl
    · split
      · rfl
      · unfold pushFilled
        split
        · exact prepared_releasing ..
        · unfold store
          split
          · exact prepared_releasing ..
          · exact prepared_releasing ..
  cases a with
  | popPrestartedNode request type => exact .inl ⟨by simp, pop ..⟩
  | popPreconnectedNode request type => exact .inl ⟨by simp, pop ..⟩
  | pushPreconnectedNode request type newNode now => exact .inl ⟨by simp, push ..⟩
  | pushPrestartedNode request type newNode now => exact .inl ⟨by simp, push ..⟩
  | pushPrestartedNodeFromPreconnected request type now =>
    refine .inl ⟨by simp, ?_⟩
    simp only [step, pushPrestartedNodeFromPreconnected]
    split
    · rfl
    · split
      · rfl
      · split
        · rfl
        · split <;> rfl
  | curRequestIsAbnormal request type =>
    refine .inl ⟨by simp, ?_⟩
    simp only [step, curRequestIsAbnormal]
    split
    · rfl
    · split <;> rfl
  | finishPushPreNode type fd ssl index =>
    refine .inl ⟨by simp, ?_⟩
    simp only [step, finishPushPreNode]
    split
    · rfl
    · split <;> rfl
  | deletePreNodeByRequest request type =>
    refine .inl ⟨by simp, ?_⟩
    simp only [step, deletePreNodeByRequest]
    split
    · rfl
    · split <;> rfl
  | deletePreNodeBySSL ssl type =>
    refine .inl ⟨by simp, ?_⟩
    simp only [step, deletePreNodeBySSL]
    split
    · rfl
    · split
      · rfl
      · rw [modifySlot_releasing, deleteOwner_releasing]
  | connectPoolEventCallback checks =>
    refine .inl ⟨by simp, ?_⟩
    simp only [step, connectPoolEventCallback]
    split <;> rfl
  | beginRelease t kind i =>
    simp only [step, beginRelease]
    split
    · rename_i it idle there
      split
      · rename_i marked
        exact .inr (.inr ⟨t, kind, i, it, rfl, there, marked.1, idle, rfl⟩)
      · exact .inl ⟨by simp, rfl⟩
    · exact .inl ⟨by simp, rfl⟩
  | endRelease =>
    refine .inr (.inl ⟨rfl, ?_⟩)
    simp only [step, endRelease]
    split
    · rename_i none_
      exact none_
    · split <;> rfl
  | outside memory => exact .inl ⟨by simp, rfl⟩

theorem sound_step {s : ConnectedPool} (sound : s.Sound) (a : PoolAction) : (s.step a).Sound where
  slots := by
    intro t kind i after at_
    obtain ⟨before, there | ⟨-, type, rfl⟩, change⟩ := step_slot at_
    · exact soundSlot_change sound (sound.slots _ _ _ _ there) change
    · exact soundSlot_change sound (soundSlot_fresh kind type) change
  releasing := by
    rcases s.step_releasing a with ⟨busy, same⟩ | ⟨-, none_⟩ | ⟨t, kind, i, it, rfl, there, marked, -, begun⟩
    · intro at_ here
      rw [same] at here
      obtain ⟨it, there, was⟩ := sound.releasing at_ here
      obtain ⟨after, now, change⟩ := slot_step a there
      exact ⟨after, now, (inRelease_change here busy was change).1⟩
    · intro at_ here
      rw [none_] at here
      cases here
    · intro at_ here
      rw [begun, Option.some.injEq] at here
      subst here
      obtain ⟨after, now, change⟩ := slot_step (.beginRelease t kind i) there
      have was := (sound.slots _ _ _ _ there).marked marked
      refine ⟨after, now, ?_⟩
      cases change with
      | same => exact was
      | begun => exact was
      | taken pop => cases pop
      | stored push => cases push
      | usedUp push => cases push
      | moved move => cases move
      | movedAway move => cases move
      | abnormal mark => cases mark
      | finished finish => cases finish
      | deletedRequest delete_ => cases delete_
      | deletedSSL delete_ => cases delete_
      | timedOut tick => cases tick
      | released release => cases release
  filled := by
    intro t
    rcases s.step_filled a with same | ⟨t', filled⟩
    · rw [same, same]
      exact sound.filled t
    · rw [filled, filled, sound.filled t]

lemma sound_new (maxNumber : ℕ) (timeoutMs requestedTimeoutMs : UInt32) :
    (new maxNumber timeoutMs requestedTimeoutMs).Sound where
  slots := by
    intro t kind i it there
    cases there
  releasing := nofun
  filled := fun _ => rfl

theorem sound_run (maxNumber : ℕ) (timeoutMs requestedTimeoutMs : UInt32)
    (calls : List PoolAction) : (run step (new maxNumber timeoutMs requestedTimeoutMs) calls).Sound :=
  invariant_run (I := Sound) (fun _ a sound => sound_step sound a) (sound_new ..) calls

end ConnectedPool

end NlsSdk.Transport
