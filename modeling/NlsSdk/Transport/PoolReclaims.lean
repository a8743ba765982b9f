import NlsSdk.Transport.PoolMaintenance
import NlsSdk.Transport.PoolOwners

/-!
# Reclaimed slots

The timer empties a slot whose connection is overdue or does not answer, and leaves the owner in it
for the deferred release. `reclaimed_released_iff` says what becomes of the owner, whatever calls
come in between.
-/
namespace NlsSdk.Transport

open Library

namespace ConnectedPool

variable {s : ConnectedPool} {a : PoolAction} {t : PoolType} {kind : Kind} {i : ℕ} {owner : Ptr}
  {it after : ConnectedNodeProcess}

/-- The slot was taken from its owner, who waits in it for the deletion. -/
def Reclaimed (s : ConnectedPool) (t : PoolType) (kind : Kind) (i : ℕ) (owner : Ptr) : Prop :=
  ∃ it, s.slot t kind i = some it ∧ it.request = owner ∧ InRelease it ∧
    (it.shouldRelease = true ∨ s.ReleasingAt t kind i)

/-- The end of a release deletes the owner of the slot and empties the slot. -/
structure Releases (s : ConnectedPool) (t : PoolType) (kind : Kind) (i : ℕ) (owner : Ptr) :
    Prop where
  erased : ∃ it, Erased s .endRelease t kind i it ∧ it.request = owner
  deletes : (s.step .endRelease).deleted = s.deleted ++ s.requestDeletions owner

/-! ## Steps -/

lemma tick_slot {checks : PoolType → Kind → ℕ → Check} (idle : s.releasing = none)
    (work : s.work t = true) (there : s.slot t kind i = some it) :
    (s.step (.connectPoolEventCallback checks)).slot t kind i =
      some (s.timeoutSlot kind (checks t kind i) it) := by
  have there' : (s.nodes t kind).requests[i]? = some it := there
  have looks : s.releasing.isNone ∧ s.work t := ⟨by rw [idle]; rfl, work⟩
  rw [slot, step, connectPoolEventCallback_nodes, if_pos looks, List.getElem?_mapIdx, there']
  rfl

/-- A slot in use that a tick empties is reclaimed. -/
lemma tick_reclaims {checks : PoolType → Kind → ℕ → Check} (sound : s.Sound)
    (idle : s.releasing = none) (work : s.work t = true) (there : s.slot t kind i = some it)
    (used : it.status = kind.status)
    (emptied : (s.timeoutSlot kind (checks t kind i) it).status ≠ kind.status) :
    (s.step (.connectPoolEventCallback checks)).Reclaimed t kind i it.request := by
  refine ⟨_, tick_slot idle work there, ?_⟩
  obtain ⟨time, same⟩ | ⟨-, status, request, -, marked, -⟩ :=
    s.timeoutSlot_cases kind (checks t kind i) it
  · rw [same] at emptied
    exact absurd used emptied
  · refine ⟨request, ⟨status, ?_⟩, .inl marked⟩
    rw [request]
    exact (sound.slots t kind i it there).owned used

lemma endRelease_releases (reclaimed : s.Reclaimed t kind i owner)
    (releasing : s.ReleasingAt t kind i) : s.Releases t kind i owner := by
  obtain ⟨it, there, rfl, ⟨-, owned⟩, -⟩ := reclaimed
  obtain ⟨preconnect, here⟩ := releasing
  have there' : (s.nodes t kind).requests[i]? = some it := there
  have after : s.step .endRelease =
      { (s.deleteOwner it).modifySlot t kind i .clearNode with releasing := none } := by
    simp only [step, endRelease, here, there']
  refine ⟨⟨it, ⟨there, owned, ?_, .inl ⟨rfl, preconnect, here⟩⟩, rfl⟩, ?_⟩
  · rw [after]
    exact slot_modifySlot_self ((slot_deleteOwner ..).trans there)
  · rw [after]
    change (s.deleteOwner it).deleted = _
    rw [deleteOwner_deleted, if_neg owned]

/-- No call but the end of its release changes the owner or the status of a reclaimed slot, and
only the begin of the release takes the mark away. -/
lemma reclaimed_change (was : InRelease it) (busy : a = .endRelease → ¬ s.ReleasingAt t kind i)
    (change : Change s a t kind i it after) :
    InRelease after ∧ after.request = it.request ∧
      (after.shouldRelease = it.shouldRelease ∨
        a = .beginRelease t kind i ∧ s.releasing = none ∧ s.work t = true) := by
  have unused : it.status ≠ kind.status := fun used => kind.status_ne (used.symm.trans was.1)
  cases change with
  | same => exact ⟨was, rfl, .inl rfl⟩
  | taken pop service given take =>
    simp only [canTake, Bool.and_eq_true, beq_iff_eq] at take
    exact absurd take.1.1 unused
  | stored push service given free => exact absurd (isFree_iff.mp free).2.2 was.2
  | usedUp push service given found => exact absurd (existent_found found).2.1 unused
  | moved move service given vector found free => exact absurd (isFree_iff.mp free).2.2 was.2
  | movedAway move service given vector found =>
    subst vector
    exact absurd (existent_found found).2.1 unused
  | abnormal mark service found => exact absurd (findNode_found found).2.1 unused
  | finished finish service found => exact absurd (findNode_found found).2.1 unused
  | deletedRequest delete_ service found => exact absurd (findNode_found found).2.1 unused
  | deletedSSL delete_ service found => exact absurd (findNode_found found).2.1 unused
  | timedOut tick idle work =>
    rw [timeoutSlot, if_neg unused]
    exact ⟨was, rfl, .inl rfl⟩
  | begun release idle there marked work => exact ⟨was, rfl, .inr ⟨release, idle, work⟩⟩
  | released release here => exact absurd ⟨_, here⟩ (busy release)

/-- Until it ends, a release goes on. -/
lemma releasingAt_step (releasing : s.ReleasingAt t kind i) (busy : a ≠ .endRelease) :
    (s.step a).ReleasingAt t kind i := by
  obtain ⟨preconnect, here⟩ := releasing
  obtain ⟨-, same⟩ | ⟨ends, -⟩ | ⟨_, _, _, _, -, -, -, idle, -⟩ := s.step_releasing a
  · exact ⟨preconnect, same.trans here⟩
  · exact absurd ends busy
  · rw [here] at idle
    cases idle

lemma reclaimed_step (reclaimed : s.Reclaimed t kind i owner)
    (busy : a = .endRelease → ¬ s.ReleasingAt t kind i) :
    (s.step a).Reclaimed t kind i owner := by
  obtain ⟨it, there, owns, was, waits⟩ := reclaimed
  obtain ⟨after, at_, change⟩ := slot_step a there
  obtain ⟨still, same, mark⟩ := reclaimed_change was busy change
  refine ⟨after, at_, same.trans owns, still, ?_⟩
  obtain marked | releasing := waits
  · obtain kept | ⟨rfl, idle, work⟩ := mark
    · exact .inl (kept.trans marked)
    · exact .inr (releasingAt_begin idle there marked work)
  · exact .inr (releasingAt_step releasing fun ends => busy ends releasing)

/-! ## Runs -/

/-- A reclaimed slot stays so until its owner is deleted. -/
lemma reclaimed_run (reclaimed : s.Reclaimed t kind i owner) (as : List PoolAction) :
    (run step s as).Reclaimed t kind i owner ∨
      ∃ bs, bs ++ [.endRelease] <+: as ∧ (run step s bs).Releases t kind i owner := by
  obtain still | ⟨bs, b, part, there, rfl, releasing⟩ :=
    invariant_until (I := fun s : ConnectedPool => s.Reclaimed t kind i owner)
      (D := fun s a => a = .endRelease ∧ s.ReleasingAt t kind i)
      (fun _ _ reclaimed goesOn => reclaimed_step reclaimed fun ends at_ => goesOn ⟨ends, at_⟩)
      reclaimed as
  · exact .inl still
  · exact .inr ⟨bs, part, endRelease_releases there releasing⟩

/-- A release that has begun with a reclaimed slot is ended by the first end that follows. -/
lemma releasing_run (reclaimed : s.Reclaimed t kind i owner) (releasing : s.ReleasingAt t kind i)
    (cs : List PoolAction) :
    ∃ bs, bs ++ [.endRelease] <+: cs ++ [.endRelease] ∧
      (run step s bs).Releases t kind i owner := by
  induction cs generalizing s with
  | nil => exact ⟨[], List.prefix_rfl, endRelease_releases reclaimed releasing⟩
  | cons a cs ih =>
    by_cases ends : a = .endRelease
    · subst ends
      exact ⟨[], List.cons_prefix_cons.mpr ⟨rfl, List.nil_prefix⟩,
        endRelease_releases reclaimed releasing⟩
    · have next : (s.step a).Reclaimed t kind i owner :=
        reclaimed_step reclaimed fun last => absurd last ends
      obtain ⟨bs, part, releases⟩ := ih next (releasingAt_step releasing ends)
      exact ⟨a :: bs, List.cons_prefix_cons.mpr ⟨rfl, part⟩, releases⟩

lemma work_of_begun (idle : s.releasing = none)
    (begun : (s.step (.beginRelease t kind i)).ReleasingAt t kind i) : s.work t = true := by
  obtain ⟨preconnect, here⟩ := begun
  by_contra rests
  have same : s.step (.beginRelease t kind i) = s := by
    cases found : (s.nodes t kind).requests[i]? with
    | none => simp only [step, beginRelease, idle, found]
    | some it =>
      have stops : ¬(it.shouldRelease = true ∧ s.work t = true) := fun both => rests both.2
      simp only [step, beginRelease, idle, found, if_neg stops]
  rw [same, idle] at here
  cases here

/-- A slot that is in release was begun with. -/
lemma releasing_begins (idle : s.releasing = none) (bs : List PoolAction)
    (releasing : (run step s bs).ReleasingAt t kind i) :
    ∃ ds cs, bs = ds ++ .beginRelease t kind i :: cs ∧ (run step s ds).releasing = none ∧
      (run step s ds).work t = true := by
  induction bs using List.reverseRecOn with
  | nil =>
    obtain ⟨preconnect, here⟩ := releasing
    rw [run_nil, idle] at here
    cases here
  | append_singleton bs a ih =>
    rw [run_append, run_cons, run_nil] at releasing
    obtain ⟨-, same⟩ | ⟨-, none_⟩ | ⟨t', kind', i', it, rfl, -, -, idle', begun⟩ :=
      (run step s bs).step_releasing a
    · obtain ⟨preconnect, here⟩ := releasing
      obtain ⟨ds, cs, rfl, free⟩ := ih ⟨preconnect, same.symm.trans here⟩
      exact ⟨ds, cs ++ [a], by simp, free⟩
    · obtain ⟨preconnect, here⟩ := releasing
      rw [none_] at here
      cases here
    · obtain ⟨preconnect, here⟩ := id releasing
      rw [begun] at here
      simp only [Option.some.injEq, Releasing.mk.injEq] at here
      obtain ⟨rfl, rfl, rfl, -⟩ := here
      exact ⟨bs, [], rfl, idle', work_of_begun idle' releasing⟩

/-- A slot that a tick takes from its owner holds nothing but the owner, whatever calls come, until
the deferred release deletes it; and that is what happens exactly when the release begins with the
slot, not inside another release, and ends. -/
theorem reclaimed_released_iff {checks : PoolType → Kind → ℕ → Check} (sound : s.Sound)
    (idle : s.releasing = none) (work : s.work t = true) (there : s.slot t kind i = some it)
    (used : it.status = kind.status)
    (emptied : (s.timeoutSlot kind (checks t kind i) it).status ≠ kind.status)
    (as : List PoolAction) :
    let s' := s.step (.connectPoolEventCallback checks)
    (∀ bs, bs <+: as →
      (run step s' bs).Reclaimed t kind i it.request ∨
        ∃ cs, cs ++ [.endRelease] <+: bs ∧ (run step s' cs).Releases t kind i it.request) ∧
    ((∃ bs, bs ++ [.endRelease] <+: as ∧ (run step s' bs).Releases t kind i it.request) ↔
      ∃ bs cs, bs ++ .beginRelease t kind i :: (cs ++ [.endRelease]) <+: as ∧
        (run step s' bs).releasing = none ∧ (run step s' bs).work t = true) := by
  intro s'
  have reclaimed : s'.Reclaimed t kind i it.request :=
    tick_reclaims sound idle work there used emptied
  have rests : s'.releasing = none := by
    obtain ⟨-, same⟩ | ⟨ends, -⟩ | ⟨_, _, _, _, begins, -⟩ :=
      s.step_releasing (.connectPoolEventCallback checks)
    · exact same.trans idle
    · cases ends
    · cases begins
  refine ⟨fun bs _ => reclaimed_run reclaimed bs, ?_⟩
  constructor
  · rintro ⟨bs, part, ⟨erased, by_, -⟩, -⟩
    obtain ⟨-, releasing⟩ | ⟨_, _, deletes, -⟩ := by_.by_
    · obtain ⟨ds, cs, rfl, free⟩ := releasing_begins rests bs releasing
      exact ⟨ds, cs, by simpa using part, free⟩
    · cases deletes
  · rintro ⟨bs, cs, part, free, works⟩
    obtain ⟨waiting, at_, owns, was, waits⟩ | ⟨ds, before, releases⟩ := reclaimed_run reclaimed bs
    · have marked : waiting.shouldRelease = true := by
        obtain marked | ⟨preconnect, here⟩ := waits
        · exact marked
        · rw [free] at here
          cases here
      have begun := releasingAt_begin free at_ marked works
      have next : ((run step s' bs).step (.beginRelease t kind i)).Reclaimed t kind i it.request :=
        reclaimed_step ⟨waiting, at_, owns, was, .inl marked⟩ (fun ends => by cases ends)
      obtain ⟨ds, within_, releases⟩ := releasing_run next begun cs
      refine ⟨bs ++ .beginRelease t kind i :: ds, ?_, ?_⟩
      · refine List.IsPrefix.trans ?_ part
        rw [List.append_assoc, List.cons_append]
        exact (List.prefix_append_right_inj bs).mpr (List.cons_prefix_cons.mpr ⟨rfl, within_⟩)
      · rw [run_append, run_cons]
        exact releases
    · exact ⟨ds, before.trans ((List.prefix_append bs _).trans part), releases⟩

/-- The connection of a request is stored. -/
def storedOnce : List PoolAction :=
  [.outside twoRequests, .pushPrestartedNode 1 .typeAsr true 1000,
    .finishPushPreNode .typeAsr 3 11 0]

/-- Another request pops while the slot is in release. -/
def releaseAndPop : List PoolAction :=
  [.beginRelease .sr .prestarted 0, .popPrestartedNode 2 .typeAsr, .endRelease]

theorem reclaimed_released_iff_popped :
    ∃ bs, bs ++ [.endRelease] <+: releaseAndPop ∧
      (run step ((run step (new 1 15000 7000) storedOnce).step
        (.connectPoolEventCallback fun _ _ _ => ⟨1001, false⟩)) bs).Releases
          .sr .prestarted 0 1 := by
  have both := @reclaimed_released_iff (run step (new 1 15000 7000) storedOnce) .sr .prestarted 0
    { type := .typeAsr, status := .preNodeStarted, startTimestamp := 1000,
      workableTimestamp := 1000, socketFd := 3, sslHandle := 11, canPick := true, request := 1 }
    (fun _ _ _ => ⟨1001, false⟩) (sound_run ..) rfl rfl (by decide) rfl (by decide) releaseAndPop
  exact both.2.mpr ⟨[], [.popPrestartedNode 2 .typeAsr], List.prefix_rfl, rfl, rfl⟩

end ConnectedPool

end NlsSdk.Transport
