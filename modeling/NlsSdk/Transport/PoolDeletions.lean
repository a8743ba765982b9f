import NlsSdk.Transport.PoolRegistry

/-!
# Deletions

Requests are deleted by their release, by the deferred release of the pool and by the handle of a
slot. `deletions_conserved` weighs the deletions of a run against what it created.
-/
namespace NlsSdk.Transport

open Library

namespace NlsClientImpl

open ConnectedPool

variable {c : NlsClientImpl} {request : Ptr}

/-- How often the request at that address has been deleted. -/
def deletions (request : Ptr) (c : NlsClientImpl) : ℕ :=
  c.preconnectedPool.deleted.count (.request request)

/-- How many requests a step leaves the client with at that address. -/
def creates (request : Ptr) (c : NlsClientImpl) : ClientAction → ℕ
  | .createRequest new instance_ _ =>
    match (c.register new instance_).2 with
    | .ok _ => if new.request = request then 1 else 0
    | .error _ => 0
  | _ => 0

/-- What was deleted at that address, and what is there. -/
def accounted (request : Ptr) (c : NlsClientImpl) : ℕ :=
  c.deletions request + (c.live request).toNat

/-! ## What a change of the pool deletes -/

/-- Objects that exist are deleted, each once. -/
lemma withPool_accounted {pool : ConnectedPool} (added : List Deletion)
    (deleted : pool.deleted = c.preconnectedPool.deleted ++ added)
    (once : added.count (.request request) ≤ 1)
    (exist : .request request ∈ added → c.Exists request) :
    (c.withPool pool).accounted request = c.accounted request := by
  have gone : perished c.preconnectedPool pool = added := by
    rw [perished, deleted, List.drop_left]
  have before : (c.withPool pool).deletions request =
      c.deletions request + added.count (.request request) := by
    simp only [deletions, withPool, deleted, List.count_append]
  have after : (c.withPool pool).live request =
      (c.live request && !added.contains (.request request)) := by
    rw [← gone]
    rfl
  rw [accounted, accounted, before, after]
  by_cases among : Deletion.request request ∈ added
  · have one := List.count_pos_iff.mpr among
    have there : c.live request = true := exist among
    rw [there, List.contains_iff_mem.mpr among]
    simp only [Bool.not_true, Bool.and_false, Bool.toNat_false, Bool.toNat_true]
    omega
  · have none := List.count_eq_zero.mpr among
    have kept : added.contains (.request request) = false := by simpa using among
    rw [kept, none, Bool.not_false, Bool.and_true, Nat.add_zero]

lemma count_requestDeletions (s : ConnectedPool) (owner request : Ptr) :
    (s.requestDeletions owner).count (.request request) = if owner = request then 1 else 0 := by
  unfold requestDeletions
  split_ifs <;> simp_all

lemma mem_requestDeletions {s : ConnectedPool} {owner : Ptr}
    (among : .request request ∈ s.requestDeletions owner) : owner = request := by
  by_contra other
  have none := count_requestDeletions s owner request
  rw [if_neg other] at none
  exact List.count_eq_zero.mp none among

/-- A pop deletes a handle at most. -/
lemma not_mem_oldDeletions (s : ConnectedPool) (popper : Ptr) :
    .request request ∉ s.oldDeletions popper := by
  unfold oldDeletions
  split <;> simp

/-- An action of the pool that finds the owners it deletes. -/
lemma pool_accounted {a : PoolAction}
    (owners : ∀ t kind i it, Erased c.preconnectedPool a t kind i it → c.Exists it.request) :
    (c.withPool (c.preconnectedPool.step a)).accounted request = c.accounted request := by
  obtain same | ⟨t, kind, i, it, popper, -, added⟩ | ⟨t, kind, i, it, erased, added⟩ :=
    c.preconnectedPool.step_deleted a
  · refine withPool_accounted [] (same.trans (List.append_nil _).symm) ?_ ?_
    · simp
    · simp
  · refine withPool_accounted _ added ?_ ?_
    · rw [List.count_eq_zero.mpr (not_mem_oldDeletions _ popper)]
      exact Nat.zero_le 1
    · exact fun among => absurd among (not_mem_oldDeletions _ popper)
  · refine withPool_accounted _ added ?_ ?_
    · rw [count_requestDeletions]
      split <;> omega
    · intro among
      rw [← mem_requestDeletions among]
      exact owners t kind i it erased

/-- The owner of a slot exists. -/
lemma Registry.owners (good : c.Registry) {a : PoolAction} (t : PoolType) (kind : Kind) (i : ℕ)
    (it : ConnectedNodeProcess) (erased : Erased c.preconnectedPool a t kind i it) :
    c.Exists it.request :=
  good.owned.live t kind i it erased.there erased.owned

lemma delete_accounted (request : Ptr) {other : Ptr} (exist : c.Exists other) :
    (c.withPool (c.preconnectedPool.deleteRequest other)).accounted request =
      c.accounted request := by
  refine withPool_accounted (c.preconnectedPool.requestDeletions other) rfl ?_ ?_
  · rw [count_requestDeletions]
    split <;> omega
  · intro among
    rw [← mem_requestDeletions among]
    exact exist

/-! ## Steps -/

lemma createRequest_accounted {new : NewRequest} (instance_ : Ptr) (byUser : Bool)
    (unused : ¬ c.Exists new.request) :
    (c.createRequest new instance_ byUser).accounted request =
      c.accounted request + creates request c (.createRequest new instance_ byUser) := by
  simp only [createRequest, creates]
  cases result : (c.register new instance_).2 with
  | error code => rfl
  | ok k =>
    have deletions : (c.enroll new instance_ byUser).deletions request = c.deletions request := rfl
    dsimp only
    rw [accounted, accounted, deletions]
    by_cases own : new.request = request
    · subst own
      have before : c.live new.request = false := by simpa [Exists] using unused
      have after : (c.enroll new instance_ byUser).live new.request = true :=
        Function.update_self ..
      rw [before, after, if_pos rfl]
      rfl
    · have other : (c.enroll new instance_ byUser).live request = c.live request :=
        Function.update_of_ne (Ne.symm own) ..
      rw [other, if_neg own, Nat.add_zero]

/-- The request that is released exists, and is not deleted again with its slot. -/
lemma releaseRequest_accounted {released : Ptr} (good : c.Registry)
    (alone : ∀ status, c.nodeManager.checkRequestExist c.memory released = .ok status →
      c.ReleasesAlone released) :
    (c.releaseRequest released).accounted request = c.accounted request := by
  obtain same | ⟨some_, ⟨status, check⟩, same⟩ := releaseRequest_cases c released
  · rw [same]
  rw [same]
  have leaves := (alone status check).leaves
  have forgot := good.forget released
  have unregistered := forget_unregistered (c := c) some_
  have exist : (c.forget released).Exists released := by
    obtain ⟨-, info, known⟩ := check_known check
    exact (good.known released info known).1
  -- what the last part deletes of a client whose slots have owners that exist
  have last (d : NlsClientImpl) (good : d.Registry) (abnormal : Bool) :
      (d.leavePool released (c.preconnectedPool.memory released) true abnormal).accounted request =
        d.accounted request := by
    unfold leavePool
    rw [if_pos rfl]
    split
    · exact pool_accounted (a := .deletePreNodeBySSL _ _) good.owners
    · exact pool_accounted (a := .finishPushPreNode _ _ _ _) good.owners
  have left : (c.forget released).accounted request = c.accounted request := rfl
  cases requestInPool : (c.sslBelongToPool released).2.2 with
  | true =>
    rw [sslBelongToPool_inPool requestInPool]
    exact (last _ forgot _).trans left
  | false =>
    have deleted := (delete_accounted request exist).trans left
    cases inPool : (c.sslBelongToPool released).1 with
    | true =>
      have owns : ¬ (c.forget released).preconnectedPool.Owns released := by
        rintro ⟨t, kind, i, it, there, own⟩
        have out := (leaves requestInPool t kind i it there own).1
        rw [inPool] at out
        cases out
      exact (last _ (forgot.delete unregistered owns) _).trans deleted
    | false =>
      refine Eq.trans ?_ deleted
      refine pool_accounted (a := .deletePreNodeByRequest _ _) ?_
      intro t kind i it erased
      obtain ⟨ends, -⟩ | ⟨ssl, type, deletes, -⟩ := erased.by_
      · cases ends
      · cases deletes

theorem step_accounted (a : ClientAction) (good : c.Registry) (tidy : c.Tidy a) :
    (c.step a).accounted request = c.accounted request + creates request c a := by
  cases a with
  | createRequest new instance_ byUser => exact createRequest_accounted instance_ byUser tidy.1
  | usePreconnection other value => rfl
  | updateNodeStatus node status => rfl
  | releaseRequest released instance_ =>
    have given : Registry { c with held := Function.update c.held released false } :=
      ⟨good.inverse, good.known, good.distinct, good.owned⟩
    simp only [step, releaseRequestImpl]
    unfold releaseOwnRequest
    split
    · rfl
    · exact releaseRequest_accounted given fun status check =>
        ⟨(tidy status check).leaves, (tidy status check).bySSL⟩
  | pool a => exact pool_accounted good.owners

/-- In every run whose steps are tidy, what was created at an address was deleted or is there: no
request is deleted twice, or without having been created. -/
theorem deletions_conserved (maxNumber : ℕ) (timeoutMs requestedTimeoutMs : UInt32)
    (as : List ClientAction)
    (tidy : Along step Tidy (new maxNumber timeoutMs requestedTimeoutMs) as) (request : Ptr) :
    (run step (new maxNumber timeoutMs requestedTimeoutMs) as).deletions request +
        ((run step (new maxNumber timeoutMs requestedTimeoutMs) as).live request).toNat =
      total step (creates request) (new maxNumber timeoutMs requestedTimeoutMs) as := by
  have paid : accounted request (run step (new maxNumber timeoutMs requestedTimeoutMs) as) =
      accounted request (new maxNumber timeoutMs requestedTimeoutMs) +
        total step (creates request) (new maxNumber timeoutMs requestedTimeoutMs) as :=
    total_along (fun c a good tidy => ⟨registry_step a good tidy, step_accounted a good tidy⟩)
      (registry_new maxNumber timeoutMs requestedTimeoutMs) tidy
  have none : accounted request (new maxNumber timeoutMs requestedTimeoutMs) = 0 := rfl
  rw [none, Nat.zero_add] at paid
  exact paid

/-- A request that is created and released. -/
def createdReleased : List ClientAction := [.createRequest asr 5 true, .releaseRequest 1 5]

theorem deletions_conserved_released :
    (run step (new 1 30000 30000) createdReleased).deletions 1 +
        ((run step (new 1 30000 30000) createdReleased).live 1).toNat =
      total step (creates 1) (new 1 30000 30000) createdReleased := by
  refine deletions_conserved 1 30000 30000 createdReleased ⟨⟨?_, ?_⟩, ?_, trivial⟩ 1
  · simp [Exists, new]
  · simp [Exists, new]
  · refine fun status check => ⟨fun _ t kind i it there => ?_, fun inPool => ?_⟩
    · cases there
    · cases inPool

end NlsClientImpl

end NlsSdk.Transport
