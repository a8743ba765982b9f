import NlsSdk.Transport.ConnectedPool

/-!
# Lent connections and the timer of the pool

What a tick leaves of a slot whose connection a request has popped.
-/
namespace NlsSdk.Transport

open Library

namespace ConnectedPool

/-- The connection of the slot is in the hands of a request that popped it. -/
structure Lent (s : ConnectedPool) (kind : Kind) (it : ConnectedNodeProcess) : Prop where
  used : it.status = kind.status
  popped : it.curRequest ≠ 0
  live : .request it.curRequest ∉ s.deleted
  holds : (s.memory it.curRequest).sslHandle = it.sslHandle

/-- Nothing of the slot has changed but the time of its last use. -/
def Untouched (before after : ConnectedNodeProcess) : Prop :=
  after = { before with workableTimestamp := after.workableTimestamp }

lemma Untouched.status {before after : ConnectedNodeProcess} (same : Untouched before after) :
    after.status = before.status := by
  unfold Untouched at same
  rw [same]

/-- One of the deadlines of the slot has passed. -/
def Overdue (s : ConnectedPool) (kind : Kind) (check : Check) (it : ConnectedNodeProcess) : Prop :=
  s.idleTimeout kind check.now (s.refresh it) = true ∨ tokenTimeout check.now it = true

/-- The node of the slot's first request answers the ping. -/
def Answers (check : Check) (it : ConnectedNodeProcess) : Prop :=
  it.request = 0 ∨ check.pingOk = true

lemma refresh_untouched (s : ConnectedPool) (it : ConnectedNodeProcess) :
    Untouched it (s.refresh it) := by
  unfold Untouched refresh
  split
  · rfl
  · rfl

lemma refresh_eq (s : ConnectedPool) (it : ConnectedNodeProcess) :
    ∃ time, s.refresh it = { it with workableTimestamp := time } :=
  ⟨_, s.refresh_untouched it⟩

/-- A slot that is emptied is not in use any more. -/
lemma not_untouched_of_freed {before after : ConnectedNodeProcess} {kind : Kind}
    (used : before.status = kind.status) (freed : after.status = .preNodeToBeCreated) :
    ¬ Untouched before after := by
  intro same
  have status := same.status
  rw [freed, used] at status
  cases kind <;> exact absurd status (by decide)

lemma unreachable_status (kind : Kind) (it : ConnectedNodeProcess) :
    (unreachable kind it).status = .preNodeToBeCreated := by
  cases kind <;> rfl

lemma expired_status (kind : Kind) (byToken : Bool) (it : ConnectedNodeProcess) :
    (expired kind byToken it).status = .preNodeToBeCreated := by
  cases kind <;> rfl

/-- The deadlines spare a slot that is lent, the ping does not. -/
lemma timeoutSlot_lent {s : ConnectedPool} {kind : Kind} {check : Check}
    {it : ConnectedNodeProcess} (lent : s.Lent kind it) :
    Untouched it (s.timeoutSlot kind check it) ↔ s.Overdue kind check it ∨ Answers check it := by
  obtain ⟨time, fresh⟩ := s.refresh_eq it
  have same := s.refresh_untouched it
  have overdue_iff : s.Overdue kind check it ↔
      (s.idleTimeout kind check.now (s.refresh it) = true ∨
        tokenTimeout check.now (s.refresh it) = true) := by
    rw [Overdue, fresh]
    rfl
  rw [timeoutSlot, if_pos lent.used]
  by_cases late : s.Overdue kind check it
  · have popped : (s.refresh it).curRequest ≠ 0 := by
      rw [fresh]
      exact lent.popped
    simp only [if_pos (overdue_iff.mp late), if_neg popped, late, true_or, iff_true]
    exact same
  · simp only [if_neg (fun h => late (overdue_iff.mpr h)), late, false_or]
    have answers_iff : Answers check it ↔ ((s.refresh it).request = 0 ∨ check.pingOk = true) := by
      rw [Answers, fresh]
    by_cases answers : Answers check it
    · simp only [if_pos (answers_iff.mp answers), answers, iff_true]
      exact same
    · simp only [if_neg (fun h => answers (answers_iff.mpr h)), answers, iff_false]
      exact not_untouched_of_freed lent.used (unreachable_status kind _)

/-- The slots of a vector after a tick. -/
lemma connectPoolEventCallback_nodes (s : ConnectedPool) (checks : PoolType → Kind → ℕ → Check)
    (t : PoolType) (kind : Kind) :
    ((s.connectPoolEventCallback checks).nodes t kind).requests =
      if s.releasing.isNone ∧ s.work t then
        (s.nodes t kind).requests.mapIdx fun i it => s.timeoutSlot kind (checks t kind i) it
      else (s.nodes t kind).requests := by
  unfold connectPoolEventCallback
  cases s.releasing with
  | some at_ => simp
  | none =>
    by_cases work : s.work t
    · cases kind
      · simp [work, timeoutPrestartedNode, timeoutNode]
      · simp [work, timeoutPreconnectedNode, timeoutNode]
    · simp [work]

/-- A tick leaves every connection that is lent alone. -/
def Spares (s : ConnectedPool) (checks : PoolType → Kind → ℕ → Check) : Prop :=
  ∀ (t : PoolType) (kind : Kind) (i : ℕ) (it : ConnectedNodeProcess),
    (s.nodes t kind).requests[i]? = some it → s.Lent kind it →
    ∃ after, ((s.connectPoolEventCallback checks).nodes t kind).requests[i]? = some after ∧
      Untouched it after

/-- Every connection that is lent and that the tick looks at is overdue or answers the ping. -/
def LentAnswer (s : ConnectedPool) (checks : PoolType → Kind → ℕ → Check) : Prop :=
  ∀ (t : PoolType) (kind : Kind) (i : ℕ) (it : ConnectedNodeProcess),
    (s.nodes t kind).requests[i]? = some it → s.Lent kind it →
    s.releasing = none → s.work t →
      s.Overdue kind (checks t kind i) it ∨ Answers (checks t kind i) it

lemma spares_iff (s : ConnectedPool) (checks : PoolType → Kind → ℕ → Check) :
    s.Spares checks ↔ s.LentAnswer checks := by
  refine forall_congr' fun t => forall_congr' fun kind => forall_congr' fun i =>
    forall_congr' fun it => forall_congr' fun there => forall_congr' fun lent => ?_
  rw [connectPoolEventCallback_nodes]
  by_cases looks : s.releasing.isNone ∧ s.work t
  · rw [if_pos looks, List.getElem?_mapIdx, there]
    simp only [Option.map_some, Option.some.injEq, exists_eq_left', timeoutSlot_lent lent]
    simp only [Option.isNone_iff_eq_none] at looks
    simp [looks.1, looks.2]
  · rw [if_neg looks, there]
    constructor
    · intro _ idle work
      exact absurd ⟨Option.isNone_iff_eq_none.mpr idle, work⟩ looks
    · intro _
      exact ⟨it, rfl, rfl⟩

/-- Every tick of a run leaves the connections alone that are lent at that moment, exactly when at
every tick each of them is overdue or answers the ping. -/
theorem lent_connections_survive (maxNumber : ℕ) (timeoutMs requestedTimeoutMs : UInt32)
    (calls : List PoolAction) :
    (∀ bs checks, bs ++ [PoolAction.connectPoolEventCallback checks] <+: calls →
        (run step (new maxNumber timeoutMs requestedTimeoutMs) bs).Spares checks) ↔
      Along step (fun s call => ∀ checks, call = .connectPoolEventCallback checks →
        s.LentAnswer checks) (new maxNumber timeoutMs requestedTimeoutMs) calls := by
  rw [along_iff_forall]
  constructor
  · rintro spared bs _ part checks rfl
    exact (spares_iff _ checks).mp (spared bs checks part)
  · intro answered bs checks part
    exact (spares_iff _ checks).mpr (answered bs _ part checks rfl)

/-- Two requests of one service with a connection each. -/
def twoRequests : Ptr → RequestObject
  | 1 => { socketFd := 3, sslHandle := 11, nativeSslHandle := 11, lastOpTimestampMs := 1000 }
  | 2 => { socketFd := 4, sslHandle := 12, nativeSslHandle := 12, lastOpTimestampMs := 1000 }
  | _ => {}

/-- The first request stores its connection, the second one takes it. -/
def lending : List PoolAction :=
  [.outside twoRequests, .pushPrestartedNode 1 .typeAsr true 1000,
    .finishPushPreNode .typeAsr 3 11 0, .popPrestartedNode 2 .typeAsr]

/-- A ping that fails empties the slot while the second request uses its connection. -/
theorem failed_ping_empties_lent :
    ¬ (∀ maxNumber timeoutMs requestedTimeoutMs calls checks,
      (run step (new maxNumber timeoutMs requestedTimeoutMs) calls).Spares checks) := by
  intro claim
  have spared := claim 1 15000 7000 lending fun _ _ _ => ⟨1001, false⟩
  obtain ⟨after, there, same⟩ := spared .sr .prestarted 0
    { type := .typeAsr, status := .preNodeStarted, startTimestamp := 1000,
      workableTimestamp := 1000, socketFd := 3, sslHandle := 11, request := 1, curRequest := 2 }
    (by decide) ⟨by decide, by decide, by decide, by decide⟩
  have emptied : ((run step (new 1 15000 7000) lending).connectPoolEventCallback
      (fun _ _ _ => ⟨1001, false⟩)).nodes .sr .prestarted = { requests := [
        { type := .typeAsr, status := .preNodeToBeCreated, request := 1, curRequest := 2,
          shouldRelease := true }] } := by decide
  rw [emptied] at there
  obtain rfl := (Option.some.inj there).symm
  exact absurd same.status (by decide)

end ConnectedPool

end NlsSdk.Transport
