import Mathlib.Tactic
import Mathlib.Logic.Relation
import Mathlib.Algebra.BigOperators.Group.Finset.Basic

/-!
# Functions that lock by hand

A function is judged by the calls it makes on a mutex that is not recursive. It
is balanced when it gets through them from a free mutex and leaves it free.
Threads that run balanced functions can always finish; behind a function that
keeps the mutex every other one is blocked for good.
-/
namespace NlsSdk.Library

inductive MutexCall
  | lock | unlock
  deriving DecidableEq, Repr

namespace MutexCall

/-- Whether the caller holds the mutex behind a call, `none` when it waits for itself or gives back
what it does not hold. -/
def pass : Bool → MutexCall → Option Bool
  | false, .lock => some true
  | true, .unlock => some false
  | true, .lock | false, .unlock => none

def passes : Bool → List MutexCall → Option Bool
  | held, [] => some held
  | held, call :: calls => (call.pass held).bind (passes · calls)

@[simp] theorem passes_nil (held : Bool) : passes held [] = some held := rfl

theorem passes_cons (held : Bool) (call : MutexCall) (calls : List MutexCall) :
    passes held (call :: calls) = (call.pass held).bind (passes · calls) := rfl

theorem passes_append (held : Bool) (calls later : List MutexCall) :
    passes held (calls ++ later) = (passes held calls).bind (passes · later) := by
  induction calls generalizing held with
  | nil => rfl
  | cons call calls ih =>
    rw [List.cons_append, passes_cons, passes_cons, Option.bind_assoc]
    congr 1
    funext held'
    exact ih held'

/-- From a free mutex to a free mutex. -/
def Balanced (calls : List MutexCall) : Prop := passes false calls = some false

instance (calls : List MutexCall) : Decidable (Balanced calls) :=
  inferInstanceAs (Decidable (_ = _))

theorem balanced_nil : Balanced [] := rfl

/-- One critical section. -/
theorem balanced_section : Balanced [.lock, .unlock] := rfl

theorem Balanced.append {calls later : List MutexCall} (balanced : Balanced calls)
    (balanced' : Balanced later) : Balanced (calls ++ later) := by
  unfold Balanced at balanced balanced' ⊢
  rw [passes_append, balanced]
  exact balanced'

theorem Balanced.flatten {functions : List (List MutexCall)}
    (balanced : ∀ calls ∈ functions, Balanced calls) : Balanced functions.flatten := by
  induction functions with
  | nil => exact balanced_nil
  | cons calls functions ih =>
    rw [List.flatten_cons]
    exact (balanced calls (List.mem_cons_self ..)).append
      (ih fun calls is => balanced calls (List.mem_cons_of_mem _ is))

/-- What is held behind the calls is the difference of the two counts. -/
theorem count_of_passes {held after : Bool} {calls : List MutexCall}
    (through : passes held calls = some after) :
    held.toNat + calls.count .lock = after.toNat + calls.count .unlock := by
  induction calls generalizing held with
  | nil =>
    rw [passes_nil, Option.some.injEq] at through
    rw [through]
    rfl
  | cons call calls ih =>
    rw [passes_cons] at through
    cases call with
    | lock =>
      cases held with
      | false =>
        have rest := ih through
        simp only [List.count_cons, beq_self_eq_true, if_true]
        simp at rest ⊢
        omega
      | true => cases through
    | unlock =>
      cases held with
      | false => cases through
      | true =>
        have rest := ih through
        simp only [List.count_cons, beq_self_eq_true, if_true]
        simp at rest ⊢
        omega

/-- The mutex is released as many times as it is acquired. -/
theorem Balanced.count_eq {calls : List MutexCall} (balanced : Balanced calls) :
    calls.count .lock = calls.count .unlock := by
  simpa using count_of_passes balanced

end MutexCall

/-! ## Threads -/

/-- The thread that holds the mutex, and the calls each thread has yet to make. -/
structure Threads (θ : Type*) where
  owner : Option θ := none
  todo : θ → List MutexCall

namespace Threads

variable {θ : Type*} [DecidableEq θ] {s s' : Threads θ} {i j : θ} {rest : List MutexCall}

/-- A thread makes its next call; a lock that is held is waited for. -/
inductive Step : Threads θ → Threads θ → Prop
  | lock (s : Threads θ) (i : θ) (rest : List MutexCall) (free : s.owner = none)
      (next : s.todo i = .lock :: rest) : Step s ⟨some i, Function.update s.todo i rest⟩
  | unlock (s : Threads θ) (i : θ) (rest : List MutexCall) (owns : s.owner = some i)
      (next : s.todo i = .unlock :: rest) : Step s ⟨none, Function.update s.todo i rest⟩

/-- Every thread gets through with what it has left to do. -/
def Sound (s : Threads θ) : Prop :=
  ∀ i, MutexCall.passes (decide (s.owner = some i)) (s.todo i) = some false

theorem sound_of_balanced {todo : θ → List MutexCall}
    (balanced : ∀ i, MutexCall.Balanced (todo i)) : Sound { todo := todo } :=
  fun i => balanced i

theorem Sound.step (sound : s.Sound) (step : Step s s') : s'.Sound := by
  intro j
  have own := sound j
  cases step with
  | lock i rest free next =>
    by_cases same : i = j
    · subst same
      rw [next, free] at own
      simpa [MutexCall.passes_cons, MutexCall.pass] using own
    · rw [free] at own
      simpa [same, Ne.symm same] using own
  | unlock i rest owns next =>
    by_cases same : i = j
    · subst same
      rw [next, owns] at own
      simpa [MutexCall.passes_cons, MutexCall.pass] using own
    · rw [owns] at own
      simpa [same, Ne.symm same] using own

/-- As long as something is left to do, some thread can go on. -/
theorem Sound.progress (sound : s.Sound) (left : s.todo i ≠ []) : ∃ s', Step s s' := by
  cases held : s.owner with
  | none =>
    have own := sound i
    rw [held] at own
    cases next : s.todo i with
    | nil => exact absurd next left
    | cons call rest =>
      cases call with
      | lock => exact ⟨_, .lock _ _ _ held next⟩
      | unlock =>
        rw [next] at own
        cases own
  | some j =>
    have own := sound j
    rw [held, decide_eq_true rfl] at own
    cases next : s.todo j with
    | nil =>
      rw [next] at own
      cases own
    | cons call rest =>
      cases call with
      | lock =>
        rw [next] at own
        cases own
      | unlock => exact ⟨_, .unlock _ _ _ held next⟩

/-- The number of calls that are left. -/
def left [Fintype θ] (s : Threads θ) : ℕ := ∑ i, (s.todo i).length

lemma sum_update_lt [Fintype θ] {todo : θ → List MutexCall} {call : MutexCall}
    (next : todo i = call :: rest) :
    ∑ j, (Function.update todo i rest j).length < ∑ j, (todo j).length := by
  apply Finset.sum_lt_sum
  · intro j _
    by_cases same : j = i
    · subst same
      simp [next]
    · simp [same]
  · exact ⟨i, Finset.mem_univ i, by simp [next]⟩

theorem Step.left_lt [Fintype θ] (step : Step s s') : s'.left < s.left := by
  cases step with
  | lock i rest free next => exact sum_update_lt next
  | unlock i rest owns next => exact sum_update_lt next

/-- Wherever the threads are, all of them can finish. -/
theorem Sound.finishes [Fintype θ] (sound : s.Sound) :
    ∃ s', Relation.ReflTransGen Step s s' ∧ ∀ i, s'.todo i = [] := by
  induction calls : s.left using Nat.strong_induction_on generalizing s with
  | _ calls_ ih =>
    by_cases done : ∀ i, s.todo i = []
    · exact ⟨s, .refl, done⟩
    · push Not at done
      obtain ⟨i, left⟩ := done
      obtain ⟨next, step⟩ := sound.progress left
      obtain ⟨last, reached, finished⟩ := ih _ (calls ▸ step.left_lt) (sound.step step) rfl
      exact ⟨last, .head step reached, finished⟩

theorem Sound.reached (sound : s.Sound) (reached : Relation.ReflTransGen Step s s') : s'.Sound := by
  induction reached with
  | refl => exact sound
  | tail _ step ih => exact ih.step step

/-- A thread that is done with the mutex in its hands keeps every other one waiting. -/
theorem blocked_forever (owns : s.owner = some i) (done : s.todo i = [])
    (waits : s.todo j = .lock :: rest) (reached : Relation.ReflTransGen Step s s') :
    s'.owner = some i ∧ s'.todo i = [] ∧ s'.todo j = .lock :: rest := by
  induction reached with
  | refl => exact ⟨owns, done, waits⟩
  | tail _ step ih =>
    obtain ⟨owns, done, waits⟩ := ih
    cases step with
    | lock i' rest' free next =>
      rw [owns] at free
      cases free
    | unlock i' rest' owns' next =>
      obtain rfl := Option.some.inj (owns.symm.trans owns')
      rw [done] at next
      cases next

end Threads

end NlsSdk.Library
