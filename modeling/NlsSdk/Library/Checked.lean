import Mathlib.Tactic

/-!
# Programs with a state and an error

`Checked I E m` says that `m` keeps the invariant `I` of the state, whether it
ends well or not, and that it fails with an error that satisfies `E` only. The
rules below follow the way such a program is put together.
-/
namespace NlsSdk.Library

variable {σ ε α β : Type}

/-- The run of a program that can fail, with the state it leaves behind. -/
abbrev Fallible (σ ε α : Type) := ExceptT ε (StateM σ) α

/-- The result and the last state of a run. -/
def Fallible.runFrom (m : Fallible σ ε α) (s : σ) : Except ε α × σ := m.run.run s

/-- A run from a state in `I` ends in `I`, and its error satisfies `E`. -/
def Checked (I : σ → Prop) (E : ε → Prop) (m : Fallible σ ε α) : Prop :=
  ∀ s, I s → I (m.runFrom s).2 ∧ ∀ e, (m.runFrom s).1 = .error e → E e

variable {I : σ → Prop} {E : ε → Prop}

theorem checked_pure (a : α) : Checked I E (pure a : Fallible σ ε α) := by
  intro s inv
  refine ⟨inv, fun e failed => ?_⟩
  cases failed

theorem checked_throw {e : ε} (allowed : E e) : Checked I E (throw e : Fallible σ ε α) := by
  intro s inv
  refine ⟨inv, fun e' failed => ?_⟩
  cases failed
  exact allowed

theorem runFrom_bind (m : Fallible σ ε α) (f : α → Fallible σ ε β) (s : σ) :
    (m >>= f).runFrom s =
      match m.runFrom s with
      | (.ok a, s') => (f a).runFrom s'
      | (.error e, s') => (.error e, s') := by
  change (ExceptT.bindCont f (m.run.run s).1).run (m.run.run s).2 = _
  unfold Fallible.runFrom
  rcases m.run.run s with ⟨_ | a, s'⟩ <;> rfl

theorem checked_bind {m : Fallible σ ε α} {f : α → Fallible σ ε β} (first : Checked I E m)
    (rest : ∀ a, Checked I E (f a)) : Checked I E (m >>= f) := by
  intro s inv
  obtain ⟨kept, fails⟩ := first s inv
  rw [runFrom_bind]
  cases h : m.runFrom s with
  | mk result s' =>
    rw [h] at kept fails
    cases result with
    | ok a => exact rest a s' kept
    | error e =>
      refine ⟨kept, fun e' failed => ?_⟩
      cases failed
      exact fails e rfl

theorem runFrom_tryCatch (m : Fallible σ ε α) (handler : ε → Fallible σ ε α) (s : σ) :
    (tryCatch m handler).runFrom s =
      match m.runFrom s with
      | (.ok a, s') => (.ok a, s')
      | (.error e, s') => (handler e).runFrom s' := by
  unfold Fallible.runFrom
  change (do match (← m.run) with
    | .ok a => pure (.ok a)
    | .error e => (handler e).run : StateM σ (Except ε α)).run s = _
  change StateT.run (_ >>= _) s = _
  rw [StateT.run_bind]
  rcases StateT.run m.run s with ⟨_ | a, s'⟩ <;> rfl

theorem checked_tryCatch {m : Fallible σ ε α} {handler : ε → Fallible σ ε α}
    (first : Checked I E m) (rest : ∀ e, Checked I E (handler e)) :
    Checked I E (tryCatch m handler) := by
  intro s inv
  obtain ⟨kept, -⟩ := first s inv
  rw [runFrom_tryCatch]
  cases h : m.runFrom s with
  | mk result s' =>
    rw [h] at kept
    cases result with
    | ok a =>
      refine ⟨kept, fun e failed => ?_⟩
      cases failed
    | error e => exact rest e s' kept

theorem checked_modify {g : σ → σ} (keeps : ∀ s, I s → I (g s)) :
    Checked I E (modify g : Fallible σ ε Unit) := by
  intro s inv
  refine ⟨keeps s inv, fun e failed => ?_⟩
  cases failed

theorem checked_get : Checked I E (get : Fallible σ ε σ) := by
  intro s inv
  refine ⟨inv, fun e failed => ?_⟩
  cases failed

/-- What the state says may be used by what follows the read. -/
theorem checked_get_bind {f : σ → Fallible σ ε β}
    (rest : ∀ s, I s → Checked I E (f s)) : Checked I E (get >>= f) := by
  intro s inv
  exact rest s inv s inv

theorem checked_ite {c : Prop} [Decidable c] {m m' : Fallible σ ε α} (yes : Checked I E m)
    (no : Checked I E m') : Checked I E (if c then m else m') := by
  split
  · exact yes
  · exact no

/-! ## Before and after -/

/-- From a state in `P` a run ends well in `Q`, which may speak of its result, or it fails in `R`. -/
def Ensures (P : σ → Prop) (Q : α → σ → Prop) (R : σ → Prop) (m : Fallible σ ε α) : Prop :=
  ∀ s, P s → (∀ a, (m.runFrom s).1 = .ok a → Q a (m.runFrom s).2) ∧
    ∀ e, (m.runFrom s).1 = .error e → R (m.runFrom s).2

variable {P P' R : σ → Prop} {Q Q' : α → σ → Prop}

theorem ensures_pure {a : α} (here : ∀ s, P s → Q a s) :
    Ensures P Q R (pure a : Fallible σ ε α) := by
  intro s pre
  refine ⟨fun a' done => ?_, fun e failed => ?_⟩
  · cases done
    exact here s pre
  · cases failed

theorem ensures_throw {e : ε} (here : ∀ s, P s → R s) :
    Ensures P Q R (throw e : Fallible σ ε α) := by
  intro s pre
  refine ⟨fun a done => ?_, fun e' failed => ?_⟩
  · cases done
  · exact here s pre

theorem ensures_modify {g : σ → σ} {Q : Unit → σ → Prop} (here : ∀ s, P s → Q () (g s)) :
    Ensures P Q R (modify g : Fallible σ ε Unit) := by
  intro s pre
  refine ⟨fun a done => ?_, fun e failed => ?_⟩
  · exact here s pre
  · cases failed

theorem ensures_bind {m : Fallible σ ε α} {f : α → Fallible σ ε β} {Q' : β → σ → Prop}
    (first : Ensures P Q R m) (rest : ∀ a, Ensures (Q a) Q' R (f a)) :
    Ensures P Q' R (m >>= f) := by
  intro s pre
  obtain ⟨done, failed⟩ := first s pre
  rw [runFrom_bind]
  cases h : m.runFrom s with
  | mk result s' =>
    rw [h] at done failed
    cases result with
    | ok a => exact rest a s' (done a rfl)
    | error e =>
      refine ⟨fun b other => ?_, fun e' _ => failed e rfl⟩
      cases other

/-- A failure is handled where it happens. -/
theorem ensures_tryCatch {m : Fallible σ ε α} {handler : ε → Fallible σ ε α} {F : σ → Prop}
    (first : Ensures P Q F m) (rest : ∀ e, Ensures F Q R (handler e)) :
    Ensures P Q R (tryCatch m handler) := by
  intro s pre
  obtain ⟨done, failed⟩ := first s pre
  rw [runFrom_tryCatch]
  cases h : m.runFrom s with
  | mk result s' =>
    rw [h] at done failed
    cases result with
    | ok a =>
      refine ⟨fun a' same => ?_, fun e other => ?_⟩
      · cases same
        exact done a rfl
      · cases other
    | error e => exact rest e s' (failed e rfl)

theorem ensures_get_bind {f : σ → Fallible σ ε β} {Q : β → σ → Prop}
    (rest : ∀ s, P s → Ensures (· = s) Q R (f s)) : Ensures P Q R (get >>= f) := by
  intro s pre
  exact rest s pre s rfl

theorem ensures_ite {c : Prop} [Decidable c] {m m' : Fallible σ ε α} (yes : c → Ensures P Q R m)
    (no : ¬c → Ensures P Q R m') : Ensures P Q R (if c then m else m') := by
  split
  · next holds => exact yes holds
  · next fails => exact no fails

/-- A fact that does not speak of the state. -/
theorem ensures_of_fact {fact : Prop} {m : Fallible σ ε α} (given : fact → Ensures P Q R m) :
    Ensures (fun s => fact ∧ P s) Q R m := by
  rintro s ⟨holds, pre⟩
  exact given holds s pre

/-- A stronger condition before, weaker ones behind. -/
theorem Ensures.weaken {R' : σ → Prop} {m : Fallible σ ε α} (ensures : Ensures P Q R m)
    (before : ∀ s, P' s → P s) (after : ∀ a s, Q a s → Q' a s) (failure : ∀ s, R s → R' s) :
    Ensures P' Q' R' m := by
  intro s pre
  obtain ⟨done, failed⟩ := ensures s (before s pre)
  exact ⟨fun a h => after a _ (done a h), fun e h => failure _ (failed e h)⟩

/-- What is kept holds behind the run in any case. -/
theorem Checked.ensures {m : Fallible σ ε α} (checked : Checked I E m) :
    Ensures I (fun _ => I) I m := by
  intro s inv
  exact ⟨fun _ _ => (checked s inv).1, fun _ _ => (checked s inv).1⟩

end NlsSdk.Library
