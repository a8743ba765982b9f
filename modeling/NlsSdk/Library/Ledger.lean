import Mathlib.Tactic
import Mathlib.Logic.Function.Basic

/-!
# Accounts of handles that are opened and closed

Handles are numbered as they are opened, and places hold them. A handle is
accounted for while some place holds it, or when it has been closed exactly
once. Each rule tells when a change of the places or a closing keeps all
accounts.
-/
namespace NlsSdk.Library

/-- What was opened and closed, and which place holds which handle. -/
structure Ledger (ν : Type*) where
  /-- The number of the next handle. -/
  opened : ℕ := 0
  closes : ℕ → ℕ := fun _ => 0
  held : ν → Option ℕ := fun _ => none

namespace Ledger

variable {ν : Type*}

/-- Close a handle; there may be none. -/
def close (l : Ledger ν) : Option ℕ → Ledger ν
  | some h => { l with closes := Function.update l.closes h (l.closes h + 1) }
  | none => l

/-- Open a handle, which no place holds yet. -/
def grow (l : Ledger ν) : Ledger ν := { l with opened := l.opened + 1 }

def AccountedAt (l : Ledger ν) (h : ℕ) : Prop :=
  l.closes h = 1 ∨ l.closes h = 0 ∧ ∃ v, l.held v = some h

/-- Every handle is held, or has been closed once. -/
def Accounted (l : Ledger ν) : Prop := ∀ h < l.opened, l.AccountedAt h

/-- Only handles that were opened are held or closed. -/
structure Sound (l : Ledger ν) : Prop where
  held : ∀ v h, l.held v = some h → h < l.opened
  closes : ∀ h, l.opened ≤ h → l.closes h = 0

/-- What `v` holds can go without being closed. -/
def Spare (l : Ledger ν) (v : ν) : Prop :=
  ∀ h, l.held v = some h → l.closes h = 1 ∨ ∃ w, w ≠ v ∧ l.held w = some h

/-- What `v` holds has not been closed. -/
def Unclosed (l : Ledger ν) (v : ν) : Prop := ∀ h, l.held v = some h → l.closes h = 0

@[simp] lemma close_opened (l : Ledger ν) (h : Option ℕ) : (l.close h).opened = l.opened := by
  cases h <;> rfl

@[simp] lemma close_held (l : Ledger ν) (h : Option ℕ) : (l.close h).held = l.held := by
  cases h <;> rfl

lemma close_closes_self (l : Ledger ν) (h : ℕ) : (l.close (some h)).closes h = l.closes h + 1 :=
  Function.update_self ..

lemma close_closes_of_ne (l : Ledger ν) {h : Option ℕ} {k : ℕ} (other : h ≠ some k) :
    (l.close h).closes k = l.closes k := by
  cases h with
  | none => rfl
  | some h =>
    have apart : k ≠ h := fun same => other (congrArg some same.symm)
    exact Function.update_of_ne apart ..

/-! ## Only opened handles -/

lemma Sound.close {l : Ledger ν} (sound : l.Sound) {h : Option ℕ}
    (opened : ∀ k, h = some k → k < l.opened) : (l.close h).Sound := by
  refine ⟨fun w k holds => ?_, fun k beyond => ?_⟩
  · rw [close_held] at holds
    rw [close_opened]
    exact sound.held w k holds
  · rw [close_opened] at beyond
    rw [close_closes_of_ne l fun same => absurd (opened k same) (Nat.not_lt.mpr beyond)]
    exact sound.closes k beyond

lemma Sound.grow {l : Ledger ν} (sound : l.Sound) : l.grow.Sound := by
  refine ⟨fun w k holds => (sound.held w k holds).trans (Nat.lt_succ_self _), fun k beyond => ?_⟩
  exact sound.closes k ((Nat.le_succ _).trans beyond)

lemma Sound.close_held {l : Ledger ν} (sound : l.Sound) (v : ν) : (l.close (l.held v)).Sound :=
  sound.close (sound.held v)

/-- A handle that is opened and dropped is lost. -/
theorem not_accounted_grow {l : Ledger ν} (sound : l.Sound) : ¬l.grow.Accounted := by
  intro after
  rcases after l.opened (Nat.lt_succ_self _) with once | ⟨-, v, holds⟩
  · have never : l.grow.closes l.opened = 0 := sound.closes _ le_rfl
    rw [never] at once
    cases once
  · exact absurd (sound.held v _ holds) (Nat.lt_irrefl _)

/-- A handle that is opened and closed at once is accounted for. -/
theorem accounted_spend {l : Ledger ν} (sound : l.Sound) (accounted : l.Accounted) :
    (l.grow.close (some l.opened)).Accounted := by
  intro k bound
  rw [close_opened] at bound
  rcases Nat.lt_succ_iff_lt_or_eq.mp bound with before | rfl
  · have other : some l.opened ≠ some k := by
      intro same
      exact absurd (Option.some.inj same) (Nat.ne_of_gt before)
    have same := close_closes_of_ne l.grow other
    rcases accounted k before with once | ⟨never, held⟩
    · exact Or.inl (same.trans once)
    · exact Or.inr ⟨same.trans never, held⟩
  · have never : l.grow.closes l.opened = 0 := sound.closes _ le_rfl
    left
    rw [close_closes_self, never]

/-! ## Places that change hands -/

variable [DecidableEq ν]

def put (l : Ledger ν) (v : ν) (h : Option ℕ) : Ledger ν :=
  { l with held := Function.update l.held v h }

@[simp] lemma put_opened (l : Ledger ν) (v : ν) (h : Option ℕ) : (l.put v h).opened = l.opened :=
  rfl

@[simp] lemma put_closes (l : Ledger ν) (v : ν) (h : Option ℕ) : (l.put v h).closes = l.closes :=
  rfl

@[simp] lemma put_held_self (l : Ledger ν) (v : ν) (h : Option ℕ) : (l.put v h).held v = h :=
  Function.update_self ..

lemma put_held_of_ne (l : Ledger ν) {v w : ν} (other : w ≠ v) (h : Option ℕ) :
    (l.put v h).held w = l.held w :=
  Function.update_of_ne other ..

@[simp] lemma put_put (l : Ledger ν) (v : ν) (h k : Option ℕ) :
    (l.put v h).put v k = l.put v k := by
  simp only [put, Function.update_idem]

lemma Sound.put {l : Ledger ν} (sound : l.Sound) {v : ν} {h : Option ℕ}
    (opened : ∀ k, h = some k → k < l.opened) : (l.put v h).Sound := by
  refine ⟨fun w k holds => ?_, sound.closes⟩
  by_cases same : w = v
  · subst same
    rw [put_held_self] at holds
    exact opened k holds
  · rw [put_held_of_ne l same] at holds
    exact sound.held w k holds

lemma Sound.put_none {l : Ledger ν} (sound : l.Sound) (v : ν) : (l.put v none).Sound :=
  sound.put fun _ none_ => by cases none_

/-- A change of `v` matters to the handle it held and to the one it gets. -/
lemma accountedAt_put {l : Ledger ν} {v : ν} {h : Option ℕ} {k : ℕ} (old : l.held v ≠ some k)
    (new : h ≠ some k) : (l.put v h).AccountedAt k ↔ l.AccountedAt k := by
  have same (w : ν) : (l.put v h).held w = some k ↔ l.held w = some k := by
    by_cases here : w = v
    · subst here
      rw [put_held_self]
      exact iff_of_false new old
    · rw [put_held_of_ne l here]
  simp only [AccountedAt, put_closes, same]

/-- The handle that `v` held is accounted for without it when it is spare. -/
lemma accountedAt_put_old {l : Ledger ν} {v : ν} {h : Option ℕ} {k : ℕ} (old : l.held v = some k)
    (new : h ≠ some k) (accounted : l.AccountedAt k) :
    (l.put v h).AccountedAt k ↔ l.closes k = 1 ∨ ∃ w, w ≠ v ∧ l.held w = some k := by
  have others : (∃ w, (l.put v h).held w = some k) ↔ ∃ w, w ≠ v ∧ l.held w = some k := by
    constructor
    · rintro ⟨w, holds⟩
      by_cases here : w = v
      · subst here
        rw [put_held_self] at holds
        exact absurd holds new
      · rw [put_held_of_ne l here] at holds
        exact ⟨w, here, holds⟩
    · rintro ⟨w, other, holds⟩
      exact ⟨w, (put_held_of_ne l other h).trans holds⟩
  simp only [AccountedAt, put_closes, others]
  constructor
  · rintro (once | ⟨-, other⟩)
    · exact Or.inl once
    · exact Or.inr other
  · rintro (once | other)
    · exact Or.inl once
    · exact accounted.imp_right fun open_ => ⟨open_.1, other⟩

/-- A place gives up its handle. -/
theorem accounted_forget {l : Ledger ν} (sound : l.Sound) (accounted : l.Accounted) (v : ν) :
    (l.put v none).Accounted ↔ l.Spare v := by
  constructor
  · intro after k holds
    have bound := sound.held v k holds
    exact (accountedAt_put_old holds (Option.some_ne_none k).symm (accounted k bound)).mp (after k bound)
  · intro spare k bound
    by_cases holds : l.held v = some k
    · exact (accountedAt_put_old holds (Option.some_ne_none k).symm (accounted k bound)).mpr (spare k holds)
    · exact (accountedAt_put holds (Option.some_ne_none k).symm).mpr (accounted k bound)

/-- A place gets the handle that was just opened. -/
theorem accounted_acquire {l : Ledger ν} (sound : l.Sound) (accounted : l.Accounted) (v : ν) :
    (l.grow.put v (some l.opened)).Accounted ↔ l.Spare v := by
  have fresh (k : ℕ) (bound : k < l.opened) : some l.opened ≠ some k := by
    intro same
    exact absurd (Option.some.inj same) (Nat.ne_of_gt bound)
  constructor
  · intro after k holds
    have bound := sound.held v k holds
    have kept := after k (bound.trans (Nat.lt_succ_self _))
    exact (accountedAt_put_old (l := l.grow) holds (fresh k bound) (accounted k bound)).mp kept
  · intro spare k bound
    rcases Nat.lt_succ_iff_lt_or_eq.mp bound with before | rfl
    · by_cases holds : l.held v = some k
      · exact (accountedAt_put_old (l := l.grow) holds (fresh k before)
          (accounted k before)).mpr (spare k holds)
      · exact (accountedAt_put (l := l.grow) holds (fresh k before)).mpr (accounted k before)
    · exact Or.inr ⟨sound.closes _ le_rfl, v, put_held_self ..⟩

/-- A place closes its handle and takes another one there is. -/
theorem accounted_replace {l : Ledger ν} (sound : l.Sound) (accounted : l.Accounted) (v : ν)
    (h : Option ℕ) :
    ((l.close (l.held v)).put v h).Accounted ↔ l.Unclosed v := by
  constructor
  · intro after k holds
    have bound := sound.held v k holds
    have counted := close_closes_self l k
    rw [← holds] at counted
    have kept := after k (by rwa [put_opened, close_opened])
    simp only [AccountedAt, put_closes, counted] at kept
    omega
  · intro unclosed k bound
    rw [put_opened, close_opened] at bound
    by_cases holds : l.held v = some k
    · left
      have counted := close_closes_self l k
      rw [← holds] at counted
      rw [put_closes, counted, unclosed k holds]
    · have same := close_closes_of_ne l holds
      have before : (l.close (l.held v)).AccountedAt k := by
        simpa only [AccountedAt, same, close_held] using accounted k bound
      have unheld : (l.close (l.held v)).held v ≠ some k := by rwa [close_held]
      by_cases taken : h = some k
      · rcases before with once | ⟨never, -⟩
        · exact Or.inl once
        · exact Or.inr ⟨never, v, (put_held_self ..).trans taken⟩
      · exact (accountedAt_put unheld taken).mpr before

/-- A place that holds nothing takes a handle there is. -/
theorem accounted_share {l : Ledger ν} (accounted : l.Accounted) {v : ν} (free : l.held v = none)
    (h : Option ℕ) : (l.put v h).Accounted := by
  intro k bound
  have unheld : l.held v ≠ some k := by
    rw [free]
    exact (Option.some_ne_none k).symm
  by_cases taken : h = some k
  · rcases accounted k bound with once | ⟨never, -⟩
    · exact Or.inl once
    · exact Or.inr ⟨never, v, (put_held_self ..).trans taken⟩
  · exact (accountedAt_put unheld taken).mpr (accounted k bound)

end Ledger

end NlsSdk.Library
