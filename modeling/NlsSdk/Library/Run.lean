import Mathlib.Tactic
import Mathlib.Data.List.Basic

/-!
# Runs of a deterministic system under a schedule

A schedule is the list of inputs the system is fed. `Along` collects what every
step of a run satisfies before it is taken, so that an invariant which needs
help from its environment is stated and used once.
-/
namespace NlsSdk.Library

variable {σ ι : Type*}

/-- Fold a transition function over a schedule. -/
def run (step : σ → ι → σ) (s : σ) : List ι → σ
  | [] => s
  | a :: as => run step (step s a) as

@[simp] theorem run_nil (step : σ → ι → σ) (s : σ) : run step s [] = s := rfl

@[simp] theorem run_cons (step : σ → ι → σ) (s : σ) (a : ι) (as : List ι) :
    run step s (a :: as) = run step (step s a) as := rfl

theorem run_append (step : σ → ι → σ) (s : σ) (as bs : List ι) :
    run step s (as ++ bs) = run step (run step s as) bs := by
  induction as generalizing s with
  | nil => rfl
  | cons a as ih =>
    rw [List.cons_append, run_cons, run_cons, ih]

/-- Every step of the run meets `C` in the state it is taken from. -/
def Along (step : σ → ι → σ) (C : σ → ι → Prop) (s : σ) : List ι → Prop
  | [] => True
  | a :: as => C s a ∧ Along step C (step s a) as

@[simp] theorem along_nil (step : σ → ι → σ) (C : σ → ι → Prop) (s : σ) :
    Along step C s [] := trivial

@[simp] theorem along_cons (step : σ → ι → σ) (C : σ → ι → Prop) (s : σ) (a : ι) (as : List ι) :
    Along step C s (a :: as) ↔ C s a ∧ Along step C (step s a) as := Iff.rfl

instance Along.decidable (step : σ → ι → σ) (C : σ → ι → Prop) [∀ s a, Decidable (C s a)] :
    ∀ (s : σ) (as : List ι), Decidable (Along step C s as)
  | _, [] => isTrue trivial
  | s, a :: as =>
    have := Along.decidable step C (step s a) as
    inferInstanceAs (Decidable (C s a ∧ Along step C (step s a) as))

theorem along_append (step : σ → ι → σ) (C : σ → ι → Prop) (s : σ) (as bs : List ι) :
    Along step C s (as ++ bs) ↔ Along step C s as ∧ Along step C (run step s as) bs := by
  induction as generalizing s with
  | nil => simp
  | cons a as ih =>
    rw [List.cons_append, along_cons, along_cons, run_cons, ih, and_assoc]

/-- Along a run means at every step of it. -/
theorem along_iff_forall {step : σ → ι → σ} {C : σ → ι → Prop} {s : σ} {as : List ι} :
    Along step C s as ↔ ∀ bs a, bs ++ [a] <+: as → C (run step s bs) a := by
  induction as generalizing s with
  | nil =>
    refine ⟨fun _ bs a part => ?_, fun _ => trivial⟩
    simp at part
  | cons b as ih =>
    rw [along_cons, ih]
    constructor
    · rintro ⟨now, later⟩ bs a part
      cases bs with
      | nil =>
        obtain ⟨rfl, -⟩ := List.cons_prefix_cons.mp part
        exact now
      | cons c bs =>
        obtain ⟨rfl, rest⟩ := List.cons_prefix_cons.mp part
        exact later bs a rest
    · intro always
      refine ⟨always [] b ⟨as, rfl⟩, fun bs a part => ?_⟩
      exact always (b :: bs) a ((List.prefix_cons_inj b).mpr part)

/-- An invariant kept by each step that meets the condition holds wherever the
run leads. -/
theorem invariant_along {step : σ → ι → σ} {C : σ → ι → Prop} {I : σ → Prop}
    (keep : ∀ s a, I s → C s a → I (step s a)) {s : σ} (start : I s) {as : List ι}
    (along : Along step C s as) : I (run step s as) := by
  induction as generalizing s with
  | nil => exact start
  | cons a as ih =>
    obtain ⟨now, later⟩ := along
    exact ih (keep s a start now) later

/-- An invariant that every step keeps but those that meet `D` holds at the end, or up to such a
step. -/
theorem invariant_until {step : σ → ι → σ} {D : σ → ι → Prop} {I : σ → Prop}
    (keep : ∀ s a, I s → ¬ D s a → I (step s a)) {s : σ} (start : I s) (as : List ι) :
    I (run step s as) ∨ ∃ bs a, bs ++ [a] <+: as ∧ I (run step s bs) ∧ D (run step s bs) a := by
  induction as generalizing s with
  | nil => exact Or.inl start
  | cons a as ih =>
    by_cases ends : D s a
    · exact Or.inr ⟨[], a, List.cons_prefix_cons.mpr ⟨rfl, List.nil_prefix⟩, start, ends⟩
    · obtain still | ⟨bs, b, part, there, last⟩ := ih (keep s a start ends)
      · exact Or.inl still
      · exact Or.inr ⟨a :: bs, b, List.cons_prefix_cons.mpr ⟨rfl, part⟩, there, last⟩

/-- What an invariant and the condition of a step give holds at every step. -/
theorem along_of_invariant {step : σ → ι → σ} {C D : σ → ι → Prop} {I : σ → Prop}
    (keep : ∀ s a, I s → C s a → I (step s a)) (gives : ∀ s a, I s → C s a → D s a) {s : σ}
    (start : I s) {as : List ι} (along : Along step C s as) : Along step D s as := by
  induction as generalizing s with
  | nil => trivial
  | cons a as ih =>
    obtain ⟨now, later⟩ := along
    exact ⟨gives s a start now, ih (keep s a start now) later⟩

theorem along_and {step : σ → ι → σ} {C D : σ → ι → Prop} {s : σ} {as : List ι} :
    Along step (fun s a => C s a ∧ D s a) s as ↔ Along step C s as ∧ Along step D s as := by
  induction as generalizing s with
  | nil => simp
  | cons a as ih =>
    rw [along_cons, along_cons, along_cons, ih, and_and_and_comm]

/-- Two conditions that an invariant and the condition of a step make equivalent hold along the same
runs. -/
theorem along_congr_of_invariant {step : σ → ι → σ} {C D E : σ → ι → Prop} {I : σ → Prop}
    (keep : ∀ s a, I s → C s a → I (step s a)) (same : ∀ s a, I s → C s a → (D s a ↔ E s a))
    {s : σ} (start : I s) {as : List ι} (along : Along step C s as) :
    Along step D s as ↔ Along step E s as := by
  induction as generalizing s with
  | nil => exact Iff.rfl
  | cons a as ih =>
    obtain ⟨now, later⟩ := along
    rw [along_cons, along_cons, same s a start now, ih (keep s a start now) later]

/-- Every step meets `C`, up to one that meets `D` and behind which every step meets `E`. -/
def Once (step : σ → ι → σ) (C D E : σ → ι → Prop) (s : σ) : List ι → Prop
  | [] => True
  | a :: as => (C s a ∧ Once step C D E (step s a) as) ∨ (D s a ∧ Along step E (step s a) as)

/-- Behind the one step nothing happens that could not happen before it. -/
theorem Once.last {step : σ → ι → σ} {C D E : σ → ι → Prop} (behind : ∀ s a, E s a → C s a) {s : σ}
    {as : List ι} {a : ι} (once : Once step C D E s (as ++ [a])) :
    C (run step s as) a ∨ D (run step s as) a := by
  induction as generalizing s with
  | nil =>
    rcases once with ⟨free, -⟩ | ⟨now, -⟩
    · exact Or.inl free
    · exact Or.inr now
  | cons b as ih =>
    rcases once with ⟨-, later⟩ | ⟨-, later⟩
    · exact ih later
    · have last : Along step E (run step (step s b) as) [a] := ((along_append ..).mp later).2
      exact Or.inl (behind _ _ last.1)

/-- A mark that the one step sets, and that an invariant keeps, is enough for it. -/
theorem once_of_invariant {step : σ → ι → σ} {C D E G : σ → ι → Prop} {I P : σ → Prop}
    (keep : ∀ s a, I s → G s a → I (step s a))
    (before : ∀ s a, I s → G s a → C s a ∨ D s a ∧ P (step s a))
    (behind : ∀ s a, I s → P s → G s a → E s a ∧ P (step s a)) {s : σ} (start : I s)
    {as : List ι} (along : Along step G s as) : Once step C D E s as := by
  induction as generalizing s with
  | nil => trivial
  | cons a as ih =>
    obtain ⟨now, later⟩ := along
    have next := keep s a start now
    rcases before s a start now with free | ⟨once, marked⟩
    · exact Or.inl ⟨free, ih next later⟩
    · refine Or.inr ⟨once, ?_⟩
      exact along_of_invariant (I := fun s => I s ∧ P s)
        (fun s a inv meets => ⟨keep s a inv.1 meets, (behind s a inv.1 inv.2 meets).2⟩)
        (fun s a inv meets => (behind s a inv.1 inv.2 meets).1) ⟨next, marked⟩ later

/-- The same for an invariant that asks nothing of the environment. -/
theorem invariant_run {step : σ → ι → σ} {I : σ → Prop}
    (keep : ∀ s a, I s → I (step s a)) {s : σ} (start : I s) (as : List ι) :
    I (run step s as) := by
  induction as generalizing s with
  | nil => exact start
  | cons a as ih => exact ih (keep s a start)

/-- Where each step keeps an invariant exactly when it meets the condition, the invariant holds in
every state of a run exactly when all its steps do. -/
theorem along_iff_invariant {step : σ → ι → σ} {C : σ → ι → Prop} {I : σ → Prop}
    (exact_ : ∀ s a, I s → (I (step s a) ↔ C s a)) {s : σ} (start : I s) (as : List ι) :
    (∀ bs, bs <+: as → I (run step s bs)) ↔ Along step C s as := by
  induction as generalizing s with
  | nil =>
    refine ⟨fun _ => trivial, fun _ bs part => ?_⟩
    rw [List.prefix_nil.mp part]
    exact start
  | cons a as ih =>
    constructor
    · intro always
      have next : I (step s a) := always [a] ⟨as, rfl⟩
      refine ⟨(exact_ s a start).mp next, (ih next).mp fun bs part => ?_⟩
      exact always (a :: bs) ((List.prefix_cons_inj a).mpr part)
    · rintro ⟨now, later⟩ bs part
      have next := (exact_ s a start).mpr now
      cases bs with
      | nil => exact start
      | cons b bs =>
        obtain ⟨rfl, rest⟩ := List.cons_prefix_cons.mp part
        exact (ih next).mpr later bs rest

/-- Two systems related by a simulation stay related along the same schedule. -/
theorem simulation_run {τ : Type*} {step : σ → ι → σ} {step' : τ → ι → τ} {R : σ → τ → Prop}
    (sim : ∀ s t a, R s t → R (step s a) (step' t a)) {s : σ} {t : τ} (start : R s t)
    (as : List ι) : R (run step s as) (run step' t as) := by
  induction as generalizing s t with
  | nil => exact start
  | cons a as ih => exact ih (sim s t a start)

theorem along_of_mem {step : σ → ι → σ} {C : ι → Prop} {s : σ} {as : List ι}
    (each : ∀ a ∈ as, C a) : Along step (fun _ a => C a) s as := by
  induction as generalizing s with
  | nil => trivial
  | cons a as ih =>
    obtain ⟨here, later⟩ := List.forall_mem_cons.mp each
    exact ⟨here, ih later⟩

/-- What holds from the first step on that meets `D`, holds behind a run exactly when it did before
or a step of the run meets `D`. -/
theorem latched_run {step : σ → ι → σ} {C D : σ → ι → Prop} {I Q : σ → Prop}
    (keep : ∀ s a, I s → C s a → I (step s a))
    (latch : ∀ s a, I s → C s a → (Q (step s a) ↔ Q s ∨ D s a)) {s : σ} (start : I s)
    {as : List ι} (along : Along step C s as) :
    Q (run step s as) ↔ Q s ∨ ∃ bs a, bs ++ [a] <+: as ∧ D (run step s bs) a := by
  induction as generalizing s with
  | nil => simp
  | cons a as ih =>
    obtain ⟨now, later⟩ := along
    rw [run_cons, ih (keep s a start now) later, latch s a start now, or_assoc]
    refine or_congr Iff.rfl ?_
    constructor
    · rintro (here | ⟨bs, b, part, there⟩)
      · exact ⟨[], a, List.cons_prefix_cons.mpr ⟨rfl, List.nil_prefix⟩, here⟩
      · exact ⟨a :: bs, b, List.cons_prefix_cons.mpr ⟨rfl, part⟩, there⟩
    · rintro ⟨bs, b, part, there⟩
      cases bs with
      | nil =>
        obtain ⟨rfl, -⟩ := List.cons_prefix_cons.mp part
        exact Or.inl there
      | cons c bs =>
        obtain ⟨rfl, rest⟩ := List.cons_prefix_cons.mp part
        exact Or.inr ⟨bs, b, rest, there⟩

/-! ## What a run writes -/

variable {β : Type*}

/-- What the steps of a run give, in their order. -/
def collect (step : σ → ι → σ) (gives : σ → ι → Option β) (s : σ) : List ι → List β
  | [] => []
  | a :: as => (gives s a).toList ++ collect step gives (step s a) as

/-- A variable that every step leaves with what the step gives, or alone, holds at the end what was
given last. -/
theorem collect_getLastD {step : σ → ι → σ} {gives : σ → ι → Option β} {value : σ → β}
    (writes : ∀ s a, value (step s a) = (gives s a).getD (value s)) (s : σ) (as : List ι) :
    value (run step s as) = (collect step gives s as).getLastD (value s) := by
  induction as generalizing s with
  | nil => rfl
  | cons a as ih =>
    rw [run_cons, ih, writes, collect]
    cases gives s a with
    | none => rfl
    | some b =>
      rw [Option.toList_some, Option.getD_some, List.singleton_append, List.getLastD_cons]

/-! ## What a run costs -/

/-- What the steps of a run cost together. -/
def total (step : σ → ι → σ) (charge : σ → ι → ℕ) (s : σ) : List ι → ℕ
  | [] => 0
  | a :: as => charge s a + total step charge (step s a) as

/-- Steps that pay from a potential, as long as the run can still end in `Q`, cost no more than
there is of it. -/
theorem total_le {step : σ → ι → σ} {charge : σ → ι → ℕ} {I Q : σ → Prop} {potential : σ → ℕ}
    (keep : ∀ s a, I s → I (step s a))
    (pays : ∀ s a, I s → Q (step s a) → Q s ∧ charge s a + potential (step s a) ≤ potential s)
    {s : σ} (start : I s) {as : List ι} (ends : Q (run step s as)) :
    Q s ∧ total step charge s as + potential (run step s as) ≤ potential s := by
  induction as generalizing s with
  | nil =>
    refine ⟨ends, ?_⟩
    rw [total, run_nil, Nat.zero_add]
  | cons a as ih =>
    obtain ⟨next, later⟩ := ih (keep s a start) ends
    obtain ⟨here, now⟩ := pays s a start next
    refine ⟨here, ?_⟩
    rw [total, run_cons]
    omega

/-- Steps that pay from a potential and may add to it cost no more than there was and what they
added. -/
theorem total_le_gain {step : σ → ι → σ} {charge gain : σ → ι → ℕ} {potential : σ → ℕ}
    (pays : ∀ s a, charge s a + potential (step s a) ≤ potential s + gain s a) (s : σ)
    (as : List ι) :
    total step charge s as + potential (run step s as) ≤ potential s + total step gain s as := by
  induction as generalizing s with
  | nil => rw [total, total, run_nil, Nat.zero_add, Nat.add_zero]
  | cons a as ih =>
    have now := pays s a
    have later := ih (step s a)
    rw [total, total, run_cons]
    omega

/-- Steps that add to a quantity what they charge. -/
theorem total_along {step : σ → ι → σ} {charge : σ → ι → ℕ} {C : σ → ι → Prop} {I : σ → Prop}
    {quantity : σ → ℕ}
    (adds : ∀ s a, I s → C s a → I (step s a) ∧ quantity (step s a) = quantity s + charge s a)
    {s : σ} (start : I s) {as : List ι} (along : Along step C s as) :
    quantity (run step s as) = quantity s + total step charge s as := by
  induction as generalizing s with
  | nil => rw [total, run_nil, Nat.add_zero]
  | cons a as ih =>
    obtain ⟨now, later⟩ := along
    obtain ⟨next, here⟩ := adds s a start now
    rw [total, run_cons, ih next later, here, Nat.add_assoc]

end NlsSdk.Library
