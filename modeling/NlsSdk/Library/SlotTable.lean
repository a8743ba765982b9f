import Mathlib.Tactic
import Mathlib.Data.List.Sort
import Mathlib.Data.List.Basic

/-!
# Vectors of slots and the lists that index them

A vector is scanned from an index for the first slot of a kind. Beside it an
ordered list may keep the indices of the slots that satisfy a predicate.
-/
namespace NlsSdk.Library

section Scan

variable {α : Type*}

/-- The first slot at or after `start` that satisfies the test, with its index. -/
def firstFrom (p : α → Bool) (start : ℕ) (slots : List α) : Option (ℕ × α) :=
  ((List.range slots.length).find? fun i => decide (start ≤ i) && (slots[i]?).any p).bind fun i =>
    (slots[i]?).map (i, ·)

/-- The indices of the slots that satisfy a predicate. -/
def SlotOf (p : α → Prop) (slots : List α) (i : ℕ) : Prop :=
  ∃ a, slots[i]? = some a ∧ p a

instance SlotOf.decidable (p : α → Prop) [DecidablePred p] (slots : List α) (i : ℕ) :
    Decidable (SlotOf p slots i) :=
  match h : slots[i]? with
  | some a => decidable_of_iff (p a) (by simp [SlotOf, h])
  | none => isFalse (by simp [SlotOf, h])

lemma slotOf_lt {p : α → Prop} {slots : List α} {i : ℕ} (h : SlotOf p slots i) :
    i < slots.length := by
  obtain ⟨a, there, -⟩ := h
  exact (List.getElem?_eq_some_iff.mp there).1

lemma slotOf_imp {p q : α → Prop} {slots : List α} {i : ℕ} (h : SlotOf p slots i)
    (weaker : ∀ a, p a → q a) : SlotOf q slots i := by
  obtain ⟨a, there, holds⟩ := h
  exact ⟨a, there, weaker a holds⟩

lemma any_iff_slotOf (p : α → Bool) (slots : List α) (i : ℕ) :
    (slots[i]?).any p = true ↔ SlotOf (p · = true) slots i := by
  cases h : slots[i]? with
  | none => simp [SlotOf, h]
  | some a => simp [SlotOf, h]

theorem firstFrom_eq_some {p : α → Bool} {start i : ℕ} {a : α} {slots : List α} :
    firstFrom p start slots = some (i, a) ↔
      start ≤ i ∧ slots[i]? = some a ∧ p a = true ∧
        ∀ j, start ≤ j → j < i → ¬ SlotOf (p · = true) slots j := by
  simp only [firstFrom, Option.bind_eq_some_iff, Option.map_eq_some_iff, Prod.mk.injEq,
    List.find?_range_eq_some, Bool.and_eq_true, decide_eq_true_eq, List.mem_range,
    Bool.not_eq_true', Bool.and_eq_false_iff, decide_eq_false_iff_not, ← any_iff_slotOf,
    Bool.not_eq_true]
  constructor
  · rintro ⟨_, ⟨⟨from_, holds⟩, -, before⟩, _, there, rfl, rfl⟩
    rw [there, Option.any_some] at holds
    refine ⟨from_, there, holds, fun j fromJ less => ?_⟩
    exact (before j less).resolve_left (not_not.mpr fromJ)
  · rintro ⟨from_, there, holds, before⟩
    refine ⟨i, ⟨⟨from_, ?_⟩, (List.getElem?_eq_some_iff.mp there).1, fun j less => ?_⟩,
      a, there, rfl, rfl⟩
    · rw [there, Option.any_some]
      exact holds
    · by_cases fromJ : start ≤ j
      · exact .inr (before j fromJ less)
      · exact .inl fromJ

theorem firstFrom_eq_none {p : α → Bool} {start : ℕ} {slots : List α} :
    firstFrom p start slots = none ↔ ∀ j, start ≤ j → ¬ SlotOf (p · = true) slots j := by
  constructor
  · intro fails j from_ found
    simp only [firstFrom, Option.bind_eq_none_iff, Option.map_eq_none_iff] at fails
    cases search : (List.range slots.length).find?
        fun i => decide (start ≤ i) && (slots[i]?).any p with
    | some i =>
      have inside := List.mem_range.mp (List.mem_of_find?_eq_some search)
      exact absurd (fails i search) (by simpa using inside)
    | none =>
      rw [List.find?_eq_none] at search
      refine search j (List.mem_range.mpr (slotOf_lt found)) ?_
      rw [Bool.and_eq_true, decide_eq_true_eq, any_iff_slotOf]
      exact ⟨from_, found⟩
  · intro fails
    cases search : firstFrom p start slots with
    | none => rfl
    | some found =>
      obtain ⟨from_, there, holds, -⟩ := firstFrom_eq_some.mp search
      exact (fails found.1 from_ ⟨found.2, there, holds⟩).elim

/-- A search from an index below every match finds one as soon as there is one. -/
lemma firstFrom_isSome_iff {p : α → Bool} {start : ℕ} {slots : List α}
    (below : ∀ i, SlotOf (p · = true) slots i → start ≤ i) :
    (firstFrom p start slots).isSome = true ↔ ∃ i, SlotOf (p · = true) slots i := by
  cases search : firstFrom p start slots with
  | none =>
    have fails := firstFrom_eq_none.mp search
    simp only [Option.isSome_none, Bool.false_eq_true, false_iff, not_exists]
    intro i found
    exact fails i (below i found) found
  | some found =>
    obtain ⟨-, there, holds, -⟩ := firstFrom_eq_some.mp search
    simp only [Option.isSome_some, true_iff]
    exact ⟨found.1, found.2, there, holds⟩

end Scan

section Index

variable {α : Type*} [LinearOrder α]

/-- The list is strictly increasing and holds exactly the values with the property. -/
structure Represents (l : List α) (p : α → Prop) : Prop where
  sorted : l.Pairwise (· < ·)
  mem : ∀ a, a ∈ l ↔ p a

namespace Represents

variable {l : List α} {p q : α → Prop} {a b : α}

lemma congr (h : ∀ a, p a ↔ q a) : Represents l p ↔ Represents l q := by
  constructor
  · intro r
    exact ⟨r.sorted, fun a => (r.mem a).trans (h a)⟩
  · intro r
    exact ⟨r.sorted, fun a => (r.mem a).trans (h a).symm⟩

/-- A list represents one property only. -/
lemma iff_same (r : Represents l p) : Represents l q ↔ ∀ a, p a ↔ q a := by
  constructor
  · intro other a
    rw [← r.mem, ← other.mem]
  · intro same
    exact (congr same).mp r

lemma nil_iff : Represents ([] : List α) p ↔ ∀ a, ¬ p a := by
  constructor
  · intro r a holds
    exact List.not_mem_nil ((r.mem a).mpr holds)
  · intro never
    exact ⟨List.Pairwise.nil, fun a => ⟨fun h => absurd h List.not_mem_nil, fun h => (never a h).elim⟩⟩

/-- The front of the list is the least value with the property. -/
lemma front_le (r : Represents (a :: l) p) (holds : p b) : a ≤ b := by
  rcases List.mem_cons.mp ((r.mem b).mpr holds) with rfl | later
  · exact le_rfl
  · exact (List.rel_of_pairwise_cons r.sorted later).le

lemma front (r : Represents (a :: l) p) : p a :=
  (r.mem a).mp List.mem_cons_self

lemma tail (r : Represents (a :: l) p) : Represents l (fun b => p b ∧ b ≠ a) := by
  refine ⟨r.sorted.of_cons, fun b => ?_⟩
  rw [← r.mem b, List.mem_cons]
  constructor
  · intro later
    exact ⟨.inr later, (List.rel_of_pairwise_cons r.sorted later).ne'⟩
  · rintro ⟨rfl | later, other⟩
    · exact absurd rfl other
    · exact later

lemma filter (r : Represents l p) (a : α) :
    Represents (l.filter (· ≠ a)) (fun b => p b ∧ b ≠ a) := by
  refine ⟨r.sorted.filter _, fun b => ?_⟩
  rw [List.mem_filter, r.mem b, decide_eq_true_eq]

lemma insert (r : Represents l p) (fresh : ¬ p a) :
    Represents (l.orderedInsert (· ≤ ·) a) (fun b => p b ∨ b = a) := by
  refine ⟨?_, fun b => ?_⟩
  · have nodup : (l.orderedInsert (· ≤ ·) a).Nodup := by
      rw [(List.perm_orderedInsert (· ≤ ·) a l).nodup_iff, List.nodup_cons]
      exact ⟨fun h => fresh ((r.mem a).mp h), r.sorted.imp ne_of_lt⟩
    have ordered : (l.orderedInsert (· ≤ ·) a).Pairwise (· ≤ ·) :=
      (r.sorted.imp le_of_lt).orderedInsert a l
    exact (ordered.and nodup).imp fun h => lt_of_le_of_ne h.1 h.2
  · rw [List.mem_orderedInsert, r.mem b, or_comm]

/-- Inserting a value that is there already makes the list hold it twice. -/
lemma insert_iff (r : Represents l p) (same : ∀ b, q b ↔ p b ∨ b = a) :
    Represents (l.orderedInsert (· ≤ ·) a) q ↔ ¬ p a := by
  constructor
  · intro after holds
    have nodup := after.sorted.imp (S := (· ≠ ·)) ne_of_lt
    rw [← List.nodup_iff_pairwise_ne, (List.perm_orderedInsert (· ≤ ·) a l).nodup_iff,
      List.nodup_cons] at nodup
    exact nodup.1 ((r.mem a).mpr holds)
  · intro fresh
    exact (congr same).mpr (r.insert fresh)

end Represents

end Index

end NlsSdk.Library
