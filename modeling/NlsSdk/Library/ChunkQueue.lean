import Mathlib.Tactic
import Mathlib.Data.List.Basic

/-!
# Byte queues that remember their chunks

A queue is filled by whole chunks and drained by byte counts that fall anywhere.
It keeps what is left of the chunk the last drain stopped in apart from the
chunks behind it, so that a drain inside a chunk can be told from one at its end.
-/
namespace NlsSdk.Library

/-- The rest of the chunk already begun, and the chunks not yet touched. -/
structure ChunkQueue (β : Type*) where
  cut : List β := []
  whole : List (List β) := []
  deriving DecidableEq, Repr

namespace ChunkQueue

variable {β : Type*}

def bytes (q : ChunkQueue β) : List β := q.cut ++ q.whole.flatten

def length (q : ChunkQueue β) : ℕ := q.bytes.length

def add (q : ChunkQueue β) (c : List β) : ChunkQueue β := { q with whole := q.whole ++ [c] }

/-- The first `n` bytes, left where they are. -/
def peek (n : ℕ) (q : ChunkQueue β) : List β := q.bytes.take n

/-- Drop `n` bytes off a list of whole chunks. -/
def drainWhole : ℕ → List (List β) → ChunkQueue β
  | 0, cs => ⟨[], cs⟩
  | _ + 1, [] => ⟨[], []⟩
  | n + 1, c :: cs =>
    if n + 1 < c.length then ⟨c.drop (n + 1), cs⟩ else drainWhole (n + 1 - c.length) cs

def drain (n : ℕ) (q : ChunkQueue β) : ChunkQueue β :=
  if n < q.cut.length then ⟨q.cut.drop n, q.whole⟩ else drainWhole (n - q.cut.length) q.whole

@[simp] theorem bytes_mk (c : List β) (cs : List (List β)) :
    (⟨c, cs⟩ : ChunkQueue β).bytes = c ++ cs.flatten := rfl

@[simp] theorem cut_add (q : ChunkQueue β) (c : List β) : (q.add c).cut = q.cut := rfl

@[simp] theorem whole_add (q : ChunkQueue β) (c : List β) : (q.add c).whole = q.whole ++ [c] := rfl

@[simp] theorem bytes_add (q : ChunkQueue β) (c : List β) : (q.add c).bytes = q.bytes ++ c := by
  simp [bytes, add]

@[simp] theorem length_add (q : ChunkQueue β) (c : List β) :
    (q.add c).length = q.length + c.length := by
  simp [length]

theorem length_peek (n : ℕ) (q : ChunkQueue β) : (q.peek n).length = min n q.length := by
  simp [peek, length]

theorem length_eq_zero {q : ChunkQueue β} : q.length = 0 ↔ q.bytes = [] := by
  simp [length]

/-- An empty queue has no chunk begun. -/
theorem cut_eq_nil_of_length {q : ChunkQueue β} (h : q.length = 0) : q.cut = [] := by
  have empty : q.cut ++ q.whole.flatten = [] := length_eq_zero.mp h
  exact (List.append_eq_nil_iff.mp empty).1

lemma bytes_drainWhole (n : ℕ) (cs : List (List β)) :
    (drainWhole n cs).bytes = cs.flatten.drop n := by
  induction cs generalizing n with
  | nil => cases n <;> simp [drainWhole]
  | cons c cs ih =>
    cases n with
    | zero => simp [drainWhole]
    | succ n =>
      by_cases inside : n + 1 < c.length
      · have short : n + 1 - c.length = 0 := by omega
        simp [drainWhole, inside, List.drop_append, short]
      · have past : c.drop (n + 1) = [] := List.drop_eq_nil_of_le (by omega)
        simp [drainWhole, inside, ih, List.drop_append, past]

/-- Draining drops exactly the bytes it was told to. -/
@[simp] theorem bytes_drain (n : ℕ) (q : ChunkQueue β) : (q.drain n).bytes = q.bytes.drop n := by
  obtain ⟨c, cs⟩ := q
  by_cases inside : n < c.length
  · have short : n - c.length = 0 := by omega
    simp [drain, inside, List.drop_append, short]
  · have past : c.drop n = [] := List.drop_eq_nil_of_le (by omega)
    simp [drain, inside, bytes_drainWhole, List.drop_append, past]

@[simp] theorem length_drain (n : ℕ) (q : ChunkQueue β) : (q.drain n).length = q.length - n := by
  simp [length]

lemma whole_drainWhole (n : ℕ) (cs : List (List β)) : (drainWhole n cs).whole <:+ cs := by
  induction cs generalizing n with
  | nil => cases n <;> simp [drainWhole]
  | cons c cs ih =>
    cases n with
    | zero => simp [drainWhole]
    | succ n =>
      by_cases inside : n + 1 < c.length
      · simp [drainWhole, inside]
      · rw [drainWhole, if_neg inside]
        exact (ih _).trans (List.suffix_cons c cs)

/-- The chunks left whole by a drain are some of those that were. -/
theorem whole_drain (n : ℕ) (q : ChunkQueue β) : (q.drain n).whole <:+ q.whole := by
  rw [drain]
  split
  · exact List.suffix_rfl
  · exact whole_drainWhole _ _

end ChunkQueue

/-- `h` is what a wire has seen of the chunk whose rest is `c`. -/
def Begun {β : Type*} (P : List β → Prop) (h c : List β) : Prop :=
  (c = [] ∧ h = []) ∨ (c ≠ [] ∧ P (h ++ c))

namespace ChunkQueue

variable {β : Type*} {P : List β → Prop}

lemma drainWhole_spec (n : ℕ) {cs : List (List β)} (good : ∀ c ∈ cs, P c) :
    ∃ (done : List (List β)) (h : List β), cs.flatten.take n = done.flatten ++ h ∧ (∀ f ∈ done, P f) ∧
      Begun P h (drainWhole n cs).cut := by
  induction cs generalizing n with
  | nil => exact ⟨[], [], by simp, by simp, by cases n <;> simp [drainWhole, Begun]⟩
  | cons c cs ih =>
    cases n with
    | zero => exact ⟨[], [], by simp, by simp, by simp [drainWhole, Begun]⟩
    | succ n =>
      have goodTail : ∀ f ∈ cs, P f := fun f hf => good f (List.mem_cons_of_mem c hf)
      by_cases inside : n + 1 < c.length
      · have short : n + 1 - c.length = 0 := by omega
        refine ⟨[], c.take (n + 1), ?_, by simp, Or.inr ⟨?_, ?_⟩⟩
        · simp [List.take_append, short]
        · simp [drainWhole, inside]
        · simpa [drainWhole, inside] using good c (by simp)
      · obtain ⟨done, h, split, whole, begun⟩ := ih (n + 1 - c.length) goodTail
        refine ⟨c :: done, h, ?_, ?_, ?_⟩
        · have all : c.take (n + 1) = c := List.take_of_length_le (by omega)
          simp [List.take_append, all, split]
        · simpa using ⟨good c (by simp), whole⟩
        · simpa [drainWhole, inside] using begun

/-- What a drain hands out ends the chunk begun before, continues with whole
chunks and may begin one more. -/
theorem drain_spec (n : ℕ) {q : ChunkQueue β} {h : List β} (begun : Begun P h q.cut)
    (good : ∀ c ∈ q.whole, P c) :
    ∃ (done : List (List β)) (h' : List β), h ++ q.peek n = done.flatten ++ h' ∧ (∀ f ∈ done, P f) ∧
      Begun P h' (q.drain n).cut := by
  obtain ⟨c, cs⟩ := q
  replace begun : Begun P h c := begun
  by_cases inside : n < c.length
  · have short : n - c.length = 0 := by omega
    have nonempty : c ≠ [] := by rintro rfl; simp at inside
    rcases begun with ⟨rfl, _⟩ | ⟨_, frame⟩
    · exact absurd rfl nonempty
    · refine ⟨[], h ++ c.take n, ?_, by simp, Or.inr ⟨?_, ?_⟩⟩
      · simp [peek, List.take_append, short]
      · simp [drain, inside]
      · simpa [drain, inside] using frame
  · obtain ⟨done, h', split, whole, tail⟩ := drainWhole_spec (n - c.length) good
    have all : c.take n = c := List.take_of_length_le (by omega)
    have rest : (drain n ⟨c, cs⟩).cut = (drainWhole (n - c.length) cs).cut := by
      simp [drain, inside]
    rw [rest]
    rcases begun with ⟨rfl, rfl⟩ | ⟨_, frame⟩
    · exact ⟨done, h', by simpa [peek] using split, whole, tail⟩
    · refine ⟨(h ++ c) :: done, h', ?_, ?_, tail⟩
      · simp [peek, List.take_append, all, split]
      · simpa using ⟨frame, whole⟩

end ChunkQueue

end NlsSdk.Library
