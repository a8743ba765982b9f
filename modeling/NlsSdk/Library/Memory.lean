import Mathlib.Tactic

/-!
# Memory of bytes

Words of 16 bits lie in memory with the low byte first. A loop that converts an
array of words into another one may work in place, since it reads a word
before it overwrites it.
-/
namespace NlsSdk.Library

abbrev Memory := ℕ → UInt8

namespace Memory

def store (m : Memory) (p : ℕ) (b : UInt8) : Memory := Function.update m p b

def load16 (m : Memory) (p : ℕ) : BitVec 16 := (m (p + 1)).toBitVec ++ (m p).toBitVec

def store16 (m : Memory) (p : ℕ) (w : BitVec 16) : Memory :=
  (m.store p ⟨w.extractLsb' 0 8⟩).store (p + 1) ⟨w.extractLsb' 8 8⟩

/-- The bytes from `p` on. -/
def bytesAt (m : Memory) (p n : ℕ) : List UInt8 := (List.range n).map fun i => m (p + i)

/-- The words from `p` on. -/
def wordsAt (m : Memory) (p n : ℕ) : List (BitVec 16) :=
  (List.range n).map fun i => m.load16 (p + 2 * i)

variable {m m' : Memory} {p q : ℕ}

lemma append_inj {a b c d : BitVec 8} (same : a ++ b = c ++ d) : a = c ∧ b = d := by
  constructor
  · have high := congrArg (BitVec.extractLsb' 8 8) same
    rwa [BitVec.extractLsb'_append_eq_left, BitVec.extractLsb'_append_eq_left] at high
  · have low := congrArg (BitVec.extractLsb' 0 8) same
    rwa [BitVec.extractLsb'_append_eq_right, BitVec.extractLsb'_append_eq_right] at low

/-- The same word means the same bytes. -/
lemma load16_eq_iff : m.load16 p = m'.load16 q ↔ m p = m' q ∧ m (p + 1) = m' (q + 1) := by
  constructor
  · intro same
    obtain ⟨high, low⟩ := append_inj same
    exact ⟨UInt8.toBitVec_inj.mp low, UInt8.toBitVec_inj.mp high⟩
  · rintro ⟨low, high⟩
    rw [load16, load16, low, high]

lemma store16_of_apart (w : BitVec 16) (apart : q ≠ p ∧ q ≠ p + 1) : m.store16 p w q = m q := by
  simp [store16, store, apart.1, apart.2]

@[simp] lemma load16_store16 (m : Memory) (p : ℕ) (w : BitVec 16) :
    (m.store16 p w).load16 p = w := by
  have low : m.store16 p w p = ⟨w.extractLsb' 0 8⟩ := by simp [store16, store]
  have high : m.store16 p w (p + 1) = ⟨w.extractLsb' 8 8⟩ := by simp [store16, store]
  rw [load16, low, high]
  exact BitVec.extractLsb'_append_extractLsb'_eq_extractLsb' (by omega) |>.trans (by simp)

lemma load16_store16_of_apart (w : BitVec 16) (apart : q + 2 ≤ p ∨ p + 2 ≤ q) :
    (m.store16 p w).load16 q = m.load16 q := by
  rw [load16_eq_iff]
  exact ⟨store16_of_apart w (by omega), store16_of_apart w (by omega)⟩

/-! ## Arrays -/

lemma wordsAt_eq_iff {n : ℕ} :
    m.wordsAt p n = m'.wordsAt q n ↔ ∀ i < n, m.load16 (p + 2 * i) = m'.load16 (q + 2 * i) := by
  simp [wordsAt, List.map_inj_left]

lemma bytesAt_eq_iff {n : ℕ} :
    m.bytesAt p n = m'.bytesAt q n ↔ ∀ i < n, m (p + i) = m' (q + i) := by
  simp [bytesAt, List.map_inj_left]

/-- An array of words is its bytes. -/
lemma bytesAt_eq_iff_wordsAt {n : ℕ} :
    m.bytesAt p (2 * n) = m'.bytesAt q (2 * n) ↔ m.wordsAt p n = m'.wordsAt q n := by
  rw [bytesAt_eq_iff, wordsAt_eq_iff]
  constructor
  · intro bytes i bound
    exact load16_eq_iff.mpr ⟨bytes (2 * i) (by omega), bytes (2 * i + 1) (by omega)⟩
  · intro words i bound
    obtain ⟨low, high⟩ := load16_eq_iff.mp (words (i / 2) (by omega))
    rcases Nat.mod_two_eq_zero_or_one i with even | odd
    · have index : 2 * (i / 2) = i := by omega
      rwa [index] at low
    · have index : 2 * (i / 2) + 1 = i := by omega
      rwa [Nat.add_assoc, Nat.add_assoc, index] at high

/-- Convert the words of one array, one after another, into those of another. -/
def mapWords (f : BitVec 16 → BitVec 16) (src dst n : ℕ) (m : Memory) : Memory :=
  (List.range n).foldl (fun m i => m.store16 (dst + 2 * i) (f (m.load16 (src + 2 * i)))) m

/-- Two arrays of `n` words are the same, or share no byte. -/
def Placed (src dst n : ℕ) : Prop := dst = src ∨ src + 2 * n ≤ dst ∨ dst + 2 * n ≤ src

variable {f : BitVec 16 → BitVec 16} {src dst : ℕ}

lemma mapWords_succ (n : ℕ) : mapWords f src dst (n + 1) m =
    (mapWords f src dst n m).store16 (dst + 2 * n)
      (f ((mapWords f src dst n m).load16 (src + 2 * n))) := by
  rw [mapWords, List.range_succ, List.foldl_append]
  rfl

/-- The words behind those written are still there. -/
lemma load16_mapWords_of_apart {n : ℕ} (apart : q + 2 ≤ dst ∨ dst + 2 * n ≤ q) :
    (mapWords f src dst n m).load16 q = m.load16 q := by
  induction n with
  | zero => rfl
  | succ n ih =>
    rw [mapWords_succ, load16_store16_of_apart _ (by omega), ih (by omega)]

/-- Each word is the conversion of the one that was there before the loop. -/
theorem load16_mapWords {n i : ℕ} (placed : Placed src dst n) (bound : i < n) :
    (mapWords f src dst n m).load16 (dst + 2 * i) = f (m.load16 (src + 2 * i)) := by
  induction n with
  | zero => omega
  | succ n ih =>
    rw [mapWords_succ]
    rcases Nat.lt_succ_iff_lt_or_eq.mp bound with before | rfl
    · have placed' : Placed src dst n := by
        unfold Placed at placed ⊢
        omega
      rw [load16_store16_of_apart _ (by omega), ih placed' before]
    · rw [load16_store16, load16_mapWords_of_apart]
      unfold Placed at placed
      omega

theorem wordsAt_mapWords {n : ℕ} (placed : Placed src dst n) :
    (mapWords f src dst n m).wordsAt dst n = (m.wordsAt src n).map f := by
  rw [wordsAt, wordsAt, List.map_map]
  refine List.map_congr_left fun i is => ?_
  exact load16_mapWords placed (List.mem_range.mp is)

end Memory

end NlsSdk.Library
