import Mathlib.Tactic

/-!
# Numbers in little-endian order

A number is written in a fixed count of bytes, the low one first. What does not fit is cut off.
A buffer is written to in place.
-/
namespace NlsSdk.Library.LittleEndian

/-- The `k` low bytes of `n`. -/
def le : ℕ → ℕ → List UInt8
  | 0, _ => []
  | k + 1, n => UInt8.ofNat n :: le k (n / 256)

def ofLe : List UInt8 → ℕ
  | [] => 0
  | b :: bytes => b.toNat + 256 * ofLe bytes

@[simp] lemma length_le (k n : ℕ) : (le k n).length = k := by
  induction k generalizing n with
  | zero => rfl
  | succ k ih => rw [le, List.length_cons, ih]

/-- What is read back. -/
theorem ofLe_le (k n : ℕ) : ofLe (le k n) = n % 256 ^ k := by
  induction k generalizing n with
  | zero => rw [le, ofLe, pow_zero, Nat.mod_one]
  | succ k ih =>
    have low : (UInt8.ofNat n).toNat = n % 256 := UInt8.toNat_ofNat'
    rw [le, ofLe, ih, low, pow_succ', Nat.mod_mul]

/-- The next `k` bytes as a number. -/
def takeLe (k : ℕ) (bytes : List UInt8) : Option (ℕ × List UInt8) :=
  if k ≤ bytes.length then some (ofLe (bytes.take k), bytes.drop k) else none

lemma takeLe_append (k n : ℕ) (rest : List UInt8) :
    takeLe k (le k n ++ rest) = some (n % 256 ^ k, rest) := by
  unfold takeLe
  rw [if_pos (by simp), List.take_left' (length_le k n), List.drop_left' (length_le k n), ofLe_le]

/-! ## Writing in place -/

/-- The bytes of a buffer from `base` on are overwritten. -/
def blit (buffer : List UInt8) (base : ℕ) (bytes : List UInt8) : List UInt8 :=
  buffer.take base ++ bytes ++ buffer.drop (base + bytes.length)

lemma blit_append {front middle bytes : List UInt8} {base : ℕ} (place : front.length = base)
    (size : middle.length = bytes.length) (rest : List UInt8) :
    blit (front ++ middle ++ rest) base bytes = front ++ bytes ++ rest := by
  subst place
  unfold blit
  rw [← size, ← List.length_append, List.drop_left, List.append_assoc front middle,
    List.take_left]

end NlsSdk.Library.LittleEndian
