import NlsSdk.Library.Memory

/-!
# Samples and bytes

The two conversions of `DataUtils` in memory. The one into bytes works in place
and keeps four bits of each byte only.
-/
namespace NlsSdk.Utils

open NlsSdk.Library

/-- A `char` or a `short` as an `int`. -/
def intOf {w : ℕ} (b : BitVec w) : BitVec 32 := b.signExtend 32

/-- `(short)((hi << 8) | (lo & 0xff))` -/
def shortOf (hi lo : UInt8) : BitVec 16 :=
  (intOf hi.toBitVec <<< 8 ||| intOf lo.toBitVec &&& 0xff#32).setWidth 16

def lowByte (s : BitVec 16) : UInt8 := ⟨(intOf s &&& 0xF#32).setWidth 8⟩

def highByte (s : BitVec 16) : UInt8 := ⟨((intOf s).sshiftRight 8 &&& 0xF#32).setWidth 8⟩

def byteArrayToShortArray (byte lenByte shortArray : ℕ) (m : Memory) : Memory :=
  (List.range (lenByte / 2)).foldl (fun m i =>
    m.store16 (shortArray + 2 * i) (shortOf (m (byte + 2 * i + 1)) (m (byte + 2 * i)))) m

/-- The shorts of the buffer are overwritten with their bytes. -/
def shortArrayToByteArray (buffer lenShort : ℕ) (m : Memory) : Memory :=
  (List.range lenShort).foldl (fun m i =>
    let low_byte := lowByte (m.load16 (buffer + 2 * i))
    let high_byte := highByte (m.load16 (buffer + 2 * i))
    (m.store (buffer + i * 2) low_byte).store (buffer + i * 2 + 1) high_byte) m

/-! ## What a word becomes -/

/-- The low four bits of both bytes. -/
def nibbles (s : BitVec 16) : BitVec 16 := s &&& 0x0F0F#16

lemma shortOf_eq (hi lo : UInt8) : shortOf hi lo = hi.toBitVec ++ lo.toBitVec := by
  refine BitVec.eq_of_getLsbD_eq fun i bound => ?_
  refine Eq.trans ?_ (BitVec.getLsbD_append (x := hi.toBitVec) (y := lo.toBitVec)).symm
  unfold shortOf intOf
  interval_cases i <;> simp [BitVec.getElem_signExtend]

lemma bytes_eq_nibbles (s : BitVec 16) :
    (nibbles s).extractLsb' 0 8 = (lowByte s).toBitVec ∧
      (nibbles s).extractLsb' 8 8 = (highByte s).toBitVec := by
  constructor
  · refine BitVec.eq_of_getLsbD_eq fun i bound => ?_
    unfold nibbles lowByte intOf
    interval_cases i <;> simp [BitVec.getElem_signExtend]
  · refine BitVec.eq_of_getLsbD_eq fun i bound => ?_
    unfold nibbles highByte intOf
    interval_cases i <;> simp [BitVec.getElem_signExtend, BitVec.getElem_sshiftRight]

lemma byteArrayToShortArray_eq (byte shortArray n : ℕ) (m : Memory) :
    byteArrayToShortArray byte (2 * n) shortArray m = m.mapWords id byte shortArray n := by
  unfold byteArrayToShortArray Memory.mapWords
  rw [Nat.mul_div_cancel_left n (by decide)]
  simp only [shortOf_eq]
  rfl

lemma shortArrayToByteArray_eq (buffer n : ℕ) (m : Memory) :
    shortArrayToByteArray buffer n m = m.mapWords nibbles buffer buffer n := by
  unfold shortArrayToByteArray Memory.mapWords
  congr 1
  funext m i
  obtain ⟨low, high⟩ := bytes_eq_nibbles (m.load16 (buffer + 2 * i))
  rw [Memory.store16, low, high, Nat.mul_comm i 2]

lemma nibbles_eq_self (m : Memory) (p : ℕ) :
    nibbles (m.load16 p) = m.load16 p ↔ m p < 16 ∧ m (p + 1) < 16 := by
  have kept (b : UInt8) : b &&& 15 = b ↔ b < 16 := by
    rw [← UInt8.toNat_inj, UInt8.lt_iff_toNat_lt, UInt8.toNat_and]
    have low : b.toNat &&& 15 = b.toNat % 16 := Nat.and_two_pow_sub_one_eq_mod b.toNat 4
    exact low ▸ Nat.mod_eq_iff_lt (by decide)
  have split : nibbles (m.load16 p) = (m (p + 1) &&& 15).toBitVec ++ (m p &&& 15).toBitVec := by
    refine BitVec.eq_of_getLsbD_eq fun i bound => ?_
    refine Eq.trans ?_ (BitVec.getLsbD_append (x := (m (p + 1) &&& 15).toBitVec)
      (y := (m p &&& 15).toBitVec)).symm
    have word : (m.load16 p).getLsbD i = _ := BitVec.getLsbD_append
    rw [nibbles, BitVec.getLsbD_and, word]
    interval_cases i <;> simp
  rw [split, ← kept, ← kept]
  constructor
  · intro same
    obtain ⟨high, low⟩ := Memory.append_inj same
    exact ⟨UInt8.toBitVec_inj.mp low, UInt8.toBitVec_inj.mp high⟩
  · rintro ⟨low, high⟩
    rw [low, high]
    rfl

/-! ## There and back -/

/-- Wherever they are put, also in place, `n` samples from `a` on survive the conversion to bytes
and back, and `2 * n` bytes the conversion to samples and back. -/
def RoundTrips (m : Memory) (a n : ℕ) : Prop :=
  ∀ b, Memory.Placed a b n →
    (byteArrayToShortArray a (2 * n) b (shortArrayToByteArray a n m)).wordsAt b n =
        m.wordsAt a n ∧
      (shortArrayToByteArray b n (byteArrayToShortArray a (2 * n) b m)).bytesAt b (2 * n) =
        m.bytesAt a (2 * n)

lemma map_nibbles_eq_self (m : Memory) (a n : ℕ) :
    (m.wordsAt a n).map nibbles = m.wordsAt a n ↔ ∀ i < 2 * n, m (a + i) < 16 := by
  have words : (m.wordsAt a n).map nibbles = m.wordsAt a n ↔
      ∀ i < n, nibbles (m.load16 (a + 2 * i)) = m.load16 (a + 2 * i) := by
    simp [Memory.wordsAt, List.map_inj_left]
  rw [words]
  simp only [nibbles_eq_self]
  constructor
  · intro small i bound
    obtain ⟨low, high⟩ := small (i / 2) (by omega)
    rcases Nat.mod_two_eq_zero_or_one i with even | odd
    · have index : 2 * (i / 2) = i := by omega
      rwa [index] at low
    · have index : 2 * (i / 2) + 1 = i := by omega
      rwa [Nat.add_assoc, index] at high
  · intro small i bound
    exact ⟨small (2 * i) (by omega), small (2 * i + 1) (by omega)⟩

end NlsSdk.Utils
