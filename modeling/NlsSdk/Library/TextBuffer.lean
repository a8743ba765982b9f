import Mathlib.Tactic

/-!
# Texts in zero terminated buffers

A buffer that holds a text followed by zeros only, the two bounded string
functions that fill such a buffer from bytes of any kind, and texts with some
characters replaced.
-/
namespace NlsSdk.Library

/-- The text at the start of a buffer: the bytes before the first zero. -/
def textOf (bytes : List UInt8) : List UInt8 := bytes.takeWhile (· ≠ 0)

lemma textOf_plain (bytes : List UInt8) : 0 ∉ textOf bytes := by
  induction bytes with
  | nil => simp [textOf]
  | cons b bytes ih =>
    unfold textOf at ih ⊢
    by_cases nonzero : b ≠ 0
    · rw [List.takeWhile_cons_of_pos (by simpa using nonzero)]
      simpa [Ne.symm nonzero] using ih
    · rw [List.takeWhile_cons_of_neg (by simpa using nonzero)]
      exact List.not_mem_nil

lemma textOf_append_zeros {text : List UInt8} (plain : 0 ∉ text) {zeros : ℕ} (pos : 0 < zeros) :
    textOf (text ++ List.replicate zeros 0) = text := by
  obtain ⟨more, rfl⟩ := Nat.exists_eq_add_of_lt pos
  induction text with
  | nil => simp [textOf, List.replicate_succ]
  | cons b text ih =>
    rw [List.mem_cons, not_or] at plain
    unfold textOf at ih ⊢
    rw [List.cons_append, List.takeWhile_cons_of_pos (by simpa using Ne.symm plain.1), ih plain.2]

lemma textOf_length_le (bytes : List UInt8) : (textOf bytes).length ≤ bytes.length :=
  (List.takeWhile_prefix _).length_le

lemma textOf_length_lt {bytes : List UInt8} (terminated : 0 ∈ bytes) :
    (textOf bytes).length < bytes.length := by
  apply lt_of_le_of_ne (textOf_length_le bytes)
  intro whole
  have front : textOf bytes <+: bytes := List.takeWhile_prefix _
  have plain := textOf_plain bytes
  rw [front.eq_of_length whole] at plain
  exact plain terminated

lemma textOf_take_length_le (bytes : List UInt8) (n : ℕ) : (textOf (bytes.take n)).length ≤ n :=
  (textOf_length_le _).trans (List.length_take_le n bytes)

/-- `strncpy`: the text of the first `n` bytes of the source, filled up to `n` with zeros. -/
def strncpy (dest src : List UInt8) (n : ℕ) : List UInt8 :=
  let copied := textOf (src.take n)
  copied ++ List.replicate (n - copied.length) 0 ++ dest.drop n

/-- `strncat`: the text of the first `n` bytes of the source and a zero, written over the
destination from its first zero on. -/
def strncat (dest src : List UInt8) (n : ℕ) : List UInt8 :=
  let kept := textOf dest
  let added := textOf (src.take n)
  kept ++ added ++ 0 :: dest.drop (kept.length + added.length + 1)

/-- A text, then zeros up to the end, one at least. -/
def Padded (bytes : List UInt8) : Prop :=
  ∃ zeros, 0 < zeros ∧ bytes = textOf bytes ++ List.replicate zeros 0

lemma padded_append_zeros {text : List UInt8} (plain : 0 ∉ text) {zeros : ℕ} (pos : 0 < zeros) :
    Padded (text ++ List.replicate zeros 0) :=
  ⟨zeros, pos, by rw [textOf_append_zeros plain pos]⟩

/-- A buffer that holds a text. -/
structure TextBuffer where
  bytes : List UInt8
  padded : Padded bytes

namespace TextBuffer

def text (b : TextBuffer) : List UInt8 := textOf b.bytes

lemma text_plain (b : TextBuffer) : 0 ∉ b.text := textOf_plain b.bytes

/-- The buffer is its text and zeros up to its size. -/
lemma bytes_eq (b : TextBuffer) : ∃ zeros, 0 < zeros ∧
    b.bytes.length = b.text.length + zeros ∧ b.bytes = b.text ++ List.replicate zeros 0 := by
  obtain ⟨zeros, pos, is⟩ := b.padded
  refine ⟨zeros, pos, ?_, is⟩
  have length := congrArg List.length is
  rwa [List.length_append, List.length_replicate] at length

/-- `strncpy` into a zeroed buffer with one byte to spare. -/
lemma strncpy_zeroed (src : List UInt8) (n : ℕ) :
    strncpy (List.replicate (n + 1) 0) src n =
      textOf (src.take n) ++ List.replicate (n - (textOf (src.take n)).length + 1) 0 := by
  rw [strncpy, List.drop_replicate, List.append_assoc, List.replicate_append_replicate,
    Nat.add_sub_cancel_left]

/-- Fill a zeroed buffer of `n + 1` bytes. -/
def filled (src : List UInt8) (n : ℕ) : TextBuffer where
  bytes := strncpy (List.replicate (n + 1) 0) src n
  padded := by
    rw [strncpy_zeroed]
    exact padded_append_zeros (textOf_plain _) (Nat.succ_pos _)

@[simp] lemma text_filled (src : List UInt8) (n : ℕ) :
    (filled src n).text = textOf (src.take n) := by
  simp only [text, filled, strncpy_zeroed]
  exact textOf_append_zeros (textOf_plain _) (Nat.succ_pos _)

@[simp] lemma length_filled (src : List UInt8) (n : ℕ) : (filled src n).bytes.length = n + 1 := by
  have within := textOf_take_length_le src n
  simp only [filled, strncpy_zeroed, List.length_append, List.length_replicate]
  omega

/-- `strncat` into a buffer that was given `n` zeros more: it stays inside the buffer. -/
lemma strncat_grown (b : TextBuffer) (src : List UInt8) (n : ℕ) : ∃ zeros, 0 < zeros ∧
    b.text.length + (textOf (src.take n)).length + zeros = b.bytes.length + n ∧
    strncat (b.bytes ++ List.replicate n 0) src n =
      b.text ++ textOf (src.take n) ++ List.replicate zeros 0 := by
  have within := textOf_take_length_le src n
  obtain ⟨zeros, pos, length, is⟩ := b.bytes_eq
  have grown : b.bytes ++ List.replicate n 0 = b.text ++ List.replicate (zeros + n) 0 := by
    rw [is, List.append_assoc, List.replicate_append_replicate]
  have kept : textOf (b.bytes ++ List.replicate n 0) = b.text := by
    rw [grown]
    exact textOf_append_zeros b.text_plain (by omega)
  refine ⟨zeros + n - (textOf (src.take n)).length, by omega, by omega, ?_⟩
  simp only [strncat, kept]
  rw [grown, Nat.add_assoc, List.drop_length_add_append, List.drop_replicate, ← List.replicate_succ]
  congr 2
  omega

lemma joined_plain (b : TextBuffer) (src : List UInt8) (n : ℕ) :
    0 ∉ b.text ++ textOf (src.take n) := by
  rw [List.mem_append, not_or]
  exact ⟨b.text_plain, textOf_plain _⟩

/-- Give a buffer `n` zeros more and append. -/
def extended (b : TextBuffer) (src : List UInt8) (n : ℕ) : TextBuffer where
  bytes := strncat (b.bytes ++ List.replicate n 0) src n
  padded := by
    obtain ⟨zeros, pos, -, is⟩ := b.strncat_grown src n
    rw [is]
    exact padded_append_zeros (b.joined_plain src n) pos

@[simp] lemma text_extended (b : TextBuffer) (src : List UInt8) (n : ℕ) :
    (b.extended src n).text = b.text ++ textOf (src.take n) := by
  obtain ⟨zeros, pos, -, is⟩ := b.strncat_grown src n
  change textOf (strncat _ src n) = _
  rw [is]
  exact textOf_append_zeros (b.joined_plain src n) pos

@[simp] lemma length_extended (b : TextBuffer) (src : List UInt8) (n : ℕ) :
    (b.extended src n).bytes.length = b.bytes.length + n := by
  obtain ⟨zeros, -, length, is⟩ := b.strncat_grown src n
  change (strncat _ src n).length = _
  rw [is, List.length_append, List.length_append, List.length_replicate]
  exact length

end TextBuffer

/-! ## Overwritten characters -/

/-- A text with `count` characters from `start` on replaced by one. -/
def overwrite (start count : ℕ) (c : UInt8) (text : List UInt8) : List UInt8 :=
  text.mapIdx fun i b => if start ≤ i ∧ i < start + count then c else b

section Overwrite

variable {text : List UInt8} {start count : ℕ} {c : UInt8}

@[simp] lemma length_overwrite (start count : ℕ) (c : UInt8) (text : List UInt8) :
    (overwrite start count c text).length = text.length := List.length_mapIdx

lemma getElem?_overwrite_inside {i : ℕ} (low : start ≤ i) (high : i < start + count)
    (place : i < text.length) : (overwrite start count c text)[i]? = some c := by
  rw [overwrite, List.getElem?_mapIdx, List.getElem?_eq_getElem place, Option.map_some,
    if_pos ⟨low, high⟩]

lemma getElem?_overwrite_outside {i : ℕ} (outside : ¬(start ≤ i ∧ i < start + count)) :
    (overwrite start count c text)[i]? = text[i]? := by
  rw [overwrite, List.getElem?_mapIdx]
  simp only [if_neg outside]
  exact Option.map_id'

lemma overwrite_zero (start : ℕ) (c : UInt8) (text : List UInt8) :
    overwrite start 0 c text = text := by
  apply List.ext_getElem?
  intro i
  apply getElem?_overwrite_outside
  omega

/-- One character after another. -/
lemma overwrite_set (place : start < text.length) :
    overwrite (start + 1) count c (text.set start c) = overwrite start (count + 1) c text := by
  apply List.ext_getElem?
  intro i
  rw [overwrite, overwrite, List.getElem?_mapIdx, List.getElem?_mapIdx, List.getElem?_set]
  by_cases first : start = i
  · subst first
    rw [if_pos rfl, if_pos place, List.getElem?_eq_getElem place, Option.map_some, Option.map_some]
    simp
  · rw [if_neg first]
    congr 1
    funext b
    congr 1
    rw [eq_iff_iff]
    omega

/-- What stands behind the replaced characters is left. -/
lemma overwrite_append (back : List UInt8) (inside : start + count ≤ text.length) :
    overwrite start count c (text ++ back) = overwrite start count c text ++ back := by
  apply List.ext_getElem?
  intro i
  by_cases front : i < text.length
  · rw [List.getElem?_append_left (by rwa [length_overwrite]), overwrite, overwrite,
      List.getElem?_mapIdx, List.getElem?_mapIdx, List.getElem?_append_left front]
  · rw [List.getElem?_append_right (by rw [length_overwrite]; omega), length_overwrite,
      getElem?_overwrite_outside (by omega), List.getElem?_append_right (by omega)]

lemma overwrite_plain (plain : 0 ∉ text) (shown : c ≠ 0) : 0 ∉ overwrite start count c text := by
  intro there
  obtain ⟨i, place, is⟩ := List.mem_mapIdx.mp there
  split_ifs at is
  · exact shown is
  · exact plain (is ▸ List.getElem_mem place)

end Overwrite

end NlsSdk.Library
