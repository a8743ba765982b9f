import Mathlib.Data.List.TakeWhile
import NlsSdk.Library.TextBuffer

/-!
# Counting the characters of a text

`CharsCalculate` steps over a C string by the sizes that its lead bytes announce.
The length and the index are values of type `int`.
-/
namespace NlsSdk.Utils

open NlsSdk.Library

/-- The bytes of the character that begins with `head`, 0 for a byte that begins none. -/
def utf8Size (head : UInt8) : ℕ :=
  let one_mask := head >>> 7 &&& 0x1
  let two_mask := head >>> 5 &&& 0x7
  let three_mask := head >>> 4 &&& 0xf
  let four_mask := head >>> 3 &&& 0x1f
  let five_mask := head >>> 2 &&& 0x3f
  let six_mask := head >>> 1 &&& 0x7f
  if one_mask = 0 then 1
  else if two_mask = 0x6 then 2
  else if three_mask = 0xe then 3
  else if four_mask = 0x1e then 4
  else if five_mask = 0x3e then 5
  else if six_mask = 0x7e then 6
  else 0

/-- The loop of `CharsCalculate` from the index `i` on. It is `none` if it reads outside of
`memory` or if the index does not fit into an `int`. -/
def charsFrom (memory : List UInt8) (count i ret : ℕ) : Option ℕ :=
  if i < count then
    match memory[i]? with
    | none => none
    | some head =>
      let len := utf8Size head
      if 6 < len ∨ len = 0 then some ret
      else if i + len < 2 ^ 31 then charsFrom memory count (i + len) (ret + 1)
      else none
  else some ret
termination_by count - i
decreasing_by
  omega

/-- `int count = strlen(text)`, none where that is negative. -/
def countOf (text : List UInt8) : ℕ := ((text.length : ℤ).bmod (2 ^ 32)).toNat

/-- A text lies in memory in front of its terminator. -/
def charsCalculate : Option (List UInt8) → Option ℕ
  | none => some 0
  | some bytes => charsFrom (textOf bytes ++ [0]) (countOf (textOf bytes)) 0 0

/-! ## What is expected -/

/-- The UTF-8 form of a text without zero characters. -/
def utf8Encode (chars : List Char) : List UInt8 := chars.flatMap String.utf8EncodeChar

def IsUtf8 (bytes : List UInt8) : Prop := ∃ chars, '\x00' ∉ chars ∧ bytes = utf8Encode chars

/-- The characters of a text and of its parts are counted, and nothing is read behind the end of
any bytes. -/
structure Counted (bytes : List UInt8) : Prop where
  count : ∀ chars, '\x00' ∉ chars → bytes = utf8Encode chars →
    charsCalculate (some bytes) = some chars.length
  additive : ∀ front back, IsUtf8 front → IsUtf8 back → bytes = front ++ back →
    ∃ j k, charsCalculate (some front) = some j ∧ charsCalculate (some back) = some k ∧
      charsCalculate (some bytes) = some (j + k)
  inside : charsCalculate (some bytes) ≠ none

/-- Where the characters end that the lead bytes announce. -/
def announced : List UInt8 → ℕ
  | [] => 0
  | head :: rest =>
    if utf8Size head = 0 then 0 else utf8Size head + announced (rest.drop (utf8Size head - 1))
termination_by bytes => bytes.length
decreasing_by
  simp only [List.length_drop, List.length_cons]
  omega

/-! ## Lead bytes -/

lemma utf8Size_le (head : UInt8) : utf8Size head ≤ 6 := by
  unfold utf8Size
  dsimp only
  split_ifs <;> omega

lemma utf8Size_of_ascii {head : UInt8} (small : head < 128) : utf8Size head = 1 := by
  have sizes : ∀ v : BitVec 8, v < 128#8 → utf8Size ⟨v⟩ = 1 := by decide
  exact sizes head.toBitVec small

lemma utf8Size_two (b : UInt8) : utf8Size (b &&& 0x1f ||| 0xc0) = 2 := by
  have sizes : ∀ v : BitVec 8, utf8Size (⟨v⟩ &&& 0x1f ||| 0xc0) = 2 := by decide
  exact sizes b.toBitVec

lemma utf8Size_three (b : UInt8) : utf8Size (b &&& 0x0f ||| 0xe0) = 3 := by
  have sizes : ∀ v : BitVec 8, utf8Size (⟨v⟩ &&& 0x0f ||| 0xe0) = 3 := by decide
  exact sizes b.toBitVec

lemma utf8Size_four (b : UInt8) : utf8Size (b &&& 0x07 ||| 0xf0) = 4 := by
  have sizes : ∀ v : BitVec 8, utf8Size (⟨v⟩ &&& 0x07 ||| 0xf0) = 4 := by decide
  exact sizes b.toBitVec

/-- The first byte of a character announces its size, and no byte of it ends a C string. -/
theorem utf8EncodeChar_lead {c : Char} (nonzero : c ≠ '\x00') : ∃ head rest,
    String.utf8EncodeChar c = head :: rest ∧ utf8Size head = rest.length + 1 ∧
      0 ∉ String.utf8EncodeChar c := by
  have sizes := Char.utf8Size_eq c
  rcases sizes with one | two | three | four
  · have small : c.val.toNat ≤ 127 := by
      have ascii := Char.utf8Size_eq_one_iff.mp one
      exact UInt32.le_iff_toNat_le.mp ascii
    have value : c.val.toUInt8.toNat = c.val.toNat := by
      rw [UInt32.toNat_toUInt8]
      exact Nat.mod_eq_of_lt (by omega)
    refine ⟨_, _, String.utf8EncodeChar_eq_singleton one, ?_, ?_⟩
    · refine utf8Size_of_ascii (UInt8.lt_iff_toNat_lt.mpr ?_)
      rw [value]
      exact Nat.lt_succ_of_le small
    · rw [String.utf8EncodeChar_eq_singleton one, List.mem_singleton]
      intro zero
      have none_ := congrArg UInt8.toNat zero
      rw [value] at none_
      exact nonzero (Char.ext (UInt32.toNat_inj.mp none_.symm))
  · refine ⟨_, _, String.utf8EncodeChar_eq_cons_cons two, utf8Size_two _, ?_⟩
    rw [String.utf8EncodeChar_eq_cons_cons two]
    simp [@eq_comm UInt8 0]
  · refine ⟨_, _, String.utf8EncodeChar_eq_cons_cons_cons three, utf8Size_three _, ?_⟩
    rw [String.utf8EncodeChar_eq_cons_cons_cons three]
    simp [@eq_comm UInt8 0]
  · refine ⟨_, _, String.utf8EncodeChar_eq_cons_cons_cons_cons four, utf8Size_four _, ?_⟩
    rw [String.utf8EncodeChar_eq_cons_cons_cons_cons four]
    simp [@eq_comm UInt8 0]

/-! ## The steps of the loop -/

lemma charsFrom_done {memory : List UInt8} {count i ret : ℕ} (past : count ≤ i) :
    charsFrom memory count i ret = some ret := by
  rw [charsFrom, if_neg (by omega)]

lemma charsFrom_step {memory : List UInt8} {count i ret : ℕ} {head : UInt8} (inside : i < count)
    (there : memory[i]? = some head) (lead : utf8Size head ≠ 0)
    (fits : i + utf8Size head < 2 ^ 31) :
    charsFrom memory count i ret = charsFrom memory count (i + utf8Size head) (ret + 1) := by
  have small := utf8Size_le head
  rw [charsFrom, if_pos inside, there]
  dsimp only
  rw [if_neg (by omega), if_pos fits]

lemma announced_cons (head : UInt8) (rest : List UInt8) :
    announced (head :: rest) = if utf8Size head = 0 then 0
      else utf8Size head + announced (rest.drop (utf8Size head - 1)) := by
  rw [announced]

/-- The loop leaves the defined behaviour exactly when the characters announced end too far. -/
lemma charsFrom_ne_none (text : List UInt8) {count : ℕ} (within : count ≤ text.length)
    (small : count < 2 ^ 31) (i ret : ℕ) (inside : i < 2 ^ 31) :
    charsFrom (text ++ [0]) count i ret ≠ none ↔
      i + announced ((text.take count).drop i) < 2 ^ 31 := by
  by_cases past : count ≤ i
  · rw [charsFrom_done past, List.drop_of_length_le (by rw [List.length_take]; omega), announced]
    exact ⟨fun _ => inside, fun _ => Option.some_ne_none ret⟩
  · have bound : i < text.length := by omega
    have there : (text ++ [0])[i]? = some text[i] := by
      rw [List.getElem?_append_left bound, List.getElem?_eq_getElem bound]
    have split : (text.take count).drop i = text[i] :: (text.take count).drop (i + 1) := by
      rw [List.drop_eq_getElem_cons (by rw [List.length_take]; omega), List.getElem_take]
    have later : ((text.take count).drop (i + 1)).drop (utf8Size text[i] - 1) =
        (text.take count).drop (i + 1 + (utf8Size text[i] - 1)) := List.drop_drop
    rw [split, announced_cons, later]
    by_cases lead : utf8Size text[i] = 0
    · rw [if_pos lead, charsFrom, if_pos (by omega), there]
      dsimp only
      rw [if_pos (.inr lead)]
      exact ⟨fun _ => inside, fun _ => Option.some_ne_none ret⟩
    · have index : i + 1 + (utf8Size text[i] - 1) = i + utf8Size text[i] := by omega
      rw [if_neg lead, index]
      by_cases fits : i + utf8Size text[i] < 2 ^ 31
      · rw [charsFrom_step (by omega) there lead fits,
          charsFrom_ne_none text within small (i + utf8Size text[i]) (ret + 1) fits]
        omega
      · have size := utf8Size_le text[i]
        rw [charsFrom, if_pos (by omega), there]
        dsimp only
        rw [if_neg (by omega), if_neg fits]
        simp only [ne_eq, not_true_eq_false, false_iff]
        omega
termination_by count - i

/-! ## Well-formed texts -/

lemma utf8Encode_cons (c : Char) (chars : List Char) :
    utf8Encode (c :: chars) = String.utf8EncodeChar c ++ utf8Encode chars := rfl

lemma utf8Encode_append (front back : List Char) :
    utf8Encode (front ++ back) = utf8Encode front ++ utf8Encode back := List.flatMap_append

lemma textOf_utf8Encode {chars : List Char} (nonzero : '\x00' ∉ chars) :
    textOf (utf8Encode chars) = utf8Encode chars := by
  unfold textOf
  rw [List.takeWhile_eq_self_iff]
  intro b there
  obtain ⟨c, is, there⟩ := List.mem_flatMap.mp there
  have other : c ≠ '\x00' := fun same => nonzero (same ▸ is)
  obtain ⟨-, -, -, -, plain⟩ := utf8EncodeChar_lead other
  rw [decide_eq_true_iff]
  rintro rfl
  exact plain there

/-- What the loop does at the first byte of a character. -/
lemma charsFrom_char {front rest : List UInt8} {c : Char} (nonzero : c ≠ '\x00') {count ret : ℕ}
    (inside : front.length < count)
    (fits : front.length + (String.utf8EncodeChar c).length < 2 ^ 31) :
    charsFrom (front ++ (String.utf8EncodeChar c ++ rest)) count front.length ret =
      charsFrom (front ++ (String.utf8EncodeChar c ++ rest)) count
        (front ++ String.utf8EncodeChar c).length (ret + 1) := by
  obtain ⟨head, tail, is, size, -⟩ := utf8EncodeChar_lead nonzero
  have length : (String.utf8EncodeChar c).length = utf8Size head := by
    rw [is, size, List.length_cons]
  have there : (front ++ (String.utf8EncodeChar c ++ rest))[front.length]? = some head := by
    rw [is, List.getElem?_append_right le_rfl, Nat.sub_self]
    rfl
  rw [charsFrom_step inside there (by omega) (length ▸ fits), List.length_append, length]

/-- A text whose length is an `int` is counted to its end. -/
lemma charsFrom_utf8Encode {chars : List Char} (nonzero : '\x00' ∉ chars) (front : List UInt8)
    {count : ℕ} (whole : count = (front ++ utf8Encode chars).length) (small : count < 2 ^ 31)
    (ret : ℕ) : charsFrom (front ++ (utf8Encode chars ++ [0])) count front.length ret =
      some (ret + chars.length) := by
  induction chars generalizing front ret with
  | nil => exact charsFrom_done (by simp [whole, utf8Encode])
  | cons c chars ih =>
    obtain ⟨other, nonzero⟩ := not_or.mp (List.mem_cons.not.mp nonzero)
    obtain ⟨head, tail, is, -, -⟩ := utf8EncodeChar_lead (Ne.symm other)
    have length : 0 < (String.utf8EncodeChar c).length := by simp [is]
    rw [utf8Encode_cons, List.length_append, List.length_append] at whole
    rw [utf8Encode_cons, List.append_assoc, charsFrom_char (Ne.symm other) (by omega) (by omega)]
    have rest := ih nonzero (front ++ String.utf8EncodeChar c)
      (by rw [List.append_assoc, List.length_append, List.length_append]; exact whole) (ret + 1)
    rw [List.append_assoc] at rest
    rw [rest, List.length_cons]
    congr 1
    omega

/-- A count that ends inside of a text leaves characters out. -/
lemma charsFrom_cut {chars : List Char} (nonzero : '\x00' ∉ chars) (front : List UInt8)
    {count ret k : ℕ} (cut : count + 6 < (front ++ utf8Encode chars).length)
    (before : front.length ≤ count + 6)
    (counted : charsFrom (front ++ (utf8Encode chars ++ [0])) count front.length ret = some k) :
    k < ret + chars.length := by
  induction chars generalizing front ret with
  | nil =>
    simp only [utf8Encode, List.flatMap_nil, List.append_nil] at cut
    omega
  | cons c chars ih =>
    obtain ⟨other, nonzero⟩ := not_or.mp (List.mem_cons.not.mp nonzero)
    by_cases inside : front.length < count
    · obtain ⟨head, tail, is, size, -⟩ := utf8EncodeChar_lead (Ne.symm other)
      have small := utf8Size_le head
      have length : (String.utf8EncodeChar c).length = utf8Size head := by
        rw [is, size, List.length_cons]
      rw [utf8Encode_cons, List.append_assoc] at counted
      by_cases fits : front.length + (String.utf8EncodeChar c).length < 2 ^ 31
      · rw [charsFrom_char (Ne.symm other) inside fits, ← List.append_assoc] at counted
        have fewer := ih nonzero (front ++ String.utf8EncodeChar c)
          (by rw [List.append_assoc]; exact cut) (by rw [List.length_append]; omega) counted
        rw [List.length_cons]
        omega
      · have there : (front ++ (String.utf8EncodeChar c ++ (utf8Encode chars ++ [0])))[front.length]? =
            some head := by
          rw [is, List.getElem?_append_right le_rfl, Nat.sub_self]
          rfl
        rw [charsFrom, if_pos inside, there] at counted
        dsimp only at counted
        rw [if_neg (by omega), if_neg (length ▸ fits)] at counted
        cases counted
    · rw [charsFrom_done (by omega)] at counted
      obtain rfl := Option.some.inj counted
      rw [List.length_cons]
      omega

/-! ## Lengths of type int -/

lemma countOf_small {text : List UInt8} (small : text.length < 2 ^ 31) :
    countOf text = text.length := by
  unfold countOf
  rw [Int.bmod_def]
  split <;> omega

lemma countOf_le (text : List UInt8) : countOf text ≤ text.length ∧ countOf text < 2 ^ 31 := by
  unfold countOf
  rw [Int.bmod_def]
  split <;> omega

lemma countOf_large {text : List UInt8} (large : 2 ^ 31 ≤ text.length) :
    countOf text + 2 ^ 31 ≤ text.length := by
  unfold countOf
  rw [Int.bmod_def]
  split <;> omega

lemma charsCalculate_ne_none (bytes : List UInt8) : charsCalculate (some bytes) ≠ none ↔
    announced ((textOf bytes).take (countOf (textOf bytes))) < 2 ^ 31 := by
  obtain ⟨within, small⟩ := countOf_le (textOf bytes)
  have defined := charsFrom_ne_none (textOf bytes) within small 0 0 (by omega)
  rwa [Nat.zero_add, List.drop_zero] at defined

lemma charsCalculate_utf8Encode {chars : List Char} (nonzero : '\x00' ∉ chars)
    (small : (utf8Encode chars).length < 2 ^ 31) :
    charsCalculate (some (utf8Encode chars)) = some chars.length := by
  have counted := @charsFrom_utf8Encode chars nonzero [] (countOf (utf8Encode chars))
    (countOf_small small) (countOf_le _).2 0
  rw [Nat.zero_add] at counted
  rw [charsCalculate, textOf_utf8Encode nonzero]
  exact counted

lemma charsCalculate_large {chars : List Char} (nonzero : '\x00' ∉ chars)
    (large : 2 ^ 31 ≤ (utf8Encode chars).length) :
    charsCalculate (some (utf8Encode chars)) ≠ some chars.length := by
  intro counted
  rw [charsCalculate, textOf_utf8Encode nonzero] at counted
  have cut := countOf_large large
  have fewer := @charsFrom_cut chars nonzero [] (countOf (utf8Encode chars)) 0 _
    (by rw [List.nil_append]; omega) (Nat.zero_le _) counted
  omega

/-- The characters of any bytes are counted rightly exactly when a well-formed text is shorter than
2 GiB and the characters announced end within 2 GiB. -/
theorem counted_iff (bytes : List UInt8) : Counted bytes ↔
    (IsUtf8 bytes → bytes.length < 2 ^ 31) ∧
      announced ((textOf bytes).take (countOf (textOf bytes))) < 2 ^ 31 := by
  rw [← charsCalculate_ne_none]
  constructor
  · rintro ⟨count, -, inside⟩
    refine ⟨?_, inside⟩
    rintro ⟨chars, nonzero, rfl⟩
    by_contra large
    exact charsCalculate_large nonzero (by omega) (count chars nonzero rfl)
  · rintro ⟨short, inside⟩
    refine ⟨?_, ?_, inside⟩
    · rintro chars nonzero rfl
      exact charsCalculate_utf8Encode nonzero (short ⟨chars, nonzero, rfl⟩)
    · rintro front back ⟨cs, plain, rfl⟩ ⟨ds, plain', rfl⟩ rfl
      have nonzero : '\x00' ∉ cs ++ ds := by
        rw [List.mem_append, not_or]
        exact ⟨plain, plain'⟩
      rw [← utf8Encode_append] at short ⊢
      have total := short ⟨_, nonzero, rfl⟩
      have lengths := congrArg List.length (utf8Encode_append cs ds)
      rw [List.length_append] at lengths
      refine ⟨cs.length, ds.length, charsCalculate_utf8Encode plain (by omega),
        charsCalculate_utf8Encode plain' (by omega), ?_⟩
      rw [charsCalculate_utf8Encode nonzero total, List.length_append]

lemma letters_length (n : ℕ) : (utf8Encode (List.replicate n 'a')).length = n := by
  induction n with
  | zero => rfl
  | succ n ih =>
    rw [List.replicate_succ, utf8Encode_cons, List.length_append, ih, Nat.add_comm]
    rfl

lemma letters_nonzero (n : ℕ) : '\x00' ∉ List.replicate n 'a' := by
  intro there
  exact absurd (List.eq_of_mem_replicate there) (by decide)

lemma uncounted {chars : List Char} (nonzero : '\x00' ∉ chars)
    (length : (utf8Encode chars).length = 2 ^ 31) :
    ¬Counted (utf8Encode chars) ∧ charsCalculate (some (utf8Encode chars)) = some 0 := by
  constructor
  · intro counted
    exact charsCalculate_large nonzero length.ge (counted.count chars nonzero rfl)
  · have none_ : countOf (utf8Encode chars) = 0 := by
      unfold countOf
      rw [Int.bmod_def]
      split <;> omega
    rw [charsCalculate, textOf_utf8Encode nonzero, none_, charsFrom_done le_rfl]

/-- Of 2 GiB of letters none is counted. -/
theorem large_text_uncounted : ¬Counted (utf8Encode (List.replicate (2 ^ 31) 'a')) ∧
    charsCalculate (some (utf8Encode (List.replicate (2 ^ 31) 'a'))) = some 0 :=
  uncounted (letters_nonzero (2 ^ 31)) (letters_length (2 ^ 31))

end NlsSdk.Utils
