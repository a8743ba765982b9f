import Mathlib.Tactic

/-!
# Parameters of a URL

Percent-encoding with the unreserved characters of RFC 3986, and the form of
parameters that a query string and a form body share: fields with `&` between them,
each a name, `=` and an encoded value.
-/
namespace NlsSdk.Library.FormUrl

/-- The bytes that are not encoded: letters, digits and `-._~`. -/
def unreserved (b : UInt8) : Bool :=
  (48 ≤ b && b ≤ 57) || (65 ≤ b && b ≤ 90) || (97 ≤ b && b ≤ 122) ||
    b = 45 || b = 46 || b = 95 || b = 126

/-- Hexadecimal digits in upper case. -/
def hexDigit (n : ℕ) : UInt8 := if n < 10 then UInt8.ofNat (48 + n) else UInt8.ofNat (55 + n)

def encodeByte (b : UInt8) : List UInt8 :=
  if unreserved b then [b] else [37, hexDigit (b.toNat / 16), hexDigit (b.toNat % 16)]

def percentEncode (bytes : List UInt8) : List UInt8 := bytes.flatMap encodeByte

def hexValue (b : UInt8) : Option ℕ :=
  if 48 ≤ b ∧ b ≤ 57 then some (b.toNat - 48)
  else if 65 ≤ b ∧ b ≤ 70 then some (b.toNat - 55)
  else if 97 ≤ b ∧ b ≤ 102 then some (b.toNat - 87)
  else none

/-- A percent sign that two hexadecimal digits do not follow stands for itself. -/
def percentDecode : List UInt8 → List UInt8
  | [] => []
  | [b] => [b]
  | [b, c] => [b, c]
  | b :: high :: low :: rest =>
    if b = 37 then
      match hexValue high, hexValue low with
      | some h, some l => UInt8.ofNat (16 * h + l) :: percentDecode rest
      | _, _ => b :: percentDecode (high :: low :: rest)
    else b :: percentDecode (high :: low :: rest)

/-- In a form a plus sign stands for a blank. -/
def decodeText (text : List UInt8) : List UInt8 :=
  percentDecode (text.map fun b => if b = 43 then 32 else b)

/-- A field is read up to its first equals sign. -/
def decodeField (field : List UInt8) : List UInt8 × List UInt8 :=
  (decodeText (field.takeWhile (· ≠ 61)), decodeText ((field.dropWhile (· ≠ 61)).drop 1))

def decodeForm (form : List UInt8) : List (List UInt8 × List UInt8) :=
  ((form.splitOn 38).filter (· ≠ [])).map decodeField

/-! ## Reading back what was encoded -/

lemma hexValue_hexDigit {n : ℕ} (small : n < 16) : hexValue (hexDigit n) = some n := by
  interval_cases n <;> rfl

lemma hexDigit_plain {n : ℕ} (small : n < 16) : unreserved (hexDigit n) = true := by
  interval_cases n <;> rfl

lemma unreserved_ne {b c : UInt8} (plain : unreserved b = true) (special : unreserved c = false) :
    b ≠ c := by
  rintro rfl
  rw [plain] at special
  exact Bool.noConfusion special

lemma percentDecode_cons {b : UInt8} (other : b ≠ 37) (rest : List UInt8) :
    percentDecode (b :: rest) = b :: percentDecode rest := by
  match rest with
  | [] => rfl
  | [_] => rfl
  | _ :: _ :: _ => rw [percentDecode, if_neg other]

lemma percentDecode_encodeByte (b : UInt8) (rest : List UInt8) :
    percentDecode (encodeByte b ++ rest) = b :: percentDecode rest := by
  unfold encodeByte
  split
  · next plain => exact percentDecode_cons (unreserved_ne plain rfl) rest
  · have bound : b.toNat < 256 := b.toNat_lt
    simp only [List.cons_append, List.nil_append, percentDecode, if_true,
      hexValue_hexDigit (show b.toNat / 16 < 16 by omega),
      hexValue_hexDigit (show b.toNat % 16 < 16 by omega)]
    rw [Nat.div_add_mod, UInt8.ofNat_toNat]

theorem percentDecode_percentEncode (bytes : List UInt8) :
    percentDecode (percentEncode bytes) = bytes := by
  induction bytes with
  | nil => rfl
  | cons b bytes ih =>
    rw [percentEncode, List.flatMap_cons, percentDecode_encodeByte]
    exact congrArg _ ih

/-- An encoded text has unreserved characters and percent signs only. -/
lemma mem_percentEncode {bytes : List UInt8} {b : UInt8} (among : b ∈ percentEncode bytes) :
    unreserved b = true ∨ b = 37 := by
  obtain ⟨c, -, within⟩ := List.mem_flatMap.mp among
  have bound : c.toNat < 256 := c.toNat_lt
  unfold encodeByte at within
  split at within
  · next plain =>
    rw [List.mem_singleton.mp within]
    exact .inl plain
  · rcases List.mem_cons.mp within with rfl | within
    · exact .inr rfl
    rcases List.mem_cons.mp within with rfl | within
    · exact .inl (hexDigit_plain (by omega))
    · rw [List.mem_singleton.mp within]
      exact .inl (hexDigit_plain (by omega))

lemma not_mem_percentEncode {b : UInt8} (special : unreserved b = false) (other : b ≠ 37)
    (bytes : List UInt8) : b ∉ percentEncode bytes := by
  intro among
  rcases mem_percentEncode among with plain | is
  · exact unreserved_ne plain special rfl
  · exact other is

/-- A text without plus signs is only percent-decoded. -/
lemma decodeText_eq {text : List UInt8} (off : 43 ∉ text) : decodeText text = percentDecode text := by
  rw [decodeText]
  congr 1
  refine (List.map_congr_left fun b among => if_neg ?_).trans (List.map_id text)
  rintro rfl
  exact off among

/-! ## Forms -/

/-- Fields with `&` between them. -/
def joinFields (fields : List (List UInt8)) : List UInt8 := (fields.flatMap fun f => 38 :: f).drop 1

lemma joinFields_eq (fields : List (List UInt8)) : joinFields fields = [38].intercalate fields := by
  cases fields with
  | nil => rfl
  | cons first rest =>
    rw [joinFields, List.flatMap_cons, List.cons_append, List.drop_succ_cons, List.drop_zero]
    induction rest generalizing first with
    | nil => simp [List.intercalate]
    | cons next rest ih => rw [List.intercalate_cons_cons, ← ih, List.flatMap_cons]; simp

/-- Reading joined fields reads every one of them. -/
theorem decodeForm_joinFields {fields : List (List UInt8)}
    (whole : ∀ field ∈ fields, 38 ∉ field ∧ field ≠ []) :
    decodeForm (joinFields fields) = fields.map decodeField := by
  by_cases none : fields = []
  · subst none
    rfl
  have split : (joinFields fields).splitOn 38 = fields := by
    rw [joinFields_eq]
    exact List.splitOn_intercalate 38 (fun field among => (whole field among).1) none
  rw [decodeForm, split, List.filter_eq_self.mpr fun field among =>
    decide_eq_true (whole field among).2]

theorem decodeField_append {name value : List UInt8} (off : 61 ∉ name) :
    decodeField (name ++ 61 :: value) = (decodeText name, decodeText value) := by
  have before : ∀ b ∈ name, decide (b ≠ 61) = true := fun b among =>
    decide_eq_true fun is => off (is ▸ among)
  have taken : (name ++ 61 :: value).takeWhile (· ≠ 61) = name := by
    rw [List.takeWhile_append_of_pos before]
    simp
  have dropped : (name ++ 61 :: value).dropWhile (· ≠ 61) = 61 :: value := by
    rw [List.dropWhile_append_of_pos before]
    simp
  rw [decodeField, taken, dropped]
  rfl

lemma decodeText_percentEncode (bytes : List UInt8) : decodeText (percentEncode bytes) = bytes := by
  rw [decodeText_eq (not_mem_percentEncode rfl (by decide) _), percentDecode_percentEncode]

/-- A text of unreserved characters is its own encoding. -/
lemma percentEncode_plain {text : List UInt8} (plain : text.all unreserved = true) :
    percentEncode text = text := by
  rw [List.all_eq_true] at plain
  induction text with
  | nil => rfl
  | cons b text ih =>
    rw [percentEncode, List.flatMap_cons, encodeByte, if_pos (plain b List.mem_cons_self)]
    exact congrArg _ (ih fun c among => plain c (List.mem_cons_of_mem _ among))

/-- One field with name and value encoded. -/
def encodeField (member : List UInt8 × List UInt8) : List UInt8 :=
  percentEncode member.1 ++ 61 :: percentEncode member.2

/-- Reading a form back gives the parameters it was made of, in their order. -/
theorem decodeForm_encodeFields (members : List (List UInt8 × List UInt8)) :
    decodeForm (joinFields (members.map encodeField)) = members := by
  have whole : ∀ field ∈ members.map encodeField, 38 ∉ field ∧ field ≠ [] := by
    intro field among
    obtain ⟨member, -, rfl⟩ := List.mem_map.mp among
    refine ⟨?_, by simp [encodeField]⟩
    rw [encodeField, List.mem_append, List.mem_cons, not_or, not_or]
    exact ⟨not_mem_percentEncode rfl (by decide) _, by decide,
      not_mem_percentEncode rfl (by decide) _⟩
  have read : ∀ member, decodeField (encodeField member) = member := by
    intro member
    rw [encodeField, decodeField_append (not_mem_percentEncode rfl (by decide) _),
      decodeText_percentEncode, decodeText_percentEncode]
  rw [decodeForm_joinFields whole, List.map_map]
  exact (List.map_congr_left fun member _ => read member).trans (List.map_id members)

end NlsSdk.Library.FormUrl
