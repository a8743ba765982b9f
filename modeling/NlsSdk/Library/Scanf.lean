import Mathlib.Tactic
import Mathlib.Data.Nat.Digits.Defs
import Mathlib.Data.List.TakeWhile

/-!
# Formatted input and output

`scan` reads a text by a format of literals, scan sets, words and decimal
numbers. It stores each field as soon as it is read and stops at the first
directive that does not match, as `sscanf` does. `printf` writes texts and
numbers in the places that a format has for them.
-/
namespace NlsSdk.Library.Scanf

/-- `isspace`. -/
def isSpace (b : UInt8) : Bool := b = 32 || (9 ≤ b && b ≤ 13)

/-- `isdigit`. -/
def isDigit (b : UInt8) : Bool := 48 ≤ b && b ≤ 57

/-- One directive; a field is put into the destination by `store`. -/
inductive Directive (σ : Type*)
  | literal (byte : UInt8)
  /-- `%w[...]` -/
  | scanset (width : ℕ) (accepts : UInt8 → Bool) (store : σ → List UInt8 → σ)
  /-- `%ws` -/
  | word (width : ℕ) (store : σ → List UInt8 → σ)
  /-- `%d` -/
  | decimal (store : σ → ℤ → σ)

/-- The number that digits are read as. -/
def value (digits : List UInt8) : ℕ := digits.foldl (fun n b => n * 10 + (b.toNat - 48)) 0

/-- Digits in front, behind a sign. -/
def readDigits (negative : Bool) (input : List UInt8) : Option (ℤ × List UInt8) :=
  let digits := input.takeWhile isDigit
  if digits = [] then none
  else some (if negative then -(value digits : ℤ) else value digits, input.drop digits.length)

/-- A number in front, behind blanks and a sign. -/
def readInt (input : List UInt8) : Option (ℤ × List UInt8) :=
  match input.dropWhile isSpace with
  | 45 :: rest => readDigits true rest
  | 43 :: rest => readDigits false rest
  | rest => readDigits false rest

/-- The destination after the scan, and the number of fields that were stored. -/
def scan {σ : Type*} : List (Directive σ) → List UInt8 → σ → ℕ → σ × ℕ
  | [], _, s, count => (s, count)
  | .literal byte :: ds, input, s, count =>
    if input.head? = some byte then scan ds input.tail s count else (s, count)
  | .scanset width accepts store :: ds, input, s, count =>
    let field := (input.take width).takeWhile accepts
    if field = [] then (s, count)
    else scan ds (input.drop field.length) (store s field) (count + 1)
  | .word width store :: ds, input, s, count =>
    let input := input.dropWhile isSpace
    let field := (input.take width).takeWhile fun b => !isSpace b
    if field = [] then (s, count)
    else scan ds (input.drop field.length) (store s field) (count + 1)
  | .decimal store :: ds, input, s, count =>
    match readInt input with
    | none => (s, count)
    | some (number, rest) => scan ds rest (store s number) (count + 1)

/-! ## Printed numbers -/

/-- `%d` of a number that is not negative. -/
def natDecimal (n : ℕ) : List UInt8 :=
  if n = 0 then [48] else (Nat.digits 10 n).reverse.map fun d => UInt8.ofNat (48 + d)

/-- `%d`. -/
def intDecimal (n : ℤ) : List UInt8 :=
  if n < 0 then 45 :: natDecimal n.natAbs else natDecimal n.natAbs

inductive Arg
  | text (bytes : List UInt8)
  | int (n : ℤ)

/-- `%s` and `%d` take the next argument. -/
def printf : List UInt8 → List Arg → List UInt8
  | [], _ => []
  | 37 :: 115 :: format, .text bytes :: args => bytes ++ printf format args
  | 37 :: 100 :: format, .int n :: args => intDecimal n ++ printf format args
  | b :: format, args => b :: printf format args

lemma digit_of_lt {d : ℕ} (small : d < 10) :
    isDigit (UInt8.ofNat (48 + d)) = true ∧ (UInt8.ofNat (48 + d)).toNat = 48 + d := by
  interval_cases d <;> exact ⟨rfl, rfl⟩

lemma natDecimal_digits (n : ℕ) : ∀ b ∈ natDecimal n, isDigit b = true := by
  intro b is
  unfold natDecimal at is
  split at is
  · rw [List.mem_singleton.mp is]
    rfl
  · obtain ⟨d, there, rfl⟩ := List.mem_map.mp is
    have small : d < 10 := Nat.digits_lt_base (by norm_num) (List.mem_reverse.mp there)
    exact (digit_of_lt small).1

lemma natDecimal_ne_nil (n : ℕ) : natDecimal n ≠ [] := by
  unfold natDecimal
  split
  · simp
  · rename_i some_
    simpa [Nat.digits_ne_nil_iff_ne_zero] using some_

lemma value_natDecimal (n : ℕ) : value (natDecimal n) = n := by
  have digits : ∀ ds : List ℕ, (∀ d ∈ ds, d < 10) →
      value (ds.reverse.map fun d => UInt8.ofNat (48 + d)) = Nat.ofDigits 10 ds := by
    intro ds
    induction ds with
    | nil => simp [value]
    | cons d ds ih =>
      intro small
      have rest := ih fun d is => small d (by simp [is])
      unfold value at rest ⊢
      rw [List.reverse_cons, List.map_append, List.foldl_append, rest, Nat.ofDigits_cons]
      simp only [List.map_cons, List.map_nil, List.foldl_cons, List.foldl_nil,
        (digit_of_lt (small d (by simp))).2]
      omega
  unfold natDecimal
  split
  · rename_i zero
    rw [zero]
    rfl
  · rw [digits _ fun d is => Nat.digits_lt_base (by norm_num) is, Nat.ofDigits_digits]

/-! ## What a directive reads -/

section Rules

variable {σ : Type*} {ds : List (Directive σ)} {s : σ} {count width : ℕ}
  {field rest input : List UInt8}

/-- Nothing that the test accepts follows. -/
def Stops (accepts : UInt8 → Bool) (rest : List UInt8) : Prop :=
  ∀ b, rest.head? = some b → accepts b = false

lemma takeWhile_stops {accepts : UInt8 → Bool} (all : ∀ b ∈ field, accepts b = true)
    (stops : Stops accepts rest) : (field ++ rest).takeWhile accepts = field := by
  rw [List.takeWhile_append_of_pos all]
  have none_ : rest.takeWhile accepts = [] := by
    cases rest with
    | nil => rfl
    | cons b rest => simp [stops b rfl]
  rw [none_, List.append_nil]

/-- A field that fits is read whole. -/
lemma take_field {accepts : UInt8 → Bool} (all : ∀ b ∈ field, accepts b = true)
    (fits : field.length ≤ width) (stops : Stops accepts rest) :
    ((field ++ rest).take width).takeWhile accepts = field := by
  rw [List.take_append, List.take_of_length_le fits]
  refine takeWhile_stops all ?_
  intro b is
  cases rest with
  | nil => simp at is
  | cons c rest =>
    cases room : width - field.length with
    | zero => simp [room] at is
    | succ k =>
      rw [room, List.take_succ_cons, List.head?_cons, Option.some.injEq] at is
      rw [← is]
      exact stops c rfl

lemma scan_scanset {accepts : UInt8 → Bool} {store : σ → List UInt8 → σ} (some_ : field ≠ [])
    (all : ∀ b ∈ field, accepts b = true) (fits : field.length ≤ width)
    (stops : Stops accepts rest) :
    scan (.scanset width accepts store :: ds) (field ++ rest) s count =
      scan ds rest (store s field) (count + 1) := by
  rw [scan, take_field all fits stops, if_neg some_, List.drop_left]

/-- A field of the whole width is read whatever follows. -/
lemma scan_scanset_full {accepts : UInt8 → Bool} {store : σ → List UInt8 → σ} (some_ : field ≠ [])
    (all : ∀ b ∈ field, accepts b = true) (full : field.length = width) :
    scan (.scanset width accepts store :: ds) (field ++ rest) s count =
      scan ds rest (store s field) (count + 1) := by
  have read : ((field ++ rest).take width).takeWhile accepts = field := by
    rw [← full, List.take_left, List.takeWhile_eq_self_iff]
    exact all
  rw [scan, read, if_neg some_, List.drop_left]

/-- What is read of any input that has a field in front. -/
lemma scan_scanset_some {accepts : UInt8 → Bool} {store : σ → List UInt8 → σ}
    (is : (input.take width).takeWhile accepts = field) (some_ : field ≠ []) :
    scan (.scanset width accepts store :: ds) input s count =
      scan ds (input.drop field.length) (store s field) (count + 1) := by
  rw [scan, is, if_neg some_]

lemma scan_word_some {store : σ → List UInt8 → σ}
    (is : ((input.dropWhile isSpace).take width).takeWhile (fun b => !isSpace b) = field)
    (some_ : field ≠ []) :
    scan (.word width store :: ds) input s count =
      scan ds ((input.dropWhile isSpace).drop field.length) (store s field) (count + 1) := by
  rw [scan, is, if_neg some_]

lemma scan_word_none {store : σ → List UInt8 → σ}
    (is : ((input.dropWhile isSpace).take width).takeWhile (fun b => !isSpace b) = []) :
    scan (.word width store :: ds) input s count = (s, count) := by
  rw [scan, is, if_pos rfl]

lemma scan_scanset_none {accepts : UInt8 → Bool} {store : σ → List UInt8 → σ}
    (stops : Stops accepts input) :
    scan (.scanset width accepts store :: ds) input s count = (s, count) := by
  have read : (input.take width).takeWhile accepts = [] := by
    cases input with
    | nil => rw [List.take_nil, List.takeWhile_nil]
    | cons b rest =>
      cases width with
      | zero => rfl
      | succ k =>
        rw [List.take_succ_cons, List.takeWhile_cons, stops b rfl]
        rfl
  rw [scan, read, if_pos rfl]

lemma scan_word {store : σ → List UInt8 → σ} (some_ : field ≠ [])
    (all : ∀ b ∈ field, isSpace b = false) (fits : field.length ≤ width)
    (stops : Stops (fun b => !isSpace b) rest) :
    scan (.word width store :: ds) (field ++ rest) s count =
      scan ds rest (store s field) (count + 1) := by
  have start : (field ++ rest).dropWhile isSpace = field ++ rest := by
    obtain ⟨b, bytes, rfl⟩ := List.exists_cons_of_ne_nil some_
    simp [all b (by simp)]
  rw [scan, start, take_field (fun b is => by simp [all b is]) fits stops, if_neg some_, List.drop_left]

lemma digit_start {b : UInt8} (digit : isDigit b = true) :
    isSpace b = false ∧ b ≠ 45 ∧ b ≠ 43 := by
  simp only [isDigit, Bool.and_eq_true, decide_eq_true_eq, UInt8.le_iff_toNat_le] at digit
  have low : 48 ≤ b.toNat := digit.1
  refine ⟨?_, ?_, ?_⟩
  · simp only [isSpace, Bool.or_eq_false_iff, Bool.and_eq_false_iff, decide_eq_false_iff_not,
      UInt8.le_iff_toNat_le, ← UInt8.toNat_inj]
    have : (32 : UInt8).toNat = 32 := rfl
    have : (13 : UInt8).toNat = 13 := rfl
    omega
  · rintro rfl
    exact absurd low (by decide)
  · rintro rfl
    exact absurd low (by decide)

/-- Digits in front are a number without a sign. -/
lemma readInt_digits {b : UInt8} (digit : isDigit b = true) :
    readInt (b :: rest) = readDigits false (b :: rest) := by
  obtain ⟨space, minus, plus⟩ := digit_start digit
  have start : (b :: rest).dropWhile isSpace = b :: rest := by simp [space]
  rw [readInt, start]
  split
  · rename_i same
    exact absurd (List.cons.inj same).1 minus
  · rename_i same
    exact absurd (List.cons.inj same).1 plus
  · rfl

/-- A printed number is read back. -/
lemma readInt_intDecimal (n : ℤ) (stops : Stops isDigit rest) :
    readInt (intDecimal n ++ rest) = some (n, rest) := by
  have digits : ∀ negative, readDigits negative (natDecimal n.natAbs ++ rest) =
      some (if negative then -(n.natAbs : ℤ) else n.natAbs, rest) := by
    intro negative
    unfold readDigits
    dsimp only
    rw [takeWhile_stops (natDecimal_digits _) stops, if_neg (natDecimal_ne_nil _),
      value_natDecimal, List.drop_left]
  by_cases negative : n < 0
  · rw [intDecimal, if_pos negative]
    refine (digits true).trans ?_
    rw [if_pos rfl]
    congr 2
    omega
  · rw [intDecimal, if_neg negative]
    obtain ⟨b, bytes, is⟩ := List.exists_cons_of_ne_nil (natDecimal_ne_nil n.natAbs)
    have digit : isDigit b = true := natDecimal_digits n.natAbs b (by simp [is])
    have first := digits false
    rw [is, List.cons_append] at first ⊢
    rw [readInt_digits digit, first, if_neg (by simp)]
    congr 2
    omega

/-- A number that ends a text is read alike in front of something else. -/
lemma readInt_append {n : ℤ} (is : readInt input = some (n, [])) (stops : Stops isDigit rest) :
    readInt (input ++ rest) = some (n, rest) := by
  have digits : ∀ negative (text : List UInt8), readDigits negative text = some (n, []) →
      text ≠ [] ∧ readDigits negative (text ++ rest) = some (n, rest) := by
    intro negative text read
    unfold readDigits at read
    dsimp only at read
    split at read
    · cases read
    · rename_i some_
      rw [Option.some.injEq, Prod.mk.injEq] at read
      obtain ⟨number, behind⟩ := read
      have whole : text.takeWhile isDigit = text :=
        (List.takeWhile_prefix isDigit).eq_of_length_le (List.drop_eq_nil_iff.mp behind)
      have all : ∀ b ∈ text, isDigit b = true := by
        rw [← whole]
        exact fun b is => List.mem_takeWhile_imp is
      rw [whole] at number some_
      refine ⟨some_, ?_⟩
      unfold readDigits
      dsimp only
      rw [takeWhile_stops all stops, if_neg some_, number, List.drop_left]
  unfold readInt at is ⊢
  have start : input.dropWhile isSpace ≠ [] →
      (input ++ rest).dropWhile isSpace = input.dropWhile isSpace ++ rest := by
    intro some_
    rw [List.dropWhile_append, if_neg (by simpa using some_)]
  split at is
  · rename_i behind front
    rw [start (by simp [front]), front]
    exact (digits true behind is).2
  · rename_i behind front
    rw [start (by simp [front]), front]
    exact (digits false behind is).2
  · rename_i behind minus plus
    obtain ⟨some_, read⟩ := digits false _ is
    rw [start some_]
    obtain ⟨b, bytes, front⟩ := List.exists_cons_of_ne_nil some_
    rw [front] at read ⊢
    split
    · rename_i same
      exact absurd (List.cons.inj same).1 fun equal => minus bytes (by rw [front, equal])
    · rename_i same
      exact absurd (List.cons.inj same).1 fun equal => plus bytes (by rw [front, equal])
    · exact read

/-! ## What was read -/

lemma scan_literal {byte : UInt8} :
    scan (.literal byte :: ds) (byte :: rest) s count = scan ds rest s count := by
  simp [scan]

lemma scan_literal_other {byte : UInt8} (other : input.head? ≠ some byte) :
    scan (.literal byte :: ds) input s count = (s, count) := by
  rw [scan, if_neg other]

lemma literal_read {byte : UInt8} (more : count < (scan (.literal byte :: ds) input s count).2) :
    ∃ rest, input = byte :: rest := by
  rw [scan] at more
  split at more
  · rename_i head
    obtain ⟨rest, rfl⟩ := List.head?_eq_some_iff.mp head
    exact ⟨rest, rfl⟩
  · omega

lemma scanset_read {accepts : UInt8 → Bool} {store : σ → List UInt8 → σ}
    (more : count < (scan (.scanset width accepts store :: ds) input s count).2) :
    ∃ field rest, field ≠ [] ∧ field.length ≤ width ∧ (∀ b ∈ field, accepts b = true) ∧
      scan (.scanset width accepts store :: ds) input s count =
        scan ds rest (store s field) (count + 1) := by
  rw [scan] at more ⊢
  split at more
  · omega
  · rename_i some_
    refine ⟨_, _, some_, ?_, ?_, by rw [if_neg some_]⟩
    · exact ((List.takeWhile_prefix _).length_le).trans (List.length_take_le _ _)
    · intro b is
      exact List.mem_takeWhile_imp is

lemma word_read {store : σ → List UInt8 → σ}
    (more : count < (scan (.word width store :: ds) input s count).2) :
    ∃ field rest, field ≠ [] ∧ field.length ≤ width ∧ (∀ b ∈ field, isSpace b = false) ∧
      scan (.word width store :: ds) input s count =
        scan ds rest (store s field) (count + 1) := by
  rw [scan] at more ⊢
  split at more
  · omega
  · rename_i some_
    refine ⟨_, _, some_, ?_, ?_, by rw [if_neg some_]⟩
    · exact ((List.takeWhile_prefix _).length_le).trans (List.length_take_le _ _)
    · intro b is
      simpa using List.mem_takeWhile_imp is

lemma decimal_read {store : σ → ℤ → σ}
    (more : count < (scan (.decimal store :: ds) input s count).2) :
    ∃ number rest, scan (.decimal store :: ds) input s count =
      scan ds rest (store s number) (count + 1) := by
  rw [scan] at more ⊢
  split at more
  · omega
  · rename_i number rest is
    exact ⟨number, rest, rfl⟩

/-! ## What a scan keeps -/

/-- An invariant of the destination that a store of such characters keeps. -/
def Directive.Keeps (holds : σ → Prop) (p : UInt8 → Prop) : Directive σ → Prop
  | .literal _ => True
  | .scanset _ _ store => ∀ s field, holds s → (∀ b ∈ field, p b) → holds (store s field)
  | .word _ store => ∀ s field, holds s → (∀ b ∈ field, p b) → holds (store s field)
  | .decimal store => ∀ s number, holds s → holds (store s number)

lemma readDigits_suffix {negative : Bool} {n : ℤ}
    (is : readDigits negative input = some (n, rest)) : rest <:+ input := by
  unfold readDigits at is
  dsimp only at is
  split at is
  · cases is
  · obtain ⟨-, rfl⟩ := Prod.mk.inj (Option.some.inj is)
    exact List.drop_suffix _ _

lemma readInt_suffix {n : ℤ} (is : readInt input = some (n, rest)) : rest <:+ input := by
  have blanks : input.dropWhile isSpace <:+ input := List.dropWhile_suffix _
  unfold readInt at is
  split at is
  · rename_i sign
    exact ((readDigits_suffix is).trans (List.suffix_cons _ _)).trans (sign ▸ blanks)
  · rename_i sign
    exact ((readDigits_suffix is).trans (List.suffix_cons _ _)).trans (sign ▸ blanks)
  · exact (readDigits_suffix is).trans blanks

/-- A scan of such characters keeps what every directive keeps. -/
theorem scan_keeps {holds : σ → Prop} {p : UInt8 → Prop} (keeps : ∀ d ∈ ds, d.Keeps holds p)
    (text : ∀ b ∈ input, p b) (before : holds s) : holds (scan ds input s count).1 := by
  induction ds generalizing input s count with
  | nil => exact before
  | cons d ds ih =>
    have later := fun d is => keeps d (List.mem_cons_of_mem _ is)
    have here := keeps d List.mem_cons_self
    cases d with
    | literal byte =>
      rw [scan]
      split
      · exact ih later (fun b is => text b (List.mem_of_mem_tail is)) before
      · exact before
    | scanset width accepts store =>
      rw [scan]
      split
      · exact before
      · apply ih later
        · exact fun b is => text b (List.mem_of_mem_drop is)
        · refine here s _ before fun b is => text b ?_
          exact List.mem_of_mem_take ((List.takeWhile_prefix _).mem is)
    | word width store =>
      have inner : ∀ b ∈ input.dropWhile isSpace, p b :=
        fun b is => text b ((List.dropWhile_suffix _).mem is)
      rw [scan]
      split
      · exact before
      · apply ih later
        · exact fun b is => inner b (List.mem_of_mem_drop is)
        · refine here s _ before fun b is => inner b ?_
          exact List.mem_of_mem_take ((List.takeWhile_prefix _).mem is)
    | decimal store =>
      rw [scan]
      split
      · exact before
      · rename_i number rest is
        apply ih later
        · exact fun b there => text b ((readInt_suffix is).mem there)
        · exact here s number before

end Rules

end NlsSdk.Library.Scanf
