import Mathlib.Tactic
import Mathlib.Data.List.DropRight

/-!
# Heads of HTTP/1.1 requests

`parse` reads a request line, header fields and the blank line behind them, and
gives back what follows. `parse_render` is the round trip, and
`wellFormed_of_parse` says that nothing else is accepted.
-/
namespace NlsSdk.Library.HttpRequest

abbrev Text := List UInt8

/-- The characters of a method and of a field name. -/
def isTokenByte (b : UInt8) : Bool :=
  (48 ≤ b && b ≤ 57) || (65 ≤ b && b ≤ 90) || (97 ≤ b && b ≤ 122) ||
    [33, 35, 36, 37, 38, 39, 42, 43, 45, 46, 94, 95, 96, 124, 126].contains b

def isVisible (b : UInt8) : Bool := 33 ≤ b && b ≠ 127

def isBlank (b : UInt8) : Bool := b = 32 || b = 9

/-- The characters of a field value. -/
def isFieldByte (b : UInt8) : Bool := isVisible b || isBlank b

/-- `HTTP/1.1` -/
def version : Text := [72, 84, 84, 80, 47, 49, 46, 49]

/-- A name and its value. -/
abbrev Header := Text × Text

structure Request where
  method : Text
  target : Text
  headers : List Header
  deriving DecidableEq, Repr

/-! ## Reading -/

/-- The lines up to the first blank one, and what follows it; `line` has been read of the
current line. -/
def readLines : Text → Text → Option (List Text × Text)
  | _, [] => none
  | line, 13 :: 10 :: rest =>
    if line = [] then some ([], rest)
    else (readLines [] rest).map fun read => (line :: read.1, read.2)
  | line, b :: rest => readLines (line ++ [b]) rest

/-- Without the blanks at both ends. -/
def trim (value : Text) : Text := (value.dropWhile isBlank).rdropWhile isBlank

def readField (line : Text) : Option Header :=
  let name := line.takeWhile isTokenByte
  if name = [] then none
  else match line.drop name.length with
    | 58 :: value => if value.all isFieldByte then some (name, trim value) else none
    | _ => none

def readFields : List Text → Option (List Header)
  | [] => some []
  | line :: lines =>
    (readField line).bind fun header => (readFields lines).map fun headers => header :: headers

def readRequestLine (line : Text) : Option (Text × Text) :=
  let method := line.takeWhile isTokenByte
  if method = [] then none
  else match line.drop method.length with
    | 32 :: rest =>
      let target := rest.takeWhile isVisible
      if target ≠ [] ∧ rest.drop target.length = 32 :: version then some (method, target) else none
    | _ => none

/-- The head in front of a text, and what follows it. -/
def parse (text : Text) : Option (Request × Text) :=
  match readLines [] text with
  | some (first :: fields, rest) =>
    (readRequestLine first).bind fun line =>
      (readFields fields).map fun headers => (⟨line.1, line.2, headers⟩, rest)
  | _ => none

/-! ## Well-formed requests -/

structure IsFieldName (name : Text) : Prop where
  some_ : name ≠ []
  bytes : ∀ b ∈ name, isTokenByte b = true

structure IsFieldValue (value : Text) : Prop where
  bytes : ∀ b ∈ value, isFieldByte b = true
  first : ∀ b, value.head? = some b → isBlank b = false
  last : ∀ b, value.getLast? = some b → isBlank b = false

lemma isFieldName_iff {name : Text} :
    (name ≠ [] ∧ name.all isTokenByte = true) ↔ IsFieldName name := by
  rw [List.all_eq_true]
  exact ⟨fun h => ⟨h.1, h.2⟩, fun h => ⟨h.1, h.2⟩⟩

lemma isFieldValue_iff {value : Text} :
    (value.all isFieldByte = true ∧ value.head?.all (fun b => !isBlank b) = true ∧
      value.getLast?.all (fun b => !isBlank b) = true) ↔ IsFieldValue value := by
  simp only [List.all_eq_true, Option.all_eq_true, Bool.not_eq_true']
  exact ⟨fun h => ⟨h.1, h.2.1, h.2.2⟩, fun h => ⟨h.bytes, h.first, h.last⟩⟩

instance (name : Text) : Decidable (IsFieldName name) := decidable_of_iff _ isFieldName_iff

instance (value : Text) : Decidable (IsFieldValue value) := decidable_of_iff _ isFieldValue_iff

def IsHeader (header : Header) : Prop := IsFieldName header.1 ∧ IsFieldValue header.2

instance (header : Header) : Decidable (IsHeader header) :=
  inferInstanceAs (Decidable (IsFieldName header.1 ∧ IsFieldValue header.2))

structure IsTarget (target : Text) : Prop where
  some_ : target ≠ []
  bytes : ∀ b ∈ target, isVisible b = true

structure Request.WellFormed (r : Request) : Prop where
  method : IsFieldName r.method
  target : IsTarget r.target
  headers : ∀ header ∈ r.headers, IsHeader header

/-! ## Writing -/

def requestLine (method target : Text) : Text := method ++ 32 :: (target ++ 32 :: version)

def fieldLine (header : Header) : Text := header.1 ++ 58 :: 32 :: header.2

/-- Each line with its end, and the blank line. -/
def joinLines (lines : List Text) : Text := lines.flatMap (fun line => line ++ [13, 10]) ++ [13, 10]

def Request.render (r : Request) : Text :=
  joinLines (requestLine r.method r.target :: r.headers.map fieldLine)

/-! ## Lines -/

section Lines

variable {line text rest : Text} {lines : List Text}

@[simp] lemma joinLines_nil : joinLines [] = [13, 10] := rfl

@[simp] lemma joinLines_cons (line : Text) (lines : List Text) :
    joinLines (line :: lines) = line ++ 13 :: 10 :: joinLines lines := by
  simp [joinLines]

lemma length_joinLines (lines : List Text) :
    (joinLines lines).length = (lines.map fun line => line.length + 2).sum + 2 := by
  induction lines with
  | nil => rfl
  | cons line lines ih =>
    rw [joinLines_cons, List.length_append, List.length_cons, List.length_cons, ih,
      List.map_cons, List.sum_cons]
    omega

/-- A byte that does not end the line. -/
lemma readLines_byte {b : UInt8} (other : ∀ behind, b = 13 → rest = 10 :: behind → False) :
    readLines line (b :: rest) = readLines (line ++ [b]) rest := by
  rw [readLines]
  exact other

/-- A line feed is needed to end a line. -/
lemma readLines_text (plain : (10 : UInt8) ∉ text) :
    readLines line (text ++ 13 :: 10 :: rest) = readLines (line ++ text) (13 :: 10 :: rest) := by
  induction text generalizing line with
  | nil => rw [List.nil_append, List.append_nil]
  | cons b text ih =>
    have behind : (10 : UInt8) ∉ text := fun is => plain (List.mem_cons_of_mem b is)
    have step : readLines line (b :: (text ++ 13 :: 10 :: rest)) =
        readLines (line ++ [b]) (text ++ 13 :: 10 :: rest) := by
      refine readLines_byte ?_
      intro behind_ carriage same
      cases text with
      | nil =>
        rw [List.nil_append, List.cons.injEq] at same
        exact absurd same.1 (by decide)
      | cons c text =>
        rw [List.cons_append, List.cons.injEq] at same
        exact behind (by rw [same.1]; exact List.mem_cons_self)
    rw [List.cons_append, step, ih behind, List.append_assoc, List.singleton_append]

/-- Lines without a line feed are read back. -/
theorem readLines_joinLines (lines : List Text) (rest : Text)
    (plain : ∀ line ∈ lines, line ≠ [] ∧ (10 : UInt8) ∉ line) :
    readLines [] (joinLines lines ++ rest) = some (lines, rest) := by
  induction lines with
  | nil => rfl
  | cons line lines ih =>
    obtain ⟨some_, feedless⟩ := plain line List.mem_cons_self
    rw [joinLines_cons, List.append_assoc, List.cons_append, List.cons_append,
      readLines_text feedless, List.nil_append, readLines, if_neg some_,
      ih fun other is => plain other (List.mem_cons_of_mem _ is)]
    rfl

lemma parse_joinLines {first : Text} (fields : List Text) (rest : Text)
    (plain : ∀ line ∈ first :: fields, line ≠ [] ∧ (10 : UInt8) ∉ line) :
    parse (joinLines (first :: fields) ++ rest) =
      (readRequestLine first).bind fun line =>
        (readFields fields).map fun headers => (⟨line.1, line.2, headers⟩, rest) := by
  rw [parse, readLines_joinLines _ _ plain]

/-- What follows the blank line is the end of the text, behind a line feed. -/
lemma readLines_ends {read : List Text × Text} (is : readLines line text = some read) :
    ∃ front, text = front ++ 10 :: read.2 := by
  induction line, text using readLines.induct generalizing read with
  | case1 => exact absurd is (by simp [readLines])
  | case2 rest =>
    rw [readLines, if_pos rfl, Option.some.injEq] at is
    exact ⟨[13], by rw [← is]; rfl⟩
  | case3 line rest some_ ih =>
    rw [readLines, if_neg some_, Option.map_eq_some_iff] at is
    obtain ⟨inner, read_, rfl⟩ := is
    obtain ⟨front, whole⟩ := ih read_
    exact ⟨13 :: 10 :: front, by rw [whole]; rfl⟩
  | case4 line b rest other ih =>
    rw [readLines_byte other] at is
    obtain ⟨front, whole⟩ := ih is
    exact ⟨b :: front, by rw [whole]; rfl⟩

lemma parse_ends {r : Request} (is : parse text = some (r, rest)) :
    ∃ front, text = front ++ 10 :: rest := by
  unfold parse at is
  split at is
  · rename_i first fields behind read
    obtain ⟨front, whole⟩ := readLines_ends read
    rw [Option.bind_eq_some_iff] at is
    obtain ⟨line, -, is⟩ := is
    rw [Option.map_eq_some_iff] at is
    obtain ⟨headers, -, is⟩ := is
    rw [Prod.mk.injEq] at is
    exact ⟨front, by rw [whole, ← is.2]⟩
  · cases is

end Lines

/-! ## Fields -/

section Fields

variable {line text rest name value : Text} {r : Request}

lemma trim_sub {b : UInt8} (is : b ∈ trim value) : b ∈ value :=
  (List.dropWhile_suffix isBlank).mem ((List.rdropWhile_prefix isBlank _).mem is)

lemma isFieldValue_trim (bytes : ∀ b ∈ value, isFieldByte b = true) : IsFieldValue (trim value) where
  bytes := fun b is => bytes b (trim_sub is)
  first := by
    intro b head
    obtain ⟨behind, whole⟩ := List.rdropWhile_prefix isBlank (value.dropWhile isBlank)
    have same : (value.dropWhile isBlank).head? = some b := by
      unfold trim at head
      rw [← whole, List.head?_append, head]
      rfl
    have not := List.head?_dropWhile_not isBlank value
    rw [same] at not
    exact not
  last := by
    intro b last
    have some_ : trim value ≠ [] := by
      rintro empty
      rw [empty] at last
      cases last
    have not := List.rdropWhile_last_not isBlank (value.dropWhile isBlank) some_
    rw [List.getLast?_eq_some_getLast some_, Option.some.injEq] at last
    rw [← last]
    exact Bool.eq_false_iff.mpr not

/-- The blank behind the colon is not part of the value. -/
lemma trim_fieldValue (is : IsFieldValue value) : trim (32 :: value) = value := by
  have start : (32 :: value).dropWhile isBlank = value := by
    cases value with
    | nil => rfl
    | cons b value =>
      rw [List.dropWhile_cons_of_pos rfl, List.dropWhile_cons_of_neg]
      rw [is.first b rfl]
      exact Bool.false_ne_true
  rw [trim, start, List.rdropWhile_eq_self_iff]
  intro some_ blank
  rw [is.last _ (List.getLast?_eq_some_getLast some_)] at blank
  cases blank

/-- A name in front of a byte that does not belong to it. -/
lemma takeWhile_stop {p : UInt8 → Bool} {b : UInt8} (all : ∀ b ∈ name, p b = true)
    (stop : p b = false) : (name ++ b :: rest).takeWhile p = name := by
  rw [List.takeWhile_append_of_pos all, List.takeWhile_cons, stop]
  exact List.append_nil name

lemma takeWhile_behind (p : UInt8 → Bool) (text : Text) :
    text.takeWhile p ++ text.drop (text.takeWhile p).length = text :=
  List.prefix_iff_eq_append.mp (List.takeWhile_prefix p)

lemma readField_fieldLine {header : Header} (is : IsHeader header) :
    readField (fieldLine header) = some header := by
  have name : (fieldLine header).takeWhile isTokenByte = header.1 :=
    takeWhile_stop is.1.bytes rfl
  have bytes : (32 :: header.2).all isFieldByte = true := by
    rw [List.all_cons, Bool.and_eq_true, List.all_eq_true]
    exact ⟨rfl, is.2.bytes⟩
  unfold readField
  dsimp only
  rw [name, if_neg is.1.some_, fieldLine, List.drop_left]
  simp only [bytes, if_true, trim_fieldValue is.2]

/-- What a field was read from. -/
lemma readField_some (is : readField line = some (name, value)) :
    (∃ behind, line = name ++ 58 :: behind ∧ value = trim behind) ∧ IsHeader (name, value) := by
  unfold readField at is
  dsimp only at is
  split at is
  · cases is
  · rename_i some_
    split at is
    · rename_i behind rest_
      split at is
      · rename_i bytes
        rw [Option.some.injEq, Prod.mk.injEq] at is
        obtain ⟨rfl, rfl⟩ := is
        refine ⟨⟨behind, ?_, rfl⟩, ⟨some_, fun b is => List.mem_takeWhile_imp is⟩, ?_⟩
        · rw [← rest_, takeWhile_behind]
        · exact isFieldValue_trim (List.all_eq_true.mp bytes)
      · cases is
    · cases is

lemma readFields_map {headers : List Header} (all : ∀ header ∈ headers, IsHeader header) :
    readFields (headers.map fieldLine) = some headers := by
  induction headers with
  | nil => rfl
  | cons header headers ih =>
    rw [List.map_cons, readFields, readField_fieldLine (all _ List.mem_cons_self),
      ih fun other is => all other (List.mem_cons_of_mem _ is)]
    rfl

/-- One field is read from each line. -/
lemma readFields_some {lines : List Text} {headers : List Header}
    (is : readFields lines = some headers) :
    List.Forall₂ (fun line header => readField line = some header) lines headers := by
  induction lines generalizing headers with
  | nil =>
    rw [readFields, Option.some.injEq] at is
    rw [← is]
    exact .nil
  | cons line lines ih =>
    rw [readFields, Option.bind_eq_some_iff] at is
    obtain ⟨header, read, is⟩ := is
    rw [Option.map_eq_some_iff] at is
    obtain ⟨others, rest, rfl⟩ := is
    exact .cons read (ih rest)

lemma readFields_isHeader {lines : List Text} {headers : List Header}
    (is : readFields lines = some headers) : ∀ header ∈ headers, IsHeader header := by
  have read := readFields_some is
  clear is
  induction read with
  | nil => simp
  | cons first _ ih =>
    rw [List.forall_mem_cons]
    exact ⟨(readField_some first).2, ih⟩

lemma readRequestLine_requestLine {method target : Text} (name : IsFieldName method)
    (visible : IsTarget target) :
    readRequestLine (requestLine method target) = some (method, target) := by
  have first : (requestLine method target).takeWhile isTokenByte = method :=
    takeWhile_stop name.bytes rfl
  have second : (target ++ 32 :: version).takeWhile isVisible = target :=
    takeWhile_stop visible.bytes rfl
  unfold readRequestLine
  dsimp only
  rw [first, if_neg name.some_, requestLine, List.drop_left]
  simp only [second, List.drop_left, ne_eq, visible.some_, not_false_eq_true, and_self, if_true]

/-- A request line is read only from what writing it gives. -/
lemma readRequestLine_some {method target : Text}
    (is : readRequestLine line = some (method, target)) :
    line = requestLine method target ∧ IsFieldName method ∧ IsTarget target := by
  unfold readRequestLine at is
  dsimp only at is
  split at is
  · cases is
  · rename_i some_
    split at is
    · rename_i behind rest_
      split at is
      · rename_i found
        rw [Option.some.injEq, Prod.mk.injEq] at is
        obtain ⟨rfl, rfl⟩ := is
        refine ⟨?_, ⟨some_, fun b is => List.mem_takeWhile_imp is⟩, ⟨found.1, ?_⟩⟩
        · rw [requestLine, ← found.2, takeWhile_behind, ← rest_, takeWhile_behind]
        · intro b is
          exact List.mem_takeWhile_imp is
      · cases is
    · cases is

end Fields

/-! ## Requests -/

section Requests

variable {r : Request} {text rest : Text}

lemma isTokenByte_plain {b : UInt8} (is : isTokenByte b = true) : b ≠ 10 := by
  rintro rfl
  cases is

lemma isVisible_plain {b : UInt8} (is : isVisible b = true) : b ≠ 10 := by
  rintro rfl
  cases is

lemma isFieldByte_plain {b : UInt8} (is : isFieldByte b = true) : b ≠ 10 := by
  rintro rfl
  cases is

lemma IsFieldName.plain (is : IsFieldName text) : (10 : UInt8) ∉ text :=
  fun there => isTokenByte_plain (is.bytes 10 there) rfl

lemma IsFieldValue.plain (is : IsFieldValue text) : (10 : UInt8) ∉ text :=
  fun there => isFieldByte_plain (is.bytes 10 there) rfl

lemma IsTarget.plain (is : IsTarget text) : (10 : UInt8) ∉ text :=
  fun there => isVisible_plain (is.bytes 10 there) rfl

lemma fieldLine_ne_nil (header : Header) : fieldLine header ≠ [] := by
  unfold fieldLine
  simp

lemma fieldLine_plain {header : Header} (name : (10 : UInt8) ∉ header.1)
    (value : (10 : UInt8) ∉ header.2) : (10 : UInt8) ∉ fieldLine header := by
  unfold fieldLine
  simp [name, value]

lemma requestLine_ne_nil (method target : Text) : requestLine method target ≠ [] := by
  unfold requestLine
  simp

lemma requestLine_plain {method target : Text} (name : (10 : UInt8) ∉ method)
    (visible : (10 : UInt8) ∉ target) : (10 : UInt8) ∉ requestLine method target := by
  unfold requestLine
  simp [name, visible, version]

/-- A well-formed request is read back from what it is written as, whatever follows. -/
theorem parse_render (well : r.WellFormed) (rest : Text) :
    parse (r.render ++ rest) = some (r, rest) := by
  have plain : ∀ line ∈ requestLine r.method r.target :: r.headers.map fieldLine,
      line ≠ [] ∧ (10 : UInt8) ∉ line := by
    intro line is
    rcases List.mem_cons.mp is with rfl | is
    · exact ⟨requestLine_ne_nil _ _, requestLine_plain well.method.plain well.target.plain⟩
    · obtain ⟨header, there, rfl⟩ := List.mem_map.mp is
      have good := well.headers header there
      exact ⟨fieldLine_ne_nil header, fieldLine_plain good.1.plain good.2.plain⟩
  rw [Request.render, parse_joinLines _ _ plain,
    readRequestLine_requestLine well.method well.target, readFields_map well.headers]
  rfl

/-- The first line of what is read is the request line. -/
lemma parse_requestLine {first behind : Text} (some_ : first ≠ []) (plain : (10 : UInt8) ∉ first)
    (is : parse (first ++ 13 :: 10 :: behind) = some (r, rest)) :
    first = requestLine r.method r.target := by
  unfold parse at is
  rw [readLines_text plain, List.nil_append, readLines, if_neg some_] at is
  cases inner : readLines [] behind with
  | none =>
    rw [inner] at is
    cases is
  | some read =>
    rw [inner] at is
    simp only [Option.map_some] at is
    rw [Option.bind_eq_some_iff] at is
    obtain ⟨line, read_, is⟩ := is
    rw [Option.map_eq_some_iff] at is
    obtain ⟨headers, -, is⟩ := is
    rw [Prod.mk.injEq] at is
    rw [← is.1]
    exact (readRequestLine_some read_).1

/-- As many fields are read as there are lines. -/
lemma parse_headers_length {first : Text} {fields : List Text}
    (plain : ∀ line ∈ first :: fields, line ≠ [] ∧ (10 : UInt8) ∉ line)
    (is : parse (joinLines (first :: fields) ++ text) = some (r, rest)) :
    fields.length = r.headers.length ∧ text = rest := by
  rw [parse_joinLines _ _ plain, Option.bind_eq_some_iff] at is
  obtain ⟨line, -, is⟩ := is
  rw [Option.map_eq_some_iff] at is
  obtain ⟨headers, read, is⟩ := is
  rw [Prod.mk.injEq] at is
  refine ⟨?_, is.2⟩
  rw [← is.1]
  exact (readFields_some read).length_eq

/-- Only well-formed requests are read. -/
theorem wellFormed_of_parse (is : parse text = some (r, rest)) : r.WellFormed := by
  unfold parse at is
  split at is
  · rw [Option.bind_eq_some_iff] at is
    obtain ⟨⟨method, target⟩, line, is⟩ := is
    rw [Option.map_eq_some_iff] at is
    obtain ⟨headers, fields, is⟩ := is
    rw [Prod.mk.injEq] at is
    obtain ⟨-, name, visible⟩ := readRequestLine_some line
    rw [← is.1]
    exact ⟨name, visible, readFields_isHeader fields⟩
  · cases is

end Requests

end NlsSdk.Library.HttpRequest
