import NlsSdk.Library.Run
import NlsSdk.Library.TextBuffer
import NlsSdk.Transport.Global

/-!
# The body of an HTTP message

`HttpMessage`: the body with its size, how pieces are added, how it is copied, and
what the consumer of a received body sees.
-/
namespace NlsSdk.Token

open NlsSdk.Library NlsSdk.Transport

structure HttpMessage where
  /-- Absent is the null pointer. -/
  body : Option TextBuffer
  bodySize : ℕ
  /-- A map whose keys are compared without case, in its order. -/
  headers : List (Bytes × Bytes)

/-- `tolower` of one byte. -/
def lowerByte (b : UInt8) : UInt8 := if 65 ≤ b ∧ b ≤ 90 then b + 32 else b

/-- What `strcasecmp` compares of a string. -/
def folded (s : Bytes) : Bytes := (textOf s).map lowerByte

/-- `strcasecmp` below zero. -/
def nocaseLess (s1 s2 : Bytes) : Bool := decide (folded s1 < folded s2)

/-- `headers[name] = value`: a name that is there already keeps its first spelling. -/
def insertHeader (name value : Bytes) : List (Bytes × Bytes) → List (Bytes × Bytes)
  | [] => [(name, value)]
  | (k, v) :: rest =>
    if nocaseLess name k then (name, value) :: (k, v) :: rest
    else if nocaseLess k name then (k, v) :: insertHeader name value rest
    else (k, value) :: rest

/-- The value of that name, as the map finds it, empty when there is none. -/
def headerIn (headers : List (Bytes × Bytes)) (name : Bytes) : Bytes :=
  ((headers.find? fun h => !nocaseLess h.1 name && !nocaseLess name h.1).map Prod.snd).getD []

namespace HttpMessage

def empty : HttpMessage := { body := none, bodySize := 0, headers := [] }

def setBody (m : HttpMessage) (data : Option Bytes) (size : ℕ) : HttpMessage :=
  match data with
  | none => m
  | some data =>
    if size = 0 then m
    else
      match m.body with
      | none => { m with body := some (.filled data size), bodySize := size + 1 }
      | some body => { m with body := some (body.extended data size), bodySize := m.bodySize + size }

def setHeader (m : HttpMessage) (name value : Bytes) : HttpMessage :=
  { m with headers := insertHeader name value m.headers }

def header (m : HttpMessage) (name : Bytes) : Bytes :=
  headerIn m.headers name

/-- The bytes the body points to. -/
def bytes (m : HttpMessage) : Option Bytes := m.body.map (·.bytes)

/-- The copy constructor. -/
def copy (other : HttpMessage) : HttpMessage :=
  setBody { body := none, bodySize := other.bodySize, headers := other.headers }
    other.bytes other.bodySize

/-- The assignment from another object; what was held before is freed. -/
def assign (m other : HttpMessage) : HttpMessage :=
  setBody { m with body := none, bodySize := 0, headers := other.headers }
    other.bytes other.bodySize

def hasBody (m : HttpMessage) : Bool := m.bodySize ≠ 0

/-- What a consumer makes of a message: a string of `bodySize` bytes from the body on. -/
def seenBody (m : HttpMessage) : Bytes := (m.bytes.getD []).take m.bodySize

end HttpMessage

/-- The write callback; it is given `size * nmemb` bytes, and the size is always one. -/
def recvBody (ptr : Bytes) (nmemb : ℕ) (response : HttpMessage) : HttpMessage :=
  response.setBody (some ptr) nmemb

/-- A message after the chunks of a transfer. -/
def received (chunks : List Bytes) : HttpMessage :=
  run (fun response chunk => recvBody chunk chunk.length response) .empty chunks

/-- What may happen to a message on its way to its consumer. -/
inductive Passing
  | construct
  | assign (target : HttpMessage)
  | assignSelf

def Passing.step (m : HttpMessage) : Passing → HttpMessage
  | .construct => m.copy
  | .assign target => target.assign m
  | .assignSelf => m

/-- The steps that make another message. -/
def Passing.copies : Passing → ℕ
  | .construct => 1
  | .assign _ => 1
  | .assignSelf => 0

/-! ## Headers -/

namespace HttpMessage

lemma same_name_iff (s1 s2 : Bytes) :
    (!nocaseLess s1 s2 && !nocaseLess s2 s1) = true ↔ folded s1 = folded s2 := by
  simp only [nocaseLess, Bool.and_eq_true, Bool.not_eq_true', decide_eq_false_iff_not]
  constructor
  · rintro ⟨notBelow, notAbove⟩
    exact Std.le_antisymm (Std.not_lt.mp notAbove) (Std.not_lt.mp notBelow)
  · intro same
    rw [same]
    exact ⟨Std.lt_irrefl, Std.lt_irrefl⟩

lemma headerIn_cons (k v : Bytes) (rest : List (Bytes × Bytes)) (name : Bytes) :
    headerIn ((k, v) :: rest) name = if folded k = folded name then v else headerIn rest name := by
  unfold headerIn
  rw [List.find?_cons]
  by_cases same : folded k = folded name
  · rw [(same_name_iff k name).mpr same, if_pos same]
    rfl
  · rw [Bool.eq_false_iff.mpr fun is => same ((same_name_iff k name).mp is), if_neg same]

lemma headerIn_insertHeader (name value other : Bytes) (headers : List (Bytes × Bytes)) :
    headerIn (insertHeader name value headers) other =
      if folded name = folded other then value else headerIn headers other := by
  induction headers with
  | nil => rw [insertHeader, headerIn_cons]
  | cons first rest ih =>
    obtain ⟨k, v⟩ := first
    unfold insertHeader
    split
    · exact headerIn_cons name value _ other
    split
    · next below =>
      rw [headerIn_cons, headerIn_cons, ih]
      have apart : folded k ≠ folded name := Std.ne_of_lt (of_decide_eq_true below)
      by_cases here : folded k = folded other
      · rw [if_pos here, if_pos here, if_neg fun same => apart (here.trans same.symm)]
      · rw [if_neg here, if_neg here]
    · next notBelow notAbove =>
      have same : folded name = folded k := (same_name_iff name k).mp (by simp [notBelow, notAbove])
      rw [headerIn_cons, headerIn_cons, same]
      split <;> rfl

@[simp] theorem header_setHeader (m : HttpMessage) (name value other : Bytes) :
    (m.setHeader name value).header other =
      if folded name = folded other then value else m.header other :=
  headerIn_insertHeader name value other m.headers

@[simp] lemma headers_setBody (m : HttpMessage) (data : Option Bytes) (size : ℕ) :
    (m.setBody data size).headers = m.headers := by
  unfold setBody
  split
  · rfl
  split
  · rfl
  split <;> rfl

lemma headers_copy (m : HttpMessage) : m.copy.headers = m.headers := headers_setBody _ _ _

lemma headers_assign (m other : HttpMessage) : (m.assign other).headers = other.headers :=
  headers_setBody _ _ _

/-- The headers reach the end of the way. -/
lemma headers_passed (m : HttpMessage) (passings : List Passing) :
    (run Passing.step m passings).headers = m.headers := by
  induction passings generalizing m with
  | nil => rfl
  | cons p passings ih =>
    refine (ih (p.step m)).trans ?_
    cases p with
    | construct => exact headers_copy m
    | assign target => exact headers_assign target m
    | assignSelf => rfl

end HttpMessage

/-! ## What a message holds -/

namespace HttpMessage

/-- The message holds a text and tells a size: nothing, or a buffer of just that size. -/
inductive Holds (m : HttpMessage) : Bytes → ℕ → Prop
  | nothing (absent : m.body = none) (told : m.bodySize = 0) : Holds m [] 0
  | buffer (b : TextBuffer) (present : m.body = some b) (told : m.bodySize = b.bytes.length) :
      Holds m b.text b.bytes.length

/-- The size after a piece was added: the first one brings a byte for the final zero. -/
def grown (size n : ℕ) : ℕ := if n = 0 then size else if size = 0 then n + 1 else size + n

lemma grown_grown (size a b : ℕ) : grown (grown size a) b = grown size (a + b) := by
  unfold grown
  by_cases none : a = 0
  · rw [if_pos none, none, Nat.zero_add]
  · rw [if_neg none, if_neg (by omega : ¬ a + b = 0)]
    by_cases fresh : size = 0
    · rw [if_pos fresh, if_pos fresh, if_neg (Nat.succ_ne_zero a)]
      split_ifs <;> omega
    · rw [if_neg fresh, if_neg fresh, if_neg (by omega : ¬ size + a = 0)]
      split_ifs <;> omega

lemma size_pos (b : TextBuffer) : 0 < b.bytes.length := by
  obtain ⟨zeros, pos, length, -⟩ := b.bytes_eq
  omega

lemma holds_setBody {m : HttpMessage} {text : Bytes} {size : ℕ} (holds : m.Holds text size)
    (data : Bytes) (n : ℕ) :
    (m.setBody (some data) n).Holds (text ++ textOf (data.take n)) (grown size n) := by
  simp only [setBody, grown]
  by_cases none : n = 0
  · subst none
    simpa [textOf] using holds
  · rw [if_neg none, if_neg none]
    cases holds with
    | nothing absent told =>
      have filled := Holds.buffer (m := { m with body := some (.filled data n), bodySize := n + 1 })
        (.filled data n) rfl (TextBuffer.length_filled data n).symm
      rw [TextBuffer.text_filled, TextBuffer.length_filled] at filled
      rw [absent, if_pos rfl]
      exact filled
    | buffer b present told =>
      have length := TextBuffer.length_extended b data n
      have extended := Holds.buffer
        (m := { m with body := some (b.extended data n), bodySize := m.bodySize + n })
        (b.extended data n) rfl (by rw [length, ← told])
      rw [TextBuffer.text_extended, length] at extended
      rw [present, if_neg (size_pos b).ne']
      exact extended

lemma holds_empty : HttpMessage.empty.Holds [] 0 := .nothing rfl rfl

/-- The size after a message was made from another. -/
def copied (size : ℕ) : ℕ := if size = 0 then 0 else size + 1

lemma holds_setBody_from {m other : HttpMessage} {text : Bytes} {size : ℕ}
    (holds : other.Holds text size) (absent : m.body = none) (told : size = 0 → m.bodySize = 0) :
    (m.setBody other.bytes other.bodySize).Holds text (copied size) := by
  cases holds with
  | nothing gone none =>
    rw [bytes, gone, copied, if_pos rfl]
    exact .nothing absent (told rfl)
  | buffer b present size =>
    have pos := size_pos b
    have whole : textOf (b.bytes.take b.bytes.length) = b.text := by
      rw [List.take_length, TextBuffer.text]
    have filled := Holds.buffer
      (m := { m with body := some (.filled b.bytes b.bytes.length), bodySize := b.bytes.length + 1 })
      (.filled b.bytes b.bytes.length) rfl (TextBuffer.length_filled _ _).symm
    rw [TextBuffer.text_filled, TextBuffer.length_filled, whole] at filled
    simp only [setBody, bytes, present, Option.map_some, size, absent, copied, pos.ne', if_false]
    exact filled

lemma holds_copy {other : HttpMessage} {text : Bytes} {size : ℕ} (holds : other.Holds text size) :
    other.copy.Holds text (copied size) := by
  refine holds_setBody_from holds rfl (fun none => ?_)
  cases holds with
  | nothing _ told => exact told
  | buffer b _ told => exact told.trans none

lemma holds_assign {m other : HttpMessage} {text : Bytes} {size : ℕ}
    (holds : other.Holds text size) : (m.assign other).Holds text (copied size) :=
  holds_setBody_from holds rfl (fun _ => rfl)

/-- The consumer sees the text and zeros up to the size. -/
lemma seenBody_holds {m : HttpMessage} {text : Bytes} {size : ℕ} (holds : m.Holds text size) :
    m.bodySize = size ∧ m.seenBody = text ++ List.replicate (size - text.length) 0 := by
  cases holds with
  | nothing absent told => exact ⟨told, by simp [seenBody, bytes, absent]⟩
  | buffer b present told =>
    obtain ⟨zeros, -, length, is⟩ := b.bytes_eq
    refine ⟨told, ?_⟩
    rw [seenBody, bytes, present, told, Option.map_some, Option.getD_some, List.take_length,
      length, Nat.add_sub_cancel_left]
    exact is

lemma length_seenBody {m : HttpMessage} {text : Bytes} {size : ℕ} (holds : m.Holds text size) :
    m.seenBody.length = size := by
  cases holds with
  | nothing absent told => simp [seenBody, bytes, absent]
  | buffer b present told =>
    rw [seenBody, bytes, present, told, Option.map_some, Option.getD_some, List.take_length]

/-- What a message holds has nothing to do with its headers. -/
lemma Holds.of_eq {m m' : HttpMessage} {text : Bytes} {size : ℕ} (holds : m.Holds text size)
    (body : m'.body = m.body) (told : m'.bodySize = m.bodySize) : m'.Holds text size := by
  cases holds with
  | nothing absent none => exact .nothing (body.trans absent) (told.trans none)
  | buffer b present size => exact .buffer b (body.trans present) (told.trans size)

end HttpMessage

open HttpMessage

/-! ## From the chunks to the consumer -/

lemma holds_chunks (chunks : List Bytes) {m : HttpMessage} {text : Bytes} {size : ℕ}
    (holds : m.Holds text size) :
    (run (fun response chunk => recvBody chunk chunk.length response) m chunks).Holds
      (text ++ chunks.flatMap textOf) (grown size chunks.flatten.length) := by
  induction chunks generalizing m text size with
  | nil => simpa [run, grown] using holds
  | cons chunk chunks ih =>
    have one := holds_setBody holds chunk chunk.length
    rw [List.take_length] at one
    have all := ih one
    rw [List.append_assoc, ← List.flatMap_cons] at all
    rw [grown_grown, ← List.length_append, ← List.flatten_cons] at all
    exact all

/-- What was received: every chunk up to its first zero byte. -/
theorem holds_received (chunks : List Bytes) :
    (received chunks).Holds (chunks.flatMap textOf) (grown 0 chunks.flatten.length) :=
  holds_chunks chunks holds_empty

lemma holds_step (p : Passing) {m : HttpMessage} {text : Bytes} {size : ℕ}
    (holds : m.Holds text size) :
    (p.step m).Holds text (if size = 0 then 0 else size + p.copies) := by
  cases p with
  | construct => exact holds_copy holds
  | assign target => exact holds_assign (m := target) holds
  | assignSelf =>
    have same : (if size = 0 then 0 else size + Passing.copies .assignSelf) = size := by
      rw [Passing.copies, Nat.add_zero, ite_eq_right_iff]
      exact Eq.symm
    rw [same]
    exact holds

/-- On its way a message keeps its text, and tells one byte more for every copy. -/
theorem holds_passed (passings : List Passing) {m : HttpMessage} {text : Bytes} {size : ℕ}
    (holds : m.Holds text size) :
    (run Passing.step m passings).Holds text
      (if size = 0 then 0 else size + (passings.map Passing.copies).sum) := by
  induction passings generalizing m size with
  | nil =>
    rw [List.map_nil, List.sum_nil, Nat.add_zero, ite_eq_right_iff.mpr Eq.symm]
    exact holds
  | cons p passings ih =>
    have all := ih (holds_step p holds)
    have sizes : (if (if size = 0 then 0 else size + p.copies) = 0 then 0
          else (if size = 0 then 0 else size + p.copies) + (passings.map Passing.copies).sum) =
        if size = 0 then 0 else size + ((p :: passings).map Passing.copies).sum := by
      rw [List.map_cons, List.sum_cons]
      by_cases none : size = 0
      · simp [none]
      · rw [if_neg none, if_neg none, if_neg (by omega), Nat.add_assoc]
    rw [sizes] at all
    exact all

/-- The size told at the end counts a byte for the zero and one for every copy made. -/
theorem bodySize_passed (chunks : List Bytes) (passings : List Passing)
    (some : chunks.flatten ≠ []) :
    (run Passing.step (received chunks) passings).bodySize =
      chunks.flatten.length + 1 + (passings.map Passing.copies).sum := by
  have pos := List.length_pos_iff.mpr some
  have size := (seenBody_holds (holds_passed passings (holds_received chunks))).1
  rw [size, grown, if_neg pos.ne', if_pos rfl, if_neg (by omega)]

/-- The consumer sees the chunks and their length exactly when no byte was received. -/
theorem body_faithful_iff (chunks : List Bytes) (passings : List Passing) :
    ((run Passing.step (received chunks) passings).seenBody = chunks.flatten ∧
        (run Passing.step (received chunks) passings).bodySize = chunks.flatten.length) ↔
      chunks.flatten = [] := by
  constructor
  · rintro ⟨-, size⟩
    by_contra some
    rw [bodySize_passed chunks passings some] at size
    omega
  · intro none
    have whole := seenBody_holds (holds_passed passings (holds_received chunks))
    have texts : chunks.flatMap textOf = [] := by
      rw [List.flatMap_eq_nil_iff]
      intro chunk among
      rw [List.flatten_eq_nil_iff.mp none chunk among]
      rfl
    rw [texts, none] at whole
    rw [none]
    exact ⟨whole.2, whole.1⟩

/-- The answer `ok`, seen at once. -/
theorem body_ok_wrong :
    ¬ ((run Passing.step (received [ascii "ok"]) []).seenBody = [ascii "ok"].flatten ∧
      (run Passing.step (received [ascii "ok"]) []).bodySize = [ascii "ok"].flatten.length) := by
  decide

end NlsSdk.Token
