import NlsSdk.Library.Run
import NlsSdk.Transport.Global

/-!
# The queue of encoded audio

`nlsEncoder.cpp` in Ogg/Opus mode over the array queue of `thread_data.h`: the
callback of the encoder queues every piece of a page as an array, and a call
takes out of the queue as much as the output buffer holds. The stream is
conserved as long as what is taken out ends at the end of an array.
-/
namespace NlsSdk.Encoder

open NlsSdk.Library NlsSdk.Transport

/-! ## The array queue -/

/-- `DataBase<uint8_t>`: the arrays of `data_`. -/
abbrev DataBase := List Bytes

namespace DataBase

/-- An array without elements is refused. -/
def pushback (data : DataBase) (array : Bytes) : DataBase :=
  if array = [] then data else data ++ [array]

def elementNum (data : DataBase) : ℕ := (data.map List.length).sum

/-- `Get` with `is_delete_after_get` from the first array on: an array that is read to its end is
deleted, the one the reading stops in stays whole and `start_element_idx` moves in it. -/
def get (elementNum : ℕ) (startElementIdx : ℕ) : DataBase → Bytes × ℕ × DataBase
  | [] => ([], startElementIdx, [])
  | array :: rest =>
    if elementNum = 0 then
      ([], startElementIdx, array :: rest)
    else if array.length ≤ startElementIdx + elementNum then
      let (data, idx, left) := get (elementNum - (array.length - startElementIdx)) 0 rest
      (array.drop startElementIdx ++ data, idx, left)
    else
      ((array.drop startElementIdx).take elementNum, startElementIdx + elementNum, array :: rest)

end DataBase

/-! ## The encoder -/

/-- What `OggopusEncode` does in a call: the pieces of pages the callback is given, and whether it
returns `Success`. -/
structure OggopusCall where
  pages : List Bytes := []
  succeeds : Bool := true
  deriving DecidableEq, Repr

/-- `nlsEncoder_` is there or not; `encoder_type_` is `ENCODER_OPUS` where it is. -/
structure NlsEncoder where
  created : Bool := false
  encodedData : DataBase := []
  deriving DecidableEq, Repr

namespace NlsEncoder

def createNlsEncoder (encoder : NlsEncoder) : NlsEncoder :=
  if encoder.created then encoder else { encoder with created := true }

/-- `pushbackEncodedData` for every piece the callback is given. -/
def pushbackEncodedData (encoder : NlsEncoder) (pages : List Bytes) : NlsEncoder :=
  { encoder with encodedData := pages.foldl DataBase.pushback encoder.encodedData }

/-- `(data_len > outputSize) ? outputSize : data_len`, zero where the number of queued bytes is
not positive as an `int`. -/
def dataLen (data : DataBase) (outputSize : ℕ) : ℕ :=
  min ((data.elementNum : ℤ).bmod (2 ^ 32)).toNat outputSize

/-- The bytes a call returns, none for an error. The read cursor is a local variable. -/
def nlsEncoding (encoder : NlsEncoder) (frameBuff : Bytes) (outputSize : ℕ)
    (call : OggopusCall) : Option Bytes × NlsEncoder :=
  if frameBuff = [] ∨ outputSize = 0 then
    (some [], encoder)
  else if encoder.created = false then
    (none, encoder)
  else
    let encoder := encoder.pushbackEncodedData call.pages
    if call.succeeds then
      let (output, _, left) := DataBase.get (dataLen encoder.encodedData outputSize) 0
        encoder.encodedData
      (some output, { encoder with encodedData := left })
    else
      (none, encoder)

/-- Only the Ogg stream starts anew. -/
def nlsEncoderSoftRestart (encoder : NlsEncoder) : NlsEncoder := encoder

def destroyNlsEncoder (encoder : NlsEncoder) : NlsEncoder :=
  if encoder.created then { created := false, encodedData := [] } else encoder

end NlsEncoder

/-! ## What a read takes -/

/-- The first `n` elements end at the end of an array. -/
def AtArrayEnd (n : ℕ) (data : DataBase) : Prop := ∃ k, (data.take k).flatten.length = n

namespace DataBase

lemma elementNum_eq (data : DataBase) : data.elementNum = data.flatten.length := by
  rw [List.length_flatten]
  rfl

@[simp] lemma flatten_pushback (data : DataBase) (array : Bytes) :
    (data.pushback array).flatten = data.flatten ++ array := by
  unfold pushback
  split
  · next empty => rw [empty, List.append_nil]
  · simp

lemma flatten_foldl_pushback (pages : List Bytes) (data : DataBase) :
    (pages.foldl pushback data).flatten = data.flatten ++ pages.flatten := by
  induction pages generalizing data with
  | nil => simp
  | cons page pages ih =>
    rw [List.foldl_cons, ih, flatten_pushback, List.flatten_cons, List.append_assoc]

/-- A read hands out the first elements of the queue. -/
theorem get_output (n : ℕ) (data : DataBase) : (get n 0 data).1 = data.flatten.take n := by
  induction data generalizing n with
  | nil => simp [get]
  | cons array rest ih =>
    unfold get
    by_cases none : n = 0
    · simp [none]
    by_cases past : array.length ≤ n
    · rw [if_neg none, Nat.zero_add, if_pos past]
      simp only [List.drop_zero, Nat.sub_zero, List.flatten_cons, List.take_append,
        List.take_of_length_le past, ih]
    · rw [if_neg none, Nat.zero_add, if_neg past]
      have short : n - array.length = 0 := by omega
      simp [List.take_append, short]

lemma atArrayEnd_cons {n : ℕ} {array : Bytes} {rest : DataBase} (some_ : n ≠ 0)
    (past : array.length ≤ n) :
    AtArrayEnd n (array :: rest) ↔ AtArrayEnd (n - array.length) rest := by
  constructor
  · rintro ⟨k, ends⟩
    cases k with
    | zero => exact absurd ends.symm some_
    | succ k =>
      refine ⟨k, ?_⟩
      simp only [List.take_succ_cons, List.flatten_cons, List.length_append] at ends
      omega
  · rintro ⟨k, ends⟩
    refine ⟨k + 1, ?_⟩
    simp only [List.take_succ_cons, List.flatten_cons, List.length_append]
    omega

lemma not_atArrayEnd_cons {n : ℕ} {array : Bytes} {rest : DataBase} (some_ : n ≠ 0)
    (inside : n < array.length) : ¬AtArrayEnd n (array :: rest) := by
  rintro ⟨k, ends⟩
  cases k with
  | zero => exact some_ ends.symm
  | succ k =>
    simp only [List.take_succ_cons, List.flatten_cons, List.length_append] at ends
    omega

/-- What is left behind is the rest of the queue exactly when the read stops at the end of an
array. -/
theorem get_left {n : ℕ} {data : DataBase} (enough : n ≤ data.flatten.length) :
    (get n 0 data).2.2.flatten = data.flatten.drop n ↔ AtArrayEnd n data := by
  induction data generalizing n with
  | nil =>
    obtain rfl := Nat.le_zero.mp enough
    exact ⟨fun _ => ⟨0, rfl⟩, fun _ => rfl⟩
  | cons array rest ih =>
    unfold get
    by_cases none : n = 0
    · subst none
      exact ⟨fun _ => ⟨0, rfl⟩, fun _ => rfl⟩
    by_cases past : array.length ≤ n
    · rw [if_neg none, Nat.zero_add, if_pos past, atArrayEnd_cons none past]
      have dropped : array.drop n = [] := List.drop_eq_nil_of_le past
      rw [List.flatten_cons, List.length_append] at enough
      rw [List.flatten_cons, List.drop_append, dropped, List.nil_append]
      exact ih (by omega)
    · rw [if_neg none, Nat.zero_add, if_neg past]
      refine ⟨fun same => ?_, fun ends => absurd ends (not_atArrayEnd_cons none (by omega))⟩
      have lengths := congrArg List.length same
      rw [List.length_drop, List.flatten_cons, List.length_append] at lengths
      omega

end DataBase

/-! ## The stream of a session -/

/-- An encoder with what its callback was given and what was returned in the session. -/
structure EncodedStream where
  encoder : NlsEncoder := {}
  delivered : Bytes := []
  returned : Bytes := []
  deriving DecidableEq, Repr

inductive EncoderOp
  | createNlsEncoder
  | nlsEncoding (frameBuff : Bytes) (outputSize : ℕ) (call : OggopusCall)
  | nlsEncoderSoftRestart
  | destroyNlsEncoder
  deriving DecidableEq, Repr

namespace EncodedStream

/-- The call gets as far as the encoder. -/
def Encodes (s : EncodedStream) (frameBuff : Bytes) (outputSize : ℕ) : Prop :=
  frameBuff ≠ [] ∧ outputSize ≠ 0 ∧ s.encoder.created = true

instance (s : EncodedStream) (frameBuff : Bytes) (outputSize : ℕ) :
    Decidable (s.Encodes frameBuff outputSize) := by
  unfold Encodes
  infer_instance

/-- Either restart of an encoder that is there begins a new session. -/
def step (s : EncodedStream) : EncoderOp → EncodedStream
  | .createNlsEncoder => { s with encoder := s.encoder.createNlsEncoder }
  | .nlsEncoding frameBuff outputSize call =>
    { encoder := (s.encoder.nlsEncoding frameBuff outputSize call).2
      delivered :=
        if s.Encodes frameBuff outputSize then s.delivered ++ call.pages.flatten else s.delivered
      returned :=
        s.returned ++ (s.encoder.nlsEncoding frameBuff outputSize call).1.getD [] }
  | .nlsEncoderSoftRestart =>
    if s.encoder.created then { encoder := s.encoder.nlsEncoderSoftRestart } else s
  | .destroyNlsEncoder =>
    if s.encoder.created then { encoder := s.encoder.destroyNlsEncoder } else s

/-- What was returned is the beginning of what was delivered in the session, and the rest of it is
queued. -/
structure Conserved (s : EncodedStream) : Prop where
  isPrefix : s.returned <+: s.delivered
  queued : s.encoder.encodedData.flatten = s.delivered.drop s.returned.length

/-- What a call takes out ends at the end of a queued array, and the encoder is restarted softly
with nothing queued only. -/
def Kept (s : EncodedStream) : EncoderOp → Prop
  | .nlsEncoding frameBuff outputSize call =>
    s.Encodes frameBuff outputSize → call.succeeds = true →
      let queue := (s.encoder.pushbackEncodedData call.pages).encodedData
      AtArrayEnd (NlsEncoder.dataLen queue outputSize) queue
  | .nlsEncoderSoftRestart => s.encoder.created = true → s.encoder.encodedData.elementNum = 0
  | _ => True

lemma conserved_iff (s : EncodedStream) :
    s.Conserved ↔ s.delivered = s.returned ++ s.encoder.encodedData.flatten := by
  constructor
  · rintro ⟨⟨rest, whole⟩, queued⟩
    rw [queued, ← whole, List.drop_left]
  · intro whole
    exact ⟨⟨_, whole.symm⟩, by rw [whole, List.drop_left]⟩

lemma dataLen_le (data : DataBase) (outputSize : ℕ) :
    NlsEncoder.dataLen data outputSize ≤ data.flatten.length := by
  have number := DataBase.elementNum_eq data
  have wrapped : (data.elementNum : ℤ).bmod (2 ^ 32) ≤ data.elementNum := by
    rw [Int.bmod_def]
    split <;> omega
  unfold NlsEncoder.dataLen
  omega

/-- A call that does not get to the encoder, or fails in it, takes nothing out. -/
lemma nlsEncoding_idle {s : EncodedStream} {frameBuff : Bytes} {outputSize : ℕ}
    (idle : ¬s.Encodes frameBuff outputSize) (call : OggopusCall) :
    (s.encoder.nlsEncoding frameBuff outputSize call).2 = s.encoder ∧
      (s.encoder.nlsEncoding frameBuff outputSize call).1.getD [] = [] := by
  unfold NlsEncoder.nlsEncoding
  split
  · exact ⟨rfl, rfl⟩
  split
  · exact ⟨rfl, rfl⟩
  · next valid present =>
    obtain ⟨some_, room⟩ := not_or.mp valid
    exact absurd ⟨some_, room, Bool.eq_true_of_not_eq_false present⟩ idle

lemma nlsEncoding_failed {s : EncodedStream} {frameBuff : Bytes} {outputSize : ℕ}
    (encodes : s.Encodes frameBuff outputSize) {call : OggopusCall}
    (failed : call.succeeds = false) :
    s.encoder.nlsEncoding frameBuff outputSize call =
      (none, s.encoder.pushbackEncodedData call.pages) := by
  obtain ⟨some_, room, present⟩ := encodes
  unfold NlsEncoder.nlsEncoding
  rw [if_neg (not_or.mpr ⟨some_, room⟩), if_neg (by rw [present]; decide), failed]
  rfl

lemma nlsEncoding_succeeded {s : EncodedStream} {frameBuff : Bytes} {outputSize : ℕ}
    (encodes : s.Encodes frameBuff outputSize) {call : OggopusCall}
    (succeeded : call.succeeds = true) :
    let queue := (s.encoder.pushbackEncodedData call.pages).encodedData
    let taken := queue.get (NlsEncoder.dataLen queue outputSize) 0
    s.encoder.nlsEncoding frameBuff outputSize call =
      (some taken.1, { s.encoder with encodedData := taken.2.2 }) := by
  obtain ⟨some_, room, present⟩ := encodes
  unfold NlsEncoder.nlsEncoding
  rw [if_neg (not_or.mpr ⟨some_, room⟩), if_neg (by rw [present]; decide), succeeded]
  rfl

/-- Taking the first `n` elements out conserves the stream when they end at the end of an array. -/
lemma taken_conserved {n : ℕ} {queue : DataBase} (room : n ≤ queue.flatten.length)
    (returned : Bytes) :
    returned ++ queue.flatten = returned ++ (queue.get n 0).1 ++ (queue.get n 0).2.2.flatten ↔
      AtArrayEnd n queue := by
  rw [← DataBase.get_left room, DataBase.get_output, List.append_assoc,
    List.append_cancel_left_eq]
  constructor
  · intro same
    refine @List.append_cancel_left _ (queue.flatten.take n) _ _ ?_
    rw [List.take_append_drop, ← same]
  · intro same
    rw [same, List.take_append_drop]

lemma nlsEncoding_conserved {s : EncodedStream} (conserved : s.Conserved) (frameBuff : Bytes)
    (outputSize : ℕ) (call : OggopusCall) :
    (s.step (.nlsEncoding frameBuff outputSize call)).Conserved ↔
      s.Kept (.nlsEncoding frameBuff outputSize call) := by
  have whole := (conserved_iff s).mp conserved
  rw [conserved_iff]
  by_cases encodes : s.Encodes frameBuff outputSize
  · have pushed : (s.encoder.pushbackEncodedData call.pages).encodedData.flatten =
        s.encoder.encodedData.flatten ++ call.pages.flatten :=
      DataBase.flatten_foldl_pushback call.pages s.encoder.encodedData
    have delivered : s.delivered ++ call.pages.flatten =
        s.returned ++ (s.encoder.pushbackEncodedData call.pages).encodedData.flatten := by
      rw [pushed, whole, List.append_assoc]
    simp only [step, if_pos encodes, Kept, delivered]
    cases outcome : call.succeeds with
    | false =>
      rw [nlsEncoding_failed encodes outcome]
      refine ⟨fun _ _ succeeded => absurd succeeded (by decide), fun _ => ?_⟩
      rw [Option.getD_none, List.append_nil]
    | true =>
      rw [nlsEncoding_succeeded encodes outcome, Option.getD_some,
        taken_conserved (dataLen_le _ outputSize)]
      exact ⟨fun ends _ _ => ends, fun ends => ends encodes rfl⟩
  · obtain ⟨same, nothing⟩ := nlsEncoding_idle encodes call
    simp only [step, if_neg encodes, same, nothing, List.append_nil]
    exact ⟨fun _ reaches => absurd reaches encodes, fun _ => whole⟩

/-- From a conserved stream a step leads to one exactly when it meets the condition. -/
theorem step_conserved (s : EncodedStream) (op : EncoderOp) (conserved : s.Conserved) :
    (s.step op).Conserved ↔ s.Kept op := by
  cases op with
  | createNlsEncoder =>
    refine ⟨fun _ => trivial, fun _ => ?_⟩
    have whole := (conserved_iff s).mp conserved
    rw [conserved_iff]
    simp only [step, NlsEncoder.createNlsEncoder]
    split <;> exact whole
  | nlsEncoding frameBuff outputSize call =>
    exact nlsEncoding_conserved conserved frameBuff outputSize call
  | nlsEncoderSoftRestart =>
    simp only [step, Kept]
    by_cases present : s.encoder.created = true
    · rw [if_pos present, conserved_iff, DataBase.elementNum_eq, List.length_eq_zero_iff]
      exact ⟨fun empty _ => empty.symm, fun empty => (empty present).symm⟩
    · rw [if_neg present]
      exact ⟨fun _ there => absurd there present, fun _ => conserved⟩
  | destroyNlsEncoder =>
    refine ⟨fun _ => trivial, fun _ => ?_⟩
    simp only [step]
    by_cases present : s.encoder.created = true
    · rw [if_pos present, conserved_iff, NlsEncoder.destroyNlsEncoder, if_pos present]
      rfl
    · rw [if_neg present]
      exact conserved

/-- In every state of a run on a new encoder the stream is conserved, exactly when every call of
the run meets the condition. -/
theorem stream_conserved (ops : List EncoderOp) :
    (∀ part, part <+: ops → (run step {} part).Conserved) ↔ Along step Kept {} ops :=
  along_iff_invariant step_conserved ⟨List.prefix_rfl, rfl⟩ ops

/-- A page of four bytes is queued and three bytes are taken at a time. -/
def smallOutput : List EncoderOp :=
  [.createNlsEncoder, .nlsEncoding [0] 3 { pages := [[1, 2, 3, 4]] },
    .nlsEncoding [0] 3 { pages := [] }]

/-- A page is left in the queue when the encoder is restarted softly. -/
def softRestart : List EncoderOp :=
  [.createNlsEncoder, .nlsEncoding [0] 1 { pages := [[1], [2]] }, .nlsEncoderSoftRestart,
    .nlsEncoding [0] 1 { pages := [[3]] }]

/-- The first bytes of the page are returned twice, and a page of the session before a soft restart
is returned behind it. -/
theorem stream_broken :
    (run step {} smallOutput).returned = [1, 2, 3, 1, 2, 3] ∧
      (run step {} softRestart).delivered = [3] ∧ (run step {} softRestart).returned = [2] ∧
      ¬∀ part, part <+: smallOutput → (run step {} part).Conserved := by
  have returned : (run step {} smallOutput).returned = [1, 2, 3, 1, 2, 3] := by decide
  refine ⟨returned, by decide, by decide, fun always => ?_⟩
  have conserved := (always smallOutput List.prefix_rfl).isPrefix
  revert conserved
  decide

end EncodedStream

end NlsSdk.Encoder
