import NlsSdk.Framework.NlsEventInner

/-!
# The two ways to parse a message

A record with a text is never told that its text is empty, at whatever point
the reading stops. The public parser hands the text to no one: it parses a
record of its own that was built without one.
-/
namespace NlsSdk.Framework

open Library
open Transport (Bytes ascii EventType NlsType NlsRetCode)

namespace NlsEventInner

/-- A part of the parser that keeps the text and never finds it empty. -/
abbrev ReadsText {α : Type} (m : Parsing α) : Prop :=
  Checked (fun inner : NlsEventInner => inner.msg ≠ []) (· ≠ NlsRetCode.nlsEventMsgEmpty) m

section
variable {α : Type}

lemma guarded_readsText (value : Except Json.TypeError α) : ReadsText (guarded value) := by
  cases value with
  | ok a => exact checked_pure a
  | error e => exact checked_throw (by decide)

lemma update_readsText {change : EventFields → EventFields}
    (keeps : ∀ e, (change e).msg = e.msg) : ReadsText (update change) := by
  apply checked_modify
  intro inner text
  change (change inner.toEventFields).msg ≠ []
  rw [keeps]
  exact text

lemma readMember_readsText (object : Json) (key : String) (asType? : Json → Option α)
    {set : EventFields → α → EventFields} (keeps : ∀ e a, (set e a).msg = e.msg) :
    ReadsText (readMember object key asType? set) := by
  refine checked_bind (guarded_readsText _) fun value => ?_
  cases asType? value with
  | some a => exact update_readsText fun e => keeps e a
  | none => exact checked_pure ()

end

lemma readWords_readsText (keys : WordKeys) (words : List Json) (wordInfo : WordInfomation) :
    ReadsText (readWords keys words wordInfo) := by
  induction words generalizing wordInfo with
  | nil => exact checked_pure ()
  | cons word rest ih =>
    refine checked_bind (guarded_readsText _) fun next => ?_
    refine checked_bind (update_readsText fun _ => rfl) fun _ => ?_
    exact ih next

lemma readWordArray_readsText (env : JsonEnv) (keys : WordKeys) (object : Json) :
    ReadsText (readWordArray env keys object) := by
  refine checked_bind (guarded_readsText _) fun value => ?_
  cases value.array? with
  | none => exact checked_pure false
  | some words =>
    refine checked_bind (readWords_readsText keys words _) fun _ => ?_
    exact checked_pure _

/-! ## The header -/

lemma parseMsgType_readsText (name : Bytes) : ReadsText (parseMsgType name) := by
  unfold parseMsgType
  split
  · exact update_readsText fun _ => rfl
  · exact checked_throw (by decide)

lemma parseKnownType_readsText (ignore : Bool) (name : Bytes) :
    ReadsText (parseKnownType ignore name) := by
  apply checked_ite
  · exact checked_tryCatch (parseMsgType_readsText name) fun _ => checked_pure ()
  · exact parseMsgType_readsText name

lemma parseName_readsText (ignore : Bool) (head : Json) : ReadsText (parseName ignore head) := by
  refine checked_bind (guarded_readsText _) fun name => ?_
  refine checked_bind (guarded_readsText _) fun event => ?_
  refine checked_bind checked_get fun inner => ?_
  apply checked_ite
  · refine checked_bind (guarded_readsText _) fun text => ?_
    exact parseKnownType_readsText ignore text
  · exact checked_pure ()

lemma parseStatus_readsText (ignore : Bool) (head : Json) :
    ReadsText (parseStatus ignore head) := by
  refine checked_bind checked_get fun inner => ?_
  refine checked_ite (checked_pure ()) ?_
  refine checked_bind (guarded_readsText _) fun status => ?_
  cases status.int? with
  | some code => exact update_readsText fun _ => rfl
  | none => exact checked_ite (checked_pure ()) (checked_throw (by decide))

lemma parseHeaderless_readsText (ignore : Bool) (root : Json) :
    ReadsText (parseHeaderless ignore root) := by
  refine checked_bind (guarded_readsText _) fun closed => ?_
  refine checked_bind (guarded_readsText _) fun failed => ?_
  refine checked_ite (update_readsText fun _ => rfl) ?_
  refine checked_ite (update_readsText fun _ => rfl) ?_
  exact checked_ite (checked_pure ()) (checked_throw (by decide))

lemma parseHead_readsText (ignore : Bool) (root : Json) : ReadsText (parseHead ignore root) := by
  refine checked_bind (guarded_readsText _) fun head => ?_
  apply checked_ite
  · refine checked_bind (parseName_readsText ignore head) fun _ => ?_
    refine checked_bind (parseStatus_readsText ignore head) fun _ => ?_
    exact readMember_readsText _ _ _ fun _ _ => rfl
  · exact parseHeaderless_readsText ignore root

/-! ## The payload of the speech service -/

lemma parseWakeWord_readsText (payload : Json) : ReadsText (parseWakeWord payload) := by
  refine checked_bind checked_get fun inner => ?_
  apply checked_ite
  · refine checked_bind (readMember_readsText _ _ _ fun _ _ => rfl) fun _ => ?_
    refine checked_bind (readMember_readsText _ _ _ fun _ _ => rfl) fun _ => ?_
    refine checked_bind (readMember_readsText _ _ _ fun _ _ => rfl) fun _ => ?_
    exact readMember_readsText _ _ _ fun _ _ => rfl
  · exact checked_pure ()

lemma parseStashResult_readsText (payload : Json) : ReadsText (parseStashResult payload) := by
  refine checked_bind checked_get fun inner => ?_
  refine checked_bind (guarded_readsText _) fun stash => ?_
  apply checked_ite
  · refine checked_bind (readMember_readsText _ _ _ fun _ _ => rfl) fun _ => ?_
    refine checked_bind (readMember_readsText _ _ _ fun _ _ => rfl) fun _ => ?_
    refine checked_bind (readMember_readsText _ _ _ fun _ _ => rfl) fun _ => ?_
    exact readMember_readsText _ _ _ fun _ _ => rfl
  · exact checked_pure ()

lemma parsePayloadObject_readsText (env : JsonEnv) (payload : Json) :
    ReadsText (parsePayloadObject env payload) := by
  iterate 8
    refine checked_bind (readMember_readsText _ _ _ fun _ _ => rfl) fun _ => ?_
  refine checked_bind (readWordArray_readsText env _ payload) fun _ => ?_
  refine checked_bind (parseWakeWord_readsText payload) fun _ => ?_
  exact parseStashResult_readsText payload

lemma parsePayload_readsText (env : JsonEnv) (root : Json) :
    ReadsText (parsePayload env root) := by
  refine checked_bind checked_get fun inner => ?_
  refine checked_ite (checked_pure ()) ?_
  refine checked_bind (guarded_readsText _) fun payload => ?_
  exact checked_ite (parsePayloadObject_readsText env payload) (checked_pure ())

/-! ## The payload of the model service -/

lemma outputSentence_readsText (payload : Json) : ReadsText (outputSentence payload) := by
  refine checked_bind (guarded_readsText _) fun output => ?_
  exact checked_ite (checked_pure _) (guarded_readsText _)

lemma usageMember_readsText (payload : Json) (key : String) :
    ReadsText (usageMember payload key) := by
  refine checked_bind (guarded_readsText _) fun usage => ?_
  refine checked_ite (checked_pure _) ?_
  refine checked_bind (guarded_readsText _) fun value => ?_
  exact checked_pure _

lemma setUsage_readsText (usage : Option ℤ) : ReadsText (setUsage usage) := by
  cases usage with
  | some i => exact update_readsText fun _ => rfl
  | none => exact checked_pure ()

lemma parseStSentence_readsText (env : JsonEnv) (sentence : Json) :
    ReadsText (parseStSentence env sentence) := by
  iterate 4
    refine checked_bind (guarded_readsText _) fun _ => ?_
  refine checked_bind (update_readsText fun _ => rfl) fun _ => ?_
  iterate 4
    refine checked_bind (readMember_readsText _ _ _ fun _ _ => rfl) fun _ => ?_
  refine checked_bind (readWordArray_readsText env _ sentence) fun _ => ?_
  exact checked_pure ()

lemma parseStResult_readsText (env : JsonEnv) (root : Json) :
    ReadsText (parseStResult env root) := by
  refine checked_bind (guarded_readsText _) fun payload => ?_
  apply checked_ite
  · refine checked_bind (outputSentence_readsText payload) fun sentence => ?_
    refine checked_bind ?_ fun _ => ?_
    · exact checked_ite (checked_pure ()) (parseStSentence_readsText env sentence)
    refine checked_bind (usageMember_readsText payload _) fun duration => ?_
    exact setUsage_readsText duration
  · exact checked_pure ()

/-- The text is there when the record is read for the second time. -/
lemma convertResult_readsText (env : JsonEnv) (started completed : EventType)
    {parse : Json → Parsing Unit} (parses : ∀ root, ReadsText (parse root)) :
    ReadsText (convertResult env started completed parse) := by
  refine checked_get_bind fun inner text => ?_
  rw [if_neg text]
  refine checked_ite (update_readsText fun _ => rfl) ?_
  refine checked_ite (update_readsText fun _ => rfl) ?_
  cases env.parseFromStream inner.msg with
  | none => exact checked_throw (by decide)
  | some root => exact parses root

lemma parseFssSentence_readsText (env : JsonEnv) (sentence : Json) :
    ReadsText (parseFssSentence env sentence) := by
  refine checked_bind (update_readsText fun _ => rfl) fun _ => ?_
  refine checked_bind (readMember_readsText _ _ _ fun _ _ => rfl) fun _ => ?_
  exact readWordArray_readsText env _ sentence

lemma parseFssPayload_readsText (env : JsonEnv) (payload : Json) :
    ReadsText (parseFssPayload env payload) := by
  refine checked_bind (outputSentence_readsText payload) fun sentence => ?_
  refine checked_bind ?_ fun worded => ?_
  · exact checked_ite (checked_pure false) (parseFssSentence_readsText env sentence)
  refine checked_bind (usageMember_readsText payload _) fun characters => ?_
  refine checked_bind (setUsage_readsText characters) fun _ => ?_
  exact checked_pure _

lemma parseFssResult_readsText (env : JsonEnv) (root : Json) :
    ReadsText (parseFssResult env root) := by
  refine checked_bind checked_get fun inner => ?_
  refine checked_bind ?_ fun said => ?_
  · refine checked_bind (guarded_readsText _) fun payload => ?_
    exact checked_ite (parseFssPayload_readsText env payload) (checked_pure false)
  exact checked_ite (checked_pure ()) (checked_throw (by decide))

lemma convertResultGenerated_readsText (env : JsonEnv) (nlsType : NlsType) :
    ReadsText (convertResultGenerated env nlsType) := by
  cases nlsType
  case typeDashScopeFunAsrRealTime =>
    exact convertResult_readsText env _ _ (parseStResult_readsText env)
  case typeDashScopeParaformerRealTime =>
    exact convertResult_readsText env _ _ (parseStResult_readsText env)
  case typeDashSceopCosyVoiceStreamInputTts =>
    exact convertResult_readsText env _ _ (parseFssResult_readsText env)
  all_goals exact checked_pure ()

/-! ## The whole message -/

lemma parseMsg_readsText (env : JsonEnv) (ignore : Bool) : ReadsText (parseMsg env ignore) := by
  refine checked_get_bind fun inner text => ?_
  rw [if_neg text]
  cases env.parseFromStream inner.msg with
  | none => exact checked_throw (by decide)
  | some root =>
    refine checked_bind (parseHead_readsText ignore root) fun _ => ?_
    refine checked_bind checked_get fun read => ?_
    apply checked_ite
    · exact convertResultGenerated_readsText env read.nlsType
    · exact parsePayload_readsText env root

/-- A record with a text is never told that the text is empty. -/
theorem parseJsonMsg_not_empty (env : JsonEnv) (ignore : Bool) {this : NlsEventInner}
    (text : this.msg ≠ []) :
    (parseJsonMsg env ignore this).1 ≠ .error .nlsEventMsgEmpty := by
  intro failed
  exact (parseMsg_readsText env ignore this text).2 _ failed rfl

theorem parseJsonMsg_empty (env : JsonEnv) (ignore : Bool) {this : NlsEventInner}
    (none : this.msg = []) : parseJsonMsg env ignore this = (.error .nlsEventMsgEmpty, this) := by
  unfold parseJsonMsg parseMsg
  rw [runFrom_bind]
  change (if this.msg = [] then _ else _ : Parsing Unit).runFrom this = _
  rw [if_pos none]
  rfl

end NlsEventInner

/-! ## The public parser -/

/-- Whatever the event holds, the public parser finds no text and leaves the event as it is. -/
theorem NlsEvent.parseJsonMsg_eq (env : JsonEnv) (ignore : Bool) (this : NlsEvent) :
    this.parseJsonMsg env ignore = (.error .nlsEventMsgEmpty, this) := by
  unfold NlsEvent.parseJsonMsg
  rw [NlsEventInner.parseJsonMsg_empty env ignore rfl]
  split <;> rfl

/-- Both parsers return the same code for a text; on success the event is what the record gives
it, on failure it is unchanged. -/
structure ParsersAgree (env : JsonEnv) (ignore : Bool) (msg : Bytes) (nlsType : NlsType)
    (serviceProtocol : NlsServiceProtocol) : Prop where
  code : ((NlsEvent.ofMsg msg nlsType serviceProtocol).parseJsonMsg env ignore).1 =
    (NlsEventInner.parseJsonMsg env ignore (.ofMsg msg nlsType serviceProtocol)).1
  success : (NlsEventInner.parseJsonMsg env ignore (.ofMsg msg nlsType serviceProtocol)).1 = .ok () →
    ((NlsEvent.ofMsg msg nlsType serviceProtocol).parseJsonMsg env ignore).2 =
      (NlsEventInner.parseJsonMsg env ignore (.ofMsg msg nlsType serviceProtocol)).2.transferEvent
        (NlsEvent.ofMsg msg nlsType serviceProtocol)
  failure : (NlsEventInner.parseJsonMsg env ignore (.ofMsg msg nlsType serviceProtocol)).1 ≠ .ok () →
    ((NlsEvent.ofMsg msg nlsType serviceProtocol).parseJsonMsg env ignore).2 =
      NlsEvent.ofMsg msg nlsType serviceProtocol

/-- The two parsers agree on the empty text only. -/
theorem parsers_agree (env : JsonEnv) (ignore : Bool) (msg : Bytes) (nlsType : NlsType)
    (serviceProtocol : NlsServiceProtocol) :
    ParsersAgree env ignore msg nlsType serviceProtocol ↔ msg = [] := by
  constructor
  · intro agree
    by_contra text
    have told := agree.code
    rw [NlsEvent.parseJsonMsg_eq] at told
    let inner := NlsEventInner.ofMsg msg nlsType serviceProtocol
    have some_ : inner.msg ≠ [] := text
    exact NlsEventInner.parseJsonMsg_not_empty env ignore some_ told.symm
  · intro empty
    subst empty
    have nothing : (NlsEventInner.ofMsg [] nlsType serviceProtocol).msg = [] := rfl
    have inner := NlsEventInner.parseJsonMsg_empty env ignore nothing
    constructor
    · rw [NlsEvent.parseJsonMsg_eq, inner]
    · intro parsed
      rw [inner] at parsed
      cases parsed
    · intro _
      rw [NlsEvent.parseJsonMsg_eq]

/-- The end of a sentence as the speech service sends it. -/
def sentenceEndText : Bytes :=
  ascii "\x7b\"header\":\x7b\"name\":\"SentenceEnd\",\"status\":20000000\x7d\x7d"

/-- A reader that knows this text. -/
def sentenceEndReader : JsonEnv where
  parseFromStream text :=
    if text = sentenceEndText then
      some (.object [(ascii "header", .object [
        (ascii "name", .string (ascii "SentenceEnd")), (ascii "status", .int 20000000)])])
    else
      none

/-- The record reads the end of a sentence, the event built from the same text does not. -/
theorem sentenceEnd_refused :
    (NlsEventInner.parseJsonMsg sentenceEndReader false
        (.ofMsg sentenceEndText .typeRealTime .wsServiceProtocolNls)).1 = .ok () ∧
      ¬ParsersAgree sentenceEndReader false sentenceEndText .typeRealTime
        .wsServiceProtocolNls := by
  have read : (NlsEventInner.parseJsonMsg sentenceEndReader false
      (.ofMsg sentenceEndText .typeRealTime .wsServiceProtocolNls)).1 = .ok () := by
    decide +kernel
  refine ⟨read, fun agree => ?_⟩
  have told := agree.code
  rw [NlsEvent.parseJsonMsg_eq, read] at told
  cases told

end NlsSdk.Framework
