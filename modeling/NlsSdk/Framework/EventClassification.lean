import NlsSdk.Framework.ParserOutline

/-!
# The type of an event of the model service

The header names the type. A start or an end gets the name of its service, and any other message is
searched for a sentence, whose state replaces the type.
-/
namespace NlsSdk.Framework

open Library
open Transport (Bytes ascii EventType NlsType NlsRetCode)

namespace NlsEventInner

/-! ## The header -/

/-- The type of a name, where it is one that is known. -/
def typeOfName (name : Bytes) : Option EventType :=
  (eventNames.map fun (text, type) => (ascii text, type)).lookup name

section

variable (o : Outline) {event : Bytes}

/-- The outline with the type of a name; an unknown one leaves the type. -/
def named (name : Bytes) : Outline := { o with msgType := (typeOfName name).getD o.msgType }

/-- An unknown name is not passed over. -/
def Refused (ignore : Bool) (name : Bytes) : Prop := ignore = false ∧ typeOfName name = none

lemma parseMsgType_type (name : Bytes) :
    Ensures (fun inner : NlsEventInner => inner.outline = o)
      (fun _ inner => typeOfName name ≠ none ∧ inner.outline = named o name)
      (fun inner => typeOfName name = none ∧ inner.outline = named o name)
      (parseMsgType name) := by
  unfold parseMsgType named typeOfName
  cases (eventNames.map fun (text, type) => (ascii text, type)).lookup name with
  | some type =>
    refine ensures_modify fun inner same => ⟨Option.some_ne_none type, ?_⟩
    rw [← same]
    rfl
  | none => exact ensures_throw fun inner same => ⟨rfl, same⟩

lemma parseKnownType_type (ignore : Bool) (name : Bytes) :
    Ensures (fun inner : NlsEventInner => inner.outline = o)
      (fun _ inner => ¬Refused ignore name ∧ inner.outline = named o name)
      (fun inner => Refused ignore name ∧ inner.outline = named o name)
      (parseKnownType ignore name) := by
  cases ignore with
  | true =>
    have passed : ¬Refused true name := fun refused => absurd refused.1 (by decide)
    exact ensures_tryCatch ((parseMsgType_type o name).weaken (fun _ same => same)
      (fun _ _ same => ⟨passed, same.2⟩) fun _ same => same) fun _ =>
        ensures_pure fun _ same => ⟨passed, same.2⟩
  | false =>
    exact (parseMsgType_type o name).weaken (fun _ same => same)
      (fun _ _ same => ⟨fun refused => same.1 refused.2, same.2⟩)
      fun _ same => ⟨⟨rfl, same.1⟩, same.2⟩

/-- A name in `header.event` is taken whatever `header.name` holds. -/
lemma parseName_type (ignore : Bool) {head : Json} (isObject : head.isObject)
    (text : (head.member (ascii "event")).cString? = some event)
    (dashScope : o.serviceProtocol = .wsServiceProtocolDashScope) :
    Ensures (fun inner : NlsEventInner => inner.outline = o)
      (fun _ inner => ¬Refused ignore event ∧ inner.outline = named o event)
      (fun inner => Refused ignore event ∧ inner.outline = named o event)
      (parseName ignore head) := by
  unfold parseName
  rw [Json.get_of_isObject isObject, Json.get_of_isObject isObject]
  refine guarded_bind (fun e refused => by cases refused) fun name _ => ?_
  refine guarded_bind (fun e refused => by cases refused) fun value found => ?_
  obtain rfl := Except.ok.inj found
  refine ensures_get_bind fun inner same => ?_
  have protocol : inner.serviceProtocol = .wsServiceProtocolDashScope :=
    (congrArg Outline.serviceProtocol same).trans dashScope
  rw [text, protocol]
  refine ensures_ite (fun _ => ?_) fun none_ => absurd (.inr rfl) none_
  rw [if_pos rfl, Json.cString, text]
  refine guarded_bind (fun e refused => by cases refused) fun name found => ?_
  obtain rfl := Except.ok.inj found
  exact (parseKnownType_type o ignore _).weaken (fun _ is => is ▸ same) (fun _ _ same => same)
    fun _ same => same

/-- The model service sends no status. -/
lemma parseStatus_dashScope (ignore : Bool) (head : Json)
    (dashScope : o.serviceProtocol = .wsServiceProtocolDashScope) {R : NlsEventInner → Prop} :
    Ensures (fun inner : NlsEventInner => inner.outline = o) (fun _ inner => inner.outline = o) R
      (parseStatus ignore head) := by
  refine ensures_get_bind fun inner same => ?_
  have protocol : inner.serviceProtocol = .wsServiceProtocolDashScope :=
    (congrArg Outline.serviceProtocol same).trans dashScope
  exact ensures_ite (fun _ => ensures_pure fun _ is => is ▸ same) fun other => absurd protocol other

lemma readTaskId_outline {head : Json} (isObject : head.isObject) {R : NlsEventInner → Prop} :
    Ensures (fun inner : NlsEventInner => inner.outline = o) (fun _ inner => inner.outline = o) R
      (readMember head "task_id" Json.cString? fun e taskId => { e with taskId }) := by
  unfold readMember
  rw [Json.get_of_isObject isObject]
  refine guarded_bind (fun e refused => by cases refused) fun value _ => ?_
  cases value.cString? with
  | some taskId => exact ensures_modify fun _ same => same
  | none => exact ensures_pure fun _ same => same

/-- The message names its event. -/
structure Names (root : Json) (event : Bytes) : Prop where
  isObject : root.isObject
  header : (root.member (ascii "header")).isObject
  text : ((root.member (ascii "header")).member (ascii "event")).cString? = some event

lemma parseHead_type (ignore : Bool) {root : Json} (names : Names root event)
    (dashScope : o.serviceProtocol = .wsServiceProtocolDashScope) :
    Ensures (fun inner : NlsEventInner => inner.outline = o)
      (fun _ inner => ¬Refused ignore event ∧ inner.outline = named o event)
      (fun inner => Refused ignore event ∧ inner.outline = named o event)
      (parseHead ignore root) := by
  unfold parseHead
  rw [Json.get_of_isObject names.isObject]
  refine guarded_bind (fun e refused => by cases refused) fun head found => ?_
  obtain rfl := Except.ok.inj found
  refine ensures_ite (fun _ => ?_) fun other => absurd names.header other
  refine ensures_bind (parseName_type o ignore names.header names.text dashScope) fun _ =>
    ensures_of_fact fun passed => ?_
  refine ensures_bind (parseStatus_dashScope (named o event) ignore _ dashScope) fun _ => ?_
  exact (readTaskId_outline (named o event) names.header).weaken (fun _ same => same)
    (fun _ _ same => ⟨passed, same⟩) fun _ same => same

end

/-! ## The payload -/

/-- The type the state of a recognised sentence stands for, where it can be read. -/
def stState (sentence : Json) : Option EventType :=
  if sentence.isObject then
    match (sentence.member (ascii "sentence_end")).toBool,
        (sentence.member (ascii "sentence_begin")).toBool with
    | .ok sentenceEnd, .ok sentenceBegin => some (sentenceType sentenceEnd sentenceBegin)
    | _, _ => none
  else none

/-- Any sentence of a synthesis. -/
def fssState (sentence : Json) : Option EventType :=
  if sentence.isNull then none else some .sentenceSynthesis

/-- A part that keeps the outline keeps the type. -/
lemma Keeps.type {α : Type} {m : Parsing α} (keeps : Keeps m) (type : EventType) :
    Ensures (fun inner : NlsEventInner => inner.msgType = type)
      (fun _ inner => inner.msgType = type) (fun inner => inner.msgType = type) m :=
  keeps.ensures fun o => o.msgType = type

lemma readWords_type (keys : WordKeys) (words : List Json) (wordInfo : WordInfomation)
    (type : EventType) :
    Ensures (fun inner : NlsEventInner => inner.msgType = type)
      (fun _ inner => inner.msgType = type) (fun inner => inner.msgType = type)
      (readWords keys words wordInfo) := by
  induction words generalizing wordInfo with
  | nil => exact ensures_pure fun _ same => same
  | cons word rest ih =>
    refine guarded_bind (fun _ _ _ same => same) fun next _ => ?_
    refine ensures_bind (Q := fun _ inner => inner.msgType = type)
      (ensures_modify fun _ same => same) fun _ => ?_
    exact ih next

lemma readWordArray_type (env : JsonEnv) (keys : WordKeys) (object : Json) (type : EventType) :
    Ensures (fun inner : NlsEventInner => inner.msgType = type)
      (fun _ inner => inner.msgType = type) (fun inner => inner.msgType = type)
      (readWordArray env keys object) := by
  refine guarded_bind (fun _ _ _ same => same) fun value _ => ?_
  cases value.array? with
  | none => exact ensures_pure fun _ same => same
  | some words =>
    refine ensures_bind (readWords_type keys words _ type) fun _ => ?_
    exact ensures_pure fun _ same => same

lemma readMember_type {α β : Type} {object : Json} {key : String} {asType? : Json → Option α}
    {set : EventFields → α → EventFields} {f : Unit → Parsing β} {type : EventType}
    {Q : β → NlsEventInner → Prop} {R : NlsEventInner → Prop}
    (keeps : ∀ e a, (set e a).outline = e.outline) (failure : ∀ inner, inner.msgType = type → R inner)
    (rest : ∀ a, Ensures (fun inner : NlsEventInner => inner.msgType = type) Q R (f a)) :
    Ensures (fun inner : NlsEventInner => inner.msgType = type) Q R
      (readMember object key asType? set >>= f) :=
  ensures_bind (((readMember_keeps object key asType? keeps).type type).weaken (fun _ same => same)
    (fun _ _ same => same) failure) rest

lemma sentenceOf_of_other {payload : Json} (other : ¬payload.isObject) :
    sentenceOf payload = .null := by
  cases payload with
  | object members => exact absurd rfl other
  | _ => rfl

section

variable (env : JsonEnv) (sentence root : Json) (type : EventType)

/-- What follows the state of a sentence keeps the type it has set. -/
lemma parseStSentence_rest (next : EventType) :
    Ensures (fun inner : NlsEventInner => inner.msgType = type)
      (fun _ inner => inner.msgType = next) (fun inner => inner.msgType = next) (do
        update fun e => { e with msgType := next }
        readMember sentence "begin_time" Json.int? fun e i =>
          { e with sentenceBeginTime := i, sentenceTime := i }
        readMember sentence "end_time" Json.int? fun e i => { e with sentenceTime := i }
        readMember sentence "text" Json.cString? fun e s => { e with result := s }
        readMember sentence "sentence_id" Json.int? fun e i => { e with sentenceIndex := i }
        let _ ← readWordArray env dashScopeWords sentence
        pure ()) := by
  refine ensures_bind (Q := fun _ inner => inner.msgType = next)
    (ensures_modify fun _ _ => rfl) fun _ => ?_
  iterate 4
    refine readMember_type (fun _ _ => rfl) (fun _ same => same) fun _ => ?_
  refine ensures_bind (readWordArray_type env _ sentence next) fun _ => ?_
  exact ensures_pure fun _ same => same

/-- A sentence replaces the type by that of its state. -/
lemma parseStSentence_type (some_ : ¬sentence.isNull) :
    Ensures (fun inner : NlsEventInner => inner.msgType = type)
      (fun _ inner => inner.msgType = (stState sentence).getD type)
      (fun inner => inner.msgType = (stState sentence).getD type)
      (parseStSentence env sentence) := by
  unfold parseStSentence stState
  by_cases isObject : sentence.isObject
  · rw [if_pos isObject, Json.get_of_isObject isObject, Json.get_of_isObject isObject]
    refine guarded_bind (fun e refused => by cases refused) fun ends found => ?_
    obtain rfl := Except.ok.inj found
    cases (sentence.member (ascii "sentence_end")).toBool with
    | error e =>
      exact guarded_bind (fun _ _ _ same => same) fun _ found => by cases found
    | ok sentenceEnd =>
      refine guarded_bind (fun e refused => by cases refused) fun _ found => ?_
      obtain rfl := Except.ok.inj found
      refine guarded_bind (fun e refused => by cases refused) fun begins found => ?_
      obtain rfl := Except.ok.inj found
      cases (sentence.member (ascii "sentence_begin")).toBool with
      | error e =>
        exact guarded_bind (fun _ _ _ same => same) fun _ found => by cases found
      | ok sentenceBegin =>
        refine guarded_bind (fun e refused => by cases refused) fun _ found => ?_
        obtain rfl := Except.ok.inj found
        exact parseStSentence_rest env sentence type _
  · rw [if_neg isObject]
    refine guarded_bind (fun _ _ _ same => same) fun ends found => ?_
    cases sentence with
    | object members => exact absurd rfl isObject
    | null => exact absurd rfl some_
    | _ => cases found

lemma parseStOutput_type :
    Ensures (fun inner : NlsEventInner => inner.msgType = type)
      (fun _ inner => inner.msgType = (stState sentence).getD type)
      (fun inner => inner.msgType = (stState sentence).getD type)
      (parseStOutput env sentence) := by
  refine ensures_ite (fun none_ => ?_) fun some_ => parseStSentence_type env sentence type some_
  cases sentence with
  | null => exact ensures_pure fun _ same => same
  | _ => cases none_

lemma parseStResult_type :
    Ensures (fun inner : NlsEventInner => inner.msgType = type)
      (fun _ inner => inner.msgType =
        (stState (sentenceOf (root.member (ascii "payload")))).getD type)
      (fun inner => inner.msgType =
        (stState (sentenceOf (root.member (ascii "payload")))).getD type)
      (parseStResult env root) := by
  refine guarded_bind (fun e refused inner same => ?_) fun payload found => ?_
  · rw [Json.member_of_get_error refused]
    exact same
  obtain rfl := Json.get_eq_ok found
  refine ensures_ite (fun _ => ?_) fun other => ?_
  · refine outputSentence_bind (fun none_ inner same => ?_) ?_
    · rw [none_]
      exact same
    refine ensures_bind (parseStOutput_type env _ type) fun _ => ?_
    refine ensures_bind ((usageMember_keeps _ _).type _) fun duration => ?_
    exact (setUsage_keeps duration).type _
  · rw [sentenceOf_of_other other]
    exact ensures_pure fun _ same => same

lemma parseFssOutput_type :
    Ensures (fun inner : NlsEventInner => inner.msgType = type)
      (fun _ inner => inner.msgType = (fssState sentence).getD type)
      (fun inner => inner.msgType = (fssState sentence).getD type)
      (parseFssOutput env sentence) := by
  unfold fssState
  refine ensures_ite (fun none_ => ?_) fun some_ => ?_
  · rw [if_pos none_]
    exact ensures_pure fun _ same => same
  · rw [if_neg some_]
    refine ensures_bind (Q := fun _ inner => inner.msgType = .sentenceSynthesis)
      (ensures_modify fun _ _ => rfl) fun _ => ?_
    refine readMember_type (fun _ _ => rfl) (fun _ same => same) fun _ => ?_
    exact readWordArray_type env _ sentence _

lemma parseFssRoot_type :
    Ensures (fun inner : NlsEventInner => inner.msgType = type)
      (fun _ inner => inner.msgType =
        (fssState (sentenceOf (root.member (ascii "payload")))).getD type)
      (fun inner => inner.msgType =
        (fssState (sentenceOf (root.member (ascii "payload")))).getD type)
      (parseFssRoot env root) := by
  refine guarded_bind (fun e refused inner same => ?_) fun payload found => ?_
  · rw [Json.member_of_get_error refused]
    exact same
  obtain rfl := Json.get_eq_ok found
  refine ensures_ite (fun _ => ?_) fun other => ?_
  · refine outputSentence_bind (fun none_ inner same => ?_) ?_
    · rw [none_]
      exact same
    refine ensures_bind (parseFssOutput_type env _ type) fun worded => ?_
    refine ensures_bind ((usageMember_keeps _ _).type _) fun characters => ?_
    refine ensures_bind ((setUsage_keeps characters).type _) fun _ => ?_
    exact ensures_pure fun _ same => same
  · rw [sentenceOf_of_other other]
    exact ensures_pure fun _ same => same

lemma parseFssResult_type :
    Ensures (fun inner : NlsEventInner => inner.msgType = type)
      (fun _ inner => inner.msgType =
        (fssState (sentenceOf (root.member (ascii "payload")))).getD type)
      (fun inner => inner.msgType =
        (fssState (sentenceOf (root.member (ascii "payload")))).getD type)
      (parseFssResult env root) := by
  refine ensures_get_bind fun inner same => ?_
  refine Ensures.weaken (P := fun inner => inner.msgType = type) ?_ (fun _ is => is ▸ same)
    (fun _ _ same => same) fun _ same => same
  refine ensures_bind (parseFssRoot_type env root type) fun said => ?_
  refine ensures_ite (fun _ => ensures_pure fun _ same => same) fun _ => ?_
  exact ensures_throw fun _ same => same

end

/-! ## The whole message -/

/-- What the payload says of the sentence, for the services whose results have one. -/
def sentenceState (nlsType : NlsType) (root : Json) : Option EventType :=
  match nlsType with
  | .typeDashScopeFunAsrRealTime => stState (sentenceOf (root.member (ascii "payload")))
  | .typeDashScopeParaformerRealTime => stState (sentenceOf (root.member (ascii "payload")))
  | .typeDashSceopCosyVoiceStreamInputTts => fssState (sentenceOf (root.member (ascii "payload")))
  | _ => none

/-- The names of the start and the end of a session. -/
def renamed (nlsType : NlsType) (type : EventType) : Option EventType :=
  match nlsType, type with
  | .typeDashScopeFunAsrRealTime, .taskStarted => some .transcriptionStarted
  | .typeDashScopeFunAsrRealTime, .taskFinished => some .transcriptionCompleted
  | .typeDashScopeParaformerRealTime, .taskStarted => some .transcriptionStarted
  | .typeDashScopeParaformerRealTime, .taskFinished => some .transcriptionCompleted
  | .typeDashSceopCosyVoiceStreamInputTts, .taskStarted => some .synthesisStarted
  | .typeDashSceopCosyVoiceStreamInputTts, .taskFinished => some .synthesisCompleted
  | _, _ => none

/-- The type of the record behind a message whose header gave that type. -/
def finalType (nlsType : NlsType) (root : Json) (type : EventType) : EventType :=
  (renamed nlsType type).getD ((sentenceState nlsType root).getD type)

/-- A start or an end gets its name; any other message is read for a second time. -/
lemma convertResult_type {env : JsonEnv} {started completed : EventType}
    {parse : Json → Parsing Unit} {root : Json} {o : Outline} {type : EventType}
    (text : o.msg ≠ []) (reads : env.parseFromStream o.msg = some root)
    (parses : Ensures (fun inner : NlsEventInner => inner.msgType = o.msgType)
      (fun _ inner => inner.msgType = type) (fun inner => inner.msgType = type) (parse root)) :
    Ensures (fun inner : NlsEventInner => inner.outline = o)
      (fun _ inner => inner.msgType = if o.msgType = .taskStarted then started
        else if o.msgType = .taskFinished then completed else type)
      (fun inner => inner.msgType = if o.msgType = .taskStarted then started
        else if o.msgType = .taskFinished then completed else type)
      (convertResult env started completed parse) := by
  refine ensures_get_bind fun inner same => ?_
  subst same
  change inner.msg ≠ [] at text
  change env.parseFromStream inner.msg = some root at reads
  rw [if_neg text, reads]
  by_cases starts : inner.msgType = .taskStarted
  · rw [if_pos starts]
    refine ensures_modify fun _ _ => ?_
    exact (if_pos starts).symm
  by_cases finishes : inner.msgType = .taskFinished
  · rw [if_neg starts, if_pos finishes]
    refine ensures_modify fun _ _ => ?_
    exact ((if_neg starts).trans (if_pos finishes)).symm
  · rw [if_neg starts, if_neg finishes]
    have kept : (if inner.outline.msgType = .taskStarted then started
        else if inner.outline.msgType = .taskFinished then completed else type) = type :=
      (if_neg starts).trans (if_neg finishes)
    rw [kept]
    exact parses.weaken (fun _ is => is ▸ rfl) (fun _ _ same => same) fun _ same => same

section

variable (root : Json) (type : EventType)

lemma finalType_funAsr : finalType .typeDashScopeFunAsrRealTime root type =
    if type = .taskStarted then .transcriptionStarted
    else if type = .taskFinished then .transcriptionCompleted
    else (stState (sentenceOf (root.member (ascii "payload")))).getD type := by
  cases type <;> rfl

lemma finalType_paraformer : finalType .typeDashScopeParaformerRealTime root type =
    if type = .taskStarted then .transcriptionStarted
    else if type = .taskFinished then .transcriptionCompleted
    else (stState (sentenceOf (root.member (ascii "payload")))).getD type := by
  cases type <;> rfl

lemma finalType_cosyVoice : finalType .typeDashSceopCosyVoiceStreamInputTts root type =
    if type = .taskStarted then .synthesisStarted
    else if type = .taskFinished then .synthesisCompleted
    else (fssState (sentenceOf (root.member (ascii "payload")))).getD type := by
  cases type <;> rfl

end

lemma convertResultGenerated_type {env : JsonEnv} {root : Json} {o : Outline}
    (text : o.msg ≠ []) (reads : env.parseFromStream o.msg = some root) (nlsType : NlsType) :
    Ensures (fun inner : NlsEventInner => inner.outline = o)
      (fun _ inner => inner.msgType = finalType nlsType root o.msgType)
      (fun inner => inner.msgType = finalType nlsType root o.msgType)
      (convertResultGenerated env nlsType) := by
  cases nlsType
  case typeDashScopeFunAsrRealTime =>
    rw [finalType_funAsr]
    exact convertResult_type text reads (parseStResult_type env root _)
  case typeDashScopeParaformerRealTime =>
    rw [finalType_paraformer]
    exact convertResult_type text reads (parseStResult_type env root _)
  case typeDashSceopCosyVoiceStreamInputTts =>
    rw [finalType_cosyVoice]
    exact convertResult_type text reads (parseFssResult_type env root _)
  all_goals exact ensures_pure fun _ same => congrArg Outline.msgType same

/-- The type behind a message that names its event: that of a new record where the name is refused,
else what header and payload make of it. -/
def Typed (ignore : Bool) (nlsType : NlsType) (root : Json) (event : Bytes)
    (inner : NlsEventInner) : Prop :=
  (Refused ignore event ∧ inner.msgType = .message) ∨
    (¬Refused ignore event ∧
      inner.msgType = finalType nlsType root ((typeOfName event).getD .message))

section

variable {env : JsonEnv} {msg event : Bytes} {root : Json} (text : msg ≠ [])
  (reads : env.parseFromStream msg = some root) (names : Names root event) (ignore : Bool)
  (nlsType : NlsType)

include text reads

lemma parseBody_type :
    Ensures (fun inner : NlsEventInner => ¬Refused ignore event ∧ inner.outline =
        named (ofMsg msg nlsType .wsServiceProtocolDashScope).outline event)
      (fun _ => Typed ignore nlsType root event) (Typed ignore nlsType root event)
      (parseBody env root) := by
  refine ensures_of_fact fun passed => ?_
  refine ensures_get_bind fun inner same => ?_
  have protocol : inner.serviceProtocol = .wsServiceProtocolDashScope :=
    congrArg Outline.serviceProtocol same
  have kind : inner.nlsType = nlsType := congrArg Outline.nlsType same
  rw [if_pos protocol, kind]
  have converted := convertResultGenerated_type
    (o := named (ofMsg msg nlsType .wsServiceProtocolDashScope).outline event) text reads nlsType
  exact converted.weaken (fun _ is => is ▸ same) (fun _ _ type => .inr ⟨passed, type⟩)
    fun _ type => .inr ⟨passed, type⟩

include names

/-- The type of the record behind any message that names its event. -/
theorem parseJsonMsg_type : Typed ignore nlsType root event
    (parseJsonMsg env ignore (.ofMsg msg nlsType .wsServiceProtocolDashScope)).2 := by
  have whole : Ensures (· = ofMsg msg nlsType .wsServiceProtocolDashScope)
      (fun _ => Typed ignore nlsType root event) (Typed ignore nlsType root event)
      (parseMsg env ignore) := by
    refine ensures_get_bind fun inner is => ?_
    subst is
    have some_ : (ofMsg msg nlsType .wsServiceProtocolDashScope).msg ≠ [] := text
    have again : env.parseFromStream (ofMsg msg nlsType .wsServiceProtocolDashScope).msg =
        some root := reads
    rw [if_neg some_, again]
    refine ensures_bind ((parseHead_type _ ignore names rfl).weaken
      (fun _ is => is ▸ rfl) (fun _ _ same => same) fun inner same => .inl ⟨same.1, ?_⟩)
      fun _ => parseBody_type text reads ignore nlsType
    have kept : inner.msgType = (typeOfName event).getD .message :=
      congrArg Outline.msgType same.2
    rw [kept, same.1.2]
    rfl
  obtain ⟨done, failed⟩ := whole _ rfl
  rw [parseJsonMsg]
  cases result : ((parseMsg env ignore).runFrom
      (.ofMsg msg nlsType .wsServiceProtocolDashScope)).1 with
  | ok a => exact done a result
  | error e => exact failed e result

end

/-! ## Classification -/

/-- The type as a function of the name of the event, and for a result of the state of its
sentence. -/
def expectedType (nlsType : NlsType) (root : Json) (event : Bytes) : EventType :=
  let type := (typeOfName event).getD .message
  (renamed nlsType type).getD
    (if type = .resultGenerated then (sentenceState nlsType root).getD type else type)

lemma expectedType_unknown {event : Bytes} (unknown : typeOfName event = none) (nlsType : NlsType)
    (root : Json) : expectedType nlsType root event = .message := by
  rw [expectedType, unknown]
  cases nlsType <;> rfl

lemma named_result_iff {event : Bytes} :
    (typeOfName event).getD .message = .resultGenerated ↔
      typeOfName event = some .resultGenerated := by
  cases typeOfName event with
  | none => exact iff_of_false (by decide) (by decide)
  | some type =>
    rw [Option.getD_some, Option.some.injEq]

/-- A message that names its event has the type of that name exactly when the name is refused, of a
start, an end or a result, or no sentence can be read in the payload, or the sentence has that type
too. -/
theorem classified_iff {env : JsonEnv} {msg event : Bytes} {root : Json} (text : msg ≠ [])
    (reads : env.parseFromStream msg = some root) (names : Names root event) (ignore : Bool)
    (nlsType : NlsType) :
    (parseJsonMsg env ignore (.ofMsg msg nlsType .wsServiceProtocolDashScope)).2.msgType =
        expectedType nlsType root event ↔
      Refused ignore event ∨ (renamed nlsType ((typeOfName event).getD .message)).isSome ∨
        typeOfName event = some .resultGenerated ∨ sentenceState nlsType root = none ∨
          sentenceState nlsType root = some ((typeOfName event).getD .message) := by
  obtain ⟨refused, type⟩ | ⟨passed, type⟩ := parseJsonMsg_type text reads names ignore nlsType
  · refine iff_of_true ?_ (.inl refused)
    rw [type, expectedType_unknown refused.2]
  · rw [type, finalType, expectedType, ← named_result_iff]
    generalize (typeOfName event).getD .message = type
    cases renamed nlsType type with
    | some name => exact iff_of_true rfl (.inr (.inl rfl))
    | none =>
      rw [Option.getD_none, Option.getD_none]
      cases sentenceState nlsType root with
      | none =>
        refine iff_of_true ?_ (.inr (.inr (.inr (.inl rfl))))
        rw [Option.getD_none, ite_self]
      | some state =>
        rw [Option.getD_some]
        by_cases result : type = .resultGenerated
        · rw [if_pos result]
          exact iff_of_true rfl (.inr (.inr (.inl result)))
        · rw [if_neg result]
          constructor
          · intro same
            exact .inr (.inr (.inr (.inr (congrArg some same))))
          · rintro (refused | name | result' | none_ | same)
            · exact absurd refused passed
            · cases name
            · exact absurd result' result
            · cases none_
            · exact Option.some.inj same

lemma stState_ne_taskFailed (sentence : Json) : stState sentence ≠ some .taskFailed := by
  unfold stState
  split
  · split
    · rename_i sentenceEnd sentenceBegin _ _
      cases sentenceEnd <;> cases sentenceBegin <;> decide
    · exact (Option.some_ne_none _).symm
  · exact (Option.some_ne_none _).symm

lemma sentenceState_ne_taskFailed (nlsType : NlsType) (root : Json) :
    sentenceState nlsType root ≠ some .taskFailed := by
  cases nlsType
  case typeDashScopeFunAsrRealTime => exact stState_ne_taskFailed _
  case typeDashScopeParaformerRealTime => exact stState_ne_taskFailed _
  case typeDashSceopCosyVoiceStreamInputTts =>
    change fssState _ ≠ _
    unfold fssState
    split
    · exact (Option.some_ne_none _).symm
    · decide
  all_goals exact (Option.some_ne_none _).symm

/-- A failed session is told as failed exactly when the message has no sentence that can be read. -/
theorem taskFailed_iff {env : JsonEnv} {msg : Bytes} {root : Json} (text : msg ≠ [])
    (reads : env.parseFromStream msg = some root) (names : Names root (ascii "task-failed"))
    (ignore : Bool) (nlsType : NlsType) :
    (parseJsonMsg env ignore (.ofMsg msg nlsType .wsServiceProtocolDashScope)).2.msgType =
      .taskFailed ↔ sentenceState nlsType root = none := by
  have known : typeOfName (ascii "task-failed") = some .taskFailed := by decide +kernel
  obtain ⟨refused, -⟩ | ⟨-, type⟩ := parseJsonMsg_type text reads names ignore nlsType
  · rw [Refused, known] at refused
    exact absurd refused.2 (Option.some_ne_none _)
  rw [type, known, Option.getD_some, finalType]
  have kept : renamed nlsType .taskFailed = none := by cases nlsType <;> rfl
  rw [kept, Option.getD_none]
  cases state : sentenceState nlsType root with
  | none => exact iff_of_true rfl rfl
  | some other =>
    refine iff_of_false ?_ (Option.some_ne_none other)
    rintro rfl
    exact sentenceState_ne_taskFailed nlsType root state

/-! ## A failure with a sentence -/

def failedText : Bytes :=
  ascii "\x7b\"header\":\x7b\"event\":\"task-failed\"\x7d," ++
    ascii "\"payload\":\x7b\"output\":\x7b\"sentence\":\x7b\x7d\x7d\x7d\x7d"

def failedRoot : Json :=
  .object [(ascii "header", .object [(ascii "event", .string (ascii "task-failed"))]),
    (ascii "payload", .object [(ascii "output", .object [(ascii "sentence", .object [])])])]

/-- A reader that knows this text. -/
def failedReader : JsonEnv where
  parseFromStream text := if text = failedText then some failedRoot else none

lemma failed_reads : failedReader.parseFromStream failedText = some failedRoot := by
  change (if failedText = failedText then some failedRoot else none) = some failedRoot
  rw [if_pos rfl]

lemma failed_names : Names failedRoot (ascii "task-failed") := by
  constructor
  · rfl
  · rfl
  · rfl

theorem classified_iff_failed :
    (parseJsonMsg failedReader false (.ofMsg failedText .typeDashScopeFunAsrRealTime
        .wsServiceProtocolDashScope)).2.msgType =
      expectedType .typeDashScopeFunAsrRealTime failedRoot (ascii "task-failed") ↔
    Refused false (ascii "task-failed") ∨
      (renamed .typeDashScopeFunAsrRealTime
        ((typeOfName (ascii "task-failed")).getD .message)).isSome ∨
      typeOfName (ascii "task-failed") = some .resultGenerated ∨
      sentenceState .typeDashScopeFunAsrRealTime failedRoot = none ∨
      sentenceState .typeDashScopeFunAsrRealTime failedRoot =
        some ((typeOfName (ascii "task-failed")).getD .message) :=
  classified_iff (by decide) failed_reads failed_names false .typeDashScopeFunAsrRealTime

/-- The failure is told as a change of the result. -/
theorem failure_overridden :
    (parseJsonMsg failedReader false (.ofMsg failedText .typeDashScopeFunAsrRealTime
        .wsServiceProtocolDashScope)).2.msgType ≠
      expectedType .typeDashScopeFunAsrRealTime failedRoot (ascii "task-failed") := by
  decide +kernel

end NlsEventInner

end NlsSdk.Framework
