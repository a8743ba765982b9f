import NlsSdk.Framework.NlsEvent
import NlsSdk.Library.JsonValue
import NlsSdk.Library.Checked

/-!
# Reading a message of the service into an event

`nlsEventInner.cpp`: the inner record reads the text it was built from, in the
shape of either service. What was read stays in the record when the reading
fails half way. `nlsEvent.cpp`: the public entry point delegates to it.
-/
namespace NlsSdk.Framework

open Library
open Transport (Bytes ascii EventType NlsType NlsRetCode)

/-- What the parser takes from outside: the JSON reader, and the numbers that a word declared
without an initialiser holds. -/
structure JsonEnv where
  parseFromStream : Bytes → Option Json
  startTime : ℤ := 0
  endTime : ℤ := 0

/-- A run of the parser: it fails with a code and leaves the record as far as it came. -/
abbrev Parsing := Fallible NlsEventInner NlsRetCode

namespace NlsEventInner

/-- A type error of the JSON value is an exception, and every `catch` returns `JsonParseFailed`. -/
def guarded {α : Type} : Except Json.TypeError α → Parsing α
  | .ok a => pure a
  | .error _ => throw .jsonParseFailed

def update (change : EventFields → EventFields) : Parsing Unit :=
  modify fun inner => { inner with toEventFields := change inner.toEventFields }

/-- `if (!object[key].isNull() && object[key].isType()) field = object[key].asType();` -/
def readMember {α : Type} (object : Json) (key : String) (asType? : Json → Option α)
    (set : EventFields → α → EventFields) : Parsing Unit := do
  let value ← guarded (object.get (ascii key))
  match asType? value with
  | some a => update (fun e => set e a)
  | none => pure ()

/-! ## Words -/

/-- One field of a word: only a member that is there and has the type replaces the value. -/
def wordMember {α : Type} (word : Json) (key : String) (asType? : Json → Option α) :
    Except Json.TypeError (Option α) := do
  if ← word.isMember (ascii key) then
    let value ← word.get (ascii key)
    pure (asType? value)
  else
    pure none

/-- The names of the two times of a word. -/
structure WordKeys where
  startTime : String
  endTime : String

/-- `wordInfo` is declared outside the loop: what a word leaves out is what the one before had. -/
def readWord (keys : WordKeys) (word : Json) (wordInfo : WordInfomation) :
    Except Json.TypeError WordInfomation := do
  let text ← wordMember word "text" Json.cString?
  let startTime ← wordMember word keys.startTime Json.int?
  let endTime ← wordMember word keys.endTime Json.int?
  pure {
    text := text.getD wordInfo.text
    startTime := startTime.getD wordInfo.startTime
    endTime := endTime.getD wordInfo.endTime }

def readWords (keys : WordKeys) : List Json → WordInfomation → Parsing Unit
  | [], _ => pure ()
  | word :: rest, wordInfo => do
    let next ← guarded (readWord keys word wordInfo)
    update fun e => { e with sentenceWordsList := e.sentenceWordsList ++ [next] }
    readWords keys rest next

/-- The words of `object["words"]`, when that is an array; the result tells whether there are any. -/
def readWordArray (env : JsonEnv) (keys : WordKeys) (object : Json) : Parsing Bool := do
  let value ← guarded (object.get (ascii "words"))
  match value.array? with
  | some words => do
    readWords keys words { text := [], startTime := env.startTime, endTime := env.endTime }
    pure (!words.isEmpty)
  | none => pure false

/-! ## The header -/

def eventNames : List (String × EventType) :=
  [("TaskFailed", .taskFailed), ("task-failed", .taskFailed),
    ("RecognitionStarted", .recognitionStarted),
    ("RecognitionCompleted", .recognitionCompleted),
    ("RecognitionResultChanged", .recognitionResultChanged),
    ("TranscriptionStarted", .transcriptionStarted), ("SentenceBegin", .sentenceBegin),
    ("TranscriptionResultChanged", .transcriptionResultChanged), ("SentenceEnd", .sentenceEnd),
    ("TranscriptionCompleted", .transcriptionCompleted),
    ("SynthesisStarted", .synthesisStarted), ("SynthesisCompleted", .synthesisCompleted),
    ("DialogResultGenerated", .dialogResultGenerated),
    ("WakeWordVerificationCompleted", .wakeWordVerificationCompleted),
    ("SentenceSemantics", .sentenceSemantics), ("MetaInfo", .metaInfo),
    ("SentenceSynthesis", .sentenceSynthesis), ("task-started", .taskStarted),
    ("result-generated", .resultGenerated), ("task-finished", .taskFinished)]

def parseMsgType (name : Bytes) : Parsing Unit :=
  match (eventNames.map fun (text, type) => (ascii text, type)).lookup name with
  | some type => update fun e => { e with msgType := type }
  | none => throw .invalidNlsEventMsgType

/-- With `ignore` an unknown name is passed over. -/
def parseKnownType (ignore : Bool) (name : Bytes) : Parsing Unit :=
  if ignore then
    tryCatch (parseMsgType name) (fun _ => pure ())
  else
    parseMsgType name

/-- A message that has a name of the other service only throws. -/
def parseName (ignore : Bool) (head : Json) : Parsing Unit := do
  let name ← guarded (head.get (ascii "name"))
  let event ← guarded (head.get (ascii "event"))
  let inner ← get
  if name.cString?.isSome ∨ event.cString?.isSome then do
    let text ← guarded (if inner.serviceProtocol = .wsServiceProtocolDashScope then
      event.cString else name.cString)
    parseKnownType ignore text
  else
    pure ()

def parseStatus (ignore : Bool) (head : Json) : Parsing Unit := do
  let inner ← get
  if inner.serviceProtocol = .wsServiceProtocolDashScope then
    pure ()
  else do
    let status ← guarded (head.get (ascii "status"))
    match status.int? with
    | some code => update fun e => { e with statusCode := code }
    | none => if ignore then pure () else throw .invalidNlsEventMsgStatusCode

/-- The messages of the SDK itself have no header. -/
def parseHeaderless (ignore : Bool) (root : Json) : Parsing Unit := do
  let closed ← guarded (root.get (ascii "channelClosed"))
  let failed ← guarded (root.get (ascii "TaskFailed"))
  if ¬closed.isNull then
    update fun e => { e with msgType := .close }
  else if ¬failed.isNull then
    update fun e => { e with msgType := .taskFailed }
  else if ignore then
    pure ()
  else
    throw .invalidNlsEventMsgHeader

def parseHead (ignore : Bool) (root : Json) : Parsing Unit := do
  let head ← guarded (root.get (ascii "header"))
  if head.isObject then do
    parseName ignore head
    parseStatus ignore head
    readMember head "task_id" Json.cString? fun e taskId => { e with taskId }
  else
    parseHeaderless ignore root

/-! ## The payload of the speech service -/

def parseWakeWord (payload : Json) : Parsing Unit := do
  let inner ← get
  if inner.msgType = .wakeWordVerificationCompleted then do
    readMember payload "accepted" Json.bool? fun e b => { e with wakeWordAccepted := b }
    readMember payload "known" Json.bool? fun e b => { e with wakeWordKnown := b }
    readMember payload "user_id" Json.cString? fun e s => { e with wakeWordUserId := s }
    readMember payload "gender" Json.int? fun e i => { e with wakeWordGender := i }
  else
    pure ()

def parseStashResult (payload : Json) : Parsing Unit := do
  let inner ← get
  let stash ← guarded (payload.get (ascii "stash_result"))
  if inner.msgType = .sentenceEnd ∧ stash.isObject then do
    readMember stash "sentenceId" Json.int? fun e i => { e with stashResultSentenceId := i }
    readMember stash "beginTime" Json.int? fun e i => { e with stashResultBeginTime := i }
    readMember stash "currentTime" Json.int? fun e i => { e with stashResultCurrentTime := i }
    readMember stash "text" Json.cString? fun e s => { e with stashResultText := s }
  else
    pure ()

def parsePayloadObject (env : JsonEnv) (payload : Json) : Parsing Unit := do
  readMember payload "result" Json.cString? fun e s => { e with result := s }
  readMember payload "index" Json.int? fun e i => { e with sentenceIndex := i }
  readMember payload "time" Json.int? fun e i => { e with sentenceTime := i }
  readMember payload "begin_time" Json.int? fun e i => { e with sentenceBeginTime := i }
  readMember payload "confidence" Json.double? fun e r => { e with sentenceConfidence := r }
  readMember payload "display_text" Json.cString? fun e s => { e with displayText := s }
  readMember payload "spoken_text" Json.cString? fun e s => { e with spokenText := s }
  readMember payload "status" Json.int? fun e i => { e with sentenceTimeOutStatus := i }
  let _ ← readWordArray env { startTime := "startTime", endTime := "endTime" } payload
  parseWakeWord payload
  parseStashResult payload

def parsePayload (env : JsonEnv) (root : Json) : Parsing Unit := do
  let inner ← get
  if inner.msgType = .synthesisCompleted ∨ inner.msgType = .metaInfo then
    pure ()
  else do
    let payload ← guarded (root.get (ascii "payload"))
    if payload.isObject then parsePayloadObject env payload else pure ()

/-! ## The payload of the model service -/

def dashScopeWords : WordKeys := { startTime := "begin_time", endTime := "end_time" }

/-- `payload.output.sentence`, null when it or `payload.output` is. -/
def outputSentence (payload : Json) : Parsing Json := do
  let output ← guarded (payload.get (ascii "output"))
  if output.isNull then pure .null else guarded (output.get (ascii "sentence"))

/-- A number of `payload.usage`. -/
def usageMember (payload : Json) (key : String) : Parsing (Option ℤ) := do
  let usage ← guarded (payload.get (ascii "usage"))
  if usage.isNull then
    pure none
  else do
    let value ← guarded (usage.get (ascii key))
    pure value.int?

def setUsage : Option ℤ → Parsing Unit
  | some i => update fun e => { e with usage := i }
  | none => pure ()

def sentenceType (sentenceEnd sentenceBegin : Bool) : EventType :=
  if sentenceEnd then .sentenceEnd
  else if sentenceBegin then .sentenceBegin
  else .transcriptionResultChanged

def parseStSentence (env : JsonEnv) (sentence : Json) : Parsing Unit := do
  let ends ← guarded (sentence.get (ascii "sentence_end"))
  let sentenceEnd ← guarded ends.toBool
  let begins ← guarded (sentence.get (ascii "sentence_begin"))
  let sentenceBegin ← guarded begins.toBool
  update fun e => { e with msgType := sentenceType sentenceEnd sentenceBegin }
  readMember sentence "begin_time" Json.int? fun e i =>
    { e with sentenceBeginTime := i, sentenceTime := i }
  readMember sentence "end_time" Json.int? fun e i => { e with sentenceTime := i }
  readMember sentence "text" Json.cString? fun e s => { e with result := s }
  readMember sentence "sentence_id" Json.int? fun e i => { e with sentenceIndex := i }
  let _ ← readWordArray env dashScopeWords sentence
  pure ()

/-- A message without a sentence says nothing about one. -/
def parseStOutput (env : JsonEnv) (sentence : Json) : Parsing Unit :=
  if sentence.isNull then pure () else parseStSentence env sentence

def parseStResult (env : JsonEnv) (root : Json) : Parsing Unit := do
  let payload ← guarded (root.get (ascii "payload"))
  if payload.isObject then do
    let sentence ← outputSentence payload
    parseStOutput env sentence
    let duration ← usageMember payload "duration"
    setUsage duration
  else
    pure ()

/-- A start or an end is renamed; any other message is read again and parsed. -/
def convertResult (env : JsonEnv) (started completed : EventType) (parse : Json → Parsing Unit) :
    Parsing Unit := do
  let inner ← get
  if inner.msg = [] then
    throw .nlsEventMsgEmpty
  else if inner.msgType = .taskStarted then
    update fun e => { e with msgType := started }
  else if inner.msgType = .taskFinished then
    update fun e => { e with msgType := completed }
  else
    match env.parseFromStream inner.msg with
    | none => throw .jsonParseFailed
    | some root => parse root

def convertFunAsrStResultGenerated (env : JsonEnv) : Parsing Unit :=
  convertResult env .transcriptionStarted .transcriptionCompleted (parseStResult env)

def convertParaformerStResultGenerated (env : JsonEnv) : Parsing Unit :=
  convertResult env .transcriptionStarted .transcriptionCompleted (parseStResult env)

/-- The words decide whether a synthesis message says anything. -/
def parseFssSentence (env : JsonEnv) (sentence : Json) : Parsing Bool := do
  update fun e => { e with msgType := .sentenceSynthesis }
  readMember sentence "index" Json.int? fun e i => { e with sentenceIndex := i }
  readWordArray env dashScopeWords sentence

def parseFssOutput (env : JsonEnv) (sentence : Json) : Parsing Bool :=
  if sentence.isNull then pure false else parseFssSentence env sentence

def parseFssPayload (env : JsonEnv) (payload : Json) : Parsing Bool := do
  let sentence ← outputSentence payload
  let worded ← parseFssOutput env sentence
  let characters ← usageMember payload "characters"
  setUsage characters
  pure (worded || characters.isSome)

/-- The result tells whether a payload says anything. -/
def parseFssRoot (env : JsonEnv) (root : Json) : Parsing Bool := do
  let payload ← guarded (root.get (ascii "payload"))
  if payload.isObject then parseFssPayload env payload else pure false

def parseFssResult (env : JsonEnv) (root : Json) : Parsing Unit := do
  let inner ← get
  let said ← parseFssRoot env root
  if inner.msgType = .taskFailed ∨ said then pure () else throw .ignoredNlsEventMsg

def convertCosyVoiceFssResultGenerated (env : JsonEnv) : Parsing Unit :=
  convertResult env .synthesisStarted .synthesisCompleted (parseFssResult env)

def convertResultGenerated (env : JsonEnv) : NlsType → Parsing Unit
  | .typeDashScopeFunAsrRealTime => convertFunAsrStResultGenerated env
  | .typeDashScopeParaformerRealTime => convertParaformerStResultGenerated env
  | .typeDashSceopCosyVoiceStreamInputTts => convertCosyVoiceFssResultGenerated env
  | _ => pure ()

/-! ## The whole message -/

def parseBody (env : JsonEnv) (root : Json) : Parsing Unit := do
  let inner ← get
  if inner.serviceProtocol = .wsServiceProtocolDashScope then
    convertResultGenerated env inner.nlsType
  else
    parsePayload env root

def parseMsg (env : JsonEnv) (ignore : Bool) : Parsing Unit := do
  let inner ← get
  if inner.msg = [] then
    throw .nlsEventMsgEmpty
  else
    match env.parseFromStream inner.msg with
    | none => throw .jsonParseFailed
    | some root => do
      parseHead ignore root
      parseBody env root

def parseJsonMsg (env : JsonEnv) (ignore : Bool) (this : NlsEventInner) :
    Except NlsRetCode Unit × NlsEventInner :=
  (parseMsg env ignore).runFrom this

end NlsEventInner

/-- The record that is parsed is built with no text: `NlsEventInner eventInner;`. -/
def NlsEvent.parseJsonMsg (env : JsonEnv) (ignore : Bool) (this : NlsEvent) :
    Except NlsRetCode Unit × NlsEvent :=
  if this.msg = [] then
    (.error .nlsEventMsgEmpty, this)
  else
    match NlsEventInner.parseJsonMsg env ignore {} with
    | (.ok (), eventInner) => (.ok (), eventInner.transferEvent this)
    | (.error code, _) => (.error code, this)

end NlsSdk.Framework
