import NlsSdk.Transport.Global

/-!
# The events given to the user

`nlsEvent.h`, `nlsEvent.cpp`: the record behind an event, its constructors and
its getters, and the inner record of `nlsEventInner.h` it is filled from.
-/
namespace NlsSdk.Framework

open Transport (Bytes ascii EventType NlsType NlsRetCode)

inductive NlsServiceProtocol
  | wsServiceProtocolNls | wsServiceProtocolDashScope
  deriving DecidableEq, Repr

/-- A word of a sentence with its times. -/
structure WordInfomation where
  text : Bytes
  startTime : ℤ
  endTime : ℤ
  deriving DecidableEq, Repr

/-- The private fields that `NlsEvent` and `NlsEventInner` both declare, without the raw buffer. -/
structure EventFields where
  statusCode : ℤ := 0
  msg : Bytes := []
  msgType : EventType := .taskFailed
  taskId : Bytes := []
  result : Bytes := []
  displayText : Bytes := []
  spokenText : Bytes := []
  sentenceTimeOutStatus : ℤ := 0
  sentenceIndex : ℤ := 0
  sentenceTime : ℤ := 0
  sentenceBeginTime : ℤ := 0
  sentenceConfidence : Float := 0.0
  sentenceWordsList : List WordInfomation := []
  wakeWordAccepted : Bool := false
  wakeWordKnown : Bool := false
  wakeWordUserId : Bytes := []
  wakeWordGender : ℤ := 0
  binaryData : Bytes := []
  stashResultSentenceId : ℤ := 0
  stashResultBeginTime : ℤ := 0
  stashResultText : Bytes := []
  stashResultCurrentTime : ℤ := 0
  usage : ℤ := 0
  nlsType : NlsType := .typeNone
  serviceProtocol : NlsServiceProtocol := .wsServiceProtocolNls

/-- `binaryDataInChar` is the buffer `getBinaryDataInChar` allocated last, by its number. -/
structure NlsEvent extends EventFields where
  binaryDataInChar : Option ℕ := none
  binaryDataSize : ℕ := 0

/-- The inner record never allocates its buffer, so its pointer stays NULL and is left out. -/
structure NlsEventInner extends EventFields

/-! ## Constructors -/

namespace NlsEvent

/-- `NlsEvent(msg, nlsType, serviceProtocol)`. -/
def ofMsg (msg : Bytes) (nlsType : NlsType) (serviceProtocol : NlsServiceProtocol) : NlsEvent :=
  { msg, statusCode := 0, msgType := .message, nlsType, serviceProtocol }

/-- `NlsEvent(msg, code, type, taskId, nlsType, serviceProtocol)`. -/
def ofCode (msg : Bytes) (code : ℤ) (type : EventType) (taskId : Bytes) (nlsType : NlsType)
    (serviceProtocol : NlsServiceProtocol) : NlsEvent :=
  { statusCode := code, msg, msgType := type, taskId, nlsType, serviceProtocol }

/-- `NlsEvent(data, code, type, taskId, nlsType, serviceProtocol)`. -/
def ofData (binaryData : Bytes) (code : ℤ) (type : EventType) (taskId : Bytes)
    (nlsType : NlsType) (serviceProtocol : NlsServiceProtocol) : NlsEvent :=
  { statusCode := code, msgType := type, taskId, binaryData, nlsType, serviceProtocol }

/-- The copy constructor `NlsEvent(const NlsEvent& ne)`: the members it does not name are built
by their own default constructors, and the raw buffer is shared. -/
def copy (ne : NlsEvent) : NlsEvent where
  statusCode := ne.statusCode
  taskId := ne.taskId
  result := ne.result
  sentenceIndex := ne.sentenceIndex
  sentenceTime := ne.sentenceTime
  sentenceTimeOutStatus := ne.sentenceTimeOutStatus
  msg := ne.msg
  msgType := ne.msgType
  binaryData := ne.binaryData
  binaryDataInChar := ne.binaryDataInChar
  binaryDataSize := ne.binaryDataSize
  sentenceBeginTime := ne.sentenceBeginTime
  sentenceConfidence := ne.sentenceConfidence
  sentenceWordsList := ne.sentenceWordsList
  stashResultSentenceId := ne.stashResultSentenceId
  stashResultBeginTime := ne.stashResultBeginTime
  stashResultCurrentTime := ne.stashResultCurrentTime
  stashResultText := ne.stashResultText
  wakeWordAccepted := false
  wakeWordKnown := false
  wakeWordGender := 0
  usage := ne.usage
  nlsType := ne.nlsType
  serviceProtocol := ne.serviceProtocol
  -- not named by the constructor
  displayText := []
  spokenText := []
  wakeWordUserId := []

end NlsEvent

namespace NlsEventInner

/-- `NlsEventInner(msg, nlsType, serviceProtocol)`. -/
def ofMsg (msg : Bytes) (nlsType : NlsType) (serviceProtocol : NlsServiceProtocol) :
    NlsEventInner :=
  { msg, statusCode := 0, msgType := .message, nlsType, serviceProtocol }

/-- `operator=`; its guard against self-assignment changes nothing, as every field is read from
`event`. -/
def assign (this event : NlsEventInner) : NlsEventInner :=
  { this with
    statusCode := event.statusCode
    msg := event.msg
    msgType := event.msgType
    taskId := event.taskId
    result := event.result
    displayText := event.displayText
    spokenText := event.spokenText
    sentenceTimeOutStatus := event.sentenceTimeOutStatus
    sentenceIndex := event.sentenceIndex
    sentenceTime := event.sentenceTime
    sentenceBeginTime := event.sentenceBeginTime
    sentenceConfidence := event.sentenceConfidence
    sentenceWordsList := event.sentenceWordsList
    wakeWordAccepted := event.wakeWordAccepted
    wakeWordKnown := event.wakeWordKnown
    wakeWordUserId := event.wakeWordUserId
    wakeWordGender := event.wakeWordGender
    binaryData := event.binaryData
    stashResultSentenceId := event.stashResultSentenceId
    stashResultBeginTime := event.stashResultBeginTime
    stashResultText := event.stashResultText
    stashResultCurrentTime := event.stashResultCurrentTime
    usage := event.usage
    nlsType := event.nlsType
    serviceProtocol := event.serviceProtocol }

/-- The target keeps its own raw buffer. -/
def transferEvent (this : NlsEventInner) (target : NlsEvent) : NlsEvent :=
  { target with
    statusCode := this.statusCode
    msg := this.msg
    msgType := this.msgType
    taskId := this.taskId
    result := this.result
    displayText := this.displayText
    spokenText := this.spokenText
    sentenceTimeOutStatus := this.sentenceTimeOutStatus
    sentenceIndex := this.sentenceIndex
    sentenceTime := this.sentenceTime
    sentenceBeginTime := this.sentenceBeginTime
    sentenceConfidence := this.sentenceConfidence
    sentenceWordsList := this.sentenceWordsList
    wakeWordAccepted := this.wakeWordAccepted
    wakeWordKnown := this.wakeWordKnown
    wakeWordUserId := this.wakeWordUserId
    wakeWordGender := this.wakeWordGender
    binaryData := this.binaryData
    stashResultSentenceId := this.stashResultSentenceId
    stashResultBeginTime := this.stashResultBeginTime
    stashResultText := this.stashResultText
    stashResultCurrentTime := this.stashResultCurrentTime
    usage := this.usage
    nlsType := this.nlsType
    serviceProtocol := this.serviceProtocol }

theorem assign_fields (this event : NlsEventInner) :
    (this.assign event).toEventFields = event.toEventFields := rfl

theorem transferEvent_fields (this : NlsEventInner) (target : NlsEvent) :
    (this.transferEvent target).toEventFields = this.toEventFields := rfl

@[simp] theorem transferEvent_binaryDataInChar (this : NlsEventInner) (target : NlsEvent) :
    (this.transferEvent target).binaryDataInChar = target.binaryDataInChar := rfl

end NlsEventInner

/-! ## Getters -/

namespace EventFields

/-- The names `getMsgTypeString` gives; the types of the other service are unknown to it. -/
def typeName : EventType → String
  | .taskFailed => "TaskFailed"
  | .recognitionStarted => "RecognitionStarted"
  | .recognitionCompleted => "RecognitionCompleted"
  | .recognitionResultChanged => "RecognitionResultChanged"
  | .wakeWordVerificationCompleted => "WakeWordVerificationCompleted"
  | .transcriptionStarted => "TranscriptionStarted"
  | .sentenceBegin => "SentenceBegin"
  | .transcriptionResultChanged => "TranscriptionResultChanged"
  | .sentenceEnd => "SentenceEnd"
  | .sentenceSemantics => "SentenceSemantics"
  | .transcriptionCompleted => "TranscriptionCompleted"
  | .synthesisStarted => "SynthesisStarted"
  | .synthesisCompleted => "SynthesisCompleted"
  | .binary => "Binary"
  | .metaInfo => "MetaInfo"
  | .dialogResultGenerated => "DialogResultGenerated"
  | .close => "Close"
  | .message => "Message"
  | .sentenceSynthesis => "SentenceSynthesis"
  | .taskStarted | .resultGenerated | .taskFinished => "Unknown"

/-- The event types in the order of their numbers, from 0 and from 30. -/
def typeOfNumber (type : ℕ) : Option EventType :=
  let nls : List EventType := [.taskFailed, .recognitionStarted, .recognitionCompleted,
    .recognitionResultChanged, .wakeWordVerificationCompleted, .transcriptionStarted,
    .sentenceBegin, .transcriptionResultChanged, .sentenceEnd, .sentenceSemantics,
    .transcriptionCompleted, .synthesisStarted, .synthesisCompleted, .binary, .metaInfo,
    .dialogResultGenerated, .close, .message, .sentenceSynthesis]
  let dashScope : List EventType := [.taskStarted, .resultGenerated, .taskFinished]
  if type < 30 then nls[type]? else dashScope[type - 30]?

variable (e : EventFields)

/-- `-(InvalidNlsEventMsgType)`. -/
def invalidMsgType : ℤ := -203

def getStatusCode : ℤ := e.statusCode

def getAllResponse : Bytes := e.msg

def getErrorMessage : Bytes := if e.msgType ≠ .taskFailed then [] else e.msg

def getMsgType : EventType := e.msgType

/-- A negative argument asks for the name of the event's own type. -/
def getMsgTypeString (type : ℤ) : String :=
  if type < 0 then
    typeName e.msgType
  else
    match typeOfNumber type.toNat with
    | some type => typeName type
    | none => "Unknown"

def getTaskId : Bytes := e.taskId

def getDisplayText : Bytes := e.displayText

def getSpokenText : Bytes := e.spokenText

def getResult : Option Bytes :=
  if e.msgType ≠ .recognitionResultChanged ∧ e.msgType ≠ .recognitionCompleted ∧
      e.msgType ≠ .transcriptionResultChanged ∧ e.msgType ≠ .sentenceEnd then
    none
  else
    some e.result

/-- The numbers of a sentence that a begin, a change and an end of it carry. -/
def ofSentence (value : ℤ) : ℤ :=
  if e.msgType ≠ .sentenceBegin ∧ e.msgType ≠ .sentenceEnd ∧
      e.msgType ≠ .transcriptionResultChanged then
    invalidMsgType
  else
    value

def getSentenceIndex : ℤ := e.ofSentence e.sentenceIndex

def getSentenceTime : ℤ := e.ofSentence e.sentenceTime

/-- What only the end of a sentence carries. -/
def ofSentenceEnd {α : Type} (value other : α) : α :=
  if e.msgType ≠ .sentenceEnd then other else value

def getSentenceBeginTime : ℤ := e.ofSentenceEnd e.sentenceBeginTime invalidMsgType

def getSentenceConfidence : Float :=
  e.ofSentenceEnd e.sentenceConfidence (Float.ofInt invalidMsgType)

def getSentenceTimeOutStatus : ℤ := e.ofSentenceEnd e.sentenceTimeOutStatus invalidMsgType

def getSentenceWordsList : List WordInfomation := e.ofSentenceEnd e.sentenceWordsList []

/-- The type decides on a warning only. -/
def getBinaryData : Bytes := e.binaryData

/-- The bytes behind the pointer `getBinaryDataInChar` returns, none for NULL. -/
def getBinaryDataInChar : Option Bytes :=
  if e.msgType = .binary then some e.binaryData else none

def getBinaryDataSize : ℕ := if e.msgType = .binary then e.binaryData.length else 0

def getWakeWordAccepted : Bool :=
  if e.msgType ≠ .wakeWordVerificationCompleted then false else e.wakeWordAccepted

theorem getWakeWordAccepted_of_wake {e : EventFields}
    (wake : e.msgType = .wakeWordVerificationCompleted) :
    e.getWakeWordAccepted = e.wakeWordAccepted := if_neg (not_not.mpr wake)

theorem getWakeWordAccepted_of_not_wake {e : EventFields}
    (other : e.msgType ≠ .wakeWordVerificationCompleted) : e.getWakeWordAccepted = false :=
  if_pos other

def getStashResultSentenceId : ℤ := e.ofSentenceEnd e.stashResultSentenceId invalidMsgType

def getStashResultBeginTime : ℤ := e.ofSentenceEnd e.stashResultBeginTime invalidMsgType

def getStashResultCurrentTime : ℤ := e.ofSentenceEnd e.stashResultCurrentTime invalidMsgType

def getStashResultText : Option Bytes := e.ofSentenceEnd (some e.stashResultText) none

def getUsage : ℤ := e.usage

end EventFields

/-- Every getter gives the same value on both. -/
structure SameGetters (a b : EventFields) : Prop where
  statusCode : a.getStatusCode = b.getStatusCode
  allResponse : a.getAllResponse = b.getAllResponse
  errorMessage : a.getErrorMessage = b.getErrorMessage
  msgType : a.getMsgType = b.getMsgType
  msgTypeString : ∀ type, a.getMsgTypeString type = b.getMsgTypeString type
  taskId : a.getTaskId = b.getTaskId
  displayText : a.getDisplayText = b.getDisplayText
  spokenText : a.getSpokenText = b.getSpokenText
  result : a.getResult = b.getResult
  sentenceIndex : a.getSentenceIndex = b.getSentenceIndex
  sentenceTime : a.getSentenceTime = b.getSentenceTime
  sentenceBeginTime : a.getSentenceBeginTime = b.getSentenceBeginTime
  sentenceConfidence : a.getSentenceConfidence = b.getSentenceConfidence
  sentenceTimeOutStatus : a.getSentenceTimeOutStatus = b.getSentenceTimeOutStatus
  sentenceWordsList : a.getSentenceWordsList = b.getSentenceWordsList
  binaryData : a.getBinaryData = b.getBinaryData
  binaryDataInChar : a.getBinaryDataInChar = b.getBinaryDataInChar
  binaryDataSize : a.getBinaryDataSize = b.getBinaryDataSize
  wakeWordAccepted : a.getWakeWordAccepted = b.getWakeWordAccepted
  stashResultSentenceId : a.getStashResultSentenceId = b.getStashResultSentenceId
  stashResultBeginTime : a.getStashResultBeginTime = b.getStashResultBeginTime
  stashResultCurrentTime : a.getStashResultCurrentTime = b.getStashResultCurrentTime
  stashResultText : a.getStashResultText = b.getStashResultText
  usage : a.getUsage = b.getUsage

theorem SameGetters.of_eq {a b : EventFields} (same : a = b) : SameGetters a b := by
  subst same
  constructor <;> intros <;> rfl

namespace NlsEvent

/-- The copy forgets both texts of a dialog and the answer to a wake word, and nothing else a
getter shows. -/
theorem copy_sameGetters (ne : NlsEvent) :
    SameGetters ne.copy.toEventFields ne.toEventFields ↔
      ne.displayText = [] ∧ ne.spokenText = [] ∧
        (ne.msgType = .wakeWordVerificationCompleted → ne.wakeWordAccepted = false) := by
  constructor
  · intro same
    refine ⟨same.displayText.symm, same.spokenText.symm, fun wake => ?_⟩
    have accepted := same.wakeWordAccepted
    rw [EventFields.getWakeWordAccepted_of_wake wake,
      EventFields.getWakeWordAccepted_of_wake (e := ne.copy.toEventFields) wake] at accepted
    exact accepted.symm
  · rintro ⟨noDisplay, noSpoken, notAccepted⟩
    have accepted : ne.copy.getWakeWordAccepted = ne.getWakeWordAccepted := by
      by_cases wake : ne.msgType = .wakeWordVerificationCompleted
      · rw [EventFields.getWakeWordAccepted_of_wake wake, notAccepted wake]
        exact EventFields.getWakeWordAccepted_of_wake (e := ne.copy.toEventFields) wake
      · rw [EventFields.getWakeWordAccepted_of_not_wake wake]
        exact EventFields.getWakeWordAccepted_of_not_wake (e := ne.copy.toEventFields) wake
    constructor
    case displayText => exact noDisplay.symm
    case spokenText => exact noSpoken.symm
    case wakeWordAccepted => exact accepted
    all_goals intros; rfl

end NlsEvent

end NlsSdk.Framework
