import Mathlib.Tactic

/-!
# Codes, statuses and events shared by the transport layer

The enumerations of `nlsGlobal.h`, `connectNode.h` and `nlsEvent.h`, restricted
to the values the modelled functions use.
-/
namespace NlsSdk.Transport

/-- A byte string of the program. -/
abbrev Bytes := List UInt8

/-- The bytes of a string literal. -/
def ascii (s : String) : Bytes := s.toList.map (fun c => UInt8.ofNat c.toNat)

/-- Failure codes; a function of the source returns the negated code. -/
inductive NlsRetCode
  | mallocFailed
  | eventClientEmpty
  | invokeStartFailed
  | invalidStatusWhenReleasing
  | nlsEventEmpty
  | nlsEventMsgEmpty
  | invalidNlsEventMsgType
  | invalidNlsEventMsgStatusCode
  | invalidNlsEventMsgHeader
  | ignoredNlsEventMsg
  | jsonParseFailed
  | jsonObjectError
  | invalidWorkStatus
  | requestEmpty
  | invalidRequest
  | getHttpHeaderFailed
  | httpGotBadStatus
  | wsRequestPackageEmpty
  | wsResponsePackageFailed
  | wsResponsePackageEmpty
  | unknownWsFrameHeadType
  | invalidWsFrameHeaderSize
  | invalidWsFrameHeaderBody
  | invalidWsFrameBody
  | wsFrameBodyEmpty
  | nodeEmpty
  | invaildNodeStatus
  | connectFailed
  | socketFailed
  | setSocketoptFailed
  | evutilSocketFalied
  | socketConnectFailed
  | invalidDnsSource
  | parseUrlFailed
  | sslCtxEmpty
  | sslWriteFailed
  | nlsReceiveFailed
  | nlsReceiveEmpty
  | nlsSendFailed
  | nlsEncodingFailed
  | eventEmpty
  | evbufferTooMuch
  | invalidExitStatus
  | invalidAkId
  | invalidAkSecret
  | invalidAppKey
  | invalidDomain
  | invalidAction
  | invalidServerVersion
  | invalidFileLink
  | errorStatusCode
  | clientRequestFaild
  deriving DecidableEq, Repr

/-- What a function of the source returns: a count, or a negated code. -/
abbrev Ret := Except NlsRetCode ℕ

namespace Ret

def failed : Ret → Bool
  | .error _ => true
  | .ok _ => false

def isZero : Ret → Bool
  | .ok 0 => true
  | _ => false

@[simp] theorem failed_ok (k : ℕ) : failed (.ok k) = false := rfl

@[simp] theorem failed_error (e : NlsRetCode) : failed (.error e) = true := rfl

@[simp] theorem isZero_ok (k : ℕ) : isZero (.ok k) = decide (k = 0) := by
  cases k <;> simp [isZero]

@[simp] theorem isZero_error (e : NlsRetCode) : isZero (.error e) = false := rfl

end Ret

/-! ## Codes delivered with a callback -/

namespace NlsErrorCode

def success : ℤ := 0
def defaultErrorCode : ℤ := 10000002
def sysErrorCode : ℤ := 10000003
def jsonStringParseFailed : ℤ := 10000007
def unknownWsHeadType : ℤ := 10000008
def httpConnectFailed : ℤ := 10000009
def sysConnectFailed : ℤ := 10000015
def httpGotBadStatusWith403 : ℤ := 10000100
def evSendTimeout : ℤ := 10000101
def evRecvTimeout : ℤ := 10000102
def evUnknownEvent : ℤ := 10000103
def opNowInProgress : ℤ := 10000104
def brokenPipe : ℤ := 10000105
def tokenHasExpired : ℤ := 10000110
def tokenIsInvalid : ℤ := 10000111
def noPrivilegeToVoice : ℤ := 10000112
def missAuthHeader : ℤ := 10000113
def utf8ConvertError : ℤ := 10000120
def closeCode : ℤ := 20000000
def clientError : ℤ := 40000000
def concurrencyExceed : ℤ := 43040001

end NlsErrorCode

/-! ## Statuses of a node -/

inductive CmdType
  | cmdStart | cmdStop | cmdStControl | cmdTextDialog | cmdExecuteDialog | cmdWarkWord
  | cmdCancel | cmdSendText | cmdSendPing | cmdSendFlush
  deriving DecidableEq, Repr

inductive ExitStatus
  | exitInvalid | exitStopping | exitCancel
  deriving DecidableEq, Repr

inductive ConnectStatus
  | nodeInvalid | nodeCreated | nodeInvoking | nodeInvoked | nodeConnecting | nodeConnected
  | nodeHandshaking | nodeHandshaked | nodeStarting | nodeStarted | nodeWakeWording
  | nodeFailed | nodeCompleted | nodeClosed | nodeReleased
  deriving DecidableEq, Repr

inductive ReconnectionState
  | noReconnection | willReconnect | triggerReconnection | newReconnectionStarting
  deriving DecidableEq, Repr

/-- The service a request belongs to. -/
inductive NlsType
  | typeAsr | typeRealTime | typeTts | typeStreamInputTts | typeDialog
  | typeDashScopeParaformerRealTime | typeDashScopeFunAsrRealTime
  | typeDashSceopCosyVoiceStreamInputTts | typeNone
  deriving DecidableEq, Repr

inductive NlsRequestType
  | speechNormal | speechExecuteDialog | speechWakeWordDialog | speechTextDialog
  | speechSynthesizer | flowingSynthesizer
  deriving DecidableEq, Repr

/-! ## Events given to the user -/

inductive EventType
  | taskFailed | recognitionStarted | recognitionCompleted | recognitionResultChanged
  | wakeWordVerificationCompleted | transcriptionStarted | sentenceBegin
  | transcriptionResultChanged | sentenceEnd | sentenceSemantics | transcriptionCompleted
  | synthesisStarted | synthesisCompleted | binary | metaInfo | dialogResultGenerated
  | close | message | sentenceSynthesis | taskStarted | resultGenerated | taskFinished
  deriving DecidableEq, Repr

/-- The part of an `NlsEvent` the node itself reads. -/
structure NlsEvent where
  msgType : EventType
  statusCode : ℤ := NlsErrorCode.success
  response : Bytes := []
  taskId : Bytes := []
  sentenceIndex : ℕ := 0
  deriving DecidableEq, Repr

end NlsSdk.Transport
