import NlsSdk.Transport.ConnectNode

/-!
# Callbacks and automatic reconnection

`handlerFrame` and `handlerEvent` give events to the user, keep the reconnection
state and decide which events are hidden while a relaunch is under way.
-/
namespace NlsSdk.Transport

def taskFailedConnectJsonString : Bytes := ascii "connect failed."
def taskFailedParseJsonString : Bytes := ascii "\x7b\"TaskFailed\": \"JSON: Json parse failed.\"\x7d"
def taskFailedUtf8JsonString : Bytes := ascii "\x7b\"TaskFailed\": \"utf8ToGbk failed.\"\x7d"
def taskFailedWsJsonString : Bytes := ascii "\x7b\"TaskFailed\": \"WEBSOCKET: unkown head type.\"\x7d"
def unknownFailedString : Bytes := ascii "\x7b\"TaskFailed\":\"Unknown failed.\"\x7d"

/-- `snprintf(tmp_msg, size - 1, "{\"TaskFailed\":\"%s\"}", info)` into a zeroed buffer. -/
def taskFailedText (size : ℕ) (info : Bytes) : Bytes :=
  (ascii "\x7b\"TaskFailed\":\"" ++ info ++ ascii "\"\x7d").take (size - 2)

/-- `strstr`. -/
def contains (text pat : Bytes) : Bool := (find pat text).isSome

/-- Codes after which a request with reconnection enabled is launched again. -/
def retriable (code : ℤ) : Bool :=
  (50000000 ≤ code && code < 60000000) || code = NlsErrorCode.defaultErrorCode ||
    code = NlsErrorCode.sysErrorCode || code = NlsErrorCode.unknownWsHeadType ||
    code = NlsErrorCode.httpConnectFailed || code = NlsErrorCode.sysConnectFailed ||
    code = NlsErrorCode.clientError || code = NlsErrorCode.concurrencyExceed

def getErrorCodeFromMsg (e : Env) (msg : Bytes) : ℤ :=
  match e.headerStatus msg with
  | some (some status) => status
  | some none => NlsErrorCode.defaultErrorCode
  | none =>
    if contains msg (ascii "return of SSL_read:") then NlsErrorCode.defaultErrorCode
    else if contains msg (ascii "ACCESS_DENIED") then
      if contains msg (ascii "The token") then
        if contains msg (ascii "has expired") then NlsErrorCode.tokenHasExpired
        else if contains msg (ascii "is invalid") then NlsErrorCode.tokenIsInvalid
        else NlsErrorCode.defaultErrorCode
      else if contains msg (ascii "No privilege to this voice") then
        NlsErrorCode.noPrivilegeToVoice
      else if contains msg (ascii "Missing authorization header") then
        NlsErrorCode.missAuthHeader
      else NlsErrorCode.defaultErrorCode
    else if contains msg (ascii "Got bad status") then
      if contains msg (ascii "403 Forbidden") then NlsErrorCode.httpGotBadStatusWith403
      else NlsErrorCode.defaultErrorCode
    else if contains msg (ascii "Operation now in progress") then NlsErrorCode.opNowInProgress
    else if contains msg (ascii "Broken pipe") then NlsErrorCode.brokenPipe
    else if contains msg (ascii "connect failed") then NlsErrorCode.sysConnectFailed
    else NlsErrorCode.defaultErrorCode

namespace ConnectNode

/-- The first half of `ignoreCallbackWhenReconnecting`: a retriable failure of a running
session asks for a relaunch. -/
def noteInterruption (e : Env) (n : ConnectNode) (eventType : EventType) (code : ℤ) :
    ConnectNode :=
  if eventType = .taskFailed ∧ retriable code ∧
      (n.reconnection.state = .noReconnection ∨
        n.reconnection.state = .newReconnectionStarting) then
    { n with reconnection :=
      { n.reconnection with
        interruptionTimestampMs := e.now
        reconnectedCount := n.reconnection.reconnectedCount + 1
        state := .willReconnect } }
  else n

def ignoreCallbackWhenReconnecting (e : Env) (n : ConnectNode) (eventType : EventType)
    (code : ℤ) : ConnectNode × Bool :=
  if n.request ∧ n.param.enableReconnect then
    let n := n.noteInterruption e eventType code
    if (n.reconnection.state = .willReconnect ∨ n.reconnection.state = .triggerReconnection) ∧
        (eventType = .taskFailed ∨ eventType = .close) then
      if n.reconnection.reconnectedCount ≤ maxTryCount then (n, true)
      else ({ n with reconnection := { n.reconnection with state := .noReconnection } }, false)
    else (n, false)
  else (n, false)

def ignoreCallbackWhenNodeClosedWhenLongConnection (n : ConnectNode) (eventType : EventType) :
    Bool :=
  n.request && n.isLongConnection && n.workStatus = .nodeClosed && eventType = .taskFailed

/-- Arm the relaunch; the state moves on only when the event could be added. -/
def nodeReconnecting (e : Env) (n : ConnectNode) : ConnectNode :=
  if n.reconnection.state = .willReconnect ∧ e.eventAdd then
    { n with reconnection :=
      { n.reconnection with state := .triggerReconnection, armed := true } }
  else n

def updateTwIndexOffset (n : ConnectNode) (frameEvent : NlsEvent) : ConnectNode :=
  if frameEvent.msgType = .sentenceBegin then
    { n with reconnection := { n.reconnection with twIndexOffset := frameEvent.sentenceIndex } }
  else n

/-- The events a relaunch keeps from the user. -/
def endsSession (type : EventType) : Bool := type = .taskFailed || type = .close

/-- The call into the user's listener. -/
def callback (n : ConnectNode) (event : NlsEvent) : ConnectNode :=
  { n with
    callbacks := n.callbacks ++ [{ event := event, asMessage := n.enableOnMessage }]
    hidden := n.hidden && !endsSession event.msgType }

/-- What `handlerFrame` does once the listener has returned. -/
def afterCallback (e : Env) (n : ConnectNode) (eventType : EventType) (ignored : Bool) :
    ConnectNode :=
  if eventType = .close then
    let n := n.nodeReconnecting e
    { n with
      reconnection :=
        if ignored then n.reconnection else { n.reconnection with reconnectedCount := 0 }
      retryConnectCount := 0 }
  else if eventType = .taskFailed ∧ !ignored ∧ n.request ∧ e.hasPool then
    { n with poolCalls := n.poolCalls ++ [.curRequestIsAbnormal] }
  else n

def handlerFrame (e : Env) (n : ConnectNode) (frameEvent : NlsEvent) : ConnectNode × Ret :=
  if n.workStatus = .nodeInvalid then (n, .error .invaildNodeStatus)
  else if !n.handler then (n, .error .nlsEventEmpty)
  else
    let reconnecting := (n.updateTwIndexOffset frameEvent).ignoreCallbackWhenReconnecting e
      frameEvent.msgType frameEvent.statusCode
    let n := { reconnecting.1 with hidden := reconnecting.2 || reconnecting.1.hidden }
    let ignored := reconnecting.2 ||
      n.ignoreCallbackWhenNodeClosedWhenLongConnection frameEvent.msgType
    let n := if ignored then n else n.callback frameEvent
    (n.afterCallback e frameEvent.msgType ignored, .ok 0)

def noteErrorCode (n : ConnectNode) (errorCode : ℤ) : ConnectNode :=
  if errorCode = NlsErrorCode.closeCode then n else { n with nodeErrCode := errorCode }

/-- The event `handlerEvent` makes. -/
def ownEvent (e : Env) (n : ConnectNode) (errorMsg : Bytes) (errorCode : ℤ)
    (eventType : EventType) : NlsEvent :=
  { msgType := eventType
    statusCode := errorCode
    response := if eventType = .close ∨ eventType = .taskFailed then
      e.replenishNodeProcess errorMsg else errorMsg
    taskId := n.param.taskId }

/-- Hand over an event of the node's own, unless Close has been reported before. -/
def report (e : Env) (n : ConnectNode) (useEvent : NlsEvent) : ConnectNode :=
  if !n.handler ∨ n.workStatus = .nodeClosed then n
  else
    let handled := (n.handlerFrame e useEvent).1
    if useEvent.msgType = .close then handled.setConnectNodeStatus .nodeClosed else handled

def handlerEvent (e : Env) (n : ConnectNode) (errorMsg : Bytes) (errorCode : ℤ)
    (eventType : EventType) : ConnectNode :=
  if n.exitStatus = .exitCancel ∨ !n.request then n
  else (n.noteErrorCode errorCode).report e (n.ownEvent e errorMsg errorCode eventType)

/-- A task id is made of hexadecimal digits and needs no escaping. -/
def genCloseMsg (n : ConnectNode) : Bytes :=
  ascii "\x7b\"channelClosed\":\"nls request finished.\"" ++
    (if n.param.taskId = [] then [] else
      ascii ",\"task_id\":\"" ++ n.param.taskId ++ ascii "\"") ++ ascii "\x7d"

/-- The Close event every ended session reports. -/
def handlerClose (e : Env) (n : ConnectNode) : ConnectNode :=
  n.handlerEvent e n.genCloseMsg NlsErrorCode.closeCode .close

def handlerTaskFailedEvent (e : Env) (n : ConnectNode) (failedInfo : Bytes) (code : ℤ) :
    ConnectNode :=
  let text := if failedInfo = [] then unknownFailedString else taskFailedText 1024 failedInfo
  let code :=
    if failedInfo = [] then NlsErrorCode.defaultErrorCode
    else if code = NlsErrorCode.defaultErrorCode then getErrorCodeFromMsg e failedInfo
    else code
  (n.handlerEvent e text code .taskFailed).handlerClose e

end ConnectNode

end NlsSdk.Transport
