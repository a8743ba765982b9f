import NlsSdk.Transport.Output

/-!
# Received frames

`parseFrame` turns one frame into an event, gives it to the user and moves the
status on; `webSocketResponse` does so for every frame a read completes.
-/
namespace NlsSdk.Transport.ConnectNode

/-- The event of a text message. -/
def convertText (e : Env) (n : ConnectNode) (result : Bytes) :
    ConnectNode × Except NlsRetCode NlsEvent :=
  if result = [] then
    (n.handlerEvent e taskFailedUtf8JsonString NlsErrorCode.utf8ConvertError .taskFailed,
      .error .wsResponsePackageEmpty)
  else match e.parseJsonMsg result with
    | .ok event => (n, .ok event)
    | .error .ignoredNlsEventMsg => (n, .error .ignoredNlsEventMsg)
    | .error code =>
      (n.handlerEvent e taskFailedParseJsonString NlsErrorCode.jsonStringParseFailed .taskFailed,
        .error code)

/-- The event of a TEXT or BINARY frame; a frame that is neither fails the session. -/
def convertResult (e : Env) (n : ConnectNode) (buffer : Bytes) (wsFrame : WebSocketFrame) :
    ConnectNode × Except NlsRetCode NlsEvent :=
  let body := wsFrame.payload buffer
  if !n.request then (n, .error .requestEmpty)
  else match wsFrame.type with
    | .binaryFrame =>
      (n, if 0 < wsFrame.length then
          .ok { msgType := .binary, response := body, taskId := n.param.taskId }
        else .error .wsFrameBodyEmpty)
    | .textFrame => n.convertText e (if n.param.outputFormatGbk then e.utf8ToGbk body else body)
    | _ =>
      (n.handlerEvent e taskFailedWsJsonString NlsErrorCode.unknownWsHeadType .taskFailed,
        .error .unknownWsFrameHeadType)

def isStarted (type : EventType) : Bool :=
  type = .recognitionStarted || type = .transcriptionStarted || type = .synthesisStarted

/-- The task id of the server replaces the one of the request. -/
def adoptTaskId (n : ConnectNode) (event : NlsEvent) : ConnectNode :=
  if isStarted event.msgType ∧ event.taskId ≠ [] then
    { n with param := { n.param with taskId := event.taskId } }
  else n

/-- The session has started: Start is answered and a reconnection, if any, is over. -/
def enterStarted (n : ConnectNode) : ConnectNode :=
  let n := if n.param.requestType = .speechWakeWordDialog then
      { n with workStatus := .nodeWakeWording }
    else if (n.param.mode = .typeStreamInputTts ∨
        n.param.mode = .typeDashSceopCosyVoiceStreamInputTts) ∧ n.param.singleRoundText ≠ [] then
      { n with
        workStatus := .nodeStarted
        isSendSingleRoundText := true
        singleRoundTextEvent := true }
    else { n with workStatus := .nodeStarted }
  { n with reconnection := { n.reconnection with state := .noReconnection } }

/-- `ignoreFlag`: a late TaskFailed of a closed long connection. -/
def ignoreFlag (n : ConnectNode) (type : EventType) : Bool :=
  type = .taskFailed && n.ignoreCallbackWhenNodeClosedWhenLongConnection type

/-- The status after the event was given to the user. -/
def statusAfter (n : ConnectNode) (type : EventType) : ConnectNode :=
  match type with
  | .recognitionStarted | .transcriptionStarted | .synthesisStarted => n.enterStarted
  | .close | .recognitionCompleted | .transcriptionCompleted | .synthesisCompleted =>
    { n with workStatus := .nodeCompleted }
  | .taskFailed => if n.ignoreFlag type then n else { n with workStatus := .nodeFailed }
  | .wakeWordVerificationCompleted => { n with workStatus := .nodeStarted }
  | .binary =>
    if n.isFirstBinaryFrame then
      { n with isFirstBinaryFrame := false, workStatus := .nodeStarted }
    else n
  | _ => n

/-- Events after which the session is closed. -/
def closeFlag (n : ConnectNode) (type : EventType) : Bool :=
  match type with
  | .close | .recognitionCompleted => n.param.mode ≠ .typeDialog
  | .taskFailed | .transcriptionCompleted | .synthesisCompleted | .dialogResultGenerated => true
  | _ => false

/-- Which push the pool is asked for when a session ends well. -/
def pushCall (n : ConnectNode) : PoolCall :=
  if n.withPreconnectedNode ∧ !n.channel.native then .pushPrestartedNodeFromPreconnected
  else .pushPrestartedNode n.channel.native

/-- End the session behind its last event: close the connection, or keep it open for the pool
or for the next session on a long connection. -/
def closeSession (e : Env) (n : ConnectNode) (ignore : Bool) : ConnectNode :=
  let n := { n with isPreconnecting := false }
  if !n.isLongConnection ∨ n.workStatus = .nodeFailed then
    if n.usePreconnection ∧ n.workStatus ≠ .nodeFailed then
      let n := { n.closeStatusConnectNodeForConnectedPool with isPreconnecting := true }
      let n := if e.hasPool then { n with poolCalls := n.poolCalls ++ [n.pushCall] } else n
      n.handlerClose e
    else n.closeConnectNode.handlerClose e
  else if ignore then n.closeConnectNode
  else n.closeStatusConnectNode.handlerClose e

/-- Give an event to the user and act on it. -/
def handleEvent (e : Env) (n : ConnectNode) (event : NlsEvent) : ConnectNode × Ret :=
  if n.exitStatus = .exitCancel then (n, .error .invalidExitStatus)
  else
    let handled := (n.adoptTaskId event).handlerFrame e event
    match handled.2 with
    | .error code => (handled.1, .error code)
    | .ok _ =>
      let ignore := handled.1.ignoreFlag event.msgType
      let n := handled.1.statusAfter event.msgType
      (if n.closeFlag event.msgType then n.closeSession e ignore else n, .ok 0)

/-- The TaskFailed event a CLOSE frame is reported as. -/
def closeFrameEvent (n : ConnectNode) (buffer : Bytes) (wsFrame : WebSocketFrame) : NlsEvent :=
  { msgType := .taskFailed
    statusCode := wsFrame.closeCode
    response := taskFailedText 2048 (wsFrame.payload buffer)
    taskId := n.param.taskId }

def parseFrame (e : Env) (n : ConnectNode) (buffer : Bytes) (wsFrame : WebSocketFrame) :
    ConnectNode × Ret :=
  if !n.request then (n, .error .requestEmpty)
  else match wsFrame.type with
    | .close =>
      if n.workStatus ≠ .nodeClosed then n.handleEvent e (n.closeFrameEvent buffer wsFrame)
      else (n.closeConnectNode, .error .nlsEventEmpty)
    | .pong => (n, .ok 0)
    | _ =>
      let converted := n.convertResult e buffer wsFrame
      match converted.2 with
      | .ok event => converted.1.handleEvent e event
      | .error .wsFrameBodyEmpty | .error .ignoredNlsEventMsg => (converted.1, .ok 0)
      | .error _ => (converted.1.closeConnectNode.handlerClose e, .error .nlsEventEmpty)

/-- `parseFrame` with the checks `webSocketResponse` makes around it. -/
def deliverFrame (e : Env) (n : ConnectNode) (buffer : Bytes) (wsFrame : WebSocketFrame) :
    ConnectNode × Ret :=
  if n.releasingFlag then (n, .error .invalidStatusWhenReleasing)
  else
    let parsed := n.parseFrame e buffer wsFrame
    if !parsed.2.failed ∧ !parsed.1.registered then (parsed.1, .error .nodeEmpty) else parsed

/-- Put the receiving side back and keep the text of a failed read. -/
def withReader (e : Env) (n : ConnectNode) (r : Reader) (ret : Ret) : ConnectNode × Ret :=
  let n := { n with reader := r }
  match ret with
  | .error .nlsReceiveFailed => ({ n with nodeErrMsg := e.socketErrMsg }, ret)
  | _ => (n, ret)

def webSocketResponse (e : Env) (n : ConnectNode) : ConnectNode × Ret :=
  if n.releasingFlag then (n, .error .invalidStatusWhenReleasing)
  else
    let read := n.reader.webSocketResponse (deliverFrame e) (fun n => n.channel.isOpen) n
    read.2.1.withReader e read.1 read.2.2

/-- The answer to the upgrade request. -/
def gatewayResponse (e : Env) (n : ConnectNode) : ConnectNode × Ret :=
  let read := n.reader.gatewayResponse n.channel.isOpen
  match read.2 with
  | .error .httpGotBadStatus | .error .wsResponsePackageFailed =>
    ({ n with reader := read.1, nodeErrMsg := read.1.webSocket.errorMsg }, read.2)
  | ret => n.withReader e read.1 ret

end NlsSdk.Transport.ConnectNode
