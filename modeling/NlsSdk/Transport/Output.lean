import NlsSdk.Transport.Callback

/-!
# The sending side of a node

Frames are queued in three buffers and written from them in pieces of at most
`nodeFrameSize` bytes, by whichever of the functions below runs next.
-/
namespace NlsSdk.Transport.ConnectNode

open NlsSdk.Library

/-- One write to the socket. -/
def nlsSend (e : Env) (n : ConnectNode) (frame : Bytes) : ConnectNode × Ret :=
  if frame = [] then (n, .ok 0)
  else
    let sent := { n with channel := n.channel.send frame }
    match n.channel.accepted frame with
    | none => ({ sent with nodeErrMsg := e.socketErrMsg }, .error .sslWriteFailed)
    | some k => (sent, .ok k)

def noteFirstAudio (e : Env) (n : ConnectNode) (audioFrame : Bool) : ConnectNode :=
  if audioFrame ∧ n.isFirstBinaryFrame then
    { n with
      isFirstBinaryFrame := false
      reconnection := { n.reconnection with firstAudioTimestampMs := e.now } }
  else n

/-- The end of a write that took `k` bytes; returns the bytes left in the buffer. -/
def afterSend (e : Env) (n : ConnectNode) (i : Output) (audioFrame : Bool) (k : ℕ) :
    ConnectNode × Ret :=
  let n := (n.noteFirstAudio e audioFrame).evbufferDrain i k
  let left := (n.evBuffer i).length
  (n, if 0 < left ∧ !n.writeEvent then .error .eventEmpty else .ok left)

/-- Offer the head of a buffer to the socket. -/
def nlsSendFrame (e : Env) (n : ConnectNode) (i : Output) (audioFrame : Bool) :
    ConnectNode × Ret :=
  if (n.evBuffer i).length = 0 then (n, .ok 0)
  else
    let sent := n.nlsSend e ((n.evBuffer i).peek nodeFrameSize)
    match sent.2 with
    | .error _ => (sent.1, .error .nlsSendFailed)
    | .ok k => sent.1.afterSend e i audioFrame k

/-- The frame a command is sent as, `none` when nothing is sent for it. -/
def cmdFrame (e : Env) (type : CmdType) (message : Bytes) : Option Bytes :=
  match type with
  | .cmdCancel | .cmdExecuteDialog => none
  | .cmdSendPing => some pingFrame
  | type => (e.command type message).map textFrame

def addCmdDataBuffer (e : Env) (n : ConnectNode) (type : CmdType) (message : Bytes) :
    ConnectNode :=
  if !n.request then n
  else
    let n := if type = .cmdStart then
        { n with reconnection := { n.reconnection with state := .newReconnectionStarting } }
      else n
    match cmdFrame e type message with
    | none => n
    | some frame => n.evbufferAdd .cmd frame

def sendControlDirective (e : Env) (n : ConnectNode) : ConnectNode × Ret :=
  if n.workStatus = .nodeStarted ∧ n.exitStatus = .exitInvalid then
    if (n.evBuffer .cmd).length ≠ 0 then n.nlsSendFrame e .cmd false else (n, .ok 0)
  else if n.exitStatus = .exitStopping ∧ !n.isStop then
    let sent := (n.addCmdDataBuffer e .cmdStop []).nlsSendFrame e .cmd false
    ({ sent.1 with isStop := true }, sent.2)
  else (n, .ok 0)

/-- The buffer audio goes to. -/
def audioBuffer (n : ConnectNode) : Output :=
  if n.param.enableWakeWord ∧ !n.getWakeStatus then .wwv else .binary

/-- Audio as it is framed: encoded, or as it came. -/
def audioPayload (e : Env) (n : ConnectNode) (frame : Bytes) : Option Bytes :=
  if n.nlsEncoder then e.nlsEncoding frame else some frame

/-- A failing send ends the connection and the session. -/
def failSend (e : Env) (n : ConnectNode) : ConnectNode :=
  n.disconnectProcess.handlerTaskFailedEvent e n.nodeErrMsg NlsErrorCode.defaultErrorCode

/-- Audio is sent at once if nothing waits in front of it. -/
def sendsNow (n : ConnectNode) : Prop :=
  (n.evBuffer n.audioBuffer).length = 0 ∧
    (n.workStatus = .nodeStarted ∨ n.workStatus = .nodeWakeWording) ∧ n.isStop = false

instance (n : ConnectNode) : Decidable n.sendsNow := by unfold sendsNow; infer_instance

/-- Queue a frame of audio and send what may be sent, directives behind audio. -/
def pushAudio (e : Env) (n : ConnectNode) (payload : Bytes) : ConnectNode × Ret :=
  let queued := n.evbufferAdd n.audioBuffer (binaryFrame payload)
  let audio := if n.sendsNow then queued.nlsSendFrame e n.audioBuffer false else (queued, .ok 0)
  if audio.2.isZero then audio.1.sendControlDirective e else audio

def addAudioDataBuffer (e : Env) (n : ConnectNode) (frame : Bytes) : ConnectNode × Ret :=
  if !n.request then (n, .error .requestEmpty)
  else if frame = [] then (n, .error .nlsEncodingFailed)
  else match n.audioPayload e frame with
    | none => (n, .error .nlsEncodingFailed)
    | some payload =>
      if n.limitSize ≤ (n.evBuffer n.audioBuffer).length then (n, .error .evbufferTooMuch)
      else
        let sent := n.pushAudio e payload
        if sent.2.failed then (sent.1.failSend e, sent.2)
        else ({ sent.1 with isFirstAudioFrame := false }, .ok frame.length)

def addRemainAudioData (e : Env) (n : ConnectNode) : ConnectNode × Ret :=
  if n.audioFrame = [] then (n, .ok 0)
  else
    let sent := n.addAudioDataBuffer e n.audioFrame
    ({ sent.1 with audioFrame := [] }, sent.2)

/-- The writes of `cmdNotify`, before its result is looked at. -/
def cmdSend (e : Env) (n : ConnectNode) (type : CmdType) (message : Bytes) : ConnectNode × Ret :=
  match type with
  | .cmdStop =>
    let n := { (n.addRemainAudioData e).1 with exitStatus := .exitStopping }
    if n.workStatus = .nodeStarted ∧ (n.evBuffer .binary).length = 0 then
      n.sendControlDirective e else (n, .ok 0)
  | .cmdCancel => ({ n with exitStatus := .exitCancel }, .ok 0)
  | .cmdStControl =>
    let n := n.addCmdDataBuffer e .cmdStControl message
    if n.workStatus = .nodeStarted ∧ (n.evBuffer .binary).length = 0 then
      n.nlsSendFrame e .cmd false else (n, .ok 0)
  | .cmdWarkWord =>
    let n := { n with isWakeStop := true }
    if (n.evBuffer .wwv).length = 0 then
      (n.addCmdDataBuffer e .cmdWarkWord []).nlsSendFrame e .cmd false else (n, .ok 0)
  | .cmdSendText =>
    let n := n.addCmdDataBuffer e .cmdSendText message
    if n.workStatus = .nodeStarted then
      let sent := n.nlsSendFrame e .cmd false
      ({ sent.1 with isSendSingleRoundText := false }, sent.2)
    else (n, .ok 0)
  | .cmdSendPing => (n.addCmdDataBuffer e .cmdSendPing []).nlsSendFrame e .cmd false
  | .cmdSendFlush => (n.addCmdDataBuffer e .cmdSendFlush message).nlsSendFrame e .cmd false
  | .cmdStart | .cmdTextDialog | .cmdExecuteDialog => (n, .ok 0)

def cmdNotify (e : Env) (n : ConnectNode) (type : CmdType) (message : Bytes) :
    ConnectNode × Ret :=
  let sent := n.cmdSend e type message
  (if sent.2.failed then sent.1.failSend e else sent.1, sent.2)

/-- The ping of the pool, written past the buffers. -/
def syncPingCmd (e : Env) (n : ConnectNode) : ConnectNode × Ret :=
  if n.channel.socket = .invalid then (n, .error .sslCtxEmpty)
  else
    let sent := n.nlsSend e pingFrame
    match sent.2 with
    | .error _ | .ok 0 => (sent.1, .error .sslWriteFailed)
    | .ok _ => (sent.1, .ok 0)

def gatewayRequest (e : Env) (n : ConnectNode) : ConnectNode × Ret :=
  if !n.request then (n, .error .requestEmpty)
  else if !n.readEvent then (n, .error .eventEmpty)
  else match e.upgradeRequest with
    | none => (n, .error .getHttpHeaderFailed)
    | some request =>
      ({ n.evbufferAdd .cmd request.bytes with upgrade := some request.bytes }, .ok 0)

/-- `sendFakeSynthesisStarted`: a synthesis counts as started once Start has been sent. -/
def sendFakeSynthesisStarted (e : Env) (n : ConnectNode) : ConnectNode :=
  if n.param.requestType = .speechSynthesizer then
    (n.handlerFrame e { msgType := .synthesisStarted, taskId := n.param.taskId }).1
  else n

/-! ## The write event -/

/-- The writes of `nodeRequestProcess`, before their result is looked at. -/
def requestSend (e : Env) (n : ConnectNode) : ConnectNode × Ret :=
  match n.workStatus with
  | .nodeHandshaking =>
    let sent := (n.gatewayRequest e).1.nlsSendFrame e .cmd false
    (sent.1.setConnectNodeStatus .nodeHandshaked, sent.2)
  | .nodeHandshaked | .nodeStarting => n.nlsSendFrame e .cmd false
  | .nodeWakeWording =>
    let sent := n.nlsSendFrame e .wwv false
    if sent.2.isZero ∧ sent.1.getWakeStatus then
      (sent.1.addCmdDataBuffer e .cmdWarkWord []).nlsSendFrame e .cmd false
    else sent
  | .nodeStarted =>
    let sent := n.nlsSendFrame e .binary true
    if sent.2.isZero then sent.1.sendControlDirective e else sent
  | _ => (n, .error .invalidWorkStatus)

/-- The text reported when a step of the work thread fails. -/
def failedInfo (n : ConnectNode) (fallback : Bytes) : Bytes :=
  if n.nodeErrMsg = [] then fallback else n.nodeErrMsg

def nodeRequestProcess (e : Env) (n : ConnectNode) : ConnectNode × Ret :=
  if !n.registered then (n, .error .nodeEmpty)
  else
    let sent := n.requestSend e
    if sent.2.failed then
      let info := sent.1.failedInfo (ascii "workThread Send failed.")
      ((sent.1.handlerTaskFailedEvent e info NlsErrorCode.defaultErrorCode).closeConnectNode,
        sent.2)
    else (sent.1, .ok 0)

end NlsSdk.Transport.ConnectNode
