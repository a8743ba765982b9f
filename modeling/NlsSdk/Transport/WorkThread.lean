import NlsSdk.Library.Run
import NlsSdk.Transport.ParseFrame

/-!
# The event callbacks of the work thread

A node is driven by its user's calls and by the callbacks of the event loop.
`NodeOp` lists them and `NodeOp.step` is one of them with everything the
environment answers while it runs; a run of a node is a list of such steps.
-/
namespace NlsSdk.Transport

namespace ConnectNode

/-- `checkConnectCount` refuses the attempt behind the last one allowed. -/
def connectCountLeft (n : ConnectNode) : Bool := n.retryConnectCount < retryConnectCountMax

/-- The first call marks the node, a further one releases its request. -/
def destroyConnectNode (n : ConnectNode) : ConnectNode :=
  if !n.listed then n
  else if n.isDestroy then { n with listed := false, request := false, registered := false }
  else { n with listed := false, isDestroy := true }

/-- The socket moves on. The connect event stays pending until it is established. -/
def socketConnect (n : ConnectNode) (socket : SocketState) : ConnectNode :=
  { n with
    connectEvent := socket = .connecting
    channel := { n.channel with socket := socket } }

/-- A new socket with its events; nothing has been written to it. -/
def connectProcess (n : ConnectNode) (socket : SocketState) : ConnectNode :=
  { n with
    readEvent := true
    writeEvent := true
    queued := []
    upgrade := none
    channel := { n.channel with written := [] } }.socketConnect socket

/-- Run a step that ends in `destroyConnectNode` when it fails. -/
def orDestroy (result : ConnectNode × Ret) : ConnectNode :=
  if result.2.failed then result.1.destroyConnectNode else result.1

/-- A failed connection is broken off and the node is back in the connecting stage. -/
def backToConnecting (n : ConnectNode) : ConnectNode :=
  { n.disconnectProcess with workStatus := .nodeConnecting }

/-- One more attempt. -/
def countConnect (n : ConnectNode) : ConnectNode :=
  { n with retryConnectCount := n.retryConnectCount + 1, workStatus := .nodeConnecting }

/-- What follows an attempt to connect, on a new socket or on the one at hand. A failed one is
broken off and tried again. -/
def connectAttempt (e : Env) (connect : ConnectNode → SocketState → ConnectNode)
    (retry : ConnectNode → ConnectNode) (n : ConnectNode) (attempt : Attempt) : ConnectNode :=
  if n.exitStatus = .exitCancel then
    retry n.backToConnecting
  else match attempt with
    | .pending => connect n .connecting
    | .connected =>
      { connect n .connecting with workStatus := .nodeConnected, isConnected := true }
    | .handshaking =>
      orDestroy
        ({ connect n .established with
          workStatus := .nodeHandshaking
          isConnected := true }.nodeRequestProcess e)
    | _ => retry n.backToConnecting

/-- The command that opens a session. -/
def startCommand (n : ConnectNode) : CmdType :=
  if n.param.requestType = .speechTextDialog then .cmdTextDialog else .cmdStart

/-- `dnsProcess`; the attempts it makes by itself come one after another from the list, and an
empty list is a name resolution still under way. -/
def dnsProcess (e : Env) : List Attempt → ConnectNode → ConnectNode × Ret
  | attempts, n =>
    if n.exitStatus = .exitCancel then (n, .error .invalidExitStatus)
    else if !n.registered then (n, .error .nodeEmpty)
    else if n.isLongConnection ∧ n.isConnected then
      let n := { n with workStatus := .nodeStarting }
      let sent := (n.addCmdDataBuffer e n.startCommand []).nlsSendFrame e .cmd false
      if sent.2.failed then
        ((sent.1.handlerTaskFailedEvent e sent.1.nodeErrMsg
          NlsErrorCode.defaultErrorCode).closeConnectNode, sent.2)
      else (sent.1, .ok 0)
    else if !n.connectCountLeft then
      ({ n with retryConnectCount := 0 }.handlerTaskFailedEvent e taskFailedConnectJsonString
        NlsErrorCode.sysConnectFailed, .error .connectFailed)
    else
      let n := n.countConnect
      match attempts with
      | [] => ({ n with dnsRequest := true }, .ok 0)
      | .parseUrlFailed :: _ => (n, .error .parseUrlFailed)
      | .invalidDnsSource :: _ => (n, .error .invalidDnsSource)
      | attempt :: rest =>
        (n.connectAttempt e connectProcess (fun n => orDestroy (dnsProcess e rest n)) attempt,
          .ok 0)

/-- Set a connection up with the next outcome; a failed attempt goes back to name resolution. -/
def continueConnect (e : Env) (connect : ConnectNode → SocketState → ConnectNode)
    (n : ConnectNode) : ConnectNode :=
  match e.attempts with
  | [] => n
  | attempt :: rest =>
    n.connectAttempt e connect (fun n => orDestroy (dnsProcess e rest n)) attempt

def launchEventCallback (e : Env) (n : ConnectNode) : ConnectNode :=
  if !n.registered then n
  else if n.exitStatus = .exitCancel ∨ n.exitStatus = .exitStopping then
    { n with workStatus := .nodeInvoked }
  else
    let n := { n with listed := true, workStatus := .nodeInvoked }
    orDestroy (dnsProcess e e.attempts n.updateParameters)

/-- The connect event: a time-out goes back to name resolution, otherwise the connection is set
up further. -/
def connectEventCallback (e : Env) (n : ConnectNode) (timeout : Bool) : ConnectNode :=
  if timeout then
    orDestroy (dnsProcess e e.attempts n.backToConnecting)
  else if n.workStatus = .nodeConnecting ∨ n.workStatus = .nodeConnected then
    if e.attempts = [] then { n with connectEvent := true } else n.continueConnect e socketConnect
  else n

/-- The answer of the name resolution. An answer without a usable address starts nothing. -/
def dnsEventCallback (e : Env) (n : ConnectNode) (failed : Bool) : ConnectNode :=
  if !n.registered then n
  else if failed then
    orDestroy (dnsProcess e e.attempts { n with workStatus := .nodeConnecting })
  else n.continueConnect e connectProcess

/-- `EV_WRITE` or `EV_READ`, a time-out, or anything else. -/
inductive EventKind
  | ready | timeout | unknown
  deriving DecidableEq, Repr

/-- A time-out or an unknown event closes the node and fails the session. -/
def failEvent (e : Env) (n : ConnectNode) (text : String) (code : ℤ) : ConnectNode :=
  n.closeConnectNode.handlerTaskFailedEvent e (ascii text ++ e.socketErrMsg) code

def writeEventCallBack (e : Env) (n : ConnectNode) (what : EventKind) : ConnectNode :=
  if !n.registered then n
  else if n.exitStatus = .exitCancel then n.closeConnectNode
  else
    let n := match what with
      | .ready => (n.nodeRequestProcess e).1
      | .timeout => n.failEvent e "Send timeout. socket error:" NlsErrorCode.evSendTimeout
      | .unknown => n.failEvent e "Unknown event:" NlsErrorCode.evUnknownEvent
    if n.workStatus = .nodeInvalid then n.destroyConnectNode else n

/-- The branch of `nodeResponseProcess` taken before the upgrade is answered. -/
def responseUpgrade (e : Env) (n : ConnectNode) : ConnectNode × Ret :=
  let answer := n.gatewayResponse e
  if answer.2.isZero then
    let n := { answer.1 with workStatus := .nodeStarting }
    if n.isPreNodeStartStepByStep then (n, .ok 0)
    else
      let sent := (n.addCmdDataBuffer e n.startCommand []).nlsSendFrame e .cmd false
      (if sent.2.failed then sent.1 else sent.1.sendFakeSynthesisStarted e, sent.2)
  else answer

/-- The branch taken while the session is being started; audio waiting for it goes out. -/
def responseStarting (e : Env) (n : ConnectNode) : ConnectNode × Ret :=
  let read := n.webSocketResponse e
  if read.1.workStatus = .nodeStarted then
    let sent := read.1.nlsSendFrame e .binary true
    if sent.2.isZero then sent.1.sendControlDirective e else sent
  else if read.1.workStatus = .nodeWakeWording then read.1.nlsSendFrame e .wwv false
  else read

/-- `nodeResponseProcess` up to the look at its result. -/
def responseRead (e : Env) (n : ConnectNode) : ConnectNode × Ret :=
  match n.workStatus with
  | .nodeHandshaking | .nodeHandshaked => n.responseUpgrade e
  | .nodeStarting | .nodeWakeWording => n.responseStarting e
  | .nodeStarted => n.webSocketResponse e
  | .nodeConnecting | .nodeClosed =>
    if n.isLongConnection then n.webSocketResponse e else (n, .error .invalidWorkStatus)
  | .nodeInvalid => (n, .error .invalidRequest)
  | _ => (n, .error .invalidWorkStatus)

def nodeResponseProcess (e : Env) (n : ConnectNode) : ConnectNode × Ret :=
  if !n.registered then (n, .error .nodeEmpty)
  else if n.releasingFlag then (n, .error .invalidStatusWhenReleasing)
  else
    let read := n.responseRead e
    match read.2 with
    | .ok k => (read.1, .ok k)
    | .error .nlsReceiveEmpty => (read.1, .ok 0)
    | .error .eventClientEmpty | .error .invalidStatusWhenReleasing => read
    | .error code =>
      if read.1.workStatus = .nodeClosed then (read.1, .ok 0)
      else if code = .invalidRequest then read
      else
        let info := read.1.failedInfo (ascii "workThread Response failed.")
        (read.1.closeConnectNode.handlerTaskFailedEvent e info NlsErrorCode.defaultErrorCode,
          .error code)

def readEventCallBack (e : Env) (n : ConnectNode) (what : EventKind) : ConnectNode :=
  if !n.registered then n
  else if n.exitStatus = .exitCancel then n.closeConnectNode
  else match what with
    | .ready =>
      let read := n.nodeResponseProcess e
      match read.2 with
      | .error .invalidRequest => read.1.closeConnectNode
      | _ => read.1
    | .timeout => n.failEvent e "Recv timeout. socket error:" NlsErrorCode.evRecvTimeout
    | .unknown => n.failEvent e "Unknown event:" NlsErrorCode.evUnknownEvent

/-- A pooled connection is taken over: its Start is queued and sent. -/
def startWithPoolEventCallback (e : Env) (n : ConnectNode) : ConnectNode :=
  if !n.registered then n
  else
    let n := { n with readEvent := true, writeEvent := true, workStatus := .nodeStarting }
    let sent := (n.addCmdDataBuffer e .cmdStart []).nlsSendFrame e .cmd false
    if n.param.mode = .typeTts ∧ !sent.2.failed then sent.1.sendFakeSynthesisStarted e else sent.1

/-- A synthesis of one text: the text and Stop go out together. -/
def singleRoundTextEventCallback (e : Env) (n : ConnectNode) : ConnectNode :=
  if !n.registered then n
  else if n.param.singleRoundText = [] then n
  else
    let sent := (n.cmdNotify e .cmdSendText n.param.singleRoundText).1
    let stopped := (sent.cmdNotify e .cmdStop []).1
    { stopped with param := { stopped.param with singleRoundText := [] } }

/-- `NlsEventNetWork::start` of a node that gets no pooled connection. -/
def start (e : Env) (n : ConnectNode) : ConnectNode :=
  let n := { n with
    usePreconnection := e.hasPool
    isLongConnection := n.isLongConnection && !e.hasPool }
  let n := if n.isLongConnection ∧ n.workStatus = .nodeClosed then n.initAllStatus else n
  if n.workStatus = .nodeCreated ∧ n.exitStatus = .exitInvalid then
    { n with
      workStatus := .nodeInvoking
      launchEvent := true
      nlsEncoder := n.param.encodedFormat }
  else if n.exitStatus = .exitInvalid ∧
      n.workStatus ∈ [.nodeInvoking, .nodeInvoked, .nodeConnecting, .nodeConnected,
        .nodeHandshaking, .nodeHandshaked, .nodeStarting, .nodeStarted, .nodeWakeWording] then n
  else { n with workStatus := .nodeCreated }

end ConnectNode

/-- The calls and event callbacks that may reach a node. -/
inductive NodeOp
  | start
  | sendAudio (frame : Bytes)
  /-- the slicer keeps a partial audio frame back -/
  | keepAudio (frame : Bytes)
  | cmdNotify (type : CmdType) (message : Bytes)
  | syncPingCmd
  | launchEvent
  | reconnectEvent
  | dnsEvent (failed : Bool)
  | connectEvent (timeout : Bool)
  | startWithPoolEvent
  | singleRoundTextEvent
  | readEvent (what : ConnectNode.EventKind)
  | writeEvent (what : ConnectNode.EventKind)
  deriving DecidableEq

open ConnectNode in
/-- One call or callback; an event of the node's own runs only when it is pending. -/
def NodeOp.step (n : ConnectNode) (op : NodeOp) (e : Env) : ConnectNode :=
  let n := n.withEnv e
  match op with
  | .start => n.start e
  | .sendAudio frame => (n.addAudioDataBuffer e frame).1
  | .keepAudio frame => { n with audioFrame := frame }
  | .cmdNotify type message => (n.cmdNotify e type message).1
  | .syncPingCmd => (n.syncPingCmd e).1
  | .launchEvent =>
    if n.launchEvent then { n with launchEvent := false }.launchEventCallback e else n
  | .reconnectEvent =>
    if n.reconnection.armed then
      { n with reconnection := { n.reconnection with armed := false } }.launchEventCallback e
    else n
  | .dnsEvent failed =>
    if n.dnsRequest then { n with dnsRequest := false }.dnsEventCallback e failed else n
  | .connectEvent timeout =>
    if n.connectEvent then { n with connectEvent := false }.connectEventCallback e timeout else n
  | .startWithPoolEvent =>
    if n.startWithPoolEvent then
      { n with startWithPoolEvent := false }.startWithPoolEventCallback e
    else n
  | .singleRoundTextEvent =>
    if n.singleRoundTextEvent then
      { n with singleRoundTextEvent := false }.singleRoundTextEventCallback e
    else n
  | .readEvent what => if n.readEvent then n.readEventCallBack e what else n
  | .writeEvent what => if n.writeEvent then n.writeEventCallBack e what else n

/-- One step of a run: what happens and what the environment answers. -/
structure NodeInput where
  op : NodeOp
  env : Env := {}

def nodeStep (n : ConnectNode) (input : NodeInput) : ConnectNode := input.op.step n input.env

/-- A run of a node. -/
def nodeRun (n : ConnectNode) (inputs : List NodeInput) : ConnectNode :=
  Library.run nodeStep n inputs

end NlsSdk.Transport
