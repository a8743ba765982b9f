import NlsSdk.Library.ChunkQueue
import NlsSdk.Transport.Reader

/-!
# The data of a connect node

The fields of `ConnectNode` the modelled functions read or write, the socket it
works with and what the code around it may answer. `callbacks`, `hidden` and `poolCalls`
record what the node told the user and the connection pool, `queued`, `upgrade`
and `written` what went into its buffers and onto its connection.
-/
namespace NlsSdk.Transport

open NlsSdk.Library

def retryConnectCountMax : ℕ := 4

def nodeFrameSize : ℕ := 2048

/-- `NodeReconnection::max_try_count`. -/
def maxTryCount : ℕ := 4

def buffer8kMaxLimit : ℕ := 96000

def buffer16kMaxLimit : ℕ := 192000

abbrev EvBuffer := ChunkQueue UInt8

/-- The buffers a node sends from. -/
inductive Output
  | binary | cmd | wwv
  deriving DecidableEq, Repr, Inhabited

instance : Nontrivial Output := ⟨.binary, .cmd, by decide⟩

inductive SocketState
  | invalid | connecting | established
  deriving DecidableEq, Repr

/-- The socket with its TLS handle. `accepts` is what the next writes will take of what they
are offered, `none` for a failing write; behind its end everything is taken. -/
structure Channel where
  socket : SocketState := .invalid
  /-- `_sslHandle == _nativeSslHandle` -/
  native : Bool := true
  written : Bytes := []
  accepts : List (Option ℕ) := []
  deriving DecidableEq, Repr

namespace Channel

/-- What a write of `frame` returns, `none` for a failure. -/
def accepted (c : Channel) (frame : Bytes) : Option ℕ :=
  match c.socket, c.accepts with
  | .invalid, _ => none
  | .connecting, some _ :: _ => some 0
  | .connecting, _ => none
  | .established, [] => some frame.length
  | .established, none :: _ => none
  | .established, some k :: _ => some (min k frame.length)

def send (c : Channel) (frame : Bytes) : Channel :=
  { c with
    written := c.written ++ frame.take ((c.accepted frame).getD 0)
    accepts := c.accepts.tail }

/-- Only the handle the node was created with is closed together with the node. -/
def close (c : Channel) : Channel := if c.native then { c with socket := .invalid } else c

def isOpen (c : Channel) : Bool := c.socket = .established

theorem accepted_le {c : Channel} {frame : Bytes} {k : ℕ} (h : c.accepted frame = some k) :
    k ≤ frame.length := by
  unfold accepted at h
  split at h <;> simp_all <;> omega

@[simp] theorem written_close (c : Channel) : c.close.written = c.written := by
  unfold close; split <;> rfl

@[simp] theorem native_close (c : Channel) : c.close.native = c.native := by
  unfold close; split <;> rfl

end Channel

structure NodeReconnection where
  state : ReconnectionState := .noReconnection
  reconnectedCount : ℕ := 0
  twIndexOffset : ℕ := 0
  interruptionTimestampMs : ℕ := 0
  firstAudioTimestampMs : ℕ := 0
  /-- the event made by `getReconnectEvent` is pending -/
  armed : Bool := false
  deriving DecidableEq, Repr

/-- The parameters of the request a node reads. -/
structure RequestParam where
  mode : NlsType := .typeAsr
  requestType : NlsRequestType := .speechNormal
  enableReconnect : Bool := false
  enableWakeWord : Bool := false
  enableOnMessage : Bool := false
  outputFormatGbk : Bool := false
  sampleRate : ℕ := 16000
  /-- the audio format is "opu" or "opus" -/
  encodedFormat : Bool := false
  singleRoundText : Bytes := []
  taskId : Bytes := []
  deriving DecidableEq, Repr

/-- A callback to the user; in OnMessage mode its type is replaced by `Message`. -/
structure Callback where
  event : NlsEvent
  asMessage : Bool := false
  deriving DecidableEq, Repr

/-- Calls a node makes to the pool while it handles an event. -/
inductive PoolCall
  | curRequestIsAbnormal
  | pushPrestartedNode (isNativeSsl : Bool)
  | pushPrestartedNodeFromPreconnected
  deriving DecidableEq, Repr

/-- What a call into the user's listener may change. -/
structure Reporting where
  reconnection : NodeReconnection := {}
  retryConnectCount : ℕ := 0
  callbacks : List Callback := []
  /-- the last TaskFailed or Close was kept from the user because of a relaunch -/
  hidden : Bool := false
  poolCalls : List PoolCall := []
  deriving DecidableEq

/-- The buffers a node sends from and the socket it sends to. -/
structure Sending where
  evBuffer : Output → EvBuffer := fun _ => {}
  /-- what was queued since the socket was made -/
  queued : List Bytes := []
  /-- the upgrade request queued since the socket was made -/
  upgrade : Option Bytes := none
  channel : Channel := {}

/-- The libevent events of a node, each set or not. -/
structure NodeEvents where
  readEvent : Bool := false
  writeEvent : Bool := false
  /-- the launch event is pending -/
  launchEvent : Bool := false
  startWithPoolEvent : Bool := false
  /-- a connect event is pending, or the timer that takes turns with it -/
  connectEvent : Bool := false
  /-- a name resolution is under way -/
  dnsRequest : Bool := false
  singleRoundTextEvent : Bool := false
  deriving DecidableEq

structure NodeFlags where
  /-- `_request != NULL` -/
  request : Bool := true
  /-- `checkNodeExist` succeeds -/
  registered : Bool := true
  releasingFlag : Bool := false
  handler : Bool := true
  isStop : Bool := false
  isWakeStop : Bool := false
  isFirstBinaryFrame : Bool := true
  isFirstAudioFrame : Bool := true
  isDestroy : Bool := false
  /-- the request is in the list of its work thread -/
  listed : Bool := false
  isConnected : Bool := false
  isLongConnection : Bool := false
  usePreconnection : Bool := false
  isPreconnecting : Bool := false
  isPreNodeStartStepByStep : Bool := false
  isSendSingleRoundText : Bool := false
  enableOnMessage : Bool := false
  /-- `_nodeProcess.connect_type == ConnectWithPreconnectedNodePool` -/
  withPreconnectedNode : Bool := false
  /-- `_nlsEncoder != NULL` with an encoder type -/
  nlsEncoder : Bool := false
  deriving DecidableEq

structure ConnectNode extends Reporting, Sending, NodeEvents, NodeFlags where
  param : RequestParam := {}
  workStatus : ConnectStatus := .nodeCreated
  exitStatus : ExitStatus := .exitInvalid
  nodeErrMsg : Bytes := []
  nodeErrCode : ℤ := NlsErrorCode.success
  limitSize : ℕ := buffer16kMaxLimit
  audioFrame : Bytes := []
  reader : Reader := {}

/-- The outcome of one attempt to connect, DNS resolution included. -/
inductive Attempt
  | parseUrlFailed
  | invalidDnsSource
  | pending
  | failed
  | connected
  | handshaking
  deriving DecidableEq, Repr

/-- The text `requestPackage` makes; it begins with its GET line. -/
structure UpgradeRequest where
  bytes : Bytes
  nonempty : bytes ≠ []

/-- What the code outside the node answers during one step: the request's command texts, the
upgrade request, the encoder, the JSON parser, the socket's error text and the event loop. -/
structure Env where
  command : CmdType → Bytes → Option Bytes := fun _ _ => none
  upgradeRequest : Option UpgradeRequest := none
  nlsEncoding : Bytes → Option Bytes := some
  parseJsonMsg : Bytes → Except NlsRetCode NlsEvent := fun _ => .error .jsonParseFailed
  /-- `header.status` of a text: outer `none` when it is not JSON -/
  headerStatus : Bytes → Option (Option ℤ) := fun _ => none
  utf8ToGbk : Bytes → Bytes := id
  replenishNodeProcess : Bytes → Bytes := id
  socketErrMsg : Bytes := []
  /-- `event_add` of the reconnect event succeeds -/
  eventAdd : Bool := true
  hasPool : Bool := false
  now : ℕ := 0
  attempts : List Attempt := []
  accepts : List (Option ℕ) := []
  reads : List (Option Bytes) := []

namespace ConnectNode

/-- A node just made: nothing queued, no socket, no event. -/
structure Created (n : ConnectNode) : Prop where
  sending : n.toSending = {}
  events : n.toNodeEvents = {}
  workStatus : n.workStatus = .nodeCreated
  exitStatus : n.exitStatus = .exitInvalid
  isStop : n.isStop = false

def setConnectNodeStatus (n : ConnectNode) (status : ConnectStatus) : ConnectNode :=
  { n with workStatus := status }

def getWakeStatus (n : ConnectNode) : Bool := n.isWakeStop

/-- `evbuffer_add`. -/
def evbufferAdd (n : ConnectNode) (i : Output) (frame : Bytes) : ConnectNode :=
  { n with
    evBuffer := Function.update n.evBuffer i ((n.evBuffer i).add frame)
    queued := n.queued ++ [frame] }

/-- `evbuffer_drain`. -/
def evbufferDrain (n : ConnectNode) (i : Output) (k : ℕ) : ConnectNode :=
  { n with evBuffer := Function.update n.evBuffer i ((n.evBuffer i).drain k) }

/-- Give the sockets the outcomes of this step. -/
def withEnv (n : ConnectNode) (e : Env) : ConnectNode :=
  { n with
    channel := { n.channel with accepts := e.accepts }
    reader := { n.reader with reads := e.reads } }

def initAllStatus (n : ConnectNode) : ConnectNode :=
  { n with
    isFirstBinaryFrame := true
    isStop := false
    isDestroy := false
    isWakeStop := false
    workStatus := .nodeCreated
    exitStatus := .exitInvalid }

def updateParameters (n : ConnectNode) : ConnectNode :=
  { n with
    limitSize := if n.param.sampleRate = 8000 then buffer8kMaxLimit else buffer16kMaxLimit
    enableOnMessage := n.param.enableOnMessage }

/-! ## Ending a connection -/

def disconnectProcess (n : ConnectNode) : ConnectNode :=
  { n with channel := n.channel.close, isConnected := false }

def closeStatusConnectNode (n : ConnectNode) : ConnectNode :=
  { n with nlsEncoder := false, audioFrame := [], isFirstAudioFrame := true }

def closeStatusConnectNodeForConnectedPool (n : ConnectNode) : ConnectNode :=
  { n with
    nlsEncoder := false
    isConnected := false
    readEvent := false
    writeEvent := false
    launchEvent := false
    startWithPoolEvent := false
    connectEvent := false
    audioFrame := []
    isFirstAudioFrame := true }

def closeConnectNode (n : ConnectNode) : ConnectNode :=
  { n with
    channel := n.channel.close
    isConnected := false
    readEvent := false
    writeEvent := false
    launchEvent := false
    startWithPoolEvent := false
    connectEvent := false
    audioFrame := []
    isFirstAudioFrame := true }

end ConnectNode

end NlsSdk.Transport
