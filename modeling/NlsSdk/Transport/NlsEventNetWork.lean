import NlsSdk.Transport.WorkThread

/-!
# The checks in front of a node

`NlsEventNetWork` passes a call of the user on only in certain statuses of the
node. Event callbacks and the slicer are not checked.
-/
namespace NlsSdk.Transport

namespace ConnectNode

/-- Audio, directives, texts, pings and flushes need a running session. -/
def Running (n : ConnectNode) : Prop := n.workStatus = .nodeStarted ∧ n.exitStatus = .exitInvalid

instance (n : ConnectNode) : Decidable n.Running := inferInstanceAs (Decidable (_ ∧ _))

/-- `NodeInvoking <= status` and `status < NodeFailed`. -/
def isInvoked (n : ConnectNode) : Bool :=
  n.workStatus ∈ [.nodeInvoking, .nodeInvoked, .nodeConnecting, .nodeConnected, .nodeHandshaking,
    .nodeHandshaked, .nodeStarting, .nodeStarted, .nodeWakeWording]

end ConnectNode

/-- The calls `NlsEventNetWork` lets through; no call leads to a wake word command. -/
def NodeOp.Admitted (n : ConnectNode) (op : NodeOp) : Prop :=
  match op with
  | .sendAudio _ => n.Running
  | .cmdNotify .cmdStop _ => n.exitStatus = .exitInvalid ∧ n.isInvoked
  | .cmdNotify .cmdCancel _ =>
    n.exitStatus ≠ .exitCancel ∧ (n.isInvoked ∨ n.workStatus ∈ [.nodeFailed, .nodeCompleted])
  | .cmdNotify .cmdStControl _ | .cmdNotify .cmdSendText _ | .cmdNotify .cmdSendPing _
  | .cmdNotify .cmdSendFlush _ => n.Running
  | .cmdNotify _ _ => False
  | _ => True

instance (n : ConnectNode) (op : NodeOp) : Decidable (op.Admitted n) := by
  unfold NodeOp.Admitted
  split <;> infer_instance

/-! ## A session from its start on -/

def upgradeText (path : String) : UpgradeRequest where
  bytes := ascii "GET /" ++ ascii path ++ ascii " HTTP/1.1"
  nonempty := by
    have : ascii "GET /" ≠ [] := by decide
    simp [this]

def transcription : ConnectNode where
  param := { mode := .typeRealTime }

/-- A transcription from the call of start to its Started event; the socket takes everything. -/
def startSession : List NodeInput :=
  [{ op := .start },
   { op := .launchEvent
     env := { upgradeRequest := some (upgradeText "ws"), attempts := [.handshaking] } },
   { op := .readEvent .ready
     env := { command := fun _ _ => some (ascii "Start")
              reads := [some (ascii "HTTP/1.1 101 Upgraded\r\n\r\n")] } },
   { op := .readEvent .ready
     env := { parseJsonMsg := fun _ => .ok { msgType := .transcriptionStarted }
              reads := [some ([0x81, 7] ++ ascii "Started")] } }]

end NlsSdk.Transport
