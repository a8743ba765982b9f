import NlsSdk.Transport.Heard

/-!
# The wire of a node

What has been written on the connection and what waits in the buffers, with the
three elementary moves that change them. Callbacks, received frames and the end
of a connection are no such move.
-/
namespace NlsSdk.Transport

open NlsSdk.Library

/-- What was written on the connection and what waits to be. -/
structure Wire where
  written : Bytes
  queued : List Bytes
  upgrade : Option Bytes
  evBuffer : Output → EvBuffer

namespace Wire

def add (v : Wire) (i : Output) (frame : Bytes) : Wire :=
  { v with
    queued := v.queued ++ [frame]
    evBuffer := Function.update v.evBuffer i ((v.evBuffer i).add frame) }

def send (v : Wire) (i : Output) (k : ℕ) : Wire :=
  { v with
    written := v.written ++ (v.evBuffer i).peek k
    evBuffer := Function.update v.evBuffer i ((v.evBuffer i).drain k) }

/-- A frame made for this connection. -/
def Produced (v : Wire) (frame : Bytes) : Prop :=
  IsFrame frame ∧ (frame ∈ v.queued ∨ frame = pingFrame)

theorem Produced.add {v : Wire} {f : Bytes} (h : v.Produced f) (i : Output) (frame : Bytes) :
    (v.add i frame).Produced f :=
  ⟨h.1, h.2.imp_left fun old => List.mem_append_left _ old⟩

theorem produced_add (v : Wire) (i : Output) {frame : Bytes} (h : IsFrame frame) :
    (v.add i frame).Produced frame :=
  ⟨h, Or.inl (List.mem_append_right _ (List.mem_singleton_self frame))⟩

def direct (v : Wire) (frame : Bytes) : Wire := { v with written := v.written ++ frame }

end Wire

namespace ConnectNode

def wire (n : ConnectNode) : Wire := ⟨n.channel.written, n.queued, n.upgrade, n.evBuffer⟩

variable {e : Env} {n m : ConnectNode}

/-! ## Calls that leave the wire alone -/

theorem Reported.wire (h : Reported n m) : m.wire = n.wire := by
  obtain ⟨r, err, st, rfl, -⟩ := h
  rfl

theorem CalledBack.wire (h : CalledBack n m) : m.wire = n.wire := h.reported.wire

@[simp] theorem wire_setConnectNodeStatus (n : ConnectNode) (st : ConnectStatus) :
    (n.setConnectNodeStatus st).wire = n.wire := rfl

@[simp] theorem wire_disconnectProcess (n : ConnectNode) : n.disconnectProcess.wire = n.wire := by
  simp [wire, disconnectProcess]

@[simp] theorem wire_closeConnectNode (n : ConnectNode) : n.closeConnectNode.wire = n.wire := by
  simp [wire, closeConnectNode]

@[simp] theorem wire_handlerTaskFailedEvent (e : Env) (n : ConnectNode) (info : Bytes)
    (code : ℤ) : (n.handlerTaskFailedEvent e info code).wire = n.wire :=
  (handlerTaskFailedEvent_reported e n info code).wire

@[simp] theorem wire_handlerEvent (e : Env) (n : ConnectNode) (msg : Bytes) (code : ℤ)
    (type : EventType) : (n.handlerEvent e msg code type).wire = n.wire :=
  (handlerEvent_reported e n msg code type).wire

@[simp] theorem wire_handlerClose (e : Env) (n : ConnectNode) :
    (n.handlerClose e).wire = n.wire := (handlerClose_reported e n).wire

@[simp] theorem wire_handlerFrame (e : Env) (n : ConnectNode) (event : NlsEvent) :
    (n.handlerFrame e event).1.wire = n.wire := (handlerFrame_calledBack e n event).wire

@[simp] theorem wire_failSend (e : Env) (n : ConnectNode) : (n.failSend e).wire = n.wire := by
  simp [failSend]

@[simp] theorem wire_failEvent (e : Env) (n : ConnectNode) (text : String) (code : ℤ) :
    (n.failEvent e text code).wire = n.wire := by
  simp [failEvent]

@[simp] theorem wire_destroyConnectNode (n : ConnectNode) :
    n.destroyConnectNode.wire = n.wire := by
  unfold destroyConnectNode
  split_ifs <;> rfl

@[simp] theorem wire_orDestroy (result : ConnectNode × Ret) :
    (orDestroy result).wire = result.1.wire := by
  unfold orDestroy
  split_ifs <;> simp

@[simp] theorem wire_sendFakeSynthesisStarted (e : Env) (n : ConnectNode) :
    (n.sendFakeSynthesisStarted e).wire = n.wire := by
  unfold sendFakeSynthesisStarted
  split_ifs <;> simp

@[simp] theorem wire_withEnv (e : Env) (n : ConnectNode) : (n.withEnv e).wire = n.wire := rfl

/-! ## Received frames -/

@[simp] theorem wire_closeSession (e : Env) (n : ConnectNode) (ignore : Bool) :
    (n.closeSession e ignore).wire = n.wire := by
  simp only [closeSession]
  split_ifs <;> simp only [wire_handlerClose, wire_closeConnectNode] <;> rfl

@[simp] theorem wire_statusAfter (n : ConnectNode) (type : EventType) :
    (n.statusAfter type).wire = n.wire := by
  unfold statusAfter enterStarted
  split
  all_goals first | rfl | (split_ifs <;> rfl)

@[simp] theorem wire_adoptTaskId (n : ConnectNode) (event : NlsEvent) :
    (n.adoptTaskId event).wire = n.wire := by
  unfold adoptTaskId
  split_ifs <;> rfl

@[simp] theorem wire_handleEvent (e : Env) (n : ConnectNode) (event : NlsEvent) :
    (n.handleEvent e event).1.wire = n.wire := by
  unfold handleEvent
  split_ifs
  · rfl
  · dsimp only
    split
    · simp
    · split_ifs <;> simp

@[simp] theorem wire_convertResult (e : Env) (n : ConnectNode) (buffer : Bytes)
    (frame : WebSocketFrame) : (n.convertResult e buffer frame).1.wire = n.wire :=
  (convertResult_reported e n buffer frame).wire

@[simp] theorem wire_parseFrame (e : Env) (n : ConnectNode) (buffer : Bytes)
    (frame : WebSocketFrame) : (n.parseFrame e buffer frame).1.wire = n.wire := by
  simp only [parseFrame]
  split
  · rfl
  split
  · split <;> simp
  · rfl
  · split <;> simp

@[simp] theorem wire_deliverFrame (e : Env) (n : ConnectNode) (buffer : Bytes)
    (frame : WebSocketFrame) : (n.deliverFrame e buffer frame).1.wire = n.wire := by
  simp only [deliverFrame]
  split_ifs <;> simp

@[simp] theorem wire_withReader (e : Env) (n : ConnectNode) (r : Reader) (ret : Ret) :
    (n.withReader e r ret).1.wire = n.wire := by
  simp only [withReader]
  split <;> rfl

@[simp] theorem wire_webSocketResponse (e : Env) (n : ConnectNode) :
    (n.webSocketResponse e).1.wire = n.wire := by
  have kept : (n.reader.webSocketResponse (deliverFrame e) (fun n => n.channel.isOpen) n).2.1.wire
      = n.wire :=
    Reader.webSocketResponse_keeps (K := fun m => m.wire = n.wire)
      (fun m buffer frame same => (wire_deliverFrame e m buffer frame).trans same) _ rfl
  simp only [webSocketResponse]
  split
  · rfl
  · simpa using kept

@[simp] theorem wire_gatewayResponse (e : Env) (n : ConnectNode) :
    (n.gatewayResponse e).1.wire = n.wire := by
  simp only [gatewayResponse]
  split
  · rfl
  · rfl
  · simp

end ConnectNode

end NlsSdk.Transport
