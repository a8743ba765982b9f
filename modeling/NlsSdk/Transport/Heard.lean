import NlsSdk.Transport.CallbackSpec
import NlsSdk.Transport.WorkThread

/-!
# What received frames leave alone

`unheard` forgets all that callbacks, received frames and the end of a connection
may change. What is left of a node they keep, so each of its fields is kept.
-/
namespace NlsSdk.Transport.ConnectNode

def unheard (n : ConnectNode) : ConnectNode :=
  { n with
    toReporting := {}
    channel := {}
    readEvent := false
    writeEvent := false
    launchEvent := false
    startWithPoolEvent := false
    connectEvent := false
    singleRoundTextEvent := false
    isConnected := false
    isFirstBinaryFrame := false
    isFirstAudioFrame := false
    nlsEncoder := false
    isPreconnecting := false
    isSendSingleRoundText := false
    param := { n.param with taskId := [] }
    workStatus := .nodeInvalid
    nodeErrMsg := []
    nodeErrCode := 0
    audioFrame := []
    reader := {} }

variable {e : Env} {n m : ConnectNode}

theorem isStop_of_unheard (h : m.unheard = n.unheard) : m.isStop = n.isStop := by
  have kept := congrArg (fun k : ConnectNode => k.isStop) h
  exact kept

theorem exitStatus_of_unheard (h : m.unheard = n.unheard) : m.exitStatus = n.exitStatus := by
  have kept := congrArg (fun k : ConnectNode => k.exitStatus) h
  exact kept

theorem evBuffer_of_unheard (h : m.unheard = n.unheard) : m.evBuffer = n.evBuffer := by
  have kept := congrArg (fun k : ConnectNode => k.evBuffer) h
  exact kept

theorem Reported.unheard (h : Reported n m) : m.unheard = n.unheard := by
  obtain ⟨r, err, st, rfl, -⟩ := h
  rfl

theorem CalledBack.unheard (h : CalledBack n m) : m.unheard = n.unheard := h.reported.unheard

@[simp] theorem unheard_closeConnectNode (n : ConnectNode) :
    n.closeConnectNode.unheard = n.unheard := rfl

@[simp] theorem unheard_handlerFrame (e : Env) (n : ConnectNode) (event : NlsEvent) :
    (n.handlerFrame e event).1.unheard = n.unheard := (handlerFrame_calledBack e n event).unheard

@[simp] theorem unheard_handlerClose (e : Env) (n : ConnectNode) :
    (n.handlerClose e).unheard = n.unheard := (handlerClose_reported e n).unheard

@[simp] theorem unheard_handlerTaskFailedEvent (e : Env) (n : ConnectNode) (info : Bytes)
    (code : ℤ) : (n.handlerTaskFailedEvent e info code).unheard = n.unheard :=
  (handlerTaskFailedEvent_reported e n info code).unheard

@[simp] theorem unheard_failSend (e : Env) (n : ConnectNode) :
    (n.failSend e).unheard = n.unheard :=
  (handlerTaskFailedEvent_reported e n.disconnectProcess _ _).unheard

@[simp] theorem unheard_failEvent (e : Env) (n : ConnectNode) (text : String) (code : ℤ) :
    (n.failEvent e text code).unheard = n.unheard :=
  (handlerTaskFailedEvent_reported e n.closeConnectNode _ _).unheard

@[simp] theorem unheard_sendFakeSynthesisStarted (e : Env) (n : ConnectNode) :
    (n.sendFakeSynthesisStarted e).unheard = n.unheard := by
  unfold sendFakeSynthesisStarted
  split <;> simp

@[simp] theorem unheard_adoptTaskId (n : ConnectNode) (event : NlsEvent) :
    (n.adoptTaskId event).unheard = n.unheard := by
  unfold adoptTaskId
  split <;> rfl

lemma unheard_enterStarted (n : ConnectNode) : n.enterStarted.unheard = n.unheard := by
  simp only [enterStarted]
  split_ifs <;> rfl

@[simp] theorem unheard_statusAfter (n : ConnectNode) (type : EventType) :
    (n.statusAfter type).unheard = n.unheard := by
  cases type with
  | recognitionStarted => exact unheard_enterStarted n
  | transcriptionStarted => exact unheard_enterStarted n
  | synthesisStarted => exact unheard_enterStarted n
  | taskFailed =>
    simp only [statusAfter]
    split <;> rfl
  | binary =>
    simp only [statusAfter]
    split <;> rfl
  | _ => rfl

@[simp] theorem unheard_closeSession (e : Env) (n : ConnectNode) (ignore : Bool) :
    (n.closeSession e ignore).unheard = n.unheard := by
  simp only [closeSession]
  split_ifs <;> simp only [unheard_handlerClose, unheard_closeConnectNode] <;> rfl

@[simp] theorem unheard_handleEvent (e : Env) (n : ConnectNode) (event : NlsEvent) :
    (n.handleEvent e event).1.unheard = n.unheard := by
  simp only [handleEvent]
  split
  · rfl
  split
  · simp
  · dsimp only
    split <;> simp

lemma convertText_reported (e : Env) (n : ConnectNode) (result : Bytes) :
    Reported n (n.convertText e result).1 := by
  unfold convertText
  split
  · exact handlerEvent_reported e n _ _ _
  · split
    · exact Reported.refl n
    · exact Reported.refl n
    · exact handlerEvent_reported e n _ _ _

theorem convertResult_reported (e : Env) (n : ConnectNode) (buffer : Bytes)
    (frame : WebSocketFrame) : Reported n (n.convertResult e buffer frame).1 := by
  simp only [convertResult]
  split
  · exact Reported.refl n
  · split
    · exact Reported.refl n
    · exact convertText_reported e n _
    · exact handlerEvent_reported e n _ _ _

@[simp] theorem unheard_parseFrame (e : Env) (n : ConnectNode) (buffer : Bytes)
    (frame : WebSocketFrame) : (n.parseFrame e buffer frame).1.unheard = n.unheard := by
  have converted := (convertResult_reported e n buffer frame).unheard
  simp only [parseFrame]
  split
  · rfl
  split
  · split <;> simp
  · rfl
  · split <;> simp [converted]

@[simp] theorem unheard_deliverFrame (e : Env) (n : ConnectNode) (buffer : Bytes)
    (frame : WebSocketFrame) : (n.deliverFrame e buffer frame).1.unheard = n.unheard := by
  simp only [deliverFrame]
  split
  · rfl
  split <;> simp

@[simp] theorem unheard_withReader (e : Env) (n : ConnectNode) (r : Reader) (ret : Ret) :
    (n.withReader e r ret).1.unheard = n.unheard := by
  simp only [withReader]
  split <;> rfl

@[simp] theorem unheard_webSocketResponse (e : Env) (n : ConnectNode) :
    (n.webSocketResponse e).1.unheard = n.unheard := by
  have kept : (n.reader.webSocketResponse (deliverFrame e)
      (fun n => n.channel.isOpen) n).2.1.unheard = n.unheard :=
    Reader.webSocketResponse_keeps (K := fun m => m.unheard = n.unheard)
      (fun m buffer frame same => (unheard_deliverFrame e m buffer frame).trans same) _ rfl
  simp only [webSocketResponse]
  split
  · rfl
  · simpa using kept

@[simp] theorem unheard_gatewayResponse (e : Env) (n : ConnectNode) :
    (n.gatewayResponse e).1.unheard = n.unheard := by
  simp only [gatewayResponse]
  split
  · rfl
  · rfl
  · simp

end NlsSdk.Transport.ConnectNode
