import NlsSdk.Transport.SendSpec

/-!
# No way back to the handshake

Only a new connection puts a node into `nodeHandshaking`, and it leaves that
status in the same step. Everything else moves a node forward.
-/
namespace NlsSdk.Transport.ConnectNode

/-- `m` comes from `n` without entering the handshake, registering or connecting again. -/
structure Forward (n m : ConnectNode) : Prop where
  registered : m.registered = true → n.registered = true
  handshaking : m.workStatus = .nodeHandshaking → n.workStatus = .nodeHandshaking
  connectEvent : m.connectEvent = true → n.connectEvent = true

/-- The upgrade request is written in the step that opens the connection, so only a node that
is no longer registered stays handshaking behind it. -/
def Parked (n : ConnectNode) : Prop := n.workStatus = .nodeHandshaking → n.registered = false

variable {e : Env} {n m k : ConnectNode}

theorem Forward.refl (n : ConnectNode) : Forward n n := ⟨id, id, id⟩

theorem Forward.trans (h : Forward n m) (h' : Forward m k) : Forward n k :=
  ⟨fun reg => h.registered (h'.registered reg), fun hs => h.handshaking (h'.handshaking hs),
    fun ev => h.connectEvent (h'.connectEvent ev)⟩

theorem Forward.parked (h : Forward n m) (parked : n.Parked) : m.Parked := by
  intro handshaking
  by_contra reg
  have before := parked (h.handshaking handshaking)
  rw [h.registered (by simpa using reg)] at before
  exact absurd before (by decide)

/-- A status other than the handshake may be set at any time. -/
theorem Forward.status (n : ConnectNode) {st : ConnectStatus} (h : st ≠ .nodeHandshaking) :
    Forward n { n with workStatus := st } := ⟨id, fun same => absurd same h, id⟩

theorem Wrote.forward (h : Wrote n m) : Forward n m where
  registered := fun reg => h.registered ▸ reg
  handshaking := by
    intro handshaking
    rcases h.workStatus with same | closed
    · exact same ▸ handshaking
    · simp [closed] at handshaking
  connectEvent := by
    rw [h.events]
    exact id

theorem Reported.forward (h : Reported n m) : Forward n m := h.wrote.forward

theorem CalledBack.forward (h : CalledBack n m) : Forward n m := h.reported.forward

lemma closeConnectNode_forward (n : ConnectNode) : Forward n n.closeConnectNode :=
  ⟨id, id, by simp [closeConnectNode]⟩

/-! ## Received frames -/

lemma adoptTaskId_forward (n : ConnectNode) (event : NlsEvent) :
    Forward n (n.adoptTaskId event) := by
  unfold adoptTaskId
  split <;> exact ⟨id, id, id⟩

lemma enterStarted_forward (n : ConnectNode) : Forward n n.enterStarted := by
  unfold enterStarted
  dsimp only
  split
  · exact ⟨id, by simp, id⟩
  split <;> exact ⟨id, by simp, id⟩

lemma statusAfter_forward (n : ConnectNode) (type : EventType) :
    Forward n (n.statusAfter type) := by
  have failed : Forward n (if n.ignoreFlag .taskFailed then n
      else { n with workStatus := .nodeFailed }) := by
    split
    · exact Forward.refl n
    · exact Forward.status n (by decide)
  have begun : Forward n (if n.isFirstBinaryFrame then
      { n with isFirstBinaryFrame := false, workStatus := .nodeStarted } else n) := by
    split
    · exact ⟨id, by simp, id⟩
    · exact Forward.refl n
  cases type with
  | recognitionStarted => exact enterStarted_forward n
  | transcriptionStarted => exact enterStarted_forward n
  | synthesisStarted => exact enterStarted_forward n
  | close => exact Forward.status n (by decide)
  | recognitionCompleted => exact Forward.status n (by decide)
  | transcriptionCompleted => exact Forward.status n (by decide)
  | synthesisCompleted => exact Forward.status n (by decide)
  | wakeWordVerificationCompleted => exact Forward.status n (by decide)
  | taskFailed => exact failed
  | binary => exact begun
  | _ => exact Forward.refl n

lemma closeSession_forward (e : Env) (n : ConnectNode) (ignore : Bool) :
    Forward n (n.closeSession e ignore) := by
  have close (m : ConnectNode) (same : Forward n m) : Forward n (m.handlerClose e) :=
    same.trans (handlerClose_reported e m).forward
  simp only [closeSession]
  split_ifs
  · exact close _ ⟨id, id, by simp [closeStatusConnectNodeForConnectedPool]⟩
  · exact close _ ⟨id, id, by simp [closeStatusConnectNodeForConnectedPool]⟩
  · exact close _ ⟨id, id, by simp [closeConnectNode]⟩
  · exact ⟨id, id, by simp [closeConnectNode]⟩
  · exact close _ ⟨id, id, id⟩

theorem handleEvent_forward (e : Env) (n : ConnectNode) (event : NlsEvent) :
    Forward n (n.handleEvent e event).1 := by
  have handled := (adoptTaskId_forward n event).trans
    (handlerFrame_calledBack e (n.adoptTaskId event) event).forward
  have moved := handled.trans (statusAfter_forward _ event.msgType)
  simp only [handleEvent]
  split
  · exact Forward.refl n
  split
  · exact handled
  · dsimp only
    split
    · exact moved.trans (closeSession_forward e _ _)
    · exact moved

theorem parseFrame_forward (e : Env) (n : ConnectNode) (buffer : Bytes) (frame : WebSocketFrame) :
    Forward n (n.parseFrame e buffer frame).1 := by
  have converted := (convertResult_reported e n buffer frame).forward
  simp only [parseFrame]
  split
  · exact Forward.refl n
  split
  · split
    · exact handleEvent_forward e n _
    · exact closeConnectNode_forward n
  · exact Forward.refl n
  · split
    · exact converted.trans (handleEvent_forward e _ _)
    · exact converted
    · exact converted
    · exact (converted.trans (closeConnectNode_forward _)).trans (handlerClose_reported e _).forward

theorem deliverFrame_forward (e : Env) (n : ConnectNode) (buffer : Bytes) (frame : WebSocketFrame) :
    Forward n (n.deliverFrame e buffer frame).1 := by
  have parsed := parseFrame_forward e n buffer frame
  simp only [deliverFrame]
  split
  · exact Forward.refl n
  split <;> exact parsed

lemma withReader_forward (e : Env) (n : ConnectNode) (r : Reader) (ret : Ret) :
    Forward n (n.withReader e r ret).1 := by
  simp only [withReader]
  split <;> exact ⟨id, id, id⟩

theorem webSocketResponse_forward (e : Env) (n : ConnectNode) :
    Forward n (n.webSocketResponse e).1 := by
  have kept : Forward n
      (n.reader.webSocketResponse (deliverFrame e) (fun n => n.channel.isOpen) n).2.1 :=
    Reader.webSocketResponse_keeps
      (fun m buffer frame same => same.trans (deliverFrame_forward e m buffer frame)) n.reader
      (Forward.refl n)
  simp only [webSocketResponse]
  split
  · exact Forward.refl n
  · exact kept.trans (withReader_forward e _ _ _)

theorem gatewayResponse_forward (e : Env) (n : ConnectNode) :
    Forward n (n.gatewayResponse e).1 := by
  simp only [gatewayResponse]
  split
  · exact ⟨id, id, id⟩
  · exact ⟨id, id, id⟩
  · exact withReader_forward e _ _ _

/-! ## Events -/

lemma sendFakeSynthesisStarted_forward (e : Env) (n : ConnectNode) :
    Forward n (n.sendFakeSynthesisStarted e) := by
  unfold sendFakeSynthesisStarted
  split
  · exact (handlerFrame_calledBack e n _).forward
  · exact Forward.refl n

lemma sendFrame_forward (e : Env) (n : ConnectNode) (i : Output) (audioFrame : Bool) :
    Forward n (n.nlsSendFrame e i audioFrame).1 := (nlsSendFrame_sent e n i audioFrame).wrote.forward

theorem responseUpgrade_forward (e : Env) (n : ConnectNode) :
    Forward n (n.responseUpgrade e).1 := by
  have answered := gatewayResponse_forward e n
  have upgraded : Forward n { (n.gatewayResponse e).1 with workStatus := .nodeStarting } :=
    answered.trans (Forward.status _ (by decide))
  have sent := upgraded.trans (addCmd_send_wrote e _ n.startCommand []).forward
  simp only [responseUpgrade]
  split
  · split
    · exact upgraded
    · split
      · exact upgraded.trans (addCmd_send_wrote e _ _ []).forward
      · exact (upgraded.trans (addCmd_send_wrote e _ _ []).forward).trans
          (sendFakeSynthesisStarted_forward e _)
  · exact answered

theorem responseStarting_forward (e : Env) (n : ConnectNode) :
    Forward n (n.responseStarting e).1 := by
  have read := webSocketResponse_forward e n
  have sent := read.trans (sendFrame_forward e _ .binary true)
  simp only [responseStarting]
  split
  · split
    · exact sent.trans (sendControlDirective_wrote e _).forward
    · exact sent
  split
  · exact read.trans (sendFrame_forward e _ .wwv false)
  · exact read

theorem responseRead_forward (e : Env) (n : ConnectNode) : Forward n (n.responseRead e).1 := by
  unfold responseRead
  split
  · exact responseUpgrade_forward e n
  · exact responseUpgrade_forward e n
  · exact responseStarting_forward e n
  · exact responseStarting_forward e n
  · exact webSocketResponse_forward e n
  · split
    · exact webSocketResponse_forward e n
    · exact Forward.refl n
  · split
    · exact webSocketResponse_forward e n
    · exact Forward.refl n
  · exact Forward.refl n
  · exact Forward.refl n

theorem nodeResponseProcess_forward (e : Env) (n : ConnectNode) :
    Forward n (n.nodeResponseProcess e).1 := by
  have read := responseRead_forward e n
  have failed (info : Bytes) (code : ℤ) :
      Forward n ((n.responseRead e).1.closeConnectNode.handlerTaskFailedEvent e info code) :=
    (read.trans (closeConnectNode_forward _)).trans
      (handlerTaskFailedEvent_reported e _ info code).forward
  simp only [nodeResponseProcess]
  split
  · exact Forward.refl n
  split
  · exact Forward.refl n
  split
  · exact read
  · exact read
  · exact read
  · exact read
  split
  · exact read
  split
  · exact read
  · exact failed _ _

lemma failEvent_forward (e : Env) (n : ConnectNode) (text : String) (code : ℤ) :
    Forward n (n.failEvent e text code) :=
  (closeConnectNode_forward n).trans
    (handlerTaskFailedEvent_reported e n.closeConnectNode _ code).forward

theorem readEventCallBack_forward (e : Env) (n : ConnectNode) (what : EventKind) :
    Forward n (n.readEventCallBack e what) := by
  have read := nodeResponseProcess_forward e n
  unfold readEventCallBack
  split
  · exact Forward.refl n
  split
  · exact closeConnectNode_forward n
  cases what with
  | ready =>
    dsimp only
    split
    · exact read.trans (closeConnectNode_forward _)
    · exact read
  | timeout => exact failEvent_forward e n _ _
  | unknown => exact failEvent_forward e n _ _

end NlsSdk.Transport.ConnectNode
