import NlsSdk.Transport.NlsEventNetWork
import NlsSdk.Transport.TerminalFrames

/-!
# Close is the last callback

A run is quiet behind Close as long as no frame that makes an event and no
pending event of the connection gets there once the status is `nodeClosed`.
-/
namespace NlsSdk.Transport

open NlsSdk.Library

namespace ConnectNode

variable {e : Env} {n m : ConnectNode}

/-! ## Read events -/

lemma gatewayResponse_callbacks (e : Env) (n : ConnectNode) :
    (n.gatewayResponse e).1.callbacks = n.callbacks := by
  simp only [gatewayResponse, withReader]
  repeat' split
  all_goals rfl

lemma sendFakeSynthesisStarted_unended (h : n.Unended) :
    (n.sendFakeSynthesisStarted e).Unended := by
  unfold sendFakeSynthesisStarted
  split
  · exact handlerFrame_unended h (by simp)
  · exact h

lemma responseUpgrade_unended (h : n.Unended) : (n.responseUpgrade e).1.Unended := by
  have answered := h.of_eq (gatewayResponse_callbacks e n)
  have upgraded : Unended { (n.gatewayResponse e).1 with workStatus := .nodeStarting } :=
    answered.of_eq rfl
  simp only [responseUpgrade]
  split
  · split
    · exact upgraded
    · split
      · exact upgraded.quiet (addCmd_send_quiet e _ _ [])
      · exact sendFakeSynthesisStarted_unended (upgraded.quiet (addCmd_send_quiet e _ _ []))
  · exact answered

lemma responseStarting_terminal (h : n.Terminal) (once : FramesEndOnce e n) :
    (n.responseStarting e).1.Terminal := by
  have read := webSocketResponse_terminal h once
  have flushed := read.quiet (nlsSendFrame_sent e _ .binary true).quiet
  simp only [responseStarting]
  split
  · split
    · exact flushed.quiet (sendControlDirective_quiet e _)
    · exact flushed
  split
  · exact read.quiet (nlsSendFrame_sent e _ .wwv false).quiet
  · exact read

/-- What arrives in this status is parsed as frames. -/
def ReadsFrames (n : ConnectNode) : Prop :=
  n.workStatus ∈ [.nodeStarting, .nodeWakeWording, .nodeStarted] ∨
    n.isLongConnection = true ∧ n.workStatus ∈ [.nodeConnecting, .nodeClosed]

instance (n : ConnectNode) : Decidable n.ReadsFrames := inferInstanceAs (Decidable (_ ∨ _))

theorem responseRead_terminal (h : n.Terminal) (once : n.ReadsFrames → FramesEndOnce e n) :
    (n.responseRead e).1.Terminal := by
  have upgrades (running : n.workStatus ≠ .nodeClosed) : (n.responseUpgrade e).1.Terminal :=
    (responseUpgrade_unended (h.unended running)).terminal
  have reads (frames : n.ReadsFrames) : (n.webSocketResponse e).1.Terminal :=
    webSocketResponse_terminal h (once frames)
  unfold responseRead
  split
  case h_1 status => exact upgrades (by simp [status])
  case h_2 status => exact upgrades (by simp [status])
  case h_3 status => exact responseStarting_terminal h (once (by simp [ReadsFrames, status]))
  case h_4 status => exact responseStarting_terminal h (once (by simp [ReadsFrames, status]))
  case h_5 status => exact reads (by simp [ReadsFrames, status])
  case h_6 status =>
    split
    · exact reads (by simp [ReadsFrames, *])
    · exact h
  case h_7 status =>
    split
    · exact reads (by simp [ReadsFrames, *])
    · exact h
  case h_8 => exact h
  case h_9 => exact h

theorem nodeResponseProcess_terminal (h : n.Terminal)
    (once : n.ReadsFrames → FramesEndOnce e n) : (n.nodeResponseProcess e).1.Terminal := by
  have read := responseRead_terminal h once
  simp only [nodeResponseProcess]
  split
  · exact h
  split
  · exact h
  split
  · exact read
  · exact read
  · exact read
  · exact read
  split
  · exact read
  split
  · exact read
  · exact handlerTaskFailedEvent_terminal (read.shut .close) _ _

theorem readEventCallBack_terminal (h : n.Terminal) {what : EventKind}
    (once : what = .ready → n.ReadsFrames → FramesEndOnce e n) :
    (n.readEventCallBack e what).Terminal := by
  unfold readEventCallBack
  split
  · exact h
  split
  · exact h.shut .close
  cases what with
  | ready =>
    have read := nodeResponseProcess_terminal h (once rfl)
    dsimp only
    split
    · exact read.shut .close
    · exact read
  | timeout => exact h.course (failEvent_course e n _ _)
  | unknown => exact h.course (failEvent_course e n _ _)

/-! ## Write events -/

lemma requestSend_terminal (h : n.Terminal) : (n.requestSend e).1.Terminal := by
  by_cases handshaking : n.workStatus = .nodeHandshaking
  · have unended := h.unended (by simp [handshaking])
    have sent : ((n.gatewayRequest e).1.nlsSendFrame e .cmd false).1.Unended :=
      (unended.quiet (gatewayRequest_quiet e n)).quiet (nlsSendFrame_sent e _ _ _).quiet
    simp only [requestSend, handshaking]
    exact sent.terminal_of_eq rfl
  · exact h.quiet (requestSend_quiet e handshaking)

theorem nodeRequestProcess_terminal (h : n.Terminal) : (n.nodeRequestProcess e).1.Terminal := by
  have sent := requestSend_terminal (e := e) h
  simp only [nodeRequestProcess]
  split
  · exact h
  split
  · exact (handlerTaskFailedEvent_terminal sent _ _).shut .close
  · exact sent

lemma destroyConnectNode_terminal (h : n.Terminal) : n.destroyConnectNode.Terminal := by
  unfold destroyConnectNode
  split
  · exact h
  split <;> exact h.of_eq rfl rfl

theorem writeEventCallBack_terminal (h : n.Terminal) (what : EventKind) :
    (n.writeEventCallBack e what).Terminal := by
  have destroyed (m : ConnectNode) (kept : m.Terminal) :
      (if m.workStatus = .nodeInvalid then m.destroyConnectNode else m).Terminal := by
    split
    · exact destroyConnectNode_terminal kept
    · exact kept
  unfold writeEventCallBack
  split
  · exact h
  split
  · exact h.shut .close
  cases what with
  | ready => exact destroyed _ (nodeRequestProcess_terminal h)
  | timeout => exact destroyed _ (h.course (failEvent_course e n _ _))
  | unknown => exact destroyed _ (h.course (failEvent_course e n _ _))

/-! ## Setting a connection up before Close -/

lemma orDestroy_terminal {result : ConnectNode × Ret} (h : result.1.Terminal) :
    (orDestroy result).Terminal := by
  unfold orDestroy
  split
  · exact destroyConnectNode_terminal h
  · exact h

lemma connectAttempt_terminal (h : n.Unended) (connect : ConnectNode → SocketState → ConnectNode)
    (connects : ∀ socket, (connect n socket).callbacks = n.callbacks)
    (retry : ConnectNode → ConnectNode) (again : (retry n.backToConnecting).Terminal)
    (attempt : Attempt) : (n.connectAttempt e connect retry attempt).Terminal := by
  have made (socket : SocketState) : (connect n socket).Unended := h.of_eq (connects socket)
  unfold connectAttempt
  split
  · exact again
  cases attempt with
  | pending => exact (made _).terminal
  | connected => exact (made .connecting).terminal_of_eq rfl
  | handshaking =>
    refine orDestroy_terminal (nodeRequestProcess_terminal ?_)
    exact (made .established).terminal_of_eq rfl
  | parseUrlFailed => exact again
  | invalidDnsSource => exact again
  | failed => exact again

/-- A long connection still open is used again. -/
lemma longStart_terminal (h : n.Unended) :
    let m := { n with workStatus := .nodeStarting }
    let sent := (m.addCmdDataBuffer e m.startCommand []).nlsSendFrame e .cmd false
    (if sent.2.failed then
      ((sent.1.handlerTaskFailedEvent e sent.1.nodeErrMsg
        NlsErrorCode.defaultErrorCode).closeConnectNode, sent.2)
      else (sent.1, .ok 0)).1.Terminal := by
  have starting : Unended { n with workStatus := .nodeStarting } := h.of_eq rfl
  have sent := (starting.quiet (addCmd_send_quiet e _
    (startCommand { n with workStatus := .nodeStarting }) [])).terminal
  dsimp only
  split
  · exact (handlerTaskFailedEvent_terminal sent _ _).shut .close
  · exact sent

theorem dnsProcess_terminal (attempts : List Attempt) (h : n.Unended) :
    (dnsProcess e attempts n).1.Terminal := by
  have noneLeft (m : ConnectNode) (unended : m.Unended) :
      ({ m with retryConnectCount := 0 }.handlerTaskFailedEvent e taskFailedConnectJsonString
        NlsErrorCode.sysConnectFailed).Terminal := by
    apply handlerTaskFailedEvent_terminal
    exact unended.terminal_of_eq rfl
  have counted (m : ConnectNode) (unended : m.Unended) : m.countConnect.Unended :=
    unended.of_eq rfl
  induction attempts generalizing n with
  | nil =>
    unfold dnsProcess
    split
    · exact h.terminal
    split
    · exact h.terminal
    split
    · exact longStart_terminal h
    split
    · exact noneLeft n h
    · exact (counted n h).terminal_of_eq rfl
  | cons attempt rest ih =>
    have again := orDestroy_terminal (ih (n := n.countConnect.backToConnecting) (h.of_eq rfl))
    have attempted := connectAttempt_terminal (e := e) (counted n h) connectProcess (fun socket => rfl)
      (fun n => orDestroy (dnsProcess e rest n)) again attempt
    unfold dnsProcess
    split
    · exact h.terminal
    split
    · exact h.terminal
    split
    · exact longStart_terminal h
    split
    · exact noneLeft n h
    · cases attempt with
      | parseUrlFailed => exact (counted n h).terminal
      | invalidDnsSource => exact (counted n h).terminal
      | pending => exact attempted
      | failed => exact attempted
      | connected => exact attempted
      | handshaking => exact attempted

lemma retry_terminal (attempts : List Attempt) (h : n.Unended) :
    (orDestroy (dnsProcess e attempts n)).Terminal :=
  orDestroy_terminal (dnsProcess_terminal attempts h)

lemma continueConnect_terminal (h : n.Unended) {connect : ConnectNode → SocketState → ConnectNode}
    (connects : ∀ socket, (connect n socket).callbacks = n.callbacks) :
    (n.continueConnect e connect).Terminal := by
  unfold continueConnect
  split
  · exact h.terminal
  · exact connectAttempt_terminal h connect connects (fun n => orDestroy (dnsProcess e _ n))
      (retry_terminal (n := n.backToConnecting) _ (h.of_eq rfl)) _

lemma launchEventCallback_terminal (h : n.Unended) : (n.launchEventCallback e).Terminal := by
  simp only [launchEventCallback]
  split
  · exact h.terminal
  split
  · exact h.terminal_of_eq rfl
  · exact retry_terminal _ (h.of_eq rfl)

lemma connectEventCallback_terminal (h : n.Unended) (timeout : Bool) :
    (n.connectEventCallback e timeout).Terminal := by
  unfold connectEventCallback
  split
  · exact retry_terminal (n := n.backToConnecting) _ (h.of_eq rfl)
  split
  · split
    · exact h.terminal_of_eq rfl
    · exact continueConnect_terminal h fun socket => rfl
  · exact h.terminal

lemma dnsEventCallback_terminal (h : n.Unended) (failed : Bool) :
    (n.dnsEventCallback e failed).Terminal := by
  unfold dnsEventCallback
  split
  · exact h.terminal
  split
  · exact retry_terminal (n := { n with workStatus := .nodeConnecting }) _ (h.of_eq rfl)
  · exact continueConnect_terminal h fun socket => rfl

lemma startWithPoolEventCallback_terminal (h : n.Unended) :
    (n.startWithPoolEventCallback e).Terminal := by
  have starting : Unended
      { n with readEvent := true, writeEvent := true, workStatus := .nodeStarting } :=
    h.of_eq rfl
  have sent := starting.quiet (addCmd_send_quiet e _ .cmdStart [])
  simp only [startWithPoolEventCallback]
  split
  · exact h.terminal
  split
  · exact (sendFakeSynthesisStarted_unended sent).terminal
  · exact sent.terminal

lemma cmdNotify_terminal (h : n.Terminal) (type : CmdType) (message : Bytes) :
    (n.cmdNotify e type message).1.Terminal := by
  by_cases cancel : type = .cmdCancel
  · subst cancel
    exact h.of_eq rfl rfl
  · exact h.course (cmdNotify_course e n cancel message)

lemma singleRoundTextEventCallback_terminal (h : n.Terminal) :
    (n.singleRoundTextEventCallback e).Terminal := by
  have sent := cmdNotify_terminal (e := e) h .cmdSendText n.param.singleRoundText
  have stopped := cmdNotify_terminal (e := e) sent .cmdStop []
  simp only [singleRoundTextEventCallback]
  split
  · exact h
  split
  · exact h
  · exact stopped.of_eq rfl rfl

lemma start_unended (h : n.Unended) : (n.start e).Unended := by
  simp only [start, initAllStatus]
  split_ifs
  all_goals exact h.of_eq rfl

end ConnectNode

/-! ## Runs -/

open ConnectNode

/-- Once the session is closed, no event of its connection is pending any more and no frame read
makes an event; before that, the frames of one read end with the one that ends the session. A start
behind Close begins the next run. -/
def EndsOnce (n : ConnectNode) (input : NodeInput) : Prop :=
  match input.op with
  | .start => n.workStatus ≠ .nodeClosed
  | .launchEvent => n.launchEvent = true → n.workStatus ≠ .nodeClosed
  | .reconnectEvent => n.reconnection.armed = true → n.workStatus ≠ .nodeClosed
  | .dnsEvent _ => n.dnsRequest = true → n.workStatus ≠ .nodeClosed
  | .connectEvent _ => n.connectEvent = true → n.workStatus ≠ .nodeClosed
  | .startWithPoolEvent => n.startWithPoolEvent = true → n.workStatus ≠ .nodeClosed
  | .readEvent .ready =>
    n.readEvent = true → n.ReadsFrames → FramesEndOnce input.env (n.withEnv input.env)
  | _ => True

instance (n : ConnectNode) (input : NodeInput) : Decidable (EndsOnce n input) := by
  unfold EndsOnce
  split <;> infer_instance

lemma nodeStep_terminal (n : ConnectNode) (input : NodeInput) (h : n.Terminal)
    (once : EndsOnce n input) : (nodeStep n input).Terminal := by
  obtain ⟨op, e⟩ := input
  have given : (n.withEnv e).Terminal := h.of_eq rfl rfl
  have unended (running : n.workStatus ≠ .nodeClosed) : (n.withEnv e).Unended :=
    given.unended running
  cases op with
  | start => exact (start_unended (unended once)).terminal
  | sendAudio frame => exact given.course (addAudioDataBuffer_course e _ frame)
  | keepAudio frame => exact given.of_eq rfl rfl
  | cmdNotify type message => exact cmdNotify_terminal given type message
  | syncPingCmd => exact given.quiet (syncPingCmd_quiet e _)
  | launchEvent =>
    simp only [nodeStep, NodeOp.step]
    split
    · apply launchEventCallback_terminal
      exact (unended (once ‹_›)).of_eq rfl
    · exact given
  | reconnectEvent =>
    simp only [nodeStep, NodeOp.step]
    split
    · apply launchEventCallback_terminal
      exact (unended (once ‹_›)).of_eq rfl
    · exact given
  | dnsEvent failed =>
    simp only [nodeStep, NodeOp.step]
    split
    · apply dnsEventCallback_terminal
      exact (unended (once ‹_›)).of_eq rfl
    · exact given
  | connectEvent timeout =>
    simp only [nodeStep, NodeOp.step]
    split
    · apply connectEventCallback_terminal
      exact (unended (once ‹_›)).of_eq rfl
    · exact given
  | startWithPoolEvent =>
    simp only [nodeStep, NodeOp.step]
    split
    · apply startWithPoolEventCallback_terminal
      exact (unended (once ‹_›)).of_eq rfl
    · exact given
  | singleRoundTextEvent =>
    simp only [nodeStep, NodeOp.step]
    split
    · apply singleRoundTextEventCallback_terminal
      exact given.of_eq rfl rfl
    · exact given
  | readEvent what =>
    simp only [nodeStep, NodeOp.step]
    split
    · refine readEventCallBack_terminal given fun ready frames => ?_
      subst ready
      exact once ‹_› frames
    · exact given
  | writeEvent what =>
    simp only [nodeStep, NodeOp.step]
    split
    · exact writeEventCallBack_terminal given what
    · exact given

/-- Close is reported at most once and as the last callback of a run whose steps meet the
condition. -/
theorem terminal_callback {n : ConnectNode} (silent : n.callbacks = []) {inputs : List NodeInput}
    (along : Along nodeStep EndsOnce n inputs) : CloseLast (nodeRun n inputs).callbacks := by
  have start : n.Terminal := by
    apply Unended.terminal
    rw [Unended, silent]
    simp
  exact (invariant_along nodeStep_terminal start along).closeLast

/-- The event of a text that names it. -/
def eventNamed (text : Bytes) : Except NlsRetCode NlsEvent :=
  if text = ascii "Completed" then .ok { msgType := .transcriptionCompleted }
  else if text = ascii "Changed" then .ok { msgType := .transcriptionResultChanged }
  else if text = ascii "channelClosed" then .ok { msgType := .close }
  else .error .ignoredNlsEventMsg

/-- A started transcription to which the server sends these texts in one read. -/
def sessionTold (texts : List String) : List NodeInput :=
  startSession ++ [{ op := .readEvent .ready
                     env := { parseJsonMsg := eventNamed
                              reads := [some (texts.flatMap fun text =>
                                [0x81, UInt8.ofNat text.length] ++ ascii text)] } }]

/-- What the user of a run was told, in order. -/
def toldIn (inputs : List NodeInput) : List EventType :=
  (nodeRun transcription inputs).callbacks.map (·.event.msgType)

/-- A session whose last frame ends the read it comes in. -/
theorem terminal_callback_completed :
    Along nodeStep EndsOnce transcription (sessionTold ["Changed", "Completed"]) ∧
      toldIn (sessionTold ["Changed", "Completed"]) = [.transcriptionStarted,
        .transcriptionResultChanged, .transcriptionCompleted, .close] ∧
      CloseLast (nodeRun transcription (sessionTold ["Changed", "Completed"])).callbacks := by
  have along : Along nodeStep EndsOnce transcription (sessionTold ["Changed", "Completed"]) := by
    decide
  exact ⟨along, by decide, terminal_callback rfl along⟩

/-- A frame behind the one that ends the session, in the same read, is reported behind Close. -/
theorem callback_behind_close :
    toldIn (sessionTold ["Completed", "Changed"]) = [.transcriptionStarted,
        .transcriptionCompleted, .close, .transcriptionResultChanged] ∧
      ¬CloseLast (nodeRun transcription (sessionTold ["Completed", "Changed"])).callbacks := by
  decide

/-! The server's own Close is reported, and so is the one that ends the session. -/

example : toldIn (sessionTold ["channelClosed"]) = [.transcriptionStarted, .close, .close] := by
  decide

end NlsSdk.Transport
