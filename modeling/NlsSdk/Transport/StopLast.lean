import NlsSdk.Transport.StopOrder

/-!
# Stop goes last in every run

Reads and connections that are set up frame no Stop of their own, so a session
frames Stop once and behind its audio as long as no audio waits for a wake word.
-/
namespace NlsSdk.Transport

open NlsSdk.Library

namespace ConnectNode

variable {e : Env} {n m k : ConnectNode}

/-! ## Received frames keep no audio back -/

lemma CalledBack.audioFrame (h : CalledBack n m) : m.audioFrame = n.audioFrame := by
  obtain ⟨_, rfl⟩ := h
  rfl

lemma Reported.audioFrame (h : Reported n m) : m.audioFrame = n.audioFrame := by
  obtain ⟨_, _, _, rfl, -⟩ := h
  rfl

lemma statusAfter_audioFrame (n : ConnectNode) (type : EventType) :
    (n.statusAfter type).audioFrame = n.audioFrame := by
  unfold statusAfter enterStarted
  split
  all_goals first | rfl | (split_ifs <;> rfl)

lemma closeSession_audioFrame (e : Env) (n : ConnectNode) (ignore : Bool) :
    (n.closeSession e ignore).audioFrame = [] := by
  simp only [closeSession]
  split_ifs
  · exact (handlerClose_reported e _).audioFrame
  · exact (handlerClose_reported e _).audioFrame
  · exact (handlerClose_reported e _).audioFrame
  · rfl
  · exact (handlerClose_reported e _).audioFrame

theorem handleEvent_audioFrame (kept : n.audioFrame = []) (event : NlsEvent) :
    (n.handleEvent e event).1.audioFrame = [] := by
  have adopted : (n.adoptTaskId event).audioFrame = [] := by
    unfold adoptTaskId
    split <;> exact kept
  have handled := (handlerFrame_calledBack e (n.adoptTaskId event) event).audioFrame.trans adopted
  have moved := (statusAfter_audioFrame _ event.msgType).trans handled
  simp only [handleEvent]
  split
  · exact kept
  split
  · exact handled
  · dsimp only
    split
    · exact closeSession_audioFrame e _ _
    · exact moved

theorem parseFrame_audioFrame (kept : n.audioFrame = []) (buffer : Bytes) (frame : WebSocketFrame) :
    (n.parseFrame e buffer frame).1.audioFrame = [] := by
  have converted := (convertResult_reported e n buffer frame).audioFrame.trans kept
  simp only [parseFrame]
  split
  · exact kept
  split
  · split
    · exact handleEvent_audioFrame kept _
    · rfl
  · exact kept
  · split
    · exact handleEvent_audioFrame converted _
    · exact converted
    · exact converted
    · exact (handlerClose_reported e _).audioFrame

theorem deliverFrame_audioFrame (kept : n.audioFrame = []) (buffer : Bytes)
    (frame : WebSocketFrame) : (n.deliverFrame e buffer frame).1.audioFrame = [] := by
  have parsed := parseFrame_audioFrame (e := e) kept buffer frame
  simp only [deliverFrame]
  split
  · exact kept
  split <;> exact parsed

lemma withReader_audioFrame (e : Env) (n : ConnectNode) (r : Reader) (ret : Ret) :
    (n.withReader e r ret).1.audioFrame = n.audioFrame := by
  simp only [withReader]
  split <;> rfl

theorem webSocketResponse_unstopped (e : Env) (n : ConnectNode) :
    Unstopped e n (n.webSocketResponse e).1 := by
  have same := unheard_webSocketResponse e n
  refine .of_wire (wire_webSocketResponse e n) (isStop_of_unheard same)
    (exitStatus_of_unheard same) fun kept => ?_
  have read : (n.reader.webSocketResponse (deliverFrame e) (fun n => n.channel.isOpen)
      n).2.1.audioFrame = [] :=
    Reader.webSocketResponse_keeps (K := fun m : ConnectNode => m.audioFrame = [])
      (fun m buffer frame none => deliverFrame_audioFrame none buffer frame) n.reader kept
  simp only [webSocketResponse]
  split
  · exact kept
  · exact (withReader_audioFrame e _ _ _).trans read

theorem gatewayResponse_unstopped (e : Env) (n : ConnectNode) :
    Unstopped e n (n.gatewayResponse e).1 := by
  have same := unheard_gatewayResponse e n
  refine .of_wire (wire_gatewayResponse e n) (isStop_of_unheard same)
    (exitStatus_of_unheard same) fun kept => ?_
  simp only [gatewayResponse]
  split
  · exact kept
  · exact kept
  · exact (withReader_audioFrame e _ _ _).trans kept

/-! ## Reads -/

lemma sendFakeSynthesisStarted_unstopped (e : Env) (n : ConnectNode) :
    Unstopped e n (n.sendFakeSynthesisStarted e) := by
  unfold sendFakeSynthesisStarted
  split
  · exact (handlerFrame_calledBack e n _).unstopped
  · exact .refl n

lemma startCommand_ne_stop (n : ConnectNode) : n.startCommand ≠ .cmdStop := by
  unfold startCommand
  split <;> decide

theorem responseUpgrade_unstopped (e : Env) (n : ConnectNode) :
    Unstopped e n (n.responseUpgrade e).1 := by
  have answered := gatewayResponse_unstopped e n
  have upgraded : Unstopped e n { (n.gatewayResponse e).1 with workStatus := .nodeStarting } :=
    answered.trans (.of_wire rfl rfl rfl id)
  have sent := upgraded.trans (addCmd_send_unstopped e _
    (startCommand_ne_stop { (n.gatewayResponse e).1 with workStatus := .nodeStarting }) [])
  simp only [responseUpgrade]
  split
  · split
    · exact upgraded
    · split
      · exact sent
      · exact sent.trans (sendFakeSynthesisStarted_unstopped e _)
  · exact answered

/-- What a read event of the node may find on its way to Stop. -/
def ReadBehind (e : Env) (n : ConnectNode) : Prop :=
  n.workStatus = .nodeStarting ∨ n.workStatus = .nodeWakeWording →
    FlushBehind (n.webSocketResponse e).1

lemma responseStarting_turn (order : n.InOrder) (behind : FlushBehind (n.webSocketResponse e).1) :
    Turn e n (n.responseStarting e).1 := by
  have read := webSocketResponse_unstopped e n
  have kept := read.inOrder order
  simp only [responseStarting]
  split
  case isTrue started => exact read.toMoved.turn (started_turn kept started behind)
  case isFalse =>
    split
    · exact read.toMoved.turn ((nlsSendFrame_unstopped e _ .wwv false).turn kept)
    · exact read.turn order

theorem responseRead_turn (order : n.InOrder) (behind : ReadBehind e n) :
    Turn e n (n.responseRead e).1 := by
  have read := (webSocketResponse_unstopped e n).turn order
  have same := (Unstopped.refl (e := e) n).turn order
  unfold responseRead
  split
  case h_1 => exact (responseUpgrade_unstopped e n).turn order
  case h_2 => exact (responseUpgrade_unstopped e n).turn order
  case h_3 status => exact responseStarting_turn order (behind (Or.inl status))
  case h_4 status => exact responseStarting_turn order (behind (Or.inr status))
  case h_5 => exact read
  case h_6 => split <;> assumption
  case h_7 => split <;> assumption
  case h_8 => exact same
  case h_9 => exact same

lemma close_taskFailed_unstopped (e : Env) (n : ConnectNode) (info : Bytes) (code : ℤ) :
    Unstopped e n (n.closeConnectNode.handlerTaskFailedEvent e info code) :=
  (closeConnectNode_unstopped n).trans (handlerTaskFailedEvent_reported e _ info code).unstopped

theorem nodeResponseProcess_turn (order : n.InOrder) (behind : ReadBehind e n) :
    Turn e n (n.nodeResponseProcess e).1 := by
  have read := responseRead_turn order behind
  simp only [nodeResponseProcess]
  split
  · exact (Unstopped.refl n).turn order
  split
  · exact (Unstopped.refl n).turn order
  split
  · exact read
  · exact read
  · exact read
  · exact read
  split
  · exact read
  split
  · exact read
  · exact read.same (close_taskFailed_unstopped e _ _ _) (by simp)

theorem readEventCallBack_turn (order : n.InOrder) {what : EventKind}
    (behind : what = .ready → ReadBehind e n) : Turn e n (n.readEventCallBack e what) := by
  unfold readEventCallBack
  split
  · exact (Unstopped.refl n).turn order
  split
  · exact (closeConnectNode_unstopped n).turn order
  cases what with
  | ready =>
    have read := nodeResponseProcess_turn order (behind rfl)
    dsimp only
    split
    · exact read.same (closeConnectNode_unstopped _) (wire_closeConnectNode _)
    · exact read
  | timeout => exact (failEvent_unstopped e n _ _).turn order
  | unknown => exact (failEvent_unstopped e n _ _).turn order

/-! ## Setting a connection up -/

lemma orDestroy_unstopped {result : ConnectNode × Ret} (h : Unstopped e n result.1) :
    Unstopped e n (orDestroy result) := by
  unfold orDestroy
  split
  · exact h.trans (destroyConnectNode_unstopped _)
  · exact h

lemma connectProcess_unstopped (n : ConnectNode) (socket : SocketState) :
    Unstopped e n (n.connectProcess socket) :=
  ⟨⟨Wire.Moves.refl.connect, rfl, rfl, id⟩, id⟩

lemma socketConnect_unstopped (n : ConnectNode) (socket : SocketState) :
    Unstopped e n (n.socketConnect socket) := .of_wire rfl rfl rfl id

lemma backToConnecting_unstopped (n : ConnectNode) : Unstopped e n n.backToConnecting :=
  .of_wire (wire_disconnectProcess n) rfl rfl id

lemma connectAttempt_unstopped {connect : ConnectNode → SocketState → ConnectNode}
    {retry : ConnectNode → ConnectNode} (connects : ∀ socket, Unstopped e n (connect n socket))
    (again : Unstopped e n (retry n.backToConnecting)) (attempt : Attempt) :
    Unstopped e n (n.connectAttempt e connect retry attempt) := by
  unfold connectAttempt
  split
  · exact again
  cases attempt with
  | pending => exact connects _
  | connected => exact (connects .connecting).trans (.of_wire rfl rfl rfl id)
  | handshaking =>
    have opened : Unstopped e (connect n .established)
        { connect n .established with workStatus := .nodeHandshaking, isConnected := true } :=
      .of_wire rfl rfl rfl id
    exact orDestroy_unstopped (((connects .established).trans opened).trans
      (nodeRequestProcess_unstopped (by simp)))
  | parseUrlFailed => exact again
  | invalidDnsSource => exact again
  | failed => exact again

theorem dnsProcess_unstopped (e : Env) (attempts : List Attempt) (n : ConnectNode) :
    Unstopped e n (dnsProcess e attempts n).1 := by
  have long (n : ConnectNode) :
      let m := { n with workStatus := .nodeStarting }
      let sent := (m.addCmdDataBuffer e m.startCommand []).nlsSendFrame e .cmd false
      Unstopped e n (if sent.2.failed then
        ((sent.1.handlerTaskFailedEvent e sent.1.nodeErrMsg
          NlsErrorCode.defaultErrorCode).closeConnectNode, sent.2)
        else (sent.1, .ok 0)).1 := by
    have starting : Unstopped e n { n with workStatus := .nodeStarting } := .of_wire rfl rfl rfl id
    have sent := starting.trans (addCmd_send_unstopped e _
      (startCommand_ne_stop { n with workStatus := .nodeStarting }) [])
    dsimp only
    split
    · exact sent.trans (taskFailed_close_unstopped e _ _ _)
    · exact sent
  have noneLeft (n : ConnectNode) : Unstopped e n
      ({ n with retryConnectCount := 0 }.handlerTaskFailedEvent e taskFailedConnectJsonString
        NlsErrorCode.sysConnectFailed) := by
    have counted : Unstopped e n { n with retryConnectCount := 0 } := .of_wire rfl rfl rfl id
    exact counted.trans (handlerTaskFailedEvent_reported e _ _ _).unstopped
  have counted (n : ConnectNode) : Unstopped e n n.countConnect := .of_wire rfl rfl rfl id
  induction attempts generalizing n with
  | nil =>
    unfold dnsProcess
    split
    · exact .refl n
    split
    · exact .refl n
    split
    · exact long n
    split
    · exact noneLeft n
    · exact (counted n).trans (.of_wire rfl rfl rfl id)
  | cons attempt rest ih =>
    have again := (backToConnecting_unstopped n.countConnect).trans
      (orDestroy_unstopped (ih n.countConnect.backToConnecting))
    have attempted := (counted n).trans (@connectAttempt_unstopped e n.countConnect _
      (fun n => orDestroy (dnsProcess e rest n)) (connectProcess_unstopped n.countConnect)
      again attempt)
    unfold dnsProcess
    split
    · exact .refl n
    split
    · exact .refl n
    split
    · exact long n
    split
    · exact noneLeft n
    · cases attempt with
      | parseUrlFailed => exact counted n
      | invalidDnsSource => exact counted n
      | pending => exact attempted
      | failed => exact attempted
      | connected => exact attempted
      | handshaking => exact attempted

lemma continueConnect_unstopped {connect : ConnectNode → SocketState → ConnectNode}
    (connects : ∀ socket, Unstopped e n (connect n socket)) :
    Unstopped e n (n.continueConnect e connect) := by
  unfold continueConnect
  split
  · exact .refl n
  · exact connectAttempt_unstopped connects
      ((backToConnecting_unstopped n).trans (orDestroy_unstopped (dnsProcess_unstopped e _ _))) _

lemma dnsProcess_orDestroy_unstopped (e : Env) (attempts : List Attempt) (n : ConnectNode) :
    Unstopped e n (orDestroy (dnsProcess e attempts n)) :=
  orDestroy_unstopped (dnsProcess_unstopped e attempts n)

theorem launchEventCallback_unstopped (e : Env) (n : ConnectNode) :
    Unstopped e n (n.launchEventCallback e) := by
  simp only [launchEventCallback]
  split
  · exact .refl n
  split
  · exact .of_wire rfl rfl rfl id
  · have listed : Unstopped e n
        { n with listed := true, workStatus := .nodeInvoked }.updateParameters :=
      .of_wire rfl rfl rfl id
    exact listed.trans (dnsProcess_orDestroy_unstopped e _ _)

theorem connectEventCallback_unstopped (e : Env) (n : ConnectNode) (timeout : Bool) :
    Unstopped e n (n.connectEventCallback e timeout) := by
  unfold connectEventCallback
  split
  · exact (backToConnecting_unstopped n).trans (dnsProcess_orDestroy_unstopped e _ _)
  split
  · split
    · exact .of_wire rfl rfl rfl id
    · exact continueConnect_unstopped (socketConnect_unstopped n)
  · exact .refl n

theorem dnsEventCallback_unstopped (e : Env) (n : ConnectNode) (failed : Bool) :
    Unstopped e n (n.dnsEventCallback e failed) := by
  have connecting : Unstopped e n { n with workStatus := .nodeConnecting } :=
    .of_wire rfl rfl rfl id
  unfold dnsEventCallback
  split
  · exact .refl n
  split
  · exact connecting.trans (dnsProcess_orDestroy_unstopped e _ _)
  · exact continueConnect_unstopped (connectProcess_unstopped n)

theorem startWithPoolEventCallback_unstopped (e : Env) (n : ConnectNode) :
    Unstopped e n (n.startWithPoolEventCallback e) := by
  have taken : Unstopped e n
      { n with readEvent := true, writeEvent := true, workStatus := .nodeStarting } :=
    .of_wire rfl rfl rfl id
  have sent := taken.trans (addCmd_send_unstopped e _ (show CmdType.cmdStart ≠ .cmdStop by decide) [])
  simp only [startWithPoolEventCallback]
  split
  · exact .refl n
  split
  · exact sent.trans (sendFakeSynthesisStarted_unstopped e _)
  · exact sent

/-- A synthesis of one text: its Stop finds no audio for the wake word. -/
def SingleRoundBehind (e : Env) (n : ConnectNode) : Prop :=
  StopCallBehind e (n.cmdNotify e .cmdSendText n.param.singleRoundText).1

theorem singleRoundTextEventCallback_turn (order : n.InOrder) (behind : SingleRoundBehind e n) :
    Turn e n (n.singleRoundTextEventCallback e) := by
  have sent := cmdNotify_unstopped e n (show CmdType.cmdSendText ≠ .cmdStop by decide) (by decide)
    n.param.singleRoundText
  have stop : Turn e (n.cmdNotify e .cmdSendText n.param.singleRoundText).1
      ((n.cmdNotify e .cmdSendText n.param.singleRoundText).1.cmdNotify e .cmdStop []).1 :=
    cmdNotify_turn (sent.inOrder order) (fun _ => behind) []
  have stopped := sent.toMoved.turn stop
  simp only [singleRoundTextEventCallback]
  split
  · exact (Unstopped.refl n).turn order
  split
  · exact (Unstopped.refl n).turn order
  · exact stopped.same (.of_wire rfl rfl rfl id) rfl

end ConnectNode

/-! ## Runs -/

open ConnectNode

/-- The step frames no Stop. -/
def FramesNoStop (n : ConnectNode) (input : NodeInput) : Prop :=
  n.wire.Moves input.env (nodeStep n input).wire

/-- The step frames Stop, and all audio has been written by then. -/
def FramesStopLast (n : ConnectNode) (input : NodeInput) : Prop :=
  n.wire.StopsBehindAudio input.env (nodeStep n input).wire

/-- Behind the Stop no other one is framed and no audio waits. -/
def BehindStop (n : ConnectNode) (input : NodeInput) : Prop :=
  FramesNoStop n input ∧ n.wire.AudioSent ∧ (nodeStep n input).wire.AudioSent

/-- A session frames Stop once at most, and not a byte of audio is written behind it. -/
def StopOrdered (n : ConnectNode) (inputs : List NodeInput) : Prop :=
  Once nodeStep FramesNoStop FramesStopLast BehindStop n inputs

/-- The steps of one session: calls pass the checks in front of the node, audio is sliced for a
running session, and no start initialises the node again. -/
def InSession (n : ConnectNode) (input : NodeInput) : Prop :=
  input.op.Admitted n ∧
    match input.op with
    | .keepAudio _ => n.Running
    | .start => ¬(n.isLongConnection ∧ input.env.hasPool = false ∧ n.workStatus = .nodeClosed)
    | _ => True

/-- Where Stop is due and nothing waits in `.binary`, nothing waits for the wake word. -/
def StopsBehind (n : ConnectNode) (input : NodeInput) : Prop :=
  let m := n.withEnv input.env
  match input.op with
  | .cmdNotify .cmdStop _ => StopCallBehind input.env m
  | .readEvent .ready => n.readEvent = true → ReadBehind input.env m
  | .writeEvent .ready => n.writeEvent = true → FlushBehind m
  | .singleRoundTextEvent => n.singleRoundTextEvent = true →
      SingleRoundBehind input.env { m with singleRoundTextEvent := false }
  | _ => True

lemma start_unstopped {e : Env} {n : ConnectNode}
    (same : ¬(n.isLongConnection ∧ e.hasPool = false ∧ n.workStatus = .nodeClosed)) :
    Unstopped e n (n.start e) := by
  have stays : ¬((n.isLongConnection && !e.hasPool) = true ∧ n.workStatus = .nodeClosed) := by
    rintro ⟨long, closed⟩
    rw [Bool.and_eq_true, Bool.not_eq_true'] at long
    exact same ⟨long.1, long.2, closed⟩
  simp only [start, if_neg stays]
  split_ifs <;> exact .of_wire rfl rfl rfl id

lemma nodeStep_turn (n : ConnectNode) (input : NodeInput) (order : n.InOrder)
    (session : InSession n input) (behind : StopsBehind n input) :
    Turn input.env n (nodeStep n input) := by
  obtain ⟨op, e⟩ := input
  obtain ⟨admitted, session⟩ := session
  have fresh : Unstopped e n (n.withEnv e) := .of_wire rfl rfl rfl id
  have order' := fresh.inOrder order
  have still := fresh.turn order
  cases op with
  | start =>
    exact (fresh.trans (start_unstopped (n := n.withEnv e) session)).turn order
  | sendAudio frame =>
    have running : (n.withEnv e).exitStatus ≠ .exitStopping := by
      intro stopping
      cases admitted.2.symm.trans stopping
    have moved := fresh.toMoved.trans (addAudioDataBuffer_moved (e := e) running frame)
    have unmarked : (nodeStep n ⟨.sendAudio frame, e⟩).isStop = false :=
      moved.isStop.trans (order.isStop_eq_false admitted.2)
    have runs : (nodeStep n ⟨.sendAudio frame, e⟩).exitStatus = .exitInvalid :=
      moved.exitStatus.trans admitted.2
    refine ⟨Or.inl moved.moves, moved.isStop.trans, ⟨fun stopped => ?_, fun due => ?_⟩⟩
    · cases unmarked.symm.trans stopped
    · rcases due with stopped | stopping
      · cases unmarked.symm.trans stopped
      · cases runs.symm.trans stopping
  | keepAudio frame =>
    have unmarked := order.isStop_eq_false session.2
    refine ⟨Or.inl .refl, id, ⟨fun stopped => ?_, fun due => ?_⟩⟩
    · cases unmarked.symm.trans stopped
    · rcases due with stopped | stopping
      · cases unmarked.symm.trans stopped
      · cases session.2.symm.trans stopping
  | cmdNotify type message =>
    refine fresh.toMoved.turn (cmdNotify_turn order' (fun stop => ?_) message)
    subst stop
    exact behind
  | syncPingCmd => exact (fresh.trans (syncPingCmd_unstopped e _)).turn order
  | launchEvent =>
    simp only [nodeStep, NodeOp.step]
    split
    · have cleared : Unstopped e n { n.withEnv e with launchEvent := false } :=
        .of_wire rfl rfl rfl id
      exact (cleared.trans (launchEventCallback_unstopped e _)).turn order
    · exact still
  | reconnectEvent =>
    simp only [nodeStep, NodeOp.step]
    split
    · have cleared : Unstopped e n { n.withEnv e with
          reconnection := { (n.withEnv e).reconnection with armed := false } } :=
        .of_wire rfl rfl rfl id
      exact (cleared.trans (launchEventCallback_unstopped e _)).turn order
    · exact still
  | dnsEvent failed =>
    simp only [nodeStep, NodeOp.step]
    split
    · have cleared : Unstopped e n { n.withEnv e with dnsRequest := false } :=
        .of_wire rfl rfl rfl id
      exact (cleared.trans (dnsEventCallback_unstopped e _ failed)).turn order
    · exact still
  | connectEvent timeout =>
    simp only [nodeStep, NodeOp.step]
    split
    · have cleared : Unstopped e n { n.withEnv e with connectEvent := false } :=
        .of_wire rfl rfl rfl id
      exact (cleared.trans (connectEventCallback_unstopped e _ timeout)).turn order
    · exact still
  | startWithPoolEvent =>
    simp only [nodeStep, NodeOp.step]
    split
    · have cleared : Unstopped e n { n.withEnv e with startWithPoolEvent := false } :=
        .of_wire rfl rfl rfl id
      exact (cleared.trans (startWithPoolEventCallback_unstopped e _)).turn order
    · exact still
  | singleRoundTextEvent =>
    simp only [nodeStep, NodeOp.step]
    split
    · rename_i pending
      have cleared : Unstopped e n { n.withEnv e with singleRoundTextEvent := false } :=
        .of_wire rfl rfl rfl id
      exact cleared.toMoved.turn
        (singleRoundTextEventCallback_turn (cleared.inOrder order) (behind pending))
    · exact still
  | readEvent what =>
    simp only [nodeStep, NodeOp.step]
    split
    · rename_i pending
      refine fresh.toMoved.turn (readEventCallBack_turn order' fun ready => ?_)
      subst ready
      exact behind pending
    · exact still
  | writeEvent what =>
    simp only [nodeStep, NodeOp.step]
    split
    · rename_i pending
      refine fresh.toMoved.turn (writeEventCallBack_turn order' fun ready => ?_)
      subst ready
      exact behind pending
    · exact still

/-- What `initAllStatus` leaves. -/
structure ConnectNode.Initial (n : ConnectNode) : Prop where
  isStop : n.isStop = false
  exitStatus : n.exitStatus = .exitInvalid

lemma ConnectNode.initAllStatus_initial (n : ConnectNode) : n.initAllStatus.Initial := ⟨rfl, rfl⟩

lemma ConnectNode.Initial.inOrder {n : ConnectNode} (initial : n.Initial) : n.InOrder where
  stopped := fun stopped => by cases initial.isStop.symm.trans stopped
  flushed := by
    rintro (stopped | stopping)
    · cases initial.isStop.symm.trans stopped
    · cases initial.exitStatus.symm.trans stopping

/-- A session in which no audio waits for the wake word when Stop is due frames Stop once, behind
all its audio, however its calls and events are interleaved. -/
theorem stop_ordered {n : ConnectNode} (initial : n.Initial) {inputs : List NodeInput}
    (session : Along nodeStep InSession n inputs) (behind : Along nodeStep StopsBehind n inputs) :
    StopOrdered n inputs := by
  refine once_of_invariant (I := InOrder) (P := fun n => n.isStop = true)
    (G := fun n input => InSession n input ∧ StopsBehind n input) ?_ ?_ ?_ initial.inOrder
    (along_and.mpr ⟨session, behind⟩)
  · rintro n input order ⟨inSession, behind⟩
    exact (nodeStep_turn n input order inSession behind).inOrder
  · rintro n input order ⟨inSession, behind⟩
    rcases (nodeStep_turn n input order inSession behind).wire with moves | ⟨-, stopped, stops⟩
    · exact Or.inl moves
    · exact Or.inr ⟨stops, stopped⟩
  · rintro n input order stopped ⟨inSession, behind⟩
    have turn := nodeStep_turn n input order inSession behind
    have marked := turn.isStop stopped
    rcases turn.wire with moves | ⟨running, -, -⟩
    · exact ⟨⟨moves, (order.stopped stopped).2, (turn.inOrder.stopped marked).2⟩, marked⟩
    · cases running.symm.trans stopped

/-- Audio of which the socket takes three bytes, then Stop, then a write event. -/
def stopBehindAudio : List NodeInput :=
  startSession ++
    [{ op := .sendAudio (List.replicate 6 7), env := { accepts := [some 3] } },
     { op := .cmdNotify .cmdStop [], env := { command := fun _ _ => some (ascii "Stop") } },
     { op := .writeEvent .ready, env := { command := fun _ _ => some (ascii "Stop") } }]

/-- The write event takes the rest of the audio and Stop behind it. -/
theorem stop_ordered_transcription :
    (nodeRun transcription stopBehindAudio).isStop = true ∧
      StopOrdered transcription stopBehindAudio := by
  refine ⟨by decide, stop_ordered ⟨rfl, rfl⟩ ?_ ?_⟩
  · refine ⟨⟨by decide, by decide⟩, ⟨by decide, trivial⟩, ⟨by decide, trivial⟩, ⟨by decide, trivial⟩,
      ⟨by decide, trivial⟩, ⟨by decide, trivial⟩, ⟨by decide, trivial⟩, trivial⟩
  · refine ⟨trivial, trivial, ?_, ?_, trivial, ?_, ?_, trivial⟩
    · intro _ _ _ _ stopping
      exact absurd stopping (by decide)
    · intro _ _ _ _ stopping
      exact absurd stopping (by decide)
    · intro _ _ waiting
      exact absurd waiting (by decide)
    · intro _ _ _ _ _
      decide

/-! ## A dialog with a wake word -/

lemma Wire.Moves.queued {e : Env} {v w : Wire} (moves : v.Moves e w) {frame : Bytes}
    (is : frame ∈ w.queued) :
    frame ∈ v.queued ∨ (∃ payload, frame = binaryFrame payload) ∨
      (∃ type message, type ≠ CmdType.cmdStop ∧ cmdFrame e type message = some frame) ∨
      ∃ request, e.upgradeRequest = some request ∧ frame = request.bytes := by
  induction moves with
  | refl => exact Or.inl is
  | audio _ other payload ih =>
    rcases List.mem_append.mp is with is | is
    · exact ih is
    · exact Or.inr (Or.inl ⟨payload, List.mem_singleton.mp is⟩)
  | @command w _ type message frame' other made ih =>
    rcases List.mem_append.mp is with is | is
    · exact ih is
    · rw [List.mem_singleton.mp is]
      exact Or.inr (Or.inr (Or.inl ⟨type, message, other, made⟩))
  | @upgrade w _ request made ih =>
    rcases List.mem_append.mp is with is | is
    · exact ih is
    · exact Or.inr (Or.inr (Or.inr ⟨request, made, List.mem_singleton.mp is⟩))
  | send _ i k ih => exact ih is
  | ping _ k ih => exact ih is
  | connect _ ih => cases is

def wakeWordDialog : ConnectNode where
  param :=
    { mode := .typeDialog
      requestType := .speechWakeWordDialog
      enableWakeWord := true }

def dialogCommands : CmdType → Bytes → Option Bytes
  | .cmdStart, _ => some (ascii "Start")
  | .cmdStop, _ => some (ascii "Stop")
  | _, _ => none

/-- A dialog up to its verified wake word, and audio of which the socket takes three bytes. -/
def wakeWordAudio : List NodeInput :=
  [{ op := .start },
   { op := .launchEvent
     env := { upgradeRequest := some (upgradeText "ws"), attempts := [.handshaking] } },
   { op := .readEvent .ready
     env := { command := dialogCommands
              reads := [some (ascii "HTTP/1.1 101 Upgraded\r\n\r\n")] } },
   { op := .readEvent .ready
     env := { parseJsonMsg := fun _ => .ok { msgType := .recognitionStarted }
              reads := [some ([0x81, 7] ++ ascii "Started")] } },
   { op := .readEvent .ready
     env := { parseJsonMsg := fun _ => .ok { msgType := .wakeWordVerificationCompleted }
              reads := [some ([0x81, 8] ++ ascii "Verified")] } },
   { op := .sendAudio (List.replicate 6 7), env := { accepts := [some 3] } }]

def stopDialog : NodeInput where
  op := .cmdNotify .cmdStop []
  env := { command := dialogCommands }

lemma stopDialog_frame {type : CmdType} {message : Bytes} (other : type ≠ .cmdStop) :
    cmdFrame stopDialog.env type message ≠ some (textFrame (ascii "Stop")) := by
  cases type with
  | cmdStop => exact absurd rfl other
  | cmdStart =>
    have made : cmdFrame stopDialog.env .cmdStart message = some (textFrame (ascii "Start")) := rfl
    rw [made]
    decide
  | cmdSendPing =>
    have made : cmdFrame stopDialog.env .cmdSendPing message = some pingFrame := rfl
    rw [made]
    decide
  | _ =>
    intro made
    cases made

/-- Audio for the wake word waits while Stop is framed and written. -/
theorem stop_before_audio :
    wakeWordDialog.Initial ∧ Along nodeStep InSession wakeWordDialog (wakeWordAudio ++ [stopDialog]) ∧
      ¬StopOrdered wakeWordDialog (wakeWordAudio ++ [stopDialog]) := by
  refine ⟨⟨rfl, rfl⟩, ?_, fun ordered => ?_⟩
  · refine ⟨⟨by decide, by decide⟩, ⟨by decide, trivial⟩, ⟨by decide, trivial⟩, ⟨by decide, trivial⟩,
      ⟨by decide, trivial⟩, ⟨by decide, trivial⟩, ⟨by decide, trivial⟩, trivial⟩
  · rcases ordered.last fun _ _ behind => behind.1 with moves | stops
    · have framed : textFrame (ascii "Stop") ∈
          (nodeStep (run nodeStep wakeWordDialog wakeWordAudio) stopDialog).wire.queued := by decide
      rcases moves.queued framed with old | ⟨payload, audio⟩ | ⟨type, message, other, made⟩ |
          ⟨request, made, -⟩
      · exact absurd old (by decide)
      · have first : (textFrame (ascii "Stop")).head? =
            some (UInt8.ofNat (0x80 ||| OpCodeType.binaryFrame.nibble)) := by
          rw [audio]
          rfl
        exact absurd first (by decide)
      · exact stopDialog_frame other made
      · cases made
    · exact absurd stops.audioSent.2 (by decide)

end NlsSdk.Transport
