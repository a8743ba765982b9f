import NlsSdk.Transport.NlsEventNetWork
import NlsSdk.Transport.SafeEvents

/-!
# The framing of Stop

Stop is framed once and offered to the socket once. A run in which that one
write takes the whole command buffer leaves no command waiting behind it.
-/
namespace NlsSdk.Transport

open NlsSdk.Library

/-- What one write leaves of the socket when it takes all that waits in `q`. -/
def Channel.drains (c : Channel) (q : EvBuffer) : Option Channel :=
  if q.length = 0 then some c
  else if q.length ≤ nodeFrameSize ∧ c.accepted q.bytes = some q.length then some (c.send q.bytes)
  else none

namespace ConnectNode

variable {e : Env} {n m : ConnectNode} {i : Output}

lemma peek_all {q : EvBuffer} (short : q.length ≤ nodeFrameSize) :
    q.peek nodeFrameSize = q.bytes :=
  List.take_of_length_le short

lemma afterSend_channel (e : Env) (n : ConnectNode) (i : Output) (audioFrame : Bool) (k : ℕ) :
    (n.afterSend e i audioFrame k).1.channel = n.channel := by
  simp only [afterSend, noteFirstAudio]
  split <;> rfl

lemma afterSend_evBuffer (e : Env) (n : ConnectNode) (i : Output) (audioFrame : Bool) (k : ℕ) :
    (n.afterSend e i audioFrame k).1.evBuffer i = (n.evBuffer i).drain k := by
  have := congrFun (congrArg Wire.evBuffer (afterSend_wire e n i audioFrame k)) i
  simpa [wire] using this

/-- A write that is not refused, written out. -/
lemma nlsSendFrame_taken (waiting : (n.evBuffer i).length ≠ 0) {k : ℕ}
    (taken : n.channel.accepted ((n.evBuffer i).peek nodeFrameSize) = some k) (audioFrame : Bool) :
    ((n.nlsSendFrame e i audioFrame).1.evBuffer i) = (n.evBuffer i).drain k ∧
      (n.nlsSendFrame e i audioFrame).1.channel =
        n.channel.send ((n.evBuffer i).peek nodeFrameSize) := by
  have offered : (n.evBuffer i).peek nodeFrameSize ≠ [] := by
    rw [Ne, ChunkQueue.length_eq_zero] at waiting
    simpa [ChunkQueue.peek, nodeFrameSize] using waiting
  simp only [nlsSendFrame, waiting, if_false, nlsSend, offered, taken]
  exact ⟨afterSend_evBuffer _ _ _ _ _, afterSend_channel _ _ _ _ _⟩

/-- One write that takes the whole buffer empties it. -/
theorem nlsSendFrame_of_drains {c : Channel} (h : n.channel.drains (n.evBuffer i) = some c)
    (audioFrame : Bool) :
    ((n.nlsSendFrame e i audioFrame).1.evBuffer i).length = 0 ∧
      (n.nlsSendFrame e i audioFrame).1.channel = c := by
  by_cases empty : (n.evBuffer i).length = 0
  · obtain rfl : n.channel = c := by simpa [Channel.drains, empty] using h
    simp [nlsSendFrame, empty]
  · simp only [Channel.drains, empty, if_false, Option.ite_none_right_eq_some,
      Option.some.injEq] at h
    obtain ⟨⟨short, taken⟩, rfl⟩ := h
    rw [← peek_all short] at taken ⊢
    obtain ⟨drained, sent⟩ := nlsSendFrame_taken (e := e) empty taken audioFrame
    exact ⟨by rw [drained, ChunkQueue.length_drain, Nat.sub_self], sent⟩

/-- Only such a write does. -/
theorem drains_of_isZero {audioFrame : Bool} (zero : (n.nlsSendFrame e i audioFrame).2.isZero) :
    n.channel.drains (n.evBuffer i) = some (n.nlsSendFrame e i audioFrame).1.channel := by
  have left := (nlsSendFrame_isZero e n i audioFrame).mp zero
  by_cases empty : (n.evBuffer i).length = 0
  · simp [Channel.drains, nlsSendFrame, empty]
  · cases taken : n.channel.accepted ((n.evBuffer i).peek nodeFrameSize) with
    | none =>
      have offered : (n.evBuffer i).peek nodeFrameSize ≠ [] := by
        rw [ChunkQueue.length_eq_zero] at empty
        simpa [ChunkQueue.peek, nodeFrameSize] using empty
      simp [nlsSendFrame, empty, nlsSend, offered, taken] at zero
    | some k =>
      obtain ⟨drained, sent⟩ := nlsSendFrame_taken (e := e) empty taken audioFrame
      have bound := Channel.accepted_le taken
      rw [drained, ChunkQueue.length_drain] at left
      rw [ChunkQueue.length_peek] at bound
      have short : (n.evBuffer i).length ≤ nodeFrameSize := by omega
      have all : k = (n.evBuffer i).length := by omega
      rw [peek_all short, all] at taken
      rw [sent, peek_all short]
      simp [Channel.drains, empty, short, taken]

/-! ## Framing Stop -/

/-- Once Stop was framed no command waits any more. -/
def Settled (n : ConnectNode) : Prop :=
  n.isStop = true → n.exitStatus ≠ .exitInvalid ∧ (n.evBuffer .cmd).length = 0

/-- If Stop is framed in this state, one write to the socket takes it with all that waits in
front of it. -/
def StopTaken (e : Env) (n : ConnectNode) (c : Channel) : Prop :=
  n.exitStatus = .exitStopping → n.isStop = false →
    (c.drains ((n.addCmdDataBuffer e .cmdStop []).evBuffer .cmd)).isSome

lemma Settled.isStop_eq_false (h : n.Settled) (running : n.exitStatus = .exitInvalid) :
    n.isStop = false := by
  by_contra stopped
  exact (h (by simpa using stopped)).1 running

lemma Sent.isStop (h : Sent n m) : m.isStop = n.isStop := by
  obtain ⟨_, _, _, _, rfl⟩ := h
  rfl

lemma Sent.exitStatus (h : Sent n m) : m.exitStatus = n.exitStatus := by
  obtain ⟨_, _, _, _, rfl⟩ := h
  rfl

lemma Sent.workStatus (h : Sent n m) : m.workStatus = n.workStatus := by
  obtain ⟨_, _, _, _, rfl⟩ := h
  rfl

/-- A send adds nothing to the command buffer. -/
lemma cmd_empty_nlsSendFrame (empty : (n.evBuffer .cmd).length = 0) (audioFrame : Bool) :
    ((n.nlsSendFrame e i audioFrame).1.evBuffer .cmd).length = 0 := by
  by_cases same : Output.cmd = i
  · subst same
    simp [nlsSendFrame, empty]
  · rwa [nlsSendFrame_other e n same]

theorem nlsSendFrame_settled (h : n.Settled) (i : Output) (audioFrame : Bool) :
    (n.nlsSendFrame e i audioFrame).1.Settled := by
  have sent := nlsSendFrame_sent e n i audioFrame
  intro stopped
  rw [sent.isStop] at stopped
  rw [sent.exitStatus]
  exact ⟨(h stopped).1, cmd_empty_nlsSendFrame (h stopped).2 audioFrame⟩

lemma settled_of_running (running : n.isStop = false) : n.Settled :=
  fun stopped => absurd (running.symm.trans stopped) (by decide)

lemma addCmdDataBuffer_isStop (e : Env) (n : ConnectNode) (type : CmdType) (message : Bytes) :
    (n.addCmdDataBuffer e type message).isStop = n.isStop := by
  obtain ⟨buffers, frames, marks, same⟩ := addCmdDataBuffer_same e n type message
  rw [same]

lemma addCmdDataBuffer_exitStatus (e : Env) (n : ConnectNode) (type : CmdType) (message : Bytes) :
    (n.addCmdDataBuffer e type message).exitStatus = n.exitStatus := by
  obtain ⟨buffers, frames, marks, same⟩ := addCmdDataBuffer_same e n type message
  rw [same]

lemma addCmdDataBuffer_channel (e : Env) (n : ConnectNode) (type : CmdType) (message : Bytes) :
    (n.addCmdDataBuffer e type message).channel = n.channel := by
  obtain ⟨buffers, frames, marks, same⟩ := addCmdDataBuffer_same e n type message
  rw [same]

lemma addCmd_send_isStop (e : Env) (n : ConnectNode) (type : CmdType) (message : Bytes) :
    ((n.addCmdDataBuffer e type message).nlsSendFrame e .cmd false).1.isStop = n.isStop :=
  (nlsSendFrame_sent e _ .cmd false).isStop.trans (addCmdDataBuffer_isStop e n type message)

theorem sendControlDirective_settled (h : n.Settled) (taken : StopTaken e n n.channel) :
    (n.sendControlDirective e).1.Settled := by
  unfold sendControlDirective
  split
  case isTrue =>
    split
    · exact nlsSendFrame_settled h .cmd false
    · exact h
  case isFalse =>
    split
    case isFalse => exact h
    case isTrue stopping =>
      obtain ⟨c, drains⟩ := Option.isSome_iff_exists.mp (taken stopping.1 (by simpa using stopping.2))
      rw [← addCmdDataBuffer_channel e n .cmdStop []] at drains
      have exit : ((n.addCmdDataBuffer e .cmdStop []).nlsSendFrame e .cmd false).1.exitStatus =
          .exitStopping := by
        rw [(nlsSendFrame_sent e _ _ _).exitStatus, addCmdDataBuffer_exitStatus]
        exact stopping.1
      intro _
      exact ⟨by simp [exit], (nlsSendFrame_of_drains drains false).1⟩

theorem Settled.of_unheard (h : n.Settled) (same : m.unheard = n.unheard) : m.Settled := by
  intro stopped
  rw [isStop_of_unheard same] at stopped
  rw [exitStatus_of_unheard same, evBuffer_of_unheard same]
  exact h stopped

lemma addCmdDataBuffer_cmd (e : Env) (n : ConnectNode) (type : CmdType) (message : Bytes) :
    (n.addCmdDataBuffer e type message).evBuffer .cmd =
      match n.request, cmdFrame e type message with
      | true, some frame => (n.evBuffer .cmd).add frame
      | _, _ => n.evBuffer .cmd := by
  cases request : n.request with
  | false => simp [addCmdDataBuffer, request]
  | true =>
    simp only [addCmdDataBuffer, request, Bool.not_true, Bool.false_eq_true, if_false]
    split
    · simp only [*]
      split <;> rfl
    · simp only [*]
      split <;> simp [evbufferAdd]

/-- Audio sent in front of it changes nothing about the framing of Stop. -/
lemma StopTaken.of_sent {c : Channel} (taken : StopTaken e n c) (sent : Sent n m)
    (same : m.evBuffer .cmd = n.evBuffer .cmd) : StopTaken e m c := by
  intro stopping running
  have request : m.request = n.request := sent.wrote.request
  rw [sent.exitStatus] at stopping
  rw [sent.isStop] at running
  have framed := taken stopping running
  rw [addCmdDataBuffer_cmd] at framed ⊢
  rwa [request, same]

/-- When a started node flushes its audio at once, Stop behind it is taken whole. -/
def FlushTaken (e : Env) (n : ConnectNode) : Prop :=
  n.workStatus = .nodeStarted → ∀ c, n.channel.drains (n.evBuffer .binary) = some c →
    StopTaken e n c

theorem started_settled (h : n.Settled) (taken : ∀ c,
    n.channel.drains (n.evBuffer .binary) = some c → StopTaken e n c) :
    let audio := n.nlsSendFrame e .binary true
    (if audio.2.isZero then audio.1.sendControlDirective e else audio).1.Settled := by
  have flushed := nlsSendFrame_settled (e := e) h .binary true
  dsimp only
  split
  case isFalse => exact flushed
  case isTrue zero =>
    have behind := taken _ (drains_of_isZero zero)
    exact sendControlDirective_settled flushed
      (behind.of_sent (nlsSendFrame_sent e n _ _) (nlsSendFrame_other e n (by decide) _))

/-! ## Calls -/

/-- In a running session nothing frames Stop. -/
lemma sendControlDirective_isStop (running : n.exitStatus = .exitInvalid) :
    (n.sendControlDirective e).1.isStop = n.isStop := by
  unfold sendControlDirective
  split
  · split
    · exact (nlsSendFrame_sent e n _ _).isStop
    · rfl
  · simp [running]

lemma pushAudio_isStop (running : n.exitStatus = .exitInvalid) (payload : Bytes) :
    (n.pushAudio e payload).1.isStop = n.isStop := by
  have sent := nlsSendFrame_sent e (n.evbufferAdd n.audioBuffer (binaryFrame payload))
    n.audioBuffer false
  simp only [pushAudio]
  by_cases now : n.sendsNow
  · simp only [now, if_true]
    split
    · exact (sendControlDirective_isStop (sent.exitStatus.trans running)).trans sent.isStop
    · exact sent.isStop
  · simp only [now, if_false, Ret.isZero_ok, decide_true, if_true]
    exact sendControlDirective_isStop (n := n.evbufferAdd _ _) running

lemma addAudioDataBuffer_isStop (running : n.exitStatus = .exitInvalid) (frame : Bytes) :
    (n.addAudioDataBuffer e frame).1.isStop = n.isStop := by
  simp only [addAudioDataBuffer]
  split
  · rfl
  split
  · rfl
  split
  · rfl
  rename_i payload _
  split
  · rfl
  have pushed := pushAudio_isStop (e := e) running payload
  split
  · exact (isStop_of_unheard (unheard_failSend e (n.pushAudio e payload).1)).trans pushed
  · exact pushed

lemma addRemainAudioData_isStop (running : n.exitStatus = .exitInvalid) :
    (n.addRemainAudioData e).1.isStop = n.isStop := by
  unfold addRemainAudioData
  split
  · rfl
  · exact addAudioDataBuffer_isStop running n.audioFrame

/-- The Stop of a started session whose audio is flushed is taken whole. -/
def StopCallTaken (e : Env) (n : ConnectNode) : Prop :=
  let flushed := (n.addRemainAudioData e).1
  flushed.workStatus = .nodeStarted → (flushed.evBuffer .binary).length = 0 →
    StopTaken e { flushed with exitStatus := .exitStopping } flushed.channel

lemma cmdStop_settled (flushed : (n.addRemainAudioData e).1.Settled) (taken : StopCallTaken e n)
    (message : Bytes) : (n.cmdNotify e .cmdStop message).1.Settled := by
  have stopping : Settled { (n.addRemainAudioData e).1 with exitStatus := .exitStopping } :=
    fun stopped => ⟨by simp, (flushed stopped).2⟩
  have sent : (n.cmdSend e .cmdStop message).1.Settled := by
    simp only [cmdSend]
    split
    case isTrue sends => exact sendControlDirective_settled stopping (taken sends.1 sends.2)
    case isFalse => exact stopping
  simp only [cmdNotify]
  split
  · exact sent.of_unheard (unheard_failSend e _)
  · exact sent

/-- A command other than Stop and Cancel frames no Stop. -/
lemma cmdSend_isStop (e : Env) (n : ConnectNode) {type : CmdType} (other : type ≠ .cmdStop)
    (message : Bytes) : (n.cmdSend e type message).1.isStop = n.isStop := by
  cases type with
  | cmdStop => exact absurd rfl other
  | cmdCancel => rfl
  | cmdStControl =>
    simp only [cmdSend]
    split
    · exact addCmd_send_isStop e n _ _
    · exact addCmdDataBuffer_isStop e n _ _
  | cmdWarkWord =>
    simp only [cmdSend]
    split
    · exact addCmd_send_isStop e _ _ _
    · rfl
  | cmdSendText =>
    simp only [cmdSend]
    split
    · exact addCmd_send_isStop e n _ _
    · exact addCmdDataBuffer_isStop e n _ _
  | cmdSendPing => exact addCmd_send_isStop e n _ _
  | cmdSendFlush => exact addCmd_send_isStop e n _ _
  | cmdStart => rfl
  | cmdTextDialog => rfl
  | cmdExecuteDialog => rfl

lemma cmdNotify_isStop (e : Env) (n : ConnectNode) {type : CmdType} (other : type ≠ .cmdStop)
    (message : Bytes) : (n.cmdNotify e type message).1.isStop = n.isStop := by
  have sent := cmdSend_isStop e n other message
  simp only [cmdNotify]
  split
  · exact (isStop_of_unheard (unheard_failSend e _)).trans sent
  · exact sent

/-! ## Events -/

/-- No command is framed behind Stop by a write event, and Stop is taken whole. -/
def WriteTaken (e : Env) (n : ConnectNode) : Prop :=
  (n.isStop = true → n.workStatus ≠ .nodeHandshaking ∧ n.workStatus ≠ .nodeWakeWording) ∧
    FlushTaken e n

lemma requestSend_settled (h : n.Settled) (taken : WriteTaken e n) :
    (n.requestSend e).1.Settled := by
  have framing (phase : n.workStatus = .nodeHandshaking ∨ n.workStatus = .nodeWakeWording) :
      n.isStop = false := by
    by_contra stopped
    obtain ⟨handshaking, waking⟩ := taken.1 (by simpa using stopped)
    exact phase.elim handshaking waking
  unfold requestSend
  split
  case h_1 status =>
    have requested : (n.gatewayRequest e).1.isStop = n.isStop := by
      unfold gatewayRequest
      split
      · rfl
      split
      · rfl
      split <;> rfl
    refine settled_of_running ?_
    exact ((nlsSendFrame_sent e (n.gatewayRequest e).1 .cmd false).isStop.trans requested).trans
      (framing (Or.inl status))
  case h_2 => exact nlsSendFrame_settled h .cmd false
  case h_3 => exact nlsSendFrame_settled h .cmd false
  case h_4 status =>
    have sent := nlsSendFrame_sent e n .wwv false
    refine settled_of_running ?_
    dsimp only
    split
    · exact ((addCmd_send_isStop e _ _ _).trans sent.isStop).trans (framing (Or.inr status))
    · exact sent.isStop.trans (framing (Or.inr status))
  case h_5 status => exact started_settled h (taken.2 status)
  case h_6 => exact h

theorem nodeRequestProcess_settled (h : n.Settled) (taken : WriteTaken e n) :
    (n.nodeRequestProcess e).1.Settled := by
  have sent := requestSend_settled h taken
  simp only [nodeRequestProcess]
  split
  · exact h
  split
  · exact sent.of_unheard (by simp)
  · exact sent

lemma destroyConnectNode_settled (h : n.Settled) : n.destroyConnectNode.Settled := by
  unfold destroyConnectNode
  split
  · exact h
  split <;> exact h

theorem writeEventCallBack_settled (h : n.Settled) {what : EventKind}
    (taken : what = .ready → WriteTaken e n) : (n.writeEventCallBack e what).Settled := by
  have destroyed (m : ConnectNode) (settled : m.Settled) :
      (if m.workStatus = .nodeInvalid then m.destroyConnectNode else m).Settled := by
    split
    · exact destroyConnectNode_settled settled
    · exact settled
  unfold writeEventCallBack
  split
  · exact h
  split
  · exact h.of_unheard (by simp)
  cases what with
  | ready => exact destroyed _ (nodeRequestProcess_settled h (taken rfl))
  | timeout => exact destroyed _ (h.of_unheard (by simp))
  | unknown => exact destroyed _ (h.of_unheard (by simp))

/-- No command is framed behind Stop by a read event, and Stop is taken whole. -/
def ReadTaken (e : Env) (n : ConnectNode) : Prop :=
  (n.isStop = true → n.workStatus ≠ .nodeHandshaking ∧ n.workStatus ≠ .nodeHandshaked) ∧
    (n.workStatus = .nodeStarting ∨ n.workStatus = .nodeWakeWording →
      FlushTaken e (n.webSocketResponse e).1)

lemma responseUpgrade_isStop (e : Env) (n : ConnectNode) :
    (n.responseUpgrade e).1.isStop = n.isStop := by
  have answered : (n.gatewayResponse e).1.isStop = n.isStop :=
    isStop_of_unheard (unheard_gatewayResponse e n)
  simp only [responseUpgrade]
  split
  · split
    · exact answered
    · have sent := (addCmd_send_isStop e { (n.gatewayResponse e).1 with workStatus := .nodeStarting }
        { (n.gatewayResponse e).1 with workStatus := .nodeStarting }.startCommand []).trans answered
      split
      · exact sent
      · exact (isStop_of_unheard (unheard_sendFakeSynthesisStarted e _)).trans sent
  · exact answered

lemma responseStarting_settled (h : n.Settled) (taken : FlushTaken e (n.webSocketResponse e).1) :
    (n.responseStarting e).1.Settled := by
  have read := h.of_unheard (unheard_webSocketResponse e n)
  simp only [responseStarting]
  split
  case isTrue started => exact started_settled read (taken started)
  case isFalse =>
    split
    · exact nlsSendFrame_settled read .wwv false
    · exact read

theorem responseRead_settled (h : n.Settled) (taken : ReadTaken e n) :
    (n.responseRead e).1.Settled := by
  have upgraded (phase : n.workStatus = .nodeHandshaking ∨ n.workStatus = .nodeHandshaked) :
      (n.responseUpgrade e).1.Settled := by
    refine settled_of_running ((responseUpgrade_isStop e n).trans ?_)
    by_contra stopped
    obtain ⟨handshaking, handshaked⟩ := taken.1 (by simpa using stopped)
    exact phase.elim handshaking handshaked
  have read := h.of_unheard (unheard_webSocketResponse e n)
  unfold responseRead
  split
  case h_1 status => exact upgraded (Or.inl status)
  case h_2 status => exact upgraded (Or.inr status)
  case h_3 status => exact responseStarting_settled h (taken.2 (Or.inl status))
  case h_4 status => exact responseStarting_settled h (taken.2 (Or.inr status))
  case h_5 => exact read
  case h_6 => split <;> assumption
  case h_7 => split <;> assumption
  case h_8 => exact h
  case h_9 => exact h

theorem nodeResponseProcess_settled (h : n.Settled) (taken : ReadTaken e n) :
    (n.nodeResponseProcess e).1.Settled := by
  have read := responseRead_settled h taken
  simp only [nodeResponseProcess]
  split
  · exact h
  split
  · exact h
  split
  · exact read
  · exact read
  · exact read
  · exact read
  split
  · exact read
  split
  · exact read
  · exact read.of_unheard (by simp)

theorem readEventCallBack_settled (h : n.Settled) {what : EventKind}
    (taken : what = .ready → ReadTaken e n) : (n.readEventCallBack e what).Settled := by
  unfold readEventCallBack
  split
  · exact h
  split
  · exact h.of_unheard (by simp)
  cases what with
  | ready =>
    have read := nodeResponseProcess_settled h (taken rfl)
    dsimp only
    split
    · exact read.of_unheard (by simp)
    · exact read
  | timeout => exact h.of_unheard (by simp)
  | unknown => exact h.of_unheard (by simp)

/-! ## Setting a connection up frames no Stop -/

lemma orDestroy_isStop (result : ConnectNode × Ret) : (orDestroy result).isStop = result.1.isStop := by
  unfold orDestroy destroyConnectNode
  split
  · split
    · rfl
    split <;> rfl
  · rfl

lemma handshake_isStop (handshaking : n.workStatus = .nodeHandshaking) :
    (n.nodeRequestProcess e).1.isStop = n.isStop := by
  have requested : (n.gatewayRequest e).1.isStop = n.isStop := by
    unfold gatewayRequest
    split
    · rfl
    split
    · rfl
    split <;> rfl
  have sent : (n.requestSend e).1.isStop = n.isStop := by
    simp only [requestSend, handshaking]
    exact (nlsSendFrame_sent e (n.gatewayRequest e).1 .cmd false).isStop.trans requested
  simp only [nodeRequestProcess]
  split
  · rfl
  split
  · refine (isStop_of_unheard ?_).trans sent
    simp
  · exact sent

lemma connectAttempt_isStop (connect : ConnectNode → SocketState → ConnectNode)
    (retry : ConnectNode → ConnectNode) (connects : ∀ socket, (connect n socket).isStop = n.isStop)
    (again : (retry n.backToConnecting).isStop = n.isStop) (attempt : Attempt) :
    (n.connectAttempt e connect retry attempt).isStop = n.isStop := by
  unfold connectAttempt
  split
  · exact again
  cases attempt with
  | pending => exact connects _
  | connected => exact connects _
  | handshaking =>
    exact (orDestroy_isStop _).trans ((handshake_isStop rfl).trans (connects _))
  | parseUrlFailed => exact again
  | invalidDnsSource => exact again
  | failed => exact again

theorem dnsProcess_isStop (e : Env) (attempts : List Attempt) (n : ConnectNode) :
    (dnsProcess e attempts n).1.isStop = n.isStop := by
  have long (n : ConnectNode) :
      let m := { n with workStatus := .nodeStarting }
      let sent := (m.addCmdDataBuffer e m.startCommand []).nlsSendFrame e .cmd false
      (if sent.2.failed then
        ((sent.1.handlerTaskFailedEvent e sent.1.nodeErrMsg
          NlsErrorCode.defaultErrorCode).closeConnectNode, sent.2)
        else (sent.1, .ok 0)).1.isStop = n.isStop := by
    have sent := addCmd_send_isStop e { n with workStatus := .nodeStarting }
      { n with workStatus := .nodeStarting }.startCommand []
    dsimp only
    split
    · exact (isStop_of_unheard (by simp)).trans sent
    · exact sent
  have noneLeft (n : ConnectNode) :
      ({ n with retryConnectCount := 0 }.handlerTaskFailedEvent e taskFailedConnectJsonString
        NlsErrorCode.sysConnectFailed).isStop = n.isStop :=
    isStop_of_unheard (unheard_handlerTaskFailedEvent e { n with retryConnectCount := 0 } _ _)
  induction attempts generalizing n with
  | nil =>
    unfold dnsProcess
    split
    · rfl
    split
    · rfl
    split
    · exact long n
    split
    · exact noneLeft n
    · rfl
  | cons attempt rest ih =>
    have again := (orDestroy_isStop _).trans (ih n.countConnect.backToConnecting)
    have attempted := connectAttempt_isStop (e := e) (n := n.countConnect) connectProcess
      (fun n => orDestroy (dnsProcess e rest n)) (fun socket => rfl) again attempt
    unfold dnsProcess
    split
    · rfl
    split
    · rfl
    split
    · exact long n
    split
    · exact noneLeft n
    · cases attempt with
      | parseUrlFailed => rfl
      | invalidDnsSource => rfl
      | pending => exact attempted
      | failed => exact attempted
      | connected => exact attempted
      | handshaking => exact attempted

lemma continueConnect_isStop (connect : ConnectNode → SocketState → ConnectNode)
    (connects : ∀ socket, (connect n socket).isStop = n.isStop) :
    (n.continueConnect e connect).isStop = n.isStop := by
  unfold continueConnect
  split
  · rfl
  · exact connectAttempt_isStop connect (fun n => orDestroy (dnsProcess e _ n)) connects
      ((orDestroy_isStop _).trans (dnsProcess_isStop e _ _)) _

lemma connectEventCallback_isStop (e : Env) (n : ConnectNode) (timeout : Bool) :
    (n.connectEventCallback e timeout).isStop = n.isStop := by
  unfold connectEventCallback
  split
  · exact (orDestroy_isStop _).trans (dnsProcess_isStop e _ _)
  split
  · split
    · rfl
    · exact continueConnect_isStop socketConnect fun socket => rfl
  · rfl

lemma dnsEventCallback_isStop (e : Env) (n : ConnectNode) (failed : Bool) :
    (n.dnsEventCallback e failed).isStop = n.isStop := by
  unfold dnsEventCallback
  split
  · rfl
  split
  · exact (orDestroy_isStop _).trans (dnsProcess_isStop e _ _)
  · exact continueConnect_isStop connectProcess fun socket => rfl

/-- A node that is stopped is not launched again. -/
theorem launchEventCallback_settled (h : n.Settled) : (n.launchEventCallback e).Settled := by
  simp only [launchEventCallback]
  split
  · exact h
  split
  · exact h
  · rename_i stays
    have running : n.isStop = false := by
      by_contra stopped
      have exit := (h (by simpa using stopped)).1
      cases status : n.exitStatus <;> simp_all
    exact settled_of_running
      (((orDestroy_isStop _).trans (dnsProcess_isStop e _ _)).trans running)

/-! ## The remaining events -/

/-- The text of a single round meets no Stop, and the Stop behind it is taken whole. -/
def SingleRoundTaken (e : Env) (n : ConnectNode) : Prop :=
  n.isStop = false ∧ n.audioFrame = [] ∧
    StopCallTaken e (n.cmdNotify e .cmdSendText n.param.singleRoundText).1

theorem singleRoundTextEventCallback_settled (h : n.Settled) (taken : SingleRoundTaken e n) :
    (n.singleRoundTextEventCallback e).Settled := by
  obtain ⟨running, kept, stop⟩ := taken
  have sent := cmdNotify_isStop e n (show CmdType.cmdSendText ≠ .cmdStop by decide)
    n.param.singleRoundText
  have keptAfter := (cmdNotify_wrote e n .cmdSendText n.param.singleRoundText).audioFrame kept
  have flushed : ((n.cmdNotify e .cmdSendText n.param.singleRoundText).1.addRemainAudioData
      e).1.Settled := by
    simp only [addRemainAudioData, keptAfter, if_true]
    exact settled_of_running (sent.trans running)
  simp only [singleRoundTextEventCallback]
  split
  · exact h
  split
  · exact h
  · exact cmdStop_settled flushed stop []

lemma startWithPoolEventCallback_isStop (e : Env) (n : ConnectNode) :
    (n.startWithPoolEventCallback e).isStop = n.isStop := by
  have sent := addCmd_send_isStop e
    { n with readEvent := true, writeEvent := true, workStatus := .nodeStarting } .cmdStart []
  simp only [startWithPoolEventCallback]
  split
  · rfl
  split
  · exact (isStop_of_unheard (unheard_sendFakeSynthesisStarted e _)).trans sent
  · exact sent

lemma syncPingCmd_settled (h : n.Settled) : (n.syncPingCmd e).1.Settled := by
  have sent : (n.nlsSend e pingFrame).1.Settled := by
    simp only [nlsSend]
    split
    · exact h
    split <;> exact h
  simp only [syncPingCmd]
  split
  · exact h
  split <;> exact sent

end ConnectNode

/-! ## Runs -/

open ConnectNode

/-- The calls pass the checks in front of the node. Where Stop is framed, one write takes it with
the commands in front of it, and no command is framed behind it. -/
def StopsWhole (n : ConnectNode) (input : NodeInput) : Prop :=
  let m := n.withEnv input.env
  input.op.Admitted n ∧
    match input.op with
    | .cmdNotify .cmdStop _ => StopCallTaken input.env m
    | .readEvent .ready => n.readEvent = true → ReadTaken input.env m
    | .writeEvent .ready => n.writeEvent = true → WriteTaken input.env m
    | .singleRoundTextEvent => n.singleRoundTextEvent = true →
        SingleRoundTaken input.env { m with singleRoundTextEvent := false }
    | .startWithPoolEvent => n.startWithPoolEvent = true → n.isStop = false
    | .dnsEvent _ => n.dnsRequest = true → n.isStop = false
    | .connectEvent _ => n.connectEvent = true → n.isStop = false
    | _ => True

lemma cmdNotify_settled {n : ConnectNode} {e : Env} (h : n.Settled) {type : CmdType}
    {message : Bytes} (admitted : (NodeOp.cmdNotify type message).Admitted n)
    (taken : type = .cmdStop → StopCallTaken e n) : (n.cmdNotify e type message).1.Settled := by
  have running (exit : n.exitStatus = .exitInvalid) (other : type ≠ .cmdStop) :
      (n.cmdNotify e type message).1.Settled :=
    settled_of_running ((cmdNotify_isStop e n other message).trans (h.isStop_eq_false exit))
  cases type with
  | cmdStop =>
    refine cmdStop_settled (settled_of_running ?_) (taken rfl) message
    exact (addRemainAudioData_isStop admitted.1).trans (h.isStop_eq_false admitted.1)
  | cmdCancel =>
    have cancelled : Settled { n with exitStatus := .exitCancel } :=
      fun stopped => ⟨by simp, (h stopped).2⟩
    exact cancelled
  | cmdStControl => exact running admitted.2 (by decide)
  | cmdSendText => exact running admitted.2 (by decide)
  | cmdSendPing => exact running admitted.2 (by decide)
  | cmdSendFlush => exact running admitted.2 (by decide)
  | cmdWarkWord => exact absurd admitted id
  | cmdStart => exact absurd admitted id
  | cmdTextDialog => exact absurd admitted id
  | cmdExecuteDialog => exact absurd admitted id

lemma nodeStep_settled (n : ConnectNode) (input : NodeInput) (h : n.Settled)
    (taken : StopsWhole n input) : (nodeStep n input).Settled := by
  obtain ⟨op, e⟩ := input
  obtain ⟨admitted, taken⟩ := taken
  have fresh : (n.withEnv e).Settled := h
  cases op with
  | start =>
    simp only [nodeStep, NodeOp.step, start]
    split_ifs
    all_goals first
      | exact fresh
      | exact settled_of_running rfl
  | sendAudio frame =>
    refine settled_of_running ((addAudioDataBuffer_isStop (n := n.withEnv e) admitted.2 frame).trans ?_)
    exact h.isStop_eq_false admitted.2
  | keepAudio frame => exact h
  | cmdNotify type message =>
    refine cmdNotify_settled (n := n.withEnv e) fresh admitted (fun stop => ?_)
    subst stop
    exact taken
  | syncPingCmd =>
    exact syncPingCmd_settled fresh
  | launchEvent =>
    simp only [nodeStep, NodeOp.step]
    split
    · exact launchEventCallback_settled (n := { n.withEnv e with launchEvent := false }) fresh
    · exact fresh
  | reconnectEvent =>
    simp only [nodeStep, NodeOp.step]
    split
    · exact launchEventCallback_settled
        (n := { n.withEnv e with reconnection := { (n.withEnv e).reconnection with armed := false } })
        fresh
    · exact fresh
  | dnsEvent failed =>
    simp only [nodeStep, NodeOp.step]
    split
    · rename_i pending
      exact settled_of_running ((dnsEventCallback_isStop e _ failed).trans (taken pending))
    · exact fresh
  | connectEvent timeout =>
    simp only [nodeStep, NodeOp.step]
    split
    · rename_i pending
      exact settled_of_running ((connectEventCallback_isStop e _ timeout).trans (taken pending))
    · exact fresh
  | startWithPoolEvent =>
    simp only [nodeStep, NodeOp.step]
    split
    · rename_i pending
      exact settled_of_running ((startWithPoolEventCallback_isStop e _).trans (taken pending))
    · exact fresh
  | singleRoundTextEvent =>
    simp only [nodeStep, NodeOp.step]
    split
    · rename_i pending
      exact singleRoundTextEventCallback_settled
        (n := { n.withEnv e with singleRoundTextEvent := false }) fresh (taken pending)
    · exact fresh
  | readEvent what =>
    simp only [nodeStep, NodeOp.step]
    split
    · rename_i pending
      refine readEventCallBack_settled fresh (fun ready => ?_)
      subst ready
      exact taken pending
    · exact fresh
  | writeEvent what =>
    simp only [nodeStep, NodeOp.step]
    split
    · rename_i pending
      refine writeEventCallBack_settled fresh (fun ready => ?_)
      subst ready
      exact taken pending
    · exact fresh

end NlsSdk.Transport
