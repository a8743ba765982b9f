import NlsSdk.Transport.NlsEventNetWork
import NlsSdk.Transport.SendSpec

/-!
# The course of a step

What a call or a write event does for the session: quiet work, and now and then
a failure that ends the connection and reports TaskFailed and Close.
-/
namespace NlsSdk.Transport.ConnectNode

/-- Forget what a node may change without a word to the user. -/
def unspoken (n : ConnectNode) : ConnectNode :=
  { n with
    toSending := {}
    reconnection := { n.reconnection with firstAudioTimestampMs := 0, state := .noReconnection }
    isStop := false
    isWakeStop := false
    isFirstBinaryFrame := false
    isFirstAudioFrame := false
    isSendSingleRoundText := false
    exitStatus := .exitInvalid
    nodeErrMsg := []
    audioFrame := [] }

/-- Work that neither reports anything nor moves the status on; Start and Stop may be framed. -/
structure Quiet (n m : ConnectNode) : Prop where
  unspoken : m.unspoken = n.unspoken
  state : m.reconnection.state = n.reconnection.state ∨
    m.reconnection.state = .newReconnectionStarting
  exitStatus : m.exitStatus = n.exitStatus ∨ m.exitStatus = .exitStopping

variable {e : Env} {n m k : ConnectNode}

theorem Quiet.refl (n : ConnectNode) : Quiet n n := ⟨rfl, Or.inl rfl, Or.inl rfl⟩

theorem Quiet.trans (h : Quiet n m) (h' : Quiet m k) : Quiet n k where
  unspoken := h'.unspoken.trans h.unspoken
  state := by
    rcases h'.state with same | starting
    · rw [same]
      exact h.state
    · exact Or.inr starting
  exitStatus := by
    rcases h'.exitStatus with same | stopping
    · rw [same]
      exact h.exitStatus
    · exact Or.inr stopping

theorem Quiet.callbacks (h : Quiet n m) : m.callbacks = n.callbacks := by
  have kept := congrArg (fun k : ConnectNode => k.callbacks) h.unspoken
  exact kept

theorem Quiet.workStatus (h : Quiet n m) : m.workStatus = n.workStatus := by
  have kept := congrArg (fun k : ConnectNode => k.workStatus) h.unspoken
  exact kept

theorem Sent.quiet (h : Sent n m) : Quiet n m := by
  obtain ⟨s, t, f, msg, rfl⟩ := h
  exact ⟨rfl, Or.inl rfl, Or.inl rfl⟩

lemma addCmdDataBuffer_quiet (e : Env) (n : ConnectNode) (type : CmdType) (message : Bytes) :
    Quiet n (n.addCmdDataBuffer e type message) := by
  have starting : Quiet n (if type = .cmdStart then
      { n with reconnection := { n.reconnection with state := .newReconnectionStarting } }
      else n) := by
    split
    · exact ⟨rfl, Or.inr rfl, Or.inl rfl⟩
    · exact Quiet.refl n
  simp only [addCmdDataBuffer]
  split
  · exact Quiet.refl n
  split
  · exact starting
  · exact starting.trans (evbufferAdd_sent _ _ _).quiet

lemma addCmd_send_quiet (e : Env) (n : ConnectNode) (type : CmdType) (message : Bytes) :
    Quiet n ((n.addCmdDataBuffer e type message).nlsSendFrame e .cmd false).1 :=
  (addCmdDataBuffer_quiet e n type message).trans (nlsSendFrame_sent e _ _ _).quiet

theorem sendControlDirective_quiet (e : Env) (n : ConnectNode) :
    Quiet n (n.sendControlDirective e).1 := by
  unfold sendControlDirective
  split
  · split
    · exact (nlsSendFrame_sent e n _ _).quiet
    · exact Quiet.refl n
  · split
    · exact (addCmd_send_quiet e n .cmdStop []).trans ⟨rfl, Or.inl rfl, Or.inl rfl⟩
    · exact Quiet.refl n

theorem pushAudio_quiet (e : Env) (n : ConnectNode) (payload : Bytes) :
    Quiet n (n.pushAudio e payload).1 := by
  have queued := (evbufferAdd_sent n n.audioBuffer (binaryFrame payload)).quiet
  have sent := queued.trans (nlsSendFrame_sent e _ n.audioBuffer false).quiet
  simp only [pushAudio]
  by_cases now : n.sendsNow
  · simp only [now, if_true]
    split
    · exact sent.trans (sendControlDirective_quiet e _)
    · exact sent
  · simp only [now, if_false, Ret.isZero_ok, decide_true, if_true]
    exact queued.trans (sendControlDirective_quiet e _)

/-- The end of a connection: only its socket and its events change, none is set. -/
inductive Shut (n : ConnectNode) : ConnectNode → Prop
  | still : Shut n n
  | disconnect : Shut n n.disconnectProcess
  | close : Shut n n.closeConnectNode

/-- Quiet work, failures of the session and ends of connections, one after another. -/
inductive Course (e : Env) (n : ConnectNode) : ConnectNode → Prop
  | refl : Course e n n
  | quiet {m k : ConnectNode} (course : Course e n m) (work : Quiet m k) : Course e n k
  | fails {m k l : ConnectNode} (course : Course e n m) (info : Bytes) (code : ℤ)
    (before : Shut m k) (after : Shut (k.handlerTaskFailedEvent e info code) l) : Course e n l

theorem Course.trans (h : Course e n m) (h' : Course e m k) : Course e n k := by
  induction h' with
  | refl => exact h
  | quiet _ work ih => exact ih.quiet work
  | fails _ info code before after ih => exact ih.fails info code before after

theorem Quiet.course (h : Quiet n m) : Course e n m := Course.refl.quiet h

/-! ## Calls -/

lemma failSend_course (e : Env) (n : ConnectNode) : Course e n (n.failSend e) :=
  Course.refl.fails _ _ .disconnect .still

theorem addAudioDataBuffer_course (e : Env) (n : ConnectNode) (frame : Bytes) :
    Course e n (n.addAudioDataBuffer e frame).1 := by
  simp only [addAudioDataBuffer]
  split
  · exact .refl
  split
  · exact .refl
  split
  · exact .refl
  rename_i payload _
  split
  · exact .refl
  have pushed := (pushAudio_quiet e n payload).course (e := e)
  split
  · exact pushed.trans (failSend_course e _)
  · exact pushed.quiet ⟨rfl, Or.inl rfl, Or.inl rfl⟩

lemma addRemainAudioData_course (e : Env) (n : ConnectNode) :
    Course e n (n.addRemainAudioData e).1 := by
  unfold addRemainAudioData
  split
  · exact .refl
  · exact (addAudioDataBuffer_course e n n.audioFrame).quiet ⟨rfl, Or.inl rfl, Or.inl rfl⟩

lemma cmdStop_course (e : Env) (n : ConnectNode) (message : Bytes) :
    Course e n (n.cmdSend e .cmdStop message).1 := by
  have stopping := (addRemainAudioData_course e n).quiet
    (k := { (n.addRemainAudioData e).1 with exitStatus := .exitStopping })
    ⟨rfl, Or.inl rfl, Or.inr rfl⟩
  simp only [cmdSend]
  split
  · exact stopping.quiet (sendControlDirective_quiet e _)
  · exact stopping

/-- A command other than Cancel. -/
theorem cmdSend_course (e : Env) (n : ConnectNode) {type : CmdType} (stays : type ≠ .cmdCancel)
    (message : Bytes) : Course e n (n.cmdSend e type message).1 := by
  have framed := addCmdDataBuffer_quiet e n type message
  have sent := addCmd_send_quiet e n type message
  cases type with
  | cmdStop => exact cmdStop_course e n message
  | cmdCancel => exact absurd rfl stays
  | cmdStControl =>
    simp only [cmdSend]
    split
    · exact sent.course
    · exact framed.course
  | cmdWarkWord =>
    have woken : Quiet n { n with isWakeStop := true } := ⟨rfl, Or.inl rfl, Or.inl rfl⟩
    simp only [cmdSend]
    split
    · exact (woken.trans (addCmd_send_quiet e _ .cmdWarkWord [])).course
    · exact woken.course
  | cmdSendText =>
    simp only [cmdSend]
    split
    · exact sent.course.quiet ⟨rfl, Or.inl rfl, Or.inl rfl⟩
    · exact framed.course
  | cmdSendPing => exact (addCmd_send_quiet e n .cmdSendPing []).course
  | cmdSendFlush => exact sent.course
  | cmdStart => exact .refl
  | cmdTextDialog => exact .refl
  | cmdExecuteDialog => exact .refl

theorem cmdNotify_course (e : Env) (n : ConnectNode) {type : CmdType} (stays : type ≠ .cmdCancel)
    (message : Bytes) : Course e n (n.cmdNotify e type message).1 := by
  have sent := cmdSend_course e n stays message
  simp only [cmdNotify]
  split
  · exact sent.trans (failSend_course e _)
  · exact sent

theorem syncPingCmd_quiet (e : Env) (n : ConnectNode) : Quiet n (n.syncPingCmd e).1 := by
  have sent := (nlsSend_sent e n pingFrame).quiet
  simp only [syncPingCmd]
  split
  · exact Quiet.refl n
  · split <;> exact sent

/-! ## Write events -/

lemma gatewayRequest_quiet (e : Env) (n : ConnectNode) : Quiet n (n.gatewayRequest e).1 := by
  unfold gatewayRequest
  split
  · exact Quiet.refl n
  split
  · exact Quiet.refl n
  split
  · exact Quiet.refl n
  · exact ⟨rfl, Or.inl rfl, Or.inl rfl⟩

/-- Once the upgrade request is out, a write event only sends. -/
theorem requestSend_quiet (e : Env) (upgraded : n.workStatus ≠ .nodeHandshaking) :
    Quiet n (n.requestSend e).1 := by
  unfold requestSend
  split
  case h_1 handshaking => exact absurd handshaking upgraded
  case h_2 => exact (nlsSendFrame_sent e n _ _).quiet
  case h_3 => exact (nlsSendFrame_sent e n _ _).quiet
  case h_4 =>
    have sent := (nlsSendFrame_sent e n .wwv false).quiet
    dsimp only
    split
    · exact sent.trans (addCmd_send_quiet e _ _ _)
    · exact sent
  case h_5 =>
    have sent := (nlsSendFrame_sent e n .binary true).quiet
    dsimp only
    split
    · exact sent.trans (sendControlDirective_quiet e _)
    · exact sent
  case h_6 => exact Quiet.refl n

theorem nodeRequestProcess_course (e : Env) (upgraded : n.workStatus ≠ .nodeHandshaking) :
    Course e n (n.nodeRequestProcess e).1 := by
  have sent := (requestSend_quiet e upgraded).course (e := e)
  simp only [nodeRequestProcess]
  split
  · exact .refl
  split
  · exact sent.fails _ _ .still .close
  · exact sent

lemma failEvent_course (e : Env) (n : ConnectNode) (text : String) (code : ℤ) :
    Course e n (n.failEvent e text code) :=
  Course.refl.fails _ _ .close .still

end NlsSdk.Transport.ConnectNode
