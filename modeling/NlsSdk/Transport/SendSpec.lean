import NlsSdk.Transport.Discipline

/-!
# What sending calls leave alone

A call that queues and writes frames may fail the session and close the socket.
It never takes back a Stop, and a status it changes becomes closed.
-/
namespace NlsSdk.Transport.ConnectNode

variable {e : Env} {n m k : ConnectNode}

/-- `m` is `n` after calls that write, fail the session or ask for its end. -/
structure Wrote (n m : ConnectNode) : Prop where
  workStatus : m.workStatus = n.workStatus ∨ m.workStatus = .nodeClosed
  isStop : n.isStop = true → m.isStop = true
  events : m.toNodeEvents = n.toNodeEvents
  param : m.param = n.param
  request : m.request = n.request
  registered : m.registered = n.registered
  audioFrame : n.audioFrame = [] → m.audioFrame = []

theorem Wrote.refl (n : ConnectNode) : Wrote n n := ⟨Or.inl rfl, id, rfl, rfl, rfl, rfl, id⟩

theorem Wrote.trans (h : Wrote n m) (h' : Wrote m k) : Wrote n k where
  workStatus := by
    rcases h'.workStatus with same | closed
    · exact same.symm ▸ h.workStatus
    · exact Or.inr closed
  isStop := fun stopped => h'.isStop (h.isStop stopped)
  events := h'.events.trans h.events
  param := h'.param.trans h.param
  request := h'.request.trans h.request
  registered := h'.registered.trans h.registered
  audioFrame := fun none => h'.audioFrame (h.audioFrame none)

theorem Reported.wrote (h : Reported n m) : Wrote n m := by
  obtain ⟨r, err, st, rfl, hst⟩ := h
  exact ⟨hst, id, rfl, rfl, rfl, rfl, id⟩

theorem Sent.wrote (h : Sent n m) : Wrote n m := by
  obtain ⟨s, t, f, msg, rfl⟩ := h
  exact ⟨Or.inl rfl, id, rfl, rfl, rfl, rfl, id⟩

lemma addCmdDataBuffer_wrote (e : Env) (n : ConnectNode) (type : CmdType) (message : Bytes) :
    Wrote n (n.addCmdDataBuffer e type message) := by
  have starting : Wrote n (if type = .cmdStart then
      { n with reconnection := { n.reconnection with state := .newReconnectionStarting } }
      else n) := by
    split
    · exact ⟨Or.inl rfl, id, rfl, rfl, rfl, rfl, id⟩
    · exact Wrote.refl n
  simp only [addCmdDataBuffer]
  split
  · exact Wrote.refl n
  split
  · exact starting
  · exact starting.trans (evbufferAdd_sent _ _ _).wrote

@[simp] theorem addCmdDataBuffer_workStatus (e : Env) (n : ConnectNode) (type : CmdType)
    (message : Bytes) : (n.addCmdDataBuffer e type message).workStatus = n.workStatus := by
  obtain ⟨buffers, frames, marks, same⟩ := addCmdDataBuffer_same e n type message
  rw [same]

lemma addCmd_send_wrote (e : Env) (n : ConnectNode) (type : CmdType) (message : Bytes) :
    Wrote n ((n.addCmdDataBuffer e type message).nlsSendFrame e .cmd false).1 :=
  (addCmdDataBuffer_wrote e n type message).trans (nlsSendFrame_sent e _ _ _).wrote

theorem sendControlDirective_wrote (e : Env) (n : ConnectNode) :
    Wrote n (n.sendControlDirective e).1 := by
  unfold sendControlDirective
  split
  · split
    · exact (nlsSendFrame_sent e n _ _).wrote
    · exact Wrote.refl n
  · split
    · refine (addCmd_send_wrote e n .cmdStop []).trans ?_
      exact ⟨Or.inl rfl, fun _ => rfl, rfl, rfl, rfl, rfl, id⟩
    · exact Wrote.refl n

theorem failSend_wrote (e : Env) (n : ConnectNode) : Wrote n (n.failSend e) := by
  have closed : Wrote n n.disconnectProcess :=
    ⟨Or.inl rfl, id, rfl, rfl, rfl, rfl, id⟩
  exact closed.trans (handlerTaskFailedEvent_reported e _ _ _).wrote

theorem pushAudio_wrote (e : Env) (n : ConnectNode) (payload : Bytes) :
    Wrote n (n.pushAudio e payload).1 := by
  have queued := (evbufferAdd_sent n n.audioBuffer (binaryFrame payload)).wrote
  have sent := queued.trans (nlsSendFrame_sent e _ n.audioBuffer false).wrote
  simp only [pushAudio]
  by_cases now : n.sendsNow
  · simp only [now, if_true]
    split
    · exact sent.trans (sendControlDirective_wrote e _)
    · exact sent
  · simp only [now, if_false, Ret.isZero_ok, decide_true, if_true]
    exact queued.trans (sendControlDirective_wrote e _)

theorem addAudioDataBuffer_wrote (e : Env) (n : ConnectNode) (frame : Bytes) :
    Wrote n (n.addAudioDataBuffer e frame).1 := by
  simp only [addAudioDataBuffer]
  split
  · exact Wrote.refl n
  split
  · exact Wrote.refl n
  split
  · exact Wrote.refl n
  rename_i payload _
  split
  · exact Wrote.refl n
  have pushed := pushAudio_wrote e n payload
  split
  · exact pushed.trans (failSend_wrote e _)
  · exact pushed.trans ⟨Or.inl rfl, id, rfl, rfl, rfl, rfl, id⟩

theorem addRemainAudioData_wrote (e : Env) (n : ConnectNode) :
    Wrote n (n.addRemainAudioData e).1 := by
  unfold addRemainAudioData
  split
  · exact Wrote.refl n
  · exact (addAudioDataBuffer_wrote e n _).trans
      ⟨Or.inl rfl, id, rfl, rfl, rfl, rfl, fun _ => rfl⟩

lemma cmdStop_wrote (e : Env) (n : ConnectNode) (message : Bytes) :
    Wrote n (n.cmdSend e .cmdStop message).1 := by
  have stopping : Wrote n { (n.addRemainAudioData e).1 with exitStatus := .exitStopping } :=
    (addRemainAudioData_wrote e n).trans ⟨Or.inl rfl, id, rfl, rfl, rfl, rfl, id⟩
  simp only [cmdSend]
  split
  · exact stopping.trans (sendControlDirective_wrote e _)
  · exact stopping

theorem cmdSend_wrote (e : Env) (n : ConnectNode) (type : CmdType) (message : Bytes) :
    Wrote n (n.cmdSend e type message).1 := by
  cases type with
  | cmdStop => exact cmdStop_wrote e n message
  | cmdCancel => exact ⟨Or.inl rfl, id, rfl, rfl, rfl, rfl, id⟩
  | cmdStControl =>
    have added := addCmdDataBuffer_wrote e n .cmdStControl message
    simp only [cmdSend]
    split
    · exact added.trans (nlsSendFrame_sent e _ _ _).wrote
    · exact added
  | cmdWarkWord =>
    have woken : Wrote n { n with isWakeStop := true } :=
      ⟨Or.inl rfl, id, rfl, rfl, rfl, rfl, id⟩
    simp only [cmdSend]
    split
    · exact woken.trans (addCmd_send_wrote e _ _ _)
    · exact woken
  | cmdSendText =>
    have added := addCmdDataBuffer_wrote e n .cmdSendText message
    simp only [cmdSend]
    split
    · exact (added.trans (nlsSendFrame_sent e _ _ _).wrote).trans
        ⟨Or.inl rfl, id, rfl, rfl, rfl, rfl, id⟩
    · exact added
  | cmdSendPing => exact addCmd_send_wrote e n .cmdSendPing []
  | cmdSendFlush => exact addCmd_send_wrote e n .cmdSendFlush message
  | cmdStart => exact Wrote.refl n
  | cmdTextDialog => exact Wrote.refl n
  | cmdExecuteDialog => exact Wrote.refl n

theorem cmdNotify_wrote (e : Env) (n : ConnectNode) (type : CmdType) (message : Bytes) :
    Wrote n (n.cmdNotify e type message).1 := by
  have sent := cmdSend_wrote e n type message
  simp only [cmdNotify]
  split
  · exact sent.trans (failSend_wrote e _)
  · exact sent

theorem syncPingCmd_wrote (e : Env) (n : ConnectNode) : Wrote n (n.syncPingCmd e).1 := by
  have sent := (nlsSend_sent e n pingFrame).wrote
  simp only [syncPingCmd]
  split
  · exact Wrote.refl n
  · split <;> exact sent

end NlsSdk.Transport.ConnectNode
