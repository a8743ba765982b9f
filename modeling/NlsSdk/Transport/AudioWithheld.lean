import NlsSdk.Transport.TerminalFrames

/-!
# Audio waits for the server

Audio that is handed over before the session has started is kept in its buffer. `audio_withheld`
says that it stays there whole until the user has been told of an event of the server that opens
the way for it, whatever is called and whatever goes wrong before.
-/
namespace NlsSdk.Transport

open NlsSdk.Library

/-- The events of the server behind which audio is written. -/
def opensAudio (type : EventType) : Bool :=
  ConnectNode.isStarted type || type = .wakeWordVerificationCompleted || type = .binary

/-- Frames were put behind what waits in a buffer, and nothing was taken from it. -/
def Grown (before after : EvBuffer) : Prop :=
  ∃ frames : List Bytes, after = frames.foldl ChunkQueue.add before

lemma Grown.refl (q : EvBuffer) : Grown q q := ⟨[], rfl⟩

lemma Grown.trans {q r s : EvBuffer} (h : Grown q r) (h' : Grown r s) : Grown q s := by
  obtain ⟨frames, rfl⟩ := h
  obtain ⟨frames', rfl⟩ := h'
  exact ⟨frames ++ frames', (List.foldl_append).symm⟩

lemma grown_add (q : EvBuffer) (frame : Bytes) : Grown q (q.add frame) := ⟨[frame], rfl⟩

namespace ConnectNode

variable {e : Env} {n m k : ConnectNode}

/-- The statuses in which the audio buffers are written from. -/
def takesAudio (n : ConnectNode) : Bool :=
  n.workStatus = .nodeStarted || n.workStatus = .nodeWakeWording

/-- From `n` to `m` no audio is written, unless an event is told that opens the way for it. -/
def Withheld (n m : ConnectNode) : Prop :=
  ∃ told, m.callbacks = n.callbacks ++ told ∧
    ((∀ c ∈ told, opensAudio c.event.msgType = false) → n.takesAudio = false →
      m.takesAudio = false ∧ ∀ i ≠ .cmd, Grown (n.evBuffer i) (m.evBuffer i))

lemma Withheld.trans (h : Withheld n m) (h' : Withheld m k) : Withheld n k := by
  obtain ⟨told, callbacks, held⟩ := h
  obtain ⟨told', callbacks', held'⟩ := h'
  refine ⟨told ++ told', by rw [callbacks', callbacks, List.append_assoc], ?_⟩
  intro silent closed
  obtain ⟨first, later⟩ := List.forall_mem_append.mp silent
  obtain ⟨between, grown⟩ := held first closed
  obtain ⟨still, grown'⟩ := held' later between
  exact ⟨still, fun i audio => (grown i audio).trans (grown' i audio)⟩

/-- Nothing is told, and at most commands are queued and written. -/
lemma Withheld.still (callbacks : m.callbacks = n.callbacks)
    (status : n.takesAudio = false → m.takesAudio = false)
    (buffers : ∀ i ≠ .cmd, m.evBuffer i = n.evBuffer i) : Withheld n m := by
  refine ⟨[], by rw [callbacks, List.append_nil], fun _ closed => ⟨status closed, ?_⟩⟩
  intro i audio
  rw [buffers i audio]
  exact Grown.refl _

lemma Withheld.refl (n : ConnectNode) : Withheld n n := .still rfl id fun _ _ => rfl

lemma Withheld.aside (h : Withheld n m) (callbacks : k.callbacks = m.callbacks)
    (status : m.takesAudio = false → k.takesAudio = false)
    (buffers : ∀ i ≠ .cmd, k.evBuffer i = m.evBuffer i) : Withheld n k :=
  h.trans (.still callbacks status buffers)

/-- Behind the event that opens the way, anything may be written. -/
lemma Withheld.opened (h : Withheld n m) (takes : m.takesAudio = true)
    (callbacks : k.callbacks = m.callbacks) : Withheld n k := by
  obtain ⟨told, before, held⟩ := h
  refine ⟨told, callbacks.trans before, fun silent closed => ?_⟩
  rw [(held silent closed).1] at takes
  cases takes

/-! ## Callbacks -/

lemma takesAudio_of_workStatus (same : m.workStatus = n.workStatus) :
    n.takesAudio = false → m.takesAudio = false := by
  unfold takesAudio
  rw [same]
  exact id

/-- In another status no audio is written. -/
lemma takesAudio_eq_false (st : ConnectStatus) (started : st ≠ .nodeStarted)
    (wakeWording : st ≠ .nodeWakeWording) (same : m.workStatus = st) : m.takesAudio = false := by
  subst same
  simp [takesAudio, started, wakeWording]

lemma handlerFrame_withheld (e : Env) (n : ConnectNode) (event : NlsEvent) :
    Withheld n (n.handlerFrame e event).1 := by
  have told := handlerFrame_callbacks e n event
  obtain ⟨r, same⟩ := handlerFrame_calledBack e n event
  have status : (n.handlerFrame e event).1.workStatus = n.workStatus := by rw [same]
  have buffers : (n.handlerFrame e event).1.evBuffer = n.evBuffer := by rw [same]
  obtain callbacks | ⟨c, -, callbacks⟩ := told
  · exact .still callbacks (takesAudio_of_workStatus status) fun i _ => congrFun buffers i
  · refine ⟨[c], callbacks, fun _ closed => ⟨takesAudio_of_workStatus status closed, ?_⟩⟩
    intro i _
    rw [buffers]
    exact Grown.refl _

lemma handlerEvent_withheld (e : Env) (n : ConnectNode) (msg : Bytes) (code : ℤ)
    (type : EventType) : Withheld n (n.handlerEvent e msg code type) := by
  have noted : Withheld n (n.noteErrorCode code) := by
    unfold noteErrorCode
    split
    · exact .refl n
    · exact .still rfl id fun _ _ => rfl
  have handled (event : NlsEvent) := noted.trans (handlerFrame_withheld e _ event)
  unfold handlerEvent report
  split
  · exact .refl n
  split
  · exact noted
  dsimp only
  split
  · exact (handled _).aside rfl (fun _ => rfl) fun _ _ => rfl
  · exact handled _

lemma handlerClose_withheld (e : Env) (n : ConnectNode) : Withheld n (n.handlerClose e) :=
  handlerEvent_withheld e n _ _ _

lemma handlerTaskFailedEvent_withheld (e : Env) (n : ConnectNode) (info : Bytes) (code : ℤ) :
    Withheld n (n.handlerTaskFailedEvent e info code) :=
  (handlerEvent_withheld e n _ _ _).trans (handlerClose_withheld e _)

lemma closeConnectNode_withheld (n : ConnectNode) : Withheld n n.closeConnectNode :=
  .still rfl id fun _ _ => rfl

lemma failSend_withheld (e : Env) (n : ConnectNode) : Withheld n (n.failSend e) := by
  have ended : Withheld n n.disconnectProcess := .still rfl id fun _ _ => rfl
  exact ended.trans (handlerTaskFailedEvent_withheld e _ _ _)

lemma failEvent_withheld (e : Env) (n : ConnectNode) (text : String) (code : ℤ) :
    Withheld n (n.failEvent e text code) :=
  (closeConnectNode_withheld n).trans (handlerTaskFailedEvent_withheld e _ _ _)

lemma sendFakeSynthesisStarted_withheld (e : Env) (n : ConnectNode) :
    Withheld n (n.sendFakeSynthesisStarted e) := by
  unfold sendFakeSynthesisStarted
  split
  · exact handlerFrame_withheld e n _
  · exact .refl n

lemma orDestroy_withheld {result : ConnectNode × Ret} (h : Withheld n result.1) :
    Withheld n (orDestroy result) := by
  unfold orDestroy destroyConnectNode
  split_ifs
  · exact h
  · exact h.aside rfl id fun _ _ => rfl
  · exact h.aside rfl id fun _ _ => rfl
  · exact h

/-! ## Sends -/

lemma Sent.callbacks (h : Sent n m) : m.callbacks = n.callbacks := h.quiet.callbacks

/-- Writing commands leaves audio where it is. -/
lemma nlsSendFrame_withheld (e : Env) (n : ConnectNode) :
    Withheld n (n.nlsSendFrame e .cmd false).1 := by
  have sent := (nlsSendFrame_sent e n .cmd false).quiet
  obtain ⟨k, written⟩ := nlsSendFrame_wire e n .cmd false
  refine .still sent.callbacks (takesAudio_of_workStatus sent.workStatus) fun i audio => ?_
  have buffers := congrArg Wire.evBuffer written
  exact (congrFun buffers i).trans (Function.update_of_ne audio _ _)

lemma addCmdDataBuffer_withheld (e : Env) (n : ConnectNode) (type : CmdType) (message : Bytes) :
    Withheld n (n.addCmdDataBuffer e type message) := by
  have starting : Withheld n (if type = .cmdStart then
      { n with reconnection := { n.reconnection with state := .newReconnectionStarting } }
      else n) := by
    split
    · exact .still rfl id fun _ _ => rfl
    · exact .refl n
  simp only [addCmdDataBuffer]
  split
  · exact .refl n
  split
  · exact starting
  · exact starting.aside rfl id fun i audio => Function.update_of_ne audio _ _

lemma addCmd_send_withheld (e : Env) (n : ConnectNode) (type : CmdType) (message : Bytes) :
    Withheld n ((n.addCmdDataBuffer e type message).nlsSendFrame e .cmd false).1 :=
  (addCmdDataBuffer_withheld e n type message).trans (nlsSendFrame_withheld e _)

lemma sendControlDirective_withheld (e : Env) (n : ConnectNode) :
    Withheld n (n.sendControlDirective e).1 := by
  unfold sendControlDirective
  split
  · split
    · exact nlsSendFrame_withheld e n
    · exact .refl n
  · split
    · exact (addCmd_send_withheld e n .cmdStop []).aside rfl id fun _ _ => rfl
    · exact .refl n

/-- Audio goes behind what waits in its buffer, and is sent only in a running session. -/
lemma pushAudio_withheld (e : Env) (n : ConnectNode) (payload : Bytes) :
    Withheld n (n.pushAudio e payload).1 := by
  by_cases now : n.sendsNow
  · have takes : n.takesAudio = true := by
      obtain started | wakeWording := now.2.1
      · simp [takesAudio, started]
      · simp [takesAudio, wakeWording]
    exact (Withheld.refl n).opened takes (pushAudio_quiet e n payload).callbacks
  · have queued : Withheld n (n.evbufferAdd n.audioBuffer (binaryFrame payload)) := by
      refine ⟨[], (List.append_nil _).symm, fun _ closed => ⟨closed, fun i _ => ?_⟩⟩
      by_cases own : i = n.audioBuffer
      · subst own
        simp only [evbufferAdd, Function.update_self]
        exact grown_add _ _
      · simp only [evbufferAdd, Function.update_of_ne own]
        exact Grown.refl _
    simp only [pushAudio, now, if_false, Ret.isZero_ok, decide_true, if_true]
    exact queued.trans (sendControlDirective_withheld e _)

lemma addAudioDataBuffer_withheld (e : Env) (n : ConnectNode) (frame : Bytes) :
    Withheld n (n.addAudioDataBuffer e frame).1 := by
  simp only [addAudioDataBuffer]
  split
  · exact .refl n
  split
  · exact .refl n
  split
  · exact .refl n
  rename_i payload _
  split
  · exact .refl n
  have pushed := pushAudio_withheld e n payload
  split
  · exact pushed.trans (failSend_withheld e _)
  · exact pushed.aside rfl id fun _ _ => rfl

lemma cmdStop_withheld (e : Env) (n : ConnectNode) (message : Bytes) :
    Withheld n (n.cmdSend e .cmdStop message).1 := by
  have rest : Withheld n (n.addRemainAudioData e).1 := by
    unfold addRemainAudioData
    split
    · exact .refl n
    · exact (addAudioDataBuffer_withheld e n _).aside rfl id fun _ _ => rfl
  have stopping : Withheld n { (n.addRemainAudioData e).1 with exitStatus := .exitStopping } :=
    rest.aside rfl id fun _ _ => rfl
  simp only [cmdSend]
  split
  · exact stopping.trans (sendControlDirective_withheld e _)
  · exact stopping

lemma cmdSend_withheld (e : Env) (n : ConnectNode) (type : CmdType) (message : Bytes) :
    Withheld n (n.cmdSend e type message).1 := by
  have sent := addCmd_send_withheld e n type message
  cases type with
  | cmdStop => exact cmdStop_withheld e n message
  | cmdCancel => exact .still rfl id fun _ _ => rfl
  | cmdStControl =>
    simp only [cmdSend]
    split
    · exact sent
    · exact addCmdDataBuffer_withheld e n _ _
  | cmdWarkWord =>
    have woken : Withheld n { n with isWakeStop := true } := .still rfl id fun _ _ => rfl
    simp only [cmdSend]
    split
    · exact woken.trans (addCmd_send_withheld e _ _ _)
    · exact woken
  | cmdSendText =>
    simp only [cmdSend]
    split
    · exact sent.aside rfl id fun _ _ => rfl
    · exact addCmdDataBuffer_withheld e n _ _
  | cmdSendPing => exact addCmd_send_withheld e n .cmdSendPing []
  | cmdSendFlush => exact sent
  | cmdStart => exact .refl n
  | cmdTextDialog => exact .refl n
  | cmdExecuteDialog => exact .refl n

lemma cmdNotify_withheld (e : Env) (n : ConnectNode) (type : CmdType) (message : Bytes) :
    Withheld n (n.cmdNotify e type message).1 := by
  have sent := cmdSend_withheld e n type message
  simp only [cmdNotify]
  split
  · exact sent.trans (failSend_withheld e _)
  · exact sent

lemma syncPingCmd_withheld (e : Env) (n : ConnectNode) : Withheld n (n.syncPingCmd e).1 := by
  have quiet := syncPingCmd_quiet e n
  refine .still quiet.callbacks (takesAudio_of_workStatus quiet.workStatus) fun i _ => ?_
  have pinged : (n.nlsSend e pingFrame).1.evBuffer = n.evBuffer := by
    simp only [nlsSend]
    split
    · rfl
    · split <;> rfl
  simp only [syncPingCmd]
  split
  · rfl
  · split <;> exact congrFun pinged i

/-! ## Write events -/

lemma gatewayRequest_withheld (e : Env) (n : ConnectNode) :
    Withheld n (n.gatewayRequest e).1 := by
  unfold gatewayRequest
  split
  · exact .refl n
  split
  · exact .refl n
  split
  · exact .refl n
  · exact .still rfl id fun i audio => Function.update_of_ne audio _ _

lemma requestSend_withheld (e : Env) (n : ConnectNode) : Withheld n (n.requestSend e).1 := by
  by_cases upgrading : n.workStatus = .nodeHandshaking
  · have sent := (gatewayRequest_withheld e n).trans (nlsSendFrame_withheld e _)
    simp only [requestSend, upgrading]
    exact sent.aside rfl (fun _ => rfl) fun _ _ => rfl
  by_cases takes : n.takesAudio = true
  · exact (Withheld.refl n).opened takes (requestSend_quiet e upgrading).callbacks
  · simp only [takesAudio, Bool.or_eq_true, decide_eq_true_eq, not_or] at takes
    unfold requestSend
    split
    · exact absurd ‹_› upgrading
    · exact nlsSendFrame_withheld e n
    · exact nlsSendFrame_withheld e n
    · exact absurd ‹_› takes.2
    · exact absurd ‹_› takes.1
    · exact .refl n

lemma nodeRequestProcess_withheld (e : Env) (n : ConnectNode) :
    Withheld n (n.nodeRequestProcess e).1 := by
  have sent := requestSend_withheld e n
  simp only [nodeRequestProcess]
  split
  · exact .refl n
  split
  · exact (sent.trans (handlerTaskFailedEvent_withheld e _ _ _)).trans
      (closeConnectNode_withheld _)
  · exact sent

/-! ## Received frames -/

/-- Only the ends of a session are kept from the user. -/
lemma ignoreCallback_opens (e : Env) (n : ConnectNode) {type : EventType} (code : ℤ)
    (opens : opensAudio type = true) : (n.ignoreCallbackWhenReconnecting e type code).2 = false := by
  have goes : ¬ (type = .taskFailed ∨ type = .close) := by
    rintro (rfl | rfl)
    · cases opens
    · cases opens
  simp only [ignoreCallbackWhenReconnecting]
  split
  · rw [if_neg fun ends => goes ends.2]
  · rfl

/-- An event that opens the way for audio is told. -/
lemma handlerFrame_opens {event : NlsEvent} (opens : opensAudio event.msgType = true) {k : ℕ}
    (handled : (n.handlerFrame e event).2 = .ok k) :
    ∃ c : Callback, c.event = event ∧
      (n.handlerFrame e event).1.callbacks = n.callbacks ++ [c] := by
  have kept := ignoreCallback_opens e (n.updateTwIndexOffset event) event.statusCode opens
  have before : ((n.updateTwIndexOffset event).ignoreCallbackWhenReconnecting e event.msgType
      event.statusCode).1.callbacks = n.callbacks := by
    rw [ignoreCallback_callbacks]
    unfold updateTwIndexOffset
    split <;> rfl
  have heard (m : ConnectNode) :
      m.ignoreCallbackWhenNodeClosedWhenLongConnection event.msgType = false := by
    have other : event.msgType ≠ .taskFailed := by
      intro failed
      rw [failed] at opens
      cases opens
    simp [ignoreCallbackWhenNodeClosedWhenLongConnection, other]
  unfold handlerFrame at handled ⊢
  split at handled
  · cases handled
  split at handled
  · cases handled
  rename_i valid handler
  rw [if_neg valid, if_neg handler]
  dsimp only
  rw [kept, heard, afterCallback_callbacks, if_neg (by simp)]
  exact ⟨_, rfl, congrArg (· ++ [_]) before⟩

/-- Behind any other event no audio is written either. -/
lemma statusAfter_takesAudio {type : EventType} (other : opensAudio type = false) :
    n.takesAudio = false → (n.statusAfter type).takesAudio = false := by
  intro closed
  cases type with
  | recognitionStarted => cases other
  | transcriptionStarted => cases other
  | synthesisStarted => cases other
  | wakeWordVerificationCompleted => cases other
  | binary => cases other
  | taskFailed =>
    unfold statusAfter
    dsimp only
    split
    · exact closed
    · rfl
  | close | recognitionCompleted | transcriptionCompleted | synthesisCompleted => rfl
  | _ => exact closed

lemma closeSession_withheld (e : Env) (n : ConnectNode) (ignore : Bool) :
    Withheld n (n.closeSession e ignore) := by
  have close (m : ConnectNode) (callbacks : m.callbacks = n.callbacks)
      (status : m.workStatus = n.workStatus) (buffers : m.evBuffer = n.evBuffer) :
      Withheld n (m.handlerClose e) := by
    have aside : Withheld n m :=
      .still callbacks (takesAudio_of_workStatus status) fun i _ => congrFun buffers i
    exact aside.trans (handlerClose_withheld e m)
  simp only [closeSession]
  split_ifs
  · exact close _ rfl rfl rfl
  · exact close _ rfl rfl rfl
  · exact close _ rfl rfl rfl
  · exact .still rfl id fun _ _ => rfl
  · exact close _ rfl rfl rfl

lemma handleEvent_withheld (e : Env) (n : ConnectNode) (event : NlsEvent) :
    Withheld n (n.handleEvent e event).1 := by
  have adopted : Withheld n (n.adoptTaskId event) := by
    unfold adoptTaskId
    split
    · exact .still rfl id fun _ _ => rfl
    · exact .refl n
  have told := adopted.trans (handlerFrame_withheld e _ event)
  unfold handleEvent
  split
  · exact .refl n
  dsimp only
  split
  · exact told
  rename_i k handled
  have moved : Withheld n (((n.adoptTaskId event).handlerFrame e event).1.statusAfter
      event.msgType) := by
    have callbacks := statusAfter_callbacks ((n.adoptTaskId event).handlerFrame e event).1
      event.msgType
    have buffers := evBuffer_of_unheard
      (unheard_statusAfter ((n.adoptTaskId event).handlerFrame e event).1 event.msgType)
    rcases Bool.eq_false_or_eq_true (opensAudio event.msgType) with opens | other
    · obtain ⟨c, rfl, called⟩ := handlerFrame_opens opens handled
      refine ⟨[c], ?_, fun silent _ => ?_⟩
      · rw [callbacks, called, adoptTaskId_callbacks]
      · rw [silent c (List.mem_singleton_self c)] at opens
        cases opens
    · exact told.aside callbacks (statusAfter_takesAudio other) fun i _ => congrFun buffers i
  split
  · exact moved.trans (closeSession_withheld e _ _)
  · exact moved

lemma convertResult_withheld (e : Env) (n : ConnectNode) (buffer : Bytes)
    (frame : WebSocketFrame) : Withheld n (n.convertResult e buffer frame).1 := by
  have text (result : Bytes) : Withheld n (n.convertText e result).1 := by
    unfold convertText
    split
    · exact handlerEvent_withheld e n _ _ _
    split
    · exact .refl n
    · exact .refl n
    · exact handlerEvent_withheld e n _ _ _
  simp only [convertResult]
  split
  · exact .refl n
  split
  · exact .refl n
  · exact text _
  · exact handlerEvent_withheld e n _ _ _

lemma deliverFrame_withheld (e : Env) (n : ConnectNode) (buffer : Bytes)
    (frame : WebSocketFrame) : Withheld n (n.deliverFrame e buffer frame).1 := by
  have converted := convertResult_withheld e n buffer frame
  have parsed : Withheld n (n.parseFrame e buffer frame).1 := by
    simp only [parseFrame]
    split
    · exact .refl n
    split
    · split
      · exact handleEvent_withheld e n _
      · exact closeConnectNode_withheld n
    · exact .refl n
    split
    · exact converted.trans (handleEvent_withheld e _ _)
    · exact converted
    · exact converted
    · exact (converted.trans (closeConnectNode_withheld _)).trans (handlerClose_withheld e _)
  simp only [deliverFrame]
  split
  · exact .refl n
  split <;> exact parsed

lemma withReader_withheld (e : Env) (n : ConnectNode) (r : Reader) (ret : Ret) :
    Withheld n (n.withReader e r ret).1 := by
  simp only [withReader]
  split
  · exact .still rfl id fun _ _ => rfl
  · exact .still rfl id fun _ _ => rfl

lemma webSocketResponse_withheld (e : Env) (n : ConnectNode) :
    Withheld n (n.webSocketResponse e).1 := by
  have kept : Withheld n (n.reader.webSocketResponse (deliverFrame e)
      (fun n => n.channel.isOpen) n).2.1 :=
    Reader.webSocketResponse_keeps (K := fun m => Withheld n m)
      (fun m buffer frame held => held.trans (deliverFrame_withheld e m buffer frame)) _
      (.refl n)
  simp only [webSocketResponse]
  split
  · exact .refl n
  · exact kept.trans (withReader_withheld e _ _ _)

lemma responseUpgrade_withheld (e : Env) (n : ConnectNode) :
    Withheld n (n.responseUpgrade e).1 := by
  have answered : Withheld n (n.gatewayResponse e).1 := by
    simp only [gatewayResponse]
    split
    · exact .still rfl id fun _ _ => rfl
    · exact .still rfl id fun _ _ => rfl
    · exact withReader_withheld e n _ _
  have starting : Withheld n { (n.gatewayResponse e).1 with workStatus := .nodeStarting } :=
    answered.aside rfl (fun _ => rfl) fun _ _ => rfl
  have sent := starting.trans (addCmd_send_withheld e _ (startCommand
    { (n.gatewayResponse e).1 with workStatus := .nodeStarting }) [])
  simp only [responseUpgrade]
  split
  · split
    · exact starting
    · dsimp only
      split
      · exact sent
      · exact sent.trans (sendFakeSynthesisStarted_withheld e _)
  · exact answered

/-- What waited for the session goes out once a frame has started it. -/
lemma responseStarting_withheld (e : Env) (n : ConnectNode) :
    Withheld n (n.responseStarting e).1 := by
  have read := webSocketResponse_withheld e n
  have sent := (nlsSendFrame_sent e (n.webSocketResponse e).1 .binary true).quiet
  have said := (nlsSendFrame_sent e (n.webSocketResponse e).1 .wwv false).quiet
  simp only [responseStarting]
  split
  · rename_i started
    have takes : (n.webSocketResponse e).1.takesAudio = true := by simp [takesAudio, started]
    split
    · exact read.opened takes (sent.trans (sendControlDirective_quiet e _)).callbacks
    · exact read.opened takes sent.callbacks
  split
  · rename_i wakeWording
    have takes : (n.webSocketResponse e).1.takesAudio = true := by simp [takesAudio, wakeWording]
    exact read.opened takes said.callbacks
  · exact read

lemma nodeResponseProcess_withheld (e : Env) (n : ConnectNode) :
    Withheld n (n.nodeResponseProcess e).1 := by
  have read : Withheld n (n.responseRead e).1 := by
    unfold responseRead
    split
    · exact responseUpgrade_withheld e n
    · exact responseUpgrade_withheld e n
    · exact responseStarting_withheld e n
    · exact responseStarting_withheld e n
    · exact webSocketResponse_withheld e n
    · split
      · exact webSocketResponse_withheld e n
      · exact .refl n
    · split
      · exact webSocketResponse_withheld e n
      · exact .refl n
    · exact .refl n
    · exact .refl n
  have failed (info : Bytes) (code : ℤ) :=
    (read.trans (closeConnectNode_withheld _)).trans (handlerTaskFailedEvent_withheld e _ info code)
  simp only [nodeResponseProcess]
  split
  · exact .refl n
  split
  · exact .refl n
  split
  · exact read
  · exact read
  · exact read
  · exact read
  split_ifs
  · exact read
  · exact read
  · exact failed _ _

/-! ## Connecting -/

lemma Withheld.from (h : Withheld m k) (callbacks : m.callbacks = n.callbacks)
    (status : n.takesAudio = false → m.takesAudio = false)
    (buffers : ∀ i ≠ .cmd, m.evBuffer i = n.evBuffer i) : Withheld n k :=
  (Withheld.still callbacks status buffers).trans h

lemma connectAttempt_withheld {connect : ConnectNode → SocketState → ConnectNode}
    (connects : ∀ socket, Withheld n (connect n socket)) {retry : ConnectNode → ConnectNode}
    (again : Withheld n.backToConnecting (retry n.backToConnecting)) (attempt : Attempt) :
    Withheld n (n.connectAttempt e connect retry attempt) := by
  have retried : Withheld n (retry n.backToConnecting) :=
    again.from rfl (fun _ => rfl) fun _ _ => rfl
  unfold connectAttempt
  split
  · exact retried
  cases attempt with
  | pending => exact connects _
  | connected => exact (connects .connecting).aside rfl (fun _ => rfl) fun _ _ => rfl
  | handshaking =>
    have upgrading : Withheld n { connect n .established with
        workStatus := .nodeHandshaking, isConnected := true } :=
      (connects .established).aside rfl (fun _ => rfl) fun _ _ => rfl
    exact orDestroy_withheld (upgrading.trans (nodeRequestProcess_withheld e _))
  | parseUrlFailed => exact retried
  | invalidDnsSource => exact retried
  | failed => exact retried

lemma dnsProcess_withheld_of {attempts : List Attempt}
    (again : ∀ attempt rest, attempts = attempt :: rest →
      ∀ m, Withheld m (dnsProcess e rest m).1) :
    Withheld n (dnsProcess e attempts n).1 := by
  unfold dnsProcess
  split
  · exact .refl n
  split
  · exact .refl n
  split
  · have started : Withheld n { n with workStatus := .nodeStarting } :=
      .still rfl (fun _ => rfl) fun _ _ => rfl
    have sent := started.trans (addCmd_send_withheld e _ (startCommand { n with
      workStatus := .nodeStarting }) [])
    dsimp only
    split
    · exact (sent.trans (handlerTaskFailedEvent_withheld e _ _ _)).trans
        (closeConnectNode_withheld _)
    · exact sent
  split
  · have reset : Withheld n { n with retryConnectCount := 0 } := .still rfl id fun _ _ => rfl
    exact reset.trans (handlerTaskFailedEvent_withheld e _ _ _)
  have counted : Withheld n n.countConnect := .still rfl (fun _ => rfl) fun _ _ => rfl
  cases attempts with
  | nil => exact counted.aside rfl id fun _ _ => rfl
  | cons attempt rest =>
    have tried : Withheld n (n.countConnect.connectAttempt e connectProcess
        (fun m => orDestroy (dnsProcess e rest m)) attempt) := by
      have retried := orDestroy_withheld (again attempt rest rfl n.countConnect.backToConnecting)
      have connects (socket : SocketState) :
          Withheld n.countConnect (n.countConnect.connectProcess socket) :=
        .still rfl id fun _ _ => rfl
      exact counted.trans (connectAttempt_withheld connects retried attempt)
    cases attempt with
    | parseUrlFailed => exact counted
    | invalidDnsSource => exact counted
    | pending => exact tried
    | failed => exact tried
    | connected => exact tried
    | handshaking => exact tried

/-- Connecting writes no audio, however often it is tried again. -/
theorem dnsProcess_withheld (attempts : List Attempt) (n : ConnectNode) :
    Withheld n (dnsProcess e attempts n).1 := by
  induction attempts generalizing n with
  | nil =>
    apply dnsProcess_withheld_of
    intro attempt rest absurd
    cases absurd
  | cons attempt rest ih =>
    apply dnsProcess_withheld_of
    intro attempt' rest' same
    cases same
    exact ih

lemma continueConnect_withheld {connect : ConnectNode → SocketState → ConnectNode}
    (connects : ∀ socket, Withheld n (connect n socket)) :
    Withheld n (n.continueConnect e connect) := by
  unfold continueConnect
  cases e.attempts with
  | nil => exact .refl n
  | cons attempt rest =>
    exact connectAttempt_withheld connects (orDestroy_withheld (dnsProcess_withheld rest _)) attempt

/-! ## Events of the loop -/

lemma launchEventCallback_withheld : Withheld n (n.launchEventCallback e) := by
  unfold launchEventCallback
  split
  · exact .refl n
  split
  · exact .still rfl (fun _ => rfl) fun _ _ => rfl
  · exact (orDestroy_withheld (dnsProcess_withheld e.attempts _)).from rfl (fun _ => rfl)
      fun _ _ => rfl

lemma connectEventCallback_withheld (timeout : Bool) :
    Withheld n (n.connectEventCallback e timeout) := by
  unfold connectEventCallback
  split
  · exact (orDestroy_withheld (dnsProcess_withheld e.attempts _)).from rfl (fun _ => rfl)
      fun _ _ => rfl
  split
  · split
    · exact .still rfl id fun _ _ => rfl
    · exact continueConnect_withheld fun _ => .still rfl id fun _ _ => rfl
  · exact .refl n

lemma dnsEventCallback_withheld (failed : Bool) : Withheld n (n.dnsEventCallback e failed) := by
  unfold dnsEventCallback
  split
  · exact .refl n
  split
  · exact (orDestroy_withheld (dnsProcess_withheld e.attempts _)).from rfl (fun _ => rfl)
      fun _ _ => rfl
  · exact continueConnect_withheld fun _ => .still rfl id fun _ _ => rfl

lemma startWithPoolEventCallback_withheld (e : Env) (n : ConnectNode) :
    Withheld n (n.startWithPoolEventCallback e) := by
  have starting : Withheld n { n with
      readEvent := true, writeEvent := true, workStatus := .nodeStarting } :=
    .still rfl (fun _ => rfl) fun _ _ => rfl
  have sent := starting.trans (addCmd_send_withheld e _ .cmdStart [])
  unfold startWithPoolEventCallback
  split
  · exact .refl n
  dsimp only
  split
  · exact sent.trans (sendFakeSynthesisStarted_withheld e _)
  · exact sent

lemma singleRoundTextEventCallback_withheld (e : Env) (n : ConnectNode) :
    Withheld n (n.singleRoundTextEventCallback e) := by
  have sent := (cmdNotify_withheld e n .cmdSendText n.param.singleRoundText).trans
    (cmdNotify_withheld e _ .cmdStop [])
  unfold singleRoundTextEventCallback
  split
  · exact .refl n
  split
  · exact .refl n
  · exact sent.aside rfl id fun _ _ => rfl

lemma writeEventCallBack_withheld (e : Env) (n : ConnectNode) (what : EventKind) :
    Withheld n (n.writeEventCallBack e what) := by
  have handled {m : ConnectNode} (held : Withheld n m) :
      Withheld n (if m.workStatus = .nodeInvalid then m.destroyConnectNode else m) := by
    unfold destroyConnectNode
    split_ifs
    · exact held
    · exact held.aside rfl id fun _ _ => rfl
    · exact held.aside rfl id fun _ _ => rfl
    · exact held
  unfold writeEventCallBack
  split
  · exact .refl n
  split
  · exact closeConnectNode_withheld n
  cases what with
  | ready => exact handled (nodeRequestProcess_withheld e n)
  | timeout => exact handled (failEvent_withheld e n _ _)
  | unknown => exact handled (failEvent_withheld e n _ _)

lemma readEventCallBack_withheld (e : Env) (n : ConnectNode) (what : EventKind) :
    Withheld n (n.readEventCallBack e what) := by
  have read := nodeResponseProcess_withheld e n
  unfold readEventCallBack
  split
  · exact .refl n
  split
  · exact closeConnectNode_withheld n
  cases what with
  | ready =>
    dsimp only
    split
    · exact read.trans (closeConnectNode_withheld _)
    · exact read
  | timeout => exact failEvent_withheld e n _ _
  | unknown => exact failEvent_withheld e n _ _

lemma start_withheld (e : Env) (n : ConnectNode) : Withheld n (n.start e) := by
  unfold start
  dsimp only
  split_ifs
  all_goals exact .still rfl (fun closed => by first | exact closed | rfl) fun _ _ => rfl

theorem nodeStep_withheld (n : ConnectNode) (input : NodeInput) :
    Withheld n (nodeStep n input) := by
  obtain ⟨op, e⟩ := input
  have env (m : ConnectNode) (h : Withheld (n.withEnv e) m) : Withheld n m :=
    h.from rfl id fun _ _ => rfl
  cases op with
  | start => exact env _ (start_withheld e _)
  | sendAudio frame => exact env _ (addAudioDataBuffer_withheld e _ frame)
  | keepAudio frame => exact .still rfl id fun _ _ => rfl
  | cmdNotify type message => exact env _ (cmdNotify_withheld e _ type message)
  | syncPingCmd => exact env _ (syncPingCmd_withheld e _)
  | launchEvent =>
    refine env _ ?_
    simp only [nodeStep, NodeOp.step]
    split
    · exact launchEventCallback_withheld.from rfl id fun _ _ => rfl
    · exact .refl _
  | reconnectEvent =>
    refine env _ ?_
    simp only [nodeStep, NodeOp.step]
    split
    · exact launchEventCallback_withheld.from rfl id fun _ _ => rfl
    · exact .refl _
  | dnsEvent failed =>
    refine env _ ?_
    simp only [nodeStep, NodeOp.step]
    split
    · exact (dnsEventCallback_withheld failed).from rfl id fun _ _ => rfl
    · exact .refl _
  | connectEvent timeout =>
    refine env _ ?_
    simp only [nodeStep, NodeOp.step]
    split
    · exact (connectEventCallback_withheld timeout).from rfl id fun _ _ => rfl
    · exact .refl _
  | startWithPoolEvent =>
    refine env _ ?_
    simp only [nodeStep, NodeOp.step]
    split
    · exact (startWithPoolEventCallback_withheld e _).from rfl id fun _ _ => rfl
    · exact .refl _
  | singleRoundTextEvent =>
    refine env _ ?_
    simp only [nodeStep, NodeOp.step]
    split
    · exact (singleRoundTextEventCallback_withheld e _).from rfl id fun _ _ => rfl
    · exact .refl _
  | readEvent what =>
    refine env _ ?_
    simp only [nodeStep, NodeOp.step]
    split
    · exact readEventCallBack_withheld e _ what
    · exact .refl _
  | writeEvent what =>
    refine env _ ?_
    simp only [nodeStep, NodeOp.step]
    split
    · exact writeEventCallBack_withheld e _ what
    · exact .refl _

theorem nodeRun_withheld (n : ConnectNode) (inputs : List NodeInput) :
    Withheld n (nodeRun n inputs) := by
  induction inputs generalizing n with
  | nil => exact .refl n
  | cons input inputs ih => exact (nodeStep_withheld n input).trans (ih _)

/-- From a node outside a running session on, as long as the user is told of no event that opens
the way for audio, the session does not run and nothing is taken from the audio buffers: they are
what they were with frames behind it. -/
theorem audio_withheld {n : ConnectNode} (closed : n.takesAudio = false) {inputs : List NodeInput}
    (untold : ∀ c ∈ (nodeRun n inputs).callbacks.drop n.callbacks.length,
      opensAudio c.event.msgType = false) :
    (nodeRun n inputs).takesAudio = false ∧
      ∀ i ≠ .cmd, Grown (n.evBuffer i) ((nodeRun n inputs).evBuffer i) := by
  obtain ⟨told, callbacks, held⟩ := nodeRun_withheld n inputs
  rw [callbacks, List.drop_left] at untold
  exact held untold closed

/-- A transcription that is started while a frame of an earlier connection still waits. -/
def leftOver : ConnectNode :=
  transcription.evbufferAdd .binary (binaryFrame [1, 2])

/-- The launch and the upgrade leave the frame where it is. -/
theorem audio_withheld_leftOver :
    (nodeRun leftOver (startSession.take 3)).takesAudio = false ∧
      ∀ i ≠ .cmd, Grown (leftOver.evBuffer i)
        ((nodeRun leftOver (startSession.take 3)).evBuffer i) :=
  audio_withheld (by decide) (by decide +kernel)

end ConnectNode

end NlsSdk.Transport
