import NlsSdk.Transport.SafeCalls

/-!
# Steps on an open connection

The reads and the remaining callbacks under a discipline, and with them every
step that opens no connection.
-/
namespace NlsSdk.Transport

open NlsSdk.Library

namespace ConnectNode

variable {e : Env} {n m : ConnectNode} {d : Discipline}

/-! ## The read event -/

lemma isPreNodeStartStepByStep_gatewayResponse (e : Env) (n : ConnectNode) :
    (n.gatewayResponse e).1.isPreNodeStartStepByStep = n.isPreNodeStartStepByStep := by
  simp only [gatewayResponse, withReader]
  split
  · rfl
  · rfl
  split <;> rfl

lemma responseUpgrade_keeps (inv : d.Inv n.wire)
    (safe : AllSafe d n (if (n.gatewayResponse e).2.isZero ∧ !n.isPreNodeStartStepByStep then
      [.cmd] else [])) :
    d.Inv (n.responseUpgrade e).1.wire := by
  have answered : d.Inv (n.gatewayResponse e).1.wire := by rwa [wire_gatewayResponse]
  simp only [responseUpgrade]
  split
  case isFalse => exact answered
  case isTrue zero =>
    split
    case isTrue => exact answered
    case isFalse starts =>
      rw [isPreNodeStartStepByStep_gatewayResponse] at starts
      have cmdSafe : d.Safe (n.gatewayResponse e).1.wire .cmd := by
        rw [wire_gatewayResponse]
        exact safe .cmd (by simp [zero, starts])
      have sent (type : CmdType) := addCmd_send_keeps (e := e)
        (n := { (n.gatewayResponse e).1 with workStatus := .nodeStarting }) answered cmdSafe type []
      split
      · exact sent _
      · simpa using sent _

lemma responseStarting_keeps (inv : d.Inv n.wire)
    (safe : AllSafe d (n.webSocketResponse e).1
      (if (n.webSocketResponse e).1.workStatus = .nodeStarted then
        (n.webSocketResponse e).1.startedSources
      else if (n.webSocketResponse e).1.workStatus = .nodeWakeWording ∧
          ((n.webSocketResponse e).1.evBuffer .wwv).length ≠ 0 then [.wwv] else [])) :
    d.Inv (n.responseStarting e).1.wire := by
  have read : d.Inv (n.webSocketResponse e).1.wire := by rwa [wire_webSocketResponse]
  simp only [responseStarting]
  split
  case isTrue started => exact started_keeps read (by rwa [if_pos started] at safe)
  case isFalse other =>
    rw [if_neg other] at safe
    split
    case isFalse => exact read
    case isTrue waiting =>
      by_cases empty : ((n.webSocketResponse e).1.evBuffer .wwv).length = 0
      · simpa [nlsSendFrame, empty] using read
      · exact nlsSendFrame_keeps read (safe .wwv (by simp [waiting, empty])) false

theorem responseRead_keeps (inv : d.Inv n.wire)
    (safe : AllSafe d n (n.responseSources e)) : d.Inv (n.responseRead e).1.wire := by
  have read : d.Inv (n.webSocketResponse e).1.wire := by rwa [wire_webSocketResponse]
  have sameWire (i : Output) : d.Safe (n.webSocketResponse e).1.wire i ↔ d.Safe n.wire i := by
    rw [wire_webSocketResponse]
  unfold responseSources at safe
  unfold responseRead
  split
  case h_1 status =>
    rw [status] at safe
    exact responseUpgrade_keeps inv safe
  case h_2 status =>
    rw [status] at safe
    exact responseUpgrade_keeps inv safe
  case h_3 status =>
    rw [status] at safe
    exact responseStarting_keeps inv fun i hi => (sameWire i).mpr (safe i hi)
  case h_4 status =>
    rw [status] at safe
    exact responseStarting_keeps inv fun i hi => (sameWire i).mpr (safe i hi)
  case h_5 => exact read
  case h_6 => split <;> assumption
  case h_7 => split <;> assumption
  case h_8 => exact inv
  case h_9 => exact inv

theorem nodeResponseProcess_keeps (inv : d.Inv n.wire)
    (safe : AllSafe d n (n.responseSources e)) : d.Inv (n.nodeResponseProcess e).1.wire := by
  have read := responseRead_keeps inv safe
  simp only [nodeResponseProcess]
  split
  · exact inv
  split
  · exact inv
  split
  · exact read
  · exact read
  · exact read
  · exact read
  split
  · exact read
  split
  · exact read
  · simpa using read

/-- What a read event goes on to send, if it reads at all. -/
def readSources (e : Env) (n : ConnectNode) (what : EventKind) : List Output :=
  if n.registered ∧ n.exitStatus ≠ .exitCancel ∧ what = .ready then n.responseSources e else []

theorem readEventCallBack_keeps (inv : d.Inv n.wire) {what : EventKind}
    (safe : AllSafe d n (n.readSources e what)) : d.Inv (n.readEventCallBack e what).wire := by
  unfold readEventCallBack
  split
  case isTrue => exact inv
  split
  case isTrue => simpa using inv
  case isFalse registered running =>
    replace registered : n.registered = true := by simpa using registered
    cases what with
    | ready =>
      have read : d.Inv (n.nodeResponseProcess e).1.wire :=
        nodeResponseProcess_keeps inv (by simpa [readSources, registered, running] using safe)
      dsimp only
      split
      · simpa using read
      · exact read
    | timeout => simpa using inv
    | unknown => simpa using inv

/-! ## Taking a pooled connection over, and the text of a single round -/

theorem startWithPoolEventCallback_keeps (inv : d.Inv n.wire)
    (safe : n.registered = true → d.Safe n.wire .cmd) :
    d.Inv (n.startWithPoolEventCallback e).wire := by
  simp only [startWithPoolEventCallback]
  split
  case isTrue => exact inv
  case isFalse registered =>
    replace registered : n.registered = true := by simpa using registered
    have sent := addCmd_send_keeps (e := e)
      (n := { n with readEvent := true, writeEvent := true, workStatus := .nodeStarting })
      inv (safe registered) .cmdStart []
    split
    · simpa using sent
    · exact sent

theorem startWithPoolEventCallback_forward (e : Env) (n : ConnectNode) :
    Forward n (n.startWithPoolEventCallback e) := by
  have taken : Forward n
      { n with readEvent := true, writeEvent := true, workStatus := .nodeStarting } :=
    ⟨id, by simp, id⟩
  have sent := taken.trans (addCmd_send_wrote e _ .cmdStart []).forward
  simp only [startWithPoolEventCallback]
  split
  · exact Forward.refl n
  split
  · exact sent.trans (sendFakeSynthesisStarted_forward e _)
  · exact sent

lemma cmdSendText_safe (safe : d.Safe n.wire .cmd) (message : Bytes) :
    d.Safe (n.cmdNotify e .cmdSendText message).1.wire .cmd := by
  have sent : d.Safe (n.cmdSend e .cmdSendText message).1.wire .cmd := by
    simp only [cmdSend]
    split
    · exact addCmd_send_safe safe _ _
    · exact addCmdDataBuffer_safe safe _ _
  simp only [cmdNotify]
  split
  · simpa using sent
  · exact sent

/-- The text goes out, and Stop behind it, from the command buffer alone. -/
def SingleRoundSafe (d : Discipline) (n : ConnectNode) : Prop :=
  n.audioFrame = [] ∧ (n.workStatus = .nodeStarted → d.Safe n.wire .cmd)

theorem singleRoundTextEventCallback_keeps (inv : d.Inv n.wire)
    (safe : n.registered = true → n.param.singleRoundText ≠ [] → SingleRoundSafe d n) :
    d.Inv (n.singleRoundTextEventCallback e).wire := by
  simp only [singleRoundTextEventCallback]
  split
  case isTrue => exact inv
  split
  case isTrue => exact inv
  case isFalse registered text =>
    obtain ⟨kept, cmdSafe⟩ := safe (by simpa using registered) text
    have wrote := cmdNotify_wrote e n .cmdSendText n.param.singleRoundText
    have keptAfter := wrote.audioFrame kept
    have sent : d.Inv (n.cmdNotify e .cmdSendText n.param.singleRoundText).1.wire := by
      refine cmdNotify_keeps inv ?_ (by simp) _
      intro i hi
      obtain ⟨started, rfl⟩ : n.workStatus = .nodeStarted ∧ i = .cmd := by
        simpa [cmdSources] using hi
      exact cmdSafe started
    refine cmdNotify_keeps (n := (n.cmdNotify e .cmdSendText n.param.singleRoundText).1) sent ?_
      (fun _ => Or.inl keptAfter) []
    intro i hi
    obtain ⟨⟨started, -⟩, rfl⟩ := by
      simpa [cmdSources, stopSources, keptAfter] using hi
    have startedBefore : n.workStatus = .nodeStarted := by
      rcases wrote.workStatus with same | closed
      · exact same ▸ started
      · simp [closed] at started
    exact cmdSendText_safe (cmdSafe startedBefore) _

theorem singleRoundTextEventCallback_forward (e : Env) (n : ConnectNode) :
    Forward n (n.singleRoundTextEventCallback e) := by
  have sent := (cmdNotify_wrote e n .cmdSendText n.param.singleRoundText).forward
  have stopped := sent.trans (cmdNotify_wrote e _ .cmdStop []).forward
  simp only [singleRoundTextEventCallback]
  split
  · exact Forward.refl n
  split
  · exact Forward.refl n
  · exact stopped.trans ⟨id, id, id⟩

/-! ## The write event and the start of a session -/

theorem requestSend_forward (e : Env) (n : ConnectNode) : Forward n (n.requestSend e).1 := by
  have handshaked (m : ConnectNode) (same : Forward n m) :
      Forward n ((m.nlsSendFrame e .cmd false).1.setConnectNodeStatus .nodeHandshaked) :=
    (same.trans (sendFrame_forward e m .cmd false)).trans (Forward.status _ (by decide))
  unfold requestSend
  split
  · have requested : Forward n (n.gatewayRequest e).1 := by
      unfold gatewayRequest
      split
      · exact Forward.refl n
      split
      · exact Forward.refl n
      split
      · exact Forward.refl n
      · exact ⟨id, id, id⟩
    exact handshaked _ requested
  · exact sendFrame_forward e n .cmd false
  · exact sendFrame_forward e n .cmd false
  · have sent := sendFrame_forward e n .wwv false
    dsimp only
    split
    · exact sent.trans (addCmd_send_wrote e _ .cmdWarkWord []).forward
    · exact sent
  · have sent := sendFrame_forward e n .binary true
    dsimp only
    split
    · exact sent.trans (sendControlDirective_wrote e _).forward
    · exact sent
  · exact Forward.refl n

theorem nodeRequestProcess_forward (e : Env) (n : ConnectNode) :
    Forward n (n.nodeRequestProcess e).1 := by
  have sent := requestSend_forward e n
  simp only [nodeRequestProcess]
  split
  · exact Forward.refl n
  split
  · exact (sent.trans (handlerTaskFailedEvent_reported e _ _ _).forward).trans
      (closeConnectNode_forward _)
  · exact sent

lemma destroyConnectNode_forward (n : ConnectNode) : Forward n n.destroyConnectNode := by
  unfold destroyConnectNode
  split
  · exact Forward.refl n
  split
  · exact ⟨by simp, id, id⟩
  · exact ⟨id, id, id⟩

theorem writeEventCallBack_forward (e : Env) (n : ConnectNode) (what : EventKind) :
    Forward n (n.writeEventCallBack e what) := by
  have destroyed (m : ConnectNode) (same : Forward n m) :
      Forward n (if m.workStatus = .nodeInvalid then m.destroyConnectNode else m) := by
    split
    · exact same.trans (destroyConnectNode_forward m)
    · exact same
  unfold writeEventCallBack
  split
  · exact Forward.refl n
  split
  · exact closeConnectNode_forward n
  cases what with
  | ready => exact destroyed _ (nodeRequestProcess_forward e n)
  | timeout => exact destroyed _ (failEvent_forward e n _ _)
  | unknown => exact destroyed _ (failEvent_forward e n _ _)

theorem start_wire (e : Env) (n : ConnectNode) : (n.start e).wire = n.wire := by
  simp only [start]
  split_ifs <;> rfl

theorem start_forward (e : Env) (n : ConnectNode) : Forward n (n.start e) := by
  simp only [start]
  split_ifs
  all_goals exact ⟨id, by simp [initAllStatus], id⟩

end ConnectNode

/-! ## Steps that open no connection -/

namespace NodeOp

open ConnectNode

variable {d : Discipline} {op : NodeOp} {e : Env} {n : ConnectNode}

/-- The callbacks that may set a connection up. -/
def opens : NodeOp → Bool
  | .launchEvent | .reconnectEvent | .dnsEvent _ | .connectEvent _ => true
  | _ => false

/-- The step sends from safe buffers only. -/
def Safe (d : Discipline) (op : NodeOp) (e : Env) (n : ConnectNode) : Prop :=
  match op with
  | .sendAudio frame => AllSafe d n (n.audioSources e frame)
  | .cmdNotify type _ => AllSafe d n (n.cmdSources e type) ∧ (type = .cmdStop → n.StopSafe)
  | .syncPingCmd => PingSafe d n
  | .startWithPoolEvent => n.startWithPoolEvent = true → n.registered = true → d.Safe n.wire .cmd
  | .singleRoundTextEvent =>
    n.singleRoundTextEvent = true → n.registered = true → n.param.singleRoundText ≠ [] →
      SingleRoundSafe d n
  | .readEvent what => n.readEvent = true → AllSafe d n (n.readSources e what)
  | .writeEvent what => n.writeEvent = true → AllSafe d n (n.writeSources what)
  | _ => True

/-- A step that opens no connection keeps what safe sends keep. -/
theorem step_keeps (closed : op.opens = false) (parked : n.Parked) (inv : d.Inv n.wire)
    (safe : op.Safe d e (n.withEnv e)) : d.Inv (op.step n e).wire := by
  replace inv : d.Inv (n.withEnv e).wire := inv
  cases op with
  | start => simpa [step, start_wire] using inv
  | sendAudio frame => exact addAudioDataBuffer_keeps inv safe
  | keepAudio frame => exact inv
  | cmdNotify type message => exact cmdNotify_keeps inv safe.1 safe.2 message
  | syncPingCmd => exact syncPingCmd_keeps inv safe
  | launchEvent => simp [opens] at closed
  | reconnectEvent => simp [opens] at closed
  | dnsEvent failed => simp [opens] at closed
  | connectEvent timeout => simp [opens] at closed
  | startWithPoolEvent =>
    simp only [step]
    split
    case isTrue pending => exact startWithPoolEventCallback_keeps inv (safe pending)
    case isFalse => exact inv
  | singleRoundTextEvent =>
    simp only [step]
    split
    case isTrue pending => exact singleRoundTextEventCallback_keeps inv (safe pending)
    case isFalse => exact inv
  | readEvent what =>
    simp only [step]
    split
    case isTrue pending => exact readEventCallBack_keeps inv (safe pending)
    case isFalse => exact inv
  | writeEvent what =>
    simp only [step]
    split
    case isTrue pending => exact writeEventCallBack_keeps inv parked (safe pending)
    case isFalse => exact inv

/-- Nor does it lead into the handshake. -/
theorem step_forward (closed : op.opens = false) : Forward n (op.step n e) := by
  have fresh : Forward n (n.withEnv e) := ⟨id, id, id⟩
  cases op with
  | start => exact fresh.trans (start_forward e _)
  | sendAudio frame => exact fresh.trans (addAudioDataBuffer_wrote e _ frame).forward
  | keepAudio frame => exact ⟨id, id, id⟩
  | cmdNotify type message => exact fresh.trans (cmdNotify_wrote e _ type message).forward
  | syncPingCmd => exact fresh.trans (syncPingCmd_wrote e _).forward
  | launchEvent => simp [opens] at closed
  | reconnectEvent => simp [opens] at closed
  | dnsEvent failed => simp [opens] at closed
  | connectEvent timeout => simp [opens] at closed
  | startWithPoolEvent =>
    simp only [step]
    split
    · have cleared : Forward n { n.withEnv e with startWithPoolEvent := false } := ⟨id, id, id⟩
      exact cleared.trans (startWithPoolEventCallback_forward e _)
    · exact fresh
  | singleRoundTextEvent =>
    simp only [step]
    split
    · have cleared : Forward n { n.withEnv e with singleRoundTextEvent := false } := ⟨id, id, id⟩
      exact cleared.trans (singleRoundTextEventCallback_forward e _)
    · exact fresh
  | readEvent what =>
    simp only [step]
    split
    · exact fresh.trans (readEventCallBack_forward e _ what)
    · exact fresh
  | writeEvent what =>
    simp only [step]
    split
    · exact fresh.trans (writeEventCallBack_forward e _ what)
    · exact fresh

end NodeOp

end NlsSdk.Transport
