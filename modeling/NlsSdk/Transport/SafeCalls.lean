import NlsSdk.Transport.Forward
import NlsSdk.Transport.Sources

/-!
# Calls and events under a discipline

Every call of the user and every event callback keeps the discipline when the
buffers it turns to are safe.
-/
namespace NlsSdk.Transport.ConnectNode

open NlsSdk.Library

variable {e : Env} {n m : ConnectNode} {d : Discipline}

/-! ## Commands -/

lemma audioBuffer_mem_stop (stop : n.StopSafe) (kept : n.audioFrame ≠ [])
    (started : n.workStatus = .nodeStarted) : n.audioBuffer = .binary := by
  rcases stop with none | binary | other
  · exact absurd none kept
  · exact binary
  · exact absurd started other

/-- Behind the audio that Stop flushes, its directive may be sent over empty audio. -/
lemma stop_cmd_safe (inv : d.Inv n.wire) (safe : AllSafe d n (n.stopSources e)) (stop : n.StopSafe)
    (started : (n.addRemainAudioData e).1.workStatus = .nodeStarted)
    (running : (n.addRemainAudioData e).1.isStop = false)
    (empty : ((n.addRemainAudioData e).1.evBuffer .binary).length = 0) :
    d.Safe (n.addRemainAudioData e).1.wire .cmd := by
  have wrote := addRemainAudioData_wrote e n
  have startedBefore : n.workStatus = .nodeStarted := by
    rcases wrote.workStatus with same | closed
    · exact same ▸ started
    · simp [closed] at started
  have runningBefore : n.isStop = false := by
    by_contra stopped
    simp [wrote.isStop (by simpa using stopped)] at running
  have direct (same : (n.addRemainAudioData e).1.wire = n.wire) :
      d.Safe (n.addRemainAudioData e).1.wire .cmd := by
    have sameBuffers : (n.addRemainAudioData e).1.evBuffer = n.evBuffer :=
      congrArg Wire.evBuffer same
    rw [sameBuffers] at empty
    rw [same]
    exact safe .cmd (by simp [stopSources, startedBefore, empty, runningBefore])
  by_cases kept : n.audioFrame = []
  · exact direct (by simp [addRemainAudioData, kept])
  by_cases refused : n.audioRefused e n.audioFrame
  · refine direct ?_
    simp only [addRemainAudioData, kept, if_false, addAudioDataBuffer_refused refused]
    rfl
  · simp only [addRemainAudioData, kept, if_false] at empty ⊢
    rw [← audioBuffer_mem_stop stop kept startedBefore] at empty
    exact addAudioDataBuffer_cmd_safe inv
      (fun i hi => safe i (by simp [stopSources, kept, hi])) refused empty

lemma cmdStop_keeps (inv : d.Inv n.wire) (safe : AllSafe d n (n.stopSources e))
    (stop : n.StopSafe) (message : Bytes) : d.Inv (n.cmdSend e .cmdStop message).1.wire := by
  have flushed : d.Inv (n.addRemainAudioData e).1.wire := by
    refine addRemainAudioData_keeps inv ?_
    by_cases kept : n.audioFrame = []
    · exact Or.inl kept
    · exact Or.inr fun i hi => safe i (by simp [stopSources, kept, hi])
  simp only [cmdSend]
  split
  case isFalse => exact flushed
  case isTrue sends =>
    refine sendControlDirective_keeps flushed ?_
    intro i hi
    obtain ⟨rfl, running⟩ : i = .cmd ∧ (n.addRemainAudioData e).1.isStop = false := by
      simpa [controlSources, directs, and_comm] using hi
    exact stop_cmd_safe inv safe stop sends.1 running sends.2

theorem cmdSend_keeps (inv : d.Inv n.wire) {type : CmdType}
    (safe : AllSafe d n (n.cmdSources e type)) (stop : type = .cmdStop → n.StopSafe)
    (message : Bytes) : d.Inv (n.cmdSend e type message).1.wire := by
  unfold cmdSources at safe
  cases type with
  | cmdStop => exact cmdStop_keeps inv safe (stop rfl) message
  | cmdCancel => exact inv
  | cmdStControl =>
    have added : d.Inv (n.addCmdDataBuffer e .cmdStControl message).wire :=
      addCmdDataBuffer_keeps inv _ _
    have same : (n.addCmdDataBuffer e .cmdStControl message).workStatus = n.workStatus := by
      exact addCmdDataBuffer_workStatus e n _ _
    simp only [cmdSend, same, addCmdDataBuffer_other e n (show Output.binary ≠ .cmd by decide)]
    split
    case isTrue sends => exact addCmd_send_keeps inv (safe .cmd (by simp [sends])) _ _
    case isFalse => exact added
  | cmdWarkWord =>
    simp only [cmdSend]
    split
    case isTrue empty =>
      exact addCmd_send_keeps (n := { n with isWakeStop := true }) inv
        (safe .cmd (by simpa using empty)) _ _
    case isFalse => exact inv
  | cmdSendText =>
    have added : d.Inv (n.addCmdDataBuffer e .cmdSendText message).wire :=
      addCmdDataBuffer_keeps inv _ _
    simp only [cmdSend, addCmdDataBuffer_workStatus]
    split
    case isTrue sends => exact addCmd_send_keeps inv (safe .cmd (by simp [sends])) _ _
    case isFalse => exact added
  | cmdSendPing => exact addCmd_send_keeps inv (safe .cmd (by simp)) _ _
  | cmdSendFlush => exact addCmd_send_keeps inv (safe .cmd (by simp)) _ _
  | cmdStart => exact inv
  | cmdTextDialog => exact inv
  | cmdExecuteDialog => exact inv

theorem cmdNotify_keeps (inv : d.Inv n.wire) {type : CmdType}
    (safe : AllSafe d n (n.cmdSources e type)) (stop : type = .cmdStop → n.StopSafe)
    (message : Bytes) : d.Inv (n.cmdNotify e type message).1.wire := by
  have sent := cmdSend_keeps (e := e) inv safe stop message
  simp only [cmdNotify]
  split
  · simpa using sent
  · exact sent

/-- The socket takes the direct ping between two frames and whole, or not at all. -/
def PingSafe (d : Discipline) (n : ConnectNode) : Prop :=
  n.channel.accepted pingFrame = none ∨ n.channel.accepted pingFrame = some 0 ∨
    (n.channel.accepted pingFrame = some pingFrame.length ∧ ∀ i, d.Safe n.wire i)

theorem syncPingCmd_keeps (inv : d.Inv n.wire) (safe : PingSafe d n) :
    d.Inv (n.syncPingCmd e).1.wire := by
  have sent : d.Inv (n.nlsSend e pingFrame).1.wire := by
    rcases nlsSend_cases e n (show pingFrame ≠ [] by decide) with
        ⟨same, -⟩ | ⟨k, taken, -, written⟩
    · rwa [same]
    · rw [written]
      rcases safe with refused | none | ⟨whole, boundary⟩
      · simp [taken] at refused
      · obtain rfl : k = 0 := by simpa [taken] using none
        simpa [Wire.direct] using inv
      · obtain rfl : k = pingFrame.length := by simpa [taken] using whole
        rw [List.take_length]
        exact d.direct inv boundary
  simp only [syncPingCmd]
  split
  · exact inv
  · split <;> exact sent

/-! ## The write event -/

/-- The audio of a started node goes first, its directives follow. -/
theorem started_keeps (inv : d.Inv n.wire) (safe : AllSafe d n n.startedSources) :
    let audio := n.nlsSendFrame e .binary true
    d.Inv (if audio.2.isZero then audio.1.sendControlDirective e else audio).1.wire := by
  unfold startedSources at safe
  by_cases empty : (n.evBuffer .binary).length = 0
  · rw [if_pos empty] at safe
    simpa [nlsSendFrame, empty] using sendControlDirective_keeps inv safe
  · rw [if_neg empty] at safe
    exact audio_then_control_keeps inv (safe .binary (by simp))

lemma wakeWording_keeps (inv : d.Inv n.wire)
    (safe : AllSafe d n (if (n.evBuffer .wwv).length = 0 then
      if n.getWakeStatus then [.cmd] else [] else [.wwv])) :
    let sent := n.nlsSendFrame e .wwv false
    d.Inv (if sent.2.isZero ∧ sent.1.getWakeStatus then
      (sent.1.addCmdDataBuffer e .cmdWarkWord []).nlsSendFrame e .cmd false
      else sent).1.wire := by
  dsimp only
  by_cases empty : (n.evBuffer .wwv).length = 0
  · simp only [empty, if_true] at safe
    have same : n.nlsSendFrame e .wwv false = (n, .ok 0) := by simp [nlsSendFrame, empty]
    rw [same]
    split
    case isTrue woken => exact addCmd_send_keeps inv (safe .cmd (by simp [woken.2])) _ _
    case isFalse => exact inv
  · rw [if_neg empty] at safe
    have wwvSafe : d.Safe n.wire .wwv := safe .wwv (by simp)
    have sent := nlsSendFrame_keeps (e := e) inv wwvSafe false
    split
    case isTrue woken =>
      exact addCmd_send_keeps sent (nlsSendFrame_drained inv wwvSafe woken.1 .cmd) _ _
    case isFalse => exact sent

lemma cmd_keeps (inv : d.Inv n.wire)
    (safe : AllSafe d n (if (n.evBuffer .cmd).length = 0 then [] else [.cmd])) :
    d.Inv (n.nlsSendFrame e .cmd false).1.wire := by
  by_cases empty : (n.evBuffer .cmd).length = 0
  · simpa [nlsSendFrame, empty] using inv
  · rw [if_neg empty] at safe
    exact nlsSendFrame_keeps inv (safe .cmd (by simp)) false

/-- The write event of a node whose upgrade request is behind it. -/
theorem requestSend_keeps (inv : d.Inv n.wire) (upgraded : n.workStatus ≠ .nodeHandshaking)
    (safe : AllSafe d n n.requestSources) : d.Inv (n.requestSend e).1.wire := by
  unfold requestSources at safe
  unfold requestSend
  split
  case h_1 handshaking => exact absurd handshaking upgraded
  case h_2 status =>
    rw [status] at safe
    exact cmd_keeps inv safe
  case h_3 status =>
    rw [status] at safe
    exact cmd_keeps inv safe
  case h_4 status =>
    rw [status] at safe
    exact wakeWording_keeps inv safe
  case h_5 status =>
    rw [status] at safe
    exact started_keeps inv safe
  case h_6 => exact inv

@[simp] theorem wire_nodeRequestProcess (registered : n.registered = true) :
    (n.nodeRequestProcess e).1.wire = (n.requestSend e).1.wire := by
  simp only [nodeRequestProcess, registered, Bool.not_true, Bool.false_eq_true, if_false]
  split
  · simp
  · rfl

/-- The buffers a write event turns to. -/
def writeSources (n : ConnectNode) (what : EventKind) : List Output :=
  if n.registered ∧ n.exitStatus ≠ .exitCancel ∧ what = .ready then n.requestSources else []

lemma wire_destroy_invalid (m : ConnectNode) :
    (if m.workStatus = .nodeInvalid then m.destroyConnectNode else m).wire = m.wire := by
  split <;> simp

/-- A write event that reaches `nodeRequestProcess` does to the wire what that does. -/
theorem wire_writeEventCallBack (registered : n.registered = true)
    (running : n.exitStatus ≠ .exitCancel) :
    (n.writeEventCallBack e .ready).wire = (n.requestSend e).1.wire := by
  have present : ¬(!n.registered) = true := by simp [registered]
  rw [writeEventCallBack, if_neg present, if_neg running]
  exact (wire_destroy_invalid _).trans (wire_nodeRequestProcess registered)

theorem writeEventCallBack_keeps (inv : d.Inv n.wire) (parked : n.Parked)
    {what : EventKind} (safe : AllSafe d n (n.writeSources what)) :
    d.Inv (n.writeEventCallBack e what).wire := by
  by_cases registered : n.registered = true
  case neg => simpa [writeEventCallBack, registered] using inv
  by_cases cancelled : n.exitStatus = .exitCancel
  case pos => simpa [writeEventCallBack, registered, cancelled] using inv
  cases what with
  | ready =>
    rw [wire_writeEventCallBack registered cancelled]
    have upgraded : n.workStatus ≠ .nodeHandshaking := by
      intro handshaking
      simp [parked handshaking] at registered
    exact requestSend_keeps inv upgraded (by simpa [writeSources, registered, cancelled] using safe)
  | timeout =>
    simpa only [writeEventCallBack, registered, cancelled, Bool.not_true, Bool.false_eq_true,
      if_false, wire_destroy_invalid, wire_failEvent] using inv
  | unknown =>
    simpa only [writeEventCallBack, registered, cancelled, Bool.not_true, Bool.false_eq_true,
      if_false, wire_destroy_invalid, wire_failEvent] using inv

end NlsSdk.Transport.ConnectNode
