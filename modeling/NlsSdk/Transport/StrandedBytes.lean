import NlsSdk.Transport.StopDirective

/-!
# Bytes that no write event sends

The write event of a started node writes something as long as something waits,
unless Stop was framed and did not go out: a stopped node sends no command.
-/
namespace NlsSdk.Transport

open NlsSdk.Library ConnectNode

/-- A write event of the started node goes to `nodeRequestProcess`. -/
structure ConnectNode.WritesEvents (n : ConnectNode) : Prop where
  workStatus : n.workStatus = .nodeStarted
  registered : n.registered = true
  exitStatus : n.exitStatus ≠ .exitCancel
  writeEvent : n.writeEvent = true
  socket : n.channel.socket = .established

def flush (e : Env) : NodeInput := { op := .writeEvent .ready, env := e }

/-- The write event writes something, or nothing waits. -/
def Progress (e : Env) (n : ConnectNode) : Prop :=
  n.channel.written.length < (nodeStep n (flush e)).channel.written.length ∨
    (n.evBuffer .binary).length = 0 ∧ (n.evBuffer .cmd).length = 0

/-- Commands wait behind empty audio, and Stop was framed. -/
def Stuck (n : ConnectNode) : Prop :=
  (n.evBuffer .binary).length = 0 ∧ (n.evBuffer .cmd).length ≠ 0 ∧
    n.exitStatus ≠ .exitInvalid ∧ n.isStop = true

instance (n : ConnectNode) : Decidable (Stuck n) := by unfold Stuck; infer_instance

namespace ConnectNode

variable {e : Env} {n : ConnectNode} {i : Output}

/-- Nothing that was written is taken back. -/
lemma written_nlsSendFrame_le (e : Env) (n : ConnectNode) (i : Output) (audioFrame : Bool) :
    n.channel.written.length ≤ (n.nlsSendFrame e i audioFrame).1.channel.written.length := by
  obtain ⟨k, sent⟩ := nlsSendFrame_wire e n i audioFrame
  have written := congrArg Wire.written sent
  simp only [wire, Wire.send] at written
  rw [written, List.length_append]
  omega

/-- A socket that takes everything is written something of a buffer that is not empty. -/
lemma written_nlsSendFrame_lt (socket : n.channel.socket = .established)
    (all : n.channel.accepts = []) (waiting : (n.evBuffer i).length ≠ 0) (audioFrame : Bool) :
    n.channel.written.length < (n.nlsSendFrame e i audioFrame).1.channel.written.length := by
  have taken : n.channel.accepted ((n.evBuffer i).peek nodeFrameSize) =
      some ((n.evBuffer i).peek nodeFrameSize).length := by
    simp [Channel.accepted, socket, all]
  have offered : 0 < ((n.evBuffer i).peek nodeFrameSize).length := by
    rw [ChunkQueue.length_peek]
    simp only [nodeFrameSize]
    omega
  rw [(nlsSendFrame_taken (e := e) waiting taken audioFrame).2]
  simp only [Channel.send, taken, Option.getD_some, List.take_length, List.length_append]
  omega

lemma written_sendControlDirective_le (e : Env) (n : ConnectNode) :
    n.channel.written.length ≤ (n.sendControlDirective e).1.channel.written.length := by
  unfold sendControlDirective
  split
  · split
    · exact written_nlsSendFrame_le e n .cmd false
    · exact le_rfl
  · split
    · have sent := written_nlsSendFrame_le e (n.addCmdDataBuffer e .cmdStop []) .cmd false
      rwa [addCmdDataBuffer_channel] at sent
    · exact le_rfl

/-- Over empty audio the directive is what a write event is about. -/
lemma control_progress (h : n.WritesEvents) (all : n.channel.accepts = [])
    (waiting : (n.evBuffer .cmd).length ≠ 0)
    (open_ : n.exitStatus = .exitInvalid ∨ n.isStop = false) :
    n.channel.written.length < (n.sendControlDirective e).1.channel.written.length := by
  unfold sendControlDirective
  split
  · exact written_nlsSendFrame_lt h.socket all waiting false
  · rename_i notRunning
    have stopping : n.exitStatus = .exitStopping ∧ (!n.isStop) = true := by
      have exit := h.exitStatus
      have started := h.workStatus
      cases status : n.exitStatus <;> simp_all
    rw [if_pos stopping]
    have more : ((n.addCmdDataBuffer e .cmdStop []).evBuffer .cmd).length ≠ 0 := by
      rw [addCmdDataBuffer_cmd]
      split
      · rw [ChunkQueue.length_add]
        omega
      · exact waiting
    have sent := written_nlsSendFrame_lt (e := e) (n := n.addCmdDataBuffer e .cmdStop [])
      (by rw [addCmdDataBuffer_channel]; exact h.socket)
      (by rw [addCmdDataBuffer_channel]; exact all) more false
    rwa [addCmdDataBuffer_channel] at sent

lemma control_stuck (stopped : n.isStop = true) (exit : n.exitStatus ≠ .exitInvalid) :
    n.sendControlDirective e = (n, .ok 0) := by
  simp [sendControlDirective, exit, stopped]

end ConnectNode

/-- What a write event of a started node does to the wire. -/
lemma flush_wire {n : ConnectNode} (h : n.WritesEvents) (e : Env) :
    let audio := (n.withEnv e).nlsSendFrame e .binary true
    (nodeStep n (flush e)).wire =
      (if audio.2.isZero then audio.1.sendControlDirective e else audio).1.wire := by
  have called : nodeStep n (flush e) = (n.withEnv e).writeEventCallBack e .ready :=
    if_pos h.writeEvent
  have started : (n.withEnv e).workStatus = .nodeStarted := h.workStatus
  rw [called, wire_writeEventCallBack (n := n.withEnv e) h.registered h.exitStatus]
  simp only [requestSend, started]

/-- A write event of a started node makes progress exactly when the node is not stuck. -/
theorem progress_iff {n : ConnectNode} (h : n.WritesEvents) {e : Env} (all : e.accepts = []) :
    Progress e n ↔ ¬Stuck n := by
  have written := congrArg (fun v => v.written.length) (flush_wire h e)
  have ready : (n.withEnv e).WritesEvents :=
    ⟨h.workStatus, h.registered, h.exitStatus, h.writeEvent, h.socket⟩
  by_cases audio : (n.evBuffer .binary).length = 0
  · have none : (n.withEnv e).nlsSendFrame e .binary true = (n.withEnv e, .ok 0) := by
      simp [nlsSendFrame, withEnv, audio]
    simp only [none, Ret.isZero_ok, decide_true, if_true] at written
    by_cases cmd : (n.evBuffer .cmd).length = 0
    · simp [Progress, Stuck, audio, cmd]
    · by_cases stopped : n.exitStatus ≠ .exitInvalid ∧ n.isStop = true
      · rw [control_stuck (n := n.withEnv e) stopped.2 stopped.1] at written
        have same : (nodeStep n (flush e)).channel.written.length = n.channel.written.length :=
          written
        simp [Progress, Stuck, audio, cmd, stopped, same]
      · have goes := control_progress (e := e) ready all cmd (by
          by_contra neither
          push Not at neither
          have isStop : n.isStop = true := by simpa [withEnv] using neither.2
          exact stopped ⟨neither.1, isStop⟩)
        have more : n.channel.written.length <
            (nodeStep n (flush e)).channel.written.length := goes.trans_eq written.symm
        exact iff_of_true (Or.inl more) fun stuck => stopped stuck.2.2
  · have goes := written_nlsSendFrame_lt (e := e) ready.socket all audio true
    have more : n.channel.written.length < (nodeStep n (flush e)).channel.written.length := by
      refine lt_of_lt_of_eq ?_ written.symm
      split
      · exact goes.trans_le (written_sendControlDirective_le e _)
      · exact goes
    exact iff_of_true (Or.inl more) fun stuck => audio stuck.1

/-- A run in which Stop is taken whole strands nothing: every write event of the started node
writes something or finds both buffers empty, and a framed Stop is written out. -/
theorem no_stranded_bytes {n : ConnectNode} (created : n.Created) {inputs : List NodeInput}
    (along : Along nodeStep StopsWhole n inputs) {e : Env} (all : e.accepts = []) :
    ((nodeRun n inputs).WritesEvents → Progress e (nodeRun n inputs)) ∧
      ((nodeRun n inputs).isStop = true → ((nodeRun n inputs).evBuffer .cmd).length = 0) := by
  have settled : (nodeRun n inputs).Settled :=
    invariant_along nodeStep_settled (settled_of_running created.isStop) along
  refine ⟨fun writes => (progress_iff writes all).mpr fun stuck => ?_, fun stopped => (settled stopped).2⟩
  exact stuck.2.1 (settled stuck.2.2.2).2

/-- Write events do nothing for a stuck node. -/
lemma flush_stuck {n : ConnectNode} (h : n.WritesEvents) (stuck : Stuck n) (e : Env) :
    nodeStep n (flush e) = n.withEnv e := by
  obtain ⟨audio, -, exit, stopped⟩ := stuck
  have called : nodeStep n (flush e) = (n.withEnv e).writeEventCallBack e .ready :=
    if_pos h.writeEvent
  have none : (n.withEnv e).nlsSendFrame e .binary true = (n.withEnv e, .ok 0) := by
    simp [nlsSendFrame, withEnv, audio]
  have started : (n.withEnv e).workStatus = .nodeStarted := h.workStatus
  have processed : (n.withEnv e).nodeRequestProcess e = (n.withEnv e, .ok 0) := by
    have registered : (n.withEnv e).registered = true := h.registered
    simp [nodeRequestProcess, registered, requestSend, started, none,
      control_stuck (n := n.withEnv e) stopped exit]
  have present : ¬(!(n.withEnv e).registered) = true := by simpa [withEnv] using h.registered
  have running : ¬(n.withEnv e).exitStatus = .exitCancel := h.exitStatus
  rw [called, writeEventCallBack, if_neg present, if_neg running]
  simp [processed, started]

/-- What waits in a stuck node is never written by write events. -/
theorem stuck_stays {n : ConnectNode} (h : n.WritesEvents) (stuck : Stuck n) (e : Env) (k : ℕ) :
    (nodeRun n (List.replicate k (flush e))).wire = n.wire := by
  induction k generalizing n with
  | zero => rfl
  | succ k ih =>
    have next : (n.withEnv e).WritesEvents :=
      ⟨h.workStatus, h.registered, h.exitStatus, h.writeEvent, h.socket⟩
    rw [List.replicate_succ, nodeRun, run_cons, flush_stuck h stuck e]
    exact ih next stuck

/-! ## A Stop the socket takes, and one it does not -/

theorem transcription_created : transcription.Created := ⟨rfl, rfl, rfl, rfl, rfl⟩

/-- A session that is stopped once it is started. -/
def stopSession (accepts : List (Option ℕ)) : List NodeInput :=
  startSession ++ [{ op := .cmdNotify .cmdStop []
                     env := { command := fun _ _ => some (ascii "Stop"), accepts := accepts } }]

lemma startSession_stopsWhole : Along nodeStep StopsWhole transcription startSession := by
  refine ⟨⟨trivial, trivial⟩, ⟨trivial, trivial⟩, ⟨trivial, fun _ => ⟨?_, ?_⟩⟩,
    ⟨trivial, fun _ => ⟨?_, ?_⟩⟩, trivial⟩
  · exact fun stopped => absurd stopped (by decide)
  · exact fun status => absurd status (by decide)
  · exact fun stopped => absurd stopped (by decide)
  · exact fun _ _ _ _ stopping => absurd stopping (by decide)

/-- A Stop that is taken whole leaves nothing behind. -/
theorem no_stranded_bytes_stopped :
    Along nodeStep StopsWhole transcription (stopSession []) ∧
      (nodeRun transcription (stopSession [])).WritesEvents ∧
      Progress {} (nodeRun transcription (stopSession [])) ∧
      ((nodeRun transcription (stopSession [])).evBuffer .cmd).length = 0 := by
  have along : Along nodeStep StopsWhole transcription (stopSession []) := by
    refine (along_append _ _ _ _ _).mpr ⟨startSession_stopsWhole, ⟨by decide, ?_⟩, trivial⟩
    intro _ _ _ _
    decide
  have writes : (nodeRun transcription (stopSession [])).WritesEvents :=
    ⟨by decide, by decide, by decide, by decide, by decide⟩
  obtain ⟨progress, written⟩ := no_stranded_bytes transcription_created along (e := {}) rfl
  exact ⟨along, writes, progress writes, written (by decide)⟩

/-- A Stop of which the socket takes nothing at first is never written: however many write events
follow on a socket that takes everything, none of them writes a byte. -/
theorem stop_stranded :
    transcription.Created ∧ (nodeRun transcription (stopSession [some 0])).WritesEvents ∧
      ¬Progress {} (nodeRun transcription (stopSession [some 0])) ∧
      ∀ k, ((nodeRun (nodeRun transcription (stopSession [some 0]))
        (List.replicate k (flush {}))).evBuffer .cmd).bytes = textFrame (ascii "Stop") := by
  have writes : (nodeRun transcription (stopSession [some 0])).WritesEvents :=
    ⟨by decide, by decide, by decide, by decide, by decide⟩
  have stuck : Stuck (nodeRun transcription (stopSession [some 0])) := by decide
  refine ⟨transcription_created, writes, fun progress => ?_, fun k => ?_⟩
  · exact (progress_iff writes rfl).mp progress stuck
  · have same := congrArg (fun v => (v.evBuffer .cmd).bytes) (stuck_stays writes stuck {} k)
    have waiting : ((nodeRun transcription (stopSession [some 0])).evBuffer .cmd).bytes =
        textFrame (ascii "Stop") := by decide
    exact same.trans waiting

end NlsSdk.Transport
