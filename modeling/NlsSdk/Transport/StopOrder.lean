import NlsSdk.Transport.StopDirective

/-!
# Stop goes last

Stop is framed where the audio buffer is found empty and is marked as framed in
the same breath. The buffer of the wake word is not looked at.
-/
namespace NlsSdk.Transport

open NlsSdk.Library

namespace Wire

open ConnectNode

/-- Moves that frame no Stop: audio goes to its buffers, other commands and the upgrade request to
theirs, a ping past them, and a new connection forgets what was written on the last one. -/
inductive Moves (e : Env) (v : Wire) : Wire → Prop
  | refl : Moves e v v
  | audio {w : Wire} (moves : Moves e v w) {i : Output} (other : i ≠ .cmd) (payload : Bytes) :
    Moves e v (w.add i (binaryFrame payload))
  | command {w : Wire} (moves : Moves e v w) {type : CmdType} {message frame : Bytes}
    (other : type ≠ .cmdStop) (made : cmdFrame e type message = some frame) :
    Moves e v (w.add .cmd frame)
  | upgrade {w : Wire} (moves : Moves e v w) {request : UpgradeRequest}
    (made : e.upgradeRequest = some request) :
    Moves e v { w.add .cmd request.bytes with upgrade := some request.bytes }
  | send {w : Wire} (moves : Moves e v w) (i : Output) (k : ℕ) : Moves e v (w.send i k)
  | ping {w : Wire} (moves : Moves e v w) (k : ℕ) : Moves e v (w.direct (pingFrame.take k))
  | connect {w : Wire} (moves : Moves e v w) :
    Moves e v { w with written := [], queued := [], upgrade := none }

/-- Every frame of audio has been written to its end. -/
def AudioSent (v : Wire) : Prop := (v.evBuffer .binary).length = 0 ∧ (v.evBuffer .wwv).length = 0

/-- The moves come to a point where all audio has been written; there Stop is framed, and one
write of the commands follows. -/
def StopsBehindAudio (e : Env) (v w : Wire) : Prop :=
  ∃ (u : Wire) (frame : Bytes) (k : ℕ), Moves e v u ∧ u.AudioSent ∧
    cmdFrame e .cmdStop [] = some frame ∧ w = (u.add .cmd frame).send .cmd k

variable {e : Env} {u v w : Wire}

theorem Moves.trans (h : Moves e u v) (h' : Moves e v w) : Moves e u w := by
  induction h' with
  | refl => exact h
  | audio _ other payload ih => exact ih.audio other payload
  | command _ other made ih => exact ih.command other made
  | upgrade _ made ih => exact ih.upgrade made
  | send _ i k ih => exact ih.send i k
  | ping _ k ih => exact ih.ping k
  | connect _ ih => exact ih.connect

theorem StopsBehindAudio.after (h : Moves e u v) (h' : StopsBehindAudio e v w) :
    StopsBehindAudio e u w := by
  obtain ⟨x, frame, k, moves, sent, made, rfl⟩ := h'
  exact ⟨x, frame, k, h.trans moves, sent, made, rfl⟩

/-- A send takes nothing from the other buffers and adds nothing to its own. -/
lemma length_send_le (v : Wire) (i j : Output) (k : ℕ) :
    ((v.send i k).evBuffer j).length ≤ (v.evBuffer j).length := by
  by_cases same : j = i
  · subst same
    simp [Wire.send]
  · simp [Wire.send, same]

theorem AudioSent.send (h : v.AudioSent) (i : Output) (k : ℕ) : (v.send i k).AudioSent := by
  have binary := length_send_le v i .binary k
  have wwv := length_send_le v i .wwv k
  rw [h.1] at binary
  rw [h.2] at wwv
  exact ⟨Nat.le_zero.mp binary, Nat.le_zero.mp wwv⟩

theorem AudioSent.add_cmd (h : v.AudioSent) (frame : Bytes) : (v.add .cmd frame).AudioSent := h

theorem StopsBehindAudio.audioSent (h : StopsBehindAudio e v w) : w.AudioSent := by
  obtain ⟨u, frame, k, -, sent, -, rfl⟩ := h
  exact (sent.add_cmd frame).send .cmd k

end Wire

namespace ConnectNode

variable {e : Env} {n m k : ConnectNode} {i : Output}

/-! ## Work that frames no Stop -/

/-- `m` comes from `n` without a Stop being framed; audio may be queued. -/
structure Moved (e : Env) (n m : ConnectNode) : Prop where
  moves : n.wire.Moves e m.wire
  isStop : m.isStop = n.isStop
  exitStatus : m.exitStatus = n.exitStatus
  audioFrame : n.audioFrame = [] → m.audioFrame = []

/-- The same with no audio queued. -/
structure Unstopped (e : Env) (n m : ConnectNode) : Prop extends Moved e n m where
  audioSent : n.wire.AudioSent → m.wire.AudioSent

theorem Moved.trans (h : Moved e n m) (h' : Moved e m k) : Moved e n k where
  moves := h.moves.trans h'.moves
  isStop := h'.isStop.trans h.isStop
  exitStatus := h'.exitStatus.trans h.exitStatus
  audioFrame := fun none => h'.audioFrame (h.audioFrame none)

theorem Unstopped.trans (h : Unstopped e n m) (h' : Unstopped e m k) : Unstopped e n k where
  toMoved := h.toMoved.trans h'.toMoved
  audioSent := fun sent => h'.audioSent (h.audioSent sent)

/-- Work that leaves the wire alone. -/
lemma Unstopped.of_wire (wire : m.wire = n.wire) (isStop : m.isStop = n.isStop)
    (exitStatus : m.exitStatus = n.exitStatus) (audioFrame : n.audioFrame = [] → m.audioFrame = []) :
    Unstopped e n m where
  moves := wire ▸ .refl
  isStop := isStop
  exitStatus := exitStatus
  audioFrame := audioFrame
  audioSent := fun sent => wire ▸ sent

theorem Unstopped.refl (n : ConnectNode) : Unstopped e n n := .of_wire rfl rfl rfl id

theorem Reported.unstopped (h : Reported n m) : Unstopped e n m := by
  obtain ⟨r, err, st, rfl, -⟩ := h
  exact .of_wire rfl rfl rfl id

theorem CalledBack.unstopped (h : CalledBack n m) : Unstopped e n m := h.reported.unstopped

lemma Sent.audioFrame (h : Sent n m) : m.audioFrame = n.audioFrame := by
  obtain ⟨_, _, _, _, rfl⟩ := h
  rfl

theorem nlsSendFrame_unstopped (e : Env) (n : ConnectNode) (i : Output) (audioFrame : Bool) :
    Unstopped e n (n.nlsSendFrame e i audioFrame).1 := by
  have sent := nlsSendFrame_sent e n i audioFrame
  obtain ⟨k, moved⟩ := nlsSendFrame_wire e n i audioFrame
  refine ⟨⟨?_, sent.isStop, sent.exitStatus, fun none => sent.audioFrame.trans none⟩, ?_⟩
  · rw [moved]
    exact Wire.Moves.refl.send i k
  · rw [moved]
    exact fun all => all.send i k

lemma addCmdDataBuffer_audioFrame (e : Env) (n : ConnectNode) (type : CmdType) (message : Bytes) :
    (n.addCmdDataBuffer e type message).audioFrame = n.audioFrame := by
  obtain ⟨buffers, frames, marks, same⟩ := addCmdDataBuffer_same e n type message
  rw [same]

theorem addCmdDataBuffer_unstopped (e : Env) (n : ConnectNode) {type : CmdType}
    (other : type ≠ .cmdStop) (message : Bytes) :
    Unstopped e n (n.addCmdDataBuffer e type message) := by
  have isStop := addCmdDataBuffer_isStop e n type message
  have exit := addCmdDataBuffer_exitStatus e n type message
  have kept (none : n.audioFrame = []) : (n.addCmdDataBuffer e type message).audioFrame = [] :=
    (addCmdDataBuffer_audioFrame e n type message).trans none
  rcases addCmdDataBuffer_made e n type message with same | ⟨frame, made, added⟩
  · exact .of_wire same isStop exit kept
  · refine ⟨⟨?_, isStop, exit, kept⟩, ?_⟩
    · rw [added]
      exact Wire.Moves.refl.command other made
    · rw [added]
      exact fun all => all.add_cmd frame

lemma addCmd_send_unstopped (e : Env) (n : ConnectNode) {type : CmdType} (other : type ≠ .cmdStop)
    (message : Bytes) :
    Unstopped e n ((n.addCmdDataBuffer e type message).nlsSendFrame e .cmd false).1 :=
  (addCmdDataBuffer_unstopped e n other message).trans (nlsSendFrame_unstopped e _ .cmd false)

/-- Unless Stop is due only waiting commands are sent. -/
theorem sendControlDirective_unstopped (quiet : n.exitStatus = .exitStopping → n.isStop = true) :
    Unstopped e n (n.sendControlDirective e).1 := by
  unfold sendControlDirective
  split
  · split
    · exact nlsSendFrame_unstopped e n .cmd false
    · exact .refl n
  · rw [if_neg]
    · exact .refl n
    · rintro ⟨stopping, running⟩
      simp [quiet stopping] at running

/-- Once Stop was framed or is due no audio is kept back, and once it was framed all audio has been
written and the session runs no more. -/
structure InOrder (n : ConnectNode) : Prop where
  stopped : n.isStop = true → n.exitStatus ≠ .exitInvalid ∧ n.wire.AudioSent
  flushed : n.isStop = true ∨ n.exitStatus = .exitStopping → n.audioFrame = []

theorem InOrder.isStop_eq_false (h : n.InOrder) (running : n.exitStatus = .exitInvalid) :
    n.isStop = false := by
  by_contra stopped
  exact (h.stopped (by simpa using stopped)).1 running

theorem Unstopped.inOrder (h : Unstopped e n m) (order : n.InOrder) : m.InOrder where
  stopped := by
    rw [h.isStop, h.exitStatus]
    exact fun stopped => ⟨(order.stopped stopped).1, h.audioSent (order.stopped stopped).2⟩
  flushed := by
    rw [h.isStop, h.exitStatus]
    exact fun due => h.audioFrame (order.flushed due)

/-- `m` comes from `n` with at most one Stop framed, and that behind all audio. -/
structure Turn (e : Env) (n m : ConnectNode) : Prop where
  wire : n.wire.Moves e m.wire ∨
    n.isStop = false ∧ m.isStop = true ∧ n.wire.StopsBehindAudio e m.wire
  isStop : n.isStop = true → m.isStop = true
  inOrder : m.InOrder

theorem Unstopped.turn (h : Unstopped e n m) (order : n.InOrder) : Turn e n m :=
  ⟨Or.inl h.moves, h.isStop.trans, h.inOrder order⟩

/-- Moves without a Stop may come first. -/
theorem Moved.turn (h : Moved e n k) (turn : Turn e k m) : Turn e n m where
  wire := by
    rcases turn.wire with moves | ⟨running, stopped, stops⟩
    · exact Or.inl (h.moves.trans moves)
    · exact Or.inr ⟨h.isStop.symm.trans running, stopped, stops.after h.moves⟩
  isStop := fun stopped => turn.isStop (h.isStop.trans stopped)
  inOrder := turn.inOrder

/-- Work that leaves the wire alone may follow. -/
theorem Turn.same (turn : Turn e n k) (h : Unstopped e k m) (wire : m.wire = k.wire) :
    Turn e n m where
  wire := by
    rw [wire, h.isStop]
    exact turn.wire
  isStop := fun stopped => h.isStop.trans (turn.isStop stopped)
  inOrder := h.inOrder turn.inOrder

/-- Where Stop is due and all audio has been written, it is framed. -/
theorem sendControlDirective_stops (stopping : n.exitStatus = .exitStopping)
    (running : n.isStop = false) (sent : n.wire.AudioSent) (flushed : n.audioFrame = []) :
    Turn e n (n.sendControlDirective e).1 := by
  have framed : n.sendControlDirective e =
      ({ ((n.addCmdDataBuffer e .cmdStop []).nlsSendFrame e .cmd false).1 with isStop := true },
        ((n.addCmdDataBuffer e .cmdStop []).nlsSendFrame e .cmd false).2) := by
    simp [sendControlDirective, stopping, running]
  have write := nlsSendFrame_sent e (n.addCmdDataBuffer e .cmdStop []) .cmd false
  obtain ⟨k, moved⟩ := nlsSendFrame_wire e (n.addCmdDataBuffer e .cmdStop []) .cmd false
  have wire : (n.sendControlDirective e).1.wire =
      (n.addCmdDataBuffer e .cmdStop []).wire.send .cmd k := by
    rw [framed]
    exact moved
  have isStop : (n.sendControlDirective e).1.isStop = true := by rw [framed]
  have exit : (n.sendControlDirective e).1.exitStatus = .exitStopping := by
    rw [framed]
    exact (write.exitStatus.trans (addCmdDataBuffer_exitStatus e n .cmdStop [])).trans stopping
  have kept : (n.sendControlDirective e).1.audioFrame = [] := by
    rw [framed]
    exact (write.audioFrame.trans (addCmdDataBuffer_audioFrame e n .cmdStop [])).trans flushed
  have order (all : (n.sendControlDirective e).1.wire.AudioSent) :
      (n.sendControlDirective e).1.InOrder :=
    ⟨fun _ => ⟨by simp [exit], all⟩, fun _ => kept⟩
  rcases addCmdDataBuffer_made e n .cmdStop [] with same | ⟨frame, made, added⟩
  · rw [same] at wire
    refine ⟨Or.inl ?_, fun _ => isStop, order ?_⟩
    · rw [wire]
      exact Wire.Moves.refl.send .cmd k
    · rw [wire]
      exact sent.send .cmd k
  · rw [added] at wire
    have stops : n.wire.StopsBehindAudio e (n.sendControlDirective e).1.wire :=
      ⟨n.wire, frame, k, .refl, sent, made, wire⟩
    exact ⟨Or.inr ⟨running, isStop, stops⟩, fun _ => isStop, order stops.audioSent⟩

/-- `sendControlDirective` behind audio: when Stop is due, none waits. -/
theorem sendControlDirective_turn (order : n.InOrder)
    (sent : n.exitStatus = .exitStopping → n.isStop = false → n.wire.AudioSent) :
    Turn e n (n.sendControlDirective e).1 := by
  by_cases due : n.exitStatus = .exitStopping ∧ n.isStop = false
  · exact sendControlDirective_stops due.1 due.2 (sent due.1 due.2) (order.flushed (Or.inr due.1))
  · refine (sendControlDirective_unstopped fun stopping => ?_).turn order
    by_contra running
    exact due ⟨stopping, by simpa using running⟩

/-! ## Audio -/

lemma audio_evbufferAdd (n : ConnectNode) (payload : Bytes) :
    Moved e n (n.evbufferAdd n.audioBuffer (binaryFrame payload)) where
  moves := Wire.Moves.refl.audio n.audioBuffer_ne_cmd payload
  isStop := rfl
  exitStatus := rfl
  audioFrame := id

/-- As long as no Stop is due, audio is queued and sent without one. -/
theorem pushAudio_moved (running : n.exitStatus ≠ .exitStopping) (payload : Bytes) :
    Moved e n (n.pushAudio e payload).1 := by
  have queued := audio_evbufferAdd (e := e) n payload
  have sent := queued.trans (nlsSendFrame_unstopped e _ n.audioBuffer false).toMoved
  simp only [pushAudio]
  by_cases now : n.sendsNow
  · simp only [now, if_true]
    split
    · refine sent.trans (sendControlDirective_unstopped fun stopping => ?_).toMoved
      exact absurd (sent.exitStatus.symm.trans stopping) running
    · exact sent
  · simp only [now, if_false, Ret.isZero_ok, decide_true, if_true]
    refine queued.trans (sendControlDirective_unstopped fun stopping => ?_).toMoved
    exact absurd stopping running

lemma failSend_unstopped (e : Env) (n : ConnectNode) : Unstopped e n (n.failSend e) := by
  have closed : Unstopped e n n.disconnectProcess :=
    .of_wire (wire_disconnectProcess n) rfl rfl id
  exact closed.trans (handlerTaskFailedEvent_reported e _ _ _).unstopped

theorem addAudioDataBuffer_moved (running : n.exitStatus ≠ .exitStopping) (frame : Bytes) :
    Moved e n (n.addAudioDataBuffer e frame).1 := by
  simp only [addAudioDataBuffer]
  split
  · exact (Unstopped.refl n).toMoved
  split
  · exact (Unstopped.refl n).toMoved
  split
  · exact (Unstopped.refl n).toMoved
  rename_i payload _
  split
  · exact (Unstopped.refl n).toMoved
  have pushed := pushAudio_moved (e := e) running payload
  have noted : Unstopped e (n.pushAudio e payload).1
      { (n.pushAudio e payload).1 with isFirstAudioFrame := false } := .of_wire rfl rfl rfl id
  split
  · exact pushed.trans (failSend_unstopped e _).toMoved
  · exact pushed.trans noted.toMoved

/-- Audio kept back is framed before a Stop is due; afterwards none is kept back. -/
theorem addRemainAudioData_moved (order : n.InOrder) :
    Moved e n (n.addRemainAudioData e).1 ∧ (n.addRemainAudioData e).1.audioFrame = [] ∧
      (n.isStop = true → (n.addRemainAudioData e).1 = n) := by
  by_cases kept : n.audioFrame = []
  · have same : (n.addRemainAudioData e).1 = n := by simp [addRemainAudioData, kept]
    rw [same]
    exact ⟨(Unstopped.refl n).toMoved, kept, fun _ => rfl⟩
  · have running : n.exitStatus ≠ .exitStopping := fun stopping =>
      kept (order.flushed (Or.inr stopping))
    have added := addAudioDataBuffer_moved (e := e) running n.audioFrame
    have emptied : Unstopped e (n.addAudioDataBuffer e n.audioFrame).1
        { (n.addAudioDataBuffer e n.audioFrame).1 with audioFrame := [] } :=
      .of_wire rfl rfl rfl fun _ => rfl
    simp only [addRemainAudioData, kept, if_false]
    exact ⟨added.trans emptied.toMoved, trivial, fun stopped =>
      absurd (order.flushed (Or.inl stopped)) kept⟩

/-- Pushed audio leaves the other buffer of audio as it is. -/
lemma pushAudio_other {j : Output} (other : j ≠ n.audioBuffer) (audio : j ≠ .cmd) (payload : Bytes) :
    (n.pushAudio e payload).1.evBuffer j = n.evBuffer j := by
  have queued : (n.evbufferAdd n.audioBuffer (binaryFrame payload)).evBuffer j = n.evBuffer j := by
    simp [evbufferAdd, other]
  simp only [pushAudio]
  by_cases now : n.sendsNow
  · have sent := (nlsSendFrame_other e (n.evbufferAdd n.audioBuffer (binaryFrame payload)) other
      false).trans queued
    simp only [now, if_true]
    split
    · exact (sendControlDirective_other e _ audio).trans sent
    · exact sent
  · simp only [now, if_false, Ret.isZero_ok, decide_true, if_true]
    exact (sendControlDirective_other e _ audio).trans queued

/-- Audio waits in its buffer unless it is sent at once. -/
lemma pushAudio_waiting (now : ¬n.sendsNow) (payload : Bytes) :
    (n.pushAudio e payload).1.evBuffer n.audioBuffer =
      (n.evBuffer n.audioBuffer).add (binaryFrame payload) := by
  simp only [pushAudio, now, if_false, Ret.isZero_ok, decide_true, if_true]
  rw [sendControlDirective_other e _ n.audioBuffer_ne_cmd]
  simp [evbufferAdd]

/-- Audio that one write takes leaves nothing behind. -/
lemma pushAudio_taken (now : n.sendsNow) {payload : Bytes}
    (taken : (n.channel.drains ((n.evBuffer n.audioBuffer).add (binaryFrame payload))).isSome) :
    ((n.pushAudio e payload).1.evBuffer n.audioBuffer).length = 0 := by
  obtain ⟨c, drains⟩ := Option.isSome_iff_exists.mp taken
  have queued : (n.evbufferAdd n.audioBuffer (binaryFrame payload)).evBuffer n.audioBuffer =
      (n.evBuffer n.audioBuffer).add (binaryFrame payload) := by simp [evbufferAdd]
  rw [← queued] at drains
  have sent := (nlsSendFrame_of_drains (e := e)
    (n := n.evbufferAdd n.audioBuffer (binaryFrame payload)) drains false).1
  simp only [pushAudio, now, if_true]
  split
  · rwa [sendControlDirective_other e _ n.audioBuffer_ne_cmd]
  · exact sent

/-- What accepted audio does to the wire. -/
lemma addAudioDataBuffer_accepted {frame : Bytes} (accepted : ¬n.audioRefused e frame) :
    ∃ payload, n.audioPayload e frame = some payload ∧
      (n.addAudioDataBuffer e frame).1.evBuffer = (n.pushAudio e payload).1.evBuffer := by
  simp only [audioRefused, not_or] at accepted
  obtain ⟨request, nonempty, encoded, room⟩ := accepted
  obtain ⟨payload, framed⟩ := Option.ne_none_iff_exists'.mp encoded
  refine ⟨payload, framed, ?_⟩
  replace request : n.request = true := by simpa using request
  simp only [addAudioDataBuffer, request, Bool.not_true, Bool.false_eq_true, nonempty, framed,
    room, if_false]
  split
  · exact evBuffer_of_unheard (unheard_failSend e _)
  · rfl

/-! ## Stop -/

/-- The audio kept back goes to `.binary`, or one write takes it. -/
def ResidueTaken (e : Env) (n : ConnectNode) : Prop :=
  n.audioFrame ≠ [] → n.audioBuffer = .wwv → ∀ payload,
    n.audioPayload e n.audioFrame = some payload →
      (n.channel.drains ((n.evBuffer .wwv).add (binaryFrame payload))).isSome

/-- A Stop that finds nothing in `.binary` leaves no audio for the wake word behind. -/
def StopCallBehind (e : Env) (n : ConnectNode) : Prop :=
  n.workStatus = .nodeStarted → n.isStop = false → (n.evBuffer .binary).length = 0 →
    (n.evBuffer .wwv).length = 0 ∧ ResidueTaken e n

/-- Behind the audio that Stop flushes nothing waits for the wake word. -/
lemma addRemainAudioData_wwv (order : n.InOrder) (behind : StopCallBehind e n)
    (started : (n.addRemainAudioData e).1.workStatus = .nodeStarted)
    (running : (n.addRemainAudioData e).1.isStop = false)
    (empty : ((n.addRemainAudioData e).1.evBuffer .binary).length = 0) :
    ((n.addRemainAudioData e).1.evBuffer .wwv).length = 0 := by
  have startedBefore : n.workStatus = .nodeStarted := by
    rcases (addRemainAudioData_wrote e n).workStatus with same | closed
    · exact same ▸ started
    · simp [closed] at started
  have runningBefore : n.isStop = false :=
    (addRemainAudioData_moved (e := e) order).1.isStop.symm.trans running
  have direct (same : (n.addRemainAudioData e).1.evBuffer = n.evBuffer) :
      ((n.addRemainAudioData e).1.evBuffer .wwv).length = 0 := by
    rw [same] at empty ⊢
    exact (behind startedBefore runningBefore empty).1
  by_cases kept : n.audioFrame = []
  · exact direct (by simp [addRemainAudioData, kept])
  by_cases refused : n.audioRefused e n.audioFrame
  · refine direct ?_
    simp only [addRemainAudioData, kept, if_false, addAudioDataBuffer_refused refused]
  obtain ⟨payload, framed, same⟩ := addAudioDataBuffer_accepted refused
  have pushed : (n.addRemainAudioData e).1.evBuffer = (n.pushAudio e payload).1.evBuffer := by
    simp only [addRemainAudioData, kept, if_false]
    exact same
  rw [pushed] at empty ⊢
  by_cases binary : n.audioBuffer = .binary
  · rw [pushAudio_other (by simp [binary]) (by decide)]
    refine (behind startedBefore runningBefore ?_).1
    by_cases now : n.sendsNow
    · rw [← binary]
      exact now.1
    · have waiting := pushAudio_waiting (e := e) now payload
      rw [binary] at waiting
      rw [waiting, ChunkQueue.length_add] at empty
      omega
  · have wwv : n.audioBuffer = .wwv := by
      unfold audioBuffer at binary ⊢
      split at binary
      · exact if_pos ‹_›
      · exact absurd rfl binary
    rw [pushAudio_other (j := .binary) (by simp [wwv]) (by decide)] at empty
    obtain ⟨none, taken⟩ := behind startedBefore runningBefore empty
    have now : n.sendsNow := ⟨by rw [wwv]; exact none, Or.inl startedBefore, runningBefore⟩
    rw [← wwv]
    refine pushAudio_taken now ?_
    rw [wwv]
    exact taken kept wwv payload framed

theorem cmdStop_turn (order : n.InOrder) (behind : StopCallBehind e n) (message : Bytes) :
    Turn e n (n.cmdSend e .cmdStop message).1 := by
  obtain ⟨moved, flushed, same⟩ := addRemainAudioData_moved (e := e) order
  have stopping : InOrder { (n.addRemainAudioData e).1 with exitStatus := .exitStopping } := by
    refine ⟨fun stopped => ⟨by simp, ?_⟩, fun _ => flushed⟩
    have stoppedBefore : n.isStop = true := moved.isStop.symm.trans stopped
    have sent := (order.stopped stoppedBefore).2
    rw [← same stoppedBefore] at sent
    exact sent
  have behind_ : Turn e { (n.addRemainAudioData e).1 with exitStatus := .exitStopping }
      (n.cmdSend e .cmdStop message).1 := by
    simp only [cmdSend]
    split
    case isTrue sends =>
      refine sendControlDirective_turn stopping fun _ running => ⟨sends.2, ?_⟩
      exact addRemainAudioData_wwv order behind sends.1 running sends.2
    case isFalse => exact (Unstopped.refl _).turn stopping
  refine ⟨?_, fun stopped => behind_.isStop (moved.isStop.trans stopped), behind_.inOrder⟩
  rcases behind_.wire with moves | ⟨running, stopped, stops⟩
  · exact Or.inl (moved.moves.trans moves)
  · exact Or.inr ⟨moved.isStop.symm.trans running, stopped, stops.after moved.moves⟩

/-! ## Commands and writes -/

/-- A command other than Stop and Cancel. -/
theorem cmdSend_unstopped (e : Env) (n : ConnectNode) {type : CmdType} (other : type ≠ .cmdStop)
    (stays : type ≠ .cmdCancel) (message : Bytes) :
    Unstopped e n (n.cmdSend e type message).1 := by
  cases type with
  | cmdStop => exact absurd rfl other
  | cmdCancel => exact absurd rfl stays
  | cmdStControl =>
    simp only [cmdSend]
    split
    · exact addCmd_send_unstopped e n other message
    · exact addCmdDataBuffer_unstopped e n other message
  | cmdWarkWord =>
    have woken : Unstopped e n { n with isWakeStop := true } := .of_wire rfl rfl rfl id
    simp only [cmdSend]
    split
    · exact woken.trans (addCmd_send_unstopped e _ other [])
    · exact woken
  | cmdSendText =>
    have sent := addCmd_send_unstopped e n other message
    simp only [cmdSend]
    split
    · exact sent.trans (.of_wire rfl rfl rfl id)
    · exact addCmdDataBuffer_unstopped e n other message
  | cmdSendPing => exact addCmd_send_unstopped e n other []
  | cmdSendFlush => exact addCmd_send_unstopped e n other message
  | cmdStart => exact .refl n
  | cmdTextDialog => exact .refl n
  | cmdExecuteDialog => exact .refl n

/-- Cancel ends the session without a Stop. -/
lemma cmdCancel_turn (order : n.InOrder) : Turn e n { n with exitStatus := .exitCancel } := by
  refine ⟨Or.inl .refl, id, ⟨fun stopped => ⟨by simp, (order.stopped stopped).2⟩, fun due => ?_⟩⟩
  rcases due with stopped | stopping
  · exact order.flushed (Or.inl stopped)
  · cases stopping

theorem cmdNotify_turn (order : n.InOrder) {type : CmdType}
    (behind : type = .cmdStop → StopCallBehind e n) (message : Bytes) :
    Turn e n (n.cmdNotify e type message).1 := by
  have sent : Turn e n (n.cmdSend e type message).1 := by
    by_cases stop : type = .cmdStop
    · subst stop
      exact cmdStop_turn order (behind rfl) message
    by_cases cancel : type = .cmdCancel
    · subst cancel
      exact cmdCancel_turn order
    · exact (cmdSend_unstopped e n stop cancel message).turn order
  simp only [cmdNotify]
  split
  · exact sent.same (failSend_unstopped e _) (wire_failSend e _)
  · exact sent

theorem cmdNotify_unstopped (e : Env) (n : ConnectNode) {type : CmdType} (other : type ≠ .cmdStop)
    (stays : type ≠ .cmdCancel) (message : Bytes) :
    Unstopped e n (n.cmdNotify e type message).1 := by
  have sent := cmdSend_unstopped e n other stays message
  simp only [cmdNotify]
  split
  · exact sent.trans (failSend_unstopped e _)
  · exact sent

theorem syncPingCmd_unstopped (e : Env) (n : ConnectNode) :
    Unstopped e n (n.syncPingCmd e).1 := by
  have sent : Unstopped e n (n.nlsSend e pingFrame).1 := by
    have write := nlsSend_sent e n pingFrame
    rcases nlsSend_cases e n (show pingFrame ≠ [] by decide) with ⟨same, -⟩ | ⟨k, -, -, written⟩
    · exact .of_wire same write.isStop write.exitStatus fun none => write.audioFrame.trans none
    · refine ⟨⟨?_, write.isStop, write.exitStatus, fun none => write.audioFrame.trans none⟩, ?_⟩
      · rw [written]
        exact Wire.Moves.refl.ping k
      · rw [written]
        exact id
  simp only [syncPingCmd]
  split
  · exact .refl n
  · split <;> exact sent

lemma gatewayRequest_unstopped (e : Env) (n : ConnectNode) :
    Unstopped e n (n.gatewayRequest e).1 := by
  unfold gatewayRequest
  split
  · exact .refl n
  split
  · exact .refl n
  split
  · exact .refl n
  · rename_i request made
    exact ⟨⟨Wire.Moves.refl.upgrade made, rfl, rfl, id⟩, fun sent => sent.add_cmd request.bytes⟩

/-- When a write empties `.binary` and Stop is due, no audio waits for the wake word. -/
def FlushBehind (n : ConnectNode) : Prop :=
  n.workStatus = .nodeStarted → (n.channel.drains (n.evBuffer .binary)).isSome →
    n.exitStatus = .exitStopping → n.isStop = false → (n.evBuffer .wwv).length = 0

/-- A started node sends its audio, and behind it what is due. -/
lemma started_turn (order : n.InOrder) (started : n.workStatus = .nodeStarted)
    (behind : FlushBehind n) :
    let audio := n.nlsSendFrame e .binary true
    Turn e n (if audio.2.isZero then audio.1.sendControlDirective e else audio).1 := by
  have flushed := nlsSendFrame_unstopped e n .binary true
  dsimp only
  split
  case isFalse => exact flushed.turn order
  case isTrue zero =>
    refine flushed.toMoved.turn (sendControlDirective_turn (flushed.inOrder order) ?_)
    intro stopping running
    rw [flushed.exitStatus] at stopping
    rw [flushed.isStop] at running
    have wwv := behind started (by rw [drains_of_isZero zero]; rfl) stopping running
    refine ⟨(nlsSendFrame_isZero e n .binary true).mp zero, ?_⟩
    exact (congrArg ChunkQueue.length (nlsSendFrame_other e n (by decide) true)).trans wwv

/-- The writes of a node that has not started frame no Stop. -/
lemma requestSend_unstopped (other : n.workStatus ≠ .nodeStarted) :
    Unstopped e n (n.requestSend e).1 := by
  unfold requestSend
  split
  case h_1 =>
    exact ((gatewayRequest_unstopped e n).trans (nlsSendFrame_unstopped e _ .cmd false)).trans
      (.of_wire rfl rfl rfl id)
  case h_2 => exact nlsSendFrame_unstopped e n .cmd false
  case h_3 => exact nlsSendFrame_unstopped e n .cmd false
  case h_4 =>
    have sent := nlsSendFrame_unstopped e n .wwv false
    dsimp only
    split
    · exact sent.trans (addCmd_send_unstopped e _ (by decide) [])
    · exact sent
  case h_5 started => exact absurd started other
  case h_6 => exact .refl n

theorem requestSend_turn (order : n.InOrder) (behind : FlushBehind n) :
    Turn e n (n.requestSend e).1 := by
  by_cases started : n.workStatus = .nodeStarted
  · simp only [requestSend, started]
    exact started_turn order started behind
  · exact (requestSend_unstopped started).turn order

lemma closeConnectNode_unstopped (n : ConnectNode) : Unstopped e n n.closeConnectNode :=
  .of_wire (wire_closeConnectNode n) rfl rfl fun _ => rfl

lemma taskFailed_close_unstopped (e : Env) (n : ConnectNode) (info : Bytes) (code : ℤ) :
    Unstopped e n (n.handlerTaskFailedEvent e info code).closeConnectNode :=
  (handlerTaskFailedEvent_reported e n info code).unstopped.trans (closeConnectNode_unstopped _)

theorem nodeRequestProcess_turn (order : n.InOrder) (behind : FlushBehind n) :
    Turn e n (n.nodeRequestProcess e).1 := by
  have sent := requestSend_turn (e := e) order behind
  simp only [nodeRequestProcess]
  split
  · exact (Unstopped.refl n).turn order
  split
  · exact sent.same (taskFailed_close_unstopped e _ _ _) (by simp)
  · exact sent

theorem nodeRequestProcess_unstopped (other : n.workStatus ≠ .nodeStarted) :
    Unstopped e n (n.nodeRequestProcess e).1 := by
  have sent := requestSend_unstopped (e := e) other
  simp only [nodeRequestProcess]
  split
  · exact .refl n
  split
  · exact sent.trans (taskFailed_close_unstopped e _ _ _)
  · exact sent

lemma failEvent_unstopped (e : Env) (n : ConnectNode) (text : String) (code : ℤ) :
    Unstopped e n (n.failEvent e text code) :=
  (closeConnectNode_unstopped n).trans (handlerTaskFailedEvent_reported e _ _ _).unstopped

lemma destroyConnectNode_unstopped (n : ConnectNode) : Unstopped e n n.destroyConnectNode := by
  unfold destroyConnectNode
  split
  · exact .refl n
  split <;> exact .of_wire rfl rfl rfl id

theorem writeEventCallBack_turn (order : n.InOrder) {what : EventKind}
    (behind : what = .ready → FlushBehind n) : Turn e n (n.writeEventCallBack e what) := by
  have destroyed (m : ConnectNode) (turn : Turn e n m) :
      Turn e n (if m.workStatus = .nodeInvalid then m.destroyConnectNode else m) := by
    split
    · exact turn.same (destroyConnectNode_unstopped m) (wire_destroyConnectNode m)
    · exact turn
  unfold writeEventCallBack
  split
  · exact (Unstopped.refl n).turn order
  split
  · exact (closeConnectNode_unstopped n).turn order
  cases what with
  | ready => exact destroyed _ (nodeRequestProcess_turn order (behind rfl))
  | timeout => exact destroyed _ ((failEvent_unstopped e n _ _).turn order)
  | unknown => exact destroyed _ ((failEvent_unstopped e n _ _).turn order)

end ConnectNode

end NlsSdk.Transport
