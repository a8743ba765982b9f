import NlsSdk.Transport.Wire

/-!
# Sending in turns

A `Discipline` is a property of the wire that is kept when each send is made
from a safe buffer. `sources` lists the buffers a call may send from in the
state it finds; when they are safe, so is everything the call writes.
-/
namespace NlsSdk.Transport

open NlsSdk.Library

/-- A property of the wire kept by safe moves. -/
structure Discipline where
  Inv : Wire → Prop
  Safe : Wire → Output → Prop
  add : ∀ {v}, Inv v → ∀ i {frame}, IsFrame frame → Inv (v.add i frame)
  send : ∀ {v}, Inv v → ∀ {i}, Safe v i → ∀ k, Inv (v.send i k)
  direct : ∀ {v}, Inv v → (∀ i, Safe v i) → Inv (v.direct pingFrame)
  safe_add : ∀ {v i}, Safe v i → ∀ j frame, Safe (v.add j frame) i
  safe_send : ∀ {v i}, Safe v i → ∀ k, Safe (v.send i k) i
  /-- once a safe buffer is empty every buffer is safe -/
  drained : ∀ {v i}, Inv v → Safe v i → (v.evBuffer i).length = 0 → ∀ j, Safe v j

namespace ConnectNode

variable {e : Env} {n m : ConnectNode}

/-! ## Single sends -/

/-- `m` is `n` after writes to the socket: nothing but the wire, the error text and the mark of
the first audio frame may differ. -/
def Sent (n m : ConnectNode) : Prop :=
  ∃ (s : Sending) (firstAudio : ℕ) (isFirstBinaryFrame : Bool) (nodeErrMsg : Bytes),
    m = { n with
      toSending := s
      isFirstBinaryFrame
      nodeErrMsg
      reconnection := { n.reconnection with firstAudioTimestampMs := firstAudio } }

theorem Sent.refl (n : ConnectNode) : Sent n n := ⟨_, _, _, _, rfl⟩

theorem Sent.trans {k : ConnectNode} (h : Sent n m) (h' : Sent m k) : Sent n k := by
  obtain ⟨s, t, f, msg, rfl⟩ := h
  obtain ⟨s', t', f', msg', rfl⟩ := h'
  exact ⟨s', t', f', msg', rfl⟩

@[simp] theorem wire_evbufferAdd (n : ConnectNode) (i : Output) (frame : Bytes) :
    (n.evbufferAdd i frame).wire = n.wire.add i frame := rfl

lemma evbufferAdd_sent (n : ConnectNode) (i : Output) (frame : Bytes) :
    Sent n (n.evbufferAdd i frame) := ⟨_, _, _, _, rfl⟩

lemma evbufferDrain_sent (n : ConnectNode) (i : Output) (k : ℕ) :
    Sent n (n.evbufferDrain i k) := ⟨_, _, _, _, rfl⟩

lemma nlsSend_sent (e : Env) (n : ConnectNode) (frame : Bytes) : Sent n (n.nlsSend e frame).1 := by
  simp only [nlsSend]
  split
  · exact Sent.refl n
  · split <;> exact ⟨_, _, _, _, rfl⟩

lemma noteFirstAudio_sent (e : Env) (n : ConnectNode) (audioFrame : Bool) :
    Sent n (n.noteFirstAudio e audioFrame) := by
  unfold noteFirstAudio
  split <;> exact ⟨_, _, _, _, rfl⟩

lemma afterSend_sent (e : Env) (n : ConnectNode) (i : Output) (audioFrame : Bool) (k : ℕ) :
    Sent n (n.afterSend e i audioFrame k).1 :=
  (noteFirstAudio_sent e n audioFrame).trans (evbufferDrain_sent _ i k)

theorem nlsSendFrame_sent (e : Env) (n : ConnectNode) (i : Output) (audioFrame : Bool) :
    Sent n (n.nlsSendFrame e i audioFrame).1 := by
  have sent := nlsSend_sent e n ((n.evBuffer i).peek nodeFrameSize)
  simp only [nlsSendFrame]
  split
  · exact Sent.refl n
  split
  · exact sent
  · exact sent.trans (afterSend_sent e _ i audioFrame _)

/-- A write fails and leaves the wire alone, or puts the part it takes on it. -/
theorem nlsSend_cases (e : Env) (n : ConnectNode) {frame : Bytes} (h : frame ≠ []) :
    ((n.nlsSend e frame).1.wire = n.wire ∧ (n.nlsSend e frame).2 = .error .sslWriteFailed) ∨
    ∃ k, n.channel.accepted frame = some k ∧ (n.nlsSend e frame).2 = .ok k ∧
      (n.nlsSend e frame).1.wire = n.wire.direct (frame.take k) := by
  simp only [nlsSend, h, if_false]
  split
  case h_1 refused => exact Or.inl ⟨by simp [wire, Channel.send, refused], rfl⟩
  case h_2 k taken =>
    exact Or.inr ⟨k, taken, rfl, by simp [wire, Channel.send, taken, Wire.direct]⟩

lemma send_zero (v : Wire) (i : Output) : v.send i 0 = v := by
  have same : (v.evBuffer i).drain 0 = v.evBuffer i := by
    obtain ⟨c, cs⟩ := v.evBuffer i
    cases c with
    | nil => cases cs <;> rfl
    | cons b c => simp [ChunkQueue.drain]
  simp [Wire.send, same, ChunkQueue.peek]

lemma afterSend_wire (e : Env) (n : ConnectNode) (i : Output) (audioFrame : Bool) (k : ℕ) :
    (n.afterSend e i audioFrame k).1.wire =
      { n.wire with
        evBuffer := Function.update n.evBuffer i ((n.evBuffer i).drain k) } := by
  simp only [afterSend, noteFirstAudio]
  split <;> rfl

/-- The head of a buffer goes to the wire as far as the socket takes it. -/
theorem nlsSendFrame_wire (e : Env) (n : ConnectNode) (i : Output) (audioFrame : Bool) :
    ∃ k, (n.nlsSendFrame e i audioFrame).1.wire = n.wire.send i k := by
  by_cases empty : (n.evBuffer i).length = 0
  · exact ⟨0, by simp [nlsSendFrame, empty, send_zero]⟩
  have offered : (n.evBuffer i).peek nodeFrameSize ≠ [] := by
    rw [ChunkQueue.length_eq_zero] at empty
    simpa [ChunkQueue.peek, nodeFrameSize] using empty
  simp only [nlsSendFrame, empty, if_false]
  rcases nlsSend_cases e n offered with ⟨same, refused⟩ | ⟨k, taken, ok, written⟩
  · exact ⟨0, by rw [refused, send_zero]; exact same⟩
  · refine ⟨k, ?_⟩
    have bound : k ≤ nodeFrameSize := by
      have := Channel.accepted_le taken
      rw [ChunkQueue.length_peek] at this
      omega
    have head : ((n.evBuffer i).peek nodeFrameSize).take k = (n.evBuffer i).peek k := by
      simp [ChunkQueue.peek, List.take_take, Nat.min_eq_left bound]
    rw [ok]
    have same : (n.nlsSend e ((n.evBuffer i).peek nodeFrameSize)).1.evBuffer = n.evBuffer :=
      congrArg Wire.evBuffer written
    rw [afterSend_wire, written, same, head]
    rfl

/-- A send returns zero just when it leaves its buffer empty. -/
theorem nlsSendFrame_isZero (e : Env) (n : ConnectNode) (i : Output) (audioFrame : Bool) :
    (n.nlsSendFrame e i audioFrame).2.isZero ↔
      ((n.nlsSendFrame e i audioFrame).1.evBuffer i).length = 0 := by
  by_cases empty : (n.evBuffer i).length = 0
  · simp [nlsSendFrame, empty]
  have offered : (n.evBuffer i).peek nodeFrameSize ≠ [] := by
    rw [ChunkQueue.length_eq_zero] at empty
    simpa [ChunkQueue.peek, nodeFrameSize] using empty
  simp only [nlsSendFrame, empty, if_false]
  rcases nlsSend_cases e n offered with ⟨same, refused⟩ | ⟨k, -, ok, -⟩
  · have kept := congrArg Wire.evBuffer same
    rw [refused]
    simpa [show (n.nlsSend e ((n.evBuffer i).peek nodeFrameSize)).1.evBuffer = n.evBuffer
      from kept] using empty
  · rw [ok]
    simp only [afterSend]
    split
    · simp; omega
    · simp

/-- Only the buffer that is sent from changes. -/
theorem nlsSendFrame_other (e : Env) (n : ConnectNode) {i j : Output} (h : j ≠ i)
    (audioFrame : Bool) : (n.nlsSendFrame e i audioFrame).1.evBuffer j = n.evBuffer j := by
  obtain ⟨k, moved⟩ := nlsSendFrame_wire e n i audioFrame
  have := congrFun (congrArg Wire.evBuffer moved) j
  simpa [wire, Wire.send, h] using this

/-! ## Sends under a discipline -/

section Keeps

variable {d : Discipline} {i j : Output}

theorem nlsSendFrame_keeps (inv : d.Inv n.wire) (safe : d.Safe n.wire i) (audioFrame : Bool) :
    d.Inv (n.nlsSendFrame e i audioFrame).1.wire := by
  obtain ⟨k, moved⟩ := nlsSendFrame_wire e n i audioFrame
  rw [moved]
  exact d.send inv safe k

theorem nlsSendFrame_safe (safe : d.Safe n.wire i) (audioFrame : Bool) :
    d.Safe (n.nlsSendFrame e i audioFrame).1.wire i := by
  obtain ⟨k, moved⟩ := nlsSendFrame_wire e n i audioFrame
  rw [moved]
  exact d.safe_send safe k

/-- Behind a send that emptied its buffer every buffer is safe. -/
theorem nlsSendFrame_drained (inv : d.Inv n.wire) (safe : d.Safe n.wire i) {audioFrame : Bool}
    (zero : (n.nlsSendFrame e i audioFrame).2.isZero) (j : Output) :
    d.Safe (n.nlsSendFrame e i audioFrame).1.wire j :=
  d.drained (nlsSendFrame_keeps inv safe audioFrame) (nlsSendFrame_safe safe audioFrame)
    ((nlsSendFrame_isZero e n i audioFrame).mp zero) j

lemma cmdFrame_isFrame {type : CmdType} {message frame : Bytes}
    (h : cmdFrame e type message = some frame) : IsFrame frame := by
  unfold cmdFrame at h
  split at h
  · simp at h
  · simp at h
  · exact Option.some.inj h ▸ isFrame_framePackage _ _
  · obtain ⟨text, -, rfl⟩ := Option.map_eq_some_iff.mp h
    exact isFrame_framePackage _ _

/-- A command changes the buffers and the mark of a reconnection, and nothing else. -/
lemma addCmdDataBuffer_same (e : Env) (n : ConnectNode) (type : CmdType) (message : Bytes) :
    ∃ buffers frames marks, n.addCmdDataBuffer e type message =
      { n with evBuffer := buffers, queued := frames, reconnection := marks } := by
  simp only [addCmdDataBuffer]
  split
  · exact ⟨_, _, _, rfl⟩
  split
  · split <;> exact ⟨_, _, _, rfl⟩
  · split <;> exact ⟨_, _, _, rfl⟩

/-- A command goes to the command buffer as the frame made of it. -/
theorem addCmdDataBuffer_made (e : Env) (n : ConnectNode) (type : CmdType) (message : Bytes) :
    (n.addCmdDataBuffer e type message).wire = n.wire ∨
      ∃ frame, cmdFrame e type message = some frame ∧
        (n.addCmdDataBuffer e type message).wire = n.wire.add .cmd frame := by
  simp only [addCmdDataBuffer]
  split
  · exact Or.inl rfl
  split
  · left; split <;> rfl
  · rename_i frame made
    exact Or.inr ⟨frame, made, by split <;> rfl⟩

/-- A command is queued whole, or not at all. -/
theorem addCmdDataBuffer_wire (e : Env) (n : ConnectNode) (type : CmdType) (message : Bytes) :
    (n.addCmdDataBuffer e type message).wire = n.wire ∨
      ∃ frame, IsFrame frame ∧
        (n.addCmdDataBuffer e type message).wire = n.wire.add .cmd frame := by
  rcases addCmdDataBuffer_made e n type message with same | ⟨frame, made, added⟩
  · exact Or.inl same
  · exact Or.inr ⟨frame, cmdFrame_isFrame made, added⟩

/-- A command goes to the command buffer. -/
theorem addCmdDataBuffer_other (e : Env) (n : ConnectNode) {j : Output} (h : j ≠ .cmd)
    (type : CmdType) (message : Bytes) :
    (n.addCmdDataBuffer e type message).evBuffer j = n.evBuffer j := by
  rcases addCmdDataBuffer_wire e n type message with same | ⟨frame, -, added⟩
  · exact congrFun (congrArg Wire.evBuffer same) j
  · have := congrFun (congrArg Wire.evBuffer added) j
    simpa [wire, Wire.add, h] using this

theorem addCmdDataBuffer_keeps (inv : d.Inv n.wire) (type : CmdType) (message : Bytes) :
    d.Inv (n.addCmdDataBuffer e type message).wire := by
  rcases addCmdDataBuffer_wire e n type message with same | ⟨frame, isFrame, added⟩
  · rwa [same]
  · rw [added]
    exact d.add inv .cmd isFrame

theorem addCmdDataBuffer_safe (safe : d.Safe n.wire i) (type : CmdType) (message : Bytes) :
    d.Safe (n.addCmdDataBuffer e type message).wire i := by
  rcases addCmdDataBuffer_wire e n type message with same | ⟨frame, -, added⟩
  · rwa [same]
  · rw [added]
    exact d.safe_add safe .cmd frame

/-- Queue a command and send the command buffer. -/
theorem addCmd_send_keeps (inv : d.Inv n.wire) (safe : d.Safe n.wire .cmd) (type : CmdType)
    (message : Bytes) :
    d.Inv ((n.addCmdDataBuffer e type message).nlsSendFrame e .cmd false).1.wire :=
  nlsSendFrame_keeps (addCmdDataBuffer_keeps inv type message)
    (addCmdDataBuffer_safe safe type message) false

theorem addCmd_send_safe (safe : d.Safe n.wire .cmd) (type : CmdType) (message : Bytes) :
    d.Safe ((n.addCmdDataBuffer e type message).nlsSendFrame e .cmd false).1.wire .cmd :=
  nlsSendFrame_safe (addCmdDataBuffer_safe safe type message) false

theorem addCmd_send_other (e : Env) (n : ConnectNode) {j : Output} (h : j ≠ .cmd)
    (type : CmdType) (message : Bytes) :
    ((n.addCmdDataBuffer e type message).nlsSendFrame e .cmd false).1.evBuffer j =
      n.evBuffer j :=
  (nlsSendFrame_other e _ h false).trans (addCmdDataBuffer_other e n h type message)

end Keeps

end ConnectNode

end NlsSdk.Transport
