import NlsSdk.Transport.AudioSlicer
import NlsSdk.Transport.Sources

/-!
# Retrying a call that was pushed back

A piece of audio is refused before anything of it is queued when its buffer is
above the limit or the encoder fails. By then `addSlicedAudioDataBuffer` has put
the audio kept back into the piece and emptied `_audioFrame`, and pieces of the
same call may be queued in front of it.
-/
namespace NlsSdk.Transport

open NlsSdk.Library

/-- The codes of back-pressure and of an encoder that fails. -/
def NlsRetCode.refusal (code : NlsRetCode) : Prop :=
  code = .evbufferTooMuch ∨ code = .nlsEncodingFailed

namespace ConnectNode

variable {e : Env} {n : ConnectNode} {frame : Bytes} {code : NlsRetCode}

/-! ## What a failing call has queued -/

lemma nlsSend_queued (e : Env) (n : ConnectNode) (frame : Bytes) :
    (n.nlsSend e frame).1.queued = n.queued := by
  unfold nlsSend
  split
  · rfl
  · dsimp only
    split <;> rfl

lemma afterSend_queued (e : Env) (n : ConnectNode) (i : Output) (audioFrame : Bool) (k : ℕ) :
    (n.afterSend e i audioFrame k).1.queued = n.queued := by
  simp only [afterSend, noteFirstAudio, evbufferDrain]
  split <;> rfl

lemma nlsSendFrame_queued (e : Env) (n : ConnectNode) (i : Output) (audioFrame : Bool) :
    (n.nlsSendFrame e i audioFrame).1.queued = n.queued := by
  simp only [nlsSendFrame]
  split
  · rfl
  split
  · exact nlsSend_queued ..
  · exact (afterSend_queued ..).trans (nlsSend_queued ..)

/-- A send fails with codes of its own. -/
lemma nlsSendFrame_error {i : Output} {audioFrame : Bool}
    (fails : (n.nlsSendFrame e i audioFrame).2 = .error code) : ¬code.refusal := by
  revert fails
  simp only [nlsSendFrame, afterSend]
  split
  · intro fails
    cases fails
  split
  · intro fails
    cases fails
    simp [NlsRetCode.refusal]
  · split
    · intro fails
      cases fails
      simp [NlsRetCode.refusal]
    · intro fails
      cases fails

lemma addCmdDataBuffer_queued (e : Env) (n : ConnectNode) (type : CmdType) (message : Bytes) :
    n.queued <+: (n.addCmdDataBuffer e type message).queued := by
  rcases addCmdDataBuffer_made e n type message with same | ⟨frame, -, added⟩
  · have queued : (n.addCmdDataBuffer e type message).queued = n.queued :=
      congrArg Wire.queued same
    rw [queued]
  · have queued : (n.addCmdDataBuffer e type message).queued = n.queued ++ [frame] :=
      congrArg Wire.queued added
    rw [queued]
    exact List.prefix_append ..

lemma sendControlDirective_queued (e : Env) (n : ConnectNode) :
    n.queued <+: (n.sendControlDirective e).1.queued := by
  unfold sendControlDirective
  split
  · split
    · rw [nlsSendFrame_queued]
    · exact List.prefix_rfl
  · split
    · dsimp only
      rw [nlsSendFrame_queued]
      exact addCmdDataBuffer_queued ..
    · exact List.prefix_rfl

lemma sendControlDirective_error (fails : (n.sendControlDirective e).2 = .error code) :
    ¬code.refusal := by
  revert fails
  unfold sendControlDirective
  split
  · split
    · exact nlsSendFrame_error
    · intro fails
      cases fails
  · split
    · exact nlsSendFrame_error
    · intro fails
      cases fails

/-- The frame is queued before anything is sent. -/
lemma pushAudio_queued (e : Env) (n : ConnectNode) (payload : Bytes) :
    n.queued ++ [binaryFrame payload] <+: (n.pushAudio e payload).1.queued := by
  have queued : (n.evbufferAdd n.audioBuffer (binaryFrame payload)).queued =
      n.queued ++ [binaryFrame payload] := rfl
  simp only [pushAudio]
  rw [← queued]
  by_cases now : n.sendsNow
  · have sent := nlsSendFrame_queued e (n.evbufferAdd n.audioBuffer (binaryFrame payload))
      n.audioBuffer false
    simp only [now, if_true]
    split
    · have directed := sendControlDirective_queued e
        ((n.evbufferAdd n.audioBuffer (binaryFrame payload)).nlsSendFrame e n.audioBuffer false).1
      rwa [sent] at directed
    · rw [sent]
  · simp only [now, if_false, Ret.isZero_ok, decide_true, if_true]
    exact sendControlDirective_queued ..

lemma pushAudio_error {payload : Bytes} (fails : (n.pushAudio e payload).2 = .error code) :
    ¬code.refusal := by
  revert fails
  simp only [pushAudio]
  by_cases now : n.sendsNow
  · simp only [now, if_true]
    split
    · exact sendControlDirective_error
    · exact nlsSendFrame_error
  · simp only [now, if_false, Ret.isZero_ok, decide_true, if_true]
    exact sendControlDirective_error

/-- A frame that is not refused is queued, and what fails behind that is a send. -/
lemma addAudioDataBuffer_queued (accepted : ¬n.audioRefused e frame) :
    (∃ payload, n.audioPayload e frame = some payload ∧
      n.queued ++ [binaryFrame payload] <+: (n.addAudioDataBuffer e frame).1.queued) ∧
      ∀ code, (n.addAudioDataBuffer e frame).2 = .error code → ¬code.refusal := by
  simp only [audioRefused, not_or] at accepted
  obtain ⟨request, nonempty, encoded, room⟩ := accepted
  obtain ⟨payload, framed⟩ := Option.ne_none_iff_exists'.mp encoded
  replace request : n.request = true := by simpa using request
  simp only [addAudioDataBuffer, request, Bool.not_true, Bool.false_eq_true, nonempty, framed,
    room, if_false]
  have queued := pushAudio_queued e n payload
  split
  · have same := congrArg Wire.queued (wire_failSend e (n.pushAudio e payload).1)
    refine ⟨⟨payload, rfl, ?_⟩, fun code fails => pushAudio_error fails⟩
    rwa [← show ((n.pushAudio e payload).1.failSend e).queued = (n.pushAudio e payload).1.queued
      from same] at queued
  · refine ⟨⟨payload, rfl, queued⟩, fun code fails => ?_⟩
    cases fails

/-- Back-pressure and a failing encoder leave the node as it was. -/
theorem addAudioDataBuffer_refusal (fails : (n.addAudioDataBuffer e frame).2 = .error code)
    (refusal : code.refusal) :
    n.audioRefused e frame ∧ (n.addAudioDataBuffer e frame).1 = n := by
  by_cases refused : n.audioRefused e frame
  · exact ⟨refused, addAudioDataBuffer_refused refused⟩
  · exact absurd refusal ((addAudioDataBuffer_queued refused).2 code fails)

lemma addAudioDataBuffer_accepts {k : ℕ} (ok : (n.addAudioDataBuffer e frame).2 = .ok k) :
    ¬n.audioRefused e frame := by
  revert ok
  simp only [addAudioDataBuffer, audioRefused]
  split
  · intro ok
    cases ok
  split
  · intro ok
    cases ok
  split
  · intro ok
    cases ok
  split
  · intro ok
    cases ok
  · intro _
    simp_all

lemma addAudioDataBuffer_prefix (e : Env) (n : ConnectNode) (frame : Bytes) :
    n.queued <+: (n.addAudioDataBuffer e frame).1.queued := by
  by_cases refused : n.audioRefused e frame
  · rw [addAudioDataBuffer_refused refused]
  · obtain ⟨payload, -, queued⟩ := (addAudioDataBuffer_queued refused).1
    exact (List.prefix_append ..).trans queued

end ConnectNode

namespace Slicing

variable {encoder : NlsEncoder} {e : Env} {n : ConnectNode} {s : Slicing} {frame : Bytes}
  {code : NlsRetCode}

/-! ## The first piece of a call -/

lemma hand_queued (s : Slicing) (e : Env) (size : ℕ) :
    s.node.queued <+: (s.hand e size).node.queued :=
  ConnectNode.addAudioDataBuffer_prefix ..

lemma hand_refused {size : ℕ} (fails : (s.hand e size).failure = some code)
    (refusal : code.refusal) :
    s.node.audioRefused e (s.node.audioFrame.take size) ∧
      (s.hand e size).node = { s.node with audioFrame := [] } := by
  have sent : (s.node.addAudioDataBuffer e (s.node.audioFrame.take size)).2 = .error code := by
    unfold hand at fails
    dsimp only at fails
    split at fails
    · rename_i other is
      rw [is, Option.some.inj fails]
    · cases fails
  obtain ⟨refused, same⟩ := ConnectNode.addAudioDataBuffer_refusal sent refusal
  exact ⟨refused, congrArg (fun m : ConnectNode => { m with audioFrame := [] }) same⟩

lemma hand_accepted {size : ℕ} (fine : (s.hand e size).failure = none) :
    ¬s.node.audioRefused e (s.node.audioFrame.take size) ∧
      s.node.queued.length < (s.hand e size).node.queued.length := by
  have accepted : ¬s.node.audioRefused e (s.node.audioFrame.take size) := by
    unfold hand at fine
    dsimp only at fine
    split at fine
    · cases fine
    · rename_i k is
      exact ConnectNode.addAudioDataBuffer_accepts is
  obtain ⟨payload, -, queued⟩ := (ConnectNode.addAudioDataBuffer_queued accepted).1
  have longer := queued.length_le
  rw [List.length_append, List.length_singleton] at longer
  exact ⟨accepted, longer⟩

lemma sliceLoop_queued (fuel : ℕ) (s : Slicing) (frame : Bytes) :
    s.node.queued <+: (sliceLoop encoder e fuel s frame).node.queued := by
  induction fuel generalizing s frame with
  | zero => exact List.prefix_rfl
  | succ fuel ih =>
    have handed := fun size => hand_queued (s.fill encoder frame) e size
    rw [sliceLoop]
    dsimp only
    split
    · split
      · exact handed _
      · exact (handed _).trans (ih _ _)
    · split
      · split
        · exact handed _
        · exact (handed _).trans (ih _ _)
      · exact List.prefix_rfl

/-- A call that fails does so at its first piece, or it has queued one by then. -/
lemma sliceLoop_first {fuel : ℕ} (clean : s.failure = none)
    (fails : (sliceLoop encoder e (fuel + 1) s frame).failure = some code) :
    ∃ size, (s.fill encoder frame).node.audioFrame.take size =
        (s.fill encoder frame).node.audioFrame.take encoder.frameSampleBytes ∧
      (sliceLoop encoder e (fuel + 1) s frame = (s.fill encoder frame).hand e size ∨
        ((s.fill encoder frame).hand e size).failure = none ∧
          ((s.fill encoder frame).hand e size).node.queued <+:
            (sliceLoop encoder e (fuel + 1) s frame).node.queued) := by
  rw [sliceLoop] at fails ⊢
  dsimp only at fails ⊢
  split_ifs at fails ⊢ with full last _ last'
  · exact ⟨_, rfl, Or.inl rfl⟩
  · rw [not_or, Bool.not_eq_true, Option.isSome_eq_false_iff, Option.isNone_iff_eq_none] at last
    exact ⟨_, rfl, Or.inr ⟨last.1, sliceLoop_queued ..⟩⟩
  · refine ⟨_, ?_, Or.inl rfl⟩
    rw [List.take_length, List.take_of_length_le (by omega)]
  · rw [not_or, Bool.not_eq_true, Option.isSome_eq_false_iff, Option.isNone_iff_eq_none] at last'
    refine ⟨_, ?_, Or.inr ⟨last'.1, sliceLoop_queued ..⟩⟩
    rw [List.take_length, List.take_of_length_le (by omega)]
  · rw [show (s.fill encoder frame).failure = s.failure from rfl, clean] at fails
    cases fails

/-- Nothing of the call is queued, and what was kept from the calls before is still there. -/
def Untouched (n : ConnectNode) (s : Slicing) : Prop :=
  s.node.queued = n.queued ∧ s.node.evBuffer = n.evBuffer ∧ s.node.audioFrame = n.audioFrame

/-- Without audio kept back, the first piece is the head of the frame. -/
lemma fill_take (empty : s.node.audioFrame = []) :
    (s.fill encoder frame).node.audioFrame.take encoder.frameSampleBytes =
      frame.take encoder.frameSampleBytes := by
  have room : s.space encoder = encoder.frameSampleBytes := by simp [space, empty]
  rw [fill_audioFrame, empty, room, List.nil_append, List.take_take, min_self]

lemma sliceLoop_untouched {fuel : ℕ} (clean : s.failure = none)
    (fails : (sliceLoop encoder e (fuel + 1) s frame).failure = some code)
    (refusal : code.refusal) :
    Untouched s.node (sliceLoop encoder e (fuel + 1) s frame) ↔
      s.node.audioFrame = [] ∧ s.node.audioRefused e (frame.take encoder.frameSampleBytes) := by
  have same : ∀ piece, (s.fill encoder frame).node.audioRefused e piece ↔
      s.node.audioRefused e piece := fun piece => Iff.rfl
  obtain ⟨size, piece, first | ⟨fine, goes⟩⟩ := sliceLoop_first clean fails
  · rw [first] at fails ⊢
    obtain ⟨refused, emptied⟩ := hand_refused fails refusal
    rw [piece, same] at refused
    rw [Untouched, emptied]
    constructor
    · rintro ⟨-, -, kept⟩
      refine ⟨kept.symm, ?_⟩
      rwa [fill_take kept.symm] at refused
    · rintro ⟨empty, -⟩
      exact ⟨rfl, rfl, empty.symm⟩
  · obtain ⟨accepted, longer⟩ := hand_accepted fine
    rw [piece, same] at accepted
    constructor
    · rintro ⟨unqueued, -⟩
      have longest := goes.length_le
      rw [unqueued] at longest
      exact absurd longer (Nat.not_lt.mpr longest)
    · rintro ⟨empty, refused⟩
      rw [fill_take empty] at accepted
      exact absurd refused accepted

/-- A started node with a byte kept back and audio waiting for the socket. -/
def halfKept (waiting : EvBuffer) : ConnectNode :=
  { nlsEncoder := true
    workStatus := .nodeStarted
    audioFrame := [1]
    queued := waiting.whole
    evBuffer := Function.update (fun _ => {}) .binary waiting }

lemma halfKept_pushed_back {waiting : EvBuffer} (full : buffer16kMaxLimit ≤ waiting.length) :
    (halfKept waiting).addSlicedAudioDataBuffer {} ⟨.encoderOpus, 2⟩ [2] =
      { node := { halfKept waiting with audioFrame := [] }
        handed := [[1, 2]]
        filling := 2
        failure := some .evbufferTooMuch } := by
  have limit : (halfKept waiting).limitSize = buffer16kMaxLimit := rfl
  simp [halfKept, ConnectNode.addSlicedAudioDataBuffer, sliceLoop, hand, fill, space,
    ConnectNode.addAudioDataBuffer, ConnectNode.audioPayload, ConnectNode.audioBuffer, full]

/-- 300 frames of 640 bytes are above the limit. -/
lemma waiting_full {payload : Bytes} (size : payload.length = 640) :
    buffer16kMaxLimit ≤ ({ whole := List.replicate 300 (binaryFrame payload) } : EvBuffer).length := by
  have long := length_framePackage .binaryFrame payload
  have limit : buffer16kMaxLimit = 192000 := rfl
  rw [limit, ChunkQueue.length, ChunkQueue.bytes_mk, List.nil_append, List.length_flatten,
    List.map_replicate, List.sum_replicate, smul_eq_mul, binaryFrame]
  omega

end Slicing

end NlsSdk.Transport
