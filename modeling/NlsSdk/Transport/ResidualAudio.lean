import NlsSdk.Transport.SliceRetry

/-!
# The audio kept back at Stop

A byte of an accepted call is in a piece that was encoded and queued, or kept
back in `_audioFrame`. `cmdNotify` queues what is kept back in front of the Stop
directive and does not look at the result.
-/
namespace NlsSdk.Transport

open NlsSdk.Library

/-- A node, the bytes of the calls it accepted, and the pieces that were encoded and queued, each
with what the encoder made of it. -/
structure AudioSession where
  node : ConnectNode
  accepted : Bytes := []
  pieces : List (Bytes × Option Bytes) := []

inductive AudioCall
  | sendAudio (e : Env) (type : EncoderType) (frame : Bytes)
  /-- what the node is when the work thread has had its turn -/
  | meanwhile (node : ConnectNode)

namespace ConnectNode

/-- The audio as one piece. -/
def addWholeAudio (e : Env) (n : ConnectNode) (frame : Bytes) : Slicing :=
  match n.addAudioDataBuffer e frame with
  | (sent, .error code) => { node := sent, handed := [frame], failure := some code }
  | (sent, .ok k) => { node := sent, handed := [frame], filling := k }

/-- `NlsEventNetWork::sendAudio`: only with an encoder type the audio is sliced. -/
def sendAudio (e : Env) (encoder : NlsEncoder) (n : ConnectNode) (type : EncoderType)
    (frame : Bytes) : Slicing :=
  if type ≠ .encoderNone then n.addSlicedAudioDataBuffer e encoder frame
  else n.addWholeAudio e frame

/-- The work thread writes and reads; the connection and the audio kept back stay. -/
structure Kept (n m : ConnectNode) : Prop where
  audioFrame : m.audioFrame = n.audioFrame
  queued : n.queued <+: m.queued

/-- Stop flushes a piece that is refused. -/
def ResidueRefused (e : Env) (n : ConnectNode) : Prop :=
  n.audioFrame ≠ [] ∧ n.audioRefused e n.audioFrame

/-- Nothing waits in front of the Stop directive, and its write fails. -/
def DirectiveFails (e : Env) (n : ConnectNode) : Prop :=
  n.workStatus = .nodeStarted ∧ (n.evBuffer .binary).length = 0 ∧ n.isStop = false ∧
    ((n.addCmdDataBuffer e .cmdStop []).nlsSendFrame e .cmd false).2.failed = true

/-- The call fails, or a callback is made. -/
def StopReports (e : Env) (n : ConnectNode) : Prop :=
  (n.cmdNotify e .cmdStop []).2.failed = true ∨
    (n.cmdNotify e .cmdStop []).1.callbacks ≠ n.callbacks

end ConnectNode

namespace AudioSession

variable (encoder : NlsEncoder)

def step (s : AudioSession) : AudioCall → AudioSession
  | .sendAudio e type frame =>
    let slicing := (s.node.withEnv e).sendAudio e encoder type frame
    { node := slicing.node
      accepted := s.accepted ++ frame
      pieces := s.pieces ++ slicing.handed.map fun piece => (piece, s.node.audioPayload e piece) }
  | .meanwhile node => { s with node := node }

/-- The calls are accepted: they are not empty, which `INlsRequest::sendAudio` checks, and do not
fail. -/
def Accepts (s : AudioSession) : AudioCall → Prop
  | .sendAudio e type frame =>
    frame ≠ [] ∧ ((s.node.withEnv e).sendAudio e encoder type frame).failure = none
  | .meanwhile node => s.node.Kept node

/-- The piece kept back is queued behind what is queued at the call, if at all. -/
def stop (s : AudioSession) (e : Env) : AudioSession :=
  let after := ((s.node.withEnv e).cmdNotify e .cmdStop []).1
  { node := after
    accepted := s.accepted
    pieces :=
      match s.node.audioPayload e s.node.audioFrame with
      | none => s.pieces
      | some payload =>
        if s.node.audioFrame ≠ [] ∧ s.node.queued ++ [binaryFrame payload] <+: after.queued then
          s.pieces ++ [(s.node.audioFrame, some payload)]
        else s.pieces }

/-- Each byte accepted is in a piece that was encoded, and the pieces are queued in order. -/
structure Delivered (s : AudioSession) : Prop where
  bytes : ((s.pieces.map (·.1)).flatten).Perm s.accepted
  encoded : ∀ piece ∈ s.pieces, piece.2 ≠ none
  queued : ((s.pieces.filterMap (·.2)).map binaryFrame).Sublist s.node.queued

/-- The same with the audio kept back. -/
structure Accounted (s : AudioSession) : Prop where
  bytes : ((s.pieces.map (·.1)).flatten ++ s.node.audioFrame).Perm s.accepted
  kept : s.node.audioFrame.length < encoder.frameSampleBytes
  encoded : ∀ piece ∈ s.pieces, piece.2 ≠ none
  queued : ((s.pieces.filterMap (·.2)).map binaryFrame).Sublist s.node.queued

end AudioSession

/-! ## A call -/

namespace Slicing

variable {encoder : NlsEncoder} {e : Env} {n : ConnectNode} {s : Slicing} {frame : Bytes}

/-- The pieces handed on so far were encoded, and are queued behind what was queued before. -/
structure Carries (e : Env) (n : ConnectNode) (s : Slicing) : Prop where
  nlsEncoder : s.node.nlsEncoder = n.nlsEncoder
  encoded : ∀ piece ∈ s.handed, n.audioPayload e piece ≠ none
  queued : (n.queued ++ (s.handed.filterMap (n.audioPayload e)).map binaryFrame).Sublist
    s.node.queued

lemma audioPayload_congr {m : ConnectNode} (same : m.nlsEncoder = n.nlsEncoder) (piece : Bytes) :
    m.audioPayload e piece = n.audioPayload e piece := by
  unfold ConnectNode.audioPayload
  rw [same]

/-- A piece that does not fail is one more. -/
lemma Carries.sent (carries : Carries e n s) {piece : Bytes} {k : ℕ}
    (ok : (s.node.addAudioDataBuffer e piece).2 = .ok k) (audioFrame : Bytes) (filling : ℕ)
    (failure : Option NlsRetCode) :
    Carries e n {
      node := { (s.node.addAudioDataBuffer e piece).1 with audioFrame := audioFrame }
      handed := s.handed ++ [piece]
      filling := filling
      failure := failure } := by
  obtain ⟨payload, made, queued⟩ := (ConnectNode.addAudioDataBuffer_queued
    (ConnectNode.addAudioDataBuffer_accepts ok)).1
  rw [audioPayload_congr carries.nlsEncoder] at made
  constructor
  · exact (ConnectNode.addAudioDataBuffer_ok ok).2.nlsEncoder.trans carries.nlsEncoder
  · intro other is
    rcases List.mem_append.mp is with old | new
    · exact carries.encoded other old
    · rw [List.mem_singleton.mp new, made]
      exact Option.some_ne_none payload
  · rw [List.filterMap_append, List.filterMap_cons_some made, List.filterMap_nil, List.map_append,
      ← List.append_assoc]
    exact (carries.queued.append_right [binaryFrame payload]).trans queued.sublist

lemma hand_carries (carries : Carries e n s) {size : ℕ}
    (fine : (s.hand e size).failure = none) : Carries e n (s.hand e size) := by
  unfold hand at fine ⊢
  dsimp only at fine ⊢
  cases sent : (s.node.addAudioDataBuffer e (s.node.audioFrame.take size)).2 with
  | error code =>
    rw [sent] at fine
    cases fine
  | ok k => exact carries.sent sent _ _ _

lemma sliceLoop_carries {fuel : ℕ} (carries : Carries e n s)
    (fine : (sliceLoop encoder e fuel s frame).failure = none) :
    Carries e n (sliceLoop encoder e fuel s frame) := by
  induction fuel generalizing s frame with
  | zero => exact carries
  | succ fuel ih =>
    have filled : Carries e n (s.fill encoder frame) :=
      ⟨carries.nlsEncoder, carries.encoded, carries.queued⟩
    rw [sliceLoop] at fine ⊢
    dsimp only at fine ⊢
    split_ifs at fine ⊢ with full last partial_ last'
    · exact hand_carries filled fine
    · rw [not_or, Bool.not_eq_true, Option.isSome_eq_false_iff, Option.isNone_iff_eq_none] at last
      exact ih (hand_carries filled last.1) fine
    · exact hand_carries filled fine
    · rw [not_or, Bool.not_eq_true, Option.isSome_eq_false_iff, Option.isNone_iff_eq_none] at last'
      exact ih (hand_carries filled last'.1) fine
    · exact filled

/-- An accepted call: its bytes and those kept back before are handed on or kept back. -/
structure Took (encoder : NlsEncoder) (e : Env) (n : ConnectNode) (frame : Bytes) (s : Slicing) :
    Prop where
  bytes : (s.handed.flatten ++ s.node.audioFrame).Perm (n.audioFrame ++ frame)
  kept : s.node.audioFrame.length < encoder.frameSampleBytes
  carries : Carries e n s

/-- A piece of its own goes past what is kept back. -/
lemma addWholeAudio_took (kept : n.audioFrame.length < encoder.frameSampleBytes)
    (fine : (n.addWholeAudio e frame).failure = none) :
    Took encoder e n frame (n.addWholeAudio e frame) := by
  have start : Carries e n { node := n } := ⟨rfl, by simp, by simp⟩
  unfold ConnectNode.addWholeAudio at fine ⊢
  cases sent : n.addAudioDataBuffer e frame with
  | mk m result =>
    rw [sent] at fine
    cases result with
    | error code => cases fine
    | ok k =>
      have ok : (n.addAudioDataBuffer e frame).2 = .ok k := by rw [sent]
      have same := (ConnectNode.addAudioDataBuffer_ok ok).2
      have carries := start.sent ok m.audioFrame k none
      rw [sent] at same carries
      refine ⟨?_, ?_, carries⟩
      · dsimp only
        rw [same.audioFrame, List.flatten_singleton]
        exact List.perm_append_comm
      · exact same.audioFrame ▸ kept

lemma addSliced_took (kept : n.audioFrame.length < encoder.frameSampleBytes) (some_ : frame ≠ [])
    (fine : (n.addSlicedAudioDataBuffer e encoder frame).failure = none) :
    Took encoder e n frame (n.addSlicedAudioDataBuffer e encoder frame) := by
  by_cases encodes : n.nlsEncoder ∧ encoder.encoderType ≠ .encoderNone
  · have positive : encoder.frameSampleBytes ≠ 0 := by omega
    have sliced : n.addSlicedAudioDataBuffer e encoder frame =
        sliceLoop encoder e (frame.length + 1) { node := n } frame := by
      rw [ConnectNode.addSlicedAudioDataBuffer, if_pos encodes, if_neg positive]
    rw [sliced] at fine ⊢
    have start : Sound encoder { node := n } n.audioFrame := ⟨rfl, kept, by simp, rfl, encodes.1⟩
    have sound := sliceLoop_sound start some_ (Nat.lt_add_one _) fine
    exact ⟨.of_eq sound.bytes, sound.kept,
      sliceLoop_carries (s := { node := n }) ⟨rfl, by simp, by simp⟩ fine⟩
  · have whole : n.addSlicedAudioDataBuffer e encoder frame = n.addWholeAudio e frame := by
      rw [ConnectNode.addSlicedAudioDataBuffer, if_neg encodes]
      rfl
    rw [whole] at fine ⊢
    exact addWholeAudio_took kept fine

lemma sendAudio_took (kept : n.audioFrame.length < encoder.frameSampleBytes)
    {type : EncoderType} (some_ : frame ≠ [])
    (fine : (n.sendAudio e encoder type frame).failure = none) :
    Took encoder e n frame (n.sendAudio e encoder type frame) := by
  unfold ConnectNode.sendAudio at fine ⊢
  split_ifs at fine ⊢ with sliced
  · exact addSliced_took kept some_ fine
  · exact addWholeAudio_took kept fine

end Slicing

namespace AudioSession

variable {encoder : NlsEncoder} {s : AudioSession}

/-- Nothing accepted is lost before Stop. -/
lemma step_accounted (accounted : s.Accounted encoder) {call : AudioCall}
    (accepts : s.Accepts encoder call) : (s.step encoder call).Accounted encoder := by
  cases call with
  | meanwhile node =>
    refine ⟨?_, ?_, accounted.encoded, accounted.queued.trans accepts.queued.sublist⟩
    · change ((s.pieces.map (·.1)).flatten ++ node.audioFrame).Perm s.accepted
      rw [accepts.audioFrame]
      exact accounted.bytes
    · change node.audioFrame.length < encoder.frameSampleBytes
      rw [accepts.audioFrame]
      exact accounted.kept
  | sendAudio e type frame =>
    obtain ⟨some_, fine⟩ := accepts
    have took := Slicing.sendAudio_took (n := s.node.withEnv e) accounted.kept some_ fine
    generalize sent : (s.node.withEnv e).sendAudio e encoder type frame = slicing at took
    have stepped : s.step encoder (.sendAudio e type frame) = {
        node := slicing.node
        accepted := s.accepted ++ frame
        pieces := s.pieces ++
          slicing.handed.map fun piece => (piece, s.node.audioPayload e piece) } := by
      rw [← sent]
      rfl
    have pieces : (slicing.handed.map fun piece => (piece, s.node.audioPayload e piece)).map (·.1) =
        slicing.handed := by
      rw [List.map_map]
      exact List.map_id slicing.handed
    rw [stepped]
    constructor
    · dsimp only
      rw [List.map_append, pieces, List.flatten_append, List.append_assoc]
      refine (took.bytes.append_left _).trans ?_
      rw [← List.append_assoc]
      exact accounted.bytes.append_right frame
    · exact took.kept
    · intro piece is
      rcases List.mem_append.mp is with old | new
      · exact accounted.encoded piece old
      · obtain ⟨handed, there, rfl⟩ := List.mem_map.mp new
        exact took.carries.encoded handed there
    · dsimp only
      rw [List.filterMap_append, List.filterMap_map, List.map_append]
      exact (accounted.queued.append_right _).trans took.carries.queued

/-- In every session whose calls are accepted. -/
lemma run_accounted {n : ConnectNode} (positive : 0 < encoder.frameSampleBytes)
    (empty : n.audioFrame = []) {calls : List AudioCall}
    (accepts : Along (step encoder) (Accepts encoder) { node := n } calls) :
    (run (step encoder) { node := n } calls).Accounted encoder := by
  have start : Accounted encoder { node := n } :=
    ⟨by simp [empty], by simpa [empty] using positive, by simp, by simp⟩
  exact invariant_along (I := Accounted encoder)
    (fun _ _ accounted now => step_accounted accounted now) start accepts

end AudioSession

/-! ## Stop -/

lemma binaryFrame_ne_textFrame (audio text : Bytes) : binaryFrame audio ≠ textFrame text := by
  intro same
  have first := congrArg List.head? same
  simp only [binaryFrame, textFrame, framePackage, frameHeader, List.cons_append,
    List.head?_cons] at first
  exact absurd first (by decide)

namespace ConnectNode

variable {e : Env} {n : ConnectNode}

/-- A Stop directive is a text frame. -/
lemma addCmdDataBuffer_stop_queued (e : Env) (n : ConnectNode) :
    (n.addCmdDataBuffer e .cmdStop []).queued = n.queued ∨
      ∃ text, (n.addCmdDataBuffer e .cmdStop []).queued = n.queued ++ [textFrame text] := by
  rcases addCmdDataBuffer_made e n .cmdStop [] with same | ⟨frame, made, added⟩
  · exact .inl (congrArg Wire.queued same)
  · obtain ⟨text, -, rfl⟩ := Option.map_eq_some_iff.mp made
    exact .inr ⟨text, congrArg Wire.queued added⟩

lemma sendControlDirective_stopping (e : Env) (stopping : n.exitStatus = .exitStopping)
    (running : n.isStop = false) :
    n.sendControlDirective e =
      ({ ((n.addCmdDataBuffer e .cmdStop []).nlsSendFrame e .cmd false).1 with isStop := true },
        ((n.addCmdDataBuffer e .cmdStop []).nlsSendFrame e .cmd false).2) := by
  unfold sendControlDirective
  rw [if_neg (by simp [stopping]), if_pos (by simp [stopping, running])]

lemma sendControlDirective_stopped (e : Env) (stopping : n.exitStatus = .exitStopping)
    (stopped : n.isStop = true) : n.sendControlDirective e = (n, .ok 0) := by
  unfold sendControlDirective
  rw [if_neg (by simp [stopping]), if_neg (by simp [stopped])]

lemma sendControlDirective_stop_queued (e : Env) (stopping : n.exitStatus = .exitStopping) :
    (n.sendControlDirective e).1.queued = n.queued ∨
      ∃ text, (n.sendControlDirective e).1.queued = n.queued ++ [textFrame text] := by
  cases stop : n.isStop with
  | true =>
    rw [sendControlDirective_stopped e stopping stop]
    exact .inl rfl
  | false =>
    rw [sendControlDirective_stopping e stopping stop]
    dsimp only
    rw [nlsSendFrame_queued]
    exact addCmdDataBuffer_stop_queued e n

/-- The node behind the audio kept back. -/
def flushed (e : Env) (n : ConnectNode) : ConnectNode :=
  { (n.addRemainAudioData e).1 with exitStatus := .exitStopping }

lemma cmdSend_stop (e : Env) (n : ConnectNode) (message : Bytes) :
    n.cmdSend e .cmdStop message =
      if (n.flushed e).workStatus = .nodeStarted ∧ ((n.flushed e).evBuffer .binary).length = 0 then
        (n.flushed e).sendControlDirective e
      else (n.flushed e, .ok 0) := rfl

/-- The Stop directive is all that is queued behind the audio kept back. -/
lemma cmdStop_queued (e : Env) (n : ConnectNode) :
    (n.cmdNotify e .cmdStop []).1.queued = (n.addRemainAudioData e).1.queued ∨
      ∃ text, (n.cmdNotify e .cmdStop []).1.queued =
        (n.addRemainAudioData e).1.queued ++ [textFrame text] := by
  have directive := sendControlDirective_stop_queued (n := n.flushed e) e rfl
  have sent : (n.cmdSend e .cmdStop []).1.queued = (n.addRemainAudioData e).1.queued ∨
      ∃ text, (n.cmdSend e .cmdStop []).1.queued =
        (n.addRemainAudioData e).1.queued ++ [textFrame text] := by
    rw [cmdSend_stop]
    split
    · exact directive
    · exact .inl rfl
  have same : (n.cmdNotify e .cmdStop []).1.queued = (n.cmdSend e .cmdStop []).1.queued := by
    unfold cmdNotify
    dsimp only
    split
    · exact congrArg Wire.queued (wire_failSend e (n.cmdSend e .cmdStop []).1)
    · rfl
  rw [same]
  exact sent

lemma afterSend_result (e : Env) (n : ConnectNode) (i : Output) (audioFrame : Bool) (k : ℕ) :
    (n.afterSend e i audioFrame k).2 =
      if 0 < ((n.evBuffer i).drain k).length ∧ !n.writeEvent then .error .eventEmpty
      else .ok ((n.evBuffer i).drain k).length := by
  unfold afterSend noteFirstAudio evbufferDrain
  split
  · simp
  · simp

/-- What a write returns depends on what is sent and where. -/
lemma nlsSendFrame_congr {m : ConnectNode} (sending : m.toSending = n.toSending)
    (event : m.writeEvent = n.writeEvent) (i : Output) (audioFrame : Bool) :
    (m.nlsSendFrame e i audioFrame).2 = (n.nlsSendFrame e i audioFrame).2 := by
  have buffers : m.evBuffer = n.evBuffer := congrArg Sending.evBuffer sending
  have channel : m.channel = n.channel := congrArg Sending.channel sending
  unfold nlsSendFrame nlsSend
  rw [buffers, channel]
  by_cases empty : (n.evBuffer i).length = 0
  · rw [if_pos empty, if_pos empty]
  rw [if_neg empty, if_neg empty]
  by_cases nothing : (n.evBuffer i).peek nodeFrameSize = []
  · rw [if_pos nothing, if_pos nothing]
    dsimp only
    rw [afterSend_result, afterSend_result, buffers, event]
  rw [if_neg nothing, if_neg nothing]
  cases n.channel.accepted ((n.evBuffer i).peek nodeFrameSize) with
  | none => rfl
  | some k =>
    dsimp only
    rw [afterSend_result, afterSend_result]
    dsimp only
    rw [event]

/-- What a command writes does not depend on the audio kept back. -/
lemma stop_write_congr (e : Env) (n : ConnectNode) (audioFrame : Bytes) (exitStatus : ExitStatus) :
    ((addCmdDataBuffer e { n with audioFrame := audioFrame, exitStatus := exitStatus }
        .cmdStop []).nlsSendFrame e .cmd false).2 =
      ((n.addCmdDataBuffer e .cmdStop []).nlsSendFrame e .cmd false).2 := by
  have added : addCmdDataBuffer e { n with audioFrame := audioFrame, exitStatus := exitStatus }
      .cmdStop [] = { n.addCmdDataBuffer e .cmdStop [] with
        audioFrame := audioFrame
        exitStatus := exitStatus } := by
    unfold addCmdDataBuffer
    split
    · rfl
    · dsimp only
      split
      · rfl
      · rfl
  rw [added]
  apply nlsSendFrame_congr
  · rfl
  · rfl

lemma sendControlDirective_callbacks (e : Env) (n : ConnectNode) :
    (n.sendControlDirective e).1.callbacks = n.callbacks := by
  have sent : ∀ m : ConnectNode, (m.nlsSendFrame e .cmd false).1.callbacks = m.callbacks := by
    intro m
    obtain ⟨s, t, f, msg, same⟩ := nlsSendFrame_sent e m .cmd false
    rw [same]
  unfold sendControlDirective
  split
  · split
    · exact sent n
    · rfl
  · split
    · obtain ⟨buffers, frames, marks, same⟩ := addCmdDataBuffer_same e n .cmdStop []
      refine (sent (n.addCmdDataBuffer e .cmdStop [])).trans ?_
      rw [same]
    · rfl

/-- A piece that is refused is gone. -/
lemma addRemainAudioData_refused (refused : n.ResidueRefused e) :
    (n.addRemainAudioData e).1 = { n with audioFrame := [] } := by
  unfold addRemainAudioData
  rw [if_neg refused.1]
  dsimp only
  rw [addAudioDataBuffer_refused refused.2]

/-- Behind it the call fails with its directive, or is silent. -/
lemma stopReports_iff_of_refused (refused : n.ResidueRefused e) :
    n.StopReports e ↔ n.DirectiveFails e := by
  have flushed_ : n.flushed e = { n with audioFrame := [], exitStatus := .exitStopping } := by
    unfold flushed
    rw [addRemainAudioData_refused refused]
  have sent : n.cmdSend e .cmdStop [] = if n.workStatus = .nodeStarted ∧
      (n.evBuffer .binary).length = 0 then (n.flushed e).sendControlDirective e
      else (n.flushed e, .ok 0) := by
    rw [cmdSend_stop, flushed_]
  have fails : (n.cmdSend e .cmdStop []).2.failed = true ↔ n.DirectiveFails e := by
    rw [sent, DirectiveFails, ← and_assoc]
    by_cases now : n.workStatus = .nodeStarted ∧ (n.evBuffer .binary).length = 0
    · rw [if_pos now, and_iff_right now]
      have isStop : (n.flushed e).isStop = n.isStop := by rw [flushed_]
      cases stop : n.isStop with
      | true =>
        rw [sendControlDirective_stopped (n := n.flushed e) e rfl (isStop.trans stop)]
        simp [Ret.failed]
      | false =>
        rw [sendControlDirective_stopping (n := n.flushed e) e rfl (isStop.trans stop), flushed_,
          stop_write_congr]
        simp
    · rw [if_neg now]
      exact iff_of_false (by simp [Ret.failed]) fun fails => now fails.1
  have quiet : (n.cmdSend e .cmdStop []).1.callbacks = n.callbacks := by
    rw [sent]
    split
    · rw [sendControlDirective_callbacks, flushed_]
    · rw [flushed_]
  rw [← fails]
  unfold StopReports cmdNotify
  dsimp only
  constructor
  · rintro (failed | told)
    · exact failed
    · by_contra fine
      rw [if_neg fine] at told
      exact told quiet
  · exact .inl

/-- The piece kept back is behind what was queued before unless it is refused. -/
lemma residue_queued_iff {payload : Bytes} (some_ : n.audioFrame ≠ [])
    (made : n.audioPayload e n.audioFrame = some payload) :
    n.queued ++ [binaryFrame payload] <+: (n.cmdNotify e .cmdStop []).1.queued ↔
      ¬n.audioRefused e n.audioFrame := by
  constructor
  · intro queued refused
    rcases cmdStop_queued e n with same | ⟨text, same⟩
    · rw [same, addRemainAudioData_refused ⟨some_, refused⟩] at queued
      have longer := queued.length_le
      rw [List.length_append, List.length_singleton] at longer
      exact absurd longer (by dsimp only; omega)
    · rw [same, addRemainAudioData_refused ⟨some_, refused⟩] at queued
      have last := (List.prefix_append_right_inj _).mp queued
      rw [List.cons_prefix_cons] at last
      exact binaryFrame_ne_textFrame payload text last.1
  · intro accepted
    obtain ⟨other, is, queued⟩ := (addAudioDataBuffer_queued accepted).1
    obtain rfl : payload = other := Option.some.inj (made.symm.trans is)
    have remain : (n.addRemainAudioData e).1.queued =
        (n.addAudioDataBuffer e n.audioFrame).1.queued := by
      unfold addRemainAudioData
      rw [if_neg some_]
    rw [← remain] at queued
    rcases cmdStop_queued e n with same | ⟨text, same⟩
    · rw [same]
      exact queued
    · rw [same]
      exact queued.trans (List.prefix_append ..)

end ConnectNode

namespace AudioSession

variable {encoder : NlsEncoder} {s : AudioSession} {e : Env}

lemma stop_keeps_queue (e : Env) (n : ConnectNode) :
    n.queued <+: (n.cmdNotify e .cmdStop []).1.queued := by
  have remain : n.queued <+: (n.addRemainAudioData e).1.queued := by
    unfold ConnectNode.addRemainAudioData
    split
    · exact List.prefix_rfl
    · exact ConnectNode.addAudioDataBuffer_prefix e n n.audioFrame
  rcases ConnectNode.cmdStop_queued e n with same | ⟨text, same⟩
  · rw [same]
    exact remain
  · rw [same]
    exact remain.trans (List.prefix_append ..)

lemma stop_pieces (s : AudioSession) (e : Env) :
    (s.stop e).pieces =
      if s.node.audioFrame ≠ [] ∧ ¬(s.node.withEnv e).audioRefused e s.node.audioFrame then
        s.pieces ++ [(s.node.audioFrame, s.node.audioPayload e s.node.audioFrame)]
      else s.pieces := by
  unfold stop
  dsimp only
  cases made : s.node.audioPayload e s.node.audioFrame with
  | none =>
    have refused : (s.node.withEnv e).audioRefused e s.node.audioFrame := .inr (.inr (.inl made))
    rw [if_neg fun sent => sent.2 refused]
  | some payload =>
    dsimp only
    refine if_congr (and_congr_right fun some_ => ?_) rfl rfl
    exact ConnectNode.residue_queued_iff (n := s.node.withEnv e) some_ made

/-- Everything accepted is delivered unless the piece kept back is refused. -/
lemma stop_delivered_iff (accounted : s.Accounted encoder) :
    (s.stop e).Delivered ↔ ¬(s.node.withEnv e).ResidueRefused e := by
  have queue : s.node.queued <+: (s.stop e).node.queued :=
    stop_keeps_queue e (s.node.withEnv e)
  have pieces := stop_pieces s e
  constructor
  · rintro delivered ⟨some_, refused⟩
    rw [if_neg fun sent => sent.2 refused] at pieces
    have longer := (accounted.bytes.trans delivered.bytes.symm).length_eq
    rw [pieces, List.length_append] at longer
    have none_ : s.node.audioFrame.length = 0 := by omega
    exact some_ (List.length_eq_zero_iff.mp none_)
  · intro accepted
    by_cases some_ : s.node.audioFrame = []
    · rw [if_neg fun sent => sent.1 some_] at pieces
      have bytes := accounted.bytes
      rw [some_, List.append_nil] at bytes
      refine ⟨?_, ?_, ?_⟩
      · rw [pieces]
        exact bytes
      · rw [pieces]
        exact accounted.encoded
      · rw [pieces]
        exact accounted.queued.trans queue.sublist
    · have taken : ¬(s.node.withEnv e).audioRefused e s.node.audioFrame :=
        fun refused => accepted ⟨some_, refused⟩
      rw [if_pos ⟨some_, taken⟩] at pieces
      obtain ⟨payload, made, -⟩ := (ConnectNode.addAudioDataBuffer_queued taken).1
      have behind := (ConnectNode.residue_queued_iff (n := s.node.withEnv e) some_ made).mpr taken
      replace made : s.node.audioPayload e s.node.audioFrame = some payload := made
      refine ⟨?_, ?_, ?_⟩
      · have accepted_ : (s.stop e).accepted = s.accepted := rfl
        rw [pieces, accepted_, List.map_append, List.flatten_append]
        simpa using accounted.bytes
      · rw [pieces]
        intro piece is
        rcases List.mem_append.mp is with old | new
        · exact accounted.encoded piece old
        · rw [List.mem_singleton.mp new, made]
          exact Option.some_ne_none payload
      · rw [pieces, List.filterMap_append, List.map_append]
        refine List.Sublist.trans ?_ behind.sublist
        simp only [List.filterMap_cons, made, List.filterMap_nil, List.map_cons, List.map_nil]
        exact accounted.queued.append_right [binaryFrame payload]

/-- A started session of an encoded format. -/
def encodedSession : ConnectNode where
  nlsEncoder := true
  workStatus := .nodeStarted
  channel := { socket := .established }
  writeEvent := true

/-- A codec that takes whole frames of 640 bytes. -/
def opuEnv : Env where
  nlsEncoding frame := if frame.length = 640 then some [1, 0] else none
  command _ _ := some (ascii "StopTranscription")

/-- A container that pads what it is given. -/
def opusEnv : Env where
  nlsEncoding _ := some [0]
  command _ _ := some (ascii "StopTranscription")

end AudioSession

end NlsSdk.Transport
