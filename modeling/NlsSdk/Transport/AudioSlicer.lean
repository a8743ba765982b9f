import NlsSdk.Transport.SendSpec

/-!
# Audio in frames of the encoder

`addSlicedAudioDataBuffer` collects what the user sends in `_audioFrame` and
hands it on in pieces that the encoder takes. The pieces are kept in the order
of the calls.
-/
namespace NlsSdk.Transport

open Library

inductive EncoderType
  | encoderNone | encoderOpu | encoderOpus
  deriving DecidableEq, Repr

/-- An encoder and what its `getFrameSampleBytes` returns. -/
structure NlsEncoder where
  encoderType : EncoderType
  frameSampleBytes : ℕ
  deriving DecidableEq, Repr

/-- A node with what was handed to `addAudioDataBuffer`, the bytes counted in the results, and the
error of a call that failed. -/
structure Slicing where
  node : ConnectNode
  handed : List Bytes := []
  filling : ℕ := 0
  failure : Option NlsRetCode := none

namespace Slicing

variable (encoder : NlsEncoder)

/-- What the copy into `_audioFrame` takes of a frame. -/
def space (s : Slicing) : ℕ := encoder.frameSampleBytes - s.node.audioFrame.length

def fill (s : Slicing) (frame : Bytes) : Slicing :=
  { s with node :=
    { s.node with audioFrame := s.node.audioFrame ++ frame.take (s.space encoder) } }

/-- The first `size` bytes of `_audioFrame` are handed on, and it is empty again. -/
def hand (s : Slicing) (e : Env) (size : ℕ) : Slicing :=
  let sent := s.node.addAudioDataBuffer e (s.node.audioFrame.take size)
  { node := { sent.1 with audioFrame := [] }
    handed := s.handed ++ [s.node.audioFrame.take size]
    filling := s.filling + size
    failure := match sent.2 with
      | .error code => some code
      | .ok _ => none }

/-- The `do` loop; each round but the last takes at least one byte of the frame. -/
def sliceLoop (e : Env) : ℕ → Slicing → Bytes → Slicing
  | 0, s, _ => s
  | fuel + 1, s, frame =>
    let rest := frame.drop (s.space encoder)
    let filled := s.fill encoder frame
    if encoder.frameSampleBytes ≤ filled.node.audioFrame.length then
      let handed := filled.hand e encoder.frameSampleBytes
      if handed.failure.isSome ∨ rest = [] then handed else sliceLoop e fuel handed rest
    else if filled.node.isFirstAudioFrame = false ∧ encoder.encoderType ≠ .encoderOpu then
      let handed := filled.hand e filled.node.audioFrame.length
      if handed.failure.isSome ∨ rest = [] then handed else sliceLoop e fuel handed rest
    else filled

end Slicing

namespace ConnectNode

/-- Without an encoder the audio is handed on as it is. -/
def addSlicedAudioDataBuffer (e : Env) (encoder : NlsEncoder) (n : ConnectNode) (frame : Bytes) :
    Slicing :=
  if n.nlsEncoder ∧ encoder.encoderType ≠ .encoderNone then
    if encoder.frameSampleBytes = 0 then { node := n }
    else Slicing.sliceLoop encoder e (frame.length + 1) { node := n } frame
  else
    match n.addAudioDataBuffer e frame with
    | (sent, .error code) => { node := sent, handed := [frame], failure := some code }
    | (sent, .ok k) => { node := sent, handed := [frame], filling := k }

end ConnectNode

namespace Slicing

/-- One more call of the user. -/
def call (encoder : NlsEncoder) (s : Slicing) (frame : Env × Bytes) : Slicing :=
  let slicing := (s.node.withEnv frame.1).addSlicedAudioDataBuffer frame.1 encoder frame.2
  { node := slicing.node
    handed := s.handed ++ slicing.handed
    filling := s.filling + slicing.filling
    failure := s.failure <|> slicing.failure }

/-- The end of the audio. -/
def finish (s : Slicing) (e : Env) : Slicing :=
  let sent := (s.node.withEnv e).addRemainAudioData e
  { node := sent.1
    handed := s.handed ++ if s.node.audioFrame = [] then [] else [s.node.audioFrame]
    filling := s.filling + match sent.2 with
      | .error _ => 0
      | .ok k => k
    failure := s.failure <|> match sent.2 with
      | .error code => some code
      | .ok _ => none }

variable {encoder : NlsEncoder}

/-- A piece that the encoder takes. -/
structure IsPiece (encoder : NlsEncoder) (piece : Bytes) : Prop where
  nonempty : piece ≠ []
  bounded : piece.length ≤ encoder.frameSampleBytes
  full : encoder.encoderType = .encoderOpu → piece.length = encoder.frameSampleBytes

/-- The audio so far is what was handed on and what is kept. -/
structure Sound (encoder : NlsEncoder) (s : Slicing) (audio : Bytes) : Prop where
  bytes : s.handed.flatten ++ s.node.audioFrame = audio
  kept : s.node.audioFrame.length < encoder.frameSampleBytes
  pieces : ∀ piece ∈ s.handed, IsPiece encoder piece
  counted : s.filling = s.handed.flatten.length
  encoding : s.node.nlsEncoder = true

end Slicing

namespace ConnectNode

/-- What the slicer holds is not touched by sending. -/
structure SameSlicer (n m : ConnectNode) : Prop where
  nlsEncoder : m.nlsEncoder = n.nlsEncoder
  audioFrame : m.audioFrame = n.audioFrame

lemma SameSlicer.trans {n m k : ConnectNode} (first : SameSlicer n m) (second : SameSlicer m k) :
    SameSlicer n k :=
  ⟨second.nlsEncoder.trans first.nlsEncoder, second.audioFrame.trans first.audioFrame⟩

lemma nlsSendFrame_slicer (e : Env) (n : ConnectNode) (i : Output) (audioFrame : Bool) :
    SameSlicer n (n.nlsSendFrame e i audioFrame).1 := by
  obtain ⟨s, t, f, msg, same⟩ := nlsSendFrame_sent e n i audioFrame
  rw [same]
  exact ⟨rfl, rfl⟩

lemma addCmdDataBuffer_slicer (e : Env) (n : ConnectNode) (type : CmdType) (message : Bytes) :
    SameSlicer n (n.addCmdDataBuffer e type message) := by
  obtain ⟨buffers, frames, marks, same⟩ := addCmdDataBuffer_same e n type message
  rw [same]
  exact ⟨rfl, rfl⟩

lemma sendControlDirective_slicer (e : Env) (n : ConnectNode) :
    SameSlicer n (n.sendControlDirective e).1 := by
  unfold sendControlDirective
  split
  · split
    · exact nlsSendFrame_slicer ..
    · exact ⟨rfl, rfl⟩
  · split
    · obtain ⟨encoder, frame⟩ :=
        (addCmdDataBuffer_slicer e n .cmdStop []).trans (nlsSendFrame_slicer e _ .cmd false)
      exact ⟨encoder, frame⟩
    · exact ⟨rfl, rfl⟩

lemma pushAudio_slicer (e : Env) (n : ConnectNode) (payload : Bytes) :
    SameSlicer n (n.pushAudio e payload).1 := by
  have queued : SameSlicer n (n.evbufferAdd n.audioBuffer (binaryFrame payload)) := ⟨rfl, rfl⟩
  have sent := queued.trans (nlsSendFrame_slicer e _ n.audioBuffer false)
  simp only [pushAudio]
  by_cases now : n.sendsNow
  · simp only [now, if_true]
    split
    · exact sent.trans (sendControlDirective_slicer ..)
    · exact sent
  · simp only [now, if_false, Ret.isZero_ok, decide_true, if_true]
    exact queued.trans (sendControlDirective_slicer ..)

/-- A call that succeeds returns the size of the audio. -/
lemma addAudioDataBuffer_ok {e : Env} {n : ConnectNode} {frame : Bytes} {k : ℕ}
    (ok : (n.addAudioDataBuffer e frame).2 = .ok k) :
    k = frame.length ∧ SameSlicer n (n.addAudioDataBuffer e frame).1 := by
  revert ok
  unfold addAudioDataBuffer
  split
  · intro ok
    cases ok
  split
  · intro ok
    cases ok
  split
  · intro ok
    cases ok
  split
  · intro ok
    cases ok
  dsimp only
  split
  · rename_i failed
    intro ok
    rw [ok] at failed
    cases failed
  · intro ok
    obtain ⟨encoder, kept⟩ := pushAudio_slicer e n _
    exact ⟨(Except.ok.inj ok).symm, encoder, kept⟩

end ConnectNode

namespace Slicing

variable {encoder : NlsEncoder} {s : Slicing} {e : Env} {audio frame : Bytes}

/-- A piece that is handed on without a failure moves the kept audio to the pieces. -/
lemma hand_sound {size : ℕ} (bytes : s.handed.flatten ++ s.node.audioFrame = audio)
    (pieces : ∀ piece ∈ s.handed, IsPiece encoder piece)
    (counted : s.filling = s.handed.flatten.length) (encoding : s.node.nlsEncoder = true)
    (whole : s.node.audioFrame.length = size) (piece : IsPiece encoder s.node.audioFrame)
    (fine : (s.hand e size).failure = none) : Sound encoder (s.hand e size) audio := by
  have all : s.node.audioFrame.take size = s.node.audioFrame := List.take_of_length_le whole.le
  have positive : 0 < encoder.frameSampleBytes :=
    lt_of_lt_of_le (List.length_pos_iff.mpr piece.nonempty) piece.bounded
  unfold hand at fine ⊢
  rw [all] at fine ⊢
  dsimp only at fine ⊢
  cases sent : (s.node.addAudioDataBuffer e s.node.audioFrame).2 with
  | error code =>
    rw [sent] at fine
    cases fine
  | ok k =>
    constructor
    · simpa using bytes
    · exact positive
    · intro other is
      rcases List.mem_append.mp is with is | is
      · exact pieces other is
      · rw [List.mem_singleton.mp is]
        exact piece
    · simp [counted, whole]
    · exact (ConnectNode.addAudioDataBuffer_ok sent).2.nlsEncoder.trans encoding

lemma fill_audioFrame : (s.fill encoder frame).node.audioFrame =
    s.node.audioFrame ++ frame.take (s.space encoder) := rfl

/-- The loop keeps the order of the bytes and ends with less than a frame kept back. -/
theorem sliceLoop_sound {fuel : ℕ} (sound : Sound encoder s audio) (some_ : frame ≠ [])
    (enough : frame.length < fuel) (fine : (sliceLoop encoder e fuel s frame).failure = none) :
    Sound encoder (sliceLoop encoder e fuel s frame) (audio ++ frame) := by
  induction fuel generalizing s audio frame with
  | zero => omega
  | succ fuel ih =>
    have kept := sound.kept
    have long := List.length_pos_iff.mpr some_
    have room : s.space encoder = encoder.frameSampleBytes - s.node.audioFrame.length := rfl
    have size : (s.fill encoder frame).node.audioFrame.length =
        s.node.audioFrame.length + min (s.space encoder) frame.length := by
      rw [fill_audioFrame, List.length_append, List.length_take]
    have taken : (s.fill encoder frame).handed.flatten ++ (s.fill encoder frame).node.audioFrame =
        audio ++ frame.take (s.space encoder) := by
      rw [← sound.bytes, List.append_assoc]
      rfl
    have nonempty : (s.fill encoder frame).node.audioFrame ≠ [] := by
      rw [← List.length_pos_iff, size]
      omega
    have split_ : audio ++ frame.take (s.space encoder) ++ frame.drop (s.space encoder) =
        audio ++ frame := by
      rw [List.append_assoc, List.take_append_drop]
    rw [sliceLoop] at fine ⊢
    dsimp only at fine ⊢
    split_ifs at fine ⊢ with full last partial_ last'
    · have handed := hand_sound taken sound.pieces sound.counted sound.encoding (by omega)
        ⟨nonempty, by omega, fun _ => by omega⟩ fine
      rw [fine, Option.isSome_none, Bool.false_eq_true, false_or] at last
      rw [← split_, last, List.append_nil]
      exact handed
    · rw [not_or, Bool.not_eq_true, Option.isSome_eq_false_iff, Option.isNone_iff_eq_none] at last
      have handed := hand_sound taken sound.pieces sound.counted sound.encoding (by omega)
        ⟨nonempty, by omega, fun _ => by omega⟩ last.1
      rw [← split_]
      refine ih handed last.2 ?_ fine
      rw [List.length_drop]
      omega
    · have handed := hand_sound taken sound.pieces sound.counted sound.encoding rfl
        ⟨nonempty, by omega, fun opu => absurd opu partial_.2⟩ fine
      rw [fine, Option.isSome_none, Bool.false_eq_true, false_or] at last'
      rw [← split_, last', List.append_nil]
      exact handed
    · -- a frame that is not full has taken everything
      rw [not_or] at last'
      refine absurd (List.drop_eq_nil_of_le ?_) last'.2
      omega
    · have everything : frame.drop (s.space encoder) = [] := List.drop_eq_nil_of_le (by omega)
      rw [← split_, everything, List.append_nil]
      exact ⟨taken, by omega, sound.pieces, sound.counted, sound.encoding⟩

lemma orElse_none {a b : Option NlsRetCode} (none_ : (a <|> b) = none) : a = none ∧ b = none := by
  cases a with
  | none => exact ⟨rfl, none_⟩
  | some code => cases none_

/-- A call that succeeds. -/
lemma call_sound {frame : Env × Bytes} (sound : Sound encoder s audio)
    (mode : encoder.encoderType ≠ .encoderNone) (some_ : frame.2 ≠ [])
    (fine : (s.call encoder frame).failure = none) :
    Sound encoder (s.call encoder frame) (audio ++ frame.2) := by
  have positive : encoder.frameSampleBytes ≠ 0 := by
    have := sound.kept
    omega
  have sliced : (s.node.withEnv frame.1).addSlicedAudioDataBuffer frame.1 encoder frame.2 =
      sliceLoop encoder frame.1 (frame.2.length + 1) { node := s.node.withEnv frame.1 } frame.2 := by
    rw [ConnectNode.addSlicedAudioDataBuffer, if_pos ⟨sound.encoding, mode⟩, if_neg positive]
  have start : Sound encoder { node := s.node.withEnv frame.1 } s.node.audioFrame :=
    ⟨rfl, sound.kept, by simp, rfl, sound.encoding⟩
  unfold call at fine ⊢
  rw [sliced] at fine ⊢
  have looped := sliceLoop_sound start some_ (Nat.lt_add_one _) (orElse_none fine).2
  constructor
  · rw [List.flatten_append, List.append_assoc, looped.bytes, ← List.append_assoc, sound.bytes]
  · exact looped.kept
  · intro piece is
    rcases List.mem_append.mp is with is | is
    · exact sound.pieces piece is
    · exact looped.pieces piece is
  · rw [List.flatten_append, List.length_append, ← sound.counted, ← looped.counted]
  · exact looped.encoding

/-- A run of calls that succeed. -/
lemma calls_sound (mode : encoder.encoderType ≠ .encoderNone) {calls : List (Env × Bytes)}
    (some_ : ∀ frame ∈ calls, frame.2 ≠ []) (sound : Sound encoder s audio)
    (fine : (calls.foldl (call encoder) s).failure = none) :
    Sound encoder (calls.foldl (call encoder) s) (audio ++ (calls.map (·.2)).flatten) := by
  have first : ∀ (calls : List (Env × Bytes)) (s : Slicing),
      (calls.foldl (call encoder) s).failure = none → s.failure = none := by
    intro calls
    induction calls with
    | nil => exact fun s fine => fine
    | cons frame calls ih => exact fun s fine => (orElse_none (ih _ fine)).1
  induction calls generalizing s audio with
  | nil => simpa using sound
  | cons frame calls ih =>
    rw [List.foldl_cons] at fine ⊢
    have called := call_sound sound mode (some_ frame (by simp)) (first calls _ fine)
    have rest := ih (fun frame is => some_ frame (by simp [is])) called fine
    rwa [List.append_assoc] at rest

end Slicing

end NlsSdk.Transport
