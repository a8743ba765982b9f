import NlsSdk.Encoder.FirstFrame

/-!
# The buffers of the Ogg/Opus encoder

`OggopusEncoderCreate` allocates the buffer of samples for the frame length it
finds, and `SetSampleRate` changes the frame length. A call of the encoder
fills one frame of each channel, and a packet up to `max_frame_bytes`.
-/
namespace NlsSdk.Encoder

open NlsSdk.Library NlsSdk.Transport

/-- What is allocated: bytes of the packet and floats of the samples. -/
structure OggOpusDataEncoderPara where
  maxFrameBytes : ℕ
  packet : ℕ
  input : ℕ
  deriving DecidableEq, Repr

/-- The sizes of an `OggOpusDataEncoder` object. -/
structure OggOpusSizes where
  sampleRate : ℕ := 16000
  frameSampleNum : ℕ := frameSampleNum16k
  frameSampleBytes : ℕ := frameSampleNum16k * 2
  channelNum : ℕ := 1
  para : Option OggOpusDataEncoderPara := none
  deriving DecidableEq, Repr

/-- The rates `opus_multistream_encoder_create` accepts. -/
def opusRates : List ℕ := [8000, 12000, 16000, 24000, 48000]

namespace OggOpusSizes

/-- A rate that Opus refuses ends the process. -/
def oggopusEncoderCreate (s : OggOpusSizes) (samplerate : ℕ) : OggOpusSizes :=
  { s with
    sampleRate := samplerate
    para :=
      if samplerate ∈ opusRates then
        some {
          maxFrameBytes := frameSampleNum16k * 2 * 2
          packet := frameSampleNum16k * 2 * 2
          input := s.frameSampleNum * s.channelNum }
      else none }

def setSampleRate (s : OggOpusSizes) (sampleRate : ℕ) : OggOpusSizes :=
  { s with
    sampleRate := sampleRate
    frameSampleNum := sampleRate / 10
    frameSampleBytes := sampleRate / 10 * 2 }

/-- Both buffers are allocated anew. Without an encoder the call would follow a null pointer. -/
def setFrameSampleBytes (s : OggOpusSizes) (bytes : ℕ) : OggOpusSizes :=
  match s.para with
  | none => s
  | some p =>
    if bytes = s.frameSampleBytes then s
    else { s with
      frameSampleBytes := bytes
      frameSampleNum := bytes / 2
      para := some {
        maxFrameBytes := if p.maxFrameBytes < bytes then bytes * 2 else p.maxFrameBytes
        packet := if p.maxFrameBytes < bytes then bytes * 2 else p.packet
        input := bytes / 2 * s.channelNum } }

def oggopusDestroy (s : OggOpusSizes) : OggOpusSizes := { s with para := none }

/-- The calls on an object. -/
inductive Call
  | oggopusEncoderCreate (samplerate : ℕ)
  | setSampleRate (sampleRate : ℕ)
  | setFrameSampleBytes (bytes : ℕ)
  | oggopusEncode (length : ℕ)
  | oggopusSoftRestart
  | oggopusDestroy
  deriving DecidableEq, Repr

def step (s : OggOpusSizes) : Call → OggOpusSizes
  | .oggopusEncoderCreate samplerate => s.oggopusEncoderCreate samplerate
  | .setSampleRate sampleRate => s.setSampleRate sampleRate
  | .setFrameSampleBytes bytes => s.setFrameSampleBytes bytes
  | .oggopusEncode _ => s
  | .oggopusSoftRestart => s
  | .oggopusDestroy => s.oggopusDestroy

/-- A frame of all channels fits into the samples, and the longest packet into its buffer. -/
def Fits (s : OggOpusSizes) : Prop :=
  ∀ p, s.para = some p →
    s.frameSampleNum * s.channelNum ≤ p.input ∧ p.maxFrameBytes ≤ p.packet

/-- A rate that is set while there is an encoder has frames no longer than the samples that were
allocated. -/
def Roomy (s : OggOpusSizes) : Call → Prop
  | .setSampleRate sampleRate => ∀ p, s.para = some p → sampleRate / 10 * s.channelNum ≤ p.input
  | _ => True

/-- From buffers that fit a call leads to such exactly when it meets the condition. -/
theorem step_fits (s : OggOpusSizes) (call : Call) (fits : s.Fits) :
    (s.step call).Fits ↔ s.Roomy call := by
  cases call with
  | oggopusEncoderCreate samplerate =>
    refine ⟨fun _ => trivial, fun _ p there => ?_⟩
    simp only [step, oggopusEncoderCreate] at there ⊢
    split at there
    · obtain rfl := Option.some.inj there
      exact ⟨le_rfl, le_rfl⟩
    · cases there
  | setSampleRate sampleRate =>
    constructor
    · intro after p there
      exact (after p there).1
    · intro roomy p there
      exact ⟨roomy p there, (fits p there).2⟩
  | setFrameSampleBytes bytes =>
    refine ⟨fun _ => trivial, fun _ => ?_⟩
    simp only [step, setFrameSampleBytes]
    cases there : s.para with
    | none => exact fits
    | some p =>
      dsimp only
      split
      · exact fits
      · intro after is
        obtain rfl := Option.some.inj is
        refine ⟨le_rfl, ?_⟩
        dsimp only
        split
        · exact le_rfl
        · exact (fits p there).2
  | oggopusEncode length => exact ⟨fun _ => trivial, fun _ => fits⟩
  | oggopusSoftRestart => exact ⟨fun _ => trivial, fun _ => fits⟩
  | oggopusDestroy =>
    refine ⟨fun _ => trivial, fun _ p there => ?_⟩
    cases there

/-- Whatever the calls on a new object and their order, the buffers fit at any time exactly when
no call sets a rate whose frames are longer than the samples allocated. -/
theorem buffers_fit_iff (channelNum : ℕ) (calls : List Call) :
    (∀ part, part <+: calls → (run step { channelNum := channelNum } part).Fits) ↔
      Along step Roomy { channelNum := channelNum } calls :=
  along_iff_invariant step_fits (fun p there => by cases there) calls

/-- `createNlsEncoder` in the mode of Ogg/Opus: the rate is set behind the creation. -/
def createNlsEncoder (sampleRate : ℕ) : List Call :=
  [.oggopusEncoderCreate sampleRate, .setSampleRate sampleRate]

/-- Of the rates that Opus accepts those up to 16 kHz have buffers that fit. -/
theorem createNlsEncoder_fits_iff {sampleRate : ℕ} (accepted : sampleRate ∈ opusRates) :
    (run step {} (createNlsEncoder sampleRate)).Fits ↔ sampleRate ≤ 16000 := by
  simp only [createNlsEncoder, run_cons, run_nil, step, oggopusEncoderCreate, if_pos accepted,
    setSampleRate, Fits, Option.some.injEq, forall_eq', frameSampleNum16k, mul_one, le_refl,
    and_true]
  constructor
  · intro fits
    simp only [opusRates, List.mem_cons, List.not_mem_nil, or_false] at accepted
    omega
  · intro low
    omega

/-- At 48 kHz a frame has 4800 samples, and 1600 are allocated. -/
theorem overrun_at_48k :
    ¬ ∀ part, part <+: createNlsEncoder 48000 → (run step {} part).Fits := by
  intro fits
  have last := (fits (createNlsEncoder 48000) List.prefix_rfl ⟨6400, 6400, 1600⟩ (by decide)).1
  exact absurd last (by decide)

end OggOpusSizes

/-! ## What a call fills -/

namespace OggOpusDataEncoder

variable {o : OggOpusDataEncoder}

/-- The packet made of a frame. -/
def audioPacket (o : OggOpusDataEncoder) (packet : Bytes) : OggPacket where
  body := .audio packet
  endOfStream := o.endOfStream
  granulepos :=
    if o.endOfStream then o.lastGranulepos else o.encGranulepos + frameSampleNum16k * 3
  packetno := 1 + o.frameCount

/-- What is left of a call once its frame is at hand: nothing is encoded, the encoder fails, the
pages in front are not written, or there is a packet. -/
lemma encodeFrame_cases (e : OggOutcome) (o : OggOpusDataEncoder) (buffer : Bytes) :
    (o.curFrameSize (o.input.getD {}).samples.length = 0 ∧ (o.encodeFrame e buffer).1 = o) ∨
      (o.curFrameSize (o.input.getD {}).samples.length ≠ 0 ∧
        ((e.packet = none ∧
            (o.encodeFrame e buffer).1 = { o with frames := o.frames ++ [o.frameAtHand] }) ∨
          ∃ packet, e.packet = some packet ∧
            ((e.flushed = false ∧ (o.encodeFrame e buffer).1 = { o with
                frames := o.frames ++ [o.frameAtHand]
                encGranulepos := o.encGranulepos + frameSampleNum16k * 3 }) ∨
              (e.flushed = true ∧ (o.encodeFrame e buffer).1 = { o with
                frames := o.frames ++ [o.frameAtHand]
                encGranulepos := o.encGranulepos + frameSampleNum16k * 3
                input := none
                packets := o.packets ++ [o.audioPacket packet] })))) := by
  unfold encodeFrame
  by_cases empty : o.curFrameSize (o.input.getD {}).samples.length = 0
  · rw [if_pos empty]
    exact .inl ⟨empty, rfl⟩
  rw [if_neg empty]
  refine .inr ⟨empty, ?_⟩
  cases made : e.packet with
  | none => exact .inl ⟨rfl, rfl⟩
  | some packet =>
    refine .inr ⟨packet, rfl, ?_⟩
    dsimp only
    cases flushed : e.flushed with
    | false => exact .inl ⟨rfl, rfl⟩
    | true =>
      refine .inr ⟨rfl, ?_⟩
      rw [if_neg (by simp), readAhead_eq]
      split
      · rfl
      · rfl

/-- A frame is read unless one is at hand. -/
def fetch (e : OggOutcome) (o : OggOpusDataEncoder) (buffer : Bytes) :
    OggOpusDataEncoder × Bytes :=
  match o.input with
  | some _ => (o, buffer)
  | none => o.readPadder e buffer

lemma fetch_of_some (e : OggOutcome) (o : OggOpusDataEncoder) (buffer : Bytes) {frame : OpusFrame}
    (held : o.input = some frame) : fetch e o buffer = (o, buffer) := by
  unfold fetch
  rw [held]

lemma fetch_of_none (e : OggOutcome) (o : OggOpusDataEncoder) (buffer : Bytes)
    (held : o.input = none) : fetch e o buffer = o.readPadder e buffer := by
  unfold fetch
  rw [held]

lemma oggopusEncode_refused {e : OggOutcome} {inputData : Bytes} {opened : OggOpusDataEncoder}
    {code : OggOpusError} (opens : o.openBuffer e inputData = (opened, .error code)) :
    o.oggopusEncode e inputData = (opened, .error code) := by
  unfold oggopusEncode
  rw [opens]

lemma oggopusEncode_opened {e : OggOutcome} {inputData buffer : Bytes}
    {opened : OggOpusDataEncoder} (opens : o.openBuffer e inputData = (opened, .ok buffer)) :
    o.oggopusEncode e inputData =
      (fetch e { opened with frameCount := opened.frameCount + 1 } buffer).1.encodeFrame e
        (fetch e { opened with frameCount := opened.frameCount + 1 } buffer).2 := by
  unfold oggopusEncode
  rw [opens]
  dsimp only
  split
  · rename_i frame held
    rw [fetch_of_some e { opened with frameCount := opened.frameCount + 1 } buffer held]
  · rename_i held
    rw [fetch_of_none e { opened with frameCount := opened.frameCount + 1 } buffer held]

/-- Opening a buffer leaves the frames and the sizes. -/
lemma openBuffer_kept (e : OggOutcome) (o : OggOpusDataEncoder) (inputData : Bytes) :
    (o.openBuffer e inputData).1.input = o.input ∧ (o.openBuffer e inputData).1.frames = o.frames ∧
      (o.openBuffer e inputData).1.frameSampleNum = o.frameSampleNum := by
  unfold openBuffer
  split
  · exact ⟨rfl, rfl, rfl⟩
  split
  · unfold firstFrame
    dsimp only
    split
    · exact ⟨rfl, rfl, rfl⟩
    split
    · exact ⟨rfl, rfl, rfl⟩
    · exact ⟨rfl, rfl, rfl⟩
  · exact ⟨rfl, rfl, rfl⟩

/-- The frame at hand and the frames that were encoded are no longer than the frame length. -/
structure Within (o : OggOpusDataEncoder) : Prop where
  input : ∀ frame, o.input = some frame → frame.samples.length ≤ o.frameSampleNum
  frames : ∀ frame ∈ o.frames, frame.samples.length ≤ o.frameSampleNum

lemma readPadder_within (e : OggOutcome) (buffer : Bytes) (frame : OpusFrame)
    (held : (o.readPadder e buffer).1.input = some frame) :
    frame.samples.length ≤ o.frameSampleNum := by
  unfold readPadder at held
  rw [readBuffer_eq] at held
  have read : (samplesOf (buffer.take (o.frameSampleNum * 2))).length ≤ o.frameSampleNum := by
    rw [samplesOf_length, List.length_take]
    omega
  dsimp only at held
  split at held
  · obtain rfl := Option.some.inj held
    exact Nat.zero_le _
  split at held
  · obtain rfl := Option.some.inj held
    simp only [OpusFrame.samples, List.length_append, List.length_take]
    omega
  · obtain rfl := Option.some.inj held
    simpa only [OpusFrame.samples, List.append_nil] using read

lemma curFrameSize_le (o : OggOpusDataEncoder) (nb : ℕ) : o.curFrameSize nb ≤ o.frameSampleNum := by
  unfold curFrameSize
  split
  · exact Nat.sub_le ..
  · exact le_rfl

lemma frameAtHand_length (o : OggOpusDataEncoder) :
    o.frameAtHand.samples.length = (o.input.getD {}).samples.length +
      (o.curFrameSize (o.input.getD {}).samples.length - (o.input.getD {}).samples.length) := by
  simp only [frameAtHand, OpusFrame.samples, List.length_append, List.length_replicate]
  omega

lemma samples_within (within : o.Within) :
    (o.input.getD {}).samples.length ≤ o.frameSampleNum := by
  cases held : o.input with
  | none => exact Nat.zero_le _
  | some frame => exact within.input frame held

/-- The zeros do not go beyond the frame length either. -/
lemma frameAtHand_within (within : o.Within) :
    o.frameAtHand.samples.length ≤ o.frameSampleNum := by
  have read := samples_within within
  have cur := o.curFrameSize_le (o.input.getD {}).samples.length
  rw [frameAtHand_length]
  omega

lemma encodeFrame_within (within : o.Within) (e : OggOutcome) (buffer : Bytes) :
    (o.encodeFrame e buffer).1.Within := by
  have frames : ∀ frame ∈ o.frames ++ [o.frameAtHand],
      frame.samples.length ≤ o.frameSampleNum := by
    intro frame is
    rcases List.mem_append.mp is with old | new
    · exact within.frames frame old
    · rw [List.mem_singleton.mp new]
      exact frameAtHand_within within
  rcases encodeFrame_cases e o buffer with ⟨-, same⟩ | ⟨-, ⟨-, same⟩ |
    ⟨packet, -, ⟨-, same⟩ | ⟨-, same⟩⟩⟩
  · rw [same]
    exact within
  · rw [same]
    exact ⟨within.input, frames⟩
  · rw [same]
    exact ⟨within.input, frames⟩
  · rw [same]
    exact ⟨(fun frame held => by cases held), frames⟩

lemma fetch_within (within : o.Within) (e : OggOutcome) (buffer : Bytes) :
    (fetch e o buffer).1.Within := by
  cases held : o.input with
  | some frame =>
    rw [fetch_of_some e o buffer held]
    exact within
  | none =>
    rw [fetch_of_none e o buffer held]
    obtain ⟨frame, -, -, kept, same⟩ := readPadder_read e o buffer
    constructor
    · rw [same.frameSampleNum]
      exact readPadder_within e buffer
    · rw [kept, same.frameSampleNum]
      exact within.frames

/-- Each call of the encoder fills one frame at most. -/
theorem encodeStep_within (within : o.Within) (call : OggOutcome × Bytes) :
    (encodeStep o call).Within := by
  obtain ⟨input, frames, num⟩ := openBuffer_kept call.1 o call.2
  unfold encodeStep
  cases opens : o.openBuffer call.1 call.2 with
  | mk opened result =>
    rw [opens] at input frames num
    have open_ : opened.Within :=
      ⟨by rw [input, num]; exact within.input, by rw [frames, num]; exact within.frames⟩
    cases result with
    | error code =>
      rw [oggopusEncode_refused opens]
      exact open_
    | ok buffer =>
      have counted : Within { opened with frameCount := opened.frameCount + 1 } :=
        ⟨open_.input, open_.frames⟩
      rw [oggopusEncode_opened opens]
      exact encodeFrame_within (fetch_within counted call.1 buffer) call.1 _

/-- In every session the frames given to Opus are no longer than the frame length. -/
theorem session_within (sampleRate lookahead : ℕ) (calls : List (OggOutcome × Bytes)) :
    (run encodeStep (create sampleRate lookahead) calls).Within := by
  have start : (create sampleRate lookahead).Within :=
    ⟨(fun frame held => by cases held), fun frame is => by cases is⟩
  exact invariant_run (I := Within) (fun _ call within => encodeStep_within within call) start calls

end OggOpusDataEncoder

end NlsSdk.Encoder
