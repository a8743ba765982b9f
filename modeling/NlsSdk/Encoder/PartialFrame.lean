import NlsSdk.Encoder.OggOpusBuffers

/-!
# The last frame

A frame that could not be filled is shortened in steps of 320 samples, the 20 ms of 16 kHz, and
completed with zeros. At other rates the steps are not those of Opus.
-/
namespace NlsSdk.Encoder

open NlsSdk.Library NlsSdk.Transport

/-- The frames Opus accepts have 2.5, 5, 10, 20, 40, 60, 80, 100 or 120 ms. -/
def OpusFrameSize (sampleRate size : ℕ) : Prop :=
  400 * size = sampleRate ∨ 200 * size = sampleRate ∨ 100 * size = sampleRate ∨
    50 * size = sampleRate ∨ 50 * size = 2 * sampleRate ∨ 50 * size = 3 * sampleRate ∨
    50 * size = 4 * sampleRate ∨ 50 * size = 5 * sampleRate ∨ 50 * size = 6 * sampleRate

instance (sampleRate size : ℕ) : Decidable (OpusFrameSize sampleRate size) :=
  inferInstanceAs (Decidable (_ ∨ _))

namespace OggOpusDataEncoder

variable (o : OggOpusDataEncoder)

/-- The samples at hand when a frame is encoded. -/
def nbSamples : ℕ := (o.input.getD {}).samples.length

/-! ## The size of the frame -/

/-- Whole steps are taken away, so that less than a step of zeros is left. -/
lemma curFrameSize_eq {nb : ℕ} (short : nb < o.frameSampleNum) :
    o.curFrameSize nb = nb + (o.frameSampleNum - nb) % 320 := by
  rw [curFrameSize, if_pos short]
  have split := Nat.div_add_mod' (o.frameSampleNum - nb) 320
  omega

/-- The size that is chosen is the one below the next step that differs from the whole frame by
steps. -/
lemma curFrameSize_eq_iff {nb size : ℕ} (short : nb < o.frameSampleNum) :
    o.curFrameSize nb = size ↔
      size % 320 = o.frameSampleNum % 320 ∧ nb ≤ size ∧ size < nb + 320 := by
  rw [curFrameSize_eq o short]
  omega

lemma frameAtHand_short (short : o.nbSamples < o.frameSampleNum) :
    o.frameAtHand.samples.length = o.curFrameSize o.nbSamples := by
  have enough : o.nbSamples ≤ o.curFrameSize o.nbSamples := by
    rw [curFrameSize_eq o short]
    omega
  exact (frameAtHand_length o).trans (Nat.add_sub_of_le enough)

/-- A frame is passed to Opus unless its size is zero, whatever the libraries answer. -/
lemma encodeFrame_frames (e : OggOutcome) (buffer : Bytes)
    (some_ : o.curFrameSize o.nbSamples ≠ 0) :
    (o.encodeFrame e buffer).1.frames = o.frames ++ [o.frameAtHand] := by
  obtain ⟨zero, -⟩ | ⟨-, ⟨-, after⟩ | ⟨packet, -, ⟨-, after⟩ | ⟨-, after⟩⟩⟩ :=
    encodeFrame_cases e o buffer
  · exact absurd zero some_
  · rw [after]
  · rw [after]
  · rw [after]

/-! ## When it is right -/

/-- A frame with samples at hand has a size that Opus accepts, holds them with less than 20 ms to
spare and fits into what is allocated; one without samples is not encoded. -/
structure PartialRight (allocated : ℕ) : Prop where
  encoded : 0 < o.nbSamples → ∀ e buffer, ∃ frame : OpusFrame,
    (o.encodeFrame e buffer).1.frames = o.frames ++ [frame] ∧
      OpusFrameSize o.sampleRate frame.samples.length ∧ o.nbSamples ≤ frame.samples.length ∧
      frame.samples.length < o.nbSamples + o.sampleRate / 50 ∧ frame.samples.length ≤ allocated
  skipped : o.nbSamples = 0 → ∀ e buffer,
    (o.encodeFrame e buffer).1.frames = o.frames ∧
      (o.encodeFrame e buffer).1.packets = o.packets

lemma encoded_iff {allocated : ℕ} (short : o.nbSamples < o.frameSampleNum)
    (some_ : 0 < o.nbSamples) :
    (∀ e buffer, ∃ frame : OpusFrame,
      (o.encodeFrame e buffer).1.frames = o.frames ++ [frame] ∧
        OpusFrameSize o.sampleRate frame.samples.length ∧ o.nbSamples ≤ frame.samples.length ∧
        frame.samples.length < o.nbSamples + o.sampleRate / 50 ∧
        frame.samples.length ≤ allocated) ↔
      ∃ size, OpusFrameSize o.sampleRate size ∧ size ≤ allocated ∧
        size % 320 = o.frameSampleNum % 320 ∧ o.nbSamples ≤ size ∧
        size < o.nbSamples + 320 ∧ size < o.nbSamples + o.sampleRate / 50 := by
  have size := curFrameSize_eq o short
  have nonzero : o.curFrameSize o.nbSamples ≠ 0 := by omega
  constructor
  · intro right
    obtain ⟨frame, frames, accepted, -, spare, fits⟩ := right {} []
    rw [encodeFrame_frames o _ _ nonzero] at frames
    obtain rfl : o.frameAtHand = frame := by simpa using frames
    rw [frameAtHand_short o short] at accepted spare fits
    obtain ⟨step, holds, below⟩ := (curFrameSize_eq_iff o short).mp rfl
    exact ⟨_, accepted, fits, step, holds, below, spare⟩
  · rintro ⟨size, accepted, fits, step, holds, below, spare⟩ e buffer
    have chosen := (curFrameSize_eq_iff o short).mpr ⟨step, holds, below⟩
    refine ⟨o.frameAtHand, encodeFrame_frames o e buffer nonzero, ?_⟩
    rw [frameAtHand_short o short, chosen]
    exact ⟨accepted, holds, spare, fits⟩

lemma skipped_iff (short : o.nbSamples < o.frameSampleNum) (none_ : o.nbSamples = 0) :
    (∀ e buffer, (o.encodeFrame e buffer).1.frames = o.frames ∧
      (o.encodeFrame e buffer).1.packets = o.packets) ↔ o.frameSampleNum % 320 = 0 := by
  have size := curFrameSize_eq o short
  constructor
  · intro skipped
    by_contra rest
    have frames := (skipped {} []).1
    rw [encodeFrame_frames o _ _ (by omega)] at frames
    simp at frames
  · intro steps e buffer
    obtain ⟨-, after⟩ | ⟨some_, -⟩ := encodeFrame_cases e o buffer
    · rw [after]
      exact ⟨rfl, rfl⟩
    · refine absurd ?_ some_
      change o.curFrameSize o.nbSamples = 0
      omega

/-- A frame that could not be filled is right exactly when a size that Opus accepts, and that is
allocated, differs from the whole frame by steps of 320 samples and holds the samples at hand with
less than a step and less than 20 ms to spare; without samples, when the whole frame has steps
only. -/
theorem partialRight_iff (allocated : ℕ) (short : o.nbSamples < o.frameSampleNum) :
    o.PartialRight allocated ↔
      (0 < o.nbSamples → ∃ size, OpusFrameSize o.sampleRate size ∧ size ≤ allocated ∧
        size % 320 = o.frameSampleNum % 320 ∧ o.nbSamples ≤ size ∧
        size < o.nbSamples + 320 ∧ size < o.nbSamples + o.sampleRate / 50) ∧
      (o.nbSamples = 0 → o.frameSampleNum % 320 = 0) := by
  constructor
  · intro right
    exact ⟨fun some_ => (encoded_iff o short some_).mp (right.encoded some_),
      fun none_ => (skipped_iff o short none_).mp (right.skipped none_)⟩
  · rintro ⟨sizes, steps⟩
    exact ⟨fun some_ => (encoded_iff o short some_).mpr (sizes some_),
      fun none_ => (skipped_iff o short none_).mpr (steps none_)⟩

/-! ## The encoders of the SDK -/

/-- The samples with which the last frame is right in an encoder of `createNlsEncoder`. -/
def RightAt (sampleRate nb : ℕ) : Prop :=
  (sampleRate = 8000 ∧ (0 < nb ∧ nb ≤ 160 ∨ 320 < nb ∧ nb ≤ 480 ∨ 640 < nb)) ∨
    (sampleRate = 12000 ∧ (0 < nb ∧ nb ≤ 240 ∨ 960 < nb)) ∨
    sampleRate = 16000 ∨
    (sampleRate = 24000 ∧ (160 < nb ∧ nb ≤ 480 ∨ 1120 < nb ∧ nb ≤ 1440)) ∨
    (sampleRate = 48000 ∧ (nb = 0 ∨ 640 < nb ∧ nb ≤ 960))

/-- The sizes that can be chosen rightly at 8 kHz. -/
lemma sizes_8k {size : ℕ} {window : Prop} :
    OpusFrameSize 8000 size ∧ size ≤ 1600 ∧ size % 320 = 800 % 320 ∧ window ↔
      (size = 160 ∨ size = 480 ∨ size = 800) ∧ window := by
  rw [OpusFrameSize, ← and_assoc, ← and_assoc]
  exact and_congr_left' (by omega)

lemma sizes_12k {size : ℕ} {window : Prop} :
    OpusFrameSize 12000 size ∧ size ≤ 1600 ∧ size % 320 = 1200 % 320 ∧ window ↔
      (size = 240 ∨ size = 1200) ∧ window := by
  rw [OpusFrameSize, ← and_assoc, ← and_assoc]
  exact and_congr_left' (by omega)

lemma sizes_16k {size : ℕ} {window : Prop} :
    OpusFrameSize 16000 size ∧ size ≤ 1600 ∧ size % 320 = 1600 % 320 ∧ window ↔
      (size = 320 ∨ size = 640 ∨ size = 960 ∨ size = 1280 ∨ size = 1600) ∧ window := by
  rw [OpusFrameSize, ← and_assoc, ← and_assoc]
  exact and_congr_left' (by omega)

lemma sizes_24k {size : ℕ} {window : Prop} :
    OpusFrameSize 24000 size ∧ size ≤ 1600 ∧ size % 320 = 2400 % 320 ∧ window ↔
      (size = 480 ∨ size = 1440) ∧ window := by
  rw [OpusFrameSize, ← and_assoc, ← and_assoc]
  exact and_congr_left' (by omega)

lemma sizes_48k {size : ℕ} {window : Prop} :
    OpusFrameSize 48000 size ∧ size ≤ 1600 ∧ size % 320 = 4800 % 320 ∧ window ↔
      size = 960 ∧ window := by
  rw [OpusFrameSize, ← and_assoc, ← and_assoc]
  exact and_congr_left' (by omega)

/-- At 16 kHz the last frame is always right, at the other rates for some numbers of samples. -/
theorem created_partialRight_iff {p : OggOpusDataEncoderPara}
    (supported : o.sampleRate ∈ opusRates) (frame : o.frameSampleNum = o.sampleRate / 10)
    (created : (run OggOpusSizes.step {}
      (OggOpusSizes.createNlsEncoder o.sampleRate)).para = some p)
    (short : o.nbSamples < o.frameSampleNum) :
    o.PartialRight p.input ↔ RightAt o.sampleRate o.nbSamples := by
  have allocated : p.input = 1600 := by
    simp only [OggOpusSizes.createNlsEncoder, run_cons, run_nil, OggOpusSizes.step,
      OggOpusSizes.oggopusEncoderCreate, if_pos supported, OggOpusSizes.setSampleRate,
      Option.some.injEq] at created
    rw [← created]
    rfl
  rw [partialRight_iff o _ short, allocated, RightAt, frame]
  rw [frame] at short
  generalize o.nbSamples = nb at short ⊢
  simp only [opusRates, List.mem_cons, List.not_mem_nil, or_false] at supported
  obtain rate | rate | rate | rate | rate := supported
  · rw [rate] at short ⊢
    simp only [Nat.reduceDiv, Nat.reduceEqDiff, sizes_8k, or_and_right, exists_or, exists_eq_left,
      true_and, false_and, or_false]
    omega
  · rw [rate] at short ⊢
    simp only [Nat.reduceDiv, Nat.reduceEqDiff, sizes_12k, or_and_right, exists_or,
      exists_eq_left, true_and, false_and, false_or, or_false]
    omega
  · rw [rate] at short ⊢
    refine iff_of_true ⟨fun some_ => ?_, fun _ => rfl⟩ (.inr (.inr (.inl rfl)))
    simp only [Nat.reduceDiv, sizes_16k, or_and_right, exists_or, exists_eq_left]
    omega
  · rw [rate] at short ⊢
    simp only [Nat.reduceDiv, Nat.reduceEqDiff, sizes_24k, or_and_right, exists_or,
      exists_eq_left, true_and, false_and, false_or, or_false]
    omega
  · rw [rate] at short ⊢
    simp only [Nat.reduceDiv, sizes_48k, exists_eq_left]
    simp only [Nat.reduceEqDiff, true_and, false_and, false_or, implies_true,
      and_true]
    omega

/-- An encoder with so many samples at hand. -/
def holding (sampleRate nb : ℕ) : OggOpusDataEncoder :=
  { create sampleRate 0 with input := some { read := List.replicate nb 0 } }

@[simp] lemma holding_nbSamples (sampleRate nb : ℕ) : (holding sampleRate nb).nbSamples = nb := by
  simp only [holding, nbSamples, OpusFrame.samples, Option.getD_some, List.append_nil,
    List.length_replicate]

theorem created_partialRight_16k : (holding 16000 100).PartialRight 1600 :=
  (created_partialRight_iff (p := ⟨6400, 6400, 1600⟩) (holding 16000 100) (by decide) rfl
    (by decide) (by rw [holding_nbSamples]; decide)).mpr (.inr (.inr (.inl rfl)))

/-- At 24 kHz 600 samples make a frame of 800, which Opus does not have. -/
theorem frame_refused_at_24k : ¬(holding 24000 600).PartialRight 1600 := by
  intro right
  have short : (holding 24000 600).nbSamples < (holding 24000 600).frameSampleNum := by
    rw [holding_nbSamples]
    decide
  obtain ⟨size, accepted, -, -, holds, below, -⟩ :=
    ((partialRight_iff _ 1600 short).mp right).1 (by rw [holding_nbSamples]; decide)
  rw [holding_nbSamples] at holds below
  change OpusFrameSize 24000 size at accepted
  rw [OpusFrameSize] at accepted
  omega

end OggOpusDataEncoder

end NlsSdk.Encoder
