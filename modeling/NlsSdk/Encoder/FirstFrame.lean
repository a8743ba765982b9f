import NlsSdk.Encoder.OggOpusEncoder

/-!
# The samples of a session

Each call passes one frame to the Opus encoder. The first one is read from the
silence in front of the first buffer, which is freed with all that stands behind it.
-/
namespace NlsSdk.Encoder

open NlsSdk.Library NlsSdk.Transport

/-! ## Samples -/

@[simp] lemma readBuffer_eq (requestedLen : ℕ) (src : Bytes) :
    readBuffer requestedLen src = (src.take requestedLen, src.drop requestedLen) := by
  unfold readBuffer
  split
  · rename_i empty
    simp [empty]
  split
  · rename_i short
    rw [List.take_of_length_le (by omega), List.drop_of_length_le (by omega)]
  · rfl

lemma samplesOf_zeros (k : ℕ) : samplesOf (List.replicate (k * 2) 0) = List.replicate k 0 := by
  induction k with
  | zero => rfl
  | succ k ih =>
    have two : (k + 1) * 2 = k * 2 + 1 + 1 := by omega
    rw [two, List.replicate_succ, List.replicate_succ, samplesOf, ih, List.replicate_succ]
    simp [sampleOf]

lemma samplesOf_length (bytes : Bytes) : (samplesOf bytes).length = bytes.length / 2 := by
  fun_induction samplesOf bytes with
  | case1 lo hi rest ih =>
    simp only [List.length_cons, ih]
    omega
  | case2 bytes short =>
    cases bytes with
    | nil => rfl
    | cons lo rest =>
      cases rest with
      | nil => simp
      | cons hi rest => exact absurd rfl (short lo hi rest)

namespace OggOpusDataEncoder

variable {e : OggOutcome} {o : OggOpusDataEncoder} {buffer inputData : Bytes}

/-! ## One call -/

/-- What a call leaves as it is. -/
structure SameFrames (o m : OggOpusDataEncoder) : Prop where
  frameSampleNum : m.frameSampleNum = o.frameSampleNum
  frameSampleBytes : m.frameSampleBytes = o.frameSampleBytes
  isFirstFrameProcessed : m.isFirstFrameProcessed = o.isFirstFrameProcessed

lemma readPadder_read (e : OggOutcome) (o : OggOpusDataEncoder) (buffer : Bytes) :
    ∃ frame : OpusFrame, (o.readPadder e buffer).1.input = some frame ∧
      frame.read = samplesOf (buffer.take (o.frameSampleNum * 2)) ∧
      (o.readPadder e buffer).1.frames = o.frames ∧ SameFrames o (o.readPadder e buffer).1 := by
  unfold readPadder
  rw [readBuffer_eq]
  dsimp only
  split
  · rename_i empty
    exact ⟨{}, rfl, empty.symm, rfl, ⟨rfl, rfl, rfl⟩⟩
  split
  · exact ⟨_, rfl, rfl, rfl, ⟨rfl, rfl, rfl⟩⟩
  · exact ⟨_, rfl, rfl, rfl, ⟨rfl, rfl, rfl⟩⟩

/-- With the delay that is set no frame is read ahead. -/
lemma readAhead_eq (e : OggOutcome) (o : OggOpusDataEncoder) (buffer : Bytes) :
    o.readAhead e buffer = { o with input := none } := by
  unfold readAhead
  rw [if_neg (by simp [maxOggDelay])]

/-- A frame is encoded, and nothing of its buffer is kept. -/
lemma encodeFrame_ok (ok : (o.encodeFrame e buffer).2 = .ok ()) :
    (o.encodeFrame e buffer).1.frames = o.frames ++ [o.frameAtHand] ∧
      (o.encodeFrame e buffer).1.input = none ∧ SameFrames o (o.encodeFrame e buffer).1 ∧
      o.frameSampleNum ≠ 0 := by
  unfold encodeFrame at ok ⊢
  split at ok
  · cases ok
  rename_i positive
  rw [if_neg positive]
  have full : o.frameSampleNum ≠ 0 := by
    intro none_
    apply positive
    simp [curFrameSize, none_]
  dsimp only at ok ⊢
  split at ok
  · cases ok
  split at ok
  · cases ok
  rename_i flushed
  rw [if_neg flushed]
  split at ok
  · cases ok
  rename_i written
  rw [if_neg written, readAhead_eq]
  exact ⟨rfl, rfl, ⟨rfl, rfl, rfl⟩, full⟩

/-- A call whose buffer is opened reads one frame of it, and encodes it. -/
lemma oggopusEncode_eq {opened : OggOpusDataEncoder} (opens : o.openBuffer e inputData =
    (opened, .ok buffer)) (fresh : opened.input = none) :
    o.oggopusEncode e inputData =
      ({ opened with frameCount := opened.frameCount + 1 }.readPadder e buffer).1.encodeFrame e
        ({ opened with frameCount := opened.frameCount + 1 }.readPadder e buffer).2 := by
  unfold oggopusEncode
  rw [opens]
  dsimp only
  rw [fresh]

lemma oggopusEncode_ok {opened : OggOpusDataEncoder} (opens : o.openBuffer e inputData =
    (opened, .ok buffer)) (fresh : opened.input = none)
    (ok : (o.oggopusEncode e inputData).2 = .ok ()) :
    (∃ frame : OpusFrame, frame.read = samplesOf (buffer.take (opened.frameSampleNum * 2)) ∧
      (o.oggopusEncode e inputData).1.frames = opened.frames ++ [frame]) ∧
      (o.oggopusEncode e inputData).1.input = none ∧
      SameFrames opened (o.oggopusEncode e inputData).1 ∧ opened.frameSampleNum ≠ 0 := by
  obtain ⟨frame, held, read, frames, same⟩ := readPadder_read e
    { opened with frameCount := opened.frameCount + 1 } buffer
  rw [oggopusEncode_eq opens fresh] at ok ⊢
  generalize ({ opened with frameCount := opened.frameCount + 1 }.readPadder e buffer) = p
    at held frames same ok ⊢
  obtain ⟨appended, free, same', full⟩ := encodeFrame_ok ok
  refine ⟨⟨p.1.frameAtHand, ?_, ?_⟩, free, ?_, ?_⟩
  · rw [← read]
    simp [frameAtHand, held]
  · rw [appended, frames]
  · exact ⟨same'.frameSampleNum.trans same.frameSampleNum,
      same'.frameSampleBytes.trans same.frameSampleBytes,
      same'.isFirstFrameProcessed.trans same.isFirstFrameProcessed⟩
  · rw [same.frameSampleNum] at full
    exact full

/-! ## Sessions -/

def Succeeds (o : OggOpusDataEncoder) (call : OggOutcome × Bytes) : Prop :=
  (o.oggopusEncode call.1 call.2).2 = .ok ()

instance (o : OggOpusDataEncoder) (call : OggOutcome × Bytes) : Decidable (Succeeds o call) :=
  inferInstanceAs (Decidable (_ = _))

/-- The encoder waits for the first frame of a session. -/
structure Ready (o : OggOpusDataEncoder) : Prop where
  frameSampleBytes : o.frameSampleBytes = o.frameSampleNum * 2
  isFirstFrameProcessed : o.isFirstFrameProcessed = false
  input : o.input = none
  frames : o.frames = []

theorem create_ready (sampleRate lookahead : ℕ) : Ready (create sampleRate lookahead) :=
  ⟨rfl, rfl, rfl, rfl⟩

/-- The samples the frames of a session were read with. -/
def samplesRead (o : OggOpusDataEncoder) : List ℚ := o.frames.flatMap OpusFrame.read

/-- All samples of the buffers. -/
def samplesGiven (calls : List (OggOutcome × Bytes)) : List ℚ :=
  calls.flatMap fun call => samplesOf call.2

/-- The frames of the session are read from silence as long as a frame and from its buffers, in
order and each sample once. -/
def ConsumesOnce (o : OggOpusDataEncoder) (calls : List (OggOutcome × Bytes)) : Prop :=
  (run encodeStep o calls).samplesRead =
    List.replicate o.frameSampleNum 0 ++ samplesGiven calls

lemma openBuffer_of_succeeds {call : OggOutcome × Bytes} (ok : Succeeds o call) :
    ∃ opened buffer, o.openBuffer call.1 call.2 = (opened, .ok buffer) := by
  unfold Succeeds oggopusEncode at ok
  generalize o.openBuffer call.1 call.2 = opens at ok ⊢
  obtain ⟨opened, result⟩ := opens
  cases result with
  | error code => cases ok
  | ok buffer => exact ⟨opened, buffer, rfl⟩

lemma openBuffer_first (ready : Ready o) (full : inputData.length = o.frameSampleBytes) :
    o.openBuffer e inputData = o.firstFrame e inputData := by
  unfold openBuffer
  rw [if_neg (by simp [ready.isFirstFrameProcessed]), if_pos full]

lemma firstFrame_ok {opened : OggOpusDataEncoder}
    (opens : o.firstFrame e inputData = (opened, .ok buffer)) :
    buffer = List.replicate inputData.length 0 ++ inputData ∧ opened.input = o.input ∧
      opened.frames = o.frames ∧ opened.isFirstFrameProcessed = true ∧
      opened.frameSampleNum = o.frameSampleNum ∧
      opened.frameSampleBytes = o.frameSampleBytes := by
  unfold firstFrame at opens
  dsimp only at opens
  split at opens
  · cases opens
  split at opens
  · cases opens
  · cases opens
    exact ⟨rfl, rfl, rfl, rfl, rfl, rfl⟩

/-- The first frame is read from the silence, and the buffer is lost. -/
lemma firstCall {call : OggOutcome × Bytes} (ready : Ready o)
    (full : call.2.length = o.frameSampleBytes) (ok : Succeeds o call) :
    (encodeStep o call).samplesRead = List.replicate o.frameSampleNum 0 ∧
      (encodeStep o call).input = none ∧ (encodeStep o call).isFirstFrameProcessed = true ∧
      (encodeStep o call).frameSampleNum = o.frameSampleNum ∧
      (encodeStep o call).frameSampleBytes = o.frameSampleBytes ∧ o.frameSampleNum ≠ 0 := by
  obtain ⟨opened, buffer, opens⟩ := openBuffer_of_succeeds ok
  have first : o.firstFrame call.1 call.2 = (opened, .ok buffer) := by
    rw [← openBuffer_first ready full, opens]
  obtain ⟨rfl, input, frames, processed, num, bytes⟩ := firstFrame_ok first
  obtain ⟨⟨frame, read, appended⟩, free, same, positive⟩ :=
    oggopusEncode_ok opens (input.trans ready.input) ok
  refine ⟨?_, free, same.isFirstFrameProcessed.trans processed, same.frameSampleNum.trans num,
    same.frameSampleBytes.trans bytes, ?_⟩
  · rw [samplesRead, encodeStep, appended, frames, ready.frames, List.nil_append,
      List.flatMap_singleton, read, num, full, ready.frameSampleBytes, List.take_left' (by simp),
      samplesOf_zeros]
  · rw [num] at positive
    exact positive

lemma openBuffer_next (processed : o.isFirstFrameProcessed = true)
    (given : 0 < inputData.length) : o.openBuffer e inputData = (o, .ok inputData) := by
  unfold openBuffer
  rw [if_pos ⟨processed, given⟩]

/-- A later frame is read from its buffer. -/
lemma nextCall {call : OggOutcome × Bytes} (processed : o.isFirstFrameProcessed = true)
    (fresh : o.input = none) (short : call.2.length ≤ o.frameSampleNum * 2)
    (full : o.frameSampleBytes ≠ 0) (ok : Succeeds o call) :
    (encodeStep o call).samplesRead = o.samplesRead ++ samplesOf call.2 ∧
      (encodeStep o call).input = none ∧ (encodeStep o call).isFirstFrameProcessed = true ∧
      (encodeStep o call).frameSampleNum = o.frameSampleNum ∧
      (encodeStep o call).frameSampleBytes = o.frameSampleBytes := by
  have opens : ∃ opened, o.openBuffer call.1 call.2 = (opened, .ok call.2) ∧
      opened.input = none ∧ opened.frames = o.frames ∧ SameFrames o opened := by
    by_cases given : 0 < call.2.length
    · exact ⟨o, openBuffer_next processed given, fresh, rfl, ⟨rfl, rfl, rfl⟩⟩
    · have empty : call.2 = [] := List.length_eq_zero_iff.mp (by omega)
      unfold openBuffer
      rw [if_neg (by simp [given]), if_neg (by simp [empty, full.symm]), empty]
      exact ⟨_, rfl, fresh, rfl, ⟨rfl, rfl, rfl⟩⟩
  obtain ⟨opened, opens, free, frames, same⟩ := opens
  obtain ⟨⟨frame, read, appended⟩, free, same', -⟩ := oggopusEncode_ok opens free ok
  refine ⟨?_, free, ?_, same'.frameSampleNum.trans same.frameSampleNum,
    same'.frameSampleBytes.trans same.frameSampleBytes⟩
  · rw [samplesRead, encodeStep, appended, frames, List.flatMap_append, List.flatMap_singleton,
      read, same.frameSampleNum, List.take_of_length_le short, samplesRead]
  · exact same'.isFirstFrameProcessed.trans (same.isFirstFrameProcessed.trans processed)

/-- The frames behind the first are read from their buffers, each sample once. -/
lemma rest_read {rest : List (OggOutcome × Bytes)} (processed : o.isFirstFrameProcessed = true)
    (fresh : o.input = none) (full : o.frameSampleBytes ≠ 0)
    (short : ∀ call ∈ rest, call.2.length ≤ o.frameSampleNum * 2)
    (ok : Along encodeStep Succeeds o rest) :
    (run encodeStep o rest).samplesRead = o.samplesRead ++ samplesGiven rest := by
  induction rest generalizing o with
  | nil => simp [samplesGiven]
  | cons call rest ih =>
    obtain ⟨now, later⟩ := ok
    obtain ⟨read, fresh', processed', num, bytes⟩ :=
      nextCall processed fresh (short call (List.mem_cons_self ..)) full now
    have others := ih processed' fresh' (by rw [bytes]; exact full)
      (fun other is => by rw [num]; exact short other (List.mem_cons_of_mem _ is)) later
    rw [run_cons, others, read, List.append_assoc]
    rfl

/-- A session loses the samples of its first buffer, and no others. -/
theorem session_read {first : OggOutcome × Bytes} {rest : List (OggOutcome × Bytes)}
    (ready : Ready o) (full : first.2.length = o.frameSampleBytes)
    (short : ∀ call ∈ rest, call.2.length ≤ o.frameSampleBytes)
    (ok : Along encodeStep Succeeds o (first :: rest)) :
    (run encodeStep o (first :: rest)).samplesRead =
      List.replicate o.frameSampleNum 0 ++ samplesGiven rest := by
  obtain ⟨now, later⟩ := ok
  obtain ⟨read, fresh, processed, num, bytes, positive⟩ := firstCall ready full now
  have fits : ∀ call ∈ rest, call.2.length ≤ (encodeStep o first).frameSampleNum * 2 := by
    rw [num, ← ready.frameSampleBytes]
    exact short
  have nonempty : (encodeStep o first).frameSampleBytes ≠ 0 := by
    rw [bytes, ready.frameSampleBytes]
    omega
  rw [run_cons, rest_read processed fresh nonempty fits later, read]

/-- The first buffer of a session that succeeds has samples. -/
lemma first_samples {first : OggOutcome × Bytes} (ready : Ready o)
    (full : first.2.length = o.frameSampleBytes) (ok : Succeeds o first) :
    samplesOf first.2 ≠ [] := by
  obtain ⟨-, -, -, -, -, positive⟩ := firstCall ready full ok
  intro none_
  have count := samplesOf_length first.2
  rw [none_, full, ready.frameSampleBytes, List.length_nil] at count
  omega

/-! ## A session that succeeds -/

/-- The libraries report no failure. -/
structure Good (e : OggOutcome) : Prop where
  headWritten : e.headWritten = true
  tagsWritten : e.tagsWritten = true
  packet : e.packet.isSome
  flushed : e.flushed = true
  written : e.written = true

lemma curFrameSize_pos {nb : ℕ} (some_ : 0 < nb) (full : 0 < o.frameSampleNum) :
    0 < o.curFrameSize nb := by
  unfold curFrameSize
  split
  · omega
  · exact full

/-- A call that reads a sample succeeds if the libraries do. -/
lemma succeeds_of_good {opened : OggOpusDataEncoder} (good : Good e)
    (opens : o.openBuffer e inputData = (opened, .ok buffer)) (fresh : opened.input = none)
    (full : 0 < opened.frameSampleNum)
    (some_ : samplesOf (buffer.take (opened.frameSampleNum * 2)) ≠ []) :
    Succeeds o (e, inputData) := by
  obtain ⟨frame, held, read, -, same⟩ := readPadder_read e
    { opened with frameCount := opened.frameCount + 1 } buffer
  unfold Succeeds
  rw [oggopusEncode_eq opens fresh]
  generalize ({ opened with frameCount := opened.frameCount + 1 }.readPadder e buffer) = p
    at held same ⊢
  obtain ⟨packet, made⟩ := Option.isSome_iff_exists.mp good.packet
  have samples : 0 < frame.samples.length := by
    rw [OpusFrame.samples, List.length_append, read]
    exact Nat.add_pos_left (List.length_pos_iff.mpr some_) _
  have positive : p.1.curFrameSize (p.1.input.getD {}).samples.length ≠ 0 := by
    rw [held, Option.getD_some]
    have := curFrameSize_pos (o := p.1) samples (by rw [same.frameSampleNum]; exact full)
    omega
  unfold encodeFrame
  rw [if_neg positive, made]
  simp [good.flushed, good.written]

/-- A session at 16 kHz: a first buffer of a frame and one of half a frame. -/
def toneCalls : List (OggOutcome × Bytes) :=
  [({}, List.replicate 3200 1), ({}, List.replicate 1600 1)]

lemma samplesOf_replicate (k j : ℕ) (b : UInt8) :
    samplesOf ((List.replicate (k + 2) b).take (j + 2)) ≠ [] := by
  rw [List.replicate_succ, List.replicate_succ, List.take_succ_cons, List.take_succ_cons,
    samplesOf]
  simp

lemma tone_succeeds : Along encodeStep Succeeds (create 16000 104) toneCalls := by
  have good : Good {} := ⟨rfl, rfl, rfl, rfl, rfl⟩
  have first : Succeeds (create 16000 104) ({}, List.replicate 3200 1) := by
    have full : (List.replicate 3200 (1 : UInt8)).length = (create 16000 104).frameSampleBytes := by
      rw [List.length_replicate]
      rfl
    refine succeeds_of_good good ((openBuffer_first (create_ready 16000 104) full).trans rfl) rfl
      (by decide) ?_
    rw [List.length_replicate, List.take_append_of_le_length (by rw [List.length_replicate]; rfl)]
    exact samplesOf_replicate 3198 3198 0
  obtain ⟨-, fresh, processed, num, -⟩ :=
    firstCall (create_ready 16000 104) List.length_replicate first
  have given : 0 < (List.replicate 1600 (1 : UInt8)).length := by
    rw [List.length_replicate]
    omega
  have full : 0 < (encodeStep (create 16000 104) ({}, List.replicate 3200 1)).frameSampleNum := by
    rw [num]
    decide
  have second := succeeds_of_good good (openBuffer_next processed given) fresh full (by
    rw [num]
    exact samplesOf_replicate 1598 3198 1)
  exact ⟨first, second, trivial⟩

/-! ## The lost buffer -/

/-- In no session are all samples consumed: those of the first buffer are not. -/
theorem not_consumesOnce {first : OggOutcome × Bytes} {rest : List (OggOutcome × Bytes)}
    (ready : Ready o) (full : first.2.length = o.frameSampleBytes)
    (short : ∀ call ∈ rest, call.2.length ≤ o.frameSampleBytes)
    (ok : Along encodeStep Succeeds o (first :: rest)) :
    ¬ConsumesOnce o (first :: rest) := by
  intro once
  have lost := session_read ready full short ok
  unfold ConsumesOnce at once
  rw [lost, samplesGiven, samplesGiven, List.flatMap_cons] at once
  have same := List.append_cancel_left once
  have none_ : samplesOf first.2 = [] := by
    have lengths := congrArg List.length same
    rw [List.length_append] at lengths
    exact List.length_eq_zero_iff.mp (by omega)
  exact first_samples ready full ok.1 none_

theorem not_consumesOnce_tone : ¬ConsumesOnce (create 16000 104) toneCalls :=
  not_consumesOnce (create_ready 16000 104) (by rw [List.length_replicate]; rfl)
    (by
      intro call is
      rw [List.mem_singleton.mp is, List.length_replicate]
      decide) tone_succeeds

/-- Of the 2400 samples of the two buffers 800 are read, behind 1600 of silence. -/
theorem first_buffer_lost :
    Along encodeStep Succeeds (create 16000 104) toneCalls ∧
      (samplesGiven toneCalls).length = 2400 ∧
      (run encodeStep (create 16000 104) toneCalls).samplesRead.length = 1600 + 800 ∧
      ¬ConsumesOnce (create 16000 104) toneCalls := by
  have given : (samplesGiven toneCalls).length = 2400 := by
    simp only [samplesGiven, toneCalls, List.flatMap_cons, List.flatMap_nil, List.length_append,
      samplesOf_length, List.length_replicate, List.length_nil]
  have read : (run encodeStep (create 16000 104) toneCalls).samplesRead.length = 1600 + 800 := by
    rw [toneCalls, session_read (create_ready 16000 104) (by rw [List.length_replicate]; rfl)
      (by
        intro call is
        rw [List.mem_singleton.mp is, List.length_replicate]
        decide) tone_succeeds]
    simp only [samplesGiven, List.flatMap_cons, List.flatMap_nil, List.length_append,
      samplesOf_length, List.length_replicate, List.length_nil]
    rfl
  refine ⟨tone_succeeds, given, read, fun once => ?_⟩
  rw [once, List.length_append, List.length_replicate, given] at read
  exact absurd read (by decide)

end OggOpusDataEncoder

end NlsSdk.Encoder
