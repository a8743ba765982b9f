import NlsSdk.Encoder.GranulePosition

/-!
# One session after another

`OggopusSoftRestart` starts the Ogg stream anew. The counters, the padder and the frame at hand
stay as the calls before it left them. The codec is a function of the samples of a frame.
-/
namespace NlsSdk.Encoder

open NlsSdk.Library NlsSdk.Transport

/-! ## What a session produces -/

inductive PacketKind
  | opusHead
  | opusTags
  | audio (size : ℕ)
  deriving DecidableEq, Repr

def PacketBody.kind : PacketBody → PacketKind
  | .opusHead => .opusHead
  | .opusTags => .opusTags
  | .audio packet => .audio packet.length

/-- What the stream tells of a packet, apart from its bytes. -/
structure PacketOutline where
  kind : PacketKind
  beginOfStream : Bool
  endOfStream : Bool
  granulepos : ℕ
  deriving DecidableEq, Repr

def OggPacket.outline (packet : OggPacket) : PacketOutline where
  kind := packet.body.kind
  beginOfStream := packet.beginOfStream
  endOfStream := packet.endOfStream
  granulepos := packet.granulepos

structure OggStructure where
  packets : List PacketOutline
  padding : List (List ℚ)
  deriving DecidableEq

/-- The granule positions start with a first frame. -/
def OggStructure.Starts (s : OggStructure) : Prop :=
  ∃ outline ∈ s.packets, outline.granulepos = frameSampleNum16k * 3

/-- The calls on an encoder object between its creation and a new session. -/
inductive SessionCall
  | oggopusEncode (e : OggOutcome) (inputData : Bytes)
  | oggopusFinish (e e' : OggOutcome)
  | oggopusSoftRestart

namespace OggOpusDataEncoder

def oggStructure (o : OggOpusDataEncoder) : OggStructure where
  packets := o.packets.map OggPacket.outline
  padding := o.frames.map OpusFrame.padding

/-- The packet is what the codec makes of the frame at hand. -/
def answer (codec : List ℚ → Option Bytes) (o : OggOpusDataEncoder) (e : OggOutcome)
    (inputData : Bytes) : OggOutcome :=
  { e with packet := (o.atHand e inputData).bind fun hand => codec hand.1.frameAtHand.samples }

def encodeBy (codec : List ℚ → Option Bytes) (o : OggOpusDataEncoder) (call : OggOutcome × Bytes) :
    OggOpusDataEncoder :=
  (o.oggopusEncode (o.answer codec call.1 call.2) call.2).1

/-- `OggopusFinish` encodes twice without audio. -/
def sessionStep (codec : List ℚ → Option Bytes) (o : OggOpusDataEncoder) :
    SessionCall → OggOpusDataEncoder
  | .oggopusEncode e inputData => o.encodeBy codec (e, inputData)
  | .oggopusFinish e e' => (o.encodeBy codec (e, [])).encodeBy codec (e', [])
  | .oggopusSoftRestart => o.oggopusSoftRestart

/-- After the calls and a restart each session is as on a new encoder. -/
def RestartsFresh (codec : List ℚ → Option Bytes) (sampleRate lookahead : ℕ)
    (history : List SessionCall) : Prop :=
  ∀ calls : List (OggOutcome × Bytes),
    (run (encodeBy codec)
      (run (sessionStep codec) (create sampleRate lookahead) history).oggopusSoftRestart
      calls).oggStructure =
    (run (encodeBy codec) (create sampleRate lookahead) calls).oggStructure

/-- A call that fails at the headers of the stream. -/
def StopsAtHeaders (sampleRate : ℕ) : SessionCall → Prop
  | .oggopusEncode e inputData =>
    inputData.length = sampleRate / 10 * 2 ∧ (e.headWritten = false ∨ e.tagsWritten = false)
  | .oggopusFinish _ _ => False
  | .oggopusSoftRestart => True

variable {codec : List ℚ → Option Bytes} {o m : OggOpusDataEncoder} {e : OggOutcome}
  {inputData : Bytes}

/-! ## A call with its frame -/

/-- A call without a frame at hand only opens its buffer. -/
lemma encodeBy_none (none_ : o.atHand e inputData = none) :
    o.encodeBy codec (e, inputData) = (o.openBuffer e inputData).1 := by
  unfold atHand at none_
  cases opens : o.openBuffer e inputData with
  | mk opened result =>
    rw [opens] at none_
    cases result with
    | ok buffer => cases none_
    | error code =>
      have refused := oggopusEncode_refused (e := o.answer codec e inputData) opens
      exact congrArg Prod.fst refused

variable (codec) in
/-- Any other call encodes it, if the codec does. -/
lemma encodeBy_some {read : ℕ} (some_ : o.atHand e inputData = some (m, read)) :
    ∃ buffer, o.encodeBy codec (e, inputData) =
      (m.encodeFrame { e with packet := codec m.frameAtHand.samples } buffer).1 := by
  have answered : o.answer codec e inputData =
      { e with packet := codec m.frameAtHand.samples } := by
    rw [answer, some_]
    rfl
  unfold encodeBy
  rw [answered]
  have hand : o.atHand { e with packet := codec m.frameAtHand.samples } inputData =
      some (m, read) := some_
  obtain ⟨-, -, -, buffer, encodes⟩ := atHand_some hand
  exact ⟨buffer, encodes⟩

lemma readPadder_stream (e : OggOutcome) (o : OggOpusDataEncoder) (buffer : Bytes) :
    (o.readPadder e buffer).1.packets = o.packets ∧
      (o.readPadder e buffer).1.endOfStream = o.endOfStream := by
  unfold readPadder
  dsimp only
  split
  · exact ⟨rfl, rfl⟩
  split
  · exact ⟨rfl, rfl⟩
  · exact ⟨rfl, rfl⟩

/-- A frame is kept until it is encoded. -/
lemma fetch_input (e : OggOutcome) (o : OggOpusDataEncoder) (buffer : Bytes) :
    (∃ frame, (fetch e o buffer).1.input = some frame) ∧
      ∀ frame, o.input = some frame → (fetch e o buffer).1.input = some frame := by
  cases held : o.input with
  | some frame =>
    rw [fetch_of_some e o buffer held, held]
    exact ⟨⟨frame, rfl⟩, fun kept is => is⟩
  | none =>
    obtain ⟨frame, read, -, -, -⟩ := readPadder_read e o buffer
    rw [fetch_of_none e o buffer held]
    exact ⟨⟨frame, read⟩, fun kept is => by cases is⟩

lemma fetch_stream (e : OggOutcome) (o : OggOpusDataEncoder) (buffer : Bytes) :
    (fetch e o buffer).1.packets = o.packets ∧
      (fetch e o buffer).1.endOfStream = o.endOfStream := by
  cases held : o.input with
  | some frame =>
    rw [fetch_of_some e o buffer held]
    exact ⟨rfl, rfl⟩
  | none =>
    rw [fetch_of_none e o buffer held]
    exact readPadder_stream e o buffer

/-- The frame at hand was fetched behind the opening of a buffer. -/
lemma atHand_fetched {read : ℕ} (some_ : o.atHand e inputData = some (m, read)) :
    ∃ opened buffer, o.openBuffer e inputData = (opened, .ok buffer) ∧
      m = (fetch e { opened with frameCount := opened.frameCount + 1 } buffer).1 := by
  unfold atHand at some_
  cases opens : o.openBuffer e inputData with
  | mk opened result =>
    rw [opens] at some_
    cases result with
    | error code => cases some_
    | ok buffer =>
      obtain ⟨rfl, -⟩ := Prod.mk.inj (Option.some.inj some_)
      exact ⟨opened, buffer, rfl, rfl⟩

lemma atHand_input {read : ℕ} (some_ : o.atHand e inputData = some (m, read)) :
    (∃ frame, m.input = some frame) ∧ ∀ frame, o.input = some frame → m.input = some frame := by
  obtain ⟨opened, buffer, opens, rfl⟩ := atHand_fetched some_
  obtain ⟨input, -, -⟩ := openBuffer_kept e o inputData
  rw [opens] at input
  obtain ⟨held, kept⟩ := fetch_input e { opened with frameCount := opened.frameCount + 1 } buffer
  exact ⟨held, fun frame is => kept frame (input.trans is)⟩

/-! ## What a session leaves behind -/

/-- The frame at hand cannot be encoded: it has no size, or the codec refuses it. -/
def Stuck (codec : List ℚ → Option Bytes) (o : OggOpusDataEncoder) : Prop :=
  (∃ frame, o.input = some frame) ∧
    (o.curFrameSize (o.input.getD {}).samples.length = 0 ∨ codec o.frameAtHand.samples = none)

/-- A frame has been encoded, or one is at hand that cannot be. -/
def Touched (codec : List ℚ → Option Bytes) (o : OggOpusDataEncoder) : Prop :=
  o.encGranulepos ≠ 0 ∨ Stuck codec o

lemma Stuck.congr (stuck : Stuck codec o) (input : m.input = o.input)
    (num : m.frameSampleNum = o.frameSampleNum) : Stuck codec m := by
  unfold Stuck frameAtHand curFrameSize at stuck ⊢
  rw [input, num]
  exact stuck

/-- With its frame at hand a call leaves the encoder touched, whatever happens. -/
lemma encodeFrame_touched {buffer : Bytes} (held : ∃ frame, o.input = some frame) :
    Touched codec
      (o.encodeFrame { e with packet := codec o.frameAtHand.samples } buffer).1 := by
  obtain ⟨zero, after⟩ | ⟨-, ⟨refused, after⟩ | ⟨packet, -, ⟨-, after⟩ | ⟨-, after⟩⟩⟩ :=
    encodeFrame_cases { e with packet := codec o.frameAtHand.samples } o buffer
  · rw [after]
    exact .inr ⟨held, .inl zero⟩
  · rw [after]
    exact .inr ⟨held, .inr refused⟩
  · rw [after]
    exact .inl (Nat.succ_ne_zero _)
  · rw [after]
    exact .inl (Nat.succ_ne_zero _)

lemma encodeBy_touched_of_hand {read : ℕ} (some_ : o.atHand e inputData = some (m, read)) :
    Touched codec (o.encodeBy codec (e, inputData)) := by
  obtain ⟨buffer, encodes⟩ := encodeBy_some codec some_
  rw [encodes]
  exact encodeFrame_touched (atHand_input some_).1

/-- A later call does not make up for it. -/
lemma encodeBy_touched (touched : Touched codec o) (e : OggOutcome) (inputData : Bytes) :
    Touched codec (o.encodeBy codec (e, inputData)) := by
  cases hand : o.atHand e inputData with
  | some hand_ => exact encodeBy_touched_of_hand hand
  | none =>
    obtain ⟨input, -, num⟩ := openBuffer_kept e o inputData
    obtain ⟨counts, -⟩ := openBuffer_counts e o inputData
    rw [encodeBy_none hand]
    rcases touched with encoded | stuck
    · exact .inl (counts.encGranulepos.trans_ne encoded)
    · exact .inr (stuck.congr input num)

lemma sessionStep_touched (touched : Touched codec o) (call : SessionCall) :
    Touched codec (sessionStep codec o call) := by
  cases call with
  | oggopusEncode e inputData => exact encodeBy_touched touched e inputData
  | oggopusFinish e e' => exact encodeBy_touched (encodeBy_touched touched e []) e' []
  | oggopusSoftRestart => exact touched

/-- Nothing has been read: the encoder is a new one apart from its stream. -/
def Untouched (sampleRate lookahead : ℕ) (o : OggOpusDataEncoder) : Prop :=
  ∃ endOfStream packets, o = { create sampleRate lookahead with
    endOfStream := endOfStream
    packets := packets }

/-- The buffer of a first call is read unless the headers are not written. -/
lemma atHand_none_iff (first : o.isFirstFrameProcessed = false) :
    o.atHand e inputData = none ↔
      inputData.length = o.frameSampleBytes ∧ (e.headWritten = false ∨ e.tagsWritten = false) := by
  have closed : ¬(o.isFirstFrameProcessed ∧ 0 < inputData.length) := by simp [first]
  unfold atHand openBuffer
  rw [if_neg closed]
  by_cases full : inputData.length = o.frameSampleBytes
  · rw [if_pos full]
    unfold firstFrame
    cases head : e.headWritten with
    | false => simp [full]
    | true =>
      cases tags : e.tagsWritten with
      | false => simp [full]
      | true => simp
  · rw [if_neg full]
    simp [full]

variable {sampleRate lookahead : ℕ}

lemma create_untouched (lookahead : ℕ) : Untouched sampleRate lookahead (create sampleRate lookahead) :=
  ⟨false, [], rfl⟩

lemma encodeBy_untouched (untouched : Untouched sampleRate lookahead o)
    (none_ : o.atHand e inputData = none) :
    Untouched sampleRate lookahead (o.encodeBy codec (e, inputData)) := by
  obtain ⟨endOfStream, packets, rfl⟩ := untouched
  obtain ⟨full, failed⟩ := (atHand_none_iff rfl).mp none_
  rw [encodeBy_none none_]
  unfold openBuffer
  rw [if_neg (by simp [create]), if_pos full]
  unfold firstFrame
  dsimp only
  split
  · exact ⟨_, _, rfl⟩
  · rename_i head
    split
    · exact ⟨_, _, rfl⟩
    · rename_i tags
      rcases failed with failed | failed
      · simp [failed] at head
      · simp [failed] at tags

variable (codec) in
/-- A call stops at the headers, or leaves its mark. -/
lemma sessionStep_untouched (positive : 0 < sampleRate / 10)
    (untouched : Untouched sampleRate lookahead o) (call : SessionCall) :
    StopsAtHeaders sampleRate call ∧
        Untouched sampleRate lookahead (sessionStep codec o call) ∨
      Touched codec (sessionStep codec o call) := by
  obtain ⟨first, full⟩ : o.isFirstFrameProcessed = false ∧
      o.frameSampleBytes = sampleRate / 10 * 2 := by
    obtain ⟨endOfStream, packets, rfl⟩ := untouched
    exact ⟨rfl, rfl⟩
  cases call with
  | oggopusEncode e inputData =>
    cases hand : o.atHand e inputData with
    | some hand_ => exact .inr (encodeBy_touched_of_hand hand)
    | none =>
      have stops := (atHand_none_iff first).mp hand
      rw [full] at stops
      exact .inl ⟨stops, encodeBy_untouched untouched hand⟩
  | oggopusFinish e e' =>
    cases hand : o.atHand e [] with
    | some hand_ => exact .inr (encodeBy_touched (encodeBy_touched_of_hand hand) e' [])
    | none =>
      have stops := ((atHand_none_iff first).mp hand).1
      rw [full, List.length_nil] at stops
      omega
  | oggopusSoftRestart =>
    obtain ⟨endOfStream, packets, rfl⟩ := untouched
    exact .inl ⟨trivial, endOfStream, [], rfl⟩

/-- Calls that stop at the headers leave the encoder untouched. -/
lemma sessionStep_of_stops (untouched : Untouched sampleRate lookahead o) {call : SessionCall}
    (stops : StopsAtHeaders sampleRate call) :
    Untouched sampleRate lookahead (sessionStep codec o call) := by
  cases call with
  | oggopusEncode e inputData =>
    refine encodeBy_untouched untouched ?_
    obtain ⟨endOfStream, packets, rfl⟩ := untouched
    exact (atHand_none_iff rfl).mpr stops
  | oggopusFinish e e' => exact absurd stops not_false
  | oggopusSoftRestart =>
    obtain ⟨endOfStream, packets, rfl⟩ := untouched
    exact ⟨endOfStream, [], rfl⟩

lemma history_untouched {history : List SessionCall}
    (untouched : Untouched sampleRate lookahead o)
    (stops : ∀ call ∈ history, StopsAtHeaders sampleRate call) :
    Untouched sampleRate lookahead (run (sessionStep codec) o history) := by
  induction history generalizing o with
  | nil => exact untouched
  | cons call history ih =>
    have now := stops call (List.mem_cons_self ..)
    exact ih (sessionStep_of_stops untouched now) fun other is =>
      stops other (List.mem_cons_of_mem call is)

variable (codec) in
/-- A history in which some call read its buffer has left its mark. -/
lemma history_touched (history : List SessionCall) (positive : 0 < sampleRate / 10)
    (untouched : Untouched sampleRate lookahead o) :
    (∀ call ∈ history, StopsAtHeaders sampleRate call) ∨
      Touched codec (run (sessionStep codec) o history) := by
  induction history generalizing o with
  | nil => exact .inl fun call is => by cases is
  | cons call history ih =>
    rcases sessionStep_untouched codec positive untouched call with
      ⟨stops, untouched⟩ | touched
    · rcases ih untouched with rest | touched
      · exact .inl (List.forall_mem_cons.mpr ⟨stops, rest⟩)
      · exact .inr touched
    · exact .inr (invariant_run (I := Touched codec)
        (fun _ call touched => sessionStep_touched touched call) touched history)

/-! ## The next session -/

/-- What a call does depends on the buffer it opens. -/
lemma encodeBy_congr {call : OggOutcome × Bytes}
    (same : ∀ e, o.openBuffer e call.2 = m.openBuffer e call.2) :
    o.encodeBy codec call = m.encodeBy codec call := by
  unfold encodeBy answer atHand oggopusEncode
  rw [same, same]

/-- The first call sets the end of the stream by itself. -/
lemma openBuffer_endOfStream (first : o.isFirstFrameProcessed = false) (endOfStream : Bool) :
    openBuffer e { o with endOfStream := endOfStream } inputData = o.openBuffer e inputData := by
  have closed : ¬(o.isFirstFrameProcessed ∧ 0 < inputData.length) := by simp [first]
  unfold openBuffer
  rw [if_neg closed, if_neg closed]
  rfl

/-- An untouched encoder behind a restart does what a new one does. -/
lemma encodeBy_restarted (untouched : Untouched sampleRate lookahead o)
    (call : OggOutcome × Bytes) :
    o.oggopusSoftRestart.encodeBy codec call =
      (create sampleRate lookahead).encodeBy codec call := by
  obtain ⟨endOfStream, packets, rfl⟩ := untouched
  exact encodeBy_congr fun e =>
    openBuffer_endOfStream (o := create sampleRate lookahead) rfl endOfStream

lemma structure_restarted (untouched : Untouched sampleRate lookahead o)
    (calls : List (OggOutcome × Bytes)) :
    (run (encodeBy codec) o.oggopusSoftRestart calls).oggStructure =
      (run (encodeBy codec) (create sampleRate lookahead) calls).oggStructure := by
  cases calls with
  | nil =>
    obtain ⟨endOfStream, packets, rfl⟩ := untouched
    rfl
  | cons call calls => rw [run_cons, run_cons, encodeBy_restarted untouched]

def headers : List OggPacket :=
  [{ body := .opusHead, beginOfStream := true, packetno := 0 },
    { body := .opusTags, packetno := 1 }]

/-- The encoder once the headers are written. -/
def behindHeaders (o : OggOpusDataEncoder) : OggOpusDataEncoder :=
  { o with
    endOfStream := false
    packets := headers
    isFirstFrameProcessed := true }

lemma openBuffer_headers (first : o.isFirstFrameProcessed = false)
    (full : inputData.length = o.frameSampleBytes) (reset : o.packets = []) :
    o.openBuffer {} inputData =
      (o.behindHeaders, .ok (List.replicate inputData.length 0 ++ inputData)) := by
  unfold openBuffer
  rw [if_neg (by simp [first]), if_pos full]
  unfold firstFrame
  rw [reset]
  rfl

/-- The first call of a session has a frame at hand behind the headers. -/
lemma atHand_headers (first : o.isFirstFrameProcessed = false)
    (full : inputData.length = o.frameSampleBytes) (reset : o.packets = []) :
    ∃ m read, o.atHand {} inputData = some (m, read) ∧ m.packets = headers ∧
      m.endOfStream = false ∧
      m = (fetch {} { o.behindHeaders with frameCount := o.frameCount + 1 }
        (List.replicate inputData.length 0 ++ inputData)).1 := by
  unfold atHand
  rw [openBuffer_headers first full reset]
  obtain ⟨packets, ends⟩ := fetch_stream {} { o.behindHeaders with frameCount := o.frameCount + 1 }
    (List.replicate inputData.length 0 ++ inputData)
  exact ⟨_, _, rfl, packets, ends, rfl⟩

lemma starts_iff : o.oggStructure.Starts ↔
    ∃ packet ∈ o.packets, packet.granulepos = frameSampleNum16k * 3 := by
  simp only [OggStructure.Starts, oggStructure, List.mem_map, exists_exists_and_eq_and,
    OggPacket.outline]

lemma headers_not_start : ¬∃ packet ∈ headers, packet.granulepos = frameSampleNum16k * 3 := by
  decide

/-- A session on a touched encoder has no packet there. -/
lemma touched_not_starts (first : o.isFirstFrameProcessed = false)
    (full : inputData.length = o.frameSampleBytes) (reset : o.packets = [])
    (touched : Touched codec o) : ¬(o.encodeBy codec ({}, inputData)).oggStructure.Starts := by
  obtain ⟨m, read, hand, packets, ends, -⟩ := atHand_headers first full reset
  obtain ⟨counts, -, -, -⟩ := atHand_some hand
  obtain ⟨buffer, encodes⟩ := encodeBy_some codec hand
  rw [starts_iff, encodes]
  obtain ⟨-, after⟩ | ⟨sized, ⟨-, after⟩ | ⟨packet, made, ⟨-, after⟩ | ⟨-, after⟩⟩⟩ :=
    encodeFrame_cases { packet := codec m.frameAtHand.samples } m buffer
  · rw [after, packets]
    exact headers_not_start
  · rw [after]
    exact packets ▸ headers_not_start
  · rw [after]
    exact packets ▸ headers_not_start
  · rw [after]
    rintro ⟨there, is, start⟩
    dsimp only at is
    rw [packets] at is
    rcases List.mem_append.mp is with old | new
    · exact headers_not_start ⟨there, old, start⟩
    simp only [List.mem_singleton.mp new, audioPacket, ends, Bool.false_eq_true, if_false,
      counts.encGranulepos] at start
    rcases touched with encoded | ⟨⟨frame, held⟩, stuck⟩
    · exact encoded (by omega)
    · have kept : m.input = o.input := ((atHand_input hand).2 frame held).trans held.symm
      have refused : Stuck codec m := Stuck.congr ⟨⟨frame, held⟩, stuck⟩ kept counts.frameSampleNum
      rcases refused.2 with zero | refused
      · exact sized zero
      · rw [refused] at made
        cases made

/-- A buffer with all samples of a frame is read without padding. -/
lemma readPadder_full {buffer : Bytes} (positive : 0 < o.frameSampleNum)
    (whole : (samplesOf (buffer.take (o.frameSampleNum * 2))).length = o.frameSampleNum) :
    (o.readPadder e buffer).1.input =
      some { read := samplesOf (buffer.take (o.frameSampleNum * 2)) } := by
  unfold readPadder
  rw [readBuffer_eq]
  dsimp only
  rw [if_neg, if_neg (by omega)]
  intro empty
  rw [empty, List.length_nil] at whole
  omega

lemma frameAtHand_full_silence (num : o.input =
    some { read := List.replicate o.frameSampleNum 0 }) :
    o.frameAtHand.samples = List.replicate o.frameSampleNum 0 := by
  simp [frameAtHand, num, OpusFrame.samples, curFrameSize]

variable (lookahead) in
/-- A session on a new encoder has one, if the codec encodes silence. -/
lemma create_starts (positive : 0 < sampleRate / 10)
    (silent : codec (List.replicate (sampleRate / 10) 0) ≠ none)
    (full : inputData.length = sampleRate / 10 * 2) :
    ((create sampleRate lookahead).encodeBy codec ({}, inputData)).oggStructure.Starts := by
  obtain ⟨m, read, hand, packets, ends, is⟩ :=
    atHand_headers (o := create sampleRate lookahead) rfl full rfl
  have zeros : samplesOf ((List.replicate inputData.length 0 ++ inputData).take
      (sampleRate / 10 * 2)) = List.replicate (sampleRate / 10) 0 := by
    rw [List.take_left' (by rw [List.length_replicate, full]), full, samplesOf_zeros]
  obtain ⟨counts, -, -, -⟩ := atHand_some hand
  have num : m.frameSampleNum = sampleRate / 10 := counts.frameSampleNum
  have input : m.input = some { read := List.replicate m.frameSampleNum 0 } := by
    rw [num, is, fetch_of_none _ _ _ rfl, ← zeros]
    exact readPadder_full positive ((congrArg List.length zeros).trans List.length_replicate)
  have samples := frameAtHand_full_silence input
  obtain ⟨buffer, encodes⟩ := encodeBy_some codec hand
  obtain ⟨packet, made⟩ := Option.ne_none_iff_exists'.mp silent
  rw [starts_iff, encodes]
  have sized : 0 < m.curFrameSize (m.input.getD {}).samples.length := by
    apply curFrameSize_pos
    · rw [input]
      simpa [OpusFrame.samples, num] using positive
    · rw [num]
      exact positive
  obtain ⟨zero, -⟩ | ⟨-, ⟨refused, -⟩ | ⟨packet, -, ⟨failed, -⟩ | ⟨-, after⟩⟩⟩ :=
    encodeFrame_cases { packet := codec m.frameAtHand.samples } m buffer
  · omega
  · rw [samples, num, made] at refused
    cases refused
  · cases failed
  · refine ⟨m.audioPacket packet, ?_, ?_⟩
    · rw [after]
      exact List.mem_append_right _ (List.mem_singleton_self _)
    · simp only [audioPacket, ends, Bool.false_eq_true, if_false, counts.encGranulepos]
      rfl

/-! ## Sizes -/

lemma openBuffer_bytes (e : OggOutcome) (o : OggOpusDataEncoder) (inputData : Bytes) :
    (o.openBuffer e inputData).1.frameSampleBytes = o.frameSampleBytes := by
  unfold openBuffer
  split
  · rfl
  split
  · unfold firstFrame
    dsimp only
    split
    · rfl
    split
    · rfl
    · rfl
  · rfl

lemma fetch_bytes (e : OggOutcome) (o : OggOpusDataEncoder) (buffer : Bytes) :
    (fetch e o buffer).1.frameSampleBytes = o.frameSampleBytes := by
  cases held : o.input with
  | some frame => rw [fetch_of_some e o buffer held]
  | none =>
    obtain ⟨frame, -, -, -, same⟩ := readPadder_read e o buffer
    rw [fetch_of_none e o buffer held]
    exact same.frameSampleBytes

/-- No call changes the length of a first buffer. -/
lemma encodeBy_bytes (o : OggOpusDataEncoder) (e : OggOutcome) (inputData : Bytes) :
    (o.encodeBy codec (e, inputData)).frameSampleBytes = o.frameSampleBytes := by
  have bytes := openBuffer_bytes e o inputData
  cases hand : o.atHand e inputData with
  | none =>
    rw [encodeBy_none hand]
    exact bytes
  | some hand_ =>
    obtain ⟨opened, buffer, opens, is⟩ := atHand_fetched hand
    rw [opens] at bytes
    have fetched := fetch_bytes e { opened with frameCount := opened.frameCount + 1 } buffer
    obtain ⟨left, encodes⟩ := encodeBy_some codec hand
    rw [encodes, ← bytes, ← fetched, ← is]
    obtain ⟨-, after⟩ | ⟨-, ⟨-, after⟩ | ⟨packet, -, ⟨-, after⟩ | ⟨-, after⟩⟩⟩ :=
      encodeFrame_cases { e with packet := codec hand_.1.frameAtHand.samples } hand_.1 left
    · rw [after]
    · rw [after]
    · rw [after]
    · rw [after]

lemma sessionStep_bytes (o : OggOpusDataEncoder) (call : SessionCall) :
    (sessionStep codec o call).frameSampleBytes = o.frameSampleBytes := by
  cases call with
  | oggopusEncode e inputData => exact encodeBy_bytes o e inputData
  | oggopusFinish e e' =>
    exact (encodeBy_bytes (o.encodeBy codec (e, [])) e' []).trans (encodeBy_bytes o e [])
  | oggopusSoftRestart => rfl

variable (codec) in
lemma history_bytes (o : OggOpusDataEncoder) (history : List SessionCall) :
    (run (sessionStep codec) o history).frameSampleBytes = o.frameSampleBytes :=
  invariant_run (I := fun m => m.frameSampleBytes = o.frameSampleBytes)
    (fun m call kept => (sessionStep_bytes m call).trans kept) rfl history

/-! ## Independence -/

lemma opusRates_frame (supported : sampleRate ∈ opusRates) : 0 < sampleRate / 10 := by
  simp only [opusRates, List.mem_cons, List.not_mem_nil, or_false] at supported
  omega

/-- If a call has read its buffer the next session starts elsewhere. -/
lemma stops_of_restartsFresh (supported : sampleRate ∈ opusRates)
    (silent : codec (List.replicate (sampleRate / 10) 0) ≠ none) {history : List SessionCall}
    (fresh : RestartsFresh codec sampleRate lookahead history) :
    ∀ call ∈ history, StopsAtHeaders sampleRate call := by
  have positive := opusRates_frame supported
  have full : (List.replicate (sampleRate / 10 * 2) (0 : UInt8)).length = sampleRate / 10 * 2 :=
    List.length_replicate
  rcases history_touched codec history positive (create_untouched lookahead) with stops | touched
  · exact stops
  have bytes := history_bytes codec (create sampleRate lookahead) history
  have same := fresh [({}, List.replicate (sampleRate / 10 * 2) 0)]
  have starts := create_starts lookahead positive silent full
  exact absurd (same ▸ starts) (touched_not_starts 
    (o := (run (sessionStep codec) (create sampleRate lookahead) history).oggopusSoftRestart)
    rfl (full.trans bytes.symm) rfl touched)

/-- Whatever the calls of earlier sessions, behind a restart each sequence of buffers has the
packets, sizes, granule positions, padding and end of a new encoder exactly when no call read its
buffer: each one failed at the headers. -/
theorem restartsFresh_iff (supported : sampleRate ∈ opusRates)
    (silent : codec (List.replicate (sampleRate / 10) 0) ≠ none) (history : List SessionCall) :
    RestartsFresh codec sampleRate lookahead history ↔
      ∀ call ∈ history, StopsAtHeaders sampleRate call :=
  ⟨fun fresh => stops_of_restartsFresh supported silent fresh,
    fun stops calls => structure_restarted (history_untouched (create_untouched lookahead) stops) calls⟩

/-- Behind a failure of the first header page. -/
theorem restartsFresh_iff_failed_head :
    RestartsFresh (fun _ => some [0, 0, 0]) 16000 104
      [.oggopusEncode { headWritten := false } (List.replicate 3200 0), .oggopusSoftRestart] := by
  refine (restartsFresh_iff (by decide) (by simp) _).mpr fun call is => ?_
  rcases List.mem_cons.mp is with rfl | is
  · exact ⟨List.length_replicate, .inl rfl⟩
  · rw [List.mem_singleton.mp is]
    trivial

/-- Behind one frame the granule positions start at 9600. -/
theorem session_goes_on :
    ¬RestartsFresh (fun _ => some [0, 0, 0]) 16000 104
      [.oggopusEncode {} (List.replicate 3200 0), .oggopusSoftRestart] := by
  intro fresh
  obtain ⟨-, head | tags⟩ :=
    stops_of_restartsFresh (by decide) (by simp) fresh _ (List.mem_cons_self ..)
  · exact absurd head (by decide)
  · exact absurd tags (by decide)

end OggOpusDataEncoder

end NlsSdk.Encoder
