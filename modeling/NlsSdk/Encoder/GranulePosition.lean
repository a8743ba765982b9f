import NlsSdk.Encoder.OggOpusBuffers

/-!
# The granule positions of the pages

Each audio packet is flushed to a page of its own, since a packet moves the
counter on by more than `max_ogg_delay`. Beside the encoder stands what the
packets of the stream contain and what was read for them.
-/
namespace NlsSdk.Encoder

open NlsSdk.Library NlsSdk.Transport

namespace OggOpusDataEncoder

def isAudio (packet : OggPacket) : Bool :=
  match packet.body with
  | .audio _ => true
  | _ => false

def audioPackets (o : OggOpusDataEncoder) : List OggPacket := o.packets.filter isAudio

/-- The samples `fetch` reads. -/
def fetched (o : OggOpusDataEncoder) (buffer : Bytes) : ℕ :=
  match o.input with
  | some _ => 0
  | none => (samplesOf (buffer.take (o.frameSampleNum * 2))).length

/-- The encoder with a frame at hand, and how many samples were read for it. -/
def atHand (e : OggOutcome) (o : OggOpusDataEncoder) (inputData : Bytes) :
    Option (OggOpusDataEncoder × ℕ) :=
  match o.openBuffer e inputData with
  | (_, .error _) => none
  | (opened, .ok buffer) =>
    some ((fetch e { opened with frameCount := opened.frameCount + 1 } buffer).1,
      opened.fetched buffer)

end OggOpusDataEncoder

/-- A page with audio: its granule position, the samples of 48 kHz in the packets up to it, and the
samples read up to it. -/
structure AudioPage where
  granulepos : ℕ
  contained : ℕ
  heard : ℕ
  endOfStream : Bool
  deriving DecidableEq, Repr

structure Paged where
  encoder : OggOpusDataEncoder
  contained : ℕ := 0
  heard : ℕ := 0
  pages : List AudioPage := []

namespace Paged

open OggOpusDataEncoder

inductive Action
  | oggopusEncode (e : OggOutcome) (inputData : Bytes)
  | oggopusSoftRestart

/-- A page is added for a packet that was not there before; it holds the frame encoded last. -/
def step (s : Paged) : Action → Paged
  | .oggopusEncode e inputData =>
    let after := (s.encoder.oggopusEncode e inputData).1
    let heard := s.heard + ((s.encoder.atHand e inputData).map (·.2)).getD 0
    match after.audioPackets.drop s.encoder.audioPackets.length with
    | [] => { s with encoder := after, heard := heard }
    | packet :: _ =>
      let contained := s.contained +
        ((after.frames.getLast?).map (·.samples.length)).getD 0 * (48000 / after.sampleRate)
      { encoder := after
        contained := contained
        heard := heard
        pages := s.pages ++ [⟨packet.granulepos, contained, heard, packet.endOfStream⟩] }
  | .oggopusSoftRestart => { encoder := s.encoder.oggopusSoftRestart }

def start (sampleRate lookahead : ℕ) : Paged where
  encoder := create sampleRate lookahead

/-- A page counts what its packet and those before it contain, and one that ends the stream the
audio and the pre-skip; the positions do not fall. -/
structure Right (s : Paged) : Prop where
  completed : ∀ page ∈ s.pages, page.endOfStream = false → page.granulepos = page.contained
  final : ∀ page ∈ s.pages, page.endOfStream = true → page.granulepos =
    (page.heard * 48000 + s.encoder.sampleRate - 1) / s.encoder.sampleRate + s.encoder.lookahead * 3
  monotone : s.pages.Pairwise fun page later => page.granulepos ≤ later.granulepos

/-- What is asked of a call that makes a packet: the pages in front of it are taken, and its frame
lacks less than 320 samples and follows no page that ended the stream. A packet that ends the
stream only has to be behind the others. The stream starts anew only before anything is read. -/
def Whole (s : Paged) : Action → Prop
  | .oggopusEncode e inputData => ∀ m read, s.encoder.atHand e inputData = some (m, read) →
    m.curFrameSize (m.input.getD {}).samples.length ≠ 0 → e.packet ≠ none →
      e.flushed = true ∧
      if m.endOfStream then
        ∀ page ∈ s.pages, page.granulepos ≤
          ((s.heard + read) * 48000 + m.sampleRate - 1) / m.sampleRate + m.lookahead * 3
      else m.frameSampleNum < (m.input.getD {}).samples.length + 320 ∧
        ∀ page ∈ s.pages, page.endOfStream = false
  | .oggopusSoftRestart => s.encoder.encGranulepos = 0 ∧ s.heard = 0

end Paged

namespace OggOpusDataEncoder

variable {o m : OggOpusDataEncoder} {e : OggOutcome} {inputData buffer : Bytes} {read : ℕ}

/-! ## One call -/

/-- What opening a buffer and reading a frame leave as it is. -/
structure SameCounts (o m : OggOpusDataEncoder) : Prop where
  sampleRate : m.sampleRate = o.sampleRate
  frameSampleNum : m.frameSampleNum = o.frameSampleNum
  lookahead : m.lookahead = o.lookahead
  encGranulepos : m.encGranulepos = o.encGranulepos
  audioPackets : m.audioPackets = o.audioPackets

lemma SameCounts.trans {n : OggOpusDataEncoder} (first : SameCounts o m) (second : SameCounts m n) :
    SameCounts o n :=
  ⟨second.1.trans first.1, second.2.trans first.2, second.3.trans first.3,
    second.4.trans first.4, second.5.trans first.5⟩

lemma audioPackets_append (packets : List OggPacket) :
    audioPackets { o with packets := o.packets ++ packets } =
      o.audioPackets ++ packets.filter isAudio := by
  rw [audioPackets, List.filter_append]
  rfl

lemma openBuffer_counts (e : OggOutcome) (o : OggOpusDataEncoder) (inputData : Bytes) :
    SameCounts o (o.openBuffer e inputData).1 ∧
      (o.openBuffer e inputData).1.originalSampleNumber = o.originalSampleNumber := by
  unfold openBuffer
  split
  · exact ⟨⟨rfl, rfl, rfl, rfl, rfl⟩, rfl⟩
  split
  · unfold firstFrame
    dsimp only
    split
    · exact ⟨⟨rfl, rfl, rfl, rfl, (audioPackets_append _).trans (List.append_nil _)⟩, rfl⟩
    have both : audioPackets { o with
        packets := o.packets ++ [{ body := .opusHead, beginOfStream := true, packetno := 0 }] ++
          [{ body := .opusTags, packetno := 1 }] } = o.audioPackets := by
      rw [List.append_assoc]
      exact (audioPackets_append _).trans (List.append_nil _)
    split
    · exact ⟨⟨rfl, rfl, rfl, rfl, both⟩, rfl⟩
    · exact ⟨⟨rfl, rfl, rfl, rfl, both⟩, rfl⟩
  · exact ⟨⟨rfl, rfl, rfl, rfl, rfl⟩, rfl⟩

lemma readPadder_counts (e : OggOutcome) (o : OggOpusDataEncoder) (buffer : Bytes) :
    SameCounts o (o.readPadder e buffer).1 ∧
      (o.readPadder e buffer).1.originalSampleNumber =
        o.originalSampleNumber + (samplesOf (buffer.take (o.frameSampleNum * 2))).length := by
  unfold readPadder
  rw [readBuffer_eq]
  dsimp only
  split
  · rename_i empty
    rw [empty]
    exact ⟨⟨rfl, rfl, rfl, rfl, rfl⟩, rfl⟩
  split
  · exact ⟨⟨rfl, rfl, rfl, rfl, rfl⟩, rfl⟩
  · exact ⟨⟨rfl, rfl, rfl, rfl, rfl⟩, rfl⟩

lemma fetch_counts (e : OggOutcome) (o : OggOpusDataEncoder) (buffer : Bytes) :
    SameCounts o (fetch e o buffer).1 ∧
      (fetch e o buffer).1.originalSampleNumber = o.originalSampleNumber + o.fetched buffer := by
  unfold fetched
  cases held : o.input with
  | some frame =>
    rw [fetch_of_some e o buffer held]
    exact ⟨⟨rfl, rfl, rfl, rfl, rfl⟩, rfl⟩
  | none =>
    rw [fetch_of_none e o buffer held]
    exact readPadder_counts e o buffer

lemma openBuffer_within (within : o.Within) (e : OggOutcome) (inputData : Bytes) :
    (o.openBuffer e inputData).1.Within := by
  obtain ⟨input, frames, num⟩ := openBuffer_kept e o inputData
  exact ⟨by rw [input, num]; exact within.input, by rw [frames, num]; exact within.frames⟩

/-- A call that fails at the headers gives the stream no audio. -/
lemma atHand_none (none_ : o.atHand e inputData = none) :
    SameCounts o (o.oggopusEncode e inputData).1 ∧
      (o.oggopusEncode e inputData).1.originalSampleNumber = o.originalSampleNumber ∧
      (o.Within → (o.oggopusEncode e inputData).1.Within) := by
  have counts := openBuffer_counts e o inputData
  have within := fun given : o.Within => openBuffer_within given e inputData
  unfold atHand at none_
  cases opens : o.openBuffer e inputData with
  | mk opened result =>
    rw [opens] at none_ counts within
    cases result with
    | ok buffer => cases none_
    | error code =>
      rw [oggopusEncode_refused opens]
      exact ⟨counts.1, counts.2, within⟩

/-- Any other call goes on with the frame at hand. -/
lemma atHand_some (some_ : o.atHand e inputData = some (m, read)) :
    SameCounts o m ∧ m.originalSampleNumber = o.originalSampleNumber + read ∧
      (o.Within → m.Within) ∧
      ∃ buffer, (o.oggopusEncode e inputData).1 = (m.encodeFrame e buffer).1 := by
  have counts := openBuffer_counts e o inputData
  have within := fun given : o.Within => openBuffer_within given e inputData
  unfold atHand at some_
  cases opens : o.openBuffer e inputData with
  | mk opened result =>
    rw [opens] at some_ counts within
    cases result with
    | error code => cases some_
    | ok buffer =>
      obtain ⟨rfl, rfl⟩ := Prod.mk.inj (Option.some.inj some_)
      obtain ⟨same, read⟩ := fetch_counts e { opened with frameCount := opened.frameCount + 1 } buffer
      refine ⟨counts.1.trans ⟨same.1, same.2, same.3, same.4, same.5⟩, ?_, fun given => ?_, ?_⟩
      · exact read.trans (congrArg (· + opened.fetched buffer) counts.2)
      · have counted : Within { opened with frameCount := opened.frameCount + 1 } :=
          ⟨(within given).input, (within given).frames⟩
        exact fetch_within counted e buffer
      · exact ⟨_, congrArg Prod.fst (oggopusEncode_opened opens)⟩

/-- A frame that lacks less than 320 samples is filled up. -/
lemma frameAtHand_full (within : o.Within)
    (near : o.frameSampleNum < (o.input.getD {}).samples.length + 320) :
    o.frameAtHand.samples.length = o.frameSampleNum := by
  have read := samples_within within
  rw [frameAtHand_length]
  unfold curFrameSize
  split
  · rw [Nat.div_eq_of_lt (by omega)]
    omega
  · omega

/-- At every rate of Opus a frame has 4800 samples of 48 kHz. -/
lemma frame_48k {sampleRate : ℕ} (supported : sampleRate ∈ opusRates) :
    sampleRate / 10 * (48000 / sampleRate) = frameSampleNum16k * 3 := by
  simp only [opusRates, List.mem_cons, List.not_mem_nil, or_false] at supported
  rcases supported with rfl | rfl | rfl | rfl | rfl
  · rfl
  · rfl
  · rfl
  · rfl
  · rfl

end OggOpusDataEncoder

namespace Paged

open OggOpusDataEncoder

/-! ## Runs -/

/-- What holds beside the pages themselves: the counter is that of the stream until it ends. -/
structure Counted (s : Paged) : Prop where
  supported : s.encoder.sampleRate ∈ opusRates
  frame : s.encoder.frameSampleNum = s.encoder.sampleRate / 10
  within : s.encoder.Within
  heard : s.encoder.originalSampleNumber = s.heard
  counter : (∀ page ∈ s.pages, page.endOfStream = false) →
    s.encoder.encGranulepos = s.contained ∧
      ∀ page ∈ s.pages, page.granulepos ≤ s.encoder.encGranulepos
  right : s.Right

variable {s : Paged} {e : OggOutcome} {inputData : Bytes}

/-- A call without a packet keeps the pages. -/
lemma counted_of_same (counted : s.Counted) {after : OggOpusDataEncoder} {heard : ℕ}
    (same : SameCounts s.encoder after) (within : after.Within)
    (read : after.originalSampleNumber = heard) :
    Counted { s with encoder := after, heard := heard } where
  supported := by
    rw [same.sampleRate]
    exact counted.supported
  frame := by
    rw [same.frameSampleNum, same.sampleRate]
    exact counted.frame
  within := within
  heard := read
  counter live := by
    rw [same.encGranulepos]
    exact counted.counter live
  right := by
    refine ⟨counted.right.completed, ?_, counted.right.monotone⟩
    rw [same.sampleRate, same.lookahead]
    exact counted.right.final

/-- A call with no new packet. -/
lemma step_same (none_ : (s.encoder.oggopusEncode e inputData).1.audioPackets =
      s.encoder.audioPackets) :
    s.step (.oggopusEncode e inputData) = { s with
      encoder := (s.encoder.oggopusEncode e inputData).1
      heard := s.heard + ((s.encoder.atHand e inputData).map (·.2)).getD 0 } := by
  unfold step
  dsimp only
  rw [none_, List.drop_length]

/-- A call with one. -/
lemma step_packet {packet : OggPacket} {frame : OpusFrame} {frames : List OpusFrame}
    (new : (s.encoder.oggopusEncode e inputData).1.audioPackets =
      s.encoder.audioPackets ++ [packet])
    (last : (s.encoder.oggopusEncode e inputData).1.frames = frames ++ [frame]) :
    s.step (.oggopusEncode e inputData) =
      let heard := s.heard + ((s.encoder.atHand e inputData).map (·.2)).getD 0
      let contained := s.contained + frame.samples.length *
        (48000 / (s.encoder.oggopusEncode e inputData).1.sampleRate)
      { encoder := (s.encoder.oggopusEncode e inputData).1
        contained := contained
        heard := heard
        pages := s.pages ++ [⟨packet.granulepos, contained, heard, packet.endOfStream⟩] } := by
  unfold step
  dsimp only
  rw [new, List.drop_left, last, List.getLast?_concat]
  rfl

/-- The page of a packet in front of the end of the stream: its frame was filled up, so that the
counter moves on by what the packet contains. -/
lemma counted_live (counted : s.Counted) {m after : OggOpusDataEncoder} {read : ℕ}
    (same : SameCounts s.encoder m) (full : m.Within) (within : after.Within)
    (heard : after.originalSampleNumber = s.heard + read)
    (counts : after.sampleRate = m.sampleRate ∧ after.frameSampleNum = m.frameSampleNum ∧
      after.lookahead = m.lookahead ∧
      after.encGranulepos = m.encGranulepos + frameSampleNum16k * 3)
    (near : m.frameSampleNum < (m.input.getD {}).samples.length + 320)
    (open_ : ∀ page ∈ s.pages, page.endOfStream = false) :
    Counted {
      encoder := after
      contained := s.contained + m.frameAtHand.samples.length * (48000 / m.sampleRate)
      heard := s.heard + read
      pages := s.pages ++ [⟨m.encGranulepos + frameSampleNum16k * 3,
        s.contained + m.frameAtHand.samples.length * (48000 / m.sampleRate), s.heard + read,
        false⟩] } := by
  obtain ⟨counter, behind⟩ := counted.counter open_
  have moved : m.encGranulepos + frameSampleNum16k * 3 =
      s.contained + m.frameAtHand.samples.length * (48000 / m.sampleRate) := by
    rw [frameAtHand_full full near, same.frameSampleNum, counted.frame, same.sampleRate,
      frame_48k counted.supported, same.encGranulepos, counter]
  have passed : ∀ page ∈ s.pages, page.granulepos ≤ m.encGranulepos + frameSampleNum16k * 3 := by
    intro page is
    rw [same.encGranulepos]
    exact (behind page is).trans (Nat.le_add_right _ _)
  constructor
  · rw [counts.1, same.sampleRate]
    exact counted.supported
  · rw [counts.2.1, counts.1, same.frameSampleNum, same.sampleRate]
    exact counted.frame
  · exact within
  · exact heard
  · intro _
    rw [counts.2.2.2]
    refine ⟨moved, fun page is => ?_⟩
    rcases List.mem_append.mp is with old | new
    · exact passed page old
    · rw [List.mem_singleton.mp new]
  · constructor
    · intro page is live
      rcases List.mem_append.mp is with old | new
      · exact counted.right.completed page old live
      · rw [List.mem_singleton.mp new]
        exact moved
    · intro page is ends
      rw [counts.1, counts.2.2.1, same.sampleRate, same.lookahead]
      rcases List.mem_append.mp is with old | new
      · exact counted.right.final page old ends
      · rw [List.mem_singleton.mp new] at ends
        cases ends
    · refine List.pairwise_append.mpr ⟨counted.right.monotone, List.pairwise_singleton .., ?_⟩
      intro page is later new
      rw [List.mem_singleton.mp new]
      exact passed page is

/-- The page of a packet that ends the stream counts what was read. -/
lemma counted_final (counted : s.Counted) {m after : OggOpusDataEncoder} {read contained : ℕ}
    (same : SameCounts s.encoder m) (within : after.Within)
    (total : m.originalSampleNumber = s.heard + read)
    (counts : after.sampleRate = m.sampleRate ∧ after.frameSampleNum = m.frameSampleNum ∧
      after.lookahead = m.lookahead ∧ after.originalSampleNumber = m.originalSampleNumber)
    (passed : ∀ page ∈ s.pages, page.granulepos ≤ m.lastGranulepos) :
    Counted {
      encoder := after
      contained := contained
      heard := s.heard + read
      pages := s.pages ++ [⟨m.lastGranulepos, contained, s.heard + read, true⟩] } := by
  have last : (⟨m.lastGranulepos, contained, s.heard + read, true⟩ : AudioPage) ∈
      s.pages ++ [⟨m.lastGranulepos, contained, s.heard + read, true⟩] :=
    List.mem_append_right _ (List.mem_singleton_self _)
  constructor
  · rw [counts.1, same.sampleRate]
    exact counted.supported
  · rw [counts.2.1, counts.1, same.frameSampleNum, same.sampleRate]
    exact counted.frame
  · exact within
  · rw [counts.2.2.2, total]
  · intro live
    exact absurd (live _ last) (by simp)
  · constructor
    · intro page is live
      rcases List.mem_append.mp is with old | new
      · exact counted.right.completed page old live
      · rw [List.mem_singleton.mp new] at live
        cases live
    · intro page is ends
      rw [counts.1, counts.2.2.1]
      rcases List.mem_append.mp is with old | new
      · rw [same.sampleRate, same.lookahead]
        exact counted.right.final page old ends
      · rw [List.mem_singleton.mp new, lastGranulepos, total]
    · refine List.pairwise_append.mpr ⟨counted.right.monotone, List.pairwise_singleton .., ?_⟩
      intro page is later new
      rw [List.mem_singleton.mp new]
      exact passed page is

/-- One call of the encoder. -/
lemma counted_encode (counted : s.Counted) (whole : s.Whole (.oggopusEncode e inputData)) :
    (s.step (.oggopusEncode e inputData)).Counted := by
  cases hand : s.encoder.atHand e inputData with
  | none =>
    obtain ⟨same, read, within⟩ := atHand_none hand
    rw [step_same same.audioPackets, hand]
    exact counted_of_same counted same (within counted.within) (read.trans counted.heard)
  | some hand_ =>
    obtain ⟨m, read⟩ := hand_
    obtain ⟨same, heard, within, buffer, after⟩ := atHand_some hand
    have total : m.originalSampleNumber = s.heard + read := by
      rw [heard, counted.heard]
    rcases encodeFrame_cases e m buffer with ⟨-, is⟩ | ⟨some_, ⟨-, is⟩ |
      ⟨packet, made, ⟨refused, -⟩ | ⟨-, is⟩⟩⟩
    · rw [is] at after
      rw [step_same (by rw [after]; exact same.audioPackets), hand, after]
      exact counted_of_same counted same (within counted.within) total
    · rw [is] at after
      have within' := encodeFrame_within (within counted.within) e buffer
      rw [is] at within'
      rw [step_same (by rw [after]; exact same.audioPackets), hand, after]
      exact counted_of_same counted ⟨same.1, same.2, same.3, same.4, same.5⟩ within' total
    · have taken := (whole m read hand some_ (by rw [made]; simp)).1
      rw [refused] at taken
      cases taken
    · have frame := (whole m read hand some_ (by rw [made]; simp)).2
      have within' := encodeFrame_within (within counted.within) e buffer
      rw [is] at after within'
      have new : (s.encoder.oggopusEncode e inputData).1.audioPackets =
          s.encoder.audioPackets ++ [m.audioPacket packet] := by
        rw [after, ← same.audioPackets]
        exact audioPackets_append _
      have last : (s.encoder.oggopusEncode e inputData).1.frames = m.frames ++ [m.frameAtHand] := by
        rw [after]
      have counts : (s.encoder.oggopusEncode e inputData).1.sampleRate = m.sampleRate ∧
          (s.encoder.oggopusEncode e inputData).1.frameSampleNum = m.frameSampleNum ∧
          (s.encoder.oggopusEncode e inputData).1.lookahead = m.lookahead ∧
          (s.encoder.oggopusEncode e inputData).1.encGranulepos =
            m.encGranulepos + frameSampleNum16k * 3 ∧
          (s.encoder.oggopusEncode e inputData).1.originalSampleNumber =
            m.originalSampleNumber := by
        rw [after]
        exact ⟨rfl, rfl, rfl, rfl, rfl⟩
      rw [← after] at within'
      rw [step_packet new last, hand, counts.1]
      obtain ⟨rate, num, delay, counter, original⟩ := counts
      generalize (s.encoder.oggopusEncode e inputData).1 = result at within' rate num delay counter original ⊢
      dsimp only [Option.map_some, Option.getD_some, audioPacket]
      cases ends : m.endOfStream with
      | true =>
        rw [ends, if_pos rfl, ← total] at frame
        exact counted_final counted same within' total ⟨rate, num, delay, original⟩ frame
      | false =>
        rw [ends, if_neg (by simp)] at frame
        exact counted_live counted same (within counted.within) within' (original.trans total)
          ⟨rate, num, delay, counter⟩ frame.1 frame.2

theorem counted_step (counted : s.Counted) {a : Action} (whole : s.Whole a) :
    (s.step a).Counted := by
  cases a with
  | oggopusEncode e inputData => exact counted_encode counted whole
  | oggopusSoftRestart =>
    obtain ⟨counter, heard⟩ := whole
    exact {
      supported := counted.supported
      frame := counted.frame
      within := ⟨counted.within.input, fun frame is => by cases is⟩
      heard := counted.heard.trans heard
      counter := fun _ => ⟨counter, fun page is => by cases is⟩
      right := ⟨(fun page is => by cases is), (fun page is => by cases is), List.Pairwise.nil⟩ }

lemma counted_start {sampleRate : ℕ} (supported : sampleRate ∈ opusRates) (lookahead : ℕ) :
    (start sampleRate lookahead).Counted where
  supported := supported
  frame := rfl
  within := ⟨(fun frame held => by cases held), fun frame is => by cases is⟩
  heard := rfl
  counter _ := ⟨rfl, fun page is => by cases is⟩
  right := ⟨(fun page is => by cases is), (fun page is => by cases is), List.Pairwise.nil⟩

/-- What the frame at hand is asked of, as a test. -/
lemma whole_of_hand (num nb : ℕ)
    (hand : (s.encoder.atHand e inputData).map (fun p =>
      (p.1.endOfStream, p.1.frameSampleNum, (p.1.input.getD {}).samples.length)) =
        some (false, num, nb))
    (flushed : e.flushed = true) (near : num < nb + 320)
    (live : s.pages.all (fun page => !page.endOfStream) = true) :
    s.Whole (.oggopusEncode e inputData) := by
  intro m read is _ _
  rw [is] at hand
  simp only [Option.map_some, Option.some.injEq, Prod.mk.injEq] at hand
  obtain ⟨ends, rfl, rfl⟩ := hand
  refine ⟨flushed, ?_⟩
  rw [ends, if_neg (by simp)]
  refine ⟨near, fun page there => ?_⟩
  simpa using List.all_eq_true.mp live page there

/-- At 16 kHz, a frame and most of one. -/
def nearlyFull : List Action :=
  [.oggopusEncode {} (List.replicate 3200 1), .oggopusEncode {} (List.replicate 2600 1)]

/-- A frame and 20 ms. -/
def shortFrame : List Action :=
  [.oggopusEncode {} (List.replicate 3200 1), .oggopusEncode {} (List.replicate 640 1)]

end Paged

end NlsSdk.Encoder
