import Mathlib.Data.Rat.Defs
import NlsSdk.Library.Run
import NlsSdk.Transport.Global

/-!
# The Ogg/Opus encoder

`OggopusEncode` turns a buffer of 16-bit samples into one frame for the Opus encoder.
`frames` records the frames passed to it in a session, `packets` what was given to
the Ogg stream; the paging of libogg, whose callback takes every page or fails, is left to the
outcomes of a call.
-/
namespace NlsSdk.Encoder

open NlsSdk.Library NlsSdk.Transport

/-- `FRAME_SAMPLE_NUM`, 100 ms at 16 kHz. -/
def frameSampleNum16k : ℕ := 1600

/-- `max_ogg_delay` -/
def maxOggDelay : ℕ := 200

def lpcOrder : ℕ := 32

/-- A frame for the Opus encoder: the samples it was read with and what completes it. -/
structure OpusFrame where
  read : List ℚ := []
  padding : List ℚ := []
  deriving DecidableEq

def OpusFrame.samples (frame : OpusFrame) : List ℚ := frame.read ++ frame.padding

inductive PacketBody
  | opusHead
  | opusTags
  | audio (packet : Bytes)
  deriving DecidableEq, Repr

/-- `ogg_packet` -/
structure OggPacket where
  body : PacketBody
  beginOfStream : Bool := false
  endOfStream : Bool := false
  granulepos : ℕ := 0
  packetno : ℕ
  deriving DecidableEq, Repr

/-- The encoder with the parameters of its session. -/
structure OggOpusDataEncoder where
  sampleRate : ℕ := 16000
  frameSampleNum : ℕ := frameSampleNum16k
  frameSampleBytes : ℕ := frameSampleNum16k * 2
  isFirstFrameProcessed : Bool := false
  /-- the delay of the Opus encoder, in samples -/
  lookahead : ℕ
  /-- what is left of the samples the padder may add -/
  extraout : ℕ := lookahead
  /-- the prediction behind `lpc_ptr`, once there is one -/
  lpcOut : Option (List ℚ) := none
  /-- the `nb_samples` samples at hand, `none` for a negative number -/
  input : Option OpusFrame := none
  endOfStream : Bool := false
  originalSampleNumber : ℕ := 0
  encGranulepos : ℕ := 0
  /-- `id + 1` -/
  frameCount : ℕ := 0
  packets : List OggPacket := []
  frames : List OpusFrame := []

/-- What the libraries answer during one call. -/
structure OggOutcome where
  /-- the pages of the two headers are written -/
  headWritten : Bool := true
  tagsWritten : Bool := true
  /-- the packet `opus_multistream_encode_float` makes -/
  packet : Option Bytes := some []
  /-- the pages flushed before and behind the packet are written -/
  flushed : Bool := true
  written : Bool := true
  /-- `vorbis_lpc_predict`: the samples that follow those of a frame -/
  predict : List ℚ → ℕ → ℚ := fun _ _ => 0

/-- The one negative result of an encoder that has been created. -/
inductive OggOpusError
  | oggOpusEncodeFailed
  deriving DecidableEq, Repr

/-! ## Reading -/

/-- A little-endian sample of 16 bits. -/
def sampleOf (lo hi : UInt8) : ℚ :=
  let value := hi.toNat * 256 + lo.toNat
  ((if value < 32768 then value else value - 65536 : ℤ) : ℚ) / 32768

def samplesOf : Bytes → List ℚ
  | lo :: hi :: rest => sampleOf lo hi :: samplesOf rest
  | _ => []

/-- The bytes `ReadBuffer` copies, and those it keeps for the next call. -/
def readBuffer (requestedLen : ℕ) (src : Bytes) : Bytes × Bytes :=
  if src = [] then ([], src)
  else if src.length < requestedLen then (src, [])
  else (src.take requestedLen, src.drop requestedLen)

namespace OggOpusDataEncoder

/-- `ReadPadder`: read a frame from the buffer, and predict what is missing of it. -/
def readPadder (e : OggOutcome) (o : OggOpusDataEncoder) (buffer : Bytes) :
    OggOpusDataEncoder × Bytes :=
  let source := readBuffer (o.frameSampleNum * 2) buffer
  let read := samplesOf source.1
  if read = [] then ({ o with input := some {} }, source.2)
  else
    let o := { o with originalSampleNumber := o.originalSampleNumber + read.length }
    if read.length < o.frameSampleNum then
      let lpcOut := o.lpcOut.getD ((List.range o.extraout).map fun i =>
        if lpcOrder * 2 < read.length then e.predict read i else 0)
      let extra := min (o.frameSampleNum - read.length) o.extraout
      ({ o with
          extraout := o.extraout - extra
          lpcOut := some (lpcOut.drop extra)
          input := some { read := read, padding := lpcOut.take extra } }, source.2)
    else ({ o with input := some { read := read } }, source.2)

/-! ## Encoding -/

/-- The samples passed to the Opus encoder when `nb` are at hand. -/
def curFrameSize (o : OggOpusDataEncoder) (nb : ℕ) : ℕ :=
  if nb < o.frameSampleNum then o.frameSampleNum - (o.frameSampleNum - nb) / 320 * 320
  else o.frameSampleNum

/-- The frame at hand, filled up with zeros. -/
def frameAtHand (o : OggOpusDataEncoder) : OpusFrame :=
  let frame := o.input.getD {}
  let nb := frame.samples.length
  { frame with padding := frame.padding ++ List.replicate (o.curFrameSize nb - nb) 0 }

/-- The headers in front of the first frame, and the buffer that is read: silence as long as the
frame, and the frame. -/
def firstFrame (e : OggOutcome) (o : OggOpusDataEncoder) (inputData : Bytes) :
    OggOpusDataEncoder × Except OggOpusError Bytes :=
  let o := { o with
    endOfStream := false
    packets := o.packets ++ [{ body := .opusHead, beginOfStream := true, packetno := 0 }] }
  if !e.headWritten then (o, .error .oggOpusEncodeFailed)
  else
    let o := { o with packets := o.packets ++ [{ body := .opusTags, packetno := 1 }] }
    if !e.tagsWritten then (o, .error .oggOpusEncodeFailed)
    else
      ({ o with isFirstFrameProcessed := true },
        .ok (List.replicate inputData.length 0 ++ inputData))

/-- The buffer a call reads; without audio the stream ends. -/
def openBuffer (e : OggOutcome) (o : OggOpusDataEncoder) (inputData : Bytes) :
    OggOpusDataEncoder × Except OggOpusError Bytes :=
  if o.isFirstFrameProcessed ∧ 0 < inputData.length then (o, .ok inputData)
  else if inputData.length = o.frameSampleBytes then o.firstFrame e inputData
  else ({ o with endOfStream := true }, .ok [])

/-- Samples of 48 kHz up to the end of the audio, with the pre-skip. -/
def lastGranulepos (o : OggOpusDataEncoder) : ℕ :=
  (o.originalSampleNumber * 48000 + o.sampleRate - 1) / o.sampleRate + o.lookahead * 3

/-- The next frame is read at once where a delay is allowed, else with the next call. -/
def readAhead (e : OggOutcome) (o : OggOpusDataEncoder) (buffer : Bytes) : OggOpusDataEncoder :=
  if !o.endOfStream ∧ 5760 < maxOggDelay then
    let o := (o.readPadder e buffer).1
    if (o.input.getD {}).samples = [] then { o with endOfStream := true } else o
  else { o with input := none }

/-- The frame at hand is encoded and given to the stream; what is left of the buffer is freed. -/
def encodeFrame (e : OggOutcome) (o : OggOpusDataEncoder) (buffer : Bytes) :
    OggOpusDataEncoder × Except OggOpusError Unit :=
  if o.curFrameSize (o.input.getD {}).samples.length = 0 then (o, .error .oggOpusEncodeFailed)
  else
    let o := { o with frames := o.frames ++ [o.frameAtHand] }
    match e.packet with
    | none => (o, .error .oggOpusEncodeFailed)
    | some packet =>
      let o := { o with encGranulepos := o.encGranulepos + frameSampleNum16k * 3 }
      if !e.flushed then (o, .error .oggOpusEncodeFailed)
      else
        let o := o.readAhead e buffer
        let o := { o with
          packets := o.packets ++ [
            { body := .audio packet
              endOfStream := o.endOfStream
              granulepos := if o.endOfStream then o.lastGranulepos else o.encGranulepos
              packetno := 1 + o.frameCount }] }
        if !e.written then (o, .error .oggOpusEncodeFailed) else (o, .ok ())

def oggopusEncode (e : OggOutcome) (o : OggOpusDataEncoder) (inputData : Bytes) :
    OggOpusDataEncoder × Except OggOpusError Unit :=
  let opened := o.openBuffer e inputData
  match opened.2 with
  | .error code => (opened.1, .error code)
  | .ok buffer =>
    let o := { opened.1 with frameCount := opened.1.frameCount + 1 }
    match o.input with
    | some _ => o.encodeFrame e buffer
    | none =>
      let read := o.readPadder e buffer
      read.1.encodeFrame e read.2

/-- A new encoder, and the frame of `SetSampleRate`. -/
def create (sampleRate lookahead : ℕ) : OggOpusDataEncoder where
  sampleRate := sampleRate
  frameSampleNum := sampleRate / 10
  frameSampleBytes := sampleRate / 10 * 2
  lookahead := lookahead

/-- The stream is reset, and its record with it. -/
def oggopusSoftRestart (o : OggOpusDataEncoder) : OggOpusDataEncoder :=
  { o with isFirstFrameProcessed := false, packets := [], frames := [] }

/-- The calls of a session, each with what the libraries answer. -/
def encodeStep (o : OggOpusDataEncoder) (call : OggOutcome × Bytes) : OggOpusDataEncoder :=
  (o.oggopusEncode call.1 call.2).1

end OggOpusDataEncoder

end NlsSdk.Encoder
