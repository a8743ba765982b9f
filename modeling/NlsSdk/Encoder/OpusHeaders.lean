import NlsSdk.Library.LittleEndian
import NlsSdk.Library.Rfc6455
import NlsSdk.Transport.Global

/-!
# The headers of the Ogg stream

`OpusHeaderToPacket` writes the identification header, `InitComment` and `AddComment` the comment
header. Beside them stand readers of the two layouts. `opusHead_iff` and `comments_read` say what
is read back.
-/
namespace NlsSdk.Encoder

open Library Library.LittleEndian Transport
open Library.Rfc6455 (takeBytes takeBytes_append)

/-! ## The identification header -/

/-- The values of the header, and the channels of its 255 streams. -/
structure OpusHeader where
  channels : ℤ
  preskip : ℤ
  inputSampleRate : UInt32
  /-- in dB, S7.8 -/
  gain : ℤ
  channelMapping : ℤ
  nbStreams : ℤ
  nbCoupled : ℤ
  streamMap : ℕ → UInt8

/-- A packet up to its position. -/
structure Packet where
  data : Bytes
  maxlen : ℤ

namespace Packet

def pos (p : Packet) : ℕ := p.data.length

/-- `write_chars`; what does not fit is not written at all. -/
def writeChars (p : Packet) (str : Bytes) : Option Packet :=
  if p.pos > p.maxlen - str.length then none else some { p with data := p.data ++ str }

def writeUint32 (p : Packet) (val : UInt32) : Option Packet := p.writeChars (le 4 val.toNat)

def writeUint16 (p : Packet) (val : UInt16) : Option Packet := p.writeChars (le 2 val.toNat)

end Packet

/-- An `int` that is stored as a `char`. -/
def charOf (n : ℤ) : UInt8 := UInt8.ofInt n

/-- The loop over the channels. -/
def writeStreamMap (streamMap : ℕ → UInt8) : List ℕ → Packet → Option Packet
  | [], p => some p
  | i :: is, p => (p.writeChars [streamMap i]).bind (writeStreamMap streamMap is)

/-- The packet, `none` where the function returns 0. -/
def opusHeaderToPacket (h : OpusHeader) (len : ℤ) : Option Bytes :=
  if len < 19 then none
  else do
    let p : Packet := { data := [], maxlen := len }
    let p ← p.writeChars (ascii "OpusHead")
    let p ← p.writeChars [1]
    let p ← p.writeChars [charOf h.channels]
    let p ← p.writeUint16 (UInt16.ofInt h.preskip)
    let p ← p.writeUint32 h.inputSampleRate
    let p ← p.writeUint16 (UInt16.ofInt h.gain)
    let p ← p.writeChars [charOf h.channelMapping]
    if h.channelMapping ≠ 0 then do
      let p ← p.writeChars [charOf h.nbStreams]
      let p ← p.writeChars [charOf h.nbCoupled]
      let p ← writeStreamMap h.streamMap (List.range h.channels.toNat) p
      some p.data
    else some p.data

/-! ## Reading it -/

/-- What an identification header says. -/
structure OpusHead where
  version : ℕ
  channels : ℕ
  preskip : ℕ
  inputSampleRate : ℕ
  gain : ℤ
  channelMapping : ℕ
  /-- the streams, the coupled ones, and the channel map -/
  table : Option (ℕ × ℕ × Bytes)
  deriving DecidableEq

def OpusHead.withTable (head : OpusHead) (table : Option (ℕ × ℕ × Bytes)) : OpusHead :=
  { head with table := table }

@[simp] lemma OpusHead.withTable_gain (head : OpusHead) (table : Option (ℕ × ℕ × Bytes)) :
    (head.withTable table).gain = head.gain := rfl

/-- The table of channels stands there if the mapping is not 0; nothing stands behind it. -/
def readTable (head : OpusHead) (rest : Bytes) : Option OpusHead :=
  if head.channelMapping = 0 then
    if rest = [] then some head else none
  else do
    let (streams, rest) ← takeLe 1 rest
    let (coupled, rest) ← takeLe 1 rest
    let (map, rest) ← takeBytes head.channels rest
    if rest = [] then some (head.withTable (some (streams, coupled, map))) else none

/-- Sixteen bits as a signed number. -/
def signed16 (n : ℕ) : ℤ := (n : ℤ).bmod (2 ^ 16)

/-- A reader of the layout. -/
def readOpusHead (packet : Bytes) : Option OpusHead := do
  let (magic, rest) ← takeBytes 8 packet
  guard (magic = ascii "OpusHead")
  let (version, rest) ← takeLe 1 rest
  let (channels, rest) ← takeLe 1 rest
  let (preskip, rest) ← takeLe 2 rest
  let (inputSampleRate, rest) ← takeLe 4 rest
  let (gain, rest) ← takeLe 2 rest
  let (channelMapping, rest) ← takeLe 1 rest
  readTable
    { version, channels, preskip, inputSampleRate, channelMapping
      gain := signed16 gain
      table := none } rest

/-- The reader finds the values of the header. -/
def ReadBack (h : OpusHeader) (packet : Bytes) : Prop :=
  ∃ head, readOpusHead packet = some head ∧ head.version = 1 ∧ head.channels = h.channels ∧
    head.preskip = h.preskip ∧ head.inputSampleRate = h.inputSampleRate.toNat ∧
    head.gain = h.gain ∧ head.channelMapping = h.channelMapping ∧
    (h.channelMapping ≠ 0 → ∃ streams coupled : ℕ,
      streams = h.nbStreams ∧ coupled = h.nbCoupled ∧
      head.table = some (streams, coupled, (List.range h.channels.toNat).map h.streamMap))

/-- Every value of the header fits the width it is stored in. -/
def InRange (h : OpusHeader) : Prop :=
  (0 ≤ h.channels ∧ h.channels < 256) ∧ (0 ≤ h.preskip ∧ h.preskip < 65536) ∧
    (-32768 ≤ h.gain ∧ h.gain < 32768) ∧ (0 ≤ h.channelMapping ∧ h.channelMapping < 256) ∧
    (h.channelMapping ≠ 0 →
      (0 ≤ h.nbStreams ∧ h.nbStreams < 256) ∧ (0 ≤ h.nbCoupled ∧ h.nbCoupled < 256))

/-- The bytes a header takes. -/
def headSize (h : OpusHeader) : ℕ := if h.channelMapping ≠ 0 then 21 + h.channels.toNat else 19

/-- The header as it is laid out. -/
def layout (h : OpusHeader) : Bytes :=
  ascii "OpusHead" ++ le 1 1 ++ le 1 (charOf h.channels).toNat ++
    le 2 (UInt16.ofInt h.preskip).toNat ++ le 4 h.inputSampleRate.toNat ++
    le 2 (UInt16.ofInt h.gain).toNat ++ le 1 (charOf h.channelMapping).toNat ++
    if h.channelMapping ≠ 0 then
      le 1 (charOf h.nbStreams).toNat ++ le 1 (charOf h.nbCoupled).toNat ++
        (List.range h.channels.toNat).map h.streamMap
    else []

/-! ### One writing -/

namespace Packet

lemma writeChars_of_fits {p : Packet} {str : Bytes} (fits : p.pos + str.length ≤ p.maxlen) :
    p.writeChars str = some { p with data := p.data ++ str } := by
  unfold writeChars
  exact if_neg (by omega)

lemma writeChars_of_not_fits {p : Packet} {str : Bytes} (short : p.maxlen < p.pos + str.length) :
    p.writeChars str = none := by
  unfold writeChars
  exact if_pos (by omega)

/-- Two writings are one. -/
lemma writeChars_append (p : Packet) (str str' : Bytes) :
    (p.writeChars str).bind (·.writeChars str') = p.writeChars (str ++ str') := by
  by_cases fits : p.pos + str.length ≤ p.maxlen
  · rw [writeChars_of_fits fits, Option.bind_some]
    unfold writeChars pos
    simp only [List.length_append, List.append_assoc, Nat.cast_add]
    congr 1
    apply propext
    constructor
    · intro short
      omega
    · intro short
      omega
  · have short : p.maxlen < p.pos + (str ++ str').length := by
      rw [List.length_append, Nat.cast_add]
      omega
    rw [writeChars_of_not_fits (by omega), writeChars_of_not_fits short]
    rfl

lemma writeChars_bind {α : Type} (p : Packet) (str str' : Bytes) (f : Packet → Option α) :
    ((p.writeChars str).bind fun q => (q.writeChars str').bind f) =
      (p.writeChars (str ++ str')).bind f := by
  rw [← writeChars_append, Option.bind_assoc]

end Packet

lemma writeStreamMap_bind (streamMap : ℕ → UInt8) (is : List ℕ) (p : Packet) (str : Bytes) :
    (p.writeChars str).bind (writeStreamMap streamMap is) =
      p.writeChars (str ++ is.map streamMap) := by
  induction is generalizing str with
  | nil =>
    have stays : writeStreamMap streamMap [] = some := rfl
    rw [stays, Option.bind_fun_some, List.map_nil, List.append_nil]
  | cons i is ih =>
    have goes : writeStreamMap streamMap (i :: is) =
        fun q => (q.writeChars [streamMap i]).bind (writeStreamMap streamMap is) := rfl
    rw [goes, Packet.writeChars_bind, ih, List.map_cons, List.append_assoc, List.singleton_append]

lemma layout_length (h : OpusHeader) : (layout h).length = headSize h := by
  unfold layout headSize
  have magic : (ascii "OpusHead").length = 8 := rfl
  split
  · simp only [List.length_append, length_le, magic, List.length_map, List.length_range]
    omega
  · simp only [List.length_append, length_le, magic, List.length_nil]

/-- The function writes the layout in one piece. -/
lemma opusHeaderToPacket_eq (h : OpusHeader) (len : ℤ) :
    opusHeaderToPacket h len =
      if len < 19 then none
      else ((Packet.mk [] len).writeChars (layout h)).map Packet.data := by
  have byte (c : UInt8) : [c] = le 1 c.toNat := by simp [le]
  unfold opusHeaderToPacket
  by_cases short : len < 19
  · rw [if_pos short, if_pos short]
  · rw [if_neg short, if_neg short]
    unfold layout
    by_cases mapped : h.channelMapping ≠ 0
    · rw [if_pos mapped]
      simp only [if_pos mapped, Packet.writeUint16, Packet.writeUint32, Option.bind_eq_bind,
        ← Option.bind_assoc, Packet.writeChars_append, writeStreamMap_bind, byte,
        List.append_assoc, Option.map_eq_bind]
      rfl
    · simp only [if_neg mapped, Packet.writeUint16, Packet.writeUint32, Option.bind_eq_bind,
        Packet.writeChars_bind, byte, List.append_assoc, List.append_nil, Option.map_eq_bind]
      rfl

/-- The packet is made if the buffer takes it, and then it is the layout. -/
theorem opusHeaderToPacket_iff (h : OpusHeader) (len : ℤ) (packet : Bytes) :
    opusHeaderToPacket h len = some packet ↔ headSize h ≤ len ∧ packet = layout h := by
  have least : 19 ≤ headSize h := by
    unfold headSize
    split <;> omega
  have size : ((Packet.mk [] len).pos : ℤ) + (layout h).length = headSize h := by
    rw [layout_length]
    exact zero_add _
  rw [opusHeaderToPacket_eq]
  by_cases fits : headSize h ≤ len
  · have whole : ((Packet.mk [] len).pos : ℤ) + (layout h).length ≤ (Packet.mk [] len).maxlen := by
      rwa [size]
    rw [if_neg (by omega), Packet.writeChars_of_fits whole, Option.map_some, Option.some_inj]
    constructor
    · intro same
      exact ⟨fits, same.symm⟩
    · rintro ⟨-, rfl⟩
      rfl
  · have short : (Packet.mk [] len).maxlen < ((Packet.mk [] len).pos : ℤ) + (layout h).length := by
      rw [size]
      exact not_le.mp fits
    rw [Packet.writeChars_of_not_fits short, Option.map_none, ite_self]
    constructor
    · intro made
      cases made
    · intro both
      exact absurd both.1 fits

/-! ### What the reader finds -/

/-- The values of the front of a header as they are stored. -/
def storedHead (h : OpusHeader) : OpusHead where
  version := 1
  channels := (charOf h.channels).toNat
  preskip := (UInt16.ofInt h.preskip).toNat
  inputSampleRate := h.inputSampleRate.toNat
  gain := signed16 (UInt16.ofInt h.gain).toNat
  channelMapping := (charOf h.channelMapping).toNat
  table := none

lemma charOf_toNat (n : ℤ) : ((charOf n).toNat : ℤ) = n % 256 := by
  unfold charOf UInt8.ofInt
  have low : (UInt8.ofNat (n % 2 ^ 8).toNat).toNat = (n % 2 ^ 8).toNat % 256 := UInt8.toNat_ofNat'
  rw [low]
  omega

lemma uint16_toNat (n : ℤ) : ((UInt16.ofInt n).toNat : ℤ) = n % 65536 := by
  unfold UInt16.ofInt
  have low : (UInt16.ofNat (n % 2 ^ 16).toNat).toNat = (n % 2 ^ 16).toNat % 65536 :=
    UInt16.toNat_ofNat'
  rw [low]
  omega

lemma signed16_uint16 (n : ℤ) :
    signed16 (UInt16.ofInt n).toNat = n ↔ -32768 ≤ n ∧ n < 32768 := by
  unfold signed16
  rw [uint16_toNat, Int.bmod_def]
  split <;> omega

lemma storedHead_gain (h : OpusHeader) :
    (storedHead h).gain = h.gain ↔ -32768 ≤ h.gain ∧ h.gain < 32768 := by
  simp only [storedHead, signed16_uint16]

lemma readOpusHead_append (h : OpusHeader) (table : Bytes) :
    readOpusHead (ascii "OpusHead" ++ le 1 1 ++ le 1 (charOf h.channels).toNat ++
      le 2 (UInt16.ofInt h.preskip).toNat ++ le 4 h.inputSampleRate.toNat ++
      le 2 (UInt16.ofInt h.gain).toNat ++ le 1 (charOf h.channelMapping).toNat ++ table) =
    readTable (storedHead h) table := by
  have byte (c : UInt8) : c.toNat % 256 ^ 1 = c.toNat := Nat.mod_eq_of_lt c.toNat_lt
  have word (c : UInt16) : c.toNat % 256 ^ 2 = c.toNat := Nat.mod_eq_of_lt c.toNat_lt
  have long (c : UInt32) : c.toNat % 256 ^ 4 = c.toNat := Nat.mod_eq_of_lt c.toNat_lt
  have magic (rest : Bytes) :
      takeBytes 8 (ascii "OpusHead" ++ rest) = some (ascii "OpusHead", rest) := by
    apply takeBytes_append
    rfl
  unfold readOpusHead storedHead
  simp only [List.append_assoc, magic, takeLe_append, byte, word, long, Option.bind_eq_bind,
    Option.bind_some, guard_true]
  rfl

/-- The mapping says whether there is a table, the low byte of it whether one is looked for. -/
lemma readOpusHead_layout (h : OpusHeader) :
    readOpusHead (layout h) = readTable (storedHead h)
      (if h.channelMapping ≠ 0 then
        le 1 (charOf h.nbStreams).toNat ++ le 1 (charOf h.nbCoupled).toNat ++
          (List.range h.channels.toNat).map h.streamMap
      else []) := by
  unfold layout
  exact readOpusHead_append h _

lemma readTable_of_fits {h : OpusHeader} (mapped : (charOf h.channelMapping).toNat ≠ 0)
    (channels : (charOf h.channels).toNat = h.channels.toNat) :
    readTable (storedHead h)
      (le 1 (charOf h.nbStreams).toNat ++ le 1 (charOf h.nbCoupled).toNat ++
        (List.range h.channels.toNat).map h.streamMap) =
    some ((storedHead h).withTable (some ((charOf h.nbStreams).toNat,
      (charOf h.nbCoupled).toNat, (List.range h.channels.toNat).map h.streamMap))) := by
  have byte (c : UInt8) : c.toNat % 256 ^ 1 = c.toNat := Nat.mod_eq_of_lt c.toNat_lt
  have map : takeBytes (storedHead h).channels ((List.range h.channels.toNat).map h.streamMap) =
      some ((List.range h.channels.toNat).map h.streamMap, []) := by
    have size : ((List.range h.channels.toNat).map h.streamMap).length =
        (storedHead h).channels := by
      rw [List.length_map, List.length_range]
      exact channels.symm
    have whole := takeBytes_append size []
    rwa [List.append_nil] at whole
  have mapped' : (storedHead h).channelMapping ≠ 0 := mapped
  unfold readTable
  rw [if_neg mapped']
  simp only [List.append_assoc, takeLe_append, byte, Option.bind_eq_bind, Option.bind_some, map,
    if_true]

/-- The table leaves the front as it is. -/
lemma readTable_front {head head' : OpusHead} {rest : Bytes}
    (read : readTable head rest = some head') : ∃ table, head' = head.withTable table := by
  unfold readTable at read
  split at read
  · split at read
    · cases read
      exact ⟨head.table, rfl⟩
    · cases read
  · obtain ⟨⟨streams, rest⟩, -, read⟩ := Option.bind_eq_some_iff.mp read
    obtain ⟨⟨coupled, rest⟩, -, read⟩ := Option.bind_eq_some_iff.mp read
    obtain ⟨⟨map, rest⟩, -, read⟩ := Option.bind_eq_some_iff.mp read
    simp only [Option.ite_none_right_eq_some, Option.some_inj] at read
    exact ⟨_, read.2.symm⟩

theorem readBack_of_inRange {h : OpusHeader} (fits : InRange h) : ReadBack h (layout h) := by
  obtain ⟨⟨_, _⟩, ⟨_, _⟩, ⟨_, _⟩, ⟨_, _⟩, table⟩ := fits
  have channels := charOf_toNat h.channels
  have preskip := uint16_toNat h.preskip
  have mapping := charOf_toNat h.channelMapping
  have gain := (storedHead_gain h).mpr ⟨by assumption, by assumption⟩
  by_cases mapped : h.channelMapping ≠ 0
  · obtain ⟨⟨_, _⟩, ⟨_, _⟩⟩ := table mapped
    have streams := charOf_toNat h.nbStreams
    have coupled := charOf_toNat h.nbCoupled
    have read := @readTable_of_fits h (by omega) (by omega)
    rw [ReadBack, readOpusHead_layout, if_pos mapped, read]
    refine ⟨_, rfl, rfl, ?_, ?_, rfl, ?_, ?_, ?_⟩
    · exact channels.trans (by omega)
    · exact preskip.trans (by omega)
    · rw [OpusHead.withTable_gain, gain]
    · exact mapping.trans (by omega)
    · intro _
      exact ⟨_, _, streams.trans (by omega), coupled.trans (by omega), rfl⟩
  · have plain : (storedHead h).channelMapping = 0 := by
      change (charOf h.channelMapping).toNat = 0
      omega
    refine ⟨storedHead h, ?_, rfl, ?_, ?_, rfl, gain, ?_, ?_⟩
    · rw [readOpusHead_layout, if_neg mapped, readTable, if_pos plain, if_pos rfl]
    · exact channels.trans (by omega)
    · exact preskip.trans (by omega)
    · exact mapping.trans (by omega)
    · intro mapped'
      exact absurd mapped' mapped

theorem inRange_of_readBack {h : OpusHeader} (least : h.channels ≤ 255)
    (found : ReadBack h (layout h)) : InRange h := by
  obtain ⟨head, read, -, channels, preskip, -, gain, mapping, table⟩ := found
  rw [readOpusHead_layout] at read
  obtain ⟨table', rfl⟩ := readTable_front read
  have channels' := (charOf_toNat h.channels).symm.trans channels
  have preskip' := (uint16_toNat h.preskip).symm.trans preskip
  have mapping' := (charOf_toNat h.channelMapping).symm.trans mapping
  rw [OpusHead.withTable_gain, storedHead_gain] at gain
  refine ⟨by omega, by omega, gain, by omega, ?_⟩
  intro mapped
  have low := charOf_toNat h.channelMapping
  have many := charOf_toNat h.channels
  rw [if_pos mapped, readTable_of_fits (by omega) (by omega)] at read
  obtain ⟨streams, coupled, streams', coupled', found⟩ := table mapped
  have same := congrArg OpusHead.table (Option.some.inj read)
  have entries := Option.some.inj (same.trans found)
  have first := congrArg Prod.fst entries
  have second := congrArg (Prod.fst ∘ Prod.snd) entries
  have streams'' := charOf_toNat h.nbStreams
  have coupled'' := charOf_toNat h.nbCoupled
  change (charOf h.nbStreams).toNat = streams at first
  change (charOf h.nbCoupled).toNat = coupled at second
  omega

/-- The header is written if it fits, and read back if and only if every value is in range. -/
theorem opusHead_iff (h : OpusHeader) (len : ℤ) (channels : h.channels ≤ 255) :
    (headSize h ≤ len ↔ ∃ packet, opusHeaderToPacket h len = some packet) ∧
      ∀ packet, opusHeaderToPacket h len = some packet → (ReadBack h packet ↔ InRange h) := by
  constructor
  · constructor
    · intro fits
      exact ⟨_, (opusHeaderToPacket_iff ..).mpr ⟨fits, rfl⟩⟩
    · rintro ⟨packet, made⟩
      exact ((opusHeaderToPacket_iff ..).mp made).1
  · intro packet made
    obtain ⟨-, rfl⟩ := (opusHeaderToPacket_iff ..).mp made
    exact ⟨inRange_of_readBack channels, readBack_of_inRange⟩

/-- The header of a single stream, as `OggopusEncoderCreate` sets it. -/
def singleStream (rate : UInt32) (preskip : ℤ) : OpusHeader where
  channels := 1
  preskip := preskip
  inputSampleRate := rate
  gain := 0
  channelMapping := 0
  nbStreams := 1
  nbCoupled := 0
  streamMap := fun _ => 0

theorem opusHead_iff_single : ∃ packet, opusHeaderToPacket (singleStream 16000 936) 276 =
    some packet ∧ ReadBack (singleStream 16000 936) packet := by
  obtain ⟨written, found⟩ := opusHead_iff (singleStream 16000 936) 276 (by decide)
  obtain ⟨packet, made⟩ := written.mp (by decide)
  refine ⟨packet, made, (found packet made).mpr ?_⟩
  unfold InRange
  decide

/-! ## The comment header -/

/-- The comments and their length, kept apart. -/
structure OggEncodeOpt where
  comments : Bytes
  commentsLength : ℤ

/-- Writing inside a buffer; `none` is an access outside it. -/
def put (buf : Bytes) (base : ℤ) (bytes : Bytes) : Option Bytes :=
  if 0 ≤ base ∧ base + bytes.length ≤ buf.length then some (blit buf base.toNat bytes) else none

def writeint (buf : Bytes) (base val : ℤ) : Option Bytes := put buf base (le 4 (val % 2 ^ 32).toNat)

/-- Thirty-two bits as an `int`. -/
def signed32 (n : ℕ) : ℤ := (n : ℤ).bmod (2 ^ 32)

def readint (buf : Bytes) (base : ℤ) : Option ℤ :=
  if 0 ≤ base ∧ base + 4 ≤ buf.length then
    some (signed32 (ofLe ((buf.drop base.toNat).take 4)))
  else none

/-- The new bytes of the block hold whatever is there. -/
def realloc (p : Bytes) (len : ℤ) (fill : ℕ → UInt8) : Bytes :=
  p.take len.toNat ++ (List.range (len.toNat - p.length)).map fill

/-- `OggOpusDataEncoderPara::InitComment` -/
def initComment (opusVersion : Bytes) : Option OggEncodeOpt := do
  let opusVersionLen : ℤ := opusVersion.length
  let len := 8 + 4 + opusVersionLen + 4
  let p : Bytes := List.replicate len.toNat 0
  let p ← put p 0 (ascii "OpusTags")
  let p ← writeint p 8 opusVersionLen
  let p ← put p 12 opusVersion
  let p ← writeint p (12 + opusVersionLen) 0
  some { comments := p, commentsLength := len }

/-- `OggOpusDataEncoderPara::AddComment`; the separator takes the place of the tag's last letter. -/
def addComment (encoderString : Bytes) (fill : ℕ → UInt8) (opt : OggEncodeOpt) :
    Option OggEncodeOpt := do
  let tag := ascii "ENCODER"
  let p := opt.comments
  let vendorLength ← readint p 8
  let userCommentListLength ← readint p (8 + 4 + vendorLength)
  let tagLen : ℤ := tag.length
  let valLen : ℤ := encoderString.length
  let len := opt.commentsLength + 4 + tagLen + valLen
  let p := realloc p len fill
  let p ← writeint p opt.commentsLength (tagLen + valLen)
  let p ← put p (opt.commentsLength + 4) tag
  let p ← put p (opt.commentsLength + 4 + (tagLen - 1)) (ascii "=")
  let p ← put p (opt.commentsLength + 4 + tagLen) encoderString
  let p ← writeint p (8 + 4 + vendorLength) (userCommentListLength + 1)
  some { comments := p, commentsLength := len }

/-- A comment is added for every block that `realloc` gives. -/
def addComments (encoderString : Bytes) : List (ℕ → UInt8) → OggEncodeOpt → Option OggEncodeOpt
  | [], opt => some opt
  | fill :: fills, opt =>
    (addComment encoderString fill opt).bind (addComments encoderString fills)

/-! ### Reading the comments -/

/-- A number of strings, each behind its length. -/
def takeStrings : ℕ → Bytes → Option (List Bytes × Bytes)
  | 0, bytes => some ([], bytes)
  | k + 1, bytes => do
    let (size, rest) ← takeLe 4 bytes
    let (first, rest) ← takeBytes size rest
    let (others, rest) ← takeStrings k rest
    some (first :: others, rest)

/-- The vendor and the comments; nothing stands behind them. -/
def readOpusTags (packet : Bytes) : Option (Bytes × List Bytes) := do
  let (magic, rest) ← takeBytes 8 packet
  guard (magic = ascii "OpusTags")
  let (size, rest) ← takeLe 4 rest
  let (vendor, rest) ← takeBytes size rest
  let (count, rest) ← takeLe 4 rest
  let (comments, rest) ← takeStrings count rest
  guard (rest = [])
  some (vendor, comments)

/-- The text of a comment. -/
def comment (encoderString : Bytes) : Bytes := ascii "ENCODE=" ++ encoderString

/-- A string behind its length. -/
def sized (str : Bytes) : Bytes := le 4 str.length ++ str

/-- The layout of the comment header. -/
def tags (vendor : Bytes) (comments : List Bytes) : Bytes :=
  ascii "OpusTags" ++ sized vendor ++ le 4 comments.length ++ (comments.map sized).flatten

lemma takeStrings_sized (strs : List Bytes) (short : ∀ str ∈ strs, str.length < 2 ^ 32)
    (rest : Bytes) :
    takeStrings strs.length ((strs.map sized).flatten ++ rest) = some (strs, rest) := by
  induction strs with
  | nil => rfl
  | cons str strs ih =>
    have size : str.length % 256 ^ 4 = str.length :=
      Nat.mod_eq_of_lt (short str List.mem_cons_self)
    have others := ih fun str' among => short str' (List.mem_cons_of_mem str among)
    rw [List.length_cons, takeStrings]
    simp only [List.map_cons, List.flatten_cons, sized, List.append_assoc, takeLe_append, size,
      Option.bind_eq_bind, Option.bind_some, takeBytes_append rfl]
    rw [others]
    rfl

theorem readOpusTags_tags {vendor : Bytes} {comments : List Bytes}
    (vendor' : vendor.length < 2 ^ 32) (count : comments.length < 2 ^ 32)
    (short : ∀ str ∈ comments, str.length < 2 ^ 32) :
    readOpusTags (tags vendor comments) = some (vendor, comments) := by
  have size : vendor.length % 256 ^ 4 = vendor.length := Nat.mod_eq_of_lt vendor'
  have many : comments.length % 256 ^ 4 = comments.length := Nat.mod_eq_of_lt count
  have magic (rest : Bytes) :
      takeBytes 8 (ascii "OpusTags" ++ rest) = some (ascii "OpusTags", rest) := by
    apply takeBytes_append
    rfl
  have strings := takeStrings_sized comments short []
  rw [List.append_nil] at strings
  unfold readOpusTags tags
  have apart : sized vendor = le 4 vendor.length ++ vendor := rfl
  simp only [apart, List.append_assoc, magic, takeLe_append, size, many, Option.bind_eq_bind,
    Option.bind_some, guard_true, takeBytes_append rfl, strings]
  rfl

/-! ### Writing them -/

lemma put_append {front middle bytes : Bytes} {base : ℤ} (place : front.length = base)
    (size : middle.length = bytes.length) (rest : Bytes) :
    put (front ++ middle ++ rest) base bytes = some (front ++ bytes ++ rest) := by
  unfold put
  have inside : 0 ≤ base ∧ base + bytes.length ≤ (front ++ middle ++ rest).length := by
    simp only [List.length_append]
    omega
  rw [if_pos inside, blit_append (by omega) size]

lemma signed32_of_lt {n : ℕ} (small : n < 2 ^ 31) : signed32 n = n := by
  unfold signed32
  rw [Int.bmod_def]
  split <;> omega

lemma readint_append {front : Bytes} {base : ℤ} (place : front.length = base) {n : ℕ}
    (small : n < 2 ^ 31) (rest : Bytes) : readint (front ++ le 4 n ++ rest) base = some (n : ℤ) := by
  have inside : 0 ≤ base ∧ base + 4 ≤ (front ++ le 4 n ++ rest).length := by
    simp only [List.length_append, length_le]
    omega
  have start : (front ++ le 4 n ++ rest).drop base.toNat = le 4 n ++ rest := by
    rw [List.append_assoc]
    exact List.drop_left' (by omega)
  have value : n % 256 ^ 4 = n := Nat.mod_eq_of_lt (by omega)
  unfold readint
  rw [if_pos inside, start, List.take_left' (length_le 4 n), ofLe_le, value, signed32_of_lt small]

lemma writeint_append {front middle : Bytes} {base : ℤ} (place : front.length = base)
    (size : middle.length = 4) {n : ℕ} (small : n < 2 ^ 31) (rest : Bytes) :
    writeint (front ++ middle ++ rest) base n = some (front ++ le 4 n ++ rest) := by
  have value : ((n : ℤ) % 2 ^ 32).toNat = n := by omega
  unfold writeint
  rw [value, put_append place (by rw [size, length_le])]

lemma tags_length (vendor : Bytes) (comments : List Bytes) :
    (tags vendor comments).length =
      16 + vendor.length + ((comments.map sized).flatten).length := by
  have magic : (ascii "OpusTags").length = 8 := rfl
  simp only [tags, sized, List.length_append, length_le, magic]
  omega

/-- The header without comments. -/
lemma initComment_tags {opusVersion : Bytes} (short : 16 + opusVersion.length < 2 ^ 31) :
    initComment opusVersion =
      some ⟨tags opusVersion [], (tags opusVersion []).length⟩ := by
  let zeros (k : ℕ) : Bytes := List.replicate k 0
  let magic := ascii "OpusTags"
  let v := opusVersion.length
  have eight : magic.length = 8 := rfl
  have size (k : ℕ) : (zeros k).length = k := List.length_replicate
  have buffer : List.replicate (8 + 4 + (opusVersion.length : ℤ) + 4).toNat 0 =
      zeros 8 ++ (zeros 4 ++ (zeros v ++ zeros 4)) := by
    have total : (8 + 4 + (opusVersion.length : ℤ) + 4).toNat = 8 + (4 + (v + 4)) := by omega
    simp only [total, zeros, List.replicate_append_replicate]
  have first : put (zeros 8 ++ (zeros 4 ++ (zeros v ++ zeros 4))) 0 magic =
      some (magic ++ (zeros 4 ++ (zeros v ++ zeros 4))) :=
    @put_append [] (zeros 8) magic 0 rfl ((size 8).trans eight.symm) _
  have second : writeint (magic ++ (zeros 4 ++ (zeros v ++ zeros 4))) 8 v =
      some (magic ++ (le 4 v ++ (zeros v ++ zeros 4))) := by
    have place : (magic.length : ℤ) = 8 := by omega
    rw [← List.append_assoc, writeint_append place (size 4) (by omega), List.append_assoc]
  have third : put (magic ++ (le 4 v ++ (zeros v ++ zeros 4))) 12 opusVersion =
      some (magic ++ (le 4 v ++ (opusVersion ++ zeros 4))) := by
    have place : ((magic ++ le 4 v).length : ℤ) = 12 := by
      rw [List.length_append, length_le, eight]
      rfl
    simpa only [List.append_assoc] using put_append place (size v) (zeros 4)
  have fourth : writeint (magic ++ (le 4 v ++ (opusVersion ++ zeros 4))) (12 + v) 0 =
      some (magic ++ (le 4 v ++ (opusVersion ++ le 4 0))) := by
    have place : ((magic ++ le 4 v ++ opusVersion).length : ℤ) = 12 + v := by
      rw [List.length_append, List.length_append, length_le, eight]
      omega
    have written := writeint_append place (size 4) (Nat.two_pow_pos 31) []
    simpa only [List.append_assoc, List.append_nil, Nat.cast_zero] using written
  have whole : tags opusVersion [] = magic ++ (le 4 v ++ (opusVersion ++ le 4 0)) := by
    simp only [tags, sized, List.append_assoc, List.map_nil, List.flatten_nil, List.append_nil,
      List.length_nil]
    rfl
  have length : ((tags opusVersion []).length : ℤ) = 8 + 4 + v + 4 := by
    rw [tags_length]
    simp only [List.map_nil, List.flatten_nil, List.length_nil]
    omega
  unfold initComment
  rw [length, whole]
  simp only [buffer, Option.bind_eq_bind]
  rw [first, Option.bind_some, second, Option.bind_some, third, Option.bind_some, fourth,
    Option.bind_some]

lemma sized_length (str : Bytes) : (sized str).length = 4 + str.length := by
  rw [sized, List.length_append, length_le]

lemma flatten_sized_length (comments : List Bytes) :
    4 * comments.length ≤ ((comments.map sized).flatten).length := by
  induction comments with
  | nil => exact Nat.zero_le _
  | cons first comments ih =>
    rw [List.map_cons, List.flatten_cons, List.length_append, sized_length, List.length_cons]
    omega

lemma tags_snoc_length (vendor : Bytes) (comments : List Bytes) (str : Bytes) :
    (tags vendor (comments ++ [str])).length = (tags vendor comments).length + 4 + str.length := by
  rw [tags_length, tags_length, List.map_append, List.flatten_append, List.length_append,
    List.map_singleton, List.flatten_singleton, sized_length]
  omega

lemma comment_length (encoderString : Bytes) :
    (comment encoderString).length = 7 + encoderString.length := by
  have tag : (ascii "ENCODE=").length = 7 := rfl
  rw [comment, List.length_append, tag]

/-- The block grows by a length, a tag and a text. -/
lemma realloc_grown (p : Bytes) (n : ℕ) (fill : ℕ → UInt8) :
    ∃ size tag text : Bytes, size.length = 4 ∧ tag.length = 7 ∧ text.length = n ∧
      realloc p (p.length + 4 + 7 + n) fill = p ++ (size ++ (tag ++ text)) := by
  let grown : Bytes := (List.range (11 + n)).map fill
  have total : grown.length = 11 + n := by rw [List.length_map, List.length_range]
  refine ⟨grown.take 4, (grown.drop 4).take 7, (grown.drop 4).drop 7, ?_, ?_, ?_, ?_⟩
  · rw [List.length_take]
    omega
  · rw [List.length_take, List.length_drop]
    omega
  · rw [List.length_drop, List.length_drop]
    omega
  · have new : ((p.length : ℤ) + 4 + 7 + n).toNat = p.length + (11 + n) := by omega
    unfold realloc
    rw [new, List.take_of_length_le (Nat.le_add_right _ _), Nat.add_sub_cancel_left,
      List.take_append_drop, List.take_append_drop]

lemma vendorEnd_length (vendor : Bytes) :
    ((ascii "OpusTags" ++ sized vendor).length : ℤ) = 8 + 4 + vendor.length := by
  have magic : (ascii "OpusTags").length = 8 := rfl
  simp only [List.length_append, sized_length, magic]
  omega

lemma readint_vendor {vendor : Bytes} (comments : List Bytes) (short : vendor.length < 2 ^ 31) :
    readint (tags vendor comments) 8 = some (vendor.length : ℤ) := by
  have magic : ((ascii "OpusTags").length : ℤ) = 8 := rfl
  have split : tags vendor comments = ascii "OpusTags" ++ le 4 vendor.length ++
      (vendor ++ (le 4 comments.length ++ (comments.map sized).flatten)) := by
    simp only [tags, sized, List.append_assoc]
  rw [split, readint_append magic short]

lemma readint_count (vendor : Bytes) {comments : List Bytes} (short : comments.length < 2 ^ 31) :
    readint (tags vendor comments) (8 + 4 + vendor.length) = some (comments.length : ℤ) :=
  readint_append (vendorEnd_length vendor) short (comments.map sized).flatten

/-- A comment is written behind what is there: its length, the tag, the separator over the tag's
last letter, and the text. -/
lemma comment_written (old encoderString : Bytes) {size tag text : Bytes} (four : size.length = 4)
    (seven : tag.length = 7) (last : text.length = encoderString.length)
    (short : 7 + encoderString.length < 2 ^ 31) :
    ∃ p q r, writeint (old ++ (size ++ (tag ++ text))) old.length (7 + encoderString.length) =
        some p ∧
      put p (old.length + 4) (ascii "ENCODER") = some q ∧
      put q (old.length + 4 + (7 - 1)) (ascii "=") = some r ∧
      put r (old.length + 4 + 7) encoderString = some (old ++ sized (comment encoderString)) := by
  let new := old ++ le 4 (7 + encoderString.length)
  have grown : (new.length : ℤ) = old.length + 4 := by
    simp only [new, List.length_append, length_le]
    omega
  refine ⟨new ++ (tag ++ text), new ++ ascii "ENCODE" ++ (ascii "R" ++ text),
    new ++ ascii "ENCODE=" ++ text, ?_, ?_, ?_, ?_⟩
  · have written := @writeint_append old size _ rfl four _ short (tag ++ text)
    simpa only [List.append_assoc, Nat.cast_add, Nat.cast_ofNat, new] using written
  · have letters : ascii "ENCODER" = ascii "ENCODE" ++ ascii "R" := rfl
    rw [← List.append_assoc new tag text, put_append grown seven text, letters]
    simp only [List.append_assoc]
  · have letters : ascii "ENCODE=" = ascii "ENCODE" ++ ascii "=" := rfl
    have six : (ascii "ENCODE").length = 6 := rfl
    have place : ((new ++ ascii "ENCODE").length : ℤ) = old.length + 4 + (7 - 1) := by
      rw [List.length_append, six, Nat.cast_add, grown]
      rfl
    have written := @put_append _ (ascii "R") (ascii "=") _ place rfl text
    rw [letters]
    simpa only [List.append_assoc] using written
  · have letters : (ascii "ENCODE=").length = 7 := rfl
    have place : ((new ++ ascii "ENCODE=").length : ℤ) = old.length + 4 + 7 := by
      rw [List.length_append, letters, Nat.cast_add, grown]
      rfl
    have written := put_append place last []
    simp only [List.append_nil] at written
    rw [written, sized, comment_length, comment]
    simp only [new, List.append_assoc]

/-- The count of a header that has a comment behind it is raised. -/
lemma count_written (vendor : Bytes) {comments : List Bytes} (str : Bytes)
    (short : comments.length + 1 < 2 ^ 31) :
    writeint (tags vendor comments ++ sized str) (8 + 4 + vendor.length) (comments.length + 1) =
      some (tags vendor (comments ++ [str])) := by
  have written := writeint_append (vendorEnd_length vendor) (length_le 4 comments.length) short
    ((comments.map sized).flatten ++ sized str)
  rw [Nat.cast_add, Nat.cast_one] at written
  rw [tags, List.append_assoc _ _ (sized str), written, tags, List.length_append,
    List.length_singleton, List.map_append, List.flatten_append, List.map_singleton,
    List.flatten_singleton]

/-- One comment more. -/
theorem addComment_tags {vendor encoderString : Bytes} {comments : List Bytes}
    (fill : ℕ → UInt8)
    (short : (tags vendor comments).length + 11 + encoderString.length < 2 ^ 31) :
    addComment encoderString fill ⟨tags vendor comments, (tags vendor comments).length⟩ =
      some ⟨tags vendor (comments ++ [comment encoderString]),
        (tags vendor (comments ++ [comment encoderString])).length⟩ := by
  have many := flatten_sized_length comments
  have length := tags_length vendor comments
  have vendor' := @readint_vendor vendor comments (by omega)
  have comments' := @readint_count vendor comments (by omega)
  obtain ⟨size, tag, text, four, seven, last, grown⟩ :=
    realloc_grown (tags vendor comments) encoderString.length fill
  obtain ⟨p, q, r, first, second, third, fourth⟩ :=
    comment_written (tags vendor comments) encoderString four seven last (by omega)
  have fifth := @count_written vendor comments (comment encoderString) (by omega)
  have longer : ((tags vendor comments).length : ℤ) + 4 + 7 + encoderString.length =
      (tags vendor (comments ++ [comment encoderString])).length := by
    rw [tags_snoc_length, comment_length]
    omega
  unfold addComment
  have seven' : ((ascii "ENCODER").length : ℤ) = 7 := rfl
  simp only [seven', Option.bind_eq_bind]
  rw [vendor', Option.bind_some, comments', Option.bind_some, grown, first, Option.bind_some,
    second, Option.bind_some, third, Option.bind_some, fourth, Option.bind_some, fifth,
    Option.bind_some, longer]

theorem addComments_tags {vendor encoderString : Bytes} (fills : List (ℕ → UInt8))
    (comments : List Bytes)
    (short : (tags vendor comments).length +
      fills.length * (11 + encoderString.length) < 2 ^ 31) :
    addComments encoderString fills ⟨tags vendor comments, (tags vendor comments).length⟩ =
      some ⟨tags vendor (comments ++ List.replicate fills.length (comment encoderString)),
        (tags vendor
          (comments ++ List.replicate fills.length (comment encoderString))).length⟩ := by
  induction fills generalizing comments with
  | nil => rw [List.length_nil, List.replicate_zero, List.append_nil, addComments]
  | cons fill fills ih =>
    rw [List.length_cons, Nat.succ_mul] at short
    rw [addComments, addComment_tags fill (by omega), Option.bind_some, ih, List.length_cons,
      List.append_assoc, List.replicate_succ, List.singleton_append]
    rw [tags_snoc_length, comment_length]
    omega

/-- Every comment that is added is read back, in front of nothing. -/
theorem comments_read (opusVersion encoderString : Bytes) (fills : List (ℕ → UInt8))
    (short : 16 + opusVersion.length + fills.length * (11 + encoderString.length) < 2 ^ 31) :
    ∃ opt, (initComment opusVersion).bind (addComments encoderString fills) = some opt ∧
      opt.commentsLength = opt.comments.length ∧
      readOpusTags opt.comments =
        some (opusVersion, List.replicate fills.length (comment encoderString)) := by
  have start : (tags opusVersion []).length = 16 + opusVersion.length := by
    rw [tags_length]
    rfl
  have total : fills.length * (11 + encoderString.length) =
      fills.length * 11 + fills.length * encoderString.length := Nat.mul_add ..
  rw [initComment_tags (by omega), Option.bind_some,
    addComments_tags fills [] (by rw [start]; exact short), List.nil_append]
  refine ⟨_, rfl, rfl, ?_⟩
  apply readOpusTags_tags
  · omega
  · rw [List.length_replicate]
    omega
  · intro str among
    rw [List.eq_of_mem_replicate among, comment_length]
    have some' : 1 ≤ fills.length := by
      by_contra none'
      rw [show fills.length = 0 by omega, List.replicate_zero] at among
      cases among
    have one := Nat.le_mul_of_pos_left (11 + encoderString.length) some'
    omega

theorem comments_read_once : ∃ opt,
    (initComment (ascii "libopus 1.3")).bind
      (addComments (ascii "opusenc") [fun _ => 255]) = some opt ∧
    readOpusTags opt.comments = some (ascii "libopus 1.3", [ascii "ENCODE=opusenc"]) := by
  obtain ⟨opt, made, -, read⟩ := comments_read (ascii "libopus 1.3") (ascii "opusenc")
    [fun _ => 255] (by decide)
  exact ⟨opt, made, read⟩

end NlsSdk.Encoder
