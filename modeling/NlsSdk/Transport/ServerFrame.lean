import Mathlib.Data.List.GetD
import NlsSdk.Transport.DecoderAlike

/-!
# Frames of the server

Well-formed unmasked frames and what the decoder makes of them, at whatever stage
it takes them up: it waits while the header is short, waits while the payload is
short, and then goes by the header the frame was encoded with.
-/
namespace NlsSdk.Transport

/-- The three ways to write the length of a payload. -/
inductive LengthClass
  | seven | sixteen | sixtyFour
  deriving DecidableEq, Repr

namespace LengthClass

/-- The highest bit of a 64-bit length is zero. -/
def bound : LengthClass → ℕ
  | seven => 126
  | sixteen => 2 ^ 16
  | sixtyFour => 2 ^ 63

/-- The second byte of the header, of an unmasked frame. -/
def N0 : LengthClass → ℕ → ℕ
  | seven, length => length
  | sixteen, _ => 126
  | sixtyFour, _ => 127

def headerSize : LengthClass → ℕ
  | seven => 2
  | sixteen => 4
  | sixtyFour => 10

/-- How many bytes of length follow the second byte. -/
def extra : LengthClass → ℕ
  | seven => 0
  | sixteen => 2
  | sixtyFour => 8

end LengthClass

/-- The last `count` bytes of a number, the most significant first. -/
def bigEndian (n : ℕ) : ℕ → Bytes
  | 0 => []
  | count + 1 => bigEndian (n / 256) count ++ [UInt8.ofNat n]

def OpCodeType.IsControl (opCode : OpCodeType) : Prop :=
  opCode = .close ∨ opCode = .ping ∨ opCode = .pong

instance (opCode : OpCodeType) : Decidable opCode.IsControl := inferInstanceAs (Decidable (_ ∨ _))

/-- An unmasked frame. Its first byte holds FIN, the reserved bits and the opcode; a control
frame has a short payload. -/
structure ServerFrame where
  first : UInt8
  lengthClass : LengthClass
  payload : Bytes
  fits : payload.length < lengthClass.bound
  control : (OpCodeType.ofNibble (first.toNat % 16)).IsControl → lengthClass = .seven

namespace ServerFrame

def opCode (f : ServerFrame) : OpCodeType := .ofNibble (f.first.toNat % 16)

def headerSize (f : ServerFrame) : ℕ := f.lengthClass.headerSize

def size (f : ServerFrame) : ℕ := f.headerSize + f.payload.length

def encode (f : ServerFrame) : Bytes :=
  f.first :: UInt8.ofNat (f.lengthClass.N0 f.payload.length) ::
    bigEndian f.payload.length f.lengthClass.extra ++ f.payload

/-- What a complete header decodes to. -/
def header (f : ServerFrame) : WebSocketHeaderType where
  headerSize := f.headerSize
  fin := decide (f.first.toNat / 128 % 2 = 1)
  mask := false
  opCode := f.opCode
  N0 := f.lengthClass.N0 f.payload.length
  N := f.payload.length
  masKingKey := [0, 0, 0, 0]

end ServerFrame

/-! ## Numbers in network order -/

@[simp] theorem length_bigEndian (n count : ℕ) : (bigEndian n count).length = count := by
  induction count generalizing n with
  | zero => rfl
  | succ count ih => simp [bigEndian, ih]

/-- The last bytes of a number are read back as its remainder. -/
theorem beValue_of_bytes {buffer : Bytes} {i count n : ℕ}
    (bytes : ∀ k < count, byteAt buffer (i + k) = byteAt (bigEndian n count) k) :
    beValue buffer i count = n % 256 ^ count := by
  induction count generalizing n with
  | zero => simp [beValue, Nat.mod_one]
  | succ count ih =>
    have front : beValue buffer i count = n / 256 % 256 ^ count := by
      apply ih
      intro k hk
      rw [bytes k (by omega), bigEndian, byteAt, byteAt,
        List.getD_append _ _ _ _ (by rw [length_bigEndian]; exact hk)]
    have last : byteAt buffer (i + count) = n % 256 := by
      rw [bytes count (by omega), bigEndian, byteAt, List.getD_append_right _ _ _ _ (by simp)]
      simp
    rw [beValue, front, last, Nat.pow_succ, Nat.mul_comm (256 ^ count), Nat.mod_mul]
    omega

lemma byteAt_of_isPrefix {b s : Bytes} (h : b <+: s) {i : ℕ} (hi : i < b.length) :
    byteAt b i = byteAt s i := by
  obtain ⟨rest, rfl⟩ := h
  rw [byteAt, byteAt, List.getD_append _ _ _ _ hi]

namespace ServerFrame

variable {f : ServerFrame} {ws : WebSocketTcp} {w : WebSocketHeaderType} {b rest : Bytes}

theorem length_encode (f : ServerFrame) : f.encode.length = f.size := by
  rw [encode, size, headerSize]
  cases f.lengthClass <;> simp [LengthClass.headerSize, LengthClass.extra] <;> omega

lemma two_le_headerSize (f : ServerFrame) : 2 ≤ f.headerSize := by
  rw [headerSize]
  cases f.lengthClass <;> decide

lemma length_lt_bound (f : ServerFrame) : f.payload.length < 2 ^ 63 := by
  have fits := f.fits
  cases h : f.lengthClass <;> rw [h] at fits <;> simp only [LengthClass.bound] at fits <;> omega

lemma size_lt (f : ServerFrame) : f.size < 2 ^ 64 := by
  have payload := f.length_lt_bound
  rw [size, headerSize]
  cases f.lengthClass <;> simp only [LengthClass.headerSize] <;> omega

lemma N0_lt (f : ServerFrame) : f.lengthClass.N0 f.payload.length < 128 := by
  have fits := f.fits
  cases h : f.lengthClass with
  | seven =>
    rw [h, LengthClass.bound] at fits
    rw [LengthClass.N0]
    omega
  | sixteen =>
    rw [LengthClass.N0]
    decide
  | sixtyFour =>
    rw [LengthClass.N0]
    decide

/-! ## The decoder's view of its header -/

/-- The first two bytes give the known part of the header. -/
lemma decodeHeaderSize_encode (h : b <+: f.encode ++ rest) (two : 2 ≤ b.length)
    (w : WebSocketHeaderType) :
    decodeHeaderSizeWebSocketFrame b w =
      .ok { f.header with N := w.N, masKingKey := w.masKingKey } := by
  have first : byteAt b 0 = f.first.toNat := by
    rw [byteAt_of_isPrefix h (by omega)]
    rfl
  have second : byteAt b 1 = f.lengthClass.N0 f.payload.length := by
    rw [byteAt_of_isPrefix h (by omega)]
    have := f.N0_lt
    simp [encode, byteAt, Nat.mod_eq_of_lt (show f.lengthClass.N0 f.payload.length < 256 by omega)]
  have unmasked : byteAt b 1 / 128 % 2 ≠ 1 := by
    have := f.N0_lt
    omega
  have N0 : byteAt b 1 % 128 = f.lengthClass.N0 f.payload.length := by
    rw [second, Nat.mod_eq_of_lt f.N0_lt]
  have size : 2 + (if f.lengthClass.N0 f.payload.length = 126 then 2 else 0) +
      (if f.lengthClass.N0 f.payload.length = 127 then 8 else 0) = f.headerSize := by
    have fits := f.fits
    rw [headerSize]
    cases h : f.lengthClass with
    | seven =>
      rw [h, LengthClass.bound] at fits
      rw [LengthClass.N0, LengthClass.headerSize, if_neg (by omega), if_neg (by omega)]
    | sixteen => rfl
    | sixtyFour => rfl
  unfold decodeHeaderSizeWebSocketFrame
  rw [if_neg (by omega)]
  simp only [N0, unmasked, decide_false, Bool.false_eq_true, if_false, Nat.add_zero, size, first]
  rfl

/-- The rest of the header gives the length. -/
lemma decodeHeaderBody_encode (h : b <+: f.encode ++ rest) (long : f.headerSize < b.length)
    (head : w.head = f.header.head) :
    decodeHeaderBodyWebSocketFrame b w = .ok f.header := by
  have N0 : w.N0 < 128 := by
    have same := congrArg WebSocketHeaderType.N0 head
    exact lt_of_eq_of_lt same f.N0_lt
  rw [WebSocketTcp.decodeHeaderBody_of_head b head N0]
  have field (count : ℕ) (is : f.lengthClass.extra = count) (inside : 2 + count ≤ b.length) :
      beValue b 2 count = f.payload.length % 256 ^ count := by
    apply beValue_of_bytes
    intro k hk
    rw [byteAt_of_isPrefix h (by omega), byteAt, byteAt, encode, is, Nat.add_comm]
    simp [List.getElem?_append, hk]
  have length : (if f.header.N0 < 126 then f.header.N0
      else if f.header.N0 = 126 then beValue b 2 2
      else if f.header.N0 = 127 then beValue b 2 8 else f.header.N) = f.header.N := by
    have fits := f.fits
    have N0 : f.header.N0 = f.lengthClass.N0 f.payload.length := rfl
    have N : f.header.N = f.payload.length := rfl
    rw [headerSize] at long
    rw [N0, N]
    cases kind : f.lengthClass with
    | seven =>
      rw [kind, LengthClass.bound] at fits
      rw [LengthClass.N0, if_pos fits]
    | sixteen =>
      rw [kind, LengthClass.bound] at fits
      rw [kind, LengthClass.headerSize] at long
      have value := field 2 (by rw [kind]; rfl) (by omega)
      rw [Nat.mod_eq_of_lt (by omega)] at value
      rw [LengthClass.N0, value]
      rfl
    | sixtyFour =>
      rw [kind, LengthClass.bound] at fits
      rw [kind, LengthClass.headerSize] at long
      have value := field 8 (by rw [kind]; rfl) (by omega)
      rw [Nat.mod_eq_of_lt (by omega)] at value
      rw [LengthClass.N0, value]
      rfl
  have enough : ¬b.length ≤ f.header.headerSize := Nat.not_le_of_lt long
  unfold decodeHeaderBodyWebSocketFrame
  rw [if_neg enough, length]
  rfl

/-! ## The decoder at any stage of a frame -/

/-- The decoder is at some stage of this frame, of which it has the bytes `b`. -/
structure Within (f : ServerFrame) (ws : WebSocketTcp) (w : WebSocketHeaderType) (b : Bytes) :
    Prop where
  decoding : ws.rStatus ≠ .wsWsFailed
  stage : StageAlike ws.rStatus w f.header
  -- the payload is waited for behind a complete header only
  header : ws.rStatus = .wsContentBody → f.headerSize < b.length
  -- a PONG is not waited for beyond its first two bytes
  pong : f.opCode = .pong → ws.rStatus = .wsHeadSize

lemma within_fresh (f : ServerFrame) (idle : ws.rStatus = .wsHeadSize) (w : WebSocketHeaderType)
    (b : Bytes) : f.Within ws w b :=
  ⟨by simp [idle], by rw [idle]; trivial, by simp [idle], fun _ => idle⟩

lemma Within.append (within : f.Within ws w b) (more : Bytes) : f.Within ws w (b ++ more) := by
  obtain ⟨decoding, stage, header, pong⟩ := within
  refine ⟨decoding, stage, fun body => ?_, pong⟩
  have := header body
  rw [List.length_append]
  omega

/-- The decoder can tell that the frame is complete. -/
def Ready (f : ServerFrame) (b : Bytes) : Prop :=
  (f.opCode = .pong ∧ 2 ≤ b.length) ∨
    (f.opCode ≠ .pong ∧ f.opCode ≠ .ping ∧ f.headerSize < b.length ∧ f.size ≤ b.length)

instance (f : ServerFrame) (b : Bytes) : Decidable (f.Ready b) :=
  inferInstanceAs (Decidable (_ ∨ _))

/-- Once the header is complete the decoder goes by the header of the frame. -/
theorem receive_long (within : f.Within ws w b) (h : b <+: f.encode ++ rest)
    (long : f.headerSize < b.length) :
    ws.receiveFullWebSocketFrame b w = ws.receiveContentBody b f.header := by
  obtain ⟨decoding, stage, -, -⟩ := within
  have headBody (k : WebSocketHeaderType) (head : k.head = f.header.head) :
      ws.receiveHeadBody b k = ws.receiveContentBody b f.header := by
    simp only [WebSocketTcp.receiveHeadBody, decodeHeaderBody_encode h long head]
  have two := f.two_le_headerSize
  unfold WebSocketTcp.receiveFullWebSocketFrame
  cases status : ws.rStatus with
  | wsHeadSize =>
    simp only [decodeHeaderSize_encode h (by omega) w]
    exact headBody _ rfl
  | wsHeadBody =>
    rw [status] at stage
    exact headBody w stage.1
  | wsContentBody =>
    rw [status] at stage
    obtain rfl : w = f.header := stage
    rfl
  | wsWsFailed => exact absurd status decoding

/-- How the decoder asks for more of a header. -/
def HeaderShort (received : Received) : Prop :=
  received.result = .error .invalidWsFrameHeaderSize ∨
    received.result = .error .invalidWsFrameHeaderBody

/-- An incomplete header is waited for. -/
theorem receive_short (within : f.Within ws w b) (h : b <+: f.encode ++ rest)
    (short : b.length ≤ f.headerSize) (notPong : f.opCode ≠ .pong) :
    let received := ws.receiveFullWebSocketFrame b w
    HeaderShort received ∧ f.Within received.webSocket received.wsType b := by
  obtain ⟨decoding, stage, header, pong⟩ := within
  have headBody (k : WebSocketHeaderType) (head : k.head = f.header.head) :
      ws.receiveHeadBody b k =
        ⟨{ ws with rStatus := .wsHeadBody }, k, .error .invalidWsFrameHeaderBody⟩ := by
    have size : k.headerSize = f.headerSize := by
      have same := congrArg WebSocketHeaderType.headerSize head
      exact same
    have other : k.opCode ≠ .pong := by
      have same := congrArg WebSocketHeaderType.opCode head
      exact fun pong => notPong (Eq.trans (show f.opCode = k.opCode from same.symm) pong)
    simp only [WebSocketTcp.receiveHeadBody, decodeHeaderBodyWebSocketFrame, size, short, if_true,
      other, if_false]
  have waits (k : WebSocketHeaderType) (head : k.head = f.header.head) :
      f.Within { ws with rStatus := .wsHeadBody } k b := by
    refine ⟨by simp, ⟨head, ?_⟩, by simp, fun pong => absurd pong notPong⟩
    have same := congrArg WebSocketHeaderType.N0 head
    exact lt_of_eq_of_lt same f.N0_lt
  dsimp only
  unfold WebSocketTcp.receiveFullWebSocketFrame
  cases status : ws.rStatus with
  | wsHeadSize =>
    dsimp only
    by_cases two : b.length < 2
    · rw [decodeHeaderSizeWebSocketFrame, if_pos two]
      exact ⟨Or.inl rfl, within_fresh f status w b⟩
    · rw [decodeHeaderSize_encode h (by omega) w]
      dsimp only
      rw [headBody { f.header with N := w.N, masKingKey := w.masKingKey } rfl]
      exact ⟨Or.inr rfl, waits _ rfl⟩
  | wsHeadBody =>
    rw [status] at stage
    dsimp only
    rw [headBody w stage.1]
    exact ⟨Or.inr rfl, waits w stage.1⟩
  | wsContentBody =>
    have := header status
    omega
  | wsWsFailed => exact absurd status decoding

/-- The frame a complete data frame is decoded to. -/
def decoded (f : ServerFrame) : WebSocketFrame where
  type := f.opCode
  data := some f.headerSize
  length := f.payload.length

/-- A frame that carries data for the session. -/
def IsData (f : ServerFrame) : Prop :=
  f.opCode = .textFrame ∨ f.opCode = .binaryFrame ∨ f.opCode = .continuation

instance (f : ServerFrame) : Decidable f.IsData := inferInstanceAs (Decidable (_ ∨ _))

lemma total_eq (f : ServerFrame) : (f.header.N + f.header.headerSize) % 2 ^ 64 = f.size := by
  have total : f.header.N + f.header.headerSize = f.size := Nat.add_comm _ _
  rw [total, Nat.mod_eq_of_lt f.size_lt]

/-- An incomplete payload is waited for, except behind the header of a PONG. A PING is waited
for when it is complete, too. -/
theorem receiveContentBody_short (notPong : f.opCode ≠ .pong)
    (short : f.opCode = .ping ∨ b.length < f.size) :
    ws.receiveContentBody b f.header =
      ⟨{ ws with rStatus := .wsContentBody }, f.header, .error .invalidWsFrameBody⟩ := by
  have body : decodeFrameBodyWebSocketFrame b f.header = .error .invalidWsFrameBody := by
    have opCode : f.header.opCode = f.opCode := rfl
    unfold decodeFrameBodyWebSocketFrame
    rw [opCode, f.total_eq]
    rcases short with ping | short
    · rw [ping]
      dsimp only
      split <;> rfl
    · split
      · rename_i pong
        exact absurd pong notPong
      · rw [if_pos short]
  rw [WebSocketTcp.receiveContentBody, body]

/-- A complete data frame is found. -/
theorem receiveContentBody_data (data : f.IsData) (enough : f.size ≤ b.length) :
    ws.receiveContentBody b f.header =
      ⟨{ ws with rStatus := .wsHeadSize }, f.header, .ok (b, f.decoded)⟩ := by
  have body : decodeFrameBodyWebSocketFrame b f.header = .ok (b, f.decoded) := by
    have long : ¬b.length < (f.header.N + f.header.headerSize) % 2 ^ 64 := by
      rw [f.total_eq]
      omega
    have opCode : f.header.opCode = f.opCode := rfl
    unfold decodeFrameBodyWebSocketFrame
    rcases data with kind | kind | kind
    all_goals
      rw [opCode, kind]
      simp only [if_neg long, decoded, kind]
      rfl
  rw [WebSocketTcp.receiveContentBody, body]

/-- A complete CLOSE is found, with the length of its whole payload. -/
theorem receiveContentBody_close (close : f.opCode = .close) (enough : f.size ≤ b.length) :
    ws.receiveContentBody b f.header =
      ⟨{ ws with rStatus := .wsHeadSize }, f.header,
        .ok (b, ⟨.close, some (f.headerSize + 2), f.payload.length, beValue b 2 2⟩)⟩ := by
  have body : decodeFrameBodyWebSocketFrame b f.header =
      .ok (b, ⟨.close, some (f.headerSize + 2), f.payload.length, beValue b 2 2⟩) := by
    have long : ¬b.length < (f.header.N + f.header.headerSize) % 2 ^ 64 := by
      rw [f.total_eq]
      omega
    have opCode : f.header.opCode = f.opCode := rfl
    unfold decodeFrameBodyWebSocketFrame
    rw [opCode, close]
    dsimp only
    rw [if_neg long]
    rfl
  rw [WebSocketTcp.receiveContentBody, body]

/-- A PONG is found as soon as its first two bytes are there, with no payload. -/
theorem receive_pong (within : f.Within ws w b) (h : b <+: f.encode ++ rest)
    (pong : f.opCode = .pong) (two : 2 ≤ b.length) :
    let received := ws.receiveFullWebSocketFrame b w
    received.result = .ok (b, {}) ∧ received.webSocket.rStatus = .wsHeadSize ∧
      received.wsType.head = f.header.head := by
  have kind (k : WebSocketHeaderType) (head : k.head = f.header.head) : k.opCode = .pong := by
    have same := congrArg WebSocketHeaderType.opCode head
    exact Eq.trans (show k.opCode = f.opCode from same) pong
  have found (k : WebSocketHeaderType) (head : k.head = f.header.head) :
      ws.receiveContentBody b k = ⟨{ ws with rStatus := .wsHeadSize }, k, .ok (b, {})⟩ := by
    simp only [WebSocketTcp.receiveContentBody, decodeFrameBodyWebSocketFrame, kind k head]
  dsimp only
  unfold WebSocketTcp.receiveFullWebSocketFrame
  rw [within.pong pong]
  dsimp only
  rw [decodeHeaderSize_encode h two w]
  dsimp only
  generalize known : ({ f.header with N := w.N, masKingKey := w.masKingKey } : WebSocketHeaderType)
    = k
  have head : k.head = f.header.head := by
    rw [← known]
    rfl
  unfold WebSocketTcp.receiveHeadBody
  by_cases long : f.headerSize < b.length
  · rw [decodeHeaderBody_encode h long head]
    dsimp only
    rw [found _ rfl]
    exact ⟨rfl, rfl, rfl⟩
  · have size : k.headerSize = f.headerSize := by
      have same := congrArg WebSocketHeaderType.headerSize head
      exact same
    rw [decodeHeaderBodyWebSocketFrame, if_pos (by omega)]
    dsimp only
    rw [if_pos (kind k head), found k head]
    exact ⟨rfl, rfl, head⟩

/-- The payload of a complete frame is the one the server sent. -/
theorem payload_decoded (f : ServerFrame) (rest : Bytes) :
    f.decoded.payload (f.encode ++ rest) = f.payload := by
  have header : (f.first :: UInt8.ofNat (f.lengthClass.N0 f.payload.length) ::
      bigEndian f.payload.length f.lengthClass.extra).length = f.headerSize := by
    rw [headerSize]
    cases f.lengthClass <;> simp [LengthClass.headerSize, LengthClass.extra]
  simp only [WebSocketFrame.payload, decoded, encode]
  rw [← header, List.append_assoc, List.drop_left, List.take_left]

/-! ## What is found of a frame -/

/-- A frame the decoder hands on: its type, how many bytes are drained for it, and the payload
it points to. -/
structure Found where
  type : OpCodeType
  bytes : ℕ
  payload : Bytes
  deriving DecidableEq

def found (wsType : WebSocketHeaderType) (buffer : Bytes) (wsFrame : WebSocketFrame) : Found where
  type := (Reader.delivered wsType wsFrame).type
  bytes := Reader.frameBytes wsType (Reader.delivered wsType wsFrame)
  payload := (Reader.delivered wsType wsFrame).payload buffer

/-- The frame takes its own size from the buffer, and its type and data are handed on. -/
structure Faithful (f : ServerFrame) (e : Found) : Prop where
  type : e.type = f.opCode
  bytes : e.bytes = f.size
  payload : f.IsData → e.payload = f.payload

/-- The frames that are consumed in step once the decoder can tell that they are complete. -/
def InStep (f : ServerFrame) : Prop :=
  f.IsData ∨ f.opCode = .close ∨ (f.opCode = .pong ∧ f.payload = [])

instance (f : ServerFrame) : Decidable f.InStep := inferInstanceAs (Decidable (_ ∨ _))

/-- A frame is waited for until the decoder can tell that it is complete. -/
theorem receive_waits (within : f.Within ws w b) (h : b <+: f.encode ++ rest)
    (waits : ¬f.Ready b) :
    let received := ws.receiveFullWebSocketFrame b w
    (HeaderShort received ∧ b.length ≤ f.headerSize ∨
        received.result = .error .invalidWsFrameBody) ∧
      f.Within received.webSocket received.wsType b := by
  rw [Ready] at waits
  have two := f.two_le_headerSize
  dsimp only
  by_cases pong : f.opCode = .pong
  · have short : b.length < 2 := by
      by_contra long
      exact waits (Or.inl ⟨pong, by omega⟩)
    have received : ws.receiveFullWebSocketFrame b w =
        ⟨ws, w, .error .invalidWsFrameHeaderSize⟩ := by
      unfold WebSocketTcp.receiveFullWebSocketFrame
      rw [within.pong pong]
      dsimp only
      rw [decodeHeaderSizeWebSocketFrame, if_pos short]
    rw [received]
    exact ⟨Or.inl ⟨Or.inl rfl, by omega⟩, within⟩
  by_cases long : f.headerSize < b.length
  · have short : f.opCode = .ping ∨ b.length < f.size := by
      by_contra both
      simp only [not_or, not_lt] at both
      exact waits (Or.inr ⟨pong, both.1, long, both.2⟩)
    rw [receive_long within h long, receiveContentBody_short pong short]
    exact ⟨Or.inr rfl, by simp, rfl, fun _ => long, fun is => absurd is pong⟩
  · obtain ⟨asks, still⟩ := receive_short within h (by omega) pong
    exact ⟨Or.inl ⟨asks, by omega⟩, still⟩

/-- A complete frame is found, and what is found of it is faithful. -/
theorem receive_ready (within : f.Within ws w b) (h : b <+: f.encode ++ rest) (inStep : f.InStep)
    (ready : f.Ready b) :
    let received := ws.receiveFullWebSocketFrame b w
    ∃ buffer wsFrame, received.result = .ok (buffer, wsFrame) ∧
      received.webSocket.rStatus = .wsHeadSize ∧
      f.Faithful (found received.wsType buffer wsFrame) := by
  dsimp only
  have opCode : f.header.opCode = f.opCode := rfl
  by_cases pong : f.opCode = .pong
  · have two : 2 ≤ b.length := by
      rcases ready with ⟨-, two⟩ | ⟨other, -⟩
      · exact two
      · exact absurd pong other
    obtain ⟨result, status, head⟩ := receive_pong within h pong two
    have kind : (ws.receiveFullWebSocketFrame b w).wsType.opCode = .pong := by
      have same := congrArg WebSocketHeaderType.opCode head
      exact Eq.trans (show _ = f.opCode from same) pong
    refine ⟨b, {}, result, status, ?_, ?_, fun data => ?_⟩
    · rw [found, Reader.delivered, if_pos kind, pong]
    · have size := congrArg WebSocketHeaderType.headerSize head
      replace size : (ws.receiveFullWebSocketFrame b w).wsType.headerSize = f.headerSize := size
      have empty : f.payload = [] := by
        rcases inStep with data | close | ⟨-, empty⟩
        · simp [IsData, pong] at data
        · simp [pong] at close
        · exact empty
      have small := f.size_lt
      have total : f.size = f.headerSize := by simp [ServerFrame.size, empty]
      rw [total] at small
      rw [found, Reader.delivered, if_pos kind, Reader.frameBytes, size]
      simp only [Nat.zero_add, total, Nat.mod_eq_of_lt small]
    · simp [IsData, pong] at data
  · obtain ⟨-, -, long, enough⟩ : f.opCode ≠ .pong ∧ f.opCode ≠ .ping ∧
        f.headerSize < b.length ∧ f.size ≤ b.length := by
      rcases ready with ⟨is, -⟩ | enough
      · exact absurd is pong
      · exact enough
    rw [receive_long within h long]
    have bytes (frame : WebSocketFrame) (length : frame.length = f.payload.length) (buffer : Bytes) :
        (found f.header buffer frame).bytes = f.size := by
      rw [found, Reader.delivered, opCode, if_neg pong, Reader.frameBytes, length]
      exact f.total_eq
    have type (frame : WebSocketFrame) (is : frame.type = f.opCode) (buffer : Bytes) :
        (found f.header buffer frame).type = f.opCode := by
      rw [found, Reader.delivered, opCode, if_neg pong, is]
    rcases inStep with data | close | ⟨is, -⟩
    · rw [receiveContentBody_data data enough]
      refine ⟨b, f.decoded, rfl, rfl, type _ rfl b, bytes _ rfl b, fun _ => ?_⟩
      · rw [found, Reader.delivered, opCode, if_neg pong]
        obtain ⟨more, rfl⟩ : f.encode <+: b := by
          apply List.prefix_of_prefix_length_le (List.prefix_append _ rest) h
          rw [length_encode]
          exact enough
        exact payload_decoded f more
    · rw [receiveContentBody_close close enough]
      refine ⟨b, _, rfl, rfl, type _ close.symm b, bytes _ rfl b, fun data => ?_⟩
      simp [IsData, close] at data
    · exact absurd is pong

/-- No frame is the beginning of another. -/
theorem size_eq_of_isPrefix {g : ServerFrame} (h : f.encode <+: g.encode) : f.size = g.size := by
  have shorter := h.length_le
  rw [length_encode, length_encode] at shorter
  by_contra differ
  -- one more byte than the shorter frame has shows the length of either
  have long : f.size < g.encode.length := by
    rw [length_encode]
    omega
  have cut : g.encode.take (f.size + 1) <+: g.encode := List.take_prefix _ _
  have count : (g.encode.take (f.size + 1)).length = f.size + 1 := by
    rw [List.length_take]
    omega
  obtain ⟨more, behind⟩ := h
  have left : g.encode.take (f.size + 1) <+: f.encode ++ more := by
    rw [behind]
    exact cut
  have right : g.encode.take (f.size + 1) <+: g.encode ++ [] := by
    rw [List.append_nil]
    exact cut
  have two := f.two_le_headerSize
  have inside : f.headerSize ≤ f.size := Nat.le_add_right _ _
  have known := (decodeHeaderSize_encode left (by omega) {}).symm.trans
    (decodeHeaderSize_encode right (by omega) {})
  have head : f.header.head = g.header.head := by
    have same := congrArg WebSocketHeaderType.head (Except.ok.inj known)
    exact same
  have size : f.headerSize = g.headerSize := by
    have same := congrArg WebSocketHeaderType.headerSize head
    exact same
  have same := (decodeHeaderBody_encode left (by omega) rfl).symm.trans
    (decodeHeaderBody_encode right (by omega) head)
  have length : f.payload.length = g.payload.length := by
    have N := congrArg WebSocketHeaderType.N (Except.ok.inj same)
    exact N
  rw [ServerFrame.size, ServerFrame.size, size, length] at differ
  exact differ rfl

end ServerFrame

end NlsSdk.Transport
