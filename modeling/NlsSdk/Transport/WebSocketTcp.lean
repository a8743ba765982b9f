import NlsSdk.Transport.Global

/-!
# WebSocket framing and the handshake response

`WebSocketTcp`: the frames the client sends, the decoder of the frames it
receives with the stage it keeps between calls, and the check of the answer to
the upgrade request.
-/
namespace NlsSdk.Transport

/-- The low nibble of the first byte of a frame. The source casts it to its enumeration,
so a value outside the enumeration is possible too. -/
inductive OpCodeType
  | continuation | textFrame | binaryFrame | close | ping | pong
  | reserved (nibble : ℕ)
  deriving DecidableEq, Repr

namespace OpCodeType

def ofNibble : ℕ → OpCodeType
  | 0 => continuation
  | 1 => textFrame
  | 2 => binaryFrame
  | 8 => close
  | 9 => ping
  | 10 => pong
  | n => reserved n

def nibble : OpCodeType → ℕ
  | continuation => 0
  | textFrame => 1
  | binaryFrame => 2
  | close => 8
  | ping => 9
  | pong => 10
  | reserved n => n

end OpCodeType

/-! ## Frames the client sends -/

def masKingKey : Bytes := [0x12, 0x34, 0x56, 0x78]

/-- `buffer[i] ^= key[i & 3]` over a whole buffer. -/
def maskWith (key : Bytes) (buffer : Bytes) : Bytes :=
  buffer.mapIdx (fun i b => b ^^^ key.getD (i % 4) 0)

/-- Byte `k` of a length, counted from the low end. -/
def lengthByte (length k : ℕ) : UInt8 := UInt8.ofNat (length >>> (8 * k))

def frameHeader (codeType : OpCodeType) (length : ℕ) : Bytes :=
  UInt8.ofNat (0x80 ||| codeType.nibble) ::
    (if length < 126 then
      [UInt8.ofNat (length ||| 0x80)]
    else if length < 65536 then
      [UInt8.ofNat (126 ||| 0x80), lengthByte length 1, lengthByte length 0]
    else
      UInt8.ofNat (127 ||| 0x80) :: [7, 6, 5, 4, 3, 2, 1, 0].map (lengthByte length))
    ++ masKingKey

def framePackage (codeType : OpCodeType) (buffer : Bytes) : Bytes :=
  frameHeader codeType buffer.length ++ maskWith masKingKey buffer

def binaryFrame (buffer : Bytes) : Bytes := framePackage .binaryFrame buffer

def textFrame (buffer : Bytes) : Bytes := framePackage .textFrame buffer

def pingFrame : Bytes := framePackage .ping []

/-- A byte string that some call of `framePackage` returns. -/
def IsFrame (bytes : Bytes) : Prop := ∃ codeType buffer, bytes = framePackage codeType buffer

theorem isFrame_framePackage (codeType : OpCodeType) (buffer : Bytes) :
    IsFrame (framePackage codeType buffer) := ⟨codeType, buffer, rfl⟩

lemma length_maskWith (key buffer : Bytes) : (maskWith key buffer).length = buffer.length := by
  simp [maskWith]

theorem length_framePackage (codeType : OpCodeType) (buffer : Bytes) :
    6 + buffer.length ≤ (framePackage codeType buffer).length := by
  rw [framePackage, List.length_append, length_maskWith]
  suffices 6 ≤ (frameHeader codeType buffer.length).length by omega
  unfold frameHeader
  split_ifs <;> simp [masKingKey]

/-! ## Frames the client receives -/

inductive WebSocketReceiveStatus
  | wsHeadSize | wsHeadBody | wsContentBody | wsWsFailed
  deriving DecidableEq, Repr

structure WebSocketHeaderType where
  headerSize : ℕ := 0
  fin : Bool := false
  mask : Bool := false
  opCode : OpCodeType := .continuation
  N0 : ℕ := 0
  N : ℕ := 0
  masKingKey : Bytes := []
  deriving DecidableEq, Repr

/-- A received frame. `data` is the place of the payload in the buffer it was decoded from,
`none` for the null pointer of a frame that was not filled in. -/
structure WebSocketFrame where
  type : OpCodeType := .continuation
  data : Option ℕ := none
  length : ℕ := 0
  closeCode : ℕ := 0
  deriving DecidableEq, Repr

/-- The payload a frame points to. -/
def WebSocketFrame.payload (frame : WebSocketFrame) (buffer : Bytes) : Bytes :=
  match frame.data with
  | none => []
  | some at_ => (buffer.drop at_).take frame.length

def byteAt (buffer : Bytes) (i : ℕ) : ℕ := (buffer.getD i 0).toNat

/-- `*(buffer + i) << ..` over `count` bytes, the most significant first. -/
def beValue (buffer : Bytes) (i : ℕ) : ℕ → ℕ
  | 0 => 0
  | count + 1 => beValue buffer i count * 256 + byteAt buffer (i + count)

def decodeHeaderSizeWebSocketFrame (buffer : Bytes) (wsType : WebSocketHeaderType) :
    Except NlsRetCode WebSocketHeaderType :=
  if buffer.length < 2 then .error .invalidWsFrameHeaderSize
  else
    let mask := decide (byteAt buffer 1 / 128 % 2 = 1)
    let N0 := byteAt buffer 1 % 128
    .ok { wsType with
      fin := decide (byteAt buffer 0 / 128 % 2 = 1)
      opCode := .ofNibble (byteAt buffer 0 % 16)
      mask := mask
      N0 := N0
      headerSize := 2 + (if N0 = 126 then 2 else 0) + (if N0 = 127 then 8 else 0) +
        (if mask then 4 else 0) }

def decodeHeaderBodyWebSocketFrame (buffer : Bytes) (wsType : WebSocketHeaderType) :
    Except NlsRetCode WebSocketHeaderType :=
  if buffer.length ≤ wsType.headerSize then .error .invalidWsFrameHeaderBody
  else .ok { wsType with
    N := if wsType.N0 < 126 then wsType.N0
      else if wsType.N0 = 126 then beValue buffer 2 2
      else if wsType.N0 = 127 then beValue buffer 2 8
      else wsType.N
    -- the key is read from the first bytes of the header
    masKingKey := if wsType.mask then (List.range 4).map (fun i => buffer.getD i 0)
      else [0, 0, 0, 0] }

/-- The buffer after the payload was unmasked in place, with the frame found in it. -/
def decodeFrameBodyWebSocketFrame (buffer : Bytes) (wsType : WebSocketHeaderType) :
    Except NlsRetCode (Bytes × WebSocketFrame) :=
  match wsType.opCode with
  | .pong => .ok (buffer, {})
  | opCode =>
    -- `wsType->N + wsType->headerSize` is computed in 64 bits
    if buffer.length < (wsType.N + wsType.headerSize) % 2 ^ 64 then .error .invalidWsFrameBody
    else match opCode with
      | .textFrame | .binaryFrame | .continuation =>
        let body := (buffer.drop wsType.headerSize).take wsType.N
        let buffer' := if wsType.mask then
            buffer.take wsType.headerSize ++ maskWith wsType.masKingKey body ++
              buffer.drop (wsType.headerSize + wsType.N)
          else buffer
        .ok (buffer', { type := opCode, data := some wsType.headerSize, length := wsType.N })
      | .ping => .error .invalidWsFrameBody
      | .close => .ok (buffer,
          { type := .close
            data := some (wsType.headerSize + 2)
            length := wsType.N
            closeCode := beValue buffer 2 2 })
      | _ => .ok (buffer, {})

/-- The receiving and handshake state kept between calls. -/
structure WebSocketTcp where
  httpCode : ℕ := 0
  httpLength : ℕ := 0
  rStatus : WebSocketReceiveStatus := .wsHeadSize
  errorMsg : Bytes := []
  deriving DecidableEq, Repr

/-- State, header and outcome of one call of the decoder. -/
structure Received where
  webSocket : WebSocketTcp
  wsType : WebSocketHeaderType
  result : Except NlsRetCode (Bytes × WebSocketFrame)
  deriving DecidableEq

namespace WebSocketTcp

def receiveContentBody (ws : WebSocketTcp) (frame : Bytes) (wsType : WebSocketHeaderType) :
    Received :=
  match decodeFrameBodyWebSocketFrame frame wsType with
  | .error e => ⟨{ ws with rStatus := .wsContentBody }, wsType, .error e⟩
  | .ok data => ⟨{ ws with rStatus := .wsHeadSize }, wsType, .ok data⟩

def receiveHeadBody (ws : WebSocketTcp) (frame : Bytes) (wsType : WebSocketHeaderType) :
    Received :=
  match decodeHeaderBodyWebSocketFrame frame wsType with
  | .error e =>
    if wsType.opCode = .pong then ws.receiveContentBody frame wsType
    else ⟨{ ws with rStatus := .wsHeadBody }, wsType, .error e⟩
  | .ok wsType' => ws.receiveContentBody frame wsType'

def receiveFullWebSocketFrame (ws : WebSocketTcp) (frame : Bytes) (wsType : WebSocketHeaderType) :
    Received :=
  match ws.rStatus with
  | .wsHeadSize =>
    match decodeHeaderSizeWebSocketFrame frame wsType with
    | .error e => ⟨ws, wsType, .error e⟩
    | .ok wsType' => ws.receiveHeadBody frame wsType'
  | .wsHeadBody => ws.receiveHeadBody frame wsType
  | .wsContentBody => ws.receiveContentBody frame wsType
  | .wsWsFailed => ⟨ws, wsType, .ok (frame, {})⟩

end WebSocketTcp

/-! ## The answer to the upgrade request -/

def httpStatusCode : Bytes := ascii "HTTP/1.1 "
def httpStatusCodeEnd : Bytes := ascii " "
def httpHeaderEndString : Bytes := [13, 10, 13, 10]
def httpContentLength : Bytes := ascii "Content-Length: "
def httpContentLengthEnd : Bytes := [13, 10]

/-- The bytes up to the terminating zero. -/
def cString (content : Bytes) : Bytes := content.takeWhile (· ≠ 0)

/-- `std::string::find`, with `none` for `npos`. -/
def find (pat : Bytes) : Bytes → Option ℕ
  | [] => if pat = [] then some 0 else none
  | b :: bs => if pat.isPrefixOf (b :: bs) then some 0 else (find pat bs).map (· + 1)

def findFrom (pat line : Bytes) (pos : ℕ) : Option ℕ :=
  (find pat (line.drop pos)).map (· + pos)

def isSpace (b : UInt8) : Bool := b = 32 || (9 ≤ b && b ≤ 13)

def isDigit (b : UInt8) : Bool := 48 ≤ b && b ≤ 57

def digits (s : Bytes) : ℕ :=
  (s.takeWhile isDigit).foldl (fun n b => n * 10 + (b.toNat - 48)) 0

/-- A number read into an `int`: the value is clamped to 64 bits and then cut to 32. -/
def toInt (n : ℤ) : ℤ := Int.bmod (max (-2 ^ 63) (min n (2 ^ 63 - 1))) (2 ^ 32)

lemma toInt_eq {n : ℤ} (low : -2 ^ 31 ≤ n) (high : n < 2 ^ 31) : toInt n = n := by
  unfold toInt
  rw [min_eq_left (by omega), max_eq_right (by omega)]
  exact Int.bmod_eq_of_le (by omega) (by omega)

lemma toInt_range (n : ℤ) : -2 ^ 31 ≤ toInt n ∧ toInt n < 2 ^ 31 := by
  unfold toInt
  have low := Int.le_bmod (x := max (-2 ^ 63) (min n (2 ^ 63 - 1))) (m := 2 ^ 32) (by norm_num)
  have high := Int.bmod_lt (x := max (-2 ^ 63) (min n (2 ^ 63 - 1))) (m := 2 ^ 32) (by norm_num)
  constructor <;> omega

def atoi (s : Bytes) : ℤ :=
  match s.dropWhile isSpace with
  | 45 :: s' => toInt (-(digits s' : ℤ))
  | 43 :: s' => toInt (digits s')
  | s' => toInt (digits s')

/-- The number behind the first `first`, up to the next `last`. A missing `first` makes
`seek + strlen(first)` wrap round to `strlen(first) - 1`. -/
def getTargetLen (line first last : Bytes) : ℕ :=
  let start := match find first line with
    | some seek => seek + first.length
    | none => first.length - 1
  match findFrom last line start with
  | none => 0
  | some position =>
    let rest := line.drop start
    let code := if position < first.length then rest else rest.take (position - first.length)
    (atoi code % 2 ^ 64).toNat

def WebSocketTcp.responsePackage (ws : WebSocketTcp) (content : Bytes) : WebSocketTcp × Ret :=
  let line := cString content
  if find httpHeaderEndString line = none then (ws, .ok content.length)
  else
    let code := if ws.httpCode = 0 then getTargetLen line httpStatusCode httpStatusCodeEnd
      else ws.httpCode
    let ws := { ws with httpCode := code }
    if code = 0 then (ws, .error .httpGotBadStatus)
    else if code = 101 then (ws, .ok 0)
    else
      let length := if ws.httpLength = 0 then
          getTargetLen line httpContentLength httpContentLengthEnd
        else ws.httpLength
      let ws := { ws with httpLength := length }
      match find httpHeaderEndString line with
      | none => (ws, .error .wsResponsePackageFailed)
      | some position =>
        let body := position + httpHeaderEndString.length
        if length = 0 then
          ({ ws with errorMsg := line }, .error .wsResponsePackageFailed)
        else if length = content.length - body then
          ({ ws with errorMsg := line.drop body }, .error .wsResponsePackageFailed)
        else (ws, .error .wsResponsePackageFailed)

end NlsSdk.Transport
