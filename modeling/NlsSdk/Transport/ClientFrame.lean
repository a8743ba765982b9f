import NlsSdk.Library.Rfc6455
import NlsSdk.Transport.WebSocketTcp

/-!
# The frames the client sends

What `framePackage` writes, read by a parser of the standard and by the
decoder of the client itself.
-/
namespace NlsSdk.Transport

open Library

/-! ## The standard -/

lemma toNat_lengthByte (length k : ℕ) : (lengthByte length k).toNat = length / 256 ^ k % 256 := by
  rw [lengthByte, UInt8.toNat_ofNat', Nat.shiftRight_eq_div_pow, Nat.pow_mul]

/-- FIN is set, the reserved bits are not. -/
lemma first_byte {nibble : ℕ} (small : nibble < 16) :
    (UInt8.ofNat (0x80 ||| nibble)).toNat = 128 + nibble := by
  interval_cases nibble <;> rfl

/-- MASK is set beside a short length. -/
lemma second_byte {length : ℕ} (short : length < 128) :
    (UInt8.ofNat (length ||| 0x80)).toNat = 128 + length := by
  have table : ∀ n < 128, (UInt8.ofNat (n ||| 0x80)).toNat = 128 + n := by decide +kernel
  exact table length short

/-- The extended length that `framePackage` writes. -/
def extendedLength (length : ℕ) : Bytes :=
  if length < 126 then []
  else if length < 65536 then (List.range 2).reverse.map (lengthByte length)
  else (List.range 8).reverse.map (lengthByte length)

/-- The first seven bits of the length. -/
def shortLength (length : ℕ) : ℕ :=
  if length < 126 then length else if length < 65536 then 126 else 127

lemma shortLength_lt (length : ℕ) : shortLength length < 128 := by
  unfold shortLength
  split_ifs <;> omega

lemma frameHeader_eq (codeType : OpCodeType) (length : ℕ) :
    frameHeader codeType length =
      UInt8.ofNat (0x80 ||| codeType.nibble) :: UInt8.ofNat (shortLength length ||| 0x80) ::
        (extendedLength length ++ masKingKey) := by
  unfold frameHeader shortLength extendedLength
  split_ifs <;> rfl

/-- The length is written in its shortest form and read back. -/
lemma parseLength_extendedLength {length : ℕ} (short : length < 2 ^ 63) (rest : Bytes) :
    Rfc6455.parseLength (shortLength length) (extendedLength length ++ rest) =
      some (Rfc6455.shortest length, length, rest) := by
  unfold shortLength extendedLength Rfc6455.shortest Rfc6455.parseLength
  by_cases seven : length < 126
  · simp only [if_pos seven, List.nil_append]
  by_cases sixteen : length < 65536
  · have value : Rfc6455.netValue ((List.range 2).reverse.map (lengthByte length)) = length := by
      rw [Rfc6455.netValue_octets (toNat_lengthByte length), Nat.mod_eq_of_lt (by omega)]
    have two : ((List.range 2).reverse.map (lengthByte length)).length = 2 := rfl
    rw [if_neg seven, if_neg seven, if_neg seven, if_pos sixteen, if_pos sixteen, if_pos sixteen,
      if_neg (by omega), if_pos rfl, Rfc6455.takeBytes_append two]
    simp only [Option.bind_eq_bind, Option.bind_some, value]
    rw [if_pos (by omega)]
  · have value : Rfc6455.netValue ((List.range 8).reverse.map (lengthByte length)) = length := by
      rw [Rfc6455.netValue_octets (toNat_lengthByte length), Nat.mod_eq_of_lt (by omega)]
    have eight : ((List.range 8).reverse.map (lengthByte length)).length = 8 := rfl
    rw [if_neg seven, if_neg seven, if_neg seven, if_neg sixteen, if_neg sixteen, if_neg sixteen,
      if_neg (by omega), if_neg (by omega), Rfc6455.takeBytes_append eight]
    simp only [Option.bind_eq_bind, Option.bind_some, value]
    rw [if_pos ⟨by omega, short⟩]

/-- Every frame is a masked frame of the standard with its length in the shortest form; the parser
takes the whole frame and nothing behind it. -/
theorem framePackage_conforms (codeType : OpCodeType) (buffer rest : Bytes)
    (code : codeType.nibble < 16) (short : buffer.length < 2 ^ 63) :
    Rfc6455.parseFrame (framePackage codeType buffer ++ rest) =
      some ({
        fin := true
        rsv := 0
        opcode := codeType.nibble
        mask := true
        extendedLength := Rfc6455.shortest buffer.length
        payload := buffer }, rest) := by
  have first := first_byte code
  have second := second_byte (shortLength_lt buffer.length)
  have short' := shortLength_lt buffer.length
  have seven : (128 + shortLength buffer.length) % 128 = shortLength buffer.length := by omega
  have length : Rfc6455.parseLength
      ((UInt8.ofNat (shortLength buffer.length ||| 0x80)).toNat % 128)
      (extendedLength buffer.length ++ (masKingKey ++ (maskWith masKingKey buffer ++ rest))) =
      some (Rfc6455.shortest buffer.length, (maskWith masKingKey buffer).length,
        masKingKey ++ (maskWith masKingKey buffer ++ rest)) := by
    rw [second, seven, length_maskWith]
    exact parseLength_extendedLength short _
  have parsed := Rfc6455.parseFrame_masked (UInt8.ofNat (0x80 ||| codeType.nibble)) (by omega) rfl
    length
  have fin : (128 + codeType.nibble) / 128 = 1 := by omega
  have rsv : (128 + codeType.nibble) / 16 % 8 = 0 := by omega
  have opcode : (128 + codeType.nibble) % 16 = codeType.nibble := by omega
  have payload : Rfc6455.unmask masKingKey (maskWith masKingKey buffer) = buffer :=
    Rfc6455.unmask_unmask masKingKey buffer
  rw [framePackage, frameHeader_eq, List.cons_append, List.cons_append, List.cons_append,
    List.cons_append, List.append_assoc, List.append_assoc]
  simpa only [length_maskWith, first, fin, rsv, opcode, payload, decide_true] using parsed

/-- A text of two bytes. -/
theorem framePackage_conforms_text :
    Rfc6455.parseFrame (framePackage .textFrame [104, 105] ++ [0x8a]) =
      some (⟨true, 0, 1, true, 0, [104, 105]⟩, [0x8a]) :=
  framePackage_conforms .textFrame [104, 105] [0x8a] (by decide) (by decide)

/-! ## The client's own decoder -/

/-- The three functions of the decoder, one after the other. -/
def decodeFrame (frame : Bytes) : Except NlsRetCode (Bytes × WebSocketFrame) := do
  let wsType ← decodeHeaderSizeWebSocketFrame frame {}
  let wsType ← decodeHeaderBodyWebSocketFrame frame wsType
  decodeFrameBodyWebSocketFrame frame wsType

/-- The decoder recovers the opcode, the length and the bytes of the payload. -/
def RoundTrip (codeType : OpCodeType) (buffer : Bytes) : Prop :=
  ∃ buffer' frame, decodeFrame (framePackage codeType buffer) = .ok (buffer', frame) ∧
    frame.type = codeType ∧ frame.length = buffer.length ∧ frame.payload buffer' = buffer

/-- The size of the header is found. -/
lemma decodeHeaderSize_framePackage (codeType : OpCodeType) (buffer : Bytes) :
    decodeHeaderSizeWebSocketFrame (framePackage codeType buffer) {} =
      .ok {
        headerSize := (frameHeader codeType buffer.length).length
        fin := decide (byteAt (framePackage codeType buffer) 0 / 128 % 2 = 1)
        mask := true
        opCode := .ofNibble (byteAt (framePackage codeType buffer) 0 % 16)
        N0 := shortLength buffer.length } := by
  have second := second_byte (shortLength_lt buffer.length)
  have short := shortLength_lt buffer.length
  have at_ : byteAt (framePackage codeType buffer) 1 = 128 + shortLength buffer.length := by
    rw [framePackage, frameHeader_eq]
    exact second
  have size : 2 + (if shortLength buffer.length = 126 then 2 else 0) +
      (if shortLength buffer.length = 127 then 8 else 0) + 4 =
      (frameHeader codeType buffer.length).length := by
    rw [frameHeader_eq]
    unfold shortLength extendedLength
    split_ifs <;> simp [masKingKey] <;> omega
  unfold decodeHeaderSizeWebSocketFrame
  rw [if_neg (by have := length_framePackage codeType buffer; omega), at_]
  have masked : (128 + shortLength buffer.length) / 128 % 2 = 1 := by omega
  have seven : (128 + shortLength buffer.length) % 128 = shortLength buffer.length := by omega
  simp only [masked, seven, decide_true, if_true, size]

/-- A frame that is decoded has a payload, and the key begins with the first byte of the frame. -/
lemma decodeFrame_parts {codeType : OpCodeType} {buffer buffer' : Bytes} {frame : WebSocketFrame}
    (decoded : decodeFrame (framePackage codeType buffer) = .ok (buffer', frame)) :
    buffer ≠ [] ∧ ∃ wsType : WebSocketHeaderType,
      wsType.headerSize = (frameHeader codeType buffer.length).length ∧ wsType.mask = true ∧
      wsType.opCode = .ofNibble (byteAt (framePackage codeType buffer) 0 % 16) ∧
      wsType.masKingKey.getD 0 0 = (framePackage codeType buffer).getD 0 0 ∧
      decodeFrameBodyWebSocketFrame (framePackage codeType buffer) wsType =
        .ok (buffer', frame) := by
  unfold decodeFrame at decoded
  rw [decodeHeaderSize_framePackage] at decoded
  simp only [bind, Except.bind] at decoded
  split at decoded
  · cases decoded
  rename_i wsType body
  unfold decodeHeaderBodyWebSocketFrame at body
  split at body
  · cases body
  rename_i long
  obtain rfl := Except.ok.inj body
  refine ⟨?_, _, rfl, rfl, rfl, rfl, decoded⟩
  rintro rfl
  simp [framePackage, maskWith] at long

/-- The payload is masked with another key than the one it was masked with. -/
lemma decodeFrame_payload {codeType : OpCodeType} {b : UInt8} {bytes buffer' : Bytes}
    {wsType : WebSocketHeaderType} {frame : WebSocketFrame}
    (size : wsType.headerSize = (frameHeader codeType (b :: bytes).length).length)
    (mask : wsType.mask = true)
    (data : wsType.opCode = .textFrame ∨ wsType.opCode = .binaryFrame ∨
      wsType.opCode = .continuation)
    (length : wsType.N = (b :: bytes).length)
    (decoded : decodeFrameBodyWebSocketFrame (framePackage codeType (b :: bytes)) wsType =
      .ok (buffer', frame)) :
    (frame.payload buffer').head? = some (b ^^^ 0x12 ^^^ wsType.masKingKey.getD 0 0) := by
  have body : ((framePackage codeType (b :: bytes)).drop wsType.headerSize).take wsType.N =
      maskWith masKingKey (b :: bytes) := by
    rw [framePackage, size, List.drop_left, length, ← length_maskWith masKingKey, List.take_length]
  have front : ((framePackage codeType (b :: bytes)).take wsType.headerSize).length =
      wsType.headerSize := by
    rw [framePackage, size, List.take_left]
  have result : ∀ opCode, wsType.opCode = opCode →
      (opCode = .textFrame ∨ opCode = .binaryFrame ∨ opCode = .continuation) →
      frame.payload buffer' = maskWith wsType.masKingKey (maskWith masKingKey (b :: bytes)) := by
    rintro opCode is (rfl | rfl | rfl)
    all_goals
      simp only [decodeFrameBodyWebSocketFrame, is, mask, if_true, body] at decoded
      split at decoded
      · cases decoded
      obtain ⟨rfl, rfl⟩ := Prod.mk.inj (Except.ok.inj decoded)
      rw [WebSocketFrame.payload]
      dsimp only
      rw [List.append_assoc, List.drop_left' front, List.take_left']
      rw [length_maskWith, length_maskWith, length]
  rw [result wsType.opCode rfl data]
  simp [maskWith, masKingKey]

/-- A data frame keeps the type and the length of its header. -/
lemma decodeFrameBody_kept {whole buffer' : Bytes} {wsType : WebSocketHeaderType}
    {frame : WebSocketFrame}
    (data : wsType.opCode = .textFrame ∨ wsType.opCode = .binaryFrame ∨
      wsType.opCode = .continuation)
    (decoded : decodeFrameBodyWebSocketFrame whole wsType = .ok (buffer', frame)) :
    frame.type = wsType.opCode ∧ frame.length = wsType.N := by
  rcases data with is | is | is
  all_goals
    simp only [decodeFrameBodyWebSocketFrame, is] at decoded
    split at decoded
    · cases decoded
    obtain ⟨-, rfl⟩ := Prod.mk.inj (Except.ok.inj decoded)
    exact ⟨is.symm, rfl⟩

lemma xor_ne {b key : UInt8} (some_ : key ≠ 0) : b ^^^ key ≠ b := by
  intro same
  have cancelled := congrArg (b ^^^ ·) same
  simp only [← UInt8.xor_assoc, UInt8.xor_self, UInt8.zero_xor] at cancelled
  exact some_ cancelled

/-- What the decoder reads as the key is the beginning of the header: no masked frame comes back
whole. -/
theorem masked_frame_not_recovered (codeType : OpCodeType) (buffer : Bytes) :
    ¬ RoundTrip codeType buffer := by
  rintro ⟨buffer', frame, decoded, type, length, payload⟩
  obtain ⟨some_, wsType, size, mask, opCode, key, body⟩ := decodeFrame_parts decoded
  obtain ⟨b, bytes, rfl⟩ := List.exists_cons_of_ne_nil some_
  have first : (framePackage codeType (b :: bytes)).getD 0 0 =
      UInt8.ofNat (0x80 ||| codeType.nibble) := by
    rw [framePackage, frameHeader_eq]
    rfl
  -- a data frame: the first byte of the payload is changed
  have data : wsType.opCode = codeType → wsType.N = (b :: bytes).length →
      codeType = .textFrame ∨ codeType = .binaryFrame ∨ codeType = .continuation → False := by
    intro same N is
    have changed := decodeFrame_payload size mask (same ▸ is) N body
    rw [payload, key, first, List.head?_cons, Option.some.injEq, UInt8.xor_assoc] at changed
    refine xor_ne ?_ changed.symm
    rcases is with rfl | rfl | rfl <;> decide
  have kept : (wsType.opCode = .textFrame ∨ wsType.opCode = .binaryFrame ∨
      wsType.opCode = .continuation) → False := by
    intro is
    obtain ⟨sameType, sameLength⟩ := decodeFrameBody_kept is body
    have same : wsType.opCode = codeType := sameType.symm.trans type
    exact data same (sameLength.symm.trans length) (same ▸ is)
  have read := body
  cases is : wsType.opCode with
  | textFrame => exact (kept (.inl is)).elim
  | binaryFrame => exact (kept (.inr (.inl is))).elim
  | continuation => exact (kept (.inr (.inr is))).elim
  | close =>
    -- the close code is taken for a part of the header, so the payload ends early
    simp only [decodeFrameBodyWebSocketFrame, is] at read
    split at read
    · cases read
    obtain ⟨rfl, rfl⟩ := Prod.mk.inj (Except.ok.inj read)
    have short := congrArg List.length payload
    rw [WebSocketFrame.payload] at short
    dsimp only at short length
    rw [List.length_take, List.length_drop, framePackage, List.length_append, length_maskWith,
      size] at short
    rw [List.length_cons] at short
    omega
  | ping =>
    simp only [decodeFrameBodyWebSocketFrame, is] at read
    split at read <;> cases read
  | pong =>
    simp only [decodeFrameBodyWebSocketFrame, is] at read
    obtain ⟨-, rfl⟩ := Prod.mk.inj (Except.ok.inj read)
    cases length
  | reserved n =>
    simp only [decodeFrameBodyWebSocketFrame, is] at read
    split at read
    · cases read
    obtain ⟨-, rfl⟩ := Prod.mk.inj (Except.ok.inj read)
    cases length

/-- A text of one byte comes back as another text. -/
theorem masked_text_changed :
    decodeFrame (framePackage .textFrame [97]) =
      .ok ([0x81, 0x81, 0x12, 0x34, 0x56, 0x78, 242],
        { type := .textFrame, data := some 6, length := 1 }) ∧
      ¬ RoundTrip .textFrame [97] := by
  have decoded : decodeFrame (framePackage .textFrame [97]) =
      .ok ([0x81, 0x81, 0x12, 0x34, 0x56, 0x78, 242],
        { type := .textFrame, data := some 6, length := 1 }) := by
    rfl
  refine ⟨decoded, ?_⟩
  rintro ⟨buffer', frame, is, -, -, payload⟩
  rw [decoded] at is
  obtain ⟨rfl, rfl⟩ := Prod.mk.inj (Except.ok.inj is)
  revert payload
  decide

end NlsSdk.Transport
