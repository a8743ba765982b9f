import Mathlib.Tactic
import NlsSdk.Transport.Global

/-!
# The packets of the OPU mode

`nlsEncoding` makes 16-bit samples of a frame and puts the length of the Opus packet, in one
byte, in front of it. A reader takes a length and as many bytes, time after time.
-/
namespace NlsSdk.Encoder

open NlsSdk.Transport

/-! ## Reading packets -/

/-- The reader, which refuses a packet that is cut. -/
def readPackets : Bytes → Option (List Bytes)
  | [] => some []
  | length :: rest =>
    if length.toNat ≤ rest.length then
      (readPackets (rest.drop length.toNat)).map (rest.take length.toNat :: ·)
    else none
termination_by bytes => bytes.length
decreasing_by
  rw [List.length_drop, List.length_cons]
  omega

/-- A length and so many bytes. -/
structure IsPacket (output packet : Bytes) : Prop where
  output_eq : output = UInt8.ofNat packet.length :: packet
  announced : (UInt8.ofNat packet.length).toNat = packet.length

lemma ofNat_toNat_iff (n : ℕ) : (UInt8.ofNat n).toNat = n ↔ n ≤ 255 := by
  rw [UInt8.toNat_ofNat']
  omega

/-- A packet is read off in front of anything. -/
lemma IsPacket.readPackets_append {output packet : Bytes} (is : IsPacket output packet)
    (rest : Bytes) :
    readPackets (output ++ rest) = (readPackets rest).map (packet :: ·) := by
  rw [is.output_eq, List.cons_append, readPackets, is.announced,
    if_pos (by rw [List.length_append]; omega), List.drop_left, List.take_left]

/-! ## A call -/

/-- A call in OPU mode with the `opus_encode` of its moment, which stays within the size it is
given or answers with an error code. -/
structure OpuCall where
  frameBuff : Bytes
  outputSize : ℕ
  opusEncode : List (BitVec 16) → Except ℤ Bytes
  within : ∀ interBuffer packet, opusEncode interBuffer = .ok packet → packet.length ≤ outputSize

namespace OpuCall

/-- `(frameBuff[i + 1] << 8 & 0xff00) | (frameBuff[i] & 0xff)` -/
def sample (lo hi : UInt8) : BitVec 16 :=
  (hi.toBitVec.setWidth 16 <<< 8 &&& 0xff00) ||| (lo.toBitVec.setWidth 16 &&& 0xff)

/-- The samples in `interBuffer`; for an odd length the loop leaves both buffers. -/
def interBuffer : Bytes → Option (List (BitVec 16))
  | [] => some []
  | [_] => none
  | lo :: hi :: rest => (interBuffer rest).map (sample lo hi :: ·)

/-- What the call writes to the output buffer, or the code of an error; none where memory is
accessed outside of a buffer. -/
def nlsEncoding (call : OpuCall) : Option (Except ℤ Bytes) :=
  if call.frameBuff = [] ∨ call.outputSize = 0 then some (.ok [])
  else
    (interBuffer call.frameBuff).bind fun interBuffer =>
      match call.opusEncode interBuffer with
      | .error code => some (.error code)
      | .ok packet =>
        if packet.length + 1 ≤ call.outputSize then
          some (.ok (UInt8.ofNat packet.length :: packet))
        else none

/-- The packets that Opus makes: one, or none for invalid parameters or an error. -/
def packets (call : OpuCall) : List Bytes :=
  if call.frameBuff = [] ∨ call.outputSize = 0 then []
  else
    match (interBuffer call.frameBuff).map call.opusEncode with
    | some (.ok packet) => [packet]
    | _ => []

/-- What the call leaves in the output buffer. -/
def output (call : OpuCall) : Bytes :=
  match call.nlsEncoding with
  | some (.ok bytes) => bytes
  | _ => []

/-- No memory is accessed outside of the buffers, and the output fits and consists of the packets. -/
structure Framed (call : OpuCall) : Prop where
  inside : call.nlsEncoding ≠ none
  fits : call.output.length ≤ call.outputSize
  framed : (call.packets = [] ∧ call.output = []) ∨
    ∃ packet, call.packets = [packet] ∧ IsPacket call.output packet

/-- The frame has whole samples, and the packet leaves room for its length, which a byte can
hold. -/
def Fits (call : OpuCall) : Prop :=
  call.frameBuff ≠ [] → call.outputSize ≠ 0 → call.frameBuff.length % 2 = 0 ∧
    ∀ samples packet, interBuffer call.frameBuff = some samples →
      call.opusEncode samples = .ok packet →
        packet.length ≤ 255 ∧ packet.length < call.outputSize

variable {call : OpuCall}

lemma interBuffer_isSome_iff (frameBuff : Bytes) :
    (interBuffer frameBuff).isSome ↔ frameBuff.length % 2 = 0 := by
  fun_induction interBuffer frameBuff with
  | case1 => exact iff_of_true rfl rfl
  | case2 byte => exact iff_of_false Bool.false_ne_true Nat.one_ne_zero
  | case3 lo hi rest ih =>
    rw [Option.isSome_map, ih, List.length_cons, List.length_cons]
    omega

/-- Invalid parameters. -/
lemma framed_of_invalid (invalid : call.frameBuff = [] ∨ call.outputSize = 0) : call.Framed := by
  have returns : call.nlsEncoding = some (.ok []) := if_pos invalid
  have nothing : call.output = [] := by rw [output, returns]
  refine ⟨?_, ?_, .inl ⟨if_pos invalid, nothing⟩⟩
  · rw [returns]
    exact Option.some_ne_none _
  · rw [nothing]
    exact Nat.zero_le _

section

variable (valid : ¬(call.frameBuff = [] ∨ call.outputSize = 0)) {samples : List (BitVec 16)}
  (read : interBuffer call.frameBuff = some samples)

include valid

lemma nlsEncoding_odd (odd : interBuffer call.frameBuff = none) : call.nlsEncoding = none := by
  rw [nlsEncoding, if_neg valid, odd]
  rfl

include read

lemma nlsEncoding_error {code : ℤ} (fails : call.opusEncode samples = .error code) :
    call.nlsEncoding = some (.error code) ∧ call.packets = [] := by
  rw [nlsEncoding, packets, if_neg valid, if_neg valid, read, Option.bind_some, Option.map_some,
    fails]
  exact ⟨rfl, rfl⟩

lemma nlsEncoding_packet {packet : Bytes} (encodes : call.opusEncode samples = .ok packet) :
    call.nlsEncoding = (if packet.length + 1 ≤ call.outputSize then
      some (.ok (UInt8.ofNat packet.length :: packet)) else none) ∧ call.packets = [packet] := by
  rw [nlsEncoding, packets, if_neg valid, if_neg valid, read, Option.bind_some, Option.map_some,
    encodes]
  exact ⟨rfl, rfl⟩

/-- A packet is framed exactly when it leaves room for its length and a byte holds that. -/
lemma framed_packet_iff {packet : Bytes} (encodes : call.opusEncode samples = .ok packet) :
    call.Framed ↔ packet.length ≤ 255 ∧ packet.length < call.outputSize := by
  obtain ⟨returns, one⟩ := nlsEncoding_packet valid read encodes
  constructor
  · intro framed
    by_cases room : packet.length + 1 ≤ call.outputSize
    · rw [if_pos room] at returns
      obtain ⟨none_, -⟩ | ⟨other, is, framed⟩ := framed.framed
      · rw [one] at none_
        cases none_
      · obtain rfl : packet = other := by simpa [one] using is
        exact ⟨(ofNat_toNat_iff _).mp framed.announced, room⟩
    · rw [if_neg room] at returns
      exact absurd returns framed.inside
  · rintro ⟨small, room⟩
    rw [if_pos (Nat.succ_le_of_lt room)] at returns
    have written : call.output = UInt8.ofNat packet.length :: packet := by rw [output, returns]
    refine ⟨?_, ?_, .inr ⟨packet, one, written, (ofNat_toNat_iff _).mpr small⟩⟩
    · rw [returns]
      exact Option.some_ne_none _
    · rw [written, List.length_cons]
      exact room

end

/-- One call is framed exactly when it fits. -/
theorem framed_iff (call : OpuCall) : call.Framed ↔ call.Fits := by
  by_cases invalid : call.frameBuff = [] ∨ call.outputSize = 0
  · refine iff_of_true (framed_of_invalid invalid) fun some_ room => ?_
    exact absurd invalid (not_or.mpr ⟨some_, room⟩)
  have parity := interBuffer_isSome_iff call.frameBuff
  obtain ⟨some_, room⟩ := not_or.mp invalid
  cases read : interBuffer call.frameBuff with
  | none =>
    rw [read] at parity
    refine iff_of_false (fun framed => framed.inside (nlsEncoding_odd invalid read)) fun fits => ?_
    exact Bool.false_ne_true (parity.mpr (fits some_ room).1)
  | some samples =>
    rw [read] at parity
    have even : call.frameBuff.length % 2 = 0 := parity.mp rfl
    cases answer : call.opusEncode samples with
    | error code =>
      obtain ⟨returns, none_⟩ := nlsEncoding_error invalid read answer
      have nothing : call.output = [] := by rw [output, returns]
      refine iff_of_true ⟨?_, ?_, .inl ⟨none_, nothing⟩⟩ fun _ _ => ⟨even, ?_⟩
      · rw [returns]
        exact Option.some_ne_none _
      · rw [nothing]
        exact Nat.zero_le _
      · intro samples' packet read' encodes
        obtain rfl := Option.some.inj (read.symm.trans read')
        rw [answer] at encodes
        cases encodes
    | ok packet =>
      rw [framed_packet_iff invalid read answer]
      constructor
      · intro fits _ _
        refine ⟨even, fun samples' packet' read' encodes => ?_⟩
        obtain rfl := Option.some.inj (read.symm.trans read')
        obtain rfl := Except.ok.inj (answer.symm.trans encodes)
        exact fits
      · intro fits
        exact (fits some_ room).2 samples packet read answer

/-! ## A sequence of calls -/

/-- Every call is framed, and a reader of all that the calls put out recovers the packets. -/
def Decodable (calls : List OpuCall) : Prop :=
  (∀ call ∈ calls, call.Framed) ∧
    readPackets (calls.flatMap output) = some (calls.flatMap packets)

lemma readPackets_framed {calls : List OpuCall} (framed : ∀ call ∈ calls, call.Framed) :
    readPackets (calls.flatMap output) = some (calls.flatMap packets) := by
  induction calls with
  | nil => rw [List.flatMap_nil, readPackets, List.flatMap_nil]
  | cons call calls ih =>
    have later := ih fun other there => framed other (List.mem_cons_of_mem call there)
    rw [List.flatMap_cons, List.flatMap_cons]
    obtain ⟨none_, nothing⟩ | ⟨packet, one, is⟩ := (framed call List.mem_cons_self).framed
    · rw [none_, nothing, List.nil_append, List.nil_append, later]
    · rw [is.readPackets_append, later, one]
      rfl

/-- The output of a sequence of calls is decodable, and within the buffers, exactly when every call
fits. -/
theorem decodable_iff (calls : List OpuCall) : Decodable calls ↔ ∀ call ∈ calls, call.Fits := by
  constructor
  · rintro ⟨framed, -⟩ call there
    exact (framed_iff call).mp (framed call there)
  · intro fits
    have framed (call : OpuCall) (there : call ∈ calls) : call.Framed :=
      (framed_iff call).mpr (fits call there)
    exact ⟨framed, readPackets_framed framed⟩

/-- A frame of 40 ms at 8 kHz whose packet has 256 bytes. -/
def longPacket : OpuCall where
  frameBuff := List.replicate 640 0
  outputSize := 640
  opusEncode _ := .ok (List.replicate 256 1)
  within := by
    rintro interBuffer packet encodes
    rw [← Except.ok.inj encodes, List.length_replicate]
    decide

/-- Its length is given as zero. -/
theorem longPacket_undecodable : ¬Decodable [longPacket] := by
  rintro ⟨framed, -⟩
  have valid : ¬(longPacket.frameBuff = [] ∨ longPacket.outputSize = 0) := by decide
  have even : longPacket.frameBuff.length % 2 = 0 := by
    rw [longPacket, List.length_replicate]
  obtain ⟨samples, read⟩ := Option.isSome_iff_exists.mp ((interBuffer_isSome_iff _).mpr even)
  have small := ((framed_packet_iff valid read rfl).mp (framed longPacket List.mem_cons_self)).1
  rw [List.length_replicate] at small
  omega

end OpuCall

end NlsSdk.Encoder
