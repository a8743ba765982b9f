import Mathlib.Tactic
import Mathlib.Data.List.Basic

/-!
# Frames of RFC 6455

A parser of one frame, written from the layout of section 5.2 alone: two bytes
of flags, the extended length, the masking key, the payload. A length that is
not in its shortest form is refused.
-/
namespace NlsSdk.Library.Rfc6455

/-- A number in network order. -/
def netValue (bytes : List UInt8) : ℕ := bytes.foldl (fun n b => n * 256 + b.toNat) 0

/-- Octet `i` of the payload is changed by octet `i` modulo 4 of the key. -/
def unmask (key payload : List UInt8) : List UInt8 :=
  payload.mapIdx fun i b => b ^^^ key.getD (i % 4) 0

/-- What a frame says. -/
structure Frame where
  fin : Bool
  rsv : ℕ
  opcode : ℕ
  mask : Bool
  extendedLength : ℕ
  payload : List UInt8
  deriving DecidableEq, Repr

def takeBytes (count : ℕ) (bytes : List UInt8) : Option (List UInt8 × List UInt8) :=
  if count ≤ bytes.length then some (bytes.take count, bytes.drop count) else none

/-- The length behind its first seven bits, with the number of octets it takes there. -/
def parseLength (seven : ℕ) (bytes : List UInt8) : Option (ℕ × ℕ × List UInt8) :=
  if seven < 126 then some (0, seven, bytes)
  else if seven = 126 then do
    let (extended, rest) ← takeBytes 2 bytes
    if 126 ≤ netValue extended then some (2, netValue extended, rest) else none
  else do
    let (extended, rest) ← takeBytes 8 bytes
    if 65536 ≤ netValue extended ∧ netValue extended < 2 ^ 63 then
      some (8, netValue extended, rest)
    else none

/-- The frame at the start and the bytes behind it. -/
def parseFrame : List UInt8 → Option (Frame × List UInt8)
  | first :: second :: bytes => do
    let mask := decide (second.toNat / 128 = 1)
    let (extendedLength, length, bytes) ← parseLength (second.toNat % 128) bytes
    let (key, bytes) ← if mask then takeBytes 4 bytes else some ([], bytes)
    let (payload, rest) ← takeBytes length bytes
    some ({
      fin := decide (first.toNat / 128 = 1)
      rsv := first.toNat / 16 % 8
      opcode := first.toNat % 16
      mask := mask
      extendedLength := extendedLength
      payload := if mask then unmask key payload else payload }, rest)
  | _ => none

/-- The number of octets the shortest form of a length adds. -/
def shortest (length : ℕ) : ℕ := if length < 126 then 0 else if length < 65536 then 2 else 8

lemma takeBytes_append {front : List UInt8} {count : ℕ} (size : front.length = count)
    (rest : List UInt8) : takeBytes count (front ++ rest) = some (front, rest) := by
  subst size
  simp [takeBytes]

@[simp] lemma length_unmask (key payload : List UInt8) :
    (unmask key payload).length = payload.length := by
  simp [unmask]

/-- Masking twice with one key restores the payload. -/
lemma unmask_unmask (key payload : List UInt8) : unmask key (unmask key payload) = payload := by
  apply List.ext_getElem
  · rw [length_unmask, length_unmask]
  · intro i inside inside'
    simp [unmask, UInt8.xor_assoc]

lemma netValue_cons (b : UInt8) (bytes : List UInt8) :
    netValue (b :: bytes) = b.toNat * 256 ^ bytes.length + netValue bytes := by
  have shift : ∀ (bytes : List UInt8) (n : ℕ),
      bytes.foldl (fun n b => n * 256 + b.toNat) n =
        n * 256 ^ bytes.length + bytes.foldl (fun n b => n * 256 + b.toNat) 0 := by
    intro bytes
    induction bytes with
    | nil => simp
    | cons c bytes ih =>
      intro n
      rw [List.foldl_cons, List.foldl_cons, ih, ih (0 * 256 + c.toNat), List.length_cons, pow_succ]
      ring
  rw [netValue, List.foldl_cons, shift, netValue]
  simp

/-- The low octets of a number, the highest of them first. -/
lemma netValue_octets {octet : ℕ → UInt8} {n : ℕ} (octets : ∀ k, (octet k).toNat = n / 256 ^ k % 256)
    (count : ℕ) : netValue ((List.range count).reverse.map octet) = n % 256 ^ count := by
  induction count with
  | zero => simp [netValue, Nat.mod_one]
  | succ count ih =>
    rw [List.range_succ, List.reverse_append, List.reverse_singleton, List.singleton_append,
      List.map_cons, netValue_cons, ih, octets]
    simp only [List.length_map, List.length_reverse, List.length_range]
    rw [pow_succ, Nat.mod_mul, Nat.mul_comm (256 ^ count), Nat.add_comm]

/-- A masked frame parses to what its parts say. -/
theorem parseFrame_masked (first : UInt8) {second : UInt8} {extended key payload rest : List UInt8}
    {count : ℕ} (masked : second.toNat / 128 = 1) (four : key.length = 4)
    (length : parseLength (second.toNat % 128) (extended ++ (key ++ (payload ++ rest))) =
      some (count, payload.length, key ++ (payload ++ rest))) :
    parseFrame (first :: second :: (extended ++ (key ++ (payload ++ rest)))) =
      some ({
        fin := decide (first.toNat / 128 = 1)
        rsv := first.toNat / 16 % 8
        opcode := first.toNat % 16
        mask := true
        extendedLength := count
        payload := unmask key payload }, rest) := by
  simp only [parseFrame, masked, decide_true, if_true, length, Option.bind_eq_bind,
    Option.bind_some, takeBytes_append four, takeBytes_append rfl]

/-! ## Frames one after another -/

/-- So many frames from the start on, and the bytes behind them. -/
def parseFrames : ℕ → List UInt8 → Option (List Frame × List UInt8)
  | 0, bytes => some ([], bytes)
  | count + 1, bytes => do
    let (frame, bytes) ← parseFrame bytes
    let (frames, rest) ← parseFrames count bytes
    some (frame :: frames, rest)

/-- The bytes of one frame, whatever follows them. -/
def Parses (bytes : List UInt8) (frame : Frame) : Prop :=
  ∀ rest, parseFrame (bytes ++ rest) = some (frame, rest)

lemma Parses.unique {bytes : List UInt8} {frame frame' : Frame} (h : Parses bytes frame)
    (h' : Parses bytes frame') : frame = frame' :=
  (Prod.mk.inj (Option.some.inj ((h []).symm.trans (h' [])))).1

/-- Frames that parse by themselves parse one after another. -/
theorem parseFrames_flatten {fs : List (List UInt8)} (each : ∀ f ∈ fs, ∃ frame, Parses f frame)
    (rest : List UInt8) :
    ∃ frames, parseFrames fs.length (fs.flatten ++ rest) = some (frames, rest) ∧
      List.Forall₂ Parses fs frames := by
  induction fs with
  | nil => exact ⟨[], rfl, List.Forall₂.nil⟩
  | cons f fs ih =>
    obtain ⟨⟨frame, parses⟩, later⟩ := List.forall_mem_cons.mp each
    obtain ⟨frames, read, all⟩ := ih later
    refine ⟨frame :: frames, ?_, List.Forall₂.cons parses all⟩
    rw [List.length_cons, parseFrames, List.flatten_cons, List.append_assoc, parses]
    simp only [Option.bind_eq_bind, Option.bind_some, read]

end NlsSdk.Library.Rfc6455
