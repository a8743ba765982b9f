import NlsSdk.Library.MuxOrder
import NlsSdk.Transport.ClientFrame
import NlsSdk.Transport.WireIntegrity

/-!
# What the server reads

The two ends of the connection put together: the order in which the node sends its buffers, and a
reader of frames that knows the standard alone.
-/
namespace NlsSdk.Transport

open NlsSdk.Library

/-! ## The order of the frames -/

/-- A queue that alone may be inside a frame stays so behind the frames that are added. -/
lemma only_add {v : Wire} {i : Output} (safe : Mux.Only v.evBuffer i) (j : Output)
    (frame : Bytes) : Mux.Only (v.add j frame).evBuffer i := safe.add j frame

lemma only_send {v : Wire} {i : Output} (safe : Mux.Only v.evBuffer i) (k : ℕ) :
    Mux.Only (v.send i k).evBuffer i := safe.update _

/-- The wire carries frames in the order of their buffers: those found in a buffer in front of
those queued since, pings of the pool between them. -/
def ordering (pre : Bytes) (queued : List Bytes) (first : Output → List Bytes) : Discipline where
  Inv v := ∃ added log : List (Option Output × Bytes),
    v.queued = queued ++ added.map (·.2) ∧ (∀ f ∈ added, IsFrame f.2) ∧
      (∀ f ∈ log, f.1 = none → f.2 = pingFrame) ∧
      Mux.Ordered pre v.written v.evBuffer first added log
  Safe v i := Mux.Only v.evBuffer i
  add := by
    rintro v ⟨added, log, made, frames, pings, ordered⟩ i frame isFrame
    refine ⟨added ++ [(some i, frame)], log, ?_, ?_, pings, ordered.add i frame⟩
    · simp [Wire.add, made]
    · simpa [or_imp, forall_and] using ⟨fun o f mem => frames (o, f) mem, isFrame⟩
  send := by
    rintro v ⟨added, log, made, frames, pings, ordered⟩ i safe k
    obtain ⟨begun, sent⟩ := ordered.send safe k
    refine ⟨added, log ++ begun.map (some i, ·), made, frames, ?_, sent⟩
    intro f mem direct
    obtain old | new := List.mem_append.mp mem
    · exact pings f old direct
    · obtain ⟨c, -, rfl⟩ := List.mem_map.mp new
      cases direct
  direct := by
    rintro v ⟨added, log, made, frames, pings, ordered⟩ safe
    refine ⟨added, log ++ [(none, pingFrame)], made, frames, ?_,
      ordered.direct (Mux.boundary_of_only safe) pingFrame⟩
    intro f mem direct
    obtain old | new := List.mem_append.mp mem
    · exact pings f old direct
    · rw [List.mem_singleton.mp new]
  safe_add := @only_add
  safe_send := @only_send
  drained := fun _ safe empty _ k _ => safe.boundary empty k

/-! ## Reading it -/

/-- FIN is set whatever the opcode is; bits of it that do not fit reach the reserved ones. -/
lemma opcode_byte (nibble : ℕ) : (UInt8.ofNat (0x80 ||| nibble)).toNat = 128 + nibble % 128 := by
  have table : ∀ n < 256, 128 ||| n = 128 + n % 128 := by decide +kernel
  have low := table (nibble % 256) (Nat.mod_lt nibble (by decide))
  have bits : (0x80 ||| nibble) % 2 ^ 8 = 0x80 % 2 ^ 8 ||| nibble % 2 ^ 8 :=
    Nat.or_mod_two_pow
  rw [UInt8.toNat_ofNat', bits]
  simp only [Nat.reducePow, Nat.reduceMod, low]
  omega

/-- One masked frame with the opcode and the payload that `framePackage` was given. -/
def frameOf (codeType : OpCodeType) (buffer : Bytes) : Rfc6455.Frame where
  fin := true
  rsv := codeType.nibble / 16 % 8
  opcode := codeType.nibble % 16
  mask := true
  extendedLength := Rfc6455.shortest buffer.length
  payload := buffer

/-- The parser takes a whole frame and nothing behind it. -/
lemma parses_framePackage (codeType : OpCodeType) {buffer : Bytes} (short : buffer.length < 2 ^ 63) :
    Rfc6455.Parses (framePackage codeType buffer) (frameOf codeType buffer) := by
  intro rest
  have first := opcode_byte codeType.nibble
  have second := second_byte (shortLength_lt buffer.length)
  have short' := shortLength_lt buffer.length
  have seven : (128 + shortLength buffer.length) % 128 = shortLength buffer.length := by omega
  have length : Rfc6455.parseLength
      ((UInt8.ofNat (shortLength buffer.length ||| 0x80)).toNat % 128)
      (extendedLength buffer.length ++ (masKingKey ++ (maskWith masKingKey buffer ++ rest))) =
      some (Rfc6455.shortest buffer.length, (maskWith masKingKey buffer).length,
        masKingKey ++ (maskWith masKingKey buffer ++ rest)) := by
    rw [second, seven, length_maskWith]
    exact parseLength_extendedLength short _
  have parsed := Rfc6455.parseFrame_masked (UInt8.ofNat (0x80 ||| codeType.nibble)) (by omega) rfl
    length
  have fin : (128 + codeType.nibble % 128) / 128 = 1 := by omega
  have rsv : (128 + codeType.nibble % 128) / 16 % 8 = codeType.nibble / 16 % 8 := by omega
  have opcode : (128 + codeType.nibble % 128) % 16 = codeType.nibble % 16 := by omega
  have payload : Rfc6455.unmask masKingKey (maskWith masKingKey buffer) = buffer :=
    Rfc6455.unmask_unmask masKingKey buffer
  rw [framePackage, frameHeader_eq, List.cons_append, List.cons_append, List.cons_append,
    List.cons_append, List.append_assoc, List.append_assoc]
  simpa only [frameOf, length_maskWith, first, fin, rsv, opcode, payload, decide_true] using parsed

/-- What the reader makes of a frame is what it was made of. -/
def Says (f : Bytes) (message : Rfc6455.Frame) : Prop :=
  IsFrame f ∧ ∀ codeType buffer, f = framePackage codeType buffer → message = frameOf codeType buffer

lemma IsFrame.parses {f : Bytes} (isFrame : IsFrame f) (fits : f.length < 2 ^ 63) :
    ∃ message, Rfc6455.Parses f message := by
  obtain ⟨codeType, buffer, rfl⟩ := isFrame
  have size := length_framePackage codeType buffer
  exact ⟨_, parses_framePackage codeType (by omega)⟩

lemma IsFrame.means {f : Bytes} {message : Rfc6455.Frame} (isFrame : IsFrame f)
    (fits : f.length < 2 ^ 63) (parses : Rfc6455.Parses f message) : Says f message := by
  refine ⟨isFrame, ?_⟩
  rintro codeType buffer rfl
  have size := length_framePackage codeType buffer
  exact parses.unique (parses_framePackage codeType (by omega))

lemma ordering_start (n : ConnectNode) (upgraded : n.Upgraded) :
    (ordering n.channel.written n.queued fun i => (n.evBuffer i).whole).Inv n.wire :=
  ⟨[], [], by simp [ConnectNode.wire], by simp, by simp,
    Mux.Ordered.fresh upgraded.boundary n.channel.written⟩

lemma ordering_step (pre : Bytes) (queued : List Bytes) (first : Output → List Bytes)
    (n : ConnectNode) (input : NodeInput)
    (inv : (ordering pre queued first).Inv n.wire ∧ n.Parked) (turn : SendsInTurn n input) :
    (ordering pre queued first).Inv (nodeStep n input).wire ∧ (nodeStep n input).Parked := by
  obtain ⟨closed, safe⟩ := turn
  exact ⟨NodeOp.step_keeps (d := ordering pre queued first) closed inv.2 inv.1 safe,
    (NodeOp.step_forward closed).parked inv.2⟩

/-- What is sent was found or queued, or is a ping. -/
lemma sent_cases {P : Bytes → Prop} {first : Output → List Bytes} {qs : Output → EvBuffer}
    {added log : List (Option Output × Bytes)} (found : ∀ i, ∀ f ∈ first i, P f)
    (queued : ∀ f ∈ added, P f.2) (ping : P pingFrame)
    (pings : ∀ f ∈ log, f.1 = none → f.2 = pingFrame)
    (conserved : ∀ i, Mux.part i log ++ (qs i).whole = first i ++ Mux.part i added) :
    ∀ f ∈ log, P f.2 := by
  rintro ⟨source, f⟩ mem
  cases source with
  | none =>
    rw [pings _ mem rfl]
    exact ping
  | some i =>
    have part : f ∈ Mux.part i log :=
      List.mem_map.mpr ⟨(some i, f), List.mem_filter.mpr ⟨mem, by simp⟩, rfl⟩
    have either : f ∈ first i ++ Mux.part i added := by
      rw [← conserved i]
      exact List.mem_append_left _ part
    obtain before | since := List.mem_append.mp either
    · exact found i f before
    · obtain ⟨g, mem', rfl⟩ := List.mem_map.mp since
      exact queued g (List.mem_filter.mp mem').1

/-- What a reader of the standard gets behind `n` of what `m` has written. `added` was queued since,
`done` and `begun` were put on the wire, `begun` perhaps not to its end. -/
structure ReadAs (n m : ConnectNode) (added done begun : List (Option Output × Bytes))
    (messages : List Rfc6455.Frame) (sent left : Bytes) : Prop where
  queued : m.queued = n.queued ++ added.map (·.2)
  /-- each buffer in the order of its frames, none of them lost, none sent twice -/
  conserved : ∀ i, Mux.part i (done ++ begun) ++ (m.evBuffer i).whole =
    (n.evBuffer i).whole ++ Mux.part i added
  pings : ∀ f ∈ done ++ begun, f.1 = none → f.2 = pingFrame
  written : m.channel.written = n.channel.written ++ sent
  parsed : Rfc6455.parseFrames done.length sent = some (messages, left)
  said : List.Forall₂ Says (done.map (·.2)) messages
  one : begun.length ≤ 1
  part : left <+: (begun.map (·.2)).flatten

lemma audioAroundControl_inTurn :
    Along nodeStep SendsInTurn startedTranscription (audioAroundControl 12) := by
  refine ⟨⟨rfl, ?_⟩, ⟨rfl, ?_, by simp⟩, ⟨rfl, ?_⟩, trivial⟩
  all_goals
    intro i _ j _
    cases j <;> rfl

end NlsSdk.Transport
