import NlsSdk.Library.Run
import NlsSdk.Transport.ServerFrame

/-!
# Frames found in a byte stream

The decoder is run on the read buffer, and what it finds is drained, until it
asks for more. However the stream of the server is cut into appends, the frames
that are consumed in step come out of it one by one.
-/
namespace NlsSdk.Transport

open Library ServerFrame

/-- Run the decoder on the buffer and drain `headerSize + length` bytes, as often as it finds a
frame. -/
def decodeAll : ℕ → Reader → Reader × List Found
  | 0, r => (r, [])
  | fuel + 1, r =>
    let received := r.webSocket.receiveFullWebSocketFrame r.readEvBuffer r.wsType
    let r := { r with webSocket := received.webSocket, wsType := received.wsType }
    match received.result with
    | .error _ => (r, [])
    | .ok (buffer, wsFrame) =>
      let e := found r.wsType buffer wsFrame
      let later := decodeAll fuel (r.drain e.bytes)
      (later.1, e :: later.2)

/-- A receiving side with the frames found so far. -/
structure Decoding where
  reader : Reader
  frames : List Found := []
  deriving DecidableEq

/-- Append bytes to the read buffer, then decode what is complete; every frame takes a byte. -/
def feed (s : Decoding) (chunk : Bytes) : Decoding :=
  let r := { s.reader with readEvBuffer := s.reader.readEvBuffer ++ chunk }
  let decoded := decodeAll (r.readEvBuffer.length + 1) r
  ⟨decoded.1, s.frames ++ decoded.2⟩

/-- The bytes of a sequence of frames. -/
def encodeAll (frames : List ServerFrame) : Bytes := frames.flatMap encode

@[simp] lemma encodeAll_nil : encodeAll [] = [] := rfl

@[simp] lemma encodeAll_cons (f : ServerFrame) (fs : List ServerFrame) :
    encodeAll (f :: fs) = f.encode ++ encodeAll fs := rfl

lemma encodeAll_append (fs gs : List ServerFrame) :
    encodeAll (fs ++ gs) = encodeAll fs ++ encodeAll gs := List.flatMap_append

namespace Reader

/-- The receiving side has nothing of any frame. -/
structure Idle (r : Reader) : Prop where
  rStatus : r.webSocket.rStatus = .wsHeadSize
  readEvBuffer : r.readEvBuffer = []

/-- The receiving side is at some stage of this frame, and waits for more of it. -/
structure Waits (r : Reader) (f : ServerFrame) : Prop where
  within : f.Within r.webSocket r.wsType r.readEvBuffer
  waits : ¬f.Ready r.readEvBuffer

end Reader

/-- A stream of frames that are consumed in step, then of a frame `next` that is not, or not
complete. -/
structure Stream where
  frames : List ServerFrame
  next : ServerFrame
  tail : Bytes
  inStep : ∀ f ∈ frames, f.InStep
  onward : ∃ rest, tail <+: next.encode ++ rest

namespace Stream

variable (σ : Stream)

def bytes : Bytes := encodeAll σ.frames ++ σ.tail

/-- The frame behind a part of the frames. -/
def facing (todo : List ServerFrame) : ServerFrame := todo.headD σ.next

/-- Some of the frames were found, and the rest of the stream is at hand or still to come. -/
structure Split (done todo : List ServerFrame) (s : Decoding) (coming : Bytes) : Prop where
  frames : σ.frames = done ++ todo
  found : List.Forall₂ Faithful done s.frames
  bytes : s.reader.readEvBuffer ++ coming = encodeAll todo ++ σ.tail
  waits : s.reader.Waits (σ.facing todo)

/-- The decoder took `next` for a frame of another size. -/
def Derailed (s : Decoding) : Prop :=
  σ.next.Ready σ.tail ∧
    ∃ found e, List.Forall₂ Faithful σ.frames found ∧ ¬σ.next.Faithful e ∧ found ++ [e] <+: s.frames

end Stream

/-! ## Decoding what is at hand -/

/-- A PONG with data is taken for its header alone. -/
lemma receive_derails {f : ServerFrame} {ws : WebSocketTcp} {w : WebSocketHeaderType}
    {b rest : Bytes} (within : f.Within ws w b) (h : b <+: f.encode ++ rest)
    (pong : f.opCode = .pong) (data : f.payload ≠ []) (two : 2 ≤ b.length) :
    let received := ws.receiveFullWebSocketFrame b w
    ∃ buffer wsFrame, received.result = .ok (buffer, wsFrame) ∧
      ¬f.Faithful (found received.wsType buffer wsFrame) := by
  obtain ⟨result, -, head⟩ := receive_pong within h pong two
  refine ⟨b, {}, result, fun faithful => ?_⟩
  have size := congrArg WebSocketHeaderType.headerSize head
  replace size : (ws.receiveFullWebSocketFrame b w).wsType.headerSize = f.headerSize := size
  have longer : 0 < f.payload.length := List.length_pos_of_ne_nil data
  have taken := faithful.bytes
  have bytes : (found (ws.receiveFullWebSocketFrame b w).wsType b {}).bytes ≤ f.headerSize := by
    rw [found, Reader.frameBytes, ← size, Reader.delivered]
    split
    · exact (Nat.mod_le _ _).trans (Nat.le_of_eq (Nat.zero_add _))
    · exact (Nat.mod_le _ _).trans (Nat.le_of_eq (Nat.zero_add _))
  rw [taken, ServerFrame.size] at bytes
  omega

lemma decodeAll_waits {r : Reader} {f : ServerFrame} {rest : Bytes} (waits : r.Waits f)
    (h : r.readEvBuffer <+: f.encode ++ rest) (fuel : ℕ) :
    (decodeAll (fuel + 1) r).2 = [] ∧
      (decodeAll (fuel + 1) r).1.readEvBuffer = r.readEvBuffer ∧
      (decodeAll (fuel + 1) r).1.Waits f := by
  obtain ⟨asks, still⟩ := receive_waits waits.within h waits.waits
  have stops : ∃ e, (r.webSocket.receiveFullWebSocketFrame r.readEvBuffer r.wsType).result =
      .error e := by
    rcases asks with ⟨size | body, -⟩ | content
    · exact ⟨_, size⟩
    · exact ⟨_, body⟩
    · exact ⟨_, content⟩
  obtain ⟨e, stops⟩ := stops
  simp only [decodeAll, stops]
  exact ⟨trivial, trivial, still, waits.waits⟩

lemma decodeAll_ready {r : Reader} {f : ServerFrame} {rest : Bytes}
    (within : f.Within r.webSocket r.wsType r.readEvBuffer)
    (h : r.readEvBuffer <+: f.encode ++ rest) (inStep : f.InStep)
    (ready : f.Ready r.readEvBuffer) (fuel : ℕ) :
    ∃ e r', f.Faithful e ∧ r'.webSocket.rStatus = .wsHeadSize ∧
      r'.readEvBuffer = r.readEvBuffer.drop f.size ∧
      decodeAll (fuel + 1) r = ((decodeAll fuel r').1, e :: (decodeAll fuel r').2) := by
  obtain ⟨buffer, wsFrame, result, status, faithful⟩ := receive_ready within h inStep ready
  simp only [decodeAll, result]
  refine ⟨_, _, faithful, ?_, ?_, rfl⟩
  · exact status
  · have bytes := faithful.bytes
    rw [← bytes]
    rfl

/-- A complete frame is there as a whole. -/
lemma ServerFrame.Ready.size_le {f : ServerFrame} {b : Bytes} (ready : f.Ready b)
    (inStep : f.InStep) : f.size ≤ b.length := by
  rcases ready with ⟨pong, two⟩ | ⟨-, -, -, enough⟩
  · rcases inStep with data | close | ⟨-, empty⟩
    · simp [IsData, pong] at data
    · simp [pong] at close
    · have seven := f.control (Or.inr (Or.inr pong))
      rw [ServerFrame.size, empty, headerSize, seven]
      exact two
  · exact enough

variable {σ : Stream}

/-- Decoding what is at hand of a stream finds the frames in turn. -/
theorem decodeAll_stream {todo : List ServerFrame} {r : Reader} {coming : Bytes} {fuel : ℕ}
    (part : ∀ f ∈ todo, f ∈ σ.frames)
    (wedged : ∀ b, b <+: σ.tail → σ.next.Ready b → σ.next.opCode = .pong ∧ σ.next.payload ≠ [])
    (within : (σ.facing todo).Within r.webSocket r.wsType r.readEvBuffer)
    (bytes : r.readEvBuffer ++ coming = encodeAll todo ++ σ.tail)
    (enough : r.readEvBuffer.length < fuel) :
    (∃ done later, todo = done ++ later ∧ List.Forall₂ Faithful done (decodeAll fuel r).2 ∧
        (decodeAll fuel r).1.readEvBuffer ++ coming = encodeAll later ++ σ.tail ∧
        (decodeAll fuel r).1.Waits (σ.facing later)) ∨
      (σ.next.Ready σ.tail ∧ ∃ found e, List.Forall₂ Faithful todo found ∧ ¬σ.next.Faithful e ∧
        found ++ [e] <+: (decodeAll fuel r).2) := by
  induction todo generalizing r fuel with
  | nil =>
    obtain ⟨fuel, rfl⟩ : ∃ k, fuel = k + 1 := ⟨fuel - 1, by omega⟩
    obtain ⟨rest, onward⟩ := σ.onward
    have at_ : r.readEvBuffer <+: σ.tail := ⟨coming, bytes⟩
    by_cases ready : σ.next.Ready r.readEvBuffer
    · right
      obtain ⟨pong, data⟩ := wedged _ at_ ready
      have two : 2 ≤ r.readEvBuffer.length := by
        rcases ready with ⟨-, two⟩ | ⟨other, -⟩
        · exact two
        · exact absurd pong other
      obtain ⟨buffer, wsFrame, result, unfaithful⟩ :=
        receive_derails within (at_.trans onward) pong data two
      refine ⟨Or.inl ⟨pong, two.trans at_.length_le⟩, [], _, List.Forall₂.nil, unfaithful, ?_⟩
      simp only [decodeAll, result, List.nil_append]
      exact ⟨_, rfl⟩
    · left
      obtain ⟨none, kept, waits⟩ := decodeAll_waits ⟨within, ready⟩ (at_.trans onward) fuel
      refine ⟨[], [], rfl, ?_, ?_, waits⟩
      · rw [none]
        exact List.Forall₂.nil
      · rw [kept]
        exact bytes
  | cons f todo ih =>
    obtain ⟨fuel, rfl⟩ : ∃ k, fuel = k + 1 := ⟨fuel - 1, by omega⟩
    have inStep := σ.inStep f (part f (by simp))
    replace within : f.Within r.webSocket r.wsType r.readEvBuffer := within
    have at_ : r.readEvBuffer <+: f.encode ++ (encodeAll todo ++ σ.tail) := by
      rw [← List.append_assoc]
      exact ⟨coming, bytes⟩
    by_cases ready : f.Ready r.readEvBuffer
    · obtain ⟨e, r', faithful, idle, drained, decodes⟩ :=
        decodeAll_ready within at_ inStep ready fuel
      obtain ⟨more, taken⟩ : f.encode <+: r.readEvBuffer := by
        apply List.prefix_of_prefix_length_le (List.prefix_append _ _) at_
        rw [length_encode]
        exact ready.size_le inStep
      have behind : r'.readEvBuffer = more := by
        rw [drained, ← taken, ← length_encode, List.drop_left]
      have two := f.two_le_headerSize
      have shorter : r'.readEvBuffer.length < fuel := by
        rw [← taken, List.length_append, length_encode, ServerFrame.size] at enough
        rw [behind]
        omega
      have bytes' : r'.readEvBuffer ++ coming = encodeAll todo ++ σ.tail := by
        rw [behind]
        rw [← taken, encodeAll_cons, List.append_assoc, List.append_assoc] at bytes
        exact List.append_cancel_left bytes
      rw [decodes]
      rcases ih (fun g hg => part g (by simp [hg])) (within_fresh _ idle _ _) bytes' shorter with
        ⟨done, later, rfl, found, left, waits⟩ | ⟨ready, found, e', ahead, unfaithful, starts⟩
      · exact Or.inl ⟨f :: done, later, rfl, List.Forall₂.cons faithful found, left, waits⟩
      · refine Or.inr ⟨ready, e :: found, e', List.Forall₂.cons faithful ahead, unfaithful, ?_⟩
        rw [List.cons_append]
        exact List.prefix_cons_inj e |>.mpr starts
    · left
      obtain ⟨none, kept, waits⟩ := decodeAll_waits ⟨within, ready⟩ at_ fuel
      refine ⟨[], f :: todo, rfl, ?_, ?_, waits⟩
      · rw [none]
        exact List.Forall₂.nil
      · rw [kept]
        exact bytes

/-! ## Whole streams -/

lemma not_ready_nil (f : ServerFrame) : ¬f.Ready [] := by
  simp [Ready]

namespace Stream

/-- An append moves a stream on, or shows that it was derailed. -/
lemma Split.feed {done todo : List ServerFrame} {s : Decoding} {chunk coming : Bytes}
    (wedged : ∀ b, b <+: σ.tail → σ.next.Ready b → σ.next.opCode = .pong ∧ σ.next.payload ≠ [])
    (split : σ.Split done todo s (chunk ++ coming)) :
    (∃ done' later, σ.Split done' later (feed s chunk) coming) ∨ σ.Derailed (feed s chunk) := by
  obtain ⟨frames, found, bytes, waits⟩ := split
  have part (f : ServerFrame) (hf : f ∈ todo) : f ∈ σ.frames := by
    rw [frames]
    exact List.mem_append_right done hf
  rw [← List.append_assoc] at bytes
  have decoded := decodeAll_stream (r := { s.reader with
      readEvBuffer := s.reader.readEvBuffer ++ chunk }) part wedged (waits.within.append chunk)
    bytes (Nat.lt_succ_self _)
  rcases decoded with ⟨now, later, rfl, more, left, waits⟩ | ⟨ready, more, e, ahead, wrong, starts⟩
  · refine Or.inl ⟨done ++ now, later, ?_, ?_, left, waits⟩
    · rw [frames, List.append_assoc]
    · exact List.rel_append found more
  · refine Or.inr ⟨ready, s.frames ++ more, e, ?_, wrong, ?_⟩
    · rw [frames]
      exact List.rel_append found ahead
    · rw [List.append_assoc]
      exact (List.prefix_append_right_inj _).mpr starts

lemma Derailed.feed {s : Decoding} (derailed : σ.Derailed s) (chunk : Bytes) :
    σ.Derailed (feed s chunk) := by
  obtain ⟨ready, found, e, ahead, wrong, starts⟩ := derailed
  exact ⟨ready, found, e, ahead, wrong, starts.trans (List.prefix_append _ _)⟩

/-- However a stream is cut, its frames are found in turn up to where it is derailed. -/
theorem run_feed (σ : Stream)
    (wedged : ∀ b, b <+: σ.tail → σ.next.Ready b → σ.next.opCode = .pong ∧ σ.next.payload ≠ [])
    {r : Reader} (idle : r.Idle) {chunks : List Bytes} (cut : chunks.flatten = σ.bytes) :
    (∃ done todo, σ.Split done todo (run feed ⟨r, []⟩ chunks) []) ∨
      σ.Derailed (run feed ⟨r, []⟩ chunks) := by
  have go (chunks : List Bytes) (s : Decoding)
      (at_ : (∃ done todo, σ.Split done todo s chunks.flatten) ∨ σ.Derailed s) :
      (∃ done todo, σ.Split done todo (run feed s chunks) []) ∨
        σ.Derailed (run feed s chunks) := by
    induction chunks generalizing s with
    | nil => exact at_
    | cons chunk chunks ih =>
      apply ih
      rcases at_ with ⟨done, todo, split⟩ | derailed
      · exact split.feed wedged
      · exact Or.inr (derailed.feed chunk)
  refine go chunks _ (Or.inl ⟨[], σ.frames, rfl, List.Forall₂.nil, ?_, ?_, ?_⟩)
  · rw [cut, idle.readEvBuffer]
    rfl
  · exact within_fresh _ idle.rStatus _ _
  · rw [idle.readEvBuffer]
    exact not_ready_nil _

end Stream

/-! ## Frames of data -/

/-- A TEXT or BINARY frame with something in it. -/
def Message (f : ServerFrame) : Prop :=
  (f.opCode = .textFrame ∨ f.opCode = .binaryFrame) ∧ f.payload ≠ []

instance (f : ServerFrame) : Decidable (Message f) := inferInstanceAs (Decidable (_ ∧ _))

lemma Message.isData {f : ServerFrame} (message : Message f) : f.IsData := by
  rcases message.1 with text | binary
  · exact Or.inl text
  · exact Or.inr (Or.inl binary)

lemma Message.ready_iff {f : ServerFrame} (message : Message f) (b : Bytes) :
    f.Ready b ↔ f.size ≤ b.length := by
  have pong : f.opCode ≠ .pong := by
    rcases message.1 with text | binary <;> simp [*]
  have ping : f.opCode ≠ .ping := by
    rcases message.1 with text | binary <;> simp [*]
  have longer : 0 < f.payload.length := List.length_pos_of_ne_nil message.2
  simp only [Ready, pong, ping, false_and, false_or, ne_eq, not_false_eq_true, true_and]
  constructor
  · exact fun ready => ready.2
  · intro enough
    refine ⟨?_, enough⟩
    rw [ServerFrame.size] at enough
    omega

lemma payloads_of_faithful {frames : List ServerFrame} {found : List Found}
    (faithful : List.Forall₂ Faithful frames found) (data : ∀ f ∈ frames, f.IsData) :
    found.map Found.payload = frames.map ServerFrame.payload := by
  induction faithful with
  | nil => rfl
  | cons first _ ih =>
    rw [List.map_cons, List.map_cons, ih fun f hf => data f (by simp [hf]),
      first.payload (data _ (by simp))]

/-- However a stream of messages is cut into appends, what is found are their payloads in turn,
and what is left is the beginning of the message that is not complete. -/
theorem segmentation_independence (frames : List ServerFrame) (next : ServerFrame) (tail : Bytes)
    (r : Reader) (chunks : List Bytes) (messages : ∀ f ∈ frames, Message f) (last : Message next)
    (unfinished : tail <+: next.encode) (proper : tail ≠ next.encode) (idle : r.Idle)
    (cut : chunks.flatten = encodeAll frames ++ tail) :
    (run feed ⟨r, []⟩ chunks).frames.map Found.payload = frames.map ServerFrame.payload ∧
      (run feed ⟨r, []⟩ chunks).reader.readEvBuffer = tail := by
  let σ : Stream := ⟨frames, next, tail, fun f hf => Or.inl (messages f hf).isData, [], by simpa⟩
  have short : tail.length < next.size := by
    rw [← length_encode]
    apply lt_of_le_of_ne unfinished.length_le
    intro same
    exact proper (unfinished.eq_of_length same)
  have never (b : Bytes) (at_ : b <+: tail) : ¬next.Ready b := by
    rw [last.ready_iff]
    have := at_.length_le
    omega
  rcases σ.run_feed (fun b at_ ready => absurd ready (never b at_)) idle cut with
    ⟨done, todo, split, found, bytes, waits⟩ | derailed
  · rw [List.append_nil] at bytes
    replace split : frames = done ++ todo := split
    -- a message that is there as a whole would have been found
    obtain rfl : todo = [] := by
      cases todo with
      | nil => rfl
      | cons f later =>
        have message : Message f := messages f (by rw [split]; simp)
        exfalso
        apply waits.waits
        rw [bytes]
        apply (message.ready_iff _).mpr
        rw [encodeAll_cons, List.append_assoc, List.length_append, length_encode]
        omega
    rw [List.append_nil] at split
    subst split
    exact ⟨payloads_of_faithful found fun f hf => (messages f hf).isData, bytes⟩
  · exact absurd derailed.1 (never tail List.prefix_rfl)

/-- An unmasked final frame of the shortest kind. -/
def shortFrame (first : UInt8) (payload : Bytes) (fits : payload.length < 126) : ServerFrame where
  first := first
  lengthClass := .seven
  payload := payload
  fits := fits
  control _ := rfl

theorem segmentation_independence_cut :
    (run feed ⟨{}, []⟩ [[0x81], [1, 65, 0x82, 2], [66, 67, 0x81]]).frames.map Found.payload =
        [[65], [66, 67]] ∧
      (run feed ⟨{}, []⟩ [[0x81], [1, 65, 0x82, 2], [66, 67, 0x81]]).reader.readEvBuffer =
        [0x81] := by
  apply segmentation_independence [shortFrame 0x81 [65] (by decide), shortFrame 0x82 [66, 67] (by decide)]
    (shortFrame 0x81 [68] (by decide))
  · decide
  · decide
  · decide
  · decide
  · exact ⟨rfl, rfl⟩
  · decide

/-! ## Frames of any opcode -/

/-- The opcodes of the protocol. -/
def Known (f : ServerFrame) : Prop := f.IsData ∨ f.opCode.IsControl

instance (f : ServerFrame) : Decidable (Known f) := inferInstanceAs (Decidable (_ ∨ _))

/-- Every frame was consumed in as many bytes as it has, and its data was handed on unchanged. -/
def ConsumedInTurn (frames : List ServerFrame) (s : Decoding) : Prop :=
  List.Forall₂ Faithful frames s.frames ∧ s.reader.readEvBuffer = []

/-- No PING, no PONG with data, and no empty frame but a PONG at the end. -/
def Digestible (frames : List ServerFrame) : Prop :=
  (∀ f ∈ frames, f.InStep) ∧
    ∀ f, frames.getLast? = some f → f.payload ≠ [] ∨ f.opCode = .pong

lemma split_first {α : Type*} {p : α → Prop} [DecidablePred p] {l : List α}
    (h : ¬∀ a ∈ l, p a) : ∃ xs a ys, l = xs ++ a :: ys ∧ (∀ x ∈ xs, p x) ∧ ¬p a := by
  induction l with
  | nil => simp at h
  | cons b l ih =>
    by_cases hb : p b
    · obtain ⟨xs, a, ys, rfl, before, fails⟩ := ih (fun all => h (by simpa [hb] using all))
      exact ⟨b :: xs, a, ys, rfl, by simpa [hb] using before, fails⟩
    · exact ⟨[], b, l, rfl, by simp, hb⟩

/-- A frame that is never taken for what it is stands in the way of all others. -/
lemma Stream.not_faithful (σ : Stream) (more : List ServerFrame) {frames : List ServerFrame}
    (wedged : ∀ b, b <+: σ.tail → σ.next.Ready b → σ.next.opCode = .pong ∧ σ.next.payload ≠ [])
    (are : frames = σ.frames ++ σ.next :: more) {r : Reader} (idle : r.Idle) {chunks : List Bytes}
    (cut : chunks.flatten = σ.bytes) :
    ¬List.Forall₂ Faithful frames (run feed ⟨r, []⟩ chunks).frames := by
  intro faithful
  have length := faithful.length_eq
  rw [are, List.length_append, List.length_cons] at length
  rcases σ.run_feed wedged idle cut with
    ⟨done, todo, split, found, -, -⟩ | ⟨-, found, e, ahead, wrong, rest, starts⟩
  · have part := congrArg List.length split
    have same := found.length_eq
    rw [List.length_append] at part
    omega
  · rw [are, ← starts, List.append_assoc] at faithful
    have behind := List.forall₂_drop σ.frames.length faithful
    rw [List.drop_left, ahead.length_eq, List.drop_left] at behind
    cases behind with
    | cons now _ => exact wrong now

/-- The decoder can tell that a frame is complete by its payload, or by what follows. -/
lemma ready_append {f : ServerFrame} {more : Bytes} (inStep : f.InStep)
    (onward : f.payload ≠ [] ∨ f.opCode = .pong ∨ more ≠ []) : f.Ready (f.encode ++ more) := by
  have two := f.two_le_headerSize
  by_cases pong : f.opCode = .pong
  · refine Or.inl ⟨pong, ?_⟩
    rw [List.length_append, length_encode, ServerFrame.size]
    omega
  · have ping : f.opCode ≠ .ping := by
      rcases inStep with (text | binary | more) | close | ⟨is, -⟩ <;> simp [*]
    refine Or.inr ⟨pong, ping, ?_, ?_⟩
    · rw [List.length_append, length_encode, ServerFrame.size]
      rcases onward with data | is | further
      · have := List.length_pos_of_ne_nil data
        omega
      · exact absurd is pong
      · have := List.length_pos_of_ne_nil further
        omega
    · rw [List.length_append, length_encode]
      omega

end NlsSdk.Transport
