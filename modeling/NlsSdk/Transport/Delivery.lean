import NlsSdk.Transport.Segmentation

/-!
# Frames handed over by `webSocketResponse`

A read takes what the socket gives and hands every complete frame to the
consumer, whatever the consumer does with it, unless the last bytes of a frame
come with the renewed read of the first round.
-/
namespace NlsSdk.Transport

open Library ServerFrame

/-- What the socket gives in a list of reads. -/
def bytesOf (reads : List (Option Bytes)) : Bytes := reads.flatMap fun read => read.getD []

@[simp] lemma bytesOf_nil : bytesOf [] = [] := rfl

@[simp] lemma bytesOf_cons (read : Option Bytes) (reads : List (Option Bytes)) :
    bytesOf (read :: reads) = read.getD [] ++ bytesOf reads := rfl

lemma bytesOf_append (reads more : List (Option Bytes)) :
    bytesOf (reads ++ more) = bytesOf reads ++ bytesOf more := List.flatMap_append

/-- A frame handed over: its type and payload. -/
abbrev Handed := OpCodeType × Bytes

/-- What is handed over of a frame is that frame. -/
def ServerFrame.HandedAs (f : ServerFrame) (e : Handed) : Prop :=
  e.1 = f.opCode ∧ (f.IsData → e.2 = f.payload)

/-- All bytes of a read go to the buffer or stay with the socket. -/
lemma Reader.nlsReceive_bytes (r : Reader) (isOpen : Bool) :
    ∃ more reads, (r.nlsReceive isOpen).1 =
        { r with readEvBuffer := r.readEvBuffer ++ more, reads := reads } ∧
      more ++ bytesOf reads = bytesOf r.reads ∧
      ((r.nlsReceive isOpen).2 = .ok 0 → more = []) := by
  unfold Reader.nlsReceive
  split
  · exact ⟨[], r.reads, by simp, rfl, by simp⟩
  split
  · exact ⟨[], r.reads, by simp, rfl, by simp⟩
  · rename_i reads failing
    exact ⟨[], reads, by simp, by rw [failing]; rfl, by simp⟩
  · rename_i bs reads given
    refine ⟨bs.take readBufferSize, _, rfl, ?_, fun empty => ?_⟩
    · rw [given, bytesOf_cons, Option.getD_some]
      split
      · rename_i all
        rw [← List.append_nil (bs.take readBufferSize), ← all, List.take_append_drop]
      · rw [bytesOf_cons, Option.getD_some, ← List.append_assoc, List.take_append_drop]
    · have none_ := Except.ok.inj empty
      apply List.eq_nil_of_length_eq_zero
      rw [List.length_take, Nat.min_comm]
      exact none_

section Loop

variable {τ : Type*} (deliver : τ → Bytes → WebSocketFrame → τ × Ret) (isOpen : τ → Bool)

/-- Note beside a consumer what was handed to it. -/
def noting (t : τ × List Handed) (buffer : Bytes) (frame : WebSocketFrame) :
    (τ × List Handed) × Ret :=
  let parsed := deliver t.1 buffer frame
  ((parsed.1, t.2 ++ [(frame.type, frame.payload buffer)]), parsed.2)

/-- A receiving side with its consumer, what was handed over, and what the last read returned. -/
structure Receiving (τ : Type*) where
  reader : Reader
  consumer : τ
  handed : List Handed := []
  ret : Ret := .ok 0

/-- The socket gives some more reads, and `webSocketResponse` is called. -/
def respond (s : Receiving τ) (reads : List (Option Bytes)) : Receiving τ :=
  let read := Reader.webSocketResponse (noting deliver) (fun t => isOpen t.1)
    { s.reader with reads := s.reader.reads ++ reads } (s.consumer, s.handed)
  ⟨read.1, read.2.1.1, read.2.1.2, read.2.2⟩

/-- A frame that is consumed in step and that shows its end by itself. -/
def Plain (f : ServerFrame) : Prop := f.InStep ∧ (f.payload ≠ [] ∨ f.opCode = .pong)

instance (f : ServerFrame) : Decidable (Plain f) := inferInstanceAs (Decidable (_ ∧ _))

/-- A frame can be told to be complete as soon as it is. -/
lemma Plain.ready_iff {f : ServerFrame} (plain : Plain f) {b rest : Bytes}
    (h : b <+: f.encode ++ rest) : f.Ready b ↔ f.encode <+: b := by
  constructor
  · intro ready
    apply List.prefix_of_prefix_length_le (List.prefix_append _ _) h
    rw [length_encode]
    exact ready.size_le plain.1
  · rintro ⟨more, rfl⟩
    apply ready_append plain.1
    rcases plain.2 with data | pong
    · exact Or.inl data
    · exact Or.inr (Or.inl pong)

/-- The frames `done` were handed over, and the bytes at hand are the first of the others. -/
structure AtHand (done todo : List ServerFrame) (coming : Bytes) (r : Reader)
    (handed : List Handed) : Prop where
  handed : ∃ es, List.Forall₂ HandedAs done es ∧ es.Sublist handed
  bytes : r.readEvBuffer ++ bytesOf r.reads ++ coming = encodeAll todo
  within : ∀ f later, todo = f :: later → f.Within r.webSocket r.wsType r.readEvBuffer

/-- No complete frame is at the head of a buffer. -/
def NoFrame (b : Bytes) : Prop := ∀ f : ServerFrame, ¬f.encode <+: b

variable {deliver isOpen} {done todo : List ServerFrame} {coming : Bytes} {r : Reader}
  {handed : List Handed} {t : τ × List Handed}

lemma AtHand.buffer (at_ : AtHand done todo coming r handed) :
    r.readEvBuffer <+: encodeAll todo := by
  rw [← at_.bytes, List.append_assoc]
  exact List.prefix_append _ _

/-- Only the first of the frames to come can be at the head of the buffer. -/
lemma AtHand.noFrame (at_ : AtHand done todo coming r handed)
    (not : ∀ f later, todo = f :: later → ¬f.encode <+: r.readEvBuffer) :
    NoFrame r.readEvBuffer := by
  intro g inside
  have ahead := inside.trans at_.buffer
  cases todo with
  | nil =>
    have none_ := List.prefix_nil.mp ahead
    simp [encode] at none_
  | cons f later =>
    have first : f.encode <+: encodeAll (f :: later) := List.prefix_append _ _
    apply not f later rfl
    rcases List.prefix_or_prefix_of_prefix ahead first with shorter | longer
    · have size := size_eq_of_isPrefix shorter
      have same : g.encode = f.encode := by
        apply shorter.eq_of_length
        rw [length_encode, length_encode, size]
      rw [← same]
      exact inside
    · exact longer.trans inside

/-- A read moves bytes of the stream from the socket to the buffer. -/
lemma AtHand.read (at_ : AtHand done todo coming r handed) (open_ : Bool) :
    AtHand done todo coming (r.nlsReceive open_).1 handed := by
  obtain ⟨more, reads, received, bytes, -⟩ := r.nlsReceive_bytes open_
  rw [received]
  refine ⟨at_.handed, ?_, fun f later is => (at_.within f later is).append more⟩
  have stream := at_.bytes
  rw [← bytes] at stream
  dsimp only
  rw [List.append_assoc r.readEvBuffer more]
  exact stream

/-- Rounds the loop may still take: one for each byte not consumed and each renewed attempt. -/
def work (r : Reader) (tryAgain : ℕ) : ℕ :=
  4 * (r.readEvBuffer ++ bytesOf r.reads).length + tryAgain

/-- A round keeps the frames in hand, and goes on only when it consumed or tried something; where
it stops without a failure no complete frame is left. -/
inductive Ends (frames : List ServerFrame) (coming : Bytes) (bound : ℕ) :
    Reader.Round (τ × List Handed) → Prop
  | stop {done todo : List ServerFrame} {r : Reader} {t : τ × List Handed} (ret : Ret)
    (split : frames = done ++ todo) (at_ : AtHand done todo coming r t.2)
    (ok : ∀ k, ret = .ok k → NoFrame r.readEvBuffer) : Ends frames coming bound (.stop r t ret)
  | again {done todo : List ServerFrame} {r : Reader} {t : τ × List Handed} (tryAgain : ℕ)
    (split : frames = done ++ todo) (at_ : AtHand done todo coming r t.2)
    (less : work r tryAgain < bound) : Ends frames coming bound (.again tryAgain r t)

/-- A complete frame is handed over and drained. -/
lemma frameDone_ends {f : ServerFrame} {later : List ServerFrame} {tryAgain : ℕ}
    {r' : Reader} {buffer : Bytes} {wsFrame : WebSocketFrame}
    (at_ : AtHand done (f :: later) coming r t.2) (plain : Plain f) (ready : f.Ready r.readEvBuffer)
    (memory : (encodeAll (f :: later)).length < 2 ^ 64)
    (faithful : f.Faithful (found r'.wsType buffer wsFrame))
    (idle : r'.webSocket.rStatus = .wsHeadSize) (kept : r'.readEvBuffer = r.readEvBuffer)
    (reads : r'.reads = r.reads) :
    Ends (done ++ f :: later) coming (work r tryAgain)
      (Reader.frameDone (noting deliver) r' t buffer wsFrame) := by
  obtain ⟨es, given, listed⟩ := at_.handed
  have handedAs : f.HandedAs ((Reader.delivered r'.wsType wsFrame).type,
      (Reader.delivered r'.wsType wsFrame).payload buffer) :=
    ⟨faithful.type, faithful.payload⟩
  have used : Reader.frameBytes r'.wsType (Reader.delivered r'.wsType wsFrame) = f.size :=
    faithful.bytes
  have whole : f.encode <+: r.readEvBuffer := (plain.ready_iff at_.buffer).mp ready
  obtain ⟨more, taken⟩ := whole
  have length : r.readEvBuffer.length = f.size + more.length := by
    rw [← taken, List.length_append, length_encode]
  have fits : r.readEvBuffer.length < 2 ^ 64 := lt_of_le_of_lt at_.buffer.length_le memory
  have left : (r.readEvBuffer.length + 2 ^ 64 - f.size) % 2 ^ 64 = more.length := by
    rw [length, show f.size + more.length + 2 ^ 64 - f.size = more.length + 2 ^ 64 by omega,
      Nat.add_mod_right, Nat.mod_eq_of_lt (by omega)]
  have two := f.two_le_headerSize
  have positive : 2 ≤ f.size := two.trans (Nat.le_add_right _ _)
  have behind : r'.readEvBuffer.drop f.size = more := by
    rw [kept, ← taken, ← length_encode, List.drop_left]
  have next : AtHand (done ++ [f]) later coming (r'.drain f.size)
      (t.2 ++ [((Reader.delivered r'.wsType wsFrame).type,
        (Reader.delivered r'.wsType wsFrame).payload buffer)]) := by
    refine ⟨⟨es ++ [_], List.rel_append given (List.Forall₂.cons handedAs List.Forall₂.nil),
      listed.append (List.Sublist.refl _)⟩, ?_, fun g _ _ => within_fresh g idle _ _⟩
    have bytes := at_.bytes
    rw [← taken, encodeAll_cons, List.append_assoc, List.append_assoc] at bytes
    rw [Reader.drain]
    dsimp only
    rw [behind, reads, List.append_assoc]
    exact List.append_cancel_left bytes
  simp only [Reader.frameDone, noting, used, kept, left]
  split
  · refine Ends.stop _ rfl ⟨⟨es, given, listed.trans (List.sublist_append_left _ _)⟩, ?_,
      fun g _ _ => within_fresh g idle _ _⟩ ?_
    · rw [kept, reads]
      exact at_.bytes
    · intro k ok
      cases ok
  · split
    · refine Ends.again _ (List.append_cons done f later) next ?_
      have shorter : work (r'.drain f.size) maxTryAgain + 4 * f.size =
          work r 0 + maxTryAgain := by
        rw [work, work, Reader.drain]
        dsimp only
        rw [behind, reads, List.length_append, List.length_append, length]
        omega
      have three : maxTryAgain = 3 := rfl
      rw [work, work] at shorter ⊢
      omega
    · rename_i nothing
      refine Ends.stop _ (List.append_cons done f later) next ?_
      intro k ok g inside
      have empty : more = [] := by
        apply List.eq_nil_of_length_eq_zero
        omega
      have none_ : (r'.drain f.size).readEvBuffer = [] := behind.trans empty
      rw [none_] at inside
      have := List.prefix_nil.mp inside
      simp [encode] at this

/-- Whatever the decoder is, a short header is waited for by reading again. -/
lemma frameShort_ends {tryAgain : ℕ} {eLoop : Bool}
    (at_ : AtHand done todo coming r t.2) (noFrame : NoFrame r.readEvBuffer)
    (inTime : eLoop = false → NoFrame (r.nlsReceive (isOpen t.1)).1.readEvBuffer) :
    Ends (done ++ todo) coming (work r tryAgain)
      (Reader.frameShort (fun t : τ × List Handed => isOpen t.1) tryAgain eLoop r t) := by
  have read := at_.read (isOpen t.1)
  obtain ⟨more, reads, received, bytes, -⟩ := r.nlsReceive_bytes (isOpen t.1)
  have same : work (r.nlsReceive (isOpen t.1)).1 tryAgain = work r tryAgain := by
    rw [work, work, received]
    dsimp only
    rw [List.append_assoc, bytes]
  simp only [Reader.frameShort]
  split
  · exact Ends.stop _ rfl at_ fun _ _ => noFrame
  rename_i some_
  split
  · refine Ends.stop _ rfl read fun k ok => ?_
    simp at ok
  split
  · refine Ends.again _ rfl read ?_
    rw [← same, work, work]
    omega
  · rename_i first
    exact Ends.stop _ rfl read fun _ _ => inTime (by simpa using first)

/-- What a round of the loop does to a stream of plain frames. -/
lemma frameRound_ends {tryAgain : ℕ} {eLoop : Bool} (plain : ∀ f ∈ todo, Plain f)
    (memory : (encodeAll todo).length < 2 ^ 64) (at_ : AtHand done todo coming r t.2)
    (inTime : eLoop = false → ∀ f : ServerFrame,
      f.encode <+: (r.nlsReceive (isOpen t.1)).1.readEvBuffer →
        f.Ready r.readEvBuffer ∨ f.headerSize < r.readEvBuffer.length) :
    Ends (done ++ todo) coming (work r tryAgain)
      (Reader.frameRound (noting deliver) (fun t : τ × List Handed => isOpen t.1) tryAgain eLoop
        r t) := by
  unfold Reader.frameRound
  split
  · rename_i empty
    refine Ends.stop _ rfl at_ fun k ok g inside => ?_
    rw [empty] at inside
    have := List.prefix_nil.mp inside
    simp [encode] at this
  rename_i some_
  cases todo with
  | nil => exact absurd (List.prefix_nil.mp at_.buffer) some_
  | cons f later =>
    have within := at_.within f later rfl
    have plainly := plain f (by simp)
    by_cases ready : f.Ready r.readEvBuffer
    · obtain ⟨buffer, wsFrame, result, status, faithful⟩ :=
        receive_ready within at_.buffer plainly.1 ready
      simp only [result]
      exact frameDone_ends at_ plainly ready memory faithful status rfl rfl
    · obtain ⟨asks, still⟩ := receive_waits within at_.buffer ready
      have noFrame : NoFrame r.readEvBuffer := by
        refine at_.noFrame fun g rest is => ?_
        obtain ⟨rfl, -⟩ := List.cons.inj is
        exact fun inside => ready ((plainly.ready_iff at_.buffer).mpr inside)
      have next : AtHand done (f :: later) coming
          { r with
            webSocket := (r.webSocket.receiveFullWebSocketFrame r.readEvBuffer r.wsType).webSocket
            wsType := (r.webSocket.receiveFullWebSocketFrame r.readEvBuffer r.wsType).wsType }
          t.2 := by
        refine ⟨at_.handed, at_.bytes, fun g rest is => ?_⟩
        obtain ⟨rfl, -⟩ := List.cons.inj is
        exact still
      rcases asks with ⟨short, unread⟩ | content
      · have again (r' : Reader) (buffer : r'.readEvBuffer = r.readEvBuffer)
            (reads : r'.reads = r.reads) :
            (r'.nlsReceive (isOpen t.1)).1.readEvBuffer =
              (r.nlsReceive (isOpen t.1)).1.readEvBuffer := by
          unfold Reader.nlsReceive
          rw [reads]
          split
          · exact buffer
          · split
            · exact buffer
            · exact buffer
            · exact congrArg (· ++ _) buffer
        have late (first : eLoop = false) :
            NoFrame (r.nlsReceive (isOpen t.1)).1.readEvBuffer := by
          refine (at_.read (isOpen t.1)).noFrame fun g rest is inside => ?_
          obtain ⟨rfl, -⟩ := List.cons.inj is
          rcases inTime first f inside with known | known
          · exact ready known
          · omega
        have waits : Ends (done ++ f :: later) coming (work r tryAgain)
            (Reader.frameShort (fun t : τ × List Handed => isOpen t.1) tryAgain eLoop
              { r with
                webSocket :=
                  (r.webSocket.receiveFullWebSocketFrame r.readEvBuffer r.wsType).webSocket
                wsType := (r.webSocket.receiveFullWebSocketFrame r.readEvBuffer r.wsType).wsType }
              t) := by
          apply frameShort_ends next noFrame
          intro first
          rw [again]
          · exact late first
          · rfl
          · rfl
        rcases short with size | body
        · simp only [size]
          exact waits
        · simp only [body]
          exact waits
      · simp only [content]
        exact Ends.stop _ rfl next fun _ _ => noFrame

/-- The frames of a stream are in hand, and no complete one is left unless a read failed. -/
def InHand (frames : List ServerFrame) (coming : Bytes) (r : Reader) (handed : List Handed)
    (ret : Ret) : Prop :=
  ∃ done todo, frames = done ++ todo ∧ AtHand done todo coming r handed ∧
    ∀ k, ret = .ok k → NoFrame r.readEvBuffer

/-- Every round keeps the frames in hand, and there are rounds enough to end the loop. -/
theorem frameLoop_inHand {frames : List ServerFrame} {fuel tryAgain : ℕ} {eLoop : Bool}
    (plain : ∀ f ∈ frames, Plain f) (memory : (encodeAll frames).length < 2 ^ 64)
    (split : frames = done ++ todo) (at_ : AtHand done todo coming r t.2)
    (enough : work r tryAgain < fuel)
    (inTime : eLoop = false → ∀ f : ServerFrame,
      f.encode <+: (r.nlsReceive (isOpen t.1)).1.readEvBuffer →
        f.Ready r.readEvBuffer ∨ f.headerSize < r.readEvBuffer.length) :
    let read := Reader.frameLoop (noting deliver) (fun t => isOpen t.1) fuel tryAgain eLoop r t
    InHand frames coming read.1 read.2.1.2 read.2.2 := by
  induction fuel generalizing tryAgain eLoop done todo r t with
  | zero => omega
  | succ fuel ih =>
    have plainly (f : ServerFrame) (hf : f ∈ todo) : Plain f := by
      apply plain
      rw [split]
      exact List.mem_append_right done hf
    have fits : (encodeAll todo).length < 2 ^ 64 := by
      rw [split, encodeAll_append, List.length_append] at memory
      omega
    have round : Ends (done ++ todo) coming (work r tryAgain)
        (Reader.frameRound (noting deliver) (fun t : τ × List Handed => isOpen t.1) tryAgain eLoop
          r t) := frameRound_ends plainly fits at_ inTime
    rw [← split] at round
    dsimp only
    rw [Reader.frameLoop]
    generalize Reader.frameRound (noting deliver) (fun t : τ × List Handed => isOpen t.1) tryAgain
      eLoop r t = ended at round
    cases round with
    | stop ret split at_ ok => exact ⟨_, _, split, at_, ok⟩
    | again tryAgain split at_ less =>
      apply ih split at_ (by omega)
      intro first
      simp at first

/-- The read does not complete the frame whose header was still short in the first round, and a
read that gives nothing does not follow a failed one. -/
def InTime (isOpen : τ → Bool) (s : Receiving τ) (reads : List (Option Bytes)) : Prop :=
  let r := { s.reader with reads := s.reader.reads ++ reads }
  let first := r.nlsReceive (isOpen s.consumer)
  let second := first.1.nlsReceive (isOpen s.consumer)
  (first.2 = .ok 0 → ∃ k, s.ret = .ok k) ∧
    ∀ f : ServerFrame, f.encode <+: second.1.readEvBuffer →
      f.Ready first.1.readEvBuffer ∨ f.headerSize < first.1.readEvBuffer.length

/-- One call keeps the frames of the stream in hand. -/
theorem respond_inHand {frames : List ServerFrame} {s : Receiving τ} {reads : List (Option Bytes)}
    (plain : ∀ f ∈ frames, Plain f) (memory : (encodeAll frames).length < 2 ^ 64)
    (inHand : InHand frames (bytesOf reads ++ coming) s.reader s.handed s.ret)
    (inTime : InTime isOpen s reads) :
    InHand frames coming (respond deliver isOpen s reads).reader
      (respond deliver isOpen s reads).handed (respond deliver isOpen s reads).ret := by
  obtain ⟨done, todo, split, at_, ok⟩ := inHand
  obtain ⟨after, late⟩ := inTime
  have given : AtHand done todo coming { s.reader with reads := s.reader.reads ++ reads }
      s.handed := by
    refine ⟨at_.handed, ?_, at_.within⟩
    rw [bytesOf_append, ← List.append_assoc, List.append_assoc]
    exact at_.bytes
  have received := given.read (isOpen s.consumer)
  obtain ⟨more, left, reader, -, nothing⟩ := Reader.nlsReceive_bytes
    { s.reader with reads := s.reader.reads ++ reads } (isOpen s.consumer)
  simp only [respond, Reader.webSocketResponse]
  split
  · refine ⟨done, todo, split, received, fun k ret => ?_⟩
    simp at ret
  · rename_i zero
    refine ⟨done, todo, split, received, fun k _ => ?_⟩
    obtain ⟨k, before⟩ := after zero
    rw [reader, nothing zero]
    dsimp only
    rw [List.append_nil]
    exact ok k before
  · apply frameLoop_inHand plain memory split received
    · rw [work, Reader.rounds, List.length_append, bytesOf, List.length_flatMap]
      have three : maxTryAgain = 3 := rfl
      omega
    · exact fun _ => late

end Loop

/-- What was given in the calls is the frames handed over, then the buffer with no complete frame
at its head, then what the socket still holds. -/
structure Delivered {τ : Type*} (frames : List ServerFrame) (given : Bytes) (s : Receiving τ) :
    Prop where
  noFrame : NoFrame s.reader.readEvBuffer
  handed : ∃ done es, done <+: frames ∧ List.Forall₂ HandedAs done es ∧ es.Sublist s.handed ∧
    given = encodeAll done ++ s.reader.readEvBuffer ++ bytesOf s.reader.reads

/-- A consumer that takes every frame. -/
def taking (t : Unit) (_ : Bytes) (_ : WebSocketFrame) : Unit × Ret := (t, .ok 0)

lemma headerSize_lt {f : ServerFrame} {b b' : Bytes} (inside : f.encode <+: b')
    (read : b'.length ≤ b.length) (not : b.length ≠ 2 ∧ b.length ≠ 4 ∧ b.length ≠ 10) :
    f.headerSize < b.length := by
  have length := inside.length_le
  rw [length_encode, ServerFrame.size] at length
  rw [headerSize] at length ⊢
  cases kind : f.lengthClass with
  | seven =>
    rw [kind, LengthClass.headerSize] at length
    rw [LengthClass.headerSize]
    omega
  | sixteen =>
    rw [kind, LengthClass.headerSize] at length
    rw [LengthClass.headerSize]
    omega
  | sixtyFour =>
    rw [kind, LengthClass.headerSize] at length
    rw [LengthClass.headerSize]
    omega

end NlsSdk.Transport
