import NlsSdk.Transport.WebSocketTcp

/-!
# The receiving side of a node

Bytes move from the socket into `_readEvBuffer` and from there, frame by frame,
to whoever consumes the frames. The consumer is a parameter, so that the same
loop serves the node's own `parseFrame` and statements about the frames alone.
-/
namespace NlsSdk.Transport

def readBufferSize : ℕ := 30720

def maxTryAgain : ℕ := 3

/-- The decoder, what it has not consumed yet, and what the socket will give: an empty read
stands for a socket with nothing to read, `none` for a failing one. -/
structure Reader where
  webSocket : WebSocketTcp := {}
  wsType : WebSocketHeaderType := {}
  readEvBuffer : Bytes := []
  reads : List (Option Bytes) := []
  deriving DecidableEq

namespace Reader

/-- `nlsReceive`: at most `readBufferSize` bytes are appended to the buffer. -/
def nlsReceive (isOpen : Bool) (r : Reader) : Reader × Ret :=
  if !isOpen then (r, .error .nlsReceiveFailed)
  else match r.reads with
    | [] => (r, .ok 0)
    | none :: reads => ({ r with reads := reads }, .error .nlsReceiveFailed)
    | some bs :: reads =>
      let rest := bs.drop readBufferSize
      ({ r with
          readEvBuffer := r.readEvBuffer ++ bs.take readBufferSize
          reads := if rest = [] then reads else some rest :: reads },
        .ok (min bs.length readBufferSize))

def drain (n : ℕ) (r : Reader) : Reader := { r with readEvBuffer := r.readEvBuffer.drop n }

/-- The answer to the upgrade request; it leaves the buffer only when it is accepted. -/
def gatewayResponse (isOpen : Bool) (r : Reader) : Reader × Ret :=
  let received := r.nlsReceive isOpen
  match received.2 with
  | .error _ => (received.1, .error .nlsReceiveFailed)
  | .ok 0 => (received.1, .error .nlsReceiveEmpty)
  | .ok _ =>
    let r := received.1
    let response := r.webSocket.responsePackage r.readEvBuffer
    let r := { r with webSocket := response.1 }
    (if response.2.isZero then r.drain r.readEvBuffer.length else r, response.2)

section Frames

variable {τ : Type*} (deliver : τ → Bytes → WebSocketFrame → τ × Ret) (isOpen : τ → Bool)

/-- The frame given to the consumer: the type of a PONG is set after decoding. -/
def delivered (wsType : WebSocketHeaderType) (wsFrame : WebSocketFrame) : WebSocketFrame :=
  if wsType.opCode = .pong then { wsFrame with type := .pong } else wsFrame

/-- Bytes a frame takes, computed in 64 bits. -/
def frameBytes (wsType : WebSocketHeaderType) (wsFrame : WebSocketFrame) : ℕ :=
  (wsFrame.length + wsType.headerSize) % 2 ^ 64

/-- How a round of the loop ends; every round behind the first finds `eLoop` set. -/
inductive Round (τ : Type*)
  | stop (r : Reader) (t : τ) (ret : Ret)
  | again (tryAgain : ℕ) (r : Reader) (t : τ)

/-- A complete frame goes to the consumer and leaves the buffer when it was taken. -/
def frameDone (r : Reader) (t : τ) (buffer : Bytes) (wsFrame : WebSocketFrame) : Round τ :=
  let frame := delivered r.wsType wsFrame
  let parsed := deliver t buffer frame
  match parsed.2 with
  | .error e => .stop r parsed.1 (.error e)
  | .ok _ =>
    let used := frameBytes r.wsType frame
    let left := (r.readEvBuffer.length + 2 ^ 64 - used) % 2 ^ 64
    if 0 < used ∧ 0 < left then .again maxTryAgain (r.drain used) parsed.1
    else .stop (r.drain used) parsed.1 (.ok used)

/-- An incomplete header is waited for by reading again. -/
def frameShort (tryAgain : ℕ) (eLoop : Bool) (r : Reader) (t : τ) : Round τ :=
  if tryAgain = 0 then .stop r t (.ok 0)
  else
    let received := r.nlsReceive (isOpen t)
    match received.2 with
    | .error _ => .stop received.1 t (.error .nlsReceiveFailed)
    -- `continue` goes to the test of `eLoop`, which is false in the first round
    | .ok _ => if eLoop then .again (tryAgain - 1) received.1 t else .stop received.1 t (.ok 0)

/-- The body of the `do .. while (eLoop)` loop of `webSocketResponse`. -/
def frameRound (tryAgain : ℕ) (eLoop : Bool) (r : Reader) (t : τ) : Round τ :=
  if r.readEvBuffer = [] then .stop r t (.ok 0)
  else
    let received := r.webSocket.receiveFullWebSocketFrame r.readEvBuffer r.wsType
    let r := { r with webSocket := received.webSocket, wsType := received.wsType }
    match received.result with
    | .ok (buffer, wsFrame) => frameDone deliver r t buffer wsFrame
    | .error .invalidWsFrameHeaderSize | .error .invalidWsFrameHeaderBody =>
      frameShort isOpen tryAgain eLoop r t
    | .error _ => .stop r t (.ok 0)

def frameLoop : ℕ → ℕ → Bool → Reader → τ → Reader × τ × Ret
  | 0, _, _, r, t => (r, t, .ok 0)
  | fuel + 1, tryAgain, eLoop, r, t =>
    match frameRound deliver isOpen tryAgain eLoop r t with
    | .stop r t ret => (r, t, ret)
    | .again tryAgain r t => frameLoop fuel tryAgain true r t

/-- Rounds that are always enough: one for each byte at hand and each renewed attempt. -/
def rounds (r : Reader) : ℕ :=
  4 * (r.readEvBuffer.length + (r.reads.map (fun read => (read.getD []).length)).sum) + 4

/-- `webSocketResponse` of a node that is not being released. -/
def webSocketResponse (r : Reader) (t : τ) : Reader × τ × Ret :=
  let received := r.nlsReceive (isOpen t)
  match received.2 with
  | .error _ => (received.1, t, .error .nlsReceiveFailed)
  | .ok 0 => (received.1, t, .ok 0)
  | .ok _ => frameLoop deliver isOpen received.1.rounds maxTryAgain false received.1 t

/-! What the consumer keeps is kept by the whole loop. -/

variable {deliver isOpen} {K : τ → Prop}

/-- The consumer's state at the end of a round. -/
def Round.state : Round τ → τ
  | .stop _ t _ => t
  | .again _ _ t => t

lemma frameRound_keeps (keep : ∀ t buffer frame, K t → K (deliver t buffer frame).1)
    (tryAgain : ℕ) (eLoop : Bool) (r : Reader) {t : τ} (ht : K t) :
    K (frameRound deliver isOpen tryAgain eLoop r t).state := by
  simp only [frameRound]
  split
  · exact ht
  split
  · simp only [frameDone]
    split
    · exact keep _ _ _ ht
    · split <;> exact keep _ _ _ ht
  · simp only [frameShort]
    repeat' split
    all_goals exact ht
  · simp only [frameShort]
    repeat' split
    all_goals exact ht
  · exact ht

theorem frameLoop_keeps (keep : ∀ t buffer frame, K t → K (deliver t buffer frame).1)
    (fuel tryAgain : ℕ) (eLoop : Bool) (r : Reader) {t : τ} (ht : K t) :
    K (frameLoop deliver isOpen fuel tryAgain eLoop r t).2.1 := by
  induction fuel generalizing tryAgain eLoop r t with
  | zero => exact ht
  | succ fuel ih =>
    have round : K (frameRound deliver isOpen tryAgain eLoop r t).state :=
      frameRound_keeps keep tryAgain eLoop r ht
    rw [frameLoop]
    split
    case h_1 stops => rwa [stops] at round
    case h_2 goesOn => rw [goesOn] at round; exact ih _ _ _ round

theorem webSocketResponse_keeps (keep : ∀ t buffer frame, K t → K (deliver t buffer frame).1)
    (r : Reader) {t : τ} (ht : K t) : K (webSocketResponse deliver isOpen r t).2.1 := by
  simp only [webSocketResponse]
  split
  · exact ht
  · exact ht
  · exact frameLoop_keeps keep _ _ _ _ ht

/-! What every result of the consumer and of the socket meets is met by the whole loop's. -/

variable {R : Ret → Prop}

lemma frameRound_returns (deliver_ret : ∀ t buffer frame, R (deliver t buffer frame).2)
    (received : R (.error .nlsReceiveFailed)) (taken : ∀ k, R (.ok k)) {tryAgain : ℕ} {eLoop : Bool}
    {r r' : Reader} {t t' : τ} {ret : Ret}
    (stops : frameRound deliver isOpen tryAgain eLoop r t = .stop r' t' ret) : R ret := by
  have short (r : Reader) (stops : frameShort isOpen tryAgain eLoop r t = .stop r' t' ret) :
      R ret := by
    simp only [frameShort] at stops
    split at stops
    · cases stops
      exact taken 0
    split at stops
    · cases stops
      exact received
    · split at stops
      · cases stops
      · cases stops
        exact taken 0
  simp only [frameRound] at stops
  split at stops
  · cases stops
    exact taken 0
  split at stops
  · rename_i buffer frame _
    have parsed := deliver_ret t buffer
    simp only [frameDone] at stops
    split at stops
    case h_1 code failed =>
      cases stops
      rw [← failed]
      exact parsed _
    case h_2 =>
      split at stops
      · cases stops
      · cases stops
        exact taken _
  · exact short _ stops
  · exact short _ stops
  · cases stops
    exact taken 0

theorem webSocketResponse_returns (deliver_ret : ∀ t buffer frame, R (deliver t buffer frame).2)
    (received : R (.error .nlsReceiveFailed)) (taken : ∀ k, R (.ok k)) (r : Reader) (t : τ) :
    R (webSocketResponse deliver isOpen r t).2.2 := by
  have loop (fuel tryAgain : ℕ) (eLoop : Bool) (r : Reader) (t : τ) :
      R (frameLoop deliver isOpen fuel tryAgain eLoop r t).2.2 := by
    induction fuel generalizing tryAgain eLoop r t with
    | zero => exact taken 0
    | succ fuel ih =>
      rw [frameLoop]
      split
      case h_1 stops => exact frameRound_returns deliver_ret received taken stops
      case h_2 => exact ih _ _ _ _
  simp only [webSocketResponse]
  split
  · exact received
  · exact taken 0
  · exact loop _ _ _ _ _

end Frames

/-! What a read does to a consumer it does to every image of it. -/

section Watched

variable {σ τ : Type*}

def Round.map (f : σ → τ) : Round σ → Round τ
  | .stop r s ret => .stop r (f s) ret
  | .again tryAgain r s => .again tryAgain r (f s)

variable {deliver : σ → Bytes → WebSocketFrame → σ × Ret}
  {deliver' : τ → Bytes → WebSocketFrame → τ × Ret} {isOpen : τ → Bool} {f : σ → τ}

lemma frameRound_map
    (image : ∀ s buffer frame, deliver' (f s) buffer frame =
      (f (deliver s buffer frame).1, (deliver s buffer frame).2))
    (tryAgain : ℕ) (eLoop : Bool) (r : Reader) (s : σ) :
    frameRound deliver' isOpen tryAgain eLoop r (f s) =
      (frameRound deliver (fun s => isOpen (f s)) tryAgain eLoop r s).map f := by
  have short (r : Reader) : frameShort isOpen tryAgain eLoop r (f s) =
      (frameShort (fun s => isOpen (f s)) tryAgain eLoop r s).map f := by
    simp only [frameShort]
    repeat' split
    all_goals rfl
  have done (r : Reader) (buffer : Bytes) (frame : WebSocketFrame) :
      frameDone deliver' r (f s) buffer frame = (frameDone deliver r s buffer frame).map f := by
    simp only [frameDone, image]
    repeat' split
    all_goals rfl
  simp only [frameRound]
  split
  · rfl
  split
  · exact done _ _ _
  · exact short _
  · exact short _
  · rfl

lemma frameLoop_map
    (image : ∀ s buffer frame, deliver' (f s) buffer frame =
      (f (deliver s buffer frame).1, (deliver s buffer frame).2))
    (fuel tryAgain : ℕ) (eLoop : Bool) (r : Reader) (s : σ) :
    frameLoop deliver' isOpen fuel tryAgain eLoop r (f s) =
      let read := frameLoop deliver (fun s => isOpen (f s)) fuel tryAgain eLoop r s
      (read.1, f read.2.1, read.2.2) := by
  induction fuel generalizing tryAgain eLoop r s with
  | zero => rfl
  | succ fuel ih =>
    simp only [frameLoop, frameRound_map image]
    cases frameRound deliver (fun s => isOpen (f s)) tryAgain eLoop r s with
    | stop r s ret => rfl
    | again tryAgain r s => exact ih tryAgain true r s

theorem webSocketResponse_map
    (image : ∀ s buffer frame, deliver' (f s) buffer frame =
      (f (deliver s buffer frame).1, (deliver s buffer frame).2)) (r : Reader) (s : σ) :
    webSocketResponse deliver' isOpen r (f s) =
      let read := webSocketResponse deliver (fun s => isOpen (f s)) r s
      (read.1, f read.2.1, read.2.2) := by
  simp only [webSocketResponse]
  split
  · rfl
  · rfl
  · exact frameLoop_map image _ _ _ _ _

/-- Note beside a consumer whether each frame so far met `P` in the state it was handed over in. -/
def watch (P : σ → Bytes → WebSocketFrame → Prop) [∀ s buffer frame, Decidable (P s buffer frame)]
    (deliver : σ → Bytes → WebSocketFrame → σ × Ret) (s : σ × Bool) (buffer : Bytes)
    (frame : WebSocketFrame) : (σ × Bool) × Ret :=
  let parsed := deliver s.1 buffer frame
  ((parsed.1, s.2 && decide (P s.1 buffer frame)), parsed.2)

/-- Every frame a read hands over meets `P`. -/
def Hands (P : σ → Bytes → WebSocketFrame → Prop) [∀ s buffer frame, Decidable (P s buffer frame)]
    (deliver : σ → Bytes → WebSocketFrame → σ × Ret) (isOpen : σ → Bool) (r : Reader) (s : σ) :
    Prop :=
  (webSocketResponse (watch P deliver) (fun s => isOpen s.1) r (s, true)).2.1.2 = true

instance (P : σ → Bytes → WebSocketFrame → Prop) [∀ s buffer frame, Decidable (P s buffer frame)]
    (deliver : σ → Bytes → WebSocketFrame → σ × Ret) (isOpen : σ → Bool) (r : Reader) (s : σ) :
    Decidable (Hands P deliver isOpen r s) := inferInstanceAs (Decidable (_ = true))

theorem webSocketResponse_hands {P : σ → Bytes → WebSocketFrame → Prop}
    [∀ s buffer frame, Decidable (P s buffer frame)] {K : σ → Prop} {isOpen : σ → Bool}
    (keep : ∀ s buffer frame, K s → P s buffer frame → K (deliver s buffer frame).1)
    {r : Reader} {s : σ} (hands : Hands P deliver isOpen r s) (hs : K s) :
    K (webSocketResponse deliver isOpen r s).2.1 := by
  have watched : (webSocketResponse (watch P deliver) (fun s => isOpen s.1) r (s, true)).2.1.2 =
      true → K (webSocketResponse (watch P deliver) (fun s => isOpen s.1) r (s, true)).2.1.1 := by
    refine webSocketResponse_keeps (K := fun t : σ × Bool => t.2 = true → K t.1) ?_ r fun _ => hs
    intro t buffer frame kept noted
    simp only [watch, Bool.and_eq_true, decide_eq_true_eq] at noted ⊢
    exact keep _ _ _ (kept noted.1) noted.2
  have image : webSocketResponse deliver isOpen r s =
      let read := webSocketResponse (watch P deliver) (fun s => isOpen s.1) r (s, true)
      (read.1, read.2.1.1, read.2.2) :=
    webSocketResponse_map (f := Prod.fst) (fun _ _ _ => rfl) r (s, true)
  rw [image]
  exact watched hands

end Watched

end Reader

end NlsSdk.Transport
