import NlsSdk.Transport.Reader

/-!
# What the decoder looks at

Two decoders that agree on the status code of the handshake, on the stage of the
decoder with the header fields that stage goes on with, and on the bytes not yet
consumed give the same answers and frames. Nothing else is looked at.
-/
namespace NlsSdk.Transport

/-- The fields of a header that are known once its first two bytes are. -/
def WebSocketHeaderType.head (wsType : WebSocketHeaderType) : WebSocketHeaderType :=
  { wsType with N := 0, masKingKey := [] }

/-- The stages agree, and the header as far as the stage has read it. -/
def StageAlike : WebSocketReceiveStatus → WebSocketHeaderType → WebSocketHeaderType → Prop
  | .wsHeadSize, _, _ => True
  | .wsHeadBody, w, w' => w.head = w'.head ∧ w.N0 < 128
  | .wsContentBody, w, w' => w = w'
  | .wsWsFailed, w, w' => w = w'

/-- Two decoders from which the same bytes give the same frames. -/
structure WebSocketTcp.Alike (ws ws' : WebSocketTcp) (w w' : WebSocketHeaderType) : Prop where
  httpCode : ws.httpCode = ws'.httpCode
  rStatus : ws.rStatus = ws'.rStatus
  stage : StageAlike ws.rStatus w w'

/-- The outcomes of two decoders: a frame found is the same one behind the same header. -/
structure Received.Alike (a b : Received) : Prop where
  decoder : a.webSocket.Alike b.webSocket a.wsType b.wsType
  result : a.result = b.result
  header : ∀ frame, a.result = .ok frame → a.wsType.head = b.wsType.head

namespace WebSocketTcp

variable {ws ws' : WebSocketTcp} {w w' : WebSocketHeaderType}

lemma receiveContentBody_alike (code : ws.httpCode = ws'.httpCode) (frame : Bytes)
    (same : w = w' ∨ w.opCode = .pong ∧ w.head = w'.head) :
    (ws.receiveContentBody frame w).Alike (ws'.receiveContentBody frame w') := by
  rcases same with rfl | ⟨pong, head⟩
  · unfold receiveContentBody
    split
    · exact ⟨⟨code, rfl, rfl⟩, rfl, fun _ h => by simp at h⟩
    · exact ⟨⟨code, rfl, trivial⟩, rfl, fun _ _ => rfl⟩
  · have pong' : w'.opCode = .pong := by
      have same := congrArg WebSocketHeaderType.opCode head
      exact (show w'.opCode = w.opCode from same.symm).trans pong
    simp only [receiveContentBody, decodeFrameBodyWebSocketFrame, pong, pong']
    exact ⟨⟨code, rfl, trivial⟩, rfl, fun _ _ => head⟩

/-- The rest of the header is read from its known part and the bytes alone. -/
lemma decodeHeaderBody_of_head (frame : Bytes) (head : w.head = w'.head) (N0 : w.N0 < 128) :
    decodeHeaderBodyWebSocketFrame frame w = decodeHeaderBodyWebSocketFrame frame w' := by
  obtain ⟨headerSize, fin, mask, opCode, N0', N, key⟩ := w
  obtain ⟨headerSize', fin', mask', opCode', N0'', N', key'⟩ := w'
  simp only [WebSocketHeaderType.head, WebSocketHeaderType.mk.injEq] at head
  obtain ⟨rfl, rfl, rfl, rfl, rfl, -, -⟩ := head
  have length : (if N0' < 126 then N0' else if N0' = 126 then beValue frame 2 2
        else if N0' = 127 then beValue frame 2 8 else N) =
      (if N0' < 126 then N0' else if N0' = 126 then beValue frame 2 2
        else if N0' = 127 then beValue frame 2 8 else N') := by
    replace N0 : N0' < 128 := N0
    split_ifs
    · rfl
    · rfl
    · rfl
    · omega
  simp only [decodeHeaderBodyWebSocketFrame, length]

lemma receiveHeadBody_alike (code : ws.httpCode = ws'.httpCode) (frame : Bytes)
    (head : w.head = w'.head) (N0 : w.N0 < 128) :
    (ws.receiveHeadBody frame w).Alike (ws'.receiveHeadBody frame w') := by
  have opCode : w.opCode = w'.opCode := by
    have same := congrArg WebSocketHeaderType.opCode head
    exact same
  unfold receiveHeadBody
  rw [← decodeHeaderBody_of_head frame head N0, ← opCode]
  split
  · split
    · rename_i pong
      exact receiveContentBody_alike code frame (Or.inr ⟨pong, head⟩)
    · exact ⟨⟨code, rfl, head, N0⟩, rfl, fun _ h => by simp at h⟩
  · exact receiveContentBody_alike code frame (Or.inl rfl)

/-- The first two bytes determine the known part of a header, whatever was read before. -/
lemma decodeHeaderSize_head (frame : Bytes) (w w' : WebSocketHeaderType) :
    (∃ code, decodeHeaderSizeWebSocketFrame frame w = .error code ∧
      decodeHeaderSizeWebSocketFrame frame w' = .error code) ∨
    ∃ k k', decodeHeaderSizeWebSocketFrame frame w = .ok k ∧
      decodeHeaderSizeWebSocketFrame frame w' = .ok k' ∧ k.head = k'.head ∧ k.N0 < 128 := by
  unfold decodeHeaderSizeWebSocketFrame
  split
  · exact Or.inl ⟨_, rfl, rfl⟩
  · exact Or.inr ⟨_, _, rfl, rfl, rfl, Nat.mod_lt _ (by decide)⟩

theorem receiveFullWebSocketFrame_alike (alike : ws.Alike ws' w w') (frame : Bytes) :
    (ws.receiveFullWebSocketFrame frame w).Alike (ws'.receiveFullWebSocketFrame frame w') := by
  obtain ⟨code, status, stage⟩ := alike
  unfold receiveFullWebSocketFrame
  rw [← status]
  cases stageIs : ws.rStatus with
  | wsHeadSize =>
    dsimp only
    rcases decodeHeaderSize_head frame w w' with ⟨e, left, right⟩ | ⟨k, k', left, right, head, N0⟩
    · rw [left, right]
      exact ⟨⟨code, status, by rw [stageIs]; trivial⟩, rfl, fun _ h => by simp at h⟩
    · rw [left, right]
      exact receiveHeadBody_alike code frame head N0
  | wsHeadBody =>
    rw [stageIs] at stage
    exact receiveHeadBody_alike code frame stage.1 stage.2
  | wsContentBody =>
    rw [stageIs] at stage
    exact receiveContentBody_alike code frame (Or.inl stage)
  | wsWsFailed =>
    rw [stageIs] at stage
    obtain rfl : w = w' := stage
    exact ⟨⟨code, status, by rw [stageIs]; rfl⟩, rfl, fun _ _ => rfl⟩

/-- The verdict on the answer to the upgrade request depends on the status code alone. -/
lemma responsePackage_alike (alike : ws.Alike ws' w w') (content : Bytes) :
    (ws.responsePackage content).2 = (ws'.responsePackage content).2 ∧
      (ws.responsePackage content).1.Alike (ws'.responsePackage content).1 w w' := by
  obtain ⟨code, status, stage⟩ := alike
  simp only [responsePackage, ← code]
  generalize (if ws.httpCode = 0 then _ else ws.httpCode) = verdict
  split
  · exact ⟨rfl, code, status, stage⟩
  split
  · exact ⟨rfl, rfl, status, stage⟩
  split
  · exact ⟨rfl, rfl, status, stage⟩
  -- an answer other than 101 is refused, whatever its length field says
  split
  · exact ⟨rfl, rfl, status, stage⟩
  · constructor
    · repeat' split
      all_goals rfl
    · repeat' split
      all_goals exact ⟨rfl, status, stage⟩

end WebSocketTcp

/-- Two receiving sides from which the same bytes give the same frames. -/
structure Reader.Alike (r r' : Reader) : Prop where
  decoder : r.webSocket.Alike r'.webSocket r.wsType r'.wsType
  readEvBuffer : r.readEvBuffer = r'.readEvBuffer
  reads : r.reads = r'.reads

namespace Reader

variable {r r' : Reader}

lemma Alike.drain (alike : r.Alike r') (k : ℕ) : (r.drain k).Alike (r'.drain k) where
  decoder := alike.decoder
  readEvBuffer := congrArg (List.drop k) alike.readEvBuffer
  reads := alike.reads

lemma nlsReceive_alike (alike : r.Alike r') (isOpen : Bool) :
    (r.nlsReceive isOpen).2 = (r'.nlsReceive isOpen).2 ∧
      (r.nlsReceive isOpen).1.Alike (r'.nlsReceive isOpen).1 := by
  obtain ⟨decoder, buffer, reads⟩ := alike
  cases isOpen with
  | false => exact ⟨rfl, decoder, buffer, reads⟩
  | true =>
    rcases given : r.reads with _ | ⟨_ | bs, rest⟩
    all_goals
      rw [given] at reads
      simp only [nlsReceive, given, ← reads]
    · exact ⟨rfl, decoder, buffer, given.trans reads⟩
    · exact ⟨rfl, decoder, buffer, rfl⟩
    · exact ⟨rfl, decoder, congrArg (· ++ bs.take readBufferSize) buffer, rfl⟩

theorem gatewayResponse_alike (alike : r.Alike r') (isOpen : Bool) :
    (r.gatewayResponse isOpen).2 = (r'.gatewayResponse isOpen).2 ∧
      (r.gatewayResponse isOpen).1.Alike (r'.gatewayResponse isOpen).1 := by
  obtain ⟨ret, received⟩ := nlsReceive_alike alike isOpen
  simp only [gatewayResponse, ← ret]
  split
  · exact ⟨rfl, received⟩
  · exact ⟨rfl, received⟩
  generalize (r.nlsReceive isOpen).1 = s, (r'.nlsReceive isOpen).1 = s' at received
  obtain ⟨ws, w, buffer, reads⟩ := s
  obtain ⟨ws', w', buffer', reads'⟩ := s'
  obtain ⟨decoder, rfl, rfl⟩ := received
  obtain ⟨verdict, answered⟩ := WebSocketTcp.responsePackage_alike decoder buffer
  simp only [← verdict, true_and]
  have kept : Alike ⟨(ws.responsePackage buffer).1, w, buffer, reads⟩
      ⟨(ws'.responsePackage buffer).1, w', buffer, reads⟩ := ⟨answered, rfl, rfl⟩
  split
  · exact kept.drain _
  · exact kept

section Frames

variable {τ : Type*} (deliver : τ → Bytes → WebSocketFrame → τ × Ret) (isOpen : τ → Bool)

/-- Rounds that end in the same way, with the same consumer. -/
inductive Round.Alike : Round τ → Round τ → Prop
  | stop {r r' : Reader} (alike : r.Alike r') (t : τ) (ret : Ret) :
    Round.Alike (.stop r t ret) (.stop r' t ret)
  | again {r r' : Reader} (alike : r.Alike r') (tryAgain : ℕ) (t : τ) :
    Round.Alike (.again tryAgain r t) (.again tryAgain r' t)

/-- A frame is handed over, and taken from the buffer, by the known part of its header. -/
lemma frameDone_alike (alike : r.Alike r') (head : r.wsType.head = r'.wsType.head) (t : τ)
    (buffer : Bytes) (wsFrame : WebSocketFrame) :
    (frameDone deliver r t buffer wsFrame).Alike (frameDone deliver r' t buffer wsFrame) := by
  have opCode : r.wsType.opCode = r'.wsType.opCode := by
    have same := congrArg WebSocketHeaderType.opCode head
    exact same
  have size : r.wsType.headerSize = r'.wsType.headerSize := by
    have same := congrArg WebSocketHeaderType.headerSize head
    exact same
  have frame : delivered r.wsType wsFrame = delivered r'.wsType wsFrame := by
    rw [delivered, delivered, opCode]
  have used : frameBytes r.wsType = frameBytes r'.wsType := by
    funext wsFrame
    rw [frameBytes, frameBytes, size]
  simp only [frameDone, ← frame, ← used, ← alike.readEvBuffer]
  split
  · exact .stop alike _ _
  · split
    · exact .again (alike.drain _) _ _
    · exact .stop (alike.drain _) _ _

lemma frameShort_alike (alike : r.Alike r') (tryAgain : ℕ) (eLoop : Bool) (t : τ) :
    (frameShort isOpen tryAgain eLoop r t).Alike (frameShort isOpen tryAgain eLoop r' t) := by
  obtain ⟨ret, received⟩ := nlsReceive_alike alike (isOpen t)
  simp only [frameShort, ← ret]
  split
  · exact .stop alike _ _
  split
  · exact .stop received _ _
  split
  · exact .again received _ _
  · exact .stop received _ _

lemma frameRound_alike (alike : r.Alike r') (tryAgain : ℕ) (eLoop : Bool) (t : τ) :
    (frameRound deliver isOpen tryAgain eLoop r t).Alike
      (frameRound deliver isOpen tryAgain eLoop r' t) := by
  have received :=
    WebSocketTcp.receiveFullWebSocketFrame_alike alike.decoder r.readEvBuffer
  have kept : Alike
      { r with
        webSocket := (r.webSocket.receiveFullWebSocketFrame r.readEvBuffer r.wsType).webSocket
        wsType := (r.webSocket.receiveFullWebSocketFrame r.readEvBuffer r.wsType).wsType }
      { r' with
        webSocket := (r'.webSocket.receiveFullWebSocketFrame r.readEvBuffer r'.wsType).webSocket
        wsType := (r'.webSocket.receiveFullWebSocketFrame r.readEvBuffer r'.wsType).wsType
        readEvBuffer := r.readEvBuffer } :=
    ⟨received.decoder, rfl, alike.reads⟩
  simp only [frameRound, ← alike.readEvBuffer, ← received.result]
  split
  · exact .stop alike _ _
  cases found : (r.webSocket.receiveFullWebSocketFrame r.readEvBuffer r.wsType).result with
  | ok frame => exact frameDone_alike deliver kept (received.header frame found) t frame.1 frame.2
  | error code =>
    split
    case h_1 ok => cases ok
    · exact frameShort_alike isOpen kept _ _ _
    · exact frameShort_alike isOpen kept _ _ _
    · exact .stop kept _ _

lemma frameLoop_alike (alike : r.Alike r') (fuel tryAgain : ℕ) (eLoop : Bool) (t : τ) :
    (frameLoop deliver isOpen fuel tryAgain eLoop r t).2 =
        (frameLoop deliver isOpen fuel tryAgain eLoop r' t).2 ∧
      (frameLoop deliver isOpen fuel tryAgain eLoop r t).1.Alike
        (frameLoop deliver isOpen fuel tryAgain eLoop r' t).1 := by
  induction fuel generalizing tryAgain eLoop r r' t with
  | zero => exact ⟨rfl, alike⟩
  | succ fuel ih =>
    rw [frameLoop, frameLoop]
    have round := frameRound_alike deliver isOpen alike tryAgain eLoop t
    generalize frameRound deliver isOpen tryAgain eLoop r t = left,
      frameRound deliver isOpen tryAgain eLoop r' t = right at round
    cases round with
    | stop alike t ret => exact ⟨rfl, alike⟩
    | again alike tryAgain t => exact ih alike tryAgain true t

/-- A read hands the same frames to the consumer. -/
theorem webSocketResponse_alike (alike : r.Alike r') (t : τ) :
    (webSocketResponse deliver isOpen r t).2 = (webSocketResponse deliver isOpen r' t).2 ∧
      (webSocketResponse deliver isOpen r t).1.Alike
        (webSocketResponse deliver isOpen r' t).1 := by
  obtain ⟨ret, received⟩ := nlsReceive_alike alike (isOpen t)
  have fuel : (r.nlsReceive (isOpen t)).1.rounds = (r'.nlsReceive (isOpen t)).1.rounds := by
    rw [rounds, rounds, received.readEvBuffer, received.reads]
  simp only [webSocketResponse, ← ret, ← fuel]
  split
  · exact ⟨rfl, received⟩
  · exact ⟨rfl, received⟩
  · exact frameLoop_alike deliver isOpen received _ _ _ _

end Frames

end Reader

end NlsSdk.Transport
