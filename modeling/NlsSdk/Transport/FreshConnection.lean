import NlsSdk.Transport.ConnectionOutput
import NlsSdk.Transport.DecoderAlike

/-!
# What an earlier connection leaves for a new one

A new connection is read by the decoder its node has used before. What it reads
is compared with what a new node reads from the same bytes, whoever consumes the
frames and whatever the consumer answers.
-/
namespace NlsSdk.Transport

open NlsSdk.Library

/-- A connection as it is received: the answer to the upgrade request first, then frames. -/
structure Connection (τ : Type) where
  reader : Reader
  consumer : τ
  upgraded : Bool := false
  answers : List Ret := []

namespace Connection

variable {ι τ : Type} (deliver : ι → τ → Bytes → WebSocketFrame → τ × Ret) (isOpen : τ → Bool)

/-- One read event: what the socket gives, and what the consumer depends on besides. -/
def receive (c : Connection τ) (input : ι × List (Option Bytes)) : Connection τ :=
  let reader := { c.reader with reads := input.2 }
  if c.upgraded then
    let read := reader.webSocketResponse (deliver input.1) isOpen c.consumer
    { c with reader := read.1, consumer := read.2.1, answers := c.answers ++ [read.2.2] }
  else
    let answer := reader.gatewayResponse (isOpen c.consumer)
    { c with
      reader := answer.1
      upgraded := answer.2.isZero
      answers := c.answers ++ [answer.2] }

/-- The verdicts given so far and the consumer, which has seen the frames. -/
def seen (c : Connection τ) : List Ret × τ := (c.answers, c.consumer)

/-- Connections that differ at most in what the decoder does not look at. -/
structure Alike (c c' : Connection τ) : Prop where
  decoder : c.reader.webSocket.Alike c'.reader.webSocket c.reader.wsType c'.reader.wsType
  readEvBuffer : c.reader.readEvBuffer = c'.reader.readEvBuffer
  consumer : c.consumer = c'.consumer
  upgraded : c.upgraded = c'.upgraded
  answers : c.answers = c'.answers

lemma receive_alike (c c' : Connection τ) (input : ι × List (Option Bytes)) (alike : c.Alike c') :
    (c.receive deliver isOpen input).Alike (c'.receive deliver isOpen input) := by
  obtain ⟨decoder, buffer, consumer, upgraded, answers⟩ := alike
  have given : Reader.Alike { c.reader with reads := input.2 }
      { c'.reader with reads := input.2 } := ⟨decoder, buffer, rfl⟩
  simp only [receive, ← upgraded, ← consumer, ← answers]
  split
  · obtain ⟨same, left⟩ :=
      Reader.webSocketResponse_alike (deliver input.1) isOpen given c.consumer
    simp only [← same]
    exact ⟨left.decoder, left.readEvBuffer, rfl, rfl, rfl⟩
  · obtain ⟨same, left⟩ := Reader.gatewayResponse_alike given (isOpen c.consumer)
    simp only [← same]
    exact ⟨left.decoder, left.readEvBuffer, rfl, rfl, rfl⟩

end Connection

/-- From whatever arrives on a new connection, both receiving sides give every consumer the same
frames and come to the same verdicts. -/
def ReadsAlike (r r' : Reader) : Prop :=
  ∀ (ι τ : Type) (deliver : ι → τ → Bytes → WebSocketFrame → τ × Ret) (isOpen : τ → Bool)
    (consumer : τ) (stream : List (ι × List (Option Bytes))),
    (run (Connection.receive deliver isOpen) { reader := r, consumer := consumer } stream).seen =
      (run (Connection.receive deliver isOpen) { reader := r', consumer := consumer } stream).seen

namespace Reader

/-- No answer was parsed, no frame is being decoded and no byte waits. -/
structure Rested (r : Reader) : Prop where
  httpCode : r.webSocket.httpCode = 0
  rStatus : r.webSocket.rStatus = .wsHeadSize
  readEvBuffer : r.readEvBuffer = []

lemma readsAlike_of_rested {r r' : Reader} (rested : r.Rested) (rested' : r'.Rested) :
    ReadsAlike r r' := by
  intro ι τ deliver isOpen consumer stream
  have start : Connection.Alike { reader := r, consumer := consumer }
      { reader := r', consumer := consumer } := by
    refine ⟨⟨?_, ?_, ?_⟩, ?_, rfl, rfl, rfl⟩
    · exact rested.httpCode.trans rested'.httpCode.symm
    · exact rested.rStatus.trans rested'.rStatus.symm
    · simp only [rested.rStatus]
      trivial
    · exact rested.readEvBuffer.trans rested'.readEvBuffer.symm
  have alike := simulation_run
    (fun c c' input => Connection.receive_alike deliver isOpen c c' input) start stream
  exact Prod.ext alike.answers alike.consumer

end Reader

/-! ## Streams that tell a used decoder from a new one -/

/-- The answer to an upgrade request, without a body. -/
def httpAnswer (status : String) : Bytes := ascii "HTTP/1.1 " ++ ascii status ++ [13, 10, 13, 10]

namespace WebSocketTcp

/-- An answer not yet complete is reported with its length. -/
lemma length_of_partial {ws : WebSocketTcp} {content : Bytes} {k : ℕ}
    (h : (ws.responsePackage content).2 = .ok (k + 1)) : content.length = k + 1 := by
  simp only [responsePackage] at h
  split at h
  · exact Except.ok.inj h
  repeat' split at h
  all_goals simp at h

/-- A complete answer is accepted by the first status code the decoder ever parsed. -/
lemma isZero_responsePackage (ws : WebSocketTcp) (content : Bytes)
    (complete : find httpHeaderEndString (cString content) ≠ none) :
    (ws.responsePackage content).2.isZero = true ↔
      (if ws.httpCode = 0 then getTargetLen (cString content) httpStatusCode httpStatusCodeEnd
        else ws.httpCode) = 101 := by
  simp only [responsePackage, complete, if_false]
  generalize (if ws.httpCode = 0 then _ else ws.httpCode) = code
  constructor
  · intro accepted
    by_contra other
    rw [if_neg other] at accepted
    repeat' split at accepted
    all_goals simp at accepted
  · rintro rfl
    rfl

/-- A frame found has the type its header says, or was not filled in. -/
lemma type_of_decoded {buffer : Bytes} {w : WebSocketHeaderType} {found : Bytes × WebSocketFrame}
    (h : decodeFrameBodyWebSocketFrame buffer w = .ok found) :
    found.2.type = w.opCode ∨ found.2.type = .continuation := by
  unfold decodeFrameBodyWebSocketFrame at h
  split at h
  · cases h
    exact Or.inr rfl
  split at h
  · cases h
  split at h
  all_goals cases h
  all_goals first | exact Or.inr rfl | skip
  all_goals simp_all

lemma type_of_receiveContentBody {ws : WebSocketTcp} {frame : Bytes} {w : WebSocketHeaderType}
    {found : Bytes × WebSocketFrame} (h : (ws.receiveContentBody frame w).result = .ok found) :
    (ws.receiveContentBody frame w).wsType = w ∧
      (found.2.type = w.opCode ∨ found.2.type = .continuation) := by
  unfold receiveContentBody at h ⊢
  split at h
  · cases h
  · rename_i data decoded
    cases h
    exact ⟨rfl, type_of_decoded decoded⟩

lemma opCode_of_decodeHeaderBody {frame : Bytes} {w w' : WebSocketHeaderType}
    (h : decodeHeaderBodyWebSocketFrame frame w = .ok w') : w'.opCode = w.opCode := by
  unfold decodeHeaderBodyWebSocketFrame at h
  split at h
  · cases h
  · cases h
    rfl

/-- A decoder within a frame goes on with the type of that frame. -/
lemma type_of_stale {ws : WebSocketTcp} (stale : ws.rStatus ≠ .wsHeadSize)
    {frame : Bytes} {w : WebSocketHeaderType} {found : Bytes × WebSocketFrame}
    (h : (ws.receiveFullWebSocketFrame frame w).result = .ok found) :
    (ws.receiveFullWebSocketFrame frame w).wsType.opCode = w.opCode ∧
      (found.2.type = w.opCode ∨ found.2.type = .continuation) := by
  unfold receiveFullWebSocketFrame at h ⊢
  cases stage : ws.rStatus with
  | wsHeadSize => exact absurd stage stale
  | wsHeadBody =>
    simp only [stage, receiveHeadBody] at h ⊢
    split at h
    · split at h
      · obtain ⟨same, type⟩ := type_of_receiveContentBody h
        rw [if_pos ‹_›, same]
        exact ⟨rfl, type⟩
      · cases h
    · rename_i w' decoded
      obtain ⟨same, type⟩ := type_of_receiveContentBody h
      rw [same, ← opCode_of_decodeHeaderBody decoded]
      exact ⟨rfl, type⟩
  | wsContentBody =>
    simp only [stage] at h ⊢
    obtain ⟨same, type⟩ := type_of_receiveContentBody h
    rw [same]
    exact ⟨rfl, type⟩
  | wsWsFailed =>
    simp only [stage] at h ⊢
    cases h
    exact ⟨trivial, Or.inr rfl⟩

end WebSocketTcp

namespace Reader

/-- A consumer that notes the type of a frame and takes no further one. -/
def noteType (_ : Unit) (types : List OpCodeType) (_ : Bytes) (frame : WebSocketFrame) :
    List OpCodeType × Ret := (types ++ [frame.type], .error .nlsEventEmpty)

/-- The verdicts and the type of the first frame a receiving side finds in a stream. -/
def firstSeen (r : Reader) (stream : List Bytes) : List Ret × List OpCodeType :=
  (run (Connection.receive noteType (fun _ => true)) { reader := r, consumer := [] }
    (stream.map (fun bytes => ((), [some bytes])))).seen

/-- A round that begins within a frame ends the read without a frame of another type. -/
lemma frameRound_stale {r : Reader} (stale : r.webSocket.rStatus ≠ .wsHeadSize)
    {type : OpCodeType}
    (other : type ≠ r.wsType.opCode ∧ type ≠ .continuation ∧ type ≠ .pong) (tryAgain : ℕ) :
    ∃ left types ret, types ≠ [type] ∧
      frameRound (noteType ()) (fun _ => true) tryAgain false r [] = .stop left types ret := by
  obtain ⟨notStale, notEmpty, notPong⟩ := other
  simp only [frameRound]
  split
  · exact ⟨_, [], _, by simp, rfl⟩
  cases found : (r.webSocket.receiveFullWebSocketFrame r.readEvBuffer r.wsType).result with
  | ok frame =>
    obtain ⟨same, typed⟩ := WebSocketTcp.type_of_stale stale found
    refine ⟨_, _, _, ?_, rfl⟩
    simp only [noteType, delivered, same, List.nil_append, ne_eq, List.cons.injEq, and_true]
    intro hit
    split at hit
    · exact notPong hit.symm
    · rcases typed with typed | typed
      · exact notStale (hit.symm.trans typed)
      · exact notEmpty (hit.symm.trans typed)
  | error code =>
    have short : ∀ s : Reader, ∃ left types ret, types ≠ [type] ∧
        frameShort (fun _ => true) tryAgain false s [] = .stop left types ret := by
      intro s
      simp only [frameShort, Bool.false_eq_true, if_false]
      repeat' split
      all_goals exact ⟨_, [], _, by simp, rfl⟩
    split
    case h_1 ok => cases ok
    · exact short _
    · exact short _
    · exact ⟨_, [], _, by simp, rfl⟩

lemma nlsReceive_decoder (isOpen : Bool) (r : Reader) :
    (r.nlsReceive isOpen).1.webSocket = r.webSocket ∧
      (r.nlsReceive isOpen).1.wsType = r.wsType := by
  unfold nlsReceive
  repeat' split
  all_goals exact ⟨rfl, rfl⟩

lemma webSocketResponse_stale {r : Reader} (stale : r.webSocket.rStatus ≠ .wsHeadSize)
    {type : OpCodeType}
    (other : type ≠ r.wsType.opCode ∧ type ≠ .continuation ∧ type ≠ .pong) :
    (webSocketResponse (noteType ()) (fun _ => true) r []).2.1 ≠ [type] := by
  obtain ⟨decoder, header⟩ := nlsReceive_decoder true r
  simp only [webSocketResponse]
  split
  · simp
  · simp
  · rw [← decoder] at stale
    rw [← header] at other
    obtain ⟨left, types, ret, differs, stops⟩ := frameRound_stale stale other maxTryAgain
    rw [rounds, frameLoop, stops]
    exact differs

/-- A new connection's 101 is accepted by a decoder that has parsed no status code. -/
lemma receive_upgrade {r : Reader} (code : r.webSocket.httpCode = 0) (empty : r.readEvBuffer = []) :
    Connection.receive noteType (fun _ => true) { reader := r, consumer := [] }
        ((), [some (httpAnswer "101 ")]) =
      { reader := { r with webSocket := { r.webSocket with httpCode := 101 }, reads := [] }
        consumer := []
        upgraded := true
        answers := [.ok 0] } := by
  obtain ⟨⟨httpCode, httpLength, rStatus, errorMsg⟩, wsType, buffer, reads⟩ := r
  cases code
  cases empty
  rfl

/-- In the middle of a frame, the frames of a new connection are not recognised. -/
lemma firstSeen_stale {r : Reader} (stale : r.webSocket.rStatus ≠ .wsHeadSize)
    (code : r.webSocket.httpCode = 0) (empty : r.readEvBuffer = []) (type : OpCodeType)
    (other : type ≠ r.wsType.opCode ∧ type ≠ .continuation ∧ type ≠ .pong) (frame : Bytes) :
    (r.firstSeen [httpAnswer "101 ", frame]).2 ≠ [type] := by
  rw [firstSeen, List.map_cons, run_cons, receive_upgrade code empty]
  exact webSocketResponse_stale (r := ⟨{ r.webSocket with httpCode := 101 }, r.wsType,
    r.readEvBuffer, [some frame]⟩) stale other

/-- The first verdict is about what was left and what arrived, in one piece. -/
lemma firstSeen_verdict (r : Reader) {bytes : Bytes} (some_ : bytes ≠ [])
    (fits : bytes.length ≤ readBufferSize) :
    (r.firstSeen [bytes]).1 = [(r.webSocket.responsePackage (r.readEvBuffer ++ bytes)).2] := by
  obtain ⟨k, size⟩ : ∃ k, min bytes.length readBufferSize = k + 1 := by
    have := List.length_pos_of_ne_nil some_
    exact ⟨bytes.length - 1, by omega⟩
  simp only [firstSeen, List.map_cons, List.map_nil, run_cons, run_nil, Connection.receive,
    Connection.seen, gatewayResponse, nlsReceive, size, List.take_of_length_le fits]
  rfl

/-- Every used decoder shows itself in some stream. -/
theorem rested_of_readsAlike {r : Reader} (alike : ReadsAlike r {}) : r.Rested := by
  have same : ∀ stream, r.firstSeen stream = firstSeen {} stream := fun stream =>
    alike Unit _ noteType (fun _ => true) [] (stream.map fun bytes => ((), [some bytes]))
  have verdict : ∀ bytes : Bytes, bytes ≠ [] → bytes.length ≤ readBufferSize →
      (r.webSocket.responsePackage (r.readEvBuffer ++ bytes)).2 =
        (({} : WebSocketTcp).responsePackage bytes).2 := by
    intro bytes some_ fits
    have seen := congrArg Prod.fst (same [bytes])
    rw [firstSeen_verdict r some_ fits, firstSeen_verdict {} some_ fits] at seen
    exact List.head_eq_of_cons_eq seen
  have empty : r.readEvBuffer = [] := by
    have length := WebSocketTcp.length_of_partial (k := 0) (verdict [0] (by decide) (by decide))
    apply List.eq_nil_of_length_eq_zero
    rw [List.length_append] at length
    exact Nat.succ.inj length
  rw [empty] at verdict
  have code : r.webSocket.httpCode = 0 := by
    by_contra used
    -- the status code once parsed either refuses a 101 or accepts anything else
    have accepts := congrArg Ret.isZero (verdict (httpAnswer "101 ") (by decide) (by decide))
    have refuses := congrArg Ret.isZero (verdict (httpAnswer "403 ") (by decide) (by decide))
    have is101 : r.webSocket.httpCode = 101 := by
      have := (WebSocketTcp.isZero_responsePackage r.webSocket _ (by decide)).mp
        (accepts.trans (by decide))
      rwa [if_neg used] at this
    have accepted := (WebSocketTcp.isZero_responsePackage r.webSocket (httpAnswer "403 ")
      (by decide)).mpr (by rw [if_neg used, is101])
    exact absurd (accepted.symm.trans refuses) (by decide)
  refine ⟨code, ?_, empty⟩
  by_contra stale
  by_cases text : r.wsType.opCode = .textFrame
  · apply firstSeen_stale stale code empty .binaryFrame (by rw [text]; decide) [0x82, 1, 65]
    rw [same]
    decide
  · apply firstSeen_stale stale code empty .textFrame
      ⟨Ne.symm text, by decide, by decide⟩ [0x81, 1, 65]
    rw [same]
    decide

end Reader

/-- On a node newly made, a new connection reads every stream as the node's first one would have
if and only if the earlier ones left the decoder at rest; two histories that did so make no
difference to each other. -/
theorem fresh_connection {n : ConnectNode} (created : n.reader = {})
    (history history' : List NodeInput) :
    (ReadsAlike (nodeRun n history).reader n.reader ↔ (nodeRun n history).reader.Rested) ∧
      ((nodeRun n history).reader.Rested → (nodeRun n history').reader.Rested →
        ReadsAlike (nodeRun n history).reader (nodeRun n history').reader) := by
  refine ⟨⟨fun alike => ?_, fun rested => ?_⟩, Reader.readsAlike_of_rested⟩
  · rw [created] at alike
    exact Reader.rested_of_readsAlike alike
  · rw [created]
    exact Reader.readsAlike_of_rested rested ⟨rfl, rfl, rfl⟩

/-- A connection lost before its answer leaves nothing behind. -/
theorem fresh_connection_unanswered :
    (nodeRun reconnectingNode (lostAndReconnected 5)).reader.Rested ∧
      ReadsAlike (nodeRun reconnectingNode (lostAndReconnected 5)).reader
        reconnectingNode.reader := by
  have rested : (nodeRun reconnectingNode (lostAndReconnected 5)).reader.Rested := by
    constructor <;> decide
  exact ⟨rested, (fresh_connection rfl _ []).1.mpr rested⟩

/-- A session that was upgraded and then lost, and the connection the node opens after it. -/
def upgradedAndReconnected : List NodeInput :=
  [{ op := .start },
   { op := .launchEvent
     env := { upgradeRequest := some (upgradeText "a"), attempts := [.handshaking] } },
   { op := .readEvent .ready
     env := { command := fun _ _ => some (ascii "Start")
              reads := [some (httpAnswer "101 ")] } },
   { op := .readEvent .ready, env := { reads := [none] } },
   { op := .reconnectEvent
     env := { upgradeRequest := some (upgradeText "b"), attempts := [.handshaking] } }]

/-- The status code of the first answer makes a refusal of the second connection an
acceptance. -/
theorem stale_status_accepted :
    (nodeRun reconnectingNode upgradedAndReconnected).workStatus = .nodeHandshaked ∧
      ¬ReadsAlike (nodeRun reconnectingNode upgradedAndReconnected).reader
        reconnectingNode.reader := by
  refine ⟨by decide, fun alike => ?_⟩
  have verdicts := congrArg Prod.fst
    (alike Unit _ Reader.noteType (fun _ => true) [] [((), [some (httpAnswer "403 ")])])
  have accepted : ((nodeRun reconnectingNode upgradedAndReconnected).reader.firstSeen
      [httpAnswer "403 "]).1 = [.ok 0] := by decide
  have refused : (reconnectingNode.reader.firstSeen [httpAnswer "403 "]).1 =
      [.error .wsResponsePackageFailed] := by decide
  have clash := accepted.symm.trans (verdicts.trans refused)
  exact absurd clash (by decide)

end NlsSdk.Transport
