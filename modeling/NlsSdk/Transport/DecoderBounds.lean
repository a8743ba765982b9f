import NlsSdk.Transport.WebSocketTcp

/-!
# Bytes the decoder exposes

Which bytes a decoded frame points to, and which bytes the decoder unmasks or
reads on the way, compared with the bytes that were received.
-/
namespace NlsSdk.Transport

namespace WebSocketHeaderType

/-- A frame whose payload is exposed, and unmasked in place. -/
def IsData (w : WebSocketHeaderType) : Prop :=
  w.opCode = .textFrame ∨ w.opCode = .binaryFrame ∨ w.opCode = .continuation

instance (w : WebSocketHeaderType) : Decidable w.IsData := inferInstanceAs (Decidable (_ ∨ _))

/-- The test for completeness, computed in 64 bits. -/
def Admitted (w : WebSocketHeaderType) (b : Bytes) : Prop :=
  (w.N + w.headerSize) % 2 ^ 64 ≤ b.length

instance (w : WebSocketHeaderType) (b : Bytes) : Decidable (w.Admitted b) :=
  inferInstanceAs (Decidable (_ ≤ _))

/-- The sum in the test does not wrap, and a CLOSE is followed by two more bytes. -/
def Fits (w : WebSocketHeaderType) (b : Bytes) : Prop :=
  (w.IsData → w.N + w.headerSize < 2 ^ 64) ∧
    (w.opCode = .close → w.N + w.headerSize + 2 ≤ b.length ∧ 4 ≤ b.length)

instance (w : WebSocketHeaderType) (b : Bytes) : Decidable (w.Fits b) :=
  inferInstanceAs (Decidable (_ ∧ _))

end WebSocketHeaderType

/-- A decoder that reports success keeps to the received bytes. -/
structure InBounds (b : Bytes) (w : WebSocketHeaderType) : Prop where
  exposed : ∀ buffer wsFrame, decodeFrameBodyWebSocketFrame b w = .ok (buffer, wsFrame) →
    ∀ data, wsFrame.data = some data → data + wsFrame.length ≤ b.length
  -- the loop `*(buffer + i + headerSize) ^= ..` over `N` bytes
  unmasked : ∀ found, decodeFrameBodyWebSocketFrame b w = .ok found → w.IsData →
    w.mask = true → w.headerSize + w.N ≤ b.length
  -- the status code at `buffer + 2` and `buffer + 3`
  status : ∀ found, decodeFrameBodyWebSocketFrame b w = .ok found → w.opCode = .close →
    4 ≤ b.length

variable {b : Bytes} {w : WebSocketHeaderType}

lemma decodeFrameBody_rejects (rejected : ¬w.Admitted b) (notPong : w.opCode ≠ .pong) :
    decodeFrameBodyWebSocketFrame b w = .error .invalidWsFrameBody := by
  rw [WebSocketHeaderType.Admitted, not_le] at rejected
  unfold decodeFrameBodyWebSocketFrame
  split
  · rename_i pong
    exact absurd pong notPong
  · rw [if_pos rejected]

lemma decodeFrameBody_data (data : w.IsData) (admitted : w.Admitted b) :
    ∃ buffer, decodeFrameBodyWebSocketFrame b w =
      .ok (buffer, { type := w.opCode, data := some w.headerSize, length := w.N }) := by
  have enough := not_lt.mpr admitted
  unfold decodeFrameBodyWebSocketFrame
  rcases data with kind | kind | kind
  all_goals
    rw [kind]
    simp only [if_neg enough]
    exact ⟨_, rfl⟩

lemma decodeFrameBody_close (close : w.opCode = .close) (admitted : w.Admitted b) :
    decodeFrameBodyWebSocketFrame b w =
      .ok (b, ⟨.close, some (w.headerSize + 2), w.N, beValue b 2 2⟩) := by
  have enough := not_lt.mpr admitted
  unfold decodeFrameBodyWebSocketFrame
  rw [close]
  dsimp only
  rw [if_neg enough]

/-- Every other frame is handed on without a payload. -/
lemma decodeFrameBody_other (data : ¬w.IsData) (close : w.opCode ≠ .close) {buffer : Bytes}
    {wsFrame : WebSocketFrame} (found : decodeFrameBodyWebSocketFrame b w = .ok (buffer, wsFrame)) :
    wsFrame.data = none := by
  unfold decodeFrameBodyWebSocketFrame at found
  cases kind : w.opCode with
  | textFrame => exact absurd (Or.inl kind) data
  | binaryFrame => exact absurd (Or.inr (Or.inl kind)) data
  | continuation => exact absurd (Or.inr (Or.inr kind)) data
  | close => exact absurd kind close
  | pong =>
    rw [kind] at found
    obtain ⟨rfl, rfl⟩ := Prod.mk.inj (Except.ok.inj found)
    rfl
  | ping =>
    rw [kind] at found
    dsimp only at found
    split at found <;> cases found
  | reserved nibble =>
    rw [kind] at found
    dsimp only at found
    split at found
    · cases found
    · obtain ⟨rfl, rfl⟩ := Prod.mk.inj (Except.ok.inj found)
      rfl

/-- For every buffer and header, the decoder keeps to the received bytes exactly when it rejects
the frame, or the frame fits. -/
theorem decoder_bounds (b : Bytes) (w : WebSocketHeaderType) (memory : b.length < 2 ^ 64) :
    InBounds b w ↔ (w.Admitted b → w.Fits b) := by
  constructor
  · rintro ⟨exposed, -, status⟩ admitted
    constructor
    · intro data
      obtain ⟨buffer, found⟩ := decodeFrameBody_data data admitted
      have inside := exposed _ _ found w.headerSize rfl
      dsimp only at inside
      omega
    · intro close
      have found := decodeFrameBody_close close admitted
      have inside := exposed _ _ found (w.headerSize + 2) rfl
      refine ⟨?_, status _ found close⟩
      dsimp only at inside
      omega
  · intro fits
    by_cases admitted : w.Admitted b
    · obtain ⟨data, close⟩ := fits admitted
      -- without a wrap the test is the one that was meant
      have whole (is : w.IsData) : w.headerSize + w.N ≤ b.length := by
        have sum := data is
        rw [WebSocketHeaderType.Admitted, Nat.mod_eq_of_lt sum] at admitted
        omega
      refine ⟨fun buffer wsFrame found at_ is => ?_, fun _ _ is _ => whole is,
        fun _ _ is => (close is).2⟩
      by_cases isData : w.IsData
      · obtain ⟨buffer', found'⟩ := decodeFrameBody_data isData admitted
        rw [found'] at found
        obtain ⟨-, rfl⟩ := Prod.mk.inj (Except.ok.inj found)
        obtain rfl := Option.some.inj is
        exact whole isData
      by_cases isClose : w.opCode = .close
      · rw [decodeFrameBody_close isClose admitted] at found
        obtain ⟨-, rfl⟩ := Prod.mk.inj (Except.ok.inj found)
        obtain rfl := Option.some.inj is
        have longer := (close isClose).1
        dsimp only
        omega
      · rw [decodeFrameBody_other isData isClose found] at is
        cases is
    · -- only a PONG is taken without the test
      have rejects (data : w.IsData ∨ w.opCode = .close) (found : Bytes × WebSocketFrame)
          (is : decodeFrameBodyWebSocketFrame b w = .ok found) : False := by
        have other : w.opCode ≠ .pong := by
          rcases data with (text | binary | more) | close <;> simp [*]
        rw [decodeFrameBody_rejects admitted other] at is
        cases is
      refine ⟨fun buffer wsFrame found at_ is => ?_,
        fun found is data _ => (rejects (Or.inl data) found is).elim,
        fun found is close => (rejects (Or.inr close) found is).elim⟩
      by_cases isData : w.IsData
      · exact (rejects (Or.inl isData) _ found).elim
      by_cases isClose : w.opCode = .close
      · exact (rejects (Or.inr isClose) _ found).elim
      · rw [decodeFrameBody_other isData isClose found] at is
        cases is

/-- Whatever its stage, the decoder finds a payload by the test of the frame body alone. -/
lemma receive_payload {ws : WebSocketTcp} {found : Bytes × WebSocketFrame}
    (ok : (ws.receiveFullWebSocketFrame b w).result = .ok found) :
    found.2.data = none ∨
      decodeFrameBodyWebSocketFrame b (ws.receiveFullWebSocketFrame b w).wsType = .ok found := by
  have body (k : WebSocketHeaderType) (is : (ws.receiveContentBody b k).result = .ok found) :
      decodeFrameBodyWebSocketFrame b (ws.receiveContentBody b k).wsType = .ok found := by
    unfold WebSocketTcp.receiveContentBody at is ⊢
    split at is
    · cases is
    · rename_i data decoded
      obtain rfl := Except.ok.inj is
      simp only [decoded]
  have head (k : WebSocketHeaderType) (is : (ws.receiveHeadBody b k).result = .ok found) :
      decodeFrameBodyWebSocketFrame b (ws.receiveHeadBody b k).wsType = .ok found := by
    simp only [WebSocketTcp.receiveHeadBody] at is ⊢
    generalize decodeHeaderBodyWebSocketFrame b k = known at is ⊢
    cases known with
    | error e =>
      dsimp only at is ⊢
      split at is
      · rename_i pong
        rw [if_pos pong]
        exact body k is
      · cases is
    | ok k' => exact body k' is
  unfold WebSocketTcp.receiveFullWebSocketFrame at ok ⊢
  cases status : ws.rStatus with
  | wsHeadSize =>
    rw [status] at ok
    dsimp only at ok ⊢
    generalize decodeHeaderSizeWebSocketFrame b w = known at ok ⊢
    cases known with
    | error e => cases ok
    | ok k => exact Or.inr (head k ok)
  | wsHeadBody =>
    rw [status] at ok
    exact Or.inr (head w ok)
  | wsContentBody =>
    rw [status] at ok
    exact Or.inr (body w ok)
  | wsWsFailed =>
    rw [status] at ok
    obtain rfl := Except.ok.inj ok
    exact Or.inl rfl

/-- So a receiver whose frames fit exposes received bytes only. -/
theorem receive_exposes {ws : WebSocketTcp} {buffer : Bytes} {wsFrame : WebSocketFrame}
    (memory : b.length < 2 ^ 64)
    (fits : (ws.receiveFullWebSocketFrame b w).wsType.Admitted b →
      (ws.receiveFullWebSocketFrame b w).wsType.Fits b)
    (ok : (ws.receiveFullWebSocketFrame b w).result = .ok (buffer, wsFrame)) (data : ℕ)
    (is : wsFrame.data = some data) : data + wsFrame.length ≤ b.length := by
  have inside := (decoder_bounds b _ memory).mpr fits
  rcases receive_payload ok with none_ | found
  · rw [show wsFrame.data = none from none_] at is
    cases is
  · exact inside.exposed buffer wsFrame found data is

theorem decoder_bounds_text :
    InBounds [0x81, 2, 65, 66, 0x81]
      { headerSize := 2, opCode := .textFrame, N0 := 2, N := 2 } := by
  apply (decoder_bounds _ _ (by decide)).mpr
  intro _
  decide

/-- The body of a CLOSE with a status code only is taken to lie behind the frame. -/
theorem close_exposes_past_end :
    (({} : WebSocketTcp).receiveFullWebSocketFrame [0x88, 2, 3, 232] {}).result =
        .ok ([0x88, 2, 3, 232], ⟨.close, some 4, 2, 1000⟩) ∧
      ¬InBounds [0x88, 2, 3, 232]
        (({} : WebSocketTcp).receiveFullWebSocketFrame [0x88, 2, 3, 232] {}).wsType := by
  refine ⟨by decide, fun inside => ?_⟩
  have exposed := inside.exposed [0x88, 2, 3, 232] ⟨.close, some 4, 2, 1000⟩ (by decide) 4 rfl
  revert exposed
  decide

end NlsSdk.Transport
