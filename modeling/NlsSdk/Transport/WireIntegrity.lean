import NlsSdk.Library.Mux
import NlsSdk.Transport.SafeEvents

/-!
# Whole frames on the wire

A frame stays in one piece on the connection as long as no step sends from one
buffer inside a frame of another. The senders do not all see to that.
-/
namespace NlsSdk.Transport

open NlsSdk.Library

/-- Frames follow one another behind `pre`, sent only from the buffer that may be inside one. -/
def framing (pre : Bytes) : Discipline where
  Inv v := Mux.Inv v.Produced pre v.written v.evBuffer
  Safe v i := Mux.Only v.evBuffer i
  add := fun {v} inv i frame hf =>
    (inv.mono fun f (h : v.Produced f) => h.add i frame).add i (v.produced_add i hf)
  send := fun inv _ safe k => inv.send safe k
  direct := fun inv safe =>
    inv.direct (Mux.boundary_of_only safe) ⟨isFrame_framePackage _ _, Or.inr rfl⟩
  safe_add := fun safe j frame => safe.add j frame
  safe_send := fun safe _ => safe.update _
  drained := fun _ safe empty _ k _ => safe.boundary empty k

/-- The step opens no connection and sends from no buffer while a frame of another one is
partly written; a direct ping goes out whole or not at all. -/
def SendsInTurn (n : ConnectNode) (input : NodeInput) : Prop :=
  input.op.opens = false ∧ input.op.Safe (framing []) input.env (n.withEnv input.env)

/-- The upgrade is behind the node: no frame is begun, and what waits is whole frames. -/
structure ConnectNode.Upgraded (n : ConnectNode) : Prop where
  parked : n.Parked
  boundary : ∀ i, (n.evBuffer i).cut = []
  whole : ∀ i, ∀ c ∈ (n.evBuffer i).whole, n.wire.Produced c

lemma framing_start {n : ConnectNode} (upgraded : n.Upgraded) :
    (framing n.channel.written).Inv n.wire :=
  Mux.Inv.fresh upgraded.whole upgraded.boundary _

lemma framing_step (pre : Bytes) (n : ConnectNode) (input : NodeInput)
    (inv : (framing pre).Inv n.wire ∧ n.Parked) (turn : SendsInTurn n input) :
    (framing pre).Inv (nodeStep n input).wire ∧ (nodeStep n input).Parked := by
  obtain ⟨closed, safe⟩ := turn
  exact ⟨NodeOp.step_keeps (d := framing pre) closed inv.2 inv.1 safe,
    (NodeOp.step_forward closed).parked inv.2⟩

/-- Whatever the socket accepts, a run that sends in turn writes whole frames behind the
upgrade, one after another, the last one perhaps not finished. -/
theorem wire_integrity {n : ConnectNode} (upgraded : n.Upgraded) {inputs : List NodeInput}
    (along : Along nodeStep SendsInTurn n inputs) :
    Mux.Framed (nodeRun n inputs).wire.Produced n.channel.written
      (nodeRun n inputs).channel.written := by
  have kept := invariant_along (framing_step n.channel.written)
    ⟨framing_start upgraded, upgraded.parked⟩ along
  exact kept.1.framed

/-! ## Two transcriptions -/

/-- A transcription that has been started, on an empty connection behind its upgrade. -/
def startedTranscription : ConnectNode where
  workStatus := .nodeStarted
  param := { mode := .typeRealTime }
  readEvent := true
  writeEvent := true
  channel := { socket := .established, written := ascii "GET /ws/v1 HTTP/1.1\r\n\r\n" }

theorem startedTranscription_upgraded : startedTranscription.Upgraded where
  parked := by intro handshaking; simp [startedTranscription] at handshaking
  boundary := fun _ => rfl
  whole := fun i c hc => by simp [startedTranscription] at hc

/-- Audio, a control directive and audio again; `taken` is what the socket takes of the first. -/
def audioAroundControl (taken : ℕ) : List NodeInput :=
  [{ op := .sendAudio (List.replicate 6 7), env := { accepts := [some taken] } },
   { op := .cmdNotify .cmdStControl [], env := { command := fun _ _ => some (ascii "\x7b\x7d") } },
   { op := .sendAudio (List.replicate 6 8) }]

/-- With the first frame taken whole the run sends in turn. -/
theorem wire_integrity_audio :
    Along nodeStep SendsInTurn startedTranscription (audioAroundControl 12) ∧
      Mux.Framed (nodeRun startedTranscription (audioAroundControl 12)).wire.Produced
        startedTranscription.channel.written
        (nodeRun startedTranscription (audioAroundControl 12)).channel.written := by
  have along : Along nodeStep SendsInTurn startedTranscription (audioAroundControl 12) := by
    refine ⟨⟨rfl, ?_⟩, ⟨rfl, ?_, by simp⟩, ⟨rfl, ?_⟩, trivial⟩
    · intro i _ j _
      cases j <;> rfl
    · intro i _ j _
      cases j <;> rfl
    · intro i _ j _
      cases j <;> rfl
  exact ⟨along, wire_integrity startedTranscription_upgraded along⟩

/-- A second piece of audio lets the waiting directive out inside the first frame, of which the
socket has taken three bytes. -/
theorem control_inside_audio :
    startedTranscription.Upgraded ∧ (∀ input ∈ audioAroundControl 3, input.op.opens = false) ∧
      ¬Mux.Framed (nodeRun startedTranscription (audioAroundControl 3)).wire.Produced
        startedTranscription.channel.written
        (nodeRun startedTranscription (audioAroundControl 3)).channel.written := by
  refine ⟨startedTranscription_upgraded, by decide, ?_⟩
  have sent : (nodeRun startedTranscription (audioAroundControl 3)).channel.written =
      startedTranscription.channel.written ++
        ((binaryFrame (List.replicate 6 7)).take 3 ++ textFrame (ascii "\x7b\x7d")) := by decide
  have made : (nodeRun startedTranscription (audioAroundControl 3)).queued =
      [binaryFrame (List.replicate 6 7), textFrame (ascii "\x7b\x7d"),
        binaryFrame (List.replicate 6 8)] := by decide
  rw [sent]
  refine Mux.not_framed (by decide) ?_
  rintro f ⟨-, produced⟩
  simp only [ConnectNode.wire, made, List.mem_cons, List.not_mem_nil, or_false] at produced
  rcases produced with (rfl | rfl | rfl) | rfl <;> decide

end NlsSdk.Transport
