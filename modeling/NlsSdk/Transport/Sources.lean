import NlsSdk.Transport.SendSpec

/-!
# The buffers a call sends from

For every call that writes, the buffers it turns to first in the state it finds.
A buffer it goes on with later is reached only over an emptied one, so these are
all that have to be safe.
-/
namespace NlsSdk.Transport.ConnectNode

open NlsSdk.Library

variable {e : Env} {n m : ConnectNode} {d : Discipline}

/-- `sendControlDirective` has something to send. -/
def directs (n : ConnectNode) : Prop :=
  if n.workStatus = .nodeStarted ∧ n.exitStatus = .exitInvalid then
    (n.evBuffer .cmd).length ≠ 0
  else n.exitStatus = .exitStopping ∧ n.isStop = false

instance (n : ConnectNode) : Decidable n.directs := by unfold directs; infer_instance

def controlSources (n : ConnectNode) : List Output := if n.directs then [.cmd] else []

/-- The frame is refused before anything is queued. -/
def audioRefused (e : Env) (n : ConnectNode) (frame : Bytes) : Prop :=
  n.request = false ∨ frame = [] ∨ n.audioPayload e frame = none ∨
    n.limitSize ≤ (n.evBuffer n.audioBuffer).length

instance (e : Env) (n : ConnectNode) (frame : Bytes) : Decidable (n.audioRefused e frame) := by
  unfold audioRefused; infer_instance

def audioSources (e : Env) (n : ConnectNode) (frame : Bytes) : List Output :=
  if n.audioRefused e frame then []
  else if n.sendsNow then [n.audioBuffer] else n.controlSources

/-- Stop flushes the audio kept back and sends its directive behind empty audio. -/
def stopSources (e : Env) (n : ConnectNode) : List Output :=
  (if n.audioFrame = [] then [] else n.audioSources e n.audioFrame) ++
    (if n.workStatus = .nodeStarted ∧ (n.evBuffer .binary).length = 0 ∧ n.isStop = false then
      [.cmd] else [])

def cmdSources (e : Env) (n : ConnectNode) (type : CmdType) : List Output :=
  match type with
  | .cmdStop => n.stopSources e
  | .cmdStControl =>
    if n.workStatus = .nodeStarted ∧ (n.evBuffer .binary).length = 0 then [.cmd] else []
  | .cmdWarkWord => if (n.evBuffer .wwv).length = 0 then [.cmd] else []
  | .cmdSendText => if n.workStatus = .nodeStarted then [.cmd] else []
  | .cmdSendPing | .cmdSendFlush => [.cmd]
  | _ => []

/-- What a started node sends when the socket is ready. -/
def startedSources (n : ConnectNode) : List Output :=
  if (n.evBuffer .binary).length = 0 then n.controlSources else [.binary]

def requestSources (n : ConnectNode) : List Output :=
  match n.workStatus with
  | .nodeHandshaked | .nodeStarting => if (n.evBuffer .cmd).length = 0 then [] else [.cmd]
  | .nodeWakeWording =>
    if (n.evBuffer .wwv).length = 0 then
      if n.getWakeStatus then [.cmd] else []
    else [.wwv]
  | .nodeStarted => n.startedSources
  | _ => []

/-- What is sent behind a read, in the state the read leaves. -/
def responseSources (e : Env) (n : ConnectNode) : List Output :=
  match n.workStatus with
  | .nodeHandshaking | .nodeHandshaked =>
    if (n.gatewayResponse e).2.isZero ∧ !n.isPreNodeStartStepByStep then [.cmd] else []
  | .nodeStarting | .nodeWakeWording =>
    let m := (n.webSocketResponse e).1
    if m.workStatus = .nodeStarted then m.startedSources
    else if m.workStatus = .nodeWakeWording ∧ (m.evBuffer .wwv).length ≠ 0 then [.wwv] else []
  | _ => []

/-- Every buffer of the list is safe. -/
def AllSafe (d : Discipline) (n : ConnectNode) (sources : List Output) : Prop :=
  ∀ i ∈ sources, d.Safe n.wire i

/-! ## Control directives and audio -/

theorem sendControlDirective_keeps (inv : d.Inv n.wire) (safe : AllSafe d n n.controlSources) :
    d.Inv (n.sendControlDirective e).1.wire := by
  unfold AllSafe controlSources directs at safe
  unfold sendControlDirective
  split
  case isTrue running =>
    simp only [running, and_self, if_true] at safe
    split
    case isTrue waiting => exact nlsSendFrame_keeps inv (safe .cmd (by simp [waiting])) false
    case isFalse => exact inv
  case isFalse other =>
    simp only [other, if_false] at safe
    split
    case isTrue stopping =>
      have cmdSafe : d.Safe n.wire .cmd := safe .cmd (by simpa using stopping)
      exact addCmd_send_keeps inv cmdSafe .cmdStop []
    case isFalse => exact inv

theorem sendControlDirective_safe (safe : d.Safe n.wire .cmd) :
    d.Safe (n.sendControlDirective e).1.wire .cmd := by
  unfold sendControlDirective
  split
  · split
    · exact nlsSendFrame_safe safe false
    · exact safe
  · split
    · exact addCmd_send_safe safe .cmdStop []
    · exact safe

theorem sendControlDirective_other (e : Env) (n : ConnectNode) {j : Output} (h : j ≠ .cmd) :
    (n.sendControlDirective e).1.evBuffer j = n.evBuffer j := by
  unfold sendControlDirective
  split
  · split
    · exact nlsSendFrame_other e n h false
    · rfl
  · split
    · exact addCmd_send_other e n h .cmdStop []
    · rfl

/-- A started node sends audio first and directives behind it. -/
theorem audio_then_control_keeps {i : Output} {audioFrame : Bool} (inv : d.Inv n.wire)
    (safe : d.Safe n.wire i) :
    let audio := n.nlsSendFrame e i audioFrame
    d.Inv (if audio.2.isZero then audio.1.sendControlDirective e else audio).1.wire := by
  dsimp only
  split
  case isTrue zero =>
    exact sendControlDirective_keeps (nlsSendFrame_keeps inv safe audioFrame)
      (fun j _ => nlsSendFrame_drained inv safe zero j)
  case isFalse => exact nlsSendFrame_keeps inv safe audioFrame

lemma audioBuffer_ne_cmd (n : ConnectNode) : n.audioBuffer ≠ .cmd := by
  unfold audioBuffer
  split <;> simp

/-- Queued audio changes nothing about the directives. -/
lemma controlSources_evbufferAdd (n : ConnectNode) {i : Output} (h : i ≠ .cmd) (frame : Bytes) :
    (n.evbufferAdd i frame).controlSources = n.controlSources := by
  simp [controlSources, directs, evbufferAdd, h.symm]

theorem pushAudio_keeps (inv : d.Inv n.wire) (payload : Bytes)
    (safe : AllSafe d n (if n.sendsNow then [n.audioBuffer] else n.controlSources)) :
    d.Inv (n.pushAudio e payload).1.wire := by
  have queued : d.Inv (n.evbufferAdd n.audioBuffer (binaryFrame payload)).wire :=
    d.add inv _ (isFrame_framePackage _ _)
  simp only [pushAudio]
  by_cases now : n.sendsNow
  · simp only [now, if_true] at safe ⊢
    exact audio_then_control_keeps queued (d.safe_add (safe _ (by simp)) _ _)
  · simp only [now, if_false, Ret.isZero_ok, decide_true, if_true] at safe ⊢
    refine sendControlDirective_keeps queued ?_
    rw [controlSources_evbufferAdd n n.audioBuffer_ne_cmd]
    exact fun i hi => d.safe_add (safe i hi) _ _

/-- When pushed audio leaves its buffer empty, directives may follow. -/
theorem pushAudio_cmd_safe (inv : d.Inv n.wire) (payload : Bytes)
    (safe : AllSafe d n (if n.sendsNow then [n.audioBuffer] else n.controlSources))
    (empty : ((n.pushAudio e payload).1.evBuffer n.audioBuffer).length = 0) :
    d.Safe (n.pushAudio e payload).1.wire .cmd := by
  have queued : d.Inv (n.evbufferAdd n.audioBuffer (binaryFrame payload)).wire :=
    d.add inv _ (isFrame_framePackage _ _)
  simp only [pushAudio] at empty ⊢
  by_cases now : n.sendsNow
  · simp only [now, if_true] at safe empty ⊢
    split at empty
    case isTrue zero =>
      rw [if_pos zero]
      exact sendControlDirective_safe
        (nlsSendFrame_drained queued (d.safe_add (safe _ (by simp)) _ _) zero .cmd)
    case isFalse left => exact absurd ((nlsSendFrame_isZero e _ _ _).mpr empty) left
  · simp only [now, if_false, Ret.isZero_ok, decide_true, if_true,
      sendControlDirective_other e _ n.audioBuffer_ne_cmd] at empty
    have long := length_framePackage .binaryFrame payload
    simp only [evbufferAdd, Function.update_self, ChunkQueue.length_add, binaryFrame] at empty
    omega

theorem addAudioDataBuffer_keeps (inv : d.Inv n.wire) {frame : Bytes}
    (safe : AllSafe d n (n.audioSources e frame)) :
    d.Inv (n.addAudioDataBuffer e frame).1.wire := by
  simp only [addAudioDataBuffer]
  split
  · exact inv
  split
  · exact inv
  split
  · exact inv
  split
  · exact inv
  rename_i payload framed room
  have accepted : ¬n.audioRefused e frame := by
    simp_all [audioRefused]
  have pushed := pushAudio_keeps (e := e) inv payload
    (by simpa only [audioSources, accepted, if_false] using safe)
  split
  · simpa using pushed
  · exact pushed

theorem addAudioDataBuffer_refused {frame : Bytes} (refused : n.audioRefused e frame) :
    (n.addAudioDataBuffer e frame).1 = n := by
  unfold audioRefused at refused
  simp only [addAudioDataBuffer]
  split
  · rfl
  split
  · rfl
  split
  · rfl
  rw [if_pos (by simp_all)]

/-- When added audio leaves its buffer empty, directives may follow. -/
theorem addAudioDataBuffer_cmd_safe (inv : d.Inv n.wire) {frame : Bytes}
    (safe : AllSafe d n (n.audioSources e frame)) (accepted : ¬n.audioRefused e frame)
    (empty : ((n.addAudioDataBuffer e frame).1.evBuffer n.audioBuffer).length = 0) :
    d.Safe (n.addAudioDataBuffer e frame).1.wire .cmd := by
  obtain ⟨payload, same⟩ : ∃ payload,
      (n.addAudioDataBuffer e frame).1.wire = (n.pushAudio e payload).1.wire := by
    simp only [audioRefused, not_or] at accepted
    obtain ⟨request, nonempty, encoded, room⟩ := accepted
    obtain ⟨payload, framed⟩ := Option.ne_none_iff_exists'.mp encoded
    refine ⟨payload, ?_⟩
    replace request : n.request = true := by simpa using request
    simp only [addAudioDataBuffer, request, Bool.not_true, Bool.false_eq_true, nonempty, framed,
      room, if_false]
    split
    · simp
    · rfl
  have sameBuffers := congrArg Wire.evBuffer same
  rw [same]
  refine pushAudio_cmd_safe inv payload (by simpa only [audioSources, accepted, if_false] using safe) ?_
  rwa [← show (n.addAudioDataBuffer e frame).1.evBuffer = (n.pushAudio e payload).1.evBuffer
    from sameBuffers]

theorem addRemainAudioData_keeps (inv : d.Inv n.wire)
    (safe : n.audioFrame = [] ∨ AllSafe d n (n.audioSources e n.audioFrame)) :
    d.Inv (n.addRemainAudioData e).1.wire := by
  unfold addRemainAudioData
  split
  case isTrue => exact inv
  case isFalse kept => exact addAudioDataBuffer_keeps inv (safe.resolve_left kept)

/-- Audio kept back for the wake word is not flushed by the Stop of a started session. -/
def StopSafe (n : ConnectNode) : Prop :=
  n.audioFrame = [] ∨ n.audioBuffer = .binary ∨ n.workStatus ≠ .nodeStarted

end NlsSdk.Transport.ConnectNode
