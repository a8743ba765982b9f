import NlsSdk.Framework.NlsRequestParam
import NlsSdk.Transport.StartCall

/-!
# The offsets of a relaunched session

A relaunch tells the service where the session was interrupted: how long its
audio had been going and which sentence began last. `connectNode.cpp` keeps both
in fields of the node that a new session does not reset. Here a node runs
together with what its user can tell of the session, and the two agree as long
as every session sends its first audio by a write of the event loop.
-/
namespace NlsSdk.Transport

open NlsSdk.Library
open NlsSdk.Framework (NlsRequestParam Uuids Members)

/-! ## The command of a relaunch -/

def timeOffsetKey : Bytes := ascii "tw_time_offset"

def indexOffsetKey : Bytes := ascii "tw_index_offset"

namespace NodeReconnection

/-- `interruption_timestamp_ms - first_audio_timestamp_ms` of two `uint64_t`. -/
def timeOffset (r : NodeReconnection) : ℤ :=
  ((r.interruptionTimestampMs : ℤ) - r.firstAudioTimestampMs) % 2 ^ 64

/-- The object whose text `setPayloadParam` reads back. -/
def offsets (r : NodeReconnection) : Json :=
  .object [(indexOffsetKey, .int r.twIndexOffset), (timeOffsetKey, .int r.timeOffset)]

end NodeReconnection

/-- `getStartCommand` of the classes of requests. -/
inductive StartMaker
  | speech (name : Bytes) (uuids : Uuids)
  | dashScope (payload : Members) (uuids : Uuids)

def StartMaker.getStartCommand : StartMaker → NlsRequestParam → Json × NlsRequestParam
  | .speech name uuids, p => p.getStartCommand name uuids
  | .dashScope payload uuids, p => p.dashStartCommand payload uuids

/-- The command `addCmdDataBuffer` builds for `CmdStart`, and the parameters it leaves. -/
def buildStart (r : NodeReconnection) (p : NlsRequestParam) (maker : StartMaker) :
    Json × NlsRequestParam :=
  if r.state = .triggerReconnection then
    let made := maker.getStartCommand (p.setPayloadParam (some r.offsets)).2
    (made.1, (made.2.removePayloadParam timeOffsetKey).removePayloadParam indexOffsetKey)
  else
    maker.getStartCommand p

/-- A member of the payload of a command. -/
def payloadMember (command : Json) (key : Bytes) : Option Json :=
  match command with
  | .object members =>
    match members.lookup (ascii "payload") with
    | some (.object payload) => payload.lookup key
    | _ => none
  | _ => none

/-! ## A node and the session of its user -/

/-- What the user can tell of the session under way. -/
structure UserSession where
  startedAt : ℕ := 0
  /-- when the first audio went out -/
  firstAudio : Option ℕ := none
  /-- the index of the last SentenceBegin -/
  lastIndex : Option ℕ := none
  /-- when the session was interrupted last -/
  interrupted : Option ℕ := none

structure ReconnectingNode where
  node : ConnectNode
  param : NlsRequestParam := {}
  /-- the last time read from the clock -/
  clock : ℕ := 0
  session : UserSession := {}

/-- The functions of the node that touch the offsets, and whatever else happens to it. -/
inductive OffsetOp
  | start (e : Env)
  /-- a write of the event loop, marked as audio -/
  | sendFromEvent (e : Env)
  /-- any other write -/
  | send (e : Env) (i : Output)
  | handlerFrame (e : Env) (frameEvent : NlsEvent)
  | statusAfter (type : EventType)
  | startCommand (e : Env) (maker : StartMaker)
  | elsewhere (node : ConnectNode) (param : NlsRequestParam)

namespace ConnectNode

/-- The call of `start` begins a session. -/
def begins (e : Env) (n : ConnectNode) : Prop :=
  ((n.usePool e.hasPool).resetClosed).workStatus = .nodeCreated ∧
    ((n.usePool e.hasPool).resetClosed).exitStatus = .exitInvalid

instance (e : Env) (n : ConnectNode) : Decidable (n.begins e) :=
  inferInstanceAs (Decidable (_ ∧ _))

/-- The write gives audio to the connection. -/
def sendsAudio (e : Env) (n : ConnectNode) (i : Output) : Prop :=
  i ≠ .cmd ∧ (n.evBuffer i).length ≠ 0 ∧
    (n.nlsSend e ((n.evBuffer i).peek nodeFrameSize)).2.failed = false

instance (e : Env) (n : ConnectNode) (i : Output) : Decidable (n.sendsAudio e i) :=
  inferInstanceAs (Decidable (_ ∧ _ ∧ _))

/-- The event reaches the listener's side of the node. -/
def hears (n : ConnectNode) : Prop := n.workStatus ≠ .nodeInvalid ∧ n.handler = true

instance (n : ConnectNode) : Decidable n.hears := inferInstanceAs (Decidable (_ ∧ _))

/-- The event interrupts the session, which will be launched again. -/
def interruptedBy (n : ConnectNode) (frameEvent : NlsEvent) : Prop :=
  (n.request ∧ n.param.enableReconnect) ∧ frameEvent.msgType = .taskFailed ∧
    retriable frameEvent.statusCode ∧ (n.reconnection.state = .noReconnection ∨
      n.reconnection.state = .newReconnectionStarting)

instance (n : ConnectNode) (frameEvent : NlsEvent) : Decidable (n.interruptedBy frameEvent) :=
  inferInstanceAs (Decidable (_ ∧ _ ∧ _ ∧ _))

end ConnectNode

namespace UserSession

def noteAudio (u : UserSession) (sent : Bool) (now : ℕ) : UserSession :=
  if sent then { u with firstAudio := some (u.firstAudio.getD now) } else u

def noteIndex (u : UserSession) (frameEvent : NlsEvent) : UserSession :=
  if frameEvent.msgType = .sentenceBegin then
    { u with lastIndex := some frameEvent.sentenceIndex }
  else u

def noteInterruption (u : UserSession) (interrupted : Bool) (now : ℕ) : UserSession :=
  if interrupted then { u with interrupted := some now } else u

end UserSession

namespace ReconnectingNode

/-- The environment of an operation gives the time. -/
def step (s : ReconnectingNode) : OffsetOp → ReconnectingNode
  | .start e =>
    { s with
      node := (s.node.withEnv e).start e
      clock := e.now
      session := if (s.node.withEnv e).begins e then { startedAt := e.now } else s.session }
  | .sendFromEvent e =>
    { s with
      node := ((s.node.withEnv e).nlsSendFrame e .binary true).1
      clock := e.now
      session := s.session.noteAudio ((s.node.withEnv e).sendsAudio e .binary) e.now }
  | .send e i =>
    { s with
      node := ((s.node.withEnv e).nlsSendFrame e i false).1
      clock := e.now
      session := s.session.noteAudio ((s.node.withEnv e).sendsAudio e i) e.now }
  | .handlerFrame e frameEvent =>
    { s with
      node := (s.node.handlerFrame e frameEvent).1
      clock := e.now
      session :=
        if s.node.hears then
          (s.session.noteIndex frameEvent).noteInterruption (s.node.interruptedBy frameEvent) e.now
        else s.session }
  | .statusAfter type => { s with node := s.node.statusAfter type }
  | .startCommand e maker =>
    { s with
      node := s.node.addCmdDataBuffer e .cmdStart []
      param := (buildStart s.node.reconnection s.param maker).2
      clock := e.now }
  | .elsewhere node param =>
    { s with
      node := { node with
        isFirstBinaryFrame := s.node.isFirstBinaryFrame
        reconnection := { node.reconnection with
          twIndexOffset := s.node.reconnection.twIndexOffset
          interruptionTimestampMs := s.node.reconnection.interruptionTimestampMs
          firstAudioTimestampMs := s.node.reconnection.firstAudioTimestampMs } }
      param }

/-- The time offset a relaunch should tell. -/
def expectedTime (u : UserSession) : ℤ :=
  match u.firstAudio with
  | some audio => (u.interrupted.getD 0 : ℤ) - audio
  | none => 0

/-- The start command of a relaunch tells the offsets of the session, which is at least that old,
and leaves the payload as it was. -/
def RightOffsets (s : ReconnectingNode) : OffsetOp → Prop
  | .startCommand e maker =>
    s.node.reconnection.state = .triggerReconnection →
      let made := buildStart s.node.reconnection s.param maker
      payloadMember made.1 timeOffsetKey = some (.int (expectedTime s.session)) ∧
        payloadMember made.1 indexOffsetKey = some (.int (s.session.lastIndex.getD 0)) ∧
        expectedTime s.session ≤ (e.now : ℤ) - s.session.startedAt ∧
        made.2.payload = s.param.payload
  | _ => True

/-- The clock does not run backwards, and shows less than 2^64 ms. -/
def Timely (s : ReconnectingNode) : OffsetOp → Prop
  | .start e | .sendFromEvent e | .send e _ | .handlerFrame e _ | .startCommand e _ =>
    s.clock ≤ e.now ∧ e.now < 2 ^ 64
  | _ => True

/-- The session was interrupted behind its first audio. -/
def InterruptedInAudio (u : UserSession) : Prop :=
  ∃ interrupted audio, u.interrupted = some interrupted ∧ u.firstAudio = some audio ∧
    audio ≤ interrupted

/-- The first audio of a session goes out by a write of the event loop, before which no binary
frame went either way; a relaunch is one of the speech service, follows an interruption behind that
audio, a SentenceBegin is remembered from this session only, and the user set no offsets. -/
def Marked (s : ReconnectingNode) : OffsetOp → Prop
  | .sendFromEvent e =>
    (s.node.withEnv e).sendsAudio e .binary → s.session.firstAudio = none →
      s.node.isFirstBinaryFrame = true
  | .send e i => (s.node.withEnv e).sendsAudio e i → s.session.firstAudio ≠ none
  | .startCommand _ maker =>
    s.node.reconnection.state = .triggerReconnection →
      (∃ name uuids, maker = .speech name uuids) ∧ InterruptedInAudio s.session ∧
        (s.session.lastIndex = none → s.node.reconnection.twIndexOffset = 0) ∧
        ∀ member ∈ s.param.payload, member.1 ≠ timeOffsetKey ∧ member.1 ≠ indexOffsetKey
  | _ => True

/-- What the node noted is what happened in the session. -/
structure Noted (s : ReconnectingNode) : Prop where
  audio : ∀ audio, s.session.firstAudio = some audio →
    s.node.reconnection.firstAudioTimestampMs = audio ∧ s.node.isFirstBinaryFrame = false ∧
      s.session.startedAt ≤ audio
  index : ∀ index, s.session.lastIndex = some index → s.node.reconnection.twIndexOffset = index
  interruption : ∀ interrupted, s.session.interrupted = some interrupted →
    s.node.reconnection.interruptionTimestampMs = interrupted ∧ interrupted ≤ s.clock ∧
      interrupted < 2 ^ 64
  started : s.session.startedAt ≤ s.clock

end ReconnectingNode

/-! ## What the functions of the node note -/

/-- The fields a relaunch reads. -/
structure Marks where
  firstAudio : ℕ
  index : ℕ
  interruption : ℕ
  isFirstBinaryFrame : Bool

namespace ConnectNode

def marks (n : ConnectNode) : Marks where
  firstAudio := n.reconnection.firstAudioTimestampMs
  index := n.reconnection.twIndexOffset
  interruption := n.reconnection.interruptionTimestampMs
  isFirstBinaryFrame := n.isFirstBinaryFrame

/-- A call that begins no session resets nothing. -/
lemma start_marks {e : Env} {n : ConnectNode} (rejected : ¬n.begins e) :
    (n.start e).marks = n.marks := by
  have open_ : ¬((n.usePool e.hasPool).isLongConnection ∧
      (n.usePool e.hasPool).workStatus = .nodeClosed) := by
    intro reset
    apply rejected
    unfold begins resetClosed
    rw [if_pos reset]
    exact ⟨rfl, rfl⟩
  change ¬((n.isLongConnection && !e.hasPool) = true ∧ n.workStatus = .nodeClosed) at open_
  simp only [start, if_neg open_]
  split_ifs <;> rfl

lemma nlsSend_marks (e : Env) (n : ConnectNode) (frame : Bytes) :
    (n.nlsSend e frame).1.marks = n.marks := by
  unfold nlsSend
  split
  · rfl
  · split <;> rfl

lemma nlsSendFrame_marks (e : Env) (n : ConnectNode) (i : Output) :
    (n.nlsSendFrame e i false).1.marks = n.marks := by
  have sent := nlsSend_marks e n ((n.evBuffer i).peek nodeFrameSize)
  simp only [nlsSendFrame]
  split
  · rfl
  split
  · exact sent
  · exact sent

/-- A write of the event loop notes the time when it gives the first audio to the connection. -/
lemma nlsSendFrame_audio {e : Env} {n : ConnectNode} (sends : n.sendsAudio e .binary) :
    (n.nlsSendFrame e .binary true).1.marks =
      if n.isFirstBinaryFrame then
        { n.marks with firstAudio := e.now, isFirstBinaryFrame := false }
      else n.marks := by
  obtain ⟨-, some_, taken⟩ := sends
  have sent := nlsSend_marks e n ((n.evBuffer .binary).peek nodeFrameSize)
  simp only [nlsSendFrame, if_neg some_]
  cases outcome : (n.nlsSend e ((n.evBuffer .binary).peek nodeFrameSize)).2 with
  | error code =>
    rw [outcome] at taken
    cases taken
  | ok k =>
    generalize (n.nlsSend e ((n.evBuffer .binary).peek nodeFrameSize)).1 = m at sent ⊢
    have first : m.isFirstBinaryFrame = n.isFirstBinaryFrame :=
      congrArg Marks.isFirstBinaryFrame sent
    change (m.noteFirstAudio e true).marks = _
    rw [← sent, ← first]
    unfold noteFirstAudio
    simp only [true_and]
    split <;> rfl

lemma nlsSendFrame_silent {e : Env} {n : ConnectNode} (silent : ¬n.sendsAudio e .binary) :
    (n.nlsSendFrame e .binary true).1.marks = n.marks := by
  have sent := nlsSend_marks e n ((n.evBuffer .binary).peek nodeFrameSize)
  simp only [nlsSendFrame]
  split
  · rfl
  · next some_ =>
    cases outcome : (n.nlsSend e ((n.evBuffer .binary).peek nodeFrameSize)).2 with
    | error code => exact sent
    | ok k => exact absurd ⟨by decide, some_, by rw [outcome]; rfl⟩ silent

/-! ### Events -/

/-- What an event that is heard leaves in the fields. -/
def heardMarks (e : Env) (n : ConnectNode) (frameEvent : NlsEvent) : Marks :=
  { n.marks with
    index := if frameEvent.msgType = .sentenceBegin then frameEvent.sentenceIndex
      else n.marks.index
    interruption := if n.interruptedBy frameEvent then e.now else n.marks.interruption }

lemma nodeReconnecting_marks (e : Env) (n : ConnectNode) :
    (n.nodeReconnecting e).marks = n.marks := by
  unfold nodeReconnecting
  split <;> rfl

lemma afterCallback_marks (e : Env) (n : ConnectNode) (type : EventType) (ignored : Bool) :
    (n.afterCallback e type ignored).marks = n.marks := by
  have again := nodeReconnecting_marks e n
  unfold afterCallback
  split
  · cases ignored <;> exact again
  · split <;> rfl

lemma ignoreCallbackWhenReconnecting_marks (e : Env) (n : ConnectNode) (frameEvent : NlsEvent) :
    (n.ignoreCallbackWhenReconnecting e frameEvent.msgType frameEvent.statusCode).1.marks =
      { n.marks with
        interruption := if n.interruptedBy frameEvent then e.now else n.marks.interruption } := by
  simp only [ignoreCallbackWhenReconnecting, interruptedBy]
  by_cases enabled : n.request ∧ n.param.enableReconnect
  · rw [if_pos enabled]
    have noted : (n.noteInterruption e frameEvent.msgType frameEvent.statusCode).marks =
        { n.marks with
          interruption := if n.interruptedBy frameEvent then e.now
            else n.marks.interruption } := by
      simp only [noteInterruption, interruptedBy, enabled, true_and]
      split <;> rfl
    simp only [interruptedBy] at noted
    rw [← noted]
    split
    · split <;> rfl
    · rfl
  · simp only [enabled, false_and, if_false]

lemma updateTwIndexOffset_marks (n : ConnectNode) (frameEvent : NlsEvent) :
    (n.updateTwIndexOffset frameEvent).marks =
      { n.marks with
        index := if frameEvent.msgType = .sentenceBegin then frameEvent.sentenceIndex
          else n.marks.index } := by
  unfold updateTwIndexOffset
  split <;> rfl

lemma updateTwIndexOffset_interruptedBy (n : ConnectNode) (frameEvent : NlsEvent) :
    (n.updateTwIndexOffset frameEvent).interruptedBy frameEvent ↔ n.interruptedBy frameEvent := by
  unfold updateTwIndexOffset
  split <;> exact Iff.rfl

theorem handlerFrame_marks (e : Env) {n : ConnectNode} (hears : n.hears) (frameEvent : NlsEvent) :
    (n.handlerFrame e frameEvent).1.marks = n.heardMarks e frameEvent := by
  obtain ⟨valid, handler⟩ := hears
  have told := ignoreCallbackWhenReconnecting_marks e (n.updateTwIndexOffset frameEvent) frameEvent
  rw [updateTwIndexOffset_marks] at told
  simp only [updateTwIndexOffset_interruptedBy] at told
  simp only [handlerFrame, if_neg valid, handler, Bool.not_true, Bool.false_eq_true, if_false]
  rw [afterCallback_marks]
  split <;> exact told

lemma handlerFrame_deaf (e : Env) {n : ConnectNode} (deaf : ¬n.hears) (frameEvent : NlsEvent) :
    (n.handlerFrame e frameEvent).1 = n := by
  unfold handlerFrame
  split
  · rfl
  split
  · rfl
  · next valid handler => exact absurd ⟨valid, by simpa using handler⟩ deaf

/-- A binary frame of the service is taken for the first one, too. -/
lemma statusAfter_marks (n : ConnectNode) (type : EventType) :
    (n.statusAfter type).marks = n.marks ∨
      (n.statusAfter type).marks = { n.marks with isFirstBinaryFrame := false } := by
  unfold statusAfter
  split
  case h_1 | h_2 | h_3 =>
    left
    simp only [enterStarted]
    split_ifs <;> rfl
  case h_8 => split <;> exact Or.inl rfl
  case h_10 =>
    split
    · exact Or.inr rfl
    · exact Or.inl rfl
  all_goals exact Or.inl rfl

lemma addCmdDataBuffer_marks (e : Env) (n : ConnectNode) (type : CmdType) (message : Bytes) :
    (n.addCmdDataBuffer e type message).marks = n.marks := by
  simp only [addCmdDataBuffer]
  split
  · rfl
  split
  · split <;> rfl
  · split <;> rfl

end ConnectNode

namespace ReconnectingNode

/-! ## The fields and the session agree -/

lemma Noted.of_marks {s t : ReconnectingNode} (noted : s.Noted)
    (marks : t.node.marks = s.node.marks) (session : t.session = s.session)
    (clock : s.clock ≤ t.clock) : t.Noted := by
  obtain ⟨audio, index, interruption, started⟩ := noted
  have firstAudio := congrArg Marks.firstAudio marks
  have first := congrArg Marks.isFirstBinaryFrame marks
  have lastIndex := congrArg Marks.index marks
  have last := congrArg Marks.interruption marks
  simp only [ConnectNode.marks] at firstAudio first lastIndex last
  refine ⟨fun a now => ?_, fun i now => ?_, fun t' now => ?_, ?_⟩
  · rw [firstAudio, first, session]
    exact audio a (session ▸ now)
  · rw [lastIndex]
    exact index i (session ▸ now)
  · obtain ⟨field, past, small⟩ := interruption t' (session ▸ now)
    exact ⟨last.trans field, past.trans clock, small⟩
  · rw [session]
    exact started.trans clock

lemma noteAudio_false (u : UserSession) (now : ℕ) : u.noteAudio false now = u := rfl

lemma Noted.start {s : ReconnectingNode} (noted : s.Noted) {e : Env} (timely : s.clock ≤ e.now) :
    (s.step (.start e)).Noted := by
  by_cases begins : (s.node.withEnv e).begins e
  · refine ⟨fun a now => ?_, fun i now => ?_, fun t now => ?_, ?_⟩
    all_goals simp only [step, if_pos begins] at *
    · cases now
    · cases now
    · cases now
    · exact le_rfl
  · refine noted.of_marks (ConnectNode.start_marks begins) ?_ timely
    exact if_neg begins

lemma Noted.sendFromEvent {s : ReconnectingNode} (noted : s.Noted) {e : Env}
    (timely : s.clock ≤ e.now) (marked : s.Marked (.sendFromEvent e)) :
    (s.step (.sendFromEvent e)).Noted := by
  by_cases sends : (s.node.withEnv e).sendsAudio e .binary
  · have marks := ConnectNode.nlsSendFrame_audio sends
    cases audio : s.session.firstAudio with
    | none =>
      have first : (s.node.withEnv e).isFirstBinaryFrame = true := marked sends audio
      rw [if_pos first] at marks
      have time := congrArg Marks.firstAudio marks
      have later := congrArg Marks.isFirstBinaryFrame marks
      have lastIndex := congrArg Marks.index marks
      have last := congrArg Marks.interruption marks
      have session : (s.step (.sendFromEvent e)).session =
          { s.session with firstAudio := some e.now } := by
        simp only [step, UserSession.noteAudio, sends, decide_true, if_true, audio,
          Option.getD_none]
      refine ⟨fun a now => ?_, fun i now => ?_, fun t now => ?_, ?_⟩
      all_goals rw [session] at *
      · cases now
        exact ⟨time, later, noted.started.trans timely⟩
      · exact lastIndex.trans (noted.index i now)
      · obtain ⟨field, past, small⟩ := noted.interruption t now
        exact ⟨last.trans field, past.trans timely, small⟩
      · exact noted.started.trans timely
    | some a =>
      obtain ⟨-, later, -⟩ := noted.audio a audio
      have again : ¬((s.node.withEnv e).isFirstBinaryFrame = true) := by
        change ¬s.node.isFirstBinaryFrame = true
        rw [later]
        decide
      rw [if_neg again] at marks
      refine noted.of_marks marks ?_ timely
      simp only [step, UserSession.noteAudio, sends, decide_true, if_true, audio,
        Option.getD_some]
      rw [← audio]
  · refine noted.of_marks (ConnectNode.nlsSendFrame_silent sends) ?_ timely
    simp only [step, sends, decide_false, noteAudio_false]

lemma Noted.send {s : ReconnectingNode} (noted : s.Noted) {e : Env} {i : Output}
    (timely : s.clock ≤ e.now) (marked : s.Marked (.send e i)) : (s.step (.send e i)).Noted := by
  refine noted.of_marks (ConnectNode.nlsSendFrame_marks e (s.node.withEnv e) i) ?_ timely
  by_cases sends : (s.node.withEnv e).sendsAudio e i
  · obtain ⟨a, audio⟩ := Option.ne_none_iff_exists'.mp (marked sends)
    simp only [step, UserSession.noteAudio, sends, decide_true, if_true, audio, Option.getD_some]
    rw [← audio]
  · simp only [step, sends, decide_false, noteAudio_false]

lemma Noted.handlerFrame {s : ReconnectingNode} (noted : s.Noted) {e : Env}
    (timely : s.clock ≤ e.now) (small : e.now < 2 ^ 64) (frameEvent : NlsEvent) :
    (s.step (.handlerFrame e frameEvent)).Noted := by
  by_cases hears : s.node.hears
  · have marks := ConnectNode.handlerFrame_marks e hears frameEvent
    have firstAudio := congrArg Marks.firstAudio marks
    have first := congrArg Marks.isFirstBinaryFrame marks
    have lastIndex := congrArg Marks.index marks
    have last := congrArg Marks.interruption marks
    simp only [ConnectNode.heardMarks, ConnectNode.marks] at firstAudio first lastIndex last
    refine ⟨fun a now => ?_, fun i now => ?_, fun t now => ?_, ?_⟩
    all_goals simp only [step, if_pos hears, UserSession.noteInterruption,
      UserSession.noteIndex] at *
    · rw [firstAudio, first]
      split_ifs at now ⊢ <;> exact noted.audio a now
    · rw [lastIndex]
      split_ifs at now ⊢
      all_goals first
        | exact noted.index i now
        | exact Option.some.inj now
    · rw [last]
      by_cases interrupts : s.node.interruptedBy frameEvent
      · simp only [interrupts, decide_true, if_true, Option.some.injEq] at now
        rw [if_pos interrupts]
        exact ⟨now, now ▸ le_rfl, now ▸ small⟩
      · simp only [interrupts, decide_false, Bool.false_eq_true, if_false] at now
        rw [if_neg interrupts]
        have same : s.session.interrupted = some t := by
          split at now <;> exact now
        obtain ⟨field, past, bound⟩ := noted.interruption t same
        exact ⟨field, past.trans timely, bound⟩
    · split_ifs <;> exact noted.started.trans timely
  · refine noted.of_marks ?_ (if_neg hears) timely
    exact congrArg ConnectNode.marks (ConnectNode.handlerFrame_deaf e hears frameEvent)

lemma Noted.statusAfter {s : ReconnectingNode} (noted : s.Noted) (type : EventType) :
    (s.step (.statusAfter type)).Noted := by
  rcases ConnectNode.statusAfter_marks s.node type with same | taken
  · exact noted.of_marks same rfl le_rfl
  · have firstAudio := congrArg Marks.firstAudio taken
    have first := congrArg Marks.isFirstBinaryFrame taken
    have lastIndex := congrArg Marks.index taken
    have last := congrArg Marks.interruption taken
    refine ⟨fun a now => ?_, fun i now => ?_, fun t now => ?_, noted.started⟩
    · obtain ⟨field, -, past⟩ := noted.audio a now
      exact ⟨firstAudio.trans field, first, past⟩
    · exact lastIndex.trans (noted.index i now)
    · obtain ⟨field, past, small⟩ := noted.interruption t now
      exact ⟨last.trans field, past, small⟩

theorem Noted.step {s : ReconnectingNode} (noted : s.Noted) (op : OffsetOp)
    (timely : s.Timely op) (marked : s.Marked op) : (s.step op).Noted := by
  cases op with
  | start e => exact noted.start timely.1
  | sendFromEvent e => exact noted.sendFromEvent timely.1 marked
  | send e i => exact noted.send timely.1 marked
  | handlerFrame e frameEvent => exact noted.handlerFrame timely.1 timely.2 frameEvent
  | statusAfter type => exact noted.statusAfter type
  | startCommand e maker =>
    exact noted.of_marks (ConnectNode.addCmdDataBuffer_marks e s.node .cmdStart []) rfl timely.1
  | elsewhere node param => exact noted.of_marks rfl rfl le_rfl

/-! ## The command of a relaunch tells the session -/

lemma payloadMember_getStartCommand (p : NlsRequestParam) (name : Bytes) (uuids : Uuids)
    (key : Bytes) :
    payloadMember (p.getStartCommand name uuids).1 key = p.payload.lookup key := rfl

lemma setOffsets_payload (r : NodeReconnection) (p : NlsRequestParam) :
    (p.setPayloadParam (some r.offsets)).2.payload =
      setMember timeOffsetKey (.int r.timeOffset)
        (setMember indexOffsetKey (.int r.twIndexOffset) p.payload) := rfl

/-- The offsets are in the payload of the command, and out of it behind the command. -/
theorem buildStart_offsets {r : NodeReconnection} (again : r.state = .triggerReconnection)
    (p : NlsRequestParam) (name : Bytes) (uuids : Uuids) :
    payloadMember (buildStart r p (.speech name uuids)).1 timeOffsetKey =
        some (.int r.timeOffset) ∧
      payloadMember (buildStart r p (.speech name uuids)).1 indexOffsetKey =
        some (.int r.twIndexOffset) ∧
      (buildStart r p (.speech name uuids)).2.payload =
        removeMember indexOffsetKey (removeMember timeOffsetKey p.payload) := by
  simp only [buildStart, if_pos again, StartMaker.getStartCommand, payloadMember_getStartCommand,
    setOffsets_payload]
  refine ⟨lookup_setMember _ _ _, ?_, ?_⟩
  · rw [lookup_setMember_of_ne (by decide), lookup_setMember]
  · change removeMember indexOffsetKey (removeMember timeOffsetKey (setMember timeOffsetKey _
      (setMember indexOffsetKey _ p.payload))) = _
    rw [removeMember_setMember, removeMember_comm, removeMember_setMember, removeMember_comm]

lemma expectedTime_eq {s : ReconnectingNode} (noted : s.Noted)
    (within : InterruptedInAudio s.session) :
    s.node.reconnection.timeOffset = expectedTime s.session ∧
      expectedTime s.session ≤ (s.clock : ℤ) - s.session.startedAt := by
  obtain ⟨interrupted, audio, interruption, firstAudio, order⟩ := within
  obtain ⟨time, past, small⟩ := noted.interruption interrupted interruption
  obtain ⟨begun, -, started⟩ := noted.audio audio firstAudio
  simp only [NodeReconnection.timeOffset, expectedTime, time, begun, firstAudio, interruption,
    Option.getD_some]
  refine ⟨Int.emod_eq_of_lt (by omega) (by omega), by omega⟩

theorem step_rightOffsets {s : ReconnectingNode} (noted : s.Noted) (op : OffsetOp)
    (timely : s.Timely op) (marked : s.Marked op) : s.RightOffsets op := by
  cases op with
  | startCommand e maker =>
    intro again
    obtain ⟨⟨name, uuids, rfl⟩, within, unset, unused⟩ := marked again
    obtain ⟨time, index, payload⟩ := buildStart_offsets again s.param name uuids
    obtain ⟨right, age⟩ := expectedTime_eq noted within
    have last : s.node.reconnection.twIndexOffset = s.session.lastIndex.getD 0 := by
      cases known : s.session.lastIndex with
      | none => exact unset known
      | some i => exact noted.index i known
    have clean : removeMember timeOffsetKey s.param.payload = s.param.payload :=
      removeMember_eq_self.mpr fun member inside => (unused member inside).1
    refine ⟨?_, ?_, ?_, ?_⟩
    · rw [time, right]
    · rw [index, last]
    · have now := timely.1
      omega
    · rw [payload, clean]
      exact removeMember_eq_self.mpr fun member inside => (unused member inside).2
  | _ => trivial

/-- Along the sessions of a node every relaunch tells the offsets of its session, where each step
meets the condition. -/
theorem relaunch_offsets (node : ConnectNode) (param : NlsRequestParam) (ops : List OffsetOp)
    (meets : Along step (fun s op => s.Timely op ∧ s.Marked op) { node, param } ops) :
    Along step RightOffsets { node, param } ops := by
  refine along_of_invariant (I := Noted) (fun s op noted now => noted.step op now.1 now.2)
    (fun s op noted now => step_rightOffsets noted op now.1 now.2) ?_ meets
  refine ⟨fun a now => ?_, fun i now => ?_, fun t now => ?_, le_rfl⟩
  · cases now
  · cases now
  · cases now

/-! ## A session that is interrupted -/

def continued : ConnectNode where
  param := { mode := .typeRealTime, enableReconnect := true }

/-- The node once the session has started, with a frame of audio queued. -/
def streaming : ConnectNode :=
  { continued with
    workStatus := .nodeStarted
    writeEvent := true
    channel := { socket := .established }
    evBuffer := Function.update continued.evBuffer .binary (({} : EvBuffer).add [1, 2, 3]) }

def startUuids : Uuids := { fresh := ascii "c1", again := ascii "c2", messageId := ascii "m1" }

/-- Audio goes out, a sentence begins, and the service fails; the node is to be launched again. -/
def untilRelaunch (sending : OffsetOp) : List OffsetOp :=
  [.start { now := 1000 }, .elsewhere streaming {}, sending,
    .handlerFrame { now := 1800 } { msgType := .sentenceBegin, sentenceIndex := 1 },
    .handlerFrame { now := 4500 } { msgType := .taskFailed, statusCode := 50000000 },
    .handlerFrame { now := 4500 } { msgType := .close }]

def interruptedSession (sending : OffsetOp) : List OffsetOp :=
  untilRelaunch sending ++
    [.startCommand { now := 4700 } (.speech (ascii "StartTranscription") startUuids)]

/-- The audio is sent by the event loop. -/
theorem relaunch_offsets_event :
    Along step RightOffsets { node := continued, param := {} }
      (interruptedSession (.sendFromEvent { now := 1500 })) := by
  apply relaunch_offsets
  refine ⟨⟨⟨by decide, by decide⟩, trivial⟩, ⟨trivial, trivial⟩,
    ⟨⟨by decide, by decide⟩, fun _ _ => rfl⟩, ⟨⟨by decide, by decide⟩, trivial⟩,
    ⟨⟨by decide, by decide⟩, trivial⟩, ⟨⟨by decide, by decide⟩, trivial⟩,
    ⟨⟨by decide, by decide⟩, fun _ => ?_⟩, trivial⟩
  refine ⟨⟨_, _, rfl⟩, ⟨4500, 1500, by decide, by decide, by decide⟩, fun unknown => ?_, by decide⟩
  exact absurd unknown (by decide)

/-- The audio is sent by the call that brings it, and its time is not noted. -/
theorem relaunch_absolute :
    ¬Along step RightOffsets { node := continued, param := {} }
      (interruptedSession (.send { now := 1500 } .binary)) := by
  intro along
  have told := ((along_append ..).mp along).2.1
  have again : (run step { node := continued, param := {} }
      (untilRelaunch (.send { now := 1500 } .binary))).node.reconnection.state =
      .triggerReconnection := by decide
  obtain ⟨time, -, -, -⟩ := told again
  rw [(buildStart_offsets again _ _ _).1] at time
  have absolute := Json.int.inj (Option.some.inj time)
  revert absolute
  decide

end ReconnectingNode

end NlsSdk.Transport
