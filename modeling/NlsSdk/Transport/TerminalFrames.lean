import NlsSdk.Transport.Course
import NlsSdk.Transport.Heard

/-!
# Frames behind Close

The status `nodeClosed` keeps `handlerEvent` from reporting anything behind Close.
A frame is given to the user without that test.
-/
namespace NlsSdk.Transport

open NlsSdk.Library

/-- Close is reported at most once, and nothing behind it. -/
def CloseLast (callbacks : List Callback) : Prop :=
  ∀ c ∈ callbacks.dropLast, c.event.msgType ≠ .close

instance (callbacks : List Callback) : Decidable (CloseLast callbacks) :=
  inferInstanceAs (Decidable (∀ c ∈ callbacks.dropLast, _))

namespace ConnectNode

variable {e : Env} {n m : ConnectNode}

/-- Close has not been reported. -/
def Unended (n : ConnectNode) : Prop := ∀ c ∈ n.callbacks, c.event.msgType ≠ .close

/-- Close, if reported, was reported last, and the status tells so. -/
structure Terminal (n : ConnectNode) : Prop where
  closeLast : CloseLast n.callbacks
  closed : n.workStatus = .nodeClosed ∨ n.Unended

theorem Unended.terminal (h : n.Unended) : n.Terminal :=
  ⟨fun c hc => h c (List.mem_of_mem_dropLast hc), Or.inr h⟩

theorem Terminal.unended (h : n.Terminal) (running : n.workStatus ≠ .nodeClosed) : n.Unended :=
  h.closed.resolve_left running

theorem Unended.of_eq (h : n.Unended) (same : m.callbacks = n.callbacks) : m.Unended := by
  rw [Unended, same]
  exact h

theorem Unended.terminal_of_eq (h : n.Unended) (same : m.callbacks = n.callbacks) : m.Terminal :=
  (h.of_eq same).terminal

theorem Terminal.of_eq (h : n.Terminal) (callbacks : m.callbacks = n.callbacks)
    (workStatus : m.workStatus = n.workStatus) : m.Terminal where
  closeLast := by
    rw [callbacks]
    exact h.closeLast
  closed := by
    rw [workStatus, Unended, callbacks]
    exact h.closed

theorem Terminal.quiet (h : n.Terminal) (work : Quiet n m) : m.Terminal :=
  h.of_eq work.callbacks work.workStatus

theorem Unended.quiet (h : n.Unended) (work : Quiet n m) : m.Unended := h.of_eq work.callbacks

/-! ## Callbacks -/

lemma ignoreCallback_callbacks (e : Env) (n : ConnectNode) (type : EventType) (code : ℤ) :
    (n.ignoreCallbackWhenReconnecting e type code).1.callbacks = n.callbacks := by
  have noted : (n.noteInterruption e type code).callbacks = n.callbacks := by
    unfold noteInterruption
    split <;> rfl
  simp only [ignoreCallbackWhenReconnecting]
  repeat' split
  all_goals first | exact noted | rfl

lemma afterCallback_callbacks (e : Env) (n : ConnectNode) (type : EventType) (ignored : Bool) :
    (n.afterCallback e type ignored).callbacks = n.callbacks := by
  simp only [afterCallback, nodeReconnecting]
  repeat' split
  all_goals rfl

/-- An event handed over is appended, or kept from the user. -/
lemma handlerFrame_callbacks (e : Env) (n : ConnectNode) (event : NlsEvent) :
    (n.handlerFrame e event).1.callbacks = n.callbacks ∨
      ∃ c : Callback, c.event = event ∧
        (n.handlerFrame e event).1.callbacks = n.callbacks ++ [c] := by
  have before : ((n.updateTwIndexOffset event).ignoreCallbackWhenReconnecting e event.msgType
      event.statusCode).1.callbacks = n.callbacks := by
    rw [ignoreCallback_callbacks]
    unfold updateTwIndexOffset
    split <;> rfl
  simp only [handlerFrame]
  split
  · exact Or.inl rfl
  split
  · exact Or.inl rfl
  rw [afterCallback_callbacks]
  split
  · exact Or.inl before
  · exact Or.inr ⟨_, rfl, congrArg (· ++ [_]) before⟩

lemma handlerFrame_unended (h : n.Unended) {event : NlsEvent} (other : event.msgType ≠ .close) :
    (n.handlerFrame e event).1.Unended := by
  rcases handlerFrame_callbacks e n event with same | ⟨c, rfl, told⟩
  · exact h.of_eq same
  · intro d hd
    rw [told, List.mem_append, List.mem_singleton] at hd
    rcases hd with old | rfl
    · exact h d old
    · exact other

lemma handlerFrame_closeLast (h : n.Unended) (event : NlsEvent) :
    CloseLast (n.handlerFrame e event).1.callbacks := by
  rcases handlerFrame_callbacks e n event with same | ⟨c, -, told⟩
  · exact (h.of_eq same).terminal.closeLast
  · rw [told, CloseLast, List.dropLast_concat]
    exact h

/-- An event of the node's own is not reported behind Close. -/
theorem handlerEvent_terminal (h : n.Terminal) (msg : Bytes) (code : ℤ) (type : EventType) :
    (n.handlerEvent e msg code type).Terminal := by
  have noted : (n.noteErrorCode code).Terminal := by
    unfold noteErrorCode
    split
    · exact h
    · exact h.of_eq rfl rfl
  unfold handlerEvent
  split
  · exact h
  simp only [report]
  split
  · exact noted
  rename_i reports
  have unended := noted.unended fun closed => reports (Or.inr closed)
  split
  · exact ⟨handlerFrame_closeLast unended _, Or.inl rfl⟩
  · rename_i other
    exact (handlerFrame_unended unended other).terminal

theorem handlerClose_terminal (h : n.Terminal) : (n.handlerClose e).Terminal :=
  handlerEvent_terminal h _ _ _

theorem handlerTaskFailedEvent_terminal (h : n.Terminal) (info : Bytes) (code : ℤ) :
    (n.handlerTaskFailedEvent e info code).Terminal := by
  simp only [handlerTaskFailedEvent]
  exact handlerClose_terminal (handlerEvent_terminal h _ _ _)

lemma Shut.callbacks (h : Shut n m) : m.callbacks = n.callbacks := by
  cases h <;> rfl

lemma Shut.workStatus (h : Shut n m) : m.workStatus = n.workStatus := by
  cases h <;> rfl

theorem Terminal.shut (h : n.Terminal) (shut : Shut n m) : m.Terminal :=
  h.of_eq shut.callbacks shut.workStatus

/-- Calls and writes report nothing behind Close. -/
theorem Terminal.course (h : n.Terminal) (course : Course e n m) : m.Terminal := by
  induction course with
  | refl => exact h
  | quiet _ work ih => exact ih.quiet work
  | fails _ info code before after ih =>
    exact (handlerTaskFailedEvent_terminal (ih.shut before) info code).shut after

/-! ## Received frames -/

lemma adoptTaskId_callbacks (n : ConnectNode) (event : NlsEvent) :
    (n.adoptTaskId event).callbacks = n.callbacks := by
  unfold adoptTaskId
  split <;> rfl

lemma statusAfter_callbacks (n : ConnectNode) (type : EventType) :
    (n.statusAfter type).callbacks = n.callbacks := by
  unfold statusAfter enterStarted
  split
  all_goals first | rfl | (split_ifs <;> rfl)

lemma closeSession_terminal (h : n.Unended) (ignore : Bool) :
    (n.closeSession e ignore).Terminal := by
  have close (m : ConnectNode) (same : m.callbacks = n.callbacks) : (m.handlerClose e).Terminal :=
    handlerClose_terminal (h.terminal_of_eq same)
  simp only [closeSession]
  split_ifs
  · exact close _ rfl
  · exact close _ rfl
  · exact close _ rfl
  · exact h.terminal_of_eq rfl
  · exact close _ rfl

theorem handleEvent_terminal (h : n.Unended) {event : NlsEvent} (other : event.msgType ≠ .close) :
    (n.handleEvent e event).1.Terminal := by
  have handled : ((n.adoptTaskId event).handlerFrame e event).1.Unended :=
    handlerFrame_unended (h.of_eq (adoptTaskId_callbacks n event)) other
  have moved := handled.of_eq (statusAfter_callbacks _ event.msgType)
  simp only [handleEvent]
  split
  · exact h.terminal
  split
  · exact handled.terminal
  · dsimp only
    split
    · exact closeSession_terminal moved _
    · exact moved.terminal

lemma handlerFrame_late (request : n.request = true) (long : n.isLongConnection = true)
    (closed : n.workStatus = .nodeClosed) {event : NlsEvent} (failed : event.msgType = .taskFailed) :
    (n.handlerFrame e event).1.callbacks = n.callbacks := by
  obtain ⟨r, before⟩ := (updateTwIndexOffset_calledBack n event).trans
    (ignoreCallbackWhenReconnecting_calledBack e _ event.msgType event.statusCode)
  have same : ((n.updateTwIndexOffset event).ignoreCallbackWhenReconnecting e event.msgType
      event.statusCode).1.callbacks = n.callbacks := by
    rw [ignoreCallback_callbacks]
    unfold updateTwIndexOffset
    split <;> rfl
  have ignored : ConnectNode.ignoreCallbackWhenNodeClosedWhenLongConnection
      { ((n.updateTwIndexOffset event).ignoreCallbackWhenReconnecting e event.msgType
        event.statusCode).1 with
        hidden := ((n.updateTwIndexOffset event).ignoreCallbackWhenReconnecting e event.msgType
          event.statusCode).2 || ((n.updateTwIndexOffset event).ignoreCallbackWhenReconnecting e
            event.msgType event.statusCode).1.hidden } event.msgType = true := by
    rw [before]
    simp [ignoreCallbackWhenNodeClosedWhenLongConnection, request, long, closed, failed]
  simp only [handlerFrame]
  split
  · rfl
  split
  · rfl
  rw [afterCallback_callbacks, ignored, Bool.or_true, if_pos rfl]
  exact same

/-- A TaskFailed that comes late on a long connection only closes the connection. -/
lemma handleEvent_late_same (request : n.request = true) (long : n.isLongConnection = true)
    (closed : n.workStatus = .nodeClosed) {event : NlsEvent} (failed : event.msgType = .taskFailed) :
    (n.handleEvent e event).1.callbacks = n.callbacks ∧
      (n.handleEvent e event).1.workStatus = n.workStatus := by
  have adopted : n.adoptTaskId event = n := by
    simp [adoptTaskId, isStarted, failed]
  obtain ⟨r, handled⟩ := handlerFrame_calledBack e n event
  have same := handlerFrame_late (e := e) request long closed failed
  have late : (n.handlerFrame e event).1.ignoreFlag .taskFailed = true := by
    rw [handled]
    simp [ignoreFlag, ignoreCallbackWhenNodeClosedWhenLongConnection, request, long, closed]
  have status : (n.handlerFrame e event).1.workStatus = .nodeClosed := by rw [handled, closed]
  have kept : (n.handlerFrame e event).1.isLongConnection = true := by rw [handled, long]
  have ends : (n.handlerFrame e event).1.statusAfter .taskFailed = (n.handlerFrame e event).1 := by
    simp [statusAfter, late]
  have shut : (n.handlerFrame e event).1.closeSession e true =
      closeConnectNode { (n.handlerFrame e event).1 with isPreconnecting := false } := by
    simp [closeSession, kept, status]
  simp only [handleEvent, adopted, failed]
  split
  · exact ⟨rfl, rfl⟩
  split
  · exact ⟨same, status.trans closed.symm⟩
  · rw [ends, late, shut]
    exact ⟨same, status.trans closed.symm⟩

lemma handleEvent_late (h : n.Terminal) (request : n.request = true)
    (long : n.isLongConnection = true) (closed : n.workStatus = .nodeClosed) {event : NlsEvent}
    (failed : event.msgType = .taskFailed) : (n.handleEvent e event).1.Terminal := by
  obtain ⟨callbacks, status⟩ := handleEvent_late_same (e := e) request long closed failed
  exact h.of_eq callbacks status

/-- A frame behind Close makes no event, and a text is no Close of its own. A late TaskFailed of a
long connection is ignored. -/
def FrameEndsOnce (e : Env) (n : ConnectNode) (buffer : Bytes) (wsFrame : WebSocketFrame) : Prop :=
  wsFrame.type = .close ∨ wsFrame.type = .pong ∨ n.exitStatus = .exitCancel ∨
    match (n.convertResult e buffer wsFrame).2 with
    | .ok event => event.msgType ≠ .close ∧
        (n.workStatus ≠ .nodeClosed ∨ n.isLongConnection = true ∧ event.msgType = .taskFailed)
    | .error _ => True

instance (e : Env) (n : ConnectNode) (buffer : Bytes) (wsFrame : WebSocketFrame) :
    Decidable (FrameEndsOnce e n buffer wsFrame) := by
  unfold FrameEndsOnce
  have : Decidable (match (n.convertResult e buffer wsFrame).2 with
    | .ok event => event.msgType ≠ .close ∧
        (n.workStatus ≠ .nodeClosed ∨ n.isLongConnection = true ∧ event.msgType = .taskFailed)
    | .error _ => True) := by split <;> infer_instance
  infer_instance

lemma convertText_ok {result : Bytes} {event : NlsEvent}
    (h : (n.convertText e result).2 = .ok event) : (n.convertText e result).1 = n := by
  unfold convertText at h ⊢
  by_cases empty : result = []
  · simp [empty] at h
  · rw [if_neg empty] at h ⊢
    split
    · rfl
    · rfl
    · rename_i code failed parsed
      simp [parsed] at h

/-- A frame that makes an event leaves the node as it is until the event is handled. -/
lemma convertResult_ok {buffer : Bytes} {wsFrame : WebSocketFrame} {event : NlsEvent}
    (h : (n.convertResult e buffer wsFrame).2 = .ok event) :
    (n.convertResult e buffer wsFrame).1 = n := by
  unfold convertResult at h ⊢
  dsimp only at h ⊢
  by_cases request : (!n.request) = true
  · rw [if_pos request]
  rw [if_neg request] at h ⊢
  cases type : wsFrame.type with
  | binaryFrame => rfl
  | textFrame =>
    rw [type] at h
    exact convertText_ok h
  | _ =>
    rw [type] at h
    cases h

lemma convertResult_terminal (h : n.Terminal) (buffer : Bytes) (wsFrame : WebSocketFrame) :
    (n.convertResult e buffer wsFrame).1.Terminal := by
  simp only [convertResult, convertText]
  repeat' split
  all_goals first | exact h | exact handlerEvent_terminal h _ _ _

theorem parseFrame_terminal (h : n.Terminal) {buffer : Bytes} {wsFrame : WebSocketFrame}
    (once : FrameEndsOnce e n buffer wsFrame) : (n.parseFrame e buffer wsFrame).1.Terminal := by
  have converted := convertResult_terminal (e := e) h buffer wsFrame
  have cancelled (event : NlsEvent) (exit : n.exitStatus = .exitCancel) :
      (n.handleEvent e event).1 = n := by simp [handleEvent, exit]
  simp only [parseFrame]
  split
  case isTrue => exact h
  case isFalse request =>
    split
    case h_1 =>
      split
      · exact handleEvent_terminal (h.unended ‹_›) (by simp [closeFrameEvent])
      · exact h.of_eq rfl rfl
    case h_2 => exact h
    case h_3 noClose noPong =>
      split
      case h_1 event made =>
        rw [convertResult_ok made]
        rcases once with close | pong | exit | once
        · exact absurd close noClose
        · exact absurd pong noPong
        · rw [cancelled event exit]
          exact h
        · rw [made] at once
          obtain ⟨other, running | ⟨long, failed⟩⟩ := once
          · exact handleEvent_terminal (h.unended running) other
          · by_cases closed : n.workStatus = .nodeClosed
            · exact handleEvent_late h (by simpa using request) long closed failed
            · exact handleEvent_terminal (h.unended closed) other
      case h_2 => exact converted
      case h_3 => exact converted
      case h_4 =>
        exact handlerClose_terminal (converted.of_eq rfl rfl)

lemma deliverFrame_terminal (h : n.Terminal) {buffer : Bytes} {wsFrame : WebSocketFrame}
    (once : FrameEndsOnce e n buffer wsFrame) : (n.deliverFrame e buffer wsFrame).1.Terminal := by
  have parsed := parseFrame_terminal h once
  simp only [deliverFrame]
  split
  · exact h
  split <;> exact parsed

lemma withReader_terminal (h : n.Terminal) (r : Reader) (ret : Ret) :
    (n.withReader e r ret).1.Terminal := by
  simp only [withReader]
  split <;> exact h.of_eq rfl rfl

/-- Every frame the next read gives to `parseFrame` does so. -/
def FramesEndOnce (e : Env) (n : ConnectNode) : Prop :=
  n.reader.Hands (FrameEndsOnce e) (deliverFrame e) (fun n => n.channel.isOpen) n

instance (e : Env) (n : ConnectNode) : Decidable (FramesEndOnce e n) := by
  unfold FramesEndOnce
  infer_instance

theorem webSocketResponse_terminal (h : n.Terminal) (once : FramesEndOnce e n) :
    (n.webSocketResponse e).1.Terminal := by
  have read : (n.reader.webSocketResponse (deliverFrame e)
      (fun n => n.channel.isOpen) n).2.1.Terminal :=
    Reader.webSocketResponse_hands (K := Terminal)
      (fun m buffer frame kept ends => deliverFrame_terminal kept ends) once h
  simp only [webSocketResponse]
  split
  · exact h
  · exact withReader_terminal read _ _

end ConnectNode

end NlsSdk.Transport
