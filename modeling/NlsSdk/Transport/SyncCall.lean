import NlsSdk.Library.Run
import NlsSdk.Transport.CallbackSpec

/-!
# Synchronous calls

With a time-out for synchronous calls, start and stop wait on a condition variable for the Started
or the Close event and return the error code of the node. The event thread goes on beside them: a
signal that nobody waits for is lost.
-/
namespace NlsSdk.Transport

open Library

def NlsErrorCode.invokeTimeout : ℤ := 168

/-- Where the thread stands that calls start or stop. -/
inductive Caller
  | idle
  /-- the launch or the directive is under way, and the caller does not wait for it yet -/
  | invoked
  | waiting
  /-- the deadline has passed, and the mutex of the node is taken back -/
  | expired
  | woken
  deriving DecidableEq, Repr

/-- The part of a node that the caller and the event thread share. -/
structure SyncCall where
  syncCallTimeoutMs : ℕ
  nodeErrCode : ℤ := NlsErrorCode.success
  workStatus : ConnectStatus := .nodeCreated
  exitStatus : ExitStatus := .exitInvalid
  request : Bool := true
  handler : Bool := true
  enableOnMessage : Bool := false
  caller : Caller := .idle
  /-- what the calls returned, in their order -/
  results : List ℤ := []
  deriving DecidableEq, Repr

/-- The steps of the two threads. Whatever else the event thread does to the node is `other`. -/
inductive SyncAction
  | invoke
  | waitInvokeFinish
  | expire
  | noteTimeout
  | spuriousWakeup
  | finish
  | handlerFrame (eventType : EventType)
  | handlerEvent (errorCode : ℤ) (eventType : EventType)
  | other (workStatus : ConnectStatus) (exitStatus : ExitStatus)
    (request handler enableOnMessage : Bool)
  deriving DecidableEq, Repr

/-- The events that end a synchronous call. -/
def finishesCall (eventType : EventType) : Bool :=
  eventType = .close || eventType = .recognitionStarted || eventType = .transcriptionStarted ||
    eventType = .synthesisStarted

namespace SyncCall

/-! ## The threads -/

/-- `pthread_cond_signal` wakes a caller that waits. -/
def sendFinishCondSignal (s : SyncCall) (eventType : EventType) : SyncCall :=
  if 0 < s.syncCallTimeoutMs ∧ finishesCall eventType ∧ s.caller = .waiting then
    { s with caller := .woken }
  else s

/-- With messages enabled the signal is asked for a message, whatever the event is. -/
def handlerFrame (s : SyncCall) (eventType : EventType) : SyncCall :=
  if s.workStatus = .nodeInvalid ∨ !s.handler then s
  else s.sendFinishCondSignal (if s.enableOnMessage then .message else eventType)

def noteErrorCode (s : SyncCall) (errorCode : ℤ) : SyncCall :=
  if errorCode = NlsErrorCode.closeCode then s else { s with nodeErrCode := errorCode }

def report (s : SyncCall) (eventType : EventType) : SyncCall :=
  if !s.handler ∨ s.workStatus = .nodeClosed then s
  else if eventType = .close then { s.handlerFrame eventType with workStatus := .nodeClosed }
  else s.handlerFrame eventType

def handlerEvent (s : SyncCall) (errorCode : ℤ) (eventType : EventType) : SyncCall :=
  if s.exitStatus = .exitCancel ∨ !s.request then s
  else (s.noteErrorCode errorCode).report eventType

/-- Without a time-out the call returns at once, and does not look at the error code. -/
def waitInvokeFinish (s : SyncCall) : SyncCall :=
  if 0 < s.syncCallTimeoutMs then { s with caller := .waiting }
  else { s with caller := .idle, results := s.results ++ [0] }

/-- The call returns the negated error code of the node, or `Success`. -/
def finish (s : SyncCall) : SyncCall :=
  { s with caller := .idle, results := s.results ++ [-s.nodeErrCode] }

def step (s : SyncCall) : SyncAction → SyncCall
  | .invoke => if s.caller = .idle then { s with caller := .invoked } else s
  | .waitInvokeFinish => if s.caller = .invoked then s.waitInvokeFinish else s
  | .expire => if s.caller = .waiting then { s with caller := .expired } else s
  | .noteTimeout =>
    if s.caller = .expired then
      { s with caller := .woken, nodeErrCode := NlsErrorCode.invokeTimeout }
    else s
  | .spuriousWakeup => if s.caller = .waiting then { s with caller := .woken } else s
  | .finish => if s.caller = .woken then s.finish else s
  | .handlerFrame eventType => s.handlerFrame eventType
  | .handlerEvent errorCode eventType => s.handlerEvent errorCode eventType
  | .other workStatus exitStatus request handler enableOnMessage =>
    { s with
      workStatus := workStatus
      exitStatus := exitStatus
      request := request
      handler := handler
      enableOnMessage := enableOnMessage }

/-- A node as it is seen from the calls. -/
def ofNode (syncCallTimeoutMs : ℕ) (caller : Caller) (results : List ℤ) (n : ConnectNode) :
    SyncCall where
  syncCallTimeoutMs := syncCallTimeoutMs
  nodeErrCode := n.nodeErrCode
  workStatus := n.workStatus
  exitStatus := n.exitStatus
  request := n.request
  handler := n.handler
  enableOnMessage := n.enableOnMessage
  caller := caller
  results := results

/-! ## What a step does -/

/-- The error code a step leaves with the node. -/
def notes (s : SyncCall) : SyncAction → Option ℤ
  | .handlerEvent errorCode _ =>
    if s.exitStatus = .exitCancel ∨ !s.request ∨ errorCode = NlsErrorCode.closeCode then none
    else some errorCode
  | .noteTimeout => if s.caller = .expired then some NlsErrorCode.invokeTimeout else none
  | _ => none

/-- Whether the signal is sent when an event is handled. -/
def signals (s : SyncCall) (eventType : EventType) : Bool :=
  0 < s.syncCallTimeoutMs && s.workStatus ≠ .nodeInvalid && s.handler &&
    finishesCall (if s.enableOnMessage then .message else eventType)

/-- Whether a step ends the wait of the caller. -/
def wakes (s : SyncCall) : SyncAction → Bool
  | .noteTimeout => s.caller = .expired
  | .spuriousWakeup => s.caller = .waiting
  | .handlerFrame eventType => s.caller = .waiting && s.signals eventType
  | .handlerEvent _ eventType =>
    s.caller = .waiting && s.exitStatus ≠ .exitCancel && s.request &&
      s.workStatus ≠ .nodeClosed && s.signals eventType
  | _ => false

/-- A node that was just made. -/
def new (syncCallTimeoutMs : ℕ) : SyncCall where
  syncCallTimeoutMs := syncCallTimeoutMs

/-! ## The node itself -/

/-- A frame changes nothing of what is shared, but where the caller stands. -/
lemma handlerFrame_caller (s : SyncCall) (eventType : EventType) :
    ∃ caller, s.handlerFrame eventType = { s with caller } := by
  simp only [handlerFrame, sendFinishCondSignal]
  split_ifs
  · exact ⟨s.caller, rfl⟩
  · exact ⟨.woken, rfl⟩
  · exact ⟨s.caller, rfl⟩
  · exact ⟨.woken, rfl⟩
  · exact ⟨s.caller, rfl⟩

/-- The calls see of a frame handled by the node what `handlerFrame` does here. -/
theorem handlerFrame_ofNode (t : ℕ) (caller : Caller) (results : List ℤ) (e : Env)
    (n : ConnectNode) (event : NlsEvent) :
    ∃ now, (ofNode t caller results n).handlerFrame event.msgType =
      ofNode t now results (n.handlerFrame e event).1 := by
  obtain ⟨now, signalled⟩ := (ofNode t caller results n).handlerFrame_caller event.msgType
  obtain ⟨r, told⟩ := n.handlerFrame_calledBack e event
  refine ⟨now, ?_⟩
  rw [signalled, told]
  rfl

lemma noteErrorCode_ofNode (t : ℕ) (caller : Caller) (results : List ℤ) (n : ConnectNode)
    (errorCode : ℤ) :
    (ofNode t caller results n).noteErrorCode errorCode =
      ofNode t caller results (n.noteErrorCode errorCode) := by
  unfold noteErrorCode ConnectNode.noteErrorCode
  split_ifs <;> rfl

lemma report_ofNode (t : ℕ) (caller : Caller) (results : List ℤ) (e : Env) (n : ConnectNode)
    (event : NlsEvent) :
    ∃ now, (ofNode t caller results n).report event.msgType =
      ofNode t now results (n.report e event) := by
  obtain ⟨now, handled⟩ := handlerFrame_ofNode t caller results e n event
  unfold report ConnectNode.report
  by_cases skipped : !n.handler ∨ n.workStatus = .nodeClosed
  · rw [if_pos skipped]
    exact ⟨caller, if_pos skipped⟩
  · refine ⟨now, (if_neg skipped).trans ?_⟩
    rw [if_neg skipped, handled]
    split_ifs <;> rfl

/-- The same for the node's own events. -/
theorem handlerEvent_ofNode (t : ℕ) (caller : Caller) (results : List ℤ) (e : Env)
    (n : ConnectNode) (errorMsg : Bytes) (errorCode : ℤ) (eventType : EventType) :
    ∃ now, (ofNode t caller results n).handlerEvent errorCode eventType =
      ofNode t now results (n.handlerEvent e errorMsg errorCode eventType) := by
  unfold handlerEvent ConnectNode.handlerEvent
  by_cases silent : n.exitStatus = .exitCancel ∨ !n.request
  · rw [if_pos silent]
    exact ⟨caller, if_pos silent⟩
  · obtain ⟨now, told⟩ := report_ofNode t caller results e (n.noteErrorCode errorCode)
      (n.ownEvent e errorMsg errorCode eventType)
    refine ⟨now, (if_neg silent).trans ?_⟩
    rw [if_neg silent, ← told, noteErrorCode_ofNode]
    rfl

/-! ## What a run does -/

@[simp] lemma handlerFrame_nodeErrCode (s : SyncCall) (eventType : EventType) :
    (s.handlerFrame eventType).nodeErrCode = s.nodeErrCode := by
  obtain ⟨caller, signalled⟩ := s.handlerFrame_caller eventType
  rw [signalled]

@[simp] lemma report_nodeErrCode (s : SyncCall) (eventType : EventType) :
    (s.report eventType).nodeErrCode = s.nodeErrCode := by
  unfold report
  split_ifs
  · rfl
  · exact handlerFrame_nodeErrCode s eventType
  · exact handlerFrame_nodeErrCode s eventType

lemma handlerEvent_nodeErrCode (s : SyncCall) (errorCode : ℤ) (eventType : EventType) :
    (s.handlerEvent errorCode eventType).nodeErrCode =
      (s.notes (.handlerEvent errorCode eventType)).getD s.nodeErrCode := by
  unfold handlerEvent
  simp only [notes]
  by_cases silent : s.exitStatus = .exitCancel ∨ !s.request
  · rw [if_pos silent, if_pos (by tauto)]
    rfl
  · rw [if_neg silent, report_nodeErrCode]
    unfold noteErrorCode
    by_cases closing : errorCode = NlsErrorCode.closeCode
    · rw [if_pos closing, if_pos (by tauto)]
      rfl
    · rw [if_neg closing, if_neg (by tauto)]
      rfl

/-- A step changes the error code of the node only where it notes one. -/
lemma step_nodeErrCode (s : SyncCall) (a : SyncAction) :
    (s.step a).nodeErrCode = (s.notes a).getD s.nodeErrCode := by
  cases a with
  | handlerFrame eventType => exact handlerFrame_nodeErrCode s eventType
  | handlerEvent errorCode eventType => exact handlerEvent_nodeErrCode s errorCode eventType
  | noteTimeout =>
    simp only [step, notes]
    split_ifs <;> rfl
  | waitInvokeFinish =>
    simp only [step, waitInvokeFinish]
    split_ifs <;> rfl
  | other => rfl
  | invoke | expire | spuriousWakeup | finish =>
    simp only [step]
    split_ifs <;> rfl

/-- The error code is the last one that was noted. -/
lemma run_nodeErrCode (s : SyncCall) (as : List SyncAction) :
    (run step s as).nodeErrCode = (collect step notes s as).getLastD s.nodeErrCode :=
  collect_getLastD step_nodeErrCode s as

/-! ## A call -/

lemma handlerFrame_caller_eq (s : SyncCall) (eventType : EventType) :
    (s.handlerFrame eventType).caller =
      if s.wakes (.handlerFrame eventType) then .woken else s.caller := by
  simp only [handlerFrame, sendFinishCondSignal, wakes, signals]
  split_ifs <;> simp_all

lemma handlerEvent_caller_eq (s : SyncCall) (errorCode : ℤ) (eventType : EventType) :
    (s.handlerEvent errorCode eventType).caller =
      if s.wakes (.handlerEvent errorCode eventType) then .woken else s.caller := by
  simp only [handlerEvent, report, noteErrorCode, handlerFrame, sendFinishCondSignal, wakes,
    signals]
  split_ifs <;> simp_all

/-- A caller that waits for the node, or is about to return. -/
def Called (s : SyncCall) : Prop := s.caller = .waiting ∨ s.caller = .expired ∨ s.caller = .woken

/-- Before the call returns, only an expired wait and a wake-up move the caller. -/
lemma step_caller {s : SyncCall} (called : s.Called) {a : SyncAction} (stays : a ≠ .finish) :
    (s.step a).caller =
      if s.wakes a then .woken
      else if a = .expire ∧ s.caller = .waiting then .expired else s.caller := by
  have started : s.caller ≠ .idle ∧ s.caller ≠ .invoked := by
    obtain h | h | h := called <;> simp [h]
  cases a with
  | finish => exact absurd rfl stays
  | handlerFrame eventType => simp [step, handlerFrame_caller_eq]
  | handlerEvent errorCode eventType => simp [step, handlerEvent_caller_eq]
  | invoke => simp [step, wakes, started.1]
  | waitInvokeFinish => simp [step, wakes, started.2]
  | expire =>
    simp only [step, wakes]
    split_ifs <;> simp_all
  | noteTimeout =>
    simp only [step, wakes]
    split_ifs <;> simp_all
  | spuriousWakeup =>
    simp only [step, wakes]
    split_ifs <;> simp_all
  | other => simp [step, wakes]

lemma step_called {s : SyncCall} (called : s.Called) {a : SyncAction} (stays : a ≠ .finish) :
    (s.step a).Called := by
  unfold Called
  rw [step_caller called stays]
  split_ifs
  · exact Or.inr (Or.inr rfl)
  · exact Or.inr (Or.inl rfl)
  · exact called

/-- A caller that was woken stays so until the call returns. -/
lemma step_woken {s : SyncCall} (called : s.Called) {a : SyncAction} (stays : a ≠ .finish) :
    (s.step a).caller = .woken ↔ s.caller = .woken ∨ s.wakes a := by
  rw [step_caller called stays]
  by_cases woken : s.wakes a = true
  · simp [woken]
  · rw [if_neg woken]
    split_ifs with late
    · simp [late.2, woken]
    · simp [woken]

lemma handlerFrame_rest (s : SyncCall) (eventType : EventType) :
    (s.handlerFrame eventType).syncCallTimeoutMs = s.syncCallTimeoutMs ∧
      (s.handlerFrame eventType).results = s.results := by
  obtain ⟨caller, signalled⟩ := s.handlerFrame_caller eventType
  rw [signalled]
  exact ⟨rfl, rfl⟩

lemma handlerEvent_rest (s : SyncCall) (errorCode : ℤ) (eventType : EventType) :
    (s.handlerEvent errorCode eventType).syncCallTimeoutMs = s.syncCallTimeoutMs ∧
      (s.handlerEvent errorCode eventType).results = s.results := by
  have noted : (s.noteErrorCode errorCode).syncCallTimeoutMs = s.syncCallTimeoutMs ∧
      (s.noteErrorCode errorCode).results = s.results := by
    unfold noteErrorCode
    split_ifs <;> exact ⟨rfl, rfl⟩
  have handled := (s.noteErrorCode errorCode).handlerFrame_rest eventType
  unfold handlerEvent report
  split_ifs
  · exact ⟨rfl, rfl⟩
  · exact noted
  · exact ⟨handled.1.trans noted.1, handled.2.trans noted.2⟩
  · exact ⟨handled.1.trans noted.1, handled.2.trans noted.2⟩

lemma step_syncCallTimeoutMs (s : SyncCall) (a : SyncAction) :
    (s.step a).syncCallTimeoutMs = s.syncCallTimeoutMs := by
  cases a with
  | handlerFrame eventType => exact (s.handlerFrame_rest eventType).1
  | handlerEvent errorCode eventType => exact (s.handlerEvent_rest errorCode eventType).1
  | waitInvokeFinish =>
    simp only [step, waitInvokeFinish]
    split_ifs <;> rfl
  | other => rfl
  | invoke | expire | noteTimeout | spuriousWakeup | finish =>
    simp only [step]
    split_ifs <;> rfl

/-- Nothing is returned while the caller waits. -/
lemma step_results {s : SyncCall} (called : s.Called) {a : SyncAction} (stays : a ≠ .finish) :
    (s.step a).results = s.results := by
  cases a with
  | finish => exact absurd rfl stays
  | handlerFrame eventType => exact (s.handlerFrame_rest eventType).2
  | handlerEvent errorCode eventType => exact (s.handlerEvent_rest errorCode eventType).2
  | waitInvokeFinish =>
    have started : s.caller ≠ .invoked := by
      obtain h | h | h := called <;> simp [h]
    simp only [step, if_neg started]
  | other => rfl
  | invoke | expire | noteTimeout | spuriousWakeup =>
    simp only [step]
    split_ifs <;> rfl

section Wait

variable {s : SyncCall} {during : List SyncAction}

lemma along_waits (waits : .finish ∉ during) :
    Along step (fun _ a => a ≠ .finish) s during :=
  along_of_mem fun _ mem stop => waits (stop ▸ mem)

/-- The caller is woken by the end of a wait exactly when a step of it wakes it. -/
lemma run_woken (called : s.Called) (waits : .finish ∉ during) :
    (run step s during).caller = .woken ↔
      s.caller = .woken ∨ ∃ bs a, bs ++ [a] <+: during ∧ (run step s bs).wakes a := by
  refine latched_run (D := fun (s : SyncCall) a => s.wakes a)
    (Q := fun s : SyncCall => s.caller = .woken) ?_ ?_ called (along_waits waits)
  · intro s a here stays
    exact step_called here stays
  · intro s a here stays
    exact step_woken here stays

lemma run_results (called : s.Called) (waits : .finish ∉ during) :
    (run step s during).results = s.results := by
  have kept : Called (run step s during) ∧ (run step s during).results = s.results := by
    refine invariant_along (I := fun now : SyncCall => now.Called ∧ now.results = s.results)
      ?_ ⟨called, rfl⟩ (along_waits waits)
    intro now a here stays
    exact ⟨step_called here.1 stays, (step_results here.1 stays).trans here.2⟩
  exact kept.2

end Wait

end SyncCall

open SyncCall in
/-- With a time-out, a start or stop returns `Success` exactly when a step of the wait wakes the
caller and the code noted last is `Success`, counting all that was noted since the node was made. -/
theorem syncCall_succeeds_iff {t : ℕ} (timeout : 0 < t) {before during : List SyncAction}
    (invoked : (run step (SyncCall.new t) before).caller = .invoked)
    (waits : .finish ∉ during) :
    (run step (SyncCall.new t) (before ++ .waitInvokeFinish :: (during ++ [.finish]))).results =
        (run step (SyncCall.new t) before).results ++ [NlsErrorCode.success] ↔
      (∃ bs a, bs ++ [a] <+: during ∧
        (run step (SyncCall.new t) (before ++ .waitInvokeFinish :: bs)).wakes a) ∧
      (collect step notes (SyncCall.new t) (before ++ .waitInvokeFinish :: during)).getLastD
        NlsErrorCode.success = NlsErrorCode.success := by
  have limit : (run step (SyncCall.new t) before).syncCallTimeoutMs = t :=
    invariant_run (I := fun s => s.syncCallTimeoutMs = t)
      (fun s a kept => (step_syncCallTimeoutMs s a).trans kept) rfl before
  have noted : (run step (SyncCall.new t) (before ++ .waitInvokeFinish :: during)).nodeErrCode =
      (collect step notes (SyncCall.new t) (before ++ .waitInvokeFinish :: during)).getLastD
        NlsErrorCode.success := run_nodeErrCode _ _
  rw [run_append, run_cons] at noted
  simp only [run_append, run_cons, run_nil]
  generalize run step (SyncCall.new t) before = s at *
  have waiting : s.step .waitInvokeFinish = { s with caller := .waiting } := by
    rw [step, if_pos invoked, waitInvokeFinish, if_pos (limit ▸ timeout)]
  have called : (s.step .waitInvokeFinish).Called := by
    rw [waiting]
    exact Or.inl rfl
  have woken := run_woken called waits
  have kept := run_results called waits
  rw [← noted]
  have unwoken : (s.step .waitInvokeFinish).caller ≠ .woken := by
    rw [waiting]
    exact Caller.noConfusion
  rw [or_iff_right unwoken] at woken
  rw [← woken]
  have unreturned : (s.step .waitInvokeFinish).results = s.results := by rw [waiting]
  rw [unreturned] at kept
  generalize run step _ during = s' at *
  by_cases up : s'.caller = .woken
  · rw [step, if_pos up, finish, kept, List.append_cancel_left_eq]
    simp [up, NlsErrorCode.success]
  · rw [step, if_neg up, kept]
    simp [up]

open SyncCall in
/-- A start the server refuses is woken by the Close event, and returns `Success`. -/
theorem syncCall_succeeds_iff_refused :
    (run step (SyncCall.new 10000) [.invoke, .waitInvokeFinish, .handlerFrame .taskFailed,
      .handlerEvent NlsErrorCode.closeCode .close, .finish]).results =
      [NlsErrorCode.success] :=
  (@syncCall_succeeds_iff 10000 (by decide) [.invoke] [.handlerFrame .taskFailed,
    .handlerEvent NlsErrorCode.closeCode .close] rfl (by decide)).mpr
    ⟨⟨[.handlerFrame .taskFailed], .handlerEvent NlsErrorCode.closeCode .close,
      List.prefix_refl _, by decide⟩, by decide⟩

end NlsSdk.Transport
