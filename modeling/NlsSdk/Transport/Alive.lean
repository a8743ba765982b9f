import NlsSdk.Transport.ConnectFailure

/-!
# Sessions that go on

While the status says that a session is under way, an event of its node is pending
that will carry it on, unless the host could not be looked up or a frame came
behind the end of the session.
-/
namespace NlsSdk.Transport

open NlsSdk.Library

namespace ConnectNode

variable {e : Env} {n m : ConnectNode}

/-- An event that carries the session on is pending. -/
def Going (n : ConnectNode) : Prop :=
  n.launchEvent = true ∨ n.startWithPoolEvent = true ∨ n.dnsRequest = true ∨
    n.connectEvent = true ∨ n.readEvent = true

instance (n : ConnectNode) : Decidable n.Going := inferInstanceAs (Decidable (_ ∨ _))

/-- A node of a request with a listener; its socket comes with the event that reads from it. -/
structure Fit (n : ConnectNode) : Prop where
  connecting : n.connectEvent = true ∨ n.isConnected = true → n.readEvent = true
  registered : n.request = true → n.registered = true
  handler : n.handler = true

/-- No session is under way. -/
structure Resting (n : ConnectNode) : Prop extends Fit n where
  idle : n.request = true → n.exitStatus = .exitInvalid → n.isInvoked = false

/-- The session, if one is under way, goes on. -/
structure Alive (n : ConnectNode) : Prop extends Fit n where
  going : n.request = true → n.exitStatus = .exitInvalid → n.isInvoked = true → n.Going

lemma Resting.alive (resting : n.Resting) : n.Alive where
  toFit := resting.toFit
  going request exit invoked := by
    rw [resting.idle request exit] at invoked
    cases invoked

lemma Fit.alive (fit : n.Fit) (going : n.Going) : n.Alive := ⟨fit, fun _ _ _ => going⟩

lemma Fit.resting_of_exit (fit : n.Fit) (exit : n.exitStatus ≠ .exitInvalid) : n.Resting :=
  ⟨fit, fun _ invalid => absurd invalid exit⟩

lemma Fit.resting_of_request (fit : n.Fit) (request : n.request = false) : n.Resting :=
  ⟨fit, fun held => by rw [request] at held; cases held⟩

lemma Fit.resting_of_gone (fit : n.Fit) (gone : (!n.registered) = true) : n.Resting := by
  refine fit.resting_of_request ?_
  by_contra held
  simp [fit.registered (by simpa using held)] at gone

lemma isInvoked_eq_false (status : n.workStatus ∈ [.nodeInvalid, .nodeCreated, .nodeFailed,
    .nodeCompleted, .nodeClosed]) : n.isInvoked = false := by
  unfold isInvoked
  generalize n.workStatus = s at status ⊢
  cases s <;> simp at status ⊢

lemma Fit.resting_of_status (fit : n.Fit) (status : n.workStatus ∈ [.nodeInvalid, .nodeCreated,
    .nodeFailed, .nodeCompleted, .nodeClosed]) : n.Resting :=
  ⟨fit, fun _ _ => isInvoked_eq_false status⟩

/-! ## Callbacks and quiet work -/

lemma Fit.reported (fit : n.Fit) (told : Reported n m) : m.Fit := by
  obtain ⟨r, code, status, rfl, -⟩ := told
  exact ⟨fit.connecting, fit.registered, fit.handler⟩

lemma Alive.reported (alive : n.Alive) (told : Reported n m) : m.Alive := by
  have fit := alive.toFit.reported told
  obtain ⟨r, code, status, rfl, same | closed⟩ := told
  · refine ⟨fit, fun request exit invoked => alive.going request exit ?_⟩
    rw [isInvoked, ← same]
    exact invoked
  · exact (fit.resting_of_status (by simp [closed])).alive

/-- Close leaves no session under way. -/
lemma handlerClose_resting (fit : n.Fit) : (n.handlerClose e).Resting := by
  have told := fit.reported (handlerClose_reported e n)
  by_cases exit : n.exitStatus = .exitInvalid
  · cases request : n.request with
    | false =>
      refine told.resting_of_request ?_
      have kept := congrArg (fun k : ConnectNode => k.request) (unheard_handlerClose e n)
      exact Eq.trans kept request
    | true =>
      refine told.resting_of_status ?_
      unfold handlerClose handlerEvent report
      rw [if_neg (by simp [exit, request])]
      split
      · rename_i late
        have handler : (n.noteErrorCode NlsErrorCode.closeCode).handler = true := fit.handler
        simp [late.resolve_left (by simp [handler])]
      · simp [ownEvent, setConnectNodeStatus]
  · refine told.resting_of_exit ?_
    rw [exitStatus_of_unheard (unheard_handlerClose e n)]
    exact exit

lemma handlerTaskFailedEvent_resting (fit : n.Fit) (info : Bytes) (code : ℤ) :
    (n.handlerTaskFailedEvent e info code).Resting := by
  unfold handlerTaskFailedEvent
  exact handlerClose_resting (fit.reported (handlerEvent_reported e n _ _ _))

lemma Fit.shut (fit : n.Fit) (shut : Shut n m) : m.Fit := by
  cases shut with
  | still => exact fit
  | disconnect =>
    refine ⟨?_, fit.registered, fit.handler⟩
    rintro (connect | connected)
    · exact fit.connecting (.inl connect)
    · cases connected
  | close =>
    refine ⟨?_, fit.registered, fit.handler⟩
    rintro (connect | connected)
    · cases connect
    · cases connected

lemma Resting.shut (resting : n.Resting) (shut : Shut n m) : m.Resting := by
  refine ⟨resting.toFit.shut shut, ?_⟩
  cases shut with
  | still => exact resting.idle
  | disconnect => exact resting.idle
  | close => exact resting.idle

lemma Fit.quiet (fit : n.Fit) (work : Quiet n m) : m.Fit := by
  have same := work.unspoken
  have connect := congrArg (fun k : ConnectNode => k.connectEvent) same
  have connected := congrArg (fun k : ConnectNode => k.isConnected) same
  have read := congrArg (fun k : ConnectNode => k.readEvent) same
  have request := congrArg (fun k : ConnectNode => k.request) same
  have registered := congrArg (fun k : ConnectNode => k.registered) same
  have handler := congrArg (fun k : ConnectNode => k.handler) same
  dsimp only [unspoken] at connect connected read request registered handler
  refine ⟨?_, ?_, handler.trans fit.handler⟩
  · rw [connect, connected, read]
    exact fit.connecting
  · rw [request, registered]
    exact fit.registered

lemma Going.quiet (going : n.Going) (work : Quiet n m) : m.Going := by
  have events := congrArg (fun k : ConnectNode => k.toNodeEvents) work.unspoken
  have kept : m.toNodeEvents = n.toNodeEvents := events
  unfold Going
  rw [kept]
  exact going

lemma Alive.quiet (alive : n.Alive) (work : Quiet n m) : m.Alive := by
  have request := congrArg (fun k : ConnectNode => k.request) work.unspoken
  refine ⟨alive.toFit.quiet work, fun held exit invoked => ?_⟩
  rcases work.exitStatus with kept | stopping
  · refine (alive.going ?_ (kept.symm.trans exit) ?_).quiet work
    · exact request.symm.trans held
    · rw [isInvoked, ← work.workStatus]
      exact invoked
  · rw [stopping] at exit
    cases exit

/-- Calls and writes keep a session alive, or end it. -/
lemma Alive.course (alive : n.Alive) (course : Course e n m) : m.Alive := by
  induction course with
  | refl => exact alive
  | quiet _ work ih => exact ih.quiet work
  | fails _ info code before after ih =>
    exact ((handlerTaskFailedEvent_resting (ih.toFit.shut before) info code).shut after).alive

/-! ## Write events -/

lemma Going.status (going : n.Going) (fit : n.Fit) (status : ConnectStatus) :
    Alive { n with workStatus := status } :=
  ⟨⟨fit.connecting, fit.registered, fit.handler⟩, fun _ _ _ => going⟩

lemma requestSend_alive (alive : n.Alive) : (n.requestSend e).1.Alive := by
  by_cases handshaking : n.workStatus = .nodeHandshaking
  · have work := (gatewayRequest_quiet e n).trans (nlsSendFrame_sent e _ .cmd false).quiet
    have sent := alive.quiet work
    simp only [requestSend, handshaking]
    refine ⟨⟨sent.connecting, sent.registered, sent.handler⟩, fun request exit _ => ?_⟩
    refine sent.going request exit ?_
    simp [isInvoked, work.workStatus, handshaking]
  · exact alive.quiet (requestSend_quiet e handshaking)

lemma nodeRequestProcess_alive (alive : n.Alive) : (n.nodeRequestProcess e).1.Alive := by
  have sent := requestSend_alive (e := e) alive
  unfold nodeRequestProcess
  split
  · exact alive
  dsimp only
  split
  · exact ((handlerTaskFailedEvent_resting sent.toFit _ _).shut .close).alive
  · exact sent

lemma destroyConnectNode_alive (alive : n.Alive) : n.destroyConnectNode.Alive := by
  unfold destroyConnectNode
  split
  · exact alive
  split
  · refine ⟨⟨alive.connecting, ?_, alive.handler⟩, ?_⟩
    · intro request
      cases request
    · intro request
      cases request
  · exact ⟨⟨alive.connecting, alive.registered, alive.handler⟩, alive.going⟩

lemma writeEventCallBack_alive (alive : n.Alive) (what : EventKind) :
    (n.writeEventCallBack e what).Alive := by
  have destroyed (m : ConnectNode) (kept : m.Alive) :
      (if m.workStatus = .nodeInvalid then m.destroyConnectNode else m).Alive := by
    split
    · exact destroyConnectNode_alive kept
    · exact kept
  unfold writeEventCallBack
  split
  · exact alive
  split
  · rename_i cancelled
    refine ((alive.toFit.shut .close).resting_of_exit ?_).alive
    simp [closeConnectNode, cancelled]
  cases what with
  | ready => exact destroyed _ (nodeRequestProcess_alive alive)
  | timeout => exact destroyed _ (alive.course (failEvent_course e n _ _))
  | unknown => exact destroyed _ (alive.course (failEvent_course e n _ _))

/-! ## Setting a connection up -/

lemma orDestroy_alive {result : ConnectNode × Ret} (alive : result.1.Alive) :
    (orDestroy result).Alive := by
  unfold orDestroy
  split
  · exact destroyConnectNode_alive alive
  · exact alive

lemma backToConnecting_fit (fit : n.Fit) : n.backToConnecting.Fit := by
  refine ⟨?_, fit.registered, fit.handler⟩
  rintro (connect | connected)
  · exact fit.connecting (.inl connect)
  · cases connected

lemma connectAttempt_alive {connect : ConnectNode → SocketState → ConnectNode}
    (connects : ∀ socket, (connect n socket).Fit ∧ (connect n socket).readEvent = true)
    (retry : ConnectNode → ConnectNode) (again : (retry n.backToConnecting).Alive)
    (attempt : Attempt) : (n.connectAttempt e connect retry attempt).Alive := by
  have reads (socket : SocketState) (status : ConnectStatus) :
      Alive { connect n socket with workStatus := status, isConnected := true } := by
    obtain ⟨fit, read⟩ := connects socket
    exact ⟨⟨fun _ => read, fit.registered, fit.handler⟩, fun _ _ _ => by simp [Going, read]⟩
  unfold connectAttempt
  split
  · exact again
  cases attempt with
  | parseUrlFailed => exact again
  | invalidDnsSource => exact again
  | failed => exact again
  | pending =>
    obtain ⟨fit, read⟩ := connects .connecting
    exact fit.alive (by simp [Going, read])
  | connected => exact reads .connecting .nodeConnected
  | handshaking => exact orDestroy_alive (nodeRequestProcess_alive (reads .established _))

lemma connectProcess_fit (fit : n.Fit) (socket : SocketState) :
    (n.connectProcess socket).Fit ∧ (n.connectProcess socket).readEvent = true :=
  ⟨⟨fun _ => rfl, fit.registered, fit.handler⟩, rfl⟩

lemma socketConnect_fit (fit : n.Fit) (read : n.readEvent = true) (socket : SocketState) :
    (n.socketConnect socket).Fit ∧ (n.socketConnect socket).readEvent = true :=
  ⟨⟨fun _ => read, fit.registered, fit.handler⟩, read⟩

/-- A long connection still open is used again. -/
lemma longStart_alive (fit : n.Fit) (connected : n.isConnected = true) :
    let m := { n with workStatus := .nodeStarting }
    let sent := (m.addCmdDataBuffer e m.startCommand []).nlsSendFrame e .cmd false
    (if sent.2.failed then
      ((sent.1.handlerTaskFailedEvent e sent.1.nodeErrMsg
        NlsErrorCode.defaultErrorCode).closeConnectNode, sent.2)
      else (sent.1, .ok 0)).1.Alive := by
  have read := fit.connecting (.inr connected)
  have starting : Alive { n with workStatus := .nodeStarting } :=
    Going.status (by simp [Going, read]) fit _
  have sent := starting.quiet (addCmd_send_quiet e _
    (startCommand { n with workStatus := .nodeStarting }) [])
  dsimp only
  split
  · exact ((handlerTaskFailedEvent_resting sent.toFit _ _).shut .close).alive
  · exact sent

/-- Setting a connection up waits for an event, or ends the session. -/
theorem dnsProcess_alive {attempts : List Attempt} (fit : n.Fit)
    (url : .parseUrlFailed ∉ attempts) (host : .invalidDnsSource ∉ attempts) :
    (dnsProcess e attempts n).1.Alive := by
  have ends (m : ConnectNode) (fit : m.Fit) :
      ({ m with retryConnectCount := 0 }.handlerTaskFailedEvent e taskFailedConnectJsonString
        NlsErrorCode.sysConnectFailed).Alive :=
    (handlerTaskFailedEvent_resting (n := { m with retryConnectCount := 0 })
      ⟨fit.connecting, fit.registered, fit.handler⟩ _ _).alive
  have counted (m : ConnectNode) (fit : m.Fit) : m.countConnect.Fit :=
    ⟨fit.connecting, fit.registered, fit.handler⟩
  induction attempts generalizing n with
  | nil =>
    unfold dnsProcess
    split
    · exact (fit.resting_of_exit (by simp [*])).alive
    split
    · exact (fit.resting_of_gone ‹_›).alive
    split
    · exact longStart_alive fit (‹_ ∧ _›).2
    split
    · exact ends n fit
    · exact Fit.alive (n := { n.countConnect with dnsRequest := true })
        ⟨fit.connecting, fit.registered, fit.handler⟩ (by simp [Going])
  | cons attempt rest ih =>
    have again := orDestroy_alive (ih (backToConnecting_fit (counted n fit))
      (List.not_mem_of_not_mem_cons url) (List.not_mem_of_not_mem_cons host))
    have attempted := connectAttempt_alive (e := e) (connectProcess_fit (counted n fit))
      (fun n => orDestroy (dnsProcess e rest n)) again attempt
    unfold dnsProcess
    split
    · exact (fit.resting_of_exit (by simp [*])).alive
    split
    · exact (fit.resting_of_gone ‹_›).alive
    split
    · exact longStart_alive fit (‹_ ∧ _›).2
    split
    · exact ends n fit
    · cases attempt with
      | parseUrlFailed => exact absurd (List.mem_cons_self ..) url
      | invalidDnsSource => exact absurd (List.mem_cons_self ..) host
      | pending => exact attempted
      | failed => exact attempted
      | connected => exact attempted
      | handshaking => exact attempted

lemma continueConnect_alive (fit : n.Fit) {connect : ConnectNode → SocketState → ConnectNode}
    (connects : ∀ socket, (connect n socket).Fit ∧ (connect n socket).readEvent = true)
    (answered : e.attempts ≠ []) (resolvable : Resolvable e) :
    (n.continueConnect e connect).Alive := by
  unfold continueConnect
  cases attempts : e.attempts with
  | nil => exact absurd attempts answered
  | cons attempt rest =>
    obtain ⟨url, host⟩ := resolvable
    rw [attempts] at url host
    exact connectAttempt_alive connects _ (orDestroy_alive (dnsProcess_alive
      (backToConnecting_fit fit) (List.not_mem_of_not_mem_cons url)
      (List.not_mem_of_not_mem_cons host))) _

lemma launchEventCallback_alive (fit : n.Fit) (resolvable : Resolvable e) :
    (n.launchEventCallback e).Alive := by
  unfold launchEventCallback
  split
  · exact (fit.resting_of_gone ‹_›).alive
  split
  · rename_i leaving
    refine (Fit.resting_of_exit (n := { n with workStatus := .nodeInvoked })
      ⟨fit.connecting, fit.registered, fit.handler⟩ ?_).alive
    rcases leaving with exit | exit <;> simp [exit]
  · exact orDestroy_alive (dnsProcess_alive ⟨fit.connecting, fit.registered, fit.handler⟩ resolvable.1 resolvable.2)

lemma connectEventCallback_alive (fit : n.Fit) (read : n.readEvent = true) (timeout : Bool)
    (resolvable : Resolvable e) : (n.connectEventCallback e timeout).Alive := by
  unfold connectEventCallback
  split
  · exact orDestroy_alive (dnsProcess_alive (backToConnecting_fit fit) resolvable.1 resolvable.2)
  split
  · split
    · exact Fit.alive (n := { n with connectEvent := true })
        ⟨fun _ => read, fit.registered, fit.handler⟩ (by simp [Going])
    · exact continueConnect_alive fit (socketConnect_fit fit read) ‹_› resolvable
  · exact fit.alive (by simp [Going, read])

lemma dnsEventCallback_alive (fit : n.Fit) {failed : Bool}
    (answered : e.attempts.isEmpty = true → failed = true) (resolvable : Resolvable e) :
    (n.dnsEventCallback e failed).Alive := by
  unfold dnsEventCallback
  split
  · exact (fit.resting_of_gone ‹_›).alive
  split
  · exact orDestroy_alive (dnsProcess_alive (n := { n with workStatus := .nodeConnecting })
      ⟨fit.connecting, fit.registered, fit.handler⟩ resolvable.1 resolvable.2)
  · exact continueConnect_alive fit (connectProcess_fit fit) (fun empty => ‹¬_› (answered (by simp [empty])))
      resolvable

lemma sendFakeSynthesisStarted_alive (alive : n.Alive) :
    (n.sendFakeSynthesisStarted e).Alive := by
  unfold sendFakeSynthesisStarted
  split
  · exact alive.reported (handlerFrame_calledBack e n _).reported
  · exact alive

lemma startWithPoolEventCallback_alive (fit : n.Fit) :
    (n.startWithPoolEventCallback e).Alive := by
  have starting : Alive
      { n with readEvent := true, writeEvent := true, workStatus := .nodeStarting } :=
    ⟨⟨fun _ => rfl, fit.registered, fit.handler⟩, fun _ _ _ => by simp [Going]⟩
  have sent := starting.quiet (addCmd_send_quiet e _ .cmdStart [])
  unfold startWithPoolEventCallback
  split
  · exact (fit.resting_of_gone ‹_›).alive
  dsimp only
  split
  · exact sendFakeSynthesisStarted_alive sent
  · exact sent

/-! ## Received frames -/

/-- Events that set the status to started. -/
def setsStarted (n : ConnectNode) (type : EventType) : Bool :=
  isStarted type || type = .wakeWordVerificationCompleted ||
    (type = .binary && n.isFirstBinaryFrame)

/-- The event starts a session that is not under way. -/
def Revives (n : ConnectNode) (type : EventType) : Prop :=
  n.exitStatus = .exitInvalid ∧ n.isInvoked = false ∧ ¬n.Going ∧ n.setsStarted type = true

instance (n : ConnectNode) (type : EventType) : Decidable (n.Revives type) :=
  inferInstanceAs (Decidable (_ ∧ _))

/-- The frame starts no session that is not under way. -/
def FrameInTime (e : Env) (n : ConnectNode) (buffer : Bytes) (wsFrame : WebSocketFrame) : Prop :=
  ∀ event ∈ (n.convertResult e buffer wsFrame).2.toOption, ¬n.Revives event.msgType

instance (e : Env) (n : ConnectNode) (buffer : Bytes) (wsFrame : WebSocketFrame) :
    Decidable (FrameInTime e n buffer wsFrame) := inferInstanceAs (Decidable (∀ _ ∈ _, _))

/-- The same for every frame of the next read. -/
def FramesInTime (e : Env) (n : ConnectNode) : Prop :=
  n.reader.Hands (FrameInTime e) (deliverFrame e) (fun n => n.channel.isOpen) n

instance (e : Env) (n : ConnectNode) : Decidable (FramesInTime e n) := by
  unfold FramesInTime
  infer_instance

lemma statusAfter_going (n : ConnectNode) (type : EventType) :
    (n.statusAfter type).Going ↔ n.Going := by
  unfold statusAfter enterStarted
  split
  all_goals first | rfl | (split_ifs <;> rfl)

lemma statusAfter_fit (fit : n.Fit) (type : EventType) : (n.statusAfter type).Fit := by
  unfold statusAfter enterStarted
  split
  all_goals first
    | exact ⟨fit.connecting, fit.registered, fit.handler⟩
    | (split_ifs <;> exact ⟨fit.connecting, fit.registered, fit.handler⟩)

/-- Only the events that start a session set a status in which one is under way. -/
lemma statusAfter_workStatus (n : ConnectNode) {type : EventType}
    (starts : n.setsStarted type = false) : (n.statusAfter type).workStatus = n.workStatus ∨
      (n.statusAfter type).workStatus ∈ [.nodeFailed, .nodeCompleted] := by
  cases type with
  | recognitionStarted => simp [setsStarted, isStarted] at starts
  | transcriptionStarted => simp [setsStarted, isStarted] at starts
  | synthesisStarted => simp [setsStarted, isStarted] at starts
  | wakeWordVerificationCompleted => simp [setsStarted, isStarted] at starts
  | binary =>
    have later : n.isFirstBinaryFrame = false := by simpa [setsStarted, isStarted] using starts
    exact .inl (by simp [statusAfter, later])
  | close => exact .inr (by simp [statusAfter])
  | recognitionCompleted => exact .inr (by simp [statusAfter])
  | transcriptionCompleted => exact .inr (by simp [statusAfter])
  | synthesisCompleted => exact .inr (by simp [statusAfter])
  | taskFailed =>
    unfold statusAfter
    dsimp only
    split
    · exact .inl rfl
    · exact .inr (by simp)
  | _ => exact .inl rfl

lemma statusAfter_alive (alive : n.Alive) {type : EventType} (inTime : ¬n.Revives type) :
    (n.statusAfter type).Alive := by
  have same : (n.statusAfter type).request = n.request ∧
      (n.statusAfter type).exitStatus = n.exitStatus := by
    unfold statusAfter enterStarted
    split
    all_goals first | exact ⟨rfl, rfl⟩ | (split_ifs <;> exact ⟨rfl, rfl⟩)
  refine ⟨statusAfter_fit alive.toFit type, fun request exit invoked => ?_⟩
  rw [same.1] at request
  rw [same.2] at exit
  rw [statusAfter_going]
  by_contra still
  have idle : n.isInvoked = false := by
    by_contra session
    exact still (alive.going request exit (by simpa using session))
  have starts : n.setsStarted type = false := by
    by_contra starts
    exact inTime ⟨exit, idle, still, by simpa using starts⟩
  rcases statusAfter_workStatus n starts with kept | ended
  · rw [isInvoked, kept] at invoked
    rw [isInvoked, invoked] at idle
    cases idle
  · rw [isInvoked_eq_false (by simp at ended ⊢; tauto)] at invoked
    cases invoked

lemma closeSession_resting (fit : n.Fit) {ignore : Bool}
    (late : ignore = true → n.workStatus = .nodeClosed) : (n.closeSession e ignore).Resting := by
  have closed : ∀ m : ConnectNode, m.Fit → (m.handlerClose e).Resting :=
    fun m fit => handlerClose_resting fit
  have off (m : ConnectNode) (registered : m.request = true → m.registered = true)
      (handler : m.handler = true) (connect : m.connectEvent = false)
      (connected : m.isConnected = false) : m.Fit :=
    ⟨by simp [connect, connected], registered, handler⟩
  unfold closeSession
  dsimp only
  split
  · split
    · split
      · exact closed _ (off _ fit.registered fit.handler rfl rfl)
      · exact closed _ (off _ fit.registered fit.handler rfl rfl)
    · exact closed _ (off _ fit.registered fit.handler rfl rfl)
  split
  · refine Fit.resting_of_status (off _ fit.registered fit.handler rfl rfl) ?_
    simp [closeConnectNode, late ‹_›]
  · exact closed _ ⟨fit.connecting, fit.registered, fit.handler⟩

lemma adoptTaskId_alive (alive : n.Alive) (event : NlsEvent) : (n.adoptTaskId event).Alive := by
  unfold adoptTaskId
  split
  · exact ⟨⟨alive.connecting, alive.registered, alive.handler⟩, alive.going⟩
  · exact alive

lemma Revives.of_calledBack {type : EventType} (told : CalledBack n m) (revives : m.Revives type) :
    n.Revives type := by
  obtain ⟨r, rfl⟩ := told
  exact revives

lemma Revives.of_adoptTaskId {type : EventType} {event : NlsEvent}
    (revives : (n.adoptTaskId event).Revives type) : n.Revives type := by
  unfold adoptTaskId at revives
  split at revives
  · exact revives
  · exact revives

lemma ignoreFlag_closed {type : EventType} (ignored : n.ignoreFlag type = true) :
    n.statusAfter type = n ∧ n.workStatus = .nodeClosed := by
  simp only [ignoreFlag, ignoreCallbackWhenNodeClosedWhenLongConnection, Bool.and_eq_true,
    decide_eq_true_eq] at ignored
  obtain ⟨failed, late⟩ := ignored
  refine ⟨?_, late.1.2⟩
  subst failed
  simp [statusAfter, ignoreFlag, ignoreCallbackWhenNodeClosedWhenLongConnection, late.1.1.1,
    late.1.1.2, late.1.2]

/-- An event ends the session or leaves it alive. -/
lemma handleEvent_alive (alive : n.Alive) {event : NlsEvent} (inTime : ¬n.Revives event.msgType) :
    (n.handleEvent e event).1.Alive := by
  have told := handlerFrame_calledBack e (n.adoptTaskId event) event
  have handled := (adoptTaskId_alive alive event).reported told.reported
  have inTime' : ¬((n.adoptTaskId event).handlerFrame e event).1.Revives event.msgType :=
    fun revives => inTime (revives.of_calledBack told).of_adoptTaskId
  have moved := statusAfter_alive handled inTime'
  unfold handleEvent
  split
  · exact alive
  dsimp only
  split
  · exact handled
  dsimp only
  split
  · refine (closeSession_resting moved.toFit fun ignored => ?_).alive
    obtain ⟨same, closed⟩ := ignoreFlag_closed ignored
    rw [same]
    exact closed
  · exact moved

lemma parseFrame_alive (alive : n.Alive) {buffer : Bytes} {wsFrame : WebSocketFrame}
    (inTime : FrameInTime e n buffer wsFrame) : (n.parseFrame e buffer wsFrame).1.Alive := by
  have converted := alive.reported (convertResult_reported e n buffer wsFrame)
  unfold parseFrame
  split
  · exact alive
  split
  case h_1 =>
    split
    · exact handleEvent_alive alive fun revives => by
        simp [Revives, setsStarted, isStarted, closeFrameEvent] at revives
    · rename_i closed
      refine ((alive.toFit.shut .close).resting_of_status ?_).alive
      simp only [ne_eq, not_not] at closed
      simp [closeConnectNode, closed]
  case h_2 => exact alive
  case h_3 =>
    dsimp only
    split
    case h_1 event made =>
      rw [convertResult_ok made]
      refine handleEvent_alive alive (inTime event ?_)
      rw [made]
      rfl
    case h_2 => exact converted
    case h_3 => exact converted
    case h_4 => exact (handlerClose_resting (converted.toFit.shut .close)).alive

lemma deliverFrame_alive (alive : n.Alive) {buffer : Bytes} {wsFrame : WebSocketFrame}
    (inTime : FrameInTime e n buffer wsFrame) : (n.deliverFrame e buffer wsFrame).1.Alive := by
  have parsed := parseFrame_alive alive inTime
  unfold deliverFrame
  split
  · exact alive
  dsimp only
  split
  · exact parsed
  · exact parsed

lemma withReader_alive (alive : n.Alive) (r : Reader) (ret : Ret) :
    (n.withReader e r ret).1.Alive := by
  unfold withReader
  split
  · exact ⟨⟨alive.connecting, alive.registered, alive.handler⟩, alive.going⟩
  · exact ⟨⟨alive.connecting, alive.registered, alive.handler⟩, alive.going⟩

theorem webSocketResponse_alive (alive : n.Alive) (inTime : FramesInTime e n) :
    (n.webSocketResponse e).1.Alive := by
  have read : (n.reader.webSocketResponse (deliverFrame e)
      (fun n => n.channel.isOpen) n).2.1.Alive :=
    Reader.webSocketResponse_hands (K := Alive)
      (fun m buffer frame kept inTime => deliverFrame_alive kept inTime) inTime alive
  unfold webSocketResponse
  split
  · exact alive
  · exact withReader_alive read _ _

/-! ## Read events -/

lemma gatewayResponse_same (e : Env) (n : ConnectNode) :
    ∃ (r : Reader) (msg : Bytes), (n.gatewayResponse e).1 = { n with reader := r, nodeErrMsg := msg } := by
  simp only [gatewayResponse, withReader]
  repeat' split
  all_goals exact ⟨_, _, rfl⟩

lemma responseUpgrade_alive (alive : n.Alive) (read : n.readEvent = true) :
    (n.responseUpgrade e).1.Alive := by
  obtain ⟨r, msg, answer⟩ := gatewayResponse_same e n
  have answered : (n.gatewayResponse e).1.Alive := by
    rw [answer]
    exact ⟨⟨alive.connecting, alive.registered, alive.handler⟩, alive.going⟩
  have upgraded : Alive { (n.gatewayResponse e).1 with workStatus := .nodeStarting } := by
    refine Going.status ?_ answered.toFit _
    rw [answer]
    simp [Going, read]
  have sent := upgraded.quiet (addCmd_send_quiet e _
    (startCommand { (n.gatewayResponse e).1 with workStatus := .nodeStarting }) [])
  unfold responseUpgrade
  dsimp only
  split
  · split
    · exact upgraded
    dsimp only
    split
    · exact sent
    · exact sendFakeSynthesisStarted_alive sent
  · exact answered

lemma responseStarting_alive (alive : n.Alive) (inTime : FramesInTime e n) :
    (n.responseStarting e).1.Alive := by
  have read := webSocketResponse_alive alive inTime
  have flushed := read.quiet (nlsSendFrame_sent e _ .binary true).quiet
  unfold responseStarting
  dsimp only
  split
  · split
    · exact flushed.quiet (sendControlDirective_quiet e _)
    · exact flushed
  split
  · exact read.quiet (nlsSendFrame_sent e _ .wwv false).quiet
  · exact read

theorem responseRead_alive (alive : n.Alive) (read : n.readEvent = true)
    (inTime : n.ReadsFrames → FramesInTime e n) : (n.responseRead e).1.Alive := by
  unfold responseRead
  split
  case h_1 => exact responseUpgrade_alive alive read
  case h_2 => exact responseUpgrade_alive alive read
  case h_3 status => exact responseStarting_alive alive (inTime (by simp [ReadsFrames, status]))
  case h_4 status => exact responseStarting_alive alive (inTime (by simp [ReadsFrames, status]))
  case h_5 status => exact webSocketResponse_alive alive (inTime (by simp [ReadsFrames, status]))
  case h_6 status =>
    split
    · exact webSocketResponse_alive alive (inTime (by simp [ReadsFrames, *]))
    · exact alive
  case h_7 status =>
    split
    · exact webSocketResponse_alive alive (inTime (by simp [ReadsFrames, *]))
    · exact alive
  case h_8 => exact alive
  case h_9 => exact alive

/-- The result that closes a node without a word. -/
def Valid (ret : Ret) : Prop := ret ≠ .error .invalidRequest

lemma nlsSendFrame_valid (e : Env) (n : ConnectNode) (i : Output) (audioFrame : Bool) :
    Valid (n.nlsSendFrame e i audioFrame).2 := by
  unfold nlsSendFrame afterSend
  dsimp only
  split
  · simp [Valid]
  split
  · simp [Valid]
  · split <;> nofun

lemma sendControlDirective_valid (e : Env) (n : ConnectNode) :
    Valid (n.sendControlDirective e).2 := by
  unfold sendControlDirective
  split
  · split
    · exact nlsSendFrame_valid e n _ _
    · simp [Valid]
  · split
    · exact nlsSendFrame_valid e _ _ _
    · simp [Valid]

lemma withReader_valid (e : Env) (n : ConnectNode) (r : Reader) {ret : Ret} (valid : Valid ret) :
    Valid (n.withReader e r ret).2 := by
  unfold withReader
  split
  · exact valid
  · exact valid

lemma handleEvent_valid (e : Env) (n : ConnectNode) (event : NlsEvent) :
    Valid (n.handleEvent e event).2 := by
  have handled (m : ConnectNode) (code : NlsRetCode)
      (failed : (m.handlerFrame e event).2 = .error code) : Valid (.error code) := by
    rw [← failed]
    unfold handlerFrame
    split
    · simp [Valid]
    split
    · simp [Valid]
    · simp [Valid]
  unfold handleEvent
  split
  · simp [Valid]
  dsimp only
  split
  · exact handled _ _ ‹_›
  · simp [Valid]

lemma deliverFrame_valid (e : Env) (n : ConnectNode) (buffer : Bytes) (wsFrame : WebSocketFrame) :
    Valid (n.deliverFrame e buffer wsFrame).2 := by
  have parsed : Valid (n.parseFrame e buffer wsFrame).2 := by
    unfold parseFrame
    split
    · simp [Valid]
    split
    · split
      · exact handleEvent_valid e n _
      · simp [Valid]
    · simp [Valid]
    · dsimp only
      split
      · exact handleEvent_valid e _ _
      · simp [Valid]
      · simp [Valid]
      · simp [Valid]
  unfold deliverFrame
  split
  · simp [Valid]
  dsimp only
  split
  · simp [Valid]
  · exact parsed

lemma webSocketResponse_valid (e : Env) (n : ConnectNode) : Valid (n.webSocketResponse e).2 := by
  unfold webSocketResponse
  split
  · simp [Valid]
  · exact withReader_valid e _ _ (Reader.webSocketResponse_returns (R := Valid)
      (fun m buffer frame => deliverFrame_valid e m buffer frame) (by simp [Valid])
      (by simp [Valid]) _ _)

lemma responseUpgrade_valid (e : Env) (n : ConnectNode) : Valid (n.responseUpgrade e).2 := by
  have package (ws : WebSocketTcp) (content : Bytes) : Valid (ws.responsePackage content).2 := by
    unfold WebSocketTcp.responsePackage
    dsimp only
    repeat' split
    all_goals simp [Valid]
  have answered (r : Reader) (isOpen : Bool) : Valid (r.gatewayResponse isOpen).2 := by
    unfold Reader.gatewayResponse
    dsimp only
    split
    · simp [Valid]
    · simp [Valid]
    · exact package _ _
  have answer : Valid (n.gatewayResponse e).2 := by
    unfold gatewayResponse
    dsimp only
    split
    · exact answered _ _
    · exact answered _ _
    · exact withReader_valid e _ _ (answered _ _)
  unfold responseUpgrade
  dsimp only
  split
  · split
    · simp [Valid]
    · exact nlsSendFrame_valid e _ _ _
  · exact answer

lemma responseStarting_valid (e : Env) (n : ConnectNode) : Valid (n.responseStarting e).2 := by
  unfold responseStarting
  dsimp only
  split
  · split
    · exact sendControlDirective_valid e _
    · exact nlsSendFrame_valid e _ _ _
  split
  · exact nlsSendFrame_valid e _ _ _
  · exact webSocketResponse_valid e n

lemma responseRead_valid (e : Env) (valid : n.workStatus ≠ .nodeInvalid) :
    Valid (n.responseRead e).2 := by
  unfold responseRead
  split
  case h_1 => exact responseUpgrade_valid e n
  case h_2 => exact responseUpgrade_valid e n
  case h_3 => exact responseStarting_valid e n
  case h_4 => exact responseStarting_valid e n
  case h_5 => exact webSocketResponse_valid e n
  case h_6 =>
    split
    · exact webSocketResponse_valid e n
    · simp [Valid]
  case h_7 =>
    split
    · exact webSocketResponse_valid e n
    · simp [Valid]
  case h_8 status => exact absurd status valid
  case h_9 => simp [Valid]

theorem nodeResponseProcess_alive (alive : n.Alive) (read : n.readEvent = true)
    (inTime : n.ReadsFrames → FramesInTime e n) : (n.nodeResponseProcess e).1.Alive := by
  have response := responseRead_alive alive read inTime
  unfold nodeResponseProcess
  split
  · exact alive
  split
  · exact alive
  dsimp only
  split
  · exact response
  · exact response
  · exact response
  · exact response
  split
  · exact response
  split
  · exact response
  · exact (handlerTaskFailedEvent_resting (response.toFit.shut .close) _ _).alive

/-- A node is closed without a word only when its status is not valid. -/
lemma nodeResponseProcess_valid (e : Env) (valid : n.workStatus ≠ .nodeInvalid) :
    Valid (n.nodeResponseProcess e).2 := by
  have response := responseRead_valid e valid
  unfold nodeResponseProcess
  split
  · simp [Valid]
  split
  · simp [Valid]
  dsimp only
  split
  · simp [Valid]
  · simp [Valid]
  · exact response
  · exact response
  split
  · simp [Valid]
  split
  · exact response
  · rename_i other
    exact fun same => other (Except.error.inj same)

lemma nodeResponseProcess_invalid (e : Env) (invalid : n.workStatus = .nodeInvalid) :
    (n.nodeResponseProcess e).1 = n := by
  have response : n.responseRead e = (n, .error .invalidRequest) := by
    unfold responseRead
    rw [invalid]
  unfold nodeResponseProcess
  split
  · rfl
  split
  · rfl
  · rw [response]
    simp [invalid]

theorem readEventCallBack_alive (alive : n.Alive) (read : n.readEvent = true) {what : EventKind}
    (inTime : what = .ready → n.ReadsFrames → FramesInTime e n) :
    (n.readEventCallBack e what).Alive := by
  unfold readEventCallBack
  split
  · exact alive
  split
  · rename_i cancelled
    refine ((alive.toFit.shut .close).resting_of_exit ?_).alive
    simp [closeConnectNode, cancelled]
  cases what with
  | ready =>
    have response := nodeResponseProcess_alive alive read (inTime rfl)
    dsimp only
    split
    · rename_i failed
      by_cases invalid : n.workStatus = .nodeInvalid
      · rw [nodeResponseProcess_invalid e invalid]
        refine ((alive.toFit.shut .close).resting_of_status ?_).alive
        simp [closeConnectNode, invalid]
      · exact absurd failed (nodeResponseProcess_valid e invalid)
    · exact response
  | timeout => exact alive.course (failEvent_course e n _ _)
  | unknown => exact alive.course (failEvent_course e n _ _)

/-! ## Steps -/

lemma cmdNotify_alive (alive : n.Alive) (type : CmdType) (message : Bytes) :
    (n.cmdNotify e type message).1.Alive := by
  by_cases cancel : type = .cmdCancel
  · subst cancel
    refine (Fit.resting_of_exit ?_ ?_).alive
    · exact ⟨alive.connecting, alive.registered, alive.handler⟩
    · simp [cmdNotify, cmdSend]
  · exact alive.course (cmdNotify_course e n cancel message)

lemma singleRoundTextEventCallback_alive (alive : n.Alive) :
    (n.singleRoundTextEventCallback e).Alive := by
  have sent := cmdNotify_alive (e := e) alive .cmdSendText n.param.singleRoundText
  have stopped := cmdNotify_alive (e := e) sent .cmdStop []
  unfold singleRoundTextEventCallback
  split
  · exact alive
  split
  · exact alive
  · exact ⟨⟨stopped.connecting, stopped.registered, stopped.handler⟩, stopped.going⟩

end ConnectNode

open ConnectNode

/-- The host can be looked up, a name resolution answers with an address, and no frame starts a
session behind its end. -/
def GoesOn (n : ConnectNode) (input : NodeInput) : Prop :=
  match input.op with
  | .launchEvent => n.launchEvent = true → Resolvable input.env
  | .reconnectEvent => n.reconnection.armed = true → Resolvable input.env
  | .dnsEvent failed => n.dnsRequest = true →
      (input.env.attempts.isEmpty = true → failed = true) ∧ Resolvable input.env
  | .connectEvent _ => n.connectEvent = true → Resolvable input.env
  | .readEvent .ready =>
    n.readEvent = true → n.ReadsFrames → FramesInTime input.env (n.withEnv input.env)
  | _ => True

instance (n : ConnectNode) : (input : NodeInput) → Decidable (GoesOn n input)
  | { op := .launchEvent, .. } => inferInstanceAs (Decidable (_ → _))
  | { op := .reconnectEvent, .. } => inferInstanceAs (Decidable (_ → _))
  | { op := .dnsEvent _, .. } => inferInstanceAs (Decidable (_ → _))
  | { op := .connectEvent _, .. } => inferInstanceAs (Decidable (_ → _))
  | { op := .readEvent .ready, .. } => inferInstanceAs (Decidable (_ → _))
  | { op := .readEvent .timeout, .. } | { op := .readEvent .unknown, .. } | { op := .start, .. }
  | { op := .sendAudio _, .. } | { op := .keepAudio _, .. } | { op := .cmdNotify _ _, .. }
  | { op := .syncPingCmd, .. } | { op := .startWithPoolEvent, .. }
  | { op := .singleRoundTextEvent, .. } | { op := .writeEvent _, .. } =>
    inferInstanceAs (Decidable True)

/-- A step keeps the session alive. -/
theorem nodeStep_alive {n : ConnectNode} (alive : n.Alive) {input : NodeInput}
    (notStart : input.op ≠ .start) (goesOn : GoesOn n input) : (nodeStep n input).Alive := by
  obtain ⟨op, e⟩ := input
  have given : (n.withEnv e).Alive :=
    ⟨⟨alive.connecting, alive.registered, alive.handler⟩, alive.going⟩
  cases op with
  | start => exact absurd rfl notStart
  | sendAudio frame => exact given.course (addAudioDataBuffer_course e _ frame)
  | keepAudio frame => exact ⟨⟨given.connecting, given.registered, given.handler⟩, given.going⟩
  | cmdNotify type message => exact cmdNotify_alive given type message
  | syncPingCmd => exact given.quiet (syncPingCmd_quiet e _)
  | launchEvent =>
    simp only [nodeStep, NodeOp.step]
    split
    · exact launchEventCallback_alive ⟨given.connecting, given.registered, given.handler⟩
        (goesOn ‹_›)
    · exact given
  | reconnectEvent =>
    simp only [nodeStep, NodeOp.step]
    split
    · exact launchEventCallback_alive ⟨given.connecting, given.registered, given.handler⟩
        (goesOn ‹_›)
    · exact given
  | dnsEvent failed =>
    simp only [nodeStep, NodeOp.step]
    split
    · obtain ⟨answered, resolvable⟩ := goesOn ‹_›
      exact dnsEventCallback_alive (n := { n.withEnv e with dnsRequest := false })
        ⟨given.connecting, given.registered, given.handler⟩ answered resolvable
    · exact given
  | connectEvent timeout =>
    simp only [nodeStep, NodeOp.step]
    split
    · rename_i pending
      have fit : Fit { n.withEnv e with connectEvent := false } := by
        refine ⟨?_, given.registered, given.handler⟩
        rintro (connect | connected)
        · cases connect
        · exact given.connecting (.inr connected)
      exact connectEventCallback_alive fit (given.connecting (.inl pending)) timeout
        (goesOn pending)
    · exact given
  | startWithPoolEvent =>
    simp only [nodeStep, NodeOp.step]
    split
    · exact startWithPoolEventCallback_alive ⟨given.connecting, given.registered, given.handler⟩
    · exact given
  | singleRoundTextEvent =>
    simp only [nodeStep, NodeOp.step]
    split
    · exact singleRoundTextEventCallback_alive
        ⟨⟨given.connecting, given.registered, given.handler⟩, given.going⟩
    · exact given
  | readEvent what =>
    simp only [nodeStep, NodeOp.step]
    split
    · refine readEventCallBack_alive given ‹_› fun ready frames => ?_
      subst ready
      exact goesOn ‹_› frames
    · exact given
  | writeEvent what =>
    simp only [nodeStep, NodeOp.step]
    split
    · exact writeEventCallBack_alive given what
    · exact given

end NlsSdk.Transport
