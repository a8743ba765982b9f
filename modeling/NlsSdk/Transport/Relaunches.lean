import NlsSdk.Transport.ConnectAttempts

/-!
# Relaunches

A retriable failure of a session with reconnection enabled is kept from the user, and the request
is launched again. `relaunches_bounded` says how often that happens before an end is told.
-/
namespace NlsSdk.Transport

open NlsSdk.Library

namespace ConnectNode

variable {e : Env} {n m k : ConnectNode}

/-- The relaunches that may follow: those not counted yet, one asked for, and one that is armed. -/
def due (n : ConnectNode) : ℕ :=
  maxTryCount - n.reconnection.reconnectedCount +
    (if n.reconnection.state = .willReconnect then 1 else 0) +
    if n.reconnection.armed then 1 else 0

/-- A relaunch is the event of an armed reconnection. -/
def stepRelaunches (n : ConnectNode) (input : NodeInput) : ℕ :=
  if input.op = .reconnectEvent ∧ n.reconnection.armed then 1 else 0

/-- The relaunches of a run. -/
def relaunchesIn (n : ConnectNode) (inputs : List NodeInput) : ℕ :=
  total nodeStep stepRelaunches n inputs

/-- From `n` to `m` there are some relaunches, and no end of a session was told. -/
def Relaunches (relaunches : ℕ) (n m : ConnectNode) : Prop :=
  endsTold m.callbacks = [] → endsTold n.callbacks = [] ∧ relaunches + m.due ≤ n.due

lemma Relaunches.trans {a b : ℕ} (h : Relaunches a n m) (h' : Relaunches b m k) :
    Relaunches (a + b) n k := by
  intro untold
  obtain ⟨between, later⟩ := h' untold
  obtain ⟨before, first⟩ := h between
  exact ⟨before, by omega⟩

/-! ## What an event does to them -/

lemma updateTwIndexOffset_due (n : ConnectNode) (event : NlsEvent) :
    (n.updateTwIndexOffset event).callbacks = n.callbacks ∧
      (n.updateTwIndexOffset event).due = n.due := by
  unfold updateTwIndexOffset
  split
  · exact ⟨rfl, rfl⟩
  · exact ⟨rfl, rfl⟩

/-- A failure that asks for a relaunch is counted, and one is due for it. -/
lemma noteInterruption_cases (n : ConnectNode) (type : EventType) (code : ℤ) :
    n.noteInterruption e type code = n ∨
      (type = .taskFailed ∧ n.reconnection.state ≠ .willReconnect ∧
        n.noteInterruption e type code = { n with reconnection :=
          { n.reconnection with
            interruptionTimestampMs := e.now
            reconnectedCount := n.reconnection.reconnectedCount + 1
            state := .willReconnect } }) := by
  unfold noteInterruption
  split
  · rename_i asks
    refine .inr ⟨asks.1, ?_, rfl⟩
    rcases asks.2.2 with state | state
    · simp [state]
    · simp [state]
  · exact .inl rfl

lemma ignoreCallback_due (n : ConnectNode) (type : EventType) (code : ℤ) :
    (n.ignoreCallbackWhenReconnecting e type code).1.due ≤ n.due := by
  unfold ignoreCallbackWhenReconnecting
  split
  swap
  · exact le_rfl
  obtain same | ⟨rfl, idle, asked⟩ := @noteInterruption_cases e n type code
  · rw [same]
    dsimp only
    split_ifs
    · exact le_rfl
    · simp only [due]
      simp
    · exact le_rfl
  · rw [asked]
    dsimp only
    rw [if_pos (by simp)]
    split_ifs with few
    · simp only [due, if_neg idle, if_true]
      omega
    · simp only [due]
      simp
      omega

/-- Arming takes the relaunch that is asked for. -/
lemma nodeReconnecting_due (n : ConnectNode) : (n.nodeReconnecting e).due ≤ n.due := by
  unfold nodeReconnecting
  split
  · rename_i asked
    simp only [due, asked.1, if_true]
    simp
  · exact le_rfl

/-- Only a Close that is told starts the count anew. -/
lemma afterCallback_due {type : EventType} {ignored : Bool}
    (closed : type = .close → ignored = true) : (n.afterCallback e type ignored).due ≤ n.due := by
  unfold afterCallback
  split
  · rename_i close
    rw [closed close]
    exact nodeReconnecting_due n
  split
  · exact le_rfl
  · exact le_rfl

/-- No event makes a relaunch more, unless an end is told. -/
lemma handlerFrame_relaunches (event : NlsEvent) :
    Relaunches 0 n (n.handlerFrame e event).1 := by
  have same : Relaunches 0 n n := fun untold => ⟨untold, (Nat.zero_add _).le⟩
  obtain ⟨told, offset⟩ := updateTwIndexOffset_due n event
  have less := @ignoreCallback_due e (n.updateTwIndexOffset event) event.msgType event.statusCode
  have before := (@ignoreCallback_counted e (n.updateTwIndexOffset event) event.msgType
    event.statusCode).1
  rw [offset] at less
  rw [told] at before
  unfold handlerFrame
  split
  · exact same
  split
  · exact same
  generalize (n.updateTwIndexOffset event).ignoreCallbackWhenReconnecting e event.msgType
    event.statusCode = reconnecting at less before ⊢
  obtain ⟨m, kept⟩ := reconnecting
  dsimp only at less before ⊢
  generalize late : ignoreCallbackWhenNodeClosedWhenLongConnection
    { m with hidden := kept || m.hidden } event.msgType = unheard
  split
  · rename_i ignored
    intro untold
    rw [(afterCallback_counted _ _ _).1] at untold
    refine ⟨before ▸ untold, ?_⟩
    have after := @afterCallback_due e { m with hidden := kept || m.hidden } event.msgType
      (kept || unheard) fun _ => ignored
    have same : due { m with hidden := kept || m.hidden } = m.due := rfl
    omega
  · intro untold
    rw [(afterCallback_counted _ _ _).1] at untold
    obtain ⟨untold, other⟩ := (endsTold_append m.callbacks _).mp untold
    refine ⟨before ▸ untold, ?_⟩
    have after := @afterCallback_due e (callback { m with hidden := kept || m.hidden } event)
      event.msgType (kept || unheard) fun close => by
        simp [endsSession, close] at other
    have same : due (callback { m with hidden := kept || m.hidden } event) = m.due := rfl
    omega

/-! ## Steps -/

lemma Relaunches.of_due (told : m.callbacks = n.callbacks) (less : m.due ≤ n.due) :
    Relaunches 0 n m := by
  intro untold
  rw [told] at untold
  exact ⟨untold, by omega⟩

lemma Relaunches.aside {a : ℕ} (h : Relaunches a n m) (told : k.callbacks = m.callbacks)
    (less : k.due ≤ m.due) : Relaunches a n k :=
  h.trans (.of_due told less)

lemma Relaunches.from {a : ℕ} (h : Relaunches a m k) (told : m.callbacks = n.callbacks)
    (less : m.due ≤ n.due) : Relaunches a n k := by
  have both := (Relaunches.of_due told less).trans h
  rwa [Nat.zero_add] at both

lemma Aside.relaunches (h : Aside n m) : Relaunches 0 n m := by
  obtain ⟨standing, relaunching, state⟩ := h
  simp only [ConnectNode.standing, Prod.mk.injEq] at standing
  simp only [ConnectNode.relaunching, Prod.mk.injEq] at relaunching
  refine .of_due standing.1.1 ?_
  unfold due
  rw [relaunching.1, relaunching.2]
  rcases state with same | starting | idle
  · rw [same]
  · simp [starting]
  · simp [idle]

lemma handlerEvent_relaunches (msg : Bytes) (code : ℤ) (type : EventType) :
    Relaunches 0 n (n.handlerEvent e msg code type) := by
  have noted : Relaunches 0 n (n.noteErrorCode code) := by
    unfold noteErrorCode
    split
    · exact .of_due rfl le_rfl
    · exact .of_due rfl le_rfl
  have handled (event : NlsEvent) :=
    noted.trans (@handlerFrame_relaunches e (n.noteErrorCode code) event)
  unfold handlerEvent report
  split
  · exact .of_due rfl le_rfl
  split
  · exact noted
  dsimp only
  split
  · exact (handled _).aside rfl le_rfl
  · exact handled _

theorem Moves.relaunches (moves : Moves e n m) : Relaunches 0 n m := by
  induction moves with
  | refl => exact .of_due rfl le_rfl
  | aside _ change ih => exact ih.trans change.relaunches
  | frame _ event ih => exact ih.trans (handlerFrame_relaunches event)
  | own _ msg code type ih => exact ih.trans (handlerEvent_relaunches msg code type)

lemma orDestroy_relaunches {result : ConnectNode × Ret} (h : Relaunches 0 n result.1) :
    Relaunches 0 n (orDestroy result) := by
  unfold orDestroy destroyConnectNode
  split_ifs
  · exact h
  · exact h.aside rfl le_rfl
  · exact h.aside rfl le_rfl
  · exact h

lemma connectAttempt_relaunches {connect : ConnectNode → SocketState → ConnectNode}
    (connects : ∀ socket, Aside n (connect n socket)) {retry : ConnectNode → ConnectNode}
    (again : Relaunches 0 n.backToConnecting (retry n.backToConnecting)) (attempt : Attempt) :
    Relaunches 0 n (n.connectAttempt e connect retry attempt) := by
  have retried : Relaunches 0 n (retry n.backToConnecting) := again.from rfl le_rfl
  unfold connectAttempt
  split
  · exact retried
  cases attempt with
  | pending => exact (connects _).relaunches
  | connected => exact (connects .connecting).relaunches.aside rfl le_rfl
  | handshaking =>
    have upgrading : Moves e n { connect n .established with
        workStatus := .nodeHandshaking, isConnected := true } :=
      (Moves.of_aside (connects .established)).aside (.still rfl rfl rfl)
    have upgraded := (upgrading.trans (nodeRequestProcess_moves e _)).relaunches
    exact orDestroy_relaunches upgraded
  | parseUrlFailed => exact retried
  | invalidDnsSource => exact retried
  | failed => exact retried

lemma dnsProcess_relaunches_of {attempts : List Attempt}
    (again : ∀ attempt rest, attempts = attempt :: rest →
      ∀ m, Relaunches 0 m (dnsProcess e rest m).1) :
    Relaunches 0 n (dnsProcess e attempts n).1 := by
  unfold dnsProcess
  split
  · exact .of_due rfl le_rfl
  split
  · exact .of_due rfl le_rfl
  split
  · have started : Moves e n { n with workStatus := .nodeStarting } :=
      .of_aside (.still rfl rfl rfl)
    have sent := started.quiet (addCmd_send_quiet e _ (startCommand { n with
      workStatus := .nodeStarting }) [])
    dsimp only
    split
    · exact ((sent.taskFailed _ _).aside (Shut.close).aside).relaunches
    · exact sent.relaunches
  split
  · have ended : Moves e { n with retryConnectCount := 0 } _ := Moves.refl.taskFailed
      taskFailedConnectJsonString NlsErrorCode.sysConnectFailed
    exact ended.relaunches.from rfl le_rfl
  cases attempts with
  | nil => exact .of_due rfl le_rfl
  | cons attempt rest =>
    have tried : Relaunches 0 n (n.countConnect.connectAttempt e connectProcess
        (fun m => orDestroy (dnsProcess e rest m)) attempt) := by
      have retried := orDestroy_relaunches (again attempt rest rfl n.countConnect.backToConnecting)
      have connects (socket : SocketState) :
          Aside n.countConnect (n.countConnect.connectProcess socket) := .still rfl rfl rfl
      exact (connectAttempt_relaunches connects retried attempt).from rfl le_rfl
    cases attempt with
    | parseUrlFailed => exact .of_due rfl le_rfl
    | invalidDnsSource => exact .of_due rfl le_rfl
    | pending => exact tried
    | failed => exact tried
    | connected => exact tried
    | handshaking => exact tried

/-- Connecting relaunches nothing, however often it is tried again. -/
theorem dnsProcess_relaunches (attempts : List Attempt) (n : ConnectNode) :
    Relaunches 0 n (dnsProcess e attempts n).1 := by
  induction attempts generalizing n with
  | nil =>
    apply dnsProcess_relaunches_of
    intro attempt rest absurd
    cases absurd
  | cons attempt rest ih =>
    apply dnsProcess_relaunches_of
    intro attempt' rest' same
    cases same
    exact ih

lemma continueConnect_relaunches {connect : ConnectNode → SocketState → ConnectNode}
    (connects : ∀ socket, Aside n (connect n socket)) :
    Relaunches 0 n (n.continueConnect e connect) := by
  unfold continueConnect
  cases e.attempts with
  | nil => exact .of_due rfl le_rfl
  | cons attempt rest =>
    exact connectAttempt_relaunches connects
      (orDestroy_relaunches (dnsProcess_relaunches rest _)) attempt

lemma launchEventCallback_relaunches : Relaunches 0 n (n.launchEventCallback e) := by
  unfold launchEventCallback
  split
  · exact .of_due rfl le_rfl
  split
  · exact .of_due rfl le_rfl
  · exact (orDestroy_relaunches (dnsProcess_relaunches e.attempts _)).from rfl le_rfl

lemma connectEventCallback_relaunches (timeout : Bool) :
    Relaunches 0 n (n.connectEventCallback e timeout) := by
  unfold connectEventCallback
  split
  · exact (orDestroy_relaunches (dnsProcess_relaunches e.attempts _)).from rfl le_rfl
  split
  · split
    · exact .of_due rfl le_rfl
    · exact continueConnect_relaunches fun _ => .still rfl rfl rfl
  · exact .of_due rfl le_rfl

lemma dnsEventCallback_relaunches (failed : Bool) :
    Relaunches 0 n (n.dnsEventCallback e failed) := by
  unfold dnsEventCallback
  split
  · exact .of_due rfl le_rfl
  split
  · exact (orDestroy_relaunches (dnsProcess_relaunches e.attempts _)).from rfl le_rfl
  · exact continueConnect_relaunches fun _ => .still rfl rfl rfl

lemma cmdNotify_relaunches (e : Env) (n : ConnectNode) (type : CmdType) (message : Bytes) :
    Relaunches 0 n (n.cmdNotify e type message).1 := by
  by_cases cancel : type = .cmdCancel
  · subst cancel
    exact .of_due rfl le_rfl
  · exact (cmdNotify_course e n cancel message).moves.relaunches

lemma writeEventCallBack_relaunches (e : Env) (n : ConnectNode) (what : EventKind) :
    Relaunches 0 n (n.writeEventCallBack e what) := by
  have handled {m : ConnectNode} (moves : Moves e n m) :
      Relaunches 0 n (if m.workStatus = .nodeInvalid then m.destroyConnectNode else m) := by
    unfold destroyConnectNode
    split_ifs
    · exact moves.relaunches
    · exact moves.relaunches.aside rfl le_rfl
    · exact moves.relaunches.aside rfl le_rfl
    · exact moves.relaunches
  unfold writeEventCallBack
  split
  · exact .of_due rfl le_rfl
  split
  · exact .of_due rfl le_rfl
  cases what with
  | ready => exact handled (nodeRequestProcess_moves e n)
  | timeout => exact handled (failEvent_course e n _ _).moves
  | unknown => exact handled (failEvent_course e n _ _).moves

lemma start_relaunches (e : Env) (n : ConnectNode) : Relaunches 0 n (n.start e) := by
  unfold start
  dsimp only
  split_ifs
  all_goals exact .of_due rfl le_rfl

lemma singleRoundTextEventCallback_relaunches (e : Env) (n : ConnectNode) :
    Relaunches 0 n (n.singleRoundTextEventCallback e) := by
  have sent := cmdNotify_relaunches e n .cmdSendText n.param.singleRoundText
  have stopped := sent.trans (cmdNotify_relaunches e _ .cmdStop [])
  unfold singleRoundTextEventCallback
  split
  · exact .of_due rfl le_rfl
  split
  · exact .of_due rfl le_rfl
  · exact stopped.aside rfl le_rfl

/-- The armed event is what a relaunch was due for. -/
lemma disarm_relaunches (armed : n.reconnection.armed = true) :
    Relaunches 1 n { n with reconnection := { n.reconnection with armed := false } } := by
  intro untold
  refine ⟨untold, ?_⟩
  simp only [due, armed]
  simp
  omega

/-- A step takes a relaunch from those that are due, or makes none. -/
theorem nodeStep_relaunches (n : ConnectNode) (input : NodeInput) :
    Relaunches (stepRelaunches n input) n (nodeStep n input) := by
  obtain ⟨op, e⟩ := input
  have env (m : ConnectNode) (h : Relaunches 0 (n.withEnv e) m) : Relaunches 0 n m :=
    h.from rfl le_rfl
  cases op with
  | start => exact env _ (start_relaunches e _)
  | sendAudio frame => exact env _ (addAudioDataBuffer_course e _ frame).moves.relaunches
  | keepAudio frame => exact .of_due rfl le_rfl
  | cmdNotify type message => exact env _ (cmdNotify_relaunches e _ type message)
  | syncPingCmd => exact env _ (syncPingCmd_quiet e _).aside.relaunches
  | launchEvent =>
    refine env _ ?_
    simp only [nodeStep, NodeOp.step]
    split
    · exact launchEventCallback_relaunches.from rfl le_rfl
    · exact .of_due rfl le_rfl
  | reconnectEvent =>
    by_cases armed : n.reconnection.armed = true
    · have once : stepRelaunches n { op := .reconnectEvent, env := e } = 1 := if_pos ⟨rfl, armed⟩
      have launched : nodeStep n { op := .reconnectEvent, env := e } =
          launchEventCallback e { n.withEnv e with
            reconnection := { n.reconnection with armed := false } } := if_pos armed
      have disarmed := disarm_relaunches (n := n.withEnv e) armed
      rw [once, launched]
      exact (disarmed.trans launchEventCallback_relaunches).from rfl le_rfl
    · have none : stepRelaunches n { op := .reconnectEvent, env := e } = 0 :=
        if_neg fun both => armed both.2
      have stays : nodeStep n { op := .reconnectEvent, env := e } = n.withEnv e := if_neg armed
      rw [none, stays]
      exact .of_due rfl le_rfl
  | dnsEvent failed =>
    refine env _ ?_
    simp only [nodeStep, NodeOp.step]
    split
    · exact (dnsEventCallback_relaunches failed).from rfl le_rfl
    · exact .of_due rfl le_rfl
  | connectEvent timeout =>
    refine env _ ?_
    simp only [nodeStep, NodeOp.step]
    split
    · exact (connectEventCallback_relaunches timeout).from rfl le_rfl
    · exact .of_due rfl le_rfl
  | startWithPoolEvent =>
    refine env _ ?_
    simp only [nodeStep, NodeOp.step]
    split
    · exact (startWithPoolEventCallback_moves e _).relaunches.from rfl le_rfl
    · exact .of_due rfl le_rfl
  | singleRoundTextEvent =>
    refine env _ ?_
    simp only [nodeStep, NodeOp.step]
    split
    · exact (singleRoundTextEventCallback_relaunches e _).from rfl le_rfl
    · exact .of_due rfl le_rfl
  | readEvent what =>
    refine env _ ?_
    simp only [nodeStep, NodeOp.step]
    split
    · exact (readEventCallBack_moves e _ what).relaunches
    · exact .of_due rfl le_rfl
  | writeEvent what =>
    refine env _ ?_
    simp only [nodeStep, NodeOp.step]
    split
    · exact writeEventCallBack_relaunches e _ what
    · exact .of_due rfl le_rfl

end ConnectNode

open ConnectNode

/-- Up to the first TaskFailed or Close that is told, no run relaunches a request more often than it
is due, a fresh one four times. -/
theorem relaunches_bounded {n : ConnectNode} (inputs : List NodeInput)
    (untold : endsTold (nodeRun n inputs).callbacks = []) :
    n.relaunchesIn inputs + (nodeRun n inputs).due ≤ n.due :=
  (total_le (I := fun _ => True) (fun _ _ _ => trivial)
    (fun m a _ untold => nodeStep_relaunches m a untold) trivial untold).2

/-- A transcription that is launched again when its connection fails. -/
def reconnecting : ConnectNode where
  param := { mode := .typeRealTime, enableReconnect := true }

/-- Four refusals end a launch. -/
def refusals : Env where
  attempts := List.replicate 4 .failed

theorem relaunches_bounded_refused :
    reconnecting.relaunchesIn [{ op := .start }, { op := .launchEvent, env := refusals },
        { op := .reconnectEvent, env := refusals }, { op := .reconnectEvent, env := refusals }] +
      (nodeRun reconnecting [{ op := .start }, { op := .launchEvent, env := refusals },
        { op := .reconnectEvent, env := refusals },
        { op := .reconnectEvent, env := refusals }]).due ≤ 4 :=
  relaunches_bounded _ (by decide)

end NlsSdk.Transport
