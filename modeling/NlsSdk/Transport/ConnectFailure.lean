import NlsSdk.Transport.TerminalCallback

/-!
# Connections that cannot be set up

`dnsProcess` gives up with a negative result, at once or in one of the retries it
is called from. `gaveUp_told` says in which runs the user hears of it.
-/
namespace NlsSdk.Transport

open NlsSdk.Library

namespace ConnectNode

variable {e : Env} {n m : ConnectNode}

/-! ## Giving up -/

/-- The negative result of the call of `dnsProcess` that gives up, which may be one of the
retries. -/
def dnsFailure (e : Env) : List Attempt → ConnectNode → Option NlsRetCode
  | attempts, n =>
    match (dnsProcess e attempts n).2 with
    | .error code => some code
    | .ok _ =>
      if n.isLongConnection ∧ n.isConnected then none
      else match attempts with
        | .failed :: rest => dnsFailure e rest n.countConnect.backToConnecting
        | _ => none

/-- The same where a connection is set up further. -/
def continueFailure (e : Env) (n : ConnectNode) : Option NlsRetCode :=
  match e.attempts with
  | [] => none
  | attempt :: rest =>
    if n.exitStatus ≠ .exitCancel ∧ attempt ∈ [.pending, .connected, .handshaking] then none
    else dnsFailure e rest n.backToConnecting

def launchFailure (e : Env) (n : ConnectNode) : Option NlsRetCode :=
  if !n.registered ∨ n.exitStatus = .exitCancel ∨ n.exitStatus = .exitStopping then none
  else dnsFailure e e.attempts
    { n with listed := true, workStatus := .nodeInvoked }.updateParameters

def connectEventFailure (e : Env) (n : ConnectNode) (timeout : Bool) : Option NlsRetCode :=
  if timeout then dnsFailure e e.attempts n.backToConnecting
  else if n.workStatus = .nodeConnecting ∨ n.workStatus = .nodeConnected then continueFailure e n
  else none

def dnsEventFailure (e : Env) (n : ConnectNode) (failed : Bool) : Option NlsRetCode :=
  if !n.registered then none
  else if failed then dnsFailure e e.attempts { n with workStatus := .nodeConnecting }
  else continueFailure e n

/-- The negative result with which `dnsProcess` gives up in a step. -/
def stepFailure (n : ConnectNode) (input : NodeInput) : Option NlsRetCode :=
  let n := n.withEnv input.env
  match input.op with
  | .launchEvent =>
    if n.launchEvent then launchFailure input.env { n with launchEvent := false } else none
  | .reconnectEvent =>
    if n.reconnection.armed then
      launchFailure input.env
        { n with reconnection := { n.reconnection with armed := false } }
    else none
  | .dnsEvent failed =>
    if n.dnsRequest then dnsEventFailure input.env { n with dnsRequest := false } failed else none
  | .connectEvent timeout =>
    if n.connectEvent then connectEventFailure input.env { n with connectEvent := false } timeout
    else none
  | _ => none

/-- `dnsProcess` gives up in the step, and not because the node was cancelled. -/
def GivesUp (n : ConnectNode) (input : NodeInput) : Prop :=
  ∃ code, stepFailure n input = some code ∧ code ≠ .invalidExitStatus

instance (n : ConnectNode) (input : NodeInput) : Decidable (GivesUp n input) :=
  decidable_of_iff (∃ code ∈ stepFailure n input, code ≠ .invalidExitStatus) (by
    simp [GivesUp])

/-! ## What is told -/

/-- The events told that end a session. -/
def endsTold (callbacks : List Callback) : List EventType :=
  (callbacks.map (·.event.msgType)).filter endsSession

/-- No relaunch keeps an end from the user any more. -/
def Spent (n : ConnectNode) : Prop :=
  n.param.enableReconnect = true → maxTryCount ≤ n.reconnection.reconnectedCount ∧
    (n.reconnection.state = .willReconnect ∨ n.reconnection.state = .triggerReconnection →
      maxTryCount < n.reconnection.reconnectedCount)

instance (n : ConnectNode) : Decidable n.Spent := inferInstanceAs (Decidable (_ → _))

/-- The node can tell an end of its session: it is registered with a request and a listener, and
no relaunch is due. -/
structure Audible (n : ConnectNode) : Prop where
  registered : n.registered = true
  request : n.request = true
  handler : n.handler = true
  spent : n.Spent

instance (n : ConnectNode) : Decidable n.Audible :=
  decidable_of_iff (n.registered = true ∧ n.request = true ∧ n.handler = true ∧ n.Spent)
    ⟨fun ⟨a, b, c, d⟩ => ⟨a, b, c, d⟩, fun ⟨a, b, c, d⟩ => ⟨a, b, c, d⟩⟩

/-- The URL can be parsed, and its host looked up. -/
def Resolvable (e : Env) : Prop :=
  Attempt.parseUrlFailed ∉ e.attempts ∧ Attempt.invalidDnsSource ∉ e.attempts

instance (e : Env) : Decidable (Resolvable e) := inferInstanceAs (Decidable (_ ∧ _))

/-- A step that gives up does so with an audible node of a session that has not ended, and not
for its URL; and nothing happens to a session whose end was told. -/
def EndsAloud (n : ConnectNode) (input : NodeInput) : Prop :=
  (endsTold n.callbacks ≠ [] → EndsOnce n input) ∧
    (GivesUp n input → n.Audible ∧ Resolvable input.env ∧ endsTold n.callbacks = [])

instance (n : ConnectNode) (input : NodeInput) : Decidable (EndsAloud n input) :=
  inferInstanceAs (Decidable ((_ → _) ∧ (_ → _)))

/-! ## TaskFailed and Close -/

lemma ignoreCallback_spent (spent : n.Spent) (type : EventType) (code : ℤ) :
    (n.ignoreCallbackWhenReconnecting e type code).2 = false ∧
      (n.ignoreCallbackWhenReconnecting e type code).1.Spent := by
  unfold ignoreCallbackWhenReconnecting
  by_cases enabled : n.request = true ∧ n.param.enableReconnect = true
  · obtain ⟨many, more⟩ := spent enabled.2
    rw [if_pos enabled]
    have noted : (n.noteInterruption e type code).Spent ∧
        ((n.noteInterruption e type code).reconnection.state = .willReconnect ∨
          (n.noteInterruption e type code).reconnection.state = .triggerReconnection →
            maxTryCount < (n.noteInterruption e type code).reconnection.reconnectedCount) := by
      unfold noteInterruption
      split_ifs
      · refine ⟨fun _ => ⟨?_, fun _ => ?_⟩, fun _ => ?_⟩
        all_goals
          dsimp only
          omega
      · exact ⟨spent, more⟩
    obtain ⟨kept, beyond⟩ := noted
    dsimp only
    split_ifs with relaunch limit
    · exact absurd limit (by have := beyond relaunch.1; omega)
    · refine ⟨rfl, fun set => ⟨(kept set).1, ?_⟩⟩
      rintro (state | state) <;> cases state
    · exact ⟨rfl, kept⟩
  · rw [if_neg enabled]
    exact ⟨rfl, spent⟩

lemma afterCallback_spent (spent : n.Spent) (type : EventType) (other : type ≠ .close)
    (ignored : Bool) : (n.afterCallback e type ignored).Spent := by
  unfold afterCallback
  rw [if_neg other]
  split
  · exact spent
  · exact spent

/-- A node that is heard: what handing an event over leaves alone. -/
structure Heard (n : ConnectNode) : Prop where
  request : n.request = true
  handler : n.handler = true
  running : n.workStatus ≠ .nodeClosed ∧ n.workStatus ≠ .nodeInvalid
  exitStatus : n.exitStatus ≠ .exitCancel

lemma Heard.calledBack (heard : n.Heard) (told : CalledBack n m) : m.Heard := by
  obtain ⟨r, rfl⟩ := told
  exact ⟨heard.request, heard.handler, heard.running, heard.exitStatus⟩

lemma handlerFrame_told (heard : n.Heard) (spent : n.Spent) (event : NlsEvent) :
    (∃ c : Callback, c.event = event ∧
      (n.handlerFrame e event).1.callbacks = n.callbacks ++ [c]) ∧
      (event.msgType ≠ .close → (n.handlerFrame e event).1.Spent) := by
  have offset : (n.updateTwIndexOffset event).Spent := by
    unfold updateTwIndexOffset
    split
    · exact spent
    · exact spent
  obtain ⟨open_, spent'⟩ := ignoreCallback_spent (e := e) offset event.msgType event.statusCode
  have before : ((n.updateTwIndexOffset event).ignoreCallbackWhenReconnecting e event.msgType
      event.statusCode).1.callbacks = n.callbacks := by
    rw [ignoreCallback_callbacks]
    unfold updateTwIndexOffset
    split
    · rfl
    · rfl
  have heard' := heard.calledBack ((updateTwIndexOffset_calledBack n event).trans
    (ignoreCallbackWhenReconnecting_calledBack e _ event.msgType event.statusCode))
  unfold handlerFrame
  rw [if_neg heard.running.2, if_neg (by simp [heard.handler])]
  generalize (n.updateTwIndexOffset event).ignoreCallbackWhenReconnecting e event.msgType
    event.statusCode = told at open_ spent' before heard'
  obtain ⟨m, ignored⟩ := told
  dsimp only at open_ spent' before heard' ⊢
  subst open_
  have late : ignoreCallbackWhenNodeClosedWhenLongConnection
      { m with hidden := false || m.hidden } event.msgType = false := by
    simp [ignoreCallbackWhenNodeClosedWhenLongConnection, heard'.running.1]
  rw [late, Bool.or_self, if_neg (by simp)]
  constructor
  · refine ⟨{ event := event, asMessage := m.enableOnMessage }, rfl, ?_⟩
    rw [afterCallback_callbacks]
    exact congrArg (· ++ [_]) before
  · intro other
    have called : (callback { m with hidden := false || m.hidden } event).Spent := spent'
    exact afterCallback_spent called _ other _

/-- An event of the node's own is told if nothing keeps it from the user. -/
lemma handlerEvent_told (heard : n.Heard) (spent : n.Spent) (msg : Bytes) (code : ℤ)
    (type : EventType) : ∃ c : Callback, c.event.msgType = type ∧
      (n.handlerEvent e msg code type).callbacks = n.callbacks ++ [c] ∧
      (type = .close → (n.handlerEvent e msg code type).workStatus = .nodeClosed) ∧
      (type ≠ .close → (n.handlerEvent e msg code type).Heard ∧
        (n.handlerEvent e msg code type).Spent) := by
  have noted : (n.noteErrorCode code).Heard ∧ (n.noteErrorCode code).Spent ∧
      (n.noteErrorCode code).callbacks = n.callbacks := by
    unfold noteErrorCode
    split
    · exact ⟨heard, spent, rfl⟩
    · exact ⟨⟨heard.request, heard.handler, heard.running, heard.exitStatus⟩, spent, rfl⟩
  obtain ⟨heard', spent', same⟩ := noted
  unfold handlerEvent
  rw [if_neg (by simp [heard.exitStatus, heard.request])]
  generalize n.noteErrorCode code = m at heard' spent' same ⊢
  obtain ⟨⟨c, is, told⟩, still⟩ := handlerFrame_told (e := e) heard' spent'
    (n.ownEvent e msg code type)
  have named : (n.ownEvent e msg code type).msgType = type := rfl
  unfold report
  rw [if_neg (by simp [heard'.handler, heard'.running.1])]
  refine ⟨c, by rw [is, named], ?_, ?_, ?_⟩
  · dsimp only
    split
    · exact told.trans (by rw [same])
    · exact told.trans (by rw [same])
  · intro close
    rw [named, if_pos close]
    rfl
  · intro other
    rw [named, if_neg other]
    exact ⟨heard'.calledBack (handlerFrame_calledBack e m _), still (by rw [named]; exact other)⟩

lemma handlerTaskFailedEvent_told (heard : n.Heard) (spent : n.Spent) (info : Bytes) (code : ℤ) :
    (n.handlerTaskFailedEvent e info code).workStatus = .nodeClosed ∧
      ∃ failed closed : Callback, failed.event.msgType = .taskFailed ∧
        closed.event.msgType = .close ∧
        (n.handlerTaskFailedEvent e info code).callbacks = n.callbacks ++ [failed, closed] := by
  unfold handlerTaskFailedEvent handlerClose
  dsimp only
  obtain ⟨failed, isFailed, toldFailed, -, still⟩ := handlerEvent_told (e := e) heard spent
    (if info = [] then unknownFailedString else taskFailedText 1024 info)
    (if info = [] then NlsErrorCode.defaultErrorCode
      else if code = NlsErrorCode.defaultErrorCode then getErrorCodeFromMsg e info
      else code) .taskFailed
  obtain ⟨heard', spent'⟩ := still (by simp)
  obtain ⟨closed, isClosed, toldClosed, shut, -⟩ := handlerEvent_told (e := e) heard' spent'
    (genCloseMsg _) NlsErrorCode.closeCode .close
  refine ⟨shut rfl, failed, closed, isFailed, isClosed, ?_⟩
  rw [toldClosed, toldFailed, List.append_assoc]
  rfl

/-! ## The call that gives up -/

/-- What was told so far, and what decides about the next event, is the same. -/
structure HeardAlike (n m : ConnectNode) : Prop where
  callbacks : m.callbacks = n.callbacks
  hidden : m.hidden = n.hidden
  registered : m.registered = n.registered
  request : m.request = n.request
  handler : m.handler = n.handler
  enableReconnect : m.param.enableReconnect = n.param.enableReconnect
  state : m.reconnection.state = n.reconnection.state
  reconnectedCount : m.reconnection.reconnectedCount = n.reconnection.reconnectedCount

lemma HeardAlike.refl (n : ConnectNode) : HeardAlike n n := ⟨rfl, rfl, rfl, rfl, rfl, rfl, rfl, rfl⟩

lemma HeardAlike.trans {k : ConnectNode} (first : HeardAlike n m) (second : HeardAlike m k) :
    HeardAlike n k where
  callbacks := second.callbacks.trans first.callbacks
  hidden := second.hidden.trans first.hidden
  registered := second.registered.trans first.registered
  request := second.request.trans first.request
  handler := second.handler.trans first.handler
  enableReconnect := second.enableReconnect.trans first.enableReconnect
  state := second.state.trans first.state
  reconnectedCount := second.reconnectedCount.trans first.reconnectedCount

lemma HeardAlike.audible (alike : HeardAlike n m) (audible : n.Audible) : m.Audible where
  registered := alike.registered.trans audible.registered
  request := alike.request.trans audible.request
  handler := alike.handler.trans audible.handler
  spent := by
    unfold Spent
    rw [alike.enableReconnect, alike.state, alike.reconnectedCount]
    exact audible.spent

lemma backToConnecting_alike (n : ConnectNode) : HeardAlike n n.backToConnecting :=
  ⟨rfl, rfl, rfl, rfl, rfl, rfl, rfl, rfl⟩

/-- The step from `n` to `k` ends with a call of `dnsProcess` that gives up with `code`, for a node
that is heard as `n` is. -/
structure Fails (e : Env) (code : NlsRetCode) (attempts : List Attempt) (n k : ConnectNode) :
    Prop where
  call : ∃ m rest, HeardAlike n m ∧ (m.workStatus ≠ .nodeClosed ∧ m.workStatus ≠ .nodeInvalid) ∧
    rest <:+ attempts ∧ (dnsProcess e rest m).2 = .error code ∧ k = orDestroy (dnsProcess e rest m)

section Fails

variable {code : NlsRetCode}

lemma Fails.of_alike {attempts rest : List Attempt} {k : ConnectNode}
    (fails : Fails e code rest m k) (alike : HeardAlike n m) (part : rest <:+ attempts) :
    Fails e code attempts n k := by
  obtain ⟨l, last, further, running, part', failed, is⟩ := fails.call
  exact ⟨l, last, alike.trans further, running, part'.trans part, failed, is⟩

/-- An attempt that fails is made again with the ones left. -/
lemma dnsProcess_retry {rest : List Attempt} {k : ℕ}
    (passed : (dnsProcess e (.failed :: rest) n).2 = .ok k)
    (short : ¬(n.isLongConnection = true ∧ n.isConnected = true)) :
    dnsProcess e (.failed :: rest) n =
      (orDestroy (dnsProcess e rest n.countConnect.backToConnecting), .ok 0) := by
  revert passed
  rw [dnsProcess]
  split
  · intro passed
    cases passed
  rename_i exit
  split
  · intro passed
    cases passed
  split
  · intro passed
    cases passed
  · intro _
    have exit' : n.countConnect.exitStatus ≠ .exitCancel := exit
    dsimp only
    unfold connectAttempt
    rw [if_neg exit']

lemma dnsFailure_fails {attempts : List Attempt}
    (running : n.workStatus ≠ .nodeClosed ∧ n.workStatus ≠ .nodeInvalid)
    (failure : dnsFailure e attempts n = some code) :
    Fails e code attempts n (orDestroy (dnsProcess e attempts n)) := by
  induction attempts generalizing n with
  | nil =>
    unfold dnsFailure at failure
    cases result : (dnsProcess e [] n).2 with
    | error code' =>
      rw [result] at failure
      obtain rfl := Option.some.inj failure
      exact ⟨n, [], .refl n, running, List.suffix_refl _, result, rfl⟩
    | ok k =>
      rw [result] at failure
      dsimp only at failure
      split at failure <;> cases failure
  | cons attempt rest ih =>
    unfold dnsFailure at failure
    cases result : (dnsProcess e (attempt :: rest) n).2 with
    | error code' =>
      rw [result] at failure
      obtain rfl := Option.some.inj failure
      exact ⟨n, attempt :: rest, .refl n, running, List.suffix_refl _, result, rfl⟩
    | ok k =>
      rw [result] at failure
      dsimp only at failure
      split_ifs at failure with long
      cases attempt with
      | failed =>
        rw [dnsProcess_retry result long]
        have again : HeardAlike n n.countConnect.backToConnecting :=
          ⟨rfl, rfl, rfl, rfl, rfl, rfl, rfl, rfl⟩
        have connecting : n.countConnect.backToConnecting.workStatus = .nodeConnecting := rfl
        exact (ih (by simp [connecting]) failure).of_alike again (List.suffix_cons _ _)
      | parseUrlFailed => cases failure
      | invalidDnsSource => cases failure
      | pending => cases failure
      | connected => cases failure
      | handshaking => cases failure

lemma launchFailure_fails (failure : launchFailure e n = some code) :
    Fails e code e.attempts n (n.launchEventCallback e) := by
  unfold launchFailure at failure
  unfold launchEventCallback
  split_ifs at failure with skipped
  rw [not_or, not_or] at skipped
  rw [if_neg skipped.1, if_neg (by simp [skipped.2.1, skipped.2.2])]
  have invoked : HeardAlike n ({ n with listed := true, workStatus := .nodeInvoked } :
      ConnectNode).updateParameters :=
    ⟨rfl, rfl, rfl, rfl, rfl, rfl, rfl, rfl⟩
  have fails := dnsFailure_fails ⟨by simp [updateParameters], by simp [updateParameters]⟩ failure
  exact fails.of_alike invoked (List.suffix_refl _)

lemma backToConnecting_fails {attempts : List Attempt}
    (failure : dnsFailure e attempts n.backToConnecting = some code) :
    Fails e code attempts n (orDestroy (dnsProcess e attempts n.backToConnecting)) := by
  have fails := dnsFailure_fails ⟨by simp [backToConnecting], by simp [backToConnecting]⟩ failure
  exact fails.of_alike (backToConnecting_alike n) (List.suffix_refl _)

lemma continueFailure_fails (connect : ConnectNode → SocketState → ConnectNode)
    (failure : continueFailure e n = some code) :
    Fails e code e.attempts n (n.continueConnect e connect) := by
  unfold continueFailure at failure
  unfold continueConnect connectAttempt
  cases attempts : e.attempts with
  | nil =>
    rw [attempts] at failure
    cases failure
  | cons attempt rest =>
    rw [attempts] at failure
    dsimp only at failure ⊢
    split_ifs at failure with goes
    have again : Fails e code (attempt :: rest) n
        (orDestroy (dnsProcess e rest n.backToConnecting)) :=
      (backToConnecting_fails failure).of_alike (.refl n) (List.suffix_cons _ _)
    by_cases exit : n.exitStatus = .exitCancel
    · rw [if_pos exit]
      exact again
    · rw [if_neg exit]
      cases attempt with
      | parseUrlFailed => exact again
      | invalidDnsSource => exact again
      | failed => exact again
      | pending => exact absurd ⟨exit, by simp⟩ goes
      | connected => exact absurd ⟨exit, by simp⟩ goes
      | handshaking => exact absurd ⟨exit, by simp⟩ goes

lemma connectEventFailure_fails {timeout : Bool}
    (failure : connectEventFailure e n timeout = some code) :
    Fails e code e.attempts n (n.connectEventCallback e timeout) := by
  unfold connectEventFailure at failure
  unfold connectEventCallback
  split_ifs at failure with late stage
  · rw [if_pos late]
    exact backToConnecting_fails failure
  · rw [if_neg late, if_pos stage]
    by_cases empty : e.attempts = []
    · rw [continueFailure, empty] at failure
      cases failure
    · rw [if_neg empty]
      exact continueFailure_fails _ failure

lemma dnsEventFailure_fails {failed : Bool} (failure : dnsEventFailure e n failed = some code) :
    Fails e code e.attempts n (n.dnsEventCallback e failed) := by
  unfold dnsEventFailure at failure
  unfold dnsEventCallback
  split_ifs at failure with gone answer
  · rw [if_neg gone, if_pos answer]
    have connecting : HeardAlike n { n with workStatus := .nodeConnecting } :=
      ⟨rfl, rfl, rfl, rfl, rfl, rfl, rfl, rfl⟩
    have fails := dnsFailure_fails ⟨by simp, by simp⟩ failure
    exact fails.of_alike connecting (List.suffix_refl _)
  · rw [if_neg gone, if_neg answer]
    exact continueFailure_fails _ failure

/-- In a step in which `dnsProcess` gives up, the call that does is the last thing that happens. -/
theorem stepFailure_fails {input : NodeInput} (failure : stepFailure n input = some code) :
    Fails input.env code input.env.attempts n (nodeStep n input) := by
  obtain ⟨op, e⟩ := input
  cases op with
  | launchEvent =>
    simp only [stepFailure] at failure
    simp only [nodeStep, NodeOp.step]
    split_ifs at failure ⊢
    exact (launchFailure_fails failure).of_alike ⟨rfl, rfl, rfl, rfl, rfl, rfl, rfl, rfl⟩
      (List.suffix_refl _)
  | reconnectEvent =>
    simp only [stepFailure] at failure
    simp only [nodeStep, NodeOp.step]
    split_ifs at failure ⊢
    exact (launchFailure_fails failure).of_alike ⟨rfl, rfl, rfl, rfl, rfl, rfl, rfl, rfl⟩
      (List.suffix_refl _)
  | dnsEvent failed =>
    simp only [stepFailure] at failure
    simp only [nodeStep, NodeOp.step]
    split_ifs at failure ⊢
    exact (dnsEventFailure_fails failure).of_alike ⟨rfl, rfl, rfl, rfl, rfl, rfl, rfl, rfl⟩
      (List.suffix_refl _)
  | connectEvent timeout =>
    simp only [stepFailure] at failure
    simp only [nodeStep, NodeOp.step]
    split_ifs at failure ⊢
    exact (connectEventFailure_fails failure).of_alike ⟨rfl, rfl, rfl, rfl, rfl, rfl, rfl, rfl⟩
      (List.suffix_refl _)
  | _ => cases failure

end Fails

/-! ## The step that gives up -/

/-- `m` has told the two ends of a session more than `n`, and is closed. -/
def ToldEnds (n m : ConnectNode) : Prop :=
  m.workStatus = .nodeClosed ∧ ∃ failed closed : Callback, failed.event.msgType = .taskFailed ∧
    closed.event.msgType = .close ∧ m.callbacks = n.callbacks ++ [failed, closed]

lemma destroyConnectNode_same (n : ConnectNode) :
    n.destroyConnectNode.callbacks = n.callbacks ∧
      n.destroyConnectNode.workStatus = n.workStatus := by
  unfold destroyConnectNode
  split
  · exact ⟨rfl, rfl⟩
  split <;> exact ⟨rfl, rfl⟩

lemma ToldEnds.orDestroy {result : ConnectNode × Ret} (told : ToldEnds n result.1) :
    ToldEnds n (orDestroy result) := by
  obtain ⟨callbacks, workStatus⟩ := result.1.destroyConnectNode_same
  unfold ConnectNode.orDestroy
  split
  · unfold ToldEnds
    rw [callbacks, workStatus]
    exact told
  · exact told

lemma Heard.quiet (heard : n.Heard) (work : Quiet n m) : m.Heard := by
  have request := congrArg (fun k : ConnectNode => k.request) work.unspoken
  have handler := congrArg (fun k : ConnectNode => k.handler) work.unspoken
  have same : m.workStatus = n.workStatus := work.workStatus
  refine ⟨request.trans heard.request, handler.trans heard.handler, same ▸ heard.running, ?_⟩
  rcases work.exitStatus with kept | stopping
  · rw [kept]
    exact heard.exitStatus
  · rw [stopping]
    simp

lemma Spent.quiet (spent : n.Spent) (work : Quiet n m) : m.Spent := by
  have enabled : m.param.enableReconnect = n.param.enableReconnect := by
    have kept := congrArg (fun k : ConnectNode => k.param.enableReconnect) work.unspoken
    exact kept
  have count : m.reconnection.reconnectedCount = n.reconnection.reconnectedCount := by
    have kept := congrArg (fun k : ConnectNode => k.reconnection.reconnectedCount) work.unspoken
    exact kept
  intro set
  obtain ⟨many, more⟩ := spent (enabled ▸ set)
  refine ⟨count ▸ many, ?_⟩
  rw [count]
  rcases work.state with kept | starting
  · rw [kept]
    exact more
  · rw [starting]
    rintro (state | state) <;> cases state

lemma Audible.heard (audible : n.Audible) (exit : n.exitStatus ≠ .exitCancel)
    (running : n.workStatus ≠ .nodeClosed ∧ n.workStatus ≠ .nodeInvalid) : n.Heard :=
  ⟨audible.request, audible.handler, running, exit⟩

/-- A Start that cannot be sent on a kept connection ends the session. -/
lemma longStart_told (heard : n.Heard) (spent : n.Spent) (type : CmdType) :
    ToldEnds n ((((({ n with workStatus := .nodeStarting } : ConnectNode).addCmdDataBuffer e type
      []).nlsSendFrame e .cmd false).1.handlerTaskFailedEvent e
        (((({ n with workStatus := .nodeStarting } : ConnectNode).addCmdDataBuffer e type
          []).nlsSendFrame e .cmd false).1.nodeErrMsg)
        NlsErrorCode.defaultErrorCode).closeConnectNode) := by
  have starting : Heard { n with workStatus := .nodeStarting } :=
    ⟨heard.request, heard.handler, ⟨by simp, by simp⟩, heard.exitStatus⟩
  have spent' : Spent { n with workStatus := .nodeStarting } := spent
  have work := addCmd_send_quiet e { n with workStatus := .nodeStarting } type []
  obtain ⟨closed, failed, close, isFailed, isClose, told⟩ := handlerTaskFailedEvent_told (e := e)
    (starting.quiet work) (spent'.quiet work) _ _
  have same := work.callbacks
  refine ⟨closed, failed, close, isFailed, isClose, ?_⟩
  exact told.trans (by rw [same])

/-- A call that fails itself tells the ends of the session unless it fails for the URL. -/
lemma dnsProcess_told_direct {attempts : List Attempt} {code : NlsRetCode}
    (failed : (dnsProcess e attempts n).2 = .error code) (other : code ≠ .invalidExitStatus)
    (audible : n.Audible) (running : n.workStatus ≠ .nodeClosed ∧ n.workStatus ≠ .nodeInvalid)
    (url : Attempt.parseUrlFailed ∉ attempts) (host : Attempt.invalidDnsSource ∉ attempts) :
    ToldEnds n (dnsProcess e attempts n).1 := by
  revert failed
  have heard (exit : n.exitStatus ≠ .exitCancel) := audible.heard exit running
  unfold dnsProcess
  split
  · intro failed
    cases failed
    exact absurd rfl other
  rename_i exit
  split
  · rename_i gone
    simp [audible.registered] at gone
  split
  · dsimp only
    split
    · intro _
      exact longStart_told (heard exit) audible.spent _
    · intro failed
      cases failed
  split
  · intro _
    obtain ⟨request, handler, running, exit⟩ := heard exit
    have heard' : Heard { n with retryConnectCount := 0 } := ⟨request, handler, running, exit⟩
    have spent' : Spent { n with retryConnectCount := 0 } := audible.spent
    exact handlerTaskFailedEvent_told heard' spent' _ _
  · dsimp only
    split
    · intro failed
      cases failed
    · exact absurd List.mem_cons_self url
    · exact absurd List.mem_cons_self host
    · intro failed
      cases failed

/-- A step that gives up with an audible node tells the ends of its session. -/
lemma nodeStep_told {input : NodeInput} (gives : GivesUp n input) (audible : n.Audible)
    (resolvable : Resolvable input.env) : ToldEnds n (nodeStep n input) := by
  obtain ⟨code, failure, other⟩ := gives
  obtain ⟨m, rest, alike, running, part, failed, is⟩ := (stepFailure_fails failure).call
  have told := dnsProcess_told_direct failed other (alike.audible audible) running
    (fun tried => resolvable.1 (part.subset tried)) (fun tried => resolvable.2 (part.subset tried))
  obtain ⟨closed, ends⟩ := told.orDestroy
  rw [is]
  exact ⟨closed, alike.callbacks ▸ ends⟩

/-! ## Behind the end of a session -/

/-- The session has ended, and this is what was told in it. -/
def Ended (callbacks : List Callback) (n : ConnectNode) : Prop :=
  n.workStatus = .nodeClosed ∧ n.callbacks = callbacks

variable {told : List Callback}

lemma Ended.of_eq (ended : Ended told n) (callbacks : m.callbacks = n.callbacks)
    (workStatus : m.workStatus = n.workStatus) : Ended told m :=
  ⟨workStatus.trans ended.1, callbacks.trans ended.2⟩

lemma Ended.quiet (ended : Ended told n) (work : Quiet n m) : Ended told m :=
  ended.of_eq work.callbacks work.workStatus

lemma Ended.shut (ended : Ended told n) (shut : Shut n m) : Ended told m :=
  ended.of_eq shut.callbacks shut.workStatus

lemma handlerEvent_ended (ended : Ended told n) (msg : Bytes) (code : ℤ) (type : EventType) :
    Ended told (n.handlerEvent e msg code type) := by
  have noted : Ended told (n.noteErrorCode code) := by
    unfold noteErrorCode
    split
    · exact ended
    · exact ended.of_eq rfl rfl
  unfold handlerEvent report
  split
  · exact ended
  · rw [if_pos (.inr noted.1)]
    exact noted

lemma handlerClose_ended (ended : Ended told n) : Ended told (n.handlerClose e) :=
  handlerEvent_ended ended _ _ _

lemma handlerTaskFailedEvent_ended (ended : Ended told n) (info : Bytes) (code : ℤ) :
    Ended told (n.handlerTaskFailedEvent e info code) := by
  unfold handlerTaskFailedEvent
  exact handlerClose_ended (handlerEvent_ended ended _ _ _)

lemma Ended.course (ended : Ended told n) (course : Course e n m) : Ended told m := by
  induction course with
  | refl => exact ended
  | quiet _ work ih => exact ih.quiet work
  | fails _ info code before after ih =>
    exact (handlerTaskFailedEvent_ended (ih.shut before) info code).shut after

lemma parseFrame_ended (ended : Ended told n) {buffer : Bytes} {wsFrame : WebSocketFrame}
    (once : FrameEndsOnce e n buffer wsFrame) : Ended told (n.parseFrame e buffer wsFrame).1 := by
  have converted : Ended told (n.convertResult e buffer wsFrame).1 := by
    simp only [convertResult, convertText]
    repeat' split
    all_goals first | exact ended | exact handlerEvent_ended ended _ _ _
  simp only [parseFrame]
  split
  case isTrue => exact ended
  case isFalse request =>
    split
    case h_1 =>
      split
      · exact absurd ended.1 ‹_›
      · exact ended.of_eq rfl rfl
    case h_2 => exact ended
    case h_3 noClose noPong =>
      split
      case h_1 event made =>
        rw [convertResult_ok made]
        rcases once with close | pong | exit | once
        · exact absurd close noClose
        · exact absurd pong noPong
        · have same : (n.handleEvent e event).1 = n := by simp [handleEvent, exit]
          rw [same]
          exact ended
        · rw [made] at once
          obtain ⟨-, running | ⟨long, failed⟩⟩ := once
          · exact absurd ended.1 running
          · obtain ⟨callbacks, status⟩ :=
              handleEvent_late_same (e := e) (by simpa using request) long ended.1 failed
            exact ended.of_eq callbacks status
      case h_2 => exact converted
      case h_3 => exact converted
      case h_4 =>
        exact handlerClose_ended (converted.of_eq rfl rfl)

lemma webSocketResponse_ended (ended : Ended told n) (once : FramesEndOnce e n) :
    Ended told (n.webSocketResponse e).1 := by
  have read : Ended told (n.reader.webSocketResponse (deliverFrame e)
      (fun n => n.channel.isOpen) n).2.1 := by
    apply Reader.webSocketResponse_hands (K := Ended told) _ once ended
    intro m buffer frame kept ends
    have parsed := parseFrame_ended kept ends
    simp only [deliverFrame]
    split
    · exact kept
    split <;> exact parsed
  simp only [webSocketResponse]
  split
  · exact ended
  · simp only [withReader]
    split
    · exact read.of_eq rfl rfl
    · exact read.of_eq rfl rfl

lemma responseRead_ended (ended : Ended told n) (once : n.ReadsFrames → FramesEndOnce e n) :
    Ended told (n.responseRead e).1 := by
  unfold responseRead
  rw [ended.1]
  dsimp only
  split
  · apply webSocketResponse_ended ended
    exact once (.inr ⟨‹_›, by simp [ended.1]⟩)
  · exact ended

lemma readEventCallBack_ended (ended : Ended told n) {what : EventKind}
    (once : what = .ready → n.ReadsFrames → FramesEndOnce e n) :
    Ended told (n.readEventCallBack e what) := by
  unfold readEventCallBack
  split
  · exact ended
  split
  · exact ended.shut .close
  cases what with
  | ready =>
    have read := responseRead_ended ended (once rfl)
    have response : Ended told (n.nodeResponseProcess e).1 := by
      unfold nodeResponseProcess
      split
      · exact ended
      split
      · exact ended
      dsimp only
      split
      · exact read
      · exact read
      · exact read
      · exact read
      · rw [if_pos read.1]
        exact read
    dsimp only
    split
    · exact response.shut .close
    · exact response
  | timeout => exact ended.course (failEvent_course e n _ _)
  | unknown => exact ended.course (failEvent_course e n _ _)

lemma writeEventCallBack_ended (ended : Ended told n) (what : EventKind) :
    Ended told (n.writeEventCallBack e what) := by
  have request : Ended told (n.nodeRequestProcess e).1 := by
    have sent : n.requestSend e = (n, .error .invalidWorkStatus) := by
      unfold requestSend
      rw [ended.1]
    unfold nodeRequestProcess
    rw [sent]
    split
    · exact ended
    · exact (handlerTaskFailedEvent_ended ended _ _).shut .close
  have destroyed (m : ConnectNode) (kept : Ended told m) :
      Ended told (if m.workStatus = .nodeInvalid then m.destroyConnectNode else m) := by
    rw [if_neg (by simp [kept.1])]
    exact kept
  unfold writeEventCallBack
  split
  · exact ended
  split
  · exact ended.shut .close
  cases what with
  | ready => exact destroyed _ request
  | timeout => exact destroyed _ (ended.course (failEvent_course e n _ _))
  | unknown => exact destroyed _ (ended.course (failEvent_course e n _ _))

lemma cmdNotify_ended (ended : Ended told n) (type : CmdType) (message : Bytes) :
    Ended told (n.cmdNotify e type message).1 := by
  by_cases cancel : type = .cmdCancel
  · subst cancel
    exact ended.of_eq rfl rfl
  · exact ended.course (cmdNotify_course e n cancel message)

lemma singleRoundTextEventCallback_ended (ended : Ended told n) :
    Ended told (n.singleRoundTextEventCallback e) := by
  have sent := cmdNotify_ended (e := e) ended .cmdSendText n.param.singleRoundText
  have stopped := cmdNotify_ended (e := e) sent .cmdStop []
  simp only [singleRoundTextEventCallback]
  split
  · exact ended
  split
  · exact ended
  · exact stopped.of_eq rfl rfl

/-- Nothing is told behind the end, and the session stays ended. -/
lemma nodeStep_ended (n : ConnectNode) (input : NodeInput) (ended : Ended told n)
    (once : EndsOnce n input) : Ended told (nodeStep n input) := by
  obtain ⟨op, e⟩ := input
  have given : Ended told (n.withEnv e) := ended.of_eq rfl rfl
  cases op with
  | start => exact absurd ended.1 once
  | sendAudio frame => exact given.course (addAudioDataBuffer_course e _ frame)
  | keepAudio frame => exact given.of_eq rfl rfl
  | cmdNotify type message => exact cmdNotify_ended given type message
  | syncPingCmd => exact given.quiet (syncPingCmd_quiet e _)
  | launchEvent =>
    simp only [nodeStep, NodeOp.step]
    split
    · exact absurd ended.1 (once ‹_›)
    · exact given
  | reconnectEvent =>
    simp only [nodeStep, NodeOp.step]
    split
    · exact absurd ended.1 (once ‹_›)
    · exact given
  | dnsEvent failed =>
    simp only [nodeStep, NodeOp.step]
    split
    · exact absurd ended.1 (once ‹_›)
    · exact given
  | connectEvent timeout =>
    simp only [nodeStep, NodeOp.step]
    split
    · exact absurd ended.1 (once ‹_›)
    · exact given
  | startWithPoolEvent =>
    simp only [nodeStep, NodeOp.step]
    split
    · exact absurd ended.1 (once ‹_›)
    · exact given
  | singleRoundTextEvent =>
    simp only [nodeStep, NodeOp.step]
    split
    · apply singleRoundTextEventCallback_ended
      exact given.of_eq rfl rfl
    · exact given
  | readEvent what =>
    simp only [nodeStep, NodeOp.step]
    split
    · refine readEventCallBack_ended given fun ready frames => ?_
      subst ready
      exact once ‹_› frames
    · exact given
  | writeEvent what =>
    simp only [nodeStep, NodeOp.step]
    split
    · exact writeEventCallBack_ended given what
    · exact given

end ConnectNode

/-! ## Runs -/

open ConnectNode

/-- In a run whose steps meet the condition, once `dnsProcess` has given up the user has been told
one TaskFailed and one Close behind it, and no other end of the session. -/
theorem gaveUp_told {n : ConnectNode} {inputs : List NodeInput}
    (along : Along nodeStep EndsAloud n inputs) {before : List NodeInput} {input : NodeInput}
    (part : before ++ [input] <+: inputs) (gives : GivesUp (nodeRun n before) input) :
    endsTold (nodeRun n inputs).callbacks = [.taskFailed, .close] := by
  obtain ⟨after, rfl⟩ := part
  rw [List.append_assoc, along_append] at along
  obtain ⟨-, ⟨-, aloud⟩, rest⟩ := along
  obtain ⟨audible, resolvable, silent⟩ := aloud gives
  obtain ⟨closed, failed, close, isFailed, isClose, told⟩ := nodeStep_told gives audible resolvable
  have ends : endsTold (nodeStep (nodeRun n before) input).callbacks = [.taskFailed, .close] := by
    rw [told, endsTold, List.map_append, List.filter_append]
    refine (congrArg (· ++ _) silent).trans ?_
    simp [isFailed, isClose, endsSession]
  have keep : ∀ m a, Ended (nodeStep (nodeRun n before) input).callbacks m → EndsAloud m a →
      Ended (nodeStep (nodeRun n before) input).callbacks (nodeStep m a) := by
    intro m a ended aloud
    refine nodeStep_ended m a ended (aloud.1 ?_)
    rw [ended.2, ends]
    simp
  have same := (invariant_along keep ⟨closed, rfl⟩ rest).2
  rw [nodeRun, List.append_assoc, run_append]
  exact (congrArg endsTold same).trans ends

/-- A transcription whose attempts to connect have these outcomes. -/
def launched (attempts : List Attempt) : List NodeInput :=
  [{ op := .start }, { op := .launchEvent, env := { attempts := attempts } }]

/-- The attempts are used up: the user is told. -/
theorem gaveUp_told_attempts :
    endsTold (nodeRun transcription (launched (List.replicate 4 .failed))).callbacks =
      [.taskFailed, .close] :=
  gaveUp_told (n := transcription) (by decide) (List.prefix_refl _)
    (show GivesUp (nodeRun transcription [{ op := .start }]) _ by decide)

/-- For a URL that cannot be parsed the session is given up without a word. -/
theorem url_given_up_silently :
    GivesUp (nodeRun transcription [{ op := .start }])
        { op := .launchEvent, env := { attempts := [.parseUrlFailed] } } ∧
      (nodeRun transcription (launched [.parseUrlFailed])).callbacks = [] ∧
      (nodeRun transcription (launched [.parseUrlFailed])).isDestroy = true := by
  decide

end NlsSdk.Transport
