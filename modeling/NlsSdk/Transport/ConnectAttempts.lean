import NlsSdk.Transport.ConnectFailure

/-!
# Attempts to connect

`dnsProcess` counts the attempts of a node, and the paths that retry come back to
it. `attempts_bounded` says how many there are in a run up to the first TaskFailed
or Close.
-/
namespace NlsSdk.Transport

open NlsSdk.Library

namespace ConnectNode

variable {e : Env} {n m k : ConnectNode}

/-! ## Counting -/

/-- `dnsProcess` does not get as far as an attempt. -/
def Refuses (n : ConnectNode) : Prop :=
  n.exitStatus = .exitCancel ∨ n.registered = false ∨
    (n.isLongConnection = true ∧ n.isConnected = true) ∨ n.connectCountLeft = false

instance (n : ConnectNode) : Decidable n.Refuses := inferInstanceAs (Decidable (_ ∨ _))

/-- The attempts that `dnsProcess` makes. A name that is still looked up is none yet. -/
def dnsAttempts : List Attempt → ConnectNode → ℕ
  | attempts, n =>
    if n.Refuses then 0
    else match attempts with
      | .failed :: rest => dnsAttempts rest n.countConnect.backToConnecting + 1
      | .pending :: _ => 1
      | .connected :: _ => 1
      | .handshaking :: _ => 1
      | _ => 0

/-- The attempts of `continueConnect`, of which the first one may be one under way. -/
def continueAttempts (e : Env) (first : ℕ) (n : ConnectNode) : ℕ :=
  match e.attempts with
  | [] => 0
  | attempt :: rest =>
    if n.exitStatus = .exitCancel then 0
    else first + if attempt ∈ [.pending, .connected, .handshaking] then 0
      else dnsAttempts rest n.backToConnecting

def launchAttempts (e : Env) (n : ConnectNode) : ℕ :=
  if !n.registered ∨ n.exitStatus = .exitCancel ∨ n.exitStatus = .exitStopping then 0
  else dnsAttempts e.attempts { n with listed := true, workStatus := .nodeInvoked }.updateParameters

def connectEventAttempts (e : Env) (n : ConnectNode) (timeout : Bool) : ℕ :=
  if timeout then dnsAttempts e.attempts n.backToConnecting
  else if n.workStatus = .nodeConnecting ∨ n.workStatus = .nodeConnected then
    continueAttempts e 0 n
  else 0

def dnsEventAttempts (e : Env) (n : ConnectNode) (failed : Bool) : ℕ :=
  if !n.registered then 0
  else if failed then dnsAttempts e.attempts { n with workStatus := .nodeConnecting }
  else continueAttempts e 1 n

/-- The attempts to connect in one step. -/
def stepAttempts (n : ConnectNode) (input : NodeInput) : ℕ :=
  let n := n.withEnv input.env
  match input.op with
  | .launchEvent =>
    if n.launchEvent then launchAttempts input.env { n with launchEvent := false } else 0
  | .reconnectEvent =>
    if n.reconnection.armed then
      launchAttempts input.env { n with reconnection := { n.reconnection with armed := false } }
    else 0
  | .dnsEvent failed =>
    if n.dnsRequest then dnsEventAttempts input.env { n with dnsRequest := false } failed else 0
  | .connectEvent timeout =>
    if n.connectEvent then
      connectEventAttempts input.env { n with connectEvent := false } timeout
    else 0
  | _ => 0

/-- The attempts of a run. -/
def attemptsIn (n : ConnectNode) (inputs : List NodeInput) : ℕ :=
  total nodeStep stepAttempts n inputs

/-! ## The ends of sessions -/

/-- No TaskFailed and no Close was told or kept back. -/
structure Silent (n : ConnectNode) : Prop where
  told : endsTold n.callbacks = []
  kept : n.hidden = false

instance (n : ConnectNode) : Decidable n.Silent :=
  decidable_of_iff (endsTold n.callbacks = [] ∧ n.hidden = false)
    ⟨fun ⟨a, b⟩ => ⟨a, b⟩, fun ⟨a, b⟩ => ⟨a, b⟩⟩

/-- The attempts that are left, and one for a name that is looked up. -/
def spare (n : ConnectNode) : ℕ :=
  retryConnectCountMax - n.retryConnectCount + if n.dnsRequest then 1 else 0

/-- A node with a listener, whose request is there as long as the node is registered. -/
structure Attended (n : ConnectNode) : Prop where
  handler : n.handler = true
  request : n.registered = true → n.request = true

instance (n : ConnectNode) : Decidable n.Attended :=
  decidable_of_iff (n.handler = true ∧ (n.registered = true → n.request = true))
    ⟨fun ⟨a, b⟩ => ⟨a, b⟩, fun ⟨a, b⟩ => ⟨a, b⟩⟩

/-- What an end of the session is told from, and what attempts are counted by. -/
def standing (n : ConnectNode) : (List Callback × Bool × ℕ) × Bool × Bool × Bool × Bool :=
  ((n.callbacks, n.hidden, n.retryConnectCount), n.handler, n.request, n.registered, n.dnsRequest)

/-- What relaunches are counted by. -/
def relaunching (n : ConnectNode) : ℕ × Bool :=
  (n.reconnection.reconnectedCount, n.reconnection.armed)

/-- A change beside the events of a session; a relaunch may be over with it, or on its way. -/
structure Aside (n m : ConnectNode) : Prop where
  standing : m.standing = n.standing
  relaunching : m.relaunching = n.relaunching
  state : m.reconnection.state = n.reconnection.state ∨
    m.reconnection.state = .newReconnectionStarting ∨ m.reconnection.state = .noReconnection

lemma Aside.still (standing : m.standing = n.standing) (relaunching : m.relaunching = n.relaunching)
    (state : m.reconnection.state = n.reconnection.state) : Aside n m :=
  ⟨standing, relaunching, .inl state⟩

/-- The events of a node and other changes, one after another. -/
inductive Moves (e : Env) (n : ConnectNode) : ConnectNode → Prop
  | refl : Moves e n n
  | aside {m k : ConnectNode} (moves : Moves e n m) (change : Aside m k) : Moves e n k
  | frame {m : ConnectNode} (moves : Moves e n m) (event : NlsEvent) :
    Moves e n (m.handlerFrame e event).1
  | own {m : ConnectNode} (moves : Moves e n m) (msg : Bytes) (code : ℤ) (type : EventType) :
    Moves e n (m.handlerEvent e msg code type)

theorem Moves.trans (h : Moves e n m) (h' : Moves e m k) : Moves e n k := by
  induction h' with
  | refl => exact h
  | aside _ change ih => exact ih.aside change
  | frame _ event ih => exact ih.frame event
  | own _ msg code type ih => exact ih.own msg code type

lemma Moves.of_aside (change : Aside n m) : Moves e n m := Moves.refl.aside change

lemma Moves.close (h : Moves e n m) : Moves e n (m.handlerClose e) := h.own _ _ _

lemma Moves.taskFailed (h : Moves e n m) (info : Bytes) (code : ℤ) :
    Moves e n (m.handlerTaskFailedEvent e info code) := (h.own _ _ _).close

lemma Quiet.standing (h : Quiet n m) : m.standing = n.standing := by
  have kept := congrArg (fun k : ConnectNode => k.standing) h.unspoken
  exact kept

lemma Quiet.aside (h : Quiet n m) : Aside n m where
  standing := h.standing
  relaunching := by
    have kept := congrArg (fun k : ConnectNode => k.relaunching) h.unspoken
    exact kept
  state := h.state.imp_right Or.inl

lemma Moves.quiet (h : Moves e n m) (work : Quiet m k) : Moves e n k := h.aside work.aside

lemma Shut.aside (h : Shut n m) : Aside n m := by
  cases h with
  | still => exact .still rfl rfl rfl
  | disconnect => exact .still rfl rfl rfl
  | close => exact .still rfl rfl rfl

lemma Course.moves (h : Course e n m) : Moves e n m := by
  induction h with
  | refl => exact .refl
  | quiet _ work ih => exact ih.quiet work
  | fails _ info code before after ih =>
    exact ((ih.aside before.aside).taskFailed info code).aside after.aside

/-! ## Read and write events -/

lemma sendFakeSynthesisStarted_moves (e : Env) (n : ConnectNode) :
    Moves e n (n.sendFakeSynthesisStarted e) := by
  unfold sendFakeSynthesisStarted
  split
  · exact Moves.refl.frame _
  · exact .refl

lemma enterStarted_aside (n : ConnectNode) : Aside n n.enterStarted := by
  unfold enterStarted
  dsimp only
  split
  · exact ⟨rfl, rfl, .inr (.inr rfl)⟩
  split
  · exact ⟨rfl, rfl, .inr (.inr rfl)⟩
  · exact ⟨rfl, rfl, .inr (.inr rfl)⟩

lemma statusAfter_aside (n : ConnectNode) (type : EventType) : Aside n (n.statusAfter type) := by
  cases type with
  | recognitionStarted => exact enterStarted_aside n
  | transcriptionStarted => exact enterStarted_aside n
  | synthesisStarted => exact enterStarted_aside n
  | taskFailed =>
    simp only [statusAfter]
    split
    · exact .still rfl rfl rfl
    · exact .still rfl rfl rfl
  | binary =>
    simp only [statusAfter]
    split
    · exact .still rfl rfl rfl
    · exact .still rfl rfl rfl
  | _ => exact .still rfl rfl rfl

lemma closeSession_moves (e : Env) (n : ConnectNode) (ignore : Bool) :
    Moves e n (n.closeSession e ignore) := by
  have closing (m : ConnectNode) (change : Aside n m) : Moves e n (m.handlerClose e) :=
    (Moves.of_aside change).close
  simp only [closeSession]
  split_ifs
  · exact closing _ (.still rfl rfl rfl)
  · exact closing _ (.still rfl rfl rfl)
  · exact closing _ (.still rfl rfl rfl)
  · exact .of_aside (.still rfl rfl rfl)
  · exact closing _ (.still rfl rfl rfl)

theorem handleEvent_moves (e : Env) (n : ConnectNode) (event : NlsEvent) :
    Moves e n (n.handleEvent e event).1 := by
  have adopted : Aside n (n.adoptTaskId event) := by
    unfold adoptTaskId
    split
    · exact .still rfl rfl rfl
    · exact .still rfl rfl rfl
  have handled : Moves e n ((n.adoptTaskId event).handlerFrame e event).1 :=
    (Moves.of_aside adopted).frame event
  have moved := handled.aside (statusAfter_aside _ event.msgType)
  simp only [handleEvent]
  split
  · exact .refl
  split
  · exact handled
  · dsimp only
    split
    · exact moved.trans (closeSession_moves e _ _)
    · exact moved

lemma convertResult_moves (e : Env) (n : ConnectNode) (buffer : Bytes) (wsFrame : WebSocketFrame) :
    Moves e n (n.convertResult e buffer wsFrame).1 := by
  have text (result : Bytes) : Moves e n (n.convertText e result).1 := by
    unfold convertText
    split
    · exact Moves.refl.own _ _ _
    split
    · exact .refl
    · exact .refl
    · exact Moves.refl.own _ _ _
  simp only [convertResult]
  split
  · exact .refl
  split
  · exact .refl
  · exact text _
  · exact Moves.refl.own _ _ _

theorem deliverFrame_moves (e : Env) (n : ConnectNode) (buffer : Bytes) (wsFrame : WebSocketFrame) :
    Moves e n (n.deliverFrame e buffer wsFrame).1 := by
  have converted := convertResult_moves e n buffer wsFrame
  have parsed : Moves e n (n.parseFrame e buffer wsFrame).1 := by
    simp only [parseFrame]
    split
    · exact .refl
    split
    · split
      · exact handleEvent_moves e n _
      · exact .of_aside (.still rfl rfl rfl)
    · exact .refl
    · split
      · exact converted.trans (handleEvent_moves e _ _)
      · exact converted
      · exact converted
      · exact (converted.aside (Shut.close).aside).close
  simp only [deliverFrame]
  split
  · exact .refl
  split
  · exact parsed
  · exact parsed

lemma withReader_aside (e : Env) (n : ConnectNode) (r : Reader) (ret : Ret) :
    Aside n (n.withReader e r ret).1 := by
  simp only [withReader]
  split
  · exact .still rfl rfl rfl
  · exact .still rfl rfl rfl

theorem webSocketResponse_moves (e : Env) (n : ConnectNode) :
    Moves e n (n.webSocketResponse e).1 := by
  have read : Moves e n
      (n.reader.webSocketResponse (deliverFrame e) (fun n => n.channel.isOpen) n).2.1 :=
    Reader.webSocketResponse_keeps
      (fun m buffer frame moves => moves.trans (deliverFrame_moves e m buffer frame)) n.reader .refl
  simp only [webSocketResponse]
  split
  · exact .refl
  · exact read.aside (withReader_aside e _ _ _)

lemma gatewayResponse_aside (e : Env) (n : ConnectNode) : Aside n (n.gatewayResponse e).1 := by
  simp only [gatewayResponse]
  split
  · exact .still rfl rfl rfl
  · exact .still rfl rfl rfl
  · exact withReader_aside e n _ _

theorem responseRead_moves (e : Env) (n : ConnectNode) : Moves e n (n.responseRead e).1 := by
  have upgrades : Moves e n (n.responseUpgrade e).1 := by
    have answered : Moves e n (n.gatewayResponse e).1 := .of_aside (gatewayResponse_aside e n)
    have upgraded : Moves e n { (n.gatewayResponse e).1 with workStatus := .nodeStarting } :=
      answered.aside (.still rfl rfl rfl)
    have sent := upgraded.quiet (addCmd_send_quiet e _
      (startCommand { (n.gatewayResponse e).1 with workStatus := .nodeStarting }) [])
    unfold responseUpgrade
    dsimp only
    split
    · split
      · exact upgraded
      dsimp only
      split
      · exact sent
      · exact sent.trans (sendFakeSynthesisStarted_moves e _)
    · exact answered
  have starts : Moves e n (n.responseStarting e).1 := by
    have read := webSocketResponse_moves e n
    have flushed := read.quiet (nlsSendFrame_sent e _ .binary true).quiet
    simp only [responseStarting]
    split
    · split
      · exact flushed.quiet (sendControlDirective_quiet e _)
      · exact flushed
    split
    · exact read.quiet (nlsSendFrame_sent e _ .wwv false).quiet
    · exact read
  unfold responseRead
  split
  · exact upgrades
  · exact upgrades
  · exact starts
  · exact starts
  · exact webSocketResponse_moves e n
  · split
    · exact webSocketResponse_moves e n
    · exact .refl
  · split
    · exact webSocketResponse_moves e n
    · exact .refl
  · exact .refl
  · exact .refl

theorem readEventCallBack_moves (e : Env) (n : ConnectNode) (what : EventKind) :
    Moves e n (n.readEventCallBack e what) := by
  have read := responseRead_moves e n
  have response : Moves e n (n.nodeResponseProcess e).1 := by
    simp only [nodeResponseProcess]
    split
    · exact .refl
    split
    · exact .refl
    split
    · exact read
    · exact read
    · exact read
    · exact read
    split
    · exact read
    split
    · exact read
    · exact (read.aside (Shut.close).aside).taskFailed _ _
  unfold readEventCallBack
  split
  · exact .refl
  split
  · exact .of_aside (.still rfl rfl rfl)
  cases what with
  | ready =>
    dsimp only
    split
    · exact response.aside (.still rfl rfl rfl)
    · exact response
  | timeout => exact (failEvent_course e n _ _).moves
  | unknown => exact (failEvent_course e n _ _).moves

theorem nodeRequestProcess_moves (e : Env) (n : ConnectNode) :
    Moves e n (n.nodeRequestProcess e).1 := by
  have sent : Moves e n (n.requestSend e).1 := by
    by_cases handshaking : n.workStatus = .nodeHandshaking
    · have queued : Moves e n ((n.gatewayRequest e).1.nlsSendFrame e .cmd false).1 :=
        (Moves.refl.quiet (gatewayRequest_quiet e n)).quiet (nlsSendFrame_sent e _ _ _).quiet
      simp only [requestSend, handshaking]
      exact queued.aside (.still rfl rfl rfl)
    · exact Moves.refl.quiet (requestSend_quiet e handshaking)
  simp only [nodeRequestProcess]
  split
  · exact .refl
  split
  · exact (sent.taskFailed _ _).aside (.still rfl rfl rfl)
  · exact sent

/-! ## What an event leaves of the attempts -/

lemma endsTold_append (callbacks : List Callback) (c : Callback) :
    endsTold (callbacks ++ [c]) = [] ↔
      endsTold callbacks = [] ∧ endsSession c.event.msgType = false := by
  unfold endsTold
  rw [List.map_append, List.filter_append, List.append_eq_nil_iff]
  simp

/-- Keeping an event back leaves what was told, and is noted. -/
lemma ignoreCallback_counted (n : ConnectNode) (type : EventType) (code : ℤ) :
    (n.ignoreCallbackWhenReconnecting e type code).1.callbacks = n.callbacks ∧
      (n.ignoreCallbackWhenReconnecting e type code).1.hidden = n.hidden ∧
      (n.ignoreCallbackWhenReconnecting e type code).1.retryConnectCount = n.retryConnectCount := by
  unfold ignoreCallbackWhenReconnecting noteInterruption
  dsimp only
  split_ifs
  all_goals exact ⟨rfl, rfl, rfl⟩

/-- Only Close resets the count. -/
lemma afterCallback_counted (n : ConnectNode) (type : EventType) (ignored : Bool) :
    (n.afterCallback e type ignored).callbacks = n.callbacks ∧
      (n.afterCallback e type ignored).hidden = n.hidden ∧
      (type ≠ .close →
        (n.afterCallback e type ignored).retryConnectCount = n.retryConnectCount) := by
  unfold afterCallback nodeReconnecting
  dsimp only
  split_ifs with close
  all_goals first
    | exact ⟨rfl, rfl, fun other => absurd close other⟩
    | exact ⟨rfl, rfl, fun _ => rfl⟩

/-- An event behind which nothing was told or kept back is no end, and resets no count. -/
lemma handlerFrame_silent (event : NlsEvent) (silent : (n.handlerFrame e event).1.Silent) :
    n.Silent ∧ (n.handlerFrame e event).1.retryConnectCount = n.retryConnectCount := by
  obtain ⟨callbacks, hidden, count⟩ := @ignoreCallback_counted e (n.updateTwIndexOffset event)
    event.msgType event.statusCode
  have offset : (n.updateTwIndexOffset event).standing = n.standing := by
    unfold updateTwIndexOffset
    split
    · rfl
    · rfl
  simp only [standing, Prod.mk.injEq] at offset
  rw [offset.1.1] at callbacks
  rw [offset.1.2.1] at hidden
  rw [offset.1.2.2] at count
  revert silent
  unfold handlerFrame
  generalize (n.updateTwIndexOffset event).ignoreCallbackWhenReconnecting e event.msgType
    event.statusCode = reconnecting at callbacks hidden count
  obtain ⟨m, ignored⟩ := reconnecting
  dsimp only at callbacks hidden count ⊢
  split_ifs with invalid deaf unheard
  · exact fun silent => ⟨silent, rfl⟩
  · exact fun silent => ⟨silent, rfl⟩
  · intro silent
    obtain ⟨told, kept, counted⟩ := @afterCallback_counted e
      { m with hidden := ignored || m.hidden } event.msgType
      (ignored || ignoreCallbackWhenNodeClosedWhenLongConnection
        { m with hidden := ignored || m.hidden } event.msgType)
    have open_ := kept.symm.trans silent.kept
    obtain ⟨relaunched, unhidden⟩ := Bool.or_eq_false_iff.mp open_
    have late : event.msgType = .taskFailed := by
      rw [relaunched, Bool.false_or] at unheard
      simp only [ignoreCallbackWhenNodeClosedWhenLongConnection, Bool.and_eq_true,
        decide_eq_true_eq] at unheard
      exact unheard.2
    refine ⟨⟨?_, ?_⟩, ?_⟩
    · rw [← callbacks]
      exact told ▸ silent.told
    · exact hidden.symm.trans unhidden
    · exact (counted (by simp [late])).trans count
  · intro silent
    obtain ⟨told, kept, counted⟩ := @afterCallback_counted e
      (callback { m with hidden := ignored || m.hidden } event) event.msgType
      (ignored || ignoreCallbackWhenNodeClosedWhenLongConnection
        { m with hidden := ignored || m.hidden } event.msgType)
    have heard := silent.told
    rw [told] at heard
    obtain ⟨before, other⟩ := (endsTold_append m.callbacks _).mp heard
    have open_ := kept.symm.trans silent.kept
    simp only [callback, other, Bool.not_false, Bool.and_true] at open_
    obtain ⟨-, unhidden⟩ := Bool.or_eq_false_iff.mp open_
    refine ⟨⟨callbacks ▸ before, hidden.symm.trans unhidden⟩, ?_⟩
    refine (counted ?_).trans count
    intro close
    simp [endsSession, close] at other

/-- The same node, but for what only the events of a connection look at. -/
structure Uncounted (n m : ConnectNode) : Prop where
  handler : m.handler = n.handler
  request : m.request = n.request
  registered : m.registered = n.registered
  dnsRequest : m.dnsRequest = n.dnsRequest
  count : m.Silent → n.Silent ∧ m.retryConnectCount = n.retryConnectCount

lemma Uncounted.trans (h : Uncounted n m) (h' : Uncounted m k) : Uncounted n k where
  handler := h'.handler.trans h.handler
  request := h'.request.trans h.request
  registered := h'.registered.trans h.registered
  dnsRequest := h'.dnsRequest.trans h.dnsRequest
  count := fun silent => by
    obtain ⟨before, same⟩ := h'.count silent
    obtain ⟨first, same'⟩ := h.count before
    exact ⟨first, same.trans same'⟩

lemma Uncounted.of_standing (same : m.standing = n.standing) : Uncounted n m := by
  simp only [standing, Prod.mk.injEq] at same
  obtain ⟨⟨callbacks, hidden, count⟩, handler, request, registered, dnsRequest⟩ := same
  refine ⟨handler, request, registered, dnsRequest, fun silent => ⟨⟨?_, ?_⟩, count⟩⟩
  · rw [← callbacks]
    exact silent.told
  · rw [← hidden]
    exact silent.kept

lemma handlerFrame_uncounted (event : NlsEvent) : Uncounted n (n.handlerFrame e event).1 := by
  have count := @handlerFrame_silent e n event
  obtain ⟨r, is⟩ := handlerFrame_calledBack e n event
  rw [is] at count ⊢
  exact ⟨rfl, rfl, rfl, rfl, count⟩

lemma handlerEvent_uncounted (msg : Bytes) (code : ℤ) (type : EventType) :
    Uncounted n (n.handlerEvent e msg code type) := by
  have noted : (n.noteErrorCode code).standing = n.standing := by
    unfold noteErrorCode
    split
    · rfl
    · rfl
  have handled (event : NlsEvent) :=
    (Uncounted.of_standing noted).trans (@handlerFrame_uncounted e (n.noteErrorCode code) event)
  unfold handlerEvent report
  split
  · exact .of_standing rfl
  split
  · exact .of_standing noted
  dsimp only
  split
  · exact (handled _).trans (.of_standing rfl)
  · exact handled _

theorem Moves.uncounted (moves : Moves e n m) : Uncounted n m := by
  induction moves with
  | refl => exact .of_standing rfl
  | aside _ change ih => exact ih.trans (.of_standing change.standing)
  | frame _ event ih => exact ih.trans (handlerFrame_uncounted event)
  | own _ msg code type ih => exact ih.trans (handlerEvent_uncounted msg code type)

/-- From `n` to `m` the node makes `attempts`, and pays for them. -/
structure Spends (attempts : ℕ) (n m : ConnectNode) : Prop where
  attended : n.Attended → m.Attended
  pays : n.Attended → m.Silent → n.Silent ∧ attempts + m.spare ≤ n.spare

lemma Spends.trans {a b : ℕ} (h : Spends a n m) (h' : Spends b m k) : Spends (a + b) n k where
  attended := fun attended => h'.attended (h.attended attended)
  pays := fun attended silent => by
    obtain ⟨between, later⟩ := h'.pays (h.attended attended) silent
    obtain ⟨before, first⟩ := h.pays attended between
    exact ⟨before, by omega⟩

lemma Uncounted.spends (h : Uncounted n m) : Spends 0 n m where
  attended := fun attended => by
    refine ⟨h.handler.trans attended.handler, fun registered => ?_⟩
    rw [h.request]
    exact attended.request (h.registered ▸ registered)
  pays := fun _ silent => by
    obtain ⟨before, count⟩ := h.count silent
    refine ⟨before, ?_⟩
    rw [spare, spare, count, h.dnsRequest, Nat.zero_add]

lemma Moves.spends (moves : Moves e n m) : Spends 0 n m := moves.uncounted.spends

lemma Spends.of_standing (same : m.standing = n.standing) : Spends 0 n m :=
  (Uncounted.of_standing same).spends

lemma destroyConnectNode_spends (n : ConnectNode) : Spends 0 n n.destroyConnectNode := by
  unfold destroyConnectNode
  split
  · exact .of_standing rfl
  split
  · refine ⟨fun attended => ⟨attended.handler, fun registered => ?_⟩, fun _ silent => ?_⟩
    · cases registered
    · exact ⟨⟨silent.told, silent.kept⟩, (Nat.zero_add _).le⟩
  · exact .of_standing rfl

/-! ## TaskFailed and Close behind the last attempt -/

/-- A relaunch is due, and keeps the ends of the session from the user. -/
structure KeepsBack (n : ConnectNode) : Prop where
  request : n.request = true
  enabled : n.param.enableReconnect = true
  state : n.reconnection.state = .willReconnect ∨ n.reconnection.state = .triggerReconnection
  count : n.reconnection.reconnectedCount ≤ maxTryCount

lemma keepsBack_congr {n m : ConnectNode} (request : m.request = n.request)
    (enabled : m.param.enableReconnect = n.param.enableReconnect)
    (same : m.reconnection = n.reconnection) : m.KeepsBack ↔ n.KeepsBack := by
  constructor
  · intro keeps
    refine ⟨request.symm.trans keeps.request, enabled.symm.trans keeps.enabled, ?_, ?_⟩
    · rw [← same]
      exact keeps.state
    · rw [← same]
      exact keeps.count
  · intro keeps
    refine ⟨request.trans keeps.request, enabled.trans keeps.enabled, ?_, ?_⟩
    · rw [same]
      exact keeps.state
    · rw [same]
      exact keeps.count

/-- Whether TaskFailed is kept back shows in the state behind it. -/
lemma ignore_taskFailed (n : ConnectNode) (code : ℤ) :
    (n.ignoreCallbackWhenReconnecting e .taskFailed code).2 = true ↔
      (n.ignoreCallbackWhenReconnecting e .taskFailed code).1.KeepsBack := by
  have request : (n.noteInterruption e .taskFailed code).request = n.request := by
    unfold noteInterruption
    split <;> rfl
  have param : (n.noteInterruption e .taskFailed code).param = n.param := by
    unfold noteInterruption
    split <;> rfl
  unfold ignoreCallbackWhenReconnecting
  by_cases enabled : n.request = true ∧ n.param.enableReconnect = true
  · rw [if_pos enabled]
    generalize n.noteInterruption e .taskFailed code = m at request param ⊢
    dsimp only
    by_cases due : m.reconnection.state = .willReconnect ∨
        m.reconnection.state = .triggerReconnection
    · rw [if_pos ⟨due, .inl rfl⟩]
      split
      · rename_i few
        refine iff_of_true rfl ⟨request.trans enabled.1, ?_, due, few⟩
        rw [param]
        exact enabled.2
      · refine iff_of_false (by simp) fun keeps => ?_
        rcases keeps.state with state | state
        · cases state
        · cases state
    · rw [if_neg fun both => due both.1]
      exact iff_of_false (by simp) fun keeps => due keeps.state
  · rw [if_neg enabled]
    exact iff_of_false (by simp) fun keeps => enabled ⟨keeps.request, keeps.enabled⟩

/-- Close is kept back in the same states. -/
lemma ignore_close (n : ConnectNode) (code : ℤ) :
    (n.ignoreCallbackWhenReconnecting e .close code).2 = true ↔ n.KeepsBack := by
  have same : n.noteInterruption e .close code = n := by
    unfold noteInterruption
    rw [if_neg (by simp)]
  unfold ignoreCallbackWhenReconnecting
  rw [same]
  dsimp only
  constructor
  · intro kept
    split_ifs at kept with enabled due few
    exact ⟨enabled.1, enabled.2, due.1, few⟩
  · intro keeps
    rw [if_pos ⟨keeps.request, keeps.enabled⟩, if_pos ⟨keeps.state, .inr rfl⟩, if_pos keeps.count]

lemma afterCallback_keepsBack (n : ConnectNode) (ignored : Bool) :
    (n.afterCallback e .taskFailed ignored).KeepsBack ↔ n.KeepsBack := by
  unfold afterCallback
  rw [if_neg (by simp)]
  split
  · exact keepsBack_congr rfl rfl rfl
  · exact Iff.rfl

/-- An event of a node that is heard is told, or kept back for a relaunch. -/
lemma handlerFrame_heard (heard : n.Heard) (event : NlsEvent) :
    let reconnecting := (n.updateTwIndexOffset event).ignoreCallbackWhenReconnecting e
      event.msgType event.statusCode
    (reconnecting.2 = true → (n.handlerFrame e event).1.callbacks = n.callbacks ∧
      (n.handlerFrame e event).1.hidden = true) ∧
    (reconnecting.2 = false → ∃ c : Callback, c.event = event ∧
      (n.handlerFrame e event).1.callbacks = n.callbacks ++ [c]) ∧
    (event.msgType = .taskFailed →
      ((n.handlerFrame e event).1.KeepsBack ↔ reconnecting.1.KeepsBack)) := by
  dsimp only
  have running := heard.calledBack ((updateTwIndexOffset_calledBack n event).trans
    (ignoreCallbackWhenReconnecting_calledBack e _ event.msgType event.statusCode))
  have offset : (n.updateTwIndexOffset event).callbacks = n.callbacks := by
    unfold updateTwIndexOffset
    split
    · rfl
    · rfl
  have before := (@ignoreCallback_counted e (n.updateTwIndexOffset event) event.msgType
    event.statusCode).1.trans offset
  unfold handlerFrame
  rw [if_neg heard.running.2, if_neg (by simp [heard.handler])]
  generalize (n.updateTwIndexOffset event).ignoreCallbackWhenReconnecting e event.msgType
    event.statusCode = reconnecting at running before ⊢
  obtain ⟨m, ignored⟩ := reconnecting
  dsimp only at running before ⊢
  have late : ignoreCallbackWhenNodeClosedWhenLongConnection
      { m with hidden := ignored || m.hidden } event.msgType = false := by
    simp [ignoreCallbackWhenNodeClosedWhenLongConnection, running.running.1]
  rw [late, Bool.or_false]
  refine ⟨?_, ?_, ?_⟩
  · rintro rfl
    obtain ⟨told, kept, -⟩ := @afterCallback_counted e { m with hidden := true || m.hidden }
      event.msgType true
    exact ⟨told.trans before, kept⟩
  · rintro rfl
    refine ⟨{ event := event, asMessage := m.enableOnMessage }, rfl, ?_⟩
    rw [if_neg (by simp), (afterCallback_counted _ _ _).1]
    exact congrArg (· ++ [_]) before
  · intro failed
    rw [failed, afterCallback_keepsBack]
    split
    · exact keepsBack_congr rfl rfl rfl
    · exact keepsBack_congr rfl rfl rfl

/-- An end that a node tells of itself. -/
lemma handlerEvent_ends (heard : n.Heard) (msg : Bytes) (code : ℤ) {type : EventType}
    (ends : type = .taskFailed ∨ type = .close) :
    ∃ kept : Bool,
      (kept = true → (n.handlerEvent e msg code type).callbacks = n.callbacks ∧
        (n.handlerEvent e msg code type).hidden = true) ∧
      (kept = false → ∃ c : Callback, c.event.msgType = type ∧
        (n.handlerEvent e msg code type).callbacks = n.callbacks ++ [c]) ∧
      (type = .close → (kept = true ↔ n.KeepsBack)) ∧
      (type = .taskFailed → (n.handlerEvent e msg code type).Heard ∧
        (kept = true ↔ (n.handlerEvent e msg code type).KeepsBack)) := by
  have noted : (n.noteErrorCode code).Heard ∧ (n.noteErrorCode code).callbacks = n.callbacks ∧
      ((n.noteErrorCode code).KeepsBack ↔ n.KeepsBack) := by
    unfold noteErrorCode
    split
    · exact ⟨heard, rfl, Iff.rfl⟩
    · exact ⟨⟨heard.request, heard.handler, heard.running, heard.exitStatus⟩, rfl,
        keepsBack_congr rfl rfl rfl⟩
  obtain ⟨heard', same, keeps⟩ := noted
  unfold handlerEvent
  rw [if_neg (by simp [heard.exitStatus, heard.request])]
  generalize n.noteErrorCode code = m at heard' same keeps ⊢
  obtain ⟨kept, told, failed⟩ := @handlerFrame_heard e m heard' (n.ownEvent e msg code type)
  have offset : m.updateTwIndexOffset (n.ownEvent e msg code type) = m := by
    unfold updateTwIndexOffset ownEvent
    rcases ends with rfl | rfl
    · rfl
    · rfl
  have named : (n.ownEvent e msg code type).msgType = type := rfl
  rw [offset, named] at kept told failed
  unfold report
  rw [if_neg (by simp [heard'.handler, heard'.running.1]), named]
  refine ⟨(m.ignoreCallbackWhenReconnecting e type (n.ownEvent e msg code type).statusCode).2,
    ?_, ?_, ?_, ?_⟩
  · intro ignored
    rw [← same]
    dsimp only
    split
    · exact kept ignored
    · exact kept ignored
  · intro open_
    obtain ⟨c, is, told⟩ := told open_
    rw [← same]
    dsimp only
    split
    · exact ⟨c, by rw [is, named], told⟩
    · exact ⟨c, by rw [is, named], told⟩
  · rintro rfl
    exact (ignore_close m _).trans keeps
  · rintro rfl
    rw [if_neg (by simp)]
    exact ⟨heard'.calledBack (handlerFrame_calledBack e m _),
      (ignore_taskFailed m _).trans (failed rfl).symm⟩

/-- A node that is heard ends its session with both events told, or keeps both back. -/
lemma handlerTaskFailedEvent_ends (heard : n.Heard) (info : Bytes) (code : ℤ) :
    (∃ failed closed : Callback, failed.event.msgType = .taskFailed ∧
      closed.event.msgType = .close ∧
      (n.handlerTaskFailedEvent e info code).callbacks = n.callbacks ++ [failed, closed]) ∨
    (n.param.enableReconnect = true ∧
      (n.handlerTaskFailedEvent e info code).callbacks = n.callbacks ∧
      (n.handlerTaskFailedEvent e info code).hidden = true) := by
  unfold handlerTaskFailedEvent handlerClose
  dsimp only
  obtain ⟨kept, hides, tells, -, still⟩ := @handlerEvent_ends e n heard
    (if info = [] then unknownFailedString else taskFailedText 1024 info)
    (if info = [] then NlsErrorCode.defaultErrorCode
      else if code = NlsErrorCode.defaultErrorCode then getErrorCodeFromMsg e info
      else code) .taskFailed (.inl rfl)
  obtain ⟨heard', keeps⟩ := still rfl
  have param := congrArg (fun m : ConnectNode => m.param.enableReconnect)
    (handlerEvent_reported e n (if info = [] then unknownFailedString else taskFailedText 1024 info)
      (if info = [] then NlsErrorCode.defaultErrorCode
        else if code = NlsErrorCode.defaultErrorCode then getErrorCodeFromMsg e info
        else code) .taskFailed).unheard
  dsimp only [unheard] at param
  generalize n.handlerEvent e _ _ .taskFailed = m at hides tells heard' keeps param ⊢
  obtain ⟨kept', hides', tells', same, -⟩ := @handlerEvent_ends e m heard' m.genCloseMsg
    NlsErrorCode.closeCode .close (.inr rfl)
  have agree : kept = kept' := by
    rw [Bool.eq_iff_iff, keeps, same rfl]
  subst agree
  cases kept with
  | true =>
    refine .inr ⟨?_, (hides' rfl).1.trans (hides rfl).1, (hides' rfl).2⟩
    rw [← param]
    exact (keeps.mp rfl).enabled
  | false =>
    obtain ⟨failed, isFailed, toldFailed⟩ := tells rfl
    obtain ⟨closed, isClosed, toldClosed⟩ := tells' rfl
    refine .inl ⟨failed, closed, isFailed, isClosed, ?_⟩
    rw [toldClosed, toldFailed, List.append_assoc]
    rfl

lemma handlerTaskFailedEvent_heard (heard : n.Heard) (info : Bytes) (code : ℤ) :
    ¬(n.handlerTaskFailedEvent e info code).Silent := by
  intro silent
  rcases @handlerTaskFailedEvent_ends e n heard info code with
    ⟨failed, closed, isFailed, isClosed, told⟩ | ⟨-, -, hidden⟩
  · have ends := silent.told
    rw [told, List.append_cons, endsTold_append, isClosed] at ends
    cases ends.2
  · rw [silent.kept] at hidden
    cases hidden

/-! ## What an attempt costs -/

lemma Spends.mono {a b : ℕ} (h : Spends b n m) (few : a ≤ b) : Spends a n m where
  attended := h.attended
  pays := fun attended silent => by
    obtain ⟨before, paid⟩ := h.pays attended silent
    exact ⟨before, by omega⟩

lemma Spends.aside {a : ℕ} (h : Spends a n m) (same : k.standing = m.standing) : Spends a n k :=
  h.trans (.of_standing same)

lemma Spends.from {a : ℕ} (h : Spends a m k) (same : m.standing = n.standing) : Spends a n k :=
  ((Spends.of_standing same).trans h).mono (Nat.zero_add a).ge

lemma countConnect_spends (left : n.connectCountLeft = true) : Spends 1 n n.countConnect where
  attended := fun attended => ⟨attended.handler, attended.request⟩
  pays := fun _ silent => by
    refine ⟨⟨silent.told, silent.kept⟩, ?_⟩
    have few : n.retryConnectCount < retryConnectCountMax := by simpa [connectCountLeft] using left
    have left : retryConnectCountMax - (n.retryConnectCount + 1) + 1 =
        retryConnectCountMax - n.retryConnectCount := by
      omega
    rw [spare, spare, countConnect, ← left]
    dsimp only
    omega

/-- A name that is looked up takes the place of the attempt it was counted as. -/
lemma lookup_spends (left : n.connectCountLeft = true) :
    Spends 0 n { n.countConnect with dnsRequest := true } where
  attended := fun attended => ⟨attended.handler, attended.request⟩
  pays := fun _ silent => by
    refine ⟨⟨silent.told, silent.kept⟩, ?_⟩
    have few : n.retryConnectCount < retryConnectCountMax := by simpa [connectCountLeft] using left
    simp only [spare, countConnect, if_true]
    omega

lemma answer_spends (pending : n.dnsRequest = true) :
    Spends 1 n { n with dnsRequest := false } where
  attended := fun attended => ⟨attended.handler, attended.request⟩
  pays := fun _ silent => by
    refine ⟨⟨silent.told, silent.kept⟩, ?_⟩
    simp only [spare, pending]
    simp
    omega

lemma orDestroy_spends {a : ℕ} {result : ConnectNode × Ret} (h : Spends a n result.1) :
    Spends a n (orDestroy result) := by
  unfold orDestroy
  split
  · exact h.trans (destroyConnectNode_spends _)
  · exact h

/-- Behind the last attempt the session ends, and a run that has not ended is not there. -/
lemma refused_spends (exit : n.exitStatus ≠ .exitCancel) (registered : n.registered = true)
    (running : n.workStatus ≠ .nodeClosed ∧ n.workStatus ≠ .nodeInvalid) (info : Bytes) (code : ℤ) :
    Spends 0 n ({ n with retryConnectCount := 0 }.handlerTaskFailedEvent e info code) where
  attended := fun attended => by
    have moves := Moves.refl.taskFailed (e := e) (n := { n with retryConnectCount := 0 }) info code
    exact moves.spends.attended ⟨attended.handler, attended.request⟩
  pays := fun attended silent => by
    have heard : Heard { n with retryConnectCount := 0 } :=
      ⟨attended.request registered, attended.handler, running, exit⟩
    exact absurd silent (handlerTaskFailedEvent_heard heard info code)

/-- What follows an attempt is paid by the node that makes it. -/
lemma connectAttempt_spends {a : ℕ} (exit : n.exitStatus ≠ .exitCancel)
    {connect : ConnectNode → SocketState → ConnectNode}
    (connects : ∀ socket, Aside n (connect n socket))
    {retry : ConnectNode → ConnectNode}
    (again : Spends a n.backToConnecting (retry n.backToConnecting)) (attempt : Attempt) :
    Spends (if attempt ∈ [.pending, .connected, .handshaking] then 0 else a) n
      (n.connectAttempt e connect retry attempt) := by
  have retried : Spends a n (retry n.backToConnecting) := again.from rfl
  have made (socket : SocketState) : Spends 0 n (connect n socket) :=
    .of_standing (connects socket).standing
  unfold connectAttempt
  rw [if_neg exit]
  cases attempt with
  | pending => exact made _
  | connected => exact (made .connecting).aside rfl
  | handshaking =>
    have upgrading : Moves e n { connect n .established with
        workStatus := .nodeHandshaking, isConnected := true } :=
      (Moves.of_aside (connects .established)).aside (.still rfl rfl rfl)
    have paid := (upgrading.trans (nodeRequestProcess_moves e _)).spends
    exact orDestroy_spends paid
  | parseUrlFailed => exact retried
  | invalidDnsSource => exact retried
  | failed => exact retried

/-- A node that is turned away has ended its session, or takes no part in one. -/
lemma refuses_spends (refuses : n.Refuses)
    (running : n.workStatus ≠ .nodeClosed ∧ n.workStatus ≠ .nodeInvalid)
    (attempts : List Attempt) : Spends 0 n (dnsProcess e attempts n).1 := by
  unfold dnsProcess
  split
  · exact .of_standing rfl
  split
  · exact .of_standing rfl
  split
  · have started : Moves e n { n with workStatus := .nodeStarting } :=
      .of_aside (.still rfl rfl rfl)
    have sent := started.quiet (addCmd_send_quiet e _ (startCommand { n with
      workStatus := .nodeStarting }) [])
    dsimp only
    split
    · exact ((sent.taskFailed _ _).aside (Shut.close).aside).spends
    · exact sent.spends
  split
  · exact refused_spends ‹_› (by simpa using ‹¬(!n.registered) = true›) running _ _
  · rename_i exit registered long left
    rcases refuses with exit' | unregistered | long' | spent
    · exact absurd exit' exit
    · simp [unregistered] at registered
    · exact absurd long' long
    · simp [spent] at left

/-- `dnsProcess` pays for the attempts it makes by itself. -/
theorem dnsProcess_spends (attempts : List Attempt)
    (running : n.workStatus ≠ .nodeClosed ∧ n.workStatus ≠ .nodeInvalid) :
    Spends (dnsAttempts attempts n) n (dnsProcess e attempts n).1 := by
  induction attempts generalizing n with
  | nil =>
    unfold dnsAttempts
    split
    · exact refuses_spends ‹_› running []
    · rename_i goes
      simp only [Refuses, not_or] at goes
      obtain ⟨exit, registered, long, left⟩ := goes
      unfold dnsProcess
      rw [if_neg exit, if_neg (by simpa using registered), if_neg long,
        if_neg (by simpa using left)]
      exact lookup_spends (by simpa using left)
  | cons attempt rest ih =>
    unfold dnsAttempts
    split
    · exact refuses_spends ‹_› running _
    · rename_i goes
      simp only [Refuses, not_or] at goes
      obtain ⟨exit, registered, long, left⟩ := goes
      have counted := countConnect_spends (n := n) (by simpa using left)
      have again : Spends (dnsAttempts rest n.countConnect.backToConnecting)
          n.countConnect.backToConnecting
          (orDestroy (dnsProcess e rest n.countConnect.backToConnecting)) :=
        orDestroy_spends (ih ⟨by simp [backToConnecting], by simp [backToConnecting]⟩)
      have exit' : n.countConnect.exitStatus ≠ .exitCancel := exit
      have spends : Spends _ n.countConnect (n.countConnect.connectAttempt e connectProcess
          (fun m => orDestroy (dnsProcess e rest m)) attempt) :=
        connectAttempt_spends exit' (fun _ => .still rfl rfl rfl) again attempt
      have tried := counted.trans spends
      unfold dnsProcess
      rw [if_neg exit, if_neg (by simpa using registered), if_neg long,
        if_neg (by simpa using left)]
      cases attempt with
      | parseUrlFailed => exact counted.mono (Nat.zero_le 1)
      | invalidDnsSource => exact counted.mono (Nat.zero_le 1)
      | failed => exact tried.mono (by simp)
      | pending => exact tried.mono (by simp)
      | connected => exact tried.mono (by simp)
      | handshaking => exact tried.mono (by simp)

/-! ## Steps -/

lemma retry_spends (rest : List Attempt) :
    Spends (dnsAttempts rest n.backToConnecting) n.backToConnecting
      (orDestroy (dnsProcess e rest n.backToConnecting)) :=
  orDestroy_spends (dnsProcess_spends rest ⟨by simp [backToConnecting], by simp [backToConnecting]⟩)

lemma continueConnect_spends {connect : ConnectNode → SocketState → ConnectNode}
    (connects : ∀ socket, Aside n (connect n socket)) :
    Spends (continueAttempts e 0 n) n (n.continueConnect e connect) := by
  unfold continueAttempts continueConnect
  cases e.attempts with
  | nil => exact .of_standing rfl
  | cons attempt rest =>
    dsimp only
    by_cases exit : n.exitStatus = .exitCancel
    · rw [if_pos exit]
      unfold connectAttempt
      rw [if_pos exit]
      have paid := (retry_spends (e := e) (n := n) rest).from (n := n) rfl
      exact paid.mono (Nat.zero_le _)
    · rw [if_neg exit, Nat.zero_add]
      exact connectAttempt_spends exit connects (retry_spends rest) attempt

/-- An attempt under way is one more than what follows it. -/
lemma continueAttempts_first (e : Env) (n : ConnectNode) :
    continueAttempts e 1 n ≤ 1 + continueAttempts e 0 n := by
  unfold continueAttempts
  cases e.attempts with
  | nil => exact Nat.zero_le _
  | cons attempt rest =>
    dsimp only
    split
    · exact Nat.zero_le _
    · rw [Nat.zero_add]

lemma launchEventCallback_spends :
    Spends (launchAttempts e n) n (n.launchEventCallback e) := by
  unfold launchAttempts launchEventCallback
  by_cases registered : n.registered = true
  · by_cases leaving : n.exitStatus = .exitCancel ∨ n.exitStatus = .exitStopping
    · rw [if_pos (.inr leaving), if_neg (by simp [registered]), if_pos leaving]
      exact .of_standing rfl
    · rw [if_neg (by simpa [registered] using leaving), if_neg (by simp [registered]),
        if_neg leaving]
      have paid := dnsProcess_spends (e := e) e.attempts
        (n := { n with listed := true, workStatus := .nodeInvoked }.updateParameters)
        ⟨by simp [updateParameters], by simp [updateParameters]⟩
      exact orDestroy_spends (paid.from rfl)
  · rw [if_pos (by simp [registered]), if_pos (by simp [registered])]
    exact .of_standing rfl

lemma connectEventCallback_spends (timeout : Bool) :
    Spends (connectEventAttempts e n timeout) n (n.connectEventCallback e timeout) := by
  unfold connectEventAttempts connectEventCallback
  split
  · exact (retry_spends e.attempts).from rfl
  split
  · split
    · rename_i none
      unfold continueAttempts
      rw [none]
      exact .of_standing rfl
    · exact continueConnect_spends fun _ => .still rfl rfl rfl
  · exact .of_standing rfl

/-- An answer pays with the attempt its lookup was counted as. -/
lemma dnsEventCallback_spends (pending : n.dnsRequest = true) (failed : Bool) :
    Spends (dnsEventAttempts e { n with dnsRequest := false } failed) n
      ({ n with dnsRequest := false }.dnsEventCallback e failed) := by
  have answered := answer_spends pending
  unfold dnsEventAttempts dnsEventCallback
  split
  · exact answered.mono (Nat.zero_le 1)
  split
  · have paid := dnsProcess_spends (e := e) e.attempts
      (n := { n with dnsRequest := false, workStatus := .nodeConnecting })
      ⟨by simp, by simp⟩
    exact (answered.trans (orDestroy_spends (paid.from rfl))).mono (Nat.le_add_left _ 1)
  · have connects (socket : SocketState) : Aside { n with dnsRequest := false }
        ({ n with dnsRequest := false }.connectProcess socket) := .still rfl rfl rfl
    exact (answered.trans (continueConnect_spends connects)).mono (continueAttempts_first e _)

lemma cmdNotify_spends (e : Env) (n : ConnectNode) (type : CmdType) (message : Bytes) :
    Spends 0 n (n.cmdNotify e type message).1 := by
  by_cases cancel : type = .cmdCancel
  · subst cancel
    exact .of_standing rfl
  · exact (cmdNotify_course e n cancel message).moves.spends

lemma writeEventCallBack_spends (e : Env) (n : ConnectNode) (what : EventKind) :
    Spends 0 n (n.writeEventCallBack e what) := by
  have handled {m : ConnectNode} (moves : Moves e n m) :
      Spends 0 n (if m.workStatus = .nodeInvalid then m.destroyConnectNode else m) := by
    split
    · exact moves.spends.trans (destroyConnectNode_spends m)
    · exact moves.spends
  unfold writeEventCallBack
  split
  · exact .of_standing rfl
  split
  · exact .of_standing rfl
  cases what with
  | ready => exact handled (nodeRequestProcess_moves e n)
  | timeout => exact handled (failEvent_course e n _ _).moves
  | unknown => exact handled (failEvent_course e n _ _).moves

lemma start_standing (e : Env) (n : ConnectNode) : (n.start e).standing = n.standing := by
  unfold start
  dsimp only
  split_ifs
  all_goals rfl

lemma startWithPoolEventCallback_moves (e : Env) (n : ConnectNode) :
    Moves e n (n.startWithPoolEventCallback e) := by
  have starting : Moves e n { n with
      readEvent := true, writeEvent := true, workStatus := .nodeStarting } :=
    .of_aside (.still rfl rfl rfl)
  have sent := starting.quiet (addCmd_send_quiet e _ .cmdStart [])
  unfold startWithPoolEventCallback
  split
  · exact .refl
  dsimp only
  split
  · exact sent.trans (sendFakeSynthesisStarted_moves e _)
  · exact sent

lemma singleRoundTextEventCallback_spends (e : Env) (n : ConnectNode) :
    Spends 0 n (n.singleRoundTextEventCallback e) := by
  have sent := cmdNotify_spends e n .cmdSendText n.param.singleRoundText
  have stopped := sent.trans (cmdNotify_spends e _ .cmdStop [])
  unfold singleRoundTextEventCallback
  split
  · exact .of_standing rfl
  split
  · exact .of_standing rfl
  · exact stopped.aside rfl

/-- A step pays for its attempts. -/
theorem nodeStep_spends (n : ConnectNode) (input : NodeInput) :
    Spends (stepAttempts n input) n (nodeStep n input) := by
  obtain ⟨op, e⟩ := input
  cases op with
  | start => exact .of_standing (start_standing e (n.withEnv e))
  | sendAudio frame =>
    exact (addAudioDataBuffer_course e (n.withEnv e) frame).moves.spends.from rfl
  | keepAudio frame => exact .of_standing rfl
  | cmdNotify type message => exact (cmdNotify_spends e (n.withEnv e) type message).from rfl
  | syncPingCmd => exact .of_standing (syncPingCmd_quiet e (n.withEnv e)).standing
  | launchEvent =>
    simp only [stepAttempts, nodeStep, NodeOp.step]
    split
    · exact launchEventCallback_spends.from rfl
    · exact .of_standing rfl
  | reconnectEvent =>
    simp only [stepAttempts, nodeStep, NodeOp.step]
    split
    · exact launchEventCallback_spends.from rfl
    · exact .of_standing rfl
  | dnsEvent failed =>
    simp only [stepAttempts, nodeStep, NodeOp.step]
    split
    · exact (dnsEventCallback_spends (n := n.withEnv e) ‹_› failed).from rfl
    · exact .of_standing rfl
  | connectEvent timeout =>
    simp only [stepAttempts, nodeStep, NodeOp.step]
    split
    · exact (connectEventCallback_spends timeout).from rfl
    · exact .of_standing rfl
  | startWithPoolEvent =>
    simp only [stepAttempts, nodeStep, NodeOp.step]
    split
    · exact (startWithPoolEventCallback_moves e _).spends.from rfl
    · exact .of_standing rfl
  | singleRoundTextEvent =>
    simp only [stepAttempts, nodeStep, NodeOp.step]
    split
    · exact (singleRoundTextEventCallback_spends e _).from rfl
    · exact .of_standing rfl
  | readEvent what =>
    simp only [stepAttempts, nodeStep, NodeOp.step]
    split
    · exact (readEventCallBack_moves e (n.withEnv e) what).spends.from rfl
    · exact .of_standing rfl
  | writeEvent what =>
    simp only [stepAttempts, nodeStep, NodeOp.step]
    split
    · exact (writeEventCallBack_spends e (n.withEnv e) what).from rfl
    · exact .of_standing rfl

/-! ## A step that gives up -/

/-- `m` has told TaskFailed and Close more than `n`, or a relaunch keeps both from the user. -/
def EndsOrRelaunches (n m : ConnectNode) : Prop :=
  (∃ failed closed : Callback, failed.event.msgType = .taskFailed ∧
    closed.event.msgType = .close ∧ m.callbacks = n.callbacks ++ [failed, closed]) ∨
  (n.param.enableReconnect = true ∧ m.callbacks = n.callbacks ∧ m.hidden = true)

lemma EndsOrRelaunches.orDestroy {result : ConnectNode × Ret}
    (ends : EndsOrRelaunches n result.1) : EndsOrRelaunches n (orDestroy result) := by
  have same : (ConnectNode.orDestroy result).callbacks = result.1.callbacks ∧
      (ConnectNode.orDestroy result).hidden = result.1.hidden := by
    unfold ConnectNode.orDestroy destroyConnectNode
    split_ifs
    all_goals exact ⟨rfl, rfl⟩
  unfold EndsOrRelaunches
  rw [same.1, same.2]
  exact ends

/-- A session ends that has only been worked on. -/
lemma unsent_ends (heard : n.Heard) (work : Quiet n m) (info : Bytes) (code : ℤ) :
    EndsOrRelaunches n (m.handlerTaskFailedEvent e info code) := by
  have param : m.param.enableReconnect = n.param.enableReconnect := by
    have kept := congrArg (fun k : ConnectNode => k.param.enableReconnect) work.unspoken
    exact kept
  have same : m.callbacks = n.callbacks := work.callbacks
  have ends := handlerTaskFailedEvent_ends (e := e) (heard.quiet work) info code
  rw [same, param] at ends
  exact ends

/-- The call gives up for want of an attempt or because its Start could not be sent. -/
def TriedInVain (code : NlsRetCode) : Prop :=
  code ∉ [.invalidExitStatus, .nodeEmpty, .parseUrlFailed, .invalidDnsSource]

instance (code : NlsRetCode) : Decidable (TriedInVain code) := inferInstanceAs (Decidable (¬_))

/-- A call that gives up behind its attempts ends the session itself. -/
lemma dnsProcess_ends {attempts : List Attempt} {code : NlsRetCode}
    (failed : (dnsProcess e attempts n).2 = .error code) (tried : TriedInVain code)
    (attended : n.Attended)
    (running : n.workStatus ≠ .nodeClosed ∧ n.workStatus ≠ .nodeInvalid) :
    EndsOrRelaunches n (dnsProcess e attempts n).1 := by
  revert failed
  unfold dnsProcess
  split
  · intro failed
    cases failed
    exact absurd tried (by decide)
  split
  · intro failed
    cases failed
    exact absurd tried (by decide)
  rename_i exit registered
  have request := attended.request (by simpa using registered)
  split
  · dsimp only
    split
    · intro _
      have starting : Heard { n with workStatus := .nodeStarting } :=
        ⟨request, attended.handler, ⟨by simp, by simp⟩, exit⟩
      exact unsent_ends starting (addCmd_send_quiet e _ _ []) _ _
    · intro failed
      cases failed
  split
  · intro _
    have heard : Heard { n with retryConnectCount := 0 } :=
      ⟨request, attended.handler, running, exit⟩
    exact handlerTaskFailedEvent_ends heard _ _
  · dsimp only
    split
    · intro failed
      cases failed
    · intro failed
      cases failed
      exact absurd tried (by decide)
    · intro failed
      cases failed
      exact absurd tried (by decide)
    · intro failed
      cases failed

/-! ## The retries of one call -/

lemma connectAttempt_congr {connect : ConnectNode → SocketState → ConnectNode}
    {retry retry' : ConnectNode → ConnectNode}
    (same : retry n.backToConnecting = retry' n.backToConnecting) (attempt : Attempt) :
    n.connectAttempt e connect retry attempt = n.connectAttempt e connect retry' attempt := by
  unfold connectAttempt
  rw [same]

/-- However often connecting fails, `dnsProcess` is called again for the attempts the node has left,
and no further outcome matters. -/
theorem dnsProcess_take (e : Env) (attempts : List Attempt) (n : ConnectNode) :
    dnsProcess e attempts n =
      dnsProcess e (attempts.take (retryConnectCountMax - n.retryConnectCount)) n := by
  induction attempts generalizing n with
  | nil => rw [List.take_nil]
  | cons attempt rest ih =>
    by_cases left : n.retryConnectCount < retryConnectCountMax
    · have fewer := ih n.countConnect.backToConnecting
      have spent : retryConnectCountMax - n.countConnect.backToConnecting.retryConnectCount + 1 =
          retryConnectCountMax - n.retryConnectCount := by
        simp only [backToConnecting, countConnect, disconnectProcess]
        omega
      rw [← spent, List.take_succ_cons]
      have same : n.countConnect.connectAttempt e connectProcess
            (fun m => orDestroy (dnsProcess e rest m)) attempt =
          n.countConnect.connectAttempt e connectProcess
            (fun m => orDestroy (dnsProcess e (rest.take (retryConnectCountMax -
              n.countConnect.backToConnecting.retryConnectCount)) m)) attempt :=
        connectAttempt_congr (congrArg orDestroy fewer) attempt
      rw [dnsProcess, dnsProcess]
      cases attempt with
      | parseUrlFailed => rfl
      | invalidDnsSource => rfl
      | failed => simp only [same]
      | pending => simp only [same]
      | connected => simp only [same]
      | handshaking => simp only [same]
    · have spent : n.connectCountLeft = false := by simpa [connectCountLeft] using left
      rw [dnsProcess, dnsProcess]
      simp only [spent, Bool.not_false, if_true]

end ConnectNode

open ConnectNode

/-- Up to the first TaskFailed or Close, told or kept back, no run of a node makes more attempts
to connect than it has left, whatever its user calls and whatever the network answers. -/
theorem attempts_bounded {n : ConnectNode} (attended : n.Attended) (inputs : List NodeInput)
    (silent : (nodeRun n inputs).Silent) :
    attemptsIn n inputs + (nodeRun n inputs).spare ≤ n.spare :=
  (total_le (fun m a attended => (nodeStep_spends m a).attended attended)
    (fun m a attended silent => (nodeStep_spends m a).pays attended silent) attended silent).2

/-- A transcription makes its four attempts, and looks for a name before each. -/
theorem attempts_bounded_lookup :
    attemptsIn transcription (launched [.failed, .failed]) +
      (nodeRun transcription (launched [.failed, .failed])).spare ≤ transcription.spare :=
  attempts_bounded (by decide) _ (by decide)

end NlsSdk.Transport
