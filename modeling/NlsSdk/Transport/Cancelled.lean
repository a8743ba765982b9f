import NlsSdk.Transport.NlsEventNetWork

/-!
# Cancelled sessions

`cancel` only sets the exit status; every path to the user, to the buffers and to a further attempt
looks at it. `cancel_silences` says that nothing is told or queued behind a cancel.
-/
namespace NlsSdk.Transport

open NlsSdk.Library

namespace ConnectNode

variable {e : Env} {n m k : ConnectNode}

/-- What a node tells, queues and counts. -/
def spoken (n : ConnectNode) :
    (List Callback × Bool × List PoolCall) × (List Bytes × (Output → EvBuffer)) ×
      (ℕ × ℕ × ReconnectionState) :=
  ((n.callbacks, n.hidden, n.poolCalls), (n.queued, n.evBuffer),
    (n.retryConnectCount, n.reconnection.reconnectedCount, n.reconnection.state))

/-- Neither a pooled connection nor a text of its own waits for the node. -/
structure Cancelled (n : ConnectNode) : Prop where
  exitStatus : n.exitStatus = .exitCancel
  startWithPoolEvent : n.startWithPoolEvent = false
  singleRoundTextEvent : n.singleRoundTextEvent = false

instance (n : ConnectNode) : Decidable n.Cancelled :=
  decidable_of_iff (n.exitStatus = .exitCancel ∧ n.startWithPoolEvent = false ∧
    n.singleRoundTextEvent = false)
    ⟨fun ⟨a, b, c⟩ => ⟨a, b, c⟩, fun ⟨a, b, c⟩ => ⟨a, b, c⟩⟩

/-- A start that takes up the long connection of a closed session. -/
def Reopens (n : ConnectNode) (input : NodeInput) : Prop :=
  input.op = .start ∧ n.isLongConnection = true ∧ input.env.hasPool = false ∧
    n.workStatus = .nodeClosed

instance (n : ConnectNode) (input : NodeInput) : Decidable (n.Reopens input) :=
  inferInstanceAs (Decidable (_ ∧ _))

/-- From `n` to `m` nothing is said, and `m` is as cancelled as `n`. -/
structure Hushed (n m : ConnectNode) : Prop where
  spoken : m.spoken = n.spoken
  exitStatus : m.exitStatus = n.exitStatus
  startWithPoolEvent : m.startWithPoolEvent = true → n.startWithPoolEvent = true
  singleRoundTextEvent : m.singleRoundTextEvent = true → n.singleRoundTextEvent = true

lemma Hushed.trans (h : Hushed n m) (h' : Hushed m k) : Hushed n k where
  spoken := h'.spoken.trans h.spoken
  exitStatus := h'.exitStatus.trans h.exitStatus
  startWithPoolEvent := h.startWithPoolEvent ∘ h'.startWithPoolEvent
  singleRoundTextEvent := h.singleRoundTextEvent ∘ h'.singleRoundTextEvent

lemma Hushed.refl (n : ConnectNode) : Hushed n n := ⟨rfl, rfl, id, id⟩

lemma Hushed.cancelled (h : Hushed n m) (cancelled : n.Cancelled) : m.Cancelled where
  exitStatus := h.exitStatus.trans cancelled.exitStatus
  startWithPoolEvent := by
    by_contra pending
    have before := h.startWithPoolEvent (by simpa using pending)
    rw [cancelled.startWithPoolEvent] at before
    cases before
  singleRoundTextEvent := by
    by_contra pending
    have before := h.singleRoundTextEvent (by simpa using pending)
    rw [cancelled.singleRoundTextEvent] at before
    cases before

lemma destroyConnectNode_hushed (n : ConnectNode) : Hushed n n.destroyConnectNode := by
  unfold destroyConnectNode
  split_ifs
  · exact ⟨rfl, rfl, id, id⟩
  · exact ⟨rfl, rfl, id, id⟩
  · exact ⟨rfl, rfl, id, id⟩

lemma closeConnectNode_hushed (n : ConnectNode) : Hushed n n.closeConnectNode :=
  ⟨rfl, rfl, fun pending => absurd pending Bool.false_ne_true, id⟩

/-- A cancelled node is turned away before it connects. -/
lemma dnsProcess_hushed (cancelled : n.exitStatus = .exitCancel) (attempts : List Attempt) :
    Hushed n (orDestroy (dnsProcess e attempts n)) := by
  unfold dnsProcess
  rw [if_pos cancelled]
  exact destroyConnectNode_hushed n

lemma retry_hushed (cancelled : n.exitStatus = .exitCancel) (attempts : List Attempt) :
    Hushed n (orDestroy (dnsProcess e attempts n.backToConnecting)) := by
  have back : Hushed n n.backToConnecting := ⟨rfl, rfl, id, id⟩
  have still : n.backToConnecting.exitStatus = .exitCancel := cancelled
  exact back.trans (dnsProcess_hushed still attempts)

lemma continueConnect_hushed (cancelled : n.exitStatus = .exitCancel)
    (connect : ConnectNode → SocketState → ConnectNode) :
    Hushed n (n.continueConnect e connect) := by
  unfold continueConnect
  cases e.attempts with
  | nil => exact .refl n
  | cons attempt rest =>
    dsimp only
    unfold connectAttempt
    rw [if_pos cancelled]
    exact retry_hushed cancelled rest

lemma launchEventCallback_hushed (cancelled : n.exitStatus = .exitCancel) :
    Hushed n (n.launchEventCallback e) := by
  unfold launchEventCallback
  split
  · exact .refl n
  · rw [if_pos (.inl cancelled)]
    exact ⟨rfl, rfl, id, id⟩

lemma connectEventCallback_hushed (cancelled : n.exitStatus = .exitCancel) (timeout : Bool) :
    Hushed n (n.connectEventCallback e timeout) := by
  unfold connectEventCallback
  split
  · exact retry_hushed cancelled e.attempts
  split
  · split
    · exact ⟨rfl, rfl, id, id⟩
    · exact continueConnect_hushed cancelled socketConnect
  · exact .refl n

lemma dnsEventCallback_hushed (cancelled : n.exitStatus = .exitCancel) (failed : Bool) :
    Hushed n (n.dnsEventCallback e failed) := by
  unfold dnsEventCallback
  split
  · exact .refl n
  split
  · have connecting : Hushed n { n with workStatus := .nodeConnecting } := ⟨rfl, rfl, id, id⟩
    have still : ConnectNode.exitStatus { n with workStatus := .nodeConnecting } = .exitCancel :=
      cancelled
    exact connecting.trans (dnsProcess_hushed still e.attempts)
  · exact continueConnect_hushed cancelled connectProcess

lemma readEventCallBack_hushed (cancelled : n.exitStatus = .exitCancel) (what : EventKind) :
    Hushed n (n.readEventCallBack e what) := by
  unfold readEventCallBack
  rw [if_pos cancelled]
  split
  · exact .refl n
  · exact closeConnectNode_hushed n

lemma writeEventCallBack_hushed (cancelled : n.exitStatus = .exitCancel) (what : EventKind) :
    Hushed n (n.writeEventCallBack e what) := by
  unfold writeEventCallBack
  rw [if_pos cancelled]
  split
  · exact .refl n
  · exact closeConnectNode_hushed n

/-- A start leaves a cancelled node cancelled, unless its long connection is closed. -/
lemma start_hushed (cancelled : n.exitStatus = .exitCancel)
    (stays : ¬n.Reopens { op := .start, env := e }) : Hushed n (n.start e) := by
  have closed : ¬((n.isLongConnection && !e.hasPool) = true ∧ n.workStatus = .nodeClosed) := by
    rintro ⟨long, closed⟩
    rw [Bool.and_eq_true, Bool.not_eq_true'] at long
    exact stays ⟨rfl, long.1, long.2, closed⟩
  unfold start
  dsimp only
  rw [if_neg closed, if_neg (by simp [cancelled]), if_neg (by simp [cancelled])]
  exact ⟨rfl, rfl, id, id⟩

lemma syncPingCmd_hushed (e : Env) (n : ConnectNode) : Hushed n (n.syncPingCmd e).1 := by
  have sent : Hushed n (n.nlsSend e pingFrame).1 := by
    unfold nlsSend
    split
    · exact .refl n
    dsimp only
    split
    · exact ⟨rfl, rfl, id, id⟩
    · exact ⟨rfl, rfl, id, id⟩
  simp only [syncPingCmd]
  split
  · exact .refl n
  split
  · exact sent
  · exact sent
  · exact sent

/-- Every call that is let through and every event leaves a cancelled node hushed. -/
theorem nodeStep_hushed {input : NodeInput} (cancelled : n.Cancelled)
    (admitted : input.op.Admitted n) (stays : ¬n.Reopens input) : Hushed n (nodeStep n input) := by
  obtain ⟨op, e⟩ := input
  have env : Hushed n (n.withEnv e) := ⟨rfl, rfl, id, id⟩
  have exit : (n.withEnv e).exitStatus = .exitCancel := cancelled.exitStatus
  cases op with
  | start => exact env.trans (start_hushed exit stays)
  | sendAudio frame =>
    have running := admitted.2
    rw [cancelled.exitStatus] at running
    cases running
  | keepAudio frame => exact ⟨rfl, rfl, id, id⟩
  | cmdNotify type message =>
    exfalso
    cases type with
    | cmdStop => simp [NodeOp.Admitted, cancelled.exitStatus] at admitted
    | cmdCancel => simp [NodeOp.Admitted, cancelled.exitStatus] at admitted
    | _ => simp [NodeOp.Admitted, Running, cancelled.exitStatus] at admitted
  | syncPingCmd => exact env.trans (syncPingCmd_hushed e _)
  | launchEvent =>
    simp only [nodeStep, NodeOp.step]
    split
    · have launched : Hushed n { n.withEnv e with launchEvent := false } := ⟨rfl, rfl, id, id⟩
      refine launched.trans (launchEventCallback_hushed ?_)
      exact exit
    · exact env
  | reconnectEvent =>
    simp only [nodeStep, NodeOp.step]
    split
    · have launched : Hushed n { n.withEnv e with
          reconnection := { n.reconnection with armed := false } } := ⟨rfl, rfl, id, id⟩
      refine launched.trans (launchEventCallback_hushed ?_)
      exact exit
    · exact env
  | dnsEvent failed =>
    simp only [nodeStep, NodeOp.step]
    split
    · have answered : Hushed n { n.withEnv e with dnsRequest := false } := ⟨rfl, rfl, id, id⟩
      refine answered.trans (dnsEventCallback_hushed ?_ failed)
      exact exit
    · exact env
  | connectEvent timeout =>
    simp only [nodeStep, NodeOp.step]
    split
    · have fired : Hushed n { n.withEnv e with connectEvent := false } := ⟨rfl, rfl, id, id⟩
      refine fired.trans (connectEventCallback_hushed ?_ timeout)
      exact exit
    · exact env
  | startWithPoolEvent =>
    simp only [nodeStep, NodeOp.step]
    split
    · rename_i pending
      exact absurd (cancelled.startWithPoolEvent.symm.trans pending) Bool.false_ne_true
    · exact env
  | singleRoundTextEvent =>
    simp only [nodeStep, NodeOp.step]
    split
    · rename_i pending
      exact absurd (cancelled.singleRoundTextEvent.symm.trans pending) Bool.false_ne_true
    · exact env
  | readEvent what =>
    simp only [nodeStep, NodeOp.step]
    split
    · exact env.trans (readEventCallBack_hushed exit what)
    · exact env
  | writeEvent what =>
    simp only [nodeStep, NodeOp.step]
    split
    · exact env.trans (writeEventCallBack_hushed exit what)
    · exact env

end ConnectNode

open ConnectNode

/-- Behind a cancel no run tells the user anything, queues a frame, counts an attempt or asks for a
relaunch, whatever calls are let through and whatever events are under way; only a start of a closed
long connection ends that. -/
theorem cancel_silences {n : ConnectNode} (cancelled : n.Cancelled) {inputs : List NodeInput}
    (along : Along nodeStep (fun m input => input.op.Admitted m ∧ ¬m.Reopens input) n inputs) :
    (nodeRun n inputs).spoken = n.spoken := by
  have hushed : Hushed n (nodeRun n inputs) :=
    invariant_along (fun m input before condition =>
      before.trans (nodeStep_hushed (before.cancelled cancelled) condition.1 condition.2))
      (Hushed.refl n) along
  exact hushed.spoken

/-- A running transcription is cancelled, and the server answers. -/
theorem cancel_silences_transcription :
    (nodeRun (nodeRun transcription
        (startSession ++ [{ op := .cmdNotify .cmdCancel [] }]))
      [{ op := .readEvent .ready, env := { reads := [some (ascii "late")] } },
        { op := .writeEvent .ready }, { op := .launchEvent }]).spoken =
    (nodeRun transcription (startSession ++ [{ op := .cmdNotify .cmdCancel [] }])).spoken :=
  cancel_silences (by decide +kernel) (by decide +kernel)

end NlsSdk.Transport
