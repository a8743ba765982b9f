import NlsSdk.Transport.Alive
import NlsSdk.Transport.ConnectedPool

/-!
# Calls of start

`NlsEventNetWork::start` with all that its calls may come to. What it returns tells
whether the session of its request goes on.
-/
namespace NlsSdk.Transport

open NlsSdk.Library ConnectNode

/-- What the calls made by one `start` come to; those it does not make do not matter. -/
structure StartOutcome where
  /-- `_eventClient != NULL` -/
  eventClient : Bool := true
  hasPool : Bool := false
  /-- what `selectThreadNumber` returns -/
  selected : ℤ := 0
  /-- the connection `tryToGetPreconnection` takes, and the vector it is taken from -/
  pooled : Option (Kind × Channel) := none
  eventAdd : Bool := true
  /-- the error code found when a synchronous call has waited for its session -/
  waited : ℤ := 0

/-- The negative results of `start`. -/
inductive StartError
  | eventClientEmpty
  | selectThreadFailed
  | invokeStartFailed
  | sessionFailed (code : ℤ)
  deriving DecidableEq, Repr

/-- A request with its node, and the thread selected for it, negative before its first start. -/
structure NlsRequest where
  node : ConnectNode
  threadNumber : ℤ := -1

namespace ConnectNode

/-- A node of a process with a pool has no connection of its own to keep. -/
def usePool (n : ConnectNode) (hasPool : Bool) : ConnectNode :=
  { n with
    usePreconnection := hasPool
    isLongConnection := n.isLongConnection && !hasPool }

/-- A long connection starts its next session behind Close. -/
def resetClosed (n : ConnectNode) : ConnectNode :=
  if n.isLongConnection ∧ n.workStatus = .nodeClosed then n.initAllStatus else n

/-- Add the event that begins the session, on a connection of the pool if there is one. Whether
the event of a pooled connection could be added is not looked at. -/
def addStartEvent (o : StartOutcome) (n : ConnectNode) : ConnectNode × Bool :=
  match if o.hasPool then o.pooled else none with
  | some (kind, channel) =>
    ({ n with
        channel := channel
        withPreconnectedNode := kind = .preconnected
        startWithPoolEvent := true }, true)
  | none => ({ n with launchEvent := o.eventAdd }, o.eventAdd)

end ConnectNode

namespace NlsRequest

/-- A request just created. -/
def create (param : RequestParam) (isLongConnection : Bool) : NlsRequest where
  node := { param := param, isLongConnection := isLongConnection }

/-- `NlsEventNetWork::start`, once a long connection that was completed is closed. -/
def start (o : StartOutcome) (r : NlsRequest) : NlsRequest × Except StartError Unit :=
  if !o.eventClient then (r, .error .eventClientEmpty)
  else
    let node := (r.node.usePool o.hasPool).resetClosed
    if node.workStatus = .nodeCreated ∧ node.exitStatus = .exitInvalid then
      let node := node.setConnectNodeStatus .nodeInvoking
      let num := if r.threadNumber < 0 then o.selected else r.threadNumber
      if num < 0 then
        ({ r with node := node.setConnectNodeStatus .nodeCreated }, .error .selectThreadFailed)
      else
        let added := node.addStartEvent o
        -- the status stays `nodeInvoking`
        if !added.2 then ({ node := added.1, threadNumber := num }, .error .invokeStartFailed)
        else
          let node := { added.1 with nlsEncoder := added.1.param.encodedFormat }
          ({ node := node, threadNumber := num },
            if o.waited = 0 then .ok () else .error (.sessionFailed o.waited))
    else if node.exitStatus = .exitInvalid ∧ node.isInvoked then ({ r with node := node }, .ok ())
    else ({ r with node := node.setConnectNodeStatus .nodeCreated }, .error .invokeStartFailed)

end NlsRequest

/-- A call of `start`, or a step of the node. -/
inductive RequestOp
  | start (o : StartOutcome)
  | step (input : NodeInput)

def requestStep (r : NlsRequest) : RequestOp → NlsRequest
  | .start o => (r.start o).1
  | .step input => { r with node := nodeStep r.node input }

/-! ## What the result tells -/

namespace ConnectNode

/-- A session is under way, or will be launched again. -/
def Underway (n : ConnectNode) : Prop :=
  n.Going ∧ n.workStatus ∉ [.nodeInvalid, .nodeCreated, .nodeClosed] ∨
    n.reconnection.armed = true ∧ n.workStatus = .nodeClosed

instance (n : ConnectNode) : Decidable n.Underway := inferInstanceAs (Decidable (_ ∨ _))

/-- A later start may schedule a launch. -/
def Startable (n : ConnectNode) : Prop := n.exitStatus = .exitInvalid ∧ n.isInvoked = false

instance (n : ConnectNode) : Decidable n.Startable := inferInstanceAs (Decidable (_ ∧ _))

end ConnectNode

/-- A start leaves a session that is under way as it is; it succeeds only with an event pending
that carries the session on, and fails only where a later start may succeed. -/
def Consistent (r : NlsRequest) (op : RequestOp) : Prop :=
  match op with
  | .start o =>
    (r.node.Underway → (r.start o).1.node = r.node) ∧
      ((r.start o).2 = .ok () → (r.start o).1.node.Going) ∧
      ((r.start o).2 ≠ .ok () → r.node.Underway ∨ (r.start o).1.node.Startable)
  | .step _ => True

/-- The request has its node and has been neither stopped nor cancelled, unless a long connection
is reset; a session under way has not been completed, waits for no relaunch and was started with
the pool as it is; `event_add` succeeds, and so does the session a synchronous call waits for. -/
def StartsWell (r : NlsRequest) (op : RequestOp) : Prop :=
  match op with
  | .start o =>
    r.node.request = true ∧
      (r.node.exitStatus = .exitInvalid ∨ o.eventClient = true ∧
        (r.node.usePool o.hasPool).isLongConnection = true ∧ r.node.workStatus = .nodeClosed) ∧
      (r.node.Underway → r.node.isInvoked = true ∧ r.node.usePreconnection = o.hasPool ∧
        (o.hasPool = true → r.node.isLongConnection = false)) ∧
      (o.hasPool = true ∧ o.pooled.isSome ∨ o.eventAdd = true) ∧ o.waited = 0
  | .step input => input.op ≠ .start ∧ GoesOn r.node input

instance (r : NlsRequest) (op : RequestOp) : Decidable (StartsWell r op) := by
  unfold StartsWell
  cases op <;> infer_instance

section Start

variable {r : NlsRequest} {o : StartOutcome}

/-- The start of a node alone is a call in which a thread is at hand and nothing fails. -/
theorem start_node (e : Env) (n : ConnectNode) :
    ((NlsRequest.mk n 0).start { hasPool := e.hasPool }).1.node = n.start e := by
  unfold NlsRequest.start ConnectNode.start
  dsimp only [usePool, resetClosed, addStartEvent, setConnectNodeStatus]
  simp only [Bool.not_true, Bool.false_eq_true, if_false, ite_self, lt_irrefl, isInvoked,
    decide_eq_true_eq]
  split_ifs <;> rfl

lemma usePool_same {hasPool : Bool} {n : ConnectNode} (pool : n.usePreconnection = hasPool)
    (long : hasPool = true → n.isLongConnection = false) : n.usePool hasPool = n := by
  have kept : (n.isLongConnection && !hasPool) = n.isLongConnection := by
    cases hasPool with
    | false => simp
    | true => simp [long rfl]
  unfold usePool
  rw [kept, ← pool]

lemma resetClosed_invoked {n : ConnectNode} (invoked : n.isInvoked = true) : n.resetClosed = n := by
  unfold resetClosed
  rw [if_neg]
  rintro ⟨-, closed⟩
  rw [isInvoked_eq_false (by simp [closed])] at invoked
  cases invoked

/-- A session under way is left alone. -/
lemma start_underway (exit : r.node.exitStatus = .exitInvalid) (invoked : r.node.isInvoked = true)
    (pool : r.node.usePreconnection = o.hasPool)
    (long : o.hasPool = true → r.node.isLongConnection = false) : (r.start o).1 = r ∧
      ((r.start o).2 = .ok () ∨ (r.start o).2 = .error .eventClientEmpty) := by
  have same : (r.node.usePool o.hasPool).resetClosed = r.node := by
    rw [usePool_same pool long, resetClosed_invoked invoked]
  have other : ¬(r.node.workStatus = .nodeCreated ∧ r.node.exitStatus = .exitInvalid) := by
    rintro ⟨created, -⟩
    rw [isInvoked_eq_false (by simp [created])] at invoked
    cases invoked
  unfold NlsRequest.start
  split
  · exact ⟨rfl, .inr rfl⟩
  · dsimp only
    rw [same, if_neg other, if_pos ⟨exit, invoked⟩]
    exact ⟨rfl, .inl rfl⟩

lemma invoked_underway (alive : r.node.Alive) (request : r.node.request = true)
    (exit : r.node.exitStatus = .exitInvalid) (invoked : r.node.isInvoked = true) :
    r.node.Underway := by
  refine .inl ⟨alive.going request exit invoked, fun idle => ?_⟩
  rw [isInvoked_eq_false (by simp at idle ⊢; tauto)] at invoked
  cases invoked

/-- What the call looks at, on a node where no session is under way. -/
lemma prepared_idle (alive : r.node.Alive) (well : StartsWell r (.start o))
    (idle : ¬r.node.Underway) :
    (r.node.usePool o.hasPool).resetClosed.Fit ∧
      (r.node.usePool o.hasPool).resetClosed.isInvoked = false ∧
      (o.eventClient = true → (r.node.usePool o.hasPool).resetClosed.exitStatus = .exitInvalid) := by
  obtain ⟨request, exit, -⟩ := well
  have fit : Fit (r.node.usePool o.hasPool) := ⟨alive.connecting, alive.registered, alive.handler⟩
  unfold resetClosed
  split
  · exact ⟨⟨fit.connecting, fit.registered, fit.handler⟩, rfl, fun _ => rfl⟩
  · rename_i kept
    have invalid : o.eventClient = true → r.node.exitStatus = .exitInvalid := by
      intro client
      rcases exit with exit | ⟨-, long, closed⟩
      · exact exit
      · exact absurd ⟨long, closed⟩ kept
    refine ⟨fit, ?_, invalid⟩
    by_contra invoked
    have invoked : r.node.isInvoked = true := (Bool.not_eq_false _).mp invoked
    rcases exit with exit | ⟨-, -, closed⟩
    · exact idle (invoked_underway alive request exit invoked)
    · rw [isInvoked_eq_false (by simp [closed])] at invoked
      cases invoked

lemma addStartEvent_going {n : ConnectNode} (fit : n.Fit)
    (adds : o.hasPool = true ∧ o.pooled.isSome ∨ o.eventAdd = true) :
    (n.addStartEvent o).2 = true ∧ (n.addStartEvent o).1.Fit ∧ (n.addStartEvent o).1.Going := by
  unfold addStartEvent
  split
  · exact ⟨rfl, ⟨fit.connecting, fit.registered, fit.handler⟩, by simp [Going]⟩
  · rename_i alone
    have added : o.eventAdd = true := by
      rcases adds with ⟨pool, taken⟩ | added
      · rw [if_pos pool] at alone
        rw [alone] at taken
        cases taken
      · exact added
    exact ⟨added, ⟨fit.connecting, fit.registered, fit.handler⟩, by simp [Going, added]⟩

/-- A start where no session is under way succeeds with an event pending, or leaves the node to a
later start. -/
lemma start_idle (alive : r.node.Alive) (well : StartsWell r (.start o))
    (idle : ¬r.node.Underway) : (r.start o).1.node.Fit ∧
      ((r.start o).2 = .ok () ∧ (r.start o).1.node.Going ∨
        (r.start o).2 ≠ .ok () ∧ (r.start o).1.node.isInvoked = false ∧
          (r.start o).1.node.exitStatus = .exitInvalid) := by
  obtain ⟨fit, still, exit⟩ := prepared_idle alive well idle
  obtain ⟨request, leaves, -, adds, quick⟩ := well
  unfold NlsRequest.start
  split
  · rename_i gone
    have invalid : r.node.exitStatus = .exitInvalid := by
      rcases leaves with invalid | ⟨client, -⟩
      · exact invalid
      · simp [client] at gone
    refine ⟨alive.toFit, .inr ⟨by simp, ?_, invalid⟩⟩
    by_contra invoked
    exact idle (invoked_underway alive request invalid (by simpa using invoked))
  rename_i client
  have exit := exit (by simpa using client)
  dsimp only
  generalize (r.node.usePool o.hasPool).resetClosed = n at fit still exit ⊢
  generalize (if r.threadNumber < 0 then o.selected else r.threadNumber) = num
  have set (status : ConnectStatus) : (n.setConnectNodeStatus status).Fit :=
    ⟨fit.connecting, fit.registered, fit.handler⟩
  split
  · split
    · exact ⟨set _, .inr ⟨by simp, rfl, exit⟩⟩
    · obtain ⟨added, fit', going⟩ := addStartEvent_going (set .nodeInvoking) adds
      rw [added, if_neg (by simp)]
      exact ⟨⟨fit'.connecting, fit'.registered, fit'.handler⟩, .inl ⟨rfl, going⟩⟩
  · rw [if_neg (by simp [still])]
    exact ⟨set _, .inr ⟨by simp, rfl, exit⟩⟩

theorem start_consistent_alive (alive : r.node.Alive) (well : StartsWell r (.start o)) :
    (r.start o).1.node.Alive ∧ Consistent r (.start o) := by
  by_cases underway : r.node.Underway
  · obtain ⟨request, exit, running, -⟩ := well
    obtain ⟨invoked, pool, long⟩ := running underway
    have exit : r.node.exitStatus = .exitInvalid := by
      rcases exit with exit | ⟨-, -, closed⟩
      · exact exit
      · rw [isInvoked_eq_false (by simp [closed])] at invoked
        cases invoked
    obtain ⟨same, -⟩ := start_underway exit invoked pool long
    rw [same]
    refine ⟨alive, fun _ => by rw [same], fun _ => ?_, fun _ => .inl underway⟩
    rw [same]
    exact alive.going request exit invoked
  · obtain ⟨fit, ⟨success, going⟩ | ⟨failed, still, exit⟩⟩ := start_idle alive well underway
    · exact ⟨fit.alive going, fun running => absurd running underway, fun _ => going,
        fun failed => absurd success failed⟩
    · refine ⟨?_, fun running => absurd running underway, fun success => absurd success failed,
        fun _ => .inr ⟨exit, still⟩⟩
      exact ⟨fit, fun _ _ invoked => by rw [still] at invoked; cases invoked⟩

/-- A call in which nothing fails and the pool has no part. -/
structure StartOutcome.Plain (o : StartOutcome) : Prop where
  client : o.eventClient = true
  hasPool : o.hasPool = false
  selected : 0 ≤ o.selected
  eventAdd : o.eventAdd = true
  waited : o.waited = 0

lemma start_created (plain : o.Plain)
    (created : (r.node.usePool o.hasPool).resetClosed.workStatus = .nodeCreated)
    (exit : (r.node.usePool o.hasPool).resetClosed.exitStatus = .exitInvalid) :
    (r.start o).2 = .ok () ∧ (r.start o).1.node.launchEvent = true := by
  have num : ¬(if r.threadNumber < 0 then o.selected else r.threadNumber) < 0 := by
    have := plain.selected
    split
    · omega
    · assumption
  unfold NlsRequest.start
  rw [if_neg (by simp [plain.client])]
  dsimp only
  rw [if_pos ⟨created, exit⟩, if_neg num]
  simp [addStartEvent, plain.hasPool, plain.eventAdd, plain.waited]

/-- Where a later start may schedule a launch, the next one does, or the one behind it. -/
theorem startable_starts (startable : r.node.Startable) (plain : o.Plain) :
    ((r.start o).2 = .ok () ∧ (r.start o).1.node.launchEvent = true) ∨
      (((r.start o).1.start o).2 = .ok () ∧
        ((r.start o).1.start o).1.node.launchEvent = true) := by
  have exit : (r.node.usePool o.hasPool).resetClosed.exitStatus = .exitInvalid := by
    unfold resetClosed
    split
    · rfl
    · exact startable.1
  by_cases created : (r.node.usePool o.hasPool).resetClosed.workStatus = .nodeCreated
  · exact .inl (start_created plain created exit)
  · have kept : (r.node.usePool o.hasPool).resetClosed = r.node.usePool o.hasPool := by
      unfold resetClosed at created ⊢
      split at created
      · exact absurd rfl created
      · rw [if_neg ‹_›]
    have invoked : (r.node.usePool o.hasPool).isInvoked = false := startable.2
    have refused : (r.start o).1.node =
        (r.node.usePool o.hasPool).setConnectNodeStatus .nodeCreated := by
      unfold NlsRequest.start
      rw [if_neg (by simp [plain.client])]
      dsimp only
      rw [if_neg (by simp [created]), kept, if_neg (by simp [invoked])]
    refine .inr (start_created plain ?_ ?_)
    · rw [refused]
      simp [resetClosed, usePool, setConnectNodeStatus]
    · rw [refused]
      simp [resetClosed, usePool, setConnectNodeStatus, startable.1]

lemma requestStep_alive {op : RequestOp} (alive : r.node.Alive) (well : StartsWell r op) :
    (requestStep r op).node.Alive := by
  cases op with
  | start o => exact (start_consistent_alive alive well).1
  | step input => exact nodeStep_alive alive well.1 well.2

end Start

/-! ## Runs -/

/-- In a run whose calls and steps meet the condition, every start is consistent. -/
theorem start_consistent {param : RequestParam} {isLongConnection : Bool} {ops : List RequestOp}
    (along : Along requestStep StartsWell (.create param isLongConnection) ops) :
    Along requestStep Consistent (.create param isLongConnection) ops := by
  have created : (NlsRequest.create param isLongConnection).node.Alive :=
    Resting.alive (Fit.resting_of_status ⟨by simp [NlsRequest.create], fun _ => rfl, rfl⟩
      (by simp [NlsRequest.create]))
  apply along_of_invariant (I := fun r : NlsRequest => r.node.Alive) _ _ created along
  · intro r op alive well
    exact requestStep_alive alive well
  · intro r op alive well
    cases op with
    | start o => exact (start_consistent_alive alive well).2
    | step input => exact True.intro

/-- A transcription is started twice; the second call comes while it waits for its connection. -/
def startedTwice (eventAdd : Bool) : List RequestOp :=
  [.start { eventAdd := eventAdd }, .step { op := .launchEvent }, .start {}]

theorem start_consistent_twice :
    Along requestStep Consistent (.create { mode := .typeRealTime } false) (startedTwice true) :=
  start_consistent (by decide)

/-- Where the launch event cannot be added the call fails, but the status stays `nodeInvoking`: the
next call succeeds with nothing pending. -/
theorem launch_lost :
    let r := NlsRequest.create { mode := .typeRealTime } false
    let failed := r.start { eventAdd := false }
    let again := failed.1.start {}
    failed.2 = .error .invokeStartFailed ∧ again.2 = .ok () ∧ ¬again.1.node.Going ∧
      ¬Along requestStep Consistent r (startedTwice false) := by
  refine ⟨by decide, by decide, by decide, fun along => ?_⟩
  obtain ⟨⟨-, -, startable⟩, -⟩ := along
  exact absurd (startable (by decide)) (by decide)

/-! A session that was stopped is set back by a start that fails. -/

example : let r : NlsRequest := ⟨{ nodeRun transcription startSession with
      exitStatus := .exitStopping }, 0⟩
    r.node.workStatus = .nodeStarted ∧ (r.start {}).2 = .error .invokeStartFailed ∧
      (r.start {}).1.node.workStatus = .nodeCreated := by
  decide

end NlsSdk.Transport
