import NlsSdk.Library.Mux
import NlsSdk.Transport.NlsEventNetWork
import NlsSdk.Transport.SafeEvents

/-!
# What a new connection is written

The upgrade request comes first and frames made for this connection follow, as
long as the buffers are empty when the connection is set up. Nothing empties
them when a connection ends.
-/
namespace NlsSdk.Transport

open NlsSdk.Library

/-- The stages of a connection: no upgrade request queued yet, the request on its way out, and
frames behind it. -/
inductive Led (v : Wire) : Prop
  | unopened (none : v.upgrade = none) (unwritten : v.written = [])
      (boundary : ∀ i, (v.evBuffer i).cut = []) (whole : ∀ i, ∀ c ∈ (v.evBuffer i).whole, v.Produced c)
  | upgrading (u : Bytes) (queued : v.upgrade = some u)
      (opening : Mux.Opening v.Produced u v.written v.evBuffer .cmd)
  | upgraded (u : Bytes) (queued : v.upgrade = some u)
      (sent : Mux.Inv v.Produced u v.written v.evBuffer)

/-- A buffer is safe when no frame of another one is begun and, until the upgrade request is
out, when it is the one the request is in. -/
def LedSafe (v : Wire) (i : Output) : Prop :=
  Mux.Only v.evBuffer i ∧ ∃ u, v.upgrade = some u ∧ (v.written.length < u.length → i = .cmd)

lemma Led.add {v : Wire} (inv : Led v) (i : Output) {frame : Bytes} (hf : IsFrame frame) :
    Led (v.add i frame) := by
  have weaker (f : Bytes) (h : v.Produced f) : (v.add i frame).Produced f := h.add i frame
  cases inv with
  | unopened none unwritten boundary whole =>
    refine .unopened none unwritten (fun j => ?_) (fun j c hc => ?_)
    · by_cases same : j = i
      · subst same; simpa [Wire.add] using boundary j
      · simpa [Wire.add, same] using boundary j
    · by_cases same : j = i
      · subst same
        simp only [Wire.add, Function.update_self, ChunkQueue.whole_add, List.mem_append,
          List.mem_singleton] at hc
        rcases hc with old | rfl
        · exact weaker c (whole j c old)
        · exact v.produced_add j hf
      · simp only [Wire.add, Function.update_of_ne same] at hc
        exact weaker c (whole j c hc)
  | upgrading u queued opening =>
    exact .upgrading u queued ((opening.mono weaker).add i (v.produced_add i hf))
  | upgraded u queued sent =>
    exact .upgraded u queued ((sent.mono weaker).add i (v.produced_add i hf))

lemma Led.send {v : Wire} (inv : Led v) {i : Output} (safe : LedSafe v i) (k : ℕ) :
    Led (v.send i k) := by
  obtain ⟨only, u', same, first⟩ := safe
  cases inv with
  | unopened none _ _ _ => simp [none] at same
  | upgrading u queued opening =>
    obtain rfl : u = u' := by simpa [queued] using same
    obtain rfl := first opening.length_lt
    rcases opening.send k with more | behind
    · exact .upgrading u queued more
    · exact .upgraded u queued behind
  | upgraded u queued sent => exact .upgraded u queued (sent.send only k)

/-- Once a frame may go out of another buffer the upgrade request is out. -/
lemma Led.sent_of_safe {v : Wire} (inv : Led v) {i : Output} (safe : LedSafe v i)
    (out : i ≠ .cmd ∨ (v.evBuffer i).length = 0) :
    ∃ u, v.upgrade = some u ∧ Mux.Inv v.Produced u v.written v.evBuffer := by
  obtain ⟨only, u', same, first⟩ := safe
  cases inv with
  | unopened none _ _ _ => simp [none] at same
  | upgrading u queued opening =>
    obtain rfl : u = u' := by simpa [queued] using same
    obtain rfl := first opening.length_lt
    exact absurd (out.resolve_left (by simp)) opening.length_pos.ne'
  | upgraded u queued sent => exact ⟨u, queued, sent⟩

lemma Led.direct {v : Wire} (inv : Led v) (safe : ∀ i, LedSafe v i) :
    Led (v.direct pingFrame) := by
  obtain ⟨u, queued, sent⟩ := inv.sent_of_safe (safe .binary) (Or.inl (by decide))
  have boundary := Mux.boundary_of_only fun i => (safe i).1
  exact .upgraded u queued (sent.direct boundary ⟨isFrame_framePackage _ _, Or.inr rfl⟩)

lemma LedSafe.send {v : Wire} {i : Output} (safe : LedSafe v i) (k : ℕ) :
    LedSafe (v.send i k) i := by
  obtain ⟨only, u, queued, first⟩ := safe
  refine ⟨only.update _, u, queued, fun short => first ?_⟩
  simp only [Wire.send, List.length_append] at short
  omega

lemma LedSafe.drained {v : Wire} (inv : Led v) {i : Output} (safe : LedSafe v i)
    (empty : (v.evBuffer i).length = 0) (j : Output) : LedSafe v j := by
  obtain ⟨u, queued, sent⟩ := inv.sent_of_safe safe (Or.inr empty)
  obtain ⟨-, -, before, -⟩ := sent.framed
  refine ⟨fun k _ => safe.1.boundary empty k, u, queued, fun short => ?_⟩
  have := before.length_le
  omega

/-- The stages as a discipline; sends leave the upgrade request what it is. -/
def upgradeFirst (upgrade : Option Bytes) : Discipline where
  Inv v := v.upgrade = upgrade ∧ Led v
  Safe := LedSafe
  add := fun inv i _ hf => ⟨inv.1, inv.2.add i hf⟩
  send := fun inv _ safe k => ⟨inv.1, inv.2.send safe k⟩
  direct := fun inv safe => ⟨inv.1, inv.2.direct safe⟩
  safe_add := fun safe j frame => ⟨safe.1.add j frame, safe.2⟩
  safe_send := fun safe k => safe.send k
  drained := fun inv safe empty j => safe.drained inv.2 empty j

/-- No chunk is empty, so an empty buffer has none. -/
lemma Led.buffer_eq {v : Wire} (inv : Led v) {i : Output} (empty : (v.evBuffer i).length = 0) :
    v.evBuffer i = ⟨[], []⟩ := by
  have produced : ∀ c ∈ (v.evBuffer i).whole, v.Produced c := by
    cases inv with
    | unopened _ _ _ whole => exact whole i
    | upgrading u _ opening =>
      refine opening.whole i ?_
      rintro rfl
      exact absurd empty opening.length_pos.ne'
    | upgraded u _ sent => exact sent.whole i
  have none : (v.evBuffer i).whole = [] := by
    by_contra some
    obtain ⟨c, hc⟩ := List.exists_mem_of_ne_nil _ some
    obtain ⟨⟨codeType, buffer, rfl⟩, -⟩ := produced c hc
    have long := length_framePackage codeType buffer
    rw [ChunkQueue.length_eq_zero, ChunkQueue.bytes, List.append_eq_nil_iff,
      List.flatten_eq_nil_iff] at empty
    rw [empty.2 _ hc] at long
    simp at long
  have cut := ChunkQueue.cut_eq_nil_of_length empty
  exact congrArg₂ ChunkQueue.mk cut none

/-- An attempt that gets as far as a socket. -/
def Attempt.opens : Attempt → Bool
  | .pending | .connected | .handshaking => true
  | _ => false

namespace ConnectNode

/-! ## Setting a connection up -/

variable {e : Env} {n m : ConnectNode}

/-- The stage of the connection, with what keeps the upgrade request from being queued twice. -/
structure LedOut (n : ConnectNode) : Prop where
  led : Led n.wire
  parked : n.Parked
  pending : n.connectEvent = true → n.upgrade = none

/-- All buffers of the node are empty. -/
def Clear (n : ConnectNode) : Prop := ∀ i, (n.evBuffer i).length = 0

theorem LedOut.of_step (h : n.LedOut) (forward : Forward n m) (inv : (upgradeFirst n.upgrade).Inv m.wire) :
    m.LedOut where
  led := inv.2
  parked := forward.parked h.parked
  pending := fun event => inv.1.trans (h.pending (forward.connectEvent event))

theorem LedOut.of_wire (h : n.LedOut) (forward : Forward n m) (same : m.wire = n.wire) :
    m.LedOut :=
  h.of_step forward (by rw [same]; exact ⟨rfl, h.led⟩)

/-- The node is about to write on a connection that nothing was written on. -/
structure Opened (n : ConnectNode) : Prop where
  none : n.upgrade = none
  unwritten : n.channel.written = []
  empty : ∀ i, n.evBuffer i = ⟨[], []⟩

theorem Opened.led (h : n.Opened) : Led n.wire :=
  .unopened h.none h.unwritten (fun i => by simp [wire, h.empty i])
    (fun i c hc => by simp [wire, h.empty i] at hc)

lemma connectProcess_opened (h : n.LedOut) (clear : n.Clear) (socket : SocketState) :
    (n.connectProcess socket).Opened :=
  ⟨rfl, rfl, fun i => h.led.buffer_eq (clear i)⟩

lemma socketConnect_opened (h : n.LedOut) (clear : n.Clear) (none : n.upgrade = none)
    (socket : SocketState) : (n.socketConnect socket).Opened where
  none := none
  unwritten := by
    cases h.led with
    | unopened _ unwritten _ _ => exact unwritten
    | upgrading u queued _ => exact absurd (none.symm.trans queued) (by simp)
    | upgraded u queued _ => exact absurd (none.symm.trans queued) (by simp)
  empty := fun i => h.led.buffer_eq (clear i)

/-- The upgrade request goes into an empty buffer and is sent from it. -/
lemma requestSend_led (opened : n.Opened) (handshaking : n.workStatus = .nodeHandshaking) :
    Led (n.requestSend e).1.wire := by
  have unsent (m : ConnectNode) (same : m = n) : Led (m.nlsSendFrame e .cmd false).1.wire := by
    subst same
    simpa [nlsSendFrame, opened.empty, ChunkQueue.length] using opened.led
  simp only [requestSend, handshaking, wire_setConnectNodeStatus, gatewayRequest]
  split
  · exact unsent n rfl
  split
  · exact unsent n rfl
  split
  · exact unsent n rfl
  · rename_i request _
    let m := { n.evbufferAdd .cmd request.bytes with upgrade := some request.bytes }
    have opening : Mux.Opening m.wire.Produced request.bytes [] m.evBuffer .cmd :=
      Mux.Opening.begin request.nonempty (opened.empty .cmd) (fun i => by rw [opened.empty i])
        (fun i c hc => by simp [opened.empty i] at hc)
    have queued : (upgradeFirst (some request.bytes)).Inv m.wire :=
      ⟨rfl, .upgrading request.bytes rfl
        (show Mux.Opening _ _ n.channel.written _ _ from opened.unwritten ▸ opening)⟩
    exact (nlsSendFrame_keeps queued ⟨opening.only, request.bytes, rfl, fun _ => rfl⟩ false).2

lemma orDestroy_forward (result : ConnectNode × Ret) : Forward result.1 (orDestroy result) := by
  unfold orDestroy
  split
  · exact destroyConnectNode_forward _
  · exact Forward.refl _

lemma countConnect_forward (n : ConnectNode) : Forward n n.countConnect :=
  ⟨id, by simp [countConnect], id⟩

lemma backToConnecting_forward (n : ConnectNode) : Forward n n.backToConnecting :=
  ⟨id, by simp [backToConnecting], id⟩

lemma wire_backToConnecting (n : ConnectNode) : n.backToConnecting.wire = n.wire :=
  wire_disconnectProcess n

/-- The write that follows the handshake leaves the node handshaked. -/
lemma nodeRequestProcess_handshaked (registered : n.registered = true)
    (handshaking : n.workStatus = .nodeHandshaking) :
    (n.nodeRequestProcess e).1.workStatus ≠ .nodeHandshaking := by
  have sent : (n.requestSend e).1.workStatus = .nodeHandshaked := by
    simp [requestSend, handshaking, setConnectNodeStatus]
  simp only [nodeRequestProcess, registered, Bool.not_true, Bool.false_eq_true, if_false]
  split
  · have failed := (handlerTaskFailedEvent_reported e (n.requestSend e).1
      ((n.requestSend e).1.failedInfo (ascii "workThread Send failed."))
      NlsErrorCode.defaultErrorCode).wrote.workStatus
    rw [sent] at failed
    intro again
    rcases failed with same | closed
    · exact absurd (same.symm.trans again) (by decide)
    · exact absurd (closed.symm.trans again) (by decide)
  · rw [sent]
    decide

lemma handshake_ledOut (opened : n.Opened) (handshaking : n.workStatus = .nodeHandshaking)
    (noEvent : n.connectEvent = false) : (orDestroy (n.nodeRequestProcess e)).LedOut := by
  have forward := (nodeRequestProcess_forward e n).trans (orDestroy_forward _)
  by_cases registered : n.registered = true
  · refine LedOut.of_wire ⟨?_, ?_, ?_⟩ (orDestroy_forward _) (wire_orDestroy _)
    · rw [wire_nodeRequestProcess registered]
      exact requestSend_led opened handshaking
    · exact fun again => absurd again (nodeRequestProcess_handshaked registered handshaking)
    · intro event
      rw [(nodeRequestProcess_forward e n).connectEvent event] at noEvent
      exact absurd noEvent (by decide)
  · have same : (n.nodeRequestProcess e).1 = n := by simp [nodeRequestProcess, registered]
    refine LedOut.of_wire ⟨?_, ?_, ?_⟩ (orDestroy_forward _) (wire_orDestroy _)
    · rw [same]
      exact opened.led
    · rw [same]
      exact fun _ => by simpa using registered
    · rw [same]
      exact fun _ => opened.none

/-- The socket is a new one, or one that no upgrade request was queued for. -/
def Unused (connect : ConnectNode → SocketState → ConnectNode) (n : ConnectNode) : Prop :=
  connect = connectProcess ∨ connect = socketConnect ∧ n.upgrade = none

lemma connect_opened {connect : ConnectNode → SocketState → ConnectNode} (h : n.LedOut)
    (unused : Unused connect n) (clear : n.Clear) (socket : SocketState) :
    (connect n socket).Opened := by
  rcases unused with rfl | ⟨rfl, none⟩
  · exact connectProcess_opened h clear socket
  · exact socketConnect_opened h clear none socket

theorem connectAttempt_ledOut {connect : ConnectNode → SocketState → ConnectNode}
    (retry : ConnectNode → ConnectNode) (h : n.LedOut) (unused : Unused connect n)
    (attempt : Attempt) (clear : attempt.opens = true → n.Clear)
    (again : (retry n.backToConnecting).LedOut) :
    (n.connectAttempt e connect retry attempt).LedOut := by
  have opened := connect_opened h unused
  have parked (socket : SocketState) : (connect n socket).Parked := by
    rcases unused with rfl | ⟨rfl, -⟩ <;> exact h.parked
  have noEvent : (connect n .established).connectEvent = false := by
    rcases unused with rfl | ⟨rfl, -⟩ <;> rfl
  unfold connectAttempt
  split
  case isTrue => exact again
  case isFalse =>
    cases attempt with
    | pending =>
      have fresh := opened (clear rfl) .connecting
      exact ⟨fresh.led, parked _, fun _ => fresh.none⟩
    | connected =>
      have fresh := opened (clear rfl) .connecting
      exact ⟨fresh.led, by simp [Parked], fun _ => fresh.none⟩
    | handshaking =>
      have fresh := opened (clear rfl) .established
      exact handshake_ledOut ⟨fresh.none, fresh.unwritten, fresh.empty⟩ rfl noEvent
    | parseUrlFailed => exact again
    | invalidDnsSource => exact again
    | failed => exact again

/-- Start is sent over a connection that was kept open. -/
lemma keptStart_ledOut (h : n.LedOut) (safe : LedSafe n.wire .cmd) (type : CmdType) :
    (({ n with workStatus := .nodeStarting }.addCmdDataBuffer e type []).nlsSendFrame e .cmd
      false).1.LedOut := by
  have started : Forward n { n with workStatus := .nodeStarting } := Forward.status n (by decide)
  refine h.of_step (started.trans (addCmd_send_wrote e _ type []).forward) ?_
  exact addCmd_send_keeps (d := upgradeFirst n.upgrade)
    (n := { n with workStatus := .nodeStarting }) ⟨rfl, h.led⟩ safe type []

lemma longStart_ledOut (h : n.LedOut) (safe : LedSafe n.wire .cmd) :
    let sent := ({ n with workStatus := .nodeStarting }.addCmdDataBuffer e
      { n with workStatus := .nodeStarting }.startCommand []).nlsSendFrame e .cmd false
    (if sent.2.failed then
        ((sent.1.handlerTaskFailedEvent e sent.1.nodeErrMsg
          NlsErrorCode.defaultErrorCode).closeConnectNode, sent.2)
      else (sent.1, .ok 0)).1.LedOut := by
  have sent := keptStart_ledOut (e := e) h safe { n with workStatus := .nodeStarting }.startCommand
  dsimp only
  split
  · exact sent.of_wire ((handlerTaskFailedEvent_reported e _ _ _).forward.trans
      (closeConnectNode_forward _)) (by simp)
  · exact sent

lemma noneLeft_ledOut (h : n.LedOut) :
    ({ n with retryConnectCount := 0 }.handlerTaskFailedEvent e taskFailedConnectJsonString
      NlsErrorCode.sysConnectFailed).LedOut := by
  have counted : Forward n { n with retryConnectCount := 0 } := ⟨id, id, id⟩
  exact h.of_wire (counted.trans (handlerTaskFailedEvent_reported e _ _ _).forward) (by simp; rfl)

/-- Name resolution keeps the stages when the buffers are empty for every socket it makes and the
command buffer is safe for Start on a kept connection. -/
theorem dnsProcess_ledOut (attempts : List Attempt) (h : n.LedOut)
    (kept : n.isLongConnection = true → n.isConnected = true → LedSafe n.wire .cmd)
    (clear : (∃ a ∈ attempts, a.opens = true) → n.Clear) :
    (dnsProcess e attempts n).1.LedOut := by
  have counted := h.of_wire (countConnect_forward n) rfl
  induction attempts generalizing n with
  | nil =>
    unfold dnsProcess
    split
    · exact h
    split
    · exact h
    split
    case isTrue long => exact longStart_ledOut h (kept long.1 long.2)
    split
    · exact noneLeft_ledOut h
    · exact counted.of_wire ⟨id, id, id⟩ rfl
  | cons attempt rest ih =>
    have broken := counted.of_wire (backToConnecting_forward _) (wire_backToConnecting _)
    have resolved := ih broken (by simp [backToConnecting, disconnectProcess])
      (fun ⟨a, mem, opens⟩ => clear ⟨a, List.mem_cons_of_mem _ mem, opens⟩)
      (broken.of_wire (countConnect_forward _) rfl)
    have attempted := connectAttempt_ledOut (e := e)
      (fun n => orDestroy (dnsProcess e rest n)) counted (Or.inl rfl) attempt
      (fun opens => clear ⟨attempt, by simp, opens⟩)
      (resolved.of_wire (orDestroy_forward _) (wire_orDestroy _))
    unfold dnsProcess
    split
    · exact h
    split
    · exact h
    split
    case isTrue long => exact longStart_ledOut h (kept long.1 long.2)
    split
    · exact noneLeft_ledOut h
    · cases attempt with
      | parseUrlFailed => exact counted
      | invalidDnsSource => exact counted
      | pending => exact attempted
      | failed => exact attempted
      | connected => exact attempted
      | handshaking => exact attempted

/-! ## The callbacks that set a connection up -/

/-- The buffers are empty for every socket the step makes, and the command buffer is safe if
Start goes out on a connection kept open. -/
def ConnectsClear (e : Env) (n : ConnectNode) : Prop :=
  (n.isLongConnection = true → n.isConnected = true → LedSafe n.wire .cmd) ∧
    ((∃ a ∈ e.attempts, a.opens = true) → n.Clear)

lemma continueConnect_ledOut {connect : ConnectNode → SocketState → ConnectNode} (h : n.LedOut)
    (unused : Unused connect n) (clear : (∃ a ∈ e.attempts, a.opens = true) → n.Clear) :
    (n.continueConnect e connect).LedOut := by
  unfold continueConnect
  split
  · exact h
  · rename_i attempt rest attempts
    rw [attempts] at clear
    have broken := h.of_wire (backToConnecting_forward n) (wire_backToConnecting n)
    have resolved := dnsProcess_ledOut (e := e) rest broken
      (by simp [backToConnecting, disconnectProcess])
      (fun ⟨a, mem, opens⟩ => clear ⟨a, List.mem_cons_of_mem _ mem, opens⟩)
    exact connectAttempt_ledOut (fun n => orDestroy (dnsProcess e rest n)) h unused _
      (fun opens => clear ⟨attempt, by simp, opens⟩)
      (resolved.of_wire (orDestroy_forward _) (wire_orDestroy _))

theorem launchEventCallback_ledOut (h : n.LedOut) (clear : ConnectsClear e n) :
    (n.launchEventCallback e).LedOut := by
  have invoked : Forward n { n with workStatus := .nodeInvoked } := Forward.status n (by decide)
  simp only [launchEventCallback]
  split
  · exact h
  split
  · exact h.of_wire invoked rfl
  · have launched : LedOut
        { n with listed := true, workStatus := .nodeInvoked }.updateParameters :=
      h.of_wire ⟨id, by simp [updateParameters], id⟩ rfl
    have resolved := dnsProcess_ledOut (e := e) e.attempts launched clear.1 clear.2
    exact resolved.of_wire (orDestroy_forward _) (wire_orDestroy _)

theorem connectEventCallback_ledOut (h : n.LedOut) (none : n.upgrade = none)
    (clear : ConnectsClear e n) (timeout : Bool) : (n.connectEventCallback e timeout).LedOut := by
  have broken := h.of_wire (backToConnecting_forward n) (wire_backToConnecting n)
  have resolved := dnsProcess_ledOut (e := e) e.attempts broken
    (by simp [backToConnecting, disconnectProcess]) clear.2
  unfold connectEventCallback
  split
  · exact resolved.of_wire (orDestroy_forward _) (wire_orDestroy _)
  split
  · split
    · exact ⟨h.led, h.parked, fun _ => none⟩
    · exact continueConnect_ledOut h (Or.inr ⟨rfl, none⟩) clear.2
  · exact h

theorem dnsEventCallback_ledOut (h : n.LedOut) (clear : ConnectsClear e n) (failed : Bool) :
    (n.dnsEventCallback e failed).LedOut := by
  have connecting : LedOut { n with workStatus := .nodeConnecting } :=
    h.of_wire (Forward.status n (by decide)) rfl
  have resolved := dnsProcess_ledOut (e := e) e.attempts connecting clear.1 clear.2
  unfold dnsEventCallback
  split
  · exact h
  split
  · exact resolved.of_wire (orDestroy_forward _) (wire_orDestroy _)
  · exact continueConnect_ledOut h (Or.inl rfl) clear.2

theorem Created.ledOut (created : n.Created) : n.LedOut where
  led := by
    refine .unopened ?_ ?_ (fun i => ?_) (fun i c hc => ?_)
    · simp [wire, created.sending]
    · simp [wire, created.sending]
    · simp [wire, created.sending]
    · simp [wire, created.sending] at hc
  parked := by simp [Parked, created.workStatus]
  pending := by simp [created.events]

end ConnectNode

/-! ## Runs -/

open ConnectNode

/-- The step sets connections up over empty buffers. Otherwise it sends from no buffer while a
frame of another one is partly written, and only the upgrade request until it is out. -/
def LeadsOut (n : ConnectNode) (input : NodeInput) : Prop :=
  if input.op.opens then ConnectsClear input.env n
  else input.op.Safe (upgradeFirst none) input.env (n.withEnv input.env)

lemma opens_ledOut {n : ConnectNode} {op : NodeOp} {e : Env} (opens : op.opens = true)
    (h : n.LedOut) (clear : ConnectsClear e n) : (op.step n e).LedOut := by
  have fresh : (n.withEnv e).LedOut := h.of_wire ⟨id, id, id⟩ rfl
  cases op with
  | launchEvent =>
    simp only [NodeOp.step]
    split
    · exact launchEventCallback_ledOut (fresh.of_wire ⟨id, id, id⟩ rfl) clear
    · exact fresh
  | reconnectEvent =>
    simp only [NodeOp.step]
    split
    · exact launchEventCallback_ledOut (fresh.of_wire ⟨id, id, id⟩ rfl) clear
    · exact fresh
  | dnsEvent failed =>
    simp only [NodeOp.step]
    split
    · have answered : LedOut { n.withEnv e with dnsRequest := false } :=
        fresh.of_wire ⟨id, id, id⟩ rfl
      exact dnsEventCallback_ledOut answered clear failed
    · exact fresh
  | connectEvent timeout =>
    simp only [NodeOp.step]
    split
    · rename_i pending
      have called : LedOut { n.withEnv e with connectEvent := false } :=
        fresh.of_wire ⟨id, id, by simp⟩ rfl
      exact connectEventCallback_ledOut called (h.pending pending) clear timeout
    · exact fresh
  | start => simp [NodeOp.opens] at opens
  | sendAudio frame => simp [NodeOp.opens] at opens
  | keepAudio frame => simp [NodeOp.opens] at opens
  | cmdNotify type message => simp [NodeOp.opens] at opens
  | syncPingCmd => simp [NodeOp.opens] at opens
  | startWithPoolEvent => simp [NodeOp.opens] at opens
  | singleRoundTextEvent => simp [NodeOp.opens] at opens
  | readEvent what => simp [NodeOp.opens] at opens
  | writeEvent what => simp [NodeOp.opens] at opens

lemma nodeStep_ledOut (n : ConnectNode) (input : NodeInput) (h : n.LedOut)
    (leads : LeadsOut n input) : (nodeStep n input).LedOut := by
  unfold LeadsOut at leads
  split at leads
  case isTrue opens => exact opens_ledOut opens h leads
  case isFalse closed =>
    replace closed : input.op.opens = false := by simpa using closed
    exact h.of_step (NodeOp.step_forward closed)
      (NodeOp.step_keeps (d := upgradeFirst n.upgrade) closed h.parked ⟨rfl, h.led⟩ leads)

/-- What is written on the connection is the upgrade request made for it and frames made for it
behind. -/
def LedByUpgrade (n : ConnectNode) : Prop :=
  (n.upgrade = none → n.channel.written = []) ∧
    ∀ u, n.upgrade = some u → ∃ fs : List Bytes,
      (∀ f ∈ fs, n.wire.Produced f) ∧ n.channel.written <+: u ++ fs.flatten

lemma ConnectNode.LedOut.ledByUpgrade {n : ConnectNode} (h : n.LedOut) : LedByUpgrade n := by
  cases h.led with
  | unopened none unwritten _ _ =>
    refine ⟨fun _ => unwritten, fun u queued => ?_⟩
    exact absurd (none.symm.trans queued) (by simp)
  | upgrading u queued opening =>
    refine ⟨fun none => absurd (none.symm.trans queued) (by simp), fun u' queued' => ?_⟩
    obtain rfl : u = u' := Option.some.inj (queued.symm.trans queued')
    refine ⟨[], by simp, ?_⟩
    rw [List.flatten_nil, List.append_nil]
    exact opening.prefix
  | upgraded u queued sent =>
    refine ⟨fun none => absurd (none.symm.trans queued) (by simp), fun u' queued' => ?_⟩
    obtain rfl : u = u' := Option.some.inj (queued.symm.trans queued')
    obtain ⟨fs, produced, -, within⟩ := sent.framed
    exact ⟨fs, produced, within⟩

/-- On every connection of the node's life the upgrade request made for it comes first and only
frames made for it follow. -/
theorem connection_output {n : ConnectNode} (created : n.Created) {inputs : List NodeInput}
    (along : Along nodeStep LeadsOut n inputs) : LedByUpgrade (nodeRun n inputs) :=
  (invariant_along nodeStep_ledOut created.ledOut along).ledByUpgrade

/-! ## A connection lost after its upgrade request, and one lost inside it -/

/-- A transcription that reconnects by itself. -/
def reconnectingNode : ConnectNode where
  param := { mode := .typeRealTime, enableReconnect := true }

/-- The first connection is lost after `taken` bytes of its upgrade request, and the node
connects again. -/
def lostAndReconnected (taken : ℕ) : List NodeInput :=
  [{ op := .start },
   { op := .launchEvent
     env := { upgradeRequest := some (upgradeText "a"), attempts := [.handshaking],
              accepts := [some taken] } },
   { op := .readEvent .ready, env := { reads := [none] } },
   { op := .reconnectEvent
     env := { upgradeRequest := some (upgradeText "b"), attempts := [.handshaking] } }]

theorem reconnectingNode_created : reconnectingNode.Created := ⟨rfl, rfl, rfl, rfl, rfl⟩

/-- When the first upgrade request is out, the second connection starts with its own. -/
theorem connection_output_reconnected :
    Along nodeStep LeadsOut reconnectingNode (lostAndReconnected 15) ∧
      LedByUpgrade (nodeRun reconnectingNode (lostAndReconnected 15)) := by
  have along : Along nodeStep LeadsOut reconnectingNode (lostAndReconnected 15) := by
    refine ⟨trivial, ⟨fun long => absurd long (by decide), fun _ i => ?_⟩, fun _ i hi => ?_,
      ⟨fun long => absurd long (by decide), fun _ i => ?_⟩, trivial⟩
    · cases i <;> decide
    · exact absurd hi (by cases i <;> decide)
    · cases i <;> decide
  exact ⟨along, connection_output reconnectingNode_created along⟩

/-- The rest of the first upgrade request is the first thing the second connection is written. -/
theorem stale_upgrade_first :
    reconnectingNode.Created ∧ ¬LedByUpgrade (nodeRun reconnectingNode (lostAndReconnected 5)) := by
  refine ⟨reconnectingNode_created, fun ⟨_, led⟩ => ?_⟩
  have queued : (nodeRun reconnectingNode (lostAndReconnected 5)).upgrade =
      some (upgradeText "b").bytes := by decide
  have written : (nodeRun reconnectingNode (lostAndReconnected 5)).channel.written =
      (upgradeText "a").bytes.drop 5 ++ (upgradeText "b").bytes := by decide
  obtain ⟨fs, -, within⟩ := led _ queued
  rw [written] at within
  rcases List.prefix_or_prefix_of_prefix within (List.prefix_append _ fs.flatten) with h | h
  · exact absurd h (by decide)
  · exact absurd h (by decide)

end NlsSdk.Transport
