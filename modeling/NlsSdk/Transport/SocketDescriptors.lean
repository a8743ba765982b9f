import NlsSdk.Library.Ledger
import NlsSdk.Library.Run
import NlsSdk.Transport.Global

/-!
# The socket descriptors of the nodes

A node opens a descriptor for every attempt to connect, lends it to a slot of
the connection pool, and takes the one of a slot in exchange for its own. What
the calls of the system answer is given with each step; a descriptor is
identified by the number of its opening, not by the integer the system reuses.
-/
namespace NlsSdk.Transport

open NlsSdk.Library

/-- `_socketFd` of a node, and `socketFd` of a slot of the pool. -/
inductive Place
  | node (p : ℕ)
  | slot (i : ℕ)
  deriving DecidableEq, Repr

inductive AddressFamily
  | inet | inet6 | other
  deriving DecidableEq, Repr

/-- `connect()`: at once, later, or not at all. -/
inductive ConnectAnswer
  | connected | inProgress | refused
  deriving DecidableEq, Repr

/-- What the system answers while a node connects; the events are those `event_new` makes. -/
structure SocketAnswers where
  socket : Bool := true
  soLinger : Bool := true
  nonblocking : Bool := true
  connectEvent : Bool := true
  connectTimerEvent : Bool := true
  readEvent : Bool := true
  writeEvent : Bool := true
  inetPton : Bool := true
  /-- the code of `checkNodeExist` when it fails -/
  checkNodeExist : Option NlsRetCode := none
  connect : ConnectAnswer := .connected

/-- What closing a node depends on: whether its mutex is got in time, and `_releasingFlag`. -/
structure CloseAnswers where
  lock : Bool := true
  releasing : Bool := false

/-- The fields of a node that the functions read, but for its descriptor. -/
structure SocketNode where
  exitStatus : ExitStatus := .exitInvalid
  /-- `_sslHandle == _nativeSslHandle` -/
  native : Bool := true
  connectEvent : Bool := false
  connectTimerEvent : Bool := false
  readEvent : Bool := false
  writeEvent : Bool := false

namespace SocketNode

/-- The events that are missing are made one after the other, up to one that cannot be. -/
def newEvents (n : SocketNode) (a : SocketAnswers) : SocketNode × Bool :=
  if !(n.connectEvent || a.connectEvent) then (n, false)
  else if !(n.connectTimerEvent || a.connectTimerEvent) then
    ({ n with connectEvent := true }, false)
  else if !(n.readEvent || a.readEvent) then
    ({ n with connectEvent := true, connectTimerEvent := true }, false)
  else if !(n.writeEvent || a.writeEvent) then
    ({ n with connectEvent := true, connectTimerEvent := true, readEvent := true }, false)
  else
    ({ n with
      connectEvent := true
      connectTimerEvent := true
      readEvent := true
      writeEvent := true }, true)

/-- `connect()` on the descriptor the node has. -/
def socketConnect (n : SocketNode) (a : SocketAnswers) : Ret :=
  match a.checkNodeExist with
  | some code => .error code
  | none =>
    if n.exitStatus = .exitCancel then .error .invalidExitStatus
    else
      match a.connect with
      | .connected => .ok 0
      | .inProgress => if n.connectEvent then .ok 1 else .error .eventEmpty
      | .refused => .error .socketConnectFailed

def syncSocketConnect (n : SocketNode) (a : SocketAnswers) : Ret :=
  match a.checkNodeExist with
  | some code => .error code
  | none =>
    if n.exitStatus = .exitCancel then .error .invalidExitStatus
    else
      match a.connect with
      | .connected => .ok 0
      | .inProgress => .ok 1
      | .refused => .error .socketConnectFailed

/-- The descriptor is the node's own only behind the conversion of the address. -/
def connectProcess (n : SocketNode) (l : Ledger Place) (p : ℕ) (aiFamily : AddressFamily)
    (a : SocketAnswers) : Ledger Place × SocketNode × Ret :=
  if n.exitStatus = .exitCancel then (l, n, .error .invalidExitStatus)
  else if !a.socket then (l, n, .error .socketFailed)
  else if !a.soLinger then (l.grow, n, .error .setSocketoptFailed)
  else if !a.nonblocking then (l.grow, n, .error .evutilSocketFalied)
  else if !(n.newEvents a).2 then (l.grow, (n.newEvents a).1, .error .eventEmpty)
  else if aiFamily ≠ .other && !a.inetPton then
    (l.grow.close (some l.opened), (n.newEvents a).1, .error .setSocketoptFailed)
  else
    (l.grow.put (.node p) (some l.opened), (n.newEvents a).1, (n.newEvents a).1.socketConnect a)

def syncConnectProcess (n : SocketNode) (l : Ledger Place) (p : ℕ) (aiFamily : AddressFamily)
    (a : SocketAnswers) : Ledger Place × SocketNode × Ret :=
  if n.exitStatus = .exitCancel then (l, n, .error .invalidExitStatus)
  else if !a.socket then (l, n, .error .socketFailed)
  else if !a.soLinger then (l.grow, n, .error .setSocketoptFailed)
  else if aiFamily ≠ .other && !a.inetPton then
    (l.grow.close (some l.opened), n, .error .setSocketoptFailed)
  else (l.grow.put (.node p) (some l.opened), n, n.syncSocketConnect a)

/-- A node that is released or cancelled is left alone when its mutex cannot be got. -/
def skipsClose (n : SocketNode) (c : CloseAnswers) : Bool :=
  !c.lock && (c.releasing || n.exitStatus = .exitCancel)

/-- The descriptor is closed with the handle the node was made with. -/
def disconnectProcess (n : SocketNode) (l : Ledger Place) (p : ℕ) (c : CloseAnswers) :
    Ledger Place :=
  if n.skipsClose c then l
  else if n.native then (l.close (l.held (.node p))).put (.node p) none
  else l

def closeConnectNode (n : SocketNode) (l : Ledger Place) (p : ℕ) (c : CloseAnswers) :
    Ledger Place × SocketNode :=
  if n.skipsClose c then (l, n)
  else
    (if n.native then (l.close (l.held (.node p))).put (.node p) none else l,
      { n with
        connectEvent := false
        connectTimerEvent := false
        readEvent := false
        writeEvent := false })

end SocketNode

structure Descriptors where
  ledger : Ledger Place := {}
  nodes : ℕ → Option SocketNode := fun _ => none

/-- The functions that open, close or hand over a descriptor. -/
inductive DescriptorOp
  | newNode (p : ℕ)
  | cancel (p : ℕ)
  | connectProcess (p : ℕ) (aiFamily : AddressFamily) (a : SocketAnswers)
  | syncConnectProcess (p : ℕ) (aiFamily : AddressFamily) (a : SocketAnswers)
  | disconnectProcess (p : ℕ) (c : CloseAnswers)
  | closeConnectNode (p : ℕ) (c : CloseAnswers)
  /-- the destructor of the node -/
  | deleteNode (p : ℕ) (c : CloseAnswers)
  /-- `pushPreconnectedNode` and its like store the connection in a free slot -/
  | pushNode (p i : ℕ)
  /-- `popOnePreconnectedNode` and `popOnePrestartedNode` give the connection of a slot away -/
  | popNode (p i : ℕ)
  /-- `clearNode` and the time-outs -/
  | clearNode (i : ℕ)

namespace Descriptors

def setNode (s : Descriptors) (p : ℕ) (n : Option SocketNode) : Descriptors :=
  { s with nodes := Function.update s.nodes p n }

/-- An operation on a node there is not does nothing. -/
def onNode (s : Descriptors) (p : ℕ) (f : SocketNode → Descriptors) : Descriptors :=
  match s.nodes p with
  | some n => f n
  | none => s

def step (s : Descriptors) : DescriptorOp → Descriptors
  | .newNode p => if (s.nodes p).isSome then s else s.setNode p (some {})
  | .cancel p => s.onNode p fun n => s.setNode p (some { n with exitStatus := .exitCancel })
  | .connectProcess p aiFamily a => s.onNode p fun n =>
    { s.setNode p (some (n.connectProcess s.ledger p aiFamily a).2.1) with
      ledger := (n.connectProcess s.ledger p aiFamily a).1 }
  | .syncConnectProcess p aiFamily a => s.onNode p fun n =>
    { s.setNode p (some (n.syncConnectProcess s.ledger p aiFamily a).2.1) with
      ledger := (n.syncConnectProcess s.ledger p aiFamily a).1 }
  | .disconnectProcess p c => s.onNode p fun n =>
    { s with ledger := n.disconnectProcess s.ledger p c }
  | .closeConnectNode p c => s.onNode p fun n =>
    { s.setNode p (some (n.closeConnectNode s.ledger p c).2) with
      ledger := (n.closeConnectNode s.ledger p c).1 }
  | .deleteNode p c => s.onNode p fun n =>
    { s.setNode p none with
      ledger := (n.closeConnectNode s.ledger p c).1.put (.node p) none }
  | .pushNode p i => s.onNode p fun _ =>
    if s.ledger.held (.slot i) = none then
      { s with ledger := s.ledger.put (.slot i) (s.ledger.held (.node p)) }
    else s
  | .popNode p i => s.onNode p fun n =>
    { s.setNode p (some { n with native := false }) with
      ledger := (s.ledger.close (s.ledger.held (.node p))).put (.node p)
        (s.ledger.held (.slot i)) }
  | .clearNode i => { s with ledger := s.ledger.put (.slot i) none }

end Descriptors

namespace SocketNode

/-! ## What an attempt does with descriptors -/

/-- `socket()` is called and gives a descriptor. -/
def Opens (n : SocketNode) (a : SocketAnswers) : Prop :=
  n.exitStatus ≠ .exitCancel ∧ a.socket = true

instance (n : SocketNode) (a : SocketAnswers) : Decidable (n.Opens a) :=
  inferInstanceAs (Decidable (_ ∧ _))

/-- Nothing fails between `socket()` and the conversion of the address. -/
def Prepared (n : SocketNode) (a : SocketAnswers) : Prop :=
  a.soLinger = true ∧ a.nonblocking = true ∧ (n.newEvents a).2 = true

instance (n : SocketNode) (a : SocketAnswers) : Decidable (n.Prepared a) :=
  inferInstanceAs (Decidable (_ ∧ _ ∧ _))

def Converts (aiFamily : AddressFamily) (a : SocketAnswers) : Prop :=
  aiFamily = .other ∨ a.inetPton = true

instance (aiFamily : AddressFamily) (a : SocketAnswers) : Decidable (Converts aiFamily a) :=
  inferInstanceAs (Decidable (_ ∨ _))

/-- The descriptor is dropped, closed or made the node's own. -/
def attempt (l : Ledger Place) (p : ℕ) (prepared converts : Prop) [Decidable prepared]
    [Decidable converts] : Ledger Place :=
  if ¬prepared then l.grow
  else if ¬converts then l.grow.close (some l.opened)
  else l.grow.put (.node p) (some l.opened)

lemma connectProcess_ledger (n : SocketNode) (l : Ledger Place) (p : ℕ)
    (aiFamily : AddressFamily) (a : SocketAnswers) :
    (n.connectProcess l p aiFamily a).1 =
      if n.Opens a then attempt l p (n.Prepared a) (Converts aiFamily a) else l := by
  unfold connectProcess attempt Opens Prepared Converts
  by_cases cancelled : n.exitStatus = .exitCancel
  · simp [cancelled]
  by_cases socket : a.socket = true
  swap
  · simp [cancelled, socket]
  by_cases soLinger : a.soLinger = true
  swap
  · simp [cancelled, socket, soLinger]
  by_cases nonblocking : a.nonblocking = true
  swap
  · simp [cancelled, socket, soLinger, nonblocking]
  by_cases events : (n.newEvents a).2 = true
  swap
  · simp [cancelled, socket, soLinger, nonblocking, events]
  by_cases family : aiFamily = .other <;> by_cases inetPton : a.inetPton = true <;>
    simp [cancelled, socket, soLinger, nonblocking, events, family, inetPton]

lemma syncConnectProcess_ledger (n : SocketNode) (l : Ledger Place) (p : ℕ)
    (aiFamily : AddressFamily) (a : SocketAnswers) :
    (n.syncConnectProcess l p aiFamily a).1 =
      if n.Opens a then attempt l p (a.soLinger = true) (Converts aiFamily a) else l := by
  unfold syncConnectProcess attempt Opens Converts
  by_cases cancelled : n.exitStatus = .exitCancel
  · simp [cancelled]
  by_cases socket : a.socket = true
  swap
  · simp [cancelled, socket]
  by_cases soLinger : a.soLinger = true
  swap
  · simp [cancelled, socket, soLinger]
  by_cases family : aiFamily = .other <;> by_cases inetPton : a.inetPton = true <;>
    simp [cancelled, socket, soLinger, family, inetPton]

lemma attempt_sound {l : Ledger Place} (sound : l.Sound) (p : ℕ) (prepared converts : Prop)
    [Decidable prepared] [Decidable converts] : (attempt l p prepared converts).Sound := by
  have newest (k : ℕ) (new : some l.opened = some k) : k < l.grow.opened := by
    cases new
    exact Nat.lt_succ_self _
  unfold attempt
  split
  · exact sound.grow
  split
  · exact sound.grow.close newest
  · exact sound.grow.put newest

lemma attempt_accounted {l : Ledger Place} (sound : l.Sound) (accounted : l.Accounted) (p : ℕ)
    (prepared converts : Prop) [Decidable prepared] [Decidable converts] :
    (attempt l p prepared converts).Accounted ↔
      prepared ∧ (converts → l.Spare (.node p)) := by
  unfold attempt
  split
  · next unprepared =>
    exact iff_of_false (Ledger.not_accounted_grow sound) fun holds => unprepared holds.1
  · next prepared =>
    rw [not_not] at prepared
    split
    · next unconverted =>
      refine iff_of_true (Ledger.accounted_spend sound accounted) ⟨prepared, fun converts => ?_⟩
      exact absurd converts unconverted
    · next converts =>
      rw [not_not] at converts
      rw [Ledger.accounted_acquire sound accounted]
      exact ⟨fun spare => ⟨prepared, fun _ => spare⟩, fun kept => kept.2 converts⟩

/-! ## What closing does -/

/-- The descriptor of the node is closed. -/
def Closes (n : SocketNode) (c : CloseAnswers) : Prop :=
  n.skipsClose c = false ∧ n.native = true

instance (n : SocketNode) (c : CloseAnswers) : Decidable (n.Closes c) :=
  inferInstanceAs (Decidable (_ ∧ _))

lemma disconnectProcess_ledger (n : SocketNode) (l : Ledger Place) (p : ℕ) (c : CloseAnswers) :
    n.disconnectProcess l p c =
      if n.Closes c then (l.close (l.held (.node p))).put (.node p) none else l := by
  unfold disconnectProcess Closes
  by_cases skips : n.skipsClose c = true <;> by_cases native : n.native = true <;>
    simp [skips, native]

lemma closeConnectNode_ledger (n : SocketNode) (l : Ledger Place) (p : ℕ) (c : CloseAnswers) :
    (n.closeConnectNode l p c).1 =
      if n.Closes c then (l.close (l.held (.node p))).put (.node p) none else l := by
  unfold closeConnectNode Closes
  by_cases skips : n.skipsClose c = true <;> by_cases native : n.native = true <;>
    simp [skips, native]

lemma closed_sound {l : Ledger Place} (sound : l.Sound) (p : ℕ) (closes : Prop)
    [Decidable closes] :
    (if closes then (l.close (l.held (.node p))).put (.node p) none else l).Sound := by
  split
  · exact (sound.close_held (.node p)).put_none (.node p)
  · exact sound

lemma closed_accounted {l : Ledger Place} (sound : l.Sound) (accounted : l.Accounted) (p : ℕ)
    (closes : Prop) [Decidable closes] :
    (if closes then (l.close (l.held (.node p))).put (.node p) none else l).Accounted ↔
      (closes → l.Unclosed (.node p)) := by
  split
  · next closes =>
    rw [Ledger.accounted_replace sound accounted]
    exact ⟨fun unclosed _ => unclosed, fun unclosed => unclosed closes⟩
  · next open_ => exact iff_of_true accounted fun closes => absurd closes open_

end SocketNode

namespace Descriptors

/-! ## One step -/

/-- What a step must not do: drop a descriptor that is only held here, or close one again. -/
def Kept (s : Descriptors) : DescriptorOp → Prop
  | .connectProcess p aiFamily a => ∀ n, s.nodes p = some n → n.Opens a →
    n.Prepared a ∧ (SocketNode.Converts aiFamily a → s.ledger.Spare (.node p))
  | .syncConnectProcess p aiFamily a => ∀ n, s.nodes p = some n → n.Opens a →
    a.soLinger = true ∧ (SocketNode.Converts aiFamily a → s.ledger.Spare (.node p))
  | .disconnectProcess p c | .closeConnectNode p c => ∀ n, s.nodes p = some n → n.Closes c →
    s.ledger.Unclosed (.node p)
  | .deleteNode p c => ∀ n, s.nodes p = some n →
    if n.Closes c then s.ledger.Unclosed (.node p) else s.ledger.Spare (.node p)
  | .popNode p _ => ∀ n, s.nodes p = some n → s.ledger.Unclosed (.node p)
  | .clearNode i => s.ledger.Spare (.slot i)
  | .newNode _ | .cancel _ | .pushNode _ _ => True

lemma onNode_sound {s : Descriptors} (sound : s.ledger.Sound) {p : ℕ}
    {f : SocketNode → Descriptors} (each : ∀ n, s.nodes p = some n → (f n).ledger.Sound) :
    (s.onNode p f).ledger.Sound := by
  unfold onNode
  split
  · next n found => exact each n found
  · exact sound

lemma onNode_accounted {s : Descriptors} (accounted : s.ledger.Accounted) {p : ℕ}
    {f : SocketNode → Descriptors} {K : SocketNode → Prop}
    (each : ∀ n, s.nodes p = some n → ((f n).ledger.Accounted ↔ K n)) :
    (s.onNode p f).ledger.Accounted ↔ ∀ n, s.nodes p = some n → K n := by
  unfold onNode
  cases found : s.nodes p with
  | none => exact iff_of_true accounted fun n other => by cases other
  | some n =>
    change (f n).ledger.Accounted ↔ _
    rw [each n found]
    exact ⟨fun kept m same => Option.some.inj same ▸ kept, fun kept => kept n rfl⟩

theorem step_sound {s : Descriptors} (sound : s.ledger.Sound) (op : DescriptorOp) :
    (s.step op).ledger.Sound := by
  cases op with
  | newNode p =>
    simp only [step]
    split <;> exact sound
  | cancel p => exact onNode_sound sound fun n _ => sound
  | connectProcess p aiFamily a =>
    refine onNode_sound sound fun n _ => ?_
    change (n.connectProcess s.ledger p aiFamily a).1.Sound
    rw [SocketNode.connectProcess_ledger]
    split
    · exact SocketNode.attempt_sound sound p _ _
    · exact sound
  | syncConnectProcess p aiFamily a =>
    refine onNode_sound sound fun n _ => ?_
    change (n.syncConnectProcess s.ledger p aiFamily a).1.Sound
    rw [SocketNode.syncConnectProcess_ledger]
    split
    · exact SocketNode.attempt_sound sound p _ _
    · exact sound
  | disconnectProcess p c =>
    refine onNode_sound sound fun n _ => ?_
    change (n.disconnectProcess s.ledger p c).Sound
    rw [SocketNode.disconnectProcess_ledger]
    exact SocketNode.closed_sound sound p _
  | closeConnectNode p c =>
    refine onNode_sound sound fun n _ => ?_
    change (n.closeConnectNode s.ledger p c).1.Sound
    rw [SocketNode.closeConnectNode_ledger]
    exact SocketNode.closed_sound sound p _
  | deleteNode p c =>
    refine onNode_sound sound fun n _ => ?_
    change ((n.closeConnectNode s.ledger p c).1.put (.node p) none).Sound
    rw [SocketNode.closeConnectNode_ledger]
    exact (SocketNode.closed_sound sound p _).put_none _
  | pushNode p i =>
    refine onNode_sound sound fun n _ => ?_
    split
    · exact sound.put (sound.held (.node p))
    · exact sound
  | popNode p i =>
    refine onNode_sound sound fun n _ => ?_
    refine (sound.close_held (.node p)).put fun k holds => ?_
    rw [Ledger.close_opened]
    exact sound.held (.slot i) k holds
  | clearNode i => exact sound.put_none (.slot i)

/-- A step keeps the accounts exactly when it neither drops nor closes what it must not. -/
theorem step_accounted {s : Descriptors} (sound : s.ledger.Sound)
    (accounted : s.ledger.Accounted) (op : DescriptorOp) :
    (s.step op).ledger.Accounted ↔ s.Kept op := by
  cases op with
  | newNode p =>
    refine iff_of_true ?_ trivial
    simp only [step]
    split <;> exact accounted
  | cancel p =>
    refine iff_of_true ?_ trivial
    simp only [step, onNode]
    split <;> exact accounted
  | connectProcess p aiFamily a =>
    refine onNode_accounted accounted fun n _ => ?_
    change (n.connectProcess s.ledger p aiFamily a).1.Accounted ↔ _
    rw [SocketNode.connectProcess_ledger]
    split
    · next opens =>
      rw [SocketNode.attempt_accounted sound accounted]
      exact ⟨fun kept _ => kept, fun kept => kept opens⟩
    · next unopened => exact iff_of_true accounted fun opens => absurd opens unopened
  | syncConnectProcess p aiFamily a =>
    refine onNode_accounted accounted fun n _ => ?_
    change (n.syncConnectProcess s.ledger p aiFamily a).1.Accounted ↔ _
    rw [SocketNode.syncConnectProcess_ledger]
    split
    · next opens =>
      rw [SocketNode.attempt_accounted sound accounted]
      exact ⟨fun kept _ => kept, fun kept => kept opens⟩
    · next unopened => exact iff_of_true accounted fun opens => absurd opens unopened
  | disconnectProcess p c =>
    refine onNode_accounted accounted fun n _ => ?_
    change (n.disconnectProcess s.ledger p c).Accounted ↔ _
    rw [SocketNode.disconnectProcess_ledger]
    exact SocketNode.closed_accounted sound accounted p _
  | closeConnectNode p c =>
    refine onNode_accounted accounted fun n _ => ?_
    change (n.closeConnectNode s.ledger p c).1.Accounted ↔ _
    rw [SocketNode.closeConnectNode_ledger]
    exact SocketNode.closed_accounted sound accounted p _
  | deleteNode p c =>
    refine onNode_accounted accounted fun n _ => ?_
    change ((n.closeConnectNode s.ledger p c).1.put (.node p) none).Accounted ↔ _
    rw [SocketNode.closeConnectNode_ledger]
    split
    · next closes =>
      rw [Ledger.put_put, Ledger.accounted_replace sound accounted]
    · exact Ledger.accounted_forget sound accounted _
  | pushNode p i =>
    refine iff_of_true ?_ trivial
    simp only [step, onNode]
    split
    · split
      · next free => exact Ledger.accounted_share accounted free _
      · exact accounted
    · exact accounted
  | popNode p i =>
    refine onNode_accounted accounted fun n _ => ?_
    exact Ledger.accounted_replace sound accounted _ _
  | clearNode i => exact Ledger.accounted_forget sound accounted _

/-! ## Whole runs -/

lemma empty_sound : Ledger.Sound (ν := Place) {} :=
  ⟨fun _ _ holds => absurd holds (Option.some_ne_none _).symm, fun _ _ => rfl⟩

/-- In every run each descriptor is a node's, a slot's or closed once, up to the first step that
drops the only place of one or closes one again. -/
theorem descriptors_accounted (ops : List DescriptorOp) :
    (∀ before, before <+: ops → (run step {} before).ledger.Accounted) ↔
      Along step Kept {} ops := by
  have start : Ledger.Sound ({} : Descriptors).ledger ∧ ({} : Descriptors).ledger.Accounted :=
    ⟨empty_sound, fun h bound => absurd bound (Nat.not_lt_zero h)⟩
  rw [← along_iff_invariant (I := fun s => s.ledger.Sound ∧ s.ledger.Accounted) ?_ start]
  · refine ⟨fun always before part => ⟨?_, always before part⟩, fun always before part =>
      (always before part).2⟩
    exact invariant_run (I := fun s : Descriptors => s.ledger.Sound)
      (fun s op sound => step_sound sound op) start.1 before
  · rintro s op ⟨sound, accounted⟩
    rw [← step_accounted sound accounted op]
    exact ⟨And.right, fun after => ⟨step_sound sound op, after⟩⟩

/-! ## A node that retries with its own handle -/

/-- A failed attempt of `directConnect` or of the callback of the name resolution. -/
def failedAttempt (p : ℕ) (a : AddressFamily × SocketAnswers) : List DescriptorOp :=
  [.connectProcess p a.1 a.2, .disconnectProcess p {}]

lemma newEvents_made (n : SocketNode) {a : SocketAnswers}
    (makes : a.connectEvent ∧ a.connectTimerEvent ∧ a.readEvent ∧ a.writeEvent) :
    (n.newEvents a).2 = true := by
  obtain ⟨connect, timer, read, write⟩ := makes
  simp [SocketNode.newEvents, connect, timer, read, write]

lemma newEvents_native (n : SocketNode) (a : SocketAnswers) :
    (n.newEvents a).1.native = n.native := by
  unfold SocketNode.newEvents
  split_ifs <;> rfl

lemma connectProcess_native (n : SocketNode) (l : Ledger Place) (p : ℕ)
    (aiFamily : AddressFamily) (a : SocketAnswers) :
    (n.connectProcess l p aiFamily a).2.1.native = n.native := by
  unfold SocketNode.connectProcess
  split_ifs <;> first | rfl | exact newEvents_native n a

lemma attempt_unclosed {l : Ledger Place} (sound : l.Sound) {p : ℕ}
    (free : l.held (.node p) = none) (prepared converts : Prop) [Decidable prepared]
    [Decidable converts] :
    (SocketNode.attempt l p prepared converts).Unclosed (.node p) := by
  intro k holds
  unfold SocketNode.attempt at holds ⊢
  split at holds
  · exact absurd (free.symm.trans holds) (Option.some_ne_none k).symm
  · split at holds
    · rw [Ledger.close_held] at holds
      exact absurd (free.symm.trans holds) (Option.some_ne_none k).symm
    · next prepared converts =>
      rw [Ledger.put_held_self] at holds
      rw [if_neg prepared, if_neg converts, ← Option.some.inj holds]
      exact sound.closes _ le_rfl

/-- However its attempts fail in `connect()` or in the conversion of the address, a node that closes
its own descriptors keeps the accounts over all retries. -/
theorem retries_kept {s : Descriptors} (sound : s.ledger.Sound) {p : ℕ} {n : SocketNode}
    (found : s.nodes p = some n) (native : n.native = true)
    (free : s.ledger.held (.node p) = none) {answers : List (AddressFamily × SocketAnswers)}
    (prepared : ∀ a ∈ answers, a.2.soLinger ∧ a.2.nonblocking ∧
      (a.2.connectEvent ∧ a.2.connectTimerEvent ∧ a.2.readEvent ∧ a.2.writeEvent)) :
    Along step Kept s (answers.flatMap (failedAttempt p)) := by
  induction answers generalizing s n with
  | nil => trivial
  | cons a answers ih =>
    obtain ⟨aiFamily, a⟩ := a
    obtain ⟨soLinger, nonblocking, makes⟩ := prepared _ List.mem_cons_self
    let s₁ := s.step (.connectProcess p aiFamily a)
    have first : s₁ = { s.setNode p (some (n.connectProcess s.ledger p aiFamily a).2.1) with
        ledger := (n.connectProcess s.ledger p aiFamily a).1 } := by
      simp only [s₁, step, onNode, found]
    have found₁ : s₁.nodes p = some (n.connectProcess s.ledger p aiFamily a).2.1 := by
      rw [first]
      exact Function.update_self ..
    have native₁ := (connectProcess_native n s.ledger p aiFamily a).trans native
    have unclosed : s₁.ledger.Unclosed (.node p) := by
      rw [first]
      change (n.connectProcess s.ledger p aiFamily a).1.Unclosed (.node p)
      rw [SocketNode.connectProcess_ledger]
      split
      · exact attempt_unclosed sound free _ _
      · intro k holds
        exact absurd (free.symm.trans holds) (Option.some_ne_none k).symm
    let s₂ := s₁.step (.disconnectProcess p {})
    have second : s₂.nodes = s₁.nodes ∧ s₂.ledger.held (.node p) = none := by
      simp only [s₂, step, onNode, found₁, SocketNode.disconnectProcess_ledger]
      rw [if_pos ⟨rfl, native₁⟩]
      exact ⟨trivial, Ledger.put_held_self ..⟩
    refine ⟨fun m same opens => ?_, fun m _ _ => unclosed, ?_⟩
    · refine ⟨⟨soLinger, nonblocking, newEvents_made m makes⟩, fun _ k holds => ?_⟩
      exact absurd (free.symm.trans holds) (Option.some_ne_none k).symm
    · refine ih (step_sound (step_sound sound _) _) ((congrFun second.1 p).trans found₁) native₁
        second.2 fun a member => prepared a (List.mem_cons_of_mem _ member)

/-- A node whose `setsockopt` fails. -/
def lingerFails : List DescriptorOp :=
  [.newNode 0, .connectProcess 0 .inet { soLinger := false }]

/-- A node takes the connection of a slot, loses it, and connects again twice. -/
def retriesTaken : List DescriptorOp :=
  [.newNode 0, .connectProcess 0 .inet {}, .pushNode 0 0, .newNode 1, .popNode 1 0,
    .disconnectProcess 1 {}, .connectProcess 1 .inet { connect := .refused },
    .disconnectProcess 1 {}, .connectProcess 1 .inet {}]

/-- The descriptor of the failed attempt is neither held nor closed in the end. -/
theorem descriptor_lost :
    ¬(run step {} lingerFails).ledger.Accounted ∧ ¬(run step {} retriesTaken).ledger.Accounted := by
  constructor
  · intro accounted
    rcases accounted 0 (by decide) with once | ⟨-, v, holds⟩
    · cases once
    · cases holds
  · intro accounted
    rcases accounted 1 (by decide) with once | ⟨-, v, holds⟩
    · revert once
      decide
    · revert holds
      cases v with
      | node p =>
        rcases p with - | - | p
        · decide
        · decide
        · exact fun holds => absurd (show none = some 1 from holds) (by decide)
      | slot i =>
        rcases i with - | i
        · decide
        · exact fun holds => absurd (show none = some 1 from holds) (by decide)

end Descriptors

end NlsSdk.Transport
