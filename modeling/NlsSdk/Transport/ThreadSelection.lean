import Mathlib.Data.Int.CardIntervalMod
import NlsSdk.Transport.StartCall

/-!
# The work threads

`initEventNetWork` allocates the work threads, and the first `start` of a request selects the
thread it stays with. `threads_shared` says how the requests of a process are spread over them.
-/
namespace NlsSdk.Transport

open NlsSdk.Library ConnectNode

structure NlsEventNetWork where
  /-- The threads allocated; absent is the null pointer. -/
  workThreadArray : Option ℕ := none
  workThreadsNumber : ℕ := 0
  currentCpuNumber : ℕ := 0

namespace NlsEventNetWork

/-- The threads asked for, or one for each processor. -/
def initEventNetWork (net : NlsEventNetWork) (count : ℤ) (cpuNumber : ℕ) : NlsEventNetWork :=
  let number := if count ≤ 0 then cpuNumber else count.toNat
  { net with workThreadArray := some number, workThreadsNumber := number }

def selectThreadNumber (net : NlsEventNetWork) : ℤ × NlsEventNetWork :=
  if net.workThreadArray.isSome then
    (net.currentCpuNumber,
      { net with
        currentCpuNumber :=
          if net.currentCpuNumber + 1 = net.workThreadsNumber then 0
          else net.currentCpuNumber + 1 })
  else (-1, net)

end NlsEventNetWork

namespace NlsRequest

/-- `startInner` of a request the pool starts for itself: no event is added. -/
def startInner (eventClient hasPool : Bool) (selected : ℤ) (r : NlsRequest) : NlsRequest :=
  if !eventClient then r
  else
    let node := r.node.usePool hasPool
    if node.workStatus = .nodeCreated ∧ node.exitStatus = .exitInvalid then
      let node := node.setConnectNodeStatus .nodeInvoking
      let num := if r.threadNumber < 0 then selected else r.threadNumber
      if num < 0 then { r with node := node.setConnectNodeStatus .nodeCreated }
      else { node := { node with nlsEncoder := node.param.encodedFormat }, threadNumber := num }
    else if node.exitStatus = .exitInvalid ∧ node.isInvoked then { r with node := node }
    else { r with node := node.setConnectNodeStatus .nodeCreated }

/-- A call gets as far as the thread of the node, and the request has none. -/
def Selects (eventClient : Bool) (node : ConnectNode) (r : NlsRequest) : Prop :=
  eventClient = true ∧ node.workStatus = .nodeCreated ∧ node.exitStatus = .exitInvalid ∧
    r.threadNumber < 0

instance (eventClient : Bool) (node : ConnectNode) (r : NlsRequest) :
    Decidable (r.Selects eventClient node) :=
  inferInstanceAs (Decidable (_ ∧ _))

/-- A start leaves the thread of a request alone, or gives it the one it selects. -/
lemma start_threadNumber (o : StartOutcome) (r : NlsRequest) :
    (r.start o).1.threadNumber = r.threadNumber ∨ (r.start o).1.threadNumber = o.selected := by
  unfold start
  split
  · exact .inl rfl
  dsimp only
  split
  · rcases lt_or_ge r.threadNumber 0 with fresh | chosen
    · rw [if_pos fresh]
      split_ifs
      · exact .inl rfl
      all_goals exact .inr rfl
    · simp only [if_neg (not_lt.mpr chosen)]
      split_ifs
      all_goals exact .inl rfl
  split_ifs
  all_goals exact .inl rfl

lemma startInner_threadNumber (eventClient hasPool : Bool) (selected : ℤ) (r : NlsRequest) :
    (r.startInner eventClient hasPool selected).threadNumber = r.threadNumber ∨
      (r.startInner eventClient hasPool selected).threadNumber = selected := by
  unfold startInner
  split
  · exact .inl rfl
  dsimp only
  split
  · rcases lt_or_ge r.threadNumber 0 with fresh | chosen
    · rw [if_pos fresh]
      split
      · exact .inl rfl
      · exact .inr rfl
    · simp only [if_neg (not_lt.mpr chosen), true_or]
  split_ifs
  all_goals exact .inl rfl

end NlsRequest

/-- A process with its requests, and the threads that were selected so far. -/
structure Dispatch where
  net : NlsEventNetWork
  requests : ℕ → Option NlsRequest := fun _ => none
  selected : List ℤ := []

inductive DispatchOp
  | create (request : ℕ) (param : RequestParam) (isLongConnection : Bool)
  | start (request : ℕ) (o : StartOutcome)
  | startInner (request : ℕ) (eventClient hasPool : Bool)
  | step (request : ℕ) (input : NodeInput)
  | release (request : ℕ)

namespace Dispatch

def set (s : Dispatch) (request : ℕ) (r : Option NlsRequest) : Dispatch :=
  { s with requests := fun i => if i = request then r else s.requests i }

/-- A request is started with the next thread, which is taken if the start selects one. -/
def place (s : Dispatch) (request : ℕ) (selects : Bool) (started : ℤ → NlsRequest) : Dispatch :=
  let select := s.net.selectThreadNumber
  let placed := s.set request (some (started select.1))
  if selects then { placed with net := select.2, selected := s.selected ++ [select.1] } else placed

def step (s : Dispatch) : DispatchOp → Dispatch
  | .create request param isLongConnection =>
    if (s.requests request).isSome then s
    else s.set request (some (.create param isLongConnection))
  | .start request o =>
    (s.requests request).elim s fun r =>
      s.place request (r.Selects o.eventClient (r.node.usePool o.hasPool).resetClosed)
        fun number => (r.start { o with selected := number }).1
  | .startInner request eventClient hasPool =>
    (s.requests request).elim s fun r =>
      s.place request (r.Selects eventClient (r.node.usePool hasPool))
        fun number => r.startInner eventClient hasPool number
  | .step request input =>
    (s.requests request).elim s fun r =>
      s.set request (some { r with node := nodeStep r.node input })
  | .release request => s.set request none

/-- The threads were selected in turn, and every request has one of them or none yet. -/
structure InTurn (number : ℕ) (s : Dispatch) : Prop where
  array : s.net.workThreadArray = some number
  size : s.net.workThreadsNumber = number
  next : s.net.currentCpuNumber = s.selected.length % number
  selected : s.selected = (List.range s.selected.length).map fun k => ((k % number : ℕ) : ℤ)
  within : ∀ request r, s.requests request = some r → r.threadNumber < number

variable {s : Dispatch} {number : ℕ}

lemma selected_next (number : ℕ) (positive : 0 < number) (k : ℕ) :
    (if k % number + 1 = number then 0 else k % number + 1) = (k + 1) % number := by
  have below := Nat.mod_lt k positive
  rw [← Nat.mod_add_mod]
  split
  · rename_i last
    rw [last, Nat.mod_self]
  · exact (Nat.mod_eq_of_lt (by omega)).symm

lemma InTurn.set (turn : s.InTurn number) {request : ℕ} {r : Option NlsRequest}
    (within : ∀ q, r = some q → q.threadNumber < number) : (s.set request r).InTurn number where
  array := turn.array
  size := turn.size
  next := turn.next
  selected := turn.selected
  within := fun i q is => by
    simp only [Dispatch.set] at is
    split at is
    · exact within q is
    · exact turn.within i q is

lemma InTurn.place (positive : 0 < number) (turn : s.InTurn number) {request : ℕ}
    {r : NlsRequest} (present : s.requests request = some r) (selects : Bool)
    {started : ℤ → NlsRequest} (one : ∀ selected, (started selected).threadNumber = r.threadNumber ∨
      (started selected).threadNumber = selected) :
    (s.place request selects started).InTurn number := by
  have below := Nat.mod_lt s.selected.length positive
  have chosen : s.net.selectThreadNumber = (((s.selected.length % number : ℕ) : ℤ),
      { s.net with currentCpuNumber := (s.selected.length + 1) % number }) := by
    unfold NlsEventNetWork.selectThreadNumber
    rw [if_pos (by simp [turn.array]), turn.size, turn.next, selected_next number positive]
    simp only [turn.size]
  have placed : (s.set request (some (started s.net.selectThreadNumber.1))).InTurn number := by
    refine turn.set fun q is => ?_
    obtain rfl := Option.some.inj is
    rcases one s.net.selectThreadNumber.1 with kept | selected
    · rw [kept]
      exact turn.within request r present
    · rw [selected, chosen]
      dsimp only
      omega
  unfold Dispatch.place
  dsimp only
  split
  · refine ⟨?_, ?_, ?_, ?_, placed.within⟩
    · rw [chosen]
      exact turn.array
    · rw [chosen]
      exact turn.size
    · rw [chosen, List.length_append, List.length_singleton]
    · rw [chosen, List.length_append, List.length_singleton, List.range_succ, List.map_append,
        ← turn.selected]
      rfl
  · exact placed

theorem InTurn.step (positive : 0 < number) (turn : s.InTurn number) (op : DispatchOp) :
    (s.step op).InTurn number := by
  cases op with
  | create request param isLongConnection =>
    simp only [Dispatch.step]
    split
    · exact turn
    · refine turn.set fun q is => ?_
      obtain rfl := Option.some.inj is
      simp only [NlsRequest.create]
      omega
  | start request o =>
    simp only [Dispatch.step]
    cases present : s.requests request with
    | none => exact turn
    | some r =>
      exact turn.place positive present _ fun selected =>
        NlsRequest.start_threadNumber { o with selected := selected } r
  | startInner request eventClient hasPool =>
    simp only [Dispatch.step]
    cases present : s.requests request with
    | none => exact turn
    | some r =>
      exact turn.place positive present _ fun selected =>
        NlsRequest.startInner_threadNumber eventClient hasPool selected r
  | step request input =>
    simp only [Dispatch.step]
    cases present : s.requests request with
    | none => exact turn
    | some r =>
      refine turn.set fun q is => ?_
      obtain rfl := Option.some.inj is
      exact turn.within request r present
  | release request => exact turn.set fun q is => by cases is

/-- How often a number comes up in turn. -/
lemma count_turns {number thread : ℕ} (allocated : thread < number) (k : ℕ) :
    ((List.range k).map fun j => ((j % number : ℕ) : ℤ)).count (thread : ℤ) =
      k / number + if thread < k % number then 1 else 0 := by
  have counted := Nat.count_modEq_card k (by omega) thread (r := number)
  rw [Nat.mod_eq_of_lt allocated] at counted
  rw [← counted, List.count, List.countP_map, Nat.count]
  refine List.countP_congr fun j _ => ?_
  simp only [Function.comp_apply, beq_iff_eq, decide_eq_true_eq, Nat.ModEq,
    Nat.mod_eq_of_lt allocated, Nat.cast_inj]

end Dispatch

open Dispatch

/-- However requests are created, started, driven and released, after `k` selections a thread was
selected `k / number` times, and once more if it is among the first `k % number`; and no request
has a thread that was not allocated. -/
theorem threads_shared {count : ℤ} {cpuNumber : ℕ} (positive : 0 < cpuNumber)
    (ops : List DispatchOp) :
    let net := NlsEventNetWork.initEventNetWork {} count cpuNumber
    let s := run Dispatch.step { net := net } ops
    (∀ thread < net.workThreadsNumber, s.selected.count (thread : ℤ) =
      s.selected.length / net.workThreadsNumber +
        if thread < s.selected.length % net.workThreadsNumber then 1 else 0) ∧
    ∀ request r, s.requests request = some r → r.threadNumber < net.workThreadsNumber := by
  dsimp only
  generalize hn : (NlsEventNetWork.initEventNetWork {} count cpuNumber).workThreadsNumber = number
  have some : 0 < number := by
    rw [← hn]
    unfold NlsEventNetWork.initEventNetWork
    dsimp only
    split
    · exact positive
    · omega
  have begins : InTurn number { net := NlsEventNetWork.initEventNetWork {} count cpuNumber } :=
    ⟨congrArg _ hn, hn, (Nat.zero_mod number).symm, rfl, fun _ _ is => by cases is⟩
  have turn := invariant_run (fun m op turn => InTurn.step (s := m) some turn op) begins ops
  refine ⟨fun thread allocated => ?_, turn.within⟩
  rw [turn.selected, count_turns allocated, List.length_map, List.length_range]

/-- Two requests share three threads. -/
theorem threads_shared_two :
    let net := NlsEventNetWork.initEventNetWork {} 3 1
    let s := run Dispatch.step { net := net }
      [.create 0 {} false, .start 0 {}, .create 1 {} false, .start 1 {}]
    (∀ thread < net.workThreadsNumber, s.selected.count (thread : ℤ) =
      s.selected.length / net.workThreadsNumber +
        if thread < s.selected.length % net.workThreadsNumber then 1 else 0) ∧
    ∀ request r, s.requests request = some r → r.threadNumber < net.workThreadsNumber :=
  threads_shared (by decide) _

end NlsSdk.Transport
