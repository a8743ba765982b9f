import NlsSdk.Framework.NlsRequestParam
import NlsSdk.Library.Run

/-!
# Task ids over the sessions of a request

A start command draws a new id only when the current one is the one of the last
start. An id the server supplied in between is taken for a new one, so the next
session starts with it. The ids stay fresh as long as every Started event names
the id the session was started with.
-/
namespace NlsSdk.Framework

open Library
open Transport (Bytes ascii)

/-- A request with the ids its start commands carried and the server supplied, and the id of the
session under way. -/
structure TaskIdHistory where
  param : NlsRequestParam := {}
  used : List Bytes := []
  current : Option Bytes := none

/-- The commands of a request, of either service, and the Started events of its sessions. -/
inductive TaskIdOp
  | getStartCommand (name : Bytes) (uuids : Uuids)
  | dashStartCommand (payload : Members) (uuids : Uuids)
  | getControlCommand (name : Bytes) (message : Option Json) (messageId : Bytes)
  | getStopCommand (name messageId : Bytes)
  | dashCommand (action : Bytes) (payload : Members)
  | started (taskId : Bytes)

namespace TaskIdHistory

/-- The command an operation makes. -/
def command (s : TaskIdHistory) : TaskIdOp → Option Json
  | .getStartCommand name uuids => some (s.param.getStartCommand name uuids).1
  | .dashStartCommand payload uuids => some (s.param.dashStartCommand payload uuids).1
  | .getControlCommand name message messageId =>
    (s.param.getControlCommand name message messageId).1
  | .getStopCommand name messageId => some (s.param.getStopCommand name messageId).1
  | .dashCommand action payload => some (s.param.dashCommand action payload)
  | .started _ => none

/-- A session starts with the id of its command. -/
def begin (s : TaskIdHistory) (param : NlsRequestParam) (uuids : Uuids) : TaskIdHistory where
  param := param
  used := s.param.startTaskId uuids :: s.used
  current := some (s.param.startTaskId uuids)

/-- An id the server supplies becomes the one of the session. -/
def supply (s : TaskIdHistory) (taskId : Bytes) : TaskIdHistory where
  param := s.param.setTaskId taskId
  used := taskId :: s.used
  current := s.current.map fun _ => taskId

/-- A Started event without an id changes nothing. -/
def step (s : TaskIdHistory) : TaskIdOp → TaskIdHistory
  | .getStartCommand name uuids => s.begin (s.param.getStartCommand name uuids).2 uuids
  | .dashStartCommand payload uuids => s.begin (s.param.dashStartCommand payload uuids).2 uuids
  | .getControlCommand name message messageId =>
    { s with param := (s.param.getControlCommand name message messageId).2 }
  | .getStopCommand name messageId =>
    { s with param := (s.param.getStopCommand name messageId).2 }
  | .dashCommand _ _ => s
  | .started taskId => if taskId = [] then s else s.supply taskId

/-- `getRandomUuid` returns no id that was used before. -/
def FreshUuids (s : TaskIdHistory) : TaskIdOp → Prop
  | .getStartCommand _ uuids | .dashStartCommand _ uuids =>
    uuids.fresh ∉ s.used ∧ uuids.again ∉ s.used
  | _ => True

/-- A start command carries an id that no start command and no server supplied before; any other
command carries the id of the session under way. -/
def RightTaskId (s : TaskIdHistory) (op : TaskIdOp) : Prop :=
  match op with
  | .getStartCommand _ _ | .dashStartCommand _ _ =>
    ∃ taskId, (s.command op).bind commandTaskId = some taskId ∧ taskId ∉ s.used
  | .getControlCommand _ _ _ | .getStopCommand _ _ | .dashCommand _ _ =>
    ∀ taskId command, s.current = some taskId → s.command op = some command →
      commandTaskId command = some taskId
  | .started _ => True

/-- When a start command is made, no id but the one of the last start command has been supplied
since. -/
def IdReturned (s : TaskIdHistory) : TaskIdOp → Prop
  | .getStartCommand _ _ | .dashStartCommand _ _ =>
    s.param.taskId = s.param.oldTaskId ∨ s.param.taskId = []
  | _ => True

/-- The current id is the one of the last start, or was used; and it is the one of the session. -/
structure Consistent (s : TaskIdHistory) : Prop where
  known : s.param.taskId = s.param.oldTaskId ∨ s.param.taskId ∈ s.used
  current : ∀ taskId, s.current = some taskId → s.param.taskId = taskId

/-! ## One step -/

lemma getControlCommand_ids (p : NlsRequestParam) (name : Bytes) (message : Option Json)
    (messageId : Bytes) :
    (p.getControlCommand name message messageId).2.taskId = p.taskId ∧
      (p.getControlCommand name message messageId).2.oldTaskId = p.oldTaskId := by
  unfold NlsRequestParam.getControlCommand
  split <;> exact ⟨rfl, rfl⟩

lemma begin_consistent (s : TaskIdHistory) {param : NlsRequestParam} {uuids : Uuids}
    (taskId : param.taskId = s.param.startTaskId uuids)
    (oldTaskId : param.oldTaskId = s.param.startTaskId uuids) :
    (s.begin param uuids).Consistent := by
  refine ⟨Or.inl (taskId.trans oldTaskId.symm), fun id now => ?_⟩
  cases now
  exact taskId

theorem Consistent.step {s : TaskIdHistory} (consistent : s.Consistent) (op : TaskIdOp) :
    (s.step op).Consistent := by
  obtain ⟨known, current⟩ := consistent
  cases op with
  | getStartCommand name uuids => exact begin_consistent s rfl rfl
  | dashStartCommand payload uuids => exact begin_consistent s rfl rfl
  | getControlCommand name message messageId =>
    obtain ⟨taskId, oldTaskId⟩ := getControlCommand_ids s.param name message messageId
    refine ⟨?_, fun id now => ?_⟩
    · simp only [TaskIdHistory.step, taskId, oldTaskId]
      exact known
    · exact taskId.trans (current id now)
  | getStopCommand name messageId => exact ⟨known, current⟩
  | dashCommand action payload => exact ⟨known, current⟩
  | started taskId =>
    simp only [TaskIdHistory.step]
    split
    · exact ⟨known, current⟩
    · refine ⟨Or.inr List.mem_cons_self, fun id now => ?_⟩
      obtain ⟨_, -, rfl⟩ := Option.map_eq_some_iff.mp now
      rfl

/-- The id of a start is new exactly when it is drawn. -/
lemma startTaskId_fresh {s : TaskIdHistory} (consistent : s.Consistent) {uuids : Uuids}
    (fresh : uuids.fresh ∉ s.used ∧ uuids.again ∉ s.used) :
    s.param.startTaskId uuids ∉ s.used ↔
      s.param.taskId = s.param.oldTaskId ∨ s.param.taskId = [] := by
  simp only [NlsRequestParam.startTaskId]
  by_cases same : s.param.taskId = s.param.oldTaskId
  · refine ⟨fun _ => Or.inl same, fun _ => ?_⟩
    rw [if_pos same]
    split
    · exact fresh.2
    · exact fresh.1
  · rw [if_neg same]
    have used := consistent.known.resolve_left same
    by_cases empty : s.param.taskId = []
    · rw [if_pos empty]
      exact ⟨fun _ => Or.inr empty, fun _ => fresh.2⟩
    · rw [if_neg empty]
      exact ⟨fun new => absurd used new, fun either => absurd either (not_or.mpr ⟨same, empty⟩)⟩

lemma command_current {s : TaskIdHistory} (consistent : s.Consistent) {command : Json}
    (carries : commandTaskId command = some s.param.taskId) {taskId : Bytes}
    (now : s.current = some taskId) : commandTaskId command = some taskId := by
  rw [carries, consistent.current taskId now]

theorem step_rightTaskId {s : TaskIdHistory} (consistent : s.Consistent) (op : TaskIdOp)
    (fresh : s.FreshUuids op) : s.RightTaskId op ↔ s.IdReturned op := by
  cases op with
  | getStartCommand name uuids =>
    rw [IdReturned, ← startTaskId_fresh consistent fresh]
    simp only [RightTaskId, command, Option.bind_some, NlsRequestParam.getStartCommand_taskId,
      Option.some.injEq, exists_eq_left']
  | dashStartCommand payload uuids =>
    rw [IdReturned, ← startTaskId_fresh consistent fresh]
    simp only [RightTaskId, command, Option.bind_some, NlsRequestParam.dashStartCommand_taskId,
      Option.some.injEq, exists_eq_left']
  | getControlCommand name message messageId =>
    refine ⟨fun _ => trivial, fun _ taskId command now made => ?_⟩
    exact command_current consistent (NlsRequestParam.getControlCommand_taskId made) now
  | getStopCommand name messageId =>
    refine ⟨fun _ => trivial, fun _ taskId command now made => ?_⟩
    cases made
    exact command_current consistent (s.param.getStopCommand_taskId name messageId) now
  | dashCommand action payload =>
    refine ⟨fun _ => trivial, fun _ taskId command now made => ?_⟩
    cases made
    exact command_current consistent (s.param.dashCommand_taskId action payload) now
  | started taskId => exact Iff.rfl

/-! ## The sessions of a request -/

/-- Along the sessions of a new request every command carries the right id, exactly when every
start command finds the id of the one before it. -/
theorem taskIds_fresh (ops : List TaskIdOp) (fresh : Along step FreshUuids {} ops) :
    Along step RightTaskId {} ops ↔ Along step IdReturned {} ops := by
  refine along_congr_of_invariant (I := Consistent) (fun s op consistent _ => consistent.step op)
    (fun s op consistent now => step_rightTaskId consistent op now) ⟨Or.inl rfl, ?_⟩ fresh
  intro taskId now
  cases now

/-- The id of the client, the one of the server, and the one of the next session. -/
def clientUuids : Uuids := { fresh := ascii "c1", again := ascii "c2", messageId := ascii "m1" }

def nextUuids : Uuids := { fresh := ascii "c3", again := ascii "c4", messageId := ascii "m2" }

/-- Two sessions; in the first the server supplies the given id. -/
def twoSessions (supplied : Bytes) : List TaskIdOp :=
  [.getStartCommand (ascii "StartTranscription") clientUuids, .started supplied,
    .getStopCommand (ascii "StopTranscription") (ascii "m3"),
    .getStartCommand (ascii "StartTranscription") nextUuids]

lemma twoSessions_fresh (supplied : Bytes) (unlike : ascii "c3" ≠ supplied ∧ ascii "c4" ≠ supplied)
    (some_ : supplied ≠ []) : Along step FreshUuids {} (twoSessions supplied) := by
  obtain ⟨notFresh, notAgain⟩ := unlike
  refine ⟨⟨List.not_mem_nil, List.not_mem_nil⟩, trivial, trivial, ?_, trivial⟩
  have free : ∀ s : TaskIdHistory, s.used = [supplied, ascii "c1"] →
      s.FreshUuids (.getStartCommand (ascii "StartTranscription") nextUuids) := by
    intro s used
    simp only [FreshUuids, used, List.mem_cons, List.not_mem_nil, or_false, not_or]
    exact ⟨⟨notFresh, by decide⟩, notAgain, by decide⟩
  apply free
  simp only [step, if_neg some_]
  rfl

/-- The server answers with the id of the client. -/
theorem taskIds_fresh_echo : Along step RightTaskId {} (twoSessions (ascii "c1")) :=
  (taskIds_fresh (twoSessions (ascii "c1"))
    (twoSessions_fresh _ ⟨by decide, by decide⟩ (by decide))).mpr
    ⟨Or.inl rfl, trivial, trivial, Or.inl rfl, trivial⟩

/-- An id of the server's own is the id of the next start command. -/
theorem server_id_reused :
    Along step FreshUuids {} (twoSessions (ascii "s1")) ∧
      ¬Along step RightTaskId {} (twoSessions (ascii "s1")) := by
  refine ⟨twoSessions_fresh _ ⟨by decide, by decide⟩ (by decide), ?_⟩
  rintro ⟨-, -, -, ⟨taskId, carried, new⟩, -⟩
  have reused : taskId = ascii "s1" := Option.some.inj carried.symm
  subst reused
  exact new List.mem_cons_self

end TaskIdHistory

end NlsSdk.Framework
