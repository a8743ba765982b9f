import NlsSdk.Library.JsonValue
import NlsSdk.Transport.Global

/-!
# The parameters of a request and its commands

`iNlsRequestParam.cpp`: the members a command is made of, the task id it
carries, and the commands as JSON values. The commands of the model service are
built from scratch and share the treatment of the task id.
-/
namespace NlsSdk.Framework

open Library
open Transport (Bytes ascii NlsRetCode)

/-- The members of a JSON object. -/
abbrev Members := List (Bytes × Json)

/-- The parts of `INlsRequestParam` that commands are made of. -/
structure NlsRequestParam where
  taskId : Bytes := []
  oldTaskId : Bytes := []
  header : Members := []
  payload : Members :=
    [(ascii "format", .string (ascii "pcm")), (ascii "sample_rate", .int 16000)]
  context : Members := []
  streaming : Bytes := ascii "duplex"

/-- The values `getRandomUuid` returns while a start command is built. -/
structure Uuids where
  fresh : Bytes
  again : Bytes
  messageId : Bytes

namespace NlsRequestParam

/-! ## The payload -/

/-- A member without a name is passed over. -/
def addMember (payload : Members) (member : Bytes × Json) : Members :=
  if member.1 = [] then payload else setMember member.1 member.2 payload

/-- `setPayloadParam` of what the text was read as. -/
def setPayloadParam (p : NlsRequestParam) (value : Option Json) :
    Except NlsRetCode Unit × NlsRequestParam :=
  match value with
  | some (.object members) =>
    (.ok (), { p with payload := members.foldl addMember p.payload })
  | some _ => (.error .jsonObjectError, p)
  | none => (.error .jsonParseFailed, p)

def removePayloadParam (p : NlsRequestParam) (key : Bytes) : NlsRequestParam :=
  { p with payload := removeMember key p.payload }

/-! ## The commands -/

def setTaskId (p : NlsRequestParam) (taskId : Bytes) : NlsRequestParam := { p with taskId }

/-- `if (_taskId == _oldTaskId) _taskId = getRandomUuid(); if (_taskId.empty()) ...` -/
def startTaskId (p : NlsRequestParam) (uuids : Uuids) : Bytes :=
  let taskId := if p.taskId = p.oldTaskId then uuids.fresh else p.taskId
  if taskId = [] then uuids.again else taskId

/-- The task id of a new start becomes the current one and the old one. -/
def takeTaskId (p : NlsRequestParam) (uuids : Uuids) : NlsRequestParam :=
  { p with taskId := p.startTaskId uuids, oldTaskId := p.startTaskId uuids }

/-- `_header` of the next command; the name is set by the class of the request. -/
def commandHeader (p : NlsRequestParam) (name messageId : Bytes) : Members :=
  setMember (ascii "message_id") (.string messageId)
    (setMember (ascii "task_id") (.string p.taskId)
      (setMember (ascii "name") (.string name) p.header))

def getStartCommand (p : NlsRequestParam) (name : Bytes) (uuids : Uuids) :
    Json × NlsRequestParam :=
  let p := p.takeTaskId uuids
  let p := { p with header := p.commandHeader name uuids.messageId }
  (.object [(ascii "context", .object p.context), (ascii "header", .object p.header),
    (ascii "payload", .object p.payload)], p)

/-- A member of the user's message that is not null. -/
def messageMember (input : Members) (key : String) : Members :=
  match (input.lookup (ascii key)).getD .null with
  | .null => []
  | value => [(ascii key, value)]

/-- A message that is no JSON object makes no command; the name is set before it is read. -/
def getControlCommand (p : NlsRequestParam) (name : Bytes) (message : Option Json)
    (messageId : Bytes) : Option Json × NlsRequestParam :=
  match message with
  | some (.object input) =>
    let p := { p with header := p.commandHeader name messageId }
    (some (.object (messageMember input "context" ++ [(ascii "header", .object p.header)] ++
      messageMember input "payload")), p)
  | _ => (none, { p with header := setMember (ascii "name") (.string name) p.header })

def getStopCommand (p : NlsRequestParam) (name messageId : Bytes) : Json × NlsRequestParam :=
  let p := { p with header := p.commandHeader name messageId }
  (.object [(ascii "context", .object p.context), (ascii "header", .object p.header)], p)

/-- A command of the model service: `run-task`, `continue-task` or `finish-task`. -/
def dashCommand (p : NlsRequestParam) (action : Bytes) (payload : Members) : Json :=
  .object [
    (ascii "header", .object [(ascii "action", .string action),
      (ascii "streaming", .string p.streaming), (ascii "task_id", .string p.taskId)]),
    (ascii "payload", .object payload)]

/-- `getStartCommand` of the model service's requests. -/
def dashStartCommand (p : NlsRequestParam) (payload : Members) (uuids : Uuids) :
    Json × NlsRequestParam :=
  let p := p.takeTaskId uuids
  (p.dashCommand (ascii "run-task") payload, p)

end NlsRequestParam

/-- `header.task_id` of a command. -/
def commandTaskId (command : Json) : Option Bytes :=
  match command.get (ascii "header") with
  | .ok header =>
    match header.get (ascii "task_id") with
    | .ok (.string taskId) => some taskId
    | _ => none
  | .error _ => none

namespace NlsRequestParam

lemma lookup_commandHeader (p : NlsRequestParam) (name messageId : Bytes) :
    (p.commandHeader name messageId).lookup (ascii "task_id") = some (.string p.taskId) := by
  unfold commandHeader
  rw [lookup_setMember_of_ne (by decide), lookup_setMember]

/-- Whatever stands around it, the header of a command carries the current task id. -/
lemma commandTaskId_object {members : Members} {p : NlsRequestParam} {name messageId : Bytes}
    (header : members.lookup (ascii "header") =
      some (.object (p.commandHeader name messageId))) :
    commandTaskId (.object members) = some p.taskId := by
  simp only [commandTaskId, Json.get, header, Option.getD_some, lookup_commandHeader]

theorem getStartCommand_taskId (p : NlsRequestParam) (name : Bytes) (uuids : Uuids) :
    commandTaskId (p.getStartCommand name uuids).1 = some (p.startTaskId uuids) := by
  exact commandTaskId_object (p := p.takeTaskId uuids) rfl

theorem getStopCommand_taskId (p : NlsRequestParam) (name messageId : Bytes) :
    commandTaskId (p.getStopCommand name messageId).1 = some p.taskId :=
  commandTaskId_object rfl

lemma lookup_messageMember (input : Members) :
    (messageMember input "context").lookup (ascii "header") = none := by
  unfold messageMember
  split
  · rfl
  · rfl

theorem getControlCommand_taskId {p : NlsRequestParam} {name : Bytes} {message : Option Json}
    {messageId : Bytes} {command : Json}
    (made : (p.getControlCommand name message messageId).1 = some command) :
    commandTaskId command = some p.taskId := by
  unfold getControlCommand at made
  split at made
  · next input =>
    cases made
    refine @commandTaskId_object _ p name messageId ?_
    simp only [List.append_assoc, List.lookup_append, lookup_messageMember, Option.none_or]
    rfl
  · cases made

theorem dashCommand_taskId (p : NlsRequestParam) (action : Bytes) (payload : Members) :
    commandTaskId (p.dashCommand action payload) = some p.taskId := rfl

theorem dashStartCommand_taskId (p : NlsRequestParam) (payload : Members) (uuids : Uuids) :
    commandTaskId (p.dashStartCommand payload uuids).1 = some (p.startTaskId uuids) := rfl

end NlsRequestParam

end NlsSdk.Framework
