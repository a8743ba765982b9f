import NlsSdk.Framework.NlsRequestParam
import NlsSdk.Library.Run
import NlsSdk.Utils.TextUtils

/-!
# The parameters of a flowing synthesis

`flowingSynthesizerParam.cpp`. One payload stays with a request over all its sessions, and the
commands write to it themselves. Beside it stands what the calls say: for every member the last
call that wrote it.
-/
namespace NlsSdk.Framework

open Library
open Transport (Bytes ascii)
open Utils (charsCalculate)

/-! ## The calls -/

structure FlowingSynthesizerParam extends NlsRequestParam where
  singleRoundText : Bytes := []

/-- `MaximumNumberOfWords` -/
def maximumNumberOfWords : ℕ := 10000

def textKey : Bytes := ascii "text"
def enableSsmlKey : Bytes := ascii "enable_ssml"

/-- The setters that write one member of the payload. -/
inductive Setter
  | setVolume (value : ℤ)
  | setSpeechRate (value : ℤ)
  | setPitchRate (value : ℤ)
  | setEnableSubtitle (value : Bool)
  | setFormat (format : Bytes)
  | setSampleRate (sampleRate : ℤ)
  | setVoice (value : Bytes)

def Setter.member : Setter → Bytes × Json
  | .setVolume value => (ascii "volume", .int value)
  | .setSpeechRate value => (ascii "speech_rate", .int value)
  | .setPitchRate value => (ascii "pitch_rate", .int value)
  | .setEnableSubtitle value => (ascii "enable_subtitle", .bool value)
  | .setFormat format => (ascii "format", .string format)
  | .setSampleRate sampleRate => (ascii "sample_rate", .int sampleRate)
  | .setVoice value => (ascii "voice", .string value)

/-- The calls on the parameters, by the user and by the node. JSON texts stand as what they were
read as, none where they were no JSON; `parameters` may be a null pointer. -/
inductive ParamCall
  | setter (s : Setter)
  | setPayloadParam (value : Option Json)
  | removePayloadParam (key : Bytes)
  | setContextParam (value : Option Json)
  | setSingleRoundText (value : Option Bytes)
  | clearSingleRoundText
  | getStartCommand (uuids : Uuids)
  | getRunFlowingSynthesisCommand (text messageId : Bytes)
  | getFlushFlowingTextCommand (parameters : Option (Option Json)) (messageId : Bytes)
  | getStopCommand (messageId : Bytes)

/-- The setter takes a text that has characters, but not too many. -/
def singleRoundTaken (value : Bytes) : Bool :=
  match charsCalculate (some value) with
  | some wordCount => wordCount ≤ maximumNumberOfWords && wordCount ≠ 0
  | none => false

/-- `setContextParam` of what the text was read as. -/
def NlsRequestParam.setContextParam (p : NlsRequestParam) (value : Option Json) :
    Except Transport.NlsRetCode Unit × NlsRequestParam :=
  match value with
  | some (.object members) =>
    (.ok (), { p with context := members.foldl addMember p.context })
  | some _ => (.error .jsonObjectError, p)
  | none => (.error .jsonParseFailed, p)

/-- `getSdkInfo`, on Linux. -/
def getSdkInfo (sdkName : Bytes) : Json :=
  .object [
    (ascii "language", .string (if sdkName = ascii "csharp" then ascii "Csharp" else ascii "C++")),
    (ascii "name", .string (ascii "nls-cpp-sdk3.x-linux")),
    (ascii "version", .string (ascii "3.4.0a"))]

namespace FlowingSynthesizerParam

/-- The constructor. -/
def create (sdkName : Bytes) : FlowingSynthesizerParam where
  header := [(ascii "namespace", .string (ascii "FlowingSpeechSynthesizer"))]
  context := [(ascii "sdk", getSdkInfo sdkName)]

def set (p : FlowingSynthesizerParam) (s : Setter) : FlowingSynthesizerParam :=
  { p with payload := setMember s.member.1 s.member.2 p.payload }

/-- None stands for `InvalidInputParam`. -/
def setSingleRoundText (p : FlowingSynthesizerParam) (value : Option Bytes) :
    Option FlowingSynthesizerParam :=
  match value with
  | none => none
  | some value => if singleRoundTaken value then some { p with singleRoundText := value } else none

def clearSingleRoundText (p : FlowingSynthesizerParam) : FlowingSynthesizerParam :=
  { p with singleRoundText := [] }

/-- `enable_ssml` is the request's own: the user's value gives way to it. -/
def getStartCommand (p : FlowingSynthesizerParam) (uuids : Uuids) :
    Json × FlowingSynthesizerParam :=
  let payload := if p.singleRoundText = [] then removeMember enableSsmlKey p.payload
    else setMember enableSsmlKey (.bool true) p.payload
  let made := { p.toNlsRequestParam with payload := payload }.getStartCommand
    (ascii "StartSynthesis") uuids
  (made.1, { p with toNlsRequestParam := made.2 })

/-- The text stays in the payload. -/
def getRunFlowingSynthesisCommand (p : FlowingSynthesizerParam) (text messageId : Bytes) :
    Json × FlowingSynthesizerParam :=
  let header := p.commandHeader (ascii "RunSynthesis") messageId
  let payload := setMember textKey (.string text) p.payload
  (.object [(ascii "header", .object header), (ascii "payload", .object payload)],
    { p with header := header, payload := payload })

/-- The stream is made of the parameters in front of the check for a null pointer, and throws. -/
def getFlushFlowingTextCommand (p : FlowingSynthesizerParam) (parameters : Option (Option Json))
    (messageId : Bytes) : Option Json × FlowingSynthesizerParam :=
  let header := p.commandHeader (ascii "FlushText") messageId
  let q := { p with header := header }
  match parameters with
  | none => (none, q)
  | some none => (some (.object [(ascii "header", .object header)]), q)
  | some (some payload) =>
    (some (.object [(ascii "header", .object header), (ascii "payload", payload)]), q)

def getStopCommand (p : FlowingSynthesizerParam) (messageId : Bytes) :
    Json × FlowingSynthesizerParam :=
  let made := p.toNlsRequestParam.getStopCommand (ascii "StopSynthesis") messageId
  (made.1, { p with toNlsRequestParam := made.2 })

/-- A call and the command it makes. -/
def perform (p : FlowingSynthesizerParam) : ParamCall → Option Json × FlowingSynthesizerParam
  | .setter s => (none, p.set s)
  | .setPayloadParam value =>
    (none, { p with toNlsRequestParam := (p.toNlsRequestParam.setPayloadParam value).2 })
  | .removePayloadParam key =>
    (none, { p with toNlsRequestParam := p.toNlsRequestParam.removePayloadParam key })
  | .setContextParam value =>
    (none, { p with toNlsRequestParam := (p.toNlsRequestParam.setContextParam value).2 })
  | .setSingleRoundText value => (none, (p.setSingleRoundText value).getD p)
  | .clearSingleRoundText => (none, p.clearSingleRoundText)
  | .getStartCommand uuids => ((p.getStartCommand uuids).1, (p.getStartCommand uuids).2)
  | .getRunFlowingSynthesisCommand text messageId =>
    ((p.getRunFlowingSynthesisCommand text messageId).1,
      (p.getRunFlowingSynthesisCommand text messageId).2)
  | .getFlushFlowingTextCommand parameters messageId =>
    p.getFlushFlowingTextCommand parameters messageId
  | .getStopCommand messageId => ((p.getStopCommand messageId).1, (p.getStopCommand messageId).2)

def step (p : FlowingSynthesizerParam) (call : ParamCall) : FlowingSynthesizerParam :=
  (p.perform call).2

end FlowingSynthesizerParam

/-! ## What the calls say -/

/-- The single-round text of a history, the newest call in front. -/
def saidSingleRound : List ParamCall → Bytes
  | [] => []
  | .clearSingleRoundText :: _ => []
  | .setSingleRoundText (some value) :: earlier =>
    if singleRoundTaken value then value else saidSingleRound earlier
  | _ :: earlier => saidSingleRound earlier

/-- What members read from a text write under a name: the last one of that name. -/
def membersWrite (key : Bytes) (members : Members) : Option (Option Json) :=
  if key = [] then none else (members.reverse.lookup key).map some

/-- What a call writes to a member of the payload, `some none` where it removes the member. -/
def payloadWrite (singleRoundText key : Bytes) : ParamCall → Option (Option Json)
  | .setter s => if key = s.member.1 then some (some s.member.2) else none
  | .setPayloadParam (some (.object members)) => membersWrite key members
  | .removePayloadParam removed => if key = removed then some none else none
  | .getStartCommand _ =>
    if key = enableSsmlKey then
      some (if singleRoundText = [] then none else some (.bool true))
    else none
  | .getRunFlowingSynthesisCommand text _ =>
    if key = textKey then some (some (.string text)) else none
  | _ => none

/-- A member of the payload after a history: what the last call that wrote it said. -/
def lastPayload (key : Bytes) : List ParamCall → Option Json
  | [] => ({} : NlsRequestParam).payload.lookup key
  | call :: earlier =>
    (payloadWrite (saidSingleRound earlier) key call).getD (lastPayload key earlier)

/-- What a call writes to a member of the context. -/
def contextWrite (key : Bytes) : ParamCall → Option (Option Json)
  | .setContextParam (some (.object members)) => membersWrite key members
  | _ => none

/-- A member of the context after a history. -/
def lastContext (sdkName key : Bytes) : List ParamCall → Option Json
  | [] => if key = ascii "sdk" then some (getSdkInfo sdkName) else none
  | call :: earlier => (contextWrite key call).getD (lastContext sdkName key earlier)

/-- The members of a part of a command; none for a part that is missing or no object. -/
def commandPart (command : Json) (name : String) : Option Members :=
  match command.get (ascii name) with
  | .ok (.object members) => some members
  | _ => none

/-- What a command is to say for a member of its payload. -/
def saidPayload (key : Bytes) (earlier : List ParamCall) (call : ParamCall) :
    Option (Option Json) :=
  match call with
  | .getStartCommand _ => some (lastPayload key (call :: earlier))
  | .getRunFlowingSynthesisCommand _ _ => some (lastPayload key (call :: earlier))
  | .getFlushFlowingTextCommand (some (some (.object members))) _ => some (members.lookup key)
  | _ => none

/-- What a command is to say for a member of its context. -/
def saidContext (sdkName key : Bytes) (earlier : List ParamCall) (call : ParamCall) :
    Option (Option Json) :=
  match call with
  | .getStartCommand _ => some (lastContext sdkName key earlier)
  | .getStopCommand _ => some (lastContext sdkName key earlier)
  | _ => none

/-! ## One call -/

lemma lookup_removeMember (key : Bytes) (members : Members) :
    (removeMember key members).lookup key = none := by
  simpa [removeMember, List.lookup_eq_none_iff] using fun a b _ (ne : ¬a = key) => Ne.symm ne

lemma lookup_removeMember_of_ne {key other : Bytes} (ne : other ≠ key) (members : Members) :
    (removeMember key members).lookup other = members.lookup other := by
  unfold removeMember
  induction members with
  | nil => rfl
  | cons member rest ih =>
    obtain ⟨k, v⟩ := member
    by_cases same : k = key
    · have off : (other == k) = false := beq_false_of_ne (same ▸ ne)
      rw [List.filter_cons_of_neg (by simp [same]), List.lookup_cons, off, ih]
    · rw [List.filter_cons_of_pos (by simp [same]), List.lookup_cons, List.lookup_cons, ih]

lemma lookup_setMember_getD (key other : Bytes) (value : Json) (members : Members) :
    (setMember key value members).lookup other =
      (if other = key then some (some value) else none).getD (members.lookup other) := by
  by_cases same : other = key
  · rw [if_pos same, same, lookup_setMember, Option.getD_some]
  · rw [if_neg same, lookup_setMember_of_ne same, Option.getD_none]

lemma lookup_removeMember_getD (key other : Bytes) (members : Members) :
    (removeMember key members).lookup other =
      (if other = key then some none else none).getD (members.lookup other) := by
  by_cases same : other = key
  · rw [if_pos same, same, lookup_removeMember, Option.getD_some]
  · rw [if_neg same, lookup_removeMember_of_ne same, Option.getD_none]

/-- Members read from a text write what the last one of each name says. -/
lemma lookup_addMembers (key : Bytes) (members payload : Members) :
    (members.foldl NlsRequestParam.addMember payload).lookup key =
      (membersWrite key members).getD (payload.lookup key) := by
  induction members using List.reverseRecOn with
  | nil => simp [membersWrite]
  | append_singleton members member ih =>
    rw [List.foldl_append, List.foldl_cons, List.foldl_nil, NlsRequestParam.addMember]
    unfold membersWrite at ih ⊢
    rw [List.reverse_append, List.reverse_singleton, List.singleton_append, List.lookup_cons]
    by_cases same : key = member.1
    · subst same
      by_cases unnamed : member.1 = []
      · simpa [unnamed] using ih
      · simp [unnamed, lookup_setMember]
    · have off : (key == member.1) = false := beq_false_of_ne same
      by_cases unnamed : member.1 = []
      · rw [if_pos unnamed, off]
        exact ih
      · rw [if_neg unnamed, lookup_setMember_of_ne same, off]
        exact ih

namespace FlowingSynthesizerParam

variable (p : FlowingSynthesizerParam) (call : ParamCall)

lemma step_payload (key : Bytes) : (p.step call).payload.lookup key =
    (payloadWrite p.singleRoundText key call).getD (p.payload.lookup key) := by
  cases call with
  | setter s => exact lookup_setMember_getD ..
  | setPayloadParam value =>
    simp only [step, perform, NlsRequestParam.setPayloadParam]
    cases value with
    | none => rfl
    | some json =>
      cases json with
      | object members => exact lookup_addMembers ..
      | _ => rfl
  | removePayloadParam removed => exact lookup_removeMember_getD ..
  | setContextParam value =>
    simp only [step, perform, NlsRequestParam.setContextParam]
    cases value with
    | none => rfl
    | some json => cases json <;> rfl
  | setSingleRoundText value =>
    simp only [step, perform, setSingleRoundText]
    cases value with
    | none => rfl
    | some text =>
      dsimp only
      split <;> rfl
  | clearSingleRoundText => rfl
  | getStartCommand uuids =>
    simp only [step, perform, getStartCommand, NlsRequestParam.getStartCommand,
      NlsRequestParam.takeTaskId, payloadWrite]
    by_cases own : key = enableSsmlKey
    · subst own
      rw [if_pos rfl, Option.getD_some]
      split
      · exact lookup_removeMember ..
      · exact lookup_setMember ..
    · rw [if_neg own, Option.getD_none]
      split
      · exact lookup_removeMember_of_ne own _
      · exact lookup_setMember_of_ne own ..
  | getRunFlowingSynthesisCommand text messageId => exact lookup_setMember_getD ..
  | getFlushFlowingTextCommand parameters messageId =>
    simp only [step, perform, getFlushFlowingTextCommand]
    cases parameters with
    | none => rfl
    | some value => cases value <;> rfl
  | getStopCommand messageId => rfl

lemma step_context (key : Bytes) : (p.step call).context.lookup key =
    (contextWrite key call).getD (p.context.lookup key) := by
  cases call with
  | setContextParam value =>
    simp only [step, perform, NlsRequestParam.setContextParam]
    cases value with
    | none => rfl
    | some json =>
      cases json with
      | object members => exact lookup_addMembers ..
      | _ => rfl
  | setPayloadParam value =>
    simp only [step, perform, NlsRequestParam.setPayloadParam]
    cases value with
    | none => rfl
    | some json => cases json <;> rfl
  | setSingleRoundText value =>
    simp only [step, perform, setSingleRoundText]
    cases value with
    | none => rfl
    | some text =>
      dsimp only
      split <;> rfl
  | getFlushFlowingTextCommand parameters messageId =>
    simp only [step, perform, getFlushFlowingTextCommand]
    cases parameters with
    | none => rfl
    | some value => cases value <;> rfl
  | _ => rfl

lemma step_singleRoundText (earlier : List ParamCall)
    (said : p.singleRoundText = saidSingleRound earlier) :
    (p.step call).singleRoundText = saidSingleRound (call :: earlier) := by
  cases call with
  | setSingleRoundText value =>
    simp only [step, perform, setSingleRoundText]
    cases value with
    | none => exact said
    | some text =>
      simp only [saidSingleRound]
      split
      · rfl
      · exact said
  | setPayloadParam value => exact said
  | setContextParam value => exact said
  | getFlushFlowingTextCommand parameters messageId =>
    simp only [step, perform, getFlushFlowingTextCommand]
    cases parameters with
    | none => exact said
    | some value => cases value <;> exact said
  | clearSingleRoundText => rfl
  | _ => exact said

/-! ## A history of calls -/

/-- What a request holds after a history: the newest call of it stands last in the run. -/
structure Holds (sdkName : Bytes) (p : FlowingSynthesizerParam) (history : List ParamCall) :
    Prop where
  payload : ∀ key, p.payload.lookup key = lastPayload key history
  context : ∀ key, p.context.lookup key = lastContext sdkName key history
  singleRoundText : p.singleRoundText = saidSingleRound history

variable {p call}

lemma Holds.step {sdkName : Bytes} {earlier : List ParamCall} (holds : Holds sdkName p earlier) :
    Holds sdkName (p.step call) (call :: earlier) where
  payload key := by
    rw [step_payload, holds.singleRoundText, holds.payload key]
    rfl
  context key := by
    rw [step_context, holds.context key]
    rfl
  singleRoundText := step_singleRoundText _ _ earlier holds.singleRoundText

theorem holds_run (sdkName : Bytes) (calls : List ParamCall) :
    Holds sdkName (run step (create sdkName) calls) calls.reverse := by
  induction calls using List.reverseRecOn with
  | nil =>
    refine ⟨fun key => rfl, fun key => ?_, rfl⟩
    simp only [run_nil, create, List.reverse_nil, lastContext, List.lookup_cons]
    split <;> simp_all
  | append_singleton calls call ih =>
    rw [run_append, run_cons, run_nil, List.reverse_append, List.reverse_singleton,
      List.singleton_append]
    exact ih.step

/-- Every command of a request says, for each member of its payload and of its context, what the
last call that wrote the member said: a text is such a call, in whatever session it was sent, and
so is Start for `enable_ssml`. -/
theorem commands_say_last (sdkName : Bytes) (calls : List ParamCall) {call : ParamCall}
    {command : Json}
    (made : ((run step (create sdkName) calls).perform call).1 = some command) (key : Bytes) :
    (commandPart command "payload").map (·.lookup key) = saidPayload key calls.reverse call ∧
      (commandPart command "context").map (·.lookup key) =
        saidContext sdkName key calls.reverse call := by
  have before := holds_run sdkName calls
  generalize run step (create sdkName) calls = p at made before
  have next : Holds sdkName (p.step call) (call :: calls.reverse) := before.step
  have behind := next.payload key
  have context := before.context key
  cases call with
  | getStartCommand uuids =>
    cases made
    exact ⟨congrArg some behind, congrArg some context⟩
  | getRunFlowingSynthesisCommand text messageId =>
    cases made
    exact ⟨congrArg some behind, rfl⟩
  | getStopCommand messageId =>
    cases made
    exact ⟨rfl, congrArg some context⟩
  | getFlushFlowingTextCommand parameters messageId =>
    cases parameters with
    | none => cases made
    | some value =>
      cases value with
      | none =>
        cases made
        exact ⟨rfl, rfl⟩
      | some payload =>
        cases made
        cases payload <;> exact ⟨rfl, rfl⟩
  | _ => cases made

/-- A session of one text, and the Start of the next. -/
def firstSession : List ParamCall :=
  [.setter (.setVolume 40), .getStartCommand ⟨ascii "a", [], ascii "m"⟩,
    .getRunFlowingSynthesisCommand (ascii "hello") (ascii "n"), .getStopCommand (ascii "o")]

def nextStart : ParamCall := .getStartCommand ⟨ascii "b", [], ascii "p"⟩

/-- The next Start still says the text of the session in front of it. -/
theorem commands_say_last_second : ∃ command,
    ((run step (create []) firstSession).perform nextStart).1 = some command ∧
    (commandPart command "payload").map (·.lookup textKey) = some (some (.string (ascii "hello"))) :=
  ⟨_, rfl, (@commands_say_last [] firstSession nextStart _ rfl textKey).1.trans rfl⟩

end FlowingSynthesizerParam

end NlsSdk.Framework
