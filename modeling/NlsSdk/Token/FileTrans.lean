import NlsSdk.Library.JsonValue
import NlsSdk.Library.Run
import NlsSdk.Transport.Global

/-!
# Synchronous file transcription

`FileTrans`: the check of the parameters, the request that submits a task, the loop that
asks for its result, and the response the user reads, which lasts from call to call.
-/
namespace NlsSdk.Token

open NlsSdk.Library NlsSdk.Transport

namespace FileTrans

inductive FileTransEvent
  | taskUnknown | taskFailed | taskCompleted
  deriving DecidableEq, Repr

structure ResultResponse where
  taskId : Bytes
  event : FileTransEvent
  statusCode : ℕ
  errorMsg : Bytes
  result : Bytes
  deriving DecidableEq

/-- The response of a new object. -/
def ResultResponse.fresh : ResultResponse :=
  { taskId := [], event := .taskUnknown, statusCode := 0, errorMsg := [], result := [] }

/-- The parameters the user has set by the time of a call. -/
structure Params where
  accessKeySecret : Bytes
  accessKeyId : Bytes
  appKey : Bytes
  fileLink : Bytes
  domain : Bytes
  serverVersion : Bytes
  action : Bytes
  customParam : Bytes

/-- What `commonResponse` gives; the reader of an error body may throw. -/
inductive CommonResponseOutcome
  | success (payload : Bytes)
  | failure (errorMessage : Bytes)
  | thrown

/-- One synchronous call: the parameters, the answer to the submission, the answers to the
polls as far as they are needed, and what the status variable of the loop holds at first. -/
structure Call where
  params : Params
  submit : CommonResponseOutcome
  polls : List CommonResponseOutcome
  unset : ℕ

/-- How a call ends. It is pending while the answers so far ask to poll again. -/
inductive Ended
  | returned (code : Except NlsRetCode Unit)
  | thrown
  | pending

def paramCheck (p : Params) (r : ResultResponse) : Except NlsRetCode Unit × ResultResponse :=
  let empty : List (Bytes × NlsRetCode × Bytes) :=
    [(p.accessKeySecret, .invalidAkSecret, ascii "AccessKeySecret is empty."),
      (p.accessKeyId, .invalidAkId, ascii "AccessKeyId is empty."),
      (p.appKey, .invalidAppKey, ascii "AppKey is empty."),
      (p.fileLink, .invalidFileLink, ascii "FileLink is empty."),
      (p.domain, .invalidDomain, ascii "Domain is empty."),
      (p.serverVersion, .invalidServerVersion, ascii "ServerVersion is empty."),
      (p.action, .invalidAction, ascii "Action is empty.")]
  match empty.find? fun check => check.1 = [] with
  | some (_, code, text) => (.error code, { r with errorMsg := text, event := .taskFailed })
  | none => (.ok (), r)

/-- What the code makes of an answer of the service. -/
inductive Answer
  | requestFailed (errorMessage : Bytes)
  | notJson (payload : Bytes)
  | noStatus (payload : Bytes)
  | status (statusCode : ℕ) (payload : Bytes) (json : Json)
  | thrown

section Calls

-- `parseFromStream` of the JSON library.
variable (parse : Bytes → Option Json)

/-- The status of a document, `none` when it is null. -/
def statusOf (json : Json) : Except Json.TypeError (Option ℕ) := do
  let code ← json.get (ascii "StatusCode")
  if code.isNull then pure none else some <$> code.toUInt

/-- `["StatusText"].asCString()`, and the same of other members. -/
def textOfMember (json : Json) (name : Bytes) : Except Json.TypeError Bytes := do
  (← json.get name).cString

def readAnswer : CommonResponseOutcome → Answer
  | .thrown => .thrown
  | .failure errorMessage => .requestFailed errorMessage
  | .success payload =>
    match parse payload with
    | none => .notJson payload
    | some json =>
      match statusOf json with
      | .error _ => .thrown
      | .ok none => .noStatus payload
      | .ok (some statusCode) => .status statusCode payload json

/-- The loop of `applyResultRequest`; `statusCode` is what its variable holds. -/
def pollLoop : ℕ → List CommonResponseOutcome → ResultResponse → Ended × ResultResponse
  | _, [], r => (.pending, r)
  | statusCode, outcome :: polls, r =>
    match readAnswer parse outcome with
    | .thrown => (.thrown, r)
    | .requestFailed errorMessage =>
      (.returned (.error .clientRequestFaild),
        { r with errorMsg := errorMessage, event := .taskFailed })
    | .notJson payload =>
      (.returned (.error .jsonParseFailed),
        { r with errorMsg := ascii "Json any failed: " ++ payload, event := .taskFailed })
    | .noStatus payload =>
      (.returned (.error .errorStatusCode),
        { r with errorMsg := payload, statusCode := statusCode, event := .taskFailed })
    | .status statusCode payload json =>
      if statusCode = 21050001 ∨ statusCode = 21050002 then pollLoop statusCode polls r
      else if statusCode = 21050000 ∨ statusCode = 21050003 then
        (.returned (.ok ()),
          { r with result := payload, statusCode := statusCode, event := .taskCompleted })
      else
        match textOfMember json (ascii "StatusText") with
        | .error _ => (.thrown, r)
        | .ok text =>
          (.returned (.error .errorStatusCode),
            { r with errorMsg := text, statusCode := statusCode, event := .taskFailed })

def applyResultRequest (taskId : Bytes) (call : Call) (r : ResultResponse) :
    Ended × ResultResponse :=
  pollLoop parse call.unset call.polls { r with taskId := taskId }

/-- What is wrong with the custom parameters. -/
def customError (customParam : Bytes) : Option NlsRetCode :=
  if customParam = [] then none
  else
    match parse customParam with
    | none => some .jsonParseFailed
    | some root => if root.isObject then none else some .jsonObjectError

def applyFileTrans (call : Call) (r : ResultResponse) : Ended × ResultResponse :=
  match paramCheck call.params r with
  | (.error code, r) => (.returned (.error code), r)
  | (.ok (), r) =>
    match customError parse call.params.customParam with
    | some code => (.returned (.error code), r)
    | none =>
      match readAnswer parse call.submit with
      | .thrown => (.thrown, r)
      | .requestFailed errorMessage =>
        (.returned (.error .clientRequestFaild),
          { r with event := .taskFailed, errorMsg := errorMessage })
      | .notJson payload =>
        (.returned (.error .jsonParseFailed),
          { r with errorMsg := ascii "Json any failed: " ++ payload })
      | .noStatus _ =>
        (.returned (.error .jsonParseFailed),
          { r with errorMsg := ascii "Json anly failed.", event := .taskFailed })
      | .status statusCode _ json =>
        if statusCode ≠ 21050000 ∧ statusCode ≠ 21050003 then
          let r := { r with event := .taskFailed, statusCode := statusCode }
          match textOfMember json (ascii "StatusText") with
          | .error _ => (.thrown, r)
          | .ok text => (.returned (.error .errorStatusCode), { r with errorMsg := text })
        else
          match textOfMember json (ascii "TaskId") with
          | .error _ => (.thrown, r)
          | .ok taskId => applyResultRequest parse taskId call r

/-- The response after a call, as the next call finds it. -/
def step (r : ResultResponse) (call : Call) : ResultResponse := (applyFileTrans parse call r).2

end Calls

/-! ## What a call writes -/

/-- The fields that a call sets, whatever they were before. -/
structure Patch where
  taskId : Option Bytes := none
  event : Option FileTransEvent := none
  statusCode : Option ℕ := none
  errorMsg : Option Bytes := none
  result : Option Bytes := none

def Patch.on (p : Patch) (r : ResultResponse) : ResultResponse :=
  { taskId := p.taskId.getD r.taskId, event := p.event.getD r.event,
    statusCode := p.statusCode.getD r.statusCode, errorMsg := p.errorMsg.getD r.errorMsg,
    result := p.result.getD r.result }

/-- A failure tells its event and error, a success its event and result, and neither touches
what belongs to the other. -/
inductive Reports : Ended → Patch → Prop
  | failed {code : NlsRetCode} {p : Patch} (event : p.event = some .taskFailed) (text : Bytes)
      (error : p.errorMsg = some text) (result : p.result = none) :
      Reports (.returned (.error code)) p
  | completed {p : Patch} (event : p.event = some .taskCompleted) (payload : Bytes)
      (result : p.result = some payload) (error : p.errorMsg = none) :
      Reports (.returned (.ok ())) p
  | thrown {p : Patch} : Reports .thrown p
  | pending {p : Patch} : Reports .pending p

section Calls

variable (parse : Bytes → Option Json)

/-- An answer that makes the loop go on. -/
def Answer.running : Answer → Bool
  | .status statusCode _ _ => statusCode = 21050001 || statusCode = 21050002
  | _ => false

/-- The answers by which a task is accepted, and by which it is completed. -/
def Answer.good : Answer → Bool
  | .status statusCode _ _ => statusCode = 21050000 || statusCode = 21050003
  | _ => false

/-- The answers that are turned into an error; one with another status must tell a text. -/
def Answer.bad : Answer → Bool
  | .requestFailed _ => true
  | .notJson _ => true
  | .noStatus _ => true
  | .status statusCode payload json =>
    !(Answer.status statusCode payload json).good &&
      (textOfMember json (ascii "StatusText")).toBool
  | .thrown => false

/-- The answer at which the polls come to an end. -/
def finalAnswer (polls : List CommonResponseOutcome) : Option Answer :=
  (polls.map (readAnswer parse)).find? fun answer => !answer.running

/-- How the loop ends, by its last answer. -/
def EndOf (final : Option Answer) (ended : Ended) : Prop :=
  (final.any Answer.good = true ↔ ended = .returned (.ok ())) ∧
    (final.any Answer.bad = true ↔ ∃ code, ended = .returned (.error code))

lemma endOf_pending : EndOf none .pending := by
  refine ⟨⟨fun is => Bool.noConfusion is, fun is => by cases is⟩, fun is => Bool.noConfusion is, ?_⟩
  rintro ⟨code, is⟩
  cases is

lemma endOf_failed {answer : Answer} (bad : answer.bad = true) (notGood : answer.good = false)
    (code : NlsRetCode) : EndOf (some answer) (.returned (.error code)) := by
  refine ⟨?_, fun _ => ⟨code, rfl⟩, fun _ => bad⟩
  rw [Option.any_some, notGood]
  constructor <;> intro is <;> cases is

lemma endOf_thrown {answer : Answer} (notBad : answer.bad = false) (notGood : answer.good = false) :
    EndOf (some answer) .thrown := by
  constructor
  · rw [Option.any_some, notGood]
    constructor <;> intro is <;> cases is
  · rw [Option.any_some, notBad]
    refine ⟨fun is => Bool.noConfusion is, ?_⟩
    rintro ⟨code, is⟩
    cases is

lemma endOf_completed {answer : Answer} (notBad : answer.bad = false) (good : answer.good = true) :
    EndOf (some answer) (.returned (.ok ())) := by
  refine ⟨⟨fun _ => rfl, fun _ => good⟩, ?_⟩
  rw [Option.any_some, notBad]
  refine ⟨fun is => Bool.noConfusion is, ?_⟩
  rintro ⟨code, is⟩
  cases is

/-- The loop writes the same whatever the response was before. -/
theorem pollLoop_patch (polls : List CommonResponseOutcome) (statusCode : ℕ) :
    ∃ ended p, (∀ r, pollLoop parse statusCode polls r = (ended, p.on r)) ∧
      p.taskId = none ∧ Reports ended p ∧ EndOf (finalAnswer parse polls) ended := by
  induction polls generalizing statusCode with
  | nil => exact ⟨.pending, {}, fun r => rfl, rfl, .pending, endOf_pending⟩
  | cons outcome polls ih =>
    simp only [pollLoop, finalAnswer, List.map_cons, List.find?_cons]
    cases readAnswer parse outcome with
    | thrown => exact ⟨.thrown, {}, fun r => rfl, rfl, .thrown, endOf_thrown rfl rfl⟩
    | requestFailed errorMessage =>
      exact ⟨_, { errorMsg := some errorMessage, event := some .taskFailed }, fun r => rfl, rfl,
        .failed rfl _ rfl rfl, endOf_failed rfl rfl _⟩
    | notJson payload =>
      exact ⟨_, { errorMsg := some _, event := some .taskFailed }, fun r => rfl, rfl,
        .failed rfl _ rfl rfl, endOf_failed rfl rfl _⟩
    | noStatus payload =>
      exact ⟨_, { errorMsg := some payload, statusCode := some statusCode, event := some .taskFailed },
        fun r => rfl, rfl, .failed rfl _ rfl rfl, endOf_failed rfl rfl _⟩
    | status code payload json =>
      by_cases running : code = 21050001 ∨ code = 21050002
      · have goesOn : (Answer.status code payload json).running = true := by
          simpa [Answer.running] using running
        simp only [if_pos running, goesOn]
        exact ih code
      have stops : (Answer.status code payload json).running = false := by
        simpa [Answer.running] using running
      simp only [if_neg running, stops]
      by_cases good : code = 21050000 ∨ code = 21050003
      · have completes : (Answer.status code payload json).good = true := by
          simpa [Answer.good] using good
        simp only [if_pos good]
        exact ⟨_, { result := some payload, statusCode := some code, event := some .taskCompleted },
          fun r => rfl, rfl, .completed rfl _ rfl rfl,
          endOf_completed (by rw [Answer.bad, completes]; rfl) completes⟩
      have fails : (Answer.status code payload json).good = false := by
        simpa [Answer.good] using good
      simp only [if_neg good]
      cases told : textOfMember json (ascii "StatusText") with
      | error _ =>
        exact ⟨.thrown, {}, fun r => rfl, rfl, .thrown,
          endOf_thrown (by rw [Answer.bad, fails, told]; rfl) fails⟩
      | ok text =>
        exact ⟨_, { errorMsg := some text, statusCode := some code, event := some .taskFailed },
          fun r => rfl, rfl, .failed rfl _ rfl rfl,
          endOf_failed (by rw [Answer.bad, fails, told]; rfl) fails _⟩

/-- No required parameter is empty. -/
def Params.Filled (p : Params) : Prop :=
  p.accessKeySecret ≠ [] ∧ p.accessKeyId ≠ [] ∧ p.appKey ≠ [] ∧ p.fileLink ≠ [] ∧ p.domain ≠ [] ∧
    p.serverVersion ≠ [] ∧ p.action ≠ []

lemma paramCheck_patch (params : Params) :
    (params.Filled ∧ ∀ r, paramCheck params r = (.ok (), r)) ∨
      ¬ params.Filled ∧ ∃ code text, ∀ r, paramCheck params r =
        (.error code, { r with errorMsg := text, event := .taskFailed }) := by
  simp only [paramCheck]
  split
  · next check code text found =>
    refine .inr ⟨fun filled => ?_, code, text, fun r => rfl⟩
    have empty := List.find?_some found
    have among := List.mem_of_find?_eq_some found
    obtain ⟨secret, id, appKey, link, domain, version, action⟩ := filled
    simp only [List.mem_cons, Prod.mk.injEq, List.not_mem_nil, or_false] at among
    rcases among with is | is | is | is | is | is | is <;> simp_all
  · next found =>
    refine .inl ⟨?_, fun r => rfl⟩
    simpa [Params.Filled] using found

/-- The call comes to the submission of its task. -/
def Call.Ready (call : Call) : Prop :=
  call.params.Filled ∧ customError parse call.params.customParam = none

/-- The custom parameters are not a JSON object. -/
def Call.CustomRejected (call : Call) : Prop :=
  call.params.Filled ∧ customError parse call.params.customParam ≠ none

/-- The answer to the submission is not JSON. -/
def Call.SubmitUnreadable (call : Call) : Prop :=
  call.Ready parse ∧ ∃ payload, readAnswer parse call.submit = .notJson payload

/-- The call fails without telling the event. -/
def Call.Silent (call : Call) : Prop := call.CustomRejected parse ∨ call.SubmitUnreadable parse

/-- The task id of an answer that accepts the task. -/
def Answer.acceptedTask : Answer → Option Bytes
  | .status statusCode payload json =>
    if (Answer.status statusCode payload json).good then (textOfMember json (ascii "TaskId")).toOption
    else none
  | _ => none

/-- The task is accepted and the result asked for. -/
def Call.Polls (call : Call) : Prop :=
  call.Ready parse ∧ (readAnswer parse call.submit).acceptedTask ≠ none

def Call.Completes (call : Call) : Prop :=
  call.Polls parse ∧ (finalAnswer parse call.polls).any Answer.good = true

def Call.Fails (call : Call) : Prop :=
  ¬ call.Ready parse ∨ (readAnswer parse call.submit).bad = true ∨
    call.Polls parse ∧ (finalAnswer parse call.polls).any Answer.bad = true

/-- What a call writes, by the inputs it was given. -/
structure Writes (call : Call) (ended : Ended) (p : Patch) : Prop where
  completes : call.Completes parse ↔ ended = .returned (.ok ())
  fails : call.Fails parse ↔ ∃ code, ended = .returned (.error code)
  success : ended = .returned (.ok ()) → p.event = some .taskCompleted ∧ p.result ≠ none ∧
    p.taskId ≠ none ∧ p.errorMsg = none
  failure : ∀ code, ended = .returned (.error code) → p.result = none ∧
    (p.taskId = none ↔ ¬ call.Polls parse) ∧
    (call.Silent parse → p.event = none) ∧ (¬ call.Silent parse → p.event = some .taskFailed) ∧
    (p.errorMsg = none ↔ call.CustomRejected parse)

variable {parse} {call : Call}

/-- A failure before the polls. -/
lemma writes_failed {code : NlsRetCode} {p : Patch} (fails : call.Fails parse)
    (unpolled : ¬ call.Polls parse) (result : p.result = none) (taskId : p.taskId = none)
    (silent : call.Silent parse → p.event = none)
    (told : ¬ call.Silent parse → p.event = some .taskFailed)
    (error : p.errorMsg = none ↔ call.CustomRejected parse) :
    Writes parse call (.returned (.error code)) p where
  completes := ⟨fun completes => absurd completes.1 unpolled, fun is => by cases is⟩
  fails := ⟨fun _ => ⟨code, rfl⟩, fun _ => fails⟩
  success := fun is => by cases is
  failure := fun _ _ => ⟨result, ⟨fun _ => unpolled, fun _ => taskId⟩, silent, told, error⟩

lemma writes_thrown {p : Patch} (notFails : ¬ call.Fails parse) (unpolled : ¬ call.Polls parse) :
    Writes parse call .thrown p where
  completes := ⟨fun completes => absurd completes.1 unpolled, fun is => by cases is⟩
  fails := ⟨fun fails => absurd fails notFails, fun ⟨_, is⟩ => by cases is⟩
  success := fun is => by cases is
  failure := fun _ is => by cases is

lemma not_silent_of_answer (ready : call.Ready parse)
    (readable : ∀ payload, readAnswer parse call.submit ≠ .notJson payload) :
    ¬ call.Silent parse := by
  rintro (⟨-, rejected⟩ | ⟨-, payload, is⟩)
  · exact rejected ready.2
  · exact readable payload is

lemma not_rejected (ready : call.Ready parse) : ¬ call.CustomRejected parse := fun rejected =>
  rejected.2 ready.2

/-- A call that polls writes what the loop writes, and the task id. -/
lemma writes_polled (ready : call.Ready parse) {taskId : Bytes}
    (accepted : (readAnswer parse call.submit).acceptedTask = some taskId)
    (readable : ∀ payload, readAnswer parse call.submit ≠ .notJson payload)
    (notBad : (readAnswer parse call.submit).bad = false) :
    ∃ ended p, (∀ r, applyResultRequest parse taskId call r = (ended, p.on r)) ∧
      Writes parse call ended p := by
  obtain ⟨ended, p, is, unset, reports, ends⟩ := pollLoop_patch parse call.polls call.unset
  have polls : call.Polls parse := ⟨ready, by simp [accepted]⟩
  have loud := not_silent_of_answer ready readable
  refine ⟨ended, { p with taskId := some taskId }, fun r => ?_, ?_⟩
  · rw [applyResultRequest, is, Patch.on, Patch.on, unset]
    rfl
  have fails_iff : call.Fails parse ↔ (finalAnswer parse call.polls).any Answer.bad = true := by
    rw [Call.Fails, notBad]
    constructor
    · rintro (unready | bad | ⟨-, is⟩)
      · exact absurd ready unready
      · exact absurd bad Bool.false_ne_true
      · exact is
    · exact fun is => .inr (.inr ⟨polls, is⟩)
  constructor
  · rw [← ends.1]
    exact ⟨fun completes => completes.2, fun is => ⟨polls, is⟩⟩
  · rw [fails_iff, ends.2]
  · rintro rfl
    cases reports with
    | completed event payload result error => exact ⟨event, by simp [result], by simp, error⟩
  · rintro code rfl
    cases reports with
    | failed event text error result =>
      refine ⟨result, ⟨fun is => (by cases is), fun unpolled => absurd polls unpolled⟩,
        fun silent => absurd silent loud, fun _ => event, ?_⟩
      rw [error]
      exact ⟨fun is => (by cases is), fun rejected => absurd rejected (not_rejected ready)⟩

/-- A call that ends with the answer to the submission, and tells an error. -/
lemma writes_submitted {code : NlsRetCode} {p : Patch} (ready : call.Ready parse)
    (readable : ∀ payload, readAnswer parse call.submit ≠ .notJson payload)
    (bad : (readAnswer parse call.submit).bad = true)
    (unaccepted : (readAnswer parse call.submit).acceptedTask = none) (result : p.result = none)
    (taskId : p.taskId = none) (event : p.event = some .taskFailed) (error : p.errorMsg ≠ none) :
    Writes parse call (.returned (.error code)) p :=
  writes_failed (.inr (.inl bad)) (fun polls => polls.2 unaccepted) result taskId
    (fun silent => absurd silent (not_silent_of_answer ready readable)) (fun _ => event)
    ⟨fun is => absurd is error, fun rejected => absurd rejected (not_rejected ready)⟩

lemma writes_lost {p : Patch} (ready : call.Ready parse)
    (notBad : (readAnswer parse call.submit).bad = false)
    (unaccepted : (readAnswer parse call.submit).acceptedTask = none) :
    Writes parse call .thrown p := by
  have unpolled : ¬ call.Polls parse := fun polls => polls.2 unaccepted
  refine writes_thrown ?_ unpolled
  rintro (unready | bad | ⟨polls, -⟩)
  · exact unready ready
  · rw [notBad] at bad
    exact Bool.noConfusion bad
  · exact unpolled polls

/-- Every call writes the same whatever the response was before, and its inputs tell which
fields. -/
theorem applyFileTrans_patch (parse : Bytes → Option Json) (call : Call) :
    ∃ ended p, (∀ r, applyFileTrans parse call r = (ended, p.on r)) ∧ Writes parse call ended p := by
  rcases paramCheck_patch call.params with ⟨filled, check⟩ | ⟨empty, code, text, check⟩
  swap
  · have unready : ¬ call.Ready parse := fun ready => empty ready.1
    have loud : ¬ call.Silent parse := by
      rintro (⟨filled, -⟩ | ⟨ready, -⟩)
      · exact empty filled
      · exact unready ready
    refine ⟨.returned (.error code), { errorMsg := some text, event := some .taskFailed },
      fun r => ?_, writes_failed (.inl unready) (fun polls => unready polls.1) rfl rfl
        (fun silent => absurd silent loud) (fun _ => rfl)
        ⟨fun is => (by cases is), fun rejected => absurd rejected.1 empty⟩⟩
    simp only [applyFileTrans, check]
    rfl
  cases custom : customError parse call.params.customParam with
  | some code =>
    have rejected : call.CustomRejected parse := ⟨filled, by simp [custom]⟩
    have unready : ¬ call.Ready parse := fun ready => rejected.2 ready.2
    refine ⟨.returned (.error code), {}, fun r => ?_,
      writes_failed (.inl unready) (fun polls => unready polls.1) rfl rfl (fun _ => rfl)
        (fun loud => absurd (.inl rejected) loud) ⟨fun _ => rejected, fun _ => rfl⟩⟩
    simp only [applyFileTrans, check, custom]
    rfl
  | none =>
    have ready : call.Ready parse := ⟨filled, custom⟩
    cases answer : readAnswer parse call.submit with
    | thrown =>
      refine ⟨.thrown, {}, fun r => ?_, writes_lost ready (by rw [answer]; rfl) (by rw [answer]; rfl)⟩
      simp only [applyFileTrans, check, custom, answer]
      rfl
    | requestFailed errorMessage =>
      refine ⟨.returned (.error .clientRequestFaild),
        { event := some .taskFailed, errorMsg := some errorMessage }, fun r => ?_,
        writes_submitted ready (by simp [answer]) (by rw [answer]; rfl) (by rw [answer]; rfl) rfl
          rfl rfl (by simp)⟩
      simp only [applyFileTrans, check, custom, answer]
      rfl
    | notJson payload =>
      have unreadable : call.SubmitUnreadable parse := ⟨ready, payload, answer⟩
      refine ⟨.returned (.error .jsonParseFailed),
        { errorMsg := some (ascii "Json any failed: " ++ payload) }, fun r => ?_,
        writes_failed (.inr (.inl (by rw [answer]; rfl)))
          (fun polls => polls.2 (by rw [answer]; rfl)) rfl rfl (fun _ => rfl)
          (fun loud => absurd (.inr unreadable) loud)
          ⟨fun is => (by cases is), fun rejected => absurd rejected (not_rejected ready)⟩⟩
      simp only [applyFileTrans, check, custom, answer]
      rfl
    | noStatus payload =>
      refine ⟨.returned (.error .jsonParseFailed),
        { event := some .taskFailed, errorMsg := some (ascii "Json anly failed.") }, fun r => ?_,
        writes_submitted ready (by simp [answer]) (by rw [answer]; rfl) (by rw [answer]; rfl) rfl
          rfl rfl (by simp)⟩
      simp only [applyFileTrans, check, custom, answer]
      rfl
    | status statusCode payload json =>
      have readable : ∀ payload, readAnswer parse call.submit ≠ .notJson payload := by simp [answer]
      by_cases refused : statusCode ≠ 21050000 ∧ statusCode ≠ 21050003
      · have notGood : (Answer.status statusCode payload json).good = false := by
          simpa [Answer.good] using refused
        have unaccepted : (readAnswer parse call.submit).acceptedTask = none := by
          rw [answer, Answer.acceptedTask, notGood]
          rfl
        cases told : textOfMember json (ascii "StatusText") with
        | error _ =>
          refine ⟨.thrown, { event := some .taskFailed, statusCode := some statusCode }, fun r => ?_,
            writes_lost ready (by rw [answer, Answer.bad, notGood, told]; rfl) unaccepted⟩
          simp only [applyFileTrans, check, custom, answer, if_pos refused, told]
          rfl
        | ok text =>
          refine ⟨.returned (.error .errorStatusCode),
            { event := some .taskFailed, statusCode := some statusCode, errorMsg := some text },
            fun r => ?_,
            writes_submitted ready readable (by rw [answer, Answer.bad, notGood, told]; rfl)
              unaccepted rfl rfl rfl (by simp)⟩
          simp only [applyFileTrans, check, custom, answer, if_pos refused, told]
          rfl
      · have good : (Answer.status statusCode payload json).good = true := by
          simp only [Answer.good, Bool.or_eq_true, decide_eq_true_eq]
          omega
        have notBad : (readAnswer parse call.submit).bad = false := by
          rw [answer, Answer.bad, good]
          rfl
        cases told : textOfMember json (ascii "TaskId") with
        | error _ =>
          refine ⟨.thrown, {}, fun r => ?_, writes_lost ready notBad
            (by rw [answer, Answer.acceptedTask, if_pos good, told]; rfl)⟩
          simp only [applyFileTrans, check, custom, answer, if_neg refused, told]
          rfl
        | ok taskId =>
          obtain ⟨ended, p, is, writes⟩ := writes_polled ready
            (show _ = some taskId by rw [answer, Answer.acceptedTask, if_pos good, told]; rfl)
            readable notBad
          refine ⟨ended, p, fun r => ?_, writes⟩
          simp only [applyFileTrans, check, custom, answer, if_neg refused, told]
          exact is r

/-! ## What the user reads after a call -/

section Reading

variable (parse : Bytes → Option Json) (r : ResultResponse) (call : Call)

/-- What the call makes of the response of a new object: its own error, result and task id. -/
def own : ResultResponse := (applyFileTrans parse call .fresh).2

/-- A failed call reports its failure with its own error, and a successful one its completion
with its own result and task id. -/
def Reported : Prop :=
  (∀ code, (applyFileTrans parse call r).1 = .returned (.error code) →
    (step parse r call).event = .taskFailed ∧ (step parse r call).errorMsg = (own parse call).errorMsg) ∧
  ((applyFileTrans parse call r).1 = .returned (.ok ()) →
    (step parse r call).event = .taskCompleted ∧ (step parse r call).result = (own parse call).result ∧
      (step parse r call).taskId = (own parse call).taskId)

/-- Besides, what belongs to the other way of ending is not left over either. -/
def NothingLeft : Prop :=
  Reported parse r call ∧
  (∀ code, (applyFileTrans parse call r).1 = .returned (.error code) →
    (step parse r call).result = (own parse call).result ∧
      (step parse r call).taskId = (own parse call).taskId) ∧
  ((applyFileTrans parse call r).1 = .returned (.ok ()) →
    (step parse r call).errorMsg = (own parse call).errorMsg)

/-- The two silent failures are not taken, or what they leave is right by chance. -/
def Loud : Prop :=
  (call.CustomRejected parse → r.event = .taskFailed ∧ r.errorMsg = []) ∧
    (call.SubmitUnreadable parse → r.event = .taskFailed)

/-- A failure finds no result, and no task id unless it sets one; a success finds no error. -/
def Blank : Prop :=
  (call.Fails parse → r.result = [] ∧ (¬ call.Polls parse → r.taskId = [])) ∧
    (call.Completes parse → r.errorMsg = [])

lemma step_patch {ended : Ended} {p : Patch}
    (is : ∀ r, applyFileTrans parse call r = (ended, p.on r)) :
    (applyFileTrans parse call r).1 = ended ∧ step parse r call = p.on r ∧
      own parse call = p.on .fresh := by
  refine ⟨?_, ?_, ?_⟩
  · rw [is]
  · rw [step, is]
  · rw [own, is]

lemma getD_congr {α : Type} {o : Option α} (some : o ≠ none) (a b : α) : o.getD a = o.getD b := by
  cases o with
  | none => exact absurd rfl some
  | some v => rfl

theorem reported_iff : Reported parse r call ↔ Loud parse r call := by
  obtain ⟨ended, p, is, writes⟩ := applyFileTrans_patch parse call
  obtain ⟨ends, after, own_is⟩ := step_patch parse r call is
  rw [Reported, Loud, ends, after, own_is]
  constructor
  · rintro ⟨failed, -⟩
    constructor
    · intro rejected
      obtain ⟨code, rfl⟩ := writes.fails.mp (.inl fun ready => rejected.2 ready.2)
      obtain ⟨-, -, silent, -, error⟩ := writes.failure code rfl
      obtain ⟨event, text⟩ := failed code rfl
      rw [Patch.on, silent (.inl rejected)] at event
      rw [Patch.on, Patch.on, error.mpr rejected] at text
      exact ⟨event, text⟩
    · intro unreadable
      obtain ⟨payload, answer⟩ := unreadable.2
      obtain ⟨code, rfl⟩ := writes.fails.mp (.inr (.inl (by rw [answer]; rfl)))
      obtain ⟨-, -, silent, -, -⟩ := writes.failure code rfl
      have event := (failed code rfl).1
      rwa [Patch.on, silent (.inr unreadable)] at event
  · rintro ⟨custom, submit⟩
    constructor
    · rintro code rfl
      obtain ⟨-, -, silent, loud, error⟩ := writes.failure code rfl
      have event : (p.on r).event = .taskFailed := by
        by_cases quiet : call.Silent parse
        · have before : r.event = .taskFailed := quiet.elim (fun is => (custom is).1) submit
          rw [Patch.on, silent quiet]
          exact before
        · rw [Patch.on, loud quiet]
          rfl
      refine ⟨event, ?_⟩
      by_cases rejected : call.CustomRejected parse
      · rw [Patch.on, Patch.on, error.mpr rejected]
        exact (custom rejected).2
      · exact getD_congr (fun none => rejected (error.mp none)) _ _
    · rintro rfl
      obtain ⟨event, result, taskId, -⟩ := writes.success rfl
      refine ⟨?_, getD_congr result _ _, getD_congr taskId _ _⟩
      rw [Patch.on, event]
      rfl

theorem nothingLeft_iff : NothingLeft parse r call ↔ Loud parse r call ∧ Blank parse r call := by
  rw [NothingLeft, reported_iff]
  obtain ⟨ended, p, is, writes⟩ := applyFileTrans_patch parse call
  obtain ⟨ends, after, own_is⟩ := step_patch parse r call is
  rw [Blank, ends, after, own_is, writes.completes, writes.fails]
  refine and_congr_right fun _ => and_congr ?_ ?_
  · constructor
    · rintro left ⟨code, rfl⟩
      obtain ⟨result, taskId, -⟩ := writes.failure code rfl
      obtain ⟨noResult, noTask⟩ := left code rfl
      rw [Patch.on, Patch.on, result] at noResult
      refine ⟨noResult, fun unpolled => ?_⟩
      rw [Patch.on, Patch.on, taskId.mpr unpolled] at noTask
      exact noTask
    · rintro blank code rfl
      obtain ⟨result, taskId, -⟩ := writes.failure code rfl
      obtain ⟨noResult, noTask⟩ := blank ⟨code, rfl⟩
      constructor
      · rw [Patch.on, Patch.on, result]
        exact noResult
      · by_cases polls : call.Polls parse
        · exact getD_congr (fun none => taskId.mp none polls) _ _
        · rw [Patch.on, Patch.on, taskId.mpr polls]
          exact noTask polls
  · constructor
    · rintro left rfl
      obtain ⟨-, -, -, error⟩ := writes.success rfl
      have noError := left rfl
      rwa [Patch.on, Patch.on, error] at noError
    · rintro blank rfl
      obtain ⟨-, -, -, error⟩ := writes.success rfl
      rw [Patch.on, Patch.on, error]
      exact blank rfl

end Reading

/-- In a run of calls on one object every call reports its own outcome exactly when no silent
failure is taken but by chance; and nothing at all is left over exactly when, besides, no failure
comes after a success and no success after a failure, in the fields they leave alone. -/
theorem reported_along_iff (parse : Bytes → Option Json) (calls : List Call) :
    (Along (step parse) (Reported parse) .fresh calls ↔
      Along (step parse) (Loud parse) .fresh calls) ∧
    (Along (step parse) (NothingLeft parse) .fresh calls ↔
      Along (step parse) (fun r call => Loud parse r call ∧ Blank parse r call) .fresh calls) := by
  have reported : Reported parse = Loud parse :=
    funext fun r => funext fun call => propext (reported_iff parse r call)
  have left : NothingLeft parse = fun r call => Loud parse r call ∧ Blank parse r call :=
    funext fun r => funext fun call => propext (nothingLeft_iff parse r call)
  rw [reported, left]
  exact ⟨Iff.rfl, Iff.rfl⟩

end Calls

/-- A reader that knows one document, an accepted and completed task. -/
def oneDocument (payload : Bytes) : Option Json :=
  if payload = ascii "done" then
    some (.object [(ascii "StatusCode", .int 21050000), (ascii "TaskId", .string (ascii "t"))])
  else none

def filledParams (customParam : Bytes) : Params :=
  { accessKeySecret := ascii "s", accessKeyId := ascii "i", appKey := ascii "k",
    fileLink := ascii "l", domain := ascii "d", serverVersion := ascii "v", action := ascii "a",
    customParam := customParam }

/-- A task that is completed at once. -/
def completedCall : Call :=
  { params := filledParams [], submit := .success (ascii "done"), polls := [.success (ascii "done")],
    unset := 0 }

/-- The same with custom parameters that are not JSON. -/
def customCall : Call := { completedCall with params := filledParams (ascii "no json") }

/-- The second call fails, and the event is still that of the first one. -/
theorem completed_left_over :
    ¬ Along (step oneDocument) (Reported oneDocument) .fresh [completedCall, customCall] := by
  rintro ⟨-, ⟨failed, -⟩, -⟩
  have ended : (applyFileTrans oneDocument customCall (step oneDocument .fresh completedCall)).1 =
      .returned (.error .jsonParseFailed) := rfl
  have event : (step oneDocument (step oneDocument .fresh completedCall) customCall).event =
      .taskCompleted := rfl
  rw [event] at failed
  exact FileTransEvent.noConfusion (failed _ ended).1

end FileTrans
end NlsSdk.Token
