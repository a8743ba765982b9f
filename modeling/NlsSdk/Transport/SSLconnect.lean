import NlsSdk.Library.Run
import NlsSdk.Library.Scanf
import NlsSdk.Transport.UpgradeResponse
import NlsSdk.Transport.ConnectAttempts

/-!
# The TLS connection of a node

`SSLconnect.cpp`. What OpenSSL and `errno` answer is an input of each call. The text of the last
failure and the count of the close notices passed over stay with the handle when its connection is
closed and made again.
-/
namespace NlsSdk.Transport

open Library
open Library.Scanf (intDecimal)

/-! ## What OpenSSL answers -/

/-- The errors of `SSL_get_error`, in the order of their numbers. -/
inductive SslError
  | noError | ssl | wantRead | wantWrite | wantX509Lookup | syscall | zeroReturn | wantConnect
  | wantAccept
  deriving DecidableEq, Repr

def SslError.code : SslError → ℕ
  | .noError => 0
  | .ssl => 1
  | .wantRead => 2
  | .wantWrite => 3
  | .wantX509Lookup => 4
  | .syscall => 5
  | .zeroReturn => 6
  | .wantConnect => 7
  | .wantAccept => 8

/-- The result of a call, and what `SSL_get_error`, `errno` and `ERR_error_string_n` say behind
it. -/
structure SslAnswer where
  ret : ℤ
  sslError : SslError := .noError
  errno : ℤ := 0
  text : Bytes := []
  deriving DecidableEq, Repr

def eintr : ℤ := 4
def eagain : ℤ := 11
def econnreset : ℤ := 104
def einprogress : ℤ := 115

/-- `NLS_ERR_RW_RETRIABLE` -/
def nlsErrRwRetriable (errno : ℤ) : Bool := errno = eintr || errno = eagain

/-- `NLS_ERR_CONNECT_RETRIABLE` -/
def nlsErrConnectRetriable (errno : ℤ) : Bool := errno = eintr || errno = einprogress

/-- The codes the handle fails with; they are returned negated. -/
inductive SslRetCode
  | sslCtxEmpty | sslNewFailed | sslSetFailed | sslConnectFailed | sslWriteFailed | sslReadFailed
  | sslReadSysError
  deriving DecidableEq, Repr

/-! ## The texts of the failures -/

def maxSslErrorLength : ℕ := 512
def maxSslTryAgain : ℕ := 3

/-- The call that failed, and behind it the text of OpenSSL as far as the buffer takes it. -/
def sslErrMsg (call : String) (a : SslAnswer) : Bytes :=
  ascii call ++ a.text.take (maxSslErrorLength - (ascii call).length - 2)

/-- `snprintf` into the text of the handle. -/
def sslPrint (text : Bytes) : Bytes := text.take (maxSslErrorLength - 1)

/-- `errno_code:%d` and `ssl_eCode:%d` with what stands between them. -/
def sslCodes (a : SslAnswer) (sep : String) : Bytes :=
  ascii "errno_code:" ++ intDecimal a.errno ++ ascii sep ++ ascii "ssl_eCode:" ++
    intDecimal a.sslError.code ++ ascii "."

def sslResetText (call : String) (a : SslAnswer) : Bytes :=
  sslPrint (sslErrMsg call a ++ ascii (". It's mean the remote end was " ++
    "closed because of bad network. ") ++ sslCodes a ", ")

def sslFailedText (call sep : String) (a : SslAnswer) : Bytes :=
  sslPrint (sslErrMsg call a ++ ascii ". " ++ sslCodes a sep)

def sslClosedText (call : String) (a : SslAnswer) (ending : String) : Bytes :=
  sslPrint (sslErrMsg call a ++ ascii ". " ++ sslCodes a " " ++
    ascii (" It's mean this connection was closed or shutdown because of bad network" ++ ending))

/-! ## The handle -/

/-- `_ssl` is set or not; the counter is an `int` in the source. -/
structure SSLconnect where
  ssl : Bool := false
  sslTryAgain : ℕ := 0
  errorMsg : Bytes := []
  deriving DecidableEq, Repr

/-- What a handshake finds: the context, `SSL_new`, `SSL_set_fd` and `SSL_connect`. -/
structure SslHandshake where
  sslCtx : Bool := true
  sslNew : Bool := true
  sslSetFd : Bool := true
  answer : SslAnswer

namespace SSLconnect

/-- Leave a text and fail. -/
def fail (c : SSLconnect) (text : Bytes) (code : SslRetCode) : SSLconnect × Except SslRetCode ℕ :=
  ({ c with errorMsg := text }, .error code)

def sslClose (c : SSLconnect) : SSLconnect := { c with ssl := false }

/-- `SSL_connect` of a handle that is set up. A result of zero counts as success. -/
def sslConnect (c : SSLconnect) (a : SslAnswer) : SSLconnect × Except SslRetCode ℕ :=
  if a.ret < 0 then
    if a.sslError = .wantRead ∨ a.sslError = .wantWrite then (c, .ok a.sslError.code)
    else if a.sslError = .syscall then
      if nlsErrConnectRetriable a.errno || nlsErrRwRetriable a.errno then
        (c, .ok SslError.wantRead.code)
      else if a.errno = 0 then (c, .ok 0)
      else (c, .error .sslConnectFailed)
    else
      let failed := c.fail (sslErrMsg "return of SSL_connect: " a) .sslConnectFailed
      (failed.1.sslClose, failed.2)
  else (c, .ok 0)

/-- A handle whose socket could not be set is not set up again. -/
def sslHandshake (c : SSLconnect) (h : SslHandshake) : SSLconnect × Except SslRetCode ℕ :=
  if !h.sslCtx then (c, .error .sslCtxEmpty)
  else if c.ssl then c.sslConnect h.answer
  else if !h.sslNew then c.fail (sslErrMsg "return of SSL_new: " h.answer) .sslNewFailed
  else
    let c := { c with ssl := true }
    if !h.sslSetFd then c.fail (sslErrMsg "return of SSL_set_fd: " h.answer) .sslSetFailed
    else c.sslConnect h.answer

def sslWriteRet : String := "return of SSL_write: "
def sslReadRet : String := "return of SSL_read: "

def sslWrite (c : SSLconnect) (a : SslAnswer) : SSLconnect × Except SslRetCode ℕ :=
  if !c.ssl then (c, .error .sslWriteFailed)
  else if a.ret < 0 then
    if a.sslError = .wantRead ∨ a.sslError = .wantWrite then (c, .ok 0)
    else if a.sslError = .syscall then
      if nlsErrConnectRetriable a.errno || nlsErrRwRetriable a.errno then (c, .ok 0)
      else if a.errno = 0 then (c, .ok 0)
      else if a.errno = econnreset then c.fail (sslResetText sslWriteRet a) .sslWriteFailed
      else c.fail (sslFailedText sslWriteRet " " a) .sslWriteFailed
    else if a.sslError = .zeroReturn ∧ a.errno = 0 then
      c.fail (sslClosedText sslWriteRet a ".") .sslWriteFailed
    else c.fail (sslFailedText sslWriteRet " " a) .sslWriteFailed
  else (c, .ok a.ret.toNat)

/-- A close notice is counted, and passed over while the count is at most `maxSslTryAgain`. -/
def sslRead (c : SSLconnect) (a : SslAnswer) : SSLconnect × Except SslRetCode ℕ :=
  if !c.ssl then (c, .error .sslReadFailed)
  else if a.ret ≤ 0 then
    if a.sslError = .wantRead ∨ a.sslError = .wantWrite ∨ a.sslError = .wantX509Lookup then
      (c, .ok 0)
    else if a.sslError = .syscall then
      if nlsErrConnectRetriable a.errno || nlsErrRwRetriable a.errno then (c, .ok 0)
      else if a.errno = 0 then (c, .ok 0)
      else if a.errno = econnreset then c.fail (sslResetText sslReadRet a) .sslReadSysError
      else c.fail (sslFailedText sslReadRet ", " a) .sslReadSysError
    else if a.sslError = .zeroReturn ∧ a.errno = 0 then
      let c := { c with sslTryAgain := c.sslTryAgain + 1 }
      if c.sslTryAgain ≤ maxSslTryAgain then
        ({ c with errorMsg := sslClosedText sslReadRet a ", Try again ..." }, .ok 0)
      else c.fail (sslFailedText sslReadRet " " a) .sslReadFailed
    else c.fail (sslFailedText sslReadRet " " a) .sslReadFailed
  else ({ c with sslTryAgain := 0 }, .ok a.ret.toNat)

inductive Call
  | sslHandshake (h : SslHandshake)
  | sslWrite (a : SslAnswer)
  | sslRead (a : SslAnswer)
  | sslClose

def step (c : SSLconnect) : Call → SSLconnect
  | .sslHandshake h => (c.sslHandshake h).1
  | .sslWrite a => (c.sslWrite a).1
  | .sslRead a => (c.sslRead a).1
  | .sslClose => c.sslClose

/-! ## Close notices -/

/-- The peer closed the connection, and no error is pending. -/
def IsCloseNotice (a : SslAnswer) : Prop := a.ret ≤ 0 ∧ a.sslError = .zeroReturn ∧ a.errno = 0

instance (a : SslAnswer) : Decidable (IsCloseNotice a) := inferInstanceAs (Decidable (_ ∧ _))

/-- Whether a call reads a close notice. -/
def noticed (c : SSLconnect) : Call → ℕ
  | .sslRead a => if c.ssl ∧ IsCloseNotice a then 1 else 0
  | _ => 0

/-- Whether a call reads a close notice and says that nothing is there yet. -/
def passedOver (c : SSLconnect) : Call → ℕ
  | .sslRead a => if c.ssl ∧ IsCloseNotice a ∧ (c.sslRead a).2 = .ok 0 then 1 else 0
  | _ => 0

/-- Whether a call hands data over. -/
def delivered (c : SSLconnect) : Call → ℕ
  | .sslRead a => if c.ssl ∧ 0 < a.ret then 1 else 0
  | _ => 0

/-- How many close notices the handle still passes over. -/
def spare (c : SSLconnect) : ℕ := maxSslTryAgain - c.sslTryAgain

variable {c : SSLconnect} {a : SslAnswer}

lemma sslConnect_kept (c : SSLconnect) (a : SslAnswer) :
    (c.sslConnect a).1.sslTryAgain = c.sslTryAgain := by
  simp only [sslConnect, fail, sslClose]
  split_ifs <;> rfl

lemma sslHandshake_kept (c : SSLconnect) (h : SslHandshake) :
    (c.sslHandshake h).1.sslTryAgain = c.sslTryAgain := by
  simp only [sslHandshake, fail]
  split_ifs
  · rfl
  · exact sslConnect_kept ..
  · rfl
  · rfl
  · exact sslConnect_kept ..

lemma sslWrite_kept (c : SSLconnect) (a : SslAnswer) :
    (c.sslWrite a).1.sslTryAgain = c.sslTryAgain := by
  simp only [sslWrite, fail]
  split_ifs <;> rfl

lemma sslRead_closed (closed : c.ssl = false) : c.sslRead a = (c, .error .sslReadFailed) := by
  simp [sslRead, closed]

lemma sslRead_data (open_ : c.ssl = true) (data : 0 < a.ret) :
    c.sslRead a = ({ c with sslTryAgain := 0 }, .ok a.ret.toNat) := by
  simp [sslRead, open_, not_le.mpr data]

lemma sslRead_closeNotice (open_ : c.ssl = true) (closing : IsCloseNotice a) :
    (c.sslRead a).1.sslTryAgain = c.sslTryAgain + 1 ∧
      ((c.sslRead a).2 = .ok 0 ↔ c.sslTryAgain < maxSslTryAgain) := by
  obtain ⟨nothing, notice, pending⟩ := closing
  by_cases again : c.sslTryAgain < maxSslTryAgain
  · have counted : c.sslTryAgain + 1 ≤ maxSslTryAgain := again
    simp [sslRead, open_, nothing, notice, pending, counted, again]
  · have counted : ¬c.sslTryAgain + 1 ≤ maxSslTryAgain := again
    simp [sslRead, fail, open_, nothing, notice, pending, counted, again]

lemma sslRead_other (nothing : a.ret ≤ 0) (other : ¬IsCloseNotice a) :
    (c.sslRead a).1.sslTryAgain = c.sslTryAgain := by
  have zero : ¬(a.sslError = .zeroReturn ∧ a.errno = 0) := fun closed => other ⟨nothing, closed⟩
  simp only [sslRead, fail, if_pos nothing, if_neg zero]
  split_ifs <;> rfl

/-- A close notice adds to the count, data clears it, and nothing else changes it. -/
lemma step_sslTryAgain (c : SSLconnect) (call : Call) :
    (c.step call).sslTryAgain =
      if c.delivered call = 0 then c.sslTryAgain + c.noticed call else 0 := by
  cases call with
  | sslHandshake h => exact sslHandshake_kept c h
  | sslWrite a => exact sslWrite_kept c a
  | sslClose => rfl
  | sslRead a =>
    simp only [step, delivered, noticed]
    rcases Bool.eq_false_or_eq_true c.ssl with state | state
    · by_cases data : 0 < a.ret
      · rw [sslRead_data state data]
        simp [data, state]
      · by_cases closing : IsCloseNotice a
        · rw [(sslRead_closeNotice state closing).1]
          simp [data, closing, state]
        · rw [sslRead_other (not_lt.mp data) closing]
          simp [data, closing]
    · rw [sslRead_closed state]
      simp [state]

lemma passedOver_eq (c : SSLconnect) (call : Call) :
    c.passedOver call = min c.spare (c.noticed call) := by
  cases call with
  | sslHandshake h => simp [passedOver, noticed]
  | sslWrite a => simp [passedOver, noticed]
  | sslClose => simp [passedOver, noticed]
  | sslRead a =>
    simp only [passedOver, noticed, spare]
    by_cases read : c.ssl = true ∧ IsCloseNotice a
    · rw [if_pos read]
      simp only [read.1, read.2, (sslRead_closeNotice read.1 read.2).2, true_and]
      split <;> omega
    · rw [if_neg read, if_neg (fun is => read ⟨is.1, is.2.1⟩)]
      simp

/-- Over all connections of a handle no more than `maxSslTryAgain` close notices are passed over
between two reads that hand data over; while none does, as many are as the handle has to spare. -/
theorem closeNotices_passedOver (c : SSLconnect) (calls : List Call) :
    total step passedOver c calls + (run step c calls).spare ≤
        c.spare + maxSslTryAgain * total step delivered c calls ∧
      (total step delivered c calls = 0 →
        total step passedOver c calls = min c.spare (total step noticed c calls)) := by
  constructor
  · have gains : ∀ gain : ℕ, total step (fun c call => gain * delivered c call) c calls =
        gain * total step delivered c calls := by
      intro gain
      induction calls generalizing c with
      | nil => rfl
      | cons call calls ih => rw [total, total, ih, Nat.mul_add]
    rw [← gains]
    refine total_le_gain (fun c call => ?_) c calls
    have counted := step_sslTryAgain c call
    rw [passedOver_eq]
    simp only [spare, counted]
    split
    · omega
    · have data : 1 ≤ c.delivered call := Nat.one_le_iff_ne_zero.mpr ‹_›
      have most : maxSslTryAgain ≤ maxSslTryAgain * c.delivered call :=
        Nat.le_mul_of_pos_right _ data
      omega
  · induction calls generalizing c with
    | nil => simp [total]
    | cons call calls ih =>
      intro silent
      rw [total] at silent
      have here : c.delivered call = 0 := by omega
      have later := ih (c.step call) (by omega)
      have counted := step_sslTryAgain c call
      rw [if_pos here] at counted
      rw [total, total, later, passedOver_eq]
      simp only [spare, counted]
      omega

example : total step passedOver { ssl := true }
    (List.replicate 5 (.sslRead { ret := 0, sslError := .zeroReturn })) = 3 := by
  decide +kernel

/-! ## The texts -/

lemma length_sslErrMsg {call : String} (short : (ascii call).length + 2 ≤ maxSslErrorLength)
    (a : SslAnswer) : (sslErrMsg call a).length < maxSslErrorLength := by
  rw [sslErrMsg, List.length_append, List.length_take]
  omega

lemma length_sslPrint (text : Bytes) : (sslPrint text).length < maxSslErrorLength := by
  rw [sslPrint, List.length_take]
  have positive : 0 < maxSslErrorLength := by decide
  omega

/-- Every text of a failure leaves room for the end of the string. -/
lemma step_fits {c : SSLconnect} (fits : c.errorMsg.length < maxSslErrorLength) (call : Call) :
    (c.step call).errorMsg.length < maxSslErrorLength := by
  have connects (c : SSLconnect) (fits : c.errorMsg.length < maxSslErrorLength) (a : SslAnswer) :
      (c.sslConnect a).1.errorMsg.length < maxSslErrorLength := by
    simp only [sslConnect, fail, sslClose]
    split_ifs
    · exact fits
    · exact fits
    · exact fits
    · exact fits
    · exact length_sslErrMsg (by decide) a
    · exact fits
  cases call with
  | sslClose => exact fits
  | sslHandshake h =>
    have made := @length_sslErrMsg "return of SSL_new: " (by decide) h.answer
    have socket := @length_sslErrMsg "return of SSL_set_fd: " (by decide) h.answer
    have first := connects { c with ssl := true } fits h.answer
    have again := connects c fits h.answer
    simp only [step, sslHandshake, fail]
    split_ifs <;> assumption
  | sslWrite a =>
    simp only [step, sslWrite, fail, sslResetText, sslFailedText, sslClosedText]
    split_ifs
    all_goals first | exact fits | exact length_sslPrint _
  | sslRead a =>
    simp only [step, sslRead, fail, sslResetText, sslFailedText, sslClosedText]
    split_ifs
    all_goals first | exact fits | exact length_sslPrint _

theorem errorMsg_fits (calls : List Call) :
    (run step {} calls).errorMsg.length < maxSslErrorLength :=
  invariant_run (I := fun c : SSLconnect => c.errorMsg.length < maxSslErrorLength)
    (fun _ call fits => step_fits fits call) (by decide) calls

/-! ## The text of a failed read -/

lemma sslPrint_front {front text : Bytes} (part : front <+: text)
    (fits : front.length ≤ maxSslErrorLength - 1) : front <+: sslPrint text :=
  List.prefix_take_iff.mpr ⟨part, fits⟩

/-- A read that fails on an open handle leaves a text about the read. -/
lemma sslRead_text {code : SslRetCode} (open_ : c.ssl = true)
    (failed : (c.sslRead a).2 = .error code) :
    ascii sslReadRet <+: (c.sslRead a).1.errorMsg := by
  have named : ascii sslReadRet <+: sslErrMsg sslReadRet a := List.prefix_append ..
  have fits : (ascii sslReadRet).length ≤ maxSslErrorLength - 1 := by decide
  have front (rest : Bytes) : ascii sslReadRet <+: sslPrint (sslErrMsg sslReadRet a ++ rest) :=
    sslPrint_front (named.trans (List.prefix_append ..)) fits
  have reset : ascii sslReadRet <+: sslResetText sslReadRet a := by
    rw [sslResetText, List.append_assoc]
    exact front _
  have told (sep : String) : ascii sslReadRet <+: sslFailedText sslReadRet sep a := by
    rw [sslFailedText, List.append_assoc]
    exact front _
  revert failed
  simp only [sslRead, fail, open_]
  split_ifs <;> simp_all

end SSLconnect

namespace ConnectNode

variable {e : Env} {n : ConnectNode}

/-- A node that launches its request again after a failure: relaunches are left, and none is under
way. -/
structure Relaunching (n : ConnectNode) : Prop where
  heard : n.Heard
  enabled : n.param.enableReconnect = true
  idle : n.reconnection.state = .noReconnection ∨ n.reconnection.state = .newReconnectionStarting
  left : n.reconnection.reconnectedCount < maxTryCount

/-- The node behind a failure that is kept back. -/
def interrupted (e : Env) (n : ConnectNode) (code : ℤ) : ConnectNode :=
  { n with
    nodeErrCode := code
    hidden := true
    reconnection :=
      { n.reconnection with
        interruptionTimestampMs := e.now
        reconnectedCount := n.reconnection.reconnectedCount + 1
        state := .willReconnect } }

lemma handlerEvent_interrupted (relaunching : n.Relaunching) (text : Bytes) {code : ℤ}
    (again : retriable code = true) :
    n.handlerEvent e text code .taskFailed = n.interrupted e code := by
  have within : n.reconnection.reconnectedCount + 1 ≤ maxTryCount := relaunching.left
  have other : code ≠ NlsErrorCode.closeCode := by
    rintro rfl
    exact absurd again (by decide)
  obtain ⟨heard, enabled, idle, -⟩ := relaunching
  simp [handlerEvent, noteErrorCode, report, ownEvent, handlerFrame, updateTwIndexOffset,
    ignoreCallbackWhenReconnecting, noteInterruption, afterCallback, interrupted, other, again,
    heard.request, heard.handler, heard.running, heard.exitStatus, enabled, idle, within]

/-- The relaunch behind a failure that is kept back: Close is kept back too. -/
lemma handlerClose_interrupted (relaunching : n.Relaunching) (added : e.eventAdd = true)
    (code : ℤ) :
    let m := (n.interrupted e code).handlerClose e
    m.callbacks = n.callbacks ∧ m.reconnection.state = .triggerReconnection ∧
      m.reconnection.armed = true ∧
      m.reconnection.reconnectedCount = n.reconnection.reconnectedCount + 1 := by
  have within : n.reconnection.reconnectedCount + 1 ≤ maxTryCount := relaunching.left
  obtain ⟨heard, enabled, -, -⟩ := relaunching
  simp [handlerClose, handlerEvent, noteErrorCode, report, ownEvent, handlerFrame,
    updateTwIndexOffset, ignoreCallbackWhenReconnecting, noteInterruption, afterCallback,
    nodeReconnecting, setConnectNodeStatus, interrupted, heard.request, heard.handler,
    heard.running, heard.exitStatus, enabled, within, added]

/-- A text about a TLS read is no JSON, and its code is one after which a request is launched
again. -/
lemma retriable_of_read {text : Bytes} (about : ascii SSLconnect.sslReadRet <+: text)
    (notJson : e.headerStatus text = none) : retriable (getErrorCodeFromMsg e text) = true := by
  have named : contains text (ascii "return of SSL_read:") = true := by
    rw [contains, Option.isSome_iff_ne_none, Ne, UpgradeResponse.find_eq_none, not_not]
    have part : ascii "return of SSL_read:" <+: ascii SSLconnect.sslReadRet := by decide
    exact (part.trans about).isInfix
  rw [getErrorCodeFromMsg, notJson]
  simp only [named, if_true]
  decide

/-- A node whose connection is read. While the wake word is checked, the result of the read gives
way to that of the next send. -/
structure Listening (n : ConnectNode) : Prop where
  readEvent : n.readEvent = true
  registered : n.registered = true
  releasingFlag : n.releasingFlag = false
  workStatus : n.workStatus ∈ [ConnectStatus.nodeHandshaking, .nodeHandshaked, .nodeStarting,
    .nodeStarted]

lemma responseRead_fails (listening : n.Listening) {reads : List (Option Bytes)}
    (fails : n.reader.reads = none :: reads) :
    ∃ r : Reader, n.responseRead e =
      ({ n with reader := r, nodeErrMsg := e.socketErrMsg }, .error .nlsReceiveFailed) := by
  obtain ⟨r, received⟩ : ∃ r : Reader,
      n.reader.nlsReceive n.channel.isOpen = (r, .error .nlsReceiveFailed) := by
    unfold Reader.nlsReceive
    rw [fails]
    split
    · exact ⟨_, rfl⟩
    · exact ⟨_, rfl⟩
  have answer : n.gatewayResponse e =
      ({ n with reader := r, nodeErrMsg := e.socketErrMsg }, .error .nlsReceiveFailed) := by
    simp only [gatewayResponse, Reader.gatewayResponse, received, withReader]
  have response : n.webSocketResponse e =
      ({ n with reader := r, nodeErrMsg := e.socketErrMsg }, .error .nlsReceiveFailed) := by
    simp [webSocketResponse, Reader.webSocketResponse, received, withReader,
      listening.releasingFlag]
  refine ⟨r, ?_⟩
  have status := listening.workStatus
  simp only [List.mem_cons, List.not_mem_nil, or_false] at status
  rcases status with is | is | is | is
  · simp [responseRead, responseUpgrade, is, answer]
  · simp [responseRead, responseUpgrade, is, answer]
  · simp [responseRead, responseStarting, is, response]
  · simp [responseRead, is, response]

/-- What the node is told when the TLS handle fails to read. -/
structure TlsReadFails (e : Env) (c : SSLconnect) (a : SslAnswer) : Prop where
  ssl : c.ssl = true
  failed : ∃ code, (c.sslRead a).2 = .error code
  reads : e.reads = [none]
  socketErrMsg : e.socketErrMsg = (c.sslRead a).1.errorMsg

/-- A TLS read that fails while relaunches are left is not told: the request is launched again,
whatever OpenSSL says about the failure. -/
theorem tlsReadFailure_relaunches {c : SSLconnect} {a : SslAnswer} (fails : TlsReadFails e c a)
    (notJson : ∀ text : Bytes, text.head? = some 114 → e.headerStatus text = none)
    (listening : n.Listening) (relaunching : n.Relaunching) (added : e.eventAdd = true) :
    let m := nodeStep n { op := .readEvent .ready, env := e }
    m.callbacks = n.callbacks ∧ m.reconnection.state = .triggerReconnection ∧
      m.reconnection.armed = true ∧
      m.reconnection.reconnectedCount = n.reconnection.reconnectedCount + 1 := by
  obtain ⟨code, failed⟩ := fails.failed
  have about := SSLconnect.sslRead_text fails.ssl failed
  rw [← fails.socketErrMsg] at about
  obtain ⟨rest, is⟩ := about
  have first : e.socketErrMsg.head? = some 114 := by
    rw [← is]
    rfl
  have some_ : e.socketErrMsg ≠ [] := by
    intro empty
    rw [empty] at first
    cases first
  have again := retriable_of_read ⟨rest, is⟩ (notJson _ first)
  have listening' : (n.withEnv e).Listening :=
    ⟨listening.readEvent, listening.registered, listening.releasingFlag, listening.workStatus⟩
  obtain ⟨r, read⟩ := responseRead_fails (e := e) listening' fails.reads
  have exit : (n.withEnv e).exitStatus ≠ .exitCancel := relaunching.heard.exitStatus
  have running : (n.withEnv e).workStatus ≠ .nodeClosed := relaunching.heard.running.1
  -- the connection is closed before the failure is told
  let closed : ConnectNode :=
    closeConnectNode { n.withEnv e with reader := r, nodeErrMsg := e.socketErrMsg }
  have step : nodeStep n { op := .readEvent .ready, env := e } =
      closed.handlerTaskFailedEvent e e.socketErrMsg NlsErrorCode.defaultErrorCode := by
    simp only [nodeStep, NodeOp.step, if_pos listening'.readEvent, readEventCallBack,
      nodeResponseProcess, read]
    simp [listening'.registered, listening'.releasingFlag, exit, running, failedInfo, some_, closed]
  have relaunching' : closed.Relaunching :=
    ⟨⟨relaunching.heard.request, relaunching.heard.handler, relaunching.heard.running, exit⟩,
      relaunching.enabled, relaunching.idle, relaunching.left⟩
  rw [step]
  simp only [handlerTaskFailedEvent, if_neg some_, if_true]
  rw [handlerEvent_interrupted relaunching' _ again]
  exact handlerClose_interrupted relaunching' added _

/-- A transcription at work that may be launched again. -/
def interruptible : ConnectNode :=
  { transcription with
    workStatus := .nodeStarted
    readEvent := true
    param := { transcription.param with enableReconnect := true } }

/-- The record layer fails without a pending error. -/
def brokenRecord : SslAnswer := { ret := -1, sslError := .ssl, text := ascii "error:00000000" }

theorem tlsReadFailure_relaunches_broken :
    let m := nodeStep interruptible { op := .readEvent .ready, env := {
      reads := [none]
      socketErrMsg := (({ ssl := true } : SSLconnect).sslRead brokenRecord).1.errorMsg } }
    m.callbacks = interruptible.callbacks ∧ m.reconnection.state = .triggerReconnection ∧
      m.reconnection.armed = true ∧
      m.reconnection.reconnectedCount = interruptible.reconnection.reconnectedCount + 1 :=
  tlsReadFailure_relaunches ⟨rfl, ⟨.sslReadFailed, by decide⟩, rfl, rfl⟩ (fun _ _ => rfl)
    ⟨by decide, by decide, by decide, by decide⟩
    ⟨⟨by decide, by decide, by decide, by decide⟩, by decide, by decide, by decide⟩ rfl

end ConnectNode

end NlsSdk.Transport
