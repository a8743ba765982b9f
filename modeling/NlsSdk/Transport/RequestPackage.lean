import Mathlib.Data.List.GetD
import NlsSdk.Library.HttpRequest
import NlsSdk.Library.JsonValue
import NlsSdk.Transport.Output
import NlsSdk.Transport.RetryAddress
import NlsSdk.Transport.UrlParts

/-!
# The upgrade request

`requestPackage` and `requestDashScopePackage` print the request into buffers of
256 and 2048 bytes. `requestPackage_right` and `requestDashScopePackage_right`
say for which addresses, credentials and headers an HTTP parser reads back what
was asked for.
-/
namespace NlsSdk.Transport

open Library

def HttpPort : ℤ := 80
def TokenSize : ℕ := 512
def BufferSize : ℕ := 2048

namespace RequestPackage

/-! ## The parameters -/

/-- The parameters that the request carries. They come as C strings. -/
structure UpgradeParam where
  url : Bytes := []
  token : Bytes := []
  apikey : Bytes := []
  /-- the members of the object, in its order -/
  httpHeader : List (Bytes × Bytes) := []
  token_text : 0 ∉ token := by decide
  apikey_text : 0 ∉ apikey := by decide
  header_text : ∀ member ∈ httpHeader, 0 ∉ member.1 ∧ 0 ∉ member.2 := by decide

lemma cString_text (given : Bytes) : 0 ∉ cString given := by
  intro there
  simpa using List.mem_takeWhile_imp there

def UpgradeParam.setToken (value : Bytes) (param : UpgradeParam) : UpgradeParam :=
  { param with token := cString value, token_text := cString_text value }

def UpgradeParam.setAPIKey (value : Bytes) (param : UpgradeParam) : UpgradeParam :=
  { param with apikey := cString value, apikey_text := cString_text value }

/-- `_httpHeader[key] = value` -/
def UpgradeParam.appendHttpHeader (key value : Bytes) (param : UpgradeParam) : UpgradeParam :=
  { param with
    httpHeader := setMember (cString key) (cString value) param.httpHeader
    header_text := by
      intro member is
      rcases mem_setMember_cases is with rfl | there
      · exact ⟨cString_text key, cString_text value⟩
      · exact param.header_text member there }

/-- A member without a name is left out. -/
def UpgradeParam.getHttpHeader (param : UpgradeParam) : Bytes :=
  (param.httpHeader.filter fun member => member.1 ≠ []).flatMap fun member =>
    member.1 ++ ascii ": " ++ member.2 ++ ascii "\r\n"

/-! ## The address in memory -/

/-- The struct. `memory` is what it holds from `_token` on. -/
structure Url extends NodeUrl where
  memory : ℕ → UInt8 := fun _ => 0

/-- The places of the credentials behind `_token`. -/
def tokenField : ℕ := 0
def apikeyField : ℕ := TokenSize

def memcpy (destination : ℕ) (text : Bytes) (memory : ℕ → UInt8) : ℕ → UInt8 := fun i =>
  if destination ≤ i ∧ i < destination + text.length then text.getD (i - destination) 0
  else memory i

/-- A text that is read from a field, `none` if its end is not in the field. -/
def fieldText (memory : ℕ → UInt8) (start size : ℕ) : Option Bytes :=
  let field := (List.range size).map fun i => memory (start + i)
  if 0 ∈ field then some (cString field) else none

def copyToken (param : UpgradeParam) : (ℕ → UInt8) → ℕ → UInt8 := memcpy tokenField param.token

def copyApikey (param : UpgradeParam) : (ℕ → UInt8) → ℕ → UInt8 := memcpy apikeyField param.apikey

/-- `none` for `false`. -/
def parseUrlInformation (directIp : Bytes) (param : UpgradeParam) : Option Url :=
  (NodeUrl.parseUrlInformation (cString directIp) param.url).map fun url =>
    { toNodeUrl := url, memory := copyApikey param (copyToken param fun _ => 0) }

/-! ## The two requests -/

/-- What is stored of a printed text, and the result, `none` if that is negative. -/
def ssnprintf (size : ℕ) (text : Bytes) : Bytes × Option ℕ :=
  (text.take (size - 1), if text.length < 2 ^ 31 then some text.length else none)

/-- The bytes of a buffer that was filled with zeros. -/
def bufferBytes (stored : Bytes) : Bytes := stored ++ List.replicate (BufferSize - stored.length) 0

def getSecWsKey : Bytes := ascii "Sec-WebSocket-Key: x1LDbMHJJ3EzLkh9GBhXDw=="

/-- What the functions of `TextUtils` return, which depends on the build. -/
structure Platform where
  version : Bytes
  osName : Bytes
  archName : Bytes

def hostBuff (url : Url) : Bytes :=
  if url.port = HttpPort then
    (ssnprintf 256 (Scanf.printf (ascii "Host: %s\r\n") [.text url.host])).1
  else
    (ssnprintf 256 (Scanf.printf (ascii "Host: %s:%d\r\n")
      [.text url.host, .int url.port])).1

/-- The check of `contentSize`. -/
def checkContentSize (written : Bytes × Option ℕ) : Bytes × Ret :=
  match written.2 with
  | none | some 0 => (written.1, .error .wsRequestPackageEmpty)
  | some size => (written.1, .ok size)

/-- What is in the buffer behind the call, and its result. -/
def requestPackage (url : Url) (httpHeader : Bytes) : Option (Bytes × Ret) :=
  (fieldText url.memory tokenField TokenSize).map fun token =>
    checkContentSize <|
      if httpHeader = [] then
        ssnprintf BufferSize <| Scanf.printf
          (ascii "GET /%s HTTP/1.1\r\n%s%s%s%s%s%s%s%s%s: %s\r\n%s")
          [.text url.path, .text (hostBuff url), .text (ascii "Upgrade: websocket\r\n"),
            .text (ascii "Connection: Upgrade\r\n"), .text getSecWsKey, .text (ascii "\r\n"),
            .text (ascii "Sec-WebSocket-Version: "), .text (ascii "13"), .text (ascii "\r\n"),
            .text (ascii "X-NLS-Token"), .text token, .text (ascii "\r\n")]
      else
        ssnprintf BufferSize <| Scanf.printf
          (ascii "GET /%s HTTP/1.1\r\n%s%s%s%s%s%s%s%s%s: %s\r\n%s%s")
          [.text url.path, .text (hostBuff url), .text (ascii "Upgrade: websocket\r\n"),
            .text (ascii "Connection: Upgrade\r\n"), .text getSecWsKey, .text (ascii "\r\n"),
            .text (ascii "Sec-WebSocket-Version: "), .text (ascii "13"), .text (ascii "\r\n"),
            .text (ascii "X-NLS-Token"), .text token, .text (cString httpHeader),
            .text (ascii "\r\n")]

def requestDashScopePackage (os : Platform) (url : Url) (httpHeader : Bytes) :
    Option (Bytes × Ret) :=
  (fieldText url.memory apikeyField TokenSize).map fun apikey =>
    checkContentSize <|
      if httpHeader = [] then
        ssnprintf BufferSize <| Scanf.printf
          (ascii "GET /%s HTTP/1.1\r\n%s%s%s%s%s%s%s%s%s%s%s%s%s%s%s%s%s%s%s%s%s%s%s\r\n%s")
          [.text url.path, .text (hostBuff url), .text (ascii "Upgrade: websocket"),
            .text (ascii "\r\n"), .text (ascii "Connection: Upgrade"), .text (ascii "\r\n"),
            .text getSecWsKey, .text (ascii "\r\n"), .text (ascii "Sec-WebSocket-Version: "),
            .text (ascii "13"), .text (ascii "\r\n"), .text (ascii "user-agent: dashscope/"),
            .text (ascii "nls-cpp-sdk"), .text (ascii ";version/"), .text os.version,
            .text (ascii ";platform/"), .text os.osName, .text (ascii ";arch/"),
            .text os.archName, .text (ascii "\r\n"),
            .text (ascii "X-DashScope-DataInspection: enable"), .text (ascii "\r\n"),
            .text (ascii "Authorization: bearer "), .text apikey, .text (ascii "\r\n")]
      else
        ssnprintf BufferSize <| Scanf.printf
          (ascii "GET /%s HTTP/1.1\r\n%s%s%s%s%s%s%s%s%s%s%s%s%s%s%s%s%s%s%s%s%s%s%s%s%s\r\n%s")
          [.text url.path, .text (hostBuff url), .text (ascii "Upgrade: websocket"),
            .text (ascii "\r\n"), .text (ascii "Connection: Upgrade"), .text (ascii "\r\n"),
            .text getSecWsKey, .text (ascii "\r\n"), .text (ascii "Sec-WebSocket-Version: "),
            .text (ascii "13"), .text (ascii "\r\n"), .text (ascii "user-agent: dashscope/"),
            .text (ascii "nls-cpp-sdk"), .text (ascii ";version/"), .text os.version,
            .text (ascii ";platform/"), .text os.osName, .text (ascii ";arch/"),
            .text os.archName, .text (ascii "\r\n"),
            .text (ascii "X-DashScope-DataInspection: enable"), .text (ascii "\r\n"),
            .text (ascii "Authorization: bearer "), .text apikey, .text (ascii "\r\n"),
            .text (cString httpHeader), .text (ascii "\r\n")]

/-! ## What is to be read back -/

/-- A copy changes nothing outside of a field. -/
def Inside (copy : (ℕ → UInt8) → ℕ → UInt8) (start size : ℕ) : Prop :=
  ∀ memory i, i < start ∨ start + size ≤ i → copy memory i = memory i

def lower (b : UInt8) : UInt8 := if 65 ≤ b ∧ b ≤ 90 then b + 32 else b

def isHost (header : HttpRequest.Header) : Bool := header.1.map lower = ascii "host"

/-- The request line of the path and the `Host` field, and the other fields. -/
def upgradeRequest (parts : UrlParts) (headers : List HttpRequest.Header) : HttpRequest.Request where
  method := ascii "GET"
  target := 47 :: parts.path
  headers := (ascii "Host", UrlParts.hostText parts.host parts.port) :: headers

/-- The fields that both services want. -/
def webSocketHeaders : List HttpRequest.Header :=
  [(ascii "Upgrade", ascii "websocket"), (ascii "Connection", ascii "Upgrade"),
    (ascii "Sec-WebSocket-Key", ascii "x1LDbMHJJ3EzLkh9GBhXDw=="),
    (ascii "Sec-WebSocket-Version", ascii "13")]

def nlsHeaders (token : Bytes) (custom : List HttpRequest.Header) : List HttpRequest.Header :=
  webSocketHeaders ++ (ascii "X-NLS-Token", token) :: custom

def userAgent (os : Platform) : Bytes :=
  ascii "dashscope/nls-cpp-sdk;version/" ++ os.version ++ ascii ";platform/" ++ os.osName ++
    ascii ";arch/" ++ os.archName

def dashScopeHeaders (os : Platform) (apikey : Bytes) (custom : List HttpRequest.Header) :
    List HttpRequest.Header :=
  webSocketHeaders ++ (ascii "user-agent", userAgent os) ::
    (ascii "X-DashScope-DataInspection", ascii "enable") ::
    (ascii "Authorization", ascii "bearer " ++ apikey) :: custom

/-- An error, or a size within the buffer up to which it holds the request and nothing more. -/
def Right (address : Bytes) (headers : List HttpRequest.Header) (packaged : Option (Bytes × Ret)) :
    Prop :=
  ∃ stored ret, packaged = some (stored, ret) ∧
    (ret.failed = true ∨ ∃ size parts, ret = .ok size ∧ size ≤ BufferSize ∧
      UrlParts.urlParts address = some parts ∧
      HttpRequest.parse ((bufferBytes stored).take size) = some (upgradeRequest parts headers, []) ∧
      (upgradeRequest parts headers).headers.filter isHost =
        [(ascii "Host", UrlParts.hostText parts.host parts.port)])

/-- The members that have a name. -/
def UpgradeParam.named (param : UpgradeParam) : List HttpRequest.Header :=
  param.httpHeader.filter fun member => member.1 ≠ []

/-- The size of what is printed. -/
def contentSize (url : Url) (headers : List HttpRequest.Header) : ℕ :=
  16 + url.path.length +
    min 255 (8 + (UrlParts.hostText url.host url.port).length) +
    (headers.map fun header => header.1.length + header.2.length + 4).sum + 2

/-- The request of a URL and these fields can be written, and fits. -/
structure Sendable (parts : UrlParts) (headers : List HttpRequest.Header) : Prop where
  path_fits : parts.path.length ≤ 255
  host_fits : (UrlParts.hostText parts.host parts.port).length + 8 < 256
  fits : (upgradeRequest parts headers).render.length < BufferSize
  wellFormed : (upgradeRequest parts headers).WellFormed
  own_host : ∀ header ∈ headers, isHost header = false

/-! ## The printed text -/

section Printed

open HttpRequest

variable {url : Url} {param : UpgradeParam} {parts : UrlParts} {headers : List Header}

/-- The text behind any host line. -/
def printed (path host : Bytes) (headers : List Header) (extra : Bytes) : Bytes :=
  requestLine (ascii "GET") (47 :: path) ++
    13 :: 10 :: (host ++ (joinLines (headers.map fieldLine) ++ extra))

lemma hostBuff_eq (url : Url) : hostBuff url =
    (fieldLine (ascii "Host", UrlParts.hostText url.host url.port) ++ [13, 10]).take
      255 := by
  unfold hostBuff ssnprintf UrlParts.hostText HttpPort
  split
  · rfl
  · simp only [fieldLine, List.append_assoc, List.cons_append]
    rfl

lemma getHttpHeader_eq (param : UpgradeParam) :
    param.getHttpHeader ++ [13, 10] = joinLines (param.named.map fieldLine) := by
  unfold UpgradeParam.getHttpHeader joinLines UpgradeParam.named
  rw [List.flatMap_map]
  congr 2
  funext member
  simp [fieldLine, ascii]

lemma getHttpHeader_nil : param.getHttpHeader = [] ↔ param.named = [] := by
  unfold UpgradeParam.getHttpHeader UpgradeParam.named
  rw [List.flatMap_eq_nil_iff]
  constructor
  · intro empty
    rw [List.eq_nil_iff_forall_not_mem]
    intro member there
    have := empty member there
    simp [ascii] at this
  · intro empty member there
    rw [empty] at there
    cases there

lemma getHttpHeader_text (param : UpgradeParam) : cString param.getHttpHeader = param.getHttpHeader := by
  unfold cString
  rw [List.takeWhile_eq_self_iff]
  intro b there
  unfold UpgradeParam.getHttpHeader at there
  obtain ⟨member, is, there⟩ := List.mem_flatMap.mp there
  obtain ⟨name, value⟩ := param.header_text member (List.mem_of_mem_filter is)
  simp only [List.mem_append] at there
  rw [decide_eq_true_iff]
  rintro rfl
  rcases there with ((there | there) | there) | there
  · exact name there
  · exact absurd there (by decide)
  · exact value there
  · exact absurd there (by decide)

/-- The fields behind the fixed ones are the header text. -/
lemma joinLines_named (front : List Header) (param : UpgradeParam) :
    joinLines ((front ++ param.named).map fieldLine) =
      (front.map fieldLine).flatMap (fun line => line ++ [13, 10]) ++
        (param.getHttpHeader ++ [13, 10]) := by
  rw [getHttpHeader_eq, joinLines, joinLines, List.map_append, List.flatMap_append,
    List.append_assoc]

/-- What `requestPackage` prints. -/
lemma requestPackage_eq {token : Bytes}
    (read : fieldText url.memory tokenField TokenSize = some token) :
    requestPackage url param.getHttpHeader = some (checkContentSize (ssnprintf BufferSize
      (printed url.path (hostBuff url) (nlsHeaders token param.named) []))) := by
  have fields : nlsHeaders token param.named =
      (webSocketHeaders ++ [(ascii "X-NLS-Token", token)]) ++ param.named := by
    rw [nlsHeaders, List.append_assoc, List.singleton_append]
  rw [requestPackage, read, Option.map_some, printed, fields, joinLines_named, getHttpHeader_text]
  split
  · rename_i empty
    rw [empty]
    refine congrArg (fun text => some (checkContentSize (ssnprintf BufferSize text))) ?_
    simp [webSocketHeaders, requestLine, fieldLine, version, Scanf.printf, ascii, getSecWsKey]
  · refine congrArg (fun text => some (checkContentSize (ssnprintf BufferSize text))) ?_
    simp [webSocketHeaders, requestLine, fieldLine, version, Scanf.printf, ascii, getSecWsKey]

set_option maxRecDepth 2000 in
/-- What `requestDashScopePackage` prints. Behind custom headers it ends the request twice. -/
lemma requestDashScopePackage_eq {os : Platform} {apikey : Bytes}
    (read : fieldText url.memory apikeyField TokenSize = some apikey) :
    requestDashScopePackage os url param.getHttpHeader = some (checkContentSize
      (ssnprintf BufferSize (printed url.path (hostBuff url)
        (dashScopeHeaders os apikey param.named) (if param.named = [] then [] else [13, 10])))) := by
  have fields : dashScopeHeaders os apikey param.named =
      (webSocketHeaders ++ [(ascii "user-agent", userAgent os),
        (ascii "X-DashScope-DataInspection", ascii "enable"),
        (ascii "Authorization", ascii "bearer " ++ apikey)]) ++ param.named := by
    rw [dashScopeHeaders, List.append_assoc]
    rfl
  rw [requestDashScopePackage, read, Option.map_some, printed, fields, joinLines_named,
    getHttpHeader_text]
  split
  · rename_i empty
    rw [empty, if_pos (getHttpHeader_nil.mp empty)]
    refine congrArg (fun text => some (checkContentSize (ssnprintf BufferSize text))) ?_
    simp [webSocketHeaders, userAgent, requestLine, fieldLine, version, Scanf.printf, ascii,
      getSecWsKey]
  · rename_i some_
    rw [if_neg fun empty => some_ (getHttpHeader_nil.mpr empty)]
    refine congrArg (fun text => some (checkContentSize (ssnprintf BufferSize text))) ?_
    simp [webSocketHeaders, userAgent, requestLine, fieldLine, version, Scanf.printf, ascii,
      getSecWsKey]

lemma length_fieldLines (headers : List Header) :
    (joinLines (headers.map fieldLine)).length =
      (headers.map fun header => header.1.length + header.2.length + 4).sum + 2 := by
  rw [length_joinLines, List.map_map]
  congr 3
  funext header
  simp only [Function.comp_apply, fieldLine, List.length_append, List.length_cons]
  omega

lemma length_hostLine (host : Bytes) (port : ℤ) :
    (fieldLine (ascii "Host", UrlParts.hostText host port) ++ [13, 10]).length =
      8 + (UrlParts.hostText host port).length := by
  have name : (ascii "Host").length = 4 := by decide
  simp only [fieldLine, List.length_append, List.length_cons, List.length_nil, name]
  omega

lemma length_printed (url : Url) (headers : List Header) (extra : Bytes) :
    (printed url.path (hostBuff url) headers extra).length =
      contentSize url headers + extra.length := by
  have name : (ascii "GET").length = 3 := by decide
  have last : version.length = 8 := rfl
  rw [printed, contentSize, hostBuff_eq]
  simp only [requestLine, List.length_append, List.length_cons, List.length_take, name, last,
    length_fieldLines, ← length_hostLine]
  omega

lemma printed_ne_nil (path host : Bytes) (headers : List Header) (extra : Bytes) :
    printed path host headers extra ≠ [] := by
  unfold printed
  simp

/-- A host line that fits makes the text a request. -/
lemma printed_whole {extra : Bytes} (host : url.host = parts.host)
    (port : url.port = parts.port) (path : url.path = parts.path)
    (fits : (UrlParts.hostText parts.host parts.port).length + 8 < 256) :
    printed url.path (hostBuff url) headers extra =
      (upgradeRequest parts headers).render ++ extra := by
  have whole : hostBuff url =
      fieldLine (ascii "Host", UrlParts.hostText parts.host parts.port) ++ [13, 10] := by
    rw [hostBuff_eq, host, port]
    refine List.take_of_length_le ?_
    rw [length_hostLine]
    omega
  rw [printed, whole, path, Request.render, upgradeRequest]
  simp only [List.map_cons, joinLines_cons, List.append_assoc, List.cons_append, List.nil_append]

end Printed

/-! ## The buffer -/

section Buffer

open HttpRequest

variable {text : Bytes}

lemma checkContentSize_ssnprintf (some_ : text ≠ []) :
    checkContentSize (ssnprintf BufferSize text) = (text.take (BufferSize - 1),
      if text.length < 2 ^ 31 then .ok text.length else .error .wsRequestPackageEmpty) := by
  have positive : text.length ≠ 0 := by
    rw [ne_eq, List.length_eq_zero_iff]
    exact some_
  unfold checkContentSize ssnprintf
  dsimp only
  split_ifs with small
  · obtain ⟨k, is⟩ := Nat.exists_eq_succ_of_ne_zero positive
    rw [is]
    rfl
  · rfl

lemma buffer_whole (fits : text.length < BufferSize) :
    (bufferBytes (text.take (BufferSize - 1))).take text.length = text := by
  rw [bufferBytes, List.take_of_length_le (Nat.le_sub_one_of_lt fits), List.take_left]

/-- A text of the whole size loses its last byte to the terminator. -/
lemma buffer_cut (full : text.length = BufferSize) :
    (bufferBytes (text.take (BufferSize - 1))).take text.length =
      text.take (BufferSize - 1) ++ [0] := by
  have stored : (text.take (BufferSize - 1)).length = BufferSize - 1 :=
    List.length_take_of_le (by omega)
  have one : BufferSize - (BufferSize - 1) = 1 := by decide
  rw [bufferBytes, stored, one]
  refine List.take_of_length_le ?_
  rw [List.length_append, stored, full]
  decide

/-- The buffer holds what is to be read only as a whole. -/
lemma right_iff {address : Bytes} {headers : List Header} (some_ : text ≠ []) :
    Right address headers (some (checkContentSize (ssnprintf BufferSize text))) ↔
      2 ^ 31 ≤ text.length ∨ ∃ parts, UrlParts.urlParts address = some parts ∧
        text.length < BufferSize ∧ parse text = some (upgradeRequest parts headers, []) ∧
        ∀ header ∈ headers, isHost header = false := by
  have only : ∀ parts, (upgradeRequest parts headers).headers.filter isHost =
      [(ascii "Host", UrlParts.hostText parts.host parts.port)] ↔
      ∀ header ∈ headers, isHost header = false := by
    intro parts
    have host : isHost (ascii "Host", UrlParts.hostText parts.host parts.port) = true := rfl
    rw [upgradeRequest, List.filter_cons_of_pos host, List.cons.injEq,
      List.filter_eq_nil_iff]
    simp
  rw [checkContentSize_ssnprintf some_]
  constructor
  · rintro ⟨stored, ret, is, right⟩
    rw [Option.some.injEq, Prod.mk.injEq] at is
    obtain ⟨rfl, rfl⟩ := is
    split at right
    · rename_i small
      right
      rcases right with failed | ⟨size, parts, is, inside, parts_, read, hosts⟩
      · cases failed
      · rw [Except.ok.injEq] at is
        subst is
        have fits : text.length < BufferSize := by
          rcases Nat.lt_or_eq_of_le inside with fits | full
          · exact fits
          · rw [buffer_cut full] at read
            obtain ⟨front, ends⟩ := parse_ends read
            have last := congrArg List.getLast? ends
            rw [List.getLast?_concat, List.getLast?_concat] at last
            cases last
        rw [buffer_whole fits] at read
        exact ⟨parts, parts_, fits, read, (only parts).mp hosts⟩
    · rename_i large
      exact .inl (not_lt.mp large)
  · rintro (large | ⟨parts, parts_, fits, read, own⟩)
    · exact ⟨_, _, rfl, .inl (by rw [if_neg (not_lt.mpr large)]; rfl)⟩
    · have small : text.length < 2 ^ 31 := lt_trans fits (by decide)
      refine ⟨_, _, rfl, .inr ⟨text.length, parts, by rw [if_pos small], fits.le, parts_, ?_,
        (only parts).mpr own⟩⟩
      rw [buffer_whole fits]
      exact read

end Buffer

/-! ## What is read of the printed text -/

section Read

open HttpRequest UrlAddress

variable {before url : Url} {address : Bytes} {parts : UrlParts} {headers more : List Header}

/-- The fields of an accepted URL. -/
structure Accepted (url : Url) (address : Bytes) : Prop where
  fields : ∃ before, parseUrlAddress before address = (url.toUrlAddress, .ok 0)

lemma Accepted.readBack (accepted : Accepted url address) : url.ReadBack := by
  obtain ⟨before, is⟩ := accepted.fields
  have back := @accepted_readBack before address (by rw [is])
  rw [is] at back
  exact back

/-- With a path and a host that were read whole, all parts are the fields. -/
lemma Accepted.read_parts (accepted : Accepted url address)
    (parts_ : UrlParts.urlParts (cString address) = some parts) (short : parts.host.length ≤ 256)
    (length : parts.path.length ≤ 255) (word : ∀ b ∈ parts.path, Scanf.isSpace b = false) :
    url.host = parts.host ∧ url.port = parts.port ∧ url.path = parts.path := by
  obtain ⟨before, is⟩ := accepted.fields
  obtain ⟨type_some, type_length, host_some, -⟩ :=
    @UrlParts.parse_host address parts before parts_ (by rw [is])
  have same := @UrlParts.parse_parts address parts before parts_
    ⟨type_some, type_length, host_some, short, length, word⟩
  rw [is] at same
  exact same

lemma isVisible_word {b : UInt8} (visible : isVisible b = true) : Scanf.isSpace b = false := by
  simp only [isVisible, Bool.and_eq_true, decide_eq_true_eq, UInt8.le_iff_toNat_le] at visible
  have low : 33 ≤ b.toNat := visible.1
  simp only [Scanf.isSpace, Bool.or_eq_false_iff, Bool.and_eq_false_iff, decide_eq_false_iff_not,
    UInt8.le_iff_toNat_le, ← UInt8.toNat_inj]
  have : (32 : UInt8).toNat = 32 := rfl
  have : (13 : UInt8).toNat = 13 := rfl
  omega

lemma isSpace_plain {b : UInt8} (word : Scanf.isSpace b = false) : b ≠ 10 := by
  rintro rfl
  cases word

lemma hostText_host {host : Bytes} {port : ℤ} : host <+: UrlParts.hostText host port := by
  unfold UrlParts.hostText
  split
  · exact List.prefix_rfl
  · exact List.prefix_append _ _

/-- The port brings in nothing but its digits and signs. -/
lemma hostText_plain {b : UInt8} {host : Bytes} (port : ℤ)
    (other : Scanf.isDigit b = false ∧ b ≠ 45 ∧ b ≠ 58) (plain : b ∉ host) :
    b ∉ UrlParts.hostText host port := by
  have digits : b ∉ Scanf.intDecimal port := by
    intro there
    have natural : ∀ n, b ∉ Scanf.natDecimal n := fun n is => by
      have digit := Scanf.natDecimal_digits n b is
      rw [other.1] at digit
      cases digit
    unfold Scanf.intDecimal at there
    split at there
    · rcases List.mem_cons.mp there with same | there
      · exact other.2.1 same
      · exact natural _ there
    · exact natural _ there
  unfold UrlParts.hostText
  split
  · exact plain
  · simp [plain, digits, other.2.2]

/-- The line feed of a host line that does not fit is cut off. -/
lemma hostBuff_plain (plain : (10 : UInt8) ∉ url.host)
    (long : 256 ≤ (UrlParts.hostText url.host url.port).length + 8) :
    (10 : UInt8) ∉ hostBuff url := by
  have text := hostText_plain url.port (by decide) plain
  have line : (10 : UInt8) ∉
      fieldLine (ascii "Host", UrlParts.hostText url.host url.port) ++ [13] := by
    have name : (10 : UInt8) ∉ ascii "Host" := by decide
    have field := @fieldLine_plain
      (ascii "Host", UrlParts.hostText url.host url.port) name text
    simp [field]
  have size := length_hostLine url.host url.port
  rw [hostBuff_eq]
  intro there
  have cut : (fieldLine (ascii "Host", UrlParts.hostText url.host url.port) ++
      [13, 10]).take 255 <+:
      fieldLine (ascii "Host", UrlParts.hostText url.host url.port) ++ [13] := by
    rw [List.length_append, List.length_cons, List.length_singleton] at size
    refine List.prefix_of_prefix_length_le (List.take_prefix _ _) ⟨[10], ?_⟩ ?_
    · rw [List.append_assoc]
      rfl
    · rw [List.length_take, List.length_append, List.length_append, List.length_singleton]
      omega
  exact line (cut.mem there)

/-- The fields with their first one, which stands behind the host line. -/
lemma printed_joined (path host : Bytes) (first : Header) (more : List Header) (extra : Bytes) :
    printed path host (first :: more) extra =
      joinLines (requestLine (ascii "GET") (47 :: path) :: (host ++ fieldLine first) ::
        more.map fieldLine) ++ extra := by
  rw [printed]
  simp only [List.map_cons, joinLines_cons, List.append_assoc, List.cons_append]

lemma Accepted.path_plain (accepted : Accepted url address) :
    (10 : UInt8) ∉ requestLine (ascii "GET") (47 :: url.path) := by
  refine requestLine_plain (by decide) ?_
  rw [List.mem_cons, not_or]
  exact ⟨by decide, fun there => isSpace_plain (accepted.readBack.path_word 10 there) rfl⟩

/-- The request line holds the whole path. -/
lemma Accepted.path_read {extra : Bytes} {first : Header} (accepted : Accepted url address)
    (read : parse (printed url.path (hostBuff url) (first :: more) extra) =
      some (upgradeRequest parts headers, [])) : url.path = parts.path := by
  have line := parse_requestLine (requestLine_ne_nil _ _) accepted.path_plain read
  have inner := (List.append_inj line rfl).2
  have target := List.append_cancel_right (List.cons.inj inner).2
  exact (List.cons.inj target).2

/-- The host is stored up to the width of its format. -/
lemma Accepted.host_cut (accepted : Accepted url address)
    (parts_ : UrlParts.urlParts (cString address) = some parts) (long : 256 < parts.host.length) :
    url.host = parts.host.take 256 := by
  obtain ⟨before, is⟩ := accepted.fields
  have cut := (@UrlParts.parse_host address parts before parts_ (by rw [is])).2.2.2 long
  rw [is] at cut
  exact cut

/-- A host line that does not fit runs into the next line, and a field is missing. -/
lemma parse_short {extra : Bytes} {first : Header} {r : Request} (accepted : Accepted url address)
    (host : (10 : UInt8) ∉ url.host)
    (fields : ∀ header ∈ first :: more, (10 : UInt8) ∉ fieldLine header)
    (long : 256 ≤ (UrlParts.hostText url.host url.port).length + 8)
    (read : parse (printed url.path (hostBuff url) (first :: more) extra) = some (r, [])) :
    r.headers.length = more.length + 1 := by
  have lines : ∀ line ∈ requestLine (ascii "GET") (47 :: url.path) ::
      (hostBuff url ++ fieldLine first) :: more.map fieldLine,
      line ≠ [] ∧ (10 : UInt8) ∉ line := by
    intro line there
    rcases List.mem_cons.mp there with rfl | there
    · exact ⟨requestLine_ne_nil _ _, accepted.path_plain⟩
    · rcases List.mem_cons.mp there with rfl | there
      · refine ⟨List.append_ne_nil_of_right_ne_nil _ (fieldLine_ne_nil first), ?_⟩
        rw [List.mem_append, not_or]
        exact ⟨hostBuff_plain host long, fields first List.mem_cons_self⟩
      · obtain ⟨header, is, rfl⟩ := List.mem_map.mp there
        exact ⟨fieldLine_ne_nil header, fields header (List.mem_cons_of_mem _ is)⟩
  rw [printed_joined] at read
  have count := (parse_headers_length lines read).1
  rw [List.length_cons, List.length_map] at count
  exact count.symm

/-- What is printed for an accepted URL whose request is well formed. -/
lemma printed_render {extra : Bytes} (accepted : Accepted url address)
    (parts_ : UrlParts.urlParts (cString address) = some parts) (length : parts.path.length ≤ 255)
    (fits : (UrlParts.hostText parts.host parts.port).length + 8 < 256)
    (well : (upgradeRequest parts headers).WellFormed) :
    printed url.path (hostBuff url) headers extra =
      (upgradeRequest parts headers).render ++ extra := by
  have word : ∀ b ∈ parts.path, Scanf.isSpace b = false :=
    fun b there => isVisible_word (well.target.bytes b (List.mem_cons_of_mem _ there))
  have bound := (@hostText_host parts.host parts.port).length_le
  obtain ⟨host, port, path⟩ := accepted.read_parts parts_ (by omega) length word
  exact printed_whole host port path fits

/-- An accepted URL's request is read back exactly if it is well formed and its host line fits. -/
theorem parse_printed_iff {extra : Bytes} {first : Header} (accepted : Accepted url address)
    (parts_ : UrlParts.urlParts (cString address) = some parts) :
    parse (printed url.path (hostBuff url) (first :: more) extra) =
        some (upgradeRequest parts (first :: more), []) ↔
      parts.path.length ≤ 255 ∧ (UrlParts.hostText parts.host parts.port).length + 8 < 256 ∧
        (upgradeRequest parts (first :: more)).WellFormed ∧ extra = [] := by
  have back := accepted.readBack
  constructor
  · intro read
    have well := wellFormed_of_parse read
    have path := accepted.path_read read
    have host_plain : (10 : UInt8) ∉ parts.host := by
      have value := (well.headers _ List.mem_cons_self).2.plain
      exact fun there => value (hostText_host.mem there)
    have whole : parts.host.length ≤ 256 → url.host = parts.host ∧
        url.port = parts.port ∧ url.path = parts.path := by
      intro short
      refine accepted.read_parts parts_ short ?_ ?_
      · rw [← path]
        exact back.path_length
      · rw [← path]
        exact back.path_word
    have stored_plain : (10 : UInt8) ∉ url.host := by
      by_cases short : parts.host.length ≤ 256
      · rw [(whole short).1]
        exact host_plain
      · rw [accepted.host_cut parts_ (not_le.mp short)]
        exact fun there => host_plain (List.mem_of_mem_take there)
    have fits : (UrlParts.hostText url.host url.port).length + 8 < 256 := by
      by_contra long
      have count := parse_short accepted stored_plain (fun header there => by
        have good := well.headers header (List.mem_cons_of_mem _ there)
        exact fieldLine_plain good.1.plain good.2.plain) (not_lt.mp long) read
      simp only [upgradeRequest, List.length_cons] at count
      omega
    have short : parts.host.length ≤ 256 := by
      by_contra long
      have full := congrArg List.length (accepted.host_cut parts_ (not_le.mp long))
      rw [List.length_take_of_le (not_le.mp long).le] at full
      have bound := (@hostText_host url.host url.port).length_le
      omega
    obtain ⟨host, port, -⟩ := whole short
    rw [host, port] at fits
    rw [printed_whole host port path fits, parse_render well, Option.some.injEq,
      Prod.mk.injEq] at read
    exact ⟨path ▸ back.path_length, fits, well, read.2⟩
  · rintro ⟨length, fits, well, rfl⟩
    rw [printed_render accepted parts_ length fits well, parse_render well]

/-- A well-formed request has no custom field without a name. -/
lemma wellFormed_named {param : UpgradeParam} (well : (upgradeRequest parts headers).WellFormed)
    (sent : ∀ member ∈ param.httpHeader, member ∈ headers) : param.named = param.httpHeader := by
  refine List.filter_eq_self.mpr fun member there => decide_eq_true ?_
  exact (well.headers member (List.mem_cons_of_mem _ (sent member there))).1.some_

/-- The buffer is right for an accepted URL exactly if its request can be sent. -/
theorem right_printed_iff {extra : Bytes} {first : Header} (accepted : Accepted url address)
    (param : UpgradeParam) :
    Right (cString address) (first :: (more ++ param.httpHeader)) (some (checkContentSize
        (ssnprintf BufferSize (printed url.path (hostBuff url)
          (first :: (more ++ param.named)) extra)))) ↔
      2 ^ 31 ≤ contentSize url (first :: (more ++ param.named)) + extra.length ∨
        extra = [] ∧ ∃ parts, UrlParts.urlParts (cString address) = some parts ∧
          Sendable parts (first :: (more ++ param.httpHeader)) := by
  have all_named : ∀ {parts}, (upgradeRequest parts (first :: (more ++ param.httpHeader))).WellFormed →
      param.named = param.httpHeader := fun well => wellFormed_named well
    fun member there => List.mem_cons_of_mem _ (List.mem_append_right _ there)
  rw [right_iff (printed_ne_nil _ _ _ _), length_printed]
  refine or_congr_right ?_
  constructor
  · rintro ⟨parts, parts_, fits, read, own⟩
    have well := wellFormed_of_parse read
    rw [all_named well] at read fits
    obtain ⟨path_fits, host_fits, -, rfl⟩ := (parse_printed_iff accepted parts_).mp read
    refine ⟨rfl, parts, parts_, path_fits, host_fits, ?_, well, own⟩
    have whole := @printed_render url address parts _ [] accepted parts_ path_fits host_fits well
    rw [← List.append_nil (Request.render _), ← whole, length_printed]
    exact fits
  · rintro ⟨rfl, parts, parts_, path_fits, host_fits, fits, well, own⟩
    refine ⟨parts, parts_, ?_, ?_, own⟩
    · have whole := @printed_render url address parts _ [] accepted parts_ path_fits host_fits well
      rw [all_named well, ← length_printed, whole, List.append_nil]
      exact fits
    · rw [all_named well]
      exact (parse_printed_iff accepted parts_).mpr ⟨path_fits, host_fits, well, rfl⟩

end Read

/-! ## The credentials -/

section Credentials

variable {memory : ℕ → UInt8} {text : Bytes} {start size : ℕ}

/-- A copy stays in its field exactly if the text is no longer than that. -/
theorem memcpy_inside_iff : Inside (memcpy start text) start size ↔ text.length ≤ size := by
  constructor
  · intro inside
    by_contra long
    have written := inside (fun _ => text.getD size 0 + 1) (start + size) (.inr le_rfl)
    rw [memcpy, if_pos ⟨by omega, by omega⟩, Nat.add_sub_cancel_left] at written
    have different : text.getD size 0 + 1 ≠ text.getD size 0 := by
      intro same
      have wraps := congrArg UInt8.toNat same
      have small := (text.getD size 0).toNat_lt
      have one : (1 : UInt8).toNat = 1 := rfl
      rw [UInt8.toNat_add, one] at wraps
      omega
    exact different written.symm
  · intro fits memory i outside
    rw [memcpy, if_neg]
    omega

/-- A text without zeros is read from its field if its end is there too. -/
lemma fieldText_eq (held : ∀ i < size, memory (start + i) = text.getD i 0) (plain : 0 ∉ text) :
    fieldText memory start size = if text.length < size then some text else none := by
  have field : (List.range size).map (fun i => memory (start + i)) =
      (text ++ List.replicate (size - text.length) 0).take size := by
    refine List.ext_getElem ?_ ?_
    · simp
      omega
    · intro i first second
      rw [List.length_map, List.length_range] at first
      rw [List.getElem_map, List.getElem_range, held i first, List.getElem_take,
        List.getElem_append]
      split
      · rename_i inside
        rw [List.getD_eq_getElem _ _ inside]
      · rename_i outside
        rw [List.getElem_replicate, List.getD_eq_default _ _ (not_lt.mp outside)]
  unfold fieldText
  dsimp only
  rw [field]
  by_cases short : text.length < size
  · obtain ⟨k, room⟩ := Nat.exists_eq_succ_of_ne_zero (Nat.sub_ne_zero_of_lt short)
    have whole : (text ++ List.replicate (size - text.length) 0).take size =
        text ++ 0 :: List.replicate k 0 := by
      rw [List.take_of_length_le, room, List.replicate_succ]
      simp
      omega
    have read : cString (text ++ 0 :: List.replicate k 0) = text := by
      unfold cString
      rw [List.takeWhile_append_of_pos, List.takeWhile_cons, if_neg (by decide), List.append_nil]
      intro b there
      rw [decide_eq_true_iff]
      rintro rfl
      exact plain there
    rw [whole, if_pos (List.mem_append_right _ List.mem_cons_self), if_pos short, read]
  · have whole : (text ++ List.replicate (size - text.length) 0).take size = text.take size := by
      rw [Nat.sub_eq_zero_of_le (not_lt.mp short), List.replicate_zero, List.append_nil]
    rw [whole, if_neg fun there => plain (List.mem_of_mem_take there), if_neg short]

variable {param : UpgradeParam} {directIp : Bytes} {url : Url}

lemma parseUrlInformation_some (is : parseUrlInformation directIp param = some url) :
    Accepted url param.url ∧ url.memory = copyApikey param (copyToken param fun _ => 0) := by
  unfold parseUrlInformation NodeUrl.parseUrlInformation at is
  rw [Option.map_eq_some_iff] at is
  obtain ⟨node, parsed, rfl⟩ := is
  split at parsed
  · cases parsed
  · rename_i direct _
    dsimp only at parsed
    split at parsed
    · rename_i accepted
      rw [Option.some.injEq] at parsed
      rw [← parsed]
      exact ⟨⟨direct.toUrlAddress, Prod.ext rfl accepted⟩, rfl⟩
    · cases parsed

lemma token_read (is : parseUrlInformation directIp param = some url) :
    fieldText url.memory tokenField TokenSize =
      if param.token.length < TokenSize then some param.token else none := by
  refine fieldText_eq ?_ param.token_text
  intro i small
  rw [(parseUrlInformation_some is).2, copyApikey, copyToken, memcpy, if_neg]
  · rw [memcpy, tokenField, Nat.zero_add, Nat.zero_add]
    split
    · rfl
    · rename_i outside
      rw [List.getD_eq_default _ _ (by omega)]
  · rw [apikeyField, tokenField]
    omega

lemma apikey_read (is : parseUrlInformation directIp param = some url)
    (inside : param.token.length ≤ TokenSize) :
    fieldText url.memory apikeyField TokenSize =
      if param.apikey.length < TokenSize then some param.apikey else none := by
  refine fieldText_eq ?_ param.apikey_text
  intro i small
  rw [(parseUrlInformation_some is).2, copyApikey, memcpy]
  split
  · rw [Nat.add_sub_cancel_left]
  · rename_i outside
    rw [copyToken, memcpy, if_neg, List.getD_eq_default _ _ (by omega)]
    rw [apikeyField, tokenField]
    omega

end Credentials

/-- Both credentials stay in their fields. -/
def CopiesInside (param : UpgradeParam) : Prop :=
  Inside (copyToken param) tokenField TokenSize ∧ Inside (copyApikey param) apikeyField TokenSize

lemma copiesInside_iff {param : UpgradeParam} :
    CopiesInside param ↔ param.token.length ≤ TokenSize ∧ param.apikey.length ≤ TokenSize :=
  and_congr memcpy_inside_iff memcpy_inside_iff

lemma not_right_none {address : Bytes} {headers : List HttpRequest.Header} :
    ¬ Right address headers none := by
  rintro ⟨stored, ret, is, -⟩
  cases is

lemma requestPackage_right {param : UpgradeParam} {directIp : Bytes} {url : Url}
    (accepted : parseUrlInformation directIp param = some url) :
    CopiesInside param ∧ Right (cString param.url) (nlsHeaders param.token param.httpHeader)
        (requestPackage url param.getHttpHeader) ↔
      param.token.length < TokenSize ∧ param.apikey.length ≤ TokenSize ∧
        (2 ^ 31 ≤ contentSize url (nlsHeaders param.token param.named) ∨
          ∃ parts, UrlParts.urlParts (cString param.url) = some parts ∧
            Sendable parts (nlsHeaders param.token param.httpHeader)) := by
  have read := token_read accepted
  rw [copiesInside_iff]
  by_cases short : param.token.length < TokenSize
  · rw [if_pos short] at read
    rw [requestPackage_eq read]
    have right := @right_printed_iff url param.url (webSocketHeaders.tail ++
      [(ascii "X-NLS-Token", param.token)]) [] (ascii "Upgrade", ascii "websocket")
      (parseUrlInformation_some accepted).1 param
    constructor
    · rintro ⟨inside, is⟩
      exact ⟨short, inside.2, (right.mp is).imp id And.right⟩
    · rintro ⟨-, inside, is⟩
      exact ⟨⟨short.le, inside⟩, right.mpr (is.imp id fun is => ⟨rfl, is⟩)⟩
  · rw [if_neg short] at read
    have none_ : requestPackage url param.getHttpHeader = none := by
      rw [requestPackage, read, Option.map_none]
    rw [none_]
    exact ⟨fun is => absurd is.2 not_right_none, fun is => absurd is.1 short⟩

lemma requestDashScopePackage_right {param : UpgradeParam} {directIp : Bytes} {url : Url}
    (os : Platform) (accepted : parseUrlInformation directIp param = some url) :
    CopiesInside param ∧ Right (cString param.url) (dashScopeHeaders os param.apikey param.httpHeader)
        (requestDashScopePackage os url param.getHttpHeader) ↔
      param.token.length ≤ TokenSize ∧ param.apikey.length < TokenSize ∧
        (2 ^ 31 ≤ contentSize url (dashScopeHeaders os param.apikey param.named) +
            (if param.named = [] then 0 else 2) ∨
          param.httpHeader = [] ∧ ∃ parts, UrlParts.urlParts (cString param.url) = some parts ∧
            Sendable parts (dashScopeHeaders os param.apikey [])) := by
  rw [copiesInside_iff]
  by_cases inside : param.token.length ≤ TokenSize
  · have read := apikey_read accepted inside
    by_cases short : param.apikey.length < TokenSize
    · rw [if_pos short] at read
      rw [requestDashScopePackage_eq read]
      have right := @right_printed_iff url param.url (webSocketHeaders.tail ++
        [(ascii "user-agent", userAgent os), (ascii "X-DashScope-DataInspection", ascii "enable"),
          (ascii "Authorization", ascii "bearer " ++ param.apikey)])
        (if param.named = [] then [] else [13, 10]) (ascii "Upgrade", ascii "websocket")
        (parseUrlInformation_some accepted).1 param
      have extra : (if param.named = [] then ([] : Bytes) else [13, 10]).length =
          if param.named = [] then 0 else 2 := by
        split <;> rfl
      rw [extra] at right
      constructor
      · rintro ⟨both, is⟩
        refine ⟨inside, short, (right.mp is).imp id ?_⟩
        rintro ⟨blank, parts, parts_, sendable⟩
        have unnamed : param.named = [] := by
          by_contra some_
          rw [if_neg some_] at blank
          cases blank
        have none_ : param.httpHeader = [] := by
          rw [← wellFormed_named sendable.wellFormed fun member there =>
            List.mem_cons_of_mem _ (List.mem_append_right _ there), unnamed]
        rw [none_] at sendable
        exact ⟨none_, parts, parts_, sendable⟩
      · rintro ⟨-, -, is⟩
        refine ⟨⟨inside, short.le⟩, right.mpr (is.imp id ?_)⟩
        rintro ⟨none_, parts, parts_, sendable⟩
        have unnamed : param.named = [] := by
          rw [UpgradeParam.named, none_, List.filter_nil]
        rw [if_pos unnamed, none_]
        exact ⟨rfl, parts, parts_, sendable⟩
    · rw [if_neg short] at read
      have none_ : requestDashScopePackage os url param.getHttpHeader = none := by
        rw [requestDashScopePackage, read, Option.map_none]
      rw [none_]
      exact ⟨fun is => absurd is.2 not_right_none, fun is => absurd is.2.1 short⟩
  · exact ⟨fun is => absurd is.1.1 inside, fun is => absurd is.1 inside⟩

/-- A build of the library. -/
def linux : Platform := ⟨ascii "V3.4.0a-20250101", ascii "Linux", ascii "x86_64"⟩

def plainParam : UpgradeParam := { url := ascii "wss://h/p", token := ascii "t" }

def headerParam : UpgradeParam where
  url := ascii "wss://dashscope/p"
  apikey := ascii "sk"
  httpHeader := [(ascii "a", ascii "b")]

lemma plain_sendable : Sendable ⟨ascii "wss", ascii "h", 443, ascii "p"⟩
    (nlsHeaders plainParam.token plainParam.httpHeader) where
  path_fits := by decide +kernel
  host_fits := by decide +kernel
  fits := by decide +kernel
  wellFormed := ⟨by decide +kernel, ⟨by decide, by decide +kernel⟩, by decide +kernel⟩
  own_host := by decide +kernel

/-- What `gatewayRequest` adds to the command buffer. -/
def queued (packaged : Option (Bytes × Ret)) : Option UpgradeRequest :=
  packaged.bind fun written =>
    match written.2 with
    | .error _ => none
    | .ok size =>
      if some_ : (bufferBytes written.1).take size = [] then none else some ⟨_, some_⟩

/-- A node whose request is right queues what is read back, or reports an error. -/
theorem gatewayRequest_reads {e : Env} {n : ConnectNode} {packaged : Option (Bytes × Ret)}
    {address : Bytes} {headers : List HttpRequest.Header} (request : n.request = true)
    (event : n.readEvent = true) (env : e.upgradeRequest = queued packaged)
    (right : Right address headers packaged) :
    (n.gatewayRequest e).2 = .error .getHttpHeaderFailed ∨
      ∃ bytes parts, (n.gatewayRequest e).1.upgrade = some bytes ∧
        UrlParts.urlParts address = some parts ∧
        HttpRequest.parse bytes = some (upgradeRequest parts headers, []) := by
  obtain ⟨stored, ret, rfl, right⟩ := right
  unfold ConnectNode.gatewayRequest
  rw [env, request, event]
  rcases right with failed | ⟨size, parts, rfl, -, parts_, read, -⟩
  · left
    cases ret with
    | error code => rfl
    | ok size => cases failed
  · right
    have some_ : (bufferBytes stored).take size ≠ [] := by
      intro empty
      rw [empty] at read
      cases read
    refine ⟨(bufferBytes stored).take size, parts, ?_, parts_, read⟩
    rw [queued, Option.bind_some]
    dsimp only
    rw [dif_neg some_]
    rfl

end RequestPackage

end NlsSdk.Transport
