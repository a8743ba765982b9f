import NlsSdk.Library.FormUrl
import NlsSdk.Library.JsonValue
import NlsSdk.Library.Scanf
import NlsSdk.Token.HttpMessage

/-!
# Signed requests of the token library

`CommonClient`: the requests of the file transcription and token services, with the
parameters that are signed, the query, the body and the headers, and what is sent of
them.
-/
namespace NlsSdk.Token

open NlsSdk.Library NlsSdk.Library.FormUrl NlsSdk.Transport
open NlsSdk.Library.Scanf (natDecimal)

/-- A `std::map` of strings, in its order. -/
abbrev ParameterCollection := List (Bytes × Bytes)

namespace HttpRequest

inductive Method
  | get | head | post | put | delete | connect | options | patch | trace
  deriving DecidableEq, Repr

end HttpRequest

open HttpRequest (Method)

def httpMethodToString : Method → Bytes
  | .head => ascii "HEAD"
  | .post => ascii "POST"
  | .put => ascii "PUT"
  | .delete => ascii "DELETE"
  | .connect => ascii "CONNECT"
  | .options => ascii "OPTIONS"
  | .patch => ascii "PATCH"
  | .trace => ascii "TRACE"
  | .get => ascii "GET"

structure Url where
  scheme : Bytes
  host : Bytes
  path : Bytes
  query : Bytes

def Url.setHost (url : Url) (host : Bytes) : Url := { url with host := host.map lowerByte }

structure HttpRequest extends HttpMessage where
  url : Url
  method : Method

structure Credentials where
  accessKeyId : Bytes
  accessKeySecret : Bytes
  stsToken : Bytes

/-- The message a request is built from; no content is the empty one. -/
structure CommonRequest where
  content : Bytes
  resourcePath : Bytes
  version : Bytes
  action : Bytes
  task : Bytes
  taskId : Bytes

namespace CommonRequest

def hasContent (msg : CommonRequest) : Bool := msg.content.length ≠ 0

def setTask (msg : CommonRequest) (task : Bytes) : CommonRequest :=
  { msg with task := task, content := ascii "Task=" ++ task }

end CommonRequest

/-- The client, with what a request takes from its surroundings. -/
structure CommonClient where
  credentials : Credentials
  regionId : Bytes
  /-- `GenerateUuid`. -/
  uuid : Bytes
  /-- The time, as `%d-%02d-%02dT%02d:%02d:%02dZ` prints it. -/
  timestamp : Bytes
  /-- The signer: the signature of a text under a secret. -/
  generate : Bytes → Bytes → Bytes
  /-- The digest of `ComputeContentMD5`. -/
  computeContentMD5 : Bytes → Bytes

/-- `curl_easy_escape`. -/
def urlEncode (src : Bytes) : Bytes := percentEncode src

/-- `StringReplace`; `skipped` bytes of the last place found are still to be passed over. -/
def stringReplace (s1 s2 : Bytes) : Bytes → ℕ → Bytes
  | [], _ => []
  | _ :: rest, skipped + 1 => stringReplace s1 s2 rest skipped
  | b :: rest, 0 =>
    if s1.isPrefixOf (b :: rest) then s2 ++ stringReplace s1 s2 rest (s1.length - 1)
    else b :: stringReplace s1 s2 rest 0

/-- The three replacements of one text of the canonical query. -/
def canonicalized (text : Bytes) : Bytes :=
  let text := stringReplace (ascii "+") (ascii "%20") (urlEncode text) 0
  let text := stringReplace (ascii "*") (ascii "%2A") text 0
  stringReplace (ascii "%7E") (ascii "~") text 0

def canonicalizedQuery (params : ParameterCollection) : Bytes :=
  (params.flatMap fun p => 38 :: (canonicalized p.1 ++ 61 :: canonicalized p.2)).drop 1

/-- `strncmp` is zero. -/
def strncmpEqual (s1 s2 : Bytes) (n : ℕ) : Bool := textOf (s1.take n) = textOf (s2.take n)

/-- The query of a request: every parameter whose name is no beginning of `Task`. -/
def queryString (queryParams : ParameterCollection) : Bytes :=
  ((queryParams.filter fun p => !strncmpEqual p.1 (ascii "Task") p.1.length).flatMap fun p =>
    38 :: (p.1 ++ 61 :: urlEncode p.2)).drop 1

/-- A sequence of `setHeader` calls. -/
def HttpMessage.setHeaders (m : HttpMessage) (headers : List (Bytes × Bytes)) : HttpMessage :=
  headers.foldl (fun m header => m.setHeader header.1 header.2) m

/-- The headers of a body; the digest is made of the content of the message. -/
def bodyHeaders (c : CommonClient) (msg : CommonRequest) (size : ℕ) : List (Bytes × Bytes) :=
  [(ascii "Content-Length", natDecimal size),
    (ascii "Content-Type", ascii "application/x-www-form-urlencoded;charset=utf-8"),
    (ascii "Content-MD5", c.computeContentMD5 msg.content)]

def closingHeaders (url : Url) : List (Bytes × Bytes) :=
  [(ascii "Host", url.host), (ascii "Accept-Encoding", ascii "identity"),
    (ascii "x-sdk-client", ascii "CPP/1.3.2"), (ascii "x-sdk-invoke-type", ascii "common"),
    (ascii "Cache-Control", ascii "no-cache"), (ascii "Pragma", ascii "no-cache"),
    (ascii "Connection", ascii "keep-alive")]

/-- The request around the query; `body` is what `setBody` is given. -/
def httpRequest (c : CommonClient) (url : Url) (msg : CommonRequest) (method : Method)
    (body : Bytes) : HttpRequest :=
  let request := HttpMessage.empty.setHeader (ascii "Accept") (ascii "application/json")
  let request :=
    if msg.hasContent then
      (request.setBody (some body) body.length).setHeaders (bodyHeaders c msg body.length)
    else request
  { request.setHeaders (closingHeaders url) with url := url, method := method }

/-- The parameters that are set one after another. -/
def setParameters (params : List (Bytes × Bytes)) : ParameterCollection :=
  params.foldl (fun map p => setMember p.1 p.2 map) []

def signatureName : Bytes := ascii "Signature"

/-- The parameters the signature of a transcription request is computed over. -/
def fileTransParams (c : CommonClient) (msg : CommonRequest) (method : Method) :
    ParameterCollection :=
  setParameters ([(ascii "AccessKeyId", c.credentials.accessKeyId)] ++
    (if c.credentials.stsToken ≠ [] then [(ascii "SecurityToken", c.credentials.stsToken)] else []) ++
    [(ascii "Action", msg.action), (ascii "Format", ascii "JSON"), (ascii "RegionId", c.regionId),
      (ascii "SignatureMethod", ascii "HMAC-SHA1"), (ascii "SignatureNonce", c.uuid),
      (ascii "SignatureVersion", ascii "1.0")] ++
    (if method = .post then [(ascii "Task", msg.task)] else [(ascii "TaskId", msg.taskId)]) ++
    [(ascii "Timestamp", c.timestamp), (ascii "Version", msg.version)])

def fileTransSignature (c : CommonClient) (msg : CommonRequest) (method : Method) : Bytes :=
  c.generate
    (httpMethodToString method ++ ascii "&" ++ urlEncode msg.resourcePath ++ ascii "&" ++
      urlEncode (canonicalizedQuery (fileTransParams c msg method)))
    (c.credentials.accessKeySecret ++ ascii "&")

def buildFileTransHttpRequest (c : CommonClient) (endpoint : Bytes) (msg : CommonRequest)
    (method : Method) : HttpRequest :=
  let url : Url := { scheme := ascii "http", host := [], path := msg.resourcePath, query := [] }
  let url := url.setHost endpoint
  let queryParams :=
    setMember signatureName (fileTransSignature c msg method) (fileTransParams c msg method)
  httpRequest c { url with query := queryString queryParams } msg method
    (ascii "Task=" ++ urlEncode msg.task)

/-- The parameters the signature of a token request is computed over. -/
def tokenParams (c : CommonClient) (msg : CommonRequest) : ParameterCollection :=
  setParameters
    [(ascii "AccessKeyId", c.credentials.accessKeyId), (ascii "Action", msg.action),
      (ascii "Format", ascii "JSON"), (ascii "RegionId", c.regionId),
      (ascii "SignatureMethod", ascii "HMAC-SHA1"), (ascii "SignatureNonce", c.uuid),
      (ascii "SignatureVersion", ascii "1.0"), (ascii "Timestamp", c.timestamp),
      (ascii "Version", msg.version)]

def tokenSignature (c : CommonClient) (msg : CommonRequest) (method : Method) : Bytes :=
  c.generate
    (httpMethodToString method ++ ascii "&" ++ urlEncode (ascii "/") ++ ascii "&" ++
      urlEncode (canonicalizedQuery (tokenParams c msg)))
    (c.credentials.accessKeySecret ++ ascii "&")

def buildTokenHttpRpcRequest (c : CommonClient) (endpoint : Bytes) (msg : CommonRequest)
    (method : Method) : HttpRequest :=
  let url : Url := { scheme := ascii "http", host := [], path := msg.resourcePath, query := [] }
  let url := url.setHost endpoint
  let queryParams := setMember signatureName (tokenSignature c msg method) (tokenParams c msg)
  httpRequest c { url with query := queryString queryParams } msg method msg.content

/-- The body that `CurlHttpClient::makeRequest` hands to the transfer. -/
def HttpRequest.sentBody (request : HttpRequest) : Bytes :=
  if request.method ≠ .get then
    if request.hasBody then request.seenBody else []
  else []

/-- A request after copies of it were made on its way to the transfer. -/
def HttpRequest.passed (request : HttpRequest) (passings : List Passing) : HttpRequest :=
  { request with toHttpMessage := run Passing.step request.toHttpMessage passings }

/-! ## What the signature is computed over -/

lemma stringReplace_off {s2 text : Bytes} {b : UInt8} (off : b ∉ text) (s1 : Bytes) :
    stringReplace (b :: s1) s2 text 0 = text := by
  induction text with
  | nil => rfl
  | cons c text ih =>
    rw [List.mem_cons, not_or] at off
    have elsewhere : (b :: s1).isPrefixOf (c :: text) = false := by
      rw [List.isPrefixOf_cons_cons, beq_false_of_ne off.1, Bool.false_and]
    rw [stringReplace, elsewhere, if_neg Bool.false_ne_true, ih off.2]

lemma stringReplace_pass {s1 s2 : Bytes} {b : UInt8} {rest : Bytes}
    (elsewhere : s1.isPrefixOf (b :: rest) = false) :
    stringReplace s1 s2 (b :: rest) 0 = b :: stringReplace s1 s2 rest 0 := by
  rw [stringReplace, elsewhere, if_neg Bool.false_ne_true]

/-- `~` is never encoded, so there is no `%7E` to replace. -/
lemma stringReplace_tilde (bytes s2 : Bytes) :
    stringReplace (ascii "%7E") s2 (percentEncode bytes) 0 = percentEncode bytes := by
  have sign : ascii "%7E" = [37, 55, 69] := by decide
  have other {b : UInt8} (plain : unreserved b = true) (rest : Bytes) :
      (ascii "%7E").isPrefixOf (b :: rest) = false := by
    rw [sign, List.isPrefixOf_cons_cons, beq_false_of_ne (unreserved_ne plain rfl).symm, Bool.false_and]
  induction bytes with
  | nil => rfl
  | cons b bytes ih =>
    have bound : b.toNat < 256 := b.toNat_lt
    have high := hexDigit_plain (show b.toNat / 16 < 16 by omega)
    have low := hexDigit_plain (show b.toNat % 16 < 16 by omega)
    rw [percentEncode, List.flatMap_cons, ← percentEncode, encodeByte]
    split
    · next plain =>
      rw [List.singleton_append, stringReplace_pass (other plain _), ih]
    · next special =>
      have elsewhere : (ascii "%7E").isPrefixOf
          (37 :: hexDigit (b.toNat / 16) :: hexDigit (b.toNat % 16) :: percentEncode bytes) =
            false := by
        rw [sign, Bool.eq_false_iff]
        intro there
        simp only [List.isPrefixOf_cons_cons, Bool.and_eq_true, beq_iff_eq] at there
        obtain ⟨-, first, second, -⟩ := there
        have h := hexValue_hexDigit (show b.toNat / 16 < 16 by omega)
        have l := hexValue_hexDigit (show b.toNat % 16 < 16 by omega)
        rw [← first] at h
        rw [← second] at l
        have seven : 7 = b.toNat / 16 := Option.some.inj h
        have fourteen : 14 = b.toNat % 16 := Option.some.inj l
        have is : b = 126 := UInt8.toNat_inj.mp (show b.toNat = 126 by omega)
        subst is
        exact special rfl
      rw [List.cons_append, List.cons_append, List.singleton_append, stringReplace_pass elsewhere,
        stringReplace_pass (other high _), stringReplace_pass (other low _), ih]

/-- The replacements find nothing in a percent-encoded text. -/
lemma canonicalized_eq (text : Bytes) : canonicalized text = percentEncode text := by
  have plus : ascii "+" = [43] := by decide
  have star : ascii "*" = [42] := by decide
  rw [canonicalized, urlEncode, plus, star,
    stringReplace_off (not_mem_percentEncode rfl (by decide) text),
    stringReplace_off (not_mem_percentEncode rfl (by decide) text), stringReplace_tilde]

lemma canonicalizedQuery_eq (params : ParameterCollection) :
    canonicalizedQuery params = joinFields (params.map encodeField) := by
  simp only [canonicalizedQuery, canonicalized_eq, joinFields, List.flatMap_map]
  rfl

/-- The text that is signed determines the parameters. -/
theorem decodeForm_canonicalizedQuery (params : ParameterCollection) :
    decodeForm (canonicalizedQuery params) = params := by
  rw [canonicalizedQuery_eq, decodeForm_encodeFields]

/-! ## What the query carries -/

/-- A name that goes into the query as it is. -/
def IsQueryName (name : Bytes) : Prop :=
  name.all unreserved = true ∧ strncmpEqual name (ascii "Task") name.length = false

instance (name : Bytes) : Decidable (IsQueryName name) := inferInstanceAs (Decidable (_ ∧ _))

lemma queryString_eq {params : ParameterCollection}
    (plain : ∀ p ∈ params, p.1.all unreserved = true) :
    queryString params = joinFields
      ((params.filter fun p => !strncmpEqual p.1 (ascii "Task") p.1.length).map encodeField) := by
  rw [queryString, joinFields, List.flatMap_map]
  congr 1
  refine List.flatMap_congr fun p among => ?_
  rw [encodeField, percentEncode_plain (plain p (List.mem_of_mem_filter among)), urlEncode]

/-- The query is read back as the parameters that pass the filter. -/
theorem decodeForm_queryString {params : ParameterCollection}
    (plain : ∀ p ∈ params, p.1.all unreserved = true) :
    decodeForm (queryString params) =
      params.filter fun p => !strncmpEqual p.1 (ascii "Task") p.1.length := by
  rw [queryString_eq plain, decodeForm_encodeFields]

lemma setParameters_inOrder (params : List (Bytes × Bytes)) : InOrder (setParameters params) := by
  suffices all : ∀ map : ParameterCollection, InOrder map →
      InOrder (params.foldl (fun map p => setMember p.1 p.2 map) map) from all [] List.Pairwise.nil
  induction params with
  | nil => exact fun map inOrder => inOrder
  | cons p params ih => exact fun map inOrder => ih _ (inOrder_setMember p.1 p.2 inOrder)

/-- Only what was set is there. -/
lemma mem_setParameters {params : List (Bytes × Bytes)} {p : Bytes × Bytes}
    (among : p ∈ setParameters params) : p ∈ params := by
  suffices all : ∀ map : ParameterCollection,
      p ∈ params.foldl (fun map p => setMember p.1 p.2 map) map → p ∈ params ∨ p ∈ map from
    (all [] among).resolve_right List.not_mem_nil
  clear among
  induction params with
  | nil => exact fun map there => .inr there
  | cons q params ih =>
    intro map there
    rcases ih _ there with later | there
    · exact .inl (List.mem_cons_of_mem _ later)
    rcases mem_setMember_cases there with is | there
    · exact .inl (is ▸ List.mem_cons_self)
    · exact .inr there

/-! ## The parameters of the two requests -/

/-- Names of parameters that reach the query as they are. -/
def queryNames : List Bytes :=
  [ascii "AccessKeyId", ascii "SecurityToken", ascii "Action", ascii "Format", ascii "RegionId",
    ascii "SignatureMethod", ascii "SignatureNonce", ascii "SignatureVersion", ascii "TaskId",
    ascii "Timestamp", ascii "Version", signatureName]

lemma queryNames_plain : queryNames.all (fun name => name.all unreserved &&
    !strncmpEqual name (ascii "Task") name.length) = true := by decide +kernel

lemma queryNames_spec {name : Bytes} (listed : name ∈ queryNames) :
    name.all unreserved = true ∧ strncmpEqual name (ascii "Task") name.length = false := by
  have plain := List.all_eq_true.mp queryNames_plain name listed
  rwa [Bool.and_eq_true, Bool.not_eq_true'] at plain

/-- With such names only, every parameter is read back from the query. -/
lemma decodeForm_queryString_all {params : ParameterCollection}
    (listed : ∀ p ∈ params, p.1 ∈ queryNames) : decodeForm (queryString params) = params := by
  rw [decodeForm_queryString fun p among => (queryNames_spec (listed p among)).1]
  refine List.filter_eq_self.mpr fun p among => ?_
  rw [(queryNames_spec (listed p among)).2]
  rfl

/-- The names a transcription request is signed with, with a security token or without. -/
def fileTransNames (token post : Bool) : List Bytes :=
  [ascii "AccessKeyId"] ++ (if token then [ascii "SecurityToken"] else []) ++
    [ascii "Action", ascii "Format", ascii "RegionId", ascii "SignatureMethod",
      ascii "SignatureNonce", ascii "SignatureVersion"] ++
    (if post then [ascii "Task"] else [ascii "TaskId"]) ++ [ascii "Timestamp", ascii "Version"]

lemma fileTransNames_listed (token post : Bool) : (fileTransNames token post).all (fun name =>
    queryNames.contains name || (post && name == ascii "Task")) = true := by
  cases token <;> cases post <;> decide +kernel

/-- The names of a transcription request; the task itself is left out of the query. -/
lemma fileTransParams_names (c : CommonClient) (msg : CommonRequest) (method : Method) :
    ∀ p ∈ fileTransParams c msg method,
      p.1 ∈ queryNames ∨ method = .post ∧ p.1 = ascii "Task" := by
  intro p among
  have listed := List.mem_map_of_mem (f := Prod.fst) (mem_setParameters among)
  have names : p.1 ∈ fileTransNames (c.credentials.stsToken ≠ []) (method = .post) := by
    refine Eq.subst (motive := fun names => p.1 ∈ names) ?_ listed
    by_cases token : c.credentials.stsToken = [] <;> by_cases post : method = .post <;>
      simp [fileTransNames, token, post]
  have is := List.all_eq_true.mp (fileTransNames_listed _ _) p.1 names
  simpa only [Bool.or_eq_true, List.contains_iff_mem, Bool.and_eq_true, decide_eq_true_eq,
    beq_iff_eq] using is

lemma tokenNames_listed : ([ascii "AccessKeyId", ascii "Action", ascii "Format", ascii "RegionId",
    ascii "SignatureMethod", ascii "SignatureNonce", ascii "SignatureVersion", ascii "Timestamp",
    ascii "Version"].all queryNames.contains) = true := by decide +kernel

lemma tokenParams_names (c : CommonClient) (msg : CommonRequest) :
    ∀ p ∈ tokenParams c msg, p.1 ∈ queryNames := by
  intro p among
  have listed := List.mem_map_of_mem (f := Prod.fst) (mem_setParameters among)
  exact List.contains_iff_mem.mp (List.all_eq_true.mp tokenNames_listed p.1 listed)

/-! ## The request that is sent -/

section Sent

variable (c : CommonClient) (url : Url) (msg : CommonRequest) (method : Method) (body : Bytes)

lemma header_setHeaders_other {name : Bytes} (headers : List (Bytes × Bytes))
    (off : ∀ h ∈ headers, folded h.1 ≠ folded name) (m : HttpMessage) :
    (m.setHeaders headers).header name = m.header name := by
  induction headers generalizing m with
  | nil => rfl
  | cons h headers ih =>
    refine (ih (fun h' among => off h' (List.mem_cons_of_mem _ among)) _).trans ?_
    rw [HttpMessage.header_setHeader, if_neg (off h List.mem_cons_self)]

lemma bodyNames_apart : [ascii "Host", ascii "Accept-Encoding", ascii "x-sdk-client",
    ascii "x-sdk-invoke-type", ascii "Cache-Control", ascii "Pragma", ascii "Connection",
    ascii "Accept", ascii "Content-Type"].all (fun name =>
      folded name != folded (ascii "Content-Length") &&
        folded name != folded (ascii "Content-MD5")) = true := by decide +kernel

lemma length_digest_apart : folded (ascii "Content-MD5") ≠ folded (ascii "Content-Length") := by
  decide +kernel

lemma apart_of_listed {name : Bytes} (listed : name ∈ [ascii "Host", ascii "Accept-Encoding",
    ascii "x-sdk-client", ascii "x-sdk-invoke-type", ascii "Cache-Control", ascii "Pragma",
    ascii "Connection", ascii "Accept", ascii "Content-Type"]) :
    folded name ≠ folded (ascii "Content-Length") ∧ folded name ≠ folded (ascii "Content-MD5") := by
  have apart := List.all_eq_true.mp bodyNames_apart name listed
  rwa [Bool.and_eq_true, bne_iff_ne, bne_iff_ne] at apart

lemma closingHeaders_apart : ∀ h ∈ closingHeaders url,
    folded h.1 ≠ folded (ascii "Content-Length") ∧ folded h.1 ≠ folded (ascii "Content-MD5") := by
  intro h among
  have listed : h.1 ∈ _ := List.mem_map_of_mem (f := Prod.fst) among
  exact apart_of_listed (List.mem_append_left [ascii "Accept", ascii "Content-Type"] listed)

lemma hasContent_iff : msg.hasContent = true ↔ msg.content ≠ [] := by
  rw [CommonRequest.hasContent, decide_eq_true_iff, ne_eq, List.length_eq_zero_iff]

lemma httpRequest_length (some : msg.content ≠ []) :
    (httpRequest c url msg method body).header (ascii "Content-Length") =
      natDecimal body.length := by
  rw [httpRequest, if_pos ((hasContent_iff msg).mpr some)]
  refine (header_setHeaders_other _ (fun h among => (closingHeaders_apart url h among).1) _).trans ?_
  rw [bodyHeaders, HttpMessage.setHeaders]
  simp only [List.foldl_cons, List.foldl_nil, HttpMessage.header_setHeader,
    if_neg length_digest_apart, if_pos,
    if_neg (@apart_of_listed (ascii "Content-Type") (by simp)).1]

lemma httpRequest_bare (none : msg.content = []) :
    (httpRequest c url msg method body).header (ascii "Content-Length") = [] ∧
      (httpRequest c url msg method body).header (ascii "Content-MD5") = [] := by
  have accept := @apart_of_listed (ascii "Accept") (by simp)
  rw [httpRequest, if_neg (fun has => (hasContent_iff msg).mp has none)]
  constructor
  · refine (header_setHeaders_other _ (fun h among => (closingHeaders_apart url h among).1) _).trans
      ?_
    rw [HttpMessage.header_setHeader, if_neg accept.1]
    rfl
  · refine (header_setHeaders_other _ (fun h among => (closingHeaders_apart url h among).2) _).trans
      ?_
    rw [HttpMessage.header_setHeader, if_neg accept.2]
    rfl

lemma holds_setHeaders {text : Bytes} {size : ℕ} (headers : List (Bytes × Bytes)) {m : HttpMessage}
    (holds : m.Holds text size) : (m.setHeaders headers).Holds text size := by
  induction headers generalizing m with
  | nil => exact holds
  | cons h headers ih => exact ih (holds.of_eq rfl rfl)

/-- The body of a request with content, with the zero that `setBody` counts. -/
lemma httpRequest_holds (some : msg.content ≠ []) (nonempty : body ≠ []) :
    (httpRequest c url msg method body).Holds (textOf body) (body.length + 1) := by
  have accept : (HttpMessage.empty.setHeader (ascii "Accept") (ascii "application/json")).Holds
      [] 0 := HttpMessage.holds_empty.of_eq rfl rfl
  have filled := HttpMessage.holds_setBody accept body body.length
  rw [List.take_length, HttpMessage.grown, if_neg (List.length_pos_iff.mpr nonempty).ne',
    if_pos rfl, List.nil_append] at filled
  rw [httpRequest, if_pos ((hasContent_iff msg).mpr some)]
  exact (holds_setHeaders _ (holds_setHeaders _ filled)).of_eq rfl rfl

lemma httpRequest_holds_bare (none : msg.content = []) :
    (httpRequest c url msg method body).Holds [] 0 := by
  have accept : (HttpMessage.empty.setHeader (ascii "Accept") (ascii "application/json")).Holds
      [] 0 := HttpMessage.holds_empty.of_eq rfl rfl
  rw [httpRequest, if_neg (fun has => (hasContent_iff msg).mp has none)]
  exact (holds_setHeaders _ accept).of_eq rfl rfl

end Sent

namespace HttpRequest

/-- The parameters the service decodes from the query and the body. -/
def sentParameters (request : HttpRequest) : ParameterCollection :=
  decodeForm request.url.query ++ decodeForm request.sentBody

/-- A header says this of the body sent; it may be missing when there is no body. -/
def Describes (request : HttpRequest) (name value : Bytes) : Prop :=
  request.header name = value ∨ request.header name = [] ∧ request.sentBody = []

/-- What is sent is the signed parameters and the signature, each once, and the headers of the
body describe the bytes sent. -/
structure SentAsSigned (request : HttpRequest) (digest : Bytes → Bytes)
    (signed : ParameterCollection) (signature : Bytes) : Prop where
  parameters : request.sentParameters.Perm (setMember signatureName signature signed)
  once : (request.sentParameters.map Prod.fst).Nodup
  length : request.Describes (ascii "Content-Length") (natDecimal request.sentBody.length)
  digest : request.Describes (ascii "Content-MD5") (digest request.sentBody)

end HttpRequest

section Sent

variable {c : CommonClient} {url : Url} {msg : CommonRequest} {method : Method} {body : Bytes}

lemma header_passed (request : HttpRequest) (passings : List Passing) (name : Bytes) :
    (request.passed passings).header name = request.header name := by
  change headerIn (run Passing.step request.toHttpMessage passings).headers name = _
  rw [HttpMessage.headers_passed]
  rfl

/-- The length header of a body that is sent, or held back, is always wrong. -/
lemma content_not_described (some : msg.content ≠ []) (nonempty : body ≠ [])
    (passings : List Passing) :
    ¬ ((httpRequest c url msg method body).passed passings).Describes (ascii "Content-Length")
      (natDecimal ((httpRequest c url msg method body).passed passings).sentBody.length) := by
  have pos := List.length_pos_iff.mpr nonempty
  have holds := holds_passed passings (httpRequest_holds c url msg method body some nonempty)
  have length := HttpMessage.length_seenBody holds
  rw [if_neg (Nat.succ_ne_zero _)] at length
  rw [HttpRequest.Describes, header_passed, httpRequest_length c url msg method body some]
  rintro (told | ⟨none, -⟩)
  · have same := Scanf.value_natDecimal body.length
    rw [told, Scanf.value_natDecimal] at same
    unfold HttpRequest.sentBody at same
    split at same
    · split at same
      · have drift : body.length + 1 + _ = body.length := length.symm.trans same
        omega
      · exact absurd same pos.ne
    · exact absurd same pos.ne
  · exact Scanf.natDecimal_ne_nil _ none

/-- Without content no body is sent and no header speaks of one. -/
lemma bare_described (none : msg.content = []) (passings : List Passing) :
    ((httpRequest c url msg method body).passed passings).sentBody = [] ∧
      ∀ value, ((httpRequest c url msg method body).passed passings).Describes
          (ascii "Content-Length") value ∧
        ((httpRequest c url msg method body).passed passings).Describes
          (ascii "Content-MD5") value := by
  have holds := holds_passed passings (httpRequest_holds_bare c url msg method body none)
  have told := (HttpMessage.seenBody_holds holds).1
  rw [if_pos rfl] at told
  have unsent : ((httpRequest c url msg method body).passed passings).sentBody = [] := by
    unfold HttpRequest.sentBody
    split
    · refine if_neg (fun has => ?_)
      rw [HttpMessage.hasBody, decide_eq_true_iff] at has
      exact has told
    · rfl
  have bare := httpRequest_bare c url msg method body none
  exact ⟨unsent, fun value => ⟨.inr ⟨(header_passed _ _ _).trans bare.1, unsent⟩,
    .inr ⟨(header_passed _ _ _).trans bare.2, unsent⟩⟩⟩

/-- The parameters are sent as they are signed when there is no content and none of them is kept
from the query. -/
lemma sentAsSigned_bare {params : ParameterCollection} {signature : Bytes}
    (none : msg.content = []) (inOrder : InOrder params) (listed : ∀ p ∈ params, p.1 ∈ queryNames)
    (query : url.query = queryString (setMember signatureName signature params))
    (passings : List Passing) :
    ((httpRequest c url msg method body).passed passings).SentAsSigned c.computeContentMD5 params
      signature := by
  obtain ⟨unsent, described⟩ := @bare_described c url msg method body none passings
  have signed : ∀ p ∈ setMember signatureName signature params, p.1 ∈ queryNames := by
    intro p among
    rcases mem_setMember_cases among with rfl | there
    · simp [queryNames]
    · exact listed p there
  have sent : ((httpRequest c url msg method body).passed passings).sentParameters =
      setMember signatureName signature params := by
    rw [HttpRequest.sentParameters, unsent]
    change decodeForm url.query ++ [] = _
    rw [List.append_nil, query, decodeForm_queryString_all signed]
  refine ⟨.of_eq sent, ?_, (described _).1, (described _).2⟩
  rw [sent]
  exact (inOrder_setMember _ _ inOrder).nodup

/-- Of the parameters of a posted transcription the query leaves one out. -/
lemma task_unsent (none : msg.content = []) (post : method = .post) {signature : Bytes}
    (query : url.query = queryString
      (setMember signatureName signature (fileTransParams c msg method)))
    (passings : List Passing) :
    ¬ ((httpRequest c url msg method body).passed passings).sentParameters.Perm
      (setMember signatureName signature (fileTransParams c msg method)) := by
  intro perm
  obtain ⟨unsent, -⟩ := @bare_described c url msg method body none passings
  have plain : ∀ p ∈ setMember signatureName signature (fileTransParams c msg method),
      p.1.all unreserved = true := by
    intro p among
    rcases mem_setMember_cases among with rfl | there
    · exact (queryNames_spec (by simp [queryNames])).1
    · rcases fileTransParams_names c msg method p there with listed | ⟨-, is⟩
      · exact (queryNames_spec listed).1
      · rw [is]
        decide
  have task : (setMember signatureName signature (fileTransParams c msg method)).lookup
      (ascii "Task") = some msg.task := by
    rw [lookup_setMember_of_ne (by decide), fileTransParams, if_pos post]
    simp only [setParameters, List.foldl_append, List.foldl_cons, List.foldl_nil]
    rw [lookup_setMember_of_ne (by decide), lookup_setMember_of_ne (by decide), lookup_setMember]
  have there : (ascii "Task", msg.task) ∈ decodeForm (queryString
      (setMember signatureName signature (fileTransParams c msg method))) := by
    obtain ⟨before, after, is, -⟩ := List.lookup_eq_some_iff.mp task
    have sent := perm.mem_iff.mpr
      (show (ascii "Task", msg.task) ∈ _ from is ▸ List.mem_append_right before List.mem_cons_self)
    rw [HttpRequest.sentParameters, unsent] at sent
    change _ ∈ decodeForm url.query ++ [] at sent
    rwa [List.append_nil, query] at sent
  rw [decodeForm_queryString plain, List.mem_filter] at there
  exact absurd there.2 (by simp [strncmpEqual])

end Sent

/-- Exactly the requests without content, and without the task that a posted transcription
signs, are sent as they were signed, however often they are copied on the way. -/
theorem sentAsSigned_iff (c : CommonClient) (endpoint : Bytes) (msg : CommonRequest)
    (method : Method) (passings : List Passing) :
    (((buildFileTransHttpRequest c endpoint msg method).passed passings).SentAsSigned
        c.computeContentMD5 (fileTransParams c msg method) (fileTransSignature c msg method) ↔
      msg.content = [] ∧ method ≠ .post) ∧
    (((buildTokenHttpRpcRequest c endpoint msg method).passed passings).SentAsSigned
        c.computeContentMD5 (tokenParams c msg) (tokenSignature c msg method) ↔
      msg.content = []) := by
  constructor
  · constructor
    · intro sent
      have none : msg.content = [] := by
        by_contra some
        exact content_not_described some (by simp [show ascii "Task=" ≠ [] by decide]) passings
          sent.length
      exact ⟨none, fun post => task_unsent none post rfl passings sent.parameters⟩
    · rintro ⟨none, other⟩
      refine sentAsSigned_bare none (setParameters_inOrder _) (fun p among => ?_) rfl passings
      exact (fileTransParams_names c msg method p among).resolve_right fun is => other is.1
  · constructor
    · intro sent
      by_contra some
      exact content_not_described some some passings sent.length
    · intro none
      exact sentAsSigned_bare none (setParameters_inOrder _) (tokenParams_names c msg) rfl passings

/-- A transcription request for the task `{}`, posted. -/
def postedRequest : CommonRequest :=
  { content := [], resourcePath := ascii "/", version := ascii "2018-08-17",
    action := ascii "SubmitTask", task := [], taskId := [] : CommonRequest }.setTask [123, 125]

/-- A client whose signer and digest return fixed texts. -/
def fixedClient : CommonClient :=
  { credentials := { accessKeyId := ascii "id", accessKeySecret := ascii "secret", stsToken := [] },
    regionId := ascii "cn-shanghai", uuid := ascii "uuid", timestamp := ascii "2024-01-01T00:00:00Z",
    generate := fun _ _ => ascii "c2lnbmVk", computeContentMD5 := fun _ => ascii "ZGlnZXN0" }

theorem posted_task_wrong :
    ¬ (buildFileTransHttpRequest fixedClient (ascii "filetrans.cn-shanghai.aliyuncs.com")
      postedRequest .post).SentAsSigned fixedClient.computeContentMD5
        (fileTransParams fixedClient postedRequest .post)
        (fileTransSignature fixedClient postedRequest .post) := by
  intro sent
  have some : postedRequest.content ≠ [] := by decide
  have body : ascii "Task=" ++ urlEncode postedRequest.task ≠ [] := by decide
  exact content_not_described some body [] sent.length

end NlsSdk.Token
