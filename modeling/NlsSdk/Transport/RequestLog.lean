import NlsSdk.Transport.RequestPackage
import NlsSdk.Utils.SecurityDisposal

/-!
# The logged copy of the upgrade request

Before a request is logged, the key of the handshake and the credential in it are
masked. `logMasking_iff` puts the masking and the two logs together.
-/
namespace NlsSdk.Transport.RequestPackage

open Library HttpRequest Utils

def defaultStep : ℕ := 4

/-- `none` for the branch that reads the variable before it is set. -/
def wsKeyStep : Option UInt32 :=
  if min getSecWsKey.length 128 - 18 < defaultStep then none else some 4

/-- `token_step` and `apikey_step` -/
def credentialStep (credential : Bytes) : UInt32 :=
  UInt32.ofNat (min credential.length defaultStep)

def wsKeyName : Bytes := ascii "Sec-WebSocket-Key:"
def tokenName : Bytes := ascii "X-NLS-Token:"
def authorizationName : Bytes := ascii "Authorization: bearer "

/-- What is logged of the request in the buffer; the inner `none` stands for nothing, the outer
one for an undefined access. -/
def requestPackageLog (url : Url) (buffer : Bytes) : Option (Option Bytes) :=
  (fieldText url.memory tokenField TokenSize).bind fun token =>
    wsKeyStep.bind fun keyStep =>
      if 0 < credentialStep token ∧ 0 < keyStep then
        (securityDisposalForLog buffer [] wsKeyName keyStep 88).bind fun keyBuf =>
          (securityDisposalForLog keyBuf [] tokenName (credentialStep token) 89).map some
      else some none

def requestDashScopePackageLog (url : Url) (buffer : Bytes) : Option (Option Bytes) :=
  (fieldText url.memory apikeyField TokenSize).bind fun apikey =>
    wsKeyStep.bind fun keyStep =>
      if 0 < credentialStep apikey ∧ 0 < keyStep then
        (securityDisposalForLog buffer [] wsKeyName keyStep 88).bind fun keyBuf =>
          if (find (ascii "Authorization: bearer sk-") keyBuf).isSome then
            (securityDisposalForLog keyBuf [] authorizationName (credentialStep apikey) 89).map some
          else some (some keyBuf)
      else some none

/-! ## What the log is to hide -/

/-- The request in front of a field. -/
def before (url : Url) (fields : List Header) : Bytes :=
  requestLine (ascii "GET") (47 :: url.path) ++
    13 :: 10 :: (hostBuff url ++ (fields.map fieldLine).flatMap fun line => line ++ [13, 10])

/-- `keyBuf` is the request with the handshake key masked, and `log` that with a credential masked
as well, whose field is at `place` and which itself starts at `start`. -/
structure Hides (name : Bytes) (place start : ℕ) (credential keyBuf log : Bytes) : Prop where
  length : log.length = keyBuf.length
  stands : ∀ i < credential.length,
    InWindow name (credentialStep credential) place (start + i) →
      keyBuf[start + i]? = credential[i]?
  /-- No character in the masked window is left. -/
  window : ∀ pos, find name keyBuf = some pos →
    ∀ i, InWindow name (credentialStep credential) pos i → log[i]? = some 89
  /-- Nor is one of the credential in the window of its field, exactly if this is the masked one. -/
  field : (∀ i < credential.length, InWindow name (credentialStep credential) place (start + i) →
      log[start + i]? = some 89) ↔
    find name keyBuf = some place ∨ ∀ i < credential.length,
      InWindow name (credentialStep credential) place (start + i) → credential[i]? = some 89

/-- The two fields in front of the one with the API key. -/
def agentHeaders (os : Platform) : List Header :=
  [(ascii "user-agent", userAgent os), (ascii "X-DashScope-DataInspection", ascii "enable")]

/-- The log of a request with a token. -/
def TokenHidden (url : Url) (stored token : Bytes) : Prop :=
  ∃ keyBuf logged, securityDisposalForLog stored [] wsKeyName 4 88 = some keyBuf ∧
    requestPackageLog url stored = some logged ∧
    ∀ log ∈ logged, Hides tokenName (before url webSocketHeaders).length
      ((before url webSocketHeaders).length + tokenName.length + 1) token keyBuf log

/-- The log of a request with an API key. One that does not start with `sk-` is not masked. -/
def ApikeyHidden (os : Platform) (url : Url) (stored apikey : Bytes) : Prop :=
  ∃ keyBuf logged, securityDisposalForLog stored [] wsKeyName 4 88 = some keyBuf ∧
    requestDashScopePackageLog url stored = some logged ∧
    ∀ log ∈ logged,
      if (find (ascii "Authorization: bearer sk-") keyBuf).isSome then
        Hides authorizationName (before url (webSocketHeaders ++ agentHeaders os)).length
          ((before url (webSocketHeaders ++ agentHeaders os)).length + authorizationName.length)
          apikey keyBuf log
      else log = keyBuf

/-- The texts of a build are short C strings. -/
structure Platform.Constant (os : Platform) : Prop where
  version : 0 ∉ os.version
  osName : 0 ∉ os.osName
  archName : 0 ∉ os.archName
  short : os.version.length + os.osName.length + os.archName.length ≤ 1024

/-! ## Texts without zeros -/

section Texts

open UrlAddress

variable {url : UrlAddress} {address : Bytes} {ds : List (Scanf.Directive UrlAddress)}

def Plain (url : UrlAddress) : Prop := 0 ∉ url.host ∧ 0 ∉ url.path

lemma plain_authority (later : ∀ d ∈ ds, d.Keeps Plain (· ≠ 0)) :
    ∀ d ∈ authority ds, d.Keeps Plain (· ≠ 0) := by
  unfold authority
  simp only [List.forall_mem_cons]
  refine ⟨fun s field plain _ => plain, trivial, trivial, trivial, ?_, later⟩
  intro s field plain text
  exact ⟨fun there => text 0 there rfl, plain.2⟩

lemma plain_port : Scanf.Directive.Keeps Plain (· ≠ 0) (.decimal storePort) :=
  fun _ _ plain => plain

lemma plain_path : Scanf.Directive.Keeps Plain (· ≠ 0) (.word 255 storePath) :=
  fun _ _ plain text => ⟨plain.1, fun there => text 0 there rfl⟩

lemma Plain.markSecure (plain : Plain url) : Plain url.markSecure := by
  unfold UrlAddress.markSecure
  split
  · exact plain
  · exact plain

lemma Plain.defaultPort (plain : Plain url) : Plain url.defaultPort := by
  rw [Plain, defaultPort_host, defaultPort_path]
  exact plain

lemma Plain.withoutPath (plain : Plain url) : Plain { url with path := [] } :=
  ⟨plain.1, List.not_mem_nil⟩

/-- The formats read a C string, and so they store texts without zeros. -/
lemma plain_parseUrlAddress (plain : Plain url) : Plain (parseUrlAddress url address).1 := by
  have text : ∀ b ∈ cString address, b ≠ 0 :=
    fun b there zero => cString_text address (zero ▸ there)
  have scanned : ∀ ds : List (Scanf.Directive UrlAddress), (∀ d ∈ ds, d.Keeps Plain (· ≠ 0)) →
      ∀ url, Plain url → Plain (Scanf.scan ds (cString address) url 0).1 :=
    fun ds keeps url before => Scanf.scan_keeps keeps text before
  have first := scanned portPathFormat (plain_authority (by
    simp only [List.forall_mem_cons]
    exact ⟨trivial, plain_port, trivial, plain_path, by simp⟩)) _
      (show Plain { url with serviceProtocol := protocolOf (cString address) } from plain)
  have second := scanned pathFormat (plain_authority (by
    simp only [List.forall_mem_cons]
    exact ⟨trivial, plain_path, by simp⟩)) _ first
  have third := scanned portFormat (plain_authority (by
    simp only [List.forall_mem_cons]
    exact ⟨trivial, plain_port, by simp⟩)) _ second
  have fourth := scanned hostFormat (plain_authority (by simp)) _ third
  unfold parseUrlAddress
  dsimp only
  split_ifs
  · exact first.markSecure
  · exact second.defaultPort
  · exact third.withoutPath
  · exact fourth.defaultPort.withoutPath
  · exact fourth

lemma plain_readDirect {directIp : Bytes} {node : NodeUrl}
    (is : NodeUrl.readDirect directIp = some node) : Plain node.toUrlAddress := by
  have empty : Plain ({} : NodeUrl).toUrlAddress := ⟨List.not_mem_nil, List.not_mem_nil⟩
  have scanned : ∀ ds : List (Scanf.Directive NodeUrl),
      (∀ d ∈ ds, d.Keeps (fun node => Plain node.toUrlAddress) fun _ => True) →
      ∀ node : NodeUrl, Plain node.toUrlAddress →
        Plain (Scanf.scan ds directIp node 0).1.toUrlAddress :=
    fun ds keeps node before => Scanf.scan_keeps keeps (fun _ _ => trivial) before
  have first := scanned NodeUrl.directPortFormat (by
    unfold NodeUrl.directPortFormat
    simp only [List.forall_mem_cons]
    exact ⟨fun _ _ plain _ => plain, trivial, fun _ _ plain => plain, by simp⟩) _ empty
  have second := scanned NodeUrl.directFormat (by
    unfold NodeUrl.directFormat
    simp only [List.forall_mem_cons]
    exact ⟨fun _ _ plain _ => plain, by simp⟩) _ first
  unfold NodeUrl.readDirect at is
  dsimp only at is
  split_ifs at is
  · rw [← Option.some.inj is]
    exact empty
  · rw [← Option.some.inj is]
    exact first
  · rw [← Option.some.inj is]
    exact second

variable {directIp : Bytes} {param : UpgradeParam} {built : Url}

lemma plain_parseUrlInformation (is : parseUrlInformation directIp param = some built) :
    Plain built.toUrlAddress := by
  unfold parseUrlInformation NodeUrl.parseUrlInformation at is
  obtain ⟨node, parsed, rfl⟩ := Option.map_eq_some_iff.mp is
  split at parsed
  · cases parsed
  · rename_i direct read
    dsimp only at parsed
    split at parsed
    · rw [← Option.some.inj parsed]
      exact plain_parseUrlAddress (plain_readDirect read)
    · cases parsed

lemma fieldLine_text {header : Header} (text : 0 ∉ header.1 ∧ 0 ∉ header.2) :
    (0 : UInt8) ∉ fieldLine header := by
  simp [fieldLine, text.1, text.2]

lemma hostBuff_text (plain : Plain built.toUrlAddress) : 0 ∉ hostBuff built := by
  have name : (0 : UInt8) ∉ ascii "Host" := by decide
  have line := @fieldLine_text (ascii "Host", UrlParts.hostText built.host built.port)
    ⟨name, hostText_plain built.port (by decide) plain.1⟩
  rw [hostBuff_eq]
  intro there
  rcases List.mem_append.mp (List.mem_of_mem_take there) with front | ends
  · exact line front
  · exact absurd ends (by decide)

/-- Nothing that is printed has a zero in it. -/
lemma printed_text {headers : List Header} {extra : Bytes} (plain : Plain built.toUrlAddress)
    (text : ∀ header ∈ headers, 0 ∉ header.1 ∧ 0 ∉ header.2) (more : 0 ∉ extra) :
    0 ∉ printed built.path (hostBuff built) headers extra := by
  have first : (0 : UInt8) ∉ requestLine (ascii "GET") (47 :: built.path) := by
    simp [requestLine, version, ascii, plain.2]
  have lines : (0 : UInt8) ∉ joinLines (headers.map fieldLine) := by
    unfold joinLines
    rw [List.mem_append, List.mem_flatMap, not_or]
    refine ⟨?_, by decide⟩
    rintro ⟨line, there, zero⟩
    obtain ⟨header, is, rfl⟩ := List.mem_map.mp there
    rcases List.mem_append.mp zero with zero | ends
    · exact fieldLine_text (text header is) zero
    · exact absurd ends (by decide)
  have host := hostBuff_text plain
  simp [printed, first, lines, host, more]

end Texts

/-! ## The two masks -/

section Masks

variable {front back credential : Bytes} {start : ℕ}

lemma credentialStep_toNat (credential : Bytes) :
    (credentialStep credential).toNat = min credential.length defaultStep := by
  unfold credentialStep defaultStep
  rw [UInt32.toNat_ofNat_of_lt']
  exact lt_of_le_of_lt (Nat.min_le_right _ _) (by decide)

/-- The first mask changes nothing from a place behind the handshake key on. -/
lemma mask_key (front between back : Bytes) (room : 5 ≤ between.length)
    (text : 0 ∉ front ++ (wsKeyName ++ between) ++ back)
    (small : (front ++ (wsKeyName ++ between) ++ back).length < 2 ^ 31) :
    ∃ masked, masked.length = (front ++ (wsKeyName ++ between)).length ∧ 0 ∉ masked ∧
      securityDisposalForLog (front ++ (wsKeyName ++ between) ++ back) [] wsKeyName 4 88 =
        some (masked ++ back) := by
  obtain ⟨pos, found, early⟩ := find_le front wsKeyName (between ++ back)
  have four : (4 : UInt32).toNat = 4 := rfl
  have whole : front ++ (wsKeyName ++ (between ++ back)) =
      front ++ (wsKeyName ++ between) ++ back := by
    simp only [List.append_assoc]
  rw [whole] at found
  have window : pos + wsKeyName.length + 1 + (4 : UInt32).toNat ≤
      (front ++ (wsKeyName ++ between)).length := by
    rw [List.length_append, List.length_append]
    omega
  have shown : (88 : UInt8) ≠ 0 := by decide
  refine ⟨overwrite (pos + wsKeyName.length + 1) (4 : UInt32).toNat 88
    (front ++ (wsKeyName ++ between)), length_overwrite _ _ _ _, ?_, ?_⟩
  · exact overwrite_plain (fun there => text (List.mem_append_left _ there)) shown
  · rw [securityDisposalForLog_some text shown small found, overwrite_append _ window]
    rw [List.length_append]
    omega

/-- The second mask, in a text in which the field of a credential starts at `front`. -/
lemma mask_credential {a : UInt8} {pat : Bytes} (once : a ∉ pat)
    (text : 0 ∉ front ++ (a :: pat ++ back))
    (small : (front ++ (a :: pat ++ back)).length < 2 ^ 31)
    (long : defaultStep ≤ (a :: pat).length)
    (room : min credential.length defaultStep + 1 ≤ back.length)
    (stands : ∀ i < credential.length,
      InWindow (a :: pat) (credentialStep credential) front.length (start + i) →
        (front ++ (a :: pat ++ back))[start + i]? = credential[i]?) :
    ∃ log, securityDisposalForLog (front ++ (a :: pat ++ back)) [] (a :: pat)
        (credentialStep credential) 89 = some log ∧
      Hides (a :: pat) front.length start credential (front ++ (a :: pat ++ back)) log := by
  obtain ⟨pos, found, early⟩ := find_le front (a :: pat) back
  have step := credentialStep_toNat credential
  have inside : pos + (a :: pat).length + 1 + (credentialStep credential).toNat ≤
      (front ++ (a :: pat ++ back)).length := by
    rw [List.length_append, List.length_append]
    omega
  have shown : (89 : UInt8) ≠ 0 := by decide
  refine ⟨_, securityDisposalForLog_some text shown small found inside, ?_, stands, ?_, ?_⟩
  · exact length_overwrite _ _ _ _
  · intro other is i window
    obtain rfl := Option.some.inj (is.symm.trans found)
    exact getElem?_overwrite_inside window.1 window.2 (lt_of_lt_of_le window.2 inside)
  · rcases early.eq_or_lt with rfl | early
    · refine iff_of_true ?_ (.inl found)
      intro i _ window
      exact getElem?_overwrite_inside window.1 window.2 (lt_of_lt_of_le window.2 inside)
    · have apart := find_apart once found early
      have other : find (a :: pat) (front ++ (a :: pat ++ back)) ≠ some front.length := by
        rw [found]
        intro same
        exact absurd (Option.some.inj same) early.ne
      rw [or_iff_right other]
      refine forall_congr' fun i => forall_congr' fun place => forall_congr' fun window => ?_
      rw [getElem?_overwrite_outside, stands i place window]
      have low := window.1
      omega

end Masks

/-! ## The two logs -/

section Logs

variable {url : Url} {param : UpgradeParam} {directIp : Bytes} {fields more rest : List Header}

lemma fieldText_text {memory : ℕ → UInt8} {start size : ℕ} {text : Bytes}
    (read : fieldText memory start size = some text) : 0 ∉ text := by
  unfold fieldText at read
  dsimp only at read
  split at read
  · rw [← Option.some.inj read]
    exact cString_text _
  · cases read

lemma length_before (url : Url) (fields : List Header) : (before url fields).length =
    16 + url.path.length + (hostBuff url).length +
      (fields.map fun header => header.1.length + header.2.length + 4).sum := by
  have name : (ascii "GET").length = 3 := by decide
  have last : version.length = 8 := rfl
  have lines : ((fields.map fieldLine).flatMap fun line => line ++ [13, 10]).length =
      (fields.map fun header => header.1.length + header.2.length + 4).sum := by
    have joined := length_fieldLines fields
    rw [joinLines, List.length_append] at joined
    exact Nat.add_right_cancel joined
  simp only [before, requestLine, List.length_append, List.length_cons, name, last, lines]
  omega

lemma length_hostBuff_le (url : Url) : (hostBuff url).length ≤ 255 := by
  rw [hostBuff_eq]
  exact List.length_take_le _ _

/-- The handshake key stands behind the first two fields. -/
lemma before_key (url : Url) (more : List Header) : ∃ front between, 5 ≤ between.length ∧
    before url (webSocketHeaders ++ more) = front ++ (wsKeyName ++ between) := by
  refine ⟨before url (webSocketHeaders.take 2),
    ascii " x1LDbMHJJ3EzLkh9GBhXDw==\r\nSec-WebSocket-Version: 13\r\n" ++
      (more.map fieldLine).flatMap (fun line => line ++ [13, 10]), ?_, ?_⟩
  · rw [List.length_append]
    apply Nat.le_add_right_of_le
    decide
  · simp [before, webSocketHeaders, fieldLine, wsKeyName, ascii]

/-- A request is what stands before a field, the field, and what stands behind it. -/
lemma printed_before (url : Url) (fields : List Header) (header : Header) (rest : List Header)
    (extra : Bytes) : printed url.path (hostBuff url) (fields ++ header :: rest) extra =
      before url fields ++
        (fieldLine header ++ 13 :: 10 :: (joinLines (rest.map fieldLine) ++ extra)) := by
  simp [printed, before, joinLines]

/-- Both masks of the buffer of a request whose field starts with a name and has a credential at
its end. -/
lemma masks_packaged {a : UInt8} {pat separator credential extra : Bytes} {header : Header}
    (plain : Plain url.toUrlAddress) (once : a ∉ pat) (long : defaultStep ≤ (a :: pat).length)
    (line : fieldLine header = a :: pat ++ (separator ++ credential)) (one : separator.length ≤ 1)
    (text : ∀ field ∈ webSocketHeaders ++ more ++ header :: rest, 0 ∉ field.1 ∧ 0 ∉ field.2)
    (extra_text : 0 ∉ extra)
    (room : (before url (webSocketHeaders ++ more)).length + (a :: pat).length + 6 ≤ BufferSize) :
    ∃ keyBuf log,
      securityDisposalForLog ((printed url.path (hostBuff url)
          (webSocketHeaders ++ more ++ header :: rest) extra).take (BufferSize - 1))
        [] wsKeyName 4 88 = some keyBuf ∧
      securityDisposalForLog keyBuf [] (a :: pat) (credentialStep credential) 89 = some log ∧
      Hides (a :: pat) (before url (webSocketHeaders ++ more)).length
        ((before url (webSocketHeaders ++ more)).length + (a :: pat).length + separator.length)
        credential keyBuf log := by
  obtain ⟨front, between, five, key⟩ := before_key url more
  obtain ⟨tail, tail_⟩ : ∃ tail, tail = 13 :: 10 :: (joinLines (rest.map fieldLine) ++ extra) :=
    ⟨_, rfl⟩
  obtain ⟨left, left_⟩ : ∃ left, left = BufferSize - 1 -
      (before url (webSocketHeaders ++ more)).length - (a :: pat).length := ⟨_, rfl⟩
  have stored : (printed url.path (hostBuff url)
      (webSocketHeaders ++ more ++ header :: rest) extra).take (BufferSize - 1) =
      before url (webSocketHeaders ++ more) ++
        (a :: pat ++ (separator ++ credential ++ tail).take left) := by
    have regroup : a :: pat ++ (separator ++ credential) ++ tail =
        a :: pat ++ (separator ++ credential ++ tail) := by
      simp only [List.append_assoc]
    rw [printed_before, line, ← tail_, regroup, List.take_append, List.take_append,
      List.take_of_length_le, List.take_of_length_le, ← left_]
    · omega
    · omega
  have zeros : 0 ∉ before url (webSocketHeaders ++ more) ++
      (a :: pat ++ (separator ++ credential ++ tail).take left) := by
    rw [← stored]
    exact fun there => printed_text plain text extra_text (List.mem_of_mem_take there)
  have small : (before url (webSocketHeaders ++ more) ++
      (a :: pat ++ (separator ++ credential ++ tail).take left)).length < 2 ^ 31 := by
    rw [← stored, List.length_take]
    exact lt_of_le_of_lt (Nat.min_le_left _ _) (by decide)
  have step := credentialStep_toNat credential
  have four : defaultStep = 4 := rfl
  have ends : 2 ≤ tail.length := by
    rw [tail_, List.length_cons, List.length_cons]
    omega
  rw [key] at zeros small
  obtain ⟨masked, length, masked_text, is⟩ := mask_key front between _ five zeros small
  have text : 0 ∉ masked ++ (a :: pat ++ (separator ++ credential ++ tail).take left) := by
    rw [List.mem_append, not_or]
    exact ⟨masked_text, fun there => zeros (List.mem_append_right _ there)⟩
  rw [← key] at length is small
  have within : (masked ++ (a :: pat ++ (separator ++ credential ++ tail).take left)).length <
      2 ^ 31 := by
    rw [List.length_append] at small ⊢
    rw [length]
    exact small
  have window : min credential.length defaultStep + 1 ≤
      ((separator ++ credential ++ tail).take left).length := by
    rw [List.length_take, List.length_append, List.length_append]
    omega
  obtain ⟨log, logged, hides⟩ := @mask_credential masked _ credential
    ((before url (webSocketHeaders ++ more)).length + (a :: pat).length + separator.length)
    a pat once text within long window fun i place inside => by
      have high := inside.2
      have first : (before url (webSocketHeaders ++ more)).length + (a :: pat).length +
          separator.length + i - masked.length - (a :: pat).length = separator.length + i := by
        omega
      rw [List.getElem?_append_right (by omega), List.getElem?_append_right (by omega), first,
        List.getElem?_take_of_lt (by omega), List.append_assoc,
        List.getElem?_append_right (by omega), Nat.add_sub_cancel_left,
        List.getElem?_append_left place]
  rw [length] at hides
  exact ⟨_, log, by rw [stored]; exact is, logged, hides⟩

/-- What is in the buffer behind a call that built a request. -/
lemma stored_eq {text stored : Bytes} {size : ℕ} (some_ : text ≠ [])
    (built : some (checkContentSize (ssnprintf BufferSize text)) = some (stored, .ok size)) :
    stored = text.take (BufferSize - 1) := by
  rw [checkContentSize_ssnprintf some_] at built
  exact (Prod.mk.inj (Option.some.inj built)).1.symm

lemma named_text (param : UpgradeParam) : ∀ field ∈ param.named, 0 ∉ field.1 ∧ 0 ∉ field.2 :=
  fun field there => param.header_text field (List.mem_of_mem_filter there)

lemma webSocketHeaders_text : ∀ field ∈ webSocketHeaders, 0 ∉ field.1 ∧ 0 ∉ field.2 := by
  decide

lemma length_front_le (accepted : parseUrlInformation directIp param = some url)
    (more : List Header) : (before url (webSocketHeaders ++ more)).length ≤
      639 + (more.map fun header => header.1.length + header.2.length + 4).sum := by
  have path := (parseUrlInformation_some accepted).1.readBack.path_length
  have host := length_hostBuff_le url
  have fixed : (webSocketHeaders.map fun header => header.1.length + header.2.length + 4).sum =
      113 := by decide
  rw [length_before, List.map_append, List.sum_append, fixed]
  omega

lemma credentialStep_pos {credential : Bytes} :
    0 < credentialStep credential ↔ credential ≠ [] := by
  rw [UInt32.lt_iff_toNat_lt, credentialStep_toNat, ← List.length_pos_iff]
  change 0 < min _ 4 ↔ _
  omega

lemma wsKeyStep_eq : wsKeyStep = some 4 := by decide

lemma fields_text {header : Header} (front : ∀ field ∈ more, 0 ∉ field.1 ∧ 0 ∉ field.2)
    (text : 0 ∉ header.1 ∧ 0 ∉ header.2) (param : UpgradeParam) :
    ∀ field ∈ webSocketHeaders ++ more ++ header :: param.named, 0 ∉ field.1 ∧ 0 ∉ field.2 := by
  intro field there
  rcases List.mem_append.mp there with there | there
  · rcases List.mem_append.mp there with there | there
    · exact webSocketHeaders_text field there
    · exact front field there
  · rcases List.mem_cons.mp there with rfl | there
    · exact text
    · exact named_text param field there

lemma agentHeaders_text {os : Platform} (constant : os.Constant) :
    ∀ field ∈ agentHeaders os, 0 ∉ field.1 ∧ 0 ∉ field.2 := by
  have agent : (0 : UInt8) ∉ userAgent os := by
    simp [userAgent, ascii, constant.version, constant.osName, constant.archName]
  simp only [agentHeaders, List.forall_mem_cons]
  exact ⟨⟨by decide, agent⟩, ⟨by decide, by decide⟩, by simp⟩

lemma length_agentHeaders (os : Platform) :
    ((agentHeaders os).map fun header => header.1.length + header.2.length + 4).sum =
      96 + (os.version.length + os.osName.length + os.archName.length) := by
  simp [agentHeaders, userAgent, ascii]
  omega

lemma tokenName_eq : tokenName = 88 :: ascii "-NLS-Token:" := rfl

lemma authorizationName_eq : authorizationName = 65 :: ascii "uthorization: bearer " := rfl

/-- In the log of every request that was built with a token. -/
theorem tokenHidden {stored token : Bytes} {size : ℕ}
    (accepted : parseUrlInformation directIp param = some url)
    (built : requestPackage url param.getHttpHeader = some (stored, .ok size))
    (read : fieldText url.memory tokenField TokenSize = some token) :
    TokenHidden url stored token := by
  rw [requestPackage_eq read] at built
  have once : (88 : UInt8) ∉ ascii "-NLS-Token:" := by decide
  have long : defaultStep ≤ (88 :: ascii "-NLS-Token:").length := by decide
  have front := length_front_le accepted []
  have room : (before url (webSocketHeaders ++ [])).length + (88 :: ascii "-NLS-Token:").length +
      6 ≤ BufferSize := by
    have name : (88 :: ascii "-NLS-Token:").length = 12 := by decide
    have size : BufferSize = 2048 := rfl
    rw [List.map_nil, List.sum_nil] at front
    omega
  have name : (0 : UInt8) ∉ ascii "X-NLS-Token" := by decide
  have text := @fields_text [] (ascii "X-NLS-Token", token) (by simp)
    ⟨name, fieldText_text read⟩ param
  obtain ⟨keyBuf, log, key, masked, hides⟩ := @masks_packaged url [] param.named 88
    (ascii "-NLS-Token:") [32] token [] (ascii "X-NLS-Token", token)
    (plain_parseUrlInformation accepted) once long rfl le_rfl text List.not_mem_nil room
  have is := stored_eq (printed_ne_nil _ _ _ _) built
  rw [nlsHeaders] at is
  rw [List.append_nil] at key hides
  rw [← is] at key
  have step : (0 : UInt32) < 4 := by decide
  by_cases some_ : 0 < credentialStep token
  · refine ⟨keyBuf, some log, key, ?_, fun other is => ?_⟩
    · rw [requestPackageLog, read, Option.bind_some, wsKeyStep_eq, Option.bind_some,
        if_pos ⟨some_, step⟩, key, Option.bind_some, tokenName_eq, masked, Option.map_some]
    · rw [← Option.mem_some.mp is]
      exact hides
  · refine ⟨keyBuf, none, key, ?_, fun other is => by cases is⟩
    rw [requestPackageLog, read, Option.bind_some, wsKeyStep_eq, Option.bind_some,
      if_neg fun both => some_ both.1]

/-- In the log of every request that was built with an API key. -/
theorem apikeyHidden {os : Platform} {stored apikey : Bytes} {size : ℕ} (constant : os.Constant)
    (accepted : parseUrlInformation directIp param = some url)
    (built : requestDashScopePackage os url param.getHttpHeader = some (stored, .ok size))
    (read : fieldText url.memory apikeyField TokenSize = some apikey) :
    ApikeyHidden os url stored apikey := by
  rw [requestDashScopePackage_eq read] at built
  have once : (65 : UInt8) ∉ ascii "uthorization: bearer " := by decide
  have long : defaultStep ≤ (65 :: ascii "uthorization: bearer ").length := by decide
  have front := length_front_le accepted (agentHeaders os)
  have agent := length_agentHeaders os
  have short := constant.short
  have room : (before url (webSocketHeaders ++ agentHeaders os)).length +
      (65 :: ascii "uthorization: bearer ").length + 6 ≤ BufferSize := by
    have name : (65 :: ascii "uthorization: bearer ").length = 22 := by decide
    have size : BufferSize = 2048 := rfl
    omega
  have bearer : (0 : UInt8) ∉ ascii "bearer " ++ apikey := by
    rw [List.mem_append, not_or]
    exact ⟨by decide, fieldText_text read⟩
  have name : (0 : UInt8) ∉ ascii "Authorization" := by decide
  have text := @fields_text (agentHeaders os) (ascii "Authorization", ascii "bearer " ++ apikey)
    (agentHeaders_text constant) ⟨name, bearer⟩ param
  have extra : (0 : UInt8) ∉ if param.named = [] then ([] : Bytes) else [13, 10] := by
    split <;> decide
  obtain ⟨keyBuf, log, key, masked, hides⟩ := @masks_packaged url (agentHeaders os) param.named 65
    (ascii "uthorization: bearer ") [] apikey _ (ascii "Authorization", ascii "bearer " ++ apikey)
    (plain_parseUrlInformation accepted) once long rfl (Nat.zero_le _) text extra room
  have is := stored_eq (printed_ne_nil _ _ _ _) built
  have fields : dashScopeHeaders os apikey param.named = webSocketHeaders ++ agentHeaders os ++
      (ascii "Authorization", ascii "bearer " ++ apikey) :: param.named := by
    rw [dashScopeHeaders, agentHeaders, List.append_assoc]
    rfl
  rw [fields] at is
  rw [← is] at key
  have step : (0 : UInt32) < 4 := by decide
  by_cases some_ : 0 < credentialStep apikey
  · by_cases sk : (find (ascii "Authorization: bearer sk-") keyBuf).isSome = true
    · refine ⟨keyBuf, some log, key, ?_, fun other is => ?_⟩
      · rw [requestDashScopePackageLog, read, Option.bind_some, wsKeyStep_eq, Option.bind_some,
          if_pos ⟨some_, step⟩, key, Option.bind_some, if_pos sk, authorizationName_eq, masked,
          Option.map_some]
      · rw [← Option.mem_some.mp is, if_pos sk]
        exact hides
    · refine ⟨keyBuf, some keyBuf, key, ?_, fun other is => ?_⟩
      · rw [requestDashScopePackageLog, read, Option.bind_some, wsKeyStep_eq, Option.bind_some,
          if_pos ⟨some_, step⟩, key, Option.bind_some, if_neg sk]
      · rw [← Option.mem_some.mp is, if_neg sk]
  · refine ⟨keyBuf, none, key, ?_, fun other is => by cases is⟩
    rw [requestDashScopePackageLog, read, Option.bind_some, wsKeyStep_eq, Option.bind_some,
      if_neg fun both => some_ both.1]

end Logs

/-- A mask is right for exactly these texts, keys and steps, and in the logs of both requests no
character of a credential is left in the masked window. -/
theorem logMasking_iff (bufIn key : Bytes) (step : UInt32) (c : UInt8) (shown : c ≠ 0)
    (os : Platform) (constant : os.Constant) (directIp : Bytes) (param : UpgradeParam) (url : Url)
    (accepted : parseUrlInformation directIp param = some url) :
    (MasksOnly bufIn key step c ↔
      textOf bufIn = [] ∨ (textOf bufIn).length + 1 < 2 ^ 32 ∧
        ∀ pos, find key (textOf bufIn) = some pos → pos < 2 ^ 31 →
          StopsInside key step (textOf bufIn).length pos) ∧
    (∀ stored size token, requestPackage url param.getHttpHeader = some (stored, .ok size) →
      fieldText url.memory tokenField TokenSize = some token → TokenHidden url stored token) ∧
    (∀ stored size apikey,
      requestDashScopePackage os url param.getHttpHeader = some (stored, .ok size) →
      fieldText url.memory apikeyField TokenSize = some apikey →
      ApikeyHidden os url stored apikey) :=
  ⟨masksOnly_iff bufIn key step c shown, fun _ _ _ => tokenHidden accepted,
    fun _ _ _ => apikeyHidden constant accepted⟩

lemma linux_constant : linux.Constant where
  version := by decide
  osName := by decide
  archName := by decide
  short := by decide

def openParam : UpgradeParam := { plainParam with url := ascii "ws://h/p" }

lemma open_built : ∃ url stored size, parseUrlInformation [] openParam = some url ∧
    fieldText url.memory tokenField TokenSize = some (ascii "t") ∧
    requestPackage url openParam.getHttpHeader = some (stored, .ok size) := by
  obtain ⟨url, accepted⟩ : ∃ url, parseUrlInformation [] openParam = some url := ⟨_, rfl⟩
  have read := token_read accepted
  rw [if_pos (by decide)] at read
  have small : contentSize url (nlsHeaders openParam.token openParam.named) < 2 ^ 31 := by
    have path := (parseUrlInformation_some accepted).1.readBack.path_length
    have fields : ((nlsHeaders openParam.token openParam.named).map fun header =>
        header.1.length + header.2.length + 4).sum = 129 := by decide
    rw [contentSize, fields]
    omega
  have built := @requestPackage_eq url openParam _ read
  rw [checkContentSize_ssnprintf (printed_ne_nil _ _ _ _), length_printed, List.length_nil,
    Nat.add_zero, if_pos small] at built
  exact ⟨url, _, _, accepted, read, built⟩

/-- The request of `ws://h/p` with a token of one byte, and a text with a long value. -/
theorem logMasking_iff_open : MasksOnly (ascii "k:abcdef") (ascii "k") 4 89 ∧
    ∃ url stored, parseUrlInformation [] openParam = some url ∧
      TokenHidden url stored (ascii "t") := by
  obtain ⟨url, stored, size, accepted, read, built⟩ := open_built
  have both := logMasking_iff (ascii "k:abcdef") (ascii "k") 4 89 (by decide) linux
    linux_constant [] openParam url accepted
  refine ⟨both.1.mpr (.inr ⟨by decide, ?_⟩), url, stored, accepted, both.2.1 _ _ _ built read⟩
  intro pos found _
  obtain rfl := Option.some.inj found
  exact fun _ => ⟨by decide, by decide⟩

/-- Two characters are left behind the key, and four are overwritten. -/
theorem short_value_overrun :
    ¬MasksOnly (ascii "X-NLS-Token: ab") (ascii "X-NLS-Token:") 4 89 := by
  rintro ⟨log, is, -⟩
  have outside : securityDisposalForLog (ascii "X-NLS-Token: ab") [] (ascii "X-NLS-Token:") 4 89 =
      none := by decide
  rw [outside] at is
  cases is

end NlsSdk.Transport.RequestPackage
