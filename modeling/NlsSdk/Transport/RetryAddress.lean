import NlsSdk.Library.Run
import NlsSdk.Transport.ConnectNode
import NlsSdk.Transport.UrlAddress

/-!
# Where a session connects to

Every attempt goes to the host the user configured, to an address of the cache
of the work thread, or to one the name resolution gives. `dnsProcess` and
`directConnect` call each other with the address as a pointer, which may point
into the URL that the next call clears. The session records what it tries, what
fails and what is resolved.
-/
namespace NlsSdk.Transport

open NlsSdk.Library

/-! ## The cache of the work thread -/

structure DnsIpCache where
  ipList : List Bytes := []
  /-- `uint32_t` -/
  sameIpCount : ℕ := 0

/-- `DnsIpCache::WorkThreshold` -/
def workThreshold : ℕ := 5

/-- `_dnsIpCache`, by the URL of the request. -/
abbrev IpCache := Bytes → Option DnsIpCache

/-- `urlWithAccess`: the path of the URL has a query. -/
def urlWithAccess (address : Bytes) : Bool :=
  let parsed := UrlAddress.parseUrlAddress {} address
  parsed.2 = .ok 0 && parsed.1.path.contains 63

namespace IpCache

/-- The address found, or an empty text; `rand` is the number drawn. -/
def getIpFromCache (cache : IpCache) (host : Bytes) (rand : ℕ) : Bytes :=
  if urlWithAccess host then []
  else match cache host with
    | none => []
    | some ips =>
      if ips.sameIpCount < workThreshold then []
      else (ips.ipList[rand % ips.ipList.length]?).getD []

def setIpCache (cache : IpCache) (host ip : Bytes) : IpCache :=
  match cache host with
  | none => Function.update cache host (some { ipList := [ip] })
  | some ips =>
    if ips.ipList = [] then cache
    else if ip ∈ ips.ipList then
      Function.update cache host
        (some { ips with sameIpCount := (ips.sameIpCount + 1) % 2 ^ 32 })
    else
      Function.update cache host (some { ipList := ips.ipList ++ [ip], sameIpCount := 0 })

/-- `setIpCache(NULL, NULL)` -/
def cleared : IpCache := fun _ => none

end IpCache

/-! ## The URL of the node -/

/-- `urlAddress` with the fields of a direct address. -/
structure NodeUrl extends UrlAddress where
  address : Bytes := []
  directIp : Bool := false

namespace NodeUrl

def storeAddress (url : NodeUrl) (field : Bytes) : NodeUrl := { url with address := field }
def storeDirectPort (url : NodeUrl) (number : ℤ) : NodeUrl := { url with port := toInt number }

/-- `%256[^:/]:%d` -/
def directPortFormat : List (Scanf.Directive NodeUrl) :=
  [.scanset 256 UrlAddress.isField storeAddress, .literal 58, .decimal storeDirectPort]

/-- `%255s` -/
def directFormat : List (Scanf.Directive NodeUrl) := [.word 255 storeAddress]

/-- What the text of a direct address leaves in a cleared URL. -/
def readDirect (directIp : Bytes) : Option NodeUrl :=
  if directIp = [] then some {}
  else
    let first := Scanf.scan directPortFormat directIp {} 0
    if first.2 = 2 then some { first.1 with directIp := true }
    else
      let second := Scanf.scan directFormat directIp first.1 0
      if second.2 = 1 then some { second.1 with directIp := true } else none

/-- `parseUrlInformation` but for the credentials; the URL of the node is cleared first. -/
def parseUrlInformation (directIp url : Bytes) : Option NodeUrl :=
  match readDirect directIp with
  | none => none
  | some direct =>
    let parsed := UrlAddress.parseUrlAddress direct.toUrlAddress url
    if parsed.2 = .ok 0 then some { direct with toUrlAddress := parsed.1 } else none

end NodeUrl

/-- The host a user may set with `setDirectHost`, with a port or without. -/
structure DirectHost where
  ip : Bytes
  port : Option ℤ := none
  ip_some : ip ≠ []
  ip_field : ∀ b ∈ ip, UrlAddress.isField b = true ∧ Scanf.isSpace b = false
  port_int : ∀ p ∈ port, -2 ^ 31 ≤ p ∧ p < 2 ^ 31
  fits : (ip ++ UrlAddress.portText port).length < 64

def DirectHost.text (direct : DirectHost) : Bytes := direct.ip ++ UrlAddress.portText direct.port

/-! ## A session -/

/-- Where the address of an attempt comes from. -/
inductive AddressSource
  | direct | cache | dns
  deriving DecidableEq, Repr

/-- What a session tries, and what it learns. -/
inductive AddressEvent
  | attempt (ip : Bytes) (port : ℤ) (source : AddressSource)
  | failed (ip : Bytes) (source : AddressSource)
  | resolved (ip : Bytes)
  deriving DecidableEq, Repr

/-- The pointer given to `dnsProcess`: the address of the work thread, the one in the URL of the
node, or a copy. -/
inductive IpPointer
  | configured
  | inUrl
  | copy (ip : Bytes)

/-- What becomes of an attempt within the call: the request is sent, the connection or the
handshake is awaited, or it has failed. -/
inductive AttemptOutcome
  | established | connecting | handshaking | failed
  deriving DecidableEq, Repr

inductive Phase
  | idle | resolving
  | connecting (ip : Bytes) (port : ℤ) (source : AddressSource)
  | handshaking (ip : Bytes) (port : ℤ) (source : AddressSource)
  deriving DecidableEq, Repr

/-- What stays the same in a session. -/
structure AddressConfig where
  url : Bytes
  direct : Option DirectHost := none
  /-- `_dnsBase != NULL` -/
  dnsBase : Bool := true

def AddressConfig.directIp (c : AddressConfig) : Bytes :=
  match c.direct with
  | some direct => direct.text
  | none => []

structure AddressSession where
  url : NodeUrl := {}
  cache : IpCache := IpCache.cleared
  retryConnectCount : ℕ := 0
  cancelled : Bool := false
  phase : Phase := .idle
  trace : List AddressEvent := []

/-- What the callback of a connect or timer event finds: the time is over or the peer has closed,
`SO_ERROR` is set and `connect` is called again, or the connection can go on. -/
inductive CallbackAnswer
  | expired
  | errorCode (again : AttemptOutcome)
  | ready (outcome : AttemptOutcome)
  deriving DecidableEq, Repr

/-- The numbers drawn and the outcomes of the attempts a step makes by itself. -/
abbrev Attempts := List (ℕ × AttemptOutcome)

inductive AddressOp
  | launch (attempts : Attempts)
  /-- `dnsEventCallback` with an error -/
  | dnsFailed (attempts : Attempts)
  /-- `dnsEventCallback` with the first address that can be used, if there is one; whether a failing
  attempt is one of `connect` itself -/
  | dnsResolved (ip : Option Bytes) (outcome : AttemptOutcome) (refused : Bool)
    (attempts : Attempts)
  /-- `connectEventCallback`, or `connectTimerEventCallback` -/
  | connectCallback (timer : Bool) (answer : CallbackAnswer) (attempts : Attempts)
  | cancel
  /-- the Close event sets the count back -/
  | close
  /-- another session of the work thread resolves an address, or fails -/
  | otherResolved (host ip : Bytes)
  | otherFailed

namespace AddressSession

def record (s : AddressSession) (event : AddressEvent) : AddressSession :=
  { s with trace := s.trace ++ [event] }

/-- Where the outcome of an attempt leaves the session. -/
def settle (s : AddressSession) (ip : Bytes) (port : ℤ) (source : AddressSource) :
    AttemptOutcome → AddressSession
  | .established => { s with phase := .idle }
  | .connecting => { s with phase := .connecting ip port source }
  | .handshaking => { s with phase := .handshaking ip port source }
  | .failed => { s.record (.failed ip source) with phase := .idle }

/-- An attempt to connect, with what becomes of it. -/
def tryAddress (s : AddressSession) (ip : Bytes) (source : AddressSource)
    (outcome : AttemptOutcome) : AddressSession :=
  (s.record (.attempt ip s.url.port source)).settle ip s.url.port source outcome

/-- The text a pointer is read as, behind the clearing of the URL. -/
def pointerText (c : AddressConfig) : IpPointer → Bytes
  | .configured => c.directIp
  | .inUrl => []
  | .copy ip => ip

/-- The part of `dnsProcess` in front of an attempt, with the address to connect to at once, where
it comes from, and the pointer a retry gets. -/
def chooseAddress (c : AddressConfig) (s : AddressSession) (pointer : IpPointer) (rand : ℕ) :
    AddressSession × Option (Bytes × AddressSource × IpPointer) :=
  if s.cancelled then ({ s with phase := .idle }, none)
  else if retryConnectCountMax ≤ s.retryConnectCount then
    ({ s with retryConnectCount := 0, phase := .idle }, none)
  else
    match NodeUrl.parseUrlInformation (pointerText c pointer) c.url with
    | none => ({ s with retryConnectCount := s.retryConnectCount + 1, phase := .idle }, none)
    | some url =>
      let t := { s with retryConnectCount := s.retryConnectCount + 1, url }
      if url.directIp then (t, some (url.address, .direct, .inUrl))
      else
        let ip := s.cache.getIpFromCache c.url rand
        if ip ≠ [] then (t, some (ip, .cache, .copy ip))
        else ({ t with phase := if c.dnsBase then .resolving else .idle }, none)

/-- `directConnect` clears the cache when it fails, and `retry` follows. -/
def directConnect (s : AddressSession) (ip : Bytes) (source : AddressSource)
    (outcome : AttemptOutcome) (retry : AddressSession → AddressSession) : AddressSession :=
  if outcome = .failed then
    retry { s.tryAddress ip source outcome with cache := IpCache.cleared }
  else s.tryAddress ip source outcome

/-- `dnsProcess`, with the attempts it makes one after the other; behind the list an attempt waits
for its callback. -/
def dnsProcess (c : AddressConfig) : Attempts → IpPointer → AddressSession → AddressSession
  | [], pointer, s =>
    match s.chooseAddress c pointer 0 with
    | (t, none) => t
    | (t, some (ip, source, _)) => t.tryAddress ip source .connecting
  | (rand, outcome) :: attempts, pointer, s =>
    match s.chooseAddress c pointer rand with
    | (t, none) => t
    | (t, some (ip, source, next)) =>
      t.directConnect ip source outcome (dnsProcess c attempts next)

/-- The connection is broken off; only `connectEventCallback` clears the cache. -/
def giveUp (s : AddressSession) (timer : Bool) : AddressSession :=
  { s with cache := if timer then s.cache else IpCache.cleared, phase := .idle }

end AddressSession

/-- A handshake that is not done is awaited as one. -/
def AttemptOutcome.handshake : AttemptOutcome → AttemptOutcome
  | .connecting => .handshaking
  | outcome => outcome

def AddressOp.attempts : AddressOp → Attempts
  | .launch attempts | .dnsFailed attempts | .dnsResolved _ _ _ attempts
  | .connectCallback _ _ attempts => attempts
  | _ => []

namespace AddressSession

/-- What an operation does in front of its call of `dnsProcess`, and whether it calls it. -/
def front (c : AddressConfig) (s : AddressSession) : AddressOp → AddressSession × Bool
  | .launch _ => (s, s.phase = .idle)
  | .dnsFailed _ => (s, s.phase = .resolving)
  | .dnsResolved ip outcome refused _ =>
    if s.phase ≠ .resolving then (s, false)
    else match ip with
      | none => ({ s with phase := .idle }, false)
      | some ip =>
        let t := { s.record (.resolved ip) with cache := s.cache.setIpCache c.url ip }
        if s.cancelled then (t, true)
        else
          let u := t.tryAddress ip .dns outcome
          if outcome ≠ .failed then (u, false)
          else if refused ∧ t.cache.getIpFromCache c.url 0 = [] then
            ({ u with cache := IpCache.cleared }, true)
          else (u, true)
  | .connectCallback timer answer _ =>
    match s.phase with
    | .connecting ip port source =>
      if s.cancelled then (s.giveUp timer, true)
      else match answer with
        | .expired => ((s.record (.failed ip source)).giveUp timer, true)
        | .errorCode again =>
          let t := (s.record (.failed ip source)).record (.attempt ip port source)
          if again = .failed then ((t.settle ip port source again).giveUp timer, true)
          else (t.settle ip port source again, false)
        | .ready outcome =>
          if outcome = .failed then ((s.settle ip port source outcome).giveUp timer, true)
          else (s.settle ip port source outcome.handshake, false)
    | .handshaking ip port source =>
      if s.cancelled then (s.giveUp timer, true)
      else match answer with
        | .expired => ((s.record (.failed ip source)).giveUp timer, true)
        | .errorCode outcome | .ready outcome =>
          if outcome = .failed then ((s.settle ip port source outcome).giveUp timer, true)
          else (s.settle ip port source outcome.handshake, false)
    | _ => (s, false)
  | .cancel => ({ s with cancelled := true }, false)
  | .close => ({ s with retryConnectCount := 0 }, false)
  | .otherResolved host ip =>
    ({ s.record (.resolved ip) with cache := s.cache.setIpCache host ip }, false)
  | .otherFailed => ({ s with cache := IpCache.cleared }, false)

def step (c : AddressConfig) (s : AddressSession) (op : AddressOp) : AddressSession :=
  if (s.front c op).2 then dnsProcess c op.attempts .configured (s.front c op).1
  else (s.front c op).1

end AddressSession

/-! ## The property and its condition -/

/-- Every attempt goes to the host the user configured. -/
def DirectOnly (direct : DirectHost) (trace : List AddressEvent) : Prop :=
  ∀ ip port source, .attempt ip port source ∈ trace →
    ip = direct.ip ∧ ∀ p ∈ direct.port, port = p

/-- An address of the cache that failed is tried again only when it was resolved since. -/
def CacheLeft (trace : List AddressEvent) : Prop :=
  ∀ before ip after port source,
    before ++ .failed ip .cache :: (after ++ [.attempt ip port source]) <+: trace →
      .resolved ip ∈ after

def AddressesRight (c : AddressConfig) (trace : List AddressEvent) : Prop :=
  match c.direct with
  | some direct => DirectOnly direct trace
  | none => CacheLeft trace

def CallbackAnswer.fails : CallbackAnswer → Bool
  | .expired => true
  | .errorCode outcome | .ready outcome => outcome = .failed

def CallbackAnswer.isErrorCode : CallbackAnswer → Bool
  | .errorCode _ => true
  | _ => false

/-- The port of the URL is the one the user configured. -/
def AddressConfig.PortAgrees (c : AddressConfig) : Prop :=
  ∀ direct url, c.direct = some direct →
    NodeUrl.parseUrlInformation direct.text c.url = some url → ∀ p ∈ direct.port, url.port = p

namespace AddressSession

/-- The attempt of `directConnect` does not fail at once, or it is the last one allowed. -/
def NotRefused (c : AddressConfig) (s : AddressSession) (attempts : Attempts) : Prop :=
  ∀ rand rest, attempts = (rand, .failed) :: rest →
    (s.chooseAddress c .configured rand).2 = none ∨
      retryConnectCountMax ≤ s.retryConnectCount + 1

/-- A connection to an address of the cache is not tried again on its socket, and does not fail in
the callback of the timer. -/
def LeavesCache (s : AddressSession) : AddressOp → Prop
  | .connectCallback timer answer _ => s.cancelled = false → ∀ ip port,
    (s.phase = .connecting ip port .cache →
      answer.isErrorCode = false ∧ (timer = true → answer.fails = false)) ∧
    (s.phase = .handshaking ip port .cache → timer = true → answer.fails = false)
  | _ => True

def Meets (c : AddressConfig) (s : AddressSession) (op : AddressOp) : Prop :=
  ((s.front c op).2 = true → NotRefused c (s.front c op).1 op.attempts) ∧ s.LeavesCache op

end AddressSession

/-! ## What is read of a configured host -/

lemma readDirect_text (direct : DirectHost) :
    NodeUrl.readDirect direct.text =
      some { port := direct.port.getD 0, address := direct.ip, directIp := true } := by
  obtain ⟨ip, port, some_, field, int, fits⟩ := direct
  have length : ip.length ≤ 255 := by
    rw [List.length_append] at fits
    omega
  have nonempty : ip ++ UrlAddress.portText port ≠ [] := by simp [some_]
  have isField : ∀ b ∈ ip, UrlAddress.isField b = true := fun b member => (field b member).1
  unfold NodeUrl.readDirect DirectHost.text
  rw [if_neg nonempty]
  cases port with
  | none =>
    have whole : ip ++ UrlAddress.portText none = ip ++ [] := rfl
    have stops (accepts : UInt8 → Bool) : Scanf.Stops accepts [] := by
      intro b head
      cases head
    have first : Scanf.scan NodeUrl.directPortFormat (ip ++ []) {} 0 =
        (NodeUrl.storeAddress {} ip, 1) := by
      rw [NodeUrl.directPortFormat,
        Scanf.scan_scanset some_ isField (by omega) (stops UrlAddress.isField)]
      rfl
    have second : Scanf.scan NodeUrl.directFormat (ip ++ []) (NodeUrl.storeAddress {} ip) 0 =
        (NodeUrl.storeAddress {} ip, 1) := by
      rw [NodeUrl.directFormat, Scanf.scan_word some_ (fun b member => (field b member).2) length
        (stops _)]
      rfl
    rw [whole, first, if_neg (show ¬(1 : ℕ) = 2 by decide), second, if_pos rfl]
    rfl
  | some p =>
    obtain ⟨low, high⟩ := int p rfl
    have colon : Scanf.Stops UrlAddress.isField (58 :: (Scanf.intDecimal p ++ [])) := by
      intro b head
      cases head
      rfl
    have number : Scanf.readInt (Scanf.intDecimal p ++ []) = some (p, []) :=
      Scanf.readInt_intDecimal p fun b head => by cases head
    have first : Scanf.scan NodeUrl.directPortFormat (ip ++ 58 :: (Scanf.intDecimal p ++ [])) {} 0 =
        (({} : NodeUrl).storeAddress ip |>.storeDirectPort p, 2) := by
      rw [NodeUrl.directPortFormat, Scanf.scan_scanset some_ isField (by omega) colon,
        Scanf.scan_literal, Scanf.scan, number]
      rfl
    rw [UrlAddress.portText_some, ← List.append_nil (Scanf.intDecimal p), first, if_pos rfl]
    simp only [NodeUrl.storeDirectPort, NodeUrl.storeAddress, toInt_eq low high, Option.getD_some]

/-- With a configured host the URL of the node names it. -/
lemma parseUrlInformation_direct {direct : DirectHost} {address : Bytes} {url : NodeUrl}
    (parsed : NodeUrl.parseUrlInformation direct.text address = some url) :
    url.directIp = true ∧ url.address = direct.ip := by
  unfold NodeUrl.parseUrlInformation at parsed
  simp only [readDirect_text] at parsed
  split at parsed
  · cases parsed
    exact ⟨rfl, rfl⟩
  · cases parsed

lemma parseUrlInformation_none {address : Bytes} {url : NodeUrl}
    (parsed : NodeUrl.parseUrlInformation [] address = some url) : url.directIp = false := by
  unfold NodeUrl.parseUrlInformation NodeUrl.readDirect at parsed
  simp only [if_true] at parsed
  split at parsed
  · cases parsed
    rfl
  · cases parsed

/-! ## What is recorded -/

/-- The address failed as one of the cache, and was not resolved since. -/
def Stale (trace : List AddressEvent) (ip : Bytes) : Prop :=
  ∃ before after, trace = before ++ .failed ip .cache :: after ∧ .resolved ip ∉ after

lemma stale_concat {trace : List AddressEvent} {event : AddressEvent} {ip : Bytes} :
    Stale (trace ++ [event]) ip ↔
      event = .failed ip .cache ∨ Stale trace ip ∧ event ≠ .resolved ip := by
  constructor
  · rintro ⟨before, after, split_, unresolved⟩
    rcases List.eq_nil_or_concat after with rfl | ⟨front, last, rfl⟩
    · left
      exact (List.append_inj' split_ rfl).2 |> List.singleton_inj.mp
    · right
      rw [List.concat_eq_append] at split_ unresolved
      rw [← List.cons_append, ← List.append_assoc] at split_
      obtain ⟨same, one⟩ := List.append_inj' split_ rfl
      rw [List.mem_append, List.mem_singleton, not_or] at unresolved
      refine ⟨⟨before, front, same, unresolved.1⟩, ?_⟩
      rw [List.singleton_inj.mp one]
      exact fun now => unresolved.2 now.symm
  · rintro (rfl | ⟨⟨before, after, rfl, unresolved⟩, other⟩)
    · exact ⟨trace, [], rfl, List.not_mem_nil⟩
    · refine ⟨before, after ++ [event], by simp, ?_⟩
      rw [List.mem_append, List.mem_singleton, not_or]
      exact ⟨unresolved, fun now => other now.symm⟩

/-- A further event keeps the retries right unless it tries an address that is stale. -/
lemma cacheLeft_concat {trace : List AddressEvent} (left : CacheLeft trace) {event : AddressEvent}
    (fresh : ∀ ip port source, event = .attempt ip port source → ¬Stale trace ip) :
    CacheLeft (trace ++ [event]) := by
  intro before ip after port source part
  rcases List.prefix_concat_iff.mp part with whole | earlier
  · rw [← List.cons_append, ← List.append_assoc] at whole
    obtain ⟨same, one⟩ := List.append_inj' whole rfl
    by_contra unresolved
    exact fresh ip port source (List.singleton_inj.mp one).symm ⟨before, after, same.symm, unresolved⟩
  · exact left before ip after port source earlier

lemma directOnly_concat {direct : DirectHost} {trace : List AddressEvent}
    (only : DirectOnly direct trace) {event : AddressEvent}
    (right : ∀ ip port source, event = .attempt ip port source →
      ip = direct.ip ∧ ∀ p ∈ direct.port, port = p) : DirectOnly direct (trace ++ [event]) := by
  intro ip port source member
  rcases List.mem_append.mp member with old | new
  · exact only ip port source old
  · exact right ip port source (List.mem_singleton.mp new).symm

namespace IpCache

/-- What the cache holds for some host. -/
def Holds (cache : IpCache) (ip : Bytes) : Prop :=
  ∃ host ips, cache host = some ips ∧ ip ∈ ips.ipList

lemma getIpFromCache_holds {cache : IpCache} {host : Bytes} {rand : ℕ}
    (found : cache.getIpFromCache host rand ≠ []) :
    cache.Holds (cache.getIpFromCache host rand) := by
  unfold getIpFromCache at found ⊢
  by_cases known : urlWithAccess host = true
  · rw [if_pos known] at found
    exact absurd rfl found
  rw [if_neg known] at found ⊢
  cases entry : cache host with
  | none =>
    rw [entry] at found
    exact absurd rfl found
  | some ips =>
    simp only [entry] at found ⊢
    by_cases young : ips.sameIpCount < workThreshold
    · rw [if_pos young] at found
      exact absurd rfl found
    · rw [if_neg young] at found ⊢
      refine ⟨host, ips, entry, ?_⟩
      cases drawn : ips.ipList[rand % ips.ipList.length]? with
      | none =>
        rw [drawn] at found
        exact absurd rfl found
      | some ip => exact List.mem_of_getElem? drawn

lemma setIpCache_holds {cache : IpCache} {host ip other : Bytes}
    (holds : (cache.setIpCache host ip).Holds other) : cache.Holds other ∨ other = ip := by
  have updated {ips : DnsIpCache} (holds : IpCache.Holds (Function.update cache host (some ips)) other)
      (inside : other ∈ ips.ipList → cache.Holds other ∨ other = ip) :
      cache.Holds other ∨ other = ip := by
    obtain ⟨host', ips', entry, member⟩ := holds
    by_cases here : host' = host
    · subst here
      rw [Function.update_self] at entry
      cases entry
      exact inside member
    · rw [Function.update_of_ne here] at entry
      exact Or.inl ⟨host', ips', entry, member⟩
  unfold setIpCache at holds
  split at holds
  · exact updated holds fun member => Or.inr (List.mem_singleton.mp member)
  · next ips entry =>
    split at holds
    · exact Or.inl holds
    split at holds
    · exact updated holds fun member => Or.inl ⟨host, ips, entry, member⟩
    · refine updated holds fun member => ?_
      rcases List.mem_append.mp member with old | new
      · exact Or.inl ⟨host, ips, entry, old⟩
      · exact Or.inr (List.mem_singleton.mp new)

lemma not_holds_cleared (ip : Bytes) : ¬cleared.Holds ip := by
  rintro ⟨host, ips, entry, -⟩
  cases entry

end IpCache

namespace AddressSession

/-! ## What `dnsProcess` does in front of an attempt -/

/-- Nothing is tried at once: the session has ended or waits for the name resolution. -/
structure Waits (c : AddressConfig) (pointer : IpPointer) (s t : AddressSession) : Prop where
  trace : t.trace = s.trace
  cache : t.cache = s.cache
  phase : t.phase = .idle ∨ t.phase = .resolving ∧ ∃ url,
    NodeUrl.parseUrlInformation (pointerText c pointer) c.url = some url ∧ url.directIp = false

/-- An attempt follows. -/
structure Chooses (c : AddressConfig) (pointer : IpPointer) (s t : AddressSession) (ip : Bytes)
    (source : AddressSource) : Prop where
  trace : t.trace = s.trace
  cache : t.cache = s.cache
  count : t.retryConnectCount = s.retryConnectCount + 1
  phase : t.phase = s.phase
  parsed : NodeUrl.parseUrlInformation (pointerText c pointer) c.url = some t.url
  address : t.url.directIp = true ∧ ip = t.url.address ∨
    t.url.directIp = false ∧ source = .cache ∧ s.cache.Holds ip

lemma chooseAddress_cases (c : AddressConfig) (s : AddressSession) (pointer : IpPointer)
    (rand : ℕ) :
    (∃ t, s.chooseAddress c pointer rand = (t, none) ∧ Waits c pointer s t) ∨
      ∃ t ip source next, s.chooseAddress c pointer rand = (t, some (ip, source, next)) ∧
        Chooses c pointer s t ip source := by
  unfold chooseAddress
  split
  · exact Or.inl ⟨_, rfl, rfl, rfl, Or.inl rfl⟩
  split
  · exact Or.inl ⟨_, rfl, rfl, rfl, Or.inl rfl⟩
  split
  · exact Or.inl ⟨_, rfl, rfl, rfl, Or.inl rfl⟩
  · next url parsed =>
    dsimp only
    split
    · next direct =>
      exact Or.inr ⟨_, _, _, _, rfl, rfl, rfl, rfl, rfl, parsed, Or.inl ⟨direct, rfl⟩⟩
    · next direct =>
      rw [Bool.not_eq_true] at direct
      split
      · next found =>
        exact Or.inr ⟨_, _, _, _, rfl, rfl, rfl, rfl, rfl, parsed,
          Or.inr ⟨direct, rfl, IpCache.getIpFromCache_holds found⟩⟩
      · refine Or.inl ⟨_, rfl, rfl, rfl, ?_⟩
        dsimp only
        split
        · exact Or.inr ⟨rfl, url, parsed, direct⟩
        · exact Or.inl rfl

/-- Behind the last attempt nothing is tried any more. -/
lemma dnsProcess_exhausted (c : AddressConfig) (attempts : Attempts) (pointer : IpPointer)
    {s : AddressSession} (exhausted : retryConnectCountMax ≤ s.retryConnectCount) :
    (dnsProcess c attempts pointer s).trace = s.trace ∧
      (dnsProcess c attempts pointer s).cache = s.cache ∧
      (dnsProcess c attempts pointer s).phase = .idle := by
  have ends (rand : ℕ) : ∃ t, s.chooseAddress c pointer rand = (t, none) ∧ t.trace = s.trace ∧
      t.cache = s.cache ∧ t.phase = .idle := by
    unfold chooseAddress
    rw [if_pos exhausted]
    split <;> exact ⟨_, rfl, rfl, rfl, rfl⟩
  cases attempts with
  | nil =>
    obtain ⟨t, none_, kept⟩ := ends 0
    rw [dnsProcess, none_]
    exact kept
  | cons first attempts =>
    obtain ⟨rand, outcome⟩ := first
    obtain ⟨t, none_, kept⟩ := ends rand
    rw [dnsProcess, none_]
    exact kept

/-- One call of `dnsProcess` ends in front of an attempt, with one that does not fail at once, or
with the last one. -/
lemma dnsProcess_cases (c : AddressConfig) {s : AddressSession} {attempts : Attempts}
    (kept : NotRefused c s attempts) :
    Waits c .configured s (dnsProcess c attempts .configured s) ∨
      ∃ t ip source outcome, Chooses c .configured s t ip source ∧
        (outcome ≠ .failed ∧
            dnsProcess c attempts .configured s = t.tryAddress ip source outcome ∨
          (dnsProcess c attempts .configured s).trace = (t.tryAddress ip source .failed).trace ∧
          (dnsProcess c attempts .configured s).cache = IpCache.cleared ∧
          (dnsProcess c attempts .configured s).phase = .idle) := by
  cases attempts with
  | nil =>
    rcases chooseAddress_cases c s .configured 0 with
      ⟨t, same, waits⟩ | ⟨t, ip, source, next, same, chooses⟩
    · left
      rwa [dnsProcess, same]
    · right
      refine ⟨t, ip, source, .connecting, chooses, Or.inl ⟨by simp, ?_⟩⟩
      rw [dnsProcess, same]
  | cons first attempts =>
    obtain ⟨rand, outcome⟩ := first
    rcases chooseAddress_cases c s .configured rand with
      ⟨t, same, waits⟩ | ⟨t, ip, source, next, same, chooses⟩
    · left
      rwa [dnsProcess, same]
    · right
      rw [dnsProcess, same]
      dsimp only
      unfold directConnect
      split
      · next failed =>
        subst failed
        have last : retryConnectCountMax ≤ s.retryConnectCount + 1 := by
          rcases kept rand attempts rfl with none_ | last
          · rw [same] at none_
            cases none_
          · exact last
        refine ⟨t, ip, source, .failed, chooses, Or.inr ?_⟩
        refine dnsProcess_exhausted c attempts next ?_
        change retryConnectCountMax ≤ t.retryConnectCount
        rw [chooses.count]
        exact last
      · next success => exact ⟨t, ip, source, outcome, chooses, Or.inl ⟨success, rfl⟩⟩

/-- The address whose connection or handshake is awaited. -/
def Awaits (s : AddressSession) (ip : Bytes) (port : ℤ) (source : AddressSource) : Prop :=
  s.phase = .connecting ip port source ∨ s.phase = .handshaking ip port source

lemma not_awaits_of_idle {s : AddressSession} (idle : s.phase = .idle) {ip : Bytes} {port : ℤ}
    {source : AddressSource} : ¬s.Awaits ip port source := by
  rintro (same | same) <;> exact absurd (idle.symm.trans same) (by simp)

lemma awaits_congr {s t : AddressSession} (same : t.phase = s.phase) {ip : Bytes} {port : ℤ}
    {source : AddressSource} : t.Awaits ip port source ↔ s.Awaits ip port source := by
  unfold Awaits
  rw [same]

lemma settle_awaits {s : AddressSession} {ip ip' : Bytes} {port port' : ℤ}
    {source source' : AddressSource} {outcome : AttemptOutcome}
    (awaits : (s.settle ip port source outcome).Awaits ip' port' source') :
    ip' = ip ∧ port' = port ∧ outcome ≠ .failed := by
  cases outcome with
  | established => exact absurd awaits (not_awaits_of_idle rfl)
  | failed => exact absurd awaits (not_awaits_of_idle rfl)
  | connecting =>
    rcases awaits with same | same <;> cases same
    exact ⟨rfl, rfl, by simp⟩
  | handshaking =>
    rcases awaits with same | same <;> cases same
    exact ⟨rfl, rfl, by simp⟩

lemma settle_trace (s : AddressSession) (ip : Bytes) (port : ℤ) (source : AddressSource)
    (outcome : AttemptOutcome) :
    (s.settle ip port source outcome).trace =
      if outcome = .failed then s.trace ++ [.failed ip source] else s.trace := by
  cases outcome <;> rfl

lemma settle_cache (s : AddressSession) (ip : Bytes) (port : ℤ) (source : AddressSource)
    (outcome : AttemptOutcome) : (s.settle ip port source outcome).cache = s.cache := by
  cases outcome <;> rfl

lemma settle_phase (s : AddressSession) (ip : Bytes) (port : ℤ) (source : AddressSource)
    (outcome : AttemptOutcome) : (s.settle ip port source outcome).phase ≠ .resolving := by
  cases outcome <;> simp [settle, record]

/-! ## A configured host -/

/-- What holds of a session whose user configured a host. -/
structure DirectRight (direct : DirectHost) (s : AddressSession) : Prop where
  only : DirectOnly direct s.trace
  awaited : ∀ ip port source, s.Awaits ip port source →
    ip = direct.ip ∧ ∀ p ∈ direct.port, port = p
  unresolved : s.phase ≠ .resolving

section Direct

variable {c : AddressConfig} {direct : DirectHost} {s : AddressSession}

lemma DirectRight.of_idle (only : DirectOnly direct s.trace) (idle : s.phase = .idle) :
    s.DirectRight direct where
  only := only
  awaited _ _ _ awaits := absurd awaits (not_awaits_of_idle idle)
  unresolved := by
    rw [idle]
    simp

lemma DirectRight.record_failed (right : s.DirectRight direct) (ip : Bytes)
    (source : AddressSource) : DirectOnly direct (s.record (.failed ip source)).trace :=
  directOnly_concat right.only fun _ _ _ same => by cases same

lemma directRight_settle (only : DirectOnly direct s.trace) {ip : Bytes} {port : ℤ}
    (named : ip = direct.ip ∧ ∀ p ∈ direct.port, port = p) (source : AddressSource)
    (outcome : AttemptOutcome) : (s.settle ip port source outcome).DirectRight direct where
  only := by
    rw [settle_trace]
    split
    · exact directOnly_concat only fun _ _ _ same => by cases same
    · exact only
  awaited ip' port' source' awaits := by
    obtain ⟨rfl, rfl, -⟩ := settle_awaits awaits
    exact named
  unresolved := settle_phase s ip port source outcome

lemma directOnly_attempt (only : DirectOnly direct s.trace) {ip : Bytes} {port : ℤ}
    (named : ip = direct.ip ∧ ∀ p ∈ direct.port, port = p) (source : AddressSource) :
    DirectOnly direct (s.record (.attempt ip port source)).trace := by
  refine directOnly_concat only fun ip' port' source' same => ?_
  cases same
  exact named

lemma directRight_dnsProcess (configured : c.direct = some direct) (agrees : c.PortAgrees)
    (right : DirectOnly direct s.trace) {attempts : Attempts}
    (kept : NotRefused c s attempts) :
    (dnsProcess c attempts .configured s).DirectRight direct := by
  have text : pointerText c .configured = direct.text := by
    simp only [pointerText, AddressConfig.directIp, configured]
  rcases dnsProcess_cases c kept with waits | ⟨t, ip, source, outcome, chooses, ends⟩
  · refine .of_idle (waits.trace ▸ right) ?_
    rcases waits.phase with idle | ⟨-, url, parsed, indirect⟩
    · exact idle
    · rw [text] at parsed
      rw [(parseUrlInformation_direct parsed).1] at indirect
      cases indirect
  · have parsed := chooses.parsed
    rw [text] at parsed
    obtain ⟨isDirect, address⟩ := parseUrlInformation_direct parsed
    have named : ip = direct.ip ∧ ∀ p ∈ direct.port, t.url.port = p := by
      refine ⟨?_, agrees direct t.url configured parsed⟩
      rcases chooses.address with ⟨-, same⟩ | ⟨indirect, -⟩
      · rw [same, address]
      · rw [isDirect] at indirect
        cases indirect
    have tried : (t.tryAddress ip source outcome).DirectRight direct ∧
        (t.tryAddress ip source .failed).DirectRight direct := by
      have only := directOnly_attempt (s := t) (chooses.trace ▸ right) named source
      exact ⟨directRight_settle only named source outcome, directRight_settle only named source _⟩
    rcases ends with ⟨-, same⟩ | ⟨trace, -, idle⟩
    · rw [same]
      exact tried.1
    · exact .of_idle (trace ▸ tried.2.only) idle

/-- With a configured host the part in front of `dnsProcess` keeps to it. -/
lemma directRight_front (right : s.DirectRight direct) (op : AddressOp) :
    (s.front c op).1.DirectRight direct := by
  cases op with
  | launch attempts => exact right
  | dnsFailed attempts => exact right
  | dnsResolved ip outcome refused attempts =>
    simp only [front, if_pos right.unresolved]
    exact right
  | connectCallback timer answer attempts =>
    have failed (ip : Bytes) (source : AddressSource) :
        ((s.record (.failed ip source)).giveUp timer).DirectRight direct :=
      .of_idle (right.record_failed ip source) rfl
    cases awaited : s.phase with
    | idle =>
      simp only [front, awaited]
      exact right
    | resolving => exact absurd awaited right.unresolved
    | connecting ip port source =>
      have named := right.awaited ip port source (Or.inl awaited)
      simp only [front, awaited]
      split
      · exact .of_idle right.only rfl
      cases answer with
      | expired => exact failed ip source
      | errorCode again =>
        have tried : DirectOnly direct
            ((s.record (.failed ip source)).record (.attempt ip port source)).trace :=
          directOnly_attempt (right.record_failed ip source) named source
        dsimp only
        split
        · exact .of_idle (directRight_settle tried named source again).only rfl
        · exact directRight_settle tried named source again
      | ready outcome =>
        dsimp only
        split
        · exact .of_idle (directRight_settle right.only named source outcome).only rfl
        · exact directRight_settle right.only named source outcome.handshake
    | handshaking ip port source =>
      have named := right.awaited ip port source (Or.inr awaited)
      simp only [front, awaited]
      split
      · exact .of_idle right.only rfl
      cases answer with
      | expired => exact failed ip source
      | errorCode outcome | ready outcome =>
        dsimp only
        split
        · exact .of_idle (directRight_settle right.only named source outcome).only rfl
        · exact directRight_settle right.only named source outcome.handshake
  | cancel => exact ⟨right.only, right.awaited, right.unresolved⟩
  | close => exact ⟨right.only, right.awaited, right.unresolved⟩
  | otherResolved host ip =>
    refine ⟨?_, right.awaited, right.unresolved⟩
    exact directOnly_concat right.only fun _ _ _ same => by cases same
  | otherFailed => exact ⟨right.only, right.awaited, right.unresolved⟩

theorem directRight_step (configured : c.direct = some direct) (agrees : c.PortAgrees)
    (right : s.DirectRight direct) (op : AddressOp) (meets : s.Meets c op) :
    (s.step c op).DirectRight direct := by
  have before := directRight_front (c := c) right op
  unfold step
  split
  · next retries => exact directRight_dnsProcess configured agrees before.only (meets.1 retries)
  · exact before

end Direct

/-! ## Addresses of the cache -/

/-- What holds of a session without a configured host: neither the cache nor the connection that is
awaited has an address that is stale. -/
structure CacheRight (s : AddressSession) : Prop where
  left : CacheLeft s.trace
  fresh : ∀ ip, s.cache.Holds ip → ¬Stale s.trace ip
  awaited : ∀ ip port source, s.Awaits ip port source → ¬Stale s.trace ip

section Cache

variable {c : AddressConfig} {s : AddressSession} {ip : Bytes} {port : ℤ} {source : AddressSource}

lemma CacheRight.of_cleared (left : CacheLeft s.trace) (cleared : s.cache = IpCache.cleared)
    (idle : s.phase = .idle) : s.CacheRight where
  left := left
  fresh ip holds := absurd (cleared ▸ holds) (IpCache.not_holds_cleared ip)
  awaited _ _ _ awaits := absurd awaits (not_awaits_of_idle idle)

lemma cacheLeft_failed (left : CacheLeft s.trace) :
    CacheLeft (s.record (.failed ip source)).trace :=
  cacheLeft_concat left fun _ _ _ same => by cases same

/-- A failure of an address that is not of the cache makes none stale. -/
lemma stale_failed (other : source ≠ .cache) {ip' : Bytes} :
    Stale (s.record (.failed ip source)).trace ip' → Stale s.trace ip' := by
  intro stale
  rcases stale_concat.mp stale with same | ⟨before, -⟩
  · cases same
    exact absurd rfl other
  · exact before

lemma stale_attempt {ip' : Bytes} :
    Stale (s.record (.attempt ip port source)).trace ip' → Stale s.trace ip' := by
  intro stale
  rcases stale_concat.mp stale with same | ⟨before, -⟩
  · cases same
  · exact before

lemma CacheRight.resolved (right : s.CacheRight) (host ip : Bytes) :
    ({ s.record (.resolved ip) with cache := s.cache.setIpCache host ip }).CacheRight where
  left := cacheLeft_concat right.left fun _ _ _ same => by cases same
  fresh other holds stale := by
    rcases stale_concat.mp stale with same | ⟨before, unresolved⟩
    · cases same
    · rcases IpCache.setIpCache_holds holds with old | rfl
      · exact right.fresh other old before
      · exact unresolved rfl
  awaited other port source awaits stale := by
    rcases stale_concat.mp stale with same | ⟨before, -⟩
    · cases same
    · exact right.awaited other port source awaits before

lemma CacheRight.attempted (right : s.CacheRight) (idle : ¬∃ ip port source, s.Awaits ip port source)
    (fresh : ¬Stale s.trace ip) (port : ℤ) (source : AddressSource) :
    (s.record (.attempt ip port source)).CacheRight where
  left := by
    refine cacheLeft_concat right.left fun _ _ _ same => ?_
    cases same
    exact fresh
  fresh other holds stale := right.fresh other holds (stale_attempt stale)
  awaited other port source awaits := absurd ⟨other, port, source, awaits⟩ idle

/-- An outcome that is no failure of an address of the cache. -/
lemma CacheRight.settle (left : CacheLeft s.trace)
    (fresh : ∀ other, s.cache.Holds other → ¬Stale s.trace other) (now : ¬Stale s.trace ip)
    (port : ℤ) {outcome : AttemptOutcome} (other : outcome ≠ .failed ∨ source ≠ .cache) :
    (s.settle ip port source outcome).CacheRight where
  left := by
    rw [settle_trace]
    split
    · exact cacheLeft_failed left
    · exact left
  fresh ip' holds stale := by
    rw [settle_cache] at holds
    rw [settle_trace] at stale
    split at stale
    · next failed => exact fresh ip' holds (stale_failed (other.resolve_left (not_not.mpr failed)) stale)
    · exact fresh ip' holds stale
  awaited ip' port' source' awaits stale := by
    obtain ⟨rfl, rfl, success⟩ := settle_awaits awaits
    rw [settle_trace, if_neg success] at stale
    exact now stale

lemma settle_left (left : CacheLeft s.trace) (outcome : AttemptOutcome) :
    CacheLeft (s.settle ip port source outcome).trace := by
  rw [settle_trace]
  split
  · exact cacheLeft_failed left
  · exact left

lemma CacheRight.giveUp (left : CacheLeft s.trace)
    (fresh : ∀ other, s.cache.Holds other → ¬Stale s.trace other) (timer : Bool) :
    (s.giveUp timer).CacheRight where
  left := left
  fresh other holds := by
    cases timer with
    | true => exact fresh other holds
    | false => exact absurd holds (IpCache.not_holds_cleared other)
  awaited _ _ _ awaits := absurd awaits (not_awaits_of_idle rfl)

/-- A failure in a callback: the cache is cleared, or the address was none of the cache. -/
lemma CacheRight.fail (right : s.CacheRight) (ip : Bytes) (port : ℤ) (outcome : AttemptOutcome)
    (timer : Bool) (other : timer = true → source ≠ .cache) :
    ((s.settle ip port source outcome).giveUp timer).CacheRight := by
  cases timer with
  | false => exact .of_cleared (settle_left right.left outcome) rfl rfl
  | true =>
    refine CacheRight.giveUp (settle_left right.left outcome) (fun ip' holds stale => ?_) true
    rw [settle_cache] at holds
    rw [settle_trace] at stale
    split at stale
    · exact right.fresh ip' holds (stale_failed (other rfl) stale)
    · exact right.fresh ip' holds stale

lemma cacheRight_dnsProcess (unconfigured : c.direct = none) (right : s.CacheRight)
    (idle : ¬∃ ip port source, s.Awaits ip port source) {attempts : Attempts}
    (kept : NotRefused c s attempts) : (dnsProcess c attempts .configured s).CacheRight := by
  have text : pointerText c .configured = [] := by
    simp only [pointerText, AddressConfig.directIp, unconfigured]
  rcases dnsProcess_cases c kept with waits | ⟨t, ip, source, outcome, chooses, ends⟩
  · refine ⟨waits.trace ▸ right.left, ?_, fun ip port source awaits => ?_⟩
    · rw [waits.trace, waits.cache]
      exact right.fresh
    · rcases waits.phase with same | ⟨same, -⟩
      · exact absurd awaits (not_awaits_of_idle same)
      · rcases awaits with other | other <;> exact absurd (same.symm.trans other) (by simp)
  · have held : s.cache.Holds ip := by
      rcases chooses.address with ⟨isDirect, -⟩ | ⟨-, -, held⟩
      · have parsed := chooses.parsed
        rw [text] at parsed
        rw [parseUrlInformation_none parsed] at isDirect
        cases isDirect
      · exact held
    have rightNow : t.CacheRight := by
      refine ⟨chooses.trace ▸ right.left, ?_, fun ip port source awaits => ?_⟩
      · rw [chooses.trace, chooses.cache]
        exact right.fresh
      · exact absurd ⟨ip, port, source, (awaits_congr chooses.phase).mp awaits⟩ idle
    have idleNow : ¬∃ ip port source, t.Awaits ip port source := by
      rintro ⟨ip, port, source, awaits⟩
      exact idle ⟨ip, port, source, (awaits_congr chooses.phase).mp awaits⟩
    have now : ¬Stale t.trace ip := by
      rw [chooses.trace]
      exact right.fresh ip held
    have tried := rightNow.attempted idleNow now t.url.port source
    rcases ends with ⟨success, same⟩ | ⟨trace, cleared, idle⟩
    · rw [same]
      exact CacheRight.settle tried.left tried.fresh (fun stale => now (stale_attempt stale))
        t.url.port (Or.inl success)
    · refine .of_cleared ?_ cleared idle
      rw [trace]
      exact settle_left tried.left .failed

/-- The part in front of `dnsProcess` leaves no stale address behind, and awaits none when
`dnsProcess` follows. -/
lemma cacheRight_front (right : s.CacheRight) (op : AddressOp) (leaves : s.LeavesCache op) :
    (s.front c op).1.CacheRight ∧
      ((s.front c op).2 = true → ¬∃ ip port source, (s.front c op).1.Awaits ip port source) := by
  have noneAwaited {t : AddressSession} (idle : t.phase = .idle) :
      ¬∃ ip port source, t.Awaits ip port source := by
    rintro ⟨ip, port, source, awaits⟩
    exact not_awaits_of_idle idle awaits
  have resolvingOnly {t : AddressSession} (resolving : t.phase = .resolving) :
      ¬∃ ip port source, t.Awaits ip port source := by
    rintro ⟨ip, port, source, same | same⟩ <;> exact absurd (resolving.symm.trans same) (by simp)
  cases op with
  | launch attempts => exact ⟨right, fun idle => noneAwaited (of_decide_eq_true idle)⟩
  | dnsFailed attempts => exact ⟨right, fun resolving => resolvingOnly (of_decide_eq_true resolving)⟩
  | dnsResolved found outcome refused attempts =>
    simp only [front]
    split
    · exact ⟨right, fun calls => by cases calls⟩
    · next resolving =>
      rw [not_not] at resolving
      cases found with
      | none =>
        refine ⟨⟨right.left, right.fresh, fun _ _ _ awaits => ?_⟩, fun calls => by cases calls⟩
        exact absurd awaits (not_awaits_of_idle rfl)
      | some ip =>
        have told := right.resolved c.url ip
        have unawaited : ¬∃ ip' port source,
            ({ s.record (.resolved ip) with cache := s.cache.setIpCache c.url ip }).Awaits
              ip' port source := resolvingOnly resolving
        have now : ¬Stale (s.record (.resolved ip)).trace ip := by
          intro stale
          rcases stale_concat.mp stale with same | ⟨-, unresolved⟩
          · cases same
          · exact unresolved rfl
        have tried := told.attempted unawaited now s.url.port .dns
        have foreign : outcome ≠ .failed ∨ AddressSource.dns ≠ .cache := Or.inr (by simp)
        have settled := CacheRight.settle tried.left tried.fresh
          (fun stale => now (stale_attempt stale)) s.url.port foreign
        dsimp only
        split
        · exact ⟨told, fun _ => unawaited⟩
        split
        · exact ⟨settled, fun calls => by cases calls⟩
        · next failed =>
          rw [not_not] at failed
          subst failed
          split
          · exact ⟨.of_cleared settled.left rfl rfl, fun _ => noneAwaited rfl⟩
          · exact ⟨settled, fun _ => noneAwaited rfl⟩
  | connectCallback timer answer attempts =>
    cases awaited : s.phase with
    | idle | resolving =>
      simp only [front, awaited]
      exact ⟨right, fun calls => by cases calls⟩
    | connecting ip port source =>
      have now := right.awaited ip port source (Or.inl awaited)
      simp only [front, awaited]
      split
      · exact ⟨CacheRight.giveUp right.left right.fresh timer, fun _ => noneAwaited rfl⟩
      next running =>
      have other : source = .cache → answer.isErrorCode = false ∧
          (timer = true → answer.fails = false) := by
        rintro rfl
        exact (leaves (by simpa using running) ip port).1 awaited
      cases answer with
      | expired =>
        refine ⟨right.fail ip port .failed timer fun late cached => ?_, fun _ => noneAwaited rfl⟩
        exact absurd ((other cached).2 late) (by simp [CallbackAnswer.fails])
      | errorCode again =>
        have foreign : source ≠ .cache := fun cached => by
          have code := (other cached).1
          cases code
        have failed : (s.record (.failed ip source)).CacheRight := by
          refine ⟨cacheLeft_failed right.left, fun ip' holds stale => ?_,
            fun ip' port' source' awaits stale => ?_⟩
          · exact right.fresh ip' holds (stale_failed foreign stale)
          · exact right.awaited ip' port' source' awaits (stale_failed foreign stale)
        have again_ : ¬Stale ((s.record (.failed ip source)).record
            (.attempt ip port source)).trace ip :=
          fun stale => now (stale_failed foreign (stale_attempt stale))
        have left : CacheLeft ((s.record (.failed ip source)).record
            (.attempt ip port source)).trace := by
          refine cacheLeft_concat failed.left fun _ _ _ same stale => ?_
          cases same
          exact now (stale_failed foreign stale)
        have fresh : ∀ ip', s.cache.Holds ip' → ¬Stale ((s.record (.failed ip source)).record
            (.attempt ip port source)).trace ip' :=
          fun ip' holds stale => failed.fresh ip' holds (stale_attempt stale)
        have unlike : again ≠ .failed ∨ source ≠ .cache := Or.inr foreign
        have settled := CacheRight.settle left fresh again_ port unlike
        dsimp only
        split
        · exact ⟨CacheRight.giveUp settled.left settled.fresh timer, fun _ => noneAwaited rfl⟩
        · exact ⟨settled, fun calls => by cases calls⟩
      | ready outcome =>
        dsimp only
        split
        · next failed =>
          refine ⟨right.fail ip port outcome timer fun late cached => ?_, fun _ => noneAwaited rfl⟩
          exact absurd ((other cached).2 late) (by simp [CallbackAnswer.fails, failed])
        · next success =>
          refine ⟨CacheRight.settle right.left right.fresh now port (Or.inl ?_),
            fun calls => by cases calls⟩
          cases outcome <;> simp_all [AttemptOutcome.handshake]
    | handshaking ip port source =>
      have now := right.awaited ip port source (Or.inr awaited)
      simp only [front, awaited]
      split
      · exact ⟨CacheRight.giveUp right.left right.fresh timer, fun _ => noneAwaited rfl⟩
      next running =>
      have other : source = .cache → timer = true → answer.fails = false := by
        rintro rfl
        exact (leaves (by simpa using running) ip port).2 awaited
      cases answer with
      | expired =>
        refine ⟨right.fail ip port .failed timer fun late cached => ?_, fun _ => noneAwaited rfl⟩
        exact absurd (other cached late) (by simp [CallbackAnswer.fails])
      | errorCode outcome | ready outcome =>
        dsimp only
        split
        · next failed =>
          refine ⟨right.fail ip port outcome timer fun late cached => ?_, fun _ => noneAwaited rfl⟩
          exact absurd (other cached late) (by simp [CallbackAnswer.fails, failed])
        · next success =>
          refine ⟨CacheRight.settle right.left right.fresh now port (Or.inl ?_),
            fun calls => by cases calls⟩
          cases outcome <;> simp_all [AttemptOutcome.handshake]
  | cancel => exact ⟨⟨right.left, right.fresh, right.awaited⟩, fun calls => by cases calls⟩
  | close => exact ⟨⟨right.left, right.fresh, right.awaited⟩, fun calls => by cases calls⟩
  | otherResolved host ip => exact ⟨right.resolved host ip, fun calls => by cases calls⟩
  | otherFailed =>
    refine ⟨⟨right.left, fun ip holds => ?_, right.awaited⟩, fun calls => by cases calls⟩
    exact absurd holds (IpCache.not_holds_cleared ip)

theorem cacheRight_step (unconfigured : c.direct = none) (right : s.CacheRight) (op : AddressOp)
    (meets : s.Meets c op) : (s.step c op).CacheRight := by
  obtain ⟨before, unawaited⟩ := cacheRight_front (c := c) right op meets.2
  unfold step
  split
  · next retries =>
    exact cacheRight_dnsProcess unconfigured before (unawaited retries) (meets.1 retries)
  · exact before

end Cache

/-- A session that starts with a cache of the work thread. -/
def fresh (cache : IpCache) : AddressSession := { cache }

/-- Where each step meets the condition, and the URL has the port of the configured host, every
attempt of a session goes where it should. -/
theorem addresses_right (c : AddressConfig) (agrees : c.PortAgrees) (cache : IpCache)
    (ops : List AddressOp) (meets : Along (step c) (Meets c) (fresh cache) ops) :
    AddressesRight c (run (step c) (fresh cache) ops).trace := by
  have noneYet {ip : Bytes} {port : ℤ} {source : AddressSource} :
      ¬(fresh cache).Awaits ip port source := not_awaits_of_idle rfl
  unfold AddressesRight
  cases configured : c.direct with
  | some direct =>
    refine (invariant_along (I := DirectRight direct)
      (fun s op right now => directRight_step configured agrees right op now) ?_ meets).only
    exact .of_idle (fun _ _ _ member => absurd member List.not_mem_nil) rfl
  | none =>
    refine (invariant_along (I := CacheRight)
      (fun s op right now => cacheRight_step configured right op now) ?_ meets).left
    refine ⟨fun before ip after port source part => ?_, fun ip _ stale => ?_, fun _ _ _ awaits => ?_⟩
    · exact absurd (List.prefix_nil.mp part) (by simp)
    · obtain ⟨before, after, empty, -⟩ := stale
      exact absurd empty (by simp [fresh])
    · exact absurd awaits noneYet

/-! ## Sessions -/

lemma plain_ip_field : ∀ b ∈ ascii "1.2.3.4", UrlAddress.isField b = true ∧
    Scanf.isSpace b = false := by
  decide +kernel

def plainHost : DirectHost where
  ip := ascii "1.2.3.4"
  ip_some := by decide
  ip_field := plain_ip_field
  port_int := by simp
  fits := by decide

/-- The same host with a port. -/
def hostPort (port : ℤ) (int : -2 ^ 31 ≤ port ∧ port < 2 ^ 31)
    (fits : (ascii "1.2.3.4" ++ UrlAddress.portText (some port)).length < 64) : DirectHost where
  ip := ascii "1.2.3.4"
  port := some port
  ip_some := by decide
  ip_field := plain_ip_field
  port_int p member := Option.mem_some_iff.mp member ▸ int
  fits := fits

def serviceUrl : Bytes := ascii "wss://h/ws"

def secureHost : AddressConfig where
  url := serviceUrl
  direct := some (hostPort 443 (by decide) (by decide))

/-- A configured host that answers too late is tried again. -/
theorem addresses_right_late :
    AddressesRight secureHost (run (step secureHost) (fresh IpCache.cleared)
      [.launch [(0, .connecting)], .connectCallback false .expired [(0, .connecting)]]).trace := by
  have port : (NodeUrl.parseUrlInformation (hostPort 443 (by decide) (by decide)).text
      serviceUrl).map (fun url => url.port) = some 443 := by decide
  have waiting : (step secureHost (fresh IpCache.cleared) (.launch [(0, .connecting)])).phase =
      .connecting (ascii "1.2.3.4") 443 .direct := by decide
  refine addresses_right secureHost (fun direct url configured parsed p member => ?_) _ _
    ⟨⟨fun _ rand rest same => ?_, trivial⟩, ⟨fun _ rand rest same => ?_, fun _ ip port' => ?_⟩,
      trivial⟩
  · cases configured
    cases member
    change NodeUrl.parseUrlInformation _ serviceUrl = _ at parsed
    rw [parsed] at port
    exact Option.some.inj port
  · cases same
  · cases same
  · rw [waiting]
    constructor <;> intro same <;> cases same

/-- The cache of a host that resolved to one address six times. -/
def steadyCache : IpCache :=
  Function.update IpCache.cleared serviceUrl
    (some { ipList := [ascii "5.6.7.8"], sameIpCount := 5 })

/-- Behind a failure at once a configured host is left for the resolved address, an address of the
cache is tried again, and a configured port is never used. -/
theorem addresses_wrong :
    ¬AddressesRight { url := serviceUrl, direct := some plainHost }
        (run (step { url := serviceUrl, direct := some plainHost }) (fresh IpCache.cleared)
          [.launch [(0, .failed)],
            .dnsResolved (some (ascii "5.6.7.8")) .connecting false []]).trace ∧
      ¬AddressesRight { url := serviceUrl }
        (run (step { url := serviceUrl }) (fresh steadyCache)
          [.launch [(0, .failed), (0, .connecting)]]).trace ∧
      ¬AddressesRight
        { url := serviceUrl, direct := some (hostPort 8080 (by decide) (by decide)) }
        (run (step
          { url := serviceUrl, direct := some (hostPort 8080 (by decide) (by decide)) })
          (fresh IpCache.cleared) [.launch [(0, .connecting)]]).trace := by
  refine ⟨fun right => ?_, fun right => ?_, fun right => ?_⟩
  · have elsewhere := right (ascii "5.6.7.8") 443 .dns (by decide)
    revert elsewhere
    decide
  · have again := right [.attempt (ascii "5.6.7.8") 443 .cache] (ascii "5.6.7.8") [] 443 .direct
      ⟨[], by decide⟩
    cases again
  · have port := (right (ascii "1.2.3.4") 443 .direct (by decide)).2 8080 rfl
    revert port
    decide

end AddressSession

end NlsSdk.Transport
