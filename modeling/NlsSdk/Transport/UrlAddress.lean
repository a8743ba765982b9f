import NlsSdk.Library.Scanf
import NlsSdk.Transport.WebSocketTcp

/-!
# The address of the service

`parseUrlAddress` tries four scan formats on the URL, one after another.
`parse_faithful_iff` says of which accepted URLs the fields are a faithful copy.
-/
namespace NlsSdk.Transport

open Library

def TypeSize : ℕ := 10
def HostSize : ℕ := 256
def PathSize : ℕ := 512

inductive ServiceProtocol
  | nls | dashScope
  deriving DecidableEq, Repr

/-- The fields of the address that the parser writes; a text is without its terminator. -/
structure UrlAddress where
  host : Bytes := []
  port : ℤ := 0
  type : Bytes := []
  path : Bytes := []
  isSsl : Bool := false
  serviceProtocol : ServiceProtocol := .nls
  deriving DecidableEq, Repr

namespace UrlAddress

/-- `[^:/]` -/
def isField (b : UInt8) : Bool := b ≠ 58 && b ≠ 47

def storeType (url : UrlAddress) (field : Bytes) : UrlAddress := { url with type := field }
def storeHost (url : UrlAddress) (field : Bytes) : UrlAddress := { url with host := field }
def storePort (url : UrlAddress) (number : ℤ) : UrlAddress := { url with port := toInt number }
def storePath (url : UrlAddress) (field : Bytes) : UrlAddress := { url with path := field }

/-- `%10[^:/]://%256[^:/]` and what a format has behind it. -/
def authority (tail : List (Scanf.Directive UrlAddress)) : List (Scanf.Directive UrlAddress) :=
  .scanset 10 isField storeType :: .literal 58 :: .literal 47 :: .literal 47 ::
    .scanset 256 isField storeHost :: tail

/-- `%10[^:/]://%256[^:/]:%d/%255s` -/
def portPathFormat : List (Scanf.Directive UrlAddress) :=
  authority [.literal 58, .decimal storePort, .literal 47, .word 255 storePath]

/-- `%10[^:/]://%256[^:/]/%255s` -/
def pathFormat : List (Scanf.Directive UrlAddress) :=
  authority [.literal 47, .word 255 storePath]

/-- `%10[^:/]://%256[^:/]:%d` -/
def portFormat : List (Scanf.Directive UrlAddress) :=
  authority [.literal 58, .decimal storePort]

/-- `%10[^:/]://%256[^:/]` -/
def hostFormat : List (Scanf.Directive UrlAddress) := authority []

/-- `strcmp(url._type, "wss") == 0 || strcmp(url._type, "https") == 0` -/
def secure (type : Bytes) : Bool := type = ascii "wss" || type = ascii "https"

def markSecure (url : UrlAddress) : UrlAddress :=
  if secure url.type then { url with isSsl := true } else url

def defaultPort (url : UrlAddress) : UrlAddress :=
  if secure url.type then { url with port := 443, isSsl := true } else { url with port := 80 }

/-- Which of the two services the URL is for. -/
def protocolOf (address : Bytes) : ServiceProtocol :=
  if (find (ascii "dashscope") address).isSome then .dashScope else .nls

/-- The destination keeps what the formats tried before have stored in it. -/
def parseUrlAddress (url : UrlAddress) (address : Bytes) : UrlAddress × Ret :=
  let address := cString address
  let url := { url with serviceProtocol := protocolOf address }
  let first := Scanf.scan portPathFormat address url 0
  if first.2 = 4 then (first.1.markSecure, .ok 0)
  else
    let second := Scanf.scan pathFormat address first.1 0
    if second.2 = 3 then (second.1.defaultPort, .ok 0)
    else
      let third := Scanf.scan portFormat address second.1 0
      -- the flag is not touched here
      if third.2 = 3 then ({ third.1 with path := [] }, .ok 0)
      else
        let fourth := Scanf.scan hostFormat address third.1 0
        if fourth.2 = 2 then ({ fourth.1.defaultPort with path := [] }, .ok 0)
        else (fourth.1, .error .parseUrlFailed)

example : parseUrlAddress {} (ascii "wss://h/ws/v1") =
    (⟨ascii "h", 443, ascii "wss", ascii "ws/v1", true, .nls⟩, .ok 0) := by decide

/-! ## What a faithful result is -/

def portText : Option ℤ → Bytes
  | none => []
  | some port => 58 :: Scanf.intDecimal port

def pathText (path : Bytes) : Bytes := if path = [] then [] else 47 :: path

/-- A URL put together from its parts. -/
def compose (type host : Bytes) (port : Option ℤ) (path : Bytes) : Bytes :=
  type ++ 58 :: 47 :: 47 :: (host ++ (portText port ++ pathText path))

/-- The fields recompose to the URL, the flag and the port agree with it, and every text
fits with its terminator. -/
structure Faithful (address : Bytes) (url : UrlAddress) : Prop where
  recomposes : cString address = compose url.type url.host (some url.port) url.path ∨
    cString address = compose url.type url.host none url.path ∧
      url.port = if url.isSsl then 443 else 80
  flag : url.isSsl = secure url.type
  type_fits : url.type.length + 1 ≤ TypeSize
  host_fits : url.host.length + 1 ≤ HostSize
  path_fits : url.path.length + 1 ≤ PathSize

/-- The parts of a URL that the formats can read. -/
structure Spelled (address type host : Bytes) (port : Option ℤ) (path : Bytes) : Prop where
  text : cString address = compose type host port path
  type_some : type ≠ []
  type_field : ∀ b ∈ type, isField b = true
  host_some : host ≠ []
  host_field : ∀ b ∈ host, isField b = true
  port_int : ∀ p ∈ port, -2 ^ 31 ≤ p ∧ p < 2 ^ 31
  path_length : path.length ≤ 255
  path_word : ∀ b ∈ path, Scanf.isSpace b = false

/-- The spellings that are read faithfully into a destination with this flag. -/
def Regular (address : Bytes) (isSsl : Bool) : Prop :=
  ∃ type host port path, Spelled address type host port path ∧
    type.length < 10 ∧ host.length < 256 ∧
    if port.isSome ∧ path = [] then isSsl = secure type else isSsl = true → secure type = true

/-! ## What the formats read of a spelling -/

section Read

variable {url : UrlAddress} {address type host path tail : Bytes} {port : Option ℤ}
  {ds : List (Scanf.Directive UrlAddress)}

@[simp] lemma portText_none : portText none = [] := rfl

@[simp] lemma portText_some (p : ℤ) : portText (some p) = 58 :: Scanf.intDecimal p := rfl

@[simp] lemma pathText_nil : pathText [] = [] := rfl

lemma pathText_some (some_ : path ≠ []) : pathText path = 47 :: path := if_neg some_

lemma stops_tail (port : Option ℤ) (path : Bytes) :
    Scanf.Stops isField (portText port ++ pathText path) := by
  intro b head
  cases port with
  | some p =>
    cases head
    rfl
  | none =>
    by_cases empty : path = []
    · simp [empty] at head
    · rw [pathText_some empty] at head
      cases head
      rfl

lemma stops_digit (path : Bytes) : Scanf.Stops Scanf.isDigit (pathText path) := by
  intro b head
  by_cases empty : path = []
  · simp [empty] at head
  · rw [pathText_some empty] at head
    cases head
    rfl

/-- A type and a host that fit are stored, and the scan goes on behind them. -/
lemma scan_fields {type host rest : Bytes} {url : UrlAddress}
    {ds : List (Scanf.Directive UrlAddress)} (type_some : type ≠ [])
    (type_field : ∀ b ∈ type, isField b = true) (type_length : type.length ≤ 10)
    (host_some : host ≠ []) (host_field : ∀ b ∈ host, isField b = true)
    (host_length : host.length ≤ 256) (stops : Scanf.Stops isField rest) :
    Scanf.scan (authority ds) (type ++ 58 :: 47 :: 47 :: (host ++ rest)) url 0 =
      Scanf.scan ds rest ((url.storeType type).storeHost host) 2 := by
  have colon : Scanf.Stops isField (58 :: 47 :: 47 :: (host ++ rest)) := by
    intro b head
    cases head
    rfl
  rw [authority, Scanf.scan_scanset type_some type_field type_length colon, Scanf.scan_literal,
    Scanf.scan_literal, Scanf.scan_literal,
    Scanf.scan_scanset host_some host_field host_length stops]

lemma scan_word_end {path : Bytes} {url : UrlAddress} {count : ℕ} (some_ : path ≠ [])
    (length : path.length ≤ 255) (word : ∀ b ∈ path, Scanf.isSpace b = false) :
    Scanf.scan [.word 255 storePath] path url count = (url.storePath path, count + 1) := by
  have whole : path = path ++ [] := (List.append_nil path).symm
  rw [whole, Scanf.scan_word some_ word length ?_, ← whole, Scanf.scan]
  intro b head
  cases head

/-- The same for a spelling. -/
lemma scan_authority (spelled : Spelled address type host port path)
    (type_length : type.length ≤ 10) (host_length : host.length ≤ 256) :
    Scanf.scan (authority ds) (cString address) url 0 =
      Scanf.scan ds (portText port ++ pathText path) ((url.storeType type).storeHost host) 2 := by
  rw [spelled.text, compose]
  exact scan_fields spelled.type_some spelled.type_field type_length spelled.host_some
    spelled.host_field host_length (stops_tail port path)

lemma scan_path (spelled : Spelled address type host port path) (some_ : path ≠ [])
    {s : UrlAddress} {count : ℕ} :
    Scanf.scan [.word 255 storePath] path s count = (s.storePath path, count + 1) :=
  scan_word_end some_ spelled.path_length spelled.path_word

lemma scan_port (spelled : Spelled address type host (some p) path) {s : UrlAddress} {count : ℕ} :
    Scanf.scan (.decimal storePort :: ds) (Scanf.intDecimal p ++ pathText path) s count =
      Scanf.scan ds (pathText path) { s with port := p } (count + 1) := by
  obtain ⟨low, high⟩ := spelled.port_int p rfl
  rw [Scanf.scan, Scanf.readInt_intDecimal p (stops_digit path)]
  simp only [storePort, toInt_eq low high]

/-- The result for every spelling that the widths admit. -/
lemma parse_spelled (spelled : Spelled address type host port path)
    (type_length : type.length ≤ 10) (host_length : host.length ≤ 256) :
    parseUrlAddress url address =
      (⟨host, port.getD (if secure type then 443 else 80), type, path,
        url.isSsl || (secure type && !(port.isSome && path.isEmpty)),
        protocolOf (cString address)⟩, .ok 0) := by
  have front : ∀ (ds : List (Scanf.Directive UrlAddress)) (s : UrlAddress),
      Scanf.scan (authority ds) (cString address) s 0 =
        Scanf.scan ds (portText port ++ pathText path) ((s.storeType type).storeHost host) 2 :=
    fun ds s => scan_authority spelled type_length host_length
  unfold parseUrlAddress portPathFormat pathFormat portFormat hostFormat
  simp only [front]
  cases port with
  | none =>
    by_cases empty : path = []
    · subst empty
      simp only [portText_none, pathText_nil, List.nil_append, Scanf.scan, List.head?_nil]
      by_cases ssl : secure type = true <;> simp [defaultPort, storeHost, storeType, ssl]
    · have colon : ∀ ds (s : UrlAddress),
          Scanf.scan (.literal 58 :: ds) (pathText path) s 2 = (s, 2) := by
        intro ds s
        simp [pathText_some empty, Scanf.scan]
      have read : ∀ s : UrlAddress, Scanf.scan [.literal 47, .word 255 storePath] (pathText path)
          s 2 = (s.storePath path, 3) := by
        intro s
        rw [pathText_some empty, Scanf.scan_literal, scan_path spelled empty]
      simp only [portText_none, List.nil_append, colon, read]
      by_cases ssl : secure type = true <;>
        simp [defaultPort, storeHost, storeType, storePath, ssl]
  | some p =>
    have slash : ∀ ds (s : UrlAddress),
        Scanf.scan (.literal 47 :: ds) (portText (some p) ++ pathText path) s 2 = (s, 2) := by
      intro ds s
      simp [Scanf.scan]
    have number : ∀ ds (s : UrlAddress),
        Scanf.scan (.literal 58 :: .decimal storePort :: ds)
          (portText (some p) ++ pathText path) s 2 =
          Scanf.scan ds (pathText path) { s with port := p } 3 := by
      intro ds s
      rw [portText_some, List.cons_append, Scanf.scan_literal, scan_port spelled]
    simp only [number, slash]
    by_cases empty : path = []
    · subst empty
      simp [Scanf.scan, storeHost, storeType]
    · rw [pathText_some empty, Scanf.scan_literal, scan_path spelled empty]
      by_cases ssl : secure type = true <;>
        simp [markSecure, storeHost, storeType, storePath, ssl, empty]

end Read

/-! ## What an accepted URL leaves -/

/-- The fields that a matched format has stored. -/
structure ReadBack (url : UrlAddress) : Prop where
  type_some : url.type ≠ []
  type_length : url.type.length ≤ 10
  type_field : ∀ b ∈ url.type, isField b = true
  host_some : url.host ≠ []
  host_length : url.host.length ≤ 256
  host_field : ∀ b ∈ url.host, isField b = true
  port_int : -2 ^ 31 ≤ url.port ∧ url.port < 2 ^ 31
  path_length : url.path.length ≤ 255
  path_word : ∀ b ∈ url.path, Scanf.isSpace b = false

section Accepted

variable {url : UrlAddress} {address : Bytes} {ds : List (Scanf.Directive UrlAddress)}

lemma defaultPort_type : url.defaultPort.type = url.type := by
  unfold defaultPort
  split <;> rfl

lemma defaultPort_host : url.defaultPort.host = url.host := by
  unfold defaultPort
  split <;> rfl

lemma defaultPort_path : url.defaultPort.path = url.path := by
  unfold defaultPort
  split <;> rfl

lemma defaultPort_port : -2 ^ 31 ≤ url.defaultPort.port ∧ url.defaultPort.port < 2 ^ 31 := by
  unfold defaultPort
  split
  · constructor <;> norm_num
  · constructor <;> norm_num

lemma ReadBack.markSecure (back : url.ReadBack) : url.markSecure.ReadBack := by
  unfold UrlAddress.markSecure
  split
  · obtain ⟨type_some, type_length, type_field, host_some, host_length, host_field, port_int,
      path_length, path_word⟩ := back
    constructor <;> assumption
  · exact back

/-- A format that has stored two fields has stored a type and a host. -/
lemma authority_read (more : 1 < (Scanf.scan (authority ds) address url 0).2) :
    ∃ type host rest, type ≠ [] ∧ type.length ≤ 10 ∧ (∀ b ∈ type, isField b = true) ∧
      host ≠ [] ∧ host.length ≤ 256 ∧ (∀ b ∈ host, isField b = true) ∧
      Scanf.scan (authority ds) address url 0 =
        Scanf.scan ds rest ((url.storeType type).storeHost host) 2 := by
  unfold authority at more ⊢
  obtain ⟨type, rest, type_some, type_length, type_field, is⟩ :=
    Scanf.scanset_read (lt_trans zero_lt_one more)
  rw [is] at more ⊢
  obtain ⟨rest, rfl⟩ := Scanf.literal_read more
  rw [Scanf.scan_literal] at more ⊢
  obtain ⟨rest, rfl⟩ := Scanf.literal_read more
  rw [Scanf.scan_literal] at more ⊢
  obtain ⟨rest, rfl⟩ := Scanf.literal_read more
  rw [Scanf.scan_literal] at more ⊢
  obtain ⟨host, rest, host_some, host_length, host_field, is⟩ := Scanf.scanset_read more
  rw [is]
  exact ⟨type, host, rest, type_some, type_length, type_field, host_some, host_length,
    host_field, rfl⟩

lemma portPath_read (all : (Scanf.scan portPathFormat address url 0).2 = 4) :
    (Scanf.scan portPathFormat address url 0).1.ReadBack := by
  unfold portPathFormat at all ⊢
  obtain ⟨type, host, rest, type_some, type_length, type_field, host_some, host_length,
    host_field, is⟩ := authority_read (lt_of_lt_of_eq (by norm_num) all.symm)
  rw [is] at all ⊢
  obtain ⟨rest, rfl⟩ := Scanf.literal_read (lt_of_lt_of_eq (by norm_num) all.symm)
  rw [Scanf.scan_literal] at all ⊢
  obtain ⟨number, rest, is⟩ := Scanf.decimal_read (lt_of_lt_of_eq (by norm_num) all.symm)
  rw [is] at all ⊢
  obtain ⟨rest, rfl⟩ := Scanf.literal_read (lt_of_lt_of_eq (by norm_num) all.symm)
  rw [Scanf.scan_literal] at all ⊢
  obtain ⟨path, rest, -, path_length, path_word, is⟩ := Scanf.word_read (lt_of_lt_of_eq (by norm_num) all.symm)
  rw [is]
  exact ⟨type_some, type_length, type_field, host_some, host_length, host_field,
    toInt_range number, path_length, path_word⟩

lemma path_read (all : (Scanf.scan pathFormat address url 0).2 = 3) :
    (Scanf.scan pathFormat address url 0).1.defaultPort.ReadBack := by
  unfold pathFormat at all ⊢
  obtain ⟨type, host, rest, type_some, type_length, type_field, host_some, host_length,
    host_field, is⟩ := authority_read (lt_of_lt_of_eq (by norm_num) all.symm)
  rw [is] at all ⊢
  obtain ⟨rest, rfl⟩ := Scanf.literal_read (lt_of_lt_of_eq (by norm_num) all.symm)
  rw [Scanf.scan_literal] at all ⊢
  obtain ⟨path, rest, -, path_length, path_word, is⟩ := Scanf.word_read (lt_of_lt_of_eq (by norm_num) all.symm)
  rw [is, Scanf.scan]
  constructor <;> simp only [defaultPort_type, defaultPort_host, defaultPort_path]
  any_goals assumption
  exact defaultPort_port

lemma port_read (all : (Scanf.scan portFormat address url 0).2 = 3) :
    ReadBack { (Scanf.scan portFormat address url 0).1 with path := [] } := by
  unfold portFormat at all ⊢
  obtain ⟨type, host, rest, type_some, type_length, type_field, host_some, host_length,
    host_field, is⟩ := authority_read (lt_of_lt_of_eq (by norm_num) all.symm)
  rw [is] at all ⊢
  obtain ⟨rest, rfl⟩ := Scanf.literal_read (lt_of_lt_of_eq (by norm_num) all.symm)
  rw [Scanf.scan_literal] at all ⊢
  obtain ⟨number, rest, is⟩ := Scanf.decimal_read (lt_of_lt_of_eq (by norm_num) all.symm)
  rw [is]
  exact ⟨type_some, type_length, type_field, host_some, host_length, host_field,
    toInt_range number, by simp, by simp⟩

lemma host_read (all : (Scanf.scan hostFormat address url 0).2 = 2) :
    ReadBack { (Scanf.scan hostFormat address url 0).1.defaultPort with path := [] } := by
  unfold hostFormat at all ⊢
  obtain ⟨type, host, rest, type_some, type_length, type_field, host_some, host_length,
    host_field, is⟩ := authority_read (lt_of_lt_of_eq (by norm_num) all.symm)
  rw [is, Scanf.scan]
  constructor <;> simp only [defaultPort_type, defaultPort_host]
  any_goals assumption
  · exact defaultPort_port
  · simp
  · simp

lemma accepted_readBack (accepted : (parseUrlAddress url address).2 = .ok 0) :
    (parseUrlAddress url address).1.ReadBack := by
  revert accepted
  unfold parseUrlAddress
  dsimp only
  split_ifs with first second third fourth
  · intro _
    exact (portPath_read first).markSecure
  · intro _
    exact path_read second
  · intro _
    exact port_read third
  · intro _
    exact host_read fourth
  · intro failed
    cases failed

lemma ReadBack.spelled (back : url.ReadBack) {port : Option ℤ} (own : ∀ p ∈ port, p = url.port)
    (text : cString address = compose url.type url.host port url.path) :
    Spelled address url.type url.host port url.path where
  text := text
  type_some := back.type_some
  type_field := back.type_field
  host_some := back.host_some
  host_field := back.host_field
  port_int := by
    intro p is
    rw [own p is]
    exact back.port_int
  path_length := back.path_length
  path_word := back.path_word

/-- Of an accepted URL the fields are a faithful copy exactly if the URL is regular. -/
theorem parse_faithful_iff (url : UrlAddress) (address : Bytes)
    (accepted : (parseUrlAddress url address).2 = .ok 0) :
    Faithful address (parseUrlAddress url address).1 ↔ Regular address url.isSsl := by
  have back := accepted_readBack accepted
  constructor
  · intro faithful
    obtain ⟨r, result⟩ : ∃ r, parseUrlAddress url address = r := ⟨_, rfl⟩
    rw [result] at faithful back
    have type_length := faithful.type_fits
    have host_length := faithful.host_fits
    have regular : ∀ port, (∀ p ∈ port, p = r.1.port) →
        cString address = compose r.1.type r.1.host port r.1.path → Regular address url.isSsl := by
      intro port own text
      have spelled := back.spelled own text
      refine ⟨_, _, _, _, spelled, by unfold TypeSize at type_length; omega,
        by unfold HostSize at host_length; omega, ?_⟩
      have flag := faithful.flag
      rw [← result, parse_spelled spelled back.type_length back.host_length] at flag
      dsimp only at flag
      split_ifs with portOnly
      · rw [portOnly.1, portOnly.2] at flag
        simpa using flag
      · intro set
        rw [set, Bool.true_or] at flag
        exact flag.symm
    rcases faithful.recomposes with text | ⟨text, -⟩
    · exact regular _ (fun p is => (Option.mem_some_iff.mp is).symm) text
    · exact regular _ (fun p is => absurd is (Option.not_mem_none p)) text
  · rintro ⟨type, host, port, path, spelled, type_length, host_length, flag⟩
    rw [parse_spelled spelled type_length.le host_length.le]
    have path_length := spelled.path_length
    have flagged : (url.isSsl || (secure type && !(port.isSome && path.isEmpty))) =
        secure type := by
      split_ifs at flag with portOnly
      · simp [portOnly.1, portOnly.2, flag]
      · have noPortOnly : (port.isSome && path.isEmpty) = false := by
          rw [Bool.eq_false_iff]
          intro both
          rw [Bool.and_eq_true, List.isEmpty_iff] at both
          exact portOnly both
        rw [noPortOnly, Bool.not_false, Bool.and_true]
        cases set : url.isSsl with
        | false => rfl
        | true => rw [flag set, Bool.or_true]
    refine ⟨?_, flagged, type_length, host_length,
      le_trans (Nat.succ_le_succ path_length) (by decide)⟩
    cases port with
    | none => exact .inr ⟨spelled.text, by simp only [flagged]; rfl⟩
    | some p => exact .inl spelled.text

/-- The parts of `wss://h/p`, for a destination that was cleared. -/
theorem parse_faithful_iff_path :
    Faithful (ascii "wss://h/p") (parseUrlAddress {} (ascii "wss://h/p")).1 ↔
      Regular (ascii "wss://h/p") false :=
  parse_faithful_iff {} (ascii "wss://h/p") (by decide)

/-- A secure URL with a port and no path is not marked as secure. -/
theorem port_without_path_insecure :
    (parseUrlAddress {} (ascii "wss://h:8080")).2 = .ok 0 ∧
      ¬ Faithful (ascii "wss://h:8080") (parseUrlAddress {} (ascii "wss://h:8080")).1 := by
  have is : parseUrlAddress {} (ascii "wss://h:8080") =
      (⟨ascii "h", 8080, ascii "wss", [], false, .nls⟩, .ok 0) := by decide
  rw [is]
  refine ⟨rfl, ?_⟩
  intro faithful
  exact absurd faithful.flag (by decide)

/-- A type of ten characters is accepted and leaves no room for its terminator. -/
theorem long_type_accepted :
    (parseUrlAddress {} (ascii "abcdefghij://h")).2 = .ok 0 ∧
      ¬ Faithful (ascii "abcdefghij://h") (parseUrlAddress {} (ascii "abcdefghij://h")).1 := by
  have is : parseUrlAddress {} (ascii "abcdefghij://h") =
      (⟨ascii "h", 80, ascii "abcdefghij", [], false, .nls⟩, .ok 0) := by decide
  rw [is]
  refine ⟨rfl, ?_⟩
  intro faithful
  exact absurd faithful.type_fits (by decide)

end Accepted

end UrlAddress

end NlsSdk.Transport
