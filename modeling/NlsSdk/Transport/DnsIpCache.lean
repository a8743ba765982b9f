import NlsSdk.Transport.RetryAddress
import NlsSdk.Transport.UrlParts

/-!
# The cache of addresses over its history

The cache of the work thread against the history of its calls: for every host a
list of the addresses set since the last clear, newest first. `urlWithAccess_iff`
says in which URLs the access parameters are seen.
-/
namespace NlsSdk.Transport

open NlsSdk.Library

namespace IpCache

/-- `getIpFromCache` with its `force` argument. -/
def getIp (cache : IpCache) (host : Bytes) (force : Bool) (rand : ℕ) : Bytes :=
  if urlWithAccess host then []
  else match cache host with
    | none => []
    | some ips =>
      if force && 0 < ips.ipList.length then (ips.ipList[rand % ips.ipList.length]?).getD []
      else if ips.sameIpCount < workThreshold then []
      else (ips.ipList[rand % ips.ipList.length]?).getD []

/-- The calls on the cache; only the first two change it. -/
inductive CacheStep
  | set (host ip : Bytes)
  | clear
  | get (host : Bytes) (force : Bool) (rand : ℕ)

def cacheStep (cache : IpCache) : CacheStep → IpCache
  | .set host ip => cache.setIpCache host ip
  | .clear => cleared
  | .get _ _ _ => cache

/-- The cache after a history. -/
def after (history : List CacheStep) : IpCache := run cacheStep cleared history

/-! ## The history of a host -/

/-- The addresses set for a host since the last clear, newest first, after one more call. -/
def noteSet (host : Bytes) (sets : List Bytes) : CacheStep → List Bytes
  | .set host' ip => if host' = host then ip :: sets else sets
  | .clear => []
  | .get _ _ _ => sets

def setsOf (host : Bytes) (history : List CacheStep) : List Bytes := run (noteSet host) [] history

/-- How often an address was set since one was new, newest first. -/
def sinceGain : List Bytes → ℕ
  | [] => 0
  | ip :: earlier => if earlier.contains ip then sinceGain earlier + 1 else 0

/-- The different addresses, in the order of their first sets. -/
def gained : List Bytes → List Bytes
  | [] => []
  | ip :: earlier => if earlier.contains ip then gained earlier else gained earlier ++ [ip]

/-- What the cache keeps of a history; its counter has 32 bits. -/
def entryOf (sets : List Bytes) : Option DnsIpCache :=
  if sets = [] then none else some ⟨gained sets, sinceGain sets % 2 ^ 32⟩

lemma mem_gained {ip : Bytes} {sets : List Bytes} : ip ∈ gained sets ↔ ip ∈ sets := by
  induction sets with
  | nil => rfl
  | cons newest earlier ih =>
    unfold gained
    split
    · next old =>
      rw [ih, List.mem_cons]
      exact ⟨.inr, fun is => is.elim (fun same => same ▸ List.contains_iff_mem.mp old) id⟩
    · rw [List.mem_append, List.mem_singleton, ih, List.mem_cons, or_comm]

lemma gained_nodup (sets : List Bytes) : (gained sets).Nodup := by
  induction sets with
  | nil => exact List.nodup_nil
  | cons newest earlier ih =>
    unfold gained
    split
    · exact ih
    · next new =>
      refine List.nodup_append.mpr ⟨ih, List.nodup_singleton _, ?_⟩
      rintro old there ip single rfl
      rw [List.mem_singleton.mp single] at there
      exact new (List.contains_iff_mem.mpr (mem_gained.mp there))

lemma gained_ne_nil {sets : List Bytes} (some : sets ≠ []) : gained sets ≠ [] := by
  obtain ⟨ip, earlier, rfl⟩ := List.exists_cons_of_ne_nil some
  exact List.ne_nil_of_mem (mem_gained.mpr List.mem_cons_self)

/-- One set does to the entry what it does to the history. -/
lemma setIpCache_entryOf {cache : IpCache} {host ip : Bytes} {sets : List Bytes}
    (is : cache host = entryOf sets) :
    cache.setIpCache host ip = Function.update cache host (entryOf (ip :: sets)) := by
  unfold setIpCache
  by_cases first : sets = []
  · subst first
    rw [is]
    rfl
  · rw [is, entryOf, if_neg first, entryOf, if_neg (List.cons_ne_nil ip sets)]
    simp only [if_neg (gained_ne_nil first), mem_gained, gained, sinceGain, List.contains_iff_mem]
    split
    · rw [Nat.mod_add_mod]
    · rfl

/-- After any history the cache is what it keeps of the history of every host. -/
theorem after_eq (history : List CacheStep) (host : Bytes) :
    after history host = entryOf (setsOf host history) := by
  induction history using List.reverseRecOn generalizing host with
  | nil => rfl
  | append_singleton history s ih =>
    rw [after, setsOf, run_append, run_append]
    change cacheStep (after history) s host = entryOf (noteSet host (setsOf host history) s)
    cases s with
    | set host' ip =>
      change (after history).setIpCache host' ip host = _
      rw [setIpCache_entryOf (ih host'), noteSet]
      split
      · next same =>
        subst same
        exact Function.update_self ..
      · next other =>
        rw [Function.update_of_ne (Ne.symm other)]
        exact ih host
    | clear => rfl
    | get _ _ _ => exact ih host

end IpCache

/-! ## Where a query is seen -/

section Query

open UrlAddress UrlParts

variable {address : Bytes}

/-- What a format reads of the path. -/
def shownPath (tail : Bytes) : Bytes :=
  ((tail.dropWhile Scanf.isSpace).take 255).takeWhile fun b => !Scanf.isSpace b

/-- A type of ten bytes at most, a host of 256 at most, perhaps a number, and a slash, with the
question mark in the 255 bytes that are read behind it. -/
def QueryShown (address : Bytes) : Prop :=
  ∃ type host rest tail, address = type ++ 58 :: 47 :: 47 :: (host ++ rest) ∧
    type ≠ [] ∧ type.length ≤ 10 ∧ (∀ b ∈ type, isField b = true) ∧
    host ≠ [] ∧ host.length ≤ 256 ∧ (∀ b ∈ host, isField b = true) ∧
    (rest = 47 :: tail ∨
      ∃ number n, rest = 58 :: number ∧ Scanf.readInt number = some (n, 47 :: tail)) ∧
    63 ∈ shownPath tail

/-- Either the formats find no host, or a type and a host in front. -/
lemma authority_cases (address : Bytes) :
    (∀ ds (s : UrlAddress), (Scanf.scan (authority ds) address s 0).2 ≤ 1) ∨
      ∃ type host rest, address = type ++ 58 :: 47 :: 47 :: (host ++ rest) ∧
        type ≠ [] ∧ type.length ≤ 10 ∧ (∀ b ∈ type, isField b = true) ∧
        host ≠ [] ∧ host.length ≤ 256 ∧ (∀ b ∈ host, isField b = true) ∧
        ∀ ds (s : UrlAddress), Scanf.scan (authority ds) address s 0 =
          Scanf.scan ds rest ((s.storeType type).storeHost host) 2 := by
  by_cases none : (address.take 10).takeWhile isField = []
  · refine .inl fun ds s => ?_
    rw [authority, Scanf.scan, if_pos none]
    exact zero_le_one
  obtain ⟨type, is⟩ : ∃ type, type = (address.take 10).takeWhile isField := ⟨_, rfl⟩
  have front : type <+: address :=
    is ▸ (List.takeWhile_prefix _).trans (List.take_prefix 10 address)
  have whole : type ++ address.drop type.length = address := List.prefix_iff_eq_append.mp front
  have type_length : type.length ≤ 10 :=
    is ▸ (List.takeWhile_prefix _).length_le.trans (List.length_take_le _ _)
  have type_field : ∀ b ∈ type, isField b = true := is ▸ fun b among => List.mem_takeWhile_imp among
  rw [← is] at none
  have start : ∀ ds (s : UrlAddress), Scanf.scan (authority ds) address s 0 =
      Scanf.scan (.literal 58 :: .literal 47 :: .literal 47 ::
        .scanset 256 isField storeHost :: ds) (address.drop type.length) (s.storeType type) 1 := by
    intro ds s
    rw [authority, Scanf.scan_scanset_some is.symm none]
  by_cases separated : ∃ rest, address.drop type.length = 58 :: 47 :: 47 :: rest
  swap
  · refine .inl fun ds s => ?_
    rw [start]
    by_contra more
    obtain ⟨rest, colon⟩ := Scanf.literal_read (Nat.lt_of_not_le more)
    rw [colon, Scanf.scan_literal] at more
    obtain ⟨rest, rfl⟩ := Scanf.literal_read (Nat.lt_of_not_le more)
    rw [Scanf.scan_literal] at more
    obtain ⟨rest, rfl⟩ := Scanf.literal_read (Nat.lt_of_not_le more)
    exact separated ⟨rest, colon⟩
  obtain ⟨rest, behind⟩ := separated
  rw [behind] at whole
  simp only [start, behind, Scanf.scan_literal]
  by_cases hostless : (rest.take 256).takeWhile isField = []
  · refine .inl fun ds s => ?_
    rw [Scanf.scan, if_pos hostless]
  obtain ⟨host, host_is⟩ : ∃ host, host = (rest.take 256).takeWhile isField := ⟨_, rfl⟩
  have host_front : host <+: rest :=
    host_is ▸ (List.takeWhile_prefix _).trans (List.take_prefix 256 rest)
  rw [← host_is] at hostless
  refine .inr ⟨type, host, rest.drop host.length, ?_, none, type_length, type_field, hostless, ?_,
    ?_, fun ds s => ?_⟩
  · rw [List.prefix_iff_eq_append.mp host_front, whole]
  · exact host_is ▸ (List.takeWhile_prefix _).length_le.trans (List.length_take_le _ _)
  · exact host_is ▸ fun b among => List.mem_takeWhile_imp among
  · exact Scanf.scan_scanset_some host_is.symm hostless

/-- Without a path no query is seen. -/
lemma no_path (first : ∀ s, (Scanf.scan portPathFormat (cString address) s 0).2 ≠ 4)
    (second : ∀ s, (Scanf.scan pathFormat (cString address) s 0).2 ≠ 3) :
    urlWithAccess address = false := by
  simp only [urlWithAccess, parseUrlAddress, if_neg (first _), if_neg (second _)]
  split
  · rfl
  split
  · simp
  · rfl

lemma query_of_portPath {s : UrlAddress}
    (is : Scanf.scan portPathFormat (cString address)
      { ({} : UrlAddress) with serviceProtocol := protocolOf (cString address) } 0 = (s, 4)) :
    urlWithAccess address = s.path.contains 63 := by
  simp only [urlWithAccess, parseUrlAddress, is, if_pos]
  unfold markSecure
  split <;> rfl

lemma query_of_path {path : Bytes} (update : UrlAddress → UrlAddress)
    (first : ∀ s, (Scanf.scan portPathFormat (cString address) s 0).2 ≠ 4)
    (second : ∀ s, Scanf.scan pathFormat (cString address) s 0 = ((update s).storePath path, 3)) :
    urlWithAccess address = path.contains 63 := by
  simp only [urlWithAccess, parseUrlAddress, if_neg (first _), second, if_pos]
  rw [defaultPort_path]
  rfl

/-- The path that is read behind a type and a host. -/
lemma parse_path_cases {type host rest : Bytes} (front : ∀ ds (s : UrlAddress),
      Scanf.scan (authority ds) (cString address) s 0 =
        Scanf.scan ds rest ((s.storeType type).storeHost host) 2) :
    urlWithAccess address = true ↔ ∃ tail, (rest = 47 :: tail ∨
      ∃ number n, rest = 58 :: number ∧ Scanf.readInt number = some (n, 47 :: tail)) ∧
        63 ∈ shownPath tail := by
  have unseen {P : Prop} (first : ∀ s, (Scanf.scan portPathFormat (cString address) s 0).2 ≠ 4)
      (second : ∀ s, (Scanf.scan pathFormat (cString address) s 0).2 ≠ 3) (not : ¬ P) :
      urlWithAccess address = true ↔ P := by
    rw [no_path first second]
    exact iff_of_false Bool.false_ne_true not
  by_cases slash : ∃ tail, rest = 47 :: tail
  · obtain ⟨tail, rfl⟩ := slash
    have first : ∀ s, (Scanf.scan portPathFormat (cString address) s 0).2 ≠ 4 := by
      intro s
      rw [portPathFormat, front, Scanf.scan_literal_other (by simp)]
      exact (by decide : 2 ≠ 4)
    by_cases blank : shownPath tail = []
    · refine unseen first (fun s => ?_) ?_
      · rw [pathFormat, front, Scanf.scan_literal, Scanf.scan_word_none blank]
        exact (by decide : 2 ≠ 3)
      · rintro ⟨tail', is | ⟨number, n, is, -⟩, within⟩
        · cases is
          rw [blank] at within
          exact List.not_mem_nil within
        · cases is
    · have second : ∀ s, Scanf.scan pathFormat (cString address) s 0 =
          (((s.storeType type).storeHost host).storePath (shownPath tail), 3) := by
        intro s
        rw [pathFormat, front, Scanf.scan_literal, Scanf.scan_word_some rfl blank, Scanf.scan]
        rfl
      rw [query_of_path (fun s => (s.storeType type).storeHost host) first second,
        List.contains_iff_mem]
      constructor
      · exact fun within => ⟨tail, .inl rfl, within⟩
      · rintro ⟨tail', is | ⟨number, n, is, -⟩, within⟩
        · cases is
          exact within
        · cases is
  have second : ∀ s, (Scanf.scan pathFormat (cString address) s 0).2 ≠ 3 := by
    intro s
    rw [pathFormat, front, Scanf.scan_literal_other fun is => slash (List.head?_eq_some_iff.mp is)]
    exact (by decide : 2 ≠ 3)
  by_cases colon : ∃ number n tail, rest = 58 :: number ∧
      Scanf.readInt number = some (n, 47 :: tail) ∧ shownPath tail ≠ []
  · obtain ⟨number, n, tail, rfl, read, some_⟩ := colon
    have first : ∀ s, Scanf.scan portPathFormat (cString address) s 0 =
        ((((s.storeType type).storeHost host).storePort n).storePath (shownPath tail), 4) := by
      intro s
      rw [portPathFormat, front, Scanf.scan_literal, Scanf.scan, read]
      simp only [Scanf.scan_literal]
      rw [Scanf.scan_word_some rfl some_, Scanf.scan]
      rfl
    rw [query_of_portPath (first _), List.contains_iff_mem]
    constructor
    · exact fun within => ⟨tail, .inr ⟨number, n, rfl, read⟩, within⟩
    · rintro ⟨tail', is | ⟨number', n', is, read'⟩, within⟩
      · cases is
      · cases is
        rw [read, Option.some.injEq, Prod.mk.injEq] at read'
        obtain ⟨-, same⟩ := read'
        cases same
        exact within
  · refine unseen (fun s full => ?_) second ?_
    · rw [portPathFormat, front] at full
      obtain ⟨number, rfl⟩ := Scanf.literal_read (lt_of_lt_of_eq (by norm_num) full.symm)
      rw [Scanf.scan_literal, Scanf.scan] at full
      cases read : Scanf.readInt number with
      | none =>
        rw [read] at full
        exact absurd full (by norm_num)
      | some value =>
        obtain ⟨n, behind⟩ := value
        rw [read] at full
        dsimp only at full
        obtain ⟨tail, rfl⟩ := Scanf.literal_read (lt_of_lt_of_eq (by norm_num) full.symm)
        refine colon ⟨number, n, tail, rfl, read, fun blank => ?_⟩
        rw [Scanf.scan_literal, Scanf.scan_word_none blank] at full
        exact absurd full (by norm_num)
    · rintro ⟨tail, is | ⟨number, n, is, read⟩, within⟩
      · exact slash ⟨tail, is⟩
      · exact colon ⟨number, n, tail, is, read, List.ne_nil_of_mem within⟩

/-- The access parameters of a URL are seen exactly in the part of the path that is read. -/
theorem urlWithAccess_iff (address : Bytes) :
    urlWithAccess address = true ↔ QueryShown (cString address) := by
  constructor
  · intro seen
    rcases authority_cases (cString address) with low | ⟨type, host, rest, text, type_some,
      type_length, type_field, host_some, host_length, host_field, front⟩
    · rw [urlWithAccess, Bool.and_eq_true, decide_eq_true_eq] at seen
      exact absurd seen.1 (parse_rejected low)
    · obtain ⟨tail, behind, within⟩ := (parse_path_cases front).mp seen
      exact ⟨type, host, rest, tail, text, type_some, type_length, type_field, host_some,
        host_length, host_field, behind, within⟩
  · rintro ⟨type, host, rest, tail, text, type_some, type_length, type_field, host_some,
      host_length, host_field, behind, within⟩
    refine (@parse_path_cases address type host rest fun ds s => ?_).mpr ⟨tail, behind, within⟩
    rw [text]
    refine scan_fields type_some type_field type_length host_some host_field host_length ?_
    intro b head
    rcases behind with rfl | ⟨number, n, rfl, -⟩ <;> cases head <;> rfl

end Query

namespace IpCache

/-! ## What the cache answers -/

lemma after_some {history : List CacheStep} {host : Bytes} {ips : DnsIpCache}
    (entry : after history host = some ips) :
    setsOf host history ≠ [] ∧ ips.ipList = gained (setsOf host history) ∧
      ips.sameIpCount = sinceGain (setsOf host history) % 2 ^ 32 := by
  rw [after_eq, entryOf] at entry
  split at entry
  · cases entry
  · next some_ =>
    cases entry
    exact ⟨some_, rfl, rfl⟩

/-- An address that is found is in the entry of the host, whose counter allows it. -/
lemma getIp_found {cache : IpCache} {host : Bytes} {force : Bool} {rand : ℕ}
    (found : cache.getIp host force rand ≠ []) :
    urlWithAccess host = false ∧ ∃ ips, cache host = some ips ∧
      cache.getIp host force rand ∈ ips.ipList ∧ (force = false → workThreshold ≤ ips.sameIpCount) := by
  have drawn {ips : DnsIpCache} (some_ : (ips.ipList[rand % ips.ipList.length]?).getD [] ≠ []) :
      (ips.ipList[rand % ips.ipList.length]?).getD [] ∈ ips.ipList := by
    cases is : ips.ipList[rand % ips.ipList.length]? with
    | none => exact absurd (by rw [is]; rfl) some_
    | some ip => exact List.mem_of_getElem? is
  unfold getIp at found ⊢
  by_cases access : urlWithAccess host = true
  · rw [if_pos access] at found
    exact absurd rfl found
  rw [if_neg access] at found ⊢
  refine ⟨Bool.eq_false_iff.mpr access, ?_⟩
  cases entry : cache host with
  | none =>
    rw [entry] at found
    exact absurd rfl found
  | some ips =>
    simp only [entry] at found ⊢
    refine ⟨ips, rfl, ?_⟩
    split at found
    · next forced =>
      rw [if_pos forced]
      refine ⟨drawn found, fun unforced => ?_⟩
      rw [unforced] at forced
      exact absurd forced Bool.false_ne_true
    · next unforced =>
      rw [if_neg unforced]
      split at found
      · exact absurd rfl found
      · next reached =>
        rw [if_neg reached]
        exact ⟨drawn found, fun _ => Nat.le_of_not_lt reached⟩

/-- With the force flag every address of an entry can be drawn. -/
lemma getIp_draws {cache : IpCache} {host ip : Bytes} {ips : DnsIpCache}
    (open_ : urlWithAccess host = false) (entry : cache host = some ips) (there : ip ∈ ips.ipList) :
    ∃ rand, cache.getIp host true rand = ip := by
  obtain ⟨index, within, is⟩ := List.getElem_of_mem there
  refine ⟨index, ?_⟩
  have some_ : 0 < ips.ipList.length := Nat.zero_lt_of_lt within
  simp only [getIp, open_, entry, if_neg Bool.false_ne_true]
  rw [if_pos (by simpa using some_), Nat.mod_eq_of_lt within, List.getElem?_eq_getElem within, is]
  rfl

/-- What is asked of the cache after a history. -/
structure Right (history : List CacheStep) : Prop where
  lists : ∀ host ips, after history host = some ips → ips.ipList ≠ [] ∧ ips.ipList.Nodup
  own : ∀ host force rand, (after history).getIp host force rand ≠ [] →
    (after history).getIp host force rand ∈ setsOf host history
  counted : ∀ host ips, after history host = some ips →
    ips.sameIpCount = sinceGain (setsOf host history)
  threshold : ∀ host rand, (after history).getIp host false rand ≠ [] →
    ∃ ips, after history host = some ips ∧ workThreshold ≤ ips.sameIpCount
  access : ∀ host force rand, 63 ∈ host → (after history).getIp host force rand = []

/-- The counter has not wrapped, and no address is set for a URL with a question mark that the
parser does not see. -/
structure Plain (history : List CacheStep) : Prop where
  short : ∀ host, sinceGain (setsOf host history) < 2 ^ 32
  shown : ∀ host, 63 ∈ host → ¬ QueryShown (cString host) → ∀ ip ∈ setsOf host history, ip = []

/-- Over every history, the cache is right exactly when the history is plain. -/
theorem history_right_iff (history : List CacheStep) : Right history ↔ Plain history := by
  constructor
  · intro right
    constructor
    · intro host
      by_cases none : setsOf host history = []
      · rw [none]
        exact Nat.two_pow_pos 32
      · have entry : after history host = some ⟨gained (setsOf host history),
            sinceGain (setsOf host history) % 2 ^ 32⟩ := by
          rw [after_eq, entryOf, if_neg none]
        have counted := right.counted host _ entry
        exact lt_of_eq_of_lt counted.symm (Nat.mod_lt _ (Nat.two_pow_pos 32))
    · intro host mark unseen ip there
      have open_ : urlWithAccess host = false :=
        Bool.eq_false_iff.mpr fun seen => unseen ((urlWithAccess_iff host).mp seen)
      have entry : after history host = some ⟨gained (setsOf host history),
          sinceGain (setsOf host history) % 2 ^ 32⟩ := by
        rw [after_eq, entryOf, if_neg (List.ne_nil_of_mem there)]
      obtain ⟨rand, is⟩ := getIp_draws open_ entry (mem_gained.mpr there)
      rw [← is]
      exact right.access host true rand mark
  · intro plain
    constructor
    · intro host ips entry
      obtain ⟨some_, list, -⟩ := after_some entry
      rw [list]
      exact ⟨gained_ne_nil some_, gained_nodup _⟩
    · intro host force rand found
      obtain ⟨-, ips, entry, there, -⟩ := getIp_found found
      rw [(after_some entry).2.1] at there
      exact mem_gained.mp there
    · intro host ips entry
      rw [(after_some entry).2.2, Nat.mod_eq_of_lt (plain.short host)]
    · intro host rand found
      obtain ⟨-, ips, entry, -, reached⟩ := getIp_found found
      exact ⟨ips, entry, reached rfl⟩
    · intro host force rand mark
      by_contra found
      obtain ⟨open_, ips, entry, there, -⟩ := getIp_found found
      rw [(after_some entry).2.1] at there
      have unseen : ¬ QueryShown (cString host) := fun shown => by
        rw [(urlWithAccess_iff host).mpr shown] at open_
        exact Bool.noConfusion open_
      exact found (plain.shown host mark unseen _ (mem_gained.mp there))

/-- A URL whose access parameters stand right behind the host. -/
def hostQuery : Bytes := ascii "wss://gateway?token=x"

theorem hostQuery_answered : ¬ Right [.set hostQuery (ascii "10.0.0.1")] := by
  intro right
  have none := right.access hostQuery true 0 (by decide)
  exact absurd none (by decide)

end IpCache

end NlsSdk.Transport
