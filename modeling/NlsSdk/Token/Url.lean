import NlsSdk.Library.Scanf
import NlsSdk.Token.HttpMessage
import NlsSdk.Transport.UpgradeResponse

/-!
# Addresses of the token library

`Url`: the parts of an address, read from a text and printed again. `fromString_toString_iff` says
when the printed text of an address that was read is read as the same address.
-/
namespace NlsSdk.Common

open NlsSdk.Transport
open NlsSdk.Transport.UpgradeResponse (find_eq_none)
open NlsSdk.Token (lowerByte)
open NlsSdk.Library.Scanf (intDecimal natDecimal)

def invalidPort : ℤ := -1

structure Url where
  scheme : Bytes := []
  userName : Bytes := []
  password : Bytes := []
  host : Bytes := []
  path : Bytes := []
  port : ℤ := invalidPort
  query : Bytes := []
  fragment : Bytes := []
  deriving DecidableEq

/-- What stands in front of the first separator, and what behind it. -/
def cut (sep str : Bytes) : Bytes × Option Bytes :=
  match find sep str with
  | none => (str, none)
  | some pos => (str.take pos, some (str.drop (pos + sep.length)))

namespace Url

def setScheme (url : Url) (scheme : Bytes) : Url := { url with scheme := scheme.map lowerByte }

def setHost (url : Url) (host : Bytes) : Url := { url with host := host.map lowerByte }

def setPort (url : Url) (port : ℤ) : Url := { url with port := port }

/-- Without a colon the password stays as it is. -/
def setUserInfo (url : Url) (userInfo : Bytes) : Url :=
  if userInfo = [] then { url with userName := [], password := [] }
  else match cut [58] userInfo with
    | (name, none) => { url with userName := name }
    | (name, some password) => { url with userName := name, password := password }

/-- The user info ends at the first `@`. -/
def cutUserInfo (authority : Bytes) : Bytes × Bytes :=
  match cut [64] authority with
  | (_, none) => ([], authority)
  | (userInfo, some str) => (userInfo, str)

/-- An empty port is none. -/
def portOf (port : Bytes) : ℤ := if port ≠ [] then atoi port else invalidPort

def setAuthority (url : Url) (authority : Bytes) : Url :=
  if authority = [] then ((url.setUserInfo []).setHost []).setPort invalidPort
  else
    let (userInfo, str) := cutUserInfo authority
    let (host, port) := cut [58] str
    ((url.setUserInfo userInfo).setHost host).setPort (portOf (port.getD []))

def cutScheme (url : Bytes) : Bytes × Bytes :=
  match cut (ascii "://") url with
  | (_, none) => ([], url)
  | (scheme, some str) => (scheme, str)

/-- The path begins with its slash; without one it is `/`. -/
def cutPath (str : Bytes) : Bytes × Bytes :=
  match find [47] str with
  | none => (str, [47])
  | some pos => (str.take pos, str.drop pos)

def fromString (url : Bytes) : Url :=
  if url = [] then {}
  else
    let (scheme, str) := cutScheme url
    let (str, fragment) := cut [35] str
    let (str, query) := cut [63] str
    let (authority, path) := cutPath str
    { ((({} : Url).setScheme scheme).setAuthority authority) with
      path := path
      query := query.getD []
      fragment := fragment.getD [] }

def isEmpty (url : Url) : Bool :=
  url.scheme = [] ∧ url.userName = [] ∧ url.password = [] ∧ url.host = [] ∧ url.path = [] ∧
    url.port = invalidPort ∧ url.query = [] ∧ url.fragment = []

def isValid (url : Url) : Bool :=
  if url.isEmpty then false
  else if url.host = [] then false
  else if url.userName = [] then url.password = []
  else true

def userInfo (url : Url) : Bytes :=
  if url.isValid then
    url.userName ++ if url.password ≠ [] then 58 :: url.password else []
  else []

def authority (url : Url) : Bytes :=
  if url.isValid then
    (if url.userInfo ≠ [] then url.userInfo ++ [64] else []) ++ url.host ++
      if url.port ≠ invalidPort then 58 :: intDecimal url.port else []
  else []

def toString (url : Url) : Bytes :=
  if url.isValid then
    (if url.scheme ≠ [] then url.scheme ++ ascii "://" else []) ++ url.authority ++
      (if url.path = [] then [47] else url.path) ++
      (if url.query ≠ [] then 63 :: url.query else []) ++
      if url.fragment ≠ [] then 35 :: url.fragment else []
  else []

end Url

/-! ## Cutting -/

lemma find_byte_absent {b : UInt8} {str : Bytes} (absent : b ∉ str) : find [b] str = none := by
  rw [find_eq_none]
  intro inside
  exact absent (inside.subset (List.mem_singleton_self b))

lemma find_byte {b : UInt8} {front : Bytes} (absent : b ∉ front) (rest : Bytes) :
    find [b] (front ++ b :: rest) = some front.length := by
  obtain ⟨i, found, early⟩ := find_le front [b] rest
  have there := @find_getElem? _ _ _ found 0 Nat.one_pos
  obtain before | rfl := early.lt_or_eq
  · rw [Nat.add_zero, List.getElem?_append_left before] at there
    exact absurd (List.mem_of_getElem? there) absent
  · exact found

lemma cut_absent {b : UInt8} {str : Bytes} (absent : b ∉ str) : cut [b] str = (str, none) := by
  rw [cut, find_byte_absent absent]

lemma cut_byte {b : UInt8} {front : Bytes} (absent : b ∉ front) (rest : Bytes) :
    cut [b] (front ++ b :: rest) = (front, some rest) := by
  rw [cut, find_byte absent]
  dsimp only
  rw [List.take_left, List.length_singleton, ← List.drop_drop, List.drop_left, List.drop_one,
    List.tail_cons]

/-- A text is what it is cut into. -/
lemma cut_cases (b : UInt8) (str : Bytes) :
    (b ∉ str ∧ cut [b] str = (str, none)) ∨
      ∃ front rest, b ∉ front ∧ str = front ++ b :: rest ∧ cut [b] str = (front, some rest) := by
  by_cases inside : b ∈ str
  · obtain ⟨front, rest, rfl, absent⟩ := List.eq_append_cons_of_mem inside
    exact .inr ⟨front, rest, absent, rfl, cut_byte absent rest⟩
  · exact .inl ⟨inside, cut_absent inside⟩

/-- What is found stands there. -/
lemma find_split {pat str : Bytes} {pos : ℕ} (found : find pat str = some pos) :
    ∃ rest, str = str.take pos ++ (pat ++ rest) := by
  induction str generalizing pos with
  | nil =>
    have short := find_length found
    have none : pat = [] := List.length_eq_zero_iff.mp (by rw [List.length_nil] at short; omega)
    exact ⟨[], by simp [none]⟩
  | cons b str ih =>
    rw [find] at found
    split at found
    · rename_i here
      cases found
      obtain ⟨rest, is⟩ := List.isPrefixOf_iff_prefix.mp here
      exact ⟨rest, is.symm⟩
    · obtain ⟨k, later, rfl⟩ := Option.map_eq_some_iff.mp found
      obtain ⟨rest, is⟩ := ih later
      refine ⟨rest, ?_⟩
      rw [List.take_succ_cons, List.cons_append, ← is]

/-- The front up to what is found says where. -/
lemma find_front {pat str : Bytes} {pos : ℕ} (found : find pat str = some pos) :
    find pat (str.take pos ++ pat) = some pos := by
  obtain ⟨rest, is⟩ := find_split found
  have length : (str.take pos).length = pos := by
    have short := find_length found
    rw [List.length_take]
    omega
  obtain ⟨i, first, early⟩ := find_le (str.take pos) pat []
  rw [List.append_nil] at first
  have same := find_append first rest
  rw [List.append_assoc, ← is, found] at same
  rw [first, same]

/-- A scheme ends at its first separator, whatever follows. -/
lemma cut_scheme {scheme : Bytes}
    (ends : find (ascii "://") (scheme ++ ascii "://") = some scheme.length) (rest : Bytes) :
    cut (ascii "://") (scheme ++ ascii "://" ++ rest) = (scheme, some rest) := by
  rw [cut, find_append ends rest]
  dsimp only
  rw [List.append_assoc, List.take_left, ← List.drop_drop, List.drop_left, List.drop_left]

lemma cut_printed {b : UInt8} {front : Bytes} (absent : b ∉ front) (rest : Bytes) :
    (cut [b] (front ++ if rest ≠ [] then b :: rest else [])).1 = front ∧
      (cut [b] (front ++ if rest ≠ [] then b :: rest else [])).2.getD [] = rest := by
  by_cases some_ : rest ≠ []
  · rw [if_pos some_, cut_byte absent]
    exact ⟨rfl, rfl⟩
  · rw [if_neg some_, List.append_nil, cut_absent absent]
    exact ⟨rfl, (not_not.mp some_).symm⟩

/-! ## Printed numbers -/

lemma digits_natDecimal (n : ℕ) : digits (natDecimal n) = n := by
  have all : (natDecimal n).takeWhile isDigit = natDecimal n :=
    List.takeWhile_eq_self_iff.mpr (Library.Scanf.natDecimal_digits n)
  unfold digits
  rw [all]
  exact Library.Scanf.value_natDecimal n

/-- A digit is neither a blank nor a sign. -/
lemma isDigit_plain {b : UInt8} (digit : Library.Scanf.isDigit b = true) :
    isSpace b = false ∧ b ≠ 45 ∧ b ≠ 43 ∧ b ≠ 64 ∧ b ∉ ([47, 63, 35] : Bytes) := by
  unfold Library.Scanf.isDigit at digit
  rw [Bool.and_eq_true, decide_eq_true_eq, decide_eq_true_eq, UInt8.le_iff_toNat_le,
    UInt8.le_iff_toNat_le] at digit
  have low : 48 ≤ b.toNat := digit.1
  have high : b.toNat ≤ 57 := digit.2
  have is : b = UInt8.ofNat b.toNat := UInt8.ofNat_toNat.symm
  generalize b.toNat = k at is low high
  subst is
  interval_cases k <;> decide

lemma atoi_of_plain {b : UInt8} {bs : Bytes} (blank : isSpace b = false) (minus : b ≠ 45)
    (plus : b ≠ 43) : atoi (b :: bs) = toInt (digits (b :: bs)) := by
  have start : (b :: bs).dropWhile isSpace = b :: bs := by
    rw [List.dropWhile_cons, blank]
    rfl
  unfold atoi
  rw [start]
  split
  · rename_i is
    exact absurd (List.cons.inj is).1 minus
  · rename_i is
    exact absurd (List.cons.inj is).1 plus
  · rfl

lemma atoi_intDecimal {n : ℤ} (range : -2 ^ 31 ≤ n ∧ n < 2 ^ 31) : atoi (intDecimal n) = n := by
  have value := digits_natDecimal n.natAbs
  unfold intDecimal
  split
  · change toInt (-(digits (natDecimal n.natAbs) : ℤ)) = n
    rw [value, toInt_eq (by omega) (by omega)]
    omega
  · obtain ⟨b, bs, is⟩ := List.exists_cons_of_ne_nil
      (Library.Scanf.natDecimal_ne_nil n.natAbs)
    have digit := Library.Scanf.natDecimal_digits n.natAbs b (by rw [is]; exact List.mem_cons_self)
    obtain ⟨blank, minus, plus, -⟩ := isDigit_plain digit
    rw [is, atoi_of_plain blank minus plus, ← is, value, toInt_eq (by omega) (by omega)]
    omega

lemma intDecimal_free (n : ℤ) : List.Disjoint [64, 47, 63, 35] (intDecimal n) := by
  have free : List.Disjoint [64, 47, 63, 35] (natDecimal n.natAbs) := by
    intro c mark inside
    obtain ⟨-, -, -, at_, others⟩ :=
      isDigit_plain (Library.Scanf.natDecimal_digits n.natAbs c inside)
    obtain rfl | other := List.mem_cons.mp mark
    · exact at_ rfl
    · exact others other
  unfold intDecimal
  split
  · exact List.disjoint_cons_right.mpr ⟨by decide, free⟩
  · exact free

lemma intDecimal_ne_nil (n : ℤ) : intDecimal n ≠ [] := by
  unfold intDecimal
  split
  · exact List.cons_ne_nil _ _
  · exact Library.Scanf.natDecimal_ne_nil _

/-! ## Lower case -/

lemma lowerByte_toNat (b : UInt8) : (lowerByte b).toNat =
    if 65 ≤ b.toNat ∧ b.toNat ≤ 90 then b.toNat + 32 else b.toNat := by
  have bounds : (65 ≤ b ∧ b ≤ 90) ↔ 65 ≤ b.toNat ∧ b.toNat ≤ 90 := by
    rw [UInt8.le_iff_toNat_le, UInt8.le_iff_toNat_le]
    rfl
  unfold lowerByte
  by_cases upper : 65 ≤ b ∧ b ≤ 90
  · have small := (bounds.mp upper).2
    rw [if_pos upper, if_pos (bounds.mp upper), UInt8.toNat_add]
    exact Nat.mod_eq_of_lt (by simp; omega)
  · rw [if_neg upper, if_neg (bounds.not.mp upper)]

lemma lowerByte_idem (b : UInt8) : lowerByte (lowerByte b) = lowerByte b := by
  rw [← UInt8.toNat_inj, lowerByte_toNat, lowerByte_toNat]
  split_ifs <;> omega

lemma map_lowerByte_idem (str : Bytes) :
    (str.map lowerByte).map lowerByte = str.map lowerByte := by
  rw [List.map_map]
  exact List.map_congr_left fun b _ => lowerByte_idem b

/-- Only letters change. -/
lemma lowerByte_mark {b c : UInt8} (mark : c.toNat < 65) : lowerByte b = c ↔ b = c := by
  rw [← UInt8.toNat_inj, ← UInt8.toNat_inj, lowerByte_toNat]
  split_ifs
  · omega
  · exact Iff.rfl

lemma mem_map_lowerByte {c : UInt8} (mark : c.toNat < 65) (str : Bytes) :
    c ∈ str.map lowerByte ↔ c ∈ str := by
  simp only [List.mem_map, lowerByte_mark mark, exists_eq_right]

lemma isPrefixOf_map_lowerByte {pat : Bytes} (marks : ∀ c ∈ pat, c.toNat < 65) (str : Bytes) :
    pat.isPrefixOf (str.map lowerByte) = pat.isPrefixOf str := by
  induction pat generalizing str with
  | nil => rw [List.isPrefixOf_nil_left, List.isPrefixOf_nil_left]
  | cons c pat ih =>
    cases str with
    | nil => rfl
    | cons b str =>
      have same : (c == lowerByte b) = (c == b) := by
        have mark := lowerByte_mark (b := b) (marks c List.mem_cons_self)
        rw [Bool.eq_iff_iff, beq_iff_eq, beq_iff_eq, eq_comm, mark, eq_comm]
      rw [List.map_cons, List.isPrefixOf_cons_cons, List.isPrefixOf_cons_cons, same,
        ih fun d there => marks d (List.mem_cons_of_mem c there)]

lemma find_map_lowerByte {pat : Bytes} (marks : ∀ c ∈ pat, c.toNat < 65) (str : Bytes) :
    find pat (str.map lowerByte) = find pat str := by
  induction str with
  | nil => rfl
  | cons b str ih =>
    have same := isPrefixOf_map_lowerByte marks (b :: str)
    rw [List.map_cons] at same
    rw [List.map_cons, find, find, same, ih]

/-! ## What is read -/

namespace Url

/-- What an authority that was read does not hold. -/
structure AuthorityParsed (u : Url) : Prop where
  userName : List.Disjoint [64, 58, 47, 63, 35] u.userName
  password : List.Disjoint [64, 47, 63, 35] u.password
  host : List.Disjoint [58, 47, 63, 35] u.host
  hostLower : u.host.map lowerByte = u.host
  port : -2 ^ 31 ≤ u.port ∧ u.port < 2 ^ 31

/-- What the parts of an address that was read do not hold. -/
structure Parsed (u : Url) : Prop extends AuthorityParsed u where
  scheme : find (ascii "://") (u.scheme ++ ascii "://") = some u.scheme.length
  schemeLower : u.scheme.map lowerByte = u.scheme
  path : ∃ rest, u.path = 47 :: rest
  pathFree : List.Disjoint [63, 35] u.path
  query : 35 ∉ u.query

lemma disjoint_map_lowerByte {marks str : Bytes} (low : ∀ c ∈ marks, c.toNat < 65)
    (free : List.Disjoint marks str) : List.Disjoint marks (str.map lowerByte) := by
  intro c mark inside
  exact free mark ((mem_map_lowerByte (low c mark) str).mp inside)

lemma setHost_setPort_parsed {u : Url} {host : Bytes} {port : ℤ}
    (userName : List.Disjoint [64, 58, 47, 63, 35] u.userName)
    (password : List.Disjoint [64, 47, 63, 35] u.password)
    (host' : List.Disjoint [58, 47, 63, 35] host) (port' : -2 ^ 31 ≤ port ∧ port < 2 ^ 31) :
    AuthorityParsed ((u.setHost host).setPort port) where
  userName := userName
  password := password
  host := disjoint_map_lowerByte (by simp) host'
  hostLower := map_lowerByte_idem host
  port := port'

/-- A name has no colon, and a password anything that the user info has. -/
lemma setUserInfo_free {u : Url} (clear : u.userName = [] ∧ u.password = []) {userInfo : Bytes}
    (free : List.Disjoint [64, 47, 63, 35] userInfo) :
    List.Disjoint [64, 58, 47, 63, 35] (u.setUserInfo userInfo).userName ∧
      List.Disjoint [64, 47, 63, 35] (u.setUserInfo userInfo).password := by
  unfold setUserInfo
  split
  · exact ⟨List.disjoint_nil_right _, List.disjoint_nil_right _⟩
  obtain ⟨absent, is⟩ | ⟨name, password, absent, rfl, is⟩ := cut_cases 58 userInfo
  · rw [is]
    simp only [List.disjoint_cons_left] at free ⊢
    refine ⟨⟨free.1, absent, free.2⟩, ?_⟩
    rw [clear.2]
    simp
  · rw [is]
    have front : name ⊆ name ++ 58 :: password := List.subset_append_left _ _
    have back : password ⊆ name ++ 58 :: password :=
      List.Subset.trans (List.subset_cons_self _ _) (List.subset_append_right _ _)
    have first := List.disjoint_of_subset_right front free
    refine ⟨?_, List.disjoint_of_subset_right back free⟩
    simp only [List.disjoint_cons_left] at first ⊢
    exact ⟨first.1, absent, first.2⟩

lemma cutUserInfo_cases (authority : Bytes) :
    (64 ∉ authority ∧ cutUserInfo authority = ([], authority)) ∨
      ∃ userInfo str, 64 ∉ userInfo ∧ authority = userInfo ++ 64 :: str ∧
        cutUserInfo authority = (userInfo, str) := by
  unfold cutUserInfo
  obtain ⟨absent, is⟩ | ⟨front, rest, absent, rfl, is⟩ := cut_cases 64 authority
  · rw [is]
    exact .inl ⟨absent, rfl⟩
  · rw [is]
    exact .inr ⟨front, rest, absent, rfl, rfl⟩

lemma portOf_range (port : Bytes) : -2 ^ 31 ≤ portOf port ∧ portOf port < 2 ^ 31 := by
  unfold portOf
  split
  · exact UpgradeResponse.atoi_range _
  · decide

lemma setAuthority_parsed {u : Url} (clear : u.userName = [] ∧ u.password = []) {authority : Bytes}
    (free : List.Disjoint [47, 63, 35] authority) : AuthorityParsed (u.setAuthority authority) := by
  have parts {userInfo str : Bytes} (user : List.Disjoint [64, 47, 63, 35] userInfo)
      (within : str ⊆ authority) : AuthorityParsed
        (((u.setUserInfo userInfo).setHost (cut [58] str).1).setPort
          (portOf ((cut [58] str).2.getD []))) := by
    obtain ⟨name, password⟩ := setUserInfo_free clear user
    refine setHost_setPort_parsed name password ?_ (portOf_range _)
    have free' := List.disjoint_of_subset_right within free
    obtain ⟨absent, is⟩ | ⟨front, rest, absent, rfl, is⟩ := cut_cases 58 str
    · rw [is]
      exact List.disjoint_cons_left.mpr ⟨absent, free'⟩
    · rw [is]
      exact List.disjoint_cons_left.mpr ⟨absent,
        List.disjoint_of_subset_right (List.subset_append_left _ _) free'⟩
  unfold setAuthority
  split
  · exact setHost_setPort_parsed (List.disjoint_nil_right _) (List.disjoint_nil_right _)
      (List.disjoint_nil_right _) (by decide)
  obtain ⟨-, is⟩ | ⟨userInfo, str, absent, rfl, is⟩ := cutUserInfo_cases authority
  · rw [is]
    exact parts (List.disjoint_nil_right _) (List.Subset.refl _)
  · rw [is]
    refine parts (List.disjoint_cons_left.mpr ⟨absent, ?_⟩) ?_
    · exact List.disjoint_of_subset_right (List.subset_append_left _ _) free
    · exact List.Subset.trans (List.subset_cons_self _ _) (List.subset_append_right _ _)

lemma setAuthority_scheme (u : Url) (authority : Bytes) :
    (u.setAuthority authority).scheme = u.scheme := by
  have user (userInfo : Bytes) : (u.setUserInfo userInfo).scheme = u.scheme := by
    unfold setUserInfo
    split
    · rfl
    split <;> rfl
  unfold setAuthority
  split
  · exact user []
  · exact user _

lemma cutScheme_parsed (url : Bytes) :
    find (ascii "://") ((cutScheme url).1.map lowerByte ++ ascii "://") =
      some ((cutScheme url).1.map lowerByte).length := by
  have low : ∀ c ∈ ascii "://", c.toNat < 65 := by simp [ascii]
  have mark : ascii "://" = (ascii "://").map lowerByte := by decide
  unfold cutScheme cut
  cases found : find (ascii "://") url with
  | none => rfl
  | some pos =>
    have front := find_front found
    have short := find_length found
    dsimp only
    nth_rewrite 2 [mark]
    rw [← List.map_append, find_map_lowerByte low, front, List.length_map, List.length_take,
      min_eq_left (by omega)]

lemma cutPath_parsed {str : Bytes} (free : List.Disjoint [63, 35] str) :
    (∃ rest, (cutPath str).2 = 47 :: rest) ∧ List.Disjoint [63, 35] (cutPath str).2 ∧
      List.Disjoint [47, 63, 35] (cutPath str).1 := by
  unfold cutPath
  by_cases inside : 47 ∈ str
  · obtain ⟨front, rest, rfl, absent⟩ := List.eq_append_cons_of_mem inside
    rw [find_byte absent]
    dsimp only
    rw [List.take_left, List.drop_left]
    refine ⟨⟨rest, rfl⟩, ?_, List.disjoint_cons_left.mpr ⟨absent, ?_⟩⟩
    · exact List.disjoint_of_subset_right (List.subset_append_right _ _) free
    · exact List.disjoint_of_subset_right (List.subset_append_left _ _) free
  · rw [find_byte_absent inside]
    refine ⟨⟨[], rfl⟩, ?_, List.disjoint_cons_left.mpr ⟨inside, free⟩⟩
    rw [List.disjoint_singleton]
    decide

/-- The front has no separator, and neither part anything new. -/
lemma cut_parts (b : UInt8) (str : Bytes) :
    b ∉ (cut [b] str).1 ∧ (cut [b] str).1 ⊆ str ∧ (cut [b] str).2.getD [] ⊆ str := by
  obtain ⟨absent, is⟩ | ⟨front, rest, absent, rfl, is⟩ := cut_cases b str
  · rw [is]
    exact ⟨absent, List.Subset.refl _, List.nil_subset _⟩
  · rw [is]
    exact ⟨absent, List.subset_append_left _ _,
      List.Subset.trans (List.subset_cons_self _ _) (List.subset_append_right _ _)⟩

theorem fromString_parsed {s : Bytes} (some_ : s ≠ []) : Parsed (fromString s) := by
  unfold fromString
  rw [if_neg some_]
  dsimp only
  obtain ⟨hash, -, -⟩ := cut_parts 35 (cutScheme s).2
  generalize (cut [35] (cutScheme s).2).1 = str at hash ⊢
  obtain ⟨mark, front, behind⟩ := cut_parts 63 str
  have free : List.Disjoint [63, 35] (cut [63] str).1 := by
    simp only [List.disjoint_cons_left]
    exact ⟨mark, fun inside => hash (front inside), List.disjoint_nil_left _⟩
  obtain ⟨path, pathFree, authority⟩ := cutPath_parsed free
  have parsed := @setAuthority_parsed (setScheme {} (cutScheme s).1) ⟨rfl, rfl⟩ _ authority
  have scheme := setAuthority_scheme (setScheme {} (cutScheme s).1) (cutPath (cut [63] str).1).1
  refine ⟨⟨parsed.userName, parsed.password, parsed.host, parsed.hostLower, parsed.port⟩,
    ?_, ?_, path, pathFree, fun inside => hash (behind inside)⟩
  · rw [scheme]
    exact cutScheme_parsed s
  · rw [scheme]
    exact map_lowerByte_idem _

/-! ## What is printed and read again -/

/-- The authority as `toString` prints it. -/
def authorityText (u : Url) : Bytes :=
  (if u.userInfo ≠ [] then u.userInfo ++ [64] else []) ++ u.host ++
    if u.port ≠ invalidPort then 58 :: intDecimal u.port else []

/-- What stands behind the scheme. -/
def restText (u : Url) : Bytes :=
  u.authorityText ++ u.path ++ (if u.query ≠ [] then 63 :: u.query else []) ++
    if u.fragment ≠ [] then 35 :: u.fragment else []

lemma toString_eq {u : Url} (parsed : Parsed u) (valid : u.isValid = true) :
    u.toString = (if u.scheme ≠ [] then u.scheme ++ ascii "://" else []) ++ u.restText := by
  obtain ⟨rest, path⟩ := parsed.path
  have slash : ¬u.path = [] := by simp [path]
  unfold toString restText authorityText authority
  rw [if_pos valid, if_pos valid, if_neg slash]
  simp only [List.append_assoc]

/-- The parts of a text behind its scheme. -/
lemma parts_restText {u : Url} (parsed : Parsed u)
    (free : List.Disjoint [47, 63, 35] u.authorityText) :
    (cut [35] u.restText).2.getD [] = u.fragment ∧
      (cut [63] (cut [35] u.restText).1).2.getD [] = u.query ∧
      cutPath (cut [63] (cut [35] u.restText).1).1 = (u.authorityText, u.path) := by
  obtain ⟨rest, path⟩ := parsed.path
  have pathFree := parsed.pathFree
  simp only [List.disjoint_cons_left] at free pathFree
  have mark : 63 ∉ u.authorityText ++ u.path := by
    rw [List.mem_append, not_or]
    exact ⟨free.2.1, pathFree.1⟩
  have hash : 35 ∉ u.authorityText ++ u.path ++ if u.query ≠ [] then 63 :: u.query else [] := by
    rw [List.mem_append, List.mem_append, not_or, not_or]
    refine ⟨⟨free.2.2.1, pathFree.2.1⟩, ?_⟩
    split
    · rw [List.mem_cons, not_or]
      exact ⟨by decide, parsed.query⟩
    · exact List.not_mem_nil
  obtain ⟨front, fragment⟩ := cut_printed hash u.fragment
  obtain ⟨front', query⟩ := cut_printed mark u.query
  refine ⟨fragment, ?_, ?_⟩
  · rw [restText, front, query]
  · rw [restText, front, front', cutPath, path, find_byte free.1]
    dsimp only
    rw [List.take_left, List.drop_left]

/-- What `userInfo` prints of a valid address. -/
def userText (u : Url) : Bytes :=
  u.userName ++ if u.password ≠ [] then 58 :: u.password else []

lemma isValid_iff (u : Url) : u.isValid = true ↔
    u.host ≠ [] ∧ (u.userName = [] → u.password = []) := by
  unfold isValid isEmpty
  by_cases host : u.host = []
  · simp [host]
  · by_cases name : u.userName = []
    · simp [host, name]
    · simp [host, name]

lemma setUserInfo_userText {u v : Url} (parsed : AuthorityParsed u)
    (valid : u.userName = [] → u.password = []) (clear : v.userName = [] ∧ v.password = []) :
    v.setUserInfo u.userText = { v with userName := u.userName, password := u.password } := by
  have colon : 58 ∉ u.userName := by
    have free := parsed.userName
    simp only [List.disjoint_cons_left] at free
    exact free.2.1
  unfold setUserInfo userText
  by_cases name : u.userName = []
  · rw [valid name, name]
    rfl
  · have some_ : ¬(u.userName ++ if u.password ≠ [] then 58 :: u.password else []) = [] := by
      simp [name]
    rw [if_neg some_]
    by_cases password : u.password ≠ []
    · rw [if_pos password, cut_byte colon]
    · rw [if_neg password, List.append_nil, cut_absent colon, not_not.mp password, ← clear.2]

lemma userInfo_eq {u : Url} (valid : u.isValid = true) : u.userInfo = u.userText := by
  unfold userInfo userText
  rw [if_pos valid]

lemma userText_eq_nil {u : Url} (valid : u.isValid = true) : u.userText = [] ↔ u.userName = [] := by
  have whole := ((isValid_iff u).mp valid).2
  unfold userText
  rw [List.append_eq_nil_iff]
  constructor
  · exact fun both => both.1
  · intro name
    refine ⟨name, ?_⟩
    rw [whole name]
    rfl

lemma userText_free {u : Url} (parsed : AuthorityParsed u) :
    List.Disjoint [64, 47, 63, 35] u.userText := by
  have name := parsed.userName
  have password := parsed.password
  simp only [List.disjoint_cons_left] at name password
  unfold userText
  simp only [List.disjoint_cons_left, List.mem_append, not_or]
  split
  · simp only [List.mem_cons, not_or]
    refine ⟨⟨name.1, by decide, password.1⟩, ⟨name.2.2.1, by decide, password.2.1⟩,
      ⟨name.2.2.2.1, by decide, password.2.2.1⟩, ⟨name.2.2.2.2.1, by decide, password.2.2.2.1⟩, ?_⟩
    exact List.disjoint_nil_left _
  · exact ⟨⟨name.1, List.not_mem_nil⟩, ⟨name.2.2.1, List.not_mem_nil⟩,
      ⟨name.2.2.2.1, List.not_mem_nil⟩, ⟨name.2.2.2.2.1, List.not_mem_nil⟩,
      List.disjoint_nil_left _⟩

/-- The port as it is printed, without its colon. -/
def portText (u : Url) : Bytes := if u.port ≠ invalidPort then intDecimal u.port else []

lemma portText_printed (u : Url) : (if u.port ≠ invalidPort then 58 :: intDecimal u.port else []) =
    if u.portText ≠ [] then 58 :: u.portText else [] := by
  unfold portText
  split
  · rw [if_pos (intDecimal_ne_nil _)]
  · rw [if_neg (not_not.mpr rfl)]

lemma portOf_portText {u : Url} (parsed : AuthorityParsed u) : portOf u.portText = u.port := by
  unfold portOf portText
  by_cases port : u.port ≠ invalidPort
  · rw [if_pos port, if_pos (intDecimal_ne_nil _), atoi_intDecimal parsed.port]
  · rw [if_neg port, if_neg (not_not.mpr rfl), not_not.mp port]

lemma portText_free (u : Url) : List.Disjoint [64, 47, 63, 35] u.portText := by
  unfold portText
  split
  · exact intDecimal_free _
  · exact List.disjoint_nil_right _

/-- The host and the port behind the user info. -/
def hostText (u : Url) : Bytes := u.host ++ if u.portText ≠ [] then 58 :: u.portText else []

lemma authorityText_eq {u : Url} (valid : u.isValid = true) :
    u.authorityText = if u.userName ≠ [] then u.userText ++ 64 :: u.hostText else u.hostText := by
  have name := userText_eq_nil valid
  unfold authorityText hostText
  rw [userInfo_eq valid, portText_printed, List.append_assoc]
  by_cases some_ : u.userName = []
  · rw [if_neg (not_not.mpr (name.mpr some_)), if_neg (not_not.mpr some_), List.nil_append]
  · rw [if_pos (name.not.mpr some_), if_pos some_, List.append_assoc, List.singleton_append]

lemma hostText_free {u : Url} (parsed : AuthorityParsed u) :
    List.Disjoint [47, 63, 35] u.hostText ∧ (64 ∈ u.hostText ↔ 64 ∈ u.host) := by
  have host := parsed.host
  have port := portText_free u
  simp only [List.disjoint_cons_left] at host port ⊢
  unfold hostText
  simp only [List.mem_append, not_or]
  split
  · simp only [List.mem_cons, not_or]
    refine ⟨⟨⟨host.2.1, by decide, port.2.1⟩, ⟨host.2.2.1, by decide, port.2.2.1⟩,
      ⟨host.2.2.2.1, by decide, port.2.2.2.1⟩, List.disjoint_nil_left _⟩, ?_⟩
    simp [port.1]
  · refine ⟨⟨⟨host.2.1, List.not_mem_nil⟩, ⟨host.2.2.1, List.not_mem_nil⟩,
      ⟨host.2.2.2.1, List.not_mem_nil⟩, List.disjoint_nil_left _⟩, ?_⟩
    simp

lemma authorityText_free {u : Url} (parsed : AuthorityParsed u) (valid : u.isValid = true) :
    List.Disjoint [47, 63, 35] u.authorityText := by
  have host := (hostText_free parsed).1
  have user := (List.disjoint_cons_left.mp (userText_free parsed)).2
  rw [authorityText_eq valid]
  split
  · exact List.disjoint_append_right.mpr ⟨user, List.disjoint_cons_right.mpr ⟨by decide, host⟩⟩
  · exact host

lemma setAuthority_authorityText {u v : Url} (parsed : AuthorityParsed u)
    (valid : u.isValid = true) (clear : v.userName = [] ∧ v.password = [])
    (single : u.userName = [] → 64 ∉ u.host) :
    v.setAuthority u.authorityText =
      { v with userName := u.userName, password := u.password, host := u.host, port := u.port } := by
  obtain ⟨some_, whole⟩ := (isValid_iff u).mp valid
  have host := hostText_free parsed
  have hostText : u.hostText ≠ [] := by
    unfold Url.hostText
    simp [some_]
  have parts : cutUserInfo u.authorityText = (u.userText, u.hostText) := by
    rw [authorityText_eq valid]
    unfold cutUserInfo
    by_cases name : u.userName ≠ []
    · have user := userText_free parsed
      simp only [List.disjoint_cons_left] at user
      rw [if_pos name, cut_byte user.1]
    · have none := not_not.mp name
      rw [if_neg name, cut_absent (host.2.not.mpr (single none)), (userText_eq_nil valid).mpr none]
  have nonempty : u.authorityText ≠ [] := by
    rw [authorityText_eq valid]
    split
    · simp
    · exact hostText
  have colon : 58 ∉ u.host := (List.disjoint_cons_left.mp parsed.host).1
  obtain ⟨front, port⟩ := cut_printed colon u.portText
  unfold setAuthority
  rw [if_neg nonempty, parts]
  dsimp only
  rw [Url.hostText, front, port, setUserInfo_userText parsed whole clear, portOf_portText parsed]
  simp only [setHost, setPort, parsed.hostLower]

lemma restText_ne_nil {u : Url} (parsed : Parsed u) : u.restText ≠ [] := by
  obtain ⟨rest, path⟩ := parsed.path
  unfold restText
  simp [path]

/-- The scheme of a printed address is found again, unless a separator further back is taken for
its end. -/
lemma cutScheme_toString {u : Url} (parsed : Parsed u) (valid : u.isValid = true)
    (named : u.scheme = [] → find (ascii "://") u.toString = none) :
    cutScheme u.toString = (u.scheme, u.restText) := by
  have text := toString_eq parsed valid
  by_cases scheme : u.scheme ≠ []
  · rw [if_pos scheme] at text
    rw [text, cutScheme, cut_scheme parsed.scheme]
  · have none := not_not.mp scheme
    rw [if_neg scheme, List.nil_append] at text
    have absent := named none
    rw [cutScheme, cut, absent, text, none]

theorem fromString_toString {u : Url} (parsed : Parsed u) (valid : u.isValid = true)
    (named : u.scheme = [] → find (ascii "://") u.toString = none)
    (single : u.userName = [] → 64 ∉ u.host) : fromString u.toString = u := by
  have nonempty : u.toString ≠ [] := by
    rw [toString_eq parsed valid]
    intro none
    exact restText_ne_nil parsed (List.append_eq_nil_iff.mp none).2
  have free := authorityText_free parsed.toAuthorityParsed valid
  obtain ⟨fragment, query, path⟩ := parts_restText parsed free
  have authority := setAuthority_authorityText (v := setScheme {} u.scheme)
    parsed.toAuthorityParsed valid ⟨rfl, rfl⟩ single
  unfold fromString
  rw [if_neg nonempty, cutScheme_toString parsed valid named]
  dsimp only
  rw [fragment, query, path]
  dsimp only
  rw [authority]
  simp only [setScheme, parsed.schemeLower]

lemma fromString_scheme {s : Bytes} (some_ : s ≠ []) :
    (fromString s).scheme = (cutScheme s).1.map lowerByte := by
  unfold fromString
  rw [if_neg some_]
  exact setAuthority_scheme _ _

/-- An address does not begin with a colon. -/
lemma restText_head {u : Url} (parsed : Parsed u) (valid : u.isValid = true) :
    ∃ b rest, u.restText = b :: rest ∧ b ≠ 58 := by
  have text := authorityText_eq valid
  have begins (part tail : Bytes) (some_ : part ≠ []) (free : 58 ∉ part)
      (is : u.authorityText = part ++ tail) : ∃ b rest, u.restText = b :: rest ∧ b ≠ 58 := by
    obtain ⟨b, bs, rfl⟩ := List.exists_cons_of_ne_nil some_
    refine ⟨b, bs ++ tail ++ u.path ++ (if u.query ≠ [] then 63 :: u.query else []) ++
      (if u.fragment ≠ [] then 35 :: u.fragment else []), ?_, ?_⟩
    · rw [restText, is]
      rfl
    · rintro rfl
      exact free List.mem_cons_self
  by_cases name : u.userName ≠ []
  · have free := parsed.userName
    simp only [List.disjoint_cons_left] at free
    rw [if_pos name, userText, List.append_assoc] at text
    exact begins _ _ name free.2.1 text
  · have free := parsed.host
    rw [if_neg name, hostText] at text
    exact begins _ _ ((isValid_iff u).mp valid).1 (List.disjoint_cons_left.mp free).1 text

/-- An address without a scheme is read with one if a separator stands in its text. -/
lemma named_of_fromString {u : Url} (parsed : Parsed u) (valid : u.isValid = true)
    (same : fromString u.toString = u) (none : u.scheme = []) :
    find (ascii "://") u.toString = Option.none := by
  have text := toString_eq parsed valid
  rw [if_neg (not_not.mpr none), List.nil_append] at text
  obtain ⟨b, rest, head, other⟩ := restText_head parsed valid
  have nonempty : u.toString ≠ [] := by simp [text, head]
  have scheme := fromString_scheme nonempty
  rw [same, none] at scheme
  cases found : find (ascii "://") u.toString with
  | none => rfl
  | some pos =>
    exfalso
    have front := List.map_eq_nil_iff.mp scheme.symm
    rw [cutScheme, cut, found] at front
    obtain rfl | empty := List.take_eq_nil_iff.mp front
    · have colon := @find_getElem? _ _ _ found 0 (by decide)
      rw [text, head] at colon
      exact other (Option.some.inj colon)
    · exact nonempty empty

lemma fromString_host {u : Url} (parsed : Parsed u) (valid : u.isValid = true)
    (named : u.scheme = [] → find (ascii "://") u.toString = none) :
    (fromString u.toString).host =
      (cut [58] (cutUserInfo u.authorityText).2).1.map lowerByte := by
  have nonempty : u.toString ≠ [] := by
    rw [toString_eq parsed valid]
    intro none
    exact restText_ne_nil parsed (List.append_eq_nil_iff.mp none).2
  have authority : u.authorityText ≠ [] := by
    have host := ((isValid_iff u).mp valid).1
    rw [authorityText_eq valid, hostText]
    split
    · simp
    · simp [host]
  obtain ⟨-, -, path⟩ := parts_restText parsed (authorityText_free parsed.toAuthorityParsed valid)
  unfold fromString
  rw [if_neg nonempty, cutScheme_toString parsed valid named]
  dsimp only
  rw [path]
  unfold setAuthority
  rw [if_neg authority]
  rfl

/-- A host with an `@` is read as a user and a shorter host. -/
lemma single_of_fromString {u : Url} (parsed : Parsed u) (valid : u.isValid = true)
    (named : u.scheme = [] → find (ascii "://") u.toString = none)
    (same : fromString u.toString = u) (none : u.userName = []) : 64 ∉ u.host := by
  intro inside
  obtain ⟨front, back, is, absent⟩ := List.eq_append_cons_of_mem inside
  have colon : 58 ∉ back := by
    intro there
    refine (List.disjoint_cons_left.mp parsed.host).1 ?_
    rw [is]
    exact List.mem_append_right _ (List.mem_cons_of_mem _ there)
  have authority : cutUserInfo u.authorityText =
      (front, back ++ if u.portText ≠ [] then 58 :: u.portText else []) := by
    rw [authorityText_eq valid, if_neg (not_not.mpr none), hostText, is, List.append_assoc,
      List.cons_append, cutUserInfo, cut_byte absent]
  have host := fromString_host parsed valid named
  rw [authority] at host
  dsimp only at host
  rw [(cut_printed colon u.portText).1, same, is] at host
  have length := congrArg List.length host
  rw [List.length_map, List.length_append, List.length_cons] at length
  omega

/-- The printed text of a valid address that was read is read as the same address, if and only if
no separator of a scheme stands in it without a scheme, and no `@` in the host without a user. -/
theorem fromString_toString_iff (s : Bytes) (valid : (fromString s).isValid = true) :
    fromString (fromString s).toString = fromString s ↔
      ((fromString s).scheme = [] → find (ascii "://") (fromString s).toString = none) ∧
        ((fromString s).userName = [] → 64 ∉ (fromString s).host) := by
  have some_ : s ≠ [] := by
    rintro rfl
    cases valid
  have parsed := fromString_parsed some_
  constructor
  · intro same
    have named := named_of_fromString parsed valid same
    exact ⟨named, single_of_fromString parsed valid named same⟩
  · rintro ⟨named, single⟩
    exact fromString_toString parsed valid named single

/-- An address with all its parts. -/
theorem fromString_toString_iff_whole :
    fromString (fromString (ascii "HTTP://me:pw@Nls:8080/a?b#c")).toString =
        fromString (ascii "HTTP://me:pw@Nls:8080/a?b#c") ↔
      ((fromString (ascii "HTTP://me:pw@Nls:8080/a?b#c")).scheme = [] →
        find (ascii "://") (fromString (ascii "HTTP://me:pw@Nls:8080/a?b#c")).toString = none) ∧
      ((fromString (ascii "HTTP://me:pw@Nls:8080/a?b#c")).userName = [] →
        64 ∉ (fromString (ascii "HTTP://me:pw@Nls:8080/a?b#c")).host) :=
  fromString_toString_iff _ (by decide +kernel)

end Url

end NlsSdk.Common
