import Mathlib.Data.List.TakeWhile
import NlsSdk.Transport.HandshakeBoundary

/-!
# The answer to the upgrade request in its memory

`responsePackage` is given a pointer and a length, and reads a C string at the
pointer. Here the memory behind the given bytes is part of the input, and the
verdict is compared with what the given bytes alone say.
-/
namespace NlsSdk.Transport

open Library

/-- `responsePackage(content, length)`, where `content` points to these bytes. -/
def WebSocketTcp.responsePackageAt (ws : WebSocketTcp) (content : Bytes) (length : ℕ) :
    WebSocketTcp × Except NlsRetCode ℤ :=
  let line := cString content
  -- `return length` makes an `int` of a `size_t`
  if find httpHeaderEndString line = none then (ws, .ok (Int.bmod length (2 ^ 32)))
  else
    let code := if ws.httpCode = 0 then getTargetLen line httpStatusCode httpStatusCodeEnd
      else ws.httpCode
    let ws := { ws with httpCode := code }
    if code = 0 then (ws, .error .httpGotBadStatus)
    else if code = 101 then (ws, .ok 0)
    else
      let httpLength := if ws.httpLength = 0 then
          getTargetLen line httpContentLength httpContentLengthEnd
        else ws.httpLength
      let ws := { ws with httpLength := httpLength }
      match find httpHeaderEndString line with
      | none => (ws, .error .wsResponsePackageFailed)
      | some position =>
        let body := position + httpHeaderEndString.length
        if httpLength = 0 then
          ({ ws with errorMsg := line }, .error .wsResponsePackageFailed)
        else if (httpLength : ℤ) = ((length : ℤ) - body) % 2 ^ 64 then
          ({ ws with errorMsg := line.drop body }, .error .wsResponsePackageFailed)
        else (ws, .error .wsResponsePackageFailed)

namespace UpgradeResponse

/-! ## What the given bytes say -/

/-- A header block ends in the bytes. -/
def Complete (given : Bytes) : Prop := httpHeaderEndString <:+: given

instance (given : Bytes) : Decidable (Complete given) :=
  inferInstanceAs (Decidable (httpHeaderEndString <:+: given))

/-- The status line is that of an HTTP/1.1 answer with the code 101. -/
def Switching (given : Bytes) : Prop :=
  ascii "HTTP/1.1 101 " <+: given ∨ ascii "HTTP/1.1 101" ++ [13, 10] <+: given

instance (given : Bytes) : Decidable (Switching given) := inferInstanceAs (Decidable (_ ∨ _))

inductive Verdict
  | success | more | failure
  deriving DecidableEq, Repr

/-- How the caller takes what it gets. -/
def verdict : Except NlsRetCode ℤ → Verdict
  | .ok k => if k = 0 then .success else if 0 < k then .more else .failure
  | .error _ => .failure

def expected (given : Bytes) : Verdict :=
  if ¬ Complete given then .more else if Switching given then .success else .failure

/-- What a call tells: what it returns, and the failure text on record. -/
def told (ws : WebSocketTcp) (given behind : Bytes) : Except NlsRetCode ℤ × Bytes :=
  ((ws.responsePackageAt (given ++ behind) given.length).2,
    (ws.responsePackageAt (given ++ behind) given.length).1.errorMsg)

/-- The verdict is the one the given bytes call for, and all that is told is what is told of the
given bytes with a zero behind them. -/
structure Right (ws : WebSocketTcp) (given behind : Bytes) : Prop where
  verdict_eq : verdict (told ws given behind).1 = expected given
  own : told ws given behind = told ws given [0]

/-! ## Numbers in a text -/

/-- Behind the first `first`; without one the place is one short of its length. -/
def place (first line : Bytes) : ℕ :=
  match find first line with
  | some seek => seek + first.length
  | none => first.length - 1

/-- A `last` follows the place, and the text cut out there spells the number. -/
def Reads (first last line : Bytes) (n : ℤ) : Prop :=
  ∃ position, findFrom last line (place first line) = some position ∧
    n = atoi (if position < first.length then line.drop (place first line)
      else (line.drop (place first line)).take (position - first.length))

/-- The number looked for as the status code. -/
def ReadsStatus : Bytes → ℤ → Prop := Reads httpStatusCode httpStatusCodeEnd

/-- The number looked for as the length of the body. -/
def ReadsLength : Bytes → ℤ → Prop := Reads httpContentLength httpContentLengthEnd

/-- A status code other than 101, and a length that is not that of the given rest. -/
def Mismatched (given line : Bytes) : Prop :=
  (∃ n, ReadsStatus line n ∧ n ≠ 0 ∧ n ≠ 101) ∧
    ∃ k, ReadsLength line k ∧ k ≠ 0 ∧ ∀ position, find httpHeaderEndString line = some position →
      k % 2 ^ 64 ≠ ((given.length : ℤ) - (position + 4)) % 2 ^ 64

def NoStatus (line : Bytes) : Prop := ∀ n, ReadsStatus line n → n = 0

/-- The C string says what the given bytes say: if a header block ends in it, the status line is
a 101 with a blank behind the version, or no 101 is read. -/
def Tells (given line : Bytes) : Prop :=
  if Complete line then
    if Switching given then 32 ∈ line.drop 9 else ¬ ReadsStatus line 101
  else verdict (.ok (Int.bmod given.length (2 ^ 32))) = expected given

/-- The given bytes are judged rightly whatever is behind them. -/
def Readable (given : Bytes) : Prop :=
  if 0 ∈ given then Tells given (cString given)
  else Complete given ∧
    if Switching given then 32 ∈ given.drop 9
    else (∀ tail, 0 ∉ tail → NoStatus (given ++ tail)) ∨
      ∀ tail, 0 ∉ tail → Mismatched given (given ++ tail)

/-! ## Successive calls -/

/-- A call: the given bytes, and the memory behind them. -/
abbrev Call := Bytes × Bytes

/-- The decoder behind a call, and what was given to it. -/
def next (s : WebSocketTcp × Bytes) (call : Call) : WebSocketTcp × Bytes :=
  ((s.1.responsePackageAt (call.1 ++ call.2) call.1.length).1, call.1)

/-- More of the answer, with the text in it ended by a zero no later than right behind it. -/
def Terminated (s : WebSocketTcp × Bytes) (call : Call) : Prop :=
  s.2 <+: call.1 ∧ cString (call.1 ++ call.2) = cString call.1 ∧ Tells call.1 (cString call.1)

section Search

variable {pat line first last given behind : Bytes} {n : ℤ}

lemma find_eq_none : find pat line = none ↔ ¬ pat <:+: line := by
  induction line with
  | nil =>
    rw [find, List.infix_nil]
    split_ifs with empty
    · simp [empty]
    · simp [empty]
  | cons b line ih =>
    rw [find, List.infix_cons_iff, ← List.isPrefixOf_iff_prefix]
    split_ifs with here
    · simp [here]
    · rw [Option.map_eq_none_iff, ih]
      simp [here]

lemma complete_iff : Complete line ↔ find httpHeaderEndString line ≠ none := by
  rw [Ne, find_eq_none, not_not, Complete]

lemma Complete.mono {longer : Bytes} (complete : Complete line) (part : line <+: longer) :
    Complete longer := complete.trans part.isInfix

lemma atoi_range (s : Bytes) : -2 ^ 31 ≤ atoi s ∧ atoi s < 2 ^ 31 := by
  unfold atoi
  split <;> exact toInt_range _

lemma getTargetLen_eq_elim (line first last : Bytes) :
    getTargetLen line first last =
      (findFrom last line (place first line)).elim 0 fun position =>
        (atoi (if position < first.length then line.drop (place first line)
          else (line.drop (place first line)).take (position - first.length)) % 2 ^ 64).toNat := by
  unfold getTargetLen place
  cases find first line with
  | none =>
    dsimp only
    cases findFrom last line (first.length - 1) <;> rfl
  | some seek =>
    dsimp only
    cases findFrom last line (seek + first.length) <;> rfl

lemma getTargetLen_of_reads (reads : Reads first last line n) :
    getTargetLen line first last = (n % 2 ^ 64).toNat := by
  obtain ⟨position, found, rfl⟩ := reads
  rw [getTargetLen_eq_elim, found]
  rfl

lemma getTargetLen_of_no_number (none_ : ∀ n, ¬ Reads first last line n) :
    getTargetLen line first last = 0 := by
  rw [getTargetLen_eq_elim]
  cases found : findFrom last line (place first line) with
  | none => rfl
  | some position => exact absurd ⟨position, found, rfl⟩ (none_ _)

lemma reads_range (reads : Reads first last line n) : -2 ^ 31 ≤ n ∧ n < 2 ^ 31 := by
  obtain ⟨position, -, rfl⟩ := reads
  exact atoi_range _

lemma reads_unique {m : ℤ} (reads : Reads first last line n) (other : Reads first last line m) :
    n = m := by
  obtain ⟨position, found, rfl⟩ := reads
  obtain ⟨position', found', rfl⟩ := other
  obtain rfl := Option.some.inj (found.symm.trans found')
  rfl

/-- A number that is not zero is what `getTargetLen` returns, as a `size_t`. -/
lemma getTargetLen_eq_iff {k : ℕ} (some_ : k ≠ 0) :
    getTargetLen line first last = k ↔ ∃ n, Reads first last line n ∧ n % 2 ^ 64 = k := by
  constructor
  · intro is
    by_cases number : ∃ n, Reads first last line n
    · obtain ⟨n, reads⟩ := number
      refine ⟨n, reads, ?_⟩
      rw [getTargetLen_of_reads reads] at is
      omega
    · rw [getTargetLen_of_no_number fun n reads => number ⟨n, reads⟩] at is
      exact absurd is.symm some_
  · rintro ⟨n, reads, is⟩
    rw [getTargetLen_of_reads reads, is]
    omega

lemma getTargetLen_eq_101 :
    getTargetLen line httpStatusCode httpStatusCodeEnd = 101 ↔ ReadsStatus line 101 := by
  rw [getTargetLen_eq_iff (by norm_num)]
  constructor
  · rintro ⟨n, reads, is⟩
    have range := reads_range reads
    have same : n = 101 := by omega
    rw [← same]
    exact reads
  · intro reads
    exact ⟨101, reads, by norm_num⟩

lemma getTargetLen_eq_zero :
    getTargetLen line first last = 0 ↔ ∀ n, Reads first last line n → n = 0 := by
  constructor
  · intro is n reads
    have range := reads_range reads
    rw [getTargetLen_of_reads reads] at is
    omega
  · intro zero
    by_cases number : ∃ n, Reads first last line n
    · obtain ⟨n, reads⟩ := number
      rw [getTargetLen_of_reads reads, zero n reads]
      rfl
    · exact getTargetLen_of_no_number fun n reads => number ⟨n, reads⟩

/-! ## The C string and the given bytes -/

/-- With a zero among the given bytes the memory behind them is not read; without one the C
string goes on behind them. -/
lemma cString_cases (given : Bytes) :
    (∀ behind, cString (given ++ behind) = cString given) ∨
      cString given = given ∧ ∀ behind, cString (given ++ behind) = given ++ cString behind := by
  by_cases zero : 0 ∈ given
  · obtain ⟨text, rest, rfl, free⟩ := List.eq_append_cons_of_mem zero
    have nonzero : ∀ b ∈ text, b ≠ 0 := by
      rintro b is rfl
      exact free is
    left
    intro behind
    rw [List.append_assoc, cString_append nonzero, cString_append nonzero]
    rfl
  · have nonzero : ∀ b ∈ given, b ≠ 0 := by
      rintro b is rfl
      exact zero is
    exact .inr ⟨cString_eq nonzero, fun behind => cString_append nonzero behind⟩

lemma cString_part (given behind : Bytes) : cString given <+: cString (given ++ behind) := by
  rcases cString_cases given with same | ⟨whole, longer⟩
  · rw [same]
  · rw [longer, whole]
    exact List.prefix_append _ _

lemma cString_terminated (given : Bytes) : cString (given ++ [0]) = cString given := by
  rcases cString_cases given with same | ⟨whole, longer⟩
  · exact same _
  · rw [longer, whole]
    exact List.append_nil _

lemma cString_given (given : Bytes) : cString given <+: given := List.takeWhile_prefix _

lemma cString_nonzero (given : Bytes) : 0 ∉ cString given := by
  intro zero
  have := List.mem_takeWhile_imp zero
  simp at this

/-! ## Status lines -/

lemma switching_cString (switching : Switching given) (behind : Bytes) :
    Switching (cString (given ++ behind)) := by
  have kept : ∀ status : Bytes, 0 ∉ status → status <+: given →
      status <+: cString (given ++ behind) := by
    rintro status none_ ⟨rest, rfl⟩
    rw [List.append_assoc, cString_append fun b is zero => none_ (zero ▸ is)]
    exact List.prefix_append _ _
  exact switching.imp (kept _ (by decide)) (kept _ (by decide))

lemma Switching.mono {longer : Bytes} (switching : Switching line) (part : line <+: longer) :
    Switching longer := switching.imp (·.trans part) (·.trans part)

/-- The status line of an answer does not change once its header block is complete. -/
lemma Complete.switching {longer : Bytes} (complete : Complete line) (part : line <+: longer)
    (switching : Switching longer) : Switching line := by
  have within : ∀ status : Bytes, ¬ Complete status → status <+: longer → status <+: line := by
    intro status short there
    rcases List.prefix_or_prefix_of_prefix part there with inside | here
    · exact absurd (complete.mono inside) short
    · exact here
  exact switching.imp (within _ (by decide)) (within _ (by decide))

lemma place_switching (switching : Switching line) : place httpStatusCode line = 9 := by
  have found : find httpStatusCode line = some 0 := by
    rcases switching with ⟨rest, rfl⟩ | ⟨rest, rfl⟩ <;> rfl
  rw [place, found]
  rfl

lemma space_of_reads (switching : Switching line) (reads : ReadsStatus line n) :
    32 ∈ line.drop 9 := by
  obtain ⟨position, found, -⟩ := reads
  rw [place_switching switching, findFrom, Option.map_eq_some_iff] at found
  obtain ⟨k, found, -⟩ := found
  by_contra none_
  have absent : find httpStatusCodeEnd (line.drop 9) = none := by
    rw [find_eq_none]
    intro inside
    exact none_ (inside.subset (by decide))
  rw [absent] at found
  cases found

lemma atoi_101 (rest : Bytes) : atoi (49 :: 48 :: 49 :: 13 :: rest) = 101 := by
  have number : digits (49 :: 48 :: 49 :: 13 :: rest) = 101 := by
    simp [digits, isDigit]
  change toInt (digits (49 :: 48 :: 49 :: 13 :: rest)) = 101
  rw [number]
  decide

/-- The code of a 101 is read if a blank follows the version at all. -/
lemma reads_switching (switching : Switching line) (space : 32 ∈ line.drop 9) :
    ReadsStatus line 101 := by
  obtain ⟨k, found⟩ : ∃ k, find httpStatusCodeEnd (line.drop 9) = some k := by
    rw [← Option.ne_none_iff_exists', Ne, find_eq_none, not_not]
    obtain ⟨front, rest, is⟩ := List.append_of_mem space
    exact ⟨front, rest, by rw [is]; simp [httpStatusCodeEnd, ascii]⟩
  refine ⟨k + 9, by rw [place_switching switching, findFrom, found]; rfl, ?_⟩
  have length : httpStatusCode.length = 9 := rfl
  rw [place_switching switching, length, if_neg (by omega), Nat.add_sub_cancel]
  rcases switching with ⟨rest, rfl⟩ | ⟨rest, rfl⟩
  · have three : k = 3 := Option.some.inj (found.symm.trans rfl)
    rw [three]
    exact (by decide : (101 : ℤ) = atoi (ascii "101"))
  · obtain ⟨m, -, rfl⟩ : ∃ m, find httpStatusCodeEnd rest = some m ∧ m + 5 = k := by
      have deep : find httpStatusCodeEnd ((ascii "HTTP/1.1 101" ++ [13, 10] ++ rest).drop 9) =
          (((((find httpStatusCodeEnd rest).map (· + 1)).map (· + 1)).map (· + 1)).map
            (· + 1)).map (· + 1) := rfl
      rw [deep] at found
      simp only [Option.map_map, Option.map_eq_some_iff] at found
      obtain ⟨m, inner, is⟩ := found
      exact ⟨m, inner, is⟩
    exact (atoi_101 (10 :: rest.take m)).symm

/-! ## The verdict -/

section Calls

variable {ws : WebSocketTcp}

/-- The status code a call goes by. -/
def codeOf (ws : WebSocketTcp) (line : Bytes) : ℕ :=
  if ws.httpCode = 0 then getTargetLen line httpStatusCode httpStatusCodeEnd else ws.httpCode

lemma response_incomplete (hidden : ¬ Complete (cString line)) (length : ℕ) :
    ws.responsePackageAt line length = (ws, .ok (Int.bmod length (2 ^ 32))) := by
  rw [complete_iff, not_not] at hidden
  rw [WebSocketTcp.responsePackageAt, if_pos hidden]

lemma response_bad (complete : Complete (cString line)) (zero : codeOf ws (cString line) = 0)
    (length : ℕ) : ws.responsePackageAt line length = (ws, .error .httpGotBadStatus) := by
  rw [complete_iff] at complete
  have kept : ws.httpCode = 0 := by
    by_contra some_
    rw [codeOf, if_neg some_] at zero
    exact some_ zero
  rw [codeOf] at zero
  rw [WebSocketTcp.responsePackageAt, if_neg complete]
  simp only [zero, if_true]
  rw [← kept]

lemma response_switching (complete : Complete (cString line))
    (code : codeOf ws (cString line) = 101) (length : ℕ) :
    ws.responsePackageAt line length = ({ ws with httpCode := 101 }, .ok 0) := by
  rw [complete_iff] at complete
  rw [codeOf] at code
  rw [WebSocketTcp.responsePackageAt, if_neg complete]
  simp [code]

/-- The length a refused answer is compared with. -/
def lengthOf (ws : WebSocketTcp) (line : Bytes) : ℕ :=
  if ws.httpLength = 0 then getTargetLen line httpContentLength httpContentLengthEnd
  else ws.httpLength

lemma response_refused {position : ℕ} (complete : find httpHeaderEndString (cString line) =
    some position) (some_ : codeOf ws (cString line) ≠ 0) (other : codeOf ws (cString line) ≠ 101)
    (length : ℕ) :
    ws.responsePackageAt line length =
      ({ ws with
          httpCode := codeOf ws (cString line)
          httpLength := lengthOf ws (cString line)
          errorMsg := if lengthOf ws (cString line) = 0 then cString line
            else if (lengthOf ws (cString line) : ℤ) = ((length : ℤ) - (position + 4)) % 2 ^ 64
            then (cString line).drop (position + 4) else ws.errorMsg },
        .error .wsResponsePackageFailed) := by
  have size : httpHeaderEndString.length = 4 := rfl
  unfold codeOf at some_ other ⊢
  unfold lengthOf
  rw [WebSocketTcp.responsePackageAt]
  simp only [complete, some_, other, if_false, reduceCtorEq, size]
  push_cast
  split_ifs <;> rfl

lemma codeOf_fresh (code : ws.httpCode = 0) (line : Bytes) :
    codeOf ws line = getTargetLen line httpStatusCode httpStatusCodeEnd := if_pos code

lemma codeOf_eq_101 (code : ws.httpCode = 0) : codeOf ws line = 101 ↔ ReadsStatus line 101 := by
  rw [codeOf_fresh code, getTargetLen_eq_101]

lemma codeOf_eq_zero (code : ws.httpCode = 0) : codeOf ws line = 0 ↔ NoStatus line := by
  rw [codeOf_fresh code, getTargetLen_eq_zero]
  rfl

/-- With a complete header block the verdict depends on the code only. -/
lemma verdict_complete (complete : Complete (cString line)) (length : ℕ) :
    verdict (ws.responsePackageAt line length).2 =
      if codeOf ws (cString line) = 101 then .success else .failure := by
  by_cases zero : codeOf ws (cString line) = 0
  · rw [response_bad complete zero, zero]
    rfl
  · by_cases code : codeOf ws (cString line) = 101
    · rw [response_switching complete code, if_pos code]
      rfl
    · obtain ⟨position, found⟩ := Option.ne_none_iff_exists'.mp (complete_iff.mp complete)
      rw [response_refused found zero code, if_neg code]
      rfl

lemma expected_complete (complete : Complete given) :
    expected given = if Switching given then .success else .failure := by
  rw [expected, if_neg (not_not.mpr complete)]

/-- The verdict on a text that begins with the given bytes up to their first zero. -/
lemma verdict_eq_iff (code : ws.httpCode = 0) (complete : Complete (cString given)) (behind : Bytes)
    (length : ℕ) :
    verdict (ws.responsePackageAt (given ++ behind) length).2 = expected given ↔
      if Switching given then 32 ∈ (cString (given ++ behind)).drop 9
      else ¬ ReadsStatus (cString (given ++ behind)) 101 := by
  rw [verdict_complete (complete.mono (cString_part given behind)),
    expected_complete (complete.mono (cString_given given))]
  have is101 : _ ↔ ReadsStatus (cString (given ++ behind)) 101 := codeOf_eq_101 code
  by_cases switching : Switching given
  · rw [if_pos switching, if_pos switching]
    have switching' := switching_cString switching behind
    constructor
    · intro is
      by_cases reads : codeOf ws (cString (given ++ behind)) = 101
      · exact space_of_reads switching' (is101.mp reads)
      · rw [if_neg reads] at is
        cases is
    · intro space
      rw [if_pos (is101.mpr (reads_switching switching' space))]
  · rw [if_neg switching, if_neg switching, ← is101]
    by_cases reads : codeOf ws (cString (given ++ behind)) = 101
    · simp [reads]
    · simp [reads]

lemma response_congr {content content' : Bytes} (same : cString content = cString content')
    (length : ℕ) : ws.responsePackageAt content length = ws.responsePackageAt content' length := by
  unfold WebSocketTcp.responsePackageAt
  rw [same]

/-- Where the C string ends with the given bytes, it is what they tell that counts. -/
lemma right_iff_tells (code : ws.httpCode = 0)
    (ends : cString (given ++ behind) = cString given) :
    Right ws given behind ↔ Tells given (cString given) := by
  have own : told ws given behind = told ws given [0] := by
    unfold told
    rw [response_congr (ends.trans (cString_terminated given).symm)]
  have only : Right ws given behind ↔ verdict (told ws given behind).1 = expected given :=
    ⟨Right.verdict_eq, fun is => ⟨is, own⟩⟩
  rw [only, Tells, told]
  by_cases complete : Complete (cString given)
  · rw [if_pos complete, verdict_eq_iff code complete, ends]
  · rw [if_neg complete, response_incomplete (by rw [ends]; exact complete)]

/-! ## What is recorded of a refusal -/

lemma lengthOf_eq_zero (kept : ws.httpLength = 0) :
    lengthOf ws line = 0 ↔ ∀ n, ReadsLength line n → n = 0 := by
  rw [lengthOf, if_pos kept, getTargetLen_eq_zero]
  rfl

lemma lengthOf_of_reads (kept : ws.httpLength = 0) (reads : ReadsLength line n) :
    (lengthOf ws line : ℤ) = n % 2 ^ 64 := by
  rw [lengthOf, if_pos kept, getTargetLen_of_reads reads]
  omega

lemma mismatched_iff (ws : WebSocketTcp) {position : ℕ} (code : ws.httpCode = 0) (kept : ws.httpLength = 0)
    (found : find httpHeaderEndString line = some position) :
    Mismatched given line ↔ (codeOf ws line ≠ 0 ∧ codeOf ws line ≠ 101) ∧
      lengthOf ws line ≠ 0 ∧
      (lengthOf ws line : ℤ) ≠ ((given.length : ℤ) - (position + 4)) % 2 ^ 64 := by
  rw [Ne, codeOf_eq_zero code, Ne, codeOf_eq_101 code, Ne, lengthOf_eq_zero kept, NoStatus]
  constructor
  · rintro ⟨⟨n, status, some_, other⟩, k, length, long, mismatch⟩
    refine ⟨⟨fun zero => some_ (zero n status), fun is => other (reads_unique status is)⟩,
      fun zero => long (zero k length), ?_⟩
    rw [lengthOf_of_reads kept length]
    exact mismatch position found
  · rintro ⟨⟨some_, other⟩, long, mismatch⟩
    simp only [not_forall] at some_ long
    obtain ⟨n, status, nonzero⟩ := some_
    obtain ⟨k, length, nonzero'⟩ := long
    refine ⟨⟨n, status, nonzero, ?_⟩, k, length, nonzero', ?_⟩
    · rintro rfl
      exact other status
    · intro position' found'
      obtain rfl := Option.some.inj (found.symm.trans found')
      rw [← lengthOf_of_reads kept length]
      exact mismatch

/-- A refusal by a fresh decoder records no text, or one as long as the text behind the block. -/
lemma refused_text {position : ℕ} (inside : position + 4 ≤ given.length)
    (found : find httpHeaderEndString (given ++ line) = some position)
    (text : cString (given ++ behind) = given ++ line)
    (some_ : codeOf {} (given ++ line) ≠ 0) (other : codeOf {} (given ++ line) ≠ 101) :
    (told {} given behind).1 = .error .wsResponsePackageFailed ∧
      (Mismatched given (given ++ line) ∧ (told {} given behind).2 = [] ∨
        ¬ Mismatched given (given ++ line) ∧ line.length ≤ (told {} given behind).2.length ∧
          (told {} given behind).2 ≠ []) := by
  rw [mismatched_iff {} rfl rfl found, told, response_refused (by rw [text]; exact found)
    (by rw [text]; exact some_) (by rw [text]; exact other), text]
  refine ⟨rfl, ?_⟩
  have length : (given ++ line).length = given.length + line.length := List.length_append
  dsimp only
  split_ifs with zero match_
  · refine .inr ⟨fun mismatched => mismatched.2.1 zero, by omega, ?_⟩
    intro empty
    rw [empty, List.length_nil] at length
    omega
  · have behind_ : ((given ++ line).drop (position + 4)).length =
        given.length + line.length - (position + 4) := by rw [List.length_drop, length]
    refine .inr ⟨fun mismatched => mismatched.2.2 match_, by omega, ?_⟩
    intro empty
    rw [empty, List.length_nil] at behind_
    have exact_ : given.length = position + 4 := by omega
    rw [exact_] at match_
    apply zero
    have : (lengthOf {} (given ++ line) : ℤ) = 0 := by
      rw [match_]
      simp
    exact_mod_cast this
  · exact .inl ⟨⟨⟨some_, other⟩, zero, match_⟩, rfl⟩

lemma bad_told (complete : Complete (cString (given ++ behind)))
    (zero : NoStatus (cString (given ++ behind))) :
    told {} given behind = (.error .httpGotBadStatus, []) := by
  rw [told, response_bad complete ((codeOf_eq_zero rfl).mpr zero)]

/-- A failure is told alike whatever follows if no code is read, or no text is recorded. -/
lemma quiet_iff (free : 0 ∉ given) (complete : Complete given) (other : ¬ Switching given) :
    (∀ behind, Right {} given behind) ↔
      (∀ tail, 0 ∉ tail → NoStatus (given ++ tail)) ∨
        ∀ tail, 0 ∉ tail → Mismatched given (given ++ tail) := by
  have whole : ∀ text : Bytes, 0 ∉ text → cString text = text := by
    intro text none_
    exact cString_eq fun b is zero => none_ (zero ▸ is)
  have line : ∀ tail, 0 ∉ tail → cString (given ++ tail) = given ++ tail := by
    intro tail none_
    apply whole
    simp [free, none_]
  obtain ⟨position, found⟩ := Option.ne_none_iff_exists'.mp (complete_iff.mp complete)
  have inside : position + 4 ≤ given.length := find_length found
  have ends : ∀ tail, find httpHeaderEndString (given ++ tail) = some position :=
    fun tail => find_append found tail
  have block : ∀ tail, Complete (given ++ tail) :=
    fun tail => complete.mono (List.prefix_append _ _)
  constructor
  · intro right
    have same : ∀ tail tail', told {} given tail = told {} given tail' :=
      fun tail tail' => (right tail).own.trans (right tail').own.symm
    have not101 : ∀ tail, 0 ∉ tail → codeOf {} (given ++ tail) ≠ 101 := by
      intro tail none_ is
      have judged := (verdict_eq_iff rfl (by rw [whole given free]; exact complete) tail _).mp
        (right tail).verdict_eq
      rw [if_neg other, line tail none_] at judged
      exact judged ((codeOf_eq_101 rfl).mp is)
    have refused := fun tail (none_ : 0 ∉ tail) (some_ : ¬ NoStatus (given ++ tail)) =>
      refused_text inside (ends tail) (line tail none_)
        (fun is => some_ ((codeOf_eq_zero rfl).mp is)) (not101 tail none_)
    -- no code and some code are told apart
    have alike : ∀ tail tail', 0 ∉ tail → 0 ∉ tail' → NoStatus (given ++ tail) →
        NoStatus (given ++ tail') := by
      intro tail tail' none_ none' zero
      by_contra some_
      have bad : told {} given tail = (.error .httpGotBadStatus, []) :=
        bad_told (by rw [line tail none_]; exact block tail) (by rw [line tail none_]; exact zero)
      have failed := (refused tail' none' some_).1
      rw [same tail' tail, bad] at failed
      cases failed
    by_cases zero : NoStatus (given ++ [])
    · left
      intro tail none_
      exact alike [] tail (by simp) none_ zero
    · right
      have some_ : ∀ tail, 0 ∉ tail → ¬ NoStatus (given ++ tail) :=
        fun tail none_ is => zero (alike tail [] none_ (by simp) is)
      have silent : (told {} given []).2 = [] := by
        obtain ⟨long, none_, length⟩ : ∃ long : Bytes, 0 ∉ long ∧
            long.length = (told {} given []).2.length + 1 :=
          ⟨List.replicate _ 1, by simp [List.mem_replicate], List.length_replicate⟩
        rcases (refused long none_ (some_ long none_)).2 with ⟨-, empty⟩ | ⟨-, short, -⟩
        · rw [same [] long]
          exact empty
        · rw [same long []] at short
          omega
      intro tail none_
      rcases (refused tail none_ (some_ tail none_)).2 with ⟨mismatched, -⟩ | ⟨-, -, text⟩
      · exact mismatched
      · rw [same tail []] at text
        exact absurd silent text
  · intro quiet behind
    have text : ∀ behind, cString (given ++ behind) = given ++ cString behind := by
      intro behind
      exact cString_append (fun b is zero => free (zero ▸ is)) behind
    obtain ⟨code, all⟩ : ∃ code, ∀ behind, told {} given behind = (.error code, []) := by
      rcases quiet with quiet | quiet
      · refine ⟨.httpGotBadStatus, fun behind => bad_told ?_ ?_⟩
        · rw [text]
          exact block _
        · rw [text]
          exact quiet _ (cString_nonzero behind)
      · refine ⟨.wsResponsePackageFailed, fun behind => ?_⟩
        have mismatched := quiet _ (cString_nonzero behind)
        obtain ⟨some_, not101⟩ := ((mismatched_iff {} rfl rfl (ends _)).mp mismatched).1
        obtain ⟨failed, ⟨-, empty⟩ | ⟨not_, -⟩⟩ :=
          refused_text inside (ends _) (text behind) some_ not101
        · exact Prod.ext failed empty
        · exact absurd mismatched not_
    refine ⟨?_, (all behind).trans (all [0]).symm⟩
    rw [all, expected_complete complete, if_neg other]
    rfl

lemma right_switching (complete : Complete (cString given)) (switching : Switching given)
    (space : 32 ∈ (cString given).drop 9) (behind : Bytes) : Right {} given behind := by
  have all : ∀ behind, told {} given behind = (.ok 0, []) := by
    intro behind
    have part := cString_part given behind
    have reads := reads_switching (switching_cString switching behind)
      ((part.drop 9).subset space)
    rw [told, response_switching (complete.mono part) ((codeOf_eq_101 rfl).mpr reads)]
  refine ⟨?_, (all behind).trans (all [0]).symm⟩
  rw [all, expected_complete (complete.mono (cString_given given)), if_pos switching]
  rfl

/-- The given bytes are judged rightly in every memory exactly if they are readable. -/
lemma right_iff_readable (given : Bytes) : (∀ behind, Right {} given behind) ↔ Readable given := by
  by_cases zero : 0 ∈ given
  · rw [Readable, if_pos zero]
    have ends : ∀ behind, cString (given ++ behind) = cString given := by
      rcases cString_cases given with ends | ⟨whole, -⟩
      · exact ends
      · rw [← whole] at zero
        exact absurd zero (cString_nonzero given)
    constructor
    · intro right
      exact (right_iff_tells rfl (ends [])).mp (right [])
    · intro tells behind
      exact (right_iff_tells rfl (ends behind)).mpr tells
  · rw [Readable, if_neg zero]
    have text : ∀ behind, cString (given ++ behind) = given ++ cString behind :=
      fun behind => cString_append (fun b is null => zero (null ▸ is)) behind
    have whole : cString given = given := cString_eq fun b is null => zero (null ▸ is)
    by_cases complete : Complete given
    · by_cases switching : Switching given
      · rw [if_pos switching]
        constructor
        · intro right
          have judged := (verdict_eq_iff rfl (whole.symm ▸ complete) [0] _).mp
            (right [0]).verdict_eq
          rw [if_pos switching, cString_terminated, whole] at judged
          exact ⟨complete, judged⟩
        · rintro ⟨-, space⟩
          exact right_switching (whole.symm ▸ complete) switching (whole.symm ▸ space)
      · rw [if_neg switching, and_iff_right complete]
        exact quiet_iff zero complete switching
    · refine iff_of_false ?_ fun readable => complete readable.1
      intro right
      -- the end of a header block may lie in the memory behind
      have ends : Complete (cString (given ++ httpHeaderEndString)) := by
        rw [text]
        exact (List.suffix_append given _).isInfix
      have judged := (right httpHeaderEndString).verdict_eq
      rw [told, verdict_complete ends, expected, if_pos complete] at judged
      split at judged <;> cases judged

/-! ## Successive calls -/

/-- A code that is kept is the code of the complete answer. -/
def Kept (s : WebSocketTcp × Bytes) : Prop :=
  s.1.httpCode = 0 ∨ Complete s.2 ∧ (s.1.httpCode = 101 ↔ Switching s.2)

lemma response_code_complete (complete : Complete (cString line)) (length : ℕ) :
    (ws.responsePackageAt line length).1.httpCode = codeOf ws (cString line) := by
  by_cases zero : codeOf ws (cString line) = 0
  · rw [response_bad complete zero, zero]
    by_contra some_
    rw [codeOf, if_neg some_] at zero
    exact some_ zero
  · by_cases code : codeOf ws (cString line) = 101
    · rw [response_switching complete code, code]
    · obtain ⟨position, found⟩ := Option.ne_none_iff_exists'.mp (complete_iff.mp complete)
      rw [response_refused found zero code]

lemma Kept.grow {s : WebSocketTcp × Bytes} (kept : Kept s) (some_ : s.1.httpCode ≠ 0)
    (part : s.2 <+: given) : Complete given ∧ (s.1.httpCode = 101 ↔ Switching given) := by
  rcases kept with fresh | ⟨complete, code⟩
  · exact absurd fresh some_
  · refine ⟨complete.mono part, code.trans ⟨fun switching => switching.mono part, ?_⟩⟩
    exact complete.switching part

/-- A terminated call is judged rightly, also on a kept code. -/
lemma right_terminated {s : WebSocketTcp × Bytes} {call : Call} (kept : Kept s)
    (terminated : Terminated s call) : Right s.1 call.1 call.2 := by
  obtain ⟨part, ends, tells⟩ := terminated
  by_cases fresh : s.1.httpCode = 0
  · exact (right_iff_tells fresh ends).mpr tells
  · obtain ⟨complete, code⟩ := kept.grow fresh part
    refine ⟨?_, ?_⟩
    · by_cases seen : Complete (cString call.1)
      · rw [told, verdict_complete (ends.symm ▸ seen), codeOf, if_neg fresh,
          expected_complete complete]
        simp only [code]
      · rw [told, response_incomplete (ends.symm ▸ seen)]
        rwa [Tells, if_neg seen] at tells
    · unfold told
      rw [response_congr (ends.trans (cString_terminated call.1).symm)]

lemma kept_next {s : WebSocketTcp × Bytes} {call : Call} (kept : Kept s)
    (terminated : Terminated s call) : Kept (next s call) := by
  obtain ⟨part, ends, tells⟩ := terminated
  by_cases seen : Complete (cString call.1)
  · right
    refine ⟨seen.mono (cString_given call.1), ?_⟩
    rw [next, response_code_complete (ends.symm ▸ seen), ends]
    by_cases fresh : s.1.httpCode = 0
    · rw [codeOf_eq_101 fresh]
      rw [Tells, if_pos seen] at tells
      split_ifs at tells with switching
      · have switching' := switching_cString switching call.2
        rw [ends] at switching'
        exact iff_of_true (reads_switching switching' tells) switching
      · exact iff_of_false tells switching
    · rw [codeOf, if_neg fresh]
      exact (kept.grow fresh part).2
  · unfold next
    rw [response_incomplete (ends.symm ▸ seen)]
    by_cases fresh : s.1.httpCode = 0
    · exact .inl fresh
    · exact .inr (kept.grow fresh part)

example : Readable (ascii "HTTP/1.1 101 OK" ++ [13, 10, 13, 10]) := by
  rw [Readable, if_neg (by decide), if_pos (by decide)]
  decide

/-- Bytes without a header block are answered by what the memory behind them holds. -/
theorem memory_behind_answers :
    verdict (told {} (ascii "HTTP/1.1 ") (ascii "101 a" ++ [13, 10, 13, 10, 0])).1 = .success ∧
      verdict (told {} (ascii "HTTP/1.1 ") [0]).1 = .more := by
  decide

/-- With a zero behind its bytes the answer is judged as the receiving side does. -/
theorem response_terminated (ws : WebSocketTcp) {content : Bytes} (short : content.length < 2 ^ 31) :
    ws.responsePackageAt (content ++ [0]) content.length =
      ((ws.responsePackage content).1, (ws.responsePackage content).2.map fun k => (k : ℤ)) := by
  unfold WebSocketTcp.responsePackageAt WebSocketTcp.responsePackage
  rw [cString_terminated]
  dsimp only
  cases found : find httpHeaderEndString (cString content) with
  | none =>
    rw [if_pos rfl, if_pos rfl, Int.bmod_eq_of_le (by omega) (by omega)]
    rfl
  | some position =>
    have size : httpHeaderEndString.length = 4 := rfl
    have inside := find_length found
    have part := (cString_given content).length_le
    have same : ∀ k : ℕ, ((k : ℤ) = ((content.length : ℤ) - ↑(position + 4)) % 2 ^ 64) ↔
        k = content.length - (position + 4) := by
      intro k
      omega
    simp only [reduceCtorEq, if_false, size, same]
    split_ifs <;> rfl

end Calls

end Search


end UpgradeResponse

end NlsSdk.Transport
