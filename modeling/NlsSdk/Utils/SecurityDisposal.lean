import NlsSdk.Library.TextBuffer
import NlsSdk.Transport.HandshakeBoundary

/-!
# Texts that are masked for the log

`securityDisposalForLog` overwrites some characters behind a key, and does not
ask whether there are so many. `masksOnly_iff` says for which texts it changes
these characters and nothing else.
-/
namespace NlsSdk.Utils

open Library Transport

/-- `std::string::npos` -/
def npos : ℤ := 2 ^ 64 - 1

/-- The rounds of the loop, `none` if one writes outside of the buffer or the index overflows. -/
def setChars (c : UInt8) : ℕ → ℤ → Bytes → Option Bytes
  | 0, _, bufOut => some bufOut
  | count + 1, pos1, bufOut =>
    if 0 ≤ pos1 ∧ pos1 < bufOut.length ∧ pos1 + 1 < 2 ^ 31 then
      setChars c count (pos1 + 1) (bufOut.set pos1.toNat c)
    else none

/-- The block that masks. Positions are stored as `int`, and the loop compares `unsigned`. -/
def maskBehind (tmpStr findKey : Bytes) (step : UInt32) (c : UInt8) (bufOut : Bytes) :
    Option Bytes :=
  let pos2 := Int.bmod (((find findKey tmpStr).map Nat.cast).getD npos) (2 ^ 32)
  if 0 ≤ pos2 then
    let start := Int.bmod (pos2 + findKey.length + 1) (2 ^ 32)
    let first := (start % 2 ^ 32).toNat
    setChars c ((first + step.toNat) % 2 ^ 32 - first) start bufOut
  else some bufOut

/-- `none` where bytes outside of the buffer are written or read. -/
def securityDisposalForLog (bufIn bufStr key : Bytes) (step : UInt32) (c : UInt8) :
    Option Bytes :=
  let bufInSize := (textOf bufIn).length % 2 ^ 32
  if bufInSize = 0 then some bufStr
  else if (bufInSize + 1) % 2 ^ 32 = 0 then none
  else
    let bufOut := strncpy (List.replicate (bufInSize + 1) 0) bufIn bufInSize
    (maskBehind (textOf bufIn) key step c bufOut).bind fun bufOut =>
      if 0 ∈ bufOut then some (textOf bufOut) else none

example : securityDisposalForLog (ascii "k:abcdef") [] (ascii "k") 4 89 =
    some (ascii "k:YYYYef") := by decide

/-! ## What masking is for -/

/-- The places behind a key and one separator. -/
def InWindow (key : Bytes) (step : UInt32) (pos i : ℕ) : Prop :=
  pos + key.length + 1 ≤ i ∧ i < pos + key.length + 1 + step.toNat

/-- A text of the same length comes back, in which nothing is changed but the characters behind
the first key. -/
def MasksOnly (bufIn key : Bytes) (step : UInt32) (c : UInt8) : Prop :=
  ∃ log, securityDisposalForLog bufIn [] key step c = some log ∧
    log.length = (textOf bufIn).length ∧
    ∀ i, log[i]? ≠ (textOf bufIn)[i]? →
      ∃ pos, find key (textOf bufIn) = some pos ∧ InWindow key step pos i

/-- The loop ends inside of the text, or does not start because its end has wrapped. -/
def StopsInside (key : Bytes) (step : UInt32) (size pos : ℕ) : Prop :=
  let stop := (pos + key.length + 1 + step.toNat) % 2 ^ 32
  pos + key.length + 1 < stop → stop ≤ size ∧ stop < 2 ^ 31

/-! ## The loop -/

section Loop

variable {tmpStr bufIn bufStr bufOut key : Bytes} {step : UInt32} {c : UInt8} {pos : ℕ}

lemma setChars_eq (c : UInt8) (count : ℕ) (pos1 : ℤ) (bufOut : Bytes) :
    setChars c count pos1 bufOut =
      if count = 0 ∨ 0 ≤ pos1 ∧ pos1 + count ≤ bufOut.length ∧ pos1 + count < 2 ^ 31 then
        some (overwrite pos1.toNat count c bufOut)
      else none := by
  induction count generalizing pos1 bufOut with
  | zero => rw [setChars, if_pos (.inl rfl), overwrite_zero]
  | succ count ih =>
    rw [setChars]
    by_cases inside : 0 ≤ pos1 ∧ pos1 < bufOut.length ∧ pos1 + 1 < 2 ^ 31
    · have next : (pos1 + 1).toNat = pos1.toNat + 1 := by omega
      rw [if_pos inside, ih, next, overwrite_set (by omega), List.length_set]
      refine if_congr ?_ rfl rfl
      rw [Nat.cast_add, Nat.cast_one]
      omega
    · rw [if_neg inside, if_neg]
      rw [Nat.cast_add, Nat.cast_one]
      omega

lemma maskBehind_none (missing : find key tmpStr = none) :
    maskBehind tmpStr key step c bufOut = some bufOut := by
  rw [maskBehind, missing, if_neg]
  decide

/-- A position that is stored as a negative number counts as none. -/
lemma maskBehind_large (found : find key tmpStr = some pos) (large : 2 ^ 31 ≤ pos)
    (word : pos < 2 ^ 32) : maskBehind tmpStr key step c bufOut = some bufOut := by
  rw [maskBehind, found, if_neg]
  rw [Option.map_some, Option.getD_some, Int.bmod_def]
  omega

lemma maskBehind_some (found : find key tmpStr = some pos) (small : pos < 2 ^ 31)
    (word : pos + key.length + 1 < 2 ^ 32) :
    maskBehind tmpStr key step c bufOut =
      setChars c ((pos + key.length + 1 + step.toNat) % 2 ^ 32 - (pos + key.length + 1))
        (Int.bmod (pos + key.length + 1 : ℕ) (2 ^ 32)) bufOut := by
  have pos2 : Int.bmod (pos : ℤ) (2 ^ 32) = pos := Int.bmod_eq_of_le (by omega) (by omega)
  have start : (pos : ℤ) + key.length + 1 = (pos + key.length + 1 : ℕ) := by push_cast; rfl
  have first : (Int.bmod ((pos + key.length + 1 : ℕ) : ℤ) (2 ^ 32) % 2 ^ 32).toNat =
      pos + key.length + 1 := by
    rw [Int.bmod_def]
    omega
  rw [maskBehind, found, Option.map_some, Option.getD_some]
  dsimp only
  rw [pos2, if_pos (by omega), start, first]

/-- The buffer of a text whose length is a word. -/
lemma securityDisposalForLog_eq (some_ : textOf bufIn ≠ [])
    (small : (textOf bufIn).length + 1 < 2 ^ 32) :
    securityDisposalForLog bufIn bufStr key step c =
      (maskBehind (textOf bufIn) key step c (textOf bufIn ++ [0])).bind fun bufOut =>
        if 0 ∈ bufOut then some (textOf bufOut) else none := by
  have positive := List.length_pos_of_ne_nil some_
  have size : (textOf bufIn).length % 2 ^ 32 = (textOf bufIn).length :=
    Nat.mod_eq_of_lt (by omega)
  have copied : strncpy (List.replicate ((textOf bufIn).length + 1) 0) bufIn
      (textOf bufIn).length = textOf bufIn ++ [0] := by
    have whole : textOf (bufIn.take (textOf bufIn).length) = textOf bufIn :=
      List.take_takeWhile.symm.trans List.take_length
    rw [TextBuffer.strncpy_zeroed, whole, Nat.sub_self, Nat.zero_add, List.replicate_one]
  rw [securityDisposalForLog]
  dsimp only
  rw [size, if_neg (by omega), Nat.mod_eq_of_lt small, if_neg (by omega), copied]

/-- A buffer whose terminator is left holds its text. -/
lemma assign_eq {text : Bytes} (plain : 0 ∉ text) :
    (if 0 ∈ text ++ [0] then some (textOf (text ++ [0])) else none) = some text := by
  rw [if_pos (by simp), ← List.replicate_one, textOf_append_zeros plain Nat.one_pos]

lemma maskBehind_length {masked : Bytes}
    (is : maskBehind tmpStr key step c bufOut = some masked) : masked.length = bufOut.length := by
  rw [maskBehind] at is
  split at is
  · rw [setChars_eq] at is
    split at is
    · rw [← Option.some.inj is, length_overwrite]
    · cases is
  · rw [Option.some.inj is]

/-- A text that is too long for a word is cut, or not copied at all. -/
lemma not_masksOnly_large (some_ : textOf bufIn ≠ []) (large : 2 ^ 32 ≤ (textOf bufIn).length + 1) :
    ¬MasksOnly bufIn key step c := by
  rintro ⟨log, is, length, -⟩
  have positive := List.length_pos_of_ne_nil some_
  rw [securityDisposalForLog] at is
  dsimp only at is
  split_ifs at is with none_ wraps
  · rw [← Option.some.inj is, List.length_nil] at length
    omega
  · obtain ⟨masked, done, is⟩ := Option.bind_eq_some_iff.mp is
    have size := maskBehind_length done
    rw [TextBuffer.strncpy_zeroed, List.length_append, List.length_replicate] at size
    have copied := textOf_take_length_le bufIn ((textOf bufIn).length % 2 ^ 32)
    split_ifs at is with terminated
    have shorter := textOf_length_lt terminated
    rw [Option.some.inj is] at shorter
    omega

/-- What stays in the text is right. -/
lemma masksOnly_of_overwrite {start count : ℕ}
    (is : securityDisposalForLog bufIn [] key step c =
      some (overwrite start count c (textOf bufIn)))
    (found : ∀ i, start ≤ i → i < start + count →
      ∃ pos, find key (textOf bufIn) = some pos ∧ InWindow key step pos i) :
    MasksOnly bufIn key step c := by
  refine ⟨_, is, length_overwrite _ _ _ _, ?_⟩
  intro i changed
  by_contra outside
  apply changed
  apply getElem?_overwrite_outside
  rintro ⟨low, high⟩
  exact outside (found i low high)

/-- A loop that takes the terminator too leaves none. -/
lemma terminator_lost {text : Bytes} (plain : 0 ∉ text) (shown : c ≠ 0) {first count : ℕ}
    (some_ : 0 < count) (ends : first + count = text.length + 1) :
    0 ∉ overwrite first count c (text ++ [0]) := by
  intro there
  obtain ⟨i, place, is⟩ := List.mem_mapIdx.mp there
  rw [List.length_append, List.length_singleton] at place
  split_ifs at is with inside
  · exact shown is
  · have front : i < text.length := by
      by_contra last
      apply inside
      omega
    rw [List.getElem_append_left front] at is
    exact plain (is ▸ List.getElem_mem front)

/-- With a key that is found, only the end of the loop matters. -/
lemma masksOnly_found (shown : c ≠ 0) (some_ : textOf bufIn ≠ [])
    (small : (textOf bufIn).length + 1 < 2 ^ 32) (found : find key (textOf bufIn) = some pos)
    (int : pos < 2 ^ 31) :
    MasksOnly bufIn key step c ↔ StopsInside key step (textOf bufIn).length pos := by
  have plain := textOf_plain bufIn
  have within := find_length found
  have is := @securityDisposalForLog_eq bufIn [] key step c some_ small
  rw [maskBehind_some found int (by omega), setChars_eq, List.length_append,
    List.length_singleton] at is
  unfold StopsInside
  dsimp only
  obtain ⟨first, first_⟩ : ∃ first, first = pos + key.length + 1 := ⟨_, rfl⟩
  obtain ⟨stop, stop_⟩ : ∃ stop, stop = (first + step.toNat) % 2 ^ 32 := ⟨_, rfl⟩
  rw [← first_, ← stop_] at is ⊢
  have window : ∀ i, first ≤ i → i < first + (stop - first) →
      ∃ pos, find key (textOf bufIn) = some pos ∧ InWindow key step pos i := by
    intro i low high
    refine ⟨pos, found, by omega, ?_⟩
    have := Nat.mod_le (first + step.toNat) (2 ^ 32)
    omega
  by_cases starts : first < stop
  · by_cases ends : stop ≤ (textOf bufIn).length ∧ stop < 2 ^ 31
    · have index : Int.bmod (first : ℤ) (2 ^ 32) = first :=
        Int.bmod_eq_of_le (by omega) (by omega)
      rw [index, if_pos (.inr (by omega)), Option.bind_some, Int.toNat_natCast,
        overwrite_append _ (by omega), assign_eq (overwrite_plain plain shown)] at is
      exact iff_of_true (masksOnly_of_overwrite is window) fun _ => ends
    · have outside : securityDisposalForLog bufIn [] key step c = none := by
        rw [is]
        split_ifs with inside
        · have index : Int.bmod (first : ℤ) (2 ^ 32) = first := by
            rw [Int.bmod_def] at inside ⊢
            omega
          rw [index] at inside ⊢
          rw [Option.bind_some, Int.toNat_natCast, if_neg]
          exact terminator_lost plain shown (by omega) (by omega)
        · rfl
      refine iff_of_false ?_ fun stops => ends (stops starts)
      rintro ⟨log, some_, -⟩
      rw [outside] at some_
      cases some_
  · rw [Nat.sub_eq_zero_of_le (not_lt.mp starts), if_pos (.inl rfl), Option.bind_some,
      overwrite_zero, assign_eq plain, ← overwrite_zero first c (textOf bufIn)] at is
    refine iff_of_true (masksOnly_of_overwrite is ?_) fun now => absurd now starts
    intro i low high
    omega

/-- For these texts, keys and steps a mask changes what it is to change, and nothing else. -/
theorem masksOnly_iff (bufIn key : Bytes) (step : UInt32) (c : UInt8) (shown : c ≠ 0) :
    MasksOnly bufIn key step c ↔
      textOf bufIn = [] ∨ (textOf bufIn).length + 1 < 2 ^ 32 ∧
        ∀ pos, find key (textOf bufIn) = some pos → pos < 2 ^ 31 →
          StopsInside key step (textOf bufIn).length pos := by
  by_cases empty : textOf bufIn = []
  · refine iff_of_true ⟨[], ?_, by rw [empty], by simp [empty]⟩ (.inl empty)
    rw [securityDisposalForLog, empty]
    rfl
  rw [or_iff_right empty]
  by_cases small : (textOf bufIn).length + 1 < 2 ^ 32
  · rw [and_iff_right small]
    have is := @securityDisposalForLog_eq bufIn [] key step c empty small
    have same : maskBehind (textOf bufIn) key step c (textOf bufIn ++ [0]) =
        some (textOf bufIn ++ [0]) → MasksOnly bufIn key step c := by
      intro kept
      rw [kept, Option.bind_some, assign_eq (textOf_plain bufIn),
        ← overwrite_zero 0 c (textOf bufIn)] at is
      apply masksOnly_of_overwrite is
      intro i low high
      omega
    cases found : find key (textOf bufIn) with
    | none => exact iff_of_true (same (maskBehind_none found)) fun pos is => by cases is
    | some pos =>
      have within := find_length found
      by_cases int : pos < 2 ^ 31
      · rw [masksOnly_found shown empty small found int]
        constructor
        · intro stops other is _
          rwa [← Option.some.inj is]
        · intro all
          exact all pos rfl int
      · refine iff_of_true (same (maskBehind_large found (not_lt.mp int) (by omega))) ?_
        intro other is small
        rw [← Option.some.inj is] at small
        exact absurd small int
  · exact iff_of_false (not_masksOnly_large empty (not_lt.mp small)) fun is => small is.1

/-- A window that is inside of a text of the usual size is masked. -/
lemma securityDisposalForLog_some {text : Bytes} (plain : 0 ∉ text) (shown : c ≠ 0)
    (small : text.length < 2 ^ 31) (found : find key text = some pos)
    (inside : pos + key.length + 1 + step.toNat ≤ text.length) :
    securityDisposalForLog text bufStr key step c =
      some (overwrite (pos + key.length + 1) step.toNat c text) := by
  have whole : textOf text = text := cString_eq fun b there zero => plain (zero ▸ there)
  have some_ : text ≠ [] := by
    rintro rfl
    rw [List.length_nil] at inside
    omega
  have index : Int.bmod ((pos + key.length + 1 : ℕ) : ℤ) (2 ^ 32) = (pos + key.length + 1 : ℕ) :=
    Int.bmod_eq_of_le (by omega) (by omega)
  rw [securityDisposalForLog_eq (by rwa [whole]) (by rw [whole]; omega), whole,
    maskBehind_some found (by omega) (by omega), Nat.mod_eq_of_lt (by omega),
    Nat.add_sub_cancel_left, setChars_eq, index, Int.toNat_natCast, if_pos, Option.bind_some,
    overwrite_append _ inside, assign_eq (overwrite_plain plain shown)]
  right
  rw [List.length_append, List.length_singleton]
  omega

end Loop

end NlsSdk.Utils
