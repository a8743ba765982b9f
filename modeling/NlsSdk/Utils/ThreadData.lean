import NlsSdk.Library.Run
import NlsSdk.Encoder.NlsEncoder

/-!
# The array queue

`DataBase` of `thread_data.h` keeps the arrays that are pushed, and its callers a cursor: an array
of the queue and an element of the array. A read advances the cursor, and it deletes what it has
read or leaves that to `Flush`. Counts and indices are of type `int`.
-/
namespace NlsSdk.Utils

open NlsSdk.Library

variable {α : Type*}

/-- `DataBase<T>`, and the cursor of its caller. -/
structure DataBase (α : Type*) where
  data : List (List α) := []
  startArrayIdx : ℕ := 0
  startElementIdx : ℕ := 0
  deriving DecidableEq, Repr

namespace DataBase

def pushback (q : DataBase α) (array : List α) : DataBase α :=
  if array = [] then q else { q with data := q.data ++ [array] }

/-- The loop of `Get` over the arrays from the cursor on: what it copies, and the arrays and the
cursor it leaves; nothing where an `int` overflows or a negative number would be copied. -/
def getLoop (isDeleteAfterGet : Bool) (elementNum : ℕ) :
    ℕ → ℕ → ℕ → List (List α) → Option (List α × DataBase α)
  | _, arrayIdx, elementIdx, [] => some ([], ⟨[], arrayIdx, elementIdx⟩)
  | numShift, arrayIdx, elementIdx, array :: rest =>
    if elementNum ≤ numShift then some ([], ⟨array :: rest, arrayIdx, elementIdx⟩)
    else if 2 ^ 31 ≤ elementIdx + elementNum ∨ array.length < elementIdx then none
    else if array.length ≤ elementIdx + elementNum - numShift then
      if isDeleteAfterGet then
        (getLoop isDeleteAfterGet elementNum (numShift + (array.length - elementIdx))
          arrayIdx 0 rest).map fun read => (array.drop elementIdx ++ read.1, read.2)
      else if 2 ^ 31 ≤ arrayIdx + 1 then none
      else
        (getLoop isDeleteAfterGet elementNum (numShift + (array.length - elementIdx))
          (arrayIdx + 1) 0 rest).map fun read =>
            (array.drop elementIdx ++ read.1, { read.2 with data := array :: read.2.data })
    else
      some ((array.drop elementIdx).take (elementNum - numShift),
        ⟨array :: rest, arrayIdx, elementIdx + (elementNum - numShift)⟩)

/-- The elements `Get` hands out, and the queue and cursor it leaves. -/
def get (q : DataBase α) (elementNum : ℤ) (isDeleteAfterGet : Bool) :
    Option (List α × DataBase α) :=
  if 0 < elementNum then
    (getLoop isDeleteAfterGet elementNum.toNat 0 q.startArrayIdx q.startElementIdx
      (q.data.drop q.startArrayIdx)).map fun read =>
        (read.1, { read.2 with data := q.data.take q.startArrayIdx ++ read.2.data })
  else some ([], q)

/-- The first array is deleted while the cursor is behind it and at an array of the queue. -/
def flushLoop : ℕ → List (List α) → ℕ × List (List α)
  | arrayIdx + 1, array :: rest =>
    if arrayIdx + 1 < (array :: rest).length then flushLoop arrayIdx rest
    else (arrayIdx + 1, array :: rest)
  | arrayIdx, data => (arrayIdx, data)

def flush (q : DataBase α) : DataBase α :=
  { q with
    data := (flushLoop q.startArrayIdx q.data).2
    startArrayIdx := (flushLoop q.startArrayIdx q.data).1 }

/-- All elements or none; the cursor is set back where there are too few. -/
def tryGet (q : DataBase α) (elementNum : ℤ) (isDeleteAfterGet : Bool) :
    Option (List α × DataBase α) :=
  (q.get elementNum false).map fun read =>
    if elementNum ≠ read.1.length then
      let back := { read.2 with
        startArrayIdx := q.startArrayIdx
        startElementIdx := q.startElementIdx }
      ([], if isDeleteAfterGet then back.flush else back)
    else (read.1, if isDeleteAfterGet then read.2.flush else read.2)

/-! ## The elements around the cursor -/

/-- The elements from the cursor on. -/
def ahead (q : DataBase α) : List α :=
  (q.data.drop q.startArrayIdx).flatten.drop q.startElementIdx

/-- The elements of the queue in front of the cursor. -/
def behind (q : DataBase α) : List α :=
  (q.data.take q.startArrayIdx).flatten ++
    (q.data.drop q.startArrayIdx).flatten.take q.startElementIdx

/-- The cursor is at an element, or behind the last array. -/
structure WellPlaced (q : DataBase α) : Prop where
  full : ∀ array ∈ q.data, array ≠ []
  arrayIdx : q.startArrayIdx ≤ q.data.length
  elementIdx : q.startElementIdx = 0 ∨
    q.startElementIdx < ((q.data.drop q.startArrayIdx).headD []).length

/-- The number of arrays that are read to their end by a read of so many elements. -/
def arraysEnded : ℕ → List (List α) → ℕ
  | _, [] => 0
  | n, array :: rest => if array.length ≤ n then arraysEnded (n - array.length) rest + 1 else 0

/-- A read from an array of the queue keeps its sums within an `int`: the element index with the
count, and the array index behind the last array that it leaves. -/
def InRange (q : DataBase α) (elementNum : ℤ) (isDeleteAfterGet : Bool) : Prop :=
  0 < elementNum → q.startArrayIdx < q.data.length →
    q.startElementIdx + elementNum < 2 ^ 31 ∧
      (isDeleteAfterGet = false → q.startArrayIdx +
        arraysEnded (q.startElementIdx + elementNum.toNat) (q.data.drop q.startArrayIdx) < 2 ^ 31)

/-! ## The loop of a read -/

/-- A read of `n` elements from the arrays in front of which the cursor stands: it takes the next
elements, and the cursor moves behind them. -/
structure Reads (tail : List (List α)) (arrayIdx elementIdx n : ℕ) (out : List α)
    (left : DataBase α) : Prop where
  out_eq : out = (tail.flatten.drop elementIdx).take n
  moved : ∃ k, left.startArrayIdx = arrayIdx + k ∧
    WellPlaced ⟨left.data, k, left.startElementIdx⟩ ∧
    ahead ⟨left.data, k, left.startElementIdx⟩ = (tail.flatten.drop elementIdx).drop n ∧
    (behind ⟨left.data, k, left.startElementIdx⟩).Sublist (tail.flatten.take elementIdx ++ out)

lemma reads_none {tail : List (List α)} {arrayIdx elementIdx : ℕ}
    (full : ∀ array ∈ tail, array ≠ [])
    (place : elementIdx = 0 ∨ elementIdx < (tail.headD []).length) :
    Reads tail arrayIdx elementIdx 0 [] ⟨tail, arrayIdx, elementIdx⟩ where
  out_eq := rfl
  moved := by
    refine ⟨0, rfl, ⟨full, Nat.zero_le _, place⟩, rfl, ?_⟩
    rw [List.append_nil]
    exact List.Sublist.refl _

section

variable {array : List α} {rest : List (List α)} {elementIdx n : ℕ}

/-- The next elements when an array is read to its end. -/
lemma ended_take (within : elementIdx ≤ array.length) (reaches : array.length ≤ elementIdx + n) :
    ((array :: rest).flatten.drop elementIdx).take n =
      array.drop elementIdx ++ rest.flatten.take (n - (array.length - elementIdx)) := by
  have size : (array.drop elementIdx).length = array.length - elementIdx := List.length_drop
  rw [List.flatten_cons, List.drop_append_of_le_length within, List.take_append, size,
    List.take_of_length_le (by omega)]

lemma ended_drop (within : elementIdx ≤ array.length) (reaches : array.length ≤ elementIdx + n) :
    ((array :: rest).flatten.drop elementIdx).drop n =
      rest.flatten.drop (n - (array.length - elementIdx)) := by
  have size : (array.drop elementIdx).length = array.length - elementIdx := List.length_drop
  rw [List.flatten_cons, List.drop_append_of_le_length within, List.drop_append, size,
    List.drop_of_length_le (by omega), List.nil_append]

variable {arrayIdx : ℕ} {out : List α} {left : DataBase α}

/-- An array that is read to its end and deleted is followed by a read from the next one. -/
lemma Reads.deleted (within : elementIdx ≤ array.length)
    (reaches : array.length ≤ elementIdx + n)
    (reads : Reads rest arrayIdx 0 (n - (array.length - elementIdx)) out left) :
    Reads (array :: rest) arrayIdx elementIdx n (array.drop elementIdx ++ out) left := by
  obtain ⟨out_eq, k, index, placed, ahead_, behind_⟩ := reads
  rw [List.drop_zero] at out_eq ahead_
  refine ⟨?_, k, index, placed, ?_, ?_⟩
  · rw [ended_take within reaches, out_eq]
  · rw [ended_drop within reaches, ahead_]
  · rw [List.take_zero, List.nil_append] at behind_
    refine behind_.trans ?_
    rw [← List.append_assoc]
    exact List.sublist_append_right _ _

/-- The same for an array that is kept. -/
lemma Reads.passed (some_ : array ≠ []) (within : elementIdx ≤ array.length)
    (reaches : array.length ≤ elementIdx + n)
    (reads : Reads rest (arrayIdx + 1) 0 (n - (array.length - elementIdx)) out left) :
    Reads (array :: rest) arrayIdx elementIdx n (array.drop elementIdx ++ out)
      { left with data := array :: left.data } := by
  obtain ⟨out_eq, k, index, placed, ahead_, behind_⟩ := reads
  rw [List.drop_zero] at out_eq ahead_
  refine ⟨?_, k + 1, ?_, ⟨?_, ?_, placed.elementIdx⟩, ?_, ?_⟩
  · rw [ended_take within reaches, out_eq]
  · exact index.trans (by omega)
  · intro other there
    obtain rfl | later := List.mem_cons.mp there
    · exact some_
    · exact placed.full other later
  · exact Nat.succ_le_succ placed.arrayIdx
  · rw [ended_drop within reaches]
    exact ahead_
  · rw [List.take_zero, List.nil_append] at behind_
    have split : (array :: rest).flatten.take elementIdx ++ (array.drop elementIdx ++ out) =
        array ++ out := by
      rw [List.flatten_cons, List.take_append_of_le_length within, ← List.append_assoc,
        List.take_append_drop]
    rw [split]
    have front : behind ⟨array :: left.data, k + 1, left.startElementIdx⟩ =
        array ++ behind ⟨left.data, k, left.startElementIdx⟩ := by
      simp [behind]
    rw [front]
    exact behind_.append_left array

/-- The last array of a read. -/
lemma Reads.stopped (full : ∀ other ∈ array :: rest, other ≠ [])
    (within : elementIdx + n < array.length) :
    Reads (array :: rest) arrayIdx elementIdx n ((array.drop elementIdx).take n)
      ⟨array :: rest, arrayIdx, elementIdx + n⟩ := by
  have front : (array :: rest).flatten.drop elementIdx = array.drop elementIdx ++ rest.flatten := by
    rw [List.flatten_cons, List.drop_append_of_le_length (by omega)]
  have taken : ((array :: rest).flatten.drop elementIdx).take n =
      (array.drop elementIdx).take n := by
    rw [front, List.take_append_of_le_length (by rw [List.length_drop]; omega)]
  refine ⟨taken.symm, 0, rfl, ⟨full, Nat.zero_le _, .inr within⟩, ?_, ?_⟩
  · rw [List.drop_drop]
    rfl
  · rw [← taken, ← List.take_add]
    exact List.Sublist.refl _

end

/-- A read takes the next elements. -/
theorem getLoop_reads {isDeleteAfterGet : Bool} {elementNum numShift arrayIdx elementIdx : ℕ}
    {tail : List (List α)} {read : List α × DataBase α} (full : ∀ array ∈ tail, array ≠ [])
    (place : elementIdx = 0 ∨ elementIdx < (tail.headD []).length)
    (done : getLoop isDeleteAfterGet elementNum numShift arrayIdx elementIdx tail = some read) :
    Reads tail arrayIdx elementIdx (elementNum - numShift) read.1 read.2 := by
  induction tail generalizing numShift arrayIdx elementIdx read with
  | nil =>
    rw [getLoop, Option.some.injEq] at done
    subst done
    obtain rfl : elementIdx = 0 := place.resolve_right (Nat.not_lt_zero _)
    refine ⟨by simp, 0, rfl, ⟨full, le_rfl, .inl rfl⟩, by simp [ahead], by simp [behind]⟩
  | cons array rest ih =>
    have within : elementIdx ≤ array.length := by
      obtain rfl | inside := place
      · exact Nat.zero_le _
      · exact le_of_lt inside
    have later : ∀ other ∈ rest, other ≠ [] := fun other there =>
      full other (List.mem_cons_of_mem array there)
    unfold getLoop at done
    split at done
    · rename_i enough
      obtain rfl := Option.some.inj done
      rw [Nat.sub_eq_zero_of_le enough]
      exact reads_none full place
    split at done
    · cases done
    split at done
    · rename_i more defined reaches
      have left : elementNum - (numShift + (array.length - elementIdx)) =
          elementNum - numShift - (array.length - elementIdx) := Nat.sub_add_eq _ _ _
      split at done
      · obtain ⟨further, loop, rfl⟩ := Option.map_eq_some_iff.mp done
        refine Reads.deleted within (by omega) ?_
        exact left ▸ ih later (.inl rfl) loop
      split at done
      · cases done
      · obtain ⟨further, loop, rfl⟩ := Option.map_eq_some_iff.mp done
        refine Reads.passed (full array List.mem_cons_self) within (by omega) ?_
        exact left ▸ ih later (.inl rfl) loop
    · obtain rfl := Option.some.inj done
      exact Reads.stopped full (by omega)

/-- A read that deletes nothing leaves the arrays. -/
lemma getLoop_data {elementNum numShift arrayIdx elementIdx : ℕ} {tail : List (List α)}
    {read : List α × DataBase α}
    (done : getLoop false elementNum numShift arrayIdx elementIdx tail = some read) :
    read.2.data = tail := by
  induction tail generalizing numShift arrayIdx elementIdx read with
  | nil =>
    rw [getLoop, Option.some.injEq] at done
    rw [← done]
  | cons array rest ih =>
    unfold getLoop at done
    split at done
    · rw [← Option.some.inj done]
    split at done
    · cases done
    split at done
    · rw [if_neg Bool.false_ne_true] at done
      split at done
      · cases done
      · obtain ⟨further, loop, rfl⟩ := Option.map_eq_some_iff.mp done
        exact congrArg (array :: ·) (ih loop)
    · rw [← Option.some.inj done]

lemma arraysEnded_zero {tail : List (List α)} (full : ∀ array ∈ tail, array ≠ []) :
    arraysEnded 0 tail = 0 := by
  cases tail with
  | nil => rfl
  | cons array rest =>
    have some_ := List.length_pos_of_ne_nil (full array List.mem_cons_self)
    rw [arraysEnded, if_neg (by omega)]

/-- A read is defined exactly when its sums are in the range of an `int`. -/
theorem getLoop_isSome_iff {isDeleteAfterGet : Bool}
    {elementNum numShift arrayIdx elementIdx : ℕ} {tail : List (List α)}
    (full : ∀ array ∈ tail, array ≠ [])
    (place : elementIdx = 0 ∨ elementIdx < (tail.headD []).length) (small : arrayIdx < 2 ^ 31) :
    (getLoop isDeleteAfterGet elementNum numShift arrayIdx elementIdx tail).isSome ↔
      (numShift < elementNum → tail ≠ [] → elementIdx + elementNum < 2 ^ 31 ∧
        (isDeleteAfterGet = false →
          arrayIdx + arraysEnded (elementIdx + (elementNum - numShift)) tail < 2 ^ 31)) := by
  induction tail generalizing numShift arrayIdx elementIdx with
  | nil => simp [getLoop]
  | cons array rest ih =>
    have within : elementIdx ≤ array.length := by
      obtain rfl | inside := place
      · exact Nat.zero_le _
      · exact le_of_lt inside
    have later : ∀ other ∈ rest, other ≠ [] := fun other there =>
      full other (List.mem_cons_of_mem array there)
    unfold getLoop
    by_cases enough : elementNum ≤ numShift
    · rw [if_pos enough]
      exact iff_of_true rfl fun more => absurd more (by omega)
    rw [if_neg enough]
    by_cases overflow : 2 ^ 31 ≤ elementIdx + elementNum
    · rw [if_pos (.inl overflow)]
      refine iff_of_false Bool.false_ne_true fun range => ?_
      exact absurd (range (by omega) (List.cons_ne_nil _ _)).1 (by omega)
    rw [if_neg (by omega)]
    by_cases reaches : array.length ≤ elementIdx + elementNum - numShift
    · have ended : arraysEnded (elementIdx + (elementNum - numShift)) (array :: rest) =
          arraysEnded (elementNum - (numShift + (array.length - elementIdx))) rest + 1 := by
        rw [arraysEnded, if_pos (by omega)]
        congr 2
        omega
      rw [if_pos reaches, ended]
      cases isDeleteAfterGet with
      | true =>
        rw [if_pos rfl, Option.isSome_map, ih later (.inl rfl) small]
        exact iff_of_true (fun _ _ => ⟨by omega, fun kept => absurd kept (by decide)⟩)
          (fun _ _ => ⟨by omega, fun kept => absurd kept (by decide)⟩)
      | false =>
        rw [if_neg Bool.false_ne_true]
        by_cases last : 2 ^ 31 ≤ arrayIdx + 1
        · rw [if_pos last]
          refine iff_of_false Bool.false_ne_true fun range => ?_
          exact absurd ((range (by omega) (List.cons_ne_nil _ _)).2 rfl) (by omega)
        · rw [if_neg last, Option.isSome_map, ih later (.inl rfl) (by omega), Nat.zero_add,
            Nat.zero_add]
          constructor
          · intro range more some_
            refine ⟨by omega, fun _ => ?_⟩
            by_cases past : elementNum ≤ numShift + (array.length - elementIdx)
            · rw [Nat.sub_eq_zero_of_le past, arraysEnded_zero later]
              omega
            by_cases empty : rest = []
            · rw [empty, arraysEnded]
              omega
            · have all := (range (by omega) empty).2 rfl
              omega
          · intro range more some_
            have all := (range (by omega) (List.cons_ne_nil _ _)).2 rfl
            exact ⟨by omega, fun _ => by omega⟩
    · rw [if_neg reaches]
      have none_ : arraysEnded (elementIdx + (elementNum - numShift)) (array :: rest) = 0 := by
        rw [arraysEnded, if_neg (by omega)]
      rw [none_]
      exact iff_of_true rfl fun _ _ => ⟨by omega, fun _ => small⟩

/-! ## One call -/

variable {q : DataBase α}

/-- A read hands out the next elements, and the cursor moves behind them. -/
lemma get_reads {elementNum : ℤ} {isDeleteAfterGet : Bool} {read : List α × DataBase α}
    (placed : q.WellPlaced) (done : q.get elementNum isDeleteAfterGet = some read) :
    read.1 = q.ahead.take elementNum.toNat ∧ read.2.WellPlaced ∧
      read.2.ahead = q.ahead.drop elementNum.toNat ∧
      read.2.behind.Sublist (q.behind ++ read.1) := by
  unfold get at done
  split at done
  · obtain ⟨loop, looped, rfl⟩ := Option.map_eq_some_iff.mp done
    have full : ∀ array ∈ q.data.drop q.startArrayIdx, array ≠ [] := fun array there =>
      placed.full array (List.mem_of_mem_drop there)
    obtain ⟨out_eq, k, index, placed', ahead_, behind_⟩ :=
      getLoop_reads full placed.elementIdx looped
    have front : (q.data.take q.startArrayIdx).length = q.startArrayIdx := by
      rw [List.length_take, Nat.min_eq_left placed.arrayIdx]
    have later : (q.data.take q.startArrayIdx ++ loop.2.data).drop loop.2.startArrayIdx =
        loop.2.data.drop k := by
      have skip : (q.data.take q.startArrayIdx ++ loop.2.data).drop
          ((q.data.take q.startArrayIdx).length + k) = loop.2.data.drop k :=
        List.drop_length_add_append ..
      rwa [front, ← index] at skip
    have earlier : (q.data.take q.startArrayIdx ++ loop.2.data).take loop.2.startArrayIdx =
        q.data.take q.startArrayIdx ++ loop.2.data.take k := by
      have skip : (q.data.take q.startArrayIdx ++ loop.2.data).take
          ((q.data.take q.startArrayIdx).length + k) =
            q.data.take q.startArrayIdx ++ loop.2.data.take k :=
        List.take_length_add_append ..
      rwa [front, ← index] at skip
    refine ⟨out_eq, ⟨?_, ?_, ?_⟩, ?_, ?_⟩
    · intro array there
      obtain before | after := List.mem_append.mp there
      · exact placed.full array (List.mem_of_mem_take before)
      · exact placed'.full array after
    · have within : k ≤ loop.2.data.length := placed'.arrayIdx
      dsimp only
      rw [List.length_append, front, index]
      omega
    · dsimp only
      rw [later]
      exact placed'.elementIdx
    · rw [ahead, later]
      exact ahead_
    · rw [behind, behind, later, earlier, List.flatten_append, List.append_assoc,
        List.append_assoc]
      exact behind_.append_left _
  · rename_i none_
    obtain rfl := Option.some.inj done
    have zero : elementNum.toNat = 0 := by omega
    rw [zero]
    refine ⟨rfl, placed, rfl, ?_⟩
    rw [List.append_nil]

lemma get_data {elementNum : ℤ} {read : List α × DataBase α}
    (done : q.get elementNum false = some read) : read.2.data = q.data := by
  unfold get at done
  split at done
  · obtain ⟨loop, looped, rfl⟩ := Option.map_eq_some_iff.mp done
    dsimp only
    rw [getLoop_data looped, List.take_append_drop]
  · rw [← Option.some.inj done]

lemma get_isSome_iff {elementNum : ℤ} {isDeleteAfterGet : Bool} (placed : q.WellPlaced)
    (small : q.startArrayIdx < 2 ^ 31) :
    (q.get elementNum isDeleteAfterGet).isSome ↔ q.InRange elementNum isDeleteAfterGet := by
  have full : ∀ array ∈ q.data.drop q.startArrayIdx, array ≠ [] := fun array there =>
    placed.full array (List.mem_of_mem_drop there)
  unfold get InRange
  split
  · rename_i some_
    have more : 0 < elementNum.toNat := by omega
    rw [Option.isSome_map, getLoop_isSome_iff full placed.elementIdx small]
    constructor
    · intro range _ inside
      have there : q.data.drop q.startArrayIdx ≠ [] := by
        rw [Ne, List.drop_eq_nil_iff]
        omega
      obtain ⟨sum, index⟩ := range more there
      exact ⟨by omega, index⟩
    · intro range _ there
      rw [Ne, List.drop_eq_nil_iff] at there
      obtain ⟨sum, index⟩ := range some_ (by omega)
      exact ⟨by omega, index⟩
  · rename_i none_
    exact iff_of_true rfl fun some_ => absurd some_ none_

lemma flushLoop_eq (arrayIdx : ℕ) (data : List (List α)) :
    flushLoop arrayIdx data =
      if arrayIdx < data.length then (0, data.drop arrayIdx) else (arrayIdx, data) := by
  induction arrayIdx generalizing data with
  | zero =>
    cases data with
    | nil => rfl
    | cons array rest => rfl
  | succ arrayIdx ih =>
    cases data with
    | nil => rfl
    | cons array rest =>
      rw [flushLoop, ih]
      simp only [List.length_cons, List.drop_succ_cons]
      by_cases inside : arrayIdx + 1 < rest.length + 1
      · rw [if_pos inside, if_pos inside, if_pos (by omega)]
      · rw [if_neg inside, if_neg inside]

/-- The cursor stays at its element and its place in it, while arrays in front of it are removed. -/
def Trimmed (q q' : DataBase α) : Prop :=
  ∃ k ≤ q.startArrayIdx,
    q' = ⟨q.data.drop k, q.startArrayIdx - k, q.startElementIdx⟩

lemma flush_trimmed (q : DataBase α) : Trimmed q q.flush := by
  unfold flush
  rw [flushLoop_eq]
  split
  · exact ⟨q.startArrayIdx, le_rfl, by rw [Nat.sub_self]⟩
  · exact ⟨0, Nat.zero_le _, rfl⟩

lemma trimmed_self (q : DataBase α) : Trimmed q q := ⟨0, Nat.zero_le _, rfl⟩

section

variable {q' : DataBase α}

lemma Trimmed.drop (trimmed : Trimmed q q') :
    q'.data.drop q'.startArrayIdx = q.data.drop q.startArrayIdx := by
  obtain ⟨k, within, rfl⟩ := trimmed
  dsimp only
  rw [List.drop_drop]
  congr 1
  omega

lemma Trimmed.ahead_eq (trimmed : Trimmed q q') : q'.ahead = q.ahead := by
  have same := trimmed.drop
  obtain ⟨k, within, rfl⟩ := trimmed
  rw [ahead, ahead, same]

lemma Trimmed.behind_sublist (trimmed : Trimmed q q') : q'.behind.Sublist q.behind := by
  have same := trimmed.drop
  obtain ⟨k, within, rfl⟩ := trimmed
  rw [behind, behind, same]
  refine List.Sublist.append_right ?_ _
  have later : (q.data.drop k).take (q.startArrayIdx - k) =
      (q.data.take q.startArrayIdx).drop k := List.drop_take.symm
  dsimp only
  rw [later]
  exact (List.drop_sublist _ _).flatten

lemma Trimmed.wellPlaced (trimmed : Trimmed q q') (placed : q.WellPlaced) : q'.WellPlaced := by
  have same := trimmed.drop
  obtain ⟨k, within, rfl⟩ := trimmed
  refine ⟨fun array there => placed.full array (List.mem_of_mem_drop there), ?_, ?_⟩
  · have inside := placed.arrayIdx
    dsimp only
    rw [List.length_drop]
    omega
  · rw [same]
    exact placed.elementIdx

/-- The arrays that are removed have been in front of the cursor. -/
lemma removed_sublist {k : ℕ} (within : k ≤ q.startArrayIdx) :
    (q.data.take k).flatten.Sublist q.behind := by
  refine List.Sublist.trans ?_ (List.sublist_append_left _ _)
  exact (List.take_sublist_take_left within).flatten

end

/-- What is handed out, and what is left ahead of the cursor, is what was ahead of it. -/
structure Delivers (q : DataBase α) (out : List α) (q' : DataBase α) : Prop where
  wellPlaced : q'.WellPlaced
  ahead : out ++ q'.ahead = q.ahead
  behind : q'.behind.Sublist (q.behind ++ out)

lemma Trimmed.delivers {q' : DataBase α} (trimmed : Trimmed q q') (placed : q.WellPlaced) :
    Delivers q [] q' where
  wellPlaced := trimmed.wellPlaced placed
  ahead := trimmed.ahead_eq
  behind := by
    rw [List.append_nil]
    exact trimmed.behind_sublist

lemma Delivers.trimmed {out : List α} {middle q' : DataBase α} (delivers : Delivers q out middle)
    (trimmed : Trimmed middle q') : Delivers q out q' where
  wellPlaced := trimmed.wellPlaced delivers.wellPlaced
  ahead := by rw [trimmed.ahead_eq, delivers.ahead]
  behind := trimmed.behind_sublist.trans delivers.behind

lemma get_delivers {elementNum : ℤ} {isDeleteAfterGet : Bool} {read : List α × DataBase α}
    (placed : q.WellPlaced) (done : q.get elementNum isDeleteAfterGet = some read) :
    Delivers q read.1 read.2 := by
  obtain ⟨out_eq, placed', ahead_, behind_⟩ := get_reads placed done
  refine ⟨placed', ?_, behind_⟩
  rw [ahead_, out_eq, List.take_append_drop]

lemma tryGet_isSome (q : DataBase α) (elementNum : ℤ) (isDeleteAfterGet : Bool) :
    (q.tryGet elementNum isDeleteAfterGet).isSome = (q.get elementNum false).isSome :=
  Option.isSome_map

/-- All elements are handed out where there are so many, else the cursor stays. -/
theorem tryGet_cases {elementNum : ℤ} {isDeleteAfterGet : Bool} {read : List α × DataBase α}
    (placed : q.WellPlaced) (done : q.tryGet elementNum isDeleteAfterGet = some read) :
    (elementNum = read.1.length ∧ Delivers q read.1 read.2) ∨
      ((elementNum < 0 ∨ q.ahead.length < elementNum) ∧ read.1 = [] ∧ Trimmed q read.2) := by
  obtain ⟨got, gets, rfl⟩ := Option.map_eq_some_iff.mp done
  have delivers := get_delivers placed gets
  obtain ⟨out_eq, -, -, -⟩ := get_reads placed gets
  have count : got.1.length = min elementNum.toNat q.ahead.length := by
    rw [out_eq, List.length_take]
  by_cases short : elementNum ≠ got.1.length
  · refine .inr ⟨by omega, ?_⟩
    have back : { got.2 with
        startArrayIdx := q.startArrayIdx, startElementIdx := q.startElementIdx } = q := by
      change (⟨got.2.data, q.startArrayIdx, q.startElementIdx⟩ : DataBase α) = q
      rw [get_data gets]
    rw [if_pos short]
    dsimp only
    rw [back]
    refine ⟨rfl, ?_⟩
    split
    · exact flush_trimmed q
    · exact trimmed_self q
  · refine .inl ?_
    rw [if_neg short]
    refine ⟨not_not.mp short, ?_⟩
    dsimp only
    split
    · exact delivers.trimmed (flush_trimmed got.2)
    · exact delivers

lemma getLoop_startArrayIdx {isDeleteAfterGet : Bool}
    {elementNum numShift arrayIdx elementIdx : ℕ} {tail : List (List α)}
    {read : List α × DataBase α} (small : arrayIdx < 2 ^ 31)
    (done : getLoop isDeleteAfterGet elementNum numShift arrayIdx elementIdx tail = some read) :
    read.2.startArrayIdx < 2 ^ 31 := by
  induction tail generalizing numShift arrayIdx elementIdx read with
  | nil =>
    rw [getLoop, Option.some.injEq] at done
    rw [← done]
    exact small
  | cons array rest ih =>
    unfold getLoop at done
    split at done
    · rw [← Option.some.inj done]
      exact small
    split at done
    · cases done
    split at done
    · split at done
      · obtain ⟨further, loop, rfl⟩ := Option.map_eq_some_iff.mp done
        have bounded := ih small loop
        exact bounded
      split at done
      · cases done
      · obtain ⟨further, loop, rfl⟩ := Option.map_eq_some_iff.mp done
        have bounded := ih (by omega) loop
        exact bounded
    · rw [← Option.some.inj done]
      exact small

lemma get_startArrayIdx {elementNum : ℤ} {isDeleteAfterGet : Bool} {read : List α × DataBase α}
    (small : q.startArrayIdx < 2 ^ 31) (done : q.get elementNum isDeleteAfterGet = some read) :
    read.2.startArrayIdx < 2 ^ 31 := by
  unfold get at done
  split at done
  · obtain ⟨loop, looped, rfl⟩ := Option.map_eq_some_iff.mp done
    have bounded := getLoop_startArrayIdx small looped
    exact bounded
  · rw [← Option.some.inj done]
    exact small

lemma Trimmed.startArrayIdx {q' : DataBase α} (trimmed : Trimmed q q') :
    q'.startArrayIdx ≤ q.startArrayIdx := by
  obtain ⟨k, within, rfl⟩ := trimmed
  exact Nat.sub_le _ _

lemma tryGet_startArrayIdx {elementNum : ℤ} {isDeleteAfterGet : Bool} {read : List α × DataBase α}
    (small : q.startArrayIdx < 2 ^ 31)
    (done : q.tryGet elementNum isDeleteAfterGet = some read) :
    read.2.startArrayIdx < 2 ^ 31 := by
  obtain ⟨got, gets, rfl⟩ := Option.map_eq_some_iff.mp done
  have bounded := get_startArrayIdx small gets
  split
  · dsimp only
    split
    · exact (flush_trimmed _).startArrayIdx.trans_lt small
    · exact small
  · dsimp only
    split
    · exact (flush_trimmed _).startArrayIdx.trans_lt bounded
    · exact bounded

lemma WellPlaced.within (placed : q.WellPlaced) :
    q.startElementIdx ≤ (q.data.drop q.startArrayIdx).flatten.length := by
  obtain zero | inside := placed.elementIdx
  · rw [zero]
    exact Nat.zero_le _
  · cases later : q.data.drop q.startArrayIdx with
    | nil =>
      rw [later] at inside
      exact absurd inside (Nat.not_lt_zero _)
    | cons array rest =>
      rw [later] at inside
      rw [List.flatten_cons, List.length_append]
      exact le_of_lt (inside.trans_le (Nat.le_add_right _ _))

/-- An array that is pushed is ahead of the cursor, behind all others. -/
lemma pushback_ahead (placed : q.WellPlaced) (array : List α) :
    (q.pushback array).ahead = q.ahead ++ array ∧ (q.pushback array).behind = q.behind ∧
      (q.pushback array).WellPlaced ∧ (q.pushback array).startArrayIdx = q.startArrayIdx := by
  unfold pushback
  split
  · rename_i empty
    rw [empty, List.append_nil]
    exact ⟨rfl, rfl, placed, rfl⟩
  · rename_i some_
    have later : (q.data ++ [array]).drop q.startArrayIdx =
        q.data.drop q.startArrayIdx ++ [array] :=
      List.drop_append_of_le_length placed.arrayIdx
    have earlier : (q.data ++ [array]).take q.startArrayIdx = q.data.take q.startArrayIdx :=
      List.take_append_of_le_length placed.arrayIdx
    have within := placed.within
    refine ⟨?_, ?_, ⟨?_, ?_, ?_⟩, rfl⟩
    · rw [ahead, later, List.flatten_append, List.drop_append_of_le_length within,
        List.flatten_singleton, ahead]
    · rw [behind, later, earlier, List.flatten_append, List.take_append_of_le_length within, behind]
    · intro other there
      obtain old | new := List.mem_append.mp there
      · exact placed.full other old
      · rw [List.mem_singleton.mp new]
        exact some_
    · have inside := placed.arrayIdx
      dsimp only
      rw [List.length_append]
      omega
    · dsimp only
      rw [later]
      obtain zero | inside := placed.elementIdx
      · exact .inl zero
      · refine .inr ?_
        cases rest : q.data.drop q.startArrayIdx with
        | nil =>
          rw [rest] at inside
          exact absurd inside (Nat.not_lt_zero _)
        | cons first rest' =>
          rw [rest] at inside
          exact inside

end DataBase

/-! ## Sequences of calls -/

inductive Call (α : Type*)
  | pushback (array : List α)
  | get (elementNum : ℤ) (isDeleteAfterGet : Bool)
  | tryGet (elementNum : ℤ) (isDeleteAfterGet : Bool)
  | flush

/-- The queue, with a record of the elements that were pushed and of those obtained. -/
structure Session (α : Type*) where
  queue : DataBase α := {}
  pushed : List α := []
  obtained : List α := []

namespace Session

/-- The elements a call returns are obtained. -/
def obtain_ (s : Session α) (read : List α × DataBase α) : Session α :=
  { s with queue := read.2, obtained := s.obtained ++ read.1 }

/-- A call on the cursor that the call before returned; none where its behaviour is undefined. -/
def step (s : Session α) : Call α → Option (Session α)
  | .pushback array =>
    some { s with queue := s.queue.pushback array, pushed := s.pushed ++ array }
  | .get elementNum isDeleteAfterGet =>
    (s.queue.get elementNum isDeleteAfterGet).map s.obtain_
  | .tryGet elementNum isDeleteAfterGet =>
    (s.queue.tryGet elementNum isDeleteAfterGet).map s.obtain_
  | .flush => some { s with queue := s.queue.flush }

/-- What is read from stays within the `int` sums of the call. -/
def InRange (s : Session α) : Call α → Prop
  | .get elementNum isDeleteAfterGet => s.queue.InRange elementNum isDeleteAfterGet
  | .tryGet elementNum _ => s.queue.InRange elementNum false
  | _ => True

/-- The cursor stays at its element, and the arrays that are removed have been obtained. -/
def Stays (s s' : Session α) : Prop :=
  ∃ k ≤ s.queue.startArrayIdx,
    s'.queue = ⟨s.queue.data.drop k, s.queue.startArrayIdx - k, s.queue.startElementIdx⟩ ∧
      (s.queue.data.take k).flatten.Sublist s.obtained

/-- What is obtained is pushed, in order and each element once, and the others are still ahead; a
`TryGet` that cannot deliver leaves the cursor, and it removes only what has been obtained, like
`Flush`. -/
structure Faithful (s : Session α) (call : Call α) (s' : Session α) : Prop where
  inOrder : s'.obtained <+: s'.pushed
  kept : s'.obtained ++ s'.queue.ahead = s'.pushed
  short : ∀ elementNum isDeleteAfterGet, call = .tryGet elementNum isDeleteAfterGet →
    s.queue.ahead.length < elementNum → s'.obtained = s.obtained ∧ Stays s s'
  flushed : call = .flush → Stays s s'

/-- The elements that are not ahead of the cursor have been obtained. -/
structure Sound (s : Session α) : Prop where
  wellPlaced : s.queue.WellPlaced
  arrayIdx : s.queue.startArrayIdx < 2 ^ 31
  kept : s.obtained ++ s.queue.ahead = s.pushed
  behind : s.queue.behind.Sublist s.obtained

variable {s s' : Session α} {call : Call α}

lemma Sound.obtain {read : List α × DataBase α} (sound : Sound s)
    (delivers : DataBase.Delivers s.queue read.1 read.2)
    (small : read.2.startArrayIdx < 2 ^ 31) : Sound (s.obtain_ read) where
  wellPlaced := delivers.wellPlaced
  arrayIdx := small
  kept := by
    change (s.obtained ++ read.1) ++ read.2.ahead = s.pushed
    rw [List.append_assoc, delivers.ahead, sound.kept]
  behind := delivers.behind.trans (sound.behind.append_right read.1)

lemma Sound.stays (sound : Sound s) (trimmed : DataBase.Trimmed s.queue s'.queue) :
    Stays s s' := by
  obtain ⟨k, within, queue⟩ := trimmed
  exact ⟨k, within, queue, (DataBase.removed_sublist within).trans sound.behind⟩

/-- A call whose behaviour is defined is faithful and keeps the queue sound. -/
theorem step_faithful (sound : Sound s) (done : s.step call = some s') :
    Sound s' ∧ Faithful s call s' := by
  have after (sound' : Sound s')
      (short : ∀ elementNum isDeleteAfterGet, call = .tryGet elementNum isDeleteAfterGet →
        s.queue.ahead.length < elementNum → s'.obtained = s.obtained ∧ Stays s s')
      (flushed : call = .flush → Stays s s') : Sound s' ∧ Faithful s call s' :=
    ⟨sound', ⟨_, sound'.kept⟩, sound'.kept, short, flushed⟩
  cases call with
  | pushback array =>
    obtain rfl := Option.some.inj done
    obtain ⟨ahead_, behind_, placed, index⟩ := DataBase.pushback_ahead sound.wellPlaced array
    refine after ⟨placed, ?_, ?_, ?_⟩ (fun _ _ other => by cases other) (fun other => by cases other)
    · rw [index]
      exact sound.arrayIdx
    · rw [ahead_, ← List.append_assoc, sound.kept]
    · rw [behind_]
      exact sound.behind
  | get elementNum isDeleteAfterGet =>
    obtain ⟨read, gets, rfl⟩ := Option.map_eq_some_iff.mp done
    refine after ?_ (fun _ _ other => by cases other) (fun other => by cases other)
    exact sound.obtain (DataBase.get_delivers sound.wellPlaced gets)
      (DataBase.get_startArrayIdx sound.arrayIdx gets)
  | tryGet elementNum isDeleteAfterGet =>
    obtain ⟨read, gets, rfl⟩ := Option.map_eq_some_iff.mp done
    have small := DataBase.tryGet_startArrayIdx sound.arrayIdx gets
    obtain ⟨count, delivers⟩ | ⟨-, none_, trimmed⟩ := DataBase.tryGet_cases sound.wellPlaced gets
    · refine after (sound.obtain delivers small) ?_ (fun other => by cases other)
      intro elementNum' isDeleteAfterGet' same short
      obtain ⟨rfl, rfl⟩ := Call.tryGet.inj same
      have enough := congrArg List.length delivers.ahead
      rw [List.length_append] at enough
      omega
    · have delivers := trimmed.delivers sound.wellPlaced
      rw [← none_] at delivers
      refine after (sound.obtain delivers small) ?_ (fun other => by cases other)
      intro _ _ _ _
      refine ⟨?_, sound.stays trimmed⟩
      change s.obtained ++ read.1 = s.obtained
      rw [none_, List.append_nil]
  | flush =>
    obtain rfl := Option.some.inj done
    have trimmed := DataBase.flush_trimmed s.queue
    have delivers := trimmed.delivers sound.wellPlaced
    refine after ⟨delivers.wellPlaced, ?_, ?_, ?_⟩ (fun _ _ other => by cases other)
      (fun _ => sound.stays trimmed)
    · exact trimmed.startArrayIdx.trans_lt sound.arrayIdx
    · exact trimmed.ahead_eq ▸ sound.kept
    · exact trimmed.behind_sublist.trans sound.behind

lemma step_isSome_iff (sound : Sound s) (call : Call α) :
    (s.step call).isSome ↔ s.InRange call := by
  cases call with
  | pushback array => exact iff_of_true rfl trivial
  | get elementNum isDeleteAfterGet =>
    change ((s.queue.get elementNum isDeleteAfterGet).map s.obtain_).isSome ↔ _
    rw [Option.isSome_map]
    exact DataBase.get_isSome_iff sound.wellPlaced sound.arrayIdx
  | tryGet elementNum isDeleteAfterGet =>
    change ((s.queue.tryGet elementNum isDeleteAfterGet).map s.obtain_).isSome ↔ _
    rw [Option.isSome_map, DataBase.tryGet_isSome]
    exact DataBase.get_isSome_iff sound.wellPlaced sound.arrayIdx
  | flush => exact iff_of_true rfl trivial

/-- A sequence of calls, up to one whose behaviour is undefined. -/
def next (s : Option (Session α)) (call : Call α) : Option (Session α) := s.bind (·.step call)

/-- The condition of a call in a sequence. -/
def NextInRange (s : Option (Session α)) (call : Call α) : Prop := ∀ t, s = some t → t.InRange call

lemma next_sound (s : Option (Session α)) (call : Call α) (sound : ∃ t, s = some t ∧ Sound t) :
    (∃ t, next s call = some t ∧ Sound t) ↔ NextInRange s call := by
  obtain ⟨t, rfl, sound⟩ := sound
  have defined := step_isSome_iff sound call
  constructor
  · rintro ⟨t', done, -⟩ u same
    obtain rfl := Option.some.inj same
    exact defined.mp (Option.isSome_iff_exists.mpr ⟨t', done⟩)
  · intro range
    obtain ⟨t', done⟩ := Option.isSome_iff_exists.mp (defined.mpr (range t rfl))
    exact ⟨t', done, (step_faithful sound done).1⟩

lemma sound_start : ∃ t, (some {} : Option (Session α)) = some t ∧ Sound t := by
  refine ⟨{}, rfl, ⟨?_, le_rfl, .inl rfl⟩, ?_, rfl, ?_⟩
  · intro array there
    cases there
  · exact Nat.two_pow_pos 31
  · exact List.Sublist.refl _

/-- Whatever the calls, arrays and counts, every call is defined and faithful exactly when the sums
of each read are in the range of an `int`. -/
theorem fifo_iff (calls : List (Call α)) :
    (∀ part call, part ++ [call] <+: calls → ∃ s s', run next (some {}) part = some s ∧
      run next (some {}) (part ++ [call]) = some s' ∧ Faithful s call s') ↔
      Along next NextInRange (some {}) calls := by
  rw [← along_iff_invariant next_sound sound_start]
  constructor
  · intro faithful bs
    induction bs using List.reverseRecOn with
    | nil => exact fun _ => sound_start
    | append_singleton part call ih =>
      intro inside
      obtain ⟨s, reached, sound⟩ := ih ((List.prefix_append part [call]).trans inside)
      obtain ⟨t, s', reached', done, -⟩ := faithful part call inside
      refine ⟨s', done, ?_⟩
      rw [run_append, reached, run_cons, run_nil] at done
      exact (step_faithful sound done).1
  · intro sound part call inside
    obtain ⟨s, reached, sound_⟩ := sound part ((List.prefix_append part [call]).trans inside)
    obtain ⟨s', done, -⟩ := sound (part ++ [call]) inside
    refine ⟨s, s', reached, done, ?_⟩
    rw [run_append, reached, run_cons, run_nil] at done
    exact (step_faithful sound_ done).2

/-- An element is read, and then as many as an `int` can ask for. -/
def overflowing : List (Call ℕ) := [.pushback [1, 2], .get 1 false, .get 2147483647 false]

/-- The sum of the element index and the count overflows. -/
theorem count_overflows :
    ¬∀ part call, part ++ [call] <+: overflowing → ∃ s s', run next (some {}) part = some s ∧
      run next (some {}) (part ++ [call]) = some s' ∧ Faithful s call s' := by
  intro faithful
  obtain ⟨s, s', -, done, -⟩ := faithful [.pushback [1, 2], .get 1 false] (.get 2147483647 false)
    List.prefix_rfl
  have undefined_ : (run next (some {}) overflowing).isSome = false := by decide +kernel
  rw [overflowing] at undefined_
  rw [List.cons_append, List.cons_append, List.nil_append] at done
  rw [done] at undefined_
  cases undefined_

end Session

/-! ## The queue of the encoder -/

/-- The reads of encoded audio, which start at the first array and delete, are reads of the queue. -/
lemma getLoop_encodedData {elementNum numShift arrayIdx elementIdx : ℕ}
    {tail : List (List UInt8)}
    (place : elementIdx = 0 ∨ elementIdx < (tail.headD []).length)
    (range : elementIdx + elementNum < 2 ^ 31) :
    DataBase.getLoop true elementNum numShift arrayIdx elementIdx tail =
      some ((Encoder.DataBase.get (elementNum - numShift) elementIdx tail).1,
        ⟨(Encoder.DataBase.get (elementNum - numShift) elementIdx tail).2.2, arrayIdx,
          (Encoder.DataBase.get (elementNum - numShift) elementIdx tail).2.1⟩) := by
  induction tail generalizing numShift elementIdx with
  | nil => rfl
  | cons array rest ih =>
    have within : elementIdx ≤ array.length := by
      obtain rfl | inside := place
      · exact Nat.zero_le _
      · exact le_of_lt inside
    unfold DataBase.getLoop Encoder.DataBase.get
    by_cases enough : elementNum ≤ numShift
    · rw [if_pos enough, if_pos (Nat.sub_eq_zero_of_le enough)]
    have defined : ¬(2 ^ 31 ≤ elementIdx + elementNum ∨ array.length < elementIdx) := by omega
    have more : elementNum - numShift ≠ 0 := by omega
    have sum : elementIdx + (elementNum - numShift) = elementIdx + elementNum - numShift := by omega
    rw [if_neg enough, if_neg defined, if_neg more, sum]
    by_cases reaches : array.length ≤ elementIdx + elementNum - numShift
    · have left : elementNum - (numShift + (array.length - elementIdx)) =
          elementNum - numShift - (array.length - elementIdx) := Nat.sub_add_eq _ _ _
      rw [if_pos reaches, if_pos rfl, if_pos reaches, ih (.inl rfl) (by omega), left]
      rfl
    · rw [if_neg reaches, if_neg reaches]

theorem get_encodedData {elementNum : ℕ} (data : List (List UInt8)) (range : elementNum < 2 ^ 31) :
    (DataBase.mk data 0 0).get elementNum true =
      some ((Encoder.DataBase.get elementNum 0 data).1,
        ⟨(Encoder.DataBase.get elementNum 0 data).2.2, 0,
          (Encoder.DataBase.get elementNum 0 data).2.1⟩) := by
  unfold DataBase.get
  split
  · rw [List.drop_zero, Int.toNat_natCast,
      getLoop_encodedData (.inl rfl) (by omega), Nat.sub_zero]
    rfl
  · have none_ : elementNum = 0 := by omega
    subst none_
    cases data with
    | nil => rfl
    | cons array rest => rfl

end NlsSdk.Utils
