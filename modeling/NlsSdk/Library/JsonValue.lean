import Mathlib.Tactic

/-!
# Values of a JSON document

The value tree a JSON reader builds, with the accessors of a dynamically typed
interface: looking a member up is an error on a value that has no members, and
converting a value is an error when it has another type.
-/
namespace NlsSdk.Library

/-- A JSON value; texts and member names are byte strings. -/
inductive Json
  | null
  | bool (value : Bool)
  | int (value : ℤ)
  | real (value : Float)
  | string (bytes : List UInt8)
  | array (elements : List Json)
  | object (members : List (List UInt8 × Json))

namespace Json

/-- What a type error of the accessors is turned into by the caller. -/
inductive TypeError
  | notAnObject
  | notAString
  | notConvertible
  deriving DecidableEq, Repr

def isNull : Json → Bool
  | .null => true
  | _ => false

def isObject : Json → Bool
  | .object _ => true
  | _ => false

/-- The member of that name, null when there is none. -/
def get : Json → List UInt8 → Except TypeError Json
  | .object members, key => .ok ((members.lookup key).getD .null)
  | .null, _ => .ok .null
  | _, _ => .error .notAnObject

/-- The same without an error: null on a value that has no members. -/
def member : Json → List UInt8 → Json
  | .object members, key => (members.lookup key).getD .null
  | _, _ => .null

lemma get_eq_ok {v value : Json} {key : List UInt8} (found : v.get key = .ok value) :
    value = v.member key := by
  cases v with
  | object members => exact (Except.ok.inj found).symm
  | null => exact (Except.ok.inj found).symm
  | _ => cases found

lemma member_of_get_error {v : Json} {key : List UInt8} {e : TypeError}
    (refused : v.get key = .error e) : v.member key = .null := by
  cases v with
  | object members => cases refused
  | _ => rfl

lemma get_of_isObject {v : Json} (isObject : v.isObject) (key : List UInt8) :
    v.get key = .ok (v.member key) := by
  cases v with
  | object members => rfl
  | _ => cases isObject

def isMember : Json → List UInt8 → Except TypeError Bool
  | .object members, key => .ok (members.lookup key).isSome
  | .null, _ => .ok false
  | _, _ => .error .notAnObject

/-- The bytes of a text up to its first zero byte. -/
def cString? : Json → Option (List UInt8)
  | .string bytes => some (bytes.takeWhile (· ≠ 0))
  | _ => none

def cString (v : Json) : Except TypeError (List UInt8) :=
  match v.cString? with
  | some bytes => .ok bytes
  | none => .error .notAString

/-- The value as a 32 bit integer; a real counts when it is integral. -/
def int? : Json → Option ℤ
  | .int i => if -2 ^ 31 ≤ i ∧ i < 2 ^ 31 then some i else none
  | .real r =>
    if (-2147483648.0 : Float) ≤ r ∧ r ≤ (2147483647.0 : Float) ∧ (r.floor == r) then
      some r.toInt32.toInt
    else
      none
  | _ => none

def double? : Json → Option Float
  | .int i => some (Float.ofInt i)
  | .real r => some r
  | _ => none

def bool? : Json → Option Bool
  | .bool b => some b
  | _ => none

def toBool : Json → Except TypeError Bool
  | .bool b => .ok b
  | .null => .ok false
  | .int i => .ok (i ≠ 0)
  | .real r => .ok (!(r == 0 || r.isNaN))
  | _ => .error .notConvertible

/-- The value as an unsigned 32 bit integer; a real is cut at its point. -/
def toUInt : Json → Except TypeError ℕ
  | .int i => if 0 ≤ i ∧ i < 2 ^ 32 then .ok i.toNat else .error .notConvertible
  | .real r =>
    if (0.0 : Float) ≤ r ∧ r ≤ (4294967295.0 : Float) then .ok r.toUInt64.toNat
    else .error .notConvertible
  | .null => .ok 0
  | .bool b => .ok b.toNat
  | _ => .error .notConvertible

def array? : Json → Option (List Json)
  | .array elements => some elements
  | _ => none

end Json

/-! ## Members in the order of their names -/

section Members

variable {α : Type*}

/-- Set a member, in its place between the others. -/
def setMember (key : List UInt8) (value : α) : List (List UInt8 × α) → List (List UInt8 × α)
  | [] => [(key, value)]
  | (k, v) :: rest =>
    if key = k then (key, value) :: rest
    else if key < k then (key, value) :: (k, v) :: rest
    else (k, v) :: setMember key value rest

def removeMember (key : List UInt8) (members : List (List UInt8 × α)) :
    List (List UInt8 × α) := members.filter (fun member => member.1 ≠ key)

theorem lookup_setMember (key : List UInt8) (value : α) (members : List (List UInt8 × α)) :
    (setMember key value members).lookup key = some value := by
  induction members with
  | nil => simp [setMember]
  | cons member rest ih =>
    obtain ⟨k, v⟩ := member
    unfold setMember
    split
    · simp
    split
    · simp
    · next other _ => simp [List.lookup_cons, beq_false_of_ne other, ih]

theorem lookup_setMember_of_ne {key other : List UInt8} (ne : other ≠ key) (value : α)
    (members : List (List UInt8 × α)) :
    (setMember key value members).lookup other = members.lookup other := by
  have off : (other == key) = false := beq_false_of_ne ne
  induction members with
  | nil => simp [setMember, List.lookup_cons, off]
  | cons member rest ih =>
    obtain ⟨k, v⟩ := member
    unfold setMember
    split
    · next same =>
      subst same
      simp only [List.lookup_cons, off]
    split
    · simp only [List.lookup_cons, off]
    · simp only [List.lookup_cons, ih]

/-- The names stand in their order, each once. -/
def InOrder (members : List (List UInt8 × α)) : Prop := members.Pairwise fun m m' => m.1 < m'.1

lemma mem_setMember_cases {key : List UInt8} {value : α} {members : List (List UInt8 × α)}
    {member : List UInt8 × α} (among : member ∈ setMember key value members) :
    member = (key, value) ∨ member ∈ members := by
  induction members with
  | nil => exact .inl (List.mem_singleton.mp among)
  | cons first rest ih =>
    obtain ⟨k, v⟩ := first
    unfold setMember at among
    split at among
    · exact (List.mem_cons.mp among).imp_right (List.mem_cons_of_mem _)
    split at among
    · exact List.mem_cons.mp among
    · rcases List.mem_cons.mp among with is | later
      · exact .inr (is ▸ List.mem_cons_self)
      · exact (ih later).imp_right (List.mem_cons_of_mem _)

theorem inOrder_setMember (key : List UInt8) (value : α) {members : List (List UInt8 × α)}
    (inOrder : InOrder members) : InOrder (setMember key value members) := by
  induction members with
  | nil => exact List.pairwise_singleton _ _
  | cons first rest ih =>
    obtain ⟨k, v⟩ := first
    obtain ⟨above, rest_inOrder⟩ := List.pairwise_cons.mp inOrder
    unfold setMember
    split
    · next same =>
      subst same
      exact List.pairwise_cons.mpr ⟨above, rest_inOrder⟩
    split
    · next _ below =>
      refine List.pairwise_cons.mpr ⟨fun m among => ?_, inOrder⟩
      rcases List.mem_cons.mp among with rfl | later
      · exact below
      · exact Std.lt_trans below (above m later)
    · next other notBelow =>
      refine List.pairwise_cons.mpr ⟨fun m among => ?_, ih rest_inOrder⟩
      rcases mem_setMember_cases among with rfl | later
      · exact Std.lt_of_le_of_ne (Std.not_lt.mp notBelow) (Ne.symm other)
      · exact above m later

lemma InOrder.nodup {members : List (List UInt8 × α)} (inOrder : InOrder members) :
    (members.map Prod.fst).Nodup :=
  List.pairwise_map.mpr (List.Pairwise.imp Std.ne_of_lt inOrder)

theorem removeMember_setMember (key : List UInt8) (value : α)
    (members : List (List UInt8 × α)) :
    removeMember key (setMember key value members) = removeMember key members := by
  unfold removeMember
  induction members with
  | nil => simp [setMember]
  | cons member rest ih =>
    obtain ⟨k, v⟩ := member
    unfold setMember
    split
    · next same => simp [same]
    split
    · simp
    · simp only [List.filter_cons, ih]

/-- Removing changes nothing exactly when there is no such member. -/
theorem removeMember_eq_self {key : List UInt8} {members : List (List UInt8 × α)} :
    removeMember key members = members ↔ ∀ member ∈ members, member.1 ≠ key := by
  simp only [removeMember, List.filter_eq_self, decide_eq_true_eq]

theorem removeMember_comm (key other : List UInt8) (members : List (List UInt8 × α)) :
    removeMember key (removeMember other members) =
      removeMember other (removeMember key members) := by
  simp only [removeMember, List.filter_filter, Bool.and_comm]

end Members

end NlsSdk.Library
