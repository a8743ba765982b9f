import NlsSdk.Framework.NlsEventInner

/-!
# What the parts of the parser leave alone

Most parts of the parser read one member into one field. The type of the event, its words and what
tells how a message is to be read are set in a few places only.
-/
namespace NlsSdk.Framework

open Library
open Transport (Bytes ascii EventType NlsType NlsRetCode)

/-- The part of a record that few parts of the parser set. -/
structure Outline where
  msgType : EventType
  sentenceWordsList : List WordInfomation
  serviceProtocol : NlsServiceProtocol
  msg : Bytes
  nlsType : NlsType

def EventFields.outline (e : EventFields) : Outline :=
  ⟨e.msgType, e.sentenceWordsList, e.serviceProtocol, e.msg, e.nlsType⟩

namespace NlsEventInner

/-- A part of the parser that leaves the outline, whether it ends well or not. -/
abbrev Keeps {α : Type} (m : Parsing α) : Prop :=
  ∀ o, Checked (fun inner : NlsEventInner => inner.outline = o) (fun _ => True) m

section
variable {α β : Type}

/-- Whatever holds of the outline holds behind a part that keeps it. -/
lemma Keeps.ensures {m : Parsing α} (keeps : Keeps m) (holds : Outline → Prop) :
    Ensures (fun inner : NlsEventInner => holds inner.outline)
      (fun _ inner => holds inner.outline) (fun inner => holds inner.outline) m := by
  intro inner pre
  have same := (keeps inner.outline inner rfl).1
  have after : holds (m.runFrom inner).2.outline := by
    rw [same]
    exact pre
  exact ⟨fun _ _ => after, fun _ _ => after⟩

lemma keeps_pure (a : α) : Keeps (pure a) := fun _ => checked_pure a

lemma keeps_throw (code : NlsRetCode) : Keeps (throw code : Parsing α) :=
  fun _ => checked_throw trivial

lemma keeps_get : Keeps get := fun _ => checked_get

lemma keeps_bind {m : Parsing α} {f : α → Parsing β} (first : Keeps m)
    (rest : ∀ a, Keeps (f a)) : Keeps (m >>= f) :=
  fun o => checked_bind (first o) fun a => rest a o

lemma keeps_ite {c : Prop} [Decidable c] {m m' : Parsing α} (yes : Keeps m) (no : Keeps m') :
    Keeps (if c then m else m') :=
  fun o => checked_ite (yes o) (no o)

lemma guarded_keeps (value : Except Json.TypeError α) : Keeps (guarded value) := by
  cases value with
  | ok a => exact keeps_pure a
  | error e => exact keeps_throw _

lemma update_keeps {change : EventFields → EventFields}
    (keeps : ∀ e, (change e).outline = e.outline) : Keeps (update change) := by
  intro o
  apply checked_modify
  intro inner same
  exact (keeps inner.toEventFields).trans same

lemma readMember_keeps (object : Json) (key : String) (asType? : Json → Option α)
    {set : EventFields → α → EventFields} (keeps : ∀ e a, (set e a).outline = e.outline) :
    Keeps (readMember object key asType? set) := by
  refine keeps_bind (guarded_keeps _) fun value => ?_
  cases asType? value with
  | some a => exact update_keeps fun e => keeps e a
  | none => exact keeps_pure ()

/-- A value is looked up, and the rest goes on with it. -/
lemma guarded_bind {value : Except Json.TypeError α} {f : α → Parsing β}
    {P R : NlsEventInner → Prop} {Q : β → NlsEventInner → Prop}
    (failure : ∀ e, value = .error e → ∀ inner, P inner → R inner)
    (rest : ∀ a, value = .ok a → Ensures P Q R (f a)) : Ensures P Q R (guarded value >>= f) := by
  cases value with
  | ok a => exact rest a rfl
  | error e =>
    exact ensures_bind (Q := fun _ _ => False) (ensures_throw (failure e rfl)) fun _ _ => False.elim

end

/-! ## The parts -/

lemma parseStatus_keeps (ignore : Bool) (head : Json) : Keeps (parseStatus ignore head) := by
  refine keeps_bind keeps_get fun inner => ?_
  refine keeps_ite (keeps_pure ()) ?_
  refine keeps_bind (guarded_keeps _) fun status => ?_
  cases status.int? with
  | some code => exact update_keeps fun _ => rfl
  | none => exact keeps_ite (keeps_pure ()) (keeps_throw _)

lemma parseWakeWord_keeps (payload : Json) : Keeps (parseWakeWord payload) := by
  refine keeps_bind keeps_get fun inner => ?_
  apply keeps_ite
  · refine keeps_bind (readMember_keeps _ _ _ fun _ _ => rfl) fun _ => ?_
    refine keeps_bind (readMember_keeps _ _ _ fun _ _ => rfl) fun _ => ?_
    refine keeps_bind (readMember_keeps _ _ _ fun _ _ => rfl) fun _ => ?_
    exact readMember_keeps _ _ _ fun _ _ => rfl
  · exact keeps_pure ()

lemma parseStashResult_keeps (payload : Json) : Keeps (parseStashResult payload) := by
  refine keeps_bind keeps_get fun inner => ?_
  refine keeps_bind (guarded_keeps _) fun stash => ?_
  apply keeps_ite
  · refine keeps_bind (readMember_keeps _ _ _ fun _ _ => rfl) fun _ => ?_
    refine keeps_bind (readMember_keeps _ _ _ fun _ _ => rfl) fun _ => ?_
    refine keeps_bind (readMember_keeps _ _ _ fun _ _ => rfl) fun _ => ?_
    exact readMember_keeps _ _ _ fun _ _ => rfl
  · exact keeps_pure ()

/-- The sentence of a payload, null where there is none. -/
def sentenceOf (payload : Json) : Json :=
  (payload.member (ascii "output")).member (ascii "sentence")

/-- The sentence is looked up, and the rest goes on with it. -/
lemma outputSentence_bind {β : Type} {payload : Json} {f : Json → Parsing β}
    {P R : NlsEventInner → Prop} {Q : β → NlsEventInner → Prop}
    (failure : sentenceOf payload = .null → ∀ inner, P inner → R inner)
    (rest : Ensures P Q R (f (sentenceOf payload))) :
    Ensures P Q R (outputSentence payload >>= f) := by
  refine ensures_bind (Q := fun sentence inner => sentence = sentenceOf payload ∧ P inner) ?_
    fun sentence => ensures_of_fact fun is => ?_
  · refine guarded_bind (fun e refused => failure ?_) fun output found => ?_
    · rw [sentenceOf, Json.member_of_get_error refused]
      rfl
    obtain rfl := Json.get_eq_ok found
    refine ensures_ite (fun none_ => ?_) fun _ => ?_
    · refine ensures_pure fun inner pre => ⟨?_, pre⟩
      rw [sentenceOf]
      cases output : payload.member (ascii "output") with
      | null => rfl
      | _ =>
        rw [output] at none_
        cases none_
    · cases found : (payload.member (ascii "output")).get (ascii "sentence") with
      | ok sentence => exact ensures_pure fun inner pre => ⟨Json.get_eq_ok found, pre⟩
      | error e => exact ensures_throw (failure (Json.member_of_get_error found))
  · rw [is]
    exact rest

lemma usageMember_keeps (payload : Json) (key : String) : Keeps (usageMember payload key) := by
  refine keeps_bind (guarded_keeps _) fun usage => ?_
  refine keeps_ite (keeps_pure _) ?_
  refine keeps_bind (guarded_keeps _) fun value => ?_
  exact keeps_pure _

lemma setUsage_keeps (usage : Option ℤ) : Keeps (setUsage usage) := by
  cases usage with
  | some i => exact update_keeps fun _ => rfl
  | none => exact keeps_pure ()

end NlsEventInner

end NlsSdk.Framework
