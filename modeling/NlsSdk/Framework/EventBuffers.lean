import NlsSdk.Framework.NlsEvent
import NlsSdk.Library.Run

/-!
# Copies of events and their raw buffers

`getBinaryDataInChar` allocates a buffer that its event frees, and a copy of the
event gets the same pointer. Every buffer has a balance: how often it was freed,
and how many events will still free it. Only a copy of an event that holds the
buffer raises it above one.
-/
namespace NlsSdk.Framework

open Library

/-- The events of a program, and what was allocated for them and given to `free`. -/
structure EventHeap where
  events : List NlsEvent := []
  /-- The number of the next buffer. -/
  next : ℕ := 0
  freed : List ℕ := []

inductive EventOp
  /-- A constructor other than the copy constructor: none of them allocates. -/
  | create (fields : EventFields)
  | copy (i : ℕ)
  | transferEvent (inner : NlsEventInner) (i : ℕ)
  | getBinaryDataInChar (i : ℕ)
  | destroy (i : ℕ)

/-- One for an event that holds the buffer. -/
def NlsEvent.holds (event : NlsEvent) (p : ℕ) : ℕ :=
  if event.binaryDataInChar = some p then 1 else 0

/-- How many of the events hold the buffer. -/
def holders (events : List NlsEvent) (p : ℕ) : ℕ := (events.map fun event => event.holds p).sum

namespace EventHeap

/-- The buffer there was is freed for the new one, for a binary event only. -/
def getBinaryDataInChar (s : EventHeap) (i : ℕ) (event : NlsEvent) : EventHeap :=
  if event.msgType = .binary then
    { events := s.events.set i { event with
        binaryDataInChar := some s.next, binaryDataSize := event.binaryData.length }
      next := s.next + 1
      freed := s.freed ++ event.binaryDataInChar.toList }
  else
    s

def destroy (s : EventHeap) (i : ℕ) (event : NlsEvent) : EventHeap :=
  { s with
    events := s.events.eraseIdx i
    freed := s.freed ++ event.binaryDataInChar.toList }

/-- An operation on an event there is not does nothing. -/
def step (s : EventHeap) : EventOp → EventHeap
  | .create fields => { s with events := s.events ++ [{ toEventFields := fields }] }
  | .copy i =>
    match s.events[i]? with
    | some event => { s with events := s.events ++ [event.copy] }
    | none => s
  | .transferEvent inner i =>
    match s.events[i]? with
    | some event => { s with events := s.events.set i (inner.transferEvent event) }
    | none => s
  | .getBinaryDataInChar i =>
    match s.events[i]? with
    | some event => s.getBinaryDataInChar i event
    | none => s
  | .destroy i =>
    match s.events[i]? with
    | some event => s.destroy i event
    | none => s

/-- How often `p` was freed, and will be when the events there are have gone. -/
def balance (s : EventHeap) (p : ℕ) : ℕ := s.freed.count p + holders s.events p

/-- One for a buffer that was allocated. -/
def allocated (s : EventHeap) (p : ℕ) : ℕ := if p < s.next then 1 else 0

/-- One for a copy of an event that holds `p`: its copy holds it too. -/
def shares (s : EventHeap) (p : ℕ) : EventOp → ℕ
  | .copy i => holders s.events[i]?.toList p
  | _ => 0

end EventHeap

/-! ## One step -/

@[simp] lemma holders_nil (p : ℕ) : holders [] p = 0 := rfl

@[simp] lemma holders_append (l l' : List NlsEvent) (p : ℕ) :
    holders (l ++ l') p = holders l p + holders l' p := by
  simp only [holders, List.map_append, List.sum_append]

@[simp] lemma holders_cons (event : NlsEvent) (l : List NlsEvent) (p : ℕ) :
    holders (event :: l) p = event.holds p + holders l p := by
  simp only [holders, List.map_cons, List.sum_cons]

lemma holders_set {l : List NlsEvent} {i : ℕ} {event : NlsEvent} (found : l[i]? = some event)
    (other : NlsEvent) (p : ℕ) :
    holders (l.set i other) p + event.holds p = holders l p + other.holds p := by
  obtain ⟨bound, rfl⟩ := List.getElem?_eq_some_iff.mp found
  have whole := congrArg (holders · p) (List.take_append_drop i l)
  simp only [List.drop_eq_getElem_cons bound] at whole
  rw [List.set_eq_take_append_cons_drop, if_pos bound]
  simp only [holders_append, holders_cons] at whole ⊢
  omega

lemma holders_eraseIdx {l : List NlsEvent} {i : ℕ} {event : NlsEvent}
    (found : l[i]? = some event) (p : ℕ) :
    holders (l.eraseIdx i) p + event.holds p = holders l p := by
  obtain ⟨bound, rfl⟩ := List.getElem?_eq_some_iff.mp found
  have whole := congrArg (holders · p) (List.take_append_drop i l)
  simp only [List.drop_eq_getElem_cons bound] at whole
  rw [List.eraseIdx_eq_take_drop_succ]
  simp only [holders_append, holders_cons] at whole ⊢
  omega

/-- An event that goes frees the buffer it holds. -/
lemma count_binaryDataInChar (event : NlsEvent) (p : ℕ) :
    event.binaryDataInChar.toList.count p = event.holds p := by
  unfold NlsEvent.holds
  cases event.binaryDataInChar with
  | none => rfl
  | some q =>
    rw [Option.toList_some, List.count_singleton]
    simp only [beq_iff_eq, Option.some.injEq]

namespace EventHeap

/-- A step changes the balance of a buffer by allocating it, and by sharing it. -/
theorem step_balance (s : EventHeap) (op : EventOp) (p : ℕ) :
    (s.step op).balance p + s.allocated p =
      s.balance p + (s.step op).allocated p + s.shares p op := by
  cases op with
  | create fields =>
    have fresh : NlsEvent.holds { toEventFields := fields } p = 0 := rfl
    have same : (s.step (.create fields)).allocated p = s.allocated p := rfl
    rw [same]
    simp only [step, balance, shares, holders_append, holders_cons, holders_nil, fresh]
    omega
  | copy i =>
    cases found : s.events[i]? with
    | none => simp only [step, shares, found, Option.toList_none, holders_nil, Nat.add_zero]
    | some event =>
      have shared : event.copy.holds p = event.holds p := rfl
      simp only [step, found, balance, allocated, shares, holders_append, holders_cons,
        holders_nil, Option.toList_some, shared]
      omega
  | transferEvent inner i =>
    cases found : s.events[i]? with
    | none => simp only [step, shares, found, Nat.add_zero]
    | some event =>
      have replaced := holders_set found (inner.transferEvent event) p
      have kept : (inner.transferEvent event).holds p = event.holds p := rfl
      simp only [step, found, balance, allocated, shares]
      omega
  | getBinaryDataInChar i =>
    cases found : s.events[i]? with
    | none => simp only [step, shares, found, Nat.add_zero]
    | some event =>
      simp only [step, found, getBinaryDataInChar, shares]
      split
      · have replaced := holders_set found { event with
          binaryDataInChar := some s.next, binaryDataSize := event.binaryData.length } p
        simp only [NlsEvent.holds, Option.some.injEq] at replaced
        simp only [balance, allocated, List.count_append, count_binaryDataInChar, NlsEvent.holds]
        split_ifs at replaced ⊢ <;> omega
      · rfl
  | destroy i =>
    cases found : s.events[i]? with
    | none => simp only [step, shares, found, Nat.add_zero]
    | some event =>
      have erased := holders_eraseIdx found p
      simp only [step, found, destroy, balance, allocated, shares, List.count_append,
        count_binaryDataInChar]
      omega

/-! ## A whole run -/

/-- How often the run copies an event that holds `p`. -/
def sharedAlong (p : ℕ) (s : EventHeap) : List EventOp → ℕ
  | [] => 0
  | op :: ops => s.shares p op + sharedAlong p (s.step op) ops

theorem run_balance (s : EventHeap) (ops : List EventOp) (p : ℕ) :
    (run step s ops).balance p + s.allocated p =
      s.balance p + (run step s ops).allocated p + sharedAlong p s ops := by
  induction ops generalizing s with
  | nil => rfl
  | cons op ops ih =>
    have first := step_balance s op p
    have rest := ih (s.step op)
    rw [run_cons, sharedAlong]
    omega

/-- The program that has run `ops` and then destroys the events that are left. -/
def finished (ops : List EventOp) : EventHeap :=
  let s := run step {} ops
  run step s (List.replicate s.events.length (.destroy 0))

lemma step_destroy_zero (s : EventHeap) (event : NlsEvent) (rest : List NlsEvent)
    (left : s.events = event :: rest) :
    (s.step (.destroy 0)).events = rest ∧ (s.step (.destroy 0)).next = s.next := by
  simp only [step, left, List.getElem?_cons_zero, destroy, List.eraseIdx_cons_zero, and_self]

lemma run_destroy (s : EventHeap) {k : ℕ} (left : s.events.length = k) :
    (run step s (List.replicate k (.destroy 0))).events = [] ∧
      (run step s (List.replicate k (.destroy 0))).next = s.next ∧
      ∀ p, sharedAlong p s (List.replicate k (.destroy 0)) = 0 := by
  induction k generalizing s with
  | zero => exact ⟨List.length_eq_zero_iff.mp left, rfl, fun p => rfl⟩
  | succ k ih =>
    obtain ⟨event, rest, cons⟩ := List.exists_cons_of_length_eq_add_one left
    obtain ⟨events, next⟩ := step_destroy_zero s event rest cons
    have shorter : (s.step (.destroy 0)).events.length = k := by
      rw [cons, List.length_cons] at left
      rw [events]
      omega
    obtain ⟨gone, kept, unshared⟩ := ih (s.step (.destroy 0)) shorter
    rw [List.replicate_succ, run_cons]
    refine ⟨gone, kept.trans next, fun p => ?_⟩
    rw [sharedAlong, unshared p]
    rfl

/-- In the end a buffer was freed once for its allocation and once for every time it was shared. -/
theorem finished_freed (ops : List EventOp) (p : ℕ) :
    (finished ops).freed.count p =
      (run step {} ops).allocated p + sharedAlong p {} ops := by
  obtain ⟨gone, next, unshared⟩ := run_destroy (run step {} ops) rfl
  have last := run_balance (run step {} ops)
    (List.replicate (run step {} ops).events.length (.destroy 0)) p
  have before := run_balance {} ops p
  have nothing : balance {} p = 0 := rfl
  have noneYet : allocated {} p = 0 := if_neg (Nat.not_lt_zero p)
  have same : (finished ops).allocated p = (run step {} ops).allocated p := by
    simp only [allocated, finished, next]
  have counted : (finished ops).balance p = (finished ops).freed.count p := by
    simp only [balance, finished, gone, holders_nil, Nat.add_zero]
  rw [unshared p] at last
  change (finished ops).balance p + _ = _ + (finished ops).allocated p + 0 at last
  omega

/-! ## Buffers that were allocated -/

/-- The events hold buffers that were allocated. -/
def Allocated (s : EventHeap) : Prop :=
  ∀ event ∈ s.events, ∀ p, event.binaryDataInChar = some p → p < s.next

lemma step_next (s : EventHeap) (op : EventOp) : s.next ≤ (s.step op).next := by
  cases op with
  | create fields => exact le_rfl
  | copy i => simp only [step]; split <;> exact le_rfl
  | transferEvent inner i => simp only [step]; split <;> exact le_rfl
  | getBinaryDataInChar i =>
    simp only [step]
    split
    · unfold getBinaryDataInChar
      split
      · exact Nat.le_succ _
      · exact le_rfl
    · exact le_rfl
  | destroy i => simp only [step]; split <;> exact le_rfl

lemma run_next (s : EventHeap) (ops : List EventOp) : s.next ≤ (run step s ops).next := by
  induction ops generalizing s with
  | nil => exact le_rfl
  | cons op ops ih => exact (step_next s op).trans (ih (s.step op))

lemma Allocated.step {s : EventHeap} (held : s.Allocated) (op : EventOp) :
    (s.step op).Allocated := by
  cases op with
  | create fields =>
    intro event member p pointer
    rcases List.mem_append.mp member with old | fresh
    · exact held event old p pointer
    · cases List.mem_singleton.mp fresh
      cases pointer
  | copy i =>
    simp only [EventHeap.step]
    split
    · next original found =>
      intro event member p pointer
      rcases List.mem_append.mp member with old | fresh
      · exact held event old p pointer
      · cases List.mem_singleton.mp fresh
        exact held original (List.mem_of_getElem? found) p pointer
    · exact held
  | transferEvent inner i =>
    simp only [EventHeap.step]
    split
    · next target found =>
      intro event member p pointer
      rcases List.mem_or_eq_of_mem_set member with old | rfl
      · exact held event old p pointer
      · exact held target (List.mem_of_getElem? found) p pointer
    · exact held
  | getBinaryDataInChar i =>
    simp only [EventHeap.step]
    split
    · unfold EventHeap.getBinaryDataInChar
      split
      · intro event member p pointer
        rcases List.mem_or_eq_of_mem_set member with old | rfl
        · exact (held event old p pointer).trans (Nat.lt_succ_self _)
        · cases pointer
          exact Nat.lt_succ_self _
      · exact held
    · exact held
  | destroy i =>
    simp only [EventHeap.step]
    split
    · intro event member p pointer
      exact held event (List.mem_of_mem_eraseIdx member) p pointer
    · exact held

/-! ## The copies -/

/-- The event that is copied holds no buffer. -/
def CopiesNoBuffer (s : EventHeap) : EventOp → Prop
  | .copy i => ∀ event, s.events[i]? = some event → event.binaryDataInChar = none
  | _ => True

lemma shares_eq_zero {s : EventHeap} {op : EventOp} :
    s.CopiesNoBuffer op ↔ ∀ p, s.shares p op = 0 := by
  cases op with
  | copy i =>
    simp only [CopiesNoBuffer, shares]
    cases s.events[i]? with
    | none =>
      refine ⟨fun _ p => rfl, fun _ event found => ?_⟩
      cases found
    | some event =>
      constructor
      · intro unheld p
        simp [NlsEvent.holds, unheld event rfl]
      · intro unshared event' found
        cases found
        cases pointer : event.binaryDataInChar with
        | none => rfl
        | some p =>
          have one := unshared p
          simp [NlsEvent.holds, pointer] at one
  | _ => exact ⟨fun _ p => rfl, fun _ => trivial⟩

lemma along_copiesNoBuffer (s : EventHeap) (ops : List EventOp) :
    Along step CopiesNoBuffer s ops ↔ ∀ p, sharedAlong p s ops = 0 := by
  induction ops generalizing s with
  | nil => exact ⟨fun _ p => rfl, fun _ => trivial⟩
  | cons op ops ih =>
    rw [along_cons, shares_eq_zero, ih]
    simp only [sharedAlong, Nat.add_eq_zero_iff, forall_and]

/-- A buffer that is shared along a run was allocated in it. -/
lemma lt_of_sharedAlong {s : EventHeap} (held : s.Allocated) {ops : List EventOp} {p : ℕ}
    (shared : sharedAlong p s ops ≠ 0) : p < (run step s ops).next := by
  induction ops generalizing s with
  | nil => exact absurd rfl shared
  | cons op ops ih =>
    by_cases now : s.shares p op = 0
    · apply ih (held.step op)
      rwa [sharedAlong, now, Nat.zero_add] at shared
    · cases op with
      | copy i =>
        cases found : s.events[i]? with
        | none => exact absurd (by simp only [shares, found]; rfl) now
        | some event =>
          have pointer : event.binaryDataInChar = some p := by
            by_contra other
            simp [shares, found, NlsEvent.holds, other] at now
          exact (held event (List.mem_of_getElem? found) p pointer).trans_le (run_next s _)
      | _ => exact absurd rfl now

/-- Every buffer of the run has been freed exactly once when all events have gone. -/
def FreedOnce (ops : List EventOp) : Prop :=
  ∀ p < (run step {} ops).next, (finished ops).freed.count p = 1

theorem freedOnce_iff (ops : List EventOp) :
    FreedOnce ops ↔ Along step CopiesNoBuffer {} ops := by
  rw [along_copiesNoBuffer]
  constructor
  · intro once p
    by_contra shared
    have bound := lt_of_sharedAlong (s := {}) (fun event member => absurd member
      List.not_mem_nil) shared
    have counted := finished_freed ops p
    rw [once p bound, allocated, if_pos bound] at counted
    omega
  · intro unshared p bound
    rw [finished_freed, unshared p, allocated, if_pos bound]

end EventHeap

/-- The three copies of an event, and the buffers over every sequence of operations: what the copy
constructor forgets, and what it shares, is all that goes wrong. -/
theorem copies_faithful (ne target : NlsEvent) (this event : NlsEventInner)
    (ops : List EventOp) :
    (SameGetters ne.copy.toEventFields ne.toEventFields ↔
        ne.displayText = [] ∧ ne.spokenText = [] ∧
          (ne.msgType = .wakeWordVerificationCompleted → ne.wakeWordAccepted = false)) ∧
      SameGetters (this.assign event).toEventFields event.toEventFields ∧
      SameGetters (event.transferEvent target).toEventFields event.toEventFields ∧
      (EventHeap.FreedOnce ops ↔ Along EventHeap.step EventHeap.CopiesNoBuffer {} ops) := by
  refine ⟨ne.copy_sameGetters, ?_, ?_, EventHeap.freedOnce_iff ops⟩
  · exact .of_eq (this.assign_fields event)
  · exact .of_eq (event.transferEvent_fields target)

/-- An event of a synthesis, with two bytes of audio. -/
def audioEvent : EventFields := { msgType := .binary, binaryData := [1, 2] }

/-- The buffer of an event is read, and the event is copied. -/
def readThenCopied : List EventOp := [.create audioEvent, .getBinaryDataInChar 0, .copy 0]

/-- The copy of a dialog event has no text to show, and the buffer of a copied event is freed
twice. -/
theorem copy_unfaithful :
    ¬SameGetters
        (NlsEvent.copy { msgType := .dialogResultGenerated, displayText := [72, 105] }).toEventFields
        { msgType := .dialogResultGenerated, displayText := [72, 105] } ∧
      (EventHeap.finished readThenCopied).freed = [0, 0] ∧
      ¬EventHeap.FreedOnce readThenCopied := by
  have freed : (EventHeap.finished readThenCopied).freed = [0, 0] := rfl
  refine ⟨fun same => ?_, freed, fun once => ?_⟩
  · cases same.displayText
  · have twice := once 0 (by decide)
    rw [freed] at twice
    cases twice

end NlsSdk.Framework
