import NlsSdk.Library.Run

/-!
# Releasing a request beside its callbacks

`releaseRequest` runs in a thread of the user and ends in the destructor of the node, while the
event thread may be in a callback of it. `destructor_alone` says when the destructor has the node to
itself.
-/
namespace NlsSdk.Transport

open Library

/-- The events of a node. -/
inductive EventClass
  /-- reading and writing -/
  | socket
  /-- the connect event and its timer -/
  | connect
  /-- launch, reconnect, name resolution, a pooled start and a single round of text -/
  | setup
  deriving DecidableEq, Repr

/-- The callbacks that begin with `checkNodeExist`. -/
def EventClass.checksNode : EventClass → Bool
  | .connect => false
  | _ => true

/-- Where the event thread stands. -/
inductive CallbackPhase
  | outside
  /-- the node was found, `_inEventCallbackNode` is not set yet -/
  | entered (event : EventClass)
  | marked (event : EventClass)
  deriving DecidableEq, Repr

/-- The steps of the release. `event_del` of an event whose callback runs blocks until it is left. -/
inductive ReleaseOp
  | waitEventCallback
  | eventDel (event : EventClass)
  | removeRequestFromInfo
  | destroy
  deriving DecidableEq, Repr

/-- `delAllEvents`, `removeRequestFromInfo` and what the destructor begins with. -/
def releaseRequest : List ReleaseOp :=
  [.waitEventCallback, .eventDel .socket, .eventDel .connect, .waitEventCallback,
    .removeRequestFromInfo, .waitEventCallback, .destroy]

/-- What the two threads share, and where they stand. -/
structure Release where
  todo : List ReleaseOp := releaseRequest
  /-- the release is in `pthread_cond_timedwait` -/
  asleep : Bool := false
  registered : Bool := true
  inEventCallbackNode : Bool := false
  /-- the events that are pending -/
  armed : EventClass → Bool
  phase : CallbackPhase := .outside

/-- The steps of the event thread, of the release, and the end of its wait without a signal. -/
inductive ReleaseAction
  | fire (event : EventClass)
  | mark
  | arm (event : EventClass)
  /-- some ways out of a callback leave the flag set and signal nothing -/
  | leave (signals : Bool)
  | next
  | timeout
  deriving DecidableEq, Repr

namespace Release

/-- A callback begins where the node is found; only the events of the socket stay pending. -/
def fire (s : Release) (event : EventClass) : Release :=
  { s with
    armed := if event = .socket then s.armed else Function.update s.armed event false
    phase := if event.checksNode ∧ !s.registered then s.phase else .entered event }

def mark (s : Release) : Release :=
  match s.phase with
  | .entered event => { s with phase := .marked event, inEventCallbackNode := true }
  | _ => s

def arm (s : Release) (event : EventClass) : Release :=
  match s.phase with
  | .marked _ => { s with armed := Function.update s.armed event true }
  | _ => s

/-- `pthread_cond_timedwait` returns, and nothing is looked at again. -/
def wakeUp (s : Release) : Release :=
  if s.asleep then { s with asleep := false, todo := s.todo.tail } else s

def leave (s : Release) (signals : Bool) : Release :=
  match s.phase with
  | .marked _ =>
    if signals then { s with phase := .outside, inEventCallbackNode := false }.wakeUp
    else { s with phase := .outside }
  | _ => s

/-- The release goes on in its program. -/
def next (s : Release) : Release :=
  if s.asleep then s
  else match s.todo.head? with
    | none => s
    | some .waitEventCallback =>
      if s.inEventCallbackNode then { s with asleep := true } else { s with todo := s.todo.tail }
    | some (.eventDel event) =>
      if s.phase = .entered event ∨ s.phase = .marked event then s
      else { s with todo := s.todo.tail, armed := Function.update s.armed event false }
    | some .removeRequestFromInfo => { s with todo := s.todo.tail, registered := false }
    | some .destroy => { s with todo := s.todo.tail, armed := fun _ => false }

def step (s : Release) : ReleaseAction → Release
  | .fire event => if s.phase = .outside ∧ s.armed event then s.fire event else s
  | .mark => s.mark
  | .arm event => s.arm event
  | .leave signals => s.leave signals
  | .next => s.next
  | .timeout => s.wakeUp

/-- Whatever the callbacks did before, the release begins. -/
structure Begins (s : Release) : Prop where
  todo : s.todo = releaseRequest
  awake : s.asleep = false
  flag : ∀ event, s.phase = .marked event → s.inEventCallbackNode = true

/-! ## The last wait -/

/-- Behind the point where the registration is taken away. -/
def late (todo : List ReleaseOp) : Bool :=
  todo = [.waitEventCallback, .destroy] || todo = [.destroy] || todo = []

/-- The wait of the destructor is over. -/
def waited (todo : List ReleaseOp) : Bool := todo = [.destroy] || todo = []

/-- The events of the socket are removed. -/
def cutOff (todo : List ReleaseOp) : Bool := todo ≠ releaseRequest && todo ≠ releaseRequest.tail

/-- The last look at the flag finds no callback between its check and its mark, the last wait does
not end inside a callback without a signal, and behind it no callback begins unchecked. -/
def Careful (s : Release) : ReleaseAction → Prop
  | .next => s.todo = [.waitEventCallback, .destroy] → !s.asleep → ∀ event, s.phase ≠ .entered event
  | .timeout => s.todo = [.waitEventCallback, .destroy] → s.asleep → s.phase = .outside
  | .fire event => s.todo = [.destroy] → event.checksNode
  | _ => True

/-- No callback arms an event: no relaunch and no reconnection. -/
def ArmsNothing (_ : Release) (a : ReleaseAction) : Prop := ∀ event, a ≠ .arm event

/-- The session is set up: nothing but the events of the socket is pending or running. -/
structure Established (s : Release) : Prop where
  armed : ∀ event, event ≠ .socket → s.armed event = false
  phase : ∀ event, event ≠ .socket → s.phase ≠ .entered event ∧ s.phase ≠ .marked event

/-- What both ways of being safe rest on. -/
structure Sound (s : Release) : Prop where
  suffix : s.todo ∈ releaseRequest.tails
  asleep : s.asleep = true → s.todo.head? = some .waitEventCallback
  registered : late s.todo = true → s.registered = false
  flag : ∀ event, s.phase = .marked event → s.inEventCallbackNode = true
  disarmed : s.todo = [] → ∀ event, s.armed event = false

variable {s : Release}

lemma Begins.sound (begins : s.Begins) : s.Sound where
  suffix := by
    rw [begins.todo]
    decide
  asleep := by simp [begins.awake]
  registered := by
    rw [begins.todo]
    intro absurd
    cases absurd
  flag := begins.flag
  disarmed := by
    rw [begins.todo]
    intro absurd
    cases absurd

/-! ## The steps of the release -/

lemma late_of_tail : ∀ todo ∈ releaseRequest.tails, late todo.tail = true →
    late todo = true ∨ todo.head? = some .removeRequestFromInfo := by decide

lemma waited_of_tail : ∀ todo ∈ releaseRequest.tails, waited todo.tail = true →
    waited todo = true ∨ todo = [.waitEventCallback, .destroy] := by decide

lemma cutOff_of_tail : ∀ todo ∈ releaseRequest.tails, cutOff todo.tail = true →
    cutOff todo = true ∨ todo.head? = some (.eventDel .socket) := by decide

lemma empty_of_tail : ∀ todo ∈ releaseRequest.tails, todo.tail = [] →
    todo = [] ∨ todo.head? = some .destroy := by decide

lemma tail_mem : ∀ todo ∈ releaseRequest.tails, todo.tail ∈ releaseRequest.tails := by decide

lemma late_of_waited {todo : List ReleaseOp} (done : waited todo = true) : late todo = true := by
  simp only [waited, late, Bool.or_eq_true, decide_eq_true_eq] at done ⊢
  exact done.elim (fun last => .inl (.inr last)) .inr

/-- What one step of the release does: the next step of its program, or a part of it that leaves the
program where it is. -/
inductive Steps (s : Release) : Release → Prop
  | stays : Steps s s
  | sleeps (head : s.todo.head? = some .waitEventCallback) (awake : s.asleep = false)
    (flag : s.inEventCallbackNode = true) : Steps s { s with asleep := true }
  | waits (head : s.todo.head? = some .waitEventCallback) (awake : s.asleep = false)
    (flag : s.inEventCallbackNode = false) : Steps s { s with todo := s.todo.tail }
  | removes (event : EventClass) (head : s.todo.head? = some (.eventDel event))
    (awake : s.asleep = false) (entered : s.phase ≠ .entered event)
    (marked : s.phase ≠ .marked event) :
    Steps s { s with todo := s.todo.tail, armed := Function.update s.armed event false }
  | unregisters (head : s.todo.head? = some .removeRequestFromInfo) (awake : s.asleep = false) :
    Steps s { s with todo := s.todo.tail, registered := false }
  | destroys (head : s.todo.head? = some .destroy) (awake : s.asleep = false) :
    Steps s { s with todo := s.todo.tail, armed := fun _ => false }

lemma next_steps (s : Release) : Steps s s.next := by
  unfold next
  split
  · exact .stays
  rename_i awake
  have awake : s.asleep = false := by simpa using awake
  split
  · exact .stays
  · rename_i head
    split
    · exact .sleeps head awake ‹_›
    · rename_i flag
      exact .waits head awake (by simpa using flag)
  · rename_i event head
    split
    · exact .stays
    · rename_i other
      exact .removes event head awake (fun h => other (.inl h)) fun h => other (.inr h)
  · exact .unregisters ‹_› awake
  · exact .destroys ‹_› awake

/-- The program goes on by a step that is no `removeRequestFromInfo` and no `destroy`. -/
lemma Sound.goesOn {t : Release} (sound : s.Sound) {op : ReleaseOp} (head : s.todo.head? = some op)
    (unregisters : op ≠ .removeRequestFromInfo) (destroys : op ≠ .destroy)
    (todo : t.todo = s.todo.tail) (awake : t.asleep = false) (same : t.registered = s.registered)
    (flag : ∀ event, t.phase = .marked event → t.inEventCallbackNode = true) : t.Sound where
  suffix := by
    rw [todo]
    exact tail_mem s.todo sound.suffix
  asleep := by simp [awake]
  registered := by
    intro isLate
    rw [todo] at isLate
    rw [same]
    obtain before | here := late_of_tail s.todo sound.suffix isLate
    · exact sound.registered before
    · rw [head] at here
      exact absurd (Option.some.inj here) unregisters
  flag := flag
  disarmed := by
    intro ended
    rw [todo] at ended
    obtain none | here := empty_of_tail s.todo sound.suffix ended
    · rw [none] at head
      cases head
    · rw [head] at here
      exact absurd (Option.some.inj here) destroys

lemma Sound.wakeUp (sound : s.Sound) : s.wakeUp.Sound := by
  unfold Release.wakeUp
  split
  · exact sound.goesOn (sound.asleep ‹_›) (by decide) (by decide) rfl rfl rfl sound.flag
  · exact sound

lemma Sound.next (sound : s.Sound) : s.next.Sound := by
  have steps := next_steps s
  generalize s.next = t at steps ⊢
  cases steps with
  | stays => exact sound
  | sleeps head awake flag =>
    exact ⟨sound.suffix, fun _ => head, sound.registered, sound.flag, sound.disarmed⟩
  | waits head awake flag => exact sound.goesOn head (by decide) (by decide) rfl awake rfl sound.flag
  | removes event head awake entered marked =>
    exact sound.goesOn head (by simp) (by simp) rfl awake rfl sound.flag
  | unregisters head awake =>
    refine ⟨tail_mem s.todo sound.suffix, by simp [awake], fun _ => rfl, sound.flag, ?_⟩
    intro ended
    obtain none | here := empty_of_tail s.todo sound.suffix ended
    · rw [none] at head
      cases head
    · rw [head] at here
      cases here
  | destroys head awake =>
    refine ⟨tail_mem s.todo sound.suffix, by simp [awake], ?_, sound.flag, fun _ _ => rfl⟩
    intro isLate
    obtain before | here := late_of_tail s.todo sound.suffix isLate
    · exact sound.registered before
    · rw [head] at here
      cases here

/-! ## The steps of the event thread -/

/-- A callback begins where the node is found, or its callback does not look. -/
lemma fire_phase (s : Release) (event : EventClass) :
    (s.fire event).phase = s.phase ∨
      (s.fire event).phase = .entered event ∧ (event.checksNode = true → s.registered = true) := by
  by_cases gone : event.checksNode ∧ !s.registered
  · exact .inl (if_pos gone)
  · refine .inr ⟨if_neg gone, fun checks => ?_⟩
    simpa [checks] using gone

lemma Sound.fire (sound : s.Sound) (event : EventClass) : (s.fire event).Sound where
  suffix := sound.suffix
  asleep := sound.asleep
  registered := sound.registered
  flag := by
    intro other marked
    obtain same | ⟨entered, -⟩ := fire_phase s event
    · exact sound.flag other (same.symm.trans marked)
    · rw [entered] at marked
      cases marked
  disarmed := by
    intro ended other
    have none := sound.disarmed ended other
    simp only [Release.fire]
    split
    · exact none
    · by_cases same : other = event
      · rw [same, Function.update_self]
      · rwa [Function.update_of_ne same]

lemma Sound.mark (sound : s.Sound) : s.mark.Sound := by
  unfold Release.mark
  split
  · exact ⟨sound.suffix, sound.asleep, sound.registered, fun _ _ => rfl, sound.disarmed⟩
  · exact sound

/-- A callback that arms an event is inside, so the destructor has not begun. -/
lemma Sound.arm (sound : s.Sound) (alone : waited s.todo = true → s.phase = .outside)
    (event : EventClass) : (s.arm event).Sound := by
  unfold Release.arm
  split
  · rename_i running inside
    refine ⟨sound.suffix, sound.asleep, sound.registered, sound.flag, fun ended => ?_⟩
    have outside := alone (by simp [waited, show s.todo = [] from ended])
    rw [outside] at inside
    cases inside
  · exact sound

lemma Sound.leave (sound : s.Sound) (signals : Bool) : (s.leave signals).Sound := by
  have left (flag : Bool) :
      { s with phase := CallbackPhase.outside, inEventCallbackNode := flag }.Sound :=
    ⟨sound.suffix, sound.asleep, sound.registered, by simp, sound.disarmed⟩
  unfold Release.leave
  split
  · split
    · exact (left false).wakeUp
    · exact left s.inEventCallbackNode
  · exact sound

/-! ## The destructor has the node to itself -/

/-- Behind the last wait no callback is inside. -/
structure Alone (s : Release) : Prop extends Sound s where
  outside : waited s.todo = true → s.phase = .outside

lemma leave_phase (s : Release) (signals : Bool) :
    (s.leave signals).phase = .outside ∨ s.leave signals = s := by
  unfold leave wakeUp
  split
  · left
    split_ifs <;> rfl
  · exact .inr rfl

lemma Alone.wakeUp (alone : s.Alone)
    (last : s.todo = [.waitEventCallback, .destroy] → s.asleep → s.phase = .outside) :
    s.wakeUp.Alone := by
  refine ⟨alone.toSound.wakeUp, ?_⟩
  unfold Release.wakeUp
  split
  · rename_i asleep
    intro done
    obtain before | here := waited_of_tail s.todo alone.suffix done
    · exact alone.outside before
    · exact last here asleep
  · exact alone.outside

lemma Alone.next (alone : s.Alone)
    (last : s.todo = [.waitEventCallback, .destroy] → !s.asleep → ∀ event, s.phase ≠ .entered event) :
    s.next.Alone := by
  have sound := alone.toSound.next
  refine ⟨sound, ?_⟩
  have steps := next_steps s
  generalize s.next = t at steps ⊢
  -- only the step behind the last wait brings the destructor nearer
  have far {op : ReleaseOp} (head : s.todo.head? = some op) (ne : op ≠ .waitEventCallback)
      (done : waited s.todo.tail = true) : s.phase = .outside := by
    obtain before | here := waited_of_tail s.todo alone.suffix done
    · exact alone.outside before
    · rw [here] at head
      exact absurd (Option.some.inj head).symm ne
  cases steps with
  | stays => exact alone.outside
  | sleeps head awake flag => exact alone.outside
  | waits head awake flag =>
    intro done
    obtain before | here := waited_of_tail s.todo alone.suffix done
    · exact alone.outside before
    · cases phase : s.phase with
      | outside => rfl
      | entered event => exact absurd phase (last here (by simp [awake]) event)
      | marked event =>
        rw [alone.flag event phase] at flag
        cases flag
  | removes event head awake entered marked => exact far head (by simp)
  | unregisters head awake => exact far head (by decide)
  | destroys head awake => exact far head (by decide)

theorem step_alone {a : ReleaseAction} (alone : s.Alone) (careful : Careful s a) :
    (s.step a).Alone := by
  cases a with
  | fire event =>
    simp only [step]
    split
    · rename_i fires
      refine ⟨alone.toSound.fire event, fun done => ?_⟩
      obtain same | ⟨-, found⟩ := fire_phase s event
      · exact same.trans fires.1
      -- behind the last wait the node is not found any more, and behind the destructor nothing fires
      · have gone := alone.registered (late_of_waited done)
        have last : s.todo = [.destroy] := by
          have ended : s.todo ≠ [] := by
            intro none
            rw [alone.disarmed none event] at fires
            cases fires.2
          have done : waited s.todo = true := done
          have either : s.todo = [.destroy] ∨ s.todo = [] := by
            simpa only [waited, Bool.or_eq_true, decide_eq_true_eq] using done
          exact either.resolve_right ended
        rw [found (careful last)] at gone
        cases gone
    · exact alone
  | mark =>
    refine ⟨alone.toSound.mark, ?_⟩
    simp only [step, Release.mark]
    split
    · rename_i event entered
      intro done
      rw [alone.outside done] at entered
      cases entered
    · exact alone.outside
  | arm event =>
    refine ⟨alone.toSound.arm alone.outside event, ?_⟩
    simp only [step, Release.arm]
    split
    · exact alone.outside
    · exact alone.outside
  | leave signals =>
    refine ⟨alone.toSound.leave signals, fun done => ?_⟩
    obtain outside | same := leave_phase s signals
    · exact outside
    · simp only [step, same] at done ⊢
      exact alone.outside done
  | next => exact alone.next careful
  | timeout => exact alone.wakeUp careful

/-! ## A session that is set up -/

/-- Nothing but the events of the socket, and once these are removed nothing at all. -/
structure Settled (s : Release) : Prop extends Sound s, Established s where
  cut : cutOff s.todo = true → s.phase = .outside ∧ s.armed .socket = false

lemma cutOff_of_waited {todo : List ReleaseOp} (done : waited todo = true) :
    cutOff todo = true := by
  simp only [waited, Bool.or_eq_true, decide_eq_true_eq] at done
  obtain rfl | rfl := done
  · rfl
  · rfl

lemma Settled.goesOn {t : Release} (settled : s.Settled) (sound : t.Sound) {op : ReleaseOp}
    (head : s.todo.head? = some op) (ne : op ≠ .eventDel .socket) (todo : t.todo = s.todo.tail)
    (phase : t.phase = s.phase) (armed : ∀ event, t.armed event = true → s.armed event = true) :
    t.Settled := by
  have kept {event : EventClass} (none : s.armed event = false) : t.armed event = false := by
    by_contra pending
    rw [armed event (by simpa using pending)] at none
    cases none
  refine ⟨sound, ⟨fun event other => kept (settled.armed event other), ?_⟩, fun done => ?_⟩
  · rw [phase]
    exact settled.phase
  · rw [todo] at done
    obtain before | here := cutOff_of_tail s.todo settled.suffix done
    · exact ⟨phase.trans (settled.cut before).1, kept (settled.cut before).2⟩
    · rw [head] at here
      exact absurd (Option.some.inj here) ne

lemma Settled.wakeUp (settled : s.Settled) : s.wakeUp.Settled := by
  have sound := settled.toSound.wakeUp
  unfold Release.wakeUp at sound ⊢
  split
  · rename_i asleep
    rw [if_pos asleep] at sound
    exact settled.goesOn sound (settled.asleep asleep) (by decide) rfl rfl fun _ h => h
  · exact settled

/-- The callback that runs is one of the socket. -/
lemma Settled.outside_of (settled : s.Settled) (entered : s.phase ≠ .entered .socket)
    (marked : s.phase ≠ .marked .socket) : s.phase = .outside := by
  cases phase : s.phase with
  | outside => rfl
  | entered event =>
    by_cases own : event = .socket
    · exact absurd (own ▸ phase) entered
    · exact absurd phase (settled.phase event own).1
  | marked event =>
    by_cases own : event = .socket
    · exact absurd (own ▸ phase) marked
    · exact absurd phase (settled.phase event own).2

lemma update_armed (armed : EventClass → Bool) (event other : EventClass)
    (pending : Function.update armed event false other = true) : armed other = true := by
  by_cases same : other = event
  · rw [same, Function.update_self] at pending
    cases pending
  · rwa [Function.update_of_ne same] at pending

lemma Settled.next (settled : s.Settled) : s.next.Settled := by
  have sound := settled.toSound.next
  have steps := next_steps s
  generalize s.next = t at steps sound ⊢
  cases steps with
  | stays => exact settled
  | sleeps head awake flag => exact ⟨sound, ⟨settled.armed, settled.phase⟩, settled.cut⟩
  | waits head awake flag =>
    exact settled.goesOn sound head (by decide) rfl rfl fun _ h => h
  | removes event head awake entered marked =>
    by_cases own : event = .socket
    · subst own
      refine ⟨sound, ⟨fun other ne => ?_, settled.phase⟩, fun _ => ?_⟩
      · exact (Function.update_of_ne ne _ _).trans (settled.armed other ne)
      · exact ⟨settled.outside_of entered marked, Function.update_self .socket false s.armed⟩
    · exact settled.goesOn sound head (by simpa using own) rfl rfl (update_armed s.armed event)
  | unregisters head awake => exact settled.goesOn sound head (by decide) rfl rfl fun _ h => h
  | destroys head awake => exact settled.goesOn sound head (by decide) rfl rfl fun _ h => by cases h

theorem step_settled {a : ReleaseAction} (settled : s.Settled) (armsNothing : ArmsNothing s a) :
    (s.step a).Settled := by
  cases a with
  | fire event =>
    simp only [step]
    split
    · rename_i fires
      have own : event = .socket := by
        by_contra other
        rw [settled.armed event other] at fires
        cases fires.2
      subst own
      refine ⟨settled.toSound.fire .socket, ⟨settled.armed, fun other ne => ?_⟩, fun done => ?_⟩
      · obtain same | ⟨entered, -⟩ := fire_phase s .socket
        · rw [same]
          exact settled.phase other ne
        · rw [entered]
          exact ⟨fun h => ne (CallbackPhase.entered.inj h).symm, by simp⟩
      · rw [(settled.cut done).2] at fires
        cases fires.2
    · exact settled
  | mark =>
    have sound := settled.toSound.mark
    simp only [step]
    unfold Release.mark at sound ⊢
    split
    · rename_i event entered
      rw [entered] at sound
      refine ⟨sound, ⟨settled.armed, fun other ne => ⟨by simp, fun h => ?_⟩⟩, fun done => ?_⟩
      · rw [← CallbackPhase.marked.inj h] at ne
        exact (settled.phase event ne).1 entered
      · rw [(settled.cut done).1] at entered
        cases entered
    · exact settled
  | arm event => exact absurd rfl (armsNothing event)
  | leave signals =>
    have left (flag : Bool) :
        { s with phase := CallbackPhase.outside, inEventCallbackNode := flag }.Settled :=
      ⟨⟨settled.suffix, settled.asleep, settled.registered, by simp, settled.disarmed⟩,
        ⟨settled.armed, by simp⟩, fun done => ⟨rfl, (settled.cut done).2⟩⟩
    simp only [step, Release.leave]
    split
    · split
      · exact (left false).wakeUp
      · exact left s.inEventCallbackNode
    · exact settled
  | next => exact settled.next
  | timeout => exact settled.wakeUp

/-- The release of a node whose launch has not begun. -/
def unlaunched : Release where
  armed event := event = .setup

/-- The release waits for the launch and goes on to the end. -/
def launchThenRelease : List ReleaseAction :=
  [.fire .setup, .mark, .next, .arm .connect, .leave true] ++ List.replicate 6 .next

-- a launch that has found the node and not set the flag yet is overlooked
example : (run step unlaunched (.fire .setup :: List.replicate 7 .next)).todo = [] ∧
    (run step unlaunched (.fire .setup :: List.replicate 7 .next)).phase = .entered .setup :=
  ⟨rfl, rfl⟩

end Release

end NlsSdk.Transport
