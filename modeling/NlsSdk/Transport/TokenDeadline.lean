import NlsSdk.Transport.PoolRefill

/-!
# The deadlines of tokens

The expiration time the user sets travels from request to slot and, where the
pool refills itself, from request to request. Beside the pool stand the time
that was set for each request or the one it was copied from, and the time that
each slot was filled for.
-/
namespace NlsSdk.Transport

open Library

/-! ## The deadline of one slot -/

/-- What a slot that is filled should carry for the expiration time of its request. -/
structure DeadlineRight (expiration now deadline : UInt64) : Prop where
  computed : deadline = ConnectedPool.tokenDeadline 0 expiration now
  monotone : ∀ other,
    (expiration ≤ other → deadline ≤ ConnectedPool.tokenDeadline 0 other now) ∧
      (other ≤ expiration → ConnectedPool.tokenDeadline 0 other now ≤ deadline)
  notLater : deadline ≤ expiration
  hourAhead : now.toNat + 3600000 ≤ expiration.toNat →
    deadline.toNat + 3600000 ≤ expiration.toNat

/-- The expiration times for which the thresholds of the code do no harm: none or past ones, those
at least two hours and less than twelve ahead, and those at least thirteen ahead. -/
def Apart (expiration now : UInt64) : Prop :=
  expiration.toNat ≤ 3600000 ∨ expiration.toNat ≤ now.toNat ∨
    (now.toNat + 7200000 ≤ expiration.toNat + 1 ∧ expiration.toNat < now.toNat + 43200000) ∨
    now.toNat + 46800000 ≤ expiration.toNat

instance (expiration now : UInt64) : Decidable (Apart expiration now) :=
  inferInstanceAs (Decidable (_ ∨ _ ∨ _ ∨ _))

/-- Twelve hours on, the clock has not run over. -/
def InRange (now : UInt64) : Prop := now.toNat + 43200000 < 18446744073709551616

instance (now : UInt64) : Decidable (InRange now) := inferInstanceAs (Decidable (_ < _))

namespace ConnectedPool

/-- The bands in natural numbers. -/
lemma tokenDeadline_toNat {now : UInt64} (range : InRange now) (old expiration : UInt64) :
    (tokenDeadline old expiration now).toNat =
      if 3600000 < expiration.toNat then
        if now.toNat + 43200000 ≤ expiration.toNat then now.toNat + 43200000
        else if now.toNat + 3600000 ≤ expiration.toNat then expiration.toNat - 3600000
        else expiration.toNat
      else old.toNat := by
  unfold InRange at range
  have hour : (3600000 : UInt64).toNat = 3600000 := by decide
  have half : (43200000 : UInt64).toNat = 43200000 := by decide
  have later : (now + 43200000).toNat = now.toNat + 43200000 := by
    rw [UInt64.toNat_add, half]
    exact Nat.mod_eq_of_lt range
  have soon : (now + 3600000).toNat = now.toNat + 3600000 := by
    rw [UInt64.toNat_add, hour]
    exact Nat.mod_eq_of_lt (by omega)
  unfold tokenDeadline
  simp only [UInt64.lt_iff_toNat_lt, UInt64.le_iff_toNat_le, later, soon, hour]
  by_cases late : 3600000 < expiration.toNat
  · rw [if_pos late, if_pos late]
    by_cases far : now.toNat + 43200000 ≤ expiration.toNat
    · rw [if_pos far, if_pos far]
      exact later
    · rw [if_neg far, if_neg far]
      by_cases near : now.toNat + 3600000 ≤ expiration.toNat
      · rw [if_pos near, if_pos near, UInt64.toNat_sub_of_le, hour]
        rw [UInt64.le_iff_toNat_le, hour]
        exact late.le
      · rw [if_neg near, if_neg near]
  · rw [if_neg late, if_neg late]

end ConnectedPool

open ConnectedPool

/-- The deadline in natural numbers, for a slot that carries none yet. -/
def deadline (expiration now : ℕ) : ℕ :=
  if 3600000 < expiration then
    if now + 43200000 ≤ expiration then now + 43200000
    else if now + 3600000 ≤ expiration then expiration - 3600000
    else expiration
  else 0

lemma toNat_tokenDeadline {now : UInt64} (range : InRange now) (expiration : UInt64) :
    (tokenDeadline 0 expiration now).toNat = deadline expiration.toNat now.toNat :=
  tokenDeadline_toNat range 0 expiration

lemma deadline_le (expiration now : ℕ) : deadline expiration now ≤ expiration := by
  unfold deadline
  split_ifs <;> omega

/-- Beside the expiration times that are apart from the thresholds the deadline does not fall. -/
lemma deadline_mono {expiration now other : UInt64} (apart : Apart expiration now) :
    (expiration.toNat ≤ other.toNat →
      deadline expiration.toNat now.toNat ≤ deadline other.toNat now.toNat) ∧
    (other.toNat ≤ expiration.toNat →
      deadline other.toNat now.toNat ≤ deadline expiration.toNat now.toNat) := by
  unfold Apart at apart
  unfold deadline
  constructor
  · intro later
    split_ifs <;> omega
  · intro sooner
    split_ifs <;> omega

lemma deadline_hour {expiration now : UInt64} (apart : Apart expiration now)
    (ahead : now.toNat + 3600000 ≤ expiration.toNat) :
    deadline expiration.toNat now.toNat + 3600000 ≤ expiration.toNat := by
  unfold Apart at apart
  unfold deadline
  split_ifs <;> omega

/-- A deadline is right for an expiration time apart from the thresholds. -/
lemma deadlineRight_of_apart {expiration now : UInt64} (range : InRange now)
    (apart : Apart expiration now) :
    DeadlineRight expiration now (tokenDeadline 0 expiration now) where
  computed := rfl
  monotone other := by
    simp only [UInt64.le_iff_toNat_le, toNat_tokenDeadline range]
    exact deadline_mono apart
  notLater := by
    rw [UInt64.le_iff_toNat_le, toNat_tokenDeadline range]
    exact deadline_le _ _
  hourAhead ahead := by
    rw [toNat_tokenDeadline range]
    exact deadline_hour apart ahead

/-- For a clock in range these are all the expiration times with the right deadline: elsewhere it
falls at the first threshold, or leaves less than an hour behind the last one. -/
theorem deadlineRight_iff {expiration now : UInt64} (range : InRange now) (started : 1 < now.toNat) :
    DeadlineRight expiration now (tokenDeadline 0 expiration now) ↔ Apart expiration now := by
  refine ⟨fun right => ?_, deadlineRight_of_apart range⟩
  have word (n : ℕ) (small : n < 18446744073709551616) : (UInt64.ofNat n).toNat = n :=
    UInt64.toNat_ofNat_of_lt' small
  have monotone := right.monotone
  have hour := right.hourAhead
  simp only [UInt64.le_iff_toNat_le, toNat_tokenDeadline range] at monotone hour
  unfold InRange at range
  unfold Apart
  by_contra close
  push Not at close
  by_cases near : expiration.toNat < now.toNat + 3600000
  · have first := (monotone (UInt64.ofNat (now.toNat + 3600000))).1
    rw [word _ (by omega)] at first
    unfold deadline at first
    split_ifs at first <;> omega
  by_cases far : now.toNat + 43200000 ≤ expiration.toNat
  · unfold deadline at hour
    split_ifs at hour <;> omega
  · have last := (monotone (UInt64.ofNat (now.toNat + 3599999))).2
    rw [word _ (by omega)] at last
    unfold deadline at last
    split_ifs at last <;> omega

/-! ## The pool over time -/

/-- The expiration time of the request that filled a slot, and the time it was filled at. -/
structure Fill where
  expiration : UInt64
  now : UInt64
  deriving DecidableEq, Repr

structure Tracked where
  pool : ConnectedPool
  /-- What the user set for the request, or for the one its parameters were copied from. -/
  expiration : Ptr → Option UInt64 := fun _ => none
  filled : PoolType → Kind → ℕ → Option Fill := fun _ _ _ => none

namespace Tracked

inductive Action
  | pool (a : PoolAction)
  | /-- A constructor leaves the expiration time of the parameters as the memory was. -/
    create (request : Ptr) (object : RequestObject)
  | setTokenExpirationTime (request : Ptr) (value : UInt64)
  | /-- `*(newRequest->getRequestParam()) = *(request->getRequestParam())`. -/
    copyParam (newRequest request : Ptr)

/-- Nothing else writes the expiration time of a request. -/
def keepExpiration (s : ConnectedPool) : PoolAction → PoolAction
  | .outside memory => .outside fun r =>
    { memory r with param := { (memory r).param with
        tokenExpirationTime := (s.memory r).param.tokenExpirationTime } }
  | a => a

/-- The time a push reads. -/
def timeOf : PoolAction → UInt64
  | .pushPreconnectedNode _ _ _ now => now
  | .pushPrestartedNode _ _ _ now => now
  | .pushPrestartedNodeFromPreconnected _ _ now => now
  | _ => 0

/-- The slot, when it is in use. -/
def inUse (s : ConnectedPool) (t : PoolType) (kind : Kind) (i : ℕ) : Option ConnectedNodeProcess :=
  (s.slot t kind i).filter fun it => it.status == kind.status

def step (s : Tracked) : Action → Tracked
  | .pool a =>
    let after := s.pool.step (keepExpiration s.pool a)
    { s with
      pool := after
      filled := fun t kind i =>
        match inUse s.pool t kind i, inUse after t kind i with
        | none, some it => (s.expiration it.request).map (⟨·, timeOf a⟩)
        | _, _ => s.filled t kind i }
  | .create request object =>
    { s with
      pool := s.pool.setMemory request fun _ => object
      expiration := Function.update s.expiration request none }
  | .setTokenExpirationTime request value =>
    { s with
      pool := s.pool.setMemory request fun held =>
        { held with param := { held.param with tokenExpirationTime := value } }
      expiration := Function.update s.expiration request (some value) }
  | .copyParam newRequest request =>
    { s with
      pool := s.pool.setMemory newRequest fun held =>
        { held with param := held.param.assign (s.pool.memory request).param }
      expiration := Function.update s.expiration newRequest (s.expiration request) }

def start (maxNumber : ℕ) (timeoutMs requestedTimeoutMs : UInt32) : Tracked where
  pool := .new maxNumber timeoutMs requestedTimeoutMs

/-- Every slot in use that was filled for an expiration time has the right deadline. -/
def Right (s : Tracked) : Prop :=
  ∀ t kind i it fill, inUse s.pool t kind i = some it → s.filled t kind i = some fill →
    DeadlineRight fill.expiration fill.now it.tokenExpirationTimestamp

/-- A request that is put into a slot still has the expiration time that was set for it, or for the
one it was copied from, and that time is apart from the thresholds. -/
def Carried (s : Tracked) : Action → Prop
  | .pool a => ∀ t kind i request, Installed s.pool a t kind i request → request ≠ 0 →
    ∀ expiration, s.expiration request = some expiration →
      (s.pool.memory request).param.tokenExpirationTime = expiration ∧
        InRange (timeOf a) ∧ Apart expiration (timeOf a)
  | _ => True

lemma inUse_eq_some {s : ConnectedPool} {t : PoolType} {kind : Kind} {i : ℕ}
    {it : ConnectedNodeProcess} :
    inUse s t kind i = some it ↔ s.slot t kind i = some it ∧ it.status = kind.status := by
  unfold inUse
  rw [Option.filter_eq_some_iff, beq_iff_eq]

lemma timeOf_pushed {a : PoolAction} {kind : Kind} {request : Ptr} {type : NlsType} {now : UInt64}
    (push : pushed a = some (kind, request, type, now)) : timeOf a = now := by
  cases a with
  | pushPreconnectedNode =>
    simp only [pushed, Option.some.injEq, Prod.mk.injEq] at push
    exact push.2.2.2
  | pushPrestartedNode =>
    simp only [pushed, Option.some.injEq, Prod.mk.injEq] at push
    exact push.2.2.2
  | _ => cases push

variable {s : ConnectedPool} {a : PoolAction} {t : PoolType} {kind : Kind} {i : ℕ}
  {it after : ConnectedNodeProcess}

/-- A slot that stays in use keeps its deadline. -/
lemma deadline_of_change (change : Change s a t kind i it after) (used : it.status = kind.status)
    (stays : after.status = kind.status) :
    after.tokenExpirationTimestamp = it.tokenExpirationTimestamp := by
  cases change with
  | same => rfl
  | taken => rfl
  | stored push service given free => 
    exact absurd (used.symm.trans (isFree_iff.mp free).1) kind.status_ne
  | usedUp => rfl
  | moved move service given vector found free =>
    exact absurd (used.symm.trans (isFree_iff.mp free).1) kind.status_ne
  | movedAway => exact absurd stays.symm kind.status_ne
  | abnormal => rfl
  | finished => rfl
  | deletedRequest => exact absurd stays.symm kind.status_ne
  | deletedSSL => exact absurd stays.symm kind.status_ne
  | @timedOut checks _ tick idle work =>
    rcases s.timeoutSlot_cases kind (checks t kind i) it with ⟨time, same⟩ | ⟨-, status, -⟩
    · rw [same]
    · exact absurd (status.symm.trans stays).symm kind.status_ne
  | begun => rfl
  | released => exact absurd stays.symm kind.status_ne

/-- A slot that comes into use was free and carries the deadline of the request put into it. -/
lemma deadline_of_fill (change : Change s a t kind i it after) (unused : it.status ≠ kind.status)
    (used : after.status = kind.status) :
    it.request = 0 ∧ Installed s a t kind i after.request ∧
      after.tokenExpirationTimestamp = tokenDeadline it.tokenExpirationTimestamp
        (s.memory after.request).param.tokenExpirationTime (timeOf a) := by
  cases change with
  | same => exact absurd used unused
  | taken => exact absurd used unused
  | stored push service given free first new =>
    refine ⟨(isFree_iff.mp free).2.2, .inl ⟨_, _, _, push, service, first, new⟩, ?_⟩
    rw [timeOf_pushed push]
    rfl
  | usedUp => exact absurd used unused
  | moved move service given vector found free first =>
    subst vector move
    exact ⟨(isFree_iff.mp free).2.2,
      .inr ⟨_, _, _, _, _, _, rfl, service, given, rfl, found, rfl, first⟩, rfl⟩
  | movedAway => exact absurd used.symm kind.status_ne
  | abnormal => exact absurd used unused
  | finished => exact absurd used unused
  | deletedRequest => exact absurd used.symm kind.status_ne
  | deletedSSL => exact absurd used.symm kind.status_ne
  | @timedOut checks _ tick idle work =>
    rcases s.timeoutSlot_cases kind (checks t kind i) it with ⟨time, same⟩ | ⟨was, -⟩
    · rw [same] at used
      exact absurd used unused
    · exact absurd was unused
  | begun => exact absurd used unused
  | released => exact absurd used.symm kind.status_ne

/-- A slot without a request carries no deadline. -/
def Blank (s : ConnectedPool) : Prop :=
  ∀ t kind i it, s.slot t kind i = some it → it.request = 0 → it.tokenExpirationTimestamp = 0

lemma blank_step (sound : s.Sound) (blank : Blank s) (a : PoolAction) : Blank (s.step a) := by
  intro t kind i after at_ vacant
  obtain ⟨it, there, change⟩ := step_slot at_
  have before : it.request = 0 → it.tokenExpirationTimestamp = 0 := by
    rcases there with there | ⟨-, type, rfl⟩
    · exact blank t kind i it there
    · exact fun _ => rfl
  have owned : it.status = kind.status → it.request ≠ 0 := by
    rcases there with there | ⟨-, type, rfl⟩
    · exact (sound.slots t kind i it there).owned
    · exact fun used => absurd used.symm kind.status_ne
  cases change with
  | same => exact before vacant
  | taken => exact before vacant
  | stored push service given => exact absurd vacant given
  | usedUp => exact before vacant
  | moved move service given vector found =>
    obtain ⟨source, used, -⟩ := existent_found found
    exact absurd vacant ((sound.slots _ _ _ _ source).owned used)
  | movedAway => rfl
  | abnormal => exact before vacant
  | finished => exact before vacant
  | deletedRequest => rfl
  | deletedSSL => rfl
  | @timedOut checks _ tick idle work =>
    rcases s.timeoutSlot_cases kind (checks t kind i) it with ⟨time, same⟩ | ⟨was, -, request, -⟩
    · rw [same] at vacant ⊢
      exact before vacant
    · exact absurd (request.symm.trans vacant) (owned was)
  | begun => exact before vacant
  | released => rfl

/-! ## Runs -/

structure Kept (s : Tracked) : Prop where
  sound : s.pool.Sound
  blank : Blank s.pool
  right : s.Right

lemma installed_keepExpiration {request : Ptr}
    (installed : Installed s (keepExpiration s a) t kind i request) :
    Installed s a t kind i request := by
  cases a with
  | outside memory =>
    rcases installed with ⟨_, _, _, push, -⟩ | ⟨_, _, _, _, _, _, move, -⟩
    · cases push
    · cases move
  | _ => exact installed

lemma timeOf_keepExpiration (s : ConnectedPool) (a : PoolAction) :
    timeOf (keepExpiration s a) = timeOf a := by
  cases a <;> rfl

/-- The slots after a step of the pool. -/
lemma right_pool {s : Tracked} (kept : s.Kept) {a : PoolAction} (carried : s.Carried (.pool a)) :
    (s.step (.pool a)).Right := by
  intro t kind i after fill used filled
  obtain ⟨at_, status⟩ := inUse_eq_some.mp used
  obtain ⟨it, there, change⟩ := step_slot at_
  simp only [step] at filled used
  rw [used] at filled
  cases before : inUse s.pool t kind i with
  | some was =>
    rw [before] at filled
    obtain ⟨there', used'⟩ := inUse_eq_some.mp before
    rcases there with there | ⟨missing, -⟩
    · obtain rfl := Option.some.inj (there.symm.trans there')
      rw [deadline_of_change change used' status]
      exact kept.right t kind i it fill before filled
    · exact absurd (there'.symm.trans missing) (by simp)
  | none =>
    rw [before] at filled
    obtain ⟨expiration, known, rfl⟩ := Option.map_eq_some_iff.mp filled
    have unused : it.status ≠ kind.status := by
      intro used'
      rcases there with there | ⟨-, type, rfl⟩
      · exact absurd (before.symm.trans (inUse_eq_some.mpr ⟨there, used'⟩)) (by simp)
      · exact absurd used'.symm kind.status_ne
    obtain ⟨vacant, installed, written⟩ := deadline_of_fill change unused status
    have blank : it.tokenExpirationTimestamp = 0 := by
      rcases there with there | ⟨-, type, rfl⟩
      · exact kept.blank t kind i it there vacant
      · rfl
    have owned := ((sound_step kept.sound _).slots t kind i after at_).owned status
    obtain ⟨same, range, apart⟩ := carried t kind i after.request
      (installed_keepExpiration installed) owned expiration known
    rw [blank, same, timeOf_keepExpiration] at written
    rw [written]
    exact deadlineRight_of_apart range apart

theorem kept_step {s : Tracked} (kept : s.Kept) {a : Action} (carried : s.Carried a) :
    (s.step a).Kept := by
  have same (memory : Ptr → RequestObject) (expiration : Ptr → Option UInt64) :
      Kept { s with pool := { s.pool with memory := memory }, expiration := expiration } :=
    ⟨⟨kept.sound.slots, kept.sound.releasing, kept.sound.filled⟩, kept.blank, kept.right⟩
  cases a with
  | pool a => exact ⟨sound_step kept.sound _, blank_step kept.sound kept.blank _,
      right_pool kept carried⟩
  | create request object => exact same _ _
  | setTokenExpirationTime request value => exact same _ _
  | copyParam newRequest request => exact same _ _

lemma kept_start (maxNumber : ℕ) (timeoutMs requestedTimeoutMs : UInt32) :
    (start maxNumber timeoutMs requestedTimeoutMs).Kept where
  sound := sound_new ..
  blank := by
    intro t kind i it at_
    cases at_
  right := by
    intro t kind i it fill used filled
    cases filled

/-- In a run in which the expiration times reach the slots, and lie apart from the thresholds, every
slot has the right deadline at any time. -/
theorem deadlines_carried (maxNumber : ℕ) (timeoutMs requestedTimeoutMs : UInt32)
    (acts : List Action)
    (carried : Along step Carried (start maxNumber timeoutMs requestedTimeoutMs) acts) :
    ∀ bs, bs <+: acts → (run step (start maxNumber timeoutMs requestedTimeoutMs) bs).Right := by
  rintro bs ⟨rest, rfl⟩
  rw [along_append] at carried
  exact (invariant_along (I := Kept) (fun _ _ kept now => kept_step kept now) (kept_start ..)
    carried.1).right

/-- The refill of the client copies the parameters as `copyParam` does: the expiration time of the
new request is whatever its memory held. -/
theorem startNew_expiration {c : NlsClientImpl} {request instance_ : Ptr} {o : Preconnecting}
    (creates : c.Creates request instance_ o) :
    (c.startNew (c.param request) instance_ o).param o.new.request =
        (createdFrom o.new (c.param request)).param.assign (c.param request) ∧
      ((c.startNew (c.param request) instance_ o).param o.new.request).tokenExpirationTime =
        o.new.param.tokenExpirationTime := by
  have copied : (c.startNew (c.param request) instance_ o).param o.new.request =
      (createdFrom o.new (c.param request)).param.assign (c.param request) := by
    rw [NlsClientImpl.startNew_eq creates]
    simp [NlsClientImpl.param, setMemory, createdFrom, NewRequest.object]
  exact ⟨copied, by rw [copied]; rfl⟩

/-! ## A refill -/

/-- A recognizer request whose token expires in five hours is pushed. -/
def pushing : List Action :=
  [.create 1 {}, .setTokenExpirationTime 1 25200000,
    .pool (.pushPreconnectedNode 1 .typeAsr true 7200000)]

/-- Its connection times out, and the pool pushes a new request with its parameters. -/
def refilling : List Action :=
  pushing ++ [.pool (.connectPoolEventCallback fun _ _ _ => ⟨7230000, true⟩),
    .pool (.beginRelease .sr .preconnected 0), .create 7 {}, .copyParam 7 1,
    .pool (.pushPreconnectedNode 7 .typeAsr true 7230000)]

theorem deadlines_carried_pushing : (run step (start 2 30000 30000) pushing).Right := by
  refine deadlines_carried 2 30000 30000 pushing ⟨trivial, trivial, ?_, trivial⟩ _
    (List.prefix_refl _)
  intro t kind i request installed given expiration known
  rcases installed with ⟨type, now, it, push, -⟩ | ⟨_, _, _, _, _, _, move, -⟩
  · cases push
    obtain rfl := Option.some.inj known
    exact ⟨rfl, by decide, by decide⟩
  · cases move

/-- The new slot has no deadline at all. -/
theorem refilled_without_deadline : ¬ (run step (start 2 30000 30000) refilling).Right := by
  intro right
  have token : (inUse (run step (start 2 30000 30000) refilling).pool .sr .preconnected 1).map
      (·.tokenExpirationTimestamp) = some 0 := by decide
  obtain ⟨it, used, none_⟩ := Option.map_eq_some_iff.mp token
  have computed := (right .sr .preconnected 1 it ⟨25200000, 7230000⟩ used rfl).computed
  rw [none_] at computed
  exact absurd computed (by decide)

end Tracked

end NlsSdk.Transport
