import NlsSdk.Transport.PoolSound

/-!
# The owners of the slots

A slot in use belongs to the request that stored its connection. `Owned` relates
the slots to the requests that exist and to those that have been given up.
-/
namespace NlsSdk.Transport

open Library

namespace ConnectedPool

/-- The deferred release has begun with the slot. -/
def ReleasingAt (s : ConnectedPool) (t : PoolType) (kind : Kind) (i : ℕ) : Prop :=
  ∃ preconnect, s.releasing = some ⟨t, kind, i, preconnect⟩

/-- The request owns a slot. -/
def Owns (s : ConnectedPool) (request : Ptr) : Prop :=
  ∃ t kind i it, s.slot t kind i = some it ∧ it.request = request

/-- Every owner exists and owns one slot, and the owner of a slot that is to be released has been
given up. -/
structure Owned (s : ConnectedPool) (live gone : Ptr → Prop) : Prop where
  sound : s.Sound
  live : ∀ t kind i it, s.slot t kind i = some it → it.request ≠ 0 → live it.request
  single : ∀ t kind i it t' kind' i' it', s.slot t kind i = some it →
    s.slot t' kind' i' = some it' → it.request ≠ 0 → it'.request = it.request →
      t' = t ∧ kind' = kind ∧ i' = i
  purpose : ∀ t kind i it, s.slot t kind i = some it → it.request ≠ 0 →
    it.status = kind.status ∨ it.shouldRelease = true ∨ s.ReleasingAt t kind i
  doomed : ∀ t kind i it, s.slot t kind i = some it → it.request ≠ 0 →
    it.shouldRelease = true ∨ s.ReleasingAt t kind i → gone it.request

/-- What an action may do with requests: a request that is stored exists and owns nothing yet, and
the timer empties only slots whose owners have been given up. -/
structure Orderly (s : ConnectedPool) (live gone : Ptr → Prop) (a : PoolAction) : Prop where
  stores : ∀ kind request type now t, pushed a = some (kind, request, type, now) →
    request ≠ 0 → poolOf type = some t →
    isNew a = true ∨ s.existent kind request t = none → live request ∧ ¬ s.Owns request
  empties : ∀ checks, a = .connectPoolEventCallback checks → s.releasing = none →
    ∀ t kind i it, s.work t = true → s.slot t kind i = some it → it.status = kind.status →
      (s.timeoutSlot kind (checks t kind i) it).status ≠ kind.status → gone it.request

/-- The requests that an action deletes. -/
def DeletedBy (s : ConnectedPool) (a : PoolAction) (request : Ptr) : Prop :=
  ∃ t kind i it, Erased s a t kind i it ∧ it.request = request

/-- A request that an action makes the owner of a free slot. -/
def Installed (s : ConnectedPool) (a : PoolAction) (t : PoolType) (kind : Kind) (i : ℕ)
    (request : Ptr) : Prop :=
  (∃ type now it, pushed a = some (kind, request, type, now) ∧ poolOf type = some t ∧
    firstFrom isFree 0 ((s.prepared t type).nodes t kind).requests = some (i, it) ∧
    (isNew a = true ∨ s.existent kind request t = none)) ∨
  ∃ popper type now it index node, a = .pushPrestartedNodeFromPreconnected popper type now ∧
    poolOf type = some t ∧ popper ≠ 0 ∧ kind = .prestarted ∧
    s.existent .preconnected popper t = some (index, node) ∧ node.request = request ∧
    firstFrom isFree 0 (s.nodes t .prestarted).requests = some (i, it)

variable {s : ConnectedPool} {a : PoolAction} {t t' : PoolType} {kind kind' : Kind} {i i' : ℕ}
  {it after : ConnectedNodeProcess} {live gone : Ptr → Prop}

lemma timeoutSlot_request (s : ConnectedPool) (kind : Kind) (check : Check)
    (it : ConnectedNodeProcess) : (s.timeoutSlot kind check it).request = it.request := by
  rcases s.timeoutSlot_cases kind check it with ⟨time, same⟩ | ⟨-, -, request, -⟩
  · rw [same]
  · exact request

lemma owner_of_change (change : Change s a t kind i it after) (owned : after.request ≠ 0) :
    after.request = it.request ∨
      (it.request = 0 ∧ after.status = kind.status ∧ after.shouldRelease = false ∧
        Installed s a t kind i after.request) := by
  cases change with
  | same => exact .inl rfl
  | taken => exact .inl rfl
  | stored push service given free first new =>
    exact .inr ⟨(isFree_iff.mp free).2.2, rfl, rfl, .inl ⟨_, _, _, push, service, first, new⟩⟩
  | usedUp => exact .inl rfl
  | moved move service given vector found free first =>
    subst vector
    exact .inr ⟨(isFree_iff.mp free).2.2, rfl, (isFree_iff.mp free).2.1,
      .inr ⟨_, _, _, _, _, _, move, service, given, rfl, found, rfl, first⟩⟩
  | movedAway => exact absurd rfl owned
  | abnormal => exact .inl rfl
  | finished => exact .inl rfl
  | deletedRequest => exact absurd rfl owned
  | deletedSSL => exact absurd rfl owned
  | timedOut => exact .inl (timeoutSlot_request ..)
  | begun => exact .inl rfl
  | released => exact absurd rfl owned

/-- An owner after a step owned the slot before, or has just been installed. -/
lemma owner_before (at_ : (s.step a).slot t kind i = some after) (owned : after.request ≠ 0) :
    (∃ it, s.slot t kind i = some it ∧ it.request = after.request ∧
      Change s a t kind i it after) ∨
      (after.status = kind.status ∧ after.shouldRelease = false ∧
        Installed s a t kind i after.request) := by
  obtain ⟨it, there | ⟨-, type, rfl⟩, change⟩ := step_slot at_
  · rcases owner_of_change change owned with same | ⟨-, installed⟩
    · exact .inl ⟨it, there, same.symm, change⟩
    · exact .inr installed
  · rcases owner_of_change change owned with same | ⟨-, installed⟩
    · exact absurd same owned
    · exact .inr installed

/-- The place that is filled had no owner. -/
lemma installed_vacant {request : Ptr} (installed : Installed s a t kind i request)
    (there : s.slot t kind i = some it) : it.request = 0 := by
  rcases installed with ⟨type, now, free, push, service, first, -⟩ |
    ⟨popper, type, now, free, index, node, move, service, -, rfl, -, -, first⟩
  · obtain ⟨at_, vacant⟩ := free_found first
    rcases s.slot_prepared t t kind type i with same | ⟨missing, -⟩
    · rw [same, there, Option.some.injEq] at at_
      subst at_
      exact (isFree_iff.mp vacant).2.2
    · rw [there] at missing
      cases missing
  · obtain ⟨at_, vacant⟩ := free_found first
    rw [there, Option.some.injEq] at at_
    subst at_
    exact (isFree_iff.mp vacant).2.2

/-- One place at most is filled. -/
lemma installed_unique {request : Ptr} (first : Installed s a t kind i request)
    (second : Installed s a t' kind' i' request) : t' = t ∧ kind' = kind ∧ i' = i := by
  rcases first with ⟨type, now, it, push, service, first, -⟩ |
    ⟨popper, type, now, it, index, node, move, service, -, vector, -, -, first⟩
  · rcases second with ⟨type', now', it', push', service', first', -⟩ |
      ⟨popper', type', now', it', index', node', move', -⟩
    · rw [push] at push'
      simp only [Option.some.injEq, Prod.mk.injEq] at push'
      obtain ⟨rfl, -, rfl, rfl⟩ := push'
      obtain rfl := Option.some.inj (service.symm.trans service')
      rw [first] at first'
      simp only [Option.some.injEq, Prod.mk.injEq] at first'
      exact ⟨rfl, rfl, first'.1.symm⟩
    · subst move'
      cases push
  · rcases second with ⟨type', now', it', push', -⟩ |
      ⟨popper', type', now', it', index', node', move', service', -, vector', -, -, first'⟩
    · subst move
      cases push'
    · rw [move] at move'
      simp only [PoolAction.pushPrestartedNodeFromPreconnected.injEq] at move'
      obtain ⟨rfl, rfl, -⟩ := move'
      obtain rfl := Option.some.inj (service.symm.trans service')
      rw [first] at first'
      simp only [Option.some.injEq, Prod.mk.injEq] at first'
      exact ⟨rfl, vector'.trans vector.symm, first'.1.symm⟩

/-- A request that is installed owns no other slot any more. -/
lemma installed_alone (good : Owned s live gone) (orderly : Orderly s live gone a) {request : Ptr}
    (installed : Installed s a t kind i request) (given : request ≠ 0)
    (there : s.slot t' kind' i' = some it) (same : it.request = request)
    (at_ : (s.step a).slot t' kind' i' = some after) : after.request ≠ request := by
  rcases installed with ⟨type, now, free, push, service, first, new⟩ |
    ⟨popper, type, now, free, index, node, rfl, service, popper_, -, found, rfl, -⟩
  · exact absurd ⟨t', kind', i', it, there, same⟩
      (orderly.stores _ _ _ _ _ push given service new).2
  · obtain ⟨source, -⟩ := existent_found found
    obtain ⟨rfl, rfl, rfl⟩ := good.single t .preconnected index node t' kind' i' it source there
      given same
    rw [moved_source service popper_ found, Option.some.injEq] at at_
    subst at_
    exact Ne.symm given

/-- The slots keep distinct owners. -/
lemma owned_single (good : Owned s live gone) (orderly : Orderly s live gone a)
    {after' : ConnectedNodeProcess} (at_ : (s.step a).slot t kind i = some after)
    (at' : (s.step a).slot t' kind' i' = some after') (owned : after.request ≠ 0)
    (same : after'.request = after.request) : t' = t ∧ kind' = kind ∧ i' = i := by
  have owned' : after'.request ≠ 0 := same ▸ owned
  rcases owner_before at_ owned with ⟨it, there, owner, -⟩ | ⟨-, -, installed⟩
  · rcases owner_before at' owned' with ⟨it', there', owner', -⟩ | ⟨-, -, installed'⟩
    · exact good.single t kind i it t' kind' i' it' there there' (owner ▸ owned)
        (by rw [owner', same, owner])
    · exact absurd same.symm (installed_alone good orderly installed' owned' there
        (by rw [owner, same]) at_)
  · rcases owner_before at' owned' with ⟨it', there', owner', -⟩ | ⟨-, -, installed'⟩
    · exact absurd same (installed_alone good orderly installed owned there'
        (by rw [owner', same]) at')
    · rw [same] at installed'
      exact installed_unique installed installed'

/-- A release begins with every slot it looks at that is marked. -/
lemma releasingAt_begin (idle : s.releasing = none) (there : s.slot t kind i = some it)
    (marked : it.shouldRelease = true) (work : s.work t = true) :
    (s.step (.beginRelease t kind i)).ReleasingAt t kind i := by
  have there' : (s.nodes t kind).requests[i]? = some it := there
  refine ⟨it.shouldPreconnect, ?_⟩
  simp only [step, beginRelease, idle, there', marked, work, and_self, if_true]

/-- A slot that is in release after a step was marked or in release before. -/
lemma releasingAt_before (at_ : (s.step a).ReleasingAt t kind i) :
    (a ≠ .endRelease ∧ s.ReleasingAt t kind i) ∨
      ∃ it, s.slot t kind i = some it ∧ it.shouldRelease = true ∧ a = .beginRelease t kind i := by
  obtain ⟨preconnect, here⟩ := at_
  rcases s.step_releasing a with ⟨busy, same⟩ | ⟨-, none_⟩ | ⟨t', kind', i', it, rfl, there, marked, -, begun⟩
  · rw [same] at here
    exact .inl ⟨busy, preconnect, here⟩
  · rw [none_] at here
    cases here
  · rw [begun] at here
    simp only [Option.some.injEq, Releasing.mk.injEq] at here
    obtain ⟨rfl, rfl, rfl, -⟩ := here
    exact .inr ⟨it, there, marked, rfl⟩

/-- Every slot with an owner is in use, marked, or in release. -/
lemma owned_purpose (good : Owned s live gone) (at_ : (s.step a).slot t kind i = some after)
    (owned : after.request ≠ 0) :
    after.status = kind.status ∨ after.shouldRelease = true ∨ (s.step a).ReleasingAt t kind i := by
  rcases owner_before at_ owned with ⟨it, there, owner, change⟩ | ⟨used, -⟩
  · have before := good.purpose t kind i it there (owner ▸ owned)
    have kept : s.ReleasingAt t kind i → a ≠ .endRelease → (s.step a).ReleasingAt t kind i := by
      rintro ⟨preconnect, here⟩ busy
      rcases s.step_releasing a with ⟨-, same⟩ | ⟨rfl, -⟩ | ⟨_, _, _, _, -, -, -, idle, -⟩
      · exact ⟨preconnect, same.trans here⟩
      · exact absurd rfl busy
      · rw [here] at idle
        cases idle
    have ended : a = .endRelease → s.ReleasingAt t kind i → after.request = 0 := by
      rintro rfl ⟨preconnect, here⟩
      have there' : (s.nodes t kind).requests[i]? = some it := there
      have cleared : (s.step .endRelease).slot t kind i = some it.clearNode := by
        simp only [step, endRelease, here, there']
        exact slot_modifySlot_self ((slot_deleteOwner ..).trans there)
      rw [cleared, Option.some.injEq] at at_
      subst at_
      rfl
    have releasing : s.ReleasingAt t kind i → (s.step a).ReleasingAt t kind i := by
      intro here
      refine kept here fun end_ => ?_
      exact owned (ended end_ here)
    cases change with
    | same => exact before.imp id (Or.imp id releasing)
    | taken => exact before.imp id (Or.imp id releasing)
    | usedUp => exact before.imp id (Or.imp id releasing)
    | abnormal => exact before.imp id (Or.imp id releasing)
    | finished => exact before.imp id (Or.imp id releasing)
    | stored => exact .inl rfl
    | moved _ _ _ vector =>
      subst vector
      exact .inl rfl
    | @timedOut checks =>
      rcases s.timeoutSlot_cases kind (checks t kind i) it with ⟨time, same⟩ | emptied
      · rw [same]
        exact before.imp id (Or.imp id releasing)
      · exact .inr (.inl emptied.2.2.2.2.1)
    | begun release idle there marked work =>
      subst release
      exact .inr (.inr (releasingAt_begin idle there marked work))
    | movedAway => exact absurd rfl owned
    | deletedRequest => exact absurd rfl owned
    | deletedSSL => exact absurd rfl owned
    | released => exact absurd rfl owned
  · exact .inl used

/-- The owner of a slot that is to be released has been given up. -/
lemma owned_doomed (good : Owned s live gone) (orderly : Orderly s live gone a)
    (at_ : (s.step a).slot t kind i = some after) (owned : after.request ≠ 0)
    (doomed : after.shouldRelease = true ∨ (s.step a).ReleasingAt t kind i) :
    gone after.request := by
  rcases doomed with marked | releasing
  · rcases owner_before at_ owned with ⟨it, there, owner, change⟩ | ⟨-, unmarked, -⟩
    · have before : it.shouldRelease = true → gone after.request := by
        intro was
        rw [← owner]
        exact good.doomed t kind i it there (owner ▸ owned) (.inl was)
      cases change with
      | same => exact before marked
      | taken => exact before marked
      | usedUp => exact before marked
      | abnormal => exact before marked
      | finished => exact before marked
      | stored => cases marked
      | moved _ _ _ _ _ free => exact before marked
      | begun => cases marked
      | @timedOut checks _ tick idle work =>
        rcases s.timeoutSlot_cases kind (checks t kind i) it with ⟨time, same⟩ | emptied
        · rw [same] at marked
          exact before marked
        · rw [← owner]
          refine orderly.empties checks tick idle t kind i it work there emptied.1 ?_
          rw [emptied.2.1]
          exact kind.status_ne.symm
      | movedAway => cases marked
      | deletedRequest => cases marked
      | deletedSSL => cases marked
      | released => cases marked
    · rw [marked] at unmarked
      cases unmarked
  · rcases releasingAt_before releasing with ⟨busy, preconnect, here⟩ | ⟨it, there, marked, -⟩
    · obtain ⟨it, there, was⟩ := good.sound.releasing _ here
      obtain ⟨it', there' | ⟨missing, -⟩, change⟩ := step_slot at_
      · rw [there, Option.some.injEq] at there'
        subst there'
        rw [(inRelease_change here busy was change).2]
        exact good.doomed t kind i it there was.2 (.inr ⟨preconnect, here⟩)
      · rw [there] at missing
        cases missing
    · rcases owner_before at_ owned with ⟨it', there', owner, -⟩ | ⟨-, -, installed⟩
      · rw [there, Option.some.injEq] at there'
        subst there'
        rw [← owner]
        exact good.doomed t kind i it there (owner ▸ owned) (.inl marked)
      · have owner := ((good.sound.slots t kind i it there).marked marked).2
        exact absurd (installed_vacant installed there) owner

/-- No owner of a slot has been deleted. -/
lemma owned_live (good : Owned s live gone) (orderly : Orderly s live gone a)
    (at_ : (s.step a).slot t kind i = some after) (owned : after.request ≠ 0) :
    live after.request ∧ ¬ s.DeletedBy a after.request := by
  rcases owner_before at_ owned with ⟨it, there, owner, -⟩ | ⟨-, -, installed⟩
  · rw [← owner]
    refine ⟨good.live t kind i it there (owner ▸ owned), ?_⟩
    rintro ⟨t', kind', i', it', erased, same⟩
    obtain ⟨rfl, rfl, rfl⟩ := good.single t kind i it t' kind' i' it' there erased.there
      (owner ▸ owned) same
    rw [erased.cleared, Option.some.injEq] at at_
    subst at_
    exact owned rfl
  · rcases installed with ⟨type, now, free, push, service, first, new⟩ |
      ⟨popper, type, now, free, index, node, rfl, service, -, -, found, owner, -⟩
    · refine ⟨(orderly.stores _ _ _ _ _ push owned service new).1, ?_⟩
      rintro ⟨t', kind', i', it', erased, -⟩
      rcases erased.by_ with ⟨rfl, -⟩ | ⟨ssl, type', rfl, -⟩
      · cases push
      · cases push
    · have source := (existent_found found).1
      refine ⟨owner ▸ good.live t .preconnected index node source (owner ▸ owned), ?_⟩
      rintro ⟨t', kind', i', it', erased, -⟩
      rcases erased.by_ with ⟨other, -⟩ | ⟨ssl, type', other, -⟩
      · cases other
      · cases other

/-- An orderly action keeps the owners in order, less the requests it deletes. -/
theorem owned_step (good : Owned s live gone) (orderly : Orderly s live gone a) :
    Owned (s.step a) (fun request => live request ∧ ¬ s.DeletedBy a request) gone where
  sound := sound_step good.sound a
  live _ _ _ _ at_ owned := owned_live good orderly at_ owned
  single _ _ _ _ _ _ _ _ at_ at' owned same := owned_single good orderly at_ at' owned same
  purpose _ _ _ _ at_ owned := owned_purpose good at_ owned
  doomed _ _ _ _ at_ owned doomed := owned_doomed good orderly at_ owned doomed

/-! ## Rules for the callers -/

/-- What the requests hold plays no part. -/
lemma Owned.congr (good : Owned s live gone) (s' : ConnectedPool) (nodes : s'.nodes = s.nodes)
    (releasing : s'.releasing = s.releasing) : Owned s' live gone := by
  have slots : ∀ t kind i, s'.slot t kind i = s.slot t kind i := by
    intro t kind i
    rw [slot, nodes, slot]
  have sizes : ∀ t kind, s'.size t kind = s.size t kind := by
    intro t kind
    rw [size, nodes, size]
  constructor
  · constructor
    · intro t kind i it at_
      exact good.sound.slots t kind i it (slots t kind i ▸ at_)
    · intro at_ here
      rw [slots]
      exact good.sound.releasing at_ (releasing ▸ here)
    · intro t
      rw [sizes, sizes]
      exact good.sound.filled t
  · intro t kind i it at_
    exact good.live t kind i it (slots t kind i ▸ at_)
  · intro t kind i it t' kind' i' it' at_ at'
    exact good.single t kind i it t' kind' i' it' (slots t kind i ▸ at_) (slots t' kind' i' ▸ at')
  · intro t kind i it at_
    rw [ReleasingAt, releasing]
    exact good.purpose t kind i it (slots t kind i ▸ at_)
  · intro t kind i it at_
    rw [ReleasingAt, releasing]
    exact good.doomed t kind i it (slots t kind i ▸ at_)

/-- Only what the owners are matters. -/
lemma Owned.mono {live' gone' : Ptr → Prop} (good : Owned s live gone)
    (lives : ∀ request, s.Owns request → live request → live' request)
    (goes : ∀ request, s.Owns request → live request → gone request → gone' request) :
    Owned s live' gone' where
  sound := good.sound
  live t kind i it at_ owned :=
    lives it.request ⟨t, kind, i, it, at_, rfl⟩ (good.live t kind i it at_ owned)
  single := good.single
  purpose := good.purpose
  doomed t kind i it at_ owned doomed :=
    goes it.request ⟨t, kind, i, it, at_, rfl⟩ (good.live t kind i it at_ owned)
      (good.doomed t kind i it at_ owned doomed)

/-- Only pushes and the timer need care. -/
lemma orderly_of (noPush : pushed a = none) (noTick : ∀ checks, a ≠ .connectPoolEventCallback checks) :
    Orderly s live gone a where
  stores kind request type now t push := by
    rw [noPush] at push
    cases push
  empties checks tick := absurd tick (noTick checks)

/-- The deferred release deletes only requests that have been given up. -/
lemma deletedBy_gone (good : Owned s live gone) {request : Ptr} (deleted : s.DeletedBy a request) :
    gone request ∨ ∃ ssl type t kind i it, a = .deletePreNodeBySSL ssl type ∧
      poolOf type = some t ∧ s.findNode t 0 (fun it => it.sslHandle == ssl) = some (kind, i, it) ∧
      it.request = request := by
  obtain ⟨t, kind, i, it, erased, same⟩ := deleted
  rcases erased.by_ with ⟨-, preconnect, here⟩ | ⟨ssl, type, delete_, service, found⟩
  · rw [← same]
    exact .inl (good.doomed t kind i it erased.there erased.owned (.inr ⟨preconnect, here⟩))
  · exact .inr ⟨ssl, type, t, kind, i, it, delete_, service, found, same⟩

/-- A slot in use is found. -/
lemma findNode_isSome {p : ConnectedNodeProcess → Bool} (there : s.slot t kind i = some it)
    (used : it.status = kind.status) (holds : p it = true) : (s.findNode t 0 p).isSome = true := by
  have here : (firstFrom (fun it => it.status == kind.status && p it) 0
      (s.nodes t kind).requests).isSome = true := by
    rw [firstFrom_isSome_iff fun i _ => Nat.zero_le i]
    exact ⟨i, it, there, by simp [used, holds]⟩
  unfold findNode
  dsimp only
  split
  · rfl
  · rename_i none_
    cases kind with
    | prestarted =>
      rw [none_] at here
      cases here
    | preconnected =>
      rw [Option.isSome_map]
      exact here

/-- A request whose slot is in use among those of its service leaves the pool for good. -/
lemma deletePreNodeByRequest_leaves (good : Owned s live gone) {request : Ptr} {type : NlsType}
    (some_ : request ≠ 0)
    (own : ∀ t kind i it, s.slot t kind i = some it → it.request = request →
      poolOf type = some t ∧ it.status = kind.status) :
    ¬ (s.step (.deletePreNodeByRequest request type)).Owns request := by
  rintro ⟨t, kind, i, after, at_, rfl⟩
  rcases owner_before at_ some_ with ⟨it, there, owner, -⟩ | ⟨-, -, installed⟩
  · obtain ⟨service, used⟩ := own t kind i it there owner
    obtain ⟨⟨kind', i', it'⟩, found⟩ := Option.isSome_iff_exists.mp
      (findNode_isSome (p := fun it => after.request == it.request) there used (by simp [owner]))
    obtain ⟨there', -, owner'⟩ := findNode_found found
    obtain ⟨-, rfl, rfl⟩ := good.single t kind i it t kind' i' it' there there' (owner ▸ some_)
      (by rw [owner, ← beq_iff_eq.mp owner'])
    simp only [step, deletePreNodeByRequest, service, found] at at_
    rw [slot_modifySlot_self there', Option.some.injEq] at at_
    subst at_
    exact some_ rfl
  · rcases installed with ⟨type, now, free, push, -⟩ | ⟨popper, type, now, free, index, node, other, -⟩
    · cases push
    · cases other

end ConnectedPool

end NlsSdk.Transport
