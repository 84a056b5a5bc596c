import Oompah.ValidationLease.Fence
import Oompah.ValidationLease.Selection

/-!
# The order of the grants along a run

Each grant is of the waiter that the selection takes among the rows of live
requesters.  A waiter that has starved therefore stays ahead of all that queued
after it for as long as the clock does not go back, and the waiters of one
project and priority are served as they queued.
-/

namespace Oompah
namespace ValidationLease

open Foundation

/-!
# What a grant decides
-/

theorem LeaseStore.tryGrant_eq_some {s s' : LeaseStore} {alive : Process -> Bool}
    {available : List Nat} {aging now : Int} {token : String} {row : OwnerRow}
    (h : s.tryGrant alive available aging token now = (s', some row)) :
    exists waiter candidate, waiter ∈ (s.reconcile alive available).waiters ∧
      waiter.token = token ∧ candidate.token = token ∧
      LeaseStore.selectWaiter (s.reconcile alive available).waiters aging now
        (s.reconcile alive available).projectTurns = some candidate ∧
      row.token = token ∧
      s' = (s.reconcile alive available).insertOwner row := by
  unfold LeaseStore.tryGrant at h
  cases hwaiter : (s.reconcile alive available).waiters.find? (·.token = token) with
  | none =>
    simp only [hwaiter] at h
    cases h
  | some waiter =>
    simp only [hwaiter] at h
    by_cases hcancelled : (s.reconcile alive available).identityCancelled waiter.identity = true
    · rw [if_pos hcancelled] at h
      cases h
    · rw [if_neg hcancelled] at h
      cases hcandidate : LeaseStore.selectWaiter (s.reconcile alive available).waiters aging now
          (s.reconcile alive available).projectTurns with
      | none =>
        rw [hcandidate] at h
        cases h
      | some candidate =>
        rw [hcandidate] at h
        have htoken : waiter.token = token := by simpa using List.find?_some hwaiter
        split at h
        · cases h
        · case isFalse hsame =>
          refine ⟨waiter, candidate, List.mem_of_find?_eq_some hwaiter, htoken,
            by simpa using hsame, rfl, ?_⟩
          split at h
          · cases h
          · cases h
            exact ⟨htoken, rfl⟩

/-- The step hands a slot to the waiter. -/
structure Host.Admits (h : Host) (event : Event) (waiter : WaiterRow) : Prop where
  queued : waiter ∈ h.store.waiters
  granted : exists grant, grant ∈ (h.step event).grants ∧ grant ∉ h.grants ∧
    grant.token = waiter.token

/-- The decision behind a grant: the pass, its time and the selected row.  The
rows of dead requesters are gone when it is made. -/
structure Host.Decides (h : Host) (event : Event) (h' : Host) (token : String) : Prop where
  decision : exists i now pass candidate, event = .transact i now .commits ∧
    h.passes i = some pass ∧
    LeaseStore.selectWaiter
      (h.store.waiters.filter fun row => h.alive row.requester) pass.manager.aging now
      h.store.projectTurns = some candidate ∧
    candidate.token = token
  live : forall row, row ∈ h'.store.waiters -> h.alive row.requester = true

variable {pass : Pass}

section Decides

variable {h h' : Host} {event : Event}

theorem Host.transactAcquire_grants {i : Nat} {token : String} {now : Int}
    {outcome : Outcome} (hpass : h.passes i = some pass)
    (hafter : h.transactAcquire i pass token now outcome = h') {grant : Grant}
    (hgrant : grant ∈ h'.grants) (hnew : grant ∉ h.grants) :
    h.Decides (.transact i now outcome) h' grant.token := by
  unfold Host.transactAcquire at hafter
  split at hafter
  · subst hafter
    exact absurd hgrant hnew
  · rcases htry : h.store.tryGrant h.alive (pass.available.map (·.1)) pass.manager.aging token
      now with ⟨store, chosen⟩
    rw [htry] at hafter
    cases chosen with
    | none =>
      simp only [Option.bind_none] at hafter
      split at hafter <;> subst hafter <;> exact absurd hgrant hnew
    | some row =>
      cases hlookup : pass.available.lookup row.slot with
      | none =>
        simp only [Option.bind_some, hlookup, Option.map_none] at hafter
        split at hafter <;> subst hafter <;> exact absurd hgrant hnew
      | some lockFd =>
        simp only [Option.bind_some, hlookup, Option.map_some] at hafter
        split at hafter
        · case isTrue hcommits =>
          subst hafter
          obtain ⟨waiter, candidate, _, _, hcandidate, hselected, hrow, hstore⟩ :=
            LeaseStore.tryGrant_eq_some htry
          rcases List.mem_append.mp hgrant with hold | hadded
          · exact absurd hold hnew
          · rw [List.mem_singleton.mp hadded, hcommits]
            constructor
            · exact ⟨i, now, pass, candidate, rfl, hpass, hselected, hcandidate.trans hrow.symm⟩
            · intro other hother
              have hkept : other ∈ store.waiters := hother
              rw [hstore] at hkept
              exact (List.mem_filter.mp (List.mem_filter.mp hkept).left).right
        · subst hafter
          exact absurd hgrant hnew

/-- Grants are made by transactions, and tokens are taken by queueing. -/
theorem Host.apply_frame (happly : h.apply event = some h') :
    (h'.grants = h.grants ∨ exists i now outcome, event = .transact i now outcome) ∧
      (h'.tokens = h.tokens ∨ exists i token owner now, event = .enqueue i token owner now) := by
  cases event <;> simp only [Host.apply, Option.bind_eq_some_iff, Option.map_eq_some_iff,
    Option.ite_none_left_eq_some, Option.ite_none_right_eq_some, Option.some.injEq] at happly
  case transact i now outcome =>
    refine ⟨Or.inr ⟨i, now, outcome, rfl⟩, Or.inl ?_⟩
    rcases happly with ⟨pass, _, _, happly⟩
    cases hpurpose : pass.purpose with
    | acquiring token =>
      rw [hpurpose] at happly
      have hacquired := h.transactAcquire_acquired i pass token now outcome
      rw [Option.some.inj happly] at hacquired
      cases hacquired <;> rfl
    | releasing token slot =>
      rw [hpurpose] at happly
      rw [← Option.some.inj happly]
      unfold Host.transactRelease
      split <;> rfl
    | observing =>
      rw [hpurpose] at happly
      rw [← Option.some.inj happly]
      unfold Host.transactStatus
      split <;> rfl
  case enqueue i token owner now =>
    refine ⟨Or.inl ?_, Or.inr ⟨i, token, owner, now, rfl⟩⟩
    rcases happly with ⟨_, _, _, _, _, rfl⟩
    rfl
  case recheck token =>
    rcases happly with ⟨grant, _, acquirer, _, rfl⟩
    split <;> exact ⟨Or.inl rfl, Or.inl rfl⟩
  case reconcile i outcome =>
    rcases happly with ⟨pass, _, _, happly⟩
    split at happly <;>
      exact ⟨Or.inl (Option.some.inj happly ▸ rfl), Or.inl (Option.some.inj happly ▸ rfl)⟩
  case closeSlotLock i =>
    rcases happly with ⟨pass, _, _, rfl⟩
    unfold Host.closeSlotLock
    split
    · exact ⟨Or.inl rfl, Or.inl rfl⟩
    · split <;> exact ⟨Or.inl rfl, Or.inl rfl⟩
  case start process =>
    rcases happly with ⟨_, rfl⟩
    exact ⟨Or.inl rfl, Or.inl rfl⟩
  case exit process | inheritDescriptor lockFd process =>
    rcases happly with ⟨_, rfl⟩
    exact ⟨Or.inl rfl, Or.inl rfl⟩
  case closeInherited lockFd process =>
    subst happly
    exact ⟨Or.inl rfl, Or.inl rfl⟩
  case release token | relinquishTransferredDescriptor token =>
    rcases happly with ⟨_, _, rfl⟩
    exact ⟨Or.inl rfl, Or.inl rfl⟩
  case status i now | cancelOwner i row =>
    rcases happly with ⟨_, _, rfl⟩
    exact ⟨Or.inl rfl, Or.inl rfl⟩
  case tryAcquire token now | giveUp token | tryLockSlot i =>
    rcases happly with ⟨_, _, _, rfl⟩
    exact ⟨Or.inl rfl, Or.inl rfl⟩
  case openManager i process capacity aging =>
    rcases happly with ⟨_, _, _, rfl⟩
    exact ⟨Or.inl rfl, Or.inl rfl⟩
  case attachProcess token child deadlineAt =>
    rcases happly with ⟨_, _, _, _, _, rfl⟩
    exact ⟨Or.inl rfl, Or.inl rfl⟩
  case cancelExactOwnerProcess i row requester child =>
    rcases happly with ⟨_, _, _, _, rfl⟩
    exact ⟨Or.inl rfl, Or.inl rfl⟩

theorem Host.step_grants {grant : Grant} (hgrant : grant ∈ (h.step event).grants)
    (hnew : grant ∉ h.grants) : h.Decides event (h.step event) grant.token := by
  unfold Host.step at hgrant ⊢
  cases happly : h.apply event with
  | none =>
    rw [happly] at hgrant
    exact absurd hgrant hnew
  | some h' =>
    rw [happly] at hgrant
    rcases (Host.apply_frame happly).left with hsame | ⟨i, now, outcome, rfl⟩
    · exact absurd (hsame ▸ hgrant) hnew
    · simp only [Host.apply, Option.bind_eq_some_iff, Option.ite_none_right_eq_some] at happly
      rcases happly with ⟨pass, hpass, _, happly⟩
      cases hpurpose : pass.purpose with
      | acquiring token =>
        rw [hpurpose] at happly
        exact Host.transactAcquire_grants hpass (Option.some.inj happly) hgrant hnew
      | releasing token slot =>
        rw [hpurpose] at happly
        rw [Option.getD_some, ← Option.some.inj happly] at hgrant
        unfold Host.transactRelease at hgrant
        split at hgrant <;> exact absurd hgrant hnew
      | observing =>
        rw [hpurpose] at happly
        rw [Option.getD_some, ← Option.some.inj happly] at hgrant
        unfold Host.transactStatus at hgrant
        split at hgrant <;> exact absurd hgrant hnew

end Decides

/-!
# Waiters are told apart by their tokens
-/

section Distinct

variable {h h' : Host} {event : Event}

/-- Two waiters with one token are one waiter. -/
def Host.DistinctWaiters (h : Host) : Prop :=
  forall row row', row ∈ h.store.waiters -> row' ∈ h.store.waiters ->
    row.token = row'.token -> row = row'

theorem LeaseStore.enqueue_newcomer {s s' : LeaseStore} {token : String}
    {owner : ValidationLeaseOwner} {requester : Process} {now : Int}
    (h : s.enqueue token owner requester now = some s') :
    exists newcomer, forall row, row ∈ s'.waiters -> row ∈ s.waiters ∨ row = newcomer := by
  unfold LeaseStore.enqueue at h
  simp only [Option.ite_none_left_eq_some, Option.some.injEq] at h
  rcases h with ⟨_, rfl⟩
  refine ⟨⟨token, owner.identity, owner.priority, now, requester⟩, fun row hrow => ?_⟩
  rcases List.mem_append.mp hrow with hold | hnew
  · exact .inl hold
  · exact .inr (List.mem_singleton.mp hnew)

/-- At most one waiter comes with a step. -/
theorem Host.step_newcomer (hs : h.Sound) (event : Event) :
    exists newcomer : Option WaiterRow, forall row, row ∈ (h.step event).store.waiters ->
      row ∈ h.store.waiters ∨ some row = newcomer := by
  have hmoves := h.moves_step hs event
  have hafter := hs.step event
  unfold Host.step at hmoves hafter ⊢
  cases happly : h.apply event with
  | none => exact ⟨none, fun row hrow => Or.inl hrow⟩
  | some h' =>
    rw [happly, Option.getD_some] at hmoves hafter
    rcases (Host.apply_frame happly).right with htokens | ⟨i, token, owner, now, rfl⟩
    · refine ⟨none, fun row hrow => Or.inl ?_⟩
      rcases hmoves.waiters_of row hrow with hold | hfresh
      · exact hold
      · exact absurd (htokens ▸ hafter.waiter_known row hrow) hfresh
    · simp only [Host.apply, Option.bind_eq_some_iff, Option.ite_none_left_eq_some,
        Option.map_eq_some_iff] at happly
      rcases happly with ⟨manager, _, _, store, hstore, rfl⟩
      obtain ⟨newcomer, hnewcomer⟩ := LeaseStore.enqueue_newcomer hstore
      refine ⟨some newcomer, fun row hrow => ?_⟩
      exact (hnewcomer row hrow).imp id (congrArg some)

theorem Host.DistinctWaiters.step (hd : h.DistinctWaiters) (hs : h.Sound) (event : Event) :
    (h.step event).DistinctWaiters := by
  intro row row' hrow hrow' htoken
  have hmoves := h.moves_step hs event
  have hold : forall row row', row ∈ h.store.waiters -> row' ∈ (h.step event).store.waiters ->
      row.token = row'.token -> row' ∈ h.store.waiters := by
    intro row row' hrow hrow' htoken
    rcases hmoves.waiters_of row' hrow' with hold | hfresh
    · exact hold
    · exact absurd (htoken ▸ hs.waiter_known row hrow) hfresh
  obtain ⟨newcomer, hnewcomer⟩ := h.step_newcomer hs event
  rcases hnewcomer row hrow with hrowOld | hrowNew
  · exact hd row row' hrowOld (hold row row' hrowOld hrow' htoken) htoken
  · rcases hnewcomer row' hrow' with hrowOld' | hrowNew'
    · exact hd row row' (hold row' row hrowOld' hrow htoken.symm) hrowOld' htoken
    · exact Option.some.inj (hrowNew.trans hrowNew'.symm)

end Distinct

/-!
# Aging steps are positive
-/

/-- The constructor bounds the aging step of every instance from below. -/
structure Host.Aged (h : Host) : Prop where
  managers : forall i manager, h.managers i = some manager -> 0 < manager.aging
  acquirers : forall token acquirer, h.acquirers token = some acquirer -> 0 < acquirer.manager.aging
  passes : forall i pass, h.passes i = some pass -> 0 < pass.manager.aging
  grants : forall grant, grant ∈ h.grants -> 0 < grant.manager.aging

theorem aged_empty : Host.Aged {} := by
  constructor
  case grants =>
    intro grant hgrant
    cases hgrant
  all_goals
    intro x y h
    cases h

namespace Host.Aged

variable {h h' : Host} {event : Event}

theorem setAcquirer (ha : h.Aged) (token : String) {acquirer : Option Acquirer}
    (hacquirer : forall a, acquirer = some a -> 0 < a.manager.aging) :
    (h.setAcquirer token acquirer).Aged := by
  refine { ha with acquirers := ?_ }
  intro other a hother
  by_cases hsame : other = token
  · subst hsame
    exact hacquirer a (by simpa [Host.setAcquirer] using hother)
  · exact ha.acquirers other a (by simpa [Host.setAcquirer, hsame] using hother)

theorem beginPass (ha : h.Aged) {manager : Manager} (purpose : Purpose)
    (hmanager : 0 < manager.aging) : (h.beginPass manager purpose).Aged := by
  refine { ha with passes := ?_ }
  intro i pass hpass
  by_cases hsame : i = h.passCount
  · subst hsame
    simp only [Host.beginPass, Function.update_self, Option.some.injEq] at hpass
    subst hpass
    exact hmanager
  · exact ha.passes i pass (by simpa [Host.beginPass, hsame] using hpass)

theorem setPass (ha : h.Aged) (i : Nat) (hpass : 0 < pass.manager.aging) :
    (h.setPass i pass).Aged := by
  refine { ha with passes := ?_ }
  intro j other hother
  by_cases hsame : j = i
  · subst hsame
    rw [Host.setPass_self] at hother
    exact Option.some.inj hother ▸ hpass
  · rw [Host.setPass_ne hsame] at hother
    exact ha.passes j other hother

theorem endPass (ha : h.Aged) (i : Nat) : (h.endPass i).Aged := by
  refine { ha with passes := ?_ }
  intro j other hother
  by_cases hsame : j = i
  · subst hsame
    simp [Host.endPass] at hother
  · exact ha.passes j other (by simpa [Host.endPass, hsame] using hother)

theorem withStore (ha : h.Aged) (store : LeaseStore) : (h.withStore store).Aged :=
  { ha with }

theorem withKernel (ha : h.Aged) (kernel : Flocks Nat Descriptor) : (h.withKernel kernel).Aged :=
  { ha with }

theorem setHandle (ha : h.Aged) (token : String) (state : HandleState) :
    (h.setHandle token state).Aged :=
  { ha with }

theorem terminate (ha : h.Aged) (caller : Process) (children : List Process) :
    (h.terminate caller children).Aged :=
  { ha with }

theorem beginRelease (ha : h.Aged) {grant : Grant} (hgrant : grant ∈ h.grants) :
    (h.beginRelease grant).Aged :=
  ((ha.withKernel _).setHandle _ _).beginPass _ (ha.grants grant hgrant)

theorem commitGrant (ha : h.Aged) {i : Nat} (hpass : h.passes i = some pass)
    (store : LeaseStore) (row : OwnerRow) (lockFd : Nat) :
    (h.commitGrant i pass store row lockFd).Aged := by
  have hpositive := ha.passes i pass hpass
  have hgrants : Host.Aged { h.withStore store with
      grants := h.grants ++ [{ manager := pass.manager, token := row.token
                               identity := row.identity, slot := row.slot
                               lockFd := lockFd }] } := by
    refine { ha with grants := ?_ }
    intro grant hgrant
    rcases List.mem_append.mp hgrant with hold | hnew
    · exact ha.grants grant hold
    · exact List.mem_singleton.mp hnew ▸ hpositive
  exact (hgrants.setHandle _ _).setPass i hpositive

theorem exitProcess (ha : h.Aged) (process : Process) : (h.exitProcess process).Aged := by
  refine { managers := ?_, acquirers := ?_, passes := ?_, grants := ha.grants }
  · intro i manager hmanager
    exact ha.managers i manager (Option.filter_eq_some_iff.mp hmanager).left
  · intro token acquirer hacquirer
    exact ha.acquirers token acquirer (Option.filter_eq_some_iff.mp hacquirer).left
  · intro i pass hpass
    exact ha.passes i pass (Option.filter_eq_some_iff.mp hpass).left

theorem transactAcquire (ha : h.Aged) {i : Nat} (hpass : h.passes i = some pass)
    (token : String) (now : Int) (outcome : Outcome) :
    (h.transactAcquire i pass token now outcome).Aged := by
  have hpositive := ha.passes i pass hpass
  have hacquired := h.transactAcquire_acquired i pass token now outcome
  generalize h.transactAcquire i pass token now outcome = h' at hacquired ⊢
  cases hacquired with
  | unchanged available hsub => exact ha.setPass i hpositive
  | refused token => exact (ha.withStore _).setPass i hpositive
  | granted waiter slot lockFd => exact ha.commitGrant hpass _ _ _

theorem apply (ha : h.Aged) (happly : h.apply event = some h') : h'.Aged := by
  cases event <;> simp only [Host.apply, Option.bind_eq_some_iff, Option.map_eq_some_iff,
    Option.ite_none_left_eq_some, Option.ite_none_right_eq_some, Option.some.injEq] at happly
  case start process =>
    rcases happly with ⟨_, rfl⟩
    exact { ha with }
  case exit process =>
    rcases happly with ⟨_, rfl⟩
    exact ha.exitProcess process
  case openManager i process capacity aging =>
    rcases happly with ⟨_, _, _, rfl⟩
    refine { ha with managers := ?_ }
    intro j manager hmanager
    by_cases hsame : j = i
    · subst hsame
      simp only [Function.update_self, Option.some.injEq] at hmanager
      subst hmanager
      show 0 < max aging 10
      omega
    · exact ha.managers j manager (by simpa [hsame] using hmanager)
  case enqueue i token owner now =>
    rcases happly with ⟨manager, hmanager, _, store, _, rfl⟩
    have htokens : Host.Aged { h.withStore store with tokens := token :: h.tokens } :=
      { ha with }
    refine htokens.setAcquirer token ?_
    rintro a ⟨rfl⟩
    exact ha.managers i manager hmanager
  case tryAcquire token now =>
    rcases happly with ⟨acquirer, hacquirer, _, rfl⟩
    have hpositive := ha.acquirers token acquirer hacquirer
    refine ((ha.setAcquirer token ?_).terminate _ _).beginPass _ hpositive
    rintro a ⟨rfl⟩
    exact hpositive
  case giveUp token =>
    rcases happly with ⟨acquirer, _, _, rfl⟩
    exact (ha.withStore _).setAcquirer token (by rintro a ⟨⟩)
  case recheck token =>
    rcases happly with ⟨grant, hgrant, acquirer, _, rfl⟩
    have hcleared : (h.setAcquirer token none).Aged := ha.setAcquirer token (by rintro a ⟨⟩)
    split
    · exact hcleared.beginRelease (Host.usable_mem hgrant).left
    · exact hcleared.setHandle _ _
  case attachProcess token child deadlineAt =>
    rcases happly with ⟨_, _, _, _, _, rfl⟩
    exact { ha with }
  case release token =>
    rcases happly with ⟨grant, hgrant, rfl⟩
    exact ha.beginRelease (Host.usable_mem hgrant).left
  case relinquishTransferredDescriptor token =>
    rcases happly with ⟨grant, _, rfl⟩
    exact (ha.withKernel _).setHandle _ _
  case status i now =>
    rcases happly with ⟨manager, hmanager, rfl⟩
    exact (ha.terminate _ _).beginPass _ (ha.managers i manager hmanager)
  case cancelOwner i row =>
    rcases happly with ⟨manager, _, rfl⟩
    exact (ha.withStore _).terminate _ _
  case cancelExactOwnerProcess i row requester child =>
    rcases happly with ⟨manager, _, store, _, rfl⟩
    exact (ha.withStore _).terminate _ _
  case tryLockSlot i =>
    rcases happly with ⟨pass, hpass, _, rfl⟩
    exact (ha.withKernel _).setPass i (ha.passes i pass hpass)
  case transact i now outcome =>
    rcases happly with ⟨pass, hpass, _, happly⟩
    have hpositive := ha.passes i pass hpass
    cases hpurpose : pass.purpose with
    | acquiring token =>
      rw [hpurpose] at happly
      rw [← Option.some.inj happly]
      exact ha.transactAcquire hpass token now outcome
    | releasing token slot =>
      rw [hpurpose] at happly
      rw [← Option.some.inj happly]
      unfold Host.transactRelease
      split
      · exact (ha.withStore _).setPass i hpositive
      · exact ha.setPass i hpositive
    | observing =>
      rw [hpurpose] at happly
      rw [← Option.some.inj happly]
      unfold Host.transactStatus
      split <;> exact ha.setPass i hpositive
  case reconcile i outcome =>
    rcases happly with ⟨pass, hpass, _, happly⟩
    have hpositive := ha.passes i pass hpass
    split at happly
    · exact Option.some.inj happly ▸ (ha.withStore _).setPass i hpositive
    · exact Option.some.inj happly ▸ ha.setPass i hpositive
  case closeSlotLock i =>
    rcases happly with ⟨pass, hpass, _, rfl⟩
    unfold Host.closeSlotLock
    split
    · exact (ha.withKernel _).setPass i (ha.passes i pass hpass)
    · split
      · refine (ha.setAcquirer _ ?_).endPass i
        intro a hsome
        rcases Option.map_eq_some_iff.mp hsome with ⟨acquirer, hacquirer, rfl⟩
        exact ha.acquirers _ acquirer hacquirer
      · exact ha.endPass i
  case inheritDescriptor lockFd process =>
    rcases happly with ⟨_, rfl⟩
    exact ha.withKernel _
  case closeInherited lockFd process =>
    subst happly
    exact ha.withKernel _

theorem step (ha : h.Aged) (event : Event) : (h.step event).Aged := by
  unfold Host.step
  cases happly : h.apply event with
  | none => exact ha
  | some h' => exact ha.apply happly

end Host.Aged

/-!
# Grants along a run
-/

/-- What an event read from the clock. -/
def Event.reading : Event -> Option Int
  | .enqueue _ _ _ now => some now
  | .tryAcquire _ now => some now
  | .status _ now => some now
  | .transact _ now _ => some now
  | .cancelOwner _ row => some row.cancelledAt
  | .cancelExactOwnerProcess _ row _ _ => some row.cancelledAt
  | _ => none

/-- What a transaction read from the clock once it had begun. -/
def Event.decidedAt : Event -> Option Int
  | .transact _ now _ => some now
  | _ => none

/-- The clock does not go back: a transaction reads it after all that was read
by the events before it. -/
def Clocked (events : List Event) : Prop :=
  events.Pairwise fun earlier later =>
    forall t t', earlier.reading = some t -> later.decidedAt = some t' -> t ≤ t'

/-- Some instant up to the event at which the waiter had waited for all aging
steps of the instance that acts. -/
def Host.StarvedBy (h : Host) (past : List Event) (event : Event) (waiter : WaiterRow) : Prop :=
  exists reader t pass, reader ∈ past ++ [event] ∧ reader.reading = some t ∧
    h.acting event = some pass ∧
    pass.manager.aging * starvationAgingSteps ≤ t - waiter.queuedAt

/-- The waiters of one project that have one priority. -/
def WaiterRow.SameRank (a b : WaiterRow) : Prop :=
  a.priority = b.priority ∧ a.identity.projectId = b.identity.projectId

theorem starved_of_starvedBy {h : Host} {past : List Event} {i : Nat} {now : Int}
    {outcome : Outcome} {waiter : WaiterRow}
    (hclock : Clocked (past ++ [.transact i now outcome])) (hpass : h.passes i = some pass)
    (hstarved : h.StarvedBy past (.transact i now outcome) waiter) :
    waiter.starved pass.manager.aging now = true := by
  obtain ⟨reader, t, acting, hreader, hreading, hacting, hwaited⟩ := hstarved
  have hsame : acting = pass := Option.some.inj (hacting.symm.trans hpass)
  have hlate : t ≤ now := by
    rcases List.mem_append.mp hreader with hpast | hlast
    · exact (List.pairwise_append.mp hclock).right.right reader hpast _
        (List.mem_singleton.mpr rfl) t now hreading rfl
    · rw [List.mem_singleton.mp hlast] at hreading
      exact Int.le_of_eq (Option.some.inj hreading).symm
  unfold WaiterRow.starved WaiterRow.age
  rw [decide_eq_true_eq, ← hsame]
  omega

/--
In every run whose clock does not go back, a waiter that queued before the one a
step grants to, and that has starved or is of the same rank, has no live
requester: the transaction of the grant took its row away first.
-/
theorem grants_ordered_run (events : List Event) (hclock : Clocked events) :
    forall past event rest, events = past ++ event :: rest ->
      forall granted, (run Host.step {} past).Admits event granted ->
        forall waiter, waiter ∈ (run Host.step {} past).store.waiters ->
          waiter.queuedBefore granted = true ->
          (run Host.step {} past).StarvedBy past event waiter ∨ waiter.SameRank granted ->
          (run Host.step {} past).alive waiter.requester = false ∧
            waiter ∉ (run Host.step {} (past ++ [event])).store.waiters := by
  intro past event rest hevents granted hadmits waiter hwaiter hqueued hranked
  have hinvariant : (run Host.step {} past).Sound ∧
      (run Host.step {} past).DistinctWaiters ∧ (run Host.step {} past).Aged := by
    refine invariant_run (I := fun h : Host => h.Sound ∧ h.DistinctWaiters ∧ h.Aged) ?_ ?_ past
    · rintro h event ⟨hs, hd, ha⟩
      exact ⟨hs.step event, hd.step hs event, ha.step event⟩
    · exact ⟨sound_empty, (fun row row' hrow => by cases hrow), aged_empty⟩
  rw [run_snoc]
  generalize run Host.step {} past = h at *
  obtain ⟨_, hdistinct, haged⟩ := hinvariant
  obtain ⟨grant, hgrant, hnew, htoken⟩ := hadmits.granted
  obtain ⟨⟨i, now, pass, candidate, rfl, hpass, hselected, hcandidate⟩, hlive⟩ :=
    Host.step_grants hgrant hnew
  have hmem := selectWaiter_mem hselected
  have hsame : candidate = granted :=
    hdistinct candidate granted (List.mem_filter.mp hmem).left hadmits.queued
      (hcandidate.trans htoken)
  have hdead : h.alive waiter.requester = false := by
    by_contra halive
    have hrow : waiter ∈ h.store.waiters.filter fun row => h.alive row.requester :=
      List.mem_filter.mpr ⟨hwaiter, by simpa using halive⟩
    have hafter : waiter.queuedBefore candidate = false := by
      rcases hranked with hstarved | hrank
      · have hclocked : Clocked (past ++ [.transact i now .commits]) := by
          rw [hevents, List.append_cons] at hclock
          exact (List.pairwise_append.mp hclock).left
        exact selectWaiter_starved hselected hrow (starved_of_starvedBy hclocked hpass hstarved)
      · exact selectWaiter_sameProject (haged.passes i pass hpass) hselected hrow
          (hsame ▸ hrank.left) (hsame ▸ hrank.right)
    rw [hsame, hqueued] at hafter
    cases hafter
  refine ⟨hdead, fun hkept => ?_⟩
  have halive := hlive waiter hkept
  rw [hdead] at halive
  cases halive

def sampleWorker : Process := ⟨200, 5⟩

/-- A worker starves in the queue and is gone when a gate that queued after it
acquires the slot. -/
def starvedEvents : List Event :=
  [.start sampleService, .start sampleWorker, .openManager 0 sampleService 1 30000,
    .openManager 1 sampleWorker 1 30000, .enqueue 1 "w" (.worker "p" "t" "g") 0,
    .enqueue 0 "x" (.exactGate "p" "t" "g") 700000, .exit sampleWorker,
    .tryAcquire "x" 700000, .tryLockSlot 0]

def sampleGate : WaiterRow :=
  ⟨"x", ⟨.exactGate, "p", "t", "g"⟩, exactGatePriority, 700000, sampleService⟩

def sampleStarved : WaiterRow :=
  ⟨"w", ⟨.worker, "p", "t", "g"⟩, workerPriority, 0, sampleWorker⟩

theorem starvedEvents_ordered :
    (run Host.step {} starvedEvents).alive sampleWorker = false ∧ sampleStarved ∉
        (run Host.step {} (starvedEvents ++ [.transact 0 700001 .commits])).store.waiters := by
  refine grants_ordered_run (starvedEvents ++ [.transact 0 700001 .commits]) ?_
    starvedEvents (.transact 0 700001 .commits) [] rfl sampleGate ?_ sampleStarved
    ?_ rfl (Or.inl ?_)
  · unfold Clocked starvedEvents
    simp [Event.reading, Event.decidedAt]
  · refine ⟨by decide, ⟨⟨sampleService, 1, 30000⟩, "x", sampleGate.identity, 0, 0⟩, ?_⟩
    decide
  · decide
  · refine ⟨.transact 0 700001 .commits, 700001,
      { manager := ⟨sampleService, 1, 30000⟩, purpose := .acquiring "x"
        next := 1, available := [(0, 0)] }, ?_⟩
    decide

end ValidationLease
end Oompah
