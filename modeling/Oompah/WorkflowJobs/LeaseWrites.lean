import Oompah.WorkflowJobs.Writes

/-!
# Writes of the lease operations

One lemma per operation: a successful call is a chain of writes under any
permit that covers its phase arguments, the rows it reclaims and the rows it
claims.
-/

namespace Oompah
namespace WorkflowJobs

open Foundation

namespace Store

variable {p : Permit} {s s' : Store}

variable {row : WorkflowJob}

theorem find?_jobId {jobId : String} (h : s.jobs.find? jobId = some row) :
    s.jobs.find? row.jobId = some row := by
  rw [(JobTable.mem_of_find? h).right]
  exact h

/-!
# Lease checks
-/

/-- The exact live lease of a row. -/
structure LiveLease (s : Store) (jobId leaseToken : String) (now : Int)
    (row : WorkflowJob) : Prop where
  found : s.jobs.find? jobId = some row
  running : row.state = .running
  token : row.leaseToken = some leaseToken
  expiry : exists expiry, row.leaseExpiresAt = some expiry ∧ now < expiry

variable {jobId leaseToken : String} {now : Int}

theorem LiveLease.leased (h : LiveLease s jobId leaseToken now row) : RowAction.Leased row := by
  rcases h.expiry with ⟨expiry, hexpiry, _⟩
  exact ⟨h.running, by simp [hexpiry]⟩

theorem ownedRowLocked_eq_ok (h : s.ownedRowLocked jobId leaseToken now = .ok row) :
    LiveLease s jobId leaseToken now row := by
  unfold ownedRowLocked requiredText at h
  simp only [require_bind_eq_ok] at h
  rw [bind_eq_ok] at h
  rcases h with ⟨_, found, hfound, h⟩
  simp only [require_bind_eq_ok] at h
  rcases h with ⟨hrunning, _, howned, h⟩
  cases h
  simp only [WorkflowJob.ownedBy, decide_eq_true_eq, Option.any_eq_true] at howned
  rcases howned with ⟨_, htoken, expiry, hexpiry, hlive⟩
  exact ⟨rowLocked_eq_ok.mp hfound, hrunning, htoken, expiry, hexpiry, by simpa using hlive⟩

theorem heldRowLocked_eq_ok {jobId leaseToken message : String} {holds : WorkflowJob -> Bool}
    (h : s.heldRowLocked jobId leaseToken message holds = .ok row) :
    s.jobs.find? jobId = some row ∧ row.state = .running ∧
      row.leaseToken = some leaseToken ∧ leaseToken ≠ "" ∧
      holds row = true := by
  unfold heldRowLocked requiredText at h
  simp only [require_bind_eq_ok] at h
  rcases h with ⟨_, htext, h⟩
  rw [bind_eq_ok] at h
  rcases h with ⟨found, hfound, h⟩
  simp only [require_bind_eq_ok] at h
  rcases h with ⟨⟨hrunning, htoken, hholds⟩, h⟩
  cases h
  exact ⟨rowLocked_eq_ok.mp hfound, hrunning, htoken, htext, hholds⟩

theorem quarantinedRowLocked_eq_ok (h : s.quarantinedRowLocked jobId leaseToken = .ok row) :
    s.jobs.find? jobId = some row ∧ row.isQuarantined = true ∧
      row.leaseToken = some leaseToken := by
  have hheld := heldRowLocked_eq_ok h
  rcases hheld with ⟨hfound, hrunning, htoken, _, hphase⟩
  refine ⟨hfound, ?_, htoken⟩
  simp [WorkflowJob.isQuarantined, hrunning, of_decide_eq_true hphase]

/-!
# Owned updates
-/

variable {plan : WorkflowJob -> Except StoreError (RowAction × LoggedEvent)} {result : WorkflowJob}

theorem updateOwned_eq_ok (h : s.updateOwned jobId leaseToken now plan = .ok (s', result)) :
    exists row action event, LiveLease s jobId leaseToken now row ∧
        plan row = .ok (action, event) ∧
        s' = s.actLogged row action event now ∧
        result = action.apply row := by
  unfold updateOwned at h
  rw [bind_eq_ok] at h
  rcases h with ⟨row, hrow, h⟩
  rw [bind_eq_ok] at h
  rcases h with ⟨⟨action, event⟩, hplan, h⟩
  cases h
  exact ⟨row, action, event, ownedRowLocked_eq_ok hrow, hplan, rfl, rfl⟩

theorem updateOwned_writes (h : s.updateOwned jobId leaseToken now plan = .ok (s', result))
    (hallows : forall row action event, row.jobId = jobId ->
      RowAction.Leased row -> plan row = .ok (action, event) -> p.Allows s action row) :
    Writes p s s' := by
  rcases updateOwned_eq_ok h with ⟨row, action, event, hlive, hplan, hs', _⟩
  rw [hs']
  exact Writes.actLogged (find?_jobId hlive.found)
    (hallows row action event (JobTable.mem_of_find? hlive.found).right hlive.leased hplan)

theorem renew_writes {leaseSeconds now : Int}
    (h : s.renew jobId leaseToken leaseSeconds now = .ok (s', result)) :
    Writes p s s' := by
  unfold renew at h
  rw [require_bind_eq_ok] at h
  apply updateOwned_writes h.right
  intro row action event _ hleased hplan
  cases hplan
  exact Permit.Allows.of_plain rfl hleased

theorem checkpoint_writes {jobId leaseToken phase : String} {saved : JsonObject}
    (hphase : p.phases phase) (hrewrites : forall row, row.jobId = jobId -> p.rewrites row)
    (h : s.checkpoint jobId leaseToken phase saved now = .ok (s', result)) :
    Writes p s s' := by
  unfold checkpoint requiredText at h
  rw [require_bind_eq_ok] at h
  apply updateOwned_writes h.right
  intro row action event hid hleased hplan
  cases hplan
  refine Permit.Allows.of_rewrite ?_ rfl (hrewrites row hid) hleased
  intro written hwritten
  cases hwritten
  exact hphase

variable {category : WorkflowFailureCategory} {error : String} {retryable : Bool}
  {phase : Option String}

theorem fail_writes {retryDelaySeconds : Int}
    (hphase : forall text, phase = some text -> p.phases text)
    (h : s.fail jobId leaseToken category error retryable retryDelaySeconds
      phase now = .ok (s', result)) :
    Writes p s s' := by
  unfold fail requiredText at h
  simp only [require_bind_eq_ok] at h
  apply updateOwned_writes h.right.right.right
  intro row action event _ hleased hplan
  cases hplan
  exact ⟨hleased, hphase, by simp [RowAction.isReclaim],
    by simp [RowAction.isClaim], by simp [RowAction.capturedRow],
    by simp [RowAction.rewritesCheckpoint], by simp [RowAction.grantedToken]⟩

theorem requeueOwnedWithoutAttempt_writes {jobId leaseToken expectedPhase phase reason : String}
    (hphase : p.phases phase) (hrewrites : forall row, row.jobId = jobId -> p.rewrites row)
    (h : s.requeueOwnedWithoutAttempt jobId leaseToken expectedPhase phase
      reason now = .ok (s', result)) :
    Writes p s s' := by
  unfold requeueOwnedWithoutAttempt requiredText at h
  simp only [require_bind_eq_ok] at h
  apply updateOwned_writes h.right.right.right
  intro row action event hid hleased hplan
  split at hplan
  · cases hplan
    refine Permit.Allows.of_rewrite ?_ rfl (hrewrites row hid) hleased
    intro written hwritten
    cases hwritten
    exact hphase
  · cases hplan

variable {jobId leaseToken reason : String} {retryDelaySeconds now : Int}

theorem deferOwnedWithoutAttempt_writes
    (h : s.deferOwnedWithoutAttempt jobId leaseToken reason retryDelaySeconds
      now = .ok (s', result)) :
    Writes p s s' := by
  unfold deferOwnedWithoutAttempt requiredText at h
  simp only [require_bind_eq_ok] at h
  apply updateOwned_writes h.right.right
  intro row action event _ hleased hplan
  cases hplan
  exact Permit.Allows.of_plain rfl hleased

theorem deferOwnedUntil_writes {retryAt now : Int}
    (h : s.deferOwnedUntil jobId leaseToken reason retryAt now = .ok (s', result)) :
    Writes p s s' := by
  unfold deferOwnedUntil requiredText at h
  rw [require_bind_eq_ok] at h
  apply updateOwned_writes h.right
  intro row action event _ hleased hplan
  cases hplan
  exact Permit.Allows.of_plain rfl hleased

theorem cancelOwned_writes (h : s.cancelOwned jobId leaseToken reason now = .ok (s', result)) :
    Writes p s s' := by
  unfold cancelOwned requiredText at h
  rw [require_bind_eq_ok] at h
  apply updateOwned_writes h.right
  intro row action event _ hleased hplan
  cases hplan
  exact Permit.Allows.of_plain rfl hleased

/-!
# Completion
-/

variable {projectId taskId : String} {facts : List LandingFact}

theorem recordFacts_eq_ok {requireDurable : Bool}
    (h : s.recordFacts projectId taskId facts requireDurable = .ok s') :
    exists f, s' = s.withTables f ∧ (f s.tables).cursors = s.tables.cursors := by
  unfold recordFacts at h
  rw [bind_eq_ok] at h
  rcases h with ⟨_, _, h⟩
  rw [bind_eq_ok] at h
  rcases h with ⟨known, _, h⟩
  cases h
  exact ⟨_, rfl, rfl⟩

theorem recordLandingFacts_writes (h : s.recordLandingFacts projectId taskId facts = .ok s') :
    Writes p s s' := by
  unfold recordLandingFacts requiredText at h
  simp only [require_bind_eq_ok] at h
  rcases recordFacts_eq_ok h.right.right with ⟨f, hf, hcursors⟩
  rw [hf]
  exact Writes.tables (fun hunique => hunique.sublist (by rw [hcursors]))

variable {resultTransition : Option JsonObject} {landingFacts : List LandingFact}

theorem complete_eq_ok (h : s.complete jobId leaseToken resultTransition landingFacts now =
      .ok (s', result)) :
    exists row f event, LiveLease s jobId leaseToken now row ∧
      (f s.tables).cursors = s.tables.cursors ∧
      s' = (s.withTables f).actLogged row (.complete resultTransition now) event now ∧
      result = (RowAction.complete resultTransition now).apply row := by
  unfold complete at h
  rw [bind_eq_ok] at h
  rcases h with ⟨row, hrow, h⟩
  rw [bind_eq_ok] at h
  rcases h with ⟨recorded, hrecorded, h⟩
  rcases recordFacts_eq_ok hrecorded with ⟨f, hf, hcursors⟩
  subst hf
  cases h
  exact ⟨row, f, _, ownedRowLocked_eq_ok hrow, hcursors, rfl, rfl⟩

theorem complete_writes (h : s.complete jobId leaseToken resultTransition landingFacts now =
      .ok (s', result)) :
    Writes p s s' := by
  rcases complete_eq_ok h with ⟨row, f, _, hlive, hcursors, hs', _⟩
  rw [hs']
  have htables : Writes p s (s.withTables f) :=
    Writes.tables (fun hunique => hunique.sublist (by rw [hcursors]))
  apply htables.trans
  exact Writes.actLogged (find?_jobId hlive.found) (Permit.Allows.of_plain rfl hlive.leased)

/-!
# Quarantine
-/

theorem quarantineOwned_eq_ok (h : s.quarantineOwned jobId leaseToken category error now =
      .ok (s', result)) :
    exists row event, s.jobs.find? jobId = some row ∧ row.state = .running ∧
      row.leaseToken = some leaseToken ∧
      s' = s.actLogged row (.quarantine category error now) event now ∧
      result = (RowAction.quarantine category error now).apply row := by
  unfold quarantineOwned requiredText at h
  rw [require_bind_eq_ok, bind_eq_ok] at h
  rcases h with ⟨_, row, hrow, h⟩
  cases h
  rcases heldRowLocked_eq_ok hrow with ⟨hfound, hrunning, htoken, _, _⟩
  exact ⟨row, _, hfound, hrunning, htoken, rfl, rfl⟩

theorem quarantineOwned_writes (h : s.quarantineOwned jobId leaseToken category error now =
      .ok (s', result)) :
    Writes p s s' := by
  rcases quarantineOwned_eq_ok h with ⟨row, _, hfound, hrunning, _, hs', _⟩
  rw [hs']
  exact Writes.actLogged (find?_jobId hfound) (Permit.Allows.of_plain rfl hrunning)

/-- The action that settles a quarantine, by the outcome of the call. -/
def settleAction (effectReceipt : Option (List (String × String)))
    (failureCategory : WorkflowFailureCategory) (error : Option String)
    (retryable : Bool) (retryDelaySeconds now : Int) : RowAction :=
  if effectReceipt.isSome || error.isNone then
    .settleReturned effectReceipt now
  else
    .settleFailed failureCategory (error.getD "") retryable retryDelaySeconds now

variable {effectReceipt : Option (List (String × String))}
  {failureCategory : WorkflowFailureCategory}

theorem settleQuarantinedCall_eq_ok {jobId leaseToken operation : String} {error : Option String}
    (h : s.settleQuarantinedCall jobId leaseToken operation effectReceipt
      failureCategory error retryable retryDelaySeconds now = .ok (s', result)) :
    exists row event, s.jobs.find? jobId = some row ∧ row.isQuarantined = true ∧
      row.leaseToken = some leaseToken ∧
      s' = s.actLogged row (settleAction effectReceipt failureCategory error retryable
          retryDelaySeconds now) event now ∧
      result = (settleAction effectReceipt failureCategory error retryable
        retryDelaySeconds now).apply row := by
  unfold settleQuarantinedCall requiredText at h
  simp only [require_bind_eq_ok] at h
  rcases h with ⟨_, _, _, h⟩
  rw [bind_eq_ok] at h
  rcases h with ⟨row, hrow, h⟩
  cases h
  rcases quarantinedRowLocked_eq_ok hrow with ⟨hfound, hquarantined, htoken⟩
  exact ⟨row, _, hfound, hquarantined, htoken, rfl, rfl⟩

theorem settleQuarantinedCall_writes {jobId leaseToken operation : String} {error : Option String}
    (hrewrites : forall row, row.jobId = jobId -> p.rewrites row)
    (h : s.settleQuarantinedCall jobId leaseToken operation effectReceipt
      failureCategory error retryable retryDelaySeconds now = .ok (s', result)) :
    Writes p s s' := by
  rcases settleQuarantinedCall_eq_ok h with ⟨row, _, hfound, hquarantined, _, hs', _⟩
  rw [hs']
  apply Writes.actLogged (find?_jobId hfound)
  have hrow := hrewrites row (JobTable.mem_of_find? hfound).right
  unfold settleAction
  split
  · exact Permit.Allows.of_rewrite (fun _ h => by cases h) rfl hrow hquarantined
  · exact Permit.Allows.of_rewrite (fun _ h => by cases h) rfl hrow hquarantined

theorem markQuarantineRecycleRequested_writes
    (hrewrites : forall row, row.jobId = jobId -> p.rewrites row)
    (h : s.markQuarantineRecycleRequested jobId leaseToken now = .ok (s', result)) :
    Writes p s s' := by
  unfold markQuarantineRecycleRequested at h
  rw [bind_eq_ok] at h
  rcases h with ⟨row, hrow, h⟩
  rcases quarantinedRowLocked_eq_ok hrow with ⟨hfound, hquarantined, _⟩
  split at h
  · cases h
    exact Writes.refl s
  · cases h
    exact Writes.actLogged (find?_jobId hfound)
      (Permit.Allows.of_rewrite (fun _ h => by cases h) rfl
        (hrewrites row (JobTable.mem_of_find? hfound).right) hquarantined)

variable {leaseSeconds : Int}

theorem reclaimAbandoned_writes {jobId leaseToken leaseOwner : String}
    {replacementToken : LeaseToken} {expectedPhase : Option String}
    (hreclaims : forall row, s.jobs.find? jobId = some row ->
      row.state = .running -> row.leaseToken = some leaseToken ->
      (forall phase, expectedPhase = some phase -> row.phase = phase) ->
      p.reclaims row)
    (htokens : p.tokens replacementToken)
    (h : s.reclaimAbandoned jobId leaseToken leaseOwner replacementToken
      leaseSeconds expectedPhase now = .ok (s', result)) :
    Writes p s s' := by
  unfold reclaimAbandoned requiredText at h
  simp only [require_bind_eq_ok] at h
  rcases h with ⟨howner, _, h⟩
  rw [bind_eq_ok] at h
  rcases h with ⟨row, hrow, h⟩
  rcases heldRowLocked_eq_ok hrow with ⟨hfound, hrunning, htoken, _, hphase⟩
  cases h
  apply Writes.actLogged (find?_jobId hfound)
  refine ⟨⟨hrunning, howner, replacementToken.property⟩,
    by simp [RowAction.phaseArgument], ?_, by simp [RowAction.isClaim],
    by simp [RowAction.capturedRow], by simp [RowAction.rewritesCheckpoint], ?_⟩
  · intro _
    apply hreclaims row hfound hrunning htoken
    intro phase hsome
    rw [hsome] at hphase
    simpa using hphase
  · intro token hgranted
    cases hgranted
    exact htokens

/-!
# Recovery
-/

variable {action : RowAction} {event : Option LoggedEvent}

theorem recoverPlan_applicable
    (h : recoverPlan category error phase now row = some (action, event)) :
    action = .recover category error phase now ∧ action.Applicable row := by
  unfold recoverPlan at h
  split at h
  · cases h
  · rename_i hguard
    cases h
    simp only [not_or, Bool.not_eq_true, not_not] at hguard
    rcases hguard with ⟨haudit, _, hrunning⟩
    exact ⟨rfl, hrunning, by simp [haudit]⟩

theorem selects_expiredRows (s : Store) (filter : RecoveryFilter) (limit : Nat) (now : Int) :
    s.Selects (s.expiredRows filter limit now) :=
  ((selects_filter s _).perm (List.perm_insertionSort _ _)).sublist (List.take_sublist _ _)

theorem recoverExpiredLocked_writes (filter : RecoveryFilter) (limit : Nat) (now : Int) :
    Writes p s (s.recoverExpiredLocked filter limit now) := by
  apply actEach_writes (selects_expiredRows s filter limit now)
  intro _ row action event _ hplan
  rcases recoverPlan_applicable hplan with ⟨haction, happlicable⟩
  rw [haction] at happlicable ⊢
  exact Permit.Allows.of_plain rfl happlicable

variable {limit : Nat} {count : Nat}

theorem recoverExpired_writes {filter : RecoveryFilter}
    (h : s.recoverExpired filter limit now = .ok (s', count)) :
    Writes p s s' := by
  unfold recoverExpired boundedLimit at h
  rw [require_bind_eq_ok, bind_eq_ok] at h
  rcases h with ⟨_, _, _, h⟩
  cases h
  exact recoverExpiredLocked_writes filter limit now

theorem selects_abandonedRows (s : Store) (leaseOwner : Option String)
    (filter : RecoveryFilter) (limit : Nat) :
    s.Selects (s.abandonedRows leaseOwner filter limit) :=
  (selects_filter s _).sublist (List.take_sublist _ _)

theorem recoverAbandoned_writes {leaseOwner phase : Option String} {filter : RecoveryFilter}
    (hphase : forall text, phase = some text -> p.phases text)
    (h : s.recoverAbandoned leaseOwner phase filter limit now = .ok (s', count)) :
    Writes p s s' := by
  unfold recoverAbandoned boundedLimit at h
  rw [require_bind_eq_ok, bind_eq_ok] at h
  rcases h with ⟨_, _, _, h⟩
  cases h
  apply actEach_writes (selects_abandonedRows s leaseOwner filter limit)
  intro _ row action event hrow hplan
  rcases recoverPlan_applicable hplan with ⟨haction, happlicable⟩
  refine ⟨happlicable, ?_, ?_, ?_, ?_, ?_, ?_⟩
  · simpa [haction, RowAction.phaseArgument] using hphase
  · simp [haction, RowAction.isReclaim]
  · simp [haction, RowAction.isClaim]
  · simp [haction, RowAction.capturedRow]
  · simp [haction, RowAction.rewritesCheckpoint]
  · simp [haction, RowAction.grantedToken]

/-!
# Claims
-/

theorem recoverForClaim_writes (filter : ClaimFilter) (recoveryLimit : Nat) (now : Int) :
    Writes p s (s.recoverForClaim filter recoveryLimit now) := by
  apply foldl_relation Writes.refl (fun _ _ _ => Writes.trans) _
  intro s recovery _
  exact recoverExpiredLocked_writes recovery recoveryLimit now

variable {filter : ClaimFilter} {fair : Bool}

theorem selectClaim_eq_some (h : s.selectClaim filter fair now = some row) :
    row ∈ s.jobs.rows ∧ s.claimCandidate filter now row = true := by
  have hmem := List.mem_of_mem_head? h
  rw [List.mem_insertionSort, List.mem_filter] at hmem
  exact hmem

variable {leaseToken : LeaseToken}

theorem leaseSelected_writes {owner : String} (hrow : row ∈ s.jobs.rows)
    (happlicable : (RowAction.claim owner leaseToken (now + leaseSeconds) now).Applicable row)
    (hclaims : p.claims s row) (htokens : p.tokens leaseToken) :
    Writes p s (s.leaseSelected row owner leaseToken leaseSeconds fair now).1 := by
  have hact : Writes p s (s.act row.jobId (.claim owner leaseToken (now + leaseSeconds) now)) := by
    apply Writes.act (JobTable.find?_of_mem hrow)
    refine ⟨happlicable, by simp [RowAction.phaseArgument],
      by simp [RowAction.isReclaim], fun _ => hclaims,
      by simp [RowAction.capturedRow], by simp [RowAction.rewritesCheckpoint],
      ?_⟩
    intro token hgranted
    cases hgranted
    exact htokens
  cases fair with
  | false => exact hact.trans (Writes.appendEvent _ _ _)
  | true => exact (hact.trans (Writes.tables id)).trans (Writes.appendEvent _ _ _)

theorem claimNext_eq_ok {leaseOwner : String} {recoveryLimit : Nat} {result : Option WorkflowJob}
    (h : s.claimNext leaseOwner leaseToken leaseSeconds filter fair
      recoveryLimit now = .ok (s', result)) :
    leaseOwner ≠ "" ∧ ((s.recoverForClaim filter recoveryLimit now).selectClaim filter fair
          now = none ∧
        s' = s.recoverForClaim filter recoveryLimit now ∧ result = none ∨
      exists row, (s.recoverForClaim filter recoveryLimit now).selectClaim filter fair
          now = some row ∧
        s' = ((s.recoverForClaim filter recoveryLimit now).leaseSelected row
          leaseOwner leaseToken leaseSeconds
          (fair && filter.projectId.isNone) now).1 ∧
        result = some ((RowAction.claim leaseOwner leaseToken
          (now + leaseSeconds) now).apply row)) := by
  unfold claimNext requiredText boundedLimit at h
  simp only [require_bind_eq_ok] at h
  rcases h with ⟨howner, _, _, h⟩
  rw [bind_eq_ok] at h
  rcases h with ⟨_, _, h⟩
  refine ⟨howner, ?_⟩
  split at h
  · rename_i hnone
    cases h
    exact .inl ⟨hnone, rfl, rfl⟩
  · rename_i row hsome
    cases h
    exact .inr ⟨row, hsome, rfl, rfl⟩

theorem claimCandidate_due (h : s.claimCandidate filter now row = true) :
    (row.state = .queued ∨ row.state = .retryWait) ∧ row.attempts < row.spec.maxAttempts ∧
      s.taskIsRunning row filter.compatibleRunningActions = false := by
  simp only [claimCandidate, isDue, WorkflowJob.attemptsExhausted,
    Bool.and_eq_true, decide_eq_true_eq, Bool.not_eq_true',
    decide_eq_false_iff_not, not_le] at h
  rcases h with ⟨⟨⟨⟨⟨hdue, hattempts⟩, _⟩, hidle⟩, _⟩, _⟩
  exact ⟨hdue.imp id And.left, hattempts, hidle⟩

theorem claimNext_writes {leaseOwner : String}
    {recoveryLimit : Nat} {result : Option WorkflowJob} (hclaims : forall row,
      (s.recoverForClaim filter recoveryLimit now).selectClaim filter fair now = some row ->
        (s.recoverForClaim filter recoveryLimit now).taskIsRunning row
          filter.compatibleRunningActions = false ->
        p.claims (s.recoverForClaim filter recoveryLimit now) row)
    (htokens : p.tokens leaseToken)
    (h : s.claimNext leaseOwner leaseToken leaseSeconds filter fair
      recoveryLimit now = .ok (s', result)) :
    Writes p s s' := by
  have hrecovered : Writes p s (s.recoverForClaim filter recoveryLimit now) :=
    recoverForClaim_writes filter recoveryLimit now
  rcases claimNext_eq_ok h with ⟨howner, ⟨_, hs', _⟩ | ⟨row, hselect, hs', _⟩⟩
  · rw [hs']
    exact hrecovered
  · rcases selectClaim_eq_some hselect with ⟨hmem, hcandidate⟩
    rcases claimCandidate_due hcandidate with ⟨hdue, hattempts, hidle⟩
    rw [hs']
    apply hrecovered.trans
    exact leaseSelected_writes hmem ⟨hdue, hattempts, howner, leaseToken.property⟩
      (hclaims row hselect hidle) htokens

/-!
# Generation fences
-/

theorem fenceGeneration_eq_ok {jobId generation quarantined : String} {event : LoggedEvent}
    (h : s.fenceGeneration jobId generation action event quarantined now = .ok (s', result)) :
    exists row, s.jobs.find? jobId = some row ∧ row.spec.generation = generation ∧
      (row.isActive = false ∧ s' = s ∧ result = row ∨
        row.isActive = true ∧ row.isQuarantined = false ∧
          s' = s.actLogged row action event now ∧
          result = action.apply row) := by
  unfold fenceGeneration at h
  rw [bind_eq_ok] at h
  rcases h with ⟨row, hrow, h⟩
  rw [require_bind_eq_ok] at h
  rcases h with ⟨hgeneration, h⟩
  refine ⟨row, rowLocked_eq_ok.mp hrow, hgeneration, ?_⟩
  split at h
  · rename_i hactive
    rw [require_bind_eq_ok] at h
    rcases h with ⟨hquarantined, h⟩
    cases h
    exact .inr ⟨hactive, hquarantined, rfl, rfl⟩
  · rename_i hinactive
    cases h
    exact .inl ⟨by simpa using hinactive, rfl, rfl⟩

theorem fenceGeneration_writes {jobId generation quarantined : String} {event : LoggedEvent}
    (hallows : forall row, row.isActive = true -> row.isQuarantined = false ->
      p.Allows s action row)
    (h : s.fenceGeneration jobId generation action event quarantined now = .ok (s', result)) :
    Writes p s s' := by
  rcases fenceGeneration_eq_ok h with
    ⟨row, hfound, _, ⟨_, hs', _⟩ | ⟨hactive, hquarantined, hs', _⟩⟩
  · rw [hs']
    exact Writes.refl s
  · rw [hs']
    exact Writes.actLogged (find?_jobId hfound) (hallows row hactive hquarantined)

theorem supersede_writes {jobId generation replacementGeneration reason : String}
    (h : s.supersede jobId generation replacementGeneration reason now = .ok (s', result)) :
    Writes p s s' := by
  unfold supersede requiredText at h
  simp only [require_bind_eq_ok] at h
  apply fenceGeneration_writes _ h.right.right.right
  intro row hactive hquarantined
  exact Permit.Allows.of_plain rfl ⟨hactive, by simp [hquarantined]⟩

theorem cancel_writes {jobId generation reason : String}
    (h : s.cancel jobId generation reason now = .ok (s', result)) :
    Writes p s s' := by
  unfold cancel requiredText at h
  simp only [require_bind_eq_ok] at h
  apply fenceGeneration_writes _ h.right.right
  intro row hactive hquarantined
  exact Permit.Allows.of_plain rfl ⟨hactive, by simp [hquarantined]⟩

theorem supersedePlan_allows {replacement message : String} (hactive : row.isActive = true)
    (h : supersedePlan replacement message now row = some (action, event)) :
    p.Allows s action row := by
  unfold supersedePlan at h
  split at h
  · cases h
  · rename_i hquarantined
    cases h
    exact Permit.Allows.of_plain rfl ⟨hactive, hquarantined⟩

theorem supersedeEach_writes {rows : List WorkflowJob}
    (replacement message : String) (now : Int) (hselects : s.Selects rows)
    (hactive : forall row, row ∈ rows -> row.isActive = true) :
    Writes p s (s.actEach rows (supersedePlan replacement message now) now) := by
  apply actEach_writes hselects
  intro _ row action event hrow hplan
  exact supersedePlan_allows (hactive row hrow) hplan

theorem supersedeTaskGeneration_writes {projectId taskId keepGeneration reason : String}
    (h : s.supersedeTaskGeneration projectId taskId keepGeneration reason limit
      now = .ok (s', count)) :
    Writes p s s' := by
  unfold supersedeTaskGeneration boundedLimit requiredText at h
  simp only [require_bind_eq_ok] at h
  rcases h with ⟨_, _, _, _, _, h⟩
  cases h
  apply supersedeEach_writes
  · exact ((selects_taskRows s projectId taskId).sublist
      List.filter_sublist).sublist (List.take_sublist _ _)
  · intro row hrow
    have hfiltered := (List.mem_filter.mp (List.mem_of_mem_take hrow)).right
    simp only [decide_eq_true_eq] at hfiltered
    exact hfiltered.right

end Store
end WorkflowJobs
end Oompah
