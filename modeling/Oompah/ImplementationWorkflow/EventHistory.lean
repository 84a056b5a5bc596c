import Oompah.ImplementationWorkflow.EventOrder
import Oompah.WorkflowJobs.SnapshotWrites

/-!
# Histories of events

A store that only event transactions fill holds no row under the key of the next
event.  A call that its source advances is therefore answered with a fresh job or
with the live job of an equal event, and every other row of its lanes is displaced.
-/

namespace Oompah
namespace ImplementationWorkflow

open Foundation WorkflowJobs
open Progress (actEach appendEvent tables)
open RowAction (noConfusion)

variable {s s' : Store}

/-!
# The other transactions of a history
-/

variable {row : WorkflowJob} {action : RowAction}

theorem actLogged_progress (hcaptured : action.capturedRow = none) (hmanage : action ≠ .manage)
    (event : LoggedEvent) (now : Int) :
    Progress s (s.actLogged row action event now) :=
  (Progress.act row.jobId hcaptured hmanage).trans (appendEvent _ _ _ _)

variable {jobId leaseToken : String} {now : Int}

theorem updateOwned_progress {plan : WorkflowJob -> Except StoreError (RowAction × LoggedEvent)}
    (hplan : forall row action event, plan row = .ok (action, event) ->
      action.capturedRow = none ∧ action ≠ .manage)
    (h : s.updateOwned jobId leaseToken now plan = .ok (s', row)) : Progress s s' := by
  unfold Store.updateOwned at h
  simp only [bind_eq_ok] at h
  rcases h with ⟨found, _, ⟨action, event⟩, hplanned, h⟩
  cases h
  rcases hplan found action event hplanned with ⟨hcaptured, hmanage⟩
  exact actLogged_progress hcaptured hmanage event now

theorem planned_plain {planned action : RowAction} {event planEvent : LoggedEvent}
    (hplan : (.ok (planned, planEvent) : Except StoreError (RowAction × LoggedEvent)) =
      .ok (action, event))
    (hcaptured : planned.capturedRow = none) (hmanage : planned ≠ .manage) :
    action.capturedRow = none ∧ action ≠ .manage := by
  cases hplan
  exact ⟨hcaptured, hmanage⟩

theorem recoverPlan_plain {category : WorkflowFailureCategory} {error : String}
    {phase : Option String} {event : Option LoggedEvent}
    (h : Store.recoverPlan category error phase now row = some (action, event)) :
    action.capturedRow = none ∧ action ≠ .manage := by
  unfold Store.recoverPlan at h
  split at h
  · cases h
  · cases h
    exact ⟨rfl, noConfusion⟩

theorem recoverExpiredLocked_progress (s : Store) (filter : Store.RecoveryFilter)
    (limit : Nat) (now : Int) : Progress s (s.recoverExpiredLocked filter limit now) :=
  actEach (fun _ _ _ hplan => recoverPlan_plain hplan) _ _ _

theorem recoverForClaim_progress (s : Store) (filter : Store.ClaimFilter) (limit : Nat)
    (now : Int) : Progress s (s.recoverForClaim filter limit now) := by
  unfold Store.recoverForClaim
  generalize filter.recoveryFilters = filters
  induction filters generalizing s with
  | nil => exact Progress.refl s
  | cons recovery rest ih =>
    exact (recoverExpiredLocked_progress s recovery limit now).trans (ih _)

theorem leaseSelected_progress (s : Store) (row : WorkflowJob) (owner : String)
    (leaseToken : LeaseToken) (leaseSeconds : Int) (fair : Bool) (now : Int) :
    Progress s (s.leaseSelected row owner leaseToken leaseSeconds fair now).1 := by
  have hclaimed : Progress s (s.act row.jobId (.claim owner leaseToken
      (now + leaseSeconds) now)) := Progress.act row.jobId rfl noConfusion
  cases fair with
  | false => exact hclaimed.trans (appendEvent _ _ _ _)
  | true =>
    have hcounted : forall s : Store, Progress s (s.recordFairness row.spec.projectId now) :=
      fun s => tables (s := s) rfl (Nat.le_refl _) rfl (fun _ _ hcursor => Or.inl hcursor)
    exact (hclaimed.trans (hcounted _)).trans (appendEvent _ _ _ _)

theorem claimNext_progress {leaseOwner : String} {leaseToken : LeaseToken}
    {leaseSeconds now : Int} {filter : Store.ClaimFilter} {fairAcrossProjects : Bool}
    {recoveryLimit : Nat} {row : Option WorkflowJob}
    (h : s.claimNext leaseOwner leaseToken leaseSeconds filter fairAcrossProjects
      recoveryLimit now = .ok (s', row)) : Progress s s' := by
  unfold Store.claimNext requiredText boundedLimit at h
  simp only [require_bind_eq_ok] at h
  rcases h with ⟨_, _, _, h⟩
  rw [bind_eq_ok] at h
  rcases h with ⟨_, _, h⟩
  have hrecovered := recoverForClaim_progress s filter recoveryLimit now
  cases hselected : (s.recoverForClaim filter recoveryLimit now).selectClaim filter
      fairAcrossProjects now with
  | none =>
    rw [hselected] at h
    cases h
    exact hrecovered
  | some selected =>
    rw [hselected] at h
    cases h
    exact hrecovered.trans (leaseSelected_progress _ _ _ _ _ _ _)

variable {facts : List LandingFact}

theorem recordFacts_progress {projectId taskId : String} {requireDurable : Bool}
    (h : s.recordFacts projectId taskId facts requireDurable = .ok s') :
    Progress s s' := by
  unfold Store.recordFacts at h
  simp only [bind_eq_ok] at h
  rcases h with ⟨_, _, known, _, h⟩
  cases h
  exact tables (s := s) rfl (Nat.le_refl _) rfl (fun _ _ hcursor => Or.inl hcursor)

theorem complete_progress {result : Option JsonObject}
    (h : s.complete jobId leaseToken result facts now = .ok (s', row)) :
    Progress s s' := by
  unfold Store.complete at h
  simp only [bind_eq_ok] at h
  rcases h with ⟨found, _, recorded, hrecorded, h⟩
  cases h
  exact (recordFacts_progress hrecorded).trans (actLogged_progress rfl noConfusion _ _)

theorem fenceGeneration_progress {jobId generation quarantined : String} {event : LoggedEvent}
    (hcaptured : action.capturedRow = none) (hmanage : action ≠ .manage)
    (h : s.fenceGeneration jobId generation action event quarantined now =
      .ok (s', row)) : Progress s s' := by
  unfold Store.fenceGeneration at h
  rw [bind_eq_ok] at h
  rcases h with ⟨found, _, h⟩
  rw [require_bind_eq_ok] at h
  rcases h with ⟨_, h⟩
  split at h
  · rw [require_bind_eq_ok] at h
    rcases h with ⟨_, h⟩
    cases h
    exact actLogged_progress hcaptured hmanage event now
  · cases h
    exact Progress.refl s

theorem upsertOrdering_progress (s : Store)
    (projectId taskId orderingNamespace revision : String) (sourceGeneration : Nat)
    (now : Int) :
    Progress s (s.upsertOrdering projectId taskId orderingNamespace revision
      sourceGeneration now) :=
  tables (s := s) rfl (Nat.le_refl _) rfl (fun _ _ hcursor => Or.inl hcursor)

variable {write : Store.EventWrite}

theorem retireEventLane_cases {projectId taskId lane orderingNamespace revision reason : String}
    {sourceGeneration : Nat}
    (h : s.retireEventLane projectId taskId lane orderingNamespace sourceGeneration
      revision reason now = .ok (s', write)) :
    Progress s s' ∧ (forall ordering, s.findOrdering projectId taskId orderingNamespace =
          some ordering -> sourceGeneration < ordering.sourceGeneration -> s' = s) := by
  unfold Store.retireEventLane requiredText positiveGeneration at h
  simp only [require_bind_eq_ok] at h
  rcases h with ⟨_, _, _, _, _, _, _, h⟩
  by_cases holder : (s.findOrdering projectId taskId orderingNamespace).any
      (fun ordered => sourceGeneration < ordered.sourceGeneration) = true
  · rw [if_pos holder] at h
    cases h
    exact ⟨Progress.refl s, fun _ _ _ => rfl⟩
  · rw [if_neg holder, require_bind_eq_ok] at h
    rcases h with ⟨_, h⟩
    cases h
    refine ⟨?_, ?_⟩
    · exact (upsertOrdering_progress s projectId taskId orderingNamespace revision
        sourceGeneration now).trans (actEach (fun _ _ _ hplan => retireLanePlan_plain hplan) _ _ _)
    · intro ordering hfound hless
      rw [hfound] at holder
      exact absurd (decide_eq_true hless) holder

/-- The namespace of the call holds a lower source generation. -/
def SourceAdvances (s : Store) (request : Store.EventRequest) : Prop :=
  exists orderingNamespace sourceGeneration ordering,
    request.ordering = some (orderingNamespace, sourceGeneration) ∧
      s.findOrdering request.projectId request.taskId orderingNamespace = some ordering ∧
      ordering.sourceGeneration < sourceGeneration

/-- The namespace of the call holds a higher source generation. -/
def SourceBehind (s : Store) (request : Store.EventRequest) : Prop :=
  exists orderingNamespace sourceGeneration ordering,
    request.ordering = some (orderingNamespace, sourceGeneration) ∧
      s.findOrdering request.projectId request.taskId orderingNamespace = some ordering ∧
      sourceGeneration < ordering.sourceGeneration

/-- How an ordering ends: the call is settled behind its namespace, or it proceeds. -/
inductive Ordered (s : Store) (request : Store.EventRequest) : Store.EventOrder -> Prop where
  | settled {write : Store.EventWrite} (hbehind : SourceBehind s request)
      (hcreated : write.created = false) : Ordered s request (.settled write)
  | proceeds {ordered : Store} {sourceAdvanced : Bool} (hjobs : ordered.jobs = s.jobs)
      (hprogress : Progress s ordered)
      (hadvances : SourceAdvances s request -> sourceAdvanced = true)
      (hnotBehind : ¬ SourceBehind s request) :
      Ordered s request (.proceed ordered sourceAdvanced)

variable {request : Store.EventRequest}

theorem orderEvent_ordered {order : Store.EventOrder} (h : s.orderEvent request now = .ok order) :
    Ordered s request order := by
  unfold Store.orderEvent at h
  cases hordering : request.ordering with
  | none =>
    rw [hordering] at h
    cases h
    refine .proceeds rfl (Progress.refl s) ?_ ?_
    · rintro ⟨_, _, _, hsome, _⟩
      rw [hordering] at hsome
      cases hsome
    · rintro ⟨_, _, _, hsome, _⟩
      rw [hordering] at hsome
      cases hsome
  | some ordering =>
    rcases ordering with ⟨orderingNamespace, sourceGeneration⟩
    rw [hordering] at h
    dsimp only at h
    cases hfound : s.findOrdering request.projectId request.taskId orderingNamespace with
    | none =>
      rw [hfound] at h
      cases h
      refine .proceeds rfl (upsertOrdering_progress s _ _ _ _ _ _) ?_ ?_
      · rintro ⟨_, _, _, hsome, hsomeFound, _⟩
        rw [hordering] at hsome
        cases hsome
        rw [hfound] at hsomeFound
        cases hsomeFound
      · rintro ⟨_, _, _, hsome, hsomeFound, _⟩
        rw [hordering] at hsome
        cases hsome
        rw [hfound] at hsomeFound
        cases hsomeFound
    | some held =>
      rw [hfound] at h
      dsimp only at h
      by_cases hless : sourceGeneration < held.sourceGeneration
      · have hbehind : SourceBehind s request :=
          ⟨orderingNamespace, sourceGeneration, held, hordering, hfound, hless⟩
        repeat' split at h
        all_goals
          cases h
          exact .settled hbehind rfl
      · rw [if_neg hless] at h
        split at h
        · cases h
        · cases h
          refine .proceeds rfl (upsertOrdering_progress s _ _ _ _ _ _) ?_ ?_
          · rintro ⟨_, _, _, hsome, hsomeFound, hlower⟩
            rw [hordering] at hsome
            cases hsome
            rw [hfound] at hsomeFound
            cases hsomeFound
            exact decide_eq_true hlower
          · rintro ⟨_, _, _, hsome, hsomeFound, hhigher⟩
            rw [hordering] at hsome
            cases hsome
            rw [hfound] at hsomeFound
            cases hsomeFound
            exact hless hhigher

theorem materializeEvent_progress {newJobId : String}
    (h : s.materializeEvent request newJobId now = .ok (s', write)) : Progress s s' := by
  unfold Store.materializeEvent at h
  rw [bind_eq_ok] at h
  rcases h with ⟨_, _, h⟩
  rw [bind_eq_ok] at h
  rcases h with ⟨order, horder, h⟩
  cases orderEvent_ordered horder with
  | settled =>
    cases h
    exact Progress.refl s
  | @proceeds ordered sourceAdvanced _ hordered =>
    dsimp only at h
    cases hprotected : ordered.protectedRow request with
    | some row =>
      rw [hprotected] at h
      cases h
      exact hordered
    | none =>
      rw [hprotected] at h
      rcases materializeOrdered_materialized h with ⟨job, _, hmaterialized⟩
      exact hordered.trans hmaterialized.progress

/-- The transactions of event owners and of the workers that run their jobs. -/
def EventTransaction : Op -> Prop
  | .materializeEvent .. | .retireEventLane .. | .claimNext .. | .renew ..
  | .checkpoint .. | .complete .. | .fail .. | .requeueOwnedWithoutAttempt ..
  | .deferOwnedWithoutAttempt .. | .deferOwnedUntil .. | .cancelOwned ..
  | .quarantineOwned .. | .settleQuarantinedCall ..
  | .markQuarantineRecycleRequested .. | .reclaimAbandoned .. | .recoverExpired ..
  | .recoverAbandoned .. | .supersede .. | .supersedeTaskGeneration .. | .cancel .. => True
  | _ => False

instance (op : Op) : Decidable (EventTransaction op) := by
  cases op <;> unfold EventTransaction <;> infer_instance

theorem apply_progress {checkpoints : List WorkflowSnapshotAuthority} {op : Op}
    {result : OpResult} (hevent : EventTransaction op)
    (h : op.apply checkpoints s = .ok (s', result)) : Progress s s' := by
  cases op with
  | materializeEvent =>
    rcases map_store_eq_ok h with ⟨_, hok, _⟩
    exact materializeEvent_progress hok
  | retireEventLane =>
    rcases map_store_eq_ok h with ⟨_, hok, _⟩
    exact (retireEventLane_cases hok).left
  | claimNext =>
    rcases map_store_eq_ok h with ⟨_, hok, _⟩
    exact claimNext_progress hok
  | complete =>
    rcases map_store_eq_ok h with ⟨_, hok, _⟩
    exact complete_progress hok
  | supersede =>
    rcases map_store_eq_ok h with ⟨_, hok, _⟩
    unfold Store.supersede requiredText at hok
    simp only [require_bind_eq_ok] at hok
    exact fenceGeneration_progress rfl noConfusion hok.right.right.right
  | cancel =>
    rcases map_store_eq_ok h with ⟨_, hok, _⟩
    unfold Store.cancel requiredText at hok
    simp only [require_bind_eq_ok] at hok
    exact fenceGeneration_progress rfl noConfusion hok.right.right
  | supersedeTaskGeneration =>
    rcases map_store_eq_ok h with ⟨_, hok, _⟩
    unfold Store.supersedeTaskGeneration requiredText boundedLimit at hok
    simp only [require_bind_eq_ok] at hok
    rcases hok with ⟨_, _, _, _, _, hok⟩
    cases hok
    exact actEach (fun _ _ _ hplan => supersedePlan_plain hplan) _ _ _
  | recoverExpired =>
    rcases map_store_eq_ok h with ⟨_, hok, _⟩
    unfold Store.recoverExpired boundedLimit at hok
    rw [require_bind_eq_ok, bind_eq_ok] at hok
    rcases hok with ⟨_, _, _, hok⟩
    cases hok
    exact recoverExpiredLocked_progress _ _ _ _
  | recoverAbandoned =>
    rcases map_store_eq_ok h with ⟨_, hok, _⟩
    unfold Store.recoverAbandoned boundedLimit at hok
    rw [require_bind_eq_ok, bind_eq_ok] at hok
    rcases hok with ⟨_, _, _, hok⟩
    cases hok
    exact actEach (fun _ _ _ hplan => recoverPlan_plain hplan) _ _ _
  | renew =>
    rcases map_store_eq_ok h with ⟨_, hok, _⟩
    unfold Store.renew at hok
    rw [require_bind_eq_ok] at hok
    exact updateOwned_progress (fun _ _ _ hplan => planned_plain hplan rfl noConfusion) hok.right
  | checkpoint =>
    rcases map_store_eq_ok h with ⟨_, hok, _⟩
    unfold Store.checkpoint requiredText at hok
    rw [require_bind_eq_ok] at hok
    exact updateOwned_progress (fun _ _ _ hplan => planned_plain hplan rfl noConfusion) hok.right
  | fail =>
    rcases map_store_eq_ok h with ⟨_, hok, _⟩
    unfold Store.fail requiredText at hok
    simp only [require_bind_eq_ok] at hok
    exact updateOwned_progress (fun _ _ _ hplan => planned_plain hplan rfl
      noConfusion) hok.right.right.right
  | requeueOwnedWithoutAttempt =>
    rcases map_store_eq_ok h with ⟨_, hok, _⟩
    unfold Store.requeueOwnedWithoutAttempt requiredText at hok
    simp only [require_bind_eq_ok] at hok
    apply updateOwned_progress _ hok.right.right.right
    intro row action event hplan
    split at hplan
    · exact planned_plain hplan rfl noConfusion
    · cases hplan
  | deferOwnedWithoutAttempt =>
    rcases map_store_eq_ok h with ⟨_, hok, _⟩
    unfold Store.deferOwnedWithoutAttempt requiredText at hok
    simp only [require_bind_eq_ok] at hok
    exact updateOwned_progress (fun _ _ _ hplan => planned_plain hplan rfl
      noConfusion) hok.right.right
  | deferOwnedUntil =>
    rcases map_store_eq_ok h with ⟨_, hok, _⟩
    unfold Store.deferOwnedUntil requiredText at hok
    rw [require_bind_eq_ok] at hok
    exact updateOwned_progress (fun _ _ _ hplan => planned_plain hplan rfl noConfusion) hok.right
  | cancelOwned =>
    rcases map_store_eq_ok h with ⟨_, hok, _⟩
    unfold Store.cancelOwned requiredText at hok
    rw [require_bind_eq_ok] at hok
    exact updateOwned_progress (fun _ _ _ hplan => planned_plain hplan rfl noConfusion) hok.right
  | quarantineOwned =>
    rcases map_store_eq_ok h with ⟨_, hok, _⟩
    unfold Store.quarantineOwned requiredText at hok
    rw [require_bind_eq_ok, bind_eq_ok] at hok
    rcases hok with ⟨_, row, _, hok⟩
    cases hok
    exact actLogged_progress rfl noConfusion _ _
  | settleQuarantinedCall jobId leaseToken operation effectReceipt failureCategory error
      retryable retryDelaySeconds now =>
      rcases map_store_eq_ok h with ⟨_, hok, _⟩
      unfold Store.settleQuarantinedCall requiredText at hok
      simp only [require_bind_eq_ok] at hok
      rcases hok with ⟨_, _, _, hok⟩
      rw [bind_eq_ok] at hok
      rcases hok with ⟨row, _, hok⟩
      cases hok
      apply actLogged_progress
      · split <;> rfl
      · split <;> exact noConfusion
  | markQuarantineRecycleRequested =>
    rcases map_store_eq_ok h with ⟨_, hok, _⟩
    unfold Store.markQuarantineRecycleRequested at hok
    rw [bind_eq_ok] at hok
    rcases hok with ⟨row, _, hok⟩
    split at hok
    · cases hok
      exact Progress.refl s
    · cases hok
      exact actLogged_progress rfl noConfusion _ _
  | reclaimAbandoned =>
    rcases map_store_eq_ok h with ⟨_, hok, _⟩
    unfold Store.reclaimAbandoned requiredText at hok
    simp only [require_bind_eq_ok] at hok
    rcases hok with ⟨_, _, hok⟩
    rw [bind_eq_ok] at hok
    rcases hok with ⟨row, _, hok⟩
    cases hok
    exact actLogged_progress rfl noConfusion _ _
  | _ => exact hevent.elim

/-!
# One call on a reached store
-/

theorem eventRows_empty : EventRows {} where
  unmanaged := fun _ hrow => absurd hrow List.not_mem_nil
  numbered := fun _ hrow => absurd hrow List.not_mem_nil
  cursors := fun _ hcursor => absurd hcursor List.not_mem_nil
  unique := fun _ _ hrow => absurd hrow List.not_mem_nil

theorem eventRows_run (checkpoints : List WorkflowSnapshotAuthority) {ops : List Op}
    (hevents : forall op, op ∈ ops -> EventTransaction op) (hrows : EventRows s) :
    EventRows (run (Op.step checkpoints) s ops) := by
  induction ops generalizing s with
  | nil => exact hrows
  | cons op rest ih =>
    apply ih (fun other hother => hevents other (List.mem_cons_of_mem _ hother))
    unfold Op.step
    cases happly : op.apply checkpoints s with
    | error error => exact hrows
    | ok written => exact (apply_progress (hevents op List.mem_cons_self) happly).rows hrows

section Call

variable {request : Store.EventRequest} {newJobId : String} {now : Int}
  {write : Store.EventWrite}

/-- The returned job is active, and no other row of the event's lanes is. -/
structure SoleActive (s : Store) (request : Store.EventRequest) (job : WorkflowJob) :
    Prop where
  active : job ∈ s.activeLaneRows request.projectId request.taskId [request.lane]
  sole : forall row, row ∈ s.activeLaneRows request.projectId request.taskId (eventLanes request) ->
      row.isQuarantined = false -> row = job

variable {sourceAdvanced : Bool}

theorem materializeOrdered_created
    (h : s.materializeOrdered request newJobId sourceAdvanced now = .ok (s', write))
    (hcreated : write.created = true) :
    s.findIdempotent request.projectId
      (request.key (s.eventGenerationFor request sourceAdvanced)) = none := by
  unfold Store.materializeOrdered at h
  simp only [bind_eq_ok] at h
  rcases h with ⟨spec, hspec, ⟨written, job, created⟩, hwritten, _, _, _, _, h⟩
  cases h
  have hof := eventSpec_specOf hspec
  cases hfound : s.findIdempotent request.projectId
      (request.key (s.eventGenerationFor request sourceAdvanced)) with
  | none => rfl
  | some existing =>
    have hkept : (s.upsertEventCursor request (s.eventGenerationFor request
        sourceAdvanced) now).findIdempotent spec.projectId spec.idempotencyKey =
          some existing := by
      rw [hof.projectId, hof.key]
      exact hfound
    by_cases hequal : existing.spec = spec
    · rw [enqueueLocked_replayed hkept hequal] at hwritten
      cases hwritten
      cases hcreated
    · unfold Store.enqueueLocked at hwritten
      rw [hkept] at hwritten
      dsimp only at hwritten
      rw [if_pos hequal] at hwritten
      cases hwritten

/-- A job that was created, or replayed on an advanced source, is active. -/
theorem materializeOrdered_sole (hrows : EventRows s)
    (h : s.materializeOrdered request newJobId sourceAdvanced now = .ok (s', write))
    (hlive : write.created = true ∨ sourceAdvanced = true) :
    exists job, write.job = some job ∧ SoleActive s' request job := by
  rcases materializeOrdered_eq_ok h with
    ⟨written, job, henqueues, hjob, hjobs, htables, _⟩
  have hunique : KeysUnique written :=
    (henqueues.progress.rows ((upsertEventCursor_progress sourceAdvanced now).rows hrows)).unique
  have hactive : job.isActive = true := by
    have hstate := henqueues.live
    cases hfound : s.findIdempotent request.projectId
        (request.key (s.eventGenerationFor request sourceAdvanced)) with
    | none =>
      rw [hfound] at hstate
      unfold WorkflowJob.isActive
      rw [hstate]
      rfl
    | some existing =>
      rw [hfound] at hstate
      have hadvanced : sourceAdvanced = true := by
        rcases hlive with hcreated | hadvanced
        · rw [materializeOrdered_created h hcreated] at hfound
          cases hfound
        · exact hadvanced
      rcases eventGenerationFor_cases s request sourceAdvanced with
        hfresh | ⟨cursor, _, _, hgeneration, hcurrent⟩
      · rw [hfresh, findIdempotent_fresh hrows] at hfound
        cases hfound
      · rcases hcurrent hadvanced with ⟨row, hrow, hrowActive⟩
        rw [hgeneration, hrow] at hfound
        cases hfound
        unfold WorkflowJob.isActive at hrowActive ⊢
        rw [hstate.right]
        exact hrowActive
  have hactiveIn := henqueues.activeIn hunique hactive hjobs htables
  refine ⟨job, hjob, hactiveIn.member, ?_⟩
  intro row hrow hfree
  rcases henqueues.sole hunique hjobs hrow with hsame | hquarantined
  · exact hsame
  · rw [hfree] at hquarantined
    cases hquarantined

theorem protectedRow_congr (h : s'.jobs = s.jobs) (request : Store.EventRequest) :
    s'.protectedRow request = s.protectedRow request := by
  unfold Store.protectedRow
  rw [activeLaneRows_congr h]

theorem materializeEvent_sole (hrows : EventRows s)
    (h : s.materializeEvent request newJobId now = .ok (s', write))
    (hprotected : s.protectedRow request = none)
    (hlive : write.created = true ∨ SourceAdvances s request) :
    exists job, write.job = some job ∧ SoleActive s' request job := by
  unfold Store.materializeEvent at h
  rw [bind_eq_ok] at h
  rcases h with ⟨_, _, h⟩
  rw [bind_eq_ok] at h
  rcases h with ⟨order, horder, h⟩
  cases orderEvent_ordered horder with
  | settled hbehind hcreated =>
    cases h
    rcases hlive with hwrote | hadvances
    · rw [hcreated] at hwrote
      cases hwrote
    · rcases hbehind with ⟨_, _, _, hordering, hfound, hhigher⟩
      rcases hadvances with ⟨_, _, _, hordering', hfound', hlower⟩
      rw [hordering] at hordering'
      cases hordering'
      rw [hfound] at hfound'
      cases hfound'
      omega
  | proceeds hjobs hprogress hadvances =>
    dsimp only at h
    rw [protectedRow_congr hjobs, hprotected] at h
    exact materializeOrdered_sole (hprogress.rows hrows) h (hlive.imp_right hadvances)

theorem materializeEvent_behind (h : s.materializeEvent request newJobId now = .ok (s', write))
    (hbehind : SourceBehind s request) : s' = s := by
  unfold Store.materializeEvent at h
  rw [bind_eq_ok] at h
  rcases h with ⟨_, _, h⟩
  rw [bind_eq_ok] at h
  rcases h with ⟨order, horder, h⟩
  cases orderEvent_ordered horder with
  | settled =>
    cases h
    rfl
  | proceeds _ _ _ hnotBehind => exact absurd hbehind hnotBehind

/-- The call brings a lower source generation than its namespace holds. -/
def LowerSource (s : Store) : Op -> Prop
  | .materializeEvent request _ _ => SourceBehind s request
  | .retireEventLane projectId taskId _ orderingNamespace sourceGeneration _ _ _ =>
    exists ordering, s.findOrdering projectId taskId orderingNamespace = some ordering ∧
      sourceGeneration < ordering.sourceGeneration
  | _ => False

theorem lowerSource_step (checkpoints : List WorkflowSnapshotAuthority) {op : Op}
    (h : LowerSource s op) : Op.step checkpoints s op = s := by
  unfold Op.step
  cases happly : op.apply checkpoints s with
  | error error => rfl
  | ok written =>
    rcases written with ⟨s', result⟩
    cases op with
    | materializeEvent =>
      rcases map_store_eq_ok happly with ⟨_, hok, _⟩
      exact materializeEvent_behind hok h
    | retireEventLane =>
      rcases map_store_eq_ok happly with ⟨_, hok, _⟩
      rcases h with ⟨ordering, hfound, hlower⟩
      exact (retireEventLane_cases hok).right ordering hfound hlower
    | _ => exact h.elim

end Call

/--
After any history of events and workers, an accepted call that created its job or
advanced its source, and that no protected row diverted, leaves its job as the only
active one of its lanes; a call with a lower source generation changes nothing.
-/
theorem event_history_sole (checkpoints : List WorkflowSnapshotAuthority)
    {ops : List Op} (hevents : forall op, op ∈ ops -> EventTransaction op) :
    let s := run (Op.step checkpoints) {} ops
    (forall request newJobId now s' write,
      s.materializeEvent request newJobId now = .ok (s', write) ->
      write.accepted = true -> s.protectedRow request = none ->
      write.created = true ∨ SourceAdvances s request ->
        exists job, write.job = some job ∧ SoleActive s' request job) ∧
      forall op, LowerSource s op -> (Op.step checkpoints s op).jobs = s.jobs := by
  intro s
  have hrows : EventRows s := eventRows_run checkpoints hevents eventRows_empty
  constructor
  · intro request newJobId now s' write h _ hprotected hlive
    exact materializeEvent_sole hrows h hprotected hlive
  · intro op hlower
    rw [lowerSource_step checkpoints hlower]

/-- An equal event of a later source, after its job was claimed and completed. -/
def recurringEvent (sourceGeneration : Nat) : Store.EventRequest where
  projectId := "project-1"
  taskId := "task-1"
  decisionRevision := "revision-1"
  action := "implement"
  idempotencyNamespace := "implementation"
  ordering := some ("implementation-order", sourceGeneration)

def completedEvent : List Op :=
  [.materializeEvent (recurringEvent 1) "job-1" 1,
    .claimNext "worker-1" sampleToken 60 {} false 100 2,
    .complete "job-1" "token-1" none [] 3]

theorem completedEvent_recurs : exists s' write,
      (run (Op.step []) {} completedEvent).materializeEvent (recurringEvent 2) "job-2" 4 =
          .ok (s', write) ∧
        exists job, write.job = some job ∧ SoleActive s' (recurringEvent 2) job := by
  have hrun : ((run (Op.step []) {} completedEvent).materializeEvent (recurringEvent 2)
      "job-2" 4).map (fun written => (written.2.accepted, written.2.created)) = .ok (true, true) ∧
      (run (Op.step []) {} completedEvent).protectedRow (recurringEvent 2) = none := by
    decide +kernel
  rcases hrun with ⟨hwritten, hprotected⟩
  rcases map_eq_ok.mp hwritten with ⟨⟨s', write⟩, hok, hflags⟩
  rw [Prod.mk.injEq] at hflags
  exact ⟨s', write, hok, (event_history_sole [] (by decide)).left _ _ _ s' write hok
    hflags.left hprotected (Or.inl hflags.right)⟩

end ImplementationWorkflow
end Oompah
