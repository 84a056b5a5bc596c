import Mathlib.Data.List.Lex
import Mathlib.Data.List.Sort
import Oompah.WorkflowJobs.Store

/-!
# Leases

Worker-side operations: the token-fenced updates of an owned row, quarantine
and its settlement, lease recovery, claims, and the generation fences that
need no worker authority.
-/

namespace Oompah
namespace WorkflowJobs

open Foundation

/-- A generated `uuid4().hex`. -/
abbrev LeaseToken := { token : String // token ≠ "" }

def sampleToken : LeaseToken := ⟨"token-1", by decide⟩

def otherToken : LeaseToken := ⟨"token-2", by decide⟩

namespace WorkflowJob

def ownedBy (row : WorkflowJob) (leaseToken : String) (now : Int) : Bool :=
  row.state = .running ∧ row.leaseToken = some leaseToken ∧
    row.leaseExpiresAt.any (fun expiry => now < expiry)

end WorkflowJob

namespace Store

def leaseLostError (jobId : String) : StoreError :=
  .leaseLost ("workflow job lease is not active: " ++ jobId)

def ownedRowLocked (s : Store) (jobId leaseToken : String) (now : Int) :
    Except StoreError WorkflowJob := do
  requiredText jobId "job_id"
  let row ← s.rowLocked jobId
  require (row.state = .running) (leaseLostError jobId)
  requiredText leaseToken "lease_token"
  require (row.ownedBy leaseToken now) (leaseLostError jobId)
  return row

def ownsLiveLease (s : Store) (jobId leaseToken : String) (now : Int) : Bool :=
  match s.ownedRowLocked jobId leaseToken now with
  | .ok _ => true
  | .error _ => false

/-!
# Updates of an owned row

Each operation checks the exact live lease, plans one row action on the owned
row, and appends the event of that action.
-/

def updateOwned (s : Store) (jobId leaseToken : String) (now : Int)
    (plan : WorkflowJob -> Except StoreError (RowAction × LoggedEvent)) :
    Except StoreError (Store × WorkflowJob) := do
  let row ← s.ownedRowLocked jobId leaseToken now
  let planned ← plan row
  return (s.actLogged row planned.1 planned.2 now, planned.1.apply row)

def renew (s : Store) (jobId leaseToken : String) (leaseSeconds now : Int) :
    Except StoreError (Store × WorkflowJob) := do
  require (0 < leaseSeconds) (.valueError "lease_seconds must be positive")
  s.updateOwned jobId leaseToken now
    (fun _ => .ok (.renew (now + leaseSeconds) now, ⟨"renewed", []⟩))

def checkpoint (s : Store) (jobId leaseToken phase : String) (saved : JsonObject) (now : Int) :
    Except StoreError (Store × WorkflowJob) := do
  requiredText phase "phase"
  s.updateOwned jobId leaseToken now (fun _ => .ok (.checkpoint phase saved now,
    ⟨"checkpointed", [("checkpoint", .object saved)]⟩))

def fail (s : Store) (jobId leaseToken : String)
    (category : WorkflowFailureCategory) (error : String) (retryable : Bool)
    (retryDelaySeconds : Int) (phase : Option String) (now : Int) :
    Except StoreError (Store × WorkflowJob) := do
  requiredText error "error"
  require (0 ≤ retryDelaySeconds) (.valueError "retry_delay_seconds cannot be negative")
  require (phase ≠ some "") (.valueError "phase is required")
  s.updateOwned jobId leaseToken now (fun row => .ok
      (.fail category error retryable retryDelaySeconds phase now,
        ⟨if row.canRetry retryable then "retry_scheduled" else "exhausted",
          [("failure_category", .text category.value),
            ("retry_at", .number (if row.canRetry retryable then some (now + retryDelaySeconds)
              else none))]⟩))

def requeueOwnedWithoutAttempt (s : Store)
    (jobId leaseToken expectedPhase phase reason : String) (now : Int) :
    Except StoreError (Store × WorkflowJob) := do
  requiredText expectedPhase "expected_phase"
  requiredText phase "phase"
  requiredText reason "reason"
  s.updateOwned jobId leaseToken now
    (fun row =>
      if row.phase = expectedPhase then
        .ok (.requeue phase now, ⟨"lifecycle_requeued",
          [("reason", .text reason), ("restored_attempts", .number row.restoredAttempts)]⟩)
      else
        .error (.leaseLost ("workflow job phase is no longer owned: " ++ jobId)))

def maxAdministrativeBackoffExponent : Nat := 10

def priorDeferrals (s : Store) (jobId : String) : Nat :=
  (s.ledger.hot.filter (fun event =>
    event.jobId = jobId ∧ event.eventType = "administrative_deferred")).length

def deferOwnedWithoutAttempt (s : Store) (jobId leaseToken reason : String)
    (retryDelaySeconds now : Int) :
    Except StoreError (Store × WorkflowJob) := do
  requiredText reason "reason"
  require (0 ≤ retryDelaySeconds) (.valueError "retry_delay_seconds cannot be negative")
  let retryDelay :=
    retryDelaySeconds * 2 ^ min (s.priorDeferrals jobId) maxAdministrativeBackoffExponent
  s.updateOwned jobId leaseToken now (fun row => .ok
      (.deferAdministrative (now + retryDelay) now,
        ⟨"administrative_deferred",
          [("reason", .text reason), ("restored_attempts", .number row.restoredAttempts),
            ("deferral_count", .number (some (s.priorDeferrals jobId + 1))),
            ("retry_delay_seconds", .number retryDelay),
            ("retry_at", .number (some (now + retryDelay)))]⟩))

def deferOwnedUntil (s : Store) (jobId leaseToken reason : String)
    (retryAt now : Int) : Except StoreError (Store × WorkflowJob) := do
  requiredText reason "reason"
  s.updateOwned jobId leaseToken now (fun row => .ok (.deferUntil reason retryAt now,
        ⟨if retryAt ≤ now then "reassessment_due" else "reassessment_deferred",
          [("reason", .text reason), ("restored_attempts", .number row.restoredAttempts),
            ("retry_at", .number retryAt),
            ("replacement_generation", .text (if retryAt ≤ now then
              some ("reassess:" ++ row.spec.generation) else none))]⟩))

def cancelOwned (s : Store) (jobId leaseToken reason : String) (now : Int) :
    Except StoreError (Store × WorkflowJob) := do
  requiredText reason "reason"
  s.updateOwned jobId leaseToken now (fun _ =>
    .ok (.cancelOwned reason now, ⟨"cancelled", [("reason", .text reason)]⟩))

/-!
# Landing facts and completion
-/

def landingFactRow (projectId : String) (requireDurable : Bool)
    (fact : LandingFact) : Except StoreError Unit := do
  require (fact.projectId = projectId) (.jobStoreError "landing fact escaped project scope")
  require (requireDurable = true -> fact.durable = true)
    (.jobStoreError "job completion can publish only durable landing proof")

/-- A replay of one immutable proof is accepted, other content is corruption. -/
def insertLandingFact (taskId : String) (facts : List LandingFact)
    (fact : LandingFact) : Except StoreError (List LandingFact) :=
  let row := { fact with taskId := taskId }
  match facts.find? (fun known =>
    known.projectId = row.projectId ∧ known.taskId = row.taskId ∧
      known.source = row.source ∧ known.target = row.target ∧
      known.evidenceRevision = row.evidenceRevision) with
  | none => .ok (facts ++ [row])
  | some known =>
    if known.content = row.content then .ok facts
    else .error (.corruption "landing fact identity conflicts with stored content")

def recordFacts (s : Store) (projectId taskId : String)
    (facts : List LandingFact) (requireDurable : Bool) :
    Except StoreError Store := do
  let _ ← facts.mapM (landingFactRow projectId requireDurable)
  let known ← facts.foldlM (insertLandingFact taskId) s.tables.landingFacts
  return s.withTables (fun tables => { tables with landingFacts := known })

def recordLandingFacts (s : Store) (projectId taskId : String)
    (facts : List LandingFact) : Except StoreError Store := do
  requiredText projectId "project_id"
  requiredText taskId "task_id"
  s.recordFacts projectId taskId facts false

def complete (s : Store) (jobId leaseToken : String)
    (resultTransition : Option JsonObject) (landingFacts : List LandingFact)
    (now : Int) : Except StoreError (Store × WorkflowJob) := do
  let row ← s.ownedRowLocked jobId leaseToken now
  let recorded ← s.recordFacts row.spec.projectId row.spec.taskId landingFacts true
  let action := RowAction.complete resultTransition now
  let inserted := recorded.tables.landingFacts.length - s.tables.landingFacts.length
  let payload := (resultTransition.map (fun result =>
      ("result_transition", PayloadValue.object result))).toList ++
    (if landingFacts = [] then []
    else [("landing_facts", .number (some landingFacts.length)),
      ("landing_facts_inserted", .number (some inserted))])
  return (recorded.actLogged row action ⟨"completed", payload⟩ now, action.apply row)

/-!
# Quarantine
-/

def heldRowLocked (s : Store) (jobId leaseToken message : String)
    (holds : WorkflowJob -> Bool) : Except StoreError WorkflowJob := do
  requiredText jobId "job_id"
  requiredText leaseToken "lease_token"
  let row ← s.rowLocked jobId
  require (row.state = .running ∧ row.leaseToken = some leaseToken ∧ holds row)
    (.leaseLost (message ++ jobId))
  return row

def quarantineOwned (s : Store) (jobId leaseToken : String)
    (category : WorkflowFailureCategory) (error : String) (now : Int) :
    Except StoreError (Store × WorkflowJob) := do
  requiredText error "error"
  let row ← s.heldRowLocked jobId leaseToken
    "workflow job lease is no longer owned: " (fun _ => true)
  let action := RowAction.quarantine category error now
  let payload := [("failure_category", .text category.value), ("error", .text error)]
  return (s.actLogged row action ⟨"quarantined", payload⟩ now, action.apply row)

def quarantinedRowLocked (s : Store) (jobId leaseToken : String) :
    Except StoreError WorkflowJob :=
  s.heldRowLocked jobId leaseToken "workflow quarantine is no longer owned: "
    (fun row => row.phase = "quarantined")

/-- `error = none` or a receipt means that the detached call returned. -/
def settleQuarantinedCall (s : Store) (jobId leaseToken operation : String)
    (effectReceipt : Option (List (String × String)))
    (failureCategory : WorkflowFailureCategory) (error : Option String)
    (retryable : Bool) (retryDelaySeconds now : Int) :
    Except StoreError (Store × WorkflowJob) := do
  requiredText operation "operation"
  require (0 ≤ retryDelaySeconds) (.valueError "retry_delay_seconds cannot be negative")
  let succeeded := effectReceipt.isSome || error.isNone
  let message := error.getD ""
  require (succeeded = true ∨ message ≠ "")
    (.valueError "error is required for failed quarantine settlement")
  let row ← s.quarantinedRowLocked jobId leaseToken
  let action :=
    if succeeded then RowAction.settleReturned effectReceipt now
    else RowAction.settleFailed failureCategory message retryable retryDelaySeconds now
  let payload := [("operation", .text operation),
    ("outcome", .text (if succeeded then "returned" else "failed"))]
  return (s.actLogged row action ⟨"quarantine_settled", payload⟩ now, action.apply row)

/-- The marker already names the current owner and token. -/
def recycleMarked (row : WorkflowJob) (leaseToken : String) : Bool :=
  match JsonObject.getMapping (row.checkpoint.getD []) "quarantine_recycle" with
  | some marker =>
    (marker.find? (fun field => field.1 = "lease_owner")).any
        (fun field => field.2 = row.leaseOwner.getD "") &&
      (marker.find? (fun field => field.1 = "lease_token")).any (fun field => field.2 = leaseToken)
  | none => false

def markQuarantineRecycleRequested (s : Store) (jobId leaseToken : String)
    (now : Int) : Except StoreError (Store × WorkflowJob) := do
  let row ← s.quarantinedRowLocked jobId leaseToken
  if recycleMarked row leaseToken then
    return (s, row)
  else
    let action := RowAction.requestRecycle leaseToken now
    let marked := (JsonObject.get (row.checkpoint.getD []) "quarantine_recycle").isSome
    let payload := [("lease_owner", .text (row.leaseOwner.getD "")),
      ("replaced_stale_marker", .flag marked)]
    return (s.actLogged row action ⟨"quarantine_recycle_requested", payload⟩ now,
      action.apply row)

def reclaimAbandoned (s : Store) (jobId leaseToken leaseOwner : String)
    (replacementToken : LeaseToken) (leaseSeconds : Int)
    (expectedPhase : Option String) (now : Int) :
    Except StoreError (Store × WorkflowJob) := do
  requiredText leaseOwner "lease_owner"
  require (0 < leaseSeconds) (.valueError "lease_seconds must be positive")
  let row ← s.heldRowLocked jobId leaseToken "workflow job lease is not reclaimable: "
    (fun row => expectedPhase.all (fun phase => row.phase = phase))
  let action :=
    RowAction.reclaim leaseOwner replacementToken (now + leaseSeconds) now
  return (s.actLogged row action ⟨"reclaimed", [("previous_lease_owner", .text row.leaseOwner)]⟩
    now, action.apply row)

/-!
# Loops over selected rows
-/

def actEach (s : Store) (rows : List WorkflowJob)
    (plan : WorkflowJob -> Option (RowAction × Option LoggedEvent)) (now : Int) :
    Store :=
  rows.foldl
    (fun s row =>
      match plan row with
      | none => s
      | some (action, some event) => s.actLogged row action event now
      | some (action, none) => s.act row.jobId action)
    s

def plannedCount (rows : List WorkflowJob)
    (plan : WorkflowJob -> Option (RowAction × Option LoggedEvent)) : Nat :=
  (rows.filterMap plan).length

def supersededEvent (replacement message : String) : LoggedEvent :=
  ⟨"superseded", [("replacement_generation", .text replacement), ("reason", .text message)]⟩

/-- Supersede selected rows, keeping the detached calls quarantined. -/
def supersedePlan (replacement message : String) (now : Int)
    (row : WorkflowJob) : Option (RowAction × Option LoggedEvent) :=
  if row.isQuarantined then none
  else some (.supersede replacement message now, some (supersededEvent replacement message))

/-!
# Recovery
-/

/--
The `UPDATE` matches on the selected lease token, so a row without a token is
never recovered.
-/
def recoverPlan (category : WorkflowFailureCategory) (error : String)
    (phase : Option String) (now : Int) (row : WorkflowJob) :
    Option (RowAction × Option LoggedEvent) :=
  if row.isFinalizingAudit ∨ row.leaseToken = none ∨ row.state ≠ .running then
    none
  else
    some (.recover category error phase now,
      some ⟨if row.attemptsExhausted then "exhausted" else "recovered",
        [("failure_category", .text category.value)]⟩)

structure RecoveryFilter where
  projectId : Option String := none
  actions : Option (List String) := none
  phases : Option (List String) := none
  deriving DecidableEq

namespace RecoveryFilter

def admits (filter : RecoveryFilter) (row : WorkflowJob) : Bool :=
  filter.projectId.all (fun projectId => row.spec.projectId = projectId) &&
    filter.actions.all (fun actions => row.spec.action ∈ actions) &&
    filter.phases.all (fun phases => row.phase ∈ phases)

def check (filter : RecoveryFilter) : Except StoreError Unit := do
  require (filter.actions ≠ some []) (.valueError "actions cannot be empty")
  require (filter.phases ≠ some []) (.valueError "phases cannot be empty")

end RecoveryFilter

def leaseDeadlineOrder (first second : WorkflowJob) : Prop :=
  first.leaseExpiresAt.getD 0 < second.leaseExpiresAt.getD 0 ∨
    (first.leaseExpiresAt.getD 0 = second.leaseExpiresAt.getD 0 ∧
      first.enqueueSequence ≤ second.enqueueSequence)

instance (first second : WorkflowJob) : Decidable (leaseDeadlineOrder first second) := by
  unfold leaseDeadlineOrder
  infer_instance

def expiredRows (s : Store) (filter : RecoveryFilter) (limit : Nat)
    (now : Int) : List WorkflowJob :=
  ((s.jobs.rows.filter (fun row =>
      row.state = .running ∧ row.leaseExpiresAt.any (fun expiry => expiry ≤ now) ∧
        ¬ row.isFinalizingAudit ∧ filter.admits row)).insertionSort
    leaseDeadlineOrder).take limit

def recoverExpiredLocked (s : Store) (filter : RecoveryFilter) (limit : Nat) (now : Int) : Store :=
  s.actEach (s.expiredRows filter limit now) (recoverPlan .leaseExpired
      "workflow job lease expired before acknowledgement" none now) now

def recoverExpired (s : Store) (filter : RecoveryFilter) (limit : Nat)
    (now : Int) : Except StoreError (Store × Nat) := do
  boundedLimit limit
  filter.check
  return (s.recoverExpiredLocked filter limit now, plannedCount (s.expiredRows filter limit now)
      (recoverPlan .leaseExpired "workflow job lease expired before acknowledgement" none now))

def abandonedRows (s : Store) (leaseOwner : Option String)
    (filter : RecoveryFilter) (limit : Nat) : List WorkflowJob :=
  (s.jobs.rows.filter (fun row =>
      row.state = .running ∧ leaseOwner.all (fun owner => row.leaseOwner = some owner) ∧
        filter.admits row ∧ ¬ row.isFinalizingAudit)).take limit

def recoverAbandoned (s : Store) (leaseOwner phase : Option String)
    (filter : RecoveryFilter) (limit : Nat) (now : Int) :
    Except StoreError (Store × Nat) := do
  boundedLimit limit
  filter.check
  let rows := s.abandonedRows leaseOwner filter limit
  let plan := recoverPlan .abandoned "workflow job lease was abandoned during restart" phase now
  return (s.actEach rows plan now, plannedCount rows plan)

/-!
# Claims
-/

structure ClaimFilter where
  projectId : Option String := none
  projectIds : Option (List String) := none
  taskId : Option String := none
  generation : Option String := none
  actions : List String := []
  compatibleRunningActions : List String := []
  requiredSnapshotGeneration : Option Nat := none
  deriving DecidableEq

namespace ClaimFilter

def check (filter : ClaimFilter) : Except StoreError Unit := do
  require (filter.projectId = none ∨ filter.projectIds = none)
    (.valueError "project_id and project_ids are mutually exclusive")
  require (filter.projectIds ≠ some []) (.valueError "project_ids cannot be empty")
  require (filter.requiredSnapshotGeneration ≠ some 0)
    (.valueError "required_snapshot_generation must be a positive integer")

def recoveryFilters (filter : ClaimFilter) : List RecoveryFilter :=
  let actions := if filter.actions = [] then none else some filter.actions
  match filter.projectIds with
  | some projects =>
    projects.dedup.insertionSort (fun a b => a ≤ b) |>.map
      (fun project => { projectId := some project, actions := actions })
  | none => [{ projectId := filter.projectId, actions := actions }]

def admits (filter : ClaimFilter) (row : WorkflowJob) : Bool :=
  filter.projectId.all (fun projectId => row.spec.projectId = projectId) &&
    filter.taskId.all (fun taskId => row.spec.taskId = taskId) &&
    filter.generation.all (fun generation => row.spec.generation = generation) &&
    filter.projectIds.all (fun projects => row.spec.projectId ∈ projects) &&
    (filter.actions = [] ∨ row.spec.action ∈ filter.actions)

end ClaimFilter

def isDue (row : WorkflowJob) (now : Int) : Bool :=
  row.state = .queued ∨ (row.state = .retryWait ∧ row.retryAt.any (fun deadline => deadline ≤ now))

/-- The published cut that a managed candidate needs. -/
def managedAuthority (s : Store) (candidate : WorkflowJob) : Bool :=
  s.tables.members.any (fun member =>
    member.projectId = candidate.spec.projectId ∧ member.taskId = candidate.spec.taskId ∧
      s.tables.cursors.any (fun cursor =>
        cursor.projectId = member.projectId ∧ cursor.taskId = member.taskId ∧
          cursor.snapshotGeneration = member.snapshotGeneration ∧
          cursor.jobGeneration = candidate.spec.generation ∧
          cursor.materializedJobGeneration = some candidate.spec.generation)) &&
    (s.counters.accepted.isSome ∧ s.counters.accepted = s.counters.published)

/-- A running sibling whose action the caller did not declare compatible. -/
def taskIsRunning (s : Store) (candidate : WorkflowJob)
    (compatibleRunningActions : List String) : Bool :=
  s.jobs.rows.any (fun owned =>
    owned.sameTask candidate ∧ owned.state = .running ∧
      owned.spec.action ∉ compatibleRunningActions)

def claimCandidate (s : Store) (filter : ClaimFilter) (now : Int)
    (candidate : WorkflowJob) : Bool :=
  isDue candidate now && !candidate.attemptsExhausted &&
    (!candidate.workflowManaged || s.managedAuthority candidate) &&
    !s.taskIsRunning candidate filter.compatibleRunningActions &&
    filter.admits candidate &&
    filter.requiredSnapshotGeneration.all (fun snapshot =>
      s.counters.accepted = some snapshot ∧ s.counters.published = some snapshot)

def claimSequenceOf (s : Store) (projectId : String) : Nat :=
  ((s.tables.fairness.find? (fun fairness =>
    fairness.projectId = projectId)).map ProjectFairness.claimSequence).getD 0

def claimKey (s : Store) (fair : Bool) (row : WorkflowJob) : List Int :=
  [if fair then s.claimSequenceOf row.spec.projectId else 0, row.spec.priority,
    row.retryAt.getD row.createdAt, row.enqueueSequence]

def selectClaim (s : Store) (filter : ClaimFilter) (fairAcrossProjects : Bool)
    (now : Int) : Option WorkflowJob :=
  let fair := fairAcrossProjects && filter.projectId.isNone
  ((s.jobs.rows.filter (s.claimCandidate filter now)).insertionSort
    (fun a b => s.claimKey fair a ≤ s.claimKey fair b)).head?

def recordFairness (s : Store) (projectId : String) (now : Int) : Store :=
  s.withTables (fun tables =>
    { tables with
      fairClaimSequence := tables.fairClaimSequence + 1
      fairness :=
        tables.fairness.filter (fun fairness => fairness.projectId ≠ projectId) ++
          [{ projectId := projectId
             claimSequence := tables.fairClaimSequence + 1
             updatedAt := now }] })

def recoverForClaim (s : Store) (filter : ClaimFilter) (recoveryLimit : Nat) (now : Int) : Store :=
  filter.recoveryFilters.foldl
    (fun s recovery => s.recoverExpiredLocked recovery recoveryLimit now) s

def leaseSelected (s : Store) (row : WorkflowJob) (owner : String)
    (leaseToken : LeaseToken) (leaseSeconds : Int) (fair : Bool) (now : Int) :
    Store × WorkflowJob :=
  let action := RowAction.claim owner leaseToken (now + leaseSeconds) now
  let leased :=
    if fair then (s.act row.jobId action).recordFairness row.spec.projectId now
    else s.act row.jobId action
  (leased.appendEvent (action.apply row)
      ⟨"claimed", [("attempt", .number (action.apply row).attempts)]⟩ now, action.apply row)

def claimNext (s : Store) (leaseOwner : String) (leaseToken : LeaseToken)
    (leaseSeconds : Int) (filter : ClaimFilter) (fairAcrossProjects : Bool)
    (recoveryLimit : Nat) (now : Int) :
    Except StoreError (Store × Option WorkflowJob) := do
  requiredText leaseOwner "lease_owner"
  require (0 < leaseSeconds) (.valueError "lease_seconds must be positive")
  boundedLimit recoveryLimit
  filter.check
  let recovered := s.recoverForClaim filter recoveryLimit now
  match recovered.selectClaim filter fairAcrossProjects now with
  | none => return (recovered, none)
  | some row =>
    let claimed := recovered.leaseSelected row leaseOwner leaseToken
      leaseSeconds (fairAcrossProjects && filter.projectId.isNone) now
    return (claimed.1, some claimed.2)

/-!
# Generation fences
-/

/-- The common body of `supersede` and `cancel`. -/
def fenceGeneration (s : Store) (jobId generation : String)
    (action : RowAction) (event : LoggedEvent) (quarantined : String) (now : Int) :
    Except StoreError (Store × WorkflowJob) := do
  let row ← s.rowLocked jobId
  require (row.spec.generation = generation)
    (.jobStoreError "workflow job generation does not match")
  if row.isActive then
    require (row.isQuarantined = false) (.jobStoreError quarantined)
    return (s.actLogged row action event now, action.apply row)
  else
    return (s, row)

def supersede (s : Store) (jobId generation replacementGeneration reason : String) (now : Int) :
    Except StoreError (Store × WorkflowJob) := do
  requiredText generation "generation"
  requiredText replacementGeneration "replacement_generation"
  requiredText reason "reason"
  s.fenceGeneration jobId generation (.supersede replacementGeneration reason now)
    (supersededEvent replacementGeneration reason)
    ("a quarantined workflow call cannot be superseded " ++
      "before exact settlement or process recovery") now

def cancel (s : Store) (jobId generation reason : String) (now : Int) :
    Except StoreError (Store × WorkflowJob) := do
  requiredText generation "generation"
  requiredText reason "reason"
  s.fenceGeneration jobId generation (.cancel reason now)
    ⟨"cancelled", [("reason", .text reason)]⟩
    ("a quarantined workflow call cannot be cancelled " ++
      "before exact settlement or process recovery") now

def supersedeTaskGeneration (s : Store)
    (projectId taskId keepGeneration reason : String) (limit : Nat)
    (now : Int) : Except StoreError (Store × Nat) := do
  boundedLimit limit
  requiredText projectId "project_id"
  requiredText taskId "task_id"
  requiredText keepGeneration "keep_generation"
  requiredText reason "reason"
  let rows := ((s.taskRows projectId taskId).filter (fun row =>
    row.spec.generation ≠ keepGeneration ∧ row.isActive)).take limit
  let plan := supersedePlan keepGeneration reason now
  return (s.actEach rows plan now, plannedCount rows plan)

end Store
end WorkflowJobs
end Oompah
