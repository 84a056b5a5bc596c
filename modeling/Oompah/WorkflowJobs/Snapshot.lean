import Oompah.WorkflowJobs.EventLane

/-!
# Snapshot authority

The generation counters, the publication protocol with its compensators, and
the capture, restore and rollback of pre-publication authority.
-/

namespace Oompah
namespace WorkflowJobs

open Foundation

attribute [local instance] lawful_pairs

namespace Store

/-!
# Generation counters
-/

def nextOrderingGeneration (s : Store) : Nat :=
  max (max (s.counters.allocated.getD 0) s.tables.eventGeneration)
    ((s.tables.eventOrdering.map EventOrdering.sourceGeneration).foldl max 0) + 1

def allocateSnapshotGeneration (s : Store) : Store × Nat :=
  let value := s.nextOrderingGeneration
  ({ s with counters := { s.counters with allocated := some value } }, value)

def allocateEventGeneration (s : Store) : Store × Nat :=
  let value := s.nextOrderingGeneration
  (s.withTables (fun tables => { tables with eventGeneration := value }), value)

def acceptSnapshotGeneration (s : Store) (generation : Nat) : Except StoreError (Store × Bool) := do
  positiveGeneration generation "snapshot_generation"
  if generation ≠ s.counters.allocated.getD 0 ∨ generation ≤ s.counters.accepted.getD 0 then
    return (s, false)
  else
    return ({ s with
      counters := { s.counters with accepted := some generation } }, true)

/-!
# Publication

`ρ` names the callables of a durable authority rollback and `perform` is what
one does to the store it finds, together with whether it returned.  `marker`
and `resetCommits` say how the storage layer answered the two marker
transactions.
-/

inductive MarkerOutcome where
  | committed
  | committedThenRaised
  | failed
  deriving DecidableEq

structure Publication (ρ : Type) where
  rollbackFails : Bool := false
  rollbackAuthority : Option ρ := none

inductive PublisherOutcome (ρ : Type) where
  | returned (publication : Publication ρ)
  | raised (rollbackFailed : Bool)

inductive PublishResult where
  | published
  | refused
  | raised (rollbackFailed : Bool)
  deriving DecidableEq

def markPublished (s : Store) (generation : Nat) (now : Int) : Store :=
  { s with
    counters := { s.counters with published := some generation }
    publications :=
      if s.isPublished generation then s.publications
      else s.publications ++ [(generation, now)] }

/-- A failed compensator must not leave the generation accepted. -/
def resetAcceptance (s : Store) (generation : Nat) : Store :=
  if s.snapshotGenerationIsCurrent generation then
    { s with
      counters := { s.counters with accepted := some s.publishedGeneration } }
  else
    s

section Publish

variable {ρ : Type} (perform : ρ -> Store -> Store × Bool)

def compensate (s : Store) (publication : Option (Publication ρ))
    (rollbackAuthority : Option ρ) : Store × Bool :=
  match (publication.bind Publication.rollbackAuthority).or rollbackAuthority with
  | some rollback => perform rollback s
  | none => (s, true)

def failPublication (s : Store) (generation : Nat)
    (publication : Option (Publication ρ)) (publisherRollbackFailed : Bool)
    (rollbackAuthority : Option ρ) (resetCommits : Bool) :
    Store × PublishResult :=
  let compensated := s.compensate perform publication rollbackAuthority
  if publication.any Publication.rollbackFails ∨ compensated.2 = false ∨
      publisherRollbackFailed then
    (if resetCommits then compensated.1.resetAcceptance generation
      else compensated.1, .raised true)
  else
    (compensated.1, .raised false)

def publishSnapshotGeneration (s : Store) (generation : Nat)
    (publisher : PublisherOutcome ρ) (rollbackAuthority : Option ρ)
    (marker : MarkerOutcome) (resetCommits : Bool) (now : Int) :
    Except StoreError (Store × PublishResult) := do
  positiveGeneration generation "snapshot_generation"
  if s.snapshotGenerationIsCurrent generation = false ∨ generation ≤ s.publishedGeneration then
    return (s, .refused)
  else
    match publisher, marker with
    | .raised rollbackFailed, _ =>
      return s.failPublication perform generation none rollbackFailed rollbackAuthority resetCommits
    | .returned publication, .failed =>
      return s.failPublication perform generation (some publication) false
        rollbackAuthority resetCommits
    | .returned _, _ => return (s.markPublished generation now, .published)

end Publish
end Store

/-!
# Capture
-/

structure WorkflowSnapshotAuthority where
  projectIds : List String
  identities : List (String × String)
  fullProjectScope : Bool
  cursors : List WorkflowScheduleCursor := []
  memberships : List SnapshotMember := []
  jobs : List WorkflowJob := []
  retirements : List JobRetirement := []
  jobEventSequence : Nat := 0
  deriving DecidableEq

namespace WorkflowSnapshotAuthority

/-- The `WHERE` clause of the captured scope. -/
def covers (authority : WorkflowSnapshotAuthority) (projectId taskId : String) :
    Bool :=
  if authority.fullProjectScope then projectId ∈ authority.projectIds
  else (projectId, taskId) ∈ authority.identities

def coversRow (authority : WorkflowSnapshotAuthority) (row : WorkflowJob) : Bool :=
  authority.covers row.spec.projectId row.spec.taskId

def hasScope (authority : WorkflowSnapshotAuthority) : Bool :=
  if authority.fullProjectScope then !authority.projectIds.isEmpty
  else !authority.identities.isEmpty

def capturedJob (authority : WorkflowSnapshotAuthority) (jobId : String) :
    Option WorkflowJob :=
  authority.jobs.find? (fun row => row.jobId = jobId)

end WorkflowSnapshotAuthority

def identityOrder (first second : String × String) : Prop :=
  first.1 < second.1 ∨ (first.1 = second.1 ∧ first.2 ≤ second.2)

instance (first second : String × String) : Decidable (identityOrder first second) := by
  unfold identityOrder
  infer_instance

namespace Store

def captureSnapshotAuthority (s : Store) (authoritativeProjectIds : List String)
    (evaluatedIdentities : List (String × String)) (fullProjectScope : Bool) :
    WorkflowSnapshotAuthority :=
  let scope : WorkflowSnapshotAuthority :=
    { projectIds := sortedTexts authoritativeProjectIds
      identities := evaluatedIdentities.dedup.insertionSort identityOrder
      fullProjectScope := fullProjectScope }
  if scope.hasScope then
    { scope with
      cursors := s.tables.cursors.filter (fun cursor =>
        scope.covers cursor.projectId cursor.taskId)
      memberships := s.tables.members.filter (fun member =>
        scope.covers member.projectId member.taskId)
      jobs := s.jobs.rows.filter (fun row =>
        scope.coversRow row ∧ row.workflowManaged)
      retirements := s.retirements.filter (fun retirement =>
        scope.covers retirement.projectId retirement.taskId ∧ retirement.snapshotGeneration.isSome)
      jobEventSequence := s.ledger.sequenceMaximum }
  else
    scope

/-!
# Restore
-/

def appendRollbackSummary (s : Store) (snapshot : Nat) (reason : Option String) (now : Int)
    (group : (String × String) × List String) : Store :=
  match group.2 with
  | [] => s
  | jobId :: _ =>
    { s with
      ledger := s.ledger.append
        { sequence := 0
          jobId := jobId
          projectId := group.1.1
          taskId := group.1.2
          eventType := "publication_rollback"
          state := .superseded
          phase := "publication_rollback"
          leaseOwner := none
          payload := [("snapshot_generation", .number (some snapshot)),
            ("job_count", .number (some group.2.length)), ("job_ids", .texts group.2)] ++
              (reason.map (fun reason => ("reason", PayloadValue.text reason))).toList
          createdAt := now } }

/-- The affected job ids per task, tasks in sorted order. -/
def groupByTask (rows : List WorkflowJob) : List ((String × String) × List String) :=
  let key := fun row : WorkflowJob => (row.spec.projectId, row.spec.taskId)
  ((rows.map key).dedup.insertionSort identityOrder).map (fun identity =>
    (identity, (rows.filter (fun row => key row = identity)).map WorkflowJob.jobId))

/-- A `rearmed` event still hot in the ledger after the capture sequence. -/
def rearmedAfter (s : Store) (authority : WorkflowSnapshotAuthority) (jobId : String) : Bool :=
  s.ledger.hot.any (fun event =>
    event.jobId = jobId ∧ event.eventType = "rearmed" ∧
      authority.jobEventSequence < event.sequence ∧
      authority.covers event.projectId event.taskId)

def restorePlan (s : Store) (authority : WorkflowSnapshotAuthority)
    (snapshot : Nat) (now : Int) (row : WorkflowJob) :
    Option (RowAction × Option LoggedEvent) :=
  if row.isQuarantined then none
  else if s.rearmedAfter authority row.jobId then none
  else
    match authority.capturedJob row.jobId with
    | some captured => some (.restore captured, none)
    | none =>
      if row.isActive then
        some (.supersede ("publication-rollback:" ++ toString snapshot)
          "workflow snapshot publication did not commit" now, none)
      else
        none

def restoreRows (s : Store) (authority : WorkflowSnapshotAuthority) :
    List WorkflowJob :=
  s.jobs.rows.filter (fun row =>
    authority.coversRow row ∧ row.workflowManaged)

def clearScope (s : Store) (authority : WorkflowSnapshotAuthority) (snapshot : Nat) : Store :=
  (s.withTables (fun tables =>
    { tables with
      cursors := tables.cursors.filter (fun cursor =>
        ¬ authority.covers cursor.projectId cursor.taskId)
      members := tables.members.filter (fun member =>
        ¬ authority.covers member.projectId member.taskId)
      cuts := tables.cuts.filter (fun cut =>
        ¬ (authority.covers cut.projectId cut.taskId ∧
          cut.snapshotGeneration = snapshot)) })).dropRetirements
    (fun retirement =>
      authority.covers retirement.projectId retirement.taskId &&
        retirement.snapshotGeneration.isSome)

def insertRetirement (s : Store) (retirement : JobRetirement) :
    Except StoreError Store :=
  if s.retirements.any (fun known => known.jobId = retirement.jobId) then
    .error (.integrityError "UNIQUE constraint failed: workflow_job_retirements.job_id")
  else
    .ok (s.retire retirement)

def restoreSnapshotAuthority (s : Store)
    (authority : WorkflowSnapshotAuthority) (snapshot : Nat) (now : Int) :
    Except StoreError (Store × Bool) := do
  positiveGeneration snapshot "snapshot_generation"
  if ¬ authority.hasScope then
    return (s, true)
  else if snapshot ≤ s.publishedGeneration ∨ s.snapshotGenerationIsCurrent snapshot = false then
    return (s, false)
  else do
    let rows := s.restoreRows authority
    let plan := s.restorePlan authority snapshot now
    let restored := s.actEach rows plan now
    let summarized := (groupByTask (rows.filter (fun row =>
      (plan row).isSome))).foldl
      (fun s group => s.appendRollbackSummary snapshot none now group) restored
    let cleared := summarized.clearScope authority snapshot
    let reinserted := cleared.withTables (fun tables =>
      { tables with
        cursors := tables.cursors ++ authority.cursors
        members := tables.members ++ authority.memberships })
    let retired ← (authority.retirements.filter (fun retirement =>
      ¬ s.rearmedAfter authority retirement.jobId)).foldlM insertRetirement
      reinserted
    return ({ retired with
      counters :=
        { retired.counters with accepted := some s.publishedGeneration } }, true)

/-!
# Rollback without a checkpoint
-/

def rollbackTasks (s : Store) (projects : List String)
    (identities : List (String × String)) : List (String × String) :=
  (identities ++
    projects.flatMap (fun projectId =>
      (s.knownTasks projectId).map (fun task => (projectId, task)))).dedup
    |>.insertionSort identityOrder

def rollbackTask (snapshot : Nat) (now : Int) (s : Store) (identity : String × String) : Store :=
  let rows := (s.activeManagedRows identity.1 identity.2).filter (fun row =>
    ¬ row.isQuarantined)
  let fenced := s.actEach rows
    (fun _ => some (.supersede ("publication-rollback:" ++ toString snapshot)
      "workflow snapshot publication did not commit" now, none)) now
  let summarized :=
    fenced.appendRollbackSummary snapshot (some "workflow snapshot publication did not commit")
      now (identity, rows.map WorkflowJob.jobId)
  (summarized.withTables (fun tables =>
    { tables with
      cursors := tables.cursors.filter (fun cursor =>
        ¬ (cursor.projectId = identity.1 ∧ cursor.taskId = identity.2))
      members := tables.members.filter (fun member =>
        ¬ (member.projectId = identity.1 ∧ member.taskId = identity.2))
      cuts := tables.cuts.filter (fun cut =>
        ¬ (cut.projectId = identity.1 ∧ cut.taskId = identity.2 ∧
          cut.snapshotGeneration = snapshot)) })).dropRetirements
    (fun retirement =>
      (retirement.projectId = identity.1 ∧ retirement.taskId = identity.2) &&
        (retirement.snapshotGeneration = some snapshot))

def rollbackProject (snapshot : Nat) (s : Store) (projectId : String) : Store :=
  (s.withTables (fun tables =>
    { tables with
      cursors := tables.cursors.filter (fun cursor =>
        cursor.projectId ≠ projectId)
      members := tables.members.filter (fun member =>
        member.projectId ≠ projectId)
      cuts := tables.cuts.filter (fun cut =>
        ¬ (cut.projectId = projectId ∧
          cut.snapshotGeneration = snapshot)) })).dropRetirements
    (fun retirement =>
      (retirement.projectId = projectId) && (retirement.snapshotGeneration = some snapshot))

def rollbackSnapshotAuthority (s : Store) (snapshot : Nat) (authoritativeProjectIds : List String)
    (evaluatedIdentities : List (String × String)) (now : Int) :
    Except StoreError (Store × Bool) := do
  positiveGeneration snapshot "snapshot_generation"
  if snapshot ≤ s.publishedGeneration ∨ s.snapshotGenerationIsCurrent snapshot = false then
    return (s, false)
  else
    let projects := sortedTexts authoritativeProjectIds
    let fenced := (s.rollbackTasks projects evaluatedIdentities).foldl (rollbackTask snapshot now) s
    return (projects.foldl (rollbackProject snapshot) fenced, true)

end Store
end WorkflowJobs
end Oompah
