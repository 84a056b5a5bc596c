import Oompah.WorkflowJobs.Lease

/-!
# Enqueue and retirement proofs

The idempotent insert, the durable retirement proof predicate shared by the
per-task lookup of current exhausted jobs, and the two ways retirement rows
are recorded.
-/

namespace Oompah
namespace WorkflowJobs

open Foundation

namespace Store

/-!
# Enqueue
-/

def insertFresh (s : Store) (spec : WorkflowJobSpec) (newJobId : String)
    (workflowManaged : Bool) (now : Int) :
    Except StoreError (Store × WorkflowJob) :=
  let row := WorkflowJob.fresh newJobId (s.jobs.rows.length + 1) spec workflowManaged now
  if h : row.jobId ∉ s.jobs.rows.map WorkflowJob.jobId then
    .ok ({ s with jobs := s.jobs.insert row h }.appendEvent row ⟨"enqueued", []⟩ now, row)
  else
    .error (.integrityError "UNIQUE constraint failed: workflow_jobs.job_id")

def enqueueLocked (s : Store) (spec : WorkflowJobSpec) (newJobId : String)
    (workflowManaged : Bool) (now : Int) :
    Except StoreError (Store × WorkflowJob × Bool) :=
  match s.findIdempotent spec.projectId spec.idempotencyKey with
  | some existing =>
    if existing.spec ≠ spec then
      .error (.idempotencyConflict ("idempotency key '" ++ spec.idempotencyKey ++
          "' already describes different workflow work"))
    else if workflowManaged ∧ ¬ existing.workflowManaged then
      .ok (s.act existing.jobId .manage, RowAction.manage.apply existing, false)
    else
      .ok (s, existing, false)
  | none => do
      requiredText newJobId "generated job_id"
      let inserted ← s.insertFresh spec newJobId workflowManaged now
      return (inserted.1, inserted.2, true)

def enqueue (s : Store) (spec : WorkflowJobSpec) (newJobId : String)
    (now : Int) : Except StoreError (Store × WorkflowJob) := do
  let written ← s.enqueueLocked spec newJobId false now
  return (written.1, written.2.1)

/-!
# Retirement proofs
-/

/-- `LIKE 'terminal-audit:%'` ignores ASCII case. -/
def isTerminalAuditLane (lane : String) : Bool :=
  "terminal-audit:".toList.isPrefixOf (lane.toList.map Char.toLower)

def lifecycleFinalMerged : String := "lifecycle-final:Merged"

def lifecycleFinalArchived : String := "lifecycle-final:Archived"

def isLifecycleFinalRevision (revision : String) : Bool :=
  revision = lifecycleFinalMerged ∨ revision = lifecycleFinalArchived

def isWithdrawn (row : WorkflowJob) : Bool :=
  row.state = .superseded ∨ row.state = .cancelled

def hasTerminalAuditHandoff (s : Store) (projectId taskId generation : String) :
    Bool :=
  (s.taskRows projectId taskId).any (fun handoff =>
    !handoff.workflowManaged && (handoff.spec.action = "terminal_audit") &&
      isTerminalAuditLane handoff.spec.schedulingLane &&
      (handoff.spec.generation = generation))

/-- The current event cursor names a concrete unmanaged job not withdrawn. -/
def hasEventHandoff (s : Store) (projectId taskId generation : String) : Bool :=
  s.tables.eventCursors.any (fun cursor =>
    cursor.projectId = projectId ∧ cursor.taskId = taskId ∧ cursor.eventGeneration = generation ∧
      (s.taskRows projectId taskId).any (fun handoff =>
        handoff.spec.schedulingLane = cursor.eventNamespace ∧
          handoff.spec.generation = cursor.eventGeneration ∧
          ¬ handoff.workflowManaged ∧ ¬ isWithdrawn handoff))

def hasCut (s : Store) (retirement : JobRetirement) (admits : Option String -> Bool) : Bool :=
  s.tables.cuts.any (fun cut =>
    cut.projectId = retirement.projectId ∧ cut.taskId = retirement.taskId ∧
      retirement.snapshotGeneration = some cut.snapshotGeneration ∧
      cut.authorityKind = retirement.authorityKind ∧
      cut.decisionRevision = retirement.decisionRevision ∧
      admits cut.jobGeneration)

def publishedSnapshot (s : Store) (retirement : JobRetirement) : Bool :=
  retirement.snapshotGeneration.any s.isPublished

/-- `_DURABLE_RETIREMENT_PROOF_PREDICATE`. -/
def durableRetirementProof (s : Store) (retirement : JobRetirement) (job : WorkflowJob) : Bool :=
  match retirement.authorityKind with
  | .eventHandoff =>
    retirement.snapshotGeneration.isNone && !job.workflowManaged &&
      s.hasEventHandoff retirement.projectId retirement.taskId retirement.decisionRevision
  | .terminalAuditHandoff =>
    retirement.snapshotGeneration.isNone &&
      s.hasTerminalAuditHandoff retirement.projectId retirement.taskId retirement.decisionRevision
  | .managedDecision | .managedZeroJob =>
    job.workflowManaged && s.publishedSnapshot retirement &&
      s.hasCut retirement (fun generation =>
        generation.any (fun generation => generation ≠ job.spec.generation))
  | .lifecycleFinal =>
    isLifecycleFinalRevision retirement.decisionRevision && s.publishedSnapshot retirement &&
      s.hasCut retirement (fun generation => generation.isNone)

/-- A retirement row of exactly this job carries a durable proof. -/
def hasDurableRetirement (s : Store) (job : WorkflowJob) : Bool :=
  s.retirements.any (fun retirement =>
    retirement.jobId = job.jobId ∧ retirement.projectId = job.spec.projectId ∧
      retirement.taskId = job.spec.taskId ∧
      s.durableRetirementProof retirement job)

/-!
# Current exhausted jobs
-/

def isReplacement (row : WorkflowJob) : Bool := !isWithdrawn row

def replacedByCursor (s : Store) (job : WorkflowJob) : Bool :=
  job.workflowManaged &&
    s.tables.cursors.any (fun cursor =>
      cursor.projectId = job.spec.projectId ∧ cursor.taskId = job.spec.taskId ∧
        s.isPublished cursor.snapshotGeneration ∧
        cursor.jobGeneration ≠ job.spec.generation ∧
        cursor.materializedJobGeneration = some cursor.jobGeneration ∧
        (s.taskRows job.spec.projectId job.spec.taskId).any (fun replacement =>
          replacement.workflowManaged ∧ replacement.spec.generation = cursor.jobGeneration ∧
            isReplacement replacement))

/-- An unmanaged sibling of the lane at another generation replaces the job. -/
def hasLaneReplacement (s : Store) (job : WorkflowJob) (generation : String) :
    Bool :=
  generation ≠ job.spec.generation ∧
    (s.taskRows job.spec.projectId job.spec.taskId).any (fun replacement =>
      ¬ replacement.workflowManaged ∧ replacement.spec.schedulingLane = job.spec.schedulingLane ∧
        replacement.spec.generation = generation ∧ isReplacement replacement)

def laneCursors (s : Store) (job : WorkflowJob) : List WorkflowEventCursor :=
  s.tables.eventCursors.filter (fun cursor =>
    cursor.projectId = job.spec.projectId ∧ cursor.taskId = job.spec.taskId ∧
      cursor.eventNamespace = job.spec.schedulingLane)

def replacedByEventCursor (s : Store) (job : WorkflowJob) : Bool :=
  !job.workflowManaged &&
    (s.laneCursors job).any (fun cursor =>
      s.hasLaneReplacement job cursor.eventGeneration)

def replacedByOrdering (s : Store) (job : WorkflowJob) : Bool :=
  !job.workflowManaged && (s.laneCursors job).isEmpty &&
    s.tables.eventOrdering.any (fun ordering =>
      ordering.projectId = job.spec.projectId ∧ ordering.taskId = job.spec.taskId ∧
        ordering.orderingNamespace = job.spec.schedulingLane ∧
        s.hasLaneReplacement job ordering.decisionRevision)

/-- `_CURRENT_EXHAUSTION_PREDICATE`. -/
def currentExhaustion (s : Store) (job : WorkflowJob) : Bool :=
  (job.state = .exhausted) && !(s.hasDurableRetirement job || s.replacedByCursor job ||
      s.replacedByEventCursor job || s.replacedByOrdering job)

def currentExhaustedJobs (s : Store) (projectId taskId : String) :
    List WorkflowJob :=
  (s.taskRows projectId taskId).filter s.currentExhaustion

/-!
# Recording retirements
-/

/-- The job generation of the exact materialized cursor of a managed cut. -/
def managedCutGeneration (s : Store) (projectId taskId revision : String)
    (kind : AuthorityKind) (snapshot : Nat) : Except StoreError String := do
  let cursor ←
    match s.tables.cursors.find? (fun cursor =>
      cursor.projectId = projectId ∧ cursor.taskId = taskId ∧ cursor.snapshotGeneration = snapshot ∧
        cursor.decisionRevision = revision) with
    | some cursor =>
      if cursor.materializedJobGeneration = some cursor.jobGeneration then
        .ok cursor
      else
        .error (.jobStoreError "managed retirement lost its exact materialized cursor")
    | none =>
      .error (.jobStoreError "managed retirement lost its exact materialized cursor")
  let replaced := (s.taskRows projectId taskId).any (fun row =>
    row.workflowManaged ∧ row.spec.generation = cursor.jobGeneration)
  require (decide (kind = .managedDecision) = replaced) (.jobStoreError
      "managed retirement kind does not match its exact job cut")
  return cursor.jobGeneration

/--
The argument checks of `_record_job_retirements_locked`, returning the job
generation of the cut.  Handoff retirements are immediate and carry no
snapshot; the other kinds name one.
-/
def checkRetirementAuthority (s : Store) (projectId taskId : String)
    (kind : AuthorityKind) (revision : String) (snapshot : Option Nat)
    (workflowManaged : Option Bool) : Except StoreError (Option String) := do
  match kind with
  | .eventHandoff =>
    .error (.valueError "authority_kind is not supported")
  | .terminalAuditHandoff => do
      require (snapshot = none) (.valueError "terminal_audit_handoff requires immediate authority")
      require (workflowManaged = some true)
        (.valueError "terminal_audit_handoff must retire managed authority")
      require (s.hasTerminalAuditHandoff projectId taskId revision = true)
        (.jobStoreError "terminal-audit retirement lost its exact handoff job")
      return none
  | .managedDecision | .managedZeroJob => do
      match snapshot with
      | none =>
        .error (.valueError "a positive snapshot generation is required")
      | some snapshot =>
        require (workflowManaged = some true)
          (.valueError "managed retirement proof must select managed jobs")
        let generation ← s.managedCutGeneration projectId taskId revision kind snapshot
        return some generation
  | .lifecycleFinal => do
      require (snapshot.isSome = true) (.valueError "a positive snapshot generation is required")
      require (isLifecycleFinalRevision revision = true) (.valueError
          "lifecycle_final requires an exact final-status revision")
      require
        (s.tables.members.any (fun member =>
          member.projectId = projectId ∧ member.taskId = taskId) = false)
        (.jobStoreError "lifecycle-final authority conflicts with active membership")
      return none

/-- `INSERT OR IGNORE` of the cut, then the check that it is the expected one. -/
def recordCut (s : Store) (cut : RetirementAuthorityCut) :
    Except StoreError Store :=
  match s.tables.cuts.find? (fun known =>
    known.snapshotGeneration = cut.snapshotGeneration ∧
      known.projectId = cut.projectId ∧ known.taskId = cut.taskId) with
  | none =>
    .ok (s.withTables (fun tables =>
      { tables with cuts := tables.cuts ++ [cut] }))
  | some known =>
    if known.authorityKind = cut.authorityKind ∧ known.decisionRevision = cut.decisionRevision ∧
        known.jobGeneration = cut.jobGeneration then
      .ok s
    else
      .error (.jobStoreError "snapshot contains conflicting retirement authority cuts")

def retireEach (s : Store) (rows : List WorkflowJob) (retirement : JobRetirement) : Store :=
  rows.foldl (fun s row => s.retire { retirement with jobId := row.jobId }) s

/-- The rows a cut retires: selected ones without a durable proof already. -/
def retirableRows (s : Store) (projectId taskId : String)
    (workflowManaged : Option Bool) (excludedJobIds : List String) :
    List WorkflowJob :=
  (s.taskRows projectId taskId).filter (fun row =>
    workflowManaged.all (fun managed => row.workflowManaged = managed) ∧
      row.jobId ∉ excludedJobIds ∧ ¬ s.hasDurableRetirement row)

def recordJobRetirementsLocked (s : Store) (projectId taskId : String)
    (kind : AuthorityKind) (revision : String) (snapshot : Option Nat)
    (workflowManaged : Option Bool) (excludedJobIds : List String)
    (now : Int) : Except StoreError (Store × Nat) := do
  let cutGeneration ← s.checkRetirementAuthority projectId taskId kind revision
    snapshot workflowManaged
  let rows := s.retirableRows projectId taskId workflowManaged excludedJobIds
  let retirement : JobRetirement :=
    { jobId := ""
      projectId := projectId
      taskId := taskId
      authorityKind := kind
      decisionRevision := revision
      snapshotGeneration := snapshot
      retiredAt := now }
  match rows, snapshot with
  | [], _ => return (s, 0)
  | rows, none => return (s.retireEach rows retirement, rows.length)
  | rows, some snapshot =>
    let cut ← s.recordCut
      { snapshotGeneration := snapshot
        projectId := projectId
        taskId := taskId
        authorityKind := kind
        decisionRevision := revision
        jobGeneration := cutGeneration
        recordedAt := now }
    return (cut.retireEach rows retirement, rows.length)

/-- Bind the named event lanes to the exact current event successor. -/
def recordEventHandoffRetirementsLocked (s : Store)
    (projectId taskId authorityGeneration authorityLane : String)
    (authorityEnqueueSequence : Nat) (retiredLanes : List String)
    (now : Int) : Except StoreError (Store × Nat) := do
  require (retiredLanes ≠ []) (.valueError "retired_scheduling_lanes cannot be empty")
  require
    (s.tables.eventCursors.any (fun cursor =>
      cursor.projectId = projectId ∧ cursor.taskId = taskId ∧
        cursor.eventNamespace = authorityLane ∧
        cursor.eventGeneration = authorityGeneration ∧
        (s.taskRows projectId taskId).any (fun job =>
          job.spec.schedulingLane = authorityLane ∧ job.spec.generation = authorityGeneration ∧
            ¬ job.workflowManaged ∧ ¬ isWithdrawn job)) = true)
    (.jobStoreError "event handoff retirement lost its exact successor job")
  let rows := (s.taskRows projectId taskId).filter (fun row =>
    ¬ row.workflowManaged ∧ row.spec.schedulingLane ∈ retiredLanes ∧
      row.enqueueSequence < authorityEnqueueSequence ∧
      ¬ (row.spec.schedulingLane = authorityLane ∧ row.spec.generation = authorityGeneration) ∧
      ¬ s.hasDurableRetirement row)
  return (s.retireEach rows
    { jobId := ""
      projectId := projectId
      taskId := taskId
      authorityKind := .eventHandoff
      decisionRevision := authorityGeneration
      snapshotGeneration := none
      retiredAt := now }, rows.length)

end Store
end WorkflowJobs
end Oompah
