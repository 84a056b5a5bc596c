import Oompah.WorkflowJobs.Retirement

/-!
# Scheduling under one snapshot generation

The staged writes of a scan: membership, the decision cursor of a task, the
jobs it materializes, and lifecycle-final observations.  Each one is a no-op
once its snapshot generation is no longer the newest accepted capture.
-/

namespace Oompah
namespace WorkflowJobs

open Foundation

attribute [local instance] lawful_pairs

/-!
# Recurring generations

`activate_schedule` renders a deadline in seconds with six digits behind the
reassessment marker, and reads it back from the last marker of a generation.
-/

def reassessmentMarker : String := ":reassess="

def renderSeconds (microseconds : Int) : String :=
  let fraction := toString (microseconds.natAbs % 1000000)
  (if microseconds < 0 then "-" else "") ++ toString (microseconds.natAbs / 1000000) ++ "." ++
    String.ofList (List.replicate (6 - fraction.length) '0') ++ fraction

def digitsValue (digits : List Char) : Nat :=
  digits.foldl (fun value digit => value * 10 + (digit.toNat - '0'.toNat)) 0

def parseSeconds (text : List Char) : Option Int :=
  let negative := text.head? = some '-'
  let body := if negative then text.tail else text
  let whole := body.takeWhile Char.isDigit
  match body.dropWhile Char.isDigit with
  | '.' :: fraction =>
    if whole ≠ [] ∧ fraction.length = 6 ∧ fraction.all Char.isDigit then
      let value : Int := digitsValue whole * 1000000 + digitsValue fraction
      some (if negative then -value else value)
    else
      none
  | _ => none

def afterLast (marker : List Char) : List Char -> Option (List Char)
  | [] => none
  | c :: rest =>
    match afterLast marker rest with
    | some tail => some tail
    | none =>
      if marker.isPrefixOf (c :: rest) then
        some ((c :: rest).drop marker.length)
      else
        none

/-- `_schedule_reassessment_deadline`. -/
def scheduleReassessmentDeadline (generation : String) : Option Int :=
  (afterLast reassessmentMarker.toList generation.toList).bind parseSeconds

/-- `_job_row_proves_live_authority`. -/
def jobRowProvesLiveAuthority (row : WorkflowJob) (now : Int)
    (completedUntil : Option Int) : Bool :=
  match row.state with
  | .queued | .retryWait => true
  | .running =>
    row.leaseOwner.any (fun owner => owner ≠ "") &&
      row.leaseExpiresAt.any (fun expiry => now < expiry)
  | .completed => completedUntil.any (fun deadline => now < deadline)
  | .exhausted | .superseded | .cancelled => false

namespace Store

/-!
# Activation
-/

structure ScheduleActivation where
  projectId : String
  taskId : String
  snapshotGeneration : Nat
  decisionRevision : String
  jobGeneration : String
  changed : Bool
  accepted : Bool
  materialized : Bool
  deriving DecidableEq

def scheduleCursorFromRow (cursor : WorkflowScheduleCursor)
    (changed accepted : Bool) : ScheduleActivation where
  projectId := cursor.projectId
  taskId := cursor.taskId
  snapshotGeneration := cursor.snapshotGeneration
  decisionRevision := cursor.decisionRevision
  jobGeneration := cursor.jobGeneration
  changed := changed
  accepted := accepted
  materialized :=
    cursor.materializedJobGeneration.getD "" = cursor.jobGeneration

def findCursor (s : Store) (projectId taskId : String) :
    Option WorkflowScheduleCursor :=
  s.tables.cursors.find? (fun cursor =>
    cursor.projectId = projectId ∧ cursor.taskId = taskId)

def activationGeneration (revision : String) (snapshot : Nat) (deadline : Option Int) : String :=
  revision ++ ":" ++ toString snapshot ++
    (match deadline with
    | none => ""
    | some deadline => reassessmentMarker ++ renderSeconds deadline)

/-- An exact unmanaged event job still owns execution of the obligation. -/
def hasLiveReplacement (s : Store) (projectId taskId : String)
    (protectedAction : Option String) (protectedLanes : List String)
    (now : Int) : Bool :=
  protectedAction.any (fun action =>
    (s.taskRows projectId taskId).any (fun row =>
      row.spec.action = action ∧ ¬ row.workflowManaged ∧
        row.spec.schedulingLane ∈ protectedLanes ∧ row.isActive ∧
        (jobRowProvesLiveAuthority row now none ∨ row.isQuarantined)))

/-- The unchanged decision must be activated again. -/
def recurrenceDue (s : Store) (projectId taskId existingGeneration : String)
    (liveReplacement : Bool) (now : Int) : Bool :=
  let states := ((s.taskRows projectId taskId).filter (fun row =>
    row.spec.generation = existingGeneration ∧
      row.spec.schedulingLane = "decision" ∧ row.workflowManaged)).map
    WorkflowJob.state
  match scheduleReassessmentDeadline existingGeneration with
  | none => false
  | some deadline =>
    !liveReplacement && (states.contains .superseded ||
        ((states ≠ []) && states.all (fun state => state = .completed) && (deadline ≤ now)))

def upsertCursor (s : Store) (projectId taskId revision generation : String)
    (snapshot : Nat) (now : Int) : Store :=
  let materialized :=
    match s.findCursor projectId taskId with
    | some cursor =>
      if cursor.jobGeneration = generation then
        cursor.materializedJobGeneration
      else
        none
    | none => none
  s.withTables (fun tables =>
    { tables with
      cursors :=
        tables.cursors.filter (fun cursor =>
          ¬ (cursor.projectId = projectId ∧ cursor.taskId = taskId)) ++
          [{ projectId := projectId
             taskId := taskId
             snapshotGeneration := snapshot
             decisionRevision := revision
             jobGeneration := generation
             materializedJobGeneration := materialized
             updatedAt := now }] })

def storeActivation (s : Store) (projectId taskId revision generation : String)
    (snapshot : Nat) (changed : Bool) (now : Int) :
    Store × ScheduleActivation :=
  let written := s.upsertCursor projectId taskId revision generation snapshot now
  (written,
    match written.findCursor projectId taskId with
    | some cursor => scheduleCursorFromRow cursor changed true
    | none =>
      { projectId := projectId
        taskId := taskId
        snapshotGeneration := snapshot
        decisionRevision := revision
        jobGeneration := generation
        changed := changed
        accepted := true
        materialized := false })

def staleActivation (projectId taskId revision : String) (snapshot : Nat) : ScheduleActivation where
  projectId := projectId
  taskId := taskId
  snapshotGeneration := snapshot
  decisionRevision := revision
  jobGeneration := "stale"
  changed := false
  accepted := false
  materialized := false

def activateSchedule (s : Store) (projectId taskId revision : String)
    (snapshot : Nat) (nextReassessmentAt : Option Int)
    (protectedAction : Option String) (protectedLanes : List String)
    (now : Int) : Except StoreError (Store × ScheduleActivation) := do
  requiredText projectId "project_id"
  requiredText taskId "task_id"
  requiredText revision "decision_revision"
  positiveGeneration snapshot "snapshot_generation"
  require (protectedAction = none <-> protectedLanes = [])
    (.valueError ("protected_action and protected_scheduling_lanes must be " ++
      "supplied together"))
  let fresh := activationGeneration revision snapshot nextReassessmentAt
  match s.snapshotGenerationIsCurrent snapshot, s.findCursor projectId taskId with
  | false, some existing =>
    return (s, scheduleCursorFromRow existing false false)
  | false, none =>
    return (s, staleActivation projectId taskId revision snapshot)
  | true, none =>
    return s.storeActivation projectId taskId revision fresh snapshot true now
  | true, some existing =>
    if snapshot < existing.snapshotGeneration then
      return (s, scheduleCursorFromRow existing false false)
    else if snapshot = existing.snapshotGeneration then
      require (existing.decisionRevision = revision) (.jobStoreError
          "one snapshot generation produced conflicting decisions")
      return (s, scheduleCursorFromRow existing false true)
    else
      let changed := existing.decisionRevision ≠ revision ∨
        s.recurrenceDue projectId taskId existing.jobGeneration
          (s.hasLiveReplacement projectId taskId protectedAction protectedLanes now) now
      return s.storeActivation projectId taskId revision
        (if changed then fresh else existing.jobGeneration) snapshot changed
        now

/-!
# Reconciliation of one task
-/

structure ScheduleWrite where
  accepted : Bool
  created : Nat := 0
  replayed : Nat := 0
  superseded : Nat := 0
  deriving DecidableEq

def enqueueEach (s : Store) (specs : List (WorkflowJobSpec × String))
    (now : Int) : Except StoreError (Store × List (String × Bool)) :=
  specs.foldlM (fun acc item => do
      let written ← acc.1.enqueueLocked item.1 item.2 true now
      return (written.1, acc.2 ++ [(written.2.1.jobId, written.2.2)]))
    (s, [])

def checkScheduledSpec (projectId taskId generation : String)
    (spec : WorkflowJobSpec) : Except StoreError Unit := do
  require (spec.projectId = projectId ∧ spec.taskId = taskId ∧ spec.generation = generation)
    (.jobStoreError "scheduled job spec escaped its task activation generation")
  require (spec.schedulingLane = "decision") (.jobStoreError
      "decision reconciliation cannot materialize an event lane")

/-- Active managed decision jobs that the activation does not name. -/
def displacedRows (s : Store) (projectId taskId generation : String)
    (keys : List String) : List WorkflowJob :=
  (s.taskRows projectId taskId).filter (fun row =>
    row.workflowManaged ∧ row.isActive ∧ row.spec.schedulingLane = "decision" ∧
      ¬ (row.spec.generation = generation ∧ row.spec.idempotencyKey ∈ keys))

def materializeCursor (s : Store) (projectId taskId generation : String)
    (snapshot : Nat) (now : Int) : Store :=
  s.withTables (fun tables =>
    { tables with
      cursors := tables.cursors.map (fun cursor =>
        if cursor.projectId = projectId ∧ cursor.taskId = taskId ∧
            cursor.snapshotGeneration = snapshot ∧
            cursor.jobGeneration = generation then
          { cursor with
            materializedJobGeneration := some generation
            updatedAt := now }
        else
          cursor) })

def managedAuthorityKind (specs : List (WorkflowJobSpec × String)) :
    AuthorityKind :=
  if specs.isEmpty then .managedZeroJob else .managedDecision

def recordManagedCut (s : Store) (projectId taskId revision : String)
    (snapshot : Nat) (kind : AuthorityKind) (authoritativeJobIds : List String)
    (recordAuthorityCut : Bool) (now : Int) : Except StoreError Store :=
  if recordAuthorityCut then do
    let recorded ← s.recordJobRetirementsLocked projectId taskId kind revision
      (some snapshot) (some true) authoritativeJobIds now
    return recorded.1
  else
    return s

def reconcileMaterialized (s : Store) (projectId taskId generation : String)
    (snapshot : Nat) (cursor : WorkflowScheduleCursor)
    (specs : List (WorkflowJobSpec × String)) (recordAuthorityCut : Bool)
    (reason : String) (now : Int) :
    Except StoreError (Store × ScheduleWrite) := do
  let enqueued ← s.enqueueEach specs now
  let displaced := enqueued.1.displacedRows projectId taskId generation
    (specs.map (fun item => item.1.idempotencyKey))
  let plan := supersedePlan generation reason now
  let fenced := enqueued.1.actEach displaced plan now
  let materialized :=
    fenced.materializeCursor projectId taskId generation snapshot now
  let recorded ← materialized.recordManagedCut projectId taskId
    cursor.decisionRevision snapshot (managedAuthorityKind specs)
    (enqueued.2.map Prod.fst) recordAuthorityCut now
  return (recorded,
    { accepted := true
      created := (enqueued.2.filter (fun written => written.2)).length
      replayed := (enqueued.2.filter (fun written => !written.2)).length
      superseded := plannedCount displaced plan })

def reconcileSchedule (s : Store) (projectId taskId : String) (snapshot : Nat)
    (generation : String) (specs : List (WorkflowJobSpec × String))
    (recordAuthorityCut : Bool) (authorityKind : Option AuthorityKind)
    (reason : String) (now : Int) :
    Except StoreError (Store × ScheduleWrite) := do
  requiredText projectId "project_id"
  requiredText taskId "task_id"
  requiredText generation "job_generation"
  requiredText reason "reason"
  positiveGeneration snapshot "snapshot_generation"
  require (authorityKind.all (fun kind => kind = managedAuthorityKind specs))
    (.valueError "managed authority_kind does not match the scheduled job cut")
  let _ ← specs.mapM (fun item =>
    checkScheduledSpec projectId taskId generation item.1)
  require ((specs.map (fun item => item.1.idempotencyKey)).Nodup)
    (.jobStoreError "scheduled job specs contain duplicate keys")
  match s.findCursor projectId taskId with
  | none => return (s, { accepted := false })
  | some cursor =>
    if s.snapshotGenerationIsCurrent snapshot ∧ cursor.snapshotGeneration = snapshot ∧
        cursor.jobGeneration = generation then
      s.reconcileMaterialized projectId taskId generation snapshot cursor
        specs recordAuthorityCut reason now
    else
      return (s, { accepted := false })

/-!
# Lifecycle-final observations
-/

def recordLifecycleFinalAuthority (s : Store)
    (projectId taskId status : String) (snapshot : Nat) (now : Int) :
    Except StoreError (Store × Nat) := do
  requiredText projectId "project_id"
  requiredText taskId "task_id"
  requiredText status "status"
  require (isLifecycleFinalRevision ("lifecycle-final:" ++ status) = true)
    (.valueError "status must be lifecycle-final (Merged or Archived)")
  positiveGeneration snapshot "snapshot_generation"
  if s.snapshotGenerationIsCurrent snapshot then
    s.recordJobRetirementsLocked projectId taskId .lifecycleFinal
      ("lifecycle-final:" ++ status) (some snapshot) none [] now
  else
    return (s, 0)

/-!
# Snapshot membership
-/

structure MembershipWrite where
  accepted : Bool
  members : Nat := 0
  cursorsRetired : Nat := 0
  jobsSuperseded : Nat := 0
  deriving DecidableEq

def sortedTexts (texts : List String) : List String :=
  texts.dedup.insertionSort (fun a b => a ≤ b)

def activeManagedRows (s : Store) (projectId taskId : String) :
    List WorkflowJob :=
  (s.taskRows projectId taskId).filter (fun row =>
    row.workflowManaged ∧ row.isActive)

/-- Tasks of a project with a cursor, a membership or active managed work. -/
def knownTasks (s : Store) (projectId : String) : List String :=
  (s.tables.cursors.filter (fun cursor => cursor.projectId = projectId)).map
      WorkflowScheduleCursor.taskId ++
    (s.tables.members.filter (fun member => member.projectId = projectId)).map
      SnapshotMember.taskId ++
    (s.jobs.rows.filter (fun row => row.spec.projectId = projectId ∧
      row.workflowManaged ∧ row.isActive)).map (fun row => row.spec.taskId)

def dropCursors (s : Store) (drop : WorkflowScheduleCursor -> Bool) : Store :=
  s.withTables (fun tables =>
    { tables with cursors := tables.cursors.filter (fun cursor => !drop cursor) })

/-- Retire one task absent from an authoritative project. -/
def retireAbsentTask (snapshot : Nat) (projectId : String) (now : Int)
    (acc : Store × Nat × Nat) (taskId : String) : Store × Nat × Nat :=
  let rows := acc.1.activeManagedRows projectId taskId
  let plan := supersedePlan ("snapshot:" ++ toString snapshot)
    "task absent from newer authoritative workflow snapshot" now
  let fenced := acc.1.actEach rows plan now
  let obsolete := fenced.tables.cursors.filter (fun cursor =>
    cursor.projectId = projectId ∧ cursor.taskId = taskId)
  (fenced.dropCursors (fun cursor =>
      cursor.projectId = projectId ∧ cursor.taskId = taskId),
    acc.2.1 + obsolete.length, acc.2.2 + plannedCount rows plan)

def replaceMembers (s : Store) (projectId : String) (members : List SnapshotMember) : Store :=
  s.withTables (fun tables =>
    { tables with
      members := tables.members.filter (fun member =>
        member.projectId ≠ projectId) ++ members })

def reconcileProjectMembership (snapshot : Nat)
    (expected evaluated : List (String × String)) (now : Int)
    (acc : Store × Nat × Nat) (projectId : String) : Store × Nat × Nat :=
  let expectedTasks := sortedTexts
    ((expected.filter (fun identity => identity.1 = projectId)).map Prod.snd)
  let prior := acc.1.tables.members.filter (fun member =>
    member.projectId = projectId)
  let absent := (sortedTexts (acc.1.knownTasks projectId)).filter (fun task =>
    task ∉ expectedTasks)
  let retired :=
    absent.foldl (retireAbsentTask snapshot projectId now) acc
  let members := expectedTasks.map (fun task =>
    { projectId := projectId
      taskId := task
      snapshotGeneration :=
        if (projectId, task) ∈ evaluated then snapshot
        else ((prior.find? (fun member => member.taskId = task)).map
          SnapshotMember.snapshotGeneration).getD snapshot
      updatedAt := now : SnapshotMember })
  (retired.1.replaceMembers projectId members, retired.2)

/-- Both texts of every pair go through `_required_text`. -/
def requiredIdentities (identities : List (String × String)) (kind : String) :
    Except StoreError Unit :=
  identities.forM (fun identity => do
    requiredText identity.1 (kind ++ " project_id")
    requiredText identity.2 (kind ++ " task_id"))

def reconcileSnapshotMembership (s : Store) (snapshot : Nat) (authoritativeProjectIds : List String)
    (expectedIdentities : List (String × String))
    (evaluatedIdentities : Option (List (String × String))) (now : Int) :
    Except StoreError (Store × MembershipWrite) := do
  positiveGeneration snapshot "snapshot_generation"
  require ("" ∉ authoritativeProjectIds) (.valueError "authoritative project_id is required")
  requiredIdentities expectedIdentities "expected"
  requiredIdentities (evaluatedIdentities.getD []) "evaluated"
  let expected := expectedIdentities.dedup
  let evaluated := evaluatedIdentities.getD expected
  require (∀ identity ∈ evaluated, identity ∈ expected)
    (.valueError "evaluated identities escaped expected membership")
  require (∀ identity ∈ expected, identity.1 ∈ authoritativeProjectIds)
    (.valueError ("expected identities escaped authoritative projects: " ++
      ", ".intercalate (sortedTexts ((expected.map Prod.fst).filter
        (fun projectId => projectId ∉ authoritativeProjectIds)))))
  if s.snapshotGenerationIsCurrent snapshot then
    let written := (sortedTexts authoritativeProjectIds).foldl
      (reconcileProjectMembership snapshot expected evaluated now) (s, 0, 0)
    return (written.1,
      { accepted := true
        members := expected.length
        cursorsRetired := written.2.1
        jobsSuperseded := written.2.2 })
  else
    return (s, { accepted := false })

/-!
# Decision windows
-/

def allocateDecisionWindow (s : Store) (total limit : Nat)
    (snapshot : Option Nat) (scope : Option String) :
    Except StoreError (Store × Option Nat) := do
  require (1 ≤ total) (.valueError "total must be a positive integer")
  boundedLimit limit
  let key := match scope with
    | none => "workflow_decision_window_offset"
    | some scope => "workflow_decision_window_offset:" ++ scope
  if snapshot.all s.snapshotGenerationIsCurrent then
    let offset := (((s.tables.decisionWindows.find? (fun window =>
      window.1 = key)).map Prod.snd).getD 0) % total
    let next := (offset + min limit total) % total
    return (s.withTables (fun tables =>
      { tables with
        decisionWindows := tables.decisionWindows.filter (fun window =>
          window.1 ≠ key) ++ [(key, next)] }), some offset)
  else
    return (s, none)

end Store
end WorkflowJobs
end Oompah
