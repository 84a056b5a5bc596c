import Oompah.WorkflowJobs.Schedule

/-!
# Event lanes

Imperative workflow owners outside the decision lane: ordered enqueue with
replacement of one lane, semantic events with their cursor, authorized rearms,
and the retirement of lanes behind a newer event.
-/

namespace Oompah
namespace WorkflowJobs

open Foundation

namespace Store

structure EventWrite where
  job : Option WorkflowJob
  accepted : Bool
  created : Bool
  superseded : Nat
  deriving DecidableEq

def rejectedWrite : EventWrite where
  job := none
  accepted := false
  created := false
  superseded := 0

def findOrdering (s : Store) (projectId taskId orderingNamespace : String) :
    Option EventOrdering :=
  s.tables.eventOrdering.find? (fun ordering =>
    ordering.projectId = projectId ∧ ordering.taskId = taskId ∧
      ordering.orderingNamespace = orderingNamespace)

def upsertOrdering (s : Store) (projectId taskId orderingNamespace decisionRevision : String)
    (sourceGeneration : Nat) (now : Int) : Store :=
  s.withTables (fun tables =>
    { tables with
      eventOrdering :=
        tables.eventOrdering.filter (fun ordering =>
          ¬ (ordering.projectId = projectId ∧ ordering.taskId = taskId ∧
            ordering.orderingNamespace = orderingNamespace)) ++
          [{ projectId := projectId
             taskId := taskId
             orderingNamespace := orderingNamespace
             sourceGeneration := sourceGeneration
             decisionRevision := decisionRevision
             updatedAt := now }] })

def findEventCursor (s : Store) (projectId taskId eventNamespace : String) :
    Option WorkflowEventCursor :=
  s.tables.eventCursors.find? (fun cursor =>
    cursor.projectId = projectId ∧ cursor.taskId = taskId ∧ cursor.eventNamespace = eventNamespace)

def activeLaneRows (s : Store) (projectId taskId : String)
    (lanes : List String) : List WorkflowJob :=
  (s.taskRows projectId taskId).filter (fun row =>
    row.spec.schedulingLane ∈ lanes ∧ row.isActive)

/-!
# Replacing one lane
-/

def optionalText (object : JsonObject) (key : String) : Option String :=
  match object.get key with
  | some (JsonValue.scalar text) => if text = "" then none else some text
  | _ => none

/--
The one monotonic identity upgrade allowed at an unchanged source generation:
a durable legacy job whose payload differs only by the acquired binding.
-/
def validBindingUpgrade (s : Store) (spec : WorkflowJobSpec)
    (observedRevision : String) (bindingUpgradeFrom : Option String) : Bool :=
  let payload := spec.payload.getD []
  let incoming := (payload.pop "selected_ref").pop "selected_sha"
  bindingUpgradeFrom = some observedRevision && (optionalText payload "selected_ref").isSome &&
    (optionalText payload "selected_sha").isSome &&
    (s.taskRows spec.projectId spec.taskId).any (fun row =>
      row.spec.schedulingLane = spec.schedulingLane ∧ row.spec.action = spec.action ∧
        row.spec.generation = observedRevision ∧
        row.spec.expectedEvidenceRevision = spec.expectedEvidenceRevision ∧
        row.spec.payload.getD [] = incoming)

def retireManagedForAudit (s : Store) (spec : WorkflowJobSpec)
    (retireManagedExhaustion : Bool) (now : Int) : Except StoreError Store :=
  if retireManagedExhaustion then do
    let recorded ← s.recordJobRetirementsLocked spec.projectId spec.taskId
      .terminalAuditHandoff spec.generation none (some true) [] now
    return recorded.1
  else
    return s

/-- A delayed source generation keeps its row but never becomes active. -/
def enqueueStale (s : Store) (spec : WorkflowJobSpec) (newJobId : String)
    (observedRevision : String) (now : Int) :
    Except StoreError (Store × EventWrite) := do
  let written ← s.enqueueLocked spec newJobId false now
  let job := written.2.1
  if job.isActive ∧ job.phase ≠ "quarantined" ∧ job.spec.generation ≠ observedRevision then
    let action := RowAction.supersede observedRevision "stale terminal-audit source generation" now
    let event := supersededEvent observedRevision "stale terminal-audit source generation"
    return (written.1.actLogged job action event now,
      { job := some (action.apply job)
        accepted := false
        created := written.2.2
        superseded := 1 })
  else
    return (written.1,
      { job := some job
        accepted := false
        created := written.2.2
        superseded := if job.state = .superseded then 1 else 0 })

def replaceLane (s : Store) (spec : WorkflowJobSpec) (newJobId : String)
    (sourceGeneration : Nat) (retireManagedExhaustion : Bool)
    (reason : String) (now : Int) :
    Except StoreError (Store × EventWrite) := do
  let ordered := s.upsertOrdering spec.projectId spec.taskId
    spec.schedulingLane spec.generation sourceGeneration now
  let written ← ordered.enqueueLocked spec newJobId false now
  let rows := (written.1.activeLaneRows spec.projectId spec.taskId
    [spec.schedulingLane]).filter (fun row => row.jobId ≠ written.2.1.jobId)
  let plan := supersedePlan spec.generation reason now
  let fenced := written.1.actEach rows plan now
  let result ← fenced.rowLocked written.2.1.jobId
  let retired ← fenced.retireManagedForAudit spec retireManagedExhaustion now
  return (retired,
    { job := some result
      accepted := true
      created := written.2.2
      superseded := plannedCount rows plan })

def enqueueReplacingLane (s : Store) (spec : WorkflowJobSpec)
    (newJobId : String) (sourceGeneration : Nat)
    (requireSourceAdvance retireManagedExhaustion : Bool)
    (bindingUpgradeFrom : Option String) (reason : String) (now : Int) :
    Except StoreError (Store × EventWrite) := do
  positiveGeneration sourceGeneration "source_generation"
  require (bindingUpgradeFrom = none ∨ spec.action = "terminal_audit") (.valueError
      "terminal-audit binding upgrades require a terminal_audit spec")
  requiredText reason "reason"
  match s.findOrdering spec.projectId spec.taskId spec.schedulingLane with
  | none =>
    if requireSourceAdvance ∧ sourceGeneration ≤ 1 then
      return (s, rejectedWrite)
    else
      s.replaceLane spec newJobId sourceGeneration retireManagedExhaustion reason now
  | some ordered =>
    if requireSourceAdvance ∧ sourceGeneration ≤ ordered.sourceGeneration then
      match s.findIdempotent spec.projectId spec.idempotencyKey with
      | none => return (s, rejectedWrite)
      | some existing =>
        if sourceGeneration = ordered.sourceGeneration ∧ existing.spec = spec then do
          let retired ← s.retireManagedForAudit spec retireManagedExhaustion now
          return (retired,
            { job := some existing
              accepted := true
              created := false
              superseded := 0 })
        else
          return (s, rejectedWrite)
    else if sourceGeneration < ordered.sourceGeneration then
      s.enqueueStale spec newJobId ordered.decisionRevision now
    else do
      require (sourceGeneration ≠ ordered.sourceGeneration ∨
          ordered.decisionRevision = spec.generation ∨
          s.validBindingUpgrade spec ordered.decisionRevision bindingUpgradeFrom = true)
        (.jobStoreError ("one terminal-audit source generation produced " ++
          "conflicting evidence"))
      s.replaceLane spec newJobId sourceGeneration retireManagedExhaustion reason now

/-!
# Rearm
-/

def rearmExhaustedJob (s : Store) (jobId generation phase reason : String)
    (now : Int) : Except StoreError (Store × WorkflowJob) := do
  requiredText jobId "job_id"
  requiredText generation "generation"
  requiredText phase "phase"
  requiredText reason "reason"
  let row ← s.rowLocked jobId
  require (row.spec.generation = generation)
    (.jobStoreError "workflow job generation does not match")
  if row.isActive then
    return (s, row)
  else do
    require (row.state = .completed ∨ row.state = .exhausted) (.jobStoreError
        ("workflow job is not rearmable from " ++ row.state.value))
    let action := RowAction.rearm phase now
    let rearmed := (s.act jobId action).dropRetirements (fun retirement =>
      retirement.jobId = jobId)
    return (rearmed.appendEvent (action.apply row) ⟨"rearmed", [("reason", .text reason)]⟩ now,
      action.apply row)

/-!
# Semantic events
-/

structure EventRequest where
  projectId : String
  taskId : String
  decisionRevision : String
  action : String
  idempotencyNamespace : String
  schedulingLane : Option String := none
  ordering : Option (String × Nat) := none
  sourceRevision : Option String := none
  supersedeSchedulingLanes : List String := []
  protectedSchedulingLanes : List String := []
  payload : Option JsonObject := none
  expectedEvidenceRevision : Option String := none
  expectedHeadSha : Option String := none
  priority : Int := 100
  maxAttempts : Int := 5
  reason : String := "superseded by a newer workflow event"
  deriving DecidableEq

namespace EventRequest

def lane (request : EventRequest) : String :=
  request.schedulingLane.getD ("event:" ++ request.idempotencyNamespace)

def orderingRevision (request : EventRequest) : String :=
  request.sourceRevision.getD request.decisionRevision

def key (request : EventRequest) (generation : String) : String :=
  request.idempotencyNamespace ++ ":" ++ request.decisionRevision ++ ":" ++ generation

def check (request : EventRequest) : Except StoreError Unit := do
  requiredText request.projectId "project_id"
  requiredText request.taskId "task_id"
  requiredText request.decisionRevision "decision_revision"
  requiredText request.action "action"
  requiredText request.idempotencyNamespace "idempotency_namespace"
  requiredText request.lane "scheduling_lane"
  requiredText request.reason "reason"
  require (request.ordering.all (fun ordering => ordering.1 ≠ "") = true)
    (.valueError "ordering_namespace is required")
  require (request.sourceRevision ≠ some "") (.valueError "source_revision is required")
  require ("" ∉ request.supersedeSchedulingLanes)
    (.valueError "supersede_scheduling_lane is required")
  require ("" ∉ request.protectedSchedulingLanes)
    (.valueError "protected_scheduling_lane is required")
  require (request.ordering.all (fun ordering => 1 ≤ ordering.2) = true)
    (.valueError "source_generation must be a positive integer")

end EventRequest

inductive EventOrder where
  | settled (write : EventWrite)
  | proceed (store : Store) (sourceAdvanced : Bool)

/-- The exact current activation of an equal event. -/
def currentActivation (s : Store) (request : EventRequest) :
    Option WorkflowJob :=
  match s.findEventCursor request.projectId request.taskId request.lane with
  | none => none
  | some cursor =>
    if cursor.eventRevision = request.decisionRevision then
      s.findIdempotent request.projectId (request.key cursor.eventGeneration)
    else
      none

def orderEvent (s : Store) (request : EventRequest) (now : Int) :
    Except StoreError EventOrder :=
  match request.ordering with
  | none => .ok (.proceed s false)
  | some (orderingNamespace, sourceGeneration) =>
    let advance := s.upsertOrdering request.projectId request.taskId
      orderingNamespace request.orderingRevision sourceGeneration now
    match s.findOrdering request.projectId request.taskId
      orderingNamespace with
    | none => .ok (.proceed advance false)
    | some ordered =>
      if sourceGeneration < ordered.sourceGeneration then
        if ordered.decisionRevision = request.orderingRevision then
          match s.currentActivation request with
          | some current =>
            .ok (.settled
              { job := some current
                accepted := true
                created := false
                superseded := 0 })
          | none => .ok (.settled rejectedWrite)
        else
          .ok (.settled rejectedWrite)
      else if sourceGeneration = ordered.sourceGeneration ∧
          ordered.decisionRevision ≠ request.orderingRevision then
        .error (.jobStoreError "one event snapshot produced conflicting decisions")
      else
        .ok (.proceed advance (ordered.sourceGeneration < sourceGeneration))

def protectedRow (s : Store) (request : EventRequest) : Option WorkflowJob :=
  (s.activeLaneRows request.projectId request.taskId request.protectedSchedulingLanes).getLast?

def sameProtectedEvent (request : EventRequest) (row : WorkflowJob) : Bool :=
  row.spec.action = request.action ∧ row.spec.payload = request.payload ∧
    row.spec.expectedHeadSha = request.expectedHeadSha

/-- The event generation: kept for a live equal event, otherwise fresh. -/
def eventGenerationFor (s : Store) (request : EventRequest) (sourceAdvanced : Bool) : String :=
  let fresh := request.decisionRevision ++ ":" ++ toString (s.tables.eventSequence + 1)
  match s.findEventCursor request.projectId request.taskId request.lane with
  | none => fresh
  | some cursor =>
    if cursor.eventRevision ≠ request.decisionRevision then
      fresh
    else if sourceAdvanced ∧ ¬ (s.findIdempotent request.projectId
          (request.key cursor.eventGeneration)).any WorkflowJob.isActive then
      fresh
    else
      cursor.eventGeneration

def upsertEventCursor (s : Store) (request : EventRequest)
    (generation : String) (now : Int) : Store :=
  s.withTables (fun tables =>
    { tables with
      eventSequence := tables.eventSequence + 1
      eventCursors :=
        tables.eventCursors.filter (fun cursor =>
          ¬ (cursor.projectId = request.projectId ∧ cursor.taskId = request.taskId ∧
            cursor.eventNamespace = request.lane)) ++
          [{ projectId := request.projectId
             taskId := request.taskId
             eventNamespace := request.lane
             eventRevision := request.decisionRevision
             eventGeneration := generation
             eventSequence := tables.eventSequence + 1
             updatedAt := now }] })

def eventSpec (request : EventRequest) (generation : String) :
    Except StoreError WorkflowJobSpec :=
  if h : 1 ≤ request.maxAttempts then
    .ok
      { projectId := request.projectId
        taskId := request.taskId
        generation := generation
        action := request.action
        idempotencyKey := request.key generation
        payload := request.payload
        schedulingLane := request.lane
        expectedEvidenceRevision := request.expectedEvidenceRevision
        expectedHeadSha := request.expectedHeadSha
        priority := request.priority
        maxAttempts := request.maxAttempts
        maxAttempts_pos := h }
  else
    .error (.valueError "max_attempts must be a positive integer")

def retireSupersededLanes (s : Store) (request : EventRequest)
    (generation : String) (enqueueSequence : Nat) (now : Int) :
    Except StoreError Store :=
  if request.supersedeSchedulingLanes = [] then
    return s
  else do
    let recorded ← s.recordEventHandoffRetirementsLocked request.projectId
      request.taskId generation request.lane enqueueSequence
      request.supersedeSchedulingLanes now
    return recorded.1

def materializeOrdered (s : Store) (request : EventRequest)
    (newJobId : String) (sourceAdvanced : Bool) (now : Int) :
    Except StoreError (Store × EventWrite) := do
  let generation := s.eventGenerationFor request sourceAdvanced
  let spec ← eventSpec request generation
  let written ← (s.upsertEventCursor request generation now).enqueueLocked spec newJobId false now
  let rows := (written.1.activeLaneRows request.projectId request.taskId
    (request.lane :: "decision" :: request.supersedeSchedulingLanes)).filter
    (fun row => ¬ (row.spec.generation = generation ∧
      row.spec.idempotencyKey = spec.idempotencyKey))
  let plan := supersedePlan generation request.reason now
  let fenced := written.1.actEach rows plan now
  let result ← fenced.rowLocked written.2.1.jobId
  let retired ← fenced.retireSupersededLanes request generation written.2.1.enqueueSequence now
  return (retired,
    { job := some result
      accepted := true
      created := written.2.2
      superseded := plannedCount rows plan })

def materializeEvent (s : Store) (request : EventRequest) (newJobId : String)
    (now : Int) : Except StoreError (Store × EventWrite) := do
  request.check
  match (← s.orderEvent request now) with
  | .settled write => return (s, write)
  | .proceed ordered sourceAdvanced =>
    match ordered.protectedRow request with
    | some row =>
      return (ordered,
        { job := if sameProtectedEvent request row then some row else none
          accepted := true
          created := false
          superseded := 0 })
    | none =>
      ordered.materializeOrdered request newJobId sourceAdvanced now

/-!
# Ordering without a job
-/

/-- A retry that already holds a verification finishes its transition. -/
def retireLanePlan (replacement reason : String) (now : Int)
    (row : WorkflowJob) : Option (RowAction × Option LoggedEvent) :=
  if row.state = .retryWait ∧
      (JsonObject.getMapping (row.checkpoint.getD []) "verification").isSome then
    none
  else
    some (.supersede replacement reason now, some (supersededEvent replacement reason))

def retireEventLane (s : Store) (projectId taskId schedulingLane orderingNamespace : String)
    (sourceGeneration : Nat) (decisionRevision reason : String) (now : Int) :
    Except StoreError (Store × EventWrite) := do
  requiredText projectId "project_id"
  requiredText taskId "task_id"
  requiredText schedulingLane "scheduling_lane"
  requiredText orderingNamespace "ordering_namespace"
  requiredText decisionRevision "decision_revision"
  requiredText reason "reason"
  positiveGeneration sourceGeneration "source_generation"
  let ordered := s.findOrdering projectId taskId orderingNamespace
  if ordered.any (fun ordered => sourceGeneration < ordered.sourceGeneration) then
    return (s, rejectedWrite)
  else do
    require
      (ordered.all (fun ordered =>
        sourceGeneration ≠ ordered.sourceGeneration ∨
          ordered.decisionRevision = decisionRevision) = true)
      (.jobStoreError "one event snapshot produced conflicting decisions")
    let advanced := s.upsertOrdering projectId taskId orderingNamespace
      decisionRevision sourceGeneration now
    let rows := (advanced.taskRows projectId taskId).filter (fun row =>
      (row.spec.schedulingLane = schedulingLane ∨ row.spec.schedulingLane = "decision") ∧
        (row.state = .queued ∨ row.state = .retryWait))
    let plan := retireLanePlan ("decision:" ++ toString sourceGeneration ++ ":" ++ decisionRevision)
      reason now
    return (advanced.actEach rows plan now,
      { job := none
        accepted := true
        created := false
        superseded := plannedCount rows plan })

def activateEventOrder (s : Store)
    (projectId taskId orderingNamespace : String) (sourceGeneration : Nat)
    (decisionRevision : String) (now : Int) :
    Except StoreError (Store × Bool) := do
  requiredText projectId "project_id"
  requiredText taskId "task_id"
  requiredText orderingNamespace "ordering_namespace"
  requiredText decisionRevision "decision_revision"
  positiveGeneration sourceGeneration "source_generation"
  let advanced := s.upsertOrdering projectId taskId orderingNamespace
    decisionRevision sourceGeneration now
  match s.findOrdering projectId taskId orderingNamespace with
  | none => return (advanced, true)
  | some existing =>
    if sourceGeneration < existing.sourceGeneration then
      return (s, false)
    else if sourceGeneration = existing.sourceGeneration then
      require (existing.decisionRevision = decisionRevision)
        (.jobStoreError "one event snapshot produced conflicting decisions")
      return (s, true)
    else
      return (advanced, true)

/-- The newest unmanaged job its own event cursor still names. -/
def eventAuthority (s : Store) (projectId taskId : String)
    (authorityLanes actions : List String) : Option WorkflowJob :=
  ((s.taskRows projectId taskId).filter (fun job =>
    ¬ job.workflowManaged ∧ job.spec.schedulingLane ∈ authorityLanes ∧
      job.spec.action ∈ actions ∧ ¬ isWithdrawn job ∧
      s.tables.eventCursors.any (fun cursor =>
        cursor.projectId = projectId ∧ cursor.taskId = taskId ∧
          cursor.eventNamespace = job.spec.schedulingLane ∧
          cursor.eventGeneration = job.spec.generation))).getLast?

def reconcileEventHandoffRetirements (s : Store) (projectId taskId : String)
    (authorityLanes retiredLanes actions : List String) (now : Int) :
    Except StoreError (Store × Nat) := do
  requiredText projectId "project_id"
  requiredText taskId "task_id"
  require (authorityLanes ≠ []) (.valueError "authority_scheduling_lanes cannot be empty")
  require (retiredLanes ≠ []) (.valueError "retired_scheduling_lanes cannot be empty")
  require (actions ≠ []) (.valueError "actions cannot be empty")
  match s.eventAuthority projectId taskId authorityLanes actions with
  | none => return (s, 0)
  | some authority =>
    s.recordEventHandoffRetirementsLocked projectId taskId
      authority.spec.generation authority.spec.schedulingLane
      authority.enqueueSequence retiredLanes now

end Store
end WorkflowJobs
end Oompah
