import Oompah.WorkflowJobs.Snapshot

/-!
# The implementation controller

Imperative events and fact-derived decisions are written to two lanes of one
task, and both are ordered in one namespace.  `schedule_event` takes its source
generation in one transaction and writes its event in a second one.
-/

namespace Oompah
namespace ImplementationWorkflow

open Foundation WorkflowJobs

/-!
# Events
-/

inductive ImplementationAction where
  | start
  | directOwnerClaim
  | duplicateScreening
  | focusHandoff
  | workerExit
  | validationSubmission
  | authorityRevocation
  | retry
  | recovery
  deriving DecidableEq

namespace ImplementationAction

def value : ImplementationAction -> String
  | start => "implementation_start"
  | directOwnerClaim => "direct_owner_claim"
  | duplicateScreening => "duplicate_screening"
  | focusHandoff => "focus_handoff"
  | workerExit => "worker_exit"
  | validationSubmission => "validation_submission"
  | authorityRevocation => "authority_revocation"
  | retry => "implementation_retry"
  | recovery => "implementation_recovery"

theorem value_nonempty (action : ImplementationAction) : action.value ≠ "" := by
  cases action <;> decide

/-- `IMPLEMENTATION_ACTIONS`. -/
def values : List String :=
  [start, directOwnerClaim, duplicateScreening, focusHandoff, workerExit,
    validationSubmission, authorityRevocation, retry, recovery].map value

end ImplementationAction

def factImplementationLane : String := "event:implementation:fact"
def imperativeImplementationLane : String := "event:implementation:imperative"
def directOwnerRevocationLanePrefix : String :=
  "event:implementation:direct-owner-revocation"
def implementationOrderingNamespace : String := "implementation-decision"
def directOwnerRevocationOrderingPrefix : String :=
  "implementation-direct-owner-revocation"

/-- `_optional_text`. -/
def presentText (text : Option String) : Option String :=
  text.filter (fun text => text ≠ "")

/-- The task whose events are scheduled, as `_required_text` admits it. -/
structure TaskRef where
  projectId : String
  taskId : String
  projectId_nonempty : projectId ≠ ""
  taskId_nonempty : taskId ≠ ""

/-- The arguments of `schedule_event` besides the task. -/
structure ImplementationEvent where
  action : ImplementationAction
  payload : JsonObject := []
  expectedEvidenceRevision : Option String := none
  expectedHeadSha : Option String := none
  priority : Int := 100
  maxAttempts : Int := 5
  maxAttempts_pos : 1 ≤ maxAttempts := by decide

namespace ImplementationEvent

variable (event : ImplementationEvent)

def directOwnerRevocation : Bool :=
  event.action = .authorityRevocation ∧
    Store.optionalText event.payload "authority_kind" = some "direct_owner"

def directOwnerClaimId : String :=
  (Store.optionalText event.payload "claim_id").getD "absent"

def head : Option String :=
  (presentText event.expectedHeadSha).or (Store.optionalText event.payload "head_sha")

def schedulingLane : String :=
  if event.directOwnerRevocation then
    directOwnerRevocationLanePrefix ++ ":" ++ event.directOwnerClaimId
  else
    imperativeImplementationLane

def orderingNamespace : String :=
  if event.directOwnerRevocation then
    directOwnerRevocationOrderingPrefix ++ ":" ++ event.directOwnerClaimId
  else
    implementationOrderingNamespace

end ImplementationEvent

/-- What `_event_revision` digests. -/
structure EventIdentity where
  projectId : String
  taskId : String
  action : String
  payload : JsonObject
  expectedEvidenceRevision : Option String
  expectedHeadSha : Option String
  deriving DecidableEq

/-- A fact-derived disposition of one task. -/
structure FactDisposition where
  action : ImplementationAction
  payload : JsonObject := []
  expectedEvidenceRevision : String
  expectedHeadSha : Option String := none
  deriving DecidableEq

/-- What one evaluated cut says about the task. -/
structure FactDecision where
  sourceRevision : String
  disposition : Option FactDisposition
  deriving DecidableEq

inductive ScheduleError where
  | store (error : StoreError)
  | runtimeError (message : String)
  deriving DecidableEq

/-!
# The controller
-/

/-- `eventRevision` is the digest of an event, which is never an empty text. -/
structure ImplementationWorkflowController where
  eventRevision : EventIdentity -> String
  eventRevision_nonempty : forall identity, eventRevision identity ≠ ""

namespace ImplementationWorkflowController

variable (controller : ImplementationWorkflowController) (task : TaskRef)

def identity (event : ImplementationEvent) : EventIdentity where
  projectId := task.projectId
  taskId := task.taskId
  action := event.action.value
  payload := event.payload
  expectedEvidenceRevision := presentText event.expectedEvidenceRevision
  expectedHeadSha := event.head

def revision (event : ImplementationEvent) : String :=
  controller.eventRevision (identity task event)

def eventRequest (event : ImplementationEvent) (sourceGeneration : Nat) : Store.EventRequest where
  projectId := task.projectId
  taskId := task.taskId
  decisionRevision := controller.revision task event
  action := event.action.value
  idempotencyNamespace := "implementation"
  schedulingLane := some event.schedulingLane
  ordering := some (event.orderingNamespace, sourceGeneration)
  sourceRevision := some (controller.revision task event)
  supersedeSchedulingLanes :=
    if event.directOwnerRevocation then [] else [factImplementationLane]
  payload := some event.payload
  expectedEvidenceRevision := presentText event.expectedEvidenceRevision
  expectedHeadSha := event.head
  priority := event.priority
  maxAttempts := event.maxAttempts
  reason := "superseded by a newer implementation event"

/-- The second transaction of `schedule_event`, and what the call then returns. -/
def materialize (s : Store) (event : ImplementationEvent) (sourceGeneration : Nat)
    (newJobId : String) (now : Int) : Store × Except ScheduleError WorkflowJob :=
  match s.materializeEvent (controller.eventRequest task event sourceGeneration)
      newJobId now with
  | .error error => (s, .error (.store error))
  | .ok (after, write) =>
    match write.job with
    | some job => (after, .ok job)
    | none =>
      (after, .error (.runtimeError "imperative implementation event was not accepted"))

def factRequest (sourceRevision : String) (disposition : FactDisposition)
    (sourceGeneration : Nat) : Store.EventRequest where
  projectId := task.projectId
  taskId := task.taskId
  decisionRevision := controller.eventRevision
    { projectId := task.projectId
      taskId := task.taskId
      action := disposition.action.value
      payload := disposition.payload
      expectedEvidenceRevision := presentText (some disposition.expectedEvidenceRevision)
      expectedHeadSha := presentText disposition.expectedHeadSha }
  action := disposition.action.value
  idempotencyNamespace := "implementation"
  schedulingLane := some factImplementationLane
  ordering := some (implementationOrderingNamespace, sourceGeneration)
  sourceRevision := some sourceRevision
  protectedSchedulingLanes := [imperativeImplementationLane]
  payload := some disposition.payload
  expectedEvidenceRevision := some disposition.expectedEvidenceRevision
  expectedHeadSha := disposition.expectedHeadSha
  reason := "superseded by a newer implementation decision"

/-- What `reconcile_evaluated` writes for the task. -/
def reconcileDecision (s : Store) (decision : FactDecision) (sourceGeneration : Nat)
    (newJobId : String) (now : Int) : Except StoreError (Store × Store.EventWrite) :=
  match decision.disposition with
  | none =>
    s.retireEventLane task.projectId task.taskId factImplementationLane
      implementationOrderingNamespace sourceGeneration decision.sourceRevision
      "retired by a newer implementation decision" now
  | some disposition =>
    s.materializeEvent (controller.factRequest task decision.sourceRevision disposition
        sourceGeneration) newJobId now

/-- The retirement that follows a decision behind a live imperative event. -/
def reconcileHandoff (s : Store) (now : Int) : Except StoreError (Store × Nat) :=
  s.reconcileEventHandoffRetirements task.projectId task.taskId
    [imperativeImplementationLane] [factImplementationLane]
    ImplementationAction.values now

end ImplementationWorkflowController

/-!
# Interleaved calls
-/

/-- A call of `schedule_event` that holds its source generation. -/
structure ScheduledCall where
  event : ImplementationEvent
  generation : Nat

structure Answer where
  call : ScheduledCall
  response : Except ScheduleError WorkflowJob
  /-- The store that the second transaction of the call left. -/
  after : Store
  /-- A call with a later generation had been materialized. -/
  overtaken : Bool

def Answer.returned (answer : Answer) : Bool :=
  answer.response.isOk

/--
One transaction.  A pass reads its generation from the store or is given one, so
that a decision may carry any; worker transactions change rows that exist.
-/
inductive Transaction where
  | allocate (event : ImplementationEvent)
  | materialize (position : Nat) (newJobId : String) (now : Int)
  | allocatePass
  | allocateScan
  | reconcile (decision : FactDecision) (generation : Nat) (newJobId : String) (now : Int)
  | handoff (now : Int)
  | work (jobId : String) (action : RowAction)

structure Interleaving where
  store : Store := {}
  calls : List ScheduledCall := []
  answers : List Answer := []

namespace Interleaving

variable (controller : ImplementationWorkflowController) (task : TaskRef)

def isOvertaken (x : Interleaving) (call : ScheduledCall) : Bool :=
  x.answers.any (fun answer => answer.returned && call.generation < answer.call.generation)

def written (x : Interleaving) {α : Type} (result : Except StoreError (Store × α)) :
    Interleaving :=
  match result with
  | .error _ => x
  | .ok (store, _) => { x with store := store }

def answer (x : Interleaving) (call : ScheduledCall) (newJobId : String) (now : Int) : Answer where
  call := call
  response := (controller.materialize task x.store call.event call.generation newJobId now).2
  after := (controller.materialize task x.store call.event call.generation newJobId now).1
  overtaken := x.isOvertaken call

def step (x : Interleaving) : Transaction -> Interleaving
  | .allocate event =>
    { x with
      store := x.store.allocateEventGeneration.1
      calls := x.calls ++ [{ event := event
                             generation := x.store.allocateEventGeneration.2 }] }
  | .materialize position newJobId now =>
    match x.calls[position]? with
    | none => x
    | some call =>
      { store := (x.answer controller task call newJobId now).after
        calls := x.calls.eraseIdx position
        answers := x.answers ++ [x.answer controller task call newJobId now] }
  | .allocatePass => { x with store := x.store.allocateEventGeneration.1 }
  | .allocateScan => { x with store := x.store.allocateSnapshotGeneration.1 }
  | .reconcile decision generation newJobId now =>
    x.written (controller.reconcileDecision task x.store decision generation newJobId now)
  | .handoff now =>
    x.written (ImplementationWorkflowController.reconcileHandoff task x.store now)
  | .work jobId action => { x with store := x.store.act jobId action }

end Interleaving
end ImplementationWorkflow
end Oompah
