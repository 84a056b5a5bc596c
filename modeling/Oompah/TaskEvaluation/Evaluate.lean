import Oompah.TaskEvaluation.IntegrationGate
import Oompah.TaskEvaluation.Landing
import Oompah.TaskEvaluation.Review
import Oompah.TaskEvaluation.Rollup

/-!
# The evaluator

One decision for a task and one snapshot of the facts.  A snapshot that is not of the
task, a final status, a fact of another task or status, a marker and a direct maintenance
helper are answered before the status of the task is looked at.
-/

namespace Oompah
namespace TaskEvaluation

open Foundation
open TaskTransitions (Status)

section Evaluate

variable (rt : Runtime)

/-- The snapshot is of another task or project. -/
def identityMismatch (view : TaskView) (facts : WorkflowFacts) : Bool :=
  view.taskId != facts.taskId || (view.projectId != "" && view.projectId != facts.projectId)

/-- A merged task whose recorded landing is in the facts. -/
def exactLanding (task : Task) (view : TaskView) (facts : WorkflowFacts) : Bool :=
  view.status == .canonical .merged &&
    (terminalLandingIdentity rt task).any fun (source, target, revision) =>
      facts.landings.any fun item =>
        item.state = .landed && item.durable && item.source = source && item.target = target &&
          item.revision = some revision

/-- The identifier that the task fact names. -/
def factIdentifier (taskValue : Mapping) : String :=
  rt.str (((taskValue.get "identifier").orElse (taskValue.get "task_id")).orElse (.str ""))

def factProject (facts : WorkflowFacts) (taskValue : Mapping) : String :=
  rt.str ((taskValue.get "project_id").orElse (.str facts.projectId))

/-- The answer before anything but the task fact is read, when there is one. -/
def identityDecision (task : Task) (view : TaskView) (facts : WorkflowFacts) :
    Option (Except PyError Answer) :=
  if identityMismatch view facts then
    some (answer {
        disposition := .actionRequired
        reasonCode := .evidenceProjectOrTaskMismatch
        owner := some .operator
        actions := [.resolveOperatorAction]
        alert := .warning }
      [unmet "evidence.identity_mismatch" view.taskId none])
  else if view.status.lifecycleFinal then
    -- a final status does not regress because a snapshot is missing
    some (answer {
        disposition := .terminal
        reasonCode :=
          if exactLanding rt task view facts then .terminalPreserveVerifiedMerged
          else .terminalFinal
        owner := some .none
        reassess := false } [])
  else
    match (facts.fact .task).knownMapping with
    | none => some (factWait facts .task view.status.owner .recoverImplementation .factsRefresh)
    | some taskValue =>
      let identifier := factIdentifier rt taskValue
      let project := factProject rt facts taskValue
      let status := canonicalizeStatus rt (taskValue.get "status")
      if identifier ≠ facts.taskId ∨ project ≠ facts.projectId then
        some (answer {
            disposition := .actionRequired
            reasonCode := .evidenceTaskFactIdentityMismatch
            owner := some .operator
            actions := [.resolveOperatorAction]
            alert := .warning }
          [unmet "evidence.task_fact_identity_mismatch"
            (if identifier = "" then "missing" else identifier) (some project)])
      else if status ≠ view.status then
        some (answer {
            disposition := .retryScheduled
            reasonCode := .evidenceTaskStatusMismatch
            actions := [.recoverImplementation]
            alert := .info
            durableJobs := [.factsRefresh] }
          [unmet "evidence.status_changed" view.taskId (some status.text)])
      else
        match view.status with
        | .canonical _ => terminalProvenanceDecision rt view facts
        | .custom text =>
          some (answer {
              disposition := .actionRequired
              reasonCode := .workflowUnknownStatus
              owner := some .operator
              actions := [.resolveOperatorAction]
              alert := .warning }
            [unmet "workflow.unknown_status" text none])

/-!
# Direct maintenance
-/

/-- The integration record, when it is known and not empty. -/
def integrationRecord (facts : WorkflowFacts) : Option Mapping :=
  (facts.fact .integration).knownMapping.filter fun value => !value.isEmpty

/-- Nothing shows that the parent of a published helper has its branch. -/
def parentConvergenceUnproven (status : Status) (facts : WorkflowFacts) : Bool :=
  let rebased := (facts.fact .config).knownMapping.map fun value =>
    value.get "direct_epic_maintenance_parent_rebased"
  rebased.any Value.isFalse || (status = .done && !rebased.any Value.isTrue)

/-- The statuses in which a published helper is completed. -/
def completionStatuses : List Status :=
  [.open, .needsCiFix, .needsRebase, .inValidation, .readyToIntegrate, .done]

/-- The answer for a direct maintenance helper, when there is one. -/
def maintenanceDecision (task : Task) (status : Status) (facts : WorkflowFacts) :
    Except PyError (Option (Except PyError Answer)) :=
  match integrationRecord facts with
  | none => .ok none
  | some record => do
      let helper <- isDirectEpicMaintenanceIssue rt task
      let handoffReady := helper && handoffEvidence rt task record
      let completionReady := helper && completionEvidence rt task record
      let unproven := handoffReady && parentConvergenceUnproven status facts
      if status ∈ completionStatuses ∧
          (completionReady || unproven || (status = .readyToIntegrate && handoffReady)) = true then
        .ok (some (answer {
            disposition := .retryScheduled
            reasonCode := .maintenancePublicationCompletionPending
            owner := some .integrator
            actions := [.reconcileTarget]
            durableJobs := [.directEpicMaintenanceCompletion] } []))
      else if status = .done ∧ handoffReady = true then
        .ok (some (answer {
            disposition := .terminal
            reasonCode := .maintenancePublicationProven
            owner := some .none
            reassess := false } []))
      else .ok none

/-!
# Dispatch
-/

/-- The statuses whose dependencies have to be known. -/
def dependencySensitive : List Status :=
  [.open, .needsCiFix, .needsRebase, .readyToIntegrate]

/-- Who waits for the dependencies. -/
def dependencyOwner (status : Status) : WorkflowOwner :=
  if status = .readyToIntegrate then .integrator else (TaskStatus.canonical status).owner

/-- A dependency list that is no sequence. -/
def dependenciesMalformed (value : Option Mapping) : Bool :=
  match value with
  | none => true
  | some value =>
    ["finish", "hard_start"].any fun key => (value.getD key (.tuple [])).sequence?.isNone

/-- The answer while the dependencies are not known, when there is one. -/
def dependencyGate (status : Status) (facts : WorkflowFacts) : Option (Except PyError Answer) :=
  let observation := facts.fact .dependencies
  if status ∈ dependencySensitive then
    if observation.state ≠ .known then
      some (factWait facts .dependencies (dependencyOwner status) .waitDependency
        .dependencyRefresh)
    else if dependenciesMalformed observation.value.mapping? then
      some (answer {
          disposition := .retryScheduled
          reasonCode := .evidenceDependenciesMalformed
          owner := some (dependencyOwner status)
          actions := [.waitDependency]
          alert := .info
          durableJobs := [.dependencyRefresh] }
        [unmet "evidence.malformed" "dependencies" none])
    else none
  else none

/-- The recorded text of the pending action. -/
def pendingActionText (configValue : Option Mapping) : String :=
  rt.clean ((configValue.getD []).get "implementation_pending_action")

/-- A recorded handoff of a helper is ready. -/
def handoffReady (task : Task) (facts : WorkflowFacts) : Except PyError Bool :=
  match integrationRecord facts with
  | none => .ok false
  | some record => directEpicMaintenanceHandoffReady rt task record

/-- The answer for an open task and for one that needs a repair. -/
def dispatchDecision (task : Task) (status : Status) (facts : WorkflowFacts)
    (hardStart : List UnmetPrerequisite) : Except PyError Answer := do
  let ready <- handoffReady rt task facts
  let configValue := (facts.fact .config).knownMapping
  let duplicateState := rt.cleanLower ((configValue.getD []).get "duplicate_screening_state")
  let pending := pendingActionText rt configValue
  let recoveryState := submissionRecoveryState rt configValue
  let repair := status = .needsCiFix || status = .needsRebase
  if ready then
    answer {
        disposition := .owned
        reasonCode := .maintenancePublicationProven
        owner := some .auditor
        actions := [.claimAudit]
        durableJobs := [.terminalAuditDone]
        recommendedStatus := some .inValidation } []
  else if status = .open && duplicateState == "running" then
    answer {
        disposition := .owned
        reasonCode := .duplicateInvestigating
        owner := some .duplicateInvestigator
        actions := [.investigateDuplicate] } []
  else if pending = "validation_submission" then
    answer {
        disposition := .retryScheduled
        reasonCode := .implementationActionScheduled
        owner := some .dispatcher
        actions := [.reconcileImplementation]
        alert := .info
        durableJobs := [.validationSubmission] } []
  else if startsWith "accepted_submission_" recoveryState then
    answer {
        disposition := .blocked
        reasonCode := .implementationSubmissionRecoveryParked
        owner := some .dispatcher
        actions := [.reconcileImplementation]
        alert := .info }
      [unmet "implementation.submission_recovery_parked" recoveryState none]
  else if hardStart ≠ [] then
    answer {
        disposition := .blocked
        reasonCode := .dispatchDependenciesBlocked
        actions := [.waitDependency] }
      (hardStart.map .ok)
  else if status = .open && pending == "duplicate_screening" then
    answer {
        disposition := .retryScheduled
        reasonCode := .duplicateRecoveryScheduled
        owner := some .duplicateInvestigator
        actions := [.investigateDuplicate]
        alert := .info
        durableJobs := [.duplicateScreening] } []
  else if status = .open && pending == "worker_exit" then
    answer {
        disposition := .retryScheduled
        reasonCode := .implementationActionScheduled
        owner := some .dispatcher
        actions := [.reconcileImplementation]
        alert := .info
        durableJobs := [.workerExit] } []
  else
    answer {
        disposition := .runnable
        reasonCode := .dispatchEligible
        owner := if repair then some .repairWorker else some .dispatcher
        actions := if repair then [.claimRepair] else [.claimImplementation]
        durableJobs := [.implementationStart] } []

/-- Someone investigates the duplicate. -/
def investigationLive (facts : WorkflowFacts) (now : Instant) : Except PyError Bool :=
  match (facts.fact .duplicateInvestigation).knownMapping with
  | none => .ok false
  | some value => liveWork rt value now

/-- The answer by the live work on a duplicate. -/
def investigationDecision (facts : WorkflowFacts) (now : Instant) : Except PyError Answer := do
  let live <- investigationLive rt facts now
  if live then
    answer {
        disposition := .owned
        reasonCode := .duplicateInvestigating
        owner := some .duplicateInvestigator
        actions := [.investigateDuplicate] } []
  else
    answer {
        disposition := .retryScheduled
        reasonCode := .duplicateRecoveryScheduled
        owner := some .duplicateInvestigator
        actions := [.investigateDuplicate]
        alert := .info
        durableJobs := [.duplicateScreening] } []

/-- The answer for a duplicate candidate. -/
def duplicateDecision (facts : WorkflowFacts) (now : Instant) : Except PyError Answer :=
  let configValue := (facts.fact .config).knownMapping
  if pendingActionText rt configValue = "worker_exit" then
    answer {
        disposition := .retryScheduled
        reasonCode := .implementationActionScheduled
        owner := some .dispatcher
        actions := [.reconcileImplementation]
        alert := .info
        durableJobs := [.workerExit] } []
  else if rt.cleanLower ((configValue.getD []).get "duplicate_screening_state") == "checked" &&
      rt.cleanLower ((configValue.getD []).get "duplicate_screening_verdict") ==
        "duplicate_candidate" then
    answer {
        disposition := .actionRequired
        reasonCode := .duplicateConfirmed
        owner := some .projectOwner
        actions := [.resolveOperatorAction]
        alert := .warning } []
  else if configValue.any fun value => (value.get "duplicate_screening_enabled").isFalse then
    answer {
        disposition := .actionRequired
        reasonCode := .duplicateScreeningDisabled
        owner := some .operator
        actions := [.resolveOperatorAction]
        alert := .warning } []
  else investigationDecision rt facts now

/-- The answer by the status of the task. -/
def statusDecision (task : Task) (view : TaskView) (status : Status) (facts : WorkflowFacts)
    (now : Instant) (finish hardStart : List UnmetPrerequisite) : Except PyError Answer :=
  match status with
  | .proposed =>
    answer {
        disposition := .blocked
        reasonCode := .intakeAwaitingDecision
        owner := some .intake
        actions := [.acceptIntake] } []
  | .backlog =>
    answer {
        disposition := .blocked
        reasonCode := .prioritizationAwaitingOwner
        owner := some .projectOwner
        actions := [.promoteOpen] } []
  | .open | .needsCiFix | .needsRebase => dispatchDecision rt task status facts hardStart
  | .inProgress => implementationDecision rt facts now
  | .needsAnswer =>
    answer {
        disposition := .actionRequired
        reasonCode := .requestorAnswerRequired
        owner := some .requestor
        actions := [.answerRequest]
        alert := .warning } []
  | .needsHuman =>
    answer {
        disposition := .actionRequired
        reasonCode := .operatorActionRequired
        owner := some .operator
        actions := [.resolveOperatorAction]
        alert := .warning } []
  | .inReview => reviewDecision rt view facts
  | .inValidation => validationDecision rt facts now
  | .readyToIntegrate => integrationDecision rt view facts now finish hardStart
  | .decomposed => rollupDecision rt view facts
  | .duplicateCandidate => duplicateDecision rt facts now
  | .done => landingDecision rt view facts
  | .merged | .archived => .error .assertionError

/-- An epic that is not done is answered by its children. -/
def rollsUp (view : TaskView) (status : Status) : Bool :=
  rt.lower view.issueType == "epic" && status ≠ .done

/-- The answer once the task fact agrees with the task. -/
def contractDecision (task : Task) (view : TaskView) (status : Status) (facts : WorkflowFacts)
    (now : Instant) : Except PyError Answer := do
  let maintenance <- maintenanceDecision rt task status facts
  match maintenance with
  | some given => given
  | none =>
    if rollsUp rt view status then rollupDecision rt view facts
    else
      match dependencyGate status facts with
      | some given => given
      | none => do
          let (finish, hardStart) <- prerequisites rt facts
          statusDecision rt task view status facts now finish hardStart

/-- The answer to a task. -/
def taskAnswer (task : Task) (view : TaskView) (facts : WorkflowFacts) (now : Instant) :
    Except PyError Answer :=
  match identityDecision rt task view facts with
  | some given => given
  | none =>
    match view.status with
    | .canonical status => contractDecision rt task view status facts now
    | .custom _ => .error .assertionError

/-- `_evaluate_task_default_policy`. -/
def evaluateTaskDefaultPolicy (task : Task) (facts : WorkflowFacts) (now : Option Instant) :
    Except PyError WorkDecision := do
  let view <- taskView rt task
  let given <- taskAnswer rt task view facts (now.getD facts.collectedAt)
  decision rt view facts given

/-- `evaluate_task`: a due time is computed again by the policy of the service. -/
def evaluateTask (task : Task) (facts : WorkflowFacts) (now : Option Instant)
    (policy : LivenessPolicy) : Except PyError WorkDecision := do
  let d <- evaluateTaskDefaultPolicy rt task facts now
  match d.nextReassessmentAt, d.status.sloKey with
  | some _, some key => do
      let due <- deadline facts.collectedAt (policy.maxReassessmentSeconds key)
      .ok { d with nextReassessmentAt := some due }
  | _, _ => .ok d

end Evaluate
end TaskEvaluation
end Oompah
