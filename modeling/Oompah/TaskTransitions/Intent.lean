import Oompah.TaskTransitions.Lifecycle

/-!
# Transition intents

What a transition intent, a tracker issue and a journaled outcome hold, and the
predicates on them that choose a lane.

An absent text is `none`.  The digest `issue_authority_version` takes of an
issue is a field of the issue, as is the answer of
`direct_epic_maintenance_handoff_ready` on its integration record.
-/

namespace Oompah
namespace TaskTransitions

/-!
# Intents
-/

inductive TransitionAuthority where
  | projectOwner
  | orchestrator
  | worker
  | auditor
  | integrator
  | watchdog
  | api
  | system
  deriving DecidableEq

/-- Two intents with equal revisions are equal: the digest covers every field. -/
structure TransitionIntent where
  projectId : String
  taskId : String
  expectedStatus : Status
  expectedVersion : String
  requestedStatus : Status
  actor : String
  authority : TransitionAuthority
  reasonCode : String
  idempotencyKey : String
  originatingJob : String
  evidenceGeneration : Option String := none
  exactHead : Option String := none
  preconditionRevision : Option String := none
  deriving DecidableEq

/-- The key of a task claim. -/
structure TaskKey where
  projectId : String
  taskId : String
  deriving DecidableEq

def TransitionIntent.key (intent : TransitionIntent) : TaskKey where
  projectId := intent.projectId
  taskId := intent.taskId

def startsWith (text pre : String) : Bool :=
  pre.toList.isPrefixOf text.toList

/-- `_is_authorized_recovery_intent`. -/
def isAuthorizedRecoveryIntent (intent : TransitionIntent) : Bool :=
  (intent.authority = .auditor && startsWith intent.reasonCode "audit." &&
    intent.reasonCode ≠ "audit.owner_override_recovered") ||
  (intent.authority = .projectOwner && intent.reasonCode ∈ ["audit.owner_override_recovered",
      "provenance.owner_revision_authorized"]) ||
  (intent.authority = .system && (startsWith intent.reasonCode "intake." ||
    (intent.reasonCode = "maintenance.container_cycle_restored" &&
      intent.expectedStatus = .needsHuman &&
      intent.requestedStatus = .readyToIntegrate) ||
    (intent.reasonCode = "maintenance.unlanded_done_child_recovered" &&
      intent.expectedStatus = .done && intent.requestedStatus = .needsHuman) ||
    (intent.reasonCode = "maintenance.landed_done_child_restored" &&
      intent.expectedStatus = .needsHuman && intent.requestedStatus = .done)))

/-- `_is_direct_owner_claim_intent`. -/
def isDirectOwnerClaimIntent (intent : TransitionIntent) : Bool :=
  intent.expectedStatus = .backlog && intent.requestedStatus = .inProgress

/-- `_is_validation_submission_intent`. -/
def isValidationSubmissionIntent (intent : TransitionIntent) : Bool :=
  intent.expectedStatus ∈ [Status.open, .inProgress, .needsCiFix, .needsRebase] &&
    intent.requestedStatus = .readyToIntegrate &&
    intent.reasonCode = "implementation.validation_submission"

/-!
# Issues
-/

/-- A tracker issue; a status that is not canonical is `none`. -/
structure Issue where
  identifier : String
  projectId : String := ""
  parentId : String := ""
  issueType : String := "task"
  state : Option Status
  authorityVersion : String
  assignmentId : Option String := none
  headSha : Option String := none
  integrationHead : Option String := none
  reviewHead : Option String := none
  description : String := ""
  handoffReady : Bool := false
  deriving DecidableEq

namespace Issue

/-- `issue_exact_head`. -/
def exactHead (issue : Issue) : Option String :=
  issue.headSha.or (issue.integrationHead.or issue.reviewHead)

/-- An issue without a project belongs to the project of the service. -/
def inProject (issue : Issue) (projectId : String) : Issue :=
  if issue.projectId = "" then { issue with projectId := projectId } else issue

@[simp]
theorem inProject_state (issue : Issue) (projectId : String) :
    (issue.inProject projectId).state = issue.state := by
  unfold inProject
  split <;> rfl

@[simp]
theorem inProject_authorityVersion (issue : Issue) (projectId : String) :
    (issue.inProject projectId).authorityVersion = issue.authorityVersion := by
  unfold inProject
  split <;> rfl

/-- The issue once a status write went through. -/
def withStatus (issue : Issue) (status : Status) (version : String) : Issue :=
  { issue with state := some status, authorityVersion := version }

end Issue

/-- `rollup_authority_generation`; the children are in the order of their ids. -/
def rollupAuthorityGeneration (parent : Issue) (children : List Issue) : String :=
  parent.authorityVersion ++ "[" ++ String.intercalate ","
    (children.map (fun child => child.identifier ++ "=" ++ child.authorityVersion))
    ++ "]"

/-- A lane of `_guarded_landing_revision_lane` takes the landing head. -/
def guardedLandingRevisionLane (intent : TransitionIntent) (issue : Issue) :
    Bool :=
  if intent.exactHead = none || issue.exactHead ≠ none || intent.requestedStatus ≠ .merged ||
      intent.reasonCode ≠ "terminal.immediate_target_landing_proven" ||
      intent.preconditionRevision = none || intent.evidenceGeneration = none then
    false
  else if issue.state = some .done && intent.authority = .integrator && issue.parentId ≠ "" then
    true
  else
    issue.state = some .inProgress && intent.authority = .orchestrator &&
      issue.parentId = "" && issue.issueType = "epic"

/-!
# Outcomes
-/

inductive TransitionPhase where
  | requested
  | waiting
  | applying
  | verifyPending
  | retryScheduled
  | applied
  | recovered
  | staged
  | rejected
  deriving DecidableEq

/-- `FINAL_PHASES`. -/
def TransitionPhase.isFinal : TransitionPhase -> Bool
  | applied | recovered | staged | rejected => true
  | requested | waiting | applying | verifyPending | retryScheduled => false

inductive TransitionDisposition where
  | applied
  | alreadyApplied
  | staged
  | recovered
  | waiting
  | retryable
  | rejected
  deriving DecidableEq

/-- A value in the details of an outcome. -/
inductive Detail where
  | text (value : String)
  | status (value : Status)
  | transition (id : Nat)
  | phase (value : Option TransitionPhase)
  | time (value : Int)
  | absent
  deriving DecidableEq

structure TransitionOutcome where
  transitionId : Option Nat
  projectId : String
  taskId : String
  disposition : TransitionDisposition
  reasonCode : String
  observedStatus : Option Status := none
  observedVersion : Option String := none
  requestedStatus : Status
  appliedStatus : Option Status := none
  auditId : Option String := none
  retryable : Bool := false
  replayed : Bool := false
  details : List (String × Detail) := []
  deriving DecidableEq

structure TerminalStageResult where
  success : Bool
  auditId : Option String := none
  reasonCode : String := "transition.terminal_staged"
  detail : Option String := none
  deriving DecidableEq

/-- `_outcome`. -/
def outcomeOf (transitionId : Nat) (intent : TransitionIntent)
    (disposition : TransitionDisposition) (reasonCode : String)
    (issue : Option Issue) : TransitionOutcome where
  transitionId := some transitionId
  projectId := intent.projectId
  taskId := intent.taskId
  disposition := disposition
  reasonCode := reasonCode
  observedStatus := issue.bind Issue.state
  observedVersion := issue.map Issue.authorityVersion
  requestedStatus := intent.requestedStatus

end TaskTransitions
end Oompah
