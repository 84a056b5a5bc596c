import Oompah.Foundation.Program
import Oompah.TaskTransitions.Journal

/-!
# The transition service

The sagas of `execute` and `recover_authorized` as programs over the journal,
the tracker and the terminal adapter.  Every `await` is a request that can be
answered with an exception or with a cancellation.
-/

namespace Oompah
namespace TaskTransitions

open Foundation

/-- The configuration of a service; its locks cover one commit request each. -/
structure TaskTransitionService where
  projectId : String
  hasTerminalAdapter : Bool := true
  hasDirectOwnerClaimGuard : Bool := false
  hasMutationGuard : Bool := false
  hasDirectOwnerRetirementGuard : Bool := false
  claimTtlSeconds : Int := 300
  ttl_positive : 0 < claimTtlSeconds := by decide

/-!
# Commit lanes
-/

/-- What a guard callable does; an empty text is no conflict. -/
inductive GuardAnswer where
  | raised
  | text (reason : String)
  deriving DecidableEq

structure CommitResult where
  issue : Option Issue
  conflict : Option String := none
  retryable : Bool := false
  detail : Option String := none
  deriving DecidableEq

def GuardAnswer.conflict (answer : GuardAnswer) (failure : String) : Option String × Bool :=
  match answer with
  | raised => (some failure, true)
  | text reason => (if reason = "" then none else some reason, false)

/-- The checks both guarded lanes make of the issue they read. -/
def commitFenceConflict (intent : TransitionIntent) (issue : Issue) :
    Option String :=
  if issue.projectId ≠ "" ∧ issue.projectId ≠ intent.projectId then
    some "transition.project_mismatch"
  else if issue.state ≠ some intent.expectedStatus then
    some "transition.stale_status"
  else if issue.authorityVersion ≠ intent.expectedVersion then
    some "transition.stale_version"
  else
    none

/-- `_direct_owner_commit_conflict`. -/
def directOwnerCommitConflict (service : TaskTransitionService)
    (intent : TransitionIntent) (issue : Option Issue) (claimGuard : GuardAnswer) :
    Option String × Bool :=
  match issue with
  | none => (some "transition.task_missing", false)
  | some issue =>
    match commitFenceConflict intent issue with
    | some conflict => (some conflict, false)
    | none =>
      if intent.authority ∉ [.projectOwner, .api] then
        (some "transition.project_owner_authority_required", false)
      else if intent.authority = .projectOwner ∧
          intent.reasonCode ≠ "implementation.direct_owner_claim" then
        (some "transition.direct_owner_claim_authority_required", false)
      else if issue.description = "" then
        (some "transition.actionable_description_required", false)
      else if intent.authority = .projectOwner then
        if service.hasDirectOwnerClaimGuard then
          claimGuard.conflict "transition.owner_claim_validation_failed"
        else
          (some "transition.owner_claim_authority_unavailable", false)
      else
        (none, false)

/-- `_guarded_commit_conflict`. -/
def guardedCommitConflict (service : TaskTransitionService)
    (intent : TransitionIntent) (issue : Option Issue)
    (mutationGuard retirementGuard : GuardAnswer) :
    Option String × Bool × Option String :=
  match issue with
  | none => (some "transition.task_missing", false, none)
  | some issue =>
    match commitFenceConflict intent issue with
    | some conflict => (some conflict, false, none)
    | none =>
      if intent.evidenceGeneration ≠ none ∧ issue.assignmentId ≠ none ∧
          intent.evidenceGeneration ≠ issue.assignmentId then
        (some "transition.generation_mismatch", false, none)
      else if intent.exactHead ≠ none ∧ issue.exactHead ≠ intent.exactHead ∧
          guardedLandingRevisionLane intent issue = false then
        (some (if issue.exactHead = none then "transition.head_missing"
          else "transition.head_mismatch"), false, none)
      else
        match service.hasMutationGuard, mutationGuard with
        | true, .raised =>
          (some "transition.mutation_guard_failed", true, none)
        | true, .text detail =>
          if detail ≠ "" then
            (some "transition.stale_precondition", false, some detail)
          else retirement
        | false, _ => retirement
where
  retirement : Option String × Bool × Option String :=
    if service.hasDirectOwnerRetirementGuard then
      let conflict := retirementGuard.conflict "transition.owner_retirement_persistence_failed"
      (conflict.1, conflict.2, none)
    else
      (none, false, none)

/-!
# Requests
-/

inductive Raised where
  | exception (errorType : String)
  | journal (error : JournalError)
  | cancelled
  deriving DecidableEq

namespace Raised

/-- `CancelledError` is no `Exception`. -/
def isException : Raised -> Bool
  | cancelled => false
  | exception _ | journal _ => true

/-- `type(exc).__name__`. -/
def typeName : Raised -> String
  | exception errorType => errorType
  | journal .keyError => "KeyError"
  | journal (.valueError _) => "ValueError"
  | journal (.corruption _) => "TransitionJournalCorruptionError"
  | journal (.journal _) => "TransitionJournalError"
  | cancelled => "CancelledError"

end Raised

/-- An exception with the local `outcome` it leaves behind. -/
structure Failure where
  raised : Raised
  outcome : Option TransitionOutcome := none
  deriving DecidableEq

inductive Request where
  | begin_ (intent : TransitionIntent) (leaseTtlSeconds : Int)
  | append (transitionId : Nat) (phase : TransitionPhase) (reasonCode : String)
      (outcome : Option TransitionOutcome)
  | release (key : TaskKey) (claimToken : Nat)
  | expireForRetry (key : TaskKey) (claimToken : Nat)
  | fetch (key : TaskKey)
  | fetchChildren (parent : Issue)
  | stage (intent : TransitionIntent) (issue : Issue)
  | update (intent : TransitionIntent)
  | commitDirectOwner (intent : TransitionIntent)
  | commitGuarded (intent : TransitionIntent)
  deriving DecidableEq

abbrev Answer : Request -> Type
  | .begin_ _ _ => BeginResult
  | .append _ _ _ _ => Unit
  | .release _ _ => Bool
  | .expireForRetry _ _ => Bool
  | .fetch _ => Option Issue
  | .fetchChildren _ => List Issue
  | .stage _ _ => TerminalStageResult
  | .update _ => Unit
  | .commitDirectOwner _ => CommitResult
  | .commitGuarded _ => CommitResult

abbrev Saga := Program Request Answer Failure

namespace Saga

def ask (r : Request) : Saga (Answer r) :=
  Program.perform r

def raise {α : Type} (failure : Failure) : Saga α :=
  Program.raise failure

def journalFailure (text : String) : Failure where
  raised := .journal (.journal text)

/-- `except Exception`: the value or the exception it was left with. -/
def attempt {α : Type} (saga : Saga α) : Saga (Except Failure α) :=
  Program.tryCatch (saga >>= fun value => pure (.ok value)) (fun failure =>
    if failure.raised.isException then pure (.error failure) else raise failure)

/-- `_try_fetch`. -/
def tryFetch (service : TaskTransitionService) (taskId : String) :
    Saga (Except Failure (Option Issue)) :=
  do
    let found <- attempt (ask (.fetch { projectId := service.projectId, taskId := taskId }))
    pure (found.map (Option.map (fun issue => issue.inProject service.projectId)))

/-- `latest, _ = await self._try_fetch(...)`. -/
def fetchLatest (service : TaskTransitionService) (taskId : String) : Saga (Option Issue) := do
  match <- tryFetch service taskId with
  | .ok latest => pure latest
  | .error _ => pure none

/-- Assign the local `outcome`, journal it and return it. -/
def conclude (transitionId : Nat) (phase : TransitionPhase)
    (outcome : TransitionOutcome) : Saga TransitionOutcome := do
  Program.tryCatch (ask (.append transitionId phase outcome.reasonCode (some outcome)))
    (fun failure => raise { failure with outcome := some outcome })
  pure outcome

end Saga

open Saga

/-!
# Conclusions

The checks between the read and the tracker write; the first one that applies
gives the event and its outcome.  Past the stale checks the observed status is
the expected one.
-/

abbrev Conclusion := TransitionPhase × TransitionOutcome

def rejection (transitionId : Nat) (intent : TransitionIntent)
    (reasonCode : String) (issue : Option Issue)
    (details : List (String × Detail)) : Conclusion :=
  (.rejected,
    { outcomeOf transitionId intent .rejected reasonCode issue with
      details := details })

def retry (transitionId : Nat) (intent : TransitionIntent)
    (reasonCode : String) (issue : Option Issue)
    (details : List (String × Detail)) : Conclusion :=
  (.retryScheduled,
    { outcomeOf transitionId intent .retryable reasonCode issue with
      retryable := true
      details := details })

/-- Phases after which a terminal stage may have happened. -/
def stageRecoveryPhases : List TransitionPhase :=
  [.applying, .verifyPending, .retryScheduled]

/-- The checks of the ordinary lane up to the legal edge. -/
def fenceConclusion (transitionId : Nat) (intent : TransitionIntent)
    (previousPhase : Option TransitionPhase) (issue : Issue) :
    Option Conclusion :=
  if issue.projectId ≠ "" ∧ issue.projectId ≠ intent.projectId then
    some (rejection transitionId intent "transition.project_mismatch" (some issue) [])
  else if issue.state = some intent.requestedStatus then
    some (.recovered,
      { outcomeOf transitionId intent .alreadyApplied "transition.already_applied"
          (some issue) with
        appliedStatus := some intent.requestedStatus })
  else if intent.requestedStatus.isTerminalTarget = true ∧ issue.state = some .inValidation ∧
      (previousPhase.any (fun phase => phase ∈ stageRecoveryPhases)) = true then
    some (.recovered,
      { outcomeOf transitionId intent .recovered
          "transition.terminal_stage_recovered" (some issue) with
        appliedStatus := some .inValidation })
  else if issue.state ≠ some intent.expectedStatus then
    some (rejection transitionId intent "transition.stale_status" (some issue)
      [("expected_status", .status intent.expectedStatus)])
  else if issue.authorityVersion ≠ intent.expectedVersion then
    some (rejection transitionId intent "transition.stale_version" (some issue)
      [("expected_version", .text intent.expectedVersion)])
  else if intent.requestedStatus = .inValidation then
    some (rejection transitionId intent "transition.audit_staging_required" (some issue) [])
  else if transitionRule intent.expectedStatus intent.requestedStatus = none ∧
      (intent.requestedStatus.isTerminalTarget = false ∨
        transitionRule intent.expectedStatus .inValidation = none) then
    some (rejection transitionId intent "transition.illegal_edge" (some issue) [])
  else
    none

/-- The checks of `_recover_authorized_claimed`. -/
def compensationConclusion (transitionId : Nat) (intent : TransitionIntent)
    (issue : Issue) : Option Conclusion :=
  if issue.projectId ≠ "" ∧ issue.projectId ≠ intent.projectId then
    some (rejection transitionId intent "transition.project_mismatch" (some issue) [])
  else if issue.state = some intent.requestedStatus then
    some (.recovered,
      { outcomeOf transitionId intent .alreadyApplied "transition.already_applied"
          (some issue) with
        appliedStatus := some intent.requestedStatus })
  else if issue.state ≠ some intent.expectedStatus then
    some (rejection transitionId intent "transition.stale_status" (some issue)
      [("expected_status", .status intent.expectedStatus)])
  else if issue.authorityVersion ≠ intent.expectedVersion then
    some (rejection transitionId intent "transition.stale_version" (some issue)
      [("expected_version", .text intent.expectedVersion)])
  else
    none

def isEpicRollup (intent : TransitionIntent) : Bool :=
  intent.reasonCode = "rollup.epic_children_reconciled"

/-- The rollup checks; only a system rollup reads the children. -/
def rollupConclusion (transitionId : Nat) (intent : TransitionIntent)
    (issue : Issue) : Saga (Option Conclusion) :=
  if isEpicRollup intent = false then
    pure none
  else if intent.authority ≠ .system then
    pure (some (rejection transitionId intent
      "transition.rollup_authority_required" (some issue) []))
  else do
    match <- attempt (ask (.fetchChildren issue)) with
    | .error failure =>
      pure (some (retry transitionId intent "transition.rollup_lineage_unavailable" (some issue)
        [("error_type", .text failure.raised.typeName)]))
    | .ok [] =>
      pure (some (rejection transitionId intent
        "transition.rollup_authority_required" (some issue) []))
    | .ok children =>
      let observed := rollupAuthorityGeneration issue children
      if intent.evidenceGeneration ≠ some observed then
        pure (some (rejection transitionId intent
          "transition.rollup_generation_mismatch" (some issue)
          [("observed_rollup_generation", .text observed)]))
      else
        pure none

/-- The requirements of the direct edge and of the staging edge. -/
def edgeRequirements (intent : TransitionIntent) : List TransitionRequirement :=
  (transitionRule intent.expectedStatus intent.requestedStatus).getD [] ++
    (if intent.requestedStatus.isTerminalTarget then
      (transitionRule intent.expectedStatus .inValidation).getD []
    else [])

def optionalText : Option String -> Detail
  | some text => .text text
  | none => .absent

/-- The authority and evidence checks that end the ordinary lane's checks. -/
def evidenceConclusion (transitionId : Nat) (intent : TransitionIntent)
    (issue : Issue) : Option Conclusion :=
  let systemRollup := isEpicRollup intent && intent.authority = .system
  if intent.expectedStatus = .open ∧ intent.requestedStatus = .done ∧
      (intent.authority ≠ .auditor ∨ intent.reasonCode ≠ "maintenance.publication_proven" ∨
        issue.handoffReady = false) then
    some (rejection transitionId intent
      "transition.maintenance_audit_authority_required" (some issue) [])
  else if intent.expectedStatus = .backlog ∧ intent.requestedStatus = .inProgress ∧
      intent.authority ∉ [.projectOwner, .api] then
    some (rejection transitionId intent
      "transition.project_owner_authority_required" (some issue) [])
  else if intent.expectedStatus = .open ∧ intent.requestedStatus = .readyToIntegrate ∧
      (intent.authority ≠ .orchestrator ∨ isValidationSubmissionIntent intent = false) then
    some (rejection transitionId intent
      "transition.validation_submission_authority_required" (some issue) [])
  else if .implementationGeneration ∈ edgeRequirements intent ∧
      intent.evidenceGeneration = none then
    some (rejection transitionId intent "transition.generation_required" (some issue) [])
  else if intent.evidenceGeneration ≠ none ∧ issue.assignmentId ≠ none ∧
      intent.evidenceGeneration ≠ issue.assignmentId ∧ systemRollup = false then
    some (rejection transitionId intent "transition.generation_mismatch"
      (some issue) [("observed_generation", optionalText issue.assignmentId)])
  else if (.acceptedSubmission ∈ edgeRequirements intent ∨
        .landingEvidence ∈ edgeRequirements intent) ∧
      intent.exactHead = none then
    some (rejection transitionId intent "transition.head_required" (some issue) [])
  else if intent.exactHead ≠ none ∧ issue.exactHead ≠ intent.exactHead ∧
      guardedLandingRevisionLane intent issue = false then
    some (rejection transitionId intent (if issue.exactHead = none then "transition.head_missing"
        else "transition.head_mismatch")
      (some issue) [("observed_head", optionalText issue.exactHead)])
  else
    none

/-!
# Writes
-/

/-- The terminal lane after the `applying` event. -/
def stageTerminal (service : TaskTransitionService) (transitionId : Nat)
    (intent : TransitionIntent) (issue : Issue) : Saga TransitionOutcome :=
  if service.hasTerminalAdapter = false then
    let (phase, outcome) := retry transitionId intent
      "transition.terminal_service_unavailable" (some issue) []
    conclude transitionId phase outcome
  else do
    match <- attempt (ask (.stage intent issue)) with
    | .error failure =>
      let latest <- fetchLatest service intent.taskId
      if latest.bind Issue.state = some .inValidation then
        conclude transitionId .recovered
          { outcomeOf transitionId intent .recovered
              "transition.terminal_stage_recovered" latest with
            appliedStatus := some .inValidation }
      else
        let (phase, outcome) := retry transitionId intent
          "transition.terminal_stage_failed" (latest.or (some issue))
          [("error_type", .text failure.raised.typeName)]
        conclude transitionId phase outcome
    | .ok staged =>
      let latest <- fetchLatest service intent.taskId
      if staged.success = false then
        let (phase, outcome) :=
          if staged.reasonCode = "transition.delivery_mutation_in_progress" then
            retry transitionId intent staged.reasonCode (latest.or (some issue))
              [("detail", optionalText staged.detail)]
          else
            rejection transitionId intent staged.reasonCode
              (latest.or (some issue)) [("detail", optionalText staged.detail)]
        conclude transitionId phase outcome
      else if latest.bind Issue.state ≠ some .inValidation then
        conclude transitionId .verifyPending
          { outcomeOf transitionId intent .retryable
              "transition.terminal_verify_pending" (latest.or (some issue)) with
            auditId := staged.auditId
            retryable := true }
      else
        conclude transitionId .staged
          { outcomeOf transitionId intent .staged staged.reasonCode latest with
            appliedStatus := some .inValidation
            auditId := staged.auditId }

/-- The conflict event of a guarded lane, or nothing after its write. -/
def commitConclusion (transitionId : Nat) (intent : TransitionIntent)
    (issue : Issue) (result : CommitResult) :
    Saga (Option TransitionOutcome) :=
  match result.conflict with
  | none => pure none
  | some conflict => do
      let details := match result.detail with
        | some detail => [("detail", Detail.text detail)]
        | none => []
      let (phase, outcome) :=
        (if result.retryable then retry else rejection) transitionId intent
          conflict (result.issue.or (some issue)) details
      let outcome <- conclude transitionId phase outcome
      pure (some outcome)

/-- The commit of the ordinary lane. -/
def commitUpdate (service : TaskTransitionService) (transitionId : Nat)
    (intent : TransitionIntent) (issue : Issue) :
    Saga (Option TransitionOutcome) :=
  if isDirectOwnerClaimIntent intent then do
    let result <- ask (.commitDirectOwner intent)
    commitConclusion transitionId intent issue result
  else if isValidationSubmissionIntent intent ∧
      (service.hasMutationGuard ∨ service.hasDirectOwnerRetirementGuard) then do
    let result <- ask (.commitGuarded intent)
    commitConclusion transitionId intent issue result
  else do
    ask (.update intent)
    pure none

/-- The unguarded `_update` of the compensation lane. -/
def compensateUpdate (intent : TransitionIntent) : Saga (Option TransitionOutcome) := do
  ask (.update intent)
  pure none

/-- What both lanes do once the write was attempted. -/
def verifyCommit (service : TaskTransitionService) (transitionId : Nat)
    (intent : TransitionIntent) (issue : Issue)
    (commit : Saga (Option TransitionOutcome)) : Saga TransitionOutcome := do
  match <- attempt commit with
  | .error failure =>
    Program.tryCatch (do
        let latest <- fetchLatest service intent.taskId
        if latest.bind Issue.state = some intent.requestedStatus then
          conclude transitionId .recovered
            { outcomeOf transitionId intent .recovered
                "transition.effect_recovered" latest with
              appliedStatus := some intent.requestedStatus }
        else
          let (phase, outcome) := retry transitionId intent
            "transition.tracker_write_failed" (latest.or (some issue))
            [("error_type", .text failure.raised.typeName)]
          conclude transitionId phase outcome)
      (fun later =>
        raise { later with outcome := later.outcome.or failure.outcome })
  | .ok (some outcome) => pure outcome
  | .ok none =>
    let latest <- fetchLatest service intent.taskId
    if latest.bind Issue.state ≠ some intent.requestedStatus then
      conclude transitionId .verifyPending
        { outcomeOf transitionId intent .retryable "transition.verify_pending"
            (latest.or (some issue)) with
          retryable := true }
    else
      conclude transitionId .applied
        { outcomeOf transitionId intent .applied "transition.applied" latest with
          appliedStatus := some intent.requestedStatus }

/-!
# Claimed executions
-/

/-- The read both lanes start with. -/
def withIssue (service : TaskTransitionService) (transitionId : Nat)
    (intent : TransitionIntent) (proceed : Issue -> Saga TransitionOutcome) :
    Saga TransitionOutcome := do
  match <- tryFetch service intent.taskId with
  | .error failure =>
    let (phase, outcome) := retry transitionId intent "transition.tracker_read_failed" none
      [("error_type", .text failure.raised.typeName)]
    conclude transitionId phase outcome
  | .ok none =>
    let (phase, outcome) := rejection transitionId intent "transition.task_missing" none []
    conclude transitionId phase outcome
  | .ok (some issue) => proceed issue

/-- The end of the ordinary lane's checks and its write. -/
def applyIntent (service : TaskTransitionService) (transitionId : Nat)
    (intent : TransitionIntent) (issue : Issue) : Saga TransitionOutcome :=
  match evidenceConclusion transitionId intent issue with
  | some (phase, outcome) => conclude transitionId phase outcome
  | none => do
      ask (.append transitionId .applying intent.reasonCode none)
      if intent.requestedStatus.isTerminalTarget then
        stageTerminal service transitionId intent issue
      else
        verifyCommit service transitionId intent issue
          (commitUpdate service transitionId intent issue)

def executeBody (service : TaskTransitionService) (intent : TransitionIntent)
    (transitionId : Nat) (previousPhase : Option TransitionPhase) :
    Saga TransitionOutcome :=
  withIssue service transitionId intent fun issue =>
    match fenceConclusion transitionId intent previousPhase issue with
    | some (phase, outcome) => conclude transitionId phase outcome
    | none => do
        match <- rollupConclusion transitionId intent issue with
        | some (phase, outcome) => conclude transitionId phase outcome
        | none => applyIntent service transitionId intent issue

def compensateBody (service : TaskTransitionService) (intent : TransitionIntent)
    (transitionId : Nat) : Saga TransitionOutcome :=
  withIssue service transitionId intent fun issue =>
    match compensationConclusion transitionId intent issue with
    | some (phase, outcome) => conclude transitionId phase outcome
    | none => do
        ask (.append transitionId .applying intent.reasonCode none)
        verifyCommit service transitionId intent issue (compensateUpdate intent)

/-- The `finally` of a claimed execution. -/
def settleClaim (key : TaskKey) (claimToken : Nat)
    (retainRetryableClaim : Bool) (outcome : Option TransitionOutcome) :
    Saga Unit :=
  if retainRetryableClaim = true ∧ (outcome.any (·.retryable)) = true then do
    let retained <- ask (.expireForRetry key claimToken)
    if retained then
      pure ()
    else
      raise (journalFailure "retryable recovery lost its durable task claim")
  else do
    let _ <- ask (.release key claimToken)
    pure ()

def withClaim (key : TaskKey) (claimToken : Nat) (retainRetryableClaim : Bool)
    (body : Saga TransitionOutcome) : Saga TransitionOutcome := do
  let outcome <- Program.tryCatch body (fun failure => do
    settleClaim key claimToken retainRetryableClaim failure.outcome
    raise failure)
  settleClaim key claimToken retainRetryableClaim (some outcome)
  pure outcome

/-- The body of `execute` or of `recover_authorized`. -/
inductive Lane where
  | ordinary
  | compensation
  deriving DecidableEq

/-- `_execute_claimed` and `_recover_authorized_claimed`. -/
def runClaimed (service : TaskTransitionService) (lane : Lane)
    (intent : TransitionIntent) (transitionId : Nat) (claimToken : Nat)
    (previousPhase : Option TransitionPhase) (retainRetryableClaim : Bool) :
    Saga TransitionOutcome :=
  withClaim intent.key claimToken retainRetryableClaim
    (match lane with
    | .ordinary => executeBody service intent transitionId previousPhase
    | .compensation => compensateBody service intent transitionId)

/-- The lane `_execute_recovery_claimed` picks for an expired intent. -/
def recoveryLane (intent : TransitionIntent) : Lane :=
  if isAuthorizedRecoveryIntent intent then .compensation else .ordinary

/-!
# Executions
-/

/-- What follows the begin that is not, or no longer, answered by a recovery. -/
def runBegun (service : TaskTransitionService) (lane : Lane)
    (intent : TransitionIntent) (begun : BeginResult) : Saga TransitionOutcome :=
  match begun.replay, begun.waiting, begun.claimToken with
  | some outcome, _, _ => pure outcome
  | none, some outcome, _ => pure outcome
  | none, none, none =>
    raise (journalFailure "transition claim was not acquired")
  | none, none, some claimToken =>
    runClaimed service lane intent begun.transitionId claimToken begun.previousPhase false

/-- `transition.recovery_pending` of the waiting intent. -/
def recoveryPending (intent : TransitionIntent) (transitionId : Nat)
    (recovery : TransitionOutcome) : TransitionOutcome :=
  { outcomeOf transitionId intent .waiting "transition.recovery_pending" none with
    retryable := true
    details :=
      [("recover_transition_id", (recovery.transitionId.map Detail.transition).getD .absent),
        ("recovery_reason_code", .text recovery.reasonCode)] }

/-- `_execute_admitted` and `_recover_authorized_admitted` from the first begin. -/
def executeAdmitted (service : TaskTransitionService) (lane : Lane)
    (intent : TransitionIntent) : Saga TransitionOutcome := do
  let begun <- ask (.begin_ intent service.claimTtlSeconds)
  match begun.recovery, begun.claimToken with
  | some owed, some claimToken => do
      let recovery <- runClaimed service (recoveryLane owed.intent) owed.intent
        owed.transitionId claimToken (some owed.previousPhase) true
      if recovery.retryable then
        let pending := recoveryPending intent begun.transitionId recovery
        ask (.append begun.transitionId .waiting pending.reasonCode (some pending))
        pure pending
      else
        -- The second begin can be answered with a recovery as well.
        let begun <- ask (.begin_ intent service.claimTtlSeconds)
        runBegun service lane intent begun
  | some _, none =>
    raise (journalFailure "transition claim was not acquired")
  | none, _ => runBegun service lane intent begun

/-- An outcome that was never journaled. -/
def unjournaled (intent : TransitionIntent) (reasonCode : String) : TransitionOutcome where
  transitionId := none
  projectId := intent.projectId
  taskId := intent.taskId
  disposition := .rejected
  reasonCode := reasonCode
  requestedStatus := intent.requestedStatus

def execute (service : TaskTransitionService) (intent : TransitionIntent) :
    Saga TransitionOutcome :=
  if intent.projectId ≠ service.projectId then
    pure (unjournaled intent "transition.project_mismatch")
  else
    executeAdmitted service .ordinary intent

def recoverAuthorized (service : TaskTransitionService)
    (intent : TransitionIntent) : Saga TransitionOutcome :=
  if isAuthorizedRecoveryIntent intent = false then
    pure (unjournaled intent "transition.recovery_authority_rejected")
  else if intent.projectId ≠ service.projectId then
    pure (unjournaled intent "transition.project_mismatch")
  else
    executeAdmitted service .compensation intent

def submission (service : TaskTransitionService) (lane : Lane)
    (intent : TransitionIntent) : Saga TransitionOutcome :=
  match lane with
  | .ordinary => execute service intent
  | .compensation => recoverAuthorized service intent

end TaskTransitions
end Oompah
