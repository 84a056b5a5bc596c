import Oompah.WorkflowWorker.Action

/-!
# The saga of one invocation

`_execute_claimed` as a program: revalidation, the external effect, its
verification, the lifecycle transition and the completion, each behind a
durable checkpoint, and the handling of every exception that ends it early.
-/

namespace Oompah
namespace WorkflowWorker

open Foundation
open WorkflowJobs
open Worker (ask raise)

inductive WorkflowRunDisposition where
  | idle
  | completed
  | retryScheduled
  | superseded
  | actionRequired
  | leaseLost
  | stopped
  deriving DecidableEq

structure WorkflowRunResult where
  disposition : WorkflowRunDisposition
  jobId : String
  state : WorkflowJobState
  reason : String
  attempts : Int
  deriving DecidableEq

/-- The optional methods a handler may have. -/
structure WorkflowActionHandler where
  compensatesTransitionFailure : Bool := false
  publishesLandingFacts : Bool := false
  finalizesTransition : Bool := false

structure DurableWorkflowWorker where
  workerId : String
  handlers : String -> Option WorkflowActionHandler
  transitionServices : String -> Bool
  leaseSeconds : Int := 30
  retryDelaySeconds : Int := 5

/-!
# Fields and checkpoints
-/

namespace Fields

def get (fields : Fields) (key : String) : Option String :=
  (fields.find? (fun field => field.1 = key)).map Prod.snd

def set (fields : Fields) (key value : String) : Fields :=
  fields.filter (fun field => field.1 ≠ key) ++ [(key, value)]

end Fields

def revalidationCheckpoint (result : RevalidationResult) : JsonValue :=
  .mapping [("generation", result.generation),
      ("evidence_revision", result.evidenceRevision.getD "null"),
      ("head_sha", result.headSha.getD "null"),
      ("details", result.details)]

def effectPendingCheckpoint (revalidation : RevalidationResult) : JsonObject :=
  [("revalidation", revalidationCheckpoint revalidation), ("effect_observed", .scalar "false")]

def effectCheckpoint (revalidation : RevalidationResult) (effect : Fields) :
    JsonObject :=
  [("revalidation", revalidationCheckpoint revalidation), ("effect", .mapping effect)]

def verificationCheckpoint (revalidation : RevalidationResult)
    (effect verification : Fields) : JsonObject :=
  effectCheckpoint revalidation effect ++ [("verification", .mapping verification)]

def intentCheckpoint (revalidation : RevalidationResult)
    (effect verification intent : Fields) : JsonObject :=
  verificationCheckpoint revalidation effect verification ++
    [("transition_intent", .mapping intent)]

def transitionCheckpoint (revalidation : RevalidationResult)
    (effect verification intent transition : Fields) : JsonObject :=
  intentCheckpoint revalidation effect verification intent ++ [("transition", .mapping transition)]

def isCurrent (job : WorkflowJob) (result : RevalidationResult) : Bool :=
  result.current && (result.generation = job.spec.generation) &&
    job.spec.expectedEvidenceRevision.all (fun revision =>
      result.evidenceRevision = some revision) &&
    job.spec.expectedHeadSha.all (fun sha => result.headSha = some sha)

def staleTransitionReasons : List String :=
  ["transition.stale_status", "transition.stale_version",
    "transition.generation_mismatch", "transition.head_missing",
    "transition.head_mismatch", "transition.stale_precondition",
    "transition.owner_retirement_generation_mismatch"]

/-!
# Bounded calls
-/

/-- `_bounded`: a timeout or a cancellation first withdraws late authority. -/
def bounded (call : HandlerCall) (timeoutFence : Bool) : Worker HandlerValue := do
  let outcome ← (ask (.call call)).tryCatch (fun raised => do
      if timeoutFence ∧ raised = .cancelled then
        ask .fenceExternalEffects
      raise raised)
  match outcome with
  | .returned value => pure value
  | .timedOut => do
      if timeoutFence then
        ask .fenceExternalEffects
      raise (.timedOut call.operation true)

def checkpoint (phase : String) (saved : JsonObject) : Worker Unit := do
  ask .checkInterrupted
  let _ ← ask (.store (.checkpoint phase saved))
  ask (.notify phase)

def permanentError (message : String) : Raised :=
  .actionError { message := message, category := .permanent, retryable := false }

def policyError (message : String) : ActionFailure :=
  { message := message, category := .policy, retryable := false }

/-!
# Compensation of a failed transition
-/

inductive TransitionFailure where
  | outcome (outcome : TransitionOutcome)
  | error (failure : ActionFailure)

namespace TransitionFailure

def message : TransitionFailure -> String
  | outcome result => "transition rejected: " ++ result.reasonCode
  | error failure => failure.message

def category : TransitionFailure -> WorkflowFailureCategory
  | outcome _ => .policy
  | error failure => failure.category

def isStale : TransitionFailure -> Bool
  | outcome result => result.reasonCode ∈ staleTransitionReasons
  | error _ => false

def replacementGeneration (job : WorkflowJob) : TransitionFailure -> String
  | outcome result =>
    textOr result.observedGeneration ("reassess:" ++ job.spec.generation)
  | error _ => "reassess:" ++ job.spec.generation

end TransitionFailure

/-- The nested `terminal_failure` is kept under dotted keys. -/
def compensation (job : WorkflowJob) (failure : TransitionFailure) (result : Fields) : Fields :=
  let failed := ((result.set "terminal_failure.message" failure.message).set
    "terminal_failure.category" failure.category.value)
  if failure.isStale then
    (failed.set "settlement" "superseded").set "replacement_generation"
      (failure.replacementGeneration job)
  else
    failed.set "settlement" "exhausted"

def compensatedCheckpoint (saved : JsonObject) (compensation : Fields)
    (disposition : Option String) : JsonObject :=
  let compensated :=
    saved.set "transition_compensation" (.mapping compensation)
  match disposition with
  | none => compensated
  | some disposition =>
    compensated.set "verification"
      (.mapping (Fields.set ((compensated.getMapping "verification").getD [])
        "disposition" disposition))

def compensateTransitionFailure (handler : WorkflowActionHandler)
    (job : WorkflowJob) (failure : TransitionFailure) (saved : JsonObject) :
    Worker Unit :=
  if handler.compensatesTransitionFailure then do
    let result ← bounded .compensateTransitionFailure false
    match result with
    | .nothing => pure ()
    | .compensation fields disposition =>
      checkpoint "transition_compensated"
        (compensatedCheckpoint saved (compensation job failure fields) disposition)
    | _ => raise (permanentError "handler returned invalid transition compensation")
  else
    pure ()

def failureCategoryOfValue (value : String) : WorkflowFailureCategory :=
  ([.transient, .timeout, .transport, .authorization, .policy, .staleEvidence,
    .permanent, .leaseExpired, .abandoned, .unknown].find?
      (fun category : WorkflowFailureCategory => category.value = value)).getD
    .policy

/-- A durable compensation is a terminal replay barrier. -/
def settleTransitionCompensation (job : WorkflowJob) : Worker (Option WorkflowRunResult) := do
  let context ← ask .context
  match (context.job.checkpoint.getD []).getMapping "transition_compensation" with
  | none => pure none
  | some raw =>
    let message := strip (textOr (Fields.get raw "terminal_failure.message")
      (textOr (Fields.get raw "reason_code") "transition was durably compensated"))
    if strip (textOr (Fields.get raw "settlement") "exhausted") = "superseded" then do
      let superseded ← ask (.store (.supersede (textOr (Fields.get raw "replacement_generation")
          ("reassess:" ++ job.spec.generation)) message))
      pure (some ⟨.superseded, superseded.jobId, superseded.state, message, superseded.attempts⟩)
    else
      raise (.actionError
        { message := message
          category := failureCategoryOfValue
            (textOr (Fields.get raw "terminal_failure.category") "policy")
          retryable := false })

/-!
# Revalidation
-/

def revalidate : Worker RevalidationResult := do
  let result ← bounded .revalidate false
  ask .checkInterrupted
  match result with
  | .revalidation revalidation => pure revalidation
  | _ => raise (permanentError "handler returned an invalid revalidation result")

def staleMessage : String := "workflow evidence changed after job enqueue"

/-- Fresh evidence no longer names this action. -/
def supersedeStale (job : WorkflowJob) (revalidation : RevalidationResult) :
    Worker WorkflowRunResult :=
  let supersedeBy := fun replacement => do
    let superseded ← ask (.store (.supersede replacement staleMessage))
    pure ⟨.superseded, superseded.jobId, superseded.state, staleMessage, superseded.attempts⟩
  let replacement := strip revalidation.generation
  if replacement = job.spec.generation then
    match scheduleReassessmentDeadline job.spec.generation with
    | some deadline => do
        let deferred ← ask (.store (.deferOwnedUntil
          "workflow evidence changed before reassessment" deadline))
        if deferred.state = .superseded then
          pure ⟨.superseded, deferred.jobId, deferred.state,
            "workflow reassessment deadline is due", deferred.attempts⟩
        else
          pure ⟨.retryScheduled, deferred.jobId, deferred.state,
            "workflow evidence changed before reassessment", deferred.attempts⟩
    | none => supersedeBy ("reassess:" ++ replacement)
  else
    supersedeBy replacement

/-- The checkpoint this invocation resumes from, with its own revalidation. -/
def resumeCheckpoint (revalidation : RevalidationResult) : Worker JsonObject := do
  let context ← ask .context
  let resume := (context.job.checkpoint.getD []).set "revalidation"
    (revalidationCheckpoint revalidation)
  checkpoint "revalidated" resume
  pure resume

/-!
# The external effect
-/

def applyEffect (revalidation : RevalidationResult) : Worker Fields := do
  checkpoint "effect_pending" (effectPendingCheckpoint revalidation)
  ask .checkInterrupted
  ask .startEffectAuthority
  let result ← bounded .apply true
  match result with
  | .effect receipt => pure receipt
  | _ => raise (permanentError "handler returned an invalid effect result")

def observedEffect (revalidation : RevalidationResult) : Worker Fields := do
  let observation ← bounded .inspect false
  ask .checkInterrupted
  match observation with
  | .observation true receipt => pure receipt
  | .observation false _ => applyEffect revalidation
  | _ => raise (permanentError "handler returned an invalid effect observation")

/-- The exact receipt is durable before anything asks the backend to verify it. -/
def returnedEffect (revalidation : RevalidationResult) (resume : JsonObject) :
    Worker Fields :=
  match resume.getMapping "effect" with
  | some saved => pure saved
  | none => do
      let effect ← observedEffect revalidation
      checkpoint "effect_returned" (effectCheckpoint revalidation effect)
      ask (.notify "effect_returned")
      ask .checkInterrupted
      pure effect

/-!
# Verification
-/

def verifiedEffect (revalidation : RevalidationResult) (resume : JsonObject)
    (effect : Fields) : Worker Fields :=
  match resume.getMapping "verification" with
  | some saved => pure saved
  | none => do
      let result ← bounded (.verify effect) false
      ask (.notify "verify_returned")
      ask .checkInterrupted
      match result with
      | .verification verification =>
        if verification.verified then do
          checkpoint "effect_verified"
            (verificationCheckpoint revalidation effect verification.receipt)
          pure verification.receipt
        else
          raise (.actionError
            { message := textOr verification.reason
                "external effect is not yet verifiable"
              category := .transient })
      | _ => raise (permanentError "handler returned an invalid verification result")

/-!
# The lifecycle transition
-/

/-- The receipts an invocation carries through its transition. -/
structure Verified where
  resume : JsonObject
  revalidation : RevalidationResult
  effect : Fields
  verification : Fields

section Codec

variable (codec : TransitionCodec)

namespace Verified

def checkpoint (verified : Verified) : JsonObject :=
  verificationCheckpoint verified.revalidation verified.effect verified.verification

def intentCheckpoint (verified : Verified) (intent : TransitionIntent) :
    JsonObject :=
  WorkflowWorker.intentCheckpoint verified.revalidation verified.effect
    verified.verification (codec.intentToDict intent)

end Verified

inductive TransitionStep where
  | settled (result : WorkflowRunResult)
  | proceed (transition : Option TransitionOutcome)

def resumedIntent (verified : Verified) : Worker HandlerValue :=
  match verified.resume.getMapping "transition_intent" with
  | some saved =>
    match codec.intentFromDict saved with
    | some intent => pure (.intent intent)
    | none => raise (.valueError "ValueError: invalid transition intent")
  | none => bounded (.buildTransition verified.verification) false

def plannedIntent (handler : WorkflowActionHandler) (job : WorkflowJob)
    (verified : Verified) : Worker HandlerValue :=
  (resumedIntent codec verified).tryCatch (fun raised =>
    match raised with
    | .valueError _ => do
        let failure : ActionFailure :=
          { message := "workflow checkpoint contains an invalid transition intent"
            category := .permanent
            retryable := false }
        compensateTransitionFailure handler job (.error failure) verified.checkpoint
        raise (.actionError failure)
    | raised =>
      match raised.actionFailure with
      | some failure =>
        if failure.retryable then
          raise raised
        else do
          compensateTransitionFailure handler job (.error failure) verified.checkpoint
          raise raised
      | none => raise raised)

/-- The failure a raised service call is compensated for, if any. -/
def serviceFailure (finalAttempt : Bool) (raised : Raised) : Option ActionFailure × Raised :=
  match raised.actionFailure with
  | some failure =>
    if !raised.isTimeout && (!failure.retryable || finalAttempt) then
      (some failure, raised)
    else
      (none, raised)
  | none =>
    if raised.isException then
      let failure : ActionFailure :=
        { message := "transition service failed: " ++ raised.text }
      (if finalAttempt then some failure else none, .actionError failure)
    else
      (none, raised)

def executeService (handler : WorkflowActionHandler) (job : WorkflowJob)
    (intent : TransitionIntent) (saved : JsonObject) (finalAttempt : Bool) :
    Worker HandlerValue :=
  (bounded (.transition intent) false).tryCatch (fun raised => do
    let failed := serviceFailure finalAttempt raised
    match failed.1 with
    | some failure =>
      compensateTransitionFailure handler job (.error failure) saved
      raise failed.2
    | none => raise failed.2)

def settleOutcome (handler : WorkflowActionHandler) (job : WorkflowJob)
    (verified : Verified) (intent : TransitionIntent)
    (outcome : TransitionOutcome) (finalAttempt : Bool) :
    Worker TransitionStep :=
  let saved := verified.intentCheckpoint codec intent
  match outcome.disposition with
  | .retryable | .waiting => do
      let failure : ActionFailure :=
        { message := "transition deferred: " ++ outcome.reasonCode
          category := .transient }
      if finalAttempt then
        compensateTransitionFailure handler job (.error failure) saved
      raise (.actionError failure)
  | .rejected => do
      compensateTransitionFailure handler job (.outcome outcome) saved
      if outcome.reasonCode ∈ staleTransitionReasons then do
        let message := "transition evidence changed: " ++ outcome.reasonCode
        let superseded ← ask (.store (.supersede
          ((TransitionFailure.outcome outcome).replacementGeneration job) message))
        pure (.settled ⟨.superseded, superseded.jobId, superseded.state,
          message, superseded.attempts⟩)
      else
        raise (.actionError (policyError ("transition rejected: " ++ outcome.reasonCode)))
  | .applied | .alreadyApplied | .staged | .recovered => do
      checkpoint "transition_applied" (transitionCheckpoint verified.revalidation verified.effect
          verified.verification (codec.intentToDict intent)
          (codec.outcomeToDict outcome))
      pure (.proceed (some outcome))

def executeIntent (worker : DurableWorkflowWorker)
    (handler : WorkflowActionHandler) (job : WorkflowJob)
    (verified : Verified) (intent : TransitionIntent) : Worker TransitionStep := do
  let saved := verified.intentCheckpoint codec intent
  if (verified.resume.getMapping "transition_intent").isNone then
    checkpoint "transition_intent" saved
  if worker.transitionServices job.spec.projectId then do
    let context ← ask .context
    let finalAttempt := context.job.attemptsExhausted
    let result ← executeService handler job intent saved finalAttempt
    ask (.notify "transition_returned")
    ask .checkInterrupted
    match result with
    | .outcome outcome =>
      settleOutcome codec handler job verified intent outcome finalAttempt
    | _ => raise (.other "transition service returned no outcome")
  else do
    let failure :=
      policyError "no transition service registered for the job project"
    compensateTransitionFailure handler job (.error failure) saved
    raise (.actionError failure)

/-- A planned value is no intent, an intent that escapes the job, or an intent. -/
def executePlanned (worker : DurableWorkflowWorker)
    (handler : WorkflowActionHandler) (job : WorkflowJob)
    (verified : Verified) (planned : HandlerValue) : Worker TransitionStep :=
  match planned with
  | .nothing => pure (.proceed none)
  | .intent intent =>
    if intent.projectId = job.spec.projectId ∧ intent.taskId = job.spec.taskId then
      executeIntent codec worker handler job verified intent
    else do
      let failure :=
        policyError "handler transition intent escaped the job scope"
      compensateTransitionFailure handler job (.error failure) verified.checkpoint
      raise (.actionError failure)
  | _ => do
      let failure : ActionFailure :=
        { message := "handler returned an invalid transition intent"
          category := .permanent
          retryable := false }
      compensateTransitionFailure handler job (.error failure) verified.checkpoint
      raise (.actionError failure)

def executeTransition (worker : DurableWorkflowWorker)
    (handler : WorkflowActionHandler) (job : WorkflowJob)
    (verified : Verified) : Worker TransitionStep :=
  match verified.resume.getMapping "transition" with
  | some saved =>
    match codec.outcomeFromDict saved with
    | some outcome => pure (.proceed (some outcome))
    | none => raise (.valueError "ValueError: invalid transition outcome")
  | none => do
      let planned ← plannedIntent codec handler job verified
      ask .checkInterrupted
      executePlanned codec worker handler job verified planned

/-!
# Completion
-/

def completionFacts (handler : WorkflowActionHandler) : Worker (List LandingFact) :=
  if handler.publishesLandingFacts then do
    let published ← bounded .buildCompletionEvidence false
    match published with
    | .facts facts => do
        ask .checkInterrupted
        pure facts
    | _ => raise (permanentError "handler returned invalid completion landing facts")
  else
    pure []

def finalizeTransition (handler : WorkflowActionHandler)
    (transition : Option TransitionOutcome) : Worker Unit :=
  if transition.isSome ∧ handler.finalizesTransition then do
    let _ ← bounded .finalizeTransition false
    ask .checkInterrupted
  else
    pure ()

def completeAction (handler : WorkflowActionHandler)
    (transition : Option TransitionOutcome) : Worker WorkflowRunResult := do
  let facts ← completionFacts handler
  finalizeTransition handler transition
  let completed ← ask (.store (.complete
    (transition.map (fun outcome => (codec.outcomeToDict outcome).map
      (fun field => (field.1, JsonValue.scalar field.2)))) facts))
  ask (.notify "completed")
  pure ⟨.completed, completed.jobId, completed.state,
    "workflow action completed", completed.attempts⟩

/-!
# The whole saga
-/

def executeRevalidated (worker : DurableWorkflowWorker)
    (handler : WorkflowActionHandler) (job : WorkflowJob)
    (revalidation : RevalidationResult) : Worker WorkflowRunResult := do
  let resume ← resumeCheckpoint revalidation
  let effect ← returnedEffect revalidation resume
  let verification ← verifiedEffect revalidation resume effect
  let step ← executeTransition codec worker handler job
    { resume := resume
      revalidation := revalidation
      effect := effect
      verification := verification }
  match step with
  | .settled result => pure result
  | .proceed transition => completeAction codec handler transition

def executeHandler (worker : DurableWorkflowWorker)
    (handler : WorkflowActionHandler) (job : WorkflowJob) :
    Worker WorkflowRunResult := do
  let compensated ← settleTransitionCompensation job
  match compensated with
  | some result => pure result
  | none => do
      let revalidation ← revalidate
      if isCurrent job revalidation then
        executeRevalidated codec worker handler job revalidation
      else
        supersedeStale job revalidation

def executeBody (worker : DurableWorkflowWorker) (job : WorkflowJob) :
    Worker WorkflowRunResult := do
  ask (.notify "leased")
  ask .checkInterrupted
  match worker.handlers job.spec.action with
  | some handler => executeHandler codec worker handler job
  | none => raise (.actionError (policyError
      ("no handler registered for workflow action " ++ job.spec.action)))

/-!
# Exceptions
-/

def leaseLostResult (job : WorkflowJob) (reason : String) : WorkflowRunResult :=
  ⟨.leaseLost, job.jobId, .running, reason, job.attempts⟩

/-- `_fail` and `_defer` report a lost lease as a result. -/
def orLeaseLost (job : WorkflowJob) (reason : String)
    (program : Worker WorkflowRunResult) : Worker WorkflowRunResult :=
  program.tryCatch (fun raised =>
    match raised with
    | .leaseLost _ => pure (leaseLostResult job reason)
    | raised => raise raised)

def failAction (worker : DurableWorkflowWorker) (job : WorkflowJob)
    (failure : ActionFailure) : Worker WorkflowRunResult :=
  orLeaseLost job "lease lost before failure checkpoint" (do
    let failed ← ask (.store (.fail failure.category failure.message failure.retryable
      (failure.retryDelaySeconds.getD worker.retryDelaySeconds)))
    pure ⟨if failed.state = .retryWait then .retryScheduled else .actionRequired,
      failed.jobId, failed.state, failure.message, failed.attempts⟩)

def deferAction (worker : DurableWorkflowWorker) (job : WorkflowJob)
    (failure : ActionFailure) : Worker WorkflowRunResult :=
  orLeaseLost job "lease lost before administrative deferral checkpoint" (do
    let deferred ← ask (.store (.deferOwnedWithoutAttempt failure.message
      (failure.retryDelaySeconds.getD worker.retryDelaySeconds)))
    pure ⟨.retryScheduled, deferred.jobId, deferred.state, failure.message, deferred.attempts⟩)

def quarantine (job : WorkflowJob) (failure : ActionFailure) :
    Worker WorkflowRunResult := do
  ask .fenceExternalEffects
  (do
    let quarantined ← ask (.store (.quarantineOwned failure.category failure.message))
    pure ⟨.actionRequired, quarantined.jobId, quarantined.state,
      failure.message, quarantined.attempts⟩ :
        Worker WorkflowRunResult).tryCatch (fun raised =>
    if raised.isException then
      pure (leaseLostResult job "late-effect authority fenced; quarantine unavailable")
    else
      raise raised)

def cancelledFailure : ActionFailure :=
  { message := "workflow invocation was cancelled"
    category := .abandoned
    retryable := false }

def settleRaised (worker : DurableWorkflowWorker) (job : WorkflowJob)
    (raised : Raised) : Worker WorkflowRunResult :=
  match raised with
  | .leaseLost _ => pure (leaseLostResult job "workflow job lease was lost")
  | .superseded message replacementGeneration => do
      let superseded ← ask (.store (.supersede replacementGeneration message))
      pure ⟨.superseded, superseded.jobId, superseded.state, message, superseded.attempts⟩
  | .administrativeDeferral message retryDelaySeconds effectNotStarted => do
      let failure : ActionFailure :=
        { message := message
          category := .transient
          retryDelaySeconds := retryDelaySeconds }
      let context ← ask .context
      let effectIsDurable :=
        ((context.job.checkpoint.getD []).getMapping "effect").isSome
      if !effectIsDurable && (!context.effectAuthorityStarted || effectNotStarted) then
        deferAction worker job failure
      else
        failAction worker job failure
  | .interrupted => do
      let failure := (Raised.interrupted.actionFailure).getD { message := "" }
      let context ← ask .context
      if context.effectAuthorityStarted then
        failAction worker job failure
      else
        deferAction worker job failure
  | .timedOut operation detached => do
      let result ← quarantine job
        { message := operation ++ " exceeded timeout", category := .timeout }
      if result.disposition = .actionRequired ∧ detached then
        ask (.monitorQuarantinedCall operation)
      pure result
  | .actionError failure => failAction worker job failure
  | .cancelled => do
      ask .fenceExternalEffects
      let _ ← (quarantine job cancelledFailure).tryCatch (fun _ => raise .cancelled)
      raise .cancelled
  | .valueError text | .other text =>
    failAction worker job { message := "unhandled " ++ text }

def executeClaimed (worker : DurableWorkflowWorker) (job : WorkflowJob) :
    Worker WorkflowRunResult :=
  (executeBody codec worker job).tryCatch (settleRaised worker job)

end Codec
end WorkflowWorker
end Oompah
