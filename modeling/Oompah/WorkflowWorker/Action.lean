import Oompah.Foundation.Program
import Oompah.Foundation.Value
import Oompah.WorkflowJobs.System

/-!
# Actions of a durable worker

The values a domain handler and a transition service exchange with the worker,
the exceptions that travel through an invocation, and the requests an
invocation makes while it runs.
-/

namespace Oompah
namespace WorkflowWorker

open Foundation
open WorkflowJobs

/-!
# Handler results
-/

/-- A mapping of canonical texts. -/
abbrev Fields := List (String × String)

/-- `value or fallback`, where an empty text counts as none. -/
def textOr (value : Option String) (fallback : String) : String :=
  (value.filter (fun text => text ≠ "")).getD fallback

structure RevalidationResult where
  generation : String
  evidenceRevision : Option String := none
  headSha : Option String := none
  current : Bool := true
  details : String := ""
  generation_required : strip generation ≠ "" := by exact strip_ne_of_any rfl
  deriving DecidableEq

structure VerificationResult where
  verified : Bool
  receipt : Fields := []
  reason : Option String := none
  deriving DecidableEq

/-- `fields` holds the other columns of a lifecycle request. -/
structure TransitionIntent where
  projectId : String
  taskId : String
  fields : Fields := []
  deriving DecidableEq

inductive TransitionDisposition where
  | applied
  | alreadyApplied
  | staged
  | recovered
  | waiting
  | retryable
  | rejected
  deriving DecidableEq

structure TransitionOutcome where
  disposition : TransitionDisposition
  reasonCode : String
  observedGeneration : Option String := none
  fields : Fields := []
  deriving DecidableEq

/-- `to_dict` and `from_dict` of intents and outcomes; `none` is a raise. -/
structure TransitionCodec where
  intentToDict : TransitionIntent -> Fields
  intentFromDict : Fields -> Option TransitionIntent
  outcomeToDict : TransitionOutcome -> Fields
  outcomeFromDict : Fields -> Option TransitionOutcome

inductive HandlerValue where
  | nothing
  | revalidation (result : RevalidationResult)
  | observation (applied : Bool) (receipt : Fields)
  | effect (receipt : Fields)
  | verification (result : VerificationResult)
  | intent (intent : TransitionIntent)
  | outcome (outcome : TransitionOutcome)
  | compensation (fields : Fields) (disposition : Option String)
  | facts (facts : List LandingFact)
  | invalid
  deriving DecidableEq

/-!
# Exceptions
-/

/-- The attributes of a `WorkflowActionError`. -/
structure ActionFailure where
  message : String
  category : WorkflowFailureCategory := .unknown
  retryable : Bool := true
  retryDelaySeconds : Option Int := none
  deriving DecidableEq

/--
`actionError` is a plain `WorkflowActionError`; `valueError` stands for
`TypeError` and `ValueError`, `other` for every other `Exception`.  A text is the
name of the type with the message after it.
-/
inductive Raised where
  | leaseLost (text : String)
  | superseded (message replacementGeneration : String)
  | administrativeDeferral (message : String) (retryDelaySeconds : Option Int)
      (effectNotStarted : Bool)
  | interrupted
  | timedOut (operation : String) (detached : Bool)
  | actionError (failure : ActionFailure)
  | valueError (text : String)
  | other (text : String)
  | cancelled
  deriving DecidableEq

namespace Raised

def actionFailure : Raised -> Option ActionFailure
  | superseded message _ =>
    some { message := message, category := .staleEvidence, retryable := false }
  | administrativeDeferral message retryDelaySeconds _ =>
    some { message := message
           category := .transient
           retryDelaySeconds := retryDelaySeconds }
  | interrupted =>
    some { message := "workflow action interrupted before the next " ++
             "persistence boundary"
           category := .transient }
  | timedOut operation _ =>
    some { message := operation ++ " exceeded timeout", category := .timeout }
  | actionError failure => some failure
  | leaseLost _ | valueError _ | other _ | cancelled => none

def isTimeout : Raised -> Bool
  | timedOut _ _ => true
  | _ => false

/-- `CancelledError` is no `Exception`. -/
def isException : Raised -> Bool
  | cancelled => false
  | _ => true

def text : Raised -> String
  | leaseLost text | valueError text | other text => text
  | _ => ""

def ofStoreError : StoreError -> Raised
  | .leaseLost message => leaseLost ("WorkflowJobLeaseLost: " ++ message)
  | .valueError message => valueError ("ValueError: " ++ message)
  | .keyError key => other ("KeyError: '" ++ key ++ "'")
  | .jobStoreError message => other ("WorkflowJobStoreError: " ++ message)
  | .idempotencyConflict message => other ("WorkflowJobIdempotencyConflict: " ++ message)
  | .corruption message => other ("WorkflowJobCorruptionError: " ++ message)
  | .integrityError message => other ("IntegrityError: " ++ message)
  | .publisherRaised => other "Exception: "

end Raised

/-!
# Requests
-/

inductive HandlerCall where
  | revalidate
  | inspect
  | apply
  | verify (effect : Fields)
  | buildTransition (verification : Fields)
  | compensateTransitionFailure
  | transition (intent : TransitionIntent)
  | buildCompletionEvidence
  | finalizeTransition
  deriving DecidableEq

/-- The operation text of a bounded call. -/
def HandlerCall.operation : HandlerCall -> String
  | revalidate => "revalidate"
  | inspect => "inspect"
  | apply => "apply"
  | verify _ => "verify"
  | buildTransition _ => "build_transition"
  | compensateTransitionFailure => "compensate_transition_failure"
  | transition _ => "transition"
  | buildCompletionEvidence => "build_completion_evidence"
  | finalizeTransition => "finalize_transition"

inductive CallOutcome where
  | returned (value : HandlerValue)
  | timedOut
  deriving DecidableEq

/-- The store calls of an invocation on its own job. -/
inductive StoreWrite where
  | checkpoint (phase : String) (saved : JsonObject)
  | fail (category : WorkflowFailureCategory) (error : String)
      (retryable : Bool) (retryDelaySeconds : Int)
  | deferOwnedWithoutAttempt (reason : String) (retryDelaySeconds : Int)
  | deferOwnedUntil (reason : String) (retryAt : Int)
  | supersede (replacementGeneration reason : String)
  | complete (resultTransition : Option JsonObject) (landingFacts : List LandingFact)
  | quarantineOwned (category : WorkflowFailureCategory) (error : String)
  deriving DecidableEq

/-- The texts of a call go through `_required_text`, which strips them. -/
def StoreWrite.op (jobId leaseToken generation : String) (now : Int) : StoreWrite -> Op
  | checkpoint phase saved => .checkpoint jobId leaseToken phase saved now
  | fail category error retryable retryDelaySeconds =>
    .fail jobId leaseToken category (strip error) retryable retryDelaySeconds none now
  | deferOwnedWithoutAttempt reason retryDelaySeconds =>
    .deferOwnedWithoutAttempt jobId leaseToken (strip reason) retryDelaySeconds now
  | deferOwnedUntil reason retryAt =>
    .deferOwnedUntil jobId leaseToken reason retryAt now
  | supersede replacementGeneration reason =>
    .supersede jobId generation (strip replacementGeneration) (strip reason) now
  | complete resultTransition landingFacts =>
    .complete jobId leaseToken resultTransition landingFacts now
  | quarantineOwned category error =>
    .quarantineOwned jobId leaseToken category (strip error) now

/-- `context.job` and the local `effect_authority_started`. -/
structure WorkflowJobContext where
  job : WorkflowJob
  effectAuthorityStarted : Bool
  deriving DecidableEq

inductive Request where
  | notify (phase : String)
  | call (call : HandlerCall)
  | checkInterrupted
  | context
  | startEffectAuthority
  | fenceExternalEffects
  | store (write : StoreWrite)
  | monitorQuarantinedCall (operation : String)
  deriving DecidableEq

abbrev Answer : Request -> Type
  | .notify _ => Unit
  | .call _ => CallOutcome
  | .checkInterrupted => Unit
  | .context => WorkflowJobContext
  | .startEffectAuthority => Unit
  | .fenceExternalEffects => Unit
  | .store _ => WorkflowJob
  | .monitorQuarantinedCall _ => Unit

abbrev Worker := Program Request Answer Raised

namespace Worker

def ask (r : Request) : Worker (Answer r) :=
  Program.perform r

def raise {α : Type} (raised : Raised) : Worker α :=
  Program.raise raised

end Worker
end WorkflowWorker
end Oompah
