import Mathlib.Data.List.Basic
import Mathlib.Algebra.Order.Ring.Int

/-!
# Workflow job rows

The rows of the `workflow_jobs` table, the immutable spec they carry and the
column updates the store's statements make.  Times are whole microseconds.
JSON documents are kept as far as the store inspects them: an object maps keys
to canonical texts or to nested objects.
-/

namespace Oompah
namespace WorkflowJobs

/-!
# JSON documents
-/

inductive JsonValue where
  | scalar (text : String)
  | mapping (fields : List (String × String))
  deriving DecidableEq

abbrev JsonObject := List (String × JsonValue)

namespace JsonObject

def get (object : JsonObject) (key : String) : Option JsonValue :=
  (object.find? (fun entry => entry.1 = key)).map Prod.snd

def pop (object : JsonObject) (key : String) : JsonObject :=
  object.filter (fun entry => entry.1 ≠ key)

def set (object : JsonObject) (key : String) (value : JsonValue) : JsonObject :=
  object.pop key ++ [(key, value)]

/-- The fields of a key whose value is a mapping. -/
def getMapping (object : JsonObject) (key : String) : Option (List (String × String)) :=
  match object.get key with
  | some (JsonValue.mapping fields) => some fields
  | _ => none

end JsonObject

/-!
# States, failure categories and specs
-/

inductive WorkflowJobState where
  | queued
  | running
  | retryWait
  | completed
  | exhausted
  | superseded
  | cancelled
  deriving DecidableEq

namespace WorkflowJobState

def value : WorkflowJobState -> String
  | queued => "queued"
  | running => "running"
  | retryWait => "retry_wait"
  | completed => "completed"
  | exhausted => "exhausted"
  | superseded => "superseded"
  | cancelled => "cancelled"

/-- `ACTIVE_JOB_STATES`; the remaining states are `TERMINAL_JOB_STATES`. -/
def isActive : WorkflowJobState -> Bool
  | queued | running | retryWait => true
  | completed | exhausted | superseded | cancelled => false

end WorkflowJobState

inductive WorkflowFailureCategory where
  | transient
  | timeout
  | transport
  | authorization
  | policy
  | staleEvidence
  | permanent
  | leaseExpired
  | abandoned
  | unknown
  deriving DecidableEq

namespace WorkflowFailureCategory

def value : WorkflowFailureCategory -> String
  | transient => "transient"
  | timeout => "timeout"
  | transport => "transport"
  | authorization => "authorization"
  | policy => "policy"
  | staleEvidence => "stale_evidence"
  | permanent => "permanent"
  | leaseExpired => "lease_expired"
  | abandoned => "abandoned"
  | unknown => "unknown"

end WorkflowFailureCategory

/--
The immutable identity of one workflow action.  `spec_revision` is a SHA-256
digest of the whole spec; two specs are compared directly instead.  The blank
texts that `__post_init__` refuses are allowed, so results hold of more specs.
-/
structure WorkflowJobSpec where
  projectId : String
  taskId : String
  generation : String
  action : String
  idempotencyKey : String
  phase : String := "intent"
  expectedEvidenceRevision : Option String := none
  expectedHeadSha : Option String := none
  priority : Int := 100
  maxAttempts : Int := 5
  reasonCode : Option String := none
  payload : Option JsonObject := none
  schedulingLane : String := "decision"
  maxAttempts_pos : 1 ≤ maxAttempts := by decide
  deriving DecidableEq

theorem maxAttempts_default : (1 : Int) ≤ 5 := by decide

/-!
# Rows

The columns copied from the spec at insertion are read through `spec`.
-/

structure WorkflowJob where
  jobId : String
  enqueueSequence : Nat
  spec : WorkflowJobSpec
  phase : String
  state : WorkflowJobState
  attempts : Int
  leaseOwner : Option String
  leaseToken : Option String
  leaseExpiresAt : Option Int
  retryAt : Option Int
  failureCategory : Option WorkflowFailureCategory
  lastError : Option String
  checkpoint : Option JsonObject
  resultTransition : Option JsonObject
  supersededByGeneration : Option String
  workflowManaged : Bool
  createdAt : Int
  updatedAt : Int
  completedAt : Option Int
  deriving DecidableEq

namespace WorkflowJob

def isActive (row : WorkflowJob) : Bool := row.state.isActive

/-- A running row whose adapter call was detached by `quarantine_owned`. -/
def isQuarantined (row : WorkflowJob) : Bool :=
  row.state = .running ∧ row.phase = "quarantined"

def sameTask (row other : WorkflowJob) : Bool :=
  row.spec.projectId = other.spec.projectId ∧ row.spec.taskId = other.spec.taskId

/-- The row inserted by `_enqueue_locked`. -/
def fresh (jobId : String) (enqueueSequence : Nat) (spec : WorkflowJobSpec)
    (workflowManaged : Bool) (now : Int) : WorkflowJob where
  jobId := jobId
  enqueueSequence := enqueueSequence
  spec := spec
  phase := spec.phase
  state := .queued
  attempts := 0
  leaseOwner := none
  leaseToken := none
  leaseExpiresAt := none
  retryAt := none
  failureCategory := none
  lastError := none
  checkpoint := none
  resultTransition := none
  supersededByGeneration := none
  workflowManaged := workflowManaged
  createdAt := now
  updatedAt := now
  completedAt := none

end WorkflowJob
end WorkflowJobs
end Oompah
