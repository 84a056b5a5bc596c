import Oompah.WorkflowJobs.Row

/-!
# Row actions

Every statement of the store that changes an existing row sets the columns of
one action below.  `apply` is the `SET` clause; `Applicable` is what the
selecting query, the lease check or the `WHERE` clause has established about
the row when the statement runs.
-/

namespace Oompah
namespace WorkflowJobs

inductive RowAction where
  | manage
  | supersede (replacement message : String) (now : Int)
  | cancel (message : String) (now : Int)
  | cancelOwned (message : String) (now : Int)
  | recover (category : WorkflowFailureCategory) (error : String)
      (phase : Option String) (now : Int)
  | claim (owner token : String) (expiresAt now : Int)
  | reclaim (owner token : String) (expiresAt now : Int)
  | renew (expiresAt now : Int)
  | checkpoint (phase : String) (saved : JsonObject) (now : Int)
  | complete (result : Option JsonObject) (now : Int)
  | fail (category : WorkflowFailureCategory) (message : String)
      (retryable : Bool) (retryDelay : Int) (phase : Option String) (now : Int)
  | requeue (phase : String) (now : Int)
  | deferAdministrative (retryAt now : Int)
  | deferUntil (reason : String) (deadline now : Int)
  | quarantine (category : WorkflowFailureCategory) (message : String) (now : Int)
  | settleReturned (effectReceipt : Option (List (String × String))) (now : Int)
  | settleFailed (category : WorkflowFailureCategory) (message : String)
      (retryable : Bool) (retryDelay now : Int)
  | requestRecycle (token : String) (now : Int)
  | rearm (phase : String) (now : Int)
  | restore (captured : WorkflowJob)
  deriving DecidableEq

namespace WorkflowJob

/-- The columns every statement that ends ownership clears. -/
def released (row : WorkflowJob) : WorkflowJob :=
  { row with leaseOwner := none, leaseToken := none, leaseExpiresAt := none }

def attemptsExhausted (row : WorkflowJob) : Bool :=
  row.spec.maxAttempts ≤ row.attempts

def canRetry (row : WorkflowJob) (retryable : Bool) : Bool :=
  retryable && !row.attemptsExhausted

/-- Undo the increment `claim_next` made at the execution boundary. -/
def restoredAttempts (row : WorkflowJob) : Int := max (row.attempts - 1) 0

/-- A terminal-audit lease that owns a complete typed result. -/
def isFinalizingAudit (row : WorkflowJob) : Bool :=
  row.spec.action = "terminal_audit" ∧ row.phase = "finalizing"

def settledCheckpoint (row : WorkflowJob) : JsonObject :=
  JsonObject.pop (row.checkpoint.getD []) "quarantine_recycle"

end WorkflowJob

namespace RowAction

def apply (row : WorkflowJob) : RowAction -> WorkflowJob
  | manage => { row with workflowManaged := true }
  | supersede replacement message now =>
    { row.released with
      state := .superseded
      retryAt := none
      supersededByGeneration := some replacement
      lastError := some message
      updatedAt := now
      completedAt := some now }
  | cancel message now =>
    { row.released with
      state := .cancelled
      retryAt := none
      lastError := some message
      updatedAt := now
      completedAt := some now }
  | cancelOwned message now =>
    { row.released with
      state := .cancelled
      phase := "complete"
      retryAt := none
      lastError := some message
      updatedAt := now
      completedAt := some now }
  | recover category error phase now =>
    { row.released with
      state := if row.attemptsExhausted then .exhausted else .queued
      retryAt := none
      phase := phase.getD row.phase
      failureCategory := some category
      lastError := some error
      updatedAt := now
      completedAt := if row.attemptsExhausted then some now else none }
  | claim owner token expiresAt now =>
    { row with
      state := .running
      leaseOwner := some owner
      leaseToken := some token
      leaseExpiresAt := some expiresAt
      retryAt := none
      attempts := row.attempts + 1
      updatedAt := now }
  | reclaim owner token expiresAt now =>
    { row with
      leaseOwner := some owner
      leaseToken := some token
      leaseExpiresAt := some expiresAt
      updatedAt := now }
  | renew expiresAt now =>
    { row with leaseExpiresAt := some expiresAt, updatedAt := now }
  | checkpoint phase saved now =>
    { row with phase := phase, checkpoint := some saved, updatedAt := now }
  | complete result now =>
    { row.released with
      state := .completed
      phase := "complete"
      resultTransition := result
      updatedAt := now
      completedAt := some now }
  | fail category message retryable retryDelay phase now =>
    { row.released with
      state := if row.canRetry retryable then .retryWait else .exhausted
      retryAt := if row.canRetry retryable then some (now + retryDelay) else none
      phase := phase.getD row.phase
      failureCategory := some category
      lastError := some message
      updatedAt := now
      completedAt := if row.canRetry retryable then none else some now }
  | requeue phase now =>
    { row.released with
      state := .queued
      phase := phase
      attempts := row.restoredAttempts
      retryAt := none
      failureCategory := none
      lastError := none
      checkpoint := none
      resultTransition := none
      updatedAt := now
      completedAt := none }
  | deferAdministrative retryAt now =>
    { row.released with
      state := .retryWait
      attempts := row.restoredAttempts
      retryAt := some retryAt
      failureCategory := none
      lastError := none
      updatedAt := now
      completedAt := none }
  | deferUntil reason deadline now =>
    { row.released with
      state := if deadline ≤ now then .superseded else .retryWait
      attempts := row.restoredAttempts
      retryAt := if deadline ≤ now then none else some deadline
      failureCategory := none
      lastError := some reason
      supersededByGeneration :=
        if deadline ≤ now then some ("reassess:" ++ row.spec.generation) else none
      updatedAt := now
      completedAt := if deadline ≤ now then some now else none }
  | quarantine category message now =>
    { row with
      phase := "quarantined"
      leaseExpiresAt := none
      retryAt := none
      failureCategory := some category
      lastError := some message
      updatedAt := now }
  | settleReturned effectReceipt now =>
    { row.released with
      state := .queued
      phase := if effectReceipt.isSome then "effect_returned"
        else "quarantine_recovered"
      checkpoint := some (match effectReceipt with
        | some receipt =>
          row.settledCheckpoint.set "effect" (JsonValue.mapping receipt)
        | none => row.settledCheckpoint)
      retryAt := none
      attempts := row.restoredAttempts
      failureCategory := none
      lastError := none
      updatedAt := now
      completedAt := none }
  | settleFailed category message retryable retryDelay now =>
    { row.released with
      state := if row.canRetry retryable then .retryWait else .exhausted
      phase := "quarantine_recovered"
      checkpoint := some row.settledCheckpoint
      retryAt := if row.canRetry retryable then some (now + retryDelay) else none
      failureCategory := some category
      lastError := some message
      updatedAt := now
      completedAt := if row.canRetry retryable then none else some now }
  | requestRecycle token now =>
    { row with
      checkpoint := some ((row.checkpoint.getD []).set "quarantine_recycle" (JsonValue.mapping
          [("lease_owner", row.leaseOwner.getD ""), ("lease_token", token),
            ("requested_at", toString now)]))
      updatedAt := now }
  | rearm phase now =>
    { row.released with
      state := .queued
      phase := phase
      attempts := 0
      retryAt := none
      failureCategory := none
      lastError := none
      checkpoint := none
      resultTransition := none
      supersededByGeneration := none
      updatedAt := now
      completedAt := none }
  | restore captured =>
    { captured with
      jobId := row.jobId
      enqueueSequence := row.enqueueSequence }

@[simp] theorem apply_jobId (row : WorkflowJob) (action : RowAction) :
    (action.apply row).jobId = row.jobId := by
  cases action <;> rfl

@[simp] theorem apply_enqueueSequence (row : WorkflowJob) (action : RowAction) :
    (action.apply row).enqueueSequence = row.enqueueSequence := by
  cases action <;> rfl

/-!
# Where actions are taken
-/

/-- The row is leased with an expiry, as `_owned_row_locked` requires. -/
def Leased (row : WorkflowJob) : Prop :=
  row.state = .running ∧ row.leaseExpiresAt.isSome

def Applicable (row : WorkflowJob) : RowAction -> Prop
  | manage => True
  | supersede _ _ _ => row.isActive ∧ ¬ row.isQuarantined
  | cancel _ _ => row.isActive ∧ ¬ row.isQuarantined
  | cancelOwned _ _ => Leased row
  | recover _ _ _ _ => row.state = .running ∧ ¬ row.isFinalizingAudit
  | claim owner token _ _ =>
    (row.state = .queued ∨ row.state = .retryWait) ∧
      row.attempts < row.spec.maxAttempts ∧ owner ≠ "" ∧ token ≠ ""
  | reclaim owner token _ _ => row.state = .running ∧ owner ≠ "" ∧ token ≠ ""
  | renew _ _ => Leased row
  | checkpoint _ _ _ => Leased row
  | complete _ _ => Leased row
  | fail _ _ _ _ _ _ => Leased row
  | requeue _ _ => Leased row
  | deferAdministrative _ _ => Leased row
  | deferUntil _ _ _ => Leased row
  | quarantine _ _ _ => row.state = .running
  | settleReturned _ _ => row.isQuarantined
  | settleFailed _ _ _ _ _ => row.isQuarantined
  | requestRecycle _ _ => row.isQuarantined
  | rearm _ _ => row.state = .completed ∨ row.state = .exhausted
  | restore captured => captured.jobId = row.jobId ∧ ¬ row.isQuarantined

/-- The phase an action writes from its caller's argument. -/
def phaseArgument : RowAction -> Option String
  | checkpoint phase _ _ => some phase
  | recover _ _ phase _ => phase
  | fail _ _ _ _ phase _ => phase
  | requeue phase _ => some phase
  | rearm phase _ => some phase
  | _ => none

def isReclaim : RowAction -> Bool
  | reclaim _ _ _ _ => true
  | _ => false

def isClaim : RowAction -> Bool
  | claim _ _ _ _ => true
  | _ => false

def capturedRow : RowAction -> Option WorkflowJob
  | restore captured => some captured
  | _ => none

/-- Actions that replace or clear the saved checkpoint. -/
def rewritesCheckpoint : RowAction -> Bool
  | checkpoint _ _ _ | requeue _ _ | settleReturned _ _
  | settleFailed _ _ _ _ _ | requestRecycle _ _ | rearm _ _ => true
  | _ => false

/-- The token of the lease an action grants. -/
def grantedToken : RowAction -> Option String
  | claim _ token _ _ => some token
  | reclaim _ token _ _ => some token
  | _ => none

/-- Actions that need no permission beyond being applicable. -/
def isPlain (action : RowAction) : Bool :=
  action.phaseArgument.isNone && !action.isReclaim && !action.isClaim &&
    action.capturedRow.isNone && !action.rewritesCheckpoint

variable {action : RowAction}

theorem not_lease_of_rewritesCheckpoint (h : action.rewritesCheckpoint = true) :
    action.isReclaim = false ∧ action.isClaim = false ∧ action.capturedRow = none := by
  cases action <;> first | exact ⟨rfl, rfl, rfl⟩ | cases h

theorem grantedToken_eq_none
    (hclaim : action.isClaim = false) (hreclaim : action.isReclaim = false) :
    action.grantedToken = none := by
  cases action with
  | claim => cases hclaim
  | reclaim => cases hreclaim
  | _ => rfl

variable {row : WorkflowJob}

theorem apply_spec (h : forall captured, action.capturedRow = some captured ->
      captured.spec = row.spec) :
    (action.apply row).spec = row.spec := by
  cases action with
  | restore captured => exact h captured rfl
  | _ => rfl

theorem apply_workflowManaged (h : forall captured, action.capturedRow = some captured ->
      captured.workflowManaged = true)
    (hmanaged : row.workflowManaged = true) :
    (action.apply row).workflowManaged = true := by
  cases action with
  | manage => rfl
  | restore captured => exact h captured rfl
  | _ => exact hmanaged

/-- Only a claim or a restored running row makes a row running. -/
theorem running_of_apply (happlicable : action.Applicable row) (hclaim : action.isClaim = false)
    (hrestore : action.capturedRow = none) (hrunning : (action.apply row).state = .running) :
    row.state = .running := by
  cases action with
  | manage => exact hrunning
  | claim => cases hclaim
  | restore => cases hrestore
  | reclaim => exact happlicable.left
  | renew => exact happlicable.left
  | checkpoint => exact happlicable.left
  | quarantine => exact happlicable
  | requestRecycle =>
    simp only [Applicable, WorkflowJob.isQuarantined] at happlicable
    simp_all
  | recover =>
    simp only [apply] at hrunning
    split at hrunning <;> cases hrunning
  | fail =>
    simp only [apply] at hrunning
    split at hrunning <;> cases hrunning
  | deferUntil =>
    simp only [apply] at hrunning
    split at hrunning <;> cases hrunning
  | settleFailed =>
    simp only [apply] at hrunning
    split at hrunning <;> cases hrunning
  | supersede => cases hrunning
  | cancel => cases hrunning
  | cancelOwned => cases hrunning
  | complete => cases hrunning
  | requeue => cases hrunning
  | deferAdministrative => cases hrunning
  | settleReturned => cases hrunning
  | rearm => cases hrunning

end RowAction
end WorkflowJobs
end Oompah
