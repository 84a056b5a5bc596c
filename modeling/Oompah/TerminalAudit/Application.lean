import Oompah.TerminalAudit.Results

/-!
# Applying a result

`apply_audit_result`: the task is read again, the evidence is compared with what the audit
was staged for, and the result is settled against the document in one update before the
tracker is asked for the status.  A result whose evidence has drifted stages its target
again instead of being applied.
-/

namespace Oompah
namespace TerminalAudit

open Foundation
open TaskTransitions (Status)
open TaskEvaluation (TaskStatus statusText canonicalizeStatus)

/-- What a terminal decision asks of the tracker and tells the caller. -/
structure Decided where
  targetStatus : String
  comment : String
  keepInValidation : Bool
  advanced : Option TerminalAuditRecord
  cancelledAuditIds : List String

/-- What the update of the document makes of a result. -/
inductive Settlement where
  | raised (error : PyError)
  | answered (outcome : ResultOutcome)
  | retried (reason : ResultRejection) (document : TerminalAuditMetadata)
  | decided (decision : Decided) (document : TerminalAuditMetadata)

/-- A call on one task: `current_issue` and the answers it gets. -/
structure ApplyCall where
  currentIssue : Issue
  result : AuditResult
  environment : Environment

section Settle

variable (rt : AuditRuntime) (projectId taskId : String)

def rejected (result : AuditResult) (reason : ResultRejection) : ResultOutcome :=
  { success := false, auditId := some result.auditId, reason := some reason }

def resultIdentity (result : AuditResult) : AppliedAttempt :=
  ⟨projectId, taskId, result.auditId, resultIdempotencyKey rt result⟩

/-- The answer to a result that has been applied. -/
def replayed (result : AuditResult) (d : TerminalAuditMetadata) : ResultOutcome :=
  { success := true
    auditId := some result.auditId
    appliedStatus := d.lastAppliedStatus (resultIdentity rt projectId taskId result)
    idempotent := true
    cancelledAuditIds := d.retiredAuditIds projectId taskId result }

/-- `requires_workflow_revision`. -/
def requiresWorkflowRevision (r : TerminalAuditRecord) : Bool :=
  rt.text.lower (strip ((r.requestedBy.bind ContributorIdentity.source).getD "")) ∈
    ["integrator", "orchestrator"]

/-- `_make_attempt`. -/
def makeAttempt (result : AuditResult) (now attemptId : String) : AuditAttempt where
  attemptId := attemptId
  targetState := result.targetState
  evidenceFingerprint := result.evidenceFingerprint
  requestState := if result.verdict = .error then .inProgress else .completed
  verdict := some result.verdict
  failureClassification := result.failureClassification
  origin := result.attemptOrigin
  requestedBy := result.auditor
  createdAt := some now
  completedAt := if result.verdict = .error then none else some now

/-- `a or b` of two optional texts. -/
def orText (a b : Option String) : Option String :=
  if a.getD "" = "" then b else a

/-- The attempt a launch has created, completed by its result. -/
def completeAttempt (existing attempt : AuditAttempt) (now : String) : AuditAttempt :=
  { attempt with
    createdAt := orText existing.createdAt attempt.createdAt
    providerId := orText existing.providerId attempt.providerId
    model := orText existing.model attempt.model
    startedAt := orText existing.startedAt attempt.startedAt
    branchKey := orText existing.branchKey attempt.branchKey
    sessionId := orText existing.sessionId attempt.sessionId
    candidateRotationCount :=
      if existing.candidateRotationCount = 0 then attempt.candidateRotationCount
      else existing.candidateRotationCount
    revision := existing.revision
    endedAt := if attempt.requestState = .completed then some now else existing.endedAt }

def mergeAttempts (record : TerminalAuditRecord) (attempt : AuditAttempt) (now : String) :
    List AuditAttempt :=
  let merged := record.attempts.map fun existing =>
    if existing.attemptId = attempt.attemptId then completeAttempt existing attempt now
    else existing
  if record.attempts.any fun existing => existing.attemptId = attempt.attemptId then merged
  else merged ++ [{ attempt with revision := record.revision }]

/-- An attempt that has ended without a decision. -/
def retryAttempt (existing : AuditAttempt) (now : String) (reason : ResultRejection)
    (message : String) : AuditAttempt :=
  { existing with
    requestState := .pending
    completedAt := none
    endedAt := orText existing.endedAt (some now)
    failureReason := orText existing.failureReason (orText (some reason.text)
      (orText (some message) (some "structured audit result requires retry"))) }

/-- The passed Done records that a Merged record can rest on. -/
def passedDone (issueIds : List String) (record candidate : TerminalAuditRecord) : Bool :=
  candidate.projectId = projectId && candidate.taskId ∈ issueIds && candidate.targetState = .done &&
    (record.prerequisiteAuditId.isNone || record.prerequisiteAuditId = some candidate.auditId) &&
    candidate.requestState = .completed &&
    candidate.evidenceFingerprint = record.evidenceFingerprint &&
    candidate.workflowRevision = record.workflowRevision &&
    candidate.attempts.any fun attempt =>
      attempt.targetState = .done && attempt.evidenceFingerprint = record.evidenceFingerprint &&
        attempt.requestState = .completed && attempt.verdict = some .pass

/-- The checks a live record must pass before a result reaches it. -/
def admits (issueIds : List String) (result : AuditResult) (chain : List TerminalAuditRecord)
    (record : TerminalAuditRecord) : Option ResultRejection :=
  let launched := record.attempts.find? fun attempt =>
    result.attemptId = some attempt.attemptId
  let passed := chain.filter (passedDone projectId issueIds record)
  if record.targetState ≠ result.targetState then some .targetMismatch
  else if record.evidenceFingerprint ≠ result.evidenceFingerprint then
    some .fingerprintMismatch
  else if !record.live then some .stateMismatch
  else if requiresWorkflowRevision rt record && record.workflowRevision.isNone then
    some .workflowRevisionMissing
  else if launched.any fun attempt =>
      record.revision.binding.isNone || attempt.revision ≠ record.revision then
    some .revisionBindingMismatch
  else if result.verdict = .pass && record.targetState = .merged && passed.isEmpty then
    some .prerequisiteNotCompleted
  else if result.verdict = .pass && record.targetState = .merged &&
      !passed.any fun candidate => candidate.revision = record.revision then
    some .revisionBindingMismatch
  else none

/-- A live record of the same generation as the one decided. -/
def siblingOf (target r : TerminalAuditRecord) : Bool :=
  r.ofTask projectId taskId && r.targetState = target.targetState &&
    r.evidenceFingerprint = target.evidenceFingerprint &&
    r.workflowRevision = target.workflowRevision && r.revision = target.revision && r.live

/-- The Merged record that a Done record makes eligible. -/
def successorOf (target r : TerminalAuditRecord) : Bool :=
  target.targetState = .done && r.targetState = .merged && r.ofTask projectId taskId &&
    r.evidenceFingerprint = target.evidenceFingerprint &&
    r.workflowRevision = target.workflowRevision && r.revision = target.revision && r.live

def nextPending (target : TerminalAuditRecord) (chain : List TerminalAuditRecord) :
    Option TerminalAuditRecord :=
  let candidates := chain.filter (successorOf projectId taskId target)
  match candidates.find? fun r => r.prerequisiteAuditId = some target.auditId with
  | some next => some next
  | none => candidates.find? fun r => r.prerequisiteAuditId.isNone

/-- The chain after a decision on the record at `index`. -/
def decidedChain (chain : List TerminalAuditRecord) (index : Nat)
    (target completed : TerminalAuditRecord) (now : String) : List TerminalAuditRecord :=
  chain.mapIdx fun i r =>
    if i = index then completed
    else if siblingOf projectId taskId target r then r.supersedeAt now
    else r

/-- `updated_record`: the record with the attempt of a result. -/
def attempted (record : TerminalAuditRecord) (attempt : AuditAttempt) (now : String) :
    TerminalAuditRecord :=
  { record with
    attempts := mergeAttempts record attempt now
    updatedAt := some now }

def completedRecord (record : TerminalAuditRecord) (attempt : AuditAttempt) (now : String) :
    TerminalAuditRecord :=
  { attempted record attempt now with requestState := .completed }

/-- The record that a result puts back for another attempt. -/
def retryRecord (record : TerminalAuditRecord) (attempt : AuditAttempt) (now : String)
    (reason : ResultRejection) (message : String) : TerminalAuditRecord :=
  { attempted record attempt now with
    requestState := .pending
    attempts := (attempted record attempt now).attempts.map fun existing =>
      if existing.attemptId = attempt.attemptId then retryAttempt existing now reason message
      else existing }

/-- The next record, made eligible by the decided one. -/
def eligibleAfter (record : TerminalAuditRecord) (now : String) (next : TerminalAuditRecord) :
    TerminalAuditRecord :=
  { next with
    eligibleAt := some now
    prerequisiteAuditId := some record.auditId
    updatedAt := some now }

/-- The chain with its next record replaced by the one that has become eligible. -/
def replaceNext (chain : List TerminalAuditRecord) (next advanced : Option TerminalAuditRecord) :
    List TerminalAuditRecord :=
  match next, advanced with
  | some old, some new => chain.set (chain.idxOf old) new
  | _, _ => chain

/-- What a result that passes or fails makes of the record at `index`. -/
def decideRecord (result : AuditResult) (now : String) (d : TerminalAuditMetadata)
    (index : Nat) (record : TerminalAuditRecord) (advances : Bool) (status comment : String) :
    Settlement :=
  let identity := resultIdentity rt projectId taskId result
  let chain := d.pendingChain
  let completed := completedRecord record (makeAttempt result now identity.attemptId) now
  let cancelled := (chain.zipIdx.filter fun entry =>
    entry.2 ≠ index && siblingOf projectId taskId record entry.1).map fun entry => entry.1.auditId
  let decidedChain := decidedChain projectId taskId chain index record completed now
  let next := nextPending projectId taskId record decidedChain
  let advanced := if advances then next.map (eligibleAfter record now) else none
  let ids := result.auditId :: cancelled
  let applied := if advanced.isSome then statusText .inValidation else status
  .decided
    { targetStatus := status
      comment := comment
      keepInValidation := advanced.isSome
      advanced := advanced
      cancelledAuditIds := cancelled }
    { d with
      pendingChain := replaceNext decidedChain next advanced
      appliedResults := d.recordApplied identity
      retirements :=
        TerminalAuditMetadata.recordRetirement d.retirements
          { projectId := projectId
            taskId := taskId
            targetState := result.targetState
            evidenceFingerprint := result.evidenceFingerprint
            workflowRevision := record.workflowRevision
            revision := record.revision
            auditIds := ids
            kind := .result
            applied := true }
      resultIntents :=
        TerminalAuditMetadata.recordIntent d.resultIntents
          { projectId := projectId
            taskId := taskId
            auditId := result.auditId
            attemptId := identity.attemptId
            targetState := result.targetState
            evidenceFingerprint := result.evidenceFingerprint
            status := applied
            auditIds := ids
            kind := .result
            applied := false } }

/-- What a result that decides nothing makes of the record at `index`. -/
def retryResult (result : AuditResult) (now : String) (d : TerminalAuditMetadata)
    (index : Nat) (record : TerminalAuditRecord) (reason : ResultRejection) : Settlement :=
  let identity := resultIdentity rt projectId taskId result
  .retried reason
    { d with
      pendingChain :=
        d.pendingChain.set index
          (retryRecord record (makeAttempt result now identity.attemptId) now reason result.message)
      appliedResults := d.recordApplied identity }

/-- The updater of `_apply_result_locked`. -/
def settle (issueIds : List String) (call : ApplyCall) (d : TerminalAuditMetadata) :
    Settlement :=
  let result := call.result
  let now := call.environment.now
  let chain := d.pendingChain
  let owned := fun r : TerminalAuditRecord =>
    r.auditId = result.auditId && r.ofTask projectId taskId
  if resultIdentity rt projectId taskId result ∈ d.appliedResults ∧ chain.any owned = true then
    .answered (replayed rt projectId taskId result d)
  else
    match chain.findIdx? owned, chain.find? owned with
    | some index, some record =>
      match admits rt projectId issueIds result chain record with
      | some reason => .answered (rejected result reason)
      | none =>
        match routeResult rt result record.previousState with
        | .error e => .raised e
        | .ok (.reject reason) => .answered (rejected result reason)
        | .ok action =>
          if !call.environment.deliveryRevoked then
            .answered (rejected result .deliveryMutationInProgress)
          else
            match action with
            | .nonterminal reason | .reject reason =>
              retryResult rt projectId taskId result now d index record reason
            | .pass status comment =>
              decideRecord rt projectId taskId result now d index record true status comment
            | .fail status comment =>
              decideRecord rt projectId taskId result now d index record false status comment
    | _, _ =>
      .answered (rejected result
        (if chain.any fun r => r.auditId = result.auditId then .auditOwnershipMismatch
          else .auditNotFound))

end Settle

/-!
# Evidence drift
-/

section Drift

variable (rt : AuditRuntime) (projectId taskId : String)

/-- What a drifted result must name before it can stage anything. -/
def driftedRecord (result : AuditResult) (d : TerminalAuditMetadata) :
    Except ResultRejection TerminalAuditRecord :=
  match d.pendingChain.find? fun r => r.auditId = result.auditId with
  | none => .error .auditNotFound
  | some stale =>
    if !stale.ofTask projectId taskId then .error .auditOwnershipMismatch
    else if stale.targetState ≠ result.targetState then .error .targetMismatch
    else if stale.evidenceFingerprint ≠ result.evidenceFingerprint then
      .error .fingerprintMismatch
    else if !stale.live then .error .stateMismatch
    else .ok stale

/-- The request that stages the target of a drifted result again. -/
def driftRequest (issue : Issue) (stale : TerminalAuditRecord) (result : AuditResult) :
    Request where
  projectId := projectId
  issue := { issue with state := orText stale.previousState issue.state }
  target := result.targetState
  trigger := stale.requestedBy.getD ⟨"oompah", some "terminal-audit-refresh"⟩
  evidence := issue.evidence
  revision := ⟨stale.revision.binding, none, by intro h; cases h⟩
  workflowRevision := stale.workflowRevision
  ensureValidationOnCoalesce := true
  revalidateCompleted := true

end Drift

/-!
# The call
-/

section Apply

variable (rt : AuditRuntime) (projectId : String)

def textEqual (a : Option String) (b : String) : Bool :=
  a.getD "" = "" || a = some b

/-- `_stamp_epic_audit_repair`. -/
def repairWrites (issue : Issue) (result : AuditResult) (appliedStatus : String) :
    List TrackerWrite :=
  if appliedStatus = statusText .open ∧
      rt.text.lower (strip (issue.issueType.getD "")) = "epic" ∧ result.verdict = .fail then
    [.setRepairMetadata result.auditId
        ((result.failureClassification.map FailureClassification.value).getD "")
        (String.ofList ((strip result.message).toList.take 512)),
      .addRepairLabel]
  else []

abbrev Applied := Except PyError ResultOutcome × TerminalAuditMetadata × List TrackerWrite

/-- The tracker writes and the acknowledgement that follow a decision. -/
def finish (call : ApplyCall) (issue : Issue) (decision : Decided)
    (d : TerminalAuditMetadata) : Applied :=
  let env := call.environment
  let status :=
    if decision.keepInValidation then statusText .inValidation else decision.targetStatus
  let comments := env.statusAccepted && env.postComments && decision.comment ≠ ""
  let d' :=
    if env.statusAccepted && env.finalizeAccepted then
      { d with
        resultIntents :=
          TerminalAuditMetadata.markIntentApplied d.resultIntents
            (resultIdentity rt projectId issue.identifier call.result) }.stored rt.table
    else d
  (.ok
    { success := true
      auditId := some call.result.auditId
      appliedStatus := some status
      postedComment := comments && env.commentAccepted
      advancedTarget := decision.advanced.map TerminalAuditRecord.targetState
      advancedAuditId := decision.advanced.map TerminalAuditRecord.auditId
      cancelledAuditIds := decision.cancelledAuditIds },
    d',
    [.updateStatus status] ++ (if comments then [.addComment decision.comment] else []) ++
      repairWrites rt issue call.result status)

/-- The update of the document and what follows it. -/
def applySettlement (call : ApplyCall) (issue : Issue) (issueIds : List String)
    (d : TerminalAuditMetadata) : Applied :=
  if d.quarantined then (.ok (rejected call.result .metadataQuarantined), d, [])
  else
    match settle rt projectId issue.identifier issueIds call d with
    | .raised e => (.error e, d, [])
    | .answered outcome => (.ok outcome, d.stored rt.table, [])
    | .retried reason d' =>
      (.ok { success := true, auditId := some call.result.auditId, reason := some reason },
        d'.stored rt.table, [])
    | .decided decision d' => finish rt projectId call issue decision (d'.stored rt.table)

/-- The answer for a task that is not in validation. -/
def applyOutside (call : ApplyCall) (issue : Issue) (d : TerminalAuditMetadata) :
    ResultOutcome :=
  let result := call.result
  if d.pendingChain.any (fun r =>
      r.auditId = result.auditId && r.ofTask projectId issue.identifier) ∧
      resultIdentity rt projectId issue.identifier result ∈ d.appliedResults then
    replayed rt projectId issue.identifier result d
  else rejected result .issueNotInValidation

/-- The outcome of a result whose evidence has drifted. -/
def applyDrifted (call : ApplyCall) (issue : Issue) (stale : TerminalAuditRecord)
    (d : TerminalAuditMetadata) : Applied :=
  let staged :=
    transitionLocked rt (driftRequest projectId issue stale call.result) call.environment d
  if staged.1.success then
    (.ok
      { success := false
        auditId := some call.result.auditId
        cancelledAuditIds :=
          if staged.1.supersededAuditIds.isEmpty then staged.1.supersededAuditId.toList
          else staged.1.supersededAuditIds
        reason := some .currentEvidenceMismatch },
      staged.2.1, staged.2.2)
  else
    (.ok (rejected call.result .currentEvidenceUnavailable), staged.2.1, staged.2.2)

/-- What the evidence of a task must be for a result to count, if it is known. -/
def expectedEvidence (result : AuditResult) (d : TerminalAuditMetadata) (taskId : String) :
    Option EvidenceFingerprint :=
  match d.projectionFor result.auditId projectId taskId with
  | (true, digest) => digest
  | (false, _) => some result.evidenceFingerprint

/-- The check that a comment which hands the task to a human asks for something. -/
def handoffRefused (result : AuditResult) : Bool :=
  (result.verdict = .needsHuman || (result.verdict = .fail &&
        result.failureClassification.any FailureClassification.needsHuman)) &&
    !validNeedsHumanComment rt.table (composeNeedsHumanMessage rt.table result)

/-- `_lifecycle_conflict`. -/
def lifecycleConflict (env : Environment) (target : TargetState) : Option String :=
  if target = .merged then env.lifecycleConflict else none

/-- A result for a task in validation whose evidence is the one expected. -/
def applyCurrent (call : ApplyCall) (issue : Issue) (d : TerminalAuditMetadata) : Applied :=
  let result := call.result
  let issueIds := issue.identifier :: (issue.id.filter (· ≠ "")).toList
  match result.verdict, lifecycleConflict call.environment result.targetState with
  | .pass, some conflict => (.ok (rejected result (.lifecycle conflict)), d, [])
  | _, _ =>
    if handoffRefused rt result then (.ok (rejected result .needsHumanNotActionable), d, [])
    else applySettlement rt projectId call issue issueIds d

/-- `_apply_result_locked` after the task has been read. -/
def applyRead (call : ApplyCall) (issue : Issue) (d : TerminalAuditMetadata) : Applied :=
  let result := call.result
  if !textEqual issue.projectId projectId then
    (.ok (rejected result .auditOwnershipMismatch), d, [])
  else if issue.status rt ≠ .canonical .inValidation then
    (.ok (applyOutside rt projectId call issue d), d, [])
  else
    match expectedEvidence projectId result d issue.identifier with
    | none => (.ok (rejected result .currentEvidenceUnavailable), d, [])
    | some expected =>
      if call.environment.detailReads && issue.evidence ≠ expected then
        match driftedRecord projectId issue.identifier result d with
        | .error reason => (.ok (rejected result reason), d, [])
        | .ok stale =>
          if isSafeRetryExhaustionEscalation result then
            applyCurrent rt projectId call issue d
          else if (d.projectionFor result.auditId projectId issue.identifier).2 ≠
              some result.evidenceFingerprint then
            (.ok (rejected result .currentEvidenceUnavailable), d, [])
          else applyDrifted rt projectId call issue stale d
      else applyCurrent rt projectId call issue d

/-- `_apply_result_locked`. -/
def applyResultLocked (call : ApplyCall) (issue : Issue) (d : TerminalAuditMetadata) :
    Applied :=
  if call.environment.detailReads then
    match call.environment.lockedRead with
    | none => (.ok (rejected call.result .currentEvidenceUnavailable), d, [])
    | some read =>
      if read.identifier ≠ issue.identifier then
        (.ok (rejected call.result .auditOwnershipMismatch), d, [])
      else applyRead rt projectId call read d
  else applyRead rt projectId call issue d

/-- The callback snapshot of a legacy audit no longer agrees with the tracker. -/
def snapshotMoved (call : ApplyCall) (issue : Issue) (d : TerminalAuditMetadata) : Bool :=
  let result := call.result
  issue.status rt = .canonical .inValidation &&
    call.currentIssue.evidence = result.evidenceFingerprint &&
    issue.evidence ≠ call.currentIssue.evidence &&
    !isSafeRetryExhaustionEscalation result &&
    !(d.projectionFor result.auditId projectId issue.identifier).1

/-- `apply_audit_result`. -/
def applyAuditResult (call : ApplyCall) (d : TerminalAuditMetadata) : Applied :=
  if call.environment.detailReads then
    match call.environment.refreshed with
    | none => (.ok (rejected call.result .currentEvidenceUnavailable), d, [])
    | some issue =>
      if issue.identifier ≠ call.currentIssue.identifier ∨
          (issue.projectId.isSome ∧ issue.projectId ≠ some projectId) then
        (.ok (rejected call.result .auditOwnershipMismatch), d, [])
      else if snapshotMoved rt projectId call issue d then
        (.ok (rejected call.result .fingerprintMismatch), d, [])
      else applyResultLocked rt projectId call { issue with projectId := some projectId } d
  else applyResultLocked rt projectId call call.currentIssue d

end Apply
end TerminalAudit
end Oompah
