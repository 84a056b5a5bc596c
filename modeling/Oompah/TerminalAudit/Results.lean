import Oompah.Foundation.Json
import Oompah.TerminalAudit.Requests

/-!
# Audit results

How the verdict of an auditor is routed and what it writes to the audit document: the
attempt and the state of its record, the log of applied results, the retired evidence and
the status intent.
-/

namespace Oompah
namespace TerminalAudit

open Foundation
open TaskTransitions (Status)
open TaskEvaluation (TaskStatus statusText canonicalizeStatus)

namespace Verdict

def value : Verdict -> String
  | pass => "pass"
  | fail => "fail"
  | needsHuman => "needs_human"
  | error => "error"

end Verdict

namespace FailureClassification

def value : FailureClassification -> String
  | incomplete => "incomplete"
  | missingTests => "missing_tests"
  | unpushed => "unpushed"
  | missingEvidence => "missing_evidence"
  | ciFailure => "ci_failure"
  | conflict => "conflict"
  | outOfDate => "out_of_date"
  | healthyUnmergedReview => "healthy_unmerged_review"
  | ambiguousRequirements => "ambiguous_requirements"
  | externalCapability => "external_capability"
  | noAuditor => "no_auditor"
  | unsafeArchive => "unsafe_archive"
  | malformedResult => "malformed_result"
  | infrastructureError => "infrastructure_error"
  | policyIncompatibility => "policy_incompatibility"
  | finalizationFailure => "finalization_failure"
  | schedulerPause => "scheduler_pause"

/-- `_OPEN_CLASSES`. -/
def isOpen (c : FailureClassification) : Bool :=
  c ∈ [incomplete, missingTests, unpushed, missingEvidence]

/-- `_NEEDS_HUMAN_CLASSES`. -/
def needsHuman (c : FailureClassification) : Bool :=
  c ∈ [ambiguousRequirements, externalCapability, noAuditor]

/-- `_NEEDS_REBASE_CLASSES`. -/
def needsRebase (c : FailureClassification) : Bool :=
  c ∈ [conflict, outOfDate]

/-- `_NONTERMINAL_CLASSES`. -/
def nonterminal (c : FailureClassification) : Bool :=
  c ∈ [malformedResult, infrastructureError, policyIncompatibility, schedulerPause]

/-- `_NON_SUBSTANTIVE_REARM_CLASSES`. -/
def nonSubstantiveRearm (c : FailureClassification) : Bool :=
  c.nonterminal || c ∈ [noAuditor, finalizationFailure]

end FailureClassification

structure AuditResult where
  auditId : String
  targetState : TargetState
  evidenceFingerprint : EvidenceFingerprint
  verdict : Verdict
  failureClassification : Option FailureClassification := none
  message : String := ""
  safeEvidence : Option (List (String × Value)) := none
  auditor : Option ContributorIdentity := none
  attemptId : Option String := none
  questions : List String := []
  instructions : List String := []
  attemptOrigin : Option AuditAttemptOrigin := none

/-- `_is_safe_retry_exhaustion_escalation`. -/
def isSafeRetryExhaustionEscalation (result : AuditResult) : Bool :=
  result.verdict = .needsHuman && result.attemptOrigin = some .coordinatorRetryExhaustion &&
    result.failureClassification.any FailureClassification.nonSubstantiveRearm

inductive ResultRejection where
  | auditNotFound
  | auditOwnershipMismatch
  | targetMismatch
  | fingerprintMismatch
  | revisionBindingMismatch
  | stateMismatch
  | issueNotInValidation
  | currentEvidenceUnavailable
  | prerequisiteNotCompleted
  | currentEvidenceMismatch
  | workflowRevisionMissing
  | malformedResult
  | metadataQuarantined
  | needsHumanNotActionable
  | missingClassification
  | unparseableVerdict
  | retryCeiling
  | deliveryMutationInProgress
  | lifecycle (text : String)
  deriving DecidableEq

def ResultRejection.text : ResultRejection -> String
  | auditNotFound => "audit not found in pending chain"
  | auditOwnershipMismatch => "audit does not belong to the requested task or project"
  | targetMismatch => "target state does not match audit"
  | fingerprintMismatch => "evidence fingerprint does not match audit"
  | revisionBindingMismatch =>
    "auditor attempt revision binding does not match audit authority"
  | stateMismatch => "audit is no longer pending or in progress"
  | issueNotInValidation => "issue is not in In Validation"
  | currentEvidenceUnavailable => "current task evidence could not be refreshed"
  | prerequisiteNotCompleted => "Done prerequisite has not passed for Merged audit"
  | currentEvidenceMismatch => "current task evidence no longer matches audit"
  | workflowRevisionMissing =>
    "workflow-authored audit lacks its completion decision revision"
  | malformedResult => "audit result is malformed"
  | metadataQuarantined => "terminal-audit metadata is quarantined"
  | needsHumanNotActionable => "Needs Human comment must end with instructions or a question"
  | missingClassification => "FAIL verdict requires a failure classification"
  | unparseableVerdict => "unparseable verdict"
  | retryCeiling => "retry ceiling reached; verdict left pending"
  | deliveryMutationInProgress => "delivery_mutation_in_progress"
  | lifecycle text => text

structure ResultOutcome where
  success : Bool
  auditId : Option String := none
  appliedStatus : Option String := none
  postedComment : Bool := false
  idempotent : Bool := false
  advancedTarget : Option TargetState := none
  advancedAuditId : Option String := none
  cancelledAuditIds : List String := []
  reason : Option ResultRejection := none
  deriving DecidableEq

/-!
# Comments
-/

/-- The parts with a separator between them. -/
def joined (separator : String) : List String -> String
  | [] => ""
  | [part] => part
  | part :: rest => part ++ (separator ++ joined separator rest)

section Comments

variable (t : CharacterTable)

/-- `_sanitize_line`. -/
def sanitizeLine (value : String) : String :=
  redactForStorage t (strip value)

def listed (title : String) (items : List String) : List String :=
  let lines := (items.filter fun item => strip item ≠ "").map (sanitizeLine t)
  if lines.isEmpty then []
  else [title ++ joined "\n" (lines.map fun line => "- " ++ line)]

/-- `_append_result_context`. -/
def appendResultContext (body : String) (result : AuditResult) : String :=
  joined "\n\n" (body :: (listed t "Questions:\n" result.questions ++
      listed t "Instructions:\n" result.instructions))

/-- `_format_safe_evidence_line`. -/
def formatSafeEvidence (safe : Option (List (String × Value))) : String :=
  let items := (safe.getD []).filterMap fun entry =>
    match entry.2 with
    | .str value =>
      if strip value ≠ "" then
        some ("- " ++ redactForStorage t entry.1 ++ ": " ++ sanitizeLine t value)
      else none
    | _ => none
  if items.isEmpty then "" else "Safe evidence:\n" ++ joined "\n" items

/-- `_compose_pass_message`. -/
def composePassMessage (result : AuditResult) : String :=
  let body :=
    if result.message = "" then "Audit verdict: PASS." else sanitizeLine t result.message
  let evidence := formatSafeEvidence t result.safeEvidence
  joined "\n\n" (["Audit PASS — " ++ result.targetState.value, appendResultContext t body result] ++
      if evidence = "" then [] else [evidence])

/-- `_compose_fail_message`. -/
def composeFailMessage (result : AuditResult) (classification : FailureClassification)
    (targetStatus : String) : String :=
  let body :=
    if result.message = "" then "Audit verdict: FAIL." else sanitizeLine t result.message
  let spaced := String.ofList (classification.value.toList.map fun c => if c = '_' then ' ' else c)
  "Audit FAIL — " ++ spaced ++ ". Routing task to " ++ targetStatus ++ ".\n\n" ++
    appendResultContext t body result

/-- `_NEEDS_HUMAN_HINT`. -/
def needsHumanHint : String :=
  " Please review the audit output, decide the next step, and update this task with " ++
    "your instructions."

def rstrip (s : String) : String :=
  String.ofList (s.toList.rdropWhile Text.isSpace)

/-- `_compose_needs_human_message`. -/
def composeNeedsHumanMessage (result : AuditResult) : String :=
  let message := if result.message = "" then "" else sanitizeLine t result.message
  let body :=
    if message = "" then "The auditor could not produce a safe verdict." else message
  let combined :=
    "Needs Human — " ++ result.targetState.value ++ " audit requires operator input." ++
      ("\n\n" ++ appendResultContext t body result)
  if actionRequest.found t.isWord none combined.toList = true then combined
  else rstrip combined ++ needsHumanHint

/-- `validate_needs_human_comment` accepts the comment. -/
def validNeedsHumanComment (comment : String) : Bool :=
  strip comment ≠ "" && actionRequest.found t.isWord none (strip comment).toList

end Comments

/-!
# Routing
-/

inductive RoutingAction where
  | pass (status comment : String)
  | fail (status comment : String)
  | nonterminal (reason : ResultRejection)
  | reject (reason : ResultRejection)
  deriving DecidableEq

section Routing

variable (rt : AuditRuntime)

/-- `classify_failure_to_status`. -/
def classifyFailureToStatus (classification : FailureClassification)
    (previousState : Option String) : Except PyError (Option String) :=
  if classification.nonterminal then .ok none
  else if classification.isOpen then .ok (some (statusText .open))
  else if classification = .ciFailure then .ok (some (statusText .needsCiFix))
  else if classification.needsRebase then .ok (some (statusText .needsRebase))
  else if classification = .healthyUnmergedReview then .ok (some (statusText .inReview))
  else if classification.needsHuman then .ok (some (statusText .needsHuman))
  else if classification = .unsafeArchive then
    let previous := previousState.getD ""
    let canonical := canonicalizeStatus rt.text (.str previous)
    if previous ≠ "" ∧ isTerminal canonical = false then .ok (some canonical.text)
    else .ok (some (statusText .needsHuman))
  else .error (.valueError ("No routing defined for FailureClassification " ++
    classification.value))

/-- `_route_result`. -/
def routeResult (result : AuditResult) (previousState : Option String) :
    Except PyError RoutingAction :=
  match result.verdict with
  | .pass => .ok (.pass result.targetState.value (composePassMessage rt.table result))
  | .needsHuman =>
    .ok (.fail (statusText .needsHuman) (composeNeedsHumanMessage rt.table result))
  | .error => .ok (.nonterminal .unparseableVerdict)
  | .fail =>
    match result.failureClassification with
    | none => .ok (.reject .missingClassification)
    | some classification => do
        match ← classifyFailureToStatus rt classification previousState with
        | none =>
          .ok (.nonterminal (if classification = .malformedResult then .malformedResult
              else .retryCeiling))
        | some status =>
          if status = statusText .needsHuman then
            .ok (.fail status (composeNeedsHumanMessage rt.table result))
          else
            .ok (.fail status (composeFailMessage rt.table result classification status))

/-- The sorted pairs of `_result_idempotency_key`. -/
def pairLe (a b : String × String) : Bool :=
  if a.1 = b.1 then !(b.2 < a.2) else !(b.1 < a.1)

/-- `_result_idempotency_key`. -/
def resultIdempotencyKey (result : AuditResult) : String :=
  match result.attemptId with
  | some attemptId => attemptId
  | none =>
    let texts := fun items : List String => Json.list (items.map Json.text)
    let evidence := ((result.safeEvidence.getD []).map fun entry =>
      (entry.1, rt.text.str entry.2)).mergeSort pairLe
    "result-" ++ rt.text.sha256 (Json.object [("audit_id", .text result.auditId),
        ("target_state", .text result.targetState.value),
        ("evidence_fingerprint", .text result.evidenceFingerprint.digest),
        ("verdict", .text result.verdict.value),
        ("failure_classification",
          (result.failureClassification.map fun c => Json.text c.value).getD .null),
        ("message", .text result.message),
        ("safe_evidence", .list (evidence.map fun pair => texts [pair.1, pair.2])),
        ("questions", texts result.questions),
        ("instructions", texts result.instructions)]).encoded

end Routing

/-!
# The ledgers of the document
-/

namespace TerminalAuditMetadata

/-- `_MAX_APPLIED_RESULTS_MEMORY`. -/
def maxAppliedResults : Nat := 200

/-- `_record_applied_attempt`. -/
def recordApplied (d : TerminalAuditMetadata) (identity : AppliedAttempt) :
    List AppliedAttempt :=
  let log :=
    if identity ∈ d.appliedResults then d.appliedResults else d.appliedResults ++ [identity]
  if maxAppliedResults < log.length then log.drop (log.length - maxAppliedResults / 2) else log

/-- `_last_applied_status`. -/
def lastAppliedStatus (d : TerminalAuditMetadata) (identity : AppliedAttempt) :
    Option String :=
  match d.resultIntents.reverse.find? fun i =>
      i.auditId = identity.auditId && i.projectId = identity.projectId &&
        i.taskId = identity.taskId && i.attemptId = identity.attemptId &&
        strip i.status ≠ "" with
  | some intent => some intent.status
  | none =>
    (d.pendingChain.find? fun r =>
      r.auditId = identity.auditId && r.ofTask identity.projectId identity.taskId &&
        r.requestState = .completed).map fun r => r.targetState.value

/-- `_record_terminal_retirement`. -/
def recordRetirement (rows : List TerminalRetirement) (fresh : TerminalRetirement) :
    List TerminalRetirement :=
  let sameKey := fun row : TerminalRetirement =>
    row.projectId = fresh.projectId && row.taskId = fresh.taskId &&
      row.targetState = fresh.targetState &&
      row.evidenceFingerprint = fresh.evidenceFingerprint &&
      row.workflowRevision = fresh.workflowRevision && row.revision = fresh.revision
  let ids := fresh.auditIds.filter (· ≠ "")
  match rows.findIdx? sameKey with
  | none => rows ++ [{ fresh with auditIds := ids.eraseDups }]
  | some index =>
    rows.modify index fun row =>
      { row with
        applied := row.applied || fresh.applied
        kind := fresh.kind
        auditIds := (row.auditIds ++ ids).eraseDups }

def sameIntent (i j : ResultIntent) : Bool :=
  i.projectId = j.projectId && i.taskId = j.taskId && i.auditId = j.auditId &&
    i.attemptId = j.attemptId

/-- `_record_terminal_result_intent`. -/
def recordIntent (rows : List ResultIntent) (fresh : ResultIntent) : List ResultIntent :=
  if fresh.status = "" then rows
  else
    match rows.findIdx? fun row => sameIntent row fresh with
    | none => rows ++ [{ fresh with auditIds := fresh.auditIds.eraseDups, applied := false }]
    | some index =>
      rows.modify index fun row =>
        { row with
          targetState := fresh.targetState
          evidenceFingerprint := fresh.evidenceFingerprint
          status := fresh.status
          kind := fresh.kind
          auditIds := (row.auditIds ++ fresh.auditIds).eraseDups
          applied := if fresh.kind = .auditRearm then false else row.applied }

/-- `_mark_terminal_result_intent_applied`. -/
def markIntentApplied (rows : List ResultIntent) (identity : AppliedAttempt) :
    List ResultIntent :=
  rows.map fun row =>
    if row.projectId = identity.projectId && row.taskId = identity.taskId &&
        row.auditId = identity.auditId && row.attemptId = identity.attemptId then
      { row with applied := true }
    else row

/-- `_retired_audit_ids_for_result`. -/
def retiredAuditIds (d : TerminalAuditMetadata) (projectId taskId : String)
    (result : AuditResult) : List String :=
  match d.pendingChain.find? fun r =>
      r.auditId = result.auditId && r.ofTask projectId taskId &&
        r.targetState = result.targetState &&
        r.evidenceFingerprint = result.evidenceFingerprint with
  | none => []
  | some source =>
    ((d.retirements.filter fun row =>
      row.applied && row.projectId = projectId && row.taskId = taskId &&
        row.targetState = result.targetState &&
        row.evidenceFingerprint = result.evidenceFingerprint &&
        row.workflowRevision = source.workflowRevision &&
        row.revision = source.revision).flatMap TerminalRetirement.auditIds).eraseDups

/-- `_tracker_evidence_projection_for_audit`: whether a row is present, and its digest when
the row can be trusted. -/
def projectionFor (d : TerminalAuditMetadata) (auditId projectId taskId : String) :
    Bool × Option EvidenceFingerprint :=
  match d.projections.filter fun row => row.auditId = auditId with
  | [] => (false, none)
  | [row] =>
    if row.projectId = projectId ∧ row.taskId = taskId then (true, some row.digest)
    else (true, none)
  | _ => (true, none)

end TerminalAuditMetadata
end TerminalAudit
end Oompah
