import Oompah.TerminalAudit.Routing

/-!
# Results at the finalizing boundary

Before a result is applied it is written into the checkpoint of its workflow job: its
texts redacted and cut, under a digest and a bound on the whole.  After a crash the result
is built again from that checkpoint.
-/

namespace Oompah
namespace TerminalAudit

open Foundation

/-!
# Texts
-/

/-- `_SENSITIVE_RE`. -/
def sensitiveText : Pattern Char :=
  Pattern.oneOf
    [Pattern.all [letters "bearer", spaces, inks], Pattern.all [credentialWord, assignedValue]]

/-- `_SENSITIVE_RE.sub("[REDACTED]", text)`. -/
def redacted (t : CharacterTable) (text : String) : String :=
  String.ofList (Pattern.substitute t.isWord sensitiveText redactedText.toList none 0 text.toList)

/-- `text[:limit]`. -/
def cut (limit : Nat) (text : String) : String :=
  String.ofList (text.toList.take limit)

def bounded (t : CharacterTable) (limit : Nat) (text : String) : String :=
  cut limit (redacted t text)

/-- `_MAX_CHECKPOINT_TEXT`. -/
def maxCheckpointText : Nat := 512

/-- `_MAX_CHECKPOINT_BYTES`. -/
def maxCheckpointBytes : Nat := 4096

inductive WorkflowError where
  | identity (message : String)
  | leaseLost
  | value (message : String)
  deriving DecidableEq

/-- `_safe_text`. -/
def safeText (t : CharacterTable) (value name : String) : Except WorkflowError String :=
  let text := strip value
  if text = "" then .error (.value (name ++ " is required"))
  else .ok (bounded t maxCheckpointText text)

/-- A text that is stored as it is wherever it names something. -/
def Stable (t : CharacterTable) (text : String) : Prop :=
  strip text = text ∧ text ≠ "" ∧ bounded t maxCheckpointText text = text

/-!
# The authority of a record
-/

def nonblank (text : String) : Option String :=
  if strip text = "" then none else some (strip text)

/-- `_workflow_revision`. -/
def workflowRevision (record : TerminalAuditRecord) : Option String :=
  record.workflowRevision.bind nonblank

/-- `_revision_binding`. -/
def revisionBinding (record : TerminalAuditRecord) :
    Except WorkflowError (Option (String × String)) :=
  match record.revision.binding with
  | none => .ok none
  | some binding =>
    match nonblank binding.selectedRef, nonblank binding.selectedSha with
    | some ref, some sha => .ok (some (ref, sha))
    | none, none => .ok none
    | _, _ => .error (.identity "terminal-audit revision binding is incomplete")

def landingRevision (rt : AuditRuntime) (record : TerminalAuditRecord) : Option String :=
  (record.revision.landingRevision.bind nonblank).map rt.text.lower

def textEntry (key value : String) : String × Json :=
  (key, .text value)

/-- `_authority_payload`. -/
def authorityPayload (rt : AuditRuntime) (record : TerminalAuditRecord) :
    Except WorkflowError (List (String × String)) := do
  let binding <- revisionBinding record
  let revision := (workflowRevision record).toList.map fun value => ("workflow_revision", value)
  let bound := match binding with
    | some (ref, sha) => [("selected_ref", ref), ("selected_sha", sha)]
    | none => []
  match landingRevision rt record with
  | none => .ok (revision ++ bound)
  | some landing =>
    if binding.isNone then
      .error (.identity "terminal-audit landing revision has no validation binding")
    else .ok (revision ++ bound ++ [("landing_revision", landing)])

/-!
# Payloads
-/

structure AuditorPayload where
  identity : String
  source : Option String
  deriving DecidableEq

/-- The payload of a result before it is signed. -/
structure DecisionPayload where
  auditId : String
  targetState : String
  evidenceFingerprint : String
  attemptId : String
  verdict : String
  message : String
  failureClassification : Option String
  questions : List String
  instructions : List String
  safeEvidence : List (String × String)
  auditor : Option AuditorPayload
  deriving DecidableEq

/-- A payload with its `result_digest`. -/
structure ResultPayload extends DecisionPayload where
  resultDigest : String
  deriving DecidableEq

def optionalText (value : Option String) : Json :=
  match value with
  | some text => .text text
  | none => .null

def textList (items : List String) : Json :=
  .list (items.map Json.text)

def AuditorPayload.json (auditor : AuditorPayload) : Json :=
  .object [textEntry "identity" auditor.identity, ("source", optionalText auditor.source)]

namespace DecisionPayload

/-- The members that name what was decided. -/
def named (p : DecisionPayload) : Json.Entries :=
  [textEntry "audit_id" p.auditId, textEntry "target_state" p.targetState,
      textEntry "evidence_fingerprint" p.evidenceFingerprint,
      textEntry "attempt_id" p.attemptId, textEntry "verdict" p.verdict] ++
    p.failureClassification.toList.map (textEntry "failure_classification")

/-- The members that hold free text. -/
def told (p : DecisionPayload) : Json.Entries :=
  [textEntry "message" p.message, ("questions", textList p.questions),
      ("instructions", textList p.instructions),
      ("safe_evidence", .object (p.safeEvidence.map fun entry => textEntry entry.1 entry.2))] ++
    p.auditor.toList.map fun auditor => ("auditor", auditor.json)

def entries (p : DecisionPayload) : Json.Entries :=
  p.named ++ p.told

end DecisionPayload

def ResultPayload.json (p : ResultPayload) : Json :=
  .object (p.toDecisionPayload.entries ++ [textEntry "result_digest" p.resultDigest])

/-- `hashlib.sha256(_canonical(payload).encode()).hexdigest()`. -/
def DecisionPayload.digest (rt : AuditRuntime) (p : DecisionPayload) : String :=
  rt.text.sha256 (Json.object p.entries).encoded

/-- The merge of a dict comprehension: a later value replaces the one under its key. -/
def mergeEntry (entries : List (String × String)) (entry : String × String) :
    List (String × String) :=
  if entries.any fun old => old.1 = entry.1 then
    entries.map fun old => if old.1 = entry.1 then entry else old
  else entries ++ [entry]

section Payload

variable (rt : AuditRuntime)

def boundedEvidence (evidence : List (String × Value)) : List (String × String) :=
  ((evidence.take 4).map fun entry =>
    (bounded rt.table 64 entry.1, bounded rt.table 128 (rt.text.str entry.2))).foldl mergeEntry []

def boundedTexts (texts : List String) : List String :=
  (texts.take 3).map (bounded rt.table 192)

def boundedAuditor (auditor : ContributorIdentity) : AuditorPayload :=
  { identity := bounded rt.table 256 (strip auditor.identity)
    source := (auditor.source.filter (· ≠ "")).map (bounded rt.table 128) }

def auditorPayload (auditor : ContributorIdentity) : Except WorkflowError AuditorPayload :=
  if strip auditor.identity = "" then .error (.value "auditor.identity is required")
  else .ok (boundedAuditor rt auditor)

/-- `_result_payload`. -/
def resultPayload (result : AuditResult) : Except WorkflowError ResultPayload := do
  let auditId <- safeText rt.table result.auditId "audit_id"
  let targetState <- safeText rt.table result.targetState.value "target_state"
  let evidenceFingerprint <-
    safeText rt.table result.evidenceFingerprint.digest "evidence_fingerprint"
  let attemptId <- safeText rt.table (result.attemptId.getD "") "attempt_id"
  let verdict <- safeText rt.table result.verdict.value "verdict"
  let failureClassification <- result.failureClassification.mapM fun classification =>
    safeText rt.table classification.value "failure_classification"
  let auditor <- result.auditor.mapM (auditorPayload rt)
  let decision : DecisionPayload :=
    { auditId, targetState, evidenceFingerprint, attemptId, verdict
      message := bounded rt.table maxCheckpointText result.message
      failureClassification
      questions := boundedTexts rt result.questions
      instructions := boundedTexts rt result.instructions
      safeEvidence := boundedEvidence rt (result.safeEvidence.getD [])
      auditor }
  pure { decision with resultDigest := decision.digest rt }

end Payload

/-!
# Jobs
-/

/-- `TERMINAL_AUDIT_WORKFLOW_VERSION`. -/
def workflowVersion : Int := 2

/-- `TERMINAL_AUDIT_JOB_ACTION`. -/
def jobAction : String := "terminal_audit"

inductive AuditWorkflowPhase where
  | queued
  | running
  | finalizing
  | retryWait
  | actionRequired
  | completed
  deriving DecidableEq

structure Checkpoint where
  auditId : String
  targetState : String
  evidenceFingerprint : String
  authority : List (String × String)
  attemptId : String
  workflowJobId : String
  jobAttempt : Nat
  verdict : Option String
  failureClassification : Option String
  resultIdempotency : Option String
  result : Option ResultPayload

/-- A leased workflow job; `authority` is what its payload holds of the record's. -/
structure AuditJob where
  jobId : String
  running : Bool
  action : String
  generation : String
  expectedEvidenceRevision : String
  authority : List (String × String)
  phase : AuditWorkflowPhase
  attempts : Nat
  leaseToken : String
  leaseLive : Bool
  checkpoint : Option Checkpoint

namespace Checkpoint

/-- The members of a checkpoint beside its result. -/
def framed (c : Checkpoint) : Json.Entries :=
  [("version", .int workflowVersion), textEntry "audit_id" c.auditId,
      textEntry "target_state" c.targetState,
      textEntry "evidence_fingerprint" c.evidenceFingerprint] ++
    (c.authority.map fun entry => textEntry entry.1 entry.2) ++
    [textEntry "attempt_id" c.attemptId, textEntry "workflow_job_id" c.workflowJobId,
      ("job_attempt", .int c.jobAttempt)] ++
    c.verdict.toList.map (textEntry "verdict") ++
    c.failureClassification.toList.map (textEntry "failure_classification") ++
    c.resultIdempotency.toList.map (textEntry "result_idempotency")

def json (c : Checkpoint) : Json :=
  .object (c.framed ++ c.result.toList.map fun p => ("result", p.json))

end Checkpoint

section Boundary

variable (rt : AuditRuntime)

/-- `generation`. -/
def generation (record : TerminalAuditRecord) : Except WorkflowError String := do
  let authority <- authorityPayload rt record
  let payload : Json.Entries :=
    [("version", .int workflowVersion), textEntry "project_id" record.projectId,
        textEntry "task_id" record.taskId, textEntry "target_state" record.targetState.value,
        textEntry "evidence_fingerprint" record.evidenceFingerprint.digest] ++
      authority.map fun entry => textEntry entry.1 entry.2
  pure ("audit:" ++ rt.text.sha256 (Json.object payload).encoded)

def demand (condition : Prop) [Decidable condition] (message : String) :
    Except WorkflowError Unit :=
  if condition then .ok () else .error (.identity message)

/-- `_validate_owned_identity`. -/
def validateOwnedIdentity (job : AuditJob) (record : TerminalAuditRecord)
    (attemptId leaseToken : String) : Except WorkflowError Unit := do
  let authority <- authorityPayload rt record
  demand (job.running = true) "terminal-audit job is not running"
  demand (job.action = jobAction) "terminal-audit action identity changed"
  let current <- generation rt record
  demand (job.generation = current) "terminal-audit generation changed"
  demand (job.expectedEvidenceRevision = record.evidenceFingerprint.digest)
    "terminal-audit evidence revision changed"
  demand (job.authority = authority) "terminal-audit completion authority changed"
  demand (job.phase = .running) "terminal-audit phase no longer accepts results"
  match job.checkpoint with
  | none => .error (.identity "terminal-audit checkpoint workflow_job_id does not match")
  | some checkpoint => do
      demand (checkpoint.workflowJobId = job.jobId)
        "terminal-audit checkpoint workflow_job_id does not match"
      demand (checkpoint.auditId = record.auditId)
        "terminal-audit checkpoint audit_id does not match"
      demand (checkpoint.targetState = record.targetState.value)
        "terminal-audit checkpoint target_state does not match"
      demand (checkpoint.evidenceFingerprint = record.evidenceFingerprint.digest)
        "terminal-audit checkpoint evidence_fingerprint does not match"
      demand (checkpoint.attemptId = attemptId)
        "terminal-audit checkpoint attempt_id does not match"
      demand (forall entry, entry ∈ authority -> entry ∈ checkpoint.authority)
        "terminal-audit checkpoint authority does not match"
      demand (checkpoint.jobAttempt = job.attempts) "terminal-audit job attempt changed"
      demand (job.leaseToken = leaseToken) "terminal-audit lease token changed"

/-- `_checkpoint_payload` of a result. -/
def checkpointPayload (job : AuditJob) (record : TerminalAuditRecord) (attemptId : String)
    (result : ResultPayload) : Except WorkflowError Checkpoint := do
  let authority <- authorityPayload rt record
  let attempt <- safeText rt.table attemptId "attempt_id"
  let jobId <- safeText rt.table job.jobId "workflow_job_id"
  if job.attempts < 1 then .error (.value "job_attempt must be a positive integer")
  else do
    let verdict <- safeText rt.table result.verdict "verdict"
    let classification <- result.failureClassification.mapM fun value =>
      safeText rt.table value "failure_classification"
    let idempotency <- safeText rt.table attemptId "result_idempotency"
    let checkpoint : Checkpoint :=
      { auditId := record.auditId
        targetState := record.targetState.value
        evidenceFingerprint := record.evidenceFingerprint.digest
        authority
        attemptId := attempt
        workflowJobId := jobId
        jobAttempt := job.attempts
        verdict := some verdict
        failureClassification := classification
        resultIdempotency := some idempotency
        result := some result }
    if maxCheckpointBytes < checkpoint.json.encode.length then
      .error (.value "terminal-audit checkpoint exceeds the durable size bound")
    else .ok checkpoint

/-- `mark_finalizing`. -/
def markFinalizing (job : AuditJob) (record : TerminalAuditRecord) (result : AuditResult)
    (attemptId leaseToken : String) : Except WorkflowError AuditJob := do
  validateOwnedIdentity rt job record attemptId leaseToken
  let payload <- resultPayload rt result
  demand (payload.auditId = record.auditId) "result audit identity changed"
  demand (payload.targetState = record.targetState.value) "result target identity changed"
  demand (payload.evidenceFingerprint = record.evidenceFingerprint.digest)
    "result evidence identity changed"
  demand (payload.attemptId = attemptId) "result attempt identity changed"
  let checkpoint <- checkpointPayload rt job record attemptId payload
  if job.leaseLive = false then .error .leaseLost
  else .ok { job with phase := .finalizing, checkpoint := some checkpoint }

/-- `finalizing_result_payload`. -/
def finalizingResultPayload (job : AuditJob) : Except WorkflowError ResultPayload :=
  match job.checkpoint.bind fun checkpoint =>
      checkpoint.result.map fun result => (checkpoint, result) with
  | none => .error (.identity "finalizing result checkpoint is missing")
  | some (checkpoint, result) => do
      demand (strip result.auditId ≠ "") "finalizing result checkpoint lacks audit_id"
      demand (strip result.targetState ≠ "") "finalizing result checkpoint lacks target_state"
      demand (strip result.evidenceFingerprint ≠ "")
        "finalizing result checkpoint lacks evidence_fingerprint"
      demand (strip result.attemptId ≠ "") "finalizing result checkpoint lacks attempt_id"
      demand (strip result.verdict ≠ "") "finalizing result checkpoint lacks verdict"
      demand (result.auditId = checkpoint.auditId)
        "finalizing result checkpoint audit_id does not match owner"
      demand (result.targetState = checkpoint.targetState)
        "finalizing result checkpoint target_state does not match owner"
      demand (result.evidenceFingerprint = checkpoint.evidenceFingerprint)
        "finalizing result checkpoint evidence_fingerprint does not match owner"
      demand (result.attemptId = checkpoint.attemptId)
        "finalizing result checkpoint attempt_id does not match owner"
      demand (isDigest result.resultDigest = true)
        "finalizing result checkpoint lacks a valid digest"
      demand (result.resultDigest = result.toDecisionPayload.digest rt)
        "finalizing result checkpoint digest does not match"
      pure result

end Boundary

/-!
# The result after a crash
-/

/-- `TargetState.from_raw`. -/
def TargetState.fromRaw (text : String) : Option TargetState :=
  [TargetState.done, .merged, .archived].find? fun target => target.value = text

/-- `Verdict.from_raw`. -/
def Verdict.fromRaw (text : String) : Option Verdict :=
  [Verdict.pass, .fail, .needsHuman, .error].find? fun verdict => verdict.value = text

def FailureClassification.every : List FailureClassification :=
  [incomplete, missingTests, unpushed, missingEvidence, ciFailure, conflict, outOfDate,
    healthyUnmergedReview, ambiguousRequirements, externalCapability, noAuditor, unsafeArchive,
    malformedResult, infrastructureError, policyIncompatibility, finalizationFailure,
    schedulerPause]

/-- `FailureClassification.from_raw`. -/
def FailureClassification.fromRaw (text : String) : Option FailureClassification :=
  every.find? fun classification => classification.value = text

def EvidenceFingerprint.fromText (text : String) : Option EvidenceFingerprint :=
  if h : isDigest text = true then some ⟨text, h⟩ else none

/-- The contributor that a payload names. -/
def AuditorPayload.contributor (auditor : AuditorPayload) : Option ContributorIdentity :=
  if strip auditor.identity = "" then none else some ⟨auditor.identity, auditor.source⟩

/-- `_audit_result_from_finalizing_job`: no attempt origin is kept. -/
def auditResultFromPayload (p : ResultPayload) : Option AuditResult := do
  let targetState <- TargetState.fromRaw p.targetState
  let evidenceFingerprint <- EvidenceFingerprint.fromText p.evidenceFingerprint
  let verdict <- Verdict.fromRaw p.verdict
  let failureClassification <- p.failureClassification.mapM FailureClassification.fromRaw
  let auditor <- p.auditor.mapM AuditorPayload.contributor
  pure
    { auditId := p.auditId
      targetState
      evidenceFingerprint
      verdict
      failureClassification
      message := p.message
      safeEvidence := some (p.safeEvidence.map fun entry => (entry.1, Value.str entry.2))
      auditor
      attemptId := some p.attemptId
      questions := p.questions
      instructions := p.instructions }

end TerminalAudit
end Oompah
