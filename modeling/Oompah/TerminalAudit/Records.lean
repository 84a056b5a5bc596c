import Oompah.TerminalAudit.Texts
import Oompah.TaskEvaluation.Contract

/-!
# Terminal audit records

The records of the terminal audits of a task and the document that holds them: the chain
of audit requests with their attempts, and the ledgers of applied results, of retired
evidence, of status intents, of tracker projections and of owner rearms.
-/

namespace Oompah
namespace TerminalAudit

open Foundation

inductive TargetState where
  | done
  | merged
  | archived
  deriving DecidableEq

/-- `_target_state_to_status`; the value of a target is the text of its status. -/
def TargetState.value : TargetState -> String
  | done => "Done"
  | merged => "Merged"
  | archived => "Archived"

inductive RequestState where
  | pending
  | inProgress
  | completed
  | superseded
  | cancelled
  deriving DecidableEq

namespace RequestState

/-- `PENDING` or `IN_PROGRESS`. -/
def live : RequestState -> Bool
  | pending | inProgress => true
  | completed | superseded | cancelled => false

end RequestState

inductive Verdict where
  | pass
  | fail
  | needsHuman
  | error
  deriving DecidableEq

inductive FailureClassification where
  | incomplete
  | missingTests
  | unpushed
  | missingEvidence
  | ciFailure
  | conflict
  | outOfDate
  | healthyUnmergedReview
  | ambiguousRequirements
  | externalCapability
  | noAuditor
  | unsafeArchive
  | malformedResult
  | infrastructureError
  | policyIncompatibility
  | finalizationFailure
  | schedulerPause
  deriving DecidableEq

inductive AuditAttemptOrigin where
  | coordinatorRetryExhaustion
  | coordinatorAbandonedRecovery
  deriving DecidableEq

structure ContributorIdentity where
  identity : String
  source : Option String
  deriving DecidableEq

/-- Lower-case hexadecimal text of a SHA-256 digest. -/
def isDigest (text : String) : Bool :=
  text.length = 64 && text.toList.all fun c => c ∈ "0123456789abcdef".toList

structure EvidenceFingerprint where
  digest : String
  valid : isDigest digest = true
  deriving DecidableEq

structure AuditRevisionBinding where
  selectedRef : String
  selectedSha : String
  deriving DecidableEq

/-- The repository authority of an audit: a landing revision needs a binding. -/
structure RevisionAuthority where
  binding : Option AuditRevisionBinding
  landingRevision : Option String
  bound : landingRevision.isSome = true -> binding.isSome = true
  deriving DecidableEq

structure AuditAttempt where
  attemptId : String
  targetState : TargetState
  evidenceFingerprint : EvidenceFingerprint
  requestState : RequestState := .pending
  verdict : Option Verdict := none
  failureClassification : Option FailureClassification := none
  origin : Option AuditAttemptOrigin := none
  requestedBy : Option ContributorIdentity := none
  createdAt : Option String := none
  completedAt : Option String := none
  providerId : Option String := none
  model : Option String := none
  startedAt : Option String := none
  endedAt : Option String := none
  failureReason : Option String := none
  candidateRotationCount : Nat := 0
  branchKey : Option String := none
  sessionId : Option String := none
  nextRetryAt : Option String := none
  revision : RevisionAuthority := ⟨none, none, fun h => h⟩
  deriving DecidableEq

structure TerminalAuditRecord where
  auditId : String
  projectId : String
  taskId : String
  targetState : TargetState
  evidenceFingerprint : EvidenceFingerprint
  requestState : RequestState := .pending
  attempts : List AuditAttempt := []
  requestedBy : Option ContributorIdentity := none
  previousState : Option String := none
  createdAt : Option String := none
  updatedAt : Option String := none
  eligibleAt : Option String := none
  prerequisiteAuditId : Option String := none
  revision : RevisionAuthority := ⟨none, none, fun h => h⟩
  workflowRevision : Option String := none
  sourceGeneration : Nat := 1
  deriving DecidableEq

/-- The identity under which an applied result is remembered. -/
structure AppliedAttempt where
  projectId : String
  taskId : String
  auditId : String
  attemptId : String
  deriving DecidableEq

inductive IntentKind where
  | result
  | auditRearm
  deriving DecidableEq

/-- A status write recorded before the tracker is asked for it. -/
structure ResultIntent where
  projectId : String
  taskId : String
  auditId : String
  attemptId : String
  targetState : TargetState
  evidenceFingerprint : EvidenceFingerprint
  status : String
  auditIds : List String
  kind : IntentKind
  applied : Bool
  deriving DecidableEq

inductive RetirementKind where
  | result
  | override
  deriving DecidableEq

/-- Evidence whose terminal decision has been applied. -/
structure TerminalRetirement where
  projectId : String
  taskId : String
  targetState : TargetState
  evidenceFingerprint : EvidenceFingerprint
  workflowRevision : Option String
  revision : RevisionAuthority
  auditIds : List String
  kind : RetirementKind
  applied : Bool
  deriving DecidableEq

/-- The evidence of the tracker when an audit was staged. -/
structure TrackerProjection where
  auditId : String
  projectId : String
  taskId : String
  digest : EvidenceFingerprint
  deriving DecidableEq

structure AddendumCheck where
  name : String
  tail : Option String
  deriving DecidableEq

/-- `_normalize_evidence_addendum`: what is kept of an owner's evidence addendum. -/
structure EvidenceAddendum where
  evidenceFingerprint : EvidenceFingerprint
  checks : List AddendumCheck
  summary : Option String
  deriving DecidableEq

inductive RearmMode where
  | evidenceAddendum
  | infrastructureRecovery
  deriving DecidableEq

/-- The authorization of one owner rearm. -/
structure RearmAuthorization where
  version : Nat
  auditId : String
  supersededAuditId : String
  projectId : String
  taskId : String
  targetState : TargetState
  evidenceFingerprint : EvidenceFingerprint
  workflowRevision : Option String
  revision : RevisionAuthority
  sourceGeneration : Nat
  actor : ContributorIdentity
  reason : String
  mode : RearmMode
  evidenceAddendum : Option EvidenceAddendum
  deriving DecidableEq

structure TerminalAuditMetadata where
  pendingChain : List TerminalAuditRecord := []
  quarantined : Bool := false
  queuedCommentPosted : Bool := false
  appliedResults : List AppliedAttempt := []
  resultIntents : List ResultIntent := []
  retirements : List TerminalRetirement := []
  projections : List TrackerProjection := []
  rearmHistory : List RearmAuthorization := []
  deriving DecidableEq

/-!
# What is stored of a document
-/

section Storage

variable (t : CharacterTable)

def ContributorIdentity.stored (c : ContributorIdentity) : ContributorIdentity :=
  ⟨redactForStorage t c.identity, c.source.map (redactForStorage t)⟩

def AuditRevisionBinding.stored (b : AuditRevisionBinding) : AuditRevisionBinding :=
  ⟨redactForStorage t b.selectedRef, redactForStorage t b.selectedSha⟩

def RevisionAuthority.stored (r : RevisionAuthority) : RevisionAuthority where
  binding := r.binding.map fun b => b.stored t
  landingRevision := r.landingRevision.map (redactForStorage t)
  bound := by
    intro h
    rw [Option.isSome_map] at h ⊢
    exact r.bound h

def AuditAttempt.stored (a : AuditAttempt) : AuditAttempt :=
  let text := Option.map (redactForStorage t)
  { a with
    attemptId := redactForStorage t a.attemptId
    requestedBy := a.requestedBy.map fun c => c.stored t
    createdAt := text a.createdAt
    completedAt := text a.completedAt
    providerId := text a.providerId
    model := text a.model
    startedAt := text a.startedAt
    endedAt := text a.endedAt
    failureReason := text a.failureReason
    branchKey := text a.branchKey
    sessionId := text a.sessionId
    nextRetryAt := text a.nextRetryAt
    revision := a.revision.stored t }

/-- `DEFAULT_MAX_ATTEMPT_HISTORY`. -/
def maxAttemptHistory : Nat := 50

/-- `attempts[-max_attempt_history:]`. -/
def newest (attempts : List AuditAttempt) : List AuditAttempt :=
  attempts.drop (attempts.length - maxAttemptHistory)

def TerminalAuditRecord.stored (r : TerminalAuditRecord) : TerminalAuditRecord :=
  let text := Option.map (redactForStorage t)
  { r with
    auditId := redactForStorage t r.auditId
    projectId := redactForStorage t r.projectId
    taskId := redactForStorage t r.taskId
    attempts := (newest r.attempts).map fun a => a.stored t
    requestedBy := r.requestedBy.map fun c => c.stored t
    previousState := text r.previousState
    createdAt := text r.createdAt
    updatedAt := text r.updatedAt
    eligibleAt := text r.eligibleAt
    prerequisiteAuditId := text r.prerequisiteAuditId
    revision := r.revision.stored t
    workflowRevision := text r.workflowRevision }

def ResultIntent.stored (i : ResultIntent) : ResultIntent :=
  { i with
    projectId := redactForStorage t i.projectId
    taskId := redactForStorage t i.taskId
    auditId := redactForStorage t i.auditId
    attemptId := redactForStorage t i.attemptId
    status := redactForStorage t i.status
    auditIds := i.auditIds.map (redactForStorage t) }

def TerminalRetirement.stored (r : TerminalRetirement) : TerminalRetirement :=
  { r with
    projectId := redactForStorage t r.projectId
    taskId := redactForStorage t r.taskId
    workflowRevision := r.workflowRevision.map (redactForStorage t)
    revision := r.revision.stored t
    auditIds := r.auditIds.map (redactForStorage t) }

def TrackerProjection.stored (p : TrackerProjection) : TrackerProjection :=
  { p with
    auditId := redactForStorage t p.auditId
    projectId := redactForStorage t p.projectId
    taskId := redactForStorage t p.taskId }

def EvidenceAddendum.stored (e : EvidenceAddendum) : EvidenceAddendum :=
  { e with
    checks := e.checks.map fun check =>
      ⟨redactForStorage t check.name, check.tail.map (redactForStorage t)⟩
    summary := e.summary.map (redactForStorage t) }

def RearmAuthorization.stored (r : RearmAuthorization) : RearmAuthorization :=
  { r with
    auditId := redactForStorage t r.auditId
    supersededAuditId := redactForStorage t r.supersededAuditId
    projectId := redactForStorage t r.projectId
    taskId := redactForStorage t r.taskId
    workflowRevision := r.workflowRevision.map (redactForStorage t)
    revision := r.revision.stored t
    actor := r.actor.stored t
    reason := redactForStorage t r.reason
    evidenceAddendum := r.evidenceAddendum.map fun e => e.stored t }

/-- `bounded(...).to_dict()` as the next read finds it.  The keys of the log of applied
results are map keys, which are stored as they are.  Fields and projection rows that the
reader cannot parse, which `_merge_serialized_mapping` carries over, are left out. -/
def TerminalAuditMetadata.stored (d : TerminalAuditMetadata) : TerminalAuditMetadata :=
  { d with
    pendingChain := d.pendingChain.map fun r => r.stored t
    resultIntents := d.resultIntents.map fun i => i.stored t
    retirements := d.retirements.map fun r => r.stored t
    projections := d.projections.map fun p => p.stored t
    rearmHistory := d.rearmHistory.map fun r => r.stored t }

end Storage

/-!
# Storing twice
-/

section Restored

variable {t : CharacterTable}

@[simp] theorem redact_redact (text : String) :
    redactForStorage t (redactForStorage t text) = redactForStorage t text :=
  redactForStorage_storable text

theorem map_stored_stored {α : Type} {f : α -> α} (h : forall a, f (f a) = f a) (l : List α) :
    (l.map f).map f = l.map f := by
  rw [List.map_map]
  exact List.map_congr_left fun a _ => h a

theorem optionMap_stored_stored {α : Type} {f : α -> α} (h : forall a, f (f a) = f a)
    (o : Option α) : (o.map f).map f = o.map f := by
  cases o with
  | none => rfl
  | some a => exact congrArg some (h a)

@[simp] theorem ContributorIdentity.stored_stored (c : ContributorIdentity) :
    (c.stored t).stored t = c.stored t := by
  simp only [ContributorIdentity.stored, redact_redact, optionMap_stored_stored redact_redact]

@[simp] theorem AuditRevisionBinding.stored_stored (b : AuditRevisionBinding) :
    (b.stored t).stored t = b.stored t := by
  simp only [AuditRevisionBinding.stored, redact_redact]

@[simp] theorem RevisionAuthority.stored_stored (r : RevisionAuthority) :
    (r.stored t).stored t = r.stored t := by
  simp only [RevisionAuthority.stored, optionMap_stored_stored redact_redact,
    optionMap_stored_stored AuditRevisionBinding.stored_stored]

@[simp] theorem AuditAttempt.stored_stored (a : AuditAttempt) :
    (a.stored t).stored t = a.stored t := by
  simp only [AuditAttempt.stored, redact_redact, optionMap_stored_stored redact_redact,
    RevisionAuthority.stored_stored,
    optionMap_stored_stored ContributorIdentity.stored_stored]

theorem newest_map (f : AuditAttempt -> AuditAttempt) (attempts : List AuditAttempt) :
    newest (attempts.map f) = (newest attempts).map f := by
  unfold newest
  rw [List.length_map, List.map_drop]

theorem newest_newest (attempts : List AuditAttempt) :
    newest (newest attempts) = newest attempts := by
  have hlength : (newest attempts).length - maxAttemptHistory = 0 := by
    unfold newest
    rw [List.length_drop]
    omega
  have hdrop : newest (newest attempts) =
      (newest attempts).drop ((newest attempts).length - maxAttemptHistory) := rfl
  rw [hdrop, hlength, List.drop_zero]

@[simp] theorem TerminalAuditRecord.stored_stored (r : TerminalAuditRecord) :
    (r.stored t).stored t = r.stored t := by
  simp only [TerminalAuditRecord.stored, redact_redact,
    optionMap_stored_stored redact_redact, newest_map, newest_newest,
    map_stored_stored AuditAttempt.stored_stored,
    RevisionAuthority.stored_stored,
    optionMap_stored_stored ContributorIdentity.stored_stored]

@[simp] theorem ResultIntent.stored_stored (i : ResultIntent) :
    (i.stored t).stored t = i.stored t := by
  simp only [ResultIntent.stored, redact_redact, map_stored_stored redact_redact]

@[simp] theorem TerminalRetirement.stored_stored (r : TerminalRetirement) :
    (r.stored t).stored t = r.stored t := by
  simp only [TerminalRetirement.stored, redact_redact, map_stored_stored redact_redact,
    optionMap_stored_stored redact_redact, RevisionAuthority.stored_stored]

@[simp] theorem TrackerProjection.stored_stored (p : TrackerProjection) :
    (p.stored t).stored t = p.stored t := by
  simp only [TrackerProjection.stored, redact_redact]

@[simp] theorem EvidenceAddendum.stored_stored (e : EvidenceAddendum) :
    (e.stored t).stored t = e.stored t := by
  simp only [EvidenceAddendum.stored, optionMap_stored_stored redact_redact, List.map_map]
  congr 1
  apply List.map_congr_left
  intro check _
  simp only [Function.comp, redact_redact, optionMap_stored_stored redact_redact]

@[simp] theorem RearmAuthorization.stored_stored (r : RearmAuthorization) :
    (r.stored t).stored t = r.stored t := by
  simp only [RearmAuthorization.stored, redact_redact, optionMap_stored_stored redact_redact,
    RevisionAuthority.stored_stored, ContributorIdentity.stored_stored,
    optionMap_stored_stored EvidenceAddendum.stored_stored]

@[simp] theorem TerminalAuditMetadata.stored_stored (d : TerminalAuditMetadata) :
    (d.stored t).stored t = d.stored t := by
  simp only [TerminalAuditMetadata.stored, map_stored_stored TerminalAuditRecord.stored_stored,
    map_stored_stored ResultIntent.stored_stored,
    map_stored_stored TerminalRetirement.stored_stored,
    map_stored_stored TrackerProjection.stored_stored,
    map_stored_stored RearmAuthorization.stored_stored]

end Restored
end TerminalAudit
end Oompah
