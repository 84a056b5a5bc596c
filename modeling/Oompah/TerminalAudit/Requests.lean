import Oompah.TerminalAudit.Records

/-!
# Audit requests

How a request for a terminal status becomes audit records: an identical request coalesces
with the record that is already live, a changed one supersedes what it replaces and
appends new records.  The requested target may bring others with it: a new Done request
withdraws the Merged request behind the old one, and a Merged request queues the Done
audit it depends on.
-/

namespace Oompah
namespace TerminalAudit

open Foundation
open TaskTransitions (Status)
open TaskEvaluation (TaskStatus statusText canonicalizeStatus)

/-- The parts of the language's library that the coordinator relies on. -/
structure AuditRuntime where
  text : Runtime
  table : CharacterTable
  timestamp : String -> Option Int

/-- What the tracker shows of a task; `evidence` is `compute_issue_evidence_fingerprint`. -/
structure Issue where
  identifier : String
  id : Option String := none
  projectId : Option String := none
  state : Option String := none
  issueType : Option String := none
  evidence : EvidenceFingerprint
  deriving DecidableEq

/-- A write the coordinator asks the tracker for, the audit document apart. -/
inductive TrackerWrite where
  | updateStatus (status : String)
  | addComment (text : String)
  | setRepairMetadata (auditId classification summary : String)
  | addRepairLabel
  deriving DecidableEq

section Status

variable (rt : AuditRuntime)

/-- `canonicalize_status(state or "")`. -/
def Issue.status (issue : Issue) : TaskStatus :=
  canonicalizeStatus rt.text (.str (issue.state.getD ""))

/-- Membership in `TERMINAL_STATUSES`. -/
def isTerminal : TaskStatus -> Bool
  | .canonical status => status.isTerminalTarget
  | .custom _ => false

end Status

/-!
# Requests and their results
-/

structure Request where
  projectId : String
  issue : Issue
  target : TargetState
  trigger : ContributorIdentity
  evidence : EvidenceFingerprint
  revision : RevisionAuthority
  workflowRevision : Option String
  coalescePendingTarget : Bool := false
  ensureValidationOnCoalesce : Bool := false
  queuedComment : Option String := none
  revalidateCompleted : Bool := false

inductive TransitionReason where
  | currentEvidenceUnavailable
  | currentEvidenceMismatch
  | metadataQuarantined
  | alreadyCompleted
  deriving DecidableEq

structure TransitionResult where
  success : Bool
  auditId : Option String := none
  auditIds : List String := []
  queuedTargets : List TargetState := []
  coalesced : Bool := false
  statusRepaired : Bool := false
  statusStaged : Bool := false
  supersededAuditId : Option String := none
  supersededAuditIds : List String := []
  cancelledAuditIds : List String := []
  reason : Option TransitionReason := none
  deriving DecidableEq

namespace TerminalAuditRecord

def ofTask (r : TerminalAuditRecord) (projectId taskId : String) : Bool :=
  r.projectId = projectId && r.taskId = taskId

def live (r : TerminalAuditRecord) : Bool :=
  r.requestState.live

/-- `PENDING`, `IN_PROGRESS` or `COMPLETED`. -/
def standing (r : TerminalAuditRecord) : Bool :=
  r.live || r.requestState = .completed

def supersede (r : TerminalAuditRecord) : TerminalAuditRecord :=
  { r with requestState := .superseded }

def supersedeAt (r : TerminalAuditRecord) (now : String) : TerminalAuditRecord :=
  { r with requestState := .superseded, updatedAt := some now }

end TerminalAuditRecord

namespace Request

variable (q : Request)

def ofTask (r : TerminalAuditRecord) : Bool :=
  r.ofTask q.projectId q.issue.identifier

/-- `_binding_matches`. -/
def bindingMatches (r : TerminalAuditRecord) : Bool :=
  q.revision.binding.isNone || r.revision = q.revision

/-- `_completion_authority_matches`. -/
def completionAuthorityMatches (r : TerminalAuditRecord) : Bool :=
  r.workflowRevision = q.workflowRevision

def mergedPrerequisiteReady (chain : List TerminalAuditRecord) : Bool :=
  q.target ≠ .merged ||
    chain.any fun r =>
      r.targetState = .done && q.ofTask r && r.evidenceFingerprint = q.evidence &&
        q.bindingMatches r && q.completionAuthorityMatches r && r.standing

/-- The record names the requested target or, for a Merged request, its Done prerequisite. -/
def chained (r : TerminalAuditRecord) : Bool :=
  r.targetState = q.target || (q.target = .merged && r.targetState = .done)

/-- A live Merged record behind a Done request. -/
def dependentMerged (r : TerminalAuditRecord) : Bool :=
  q.target = .done && r.targetState = .merged && r.live

def mismatchedBinding (r : TerminalAuditRecord) : Bool :=
  q.revision.binding.isSome && q.chained r && r.evidenceFingerprint = q.evidence &&
    !q.bindingMatches r

def mismatchedAuthority (r : TerminalAuditRecord) : Bool :=
  q.chained r && r.evidenceFingerprint = q.evidence && !q.completionAuthorityMatches r

/-- The records that a staged request supersedes. -/
def supersedes (chain : List TerminalAuditRecord) (r : TerminalAuditRecord) : Bool :=
  let invalidMergedPrerequisite :=
    q.ofTask r && q.target = .merged && !q.mergedPrerequisiteReady chain &&
      (r.targetState = .done || r.targetState = .merged)
  q.ofTask r && (q.chained r || q.dependentMerged r) && r.standing &&
    (r.evidenceFingerprint ≠ q.evidence || invalidMergedPrerequisite ||
      q.mismatchedBinding r || q.mismatchedAuthority r)

/-- The records that a request coalescing with `kept` supersedes. -/
def supersedesBeside (kept r : TerminalAuditRecord) : Bool :=
  !q.coalescePendingTarget && r.auditId ≠ kept.auditId && q.ofTask r &&
    (r.targetState = q.target || q.dependentMerged r) && r.standing &&
    (r.evidenceFingerprint ≠ q.evidence || q.mismatchedBinding r || q.mismatchedAuthority r)

/-- The live duplicates of `kept`. -/
def duplicates (kept r : TerminalAuditRecord) : Bool :=
  r.auditId ≠ kept.auditId && q.ofTask r && r.targetState = q.target &&
    r.evidenceFingerprint = kept.evidenceFingerprint &&
    r.workflowRevision = kept.workflowRevision && r.live

/-- The live records that the request is identical with. -/
def activeMatch (chain : List TerminalAuditRecord) (r : TerminalAuditRecord) : Bool :=
  r.targetState = q.target && q.ofTask r && r.live && q.bindingMatches r &&
    q.completionAuthorityMatches r && q.mergedPrerequisiteReady chain &&
    (q.coalescePendingTarget || r.evidenceFingerprint = q.evidence)

/-- The completed record that makes the request stale. -/
def completedMatch (chain : List TerminalAuditRecord) (r : TerminalAuditRecord) : Bool :=
  !q.revalidateCompleted && r.targetState = q.target && q.ofTask r &&
    r.requestState = .completed && r.evidenceFingerprint = q.evidence &&
    q.bindingMatches r && q.completionAuthorityMatches r && q.mergedPrerequisiteReady chain

def completedDuplicate (completed r : TerminalAuditRecord) : Bool :=
  r.auditId ≠ completed.auditId && q.ofTask r && r.targetState = q.target &&
    r.evidenceFingerprint = q.evidence && q.bindingMatches r &&
    q.completionAuthorityMatches r && r.live

/-- Supersede every record of the task whose audit id is listed. -/
def retireListed (ids : List String) (now : String) (chain : List TerminalAuditRecord) :
    List TerminalAuditRecord :=
  chain.map fun r => if q.ofTask r && r.auditId ∈ ids then r.supersedeAt now else r

end Request

/-!
# The strongest of several live records
-/

structure ActiveAuthority where
  activeAttempt : Nat
  inProgress : Nat
  sourceGeneration : Nat
  newest : Option Int
  auditId : String
  deriving DecidableEq

namespace ActiveAuthority

/-- The order of times, a missing one before all others. -/
def earlier : Option Int -> Option Int -> Bool
  | none, none => false
  | none, some _ => true
  | some _, none => false
  | some a, some b => a < b

def less (a b : ActiveAuthority) : Bool :=
  if a.activeAttempt ≠ b.activeAttempt then a.activeAttempt < b.activeAttempt
  else if a.inProgress ≠ b.inProgress then a.inProgress < b.inProgress
  else if a.sourceGeneration ≠ b.sourceGeneration then a.sourceGeneration < b.sourceGeneration
  else if a.newest ≠ b.newest then earlier a.newest b.newest
  else a.auditId < b.auditId

end ActiveAuthority

section Authority

variable (rt : AuditRuntime)

/-- `_active_audit_authority_key`. -/
def activeAuthority (r : TerminalAuditRecord) : ActiveAuthority where
  activeAttempt :=
    if r.attempts.any fun a => a.requestState = .inProgress && (a.endedAt.getD "") = "" then 1
    else 0
  inProgress := if r.requestState = .inProgress then 1 else 0
  sourceGeneration := r.sourceGeneration
  newest :=
    let times := [r.updatedAt, r.createdAt] ++
      r.attempts.flatMap fun a => [a.endedAt, a.startedAt, a.createdAt]
    ((times.filterMap id).filter (· ≠ "")).filterMap rt.timestamp |>.max?
  auditId := r.auditId

/-- `max(records, key=_active_audit_authority_key)`: the first of the strongest. -/
def strongest : List TerminalAuditRecord -> Option TerminalAuditRecord
  | [] => none
  | r :: rest =>
    some (rest.foldl (fun best next =>
      if (activeAuthority rt best).less (activeAuthority rt next) then next else best) r)

end Authority

/-!
# New records
-/

/-- What every record of one request shares. -/
structure NewRecords where
  projectId : String
  taskId : String
  fingerprint : EvidenceFingerprint
  trigger : ContributorIdentity
  previousState : Option String
  now : String
  revision : RevisionAuthority
  workflowRevision : Option String
  sourceGeneration : Nat

/-- `_make_record`. -/
def NewRecords.make (n : NewRecords) (auditId : String) (target : TargetState)
    (eligibleAt prerequisiteAuditId : Option String) : TerminalAuditRecord where
  auditId := auditId
  projectId := n.projectId
  taskId := n.taskId
  targetState := target
  evidenceFingerprint := n.fingerprint
  requestState := .pending
  requestedBy := some n.trigger
  previousState := n.previousState
  createdAt := some n.now
  eligibleAt :=
    if eligibleAt.isSome || prerequisiteAuditId.isSome then eligibleAt else some n.now
  prerequisiteAuditId := prerequisiteAuditId
  revision := n.revision
  workflowRevision := n.workflowRevision
  sourceGeneration := n.sourceGeneration

/-- `max(source_generation) + 1` over the records of a task. -/
def nextSourceGeneration (chain : List TerminalAuditRecord) (projectId taskId : String) : Nat :=
  ((chain.filter fun r => r.ofTask projectId taskId).map
    TerminalAuditRecord.sourceGeneration).foldl max 0 + 1

namespace Request

variable (q : Request)

def newRecords (chain : List TerminalAuditRecord) (now : String) : NewRecords where
  projectId := q.projectId
  taskId := q.issue.identifier
  fingerprint := q.evidence
  trigger := q.trigger
  previousState := q.issue.state.filter (· ≠ "")
  now := now
  revision := q.revision
  workflowRevision := q.workflowRevision
  sourceGeneration := nextSourceGeneration chain q.projectId q.issue.identifier

/-- A Done record that a Merged request can depend on. -/
def reusableDone (r : TerminalAuditRecord) : Bool :=
  r.targetState = .done && q.ofTask r && r.evidenceFingerprint = q.evidence &&
    r.workflowRevision = q.workflowRevision &&
    r.revision.landingRevision = q.revision.landingRevision &&
    (q.revision.binding.isNone || r.revision.binding = q.revision.binding)

/-- `_build_merged_entries`. -/
def mergedEntries (chain : List TerminalAuditRecord) (now : String) (freshIds : Nat -> String) :
    List TerminalAuditRecord :=
  let new := q.newRecords chain now
  let completedDone := chain.find? fun r => q.reusableDone r && r.requestState = .completed
  let activeDone := chain.find? fun r => q.reusableDone r && r.live
  match completedDone, activeDone with
  | some done, _ => [new.make (freshIds 0) .merged (some now) (some done.auditId)]
  | none, some done => [new.make (freshIds 0) .merged none (some done.auditId)]
  | none, none =>
    [new.make (freshIds 0) .done none none, new.make (freshIds 1) .merged none (some (freshIds 0))]

/-- `_build_new_entries`. -/
def newEntries (chain : List TerminalAuditRecord) (now : String) (freshIds : Nat -> String) :
    List TerminalAuditRecord :=
  match q.target with
  | .merged => q.mergedEntries chain now freshIds
  | target => [(q.newRecords chain now).make (freshIds 0) target none none]

end Request

/-- `_record_tracker_evidence_projections`. -/
def recordProjections (rows : List TrackerProjection) (records : List TerminalAuditRecord)
    (fingerprint : EvidenceFingerprint) : List TrackerProjection :=
  if records.isEmpty then rows
  else
    (rows.filter fun row => !records.any fun r => r.auditId = row.auditId) ++
      records.map fun r => ⟨r.auditId, r.projectId, r.taskId, fingerprint⟩

/-- `_has_terminal_retirement`. -/
def hasTerminalRetirement (d : TerminalAuditMetadata) (q : Request) : Bool :=
  d.retirements.any fun row =>
    row.applied && row.projectId = q.projectId && row.taskId = q.issue.identifier &&
      row.targetState = q.target && row.evidenceFingerprint = q.evidence &&
      row.workflowRevision = q.workflowRevision && row.revision = q.revision &&
      (row.kind ≠ .result ||
        let retired := fun r : TerminalAuditRecord =>
          r.auditId ∈ row.auditIds && q.ofTask r && r.targetState = q.target &&
            r.evidenceFingerprint = q.evidence && r.workflowRevision = q.workflowRevision &&
            r.revision.landingRevision = q.revision.landingRevision &&
            (q.revision.binding.isNone || r.revision.binding = q.revision.binding)
        let generations := fun keep : TerminalAuditRecord -> Bool =>
          (d.pendingChain.filter keep).map TerminalAuditRecord.sourceGeneration
        let newer :=
          (generations fun r => q.ofTask r && r.targetState = q.target).foldl max 0 >
            (generations retired).foldl max 0
        let intervening :=
          (d.pendingChain.dropWhile fun r => !retired r).tail.any fun r =>
            q.ofTask r && r.auditId ∉ row.auditIds && r.targetState = q.target &&
              r.evidenceFingerprint ≠ q.evidence
        d.pendingChain.any retired && !newer && !intervening)

/-!
# Staging a request
-/

/-- What happens around one call: the answers of the tracker and of the callbacks, the
clock and the identifiers that are generated. -/
structure Environment where
  detailReads : Bool
  refreshed : Option Issue
  lockedRead : Option Issue
  stagingRead : Option Issue
  lifecycleConflict : Option String := none
  deliveryRevoked : Bool := true
  statusAccepted : Bool := true
  commentAccepted : Bool := true
  finalizeAccepted : Bool := true
  postComments : Bool := true
  now : String
  freshIds : Nat -> String

/-- What a request makes of the document. -/
inductive Staging where
  | early (result : TransitionResult) (chain : List TerminalAuditRecord)
  | staged (superseded : List String) (entries : List TerminalAuditRecord)
      (chain : List TerminalAuditRecord)

section Transition

variable (rt : AuditRuntime)

def Request.stage (q : Request) (env : Environment) (d : TerminalAuditMetadata) : Staging :=
  let chain := d.pendingChain
  match chain.find? (q.completedMatch chain) with
  | some completed =>
    let cancelled := (chain.filter (q.completedDuplicate completed)).map TerminalAuditRecord.auditId
    .early
      { success := false, auditId := some completed.auditId, cancelledAuditIds := cancelled,
        reason := some .alreadyCompleted }
      (q.retireListed cancelled env.now chain)
  | none =>
    if !q.revalidateCompleted && hasTerminalRetirement d q then
      .early { success := false, reason := some .alreadyCompleted } chain
    else
      match strongest rt (chain.filter (q.activeMatch chain)) with
      | some kept =>
        let superseded := (chain.filter (q.supersedesBeside kept)).map TerminalAuditRecord.auditId
        let chain' := chain.map fun r =>
          if q.supersedesBeside kept r then r.supersede else r
        let cancelled := (chain'.filter (q.duplicates kept)).map TerminalAuditRecord.auditId
        .early
          { success := true, auditId := some kept.auditId, auditIds := [kept.auditId],
            queuedTargets := [q.target], coalesced := true,
            supersededAuditId := superseded.getLast?, supersededAuditIds := superseded,
            cancelledAuditIds := cancelled }
          (q.retireListed cancelled env.now chain')
      | none =>
        let superseded := (chain.filter (q.supersedes chain)).map TerminalAuditRecord.auditId
        let chain' := chain.map fun r =>
          if q.supersedes chain r then r.supersede else r
        .staged superseded (q.newEntries chain' env.now env.freshIds) chain'

/-- The audit queue comment. -/
def queuedCommentText (q : Request) : String :=
  q.queuedComment.getD ("Queued for terminal transition to " ++ q.target.value ++
      ". An auditor will review and apply the terminal status.")

/-- The evidence of the task as the tracker shows it, when the request agrees with it. -/
def Request.stagingProjection (q : Request) (env : Environment) :
    Except TransitionReason EvidenceFingerprint :=
  if env.detailReads then
    match env.stagingRead with
    | none => .error .currentEvidenceUnavailable
    | some issue =>
      if issue.identifier ≠ q.issue.identifier ∨
          (issue.projectId.getD "" ≠ "" ∧ issue.projectId ≠ some q.projectId) then
        .error .currentEvidenceUnavailable
      else if q.issue.evidence ≠ issue.evidence then .error .currentEvidenceMismatch
      else .ok issue.evidence
  else .ok q.issue.evidence

/-- `_transition_locked`. -/
def transitionLocked (q : Request) (env : Environment) (d : TerminalAuditMetadata) :
    TransitionResult × TerminalAuditMetadata × List TrackerWrite :=
  match q.stagingProjection env with
  | .error reason => ({ success := false, reason := some reason }, d, [])
  | .ok projection =>
    if d.quarantined then
      ({ success := false, reason := some .metadataQuarantined }, d, [])
    else
      let status := q.issue.status rt
      let inValidation := status == .canonical .inValidation
      let canStage :=
        (q.target = .archived && status ≠ .canonical .archived) || !isTerminal status
      match q.stage rt env d with
      | .early result chain =>
        let d' := { d with pendingChain := chain }.stored rt.table
        let repair := result.coalesced && q.ensureValidationOnCoalesce && !inValidation && canStage
        let repaired := repair && env.statusAccepted
        ({ result with statusRepaired := repaired, statusStaged := inValidation || repaired },
          d', if repair then [.updateStatus (statusText .inValidation)] else [])
      | .staged superseded entries chain =>
        let d' :=
          { d with
            pendingChain := chain ++ entries
            queuedCommentPosted := true
            projections := recordProjections d.projections entries projection }.stored
            rt.table
        let status := if canStage then [.updateStatus (statusText .inValidation)] else []
        let comment :=
          if env.postComments && !d.queuedCommentPosted then
            [.addComment (queuedCommentText q)]
          else []
        ({ success := true
           auditId := entries.head?.map TerminalAuditRecord.auditId
           auditIds := entries.map TerminalAuditRecord.auditId
           queuedTargets := entries.map TerminalAuditRecord.targetState
           supersededAuditId := superseded.getLast?
           supersededAuditIds := superseded
           statusStaged := inValidation || (canStage && env.statusAccepted) },
          d', status ++ comment)

end Transition
end TerminalAudit
end Oompah
