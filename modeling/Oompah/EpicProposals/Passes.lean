import Oompah.EpicProposals.Application

/-!
# Passes over a proposed issue

A pass validates one issue, stores a proposal for it when it is too large, and applies the
proposal once it is accepted.
-/

namespace Oompah
namespace EpicProposals

open Foundation

structure ValidationResult where
  epicNeeded : Bool
  ready : Bool
  missingFields : List (List Char)
  warnings : List (List Char)

inductive Approver where
  | requestor
  | owner
  deriving DecidableEq

/-- What a pass is given.  `leafReadiness` is what is stored for an issue that is not
decomposed, `approvedBy` who approved the proposal in a comment. -/
structure Intake where
  tables : Tables
  identifier : List Char
  url : Option (List Char)
  requestor : Option (List Char)
  validate : TrackedIssue -> ValidationResult
  isForcedLeaf : TrackedIssue -> Bool
  leafReadiness : TrackedIssue -> IntakeReadiness -> IntakeReadiness
  approvedBy : Option Approver
  allowDecomposition : Bool
  autoPromote : Bool
  autoDecompose : Bool

inductive EnsureResult where
  | existing (p : StoredProposal)
  | created (p : StoredProposal) (commentPosted duplicateSuppressed : Bool)

inductive Processed where
  | absent
  | hasChildren
  | validated (promoted : Bool)
  | ensured (result : EnsureResult)
  | applied (result : ApplyResult)

/-!
# Validation
-/

/-- The words of a name, separated by underscores. -/
def underscored (inRun : Bool) : List Char -> List Char
  | [] => []
  | c :: rest =>
    if ('a' ≤ c ∧ c ≤ 'z') ∨ ('0' ≤ c ∧ c ≤ '9') then c :: underscored false rest
    else if inRun = true then underscored true rest
    else '_' :: underscored true rest

/-- `_missing_field_keys`. -/
def missingFieldKeys (t : Tables) (result : ValidationResult) : List (List Char) :=
  (result.missingFields.filter fun field => !(Text.strip Text.isSpace field).isEmpty).map
    fun field => stripOf ['_'] (underscored false (t.lower (Text.strip Text.isSpace field)))

/-- `_is_epic_issue`. -/
def TrackedIssue.isEpic (issue : TrackedIssue) : Bool :=
  (Text.strip Text.isSpace issue.issueType).map Char.toLower = epicType

/-- A status that says nothing of a proposal yet is Proposed. -/
def DecompositionStatus.propose : DecompositionStatus -> DecompositionStatus
  | .notNeeded | .pending => .proposed
  | status => status

/-- `IntakeReadiness.is_ready`. -/
def IntakeReadiness.isReady (readiness : IntakeReadiness) : Bool :=
  readiness.missingFields.isEmpty && decide (readiness.scope ≠ .needsDecomposition) &&
    decide (readiness.lastValidatorPassed = some true)

namespace Intake

variable (s : Intake)

def sourceIssue (issue : TrackedIssue) : SourceIssue :=
  { identifier := issue.identifier
    title := issue.title
    description := some issue.description
    issueType := issue.issueType
    url := s.url
    priority := issue.priority }

/-- `should_propose_epic_decomposition`, where the policy allows one. -/
def proposes (issue : TrackedIssue) : Bool :=
  s.allowDecomposition && (s.validate issue).epicNeeded && !issue.isEpic && !s.isForcedLeaf issue

/-- The proposal for an issue as it stands. -/
def generated (issue : TrackedIssue) : StoredProposal :=
  { toEpicProposal := generateEpicProposal s.tables (s.sourceIssue issue)
      (s.validate issue).warnings s.requestor
    status := .proposed
    epicIdentifier := none
    childIdentifiers := []
    appliedFingerprint := none }

/-- The readiness that is stored with a proposal. -/
def proposedReadiness (issue : TrackedIssue) (readiness : IntakeReadiness) :
    IntakeReadiness :=
  { readiness with
    scope := .needsDecomposition
    proposalFingerprint := some (s.generated issue).fingerprint
    missingFields := missingFieldKeys s.tables (s.validate issue)
    lastValidatorPassed := some (s.validate issue).ready }

def confirmedReadiness (issue : TrackedIssue) (readiness : IntakeReadiness) :
    IntakeReadiness :=
  { s.proposedReadiness issue readiness with
    decompositionStatus := readiness.decompositionStatus.propose }

def newReadiness (issue : TrackedIssue) (readiness : IntakeReadiness) : IntakeReadiness :=
  { s.proposedReadiness issue readiness with decompositionStatus := .proposed }

/-- `_has_matching_epic_proposal_comment`. -/
def hasMatchingComment (t : Tracker) (p : StoredProposal) : Bool :=
  t.comments.any fun text =>
    signatureFromText s.tables text = some (signature s.tables p.toEpicProposal)

/-- The comment of a new proposal, unless it is posted already. -/
def announce (p : StoredProposal) (t : Tracker) : EnsureResult × Tracker :=
  if s.autoDecompose = true then (.created p false false, t)
  else if s.hasMatchingComment t p = true then (.created p false true, t)
  else
    (.created p true false,
      { t with comments := t.comments ++ [buildEpicProposalComment p.toEpicProposal] })

/-- The tracker when the stored proposal is the one for the issue. -/
def confirm (issue : TrackedIssue) (t : Tracker) : Tracker :=
  { t with
    metadata :=
      { t.metadata with readiness := s.confirmedReadiness issue t.metadata.readiness } }

/-- The tracker with a new proposal. -/
def store (issue : TrackedIssue) (t : Tracker) : Tracker :=
  { t with
    metadata :=
      { t.metadata with
        proposal := some (s.generated issue)
        readiness := s.newReadiness issue t.metadata.readiness } }

/-- `ensure_epic_proposal`, for an issue that is to be decomposed. -/
def ensureEpicProposal (issue : TrackedIssue) (t : Tracker) : EnsureResult × Tracker :=
  let p := s.generated issue
  match t.metadata.proposal with
  | some existing =>
    if existing.fingerprint = p.fingerprint then (.existing existing, s.confirm issue t)
    else s.announce p (s.store issue t)
  | none => s.announce p (s.store issue t)

/-- An issue that is not decomposed is validated, and promoted when it is ready. -/
def processLeaf (issue : TrackedIssue) (t : Tracker) : Processed × Tracker :=
  let readiness := s.leafReadiness issue t.metadata.readiness
  let stored := { t with metadata := { t.metadata with readiness } }
  if (s.validate issue).ready = true ∧ s.autoPromote = true ∧ t.state issue.identifier = .proposed ∧
      (readiness.ownerOverride = true ∨ readiness.isReady = true) then
    (.validated true, stored.moveTo issue.identifier .backlog)
  else (.validated false, stored)

/-- `record_intake_approval`. -/
def approve (approver : Approver) (readiness : IntakeReadiness) : IntakeReadiness :=
  { readiness with
    ownerOverride := readiness.ownerOverride || decide (approver = .owner)
    requestorApproved := readiness.requestorApproved || decide (approver = .requestor)
    decompositionStatus :=
      if readiness.scope = .needsDecomposition ∧
          readiness.decompositionStatus = .proposed then .accepted
      else readiness.decompositionStatus }

/-- `record_approval_from_existing_comments`. -/
def recordApproval (t : Tracker) : Tracker :=
  if t.metadata.readiness.decompositionStatus = .accepted then t
  else
    match s.approvedBy with
    | none => t
    | some approver =>
      { t with
        metadata :=
          { t.metadata with readiness := approve approver t.metadata.readiness } }

variable (n : Naming)

/-- An application that is interrupted as `i` says. -/
def runApplication (i : Interruption) (issue : TrackedIssue) (requireAccepted promote : Bool)
    (t : Tracker) : Except Failure Processed × Tracker :=
  let (result, after) :=
    (applyEpicProposal issue requireAccepted promote).execute (Tracker.handle n i) t
  (result.map Processed.applied, after)

/-- `process_epic_proposal_issue`. -/
def processEpicProposalIssue (i : Interruption) (t : Tracker) :
    Except Failure Processed × Tracker :=
  match t.find s.identifier with
  | none => (.ok .absent, t)
  | some issue =>
    if t.hasChildren s.identifier = true then (.ok .hasChildren, t)
    else if s.proposes issue = false then
      let (result, after) := s.processLeaf issue t
      (.ok result, after)
    else
      let (result, ensured) := s.ensureEpicProposal issue t
      if s.autoDecompose = true then runApplication n i issue false true ensured
      else
        let approved := s.recordApproval ensured
        if approved.metadata.readiness.decompositionStatus = .accepted then
          runApplication n i issue true false approved
        else (.ok (.ensured result), approved)

/-- The tracker after passes that are interrupted as the list says. -/
def repeatPasses (t : Tracker) : List Interruption -> Tracker
  | [] => t
  | i :: rest => repeatPasses (s.processEpicProposalIssue n i t).2 rest

end Intake
end EpicProposals
end Oompah
