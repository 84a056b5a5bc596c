import Oompah.EpicProposals.Tracker

/-!
# Applying a proposal

An accepted proposal is applied by creating an epic and a task for each of its children.
What was created is recorded in the proposal behind the last child.
-/

namespace Oompah
namespace EpicProposals

open Foundation

inductive ApplyResult where
  | missingProposal
  | notAccepted (p : StoredProposal)
  | suppressed (p : StoredProposal)
  | applied (p : StoredProposal) (createdEpic : Bool) (createdChildren updatedChildren : Nat)

/-!
# Texts
-/

/-- `_epic_description`. -/
def epicDescription (p : EpicProposal) : List Char :=
  joinLines ([p.epicSummary, [], "## Source".toList, "- Issue: ".toList ++ p.sourceIdentifier,
        "- Title: ".toList ++ p.sourceTitle] ++
      (match present p.sourceRequestor with
        | some requestor => ["- Original requestor: @".toList ++ requestor]
        | none => []) ++
      ["- Proposal fingerprint: `".toList ++ p.fingerprint ++ "`".toList, [],
        "## Child Tasks".toList] ++
      p.children.map fun child => "- ".toList ++ child.title)

/-- `_child_description_with_fingerprint`. -/
def childDescriptionWithFingerprint (p : EpicProposal) (child : EpicProposalChild) :
    List Char :=
  child.description ++ "\n\n## Decomposition\n- Epic proposal fingerprint: `".toList ++
    p.fingerprint ++ "`\n- Source issue: ".toList ++ p.sourceIdentifier

def appliedComment (p : StoredProposal) : List Char :=
  "Applied decomposition proposal `".toList ++ p.fingerprint ++ "`: ".toList ++
    p.epicIdentifier.getD [] ++ " with ".toList ++ decimal p.childIdentifiers.length ++
    " child task(s).".toList

/-!
# Reading the tracker
-/

/-- `_issue_exists`. -/
def issueExists (point : Point) (identifier : List Char) : Attempt Bool :=
  if identifier = [] then pure false
  else
    swallowing (do
        let detail <- call point (.fetchIssueDetail identifier)
        pure (Option.isSome detail))
      false

def childrenExist : Nat -> List (List Char) -> Attempt Bool
  | _, [] => pure true
  | index, identifier :: rest => do
      if <- issueExists (.appliedChild index) identifier then childrenExist (index + 1) rest
      else pure false

/-- `_all_applied_issue_ids_exist`. -/
def allAppliedIssueIdsExist (p : StoredProposal) : Attempt Bool :=
  if p.appliedFingerprint ≠ some p.fingerprint then pure false
  else
    match present p.epicIdentifier with
    | none => pure false
    | some epic =>
      if p.childIdentifiers = [] ∨ p.childIdentifiers.length ≠ p.children.length then
        pure false
      else do
        if <- issueExists .appliedEpic epic then childrenExist 0 p.childIdentifiers
        else pure false

/-- `load_epic_proposal`. -/
def loadEpicProposal : Attempt (Option StoredProposal) :=
  swallowing (do
      let metadata <- call .loadProposal .getMetadata
      pure (Metadata.proposal metadata))
    none

/-- `_load_readiness`. -/
def loadReadiness : Attempt IntakeReadiness :=
  swallowing (do
      let metadata <- call .loadReadiness .getMetadata
      pure (Metadata.readiness metadata))
    {}

/-- An issue of GitHub becomes the epic itself. -/
def Metadata.isExternal (metadata : Metadata) : Bool :=
  metadata.externalId.any fun identifier => !(Text.strip Text.isSpace identifier).isEmpty

/-- `_should_reuse_source_as_epic`. -/
def shouldReuseSourceAsEpic : Attempt Bool :=
  swallowing (do
      let metadata <- call .reuseCheck .getMetadata
      pure (Metadata.isExternal metadata))
    false

/-!
# Creating the epic and its children
-/

def epicType : List Char :=
  "epic".toList

section Placing

variable (source : TrackedIssue) (p : StoredProposal)

def createEpic : Attempt (List Char) := do
  let epic <- call .createEpic
    (.createIssue p.epicTitle epicType (epicDescription p.toEpicProposal) source.priority
      source.parentId)
  match present source.parentId with
  | some parent => swallowing (call .linkEpic (.addParentChild epic parent)) ()
  | none => pure ()
  pure epic

/-- The epic, and whether it was created. -/
def placeEpic (reuse : Bool) : Attempt (List Char × Bool) :=
  if reuse = true then do
    call .updateSource
      (.updateIssue source.identifier p.epicTitle (epicDescription p.toEpicProposal)
        (some epicType))
    pure (source.identifier, false)
  else do
    let epic := p.epicIdentifier.getD []
    if <- issueExists .findEpic epic then
      call .updateEpic (.updateIssue epic p.epicTitle (epicDescription p.toEpicProposal) none)
      pure (epic, false)
    else
      let epic <- createEpic source p
      pure (epic, true)

def createChild (epic : List Char) (index : Nat) (child : EpicProposalChild) :
    Attempt (List Char) :=
  call (.createChild index) (.createIssue child.title child.issueType
      (childDescriptionWithFingerprint p.toEpicProposal child)
      (child.priority <|> source.priority) (some epic))

/-- The task of a child, and whether it was created. -/
def placeChild (epic : List Char) (index : Nat) (child : EpicProposalChild) :
    Attempt (List Char × Bool) := do
  let recorded := p.childIdentifiers.getD index []
  let known <- issueExists (.findChild index) recorded
  let identifier <-
    if known = true then do
      call (.updateChild index) (.updateIssue recorded child.title
          (childDescriptionWithFingerprint p.toEpicProposal child) none)
      pure recorded
    else createChild source p epic index child
  swallowing (call (.linkChild index) (.addParentChild identifier epic)) ()
  pure (identifier, !known)

def placeChildren (epic : List Char) :
    Nat -> List EpicProposalChild -> Attempt (List (List Char × Bool))
  | _, [] => pure []
  | index, child :: rest => do
      let placed <- placeChild source p epic index child
      let others <- placeChildren epic (index + 1) rest
      pure (placed :: others)

end Placing

/-!
# Promotion
-/

/-- The children with their states, when all of them are linked to the epic. -/
def fetchPromoted (epic : List Char) :
    Nat -> List (List Char) -> Attempt (Option (List (List Char × IssueState)))
  | _, [] => pure (some [])
  | index, identifier :: rest => do
      let detail <- call (.fetchPromoted index) (.fetchIssueDetail identifier)
      match (detail : Option (TrackedIssue × IssueState)) with
      | none => pure none
      | some (issue, state) =>
        if issue.parentId ≠ some epic then pure none
        else do
          let others <- fetchPromoted epic (index + 1) rest
          pure (others.map fun others => (identifier, state) :: others)

def promoteFetched : Nat -> List (List Char × IssueState) -> Attempt Unit
  | _, [] => pure ()
  | index, (identifier, state) :: rest => do
      if state = .proposed then
        call (.promote index) (.transition identifier .opened)
      promoteFetched (index + 1) rest

/-- `_promote_decomposition_children_to_open`. -/
def promoteDecompositionChildrenToOpen (p : StoredProposal) : Attempt Bool :=
  match present p.epicIdentifier with
  | none => pure false
  | some epic =>
    if p.childIdentifiers.length ≠ p.children.length then pure false
    else do
      match <- fetchPromoted epic 0 p.childIdentifiers with
      | none => pure false
      | some children => do
          promoteFetched 0 children
          pure true

/-!
# Application
-/

/-- The proposal with what its application created. -/
def StoredProposal.record (p : StoredProposal) (epic : List Char)
    (children : List (List Char)) : StoredProposal :=
  { p with
    epicIdentifier := some epic
    childIdentifiers := children
    status := .accepted
    appliedFingerprint := some p.fingerprint }

def markDecomposed (source : TrackedIssue) (reuse : Bool) : Attempt Unit :=
  if reuse = true then pure ()
  else swallowing (call .markDecomposed (.transition source.identifier .decomposed)) ()

def promoteWhen (promote : Bool) (p : StoredProposal) : Attempt Unit :=
  if promote = true then do
    let _promoted <- promoteDecompositionChildrenToOpen p
    pure ()
  else pure ()

/-- The application behind the last child. -/
def finishApplication (source : TrackedIssue) (recorded : StoredProposal)
    (readiness : IntakeReadiness) (reuse promote : Bool) : Attempt Unit := do
  call .saveReadiness (.saveReadiness
      { readiness with
        decompositionStatus := .accepted
        proposalFingerprint := some recorded.fingerprint })
  markDecomposed source reuse
  swallowing (call .addComment (.addComment (appliedComment recorded))) ()
  promoteWhen promote recorded

/-- The epic and the children are created or updated, and then recorded. -/
def placeAndRecord (source : TrackedIssue) (p : StoredProposal) (readiness : IntakeReadiness)
    (promote reuse : Bool) : Attempt ApplyResult := do
  let (epic, createdEpic) <- placeEpic source p reuse
  let placed <- placeChildren source p epic 0 p.children
  let recorded := p.record epic (placed.map Prod.fst)
  call .saveProposal (.saveProposal recorded)
  finishApplication source recorded readiness reuse promote
  pure (.applied recorded createdEpic (placed.countP fun child => child.2)
      (placed.countP fun child => !child.2))

def placeProposal (source : TrackedIssue) (p : StoredProposal) (readiness : IntakeReadiness)
    (promote : Bool) : Attempt ApplyResult := do
  let reuse <- shouldReuseSourceAsEpic
  placeAndRecord source p readiness promote reuse

/-- `apply_epic_proposal`. -/
def applyEpicProposal (source : TrackedIssue) (requireAccepted promote : Bool) :
    Attempt ApplyResult := do
  match <- loadEpicProposal with
  | none => pure .missingProposal
  | some p => do
      let readiness <- loadReadiness
      if requireAccepted = true ∧ readiness.decompositionStatus ≠ .accepted then
        pure (.notAccepted p)
      else if <- allAppliedIssueIdsExist p then do
        promoteWhen promote p
        pure (.suppressed p)
      else placeProposal source p readiness promote

end EpicProposals
end Oompah
