import Oompah.EpicProposals.Comment
import Oompah.Foundation.Execution

/-!
# The tracker of a proposal

The issues of a tracker, the metadata and comments of the source of a proposal, and the
calls that an application makes.  A call can be interrupted at the point where it is made:
it raises without an effect, or the process dies in front of it.
-/

namespace Oompah
namespace EpicProposals

open Foundation

/-!
# Issues and metadata
-/

inductive DecompositionStatus where
  | notNeeded
  | pending
  | proposed
  | accepted
  | rejected
  deriving DecidableEq

inductive IntakeScopeKind where
  | small
  | large
  | needsDecomposition
  | unknown
  deriving DecidableEq

structure IntakeReadiness where
  missingFields : List (List Char) := []
  scope : IntakeScopeKind := .unknown
  requestorApproved : Bool := false
  ownerOverride : Bool := false
  decompositionStatus : DecompositionStatus := .notNeeded
  proposalFingerprint : Option (List Char) := none
  lastValidatorPassed : Option Bool := none
  deriving DecidableEq

inductive IssueState where
  | proposed
  | backlog
  | opened
  | decomposed
  | other (status : List Char)
  deriving DecidableEq

structure TrackedIssue where
  identifier : List Char
  title : List Char
  description : List Char
  issueType : List Char
  priority : Option Int
  parentId : Option (List Char)
  deriving DecidableEq

/-- A proposal with what has been recorded of its application. -/
structure StoredProposal extends EpicProposal where
  status : DecompositionStatus
  epicIdentifier : Option (List Char)
  childIdentifiers : List (List Char)
  appliedFingerprint : Option (List Char)
  deriving DecidableEq

structure Metadata where
  proposal : Option StoredProposal
  readiness : IntakeReadiness
  externalId : Option (List Char)

/-- The issues, and the metadata and comments of the source. -/
structure Tracker where
  issues : List TrackedIssue
  state : List Char -> IssueState
  metadata : Metadata
  comments : List (List Char)

/-- How a tracker names a new issue. -/
structure Naming where
  next : List (List Char) -> List Char
  fresh : forall taken, next taken ∉ taken
  nonempty : forall taken, next taken ≠ []

namespace Tracker

def identifiers (t : Tracker) : List (List Char) :=
  t.issues.map TrackedIssue.identifier

def find (t : Tracker) (identifier : List Char) : Option TrackedIssue :=
  t.issues.find? fun issue => issue.identifier = identifier

/-- The tracker after a change of one issue. -/
def change (t : Tracker) (identifier : List Char) (f : TrackedIssue -> TrackedIssue) :
    Tracker :=
  { t with
    issues := t.issues.map fun issue =>
      if issue.identifier = identifier then f issue else issue }

def moveTo (t : Tracker) (identifier : List Char) (state : IssueState) : Tracker :=
  { t with state := fun other => if other = identifier then state else t.state other }

/-- `fetch_children`. -/
def hasChildren (t : Tracker) (identifier : List Char) : Bool :=
  t.issues.any fun issue => issue.parentId = some identifier

end Tracker

/-!
# Calls
-/

/-- The places of an application where the tracker is called. -/
inductive Point where
  | loadProposal
  | loadReadiness
  | appliedEpic
  | appliedChild (index : Nat)
  | reuseCheck
  | updateSource
  | findEpic
  | updateEpic
  | createEpic
  | linkEpic
  | findChild (index : Nat)
  | updateChild (index : Nat)
  | createChild (index : Nat)
  | linkChild (index : Nat)
  | saveProposal
  | saveReadiness
  | markDecomposed
  | addComment
  | fetchPromoted (index : Nat)
  | promote (index : Nat)
  deriving DecidableEq

inductive Operation where
  | getMetadata
  | fetchIssueDetail (identifier : List Char)
  | createIssue (title issueType description : List Char) (priority : Option Int)
      (parent : Option (List Char))
  | updateIssue (identifier title description : List Char) (issueType : Option (List Char))
  | addParentChild (child parent : List Char)
  | saveProposal (p : StoredProposal)
  | saveReadiness (readiness : IntakeReadiness)
  | transition (identifier : List Char) (state : IssueState)
  | addComment (text : List Char)

structure Request where
  point : Point
  operation : Operation

/-- What a call returns. -/
def Operation.Answer : Operation -> Type
  | getMetadata => Metadata
  | fetchIssueDetail _ => Option (TrackedIssue × IssueState)
  | createIssue _ _ _ _ _ => List Char
  | updateIssue _ _ _ _ => Unit
  | addParentChild _ _ => Unit
  | saveProposal _ => Unit
  | saveReadiness _ => Unit
  | transition _ _ => Unit
  | addComment _ => Unit

abbrev Answer (r : Request) : Type :=
  r.operation.Answer

inductive Failure where
  | raises
  | dies
  deriving DecidableEq

/-- Where an application is interrupted, when it is. -/
abbrev Interruption :=
  Option (Point × Failure)

def Interruption.failure? (i : Interruption) (point : Point) : Option Failure :=
  match i with
  | some (place, failure) => if place = point then some failure else none
  | none => none

def Tracker.newIssue (n : Naming) (t : Tracker) (title issueType description : List Char)
    (priority : Option Int) (parent : Option (List Char)) : TrackedIssue :=
  { identifier := n.next t.identifiers
    title
    description
    issueType
    priority
    parentId := present parent }

/-- A new issue is created as Proposed. -/
def Tracker.create (n : Naming) (t : Tracker) (title issueType description : List Char)
    (priority : Option Int) (parent : Option (List Char)) : Tracker :=
  let issue := t.newIssue n title issueType description priority parent
  { t with
    issues := t.issues ++ [issue]
    state := fun other => if other = issue.identifier then .proposed else t.state other }

/-- An update leaves the type alone when it is not given one. -/
def updated (title description : List Char) (issueType : Option (List Char))
    (issue : TrackedIssue) : TrackedIssue :=
  { issue with title, description, issueType := issueType.getD issue.issueType }

def linked (parent : List Char) (issue : TrackedIssue) : TrackedIssue :=
  { issue with parentId := some parent }

/-- The answer to a call and the tracker after it. -/
def Tracker.respond (n : Naming) (t : Tracker) :
    (operation : Operation) -> operation.Answer × Tracker
  | .getMetadata => (t.metadata, t)
  | .fetchIssueDetail identifier =>
    ((t.find identifier).map fun issue => (issue, t.state identifier), t)
  | .createIssue title issueType description priority parent =>
    (n.next t.identifiers, t.create n title issueType description priority parent)
  | .updateIssue identifier title description issueType =>
    ((), t.change identifier (updated title description issueType))
  | .addParentChild child parent => ((), t.change child (linked parent))
  | .saveProposal p => ((), { t with metadata := { t.metadata with proposal := some p } })
  | .saveReadiness readiness => ((), { t with metadata := { t.metadata with readiness } })
  | .transition identifier state => ((), t.moveTo identifier state)
  | .addComment text => ((), { t with comments := t.comments ++ [text] })

/-- The tracker as an interrupted application meets it. -/
def Tracker.handle (n : Naming) (i : Interruption) (t : Tracker) (r : Request) :
    Except Failure (Answer r) × Tracker :=
  match i.failure? r.point with
  | some failure => (.error failure, t)
  | none =>
    let (answer, after) := t.respond n r.operation
    (.ok answer, after)

abbrev Attempt (α : Type) :=
  Program Request Answer Failure α

def call (point : Point) (operation : Operation) : Attempt operation.Answer :=
  Program.perform (Request.mk point operation)

/-- `except Exception`: a process that dies does not go on. -/
def swallowing {α : Type} (program : Attempt α) (fallback : α) : Attempt α :=
  program.tryCatch fun failure =>
    match failure with
    | .raises => pure fallback
    | .dies => Program.raise .dies

end EpicProposals
end Oompah
