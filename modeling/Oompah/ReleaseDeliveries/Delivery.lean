import Oompah.Records.RoundTrip

/-!
# Release deliveries

A delivery record, the mapping it is stored as and the reader of a stored mapping.
The reader checks and strips every field; a record in memory holds what its caller
put into it.  An error carries what its message names.
-/

namespace Oompah
namespace ReleaseDeliveries

open Foundation Records

inductive SourceKind where
  | task
  | epic
  | commits
  deriving DecidableEq

inductive AddendumStatus where
  | «open»
  | inProgress
  | inReview
  | blocked
  | merged
  | archived
  deriving DecidableEq

namespace SourceKind

def value : SourceKind -> String
  | task => "task"
  | epic => "epic"
  | commits => "commits"

/-- `SourceKind(value)`. -/
def ofValue (text : String) : Option SourceKind :=
  [task, epic, commits].find? fun kind => kind.value == text

@[simp] theorem ofValue_value (kind : SourceKind) : ofValue kind.value = some kind := by
  cases kind <;> rfl

end SourceKind

namespace AddendumStatus

def value : AddendumStatus -> String
  | «open» => "open"
  | inProgress => "in_progress"
  | inReview => "in_review"
  | blocked => "blocked"
  | merged => "merged"
  | archived => "archived"

/-- `AddendumStatus(value)`. -/
def ofValue (text : String) : Option AddendumStatus :=
  [«open», inProgress, inReview, blocked, merged, archived].find? fun status =>
    status.value == text

@[simp] theorem ofValue_value (status : AddendumStatus) : ofValue status.value = some status := by
  cases status <;> rfl

/-- `VALID_TRANSITIONS`. -/
def validTransitions : AddendumStatus -> List AddendumStatus
  | «open» => [inProgress, archived]
  | inProgress => [inReview, blocked, «open»]
  | inReview => [merged, «open»]
  | blocked => [«open», archived]
  | merged => []
  | archived => []

/-- `is_valid_transition`. -/
def isValidTransition (fromStatus toStatus : AddendumStatus) : Bool :=
  fromStatus != toStatus && (validTransitions fromStatus).contains toStatus

end AddendumStatus

/-!
# Values of a field
-/

/-- An object that no stored document holds: its text, its truth value, what iterating
it gives when it can be iterated, and what its dump loads as when it has a dump. -/
structure ForeignObject where
  text : String
  truthy : Bool
  items : Option (List Document)
  stored : Option Document

/-- What a caller can put into a field.  A `result_commits` that lists objects without a
dump is not among them. -/
inductive Field where
  | plain (v : Document)
  | status (s : AddendumStatus)
  | other (object : ForeignObject)

namespace Field

def text (s : String) : Field :=
  .plain (.str s)

def texts (items : List String) : Field :=
  .plain (.list (items.map .str))

/-- A text that may be absent. -/
def ofOption : Option String -> Field
  | some s => .text s
  | none => .plain .null

/-- `bool(value)`. -/
def truthy : Field -> Bool
  | .plain v => v.truthy
  | .status _ => true
  | .other object => object.truthy

def characters (s : String) : List Document :=
  s.toList.map fun c => .str (String.ofList [c])

/-- `list(value)`, when the value can be iterated. -/
def items : Field -> Option (List Document)
  | .plain (.list items) => some items
  | .plain (.mapping entries) => some (entries.map Prod.fst)
  | .plain (.str s) => some (characters s)
  | .plain _ => none
  | .status s => some (characters s.value)
  | .other object => object.items

/-- What the dump of the value loads as: a member of an enumeration has no dump. -/
def stored : Field -> Option Document
  | .plain v => some v
  | .status _ => none
  | .other object => object.stored

end Field

/-- The fields that hold a text or nothing. -/
inductive OptionalField where
  | claimedBy
  | leaseExpiresAt
  | startedAt
  | completedAt
  | workBranch
  | prUrl
  | prNumber
  | error
  | migratedFrom
  | conflictAgentTaskId
  | ciRemediationTaskId
  deriving DecidableEq

namespace OptionalField

def name : OptionalField -> String
  | claimedBy => "claimed_by"
  | leaseExpiresAt => "lease_expires_at"
  | startedAt => "started_at"
  | completedAt => "completed_at"
  | workBranch => "work_branch"
  | prUrl => "pr_url"
  | prNumber => "pr_number"
  | error => "error"
  | migratedFrom => "migrated_from"
  | conflictAgentTaskId => "conflict_agent_task_id"
  | ciRemediationTaskId => "ci_remediation_task_id"

def all : List OptionalField :=
  [claimedBy, leaseExpiresAt, startedAt, completedAt, workBranch, prUrl, prNumber,
    error, migratedFrom, conflictAgentTaskId, ciRemediationTaskId]

theorem mem_all (f : OptionalField) : f ∈ all := by
  cases f <;> decide

end OptionalField

structure ReleaseDelivery where
  id : String
  projectId : String
  sourceBranch : String
  sourceKind : SourceKind
  sourceIdentifier : Option String
  sourceCommits : List String
  targetBranch : String
  status : AddendumStatus
  queuedAt : Field
  resultCommits : Field
  optional : OptionalField -> Field

/-- The fields that are set once. -/
structure SourceFields where
  id : String
  projectId : String
  sourceBranch : String
  sourceKind : SourceKind
  sourceIdentifier : Option String
  sourceCommits : List String
  targetBranch : String
  deriving DecidableEq

def ReleaseDelivery.source (d : ReleaseDelivery) : SourceFields :=
  { id := d.id
    projectId := d.projectId
    sourceBranch := d.sourceBranch
    sourceKind := d.sourceKind
    sourceIdentifier := d.sourceIdentifier
    sourceCommits := d.sourceCommits
    targetBranch := d.targetBranch }

/-!
# Errors
-/

/-- A `ValueError` or `TypeError` about one record. -/
inductive EntryError where
  | notMapping
  | missing (deliveryId field : String)
  | emptySourceKind
  | unknownSourceKind (text : String)
  | identifierRequired (deliveryId : String) (kind : SourceKind)
  | identifierForbidden (deliveryId identifier : String)
  | noSourceCommits (deliveryId : String)
  | blankSourceCommits (deliveryId : String)
  | notIterable
  | notFullSha (deliveryId field sha : String)
  | emptyStatus
  | unknownStatus (text : String)
  | text (e : PyError)
  deriving DecidableEq

def ofText {α : Type} (x : Except PyError α) : Except EntryError α :=
  x.mapError .text

theorem ofText_eq_ok {α : Type} {x : Except PyError α} {a : α} : ofText x = .ok a ↔ x = .ok a := by
  cases x with
  | error e => simp [ofText, Except.mapError]
  | ok b => simp [ofText, Except.mapError]

/-!
# Commit hashes
-/

def isHexDigit (c : Char) : Bool :=
  c ∈ "0123456789abcdef".toList

/-- Forty lower-case hexadecimal digits. -/
def FullSha (sha : String) : Prop :=
  sha.toList.length = 40 ∧ sha.toList.all isHexDigit = true

instance (sha : String) : Decidable (FullSha sha) :=
  inferInstanceAs (Decidable (_ ∧ _))

/-- A match of `_FULL_SHA_RE`: its `$` also stands before a last line break. -/
def matchesFullSha (sha : String) : Bool :=
  decide (FullSha sha) ||
    (sha.toList.getLast? == some '\n' && decide (FullSha (String.ofList sha.toList.dropLast)))

/-- `_validate_full_sha`. -/
def validateFullSha (deliveryId field sha : String) : Except EntryError Unit :=
  require (matchesFullSha sha = true) (.notFullSha deliveryId field sha)

def validateFullShas (deliveryId field : String) : List String -> Except EntryError Unit
  | [] => .ok ()
  | sha :: rest => do
      validateFullSha deliveryId field sha
      validateFullShas deliveryId field rest

/-!
# The stored mapping
-/

namespace ReleaseDelivery

/-- `to_raw`: iterating the result commits may fail. -/
def toRaw (d : ReleaseDelivery) : Except EntryError (List (String × Field)) :=
  match d.resultCommits.items with
  | none => .error .notIterable
  | some commits => .ok [("id", .text d.id), ("project_id", .text d.projectId),
        ("source_branch", .text d.sourceBranch), ("source_kind", .text d.sourceKind.value),
        ("source_identifier", .ofOption d.sourceIdentifier),
        ("source_commits", .texts d.sourceCommits), ("target_branch", .text d.targetBranch),
        ("status", .text d.status.value), ("queued_at", d.queuedAt),
        ("claimed_by", d.optional .claimedBy),
        ("lease_expires_at", d.optional .leaseExpiresAt),
        ("started_at", d.optional .startedAt), ("completed_at", d.optional .completedAt),
        ("work_branch", d.optional .workBranch), ("pr_url", d.optional .prUrl),
        ("pr_number", d.optional .prNumber), ("result_commits", .plain (.list commits)),
        ("error", d.optional .error), ("migrated_from", d.optional .migratedFrom),
        ("conflict_agent_task_id", d.optional .conflictAgentTaskId),
        ("ci_remediation_task_id", d.optional .ciRemediationTaskId)]

end ReleaseDelivery

/-- What the dump of a mapping loads as, when every value of it has a dump. -/
def dumpFields : List (String × Field) -> Option (List (String × Document))
  | [] => some []
  | (key, value) :: rest =>
    match value.stored, dumpFields rest with
    | some v, some others => some ((key, v) :: others)
    | _, _ => none

/-!
# The reader
-/

section Reader

variable (rt : DocumentRuntime)

/-- `SourceKind.from_raw`. -/
def SourceKind.fromRaw (raw : Document) : Except EntryError SourceKind :=
  if raw.truthy = false then .error .emptySourceKind
  else do
    let text <- ofText (rt.str raw)
    match SourceKind.ofValue (rt.lower (strip text)) with
    | some kind => .ok kind
    | none => .error (.unknownSourceKind text)

/-- `text.replace("-", "_")`. -/
def hyphensToUnderscores (text : String) : String :=
  String.ofList (text.toList.map fun c => if c = '-' then '_' else c)

def statusOfText (text : String) : Except EntryError AddendumStatus :=
  match AddendumStatus.ofValue (hyphensToUnderscores (rt.lower (strip text))) with
  | some status => .ok status
  | none => .error (.unknownStatus text)

/-- `AddendumStatus.from_raw`. -/
def AddendumStatus.fromRaw : Field -> Except EntryError AddendumStatus
  | .status s => .ok s
  | .plain raw =>
    if raw.truthy = false then .error .emptyStatus
    else do
      let text <- ofText (rt.str raw)
      statusOfText rt text
  | .other object =>
    if object.truthy = false then .error .emptyStatus else statusOfText rt object.text

/-- `str(raw.get(field) or "").strip()`, which must not be empty. -/
def requiredField (raw : Document.Entries) (deliveryId field : String) :
    Except EntryError String := do
  let text <- ofText (rt.clean (raw.get field))
  require (text ≠ "") (.missing deliveryId field)
  return text

/-- `_opt_str`. -/
def optStr (v : Document) : Except EntryError (Option String) :=
  if v.isNull then .ok none
  else do
    let text <- ofText (rt.str v)
    return if strip text = "" then none else some (strip text)

/-- The items of a list of commits; one text is a list of one. -/
def commitItems : Document -> Except EntryError (List Document)
  | .str s => .ok [.str s]
  | .list items => .ok items
  | .mapping entries => .ok (entries.map Prod.fst)
  | _ => .error .notIterable

def readCommits (raw : Document) (deliveryId field : String) : Except EntryError (List String) := do
  let items <- commitItems raw
  let commits <- ofText (textList rt items)
  validateFullShas deliveryId field commits
  return commits

/-- The check of the kind against the identifier. -/
def requireIdentifier (deliveryId : String) (kind : SourceKind) (identifier : Option String) :
    Except EntryError Unit :=
  match kind, identifier with
  | .commits, some identifier => .error (.identifierForbidden deliveryId identifier)
  | .task, none => .error (.identifierRequired deliveryId .task)
  | .epic, none => .error (.identifierRequired deliveryId .epic)
  | _, _ => .ok ()

/-- The source commits: a list without commits is refused before they are validated. -/
def readSourceCommits (raw : Document) (deliveryId : String) : Except EntryError (List String) := do
  require (raw.truthy = true) (.noSourceCommits deliveryId)
  let items <- commitItems raw
  let commits <- ofText (textList rt items)
  require (commits ≠ []) (.blankSourceCommits deliveryId)
  validateFullShas deliveryId "source_commits" commits
  return commits

def readOptional (raw : Document.Entries) :
    List OptionalField -> Except EntryError (OptionalField -> Option String)
  | [] => .ok fun _ => none
  | f :: rest => do
      let text <- optStr rt (raw.get f.name)
      let texts <- readOptional raw rest
      return Function.update texts f text

/-- The fields of a mapping, in the order they are checked. -/
def ReleaseDelivery.fromEntries (raw : Document.Entries) :
    Except EntryError ReleaseDelivery := do
  let id <- requiredField rt raw "" "id"
  let projectId <- requiredField rt raw id "project_id"
  let sourceBranch <- requiredField rt raw id "source_branch"
  let sourceKind <- SourceKind.fromRaw rt (raw.get "source_kind")
  let sourceIdentifier <- optStr rt (raw.get "source_identifier")
  requireIdentifier id sourceKind sourceIdentifier
  let sourceCommits <- readSourceCommits rt (raw.get "source_commits") id
  let targetBranch <- requiredField rt raw id "target_branch"
  let status <- AddendumStatus.fromRaw rt (.plain (raw.get "status"))
  let queuedAt <- requiredField rt raw id "queued_at"
  let resultCommits <-
    readCommits rt ((raw.get "result_commits").orElse (.list [])) id "result_commits"
  let optional <- readOptional rt raw OptionalField.all
  return { id, projectId, sourceBranch, sourceKind, sourceIdentifier, sourceCommits,
           targetBranch, status, queuedAt := .text queuedAt,
           resultCommits := .texts resultCommits, optional := fun f => .ofOption (optional f) }

/-- `ReleaseDelivery.from_raw`. -/
def ReleaseDelivery.fromRaw (raw : Document) : Except EntryError ReleaseDelivery :=
  match raw.mapping? with
  | none => .error .notMapping
  | some entries => fromEntries rt entries

end Reader
end ReleaseDeliveries
end Oompah
