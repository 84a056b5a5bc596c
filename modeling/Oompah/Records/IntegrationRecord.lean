import Oompah.Records.Evidence

/-!
# Integration records

The versioned record a tracker stores for the integration of a task.  A stored
mapping is normalised field by field, its landing evidence is parsed on its own,
and the record is checked when it is constructed.
-/

namespace Oompah
namespace Records

open Foundation

def integrationRecordVersion : Int := 2

def integrationStates : List String :=
  ["working", "ready", "queued", "integrating", "blocked", "integrated", "needs_human"]

def integrationModes : List String := ["queue", "standalone"]

/-- A mapping of texts, in the order its keys were first written. -/
abbrev TextDict := List (String × String)

structure IntegrationRecord where
  state : String
  mode : Option String := none
  postLandedParentId : Option String := none
  taskBranch : Option String := none
  baseBranch : Option String := none
  baseSha : Option String := none
  headSha : Option String := none
  integratedSha : Option String := none
  maintenancePublicationProven : Bool := false
  attempts : Int := 0
  submittedAt : Option String := none
  updatedAt : Option String := none
  lastError : Option String := none
  dependencyHeads : TextDict := []
  backoffUntil : Option String := none
  repairFailureReason : Option String := none
  gateOutcome : Option String := none
  gateCancellation : Option TextDict := none
  canonicalLandingEvidence : Option Document.Entries := none
  waitReason : Option String := none
  waitGeneration : Option String := none
  requiredBaseMissing : List String := []
  version : Int := integrationRecordVersion

/-!
# Texts of a stored mapping
-/

/-- `_optional_text`. -/
def optionalText (rt : DocumentRuntime) (value : Document) : Except PyError (Option String) := do
  let text <- rt.clean value
  return if text = "" then none else some text

/-- `mapping[key] = value`. -/
def insertText (texts : TextDict) (key value : String) : TextDict :=
  if texts.any (fun entry => entry.1 = key) then
    texts.map (fun entry => if entry.1 = key then (key, value) else entry)
  else texts ++ [(key, value)]

/-- One entry of a mapping of texts: blank keys and blank items are left out. -/
def addText (rt : DocumentRuntime) (form : String -> String) (texts : TextDict)
    (entry : Document × Document) : Except PyError TextDict := do
  let key <- rt.str entry.1
  if strip key = "" then return texts
  let item <- rt.str entry.2
  if strip item = "" then return texts
  return insertText texts key (form item)

def textDict (rt : DocumentRuntime) (form : String -> String)
    (entries : Document.Entries) : Except PyError TextDict :=
  entries.foldlM (addText rt form) []

/-- The items of a sequence that are not blank. -/
def textList (rt : DocumentRuntime) : List Document -> Except PyError (List String)
  | [] => .ok []
  | item :: rest => do
      let text <- rt.str item
      let texts <- textList rt rest
      return if strip text = "" then texts else strip text :: texts

namespace IntegrationRecord

/-- `__post_init__`. -/
def postInit (rt : DocumentRuntime) (r : IntegrationRecord) :
    Except PyError IntegrationRecord := do
  require (r.version = integrationRecordVersion)
    (.valueError ("unsupported integration record version: " ++ toString r.version ++
      " (expected: " ++ toString integrationRecordVersion ++ ")"))
  require (r.state ∈ integrationStates)
    (.valueError ("unsupported integration state: " ++ rt.repr r.state))
  require (forall mode, mode ∈ r.mode -> mode ∈ integrationModes)
    (.valueError ("unsupported integration mode: " ++ rt.repr (r.mode.getD "")))
  require (r.postLandedParentId ≠ none -> r.mode = some "standalone")
    (.valueError "post-landed parent authority requires standalone delivery mode")
  require (0 ≤ r.attempts) (.valueError "integration attempts cannot be negative")
  return r

def readHeads (rt : DocumentRuntime) (value : Document.Entries) :
    Except PyError TextDict :=
  match (value.get "dependency_heads").mapping? with
  | some rawHeads => textDict rt id rawHeads
  | none => .ok []

/-- The version and the attempts, read under one handler. -/
def readIntegers (rt : DocumentRuntime) (value : Document.Entries) : Except PyError (Int × Int) :=
  let integers := do
    let version <- rt.int (value.getD "version" (.int integrationRecordVersion))
    let attempts <- rt.int ((value.getD "attempts" (.int 0)).orElse (.int 0))
    return (version, attempts)
  match integers with
  | .error (.typeError _) =>
    .error (.valueError "integration version and attempts must be integers")
  | .error (.valueError _) =>
    .error (.valueError "integration version and attempts must be integers")
  | result => result

def readEvidence (rt : DocumentRuntime) (value : Document.Entries) :
    Except PyError (Option Document.Entries) :=
  match (value.get "canonical_landing_evidence").mapping? with
  | some rawEvidence => do
      let parsed <- parseCanonicalLandingEvidence rt (.mapping rawEvidence)
      return parsed.map CanonicalLandingEvidence.toDict
  | none => .ok none

def readCancellation (rt : DocumentRuntime) (value : Document.Entries) :
    Except PyError (Option TextDict) :=
  match (value.get "gate_cancellation").mapping? with
  | some rawCancellation => do
      let cancellation <- textDict rt strip rawCancellation
      return some cancellation
  | none => .ok none

def readMissing (rt : DocumentRuntime) (value : Document.Entries) : Except PyError (List String) :=
  match (value.get "required_base_missing").sequence? with
  | some rawMissing => textList rt rawMissing
  | none => .ok []

def fromDict (rt : DocumentRuntime) (value : Document.Entries) :
    Except PyError IntegrationRecord := do
  let dependencyHeads <- readHeads rt value
  let (version, attempts) <- readIntegers rt value
  require (1 ≤ version ∧ version ≤ integrationRecordVersion)
    (.valueError ("unsupported integration record version: " ++ toString version ++
      " (supported: 1-" ++ toString integrationRecordVersion ++ ")"))
  let canonicalLandingEvidence <- readEvidence rt value
  let gateCancellation <- readCancellation rt value
  let requiredBaseMissing <- readMissing rt value
  let state <- rt.cleanLower (value.get "state")
  let mode <- optionalText rt (value.get "mode")
  let postLandedParentId <- optionalText rt (value.get "post_landed_parent_id")
  let taskBranch <- optionalText rt (value.get "task_branch")
  let baseBranch <- optionalText rt (value.get "base_branch")
  let baseSha <- optionalText rt (value.get "base_sha")
  let headSha <- optionalText rt (value.get "head_sha")
  let integratedSha <- optionalText rt (value.get "integrated_sha")
  let submittedAt <- optionalText rt (value.get "submitted_at")
  let updatedAt <- optionalText rt (value.get "updated_at")
  let lastError <- optionalText rt (value.get "last_error")
  let backoffUntil <- optionalText rt (value.get "backoff_until")
  let repairFailureReason <- optionalText rt (value.get "repair_failure_reason")
  let gateOutcome <- optionalText rt (value.get "gate_outcome")
  let waitReason <- optionalText rt (value.get "wait_reason")
  let waitGeneration <- optionalText rt (value.get "wait_generation")
  postInit rt
    { version := integrationRecordVersion, state, mode, postLandedParentId, taskBranch,
      baseBranch, baseSha, headSha, integratedSha,
      maintenancePublicationProven :=
        (value.get "maintenance_publication_proven").isTrue,
      attempts, submittedAt, updatedAt, lastError, dependencyHeads, backoffUntil,
      repairFailureReason, gateOutcome, gateCancellation, canonicalLandingEvidence,
      waitReason, waitGeneration, requiredBaseMissing }

/-- The entries of the fields that have a value. -/
def present (fields : List (String × Option Document)) : Document.Entries :=
  fields.filterMap fun field => field.2.map fun value => (.str field.1, value)

def ofTexts (texts : TextDict) : Document :=
  .mapping (texts.map fun entry => (.str entry.1, .str entry.2))

def entries (r : IntegrationRecord) : List (String × Option Document) :=
  [("version", some (.int r.version)), ("state", some (.str r.state)),
    ("attempts", some (.int r.attempts)), ("mode", r.mode.map .str),
    ("post_landed_parent_id", r.postLandedParentId.map .str),
    ("task_branch", r.taskBranch.map .str), ("base_branch", r.baseBranch.map .str),
    ("base_sha", r.baseSha.map .str), ("head_sha", r.headSha.map .str),
    ("integrated_sha", r.integratedSha.map .str),
    ("submitted_at", r.submittedAt.map .str), ("updated_at", r.updatedAt.map .str),
    ("last_error", r.lastError.map .str), ("backoff_until", r.backoffUntil.map .str),
    ("repair_failure_reason", r.repairFailureReason.map .str),
    ("gate_outcome", r.gateOutcome.map .str), ("wait_reason", r.waitReason.map .str),
    ("wait_generation", r.waitGeneration.map .str),
    ("maintenance_publication_proven",
      if r.maintenancePublicationProven then some (.bool true) else none),
    ("dependency_heads",
      if r.dependencyHeads.isEmpty then none else some (ofTexts r.dependencyHeads)),
    ("canonical_landing_evidence", r.canonicalLandingEvidence.map .mapping),
    ("gate_cancellation", r.gateCancellation.map ofTexts),
    ("required_base_missing",
      if r.requiredBaseMissing.isEmpty then none
      else some (.list (r.requiredBaseMissing.map .str)))]

def toDict (r : IntegrationRecord) : Document.Entries :=
  present r.entries

end IntegrationRecord

def parseIntegrationRecord (rt : DocumentRuntime) (value : Document) :
    Except PyError (Option IntegrationRecord) :=
  match value.mapping? with
  | none => .ok none
  | some entries =>
    match IntegrationRecord.fromDict rt entries with
    | .ok r => .ok (some r)
    | .error (.valueError _) => .ok none
    | .error e => .error e

end Records
end Oompah
