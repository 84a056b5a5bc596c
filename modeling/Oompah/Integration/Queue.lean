import Mathlib.Data.List.Sort
import Oompah.Foundation.Table
import Oompah.Foundation.Value

/-!
# The integration queue

Rows of the restart-safe integration queue and the operations of its store.
Every operation is one transaction: it selects rows, checks them and writes,
and one that raises or rolls back leaves the store as it found it.  The clocks
`time.time()` and `_now_iso()` are arguments, as are identifiers after `strip`.
-/

namespace Oompah
namespace Integration

open Foundation

/-!
# Rows
-/

inductive QueueState where
  | ready
  | integrating
  | blocked
  | integrated
  | cancelled
  deriving DecidableEq

def QueueState.value : QueueState -> String
  | ready => "ready"
  | integrating => "integrating"
  | blocked => "blocked"
  | integrated => "integrated"
  | cancelled => "cancelled"

structure IntegrationQueueItem where
  projectId : String
  epicId : String
  taskId : String
  taskBranch : String
  headSha : String
  baseSha : Option String
  priority : Int
  submittedAt : String
  state : QueueState
  attempts : Int
  leaseOwner : Option String
  leaseExpiresAt : Option Int
  updatedAt : String
  baseBranch : Option String := none
  candidateHeadSha : Option String := none
  candidateBaseSha : Option String := none
  lastError : Option String := none
  retryForced : Bool := false
  nextRetryAt : Option Int := none
  rebasedFromHeadSha : Option String := none
  integratedSha : Option String := none
  rebaseIntentPending : Bool := false
  rebasedPublicationPending : Bool := false
  historySequence : Nat := 0
  deriving DecidableEq

/-- `PRIMARY KEY(project_id, task_id)`. -/
structure RowKey where
  projectId : String
  taskId : String
  deriving DecidableEq

def IntegrationQueueItem.key (item : IntegrationQueueItem) : RowKey :=
  { projectId := item.projectId, taskId := item.taskId }

/-- Python's `value or default` on an optional text. -/
def textOr (value : Option String) (default : String) : String :=
  match value with
  | none => default
  | some text => if text = "" then default else text

/-- Python's `value or None` on an optional text. -/
def textOrNone (value : Option String) : Option String :=
  value.filter (· ≠ "")

/-- The digest of a row that `authority_generation` computes, and `str.lower`. -/
structure QueueRuntime where
  authority : IntegrationQueueItem -> String
  lower : String -> String

/-!
# The store

`history` is the counter kept in `schema_meta` beside the rows.
-/

structure IntegrationQueueStore where
  rows : List IntegrationQueueItem := []
  history : Nat := 0
  deriving DecidableEq

namespace IntegrationQueueStore

variable (rt : QueueRuntime)

def get (s : IntegrationQueueStore) (k : RowKey) : Option IntegrationQueueItem :=
  rowAt IntegrationQueueItem.key s.rows k

def update (s : IntegrationQueueStore) (condition : IntegrationQueueItem -> Bool)
    (set : IntegrationQueueItem -> IntegrationQueueItem) : IntegrationQueueStore :=
  { s with rows := updateWhere s.rows condition set }

def insert (s : IntegrationQueueStore) (item : IntegrationQueueItem) :
    IntegrationQueueStore :=
  { s with rows := s.rows ++ [item] }

def nextHistorySequenceLocked (s : IntegrationQueueStore) : IntegrationQueueStore × Nat :=
  ({ s with history := s.history + 1 }, s.history + 1)

/-!
# Submissions
-/

structure Submission where
  projectId : String
  epicId : String
  taskId : String
  taskBranch : String
  headSha : String
  baseBranch : Option String := none
  baseSha : Option String := none
  priority : Option Int := none
  submittedAt : Option String := none
  explicitRetry : Bool := false
  rearmIntegrated : Bool := false
  retryAt : Option Int := none
  preserveAttempts : Bool := false
  deriving DecidableEq

namespace Submission

def key (x : Submission) : RowKey := { projectId := x.projectId, taskId := x.taskId }

def missing (x : Submission) : List String :=
  ([("project_id", x.projectId), ("epic_id", x.epicId), ("task_id", x.taskId),
      ("task_branch", x.taskBranch), ("head_sha", x.headSha)].filter
    (fun value => value.2 = "")).map Prod.fst

def missingError (x : Submission) : String :=
  ", ".intercalate x.missing ++ " required"

/-- The submission names the generation the row already holds. -/
def identical (x : Submission) (existing : IntegrationQueueItem) : Bool :=
  existing.epicId = x.epicId && textOr existing.candidateHeadSha existing.headSha = x.headSha &&
    existing.taskBranch = x.taskBranch &&
    textOr existing.baseBranch "" = textOr x.baseBranch "" &&
    rt.lower (textOr existing.candidateBaseSha (textOr existing.baseSha "")) =
      rt.lower (textOr x.baseSha "")

def retryInactive (x : Submission) (existing : IntegrationQueueItem) : Bool :=
  x.identical rt existing && x.explicitRetry &&
    (existing.state = .blocked || existing.state = .cancelled)

def retryIntegrated (x : Submission) (existing : IntegrationQueueItem) : Bool :=
  x.identical rt existing && x.explicitRetry && x.rearmIntegrated && existing.state = .integrated

/-- The row `enqueue` writes, over no row or over an existing one. -/
def row (x : Submission) (existing : Option IntegrationQueueItem) (now : String) :
    IntegrationQueueItem :=
  { projectId := x.projectId
    epicId := x.epicId
    taskId := x.taskId
    taskBranch := x.taskBranch
    headSha := x.headSha
    baseBranch := textOrNone x.baseBranch
    baseSha := textOrNone x.baseSha
    priority := x.priority.getD 999
    submittedAt := textOr x.submittedAt now
    state := .ready
    attempts :=
      match existing with
      | some item => if x.preserveAttempts then item.attempts else 0
      | none => 0
    leaseOwner := none
    leaseExpiresAt := none
    updatedAt := now
    retryForced := existing.any (x.retryInactive rt)
    nextRetryAt :=
      match x.retryAt, existing with
      | some retryAt, _ => some retryAt
      | none, some item => if x.preserveAttempts then item.nextRetryAt else none
      | none, none => none }

end Submission

def enqueue (s : IntegrationQueueStore) (x : Submission) (now : String) :
    IntegrationQueueStore × Except String IntegrationQueueItem :=
  if x.missing ≠ [] then (s, .error x.missingError)
  else
    match s.get x.key with
    | none => (s.insert (x.row rt none now), .ok (x.row rt none now))
    | some existing =>
      if x.identical rt existing && !x.retryInactive rt existing &&
          !x.retryIntegrated rt existing then
        (s, .ok existing)
      else
        (s.update (fun item => item.key = x.key) (fun _ => x.row rt (some existing) now),
          .ok (x.row rt (some existing) now))

def enqueueIfAbsent (s : IntegrationQueueStore) (x : Submission) (now : String) :
    IntegrationQueueStore × Except String (Option IntegrationQueueItem) :=
  if x.missing ≠ [] then (s, .error x.missingError)
  else
    match s.get x.key with
    | some _ => (s, .ok none)
    | none =>
      let row := { x.row rt none now with retryForced := false, nextRetryAt := none }
      (s.insert row, .ok (some row))

/-!
# Compare-and-swap of one row

The operations below read the row of one task, check it and update it under a
condition that repeats part of the check.
-/

def casUpdate (s : IntegrationQueueStore) (k : RowKey)
    (check condition : IntegrationQueueItem -> Bool)
    (set : IntegrationQueueItem -> IntegrationQueueItem -> IntegrationQueueItem) :
    IntegrationQueueStore × Option IntegrationQueueItem :=
  match s.get k with
  | none => (s, none)
  | some item =>
    if check item then
      let after := s.update (fun row => row.key = k && condition row) (set item)
      (after, after.get k)
    else (s, none)

/-- `casUpdate` that first takes the next history sequence. -/
def casHistory (s : IntegrationQueueStore) (k : RowKey)
    (check condition : IntegrationQueueItem -> Bool)
    (set : Nat -> IntegrationQueueItem -> IntegrationQueueItem -> IntegrationQueueItem) :
    IntegrationQueueStore × Option IntegrationQueueItem :=
  match s.get k with
  | none => (s, none)
  | some item =>
    if check item then
      let (counted, sequence) := s.nextHistorySequenceLocked
      let after :=
        counted.update (fun row => row.key = k && condition row) (set sequence item)
      (after, after.get k)
    else (s, none)

def replaceTaskIdentity (s : IntegrationQueueStore) (k : RowKey)
    (expected parent branch head : String) (baseBranch baseSha : Option String)
    (priority : Option Int) (submittedAt : Option String) (now : String) :
    IntegrationQueueStore × Option IntegrationQueueItem :=
  if expected = "" ∨ parent = "" ∨ branch = "" ∨ head = "" then (s, none)
  else
    s.casUpdate k (fun item => rt.authority item = expected && item.leaseOwner.isNone &&
        item.taskBranch = branch && item.headSha = head)
      (fun row => row.leaseOwner.isNone)
      (fun item row =>
        { row with
          epicId := parent
          baseBranch := textOrNone baseBranch
          baseSha := textOrNone baseSha
          priority := priority.getD 999
          submittedAt := textOr submittedAt item.submittedAt
          state := .ready
          attempts := 0
          leaseOwner := none
          leaseExpiresAt := none
          updatedAt := now
          lastError := none
          retryForced := false
          nextRetryAt := none
          rebasedFromHeadSha := none
          integratedSha := none
          rebaseIntentPending := false
          rebasedPublicationPending := false
          historySequence := 0 })

/-- `action` is what the callback returns for the row it is shown. -/
def retireTaskGeneration (s : IntegrationQueueStore) (k : RowKey)
    (expected message : String) (action : IntegrationQueueItem -> Bool)
    (now : String) : IntegrationQueueStore × Option IntegrationQueueItem :=
  if expected = "" ∨ message = "" then (s, none)
  else
    let retired :=
      s.casUpdate k (fun item => rt.authority item = expected && (item.state = .ready ||
            item.state = .cancelled && item.lastError = some message) &&
          item.leaseOwner.isNone && !item.rebaseIntentPending &&
          !item.rebasedPublicationPending && action item)
        (fun row => (row.state = .ready || row.state = .cancelled) && row.leaseOwner.isNone)
        (fun _ row =>
          { row with
            state := .cancelled
            leaseOwner := none
            leaseExpiresAt := none
            updatedAt := now
            lastError := some message
            retryForced := false
            nextRetryAt := none
            rebaseIntentPending := false
            rebasedPublicationPending := false })
    (retired.1, retired.2.filter
        (fun item => item.state = .cancelled && item.lastError = some message))

def prepareTaskRebase (s : IntegrationQueueStore) (k : RowKey) (expected base now : String) :
    IntegrationQueueStore × Option IntegrationQueueItem :=
  if expected = "" ∨ base = "" then (s, none)
  else
    match s.get k with
    | none => (s, none)
    | some item =>
      if rt.authority item ≠ expected ∨ item.state ≠ .ready ∨
          item.leaseOwner.isSome ∨ item.rebasedPublicationPending then (s, none)
      else if item.rebaseIntentPending then (s, some item)
      else
        s.casUpdate k (fun _ => true) (fun row => row.state = .ready && row.leaseOwner.isNone &&
            !row.rebaseIntentPending && !row.rebasedPublicationPending)
          (fun item row =>
            { row with
              baseSha := some base
              rebasedFromHeadSha := some item.headSha
              rebaseIntentPending := true
              updatedAt := now })

def abortTaskRebase (s : IntegrationQueueStore) (k : RowKey) (expected now : String) :
    IntegrationQueueStore × Option IntegrationQueueItem :=
  if expected = "" then (s, none)
  else
    s.casUpdate k (fun item => rt.authority item = expected && item.state = .ready &&
        item.leaseOwner.isNone && item.rebaseIntentPending &&
        !item.rebasedPublicationPending)
      (fun row => row.state = .ready && row.leaseOwner.isNone &&
        row.rebaseIntentPending && !row.rebasedPublicationPending)
      (fun _ row =>
        { row with
          rebaseIntentPending := false
          rebasedFromHeadSha := none
          updatedAt := now })

def prepareTaskPublication (s : IntegrationQueueStore) (k : RowKey)
    (expected replacement : String) (baseSha : Option String) (now : String) :
    IntegrationQueueStore × Option IntegrationQueueItem :=
  if expected = "" ∨ replacement = "" then (s, none)
  else
    match s.get k with
    | none => (s, none)
    | some item =>
      if rt.authority item ≠ expected ∨ item.state ≠ .ready ∨ item.leaseOwner.isSome then (s, none)
      else if rt.lower item.headSha = replacement ∧
          item.rebasedPublicationPending then (s, some item)
      else if item.rebasedPublicationPending then (s, none)
      else
        s.casUpdate k (fun _ => true) (fun row => row.state = .ready && row.leaseOwner.isNone)
          (fun item row =>
            { row with
              headSha := replacement
              baseSha := (textOrNone baseSha).or item.baseSha
              updatedAt := now
              rebasedFromHeadSha :=
                some (textOr item.rebasedFromHeadSha item.headSha)
              rebaseIntentPending := false
              rebasedPublicationPending := true })

def completeTaskPublication (s : IntegrationQueueStore) (k : RowKey)
    (expected published now : String) :
    IntegrationQueueStore × Option IntegrationQueueItem :=
  if expected = "" ∨ published = "" then (s, none)
  else
    s.casUpdate k (fun item => rt.authority item = expected && item.state = .ready &&
        item.leaseOwner.isNone && item.rebasedPublicationPending &&
        !item.rebaseIntentPending && rt.lower item.headSha = published &&
        (textOrNone item.rebasedFromHeadSha).isSome)
      (fun row => row.state = .ready && row.leaseOwner.isNone && row.rebasedPublicationPending)
      (fun _ row => { row with rebasedPublicationPending := false, updatedAt := now })

/-- The flag returned is the authority of the retry that was consumed. -/
def consumeRetryGeneration (s : IntegrationQueueStore) (k : RowKey) (expected now : String) :
    IntegrationQueueStore × Option IntegrationQueueItem × Bool :=
  if expected = "" then (s, none, false)
  else
    match s.get k with
    | none => (s, none, false)
    | some item =>
      if rt.authority item ≠ expected ∨ item.state ≠ .ready ∨
          item.leaseOwner.isSome ∨ item.rebasedPublicationPending ∨
          item.rebaseIntentPending then (s, none, false)
      else if item.retryForced then
        let consumed :=
          s.casUpdate k (fun _ => true) (fun row => row.state = .ready && row.leaseOwner.isNone)
            (fun _ row => { row with retryForced := false, updatedAt := now })
        (consumed.1, consumed.2, true)
      else (s, some item, false)

def recoverTaskGeneration (s : IntegrationQueueStore) (k : RowKey)
    (expected : String) (timestamp : Int) (now : String) :
    IntegrationQueueStore × Option IntegrationQueueItem :=
  if expected = "" then (s, none)
  else
    match s.get k with
    | none => (s, none)
    | some item =>
      s.casUpdate k (fun item => rt.authority item = expected && item.state = .integrating &&
          item.leaseExpiresAt.any (· ≤ timestamp))
        (fun row => row.state = .integrating && row.leaseOwner.isSome &&
          row.leaseOwner = item.leaseOwner)
        (fun _ row =>
          { row with
            state := .ready
            leaseOwner := none
            leaseExpiresAt := none
            updatedAt := now })

/-- The states `finish_task_generation` accepts. -/
def finishStates : List QueueState := [.ready, .blocked, .integrated, .cancelled]

def finishTaskGeneration (s : IntegrationQueueStore) (k : RowKey)
    (expected : String) (state : QueueState) (error : Option String)
    (retryAt : Option Int) (integratedSha : Option String) (now : String) :
    IntegrationQueueStore × Option IntegrationQueueItem :=
  let check := fun (item : IntegrationQueueItem) =>
    rt.authority item = expected && item.state = .ready && item.leaseOwner.isNone &&
      !item.rebasedPublicationPending && !item.rebaseIntentPending
  let condition := fun (row : IntegrationQueueItem) =>
    row.state = .ready && row.leaseOwner.isNone
  let set := fun (sequence : Nat) (_ row : IntegrationQueueItem) =>
    { row with
      state := state
      leaseOwner := none
      leaseExpiresAt := none
      attempts := row.attempts + 1
      updatedAt := now
      lastError := error
      retryForced := false
      nextRetryAt := retryAt
      integratedSha := if state = .integrated then textOrNone integratedSha else none
      rebaseIntentPending := false
      rebasedPublicationPending := false
      historySequence := sequence }
  if expected = "" ∨ state ∉ finishStates then (s, none)
  else if state = .integrated then s.casHistory k check condition set
  else s.casUpdate k check condition (set 0)

def normalizeLegacyTrackerCheckpoint (s : IntegrationQueueStore) (k : RowKey)
    (expected branch replacement landed : String) (baseSha : Option String)
    (now : String) : IntegrationQueueStore × Option IntegrationQueueItem :=
  if expected = "" ∨ branch = "" ∨ replacement = "" ∨ landed = "" then (s, none)
  else
    s.casHistory k (fun item => rt.authority item = expected &&
        (item.state = .ready || item.state = .integrated) &&
        item.leaseOwner.isNone && item.taskBranch = branch &&
        !item.rebasedPublicationPending && !item.rebaseIntentPending)
      (fun row => (row.state = .ready || row.state = .integrated) && row.leaseOwner.isNone)
      (fun sequence item row =>
        { row with
          state := .integrated
          headSha := replacement
          baseSha := (textOrNone baseSha).or item.baseSha
          rebasedFromHeadSha :=
            if item.headSha ≠ replacement then some item.headSha
            else item.rebasedFromHeadSha
          integratedSha := some landed
          historySequence := sequence
          updatedAt := now
          lastError := none
          retryForced := false
          nextRetryAt := none
          rebaseIntentPending := false
          rebasedPublicationPending := false })

/-!
# Leases
-/

def releaseLease (now : String) (row : IntegrationQueueItem) : IntegrationQueueItem :=
  { row with
    state := .ready
    leaseOwner := none
    leaseExpiresAt := none
    updatedAt := now }

def leaseExpired (timestamp : Int) (row : IntegrationQueueItem) : Bool :=
  row.state = .integrating && row.leaseExpiresAt.any (· ≤ timestamp)

def recoverExpired (s : IntegrationQueueStore) (timestamp : Int) (now : String) :
    IntegrationQueueStore × Nat :=
  (s.update (leaseExpired timestamp) (releaseLease now), countWhere s.rows (leaseExpired timestamp))

def recoverAbandoned (s : IntegrationQueueStore) (now : String) : IntegrationQueueStore × Nat :=
  (s.update (fun row => row.state = .integrating) (releaseLease now),
    countWhere s.rows (fun row => row.state = .integrating))

structure ClaimRequest where
  projectId : String
  epicId : String
  leaseOwner : String
  dependencyMap : String -> List String
  satisfied : List String
  leaseSeconds : Int := 3600
  maxAttempts : Option Int := none

namespace ClaimRequest

/-- `ORDER BY priority, submitted_at, task_id`. -/
def before (a b : IntegrationQueueItem) : Bool :=
  a.priority < b.priority || a.priority = b.priority && (a.submittedAt < b.submittedAt ||
        a.submittedAt = b.submittedAt && a.taskId ≤ b.taskId)

def due (x : ClaimRequest) (timestamp : Int) (row : IntegrationQueueItem) : Bool :=
  row.projectId = x.projectId && row.epicId = x.epicId && row.state = .ready &&
    row.nextRetryAt.all (· ≤ timestamp)

def admits (x : ClaimRequest) (row : IntegrationQueueItem) : Bool :=
  x.maxAttempts.all (fun limit => row.attempts < max 1 limit) &&
    (x.dependencyMap row.taskId).all (fun task => task ∈ x.satisfied)

def select (x : ClaimRequest) (timestamp : Int) (rows : List IntegrationQueueItem) :
    Option IntegrationQueueItem :=
  ((rows.filter (x.due timestamp)).insertionSort (fun a b => before a b = true)).find? x.admits

def takeLease (x : ClaimRequest) (timestamp : Int) (now : String)
    (row : IntegrationQueueItem) : IntegrationQueueItem :=
  { row with
    state := .integrating
    leaseOwner := some x.leaseOwner
    leaseExpiresAt := some (timestamp + max 1 x.leaseSeconds)
    attempts := row.attempts + 1
    updatedAt := now
    retryForced := false
    nextRetryAt := none }

end ClaimRequest

def claimable (k : RowKey) (row : IntegrationQueueItem) : Bool :=
  row.key = k && row.state = .ready

/-- The flag returned with the row is `claimed_retry_forced`. -/
def claimNext (s : IntegrationQueueStore) (x : ClaimRequest) (timestamp : Int)
    (now : String) : IntegrationQueueStore × Option (IntegrationQueueItem × Bool) :=
  let recovered := (s.recoverExpired timestamp now).1
  match x.select timestamp recovered.rows with
  | none => (recovered, none)
  | some selected =>
    let k : RowKey := { projectId := x.projectId, taskId := selected.taskId }
    if countWhere recovered.rows (claimable k) ≠ 1 then (s, none)
    else
      let after := recovered.update (claimable k) (x.takeLease timestamp now)
      (after, (after.get k).map (fun claimed => (claimed, selected.retryForced)))

/-- The condition every operation of a lease holder checks. -/
def leasedTo (owner : String) (row : IntegrationQueueItem) : Bool :=
  row.state = .integrating && row.leaseOwner = some owner

def recordCandidate (s : IntegrationQueueStore) (k : RowKey)
    (leaseOwner expectedHeadSha : String) (expectedCandidateHeadSha : Option String)
    (candidate base now : String) :
    IntegrationQueueStore × Option IntegrationQueueItem :=
  if candidate = "" ∨ base = "" then (s, none)
  else
    let condition := fun (row : IntegrationQueueItem) =>
      decide (row.key = k) && leasedTo leaseOwner row && decide (row.headSha = expectedHeadSha) &&
        decide (row.candidateHeadSha = expectedCandidateHeadSha)
    if countWhere s.rows condition ≠ 1 then (s, none)
    else
      let after :=
        s.update condition
          (fun row =>
            { row with
              candidateHeadSha := some candidate
              candidateBaseSha := some base
              updatedAt := now })
      (after, after.get k)

def checkpointLegacyIntegration (s : IntegrationQueueStore) (k : RowKey)
    (owner branch predecessor rebased landed : String) (baseSha : Option String)
    (now : String) : IntegrationQueueStore × Option IntegrationQueueItem :=
  if owner = "" ∨ branch = "" ∨ predecessor = "" ∨ rebased = "" ∨ landed = "" then
    (s, none)
  else
    s.casHistory k (fun item => leasedTo owner item && item.taskBranch = branch &&
        item.headSha = predecessor)
      (fun row => leasedTo owner row && row.taskBranch = branch && row.headSha = predecessor)
      (fun sequence item row =>
        { row with
          state := .integrated
          headSha := rebased
          baseSha := (textOrNone baseSha).or item.baseSha
          rebasedFromHeadSha :=
            if predecessor ≠ rebased then some predecessor
            else item.rebasedFromHeadSha
          integratedSha := some landed
          historySequence := sequence
          leaseOwner := none
          leaseExpiresAt := none
          updatedAt := now
          lastError := none
          retryForced := false
          nextRetryAt := none
          rebaseIntentPending := false
          rebasedPublicationPending := false })

/-- `_finish`: `state` is one of integrated, ready and blocked. -/
def finish (s : IntegrationQueueStore) (k : RowKey) (leaseOwner : String)
    (state : QueueState) (lastError : Option String) (nextRetryAt : Option Int)
    (now : String) : IntegrationQueueStore × Bool :=
  let set := fun (sequence : Nat) (_ row : IntegrationQueueItem) =>
    { row with
      state := state
      leaseOwner := none
      leaseExpiresAt := none
      updatedAt := now
      lastError := lastError
      nextRetryAt := nextRetryAt
      historySequence := sequence }
  let finished :=
    if state = .integrated then
      s.casHistory k (leasedTo leaseOwner) (leasedTo leaseOwner) set
    else s.casUpdate k (leasedTo leaseOwner) (leasedTo leaseOwner) (set 0)
  (finished.1, finished.2.isSome)

def complete (s : IntegrationQueueStore) (k : RowKey) (leaseOwner now : String) :
    IntegrationQueueStore × Bool :=
  s.finish k leaseOwner .integrated none none now

def fail (s : IntegrationQueueStore) (k : RowKey) (leaseOwner error : String)
    (retryable : Bool) (retryAt : Option Int) (now : String) :
    IntegrationQueueStore × Bool :=
  s.finish k leaseOwner (if retryable then .ready else .blocked) (some error)
    (if retryable then retryAt else none) now

/-!
# Operator transitions
-/

def blockPreflight (s : IntegrationQueueStore) (k : RowKey) (reason : String)
    (expectedHeadSha : Option String) (now : String) :
    IntegrationQueueStore × Bool :=
  let condition := fun (row : IntegrationQueueItem) =>
    decide (row.key = k) && (row.state = .ready || row.state = .blocked) &&
      expectedHeadSha.all (row.headSha = ·)
  (s.update condition
      (fun row =>
        { row with
          state := .blocked
          leaseOwner := none
          leaseExpiresAt := none
          updatedAt := now
          lastError := some reason
          nextRetryAt := none }),
    countWhere s.rows condition ≠ 0)

structure CancelRequest where
  reason : Option String := none
  expectedHeadSha : Option String := none
  expectedState : Option QueueState := none
  expectedEpicId : Option String := none
  expectedTaskBranch : Option String := none
  expectedBaseBranch : Option String := none
  deriving DecidableEq

def CancelRequest.selects (x : CancelRequest) (row : IntegrationQueueItem) : Bool :=
  (row.state = .ready || row.state = .integrating || row.state = .blocked) &&
    x.expectedHeadSha.all (row.headSha = ·) &&
    x.expectedState.all (row.state = ·) &&
    x.expectedEpicId.all (row.epicId = ·) &&
    x.expectedTaskBranch.all (row.taskBranch = ·) &&
    x.expectedBaseBranch.all (fun branch => row.baseBranch = some branch)

def cancel (s : IntegrationQueueStore) (k : RowKey) (x : CancelRequest)
    (now : String) : IntegrationQueueStore × Bool :=
  let condition := fun (row : IntegrationQueueItem) =>
    decide (row.key = k) && x.selects row
  (s.update condition
      (fun row =>
        { row with
          state := .cancelled
          leaseOwner := none
          leaseExpiresAt := none
          updatedAt := now
          lastError := textOrNone x.reason
          nextRetryAt := none }),
    countWhere s.rows condition ≠ 0)

structure RestoreRequest where
  expectedHeadSha : String
  expectedTaskBranch : String
  expectedEpicId : Option String := none
  restoredBaseBranch : Option String := none
  restoredBaseSha : Option String := none
  expectedGeneration : Option String := none
  deriving DecidableEq

def restoreCancelled (s : IntegrationQueueStore) (k : RowKey) (x : RestoreRequest)
    (now : String) : IntegrationQueueStore × Bool :=
  let restored :=
    s.casUpdate k (fun item => item.state = .cancelled && item.taskBranch = x.expectedTaskBranch &&
        item.headSha = x.expectedHeadSha &&
        x.expectedEpicId.all (item.epicId = ·) &&
        x.expectedGeneration.all (rt.authority item = ·))
      (fun row => row.state = .cancelled &&
        row.taskBranch = x.expectedTaskBranch && row.headSha = x.expectedHeadSha)
      (fun _ row =>
        { row with
          state := .ready
          leaseOwner := none
          leaseExpiresAt := none
          updatedAt := now
          lastError := none
          retryForced := false
          nextRetryAt := none
          baseBranch := (textOrNone x.restoredBaseBranch).or row.baseBranch
          baseSha := (textOrNone x.restoredBaseSha).or row.baseSha
          candidateBaseSha :=
            if row.candidateHeadSha.isNone then none
            else (textOrNone x.restoredBaseSha).or row.candidateBaseSha })
  (restored.1, restored.2.isSome)

/-- The row keeps the history sequence of the landing that is taken back. -/
def retryIntegratedAfterTrackerFailure (s : IntegrationQueueStore) (k : RowKey)
    (expectedHeadSha : String) (expectedCandidateHeadSha : Option String)
    (error now : String) : IntegrationQueueStore × Bool :=
  let condition := fun (row : IntegrationQueueItem) =>
    decide (row.key = k) && decide (row.state = .integrated) &&
      decide (row.headSha = expectedHeadSha) &&
      decide (row.candidateHeadSha = expectedCandidateHeadSha)
  (s.update condition
      (fun row =>
        { row with
          state := .ready
          leaseOwner := none
          leaseExpiresAt := none
          updatedAt := now
          lastError := some error
          nextRetryAt := none
          attempts := max (row.attempts - 1) 0 }),
    countWhere s.rows condition ≠ 0)

/-!
# Reading rows

A cursor is the JSON text of a history sequence.  Text that is no such number
is read as no cursor.
-/

def cursorFor (item : IntegrationQueueItem) : String :=
  item.historySequence.repr

def jsonSpace (c : Char) : Bool :=
  c = ' ' || c = '\t' || c = '\n' || c = '\r'

def jsonTrim (text : List Char) : List Char :=
  ((text.dropWhile jsonSpace).reverse.dropWhile jsonSpace).reverse

def decodeCursor (cursor : String) : Option Nat :=
  let text := jsonTrim cursor.toList
  if text = ['-', '0'] then some 0
  else
    let value := Nat.ofDigitChars 10 text 0
    if Nat.toDigits 10 value = text then some value else none

structure ItemsRequest where
  projectId : Option String := none
  epicId : Option String := none
  states : Option (List String) := none
  limit : Option Int := none
  after : Option String := none
  deriving DecidableEq

namespace ItemsRequest

/-- Only ASCII texts lower to `integrated`, so lowering their ASCII letters decides it. -/
def historyOrder (x : ItemsRequest) : Bool :=
  x.after.isSome ||
    x.states.any (fun values => values.all (fun value => (strip value).toLower = "integrated"))

def cursor (x : ItemsRequest) : Option Nat :=
  x.after.bind decodeCursor

def selects (x : ItemsRequest) (row : IntegrationQueueItem) : Bool :=
  x.projectId.all (row.projectId = ·) && x.epicId.all (row.epicId = ·) &&
    x.states.all (fun values => row.state.value ∈ values) &&
    x.cursor.all (· < row.historySequence)

/-- `ORDER BY history_sequence, project_id, task_id`. -/
def historyBefore (a b : IntegrationQueueItem) : Bool :=
  a.historySequence < b.historySequence || a.historySequence = b.historySequence &&
      (a.projectId < b.projectId || a.projectId = b.projectId && a.taskId ≤ b.taskId)

/-- `ORDER BY project_id, epic_id, priority, submitted_at, task_id`. -/
def submissionBefore (a b : IntegrationQueueItem) : Bool :=
  a.projectId < b.projectId || a.projectId = b.projectId &&
      (a.epicId < b.epicId || a.epicId = b.epicId && ClaimRequest.before a b)

end ItemsRequest

def items (s : IntegrationQueueStore) (x : ItemsRequest) : List IntegrationQueueItem :=
  if x.states = some [] then []
  else
    let rows := s.rows.filter x.selects
    let ordered :=
      if x.historyOrder then
        rows.insertionSort (fun a b => ItemsRequest.historyBefore a b = true)
      else rows.insertionSort (fun a b => ItemsRequest.submissionBefore a b = true)
    match x.limit with
    | none => ordered
    | some limit => ordered.take limit.toNat

/-!
# Opening the store

Integrated rows without a history sequence get one, in key order, and the
counter is set past every sequence in use.
-/

def keyBefore (a b : IntegrationQueueItem) : Bool :=
  a.projectId < b.projectId || a.projectId = b.projectId && a.taskId ≤ b.taskId

def legacyRows (s : IntegrationQueueStore) : List IntegrationQueueItem :=
  (s.rows.filter (fun row => row.state = .integrated && row.historySequence = 0)).insertionSort
    (fun a b => keyBefore a b = true)

def assignSequence (s : IntegrationQueueStore) (legacy : IntegrationQueueItem) :
    IntegrationQueueStore :=
  { rows :=
      updateWhere s.rows (fun row => row.key = legacy.key)
        (fun row => { row with historySequence := s.history + 1 })
    history := s.history + 1 }

def openStore (s : IntegrationQueueStore) : IntegrationQueueStore :=
  let counted :=
    { s with
      history :=
        s.rows.foldl (fun value row => max value row.historySequence) s.history }
  s.legacyRows.foldl assignSequence counted

end IntegrationQueueStore
end Integration
end Oompah
