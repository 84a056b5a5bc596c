import Mathlib.Data.List.Nodup
import Oompah.Foundation.Checked
import Oompah.WorkflowJobs.RowAction

/-!
# The workflow job store

The tables of one SQLite database and the primitive writes every operation is
made of.  The job table has no `DELETE`: its rows stay in enqueue order, and
`enqueue_sequence` is the position at insertion.
-/

namespace Oompah
namespace WorkflowJobs

open Foundation

inductive StoreError where
  | valueError (message : String)
  | keyError (key : String)
  | jobStoreError (message : String)
  | idempotencyConflict (message : String)
  | leaseLost (message : String)
  | corruption (message : String)
  | integrityError (message : String)
  | publisherRaised
  deriving DecidableEq

/-!
# The job table
-/

structure JobTable where
  rows : List WorkflowJob
  uniqueIds : (rows.map WorkflowJob.jobId).Nodup

namespace JobTable

def empty : JobTable := ⟨[], by simp⟩

def find? (table : JobTable) (jobId : String) : Option WorkflowJob :=
  table.rows.find? (fun row => row.jobId = jobId)

def update (jobId : String) (action : RowAction) (row : WorkflowJob) :
    WorkflowJob :=
  if row.jobId = jobId then action.apply row else row

theorem update_jobId (jobId : String) (action : RowAction) (row : WorkflowJob) :
    (update jobId action row).jobId = row.jobId := by
  unfold update
  split
  · exact RowAction.apply_jobId row action
  · rfl

def modify (table : JobTable) (jobId : String) (action : RowAction) : JobTable where
  rows := table.rows.map (update jobId action)
  uniqueIds := by
    have hids : WorkflowJob.jobId ∘ update jobId action = WorkflowJob.jobId := by
      funext row
      exact update_jobId jobId action row
    rw [List.map_map, hids]
    exact table.uniqueIds

def insert (table : JobTable) (row : WorkflowJob)
    (h : row.jobId ∉ table.rows.map WorkflowJob.jobId) : JobTable where
  rows := table.rows ++ [row]
  uniqueIds := by
    simp only [List.map_append, List.map_cons, List.map_nil]
    rw [List.nodup_append]
    refine ⟨table.uniqueIds, by simp, ?_⟩
    intro a ha b hb hab
    simp only [List.mem_singleton] at hb
    exact h (hb ▸ hab ▸ ha)

variable {table : JobTable} {jobId : String} {row : WorkflowJob}

theorem mem_of_find? (h : table.find? jobId = some row) : row ∈ table.rows ∧ row.jobId = jobId := by
  constructor
  · exact List.mem_of_find?_eq_some h
  · simpa using List.find?_some h

theorem eq_of_jobId_eq {first second : WorkflowJob}
    (hfirst : first ∈ table.rows) (hsecond : second ∈ table.rows) (h : first.jobId = second.jobId) :
    first = second :=
  List.inj_on_of_nodup_map table.uniqueIds hfirst hsecond h

theorem find?_of_mem (h : row ∈ table.rows) : table.find? row.jobId = some row := by
  cases hfind : table.find? row.jobId with
  | none =>
    have hnone := List.find?_eq_none.mp hfind row h
    simp at hnone
  | some found =>
    have hfound := mem_of_find? hfind
    rw [eq_of_jobId_eq hfound.left h hfound.right]

theorem find?_eq_some : table.find? jobId = some row <-> row ∈ table.rows ∧ row.jobId = jobId := by
  constructor
  · exact mem_of_find?
  · intro h
    rw [← h.right]
    exact find?_of_mem h.left

variable {action : RowAction}

theorem mem_modify : row ∈ (table.modify jobId action).rows <->
      exists old, old ∈ table.rows ∧ update jobId action old = row := by
  simp [modify]

theorem find?_modify_self (h : table.find? jobId = some row) :
    (table.modify jobId action).find? jobId = some (action.apply row) := by
  have hrow := mem_of_find? h
  rw [find?_eq_some]
  constructor
  · exact mem_modify.mpr ⟨row, hrow.left, by simp [update, hrow.right]⟩
  · simp [hrow.right]

theorem find?_modify_ne {jobId other : String} (h : other ≠ jobId) :
    (table.modify jobId action).find? other = table.find? other := by
  apply Option.ext
  intro row
  rw [find?_eq_some, find?_eq_some, mem_modify]
  constructor
  · intro hrow
    rcases hrow with ⟨⟨old, hold, hupdate⟩, hid⟩
    have hne : old.jobId ≠ jobId := by
      rw [← update_jobId jobId action old, hupdate, hid]
      exact h
    simp only [update, hne, if_false] at hupdate
    exact ⟨hupdate ▸ hold, hid⟩
  · intro hrow
    refine ⟨⟨row, hrow.left, ?_⟩, hrow.right⟩
    simp [update, hrow.right, h]

theorem find?_insert_of_ne {h : row.jobId ∉ table.rows.map WorkflowJob.jobId}
    (hne : jobId ≠ row.jobId) :
    (table.insert row h).find? jobId = table.find? jobId := by
  apply Option.ext
  intro found
  rw [find?_eq_some, find?_eq_some]
  simp only [insert, List.mem_append, List.mem_singleton]
  constructor
  · intro hfound
    rcases hfound with ⟨hmem | heq, hid⟩
    · exact ⟨hmem, hid⟩
    · exact absurd (heq ▸ hid).symm hne
  · intro hfound
    exact ⟨Or.inl hfound.left, hfound.right⟩

end JobTable

/-!
# The event ledger

`hot` is `workflow_job_events` in sequence order, `cold` is
`workflow_job_events_archive` with its archival times.
-/

/-- A value of an event payload; `none` is the JSON null. -/
inductive PayloadValue where
  | text (value : Option String)
  | texts (values : List String)
  | number (value : Option Int)
  | flag (value : Bool)
  | object (value : JsonObject)
  deriving DecidableEq

/-- What a statement logs about the row it wrote; an empty payload is stored as `NULL`. -/
structure LoggedEvent where
  eventType : String
  payload : List (String × PayloadValue)

structure WorkflowJobEvent where
  sequence : Nat
  jobId : String
  projectId : String
  taskId : String
  eventType : String
  state : WorkflowJobState
  phase : String
  leaseOwner : Option String
  payload : List (String × PayloadValue)
  createdAt : Int
  deriving DecidableEq

structure EventLedger where
  hot : List WorkflowJobEvent := []
  cold : List (WorkflowJobEvent × Int) := []
  autoincrement : Nat := 0
  highwater : Nat := 0
  deriving DecidableEq

namespace EventLedger

def append (ledger : EventLedger) (event : WorkflowJobEvent) : EventLedger :=
  { ledger with
    hot := ledger.hot ++ [{ event with sequence := ledger.autoincrement + 1 }]
    autoincrement := ledger.autoincrement + 1
    highwater := max ledger.highwater (ledger.autoincrement + 1) }

/-- The persisted mark keeps the maximum monotone after archival. -/
def sequenceMaximum (ledger : EventLedger) : Nat :=
  max ((ledger.hot.map WorkflowJobEvent.sequence).foldl max 0) ledger.highwater

end EventLedger

/-!
# Authority tables
-/

structure SnapshotCounters where
  allocated : Option Nat := none
  accepted : Option Nat := none
  published : Option Nat := none
  deriving DecidableEq

structure WorkflowScheduleCursor where
  projectId : String
  taskId : String
  snapshotGeneration : Nat
  decisionRevision : String
  jobGeneration : String
  materializedJobGeneration : Option String
  updatedAt : Int
  deriving DecidableEq

structure SnapshotMember where
  projectId : String
  taskId : String
  snapshotGeneration : Nat
  updatedAt : Int
  deriving DecidableEq

inductive AuthorityKind where
  | eventHandoff
  | managedDecision
  | managedZeroJob
  | terminalAuditHandoff
  | lifecycleFinal
  deriving DecidableEq

structure RetirementAuthorityCut where
  snapshotGeneration : Nat
  projectId : String
  taskId : String
  authorityKind : AuthorityKind
  decisionRevision : String
  jobGeneration : Option String
  recordedAt : Int
  deriving DecidableEq

structure JobRetirement where
  jobId : String
  projectId : String
  taskId : String
  authorityKind : AuthorityKind
  decisionRevision : String
  snapshotGeneration : Option Nat
  retiredAt : Int
  deriving DecidableEq

structure WorkflowEventCursor where
  projectId : String
  taskId : String
  eventNamespace : String
  eventRevision : String
  eventGeneration : String
  eventSequence : Nat
  updatedAt : Int
  deriving DecidableEq

structure EventOrdering where
  projectId : String
  taskId : String
  orderingNamespace : String
  sourceGeneration : Nat
  decisionRevision : String
  updatedAt : Int
  deriving DecidableEq

structure ProjectFairness where
  projectId : String
  claimSequence : Nat
  updatedAt : Int
  deriving DecidableEq

structure LandingFact where
  projectId : String
  taskId : String
  source : String
  target : String
  evidenceRevision : String
  content : String
  durable : Bool
  deriving DecidableEq

/-- Scheduling tables and counters that carry no claim or publication fence. -/
structure ScheduleTables where
  cursors : List WorkflowScheduleCursor := []
  members : List SnapshotMember := []
  cuts : List RetirementAuthorityCut := []
  eventCursors : List WorkflowEventCursor := []
  eventOrdering : List EventOrdering := []
  fairness : List ProjectFairness := []
  landingFacts : List LandingFact := []
  eventGeneration : Nat := 0
  eventSequence : Nat := 0
  fairClaimSequence : Nat := 0
  decisionWindows : List (String × Nat) := []
  deriving DecidableEq

structure Store where
  jobs : JobTable := JobTable.empty
  ledger : EventLedger := {}
  counters : SnapshotCounters := {}
  publications : List (Nat × Int) := []
  retirements : List JobRetirement := []
  tables : ScheduleTables := {}

namespace Store

/-!
# Primitive writes
-/

def act (s : Store) (jobId : String) (action : RowAction) : Store :=
  { s with jobs := s.jobs.modify jobId action }

def appendEvent (s : Store) (row : WorkflowJob) (event : LoggedEvent) (now : Int) : Store :=
  { s with
    ledger := s.ledger.append
      { sequence := 0
        jobId := row.jobId
        projectId := row.spec.projectId
        taskId := row.spec.taskId
        eventType := event.eventType
        state := row.state
        phase := row.phase
        leaseOwner := row.leaseOwner
        payload := event.payload
        createdAt := now } }

/-- Run one row action and append its event, reading the updated row. -/
def actLogged (s : Store) (row : WorkflowJob) (action : RowAction)
    (event : LoggedEvent) (now : Int) : Store :=
  (s.act row.jobId action).appendEvent (action.apply row) event now

def withTables (s : Store) (f : ScheduleTables -> ScheduleTables) : Store :=
  { s with tables := f s.tables }

/-- `INSERT ... ON CONFLICT(job_id) DO UPDATE` on the retirement table. -/
def retire (s : Store) (retirement : JobRetirement) : Store :=
  { s with
    retirements :=
      s.retirements.filter (fun r => r.jobId ≠ retirement.jobId) ++ [retirement] }

def dropRetirements (s : Store) (drop : JobRetirement -> Bool) : Store :=
  { s with retirements := s.retirements.filter (fun r => !drop r) }

/-!
# Lookups
-/

def rowLocked (s : Store) (jobId : String) : Except StoreError WorkflowJob :=
  match s.jobs.find? jobId with
  | some row => .ok row
  | none => .error (.keyError jobId)

theorem rowLocked_eq_ok {s : Store} {jobId : String} {row : WorkflowJob} :
    s.rowLocked jobId = .ok row <-> s.jobs.find? jobId = some row := by
  unfold rowLocked
  cases s.jobs.find? jobId with
  | none => simp
  | some found => simp

def findIdempotent (s : Store) (projectId idempotencyKey : String) :
    Option WorkflowJob :=
  s.jobs.rows.find? (fun row =>
    row.spec.projectId = projectId ∧ row.spec.idempotencyKey = idempotencyKey)

def taskRows (s : Store) (projectId taskId : String) : List WorkflowJob :=
  s.jobs.rows.filter (fun row =>
    row.spec.projectId = projectId ∧ row.spec.taskId = taskId)

theorem mem_taskRows {s : Store} {projectId taskId : String} {row : WorkflowJob} :
    row ∈ s.taskRows projectId taskId <-> row ∈ s.jobs.rows ∧ row.spec.projectId = projectId ∧
        row.spec.taskId = taskId := by
  simp [taskRows]

def publishedGeneration (s : Store) : Nat := s.counters.published.getD 0

def isPublished (s : Store) (generation : Nat) : Bool :=
  s.publications.any (fun publication => publication.1 = generation)

/-- `_snapshot_generation_is_current_locked`. -/
def snapshotGenerationIsCurrent (s : Store) (generation : Nat) : Bool :=
  s.counters.allocated = some generation ∧ s.counters.accepted = some generation

end Store

/-- Texts are stripped before they reach the store, and a blank optional one is `none`. -/
def requiredText (value name : String) : Except StoreError Unit :=
  require (value ≠ "") (.valueError (name ++ " is required"))

def maxScanLimit : Nat := 1000

def boundedLimit (limit : Nat) : Except StoreError Unit :=
  require (1 ≤ limit ∧ limit ≤ maxScanLimit) (.valueError "limit must be between 1 and 1000")

def positiveGeneration (generation : Nat) (name : String) :
    Except StoreError Unit :=
  require (1 ≤ generation) (.valueError (name ++ " must be a positive integer"))

end WorkflowJobs
end Oompah
