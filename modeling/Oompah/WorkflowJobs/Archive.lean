import Oompah.WorkflowJobs.Snapshot

/-!
# Event archival

The maintenance paths that relocate events between the hot ledger and cold
storage, and the pruning of cold storage.
-/

namespace Oompah
namespace WorkflowJobs

open Foundation

namespace EventLedger

/-- `INSERT OR IGNORE` into the archive, keyed by the original sequence. -/
def archiveEvent (now : Int) (ledger : EventLedger) (event : WorkflowJobEvent) :
    EventLedger :=
  if ledger.cold.any (fun known => known.1.sequence = event.sequence) then
    ledger
  else
    { ledger with cold := ledger.cold ++ [(event, now)] }

def inSequenceRange (events : List WorkflowJobEvent) (sequence : Nat) : Bool :=
  events.any (fun event => event.sequence ≤ sequence) &&
    events.any (fun event => sequence ≤ event.sequence)

/-- Relocate the selected events, deleting by sequence range. -/
def relocate (ledger : EventLedger) (selected : List WorkflowJobEvent)
    (eligible : WorkflowJobEvent -> Bool) (now : Int) : EventLedger :=
  let archived := selected.foldl (archiveEvent now) ledger
  { archived with
    hot := archived.hot.filter (fun event =>
      !(eligible event && inSequenceRange selected event.sequence)) }

end EventLedger

namespace Store

def isTaskEvent (projectId taskId : String) (event : WorkflowJobEvent) : Bool :=
  event.projectId = projectId ∧ event.taskId = taskId

/-- Tasks with any staged or published `lifecycle-final:Archived` retirement. -/
def archivalCandidates (s : Store) (maxTasks : Nat) : List (String × String) :=
  (((s.retirements.filter (fun retirement =>
    retirement.authorityKind = .lifecycleFinal ∧
      retirement.decisionRevision = lifecycleFinalArchived)).map
    (fun retirement => (retirement.projectId, retirement.taskId))).dedup
    |>.insertionSort identityOrder).take (max 1 maxTasks)

def archiveTask (budget : Nat) (now : Int) (acc : Store × Nat × Nat)
    (candidate : String × String) : Store × Nat × Nat :=
  if budget ≤ acc.2.2 then
    acc
  else
    let eligible := isTaskEvent candidate.1 candidate.2
    let selected :=
      (acc.1.ledger.hot.filter eligible).take (budget - acc.2.2)
    if selected.isEmpty then
      acc
    else
      ({ acc.1 with ledger := acc.1.ledger.relocate selected eligible now },
        acc.2.1 + 1, acc.2.2 + selected.length)

/-- Returns the archived task and event counts. -/
def archiveLifecycleFinalEvents (s : Store) (maxTasks maxEvents : Nat)
    (now : Int) : Store × Nat × Nat :=
  (s.archivalCandidates maxTasks).foldl (archiveTask (max 1 maxEvents) now) (s, 0, 0)

def isRollbackEvent (event : WorkflowJobEvent) : Bool :=
  event.eventType = "publication_rollback"

/-- Rollback events older than the newest `keepRecent` ones. -/
def archivableRollbackEvents (s : Store) (maxEvents keepRecent : Nat) :
    List WorkflowJobEvent :=
  let events := s.ledger.hot.filter isRollbackEvent
  let retained := events.drop (events.length - keepRecent)
  (match retained.head? with
    | some cutoff => events.filter (fun event : WorkflowJobEvent =>
      event.sequence < cutoff.sequence)
    | none => if keepRecent = 0 then events else []).take (max 1 maxEvents)

def archiveRollbackEvents (s : Store) (maxEvents keepRecent : Nat) (now : Int) : Store × Nat :=
  let selected := s.archivableRollbackEvents maxEvents keepRecent
  if selected.isEmpty then
    (s, 0)
  else
    ({ s with ledger := s.ledger.relocate selected isRollbackEvent now }, selected.length)

def pruneArchivedEvents (s : Store) (olderThan : Int) (maxEvents : Nat) : Store × Nat :=
  let expired := ((s.ledger.cold.filter (fun entry =>
    entry.2 < olderThan)).insertionSort (fun a b =>
      a.1.sequence ≤ b.1.sequence)).take (max 1 maxEvents)
  let drop := fun entry : WorkflowJobEvent × Int =>
    entry.2 < olderThan && EventLedger.inSequenceRange (expired.map Prod.fst) entry.1.sequence
  ({ s with
      ledger :=
        { s.ledger with cold := s.ledger.cold.filter (fun entry => !drop entry) } },
    (s.ledger.cold.filter drop).length)

end Store
end WorkflowJobs
end Oompah
