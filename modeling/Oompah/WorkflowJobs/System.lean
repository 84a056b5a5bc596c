import Oompah.Foundation.TransitionSystem
import Oompah.WorkflowJobs.Archive

/-!
# Runs of the store

One action per public operation that writes.  An operation that raises rolls
its transaction back and leaves the store as it was.  Captured checkpoints live
in the memory of the process that captured them and are named by their index.
-/

namespace Oompah
namespace WorkflowJobs

open Foundation

/-- The operations that join an open scheduling transaction. -/
inductive ScheduleOp where
  | activateSchedule (projectId taskId revision : String) (snapshot : Nat)
      (nextReassessmentAt : Option Int) (protectedAction : Option String)
      (protectedLanes : List String) (now : Int)
  | reconcileSchedule (projectId taskId : String) (snapshot : Nat)
      (generation : String) (specs : List (WorkflowJobSpec × String))
      (recordAuthorityCut : Bool) (authorityKind : Option AuthorityKind)
      (reason : String) (now : Int)
  | recordLifecycleFinalAuthority (projectId taskId status : String) (snapshot : Nat) (now : Int)
  deriving DecidableEq

inductive Op where
  | enqueue (spec : WorkflowJobSpec) (newJobId : String) (now : Int)
  | enqueueReplacingLane (spec : WorkflowJobSpec) (newJobId : String) (sourceGeneration : Nat)
      (requireSourceAdvance retireManagedExhaustion : Bool)
      (bindingUpgradeFrom : Option String) (reason : String) (now : Int)
  | rearmExhaustedJob (jobId generation phase reason : String) (now : Int)
  | materializeEvent (request : Store.EventRequest) (newJobId : String) (now : Int)
  | retireEventLane (projectId taskId schedulingLane orderingNamespace : String)
      (sourceGeneration : Nat) (decisionRevision reason : String) (now : Int)
  | activateEventOrder (projectId taskId orderingNamespace : String)
      (sourceGeneration : Nat) (decisionRevision : String) (now : Int)
  | reconcileEventHandoffRetirements (projectId taskId : String)
      (authorityLanes retiredLanes actions : List String) (now : Int)
  | schedule (op : ScheduleOp)
  | schedulingBatch (ops : List ScheduleOp)
  | reconcileSnapshotMembership (snapshot : Nat) (authoritativeProjectIds : List String)
      (expectedIdentities : List (String × String))
      (evaluatedIdentities : Option (List (String × String))) (now : Int)
  | allocateDecisionWindow (total limit : Nat) (snapshot : Option Nat) (scope : Option String)
  | claimNext (leaseOwner : String) (leaseToken : LeaseToken)
      (leaseSeconds : Int) (filter : Store.ClaimFilter) (fairAcrossProjects : Bool)
      (recoveryLimit : Nat) (now : Int)
  | renew (jobId leaseToken : String) (leaseSeconds now : Int)
  | checkpoint (jobId leaseToken phase : String) (saved : JsonObject) (now : Int)
  | complete (jobId leaseToken : String) (resultTransition : Option JsonObject)
      (landingFacts : List LandingFact) (now : Int)
  | fail (jobId leaseToken : String) (category : WorkflowFailureCategory)
      (error : String) (retryable : Bool) (retryDelaySeconds : Int)
      (phase : Option String) (now : Int)
  | requeueOwnedWithoutAttempt (jobId leaseToken expectedPhase phase reason : String) (now : Int)
  | deferOwnedWithoutAttempt (jobId leaseToken reason : String) (retryDelaySeconds now : Int)
  | deferOwnedUntil (jobId leaseToken reason : String) (retryAt now : Int)
  | cancelOwned (jobId leaseToken reason : String) (now : Int)
  | quarantineOwned (jobId leaseToken : String)
      (category : WorkflowFailureCategory) (error : String) (now : Int)
  | settleQuarantinedCall (jobId leaseToken operation : String)
      (effectReceipt : Option (List (String × String)))
      (failureCategory : WorkflowFailureCategory) (error : Option String)
      (retryable : Bool) (retryDelaySeconds now : Int)
  | markQuarantineRecycleRequested (jobId leaseToken : String) (now : Int)
  | reclaimAbandoned (jobId leaseToken leaseOwner : String)
      (replacementToken : LeaseToken) (leaseSeconds : Int)
      (expectedPhase : Option String) (now : Int)
  | recoverExpired (filter : Store.RecoveryFilter) (limit : Nat) (now : Int)
  | recoverAbandoned (leaseOwner phase : Option String)
      (filter : Store.RecoveryFilter) (limit : Nat) (now : Int)
  | supersede (jobId generation replacementGeneration reason : String) (now : Int)
  | supersedeTaskGeneration (projectId taskId keepGeneration reason : String)
      (limit : Nat) (now : Int)
  | cancel (jobId generation reason : String) (now : Int)
  | recordLandingFacts (projectId taskId : String) (facts : List LandingFact)
  | allocateSnapshotGeneration
  | allocateEventGeneration
  | acceptSnapshotGeneration (generation : Nat)
  | restoreSnapshotAuthority (index : Nat) (snapshot : Nat) (now : Int)
  | rollbackSnapshotAuthority (snapshot : Nat) (authoritativeProjectIds : List String)
      (evaluatedIdentities : List (String × String)) (now : Int)
  | archiveLifecycleFinalEvents (maxTasks maxEvents : Nat) (now : Int)
  | archiveRollbackEvents (maxEvents keepRecent : Nat) (now : Int)
  | pruneArchivedEvents (olderThan : Int) (maxEvents : Nat)
  deriving DecidableEq

inductive OpResult where
  | done
  | job (row : WorkflowJob)
  | claim (row : Option WorkflowJob)
  | eventWrite (write : Store.EventWrite)
  | activation (activation : Store.ScheduleActivation)
  | scheduleWrite (write : Store.ScheduleWrite)
  | membership (write : Store.MembershipWrite)
  | flag (value : Bool)
  | count (value : Nat)
  | counts (tasks events : Nat)
  | window (offset : Option Nat)
  | checkpoint (index : Nat)
  | publication (result : Store.PublishResult)
  deriving DecidableEq

namespace ScheduleOp

def apply (s : Store) : ScheduleOp -> Except StoreError (Store × OpResult)
  | activateSchedule projectId taskId revision snapshot nextReassessmentAt
      protectedAction protectedLanes now =>
      (s.activateSchedule projectId taskId revision snapshot nextReassessmentAt
        protectedAction protectedLanes now).map (Prod.map id .activation)
  | reconcileSchedule projectId taskId snapshot generation specs
      recordAuthorityCut authorityKind reason now =>
      (s.reconcileSchedule projectId taskId snapshot generation specs
        recordAuthorityCut authorityKind reason now).map
        (Prod.map id .scheduleWrite)
  | recordLifecycleFinalAuthority projectId taskId status snapshot now =>
    (s.recordLifecycleFinalAuthority projectId taskId status snapshot now).map (Prod.map id .count)

/-- One `scheduling_batch`: the first error rolls every write back. -/
def applyBatch (s : Store) (ops : List ScheduleOp) : Except StoreError Store :=
  ops.foldlM (fun s op => (apply s op).map Prod.fst) s

end ScheduleOp

namespace Op

def apply (checkpoints : List WorkflowSnapshotAuthority) (s : Store) :
    Op -> Except StoreError (Store × OpResult)
  | enqueue spec newJobId now =>
    (s.enqueue spec newJobId now).map (Prod.map id .job)
  | enqueueReplacingLane spec newJobId sourceGeneration requireSourceAdvance
      retireManagedExhaustion bindingUpgradeFrom reason now =>
      (s.enqueueReplacingLane spec newJobId sourceGeneration
        requireSourceAdvance retireManagedExhaustion bindingUpgradeFrom reason
        now).map (Prod.map id .eventWrite)
  | rearmExhaustedJob jobId generation phase reason now =>
    (s.rearmExhaustedJob jobId generation phase reason now).map (Prod.map id .job)
  | materializeEvent request newJobId now =>
    (s.materializeEvent request newJobId now).map (Prod.map id .eventWrite)
  | retireEventLane projectId taskId schedulingLane orderingNamespace
      sourceGeneration decisionRevision reason now =>
      (s.retireEventLane projectId taskId schedulingLane orderingNamespace
        sourceGeneration decisionRevision reason now).map
        (Prod.map id .eventWrite)
  | activateEventOrder projectId taskId orderingNamespace sourceGeneration
      decisionRevision now =>
      (s.activateEventOrder projectId taskId orderingNamespace sourceGeneration
        decisionRevision now).map (Prod.map id .flag)
  | reconcileEventHandoffRetirements projectId taskId authorityLanes
      retiredLanes actions now =>
      (s.reconcileEventHandoffRetirements projectId taskId authorityLanes
        retiredLanes actions now).map (Prod.map id .count)
  | schedule op => op.apply s
  | schedulingBatch ops =>
    (ScheduleOp.applyBatch s ops).map (fun s => (s, .done))
  | reconcileSnapshotMembership snapshot authoritativeProjectIds
      expectedIdentities evaluatedIdentities now =>
      (s.reconcileSnapshotMembership snapshot authoritativeProjectIds
        expectedIdentities evaluatedIdentities now).map
        (Prod.map id .membership)
  | allocateDecisionWindow total limit snapshot scope =>
    (s.allocateDecisionWindow total limit snapshot scope).map (Prod.map id .window)
  | claimNext leaseOwner leaseToken leaseSeconds filter fairAcrossProjects
      recoveryLimit now =>
      (s.claimNext leaseOwner leaseToken leaseSeconds filter
        fairAcrossProjects recoveryLimit now).map (Prod.map id .claim)
  | renew jobId leaseToken leaseSeconds now =>
    (s.renew jobId leaseToken leaseSeconds now).map (Prod.map id .job)
  | checkpoint jobId leaseToken phase saved now =>
    (s.checkpoint jobId leaseToken phase saved now).map (Prod.map id .job)
  | complete jobId leaseToken resultTransition landingFacts now =>
    (s.complete jobId leaseToken resultTransition landingFacts now).map (Prod.map id .job)
  | fail jobId leaseToken category error retryable retryDelaySeconds phase
      now =>
      (s.fail jobId leaseToken category error retryable retryDelaySeconds phase
        now).map (Prod.map id .job)
  | requeueOwnedWithoutAttempt jobId leaseToken expectedPhase phase reason
      now =>
      (s.requeueOwnedWithoutAttempt jobId leaseToken expectedPhase phase reason
        now).map (Prod.map id .job)
  | deferOwnedWithoutAttempt jobId leaseToken reason retryDelaySeconds now =>
    (s.deferOwnedWithoutAttempt jobId leaseToken reason retryDelaySeconds
      now).map (Prod.map id .job)
  | deferOwnedUntil jobId leaseToken reason retryAt now =>
    (s.deferOwnedUntil jobId leaseToken reason retryAt now).map (Prod.map id .job)
  | cancelOwned jobId leaseToken reason now =>
    (s.cancelOwned jobId leaseToken reason now).map (Prod.map id .job)
  | quarantineOwned jobId leaseToken category error now =>
    (s.quarantineOwned jobId leaseToken category error now).map (Prod.map id .job)
  | settleQuarantinedCall jobId leaseToken operation effectReceipt
      failureCategory error retryable retryDelaySeconds now =>
      (s.settleQuarantinedCall jobId leaseToken operation effectReceipt
        failureCategory error retryable retryDelaySeconds now).map
        (Prod.map id .job)
  | markQuarantineRecycleRequested jobId leaseToken now =>
    (s.markQuarantineRecycleRequested jobId leaseToken now).map (Prod.map id .job)
  | reclaimAbandoned jobId leaseToken leaseOwner replacementToken leaseSeconds
      expectedPhase now =>
      (s.reclaimAbandoned jobId leaseToken leaseOwner replacementToken
        leaseSeconds expectedPhase now).map (Prod.map id .job)
  | recoverExpired filter limit now =>
    (s.recoverExpired filter limit now).map (Prod.map id .count)
  | recoverAbandoned leaseOwner phase filter limit now =>
    (s.recoverAbandoned leaseOwner phase filter limit now).map (Prod.map id .count)
  | supersede jobId generation replacementGeneration reason now =>
    (s.supersede jobId generation replacementGeneration reason now).map (Prod.map id .job)
  | supersedeTaskGeneration projectId taskId keepGeneration reason limit now =>
    (s.supersedeTaskGeneration projectId taskId keepGeneration reason limit
      now).map (Prod.map id .count)
  | cancel jobId generation reason now =>
    (s.cancel jobId generation reason now).map (Prod.map id .job)
  | recordLandingFacts projectId taskId facts =>
    (s.recordLandingFacts projectId taskId facts).map (fun s => (s, .done))
  | allocateSnapshotGeneration =>
    .ok (Prod.map id .count s.allocateSnapshotGeneration)
  | allocateEventGeneration =>
    .ok (Prod.map id .count s.allocateEventGeneration)
  | acceptSnapshotGeneration generation =>
    (s.acceptSnapshotGeneration generation).map (Prod.map id .flag)
  | restoreSnapshotAuthority index snapshot now =>
    match checkpoints[index]? with
    | some authority =>
      (s.restoreSnapshotAuthority authority snapshot now).map (Prod.map id .flag)
    | none =>
      .error (.valueError "authority must be a WorkflowSnapshotAuthority")
  | rollbackSnapshotAuthority snapshot authoritativeProjectIds
      evaluatedIdentities now =>
      (s.rollbackSnapshotAuthority snapshot authoritativeProjectIds
        evaluatedIdentities now).map (Prod.map id .flag)
  | archiveLifecycleFinalEvents maxTasks maxEvents now =>
    let archived := s.archiveLifecycleFinalEvents maxTasks maxEvents now
    .ok (archived.1, .counts archived.2.1 archived.2.2)
  | archiveRollbackEvents maxEvents keepRecent now =>
    .ok (Prod.map id .count (s.archiveRollbackEvents maxEvents keepRecent now))
  | pruneArchivedEvents olderThan maxEvents =>
    .ok (Prod.map id .count (s.pruneArchivedEvents olderThan maxEvents))

/-- An operation that raises leaves the store as it was. -/
def step (checkpoints : List WorkflowSnapshotAuthority) (s : Store) (op : Op) :
    Store :=
  match op.apply checkpoints s with
  | .ok written => written.1
  | .error _ => s

end Op

/-- A durable rollback runs its operations and then returns or raises. -/
structure DurableRollback where
  ops : List Op
  returns : Bool
  deriving DecidableEq

def DurableRollback.perform (checkpoints : List WorkflowSnapshotAuthority)
    (rollback : DurableRollback) (s : Store) : Store × Bool :=
  (run (Op.step checkpoints) s rollback.ops, rollback.returns)

inductive SystemOp where
  | op (op : Op)
  | capture (authoritativeProjectIds : List String)
      (evaluatedIdentities : List (String × String)) (fullProjectScope : Bool)
  | publish (generation : Nat) (publisher : Store.PublisherOutcome DurableRollback)
      (rollbackAuthority : Option DurableRollback)
      (marker : Store.MarkerOutcome) (resetCommits : Bool) (now : Int)

structure System where
  store : Store := {}
  checkpoints : List WorkflowSnapshotAuthority := []

namespace System

def apply (sys : System) : SystemOp -> Except StoreError (System × OpResult)
  | .op op =>
    (op.apply sys.checkpoints sys.store).map (fun written =>
      ({ sys with store := written.1 }, written.2))
  | .capture authoritativeProjectIds evaluatedIdentities fullProjectScope =>
    .ok ({ sys with
      checkpoints := sys.checkpoints ++ [sys.store.captureSnapshotAuthority authoritativeProjectIds
          evaluatedIdentities fullProjectScope] },
      .checkpoint sys.checkpoints.length)
  | .publish generation publisher rollbackAuthority marker resetCommits now =>
    (sys.store.publishSnapshotGeneration
      (DurableRollback.perform sys.checkpoints) generation publisher
      rollbackAuthority marker resetCommits now).map (fun written =>
        ({ sys with store := written.1 }, .publication written.2))

def step (sys : System) (op : SystemOp) : System :=
  match sys.apply op with
  | .ok written => written.1
  | .error _ => sys

/-- The states reached from an empty database. -/
def Reachable (sys : System) : Prop :=
  exists ops, run step {} ops = sys

end System
end WorkflowJobs
end Oompah
