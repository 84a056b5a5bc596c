import Oompah.Foundation.TransitionSystem
import Oompah.Integration.Queue

/-!
# Runs of the integration queue

Every operation that writes the queue, with its arguments, and the store it
leaves.  A run is any list of them: the store serialises its callers, so an
interleaving of integrators is one list.
-/

namespace Oompah
namespace Integration

open Foundation

inductive QueueOp where
  | openStore
  | enqueue (submission : IntegrationQueueStore.Submission) (now : String)
  | enqueueIfAbsent (submission : IntegrationQueueStore.Submission) (now : String)
  | replaceTaskIdentity (k : RowKey) (expected parent branch head : String)
      (baseBranch baseSha : Option String) (priority : Option Int)
      (submittedAt : Option String) (now : String)
  | retireTaskGeneration (k : RowKey) (expected message : String)
      (action : IntegrationQueueItem -> Bool) (now : String)
  | prepareTaskRebase (k : RowKey) (expected base now : String)
  | abortTaskRebase (k : RowKey) (expected now : String)
  | prepareTaskPublication (k : RowKey) (expected replacement : String)
      (baseSha : Option String) (now : String)
  | completeTaskPublication (k : RowKey) (expected published now : String)
  | consumeRetryGeneration (k : RowKey) (expected now : String)
  | recoverExpired (timestamp : Int) (now : String)
  | recoverAbandoned (now : String)
  | recoverTaskGeneration (k : RowKey) (expected : String) (timestamp : Int) (now : String)
  | finishTaskGeneration (k : RowKey) (expected : String) (state : QueueState)
      (error : Option String) (retryAt : Option Int)
      (integratedSha : Option String) (now : String)
  | normalizeLegacyTrackerCheckpoint (k : RowKey)
      (expected branch replacement landed : String) (baseSha : Option String)
      (now : String)
  | claimNext (request : IntegrationQueueStore.ClaimRequest) (timestamp : Int) (now : String)
  | recordCandidate (k : RowKey) (leaseOwner expectedHeadSha : String)
      (expectedCandidateHeadSha : Option String) (candidate base now : String)
  | checkpointLegacyIntegration (k : RowKey) (leaseOwner branch predecessor rebased landed : String)
      (baseSha : Option String) (now : String)
  | complete (k : RowKey) (leaseOwner now : String)
  | fail (k : RowKey) (leaseOwner error : String) (retryable : Bool)
      (retryAt : Option Int) (now : String)
  | blockPreflight (k : RowKey) (reason : String) (expectedHeadSha : Option String) (now : String)
  | cancel (k : RowKey) (request : IntegrationQueueStore.CancelRequest) (now : String)
  | restoreCancelled (k : RowKey) (request : IntegrationQueueStore.RestoreRequest) (now : String)
  | retryIntegratedAfterTrackerFailure (k : RowKey) (expectedHeadSha : String)
      (expectedCandidateHeadSha : Option String) (error now : String)

namespace QueueOp

/-- The store an operation leaves; what it returns is dropped. -/
def apply (rt : QueueRuntime) (s : IntegrationQueueStore) : QueueOp -> IntegrationQueueStore
  | openStore => s.openStore
  | enqueue submission now => (s.enqueue rt submission now).1
  | enqueueIfAbsent submission now => (s.enqueueIfAbsent rt submission now).1
  | replaceTaskIdentity k expected parent branch head baseBranch baseSha priority
      submittedAt now =>
      (s.replaceTaskIdentity rt k expected parent branch head baseBranch
        baseSha priority submittedAt now).1
  | retireTaskGeneration k expected message action now =>
    (s.retireTaskGeneration rt k expected message action now).1
  | prepareTaskRebase k expected base now =>
    (s.prepareTaskRebase rt k expected base now).1
  | abortTaskRebase k expected now => (s.abortTaskRebase rt k expected now).1
  | prepareTaskPublication k expected replacement baseSha now =>
    (s.prepareTaskPublication rt k expected replacement baseSha now).1
  | completeTaskPublication k expected published now =>
    (s.completeTaskPublication rt k expected published now).1
  | consumeRetryGeneration k expected now =>
    (s.consumeRetryGeneration rt k expected now).1
  | recoverExpired timestamp now => (s.recoverExpired timestamp now).1
  | recoverAbandoned now => (s.recoverAbandoned now).1
  | recoverTaskGeneration k expected timestamp now =>
    (s.recoverTaskGeneration rt k expected timestamp now).1
  | finishTaskGeneration k expected state error retryAt integratedSha now =>
    (s.finishTaskGeneration rt k expected state error retryAt integratedSha now).1
  | normalizeLegacyTrackerCheckpoint k expected branch replacement landed baseSha
      now =>
      (s.normalizeLegacyTrackerCheckpoint rt k expected branch replacement landed baseSha now).1
  | claimNext request timestamp now => (s.claimNext request timestamp now).1
  | recordCandidate k leaseOwner expectedHeadSha expectedCandidateHeadSha candidate
      base now =>
      (s.recordCandidate k leaseOwner expectedHeadSha expectedCandidateHeadSha candidate base now).1
  | checkpointLegacyIntegration k leaseOwner branch predecessor rebased landed
      baseSha now =>
      (s.checkpointLegacyIntegration k leaseOwner branch predecessor rebased landed baseSha now).1
  | complete k leaseOwner now => (s.complete k leaseOwner now).1
  | fail k leaseOwner error retryable retryAt now =>
    (s.fail k leaseOwner error retryable retryAt now).1
  | blockPreflight k reason expectedHeadSha now =>
    (s.blockPreflight k reason expectedHeadSha now).1
  | cancel k request now => (s.cancel k request now).1
  | restoreCancelled k request now =>
    (IntegrationQueueStore.restoreCancelled rt s k request now).1
  | retryIntegratedAfterTrackerFailure k expectedHeadSha expectedCandidateHeadSha
      error now =>
      (s.retryIntegratedAfterTrackerFailure k expectedHeadSha expectedCandidateHeadSha error now).1

/-- The lease owner an operation is called with. -/
def leaseOwner? : QueueOp -> Option String
  | recordCandidate _ leaseOwner _ _ _ _ _ => some leaseOwner
  | checkpointLegacyIntegration _ leaseOwner _ _ _ _ _ _ => some leaseOwner
  | complete _ leaseOwner _ => some leaseOwner
  | fail _ leaseOwner _ _ _ _ => some leaseOwner
  | _ => none

/-- The owner an operation leases a row to, if it does. -/
def claims? (s : IntegrationQueueStore) : QueueOp -> Option String
  | claimNext request timestamp now =>
    if (s.claimNext request timestamp now).2.isSome then some request.leaseOwner
    else none
  | _ => none

/-- The row whose generation an operation may submit anew or take back. -/
def mayReopen : QueueOp -> RowKey -> Prop
  | enqueue submission _, k => submission.key = k
  | replaceTaskIdentity k' _ _ _ _ _ _ _ _ _, k => k' = k
  | retryIntegratedAfterTrackerFailure k' _ _ _ _, k => k' = k
  | _, _ => False

instance (op : QueueOp) (k : RowKey) : Decidable (op.mayReopen k) :=
  match op with
  | enqueue submission _ => inferInstanceAs (Decidable (submission.key = k))
  | replaceTaskIdentity k' _ _ _ _ _ _ _ _ _ => inferInstanceAs (Decidable (k' = k))
  | retryIntegratedAfterTrackerFailure k' _ _ _ _ =>
    inferInstanceAs (Decidable (k' = k))
  | openStore | enqueueIfAbsent .. | retireTaskGeneration .. | prepareTaskRebase ..
  | abortTaskRebase .. | prepareTaskPublication .. | completeTaskPublication ..
  | consumeRetryGeneration .. | recoverExpired .. | recoverAbandoned ..
  | recoverTaskGeneration .. | finishTaskGeneration ..
  | normalizeLegacyTrackerCheckpoint .. | claimNext .. | recordCandidate ..
  | checkpointLegacyIntegration .. | complete .. | fail .. | blockPreflight ..
  | cancel .. | restoreCancelled .. => inferInstanceAs (Decidable False)

/-- The operation does so: it leaves another row than it found. -/
def reopens (rt : QueueRuntime) (s : IntegrationQueueStore) (op : QueueOp) (k : RowKey) : Prop :=
  op.mayReopen k ∧ (op.apply rt s).get k ≠ s.get k

end QueueOp
end Integration
end Oompah
