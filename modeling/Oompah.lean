import Oompah.WorkflowJobs.Exclusivity
import Oompah.WorkflowJobs.Publication
import Oompah.WorkflowJobs.RearmFence
import Oompah.WorkflowJobs.WorkerProgress
import Oompah.WorkflowWorker.Fencing
import Oompah.CheckpointQueue.Coverage
import Oompah.Dependencies.CycleCheck
import Oompah.Integration.LeaseFence
import Oompah.Integration.History
import Oompah.TaskTransitions.FinalEvents
import Oompah.TaskTransitions.WriteFence
import Oompah.TaskTransitions.Obligations
import Oompah.ReviewCapacity.Slots
import Oompah.ImplementationWorkflow.Interleavings
import Oompah.TrackerComments.RoundTrip
import Oompah.Coordination.Delivery
import Oompah.ValidationLease.Cancellation
import Oompah.TaskEvaluation.Liveness
import Oompah.TaskEvaluation.DependencyGate
import Oompah.TaskEvaluation.RollupProof
import Oompah.TaskEvaluation.Totality
import Oompah.WorkflowJobs.ArchiveProgress
import Oompah.WorkflowJobs.DirectRows
import Oompah.ImplementationWorkflow.EventHistory
import Oompah.WorkflowController.CycleMembers
import Oompah.ContainerDependency.NewEdge
import Oompah.NativeTasks.CreateOnce
import Oompah.Integration.Resubmission
import Oompah.Integration.Candidates
import Oompah.Integration.Rebase
import Oompah.Records.ParsedRecord
import Oompah.TerminalAudit.Replay
import Oompah.WorkflowJobs.DecisionWindow
import Oompah.ValidationLease.Fairness
import Oompah.ValidationLease.AbortedAcquire
import Oompah.ReleaseDeliveries.Accepted
import Oompah.EpicProposals.Recognition
import Oompah.EpicProposals.Resumption
import Oompah.TerminalAudit.Finalization
import Oompah.ContainerRepair.FastForward
