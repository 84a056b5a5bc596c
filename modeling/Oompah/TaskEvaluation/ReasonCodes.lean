import Oompah.TaskEvaluation.Facts

/-!
# Reason codes

Why a decision was given.  The codes that a decision may carry are listed as texts; every
code that an evaluator gives is one of them.
-/

namespace Oompah
namespace TaskEvaluation

open Foundation

/-- The codes that the evaluators give: the fixed ones, and one for each domain of evidence
and state of knowledge. -/
inductive ReasonCode where
  | coordinationPolicyDenied
  | controllerEvaluationFailed
  | dispatchDependenciesBlocked
  | dispatchEligible
  | dispatchHierarchyWait
  | duplicateConfirmed
  | duplicateInvestigating
  | duplicateRecoveryScheduled
  | duplicateScreeningDisabled
  | evidenceConflictingTaskFacts
  | evidenceContainmentMalformed
  | evidenceDependenciesMalformed
  | evidenceProjectOrTaskMismatch
  | evidenceTaskFactIdentityMismatch
  | evidenceTaskStatusMismatch
  | implementationActive
  | implementationActionScheduled
  | implementationRecoveryScheduled
  | implementationSubmissionRecoveryParked
  | intakeAwaitingDecision
  | integrationActive
  | integrationDependenciesBlocked
  | integrationGateBlocked
  | integrationLiveClaimPrecedesHistory
  | integrationLandingProven
  | integrationLandingUnproven
  | integrationOwnerRetirementPending
  | integrationQueued
  | integrationRequiredBaseMissing
  | integrationRetryScheduled
  | landingEvidenceUnknown
  | landingTargetEvidenceMissing
  | landingWaiting
  | maintenancePublicationCompletionPending
  | maintenancePublicationProven
  | graphImpossible
  | livenessReassessmentOverdue
  | operatorActionRequired
  | ownershipConflict
  | ownershipImpossible
  | prioritizationAwaitingOwner
  | requestorAnswerRequired
  | retryExhausted
  | automationUnavailable
  | reviewCiFixRequired
  | reviewCiPending
  | reviewCapacityWait
  | reviewClosedUnmerged
  | reviewDraftWait
  | reviewHeadChanged
  | reviewLandingRefresh
  | reviewMergeTargetMismatch
  | reviewMissingArtifact
  | reviewMonitoring
  | reviewProviderUnavailable
  | reviewRebaseRequired
  | reviewReadyToMerge
  | reviewSourceDeleted
  | rollupChildrenComplete
  | rollupChildrenMissing
  | rollupStatusReconciliation
  | rollupWaitingParentLanding
  | rollupWaitingChildren
  | standaloneDeliveryEligible
  | standaloneRemoteIdentityAmbiguous
  | standaloneRemoteIdentityUnavailable
  | standaloneResubmissionRequired
  | terminalFinal
  | terminalImmediateTargetLandingProven
  | terminalPreserveVerifiedMerged
  | terminalProvenanceInvalid
  | terminalProvenanceRetained
  | validationActive
  | validationQueued
  | validationRetryScheduled
  | workflowUnknownStatus
  | evidence (domain : FactDomain) (state : FactState)
  deriving DecidableEq

namespace ReasonCode

def text : ReasonCode -> String
  | coordinationPolicyDenied => "coordination.policy_denied"
  | controllerEvaluationFailed => "controller.evaluation_failed"
  | dispatchDependenciesBlocked => "dispatch.dependencies_blocked"
  | dispatchEligible => "dispatch.eligible"
  | dispatchHierarchyWait => "dispatch.hierarchy_wait"
  | duplicateConfirmed => "duplicate.confirmed"
  | duplicateInvestigating => "duplicate.investigating"
  | duplicateRecoveryScheduled => "duplicate.recovery_scheduled"
  | duplicateScreeningDisabled => "duplicate.screening_disabled"
  | evidenceConflictingTaskFacts => "evidence.conflicting_task_facts"
  | evidenceContainmentMalformed => "evidence.containment_malformed"
  | evidenceDependenciesMalformed => "evidence.dependencies_malformed"
  | evidenceProjectOrTaskMismatch => "evidence.project_or_task_mismatch"
  | evidenceTaskFactIdentityMismatch => "evidence.task_fact_identity_mismatch"
  | evidenceTaskStatusMismatch => "evidence.task_status_mismatch"
  | implementationActive => "implementation.active"
  | implementationActionScheduled => "implementation.action_scheduled"
  | implementationRecoveryScheduled => "implementation.recovery_scheduled"
  | implementationSubmissionRecoveryParked => "implementation.submission_recovery_parked"
  | intakeAwaitingDecision => "intake.awaiting_decision"
  | integrationActive => "integration.active"
  | integrationDependenciesBlocked => "integration.dependencies_blocked"
  | integrationGateBlocked => "integration.gate_blocked"
  | integrationLiveClaimPrecedesHistory => "integration.live_claim_precedes_history"
  | integrationLandingProven => "integration.landing_proven"
  | integrationLandingUnproven => "integration.landing_unproven"
  | integrationOwnerRetirementPending => "integration.owner_retirement_pending"
  | integrationQueued => "integration.queued"
  | integrationRequiredBaseMissing => "integration.required_base_missing"
  | integrationRetryScheduled => "integration.retry_scheduled"
  | landingEvidenceUnknown => "landing.evidence_unknown"
  | landingTargetEvidenceMissing => "landing.target_evidence_missing"
  | landingWaiting => "landing.waiting"
  | maintenancePublicationCompletionPending => "maintenance.publication_completion_pending"
  | maintenancePublicationProven => "maintenance.publication_proven"
  | graphImpossible => "graph.impossible"
  | livenessReassessmentOverdue => "liveness.reassessment_overdue"
  | operatorActionRequired => "operator.action_required"
  | ownershipConflict => "ownership.conflict"
  | ownershipImpossible => "ownership.impossible"
  | prioritizationAwaitingOwner => "prioritization.awaiting_owner"
  | requestorAnswerRequired => "requestor.answer_required"
  | retryExhausted => "retry.exhausted"
  | automationUnavailable => "automation.unavailable"
  | reviewCiFixRequired => "review.ci_fix_required"
  | reviewCiPending => "review.ci_pending"
  | reviewCapacityWait => "review.capacity_wait"
  | reviewClosedUnmerged => "review.closed_unmerged"
  | reviewDraftWait => "review.draft_wait"
  | reviewHeadChanged => "review.head_changed"
  | reviewLandingRefresh => "review.landing_refresh"
  | reviewMergeTargetMismatch => "review.merge_target_mismatch"
  | reviewMissingArtifact => "review.missing_artifact"
  | reviewMonitoring => "review.monitoring"
  | reviewProviderUnavailable => "review.provider_unavailable"
  | reviewRebaseRequired => "review.rebase_required"
  | reviewReadyToMerge => "review.ready_to_merge"
  | reviewSourceDeleted => "review.source_deleted"
  | rollupChildrenComplete => "rollup.children_complete"
  | rollupChildrenMissing => "rollup.children_missing"
  | rollupStatusReconciliation => "rollup.status_reconciliation"
  | rollupWaitingParentLanding => "rollup.waiting_parent_landing"
  | rollupWaitingChildren => "rollup.waiting_children"
  | standaloneDeliveryEligible => "standalone.delivery_eligible"
  | standaloneRemoteIdentityAmbiguous => "standalone.remote_identity_ambiguous"
  | standaloneRemoteIdentityUnavailable => "standalone.remote_identity_unavailable"
  | standaloneResubmissionRequired => "standalone.resubmission_required"
  | terminalFinal => "terminal.final"
  | terminalImmediateTargetLandingProven => "terminal.immediate_target_landing_proven"
  | terminalPreserveVerifiedMerged => "terminal.preserve_verified_merged"
  | terminalProvenanceInvalid => "terminal.provenance_invalid"
  | terminalProvenanceRetained => "terminal.provenance_retained"
  | validationActive => "validation.active"
  | validationQueued => "validation.queued"
  | validationRetryScheduled => "validation.retry_scheduled"
  | workflowUnknownStatus => "workflow.unknown_status"
  | evidence domain state => "evidence." ++ domain.text ++ "_" ++ state.text

end ReasonCode

/-- `_FIXED_DECISION_REASON_CODES`. -/
def fixedDecisionReasonCodes : List String :=
  ["coordination.policy_denied", "controller.evaluation_failed", "dispatch.dependencies_blocked",
    "dispatch.eligible", "dispatch.hierarchy_wait", "duplicate.confirmed",
    "duplicate.investigating", "duplicate.recovery_scheduled", "duplicate.screening_disabled",
    "evidence.conflicting_task_facts", "evidence.containment_malformed",
    "evidence.dependencies_malformed", "evidence.project_or_task_mismatch",
    "evidence.task_fact_identity_mismatch", "evidence.task_status_mismatch",
    "implementation.active", "implementation.action_scheduled",
    "implementation.recovery_scheduled", "implementation.submission_recovery_parked",
    "intake.awaiting_decision", "integration.active", "integration.dependencies_blocked",
    "integration.gate_blocked", "integration.live_claim_precedes_history",
    "integration.landing_proven", "integration.landing_unproven",
    "integration.owner_retirement_pending", "integration.queued",
    "integration.required_base_missing", "integration.retry_scheduled",
    "landing.evidence_unknown", "landing.target_evidence_missing", "landing.waiting",
    "maintenance.publication_completion_pending", "maintenance.publication_proven",
    "graph.impossible", "liveness.reassessment_overdue", "operator.action_required",
    "ownership.conflict", "ownership.impossible", "prioritization.awaiting_owner",
    "requestor.answer_required", "retry.exhausted", "automation.unavailable",
    "review.ci_fix_required", "review.ci_pending", "review.capacity_wait",
    "review.closed_unmerged", "review.draft_wait", "review.head_changed",
    "review.landing_refresh", "review.merge_target_mismatch", "review.missing_artifact",
    "review.monitoring", "review.provider_unavailable", "review.rebase_required",
    "review.ready_to_merge", "review.source_deleted", "rollup.children_complete",
    "rollup.children_missing", "rollup.status_reconciliation", "rollup.waiting_parent_landing",
    "rollup.waiting_children", "standalone.delivery_eligible",
    "standalone.remote_identity_ambiguous", "standalone.remote_identity_unavailable",
    "standalone.resubmission_required", "terminal.final",
    "terminal.immediate_target_landing_proven", "terminal.preserve_verified_merged",
    "terminal.provenance_invalid", "terminal.provenance_retained", "validation.active",
    "validation.queued", "validation.retry_scheduled", "workflow.unknown_status"]

def factDomains : List FactDomain :=
  [.task, .dependencies, .containment, .integration, .terminalAudit, .reviewCi, .landing,
    .implementationAuthority, .duplicateInvestigation, .retryBudget, .config]

def factStates : List FactState :=
  [.known, .missing, .stale, .error]

/-- `KNOWN_DECISION_REASON_CODES`. -/
def knownDecisionReasonCodes : List String :=
  fixedDecisionReasonCodes ++ factDomains.flatMap fun domain =>
    factStates.map fun state => "evidence." ++ domain.text ++ "_" ++ state.text

theorem mem_fixedDecisionReasonCodes {code : ReasonCode}
    (h : forall domain state, code ≠ .evidence domain state) :
    code.text ∈ fixedDecisionReasonCodes := by
  have hindex : fixedDecisionReasonCodes[code.ctorIdx]? = some code.text := by
    cases code with
    | evidence domain state => exact absurd rfl (h domain state)
    | _ => rfl
  exact List.mem_of_getElem? hindex

theorem ReasonCode.text_known (code : ReasonCode) : code.text ∈ knownDecisionReasonCodes := by
  unfold knownDecisionReasonCodes
  rw [List.mem_append]
  cases code with
  | evidence domain state =>
    right
    apply List.mem_flatMap.mpr
    refine ⟨domain, by cases domain <;> decide, ?_⟩
    apply List.mem_map.mpr
    exact ⟨state, by cases state <;> decide, rfl⟩
  | _ =>
    left
    apply mem_fixedDecisionReasonCodes
    intro domain state h
    cases h

end TaskEvaluation
end Oompah
