import Oompah.TaskEvaluation.Implementation

/-!
# Integration

The answer for a task that is ready to integrate.  Nothing is claimed while the authority
of its implementation cannot be read or is still held, while its target lacks a revision
it needs, or while a dependency is unmet.
-/

namespace Oompah
namespace TaskEvaluation

open Foundation
open TaskTransitions (Status)

section Integration

variable (rt : Runtime)

/-- The authority record cannot be read. -/
def authorityUnreadable (authority : FactObservation) : Bool :=
  authority.state = .error || (authority.state = .known && authority.knownMapping.isNone)

/-- A direct owner still holds a generation. -/
def ownerRetirementPending (value : Mapping) : Bool :=
  (value.get "ownership_source").equalsText "direct_owner" &&
    rt.clean (value.get "generation") != ""

/-- The revisions the target lacks. -/
def requiredBaseMissing (value : Mapping) : List Value :=
  (value.get "required_base_missing").sequence?.getD []

/-- The landing that the integrated revision is looked up in: the first one, where a
text that was not recorded does not filter. -/
def integratedLanding (view : TaskView) (facts : WorkflowFacts) (value : Mapping) :
    Option LandingFact :=
  let expectedRevision := rt.clean ((value.get "integrated_sha").orElse (value.get "head_sha"))
  let target := rt.clean ((value.get "base_branch").orElse (Value.ofOption view.targetBranch))
  facts.landings.find? fun item =>
    (expectedRevision == "" || item.revision == some expectedRevision) &&
      (target == "" || item.target == target)

/-- The answer for a record whose state is `integrated`. -/
def integratedDecision (view : TaskView) (facts : WorkflowFacts) (value : Mapping) :
    Except PyError Answer :=
  let target := rt.clean ((value.get "base_branch").orElse (Value.ofOption view.targetBranch))
  let landing := integratedLanding rt view facts value
  if landing.any fun item => item.state = .landed then
    answer {
        disposition := .retryScheduled
        reasonCode := .integrationLandingProven
        owner := some .integrator
        actions := [.claimIntegration]
        durableJobs := [.integrationTerminalStage]
        recommendedStatus := some .inValidation } []
  else
    answer {
        disposition := .retryScheduled
        reasonCode := .integrationLandingUnproven
        owner := some .integrator
        actions := [.reconcileTarget]
        alert := .info
        durableJobs := [.integrationLandingRefresh] }
      [unmet "integration.landing_unproven" (if target = "" then "integration_target" else target)
        (landing.map fun item => item.state.text)]

/-- The submission is delivered by itself, and not by the queue of an epic. -/
def standaloneRoute (view : TaskView) (value : Mapping) : Bool :=
  let explicitTarget := rt.clean (Value.ofOption view.targetBranch)
  let integrationTarget := rt.clean (value.get "base_branch")
  let parent := rt.clean (Value.ofOption view.parentId)
  parent == "" ||
    (explicitTarget != "" && integrationTarget != "" && explicitTarget == integrationTarget &&
      rt.clean (value.get "post_landed_parent_id") == parent)

/-- The answer for a standalone submission that is ready. -/
def standaloneDecision (view : TaskView) (facts : WorkflowFacts) (value : Mapping) :
    Except PyError Answer :=
  let configValue := (facts.fact .config).knownMapping.getD []
  let recoveryState := rt.clean (configValue.get "accepted_submission_recovery_state")
  let acceptedHead :=
    rt.clean ((configValue.get "accepted_submission_head").orElse (value.get "head_sha"))
  let observedBranchHead := rt.clean (configValue.get "accepted_submission_branch_head")
  let observedReviewHead := rt.clean (configValue.get "accepted_submission_review_head")
  let subject := if acceptedHead = "" then view.taskId else acceptedHead
  if recoveryState = "accepted_submission_branch_advanced" then
    let observed := if observedBranchHead = "" then observedReviewHead else observedBranchHead
    answer {
        disposition := .actionRequired
        reasonCode := .standaloneResubmissionRequired
        owner := some .operator
        actions := [.resolveOperatorAction]
        alert := .warning }
      [unmet "standalone.resubmission_required" subject
        (some (if observed = "" then recoveryState else observed))]
  else if recoveryState = "accepted_submission_remote_ambiguous" then
    let observed := if observedReviewHead = "" then observedBranchHead else observedReviewHead
    answer {
        disposition := .blocked
        reasonCode := .standaloneRemoteIdentityAmbiguous
        owner := some .integrator
        actions := [.claimIntegration]
        alert := .info }
      [unmet "standalone.remote_identity_ambiguous" subject
        (some (if observed = "" then recoveryState else observed))]
  else if ["accepted_submission_branch_unavailable", "accepted_submission_claim_changed",
      "accepted_submission_claim_retiring"].contains recoveryState then
    answer {
        disposition := .blocked
        reasonCode := .standaloneRemoteIdentityUnavailable
        owner := some .integrator
        actions := [.claimIntegration]
        alert := .info }
      [unmet "standalone.remote_identity_unavailable" subject (some recoveryState)]
  else
    answer {
        disposition := .retryScheduled
        reasonCode := .standaloneDeliveryEligible
        owner := some .integrator
        actions := [.claimIntegration]
        durableJobs := [.standaloneDelivery] } []

/-- The answer by the state of the queue. -/
def queueDecision (view : TaskView) (value : Mapping) (now : Instant) : Except PyError Answer :=
  let mode := rt.cleanLower (value.get "mode")
  let state := rt.cleanLower (value.get "state")
  let hasParent := rt.clean (Value.ofOption view.parentId) != ""
  if ["integrating", "active"].contains state then do
    let valid <- validLease rt value now
    if valid then
      answer {
          disposition := .owned
          reasonCode := .integrationActive
          owner := some .integrator
          actions := [.claimIntegration] } []
    else
      answer {
          disposition := .retryScheduled
          reasonCode := .integrationRetryScheduled
          owner := some .integrator
          actions := [.claimIntegration]
          alert := .info
          durableJobs := [.integrationRecovery] } []
  else if (value.get "state").equalsText "blocked" && !(value.get "retry_forced").truthy then
    answer {
        disposition := .actionRequired
        reasonCode := .integrationGateBlocked
        owner := some .operator
        actions := [.resolveOperatorAction]
        alert := .warning }
      [unmet "integration.gate_blocked" view.taskId
        (some (rt.str ((value.get "last_error").orElse (.str "gate_blocked"))))]
  else if state == "blocked" && (value.get "retry_forced").truthy then
    answer {
        disposition := .retryScheduled
        reasonCode := .integrationQueued
        owner := some .integrator
        actions := [.claimIntegration]
        durableJobs := [.integrationAttempt] } []
  else if ["ready", "queued"].contains state && (["", "queue"].contains mode || hasParent) then
    answer {
        disposition := .retryScheduled
        reasonCode :=
          if (value.get "retry_at").truthy then .integrationRetryScheduled else .integrationQueued
        owner := some .integrator
        actions := [.claimIntegration]
        alert := if (value.get "retry_at").truthy then .info else .none
        durableJobs := [.integrationAttempt] } []
  else
    -- a record of no known class is no authority for an attempt
    answer {
        disposition := .retryScheduled
        reasonCode := .integrationRetryScheduled
        owner := some .integrator
        actions := [.claimIntegration]
        alert := .info
        durableJobs := [.integrationRecovery] } []

/-- The part of `_integration_decision` that reads the integration record. -/
def recordDecision (view : TaskView) (facts : WorkflowFacts) (now : Instant)
    (finish hardStart : List UnmetPrerequisite) (value : Mapping) : Except PyError Answer :=
  if requiredBaseMissing value ≠ [] then
    answer {
        disposition := .retryScheduled
        reasonCode := .integrationRequiredBaseMissing
        owner := some .integrator
        actions := [.reconcileTarget]
        alert := .info
        durableJobs := [.epicBranchReconciliation] }
      ((requiredBaseMissing value).map fun item =>
        unmet "integration.required_base_missing" (rt.str item) none)
  else if finish ++ hardStart ≠ [] then
    answer {
        disposition := .blocked
        reasonCode := .integrationDependenciesBlocked
        owner := some .integrator
        actions := [.waitDependency] }
      ((finish ++ hardStart).map .ok)
  else if (value.get "live_claim_precedes_history").truthy then
    answer {
        disposition := .owned
        reasonCode := .integrationLiveClaimPrecedesHistory
        owner := some .integrator
        actions := [.claimIntegration]
        durableJobs := [.integrationAttempt] } []
  else if (value.get "action_required").truthy then
    answer {
        disposition := .actionRequired
        reasonCode := .operatorActionRequired
        owner := some .operator
        actions := [.resolveOperatorAction]
        alert := .warning }
      [unmet (rt.str ((value.get "action_code").orElse (.str "integration.action_required")))
        "integration" none]
  else if (value.get "state").equalsText "integrated" then integratedDecision rt view facts value
  else if rt.cleanLower (value.get "mode") == "standalone" &&
      rt.cleanLower (value.get "state") == "ready" && standaloneRoute rt view value then
    standaloneDecision rt view facts value
  else queueDecision rt view value now

/-- `_integration_decision`. -/
def integrationDecision (view : TaskView) (facts : WorkflowFacts) (now : Instant)
    (finish hardStart : List UnmetPrerequisite) : Except PyError Answer :=
  let implementation := facts.fact .implementationAuthority
  let implementationValue := implementation.knownMapping
  if authorityUnreadable implementation then
    answer {
        disposition := .retryScheduled
        reasonCode := .evidence .implementationAuthority implementation.state
        owner := some .integrator
        actions := [.claimIntegration]
        alert := .info }
      [unmet ("evidence." ++ implementation.state.text) FactDomain.implementationAuthority.text
        implementation.errorCode]
  else if implementationValue.any (ownerRetirementPending rt) then
    answer {
        disposition := .owned
        reasonCode := .integrationOwnerRetirementPending
        owner := some .directOwner
        actions := [.continueImplementation] }
      [unmet "integration.owner_retirement_pending"
        (rt.str ((implementationValue.getD []).get "generation")) none]
  else
    match (facts.fact .integration).knownMapping with
    | none => factWait facts .integration .integrator .claimIntegration .integrationRecovery
    | some value => recordDecision rt view facts now finish hardStart value

end Integration

/-!
# What is answered
-/

section Answers

variable {rt : Runtime} {view : TaskView} {facts : WorkflowFacts} {now : Instant}
variable {finish hardStart : List UnmetPrerequisite} {value : Mapping}

theorem shows_integratedDecision :
    Shows Terms.ordinary (integratedDecision rt view facts value) := by
  apply shows_ite
  · intro _
    exact shows_answer rfl
  · intro _
    exact shows_answer rfl

theorem shows_standaloneDecision :
    Shows Terms.ordinary (standaloneDecision rt view facts value) := by
  apply shows_ite
  · intro _
    exact shows_answer rfl
  intro _
  apply shows_ite
  · intro _
    exact shows_answer rfl
  intro _
  apply shows_ite
  · intro _
    exact shows_answer rfl
  · intro _
    exact shows_answer rfl

theorem shows_queueDecision : Shows Terms.ordinary (queueDecision rt view value now) := by
  apply shows_ite
  · intro _
    apply shows_bind
    intro valid _
    apply shows_ite
    · intro _
      exact shows_answer rfl
    · intro _
      exact shows_answer rfl
  intro _
  apply shows_ite
  · intro _
    exact shows_answer rfl
  intro _
  apply shows_ite
  · intro _
    exact shows_answer rfl
  intro _
  apply shows_ite
  · intro _
    apply shows_answer
    split
    · rfl
    · rfl
  · intro _
    exact shows_answer rfl

theorem shows_recordDecision :
    Shows Terms.ordinary (recordDecision rt view facts now finish hardStart value) := by
  apply shows_ite
  · intro hmissing
    apply shows_answer
    cases hitems : requiredBaseMissing value with
    | nil => exact absurd hitems hmissing
    | cons item items => rfl
  intro _
  apply shows_ite
  · intro hunmet
    exact shows_answer_constructed hunmet rfl
  intro _
  apply shows_ite
  · intro _
    exact shows_answer rfl
  intro _
  apply shows_ite
  · intro _
    exact shows_answer rfl
  intro _
  apply shows_ite
  · intro _
    exact shows_integratedDecision
  intro _
  apply shows_ite
  · intro _
    exact shows_standaloneDecision
  · intro _
    exact shows_queueDecision

theorem shows_integrationDecision :
    Shows Terms.ordinary (integrationDecision rt view facts now finish hardStart) := by
  apply shows_ite
  · intro _
    exact shows_answer rfl
  intro _
  apply shows_ite
  · intro _
    exact shows_answer rfl
  intro _
  split
  · exact shows_factWait fun _ => rfl
  · exact shows_recordDecision

/-!
# What is refused
-/

/-- A missing revision or the code of a needed action is blank, or a lease overflows. -/
def recordFault (rt : Runtime) (view : TaskView) (finish hardStart : List UnmetPrerequisite)
    (value : Mapping) : Bool :=
  if requiredBaseMissing value ≠ [] then
    (requiredBaseMissing value).any fun item => strip (rt.str item) == ""
  else if finish ++ hardStart ≠ [] then false
  else if (value.get "live_claim_precedes_history").truthy then false
  else if (value.get "action_required").truthy then rt.blank (value.get "action_code")
  else if (value.get "state").equalsText "integrated" then false
  else if rt.cleanLower (value.get "mode") == "standalone" &&
      rt.cleanLower (value.get "state") == "ready" && standaloneRoute rt view value then false
  else ["integrating", "active"].contains (rt.cleanLower (value.get "state")) &&
    leaseOverflows rt value

def integrationFault (rt : Runtime) (view : TaskView) (facts : WorkflowFacts)
    (finish hardStart : List UnmetPrerequisite) : Bool :=
  let implementation := facts.fact .implementationAuthority
  !authorityUnreadable implementation &&
    !implementation.knownMapping.any (ownerRetirementPending rt) &&
    (facts.fact .integration).knownMapping.any (recordFault rt view finish hardStart)

theorem strip_cleanOr {v : Value} {default : String} (h : strip default ≠ "") :
    strip (if rt.clean v = "" then default else rt.clean v) ≠ "" := by
  by_cases hblank : rt.clean v = ""
  · rw [if_pos hblank]
    exact h
  · rw [if_neg hblank, Runtime.strip_clean]
    exact hblank

theorem returns_integratedDecision : Returns (integratedDecision rt view facts value) := by
  unfold integratedDecision
  rw [returns_ite]
  refine ⟨fun _ => returns_answer_nil, fun _ => ?_⟩
  rw [returns_answer_single, returns_unmet]
  exact ⟨strip_ne_of_any rfl, strip_cleanOr (strip_ne_of_any rfl)⟩

theorem returns_standaloneDecision (htask : strip view.taskId ≠ "") :
    Returns (standaloneDecision rt view facts value) := by
  unfold standaloneDecision
  have hresubmission : strip "standalone.resubmission_required" ≠ "" := strip_ne_of_any rfl
  have hambiguous : strip "standalone.remote_identity_ambiguous" ≠ "" := strip_ne_of_any rfl
  have hunavailable : strip "standalone.remote_identity_unavailable" ≠ "" := strip_ne_of_any rfl
  simp only [returns_ite, returns_answer_single, returns_unmet, returns_answer_nil]
  exact ⟨fun _ => ⟨hresubmission, strip_cleanOr htask⟩, fun _ =>
    ⟨fun _ => ⟨hambiguous, strip_cleanOr htask⟩, fun _ =>
      ⟨fun _ => ⟨hunavailable, strip_cleanOr htask⟩, fun _ => trivial⟩⟩⟩

theorem returns_queueDecision (htask : strip view.taskId ≠ "") :
    Returns (queueDecision rt view value now) ↔
      (["integrating", "active"].contains (rt.cleanLower (value.get "state")) &&
        leaseOverflows rt value) = false := by
  unfold queueDecision
  dsimp only
  cases hactive : ["integrating", "active"].contains (rt.cleanLower (value.get "state")) with
  | true =>
    show Returns (validLease rt value now >>= _) ↔ leaseOverflows rt value = false
    rw [returns_bind_of_total, returns_validLease]
    intro valid _
    rw [returns_ite]
    exact ⟨fun _ => returns_answer_nil, fun _ => returns_answer_nil⟩
  | false =>
    refine iff_of_true ?_ rfl
    have hblocked : strip "integration.gate_blocked" ≠ "" := strip_ne_of_any rfl
    rw [if_neg Bool.false_ne_true]
    simp only [returns_ite, returns_answer_single, returns_unmet, returns_answer_nil,
      implies_true, and_true]
    exact fun _ => ⟨hblocked, htask⟩

theorem returns_recordDecision (htask : strip view.taskId ≠ "") :
    Returns (recordDecision rt view facts now finish hardStart value) ↔
      recordFault rt view finish hardStart value = false := by
  unfold recordDecision recordFault
  by_cases hmissing : requiredBaseMissing value ≠ []
  · have hcode : strip "integration.required_base_missing" ≠ "" := strip_ne_of_any rfl
    rw [if_pos hmissing, if_pos hmissing, returns_answer]
    simp [returns_unmet, hcode]
  rw [if_neg hmissing, if_neg hmissing]
  by_cases hunmet : finish ++ hardStart ≠ []
  · rw [if_pos hunmet, if_pos hunmet]
    exact iff_of_true returns_answer_constructed rfl
  rw [if_neg hunmet, if_neg hunmet]
  by_cases hlive : (value.get "live_claim_precedes_history").truthy = true
  · rw [if_pos hlive, if_pos hlive]
    exact iff_of_true returns_answer_nil rfl
  rw [if_neg hlive, if_neg hlive]
  by_cases hrequired : (value.get "action_required").truthy = true
  · have hsubject : strip "integration" ≠ "" := strip_ne_of_any rfl
    have hdefault : strip "integration.action_required" ≠ "" := strip_ne_of_any rfl
    rw [if_pos hrequired, if_pos hrequired, returns_answer_single, returns_unmet, Ne,
      Runtime.strip_orElse hdefault]
    simp [hsubject]
  rw [if_neg hrequired, if_neg hrequired]
  by_cases hintegrated : (value.get "state").equalsText "integrated" = true
  · rw [if_pos hintegrated, if_pos hintegrated]
    exact iff_of_true returns_integratedDecision rfl
  rw [if_neg hintegrated, if_neg hintegrated]
  by_cases hstandalone : (rt.cleanLower (value.get "mode") == "standalone" &&
      rt.cleanLower (value.get "state") == "ready" && standaloneRoute rt view value) = true
  · rw [if_pos hstandalone, if_pos hstandalone]
    exact iff_of_true (returns_standaloneDecision htask) rfl
  rw [if_neg hstandalone, if_neg hstandalone]
  exact returns_queueDecision htask

theorem returns_integrationDecision (htask : strip view.taskId ≠ "") :
    Returns (integrationDecision rt view facts now finish hardStart) ↔
      integrationFault rt view facts finish hardStart = false := by
  unfold integrationDecision integrationFault
  dsimp only
  cases hunreadable : authorityUnreadable (facts.fact .implementationAuthority) with
  | true =>
    refine iff_of_true ?_ rfl
    rw [if_pos rfl, returns_answer_single, returns_unmet]
    exact ⟨strip_append_right "evidence." (state_text_named _), domain_text_named _⟩
  | false =>
    rw [if_neg Bool.false_ne_true]
    cases hretirement : (facts.fact .implementationAuthority).knownMapping.any
        (ownerRetirementPending rt) with
    | true =>
      refine iff_of_true ?_ rfl
      rw [if_pos rfl, returns_answer_single, returns_unmet]
      refine ⟨strip_ne_of_any rfl, ?_⟩
      cases hvalue : (facts.fact .implementationAuthority).knownMapping with
      | none =>
        rw [hvalue] at hretirement
        cases hretirement
      | some value =>
        rw [hvalue] at hretirement
        unfold ownerRetirementPending at hretirement
        simp only [Option.any_some, Bool.and_eq_true, bne_iff_ne] at hretirement
        exact Runtime.strip_str_of_clean hretirement.right
    | false =>
      rw [if_neg Bool.false_ne_true]
      cases (facts.fact .integration).knownMapping with
      | none => exact iff_of_true returns_factWait rfl
      | some value => exact returns_recordDecision htask

end Answers
end TaskEvaluation
end Oompah
