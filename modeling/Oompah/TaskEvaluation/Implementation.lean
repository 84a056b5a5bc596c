import Oompah.TaskEvaluation.Evidence

/-!
# Implementation and validation

The answers for a task that is being implemented and for one whose audit is pending.
-/

namespace Oompah
namespace TaskEvaluation

open Foundation
open TaskTransitions (Status)

section Implementation

variable (rt : Runtime)

/-- The recorded pending action, when it is one of `IMPLEMENTATION_ACTION_JOBS`. -/
def pendingAction (configValue : Option Mapping) : Option DurableJob :=
  configValue.bind fun value =>
    implementationActionJobs.lookup (rt.clean (value.get "implementation_pending_action"))

def authorityIndependentActions : List DurableJob :=
  [.directOwnerClaim, .duplicateScreening, .focusHandoff, .implementationRecovery,
    .implementationStart, .validationSubmission]

/-- The pending action that is scheduled: any other than those above needs a lease. -/
def scheduledAction (configValue authorityValue : Option Mapping) (now : Instant) :
    Except PyError (Option DurableJob) :=
  match pendingAction rt configValue with
  | none => .ok none
  | some job =>
    if job ∈ authorityIndependentActions then .ok (some job)
    else
      match authorityValue with
      | none => .ok none
      | some value => do
          let valid <- validLease rt value now
          .ok (if valid then some job else none)

/-- The state in which an accepted submission waits to be recovered. -/
def submissionRecoveryState (configValue : Option Mapping) : String :=
  rt.clean ((configValue.getD []).get "accepted_submission_recovery_state")

/-- A transition is pending and its implementation has been handed over. -/
def handedOver (value : Mapping) : Except PyError Bool :=
  if (value.get "transition_pending").truthy then
    if (value.get "state").hashable then
      .ok (["submitted", "revoked", "completed"].any (value.get "state").equalsText)
    else .error (.typeError "unhashable type")
  else .ok false

/-- The answer by the live work on an implementation. -/
def liveAuthorityDecision (configValue : Option Mapping) (value : Mapping) (now : Instant) :
    Except PyError Answer := do
  let live <- liveWork rt value now
  if live then
    answer {
        disposition := .owned
        reasonCode :=
          if ((configValue.getD []).get "coordination_policy_denied").truthy then
            .coordinationPolicyDenied
          else .implementationActive
        owner :=
          if (value.get "ownership_source").equalsText "direct_owner" then some .directOwner
          else some .implementer
        actions := [.continueImplementation] } []
  else
    answer {
        disposition := .retryScheduled
        reasonCode := .implementationRecoveryScheduled
        owner := some .dispatcher
        actions := [.recoverImplementation]
        alert := .info
        durableJobs := [.implementationRecovery] } []

/-- The part of `_implementation_decision` that reads the authority record. -/
def authorityDecision (configValue : Option Mapping) (value : Mapping) (now : Instant) :
    Except PyError Answer :=
  if (value.get "transition_pending").truthy && (value.get "state").equalsText "retry_wait" then
    answer {
        disposition := .retryScheduled
        reasonCode := .implementationActionScheduled
        owner := some .dispatcher
        actions := [.reconcileImplementation]
        alert := .info } []
  else do
    let handed <- handedOver value
    if handed then
      answer {
          disposition := .owned
          reasonCode := .implementationActive
          owner := some .dispatcher
          actions := [.continueImplementation] } []
    else liveAuthorityDecision rt configValue value now

/-- `_implementation_decision`. -/
def implementationDecision (facts : WorkflowFacts) (now : Instant) : Except PyError Answer := do
  let configValue := (facts.fact .config).knownMapping
  let authorityValue := (facts.fact .implementationAuthority).knownMapping
  let scheduled <- scheduledAction rt configValue authorityValue now
  match scheduled with
  | some job =>
    answer {
        disposition := .retryScheduled
        reasonCode := .implementationActionScheduled
        owner := some .dispatcher
        actions := [.reconcileImplementation]
        alert := .info
        durableJobs := [job] } []
  | none =>
    if startsWith "accepted_submission_" (submissionRecoveryState rt configValue) then
      -- the one blocked answer that names no prerequisite
      answer {
          disposition := .blocked
          reasonCode := .implementationSubmissionRecoveryParked
          owner := some .dispatcher
          actions := [.reconcileImplementation]
          alert := .info } []
    else
      match authorityValue with
      | none =>
        factWait facts .implementationAuthority .dispatcher .recoverImplementation
          .implementationRecovery
      | some value => authorityDecision rt configValue value now

/-- `_validation_decision`. -/
def validationDecision (facts : WorkflowFacts) (now : Instant) : Except PyError Answer :=
  match (facts.fact .terminalAudit).knownMapping with
  | none => factWait facts .terminalAudit .auditor .retryAudit .terminalAuditRecovery
  | some value =>
    if (value.get "quarantined").truthy || (value.get "unsafe").truthy then
      answer {
          disposition := .actionRequired
          reasonCode := .operatorActionRequired
          owner := some .operator
          actions := [.resolveOperatorAction]
          alert := .warning }
        [unmet (rt.str ((value.get "action_code").orElse (.str "audit.evidence_unsafe")))
          "terminal_audit" none]
    else if (value.get "action_required").truthy then
      answer {
          disposition := .actionRequired
          reasonCode := .operatorActionRequired
          owner := some .operator
          actions := [.resolveOperatorAction]
          alert := .warning }
        [unmet (rt.str ((value.get "action_code").orElse (.str "audit.action_required")))
          "terminal_audit" none]
    else if (value.get "phase").equalsText "active" then do
      let live <- liveWork rt value now
      if live then
        answer {
            disposition := .owned
            reasonCode := .validationActive
            owner := some .auditor
            actions := [.retryAudit] } []
      else
        answer {
            disposition := .retryScheduled
            reasonCode := .validationRetryScheduled
            owner := some .auditor
            actions := [.retryAudit]
            alert := .info
            durableJobs := [.terminalAuditRecovery] } []
    else
      answer {
          disposition := .retryScheduled
          reasonCode :=
            if (value.get "retry_at").truthy then .validationRetryScheduled
            else .validationQueued
          owner := some .auditor
          actions := [.claimAudit]
          alert := if (value.get "retry_at").truthy then .info else .none
          durableJobs := [.terminalAudit] } []

end Implementation

/-!
# What is answered
-/

section Answers

variable {rt : Runtime} {facts : WorkflowFacts} {now : Instant} {given : Answer}

theorem shows_liveAuthorityDecision {configValue : Option Mapping} {value : Mapping} :
    Shows Terms.ordinary (liveAuthorityDecision rt configValue value now) := by
  apply shows_bind
  intro live _
  apply shows_ite
  · intro _
    exact shows_answer rfl
  · intro _
    exact shows_answer rfl

theorem shows_authorityDecision {configValue : Option Mapping} {value : Mapping} :
    Shows Terms.ordinary (authorityDecision rt configValue value now) := by
  apply shows_ite
  · intro _
    exact shows_answer rfl
  · intro _
    apply shows_bind
    intro handed _
    apply shows_ite
    · intro _
      exact shows_answer rfl
    · intro _
      exact shows_liveAuthorityDecision

/-- The action that is scheduled for a task in progress. -/
def scheduledFor (rt : Runtime) (facts : WorkflowFacts) (now : Instant) :
    Except PyError (Option DurableJob) :=
  scheduledAction rt (facts.fact .config).knownMapping
    (facts.fact .implementationAuthority).knownMapping now

/-- The pending action is scheduled: any but the authority independent ones needs a valid
lease. -/
def ActionScheduled (rt : Runtime) (facts : WorkflowFacts) (now : Instant)
    (job : DurableJob) : Prop :=
  pendingAction rt (facts.fact .config).knownMapping = some job ∧
    (job ∈ authorityIndependentActions ∨
      exists value, (facts.fact .implementationAuthority).knownMapping = some value ∧
        validLease rt value now = .ok true)

/-- An accepted submission waits to be recovered and no action is scheduled. -/
def submissionParked (rt : Runtime) (facts : WorkflowFacts) (now : Instant) : Prop :=
  (forall job, ¬ ActionScheduled rt facts now job) ∧ startsWith "accepted_submission_"
      (submissionRecoveryState rt (facts.fact .config).knownMapping) = true

/-- An action by which ownership begins is scheduled. -/
def startScheduled (rt : Runtime) (facts : WorkflowFacts) (now : Instant) : Prop :=
  exists job, job ∈ startJobs ∧ ActionScheduled rt facts now job

theorem scheduledFor_iff {scheduled : Option DurableJob}
    (h : scheduledFor rt facts now = .ok scheduled) (job : DurableJob) :
    ActionScheduled rt facts now job ↔ scheduled = some job := by
  unfold scheduledFor scheduledAction at h
  unfold ActionScheduled
  cases hpending : pendingAction rt (facts.fact .config).knownMapping with
  | none =>
    rw [hpending] at h
    cases h
    simp
  | some pending =>
    simp only [hpending] at h
    by_cases hindependent : pending ∈ authorityIndependentActions
    · rw [if_pos hindependent] at h
      cases h
      constructor
      · rintro ⟨heq, _⟩
        exact heq
      · intro heq
        cases heq
        exact ⟨rfl, .inl hindependent⟩
    · rw [if_neg hindependent] at h
      cases hvalue : (facts.fact .implementationAuthority).knownMapping with
      | none =>
        rw [hvalue] at h
        cases h
        refine iff_of_false ?_ (by simp)
        rintro ⟨heq, hmember | ⟨value, hnone, _⟩⟩
        · cases heq
          exact hindependent hmember
        · cases hnone
      | some value =>
        rw [hvalue] at h
        rcases bind_eq_ok.mp h with ⟨valid, hvalid, hscheduled⟩
        cases hscheduled
        constructor
        · rintro ⟨heq, hmember | ⟨other, hother, hlease⟩⟩
          · cases heq
            exact absurd hmember hindependent
          · cases hother
            have hboth := hvalid.symm.trans hlease
            cases hboth
            exact heq
        · intro heq
          cases valid with
          | false => cases heq
          | true =>
            cases heq
            exact ⟨rfl, .inr ⟨value, rfl, hvalid⟩⟩

theorem implementationDecision_cases (h : implementationDecision rt facts now = .ok given) :
    (exists job, (forall other, ActionScheduled rt facts now other ↔ other = job) ∧
      given.settled = true ∧ given.terms.starts = startJobs.contains job ∧
      given.terms.claimsLanding = false) ∨
    (submissionParked rt facts now ∧ given.settled = false ∧ given.terms.starts = false ∧
      given.terms.claimsLanding = false) ∨
    (¬ submissionParked rt facts now ∧ (forall job, ¬ ActionScheduled rt facts now job) ∧
      given.terms.ordinary (!given.prerequisites.isEmpty) = true) := by
  rcases bind_eq_ok.mp h with ⟨scheduled, hscheduled, hrest⟩
  have hiff := scheduledFor_iff hscheduled
  cases scheduled with
  | some job =>
    cases hrest
    refine .inl ⟨job, ?_, rfl, ?_, rfl⟩
    · intro other
      rw [hiff other, Option.some_inj]
      exact eq_comm
    · show (startJobs.contains job || false || _) = _
      simp [claimActions]
  | none =>
    have hnone : forall job, ¬ ActionScheduled rt facts now job := by
      intro job hjob
      cases (hiff job).mp hjob
    by_cases hparked : startsWith "accepted_submission_"
        (submissionRecoveryState rt (facts.fact .config).knownMapping) = true
    · simp only [if_pos hparked] at hrest
      cases hrest
      exact .inr (.inl ⟨⟨hnone, hparked⟩, rfl, rfl, rfl⟩)
    · simp only [if_neg hparked] at hrest
      refine .inr (.inr ⟨fun hp => hparked hp.right, hnone, ?_⟩)
      cases hvalue : (facts.fact .implementationAuthority).knownMapping with
      | none =>
        rw [hvalue] at hrest
        exact shows_factWait (fun _ => rfl) given hrest
      | some value =>
        rw [hvalue] at hrest
        exact shows_authorityDecision given hrest

theorem implementation_settled_iff (h : implementationDecision rt facts now = .ok given) :
    given.settled = true ↔ ¬ submissionParked rt facts now := by
  rcases implementationDecision_cases h with
    ⟨job, hjob, hsettled, _⟩ | ⟨hparked, hsettled, _⟩ | ⟨hparked, _, hordinary⟩
  · have hnot : ¬ submissionParked rt facts now := by
      rintro ⟨hnone, _⟩
      exact hnone job ((hjob job).mpr rfl)
    simp [hsettled, hnot]
  · simp [hsettled, hparked]
  · simp [Answer.settled_of_ordinary hordinary, hparked]

theorem implementation_starts_iff (h : implementationDecision rt facts now = .ok given) :
    given.terms.starts = true ↔ startScheduled rt facts now := by
  unfold startScheduled
  rcases implementationDecision_cases h with
    ⟨job, hjob, _, hstarts, _⟩ | ⟨⟨hnone, _⟩, _, hstarts, _⟩ | ⟨_, hnone, hordinary⟩
  · rw [hstarts]
    simp [hjob]
  · rw [hstarts]
    simp [hnone]
  · rw [Terms.starts_of_ordinary hordinary]
    simp [hnone]

theorem implementation_reassess (h : implementationDecision rt facts now = .ok given) :
    given.terms.reassess = true ∧ given.terms.Agrees := by
  rcases bind_eq_ok.mp h with ⟨scheduled, _, hrest⟩
  cases scheduled with
  | some job =>
    rw [terms_of_answer hrest]
    exact ⟨rfl, Terms.agrees_of_quiet rfl rfl⟩
  | none =>
    dsimp only at hrest
    split at hrest
    · rw [terms_of_answer hrest]
      exact ⟨rfl, Terms.agrees_of_quiet rfl rfl⟩
    · have hordinary : given.terms.ordinary (!given.prerequisites.isEmpty) = true := by
        split at hrest
        · exact shows_factWait (fun _ => rfl) given hrest
        · exact shows_authorityDecision given hrest
      exact ⟨Terms.reassess_of_modest (Terms.modest_of_ordinary hordinary),
        Answer.agrees_of_settled (Answer.settled_of_ordinary hordinary)⟩

theorem implementation_claimsLanding (h : implementationDecision rt facts now = .ok given) :
    given.terms.claimsLanding = false := by
  rcases implementationDecision_cases h with
    ⟨_, _, _, _, hclaims⟩ | ⟨_, _, _, hclaims⟩ | ⟨_, _, hordinary⟩
  · exact hclaims
  · exact hclaims
  · exact Terms.claimsLanding_of_modest (Terms.modest_of_ordinary hordinary)

theorem shows_validationDecision : Shows Terms.ordinary (validationDecision rt facts now) := by
  unfold validationDecision
  split
  · exact shows_factWait fun _ => rfl
  · apply shows_ite
    · intro _
      exact shows_answer rfl
    · intro _
      apply shows_ite
      · intro _
        exact shows_answer rfl
      · intro _
        apply shows_ite
        · intro _
          apply shows_bind
          intro live _
          apply shows_ite
          · intro _
            exact shows_answer rfl
          · intro _
            exact shows_answer rfl
        · intro _
          apply shows_answer
          split
          · rfl
          · rfl

end Answers

/-!
# What is refused
-/

section Refusals

variable {rt : Runtime} {facts : WorkflowFacts} {now : Instant}

/-- The pending action needs a lease whose expiry overflows. -/
def pendingLeaseOverflows (rt : Runtime) (configValue authorityValue : Option Mapping) : Bool :=
  match pendingAction rt configValue, authorityValue with
  | some job, some value =>
    !authorityIndependentActions.contains job && leaseOverflows rt value
  | _, _ => false

/-- No job is active and the lease overflows. -/
def liveFault (rt : Runtime) (value : Mapping) : Bool :=
  !validActiveJob rt value && leaseOverflows rt value

/-- The authority record holds a state without a hash, or a lease that overflows. -/
def authorityFault (rt : Runtime) (value : Mapping) : Bool :=
  if (value.get "transition_pending").truthy then
    if (value.get "state").equalsText "retry_wait" then false
    else if (value.get "state").hashable then
      !(["submitted", "revoked", "completed"].any (value.get "state").equalsText) &&
        liveFault rt value
    else true
  else liveFault rt value

def implementationFault (rt : Runtime) (facts : WorkflowFacts) (now : Instant) : Prop :=
  pendingLeaseOverflows rt (facts.fact .config).knownMapping
      (facts.fact .implementationAuthority).knownMapping = true ∨
    ((forall job, ¬ ActionScheduled rt facts now job) ∧ ¬ submissionParked rt facts now ∧
      (facts.fact .implementationAuthority).knownMapping.any (authorityFault rt) = true)

theorem returns_scheduledAction {configValue authorityValue : Option Mapping} :
    Returns (scheduledAction rt configValue authorityValue now) ↔
      pendingLeaseOverflows rt configValue authorityValue = false := by
  unfold scheduledAction pendingLeaseOverflows
  cases pendingAction rt configValue with
  | none => simp
  | some job =>
    by_cases hjob : job ∈ authorityIndependentActions
    · cases authorityValue with
      | none => simp [hjob]
      | some value => simp [hjob]
    · cases authorityValue with
      | none => simp [hjob]
      | some value =>
        simp only [if_neg hjob]
        rw [returns_bind_of_total (fun _ _ => returns_ok), returns_validLease]
        simp [hjob]

theorem returns_liveWork_iff {value : Mapping} :
    Returns (liveWork rt value now) ↔ liveFault rt value = false := by
  rw [returns_liveWork]
  unfold liveFault
  cases validActiveJob rt value with
  | false => simp
  | true => simp

theorem returns_liveAuthorityDecision {configValue : Option Mapping} {value : Mapping} :
    Returns (liveAuthorityDecision rt configValue value now) ↔ liveFault rt value = false := by
  unfold liveAuthorityDecision
  rw [returns_bind_of_total, returns_liveWork_iff]
  intro live _
  rw [returns_ite]
  exact ⟨fun _ => returns_answer_nil, fun _ => returns_answer_nil⟩

theorem returns_authorityDecision {configValue : Option Mapping} {value : Mapping} :
    Returns (authorityDecision rt configValue value now) ↔ authorityFault rt value = false := by
  unfold authorityDecision authorityFault handedOver
  cases hpending : (value.get "transition_pending").truthy with
  | false =>
    show Returns (liveAuthorityDecision rt configValue value now) ↔ _
    exact returns_liveAuthorityDecision
  | true =>
    cases hretry : (value.get "state").equalsText "retry_wait" with
    | true => exact iff_of_true returns_answer_nil rfl
    | false =>
      cases hhash : (value.get "state").hashable with
      | false => exact iff_of_false not_returns_error (by simp)
      | true =>
        cases hover : ["submitted", "revoked", "completed"].any (value.get "state").equalsText with
        | true => exact iff_of_true returns_answer_nil rfl
        | false =>
          show Returns (liveAuthorityDecision rt configValue value now) ↔ _
          exact returns_liveAuthorityDecision

theorem returns_implementationDecision :
    Returns (implementationDecision rt facts now) ↔ ¬ implementationFault rt facts now := by
  unfold implementationFault
  rw [not_or, Bool.not_eq_true, ← returns_scheduledAction]
  unfold implementationDecision
  rw [returns_bind]
  constructor
  · rintro ⟨scheduled, hscheduled, hrest⟩
    refine ⟨⟨scheduled, hscheduled⟩, ?_⟩
    rintro ⟨hnone, hparked, hfault⟩
    have heq : scheduled = none := by
      rw [Option.eq_none_iff_forall_ne_some]
      intro job hjob
      exact hnone job ((scheduledFor_iff hscheduled job).mpr hjob)
    subst heq
    have hstart : ¬ startsWith "accepted_submission_"
        (submissionRecoveryState rt (facts.fact .config).knownMapping) = true :=
      fun h => hparked ⟨hnone, h⟩
    simp only [if_neg hstart] at hrest
    cases hvalue : (facts.fact .implementationAuthority).knownMapping with
    | none =>
      rw [hvalue] at hfault
      cases hfault
    | some value =>
      rw [hvalue] at hfault hrest
      have hfine := returns_authorityDecision.mp hrest
      rw [Option.any_some, hfine] at hfault
      cases hfault
  · rintro ⟨⟨scheduled, hscheduled⟩, hfault⟩
    refine ⟨scheduled, hscheduled, ?_⟩
    cases scheduled with
    | some job => exact returns_answer_nil
    | none =>
      have hnone : forall job, ¬ ActionScheduled rt facts now job := by
        intro job hjob
        cases (scheduledFor_iff hscheduled job).mp hjob
      show Returns (if _ then _ else _)
      rw [returns_ite]
      refine ⟨fun _ => returns_answer_nil, fun hstart => ?_⟩
      cases hvalue : (facts.fact .implementationAuthority).knownMapping with
      | none => exact returns_factWait
      | some value =>
        refine returns_authorityDecision.mpr ?_
        cases hauthority : authorityFault rt value with
        | false => rfl
        | true =>
          refine absurd ⟨hnone, fun hp => hstart hp.right, ?_⟩ hfault
          rw [hvalue]
          exact hauthority

/-- The code of an audit that needs someone is blank, or its active lease overflows. -/
def validationFault (rt : Runtime) (value : Mapping) : Bool :=
  if (value.get "quarantined").truthy || (value.get "unsafe").truthy ||
      (value.get "action_required").truthy then rt.blank (value.get "action_code")
  else (value.get "phase").equalsText "active" && liveFault rt value

theorem returns_validationDecision : Returns (validationDecision rt facts now) ↔
      (facts.fact .terminalAudit).knownMapping.any (validationFault rt) = false := by
  have hcode : forall (terms : Terms) (v : Value) (default : String), strip default ≠ "" ->
      (Returns (answer terms [unmet (rt.str (v.orElse (.str default))) "terminal_audit" none]) ↔
        rt.blank v = false) := by
    intro terms v default hdefault
    have hsubject : strip "terminal_audit" ≠ "" := strip_ne_of_any rfl
    rw [returns_answer_single, returns_unmet, Ne, Runtime.strip_orElse hdefault]
    simp [hsubject]
  unfold validationDecision
  cases (facts.fact .terminalAudit).knownMapping with
  | none => exact iff_of_true returns_factWait rfl
  | some value =>
    show Returns _ ↔ validationFault rt value = false
    unfold validationFault
    by_cases hsafe : ((value.get "quarantined").truthy || (value.get "unsafe").truthy) = true
    · simp only [hsafe, Bool.true_or, if_true]
      exact hcode _ _ _ (strip_ne_of_any rfl)
    · by_cases hrequired : (value.get "action_required").truthy = true
      · simp only [hsafe, hrequired, Bool.or_true, if_true, Bool.false_eq_true, if_false]
        exact hcode _ _ _ (strip_ne_of_any rfl)
      · simp only [hsafe, hrequired, Bool.or_false, Bool.false_eq_true, if_false]
        cases hactive : (value.get "phase").equalsText "active" with
        | false => exact iff_of_true returns_answer_nil rfl
        | true =>
          show Returns (liveWork rt value now >>= _) ↔ liveFault rt value = false
          rw [returns_bind_of_total, returns_liveWork_iff]
          intro live _
          rw [returns_ite]
          exact ⟨fun _ => returns_answer_nil, fun _ => returns_answer_nil⟩

end Refusals
end TaskEvaluation
end Oompah
