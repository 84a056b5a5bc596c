import Oompah.TaskEvaluation.Answers

/-!
# What the evaluator refuses

The evaluator raises for evidence that names a blank text where a prerequisite needs one,
for values without a hash, and for times that no year from 1 to 9999 has.  Apart from these
it returns a decision.
-/

namespace Oompah
namespace TaskEvaluation

open Foundation
open TaskTransitions (Status)

/-- The task fact is of a task whose identifier is blank and not empty. -/
def IdentifierBlank (rt : Runtime) (view : TaskView) (facts : WorkflowFacts) : Prop :=
  identityMismatch view facts = false ∧ view.status.lifecycleFinal = false ∧
    exists value, (facts.fact .task).knownMapping = some value ∧
      factIdentifier rt value ≠ "" ∧ strip (factIdentifier rt value) = ""

/-- The status of the task is looked at. -/
structure StatusRead (rt : Runtime) (view : TaskView) (facts : WorkflowFacts)
    (status : Status) : Prop where
  status : view.status = .canonical status
  live : view.status.lifecycleFinal = false
  agrees : SnapshotAgrees rt view facts
  unmarked : terminalProvenanceDecision rt view facts = none

/-- The publication of a direct helper has to be completed. -/
def HelperCompletes (rt : Runtime) (task : Task) (status : Status) (facts : WorkflowFacts) :
    Prop :=
  status ∈ completionStatuses ∧ exists record, integrationRecord facts = some record ∧
    (directEpicMaintenanceCompletionReady rt task record = .ok true ∨
      (directEpicMaintenanceHandoffReady rt task record = .ok true ∧
        (parentConvergenceUnproven status facts = true ∨ status = .readyToIntegrate)))

/-- The publication of a done helper is proven. -/
def HelperProven (rt : Runtime) (task : Task) (status : Status) (facts : WorkflowFacts) : Prop :=
  status = .done ∧ ¬ HelperCompletes rt task status facts ∧
    exists record, integrationRecord facts = some record ∧
      directEpicMaintenanceHandoffReady rt task record = .ok true

/-- A helper whose target names a resolution without a hash. -/
def HelperFault (rt : Runtime) (task : Task) (facts : WorkflowFacts) : Prop :=
  (integrationRecord facts).isSome = true ∧ resolutionUnhashable rt task = true

/-- The dependencies are waited for. -/
def DependenciesWaited (status : Status) (facts : WorkflowFacts) : Prop :=
  status ∈ dependencySensitive ∧
    dependenciesMalformed (facts.fact .dependencies).knownMapping = true

/-- The live work on a duplicate is looked at, and its lease overflows. -/
def DuplicateFault (rt : Runtime) (facts : WorkflowFacts) : Prop :=
  let config := (facts.fact .config).knownMapping
  pendingActionText rt config ≠ "worker_exit" ∧
    (rt.cleanLower ((config.getD []).get "duplicate_screening_state") == "checked" &&
      rt.cleanLower ((config.getD []).get "duplicate_screening_verdict") ==
        "duplicate_candidate") = false ∧
    (config.any fun value => (value.get "duplicate_screening_enabled").isFalse) = false ∧
    (facts.fact .duplicateInvestigation).knownMapping.any (liveFault rt) = true

/-- The evidence by which the status is answered is refused. -/
def StatusFault (rt : Runtime) (view : TaskView) (facts : WorkflowFacts) (now : Instant) :
    Status -> Prop
  | .inProgress => implementationFault rt facts now
  | .inReview => (facts.fact .reviewCi).knownMapping.any (reviewFault rt view facts) = true
  | .inValidation => (facts.fact .terminalAudit).knownMapping.any (validationFault rt) = true
  | .readyToIntegrate =>
    exists finish hardStart, prerequisites rt facts = .ok (finish, hardStart) ∧
      integrationFault rt view facts finish hardStart = true
  | .decomposed => (facts.fact .containment).knownMapping.any (rollupFault rt facts) = true
  | .duplicateCandidate => DuplicateFault rt facts
  | _ => False

/-- Why no answer is given. -/
inductive AnswerFault (rt : Runtime) (task : Task) (view : TaskView) (facts : WorkflowFacts)
    (now : Instant) : Prop
  | identifier (h : IdentifierBlank rt view facts)
  | helper (status : Status) (hread : StatusRead rt view facts status)
      (h : HelperFault rt task facts)
  | rollup (status : Status) (hread : StatusRead rt view facts status)
      (hcompletes : ¬ HelperCompletes rt task status facts)
      (hproven : ¬ HelperProven rt task status facts) (hrolls : rollsUp rt view status = true)
      (h : (facts.fact .containment).knownMapping.any (rollupFault rt facts) = true)
  | dependencies (status : Status) (hread : StatusRead rt view facts status)
      (hcompletes : ¬ HelperCompletes rt task status facts)
      (hproven : ¬ HelperProven rt task status facts) (hrolls : rollsUp rt view status = false)
      (hknown : ¬ DependenciesWaited status facts) (h : dependenciesBlank rt facts = true)
  | status (status : Status) (hread : StatusRead rt view facts status)
      (hcompletes : ¬ HelperCompletes rt task status facts)
      (hproven : ¬ HelperProven rt task status facts) (hrolls : rollsUp rt view status = false)
      (hknown : ¬ DependenciesWaited status facts) (h : StatusFault rt view facts now status)

section Refusals

variable {rt : Runtime} {task : Task} {view : TaskView} {facts : WorkflowFacts}
variable {now : Instant} {given : Answer} {status : Status}

theorem statusRead_iff (hstatus : view.status = .canonical status) :
    StatusRead rt view facts status ↔ identityDecision rt task view facts = none := by
  rw [identityDecision_eq_none hstatus]
  constructor
  · intro hread
    exact ⟨hread.live, hread.agrees, hread.unmarked⟩
  · rintro ⟨hlive, hagrees, hunmarked⟩
    exact ⟨hstatus, hlive, hagrees, hunmarked⟩

variable {x : Except PyError Answer}

theorem returns_identityDecision (htask : Named view.taskId)
    (hcustom : forall text, view.status = .custom text -> strip text ≠ "")
    (h : identityDecision rt task view facts = some x) :
    Returns x ↔ ¬ IdentifierBlank rt view facts := by
  have hcode : strip "evidence.identity_mismatch" ≠ "" := strip_ne_of_any rfl
  have hother : strip "evidence.task_fact_identity_mismatch" ≠ "" := strip_ne_of_any rfl
  have hchanged : strip "evidence.status_changed" ≠ "" := strip_ne_of_any rfl
  have hunknown : strip "workflow.unknown_status" ≠ "" := strip_ne_of_any rfl
  unfold identityDecision at h
  dsimp only at h
  unfold IdentifierBlank
  by_cases hmismatch : identityMismatch view facts = true
  · rw [if_pos hmismatch] at h
    rw [← Option.some.inj h, returns_answer_single, returns_unmet]
    exact iff_of_true ⟨hcode, htask.strip_ne⟩ fun hblank => by
      rw [hmismatch] at hblank
      cases hblank.left
  rw [if_neg hmismatch] at h
  by_cases hfinal : view.status.lifecycleFinal = true
  · rw [if_pos hfinal] at h
    rw [← Option.some.inj h]
    refine iff_of_true returns_answer_nil ?_
    rintro ⟨_, hlive, _⟩
    rw [hfinal] at hlive
    cases hlive
  rw [if_neg hfinal] at h
  cases hvalue : (facts.fact .task).knownMapping with
  | none =>
    rw [hvalue] at h
    rw [← Option.some.inj h]
    refine iff_of_true returns_factWait ?_
    rintro ⟨_, _, _, heq, _⟩
    cases heq
  | some value =>
    rw [hvalue] at h
    dsimp only at h
    have hread : identityMismatch view facts = false := by simpa using hmismatch
    have hlive : view.status.lifecycleFinal = false := by simpa using hfinal
    by_cases hdiffers : factIdentifier rt value ≠ facts.taskId ∨
        factProject rt facts value ≠ facts.projectId
    · rw [if_pos hdiffers] at h
      rw [← Option.some.inj h, returns_answer_single, returns_unmet]
      have hmissing : strip "missing" ≠ "" := strip_ne_of_any rfl
      by_cases hempty : factIdentifier rt value = ""
      · rw [if_pos hempty]
        refine iff_of_true ⟨hother, hmissing⟩ ?_
        rintro ⟨_, _, _, heq, hne, _⟩
        cases heq
        exact hne hempty
      · rw [if_neg hempty]
        constructor
        · rintro ⟨_, hnamed⟩ ⟨_, _, _, heq, _, hblank⟩
          cases heq
          exact hnamed hblank
        · intro hnot
          exact ⟨hother, fun hblank => hnot ⟨hread, hlive, value, rfl, hempty, hblank⟩⟩
    rw [if_neg hdiffers] at h
    push Not at hdiffers
    have hnamed : ¬ (identityMismatch view facts = false ∧ view.status.lifecycleFinal = false ∧
        exists other, some value = some other ∧ factIdentifier rt other ≠ "" ∧
          strip (factIdentifier rt other) = "") := by
      rintro ⟨_, _, _, heq, _, hblank⟩
      cases heq
      rw [hdiffers.left] at hblank
      exact facts.task_named.strip_ne hblank
    refine iff_of_true ?_ hnamed
    by_cases hstatus : canonicalizeStatus rt (value.get "status") ≠ view.status
    · rw [if_pos hstatus] at h
      rw [← Option.some.inj h, returns_answer_single, returns_unmet]
      exact ⟨hchanged, htask.strip_ne⟩
    rw [if_neg hstatus] at h
    cases hview : view.status with
    | canonical status =>
      rw [hview] at h
      rcases terminalProvenanceDecision_eq_some h with ⟨observed, heq⟩ | ⟨_, heq⟩
      · rw [heq]
        exact returns_invalidProvenance htask.strip_ne
      · rw [heq]
        exact returns_answer_nil
    | custom text =>
      rw [hview] at h
      rw [← Option.some.inj h, returns_answer_single, returns_unmet]
      exact ⟨hunknown, hcustom text hview⟩

variable {record : Mapping} {helper : Bool}

theorem completionReady_iff (h : isDirectEpicMaintenanceIssue rt task = .ok helper) :
    directEpicMaintenanceCompletionReady rt task record = .ok true ↔
      (helper && completionEvidence rt task record) = true := by
  unfold directEpicMaintenanceCompletionReady
  rw [h]
  show Except.ok (helper && completionEvidence rt task record) = Except.ok true ↔ _
  rw [Except.ok.injEq]

theorem handoffReady_iff (h : isDirectEpicMaintenanceIssue rt task = .ok helper) :
    directEpicMaintenanceHandoffReady rt task record = .ok true ↔
      (helper && handoffEvidence rt task record) = true := by
  unfold directEpicMaintenanceHandoffReady
  rw [h]
  show Except.ok (helper && handoffEvidence rt task record) = Except.ok true ↔ _
  rw [Except.ok.injEq]

/-- What a helper is told by, once it is known whether the task is one. -/
theorem helperCompletes_iff (hrecord : integrationRecord facts = some record)
    (h : isDirectEpicMaintenanceIssue rt task = .ok helper) :
    HelperCompletes rt task status facts ↔ status ∈ completionStatuses ∧
      (helper && completionEvidence rt task record ||
        (helper && handoffEvidence rt task record && parentConvergenceUnproven status facts) ||
        (decide (status = .readyToIntegrate) && (helper && handoffEvidence rt task record))) =
          true := by
  unfold HelperCompletes
  simp only [hrecord, Option.some.injEq, exists_eq_left', completionReady_iff h,
    handoffReady_iff h, Bool.or_eq_true, Bool.and_eq_true, decide_eq_true_eq]
  tauto

theorem helperProven_iff (hrecord : integrationRecord facts = some record)
    (h : isDirectEpicMaintenanceIssue rt task = .ok helper) :
    HelperProven rt task status facts ↔ status = .done ∧ ¬ HelperCompletes rt task status facts ∧
        (helper && handoffEvidence rt task record) = true := by
  unfold HelperProven
  simp only [hrecord, Option.some.injEq, exists_eq_left', handoffReady_iff h]

theorem maintenanceDecision_cases (hfault : ¬ HelperFault rt task facts) :
    (maintenanceDecision rt task status facts = .ok none ∧
      ¬ HelperCompletes rt task status facts ∧ ¬ HelperProven rt task status facts) ∨
    (exists given, maintenanceDecision rt task status facts = .ok (some (.ok given)) ∧
      given.terms.reassess = true ∧
      HelperCompletes rt task status facts ∧ ¬ HelperProven rt task status facts) ∨
    (exists given, maintenanceDecision rt task status facts = .ok (some (.ok given)) ∧
      given.terms.reassess = false ∧
      ¬ HelperCompletes rt task status facts ∧ HelperProven rt task status facts) := by
  unfold maintenanceDecision
  cases hrecord : integrationRecord facts with
  | none =>
    refine .inl ⟨rfl, ?_, ?_⟩
    · rintro ⟨_, record, hsome, _⟩
      rw [hrecord] at hsome
      cases hsome
    · rintro ⟨_, _, record, hsome, _⟩
      rw [hrecord] at hsome
      cases hsome
  | some record =>
    have hhashable : resolutionUnhashable rt task = false := by
      rw [← Bool.not_eq_true]
      intro hunhashable
      exact hfault ⟨by rw [hrecord]; rfl, hunhashable⟩
    rcases (returns_isDirectEpicMaintenanceIssue rt).mpr hhashable with ⟨helper, hhelper⟩
    have hcompletes : HelperCompletes rt task status facts ↔ _ :=
      helperCompletes_iff hrecord hhelper
    have hproven : HelperProven rt task status facts ↔ _ := helperProven_iff hrecord hhelper
    dsimp only
    rw [hhelper]
    dsimp only [bind, Except.bind]
    by_cases hc : HelperCompletes rt task status facts
    · rw [if_pos (hcompletes.mp hc)]
      exact .inr (.inl ⟨_, rfl, rfl, hc, fun hp => (hproven.mp hp).right.left hc⟩)
    · rw [if_neg (fun h => hc (hcompletes.mpr h))]
      by_cases hp : HelperProven rt task status facts
      · have hdone := hproven.mp hp
        rw [if_pos ⟨hdone.left, hdone.right.right⟩]
        exact .inr (.inr ⟨_, rfl, rfl, hc, hp⟩)
      · rw [if_neg (fun h => hp (hproven.mpr ⟨h.left, hc, h.right⟩))]
        exact .inl ⟨rfl, hc, hp⟩

/-!
# Past the maintenance of helpers
-/

theorem dependencyGate_eq_none :
    dependencyGate status facts = none ↔ ¬ DependenciesWaited status facts := by
  unfold dependencyGate DependenciesWaited FactObservation.knownMapping
  dsimp only
  by_cases hsensitive : status ∈ dependencySensitive
  · rw [if_pos hsensitive]
    by_cases hstate : (facts.fact .dependencies).state = .known
    · rw [if_neg (not_not.mpr hstate), if_pos hstate]
      by_cases hmalformed : dependenciesMalformed (facts.fact .dependencies).value.mapping? = true
      · rw [if_pos hmalformed]
        simp [hsensitive, hmalformed]
      · rw [if_neg hmalformed]
        simp [hmalformed]
    · rw [if_pos hstate, if_neg hstate]
      simp [hsensitive, dependenciesMalformed]
  · rw [if_neg hsensitive]
    simp [hsensitive]

theorem returns_dependencyGate (h : dependencyGate status facts = some x) : Returns x := by
  unfold dependencyGate at h
  dsimp only at h
  split at h
  · split at h
    · exact Option.some.inj h ▸ returns_factWait
    · split at h
      · rw [← Option.some.inj h, returns_answer_single, returns_unmet]
        decide +kernel
      · cases h
  · cases h

theorem returns_handoffReady (hfault : ¬ HelperFault rt task facts) :
    Returns (handoffReady rt task facts) := by
  unfold handoffReady
  cases hrecord : integrationRecord facts with
  | none => exact returns_ok
  | some record =>
    apply (returns_bind_of_total fun _ _ => returns_ok).mpr
    rw [returns_isDirectEpicMaintenanceIssue, ← Bool.not_eq_true]
    intro hunhashable
    exact hfault ⟨by rw [hrecord]; rfl, hunhashable⟩

theorem returns_dispatchDecision {hardStart : List UnmetPrerequisite}
    (hfault : ¬ HelperFault rt task facts) :
    Returns (dispatchDecision rt task status facts hardStart) := by
  have hcode : strip "implementation.submission_recovery_parked" ≠ "" := strip_ne_of_any rfl
  unfold dispatchDecision
  rw [returns_bind_of_total]
  · exact returns_handoffReady hfault
  intro ready _
  simp only [returns_ite, returns_answer_nil, returns_answer_constructed, returns_answer_single,
    returns_unmet, implies_true, and_true, true_and]
  intro _ _ _ hparked
  refine ⟨hcode, ?_⟩
  intro hblank
  have hnamed : strip (submissionRecoveryState rt (facts.fact .config).knownMapping) =
      submissionRecoveryState rt (facts.fact .config).knownMapping := Runtime.strip_clean _
  rw [hnamed] at hblank
  rw [hblank] at hparked
  exact absurd hparked (by decide +kernel)

theorem returns_duplicateDecision :
    Returns (duplicateDecision rt facts now) ↔ ¬ DuplicateFault rt facts := by
  have hinvestigation : Returns (investigationDecision rt facts now) ↔
      (facts.fact .duplicateInvestigation).knownMapping.any (liveFault rt) = false := by
    unfold investigationDecision
    rw [returns_bind_of_total]
    · unfold investigationLive
      cases (facts.fact .duplicateInvestigation).knownMapping with
      | none => exact iff_of_true returns_ok rfl
      | some value => exact returns_liveWork_iff
    · intro live _
      rw [returns_ite]
      exact ⟨fun _ => returns_answer_nil, fun _ => returns_answer_nil⟩
  unfold duplicateDecision DuplicateFault
  simp only [returns_ite, returns_answer_nil, implies_true, true_and, hinvestigation]
  simp only [not_and, Bool.not_eq_true, ne_eq]

/-- The evidence by which a status is answered is refused only for its own fault. -/
theorem returns_statusDecision {finish hardStart : List UnmetPrerequisite}
    (hview : taskView rt task = .ok view) (htask : Named view.taskId)
    (hread : StatusRead rt view facts status) (hfault : ¬ HelperFault rt task facts)
    (hprerequisites : prerequisites rt facts = .ok (finish, hardStart)) :
    Returns (statusDecision rt task view status facts now finish hardStart) ↔
      ¬ StatusFault rt view facts now status := by
  have hlive := hread.live
  rw [hread.status] at hlive
  cases status with
  | proposed => exact iff_of_true returns_answer_nil id
  | backlog => exact iff_of_true returns_answer_nil id
  | needsAnswer => exact iff_of_true returns_answer_nil id
  | needsHuman => exact iff_of_true returns_answer_nil id
  | «open» => exact iff_of_true (returns_dispatchDecision hfault) id
  | needsCiFix => exact iff_of_true (returns_dispatchDecision hfault) id
  | needsRebase => exact iff_of_true (returns_dispatchDecision hfault) id
  | inProgress => exact returns_implementationDecision
  | inReview =>
    show Returns (reviewDecision rt view facts) ↔ ¬ (_ = true)
    rw [returns_reviewDecision, Bool.not_eq_true]
  | inValidation =>
    show Returns (validationDecision rt facts now) ↔ ¬ (_ = true)
    rw [returns_validationDecision, Bool.not_eq_true]
  | readyToIntegrate =>
    show Returns (integrationDecision rt view facts now finish hardStart) ↔ ¬ (exists _ _, _)
    rw [returns_integrationDecision htask.strip_ne, hprerequisites]
    constructor
    · rintro hnot ⟨_, _, heq, hintegration⟩
      cases heq
      rw [hnot] at hintegration
      cases hintegration
    · intro hnot
      rw [← Bool.not_eq_true]
      exact fun hintegration => hnot ⟨finish, hardStart, rfl, hintegration⟩
  | decomposed =>
    show Returns (rollupDecision rt view facts) ↔ ¬ (_ = true)
    rw [returns_rollupDecision htask.strip_ne, Bool.not_eq_true]
  | duplicateCandidate =>
    show Returns (duplicateDecision rt facts now) ↔ ¬ DuplicateFault rt facts
    exact returns_duplicateDecision
  | done =>
    rcases taskView_eq_ok hview with ⟨_, hparent, htarget⟩
    exact iff_of_true (returns_landingDecision hparent htarget) id
  | merged => cases hlive
  | archived => cases hlive

theorem identityDecision_custom {text : String} (hcustom : view.status = .custom text) :
    identityDecision rt task view facts ≠ none := by
  unfold identityDecision
  dsimp only
  rw [hcustom]
  intro h
  split at h
  · cases h
  split at h
  · cases h
  split at h
  · cases h
  split at h
  · cases h
  split at h
  · cases h
  · cases h

theorem not_identifierBlank (hread : StatusRead rt view facts status) :
    ¬ IdentifierBlank rt view facts := by
  rintro ⟨_, _, value, hvalue, _, hblank⟩
  rcases hread.agrees with ⟨_, other, hother, hidentifier, _⟩
  rw [hvalue] at hother
  cases hother
  rw [hidentifier] at hblank
  exact facts.task_named.strip_ne hblank

/-- What is refused once the status is read, of a task that is no faulty helper. -/
theorem answerFault_iff (hread : StatusRead rt view facts status)
    (hhelper : ¬ HelperFault rt task facts) :
    AnswerFault rt task view facts now ↔
      ¬ HelperCompletes rt task status facts ∧ ¬ HelperProven rt task status facts ∧
        ((rollsUp rt view status = true ∧
            (facts.fact .containment).knownMapping.any (rollupFault rt facts) = true) ∨
          (rollsUp rt view status = false ∧ ¬ DependenciesWaited status facts ∧
            (dependenciesBlank rt facts = true ∨ StatusFault rt view facts now status))) := by
  have hsame : forall other, StatusRead rt view facts other -> other = status := by
    intro other hother
    have heq := hother.status.symm.trans hread.status
    cases heq
    rfl
  constructor
  · intro h
    cases h with
    | identifier h => exact absurd h (not_identifierBlank hread)
    | helper other hother h => exact absurd h hhelper
    | rollup other hother hcompletes hproven hrolls h =>
      cases hsame other hother
      exact ⟨hcompletes, hproven, .inl ⟨hrolls, h⟩⟩
    | dependencies other hother hcompletes hproven hrolls hknown h =>
      cases hsame other hother
      exact ⟨hcompletes, hproven, .inr ⟨hrolls, hknown, .inl h⟩⟩
    | status other hother hcompletes hproven hrolls hknown h =>
      cases hsame other hother
      exact ⟨hcompletes, hproven, .inr ⟨hrolls, hknown, .inr h⟩⟩
  · rintro ⟨hcompletes, hproven, ⟨hrolls, h⟩ | ⟨hrolls, hknown, h | h⟩⟩
    · exact .rollup status hread hcompletes hproven hrolls h
    · exact .dependencies status hread hcompletes hproven hrolls hknown h
    · exact .status status hread hcompletes hproven hrolls hknown h

theorem not_returns_of_helperFault (h : HelperFault rt task facts) :
    ¬ Returns (maintenanceDecision rt task status facts) := by
  rcases h with ⟨hrecord, hunhashable⟩
  rcases Option.isSome_iff_exists.mp hrecord with ⟨record, hrecord⟩
  rintro ⟨maintenance, hmaintenance⟩
  unfold maintenanceDecision at hmaintenance
  rw [hrecord] at hmaintenance
  rcases bind_eq_ok.mp hmaintenance with ⟨helper, hdirect, _⟩
  have hreturns := (returns_isDirectEpicMaintenanceIssue rt).mp ⟨helper, hdirect⟩
  rw [hunhashable] at hreturns
  cases hreturns

/-- Once the status is read, an answer is refused for what is read after it. -/
theorem returns_contractDecision (hview : taskView rt task = .ok view)
    (htask : Named view.taskId) (hread : StatusRead rt view facts status) :
    Returns (contractDecision rt task view status facts now) ↔
      ¬ AnswerFault rt task view facts now := by
  by_cases hhelper : HelperFault rt task facts
  · refine iff_of_false ?_ (not_not.mpr (.helper status hread hhelper))
    intro hreturns
    rcases returns_bind.mp hreturns with ⟨maintenance, hmaintenance, _⟩
    exact not_returns_of_helperFault hhelper ⟨maintenance, hmaintenance⟩
  rw [answerFault_iff hread hhelper]
  unfold contractDecision
  rcases maintenanceDecision_cases hhelper with
    ⟨hnone, hcompletes, hproven⟩ | ⟨given, hsome, _, hcompletes, _⟩ | ⟨given, hsome, _, _, hproven⟩
  · rw [hnone]
    show Returns (if _ then _ else _) ↔ _
    cases hrolls : rollsUp rt view status with
    | true =>
      rw [if_pos rfl, returns_rollupDecision htask.strip_ne]
      simp [hcompletes, hproven]
    | false =>
      rw [if_neg Bool.false_ne_true]
      cases hgate : dependencyGate status facts with
      | some x =>
        have hwaited : DependenciesWaited status facts := by
          by_contra hnot
          rw [dependencyGate_eq_none.mpr hnot] at hgate
          cases hgate
        refine iff_of_true (returns_dependencyGate hgate) ?_
        simp [hwaited]
      | none =>
        have hknown := dependencyGate_eq_none.mp hgate
        simp only [hcompletes, hproven, hknown, Bool.false_eq_true, false_and, false_or,
          not_false_eq_true, true_and, not_or, Bool.not_eq_true]
        rw [← returns_prerequisites, returns_bind]
        constructor
        · rintro ⟨⟨finish, hardStart⟩, hpre, hrest⟩
          exact ⟨⟨_, hpre⟩, (returns_statusDecision hview htask hread hhelper hpre).mp hrest⟩
        · rintro ⟨⟨⟨finish, hardStart⟩, hpre⟩, hfault⟩
          exact ⟨_, hpre, (returns_statusDecision hview htask hread hhelper hpre).mpr hfault⟩
  · rw [hsome]
    exact iff_of_true ⟨given, rfl⟩ fun hboth => hboth.left hcompletes
  · rw [hsome]
    exact iff_of_true ⟨given, rfl⟩ fun hboth => hboth.right.left hproven

/-- An answer is given unless evidence that is read for it is refused. -/
theorem returns_taskAnswer (hview : taskView rt task = .ok view) (htask : Named view.taskId) :
    Returns (taskAnswer rt task view facts now) ↔ ¬ AnswerFault rt task view facts now := by
  unfold taskAnswer
  cases hearly : identityDecision rt task view facts with
  | some x =>
    have hcustom : forall text, view.status = .custom text -> strip text ≠ "" :=
      fun text => taskView_custom_named hview
    show Returns x ↔ _
    rw [returns_identityDecision htask hcustom hearly, not_iff_not]
    have hunread : forall status, ¬ StatusRead rt view facts status := by
      intro status hread
      rw [(statusRead_iff hread.status).mp hread] at hearly
      cases hearly
    constructor
    · exact .identifier
    · intro h
      cases h with
      | identifier h => exact h
      | helper status hread => exact absurd hread (hunread status)
      | rollup status hread => exact absurd hread (hunread status)
      | dependencies status hread => exact absurd hread (hunread status)
      | status status hread => exact absurd hread (hunread status)
  | none =>
    cases hstatus : view.status with
    | custom text => exact absurd hearly (identityDecision_custom hstatus)
    | canonical status =>
      exact returns_contractDecision hview htask ((statusRead_iff hstatus).mpr hearly)

end Refusals

/-!
# When the task is looked at again
-/

/-- The task is not looked at again: a marker answers for it, or its publication is
proven. -/
def NotReassessed (rt : Runtime) (task : Task) (view : TaskView) (facts : WorkflowFacts) : Prop :=
  SnapshotAgrees rt view facts ∧ (terminalProvenanceDecision rt view facts ≠ none ∨
      exists status, view.status = .canonical status ∧ HelperProven rt task status facts)

/-- The time at which the task is looked at again has a year up to 9999. -/
def DueFits (facts : WorkflowFacts) (policy : LivenessPolicy) (key : SloKey) : Prop :=
  facts.collectedAt + policy.maxReassessmentSeconds key * 1000000 ≤ maxInstant

section Reassessment

variable {rt : Runtime} {task : Task} {view : TaskView} {facts : WorkflowFacts}
variable {now : Instant} {given : Answer} {status : Status}

theorem reassess_of_modest (h : given.terms.modest (!given.prerequisites.isEmpty) = true) :
    given.terms.reassess = true ∧ given.terms.Agrees :=
  ⟨Terms.reassess_of_modest h, Answer.agrees_of_settled (Answer.settled_of_modest h)⟩

theorem reassess_of_ordinary (h : given.terms.ordinary (!given.prerequisites.isEmpty) = true) :
    given.terms.reassess = true ∧ given.terms.Agrees :=
  reassess_of_modest (Terms.modest_of_ordinary h)

theorem rollupDecision_reassess (h : rollupDecision rt view facts = .ok given) :
    given.terms.reassess = true ∧ given.terms.Agrees := by
  rcases rollupDecision_cases h with ⟨_, heq⟩ | ⟨_, hmodest⟩
  · rw [heq]
    exact ⟨rfl, by decide⟩
  · exact reassess_of_modest hmodest

/-- A task that is answered by its status is looked at again. -/
theorem statusDecision_reassess {finish hardStart : List UnmetPrerequisite}
    (h : statusDecision rt task view status facts now finish hardStart = .ok given) :
    given.terms.reassess = true ∧ given.terms.Agrees := by
  have hanswer : forall {terms : Terms} {prerequisites : List (Except PyError UnmetPrerequisite)},
      answer terms prerequisites = .ok given -> terms.reassess = true ∧ terms.Agrees ->
        given.terms.reassess = true ∧ given.terms.Agrees := by
    intro terms prerequisites hgiven hterms
    rw [terms_of_answer hgiven]
    exact hterms
  cases status with
  | proposed => exact hanswer h ⟨rfl, by decide⟩
  | backlog => exact hanswer h ⟨rfl, by decide⟩
  | needsAnswer => exact hanswer h ⟨rfl, by decide⟩
  | needsHuman => exact hanswer h ⟨rfl, by decide⟩
  | «open» => exact reassess_of_modest (shows_dispatchDecision given h)
  | needsCiFix => exact reassess_of_modest (shows_dispatchDecision given h)
  | needsRebase => exact reassess_of_modest (shows_dispatchDecision given h)
  | inProgress => exact implementation_reassess h
  | inReview =>
    rcases reviewDecision_cases h with ⟨_, heq⟩ | ⟨_, hmodest⟩
    · rw [heq]
      exact ⟨rfl, Terms.agrees_of_quiet rfl rfl⟩
    · exact reassess_of_modest hmodest
  | inValidation => exact reassess_of_ordinary (shows_validationDecision given h)
  | readyToIntegrate => exact reassess_of_ordinary (shows_integrationDecision given h)
  | decomposed => exact rollupDecision_reassess h
  | duplicateCandidate =>
    have hduplicate : duplicateDecision rt facts now = .ok given := h
    exact reassess_of_modest (shows_duplicateDecision given hduplicate)
  | done =>
    rcases landingDecision_cases h with ⟨_, heq⟩ | ⟨_, hmodest⟩
    · rw [heq]
      exact ⟨rfl, Terms.agrees_of_quiet rfl rfl⟩
    · exact reassess_of_modest hmodest
  | merged => cases h
  | archived => cases h

/-- An early answer to a status with a bound is looked at again unless a marker gave it. -/
theorem early_reassess {x : Except PyError Answer} (hkey : view.status.sloKey.isSome = true)
    (h : identityDecision rt task view facts = some x) (hgiven : x = .ok given) :
    (given.terms.reassess = true ∧ ¬ SnapshotAgrees rt view facts) ∨
      (given.terms.reassess = false ∧ SnapshotAgrees rt view facts ∧
        terminalProvenanceDecision rt view facts ≠ none) := by
  have hterms : forall {terms : Terms} {prerequisites : List (Except PyError UnmetPrerequisite)},
      some (answer terms prerequisites) = some x -> given.terms = terms :=
    fun h => terms_of_answer ((Option.some.inj h).trans hgiven)
  unfold identityDecision at h
  dsimp only at h
  unfold SnapshotAgrees
  by_cases hmismatch : identityMismatch view facts = true
  · rw [if_pos hmismatch] at h
    rw [hterms h]
    refine .inl ⟨rfl, ?_⟩
    rintro ⟨hmatch, _⟩
    rw [hmismatch] at hmatch
    cases hmatch
  rw [if_neg hmismatch] at h
  by_cases hfinal : view.status.lifecycleFinal = true
  · cases hstatus : view.status with
    | canonical status =>
      rw [hstatus] at hfinal hkey
      rw [TaskStatus.sloKey_eq_none.mpr hfinal] at hkey
      cases hkey
    | custom text =>
      rw [hstatus] at hfinal
      cases hfinal
  rw [if_neg hfinal] at h
  cases hvalue : (facts.fact .task).knownMapping with
  | none =>
    rw [hvalue] at h
    have hwait := terms_of_answer ((Option.some.inj h).trans hgiven)
    refine .inl ⟨by rw [hwait], ?_⟩
    rintro ⟨_, _, heq, _⟩
    cases heq
  | some value =>
    rw [hvalue] at h
    dsimp only at h
    by_cases hdiffers : factIdentifier rt value ≠ facts.taskId ∨
        factProject rt facts value ≠ facts.projectId
    · rw [if_pos hdiffers] at h
      rw [hterms h]
      refine .inl ⟨rfl, ?_⟩
      rintro ⟨_, _, heq, hidentifier, hproject, _⟩
      cases heq
      rcases hdiffers with hne | hne
      · exact hne hidentifier
      · exact hne hproject
    rw [if_neg hdiffers] at h
    by_cases hchanged : canonicalizeStatus rt (value.get "status") ≠ view.status
    · rw [if_pos hchanged] at h
      rw [hterms h]
      refine .inl ⟨rfl, ?_⟩
      rintro ⟨_, _, heq, _, _, hsame⟩
      cases heq
      exact hchanged hsame
    rw [if_neg hchanged] at h
    push Not at hdiffers
    cases hstatus : view.status with
    | canonical status =>
      rw [hstatus] at h
      have hmarked : terminalProvenanceDecision rt view facts = some x := h
      refine .inr ⟨?_, ⟨by simpa using hmismatch, value, rfl, hdiffers.left,
        hdiffers.right, hstatus ▸ not_not.mp hchanged⟩, ?_⟩
      · rcases terminalProvenanceDecision_eq_some hmarked with ⟨observed, heq⟩ | ⟨_, heq⟩
        · rw [terms_of_answer (heq.symm.trans hgiven)]
        · rw [terms_of_answer (heq.symm.trans hgiven)]
      · rw [hmarked]
        simp
    | custom text =>
      rw [hstatus] at hkey
      cases hkey

theorem statusRead_of_early (hstatus : view.status = .canonical status)
    (hearly : identityDecision rt task view facts = none) : StatusRead rt view facts status :=
  (statusRead_iff hstatus).mpr hearly

/-- An answer agrees with its alert, and asks for the task to be looked at again unless a
marker gave it or a publication is proven. -/
theorem reassess_iff (hanswered : Answered rt task view facts now given)
    (hkey : view.status.sloKey.isSome = true) :
    given.terms.reassess = true ↔ ¬ NotReassessed rt task view facts := by
  have hlater : forall status, view.status = .canonical status ->
      identityDecision rt task view facts = none -> ¬ HelperProven rt task status facts ->
      ¬ NotReassessed rt task view facts := by
    rintro status hstatus hearly hproven ⟨_, hmarked | ⟨other, hother, hhelper⟩⟩
    · exact hmarked (statusRead_of_early hstatus hearly).unmarked
    · rw [hstatus] at hother
      cases hother
      exact hproven hhelper
  have hnone : forall status, maintenanceDecision rt task status facts = .ok none ->
      ¬ HelperProven rt task status facts := by
    intro status hmaintenance
    by_cases hhelper : HelperFault rt task facts
    · exact absurd ⟨_, hmaintenance⟩ (not_returns_of_helperFault hhelper)
    rcases maintenanceDecision_cases hhelper with
      ⟨_, _, hproven⟩ | ⟨_, hsome, _⟩ | ⟨_, hsome, _⟩
    · exact hproven
    · rw [hsome] at hmaintenance
      cases hmaintenance
    · rw [hsome] at hmaintenance
      cases hmaintenance
  cases hanswered with
  | early x hx hgiven =>
    rcases early_reassess hkey hx hgiven with ⟨hreassess, hagrees⟩ | ⟨hreassess, hagrees, hmarked⟩
    · exact iff_of_true hreassess fun hnot => hagrees hnot.left
    · rw [hreassess]
      exact iff_of_false Bool.false_ne_true (not_not.mpr ⟨hagrees, .inl hmarked⟩)
  | maintained status hstatus hearly x hx hgiven =>
    have hread := statusRead_of_early hstatus hearly
    have hhelper : ¬ HelperFault rt task facts :=
      fun hfault => not_returns_of_helperFault hfault ⟨_, hx⟩
    rcases maintenanceDecision_cases hhelper with
      ⟨hno, _⟩ | ⟨answered, hsome, hreassess, _, hproven⟩ | ⟨answered, hsome, hreassess, _, hproven⟩
    · rw [hx] at hno
      cases hno
    · rw [hx] at hsome
      cases hsome
      cases hgiven
      exact iff_of_true hreassess (hlater status hstatus hearly hproven)
    · rw [hx] at hsome
      cases hsome
      cases hgiven
      rw [hreassess]
      refine iff_of_false Bool.false_ne_true (not_not.mpr ⟨hread.agrees, .inr ?_⟩)
      exact ⟨status, hstatus, hproven⟩
  | rolledUp status hstatus hearly hmaintenance hrolls hgiven =>
    exact iff_of_true (rollupDecision_reassess hgiven).left
      (hlater status hstatus hearly (hnone status hmaintenance))
  | gated status hstatus hearly hmaintenance hrolls x hx hgiven =>
    exact iff_of_true (reassess_of_ordinary (shows_dependencyGate hx given hgiven)).left
      (hlater status hstatus hearly (hnone status hmaintenance))
  | dispatched status hstatus hearly hmaintenance hrolls hgate finish hardStart hpre hgiven =>
    exact iff_of_true (statusDecision_reassess hgiven).left
      (hlater status hstatus hearly (hnone status hmaintenance))

theorem agrees_of_answered (hanswered : Answered rt task view facts now given) :
    given.terms.Agrees := by
  have hplain : given.terms.plain (!given.prerequisites.isEmpty) = true -> given.terms.Agrees :=
    fun h => Answer.agrees_of_settled (Answer.settled_of_plain h)
  cases hanswered with
  | early x hx hgiven => exact hplain (shows_identityDecision hx given hgiven)
  | maintained status _ _ x hx hgiven => exact hplain (shows_maintenanceDecision hx given hgiven)
  | rolledUp status _ _ _ _ hgiven => exact (rollupDecision_reassess hgiven).right
  | gated status _ _ _ _ x hx hgiven =>
    exact (reassess_of_ordinary (shows_dependencyGate hx given hgiven)).right
  | dispatched status _ _ _ _ _ finish hardStart _ hgiven =>
    exact (statusDecision_reassess hgiven).right

end Reassessment

/-!
# What the evaluator returns
-/

section Totality

variable {rt : Runtime} {task : Task} {view : TaskView} {facts : WorkflowFacts}
variable {now : Instant} {given : Answer}

theorem returns_deadline {start : Instant} {seconds : Nat} :
    Returns (deadline start seconds) ↔ start + seconds * 1000000 ≤ maxInstant := by
  unfold deadline
  by_cases hfits : start + seconds * 1000000 ≤ maxInstant
  · rw [if_pos hfits]
    exact iff_of_true returns_ok hfits
  · rw [if_neg hfits]
    exact iff_of_false not_returns_error hfits

theorem returns_nextReassessmentAt : Returns (nextReassessmentAt view facts given.terms) ↔
      (given.terms.reassess = true -> forall key, view.status.sloKey = some key ->
        DueFits facts livenessSlos key) := by
  unfold nextReassessmentAt reassessment DueFits
  rw [returns_ite]
  cases hkey : view.status.sloKey with
  | none => simp
  | some key =>
    have hdue : Returns (do
        let due <- deadline facts.collectedAt (livenessSlos.maxReassessmentSeconds key)
        (.ok (some due) : Except PyError (Option Instant))) ↔
          facts.collectedAt + livenessSlos.maxReassessmentSeconds key * 1000000 ≤ maxInstant := by
      rw [returns_bind_of_total (fun _ _ => returns_ok), returns_deadline]
    simp [hdue]

variable {policy : LivenessPolicy}

/-- The due time of the default policy and that of the service both fit. -/
theorem returns_due {d : WorkDecision} (hd : Decided view given d) :
    Returns (match d.nextReassessmentAt, d.status.sloKey with
      | some _, some key => (do
          let due <- deadline facts.collectedAt (policy.maxReassessmentSeconds key)
          .ok { d with nextReassessmentAt := some due } : Except PyError WorkDecision)
      | _, _ => .ok d) ↔
      (given.terms.reassess = true -> forall key, view.status.sloKey = some key ->
        DueFits facts policy key) := by
  rw [hd.status]
  have hdue := hd.due
  cases hnext : d.nextReassessmentAt with
  | none =>
    rw [hnext] at hdue
    refine iff_of_true returns_ok ?_
    intro hreassess key hkey
    have hsome := hdue.mpr ⟨hreassess, by rw [hkey]; rfl⟩
    cases hsome
  | some next =>
    rw [hnext] at hdue
    rcases hdue.mp rfl with ⟨hreassess, hisSome⟩
    rcases Option.isSome_iff_exists.mp hisSome with ⟨key, hkey⟩
    rw [hkey]
    dsimp only
    rw [returns_bind_of_total (fun _ _ => returns_ok), returns_deadline]
    constructor
    · intro hfits _ other hother
      cases hother
      exact hfits
    · intro hfits
      exact hfits hreassess key rfl

/-- Once the task is read, a decision is returned exactly when an answer is given and the
time at which the task is looked at again fits. -/
theorem returns_evaluateTask_of_view {time : Option Instant}
    (hview : taskView rt task = .ok view) (htask : Named view.taskId) :
    Returns (evaluateTask rt task facts time policy) ↔
      ¬ AnswerFault rt task view facts (time.getD facts.collectedAt) ∧
        (¬ NotReassessed rt task view facts -> forall key, view.status.sloKey = some key ->
            DueFits facts livenessSlos key ∧ DueFits facts policy key) := by
  have hreassess : forall {given : Answer} {key : SloKey},
      Answered rt task view facts (time.getD facts.collectedAt) given ->
      view.status.sloKey = some key ->
      (given.terms.reassess = true ↔ ¬ NotReassessed rt task view facts) :=
    fun hanswered hkey => reassess_iff hanswered (by rw [hkey]; rfl)
  rw [← returns_taskAnswer hview htask]
  unfold evaluateTask evaluateTaskDefaultPolicy
  rw [hview]
  constructor
  · intro h
    rcases returns_bind.mp h with ⟨d, hfirst, hlast⟩
    rcases bind_eq_ok.mp hfirst with ⟨other, hother, hanswer⟩
    cases hother
    rcases bind_eq_ok.mp hanswer with ⟨given, hgiven, hdecision⟩
    have hanswered := answered_of_taskAnswer hgiven
    refine ⟨⟨given, hgiven⟩, ?_⟩
    intro hlooked key hkey
    have hagain := (hreassess hanswered hkey).mpr hlooked
    have hnext := (returns_decision (agrees_of_answered hanswered)).mp ⟨d, hdecision⟩
    constructor
    · exact returns_nextReassessmentAt.mp hnext hagain key hkey
    · exact (returns_due (decided_of_decision hview hdecision)).mp hlast hagain key hkey
  · rintro ⟨⟨given, hgiven⟩, hfits⟩
    have hanswered := answered_of_taskAnswer hgiven
    have hnext : Returns (decision rt view facts given) := by
      rw [returns_decision (agrees_of_answered hanswered), returns_nextReassessmentAt]
      intro hagain key hkey
      exact (hfits ((hreassess hanswered hkey).mp hagain) key hkey).left
    rcases hnext with ⟨d, hdecision⟩
    refine returns_bind.mpr ⟨d, ?_, ?_⟩
    · exact bind_eq_ok.mpr ⟨view, rfl, bind_eq_ok.mpr ⟨given, hgiven, hdecision⟩⟩
    · apply (returns_due (decided_of_decision hview hdecision)).mpr
      intro hagain key hkey
      exact (hfits ((hreassess hanswered hkey).mp hagain) key hkey).right

/-- The evaluator returns a decision for a mapping exactly when the mapping names a task, no
evidence that is read is refused, and the time at which the task is looked at again fits. -/
theorem returns_evaluateTask_iff {entries : Mapping} {time : Option Instant}
    {policy : LivenessPolicy} :
    Returns (evaluateTask rt (.mapping entries) facts time policy) ↔
      exists view, taskView rt (.mapping entries) = .ok view ∧
        ¬ AnswerFault rt (.mapping entries) view facts (time.getD facts.collectedAt) ∧
        (¬ NotReassessed rt (.mapping entries) view facts ->
          forall key, view.status.sloKey = some key ->
            DueFits facts livenessSlos key ∧ DueFits facts policy key) := by
  constructor
  · intro h
    rcases h with ⟨d, hd⟩
    rcases evaluateTask_eq_ok hd with ⟨view, _, hview, _⟩
    have hnamed := mapping_taskId_named hview
    exact ⟨view, hview, (returns_evaluateTask_of_view hview hnamed).mp ⟨d, hd⟩⟩
  · rintro ⟨view, hview, hfine⟩
    exact (returns_evaluateTask_of_view hview (mapping_taskId_named hview)).mpr hfine

end Totality

/-!
# A dependency with a blank identifier
-/

/-- The task `t`, open. -/
def openTask : Mapping :=
  [("identifier", .str "t"), ("status", .str "Open")]

/-- Its one dependency is open and has a blank identifier. -/
def blankObservations : FactDomain -> FactObservation
  | .task => .known (.mapping openTask) rfl
  | .dependencies =>
    .known (.mapping [("hard_start",
      .tuple [.mapping [("identifier", .str " "), ("status", .str "Open")]])]) rfl
  | _ => .missing

/-- An open task is not evaluated beside a dependency with a blank identifier. -/
theorem evaluateTask_blank_raises : (openTask.get "identifier").truthy = true ∧
      ¬ Returns (evaluateTask .ascii (.mapping openTask) (.unlanded blankObservations) none
        livenessSlos) := by
  refine ⟨by decide +kernel, ?_⟩
  apply not_returns_of_not_passes
  decide +kernel

end TaskEvaluation
end Oompah
