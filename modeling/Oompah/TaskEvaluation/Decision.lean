import Mathlib.Data.Finset.Dedup
import Mathlib.Data.Finset.Empty
import Oompah.Foundation.Outcomes
import Oompah.TaskEvaluation.Contract
import Oompah.TaskEvaluation.ReasonCodes

/-!
# Decisions

A decision answers for one exact revision of the facts what can make a task advance.
Its constructor refuses blank texts, unknown reason codes and an alert that does not
agree with its disposition.  Every evaluator ends with one call of `_decision`: what it
answers is the arguments of that call.
-/

namespace Oompah
namespace TaskEvaluation

open Foundation
open TaskTransitions (Status)

inductive TaskDisposition where
  | runnable
  | owned
  | blocked
  | retryScheduled
  | actionRequired
  | terminal
  deriving DecidableEq

inductive AlertSeverity where
  | none
  | info
  | warning
  | critical
  deriving DecidableEq

namespace AlertSeverity

def visible : AlertSeverity -> Bool
  | warning | critical => true
  | none | info => false

end AlertSeverity

inductive PermittedAction where
  | acceptIntake
  | promoteOpen
  | claimImplementation
  | waitDependency
  | recoverImplementation
  | continueImplementation
  | reconcileImplementation
  | answerRequest
  | resolveOperatorAction
  | claimRepair
  | refreshReview
  | mergeReview
  | routeCiFix
  | routeRebase
  | claimAudit
  | retryAudit
  | claimIntegration
  | reconcileTarget
  | rollupChildren
  | investigateDuplicate
  | refreshLanding
  | requestDone
  | requestMerged
  deriving DecidableEq

/-- The jobs a decision can ask for. -/
inductive DurableJob where
  | implementationStart
  | directOwnerClaim
  | duplicateScreening
  | focusHandoff
  | workerExit
  | validationSubmission
  | authorityRevocation
  | implementationRetry
  | implementationRecovery
  | reviewMonitor
  | reviewMerge
  | reviewRefresh
  | reviewCiRepair
  | reviewConflictRepair
  | reviewClosedRepair
  | reviewHeadReconciliation
  | reviewLandingRefresh
  | reviewTerminalStage
  | factsRefresh
  | dependencyRefresh
  | directEpicMaintenanceCompletion
  | terminalAudit
  | terminalAuditDone
  | terminalAuditRecovery
  | integrationAttempt
  | integrationRecovery
  | integrationTerminalStage
  | integrationLandingRefresh
  | standaloneDelivery
  | epicBranchReconciliation
  | rollupReconciliation
  | rollupReviewCreation
  | parentRollupReview
  | childLandingVerification
  | epicAutoClose
  | epicTerminalValidation
  deriving DecidableEq

/-- `IMPLEMENTATION_ACTION_JOBS`, by their texts. -/
def implementationActionJobs : List (String × DurableJob) :=
  [("implementation_start", .implementationStart), ("direct_owner_claim", .directOwnerClaim),
    ("duplicate_screening", .duplicateScreening), ("focus_handoff", .focusHandoff),
    ("worker_exit", .workerExit), ("validation_submission", .validationSubmission),
    ("authority_revocation", .authorityRevocation),
    ("implementation_retry", .implementationRetry),
    ("implementation_recovery", .implementationRecovery)]

/-!
# Prerequisites
-/

/-- A reason why an action cannot run. -/
structure UnmetPrerequisite where
  code : String
  subject : String
  observed : Option String
  code_named : Named code
  subject_named : Named subject

theorem named_strip {s : String} (h : strip s ≠ "") : Named (strip s) :=
  ⟨strip_strip s, h⟩

/-- `UnmetPrerequisite(code, subject, observed)`. -/
def unmet (code subject : String) (observed : Option String) :
    Except PyError UnmetPrerequisite :=
  if hcode : strip code = "" then .error (.valueError "code is required")
  else if hsubject : strip subject = "" then .error (.valueError "subject is required")
  else
    .ok {
      code := strip code
      subject := strip subject
      observed := (observed.map strip).filter fun text => text ≠ ""
      code_named := named_strip hcode
      subject_named := named_strip hsubject }

theorem returns_unmet {code subject : String} {observed : Option String} :
    Returns (unmet code subject observed) ↔ strip code ≠ "" ∧ strip subject ≠ "" := by
  unfold unmet
  by_cases hcode : strip code = ""
  · simp [hcode]
  · by_cases hsubject : strip subject = ""
    · simp [hcode, hsubject]
    · simp [hcode, hsubject]

/-!
# Decisions
-/

structure DecisionFields where
  projectId : String
  taskId : String
  status : TaskStatus
  disposition : TaskDisposition
  reasonCode : ReasonCode
  responsibleOwner : WorkflowOwner
  unmetPrerequisites : Multiset UnmetPrerequisite
  evidenceRevision : String
  nextReassessmentAt : Option Instant
  permittedActions : Finset PermittedAction
  actionRequired : Bool
  alertLevel : AlertSeverity
  durableJobs : Finset DurableJob
  recommendedStatus : Option TaskStatus

/-- What makes a task advance.  A sorted tuple of a set is the set, and a sorted tuple of
prerequisites is a multiset. -/
structure WorkDecision extends DecisionFields where
  project_named : Named projectId
  task_named : Named taskId
  reason_known : reasonCode.text ∈ knownDecisionReasonCodes
  evidence_named : Named evidenceRevision
  required_iff : actionRequired = true ↔ disposition = .actionRequired
  visible_iff : alertLevel.visible = true ↔ actionRequired = true

section Construction

variable (rt : Runtime)

/-- `WorkDecision.__post_init__`. -/
def DecisionFields.make (fields : DecisionFields) : Except PyError WorkDecision :=
  if hproject : strip fields.projectId = "" then
    .error (.valueError "project_id is required")
  else if htask : strip fields.taskId = "" then .error (.valueError "task_id is required")
  else if hreason : fields.reasonCode.text ∉ knownDecisionReasonCodes then
    .error (.valueError "unknown work-decision reason_code")
  else if hevidence : strip fields.evidenceRevision = "" then
    .error (.valueError "evidence_revision is required")
  else if hrequired : ¬ (fields.actionRequired = true ↔ fields.disposition = .actionRequired) then
    .error (.valueError "action_required must match ACTION_REQUIRED disposition")
  else if hhidden : fields.actionRequired = true ∧ ¬ fields.alertLevel.visible = true then
    .error (.valueError "action-required decisions must be visibly alerting")
  else if hnoisy : ¬ fields.actionRequired = true ∧ fields.alertLevel.visible = true then
    .error (.valueError "normal/recovery decisions cannot be warnings")
  else
    .ok {
      fields with
      projectId := strip fields.projectId
      taskId := strip fields.taskId
      status := canonicalizeStatus rt (.str fields.status.text)
      evidenceRevision := strip fields.evidenceRevision
      recommendedStatus :=
        fields.recommendedStatus.map fun status => canonicalizeStatus rt (.str status.text)
      project_named := named_strip hproject
      task_named := named_strip htask
      reason_known := not_not.mp hreason
      evidence_named := named_strip hevidence
      required_iff := not_not.mp hrequired
      visible_iff := ⟨fun h => by_contra fun hn => hnoisy ⟨hn, h⟩,
        fun h => by_contra fun hn => hhidden ⟨h, hn⟩⟩ }

/-- The arguments of a `_decision` call that do not depend on the facts. -/
structure Terms where
  disposition : TaskDisposition
  reasonCode : ReasonCode
  owner : Option WorkflowOwner := none
  actions : List PermittedAction := []
  alert : AlertSeverity := .none
  durableJobs : List DurableJob := []
  recommendedStatus : Option Status := none
  reassess : Bool := true
  deriving DecidableEq

/-- The arguments of a `_decision` call. -/
structure Answer where
  terms : Terms
  prerequisites : List UnmetPrerequisite

/-- A `_decision` call: its prerequisites are constructed, in order, before it is made. -/
def answer (terms : Terms) (prerequisites : List (Except PyError UnmetPrerequisite)) :
    Except PyError Answer := do
  let constructed <- prerequisites.mapM id
  .ok { terms := terms, prerequisites := constructed }

structure TaskView where
  projectId : String
  taskId : String
  status : TaskStatus
  parentId : Option String
  issueType : String
  targetBranch : Option String

/-- An instant later by some seconds, when there is one. -/
def deadline (start : Instant) (seconds : Nat) : Except PyError Instant :=
  if start + seconds * 1000000 ≤ maxInstant then .ok (start + seconds * 1000000)
  else .error .overflowError

/-- `_reassessment`. -/
def reassessment (status : TaskStatus) (collectedAt : Instant) : Except PyError (Option Instant) :=
  match status.sloKey with
  | none => .ok none
  | some key => do
      let due <- deadline collectedAt (livenessSlos.maxReassessmentSeconds key)
      .ok (some due)

/-- The argument `next_reassessment_at`. -/
def nextReassessmentAt (view : TaskView) (facts : WorkflowFacts) (terms : Terms) :
    Except PyError (Option Instant) :=
  if terms.reassess then reassessment view.status facts.collectedAt else .ok none

/-- `_decision`. -/
def decision (view : TaskView) (facts : WorkflowFacts) (given : Answer) :
    Except PyError WorkDecision := do
  let due <- nextReassessmentAt view facts given.terms
  DecisionFields.make rt {
    projectId := facts.projectId
    taskId := facts.taskId
    status := view.status
    disposition := given.terms.disposition
    reasonCode := given.terms.reasonCode
    responsibleOwner := given.terms.owner.getD view.status.owner
    unmetPrerequisites := given.prerequisites
    evidenceRevision := facts.factsVersion
    nextReassessmentAt := due
    permittedActions := given.terms.actions.toFinset
    actionRequired := given.terms.disposition = .actionRequired
    alertLevel := given.terms.alert
    durableJobs := given.terms.durableJobs.toFinset
    recommendedStatus := given.terms.recommendedStatus.map TaskStatus.canonical }

end Construction

section Answers

variable {rt : Runtime} {view : TaskView} {facts : WorkflowFacts} {given : Answer}
variable {terms : Terms} {prerequisites : List (Except PyError UnmetPrerequisite)}

/-- An alert shows exactly when someone has to act. -/
def Terms.Agrees (terms : Terms) : Prop :=
  terms.alert.visible = true ↔ terms.disposition = .actionRequired

instance (terms : Terms) : Decidable terms.Agrees :=
  inferInstanceAs (Decidable (_ ↔ _))

theorem Terms.agrees_of_quiet (halert : terms.alert.visible = false)
    (hdisposition : (terms.disposition == .actionRequired) = false) : terms.Agrees := by
  unfold Terms.Agrees
  rw [halert]
  exact iff_of_false Bool.false_ne_true (by simpa using hdisposition)

theorem outcomes_answer {P : Answer -> Prop}
    (h : forall constructed, constructed.length = prerequisites.length ->
      P { terms := terms, prerequisites := constructed }) :
    Outcomes P (answer terms prerequisites) := by
  apply outcomes_bind
  intro constructed hconstructed
  exact outcomes_ok (h constructed (mapM_length hconstructed))

theorem returns_answer :
    Returns (answer terms prerequisites) ↔ forall p, p ∈ prerequisites -> Returns p := by
  unfold answer
  rw [returns_bind_of_total (fun _ _ => returns_ok), returns_mapM]
  rfl

theorem terms_of_answer (h : answer terms prerequisites = .ok given) : given.terms = terms := by
  rcases bind_eq_ok.mp h with ⟨_, _, heq⟩
  cases heq
  rfl

@[simp] theorem returns_answer_nil : Returns (answer terms []) :=
  returns_answer.mpr (by intro p hp; cases hp)

@[simp] theorem returns_answer_single {p : Except PyError UnmetPrerequisite} :
    Returns (answer terms [p]) ↔ Returns p := by
  rw [returns_answer]
  simp

variable {constructed : List UnmetPrerequisite}

@[simp] theorem returns_answer_constructed : Returns (answer terms (constructed.map .ok)) := by
  rw [returns_answer]
  intro p hp
  rcases List.mem_map.mp hp with ⟨prerequisite, _, rfl⟩
  exact returns_ok

/-- The alert agrees, something makes the task advance or it has ended, and a blocked
task names what blocks it. -/
def Terms.settled (terms : Terms) (named : Bool) : Bool :=
  decide terms.Agrees && (terms.reassess || terms.disposition == .actionRequired ||
      (terms.disposition == .terminal && terms.durableJobs.isEmpty &&
        terms.recommendedStatus.isNone)) &&
    (terms.disposition != .blocked || named)

/-- The start of an implementation, the screening of a duplicate and the exit of a worker. -/
def startJobs : List DurableJob :=
  [.implementationStart, .duplicateScreening, .workerExit]

def claimActions : List PermittedAction :=
  [.claimImplementation, .claimRepair]

/-- Ownership of an implementation can begin. -/
def Terms.starts (terms : Terms) : Bool :=
  terms.durableJobs.any startJobs.contains || terms.actions.any claimActions.contains

def landingReason : ReasonCode := .terminalImmediateTargetLandingProven

/-- The task may be closed because its landing is proven. -/
def Terms.claimsLanding (terms : Terms) : Bool :=
  (terms.actions.any [.requestMerged, .requestDone].contains ||
      terms.recommendedStatus == some .merged) &&
    terms.reasonCode == landingReason

/-- Settled, no start and no claim of a landing. -/
def Terms.plain (terms : Terms) (named : Bool) : Bool :=
  terms.settled named && !terms.starts && !terms.claimsLanding

/-- Settled and looked at again, and no claim of a landing. -/
def Terms.modest (terms : Terms) (named : Bool) : Bool :=
  terms.settled named && terms.reassess && !terms.claimsLanding

/-- Settled and looked at again, no start and no claim of a landing. -/
def Terms.ordinary (terms : Terms) (named : Bool) : Bool :=
  terms.modest named && !terms.starts

variable {named : Bool}

theorem Terms.modest_of_ordinary (h : terms.ordinary named = true) : terms.modest named = true :=
  ((Bool.and_eq_true _ _).mp h).left

theorem Terms.starts_of_ordinary (h : terms.ordinary named = true) : terms.starts = false := by
  unfold Terms.ordinary at h
  rw [Bool.and_eq_true, Bool.not_eq_true'] at h
  exact h.right

theorem Terms.reassess_of_modest (h : terms.modest named = true) : terms.reassess = true := by
  unfold Terms.modest at h
  rw [Bool.and_eq_true, Bool.and_eq_true] at h
  exact h.left.right

theorem Terms.claimsLanding_of_modest (h : terms.modest named = true) :
    terms.claimsLanding = false := by
  unfold Terms.modest at h
  rw [Bool.and_eq_true, Bool.not_eq_true'] at h
  exact h.right

theorem Terms.plain_of_ordinary (h : terms.ordinary named = true) : terms.plain named = true := by
  unfold Terms.ordinary Terms.modest at h
  unfold Terms.plain
  simp only [Bool.and_eq_true] at h ⊢
  exact ⟨⟨h.left.left.left, h.right⟩, h.left.right⟩

theorem Terms.starts_of_plain (h : terms.plain named = true) : terms.starts = false := by
  unfold Terms.plain at h
  simp only [Bool.and_eq_true, Bool.not_eq_true'] at h
  exact h.left.right

theorem Terms.claimsLanding_of_plain (h : terms.plain named = true) :
    terms.claimsLanding = false := by
  unfold Terms.plain at h
  rw [Bool.and_eq_true, Bool.not_eq_true'] at h
  exact h.right

def Answer.settled (given : Answer) : Bool :=
  given.terms.settled (!given.prerequisites.isEmpty)

theorem Answer.settled_of_modest (h : given.terms.modest (!given.prerequisites.isEmpty) = true) :
    given.settled = true := by
  unfold Terms.modest at h
  rw [Bool.and_eq_true, Bool.and_eq_true] at h
  exact h.left.left

theorem Answer.settled_of_ordinary
    (h : given.terms.ordinary (!given.prerequisites.isEmpty) = true) : given.settled = true :=
  Answer.settled_of_modest (Terms.modest_of_ordinary h)

theorem Answer.settled_of_plain (h : given.terms.plain (!given.prerequisites.isEmpty) = true) :
    given.settled = true := by
  unfold Terms.plain at h
  rw [Bool.and_eq_true, Bool.and_eq_true] at h
  exact h.left.left

theorem Answer.agrees_of_settled (h : given.settled = true) : given.terms.Agrees := by
  unfold Answer.settled Terms.settled at h
  rw [Bool.and_eq_true, Bool.and_eq_true] at h
  exact of_decide_eq_true h.left.left

/-- Whatever the computation answers passes a test of its terms and of whether it names
a prerequisite. -/
def Shows (Q : Terms -> Bool -> Bool) (x : Except PyError Answer) : Prop :=
  Outcomes (fun given => Q given.terms (!given.prerequisites.isEmpty) = true) x

variable {Q : Terms -> Bool -> Bool}

theorem shows_answer (h : Q terms (!prerequisites.isEmpty) = true) :
    Shows Q (answer terms prerequisites) := by
  apply outcomes_answer
  intro constructed hlength
  have hempty : constructed.isEmpty = prerequisites.isEmpty := by
    rw [Bool.eq_iff_iff, List.isEmpty_iff_length_eq_zero, List.isEmpty_iff_length_eq_zero, hlength]
  show Q terms (!constructed.isEmpty) = true
  rw [hempty]
  exact h

theorem settled_of_answer (h : answer terms prerequisites = .ok given)
    (hterms : terms.settled (!prerequisites.isEmpty) = true) : given.settled = true :=
  shows_answer hterms given h

theorem shows_answer_constructed (hne : constructed ≠ []) (h : Q terms true = true) :
    Shows Q (answer terms (constructed.map .ok)) := by
  apply shows_answer
  cases constructed with
  | nil => exact absurd rfl hne
  | cons p rest => exact h

theorem shows_ite {c : Prop} [Decidable c]
    {x y : Except PyError Answer} (hx : c -> Shows Q x) (hy : ¬ c -> Shows Q y) :
    Shows Q (if c then x else y) :=
  outcomes_ite hx hy

theorem shows_bind {α : Type} {x : Except PyError α}
    {f : α -> Except PyError Answer} (h : forall a, x = .ok a -> Shows Q (f a)) :
    Shows Q (x >>= f) :=
  outcomes_bind h

theorem decision_eq_ok {d : WorkDecision}
    (hstatus : canonicalizeStatus rt (.str view.status.text) = view.status)
    (h : decision rt view facts given = .ok d) :
    d.status = view.status ∧ d.disposition = given.terms.disposition ∧
      d.reasonCode = given.terms.reasonCode ∧
      d.unmetPrerequisites = given.prerequisites ∧
      d.permittedActions = given.terms.actions.toFinset ∧
      d.alertLevel = given.terms.alert ∧
      d.durableJobs = given.terms.durableJobs.toFinset ∧
      d.recommendedStatus = given.terms.recommendedStatus.map TaskStatus.canonical ∧
      nextReassessmentAt view facts given.terms = .ok d.nextReassessmentAt := by
  rcases bind_eq_ok.mp h with ⟨due, hdue, hmake⟩
  unfold DecisionFields.make at hmake
  split at hmake
  · cases hmake
  split at hmake
  · cases hmake
  split at hmake
  · cases hmake
  split at hmake
  · cases hmake
  split at hmake
  · cases hmake
  split at hmake
  · cases hmake
  split at hmake
  · cases hmake
  cases hmake
  have hrecommended : (given.terms.recommendedStatus.map TaskStatus.canonical).map
      (fun status => canonicalizeStatus rt (.str status.text)) =
        given.terms.recommendedStatus.map TaskStatus.canonical := by
    rw [Option.map_map]
    congr 1
    funext status
    exact canonicalizeStatus_text status
  exact ⟨hstatus, rfl, rfl, rfl, rfl, rfl, rfl, hrecommended, hdue⟩

/-- A decision whose alert agrees is refused only for its due time. -/
theorem returns_decision (hagrees : given.terms.Agrees) : Returns (decision rt view facts given) ↔
      Returns (nextReassessmentAt view facts given.terms) := by
  apply returns_bind_of_total
  intro due _
  unfold DecisionFields.make
  have hvisible := hagrees
  unfold Terms.Agrees at hvisible
  simp only [facts.project_named.strip_ne, facts.task_named.strip_ne,
    facts.version_named.strip_ne, given.terms.reasonCode.text_known, dite_false,
    decide_eq_true_eq, not_true_eq_false, hvisible, and_not_self_iff, not_and_self_iff, returns_ok]

end Answers
end TaskEvaluation
end Oompah
