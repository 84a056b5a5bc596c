import Oompah.TaskEvaluation.Maintenance

/-!
# Review

The answer for a task in review: the review of the forge is compared with the recorded
generation, and a review that is gone or merged is terminal only with a landing.
-/

namespace Oompah
namespace TaskEvaluation

open Foundation
open TaskTransitions (Status)

section Review

variable (rt : Runtime)

/-- `ACCEPTED_SUBMISSION_STATES`. -/
def acceptedSubmissionStates : List String :=
  ["ready", "queued", "integrating", "blocked", "integrated", "needs_human"]

/-- `review_generation_requeue_marker`. -/
def reviewGenerationRequeueMarker (reviewId headSha baseSha : Value) : Option String :=
  let review := rt.clean reviewId
  let head := rt.cleanLower headSha
  let base := rt.cleanLower baseSha
  if review = "" ∨ isExactSha head = false ∨ isExactSha base = false then none
  else some ("review:" ++ rt.sha256 (review ++ "\x00" ++ head ++ "\x00" ++ base))

/-- The texts `_review_decision` reads before it compares them. -/
structure ReviewReading where
  state : String
  expectedTarget : String
  expectedSource : String
  observedTarget : String
  recordedHead : String
  currentHead : String
  observedHead : String
  recordedBase : String
  recordedBaseBranch : String
  observedBase : String
  marker : Option String
  integrationValue : Mapping

namespace ReviewReading

def expectedHead (r : ReviewReading) : String :=
  if r.recordedHead = "" then r.currentHead else r.recordedHead

/-- The head that is not the expected one. -/
def changedHead (r : ReviewReading) : String :=
  if r.expectedHead ≠ "" ∧ r.observedHead ≠ "" ∧ r.expectedHead ≠ r.observedHead then
    r.observedHead
  else if r.recordedHead ≠ "" ∧ r.currentHead ≠ "" ∧ r.recordedHead ≠ r.currentHead then
    r.currentHead
  else ""

def changedBase (r : ReviewReading) : Bool :=
  r.recordedBase != "" && r.observedBase != "" && r.recordedBase != r.observedBase

def targetMismatch (r : ReviewReading) : Bool :=
  r.observedTarget != "" && r.expectedTarget != "" && r.observedTarget != r.expectedTarget

/-- The review requeued itself for the generation it shows. -/
def pendingGeneration (r : ReviewReading) : Bool :=
  (r.integrationValue.get "wait_reason").equalsText "review_generation_requeue" &&
    r.marker.any (r.integrationValue.get "wait_generation").equalsText

end ReviewReading

def reviewReading (view : TaskView) (facts : WorkflowFacts) (value : Mapping) : ReviewReading :=
  let taskFact := (facts.fact .task).value.mapping?.getD []
  let integrationValue := (facts.fact .integration).knownMapping.getD []
  let observedHead := rt.cleanLower (value.get "head_sha")
  let observedBase := rt.cleanLower (value.get "base_sha")
  { state := rt.cleanLowerOr (value.get "state") "open"
    expectedTarget :=
      rt.clean ((Value.ofOption view.targetBranch).orElse (taskFact.get "target_branch"))
    expectedSource :=
      rt.clean (((taskFact.get "work_branch").orElse (taskFact.get "branch_name")).orElse
        (.str view.taskId))
    observedTarget := rt.clean (value.get "target_branch")
    recordedHead := rt.cleanLower (taskFact.get "review_head")
    currentHead := rt.cleanLower (taskFact.get "head_sha")
    observedHead := observedHead
    recordedBase := rt.cleanLower (integrationValue.get "base_sha")
    recordedBaseBranch := rt.clean (integrationValue.get "base_branch")
    observedBase := observedBase
    marker := reviewGenerationRequeueMarker rt (value.get "review_id") (.str observedHead)
      (.str observedBase)
    integrationValue := integrationValue }

/-- An accepted standalone submission whose review shows a base that was not recorded. -/
def missingBaseIdentity (facts : WorkflowFacts) (value : Mapping) (r : ReviewReading) : Bool :=
  let taskFact := (facts.fact .task).value.mapping?.getD []
  let recordedReview := rt.clean (taskFact.get "review_number")
  let observedReview := rt.clean (value.get "review_id")
  let sourceRepository := rt.casefold (rt.clean (value.get "source_repository"))
  let targetRepository := rt.casefold (rt.clean (value.get "target_repository"))
  let observedSource := rt.clean (value.get "source_branch")
  let integrationHead := rt.cleanLower (r.integrationValue.get "head_sha")
  let integrationSource := rt.clean (r.integrationValue.get "task_branch")
  acceptedSubmissionStates.contains (rt.cleanLower (r.integrationValue.get "state")) &&
    rt.cleanLowerOr (r.integrationValue.get "mode") "standalone" == "standalone" &&
    r.marker.isSome && r.expectedHead != "" && integrationHead == r.expectedHead &&
    r.observedHead == r.expectedHead && recordedReview != "" &&
    observedReview == recordedReview && r.expectedSource != "" &&
    observedSource == r.expectedSource && integrationSource == r.expectedSource &&
    r.expectedTarget != "" && r.observedTarget == r.expectedTarget &&
    (r.recordedBaseBranch == "" || r.recordedBaseBranch == r.expectedTarget) &&
    sourceRepository != "" && sourceRepository == targetRepository &&
    (r.recordedBase == "" || r.recordedBaseBranch == "")

/-- The generation of the review is not the recorded one. -/
def generationChanged (facts : WorkflowFacts) (value : Mapping) (r : ReviewReading) : Bool :=
  r.changedHead != "" || r.changedBase || missingBaseIdentity rt facts value r ||
    r.pendingGeneration

/-- `exact_landings`: a text that was not recorded does not filter. -/
def exactLandings (facts : WorkflowFacts) (r : ReviewReading) : List LandingFact :=
  facts.landings.filter fun item =>
    item.state = .landed && item.durable &&
      (r.expectedSource == "" || item.source == r.expectedSource) &&
      (r.expectedTarget == "" || item.target == r.expectedTarget) &&
      (r.expectedHead == "" || item.revision == some r.expectedHead)

/-- A child of an epic is done when its review has landed, any other task is merged. -/
def landedReviewDone (view : TaskView) : Bool :=
  view.parentId.isSome && rt.lower (strip view.issueType) != "epic"

def landedReviewTerms (view : TaskView) : Terms where
  disposition := .terminal
  reasonCode := .terminalImmediateTargetLandingProven
  owner := some .reviewMonitor
  actions := if landedReviewDone rt view then [.requestDone] else [.requestMerged]
  durableJobs := [.reviewTerminalStage]
  recommendedStatus := if landedReviewDone rt view then some .done else some .merged

/-- The review is not there any more. -/
def reviewAbsent (value : Mapping) (r : ReviewReading) : Bool :=
  ["missing", "not_found", "none"].contains r.state || (value.get "present").isFalse

/-- The answer for a review of the recorded generation that is open. -/
def openReviewDecision (value : Mapping) : Except PyError Answer :=
  let ci := rt.cleanLowerOr (value.get "ci") "unknown"
  if (value.get "draft").truthy then
    answer {
        disposition := .owned
        reasonCode := .reviewDraftWait
        owner := some .reviewMonitor
        actions := [.refreshReview]
        durableJobs := [.reviewMonitor] } []
  else if ["failed", "failure"].contains ci then
    answer {
        disposition := .owned
        reasonCode := .reviewCiFixRequired
        owner := some .reviewMonitor
        actions := [.routeCiFix]
        durableJobs := [.reviewCiRepair]
        recommendedStatus := some .needsCiFix } []
  else if (value.get "conflict").truthy || (value.get "needs_rebase").truthy ||
      (value.get "mergeable").isFalse ||
      ["dirty", "behind"].contains (rt.cleanLower (value.get "mergeable_state")) then
    answer {
        disposition := .owned
        reasonCode := .reviewRebaseRequired
        owner := some .reviewMonitor
        actions := [.routeRebase]
        durableJobs := [.reviewConflictRepair]
        recommendedStatus := some .needsRebase } []
  else if ["pending", "unknown", ""].contains ci then
    answer {
        disposition := .owned
        reasonCode := .reviewCiPending
        owner := some .reviewMonitor
        actions := [.refreshReview]
        durableJobs := [.reviewMonitor] } []
  else if ["passed", "success", "successful"].contains ci then
    if (value.get "auto_merge_enabled").truthy then
      answer {
          disposition := .owned
          reasonCode := .reviewMonitoring
          owner := some .reviewMonitor
          actions := [.refreshReview]
          durableJobs := [.reviewMonitor] } []
    else
      answer {
          disposition := .owned
          reasonCode := .reviewReadyToMerge
          owner := some .reviewMonitor
          actions := [.mergeReview]
          durableJobs := [.reviewMerge] } []
  else
    answer {
        disposition := .owned
        reasonCode := .reviewMonitoring
        owner := some .reviewMonitor
        actions := [.refreshReview]
        durableJobs := [.reviewMonitor] } []

/-- The answer for a review of the recorded generation. -/
def currentReviewDecision (view : TaskView) (facts : WorkflowFacts) (value : Mapping)
    (r : ReviewReading) : Except PyError Answer :=
  if reviewAbsent value r then
    if exactLandings facts r ≠ [] then answer (landedReviewTerms rt view) []
    else if (value.get "source_deleted").truthy then
      answer {
          disposition := .actionRequired
          reasonCode := .reviewSourceDeleted
          owner := some .operator
          actions := [.resolveOperatorAction]
          alert := .warning
          recommendedStatus := some .needsHuman }
        [unmet "review.source_deleted"
          (rt.str ((value.get "source_branch").orElse (.str "review_source"))) none]
    else
      answer {
          disposition := .retryScheduled
          reasonCode := .reviewMissingArtifact
          owner := some .reviewMonitor
          actions := [.refreshReview]
          alert := .info
          durableJobs := [.reviewRefresh] }
        [unmet "review.missing_artifact"
          (rt.str ((value.get "source_branch").orElse (.str "review"))) none]
  else if ["merged", "closed_merged"].contains r.state then
    if exactLandings facts r ≠ [] then answer (landedReviewTerms rt view) []
    else
      answer {
          disposition := .retryScheduled
          reasonCode := .reviewLandingRefresh
          owner := some .reviewMonitor
          actions := [.refreshLanding]
          alert := .info
          durableJobs := [.reviewLandingRefresh] }
        [unmet "review.landing_unknown"
          (if r.expectedTarget = "" then "review_target" else r.expectedTarget) none]
  else if ["closed", "closed_unmerged"].contains r.state then
    answer {
        disposition := .owned
        reasonCode := .reviewClosedUnmerged
        owner := some .repairWorker
        actions := [.claimRepair]
        durableJobs := [.reviewClosedRepair]
        recommendedStatus := some .open } []
  else openReviewDecision rt value

def baseText (base : String) : String :=
  if base = "" then "<missing-base>" else base

/-- `_review_decision`. -/
def reviewDecision (view : TaskView) (facts : WorkflowFacts) : Except PyError Answer :=
  match (facts.fact .reviewCi).knownMapping with
  | none => factWait facts .reviewCi .reviewMonitor .refreshReview .reviewRefresh
  | some value =>
    let r := reviewReading rt view facts value
    if r.targetMismatch then
      answer {
          disposition := .actionRequired
          reasonCode := .reviewMergeTargetMismatch
          owner := some .operator
          actions := [.resolveOperatorAction]
          alert := .warning
          recommendedStatus := some .needsHuman }
        [unmet "review.merge_target_mismatch" r.expectedTarget (some r.observedTarget)]
    else if generationChanged rt facts value r then
      let currentGeneration :=
        if r.changedHead ≠ "" then r.changedHead
        else if r.observedHead ≠ "" then r.observedHead
        else r.expectedHead
      answer {
          disposition := .retryScheduled
          reasonCode := .reviewHeadChanged
          owner := some .reviewMonitor
          actions := [.routeRebase]
          alert := .info
          durableJobs := [.reviewHeadReconciliation]
          recommendedStatus := some .readyToIntegrate }
        [unmet "review.head_changed" (r.expectedHead ++ "@" ++ baseText r.recordedBase)
          (some (currentGeneration ++ "@" ++ baseText r.observedBase))]
    else currentReviewDecision rt view facts value r

end Review

/-!
# What is answered
-/

section Answers

variable {rt : Runtime} {view : TaskView} {facts : WorkflowFacts} {given : Answer}
variable {value : Mapping} {r : ReviewReading}

theorem shows_openReviewDecision : Shows Terms.modest (openReviewDecision rt value) := by
  apply shows_ite
  · intro _
    exact shows_answer rfl
  intro _
  apply shows_ite
  · intro _
    exact shows_answer rfl
  intro _
  apply shows_ite
  · intro _
    exact shows_answer rfl
  intro _
  apply shows_ite
  · intro _
    exact shows_answer rfl
  intro _
  apply shows_ite
  · intro _
    apply shows_ite
    · intro _
      exact shows_answer rfl
    · intro _
      exact shows_answer rfl
  · intro _
    exact shows_answer rfl

/-- The review is gone or merged. -/
def reviewOver (value : Mapping) (r : ReviewReading) : Bool :=
  reviewAbsent value r || ["merged", "closed_merged"].contains r.state

/-- A review that is over is answered by the landings found for it, any other answer
claims none. -/
theorem currentReviewDecision_cases (h : currentReviewDecision rt view facts value r = .ok given) :
    ((reviewOver value r = true ∧ exactLandings facts r ≠ []) ∧
      given = { terms := landedReviewTerms rt view, prerequisites := [] }) ∨
    (¬ (reviewOver value r = true ∧ exactLandings facts r ≠ []) ∧
      given.terms.modest (!given.prerequisites.isEmpty) = true) := by
  unfold currentReviewDecision at h
  unfold reviewOver
  cases habsent : reviewAbsent value r with
  | true =>
    rw [habsent, if_pos rfl] at h
    by_cases hlanded : exactLandings facts r ≠ []
    · rw [if_pos hlanded] at h
      cases h
      exact .inl ⟨⟨rfl, hlanded⟩, rfl⟩
    · rw [if_neg hlanded] at h
      refine .inr ⟨fun hboth => hlanded hboth.right, ?_⟩
      revert h
      apply shows_ite
      · intro _
        exact shows_answer rfl
      · intro _
        exact shows_answer rfl
  | false =>
    rw [habsent, if_neg Bool.false_ne_true] at h
    cases hmerged : ["merged", "closed_merged"].contains r.state with
    | true =>
      rw [hmerged, if_pos rfl] at h
      by_cases hlanded : exactLandings facts r ≠ []
      · rw [if_pos hlanded] at h
        cases h
        exact .inl ⟨⟨rfl, hlanded⟩, rfl⟩
      · rw [if_neg hlanded] at h
        exact .inr ⟨fun hboth => hlanded hboth.right, shows_answer rfl given h⟩
    | false =>
      rw [hmerged, if_neg Bool.false_ne_true] at h
      refine .inr ⟨fun hboth => Bool.false_ne_true hboth.left, ?_⟩
      revert h
      apply shows_ite
      · intro _
        exact shows_answer rfl
      · intro _
        exact shows_openReviewDecision

/-- The review is over, it is of the recorded generation and a landing was found for it. -/
def reviewLands (rt : Runtime) (view : TaskView) (facts : WorkflowFacts) : Prop :=
  exists value, (facts.fact .reviewCi).knownMapping = some value ∧
    (reviewReading rt view facts value).targetMismatch = false ∧
    generationChanged rt facts value (reviewReading rt view facts value) = false ∧
    reviewOver value (reviewReading rt view facts value) = true ∧
    exactLandings facts (reviewReading rt view facts value) ≠ []

theorem reviewDecision_cases (h : reviewDecision rt view facts = .ok given) :
    (reviewLands rt view facts ∧
      given = { terms := landedReviewTerms rt view, prerequisites := [] }) ∨
    (¬ reviewLands rt view facts ∧ given.terms.modest (!given.prerequisites.isEmpty) = true) := by
  unfold reviewDecision at h
  unfold reviewLands
  cases hvalue : (facts.fact .reviewCi).knownMapping with
  | none =>
    rw [hvalue] at h
    refine .inr ⟨?_, shows_factWait (fun _ => rfl) given h⟩
    rintro ⟨value, hsome, _⟩
    cases hsome
  | some value =>
    rw [hvalue] at h
    dsimp only at h
    cases hmismatch : (reviewReading rt view facts value).targetMismatch with
    | true =>
      rw [hmismatch, if_pos rfl] at h
      refine .inr ⟨?_, shows_answer rfl given h⟩
      rintro ⟨_, heq, hno, _⟩
      cases heq
      rw [hmismatch] at hno
      cases hno
    | false =>
      rw [hmismatch, if_neg Bool.false_ne_true] at h
      cases hchanged : generationChanged rt facts value (reviewReading rt view facts value) with
      | true =>
        rw [hchanged, if_pos rfl] at h
        refine .inr ⟨?_, shows_answer rfl given h⟩
        rintro ⟨_, heq, _, hno, _⟩
        cases heq
        rw [hchanged] at hno
        cases hno
      | false =>
        rw [hchanged, if_neg Bool.false_ne_true] at h
        rcases currentReviewDecision_cases h with ⟨hlands, heq⟩ | ⟨hlands, hmodest⟩
        · exact .inl ⟨⟨value, rfl, hmismatch, hchanged, hlands.left, hlands.right⟩, heq⟩
        · refine .inr ⟨?_, hmodest⟩
          rintro ⟨_, heq, _, _, hover, hlanded⟩
          cases heq
          exact hlands ⟨hover, hlanded⟩

theorem landedReviewTerms_claimsLanding : (landedReviewTerms rt view).claimsLanding = true := by
  unfold landedReviewTerms Terms.claimsLanding
  cases landedReviewDone rt view with
  | true => rfl
  | false => rfl

/-!
# What is refused
-/

theorem returns_openReviewDecision : Returns (openReviewDecision rt value) := by
  unfold openReviewDecision
  simp only [returns_ite, returns_answer_nil, implies_true, and_self]

/-- A review that is gone, and that no landing was found for, has a blank source branch. -/
def reviewFault (rt : Runtime) (view : TaskView) (facts : WorkflowFacts) (value : Mapping) :
    Bool :=
  let r := reviewReading rt view facts value
  !r.targetMismatch && !generationChanged rt facts value r && reviewAbsent value r &&
    (exactLandings facts r).isEmpty && rt.blank (value.get "source_branch")

theorem returns_source {code default : String} {terms : Terms} {v : Value}
    (hcode : strip code ≠ "") (hdefault : strip default ≠ "") :
    Returns (answer terms [unmet code (rt.str (v.orElse (.str default))) none]) ↔
      rt.blank v = false := by
  rw [returns_answer_single, returns_unmet, Ne, Ne, Runtime.strip_orElse hdefault]
  simp [hcode]

theorem returns_currentReviewDecision (htarget : strip r.expectedTarget = r.expectedTarget) :
    Returns (currentReviewDecision rt view facts value r) ↔
      (reviewAbsent value r && (exactLandings facts r).isEmpty &&
        rt.blank (value.get "source_branch")) = false := by
  have hlandings : forall {x y : Except PyError Answer},
      Returns (if exactLandings facts r ≠ [] then x else y) ↔
        (exactLandings facts r ≠ [] -> Returns x) ∧ (¬ exactLandings facts r ≠ [] -> Returns y) :=
    returns_ite
  unfold currentReviewDecision
  cases habsent : reviewAbsent value r with
  | true =>
    by_cases hlanded : exactLandings facts r = []
    · have hempty : (exactLandings facts r).isEmpty = true := List.isEmpty_iff.mpr hlanded
      have hdeleted : strip "review.source_deleted" ≠ "" := strip_ne_of_any rfl
      have hmissing : strip "review.missing_artifact" ≠ "" := strip_ne_of_any rfl
      have hsource : strip "review_source" ≠ "" := strip_ne_of_any rfl
      have hreview : strip "review" ≠ "" := strip_ne_of_any rfl
      simp only [hlanded, ne_eq, not_true_eq_false, false_implies, not_false_eq_true,
        true_implies, true_and, returns_ite, returns_source hdeleted hsource,
        returns_source hmissing hreview, List.isEmpty_nil, Bool.and_true, Bool.true_and]
      rw [← or_imp]
      simp
    · have hempty : (exactLandings facts r).isEmpty = false := by simpa using hlanded
      simp [hlanded, hempty]
  | false =>
    rw [if_neg Bool.false_ne_true, Bool.false_and, Bool.false_and]
    refine iff_of_true ?_ rfl
    rw [returns_ite]
    constructor
    · intro _
      rw [hlandings]
      refine ⟨fun _ => returns_answer_nil, fun _ => ?_⟩
      rw [returns_answer_single, returns_unmet]
      refine ⟨strip_ne_of_any rfl, ?_⟩
      by_cases hblank : r.expectedTarget = ""
      · rw [if_pos hblank]
        exact strip_ne_of_any rfl
      · rw [if_neg hblank, htarget]
        exact hblank
    · intro _
      rw [returns_ite]
      exact ⟨fun _ => returns_answer_nil, fun _ => returns_openReviewDecision⟩

theorem strip_expectedTarget : strip (reviewReading rt view facts value).expectedTarget =
      (reviewReading rt view facts value).expectedTarget :=
  Runtime.strip_clean _

theorem returns_reviewDecision : Returns (reviewDecision rt view facts) ↔
      (facts.fact .reviewCi).knownMapping.any (reviewFault rt view facts) = false := by
  unfold reviewDecision
  cases (facts.fact .reviewCi).knownMapping with
  | none => exact iff_of_true returns_factWait rfl
  | some value =>
    show Returns _ ↔ reviewFault rt view facts value = false
    unfold reviewFault
    dsimp only
    cases hmismatch : (reviewReading rt view facts value).targetMismatch with
    | true =>
      refine iff_of_true ?_ rfl
      rw [if_pos rfl, returns_answer_single, returns_unmet, strip_expectedTarget]
      refine ⟨strip_ne_of_any rfl, ?_⟩
      unfold ReviewReading.targetMismatch at hmismatch
      simp only [Bool.and_eq_true, bne_iff_ne] at hmismatch
      exact hmismatch.left.right
    | false =>
      rw [if_neg Bool.false_ne_true]
      cases hchanged : generationChanged rt facts value (reviewReading rt view facts value) with
      | true =>
        refine iff_of_true ?_ rfl
        rw [if_pos rfl, returns_answer_single, returns_unmet]
        refine ⟨strip_ne_of_any rfl, ?_⟩
        have hat : strip "@" ≠ "" := strip_ne_of_any rfl
        exact strip_append_left (strip_append_right _ hat) _
      | false =>
        rw [if_neg Bool.false_ne_true, returns_currentReviewDecision strip_expectedTarget]
        rfl

end Answers
end TaskEvaluation
end Oompah
