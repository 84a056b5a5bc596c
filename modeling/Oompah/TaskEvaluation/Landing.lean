import Oompah.TaskEvaluation.Evidence

/-!
# Landing and retained provenance

The answer for a task that is done and waits to land on its target, and the answer for a
marker by which an owner keeps a done task as it is.
-/

namespace Oompah
namespace TaskEvaluation

open Foundation
open TaskTransitions (Status)

section Landing

variable (rt : Runtime)

def isEpic (view : TaskView) : Bool :=
  rt.lower (strip view.issueType) == "epic"

/-- `epic_immediate_target_landings`. -/
def epicImmediateTargetLandings (facts : WorkflowFacts) : List LandingFact :=
  let value := (facts.fact .containment).knownMapping.getD []
  let source := rt.clean (value.get "epic_branch")
  let target := rt.clean (value.get "target_branch")
  if source = "" ∨ target = "" then []
  else facts.landings.filter fun item => item.source = source && item.target = target

/-- The landings that are looked at for a done task. -/
def landingCandidates (view : TaskView) (facts : WorkflowFacts) : List LandingFact :=
  if isEpic rt view then epicImmediateTargetLandings rt facts
  else
    facts.landings.filter fun item =>
      view.targetBranch.isNone || view.targetBranch = some item.target

/-- The parent of a landed child has not reached its end: its status, as it is observed. -/
def parentNotTerminal (parentId : String) (facts : WorkflowFacts) : Option String :=
  let taskValue := (facts.fact .task).knownMapping.getD []
  let parentIdentity := rt.clean (taskValue.get "parent_identifier")
  let parentStatus := canonicalizeStatus rt (taskValue.get "parent_status")
  let parentIssueType := rt.cleanLower (taskValue.get "parent_issue_type")
  let parentError := rt.clean (taskValue.get "parent_error")
  if parentIdentity ≠ parentId ∨ parentIssueType ≠ "epic" ∨
      ¬ (parentStatus = .canonical .merged ∨ parentStatus = .canonical .archived) then
    some (if parentError = "" then parentStatus.text else parentError)
  else none

/-- The parent that a landed child waits for, with what is observed of it. -/
def waitingParent (view : TaskView) (facts : WorkflowFacts) : Option (String × String) :=
  match view.parentId with
  | none => none
  | some parentId =>
    if isEpic rt view then none
    else (parentNotTerminal rt parentId facts).map fun observed => (parentId, observed)

def landedTerms (epic : Bool) : Terms where
  disposition := .terminal
  reasonCode := .terminalImmediateTargetLandingProven
  owner := some .rollup
  actions := [.requestMerged]
  durableJobs := if epic then [.epicAutoClose] else [.parentRollupReview]
  recommendedStatus := some .merged

def refreshJob (epic : Bool) : DurableJob :=
  if epic then .epicTerminalValidation else .integrationLandingRefresh

def landingPath (item : LandingFact) : String :=
  item.source ++ "->" ++ item.target

/-- The part of `_landing_decision` that looks at the landings. -/
def candidateDecision (view : TaskView) (facts : WorkflowFacts) (expectedTarget : String) :
    Except PyError Answer :=
  let epic := isEpic rt view
  let candidates := landingCandidates rt view facts
  let unknown := candidates.filter fun item => item.state = .unknown
  if candidates = [] ∧ facts.landings ≠ [] then
    answer {
        disposition := .retryScheduled
        reasonCode := .landingTargetEvidenceMissing
        owner := some .rollup
        actions := [.refreshLanding]
        alert := .info
        durableJobs := [refreshJob epic] }
      [unmet "landing.target_evidence_missing"
        (if expectedTarget = "" then "configured_target" else expectedTarget) none]
  else if candidates = [] then
    factWait facts .landing .rollup .refreshLanding (refreshJob epic)
  else if candidates.any fun item => item.state = .landed then
    match waitingParent rt view facts with
    | some (parentId, observed) =>
      answer {
          disposition := .blocked
          reasonCode := .rollupWaitingParentLanding
          owner := some .rollup
          actions := [.refreshLanding] }
        [unmet "rollup.parent_not_terminal" parentId (some observed)]
    | none => answer (landedTerms epic) []
  else if unknown ≠ [] then
    answer {
        disposition := .retryScheduled
        reasonCode := .landingEvidenceUnknown
        owner := some .rollup
        actions := [.refreshLanding]
        alert := .info
        durableJobs := [refreshJob epic] }
      (unknown.map fun item => unmet "landing.unknown" (landingPath item) item.errorCode)
  else
    answer {
        disposition := .blocked
        reasonCode := .landingWaiting
        owner := some .rollup
        actions := [.refreshLanding] }
      (candidates.map fun item => unmet "landing.not_landed" (landingPath item) none)

/-- `_landing_decision`. -/
def landingDecision (view : TaskView) (facts : WorkflowFacts) : Except PyError Answer :=
  if isEpic rt view then
    let containment := facts.fact .containment
    if containment.state ≠ .known then
      factWait facts .containment .rollup .refreshLanding (refreshJob true)
    else
      let value := containment.value.mapping?.getD []
      let expectedSource := rt.clean (value.get "epic_branch")
      let expectedTarget := rt.clean (value.get "target_branch")
      if expectedSource = "" ∨ expectedTarget = "" then
        answer {
            disposition := .retryScheduled
            reasonCode := .evidenceContainmentMalformed
            owner := some .rollup
            actions := [.refreshLanding]
            alert := .info
            durableJobs := [refreshJob true] }
          [unmet "evidence.malformed" "containment" none]
      else candidateDecision rt view facts expectedTarget
  else candidateDecision rt view facts (view.targetBranch.getD "")

/-!
# Retained provenance
-/

/-- The answer for a marker that cannot be trusted. -/
def invalidProvenance (view : TaskView) (observed : String) : Except PyError Answer :=
  answer {
      disposition := .actionRequired
      reasonCode := .terminalProvenanceInvalid
      owner := some .operator
      actions := [.resolveOperatorAction]
      alert := .warning
      reassess := false }
    [unmet "terminal.provenance_invalid" view.taskId (some observed)]

/-- The fields every marker payload has. -/
def commonValid (facts : WorkflowFacts) (raw : Mapping) : Bool :=
  (raw.get "marker_present").isBool && (raw.get "retained").isBool &&
    (raw.get "malformed").isBool && (raw.get "schema_version").int? == some 1 &&
    (raw.get "project_id").equalsText facts.projectId &&
    (raw.get "task_id").equalsText facts.taskId &&
    (raw.get "authority_generation").int?.any (fun generation => 0 ≤ generation)

/-- A payload without a marker. -/
def validAbsence (view : TaskView) (raw : Mapping) : Bool :=
  (raw.get "retained").isFalse && (raw.get "authority_generation").equalsInt 0 &&
    view.status == .canonical .done &&
    !(["marker_version", "authorized_by", "actor_source", "marked_at", "updated_at"].any raw.has)

def markerValid (raw : Mapping) : Bool :=
  (raw.get "marker_version").int? == some 1 &&
    (raw.get "authorized_by").isText && rt.clean (raw.get "authorized_by") != "" &&
    (raw.get "actor_source").isText && rt.clean (raw.get "actor_source") != "" &&
    (raw.get "marked_at").isText && (raw.get "updated_at").isText &&
    rt.clean (raw.get "updated_at") != ""

/-- The answer a marker payload gives, when it gives one. -/
def markerDecision (view : TaskView) (facts : WorkflowFacts) (raw : Mapping) :
    Option (Except PyError Answer) :=
  let mismatch := "identity_or_authority_mismatch"
  if (raw.get "malformed").isTrue || !commonValid facts raw then
    some (invalidProvenance view (if (raw.get "malformed").isTrue then "malformed" else mismatch))
  else if (raw.get "marker_present").isFalse then
    if validAbsence view raw then none else some (invalidProvenance view mismatch)
  else if !markerValid rt raw then some (invalidProvenance view mismatch)
  else if !(raw.get "retained").truthy then
    if (raw.get "authority_generation").int?.any (fun generation => 1 ≤ generation) then none
    else some (invalidProvenance view mismatch)
  else if rt.clean (raw.get "marked_at") = "" then some (invalidProvenance view mismatch)
  else if view.status ≠ .canonical .done then
    some (invalidProvenance view ("retained_marker_with_" ++ view.status.text))
  else
    some (answer {
        disposition := .terminal
        reasonCode := .terminalProvenanceRetained
        owner := some .none
        reassess := false } [])

/-- `_terminal_provenance_decision`. -/
def terminalProvenanceDecision (view : TaskView) (facts : WorkflowFacts) :
    Option (Except PyError Answer) :=
  let observation := facts.fact .terminalAudit
  let mismatch := "identity_or_authority_mismatch"
  if observation.state ≠ .known then none
  else
    match observation.value.mapping? with
    | none => some (invalidProvenance view mismatch)
    | some value =>
      if !value.has "terminal_provenance" then none
      else
        match (value.get "terminal_provenance").mapping? with
        | none => some (invalidProvenance view mismatch)
        | some raw => markerDecision rt view facts raw

end Landing

/-!
# What is answered
-/

section Answers

variable {rt : Runtime} {view : TaskView} {facts : WorkflowFacts} {given : Answer}
variable {expectedTarget : String}

/-- A landing that is looked at for the done task is proven, and no parent is waited for. -/
def landingLands (rt : Runtime) (view : TaskView) (facts : WorkflowFacts) : Prop :=
  ((landingCandidates rt view facts).any fun item => item.state = .landed) = true ∧
    waitingParent rt view facts = none

theorem candidateDecision_cases (h : candidateDecision rt view facts expectedTarget = .ok given) :
    (landingLands rt view facts ∧
      given = { terms := landedTerms (isEpic rt view), prerequisites := [] }) ∨
    (¬ landingLands rt view facts ∧ given.terms.modest (!given.prerequisites.isEmpty) = true) := by
  unfold candidateDecision at h
  unfold landingLands
  dsimp only at h
  by_cases hmissing : landingCandidates rt view facts = [] ∧ facts.landings ≠ []
  · rw [if_pos hmissing] at h
    refine .inr ⟨?_, shows_answer rfl given h⟩
    rw [hmissing.left]
    exact fun hlands => Bool.false_ne_true hlands.left
  rw [if_neg hmissing] at h
  by_cases hempty : landingCandidates rt view facts = []
  · rw [if_pos hempty] at h
    refine .inr ⟨?_, shows_factWait (fun _ => rfl) given h⟩
    rw [hempty]
    exact fun hlands => Bool.false_ne_true hlands.left
  rw [if_neg hempty] at h
  cases hlanded : (landingCandidates rt view facts).any fun item => item.state = .landed with
  | true =>
    rw [hlanded, if_pos rfl] at h
    cases hparent : waitingParent rt view facts with
    | some parent =>
      rcases parent with ⟨parentId, observed⟩
      rw [hparent] at h
      refine .inr ⟨?_, shows_answer rfl given h⟩
      rintro ⟨_, hnone⟩
      cases hnone
    | none =>
      rw [hparent] at h
      cases h
      exact .inl ⟨⟨rfl, rfl⟩, rfl⟩
  | false =>
    rw [hlanded, if_neg Bool.false_ne_true] at h
    refine .inr ⟨fun hlands => Bool.false_ne_true hlands.left, ?_⟩
    revert h
    apply shows_ite
    · intro hunknown
      apply shows_answer
      cases hitems : (landingCandidates rt view facts).filter fun item => item.state = .unknown with
      | nil => exact absurd hitems hunknown
      | cons item items => rfl
    · intro _
      apply shows_answer
      cases hitems : landingCandidates rt view facts with
      | nil => exact absurd hitems hempty
      | cons item items => rfl

/-- An epic has landings to look at only when its containment names its branch and its
target. -/
theorem landingDecision_cases (h : landingDecision rt view facts = .ok given) :
    (landingLands rt view facts ∧
      given = { terms := landedTerms (isEpic rt view), prerequisites := [] }) ∨
    (¬ landingLands rt view facts ∧ given.terms.modest (!given.prerequisites.isEmpty) = true) := by
  unfold landingDecision at h
  by_cases hepic : isEpic rt view = true
  · rw [if_pos hepic] at h
    dsimp only at h
    have hnone : landingCandidates rt view facts = [] -> ¬ landingLands rt view facts := by
      rintro hnil ⟨hlanded, _⟩
      rw [hnil] at hlanded
      cases hlanded
    have hcandidates : landingCandidates rt view facts = epicImmediateTargetLandings rt facts := by
      unfold landingCandidates
      rw [if_pos hepic]
    by_cases hstate : (facts.fact .containment).state ≠ .known
    · rw [if_pos hstate] at h
      refine .inr ⟨hnone ?_, shows_factWait (fun _ => rfl) given h⟩
      rw [hcandidates]
      unfold epicImmediateTargetLandings FactObservation.knownMapping
      rw [if_neg hstate]
      exact if_pos (.inl Runtime.clean_null)
    rw [if_neg hstate] at h
    by_cases hblank :
        rt.clean (((facts.fact .containment).value.mapping?.getD []).get "epic_branch") = "" ∨
          rt.clean (((facts.fact .containment).value.mapping?.getD []).get "target_branch") = ""
    · rw [if_pos hblank] at h
      refine .inr ⟨hnone ?_, shows_answer rfl given h⟩
      rw [hcandidates]
      unfold epicImmediateTargetLandings FactObservation.knownMapping
      rw [if_pos (not_not.mp hstate)]
      exact if_pos hblank
    rw [if_neg hblank] at h
    exact candidateDecision_cases h
  · rw [if_neg hepic] at h
    exact candidateDecision_cases h

theorem returns_invalidProvenance {observed : String} (htask : strip view.taskId ≠ "") :
    Returns (invalidProvenance view observed) := by
  unfold invalidProvenance
  rw [returns_answer_single, returns_unmet]
  exact ⟨strip_ne_of_any rfl, htask⟩

theorem shows_invalidProvenance {observed : String} :
    Shows Terms.plain (invalidProvenance view observed) :=
  shows_answer rfl

theorem markerDecision_eq_some {raw : Mapping} {x : Except PyError Answer}
    (h : markerDecision rt view facts raw = some x) :
    (exists observed, x = invalidProvenance view observed) ∨
      (view.status = .canonical .done ∧ x = answer {
        disposition := .terminal
        reasonCode := .terminalProvenanceRetained
        owner := some .none
        reassess := false } []) := by
  unfold markerDecision at h
  dsimp only at h
  split at h
  · cases h
    exact .inl ⟨_, rfl⟩
  split at h
  · split at h
    · cases h
    · cases h
      exact .inl ⟨_, rfl⟩
  split at h
  · cases h
    exact .inl ⟨_, rfl⟩
  split at h
  · split at h
    · cases h
    · cases h
      exact .inl ⟨_, rfl⟩
  split at h
  · cases h
    exact .inl ⟨_, rfl⟩
  split at h
  · cases h
    exact .inl ⟨_, rfl⟩
  · rename_i hstatus
    cases h
    exact .inr ⟨not_not.mp hstatus, rfl⟩

theorem terminalProvenanceDecision_eq_some {x : Except PyError Answer}
    (h : terminalProvenanceDecision rt view facts = some x) :
    (exists observed, x = invalidProvenance view observed) ∨
      (view.status = .canonical .done ∧ x = answer {
        disposition := .terminal
        reasonCode := .terminalProvenanceRetained
        owner := some .none
        reassess := false } []) := by
  unfold terminalProvenanceDecision at h
  dsimp only at h
  split at h
  · cases h
  split at h
  · cases h
    exact .inl ⟨_, rfl⟩
  split at h
  · cases h
  split at h
  · cases h
    exact .inl ⟨_, rfl⟩
  · exact markerDecision_eq_some h

end Answers

/-!
# What is refused
-/

section Refusals

variable {rt : Runtime} {view : TaskView} {facts : WorkflowFacts} {expectedTarget : String}

theorem returns_candidateDecision (hparent : forall p, view.parentId = some p -> Named p)
    (htarget : expectedTarget = "" ∨ strip expectedTarget ≠ "") :
    Returns (candidateDecision rt view facts expectedTarget) := by
  have harrow : strip "->" ≠ "" := strip_ne_of_any rfl
  have hpath : forall item, strip (landingPath item) ≠ "" :=
    fun item => strip_append_left (strip_append_right _ harrow) _
  unfold candidateDecision
  dsimp only
  rw [returns_ite]
  refine ⟨fun _ => ?_, fun _ => ?_⟩
  · rw [returns_answer_single, returns_unmet]
    refine ⟨strip_ne_of_any rfl, ?_⟩
    rcases htarget with rfl | hne
    · exact strip_ne_of_any rfl
    · by_cases hblank : expectedTarget = ""
      · rw [if_pos hblank]
        exact strip_ne_of_any rfl
      · rw [if_neg hblank]
        exact hne
  rw [returns_ite]
  refine ⟨fun _ => returns_factWait, fun _ => ?_⟩
  rw [returns_ite]
  refine ⟨fun _ => ?_, fun _ => ?_⟩
  · cases hwaiting : waitingParent rt view facts with
    | none => exact returns_answer_nil
    | some waiting =>
      rcases waiting with ⟨parentId, observed⟩
      have hid : view.parentId = some parentId := by
        unfold waitingParent at hwaiting
        cases hview : view.parentId with
        | none =>
          rw [hview] at hwaiting
          cases hwaiting
        | some p =>
          rw [hview] at hwaiting
          dsimp only at hwaiting
          split at hwaiting
          · cases hwaiting
          · rcases Option.map_eq_some_iff.mp hwaiting with ⟨_, _, heq⟩
            cases heq
            rfl
      dsimp only
      rw [returns_answer_single, returns_unmet]
      exact ⟨strip_ne_of_any rfl, (hparent parentId hid).strip_ne⟩
  rw [returns_ite]
  refine ⟨fun _ => ?_, fun _ => ?_⟩
  · rw [returns_answer]
    intro p hp
    rcases List.mem_map.mp hp with ⟨item, _, rfl⟩
    rw [returns_unmet]
    exact ⟨strip_ne_of_any rfl, hpath item⟩
  · rw [returns_answer]
    intro p hp
    rcases List.mem_map.mp hp with ⟨item, _, rfl⟩
    rw [returns_unmet]
    exact ⟨strip_ne_of_any rfl, hpath item⟩

theorem returns_landingDecision (hparent : forall p, view.parentId = some p -> Named p)
    (htarget : forall t, view.targetBranch = some t -> Named t) :
    Returns (landingDecision rt view facts) := by
  unfold landingDecision
  dsimp only
  rw [returns_ite]
  refine ⟨fun _ => ?_, fun _ => ?_⟩
  · rw [returns_ite]
    refine ⟨fun _ => returns_factWait, fun _ => ?_⟩
    rw [returns_ite]
    refine ⟨fun _ => ?_, fun hnamed => ?_⟩
    · rw [returns_answer_single, returns_unmet]
      exact ⟨strip_ne_of_any rfl, strip_ne_of_any rfl⟩
    · apply returns_candidateDecision hparent
      right
      rw [Runtime.strip_clean]
      exact fun hblank => hnamed (.inr hblank)
  · apply returns_candidateDecision hparent
    cases ht : view.targetBranch with
    | none => exact .inl rfl
    | some t => exact .inr (htarget t ht).strip_ne

end Refusals
end TaskEvaluation
end Oompah
