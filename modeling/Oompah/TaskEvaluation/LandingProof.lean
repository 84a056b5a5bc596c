import Oompah.TaskEvaluation.Answers

/-!
# Proof of a landing

A task is closed for its landing by its review, by the landings on its target or by its
children.  None of the three compares the landing with the branch, the target and the
revision that the task records: a landing of another branch or revision is enough.
-/

namespace Oompah
namespace TaskEvaluation

open Foundation
open TaskTransitions (Status)

/-- The decision lets the task be closed because its landing is proven. -/
def ClaimsLanding (d : WorkDecision) : Prop :=
  (.requestMerged ∈ d.permittedActions ∨ .requestDone ∈ d.permittedActions ∨
      d.recommendedStatus = some (.canonical .merged)) ∧
    d.reasonCode = .terminalImmediateTargetLandingProven

instance (d : WorkDecision) : Decidable (ClaimsLanding d) :=
  inferInstanceAs (Decidable (_ ∧ _))

/-- The branch, the target and the accepted or integrated revision that the integration of
a task records. -/
def recordedCoordinates (rt : Runtime) (task : Task) : Option (String × String × String) :=
  let integration := (task.field "integration").mapping?.getD []
  let source := rt.clean (integration.get "task_branch")
  let target := rt.clean (integration.get "base_branch")
  let revision := rt.cleanLower
    ((integration.get "integrated_sha").orElse (integration.get "head_sha"))
  if source ≠ "" ∧ target ≠ "" ∧ revision ≠ "" then some (source, target, revision) else none

/-- A landing of exactly the coordinates of a task is proven. -/
def ExactlyLanded (rt : Runtime) (task : Task) (facts : WorkflowFacts) : Prop :=
  exists source target revision, terminalLandingIdentity rt task = some (source, target, revision) ∧
    exists item, item ∈ facts.landings ∧ item.Proves source target revision

/-- The task is a direct helper whose branch is being published, or is. -/
def HelperPublishes (rt : Runtime) (task : Task) (facts : WorkflowFacts) : Prop :=
  exists record, integrationRecord facts = some record ∧
    (directEpicMaintenanceCompletionReady rt task record = .ok true ∨
      directEpicMaintenanceHandoffReady rt task record = .ok true)

/-- A landing is found for the task by its review, on its target or by its children. -/
def LandingFound (rt : Runtime) (task : Task) (view : TaskView) (facts : WorkflowFacts) : Prop :=
  SnapshotAgrees rt view facts ∧ terminalProvenanceDecision rt view facts = none ∧
    ((view.status = .canonical .inReview ∧ reviewLands rt view facts) ∨
      (view.status = .canonical .done ∧ ¬ HelperPublishes rt task facts ∧
        landingLands rt view facts) ∨
      (view.status = .canonical .decomposed ∧ rollupLands rt facts))

section LandingProof

variable {rt : Runtime} {task : Task} {view : TaskView} {facts : WorkflowFacts}
variable {now : Instant} {given : Answer} {d : WorkDecision} {status : Status}

theorem truthy_of_clean {v : Value} (h : rt.clean v ≠ "") : v.truthy = true := by
  by_contra hfalsy
  apply h
  unfold Runtime.clean Value.orElse
  rw [if_neg hfalsy]
  show strip "" = ""
  rfl

theorem orElse_of_clean {v other : Value} (h : rt.clean v ≠ "") : v.orElse other = v := by
  unfold Value.orElse
  rw [if_pos (truthy_of_clean h)]

theorem orElse_of_cleanLower {v other : Value} (h : rt.cleanLower v ≠ "") : v.orElse other = v := by
  apply orElse_of_clean
  intro hblank
  apply h
  unfold Runtime.cleanLower
  rw [hblank, rt.lower_ascii "" (by intro c hc; cases hc)]
  rfl

/-- What the integration records is what identifies the landing. -/
theorem terminalLandingIdentity_of_recorded {source target revision : String}
    (h : recordedCoordinates rt task = some (source, target, revision)) :
    terminalLandingIdentity rt task = some (source, target, revision) := by
  unfold recordedCoordinates at h
  dsimp only at h
  split at h
  · rename_i hnamed
    rcases hnamed with ⟨hsource, htarget, hrevision⟩
    unfold terminalLandingIdentity
    dsimp only
    rw [orElse_of_clean hsource, orElse_of_clean htarget, orElse_of_cleanLower hrevision,
      if_pos ⟨hsource, htarget, hrevision⟩]
    exact h
  · cases h

theorem Decided.claimsLanding_iff (hd : Decided view given d) :
    ClaimsLanding d ↔ given.terms.claimsLanding = true := by
  unfold ClaimsLanding Terms.claimsLanding landingReason
  rw [hd.actions, hd.reasonCode, hd.recommended]
  simp only [List.mem_toFinset, Bool.and_eq_true, Bool.or_eq_true, beq_iff_eq, List.any_eq_true,
    List.contains_iff_mem, Option.map_eq_some_iff, TaskStatus.canonical.injEq]
  constructor
  · rintro ⟨hmerged | hdone | ⟨status, hstatus, heq⟩, hreason⟩
    · exact ⟨.inl ⟨_, hmerged, by decide⟩, hreason⟩
    · exact ⟨.inl ⟨_, hdone, by decide⟩, hreason⟩
    · exact ⟨.inr (heq ▸ hstatus), hreason⟩
  · rintro ⟨⟨action, hmem, haction⟩ | hstatus, hreason⟩
    · simp only [List.mem_cons, List.not_mem_nil, or_false] at haction
      rcases haction with rfl | rfl
      · exact ⟨.inl hmem, hreason⟩
      · exact ⟨.inr (.inl hmem), hreason⟩
    · exact ⟨.inr (.inr ⟨.merged, hstatus, rfl⟩), hreason⟩

/-- Past the maintenance of helpers, a done task is no helper that publishes. -/
theorem not_helperPublishes (h : maintenanceDecision rt task .done facts = .ok none) :
    ¬ HelperPublishes rt task facts := by
  rintro ⟨record, hrecord, hready⟩
  unfold maintenanceDecision at h
  rw [hrecord] at h
  rcases bind_eq_ok.mp h with ⟨helper, hhelper, hrest⟩
  dsimp only at hrest
  unfold directEpicMaintenanceCompletionReady directEpicMaintenanceHandoffReady at hready
  rw [hhelper] at hready
  split at hrest
  · cases hrest
  rename_i hincomplete
  split at hrest
  · cases hrest
  rename_i hunproven
  rcases hready with hready | hready
  · injection hready with hready
    exact hincomplete ⟨by decide, by simp [hready]⟩
  · injection hready with hready
    exact hunproven ⟨rfl, hready⟩

theorem helperPublishes_of_maintained {x : Except PyError Answer}
    (h : maintenanceDecision rt task .done facts = .ok (some x)) :
    HelperPublishes rt task facts := by
  unfold maintenanceDecision at h
  cases hrecord : integrationRecord facts with
  | none =>
    rw [hrecord] at h
    cases h
  | some record =>
    rw [hrecord] at h
    rcases bind_eq_ok.mp h with ⟨helper, hhelper, hrest⟩
    dsimp only at hrest
    have hready : (helper && completionEvidence rt task record) = true ∨
        (helper && handoffEvidence rt task record) = true := by
      split at hrest
      · rename_i hcomplete
        simp only [Bool.or_eq_true, Bool.and_eq_true] at hcomplete ⊢
        rcases hcomplete.right with (hcompletion | hhandoff) | hhandoff
        · exact .inl hcompletion
        · exact .inr hhandoff.left
        · exact .inr hhandoff.right
      · split at hrest
        · rename_i hhandoff
          exact .inr hhandoff.right
        · cases hrest
    refine ⟨record, hrecord, ?_⟩
    unfold directEpicMaintenanceCompletionReady directEpicMaintenanceHandoffReady
    rw [hhelper]
    rcases hready with hready | hready
    · exact .inl (congrArg Except.ok hready)
    · exact .inr (congrArg Except.ok hready)

theorem statusDecision_claimsLanding {finish hardStart : List UnmetPrerequisite}
    (h : statusDecision rt task view status facts now finish hardStart = .ok given) :
    given.terms.claimsLanding = true ↔ (status = .inReview ∧ reviewLands rt view facts) ∨
      (status = .done ∧ landingLands rt view facts) ∨
      (status = .decomposed ∧ rollupLands rt facts) := by
  have hother : given.terms.claimsLanding = false -> status ≠ .inReview -> status ≠ .done ->
      status ≠ .decomposed -> (given.terms.claimsLanding = true ↔
        (status = .inReview ∧ reviewLands rt view facts) ∨
        (status = .done ∧ landingLands rt view facts) ∨
        (status = .decomposed ∧ rollupLands rt facts)) := by
    intro hclaims hreview hdone hdecomposed
    rw [hclaims]
    refine iff_of_false Bool.false_ne_true ?_
    rintro (⟨heq, _⟩ | ⟨heq, _⟩ | ⟨heq, _⟩)
    · exact hreview heq
    · exact hdone heq
    · exact hdecomposed heq
  have hmodest : given.terms.modest (!given.prerequisites.isEmpty) = true ->
      given.terms.claimsLanding = false := Terms.claimsLanding_of_modest
  have hanswer : forall {terms : Terms} {prerequisites : List (Except PyError UnmetPrerequisite)},
      answer terms prerequisites = .ok given -> terms.claimsLanding = false ->
        given.terms.claimsLanding = false := by
    intro terms prerequisites hgiven hterms
    rw [terms_of_answer hgiven]
    exact hterms
  cases status with
  | proposed => exact hother (hanswer h rfl) (by decide) (by decide) (by decide)
  | backlog => exact hother (hanswer h rfl) (by decide) (by decide) (by decide)
  | needsAnswer => exact hother (hanswer h rfl) (by decide) (by decide) (by decide)
  | needsHuman => exact hother (hanswer h rfl) (by decide) (by decide) (by decide)
  | «open» =>
    have hclaims := hmodest (shows_dispatchDecision given h)
    exact hother hclaims (by decide) (by decide) (by decide)
  | needsCiFix =>
    have hclaims := hmodest (shows_dispatchDecision given h)
    exact hother hclaims (by decide) (by decide) (by decide)
  | needsRebase =>
    have hclaims := hmodest (shows_dispatchDecision given h)
    exact hother hclaims (by decide) (by decide) (by decide)
  | inProgress =>
    exact hother (implementation_claimsLanding h) (by decide) (by decide) (by decide)
  | inValidation =>
    have hclaims := hmodest (Terms.modest_of_ordinary (shows_validationDecision given h))
    exact hother hclaims (by decide) (by decide) (by decide)
  | readyToIntegrate =>
    have hclaims := hmodest (Terms.modest_of_ordinary (shows_integrationDecision given h))
    exact hother hclaims (by decide) (by decide) (by decide)
  | duplicateCandidate =>
    have hduplicate : duplicateDecision rt facts now = .ok given := h
    have hclaims := hmodest (shows_duplicateDecision given hduplicate)
    exact hother hclaims (by decide) (by decide) (by decide)
  | inReview =>
    rcases reviewDecision_cases h with ⟨hlands, heq⟩ | ⟨hlands, hterms⟩
    · rw [heq]
      exact iff_of_true landedReviewTerms_claimsLanding (.inl ⟨rfl, hlands⟩)
    · rw [hmodest hterms]
      simp [hlands]
  | done =>
    rcases landingDecision_cases h with ⟨hlands, heq⟩ | ⟨hlands, hterms⟩
    · rw [heq]
      exact iff_of_true rfl (.inr (.inl ⟨rfl, hlands⟩))
    · rw [hmodest hterms]
      simp [hlands]
  | decomposed =>
    rcases rollupDecision_cases h with ⟨hlands, heq⟩ | ⟨hlands, hterms⟩
    · rw [heq]
      exact iff_of_true rfl (.inr (.inr ⟨rfl, hlands⟩))
    · rw [hmodest hterms]
      simp [hlands]
  | merged => cases h
  | archived => cases h

theorem claimsLanding_iff (hanswered : Answered rt task view facts now given)
    (hepic : rt.lower view.issueType ≠ "epic") :
    given.terms.claimsLanding = true ↔ LandingFound rt task view facts := by
  have hmodest : given.terms.claimsLanding = false -> ¬ LandingFound rt task view facts ->
      (given.terms.claimsLanding = true ↔ LandingFound rt task view facts) := by
    intro hclaims hnot
    rw [hclaims]
    exact iff_of_false Bool.false_ne_true hnot
  have hlooked : LandingFound rt task view facts -> identityDecision rt task view facts = none := by
    rintro ⟨hagrees, hunmarked, hfound⟩
    have hstatus : exists status, view.status = .canonical status ∧
        view.status.lifecycleFinal = false := by
      rcases hfound with ⟨hstatus, _⟩ | ⟨hstatus, _⟩ | ⟨hstatus, _⟩
      · exact ⟨_, hstatus, hstatus ▸ rfl⟩
      · exact ⟨_, hstatus, hstatus ▸ rfl⟩
      · exact ⟨_, hstatus, hstatus ▸ rfl⟩
    rcases hstatus with ⟨status, hstatus, hfinal⟩
    exact (identityDecision_eq_none hstatus).mpr ⟨hfinal, hagrees, hunmarked⟩
  cases hanswered with
  | early x hx hgiven =>
    apply hmodest (Terms.claimsLanding_of_plain (shows_identityDecision hx given hgiven))
    intro hfound
    rw [hlooked hfound] at hx
    cases hx
  | maintained status hstatus hearly x hx hgiven =>
    apply hmodest (Terms.claimsLanding_of_plain (shows_maintenanceDecision hx given hgiven))
    rintro ⟨_, _, ⟨hreview, _⟩ | ⟨hdone, hhelper, _⟩ | ⟨hdecomposed, _⟩⟩
    · rw [hstatus] at hreview
      cases hreview
      exact maintenanceDecision_ne_some (by decide) hx
    · rw [hstatus] at hdone
      cases hdone
      exact hhelper (helperPublishes_of_maintained hx)
    · rw [hstatus] at hdecomposed
      cases hdecomposed
      exact maintenanceDecision_ne_some (by decide) hx
  | rolledUp status hstatus hearly hmaintenance hrolls hgiven =>
    exact absurd (rollsUp_iff.mp hrolls).left hepic
  | gated status hstatus hearly hmaintenance hrolls x hx hgiven =>
    have hordinary := shows_dependencyGate hx given hgiven
    apply hmodest (Terms.claimsLanding_of_modest (Terms.modest_of_ordinary hordinary))
    rintro ⟨_, _, ⟨hreview, _⟩ | ⟨hdone, _⟩ | ⟨hdecomposed, _⟩⟩
    · rw [hstatus] at hreview
      cases hreview
      cases hx
    · rw [hstatus] at hdone
      cases hdone
      cases hx
    · rw [hstatus] at hdecomposed
      cases hdecomposed
      cases hx
  | dispatched status hstatus hearly hmaintenance hrolls hgate finish hardStart hpre hgiven =>
    have hpassed := (identityDecision_eq_none hstatus).mp hearly
    rw [statusDecision_claimsLanding hgiven]
    unfold LandingFound
    rw [hstatus]
    constructor
    · rintro (⟨rfl, hlands⟩ | ⟨rfl, hlands⟩ | ⟨rfl, hlands⟩)
      · exact ⟨hpassed.right.left, hpassed.right.right, .inl ⟨rfl, hlands⟩⟩
      · exact ⟨hpassed.right.left, hpassed.right.right,
          .inr (.inl ⟨rfl, not_helperPublishes hmaintenance, hlands⟩)⟩
      · exact ⟨hpassed.right.left, hpassed.right.right, .inr (.inr ⟨rfl, hlands⟩)⟩
    · rintro ⟨_, _, ⟨heq, hlands⟩ | ⟨heq, _, hlands⟩ | ⟨heq, hlands⟩⟩
      · cases heq
        exact .inl ⟨rfl, hlands⟩
      · cases heq
        exact .inr (.inl ⟨rfl, hlands⟩)
      · cases heq
        exact .inr (.inr ⟨rfl, hlands⟩)

/-- A task that is no epic is closed only for the landing it records, unless another
landing is found for it. -/
theorem evaluateTask_exactlyLanded_iff {time : Option Instant} {policy : LivenessPolicy}
    {source target revision : String} (hview : taskView rt task = .ok view)
    (h : evaluateTask rt task facts time policy = .ok d)
    (hepic : rt.lower view.issueType ≠ "epic")
    (hrecorded : recordedCoordinates rt task = some (source, target, revision)) :
    (ClaimsLanding d -> exists item, item ∈ facts.landings ∧ item.Proves source target revision) ↔
      ¬ (LandingFound rt task view facts ∧ ¬ ExactlyLanded rt task facts) := by
  rcases evaluateTask_eq_ok h with ⟨other, given, hother, hanswered, hd⟩
  rw [hview] at hother
  cases hother
  have hidentity := terminalLandingIdentity_of_recorded hrecorded
  have hexact : ExactlyLanded rt task facts ↔
      exists item, item ∈ facts.landings ∧ item.Proves source target revision := by
    constructor
    · rintro ⟨_, _, _, hsame, hitem⟩
      rw [hidentity] at hsame
      cases hsame
      exact hitem
    · intro hitem
      exact ⟨source, target, revision, hidentity, hitem⟩
  rw [hd.claimsLanding_iff, claimsLanding_iff hanswered hepic, hexact]
  rw [not_and, not_not]

end LandingProof

/-!
# A landing of another branch
-/

/-- The task `t`, done, whose branch `a` was accepted for `m` at `1`. -/
def doneTask : Mapping :=
  [("identifier", .str "t"), ("status", .str "Done"),
    ("integration", .mapping [("task_branch", .str "a"), ("base_branch", .str "m"),
      ("integrated_sha", .str "1")])]

def doneObservations : FactDomain -> FactObservation
  | .task => .known (.mapping [("identifier", .str "t"), ("status", .str "Done")]) rfl
  | _ => .missing

/-- Another branch has landed on the target. -/
def otherLanding : LandingFact :=
  .landed "b" "m" "2" (by decide +kernel) (by decide +kernel) (by decide +kernel)

def doneFacts : WorkflowFacts :=
  .snapshot doneObservations [otherLanding] (by
      intro item h
      cases h with
      | head => rfl
      | tail _ h => cases h)
    (.cons (by intro item h; cases h) .nil)

theorem doneTask_view : exists view, taskView .ascii (.mapping doneTask) = .ok view ∧
      Runtime.ascii.lower view.issueType ≠ "epic" := by
  apply exists_ok_of_passes
  decide +kernel

theorem doneTask_recorded :
    recordedCoordinates .ascii (.mapping doneTask) = some ("a", "m", "1") := by
  decide +kernel

theorem doneTask_claims :
    exists d, evaluateTask .ascii (.mapping doneTask) doneFacts none livenessSlos = .ok d ∧
      ClaimsLanding d := by
  apply exists_ok_of_passes
  decide +kernel

/-- A done task is closed for the landing of another branch. -/
theorem evaluateTask_otherLanding : exists view d, taskView .ascii (.mapping doneTask) = .ok view ∧
      Runtime.ascii.lower view.issueType ≠ "epic" ∧
      recordedCoordinates .ascii (.mapping doneTask) = some ("a", "m", "1") ∧
      evaluateTask .ascii (.mapping doneTask) doneFacts none livenessSlos = .ok d ∧
      ClaimsLanding d ∧
      ¬ exists item, item ∈ doneFacts.landings ∧ item.Proves "a" "m" "1" := by
  rcases doneTask_view with ⟨view, hview, hepic⟩
  rcases doneTask_claims with ⟨d, hd, hclaims⟩
  refine ⟨view, d, hview, hepic, doneTask_recorded, hd, hclaims, ?_⟩
  decide +kernel

theorem evaluateTask_exactlyLanded_iff_done :
    exists view d, taskView .ascii (.mapping doneTask) = .ok view ∧
      evaluateTask .ascii (.mapping doneTask) doneFacts none livenessSlos = .ok d ∧
      ((ClaimsLanding d -> exists item, item ∈ doneFacts.landings ∧ item.Proves "a" "m" "1") ↔
        ¬ (LandingFound .ascii (.mapping doneTask) view doneFacts ∧
          ¬ ExactlyLanded .ascii (.mapping doneTask) doneFacts)) := by
  rcases doneTask_view with ⟨view, hview, hepic⟩
  rcases doneTask_claims with ⟨d, hd, _⟩
  have hiff := evaluateTask_exactlyLanded_iff hview hd hepic doneTask_recorded
  exact ⟨view, d, hview, hd, hiff⟩

end TaskEvaluation
end Oompah
