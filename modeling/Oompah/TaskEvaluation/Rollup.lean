import Oompah.TaskEvaluation.Maintenance

/-!
# Rollup

The answer for a task that waits for its children.  A child without its own landing is
passed over when it is retired, when it does maintenance, when it owes no landing, or when
its owner waived it.
-/

namespace Oompah
namespace TaskEvaluation

open Foundation
open TaskTransitions (Status)

section Rollup

variable (rt : Runtime)

def allHex (text : String) : Bool :=
  text.toList.all fun c => ('0' ≤ c && c ≤ '9') || ('a' ≤ c && c ≤ 'f')

/-- `retained_terminal_child_waiver`, as whether there is a waiver. -/
def retainedTerminalChildWaiver (child : Mapping) (projectId parentId : String) : Bool :=
  match (child.get "retained_terminal_provenance").mapping? with
  | none => false
  | some raw =>
    let identifier := rt.clean (child.get "identifier")
    let source := rt.clean (child.get "landing_source")
    let target := rt.clean (child.get "landing_target")
    let childRevision := rt.cleanLower (child.get "revision")
    let authorityVersion := rt.cleanLower (child.get "authority_version")
    let status := canonicalizeStatus rt (child.get "status")
    projectId != "" && parentId != "" && identifier != "" && source != "" && target != "" &&
      (raw.get "schema_version").equalsInt 1 && !(raw.get "schema_version").isBool &&
      (raw.get "kind").equalsText "owner_terminal_provenance" &&
      (raw.get "project_id").equalsText projectId &&
      -- the third of three equal values: the first two are the parent's text
      (raw.get "parent_id").equalsText parentId &&
      (child.get "parent_id").equalsText parentId &&
      (raw.get "task_id").equalsText identifier &&
      (raw.get "status").equalsText status.text && status == .canonical .done &&
      (raw.get "landing_source").equalsText source &&
      (raw.get "landing_target").equalsText target &&
      (raw.get "revision").isText && rt.cleanLower (raw.get "revision") == childRevision &&
      40 ≤ childRevision.toList.length && childRevision.toList.length ≤ 64 &&
      allHex childRevision &&
      (raw.get "authority_version").equalsText authorityVersion &&
      authorityVersion.toList.length == 64 && allHex authorityVersion &&
      (raw.get "marker_version").int? == some 1 &&
      (raw.get "provenance_authority_generation").int?.any (fun generation => 0 ≤ generation) &&
      (raw.get "authorized_by").isText && rt.clean (raw.get "authorized_by") != "" &&
      (raw.get "actor_source").isText && rt.clean (raw.get "actor_source") != ""

/-!
# Children
-/

/-- The texts `_rollup_decision` reads of one child. -/
structure RollupChild where
  identifier : String
  kind : String
  status : TaskStatus
  maintenance : Bool
  archived : Bool
  nested : Bool
  requiresLanding : Bool
  waived : Bool
  landingSource : String
  landingTarget : String

def rollupChild (facts : WorkflowFacts) (rawChild : Value) : RollupChild :=
  let child := rawChild.mapping?.getD []
  let kind := rt.str ((child.get "kind").orElse (.str "normal"))
  let status := canonicalizeStatus rt (child.get "status")
  { identifier := rt.str ((child.get "identifier").orElse (.str "unknown"))
    kind := kind
    status := status
    maintenance := (child.get "maintenance").truthy || kind == "maintenance"
    archived := kind == "archived" || status == .canonical .archived
    nested :=
      kind == "nested_epic" || (kind == "nested" &&
          rt.lower (rt.str ((child.get "issue_type").orElse (.str ""))) == "epic")
    requiresLanding := (child.get "requires_landing").truthy
    waived := retainedTerminalChildWaiver rt child facts.projectId facts.taskId
    landingSource := rt.clean (child.get "landing_source")
    landingTarget := rt.clean (child.get "landing_target") }

/-- Some child is of the target-relative contract. -/
def targetRelative (children : List Value) : Bool :=
  children.any fun rawChild =>
    match rawChild.mapping? with
    | none => false
    | some child =>
      child.has "requires_landing" || ["nested", "nested_epic", "maintenance"].contains
          (rt.str ((child.get "kind").orElse (.str "")))

/-- The landings that are looked at for a child: a text that was not recorded does not
filter. -/
def childLandings (facts : WorkflowFacts) (child : RollupChild) : List LandingFact :=
  facts.landings.filter fun item =>
    (child.landingSource == "" || item.source == child.landingSource) &&
      (child.landingTarget == "" || item.target == child.landingTarget)

/-- The path of a child's landing, as a prerequisite names it. -/
def RollupChild.path (child : RollupChild) : String :=
  (if child.landingSource = "" then child.identifier else child.landingSource) ++ "->" ++
    if child.landingTarget = "" then "target" else child.landingTarget

/-- What the loop over the children appends for one of them. -/
inductive ChildState where
  | passed
  | incomplete (prerequisite : UnmetPrerequisite)
  | landingUnknown (prerequisite : UnmetPrerequisite)

/-- Some landing that is looked at for the child is proven. -/
def childLanded (facts : WorkflowFacts) (child : RollupChild) : Bool :=
  (childLandings facts child).any fun item => item.state = .landed

/-- One round of the loop, for a child whose landing is owed. -/
def landingState (facts : WorkflowFacts) (child : RollupChild) : Except PyError ChildState :=
  if (facts.fact .landing).state ≠ .known then do
    let unknown <- unmet ("landing." ++ (facts.fact .landing).state.text) child.path
      (facts.fact .landing).errorCode
    .ok (.landingUnknown unknown)
  else if childLanded facts child then .ok .passed
  else if ((childLandings facts child).any fun item => item.state = .unknown) ||
      (childLandings facts child).isEmpty then do
    let unknown <- unmet "landing.unknown" child.path none
    .ok (.landingUnknown unknown)
  else do
    let notLanded <- unmet "landing.not_landed" child.path none
    .ok (.incomplete notLanded)

/-- One round of the loop, for a child that is not complete by its status. -/
def incompleteState (child : RollupChild) : Except PyError ChildState := do
  let prerequisite <- unmet "rollup.child_incomplete" child.identifier (some child.status.text)
  .ok (.incomplete prerequisite)

/-- One round of the loop. -/
def childState (facts : WorkflowFacts) (relative : Bool) (child : RollupChild) :
    Except PyError ChildState :=
  if !relative then if child.status.satisfied then .ok .passed else incompleteState child
  else if child.archived then .ok .passed
  else if child.nested then
    if child.waived then .ok .passed else landingState facts child
  else if child.maintenance then
    if child.status.satisfied then .ok .passed else incompleteState child
  else if child.status ≠ .canonical .done then incompleteState child
  else if !child.requiresLanding then .ok .passed
  else if child.waived then .ok .passed
  else landingState facts child

def ChildState.incomplete? : ChildState -> Option UnmetPrerequisite
  | incomplete prerequisite => some prerequisite
  | _ => none

def ChildState.landingUnknown? : ChildState -> Option UnmetPrerequisite
  | landingUnknown prerequisite => some prerequisite
  | _ => none

/-!
# The answer
-/

/-- The landing of the epic itself: the first one with its source and target. -/
def epicLanding (facts : WorkflowFacts) (epicSource epicTarget : String) : Option LandingFact :=
  facts.landings.find? fun item => item.source = epicSource && item.target = epicTarget

def childrenCompleteTerms (relative : Bool) : Terms where
  disposition := .runnable
  reasonCode := .rollupChildrenComplete
  owner := some .rollup
  actions := [.rollupChildren]
  durableJobs := if relative then [.rollupReviewCreation] else [.rollupReconciliation]

def epicLandedTerms : Terms where
  disposition := .runnable
  reasonCode := .terminalImmediateTargetLandingProven
  owner := some .rollup
  actions := [.requestMerged]
  durableJobs := [.epicAutoClose]

/-- The answer by the landing of the epic itself, once every child has passed. -/
def epicLandingDecision (landing : Option LandingFact) (epicSource epicTarget : String) :
    Except PyError Answer :=
  if landing.any fun item => item.state = .landed then answer epicLandedTerms []
  else if landing.all fun item => item.state = .unknown then
    answer {
        disposition := .retryScheduled
        reasonCode := .landingEvidenceUnknown
        owner := some .rollup
        actions := [.refreshLanding]
        alert := .info
        durableJobs := [.epicTerminalValidation] }
      [unmet "landing.unknown" (epicSource ++ "->" ++ epicTarget)
        (landing.bind fun item => item.errorCode)]
  else answer (childrenCompleteTerms true) []

/-- The epic names its branch and its target, and its children are target-relative. -/
def epicNamed (value : Mapping) (relative : Bool) : Bool :=
  relative && rt.clean (value.get "epic_branch") != "" && rt.clean (value.get "target_branch") != ""

/-- The landing of the epic itself, where it names one. -/
def ownLanding (facts : WorkflowFacts) (value : Mapping) : Option LandingFact :=
  epicLanding facts (rt.clean (value.get "epic_branch")) (rt.clean (value.get "target_branch"))

/-- The answer once every child has passed. -/
def childrenCompleteDecision (facts : WorkflowFacts) (value : Mapping) (relative : Bool) :
    Except PyError Answer :=
  if epicNamed rt value relative then
    epicLandingDecision (ownLanding rt facts value) (rt.clean (value.get "epic_branch"))
      (rt.clean (value.get "target_branch"))
  else answer (childrenCompleteTerms relative) []

/-- The job that looks at the children again. -/
def childJob (relative : Bool) : DurableJob :=
  if relative then .childLandingVerification else .rollupReconciliation

/-- The lists `landing_unknown` and `incomplete` after the loop. -/
def landingUnknowns (states : List ChildState) : List UnmetPrerequisite :=
  (states.map ChildState.landingUnknown?).reduceOption

def incompletes (states : List ChildState) : List UnmetPrerequisite :=
  (states.map ChildState.incomplete?).reduceOption

/-- The answer after the loop. -/
def statesDecision (facts : WorkflowFacts) (value : Mapping) (relative : Bool)
    (states : List ChildState) : Except PyError Answer :=
  if landingUnknowns states ≠ [] then
    answer {
        disposition := .retryScheduled
        reasonCode := .landingEvidenceUnknown
        owner := some .rollup
        actions := [.refreshLanding]
        alert := .info
        durableJobs := [childJob relative] }
      ((landingUnknowns states).map .ok)
  else if incompletes states ≠ [] then
    answer {
        disposition := .blocked
        reasonCode := .rollupWaitingChildren
        owner := some .rollup
        actions := if relative then [.refreshLanding, .rollupChildren] else [.rollupChildren]
        durableJobs := [childJob relative] }
      ((incompletes states).map .ok)
  else childrenCompleteDecision rt facts value relative

/-- The answer for a containment that lists children and has no cycle. -/
def childrenDecision (facts : WorkflowFacts) (value : Mapping) (children : List Value) :
    Except PyError Answer := do
  let states <-
    (children.map (rollupChild rt facts)).mapM (childState facts (targetRelative rt children))
  statesDecision rt facts value (targetRelative rt children) states

/-- `_rollup_decision`. -/
def rollupDecision (view : TaskView) (facts : WorkflowFacts) : Except PyError Answer :=
  let wait := factWait facts .containment .rollup .rollupChildren .rollupReconciliation
  match (facts.fact .containment).knownMapping with
  | none => wait
  | some value =>
    match (value.getD "children" (.tuple [])).sequence? with
    | none => wait
    | some children =>
      if children = [] then
        answer {
            disposition := .retryScheduled
            reasonCode := .rollupChildrenMissing
            owner := some .rollup
            actions := [.rollupChildren]
            alert := .info
            durableJobs := [.rollupReconciliation] }
          [unmet "rollup.children_missing" view.taskId none]
      else if (value.get "acyclic").isFalse then
        answer {
            disposition := .actionRequired
            reasonCode := .operatorActionRequired
            owner := some .operator
            actions := [.resolveOperatorAction]
            alert := .warning }
          [unmet "containment.cycle" (rt.str ((value.get "cycle").orElse (.str view.taskId))) none]
      else childrenDecision rt facts value children

end Rollup

/-!
# Children that pass
-/

section Children

variable {rt : Runtime} {facts : WorkflowFacts} {relative : Bool} {child : RollupChild}

/-- The loop passes the child over. -/
def childPasses (facts : WorkflowFacts) (relative : Bool) (child : RollupChild) : Bool :=
  if !relative then child.status.satisfied
  else if child.archived then true
  else if child.nested then child.waived || childLanded facts child
  else if child.maintenance then child.status.satisfied
  else child.status == .canonical .done &&
    (!child.requiresLanding || child.waived || childLanded facts child)

theorem landing_known_of_landed (h : childLanded facts child = true) :
    (facts.fact .landing).state = .known := by
  apply WorkflowFacts.landing_known
  intro hnil
  unfold childLanded childLandings at h
  rw [hnil] at h
  cases h

theorem landingState_eq_passed :
    landingState facts child = .ok .passed ↔ childLanded facts child = true := by
  unfold landingState
  constructor
  · intro h
    split at h
    · rcases bind_eq_ok.mp h with ⟨p, _, heq⟩
      cases heq
    · split at h
      · assumption
      · split at h
        · rcases bind_eq_ok.mp h with ⟨p, _, heq⟩
          cases heq
        · rcases bind_eq_ok.mp h with ⟨p, _, heq⟩
          cases heq
  · intro h
    rw [if_neg (not_not.mpr (landing_known_of_landed h)), if_pos h]

theorem incompleteState_ne_passed : incompleteState child ≠ .ok .passed := by
  intro h
  rcases bind_eq_ok.mp h with ⟨p, _, heq⟩
  cases heq

theorem childState_eq_passed :
    childState facts relative child = .ok .passed ↔ childPasses facts relative child = true := by
  have hstatus : forall b : Bool,
      ((if b then .ok .passed else incompleteState child : Except PyError ChildState) =
        .ok .passed ↔ b = true) := by
    intro b
    cases b with
    | false => exact iff_of_false incompleteState_ne_passed Bool.false_ne_true
    | true => exact iff_of_true rfl rfl
  have hlanding : ((if child.waived then .ok .passed else landingState facts child :
      Except PyError ChildState) = .ok .passed ↔
        (child.waived || childLanded facts child) = true) := by
    cases child.waived with
    | false => exact landingState_eq_passed
    | true => exact iff_of_true rfl rfl
  unfold childState childPasses
  cases relative with
  | false => exact hstatus _
  | true =>
    cases child.archived with
    | true => exact iff_of_true rfl rfl
    | false =>
      cases child.nested with
      | true => exact hlanding
      | false =>
        cases child.maintenance with
        | true => exact hstatus _
        | false =>
          by_cases hdone : child.status = .canonical .done
          · have hbeq : (child.status == .canonical .done) = true := beq_iff_eq.mpr hdone
            simp only [Bool.not_true, Bool.false_eq_true, if_false, hdone, ne_eq,
              not_true_eq_false, BEq.rfl, Bool.true_and]
            cases child.requiresLanding with
            | false => exact iff_of_true rfl rfl
            | true => exact hlanding
          · have hbeq : (child.status == .canonical .done) = false := by simpa using hdone
            simp only [Bool.not_true, Bool.false_eq_true, if_false, ne_eq, hdone,
              not_false_eq_true, if_true, hbeq, Bool.false_and, iff_false]
            exact incompleteState_ne_passed

theorem states_passed {children : List RollupChild} {states : List ChildState}
    (h : children.mapM (childState facts relative) = .ok states)
    (hincomplete : incompletes states = []) (hunknown : landingUnknowns states = []) :
    children.all (childPasses facts relative) = true := by
  induction children generalizing states with
  | nil => rfl
  | cons child children ih =>
    rw [List.mapM_cons] at h
    rcases bind_eq_ok.mp h with ⟨state, hstate, hrest⟩
    rcases bind_eq_ok.mp hrest with ⟨others, hothers, heq⟩
    cases heq
    cases state with
    | passed =>
      rw [List.all_cons, childState_eq_passed.mp hstate, Bool.true_and]
      exact ih hothers hincomplete hunknown
    | incomplete p => cases hincomplete
    | landingUnknown p => cases hunknown

theorem landingUnknowns_replicate (n : Nat) :
    landingUnknowns (List.replicate n ChildState.passed) = [] := by
  unfold landingUnknowns
  rw [List.map_replicate]
  exact List.reduceOption_replicate_none

theorem incompletes_replicate (n : Nat) :
    incompletes (List.replicate n ChildState.passed) = [] := by
  unfold incompletes
  rw [List.map_replicate]
  exact List.reduceOption_replicate_none

theorem states_of_passes {children : List RollupChild}
    (h : children.all (childPasses facts relative) = true) :
    children.mapM (childState facts relative) =
      .ok (List.replicate children.length ChildState.passed) := by
  induction children with
  | nil => rfl
  | cons child children ih =>
    rw [List.all_cons, Bool.and_eq_true] at h
    rw [List.mapM_cons, childState_eq_passed.mpr h.left, ih h.right]
    rfl

end Children

/-!
# What is answered
-/

section Answers

variable {rt : Runtime} {view : TaskView} {facts : WorkflowFacts} {given : Answer}
variable {value : Mapping} {children : List Value} {relative : Bool}

/-- Every listed child is passed over. -/
def childrenPass (rt : Runtime) (facts : WorkflowFacts) (children : List Value) : Bool :=
  (children.map (rollupChild rt facts)).all (childPasses facts (targetRelative rt children))

/-- The landing of the epic itself is proven. -/
def epicLanded (rt : Runtime) (facts : WorkflowFacts) (value : Mapping) (relative : Bool) : Bool :=
  epicNamed rt value relative && (ownLanding rt facts value).any fun item => item.state = .landed

/-- The answer says that every child is complete. -/
def Answer.complete (given : Answer) : Bool :=
  given.terms.reasonCode == .rollupChildrenComplete ||
    given.terms.durableJobs.contains .epicAutoClose

theorem childrenCompleteDecision_cases
    (h : childrenCompleteDecision rt facts value relative = .ok given) :
    (epicLanded rt facts value relative = true ∧
      given = { terms := epicLandedTerms, prerequisites := [] }) ∨
    (epicLanded rt facts value relative = false ∧
      given.terms.modest (!given.prerequisites.isEmpty) = true) := by
  unfold childrenCompleteDecision epicLandingDecision at h
  unfold epicLanded
  cases hnamed : epicNamed rt value relative with
  | false =>
    rw [hnamed, if_neg Bool.false_ne_true] at h
    exact .inr ⟨rfl, shows_answer rfl given h⟩
  | true =>
    rw [hnamed, if_pos rfl] at h
    cases hlanded : (ownLanding rt facts value).any fun item => item.state = .landed with
    | true =>
      rw [hlanded, if_pos rfl] at h
      cases h
      exact .inl ⟨rfl, rfl⟩
    | false =>
      rw [hlanded, if_neg Bool.false_ne_true] at h
      refine .inr ⟨rfl, ?_⟩
      revert h
      apply shows_ite
      · intro _
        exact shows_answer rfl
      · intro _
        exact shows_answer rfl

theorem statesDecision_cases {states : List ChildState}
    (h : statesDecision rt facts value relative states = .ok given) :
    ((landingUnknowns states = [] ∧ incompletes states = []) ∧
      childrenCompleteDecision rt facts value relative = .ok given) ∨
    (¬ (landingUnknowns states = [] ∧ incompletes states = []) ∧ given.complete = false ∧
      given.terms.modest (!given.prerequisites.isEmpty) = true) := by
  unfold statesDecision at h
  by_cases hunknown : landingUnknowns states ≠ []
  · rw [if_pos hunknown] at h
    refine .inr ⟨fun hboth => hunknown hboth.left, ?_,
      shows_answer_constructed hunknown rfl given h⟩
    rcases bind_eq_ok.mp h with ⟨_, _, heq⟩
    cases heq
    cases relative with
    | true => rfl
    | false => rfl
  · rw [if_neg hunknown] at h
    by_cases hincomplete : incompletes states ≠ []
    · rw [if_pos hincomplete] at h
      have hmodest : forall r : Bool, Terms.modest {
          disposition := .blocked
          reasonCode := .rollupWaitingChildren
          owner := some .rollup
          actions := if r then [.refreshLanding, .rollupChildren] else [.rollupChildren]
          durableJobs := [childJob r] } true = true := by decide
      refine .inr ⟨fun hboth => hincomplete hboth.right, ?_,
        shows_answer_constructed hincomplete (hmodest relative) given h⟩
      rcases bind_eq_ok.mp h with ⟨_, _, heq⟩
      cases heq
      cases relative with
      | true => rfl
      | false => rfl
    · rw [if_neg hincomplete] at h
      exact .inl ⟨⟨not_not.mp hunknown, not_not.mp hincomplete⟩, h⟩

theorem childrenDecision_cases (h : childrenDecision rt facts value children = .ok given) :
    (childrenPass rt facts children = true ∧
      childrenCompleteDecision rt facts value (targetRelative rt children) = .ok given) ∨
    (childrenPass rt facts children = false ∧ given.complete = false ∧
      given.terms.modest (!given.prerequisites.isEmpty) = true) := by
  rcases bind_eq_ok.mp h with ⟨states, hstates, hrest⟩
  rcases statesDecision_cases hrest with ⟨⟨hunknown, hincomplete⟩, hcomplete⟩ | ⟨hnot, hwaits⟩
  · exact .inl ⟨states_passed hstates hincomplete hunknown, hcomplete⟩
  · refine .inr ⟨?_, hwaits⟩
    cases hpass : childrenPass rt facts children with
    | false => rfl
    | true =>
      have hreplicate := states_of_passes hpass
      rw [hstates] at hreplicate
      injection hreplicate with hreplicate
      refine absurd ⟨?_, ?_⟩ hnot
      · rw [hreplicate]
        exact landingUnknowns_replicate _
      · rw [hreplicate]
        exact incompletes_replicate _

/-- Children are listed, they form no cycle, each is passed over and the landing of the
epic itself is proven. -/
def rollupLands (rt : Runtime) (facts : WorkflowFacts) : Prop :=
  exists value children, (facts.fact .containment).knownMapping = some value ∧
    (value.getD "children" (.tuple [])).sequence? = some children ∧ children ≠ [] ∧
    (value.get "acyclic").isFalse = false ∧ childrenPass rt facts children = true ∧
    epicLanded rt facts value (targetRelative rt children) = true

theorem rollupDecision_cases (h : rollupDecision rt view facts = .ok given) :
    (rollupLands rt facts ∧ given = { terms := epicLandedTerms, prerequisites := [] }) ∨
    (¬ rollupLands rt facts ∧ given.terms.modest (!given.prerequisites.isEmpty) = true) := by
  unfold rollupDecision at h
  unfold rollupLands
  dsimp only at h
  cases hvalue : (facts.fact .containment).knownMapping with
  | none =>
    rw [hvalue] at h
    refine .inr ⟨?_, shows_factWait (fun _ => rfl) given h⟩
    rintro ⟨_, _, heq, _⟩
    cases heq
  | some value =>
    rw [hvalue] at h
    dsimp only at h
    cases hchildren : (value.getD "children" (.tuple [])).sequence? with
    | none =>
      rw [hchildren] at h
      refine .inr ⟨?_, shows_factWait (fun _ => rfl) given h⟩
      rintro ⟨_, _, heq, hseq, _⟩
      cases heq
      rw [hchildren] at hseq
      cases hseq
    | some children =>
      rw [hchildren] at h
      dsimp only at h
      by_cases hempty : children = []
      · rw [if_pos hempty] at h
        refine .inr ⟨?_, shows_answer rfl given h⟩
        rintro ⟨_, _, heq, hseq, hne, _⟩
        cases heq
        rw [hchildren] at hseq
        cases hseq
        exact hne hempty
      rw [if_neg hempty] at h
      cases hcycle : (value.get "acyclic").isFalse with
      | true =>
        rw [hcycle, if_pos rfl] at h
        refine .inr ⟨?_, shows_answer rfl given h⟩
        rintro ⟨_, _, heq, _, _, hacyclic, _⟩
        cases heq
        rw [hcycle] at hacyclic
        cases hacyclic
      | false =>
        rw [hcycle, if_neg Bool.false_ne_true] at h
        rcases childrenDecision_cases h with ⟨hpass, hcomplete⟩ | ⟨hpass, _, hmodest⟩
        · rcases childrenCompleteDecision_cases hcomplete with
            ⟨hlanded, heq⟩ | ⟨hlanded, hmodest⟩
          · exact .inl ⟨⟨value, children, rfl, hchildren, hempty, hcycle, hpass, hlanded⟩, heq⟩
          · refine .inr ⟨?_, hmodest⟩
            rintro ⟨_, _, heq, hseq, _, _, _, hyes⟩
            cases heq
            rw [hchildren] at hseq
            cases hseq
            rw [hlanded] at hyes
            cases hyes
        · refine .inr ⟨?_, hmodest⟩
          rintro ⟨_, _, heq, hseq, _, _, hyes, _⟩
          cases heq
          rw [hchildren] at hseq
          cases hseq
          rw [hpass] at hyes
          cases hyes

end Answers

/-!
# What is refused
-/

section Refusals

variable {rt : Runtime} {view : TaskView} {facts : WorkflowFacts} {relative : Bool}
variable {child : RollupChild} {value : Mapping} {children : List Value}

/-- The child is not complete by its status. -/
def statusIncomplete (relative : Bool) (child : RollupChild) : Bool :=
  if !relative then !child.status.satisfied
  else if child.archived then false
  else if child.nested then false
  else if child.maintenance then !child.status.satisfied
  else child.status != .canonical .done

/-- A child that is not complete by its status has a blank identifier. -/
def childFault (relative : Bool) (child : RollupChild) : Bool :=
  statusIncomplete relative child && strip child.identifier == ""

def rollupFault (rt : Runtime) (facts : WorkflowFacts) (value : Mapping) : Bool :=
  match (value.getD "children" (.tuple [])).sequence? with
  | none => false
  | some children =>
    if children = [] then false
    else if (value.get "acyclic").isFalse then rt.blank (value.get "cycle")
    else (children.map (rollupChild rt facts)).any (childFault (targetRelative rt children))

theorem path_named : strip child.path ≠ "" := by
  have harrow : strip "->" ≠ "" := strip_ne_of_any rfl
  unfold RollupChild.path
  exact strip_append_left (strip_append_right _ harrow) _

theorem returns_landingState : Returns (landingState facts child) := by
  unfold landingState
  have hunknown : strip "landing.unknown" ≠ "" := strip_ne_of_any rfl
  have hnot : strip "landing.not_landed" ≠ "" := strip_ne_of_any rfl
  rw [returns_ite]
  constructor
  · intro _
    rw [returns_bind_of_total (fun _ _ => returns_ok), returns_unmet]
    exact ⟨strip_append_right "landing." (state_text_named _), path_named⟩
  · intro _
    rw [returns_ite]
    refine ⟨fun _ => returns_ok, fun _ => ?_⟩
    rw [returns_ite]
    constructor
    · intro _
      rw [returns_bind_of_total (fun _ _ => returns_ok), returns_unmet]
      exact ⟨hunknown, path_named⟩
    · intro _
      rw [returns_bind_of_total (fun _ _ => returns_ok), returns_unmet]
      exact ⟨hnot, path_named⟩

theorem returns_incompleteState :
    Returns (incompleteState child) ↔ (strip child.identifier == "") = false := by
  have hcode : strip "rollup.child_incomplete" ≠ "" := strip_ne_of_any rfl
  unfold incompleteState
  rw [returns_bind_of_total (fun _ _ => returns_ok), returns_unmet]
  simp [hcode]

theorem returns_childState :
    Returns (childState facts relative child) ↔ childFault relative child = false := by
  have hstatus : forall b : Bool, (Returns (if b then .ok .passed else incompleteState child) ↔
        (!b && strip child.identifier == "") = false) := by
    intro b
    cases b with
    | false => exact returns_incompleteState
    | true => exact iff_of_true returns_ok rfl
  have hlanding : Returns (if child.waived then .ok .passed else landingState facts child) := by
    rw [returns_ite]
    exact ⟨fun _ => returns_ok, fun _ => returns_landingState⟩
  unfold childState childFault statusIncomplete
  cases relative with
  | false => exact hstatus _
  | true =>
    cases child.archived with
    | true => exact iff_of_true returns_ok rfl
    | false =>
      cases child.nested with
      | true => exact iff_of_true hlanding rfl
      | false =>
        cases child.maintenance with
        | true => exact hstatus _
        | false =>
          by_cases hdone : child.status = .canonical .done
          · simp only [Bool.not_true, Bool.false_eq_true, if_false, hdone, ne_eq,
              not_true_eq_false, bne_self_eq_false, Bool.false_and, iff_true]
            rw [returns_ite]
            exact ⟨fun _ => returns_ok, fun _ => hlanding⟩
          · have hbne : (child.status != .canonical .done) = true := bne_iff_ne.mpr hdone
            simp only [Bool.not_true, Bool.false_eq_true, if_false, ne_eq, hdone,
              not_false_eq_true, if_true, hbne, Bool.true_and]
            exact returns_incompleteState

theorem returns_childrenCompleteDecision :
    Returns (childrenCompleteDecision rt facts value relative) := by
  unfold childrenCompleteDecision epicLandingDecision
  have hcode : strip "landing.unknown" ≠ "" := strip_ne_of_any rfl
  have harrow : strip "->" ≠ "" := strip_ne_of_any rfl
  simp only [returns_ite, returns_answer_nil, implies_true, and_true, true_and]
  intro _ _ _
  rw [returns_answer_single, returns_unmet]
  exact ⟨hcode, strip_append_left (strip_append_right _ harrow) _⟩

theorem returns_statesDecision {states : List ChildState} :
    Returns (statesDecision rt facts value relative states) := by
  unfold statesDecision
  simp only [returns_ite, returns_answer_constructed, returns_childrenCompleteDecision,
    implies_true, and_self]

theorem returns_childrenDecision : Returns (childrenDecision rt facts value children) ↔
      (children.map (rollupChild rt facts)).any (childFault (targetRelative rt children)) =
        false := by
  unfold childrenDecision
  rw [returns_bind_of_total (fun _ _ => returns_statesDecision), returns_mapM, List.any_eq_false]
  simp only [returns_childState, Bool.not_eq_true]

theorem returns_rollupDecision (htask : strip view.taskId ≠ "") :
    Returns (rollupDecision rt view facts) ↔
      (facts.fact .containment).knownMapping.any (rollupFault rt facts) = false := by
  unfold rollupDecision
  dsimp only
  cases (facts.fact .containment).knownMapping with
  | none => exact iff_of_true returns_factWait rfl
  | some value =>
    rw [Option.any_some]
    unfold rollupFault
    dsimp only
    cases (value.getD "children" (.tuple [])).sequence? with
    | none => exact iff_of_true returns_factWait rfl
    | some children =>
      dsimp only
      by_cases hempty : children = []
      · rw [if_pos hempty, if_pos hempty]
        refine iff_of_true ?_ rfl
        rw [returns_answer_single, returns_unmet]
        exact ⟨strip_ne_of_any rfl, htask⟩
      rw [if_neg hempty, if_neg hempty]
      cases (value.get "acyclic").isFalse with
      | true =>
        have hcode : strip "containment.cycle" ≠ "" := strip_ne_of_any rfl
        rw [if_pos rfl, if_pos rfl, returns_answer_single, returns_unmet, Ne, Ne,
          Runtime.strip_orElse htask]
        simp [hcode]
      | false =>
        rw [if_neg Bool.false_ne_true, if_neg Bool.false_ne_true]
        exact returns_childrenDecision

end Refusals
end TaskEvaluation
end Oompah
