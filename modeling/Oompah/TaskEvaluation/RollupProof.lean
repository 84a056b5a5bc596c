import Oompah.TaskEvaluation.LandingProof

/-!
# Proof of a rollup

A list of children is answered for as complete when the loop passes over every one of
them.  A child that owes a landing is passed over for any proven landing of the texts it
records, and a text that it does not record does not filter.
-/

namespace Oompah
namespace TaskEvaluation

open Foundation
open TaskTransitions (Status)

/-- The child is retired, does maintenance that is over, is done and owes no landing, is
waived, or its own landing is proven. -/
def Accounted (facts : WorkflowFacts) (child : RollupChild) : Prop :=
  child.archived = true ∨ (child.maintenance = true ∧ child.status.satisfied = true) ∨
    (child.nested = false ∧ child.maintenance = false ∧ child.status = .canonical .done ∧
      child.requiresLanding = false) ∨
    child.waived = true ∨
    exists item, item ∈ facts.landings ∧ item.state = .landed ∧
      item.source = child.landingSource ∧ item.target = child.landingTarget

/-- The child owes a landing of its own. -/
def owesLanding (child : RollupChild) : Bool :=
  !child.archived && !child.waived &&
    if child.nested then !(child.maintenance && child.status.satisfied)
    else !child.maintenance && child.requiresLanding

/-- The child records the source and the target of its landing. -/
def namesLanding (child : RollupChild) : Bool :=
  child.landingSource != "" && child.landingTarget != ""

/-- A child that owes a landing whose source or target it does not record. -/
def owesUnnamed (child : RollupChild) : Bool :=
  owesLanding child && !namesLanding child

/-- The children are listed without a cycle, each is passed over, and the landing of an epic
that names its branch and its target is known. -/
def ListComplete (rt : Runtime) (facts : WorkflowFacts) (value : Mapping)
    (children : List Value) : Prop :=
  children ≠ [] ∧ (value.get "acyclic").isFalse = false ∧ childrenPass rt facts children = true ∧
    (epicNamed rt value (targetRelative rt children) = true ->
      (ownLanding rt facts value).any (fun item => item.state ≠ .unknown) = true)

/-- The containment lists these children. -/
def Lists (facts : WorkflowFacts) (value : Mapping) (children : List Value) : Prop :=
  (facts.fact .containment).knownMapping = some value ∧
    (value.getD "children" (.tuple [])).sequence? = some children

/-- Every child of a target-relative list that is answered for as complete is accounted
for. -/
def AllAccounted (rt : Runtime) (facts : WorkflowFacts) (given : Answer) : Prop :=
  given.complete = true -> forall value children, Lists facts value children ->
    targetRelative rt children = true -> forall rawChild, rawChild ∈ children ->
      Accounted facts (rollupChild rt facts rawChild)

/-- A complete target-relative list has a child that owes a landing it does not name. -/
def UnnamedComplete (rt : Runtime) (facts : WorkflowFacts) : Prop :=
  exists value children, Lists facts value children ∧ ListComplete rt facts value children ∧
    targetRelative rt children = true ∧ exists rawChild, rawChild ∈ children ∧
      owesUnnamed (rollupChild rt facts rawChild) = true

/-- Two snapshots that differ by one more child. -/
structure ChildAdded (facts facts' : WorkflowFacts) (value value' : Mapping)
    (before after : List Value) (rawChild : Value) : Prop where
  lists : Lists facts value (before ++ after)
  lists' : Lists facts' value' (before ++ rawChild :: after)
  landings : facts'.landings = facts.landings
  project : facts'.projectId = facts.projectId
  task : facts'.taskId = facts.taskId
  others : forall key, key ≠ "children" -> value'.get key = value.get key

/-- The child is not complete by the contract of its list. -/
def ChildIncomplete (rt : Runtime) (facts : WorkflowFacts) (children : List Value)
    (rawChild : Value) : Prop :=
  if targetRelative rt children then ¬ Accounted facts (rollupChild rt facts rawChild)
  else (rollupChild rt facts rawChild).status.satisfied = false

section Rollup

variable {rt : Runtime} {view : TaskView} {facts : WorkflowFacts} {given : Answer}
variable {value : Mapping} {children : List Value} {child : RollupChild} {relative : Bool}

theorem complete_of_answer {terms : Terms} {prerequisites : List (Except PyError UnmetPrerequisite)}
    (h : answer terms prerequisites = .ok given) :
    given.complete =
      (terms.reasonCode == .rollupChildrenComplete ||
        terms.durableJobs.contains .epicAutoClose) := by
  unfold Answer.complete
  rw [terms_of_answer h]

theorem childrenCompleteDecision_complete
    (h : childrenCompleteDecision rt facts value relative = .ok given) :
    given.complete = true ↔ (epicNamed rt value relative = true ->
        (ownLanding rt facts value).any (fun item => item.state ≠ .unknown) = true) := by
  unfold childrenCompleteDecision at h
  cases hnamed : epicNamed rt value relative with
  | false =>
    rw [hnamed, if_neg Bool.false_ne_true] at h
    rw [complete_of_answer h]
    exact iff_of_true rfl fun hfalse => absurd hfalse Bool.false_ne_true
  | true =>
    rw [hnamed, if_pos rfl] at h
    unfold epicLandingDecision at h
    cases hown : ownLanding rt facts value with
    | none =>
      rw [hown] at h
      rw [complete_of_answer h]
      simp
    | some item =>
      rw [hown] at h
      cases hstate : item.state with
      | landed =>
        simp only [Option.any_some, hstate, decide_true, if_true] at h
        rw [complete_of_answer h]
        simp [hstate, epicLandedTerms]
      | notLanded =>
        simp only [Option.any_some, Option.all_some, hstate, reduceCtorEq, decide_false,
          Bool.false_eq_true, if_false] at h
        rw [complete_of_answer h]
        simp [hstate, childrenCompleteTerms]
      | unknown =>
        simp only [Option.any_some, Option.all_some, hstate, reduceCtorEq, decide_false,
          Bool.false_eq_true, if_false, decide_true, if_true] at h
        rw [complete_of_answer h]
        simp [hstate]

theorem rollupDecision_complete (hlists : Lists facts value children)
    (h : rollupDecision rt view facts = .ok given) :
    given.complete = true ↔ ListComplete rt facts value children := by
  unfold rollupDecision at h
  unfold ListComplete
  rw [hlists.left] at h
  dsimp only at h
  rw [hlists.right] at h
  dsimp only at h
  by_cases hnil : children = []
  · rw [if_pos hnil] at h
    rw [complete_of_answer h]
    simp [hnil]
  rw [if_neg hnil] at h
  cases hcycle : (value.get "acyclic").isFalse with
  | true =>
    rw [hcycle, if_pos rfl] at h
    rw [complete_of_answer h]
    simp
  | false =>
    rw [hcycle, if_neg Bool.false_ne_true] at h
    rcases childrenDecision_cases h with ⟨hpass, hcomplete⟩ | ⟨hpass, hwaits, _⟩
    · rw [childrenCompleteDecision_complete hcomplete, hpass]
      simp [hnil]
    · rw [hwaits, hpass]
      simp

/-- A proven landing of the texts that a child records, when it records both, is its own. -/
theorem childLanded_iff (hnames : namesLanding child = true) : childLanded facts child = true ↔
      exists item, item ∈ facts.landings ∧ item.state = .landed ∧
        item.source = child.landingSource ∧ item.target = child.landingTarget := by
  unfold namesLanding at hnames
  rw [Bool.and_eq_true, bne_iff_ne, bne_iff_ne] at hnames
  unfold childLanded childLandings
  simp only [List.any_eq_true, List.mem_filter, Bool.and_eq_true, Bool.or_eq_true, beq_iff_eq,
    decide_eq_true_eq, hnames.left, hnames.right, false_or]
  constructor
  · rintro ⟨item, ⟨hmem, hsource, htarget⟩, hstate⟩
    exact ⟨item, hmem, hstate, hsource, htarget⟩
  · rintro ⟨item, hmem, hstate, hsource, htarget⟩
    exact ⟨item, ⟨hmem, hsource, htarget⟩, hstate⟩

/-- A child that the loop passes over is accounted for unless it owes a landing whose
source or target it does not record. -/
theorem accounted_iff (hpasses : childPasses facts true child = true) :
    Accounted facts child ↔ owesUnnamed child = false := by
  have hexact : forall item : LandingFact, item.source = child.landingSource ->
      item.target = child.landingTarget -> namesLanding child = true := by
    intro item hsource htarget
    unfold namesLanding
    rw [← hsource, ← htarget, Bool.and_eq_true, bne_iff_ne, bne_iff_ne]
    exact ⟨item.source_named.right, item.target_named.right⟩
  unfold owesUnnamed
  cases howes : owesLanding child with
  | false =>
    refine iff_of_true ?_ rfl
    unfold owesLanding at howes
    unfold childPasses at hpasses
    unfold Accounted
    cases harchived : child.archived with
    | true => exact .inl rfl
    | false =>
      cases hwaived : child.waived with
      | true => exact .inr (.inr (.inr (.inl rfl)))
      | false =>
        cases hnested : child.nested with
        | true =>
          simp only [harchived, hwaived, hnested, Bool.not_false, Bool.true_and, if_true,
            Bool.not_eq_eq_eq_not, Bool.and_eq_true] at howes
          exact .inr (.inl howes)
        | false =>
          cases hmaintenance : child.maintenance with
          | true =>
            simp [harchived, hnested, hmaintenance] at hpasses
            exact .inr (.inl ⟨rfl, hpasses⟩)
          | false =>
            simp [harchived, hwaived, hnested, hmaintenance] at howes hpasses
            exact .inr (.inr (.inl ⟨rfl, rfl, hpasses.left, howes⟩))
  | true =>
    have howed := howes
    unfold owesLanding at howed
    unfold childPasses at hpasses
    simp only [Bool.and_eq_true, Bool.not_eq_true'] at howed
    rcases howed with ⟨⟨harchived, hwaived⟩, hrest⟩
    have hlanded : childLanded facts child = true := by
      cases hnested : child.nested with
      | true => simpa [harchived, hnested, hwaived] using hpasses
      | false =>
        simp [hnested] at hrest
        simp [harchived, hnested, hrest, hwaived] at hpasses
        exact hpasses.right
    constructor
    · rintro (h | ⟨hmaintenance, hsatisfied⟩ | ⟨hnested, hmaintenance, _, hrequires⟩ | h |
        ⟨item, _, _, hsource, htarget⟩)
      · rw [harchived] at h
        cases h
      · simp [hmaintenance, hsatisfied] at hrest
      · simp [hnested, hrequires] at hrest
      · rw [hwaived] at h
        cases h
      · rw [hexact item hsource htarget]
        rfl
    · intro hnamed
      have hnames : namesLanding child = true := by simpa using hnamed
      exact .inr (.inr (.inr (.inr ((childLanded_iff hnames).mp hlanded))))

theorem childPasses_of_complete {rawChild : Value} (h : ListComplete rt facts value children)
    (hmem : rawChild ∈ children) :
    childPasses facts (targetRelative rt children) (rollupChild rt facts rawChild) = true := by
  have hpass := h.right.right.left
  unfold childrenPass at hpass
  rw [List.all_eq_true] at hpass
  exact hpass _ (List.mem_map_of_mem hmem)

/-- A listed child of a complete list is incomplete exactly when the list is target-relative
and the child owes a landing it does not name. -/
theorem childIncomplete_iff {rawChild : Value} (h : ListComplete rt facts value children)
    (hmem : rawChild ∈ children) :
    ChildIncomplete rt facts children rawChild ↔
      targetRelative rt children = true ∧ owesUnnamed (rollupChild rt facts rawChild) = true := by
  have hpasses := childPasses_of_complete h hmem
  unfold ChildIncomplete
  cases hrelative : targetRelative rt children with
  | true =>
    rw [hrelative] at hpasses
    rw [if_pos rfl, accounted_iff hpasses, Bool.not_eq_false]
    simp
  | false =>
    rw [hrelative] at hpasses
    have hsatisfied : (rollupChild rt facts rawChild).status.satisfied = true := hpasses
    rw [if_neg Bool.false_ne_true, hsatisfied]
    simp

theorem allAccounted_iff (h : rollupDecision rt view facts = .ok given) :
    AllAccounted rt facts given ↔ ¬ UnnamedComplete rt facts := by
  constructor
  · rintro haccounted ⟨value, children, hlists, hcomplete, hrelative, rawChild, hmem, howes⟩
    have hpasses := childPasses_of_complete hcomplete hmem
    rw [hrelative] at hpasses
    have hgiven := (rollupDecision_complete hlists h).mpr hcomplete
    have hchild := haccounted hgiven value children hlists hrelative rawChild hmem
    rw [accounted_iff hpasses, howes] at hchild
    cases hchild
  · intro hnot hgiven value children hlists hrelative rawChild hmem
    have hcomplete := (rollupDecision_complete hlists h).mp hgiven
    have hpasses := childPasses_of_complete hcomplete hmem
    rw [hrelative] at hpasses
    rw [accounted_iff hpasses, ← Bool.not_eq_true]
    intro howes
    exact hnot ⟨value, children, hlists, hcomplete, hrelative, rawChild, hmem, howes⟩

/-- A list that is answered for as complete accounts for its children, and is not completed
by an incomplete child, unless a child owes a landing it does not name. -/
theorem rollupDecision_accounted_iff (h : rollupDecision rt view facts = .ok given) :
    (AllAccounted rt facts given ↔ ¬ UnnamedComplete rt facts) ∧
      forall {facts' : WorkflowFacts} {value value' : Mapping} {before after : List Value}
        {rawChild : Value} {given' : Answer},
        ChildAdded facts facts' value value' before after rawChild ->
        rollupDecision rt view facts' = .ok given' ->
        ((ChildIncomplete rt facts' (before ++ rawChild :: after) rawChild ->
            given.complete = false -> given'.complete = false) ↔
          ¬ (¬ ListComplete rt facts value (before ++ after) ∧
            ListComplete rt facts' value' (before ++ rawChild :: after) ∧
            targetRelative rt (before ++ rawChild :: after) = true ∧
            owesUnnamed (rollupChild rt facts' rawChild) = true)) := by
  refine ⟨allAccounted_iff h, ?_⟩
  intro facts' value value' before after rawChild given' hadded h'
  have hmem : rawChild ∈ before ++ rawChild :: after :=
    List.mem_append_right before List.mem_cons_self
  rw [← Bool.not_eq_true, ← Bool.not_eq_true, rollupDecision_complete hadded.lists h,
    rollupDecision_complete hadded.lists' h']
  constructor
  · rintro hkeeps ⟨hbefore, hafter, howes⟩
    exact hkeeps ((childIncomplete_iff hafter hmem).mpr howes) hbefore hafter
  · intro hnot hincomplete hbefore hafter
    exact hnot ⟨hbefore, hafter, (childIncomplete_iff hafter hmem).mp hincomplete⟩

end Rollup

/-!
# A nested epic without coordinates
-/

/-- An open nested epic that records neither the source nor the target of its landing. -/
def unnamedEpic : Mapping :=
  [("identifier", .str "c"), ("status", .str "Open"), ("kind", .str "nested_epic")]

def childrenObservations (children : List Value) : FactDomain -> FactObservation
  | .containment => .known (.mapping [("children", .tuple children)]) rfl
  | _ => .missing

/-- A branch of no child of the epic that has landed. -/
def strayLanding : LandingFact := otherLanding

def childrenFacts (children : List Value) : WorkflowFacts :=
  .snapshot (childrenObservations children) [strayLanding] (by
      intro item h
      cases h with
      | head => rfl
      | tail _ h => cases h)
    (.cons (by intro item h; cases h) .nil)

def unnamedFacts : WorkflowFacts := childrenFacts [.mapping unnamedEpic]

def epicView : TaskView where
  projectId := "p"
  taskId := "t"
  status := .canonical .open
  parentId := none
  issueType := "epic"
  targetBranch := none

theorem unnamedFacts_complete :
    exists given, rollupDecision .ascii epicView unnamedFacts = .ok given ∧
      given.complete = true := by
  apply exists_ok_of_passes
  decide +kernel

theorem unnamedFacts_lists :
    Lists unnamedFacts [("children", .tuple [.mapping unnamedEpic])] [.mapping unnamedEpic] :=
  ⟨rfl, rfl⟩

/-- An epic is complete beside a child that is open and has not landed. -/
theorem rollupDecision_unaccounted :
    exists given, rollupDecision .ascii epicView unnamedFacts = .ok given ∧
      ¬ AllAccounted .ascii unnamedFacts given := by
  rcases unnamedFacts_complete with ⟨given, hgiven, hcomplete⟩
  refine ⟨given, hgiven, ?_⟩
  rw [allAccounted_iff hgiven, not_not]
  have hlist := (rollupDecision_complete unnamedFacts_lists hgiven).mp hcomplete
  exact ⟨_, _, unnamedFacts_lists, hlist, by decide +kernel, _, .head _, by decide +kernel⟩

theorem unnamedEpic_added : ChildAdded (childrenFacts []) unnamedFacts [("children", .tuple [])]
    [("children", .tuple [.mapping unnamedEpic])] [] [] (.mapping unnamedEpic) where
  lists := ⟨rfl, rfl⟩
  lists' := unnamedFacts_lists
  landings := rfl
  project := rfl
  task := rfl
  others key hkey := by simp [Mapping.get, Mapping.getD, List.lookup_cons, beq_false_of_ne hkey]

theorem rollupDecision_accounted_iff_unnamed :
    exists given given', rollupDecision .ascii epicView (childrenFacts []) = .ok given ∧
      rollupDecision .ascii epicView unnamedFacts = .ok given' ∧
      (AllAccounted .ascii unnamedFacts given' ↔ ¬ UnnamedComplete .ascii unnamedFacts) ∧
      ¬ (ChildIncomplete .ascii unnamedFacts [.mapping unnamedEpic] (.mapping unnamedEpic) ->
        given.complete = false -> given'.complete = false) := by
  have hchildless : exists given, rollupDecision .ascii epicView (childrenFacts []) = .ok given ∧
      given.complete = false := by
    apply exists_ok_of_passes
    decide +kernel
  rcases hchildless with ⟨given, hgiven, _⟩
  rcases unnamedFacts_complete with ⟨given', hgiven', hcomplete⟩
  have hlist := (rollupDecision_complete unnamedFacts_lists hgiven').mp hcomplete
  refine ⟨given, given', hgiven, hgiven', (rollupDecision_accounted_iff hgiven').left, ?_⟩
  intro hkeeps
  exact ((rollupDecision_accounted_iff hgiven).right unnamedEpic_added hgiven').mp hkeeps
    ⟨fun hnone => hnone.left rfl, hlist, by decide +kernel, by decide +kernel⟩

end TaskEvaluation
end Oompah
