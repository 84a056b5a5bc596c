import Oompah.TaskEvaluation.Evaluate

/-!
# Where an answer comes from

An answer is given before the status is looked at, for a direct maintenance helper, by the
children of an epic, while the dependencies are not known, or by the status.  Every answer
that is given before the last of these is ordinary.
-/

namespace Oompah
namespace TaskEvaluation

open Foundation
open TaskTransitions (Status)

section Answers

variable {rt : Runtime} {task : Task} {view : TaskView} {facts : WorkflowFacts}
variable {now : Instant} {given : Answer} {status : Status}

variable {x : Except PyError Answer}

theorem shows_identityDecision
    (h : identityDecision rt task view facts = some x) : Shows Terms.plain x := by
  unfold identityDecision at h
  dsimp only at h
  split at h
  · exact Option.some.inj h ▸ shows_answer rfl
  split at h
  · exact Option.some.inj h ▸ shows_answer rfl
  split at h
  · exact Option.some.inj h ▸ shows_factWait fun _ => rfl
  split at h
  · exact Option.some.inj h ▸ shows_answer rfl
  split at h
  · exact Option.some.inj h ▸ shows_answer rfl
  split at h
  · rcases terminalProvenanceDecision_eq_some h with ⟨observed, heq⟩ | ⟨_, heq⟩
    · exact heq ▸ shows_invalidProvenance
    · exact heq ▸ shows_answer rfl
  · exact Option.some.inj h ▸ shows_answer rfl

theorem shows_maintenanceDecision
    (h : maintenanceDecision rt task status facts = .ok (some x)) : Shows Terms.plain x := by
  unfold maintenanceDecision at h
  split at h
  · cases h
  · rcases bind_eq_ok.mp h with ⟨helper, _, hrest⟩
    dsimp only at hrest
    split at hrest
    · exact Option.some.inj (Except.ok.inj hrest) ▸ shows_answer rfl
    · split at hrest
      · exact Option.some.inj (Except.ok.inj hrest) ▸ shows_answer rfl
      · cases hrest

theorem maintenanceDecision_ne_some (hstatus : status ∉ completionStatuses) :
    maintenanceDecision rt task status facts ≠ .ok (some x) := by
  intro h
  have hdone : status ≠ .done := by
    intro heq
    apply hstatus
    rw [heq]
    decide
  unfold maintenanceDecision at h
  split at h
  · cases h
  · rcases bind_eq_ok.mp h with ⟨helper, _, hrest⟩
    rw [if_neg (fun hboth => hstatus hboth.left), if_neg (fun hboth => hdone hboth.left)] at hrest
    cases hrest

theorem shows_dependencyGate
    (h : dependencyGate status facts = some x) : Shows Terms.ordinary x := by
  unfold dependencyGate at h
  dsimp only at h
  split at h
  · split at h
    · exact Option.some.inj h ▸ shows_factWait fun _ => rfl
    · split at h
      · exact Option.some.inj h ▸ shows_answer rfl
      · cases h
  · cases h

/-- The snapshot is of the task, and its task fact is of the same task and status. -/
def SnapshotAgrees (rt : Runtime) (view : TaskView) (facts : WorkflowFacts) : Prop :=
  identityMismatch view facts = false ∧ exists value, (facts.fact .task).knownMapping = some value ∧
      factIdentifier rt value = facts.taskId ∧ factProject rt facts value = facts.projectId ∧
        canonicalizeStatus rt (value.get "status") = view.status

/-- The status is looked at exactly when it is canonical and not final, the snapshot agrees
and no marker answers for it. -/
theorem identityDecision_eq_none (hstatus : view.status = .canonical status) :
    identityDecision rt task view facts = none ↔
      view.status.lifecycleFinal = false ∧ SnapshotAgrees rt view facts ∧
        terminalProvenanceDecision rt view facts = none := by
  unfold identityDecision SnapshotAgrees
  by_cases hmismatch : identityMismatch view facts = true
  · simp [hmismatch]
  rw [if_neg hmismatch]
  by_cases hfinal : view.status.lifecycleFinal = true
  · simp [hfinal]
  rw [if_neg hfinal]
  have hread : identityMismatch view facts = false := by simpa using hmismatch
  have hlive : view.status.lifecycleFinal = false := by simpa using hfinal
  cases hvalue : (facts.fact .task).knownMapping with
  | none => simp
  | some value =>
    dsimp only
    by_cases hother : factIdentifier rt value ≠ facts.taskId ∨
        factProject rt facts value ≠ facts.projectId
    · rw [if_pos hother]
      refine iff_of_false (by simp) ?_
      rintro ⟨_, ⟨_, other, heq, hidentifier, hproject, _⟩, _⟩
      cases heq
      rcases hother with hne | hne
      · exact hne hidentifier
      · exact hne hproject
    rw [if_neg hother]
    by_cases hchanged : canonicalizeStatus rt (value.get "status") ≠ view.status
    · rw [if_pos hchanged]
      refine iff_of_false (by simp) ?_
      rintro ⟨_, ⟨_, other, heq, _, _, hsame⟩, _⟩
      cases heq
      exact hchanged hsame
    rw [if_neg hchanged, hstatus]
    constructor
    · intro hnone
      push Not at hother
      exact ⟨hstatus ▸ hlive, ⟨hread, value, rfl, hother.left, hother.right,
        hstatus ▸ not_not.mp hchanged⟩, hnone⟩
    · rintro ⟨_, _, hnone⟩
      exact hnone

theorem rollsUp_iff :
    rollsUp rt view status = true ↔ rt.lower view.issueType = "epic" ∧ status ≠ .done := by
  simp [rollsUp]

/-- Where an answer comes from. -/
inductive Answered (rt : Runtime) (task : Task) (view : TaskView) (facts : WorkflowFacts)
    (now : Instant) (given : Answer) : Prop
  | early (x : Except PyError Answer) (hx : identityDecision rt task view facts = some x)
      (hgiven : x = .ok given)
  | maintained (status : Status) (hstatus : view.status = .canonical status)
      (hearly : identityDecision rt task view facts = none) (x : Except PyError Answer)
      (hx : maintenanceDecision rt task status facts = .ok (some x)) (hgiven : x = .ok given)
  | rolledUp (status : Status) (hstatus : view.status = .canonical status)
      (hearly : identityDecision rt task view facts = none)
      (hmaintenance : maintenanceDecision rt task status facts = .ok none)
      (hrolls : rollsUp rt view status = true) (hgiven : rollupDecision rt view facts = .ok given)
  | gated (status : Status) (hstatus : view.status = .canonical status)
      (hearly : identityDecision rt task view facts = none)
      (hmaintenance : maintenanceDecision rt task status facts = .ok none)
      (hrolls : rollsUp rt view status = false) (x : Except PyError Answer)
      (hx : dependencyGate status facts = some x) (hgiven : x = .ok given)
  | dispatched (status : Status) (hstatus : view.status = .canonical status)
      (hearly : identityDecision rt task view facts = none)
      (hmaintenance : maintenanceDecision rt task status facts = .ok none)
      (hrolls : rollsUp rt view status = false) (hgate : dependencyGate status facts = none)
      (finish hardStart : List UnmetPrerequisite)
      (hprerequisites : prerequisites rt facts = .ok (finish, hardStart))
      (hgiven : statusDecision rt task view status facts now finish hardStart = .ok given)

theorem answered_of_taskAnswer (h : taskAnswer rt task view facts now = .ok given) :
    Answered rt task view facts now given := by
  unfold taskAnswer at h
  cases hearly : identityDecision rt task view facts with
  | some x =>
    rw [hearly] at h
    exact .early x hearly h
  | none =>
    rw [hearly] at h
    cases hstatus : view.status with
    | custom text =>
      rw [hstatus] at h
      cases h
    | canonical status =>
      rw [hstatus] at h
      rcases bind_eq_ok.mp h with ⟨maintenance, hmaintenance, hrest⟩
      cases maintenance with
      | some x => exact .maintained status hstatus hearly x hmaintenance hrest
      | none =>
        cases hrolls : rollsUp rt view status with
        | true =>
          rw [hrolls, if_pos rfl] at hrest
          exact .rolledUp status hstatus hearly hmaintenance hrolls hrest
        | false =>
          rw [hrolls, if_neg Bool.false_ne_true] at hrest
          cases hgate : dependencyGate status facts with
          | some x =>
            rw [hgate] at hrest
            exact .gated status hstatus hearly hmaintenance hrolls x hgate hrest
          | none =>
            rw [hgate] at hrest
            rcases bind_eq_ok.mp hrest with ⟨⟨finish, hardStart⟩, hpre, hlast⟩
            exact .dispatched status hstatus hearly hmaintenance hrolls hgate finish
              hardStart hpre hlast

/-!
# Answers by the status
-/

variable {finish hardStart : List UnmetPrerequisite}

theorem shows_dispatchDecision :
    Shows Terms.modest (dispatchDecision rt task status facts hardStart) := by
  apply shows_bind
  intro ready _
  apply shows_ite
  · intro _
    exact shows_answer rfl
  intro _
  apply shows_ite
  · intro _
    exact shows_answer rfl
  intro _
  apply shows_ite
  · intro _
    exact shows_answer rfl
  intro _
  apply shows_ite
  · intro _
    exact shows_answer rfl
  intro _
  apply shows_ite
  · intro hunmet
    exact shows_answer_constructed hunmet rfl
  intro _
  apply shows_ite
  · intro _
    exact shows_answer rfl
  intro _
  apply shows_ite
  · intro _
    exact shows_answer rfl
  · intro _
    apply shows_answer
    split
    · rfl
    · rfl

/-- A task that is open or needs a repair does not start beside an unmet dependency. -/
theorem shows_dispatchDecision_unmet (hunmet : hardStart ≠ []) :
    Shows Terms.ordinary (dispatchDecision rt task status facts hardStart) := by
  apply shows_bind
  intro ready _
  apply shows_ite
  · intro _
    exact shows_answer rfl
  intro _
  apply shows_ite
  · intro _
    exact shows_answer rfl
  intro _
  apply shows_ite
  · intro _
    exact shows_answer rfl
  intro _
  apply shows_ite
  · intro _
    exact shows_answer rfl
  intro _
  rw [if_pos hunmet]
  exact shows_answer_constructed hunmet rfl

theorem shows_investigationDecision : Shows Terms.modest (investigationDecision rt facts now) := by
  apply shows_bind
  intro live _
  apply shows_ite
  · intro _
    exact shows_answer rfl
  · intro _
    exact shows_answer rfl

theorem shows_duplicateDecision : Shows Terms.modest (duplicateDecision rt facts now) := by
  apply shows_ite
  · intro _
    exact shows_answer rfl
  intro _
  apply shows_ite
  · intro _
    exact shows_answer rfl
  intro _
  apply shows_ite
  · intro _
    exact shows_answer rfl
  · intro _
    exact shows_investigationDecision

/-!
# Decisions
-/

/-- A decision says what an answer gave it, and is due again when the answer asks for it
and the status has a bound. -/
structure Decided (view : TaskView) (given : Answer) (d : WorkDecision) : Prop where
  status : d.status = view.status
  disposition : d.disposition = given.terms.disposition
  reasonCode : d.reasonCode = given.terms.reasonCode
  prerequisites : d.unmetPrerequisites = given.prerequisites
  actions : d.permittedActions = given.terms.actions.toFinset
  alert : d.alertLevel = given.terms.alert
  jobs : d.durableJobs = given.terms.durableJobs.toFinset
  recommended : d.recommendedStatus = given.terms.recommendedStatus.map TaskStatus.canonical
  due : d.nextReassessmentAt.isSome = true ↔
    given.terms.reassess = true ∧ view.status.sloKey.isSome = true

theorem due_iff {due : Option Instant} (h : nextReassessmentAt view facts given.terms = .ok due) :
    due.isSome = true ↔ given.terms.reassess = true ∧ view.status.sloKey.isSome = true := by
  unfold nextReassessmentAt at h
  by_cases hreassess : given.terms.reassess = true
  · rw [if_pos hreassess] at h
    unfold reassessment at h
    cases hkey : view.status.sloKey with
    | none =>
      rw [hkey] at h
      cases h
      simp
    | some key =>
      rw [hkey] at h
      rcases bind_eq_ok.mp h with ⟨next, _, heq⟩
      cases heq
      simp [hreassess]
  · rw [if_neg hreassess] at h
    cases h
    simp [hreassess]

theorem decided_of_decision {d : WorkDecision} (hview : taskView rt task = .ok view)
    (h : decision rt view facts given = .ok d) : Decided view given d := by
  rcases decision_eq_ok (taskView_status hview) h with
    ⟨hstatus, hdisposition, hreason, hprerequisites, hactions, halert, hjobs, hrecommended, hdue⟩
  exact ⟨hstatus, hdisposition, hreason, hprerequisites, hactions, halert, hjobs, hrecommended,
    due_iff hdue⟩

theorem evaluateTask_eq_ok {policy : LivenessPolicy} {time : Option Instant} {d : WorkDecision}
    (h : evaluateTask rt task facts time policy = .ok d) :
    exists view given, taskView rt task = .ok view ∧
      Answered rt task view facts (time.getD facts.collectedAt) given ∧ Decided view given d := by
  rcases bind_eq_ok.mp h with ⟨first, hfirst, hrest⟩
  rcases bind_eq_ok.mp hfirst with ⟨view, hview, hanswer⟩
  rcases bind_eq_ok.mp hanswer with ⟨given, hgiven, hdecision⟩
  have hdecided := decided_of_decision hview hdecision
  refine ⟨view, given, hview, answered_of_taskAnswer hgiven, ?_⟩
  split at hrest
  · rename_i due key hdue hkey
    rcases bind_eq_ok.mp hrest with ⟨later, _, heq⟩
    cases heq
    refine { hdecided with due := ?_ }
    rw [← hdecided.due, hdue]
    rfl
  · cases hrest
    exact hdecided

end Answers
end TaskEvaluation
end Oompah
