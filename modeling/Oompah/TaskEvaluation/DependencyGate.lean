import Oompah.TaskEvaluation.Answers

/-!
# Hard starts

Ownership of an implementation does not begin beside a hard start that is not met, unless
the task is in progress: there a recorded start, screening or exit is scheduled and the
dependencies are not read.
-/

namespace Oompah
namespace TaskEvaluation

open Foundation
open TaskTransitions (Status)

/-- The statuses in which ownership of an implementation can begin. -/
def startingStatuses : List Status :=
  [.open, .needsCiFix, .needsRebase, .inProgress]

/-- The dependencies are missing, stale, an error or malformed, or a hard start names no
task that is done, merged or archived. -/
def HardStartUnmet (rt : Runtime) (facts : WorkflowFacts) : Prop :=
  dependenciesMalformed (facts.fact .dependencies).knownMapping = true ∨
    exists value items, (facts.fact .dependencies).knownMapping = some value ∧
      (value.getD "hard_start" (.tuple [])).sequence? = some items ∧
        exists item, item ∈ items ∧ itemUnmet rt item = true

/-- Nothing by which ownership of an implementation begins. -/
def Startless (d : WorkDecision) : Prop :=
  (forall job, job ∈ startJobs -> job ∉ d.durableJobs) ∧
    forall action, action ∈ claimActions -> action ∉ d.permittedActions

instance (d : WorkDecision) : Decidable (Startless d) :=
  inferInstanceAs (Decidable (_ ∧ _))

/-- A start is scheduled for a task in progress. -/
def ProgressStarts (rt : Runtime) (view : TaskView) (facts : WorkflowFacts)
    (now : Instant) : Prop :=
  view.status = .canonical .inProgress ∧ SnapshotAgrees rt view facts ∧
    terminalProvenanceDecision rt view facts = none ∧ startScheduled rt facts now

section DependencyGate

variable {rt : Runtime} {task : Task} {view : TaskView} {facts : WorkflowFacts}
variable {now : Instant} {given : Answer} {d : WorkDecision} {status : Status}

theorem Decided.startless_iff (hd : Decided view given d) :
    Startless d ↔ given.terms.starts = false := by
  unfold Startless Terms.starts
  rw [hd.jobs, hd.actions, Bool.or_eq_false_iff]
  simp only [List.mem_toFinset, List.any_eq_false, List.contains_iff_mem]
  constructor
  · rintro ⟨hjobs, hactions⟩
    constructor
    · intro job hmem hstart
      exact hjobs job hstart hmem
    · intro action hmem hclaim
      exact hactions action hclaim hmem
  · rintro ⟨hjobs, hactions⟩
    constructor
    · intro job hstart hmem
      exact hjobs job hmem hstart
    · intro action hclaim hmem
      exact hactions action hmem hclaim

/-- Past the gate the dependencies are known and are lists. -/
theorem known_of_dependencyGate (hsensitive : status ∈ dependencySensitive)
    (h : dependencyGate status facts = none) :
    dependenciesMalformed (facts.fact .dependencies).knownMapping = false := by
  unfold dependencyGate at h
  rw [if_pos hsensitive] at h
  unfold FactObservation.knownMapping
  by_cases hstate : (facts.fact .dependencies).state = .known
  · rw [if_neg (not_not.mpr hstate)] at h
    rw [if_pos hstate]
    by_cases hmalformed : dependenciesMalformed (facts.fact .dependencies).value.mapping? = true
    · rw [if_pos hmalformed] at h
      cases h
    · simpa using hmalformed
  · rw [if_pos hstate] at h
    cases h

theorem hardStart_ne_nil {finish hardStart : List UnmetPrerequisite}
    (hunmet : HardStartUnmet rt facts)
    (hknown : dependenciesMalformed (facts.fact .dependencies).knownMapping = false)
    (h : prerequisites rt facts = .ok (finish, hardStart)) : hardStart ≠ [] := by
  rcases hunmet with hmalformed | ⟨value, items, hvalue, hitems, item, hmem, hitem⟩
  · rw [hknown] at hmalformed
    cases hmalformed
  · intro hnil
    rcases FactObservation.state_of_knownMapping hvalue with ⟨hstate, hmapping⟩
    unfold prerequisites at h
    rw [if_neg (not_not.mpr hstate), hmapping] at h
    rcases bind_eq_ok.mp h with ⟨first, _, hrest⟩
    rcases bind_eq_ok.mp hrest with ⟨second, hsecond, heq⟩
    cases heq
    rw [hnil] at hsecond
    rcases unresolved_eq_nil hsecond with ⟨others, hothers, hmet⟩
    rw [hitems] at hothers
    cases hothers
    rw [List.any_eq_false] at hmet
    exact hmet item hmem hitem

/-- The answer to a task that waits for a hard start. -/
theorem starts_iff (hanswered : Answered rt task view facts now given)
    (hepic : rt.lower view.issueType ≠ "epic") (hstatus : view.status = .canonical status)
    (hstarting : status ∈ startingStatuses) (hunmet : HardStartUnmet rt facts) :
    given.terms.starts = true ↔ ProgressStarts rt view facts now := by
  have hplain : given.terms.plain (!given.prerequisites.isEmpty) = true ->
      ¬ ProgressStarts rt view facts now ->
      (given.terms.starts = true ↔ ProgressStarts rt view facts now) := by
    intro hterms hnot
    refine iff_of_false ?_ hnot
    rw [Terms.starts_of_plain hterms]
    exact Bool.false_ne_true
  have hearlier : ProgressStarts rt view facts now ->
      status = .inProgress ∧ identityDecision rt task view facts = none := by
    rintro ⟨hprogress, hagrees, hunmarked, _⟩
    constructor
    · rw [hstatus] at hprogress
      cases hprogress
      rfl
    · exact (identityDecision_eq_none hprogress).mpr ⟨hprogress ▸ rfl, hagrees, hunmarked⟩
  cases hanswered with
  | early x hx hgiven =>
    apply hplain (shows_identityDecision hx given hgiven)
    intro hstarts
    rw [(hearlier hstarts).right] at hx
    cases hx
  | maintained other hother hearly x hx hgiven =>
    apply hplain (shows_maintenanceDecision hx given hgiven)
    intro hstarts
    rw [hstatus] at hother
    cases hother
    rw [(hearlier hstarts).left] at hx
    exact maintenanceDecision_ne_some (by decide) hx
  | rolledUp other hother hearly hmaintenance hrolls hgiven =>
    exact absurd (rollsUp_iff.mp hrolls).left hepic
  | gated other hother hearly hmaintenance hrolls x hx hgiven =>
    apply hplain (Terms.plain_of_ordinary (shows_dependencyGate hx given hgiven))
    intro hstarts
    rw [hstatus] at hother
    cases hother
    rw [(hearlier hstarts).left] at hx
    cases hx
  | dispatched other hother hearly hmaintenance hrolls hgate finish hardStart hpre hgiven =>
    rw [hstatus] at hother
    cases hother
    have hdispatched : status ∈ dependencySensitive -> status ≠ .inProgress ->
        statusDecision rt task view status facts now finish hardStart =
          dispatchDecision rt task status facts hardStart ->
        (given.terms.starts = true ↔ ProgressStarts rt view facts now) := by
      intro hsensitive hne hdispatch
      have hblocked := hardStart_ne_nil hunmet (known_of_dependencyGate hsensitive hgate) hpre
      rw [hdispatch] at hgiven
      have hordinary := shows_dispatchDecision_unmet hblocked given hgiven
      exact hplain (Terms.plain_of_ordinary hordinary) fun hstarts => hne (hearlier hstarts).left
    simp only [startingStatuses, List.mem_cons, List.not_mem_nil, or_false] at hstarting
    rcases hstarting with rfl | rfl | rfl | rfl
    · exact hdispatched (by decide) (by decide) rfl
    · exact hdispatched (by decide) (by decide) rfl
    · exact hdispatched (by decide) (by decide) rfl
    · rw [implementation_starts_iff hgiven]
      have hpassed := (identityDecision_eq_none hstatus).mp hearly
      constructor
      · intro hstarts
        exact ⟨hstatus, hpassed.right.left, hpassed.right.right, hstarts⟩
      · rintro ⟨_, _, _, hstarts⟩
        exact hstarts

/-- Beside a hard start that is not met, ownership of an implementation begins exactly
when a start is scheduled for a task in progress. -/
theorem evaluateTask_startless_iff {time : Option Instant} {policy : LivenessPolicy}
    (hview : taskView rt task = .ok view) (h : evaluateTask rt task facts time policy = .ok d)
    (hepic : rt.lower view.issueType ≠ "epic") (hstatus : view.status = .canonical status)
    (hstarting : status ∈ startingStatuses) (hunmet : HardStartUnmet rt facts) :
    Startless d ↔ ¬ ProgressStarts rt view facts (time.getD facts.collectedAt) := by
  rcases evaluateTask_eq_ok h with ⟨other, given, hother, hanswered, hd⟩
  rw [hview] at hother
  cases hother
  rw [hd.startless_iff, ← starts_iff hanswered hepic hstatus hstarting hunmet, Bool.not_eq_true]

end DependencyGate

/-!
# A start beside an open dependency
-/

/-- The task `t`, in progress. -/
def startingTask : Mapping :=
  [("identifier", .str "t"), ("status", .str "In Progress")]

/-- Its start is pending, and a task it depends on is open. -/
def startingObservations : FactDomain -> FactObservation
  | .task => .known (.mapping startingTask) rfl
  | .config =>
    .known (.mapping [("implementation_pending_action", .str "implementation_start")]) rfl
  | .dependencies =>
    .known (.mapping [("hard_start",
      .tuple [.mapping [("identifier", .str "u"), ("status", .str "Open")]])]) rfl
  | _ => .missing

def startingFacts : WorkflowFacts :=
  .unlanded startingObservations

theorem startingFacts_unmet : HardStartUnmet .ascii startingFacts :=
  .inr ⟨_, _, rfl, rfl, _, .head _, by decide +kernel⟩

theorem startingTask_view : exists view, taskView .ascii (.mapping startingTask) = .ok view ∧
      Runtime.ascii.lower view.issueType ≠ "epic" ∧ view.status = .canonical .inProgress := by
  apply exists_ok_of_passes
  decide +kernel

theorem startingTask_starts :
    exists d, evaluateTask .ascii (.mapping startingTask) startingFacts none livenessSlos = .ok d ∧
      ¬ Startless d := by
  apply exists_ok_of_passes
  decide +kernel

/-- A task in progress starts beside a hard start that is open. -/
theorem evaluateTask_starts_unmet :
    exists view d, taskView .ascii (.mapping startingTask) = .ok view ∧
      Runtime.ascii.lower view.issueType ≠ "epic" ∧
      view.status = .canonical .inProgress ∧ HardStartUnmet .ascii startingFacts ∧
      evaluateTask .ascii (.mapping startingTask) startingFacts none livenessSlos = .ok d ∧
      ¬ Startless d := by
  rcases startingTask_view with ⟨view, hview, hepic, hstatus⟩
  rcases startingTask_starts with ⟨d, hd, hstarts⟩
  exact ⟨view, d, hview, hepic, hstatus, startingFacts_unmet, hd, hstarts⟩

theorem evaluateTask_startless_iff_starting :
    exists view d, taskView .ascii (.mapping startingTask) = .ok view ∧
      evaluateTask .ascii (.mapping startingTask) startingFacts none livenessSlos = .ok d ∧
      (Startless d ↔ ¬ ProgressStarts .ascii view startingFacts startingFacts.collectedAt) := by
  rcases startingTask_view with ⟨view, hview, hepic, hstatus⟩
  rcases startingTask_starts with ⟨d, hd, _⟩
  have hiff := evaluateTask_startless_iff hview hd hepic hstatus (by decide) startingFacts_unmet
  exact ⟨view, d, hview, hd, hiff⟩

end TaskEvaluation
end Oompah
