import Mathlib.Data.Finset.Insert
import Oompah.TaskEvaluation.Answers

/-!
# No dead ends

A decision lets a task advance when the task has ended, when someone is alerted to act or
when it is looked at again.  Two answers do not: a custom status has no bound within which
it is looked at again, and a parked submission of a task in progress is blocked by nothing
that is named.
-/

namespace Oompah
namespace TaskEvaluation

open Foundation
open TaskTransitions (Status)

/-- The task has ended, someone is alerted to act or it is looked at again, and what
blocks a task is named. -/
def NotDeadEnd (d : WorkDecision) : Prop :=
  ((d.disposition = .terminal ∧ d.durableJobs = ∅ ∧ d.recommendedStatus = none) ∨
      (d.actionRequired = true ∧ (d.alertLevel = .warning ∨ d.alertLevel = .critical)) ∨
      d.nextReassessmentAt.isSome = true) ∧
    (d.disposition = .blocked -> d.status ≠ .canonical .proposed ->
      d.status ≠ .canonical .backlog -> Multiset.card d.unmetPrerequisites ≠ 0)

instance (d : WorkDecision) : Decidable (NotDeadEnd d) :=
  inferInstanceAs (Decidable (_ ∧ _))

/-- The task fact of a custom status is not known, or it is of another status. -/
def CustomUnread (rt : Runtime) (view : TaskView) (facts : WorkflowFacts) : Prop :=
  (exists text, view.status = .custom text) ∧ identityMismatch view facts = false ∧
    forall value, (facts.fact .task).knownMapping = some value ->
      factIdentifier rt value = facts.taskId ∧ factProject rt facts value = facts.projectId ∧
        canonicalizeStatus rt (value.get "status") ≠ view.status

/-- A task in progress whose accepted submission is parked. -/
def ProgressParked (rt : Runtime) (view : TaskView) (facts : WorkflowFacts)
    (now : Instant) : Prop :=
  view.status = .canonical .inProgress ∧ rt.lower view.issueType ≠ "epic" ∧
    SnapshotAgrees rt view facts ∧ terminalProvenanceDecision rt view facts = none ∧
      submissionParked rt facts now

section Liveness

variable {rt : Runtime} {task : Task} {view : TaskView} {facts : WorkflowFacts}
variable {now : Instant} {given : Answer} {d : WorkDecision}

theorem visible_iff_level {level : AlertSeverity} :
    level.visible = true ↔ level = .warning ∨ level = .critical := by
  cases level <;> decide

theorem Decided.actionRequired_iff (hd : Decided view given d) :
    d.actionRequired = true ↔ given.terms.disposition = .actionRequired := by
  rw [d.required_iff, hd.disposition]

theorem Decided.alerted (hd : Decided view given d)
    (h : given.terms.disposition = .actionRequired) :
    d.actionRequired = true ∧ (d.alertLevel = .warning ∨ d.alertLevel = .critical) := by
  have hrequired := hd.actionRequired_iff.mpr h
  exact ⟨hrequired, visible_iff_level.mp (d.visible_iff.mpr hrequired)⟩

theorem Decided.ended (hd : Decided view given d) (hterminal : given.terms.disposition = .terminal)
    (hjobs : given.terms.durableJobs = []) (hrecommended : given.terms.recommendedStatus = none) :
    d.disposition = .terminal ∧ d.durableJobs = ∅ ∧ d.recommendedStatus = none := by
  rw [hd.disposition, hd.jobs, hd.recommended, hjobs, hrecommended]
  exact ⟨hterminal, rfl, rfl⟩

theorem Decided.named_iff (hd : Decided view given d) :
    Multiset.card d.unmetPrerequisites ≠ 0 ↔ (!given.prerequisites.isEmpty) = true := by
  rw [hd.prerequisites, Multiset.coe_card]
  cases given.prerequisites with
  | nil => simp
  | cons p rest => simp

/-- A settled answer to a task whose status has a bound is no dead end. -/
theorem notDeadEnd_of_settled (hd : Decided view given d)
    (hkey : view.status.sloKey.isSome = true) (h : given.settled = true) : NotDeadEnd d := by
  unfold Answer.settled Terms.settled at h
  simp only [Bool.and_eq_true, Bool.or_eq_true, beq_iff_eq, bne_iff_ne, List.isEmpty_iff,
    Option.isNone_iff_eq_none, decide_eq_true_eq] at h
  rcases h with ⟨⟨_, hadvance⟩, hblocked⟩
  constructor
  · rcases hadvance with (hreassess | hrequired) | ⟨⟨hterminal, hjobs⟩, hrecommended⟩
    · exact .inr (.inr (hd.due.mpr ⟨hreassess, hkey⟩))
    · exact .inr (.inl (hd.alerted hrequired))
    · exact .inl (hd.ended hterminal hjobs hrecommended)
  · intro hdisposition _ _
    rw [hd.named_iff]
    rcases hblocked with hnot | hnamed
    · exact absurd (hd.disposition.symm.trans hdisposition) hnot
    · exact hnamed

/-- The answer to a task whose status has a bound is settled exactly when its decision is
no dead end. -/
theorem notDeadEnd_iff_settled (hd : Decided view given d)
    (hkey : view.status.sloKey.isSome = true) (hproposed : view.status ≠ .canonical .proposed)
    (hbacklog : view.status ≠ .canonical .backlog) :
    NotDeadEnd d ↔ given.settled = true := by
  refine ⟨?_, notDeadEnd_of_settled hd hkey⟩
  rintro ⟨hadvance, hblocked⟩
  have hagrees : given.terms.Agrees := by
    unfold Terms.Agrees
    rw [← hd.alert, ← hd.disposition, ← d.required_iff]
    exact d.visible_iff
  unfold Answer.settled Terms.settled
  simp only [Bool.and_eq_true, Bool.or_eq_true, beq_iff_eq, bne_iff_ne, List.isEmpty_iff,
    Option.isNone_iff_eq_none, decide_eq_true_eq]
  refine ⟨⟨hagrees, ?_⟩, ?_⟩
  · rcases hadvance with ⟨hterminal, hjobs, hrecommended⟩ | ⟨hrequired, _⟩ | hdue
    · rw [hd.disposition] at hterminal
      rw [hd.jobs, List.toFinset_eq_empty_iff] at hjobs
      rw [hd.recommended, Option.map_eq_none_iff] at hrecommended
      exact .inr ⟨⟨hterminal, hjobs⟩, hrecommended⟩
    · exact .inl (.inr (hd.actionRequired_iff.mp hrequired))
    · exact .inl (.inl (hd.due.mp hdue).left)
  · by_cases hdisposition : given.terms.disposition = .blocked
    · right
      rw [← hd.named_iff]
      apply hblocked (hd.disposition.trans hdisposition)
      · rw [hd.status]
        exact hproposed
      · rw [hd.status]
        exact hbacklog
    · exact .inl hdisposition

/-- A task that waits for a person's decision is looked at again. -/
theorem notDeadEnd_of_exempt (hd : Decided view given d) (hkey : view.status.sloKey.isSome = true)
    (hexempt : view.status = .canonical .proposed ∨ view.status = .canonical .backlog)
    (hreassess : given.terms.reassess = true) : NotDeadEnd d := by
  refine ⟨.inr (.inr (hd.due.mpr ⟨hreassess, hkey⟩)), ?_⟩
  intro _ hproposed hbacklog
  rw [hd.status] at hproposed hbacklog
  rcases hexempt with h | h
  · exact absurd h hproposed
  · exact absurd h hbacklog

theorem custom_of_unbounded {status : TaskStatus} (hkey : status.sloKey = none)
    (hfinal : ¬ status.lifecycleFinal = true) : exists text, status = .custom text := by
  cases status with
  | canonical status => exact absurd (TaskStatus.sloKey_eq_none.mp hkey) hfinal
  | custom text => exact ⟨text, rfl⟩

/-- An early answer to a status without a bound. -/
theorem early_unbounded {x : Except PyError Answer} (hkey : view.status.sloKey = none)
    (hx : identityDecision rt task view facts = some x) (hgiven : x = .ok given) :
    (CustomUnread rt view facts ∧ given.terms.disposition = .retryScheduled) ∨
    (¬ CustomUnread rt view facts ∧ (given.terms.disposition = .actionRequired ∨
        (given.terms.disposition = .terminal ∧ given.terms.durableJobs = [] ∧
          given.terms.recommendedStatus = none))) := by
  have hterms : forall terms prerequisites, some (answer terms prerequisites) = some x ->
      given.terms = terms :=
    fun terms prerequisites h => terms_of_answer ((Option.some.inj h).trans hgiven)
  unfold identityDecision at hx
  dsimp only at hx
  split at hx
  · rename_i hmismatch
    refine .inr ⟨?_, .inl ?_⟩
    · rintro ⟨_, hmatch, _⟩
      rw [hmismatch] at hmatch
      cases hmatch
    · rw [hterms _ _ hx]
  rename_i hmatch
  split at hx
  · rename_i hfinal
    refine .inr ⟨?_, .inr ?_⟩
    · rintro ⟨⟨text, hcustom⟩, _⟩
      rw [hcustom] at hfinal
      cases hfinal
    · rw [hterms _ _ hx]
      exact ⟨rfl, rfl, rfl⟩
  rename_i hfinal
  have hcustom := custom_of_unbounded hkey hfinal
  have hidentity : identityMismatch view facts = false := by simpa using hmatch
  split at hx
  · rename_i hnone
    refine .inl ⟨⟨hcustom, hidentity, ?_⟩, ?_⟩
    · intro value hvalue
      rw [hnone] at hvalue
      cases hvalue
    · have hterms := terms_of_answer ((Option.some.inj hx).trans hgiven)
      rw [hterms]
  rename_i value hvalue
  split at hx
  · rename_i hother
    refine .inr ⟨?_, .inl ?_⟩
    · rintro ⟨_, _, hread⟩
      rcases hread value hvalue with ⟨hidentifier, hproject, _⟩
      rcases hother with hne | hne
      · exact hne hidentifier
      · exact hne hproject
    · rw [hterms _ _ hx]
  rename_i hsame
  split at hx
  · rename_i hstatus
    refine .inl ⟨⟨hcustom, hidentity, ?_⟩, ?_⟩
    · intro other hother
      rw [hvalue] at hother
      cases hother
      exact ⟨not_not.mp fun h => hsame (.inl h), not_not.mp fun h => hsame (.inr h), hstatus⟩
    · rw [hterms _ _ hx]
  rename_i hstatus
  split at hx
  · rename_i status hcanonical
    rcases hcustom with ⟨text, hcustom⟩
    rw [hcanonical] at hcustom
    cases hcustom
  · refine .inr ⟨?_, .inl ?_⟩
    · rintro ⟨_, _, hread⟩
      exact hstatus (hread value hvalue).right.right
    · rw [hterms _ _ hx]

/-- The answer by a status, apart from the two that wait for a person's decision. -/
theorem statusDecision_settled {status : Status} {finish hardStart : List UnmetPrerequisite}
    (hproposed : status ≠ .proposed) (hbacklog : status ≠ .backlog)
    (h : statusDecision rt task view status facts now finish hardStart = .ok given) :
    given.settled = true ↔ ¬ (status = .inProgress ∧ submissionParked rt facts now) := by
  have hother : given.settled = true -> status ≠ .inProgress ->
      (given.settled = true ↔ ¬ (status = .inProgress ∧ submissionParked rt facts now)) :=
    fun hsettled hne => iff_of_true hsettled fun hboth => hne hboth.left
  cases status with
  | proposed => exact absurd rfl hproposed
  | backlog => exact absurd rfl hbacklog
  | «open» => exact hother (Answer.settled_of_modest (shows_dispatchDecision given h)) (by decide)
  | needsCiFix =>
    exact hother (Answer.settled_of_modest (shows_dispatchDecision given h)) (by decide)
  | needsRebase =>
    exact hother (Answer.settled_of_modest (shows_dispatchDecision given h)) (by decide)
  | inProgress =>
    rw [implementation_settled_iff h]
    simp
  | needsAnswer => exact hother (settled_of_answer h rfl) (by decide)
  | needsHuman => exact hother (settled_of_answer h rfl) (by decide)
  | inReview =>
    rcases reviewDecision_cases h with ⟨_, heq⟩ | ⟨_, hmodest⟩
    · exact hother (heq ▸ rfl) (by decide)
    · exact hother (Answer.settled_of_modest hmodest) (by decide)
  | inValidation =>
    exact hother (Answer.settled_of_ordinary (shows_validationDecision given h)) (by decide)
  | readyToIntegrate =>
    exact hother (Answer.settled_of_ordinary (shows_integrationDecision given h)) (by decide)
  | decomposed =>
    rcases rollupDecision_cases h with ⟨_, heq⟩ | ⟨_, hmodest⟩
    · exact hother (heq ▸ rfl) (by decide)
    · exact hother (Answer.settled_of_modest hmodest) (by decide)
  | duplicateCandidate =>
    have hduplicate : duplicateDecision rt facts now = .ok given := h
    exact hother (Answer.settled_of_modest (shows_duplicateDecision given hduplicate)) (by decide)
  | done =>
    rcases landingDecision_cases h with ⟨_, heq⟩ | ⟨_, hmodest⟩
    · exact hother (heq ▸ rfl) (by decide)
    · exact hother (Answer.settled_of_modest hmodest) (by decide)
  | merged => cases h
  | archived => cases h

theorem identityDecision_final {status : Status} (hstatus : view.status = .canonical status)
    (hearly : identityDecision rt task view facts = none) :
    view.status.sloKey.isSome = true := by
  cases hkey : view.status.sloKey with
  | some key => rfl
  | none =>
    have hfinal : view.status.lifecycleFinal = true := by
      rw [hstatus] at hkey ⊢
      exact TaskStatus.sloKey_eq_none.mp hkey
    unfold identityDecision at hearly
    by_cases hmismatch : identityMismatch view facts = true
    · rw [if_pos hmismatch] at hearly
      cases hearly
    · rw [if_neg hmismatch, if_pos hfinal] at hearly
      cases hearly

theorem notDeadEnd_iff (hanswered : Answered rt task view facts now given)
    (hd : Decided view given d) :
    NotDeadEnd d ↔ ¬ CustomUnread rt view facts ∧ ¬ ProgressParked rt view facts now := by
  have hlater : forall status, view.status = .canonical status ->
      identityDecision rt task view facts = none -> given.settled = true ->
      ¬ ProgressParked rt view facts now ->
      (NotDeadEnd d ↔ ¬ CustomUnread rt view facts ∧ ¬ ProgressParked rt view facts now) := by
    intro status hstatus hearly hsettled hparked
    refine iff_of_true ?_ ⟨?_, hparked⟩
    · exact notDeadEnd_of_settled hd (identityDecision_final hstatus hearly) hsettled
    · rintro ⟨⟨text, hcustom⟩, _⟩
      rw [hstatus] at hcustom
      cases hcustom
  cases hanswered with
  | early x hx hgiven =>
    have hparked : ¬ ProgressParked rt view facts now := by
      rintro ⟨hprogress, _, hagrees, hunmarked, _⟩
      have hnone : identityDecision rt task view facts = none :=
        (identityDecision_eq_none hprogress).mpr ⟨hprogress ▸ rfl, hagrees, hunmarked⟩
      rw [hx] at hnone
      cases hnone
    have hsettled := Answer.settled_of_plain (shows_identityDecision hx given hgiven)
    cases hkey : view.status.sloKey with
    | some key =>
      have hbound : view.status.sloKey.isSome = true := by
        rw [hkey]
        rfl
      refine iff_of_true (notDeadEnd_of_settled hd hbound hsettled) ⟨?_, hparked⟩
      rintro ⟨⟨text, hcustom⟩, _⟩
      rw [hcustom] at hkey
      cases hkey
    | none =>
      rcases early_unbounded hkey hx hgiven with ⟨hunread, hretry⟩ | ⟨hread, hends⟩
      · refine iff_of_false ?_ fun hboth => hboth.left hunread
        rintro ⟨hadvance, _⟩
        rcases hadvance with ⟨hterminal, _⟩ | ⟨hrequired, _⟩ | hdue
        · rw [hd.disposition, hretry] at hterminal
          cases hterminal
        · rw [hd.actionRequired_iff, hretry] at hrequired
          cases hrequired
        · rw [hd.due, hkey] at hdue
          cases hdue.right
      · refine iff_of_true ⟨?_, ?_⟩ ⟨hread, hparked⟩
        · rcases hends with hrequired | ⟨hterminal, hjobs, hrecommended⟩
          · exact .inr (.inl (hd.alerted hrequired))
          · exact .inl (hd.ended hterminal hjobs hrecommended)
        · intro hblocked
          rw [hd.disposition] at hblocked
          rcases hends with hrequired | ⟨hterminal, _⟩
          · rw [hrequired] at hblocked
            cases hblocked
          · rw [hterminal] at hblocked
            cases hblocked
  | maintained status hstatus hearly x hx hgiven =>
    apply hlater status hstatus hearly
    · exact Answer.settled_of_plain (shows_maintenanceDecision hx given hgiven)
    · rintro ⟨hprogress, _⟩
      rw [hstatus] at hprogress
      cases hprogress
      exact maintenanceDecision_ne_some (by decide) hx
  | rolledUp status hstatus hearly hmaintenance hrolls hgiven =>
    apply hlater status hstatus hearly
    · rcases rollupDecision_cases hgiven with ⟨_, heq⟩ | ⟨_, hmodest⟩
      · rw [heq]
        rfl
      · exact Answer.settled_of_modest hmodest
    · rintro ⟨_, hnot, _⟩
      exact hnot (rollsUp_iff.mp hrolls).left
  | gated status hstatus hearly hmaintenance hrolls x hx hgiven =>
    apply hlater status hstatus hearly
    · exact Answer.settled_of_ordinary (shows_dependencyGate hx given hgiven)
    · rintro ⟨hprogress, _⟩
      rw [hstatus] at hprogress
      cases hprogress
      cases hx
  | dispatched status hstatus hearly hmaintenance hrolls hgate finish hardStart hpre hgiven =>
    have hkey := identityDecision_final hstatus hearly
    have hunread : ¬ CustomUnread rt view facts := by
      rintro ⟨⟨text, hcustom⟩, _⟩
      rw [hstatus] at hcustom
      cases hcustom
    by_cases hexempt : status = .proposed ∨ status = .backlog
    · have hreassess : given.terms.reassess = true := by
        rcases hexempt with rfl | rfl
        · rw [terms_of_answer hgiven]
        · rw [terms_of_answer hgiven]
      have hview : view.status = .canonical .proposed ∨ view.status = .canonical .backlog := by
        rcases hexempt with rfl | rfl
        · exact .inl hstatus
        · exact .inr hstatus
      refine iff_of_true (notDeadEnd_of_exempt hd hkey hview hreassess) ⟨hunread, ?_⟩
      rintro ⟨hprogress, _⟩
      rw [hprogress] at hview
      rcases hview with h | h
      · cases h
      · cases h
    · have hproposed : status ≠ .proposed := fun h => hexempt (.inl h)
      have hbacklog : status ≠ .backlog := fun h => hexempt (.inr h)
      rw [notDeadEnd_iff_settled hd hkey (by simpa [hstatus] using hproposed)
        (by simpa [hstatus] using hbacklog), statusDecision_settled hproposed hbacklog hgiven]
      constructor
      · intro hparked
        refine ⟨hunread, ?_⟩
        rintro ⟨hprogress, _, _, _, hrecovery⟩
        rw [hstatus] at hprogress
        cases hprogress
        exact hparked ⟨rfl, hrecovery⟩
      · rintro ⟨_, hparked⟩ ⟨hprogress, hrecovery⟩
        have hpassed := (identityDecision_eq_none hstatus).mp hearly
        refine hparked ⟨hstatus.trans (hprogress ▸ rfl), ?_, hpassed.right.left,
          hpassed.right.right, hrecovery⟩
        intro hepic
        rw [rollsUp_iff.mpr ⟨hepic, hprogress ▸ by decide⟩] at hrolls
        cases hrolls

/-- The evaluator leaves a task at a dead end exactly when a custom status cannot be read
again from its task fact or an accepted submission of a task in progress is parked. -/
theorem evaluateTask_notDeadEnd_iff {time : Option Instant} {policy : LivenessPolicy}
    (hview : taskView rt task = .ok view) (h : evaluateTask rt task facts time policy = .ok d) :
    NotDeadEnd d ↔ ¬ CustomUnread rt view facts ∧
        ¬ ProgressParked rt view facts (time.getD facts.collectedAt) := by
  rcases evaluateTask_eq_ok h with ⟨other, given, hother, hanswered, hd⟩
  rw [hview] at hother
  cases hother
  exact notDeadEnd_iff hanswered hd

end Liveness

/-!
# A parked submission
-/

/-- The task `t`, in progress. -/
def taskInProgress : Mapping :=
  [("identifier", .str "t"), ("status", .str "In Progress")]

/-- The branch of its accepted submission has advanced. -/
def parkedObservations : FactDomain -> FactObservation
  | .task => .known (.mapping taskInProgress) rfl
  | .config =>
    .known (.mapping
      [("accepted_submission_recovery_state", .str "accepted_submission_branch_advanced")]) rfl
  | _ => .missing

def parkedFacts : WorkflowFacts :=
  .unlanded parkedObservations

theorem parkedTask_dead_end :
    exists d, evaluateTask .ascii (.mapping taskInProgress) parkedFacts none livenessSlos = .ok d ∧
      ¬ NotDeadEnd d := by
  apply exists_ok_of_passes
  decide +kernel

/-- A task in progress whose submission is parked waits for nothing that is named. -/
theorem evaluateTask_dead_end : ¬ forall (task : Task) (facts : WorkflowFacts) (d : WorkDecision),
      evaluateTask .ascii task facts none livenessSlos = .ok d -> NotDeadEnd d := by
  intro h
  rcases parkedTask_dead_end with ⟨d, hd, hdead⟩
  exact hdead (h _ _ d hd)

theorem evaluateTask_notDeadEnd_iff_parked :
    exists view d, taskView .ascii (.mapping taskInProgress) = .ok view ∧
      evaluateTask .ascii (.mapping taskInProgress) parkedFacts none livenessSlos = .ok d ∧
      (NotDeadEnd d ↔ ¬ CustomUnread .ascii view parkedFacts ∧
          ¬ ProgressParked .ascii view parkedFacts parkedFacts.collectedAt) := by
  rcases parkedTask_dead_end with ⟨d, hd, _⟩
  rcases evaluateTask_eq_ok hd with ⟨view, _, hview, _⟩
  have hiff := evaluateTask_notDeadEnd_iff hview hd
  exact ⟨view, d, hview, hd, hiff⟩

end TaskEvaluation
end Oompah
