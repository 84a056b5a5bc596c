import Oompah.ImplementationWorkflow.Materialization

/-!
# The order of events

A write reaches its lane when no write with a later generation has reached the
namespace before it.  What the two transactions of a call leave undecided is which
writes fall between them.
-/

namespace Oompah
namespace ImplementationWorkflow

open Foundation WorkflowJobs
open ImplementationWorkflowController (materialize)

variable {s s' : Store} {request : Store.EventRequest}

/-!
# One ordered write
-/

/-- The write is not older than the one that the namespace holds. -/
def NotOlder (s : Store) (projectId taskId orderingNamespace : String)
    (generation : Nat) (revision : String) : Prop :=
  forall ordering, s.findOrdering projectId taskId orderingNamespace = some ordering ->
    ordering.sourceGeneration < generation ∨
      ordering.sourceGeneration = generation ∧ ordering.decisionRevision = revision

/-- The namespace holds the write. -/
def OrderedBy (s : Store) (projectId taskId orderingNamespace : String)
    (generation : Nat) (revision : String) : Prop :=
  exists ordering, s.findOrdering projectId taskId orderingNamespace = some ordering ∧
    ordering.sourceGeneration = generation ∧ ordering.decisionRevision = revision

theorem findOrdering_congr {projectId taskId orderingNamespace : String}
    (h : s'.tables.eventOrdering = s.tables.eventOrdering) :
    s'.findOrdering projectId taskId orderingNamespace =
      s.findOrdering projectId taskId orderingNamespace := by
  unfold Store.findOrdering
  rw [h]

theorem OrderedBy.congr {projectId taskId orderingNamespace revision : String} {generation : Nat}
    (h : OrderedBy s projectId taskId orderingNamespace generation revision)
    (htables : s'.tables.eventOrdering = s.tables.eventOrdering) :
    OrderedBy s' projectId taskId orderingNamespace generation revision := by
  rcases h with ⟨ordering, hfound, hwritten⟩
  exact ⟨ordering, (findOrdering_congr htables).trans hfound, hwritten⟩

section Ordered

variable {orderingNamespace : String} {sourceGeneration : Nat} {now : Int}

/-- The store that holds the ordering of the request. -/
def orderedStore (s : Store) (request : Store.EventRequest) (orderingNamespace : String)
    (sourceGeneration : Nat) (now : Int) : Store :=
  s.upsertOrdering request.projectId request.taskId orderingNamespace
    request.orderingRevision sourceGeneration now

theorem orderedStore_orderedBy :
    OrderedBy (orderedStore s request orderingNamespace sourceGeneration now)
      request.projectId request.taskId orderingNamespace sourceGeneration
      request.orderingRevision :=
  ⟨_, findOrdering_upsertOrdering _ _ _ _, rfl, rfl⟩

theorem orderedStore_progress :
    Progress s (orderedStore s request orderingNamespace sourceGeneration now) := by
  refine Progress.tables (s := s) rfl (Nat.le_refl _) rfl ?_
  intro _ cursor hcursor
  exact .inl hcursor

theorem orderEvent_proceeds (now : Int)
    (hordering : request.ordering = some (orderingNamespace, sourceGeneration))
    (h : NotOlder s request.projectId request.taskId orderingNamespace sourceGeneration
      request.orderingRevision) :
    exists sourceAdvanced, s.orderEvent request now = .ok (.proceed
            (orderedStore s request orderingNamespace sourceGeneration now)
            sourceAdvanced) ∧
        forall ordering, s.findOrdering request.projectId request.taskId orderingNamespace =
            some ordering ->
          ordering.sourceGeneration < sourceGeneration -> sourceAdvanced = true := by
  unfold Store.orderEvent
  rw [hordering]
  dsimp only
  cases hfound : s.findOrdering request.projectId request.taskId orderingNamespace with
  | none =>
    refine ⟨false, rfl, ?_⟩
    intro ordering hnone
    cases hnone
  | some ordered =>
    have hnotLess : ¬ sourceGeneration < ordered.sourceGeneration := by
      rcases h ordered hfound with hlt | ⟨heq, _⟩
      · omega
      · omega
    have hagrees : ¬ (sourceGeneration = ordered.sourceGeneration ∧
        ordered.decisionRevision ≠ request.orderingRevision) := by
      rintro ⟨hsame, hother⟩
      rcases h ordered hfound with hlt | ⟨_, hrevision⟩
      · omega
      · exact hother hrevision
    refine ⟨decide (ordered.sourceGeneration < sourceGeneration), ?_, ?_⟩
    · dsimp only
      rw [if_neg hnotLess, if_neg hagrees]
      rfl
    · intro ordering hsome hlt
      cases hsome
      exact decide_eq_true hlt

/-- A write that is older than the namespace leaves the store as it is. -/
theorem orderEvent_stale {ordering : EventOrdering} (now : Int)
    (hordering : request.ordering = some (orderingNamespace, sourceGeneration))
    (hfound : s.findOrdering request.projectId request.taskId orderingNamespace = some ordering)
    (hless : sourceGeneration < ordering.sourceGeneration) :
    exists write, s.orderEvent request now = .ok (.settled write) ∧
      write.job = if ordering.decisionRevision = request.orderingRevision then
        s.currentActivation request else none := by
  unfold Store.orderEvent
  rw [hordering]
  dsimp only
  rw [hfound]
  dsimp only
  rw [if_pos hless]
  by_cases hrevision : ordering.decisionRevision = request.orderingRevision
  · rw [if_pos hrevision, if_pos hrevision]
    cases hcurrent : s.currentActivation request with
    | none => exact ⟨_, rfl, rfl⟩
    | some current => exact ⟨_, rfl, rfl⟩
  · rw [if_neg hrevision, if_neg hrevision]
    exact ⟨_, rfl, rfl⟩

theorem orderEvent_conflict {ordering : EventOrdering} (now : Int)
    (hordering : request.ordering = some (orderingNamespace, sourceGeneration))
    (hfound : s.findOrdering request.projectId request.taskId orderingNamespace = some ordering)
    (hsame : sourceGeneration = ordering.sourceGeneration)
    (hother : ordering.decisionRevision ≠ request.orderingRevision) :
    exists error, s.orderEvent request now = .error error := by
  unfold Store.orderEvent
  rw [hordering]
  dsimp only
  rw [hfound]
  dsimp only
  rw [if_neg (by omega), if_pos ⟨hsame, hother⟩]
  exact ⟨_, rfl⟩

theorem older_cases {projectId taskId revision : String}
    (h : ¬ NotOlder s projectId taskId orderingNamespace sourceGeneration revision) :
    exists ordering, s.findOrdering projectId taskId orderingNamespace = some ordering ∧
      (sourceGeneration < ordering.sourceGeneration ∨ sourceGeneration = ordering.sourceGeneration ∧
          ordering.decisionRevision ≠ revision) := by
  unfold NotOlder at h
  push Not at h
  rcases h with ⟨ordering, hfound, hle, hother⟩
  rcases Nat.lt_or_eq_of_le hle with hless | hsame
  · exact ⟨ordering, hfound, Or.inl hless⟩
  · exact ⟨ordering, hfound, Or.inr ⟨hsame, hother hsame.symm⟩⟩

/-- What a request that succeeds has done to the namespace and to its lane. -/
theorem materializeEvent_cases {newJobId : String} {write : Store.EventWrite}
    (hordering : request.ordering = some (orderingNamespace, sourceGeneration))
    (h : s.materializeEvent request newJobId now = .ok (s', write)) :
    (s' = s ∧ exists ordering, s.findOrdering request.projectId request.taskId orderingNamespace =
            some ordering ∧ sourceGeneration < ordering.sourceGeneration) ∨
      NotOlder s request.projectId request.taskId orderingNamespace sourceGeneration
          request.orderingRevision ∧
        ((exists row, (orderedStore s request orderingNamespace sourceGeneration
            now).protectedRow request = some row) ∧
          s' = orderedStore s request orderingNamespace sourceGeneration now ∨
        exists job, write.job = some job ∧ Materialized request
            (orderedStore s request orderingNamespace sourceGeneration now) s' job) := by
  unfold Store.materializeEvent at h
  rw [bind_eq_ok] at h
  rcases h with ⟨_, _, h⟩
  rw [bind_eq_ok] at h
  rcases h with ⟨order, horder, h⟩
  by_cases hnotOlder : NotOlder s request.projectId request.taskId orderingNamespace
      sourceGeneration request.orderingRevision
  · right
    refine ⟨hnotOlder, ?_⟩
    rcases orderEvent_proceeds now hordering hnotOlder with
      ⟨sourceAdvanced, hproceeds, _⟩
    rw [hproceeds] at horder
    cases horder
    dsimp only at h
    cases hprotected : (orderedStore s request orderingNamespace sourceGeneration
        now).protectedRow request with
    | some row =>
      rw [hprotected] at h
      cases h
      exact .inl ⟨⟨row, rfl⟩, rfl⟩
    | none =>
      rw [hprotected] at h
      right
      exact materializeOrdered_materialized h
  · left
    rcases older_cases hnotOlder with ⟨ordering, hfound, hless | ⟨hsame, hother⟩⟩
    · refine ⟨?_, ordering, hfound, hless⟩
      rcases orderEvent_stale now hordering hfound hless with
        ⟨settled, hsettled, _⟩
      rw [hsettled] at horder
      cases horder
      cases h
      rfl
    · rcases orderEvent_conflict now hordering hfound hsame hother with
        ⟨error, herror⟩
      rw [herror] at horder
      cases horder

end Ordered

/-!
# One imperative event
-/

section Imperative

variable {event : ImplementationEvent} {generation : Nat} {newJobId : String} {now : Int}

section Request

variable (controller : ImplementationWorkflowController) (task : TaskRef)

theorem eventRequest_lane (h : event.directOwnerRevocation = false) (generation : Nat) :
    (controller.eventRequest task event generation).lane =
      imperativeImplementationLane := by
  show event.schedulingLane = _
  unfold ImplementationEvent.schedulingLane
  rw [h]
  rfl

theorem eventRequest_ordering (h : event.directOwnerRevocation = false) (generation : Nat) :
    (controller.eventRequest task event generation).ordering =
      some (implementationOrderingNamespace, generation) := by
  show some (event.orderingNamespace, generation) = _
  unfold ImplementationEvent.orderingNamespace
  rw [h]
  rfl

theorem eventRequest_check (h : event.directOwnerRevocation = false)
    (hgeneration : 1 ≤ generation) :
    (controller.eventRequest task event generation).check = .ok () := by
  have hrevision : (controller.eventRequest task event generation).decisionRevision ≠
      "" := controller.eventRevision_nonempty _
  have hlane : (controller.eventRequest task event generation).lane ≠ "" := by
    rw [eventRequest_lane controller task h]
    decide
  have hspace : (controller.eventRequest task event generation).ordering.all
      (fun ordering => ordering.1 ≠ "") = true := by
    rw [eventRequest_ordering controller task h]
    rfl
  have hlanes : "" ∉ (controller.eventRequest task event generation).supersedeSchedulingLanes := by
    show "" ∉ if event.directOwnerRevocation then [] else [factImplementationLane]
    rw [h]
    decide
  have hordering : (controller.eventRequest task event generation).ordering.all
      (fun ordering => 1 ≤ ordering.2) = true := by
    exact decide_eq_true hgeneration
  unfold Store.EventRequest.check requiredText
  simp only [require_bind_eq_ok, require_eq_ok]
  have hnamespace : (controller.eventRequest task event generation).idempotencyNamespace ≠ "" := by
    show "implementation" ≠ ""
    decide
  have hreason : (controller.eventRequest task event generation).reason ≠ "" := by
    show "superseded by a newer implementation event" ≠ ""
    decide
  exact ⟨task.projectId_nonempty, task.taskId_nonempty, hrevision,
    event.action.value_nonempty, hnamespace, hlane, hreason, hspace,
    fun hblank => hrevision (Option.some.inj hblank), hlanes, List.not_mem_nil, hordering⟩

theorem eventRequest_protectedRow (s : Store) (event : ImplementationEvent) (generation : Nat) :
    s.protectedRow (controller.eventRequest task event generation) = none := by
  unfold Store.protectedRow
  rw [List.getLast?_eq_none_iff]
  apply List.filter_eq_nil_iff.mpr
  intro row _ hlane
  rw [decide_eq_true_eq] at hlane
  exact absurd hlane.left List.not_mem_nil

end Request

variable {controller : ImplementationWorkflowController} {task : TaskRef}

/-- The lane of the imperative events of the task is free for the event. -/
structure Ready (controller : ImplementationWorkflowController) (task : TaskRef)
    (s : Store) (event : ImplementationEvent) (generation : Nat) (newJobId : String) :
    Prop where
  imperative : event.directOwnerRevocation = false
  positive : 1 ≤ generation
  id : newJobId ≠ ""
  fresh : newJobId ∉ s.jobs.rows.map WorkflowJob.jobId
  rows : EventRows s
  ordered : (s.findEventCursor task.projectId task.taskId imperativeImplementationLane).isSome ->
      (s.findOrdering task.projectId task.taskId implementationOrderingNamespace).isSome

/-- An event that is newer than its namespace becomes the active job of the lane. -/
theorem materialize_newer (now : Int) (h : Ready controller task s event generation newJobId)
    (hnewer : forall ordering, s.findOrdering task.projectId task.taskId
      implementationOrderingNamespace = some ordering -> ordering.sourceGeneration < generation)
    (hreusable : Reusable s (controller.eventRequest task event generation)) :
    exists job, (controller.materialize task s event generation newJobId now).2 = .ok job ∧
        ActiveIn (controller.materialize task s event generation newJobId now).1
          task.projectId task.taskId imperativeImplementationLane job := by
  have hordering := eventRequest_ordering controller task h.imperative generation
  have hlane := eventRequest_lane controller task h.imperative generation
  rcases orderEvent_proceeds now hordering
    (fun ordering hfound => Or.inl (hnewer ordering hfound)) with
    ⟨sourceAdvanced, hproceeds, hadvanced⟩
  have hrows : EventRows (orderedStore s (controller.eventRequest task event generation)
      implementationOrderingNamespace generation now) :=
    orderedStore_progress.rows h.rows
  have hadvances : ((orderedStore s (controller.eventRequest task event generation)
      implementationOrderingNamespace generation now).findEventCursor task.projectId
        task.taskId (controller.eventRequest task event generation).lane).isSome ->
          sourceAdvanced = true := by
    intro hcursor
    rw [hlane] at hcursor
    rcases Option.isSome_iff_exists.mp (h.ordered hcursor) with ⟨ordering, hfound⟩
    exact hadvanced ordering hfound (hnewer ordering hfound)
  rcases materializeOrdered_active now hrows event.maxAttempts_pos h.id h.fresh hadvances
    hreusable with ⟨s', write, job, hwrite, hjob, hactive⟩
  have hrun : s.materializeEvent (controller.eventRequest task event generation)
      newJobId now = .ok (s', write) := by
    unfold Store.materializeEvent
    rw [eventRequest_check controller task h.imperative h.positive]
    dsimp only [bind, Except.bind]
    rw [hproceeds]
    dsimp only
    rw [eventRequest_protectedRow]
    exact hwrite
  rw [hlane] at hactive
  unfold materialize
  rw [hrun]
  dsimp only
  rw [hjob]
  exact ⟨job, rfl, hactive⟩

theorem materialize_stale (controller : ImplementationWorkflowController) {ordering : EventOrdering}
    (himperative : event.directOwnerRevocation = false) (hpositive : 1 ≤ generation)
    (hfound : s.findOrdering task.projectId task.taskId implementationOrderingNamespace =
      some ordering)
    (hless : generation < ordering.sourceGeneration) (newJobId : String) (now : Int) :
    (controller.materialize task s event generation newJobId now).2.toOption =
      if ordering.decisionRevision = controller.revision task event then
        s.currentActivation (controller.eventRequest task event generation)
      else none := by
  rcases orderEvent_stale now
    (eventRequest_ordering controller task himperative generation) hfound hless with
    ⟨write, hsettled, hjob⟩
  have hrun : s.materializeEvent (controller.eventRequest task event generation)
      newJobId now = .ok (s, write) := by
    unfold Store.materializeEvent
    rw [eventRequest_check controller task himperative hpositive]
    rw [hsettled]
    rfl
  have hrevision : (controller.eventRequest task event generation).orderingRevision =
      controller.revision task event := rfl
  rw [hrevision] at hjob
  rw [← hjob]
  unfold materialize
  rw [hrun]
  dsimp only
  cases write.job with
  | none => rfl
  | some job => rfl

theorem materialize_conflict (controller : ImplementationWorkflowController)
    {ordering : EventOrdering}
    (himperative : event.directOwnerRevocation = false) (hpositive : 1 ≤ generation)
    (hfound : s.findOrdering task.projectId task.taskId implementationOrderingNamespace =
      some ordering)
    (hsame : generation = ordering.sourceGeneration)
    (hother : ordering.decisionRevision ≠ controller.revision task event)
    (newJobId : String) (now : Int) :
    (controller.materialize task s event generation newJobId now).2.toOption = none := by
  rcases orderEvent_conflict now
    (eventRequest_ordering controller task himperative generation) hfound hsame hother with
    ⟨error, herror⟩
  have hrun : s.materializeEvent (controller.eventRequest task event generation)
      newJobId now = .error error := by
    unfold Store.materializeEvent
    rw [eventRequest_check controller task himperative hpositive]
    dsimp only [bind, Except.bind]
    rw [herror]
  unfold materialize
  rw [hrun]
  rfl

theorem materialize_unequal (now : Int) (h : Ready controller task s event generation newJobId)
    (hnewer : forall ordering, s.findOrdering task.projectId task.taskId
      implementationOrderingNamespace = some ordering -> ordering.sourceGeneration < generation)
    (hunequal : ¬ Reusable s (controller.eventRequest task event generation)) :
    (controller.materialize task s event generation newJobId now).2.toOption = none := by
  rcases orderEvent_proceeds now (eventRequest_ordering controller task h.imperative generation)
    (fun ordering hfound => Or.inl (hnewer ordering hfound)) with
    ⟨sourceAdvanced, hproceeds, _⟩
  have hkept : ¬ Reusable (orderedStore s (controller.eventRequest task event generation)
      implementationOrderingNamespace generation now)
      (controller.eventRequest task event generation) := hunequal
  rcases materializeOrdered_unequal newJobId sourceAdvanced now hkept with
    ⟨error, herror⟩
  have hrun : s.materializeEvent (controller.eventRequest task event generation)
      newJobId now = .error error := by
    unfold Store.materializeEvent
    rw [eventRequest_check controller task h.imperative h.positive]
    dsimp only [bind, Except.bind]
    rw [hproceeds]
    dsimp only
    rw [eventRequest_protectedRow]
    exact herror
  unfold materialize
  rw [hrun]
  rfl

/-- What the second transaction of a call leaves, and what the call then returns. -/
theorem materialize_cases (controller : ImplementationWorkflowController)
    (task : TaskRef) (himperative : event.directOwnerRevocation = false)
    (generation : Nat) (s : Store) (newJobId : String) (now : Int) :
    ((controller.materialize task s event generation newJobId now).1 = s ∧
        ((controller.materialize task s event generation newJobId now).2.isOk = true ->
          exists ordering, s.findOrdering task.projectId task.taskId
              implementationOrderingNamespace = some ordering ∧
            generation < ordering.sourceGeneration)) ∨
      NotOlder s task.projectId task.taskId implementationOrderingNamespace generation
          (controller.revision task event) ∧
        exists job, (controller.materialize task s event generation newJobId now).2 = .ok job ∧
            Materialized (controller.eventRequest task event generation)
              (orderedStore s (controller.eventRequest task event generation)
                implementationOrderingNamespace generation now)
              (controller.materialize task s event generation newJobId now).1 job := by
  unfold materialize
  cases hrun : s.materializeEvent (controller.eventRequest task event generation)
      newJobId now with
  | error error => exact .inl ⟨rfl, fun hok => by cases hok⟩
  | ok result =>
    rcases result with ⟨s', write⟩
    rcases materializeEvent_cases
      (eventRequest_ordering controller task himperative generation) hrun with
      ⟨rfl, hstale⟩ | ⟨hnotOlder, ⟨⟨row, hrow⟩, _⟩ | ⟨job, hjob, hmaterialized⟩⟩
    · left
      dsimp only
      cases write.job with
      | none => exact ⟨rfl, fun hok => by cases hok⟩
      | some job => exact ⟨rfl, fun _ => hstale⟩
    · rw [eventRequest_protectedRow] at hrow
      cases hrow
    · right
      dsimp only
      rw [hjob]
      exact ⟨hnotOlder, job, rfl, hmaterialized⟩

end Imperative
end ImplementationWorkflow
end Oompah
