import Mathlib.Data.List.Perm.Basic
import Oompah.ImplementationWorkflow.EventOrder

/-!
# Interleaved calls

The transactions of calls, passes and workers on one task, in any order.  A call
is answered with the job that it made active, or with the job of an equal call
that overtook it, as long as nothing else reaches the namespace with a later
generation between its two transactions.
-/

namespace Oompah
namespace ImplementationWorkflow

open Foundation WorkflowJobs
open ImplementationWorkflowController (reconcileDecision reconcileHandoff)

variable (controller : ImplementationWorkflowController) (task : TaskRef)

/-!
# What is asked of a call
-/

/-- The call returned a job, which is active unless a later call overtook it. -/
def Answer.Served (answer : Answer) : Prop :=
  exists job, answer.response = .ok job ∧ (answer.overtaken = true ∨
      ActiveIn answer.after task.projectId task.taskId imperativeImplementationLane job)

namespace Interleaving

/-- The transaction serves the call that it materializes. -/
def Serves (x : Interleaving) : Transaction -> Prop
  | .materialize position newJobId now =>
    forall call, x.calls[position]? = some call ->
      (x.answer controller task call newJobId now).Served task
  | _ => True

/--
The namespace holds an older write, and the live job of an equal event has the
priority and attempts that are asked for; or an equal call with a later generation
wrote the namespace last.
-/
def Admits (x : Interleaving) (call : ScheduledCall) : Prop :=
  forall ordering, x.store.findOrdering task.projectId task.taskId implementationOrderingNamespace =
      some ordering ->
    ordering.sourceGeneration < call.generation ∧ Reusable x.store
          (controller.eventRequest task call.event call.generation) ∨
      call.generation ≤ ordering.sourceGeneration ∧
        exists answer, answer ∈ x.answers ∧ answer.returned = true ∧
          answer.call.generation = ordering.sourceGeneration ∧
          controller.revision task answer.call.event = controller.revision task call.event

def Timely (x : Interleaving) : Transaction -> Prop
  | .materialize position _ _ =>
    forall call, x.calls[position]? = some call -> x.Admits controller task call
  | _ => True

/--
Job ids are new, workers neither restore a captured row nor hand one to the
scheduler, and revocations of direct owners have lanes of their own.
-/
def Proper (x : Interleaving) : Transaction -> Prop
  | .allocate event => event.directOwnerRevocation = false
  | .materialize _ newJobId _ =>
    newJobId ≠ "" ∧ newJobId ∉ x.store.jobs.rows.map WorkflowJob.jobId
  | .work _ action => action.capturedRow = none ∧ action ≠ .manage
  | _ => True

/-- The digests of decisions are not digests of events. -/
def Distinct (_ : Interleaving) : Transaction -> Prop
  | .reconcile decision _ _ _ =>
    forall event, controller.revision task event ≠ decision.sourceRevision
  | _ => True

end Interleaving

/-!
# Calls that reached the namespace
-/

variable {controller : ImplementationWorkflowController} {task : TaskRef}

/-- The namespace holds the write of the call or a later one. -/
def ReachedBy (controller : ImplementationWorkflowController) (task : TaskRef)
    (s : Store) (call : ScheduledCall) : Prop :=
  exists ordering, s.findOrdering task.projectId task.taskId implementationOrderingNamespace =
        some ordering ∧
      call.generation ≤ ordering.sourceGeneration ∧
      (call.generation = ordering.sourceGeneration ->
        ordering.decisionRevision = controller.revision task call.event ∧ (s.currentActivation
            (controller.eventRequest task call.event call.generation)).isSome)

/-- The namespace stays, or holds a write of the revision that is not older. -/
def Reorders (task : TaskRef) (revision : String) (s s' : Store) : Prop :=
  s'.findOrdering task.projectId task.taskId implementationOrderingNamespace =
      s.findOrdering task.projectId task.taskId implementationOrderingNamespace ∨
    exists generation,
      NotOlder s task.projectId task.taskId implementationOrderingNamespace generation revision ∧
        OrderedBy s' task.projectId task.taskId implementationOrderingNamespace generation revision

/-- A transaction that leaves the imperative lane to its cursor. -/
structure Passes (task : TaskRef) (revision : String) (s s' : Store) : Prop where
  progress : Progress s s'
  reorders : Reorders task revision s s'
  cursor : s'.findEventCursor task.projectId task.taskId imperativeImplementationLane =
    s.findEventCursor task.projectId task.taskId imperativeImplementationLane

variable {s s' : Store} {call : ScheduledCall}
variable {revision : String}

theorem currentActivation_kept
    (himperative : call.event.directOwnerRevocation = false) (h : Passes task revision s s')
    (hcurrent : (s.currentActivation
      (controller.eventRequest task call.event call.generation)).isSome) :
    (s'.currentActivation (controller.eventRequest task call.event call.generation)).isSome := by
  rcases Option.isSome_iff_exists.mp hcurrent with ⟨row, hrow⟩
  rcases currentActivation_eq_some hrow with ⟨cursor, hcursor, hrevision, hfound⟩
  have hlane := eventRequest_lane controller task himperative call.generation
  have hcursor' : s'.findEventCursor task.projectId task.taskId
      (controller.eventRequest task call.event call.generation).lane = some cursor := by
    rw [hlane, h.cursor, ← hlane]
    exact hcursor
  rw [currentActivation_of_cursor hcursor' hrevision]
  apply h.progress.kept
  rw [hfound]
  rfl

theorem ReachedBy.passes (hreached : ReachedBy controller task s call)
    (himperative : call.event.directOwnerRevocation = false) (h : Passes task revision s s') :
    ReachedBy controller task s' call := by
  rcases hreached with ⟨ordering, hfound, hle, hlast⟩
  rcases h.reorders with hsame | ⟨generation, hnotOlder, ordering', hfound', hgeneration, hrevision⟩
  · refine ⟨ordering, hsame.trans hfound, hle, ?_⟩
    intro heq
    rcases hlast heq with ⟨hwritten, hcurrent⟩
    exact ⟨hwritten, currentActivation_kept himperative h hcurrent⟩
  · refine ⟨ordering', hfound', ?_, ?_⟩
    · rcases hnotOlder ordering hfound with hless | ⟨heq, _⟩
      · omega
      · omega
    · intro heq
      rcases hnotOlder ordering hfound with hless | ⟨hequal, hkept⟩
      · omega
      · rcases hlast (by omega) with ⟨hwritten, hcurrent⟩
        refine ⟨?_, currentActivation_kept himperative h hcurrent⟩
        rw [hrevision, ← hkept, hwritten]

/-!
# Passes and workers
-/

theorem passes_of_tables (revision : String) (hprogress : Progress s s')
    (htables : s'.tables = s.tables) : Passes task revision s s' := by
  constructor
  · exact hprogress
  · left
    exact findOrdering_congr (congrArg ScheduleTables.eventOrdering htables)
  · exact findEventCursor_congr htables imperativeImplementationLane

variable {now : Int} {write : Store.EventWrite}

theorem retireEventLane_passes {lane revision reason : String} {generation : Nat}
    (h : s.retireEventLane task.projectId task.taskId lane
      implementationOrderingNamespace generation revision reason now = .ok (s', write)) :
    Passes task revision s s' := by
  unfold Store.retireEventLane requiredText positiveGeneration at h
  simp only [require_bind_eq_ok] at h
  rcases h with ⟨_, _, _, _, _, _, _, h⟩
  by_cases holder : (s.findOrdering task.projectId task.taskId implementationOrderingNamespace).any
        (fun ordered => generation < ordered.sourceGeneration) = true
  · rw [if_pos holder] at h
    cases h
    exact passes_of_tables _ (Progress.refl s) rfl
  · rw [if_neg holder, require_bind_eq_ok] at h
    rcases h with ⟨hagrees, h⟩
    cases h
    let ordered := s.upsertOrdering task.projectId task.taskId
      implementationOrderingNamespace revision generation now
    have hordered : Progress s ordered := by
      refine Progress.tables (s := s) rfl (Nat.le_refl _) rfl ?_
      intro _ cursor hcursor
      exact .inl hcursor
    constructor
    · exact hordered.trans (Progress.actEach
        (fun _ _ _ hplan => retireLanePlan_plain hplan) ordered _ now)
    · right
      refine ⟨generation, ?_, ?_⟩
      · intro ordering hfound
        rw [hfound] at holder hagrees
        simp only [Option.any_some, Option.all_some, decide_eq_true_eq] at holder hagrees
        rcases Nat.lt_or_eq_of_le (Nat.le_of_not_lt holder) with hless | heq
        · exact .inl hless
        · refine .inr ⟨heq, ?_⟩
          rcases hagrees with hother | hrevision
          · exact absurd heq.symm hother
          · exact hrevision
      · have hheld : OrderedBy ordered task.projectId task.taskId
            implementationOrderingNamespace generation revision :=
          ⟨_, findOrdering_upsertOrdering _ _ _ _, rfl, rfl⟩
        exact hheld.congr (congrArg ScheduleTables.eventOrdering
          (Store.actEach_tables ordered _ _ now))
    · exact findEventCursor_congr (Store.actEach_tables ordered _ _ now)
        imperativeImplementationLane

theorem reconcileDecision_passes {decision : FactDecision} {generation : Nat} {newJobId : String}
    (h : controller.reconcileDecision task s decision generation newJobId now =
      .ok (s', write)) : Passes task decision.sourceRevision s s' := by
  unfold reconcileDecision at h
  cases hdisposition : decision.disposition with
  | none =>
    rw [hdisposition] at h
    exact retireEventLane_passes h
  | some disposition =>
    rw [hdisposition] at h
    let request := controller.factRequest task decision.sourceRevision disposition generation
    have hordering : request.ordering = some (implementationOrderingNamespace, generation) := rfl
    have hlane : imperativeImplementationLane ≠ request.lane := by
      show imperativeImplementationLane ≠ factImplementationLane
      decide
    rcases materializeEvent_cases hordering h with
      ⟨rfl, _⟩ | ⟨hnotOlder, ⟨_, rfl⟩ | ⟨job, _, hmaterialized⟩⟩
    · exact passes_of_tables _ (Progress.refl _) rfl
    · exact ⟨orderedStore_progress, Or.inr ⟨generation, hnotOlder, orderedStore_orderedBy⟩, rfl⟩
    · constructor
      · exact orderedStore_progress.trans hmaterialized.progress
      · right
        exact ⟨generation, hnotOlder, orderedStore_orderedBy.congr hmaterialized.orderings⟩
      · exact hmaterialized.cursors task.projectId task.taskId _ hlane

theorem reconcileHandoff_passes (revision : String) {count : Nat} (h : reconcileHandoff task s now =
      .ok (s', count)) : Passes task revision s s' := by
  unfold reconcileHandoff Store.reconcileEventHandoffRetirements requiredText at h
  simp only [require_bind_eq_ok] at h
  rcases h with ⟨_, _, _, _, _, h⟩
  split at h
  · cases h
    exact passes_of_tables _ (Progress.refl s) rfl
  · unfold Store.recordEventHandoffRetirementsLocked at h
    simp only [require_bind_eq_ok] at h
    rcases h with ⟨_, _, h⟩
    cases h
    exact passes_of_tables _ (Progress.retireEach _ _ _) (Store.retireEach_tables _ _ _)

theorem allocateScan_passes (revision : String) (s : Store) :
    Passes task revision s s.allocateSnapshotGeneration.1 := by
  have hprogress : Progress s s.allocateSnapshotGeneration.1 :=
    Progress.tables rfl (Nat.le_refl _) rfl (fun _ _ hcursor => Or.inl hcursor)
  exact passes_of_tables revision hprogress rfl

theorem act_passes (revision : String) (s : Store) (jobId : String) {action : RowAction}
    (hcaptured : action.capturedRow = none) (hmanage : action ≠ .manage) :
    Passes task revision s (s.act jobId action) :=
  passes_of_tables _ (Progress.act jobId hcaptured hmanage) rfl

/-!
# Every interleaving
-/

/-- Calls hold generations of their own, and those that returned reached the namespace. -/
structure Sound (controller : ImplementationWorkflowController) (task : TaskRef)
    (x : Interleaving) : Prop where
  rows : EventRows x.store
  ordered : (x.store.findEventCursor task.projectId task.taskId
      imperativeImplementationLane).isSome ->
    (x.store.findOrdering task.projectId task.taskId implementationOrderingNamespace).isSome
  calls : forall call, call ∈ x.calls ->
    call.event.directOwnerRevocation = false ∧ 1 ≤ call.generation ∧
      call.generation ≤ x.store.tables.eventGeneration
  answers : forall answer, answer ∈ x.answers -> answer.call.event.directOwnerRevocation = false ∧
      answer.call.generation ≤ x.store.tables.eventGeneration ∧
      (answer.returned = true -> ReachedBy controller task x.store answer.call)
  distinct : (x.calls.map ScheduledCall.generation ++
    x.answers.map (fun answer => answer.call.generation)).Nodup

namespace Sound

variable {x : Interleaving}

theorem empty : Sound controller task {} := by
  constructor
  · exact ⟨fun _ h => absurd h List.not_mem_nil, fun _ h => absurd h List.not_mem_nil,
      fun _ h => absurd h List.not_mem_nil, fun _ _ h => absurd h List.not_mem_nil⟩
  · intro h
    cases h
  · intro _ h
    cases h
  · intro _ h
    cases h
  · exact List.nodup_nil

theorem passes {s : Store} (hx : Sound controller task x)
    (h : Passes task revision x.store s) : Sound controller task { x with store := s } := by
  constructor
  · exact h.progress.rows hx.rows
  · intro hcursor
    rw [h.cursor] at hcursor
    rcases h.reorders with hsame | ⟨_, _, ordering, hfound, _⟩
    · rw [hsame]
      exact hx.ordered hcursor
    · rw [hfound]
      rfl
  · intro call hcall
    rcases hx.calls call hcall with ⟨himperative, hpositive, hle⟩
    exact ⟨himperative, hpositive, hle.trans_eq h.progress.generation.symm⟩
  · intro answer hanswer
    rcases hx.answers answer hanswer with ⟨himperative, hle, hreached⟩
    exact ⟨himperative, hle.trans_eq h.progress.generation.symm,
      fun hreturned => (hreached hreturned).passes himperative h⟩
  · exact hx.distinct

theorem written {α : Type} {result : Except StoreError (Store × α)} (hx : Sound controller task x)
    (h : forall s value, result = .ok (s, value) -> Passes task revision x.store s) :
    Sound controller task (x.written result) := by
  cases result with
  | error error => exact hx
  | ok written => exact hx.passes (h written.1 written.2 rfl)

theorem eventGeneration_lt (s : Store) : s.tables.eventGeneration < s.nextOrderingGeneration := by
  unfold Store.nextOrderingGeneration
  omega

theorem allocated (hx : Sound controller task x) :
    Sound controller task { x with store := x.store.allocateEventGeneration.1 } := by
  have hgrows : x.store.tables.eventGeneration ≤
      x.store.allocateEventGeneration.1.tables.eventGeneration :=
    (eventGeneration_lt x.store).le
  constructor
  · exact ⟨hx.rows.unmanaged, hx.rows.numbered, hx.rows.cursors, hx.rows.unique⟩
  · exact hx.ordered
  · intro call hcall
    rcases hx.calls call hcall with ⟨himperative, hpositive, hle⟩
    exact ⟨himperative, hpositive, hle.trans hgrows⟩
  · intro answer hanswer
    rcases hx.answers answer hanswer with ⟨himperative, hle, hreached⟩
    exact ⟨himperative, hle.trans hgrows, hreached⟩
  · exact hx.distinct

theorem allocatedCall (hx : Sound controller task x) {event : ImplementationEvent}
    (himperative : event.directOwnerRevocation = false) :
    Sound controller task (x.step controller task (.allocate event)) := by
  have hallocated := hx.allocated
  have hnew : forall generation, generation ∈ x.calls.map ScheduledCall.generation ++
      x.answers.map (fun answer => answer.call.generation) ->
        generation ≠ x.store.nextOrderingGeneration := by
    intro generation hused heq
    have hlt := eventGeneration_lt x.store
    rcases List.mem_append.mp hused with hcall | hanswer
    · rcases List.mem_map.mp hcall with ⟨call, hmem, rfl⟩
      have hle := (hx.calls call hmem).right.right
      omega
    · rcases List.mem_map.mp hanswer with ⟨answer, hmem, rfl⟩
      have hle := (hx.answers answer hmem).right.left
      omega
  constructor
  · exact hallocated.rows
  · exact hallocated.ordered
  · intro call hcall
    rcases List.mem_append.mp hcall with hold | hlast
    · exact hallocated.calls call hold
    · rw [List.mem_singleton.mp hlast]
      exact ⟨himperative, Nat.succ_le_of_lt (Nat.zero_lt_of_lt
        (eventGeneration_lt x.store)), Nat.le_refl _⟩
  · exact hallocated.answers
  · have hperm : List.Perm
        (x.store.nextOrderingGeneration :: (x.calls.map ScheduledCall.generation ++
          x.answers.map (fun answer => answer.call.generation)))
        (((x.step controller task (.allocate event)).calls).map ScheduledCall.generation ++
          x.answers.map (fun answer => answer.call.generation)) := by
      show List.Perm _ ((x.calls ++ [_]).map _ ++ _)
      rw [List.map_append, List.append_assoc]
      exact List.perm_middle.symm
    apply hperm.nodup_iff.mp
    rw [List.nodup_cons]
    exact ⟨fun hmem => hnew _ hmem rfl, hx.distinct⟩

theorem generation_ne (hx : Sound controller task x) {call : ScheduledCall}
    {answer : Answer} (hcall : call ∈ x.calls) (hanswer : answer ∈ x.answers) :
    answer.call.generation ≠ call.generation := by
  intro heq
  have hdisjoint := (List.nodup_append.mp hx.distinct).right.right
  exact hdisjoint call.generation (List.mem_map_of_mem hcall) answer.call.generation
    (List.mem_map.mpr ⟨answer, hanswer, rfl⟩) heq.symm

theorem materialized (hx : Sound controller task x) {position : Nat}
    {call : ScheduledCall} (hcall : x.calls[position]? = some call) (newJobId : String)
    (now : Int) :
    Sound controller task (x.step controller task (.materialize position newJobId now)) := by
  have hstep : x.step controller task (.materialize position newJobId now) =
      { store := (x.answer controller task call newJobId now).after
        calls := x.calls.eraseIdx position
        answers := x.answers ++ [x.answer controller task call newJobId now] } := by
    unfold Interleaving.step
    dsimp only
    rw [hcall]
  have hmem : call ∈ x.calls := List.mem_of_getElem? hcall
  rcases hx.calls call hmem with ⟨himperative, hpositive, hle⟩
  have hkept : forall other, other ∈ x.calls.eraseIdx position -> other ∈ x.calls :=
    fun other hother => List.mem_of_mem_eraseIdx hother
  have hdistinct : ((x.calls.eraseIdx position).map ScheduledCall.generation ++
      (x.answers ++ [x.answer controller task call newJobId now]).map
        (fun answer => answer.call.generation)).Nodup := by
    rcases List.getElem?_eq_some_iff.mp hcall with ⟨hlt, hget⟩
    have hperm : List.Perm (call :: x.calls.eraseIdx position) x.calls := by
      rw [← hget]
      exact List.getElem_cons_eraseIdx_perm hlt
    have hmoved : List.Perm ((x.calls.eraseIdx position).map ScheduledCall.generation ++
          (x.answers ++ [x.answer controller task call newJobId now]).map
            (fun answer => answer.call.generation))
        ((call :: x.calls.eraseIdx position).map ScheduledCall.generation ++
          x.answers.map (fun answer => answer.call.generation)) := by
      rw [List.map_append, ← List.append_assoc]
      exact List.perm_append_singleton call.generation _
    exact hmoved.nodup_iff.mpr ((hperm.map _).append_right _ |>.nodup_iff.mpr hx.distinct)
  rw [hstep]
  rcases materialize_cases controller task himperative call.generation x.store newJobId
    now with ⟨hstore, hstale⟩ | ⟨hnotOlder, job, hjob, hmaterialized⟩
  · have hafter : (x.answer controller task call newJobId now).after = x.store := hstore
    rw [hafter]
    constructor
    · exact hx.rows
    · exact hx.ordered
    · exact fun other hother => hx.calls other (hkept other hother)
    · intro answer hanswer
      rcases List.mem_append.mp hanswer with hold | hlast
      · exact hx.answers answer hold
      · rw [List.mem_singleton.mp hlast]
        refine ⟨himperative, hle, ?_⟩
        intro hreturned
        rcases hstale hreturned with ⟨ordering, hfound, hless⟩
        exact ⟨ordering, hfound, hless.le, fun heq => absurd heq (Nat.ne_of_lt hless)⟩
    · exact hdistinct
  · let after := (x.answer controller task call newJobId now).after
    have hprogress : Progress x.store after :=
      orderedStore_progress.trans hmaterialized.progress
    rcases orderedStore_orderedBy.congr hmaterialized.orderings with
      ⟨ordering, hfound, hgeneration, hrevision⟩
    constructor
    · exact hprogress.rows hx.rows
    · intro _
      exact Option.isSome_iff_exists.mpr ⟨ordering, hfound⟩
    · intro other hother
      rcases hx.calls other (hkept other hother) with ⟨himperative', hpositive', hle'⟩
      exact ⟨himperative', hpositive', hle'.trans_eq hprogress.generation.symm⟩
    · intro answer hanswer
      rcases List.mem_append.mp hanswer with hold | hlast
      · rcases hx.answers answer hold with ⟨himperative', hle', hreached⟩
        refine ⟨himperative', hle'.trans_eq hprogress.generation.symm, ?_⟩
        intro hreturned
        rcases hreached hreturned with ⟨before, hbefore, hbound, _⟩
        have hne := hx.generation_ne hmem hold
        have hearlier : answer.call.generation < ordering.sourceGeneration := by
          rcases hnotOlder before hbefore with hless | ⟨heq, _⟩
          · omega
          · omega
        exact ⟨ordering, hfound, hearlier.le, fun heq => absurd heq (Nat.ne_of_lt hearlier)⟩
      · rw [List.mem_singleton.mp hlast]
        refine ⟨himperative, hle.trans_eq hprogress.generation.symm, ?_⟩
        intro _
        exact ⟨ordering, hfound, hgeneration.ge, fun _ =>
          ⟨hrevision, Option.isSome_iff_exists.mpr ⟨job, hmaterialized.activation⟩⟩⟩
    · exact hdistinct

theorem step (hx : Sound controller task x) (t : Transaction)
    (hproper : x.Proper t) : Sound controller task (x.step controller task t) := by
  cases t with
  | allocate event => exact hx.allocatedCall hproper
  | materialize position newJobId now =>
    cases hcall : x.calls[position]? with
    | none =>
      have hsame : x.step controller task (.materialize position newJobId now) = x := by
        unfold Interleaving.step
        dsimp only
        rw [hcall]
      rw [hsame]
      exact hx
    | some call => exact hx.materialized hcall newJobId now
  | allocatePass => exact hx.allocated
  | allocateScan => exact hx.passes (allocateScan_passes "" x.store)
  | reconcile decision generation newJobId now =>
    exact hx.written (fun _ _ h => reconcileDecision_passes h)
  | handoff now => exact hx.written (fun _ _ h => reconcileHandoff_passes "" h)
  | work jobId action =>
    exact hx.passes (act_passes "" x.store jobId hproper.left hproper.right)

end Sound

/-!
# Calls that are served
-/

theorem currentActivation_congr {event event' : ImplementationEvent} (s : Store)
    (himperative : event.directOwnerRevocation = false)
    (himperative' : event'.directOwnerRevocation = false)
    (hrevision : controller.revision task event = controller.revision task event')
    (generation generation' : Nat) :
    s.currentActivation (controller.eventRequest task event generation) =
      s.currentActivation (controller.eventRequest task event' generation') := by
  have hlane := eventRequest_lane controller task himperative generation
  have hlane' := eventRequest_lane controller task himperative' generation'
  have hdecision : (controller.eventRequest task event generation).decisionRevision =
        (controller.eventRequest task event' generation').decisionRevision := hrevision
  have hkey : (controller.eventRequest task event generation).key =
      (controller.eventRequest task event' generation').key := by
    funext text
    unfold Store.EventRequest.key
    rw [hdecision]
    rfl
  unfold Store.currentActivation
  rw [hlane, hlane', hdecision, hkey]
  rfl

section Served

variable {x : Interleaving} {call : ScheduledCall} {position : Nat} {newJobId : String}
  {now : Int}

theorem Sound.ready (hx : Sound controller task x) (hcall : x.calls[position]? = some call)
    (hproper : x.Proper (.materialize position newJobId now)) :
    Ready controller task x.store call.event call.generation newJobId := by
  rcases hx.calls call (List.mem_of_getElem? hcall) with ⟨himperative, hpositive, _⟩
  exact ⟨himperative, hpositive, hproper.left, hproper.right, hx.rows, hx.ordered⟩

theorem Sound.serves (hx : Sound controller task x) (hcall : x.calls[position]? = some call)
    (hproper : x.Proper (.materialize position newJobId now))
    (hadmits : x.Admits controller task call) :
    (x.answer controller task call newJobId now).Served task := by
  have hready := hx.ready hcall hproper
  have hserved (hnewer : forall ordering, x.store.findOrdering task.projectId task.taskId
      implementationOrderingNamespace = some ordering ->
        ordering.sourceGeneration < call.generation)
      (hreusable : Reusable x.store (controller.eventRequest task call.event call.generation)) :
      (x.answer controller task call newJobId now).Served task := by
    rcases materialize_newer now hready hnewer hreusable with
      ⟨job, hjob, hactive⟩
    exact ⟨job, hjob, Or.inr hactive⟩
  cases hfound : x.store.findOrdering task.projectId task.taskId
      implementationOrderingNamespace with
  | none =>
    apply hserved
    · intro ordering hsome
      rw [hfound] at hsome
      cases hsome
    · intro cursor row hcursor
      rw [eventRequest_lane controller task hready.imperative] at hcursor
      have hordered := hx.ordered (Option.isSome_iff_exists.mpr ⟨cursor, hcursor⟩)
      rw [hfound] at hordered
      cases hordered
  | some ordering =>
    rcases hadmits ordering hfound with
      ⟨hnewer, hreusable⟩ | ⟨hle, answer, hanswer, hreturned, hgeneration, hequal⟩
    · apply hserved _ hreusable
      intro other hother
      rw [hfound] at hother
      cases hother
      exact hnewer
    · have hother := hx.generation_ne (List.mem_of_getElem? hcall) hanswer
      rcases hx.answers answer hanswer with ⟨himperative, _, hreached⟩
      rcases hreached hreturned with ⟨reached, hreachedOrdering, _, hlast⟩
      rw [hfound] at hreachedOrdering
      cases hreachedOrdering
      rcases hlast hgeneration with ⟨hrevision, hcurrent⟩
      rw [currentActivation_congr x.store himperative hready.imperative hequal _
        call.generation] at hcurrent
      rcases Option.isSome_iff_exists.mp hcurrent with ⟨row, hrow⟩
      have hstale := materialize_stale controller hready.imperative hready.positive hfound
        (by omega) newJobId now
      rw [if_pos (hrevision.trans hequal), hrow] at hstale
      have hresponse : (x.answer controller task call newJobId now).response = .ok row := by
        show (controller.materialize task x.store call.event call.generation newJobId
          now).2 = .ok row
        cases hresult : (controller.materialize task x.store call.event call.generation
            newJobId now).2 with
        | error error =>
          rw [hresult] at hstale
          cases hstale
        | ok job =>
          rw [hresult] at hstale
          exact congrArg Except.ok (Option.some.inj hstale)
      refine ⟨row, hresponse, Or.inl ?_⟩
      show x.isOvertaken call = true
      unfold Interleaving.isOvertaken
      rw [List.any_eq_true]
      refine ⟨answer, hanswer, ?_⟩
      rw [hreturned, Bool.true_and, decide_eq_true_eq]
      omega

end Served

/-- A namespace that holds an event revision holds the write of a call that returned. -/
def Authored (controller : ImplementationWorkflowController) (task : TaskRef)
    (x : Interleaving) : Prop :=
  forall ordering, x.store.findOrdering task.projectId task.taskId implementationOrderingNamespace =
      some ordering ->
    forall event, controller.revision task event = ordering.decisionRevision ->
      exists answer, answer ∈ x.answers ∧ answer.returned = true ∧
        answer.call.generation = ordering.sourceGeneration ∧
        controller.revision task answer.call.event = ordering.decisionRevision

namespace Authored

variable {x : Interleaving}

theorem passes {s : Store} (hx : Authored controller task x)
    (hrevision : forall event, controller.revision task event ≠ revision)
    (h : Passes task revision x.store s) :
    Authored controller task { x with store := s } := by
  intro ordering hfound event hevent
  rcases h.reorders with hsame | ⟨_, _, ordering', hfound', _, hwritten⟩
  · exact hx ordering (hsame.symm.trans hfound) event hevent
  · have heq : ordering' = ordering := Option.some.inj (hfound'.symm.trans hfound)
    rw [heq] at hwritten
    exact absurd (hevent.trans hwritten) (hrevision event)

theorem ofSame {s : Store} (hx : Authored controller task x)
    (h : s.tables.eventOrdering = x.store.tables.eventOrdering) :
    Authored controller task { x with store := s } := by
  intro ordering hfound
  exact hx ordering ((findOrdering_congr h).symm.trans hfound)

theorem materialized (hx : Authored controller task x) {position : Nat}
    {call : ScheduledCall} (hcall : x.calls[position]? = some call)
    (himperative : call.event.directOwnerRevocation = false) (newJobId : String)
    (now : Int) :
    Authored controller task (x.step controller task (.materialize position newJobId now)) := by
  have hstep : x.step controller task (.materialize position newJobId now) =
      { store := (x.answer controller task call newJobId now).after
        calls := x.calls.eraseIdx position
        answers := x.answers ++ [x.answer controller task call newJobId now] } := by
    unfold Interleaving.step
    dsimp only
    rw [hcall]
  rw [hstep]
  intro ordering hfound event hevent
  rcases materialize_cases controller task himperative call.generation x.store newJobId
    now with ⟨hstore, _⟩ | ⟨_, job, hjob, hmaterialized⟩
  · have hafter : (x.answer controller task call newJobId now).after = x.store := hstore
    rw [hafter] at hfound
    rcases hx ordering hfound event hevent with ⟨answer, hanswer, hwrote⟩
    exact ⟨answer, List.mem_append_left _ hanswer, hwrote⟩
  · rcases orderedStore_orderedBy.congr hmaterialized.orderings with
      ⟨ordering', hfound', hgeneration, hrevision⟩
    have heq : ordering' = ordering := Option.some.inj (hfound'.symm.trans hfound)
    rw [heq] at hgeneration hrevision
    refine ⟨_, List.mem_append_right _ List.mem_cons_self, ?_, hgeneration.symm, hrevision.symm⟩
    show (controller.materialize task x.store call.event call.generation newJobId now).2.isOk = true
    rw [hjob]
    rfl

theorem step (hx : Authored controller task x) (hsound : Sound controller task x)
    (t : Transaction) (hdistinct : x.Distinct controller task t) :
    Authored controller task (x.step controller task t) := by
  cases t with
  | allocate event => exact hx.ofSame rfl
  | materialize position newJobId now =>
    cases hcall : x.calls[position]? with
    | none =>
      have hsame : x.step controller task (.materialize position newJobId now) = x := by
        unfold Interleaving.step
        dsimp only
        rw [hcall]
      rw [hsame]
      exact hx
    | some call =>
      exact hx.materialized hcall (hsound.calls call (List.mem_of_getElem? hcall)).left newJobId now
  | allocatePass => exact hx.ofSame rfl
  | allocateScan => exact hx.ofSame rfl
  | reconcile decision generation newJobId now =>
    show Authored controller task (x.written _)
    cases hresult : controller.reconcileDecision task x.store decision generation
        newJobId now with
    | error error => exact hx
    | ok written => exact hx.passes hdistinct (reconcileDecision_passes hresult)
  | handoff now =>
    show Authored controller task (x.written _)
    cases hresult : reconcileHandoff task x.store
        now with
    | error error => exact hx
    | ok written =>
      have hevent : forall event, controller.revision task event ≠ "" :=
        fun _ => controller.eventRevision_nonempty _
      exact hx.passes hevent (reconcileHandoff_passes "" hresult)
  | work jobId action => exact hx.ofSame rfl

end Authored

theorem Sound.admits {x : Interleaving} {position : Nat}
    {newJobId : String} (hx : Sound controller task x) (hauthored : Authored controller task x)
    (hcall : x.calls[position]? = some call)
    (hproper : x.Proper (.materialize position newJobId now))
    (hserved : (x.answer controller task call newJobId now).Served task) :
    x.Admits controller task call := by
  have hready := hx.ready hcall hproper
  rcases hserved with ⟨job, hjob, _⟩
  have hresponse : (controller.materialize task x.store call.event call.generation
      newJobId now).2.toOption = some job := by
    show (x.answer controller task call newJobId now).response.toOption = some job
    rw [hjob]
    rfl
  intro ordering hfound
  by_cases hnewer : ordering.sourceGeneration < call.generation
  · left
    refine ⟨hnewer, ?_⟩
    by_contra hunequal
    rw [materialize_unequal now hready (by
      intro other hother
      rw [hfound] at hother
      cases hother
      exact hnewer) hunequal] at hresponse
    cases hresponse
  · right
    refine ⟨Nat.le_of_not_lt hnewer, ?_⟩
    have hrevision : ordering.decisionRevision = controller.revision task call.event := by
      by_contra hother
      rcases Nat.lt_or_eq_of_le (Nat.le_of_not_lt hnewer) with hless | hsame
      · rw [materialize_stale controller hready.imperative hready.positive hfound hless,
          if_neg hother] at hresponse
        cases hresponse
      · rw [materialize_conflict controller hready.imperative hready.positive hfound hsame
          hother] at hresponse
        cases hresponse
    rcases hauthored ordering hfound call.event hrevision.symm with
      ⟨answer, hanswer, hreturned, hgeneration, hwritten⟩
    exact ⟨answer, hanswer, hreturned, hgeneration, hwritten.trans hrevision⟩

/-!
# Runs
-/

/--
A run serves every call that it materializes when none is preceded by a newer write
of another origin, and, with digests that tell decisions from events, only then.
-/
theorem served_iff {transactions : List Transaction}
    (hproper : Guarded (Interleaving.step controller task) Interleaving.Proper {} transactions) :
    (Guarded (Interleaving.step controller task)
        (Interleaving.Timely controller task) {} transactions ->
      Guarded (Interleaving.step controller task)
        (Interleaving.Serves controller task) {} transactions) ∧
    (Guarded (Interleaving.step controller task)
        (Interleaving.Distinct controller task) {} transactions ->
      Guarded (Interleaving.step controller task)
        (Interleaving.Serves controller task) {} transactions ->
      Guarded (Interleaving.step controller task)
        (Interleaving.Timely controller task) {} transactions) := by
  have hempty : Sound controller task {} := Sound.empty
  have hauthored : Authored controller task {} := by
    intro ordering hfound
    cases hfound
  constructor
  · intro htimely
    have hguard := (guarded_and ({} : Interleaving) transactions).mpr ⟨hproper, htimely⟩
    apply guarded_invariant_imp (fun x t hx h => hx.step t h.left) _ hempty hguard
    intro x t hx h
    cases t with
    | materialize position newJobId now =>
      intro call hcall
      exact hx.serves hcall h.left (h.right call hcall)
    | _ => trivial
  · intro hdistinct hserves
    have hguard := (guarded_and ({} : Interleaving) transactions).mpr
      ⟨hproper, (guarded_and ({} : Interleaving) transactions).mpr ⟨hdistinct, hserves⟩⟩
    apply guarded_invariant_imp (I := fun x => Sound controller task x ∧ Authored controller task x)
      (fun x t hx h => ⟨hx.left.step t h.left, hx.right.step hx.left t h.right.left⟩) _
      ⟨hempty, hauthored⟩ hguard
    intro x t hx h
    cases t with
    | materialize position newJobId now =>
      intro call hcall
      exact hx.left.admits hx.right hcall h.left (h.right.right call hcall)
    | _ => trivial

/-!
# A call that is lost
-/

def sampleController : ImplementationWorkflowController where
  eventRevision := fun identity => "event-" ++ identity.action
  eventRevision_nonempty := by
    intro identity hempty
    have hlength := congrArg String.length hempty
    rw [String.length_append] at hlength
    exact absurd hlength (by simp)

def sampleTask : TaskRef where
  projectId := "p"
  taskId := "t"
  projectId_nonempty := by decide
  taskId_nonempty := by decide

def sampleEvent : ImplementationEvent where
  action := .validationSubmission
  maxAttempts_pos := maxAttempts_default

/-- A pass decides between the two transactions of a call. -/
def overtakenCall : List Transaction :=
  [.allocate sampleEvent, .allocatePass,
    .reconcile { sourceRevision := "decision", disposition := none } 2 "" 1,
    .materialize 0 "job" 2]

/-- The decision of the pass makes the event be rejected, and the call raises. -/
theorem served_overtakenCall :
    Guarded (Interleaving.step sampleController sampleTask) Interleaving.Proper {} overtakenCall ∧
      ¬ Guarded (Interleaving.step sampleController sampleTask)
        (Interleaving.Serves sampleController sampleTask) {} overtakenCall := by
  constructor
  · exact ⟨rfl, trivial, trivial, ⟨by decide, List.not_mem_nil⟩, trivial⟩
  · intro hserves
    have hraised : ((run (Interleaving.step sampleController sampleTask) {}
        (overtakenCall.take 3)).answer sampleController sampleTask
          { event := sampleEvent, generation := 1 } "job" 2).returned = false := by
      decide +kernel
    rcases hserves.right.right.right.left { event := sampleEvent, generation := 1 } rfl with
      ⟨job, hjob, _⟩
    have hreturned := congrArg Except.isOk hjob
    exact Bool.false_ne_true (hraised.symm.trans hreturned)

/-- A decision that is older than the call, which then becomes the active job. -/
def timelyCall : List Transaction :=
  [.allocatePass, .allocate sampleEvent,
    .reconcile { sourceRevision := "decision", disposition := none } 1 "" 1,
    .materialize 0 "job" 2]

theorem served_timelyCall : Guarded (Interleaving.step sampleController sampleTask)
      (Interleaving.Serves sampleController sampleTask) {} timelyCall := by
  have hproper : Guarded (Interleaving.step sampleController sampleTask)
      Interleaving.Proper {} timelyCall :=
    ⟨trivial, rfl, trivial, ⟨by decide, List.not_mem_nil⟩, trivial⟩
  apply (served_iff hproper).left
  refine ⟨trivial, trivial, trivial, ?_, trivial⟩
  intro call hcall ordering hfound
  cases hcall
  cases hfound
  left
  refine ⟨by decide +kernel, ?_⟩
  intro cursor row hcursor
  cases hcursor

end ImplementationWorkflow
end Oompah
