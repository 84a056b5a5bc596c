import Oompah.WorkflowJobs.LaneWrites

/-!
# Decisions that recur

The scheduler activates a decision at a snapshot and materializes its job.  The
identity of the job is a digest of the decision and of the generation that the
activation yields, so an activation that keeps the generation finds the row of
the earlier one, whatever state that row is in by now.
-/

namespace Oompah
namespace WorkflowJobs

open Foundation

/-!
# The scheduler
-/

structure WorkDecision where
  projectId : String
  taskId : String
  reasonCode : String
  evidenceRevision : String
  nextReassessmentAt : Option Int := none
  durableJobs : List String := []
  deriving DecidableEq

/-- What `_job_key` digests. -/
structure JobIdentity where
  projectId : String
  taskId : String
  jobGeneration : String
  decisionRevision : String
  evidenceRevision : String
  action : String
  priority : Int
  maxAttempts : Int
  deriving DecidableEq

/-- `decisionRevision` and `jobKey` are the digests of a decision and of a job. -/
structure WorkflowJobScheduler where
  defaultPriority : Int := 100
  maxAttempts : Int := 5
  maxAttempts_pos : 1 ≤ maxAttempts := by decide
  protectedEventLanePrefixes : List String := []
  decisionRevision : WorkDecision -> String
  jobKey : JobIdentity -> String

namespace WorkflowJobScheduler

variable (scheduler : WorkflowJobScheduler)

def jobIdentity (decision : WorkDecision) (jobGeneration decisionRevision action : String) :
    JobIdentity where
  projectId := decision.projectId
  taskId := decision.taskId
  jobGeneration := jobGeneration
  decisionRevision := decisionRevision
  evidenceRevision := decision.evidenceRevision
  action := action
  priority := scheduler.defaultPriority
  maxAttempts := scheduler.maxAttempts

def spec (decision : WorkDecision) (jobGeneration decisionRevision action : String) :
    WorkflowJobSpec where
  projectId := decision.projectId
  taskId := decision.taskId
  generation := jobGeneration
  action := action
  idempotencyKey :=
    scheduler.jobKey (scheduler.jobIdentity decision jobGeneration decisionRevision action)
  expectedEvidenceRevision := some decision.evidenceRevision
  priority := scheduler.defaultPriority
  maxAttempts := scheduler.maxAttempts
  reasonCode := some decision.reasonCode
  maxAttempts_pos := scheduler.maxAttempts_pos

def protectedAction (decision : WorkDecision) : Option String :=
  match decision.durableJobs with
  | [action] => if scheduler.protectedEventLanePrefixes = [] then none else some action
  | _ => none

def protectedLanes (decision : WorkDecision) : List String :=
  match scheduler.protectedAction decision with
  | some action => scheduler.protectedEventLanePrefixes.map (· ++ action)
  | none => []

def activate (s : Store) (decision : WorkDecision) (snapshot : Nat) (now : Int) :
    Except StoreError (Store × Store.ScheduleActivation) :=
  s.activateSchedule decision.projectId decision.taskId
    (scheduler.decisionRevision decision) snapshot decision.nextReassessmentAt
    (scheduler.protectedAction decision) (scheduler.protectedLanes decision) now

/-- Reason codes that record no authority cut. -/
def unrecordedReasons : List String :=
  ["retry.exhausted", "controller.evaluation_failed", "evidence.conflicting_task_facts"]

def materialize (s : Store) (decision : WorkDecision) (snapshot : Nat)
    (cursor : Store.ScheduleActivation) (newJobId : String) (now : Int) :
    Except StoreError (Store × Store.ScheduleWrite) :=
  let specs := decision.durableJobs.map (fun action =>
    (scheduler.spec decision cursor.jobGeneration cursor.decisionRevision action, newJobId))
  s.reconcileSchedule decision.projectId decision.taskId snapshot
    cursor.jobGeneration specs (decision.reasonCode ∉ unrecordedReasons)
    (some (Store.managedAuthorityKind specs))
    "superseded by a newer workflow decision" now

/-- `reconcile_accepted` for one decision; a stale cursor materializes nothing. -/
def reconcileDecision (s : Store) (decision : WorkDecision) (snapshot : Nat)
    (newJobId : String) (activatedAt materializedAt : Int) :
    Except StoreError (Store × Store.ScheduleActivation) := do
  let activated ← scheduler.activate s decision snapshot activatedAt
  if activated.2.accepted then
    let written ← scheduler.materialize activated.1 decision snapshot activated.2
      newJobId materializedAt
    return (written.1, activated.2)
  else
    return activated

/-- The job that the schedule cursor of a decision's task names. -/
def cursorJob (s : Store) (decision : WorkDecision) (action : String) :
    Option WorkflowJob :=
  (s.findCursor decision.projectId decision.taskId).bind fun cursor =>
    s.findIdempotent decision.projectId
      (scheduler.jobKey (scheduler.jobIdentity decision cursor.jobGeneration
        cursor.decisionRevision action))

end WorkflowJobScheduler

/-!
# Rows under their idempotency key
-/

namespace Store

variable {s : Store}

theorem findIdempotent_act {jobId : String} {action : RowAction}
    (haction : action.capturedRow = none) (projectId key : String) :
    (s.act jobId action).findIdempotent projectId key =
      (s.findIdempotent projectId key).map (JobTable.update jobId action) := by
  unfold findIdempotent act JobTable.modify
  rw [List.find?_map]
  congr 2
  funext row
  have hspec : (JobTable.update jobId action row).spec = row.spec := by
    unfold JobTable.update
    split
    · apply RowAction.apply_spec
      intro captured hcaptured
      rw [haction] at hcaptured
      cases hcaptured
    · rfl
  simp only [Function.comp, hspec]

variable {row : WorkflowJob}

theorem findIdempotent_act_ne {jobId projectId key : String}
    {action : RowAction} (haction : action.capturedRow = none)
    (h : s.findIdempotent projectId key = some row) (hne : row.jobId ≠ jobId) :
    (s.act jobId action).findIdempotent projectId key = some row := by
  rw [findIdempotent_act haction, h]
  exact congrArg some (if_neg hne)

theorem findIdempotent_actEach {rows : List WorkflowJob}
    {plan : WorkflowJob -> Option (RowAction × Option LoggedEvent)} {projectId key : String}
    (now : Int)
    (hplan : forall other action event, plan other = some (action, event) ->
      action.capturedRow = none)
    (h : s.findIdempotent projectId key = some row)
    (hrow : row.jobId ∉ rows.map WorkflowJob.jobId) :
    (s.actEach rows plan now).findIdempotent projectId key = some row := by
  induction rows generalizing s with
  | nil => exact h
  | cons first rest ih =>
    rw [List.map_cons, List.mem_cons, not_or] at hrow
    rw [actEach_cons]
    apply ih _ hrow.right
    unfold actOne
    split
    · exact h
    · rename_i action event haction
      exact findIdempotent_act_ne (hplan first _ _ haction) h hrow.left
    · rename_i action haction
      exact findIdempotent_act_ne (hplan first _ _ haction) h hrow.left

theorem actEach_tables (s : Store) (rows : List WorkflowJob)
    (plan : WorkflowJob -> Option (RowAction × Option LoggedEvent)) (now : Int) :
    (s.actEach rows plan now).tables = s.tables := by
  induction rows generalizing s with
  | nil => rfl
  | cons first rest ih =>
    rw [actEach_cons, ih]
    unfold actOne
    split
    · rfl
    · rfl
    · rfl

theorem findIdempotent_insert (hfresh : row.jobId ∉ s.jobs.rows.map WorkflowJob.jobId)
    (h : s.findIdempotent row.spec.projectId row.spec.idempotencyKey = none) :
    ({ s with jobs := s.jobs.insert row hfresh } : Store).findIdempotent
      row.spec.projectId row.spec.idempotencyKey = some row := by
  unfold findIdempotent at h ⊢
  show (s.jobs.rows ++ [row]).find? _ = _
  rw [List.find?_append, h]
  simp

theorem enqueueLocked_found {s s' : Store} {spec : WorkflowJobSpec} {newJobId : String}
    {managed created : Bool} {now : Int}
    (h : s.enqueueLocked spec newJobId managed now = .ok (s', row, created)) :
    s'.findIdempotent spec.projectId spec.idempotencyKey = some row ∧
      s'.tables = s.tables ∧ row.spec = spec ∧
      match s.findIdempotent spec.projectId spec.idempotencyKey with
      | some existing => existing.spec = spec ∧ row.state = existing.state
      | none => row.state = .queued := by
  unfold enqueueLocked at h
  cases hfind : s.findIdempotent spec.projectId spec.idempotencyKey with
  | some existing =>
    rw [hfind] at h
    dsimp only at h ⊢
    by_cases hspec : existing.spec = spec
    · rw [if_neg (not_not_intro hspec)] at h
      by_cases hmanage : managed = true ∧ ¬ existing.workflowManaged = true
      · rw [if_pos hmanage] at h
        cases h
        refine ⟨?_, rfl, hspec, hspec, rfl⟩
        rw [findIdempotent_act rfl, hfind]
        exact congrArg some (if_pos rfl)
      · rw [if_neg hmanage] at h
        cases h
        exact ⟨hfind, rfl, hspec, hspec, rfl⟩
    · rw [if_pos hspec] at h
      cases h
  | none =>
    rw [hfind] at h
    unfold requiredText at h
    rw [require_bind_eq_ok, bind_eq_ok] at h
    rcases h with ⟨_, inserted, hinsert, h⟩
    cases h
    unfold insertFresh at hinsert
    dsimp only at hinsert
    split at hinsert
    · rename_i hfresh
      cases hinsert
      exact ⟨findIdempotent_insert hfresh hfind, rfl, rfl, rfl⟩
    · cases hinsert

/-!
# Cursors
-/

theorem findCursor_upsertCursor (s : Store) (projectId taskId revision generation : String)
    (snapshot : Nat) (now : Int) :
    exists cursor, (s.upsertCursor projectId taskId revision generation snapshot now).findCursor
          projectId taskId = some cursor ∧
        cursor.projectId = projectId ∧ cursor.taskId = taskId ∧
        cursor.snapshotGeneration = snapshot ∧
        cursor.decisionRevision = revision ∧ cursor.jobGeneration = generation := by
  unfold upsertCursor findCursor withTables
  rw [List.find?_append]
  have hnone : (s.tables.cursors.filter (fun cursor =>
      ¬ (cursor.projectId = projectId ∧ cursor.taskId = taskId))).find? (fun cursor =>
      cursor.projectId = projectId ∧ cursor.taskId = taskId) = none := by
    rw [List.find?_eq_none]
    intro cursor hcursor
    have hother := (List.mem_filter.mp hcursor).right
    simp only [decide_eq_true_eq] at hother ⊢
    exact hother
  rw [hnone]
  simp

theorem findCursor_materializeCursor {projectId taskId : String} {cursor : WorkflowScheduleCursor}
    (h : s.findCursor projectId taskId = some cursor) (generation : String)
    (snapshot : Nat) (now : Int) :
    exists cursor', (s.materializeCursor projectId taskId generation snapshot now).findCursor
          projectId taskId = some cursor' ∧
        cursor'.jobGeneration = cursor.jobGeneration ∧
        cursor'.decisionRevision = cursor.decisionRevision := by
  unfold materializeCursor findCursor withTables at *
  rw [List.find?_map]
  have hsame : ((fun cursor : WorkflowScheduleCursor =>
      decide (cursor.projectId = projectId ∧ cursor.taskId = taskId)) ∘
      fun cursor => if cursor.projectId = projectId ∧ cursor.taskId = taskId ∧
            cursor.snapshotGeneration = snapshot ∧ cursor.jobGeneration = generation then
          { cursor with
            materializedJobGeneration := some generation
            updatedAt := now }
        else cursor) =
      fun cursor => decide (cursor.projectId = projectId ∧ cursor.taskId = taskId) := by
    funext other
    simp only [Function.comp]
    split
    · rfl
    · rfl
  rw [hsame, h]
  refine ⟨_, rfl, ?_⟩
  dsimp only
  split
  · exact ⟨rfl, rfl⟩
  · exact ⟨rfl, rfl⟩

theorem retireEach_tables (s : Store) (rows : List WorkflowJob) (retirement : JobRetirement) :
    (s.retireEach rows retirement).tables = s.tables := by
  induction rows generalizing s with
  | nil => rfl
  | cons row rest ih => exact ih _

/-- A retirement record moves neither jobs nor cursors. -/
theorem recordJobRetirementsLocked_keeps {s s' : Store} {projectId taskId revision : String}
    {kind : AuthorityKind} {snapshot : Option Nat} {workflowManaged : Option Bool}
    {excluded : List String} {now : Int} {count : Nat}
    (h : s.recordJobRetirementsLocked projectId taskId kind revision snapshot
      workflowManaged excluded now = .ok (s', count)) :
    s'.jobs = s.jobs ∧ s'.tables.cursors = s.tables.cursors := by
  rcases bind_eq_ok.mp h with ⟨generation, _, h⟩
  dsimp only at h
  split at h
  · cases h
    exact ⟨rfl, rfl⟩
  · cases h
    exact ⟨retireEach_jobs _ _ _, by rw [retireEach_tables]⟩
  · rcases bind_eq_ok.mp h with ⟨cut, hcut, h⟩
    cases h
    rcases recordCut_eq_ok hcut with ⟨f, hf, hcursors⟩
    subst hf
    exact ⟨retireEach_jobs _ _ _, by rw [retireEach_tables]; exact hcursors⟩

theorem recordManagedCut_keeps {s s' : Store} {projectId taskId revision : String}
    {snapshot : Nat} {kind : AuthorityKind} {ids : List String}
    {recordAuthorityCut : Bool} {now : Int}
    (h : s.recordManagedCut projectId taskId revision snapshot kind ids
      recordAuthorityCut now = .ok s') :
    s'.jobs = s.jobs ∧ s'.tables.cursors = s.tables.cursors := by
  rcases recordManagedCut_eq_ok h with rfl | ⟨count, hrecorded⟩
  · exact ⟨rfl, rfl⟩
  · exact recordJobRetirementsLocked_keeps hrecorded

end Store

/-!
# One decision
-/

namespace WorkflowJobScheduler

variable {scheduler : WorkflowJobScheduler} {s s' : Store} {decision : WorkDecision}
  {action : String} {snapshot : Nat} {now : Int}

/-- The standing activation of the task is not renewed. -/
def Keeps (scheduler : WorkflowJobScheduler) (s : Store) (decision : WorkDecision)
    (cursor : WorkflowScheduleCursor) (now : Int) : Prop :=
  cursor.decisionRevision = scheduler.decisionRevision decision ∧
    s.recurrenceDue decision.projectId decision.taskId cursor.jobGeneration false now = false

instance (scheduler : WorkflowJobScheduler) (s : Store) (decision : WorkDecision)
    (cursor : WorkflowScheduleCursor) (now : Int) :
    Decidable (scheduler.Keeps s decision cursor now) :=
  inferInstanceAs (Decidable (_ ∧ _))

def freshGeneration (scheduler : WorkflowJobScheduler) (decision : WorkDecision)
    (snapshot : Nat) : String :=
  Store.activationGeneration (scheduler.decisionRevision decision) snapshot
    decision.nextReassessmentAt

/-- The generation of the next activation. -/
def nextGeneration (scheduler : WorkflowJobScheduler) (s : Store)
    (decision : WorkDecision) (snapshot : Nat) (now : Int) : String :=
  match s.findCursor decision.projectId decision.taskId with
  | none => scheduler.freshGeneration decision snapshot
  | some cursor =>
    if scheduler.Keeps s decision cursor now then cursor.jobGeneration
    else scheduler.freshGeneration decision snapshot

/-- The key of the decision's job under a generation. -/
def keyAt (scheduler : WorkflowJobScheduler) (decision : WorkDecision)
    (generation action : String) : String :=
  scheduler.jobKey (scheduler.jobIdentity decision generation
    (scheduler.decisionRevision decision) action)

variable {activation : Store.ScheduleActivation}

theorem activate_spec (hlive : s.hasLiveReplacement decision.projectId decision.taskId
      (scheduler.protectedAction decision) (scheduler.protectedLanes decision) now = false)
    (hnewer : forall cursor, s.findCursor decision.projectId decision.taskId = some cursor ->
        cursor.snapshotGeneration < snapshot)
    (h : scheduler.activate s decision snapshot now = .ok (s', activation))
    (haccepted : activation.accepted = true) :
    s.snapshotGenerationIsCurrent snapshot = true ∧
      s' = s.upsertCursor decision.projectId decision.taskId (scheduler.decisionRevision decision)
        (scheduler.nextGeneration s decision snapshot now) snapshot now ∧
      activation.jobGeneration = scheduler.nextGeneration s decision snapshot now ∧
      activation.decisionRevision = scheduler.decisionRevision decision := by
  have hstored : forall generation changed, s.storeActivation decision.projectId decision.taskId
          (scheduler.decisionRevision decision) generation snapshot changed now =
        (s', activation) ->
      s' = s.upsertCursor decision.projectId decision.taskId
          (scheduler.decisionRevision decision) generation snapshot now ∧
        activation.jobGeneration = generation ∧
        activation.decisionRevision = scheduler.decisionRevision decision := by
    intro generation changed hstore
    rcases s.findCursor_upsertCursor decision.projectId decision.taskId
        (scheduler.decisionRevision decision) generation snapshot now with
      ⟨cursor, hcursor, _, _, _, hrevision, hgeneration⟩
    unfold Store.storeActivation at hstore
    dsimp only at hstore
    rw [hcursor] at hstore
    cases hstore
    exact ⟨rfl, hgeneration, hrevision⟩
  unfold activate Store.activateSchedule requiredText positiveGeneration at h
  simp only [require_bind_eq_ok] at h
  rcases h with ⟨_, _, _, _, _, h⟩
  unfold nextGeneration
  cases hcurrent : s.snapshotGenerationIsCurrent snapshot with
  | false =>
    rw [hcurrent] at h
    cases hcursor : s.findCursor decision.projectId decision.taskId with
    | none =>
      rw [hcursor] at h
      cases h
      cases haccepted
    | some cursor =>
      rw [hcursor] at h
      cases h
      cases haccepted
  | true =>
    rw [hcurrent] at h
    refine ⟨rfl, ?_⟩
    cases hcursor : s.findCursor decision.projectId decision.taskId with
    | none =>
      rw [hcursor] at h
      exact hstored _ true (Except.ok.inj h)
    | some cursor =>
      rw [hcursor] at h
      have hbefore := hnewer cursor hcursor
      dsimp only at h ⊢
      rw [if_neg (Nat.not_lt_of_gt hbefore), if_neg (Nat.ne_of_gt hbefore), hlive] at h
      by_cases hkeeps : scheduler.Keeps s decision cursor now
      · rw [if_pos hkeeps]
        have hsame : ¬ (cursor.decisionRevision ≠ scheduler.decisionRevision decision ∨
            s.recurrenceDue decision.projectId decision.taskId cursor.jobGeneration
              false now = true) := by
          rw [hkeeps.right]
          simp [hkeeps.left]
        simp only [hsame, if_false] at h
        exact hstored _ _ (Except.ok.inj h)
      · rw [if_neg hkeeps]
        have hchanged : cursor.decisionRevision ≠ scheduler.decisionRevision decision ∨
            s.recurrenceDue decision.projectId decision.taskId cursor.jobGeneration
              false now = true := by
          by_cases hrevision : cursor.decisionRevision = scheduler.decisionRevision decision
          · right
            by_contra hdue
            exact hkeeps ⟨hrevision, Bool.eq_false_of_not_eq_true hdue⟩
          · exact .inl hrevision
        simp only [hchanged, if_true] at h
        exact hstored _ _ (Except.ok.inj h)

/-- The state of a row that a materialization finds or makes. -/
def stateUnder (s : Store) (projectId key : String) : WorkflowJobState :=
  match s.findIdempotent projectId key with
  | some row => row.state
  | none => .queued

variable {cursor : WorkflowScheduleCursor}

theorem materialize_spec {newJobId : String} {write : Store.ScheduleWrite}
    (hjobs : decision.durableJobs = [action])
    (hcursor : s.findCursor decision.projectId decision.taskId = some cursor)
    (hcurrent : s.snapshotGenerationIsCurrent snapshot = true)
    (hsnapshot : cursor.snapshotGeneration = snapshot)
    (hgeneration : cursor.jobGeneration = activation.jobGeneration)
    (hrevision : cursor.decisionRevision = activation.decisionRevision)
    (h : scheduler.materialize s decision snapshot activation newJobId now = .ok (s', write)) :
    exists row, scheduler.cursorJob s' decision action = some row ∧
        row.state = stateUnder s decision.projectId
          (scheduler.jobKey (scheduler.jobIdentity decision activation.jobGeneration
            activation.decisionRevision action)) ∧
        forall existing, s.findIdempotent decision.projectId
              (scheduler.jobKey (scheduler.jobIdentity decision activation.jobGeneration
                activation.decisionRevision action)) = some existing ->
            existing.spec = scheduler.spec decision activation.jobGeneration
              activation.decisionRevision action := by
  unfold materialize Store.reconcileSchedule requiredText positiveGeneration at h
  rw [hjobs] at h
  simp only [require_bind_eq_ok] at h
  rcases h with ⟨_, _, _, _, _, _, h⟩
  rw [bind_eq_ok] at h
  rcases h with ⟨_, _, h⟩
  rw [require_bind_eq_ok] at h
  have hbody := h.right
  rw [hcursor] at hbody
  dsimp only at hbody
  rw [if_pos ⟨hcurrent, hsnapshot, hgeneration⟩] at hbody
  unfold Store.reconcileMaterialized at hbody
  rw [bind_eq_ok] at hbody
  rcases hbody with ⟨⟨enqueued, written⟩, henqueued, hbody⟩
  rw [bind_eq_ok] at hbody
  rcases hbody with ⟨recorded, hrecorded, hbody⟩
  cases hbody
  unfold Store.enqueueEach at henqueued
  rw [List.map_singleton, List.foldlM_cons, bind_eq_ok] at henqueued
  rcases henqueued with ⟨acc, hone, hdone⟩
  cases hdone
  rw [bind_eq_ok] at hone
  rcases hone with ⟨⟨middle, row, created⟩, henqueue, hone⟩
  cases hone
  rcases Store.enqueueLocked_found henqueue with ⟨hfound, htables, hspec, hstate⟩
  have hkept : row.jobId ∉ (middle.displacedRows decision.projectId decision.taskId
      activation.jobGeneration
      [(scheduler.spec decision activation.jobGeneration activation.decisionRevision
        action).idempotencyKey]).map WorkflowJob.jobId := by
    intro hmem
    rcases List.mem_map.mp hmem with ⟨other, hother, hid⟩
    have hrow := (Store.findIdempotent_eq_some hfound).left
    have hselect := List.mem_filter.mp hother
    have hsame : other = row :=
      JobTable.eq_of_jobId_eq (Store.mem_taskRows.mp hselect.left).left hrow hid
    have hkeep := hselect.right
    rw [hsame, hspec] at hkeep
    simp [spec] at hkeep
  have hsupersedes : forall other action event, Store.supersedePlan activation.jobGeneration
        "superseded by a newer workflow decision" now other = some (action, event) ->
          action.capturedRow = none := by
    intro other action event hplan
    unfold Store.supersedePlan at hplan
    split at hplan
    · cases hplan
    · cases hplan
      rfl
  have hfenced := Store.findIdempotent_actEach now hsupersedes hfound hkept
  rcases Store.recordManagedCut_keeps hrecorded with ⟨hrowsKept, hcursorsKept⟩
  have hmiddle : middle.findCursor decision.projectId decision.taskId = some cursor := by
    unfold Store.findCursor at hcursor ⊢
    rw [htables]
    exact hcursor
  have hfencedCursor : (middle.actEach (middle.displacedRows decision.projectId
        decision.taskId activation.jobGeneration
        [(scheduler.spec decision activation.jobGeneration activation.decisionRevision
          action).idempotencyKey])
      (Store.supersedePlan activation.jobGeneration
        "superseded by a newer workflow decision" now) now).findCursor
      decision.projectId decision.taskId = some cursor := by
    unfold Store.findCursor at hmiddle ⊢
    rw [Store.actEach_tables]
    exact hmiddle
  rcases Store.findCursor_materializeCursor hfencedCursor activation.jobGeneration
      snapshot now with ⟨last, hlast, hlastGeneration, hlastRevision⟩
  have hnamed : s'.findCursor decision.projectId decision.taskId = some last := by
    unfold Store.findCursor at hlast ⊢
    rw [hcursorsKept]
    exact hlast
  have hrow : s'.findIdempotent decision.projectId
      (scheduler.jobKey (scheduler.jobIdentity decision activation.jobGeneration
        activation.decisionRevision action)) = some row := by
    unfold Store.findIdempotent at hfenced ⊢
    rw [hrowsKept]
    exact hfenced
  have hkey : s.findIdempotent
        (scheduler.spec decision activation.jobGeneration activation.decisionRevision
          action).projectId
        (scheduler.spec decision activation.jobGeneration activation.decisionRevision
          action).idempotencyKey =
      s.findIdempotent decision.projectId
        (scheduler.jobKey (scheduler.jobIdentity decision activation.jobGeneration
          activation.decisionRevision action)) := rfl
  rw [hkey] at hstate
  refine ⟨row, ?_, ?_, ?_⟩
  · unfold cursorJob
    rw [hnamed, Option.bind_some, hlastGeneration, hlastRevision, hgeneration, hrevision]
    exact hrow
  · unfold stateUnder
    cases hfind : s.findIdempotent decision.projectId
        (scheduler.jobKey (scheduler.jobIdentity decision activation.jobGeneration
          activation.decisionRevision action)) with
    | some existing =>
      rw [hfind] at hstate
      exact hstate.right
    | none =>
      rw [hfind] at hstate
      exact hstate
  · intro existing hfind
    rw [hfind] at hstate
    exact hstate.left

/--
The job that the cursor names after a pass is the one that already stood under the
generation of the activation, or a queued one.
-/
theorem reconcileDecision_spec {newJobId : String} {activatedAt materializedAt : Int}
    (hjobs : decision.durableJobs = [action])
    (hlive : s.hasLiveReplacement decision.projectId decision.taskId
      (scheduler.protectedAction decision) (scheduler.protectedLanes decision)
      activatedAt = false)
    (hnewer : forall cursor, s.findCursor decision.projectId decision.taskId = some cursor ->
        cursor.snapshotGeneration < snapshot)
    (h : scheduler.reconcileDecision s decision snapshot newJobId activatedAt
      materializedAt = .ok (s', activation))
    (haccepted : activation.accepted = true) :
    exists row, scheduler.cursorJob s' decision action = some row ∧
        row.state = stateUnder s decision.projectId (scheduler.keyAt decision
            (scheduler.nextGeneration s decision snapshot activatedAt) action) ∧
        forall existing, s.findIdempotent decision.projectId (scheduler.keyAt decision
                (scheduler.nextGeneration s decision snapshot activatedAt) action) =
            some existing ->
          existing.spec = scheduler.spec decision
            (scheduler.nextGeneration s decision snapshot activatedAt)
            (scheduler.decisionRevision decision) action := by
  unfold reconcileDecision at h
  rw [bind_eq_ok] at h
  rcases h with ⟨⟨activated, cursor⟩, hactivate, h⟩
  by_cases hcursorAccepted : cursor.accepted = true
  · rw [if_pos hcursorAccepted, bind_eq_ok] at h
    rcases h with ⟨⟨written, write⟩, hmaterialize, h⟩
    cases h
    rcases activate_spec hlive hnewer hactivate hcursorAccepted with
      ⟨hcurrent, hactivated, hgeneration, hrevision⟩
    rcases s.findCursor_upsertCursor decision.projectId decision.taskId
        (scheduler.decisionRevision decision)
        (scheduler.nextGeneration s decision snapshot activatedAt) snapshot activatedAt
      with ⟨standing, hstanding, _, _, hsnapshot, hstandingRevision, hstandingGeneration⟩
    rw [← hactivated] at hstanding
    have hcounters : activated.snapshotGenerationIsCurrent snapshot = true := by
      rw [hactivated]
      exact hcurrent
    rcases materialize_spec hjobs hstanding hcounters hsnapshot
        (hstandingGeneration.trans hgeneration.symm)
        (hstandingRevision.trans hrevision.symm) hmaterialize with
      ⟨row, hrow, hstate, hspec⟩
    have hsame : forall key, activated.findIdempotent decision.projectId key =
        s.findIdempotent decision.projectId key := by
      intro key
      rw [hactivated]
      rfl
    rw [hgeneration, hrevision, hsame] at hspec
    refine ⟨row, hrow, ?_, hspec⟩
    rw [hstate, hgeneration, hrevision]
    unfold stateUnder
    rw [hsame]
    rfl
  · rw [if_neg hcursorAccepted] at h
    cases h
    exact absurd haccepted hcursorAccepted

/-!
# Decisions whose job stays superseded
-/

/--
What makes a pass end on a superseded row.  `unmanaged` needs a row that was not
enqueued by a pass, `repeated` one of an earlier activation at the same snapshot.
-/
inductive Stuck (scheduler : WorkflowJobScheduler) (s : Store) (decision : WorkDecision)
    (action : String) (snapshot : Nat) (now : Int) : Prop where
  | standing {cursor : WorkflowScheduleCursor} {row : WorkflowJob}
      (hcursor : s.findCursor decision.projectId decision.taskId = some cursor)
      (hrevision : cursor.decisionRevision = scheduler.decisionRevision decision)
      (hdeadline : scheduleReassessmentDeadline cursor.jobGeneration = none)
      (hrow : s.findIdempotent decision.projectId
        (scheduler.keyAt decision cursor.jobGeneration action) = some row)
      (hsuperseded : row.state = .superseded)
  | unmanaged {cursor : WorkflowScheduleCursor} {row : WorkflowJob}
      (hcursor : s.findCursor decision.projectId decision.taskId = some cursor)
      (hkeeps : scheduler.Keeps s decision cursor now)
      (hrow : s.findIdempotent decision.projectId
        (scheduler.keyAt decision cursor.jobGeneration action) = some row)
      (hsuperseded : row.state = .superseded)
      (hunmanaged : row.workflowManaged = false)
  | repeated {row : WorkflowJob}
      (hrenewed : forall cursor, s.findCursor decision.projectId decision.taskId = some cursor ->
          ¬ scheduler.Keeps s decision cursor now)
      (hrow : s.findIdempotent decision.projectId
        (scheduler.keyAt decision (scheduler.freshGeneration decision snapshot) action) = some row)
      (hsuperseded : row.state = .superseded)

/-- A managed superseded row of a generation with a deadline is due at once. -/
theorem recurrenceDue_of_superseded {projectId taskId generation : String}
    {row : WorkflowJob} (hrow : row ∈ s.taskRows projectId taskId)
    (hgeneration : row.spec.generation = generation)
    (hlane : row.spec.schedulingLane = "decision")
    (hmanaged : row.workflowManaged = true) (hsuperseded : row.state = .superseded)
    {deadline : Int} (hdeadline : scheduleReassessmentDeadline generation = some deadline)
    (now : Int) : s.recurrenceDue projectId taskId generation false now = true := by
  have hstates : ((s.taskRows projectId taskId).filter (fun row =>
      row.spec.generation = generation ∧ row.spec.schedulingLane = "decision" ∧
        row.workflowManaged)).map WorkflowJob.state |>.contains WorkflowJobState.superseded := by
    rw [List.contains_iff_mem]
    apply List.mem_map.mpr
    refine ⟨row, List.mem_filter.mpr ⟨hrow, ?_⟩, hsuperseded⟩
    simp [hgeneration, hlane, hmanaged]
  unfold Store.recurrenceDue
  rw [hdeadline]
  dsimp only
  rw [hstates]
  rfl

theorem keeps_of_no_deadline
    (hrevision : cursor.decisionRevision = scheduler.decisionRevision decision)
    (hdeadline : scheduleReassessmentDeadline cursor.jobGeneration = none) (now : Int) :
    scheduler.Keeps s decision cursor now := by
  refine ⟨hrevision, ?_⟩
  unfold Store.recurrenceDue
  rw [hdeadline]

theorem nextGeneration_keeps
    (hcursor : s.findCursor decision.projectId decision.taskId = some cursor)
    (hkeeps : scheduler.Keeps s decision cursor now) :
    scheduler.nextGeneration s decision snapshot now = cursor.jobGeneration := by
  unfold nextGeneration
  rw [hcursor]
  exact if_pos hkeeps

theorem nextGeneration_renewed (h : forall cursor,
      s.findCursor decision.projectId decision.taskId = some cursor ->
        ¬ scheduler.Keeps s decision cursor now) :
    scheduler.nextGeneration s decision snapshot now =
      scheduler.freshGeneration decision snapshot := by
  unfold nextGeneration
  cases hcursor : s.findCursor decision.projectId decision.taskId with
  | none => rfl
  | some cursor => exact if_neg (h cursor hcursor)

theorem stateUnder_superseded {projectId key : String}
    (h : stateUnder s projectId key = .superseded) :
    exists row, s.findIdempotent projectId key = some row ∧ row.state = .superseded := by
  unfold stateUnder at h
  cases hfind : s.findIdempotent projectId key with
  | none =>
    rw [hfind] at h
    cases h
  | some row =>
    rw [hfind] at h
    exact ⟨row, rfl, h⟩

theorem Stuck.stateUnder (h : scheduler.Stuck s decision action snapshot now) :
    WorkflowJobScheduler.stateUnder s decision.projectId
      (scheduler.keyAt decision (scheduler.nextGeneration s decision snapshot now)
        action) = .superseded := by
  unfold WorkflowJobScheduler.stateUnder
  cases h with
  | standing hcursor hrevision hdeadline hrow hsuperseded =>
    rw [nextGeneration_keeps hcursor (keeps_of_no_deadline hrevision hdeadline now), hrow]
    exact hsuperseded
  | unmanaged hcursor hkeeps hrow hsuperseded hunmanaged =>
    rw [nextGeneration_keeps hcursor hkeeps, hrow]
    exact hsuperseded
  | repeated hrenewed hrow hsuperseded =>
    rw [nextGeneration_renewed hrenewed, hrow]
    exact hsuperseded

/--
From any store, a pass at a newer snapshot leaves the decision with a job that is
not superseded exactly when the decision is not stuck.
-/
theorem reconciled_live_iff (scheduler : WorkflowJobScheduler) (s : Store)
    (decision : WorkDecision) (action : String) (snapshot : Nat) (newJobId : String)
    (activatedAt materializedAt : Int) {s' : Store}
    {activation : Store.ScheduleActivation} (hjobs : decision.durableJobs = [action])
    (hlive : s.hasLiveReplacement decision.projectId decision.taskId
      (scheduler.protectedAction decision) (scheduler.protectedLanes decision)
      activatedAt = false)
    (hnewer : forall cursor, s.findCursor decision.projectId decision.taskId = some cursor ->
        cursor.snapshotGeneration < snapshot)
    (h : scheduler.reconcileDecision s decision snapshot newJobId activatedAt
      materializedAt = .ok (s', activation))
    (haccepted : activation.accepted = true) :
    (exists row, scheduler.cursorJob s' decision action = some row ∧ row.state ≠ .superseded) ↔
    ¬ scheduler.Stuck s decision action snapshot activatedAt := by
  rcases reconcileDecision_spec hjobs hlive hnewer h haccepted with
    ⟨row, hrow, hstate, hspec⟩
  constructor
  · intro hnamed hstuck
    rcases hnamed with ⟨named, hnamed, hfree⟩
    rw [hrow] at hnamed
    cases hnamed
    exact hfree (hstate.trans hstuck.stateUnder)
  · intro hfree
    refine ⟨row, hrow, ?_⟩
    intro hsuperseded
    rw [hsuperseded] at hstate
    rcases stateUnder_superseded hstate.symm with ⟨existing, hexisting, hretired⟩
    have hidentity := hspec existing hexisting
    by_cases hkept : exists cursor, s.findCursor decision.projectId decision.taskId = some cursor ∧
          scheduler.Keeps s decision cursor activatedAt
    · rcases hkept with ⟨cursor, hcursor, hkeeps⟩
      rw [nextGeneration_keeps hcursor hkeeps] at hexisting hidentity
      cases hdeadline : scheduleReassessmentDeadline cursor.jobGeneration with
      | none => exact hfree (.standing hcursor hkeeps.left hdeadline hexisting hretired)
      | some deadline =>
        cases hmanaged : existing.workflowManaged with
        | false => exact hfree (.unmanaged hcursor hkeeps hexisting hretired hmanaged)
        | true =>
          have hmem : existing ∈ s.taskRows decision.projectId decision.taskId := by
            apply Store.mem_taskRows.mpr
            refine ⟨(Store.findIdempotent_eq_some hexisting).left, ?_, ?_⟩
            · rw [hidentity]
              rfl
            · rw [hidentity]
              rfl
          have hdue := recurrenceDue_of_superseded hmem
            (by rw [hidentity]; rfl) (by rw [hidentity]; rfl) hmanaged hretired
            hdeadline activatedAt
          rw [hkeeps.right] at hdue
          cases hdue
    · have hrenewed : forall cursor,
          s.findCursor decision.projectId decision.taskId = some cursor ->
            ¬ scheduler.Keeps s decision cursor activatedAt :=
        fun cursor hcursor hkeeps => hkept ⟨cursor, hcursor, hkeeps⟩
      rw [nextGeneration_renewed hrenewed] at hexisting
      exact hfree (.repeated hrenewed hexisting hretired)

end WorkflowJobScheduler

/-!
# A job that its worker superseded

The worker finds the evidence changed and supersedes its job; the next pass decides
as before.
-/

def plainScheduler : WorkflowJobScheduler where
  decisionRevision decision := "decision:" ++ decision.evidenceRevision
  jobKey identity := "workflow-decision:" ++ identity.jobGeneration

def plainDecision (deadline : Option Int) : WorkDecision where
  projectId := "project-1"
  taskId := "task-1"
  reasonCode := "implementation.ready"
  evidenceRevision := "facts-1"
  nextReassessmentAt := deadline
  durableJobs := ["publish"]

/-- One pass, its claim, the worker's revalidation and the next capture. -/
def revalidatedRun (deadline : Option Int) : List SystemOp :=
  let decision := plainDecision deadline
  let revision := plainScheduler.decisionRevision decision
  let generation := plainScheduler.freshGeneration decision 1
  [.op .allocateSnapshotGeneration, .op (.acceptSnapshotGeneration 1),
    .op (.reconcileSnapshotMembership 1 ["project-1"] [("project-1", "task-1")] none 1),
    .op (.schedule (.activateSchedule "project-1" "task-1" revision 1 deadline none [] 1)),
    .op (.schedule (.reconcileSchedule "project-1" "task-1" 1 generation
      [(plainScheduler.spec decision generation revision "publish", "job-1")] true none
      "scheduled" 1)),
    .publish 1 (.returned {}) none .committed true 2,
    .op (.claimNext "worker-1" sampleToken 60 {} false 100 3),
    .op (.supersede "job-1" generation ("reassess:" ++ generation)
      "workflow evidence changed after job enqueue" 4),
    .op .allocateSnapshotGeneration,
    .op (.acceptSnapshotGeneration 2)]

def revalidatedSystem (deadline : Option Int) : System :=
  run System.step {} (revalidatedRun deadline)

def revalidated (deadline : Option Int) : Store := (revalidatedSystem deadline).store

def nextPass (deadline : Option Int) : Except StoreError (Store × Store.ScheduleActivation) :=
  plainScheduler.reconcileDecision (revalidated deadline) (plainDecision deadline) 2 "job-2" 5 5

theorem nextPass_recurring : exists written, nextPass (some 60000000) = .ok written ∧ ((exists row,
        plainScheduler.cursorJob written.1 (plainDecision (some 60000000)) "publish" = some row ∧
          row.state ≠ .superseded) ↔
        ¬ plainScheduler.Stuck (revalidated (some 60000000))
          (plainDecision (some 60000000)) "publish" 2 5) := by
  have hpass : (nextPass (some 60000000)).toOption.map (fun written =>
      written.2.accepted) = some true := by decide +kernel
  cases h : nextPass (some 60000000) with
  | error error =>
    rw [h] at hpass
    cases hpass
  | ok written =>
    rw [h] at hpass
    refine ⟨written, rfl, ?_⟩
    apply WorkflowJobScheduler.reconciled_live_iff plainScheduler _ _ _ _ "job-2" 5 5
      rfl _ _ h (Option.some.inj hpass)
    · decide +kernel
    · have hcursor : ((revalidated (some 60000000)).findCursor "project-1"
          "task-1").all (fun cursor => cursor.snapshotGeneration < 2) = true := by
        decide +kernel
      intro cursor hfound
      have hfound' : (revalidated (some 60000000)).findCursor "project-1" "task-1" =
          some cursor := hfound
      rw [hfound'] at hcursor
      exact of_decide_eq_true hcursor

/-- Without a reassessment deadline the decision keeps its superseded job. -/
theorem nextPass_staysSuperseded : System.Reachable (revalidatedSystem none) ∧
      (revalidated none).hasLiveReplacement "project-1" "task-1"
          (plainScheduler.protectedAction (plainDecision none))
          (plainScheduler.protectedLanes (plainDecision none)) 5 = false ∧
      ((revalidated none).findCursor "project-1" "task-1").map
          (fun cursor => cursor.snapshotGeneration) = some 1 ∧
      (nextPass none).toOption.map (fun written => (written.2.accepted,
        (plainScheduler.cursorJob written.1 (plainDecision none) "publish").map
          WorkflowJob.state)) = some (true, some .superseded) := by
  refine ⟨⟨revalidatedRun none, rfl⟩, ?_⟩
  decide +kernel

end WorkflowJobs
end Oompah
