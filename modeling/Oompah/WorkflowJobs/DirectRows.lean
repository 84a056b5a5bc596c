import Oompah.WorkflowJobs.Exhaustion
import Oompah.WorkflowJobs.LaneReplay
import Oompah.WorkflowJobs.Restore

/-!
# Direct rows under a restored pass

A pass that schedules a job which already exists as a directly enqueued row
adopts that row: the enqueue sets its managed flag.  The restore tells rows
apart by the flag it finds, so an adopted row is rolled back as work of the
pass, and every other direct row is left alone.
-/

namespace Oompah
namespace WorkflowJobs

open Foundation

/-!
# Adoption
-/

namespace Store

/-- The idempotency key of the spec belongs to a direct row. -/
def holdsDirect (s : Store) (spec : WorkflowJobSpec) : Bool :=
  (s.findIdempotent spec.projectId spec.idempotencyKey).any (fun row => !row.workflowManaged)

/-- The cursor of the task is the one a reconciliation names. -/
def admitsSchedule (s : Store) (projectId taskId : String) (snapshot : Nat)
    (generation : String) : Bool :=
  (s.findCursor projectId taskId).any (fun cursor =>
    s.snapshotGenerationIsCurrent snapshot ∧
      cursor.snapshotGeneration = snapshot ∧ cursor.jobGeneration = generation)

end Store

def ScheduleOp.adopts (s : Store) : ScheduleOp -> Bool
  | .reconcileSchedule projectId taskId snapshot generation specs _ _ _ _ =>
    s.admitsSchedule projectId taskId snapshot generation &&
      specs.any (fun item => s.holdsDirect item.1)
  | _ => false

def ScheduleOp.adoptsEach : Store -> List ScheduleOp -> Bool
  | _, [] => false
  | s, op :: rest =>
    op.adopts s ||
      (match op.apply s with
      | .ok written => adoptsEach written.1 rest
      | .error _ => false)

/-- A transaction of the pass commits the adoption of a direct row. -/
def Op.adopts (s : Store) : Op -> Bool
  | .schedule op => (op.apply s).isOk && op.adopts s
  | .schedulingBatch ops =>
    (ScheduleOp.applyBatch s ops).isOk && ScheduleOp.adoptsEach s ops
  | _ => false

/-- The writes of `reconcile_accepted` under its generation. -/
def Op.inPass (generation : Nat) : Op -> Bool
  | .allocateDecisionWindow _ _ snapshot _ => snapshot = some generation
  | op => op.stages generation

/-!
# Direct rows of two stores
-/

namespace Store

variable {generation : Nat} {s s' s'' : Store}

/-- Every direct row is still there as it was. -/
def DirectKept (s s' : Store) : Prop :=
  forall row, row ∈ s.jobs.rows -> row.workflowManaged = false -> row ∈ s'.jobs.rows

/-- The row is managed by now. -/
def Taken (s : Store) (row : WorkflowJob) : Prop :=
  exists row', row' ∈ s.jobs.rows ∧ row'.jobId = row.jobId ∧ row'.workflowManaged = true

def DirectTaken (s s' : Store) : Prop :=
  exists row, row ∈ s.jobs.rows ∧ row.workflowManaged = false ∧ s'.Taken row

theorem DirectKept.refl (s : Store) : DirectKept s s := fun _ hrow _ => hrow

theorem DirectKept.trans (h : DirectKept s s') (h' : DirectKept s' s'') : DirectKept s s'' :=
  fun row hrow hdirect => h' row (h row hrow hdirect) hdirect

theorem DirectKept.of_jobs (h : s'.jobs = s.jobs) : DirectKept s s' :=
  fun _ hrow _ => h ▸ hrow

variable {row : WorkflowJob}

theorem DirectKept.act {action : RowAction} (hrow : s.jobs.find? row.jobId = some row)
    (hmanaged : row.workflowManaged = true) :
    DirectKept s (s.act row.jobId action) := by
  intro direct hmem hdirect
  refine JobTable.mem_modify.mpr ⟨direct, hmem, if_neg ?_⟩
  intro hid
  have heq := JobTable.eq_of_jobId_eq hmem (JobTable.mem_of_find? hrow).left hid
  rw [heq, hmanaged] at hdirect
  cases hdirect

theorem supersedeEach_directKept {rows : List WorkflowJob}
    (replacement message : String) (now : Int) (hselects : s.Selects rows)
    (hmanaged : forall row, row ∈ rows -> row.workflowManaged = true) :
    DirectKept s (s.actEach rows (supersedePlan replacement message now) now) := by
  apply actEach_relation DirectKept.refl (fun _ _ _ => DirectKept.trans) _ _ hselects
  · intro s row action event hrow hfound _
    exact DirectKept.act hfound (hmanaged row hrow)
  · intro s row event
    exact DirectKept.of_jobs rfl

theorem Taken.staged (hstaged : Staged generation s s') (h : s.Taken row) : s'.Taken row := by
  rcases h with ⟨taken, htaken, hid, hmanaged⟩
  rcases hstaged.kept taken htaken with ⟨taken', htaken', hrow⟩
  exact ⟨taken', htaken', hrow.jobId.trans hid, hrow.managed hmanaged⟩

theorem Taken.act {action : RowAction} {jobId : String}
    (haction : forall other : WorkflowJob, other.workflowManaged = true ->
      (action.apply other).workflowManaged = true)
    (h : s.Taken row) : (s.act jobId action).Taken row := by
  rcases h with ⟨taken, htaken, hid, hmanaged⟩
  refine ⟨JobTable.update jobId action taken, JobTable.mem_modify.mpr ⟨taken, htaken, rfl⟩, ?_, ?_⟩
  · rw [JobTable.update_jobId, hid]
  · unfold JobTable.update
    split
    · exact haction taken hmanaged
    · exact hmanaged

/-!
# One scheduled spec
-/

/-- What `_enqueue_locked` does for a managed spec. -/
inductive Scheduled (s : Store) (spec : WorkflowJobSpec) : Store -> Prop where
  | replayed {existing : WorkflowJob}
      (hfound : s.findIdempotent spec.projectId spec.idempotencyKey = some existing)
      (hmanaged : existing.workflowManaged = true) :
      Scheduled s spec s
  | adopted {existing : WorkflowJob}
      (hfound : s.findIdempotent spec.projectId spec.idempotencyKey = some existing)
      (hdirect : existing.workflowManaged = false) :
      Scheduled s spec (s.act existing.jobId .manage)
  | inserted {row : WorkflowJob} {now : Int}
      (hnone : s.findIdempotent spec.projectId spec.idempotencyKey = none)
      (hfresh : row.jobId ∉ s.jobs.rows.map WorkflowJob.jobId)
      (hmanaged : row.workflowManaged = true) :
      Scheduled s spec ({ s with jobs := s.jobs.insert row hfresh }.appendEvent row
        ⟨"enqueued", []⟩ now)

variable {spec : WorkflowJobSpec} {now : Int}

theorem enqueueLocked_scheduled {newJobId : String} {created : Bool}
    (h : s.enqueueLocked spec newJobId true now = .ok (s', row, created)) :
    Scheduled s spec s' := by
  unfold enqueueLocked at h
  split at h
  · rename_i existing hfound
    split at h
    · cases h
    · split at h
      · rename_i hadopts
        cases h
        exact Scheduled.adopted hfound (by simpa using hadopts.right)
      · rename_i hadopts
        cases h
        exact Scheduled.replayed hfound (by simpa using hadopts)
  · rename_i hnone
    unfold requiredText insertFresh at h
    rw [require_bind_eq_ok, bind_eq_ok] at h
    rcases h with ⟨_, ⟨inserted, hinserted, h⟩⟩
    cases h
    dsimp only at hinserted
    split at hinserted
    · rename_i hfresh
      cases hinserted
      exact Scheduled.inserted hnone hfresh rfl
    · cases hinserted

theorem findIdempotent_insert_some {row fresh : WorkflowJob} {projectId key : String}
    (hfresh : fresh.jobId ∉ s.jobs.rows.map WorkflowJob.jobId)
    (h : s.findIdempotent projectId key = some row) :
    ({ s with jobs := s.jobs.insert fresh hfresh } : Store).findIdempotent
      projectId key = some row := by
  unfold findIdempotent at h ⊢
  show (s.jobs.rows ++ [fresh]).find? _ = _
  rw [List.find?_append, h]
  rfl

/-- A fresh managed row makes no key belong to a direct row. -/
theorem holdsDirect_insert {fresh : WorkflowJob} (spec : WorkflowJobSpec)
    (hfresh : fresh.jobId ∉ s.jobs.rows.map WorkflowJob.jobId)
    (hmanaged : fresh.workflowManaged = true)
    (h : s.holdsDirect spec = false) :
    ({ s with jobs := s.jobs.insert fresh hfresh } : Store).holdsDirect spec =
      false := by
  unfold holdsDirect at h ⊢
  cases hfound : s.findIdempotent spec.projectId spec.idempotencyKey with
  | some row =>
    rw [findIdempotent_insert_some hfresh hfound]
    rw [hfound] at h
    exact h
  | none =>
    unfold findIdempotent at hfound ⊢
    show ((s.jobs.rows ++ [fresh]).find? _).any _ = false
    rw [List.find?_append, hfound, Option.none_or, List.find?_singleton]
    split
    · simp [hmanaged]
    · rfl

variable {specs : List (WorkflowJobSpec × String)}

theorem Scheduled.directKept (h : Scheduled s spec s') (hspec : s.holdsDirect spec = false)
    (hfree : forall item, item ∈ specs -> s.holdsDirect item.1 = false) :
    DirectKept s s' ∧ forall item, item ∈ specs -> s'.holdsDirect item.1 = false := by
  cases h with
  | replayed => exact ⟨DirectKept.refl s, hfree⟩
  | adopted hfound hdirect =>
    unfold holdsDirect at hspec
    simp [hfound, hdirect] at hspec
  | inserted _ hfresh hmanaged =>
    refine ⟨fun row hrow _ => List.mem_append_left _ hrow, ?_⟩
    intro item hitem
    exact holdsDirect_insert item.1 hfresh hmanaged (hfree item hitem)

/-- The row holds the key of the spec, or is managed by now. -/
def HeldOrTaken (row : WorkflowJob) (spec : WorkflowJobSpec) (s : Store) : Prop :=
  s.Taken row ∨ s.findIdempotent spec.projectId spec.idempotencyKey = some row

theorem taken_manage (hrow : row ∈ s.jobs.rows) : (s.act row.jobId .manage).Taken row :=
  ⟨RowAction.manage.apply row, JobTable.mem_modify.mpr ⟨row, hrow, if_pos rfl⟩, rfl, rfl⟩

theorem Taken.scheduled (h : Scheduled s spec s') (htaken : s.Taken row) : s'.Taken row := by
  cases h with
  | replayed => exact htaken
  | adopted => exact htaken.act (fun _ _ => rfl)
  | inserted =>
    rcases htaken with ⟨taken, htaken, hid, hmanaged⟩
    exact ⟨taken, List.mem_append_left _ htaken, hid, hmanaged⟩

theorem HeldOrTaken.scheduled {spec other : WorkflowJobSpec}
    (h : Scheduled s other s') (hheld : HeldOrTaken row spec s) :
    HeldOrTaken row spec s' := by
  rcases hheld with htaken | hkey
  · exact .inl (htaken.scheduled h)
  · cases h with
    | replayed => exact .inr hkey
    | @adopted existing hfound hdirect =>
      by_cases hid : row.jobId = existing.jobId
      · rw [← hid]
        exact .inl (taken_manage (findIdempotent_eq_some hkey).left)
      · exact .inr (findIdempotent_act_ne rfl hkey hid)
    | inserted _ hfresh _ => exact .inr (findIdempotent_insert_some hfresh hkey)

theorem HeldOrTaken.taken (hdirect : row.workflowManaged = false) (h : Scheduled s spec s')
    (hheld : HeldOrTaken row spec s) : s'.Taken row := by
  rcases hheld with htaken | hkey
  · exact htaken.scheduled h
  · cases h with
    | replayed hfound hmanaged =>
      rw [hkey] at hfound
      cases hfound
      rw [hdirect] at hmanaged
      cases hmanaged
    | adopted hfound _ =>
      rw [hkey] at hfound
      cases hfound
      exact taken_manage (findIdempotent_eq_some hkey).left
    | inserted hnone =>
      rw [hkey] at hnone
      cases hnone

/-!
# One reconciliation
-/

variable {written : List (String × Bool)}

theorem enqueueEach_directKept (hfree : forall item, item ∈ specs -> s.holdsDirect item.1 = false)
    (h : s.enqueueEach specs now = .ok (s', written)) : DirectKept s s' := by
  -- The loop relation carries that no key of the specs is a direct row's.
  have hloop := foldlM_relation
    (R := fun a b : Store × List (String × Bool) =>
      (forall item, item ∈ specs -> a.1.holdsDirect item.1 = false) -> DirectKept a.1 b.1 ∧
          forall item, item ∈ specs -> b.1.holdsDirect item.1 = false)
    (fun a ha => ⟨DirectKept.refl a.1, ha⟩)
    (fun a b c hab hbc ha =>
      ⟨(hab ha).left.trans (hbc (hab ha).right).left, (hbc (hab ha).right).right⟩)
    (fun acc item acc' hitem hbody => ?_) h
  · exact (hloop hfree).left
  · intro hfree
    rw [bind_eq_ok] at hbody
    rcases hbody with ⟨⟨middle, row, created⟩, henqueue, hbody⟩
    cases hbody
    exact (enqueueLocked_scheduled henqueue).directKept (hfree item hitem) hfree

/-- A property that every scheduled spec keeps is kept by the loop. -/
theorem enqueueEach_invariant {P : Store -> Prop} {acc acc' : Store × List (String × Bool)}
    (hstep : forall a spec b, Scheduled a spec b -> P a -> P b)
    (h : specs.foldlM (fun acc item => do
      let written ← acc.1.enqueueLocked item.1 item.2 true now
      return (written.1, acc.2 ++ [(written.2.1.jobId, written.2.2)])) acc =
        .ok acc') (hacc : P acc.1) : P acc'.1 := by
  have hloop := foldlM_relation (R := fun a b : Store × List (String × Bool) => P a.1 -> P b.1)
    (fun _ => id) (fun _ _ _ hab hbc ha => hbc (hab ha))
    (fun acc item acc' hitem hbody => ?_) h
  · exact hloop hacc
  · intro hacc
    rw [bind_eq_ok] at hbody
    rcases hbody with ⟨⟨middle, row, created⟩, henqueue, hbody⟩
    cases hbody
    exact hstep _ _ _ (enqueueLocked_scheduled henqueue) hacc

theorem enqueueEach_directTaken (hheld : specs.any (fun item => s.holdsDirect item.1) = true)
    (h : s.enqueueEach specs now = .ok (s', written)) : DirectTaken s s' := by
  rcases List.any_eq_true.mp hheld with ⟨item, hitem, hrow⟩
  unfold holdsDirect at hrow
  rw [Option.any_eq_true] at hrow
  rcases hrow with ⟨row, hkey, hdirect⟩
  simp only [Bool.not_eq_true'] at hdirect
  refine ⟨row, (findIdempotent_eq_some hkey).left, hdirect, ?_⟩
  -- Up to the spec the row holds its key; from the spec on it is managed.
  rcases List.append_of_mem hitem with ⟨before, after, hspecs⟩
  unfold enqueueEach at h
  rw [hspecs, List.foldlM_append, bind_eq_ok] at h
  rcases h with ⟨reached, hbefore, h⟩
  have hreached : HeldOrTaken row item.1 reached.1 :=
    enqueueEach_invariant (fun _ _ _ hscheduled => .scheduled hscheduled) hbefore (Or.inr hkey)
  rw [List.foldlM_cons, bind_eq_ok] at h
  rcases h with ⟨enqueued, hbody, hafter⟩
  rw [bind_eq_ok] at hbody
  rcases hbody with ⟨⟨middle, found, created⟩, henqueue, hbody⟩
  cases hbody
  have htaken : middle.Taken row :=
    hreached.taken hdirect (enqueueLocked_scheduled henqueue)
  exact enqueueEach_invariant (P := fun a => a.Taken row)
    (fun _ _ _ hscheduled => Taken.scheduled hscheduled) hafter htaken

variable {projectId taskId jobGeneration : String}

theorem mem_displacedRows_managed {keys : List String}
    (h : row ∈ s.displacedRows projectId taskId jobGeneration keys) :
    row.workflowManaged = true ∧ row.isActive = true := by
  have hkeep := (List.mem_filter.mp h).right
  simp only [decide_eq_true_eq] at hkeep
  exact ⟨hkeep.left, hkeep.right.left⟩

/--
How a store is left by writes of the pass that adopt a direct row exactly when
`Adopts` holds.
-/
structure Frame (generation : Nat) (Adopts : Prop) (s s' : Store) : Prop where
  staged : Staged generation s s'
  kept : ¬ Adopts -> DirectKept s s'
  taken : Adopts -> DirectTaken s s'

theorem Frame.refl (s : Store) : Frame generation False s s where
  staged := Staged.refl s
  kept := fun _ => DirectKept.refl s
  taken := False.elim

theorem Frame.of_kept (hstaged : Staged generation s s')
    (hkept : DirectKept s s') : Frame generation False s s' where
  staged := hstaged
  kept := fun _ => hkept
  taken := False.elim

theorem Frame.congr {A B : Prop} (h : Frame generation A s s') (hiff : A <-> B) :
    Frame generation B s s' := by
  rw [← hiff]
  exact h

theorem Frame.trans {A B : Prop} (h : Frame generation A s s')
    (h' : Frame generation B s' s'') : Frame generation (A ∨ B) s s'' where
  staged := h.staged.trans h'.staged
  kept := by
    intro hadopts
    rw [not_or] at hadopts
    exact (h.kept hadopts.left).trans (h'.kept hadopts.right)
  taken := by
    intro hadopts
    by_cases hfirst : A
    · rcases h.taken hfirst with ⟨row, hrow, hdirect, htaken⟩
      exact ⟨row, hrow, hdirect, htaken.staged h'.staged⟩
    · -- A row that is direct in between is one from before.
      rcases h'.taken (hadopts.resolve_left hfirst) with
        ⟨middle, hmiddle, hdirect, htaken⟩
      rcases h.staged.origin middle hmiddle with ⟨row, hrow, hstaged⟩ | ⟨hmanaged, _⟩
      · refine ⟨row, hrow, hstaged.unmanaged hdirect, ?_⟩
        rcases htaken with ⟨row', hrow', hid, hmanaged⟩
        exact ⟨row', hrow', hid.trans hstaged.jobId, hmanaged⟩
      · rw [hdirect] at hmanaged
        cases hmanaged

variable {recordAuthorityCut : Bool} {result : ScheduleWrite}

theorem reconcileMaterialized_frame {cursor : WorkflowScheduleCursor} {reason : String}
    (htask : TaskStaged generation s projectId taskId) (hspecs : forall item, item ∈ specs ->
      item.1.projectId = projectId ∧ item.1.taskId = taskId)
    (h : s.reconcileMaterialized projectId taskId jobGeneration generation
      cursor specs recordAuthorityCut reason now = .ok (s', result)) :
    Frame generation (specs.any (fun item => s.holdsDirect item.1) = true) s s' := by
  rcases reconcileMaterialized_eq_ok h with ⟨enqueued, written, henqueued, hrecorded⟩
  have hfirst : Frame generation
      (specs.any (fun item => s.holdsDirect item.1) = true) s enqueued := by
    refine ⟨enqueueEach_staged htask hspecs henqueued, ?_, ?_⟩
    · intro hfree
      rw [List.any_eq_true] at hfree
      push Not at hfree
      exact enqueueEach_directKept (fun item hitem => by simpa using hfree item hitem) henqueued
    · exact fun hheld => enqueueEach_directTaken hheld henqueued
  have hfenced : Frame generation False enqueued (enqueued.actEach
      (enqueued.displacedRows projectId taskId jobGeneration
        (specs.map (fun item => item.1.idempotencyKey)))
      (supersedePlan jobGeneration reason now) now) := by
    have hselects := selects_displacedRows enqueued projectId taskId
      jobGeneration (specs.map (fun item => item.1.idempotencyKey))
    exact Frame.of_kept (supersedeEach_staged _ _ _ hselects
        (fun row hrow => (mem_displacedRows_managed hrow).right))
      (supersedeEach_directKept _ _ _ hselects
        (fun row hrow => (mem_displacedRows_managed hrow).left))
  have hlast : Frame generation False _ s' :=
    Frame.of_kept ((materializeCursor_staged _ _ _ _).trans (recordManagedCut_staged hrecorded))
      (DirectKept.of_jobs (recordManagedCut_keeps hrecorded).left)
  exact (hfirst.trans (hfenced.trans hlast)).congr (by simp)

theorem reconcileSchedule_frame {authorityKind : Option AuthorityKind} {reason : String}
    (hunique : CursorsUnique s.tables)
    (h : s.reconcileSchedule projectId taskId generation jobGeneration specs
      recordAuthorityCut authorityKind reason now = .ok (s', result)) :
    Frame generation ((s.admitsSchedule projectId taskId generation jobGeneration &&
        specs.any (fun item => s.holdsDirect item.1)) = true) s s' := by
  rcases reconcileSchedule_eq_ok h with
    ⟨rfl, hrefused⟩ | ⟨cursor, hcursor, hcurrent, hspecs, hbody⟩
  · have hnot : s'.admitsSchedule projectId taskId generation jobGeneration = false := by
      simpa [admitsSchedule, Option.any_eq_false] using hrefused
    exact (Frame.refl s').congr (by simp [hnot])
  · have htask := taskStaged_of_findCursor hunique hcursor hcurrent.right.left
    have hadmits : s.admitsSchedule projectId taskId generation jobGeneration = true := by
      simp [admitsSchedule, hcursor, hcurrent]
    exact (reconcileMaterialized_frame htask hspecs hbody).congr (by simp [hadmits])

variable {snapshot : Nat}

theorem recordLifecycleFinalAuthority_jobs {projectId taskId status : String} {count : Nat}
    (h : s.recordLifecycleFinalAuthority projectId taskId status snapshot now =
      .ok (s', count)) : s'.jobs = s.jobs := by
  rcases recordLifecycleFinalAuthority_eq_ok h with rfl | hrecorded
  · rfl
  · exact (recordJobRetirementsLocked_keeps hrecorded).left

theorem retireAbsentTask_directKept (snapshot : Nat) (projectId : String) (now : Int)
    (acc : Store × Nat × Nat) (taskId : String) :
    DirectKept acc.1 (retireAbsentTask snapshot projectId now acc taskId).1 :=
  (supersedeEach_directKept ("snapshot:" ++ toString snapshot)
    "task absent from newer authoritative workflow snapshot" now
    (selects_activeManagedRows acc.1 projectId taskId)
    (fun _ hrow => (mem_activeManagedRows.mp hrow).right.left)).trans (DirectKept.of_jobs rfl)

end Store

/-!
# The pass
-/

section Pass

variable {generation : Nat} {s s' : Store}

theorem ScheduleOp.apply_frame {op : ScheduleOp} {result : OpResult}
    (hunique : CursorsUnique s.tables) (hstages : op.stages generation = true)
    (h : op.apply s = .ok (s', result)) :
    Store.Frame generation (op.adopts s = true) s s' := by
  have hstaged := ScheduleOp.apply_staged hunique hstages h
  cases op with
  | activateSchedule =>
    rcases map_store_eq_ok h with ⟨_, hok, _⟩
    refine (Store.Frame.of_kept hstaged (Store.DirectKept.of_jobs ?_)).congr
      (by simp [ScheduleOp.adopts])
    rcases Store.activateSchedule_eq_ok hok with rfl | ⟨_, rfl⟩ <;> rfl
  | reconcileSchedule =>
    simp only [ScheduleOp.stages, decide_eq_true_eq] at hstages
    subst hstages
    rcases map_store_eq_ok h with ⟨_, hok, _⟩
    exact Store.reconcileSchedule_frame hunique hok
  | recordLifecycleFinalAuthority =>
    rcases map_store_eq_ok h with ⟨_, hok, _⟩
    exact (Store.Frame.of_kept hstaged (Store.DirectKept.of_jobs
      (Store.recordLifecycleFinalAuthority_jobs hok))).congr
      (by simp [ScheduleOp.adopts])

theorem ScheduleOp.applyBatch_frame {ops : List ScheduleOp} (hunique : CursorsUnique s.tables)
    (hstages : forall op, op ∈ ops -> op.stages generation = true)
    (h : ScheduleOp.applyBatch s ops = .ok s') :
    Store.Frame generation (ScheduleOp.adoptsEach s ops = true) s s' := by
  unfold ScheduleOp.applyBatch at h
  induction ops generalizing s with
  | nil =>
    cases h
    refine (Store.Frame.refl _).congr ?_
    simp [ScheduleOp.adoptsEach]
  | cons op rest ih =>
    rw [List.foldlM_cons, bind_eq_ok] at h
    rcases h with ⟨middle, hbody, hrest⟩
    rcases map_eq_ok.mp hbody with ⟨⟨written, result⟩, hok, heq⟩
    cases heq
    have hfirst := ScheduleOp.apply_frame hunique (hstages op (by simp)) hok
    have hlast := ih (ScheduleOp.apply_cursorsUnique hunique hok)
      (fun other hother => hstages other (by simp [hother])) hrest
    exact (hfirst.trans hlast).congr (by simp [ScheduleOp.adoptsEach, hok])

theorem Op.inPass_of_stages {op : Op} (h : op.inPass generation = true) :
    op.stages generation = true ∨ exists total limit scope,
        op = .allocateDecisionWindow total limit (some generation) scope := by
  cases op with
  | allocateDecisionWindow total limit snapshot scope =>
    simp only [Op.inPass, decide_eq_true_eq] at h
    exact .inr ⟨total, limit, scope, by rw [h]⟩
  | _ => exact .inl h

variable {checkpoints : List WorkflowSnapshotAuthority}

theorem Op.step_frame {op : Op}
    (hunique : CursorsUnique s.tables) (hpass : op.inPass generation = true) :
    Store.Frame generation (op.adopts s = true) s (op.step checkpoints s) := by
  unfold Op.step
  rcases Op.inPass_of_stages hpass with hstages | ⟨total, limit, scope, hwindow⟩
  · split
    · rename_i written hok
      cases op with
      | schedule op =>
        have hframe := ScheduleOp.apply_frame hunique hstages hok
        exact hframe.congr (by
          have hcommits : op.apply s = .ok written := hok
          simp [Op.adopts, hcommits, Except.isOk, Except.toBool])
      | schedulingBatch ops =>
        simp only [Op.stages, List.all_eq_true] at hstages
        rcases map_eq_ok.mp hok with ⟨batched, hbatch, heq⟩
        cases heq
        have hframe := ScheduleOp.applyBatch_frame hunique hstages hbatch
        exact hframe.congr (by
          simp [Op.adopts, hbatch, Except.isOk, Except.toBool])
      | reconcileSnapshotMembership =>
        simp only [Op.stages, decide_eq_true_eq] at hstages
        subst hstages
        rcases map_store_eq_ok hok with ⟨_, hwritten, _⟩
        have hkept := Store.reconcileSnapshotMembership_relation Store.DirectKept.refl
          (fun _ _ _ => Store.DirectKept.trans)
          (fun projectId acc taskId => Store.retireAbsentTask_directKept _ projectId _ acc taskId)
          (fun _ _ _ => Store.DirectKept.of_jobs rfl) hwritten
        exact (Store.Frame.of_kept (Store.reconcileSnapshotMembership_staged hwritten)
          hkept).congr (by simp [Op.adopts])
      | _ => cases hstages
    · rename_i error hfailed
      refine (Store.Frame.refl s).congr ?_
      cases op with
      | schedule op =>
        have hcommits : op.apply s = .error error := hfailed
        simp [Op.adopts, hcommits, Except.isOk, Except.toBool]
      | schedulingBatch ops =>
        have hcommits : ScheduleOp.applyBatch s ops = .error error := by
          revert hfailed
          simp only [Op.apply]
          cases ScheduleOp.applyBatch s ops with
          | ok batched => exact fun h => by cases h
          | error other => exact fun h => by cases h; rfl
        simp [Op.adopts, hcommits, Except.isOk, Except.toBool]
      | _ => simp [Op.adopts]
  · subst hwindow
    split
    · rename_i written hok
      rcases map_store_eq_ok hok with ⟨_, hwritten, _⟩
      rcases Store.allocateDecisionWindow_eq_ok hwritten with ⟨windows, hwindows⟩
      rw [hwindows]
      have hstaged : Staged generation s (s.withTables (fun tables =>
          { tables with decisionWindows := windows })) :=
        Staged.cursorTable rfl rfl rfl (fun _ => Or.inl)
      exact (Store.Frame.of_kept hstaged (Store.DirectKept.of_jobs rfl)).congr (by simp [Op.adopts])
    · exact (Store.Frame.refl s).congr (by simp [Op.adopts])

/-- A run of the pass adopts a direct row unless every step avoids it. -/
theorem pass_frame {pass : List Op} (hcoherent : Coherent checkpoints s)
    (hpass : forall op, op ∈ pass -> op.inPass generation = true) :
    Store.Frame generation
      (¬ Guarded (Op.step checkpoints) (fun s op => op.adopts s = false) s pass)
      s (run (Op.step checkpoints) s pass) := by
  induction pass generalizing s with
  | nil => exact (Store.Frame.refl s).congr (by simp [Guarded])
  | cons op rest ih =>
    have hfirst : Store.Frame generation _ s (op.step checkpoints s) :=
      Op.step_frame hcoherent.cursors (hpass op (by simp))
    have hlast := ih (hcoherent.step op) (fun other hother => hpass other (by simp [hother]))
    refine (hfirst.trans hlast).congr ?_
    simp only [Guarded, not_and_or, Bool.not_eq_false]

end Pass

/-!
# The restore
-/

namespace Store

variable {s s' : Store}

/-- The columns of every direct row as they were. -/
def KeepsDirect (s s' : Store) : Prop :=
  forall row, row ∈ s.jobs.rows -> row.workflowManaged = false ->
    exists row', s'.jobs.find? row.jobId = some row' ∧
      row'.state = row.state ∧ row'.attempts = row.attempts ∧
      row'.checkpoint = row.checkpoint ∧ row'.workflowManaged = false

theorem DirectKept.keepsDirect (h : DirectKept s s') : KeepsDirect s s' := by
  intro row hrow hdirect
  exact ⟨row, JobTable.find?_of_mem (h row hrow hdirect), rfl, rfl, rfl, hdirect⟩

theorem DirectTaken.not_keepsDirect (h : DirectTaken s s') : ¬ KeepsDirect s s' := by
  intro hkeeps
  rcases h with ⟨row, hrow, hdirect, taken, htaken, hid, hmanaged⟩
  rcases hkeeps row hrow hdirect with ⟨row', hfound, _, _, _, hkept⟩
  rw [← hid, JobTable.find?_of_mem htaken] at hfound
  cases hfound
  rw [hmanaged] at hkept
  cases hkept

variable {authority : WorkflowSnapshotAuthority}

theorem Restored.directKept
    {snapshot : Nat} {now : Int} (h : Restored s authority snapshot now s') :
    DirectKept s s' := by
  intro row hrow hdirect
  have hfound := h.find? hrow
  rw [restoredRow, if_neg (by simp [hdirect])] at hfound
  exact (JobTable.mem_of_find? hfound).left

/-- The checkpoint holds no row that was direct at capture, so none comes back. -/
theorem Restored.taken {snapshot : Nat} {now : Int} (h : Restored s authority snapshot now s')
    (hcaptured : forall captured, captured ∈ authority.jobs -> captured.workflowManaged = true)
    {row : WorkflowJob} (htaken : s.Taken row) : s'.Taken row := by
  rcases htaken with ⟨taken, hmem, hid, hmanaged⟩
  have hfound := h.find? hmem
  refine ⟨_, (JobTable.mem_of_find? hfound).left, ?_, ?_⟩
  · rw [restoredRow_jobId, hid]
  · have hcases := restoredRow_cases s authority snapshot now taken
    revert hcases
    generalize s.restoredRow authority snapshot now taken = restored
    intro hcases
    cases hcases with
    | kept => exact hmanaged
    | captured captured _ _ _ _ hjob =>
      exact hcaptured captured (capturedJob_eq_some hjob).left
    | superseded => exact hmanaged

end Store

/-!
# Runs
-/

/-- A pass of one generation between a capture and the restore of it. -/
structure RestoredPass where
  projectIds : List String
  identities : List (String × String)
  fullProjectScope : Bool
  generation : Nat
  writes : List Op
  inPass : forall op, op ∈ writes -> op.inPass generation = true
  restoredAt : Int

namespace RestoredPass

def captured (pass : RestoredPass) (sys : System) : System :=
  sys.step (.capture pass.projectIds pass.identities pass.fullProjectScope)

def ops (pass : RestoredPass) (sys : System) : List SystemOp :=
  .capture pass.projectIds pass.identities pass.fullProjectScope :: (pass.writes.map SystemOp.op ++
      [.op (.restoreSnapshotAuthority sys.checkpoints.length pass.generation pass.restoredAt)])

theorem run_writes (sys : System) (writes : List Op) :
    run System.step sys (writes.map SystemOp.op) =
      { sys with store := run (Op.step sys.checkpoints) sys.store writes } := by
  induction writes generalizing sys with
  | nil => rfl
  | cons op rest ih =>
    rw [List.map_cons, run_cons, System.step_op, ih]
    rfl

theorem run_ops (pass : RestoredPass) (sys : System) :
    (run System.step sys (pass.ops sys)).store = Op.step (pass.captured sys).checkpoints
        (run (Op.step (pass.captured sys).checkpoints) (pass.captured sys).store pass.writes)
        (.restoreSnapshotAuthority sys.checkpoints.length pass.generation pass.restoredAt) := by
  unfold ops
  rw [run_cons, run_append, run_cons, run_nil]
  have hwrites := run_writes (pass.captured sys) pass.writes
  unfold captured at hwrites ⊢
  rw [hwrites, System.step_op]

/--
After any history, the restore gives every direct row back as it was at the
capture exactly when no transaction of the pass commits an adoption.
-/
theorem keepsDirect_iff (history : List SystemOp) (pass : RestoredPass) :
    (run System.step {} history).store.KeepsDirect
        (run System.step {} (history ++ pass.ops (run System.step {} history))).store <->
      Guarded (Op.step (pass.captured (run System.step {} history)).checkpoints)
        (fun s op => op.adopts s = false) (run System.step {} history).store
        pass.writes := by
  rw [run_append]
  have hcoherent := System.coherent_run history
  revert hcoherent
  generalize run System.step {} history = sys
  intro hcoherent
  have hcaptured : Coherent (pass.captured sys).checkpoints sys.store :=
    hcoherent.capture _ _ _
  have hframe := pass_frame hcaptured pass.inPass
  rw [run_ops]
  show sys.store.KeepsDirect (Op.step _ (run _ sys.store pass.writes) _) <-> _
  rcases Op.step_restore (pass.captured sys).checkpoints
      (run (Op.step (pass.captured sys).checkpoints) sys.store pass.writes)
      sys.checkpoints.length pass.generation pass.restoredAt with
    hsame | ⟨authority, hauthority, hrestored⟩
  · rw [hsame]
    constructor
    · intro hkeeps
      by_contra hadopts
      exact (hframe.taken hadopts).not_keepsDirect hkeeps
    · intro hfree
      exact (hframe.kept (not_not_intro hfree)).keepsDirect
  · have hmanaged := (hcaptured.checkpoints authority (List.mem_of_getElem? hauthority)).managed
    constructor
    · intro hkeeps
      by_contra hadopts
      rcases hframe.taken hadopts with ⟨row, hrow, hdirect, htaken⟩
      have hlost : Store.DirectTaken sys.store _ :=
        ⟨row, hrow, hdirect, hrestored.taken hmanaged htaken⟩
      exact hlost.not_keepsDirect hkeeps
    · intro hfree
      have hkept := hframe.kept (not_not_intro hfree)
      exact (hkept.trans hrestored.directKept).keepsDirect

/-!
# An adopted job
-/

/-- A caller enqueues the job itself and the next generation is accepted. -/
def directHistory : List SystemOp :=
  [.op (.enqueue sampleSpec "job-1" 1), .op .allocateSnapshotGeneration,
    .op (.acceptSnapshotGeneration 1)]

/-- The pass decides the same job. -/
def adoptingPass : RestoredPass where
  projectIds := ["project-1"]
  identities := [("project-1", "task-1")]
  fullProjectScope := true
  generation := 1
  writes :=
    [.reconcileSnapshotMembership 1 ["project-1"] [("project-1", "task-1")] none 2,
      .schedulingBatch [.activateSchedule "project-1" "task-1" "revision-1" 1 none none [] 2,
          .reconcileSchedule "project-1" "task-1" 1 "revision-1:1"
            [(sampleSpec, "job-2")] true none "scheduled" 2]]
  inPass := by decide
  restoredAt := 3

def directRow : WorkflowJob := WorkflowJob.fresh "job-1" 1 sampleSpec false 1

theorem adoptingPass_supersedes : directRow ∈ (run System.step {} directHistory).store.jobs.rows ∧
      ((run System.step {} (directHistory ++
        adoptingPass.ops (run System.step {} directHistory))).store.jobs.find?
          "job-1").map (fun row => (row.state, row.workflowManaged)) =
        some (.superseded, true) ∧
      ¬ (run System.step {} directHistory).store.KeepsDirect (run System.step {} (directHistory ++
          adoptingPass.ops (run System.step {} directHistory))).store := by
  have hrow : directRow ∈ (run System.step {} directHistory).store.jobs.rows := by
    decide +kernel
  have hlost : ((run System.step {} (directHistory ++
      adoptingPass.ops (run System.step {} directHistory))).store.jobs.find?
        "job-1").map (fun row => (row.state, row.workflowManaged)) =
      some (.superseded, true) := by
    decide +kernel
  refine ⟨hrow, hlost, ?_⟩
  intro hkeeps
  rcases hkeeps directRow hrow rfl with ⟨row, hfound, hstate, _, _, _⟩
  have hid : directRow.jobId = "job-1" := rfl
  rw [hid] at hfound
  rw [hfound] at hlost
  simp [hstate, directRow, WorkflowJob.fresh] at hlost

end RestoredPass
end WorkflowJobs
end Oompah
