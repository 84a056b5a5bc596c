import Oompah.ImplementationWorkflow.LaneEffects

/-!
# Materialized events

An event that proceeds past its ordering is enqueued under the generation that
its lane's cursor names, and the other rows of the lane are displaced.
-/

namespace Oompah
namespace ImplementationWorkflow

open Foundation WorkflowJobs

/-!
# Event generations
-/

variable {s s' : Store} {projectId taskId : String} {request : Store.EventRequest}

theorem eventGenerationFor_cases (s : Store) (request : Store.EventRequest)
    (sourceAdvanced : Bool) :
    s.eventGenerationFor request sourceAdvanced =
        request.decisionRevision ++ ":" ++ toString (s.tables.eventSequence + 1) ∨
      exists cursor, s.findEventCursor request.projectId request.taskId request.lane = some cursor ∧
          cursor.eventRevision = request.decisionRevision ∧
          s.eventGenerationFor request sourceAdvanced = cursor.eventGeneration ∧
          (sourceAdvanced = true -> exists row, s.findIdempotent request.projectId
                (request.key cursor.eventGeneration) = some row ∧
              row.isActive = true) := by
  unfold Store.eventGenerationFor
  cases hcursor : s.findEventCursor request.projectId request.taskId request.lane with
  | none => exact .inl rfl
  | some cursor =>
    dsimp only
    by_cases hrevision : cursor.eventRevision = request.decisionRevision
    · rw [if_neg (not_not_intro hrevision)]
      by_cases hrenew : sourceAdvanced = true ∧ ¬ (s.findIdempotent request.projectId
            (request.key cursor.eventGeneration)).any WorkflowJob.isActive = true
      · rw [if_pos hrenew]
        exact .inl rfl
      · rw [if_neg hrenew]
        refine .inr ⟨cursor, rfl, hrevision, rfl, ?_⟩
        intro hadvanced
        have hlive := not_not.mp (fun h => hrenew ⟨hadvanced, h⟩)
        exact (Option.any_eq_true _ _).mp hlive
    · rw [if_pos hrevision]
      exact .inl rfl

theorem eventGenerationFor_numbered (hrows : EventRows s)
    (request : Store.EventRequest) (sourceAdvanced : Bool) :
    Numbered (s.tables.eventSequence + 1) (s.eventGenerationFor request sourceAdvanced) := by
  rcases eventGenerationFor_cases s request sourceAdvanced with
    hfresh | ⟨cursor, hcursor, _, hkept, _⟩
  · exact ⟨request.decisionRevision, _, hfresh, Nat.le_refl _⟩
  · rw [hkept]
    exact (hrows.cursors cursor (List.mem_of_find?_eq_some hcursor)).mono (Nat.le_succ _)

variable {generation : String}

theorem key_numbered {bound : Nat} (request : Store.EventRequest)
    (h : Numbered bound generation) : Numbered bound (request.key generation) :=
  h.prepend (request.idempotencyNamespace ++ ":" ++ request.decisionRevision ++ ":")

theorem upsertEventCursor_progress (sourceAdvanced : Bool) (now : Int) :
    Progress s (s.upsertEventCursor request (s.eventGenerationFor request sourceAdvanced) now) := by
  refine Progress.tables (s := s) rfl (Nat.le_succ _) rfl ?_
  intro hrows cursor hcursor
  rcases List.mem_append.mp hcursor with hold | hnew
  · exact .inl (List.mem_filter.mp hold).left
  · right
    rw [List.mem_singleton.mp hnew]
    exact eventGenerationFor_numbered hrows request sourceAdvanced

structure SpecOf (request : Store.EventRequest) (generation : String)
    (spec : WorkflowJobSpec) : Prop where
  projectId : spec.projectId = request.projectId
  taskId : spec.taskId = request.taskId
  activation : spec.generation = generation
  key : spec.idempotencyKey = request.key generation
  lane : spec.schedulingLane = request.lane

variable {spec : WorkflowJobSpec}

theorem eventSpec_specOf (h : Store.eventSpec request generation = .ok spec) :
    SpecOf request generation spec := by
  unfold Store.eventSpec at h
  split at h
  · cases h
    exact ⟨rfl, rfl, rfl, rfl, rfl⟩
  · cases h

variable {now : Int} {row : WorkflowJob} {event : Option LoggedEvent}

theorem supersedePlan_plain {replacement message : String} {action : RowAction}
    (h : Store.supersedePlan replacement message now row = some (action, event)) :
    action.capturedRow = none ∧ action ≠ .manage := by
  unfold Store.supersedePlan at h
  split at h
  · cases h
  · cases h
    exact ⟨rfl, RowAction.noConfusion⟩

theorem retireLanePlan_plain {replacement reason : String} {action : RowAction}
    (h : Store.retireLanePlan replacement reason now row = some (action, event)) :
    action.capturedRow = none ∧ action ≠ .manage := by
  unfold Store.retireLanePlan at h
  split at h
  · cases h
  · cases h
    exact ⟨rfl, RowAction.noConfusion⟩

/-- The rows that an event displaces. -/
def displaced (s : Store) (request : Store.EventRequest) (generation : String) :
    List WorkflowJob :=
  (s.activeLaneRows request.projectId request.taskId
    (request.lane :: "decision" :: request.supersedeSchedulingLanes)).filter
    (fun row => ¬ (row.spec.generation = generation ∧
      row.spec.idempotencyKey = request.key generation))

theorem not_mem_displaced (hmem : row ∈ s.jobs.rows) (hrow : row.spec = spec)
    (hspec : SpecOf request generation spec) :
    row.jobId ∉ (displaced s request generation).map WorkflowJob.jobId := by
  intro hdisplaced
  rcases List.mem_map.mp hdisplaced with ⟨other, hother, hid⟩
  rcases List.mem_filter.mp hother with ⟨hlane, hkeep⟩
  have hsame : other = row := JobTable.eq_of_jobId_eq
    (Store.mem_taskRows.mp (List.mem_filter.mp hlane).left).left hmem hid
  rw [hsame, hrow, hspec.activation, hspec.key] at hkeep
  simp at hkeep

/-- The store in which the displaced rows are superseded. -/
def fenced (s : Store) (request : Store.EventRequest) (generation : String) (now : Int) :
    Store :=
  s.actEach (displaced s request generation) (Store.supersedePlan generation request.reason now) now

theorem fenced_tables (s : Store) (request : Store.EventRequest) (generation : String)
    (now : Int) : (fenced s request generation now).tables = s.tables :=
  Store.actEach_tables _ _ _ _

theorem fenced_progress (s : Store) (request : Store.EventRequest) (generation : String)
    (now : Int) : Progress s (fenced s request generation now) :=
  Progress.actEach (fun _ _ _ hplan => supersedePlan_plain hplan) _ _ _

theorem retireSupersededLanes_keeps {sequence : Nat}
    (h : s.retireSupersededLanes request generation sequence now = .ok s') :
    s'.jobs = s.jobs ∧ s'.tables = s.tables ∧ Progress s s' := by
  unfold Store.retireSupersededLanes at h
  split at h
  · cases h
    exact ⟨rfl, rfl, Progress.refl s⟩
  · rw [bind_eq_ok] at h
    rcases h with ⟨⟨recorded, count⟩, hrecorded, h⟩
    cases h
    unfold Store.recordEventHandoffRetirementsLocked at hrecorded
    simp only [require_bind_eq_ok] at hrecorded
    rcases hrecorded with ⟨_, _, hrecorded⟩
    cases hrecorded
    exact ⟨Store.retireEach_jobs _ _ _, Store.retireEach_tables _ _ _, Progress.retireEach _ _ _⟩

/-- What `materializeOrdered` goes through when it succeeds. -/
structure Enqueues (s : Store) (request : Store.EventRequest) (generation : String)
    (newJobId : String) (now : Int) (written : Store) (job : WorkflowJob) : Prop where
  spec : Store.eventSpec request generation = .ok job.spec
  specOf : SpecOf request generation job.spec
  found : written.findIdempotent request.projectId (request.key generation) = some job
  mem : job ∈ written.jobs.rows
  tables : written.tables = (s.upsertEventCursor request generation now).tables
  live : match s.findIdempotent request.projectId (request.key generation) with
    | some existing => existing.spec = job.spec ∧ job.state = existing.state
    | none => job.state = .queued
  progress : Progress (s.upsertEventCursor request generation now) written

variable {job : WorkflowJob}

theorem enqueues_of_enqueueLocked {generation newJobId : String} {written : Store} {created : Bool}
    (hspec : Store.eventSpec request generation = .ok spec)
    (h : (s.upsertEventCursor request generation now).enqueueLocked spec newJobId false
      now = .ok (written, job, created)) :
    job.spec = spec ∧ Enqueues s request generation newJobId now written job := by
  have hof := eventSpec_specOf hspec
  rcases Store.enqueueLocked_found h with ⟨hfound, htables, hrow, hlive⟩
  rcases Store.findIdempotent_eq_some hfound with ⟨hmem, _⟩
  subst hrow
  refine ⟨rfl, hspec, hof, ?_, hmem, htables, ?_, ?_⟩
  · rw [← hof.projectId, ← hof.key]
    exact hfound
  · rw [← hof.projectId, ← hof.key]
    exact hlive
  · apply enqueueLocked_progress _ h
    intro hrows
    rw [hof.key]
    apply key_numbered
    have hcursor := findEventCursor_upsertEventCursor (s := s) request generation now
    exact hrows.cursors _ (List.mem_of_find?_eq_some hcursor)

theorem Enqueues.locked {generation newJobId : String} {written : Store}
    (h : Enqueues s request generation newJobId now written job) :
    (fenced written request generation now).rowLocked job.jobId = .ok job := by
  rw [Store.rowLocked_eq_ok]
  unfold fenced
  rw [Store.actEach_find?_of_not_mem (not_mem_displaced h.mem rfl h.specOf)]
  exact JobTable.find?_of_mem h.mem

variable {newJobId : String} {sourceAdvanced : Bool} {write : Store.EventWrite}

theorem materializeOrdered_eq_ok
    (h : s.materializeOrdered request newJobId sourceAdvanced now = .ok (s', write)) :
    exists written job,
      Enqueues s request (s.eventGenerationFor request sourceAdvanced) newJobId now written job ∧
        write.job = some job ∧
        s'.jobs = (fenced written request (s.eventGenerationFor request sourceAdvanced) now).jobs ∧
        s'.tables = written.tables ∧ Progress written s' := by
  unfold Store.materializeOrdered at h
  rw [bind_eq_ok] at h
  rcases h with ⟨spec, hspec, h⟩
  rw [bind_eq_ok] at h
  rcases h with ⟨⟨written, job, created⟩, hwritten, h⟩
  rw [bind_eq_ok] at h
  rcases h with ⟨result, hresult, h⟩
  rw [bind_eq_ok] at h
  rcases h with ⟨retired, hretired, h⟩
  cases h
  generalize hgeneration : s.eventGenerationFor request sourceAdvanced = generation at *
  rcases enqueues_of_enqueueLocked hspec hwritten with ⟨_, henqueues⟩
  rw [(eventSpec_specOf hspec).key] at hresult hretired
  have hsame : result = job := by
    have hlocked := hresult.symm.trans henqueues.locked
    cases hlocked
    rfl
  rcases retireSupersededLanes_keeps hretired with ⟨hjobs, htables, hretire⟩
  refine ⟨written, job, henqueues, congrArg some hsame, hjobs, ?_, ?_⟩
  · exact htables.trans (fenced_tables written request generation now)
  · exact (fenced_progress written request generation now).trans hretire

theorem materializeOrdered_eq {written retired : Store} {created : Bool}
    (hspec : Store.eventSpec request (s.eventGenerationFor request sourceAdvanced) = .ok spec)
    (hwritten : (s.upsertEventCursor request (s.eventGenerationFor request sourceAdvanced)
      now).enqueueLocked spec newJobId false now = .ok (written, job, created))
    (hretired : (fenced written request (s.eventGenerationFor request sourceAdvanced)
      now).retireSupersededLanes request (s.eventGenerationFor request sourceAdvanced)
      job.enqueueSequence now = .ok retired) :
    exists write, s.materializeOrdered request newJobId sourceAdvanced now = .ok (retired, write) ∧
        write.job = some job := by
  generalize hgeneration : s.eventGenerationFor request sourceAdvanced = generation at *
  have hlocked := (enqueues_of_enqueueLocked hspec hwritten).right.locked
  unfold fenced displaced at hlocked hretired
  unfold Store.materializeOrdered
  rw [hgeneration]
  dsimp only
  rw [hspec]
  dsimp only [bind, Except.bind]
  rw [hwritten, (eventSpec_specOf hspec).key]
  dsimp only
  rw [hlocked]
  rw [hretired]
  exact ⟨_, rfl, rfl⟩

theorem findEventCursor_congr (h : s'.tables = s.tables) (lane : String) :
    s'.findEventCursor projectId taskId lane = s.findEventCursor projectId taskId lane := by
  unfold Store.findEventCursor
  rw [h]

theorem findIdempotent_congr (h : s'.jobs = s.jobs) (key : String) :
    s'.findIdempotent projectId key = s.findIdempotent projectId key := by
  unfold Store.findIdempotent
  rw [h]

theorem activeLaneRows_congr (h : s'.jobs = s.jobs) (lanes : List String) :
    s'.activeLaneRows projectId taskId lanes = s.activeLaneRows projectId taskId lanes := by
  unfold Store.activeLaneRows Store.taskRows
  rw [h]

theorem currentActivation_eq_some (h : s.currentActivation request = some row) : exists cursor,
      s.findEventCursor request.projectId request.taskId request.lane = some cursor ∧
        cursor.eventRevision = request.decisionRevision ∧
        s.findIdempotent request.projectId (request.key cursor.eventGeneration) =
          some row := by
  unfold Store.currentActivation at h
  cases hcursor : s.findEventCursor request.projectId request.taskId request.lane with
  | none =>
    rw [hcursor] at h
    cases h
  | some cursor =>
    rw [hcursor] at h
    dsimp only at h
    by_cases hrevision : cursor.eventRevision = request.decisionRevision
    · rw [if_pos hrevision] at h
      exact ⟨cursor, rfl, hrevision, h⟩
    · rw [if_neg hrevision] at h
      cases h

theorem currentActivation_of_cursor {cursor : WorkflowEventCursor}
    (hcursor : s.findEventCursor request.projectId request.taskId request.lane = some cursor)
    (hrevision : cursor.eventRevision = request.decisionRevision) :
    s.currentActivation request =
      s.findIdempotent request.projectId (request.key cursor.eventGeneration) := by
  unfold Store.currentActivation
  rw [hcursor]
  exact if_pos hrevision

/-- An event that was written is the one that the cursor of its lane names. -/
structure Materialized (request : Store.EventRequest) (s s' : Store)
    (job : WorkflowJob) : Prop where
  activation : s'.currentActivation request = some job
  orderings : s'.tables.eventOrdering = s.tables.eventOrdering
  cursors : forall projectId taskId lane, lane ≠ request.lane ->
    s'.findEventCursor projectId taskId lane = s.findEventCursor projectId taskId lane
  progress : Progress s s'

section Enqueued

variable {generation newJobId : String} {now : Int} {written : Store} {job : WorkflowJob}

theorem Enqueues.cursor (h : Enqueues s request generation newJobId now written job)
    (htables : s'.tables = written.tables) :
    exists cursor, s'.findEventCursor request.projectId request.taskId request.lane = some cursor ∧
        cursor.eventRevision = request.decisionRevision ∧
        cursor.eventGeneration = generation := by
  rw [findEventCursor_congr (htables.trans h.tables),
    findEventCursor_upsertEventCursor request generation now]
  exact ⟨_, rfl, rfl, rfl⟩

/-- The fence leaves the job under its key. -/
theorem Enqueues.foundFenced (h : Enqueues s request generation newJobId now written job) :
    (fenced written request generation now).findIdempotent request.projectId
      (request.key generation) = some job :=
  Store.findIdempotent_actEach now (fun _ _ _ hplan => (supersedePlan_plain hplan).left)
    h.found (not_mem_displaced h.mem rfl h.specOf)

theorem Enqueues.materialized (h : Enqueues s request generation newJobId now written job)
    (hprogress : Progress s (s.upsertEventCursor request generation now))
    (hjobs : s'.jobs = (fenced written request generation now).jobs)
    (htables : s'.tables = written.tables) (hkept : Progress written s') :
    Materialized request s s' job := by
  rcases h.cursor htables with ⟨cursor, hcursor, hrevision, hgeneration⟩
  constructor
  · rw [currentActivation_of_cursor hcursor hrevision, findIdempotent_congr hjobs, hgeneration]
    exact h.foundFenced
  · rw [htables, h.tables]
    rfl
  · intro projectId taskId lane hlane
    rw [findEventCursor_congr (htables.trans h.tables)]
    exact findEventCursor_upsertEventCursor_ne request generation now hlane
  · exact (hprogress.trans h.progress).trans hkept

end Enqueued

theorem materializeOrdered_materialized
    (h : s.materializeOrdered request newJobId sourceAdvanced now = .ok (s', write)) :
    exists job, write.job = some job ∧ Materialized request s s' job := by
  rcases materializeOrdered_eq_ok h with
    ⟨written, job, henqueues, hwrite, hjobs, htables, hprogress⟩
  exact ⟨job, hwrite, henqueues.materialized (upsertEventCursor_progress _ now) hjobs
    htables hprogress⟩

/-!
# The active job of a lane
-/

/--
The cursor of the lane names the job, and no other row of the lane is active but
one whose call was detached.
-/
structure ActiveIn (s : Store) (projectId taskId lane : String) (job : WorkflowJob) :
    Prop where
  member : job ∈ s.activeLaneRows projectId taskId [lane]
  cursor : exists cursor, s.findEventCursor projectId taskId lane = some cursor ∧
    cursor.eventGeneration = job.spec.generation
  sole : forall row, row ∈ s.activeLaneRows projectId taskId [lane] ->
    row = job ∨ row.isQuarantined = true

theorem mem_activeLaneRows {lanes : List String} : row ∈ s.activeLaneRows projectId taskId lanes <->
      row ∈ s.jobs.rows ∧ row.spec.projectId = projectId ∧ row.spec.taskId = taskId ∧
        row.spec.schedulingLane ∈ lanes ∧ row.isActive = true := by
  unfold Store.activeLaneRows
  rw [List.mem_filter, Store.mem_taskRows, decide_eq_true_eq]
  tauto

section Active

variable {generation newJobId : String} {now : Int} {written : Store} {job : WorkflowJob}

/-- A displaced row is superseded unless its call was detached. -/
theorem fenced_row {row : WorkflowJob}
    (h : row ∈ (fenced written request generation now).jobs.rows) :
    row ∈ written.jobs.rows ∧ row ∉ displaced written request generation ∨
      row.isQuarantined = true ∨ row.isActive = false := by
  have hselects : written.Selects (displaced written request generation) :=
    (Store.selects_activeLaneRows _ _ _ _).sublist List.filter_sublist
  have hfound := JobTable.find?_of_mem h
  unfold fenced at hfound
  by_cases hid : row.jobId ∈ (displaced written request generation).map WorkflowJob.jobId
  · rcases List.mem_map.mp hid with ⟨old, hold, heq⟩
    right
    rw [← heq, Store.actEach_find?_of_mem hselects.nodup
      (fun other hother => hselects.find? hother) hold] at hfound
    have hrow := Option.some.inj hfound
    unfold Store.planned Store.supersedePlan at hrow
    by_cases hquarantined : old.isQuarantined = true
    · rw [if_pos hquarantined] at hrow
      rw [← hrow]
      exact .inl hquarantined
    · rw [if_neg hquarantined] at hrow
      rw [← hrow]
      exact .inr rfl
  · left
    rw [Store.actEach_find?_of_not_mem hid] at hfound
    refine ⟨(JobTable.mem_of_find? hfound).left, ?_⟩
    intro hmem
    exact hid (List.mem_map_of_mem hmem)

/-- The lanes that an event displaces. -/
def eventLanes (request : Store.EventRequest) : List String :=
  request.lane :: "decision" :: request.supersedeSchedulingLanes

theorem Enqueues.sole (h : Enqueues s request generation newJobId now written job)
    (hunique : KeysUnique written)
    (hjobs : s'.jobs = (fenced written request generation now).jobs) {row : WorkflowJob}
    (hrow : row ∈ s'.activeLaneRows request.projectId request.taskId
      (eventLanes request)) : row = job ∨ row.isQuarantined = true := by
  have hspec := h.specOf
  rw [activeLaneRows_congr hjobs, mem_activeLaneRows] at hrow
  rcases hrow with ⟨hmem, hproject, htask, hlane, hrowActive⟩
  rcases fenced_row hmem with ⟨hwritten, hkept⟩ | hquarantined | hended
  · left
    have hlanes : row ∈ written.activeLaneRows request.projectId request.taskId
        (request.lane :: "decision" :: request.supersedeSchedulingLanes) :=
      mem_activeLaneRows.mpr ⟨hwritten, hproject, htask, hlane, hrowActive⟩
    have hsame : row.spec.generation = generation ∧
        row.spec.idempotencyKey = request.key generation := by
      by_contra hdiffers
      apply hkept
      unfold displaced
      rw [List.mem_filter, decide_eq_true_eq]
      exact ⟨hlanes, hdiffers⟩
    apply JobTable.eq_of_jobId_eq hwritten h.mem
    apply hunique row job hwritten h.mem
    · rw [hproject, hspec.projectId]
    · rw [hsame.right, hspec.key]
  · exact .inr hquarantined
  · rw [hended] at hrowActive
    cases hrowActive

theorem Enqueues.activeIn (h : Enqueues s request generation newJobId now written job)
    (hunique : KeysUnique written) (hactive : job.isActive = true)
    (hjobs : s'.jobs = (fenced written request generation now).jobs)
    (htables : s'.tables = written.tables) :
    ActiveIn s' request.projectId request.taskId request.lane job := by
  have hspec := h.specOf
  have hfound := Store.rowLocked_eq_ok.mp h.locked
  rcases h.cursor htables with ⟨cursor, hcursor, _, hgeneration⟩
  constructor
  · rw [activeLaneRows_congr hjobs, mem_activeLaneRows]
    exact ⟨(JobTable.mem_of_find? hfound).left, hspec.projectId, hspec.taskId,
      by rw [hspec.lane]; exact List.mem_cons_self, hactive⟩
  · exact ⟨cursor, hcursor, hgeneration.trans hspec.activation.symm⟩
  · intro row hrow
    apply h.sole hunique hjobs
    rw [mem_activeLaneRows] at hrow ⊢
    rcases hrow with ⟨hmem, hproject, htask, hlane, hrowActive⟩
    rw [List.mem_singleton] at hlane
    exact ⟨hmem, hproject, htask, by rw [hlane]; exact List.mem_cons_self, hrowActive⟩

/-- The job that was just written stands behind the retirement of other lanes. -/
theorem Enqueues.retires (h : Enqueues s request generation newJobId now written job)
    (hmanaged : job.workflowManaged = false) (hactive : job.isActive = true)
    (sequence : Nat) :
    exists retired, (fenced written request generation now).retireSupersededLanes request generation
        sequence now = .ok retired := by
  have hspec := h.specOf
  rcases h.cursor (fenced_tables written request generation now) with
    ⟨cursor, hcursor, _, hgeneration⟩
  have hwithdrawn : Store.isWithdrawn job = false := by
    unfold WorkflowJob.isActive at hactive
    unfold Store.isWithdrawn
    cases hstate : job.state <;> rw [hstate] at hactive <;> first | rfl | cases hactive
  have hfenced := (Store.findIdempotent_eq_some h.foundFenced).left
  have hsuccessor : ((fenced written request generation now).tables.eventCursors.any
      (fun cursor =>
        cursor.projectId = request.projectId ∧ cursor.taskId = request.taskId ∧
          cursor.eventNamespace = request.lane ∧ cursor.eventGeneration = generation ∧
          ((fenced written request generation now).taskRows request.projectId
            request.taskId).any (fun job =>
              job.spec.schedulingLane = request.lane ∧
                job.spec.generation = generation ∧ ¬ job.workflowManaged ∧
                ¬ Store.isWithdrawn job))) = true := by
    rw [List.any_eq_true]
    refine ⟨cursor, List.mem_of_find?_eq_some hcursor, ?_⟩
    have hnamed := List.find?_some hcursor
    rw [decide_eq_true_eq] at hnamed ⊢
    refine ⟨hnamed.left, hnamed.right.left, hnamed.right.right, hgeneration, ?_⟩
    rw [List.any_eq_true]
    refine ⟨job, Store.mem_taskRows.mpr ⟨hfenced, hspec.projectId, hspec.taskId⟩, ?_⟩
    rw [decide_eq_true_eq, hmanaged, hwithdrawn]
    exact ⟨hspec.lane, hspec.activation, Bool.false_ne_true, Bool.false_ne_true⟩
  unfold Store.retireSupersededLanes
  by_cases hlanes : request.supersedeSchedulingLanes = []
  · rw [if_pos hlanes]
    exact ⟨_, rfl⟩
  · rw [if_neg hlanes]
    unfold Store.recordEventHandoffRetirementsLocked require
    rw [if_pos hlanes]
    rw [if_pos hsuccessor]
    exact ⟨_, rfl⟩

end Active

/-- The live job of an equal event, when there is one, is what the request asks for. -/
def Reusable (s : Store) (request : Store.EventRequest) : Prop :=
  forall cursor row,
    s.findEventCursor request.projectId request.taskId request.lane = some cursor ->
    cursor.eventRevision = request.decisionRevision ->
    s.findIdempotent request.projectId (request.key cursor.eventGeneration) = some row ->
    row.isActive = true ->
    Store.eventSpec request cursor.eventGeneration = .ok row.spec

theorem eventSpec_ok (hattempts : 1 ≤ request.maxAttempts) (generation : String) :
    exists spec, Store.eventSpec request generation = .ok spec := by
  unfold Store.eventSpec
  rw [dif_pos hattempts]
  exact ⟨_, rfl⟩

theorem findIdempotent_fresh (hrows : EventRows s) (request : Store.EventRequest) :
    s.findIdempotent request.projectId (request.key (request.decisionRevision ++ ":" ++
      toString (s.tables.eventSequence + 1))) = none := by
  apply List.find?_eq_none.mpr
  intro row hrow hmatch
  rw [decide_eq_true_eq] at hmatch
  rcases hrows.numbered row hrow with ⟨before, n, hkey, hn⟩
  rw [hmatch.right] at hkey
  unfold Store.EventRequest.key at hkey
  simp only [← String.append_assoc] at hkey
  have hnumber := numbered_inj hkey
  omega

/--
An event that its source advances becomes the active job of its lane, unless the
live job of an equal event was asked for with other arguments.
-/
theorem materializeOrdered_active (now : Int)
    (hrows : EventRows s) (hattempts : 1 ≤ request.maxAttempts) (hid : newJobId ≠ "")
    (hfresh : newJobId ∉ s.jobs.rows.map WorkflowJob.jobId)
    (hadvanced : (s.findEventCursor request.projectId request.taskId
      request.lane).isSome -> sourceAdvanced = true)
    (hreusable : Reusable s request) :
    exists s' write job,
      s.materializeOrdered request newJobId sourceAdvanced now = .ok (s', write) ∧
        write.job = some job ∧
        ActiveIn s' request.projectId request.taskId request.lane job := by
  have hwritten : exists spec written job created,
      Store.eventSpec request (s.eventGenerationFor request sourceAdvanced) = .ok spec ∧
        (s.upsertEventCursor request (s.eventGenerationFor request sourceAdvanced)
          now).enqueueLocked spec newJobId false now = .ok (written, job, created) ∧
        job.workflowManaged = false ∧ job.isActive = true := by
    rcases eventGenerationFor_cases s request sourceAdvanced with
      hgeneration | ⟨cursor, hcursor, hrevision, hgeneration, hlive⟩
    · rcases eventSpec_ok hattempts (s.eventGenerationFor request sourceAdvanced) with
        ⟨spec, hspec⟩
      have hof := eventSpec_specOf hspec
      have hnone := findIdempotent_fresh hrows request
      rw [← hgeneration, ← hof.projectId, ← hof.key] at hnone
      have hnext : (s.upsertEventCursor request (s.eventGenerationFor request
          sourceAdvanced) now).findIdempotent spec.projectId spec.idempotencyKey =
            none := hnone
      exact ⟨spec, _, _, _, hspec, enqueueLocked_fresh rfl hnext hid hfresh, rfl, rfl⟩
    · rcases hlive (hadvanced (by rw [hcursor]; rfl)) with ⟨row, hrow, hactive⟩
      have hspec := hreusable cursor row hcursor hrevision hrow hactive
      rw [← hgeneration] at hspec hrow
      have hof := eventSpec_specOf hspec
      rw [← hof.projectId, ← hof.key] at hrow
      have hkept : (s.upsertEventCursor request (s.eventGenerationFor request
          sourceAdvanced) now).findIdempotent row.spec.projectId
            row.spec.idempotencyKey = some row := hrow
      exact ⟨row.spec, _, _, _, hspec, enqueueLocked_replayed hkept rfl newJobId now,
        hrows.unmanaged row (Store.findIdempotent_eq_some hrow).left, hactive⟩
  rcases hwritten with ⟨spec, written, job, created, hspec, hwritten, hmanaged, hactive⟩
  have henqueues := (enqueues_of_enqueueLocked hspec hwritten).right
  rcases henqueues.retires hmanaged hactive job.enqueueSequence with ⟨retired, hretired⟩
  rcases materializeOrdered_eq hspec hwritten hretired with ⟨write, hwrite, hjob⟩
  rcases retireSupersededLanes_keeps hretired with ⟨hjobs, htables, _⟩
  have hunique : KeysUnique written :=
    (henqueues.progress.rows ((upsertEventCursor_progress sourceAdvanced now).rows hrows)).unique
  exact ⟨retired, write, job, hwrite, hjob, henqueues.activeIn hunique hactive hjobs
    (htables.trans (fenced_tables _ _ _ _))⟩

theorem materializeOrdered_unequal (newJobId : String) (sourceAdvanced : Bool)
    (now : Int) (hunequal : ¬ Reusable s request) :
    exists error, s.materializeOrdered request newJobId sourceAdvanced now = .error error := by
  unfold Reusable at hunequal
  push Not at hunequal
  rcases hunequal with ⟨cursor, row, hcursor, hrevision, hrow, hactive, hspec⟩
  have hgeneration : s.eventGenerationFor request sourceAdvanced = cursor.eventGeneration := by
    unfold Store.eventGenerationFor
    rw [hcursor]
    dsimp only
    rw [if_neg (not_not_intro hrevision), hrow]
    exact if_neg (fun h => h.right hactive)
  unfold Store.materializeOrdered
  rw [hgeneration]
  dsimp only
  cases hasked : Store.eventSpec request cursor.eventGeneration with
  | error error => exact ⟨error, rfl⟩
  | ok spec =>
    have hof := eventSpec_specOf hasked
    have hfound : (s.upsertEventCursor request cursor.eventGeneration
        now).findIdempotent spec.projectId spec.idempotencyKey = some row := by
      rw [hof.projectId, hof.key]
      exact hrow
    have hother : row.spec ≠ spec := by
      intro heq
      exact hspec (heq ▸ hasked)
    dsimp only [bind, Except.bind]
    unfold Store.enqueueLocked
    rw [hfound]
    dsimp only
    rw [if_pos hother]
    exact ⟨_, rfl⟩

end ImplementationWorkflow
end Oompah
