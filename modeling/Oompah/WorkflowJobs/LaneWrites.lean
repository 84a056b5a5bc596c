import Oompah.WorkflowJobs.LeaseWrites

/-!
# Writes of the scheduling and event-lane operations

Enqueue, retirement records, the staged writes of a scan and the event lanes,
each as a chain of writes under any permit that covers the inserted specs.
-/

namespace Oompah
namespace WorkflowJobs

open Foundation

namespace Store

variable {p : Permit} {s s' : Store}

/-!
# Enqueue
-/

variable {row : WorkflowJob}

theorem findIdempotent_eq_some {projectId key : String}
    (h : s.findIdempotent projectId key = some row) :
    row ∈ s.jobs.rows ∧ row.spec.projectId = projectId ∧ row.spec.idempotencyKey = key := by
  have hmem := List.mem_of_find?_eq_some h
  have hkey := List.find?_some h
  simp only [decide_eq_true_eq] at hkey
  exact ⟨hmem, hkey⟩

/-- What one successful `_enqueue_locked` did. -/
inductive Enqueued (s : Store) (spec : WorkflowJobSpec) (managed : Bool) :
    Store -> WorkflowJob -> Bool -> Prop where
  | replayed {existing : WorkflowJob} (hmem : existing ∈ s.jobs.rows)
      (hspec : existing.spec = spec) :
      Enqueued s spec managed s existing false
  | managed {existing : WorkflowJob} (hmem : existing ∈ s.jobs.rows)
      (hspec : existing.spec = spec) (hmanaged : managed = true)
      (hunmanaged : existing.workflowManaged = false) :
      Enqueued s spec managed (s.act existing.jobId .manage) (RowAction.manage.apply existing) false
  | inserted {newJobId : String} {now : Int}
      (hfresh : (WorkflowJob.fresh newJobId (s.jobs.rows.length + 1) spec managed
        now).jobId ∉ s.jobs.rows.map WorkflowJob.jobId) :
      Enqueued s spec managed ({ s with jobs := s.jobs.insert _ hfresh }.appendEvent
          (WorkflowJob.fresh newJobId (s.jobs.rows.length + 1) spec managed now)
          ⟨"enqueued", []⟩ now)
        (WorkflowJob.fresh newJobId (s.jobs.rows.length + 1) spec managed now)
        true

variable {spec : WorkflowJobSpec} {newJobId : String} {now : Int}

theorem enqueueLocked_eq_ok {managed : Bool} {created : Bool}
    (h : s.enqueueLocked spec newJobId managed now = .ok (s', row, created)) :
    Enqueued s spec managed s' row created := by
  unfold enqueueLocked at h
  split at h
  · rename_i existing hfind
    have hmem := (findIdempotent_eq_some hfind).left
    split at h
    · cases h
    · rename_i hspec
      rw [not_not] at hspec
      split at h
      · rename_i hmanage
        cases h
        exact Enqueued.managed hmem hspec hmanage.left (by simpa using hmanage.right)
      · cases h
        exact Enqueued.replayed hmem hspec
  · unfold requiredText at h
    rw [require_bind_eq_ok, bind_eq_ok] at h
    rcases h with ⟨_, inserted, hinsert, h⟩
    cases h
    unfold insertFresh at hinsert
    dsimp only at hinsert
    split at hinsert
    · rename_i hfresh
      cases hinsert
      exact Enqueued.inserted hfresh
    · cases hinsert

variable {managed created : Bool}

theorem Enqueued.found (h : Enqueued s spec managed s' row created) :
    s'.jobs.find? row.jobId = some row := by
  cases h with
  | replayed hmem => exact JobTable.find?_of_mem hmem
  | managed hmem => exact JobTable.find?_modify_self (JobTable.find?_of_mem hmem)
  | inserted hfresh =>
    apply JobTable.find?_of_mem
    simp [appendEvent, JobTable.insert]

theorem Enqueued.writes (hspec : p.specs spec) (h : Enqueued s spec managed s' row created) :
    Writes p s s' := by
  cases h with
  | replayed => exact Writes.refl s
  | managed hmem =>
    exact Writes.act (JobTable.find?_of_mem hmem) (Permit.Allows.of_plain rfl trivial)
  | inserted hfresh =>
    exact (Writes.single (Write.insert hfresh hspec)).trans (Writes.appendEvent _ _ _)

theorem enqueueLocked_writes {managed : Bool} {created : Bool} (hspec : p.specs spec)
    (h : s.enqueueLocked spec newJobId managed now = .ok (s', row, created)) :
    Writes p s s' :=
  (enqueueLocked_eq_ok h).writes hspec

theorem enqueue_writes (hspec : p.specs spec) (h : s.enqueue spec newJobId now = .ok (s', row)) :
    Writes p s s' := by
  unfold enqueue at h
  rw [bind_eq_ok] at h
  rcases h with ⟨⟨written, found, created⟩, hwritten, h⟩
  cases h
  exact enqueueLocked_writes hspec hwritten

/-!
# Retirements
-/

theorem retireEach_writes {rows : List WorkflowJob} {retirement : JobRetirement}
    (hrows : forall row, row ∈ rows -> row ∈ s.taskRows retirement.projectId retirement.taskId)
    (hmanaged : forall row, row ∈ rows ->
      retirement.authorityKind.isManaged = true -> row.workflowManaged = true) :
    Writes p s (s.retireEach rows retirement) := by
  induction rows generalizing s with
  | nil => exact Writes.refl s
  | cons row rest ih =>
    rcases mem_taskRows.mp (hrows row (by simp)) with ⟨hmem, hproject, htask⟩
    have hfirst : Writes p s (s.retire { retirement with jobId := row.jobId }) :=
      Writes.single (Write.retire ⟨row, JobTable.find?_of_mem hmem, hproject, htask,
          hmanaged row (by simp)⟩)
    refine hfirst.trans (ih ?_ ?_)
    · intro other hother
      exact hrows other (by simp [hother])
    · intro other hother
      exact hmanaged other (by simp [hother])

theorem retireEach_jobs (s : Store) (rows : List WorkflowJob) (retirement : JobRetirement) :
    (s.retireEach rows retirement).jobs = s.jobs := by
  induction rows generalizing s with
  | nil => rfl
  | cons row rest ih => exact ih _

theorem recordCut_eq_ok {cut : RetirementAuthorityCut} (h : s.recordCut cut = .ok s') :
    exists f, s' = s.withTables f ∧ (f s.tables).cursors = s.tables.cursors := by
  unfold recordCut at h
  split at h
  · cases h
    exact ⟨_, rfl, rfl⟩
  · split at h
    · cases h
      exact ⟨id, rfl, rfl⟩
    · cases h

variable {projectId taskId : String} {workflowManaged : Option Bool} {excluded : List String}

theorem mem_retirableRows (h : row ∈ s.retirableRows projectId taskId workflowManaged excluded) :
    row ∈ s.taskRows projectId taskId ∧
      (workflowManaged = some true -> row.workflowManaged = true) ∧
      s.hasDurableRetirement row = false := by
  unfold retirableRows at h
  rw [List.mem_filter] at h
  rcases h with ⟨hmem, hkeep⟩
  simp only [decide_eq_true_eq] at hkeep
  refine ⟨hmem, ?_, by simpa using hkeep.right.right⟩
  intro hmanaged
  simpa [hmanaged] using hkeep.left

variable {kind : AuthorityKind}

theorem checkRetirementAuthority_managed {projectId taskId revision : String}
    {snapshot : Option Nat} {generation : Option String} (hkind : kind.isManaged = true)
    (h : s.checkRetirementAuthority projectId taskId kind revision snapshot
      workflowManaged = .ok generation) :
    workflowManaged = some true := by
  cases kind with
  | eventHandoff => cases hkind
  | terminalAuditHandoff => cases hkind
  | lifecycleFinal => cases hkind
  | managedDecision =>
    cases snapshot with
    | none => cases h
    | some snapshot => exact (require_bind_eq_ok.mp h).left
  | managedZeroJob =>
    cases snapshot with
    | none => cases h
    | some snapshot => exact (require_bind_eq_ok.mp h).left

variable {count : Nat}

theorem recordJobRetirementsLocked_writes {projectId taskId revision : String}
    {snapshot : Option Nat}
    (h : s.recordJobRetirementsLocked projectId taskId kind revision snapshot
      workflowManaged excluded now = .ok (s', count)) :
    Writes p s s' := by
  unfold recordJobRetirementsLocked at h
  rw [bind_eq_ok] at h
  rcases h with ⟨generation, hcheck, h⟩
  have hsound : forall row, row ∈ s.retirableRows projectId taskId workflowManaged excluded ->
        kind.isManaged = true -> row.workflowManaged = true := by
    intro row hrow hkind
    exact (mem_retirableRows hrow).right.left (checkRetirementAuthority_managed hkind hcheck)
  dsimp only at h
  have hmem : forall row, row ∈ s.retirableRows projectId taskId workflowManaged excluded ->
        row ∈ s.taskRows projectId taskId :=
    fun row hrow => (mem_retirableRows hrow).left
  split at h
  · cases h
    exact Writes.refl s
  · cases h
    exact retireEach_writes hmem hsound
  · rw [bind_eq_ok] at h
    rcases h with ⟨cut, hcut, h⟩
    cases h
    rcases recordCut_eq_ok hcut with ⟨f, hf, hcursors⟩
    subst hf
    have htables : Writes p s (s.withTables f) :=
      Writes.tables (fun hunique => hunique.sublist (by rw [hcursors]))
    exact htables.trans (retireEach_writes hmem hsound)

theorem recordEventHandoffRetirementsLocked_writes
    {projectId taskId authorityGeneration authorityLane : String}
    {authorityEnqueueSequence : Nat} {retiredLanes : List String}
    (h : s.recordEventHandoffRetirementsLocked projectId taskId
      authorityGeneration authorityLane authorityEnqueueSequence retiredLanes
      now = .ok (s', count)) :
    Writes p s s' := by
  unfold recordEventHandoffRetirementsLocked at h
  simp only [require_bind_eq_ok] at h
  rcases h with ⟨_, _, h⟩
  cases h
  apply retireEach_writes
  · intro row hrow
    exact (List.mem_filter.mp hrow).left
  · intro row _ hkind
    cases hkind

/-!
# Scheduling
-/

theorem upsertCursor_writes (projectId taskId revision generation : String)
    (snapshot : Nat) (now : Int) :
    Writes p s (s.upsertCursor projectId taskId revision generation snapshot now) := by
  unfold upsertCursor
  apply Writes.tables
  intro hunique
  refine hunique.replace [?cursor] (fun cursor =>
    cursor.projectId = projectId ∧ cursor.taskId = taskId)
    (List.nodup_singleton _) ?clears ?cursors
  case cursors =>
    simp only [decide_not]
    rfl
  case clears =>
    intro cursor known hcursor hproject htask
    rw [List.mem_singleton] at hcursor
    simp [hproject, htask, hcursor]

variable {snapshot : Nat}

theorem activateSchedule_eq_ok {projectId taskId revision : String}
    {nextReassessmentAt : Option Int}
    {protectedAction : Option String} {protectedLanes : List String} {result : ScheduleActivation}
    (h : s.activateSchedule projectId taskId revision snapshot
      nextReassessmentAt protectedAction protectedLanes now = .ok (s', result)) :
    s' = s ∨ exists generation,
      s' = s.upsertCursor projectId taskId revision generation snapshot now := by
  unfold activateSchedule requiredText positiveGeneration at h
  simp only [require_bind_eq_ok] at h
  rcases h with ⟨_, _, _, _, _, h⟩
  split at h
  · cases h
    exact .inl rfl
  · cases h
    exact .inl rfl
  · cases h
    exact .inr ⟨_, rfl⟩
  · split at h
    · cases h
      exact .inl rfl
    · split at h
      · rw [require_bind_eq_ok] at h
        cases h.right
        exact .inl rfl
      · cases h
        exact .inr ⟨_, rfl⟩

variable {recordAuthorityCut : Bool}

theorem recordManagedCut_eq_ok {projectId taskId revision : String} {jobIds : List String}
    (h : s.recordManagedCut projectId taskId revision snapshot kind jobIds
      recordAuthorityCut now = .ok s') :
    s' = s ∨ exists count, s.recordJobRetirementsLocked projectId taskId kind revision
      (some snapshot) (some true) jobIds now = .ok (s', count) := by
  unfold recordManagedCut at h
  split at h
  · rcases bind_eq_ok.mp h with ⟨⟨recorded, count⟩, hrecorded, h⟩
    cases h
    exact .inr ⟨count, hrecorded⟩
  · cases h
    exact .inl rfl

theorem recordManagedCut_writes {projectId taskId revision : String} {jobIds : List String}
    (h : s.recordManagedCut projectId taskId revision snapshot kind jobIds
      recordAuthorityCut now = .ok s') :
    Writes p s s' := by
  rcases recordManagedCut_eq_ok h with rfl | ⟨count, hrecorded⟩
  · exact Writes.refl s'
  · exact recordJobRetirementsLocked_writes hrecorded

variable {specs : List (WorkflowJobSpec × String)}

theorem enqueueEach_writes {written : List (String × Bool)}
    (hspecs : forall item, item ∈ specs -> p.specs item.1)
    (h : s.enqueueEach specs now = .ok (s', written)) :
    Writes p s s' := by
  have hloop := foldlM_relation (R := fun a b : Store × List (String × Bool) => Writes p a.1 b.1)
    (fun _ => Writes.refl _) (fun _ _ _ => Writes.trans)
    (fun acc item acc' hitem hbody => ?_) h
  · exact hloop
  · rw [bind_eq_ok] at hbody
    rcases hbody with ⟨⟨middle, row, created⟩, henqueue, hbody⟩
    cases hbody
    exact enqueueLocked_writes (hspecs item hitem) henqueue

theorem selects_displacedRows (s : Store) (projectId taskId generation : String)
    (keys : List String) :
    s.Selects (s.displacedRows projectId taskId generation keys) :=
  (selects_taskRows s projectId taskId).sublist List.filter_sublist

theorem materializeCursor_writes (projectId taskId generation : String)
    (snapshot : Nat) (now : Int) :
    Writes p s (s.materializeCursor projectId taskId generation snapshot now) := by
  apply Writes.tables
  intro hunique
  unfold CursorsUnique at hunique ⊢
  rw [List.map_map]
  convert hunique using 2
  funext cursor
  simp only [Function.comp]
  split <;> rfl

variable {reason generation : String} {cursor : WorkflowScheduleCursor} {result : ScheduleWrite}

theorem reconcileMaterialized_eq_ok
    (h : s.reconcileMaterialized projectId taskId generation snapshot cursor
      specs recordAuthorityCut reason now = .ok (s', result)) :
    exists enqueued written, s.enqueueEach specs now = .ok (enqueued, written) ∧
      ((enqueued.actEach (enqueued.displacedRows projectId taskId generation
          (specs.map (fun item => item.1.idempotencyKey)))
        (supersedePlan generation reason now) now).materializeCursor projectId taskId generation
          snapshot now).recordManagedCut projectId taskId cursor.decisionRevision snapshot
            (managedAuthorityKind specs) (written.map Prod.fst) recordAuthorityCut now =
        .ok s' := by
  rcases bind_eq_ok.mp h with ⟨⟨enqueued, written⟩, henqueued, h⟩
  rcases bind_eq_ok.mp h with ⟨recorded, hrecorded, h⟩
  cases h
  exact ⟨enqueued, written, henqueued, hrecorded⟩

theorem reconcileMaterialized_writes (hspecs : forall item, item ∈ specs -> p.specs item.1)
    (h : s.reconcileMaterialized projectId taskId generation snapshot cursor
      specs recordAuthorityCut reason now = .ok (s', result)) :
    Writes p s s' := by
  rcases reconcileMaterialized_eq_ok h with ⟨enqueued, written, henqueued, hrecorded⟩
  have hfenced : Writes p enqueued (enqueued.actEach
      (enqueued.displacedRows projectId taskId generation
        (specs.map (fun item => item.1.idempotencyKey)))
      (supersedePlan generation reason now) now) := by
    apply supersedeEach_writes _ _ _ (selects_displacedRows _ _ _ _ _)
    intro row hrow
    have hkeep := (List.mem_filter.mp hrow).right
    simp only [decide_eq_true_eq] at hkeep
    exact hkeep.right.left
  exact ((enqueueEach_writes hspecs henqueued).trans hfenced).trans
    ((materializeCursor_writes _ _ _ _ _).trans (recordManagedCut_writes hrecorded))

theorem checkScheduledSpecs_eq_ok {checked : List Unit}
    (h : specs.mapM (fun item =>
      checkScheduledSpec projectId taskId generation item.1) = .ok checked) :
    forall item, item ∈ specs -> item.1.projectId = projectId ∧ item.1.taskId = taskId := by
  induction specs generalizing checked with
  | nil =>
    intro _ hitem
    cases hitem
  | cons first rest ih =>
    rw [List.mapM_cons, bind_eq_ok] at h
    rcases h with ⟨_, hfirst, h⟩
    rw [bind_eq_ok] at h
    rcases h with ⟨_, hrest, _⟩
    intro item hitem
    rcases List.mem_cons.mp hitem with hhead | htail
    · rw [hhead]
      unfold checkScheduledSpec at hfirst
      rw [require_bind_eq_ok] at hfirst
      exact ⟨hfirst.left.left, hfirst.left.right.left⟩
    · exact ih hrest item htail

variable {authorityKind : Option AuthorityKind}

/-- A schedule is reconciled under the cursor it names, or nothing is written. -/
theorem reconcileSchedule_eq_ok
    (h : s.reconcileSchedule projectId taskId snapshot generation specs
      recordAuthorityCut authorityKind reason now = .ok (s', result)) :
    (s' = s ∧ forall cursor, s.findCursor projectId taskId = some cursor ->
        ¬ (s.snapshotGenerationIsCurrent snapshot = true ∧ cursor.snapshotGeneration = snapshot ∧
          cursor.jobGeneration = generation)) ∨
      (exists cursor, s.findCursor projectId taskId = some cursor ∧
        (s.snapshotGenerationIsCurrent snapshot = true ∧ cursor.snapshotGeneration = snapshot ∧
          cursor.jobGeneration = generation) ∧
        (forall item, item ∈ specs -> item.1.projectId = projectId ∧ item.1.taskId = taskId) ∧
        s.reconcileMaterialized projectId taskId generation snapshot cursor specs
          recordAuthorityCut reason now = .ok (s', result)) := by
  unfold reconcileSchedule requiredText positiveGeneration at h
  simp only [require_bind_eq_ok] at h
  rcases h with ⟨_, _, _, _, _, _, h⟩
  rcases bind_eq_ok.mp h with ⟨checked, hchecked, h⟩
  rw [require_bind_eq_ok] at h
  have hbody := h.right
  split at hbody
  · rename_i hnone
    cases hbody
    refine .inl ⟨rfl, fun cursor hcursor => ?_⟩
    rw [hnone] at hcursor
    cases hcursor
  · rename_i cursor hcursor
    split at hbody
    · rename_i hcurrent
      exact .inr ⟨cursor, hcursor, hcurrent, checkScheduledSpecs_eq_ok hchecked, hbody⟩
    · rename_i hrefused
      cases hbody
      refine .inl ⟨rfl, fun other hother => ?_⟩
      rw [hcursor] at hother
      cases hother
      exact hrefused

theorem reconcileSchedule_writes (hspecs : forall item, item ∈ specs -> p.specs item.1)
    (h : s.reconcileSchedule projectId taskId snapshot generation specs
      recordAuthorityCut authorityKind reason now = .ok (s', result)) :
    Writes p s s' := by
  rcases reconcileSchedule_eq_ok h with ⟨rfl, _⟩ | ⟨cursor, _, _, _, hbody⟩
  · exact Writes.refl s'
  · exact reconcileMaterialized_writes hspecs hbody

variable {status : String}

theorem recordLifecycleFinalAuthority_eq_ok
    (h : s.recordLifecycleFinalAuthority projectId taskId status snapshot now = .ok (s', count)) :
    s' = s ∨ s.recordJobRetirementsLocked projectId taskId .lifecycleFinal
      ("lifecycle-final:" ++ status) (some snapshot) none [] now = .ok (s', count) := by
  unfold recordLifecycleFinalAuthority requiredText positiveGeneration at h
  simp only [require_bind_eq_ok] at h
  have hbody := h.right.right.right.right.right
  split at hbody
  · exact .inr hbody
  · cases hbody
    exact .inl rfl

theorem recordLifecycleFinalAuthority_writes
    (h : s.recordLifecycleFinalAuthority projectId taskId status snapshot now = .ok (s', count)) :
    Writes p s s' := by
  rcases recordLifecycleFinalAuthority_eq_ok h with rfl | hrecorded
  · exact Writes.refl s'
  · exact recordJobRetirementsLocked_writes hrecorded

theorem selects_activeManagedRows (s : Store) (projectId taskId : String) :
    s.Selects (s.activeManagedRows projectId taskId) :=
  (selects_taskRows s projectId taskId).sublist List.filter_sublist

theorem mem_activeManagedRows : row ∈ s.activeManagedRows projectId taskId <->
      row ∈ s.taskRows projectId taskId ∧ row.workflowManaged = true ∧ row.isActive = true := by
  simp [activeManagedRows]

theorem retireAbsentTask_writes (snapshot : Nat) (projectId : String)
    (now : Int) (acc : Store × Nat × Nat) (taskId : String) :
    Writes p acc.1 (retireAbsentTask snapshot projectId now acc taskId).1 := by
  have hfenced := supersedeEach_writes (p := p) ("snapshot:" ++ toString snapshot)
    "task absent from newer authoritative workflow snapshot" now
    (selects_activeManagedRows acc.1 projectId taskId)
    (fun row hrow => (mem_activeManagedRows.mp hrow).right.right)
  refine hfenced.trans ?_
  dsimp only [retireAbsentTask, dropCursors]
  exact Writes.tables (fun hunique => hunique.sublist List.filter_sublist)

/-- What retiring an absent task and replacing members keep is kept by the whole call. -/
theorem reconcileSnapshotMembership_relation {R : Store -> Store -> Prop}
    {projects : List String} {expected : List (String × String)}
    {evaluated : Option (List (String × String))} {result : MembershipWrite}
    (hrefl : forall s, R s s) (htrans : forall a b c, R a b -> R b c -> R a c)
    (hretire : forall projectId acc taskId,
      R acc.1 (retireAbsentTask snapshot projectId now acc taskId).1)
    (hreplace : forall s projectId members, R s (s.replaceMembers projectId members))
    (h : s.reconcileSnapshotMembership snapshot projects expected evaluated now =
      .ok (s', result)) :
    R s s' := by
  unfold reconcileSnapshotMembership positiveGeneration at h
  simp only [require_bind_eq_ok] at h
  rcases h with ⟨_, _, h⟩
  rcases bind_eq_ok.mp h with ⟨_, _, h⟩
  rcases bind_eq_ok.mp h with ⟨_, _, h⟩
  simp only [require_bind_eq_ok] at h
  have hbody := h.right.right
  have hfold : forall (body : Store × Nat × Nat -> String -> Store × Nat × Nat) (ids : List String)
      (acc : Store × Nat × Nat), (forall acc id, R acc.1 (body acc id).1) ->
        R acc.1 (ids.foldl body acc).1 :=
    fun body ids acc hbody =>
      foldl_relation (R := fun a b : Store × Nat × Nat => R a.1 b.1) (fun _ => hrefl _)
        (fun _ _ _ => htrans _ _ _) ids (fun acc id _ => hbody acc id) acc
  split at hbody
  · cases hbody
    exact hfold _ _ (s, 0, 0) (fun acc projectId =>
      htrans _ _ _ (hfold _ _ acc (hretire projectId)) (hreplace _ projectId _))
  · cases hbody
    exact hrefl s

theorem allocateDecisionWindow_eq_ok {total limit : Nat}
    {snapshot : Option Nat} {scope : Option String} {result : Option Nat}
    (h : s.allocateDecisionWindow total limit snapshot scope = .ok (s', result)) :
    exists windows, s' = s.withTables (fun tables =>
      { tables with decisionWindows := windows }) := by
  unfold allocateDecisionWindow boundedLimit at h
  simp only [require_bind_eq_ok] at h
  have hbody := h.right.right
  split at hbody
  · cases hbody
    exact ⟨_, rfl⟩
  · cases hbody
    exact ⟨s.tables.decisionWindows, rfl⟩

/-!
# Event lanes
-/

theorem selects_activeLaneRows (s : Store) (projectId taskId : String) (lanes : List String) :
    s.Selects (s.activeLaneRows projectId taskId lanes) :=
  (selects_taskRows s projectId taskId).sublist List.filter_sublist

theorem activeLaneRows_active {lanes : List String}
    (h : row ∈ s.activeLaneRows projectId taskId lanes) :
    row.isActive = true := by
  have hkeep := (List.mem_filter.mp h).right
  simp only [decide_eq_true_eq] at hkeep
  exact hkeep.right

variable {retireManagedExhaustion : Bool}

theorem retireManagedForAudit_writes
    (h : s.retireManagedForAudit spec retireManagedExhaustion now = .ok s') :
    Writes p s s' := by
  unfold retireManagedForAudit at h
  split at h
  · rw [bind_eq_ok] at h
    rcases h with ⟨⟨recorded, count⟩, hrecorded, h⟩
    cases h
    exact recordJobRetirementsLocked_writes hrecorded
  · cases h
    exact Writes.refl s

variable {result : EventWrite}

theorem enqueueStale_writes {observedRevision : String} (hspec : p.specs spec)
    (h : s.enqueueStale spec newJobId observedRevision now = .ok (s', result)) :
    Writes p s s' := by
  unfold enqueueStale at h
  rw [bind_eq_ok] at h
  rcases h with ⟨⟨written, job, created⟩, hwritten, h⟩
  have henqueued := enqueueLocked_eq_ok hwritten
  dsimp only at h
  split at h
  · rename_i hguard
    cases h
    apply (henqueued.writes hspec).trans
    apply Writes.actLogged henqueued.found
    apply Permit.Allows.of_plain rfl
    exact ⟨hguard.left, by simp [WorkflowJob.isQuarantined, hguard.right.left]⟩
  · cases h
    exact henqueued.writes hspec

variable {sourceGeneration : Nat}

theorem replaceLane_writes (hspec : p.specs spec)
    (h : s.replaceLane spec newJobId sourceGeneration retireManagedExhaustion
      reason now = .ok (s', result)) :
    Writes p s s' := by
  unfold replaceLane at h
  rw [bind_eq_ok] at h
  rcases h with ⟨⟨written, job, created⟩, hwritten, h⟩
  rw [bind_eq_ok] at h
  rcases h with ⟨_, _, h⟩
  rw [bind_eq_ok] at h
  rcases h with ⟨retired, hretired, h⟩
  cases h
  refine (Writes.tables id).trans ((enqueueLocked_writes hspec hwritten).trans
    (Writes.trans ?_ (retireManagedForAudit_writes hretired)))
  apply supersedeEach_writes
  · exact (selects_activeLaneRows _ _ _ _).sublist List.filter_sublist
  · intro row hrow
    exact activeLaneRows_active (List.mem_filter.mp hrow).left

theorem enqueueReplacingLane_writes {requireSourceAdvance retireManaged : Bool}
    {bindingUpgradeFrom : Option String} (hspec : p.specs spec)
    (h : s.enqueueReplacingLane spec newJobId sourceGeneration
      requireSourceAdvance retireManaged bindingUpgradeFrom reason now = .ok (s', result)) :
    Writes p s s' := by
  unfold enqueueReplacingLane positiveGeneration requiredText at h
  simp only [require_bind_eq_ok] at h
  have hbody := h.right.right.right
  split at hbody
  · split at hbody
    · cases hbody
      exact Writes.refl s
    · exact replaceLane_writes hspec hbody
  · split at hbody
    · split at hbody
      · cases hbody
        exact Writes.refl s
      · split at hbody
        · rw [bind_eq_ok] at hbody
          rcases hbody with ⟨retired, hretired, hbody⟩
          cases hbody
          exact retireManagedForAudit_writes hretired
        · cases hbody
          exact Writes.refl s
    · split at hbody
      · exact enqueueStale_writes hspec hbody
      · exact replaceLane_writes hspec (require_bind_eq_ok.mp hbody).right

theorem rearmExhaustedJob_eq_ok {jobId generation phase reason : String} {result : WorkflowJob}
    (h : s.rearmExhaustedJob jobId generation phase reason now = .ok (s', result)) :
    exists row, s.jobs.find? jobId = some row ∧ (row.isActive = true ∧ s' = s ∧ result = row ∨
        (row.state = .completed ∨ row.state = .exhausted) ∧
          s' = ((s.act jobId (.rearm phase now)).dropRetirements
            (fun retirement => retirement.jobId = jobId)).appendEvent
            ((RowAction.rearm phase now).apply row) ⟨"rearmed", [("reason", .text reason)]⟩ now ∧
          result = (RowAction.rearm phase now).apply row) := by
  unfold rearmExhaustedJob requiredText at h
  simp only [require_bind_eq_ok] at h
  have hbody := h.right.right.right.right
  rw [bind_eq_ok] at hbody
  rcases hbody with ⟨row, hrow, hbody⟩
  rw [require_bind_eq_ok] at hbody
  refine ⟨row, rowLocked_eq_ok.mp hrow, ?_⟩
  have hrest := hbody.right
  split at hrest
  · rename_i hactive
    cases hrest
    exact .inl ⟨hactive, rfl, rfl⟩
  · rw [require_bind_eq_ok] at hrest
    rcases hrest with ⟨hterminal, hrest⟩
    cases hrest
    exact .inr ⟨hterminal, rfl, rfl⟩

theorem rearmExhaustedJob_writes {jobId generation phase reason : String}
    {result : WorkflowJob} (hphase : p.phases phase)
    (hrewrites : forall row, row.jobId = jobId -> p.rewrites row)
    (h : s.rearmExhaustedJob jobId generation phase reason now = .ok (s', result)) :
    Writes p s s' := by
  rcases rearmExhaustedJob_eq_ok h with
    ⟨row, hfound, ⟨_, hs', _⟩ | ⟨hterminal, hs', _⟩⟩
  · rw [hs']
    exact Writes.refl s
  · rw [hs']
    have hact : Writes p s (s.act jobId (.rearm phase now)) := by
      apply Writes.act hfound
      refine Permit.Allows.of_rewrite ?_ rfl
        (hrewrites row (JobTable.mem_of_find? hfound).right) hterminal
      intro written hwritten
      cases hwritten
      exact hphase
    exact (hact.trans (Writes.single (Write.dropRetirements _ _))).trans (Writes.appendEvent _ _ _)

variable {request : EventRequest} {sourceAdvanced : Bool}

theorem orderEvent_proceed (h : s.orderEvent request now = .ok (.proceed s' sourceAdvanced)) :
    exists f, s' = s.withTables f ∧ (f s.tables).cursors = s.tables.cursors := by
  unfold orderEvent at h
  split at h
  · cases h
    exact ⟨id, rfl, rfl⟩
  · split at h
    · cases h
      exact ⟨_, rfl, rfl⟩
    · split at h
      · split at h
        · split at h <;> cases h
        · cases h
      · split at h
        · cases h
        · cases h
          exact ⟨_, rfl, rfl⟩

theorem eventSpec_phase (h : eventSpec request generation = .ok spec) : spec.phase = "intent" := by
  unfold eventSpec at h
  split at h
  · cases h
    rfl
  · cases h

theorem retireSupersededLanes_writes {enqueueSequence : Nat}
    (h : s.retireSupersededLanes request generation enqueueSequence now = .ok s') :
    Writes p s s' := by
  unfold retireSupersededLanes at h
  split at h
  · cases h
    exact Writes.refl s
  · rw [bind_eq_ok] at h
    rcases h with ⟨⟨recorded, count⟩, hrecorded, h⟩
    cases h
    exact recordEventHandoffRetirementsLocked_writes hrecorded

theorem materializeOrdered_writes (hspecs : forall spec, spec.phase = "intent" -> p.specs spec)
    (h : s.materializeOrdered request newJobId sourceAdvanced now = .ok (s', result)) :
    Writes p s s' := by
  unfold materializeOrdered at h
  rw [bind_eq_ok] at h
  rcases h with ⟨spec, hspec, h⟩
  rw [bind_eq_ok] at h
  rcases h with ⟨⟨written, job, created⟩, hwritten, h⟩
  rw [bind_eq_ok] at h
  rcases h with ⟨_, _, h⟩
  rw [bind_eq_ok] at h
  rcases h with ⟨retired, hretired, h⟩
  cases h
  have hinsert := enqueueLocked_writes (hspecs spec (eventSpec_phase hspec)) hwritten
  refine (Writes.tables id).trans (hinsert.trans
    (Writes.trans ?_ (retireSupersededLanes_writes hretired)))
  apply supersedeEach_writes
  · exact (selects_activeLaneRows _ _ _ _).sublist List.filter_sublist
  · intro row hrow
    exact activeLaneRows_active (List.mem_filter.mp hrow).left

theorem materializeEvent_writes (hspecs : forall spec, spec.phase = "intent" -> p.specs spec)
    (h : s.materializeEvent request newJobId now = .ok (s', result)) :
    Writes p s s' := by
  unfold materializeEvent at h
  rw [bind_eq_ok] at h
  rcases h with ⟨_, _, h⟩
  rw [bind_eq_ok] at h
  rcases h with ⟨order, horder, h⟩
  cases order with
  | settled write =>
    cases h
    exact Writes.refl s
  | proceed ordered sourceAdvanced =>
    rcases orderEvent_proceed horder with ⟨f, hf, hcursors⟩
    subst hf
    have htables : Writes p s (s.withTables f) :=
      Writes.tables (fun hunique => hunique.sublist (by rw [hcursors]))
    dsimp only at h
    split at h
    · cases h
      exact htables
    · exact htables.trans (materializeOrdered_writes hspecs h)

theorem retireEventLane_writes {projectId taskId schedulingLane orderingNamespace : String}
    {decisionRevision reason : String}
    (h : s.retireEventLane projectId taskId schedulingLane orderingNamespace
      sourceGeneration decisionRevision reason now = .ok (s', result)) :
    Writes p s s' := by
  unfold retireEventLane requiredText positiveGeneration at h
  simp only [require_bind_eq_ok] at h
  rcases h with ⟨_, _, _, _, _, _, _, h⟩
  split at h
  · cases h
    exact Writes.refl s
  · rw [require_bind_eq_ok] at h
    rcases h with ⟨_, h⟩
    cases h
    refine Writes.trans (Writes.tables ?_) (actEach_writes
      ((selects_taskRows _ projectId taskId).sublist List.filter_sublist) ?_)
    · exact id
    intro _ row action event hrow hplan
    have hkeep := (List.mem_filter.mp hrow).right
    simp only [decide_eq_true_eq] at hkeep
    unfold retireLanePlan at hplan
    split at hplan
    · cases hplan
    · cases hplan
      apply Permit.Allows.of_plain rfl
      rcases hkeep.right with hstate | hstate
      · simp [RowAction.Applicable, WorkflowJob.isActive, WorkflowJob.isQuarantined,
          hstate, WorkflowJobState.isActive]
      · simp [RowAction.Applicable, WorkflowJob.isActive, WorkflowJob.isQuarantined,
          hstate, WorkflowJobState.isActive]

theorem activateEventOrder_writes {projectId taskId orderingNamespace : String}
    {decisionRevision : String} {result : Bool}
    (h : s.activateEventOrder projectId taskId orderingNamespace
      sourceGeneration decisionRevision now = .ok (s', result)) :
    Writes p s s' := by
  unfold activateEventOrder requiredText positiveGeneration at h
  simp only [require_bind_eq_ok] at h
  rcases h with ⟨_, _, _, _, _, h⟩
  split at h
  · cases h
    exact Writes.tables id
  · split at h
    · cases h
      exact Writes.refl s
    · split at h
      · rw [require_bind_eq_ok] at h
        cases h.right
        exact Writes.refl s
      · cases h
        exact Writes.tables id

theorem reconcileEventHandoffRetirements_writes {authorityLanes retiredLanes actions : List String}
    (h : s.reconcileEventHandoffRetirements projectId taskId authorityLanes
      retiredLanes actions now = .ok (s', count)) :
    Writes p s s' := by
  unfold reconcileEventHandoffRetirements requiredText at h
  simp only [require_bind_eq_ok] at h
  rcases h with ⟨_, _, _, _, _, h⟩
  split at h
  · cases h
    exact Writes.refl s
  · exact recordEventHandoffRetirementsLocked_writes h

end Store
end WorkflowJobs
end Oompah
