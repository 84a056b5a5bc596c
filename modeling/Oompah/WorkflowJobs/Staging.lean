import Oompah.WorkflowJobs.Runs

/-!
# Staged writes of one generation

What the staging operations of a scan may do to the store: every new cursor,
cut and retirement row carries the scan's own generation, and the only rows
that become managed belong to tasks whose cursor that generation activated.
-/

namespace Oompah
namespace WorkflowJobs

open Foundation

/-!
# The relation
-/

/-- Every cursor of the task was activated by the generation. -/
def TaskStaged (generation : Nat) (s : Store) (projectId taskId : String) :
    Prop :=
  forall cursor, cursor ∈ s.tables.cursors -> cursor.projectId = projectId ->
    cursor.taskId = taskId -> cursor.snapshotGeneration = generation

/-- A row of the store `s'` after staged writes, compared with `row` before. -/
structure RowStaged (generation : Nat) (s' : Store) (row row' : WorkflowJob) :
    Prop where
  jobId : row'.jobId = row.jobId
  spec : row'.spec = row.spec
  exhausted : row.state = .exhausted -> row'.state = .exhausted
  standing : Store.isWithdrawn row = true -> Store.isWithdrawn row' = true
  managed : row.workflowManaged = true -> row'.workflowManaged = true
  adopted : row'.workflowManaged = true -> row.workflowManaged = true ∨
    TaskStaged generation s' row'.spec.projectId row'.spec.taskId

structure Staged (generation : Nat) (s s' : Store) : Prop where
  publications : s'.publications = s.publications
  eventCursors : s'.tables.eventCursors = s.tables.eventCursors
  eventOrdering : s'.tables.eventOrdering = s.tables.eventOrdering
  cursors : forall cursor, cursor ∈ s'.tables.cursors ->
    cursor ∈ s.tables.cursors ∨ cursor.snapshotGeneration = generation
  cuts : forall cut, cut ∈ s'.tables.cuts ->
    cut ∈ s.tables.cuts ∨ cut.snapshotGeneration = generation
  retirements : forall retirement, retirement ∈ s'.retirements -> retirement ∈ s.retirements ∨
      retirement.snapshotGeneration = some generation
  kept : forall row, row ∈ s.jobs.rows ->
    exists row', row' ∈ s'.jobs.rows ∧ RowStaged generation s' row row'
  origin : forall row', row' ∈ s'.jobs.rows ->
    (exists row, row ∈ s.jobs.rows ∧ RowStaged generation s' row row') ∨
      row'.workflowManaged = true ∧ TaskStaged generation s' row'.spec.projectId row'.spec.taskId

section Staged

variable {generation : Nat} {s s' s'' : Store}

theorem RowStaged.refl (row : WorkflowJob) : RowStaged generation s row row where
  jobId := rfl
  spec := rfl
  exhausted := id
  standing := id
  managed := id
  adopted := Or.inl

variable {row row' : WorkflowJob}

theorem RowStaged.unmanaged (h : RowStaged generation s' row row')
    (hunmanaged : row'.workflowManaged = false) :
    row.workflowManaged = false := by
  rw [Bool.eq_false_iff] at hunmanaged ⊢
  exact fun hmanaged => hunmanaged (h.managed hmanaged)

theorem RowStaged.unwithdrawn (h : RowStaged generation s' row row')
    (hstanding : Store.isWithdrawn row' = false) :
    Store.isWithdrawn row = false := by
  rw [Bool.eq_false_iff] at hstanding ⊢
  exact fun hwithdrawn => hstanding (h.standing hwithdrawn)

theorem RowStaged.replacement (h : RowStaged generation s' row row')
    (hreplacement : Store.isReplacement row' = true) :
    Store.isReplacement row = true := by
  unfold Store.isReplacement at hreplacement ⊢
  rw [Bool.not_eq_true'] at hreplacement ⊢
  exact h.unwithdrawn hreplacement

theorem Staged.taskStaged {projectId taskId : String}
    (h : Staged generation s s') (htask : TaskStaged generation s projectId taskId) :
    TaskStaged generation s' projectId taskId := by
  intro cursor hcursor hproject hid
  rcases h.cursors cursor hcursor with hold | hstaged
  · exact htask cursor hold hproject hid
  · exact hstaged

theorem RowStaged.trans {first second third : WorkflowJob} (hstaged : Staged generation s s')
    (h : RowStaged generation s first second)
    (h' : RowStaged generation s' second third) :
    RowStaged generation s' first third where
  jobId := h'.jobId.trans h.jobId
  spec := h'.spec.trans h.spec
  exhausted := fun hstate => h'.exhausted (h.exhausted hstate)
  standing := fun hwithdrawn => h'.standing (h.standing hwithdrawn)
  managed := fun hmanaged => h'.managed (h.managed hmanaged)
  adopted := by
    intro hmanaged
    rcases h'.adopted hmanaged with hsecond | htask
    · rcases h.adopted hsecond with hfirst | htask
      · exact .inl hfirst
      · rw [← h'.spec] at htask
        exact .inr (hstaged.taskStaged htask)
    · exact .inr htask

theorem Staged.refl (s : Store) : Staged generation s s where
  publications := rfl
  eventCursors := rfl
  eventOrdering := rfl
  cursors := fun _ => Or.inl
  cuts := fun _ => Or.inl
  retirements := fun _ => Or.inl
  kept := fun row hrow => ⟨row, hrow, RowStaged.refl row⟩
  origin := fun row hrow => Or.inl ⟨row, hrow, RowStaged.refl row⟩

theorem Staged.trans (h : Staged generation s s') (h' : Staged generation s' s'') :
    Staged generation s s'' where
  publications := h'.publications.trans h.publications
  eventCursors := h'.eventCursors.trans h.eventCursors
  eventOrdering := h'.eventOrdering.trans h.eventOrdering
  cursors := by
    intro cursor hcursor
    rcases h'.cursors cursor hcursor with hold | hstaged
    · exact h.cursors cursor hold
    · exact .inr hstaged
  cuts := by
    intro cut hcut
    rcases h'.cuts cut hcut with hold | hstaged
    · exact h.cuts cut hold
    · exact .inr hstaged
  retirements := by
    intro retirement hretirement
    rcases h'.retirements retirement hretirement with hold | hstaged
    · exact h.retirements retirement hold
    · exact .inr hstaged
  kept := by
    intro row hrow
    rcases h.kept row hrow with ⟨middle, hmiddle, hfirst⟩
    rcases h'.kept middle hmiddle with ⟨row', hrow', hsecond⟩
    exact ⟨row', hrow', hfirst.trans h' hsecond⟩
  origin := by
    intro row' hrow'
    rcases h'.origin row' hrow' with ⟨middle, hmiddle, hsecond⟩ | hinserted
    · rcases h.origin middle hmiddle with ⟨row, hrow, hfirst⟩ | ⟨hmanaged, htask⟩
      · exact .inl ⟨row, hrow, hfirst.trans h' hsecond⟩
      · refine .inr ⟨hsecond.managed hmanaged, ?_⟩
        rw [hsecond.spec]
        exact h'.taskStaged htask
    · exact .inr hinserted

/-!
# Primitive staged writes
-/

theorem Staged.of_jobs (hjobs : s'.jobs = s.jobs) (hpublications : s'.publications = s.publications)
    (heventCursors : s'.tables.eventCursors = s.tables.eventCursors)
    (heventOrdering : s'.tables.eventOrdering = s.tables.eventOrdering)
    (hcursors : forall cursor, cursor ∈ s'.tables.cursors ->
      cursor ∈ s.tables.cursors ∨ cursor.snapshotGeneration = generation)
    (hcuts : forall cut, cut ∈ s'.tables.cuts ->
      cut ∈ s.tables.cuts ∨ cut.snapshotGeneration = generation)
    (hretirements : forall retirement, retirement ∈ s'.retirements -> retirement ∈ s.retirements ∨
        retirement.snapshotGeneration = some generation) :
    Staged generation s s' where
  publications := hpublications
  eventCursors := heventCursors
  eventOrdering := heventOrdering
  cursors := hcursors
  cuts := hcuts
  retirements := hretirements
  kept := fun row hrow => ⟨row, hjobs ▸ hrow, RowStaged.refl row⟩
  origin := fun row hrow => Or.inl ⟨row, hjobs ▸ hrow, RowStaged.refl row⟩

theorem Staged.appendEvent (row : WorkflowJob) (event : LoggedEvent) (now : Int) :
    Staged generation s (s.appendEvent row event now) :=
  Staged.of_jobs rfl rfl rfl rfl (fun _ => Or.inl) (fun _ => Or.inl) (fun _ => Or.inl)

theorem Staged.cursorTable {f : ScheduleTables -> ScheduleTables}
    (heventCursors : (f s.tables).eventCursors = s.tables.eventCursors)
    (heventOrdering : (f s.tables).eventOrdering = s.tables.eventOrdering)
    (hcuts : (f s.tables).cuts = s.tables.cuts)
    (hcursors : forall cursor, cursor ∈ (f s.tables).cursors ->
      cursor ∈ s.tables.cursors ∨ cursor.snapshotGeneration = generation) :
    Staged generation s (s.withTables f) :=
  Staged.of_jobs rfl rfl heventCursors heventOrdering hcursors
    (fun _ hcut => Or.inl (hcuts ▸ hcut)) (fun _ => Or.inl)

theorem Staged.retire {retirement : JobRetirement}
    (hsnapshot : retirement.snapshotGeneration = some generation) :
    Staged generation s (s.retire retirement) := by
  refine Staged.of_jobs rfl rfl rfl rfl (fun _ => Or.inl) (fun _ => Or.inl) ?_
  intro known hknown
  rcases List.mem_append.mp hknown with hold | hnew
  · exact .inl (List.mem_filter.mp hold).left
  · rw [List.mem_singleton] at hnew
    exact .inr (hnew ▸ hsnapshot)

theorem Staged.act {action : RowAction} {row : WorkflowJob}
    (hrow : s.jobs.find? row.jobId = some row)
    (hstaged : RowStaged generation (s.act row.jobId action) row (action.apply row)) :
    Staged generation s (s.act row.jobId action) where
  publications := rfl
  eventCursors := rfl
  eventOrdering := rfl
  cursors := fun _ => Or.inl
  cuts := fun _ => Or.inl
  retirements := fun _ => Or.inl
  kept := by
    intro old hold
    refine ⟨_, JobTable.mem_modify.mpr ⟨old, hold, rfl⟩, ?_⟩
    unfold JobTable.update
    split
    · rename_i hid
      have heq := JobTable.eq_of_jobId_eq hold (JobTable.mem_of_find? hrow).left hid
      rw [heq]
      exact hstaged
    · exact RowStaged.refl old
  origin := by
    intro row' hrow'
    rcases JobTable.mem_modify.mp hrow' with ⟨old, hold, hupdate⟩
    refine .inl ⟨old, hold, ?_⟩
    rw [← hupdate]
    unfold JobTable.update
    split
    · rename_i hid
      have heq := JobTable.eq_of_jobId_eq hold (JobTable.mem_of_find? hrow).left hid
      rw [heq]
      exact hstaged
    · exact RowStaged.refl old

theorem Staged.insert {row : WorkflowJob} (hfresh : row.jobId ∉ s.jobs.rows.map WorkflowJob.jobId)
    (hmanaged : row.workflowManaged = true)
    (htask : TaskStaged generation s row.spec.projectId row.spec.taskId) :
    Staged generation s { s with jobs := s.jobs.insert row hfresh } where
  publications := rfl
  eventCursors := rfl
  eventOrdering := rfl
  cursors := fun _ => Or.inl
  cuts := fun _ => Or.inl
  retirements := fun _ => Or.inl
  kept := fun old hold =>
    ⟨old, List.mem_append_left [row] hold, RowStaged.refl old⟩
  origin := by
    intro row' hrow'
    rcases List.mem_append.mp hrow' with hold | hnew
    · exact .inl ⟨row', hold, RowStaged.refl row'⟩
    · rw [List.mem_singleton] at hnew
      rw [hnew]
      exact .inr ⟨hmanaged, htask⟩

end Staged

/-!
# Staging operations
-/

namespace Store

variable {generation : Nat} {s s' : Store}

theorem Enqueued.staged {spec : WorkflowJobSpec} {row : WorkflowJob} {created : Bool}
    (htask : TaskStaged generation s spec.projectId spec.taskId)
    (h : Enqueued s spec true s' row created) :
    Staged generation s s' := by
  cases h with
  | replayed => exact Staged.refl s
  | @managed existing hmem hspec =>
    apply Staged.act (JobTable.find?_of_mem hmem)
    constructor
    · rfl
    · rfl
    · exact id
    · exact id
    · exact fun _ => rfl
    · intro _
      rw [← hspec] at htask
      exact .inr htask
  | inserted hfresh =>
    exact (Staged.insert hfresh rfl htask).trans (Staged.appendEvent _ _ _)

variable {specs : List (WorkflowJobSpec × String)} {now : Int}

theorem enqueueEach_staged {projectId taskId : String} {written : List (String × Bool)}
    (htask : TaskStaged generation s projectId taskId) (hspecs : forall item, item ∈ specs ->
      item.1.projectId = projectId ∧ item.1.taskId = taskId)
    (h : s.enqueueEach specs now = .ok (s', written)) :
    Staged generation s s' := by
  -- The loop relation carries the task's staged cursor from one spec to the next.
  have hloop := foldlM_relation
    (R := fun a b : Store × List (String × Bool) =>
      TaskStaged generation a.1 projectId taskId -> Staged generation a.1 b.1)
    (fun a _ => Staged.refl a.1)
    (fun a b c hab hbc htask =>
      (hab htask).trans (hbc ((hab htask).taskStaged htask)))
    (fun acc item acc' hitem hbody => ?_) h
  · exact hloop htask
  · intro htask
    rw [bind_eq_ok] at hbody
    rcases hbody with ⟨⟨middle, row, created⟩, henqueue, hbody⟩
    cases hbody
    apply (enqueueLocked_eq_ok henqueue).staged
    rw [(hspecs item hitem).left, (hspecs item hitem).right]
    exact htask

variable {rows : List WorkflowJob}

theorem supersedeEach_staged (replacement message : String) (now : Int) (hselects : s.Selects rows)
    (hactive : forall row, row ∈ rows -> row.isActive = true) :
    Staged generation s (s.actEach rows (supersedePlan replacement message now) now) := by
  apply actEach_relation Staged.refl (fun _ _ _ => Staged.trans) _ _ hselects
  · intro s row action event hrow hfound hplan
    apply Staged.act hfound
    unfold supersedePlan at hplan
    split at hplan
    · cases hplan
    · cases hplan
      constructor
      · rfl
      · rfl
      · intro hstate
        have hrowActive := hactive row hrow
        simp [WorkflowJob.isActive, hstate, WorkflowJobState.isActive] at hrowActive
      · exact fun _ => rfl
      · exact id
      · exact .inl
  · intro s row event
    exact Staged.appendEvent _ _ _

theorem upsertCursor_staged (projectId taskId revision jobGeneration : String) (now : Int) :
    Staged generation s
      (s.upsertCursor projectId taskId revision jobGeneration generation now) := by
  unfold upsertCursor
  apply Staged.cursorTable rfl rfl rfl
  intro cursor hcursor
  rcases List.mem_append.mp hcursor with hold | hnew
  · exact .inl (List.mem_filter.mp hold).left
  · rw [List.mem_singleton] at hnew
    exact .inr (by rw [hnew])

theorem materializeCursor_staged (projectId taskId jobGeneration : String) (now : Int) :
    Staged generation s (s.materializeCursor projectId taskId jobGeneration generation now) := by
  apply Staged.cursorTable rfl rfl rfl
  intro cursor hcursor
  rcases List.mem_map.mp hcursor with ⟨known, hknown, hwritten⟩
  rw [← hwritten]
  split
  · rename_i hmatches
    exact .inr hmatches.right.right.left
  · exact .inl hknown

theorem dropCursors_staged (drop : WorkflowScheduleCursor -> Bool) :
    Staged generation s (s.dropCursors drop) := by
  apply Staged.cursorTable rfl rfl rfl
  intro cursor hcursor
  exact .inl (List.mem_filter.mp hcursor).left

theorem recordCut_staged {cut : RetirementAuthorityCut}
    (hsnapshot : cut.snapshotGeneration = generation)
    (h : s.recordCut cut = .ok s') :
    Staged generation s s' := by
  unfold recordCut at h
  split at h
  · cases h
    refine Staged.of_jobs rfl rfl rfl rfl (fun _ => Or.inl) ?_ (fun _ => Or.inl)
    intro known hknown
    rcases List.mem_append.mp hknown with hold | hnew
    · exact .inl hold
    · rw [List.mem_singleton] at hnew
      exact .inr (hnew ▸ hsnapshot)
  · split at h
    · cases h
      exact Staged.refl s
    · cases h

theorem retireEach_staged {retirement : JobRetirement}
    (hsnapshot : retirement.snapshotGeneration = some generation) :
    Staged generation s (s.retireEach rows retirement) := by
  apply foldl_relation Staged.refl (fun _ _ _ => Staged.trans)
  intro s row _
  exact Staged.retire hsnapshot

variable {projectId taskId revision : String}

theorem recordJobRetirementsLocked_staged {kind : AuthorityKind} {workflowManaged : Option Bool}
    {excluded : List String} {count : Nat}
    (h : s.recordJobRetirementsLocked projectId taskId kind revision
      (some generation) workflowManaged excluded now = .ok (s', count)) :
    Staged generation s s' := by
  unfold recordJobRetirementsLocked at h
  rw [bind_eq_ok] at h
  rcases h with ⟨cutGeneration, _, h⟩
  dsimp only at h
  split at h
  · cases h
    exact Staged.refl s
  · rename_i hnone _
    cases hnone
  · rename_i snapshot hsome _
    cases hsome
    rw [bind_eq_ok] at h
    rcases h with ⟨cut, hcut, h⟩
    cases h
    exact (recordCut_staged rfl hcut).trans (retireEach_staged rfl)

variable {cursor : WorkflowScheduleCursor}

/-- The primary key leaves no other cursor of the task. -/
theorem taskStaged_of_findCursor {projectId taskId : String} (hunique : CursorsUnique s.tables)
    (hcursor : s.findCursor projectId taskId = some cursor)
    (hsnapshot : cursor.snapshotGeneration = generation) :
    TaskStaged generation s projectId taskId := by
  intro known hknown hproject htask
  have hfound := List.find?_some hcursor
  simp only [decide_eq_true_eq] at hfound
  have hmem := List.mem_of_find?_eq_some hcursor
  have hkey : (known.projectId, known.taskId) = (cursor.projectId, cursor.taskId) := by
    rw [hproject, htask, hfound.left, hfound.right]
  have heq := List.inj_on_of_nodup_map hunique hknown hmem hkey
  rw [heq]
  exact hsnapshot

variable {recordAuthorityCut : Bool}

theorem recordManagedCut_staged {kind : AuthorityKind} {jobIds : List String}
    (h : s.recordManagedCut projectId taskId revision generation kind jobIds
      recordAuthorityCut now = .ok s') :
    Staged generation s s' := by
  rcases recordManagedCut_eq_ok h with rfl | ⟨count, hrecorded⟩
  · exact Staged.refl s'
  · exact recordJobRetirementsLocked_staged hrecorded

variable {result : ScheduleWrite}
variable {projectId taskId jobGeneration : String}

theorem reconcileMaterialized_staged {reason : String}
    (htask : TaskStaged generation s projectId taskId) (hspecs : forall item, item ∈ specs ->
      item.1.projectId = projectId ∧ item.1.taskId = taskId)
    (h : s.reconcileMaterialized projectId taskId jobGeneration generation
      cursor specs recordAuthorityCut reason now = .ok (s', result)) :
    Staged generation s s' := by
  rcases reconcileMaterialized_eq_ok h with ⟨enqueued, written, henqueued, hrecorded⟩
  have hfenced : Staged generation enqueued (enqueued.actEach
      (enqueued.displacedRows projectId taskId jobGeneration
        (specs.map (fun item => item.1.idempotencyKey)))
      (supersedePlan jobGeneration reason now) now) := by
    apply supersedeEach_staged _ _ _ (selects_displacedRows _ _ _ _ _)
    intro row hrow
    have hkeep := (List.mem_filter.mp hrow).right
    simp only [decide_eq_true_eq] at hkeep
    exact hkeep.right.left
  exact ((enqueueEach_staged htask hspecs henqueued).trans hfenced).trans
    ((materializeCursor_staged _ _ _ _).trans (recordManagedCut_staged hrecorded))

theorem reconcileSchedule_staged
    {authorityKind : Option AuthorityKind} {reason : String} (hunique : CursorsUnique s.tables)
    (h : s.reconcileSchedule projectId taskId generation jobGeneration specs
      recordAuthorityCut authorityKind reason now = .ok (s', result)) :
    Staged generation s s' := by
  rcases reconcileSchedule_eq_ok h with
    ⟨rfl, _⟩ | ⟨cursor, hcursor, hcurrent, hspecs, hbody⟩
  · exact Staged.refl s'
  · have htask := taskStaged_of_findCursor hunique hcursor hcurrent.right.left
    exact reconcileMaterialized_staged htask hspecs hbody

theorem recordLifecycleFinalAuthority_staged {projectId taskId status : String} {count : Nat}
    (h : s.recordLifecycleFinalAuthority projectId taskId status generation now = .ok (s', count)) :
    Staged generation s s' := by
  rcases recordLifecycleFinalAuthority_eq_ok h with rfl | hrecorded
  · exact Staged.refl s'
  · exact recordJobRetirementsLocked_staged hrecorded

theorem retireAbsentTask_staged (projectId : String) (now : Int)
    (acc : Store × Nat × Nat) (taskId : String) :
    Staged generation acc.1 (retireAbsentTask generation projectId now acc taskId).1 := by
  have hfenced : Staged generation acc.1 (acc.1.actEach (acc.1.activeManagedRows projectId taskId)
      (supersedePlan ("snapshot:" ++ toString generation)
        "task absent from newer authoritative workflow snapshot" now) now) :=
    supersedeEach_staged _ _ _ (selects_activeManagedRows acc.1 projectId taskId)
      (fun row hrow => (mem_activeManagedRows.mp hrow).right.right)
  exact hfenced.trans (dropCursors_staged _)

theorem reconcileSnapshotMembership_staged {projects : List String}
    {expected : List (String × String)} {evaluated : Option (List (String × String))}
    {result : MembershipWrite}
    (h : s.reconcileSnapshotMembership generation projects expected evaluated
      now = .ok (s', result)) :
    Staged generation s s' :=
  reconcileSnapshotMembership_relation Staged.refl (fun _ _ _ => Staged.trans)
    (fun projectId acc taskId => retireAbsentTask_staged projectId now acc taskId)
    (fun _ _ _ => Staged.cursorTable rfl rfl rfl (fun _ => Or.inl)) h

end Store
end WorkflowJobs
end Oompah
