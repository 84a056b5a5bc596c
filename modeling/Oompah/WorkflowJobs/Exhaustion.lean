import Oompah.WorkflowJobs.Staging

/-!
# Current exhausted jobs under staging

Staged writes of an unpublished generation complete no retirement proof and no
replacement proof of an exhausted job, so every current exhausted job stays
current until the generation is published.
-/

namespace Oompah
namespace WorkflowJobs

open Foundation

/-!
# Proofs that staging cannot complete

Each proof of the exhaustion predicate that holds after staged writes held
before them.
-/

namespace Staged

variable {generation : Nat} {s s' : Store}

theorem isPublished (h : Staged generation s s') (snapshot : Nat) :
    s'.isPublished snapshot = s.isPublished snapshot := by
  unfold Store.isPublished
  rw [h.publications]

variable {retirement : JobRetirement}

theorem publishedSnapshot (h : Staged generation s s')
    (hpublished : s'.publishedSnapshot retirement = true) :
    s.publishedSnapshot retirement = true := by
  unfold Store.publishedSnapshot at hpublished ⊢
  cases hsnapshot : retirement.snapshotGeneration with
  | none => simp [hsnapshot] at hpublished
  | some snapshot =>
    simp only [hsnapshot, Option.any_some] at hpublished ⊢
    rw [← h.isPublished]
    exact hpublished

variable {projectId taskId : String}

theorem unmanaged_origin (h : Staged generation s s')
    {row' : WorkflowJob} (hrow' : row' ∈ s'.taskRows projectId taskId)
    (hunmanaged : row'.workflowManaged = false) :
    exists row, row ∈ s.taskRows projectId taskId ∧
      RowStaged generation s' row row' ∧ row.workflowManaged = false := by
  rcases Store.mem_taskRows.mp hrow' with ⟨hmem, hproject, htask⟩
  rcases h.origin row' hmem with ⟨row, hrow, hstaged⟩ | ⟨hmanaged, _⟩
  · rw [hstaged.spec] at hproject htask
    exact ⟨row, Store.mem_taskRows.mpr ⟨hrow, hproject, htask⟩, hstaged,
      hstaged.unmanaged hunmanaged⟩
  · rw [hmanaged] at hunmanaged
    cases hunmanaged

variable {projectId taskId jobGeneration : String}

theorem hasEventHandoff (h : Staged generation s s')
    (hhandoff : s'.hasEventHandoff projectId taskId jobGeneration = true) :
    s.hasEventHandoff projectId taskId jobGeneration = true := by
  unfold Store.hasEventHandoff at hhandoff ⊢
  rw [h.eventCursors] at hhandoff
  rw [List.any_eq_true] at hhandoff ⊢
  rcases hhandoff with ⟨cursor, hcursor, hnames⟩
  simp only [decide_eq_true_eq] at hnames
  rcases hnames with ⟨hproject, htask, hgeneration, hrows⟩
  rw [List.any_eq_true] at hrows
  rcases hrows with ⟨row', hrow', hexact⟩
  simp only [decide_eq_true_eq, Bool.not_eq_true] at hexact
  rcases hexact with ⟨hlane, hnamed, hunmanaged, hstanding⟩
  rcases h.unmanaged_origin hrow' hunmanaged with
    ⟨row, hrow, hstaged, hbefore⟩
  refine ⟨cursor, hcursor, ?_⟩
  simp only [decide_eq_true_eq]
  refine ⟨hproject, htask, hgeneration, ?_⟩
  rw [List.any_eq_true]
  refine ⟨row, hrow, ?_⟩
  rw [hstaged.spec] at hlane hnamed
  simp only [decide_eq_true_eq, Bool.not_eq_true]
  exact ⟨hlane, hnamed, hbefore, hstaged.unwithdrawn hstanding⟩

theorem hasTerminalAuditHandoff (h : Staged generation s s')
    (hhandoff : s'.hasTerminalAuditHandoff projectId taskId jobGeneration = true) :
    s.hasTerminalAuditHandoff projectId taskId jobGeneration = true := by
  unfold Store.hasTerminalAuditHandoff at hhandoff ⊢
  rw [List.any_eq_true] at hhandoff ⊢
  rcases hhandoff with ⟨row', hrow', hexact⟩
  simp only [Bool.and_eq_true, Bool.not_eq_true', decide_eq_true_eq] at hexact
  rcases hexact with ⟨⟨⟨hunmanaged, haction⟩, hlane⟩, hnamed⟩
  rcases h.unmanaged_origin hrow' hunmanaged with
    ⟨row, hrow, hstaged, hbefore⟩
  rw [hstaged.spec] at haction hlane hnamed
  refine ⟨row, hrow, ?_⟩
  simp [hbefore, haction, hlane, hnamed]

/-- A cut of a published snapshot was not staged by an unpublished one. -/
theorem hasCut (h : Staged generation s s') (hunpublished : s.isPublished generation = false)
    {admits : Option String -> Bool} (hpublished : s.publishedSnapshot retirement = true)
    (hcut : s'.hasCut retirement admits = true) :
    s.hasCut retirement admits = true := by
  unfold Store.hasCut at hcut ⊢
  rw [List.any_eq_true] at hcut ⊢
  rcases hcut with ⟨cut, hmem, hmatches⟩
  rcases h.cuts cut hmem with hold | hstaged
  · exact ⟨cut, hold, hmatches⟩
  · simp only [decide_eq_true_eq] at hmatches
    have hsnapshot := hmatches.right.right.left
    simp [Store.publishedSnapshot, hsnapshot, hstaged, hunpublished] at hpublished

variable {job job' : WorkflowJob}

/-- A retirement recorded before staging proves no more than it did. -/
theorem durableRetirementProof (h : Staged generation s s')
    (hunpublished : s.isPublished generation = false) (hstaged : RowStaged generation s' job job')
    (hmanaged : retirement.authorityKind.isManaged = true -> job.workflowManaged = true)
    (hproof : s'.durableRetirementProof retirement job' = true) :
    s.durableRetirementProof retirement job = true := by
  unfold Store.durableRetirementProof at hproof ⊢
  cases hkind : retirement.authorityKind with
  | eventHandoff =>
    simp only [hkind, Bool.and_eq_true, Bool.not_eq_true'] at hproof ⊢
    rcases hproof with ⟨⟨hsnapshot, hunmanaged⟩, hhandoff⟩
    exact ⟨⟨hsnapshot, hstaged.unmanaged hunmanaged⟩, h.hasEventHandoff hhandoff⟩
  | terminalAuditHandoff =>
    simp only [hkind, Bool.and_eq_true] at hproof ⊢
    exact ⟨hproof.left, h.hasTerminalAuditHandoff hproof.right⟩
  | managedDecision | managedZeroJob =>
    simp only [hkind, Bool.and_eq_true] at hproof ⊢
    rcases hproof with ⟨⟨_, hpublished⟩, hcut⟩
    have hbefore := h.publishedSnapshot hpublished
    rw [hstaged.spec] at hcut
    exact ⟨⟨hmanaged (by rw [hkind]; rfl), hbefore⟩, h.hasCut hunpublished hbefore hcut⟩
  | lifecycleFinal =>
    simp only [hkind, Bool.and_eq_true] at hproof ⊢
    rcases hproof with ⟨⟨hrevision, hpublished⟩, hcut⟩
    have hbefore := h.publishedSnapshot hpublished
    exact ⟨⟨hrevision, hbefore⟩, h.hasCut hunpublished hbefore hcut⟩

/-- A retirement row of an unpublished snapshot proves nothing. -/
theorem unproved (h : Staged generation s s') (hunpublished : s.isPublished generation = false)
    {job : WorkflowJob} (hsnapshot : retirement.snapshotGeneration = some generation) :
    s'.durableRetirementProof retirement job = false := by
  have hmarker : s'.isPublished generation = false :=
    (h.isPublished generation).trans hunpublished
  unfold Store.durableRetirementProof
  cases retirement.authorityKind <;> simp [Store.publishedSnapshot, hsnapshot, hmarker]

theorem hasDurableRetirement (h : Staged generation s s')
    (hunpublished : s.isPublished generation = false)
    (hsound : forall retirement, retirement ∈ s.retirements -> RetirementSound s retirement)
    (hjob : job ∈ s.jobs.rows)
    (hstaged : RowStaged generation s' job job')
    (hretired : s'.hasDurableRetirement job' = true) :
    s.hasDurableRetirement job = true := by
  unfold Store.hasDurableRetirement at hretired ⊢
  rw [List.any_eq_true] at hretired ⊢
  rcases hretired with ⟨retirement, hmem, hproof⟩
  simp only [decide_eq_true_eq] at hproof
  rcases hproof with ⟨hid, hproject, htask, hproof⟩
  rw [hstaged.jobId] at hid
  rw [hstaged.spec] at hproject htask
  rcases h.retirements retirement hmem with hold | hnew
  · refine ⟨retirement, hold, ?_⟩
    simp only [decide_eq_true_eq]
    refine ⟨hid, hproject, htask, ?_⟩
    apply h.durableRetirementProof hunpublished hstaged _ hproof
    intro hkind
    rcases hsound retirement hold with ⟨row, hrow, _, _, hmanaged⟩
    rw [hid, JobTable.find?_of_mem hjob] at hrow
    cases hrow
    exact hmanaged hkind
  · rw [h.unproved hunpublished hnew] at hproof
    cases hproof

/-- A task with a published cursor adopted no row while staging. -/
theorem managed_of_published (h : Staged generation s s')
    (hunpublished : s.isPublished generation = false) {cursor : WorkflowScheduleCursor}
    (hcursor : cursor ∈ s'.tables.cursors)
    (hproject : cursor.projectId = projectId) (htask : cursor.taskId = taskId)
    (hpublished : s'.isPublished cursor.snapshotGeneration = true) :
    ¬ TaskStaged generation s' projectId taskId := by
  intro hstaged
  rw [hstaged cursor hcursor hproject htask, h.isPublished, hunpublished] at hpublished
  cases hpublished

theorem replacedByCursor (h : Staged generation s s')
    (hunpublished : s.isPublished generation = false) (hstaged : RowStaged generation s' job job')
    (hreplaced : s'.replacedByCursor job' = true) :
    s.replacedByCursor job = true := by
  unfold Store.replacedByCursor at hreplaced ⊢
  rw [Bool.and_eq_true, List.any_eq_true] at hreplaced ⊢
  rcases hreplaced with ⟨hmanaged, cursor, hcursor, hexact⟩
  simp only [decide_eq_true_eq] at hexact
  rcases hexact with
    ⟨hproject, htask, hpublished, hother, hmaterialized, hrows⟩
  have hsettled := h.managed_of_published hunpublished hcursor hproject htask hpublished
  rw [List.any_eq_true] at hrows
  rcases hrows with ⟨row', hrow', hreplacement⟩
  simp only [decide_eq_true_eq] at hreplacement
  rcases hreplacement with ⟨hmanaged', hnamed, hstanding⟩
  rcases Store.mem_taskRows.mp hrow' with ⟨hmem', hproject', htask'⟩
  rw [← hproject', ← htask'] at hsettled
  have hcursorBefore : cursor ∈ s.tables.cursors := by
    rcases h.cursors cursor hcursor with hold | hnew
    · exact hold
    · rw [hnew, h.isPublished, hunpublished] at hpublished
      cases hpublished
  rcases h.origin row' hmem' with ⟨row, hrow, hrowStaged⟩ | ⟨_, hadopted⟩
  · have hrowManaged := (hrowStaged.adopted hmanaged').resolve_right hsettled
    rw [hproject', htask'] at hsettled
    have hjobManaged := (hstaged.adopted hmanaged).resolve_right hsettled
    rw [hrowStaged.spec] at hproject' htask' hnamed
    rw [hstaged.spec] at hproject htask hother hproject' htask'
    refine ⟨hjobManaged, cursor, hcursorBefore, ?_⟩
    simp only [decide_eq_true_eq]
    rw [h.isPublished] at hpublished
    refine ⟨hproject, htask, hpublished, hother, hmaterialized, ?_⟩
    rw [List.any_eq_true]
    refine ⟨row, Store.mem_taskRows.mpr ⟨hrow, hproject', htask'⟩, ?_⟩
    simp only [decide_eq_true_eq]
    exact ⟨hrowManaged, hnamed, hrowStaged.replacement hstanding⟩
  · exact absurd hadopted hsettled

theorem hasLaneReplacement (h : Staged generation s s')
    (hstaged : RowStaged generation s' job job') {jobGeneration : String}
    (hreplaced : s'.hasLaneReplacement job' jobGeneration = true) :
    s.hasLaneReplacement job jobGeneration = true := by
  unfold Store.hasLaneReplacement at hreplaced ⊢
  simp only [decide_eq_true_eq] at hreplaced ⊢
  rcases hreplaced with ⟨hother, hrows⟩
  rw [List.any_eq_true] at hrows
  rcases hrows with ⟨row', hrow', hexact⟩
  simp only [decide_eq_true_eq, Bool.not_eq_true] at hexact
  rcases hexact with ⟨hunmanaged, hlane, hnamed, hstanding⟩
  rw [hstaged.spec] at hother hrow' hlane
  rcases h.unmanaged_origin hrow' hunmanaged with
    ⟨row, hrow, hrowStaged, hbefore⟩
  rw [hrowStaged.spec] at hlane hnamed
  refine ⟨hother, ?_⟩
  rw [List.any_eq_true]
  refine ⟨row, hrow, ?_⟩
  simp only [decide_eq_true_eq, Bool.not_eq_true]
  exact ⟨hbefore, hlane, hnamed, hrowStaged.replacement hstanding⟩

theorem laneCursors (h : Staged generation s s') (hstaged : RowStaged generation s' job job') :
    s'.laneCursors job' = s.laneCursors job := by
  unfold Store.laneCursors
  rw [h.eventCursors, hstaged.spec]

theorem replacedByEventCursor (h : Staged generation s s')
    (hstaged : RowStaged generation s' job job')
    (hreplaced : s'.replacedByEventCursor job' = true) :
    s.replacedByEventCursor job = true := by
  unfold Store.replacedByEventCursor at hreplaced ⊢
  rw [h.laneCursors hstaged] at hreplaced
  rw [Bool.and_eq_true, Bool.not_eq_true', List.any_eq_true] at hreplaced ⊢
  rcases hreplaced with ⟨hunmanaged, cursor, hcursor, hlane⟩
  exact ⟨hstaged.unmanaged hunmanaged, cursor, hcursor, h.hasLaneReplacement hstaged hlane⟩

theorem replacedByOrdering (h : Staged generation s s') (hstaged : RowStaged generation s' job job')
    (hreplaced : s'.replacedByOrdering job' = true) :
    s.replacedByOrdering job = true := by
  unfold Store.replacedByOrdering at hreplaced ⊢
  rw [h.laneCursors hstaged, h.eventOrdering] at hreplaced
  rw [Bool.and_eq_true, Bool.and_eq_true, Bool.not_eq_true', List.any_eq_true] at hreplaced ⊢
  rcases hreplaced with ⟨⟨hunmanaged, hempty⟩, ordering, hordering, hexact⟩
  simp only [decide_eq_true_eq] at hexact
  rcases hexact with ⟨hproject, htask, hnamespace, hlane⟩
  rw [hstaged.spec] at hproject htask hnamespace
  refine ⟨⟨hstaged.unmanaged hunmanaged, hempty⟩, ordering, hordering, ?_⟩
  simp only [decide_eq_true_eq]
  exact ⟨hproject, htask, hnamespace, h.hasLaneReplacement hstaged hlane⟩

/-- A current exhausted job is still current after staged writes. -/
theorem currentExhaustion (h : Staged generation s s')
    (hunpublished : s.isPublished generation = false)
    (hsound : forall retirement, retirement ∈ s.retirements -> RetirementSound s retirement)
    (hjob : job ∈ s.jobs.rows)
    (hstaged : RowStaged generation s' job job')
    (hcurrent : s.currentExhaustion job = true) :
    s'.currentExhaustion job' = true := by
  simp only [Store.currentExhaustion, Bool.and_eq_true, decide_eq_true_eq,
    Bool.not_eq_true', Bool.or_eq_false_iff] at hcurrent ⊢
  rcases hcurrent with ⟨hstate, ⟨⟨hretired, hcursor⟩, hevent⟩, hordering⟩
  refine ⟨hstaged.exhausted hstate, ⟨⟨?_, ?_⟩, ?_⟩, ?_⟩
  · rw [Bool.eq_false_iff] at hretired ⊢
    exact fun hproof =>
      hretired (h.hasDurableRetirement hunpublished hsound hjob hstaged hproof)
  · rw [Bool.eq_false_iff] at hcursor ⊢
    exact fun hproof => hcursor (h.replacedByCursor hunpublished hstaged hproof)
  · rw [Bool.eq_false_iff] at hevent ⊢
    exact fun hproof => hevent (h.replacedByEventCursor hstaged hproof)
  · rw [Bool.eq_false_iff] at hordering ⊢
    exact fun hproof => hordering (h.replacedByOrdering hstaged hproof)

end Staged

/-!
# Runs of staging operations
-/

def ScheduleOp.stages (generation : Nat) : ScheduleOp -> Bool
  | .activateSchedule _ _ _ snapshot _ _ _ _ => snapshot = generation
  | .reconcileSchedule _ _ snapshot _ _ _ _ _ _ => snapshot = generation
  | .recordLifecycleFinalAuthority _ _ _ snapshot _ => snapshot = generation

/-- The writes a scan makes under its own generation before it publishes. -/
def Op.stages (generation : Nat) : Op -> Bool
  | .schedule op => op.stages generation
  | .schedulingBatch ops => ops.all (fun op => op.stages generation)
  | .reconcileSnapshotMembership snapshot _ _ _ _ => snapshot = generation
  | _ => false

variable {generation : Nat} {s s' : Store}

theorem ScheduleOp.apply_staged {op : ScheduleOp} {result : OpResult}
    (hunique : CursorsUnique s.tables) (hstages : op.stages generation = true)
    (h : op.apply s = .ok (s', result)) :
    Staged generation s s' := by
  cases op with
  | activateSchedule =>
    simp only [ScheduleOp.stages, decide_eq_true_eq] at hstages
    subst hstages
    rcases map_store_eq_ok h with ⟨_, hok, _⟩
    rcases Store.activateSchedule_eq_ok hok with rfl | ⟨_, rfl⟩
    · exact Staged.refl _
    · exact Store.upsertCursor_staged _ _ _ _ _
  | reconcileSchedule =>
    simp only [ScheduleOp.stages, decide_eq_true_eq] at hstages
    subst hstages
    rcases map_store_eq_ok h with ⟨_, hok, _⟩
    exact Store.reconcileSchedule_staged hunique hok
  | recordLifecycleFinalAuthority =>
    simp only [ScheduleOp.stages, decide_eq_true_eq] at hstages
    subst hstages
    rcases map_store_eq_ok h with ⟨_, hok, _⟩
    exact Store.recordLifecycleFinalAuthority_staged hok

theorem ScheduleOp.apply_cursorsUnique {op : ScheduleOp}
    {result : OpResult} (hunique : CursorsUnique s.tables) (h : op.apply s = .ok (s', result)) :
    CursorsUnique s'.tables := by
  have hwrites := ScheduleOp.apply_writes (p := { specs := fun _ => True }) (fun _ _ => trivial) h
  exact hwrites.cursorsUnique hunique

theorem ScheduleOp.applyBatch_staged {ops : List ScheduleOp} (hunique : CursorsUnique s.tables)
    (hstages : forall op, op ∈ ops -> op.stages generation = true)
    (h : ScheduleOp.applyBatch s ops = .ok s') :
    Staged generation s s' := by
  have hloop := foldlM_relation (R := fun a b : Store => CursorsUnique a.tables ->
      Staged generation a b ∧ CursorsUnique b.tables)
    (fun a ha => ⟨Staged.refl a, ha⟩)
    (fun a b c hab hbc ha =>
      ⟨(hab ha).left.trans (hbc (hab ha).right).left, (hbc (hab ha).right).right⟩)
    (fun a op b hop hbody => ?_) h
  · exact (hloop hunique).left
  · intro ha
    rcases map_eq_ok.mp hbody with ⟨⟨written, result⟩, hok, heq⟩
    cases heq
    exact ⟨ScheduleOp.apply_staged ha (hstages op hop) hok, ScheduleOp.apply_cursorsUnique ha hok⟩

theorem Op.step_staged {checkpoints : List WorkflowSnapshotAuthority}
    {s : Store} {op : Op} (hunique : CursorsUnique s.tables)
    (hstages : op.stages generation = true) :
    Staged generation s (op.step checkpoints s) := by
  unfold Op.step
  split
  · rename_i written hok
    cases op with
    | schedule op => exact ScheduleOp.apply_staged hunique hstages hok
    | schedulingBatch ops =>
      simp only [Op.stages, List.all_eq_true] at hstages
      rcases map_eq_ok.mp hok with ⟨batched, hbatch, heq⟩
      cases heq
      exact ScheduleOp.applyBatch_staged hunique hstages hbatch
    | reconcileSnapshotMembership =>
      simp only [Op.stages, decide_eq_true_eq] at hstages
      subst hstages
      rcases map_store_eq_ok hok with ⟨_, hwritten, _⟩
      exact Store.reconcileSnapshotMembership_staged hwritten
    | _ => cases hstages
  · exact Staged.refl s

theorem staging_run {sys : System} {staging : List Op}
    (hcoherent : Coherent sys.checkpoints sys.store)
    (hstages : forall op, op ∈ staging -> op.stages generation = true) :
    Staged generation sys.store (run System.step sys (staging.map SystemOp.op)).store := by
  induction staging generalizing sys with
  | nil => exact Staged.refl sys.store
  | cons op rest ih =>
    rw [List.map_cons, run_cons, System.step_op]
    have hfirst : Staged generation sys.store (op.step sys.checkpoints sys.store) :=
      Op.step_staged hcoherent.cursors (hstages op (by simp))
    exact hfirst.trans (@ih { sys with store := op.step sys.checkpoints sys.store }
      (hcoherent.step op) (fun other hother => hstages other (by simp [hother])))

/--
From any reachable state, staging under an unpublished generation removes no
job from the current exhausted jobs of any task.
-/
theorem staging_keeps_currentExhausted (ops : List SystemOp) (generation : Nat)
    (hunpublished : (run System.step {} ops).store.isPublished generation = false)
    (staging : List Op)
    (hstages : forall op, op ∈ staging -> op.stages generation = true)
    (projectId taskId : String) (job : WorkflowJob)
    (hcurrent : job ∈ (run System.step {} ops).store.currentExhaustedJobs projectId taskId) :
    exists job', job' ∈ Store.currentExhaustedJobs
        (run System.step {} (ops ++ staging.map SystemOp.op)).store projectId
        taskId ∧
      job'.jobId = job.jobId := by
  have hcoherent := System.coherent_run ops
  rw [run_append]
  have hstaged := staging_run hcoherent hstages
  rcases List.mem_filter.mp hcurrent with ⟨hjob, hexhausted⟩
  rcases Store.mem_taskRows.mp hjob with ⟨hmem, hproject, htask⟩
  rcases hstaged.kept job hmem with ⟨job', hjob', hrow⟩
  refine ⟨job', List.mem_filter.mpr ⟨?_, ?_⟩, hrow.jobId⟩
  · rw [Store.mem_taskRows, hrow.spec]
    exact ⟨hjob', hproject, htask⟩
  · exact hstaged.currentExhaustion hunpublished hcoherent.retirements hmem hrow hexhausted

/-!
# A staged replacement
-/

def replacementSpec : WorkflowJobSpec :=
  { sampleSpec with generation := "revision-2:2", idempotencyKey := "key-2" }

/-- The claimed job fails for good and the next generation is accepted. -/
def exhaustedClaim : List SystemOp :=
  publishedClaim ++ [.op (.fail "job-1" "token-1" .permanent "rejected" false 0 none 4),
      .op .allocateSnapshotGeneration,
      .op (.acceptSnapshotGeneration 2)]

/-- A scan materializes a replacement and cuts the old generation. -/
def stagedReplacement : List Op :=
  [.reconcileSnapshotMembership 2 ["project-1"] [("project-1", "task-1")] none 5,
    .schedule (.activateSchedule "project-1" "task-1" "revision-2" 2 none none [] 5),
    .schedule (.reconcileSchedule "project-1" "task-1" 2 "revision-2:2"
      [(replacementSpec, "job-2")] true none "scheduled" 5)]

theorem stagedReplacement_keeps_exhausted : exists job', job' ∈ Store.currentExhaustedJobs
        (run System.step {} (exhaustedClaim ++ stagedReplacement.map SystemOp.op)).store
        "project-1" "task-1" ∧
      job'.jobId = "job-1" := by
  have hexhausted : exists job,
      job ∈ Store.currentExhaustedJobs (run System.step {} exhaustedClaim).store
        "project-1" "task-1" ∧ job.jobId = "job-1" := by
    decide +kernel
  rcases hexhausted with ⟨job, hcurrent, hid⟩
  rw [← hid]
  exact staging_keeps_currentExhausted exhaustedClaim 2 (by decide +kernel)
    stagedReplacement (by decide) "project-1" "task-1" job hcurrent

/-- Publication is what retires it. -/
example : (run System.step {} (exhaustedClaim ++ stagedReplacement.map SystemOp.op ++
      [.publish 2 (.returned {}) none .committed true 6])).store
      |>.currentExhaustedJobs "project-1" "task-1" |>.isEmpty := by
  decide +kernel

end WorkflowJobs
end Oompah
