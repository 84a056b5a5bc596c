import Oompah.WorkflowJobs.Restore

/-!
# The rearm fence

A rearm appends an event whose sequence exceeds every captured one.  As long as
that event stays in the hot table a restore of an older checkpoint sees it and
leaves the job alone.  Only the archival of lifecycle-final tasks can take the
event away.
-/

namespace Oompah
namespace WorkflowJobs

open Foundation

/-!
# Event sequences
-/

structure EventLedger.Ordered (ledger : EventLedger) : Prop where
  hot : forall event, event ∈ ledger.hot -> event.sequence ≤ ledger.autoincrement
  highwater : ledger.highwater ≤ ledger.autoincrement

namespace EventLedger

theorem Ordered.append {ledger : EventLedger} (h : ledger.Ordered) (event : WorkflowJobEvent) :
    (ledger.append event).Ordered where
  hot := by
    intro appended happended
    rcases List.mem_append.mp happended with hold | hnew
    · have hle := h.hot appended hold
      simp only [EventLedger.append]
      omega
    · rw [List.mem_singleton] at hnew
      rw [hnew]
      exact Nat.le_refl _
  highwater := by
    have hle := h.highwater
    simp only [EventLedger.append]
    omega

theorem foldl_max_le {values : List Nat} {start bound : Nat}
    (hstart : start ≤ bound) (hvalues : forall value, value ∈ values -> value ≤ bound) :
    values.foldl max start ≤ bound := by
  induction values generalizing start with
  | nil => exact hstart
  | cons value rest ih =>
    apply ih
    · exact Nat.max_le.mpr ⟨hstart, hvalues value (by simp)⟩
    · intro other hother
      exact hvalues other (by simp [hother])

theorem Ordered.sequenceMaximum_le {ledger : EventLedger} (h : ledger.Ordered) :
    ledger.sequenceMaximum ≤ ledger.autoincrement := by
  apply Nat.max_le.mpr
  constructor
  · apply foldl_max_le (Nat.zero_le _)
    intro sequence hsequence
    rcases List.mem_map.mp hsequence with ⟨event, hevent, heq⟩
    rw [← heq]
    exact h.hot event hevent
  · exact h.highwater

end EventLedger

/-- The ledger of a later store continues the ledger of an earlier one. -/
structure LedgerAdvances (s s' : Store) : Prop where
  ordered : s.ledger.Ordered -> s'.ledger.Ordered
  autoincrement : s.ledger.autoincrement ≤ s'.ledger.autoincrement

namespace LedgerAdvances

theorem refl (s : Store) : LedgerAdvances s s := ⟨id, Nat.le_refl _⟩

theorem trans {first second third : Store} (h : LedgerAdvances first second)
    (h' : LedgerAdvances second third) :
    LedgerAdvances first third :=
  ⟨fun hordered => h'.ordered (h.ordered hordered), Nat.le_trans h.autoincrement h'.autoincrement⟩

theorem of_write {p : Permit} {s s' : Store}
    (hrelocates : forall before after, p.relocates before after -> Store.Relocation before after)
    (h : Write p s s') :
    LedgerAdvances s s' := by
  cases h with
  | event event =>
    refine ⟨fun hordered => hordered.append event, ?_⟩
    simp only [EventLedger.append]
    omega
  | relocate hrelocated =>
    have hrelocation := hrelocates _ _ hrelocated
    refine ⟨fun hordered => ⟨?_, ?_⟩, Nat.le_of_eq hrelocation.autoincrement.symm⟩
    · intro event hevent
      rw [hrelocation.autoincrement]
      exact hordered.hot event (hrelocation.hot.subset hevent)
    · rw [hrelocation.autoincrement, hrelocation.highwater]
      exact hordered.highwater
  | act => exact ⟨id, Nat.le_refl _⟩
  | insert => exact ⟨id, Nat.le_refl _⟩
  | tables => exact ⟨id, Nat.le_refl _⟩
  | retire => exact ⟨id, Nat.le_refl _⟩
  | dropRetirements => exact ⟨id, Nat.le_refl _⟩
  | fence => exact ⟨id, Nat.le_refl _⟩

end LedgerAdvances

variable {checkpoints : List WorkflowSnapshotAuthority} {s : Store}

theorem Op.permit_relocates {op : Op} {before after : EventLedger}
    (h : (op.permit checkpoints s).relocates before after) :
    Store.Relocation before after := by
  cases op with
  | archiveLifecycleFinalEvents => exact h
  | archiveRollbackEvents => exact h.left
  | pruneArchivedEvents => exact h.left
  | _ => exact h.elim

theorem Op.step_ledger (hsound : CheckpointsSound checkpoints s) (op : Op) :
    LedgerAdvances s (op.step checkpoints s) :=
  (Op.step_writes hsound op).relation LedgerAdvances.refl (fun _ _ _ => LedgerAdvances.trans)
    (fun _ _ => LedgerAdvances.of_write (fun _ _ => Op.permit_relocates))

/-!
# The rearm event
-/

variable {jobId : String}

namespace Store

def isRearm (jobId : String) (bound : Nat) (event : WorkflowJobEvent) : Bool :=
  event.jobId = jobId ∧ event.eventType = "rearmed" ∧ bound < event.sequence

/-- A rearm of the job after the bound is recorded in the hot table. -/
def RearmedHot (jobId : String) (bound : Nat) (s : Store) : Prop :=
  exists event, event ∈ s.ledger.hot ∧ isRearm jobId bound event = true ∧
    exists row, s.jobs.find? jobId = some row ∧
      event.projectId = row.spec.projectId ∧ event.taskId = row.spec.taskId

variable {bound : Nat} {s s' : Store}

theorem RearmedHot.of_kept (hhot : forall event, event ∈ s.ledger.hot ->
      isRearm jobId bound event = true -> event ∈ s'.ledger.hot)
    (hrow : forall row, s.jobs.find? jobId = some row ->
      exists row', s'.jobs.find? jobId = some row' ∧ RowKept row row')
    (h : RearmedHot jobId bound s) :
    RearmedHot jobId bound s' := by
  rcases h with ⟨event, hevent, hrearm, row, hfound, hproject, htask⟩
  rcases hrow row hfound with ⟨row', hfound', hkept⟩
  refine ⟨event, hhot event hevent hrearm, hrearm, row', hfound', ?_, ?_⟩
  · rw [hkept.spec]
    exact hproject
  · rw [hkept.spec]
    exact htask

theorem hot_of_write {p : Permit} (hrelocates : forall before after, p.relocates before after ->
      forall event, event ∈ before.hot -> event.eventType = "rearmed" -> event ∈ after.hot)
    (h : Write p s s') (event : WorkflowJobEvent) (hevent : event ∈ s.ledger.hot)
    (hrearm : isRearm jobId bound event = true) :
    event ∈ s'.ledger.hot := by
  cases h with
  | event appended => exact List.mem_append_left _ hevent
  | relocate hrelocated =>
    have htype : event.eventType = "rearmed" := by
      simp only [isRearm, decide_eq_true_eq] at hrearm
      exact hrearm.right.left
    exact hrelocates _ _ hrelocated event hevent htype
  | act => exact hevent
  | insert => exact hevent
  | tables => exact hevent
  | retire => exact hevent
  | dropRetirements => exact hevent
  | fence => exact hevent

theorem rearmedHot_of_rearm {jobId generation phase reason : String} {now : Int}
    {row result : WorkflowJob} (hbound : bound ≤ s.ledger.autoincrement)
    (hrow : s.jobs.find? jobId = some row) (hterminal : row.isActive = false)
    (h : s.rearmExhaustedJob jobId generation phase reason now = .ok (s', result)) :
    RearmedHot jobId bound s' := by
  rcases rearmExhaustedJob_eq_ok h with ⟨found, hfound, hcases⟩
  rw [hrow] at hfound
  cases hfound
  rcases hcases with ⟨hactive, _⟩ | ⟨_, hs', _⟩
  · rw [hterminal] at hactive
    cases hactive
  · have hid := (JobTable.mem_of_find? hrow).right
    rw [hs']
    refine ⟨_, List.mem_append_right _ (List.mem_singleton.mpr rfl), ?_,
      (RowAction.rearm phase now).apply row, JobTable.find?_modify_self hrow,
      rfl, rfl⟩
    simp only [isRearm, RowAction.apply_jobId, hid, true_and, decide_eq_true_eq]
    exact Nat.lt_succ_of_le hbound

end Store

/-!
# Operations
-/

/-- The archival step moves a rearm of the job after the bound to cold storage. -/
def Op.archivesRearm (jobId : String) (bound : Nat) (s : Store) : Op -> Bool
  | .archiveLifecycleFinalEvents maxTasks maxEvents now =>
    s.ledger.hot.any (fun event => Store.isRearm jobId bound event &&
      event ∉ (s.archiveLifecycleFinalEvents maxTasks maxEvents now).1.ledger.hot)
  | _ => false

theorem Op.hot_of_step {op : Op} {bound : Nat}
    (hsound : CheckpointsSound checkpoints s) (harchives : op.archivesRearm jobId bound s = false) :
    forall event, event ∈ s.ledger.hot -> Store.isRearm jobId bound event = true ->
        event ∈ (op.step checkpoints s).ledger.hot := by
  intro event hevent hrearm
  have hchain : (forall before after, (op.permit checkpoints s).relocates before
        after -> forall event, event ∈ before.hot ->
          event.eventType = "rearmed" -> event ∈ after.hot) ->
      event ∈ (op.step checkpoints s).ledger.hot := by
    intro hrelocates
    exact (Op.step_writes hsound op).invariant (I := fun s => event ∈ s.ledger.hot)
      (fun _ _ hwrite hmem =>
        Store.hot_of_write hrelocates hwrite event hmem hrearm) hevent
  cases op with
  | archiveLifecycleFinalEvents maxTasks maxEvents now =>
    simp only [archivesRearm, List.any_eq_false, Bool.and_eq_true,
      decide_eq_true_eq, not_and, not_not] at harchives
    exact harchives event hevent hrearm
  | archiveRollbackEvents => exact hchain (fun _ _ h => h.right)
  | pruneArchivedEvents =>
    apply hchain
    intro before after hrelocates event hmem _
    rw [hrelocates.right]
    exact hmem
  | _ => exact hchain (fun _ _ h => h.elim)

theorem rearmedHot_step {op : Op} {bound : Nat}
    (hsound : CheckpointsSound checkpoints s) (harchives : op.archivesRearm jobId bound s = false)
    (h : Store.RearmedHot jobId bound s) :
    Store.RearmedHot jobId bound (op.step checkpoints s) :=
  h.of_kept (Op.hot_of_step hsound harchives) (fun _ hrow => (Op.step_writes hsound op).row_kept
      (hsound.capturesKnown op) hrow)

/-!
# The restore
-/

namespace Store

variable {s s' : Store} {authority : WorkflowSnapshotAuthority} {snapshot : Nat}
  {now : Int}

theorem RearmedHot.rearmedAfter {row : WorkflowJob}
    (h : RearmedHot jobId authority.jobEventSequence s)
    (hrow : s.jobs.find? jobId = some row)
    (hcovers : authority.coversRow row = true) :
    s.rearmedAfter authority jobId = true := by
  rcases h with ⟨event, hevent, hrearm, found, hfound, hproject, htask⟩
  rw [hrow] at hfound
  cases hfound
  simp only [isRearm, decide_eq_true_eq] at hrearm
  rcases hrearm with ⟨hid, htype, hsequence⟩
  simp only [Store.rearmedAfter, List.any_eq_true, decide_eq_true_eq]
  refine ⟨event, hevent, hid, htype, hsequence, ?_⟩
  rw [hproject, htask]
  exact hcovers

variable {retirement : JobRetirement}

theorem insertRetirements_mem {retirements : List JobRetirement}
    (h : retirements.foldlM insertRetirement s = .ok s') (hmem : retirement ∈ s'.retirements) :
    retirement ∈ s.retirements ∨ retirement ∈ retirements := by
  induction retirements generalizing s with
  | nil =>
    cases h
    exact .inl hmem
  | cons first rest ih =>
    rw [List.foldlM_cons, bind_eq_ok] at h
    rcases h with ⟨middle, hfirst, hrest⟩
    rw [insertRetirement_eq_ok hfirst] at hrest
    rcases ih hrest with hold | htail
    · rcases List.mem_append.mp hold with hkept | hnew
      · exact .inl (List.mem_filter.mp hkept).left
      · rw [List.mem_singleton] at hnew
        exact .inr (by simp [hnew])
    · exact .inr (by simp [htail])

theorem actEach_retirements (s : Store) (rows : List WorkflowJob)
    (plan : WorkflowJob -> Option (RowAction × Option LoggedEvent)) (now : Int) :
    (s.actEach rows plan now).retirements = s.retirements := by
  induction rows generalizing s with
  | nil => rfl
  | cons row rest ih =>
    rw [actEach_cons, ih]
    unfold actOne
    split <;> rfl

/-- A retirement after a restore was there before or is a captured one. -/
theorem Restored.retirement_mem (h : Restored s authority snapshot now s')
    (hmem : retirement ∈ s'.retirements) :
    retirement ∈ s.retirements ∨ retirement ∈ authority.retirements ∧
        s.rearmedAfter authority retirement.jobId = false := by
  rcases h.retired with ⟨middle, hmiddle, hs'⟩
  rw [hs'] at hmem
  rcases insertRetirements_mem hmiddle hmem with hold | hinserted
  · refine .inl ?_
    have hkept := (List.mem_filter.mp hold).left
    have hsame := (foldl_appendRollbackSummary_kept (s.actEach (s.restoreRows authority)
        (s.restorePlan authority snapshot now) now) snapshot now
      (groupByTask ((s.restoreRows authority).filter (fun row =>
        (s.restorePlan authority snapshot now row).isSome)))).right
    rw [actEach_retirements] at hsame
    exact hsame ▸ hkept
  · rw [List.mem_filter] at hinserted
    exact .inr ⟨hinserted.left, by simpa using hinserted.right⟩

/-- A job whose rearm is still hot keeps its row and stays without a retirement. -/
theorem Restored.keeps_rearmed {row : WorkflowJob} (hsound : AuthoritySound s authority)
    (hcovered : forall retirement, retirement ∈ authority.retirements ->
      authority.covers retirement.projectId retirement.taskId = true)
    (hhot : RearmedHot jobId authority.jobEventSequence s)
    (hrow : s.jobs.find? jobId = some row)
    (h : Restored s authority snapshot now s') :
    s'.jobs.find? jobId = some row ∧ ((forall retirement, retirement ∈ s.retirements ->
          retirement.jobId ≠ jobId) ->
        forall retirement, retirement ∈ s'.retirements -> retirement.jobId ≠ jobId) := by
  rcases JobTable.mem_of_find? hrow with ⟨hmem, hid⟩
  constructor
  · have hfound := h.find? hmem
    rw [hid] at hfound
    rw [hfound]
    have hcases := restoredRow_cases s authority snapshot now row
    generalize s.restoredRow authority snapshot now row = restored at hcases
    cases hcases with
    | kept => rfl
    | captured _ hcovers _ _ hrearmed =>
      rw [hid, hhot.rearmedAfter hrow hcovers] at hrearmed
      cases hrearmed
    | superseded hcovers _ _ hrearmed =>
      rw [hid, hhot.rearmedAfter hrow hcovers] at hrearmed
      cases hrearmed
  · intro habsent retirement hretirement hretirementId
    rcases h.retirement_mem hretirement with hold | ⟨hcaptured, hrearmed⟩
    · exact habsent retirement hold hretirementId
    · rcases hsound.retirements retirement hcaptured with
        ⟨found, hfound, hproject, htask, _⟩
      rw [hretirementId, hrow] at hfound
      cases hfound
      have hcovers := hcovered retirement hcaptured
      rw [← hproject, ← htask] at hcovers
      rw [hretirementId, hhot.rearmedAfter hrow hcovers] at hrearmed
      cases hrearmed

end Store

/-!
# Runs
-/

/-- A run that captures a checkpoint, later rearms a job and goes on. -/
structure RearmRun where
  before : List SystemOp
  projectIds : List String
  identities : List (String × String)
  fullProjectScope : Bool
  between : List SystemOp
  jobId : String
  generation : String
  phase : String
  reason : String
  rearmedAt : Int
  after : List SystemOp

namespace RearmRun

def authority (r : RearmRun) : WorkflowSnapshotAuthority :=
  (run System.step {} r.before).store.captureSnapshotAuthority r.projectIds
    r.identities r.fullProjectScope

def captured (r : RearmRun) : System :=
  (run System.step {} r.before).step (.capture r.projectIds r.identities r.fullProjectScope)

def rearming (r : RearmRun) : System :=
  run System.step r.captured r.between

def rearm (r : RearmRun) : Op :=
  .rearmExhaustedJob r.jobId r.generation r.phase r.reason r.rearmedAt

def rearmed (r : RearmRun) : System :=
  r.rearming.step (.op r.rearm)

def restoring (r : RearmRun) : System :=
  run System.step r.rearmed r.after

/-- The call finds a terminal job and succeeds. -/
def rearms (r : RearmRun) : Bool :=
  (r.rearming.store.jobs.find? r.jobId).any (fun row => !row.isActive) &&
    (r.rearm.apply r.rearming.checkpoints r.rearming.store).isOk

/-- No archival after the rearm takes its event out of the hot table. -/
abbrev KeepsEvent (r : RearmRun) : Prop :=
  Guarded System.step
    (System.Permitted (fun _ s op =>
      op.archivesRearm r.jobId r.authority.jobEventSequence s = false))
    r.rearmed r.after

/-- The checkpoint is kept and the ledger continues the captured one. -/
structure Follows (r : RearmRun) (checkpoints : List WorkflowSnapshotAuthority)
    (s : Store) : Prop where
  kept : r.authority ∈ checkpoints
  ordered : s.ledger.Ordered
  bound : r.authority.jobEventSequence ≤ s.ledger.autoincrement

theorem before_ordered (r : RearmRun) : Coherent (run System.step {} r.before).checkpoints
        (run System.step {} r.before).store ∧
      (run System.step {} r.before).store.ledger.Ordered := by
  refine System.permitted_run (I := fun _ s => s.ledger.Ordered) ?_ ?_ ?_ ?_ ?_
    (System.unrestricted _ _)
  · intro checkpoints s op hcoherent hordered _
    exact (Op.step_ledger hcoherent.checkpoints op).ordered hordered
  · exact fun _ _ _ _ _ hordered => hordered
  · exact fun _ _ _ _ hordered => hordered
  · exact Coherent.empty
  · exact ⟨by simp, by simp⟩

theorem capture_bound (r : RearmRun) : r.authority.jobEventSequence ≤
      (run System.step {} r.before).store.ledger.autoincrement := by
  unfold authority Store.captureSnapshotAuthority
  dsimp only
  split
  · exact r.before_ordered.right.sequenceMaximum_le
  · exact Nat.zero_le _

theorem rearming_follows (r : RearmRun) : Coherent r.rearming.checkpoints r.rearming.store ∧
      r.Follows r.rearming.checkpoints r.rearming.store := by
  refine System.permitted_run (I := r.Follows) ?_ ?_ ?_ ?_ ?_ (System.unrestricted _ _)
  · intro checkpoints s op hcoherent hfollows _
    have hadvances := Op.step_ledger hcoherent.checkpoints op
    exact ⟨hfollows.kept, hadvances.ordered hfollows.ordered,
      Nat.le_trans hfollows.bound hadvances.autoincrement⟩
  · exact fun _ _ _ _ _ h => ⟨List.mem_append_left _ h.kept, h.ordered, h.bound⟩
  · exact fun _ _ _ _ h => ⟨h.kept, h.ordered, h.bound⟩
  · exact r.before_ordered.left.capture _ _ _
  · exact ⟨List.mem_append_right _ (List.mem_singleton.mpr rfl),
      r.before_ordered.right, r.capture_bound⟩

theorem rearmed_hot (r : RearmRun) (hrearms : r.rearms = true) :
    Store.RearmedHot r.jobId r.authority.jobEventSequence r.rearmed.store := by
  simp only [rearms, Bool.and_eq_true, Option.any_eq_true, Bool.not_eq_true'] at hrearms
  rcases hrearms with ⟨⟨row, hrow, hterminal⟩, hok⟩
  unfold rearmed
  rw [System.step_op]
  change Store.RearmedHot _ _ (Op.step _ _ _)
  unfold Op.step
  cases happly : r.rearm.apply r.rearming.checkpoints r.rearming.store with
  | error e =>
    rw [happly] at hok
    cases hok
  | ok written =>
    rcases map_store_eq_ok happly with ⟨result, hresult, _⟩
    exact Store.rearmedHot_of_rearm r.rearming_follows.right.bound hrow hterminal hresult

theorem restoring_hot (r : RearmRun) (hrearms : r.rearms = true) (hkeeps : r.KeepsEvent) :
    Coherent r.restoring.checkpoints r.restoring.store ∧ (r.authority ∈ r.restoring.checkpoints ∧
        Store.RearmedHot r.jobId r.authority.jobEventSequence r.restoring.store) := by
  apply System.permitted_run (I := fun checkpoints s => r.authority ∈ checkpoints ∧
      Store.RearmedHot r.jobId r.authority.jobEventSequence s) _ _ _ _ _ hkeeps
  · intro checkpoints s op hcoherent hinv harchives
    exact ⟨hinv.left, rearmedHot_step hcoherent.checkpoints harchives hinv.right⟩
  · exact fun _ _ _ _ _ h => ⟨List.mem_append_left _ h.left, h.right⟩
  · exact fun _ _ _ _ h => h
  · unfold rearmed
    rw [System.step_op]
    exact r.rearming_follows.left.step r.rearm
  · refine ⟨?_, r.rearmed_hot hrearms⟩
    unfold rearmed
    rw [System.step_op]
    exact r.rearming_follows.right.kept

end RearmRun

theorem captureSnapshotAuthority_covers (s : Store) (projectIds : List String)
    (identities : List (String × String)) (fullProjectScope : Bool) :
    forall retirement, retirement ∈ (s.captureSnapshotAuthority projectIds identities
        fullProjectScope).retirements ->
      (s.captureSnapshotAuthority projectIds identities
        fullProjectScope).covers retirement.projectId retirement.taskId = true := by
  intro retirement hretirement
  unfold Store.captureSnapshotAuthority at hretirement ⊢
  dsimp only at hretirement ⊢
  split at hretirement
  · rename_i hscope
    simp only [hscope, if_true]
    have hkeep := (List.mem_filter.mp hretirement).right
    simp only [Bool.decide_and, Bool.and_eq_true, decide_eq_true_eq] at hkeep
    exact hkeep.left
  · cases hretirement

/--
A restore leaves a job rearmed since the capture as it is, provided that no
archival has taken the rearm event out of the hot table.
-/
theorem restore_keeps_rearmed (r : RearmRun) {snapshot : Nat} {now : Int}
    {s' : Store} (hrearms : r.rearms = true) (hkeeps : r.KeepsEvent)
    (hrestore : r.restoring.store.restoreSnapshotAuthority r.authority snapshot
      now = .ok (s', true)) :
    s'.jobs.find? r.jobId = r.restoring.store.jobs.find? r.jobId ∧
      ((forall retirement, retirement ∈ r.restoring.store.retirements ->
          retirement.jobId ≠ r.jobId) ->
        forall retirement, retirement ∈ s'.retirements -> retirement.jobId ≠ r.jobId) := by
  rcases r.restoring_hot hrearms hkeeps with ⟨hcoherent, hkept, hhot⟩
  rcases Store.restoreSnapshotAuthority_eq_ok hrestore with
    ⟨hsame, _⟩ | ⟨_, _, hrestored⟩
  · rw [hsame]
    exact ⟨rfl, id⟩
  · have hfound := hhot
    rcases hfound with ⟨_, _, _, row, hrow, _⟩
    rw [hrow]
    exact hrestored.keeps_rearmed (hcoherent.checkpoints r.authority hkept)
      (captureSnapshotAuthority_covers _ _ _ _) hhot hrow

/-!
# A task that was archived once and recurs

A sibling of the rearmed job still carries the lifecycle-final retirement of
the task's earlier life.
-/

def recurredSpec : WorkflowJobSpec :=
  { sampleSpec with generation := "revision-1:2" }

def archivedThenRecurred : List SystemOp :=
  [.op .allocateSnapshotGeneration, .op (.acceptSnapshotGeneration 1),
    .op (.enqueue { sampleSpec with idempotencyKey := "key-0" } "job-0" 1),
    .op (.schedule (.recordLifecycleFinalAuthority "project-1" "task-1" "Archived" 1 1)),
    .publish 1 (.returned {}) none .committed true 2,
    .op .allocateSnapshotGeneration,
    .op (.acceptSnapshotGeneration 2),
    .op (.reconcileSnapshotMembership 2 ["project-1"] [("project-1", "task-1")] none 3),
    .op (.schedule (.activateSchedule "project-1" "task-1" "revision-1" 2 none none [] 3)),
    .op (.schedule (.reconcileSchedule "project-1" "task-1" 2 "revision-1:2"
      [(recurredSpec, "job-1")] true none "scheduled" 3)),
    .publish 2 (.returned {}) none .committed true 4,
    .op (.claimNext "worker-1" sampleToken 60 { generation := some "revision-1:2" } false 100 5),
    .op (.complete "job-1" "token-1" none [] 6)]

/-- The recurred job is rearmed while a third generation is staged. -/
def recurredRearm (after : List SystemOp) : RearmRun where
  before := archivedThenRecurred
  projectIds := ["project-1"]
  identities := [("project-1", "task-1")]
  fullProjectScope := true
  between := []
  jobId := "job-1"
  generation := "revision-1:2"
  phase := "intent"
  reason := "fresh execution authority"
  rearmedAt := 7
  after := [.op .allocateSnapshotGeneration, .op (.acceptSnapshotGeneration 3)] ++ after

theorem recurredRearm_kept : exists s', (recurredRearm []).restoring.store.restoreSnapshotAuthority
          (recurredRearm []).authority 3 9 = .ok (s', true) ∧
        s'.jobs.find? "job-1" = (recurredRearm []).restoring.store.jobs.find? "job-1" := by
  have hok : ((recurredRearm []).restoring.store.restoreSnapshotAuthority
      (recurredRearm []).authority 3 9).map Prod.snd = .ok true := by
    decide +kernel
  rcases map_eq_ok.mp hok with ⟨⟨s', result⟩, hrestore, hresult⟩
  cases hresult
  exact ⟨s', hrestore, (restore_keeps_rearmed (recurredRearm []) (by decide +kernel)
      (by decide +kernel) hrestore).left⟩

def archivedRearm : RearmRun :=
  recurredRearm [.op (.archiveLifecycleFinalEvents 10 100 8)]

/-- The archival hides the rearm, and the restore ends the job again. -/
theorem archivedRearm_undone : archivedRearm.rearms = true ∧
      (archivedRearm.restoring.store.jobs.find? "job-1").map WorkflowJob.state = some .queued ∧
      (archivedRearm.restoring.store.restoreSnapshotAuthority
        archivedRearm.authority 3 9).map (fun written =>
          ((written.1.jobs.find? "job-1").map WorkflowJob.state, written.2)) =
        .ok (some .completed, true) := by
  decide +kernel

end WorkflowJobs
end Oompah
