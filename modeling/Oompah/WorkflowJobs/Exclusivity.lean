import Oompah.WorkflowJobs.LedgerInvariant
import Oompah.WorkflowJobs.Restore

/-!
# One running job per task

The claim query refuses a task that already runs a job, and every other
operation but a restore only ends running jobs.  A restore may bring a captured
running row back beside a row it leaves alone.
-/

namespace Oompah
namespace WorkflowJobs

open Foundation

def Exclusive (rows : List WorkflowJob) : Prop :=
  forall first, first ∈ rows -> forall second, second ∈ rows ->
    first.state = .running -> second.state = .running ->
      first.sameTask second = true -> first.jobId = second.jobId

namespace WorkflowJob

theorem sameTask_iff {row other : WorkflowJob} : row.sameTask other = true <->
      row.spec.projectId = other.spec.projectId ∧ row.spec.taskId = other.spec.taskId := by
  simp [sameTask]

theorem sameTask_symm {row other : WorkflowJob} (h : row.sameTask other = true) :
    other.sameTask row = true := by
  rw [sameTask_iff] at h ⊢
  exact ⟨h.left.symm, h.right.symm⟩

theorem sameTask_of_spec {row row' other other' : WorkflowJob}
    (hrow : row'.spec = row.spec) (hother : other'.spec = other.spec)
    (h : row'.sameTask other' = true) :
    row.sameTask other = true := by
  rw [sameTask_iff, hrow, hother] at h
  exact sameTask_iff.mpr h

end WorkflowJob

theorem Exclusive.subset {rows chosen : List WorkflowJob} (h : Exclusive rows)
    (hsubset : forall row, row ∈ chosen -> row ∈ rows) :
    Exclusive chosen := by
  intro first hfirst second hsecond
  exact h first (hsubset first hfirst) second (hsubset second hsecond)

/-!
# Claims
-/

variable {s : Store}

theorem Store.idle_of_not_taskIsRunning {candidate row : WorkflowJob}
    (h : s.taskIsRunning candidate [] = false) (hrow : row ∈ s.jobs.rows)
    (hrunning : row.state = .running) :
    row.sameTask candidate = false := by
  simp only [Store.taskIsRunning, List.any_eq_false] at h
  have hidle := h row hrow
  simpa [hrunning] using hidle

/-- A write that restores nothing and claims only in idle tasks. -/
structure Permit.ClaimsIdle (p : Permit) : Prop where
  claims : forall s row, p.claims s row -> s.taskIsRunning row [] = false
  captures : forall captured, ¬ p.captures captured

theorem Exclusive.write {p : Permit} {s s' : Store} (hp : p.ClaimsIdle)
    (hwrite : Write p s s') (h : Exclusive s.jobs.rows) :
    Exclusive s'.jobs.rows := by
  cases hwrite with
  | @act jobId action found hfound hallows =>
    have hfoundMem := JobTable.mem_of_find? hfound
    have hcapture : action.capturedRow = none := by
      cases hrow : action.capturedRow with
      | none => rfl
      | some captured =>
        exact absurd (hallows.captures captured hrow) (hp.captures captured)
    have hspec : (action.apply found).spec = found.spec := by
      apply RowAction.apply_spec
      simp [hcapture]
    -- A row that runs afterwards ran before, or is the one being claimed.
    have horigin : forall row, row ∈ (s.jobs.modify jobId action).rows -> row.state = .running ->
        exists old, old ∈ s.jobs.rows ∧ old.jobId = row.jobId ∧ row.spec = old.spec ∧
          (old.state = .running ∨ old = found ∧ action.isClaim = true) := by
      intro row hrow hrunning
      rcases JobTable.mem_modify.mp hrow with ⟨old, hold, hupdate⟩
      by_cases hid : old.jobId = jobId
      · have heq : found = old := by
          apply JobTable.eq_of_jobId_eq hfoundMem.left hold
          rw [hid]
          exact hfoundMem.right
        subst heq
        simp only [JobTable.update, hid, if_true] at hupdate
        subst hupdate
        refine ⟨found, hold, (RowAction.apply_jobId found action).symm, hspec, ?_⟩
        cases hclaim : action.isClaim with
        | true => exact .inr ⟨rfl, rfl⟩
        | false =>
          exact .inl (RowAction.running_of_apply hallows.applicable hclaim hcapture hrunning)
      · simp only [JobTable.update, hid, if_false] at hupdate
        subst hupdate
        exact ⟨old, hold, rfl, rfl, Or.inl hrunning⟩
    intro first hfirst second hsecond hfirstRuns hsecondRuns hsame
    rcases horigin first hfirst hfirstRuns with
      ⟨firstOld, hfirstOld, hfirstId, hfirstSpec, hfirstCase⟩
    rcases horigin second hsecond hsecondRuns with
      ⟨secondOld, hsecondOld, hsecondId, hsecondSpec, hsecondCase⟩
    have hsameOld := WorkflowJob.sameTask_of_spec hfirstSpec hsecondSpec hsame
    rw [← hfirstId, ← hsecondId]
    rcases hfirstCase with hfirstRan | ⟨hfirstFound, hclaim⟩
    · rcases hsecondCase with hsecondRan | ⟨hsecondFound, hclaim⟩
      · exact h firstOld hfirstOld secondOld hsecondOld hfirstRan hsecondRan hsameOld
      · have hidle := hp.claims s found (hallows.claims hclaim)
        have hdifferent := Store.idle_of_not_taskIsRunning hidle hfirstOld hfirstRan
        rw [hsecondFound, hdifferent] at hsameOld
        cases hsameOld
    · rcases hsecondCase with hsecondRan | ⟨hsecondFound, _⟩
      · have hidle := hp.claims s found (hallows.claims hclaim)
        have hdifferent := Store.idle_of_not_taskIsRunning hidle hsecondOld hsecondRan
        have hback := WorkflowJob.sameTask_symm hsameOld
        rw [hfirstFound, hdifferent] at hback
        cases hback
      · rw [hfirstFound, hsecondFound]
  | @insert spec newJobId managed now hfresh _ =>
    have hold : forall row, row ∈ (s.jobs.insert _ hfresh).rows ->
        row.state = .running -> row ∈ s.jobs.rows := by
      intro row hrow hrunning
      rcases List.mem_append.mp hrow with hmem | hnew
      · exact hmem
      · rw [List.mem_singleton] at hnew
        rw [hnew] at hrunning
        cases hrunning
    intro first hfirst second hsecond hfirstRuns hsecondRuns
    exact h first (hold first hfirst hfirstRuns) second
      (hold second hsecond hsecondRuns) hfirstRuns hsecondRuns
  | event => exact h
  | tables => exact h
  | retire => exact h
  | dropRetirements => exact h
  | fence => exact h
  | relocate => exact h

/-!
# Restores
-/

variable {authority : WorkflowSnapshotAuthority}

namespace Store

/--
The restore leaves this running row alone: it is out of scope, unmanaged,
quarantined or rearmed since the capture.
-/
def keepsRunning (s : Store) (authority : WorkflowSnapshotAuthority) (row : WorkflowJob) : Bool :=
  row.state = .running && (!authority.coversRow row || !row.workflowManaged || row.isQuarantined ||
      s.rearmedAfter authority row.jobId)

/-- The restore writes this row back as running. -/
def revives (s : Store) (authority : WorkflowSnapshotAuthority) (row : WorkflowJob) : Bool :=
  authority.coversRow row && row.workflowManaged && !row.isQuarantined &&
    !s.rearmedAfter authority row.jobId &&
    (authority.capturedJob row.jobId).any (fun captured =>
      captured.state = .running)

/-- The fence of a restore: the generation is current and not yet published. -/
def admitsRestore (s : Store) (snapshot : Nat) : Bool :=
  s.publishedGeneration < snapshot && s.snapshotGenerationIsCurrent snapshot

/-- A task would run a revived row beside a row the restore leaves alone. -/
def revivesBesideRunning (s : Store) (authority : WorkflowSnapshotAuthority) :
    Bool :=
  s.jobs.rows.any (fun row =>
    s.revives authority row &&
      s.jobs.rows.any (fun other =>
        other.sameTask row && s.keepsRunning authority other))

theorem restored_running {s s' : Store}
    {snapshot : Nat} {now : Int} (hsound : AuthoritySound s authority)
    (h : Restored s authority snapshot now s') {row : WorkflowJob}
    (hrow : row ∈ s'.jobs.rows) (hrunning : row.state = .running) :
    exists old, old ∈ s.jobs.rows ∧ old.jobId = row.jobId ∧ row.spec = old.spec ∧
      (old.state = .running ∧ s.keepsRunning authority old = true ∨
        s.revives authority old = true ∧ exists captured, captured ∈ authority.jobs ∧
            captured.jobId = old.jobId ∧ captured.spec = old.spec ∧
            captured.state = .running) := by
  rcases h.mem hrow with ⟨old, hold, hrestored⟩
  refine ⟨old, hold, ?_, ?_⟩
  · rw [hrestored, restoredRow_jobId]
  have hcases := restoredRow_cases s authority snapshot now old
  rw [← hrestored] at hcases
  cases hcases with
  | kept hkept =>
    refine ⟨rfl, Or.inl ⟨hrunning, ?_⟩⟩
    rcases hkept with hcovers | hmanaged | hplan
    · simp [keepsRunning, hrunning, hcovers]
    · simp [keepsRunning, hrunning, hmanaged]
    · unfold restorePlan at hplan
      split at hplan
      · rename_i hquarantined
        simp [keepsRunning, hrunning, hquarantined]
      · split at hplan
        · rename_i hrearmed
          simp [keepsRunning, hrunning, hrearmed]
        · split at hplan
          · cases hplan
          · simp [WorkflowJob.isActive, hrunning, WorkflowJobState.isActive] at hplan
  | captured captured hcovers hmanaged hquarantined hrearmed hcaptured =>
    have hid := (capturedJob_eq_some hcaptured).right
    rcases captured_kept hsound hold hcaptured with ⟨hmem, hkept⟩
    have hspec : captured.spec = old.spec := hkept.spec.symm
    have hcapturedRuns : captured.state = .running := hrunning
    refine ⟨hspec, Or.inr ⟨?_, captured, hmem, hid, hspec, hcapturedRuns⟩⟩
    simp [revives, hcovers, hmanaged, hquarantined, hrearmed, hcaptured, hcapturedRuns]
  | superseded => cases hrunning

theorem not_revivesBesideRunning
    (h : s.revivesBesideRunning authority = false) {row other : WorkflowJob}
    (hrow : row ∈ s.jobs.rows) (hother : other ∈ s.jobs.rows)
    (hrevives : s.revives authority row = true)
    (hkeeps : s.keepsRunning authority other = true) :
    other.sameTask row = false := by
  simp only [revivesBesideRunning, List.any_eq_false, Bool.and_eq_true,
    not_and, Bool.not_eq_true] at h
  by_contra hsame
  have hidle := h row hrow hrevives other hother (by simpa using hsame)
  rw [hkeeps] at hidle
  cases hidle

end Store

theorem Exclusive.restored {s s' : Store} {snapshot : Nat} {now : Int}
    (hsound : AuthoritySound s authority) (hcaptured : Exclusive authority.jobs)
    (halone : s.revivesBesideRunning authority = false)
    (hrestored : Store.Restored s authority snapshot now s')
    (h : Exclusive s.jobs.rows) :
    Exclusive s'.jobs.rows := by
  intro first hfirst second hsecond hfirstRuns hsecondRuns hsame
  rcases Store.restored_running hsound hrestored hfirst hfirstRuns with
    ⟨firstOld, hfirstOld, hfirstId, hfirstSpec, hfirstCase⟩
  rcases Store.restored_running hsound hrestored hsecond hsecondRuns with
    ⟨secondOld, hsecondOld, hsecondId, hsecondSpec, hsecondCase⟩
  have hsameOld := WorkflowJob.sameTask_of_spec hfirstSpec hsecondSpec hsame
  rw [← hfirstId, ← hsecondId]
  rcases hfirstCase with ⟨hfirstRan, hfirstKept⟩ |
    ⟨hfirstRevived, firstCaptured, hfirstMem, hfirstCapturedId,
      hfirstCapturedSpec, hfirstCapturedRuns⟩
  · rcases hsecondCase with ⟨hsecondRan, _⟩ | ⟨hsecondRevived, _⟩
    · exact h firstOld hfirstOld secondOld hsecondOld hfirstRan hsecondRan hsameOld
    · have hdifferent := Store.not_revivesBesideRunning halone hsecondOld
        hfirstOld hsecondRevived hfirstKept
      rw [hdifferent] at hsameOld
      cases hsameOld
  · rcases hsecondCase with ⟨_, hsecondKept⟩ |
      ⟨_, secondCaptured, hsecondMem, hsecondCapturedId, hsecondCapturedSpec, hsecondCapturedRuns⟩
    · have hdifferent := Store.not_revivesBesideRunning halone hfirstOld
        hsecondOld hfirstRevived hsecondKept
      have hback := WorkflowJob.sameTask_symm hsameOld
      rw [hdifferent] at hback
      cases hback
    · rw [← hfirstCapturedId, ← hsecondCapturedId]
      exact hcaptured firstCaptured hfirstMem secondCaptured hsecondMem
        hfirstCapturedRuns hsecondCapturedRuns
        (WorkflowJob.sameTask_of_spec hfirstCapturedSpec.symm hsecondCapturedSpec.symm hsameOld)

/-!
# Operations
-/

/-- A claim declares no compatible running actions. -/
def Op.claimsAlone : Op -> Bool
  | .claimNext _ _ _ filter _ _ _ => filter.compatibleRunningActions = []
  | _ => true

/-- A restore that is not refused revives a job beside a running job of the same task. -/
def Op.revivesBesideRunning (checkpoints : List WorkflowSnapshotAuthority) (s : Store) : Op -> Bool
  | .restoreSnapshotAuthority index snapshot _ =>
    (checkpoints[index]?).any (fun authority =>
      s.admitsRestore snapshot && s.revivesBesideRunning authority)
  | _ => false

abbrev Op.KeepsExclusive (checkpoints : List WorkflowSnapshotAuthority)
    (s : Store) (op : Op) : Prop :=
  op.claimsAlone = true ∧ op.revivesBesideRunning checkpoints s = false

variable {checkpoints : List WorkflowSnapshotAuthority}

theorem Op.permit_claimsIdle {op : Op} (halone : op.claimsAlone = true)
    (hrestore : forall index snapshot now, op ≠ .restoreSnapshotAuthority index snapshot now) :
    (op.permit checkpoints s).ClaimsIdle := by
  cases op with
  | restoreSnapshotAuthority index snapshot now =>
    exact absurd rfl (hrestore index snapshot now)
  | claimNext =>
    simp only [claimsAlone, decide_eq_true_eq] at halone
    refine ⟨fun current row hclaims => ?_, fun _ h => h⟩
    rw [← halone]
    exact hclaims.right.right
  | _ => exact ⟨fun _ _ h => h.elim, fun _ h => h⟩

/-- The live table and every checkpoint run one job per task. -/
structure ExclusiveSystem (checkpoints : List WorkflowSnapshotAuthority)
    (s : Store) : Prop where
  live : Exclusive s.jobs.rows
  captured : forall authority, authority ∈ checkpoints -> Exclusive authority.jobs

theorem ExclusiveSystem.empty : ExclusiveSystem [] {} where
  live := by
    intro _ h
    cases h
  captured := by
    intro _ h
    cases h

theorem exclusive_step {op : Op} (hsound : CheckpointsSound checkpoints s)
    (hkeeps : op.KeepsExclusive checkpoints s)
    (h : ExclusiveSystem checkpoints s) :
    Exclusive (op.step checkpoints s).jobs.rows := by
  by_cases hrestore : exists index snapshot now, op = .restoreSnapshotAuthority index snapshot now
  · rcases hrestore with ⟨index, snapshot, now, hop⟩
    subst hop
    rcases Op.step_restore checkpoints s index snapshot now with
      hsame | ⟨authority, hauthority, hrestored⟩
    · rw [hsame]
      exact h.live
    · have hmem := List.mem_of_getElem? hauthority
      have hadmits : s.admitsRestore snapshot = true := by
        simp [Store.admitsRestore, hrestored.unpublished, hrestored.current]
      have halone : s.revivesBesideRunning authority = false := by
        simpa [Op.revivesBesideRunning, hauthority, hadmits] using hkeeps.right
      exact Exclusive.restored (hsound authority hmem)
        (h.captured authority hmem) halone hrestored h.live
  · have hidle : (op.permit checkpoints s).ClaimsIdle := by
      apply Op.permit_claimsIdle hkeeps.left
      intro index snapshot now hop
      exact hrestore ⟨index, snapshot, now, hop⟩
    exact (Op.step_writes hsound op).invariant (I := fun s => Exclusive s.jobs.rows)
      (fun _ _ hwrite hs => Exclusive.write hidle hwrite hs) h.live

/-!
# Runs
-/

def Store.runningRows (s : Store) (projectId taskId : String) :
    List WorkflowJob :=
  (s.taskRows projectId taskId).filter (fun row => row.state = .running)

theorem Exclusive.runningRows_length (h : Exclusive s.jobs.rows) (projectId taskId : String) :
    (s.runningRows projectId taskId).length ≤ 1 := by
  have hnodup : ((s.runningRows projectId taskId).map WorkflowJob.jobId).Nodup :=
    ((Store.selects_taskRows s projectId taskId).sublist List.filter_sublist).nodup
  have hids : forall first, first ∈ s.runningRows projectId taskId ->
      forall second, second ∈ s.runningRows projectId taskId -> first.jobId = second.jobId := by
    intro first hfirst second hsecond
    rw [Store.runningRows, List.mem_filter, Store.mem_taskRows] at hfirst hsecond
    rcases hfirst with ⟨⟨hfirst, hfirstProject, hfirstTask⟩, hfirstRuns⟩
    rcases hsecond with ⟨⟨hsecond, hsecondProject, hsecondTask⟩, hsecondRuns⟩
    apply h first hfirst second hsecond (by simpa using hfirstRuns) (by simpa using hsecondRuns)
    exact WorkflowJob.sameTask_iff.mpr
      ⟨hfirstProject.trans hsecondProject.symm, hfirstTask.trans hsecondTask.symm⟩
  revert hnodup hids
  generalize s.runningRows projectId taskId = rows
  intro hnodup hids
  cases rows with
  | nil => simp
  | cons first rest =>
    cases rest with
    | nil => simp
    | cons second rest =>
      have heq := hids first (by simp) second (by simp)
      simp [heq] at hnodup

theorem exclusive_run {ops : List SystemOp} (hkeeps : Guarded System.step
      (System.Permitted (fun checkpoints s op =>
        op.KeepsExclusive checkpoints s)) {} ops)
    (projectId taskId : String) :
    ((run System.step {} ops).store.runningRows projectId taskId).length ≤ 1 := by
  have hinv := System.permitted_run (I := ExclusiveSystem)
    (fun checkpoints s op hcoherent hinv hcondition =>
      ⟨exclusive_step hcoherent.checkpoints hcondition hinv, hinv.captured⟩)
    (fun checkpoints s projectIds identities fullProjectScope hinv => by
      refine ⟨hinv.live, ?_⟩
      intro authority hauthority
      rcases List.mem_append.mp hauthority with hold | hnew
      · exact hinv.captured authority hold
      · rw [List.mem_singleton] at hnew
        rw [hnew]
        exact hinv.live.subset (fun _ => captureSnapshotAuthority_jobs_mem))
    (fun _ _ _ _ hinv => ⟨hinv.live, hinv.captured⟩)
    Coherent.empty ExclusiveSystem.empty hkeeps
  exact hinv.right.live.runningRows_length projectId taskId

/-!
# A restore beside a running sibling

The captured job completes and an unmanaged job of its task is claimed before
the restore.
-/

def siblingSpec : WorkflowJobSpec :=
  { sampleSpec with action := "terminal_audit", idempotencyKey := "key-2" }

/-- A later generation is accepted, the captured job completes, and its sibling is claimed. -/
def siblingClaim : List SystemOp :=
  publishedClaim ++ [.capture ["project-1"] [("project-1", "task-1")] true,
    .op .allocateSnapshotGeneration,
    .op (.acceptSnapshotGeneration 2),
    .op (.complete "job-1" "token-1" none [] 4),
    .op (.enqueue siblingSpec "job-2" 5),
    .op (.claimNext "worker-2" otherToken 60 {} false 100 6)]

/-- The sibling is done before the restore. -/
theorem exclusive_siblingDone :
    let ops := siblingClaim ++ [.op (.complete "job-2" "token-2" none [] 7),
      .op (.restoreSnapshotAuthority 0 2 8)]
    ((run System.step {} ops).store.runningRows "project-1" "task-1").length ≤ 1 ∧
      (run System.step {} ops).store.jobs.rows.map WorkflowJob.state = [.running, .completed] :=
  ⟨exclusive_run (by decide) "project-1" "task-1", by decide⟩

def siblingRestore : List SystemOp :=
  siblingClaim ++ [.op (.restoreSnapshotAuthority 0 2 7)]

theorem siblingRestore_runs_two :
    Guarded System.step (System.Permitted (fun _ _ op => op.claimsAlone = true)) {} siblingRestore ∧
      ((run System.step {} siblingRestore).store.runningRows "project-1" "task-1").length = 2 := by
  decide

end WorkflowJobs
end Oompah
