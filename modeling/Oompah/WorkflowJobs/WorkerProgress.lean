import Oompah.WorkflowJobs.Restore

/-!
# Worker progress under a restore

Workers commit between a capture and the restore of its checkpoint, and the
restore rewrites captured rows whole.  A worker's last write of a job survives
when the row afterwards is the row the restore found or the row the worker left.
-/

namespace Oompah
namespace WorkflowJobs

open Foundation

/-!
# What workers wrote
-/

/-- The operations a worker calls on a job it claims or holds. -/
def Op.isWorker : Op -> Bool
  | .claimNext _ _ _ _ _ _ _ => true
  | .renew _ _ _ _ => true
  | .checkpoint _ _ _ _ _ => true
  | .complete _ _ _ _ _ => true
  | .fail _ _ _ _ _ _ _ _ => true
  | .quarantineOwned _ _ _ _ _ => true
  | .settleQuarantinedCall _ _ _ _ _ _ _ _ _ => true
  | .deferOwnedWithoutAttempt _ _ _ _ _ => true
  | _ => false

def OpResult.row? : OpResult -> Option WorkflowJob
  | .job row => some row
  | .claim row => row
  | _ => none

/--
The rows a worker operation leaves: the one it returns and every other one it
changed.  A claim recovers expired rows before it selects one, or none.
-/
def Op.workerRows (op : Op) (s : Store) (written : Store × OpResult) : List WorkflowJob :=
  if op.isWorker then
    written.1.jobs.rows.filter (fun row =>
      s.jobs.find? row.jobId ≠ some row ∨ written.2.row? = some row)
  else
    []

/-- The store and the rows workers wrote since the capture, latest first. -/
structure WorkerProgress where
  store : Store
  rows : List WorkflowJob := []

namespace WorkerProgress

def record (checkpoints : List WorkflowSnapshotAuthority)
    (progress : WorkerProgress) (op : Op) : WorkerProgress :=
  match op.apply checkpoints progress.store with
  | .ok written =>
    { store := written.1
      rows := op.workerRows progress.store written ++ progress.rows }
  | .error _ => progress

/-- The row that the last worker operation to change or return a job left. -/
def lastRow (progress : WorkerProgress) (jobId : String) : Option WorkflowJob :=
  progress.rows.find? (fun row => row.jobId = jobId)

theorem record_store (checkpoints : List WorkflowSnapshotAuthority)
    (progress : WorkerProgress) (op : Op) :
    (progress.record checkpoints op).store = op.step checkpoints progress.store := by
  unfold record Op.step
  cases op.apply checkpoints progress.store with
  | error e => rfl
  | ok written => rfl

theorem run_record_store (checkpoints : List WorkflowSnapshotAuthority)
    (progress : WorkerProgress) (ops : List Op) :
    (run (record checkpoints) progress ops).store =
      run (Op.step checkpoints) progress.store ops := by
  induction ops generalizing progress with
  | nil => rfl
  | cons op rest ih => rw [run_cons, run_cons, ih, record_store]

end WorkerProgress

/-!
# No worker leaves a superseded row
-/

namespace Store

variable {s s' : Store}

/-- What is superseded afterwards was so before. -/
def NoneSuperseded (s s' : Store) : Prop :=
  forall row, row ∈ s'.jobs.rows -> row ∈ s.jobs.rows ∨ row.state ≠ .superseded

theorem NoneSuperseded.refl (s : Store) : NoneSuperseded s s := fun _ hrow => .inl hrow

theorem NoneSuperseded.trans {s'' : Store} (h : NoneSuperseded s s')
    (h' : NoneSuperseded s' s'') : NoneSuperseded s s'' := by
  intro row hrow
  rcases h' row hrow with hmiddle | hstate
  · exact h row hmiddle
  · exact .inr hstate

theorem NoneSuperseded.act {jobId : String} {action : RowAction}
    (h : forall row, s.jobs.find? jobId = some row -> (action.apply row).state ≠ .superseded) :
    NoneSuperseded s (s.act jobId action) := by
  intro row hrow
  rcases JobTable.mem_modify.mp hrow with ⟨old, hold, hupdate⟩
  unfold JobTable.update at hupdate
  split at hupdate
  · rename_i hid
    rw [← hupdate]
    exact .inr (h old (hid ▸ JobTable.find?_of_mem hold))
  · exact .inl (hupdate ▸ hold)

theorem NoneSuperseded.actFound {row : WorkflowJob} {action : RowAction} {jobId : String}
    (hfound : s.jobs.find? jobId = some row) (h : (action.apply row).state ≠ .superseded) :
    NoneSuperseded s (s.act row.jobId action) := by
  apply NoneSuperseded.act
  intro other hother
  rw [find?_jobId hfound] at hother
  cases hother
  exact h

theorem recoverForClaim_noneSuperseded (s : Store) (filter : ClaimFilter)
    (recoveryLimit : Nat) (now : Int) :
    NoneSuperseded s (s.recoverForClaim filter recoveryLimit now) := by
  apply foldl_relation NoneSuperseded.refl (fun _ _ _ => NoneSuperseded.trans)
  intro s recovery _
  apply foldl_relation NoneSuperseded.refl (fun _ _ _ => NoneSuperseded.trans)
  intro s row _
  split
  · exact NoneSuperseded.refl s
  · rename_i hplan
    rw [(recoverPlan_applicable hplan).left]
    apply NoneSuperseded.act
    intro old _
    simp only [RowAction.apply]
    split <;> simp
  · rename_i hplan
    rw [(recoverPlan_applicable hplan).left]
    apply NoneSuperseded.act
    intro old _
    simp only [RowAction.apply]
    split <;> simp

/-- A worker operation supersedes neither the row it returns nor another one. -/
structure WorkerKeeps (s s' : Store) (result : OpResult) : Prop where
  changed : NoneSuperseded s s'
  returned : forall row, result.row? = some row -> row.state ≠ .superseded

theorem WorkerKeeps.acted {row : WorkflowJob} {action : RowAction} {jobId : String}
    {event : LoggedEvent}
    {now : Int} (hfound : s.jobs.find? jobId = some row)
    (h : (action.apply row).state ≠ .superseded) :
    WorkerKeeps s (s.actLogged row action event now) (.job (action.apply row)) where
  changed := NoneSuperseded.actFound hfound h
  returned := by
    intro row hrow
    rw [← Option.some.inj hrow]
    exact h

theorem WorkerKeeps.updateOwned {jobId leaseToken : String} {now : Int}
    {plan : WorkflowJob -> Except StoreError (RowAction × LoggedEvent)}
    {result : WorkflowJob}
    (hplan : forall row action event, row.state = .running ->
      plan row = .ok (action, event) -> (action.apply row).state ≠ .superseded)
    (h : s.updateOwned jobId leaseToken now plan = .ok (s', result)) :
    WorkerKeeps s s' (.job result) := by
  rcases updateOwned_eq_ok h with ⟨row, action, event, hlive, hok, hs', hresult⟩
  rw [hs', hresult]
  exact WorkerKeeps.acted hlive.found (hplan row action event hlive.running hok)

end Store

theorem Op.workerKeeps {checkpoints : List WorkflowSnapshotAuthority}
    {s s' : Store} {op : Op} {result : OpResult} (hworker : op.isWorker = true)
    (h : op.apply checkpoints s = .ok (s', result)) :
    Store.WorkerKeeps s s' result := by
  cases op with
  | claimNext _ _ _ filter _ recoveryLimit now =>
    rcases map_store_eq_ok h with ⟨claimed, hok, hresult⟩
    subst hresult
    have hrecovered := s.recoverForClaim_noneSuperseded filter recoveryLimit now
    rcases Store.claimNext_eq_ok hok with
      ⟨_, ⟨_, hs', hnone⟩ | ⟨candidate, hselect, hs', hsome⟩⟩
    · rw [hs', hnone]
      refine ⟨hrecovered, ?_⟩
      intro row hrow
      simp [OpResult.row?] at hrow
    · rw [hs', hsome]
      have hmem := (Store.selectClaim_eq_some hselect).left
      constructor
      · apply hrecovered.trans
        unfold Store.leaseSelected
        dsimp only
        split
        · exact Store.NoneSuperseded.actFound (JobTable.find?_of_mem hmem)
            (by simp [RowAction.apply])
        · exact Store.NoneSuperseded.actFound (JobTable.find?_of_mem hmem)
            (by simp [RowAction.apply])
      · intro row hrow
        simp only [OpResult.row?, Option.some.injEq] at hrow
        rw [← hrow]
        simp [RowAction.apply]
  | renew =>
    rcases map_store_eq_ok h with ⟨written, hok, hresult⟩
    subst hresult
    unfold Store.renew at hok
    rw [require_bind_eq_ok] at hok
    apply Store.WorkerKeeps.updateOwned _ hok.right
    intro row action event hrunning hplan
    cases hplan
    simp [RowAction.apply, hrunning]
  | checkpoint =>
    rcases map_store_eq_ok h with ⟨written, hok, hresult⟩
    subst hresult
    unfold Store.checkpoint requiredText at hok
    rw [require_bind_eq_ok] at hok
    apply Store.WorkerKeeps.updateOwned _ hok.right
    intro row action event hrunning hplan
    cases hplan
    simp [RowAction.apply, hrunning]
  | complete _ _ resultTransition _ now =>
    rcases map_store_eq_ok h with ⟨written, hok, hresult⟩
    subst hresult
    rcases Store.complete_eq_ok hok with ⟨row, f, _, hlive, _, hs', hwritten⟩
    rw [hs', hwritten]
    have hstate : ((RowAction.complete resultTransition now).apply row).state ≠ .superseded := by
      simp [RowAction.apply]
    have hchanged := Store.NoneSuperseded.actFound hlive.found hstate
    constructor
    · exact fun other hother => hchanged other hother
    · intro other hother
      simp only [OpResult.row?, Option.some.injEq] at hother
      rw [← hother]
      exact hstate
  | fail =>
    rcases map_store_eq_ok h with ⟨written, hok, hresult⟩
    subst hresult
    unfold Store.fail requiredText at hok
    simp only [require_bind_eq_ok] at hok
    apply Store.WorkerKeeps.updateOwned _ hok.right.right.right
    intro row action event _ hplan
    cases hplan
    simp only [RowAction.apply]
    split <;> simp
  | quarantineOwned =>
    rcases map_store_eq_ok h with ⟨written, hok, hresult⟩
    subst hresult
    rcases Store.quarantineOwned_eq_ok hok with
      ⟨row, _, hfound, hrunning, _, hs', hwritten⟩
    rw [hs', hwritten]
    exact Store.WorkerKeeps.acted hfound (by simp [RowAction.apply, hrunning])
  | settleQuarantinedCall =>
    rcases map_store_eq_ok h with ⟨written, hok, hresult⟩
    subst hresult
    rcases Store.settleQuarantinedCall_eq_ok hok with
      ⟨row, _, hfound, _, _, hs', hwritten⟩
    rw [hs', hwritten]
    apply Store.WorkerKeeps.acted hfound
    unfold Store.settleAction
    split
    · simp [RowAction.apply]
    · simp only [RowAction.apply]
      split <;> simp
  | deferOwnedWithoutAttempt =>
    rcases map_store_eq_ok h with ⟨written, hok, hresult⟩
    subst hresult
    unfold Store.deferOwnedWithoutAttempt requiredText at hok
    simp only [require_bind_eq_ok] at hok
    apply Store.WorkerKeeps.updateOwned _ hok.right.right
    intro row action event _ hplan
    cases hplan
    simp [RowAction.apply]
  | _ => cases hworker

theorem Op.workerRows_state {checkpoints : List WorkflowSnapshotAuthority}
    {s : Store} {op : Op} {written : Store × OpResult} {row : WorkflowJob}
    (h : op.apply checkpoints s = .ok written) (hrow : row ∈ op.workerRows s written) :
    row.state ≠ .superseded := by
  unfold Op.workerRows at hrow
  split at hrow
  · rename_i hworker
    have hkeeps := Op.workerKeeps hworker h
    rcases List.mem_filter.mp hrow with ⟨hmem, hleft⟩
    rcases of_decide_eq_true hleft with hchanged | hreturned
    · rcases hkeeps.changed row hmem with hold | hstate
      · exact absurd (JobTable.find?_of_mem hold) hchanged
      · exact hstate
    · exact hkeeps.returned row hreturned
  · cases hrow

theorem WorkerProgress.lastRow_state
    {checkpoints : List WorkflowSnapshotAuthority} {s : Store} {ops : List Op}
    {jobId : String} {row : WorkflowJob}
    (h : (run (WorkerProgress.record checkpoints) { store := s } ops).lastRow jobId = some row) :
    row.state ≠ .superseded := by
  have hstep : forall (progress : WorkerProgress) (op : Op),
      (forall row, row ∈ progress.rows -> row.state ≠ .superseded) ->
        forall row, row ∈ (progress.record checkpoints op).rows -> row.state ≠ .superseded := by
    intro progress op hinv row hrow
    unfold WorkerProgress.record at hrow
    split at hrow
    · rename_i written happly
      rcases List.mem_append.mp hrow with hnew | hold
      · exact Op.workerRows_state happly hnew
      · exact hinv row hold
    · exact hinv row hrow
  have hstart : forall row, row ∈ (WorkerProgress.mk s []).rows -> row.state ≠ .superseded := by
    intro row hrow
    cases hrow
  exact invariant_run hstep hstart ops row (List.mem_of_find?_eq_some h)

/-!
# What a restore does to worker progress
-/

/-- No worker write on a managed job of the scope is undone. -/
def ProgressKept (authority : WorkflowSnapshotAuthority)
    (progress : WorkerProgress) (s' : Store) : Prop :=
  forall jobId last row, progress.lastRow jobId = some last ->
    progress.store.jobs.find? jobId = some row ->
    row.workflowManaged = true -> authority.coversRow row = true ->
      s'.jobs.find? jobId = some row ∨ s'.jobs.find? jobId = some last

/--
The restore leaves the row alone, or the checkpoint holds exactly the row it
replaces or the row the last worker operation left.
-/
def ProgressSafe (authority : WorkflowSnapshotAuthority) (progress : WorkerProgress) : Prop :=
  forall jobId last row, progress.lastRow jobId = some last ->
    progress.store.jobs.find? jobId = some row ->
    row.workflowManaged = true -> authority.coversRow row = true -> row.isQuarantined = true ∨
        progress.store.rearmedAfter authority jobId = true ∨
        (authority.capturedJob jobId = none ∧ row.isActive = false) ∨
        authority.capturedJob jobId = some row ∨
        authority.capturedJob jobId = some last

theorem Store.Restored.progressKept_iff {authority : WorkflowSnapshotAuthority}
    {progress : WorkerProgress} {snapshot : Nat} {now : Int} {s' : Store}
    (hsound : AuthoritySound progress.store authority)
    (hstate : forall jobId last, progress.lastRow jobId = some last -> last.state ≠ .superseded)
    (h : Store.Restored progress.store authority snapshot now s') :
    ProgressKept authority progress s' <-> ProgressSafe authority progress := by
  constructor
  · intro hkept jobId last row hlast hrow hmanaged hcovers
    have houtcome := hkept jobId last row hlast hrow hmanaged hcovers
    rcases JobTable.mem_of_find? hrow with ⟨hmem, hid⟩
    have hfound := h.find? hmem
    rw [hid] at hfound
    rw [hfound, Option.some.injEq, Option.some.injEq] at houtcome
    have hcases := Store.restoredRow_cases progress.store authority snapshot now row
    generalize progress.store.restoredRow authority snapshot now row = restored at hcases houtcome
    cases hcases with
    | kept hkeeps =>
      rcases hkeeps with hscope | hunmanaged | hplan
      · rw [hcovers] at hscope
        cases hscope
      · rw [hmanaged] at hunmanaged
        cases hunmanaged
      · unfold Store.restorePlan at hplan
        rw [hid] at hplan
        split at hplan
        · rename_i hquarantined
          exact .inl hquarantined
        · split at hplan
          · rename_i hrearmed
            exact .inr (Or.inl hrearmed)
          · split at hplan
            · cases hplan
            · rename_i huncaptured
              split at hplan
              · cases hplan
              · rename_i hinactive
                exact .inr (Or.inr (Or.inl ⟨huncaptured, by simpa using hinactive⟩))
    | captured captured _ _ _ _ hcaptured =>
      rw [Store.apply_restore_captured hsound hmem hcaptured] at houtcome
      rw [hid] at hcaptured
      rcases houtcome with hsame | hworker
      · rw [hsame] at hcaptured
        exact .inr (Or.inr (Or.inr (Or.inl hcaptured)))
      · rw [hworker] at hcaptured
        exact .inr (Or.inr (Or.inr (Or.inr hcaptured)))
    | superseded _ _ _ _ _ hactive =>
      rcases houtcome with hsame | hworker
      · have hsuperseded : row.state = .superseded := by
          rw [← hsame]
          rfl
        simp [WorkflowJob.isActive, hsuperseded, WorkflowJobState.isActive] at hactive
      · refine absurd ?_ (hstate jobId last hlast)
        rw [← hworker]
        rfl
  · intro hsafe jobId last row hlast hrow hmanaged hcovers
    have hcondition := hsafe jobId last row hlast hrow hmanaged hcovers
    rcases JobTable.mem_of_find? hrow with ⟨hmem, hid⟩
    have hfound := h.find? hmem
    rw [hid] at hfound
    rw [hfound, Option.some.injEq, Option.some.injEq]
    have hcases := Store.restoredRow_cases progress.store authority snapshot now row
    generalize progress.store.restoredRow authority snapshot now row = restored at hcases ⊢
    cases hcases with
    | kept => exact .inl rfl
    | captured captured _ _ hquarantined hrearmed hcaptured =>
      rw [Store.apply_restore_captured hsound hmem hcaptured]
      rw [hid] at hcaptured hrearmed
      simp only [hquarantined, hrearmed, hcaptured, Bool.false_eq_true,
        reduceCtorEq, false_and, false_or, Option.some.injEq] at hcondition
      exact hcondition
    | superseded _ _ hquarantined hrearmed hcaptured hactive =>
      rw [hid] at hcaptured hrearmed
      simp [hquarantined, hrearmed, hcaptured, hactive] at hcondition

theorem WorkflowSnapshotAuthority.covers_of_not_hasScope
    {authority : WorkflowSnapshotAuthority} (h : authority.hasScope = false)
    (projectId taskId : String) :
    authority.covers projectId taskId = false := by
  unfold hasScope at h
  unfold covers
  split at h
  · rename_i hfull
    have hnone : authority.projectIds = [] := by simpa using h
    simp [hfull, hnone]
  · rename_i hscoped
    have hnone : authority.identities = [] := by simpa using h
    simp [hscoped, hnone]

/-!
# Runs
-/

/-- A run that captures a checkpoint and goes on to its restore. -/
structure RestoreRun where
  before : List SystemOp
  projectIds : List String
  identities : List (String × String)
  fullProjectScope : Bool
  between : List Op

namespace RestoreRun

def captured (r : RestoreRun) : System := run System.step {} r.before

def authority (r : RestoreRun) : WorkflowSnapshotAuthority :=
  r.captured.store.captureSnapshotAuthority r.projectIds r.identities r.fullProjectScope

def checkpoints (r : RestoreRun) : List WorkflowSnapshotAuthority :=
  r.captured.checkpoints ++ [r.authority]

def progress (r : RestoreRun) : WorkerProgress :=
  run (WorkerProgress.record r.checkpoints) { store := r.captured.store } r.between

theorem coherent (r : RestoreRun) : Coherent r.checkpoints r.progress.store := by
  have hcaptured := System.coherent_run r.before
  unfold progress
  rw [WorkerProgress.run_record_store]
  exact invariant_run (fun _ op hcoherent => hcoherent.step op) (hcaptured.capture _ _ _) r.between

end RestoreRun

/--
Whatever the workers and the staging of a generation do between a capture and
a successful restore of its checkpoint, no worker write is undone exactly when
the checkpoint is safe for the progress made.
-/
theorem restore_progressKept_iff (r : RestoreRun) {snapshot : Nat} {now : Int} {s' : Store}
    (hrestore : r.progress.store.restoreSnapshotAuthority r.authority snapshot
      now = .ok (s', true)) :
    ProgressKept r.authority r.progress s' <-> ProgressSafe r.authority r.progress := by
  have hsound := r.coherent.checkpoints r.authority
    (List.mem_append_right _ (List.mem_singleton.mpr rfl))
  rcases Store.restoreSnapshotAuthority_eq_ok hrestore with
    ⟨_, hscope⟩ | ⟨_, _, hrestored⟩
  · have hnone := WorkflowSnapshotAuthority.covers_of_not_hasScope (hscope rfl)
    constructor
    · intro _ jobId last row _ _ _ hcovers
      rw [WorkflowSnapshotAuthority.coversRow, hnone] at hcovers
      cases hcovers
    · intro _ jobId last row _ _ _ hcovers
      rw [WorkflowSnapshotAuthority.coversRow, hnone] at hcovers
      cases hcovers
  · exact hrestored.progressKept_iff hsound (fun _ _ hlast => WorkerProgress.lastRow_state hlast)

/-!
# A completed job that runs again

The claimed job of a published snapshot is captured, completes while the next
generation is accepted, and the restore of that generation rewrites it.
-/

def completedBeforeRestore : RestoreRun where
  before := publishedClaim
  projectIds := ["project-1"]
  identities := [("project-1", "task-1")]
  fullProjectScope := true
  between := [.allocateSnapshotGeneration, .acceptSnapshotGeneration 2,
    .complete "job-1" "token-1" none [] 4]

theorem completedBeforeRestore_iff :
    exists s', completedBeforeRestore.progress.store.restoreSnapshotAuthority
          completedBeforeRestore.authority 2 5 = .ok (s', true) ∧
        (ProgressKept completedBeforeRestore.authority completedBeforeRestore.progress s' <->
          ProgressSafe completedBeforeRestore.authority completedBeforeRestore.progress) := by
  have hok : (completedBeforeRestore.progress.store.restoreSnapshotAuthority
      completedBeforeRestore.authority 2 5).map Prod.snd = .ok true := by
    decide +kernel
  rcases map_eq_ok.mp hok with ⟨⟨s', result⟩, hrestore, hresult⟩
  cases hresult
  exact ⟨s', hrestore, restore_progressKept_iff completedBeforeRestore hrestore⟩

theorem completedBeforeRestore_undone :
    exists s', completedBeforeRestore.progress.store.restoreSnapshotAuthority
          completedBeforeRestore.authority 2 5 = .ok (s', true) ∧
        (completedBeforeRestore.progress.lastRow "job-1").map WorkflowJob.state = some .completed ∧
        (s'.jobs.find? "job-1").map WorkflowJob.state = some .running ∧
        ¬ ProgressKept completedBeforeRestore.authority completedBeforeRestore.progress s' := by
  have hok : (completedBeforeRestore.progress.store.restoreSnapshotAuthority
      completedBeforeRestore.authority 2 5).map (fun written =>
        ((written.1.jobs.find? "job-1").map WorkflowJob.state, written.2)) =
        .ok (some .running, true) := by
    decide +kernel
  have hlast : (completedBeforeRestore.progress.lastRow "job-1").map
      WorkflowJob.state = some .completed := by
    decide +kernel
  have hrow : (completedBeforeRestore.progress.store.jobs.find? "job-1").map
      (fun row => (row.state, row.workflowManaged,
        completedBeforeRestore.authority.coversRow row)) =
      some (.completed, true, true) := by
    decide +kernel
  rcases map_eq_ok.mp hok with ⟨⟨s', result⟩, hrestore, hwritten⟩
  simp only [Prod.mk.injEq] at hwritten
  rcases hwritten with ⟨hrunning, hresult⟩
  cases hresult
  refine ⟨s', hrestore, hlast, hrunning, ?_⟩
  intro hkept
  rcases Option.map_eq_some_iff.mp hlast with ⟨last, hlast, hlastState⟩
  rcases Option.map_eq_some_iff.mp hrow with ⟨row, hrow, hrowFields⟩
  simp only [Prod.mk.injEq] at hrowFields
  rcases hrowFields with ⟨hrowState, hmanaged, hcovers⟩
  rcases hkept "job-1" last row hlast hrow hmanaged hcovers with hsame | hworker
  · simp [hsame, hrowState] at hrunning
  · simp [hworker, hlastState] at hrunning

end WorkflowJobs
end Oompah
