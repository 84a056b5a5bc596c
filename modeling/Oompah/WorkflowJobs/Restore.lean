import Oompah.WorkflowJobs.Runs

/-!
# Rows across a restore

A restore rewrites the managed rows of its scope.  Every row afterwards is the
restored form of the row with the same identity before.
-/

namespace Oompah
namespace WorkflowJobs

open Foundation

namespace Store

variable {s s' : Store} {authority : WorkflowSnapshotAuthority} {snapshot : Nat}
  {now : Int}

theorem actEach_ids (s : Store) (rows : List WorkflowJob)
    (plan : WorkflowJob -> Option (RowAction × Option LoggedEvent)) (now : Int) :
    (s.actEach rows plan now).jobs.rows.map WorkflowJob.jobId =
      s.jobs.rows.map WorkflowJob.jobId := by
  have hmodify : forall (s : Store) (jobId : String) (action : RowAction),
      (s.jobs.modify jobId action).rows.map WorkflowJob.jobId =
        s.jobs.rows.map WorkflowJob.jobId := by
    intro s jobId action
    simp only [JobTable.modify, List.map_map]
    apply List.map_congr_left
    intro row _
    exact JobTable.update_jobId jobId action row
  have hone : forall (s : Store) (row : WorkflowJob),
      (s.actOne plan now row).jobs.rows.map WorkflowJob.jobId =
        s.jobs.rows.map WorkflowJob.jobId := by
    intro s row
    unfold actOne
    split
    · rfl
    · exact hmodify s _ _
    · exact hmodify s _ _
  induction rows generalizing s with
  | nil => rfl
  | cons row rest ih => rw [actEach_cons, ih, hone]

/-- What a restore leaves in the place of a row. -/
def restoredRow (s : Store) (authority : WorkflowSnapshotAuthority)
    (snapshot : Nat) (now : Int) (row : WorkflowJob) : WorkflowJob :=
  if authority.coversRow row ∧ row.workflowManaged then
    planned (s.restorePlan authority snapshot now) row
  else
    row

variable {row : WorkflowJob}

theorem mem_restoreRows : row ∈ s.restoreRows authority <->
      row ∈ s.jobs.rows ∧ authority.coversRow row = true ∧ row.workflowManaged = true := by
  simp [restoreRows]

theorem Restored.find? (h : Restored s authority snapshot now s') (hrow : row ∈ s.jobs.rows) :
    s'.jobs.find? row.jobId = some (s.restoredRow authority snapshot now row) := by
  rw [h.jobs]
  unfold restoredRow
  have hselects := selects_restoreRows s authority
  split
  · rename_i hscope
    exact actEach_find?_of_mem hselects.nodup (fun _ hother => hselects.find? hother)
      (mem_restoreRows.mpr ⟨hrow, hscope⟩)
  · rename_i hscope
    rw [actEach_find?_of_not_mem]
    · exact JobTable.find?_of_mem hrow
    · intro hmem
      rcases List.mem_map.mp hmem with ⟨other, hother, hid⟩
      rw [mem_restoreRows] at hother
      have heq := JobTable.eq_of_jobId_eq hother.left hrow hid
      rw [heq] at hother
      exact hscope hother.right

theorem restoredRow_jobId (row : WorkflowJob) :
    (s.restoredRow authority snapshot now row).jobId = row.jobId := by
  unfold restoredRow planned
  split
  · split
    · rfl
    · exact RowAction.apply_jobId _ _
  · rfl

theorem Restored.mem (h : Restored s authority snapshot now s') (hrow : row ∈ s'.jobs.rows) :
    exists old, old ∈ s.jobs.rows ∧ row = s.restoredRow authority snapshot now old := by
  have hids : s'.jobs.rows.map WorkflowJob.jobId = s.jobs.rows.map WorkflowJob.jobId := by
    rw [h.jobs]
    exact actEach_ids _ _ _ _
  have hmem : row.jobId ∈ s.jobs.rows.map WorkflowJob.jobId := by
    rw [← hids]
    exact List.mem_map_of_mem hrow
  rcases List.mem_map.mp hmem with ⟨old, hold, hid⟩
  refine ⟨old, hold, ?_⟩
  have hfound := h.find? hold
  rw [hid, JobTable.find?_of_mem hrow] at hfound
  exact Option.some.inj hfound

theorem captured_kept (hsound : AuthoritySound s authority)
    {row captured : WorkflowJob} (hrow : row ∈ s.jobs.rows)
    (hcaptured : authority.capturedJob row.jobId = some captured) :
    captured ∈ authority.jobs ∧ RowKept captured row := by
  rcases capturedJob_eq_some hcaptured with ⟨hmem, hid⟩
  rcases hsound.known captured hmem with ⟨found, hfound, hkept⟩
  rw [hid, JobTable.find?_of_mem hrow] at hfound
  cases hfound
  exact ⟨hmem, hkept⟩

theorem apply_restore_captured (hsound : AuthoritySound s authority)
    {row captured : WorkflowJob} (hrow : row ∈ s.jobs.rows)
    (hcaptured : authority.capturedJob row.jobId = some captured) :
    (RowAction.restore captured).apply row = captured := by
  have hkept := (captured_kept hsound hrow hcaptured).right
  have hid := (capturedJob_eq_some hcaptured).right
  simp only [RowAction.apply, ← hid, hkept.sequence]

/-- The cases of the restored form of a row. -/
inductive RestoreCase (s : Store) (authority : WorkflowSnapshotAuthority)
    (snapshot : Nat) (now : Int) (row : WorkflowJob) : WorkflowJob -> Prop where
  | kept (hkept : authority.coversRow row = false ∨ row.workflowManaged = false ∨
        s.restorePlan authority snapshot now row = none) :
      RestoreCase s authority snapshot now row row
  | captured (captured : WorkflowJob) (hcovers : authority.coversRow row = true)
      (hmanaged : row.workflowManaged = true)
      (hquarantined : row.isQuarantined = false)
      (hrearmed : s.rearmedAfter authority row.jobId = false)
      (hcaptured : authority.capturedJob row.jobId = some captured) :
      RestoreCase s authority snapshot now row ((RowAction.restore captured).apply row)
  | superseded (hcovers : authority.coversRow row = true) (hmanaged : row.workflowManaged = true)
      (hquarantined : row.isQuarantined = false)
      (hrearmed : s.rearmedAfter authority row.jobId = false)
      (hcaptured : authority.capturedJob row.jobId = none)
      (hactive : row.isActive = true) :
      RestoreCase s authority snapshot now row
        ((RowAction.supersede ("publication-rollback:" ++ toString snapshot)
          "workflow snapshot publication did not commit" now).apply row)

theorem restoredRow_cases (s : Store) (authority : WorkflowSnapshotAuthority)
    (snapshot : Nat) (now : Int) (row : WorkflowJob) :
    RestoreCase s authority snapshot now row (s.restoredRow authority snapshot now row) := by
  unfold restoredRow
  split
  · rename_i hscope
    rcases hscope with ⟨hcovers, hmanaged⟩
    unfold planned
    split
    · rename_i hplan
      exact RestoreCase.kept (Or.inr (Or.inr hplan))
    · rename_i action event hplan
      unfold restorePlan at hplan
      split at hplan
      · cases hplan
      · rename_i hquarantined
        split at hplan
        · cases hplan
        · rename_i hrearmed
          simp only [Bool.not_eq_true] at hquarantined hrearmed
          split at hplan
          · rename_i captured hcaptured
            cases hplan
            exact RestoreCase.captured captured hcovers hmanaged hquarantined hrearmed hcaptured
          · rename_i hcaptured
            split at hplan
            · rename_i hactive
              cases hplan
              exact RestoreCase.superseded hcovers hmanaged hquarantined hrearmed hcaptured hactive
            · cases hplan
  · rename_i hscope
    apply RestoreCase.kept
    by_cases hcovers : authority.coversRow row = true
    · by_cases hmanaged : row.workflowManaged = true
      · exact absurd ⟨hcovers, hmanaged⟩ hscope
      · exact .inr (Or.inl (by simpa using hmanaged))
    · exact .inl (by simpa using hcovers)

end Store

theorem Op.step_restore (checkpoints : List WorkflowSnapshotAuthority)
    (s : Store) (index snapshot : Nat) (now : Int) :
    Op.step checkpoints s (.restoreSnapshotAuthority index snapshot now) = s ∨
      exists authority, checkpoints[index]? = some authority ∧
        Store.Restored s authority snapshot now (Op.step checkpoints s
            (.restoreSnapshotAuthority index snapshot now)) := by
  unfold Op.step
  cases happly : Op.apply checkpoints s
      (.restoreSnapshotAuthority index snapshot now) with
  | error e => exact .inl rfl
  | ok written =>
    simp only [Op.apply] at happly
    split at happly
    · rename_i authority hauthority
      rcases map_store_eq_ok happly with ⟨flag, hok, _⟩
      rcases Store.restoreSnapshotAuthority_eq_ok hok with
        ⟨hs', _⟩ | ⟨_, _, hrestored⟩
      · exact .inl hs'
      · exact .inr ⟨authority, hauthority, hrestored⟩
    · cases happly

end WorkflowJobs
end Oompah
