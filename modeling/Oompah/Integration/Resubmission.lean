import Oompah.Integration.Columns

/-!
# Identical resubmissions

`enqueue` compares a submission with the columns it finds, and some of these
are overwritten after the row is submitted.  `Accepted` remembers the identity
of the last submission of every row beside the store.
-/

namespace Oompah
namespace Integration

open Foundation
open IntegrationQueueStore (Submission enqueue)
open IntegrationQueueStore.Submission (delivery identical keeps missing retryInactive
  retryIntegrated)

/-- The identity of a submission, as `enqueue` compares it. -/
structure SubmissionIdentity where
  epicId : String
  taskBranch : String
  headSha : String
  baseBranch : String
  baseSha : String
  deriving DecidableEq

def IntegrationQueueStore.Submission.identity (rt : QueueRuntime)
    (x : IntegrationQueueStore.Submission) : SubmissionIdentity :=
  { epicId := x.epicId
    taskBranch := x.taskBranch
    headSha := x.headSha
    baseBranch := textOr x.baseBranch ""
    baseSha := rt.lower (textOr x.baseSha "") }

def DeliveryColumns.identity (rt : QueueRuntime) (d : DeliveryColumns) : SubmissionIdentity :=
  { epicId := d.epicId
    taskBranch := d.taskBranch
    headSha := textOr d.candidateHeadSha d.headSha
    baseBranch := textOr d.baseBranch ""
    baseSha := rt.lower (textOr d.candidateBaseSha (textOr d.baseSha "")) }

@[simp] theorem textOr_textOrNone (value : Option String) :
    textOr (textOrNone value) "" = textOr value "" := by
  cases value with
  | none => rfl
  | some text =>
    by_cases htext : text = "" <;> simp [textOr, textOrNone, Option.filter, htext]

@[simp] theorem textOr_none (default : String) : textOr none default = default := rfl

theorem identity_delivery (rt : QueueRuntime) (x : Submission) :
    x.delivery.identity rt = x.identity rt := by
  simp [DeliveryColumns.identity, delivery, IntegrationQueueStore.Submission.identity]

theorem identical_iff (rt : QueueRuntime) (x : Submission) (existing : IntegrationQueueItem) :
    x.identical rt existing = true <-> existing.delivery.identity rt = x.identity rt := by
  simp [identical, IntegrationQueueStore.Submission.identity, DeliveryColumns.identity,
    IntegrationQueueItem.delivery, and_assoc]
  tauto

namespace QueueOp

/-- The identity an operation submits for a row. -/
def identity (rt : QueueRuntime) : QueueOp -> Option SubmissionIdentity
  | enqueue x _ => some (x.identity rt)
  | enqueueIfAbsent x _ => some (x.identity rt)
  | replaceTaskIdentity _ _ parent branch head baseBranch baseSha _ _ _ =>
    some
      { epicId := parent
        taskBranch := branch
        headSha := head
        baseBranch := textOr baseBranch ""
        baseSha := rt.lower (textOr baseSha "") }
  | _ => none

/-- The operation submits the row and its submission is accepted. -/
def accepts (rt : QueueRuntime) (s : IntegrationQueueStore) : QueueOp -> RowKey -> Bool
  | enqueue x now, k => x.key = k && (s.enqueue rt x now).2.isOk
  | enqueueIfAbsent x now, k =>
    x.key = k && (s.enqueueIfAbsent rt x now).2.toOption.join.isSome
  | replaceTaskIdentity k' expected parent branch head baseBranch baseSha priority
      submittedAt now, k =>
      k' = k && (s.replaceTaskIdentity rt k' expected parent branch head baseBranch
          baseSha priority submittedAt now).2.isSome
  | _, _ => false

end QueueOp

/-- The store with the identity of the last accepted submission of every row. -/
structure Accepted where
  store : IntegrationQueueStore := {}
  last : RowKey -> Option SubmissionIdentity := fun _ => none

namespace Accepted

def step (rt : QueueRuntime) (c : Accepted) (op : QueueOp) :
    Accepted :=
  { store := op.apply rt c.store
    last := fun k => if op.accepts rt c.store k then op.identity rt else c.last k }

/-- Submitting a ready or integrating row once more returns it unchanged. -/
def Idempotent (rt : QueueRuntime) (c : Accepted) : Prop :=
  forall (x : IntegrationQueueStore.Submission) (now : String)
    (row : IntegrationQueueItem), c.store.get x.key = some row ->
    row.state = .ready ∨ row.state = .integrating -> c.last x.key = some (x.identity rt) ->
    c.store.enqueue rt x now = (c.store, .ok row)

end Accepted

/-!
# Overwritten identities
-/

/--
An operation writes, over some row, columns that compare unlike the identity it
submits or, when it submits none, unlike those it finds.
-/
def QueueOp.overwrites (rt : QueueRuntime) (s : IntegrationQueueStore) (op : QueueOp) : Bool :=
  s.rows.any fun row =>
    (op.deliver rt row).any fun columns =>
      columns.identity rt ≠ (op.identity rt).getD (row.delivery.identity rt)

section Steps

variable {rt : QueueRuntime} {s : IntegrationQueueStore}
variable {k : RowKey}

variable {op : QueueOp} {row : IntegrationQueueItem} {columns : DeliveryColumns}

theorem identity_of_not_overwrites (h : op.overwrites rt s = false)
    (hrow : s.get k = some row) (hcolumns : op.deliver rt row = some columns) :
    columns.identity rt = (op.identity rt).getD (row.delivery.identity rt) := by
  unfold QueueOp.overwrites at h
  rw [List.any_eq_false] at h
  have hkept := h row (mem_of_rowAt hrow)
  rw [hcolumns] at hkept
  simpa using hkept

/-!
# Accepted submissions
-/

theorem missing_eq_nil_iff (x : Submission) :
    x.missing = [] <-> x.projectId ≠ "" ∧ x.epicId ≠ "" ∧ x.taskId ≠ "" ∧
      x.taskBranch ≠ "" ∧ x.headSha ≠ "" := by
  unfold missing
  simp

theorem enqueue_isOk (x : Submission) (now : String) :
    (s.enqueue rt x now).2.isOk = true <-> x.missing = [] := by
  unfold enqueue
  split
  · rename_i hmissing
    simp [Except.isOk, Except.toBool, hmissing]
  · rename_i hcomplete
    rw [not_not] at hcomplete
    split
    · simp [Except.isOk, Except.toBool, hcomplete]
    · split <;> simp [Except.isOk, Except.toBool, hcomplete]

theorem enqueueIfAbsent_inserts (x : Submission) (now : String) :
    (s.enqueueIfAbsent rt x now).2.toOption.join.isSome = true <->
      x.missing = [] ∧ s.get x.key = none := by
  unfold IntegrationQueueStore.enqueueIfAbsent
  split
  · rename_i hmissing
    simp [Except.toOption, hmissing]
  · rename_i hcomplete
    rw [not_not] at hcomplete
    cases hrow : s.get x.key with
    | none => simp [Except.toOption, hcomplete]
    | some row => simp [Except.toOption]

theorem replaceTaskIdentity_isSome (expected parent branch head : String)
    (baseBranch baseSha : Option String) (priority : Option Int)
    (submittedAt : Option String) (now : String) :
    (s.replaceTaskIdentity rt k expected parent branch head baseBranch baseSha
        priority submittedAt now).2.isSome = true <->
      exists row, s.get k = some row ∧
        ((QueueOp.replaceTaskIdentity k expected parent branch head baseBranch baseSha
          priority submittedAt now).deliver rt row).isSome = true := by
  unfold IntegrationQueueStore.replaceTaskIdentity
  split
  · rename_i hempty
    simp [QueueOp.deliver, hempty]
  · rename_i hnamed
    rw [casUpdate_result]
    · cases hrow : s.get k with
      | none => simp
      | some row =>
        have hkey : row.key = k := rowAt_key hrow
        simp [QueueOp.deliver, hkey, hnamed, Option.filter, and_assoc]
    · exact fun _ _ => rfl

theorem accepts_of_deliver (hrow : s.get k = some row) (hcolumns : op.deliver rt row = some columns)
    (hsubmits : (op.identity rt).isSome = true) : op.accepts rt s k = true := by
  have hkey : row.key = k := rowAt_key hrow
  cases op with
  | enqueue x now =>
    rw [QueueOp.deliver, Option.ite_none_right_eq_some] at hcolumns
    rcases hcolumns with ⟨⟨hx, hcomplete, -⟩, -⟩
    simp [QueueOp.accepts, hx.symm.trans hkey, (enqueue_isOk x now).mpr hcomplete]
  | enqueueIfAbsent => cases hcolumns
  | replaceTaskIdentity k' expected parent branch head baseBranch baseSha priority
      submittedAt now =>
      have hdelivered := hcolumns
      rw [QueueOp.deliver, Option.ite_none_right_eq_some] at hcolumns
      have hk : k' = k := hcolumns.left.left.symm.trans hkey
      subst hk
      simp only [QueueOp.accepts, decide_true, Bool.true_and]
      exact replaceTaskIdentity_isSome .. |>.mpr ⟨row, hrow, by rw [hdelivered]; rfl⟩
  | _ => cases hsubmits

theorem accepts_cases (h : op.accepts rt s k = true) :
    exists identity, op.identity rt = some identity ∧ ((exists row, s.get k = some row ∧
          (op.deliver rt row = none -> row.delivery.identity rt = identity)) ∨
        s.get k = none) := by
  cases op with
  | enqueue x now =>
    simp only [QueueOp.accepts, Bool.and_eq_true, decide_eq_true_eq] at h
    rcases h with ⟨rfl, hok⟩
    refine ⟨x.identity rt, rfl, ?_⟩
    cases hrow : s.get x.key with
    | none => exact .inr rfl
    | some row =>
      refine .inl ⟨row, rfl, ?_⟩
      intro hkept
      have hkey := rowAt_key hrow
      have hcomplete := (enqueue_isOk x now).mp hok
      have hkeeps : x.keeps rt row = true := by
        simpa [QueueOp.deliver, hkey, hcomplete] using hkept
      simp only [keeps, Bool.and_eq_true] at hkeeps
      exact (identical_iff rt x row).mp hkeeps.left.left
  | enqueueIfAbsent x now =>
    simp only [QueueOp.accepts, Bool.and_eq_true, decide_eq_true_eq] at h
    rcases h with ⟨rfl, hinserted⟩
    exact ⟨x.identity rt, rfl, Or.inr ((enqueueIfAbsent_inserts x now).mp hinserted).right⟩
  | replaceTaskIdentity k' expected parent branch head baseBranch baseSha priority
      submittedAt now =>
      simp only [QueueOp.accepts, Bool.and_eq_true, decide_eq_true_eq] at h
      rcases h with ⟨rfl, hreplaced⟩
      rcases (replaceTaskIdentity_isSome ..).mp hreplaced with ⟨row, hrow, hdelivered⟩
      refine ⟨_, rfl, Or.inl ⟨row, hrow, ?_⟩⟩
      intro hkept
      rw [hkept] at hdelivered
      cases hdelivered
  | _ => cases h

theorem fresh_cases (habsent : s.get k = none) (h : op.fresh k = some columns) :
    op.accepts rt s k = true ∧ op.identity rt = some (columns.identity rt) := by
  cases op with
  | enqueue x now =>
    rw [QueueOp.fresh, Option.ite_none_right_eq_some] at h
    rcases h with ⟨⟨hcomplete, hkey⟩, heq⟩
    cases heq
    constructor
    · simp [QueueOp.accepts, hkey, (enqueue_isOk x now).mpr hcomplete]
    · rw [identity_delivery]
      rfl
  | enqueueIfAbsent x now =>
    rw [QueueOp.fresh, Option.ite_none_right_eq_some] at h
    rcases h with ⟨⟨hcomplete, hkey⟩, heq⟩
    cases heq
    subst hkey
    constructor
    · simp only [QueueOp.accepts, decide_true, Bool.true_and]
      exact (enqueueIfAbsent_inserts x now).mpr ⟨hcomplete, habsent⟩
    · rw [identity_delivery]
      rfl
  | _ => cases h

/-!
# Runs that overwrite nothing
-/

/-- Every row compares like the last submission of it that was accepted. -/
structure Accepted.Faithful (rt : QueueRuntime) (c : Accepted) : Prop where
  kept : WellKept c.store
  named : forall k identity, c.last k = some identity ->
    k.projectId ≠ "" ∧ k.taskId ≠ "" ∧ identity.epicId ≠ "" ∧
      identity.taskBranch ≠ "" ∧ identity.headSha ≠ ""
  submitted : forall k row, c.store.get k = some row -> c.last k = some (row.delivery.identity rt)

theorem faithful_empty : Accepted.Faithful rt {} := by
  constructor
  · exact wellKept_empty
  · exact fun _ _ h => nomatch h
  · exact fun _ _ h => nomatch h

variable {c : Accepted}

theorem accepted_named (h : c.Faithful rt) (haccepts : op.accepts rt c.store k = true)
    {identity : SubmissionIdentity} (hidentity : op.identity rt = some identity) :
    k.projectId ≠ "" ∧ k.taskId ≠ "" ∧ identity.epicId ≠ "" ∧
      identity.taskBranch ≠ "" ∧ identity.headSha ≠ "" := by
  cases op with
  | enqueue x now =>
    simp only [QueueOp.accepts, Bool.and_eq_true, decide_eq_true_eq] at haccepts
    rcases haccepts with ⟨rfl, hok⟩
    cases hidentity
    rcases (missing_eq_nil_iff x).mp ((enqueue_isOk x now).mp hok) with
      ⟨hproject, hepic, htask, hbranch, hhead⟩
    exact ⟨hproject, htask, hepic, hbranch, hhead⟩
  | enqueueIfAbsent x now =>
    simp only [QueueOp.accepts, Bool.and_eq_true, decide_eq_true_eq] at haccepts
    rcases haccepts with ⟨rfl, hinserted⟩
    cases hidentity
    rcases (missing_eq_nil_iff x).mp
      ((enqueueIfAbsent_inserts x now).mp hinserted).left with
      ⟨hproject, hepic, htask, hbranch, hhead⟩
    exact ⟨hproject, htask, hepic, hbranch, hhead⟩
  | replaceTaskIdentity k' expected parent branch head baseBranch baseSha priority
      submittedAt now =>
      simp only [QueueOp.accepts, Bool.and_eq_true, decide_eq_true_eq] at haccepts
      rcases haccepts with ⟨rfl, hreplaced⟩
      cases hidentity
      rcases (replaceTaskIdentity_isSome ..).mp hreplaced with ⟨row, hrow, hdelivered⟩
      rcases h.named k' _ (h.submitted k' row hrow) with ⟨hproject, htask, -⟩
      rw [QueueOp.deliver, Option.isSome_ite] at hdelivered
      simp only [not_or] at hdelivered
      exact ⟨hproject, htask, hdelivered.right.left.right⟩
  | _ => cases haccepts

theorem Accepted.Faithful.step (h : c.Faithful rt) (hop : op.overwrites rt c.store = false) :
    (c.step rt op).Faithful rt := by
  constructor
  · exact h.kept.step rt op
  · intro k identity hlast
    change (if op.accepts rt c.store k then op.identity rt else c.last k) = _ at hlast
    split at hlast
    · rename_i haccepts
      exact accepted_named h haccepts hlast
    · exact h.named k identity hlast
  · intro k row' hrow'
    change (if op.accepts rt c.store k then op.identity rt else c.last k) = _
    have hdelivers := apply_delivers rt h.kept op k
    change (op.apply rt c.store).get k = some row' at hrow'
    rw [hrow', Option.map_some] at hdelivers
    cases hrow : c.store.get k with
    | none =>
      rw [hrow, Option.map_none, Option.none_or] at hdelivers
      have hfresh : op.accepts rt c.store k = true ∧
          op.identity rt = some (row'.delivery.identity rt) :=
        fresh_cases hrow hdelivers.symm
      rcases hfresh with ⟨haccepts, hidentity⟩
      rw [if_pos haccepts, hidentity]
    | some row =>
      rw [hrow, Option.map_some, Option.some_or, Option.some_inj] at hdelivers
      cases hcolumns : op.deliver rt row with
      | some columns =>
        have hidentity := identity_of_not_overwrites hop hrow hcolumns
        rw [hcolumns, Option.getD_some] at hdelivers
        rw [hdelivers, hidentity]
        cases hsubmits : op.identity rt with
        | some identity =>
          rw [if_pos (accepts_of_deliver hrow hcolumns (by rw [hsubmits]; rfl))]
          rfl
        | none =>
          rw [if_neg]
          · exact h.submitted k row hrow
          · intro haccepts
            rcases accepts_cases haccepts with ⟨identity, hsome, -⟩
            rw [hsubmits] at hsome
            cases hsome
      | none =>
        rw [hcolumns, Option.getD_none] at hdelivers
        rw [hdelivers]
        split
        · rename_i haccepts
          rcases accepts_cases haccepts with
            ⟨identity, hidentity, ⟨found, hfound, hlike⟩ | habsent⟩
          · rw [hrow] at hfound
            cases hfound
            rw [hidentity, hlike hcolumns]
          · rw [hrow] at habsent
            cases habsent
        · exact h.submitted k row hrow

theorem Accepted.Faithful.idempotent (h : c.Faithful rt) : c.Idempotent rt := by
  intro x now row hrow hstate hlast
  have hidentical : x.identical rt row = true := by
    rw [h.submitted x.key row hrow, Option.some_inj] at hlast
    exact (identical_iff rt x row).mpr hlast
  have hcomplete : x.missing = [] := by
    rcases h.named x.key (x.identity rt) hlast with ⟨hproject, htask, hepic, hbranch, hhead⟩
    exact (missing_eq_nil_iff x).mpr ⟨hproject, hepic, htask, hbranch, hhead⟩
  have hkeeps : (x.identical rt row && !x.retryInactive rt row && !x.retryIntegrated rt row) =
      true := by
    rcases hstate with hready | hleased
    · simp [hidentical, retryInactive, retryIntegrated, hready]
    · simp [hidentical, retryInactive, retryIntegrated, hleased]
  unfold enqueue
  rw [if_neg (not_not.mpr hcomplete), hrow]
  dsimp only
  rw [if_pos hkeeps]

/-- Resubmissions are idempotent over every run that overwrites no identity. -/
theorem resubmission_idempotent (rt : QueueRuntime) (ops : List QueueOp)
    (hops : Guarded (Accepted.step rt) (fun c op => op.overwrites rt c.store = false) {} ops) :
    (run (Accepted.step rt) {} ops).Idempotent rt :=
  (guarded_invariant_run (fun _ _ h hop => h.step hop) faithful_empty hops).idempotent

end Steps

/-!
# A candidate that is dropped
-/

def firstClaim : IntegrationQueueStore.ClaimRequest :=
  { projectId := "p"
    epicId := "e"
    leaseOwner := "first"
    dependencyMap := fun _ => []
    satisfied := [] }

def recordedOnce : List QueueOp :=
  [.enqueue sampleSubmission "1", .claimNext firstClaim 0 "2",
    .recordCandidate sampleKey "first" "h" none "c" "b" "3"]

/-- The state, lease, candidate and attempts of the sample row. -/
def sampleProgress (s : IntegrationQueueStore) :
    Option (QueueState × Option String × Option String × Int) :=
  (s.get sampleKey).map fun row =>
    (row.state, row.leaseOwner, row.candidateHeadSha, row.attempts)

/-- The submission takes the lease and the candidate from the row it is about. -/
theorem recordedOnce_resets :
    sampleProgress (run (Accepted.step sampleRuntime) {} recordedOnce).store =
        some (.integrating, some "first", some "c", 1) ∧
      sampleProgress
          ((run (Accepted.step sampleRuntime) {} recordedOnce).store.enqueue sampleRuntime
            sampleSubmission "4").1 = some (.ready, none, none, 0) ∧
      ¬ (run (Accepted.step sampleRuntime) {} recordedOnce).Idempotent sampleRuntime := by
  have hbefore : sampleProgress (run (Accepted.step sampleRuntime) {} recordedOnce).store =
        some (.integrating, some "first", some "c", 1) := by decide +kernel
  have hafter : sampleProgress
      ((run (Accepted.step sampleRuntime) {} recordedOnce).store.enqueue sampleRuntime
        sampleSubmission "4").1 = some (.ready, none, none, 0) := by decide +kernel
  refine ⟨hbefore, hafter, ?_⟩
  intro hidempotent
  rcases Option.map_eq_some_iff.mp hbefore with ⟨row, hrow, hprogress⟩
  have hstate : row.state = .integrating := congrArg Prod.fst hprogress
  rw [hidempotent sampleSubmission "4" row hrow (Or.inr hstate) (by decide +kernel),
    hbefore] at hafter
  cases hafter

/-- A claimed row stays claimed when its submission is repeated. -/
theorem resubmission_idempotent_claimed :
    (run (Accepted.step sampleRuntime) {} (recordedOnce.take 2)).Idempotent sampleRuntime :=
  resubmission_idempotent sampleRuntime (recordedOnce.take 2) (by decide +kernel)

end Integration
end Oompah
