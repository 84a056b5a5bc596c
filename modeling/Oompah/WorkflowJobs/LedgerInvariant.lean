import Oompah.WorkflowJobs.Runs

/-!
# The ledger invariant

What `integrity_check` requires of the lease columns and what a claim relies
on in the retry columns.  Every row action keeps it except a lease with an
expiry on a row whose phase still reads `quarantined`.
-/

namespace Oompah
namespace WorkflowJobs

open Foundation

structure LedgerInvariant (row : WorkflowJob) : Prop where
  owner : row.state = .running -> exists owner, row.leaseOwner = some owner ∧ owner ≠ ""
  token : row.state = .running -> exists token, row.leaseToken = some token ∧ token ≠ ""
  expiry : row.state = .running -> (row.leaseExpiresAt.isSome = true <-> row.phase ≠ "quarantined")
  released : row.state ≠ .running ->
    row.leaseOwner = none ∧ row.leaseToken = none ∧ row.leaseExpiresAt = none
  retry : row.retryAt.isSome = true <-> row.state = .retryWait
  waiting : row.state = .queued ∨ row.state = .retryWait -> row.attempts < row.spec.maxAttempts
  attempts_nonneg : 0 ≤ row.attempts
  attempts_le : row.attempts ≤ row.spec.maxAttempts

variable {action : RowAction}

namespace LedgerInvariant

theorem fresh (jobId : String) (sequence : Nat) (spec : WorkflowJobSpec)
    (managed : Bool) (now : Int) :
    LedgerInvariant (WorkflowJob.fresh jobId sequence spec managed now) := by
  have hmax := spec.maxAttempts_pos
  constructor
  · simp [WorkflowJob.fresh]
  · simp [WorkflowJob.fresh]
  · simp [WorkflowJob.fresh]
  · simp [WorkflowJob.fresh]
  · simp [WorkflowJob.fresh]
  · simp only [WorkflowJob.fresh]
    omega
  · simp [WorkflowJob.fresh]
  · simp only [WorkflowJob.fresh]
    omega

/-!
# Rows that leave the running state
-/

variable {row : WorkflowJob}

/-- A row whose lease columns are cleared and whose state is not running. -/
theorem of_released (hstate : row.state ≠ .running)
    (howner : row.leaseOwner = none) (htoken : row.leaseToken = none)
    (hexpiry : row.leaseExpiresAt = none)
    (hretry : row.retryAt.isSome = true <-> row.state = .retryWait)
    (hwaiting : row.state = .queued ∨ row.state = .retryWait -> row.attempts < row.spec.maxAttempts)
    (hnonneg : 0 ≤ row.attempts) (hle : row.attempts ≤ row.spec.maxAttempts) :
    LedgerInvariant row where
  owner := fun h => absurd h hstate
  token := fun h => absurd h hstate
  expiry := fun h => absurd h hstate
  released := fun _ => ⟨howner, htoken, hexpiry⟩
  retry := hretry
  waiting := hwaiting
  attempts_nonneg := hnonneg
  attempts_le := hle

theorem restoredAttempts_bounds (h : LedgerInvariant row) :
    0 ≤ row.restoredAttempts ∧ row.restoredAttempts < row.spec.maxAttempts := by
  have hmax := row.spec.maxAttempts_pos
  have hle := h.attempts_le
  unfold WorkflowJob.restoredAttempts
  omega

theorem attempts_lt_of_canRetry {retryable : Bool} (h : row.canRetry retryable = true) :
    row.attempts < row.spec.maxAttempts := by
  simp only [WorkflowJob.canRetry, WorkflowJob.attemptsExhausted,
    Bool.and_eq_true, Bool.not_eq_true', decide_eq_false_iff_not,
    Int.not_le] at h
  exact h.right

/-!
# One row action
-/

theorem apply (happlicable : action.Applicable row)
    (hphase : forall phase saved now, action = .checkpoint phase saved now -> phase ≠ "quarantined")
    (hlease : action.isClaim = true -> row.phase ≠ "quarantined")
    (hreclaim : action.isReclaim = true -> row.phase ≠ "quarantined")
    (hcaptured : forall captured, action.capturedRow = some captured -> LedgerInvariant captured)
    (h : LedgerInvariant row) :
    LedgerInvariant (action.apply row) := by
  have hmax := row.spec.maxAttempts_pos
  have hnonneg := h.attempts_nonneg
  have hle := h.attempts_le
  rcases h.restoredAttempts_bounds with ⟨hrestored, hbelow⟩
  have hrestoredLe := le_of_lt hbelow
  cases action with
  | manage => exact { h with }
  | supersede =>
    apply of_released <;> simp [RowAction.apply, WorkflowJob.released, hnonneg, hle]
  | cancel =>
    apply of_released <;> simp [RowAction.apply, WorkflowJob.released, hnonneg, hle]
  | cancelOwned =>
    apply of_released <;> simp [RowAction.apply, WorkflowJob.released, hnonneg, hle]
  | complete =>
    have hretry : row.retryAt = none := by
      have hstate := happlicable.left
      simpa [hstate] using h.retry
    apply of_released <;> simp [RowAction.apply, WorkflowJob.released, hretry, hnonneg, hle]
  | recover category error phase now =>
    by_cases hexhausted : row.attemptsExhausted = true
    · apply of_released <;> simp [RowAction.apply, WorkflowJob.released, hexhausted, hnonneg, hle]
    · have hlt : row.attempts < row.spec.maxAttempts := by
        simpa [WorkflowJob.attemptsExhausted] using hexhausted
      apply of_released <;>
        simp [RowAction.apply, WorkflowJob.released, hexhausted, hlt, hnonneg, hle]
  | claim owner token expiresAt now =>
    rcases happlicable with ⟨_, hlt, howner, htoken⟩
    have hphase := hlease rfl
    constructor
    · exact fun _ => ⟨owner, rfl, howner⟩
    · exact fun _ => ⟨token, rfl, htoken⟩
    · simp [RowAction.apply, hphase]
    · simp [RowAction.apply]
    · simp [RowAction.apply]
    · simp [RowAction.apply]
    · simp only [RowAction.apply]
      omega
    · simp only [RowAction.apply]
      omega
  | reclaim owner token expiresAt now =>
    rcases happlicable with ⟨hrunning, howner, htoken⟩
    have hphase := hreclaim rfl
    exact
      { h with
        owner := fun _ => ⟨owner, rfl, howner⟩
        token := fun _ => ⟨token, rfl, htoken⟩
        expiry := fun _ => by simp [RowAction.apply, hphase]
        released := fun hstate => absurd hrunning hstate }
  | renew expiresAt now =>
    rcases happlicable with ⟨hrunning, hexpiry⟩
    have hphase := (h.expiry hrunning).mp hexpiry
    exact
      { h with
        expiry := fun _ => by simp [RowAction.apply, hphase]
        released := fun hstate => absurd hrunning hstate }
  | checkpoint phase saved now =>
    rcases happlicable with ⟨hrunning, hexpiry⟩
    have hne := hphase phase saved now rfl
    exact
      { h with
        expiry := fun _ => by simp [RowAction.apply, hne, hexpiry] }
  | fail category message retryable retryDelay phase now =>
    by_cases hretry : row.canRetry retryable = true
    · have hlt := attempts_lt_of_canRetry hretry
      apply of_released <;> simp [RowAction.apply, WorkflowJob.released, hretry, hlt, hnonneg, hle]
    · apply of_released <;> simp [RowAction.apply, WorkflowJob.released, hretry, hnonneg, hle]
  | requeue =>
    apply of_released <;>
      simp [RowAction.apply, hrestored, hbelow, hrestoredLe, WorkflowJob.released]
  | deferAdministrative =>
    apply of_released <;>
      simp [RowAction.apply, hrestored, hbelow, hrestoredLe, WorkflowJob.released]
  | deferUntil reason deadline now =>
    by_cases hdue : deadline ≤ now
    · apply of_released <;>
        simp [RowAction.apply, hdue, hrestored, hrestoredLe, WorkflowJob.released]
    · apply of_released <;>
        simp [RowAction.apply, hdue, hrestored, hbelow, hrestoredLe, WorkflowJob.released]
  | quarantine category message now =>
    have hrunning : row.state = .running := happlicable
    exact
      { h with
        expiry := fun _ => by simp [RowAction.apply]
        released := fun hstate => absurd hrunning hstate
        retry := by simp [RowAction.apply, hrunning] }
  | settleReturned =>
    apply of_released <;>
      simp [RowAction.apply, hrestored, hbelow, hrestoredLe, WorkflowJob.released]
  | settleFailed category message retryable retryDelay now =>
    by_cases hretry : row.canRetry retryable = true
    · have hlt := attempts_lt_of_canRetry hretry
      apply of_released <;> simp [RowAction.apply, WorkflowJob.released, hretry, hlt, hnonneg, hle]
    · apply of_released <;> simp [RowAction.apply, WorkflowJob.released, hretry, hnonneg, hle]
  | requestRecycle => exact { h with }
  | rearm =>
    have hpositive : 0 < row.spec.maxAttempts := by omega
    apply of_released <;> simp [RowAction.apply, WorkflowJob.released, hpositive, le_of_lt]
  | restore captured => exact { hcaptured captured rfl with }

end LedgerInvariant

/-!
# Operations
-/

def ScheduleOp.phaseArguments : ScheduleOp -> List String
  | .reconcileSchedule _ _ _ _ specs _ _ _ _ =>
    specs.map (fun item => item.1.phase)
  | _ => []

/-- The phases an operation writes from its arguments. -/
def Op.phaseArguments : Op -> List String
  | .enqueue spec _ _ => [spec.phase]
  | .enqueueReplacingLane spec _ _ _ _ _ _ _ => [spec.phase]
  | .rearmExhaustedJob _ _ phase _ _ => [phase]
  | .schedule op => op.phaseArguments
  | .schedulingBatch ops => ops.flatMap ScheduleOp.phaseArguments
  | .checkpoint _ _ phase _ _ => [phase]
  | .fail _ _ _ _ _ _ phase _ => phase.toList
  | .requeueOwnedWithoutAttempt _ _ _ phase _ _ => [phase]
  | .recoverAbandoned _ phase _ _ _ => phase.toList
  | _ => []

/--
The operation is about to put an expiring lease on a row whose phase reads
`quarantined`: recovery without a phase leaves it there for the next claim, and
`reclaim_abandoned` accepts a detached call.
-/
def Op.leasesDetached (s : Store) : Op -> Bool
  | .claimNext _ _ _ filter fairAcrossProjects recoveryLimit now =>
    ((s.recoverForClaim filter recoveryLimit now).selectClaim filter
      fairAcrossProjects now).any (fun row => row.phase = "quarantined")
  | .reclaimAbandoned jobId leaseToken _ _ _ expectedPhase _ =>
    (s.jobs.find? jobId).any (fun row =>
      row.isQuarantined && row.leaseToken = some leaseToken &&
        expectedPhase.all (fun phase => row.phase = phase))
  | _ => false

variable {checkpoints : List WorkflowSnapshotAuthority} {s current : Store} {op : Op}
  {row : WorkflowJob}

theorem Op.checkpoint_phase_mem {phase : String} {saved : JsonObject} {now : Int}
    (hallows : (op.permit checkpoints s).Allows current (.checkpoint phase saved now) row) :
    phase ∈ op.phaseArguments := by
  have hphases := hallows.phases phase rfl
  cases op with
  | rearmExhaustedJob => simp [phaseArguments, show phase = _ from hphases]
  | checkpoint => simp [phaseArguments, show phase = _ from hphases]
  | fail => simp [phaseArguments, show _ = some phase from hphases]
  | requeueOwnedWithoutAttempt => simp [phaseArguments, show phase = _ from hphases]
  | recoverAbandoned => simp [phaseArguments, show _ = some phase from hphases]
  | _ => exact False.elim hphases

theorem Op.claim_phase (hallows : (op.permit checkpoints s).Allows current action row)
    (hclaim : action.isClaim = true) (hattached : op.leasesDetached s = false) :
    row.phase ≠ "quarantined" := by
  have hclaims := hallows.claims hclaim
  cases op with
  | claimNext =>
    rcases hclaims with ⟨hcurrent, hselect, _⟩
    rw [hcurrent] at hselect
    simpa [leasesDetached, hselect] using hattached
  | _ => exact hclaims.elim

theorem Op.reclaim_phase (hallows : (op.permit checkpoints s).Allows current action row)
    (hreclaim : action.isReclaim = true) (hattached : op.leasesDetached s = false) :
    row.phase ≠ "quarantined" := by
  have hreclaims := hallows.reclaims hreclaim
  cases op with
  | reclaimAbandoned jobId leaseToken owner token seconds expectedPhase now =>
    rcases hreclaims with ⟨hfound, hrunning, htoken, hexpected⟩
    intro hphase
    have hmatches : expectedPhase.all (fun phase => "quarantined" = phase) = true := by
      cases expectedPhase with
      | none => rfl
      | some phase => simp [← hexpected phase rfl, hphase]
    simp [leasesDetached, hfound, WorkflowJob.isQuarantined, hrunning, hphase,
      htoken, hmatches] at hattached
  | _ => exact hreclaims.elim

/-!
# Runs
-/

/-- The conditions on one operation under which the invariant is kept. -/
abbrev Op.KeepsLedger (_ : List WorkflowSnapshotAuthority) (s : Store) (op : Op) : Prop :=
  "quarantined" ∉ op.phaseArguments ∧ op.leasesDetached s = false

theorem ledgerInvariant_step {s : Store} (hsound : CheckpointsSound checkpoints s)
    (hkeeps : op.KeepsLedger checkpoints s) (h : RowsHold LedgerInvariant checkpoints s) :
    RowsHold LedgerInvariant checkpoints (op.step checkpoints s) := by
  apply h.step hsound
  · intro current action row hallows hcaptured hrow
    apply LedgerInvariant.apply hallows.applicable
    · intro phase saved now haction hphase
      rw [haction] at hallows
      exact hkeeps.left (hphase ▸ Op.checkpoint_phase_mem hallows)
    · exact fun hclaim => Op.claim_phase hallows hclaim hkeeps.right
    · exact fun hreclaim => Op.reclaim_phase hallows hreclaim hkeeps.right
    · exact hcaptured
    · exact hrow
  · intro newJobId sequence spec managed now _
    exact LedgerInvariant.fresh newJobId sequence spec managed now

theorem ledgerInvariant_run {ops : List SystemOp}
    (hkeeps : Guarded System.step (System.Permitted Op.KeepsLedger) {} ops) :
    forall row, row ∈ (run System.step {} ops).store.jobs.rows ->
      LedgerInvariant row := by
  have hinv := System.permitted_run
    (I := fun checkpoints s => RowsHold LedgerInvariant checkpoints s)
    (fun checkpoints s op hcoherent hinv hcondition =>
      ledgerInvariant_step hcoherent.checkpoints hcondition hinv)
    (fun checkpoints s projectIds identities fullProjectScope hinv =>
      hinv.capture projectIds identities fullProjectScope)
    (fun checkpoints s counters publications hinv => ⟨hinv.rows, hinv.captured⟩)
    Coherent.empty RowsHold.empty hkeeps
  exact hinv.right.rows

/-- A detached call that settles before its job is claimed again. -/
def settledRun : List SystemOp :=
  [.op (.enqueue sampleSpec "job-1" 0), .op (.claimNext "worker-1" sampleToken 60 {} false 100 1),
    .op (.quarantineOwned "job-1" "token-1" .timeout "call timed out" 2),
    .op (.settleQuarantinedCall "job-1" "token-1" "apply" none .unknown none false 0 3),
    .op (.claimNext "worker-2" otherToken 60 {} false 100 4)]

theorem ledgerInvariant_settledRun :
    exists row, (run System.step {} settledRun).store.jobs.find? "job-1" = some row ∧
        LedgerInvariant row := by
  have hfound : ((run System.step {} settledRun).store.jobs.find? "job-1").isSome = true := by
    decide
  rcases Option.isSome_iff_exists.mp hfound with ⟨row, hrow⟩
  exact ⟨row, hrow, ledgerInvariant_run (by decide) row (JobTable.mem_of_find? hrow).left⟩

/-!
# A detached call that survives a restart

`recover_startup` recovers every running job without a phase.
-/

def detachedRecovery : List SystemOp :=
  [.op (.enqueue sampleSpec "job-1" 0), .op (.claimNext "worker-1" sampleToken 60 {} false 100 1),
    .op (.quarantineOwned "job-1" "token-1" .timeout "call timed out" 2),
    .op (.recoverAbandoned none none {} 100 3),
    .op (.claimNext "worker-2" otherToken 60 {} false 100 4)]

theorem detachedRecovery_breaks_ledger :
    Guarded System.step (System.Permitted (fun _ _ op => "quarantined" ∉ op.phaseArguments)) {}
        detachedRecovery ∧
      ¬ forall row, row ∈ (run System.step {} detachedRecovery).store.jobs.rows ->
          LedgerInvariant row := by
  constructor
  · decide
  · intro hledger
    have hdetached : exists row, row ∈ (run System.step {} detachedRecovery).store.jobs.rows ∧
          row.state = .running ∧ row.phase = "quarantined" ∧
          row.leaseExpiresAt.isSome = true := by
      decide
    rcases hdetached with ⟨row, hrow, hrunning, hphase, hexpiry⟩
    exact ((hledger row hrow).expiry hrunning).mp hexpiry hphase

end WorkflowJobs
end Oompah
