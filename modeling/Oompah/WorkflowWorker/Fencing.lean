import Oompah.WorkflowWorker.System

/-!
# Fencing of late workers

The store operations of a worker check the token and the expiry of the lease of
the row they write, or the token alone once a call is quarantined, except
`supersede`, which checks the generation.  An invocation without a live lease
therefore leaves its row alone exactly as long as no `supersede` of its own finds
the row active.
-/

namespace Oompah
namespace WorkflowWorker

open Foundation
open WorkflowJobs

/-!
# Leases that operations need
-/

/-- The row is running under the token, whatever its expiry. -/
def runningUnder (row : WorkflowJob) (leaseToken : String) : Bool :=
  row.state = .running ∧ row.leaseToken = some leaseToken

/--
The clock at which an operation needs a live lease.  The quarantine of a call, its
settlement and its recovery have none: a quarantined lease keeps no expiry.
-/
def leaseClock : Op -> Option Int
  | .renew _ _ _ now | .checkpoint _ _ _ _ now | .complete _ _ _ _ now
  | .fail _ _ _ _ _ _ _ now | .requeueOwnedWithoutAttempt _ _ _ _ _ now
  | .deferOwnedWithoutAttempt _ _ _ _ now | .deferOwnedUntil _ _ _ _ now
  | .cancelOwned _ _ _ now | .supersede _ _ _ _ now => some now
  | _ => none

/-- The holder of the token has the lease that an operation needs of the row. -/
def holdsLease (s : Store) (jobId leaseToken : String) (op : Op) : Bool :=
  match leaseClock op with
  | some now => s.ownsLiveLease jobId leaseToken now
  | none => (s.jobs.find? jobId).any (fun row => runningUnder row leaseToken)

/-!
# Token-fenced operations
-/

/-- The job and the token an operation checks before it writes. -/
def fence : Op -> Option (String × String)
  | .renew jobId leaseToken _ _ => some (jobId, leaseToken)
  | .checkpoint jobId leaseToken _ _ _ => some (jobId, leaseToken)
  | .complete jobId leaseToken _ _ _ => some (jobId, leaseToken)
  | .fail jobId leaseToken _ _ _ _ _ _ => some (jobId, leaseToken)
  | .requeueOwnedWithoutAttempt jobId leaseToken _ _ _ _ =>
    some (jobId, leaseToken)
  | .deferOwnedWithoutAttempt jobId leaseToken _ _ _ => some (jobId, leaseToken)
  | .deferOwnedUntil jobId leaseToken _ _ _ => some (jobId, leaseToken)
  | .cancelOwned jobId leaseToken _ _ => some (jobId, leaseToken)
  | .quarantineOwned jobId leaseToken _ _ _ => some (jobId, leaseToken)
  | .settleQuarantinedCall jobId leaseToken _ _ _ _ _ _ _ =>
    some (jobId, leaseToken)
  | .markQuarantineRecycleRequested jobId leaseToken _ =>
    some (jobId, leaseToken)
  | .reclaimAbandoned jobId leaseToken _ _ _ _ _ => some (jobId, leaseToken)
  | _ => none

variable {jobId leaseToken : String}

theorem ownsLiveLease_of_ownedRowLocked {s : Store} {row : WorkflowJob} {now : Int}
    (h : s.ownedRowLocked jobId leaseToken now = .ok row) :
    s.ownsLiveLease jobId leaseToken now = true := by
  unfold Store.ownsLiveLease
  rw [h]

theorem ownsLiveLease_of_updateOwned {s s' : Store}
    {now : Int} {plan : WorkflowJob -> Except StoreError (RowAction × LoggedEvent)}
    {result : WorkflowJob} (h : s.updateOwned jobId leaseToken now plan = .ok (s', result)) :
    s.ownsLiveLease jobId leaseToken now = true := by
  rcases bind_eq_ok.mp h with ⟨row, hrow, _⟩
  exact ownsLiveLease_of_ownedRowLocked hrow

variable {s : Store} {row : WorkflowJob}

theorem runningUnder_found (hfound : s.jobs.find? jobId = some row)
    (hrunning : row.state = .running) (htoken : row.leaseToken = some leaseToken) :
    (s.jobs.find? jobId).any (fun row => runningUnder row leaseToken) = true := by
  simp [hfound, runningUnder, hrunning, htoken]

variable {checkpoints : List WorkflowSnapshotAuthority}

/-- A worker-side operation succeeds only with the lease it needs. -/
theorem holdsLease_of_fence {s s' : Store} {op : Op} {result : OpResult}
    (hfence : fence op = some (jobId, leaseToken)) (h : op.apply checkpoints s = .ok (s', result)) :
    holdsLease s jobId leaseToken op = true := by
  cases op with
  | renew =>
    cases hfence
    rcases map_store_eq_ok h with ⟨written, hok, _⟩
    unfold Store.renew at hok
    rw [require_bind_eq_ok] at hok
    exact ownsLiveLease_of_updateOwned hok.right
  | checkpoint =>
    cases hfence
    rcases map_store_eq_ok h with ⟨written, hok, _⟩
    unfold Store.checkpoint requiredText at hok
    rw [require_bind_eq_ok] at hok
    exact ownsLiveLease_of_updateOwned hok.right
  | complete =>
    cases hfence
    rcases map_store_eq_ok h with ⟨written, hok, _⟩
    rcases bind_eq_ok.mp hok with ⟨row, hrow, _⟩
    exact ownsLiveLease_of_ownedRowLocked hrow
  | fail =>
    cases hfence
    rcases map_store_eq_ok h with ⟨written, hok, _⟩
    unfold Store.fail requiredText at hok
    simp only [require_bind_eq_ok] at hok
    exact ownsLiveLease_of_updateOwned hok.right.right.right
  | requeueOwnedWithoutAttempt =>
    cases hfence
    rcases map_store_eq_ok h with ⟨written, hok, _⟩
    unfold Store.requeueOwnedWithoutAttempt requiredText at hok
    simp only [require_bind_eq_ok] at hok
    exact ownsLiveLease_of_updateOwned hok.right.right.right
  | deferOwnedWithoutAttempt =>
    cases hfence
    rcases map_store_eq_ok h with ⟨written, hok, _⟩
    unfold Store.deferOwnedWithoutAttempt requiredText at hok
    simp only [require_bind_eq_ok] at hok
    exact ownsLiveLease_of_updateOwned hok.right.right
  | deferOwnedUntil =>
    cases hfence
    rcases map_store_eq_ok h with ⟨written, hok, _⟩
    unfold Store.deferOwnedUntil requiredText at hok
    rw [require_bind_eq_ok] at hok
    exact ownsLiveLease_of_updateOwned hok.right
  | cancelOwned =>
    cases hfence
    rcases map_store_eq_ok h with ⟨written, hok, _⟩
    unfold Store.cancelOwned requiredText at hok
    rw [require_bind_eq_ok] at hok
    exact ownsLiveLease_of_updateOwned hok.right
  | quarantineOwned =>
    cases hfence
    rcases map_store_eq_ok h with ⟨written, hok, _⟩
    rcases Store.quarantineOwned_eq_ok hok with
      ⟨row, _, hfound, hrunning, htoken, _⟩
    exact runningUnder_found hfound hrunning htoken
  | settleQuarantinedCall =>
    cases hfence
    rcases map_store_eq_ok h with ⟨written, hok, _⟩
    unfold Store.settleQuarantinedCall requiredText at hok
    simp only [require_bind_eq_ok] at hok
    rcases bind_eq_ok.mp hok.right.right.right with ⟨row, hrow, _⟩
    rcases Store.heldRowLocked_eq_ok hrow with ⟨hfound, hrunning, htoken, _⟩
    exact runningUnder_found hfound hrunning htoken
  | markQuarantineRecycleRequested =>
    cases hfence
    rcases map_store_eq_ok h with ⟨written, hok, _⟩
    rcases bind_eq_ok.mp hok with ⟨row, hrow, _⟩
    rcases Store.heldRowLocked_eq_ok hrow with ⟨hfound, hrunning, htoken, _⟩
    exact runningUnder_found hfound hrunning htoken
  | reclaimAbandoned =>
    cases hfence
    rcases map_store_eq_ok h with ⟨written, hok, _⟩
    unfold Store.reclaimAbandoned requiredText at hok
    simp only [require_bind_eq_ok] at hok
    rcases bind_eq_ok.mp hok.right.right with ⟨row, hrow, _⟩
    rcases Store.heldRowLocked_eq_ok hrow with ⟨hfound, hrunning, htoken, _⟩
    exact runningUnder_found hfound hrunning htoken
  | _ => cases hfence

/-- An operation without the lease it needs is refused. -/
theorem step_of_not_holdsLease {op : Op} (hfence : fence op = some (jobId, leaseToken))
    (hlost : holdsLease s jobId leaseToken op = false) :
    op.step checkpoints s = s := by
  unfold Op.step
  cases happly : op.apply checkpoints s with
  | error e => rfl
  | ok written =>
    rw [holdsLease_of_fence hfence happly] at hlost
    cases hlost

/-!
# Superseding
-/

/-- The checks of `supersede`, which name no token. -/
def supersedes (row : WorkflowJob) (generation replacementGeneration reason : String) : Bool :=
  generation ≠ "" ∧ replacementGeneration ≠ "" ∧ reason ≠ "" ∧
    row.spec.generation = generation ∧ row.isActive ∧ ¬ row.isQuarantined

theorem supersede_step_eq {jobId : String} (hrow : s.jobs.find? jobId = some row)
    (checkpoints : List WorkflowSnapshotAuthority)
    (generation replacementGeneration reason : String) (now : Int) :
    (Op.step checkpoints s (.supersede jobId generation replacementGeneration
        reason now)).jobs.find? jobId =
      some (if supersedes row generation replacementGeneration reason then
        (RowAction.supersede replacementGeneration reason now).apply row
      else row) := by
  by_cases hsupersedes : supersedes row generation replacementGeneration reason = true
  · rw [if_pos hsupersedes]
    simp only [supersedes, decide_eq_true_eq, Bool.not_eq_true] at hsupersedes
    rcases hsupersedes with
      ⟨hgeneration, hreplacement, hreason, hsame, hactive, hquarantined⟩
    have hlocked : s.rowLocked jobId = .ok row := Store.rowLocked_eq_ok.mpr hrow
    have happly : Op.apply checkpoints s (.supersede jobId generation
        replacementGeneration reason now) =
        .ok (s.actLogged row (.supersede replacementGeneration reason now)
          (Store.supersededEvent replacementGeneration reason) now,
          .job ((RowAction.supersede replacementGeneration reason now).apply row)) := by
      simp [Op.apply, Store.supersede, requiredText, require,
        Store.fenceGeneration, hgeneration, hreplacement, hreason, hsame,
        hactive, hquarantined, hlocked, bind, Except.bind, pure, Except.pure,
        Except.map]
    simp only [Op.step, happly]
    rw [← (JobTable.mem_of_find? hrow).right]
    exact JobTable.find?_modify_self (Store.find?_jobId hrow)
  · rw [if_neg hsupersedes]
    unfold Op.step
    cases happly : Op.apply checkpoints s (.supersede jobId generation
        replacementGeneration reason now) with
    | error e => exact hrow
    | ok written =>
      change written.1.jobs.find? jobId = some row
      rcases map_store_eq_ok happly with ⟨_, hok, _⟩
      unfold Store.supersede requiredText at hok
      simp only [require_bind_eq_ok] at hok
      rcases hok with ⟨hgeneration, hreplacement, hreason, hok⟩
      rcases Store.fenceGeneration_eq_ok hok with
        ⟨found, hfound, hsame, ⟨_, hs', _⟩ | ⟨hactive, hquarantined, _⟩⟩
      · rw [hs']
        exact hrow
      · rw [hrow] at hfound
        cases hfound
        simp [supersedes, hgeneration, hreplacement, hreason, hsame, hactive,
          hquarantined] at hsupersedes

/-!
# Steps of workers
-/

namespace WorkerSystem

/-- The job and the token of the invocation or monitor that takes a step. -/
def actor (w : WorkerSystem) : WorkerStep -> Option (String × String)
  | .environment _ | .claim _ _ _ _ _ _ => none
  | .resolve index _ | .finishDetached index _ _ | .heartbeat index _
  | .deliverRenewal index | .loseLease index | .interrupt index =>
    w.invocations[index]?.map (fun i => (i.jobId, i.leaseToken))
  | .settle index _ _ | .requestRecycle index _ =>
    w.monitors[index]?.map (fun monitor => (monitor.jobId, monitor.leaseToken))

/-- The store call of a saga that a step runs. -/
def committed (w : WorkerSystem) : WorkerStep -> Option (Invocation × StoreWrite × Int)
  | .resolve index (.performed now) =>
    w.invocations[index]?.bind (fun i =>
      match i.program with
      | .request (.store write) _ => some (i, write, now)
      | _ => none)
  | .finishDetached index position now =>
    w.invocations[index]?.bind (fun i =>
      i.detached[position]?.map (fun write => (i, write, now)))
  | _ => none

/-- The store operation that a step of an invocation or monitor runs. -/
def operation (w : WorkerSystem) (a : WorkerStep) : Option Op :=
  match a with
  | .heartbeat index now =>
    w.invocations[index]?.map (fun i =>
      .renew i.jobId i.leaseToken i.worker.leaseSeconds now)
  | .settle index result now =>
    w.monitors[index]?.map (fun monitor => monitor.settlement result now)
  | .requestRecycle index now =>
    w.monitors[index]?.map (fun monitor =>
      .markQuarantineRecycleRequested monitor.jobId monitor.leaseToken now)
  | a => (w.committed a).map (fun call => call.1.op call.2.1 call.2.2)

variable {w : WorkerSystem}

theorem resolvePending_jobs {index : Nat} {i : Invocation}
    (hfound : w.invocations[index]? = some i) (resolution : Resolution) :
    (w.resolvePending index i resolution).jobs =
      match w.operation (.resolve index resolution) with
      | some op => w.jobs.step (.op op)
      | none => w.jobs := by
  unfold resolvePending
  split
  · rename_i r resume hprogram
    split
    · rename_i after i' answer hresolve
      change after.jobs = _
      cases resolve_eq_some hresolve with
      | stored write now => simp [operation, committed, hfound, hprogram, perform]
      | detached => simp [operation, committed]
      | monitored => simp [operation, committed, hfound, hprogram]
      | context => simp [operation, committed, hfound, hprogram]
      | raised => simp [operation, committed]
      | unshared hlocal =>
        cases resolution <;> cases r <;> simp_all [operation, committed, isLocal]
    · cases resolution <;> cases r <;> simp_all [operation, committed, resolve]
  · rename_i hprogram
    cases resolution <;> simp [operation, committed, hfound, hprogram]
  · rename_i hprogram
    cases resolution <;> simp [operation, committed, hfound, hprogram]

variable (codec : TransitionCodec)

variable {a : WorkerStep} {actor : String × String}

theorem step_jobs (hactor : w.actor a = some actor) : (w.step codec a).jobs =
      match w.operation a with
      | some op => w.jobs.step (.op op)
      | none => w.jobs := by
  cases a with
  | environment => cases hactor
  | claim => cases hactor
  | resolve index resolution =>
    simp only [step, operation]
    cases hfound : w.invocations[index]? with
    | none => cases resolution <;> simp [committed, hfound]
    | some i => exact resolvePending_jobs hfound resolution
  | finishDetached index position now =>
    simp only [step, operation, committed]
    cases w.invocations[index]? with
    | none => rfl
    | some i =>
      cases hwrite : i.detached[position]? with
      | none => simp [hwrite]
      | some write => simp [hwrite, perform, setInvocation]
  | heartbeat index now =>
    simp only [step, operation]
    cases w.invocations[index]? with
    | none => rfl
    | some i => rfl
  | deliverRenewal index =>
    simp only [step, operation, committed]
    cases w.invocations[index]? with
    | none => rfl
    | some i =>
      cases hrenewed : i.renewed with
      | none => simp [hrenewed]
      | some row => simp [hrenewed, setInvocation]
  | loseLease index =>
    simp only [step, operation, committed]
    cases w.invocations[index]? with
    | none => rfl
    | some i => rfl
  | interrupt index =>
    simp only [step, operation, committed]
    cases w.invocations[index]? with
    | none => rfl
    | some i => rfl
  | settle index result now =>
    simp only [step, operation]
    cases w.monitors[index]? with
    | none => rfl
    | some monitor => rfl
  | requestRecycle index now =>
    simp only [step, operation]
    cases w.monitors[index]? with
    | none => rfl
    | some monitor => rfl

/-!
# Which operations a worker runs
-/

theorem StoreWrite_fence (write : StoreWrite) (jobId leaseToken generation : String) (now : Int) :
    fence (write.op jobId leaseToken generation now) = some (jobId, leaseToken) ∨
      exists replacementGeneration reason, write = .supersede replacementGeneration reason := by
  cases write with
  | supersede replacementGeneration reason => exact .inr ⟨_, _, rfl⟩
  | _ => exact .inl rfl

theorem settlement_fence (monitor : QuarantineMonitor) (result : DetachedResult) (now : Int) :
    fence (monitor.settlement result now) = some (monitor.jobId, monitor.leaseToken) := by
  cases result with
  | raised => rfl
  | returned value =>
    unfold QuarantineMonitor.settlement
    dsimp only
    split
    · split <;> rfl
    · rfl

/-- The invocation whose saga call a step runs is the one that takes the step. -/
theorem actor_of_committed {i : Invocation} {write : StoreWrite} {now : Int}
    (h : w.committed a = some (i, write, now)) :
    w.actor a = some (i.jobId, i.leaseToken) ∧ w.operation a = some (i.op write now) := by
  cases a with
  | resolve index resolution =>
    cases resolution with
    | performed now' =>
      have hoperation : w.operation (.resolve index (.performed now')) =
          (w.committed (.resolve index (.performed now'))).map
            (fun call => call.1.op call.2.1 call.2.2) := rfl
      rw [hoperation, h]
      refine ⟨?_, rfl⟩
      rcases Option.bind_eq_some_iff.mp h with ⟨found, hfound, hcall⟩
      split at hcall
      · cases hcall
        simp [actor, hfound]
      · cases hcall
    | _ => cases h
  | finishDetached index position now' =>
    have hoperation : w.operation (.finishDetached index position now') =
        (w.committed (.finishDetached index position now')).map
          (fun call => call.1.op call.2.1 call.2.2) := rfl
    rw [hoperation, h]
    refine ⟨?_, rfl⟩
    rcases Option.bind_eq_some_iff.mp h with ⟨found, hfound, hcall⟩
    rcases Option.map_eq_some_iff.mp hcall with ⟨_, _, hcall⟩
    cases hcall
    simp [actor, hfound]
  | _ => cases h

theorem exists_of_map_map {α β γ : Type} {found : Option α} {f : α -> β} {g : α -> γ} {x : β}
    {y : γ} (hf : found.map f = some x) (hg : found.map g = some y) :
    exists a, f a = x ∧ g a = y := by
  rcases Option.map_eq_some_iff.mp hf with ⟨a, ha, hx⟩
  rw [ha] at hg
  exact ⟨a, hx, Option.some.inj hg⟩

theorem operation_fence {op : Op}
    {jobId leaseToken : String} (hactor : w.actor a = some (jobId, leaseToken))
    (h : w.operation a = some op) :
    fence op = some (jobId, leaseToken) ∨ exists i replacementGeneration reason now,
        w.committed a = some (i, .supersede replacementGeneration reason, now) := by
  cases hcommitted : w.committed a with
  | some call =>
    rcases call with ⟨i, write, now⟩
    rcases actor_of_committed hcommitted with ⟨hsame, hoperation⟩
    rw [hactor] at hsame
    rw [h] at hoperation
    cases hsame
    cases hoperation
    rcases StoreWrite_fence write i.jobId i.leaseToken
      i.job.spec.generation now with hfence | ⟨replacementGeneration, reason, hwrite⟩
    · exact .inl hfence
    · rw [hwrite]
      exact .inr ⟨i, replacementGeneration, reason, now, rfl⟩
  | none =>
    refine .inl ?_
    cases a with
    | heartbeat index now =>
      rcases exists_of_map_map h hactor with ⟨i, rfl, hsame⟩
      cases hsame
      rfl
    | settle index result now =>
      rcases exists_of_map_map h hactor with ⟨monitor, rfl, hsame⟩
      cases hsame
      exact settlement_fence monitor result now
    | requestRecycle index now =>
      rcases exists_of_map_map h hactor with ⟨monitor, rfl, hsame⟩
      cases hsame
      rfl
    | _ => simp [operation, hcommitted] at h

/-!
# The fence of a step
-/

/-- An invocation without the lease that its operation needs leaves the row as it is. -/
def Fenced (w : WorkerSystem) (a : WorkerStep) : Prop :=
  forall jobId leaseToken row, w.actor a = some (jobId, leaseToken) ->
    w.store.jobs.find? jobId = some row ->
    (forall op, w.operation a = some op -> holdsLease w.store jobId leaseToken op = false) ->
      (w.step codec a).store.jobs.find? jobId = some row

/-- A `supersede` that passes its checks is made under a live lease. -/
def SupersedesHeld (w : WorkerSystem) (a : WorkerStep) : Prop :=
  forall i replacementGeneration reason now row,
    w.committed a = some (i, .supersede replacementGeneration reason, now) ->
    w.store.jobs.find? i.jobId = some row ->
    supersedes row i.job.spec.generation (strip replacementGeneration) (strip reason) = true ->
      w.store.ownsLiveLease i.jobId i.leaseToken now = true

theorem step_store {op : Op} (hactor : w.actor a = some actor)
    (hoperation : w.operation a = some op) :
    (w.step codec a).store = op.step w.jobs.checkpoints w.store := by
  have hjobs := step_jobs codec hactor
  rw [hoperation] at hjobs
  simp only [store, hjobs, System.step_op]

theorem fenced_iff (w : WorkerSystem) (a : WorkerStep) :
    w.Fenced codec a <-> w.SupersedesHeld a := by
  constructor
  · intro hfenced i replacementGeneration reason now row hcommitted hrow hsupersedes
    rcases actor_of_committed hcommitted with ⟨hactor, hoperation⟩
    by_contra hlost
    have hsame := hfenced _ _ row hactor hrow (by
      intro op hop
      rw [hoperation] at hop
      cases hop
      simpa [holdsLease, leaseClock, Invocation.op, StoreWrite.op] using hlost)
    rw [step_store codec hactor hoperation] at hsame
    have hstep := supersede_step_eq hrow w.jobs.checkpoints
      i.job.spec.generation (strip replacementGeneration) (strip reason) now
    rw [if_pos hsupersedes] at hstep
    have hrows := Option.some.inj (hstep.symm.trans hsame)
    simp only [supersedes, decide_eq_true_eq] at hsupersedes
    rw [← hrows] at hsupersedes
    exact absurd hsupersedes.right.right.right.right.left (by
      simp [WorkflowJob.isActive, RowAction.apply, WorkflowJobState.isActive])
  · intro hheld jobId leaseToken row hactor hrow hlost
    cases hoperation : w.operation a with
    | none =>
      have hjobs := step_jobs codec hactor
      rw [hoperation] at hjobs
      simp only [store, hjobs]
      exact hrow
    | some op =>
      have hlease := hlost op hoperation
      rw [step_store codec hactor hoperation]
      rcases operation_fence hactor hoperation with
        hfence | ⟨i, replacementGeneration, reason, now, hcommitted⟩
      · rw [step_of_not_holdsLease hfence hlease]
        exact hrow
      · rcases actor_of_committed hcommitted with ⟨hsame, hcall⟩
        rw [hactor] at hsame
        rw [hoperation] at hcall
        cases hsame
        cases hcall
        have hstep := supersede_step_eq hrow w.jobs.checkpoints
          i.job.spec.generation (strip replacementGeneration) (strip reason) now
        refine hstep.trans (congrArg some (if_neg ?_))
        intro hsupersedes
        have hholds := hheld i replacementGeneration reason now row hcommitted hrow hsupersedes
        change w.store.ownsLiveLease i.jobId i.leaseToken now = false at hlease
        rw [hlease] at hholds
        cases hholds

/--
However the steps of any number of workers and of the environment interleave,
every invocation without a live lease leaves its row alone exactly when every
`supersede` that passes its checks is made under a live lease.
-/
theorem fenced_run_iff (steps : List WorkerStep) :
    Guarded (step codec) (Fenced codec) {} steps <-> Guarded (step codec) SupersedesHeld {} steps :=
  guarded_congr (fenced_iff codec) {} steps

/-!
# A late worker that supersedes

The first worker revalidates while its lease expires.  The second worker owns
the row when the handler of the first one reports that the action is
superseded.
-/

def reclaimedWhileRevalidating : List WorkerStep :=
  [.environment (.op (.enqueue sampleSpec "job-1" 1)),
    .claim (sampleWorker "worker-1") sampleToken {} false 100 2,
    .resolve 0 (.performed 2),
    .resolve 0 (.performed 3),
    .resolve 0 (.performed 3),
    .claim (sampleWorker "worker-2") otherToken {} false 100 40,
    .resolve 0 (.raised (.superseded "evidence moved" "revision-2:1"))]

theorem lateWorker_supersedes :
    (run (step sampleCodec) {} reclaimedWhileRevalidating).store.ownsLiveLease
        "job-1" "token-2" 41 = true ∧
      (run (step sampleCodec) {} reclaimedWhileRevalidating).actor
        (.resolve 0 (.performed 41)) = some ("job-1", "token-1") ∧
      ((run (step sampleCodec) {} (reclaimedWhileRevalidating ++
        [.resolve 0 (.performed 41)])).store.jobs.find? "job-1").map
          WorkflowJob.state = some .superseded ∧
      ¬ Guarded (step sampleCodec) (Fenced sampleCodec) {}
        (reclaimedWhileRevalidating ++ [.resolve 0 (.performed 41)]) := by
  have hlive : (run (step sampleCodec) {} reclaimedWhileRevalidating).store.ownsLiveLease
      "job-1" "token-2" 41 = true := by
    decide +kernel
  have hrow : ((run (step sampleCodec) {} reclaimedWhileRevalidating).store.jobs.find? "job-1").map
        WorkflowJob.state = some .running := by
    decide +kernel
  have hactor : (run (step sampleCodec) {} reclaimedWhileRevalidating).actor
      (.resolve 0 (.performed 41)) = some ("job-1", "token-1") := by
    decide +kernel
  have hlost : ((run (step sampleCodec) {} reclaimedWhileRevalidating).operation
      (.resolve 0 (.performed 41))).map (holdsLease
        (run (step sampleCodec) {} reclaimedWhileRevalidating).store "job-1" "token-1") =
      some false := by
    decide +kernel
  have hafter : ((run (step sampleCodec) {} (reclaimedWhileRevalidating ++
      [.resolve 0 (.performed 41)])).store.jobs.find? "job-1").map
        WorkflowJob.state = some .superseded := by
    decide +kernel
  rcases Option.map_eq_some_iff.mp hrow with ⟨row, hfound, hrunning⟩
  refine ⟨hlive, hactor, hafter, ?_⟩
  intro hguarded
  have hfenced := ((guarded_append _ _ _).mp hguarded).right.left
  have hsame := hfenced "job-1" "token-1" row hactor hfound (by
    intro op hop
    rw [hop] at hlost
    exact Option.some.inj hlost)
  rw [run_snoc, hsame] at hafter
  simp [hrunning] at hafter

end WorkerSystem
end WorkflowWorker
end Oompah
