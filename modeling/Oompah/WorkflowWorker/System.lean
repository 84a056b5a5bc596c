import Oompah.WorkflowWorker.Worker
import Oompah.WorkflowJobs.Runs

/-!
# Runs of many workers on one store

Any number of invocations take their steps in any order, between the steps of
their heartbeats, of the monitors of detached calls and of everything else that
uses the store.  A crashed process is one whose invocations and monitors take
no further step.  A store call whose awaiter is cancelled is detached: its
thread may still commit later.
-/

namespace Oompah
namespace WorkflowWorker

open Foundation
open WorkflowJobs

/-!
# Invocations
-/

/-- `job` is `context.job`; `renewed` waits to be stored there by the heartbeat. -/
structure Invocation where
  worker : DurableWorkflowWorker
  job : WorkflowJob
  renewed : Option WorkflowJob := none
  leaseLost : Bool := false
  interrupted : Bool := false
  effectAuthorityStarted : Bool := false
  detached : List StoreWrite := []
  program : Worker WorkflowRunResult

namespace Invocation

def jobId (invocation : Invocation) : String := invocation.job.jobId

def leaseToken (invocation : Invocation) : String :=
  invocation.job.leaseToken.getD ""

def op (invocation : Invocation) (write : StoreWrite) (now : Int) : Op :=
  write.op invocation.jobId invocation.leaseToken invocation.job.spec.generation now

/-- The context an answered store call leaves: a checkpoint replaces the job. -/
def answered (invocation : Invocation) (write : StoreWrite)
    (answer : Except Raised WorkflowJob) : Invocation :=
  match write, answer with
  | .checkpoint _ _, .ok saved => { invocation with job := saved }
  | _, _ => invocation

/-- `check_interrupted` remembers a lease it could not prove live. -/
def checked (invocation : Invocation) (s : Store) (now : Int) : Invocation :=
  { invocation with
    leaseLost := invocation.leaseLost ||
      !s.ownsLiveLease invocation.jobId invocation.leaseToken now }

def interruption (invocation : Invocation) : Except Raised Unit :=
  if invocation.leaseLost then
    .error (.leaseLost ("WorkflowJobLeaseLost: workflow job lease was lost: " ++ invocation.jobId))
  else if invocation.interrupted then .error .interrupted
  else .ok ()

end Invocation

/-- `_monitor_quarantined_call` of one detached call. -/
structure QuarantineMonitor where
  worker : DurableWorkflowWorker
  jobId : String
  leaseToken : String
  operation : String

/-- How a detached call ends; a cancelled monitor settles nothing. -/
inductive DetachedResult where
  | returned (value : HandlerValue)
  | raised (failure : Option ActionFailure) (typeName : String)
  deriving DecidableEq

def QuarantineMonitor.settlement (monitor : QuarantineMonitor)
    (result : DetachedResult) (now : Int) : Op :=
  let settle := fun effectReceipt category error retryable =>
    Op.settleQuarantinedCall monitor.jobId monitor.leaseToken monitor.operation
      effectReceipt category error retryable monitor.worker.retryDelaySeconds now
  match result with
  | .returned value =>
    if monitor.operation = "apply" then
      match value with
      | .effect receipt => settle (some receipt) .unknown none true
      | _ =>
        settle none .permanent (some "late apply returned an invalid effect result") false
    else
      settle none .unknown none true
  | .raised failure typeName =>
    settle none ((failure.map ActionFailure.category).getD .unknown)
      (some ("late " ++ monitor.operation ++ " failed: " ++ typeName))
      ((failure.map ActionFailure.retryable).getD true)

/-!
# The system
-/

/-- The token of the lease an operation grants. -/
def grantedToken : Op -> Option String
  | .claimNext _ leaseToken _ _ _ _ _ => some leaseToken
  | .reclaimAbandoned _ _ _ replacementToken _ _ _ => some replacementToken
  | _ => none

structure WorkerSystem where
  jobs : System := {}
  invocations : List Invocation := []
  monitors : List QuarantineMonitor := []

/-- How the environment answers the pending request of an invocation. -/
inductive Resolution where
  | returned (value : HandlerValue)
  | timedOut
  | raised (raised : Raised)
  | performed (now : Int)
  | abandoned (raised : Raised)
  deriving DecidableEq

inductive WorkerStep where
  | environment (op : SystemOp)
  | claim (worker : DurableWorkflowWorker) (leaseToken : LeaseToken)
      (filter : Store.ClaimFilter) (fairAcrossProjects : Bool)
      (recoveryLimit : Nat) (now : Int)
  | resolve (index : Nat) (resolution : Resolution)
  | finishDetached (index position : Nat) (now : Int)
  | heartbeat (index : Nat) (now : Int)
  | deliverRenewal (index : Nat)
  | loseLease (index : Nat)
  | interrupt (index : Nat)
  | settle (index : Nat) (result : DetachedResult) (now : Int)
  | requestRecycle (index : Nat) (now : Int)

namespace WorkerSystem

abbrev store (w : WorkerSystem) : Store := w.jobs.store

def perform (w : WorkerSystem) (op : Op) : WorkerSystem :=
  { w with jobs := w.jobs.step (.op op) }

/-- What the caller of a store operation on one job gets back. -/
def answer (w : WorkerSystem) (op : Op) : Except Raised WorkflowJob :=
  match op.apply w.jobs.checkpoints w.store with
  | .ok (_, .job row) => .ok row
  | .ok _ => .error (.other "no job")
  | .error error => .error (Raised.ofStoreError error)

def setInvocation (w : WorkerSystem) (index : Nat) (invocation : Invocation) :
    WorkerSystem :=
  { w with invocations := w.invocations.set index invocation }

def heldTokens (w : WorkerSystem) : List String :=
  w.invocations.map Invocation.leaseToken ++ w.monitors.map QuarantineMonitor.leaseToken

/-!
# Requests
-/

/-- Requests awaited outside the event loop step, where an exception can arrive. -/
def awaits : Request -> Bool
  | .notify _ | .call _ | .store _ => true
  | .checkInterrupted | .context | .startEffectAuthority
  | .fenceExternalEffects | .monitorQuarantinedCall _ => false

/-- The system and the invocation after a request, with the answer to it. -/
def resolve (w : WorkerSystem) (i : Invocation) : (r : Request) -> Resolution ->
      Option (WorkerSystem × Invocation × Except Raised (Answer r))
  | .notify _, .performed _ => some (w, i, .ok ())
  | .call _, .returned value => some (w, i, .ok (.returned value))
  | .call _, .timedOut => some (w, i, .ok .timedOut)
  | .checkInterrupted, .performed now =>
    let checked := i.checked w.store now
    some (w, checked, checked.interruption)
  | .context, .performed _ =>
    some (w, i, .ok { job := i.job, effectAuthorityStarted := i.effectAuthorityStarted })
  | .startEffectAuthority, .performed _ =>
    some (w, { i with effectAuthorityStarted := true }, .ok ())
  | .fenceExternalEffects, .performed _ =>
    some (w, { i with leaseLost := true }, .ok ())
  | .store write, .performed now =>
    let op := i.op write now
    some (w.perform op, i.answered write (w.answer op), w.answer op)
  | .store write, .abandoned raised =>
    some (w, { i with detached := i.detached ++ [write] }, .error raised)
  | .monitorQuarantinedCall operation, .performed _ =>
    some ({ w with
      monitors := w.monitors ++
        [{ worker := i.worker
           jobId := i.jobId
           leaseToken := i.leaseToken
           operation := operation }] }, i, .ok ())
  | r, .raised raised =>
    if awaits r then some (w, i, .error raised) else none
  | _, _ => none

/-- Requests that neither use the store nor read the context. -/
def isLocal : Request -> Bool
  | .notify _ | .call _ | .checkInterrupted | .startEffectAuthority
  | .fenceExternalEffects => true
  | .context | .store _ | .monitorQuarantinedCall _ => false

/-- What answering a request can do. -/
inductive Resolved (w : WorkerSystem) (i : Invocation) :
    (r : Request) -> Resolution -> WorkerSystem -> Invocation ->
      Except Raised (Answer r) -> Prop where
  | stored (write : StoreWrite) (now : Int) :
      Resolved w i (.store write) (.performed now) (w.perform (i.op write now))
        (i.answered write (w.answer (i.op write now)))
        (w.answer (i.op write now))
  | detached (write : StoreWrite) (raised : Raised) :
      Resolved w i (.store write) (.abandoned raised) w
        { i with detached := i.detached ++ [write] } (.error raised)
  | monitored (operation : String) (now : Int) :
      Resolved w i (.monitorQuarantinedCall operation) (.performed now)
        { w with
          monitors := w.monitors ++
            [{ worker := i.worker
               jobId := i.jobId
               leaseToken := i.leaseToken
               operation := operation }] } i (.ok ())
  | context (now : Int) : Resolved w i .context (.performed now) w i
        (.ok { job := i.job, effectAuthorityStarted := i.effectAuthorityStarted })
  | raised (r : Request) (raised : Raised) : Resolved w i r (.raised raised) w i (.error raised)
  | unshared {r : Request} {resolution : Resolution} {i' : Invocation}
      {answer : Except Raised (Answer r)} (hlocal : isLocal r = true)
      (hjob : i'.job = i.job) (hrenewed : i'.renewed = i.renewed)
      (hdetached : i'.detached = i.detached) :
      Resolved w i r resolution w i' answer

theorem resolve_eq_some {w after : WorkerSystem} {i i' : Invocation}
    {r : Request} {resolution : Resolution} {answer : Except Raised (Answer r)}
    (h : w.resolve i r resolution = some (after, i', answer)) :
    Resolved w i r resolution after i' answer := by
  cases r <;> cases resolution <;>
    simp only [resolve, awaits, if_true, Bool.false_eq_true, if_false,
      reduceCtorEq, Option.some.injEq, Prod.mk.injEq] at h <;>
    rcases h with ⟨rfl, rfl, rfl⟩ <;>
    first
    | exact Resolved.stored _ _
    | exact Resolved.detached _ _
    | exact Resolved.monitored _ _
    | exact Resolved.context _
    | exact Resolved.raised _ _
    | exact Resolved.unshared rfl rfl rfl rfl

def resolvePending (w : WorkerSystem) (index : Nat) (i : Invocation)
    (resolution : Resolution) : WorkerSystem :=
  match i.program with
  | .request r resume =>
    match w.resolve i r resolution with
    | some (after, i, answer) =>
      after.setInvocation index { i with program := resume answer }
    | none => w
  | .done _ | .raise _ => w

/-!
# Steps
-/

section Codec

variable (codec : TransitionCodec)

/-- A successful claim starts an invocation of the claimed row. -/
def claim (w : WorkerSystem) (worker : DurableWorkflowWorker)
    (leaseToken : LeaseToken) (filter : Store.ClaimFilter)
    (fairAcrossProjects : Bool) (recoveryLimit : Nat) (now : Int) :
    WorkerSystem :=
  let op := Op.claimNext worker.workerId leaseToken worker.leaseSeconds filter
    fairAcrossProjects recoveryLimit now
  match op.apply w.jobs.checkpoints w.store with
  | .ok (_, .claim (some row)) =>
    { w.perform op with
      invocations := w.invocations ++
        [{ worker := worker
           job := row
           program := executeClaimed codec worker row }] }
  | _ => w.perform op

/-- Generated lease tokens never repeat one that is still held. -/
def step (w : WorkerSystem) : WorkerStep -> WorkerSystem
  | .environment op =>
    if (op.performed w.store).all (fun performed =>
        (grantedToken performed).all (fun token => token ∉ w.heldTokens)) then
      { w with jobs := w.jobs.step op }
    else
      w
  | .claim worker leaseToken filter fairAcrossProjects recoveryLimit now =>
    if leaseToken.val ∈ w.heldTokens then
      w
    else
      w.claim codec worker leaseToken filter fairAcrossProjects recoveryLimit now
  | .resolve index resolution =>
    match w.invocations[index]? with
    | some i => w.resolvePending index i resolution
    | none => w
  | .finishDetached index position now =>
    match w.invocations[index]? with
    | some i =>
      match i.detached[position]? with
      | some write =>
        (w.perform (i.op write now)).setInvocation index
          { i with detached := i.detached.eraseIdx position }
      | none => w
    | none => w
  | .heartbeat index now =>
    match w.invocations[index]? with
    | some i =>
      let op := Op.renew i.jobId i.leaseToken i.worker.leaseSeconds now
      (w.perform op).setInvocation index
        (match w.answer op with
        | .ok row => { i with renewed := some row }
        | .error _ => { i with leaseLost := true })
    | none => w
  | .deliverRenewal index =>
    match w.invocations[index]? with
    | some i =>
      match i.renewed with
      | some row =>
        w.setInvocation index { i with job := row, renewed := none }
      | none => w
    | none => w
  | .loseLease index =>
    match w.invocations[index]? with
    | some i => w.setInvocation index { i with leaseLost := true }
    | none => w
  | .interrupt index =>
    match w.invocations[index]? with
    | some i => w.setInvocation index { i with interrupted := true }
    | none => w
  | .settle index result now =>
    match w.monitors[index]? with
    | some monitor => w.perform (monitor.settlement result now)
    | none => w
  | .requestRecycle index now =>
    match w.monitors[index]? with
    | some monitor =>
      w.perform (.markQuarantineRecycleRequested monitor.jobId monitor.leaseToken now)
    | none => w

end Codec
end WorkerSystem

/-!
# Sample workers
-/

def sampleCodec : TransitionCodec where
  intentToDict := fun intent =>
    ("project_id", intent.projectId) :: ("task_id", intent.taskId) :: intent.fields
  intentFromDict := fun raw =>
    match raw with
    | ("project_id", projectId) :: ("task_id", taskId) :: fields =>
      some { projectId := projectId, taskId := taskId, fields := fields }
    | _ => none
  outcomeToDict := fun outcome => ("reason_code", outcome.reasonCode) :: outcome.fields
  outcomeFromDict := fun raw =>
    match raw with
    | ("reason_code", reasonCode) :: fields =>
      some { disposition := .applied, reasonCode := reasonCode, fields := fields }
    | _ => none

def sampleWorker (workerId : String) : DurableWorkflowWorker where
  workerId := workerId
  handlers := fun _ => some {}
  transitionServices := fun _ => true

end WorkflowWorker
end Oompah
