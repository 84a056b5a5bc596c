import Oompah.Foundation.TransitionSystem
import Oompah.TaskTransitions.Service

/-!
# Executions over one journal

Any number of executions share a journal and the trackers of their projects.
Between two requests of an execution every other one can run, and an execution
that is never answered again has crashed.

The journal and tracker calls run in threads.  Cancelling the coroutine that
awaits one leaves the thread behind: its call is detached and takes effect
later, or never.
-/

namespace Oompah
namespace TaskTransitions

open Foundation

/-!
# Trackers
-/

abbrev Tracker := List (TaskKey × Issue)

namespace Tracker

def find (tracker : Tracker) (key : TaskKey) : Option Issue :=
  (tracker.find? (fun entry => entry.1 = key)).map Prod.snd

def set (tracker : Tracker) (key : TaskKey) (issue : Issue) : Tracker :=
  tracker.map (fun entry => if entry.1 = key then (entry.1, issue) else entry)

end Tracker

/-!
# Executions
-/

structure Execution where
  service : TaskTransitionService
  lane : Lane
  intent : TransitionIntent
  /-- The local `begin`, and whether it is the second one. -/
  begun : Option BeginResult := none
  rebegun : Bool := false
  /-- No request was answered since `begin`. -/
  untouched : Bool := false
  program : Saga TransitionOutcome

namespace Execution

/-- An execution recovers the transition its first begin handed out. -/
def recovering (e : Execution) : Bool :=
  e.begun.any (fun begun => begun.recovery.isSome) && !e.rebegun

/-- The transition an execution works on and the token it holds. -/
def attempt (e : Execution) : Option (Nat × Nat) :=
  e.begun.bind (fun begun => begun.claimToken.map (fun claimToken =>
    match begun.recovery with
    | some owed =>
      (if e.rebegun then begun.transitionId else owed.transitionId, claimToken)
    | none => (begun.transitionId, claimToken)))

/-- The intent an execution runs and the lane it runs it in. -/
def working (e : Execution) : Option (TransitionIntent × Lane) :=
  e.begun.bind (fun begun => begun.claimToken.map (fun _ =>
    match begun.recovery with
    | some owed =>
      if e.rebegun then (e.intent, e.lane)
      else (owed.intent, recoveryLane owed.intent)
    | none => (e.intent, e.lane)))

def pending (e : Execution) : Option Request :=
  match e.program with
  | .request r _ => some r
  | .done _ | .raise _ => none

/-- The bookkeeping of an answer. -/
def answered (e : Execution) : (r : Request) -> Except Failure (Answer r) -> Execution
  | .begin_ _ _, .ok begun =>
    { e with begun := some begun, rebegun := e.begun.isSome, untouched := true }
  | _, _ => { e with untouched := false }

end Execution

/-- A call whose coroutine was cancelled. -/
structure DetachedRequest where
  service : TaskTransitionService
  attempt : Option (Nat × Nat)
  request : Request

/-!
# The world
-/

/-- What the environment decides about a call. -/
structure Choice where
  now : Int := 0
  children : List Issue := []
  staged : TerminalStageResult := { success := true }
  /-- The terminal adapter moved the task to `In Validation`. -/
  moved : Bool := true
  /-- The authority version once a status was written. -/
  version : String := ""
  claimGuard : GuardAnswer := .text ""
  mutationGuard : GuardAnswer := .text ""
  retirementGuard : GuardAnswer := .text ""
  deriving DecidableEq

/-- `lost` is a tracker call that takes effect and raises. -/
inductive Resolution where
  | returns (choice : Choice)
  | raises (raised : Raised)
  | lost (choice : Choice) (raised : Raised)
  | detaches
  deriving DecidableEq

structure World where
  journal : TransitionJournal := {}
  tracker : Tracker := []
  executions : List Execution := []
  detached : List DetachedRequest := []
  /-- The transitions that a begin handed out for recovery. -/
  handedOut : List Nat := []
  /-- The transitions that called the adapter, and those whose call moved the task. -/
  stageCalls : List Nat := []
  stageMoves : List Nat := []

inductive WorldStep where
  | submit (service : TaskTransitionService) (lane : Lane) (intent : TransitionIntent)
  | answer (index : Nat) (resolution : Resolution)
  | finishDetached (position : Nat) (choice : Choice)
  | edit (key : TaskKey) (issue : Issue)

namespace World

def writeStatus (w : World) (key : TaskKey) (issue : Issue) (status : Status)
    (choice : Choice) : World :=
  { w with tracker := w.tracker.set key (issue.withStatus status choice.version) }

/-- A commit lane under its lock: read, compare and write.  The lock is the service's, so
that no other writer of the tracker comes between is assumed. -/
def commit (w : World) (service : TaskTransitionService)
    (intent : TransitionIntent) (choice : Choice)
    (conflict : Option Issue -> Option String × Bool × Option String) :
    World × CommitResult :=
  let stored := w.tracker.find intent.key
  let issue := stored.map (fun issue => issue.inProject service.projectId)
  match conflict issue, stored with
  | (none, _, _), some found =>
    (w.writeStatus intent.key found intent.requestedStatus choice, { issue := issue })
  | (none, _, _), none => (w, { issue := issue })
  | (some text, retryable, detail), _ =>
    (w, { issue := issue
          conflict := some text
          retryable := retryable
          detail := detail })

def missing : Failure where
  raised := .exception "KeyError"

def ofJournal : JournalError -> Failure
  | error => { raised := .journal error }

/-- A call of the adapter is on record even when it raises. -/
def called (w : World) (attempt : Option (Nat × Nat)) : Request -> World
  | .stage _ _ =>
    { w with stageCalls := (attempt.map Prod.fst).toList ++ w.stageCalls }
  | _ => w

/-- The effect and the answer of a call that runs. -/
def perform (w : World) (service : TaskTransitionService)
    (attempt : Option (Nat × Nat)) (choice : Choice) :
    (r : Request) -> World × Except Failure (Answer r)
  | .begin_ intent leaseTtlSeconds =>
    match w.journal.begin_ intent choice.now leaseTtlSeconds with
    | .ok (journal, begun) =>
      ({ w with
        journal := journal
        handedOut := (begun.recovery.map Recovery.transitionId).toList ++
          w.handedOut }, .ok begun)
    | .error error => (w, .error (ofJournal error))
  | .append transitionId phase reasonCode outcome =>
    match w.journal.append transitionId phase reasonCode outcome with
    | .ok journal => ({ w with journal := journal }, .ok ())
    | .error error => (w, .error (ofJournal error))
  | .release key claimToken =>
    ({ w with journal := (w.journal.release key claimToken).1 },
      .ok (w.journal.release key claimToken).2)
  | .expireForRetry key claimToken =>
    ({ w with
      journal := (w.journal.expireForRetry key claimToken choice.now).1 },
      .ok (w.journal.expireForRetry key claimToken choice.now).2)
  | .fetch key => (w, .ok (w.tracker.find key))
  | .fetchChildren _ => (w, .ok choice.children)
  | .stage intent issue =>
    let called := w.called attempt (.stage intent issue)
    match choice.moved, w.tracker.find intent.key with
    | true, some found =>
      ({ called.writeStatus intent.key found .inValidation choice with
        stageMoves := (attempt.map Prod.fst).toList ++ w.stageMoves },
        .ok choice.staged)
    | _, _ => (called, .ok choice.staged)
  | .update intent =>
    match w.tracker.find intent.key with
    | some found =>
      (w.writeStatus intent.key found intent.requestedStatus choice, .ok ())
    | none => (w, .error missing)
  | .commitDirectOwner intent =>
    let (after, result) := w.commit service intent choice (fun issue =>
      let (conflict, retryable) :=
        directOwnerCommitConflict service intent issue choice.claimGuard
      (conflict, retryable, none))
    (after, .ok result)
  | .commitGuarded intent =>
    let (after, result) := w.commit service intent choice (fun issue =>
      guardedCommitConflict service intent issue choice.mutationGuard choice.retirementGuard)
    (after, .ok result)

/-- The calls that reach the tracker or the adapter with a write. -/
def writesTracker : Request -> Bool
  | .stage _ _ | .update _ | .commitDirectOwner _ | .commitGuarded _ => true
  | .begin_ _ _ | .append _ _ _ _ | .release _ _ | .expireForRetry _ _
  | .fetch _ | .fetchChildren _ => false

/-- How a pending request of an execution is answered. -/
def resolve (w : World) (e : Execution) (r : Request) :
    Resolution -> Option (World × Except Failure (Answer r))
  | .returns choice => some (w.perform e.service e.attempt choice r)
  | .raises raised =>
    some (w.called e.attempt r, .error { raised := raised })
  | .lost choice raised =>
    if writesTracker r then
      some ((w.perform e.service e.attempt choice r).1, .error { raised := raised })
    else
      none
  | .detaches =>
    some ({ w with
      detached := w.detached ++
        [{ service := e.service, attempt := e.attempt, request := r }] },
      .error { raised := .cancelled })

def setExecution (w : World) (index : Nat) (e : Execution) : World :=
  { w with executions := w.executions.set index e }

def step (w : World) : WorldStep -> World
  | .submit service lane intent =>
    { w with
      executions := w.executions ++
        [{ service := service
           lane := lane
           intent := intent
           program := submission service lane intent }] }
  | .answer index resolution =>
    match w.executions[index]? with
    | some e =>
      match e.program with
      | .request r resume =>
        match w.resolve e r resolution with
        | some (after, answer) =>
          after.setExecution index { e.answered r answer with program := resume answer }
        | none => w
      | .done _ | .raise _ => w
    | none => w
  | .finishDetached position choice =>
    match w.detached[position]? with
    | some call =>
      (({ w with detached := w.detached.eraseIdx position } : World).perform
        call.service call.attempt choice call.request).1
    | none => w
  | .edit key issue =>
    match w.tracker.find key with
    | some found =>
      { w with
        tracker := w.tracker.set key
          { issue with state := found.state, projectId := found.projectId } }
    | none => w

end World

/-!
# A sample task
-/

def sampleService : TaskTransitionService where
  projectId := "project-1"

def sampleIntent : TransitionIntent where
  projectId := "project-1"
  taskId := "task-1"
  expectedStatus := .open
  expectedVersion := "version-1"
  requestedStatus := .needsHuman
  actor := "worker-1"
  authority := .orchestrator
  reasonCode := "implementation.blocked"
  idempotencyKey := "key-1"
  originatingJob := "job-1"

def sampleIssue : Issue where
  identifier := "task-1"
  projectId := "project-1"
  state := some .open
  authorityVersion := "version-1"

def sampleTracker : Tracker := [(sampleIntent.key, sampleIssue)]

/-- A call returns at a time. -/
def Resolution.returnsAt (now : Int) : Resolution :=
  .returns { now := now }

end TaskTransitions
end Oompah
