import Oompah.Foundation.TransitionSystem

/-!
# Checkpoint coalescing

The debounced queue in front of the state-branch commits.  Any number of
threads schedule mutations and flush; timers flush when they fire.  The queue
lock makes `schedule` and the bookkeeping of `flush` one step each, and the
serial lock keeps at most one call of `flush_fn` running.

Mutations are numbered in the order they were scheduled.  `scheduled` and
`published` are not fields of the queue: they count the mutations registered
so far and those that a call of `flush_fn` that returned found registered when
it started.
-/

namespace Oompah
namespace Checkpointing

open Foundation

/-- A call of `flush`. -/
structure FlushCall where
  reason : String
  timerBased : Bool
  deriving DecidableEq

/-- A call of `flush_fn`: the mutations it took and those scheduled before it. -/
structure FlushRun where
  call : FlushCall
  count : Nat
  started : Nat
  deriving DecidableEq

structure CheckpointQueue where
  pending : Nat := 0
  /-- The timer each attribute refers to, fired or not. -/
  debounceTimer : Option Nat := none
  maxDelayTimer : Option Nat := none
  firstPendingAt : Option Int := none
  lastPushAt : Option Int := none
  pushFailures : Nat := 0
  retired : Bool := false
  /-- Timers that were started and have neither fired nor been cancelled. -/
  armed : List (Nat × String) := []
  timersStarted : Nat := 0
  /-- Calls of `flush` that wait for the serial lock. -/
  waiting : List FlushCall := []
  /-- The holder of the serial lock. -/
  running : Option FlushRun := none
  scheduled : Nat := 0
  published : Nat := 0
  deriving DecidableEq

namespace CheckpointQueue

/-!
# Timers
-/

def startTimer (q : CheckpointQueue) (reason : String) : CheckpointQueue :=
  { q with
    armed := (q.timersStarted, reason) :: q.armed
    timersStarted := q.timersStarted + 1 }

def cancelTimer (q : CheckpointQueue) (timer : Option Nat) : CheckpointQueue :=
  { q with armed := q.armed.filter (fun entry => some entry.1 ≠ timer) }

/-!
# Operations
-/

def schedule (q : CheckpointQueue) (now : Int) : CheckpointQueue :=
  if q.retired then
    q
  else
    let counted :=
      { q with pending := q.pending + 1, scheduled := q.scheduled + 1 }
    let deadline :=
      if counted.firstPendingAt.isNone then
        { counted.startTimer "max_delay" with
          firstPendingAt := some now
          maxDelayTimer := some counted.timersStarted }
      else
        counted
    let reset := deadline.cancelTimer deadline.debounceTimer
    { reset.startTimer "debounce" with
      debounceTimer := some reset.timersStarted }

/-- A thread enters `flush` and waits for the serial lock. -/
def enter (q : CheckpointQueue) (call : FlushCall) : CheckpointQueue :=
  { q with waiting := q.waiting ++ [call] }

/-- `_timer_flush` of a timer that fires. -/
def fire (q : CheckpointQueue) (timer : Nat) : CheckpointQueue :=
  match q.armed.find? (fun entry => entry.1 = timer) with
  | some (_, reason) =>
    (q.cancelTimer (some timer)).enter { reason := reason, timerBased := true }
  | none => q

/-- Cancel both timers and clear the window. -/
def clearWindow (q : CheckpointQueue) : CheckpointQueue :=
  { (q.cancelTimer q.debounceTimer).cancelTimer q.maxDelayTimer with
    debounceTimer := none
    maxDelayTimer := none
    pending := 0
    firstPendingAt := none }

/-- `flush` from the serial lock to its return or to the call of `flush_fn`. -/
def acquire (q : CheckpointQueue) (index : Nat) : CheckpointQueue :=
  match q.running, q.waiting[index]? with
  | none, some call =>
    let entered := { q with waiting := q.waiting.eraseIdx index }
    if q.retired ∨ q.pending = 0 then
      entered
    else
      { entered.clearWindow with
        running := some
          { call := call, count := q.pending, started := q.scheduled } }
  | _, _ => q

/-- `flush_fn` returns, or raises and `flush` raises with it. -/
def finish (q : CheckpointQueue) (returned : Bool) (now : Int) :
    CheckpointQueue :=
  match q.running with
  | some run =>
    if returned then
      { q with
        running := none, lastPushAt := some now, published := run.started }
    else
      { q with running := none, pushFailures := q.pushFailures + 1 }
  | none => q

def retire (q : CheckpointQueue) : CheckpointQueue :=
  if q.running.isSome ∨ q.retired then q
  else { q.clearWindow with retired := true }

/-!
# Steps
-/

inductive QueueStep where
  | schedule (now : Int)
  | flush (reason : String)
  | fire (timer : Nat)
  | acquire (index : Nat)
  | finish (returned : Bool) (now : Int)
  | retire
  deriving DecidableEq

/-- `shutdown` is `flush` with the reason `"shutdown"`. -/
def step (q : CheckpointQueue) : QueueStep -> CheckpointQueue
  | .schedule now => q.schedule now
  | .flush reason => q.enter { reason := reason, timerBased := false }
  | .fire timer => q.fire timer
  | .acquire index => q.acquire index
  | .finish returned now => q.finish returned now
  | .retire => q.retire

end CheckpointQueue
end Checkpointing
end Oompah
