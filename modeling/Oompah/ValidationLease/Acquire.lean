import Oompah.Foundation.Execution
import Oompah.ValidationLease.Store

/-!
# One acquisition, statement by statement

`acquire` is a program over the database, the slot locks and the clock.  Each
statement and each commit is a request of its own, which the environment may
answer with an error; other processes change the database between two
connections of the call.
-/

namespace Oompah
namespace ValidationLease

open Foundation

/-- The places where a connection executes a statement or commits. -/
inductive Statement where
  /- the first transaction of `acquire` -/
  | openQueue
  | beginQueue
  | pruneExpired
  | pruneSurplus
  | queueTombstone
  | insertWaiter
  | commitQueue
  /- `_terminate_expired_children` -/
  | openExpired
  | selectExpired
  /- `_try_acquire` before it has chosen a slot -/
  | openGrant
  | beginGrant
  | selectRequesters
  | deleteDeadWaiter
  | selectOwners
  | deleteFreedOwner
  | selectOwnWaiter
  | waiterTombstone
  | deleteCancelledWaiter
  | commitCancelledWaiter
  | selectWaiters
  | selectTurns
  | selectOccupied
  /- `_try_acquire` after it has chosen a slot -/
  | insertOwner
  | deleteGrantedWaiter
  | selectSequence
  | updateSequence
  | upsertTurn
  | commitGrant
  /- `_owner_cancelled` -/
  | openTombstone
  | selectTombstone
  /- `_release` -/
  | openRelease
  | deleteOwner
  | commitRelease
  /- the check that the waiter is still queued -/
  | openQueued
  | selectQueued
  /- the handler of `acquire` -/
  | openCleanup
  | deleteWaiter
  | commitCleanup
  deriving DecidableEq

inductive AcquireError where
  | database
  | unfenced
  | cancelled (reason : String)
  deriving DecidableEq

inductive Request where
  /-- A new connection and its `PRAGMA busy_timeout`. -/
  | connect (statement : Statement)
  /-- `BEGIN IMMEDIATE`. -/
  | begin (statement : Statement)
  | select (statement : Statement)
  | write (statement : Statement) (change : LeaseStore -> LeaseStore)
  /-- A commit; without an open transaction it does nothing. -/
  | commit (statement : Statement)
  | rollback
  | lockSlots
  | popSlot (slot : Nat)
  | closeSlot (slot : Nat)
  | closeAvailable
  | clock
  | liveness
  | isCancelled
  | timedOut

def Answer : Request -> Type
  | .select _ => LeaseStore
  | .lockSlots => List Nat
  | .clock => Int
  | .liveness => Process -> Bool
  | .isCancelled => Bool
  | .timedOut => Bool
  | _ => Unit

abbrev Acquiring (α : Type) := Program Request Answer AcquireError α

open Program

def connect (statement : Statement) : Acquiring Unit := perform (Request.connect statement)

def beginImmediate (statement : Statement) : Acquiring Unit :=
  perform (Request.begin statement)

def select (statement : Statement) : Acquiring LeaseStore :=
  perform (Request.select statement)

def write (statement : Statement) (change : LeaseStore -> LeaseStore) : Acquiring Unit :=
  perform (Request.write statement change)

def commit (statement : Statement) : Acquiring Unit := perform (Request.commit statement)

def rollback : Acquiring Unit := perform Request.rollback

/-- `_try_lock_slots`. -/
def tryLockSlots : Acquiring (List Nat) := perform Request.lockSlots

/-- `available.pop(slot)`. -/
def popSlot (slot : Nat) : Acquiring Unit := perform (Request.popSlot slot)

def closeSlot (slot : Nat) : Acquiring Unit := perform (Request.closeSlot slot)

/-- `_close_slot_locks(available.values())`. -/
def closeAvailable : Acquiring Unit := perform Request.closeAvailable

def clock : Acquiring Int := perform Request.clock

def liveness : Acquiring (Process -> Bool) := perform Request.liveness

def isCancelled : Acquiring Bool := perform Request.isCancelled

def timedOut : Acquiring Bool := perform Request.timedOut

/-- The context manager of `_connect`: a commit, or a rollback before the
exception goes on. -/
def withConnection {α : Type} (opening committing : Statement) (body : Acquiring α) :
    Acquiring α := do
  connect opening
  Program.tryCatch (do
      let value <- body
      commit committing
      pure value)
    (fun error => do
      rollback
      raise error)

def forEach {α : Type} : List α -> (α -> Acquiring Unit) -> Acquiring Unit
  | [], _ => pure ()
  | row :: rest, action => do
      action row
      forEach rest action

/-- `try: ... finally: self._close_slot_locks(available.values())`. -/
def closingSlots {α : Type} (body : Acquiring α) : Acquiring α := do
  let value <- Program.tryCatch body (fun error => do
      closeAvailable
      raise error)
  closeAvailable
  pure value

/-!
# The statements
-/

namespace LeaseStore

/-- The first statement of `_prune_cancelled_locked`. -/
def pruneExpired (s : LeaseStore) (now : Int) : LeaseStore :=
  { s with
    cancelledOwners := s.cancelledOwners.filter fun row =>
      !(row.cancelledAt < now - cancelledOwnerRetention && !s.inUse row.identity) }

/-- The second statement of `_prune_cancelled_locked`. -/
def pruneSurplus (s : LeaseStore) : LeaseStore :=
  let newestFirst :=
    (s.cancelledOwners.filter fun row => !s.inUse row.identity).insertionSort
      fun a b => b.cancelledAt ≤ a.cancelledAt
  let surplus := newestFirst.drop cancelledOwnerLimit
  { s with cancelledOwners := s.cancelledOwners.filter fun row => row ∉ surplus }

def insertWaiter (s : LeaseStore) (row : WaiterRow) : LeaseStore :=
  { s with waiters := s.waiters ++ [row] }

def deleteSlot (s : LeaseStore) (slot : Nat) : LeaseStore :=
  { s with owners := s.owners.filter (·.slot ≠ slot) }

def insertOwnerRow (s : LeaseStore) (row : OwnerRow) : LeaseStore :=
  { s with owners := s.owners ++ [row] }

def setSequence (s : LeaseStore) (sequence : Nat) : LeaseStore :=
  { s with grantSequence := sequence }

def upsertTurn (s : LeaseStore) (projectId : String) (sequence : Nat) : LeaseStore :=
  { s with
    projectTurns := (projectId, sequence) :: s.projectTurns.filter (·.1 ≠ projectId) }

/-- A waiter has the token. -/
def Queues (s : LeaseStore) (token : String) : Prop :=
  exists row, row ∈ s.waiters ∧ row.token = token

instance (s : LeaseStore) (token : String) : Decidable (s.Queues token) :=
  decidable_of_iff (s.waiters.any (·.token = token) = true) (by simp [Queues])

end LeaseStore

/-!
# The program
-/

/-- `_terminate_expired_children`, as far as the database goes. -/
def terminateExpiredChildren : Acquiring Unit :=
  withConnection .openExpired .selectExpired do
    let _ <- select .selectExpired
    pure ()

/-- `_reconcile_locked`. -/
def reconcileLocked (available : List Nat) : Acquiring Unit := do
  let queued <- select .selectRequesters
  let alive <- liveness
  forEach queued.waiters fun row =>
    if alive row.requester then pure ()
    else write .deleteDeadWaiter (·.deleteWaiter row.token)
  let owned <- select .selectOwners
  forEach owned.owners fun row =>
    if row.slot ∈ available then write .deleteFreedOwner (·.deleteSlot row.slot)
    else pure ()

/-- What is written once a slot was chosen. -/
def writeGrant (waiter : WaiterRow) (slot : Nat) : Acquiring Unit := do
  let now <- clock
  write .insertOwner (·.insertOwnerRow (waiter.granted slot now))
  write .deleteGrantedWaiter (·.deleteWaiter waiter.token)
  let counted <- select .selectSequence
  let sequence := counted.grantSequence + 1
  write .updateSequence (·.setSequence sequence)
  write .upsertTurn (·.upsertTurn waiter.identity.projectId sequence)

/-- The descriptor of the chosen slot is popped before anything is written. -/
def grantSlot (waiter : WaiterRow) (slot : Nat) : Acquiring (Option Nat) := do
  popSlot slot
  writeGrant waiter slot
  commit .commitGrant
  pure (some slot)

def abandon : Acquiring (Option Nat) := do
  rollback
  pure none

/-- The rest of the transaction of `_try_acquire` for a waiter that is queued. -/
def selectAndGrant (aging : Int) (waiter : WaiterRow) (available : List Nat) :
    Acquiring (Option Nat) := do
  let queued <- select .selectWaiters
  let now <- clock
  let turns <- select .selectTurns
  let candidate := LeaseStore.selectWaiter queued.waiters aging now turns.projectTurns
  if candidate.all (·.token ≠ waiter.token) then abandon
  else do
    let owned <- select .selectOccupied
    match available.find? (· ∉ owned.owners.map (·.slot)) with
    | none => abandon
    | some slot => grantSlot waiter slot

/-- The transaction of `_try_acquire`. -/
def grantTransaction (aging : Int) (token : String) (available : List Nat) :
    Acquiring (Option Nat) := do
  beginImmediate .beginGrant
  reconcileLocked available
  let own <- select .selectOwnWaiter
  match own.waiters.find? (·.token = token) with
  | none => abandon
  | some waiter => do
      let tombstones <- select .waiterTombstone
      if tombstones.identityCancelled waiter.identity then do
        write .deleteCancelledWaiter (·.deleteWaiter token)
        commit .commitCancelledWaiter
        pure none
      else selectAndGrant aging waiter available

/-- `_try_acquire`; a slot that is returned stays locked. -/
def tryAcquire (aging : Int) (token : String) : Acquiring (Option Nat) := do
  terminateExpiredChildren
  let available <- tryLockSlots
  if available.isEmpty then pure none
  else
    closingSlots (withConnection .openGrant .commitGrant (grantTransaction aging token available))

/-- `release` of a handle: it closes its descriptor and probes the slots; an
error of the database is logged. -/
def release (token : String) (slot : Nat) : Acquiring Unit := do
  closeSlot slot
  let available <- tryLockSlots
  closingSlots (if slot ∈ available then
      Program.tryCatch (withConnection .openRelease .commitRelease
          (write .deleteOwner (·.deleteOwner token)))
        (fun _ => pure ())
    else pure ())

/-- What follows a grant: the tombstones are read again. -/
def recheck (identity : Identity) (token : String) (slot : Nat) : Acquiring (Option Nat) := do
  let tombstones <- withConnection .openTombstone .selectTombstone (select .selectTombstone)
  if tombstones.identityCancelled identity then do
    release token slot
    raise (.cancelled "validation authority withdrawn while acquiring capacity")
  else pure (some slot)

/-- The retry loop of `acquire`; after the given number of polls it still waits. -/
def poll (aging : Int) (identity : Identity) (token : String) : Nat -> Acquiring (Option Nat)
  | 0 => pure none
  | polls + 1 => do
      if <- isCancelled then
        raise (.cancelled "validation authority withdrawn while waiting for capacity")
      else if <- timedOut then
        raise (.cancelled "validation capacity wait timed out")
      else do
        let handle <- tryAcquire aging token
        match handle with
        | some slot => recheck identity token slot
        | none => do
            let queued <- withConnection .openQueued .selectQueued (select .selectQueued)
            if queued.Queues token then poll aging identity token polls
            else raise (.cancelled "validation authority withdrawn while waiting for capacity")

/-- The first transaction of `acquire`. -/
def queueWaiter (token : String) (owner : ValidationLeaseOwner) (requester : Process)
    (queuedAt : Int) : Acquiring Unit :=
  withConnection .openQueue .commitQueue do
    beginImmediate .beginQueue
    let now <- clock
    write .pruneExpired (·.pruneExpired now)
    write .pruneSurplus LeaseStore.pruneSurplus
    let tombstones <- select .queueTombstone
    if tombstones.identityCancelled owner.identity then
      raise (.cancelled "validation authority was withdrawn before capacity acquisition")
    else
      write .insertWaiter (·.insertWaiter
        { token := token
          identity := owner.identity
          priority := owner.priority
          queuedAt := queuedAt
          requester := requester })

/-- The handler around the retry loop. -/
def withdraw (token : String) (error : AcquireError) : Acquiring (Option Nat) := do
  withConnection .openCleanup .commitCleanup (write .deleteWaiter (·.deleteWaiter token))
  raise error

/-- `acquire`: the slot of the handle, or nothing when it waits after the polls. -/
def acquire (aging : Int) (owner : ValidationLeaseOwner) (token : String) (pid : Int)
    (startTicks : Option Int) (polls : Nat) : Acquiring (Option Nat) :=
  match startTicks with
  | none => raise .unfenced
  | some ticks => do
      let queuedAt <- clock
      queueWaiter token owner ⟨pid, ticks⟩ queuedAt
      Program.tryCatch (poll aging owner.identity token polls) (withdraw token)

/-!
# The environment of a call
-/

/-- What a call meets at its requests, which are numbered.  Other processes
never write rows with the token of the call. -/
structure Environment (token : String) where
  capacity : Nat
  /-- What others do to the database before a connection is opened. -/
  others : Nat -> LeaseStore -> LeaseStore
  /-- Nobody else has the lock of the slot. -/
  lockable : Nat -> Nat -> Bool
  clock : Nat -> Int
  alive : Nat -> Process -> Bool
  cancelled : Nat -> Bool
  timedOut : Nat -> Bool
  /-- The request whose statement raises. -/
  raises : Option Nat
  others_queues : forall n s, (others n s).Queues token -> s.Queues token

/-- The database and what the call has of it and of the locks. -/
structure CallState where
  store : LeaseStore
  /-- The open transaction of the call. -/
  working : Option LeaseStore := none
  /-- Slots locked by descriptors that the call opened and has not closed. -/
  locks : List Nat := []
  /-- `available` of the slots that were locked last. -/
  available : List Nat := []
  time : Nat := 0
  /-- The statement that raised, and the rows it found. -/
  fault : Option (Statement × LeaseStore) := none

namespace CallState

def tick (w : CallState) : CallState := { w with time := w.time + 1 }

/-- What a statement of the call sees. -/
def visible (w : CallState) : LeaseStore := w.working.getD w.store

/-- The statement is answered, or it raises when its time has come. -/
def answer {token : String} {α : Type} (env : Environment token) (w : CallState)
    (statement : Statement) (value : α) (after : CallState) :
    Except AcquireError α × CallState :=
  if env.raises = some w.time then
    (.error .database, { w.tick with fault := some (statement, w.store) })
  else (.ok value, after.tick)

def handle {token : String} (env : Environment token) (w : CallState) :
    (r : Request) -> Except AcquireError (Answer r) × CallState
  | .connect statement =>
    let moved := { w with store := env.others w.time w.store }
    moved.answer env statement () moved
  | .begin statement => w.answer env statement () { w with working := some w.store }
  | .select statement => w.answer env statement w.visible w
  | .write statement change =>
    w.answer env statement () { w with working := some (change w.visible) }
  | .commit statement =>
    match w.working with
    | none => (.ok (), w.tick)
    | some working => w.answer env statement () { w with store := working, working := none }
  | .rollback => (.ok (), { w.tick with working := none })
  | .lockSlots =>
    let available := (List.range env.capacity).filter fun slot =>
      env.lockable w.time slot && slot ∉ w.locks
    (.ok available, { w.tick with locks := w.locks ++ available, available := available })
  | .popSlot slot => (.ok (), { w.tick with available := w.available.filter (· ≠ slot) })
  | .closeSlot slot => (.ok (), { w.tick with locks := w.locks.filter (· ≠ slot) })
  | .closeAvailable =>
    (.ok (), { w.tick with locks := w.locks.filter (· ∉ w.available), available := [] })
  | .clock => (.ok (env.clock w.time), w.tick)
  | .liveness => (.ok (env.alive w.time), w.tick)
  | .isCancelled => (.ok (env.cancelled w.time), w.tick)
  | .timedOut => (.ok (env.timedOut w.time), w.tick)

end CallState
end ValidationLease
end Oompah
