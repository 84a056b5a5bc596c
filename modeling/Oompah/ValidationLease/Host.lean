import Oompah.Foundation.Flock
import Oompah.Foundation.TransitionSystem
import Oompah.ValidationLease.Store

/-!
# Processes that share the validation capacity

Any number of processes hold instances of the lease on one state path.  The
parts of an operation that other processes can come between are steps of their
own: each lock of a slot, each transaction, each close of a descriptor.  A pass
is one run of the code between `_try_lock_slots` and `_close_slot_locks`.

The quarantine in `_initialize`, which on any `sqlite3.DatabaseError` moves the database
away and starts an empty one, is left out.
-/

namespace Oompah
namespace ValidationLease

open Foundation

/-- One `ValidationResourceLease`. -/
structure Manager where
  process : Process
  capacity : Nat
  aging : Int
  deriving DecidableEq

/-- Inherited descriptors are those a process did not open itself. -/
structure Descriptor where
  process : Process
  inherited : Bool
  deriving DecidableEq

inductive Purpose where
  /-- `_try_acquire` -/
  | acquiring (token : String)
  /-- `_release` -/
  | releasing (token : String) (slot : Nat)
  /-- `status` -/
  | observing
  deriving DecidableEq

inductive Phase where
  | locking
  | reconciling
  | closing
  deriving DecidableEq

/-- The slots below `next` were tried; `available` has those that were locked. -/
structure Pass where
  manager : Manager
  purpose : Purpose
  next : Nat := 0
  available : List (Nat × Nat) := []
  phase : Phase := .locking
  deriving DecidableEq

/-- A `ValidationLeaseHandle` that was built. -/
structure Grant where
  manager : Manager
  token : String
  identity : Identity
  slot : Nat
  lockFd : Nat
  deriving DecidableEq

inductive HandleState where
  /-- `acquire` has not checked the tombstones after the grant yet. -/
  | granted
  | returned
  /-- `_released` -/
  | released
  deriving DecidableEq

/-- A thread in `acquire` that has no handle. -/
structure Acquirer where
  manager : Manager
  owner : ValidationLeaseOwner
  trying : Bool := false
  deriving DecidableEq

/-- A process that was recorded under a token. -/
structure Attachment where
  identity : Identity
  token : String
  child : Process
  deriving DecidableEq

structure Host where
  store : LeaseStore := {}
  kernel : Flocks Nat Descriptor := {}
  started : List Process := []
  exited : List Process := []
  managers : Nat -> Option Manager := fun _ => none
  tokens : List String := []
  acquirers : String -> Option Acquirer := fun _ => none
  passCount : Nat := 0
  passes : Nat -> Option Pass := fun _ => none
  grants : List Grant := []
  handles : String -> HandleState := fun _ => .granted
  /-- What `_attach_process` recorded, the latest first. -/
  attached : List Attachment := []
  /-- The process groups that were asked to terminate. -/
  signalled : List Process := []

/-- How a transaction ends; one that fails late has chosen a slot already. -/
inductive Outcome where
  | commits
  | failsEarly
  | failsLate
  deriving DecidableEq

inductive Event where
  | start (process : Process)
  | exit (process : Process)
  | openManager (manager : Nat) (process : Process) (capacity aging : Int)
  | enqueue (manager : Nat) (token : String) (owner : ValidationLeaseOwner) (now : Int)
  | tryAcquire (token : String) (now : Int)
  | giveUp (token : String)
  | recheck (token : String)
  | attachProcess (token : String) (child : Process) (deadlineAt : Int)
  | release (token : String)
  | relinquishTransferredDescriptor (token : String)
  | status (manager : Nat) (now : Int)
  | cancelOwner (manager : Nat) (row : CancelledRow)
  | cancelExactOwnerProcess (manager : Nat) (row : CancelledRow) (requester child : Process)
  | tryLockSlot (pass : Nat)
  | transact (pass : Nat) (now : Int) (outcome : Outcome)
  | reconcile (pass : Nat) (outcome : Outcome)
  | closeSlotLock (pass : Nat)
  | inheritDescriptor (lockFd : Nat) (process : Process)
  | closeInherited (lockFd : Nat) (process : Process)
  deriving DecidableEq

namespace Host

def alive (h : Host) (process : Process) : Bool :=
  process ∈ h.started && process ∉ h.exited

/--
`_terminate_exact_process_group` for each child, called by a process; its own
number, small numbers and missing ticks are refused before any signal.
-/
def terminate (h : Host) (caller : Process) (children : List Process) : Host :=
  { h with
    signalled := h.signalled ++ children.filter fun child =>
      !(child.pid ≤ 1 || child.pid = caller.pid || child.startTicks ≤ 0) }

def withStore (h : Host) (store : LeaseStore) : Host := { h with store := store }

def withKernel (h : Host) (kernel : Flocks Nat Descriptor) : Host := { h with kernel := kernel }

def setAcquirer (h : Host) (token : String) (acquirer : Option Acquirer) : Host :=
  { h with acquirers := Function.update h.acquirers token acquirer }

def setHandle (h : Host) (token : String) (state : HandleState) : Host :=
  { h with handles := Function.update h.handles token state }

def beginPass (h : Host) (manager : Manager) (purpose : Purpose) : Host :=
  { h with
    passCount := h.passCount + 1
    passes := Function.update h.passes h.passCount
      (some { manager := manager, purpose := purpose }) }

def setPass (h : Host) (i : Nat) (pass : Pass) : Host :=
  { h with passes := Function.update h.passes i (some pass) }

def endPass (h : Host) (i : Nat) : Host :=
  { h with passes := Function.update h.passes i none }

/-- The handle closes its descriptor, without unlocking it. -/
def closeHandle (h : Host) (grant : Grant) : Host :=
  (h.withKernel (h.kernel.close grant.lockFd ⟨grant.manager.process, false⟩)).setHandle
    grant.token .released

def grantOf (h : Host) (token : String) : Option Grant :=
  h.grants.find? (·.token = token)

/-- A handle in a state whose process is alive. -/
def usable (h : Host) (token : String) (state : HandleState) : Option Grant :=
  (h.grantOf token).filter fun grant =>
    h.alive grant.manager.process && h.handles token = state

/-- The handle starts `_release`: it closes first and then probes the slots. -/
def beginRelease (h : Host) (grant : Grant) : Host :=
  (h.closeHandle grant).beginPass grant.manager (.releasing grant.token grant.slot)

/-- A process is gone with its threads and its descriptors. -/
def exitProcess (h : Host) (process : Process) : Host :=
  { h with
    exited := process :: h.exited
    kernel := h.kernel.closeAll fun d => d.process = process
    managers := fun i => (h.managers i).filter (·.process ≠ process)
    acquirers := fun token => (h.acquirers token).filter (·.manager.process ≠ process)
    passes := fun i => (h.passes i).filter (·.manager.process ≠ process) }

/-- `_try_lock_slots` tries its next slot. -/
def tryLockSlot (h : Host) (i : Nat) (pass : Pass) : Host :=
  let (kernel, locked) := h.kernel.tryLock pass.next ⟨pass.manager.process, false⟩
  (h.withKernel kernel).setPass i
    { pass with
      next := pass.next + 1
      available := pass.available ++ (locked.map fun lockFd => (pass.next, lockFd)).toList }

/-- The commit of a grant, which hands the descriptor of the slot to a handle. -/
def commitGrant (h : Host) (i : Nat) (pass : Pass) (store : LeaseStore) (row : OwnerRow)
    (lockFd : Nat) : Host :=
  let grant : Grant :=
    { manager := pass.manager
      token := row.token
      identity := row.identity
      slot := row.slot
      lockFd := lockFd }
  ({ h.withStore store with grants := h.grants ++ [grant] }.setHandle row.token .granted).setPass i
    { pass with
      available := pass.available.filter (·.1 ≠ row.slot)
      phase := .closing }

/-- The transaction of `_try_acquire`. -/
def transactAcquire (h : Host) (i : Nat) (pass : Pass) (token : String) (now : Int)
    (outcome : Outcome) : Host :=
  let closing := { pass with phase := .closing }
  if pass.available.isEmpty || outcome = .failsEarly then h.setPass i closing
  else
    let (store, chosen) :=
      h.store.tryGrant h.alive (pass.available.map (·.1)) pass.manager.aging token now
    match chosen.bind fun row => (pass.available.lookup row.slot).map (row, ·) with
    | none =>
      if outcome = .commits then (h.withStore store).setPass i closing
      else h.setPass i closing
    | some (row, lockFd) =>
      if outcome = .commits then h.commitGrant i pass store row lockFd
      else h.setPass i { closing with available := pass.available.filter (·.1 ≠ row.slot) }

/-- The transaction of `_release`. -/
def transactRelease (h : Host) (i : Nat) (pass : Pass) (token : String) (slot : Nat)
    (outcome : Outcome) : Host :=
  let closing := { pass with phase := .closing }
  if slot ∈ pass.available.map (·.1) && outcome = .commits then
    (h.withStore (h.store.deleteOwner token)).setPass i closing
  else h.setPass i closing

/-- The first transaction of `status`, which only reads. -/
def transactStatus (h : Host) (i : Nat) (pass : Pass) (outcome : Outcome) : Host :=
  if outcome = .commits && h.store.needsReconciliation h.alive (pass.available.map (·.1)) then
    h.setPass i { pass with phase := .reconciling }
  else h.setPass i { pass with phase := .closing }

/-- `_close_slot_locks` unlocks and closes its next lock. -/
def closeSlotLock (h : Host) (i : Nat) (pass : Pass) : Host :=
  match pass.available with
  | (_, lockFd) :: rest =>
    (h.withKernel ((h.kernel.unlock lockFd).close lockFd ⟨pass.manager.process, false⟩)).setPass i
        { pass with available := rest }
  | [] =>
    match pass.purpose with
    | .acquiring token =>
      (h.setAcquirer token ((h.acquirers token).map fun a => { a with trying := false })).endPass i
    | _ => h.endPass i

/-- What an event does, when the state allows it. -/
def apply (h : Host) : Event -> Option Host
  | .start process =>
    if process ∈ h.started then none
    else some { h with started := process :: h.started }
  | .exit process =>
    if h.alive process then some (h.exitProcess process) else none
  | .openManager i process capacity aging =>
    let manager : Manager :=
      { process, capacity := (max capacity 1).toNat, aging := max aging 10 }
    if h.alive process && (h.managers i).isNone then
      (h.store.initializeSchema manager.capacity manager.aging).map fun store =>
        { h with
          store := store
          managers := Function.update h.managers i (some manager) }
    else none
  | .enqueue i token owner now =>
    (h.managers i).bind fun manager =>
      if token ∈ h.tokens then none
      else (h.store.enqueue token owner manager.process now).map fun store =>
        { h.withStore store with tokens := token :: h.tokens }.setAcquirer token
          (some { manager, owner })
  | .tryAcquire token now =>
    (h.acquirers token).bind fun acquirer =>
      if acquirer.trying || (h.grantOf token).isSome then none
      else
        some (((h.setAcquirer token (some { acquirer with trying := true })).terminate
            acquirer.manager.process (h.store.expiredChildren now)).beginPass
              acquirer.manager (.acquiring token))
  | .giveUp token =>
    (h.acquirers token).bind fun acquirer =>
      if acquirer.trying || (h.grantOf token).isSome then none
      else some ((h.withStore (h.store.deleteWaiter token)).setAcquirer token none)
  | .recheck token =>
    (h.usable token .granted).bind fun grant =>
      (h.acquirers token).map fun acquirer =>
        if h.store.identityCancelled acquirer.owner.identity then
          (h.setAcquirer token none).beginRelease grant
        else (h.setAcquirer token none).setHandle token .returned
  | .attachProcess token child deadlineAt =>
    (h.grantOf token).bind fun grant =>
      if h.alive grant.manager.process && h.handles token ≠ .granted then
        (h.store.attachProcess token child deadlineAt).map fun store =>
          { h with
            store := store
            attached :=
              ((h.store.owners.filter (·.token = token)).map fun row =>
                { identity := row.identity, token, child }) ++ h.attached }
      else none
  | .release token => (h.usable token .returned).map h.beginRelease
  | .relinquishTransferredDescriptor token =>
    (h.usable token .returned).map h.closeHandle
  | .status i now =>
    (h.managers i).map fun manager =>
      (h.terminate manager.process (h.store.expiredChildren now)).beginPass manager .observing
  | .cancelOwner i row =>
    (h.managers i).map fun manager =>
      let (store, rows, _) := h.store.cancelOwner row
      (h.withStore store).terminate manager.process (rows.filterMap (·.child))
  | .cancelExactOwnerProcess i row requester child =>
    (h.managers i).bind fun manager =>
      (h.store.cancelExactOwnerProcess row requester child).map fun store =>
        (h.withStore store).terminate manager.process [child]
  | .tryLockSlot i =>
    (h.passes i).bind fun pass =>
      if pass.phase = .locking && pass.next < pass.manager.capacity then
        some (h.tryLockSlot i pass)
      else none
  | .transact i now outcome =>
    (h.passes i).bind fun pass =>
      if pass.phase = .locking && pass.manager.capacity ≤ pass.next then
        match pass.purpose with
        | .acquiring token => some (h.transactAcquire i pass token now outcome)
        | .releasing token slot => some (h.transactRelease i pass token slot outcome)
        | .observing => some (h.transactStatus i pass outcome)
      else none
  | .reconcile i outcome =>
    (h.passes i).bind fun pass =>
      if pass.phase = .reconciling then
        let closing := { pass with phase := .closing }
        if outcome = .commits then
          some ((h.withStore
              (h.store.reconcile h.alive (pass.available.map (·.1)))).setPass i closing)
        else some (h.setPass i closing)
      else none
  | .closeSlotLock i =>
    (h.passes i).bind fun pass =>
      if pass.phase = .closing then some (h.closeSlotLock i pass) else none
  | .inheritDescriptor lockFd process =>
    if h.alive process then
      some (h.withKernel (h.kernel.copy lockFd ⟨process, true⟩))
    else none
  | .closeInherited lockFd process =>
    some (h.withKernel (h.kernel.close lockFd ⟨process, true⟩))

/-- An event the state does not allow, or that raises before it commits, changes nothing. -/
def step (h : Host) (event : Event) : Host := (h.apply event).getD h

variable {h : Host} {i j : Nat} {pass : Pass}

theorem setPass_self : (h.setPass i pass).passes i = some pass := Function.update_self _ _ _

theorem setPass_ne (hj : j ≠ i) : (h.setPass i pass).passes j = h.passes j :=
  Function.update_of_ne hj _ _

end Host
end ValidationLease
end Oompah
