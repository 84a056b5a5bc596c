import Mathlib.Data.List.Sort
import Oompah.Foundation.Table

/-!
# The validation lease database

Waiters, owners, project turns and tombstones of cancelled identities are rows
of one database, and every operation below is one transaction on it.  Times are
in milliseconds.  A process is identified by its number and its start ticks.
-/

namespace Oompah
namespace ValidationLease

open Foundation

def cancelledOwnerRetention : Int := 24 * 60 * 60 * 1000
def cancelledOwnerLimit : Nat := 1024
def exactGatePriority : Int := 20
def auditorPriority : Int := 10
def workerPriority : Int := 0
def starvationAgingSteps : Int := exactGatePriority - workerPriority + 1

structure Process where
  pid : Int
  startTicks : Int
  deriving DecidableEq

inductive ValidationKind where
  | exactGate
  | auditor
  | worker
  deriving DecidableEq

/-- What `_identity_values` reads of an owner. -/
structure Identity where
  kind : ValidationKind
  projectId : String
  taskId : String
  authorityGeneration : String
  deriving DecidableEq

structure ValidationLeaseOwner where
  identity : Identity
  priority : Int
  deriving DecidableEq

namespace ValidationLeaseOwner

def exactGate (projectId taskId authorityGeneration : String) : ValidationLeaseOwner :=
  { identity := ⟨.exactGate, projectId, taskId, authorityGeneration⟩
    priority := exactGatePriority }

def auditor (projectId taskId authorityGeneration : String) : ValidationLeaseOwner :=
  { identity := ⟨.auditor, projectId, taskId, authorityGeneration⟩
    priority := auditorPriority }

def worker (projectId taskId authorityGeneration : String) : ValidationLeaseOwner :=
  { identity := ⟨.worker, projectId, taskId, authorityGeneration⟩
    priority := workerPriority }

end ValidationLeaseOwner

/-!
# Rows
-/

structure WaiterRow where
  token : String
  identity : Identity
  priority : Int
  queuedAt : Int
  requester : Process
  deriving DecidableEq

structure OwnerRow where
  slot : Nat
  token : String
  identity : Identity
  priority : Int
  acquiredAt : Int
  requester : Process
  child : Option Process := none
  deadlineAt : Option Int := none
  deriving DecidableEq

/-- The row a waiter gets for a slot. -/
def WaiterRow.granted (waiter : WaiterRow) (slot : Nat) (now : Int) : OwnerRow :=
  { slot := slot
    token := waiter.token
    identity := waiter.identity
    priority := waiter.priority
    acquiredAt := now
    requester := waiter.requester }

structure CancelledRow where
  identity : Identity
  cancelledAt : Int
  cancelledBy : String
  reason : String
  deriving DecidableEq

/-- The tables, with the `capacity`, `aging_seconds` and `grant_sequence` of `schema_meta`. -/
structure LeaseStore where
  capacity : Option Nat := none
  aging : Option Int := none
  grantSequence : Nat := 0
  waiters : List WaiterRow := []
  owners : List OwnerRow := []
  projectTurns : List (String × Nat) := []
  cancelledOwners : List CancelledRow := []
  deriving DecidableEq

namespace LeaseStore

/-!
# The transactions
-/

/--
`_initialize_schema`: the configuration of an instance is recorded when none is
or when there are no owners and no waiters; a different one raises otherwise.
-/
def initializeSchema (s : LeaseStore) (capacity : Nat) (aging : Int) :
    Option LeaseStore :=
  let activeCount := s.owners.length + s.waiters.length
  if s.capacity.any (· ≠ capacity) && activeCount ≠ 0 then none
  else if s.aging.any (· ≠ aging) && activeCount ≠ 0 then none
  else some { s with capacity := some capacity, aging := some aging }

/-- `_identity_cancelled_locked`. -/
def identityCancelled (s : LeaseStore) (identity : Identity) : Bool :=
  s.cancelledOwners.any (·.identity = identity)

/-- An owners row or a waiters row has the identity. -/
def inUse (s : LeaseStore) (identity : Identity) : Bool :=
  s.owners.any (·.identity = identity) || s.waiters.any (·.identity = identity)

/--
`_prune_cancelled_locked`: tombstones whose identity is not in use go when they
are older than the retention, and from the newest on only so many of them stay.
-/
def pruneCancelled (s : LeaseStore) (now : Int) : LeaseStore :=
  let kept := s.cancelledOwners.filter fun row =>
    !(row.cancelledAt < now - cancelledOwnerRetention && !s.inUse row.identity)
  let newestFirst :=
    (kept.filter fun row => !s.inUse row.identity).insertionSort
      fun a b => b.cancelledAt ≤ a.cancelledAt
  let surplus := newestFirst.drop cancelledOwnerLimit
  { s with cancelledOwners := kept.filter fun row => row ∉ surplus }

/-- The first transaction of `acquire`; the exception rolls the pruning back. -/
def enqueue (s : LeaseStore) (token : String) (owner : ValidationLeaseOwner)
    (requester : Process) (now : Int) : Option LeaseStore :=
  let pruned := s.pruneCancelled now
  if pruned.identityCancelled owner.identity then none
  else
    some
      { pruned with
        waiters := pruned.waiters ++
          [{ token := token
             identity := owner.identity
             priority := owner.priority
             queuedAt := now
             requester := requester }] }

def deleteWaiter (s : LeaseStore) (token : String) : LeaseStore :=
  { s with waiters := s.waiters.filter (·.token ≠ token) }

/--
`_reconcile_locked`: waiters of dead requesters go, and so do the owners of
slots whose locks the caller has.
-/
def reconcile (s : LeaseStore) (alive : Process -> Bool) (available : List Nat) :
    LeaseStore :=
  { s with
    waiters := s.waiters.filter fun row => alive row.requester
    owners := s.owners.filter fun row => row.slot ∉ available }

/-- `min(rows, key=...)` for a key given by its strict order. -/
def firstBy (before : WaiterRow -> WaiterRow -> Bool) : List WaiterRow -> Option WaiterRow
  | [] => none
  | row :: rest =>
    some (rest.foldl (fun best other => if before other best then other else best) row)

def projectTurn (turns : List (String × Nat)) (projectId : String) : Int :=
  (turns.lookup projectId).elim (-1) Int.ofNat

/-- `_select_waiter`. -/
def selectWaiter (rows : List WaiterRow) (aging now : Int)
    (projectTurns : List (String × Nat)) : Option WaiterRow :=
  let age (row : WaiterRow) := max (now - row.queuedAt) 0
  let queuedFirst (a b : WaiterRow) : Bool :=
    a.queuedAt < b.queuedAt || (a.queuedAt = b.queuedAt && a.token < b.token)
  let starved := rows.filter fun row => aging * starvationAgingSteps ≤ age row
  if starved.isEmpty then
    let effectivePriority (row : WaiterRow) := row.priority + age row / aging
    let turn (row : WaiterRow) := projectTurn projectTurns row.identity.projectId
    firstBy
      (fun a b =>
        effectivePriority b < effectivePriority a || (effectivePriority a = effectivePriority b &&
            (turn a < turn b || (turn a = turn b && queuedFirst a b))))
      rows
  else firstBy queuedFirst starved

/-- The insertion of a grant and what goes with it. -/
def insertOwner (s : LeaseStore) (row : OwnerRow) : LeaseStore :=
  { s with
    owners := s.owners ++ [row]
    waiters := s.waiters.filter (·.token ≠ row.token)
    grantSequence := s.grantSequence + 1
    projectTurns :=
      (row.identity.projectId, s.grantSequence + 1) ::
        s.projectTurns.filter (·.1 ≠ row.identity.projectId) }

/--
The transaction of `_try_acquire` on the slots whose locks it has: the database
it commits, or the old one after a rollback, and the row of the slot it has chosen.
-/
def tryGrant (s : LeaseStore) (alive : Process -> Bool) (available : List Nat)
    (aging : Int) (token : String) (now : Int) : LeaseStore × Option OwnerRow :=
  let reconciled := s.reconcile alive available
  match reconciled.waiters.find? (·.token = token) with
  | none => (s, none)
  | some waiter =>
    if reconciled.identityCancelled waiter.identity then
      (reconciled.deleteWaiter token, none)
    else
      let candidate := selectWaiter reconciled.waiters aging now reconciled.projectTurns
      if candidate.all (·.token ≠ token) then (s, none)
      else
        let occupied := reconciled.owners.map (·.slot)
        match available.find? (· ∉ occupied) with
        | none => (s, none)
        | some slot =>
          let row := waiter.granted slot now
          (reconciled.insertOwner row, some row)

/-- `_attach_process`, refused when no row of the token is free of tombstones. -/
def attachProcess (s : LeaseStore) (token : String) (child : Process) (deadlineAt : Int) :
    Option LeaseStore :=
  let attaches (row : OwnerRow) : Bool :=
    row.token = token && !s.identityCancelled row.identity
  if countWhere s.owners attaches = 1 then
    some
      { s with
        owners := updateWhere s.owners attaches fun row =>
          { row with child := some child, deadlineAt := some deadlineAt } }
  else none

/-- The deletion of `_release`. -/
def deleteOwner (s : LeaseStore) (token : String) : LeaseStore :=
  { s with owners := s.owners.filter (·.token ≠ token) }

/-- `INSERT INTO cancelled_owners ... ON CONFLICT ... DO UPDATE`. -/
def insertCancelled (s : LeaseStore) (row : CancelledRow) : LeaseStore :=
  { s with
    cancelledOwners :=
      if s.identityCancelled row.identity then
        updateWhere s.cancelledOwners (·.identity = row.identity) fun _ => row
      else s.cancelledOwners ++ [row] }

/--
The transaction of `cancel_owner`: the database, the rows it found, whose
children are signalled afterwards, and the number of waiters it deleted.
-/
def cancelOwner (s : LeaseStore) (row : CancelledRow) : LeaseStore × List OwnerRow × Nat :=
  let cancelled := (s.pruneCancelled row.cancelledAt).insertCancelled row
  ({ cancelled with waiters := cancelled.waiters.filter (·.identity ≠ row.identity) },
    cancelled.owners.filter (·.identity = row.identity),
    cancelled.waiters.countP (·.identity = row.identity))

/-- The transaction of `cancel_exact_owner_process`, or its rollback. -/
def cancelExactOwnerProcess (s : LeaseStore) (row : CancelledRow)
    (requester child : Process) : Option LeaseStore :=
  let pruned := s.pruneCancelled row.cancelledAt
  match pruned.owners.filter (·.identity = row.identity) with
  | [owner] =>
    if owner.requester = requester && owner.child.getD ⟨0, 0⟩ = child then
      some (pruned.insertCancelled row)
    else none
  | _ => none

/-- The children that `_terminate_expired_children` finds past their deadline. -/
def expiredChildren (s : LeaseStore) (now : Int) : List Process :=
  (s.owners.filter fun row => row.deadlineAt.any (· ≤ now)).filterMap (·.child)

/-- `needs_reconciliation` of `status`. -/
def needsReconciliation (s : LeaseStore) (alive : Process -> Bool) (available : List Nat) :
    Bool :=
  (s.waiters.any fun row => !alive row.requester) || s.owners.any fun row => row.slot ∈ available

/-!
# What a transaction does to the rows

A transaction may take owners away and fill in the child of others; it adds
waiters and owners only where a grant or a queueing does.
-/

variable {s s' : LeaseStore} {now : Int} {token : String} {identity : Identity}

/-- What never changes of a row. -/
def SamePlace (row row' : OwnerRow) : Prop :=
  row.slot = row'.slot ∧ row.token = row'.token ∧ row.identity = row'.identity

structure Revises (s s' : LeaseStore) (freed : OwnerRow -> Prop) : Prop where
  owners_of : forall row', row' ∈ s'.owners -> exists row, row ∈ s.owners ∧ SamePlace row row'
  owners_kept : forall row, row ∈ s.owners -> ¬ freed row ->
    exists row', row' ∈ s'.owners ∧ SamePlace row row'
  waiters_of : forall row, row ∈ s'.waiters -> row ∈ s.waiters

theorem SamePlace.refl (row : OwnerRow) : SamePlace row row := ⟨rfl, rfl, rfl⟩

theorem revises_of_owners (howners : s'.owners = s.owners)
    (hwaiters : forall row, row ∈ s'.waiters -> row ∈ s.waiters) :
    Revises s s' fun _ => False := by
  constructor
  · intro row' hrow'
    exact ⟨row', howners ▸ hrow', .refl row'⟩
  · intro row hrow _
    exact ⟨row, howners ▸ hrow, .refl row⟩
  · exact hwaiters

theorem revises_filter {keeps : OwnerRow -> Bool} (howners : s'.owners = s.owners.filter keeps)
    (hwaiters : forall row, row ∈ s'.waiters -> row ∈ s.waiters) :
    Revises s s' fun row => keeps row = false := by
  constructor
  · intro row' hrow'
    rw [howners] at hrow'
    exact ⟨row', (List.mem_filter.mp hrow').left, .refl row'⟩
  · intro row hrow hkept
    rw [howners]
    exact ⟨row, List.mem_filter.mpr ⟨hrow, by simpa using hkept⟩, .refl row⟩
  · exact hwaiters

theorem initializeSchema_eq_some {capacity : Nat} {aging : Int}
    (h : s.initializeSchema capacity aging = some s') :
    s' = { s with capacity := some capacity, aging := some aging } ∧
      (s.capacity = some capacity ∨ s.capacity = none ∨ s.owners = []) := by
  unfold initializeSchema at h
  by_cases hcapacity :
      (s.capacity.any (· ≠ capacity) && s.owners.length + s.waiters.length ≠ 0) = true
  · rw [if_pos hcapacity] at h
    cases h
  · rw [if_neg hcapacity] at h
    by_cases haging : (s.aging.any (· ≠ aging) && s.owners.length + s.waiters.length ≠ 0) = true
    · rw [if_pos haging] at h
      cases h
    · rw [if_neg haging] at h
      refine ⟨by simpa using h.symm, ?_⟩
      cases hrecorded : s.capacity with
      | none => exact .inr (Or.inl rfl)
      | some recorded =>
        by_cases hsame : recorded = capacity
        · exact .inl (by rw [hsame])
        · rw [hrecorded] at hcapacity
          simp only [Option.any_some, decide_true, Bool.and_eq_true, decide_eq_true_eq,
            ne_eq, not_and, hsame, not_false_eq_true, true_implies, Decidable.not_not]
            at hcapacity
          exact .inr (Or.inr (List.length_eq_zero_iff.mp (by omega)))

theorem enqueue_eq_some {owner : ValidationLeaseOwner} {requester : Process}
    (h : s.enqueue token owner requester now = some s') :
    s'.owners = s.owners ∧ s'.capacity = s.capacity ∧
      (forall row, row ∈ s'.waiters -> row ∈ s.waiters ∨ row.token = token) ∧
      s'.cancelledOwners = (s.pruneCancelled now).cancelledOwners := by
  unfold enqueue at h
  by_cases hcancelled : (s.pruneCancelled now).identityCancelled owner.identity = true
  · rw [if_pos hcancelled] at h
    cases h
  · rw [if_neg hcancelled] at h
    cases h
    refine ⟨rfl, rfl, ?_, rfl⟩
    intro row hrow
    rcases List.mem_append.mp hrow with hold | hnew
    · exact .inl hold
    · rw [List.mem_singleton.mp hnew]
      exact .inr rfl

theorem deleteWaiter_revises (s : LeaseStore) (token : String) :
    Revises s (s.deleteWaiter token) fun _ => False :=
  revises_of_owners rfl fun _ hrow => (List.mem_filter.mp hrow).left

theorem reconcile_revises (s : LeaseStore) (alive : Process -> Bool) (available : List Nat) :
    Revises s (s.reconcile alive available) fun row => row.slot ∈ available := by
  have h : Revises s (s.reconcile alive available)
      fun row => decide (row.slot ∉ available) = false :=
    revises_filter rfl fun _ hrow => (List.mem_filter.mp hrow).left
  simpa using h

theorem deleteOwner_revises (s : LeaseStore) (token : String) :
    Revises s (s.deleteOwner token) fun row => row.token = token := by
  have h : Revises s (s.deleteOwner token) fun row => decide (row.token ≠ token) = false :=
    revises_filter rfl fun _ hrow => hrow
  simpa using h

/-- A grant is made of a live waiter without a tombstone, on a free slot with its lock. -/
theorem tryGrant_cases {alive : Process -> Bool} {available : List Nat} {aging : Int}
    {chosen : Option OwnerRow}
    (h : s.tryGrant alive available aging token now = (s', chosen)) :
    (chosen = none ∧ (s' = s ∨ s' = (s.reconcile alive available).deleteWaiter token)) ∨
      exists waiter slot, waiter ∈ s.waiters ∧ waiter.token = token ∧
        s.identityCancelled waiter.identity = false ∧ slot ∈ available ∧
        chosen = some (waiter.granted slot now) ∧
        s' = (s.reconcile alive available).insertOwner (waiter.granted slot now) := by
  unfold tryGrant at h
  cases hwaiter : (s.reconcile alive available).waiters.find? (·.token = token) with
  | none =>
    simp only [hwaiter] at h
    cases h
    exact .inl ⟨rfl, Or.inl rfl⟩
  | some waiter =>
    simp only [hwaiter] at h
    by_cases hcancelled : (s.reconcile alive available).identityCancelled waiter.identity = true
    · rw [if_pos hcancelled] at h
      cases h
      exact .inl ⟨rfl, Or.inr rfl⟩
    · rw [if_neg hcancelled] at h
      split at h
      · cases h
        exact .inl ⟨rfl, Or.inl rfl⟩
      · cases hslot : available.find?
            (· ∉ (s.reconcile alive available).owners.map (·.slot)) with
        | none =>
          simp only [hslot] at h
          cases h
          exact .inl ⟨rfl, Or.inl rfl⟩
        | some slot =>
          simp only [hslot] at h
          cases h
          have hmem := List.mem_of_find?_eq_some hwaiter
          refine .inr ⟨waiter, slot, (List.mem_filter.mp hmem).left, ?_, ?_, ?_, rfl, rfl⟩
          · simpa using List.find?_some hwaiter
          · exact Bool.eq_false_iff.mpr hcancelled
          · exact List.mem_of_find?_eq_some hslot

theorem attachProcess_eq_some {child : Process} {deadlineAt : Int}
    (h : s.attachProcess token child deadlineAt = some s') :
    s' = { s with
      owners := updateWhere s.owners
        (fun row => row.token = token && !s.identityCancelled row.identity)
        fun row => { row with child := some child, deadlineAt := some deadlineAt } } ∧
      exists row, row ∈ s.owners ∧ row.token = token ∧
        s.identityCancelled row.identity = false := by
  unfold attachProcess at h
  simp only at h
  split at h
  · case isTrue hone =>
    refine ⟨(Option.some.inj h).symm, ?_⟩
    rcases exists_of_countWhere_ne_zero (by rw [hone]; exact Nat.one_ne_zero) with
      ⟨row, hrow, hattaches⟩
    simp only [Bool.and_eq_true, decide_eq_true_eq, Bool.not_eq_true'] at hattaches
    exact ⟨row, hrow, hattaches.left, hattaches.right⟩
  · cases h

theorem attachProcess_revises {child : Process} {deadlineAt : Int}
    (h : s.attachProcess token child deadlineAt = some s') :
    Revises s s' fun _ => False := by
  rcases attachProcess_eq_some h with ⟨rfl, _⟩
  have hplace : forall (condition : Prop) [Decidable condition] (row : OwnerRow), SamePlace row
      (if condition then
        { row with child := some child, deadlineAt := some deadlineAt } else row) := by
    intro condition _ row
    split <;> exact ⟨rfl, rfl, rfl⟩
  constructor
  · intro row' hrow'
    rcases mem_updateWhere.mp hrow' with ⟨row, hrow, rfl⟩
    exact ⟨row, hrow, hplace _ row⟩
  · intro row hrow _
    exact ⟨_, mem_updateWhere.mpr ⟨row, hrow, rfl⟩, hplace _ row⟩
  · exact fun _ hrow => hrow

theorem cancelOwner_revises (s : LeaseStore) (row : CancelledRow) :
    Revises s (s.cancelOwner row).1 fun _ => False :=
  revises_of_owners rfl fun _ hrow => (List.mem_filter.mp hrow).left

theorem cancelExactOwnerProcess_eq_some {row : CancelledRow} {requester child : Process}
    (h : s.cancelExactOwnerProcess row requester child = some s') :
    s' = (s.pruneCancelled row.cancelledAt).insertCancelled row := by
  unfold cancelExactOwnerProcess at h
  simp only at h
  split at h
  · split at h
    · exact (Option.some.inj h).symm
    · cases h
  · cases h

theorem cancelExactOwnerProcess_revises {row : CancelledRow} {requester child : Process}
    (h : s.cancelExactOwnerProcess row requester child = some s') :
    Revises s s' fun _ => False := by
  rw [cancelExactOwnerProcess_eq_some h]
  exact revises_of_owners rfl fun _ hrow => hrow

/-!
# Tombstones
-/

theorem identityCancelled_iff : s.identityCancelled identity = true ↔
      exists row, row ∈ s.cancelledOwners ∧ row.identity = identity := by
  unfold identityCancelled
  simp

theorem identityCancelled_congr (hrows : s'.cancelledOwners = s.cancelledOwners)
    (identity : Identity) : s'.identityCancelled identity = s.identityCancelled identity := by
  unfold identityCancelled
  rw [hrows]

/-- Neither bound on the tombstones takes one whose identity is in use. -/
theorem identityCancelled_prune (now : Int) (hcancelled : s.identityCancelled identity = true)
    (huse : s.inUse identity = true) :
    (s.pruneCancelled now).identityCancelled identity = true := by
  rcases identityCancelled_iff.mp hcancelled with ⟨row, hrow, rfl⟩
  refine identityCancelled_iff.mpr ⟨row, ?_, rfl⟩
  unfold pruneCancelled
  rw [List.mem_filter]
  constructor
  · rw [List.mem_filter]
    exact ⟨hrow, by simp [huse]⟩
  · have hkept : row ∉ ((s.cancelledOwners.filter fun row =>
        !(decide (row.cancelledAt < now - cancelledOwnerRetention) && !s.inUse row.identity)).filter
          fun row => !s.inUse row.identity).insertionSort
            fun a b => b.cancelledAt ≤ a.cancelledAt := by
      rw [List.mem_insertionSort, List.mem_filter]
      rintro ⟨_, hunused⟩
      rw [huse] at hunused
      cases hunused
    simpa using fun hsurplus => hkept (List.mem_of_mem_drop hsurplus)

theorem identityCancelled_insert (row : CancelledRow) :
    (s.insertCancelled row).identityCancelled row.identity = true := by
  rw [identityCancelled_iff]
  unfold insertCancelled
  by_cases hcancelled : s.identityCancelled row.identity = true
  · rcases identityCancelled_iff.mp hcancelled with ⟨old, hold, hsame⟩
    refine ⟨row, ?_, rfl⟩
    simp only [if_pos hcancelled]
    exact mem_updateWhere.mpr ⟨old, hold, by simp [hsame]⟩
  · refine ⟨row, ?_, rfl⟩
    simp only [if_neg hcancelled]
    exact List.mem_append_right _ (List.mem_singleton.mpr rfl)

theorem identityCancelled_insert_of (row : CancelledRow)
    (hcancelled : s.identityCancelled identity = true) :
    (s.insertCancelled row).identityCancelled identity = true := by
  by_cases hsame : identity = row.identity
  · rw [hsame]
    exact identityCancelled_insert row
  · rcases identityCancelled_iff.mp hcancelled with ⟨old, hold, rfl⟩
    refine identityCancelled_iff.mpr ⟨old, ?_, rfl⟩
    unfold insertCancelled
    split
    · exact mem_updateWhere.mpr ⟨old, hold, by simp [hsame]⟩
    · exact List.mem_append_left _ hold

theorem identityCancelled_cancel (row : CancelledRow)
    (hcancelled : s.identityCancelled identity = true) (huse : s.inUse identity = true) :
    ((s.pruneCancelled row.cancelledAt).insertCancelled row).identityCancelled identity = true :=
  identityCancelled_insert_of row (identityCancelled_prune row.cancelledAt hcancelled huse)

theorem inUse_of_owner {row : OwnerRow} (hrow : row ∈ s.owners) (hsame : row.identity = identity) :
    s.inUse identity = true := by
  unfold inUse
  rw [Bool.or_eq_true]
  exact .inl (List.any_eq_true.mpr ⟨row, hrow, by simpa using hsame⟩)

end LeaseStore
end ValidationLease
end Oompah
