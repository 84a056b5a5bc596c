import Oompah.Foundation.Table
import Oompah.Foundation.TransitionSystem

/-!
# Review capacity

Durable reservations of review slots.  Every operation is one transaction at a
time `now`; identifiers are given after `strip`.
-/

namespace Oompah
namespace ReviewCapacity

open Foundation

structure Reservation where
  reservationId : String
  projectId : String
  taskId : String
  sourceBranch : String
  targetBranch : String
  reviewId : Option String
  acquiredAt : Int
  leaseExpiresAt : Option Int
  authorityGeneration : Option String := none
  headSha : Option String := none
  releasedAt : Option Int := none
  deriving DecidableEq

/-- The names a reservation is requested under. -/
structure ReviewTarget where
  projectId : String
  taskId : String
  sourceBranch : String
  targetBranch : String
  deriving DecidableEq

namespace Reservation

def active (row : Reservation) : Bool :=
  row.releasedAt.isNone

def named (row : Reservation) : Bool :=
  row.reviewId.isSome

def ofTask (row : Reservation) (x : ReviewTarget) : Bool :=
  row.taskId = x.taskId || row.sourceBranch = x.sourceBranch && row.targetBranch = x.targetBranch

def release (now : Int) (row : Reservation) : Reservation :=
  { row with releasedAt := some now }

/-- The time the row was acquired stays as it was. -/
def commit (reviewId : String) (row : Reservation) : Reservation :=
  { row with reviewId := some reviewId, leaseExpiresAt := none }

end Reservation

inductive StoreError where
  | integrity
  deriving DecidableEq

structure ReviewCapacityStore where
  rows : List Reservation := []
  deriving DecidableEq

namespace ReviewCapacityStore

def get (s : ReviewCapacityStore) (reservationId : String) : Option Reservation :=
  rowAt Reservation.reservationId s.rows reservationId

def update (s : ReviewCapacityStore) (condition : Reservation -> Bool)
    (set : Reservation -> Reservation) : ReviewCapacityStore :=
  { rows := updateWhere s.rows condition set }

/-- The primary key and the two unique indexes over the active rows. -/
def conflicts (row old : Reservation) : Bool :=
  old.reservationId = row.reservationId || old.active && old.projectId = row.projectId &&
      (old.taskId = row.taskId ||
        old.sourceBranch = row.sourceBranch && old.targetBranch = row.targetBranch)

def insert (s : ReviewCapacityStore) (row : Reservation) :
    Except StoreError ReviewCapacityStore :=
  if s.rows.any (conflicts row) then .error .integrity
  else .ok { rows := s.rows ++ [row] }

def expiredUncommitted (now : Int) (row : Reservation) : Bool :=
  row.active && !row.named && row.leaseExpiresAt.any (· ≤ now)

def dropExpiredUncommitted (s : ReviewCapacityStore) (now : Int) :
    ReviewCapacityStore :=
  s.update (expiredUncommitted now) (Reservation.release now)

def live (projectId : String) (now : Int) (row : Reservation) : Bool :=
  row.projectId = projectId && row.active && (row.named || row.leaseExpiresAt.any (now < ·))

def activeRows (s : ReviewCapacityStore) (projectId : String) (now : Int) :
    List Reservation :=
  s.rows.filter (live projectId now)

/-- Forge reviews and reservations, each review counted once. -/
def occupiedCount (rows : List Reservation) (openReviewIds : List String) : Nat :=
  (rows.foldl
    (fun (counted : List String × Nat) row =>
      match row.reviewId.filter (· ≠ "") with
      | some reviewId =>
        if reviewId ∈ counted.1 then counted
        else (reviewId :: counted.1, counted.2 + 1)
      | none => (counted.1, counted.2 + 1))
    (openReviewIds.dedup, openReviewIds.dedup.length)).2

def count (s : ReviewCapacityStore) (projectId : String) (openReviewIds : List String)
    (now : Int) : ReviewCapacityStore × Nat :=
  let dropped := s.dropExpiredUncommitted now
  (dropped, occupiedCount (dropped.activeRows projectId now) openReviewIds)

/-- `ORDER BY acquired_at LIMIT 1`: any row that shares the least time may come first. -/
def firstAcquired (rows : List Reservation) (choice : Nat) : Option Reservation :=
  let first := rows.filter (fun row => rows.all (row.acquiredAt ≤ ·.acquiredAt))
  first[choice % first.length]?

structure AcquireRequest where
  target : ReviewTarget
  limit : Int
  openReviewIds : List String := []
  reservationId : String
  leaseTtlSeconds : Int := 15 * 60
  authorityGeneration : Option String := none
  headSha : Option String := none
  choice : Nat := 0
  deriving DecidableEq

def AcquireRequest.row (x : AcquireRequest) (now : Int) : Reservation :=
  { reservationId := x.reservationId
    projectId := x.target.projectId
    taskId := x.target.taskId
    sourceBranch := x.target.sourceBranch
    targetBranch := x.target.targetBranch
    reviewId := none
    acquiredAt := now
    leaseExpiresAt := some (now + max 1 x.leaseTtlSeconds)
    authorityGeneration := x.authorityGeneration
    headSha := x.headSha }

/-- The flag returned with a row is `acquired_new`. -/
def acquire (s : ReviewCapacityStore) (x : AcquireRequest) (now : Int) :
    ReviewCapacityStore × Except StoreError (Option (Reservation × Bool)) :=
  let dropped := s.dropExpiredUncommitted now
  let matching := dropped.rows.filter
    (fun row => live x.target.projectId now row && row.ofTask x.target)
  match firstAcquired matching x.choice with
  | some existing => (dropped, .ok (some (existing, false)))
  | none =>
    if occupiedCount (dropped.activeRows x.target.projectId now) x.openReviewIds ≥
        (max 1 x.limit).toNat then (s, .ok none)
    else
      match dropped.insert (x.row now) with
      | .error error => (s, .error error)
      | .ok acquired => (acquired, .ok (some (x.row now, true)))

def committing (reservationId : String) (row : Reservation) : Bool :=
  row.reservationId = reservationId && row.active

def commit (s : ReviewCapacityStore) (reservationId reviewId : String) :
    ReviewCapacityStore × Bool :=
  if reviewId = "" then (s, false)
  else
    (s.update (committing reservationId) (Reservation.commit reviewId),
      0 < countWhere s.rows (committing reservationId))

structure AdoptRequest where
  target : ReviewTarget
  reviewId : String
  reservationId : String
  authorityGeneration : Option String := none
  headSha : Option String := none
  choice : Nat := 0
  deriving DecidableEq

namespace AdoptRequest

def row (x : AdoptRequest) (now : Int) : Reservation :=
  { reservationId := x.reservationId
    projectId := x.target.projectId
    taskId := x.target.taskId
    sourceBranch := x.target.sourceBranch
    targetBranch := x.target.targetBranch
    reviewId := some x.reviewId
    acquiredAt := now
    leaseExpiresAt := none
    authorityGeneration := x.authorityGeneration
    headSha := x.headSha }

def finds (x : AdoptRequest) (row : Reservation) : Bool :=
  row.projectId = x.target.projectId && row.active &&
    (row.reviewId = some x.reviewId || row.ofTask x.target)

def existing (x : AdoptRequest) (s : ReviewCapacityStore) : Option Reservation :=
  firstAcquired (s.rows.filter x.finds) x.choice

/-- The adopted row keeps a review it already names. -/
def merge (x : AdoptRequest) (row : Reservation) : Reservation :=
  { row with
    reviewId := row.reviewId.or (some x.reviewId)
    authorityGeneration := x.authorityGeneration.or row.authorityGeneration
    headSha := x.headSha.or row.headSha
    leaseExpiresAt := none }

end AdoptRequest

def adopt (s : ReviewCapacityStore) (x : AdoptRequest) (now : Int) :
    ReviewCapacityStore × Except StoreError Reservation :=
  match x.existing s with
  | some existing =>
    if existing.reviewId.all (· = "") || x.authorityGeneration.isSome || x.headSha.isSome then
      let adopted :=
        s.update (fun row => row.reservationId = existing.reservationId) x.merge
      (adopted, .ok ((adopted.get existing.reservationId).getD existing))
    else (s, .ok existing)
  | none =>
    match s.insert (x.row now) with
    | .error error => (s, .error error)
    | .ok adopted => (adopted, .ok (x.row now))

structure ReleaseRequest where
  projectId : String
  reservationId : Option String := none
  reviewId : Option String := none
  taskId : Option String := none
  sourceBranch : Option String := none
  deriving DecidableEq

/-- A filter that is absent or blank matches nothing; one that is given is one match. -/
def ReleaseRequest.selects (x : ReleaseRequest) (row : Reservation) : Bool :=
  row.projectId = x.projectId && row.active &&
    (x.reservationId.any (fun given => given ≠ "" && row.reservationId = given) ||
      x.reviewId.any (fun given => given ≠ "" && row.reviewId = some given) ||
      x.taskId.any (fun given => given ≠ "" && row.taskId = given) ||
      x.sourceBranch.any (fun given => given ≠ "" && row.sourceBranch = given))

def release (s : ReviewCapacityStore) (x : ReleaseRequest) (now : Int) :
    ReviewCapacityStore × Nat :=
  (s.update x.selects (Reservation.release now), countWhere s.rows x.selects)

structure ReconcileRequest where
  projectId : String
  openReviewIds : List String
  minimumCommittedAgeSeconds : Int := 0
  deriving DecidableEq

/-- The age compared is the time since the row was acquired. -/
def ReconcileRequest.selects (x : ReconcileRequest) (now : Int) (row : Reservation) :
    Bool :=
  row.projectId = x.projectId && row.active && row.reviewId.any (· ∉ x.openReviewIds) &&
    max 0 x.minimumCommittedAgeSeconds ≤ now - row.acquiredAt

def reconcileOpenReviews (s : ReviewCapacityStore) (x : ReconcileRequest) (now : Int) :
    ReviewCapacityStore × Nat :=
  let dropped := s.dropExpiredUncommitted now
  (dropped.update (x.selects now) (Reservation.release now),
    countWhere dropped.rows (x.selects now))

end ReviewCapacityStore
end ReviewCapacity
end Oompah
