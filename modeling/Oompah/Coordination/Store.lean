import Mathlib.Data.Prod.Lex
import Oompah.Foundation.Checked
import Oompah.Foundation.Keyset
import Oompah.Foundation.Table
import Oompah.Foundation.Value

/-!
# Coordination messages

The durable message store of concurrent task workers.  A message is appended in two
parts: its time and id are taken first, and its row is inserted under the store's
lock.  Times are the clock's microseconds, whose ISO text sorts like them, and ids
are the numbers of `uuid4().hex`.  Identifiers are given after `strip`.
-/

namespace Oompah
namespace Coordination

open Foundation

structure CoordinationMessage where
  id : Nat
  projectId : String
  senderTask : String
  recipientTask : String
  kind : String
  text : String
  changedPaths : List String
  commitSha : Option String
  createdAt : Nat
  deliveredAt : Option Nat := none
  readAt : Option Nat := none
  idempotencyKey : Option String := none
  senderRunId : Option String := none
  recipientRunId : Option String := none
  deriving DecidableEq

def maxMessageBytes : Nat := 16 * 1024
def maxChangedPaths : Nat := 256

inductive StoreError where
  | required (name : String)
  | textLimit
  | changedPathsLimit
  | integrity
  deriving DecidableEq

/-- The arguments of `append`. -/
structure AppendRequest where
  projectId : String
  senderTask : String
  recipientTask : String
  text : String
  kind : String := "message"
  changedPaths : List String := []
  commitSha : Option String := none
  idempotencyKey : Option String := none
  senderRunId : Option String := none
  recipientRunId : Option String := none
  deriving DecidableEq

/-- The order of the inbox: `ORDER BY created_at, id`. -/
def CoordinationMessage.position (m : CoordinationMessage) : Nat ×ₗ Nat :=
  toLex (m.createdAt, m.id)

def CoordinationMessage.inInbox (m : CoordinationMessage) (project recipient : String) : Bool :=
  m.projectId = project && m.recipientTask = recipient

abbrev CoordinationStore := List CoordinationMessage

def cleanPaths (paths : List String) : List String :=
  ((paths.filter fun path => path ≠ "").eraseDups).insertionSort fun a b => a ≤ b

/-- What `append` does before it takes the lock. -/
def prepareAppend (rt : Runtime) (request : AppendRequest) (now messageId : Nat) :
    Except StoreError CoordinationMessage := do
  require (request.projectId ≠ "") (.required "project_id")
  require (request.senderTask ≠ "") (.required "sender_task")
  require (request.recipientTask ≠ "") (.required "recipient_task")
  require (request.kind ≠ "") (.required "kind")
  require (request.text ≠ "") (.required "text")
  require (request.text.utf8ByteSize ≤ maxMessageBytes) .textLimit
  let paths := cleanPaths request.changedPaths
  require (paths.length ≤ maxChangedPaths) .changedPathsLimit
  return {
    id := messageId
    projectId := request.projectId
    senderTask := request.senderTask
    recipientTask := request.recipientTask
    kind := rt.lower request.kind
    text := request.text
    changedPaths := paths
    commitSha := request.commitSha
    createdAt := now
    idempotencyKey := request.idempotencyKey
    senderRunId := request.senderRunId
    recipientRunId := request.recipientRunId }

namespace CoordinationStore

def get (s : CoordinationStore) (messageId : Nat) : Option CoordinationMessage :=
  rowAt CoordinationMessage.id s messageId

def findIdempotent (s : CoordinationStore) (m : CoordinationMessage) :
    Option CoordinationMessage :=
  match m.idempotencyKey with
  | none => none
  | some key =>
    s.find? fun row =>
      row.projectId = m.projectId && row.senderTask = m.senderTask && row.idempotencyKey = some key

/-- What `append` does under the lock: the prior row of an idempotent retry, or an insert. -/
def commitAppend (s : CoordinationStore) (m : CoordinationMessage) :
    Except StoreError (CoordinationStore × CoordinationMessage) :=
  match s.findIdempotent m with
  | some existing => .ok (s, existing)
  | none => if (s.get m.id).isSome then .error .integrity else .ok (s ++ [m], m)

/-- `max(1, min(int(limit), 500))` -/
def inboxLimit (limit : Int) : Nat :=
  (max 1 (min limit 500)).toNat

def inboxRows (s : CoordinationStore) (project recipient : String) (unreadOnly : Bool) :
    List CoordinationMessage :=
  s.filter fun row => row.inInbox project recipient && (!unreadOnly || row.readAt.isNone)

/-- The query of `inbox`, after its cursor was looked up. -/
def inbox (s : CoordinationStore) (project recipient : String) (unreadOnly : Bool)
    (cursor : Option (Nat ×ₗ Nat)) (limit : Int) : List CoordinationMessage :=
  keysetPage CoordinationMessage.position cursor (inboxLimit limit)
    (s.inboxRows project recipient unreadOnly)

/-- The position of `after_id`; an unknown id is no cursor. -/
def inboxCursor (s : CoordinationStore) (afterId : Option Nat) : Option (Nat ×ₗ Nat) :=
  (afterId.bind s.get).map CoordinationMessage.position

def markDelivered (s : CoordinationStore) (messageId now : Nat) : CoordinationStore :=
  updateWhere s (fun row => row.id = messageId)
    fun row => { row with deliveredAt := row.deliveredAt.or (some now) }

def markRead (s : CoordinationStore) (messageId now : Nat) : CoordinationStore :=
  updateWhere s (fun row => row.id = messageId)
    fun row => { row with readAt := row.readAt.or (some now) }

/-- The rows that `prune_before` selects. -/
def prunable (s : CoordinationStore) (cutoff : Nat) (limit : Int) : List Nat :=
  ((sortedRows CoordinationMessage.position
    (s.filter fun row => row.readAt.isSome && row.createdAt < cutoff)).take
      (max 1 limit).toNat).map CoordinationMessage.id

def pruneBefore (s : CoordinationStore) (cutoff : Nat) (limit : Int) : CoordinationStore :=
  s.filter fun row => row.id ∉ s.prunable cutoff limit

end CoordinationStore
end Coordination
end Oompah
