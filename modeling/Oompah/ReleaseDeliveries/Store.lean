import Oompah.ReleaseDeliveries.Reading

/-!
# The delivery ledger

The deliveries of a project are one file.  A call reads the whole file, checks what it
was given, and writes the whole file.
-/

namespace Oompah
namespace ReleaseDeliveries

open Foundation
open Document.Entries (get_ofFields ofFields)

inductive LedgerError where
  | unparsable
  | rootNotMapping
  | noVersion
  | versionNotInteger
  | versionOverflow
  | unsupportedVersion (version : Int)
  | deliveriesNotList
  | invalidEntry (index : Nat) (e : EntryError)
  | entry (e : EntryError)
  | projectMismatch (deliveryId projectId : String)
  | alreadyExists (deliveryId : String)
  | noDeliveries
  | immutableFields (names : List String)
  | unknownFields (names : List String)
  | notFound (deliveryId : String)
  | invalidTransition (deliveryId : String) (fromStatus toStatus : AddendumStatus)
  | unrepresentable
  | notWritten
  | notCommitted
  deriving DecidableEq

structure ReleaseDeliveryLedger where
  version : Int
  deliveries : List ReleaseDelivery

/-- `LEDGER_VERSION`. -/
def ledgerVersion : Int :=
  1

namespace ReleaseDeliveryLedger

def empty : ReleaseDeliveryLedger :=
  { version := ledgerVersion, deliveries := [] }

/-!
# Writing a ledger
-/

def rawDeliveries : List ReleaseDelivery -> Except EntryError (List (List (String × Field)))
  | [] => .ok []
  | d :: rest => do
      let raw <- d.toRaw
      let raws <- rawDeliveries rest
      return raw :: raws

def dumpDeliveries : List (List (String × Field)) -> Option (List Document)
  | [] => some []
  | raw :: rest =>
    match dumpFields raw, dumpDeliveries rest with
    | some fields, some others => some (.mapping (ofFields fields) :: others)
    | _, _ => none

/-- What the dump of `to_raw` loads as: the mapping is built before it is dumped. -/
def dump (ledger : ReleaseDeliveryLedger) : Except LedgerError Document :=
  match rawDeliveries ledger.deliveries with
  | .error e => .error (.entry e)
  | .ok raws =>
    match dumpDeliveries raws with
    | none => .error .unrepresentable
    | some docs => .ok (.mapping (ofFields
        [("version", .int ledger.version), ("deliveries", .list docs)]))

/-!
# Reading a ledger
-/

def readEntries (rt : DocumentRuntime) :
    Nat -> List Document -> Except LedgerError (List ReleaseDelivery)
  | _, [] => .ok []
  | index, entry :: rest =>
    match ReleaseDelivery.fromRaw rt entry with
    | .error e => .error (.invalidEntry index e)
    | .ok d => do
        let others <- readEntries rt (index + 1) rest
        return d :: others

def readVersion (rt : DocumentRuntime) (raw : Document) : Except LedgerError Int :=
  if raw.isNull then .error .noVersion
  else
    match rt.int raw with
    | .error .overflowError => .error .versionOverflow
    | .error _ => .error .versionNotInteger
    | .ok version =>
      if version = ledgerVersion then .ok version else .error (.unsupportedVersion version)

/-- `ReleaseDeliveryLedger.from_raw`. -/
def fromRaw (rt : DocumentRuntime) (raw : Document) :
    Except LedgerError ReleaseDeliveryLedger :=
  match raw.mapping? with
  | none => .error .rootNotMapping
  | some entries => do
      let version <- readVersion rt (entries.get "version")
      match entries.get "deliveries" with
      | .null => return { version, deliveries := [] }
      | .list items =>
        let deliveries <- readEntries rt 0 items
        return { version, deliveries }
      | _ => .error .deliveriesNotList

/-!
# Ledgers of normal deliveries
-/

section Normal

variable {rt : DocumentRuntime}

theorem readEntries_normal {index : Nat} {items : List Document}
    {deliveries : List ReleaseDelivery} (h : readEntries rt index items = .ok deliveries) :
    forall d, d ∈ deliveries -> Normal d := by
  induction items generalizing index deliveries with
  | nil =>
    cases h
    exact fun _ hmem => nomatch hmem
  | cons entry rest ih =>
    unfold readEntries at h
    split at h
    · cases h
    · rename_i d hentry
      rcases bind_eq_ok.mp h with ⟨others, hothers, hvalue⟩
      cases hvalue
      intro found hfound
      rcases List.mem_cons.mp hfound with rfl | hrest
      · exact fromRaw_normal hentry
      · exact ih hothers found hrest

theorem readVersion_eq {raw : Document} {version : Int}
    (h : readVersion rt raw = .ok version) : version = ledgerVersion := by
  unfold readVersion at h
  split at h
  · cases h
  · split at h
    · cases h
    · cases h
    · split at h
      · cases h
        assumption
      · cases h

theorem readVersion_int {version : Int} (h : version = ledgerVersion) :
    readVersion rt (.int version) = .ok version := by
  subst h
  rfl

/-- A ledger as the reader returns it. -/
structure Readable (ledger : ReleaseDeliveryLedger) : Prop where
  version : ledger.version = ledgerVersion
  normal : forall d, d ∈ ledger.deliveries -> Normal d

theorem fromRaw_readable {raw : Document} {ledger : ReleaseDeliveryLedger}
    (h : fromRaw rt raw = .ok ledger) : ledger.Readable := by
  unfold fromRaw at h
  split at h
  · cases h
  · rcases bind_eq_ok.mp h with ⟨version, hversion, h⟩
    split at h
    · cases h
      exact ⟨readVersion_eq hversion, fun _ hmem => nomatch hmem⟩
    · rcases bind_eq_ok.mp h with ⟨deliveries, hread, hvalue⟩
      cases hvalue
      exact ⟨readVersion_eq hversion, readEntries_normal hread⟩
    · cases h

theorem normal_deliveries_read_back {deliveries : List ReleaseDelivery}
    (h : forall d, d ∈ deliveries -> Normal d) :
    exists raws docs, rawDeliveries deliveries = .ok raws ∧ dumpDeliveries raws = some docs ∧
      forall index, readEntries rt index docs = .ok deliveries := by
  induction deliveries with
  | nil => exact ⟨[], [], rfl, rfl, fun _ => rfl⟩
  | cons d rest ih =>
    have hd := h d List.mem_cons_self
    rcases hd.reads_back with ⟨raw, stored, hraw, hdump, hread⟩
    rcases ih fun x hx => h x (List.mem_cons_of_mem _ hx) with
      ⟨raws, docs, hraws, hdocs, hreads⟩
    refine ⟨raw :: raws, .mapping (ofFields stored) :: docs, ?_, ?_, ?_⟩
    · unfold rawDeliveries
      rw [hraw, hraws]
      rfl
    · unfold dumpDeliveries
      rw [hdump, hdocs]
    · intro index
      unfold readEntries
      rw [hread, hreads (index + 1)]
      rfl

theorem Readable.reads_back {ledger : ReleaseDeliveryLedger} (h : ledger.Readable) :
    exists doc, ledger.dump = .ok doc ∧ fromRaw rt doc = .ok ledger := by
  rcases normal_deliveries_read_back h.normal with
    ⟨raws, docs, hraws, hdocs, hread⟩
  have hkeys : ([("version", Document.int ledger.version), ("deliveries", .list docs)].map
      Prod.fst).Nodup := by
    show (["version", "deliveries"] : List String).Nodup
    decide
  have hversion := get_ofFields hkeys List.mem_cons_self
  have hdeliveries :=
    get_ofFields hkeys (List.mem_cons_of_mem _ List.mem_cons_self)
  have hdump : ledger.dump = .ok (.mapping (ofFields
      [("version", .int ledger.version), ("deliveries", .list docs)])) := by
    unfold dump
    rw [hraws]
    simp only [hdocs]
  refine ⟨_, hdump, ?_⟩
  show (readVersion rt (Document.Entries.get _ "version") >>= _) = Except.ok ledger
  refine bind_eq_ok.mpr ⟨_, readVersion_int h.version, ?_⟩
  refine bind_eq_ok.mpr ⟨_, hread 0, rfl⟩

end Normal
end ReleaseDeliveryLedger

/-!
# The store
-/

/-- The ledger file: none, a text that is no document, or a document. -/
inductive LedgerFile where
  | missing
  | malformed
  | document (raw : Document)

structure ReleaseDeliveryStore where
  projectId : String
  file : LedgerFile

/-- What the writer of a file does: it replaces the file, it leaves the file as it was
and fails, or it replaces the file and then fails to commit it. -/
inductive Write where
  | stored
  | refused
  | uncommitted
  deriving DecidableEq

namespace ReleaseDeliveryStore

variable (rt : DocumentRuntime)

def readLedger (s : ReleaseDeliveryStore) : Except LedgerError ReleaseDeliveryLedger :=
  match s.file with
  | .missing => .ok .empty
  | .malformed => .error .unparsable
  | .document raw => ReleaseDeliveryLedger.fromRaw rt raw

/-- `_write_ledger`. -/
def writeLedger (s : ReleaseDeliveryStore) (ledger : ReleaseDeliveryLedger) (w : Write) :
    Except LedgerError Unit × ReleaseDeliveryStore :=
  match ledger.dump with
  | .error e => (.error e, s)
  | .ok raw =>
    match w with
    | .stored => (.ok (), { s with file := .document raw })
    | .refused => (.error .notWritten, s)
    | .uncommitted => (.error .notCommitted, { s with file := .document raw })

/-- A call under the lock: the ledger is read, changed and written. -/
def change {α : Type} (s : ReleaseDeliveryStore) (w : Write)
    (body : ReleaseDeliveryLedger -> Except LedgerError (ReleaseDeliveryLedger × α)) :
    Except LedgerError α × ReleaseDeliveryStore :=
  match s.readLedger rt with
  | .error e => (.error e, s)
  | .ok ledger =>
    match body ledger with
    | .error e => (.error e, s)
    | .ok (updated, result) =>
      match s.writeLedger updated w with
      | (.error e, s') => (.error e, s')
      | (.ok _, s') => (.ok result, s')

def appended (d : ReleaseDelivery) (ledger : ReleaseDeliveryLedger) :
    Except LedgerError (ReleaseDeliveryLedger × ReleaseDelivery) :=
  if d.id ∈ ledger.deliveries.map ReleaseDelivery.id then .error (.alreadyExists d.id)
  else .ok ({ ledger with deliveries := ledger.deliveries ++ [d] }, d)

def append (s : ReleaseDeliveryStore) (d : ReleaseDelivery) (w : Write) :
    Except LedgerError ReleaseDelivery × ReleaseDeliveryStore :=
  if d.projectId ≠ s.projectId then (.error (.projectMismatch d.id d.projectId), s)
  else s.change rt w (appended d)

/-- The first id that is taken, by the ledger or by an earlier delivery of the batch. -/
def firstTaken (existing : List String) : List ReleaseDelivery -> Option String
  | [] => none
  | d :: rest => if d.id ∈ existing then some d.id else firstTaken (d.id :: existing) rest

def bulkAppended (deliveries : List ReleaseDelivery) (ledger : ReleaseDeliveryLedger) :
    Except LedgerError (ReleaseDeliveryLedger × List ReleaseDelivery) :=
  match firstTaken (ledger.deliveries.map ReleaseDelivery.id) deliveries with
  | some deliveryId => .error (.alreadyExists deliveryId)
  | none => .ok ({ ledger with deliveries := ledger.deliveries ++ deliveries }, deliveries)

def bulkAppend (s : ReleaseDeliveryStore) (deliveries : List ReleaseDelivery) (w : Write) :
    Except LedgerError (List ReleaseDelivery) × ReleaseDeliveryStore :=
  if deliveries = [] then (.error .noDeliveries, s)
  else
    match deliveries.find? fun d => d.projectId ≠ s.projectId with
    | some d => (.error (.projectMismatch d.id d.projectId), s)
    | none => s.change rt w (bulkAppended deliveries)

/-- `_IMMUTABLE_FIELDS`. -/
def immutableFields : List String :=
  ["id", "project_id", "source_branch", "source_kind", "source_identifier",
    "source_commits", "target_branch"]

/-- `_MUTABLE_FIELDS`. -/
def mutableFields : List String :=
  ["status", "queued_at", "claimed_by", "lease_expires_at", "started_at", "completed_at",
    "work_branch", "pr_url", "pr_number", "result_commits", "error", "migrated_from",
    "conflict_agent_task_id", "ci_remediation_task_id"]

/-- The named fields of an update. -/
abbrev Arguments := List (String × Field)

/-- The status an update asks for, if the lifecycle permits the step. -/
def updatedStatus (current : ReleaseDelivery) (arguments : Arguments) :
    Except LedgerError AddendumStatus :=
  match arguments.lookup "status" with
  | none => .ok current.status
  | some raw =>
    match AddendumStatus.fromRaw rt raw with
    | .error e => .error (.entry e)
    | .ok status =>
      if current.status.isValidTransition status then .ok status
      else .error (.invalidTransition current.id current.status status)

def validateItems (deliveryId : String) : List Document -> Except EntryError Unit
  | [] => .ok ()
  | item :: rest => do
      let sha <- ofText (rt.str item)
      validateFullSha deliveryId "result_commits" sha
      validateItems deliveryId rest

/-- The check of given result commits: an empty value is not iterated here. -/
def checkCommits (deliveryId : String) (arguments : Arguments) : Except EntryError Unit :=
  match arguments.lookup "result_commits" with
  | none => .ok ()
  | some raw =>
    if raw.truthy = false then .ok ()
    else
      match raw.items with
      | none => .error .notIterable
      | some items => validateItems rt deliveryId items

/-- The delivery with the named fields replaced. -/
def replaced (current : ReleaseDelivery) (arguments : Arguments) (status : AddendumStatus) :
    ReleaseDelivery :=
  { current with
    status
    queuedAt := (arguments.lookup "queued_at").getD current.queuedAt
    resultCommits := (arguments.lookup "result_commits").getD current.resultCommits
    optional := fun f => (arguments.lookup f.name).getD (current.optional f) }

def updatedDelivery (current : ReleaseDelivery) (arguments : Arguments) :
    Except LedgerError ReleaseDelivery :=
  match updatedStatus rt current arguments with
  | .error e => .error e
  | .ok status =>
    match checkCommits rt current.id arguments with
    | .error e => .error (.entry e)
    | .ok _ => .ok (replaced current arguments status)

def updatedLedger (deliveryId : String) (arguments : Arguments) (ledger : ReleaseDeliveryLedger) :
    Except LedgerError (ReleaseDeliveryLedger × ReleaseDelivery) :=
  match ledger.deliveries.findIdx? fun d => d.id = deliveryId with
  | none => .error (.notFound deliveryId)
  | some index =>
    match ledger.deliveries[index]? with
    | none => .error (.notFound deliveryId)
    | some current =>
      match updatedDelivery rt current arguments with
      | .error e => .error e
      | .ok d => .ok ({ ledger with deliveries := ledger.deliveries.set index d }, d)

def update (s : ReleaseDeliveryStore) (deliveryId : String) (arguments : Arguments)
    (w : Write) : Except LedgerError ReleaseDelivery × ReleaseDeliveryStore :=
  let names := arguments.map Prod.fst
  let immutable := names.filter fun name => name ∈ immutableFields
  let unknown := names.filter fun name => name ∉ mutableFields
  if immutable ≠ [] then (.error (.immutableFields immutable), s)
  else if unknown ≠ [] then (.error (.unknownFields unknown), s)
  else s.change rt w (updatedLedger rt deliveryId arguments)

end ReleaseDeliveryStore
end ReleaseDeliveries
end Oompah
