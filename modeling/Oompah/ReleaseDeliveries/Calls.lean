import Oompah.ReleaseDeliveries.Store

/-!
# Runs of calls

The writer checks less than the reader.  A call keeps the ledger when it is refused
before it writes, or when everything it was given is in the reader's form.
-/

namespace Oompah
namespace ReleaseDeliveries

open Foundation
open ReleaseDeliveryLedger (dumpDeliveries fromRaw_readable rawDeliveries)

/-!
# Deliveries that have a dump
-/

def Dumpable (d : ReleaseDelivery) : Prop :=
  d.resultCommits.items ≠ none ∧ d.queuedAt.stored ≠ none ∧ forall f, (d.optional f).stored ≠ none

theorem stored_of_dumpFields {fields : List (String × Field)}
    {docs : List (String × Document)} (h : dumpFields fields = some docs) :
    forall entry, entry ∈ fields -> entry.2.stored ≠ none := by
  induction fields generalizing docs with
  | nil => exact fun _ hmem => nomatch hmem
  | cons field rest ih =>
    unfold dumpFields at h
    split at h
    · rename_i v others hstored hothers
      intro entry hmem
      rcases List.mem_cons.mp hmem with rfl | hrest
      · rw [hstored]
        exact Option.some_ne_none v
      · exact ih hothers entry hrest
    · cases h

theorem dumpable_of_dump {d : ReleaseDelivery} {fields : List (String × Field)}
    {docs : List (String × Document)} (hraw : d.toRaw = .ok fields)
    (hdump : dumpFields fields = some docs) : Dumpable d := by
  have hstored := stored_of_dumpFields hdump
  unfold ReleaseDelivery.toRaw at hraw
  split at hraw
  · cases hraw
  · rename_i commits hitems
    cases hraw
    refine ⟨?_, hstored ("queued_at", d.queuedAt) (by simp), ?_⟩
    · rw [hitems]
      exact Option.some_ne_none commits
    · intro f
      refine hstored (f.name, d.optional f) ?_
      cases f <;> simp [OptionalField.name]

theorem dumpable_of_deliveries {deliveries : List ReleaseDelivery}
    {raws : List (List (String × Field))} {docs : List Document}
    (hraws : rawDeliveries deliveries = .ok raws)
    (hdocs : dumpDeliveries raws = some docs) :
    forall d, d ∈ deliveries -> Dumpable d := by
  induction deliveries generalizing raws docs with
  | nil => exact fun _ hmem => nomatch hmem
  | cons d rest ih =>
    rcases bind_eq_ok.mp hraws with ⟨raw, hraw, hraws⟩
    rcases bind_eq_ok.mp hraws with ⟨others, hothers, hvalue⟩
    cases hvalue
    unfold dumpDeliveries at hdocs
    split at hdocs
    · rename_i fields dumped hfields hdumped
      intro found hmem
      rcases List.mem_cons.mp hmem with rfl | hrest
      · exact dumpable_of_dump hraw hfields
      · exact ih hothers hdumped found hrest
    · cases hdocs

theorem dump_error {ledger : ReleaseDeliveryLedger} {d : ReleaseDelivery}
    (hmem : d ∈ ledger.deliveries) (h : ¬ Dumpable d) :
    exists e, ledger.dump = .error e := by
  unfold ReleaseDeliveryLedger.dump
  cases hraws : rawDeliveries ledger.deliveries with
  | error e => exact ⟨_, rfl⟩
  | ok raws =>
    simp only
    cases hdocs : dumpDeliveries raws with
    | none => exact ⟨_, rfl⟩
    | some docs => exact absurd (dumpable_of_deliveries hraws hdocs d hmem) h

/-!
# What a call keeps
-/

section Calls

variable (rt : DocumentRuntime)

/-- A call that returns leaves the ledger `P` relates to the one before; a call that
raises leaves a ledger that reads as before. -/
def Kept {α : Type} (s : ReleaseDeliveryStore)
    (P : ReleaseDeliveryLedger -> α -> ReleaseDeliveryLedger -> Prop) :
    Except LedgerError α × ReleaseDeliveryStore -> Prop
  | (.ok returned, s') => exists before after, s.readLedger rt = .ok before ∧
      s'.readLedger rt = .ok after ∧ P before returned after
  | (.error _, s') => s'.readLedger rt = s.readLedger rt

def Appends (before : ReleaseDeliveryLedger) (returned : List ReleaseDelivery)
    (after : ReleaseDeliveryLedger) : Prop :=
  after = { before with deliveries := before.deliveries ++ returned }

/-- The first delivery of the id is replaced; its source fields stay, and its status
stays or takes a step of the lifecycle. -/
def Replaces (deliveryId : String) (before : ReleaseDeliveryLedger)
    (returned : ReleaseDelivery) (after : ReleaseDeliveryLedger) : Prop :=
  exists index current, before.deliveries.findIdx? (fun d => d.id = deliveryId) = some index ∧
      before.deliveries[index]? = some current ∧ current.id = deliveryId ∧
      after = { before with deliveries := before.deliveries.set index returned } ∧
      returned.source = current.source ∧
      (returned.status = current.status ∨ current.status.isValidTransition returned.status = true)

inductive Call where
  | append (d : ReleaseDelivery)
  | bulkAppend (deliveries : List ReleaseDelivery)
  | update (deliveryId : String) (arguments : ReleaseDeliveryStore.Arguments)

namespace Call

def next (s : ReleaseDeliveryStore) (w : Write) : Call -> ReleaseDeliveryStore
  | append d => (s.append rt d w).2
  | bulkAppend deliveries => (s.bulkAppend rt deliveries w).2
  | update deliveryId arguments => (s.update rt deliveryId arguments w).2

def Keeps (s : ReleaseDeliveryStore) (w : Write) : Call -> Prop
  | append d => Kept rt s (fun before returned => Appends before [returned]) (s.append rt d w)
  | bulkAppend deliveries => Kept rt s Appends (s.bulkAppend rt deliveries w)
  | update deliveryId arguments => Kept rt s (Replaces deliveryId)
      (s.update rt deliveryId arguments w)

end Call

/-!
# Calls that are refused before they write
-/

/-- The status is not one the current status may step to. -/
def RefusedStatus (current : ReleaseDelivery) (raw : Field) : Prop :=
  forall status, AddendumStatus.fromRaw rt raw = .ok status ->
    current.status.isValidTransition status = false

/-- The commits cannot be iterated, or one of them is not a hash. -/
def RefusedCommits (raw : Field) : Prop :=
  raw.items = none ∨ raw.truthy = true ∧ exists items item, raw.items = some items ∧
    item ∈ items ∧ forall sha, rt.str item = .ok sha -> matchesFullSha sha = false

def RefusedArguments (current : ReleaseDelivery)
    (arguments : ReleaseDeliveryStore.Arguments) : Prop :=
  (exists raw, arguments.lookup "status" = some raw ∧ RefusedStatus rt current raw) ∨
    (exists raw, arguments.lookup "result_commits" = some raw ∧ RefusedCommits rt raw) ∨
    (exists raw, arguments.lookup "queued_at" = some raw ∧ raw.stored = none) ∨
    exists (f : OptionalField) (raw : Field), arguments.lookup f.name = some raw ∧ raw.stored = none

def Call.Refused (s : ReleaseDeliveryStore) (ledger : ReleaseDeliveryLedger) : Call -> Prop
  | append d => d.projectId ≠ s.projectId ∨
      d.id ∈ ledger.deliveries.map ReleaseDelivery.id ∨ ¬ Dumpable d
  | bulkAppend deliveries => deliveries = [] ∨
      (exists d, d ∈ deliveries ∧ d.projectId ≠ s.projectId) ∨
      (exists d, d ∈ deliveries ∧ d.id ∈ ledger.deliveries.map ReleaseDelivery.id) ∨
      ¬ (deliveries.map ReleaseDelivery.id).Nodup ∨
      exists d, d ∈ deliveries ∧ ¬ Dumpable d
  | update deliveryId arguments =>
    (exists entry, entry ∈ arguments ∧ entry.1 ∉ ReleaseDeliveryStore.mutableFields) ∨
    forall index current, ledger.deliveries.findIdx? (fun d => d.id = deliveryId) = some index ->
        ledger.deliveries[index]? = some current -> RefusedArguments rt current arguments

/-!
# Calls in the reader's form
-/

/-- Each given field is in the form the reader gives it. -/
structure NormalArguments (arguments : ReleaseDeliveryStore.Arguments) : Prop where
  queuedAt : forall raw, arguments.lookup "queued_at" = some raw -> NormalRequired raw
  resultCommits : forall raw, arguments.lookup "result_commits" = some raw -> NormalCommits raw
  optional : forall (f : OptionalField) (raw : Field), arguments.lookup f.name = some raw ->
    NormalOptional raw

def Call.Normal : Call -> Prop
  | append d => ReleaseDeliveries.Normal d
  | bulkAppend deliveries => forall d, d ∈ deliveries -> ReleaseDeliveries.Normal d
  | update _ arguments => NormalArguments arguments

/-- The call is refused, or its write is, or it writes only what reads back. -/
def Call.Sound (s : ReleaseDeliveryStore) (w : Write) (call : Call) : Prop :=
  forall ledger, s.readLedger rt = .ok ledger ->
    call.Refused rt s ledger ∨ w = .refused ∨ (w = .stored ∧ call.Normal)

end Calls

/-!
# One call
-/

section Step

variable {rt : DocumentRuntime} {s : ReleaseDeliveryStore}
  {ledger : ReleaseDeliveryLedger} {w : Write} {α : Type}
  {body : ReleaseDeliveryLedger -> Except LedgerError (ReleaseDeliveryLedger × α)}
  {P : ReleaseDeliveryLedger -> α -> ReleaseDeliveryLedger -> Prop}

theorem readLedger_readable (h : s.readLedger rt = .ok ledger) : ledger.Readable := by
  unfold ReleaseDeliveryStore.readLedger at h
  split at h
  · cases h
    exact ⟨rfl, fun _ hmem => nomatch hmem⟩
  · cases h
  · exact fromRaw_readable h

theorem kept_error (e : LedgerError) : Kept rt s P (.error e, s) :=
  rfl

/-- The change under the lock, in its three ways to keep the ledger. -/
theorem change_kept (hread : s.readLedger rt = .ok ledger)
    (hbody : forall updated result, body ledger = .ok (updated, result) -> P ledger result updated)
    (h : (forall updated result, body ledger = .ok (updated, result) ->
        exists e, updated.dump = .error e) ∨
      w = .refused ∨
      (w = .stored ∧ forall updated result, body ledger = .ok (updated, result) ->
        updated.Readable)) :
    Kept rt s P (s.change rt w body) := by
  unfold ReleaseDeliveryStore.change
  simp only [hread]
  cases hresult : body ledger with
  | error e => exact kept_error e
  | ok pair =>
    rcases pair with ⟨updated, result⟩
    simp only [ReleaseDeliveryStore.writeLedger]
    cases hdump : updated.dump with
    | error e => exact kept_error e
    | ok raw =>
      rcases h with hdumps | rfl | ⟨rfl, hreadable⟩
      · rcases hdumps updated result hresult with ⟨e, he⟩
        rw [hdump] at he
        cases he
      · exact kept_error _
      · rcases (hreadable updated result hresult).reads_back with
          ⟨doc, hdoc, hback⟩
        rw [hdump] at hdoc
        cases hdoc
        exact ⟨ledger, updated, hread, hback, hbody updated result hresult⟩

end Step
end ReleaseDeliveries
end Oompah
