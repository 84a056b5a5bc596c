import Oompah.Foundation.Outcomes
import Oompah.ReleaseDeliveries.Calls

/-!
# Accepted writes

Sound calls keep the ledger readable, one after the other.  A delivery with a blank
target branch is accepted, and then nothing reads the ledger.
-/

namespace Oompah
namespace ReleaseDeliveries

open Foundation
open ReleaseDeliveryStore (appended bulkAppended checkCommits firstTaken replaced updatedDelivery
  updatedLedger updatedStatus validateItems)
open DocumentRuntime (ascii)

section Steps

variable {rt : DocumentRuntime} {s : ReleaseDeliveryStore}
  {ledger : ReleaseDeliveryLedger} {w : Write}

/-!
# Appending
-/

variable {deliveries : List ReleaseDelivery}

theorem ReleaseDeliveryLedger.Readable.append
    (h : ledger.Readable) (hnormal : forall d, d ∈ deliveries -> Normal d) :
    ReleaseDeliveryLedger.Readable
      { ledger with deliveries := ledger.deliveries ++ deliveries } := by
  constructor
  · exact h.version
  · intro d hmem
    rcases List.mem_append.mp hmem with hold | hnew
    · exact h.normal d hold
    · exact hnormal d hnew

variable {updated : ReleaseDeliveryLedger}

theorem appended_eq_ok {d result : ReleaseDelivery}
    (h : appended d ledger = .ok (updated, result)) :
    d.id ∉ ledger.deliveries.map ReleaseDelivery.id ∧ result = d ∧
      updated = { ledger with deliveries := ledger.deliveries ++ [d] } := by
  unfold appended at h
  split at h
  · cases h
  · rename_i hnew
    cases h
    exact ⟨hnew, rfl, rfl⟩

theorem append_kept (hread : s.readLedger rt = .ok ledger) (d : ReleaseDelivery)
    (h : (Call.append d).Refused rt s ledger ∨ w = .refused ∨
      (w = .stored ∧ (Call.append d).Normal)) :
    (Call.append d).Keeps rt s w := by
  show Kept rt s _ (s.append rt d w)
  unfold ReleaseDeliveryStore.append
  by_cases hproject : d.projectId ≠ s.projectId
  · rw [if_pos hproject]
    exact kept_error _
  · rw [if_neg hproject]
    apply change_kept hread
    · intro updated result hbody
      rcases appended_eq_ok hbody with ⟨-, rfl, rfl⟩
      rfl
    · rcases h with hrefused | rfl | ⟨rfl, hnormal⟩
      · left
        intro updated result hbody
        rcases appended_eq_ok hbody with ⟨hnew, rfl, rfl⟩
        rcases hrefused with hother | htaken | hdump
        · exact absurd hother hproject
        · exact absurd htaken hnew
        · exact dump_error (List.mem_append_right _ List.mem_cons_self) hdump
      · exact .inr (.inl rfl)
      · refine .inr (.inr ⟨rfl, ?_⟩)
        intro updated result hbody
        rcases appended_eq_ok hbody with ⟨-, rfl, rfl⟩
        apply (readLedger_readable hread).append
        intro x hx
        rw [List.mem_singleton.mp hx]
        exact hnormal

theorem firstTaken_eq_none {existing : List String} (h : firstTaken existing deliveries = none) :
    (forall d, d ∈ deliveries -> d.id ∉ existing) ∧ (deliveries.map ReleaseDelivery.id).Nodup := by
  induction deliveries generalizing existing with
  | nil => exact ⟨fun _ hmem => (nomatch hmem), List.nodup_nil⟩
  | cons d rest ih =>
    unfold firstTaken at h
    split at h
    · cases h
    · rename_i hnew
      rcases ih h with ⟨hrest, hnodup⟩
      constructor
      · intro x hx
        rcases List.mem_cons.mp hx with rfl | hx
        · exact hnew
        · exact fun hold => hrest x hx (List.mem_cons_of_mem _ hold)
      · rw [List.map_cons, List.nodup_cons]
        refine ⟨?_, hnodup⟩
        intro hmem
        rcases List.mem_map.mp hmem with ⟨x, hx, hsame⟩
        exact hrest x hx (hsame ▸ List.mem_cons_self)

theorem bulkAppended_eq_ok {deliveries result : List ReleaseDelivery}
    (h : bulkAppended deliveries ledger = .ok (updated, result)) :
    firstTaken (ledger.deliveries.map ReleaseDelivery.id) deliveries = none ∧ result = deliveries ∧
      updated = { ledger with deliveries := ledger.deliveries ++ deliveries } := by
  unfold bulkAppended at h
  split at h
  · cases h
  · rename_i hnew
    cases h
    exact ⟨hnew, rfl, rfl⟩

theorem bulkAppend_kept (hread : s.readLedger rt = .ok ledger) (deliveries : List ReleaseDelivery)
    (h : (Call.bulkAppend deliveries).Refused rt s ledger ∨ w = .refused ∨
      (w = .stored ∧ (Call.bulkAppend deliveries).Normal)) :
    (Call.bulkAppend deliveries).Keeps rt s w := by
  show Kept rt s _ (s.bulkAppend rt deliveries w)
  unfold ReleaseDeliveryStore.bulkAppend
  by_cases hnil : deliveries = []
  · rw [if_pos hnil]
    exact kept_error _
  rw [if_neg hnil]
  split
  · exact kept_error _
  rename_i hproject
  apply change_kept hread
  · intro updated result hbody
    rcases bulkAppended_eq_ok hbody with ⟨-, rfl, rfl⟩
    rfl
  · rcases h with hrefused | rfl | ⟨rfl, hnormal⟩
    · left
      intro updated result hbody
      rcases bulkAppended_eq_ok hbody with ⟨hnew, rfl, rfl⟩
      rcases firstTaken_eq_none hnew with ⟨hfresh, hnodup⟩
      rcases hrefused with hempty | ⟨d, hd, hother⟩ | ⟨d, hd, htaken⟩ | htwice | ⟨d, hd, hdump⟩
      · exact absurd hempty hnil
      · have hsame := List.find?_eq_none.mp hproject d hd
        exact absurd (decide_eq_true hother) hsame
      · exact absurd htaken (hfresh d hd)
      · exact absurd hnodup htwice
      · exact dump_error (List.mem_append_right _ hd) hdump
    · exact .inr (.inl rfl)
    · refine .inr (.inr ⟨rfl, ?_⟩)
      intro updated result hbody
      rcases bulkAppended_eq_ok hbody with ⟨-, rfl, rfl⟩
      exact (readLedger_readable hread).append hnormal

/-!
# Updating
-/

variable {current : ReleaseDelivery} {arguments : ReleaseDeliveryStore.Arguments}
  {status : AddendumStatus}

theorem updatedStatus_step (h : updatedStatus rt current arguments = .ok status) :
    status = current.status ∨ current.status.isValidTransition status = true := by
  unfold updatedStatus at h
  split at h
  · cases h
    exact .inl rfl
  · split at h
    · cases h
    · split at h
      · cases h
        exact .inr ‹_›
      · cases h

theorem updatedStatus_refused {raw : Field}
    (hraw : arguments.lookup "status" = some raw) (h : RefusedStatus rt current raw) :
    updatedStatus rt current arguments ≠ .ok status := by
  unfold updatedStatus
  simp only [hraw]
  intro hok
  split at hok
  · cases hok
  · rename_i found hfound
    rw [h found hfound, if_neg (by decide)] at hok
    cases hok

variable {deliveryId : String}

theorem validateItems_matches {items : List Document}
    (h : validateItems rt deliveryId items = .ok ()) :
    forall item, item ∈ items -> exists sha, rt.str item = .ok sha ∧ matchesFullSha sha = true := by
  induction items with
  | nil => exact fun _ hmem => nomatch hmem
  | cons item rest ih =>
    rcases bind_eq_ok.mp h with ⟨sha, hsha, h⟩
    rcases require_bind_eq_ok.mp h with ⟨hmatch, hrest⟩
    intro found hfound
    rcases List.mem_cons.mp hfound with rfl | hmem
    · exact ⟨sha, ofText_eq_ok.mp hsha, hmatch⟩
    · exact ih hrest found hmem

theorem refusedCommits_cases {raw : Field}
    (hraw : arguments.lookup "result_commits" = some raw) (h : RefusedCommits rt raw) :
    raw.items = none ∨ checkCommits rt deliveryId arguments ≠ .ok () := by
  rcases h with hnone | ⟨htruthy, items, item, hitems, hmem, hbad⟩
  · exact .inl hnone
  · right
    unfold checkCommits
    simp only [hraw, hitems, htruthy, Bool.true_eq_false, if_false]
    intro hok
    rcases validateItems_matches hok item hmem with ⟨sha, hsha, hmatch⟩
    rw [hbad sha hsha] at hmatch
    cases hmatch

theorem updatedDelivery_eq_ok {current d : ReleaseDelivery}
    (h : updatedDelivery rt current arguments = .ok d) :
    exists status, updatedStatus rt current arguments = .ok status ∧
      checkCommits rt current.id arguments = .ok () ∧
      d = replaced current arguments status := by
  unfold updatedDelivery at h
  split at h
  · cases h
  · rename_i status hstatus
    split at h
    · cases h
    · rename_i hcommits
      cases h
      exact ⟨status, hstatus, hcommits, rfl⟩

theorem not_dumpable_of_refused {current d : ReleaseDelivery}
    (h : updatedDelivery rt current arguments = .ok d)
    (hrefused : RefusedArguments rt current arguments) : ¬ Dumpable d := by
  rcases updatedDelivery_eq_ok h with ⟨status, hstatus, hcommits, rfl⟩
  rintro ⟨hitems, hqueued, hoptional⟩
  rcases hrefused with ⟨raw, hraw, hbad⟩ | ⟨raw, hraw, hbad⟩ | ⟨raw, hraw, hnone⟩ |
    ⟨f, raw, hraw, hnone⟩
  · exact updatedStatus_refused hraw hbad hstatus
  · rcases refusedCommits_cases hraw hbad with hnone | hcheck
    · apply hitems
      show ((arguments.lookup "result_commits").getD _).items = none
      rw [hraw]
      exact hnone
    · exact hcheck hcommits
  · apply hqueued
    show ((arguments.lookup "queued_at").getD _).stored = none
    rw [hraw]
    exact hnone
  · apply hoptional f
    show ((arguments.lookup f.name).getD _).stored = none
    rw [hraw]
    exact hnone

theorem Normal.replaced (h : Normal current)
    (harguments : NormalArguments arguments) (status : AddendumStatus) :
    Normal (replaced current arguments status) := by
  refine { h with queuedAt := ?_, resultCommits := ?_, optional := ?_ }
  · show NormalRequired ((arguments.lookup "queued_at").getD _)
    cases hraw : arguments.lookup "queued_at" with
    | none => exact h.queuedAt
    | some raw => exact harguments.queuedAt raw hraw
  · show NormalCommits ((arguments.lookup "result_commits").getD _)
    cases hraw : arguments.lookup "result_commits" with
    | none => exact h.resultCommits
    | some raw => exact harguments.resultCommits raw hraw
  · intro f
    show NormalOptional ((arguments.lookup f.name).getD _)
    cases hraw : arguments.lookup f.name with
    | none => exact h.optional f
    | some raw => exact harguments.optional f raw hraw

theorem updatedLedger_eq_ok {d : ReleaseDelivery}
    (h : updatedLedger rt deliveryId arguments ledger = .ok (updated, d)) :
    exists index current, ledger.deliveries.findIdx? (fun x => x.id = deliveryId) = some index ∧
        ledger.deliveries[index]? = some current ∧
        updatedDelivery rt current arguments = .ok d ∧
        updated = { ledger with deliveries := ledger.deliveries.set index d } := by
  unfold updatedLedger at h
  split at h
  · cases h
  · rename_i index hindex
    split at h
    · cases h
    · rename_i current hcurrent
      split at h
      · cases h
      · rename_i found hfound
        cases h
        exact ⟨index, current, hindex, hcurrent, hfound, rfl⟩

theorem update_kept (hread : s.readLedger rt = .ok ledger) (deliveryId : String)
    (arguments : ReleaseDeliveryStore.Arguments)
    (h : (Call.update deliveryId arguments).Refused rt s ledger ∨ w = .refused ∨
      (w = .stored ∧ (Call.update deliveryId arguments).Normal)) :
    (Call.update deliveryId arguments).Keeps rt s w := by
  show Kept rt s _ (s.update rt deliveryId arguments w)
  unfold ReleaseDeliveryStore.update
  dsimp only
  split
  · exact kept_error _
  split
  · exact kept_error _
  rename_i hknown
  apply change_kept hread
  · intro updated d hbody
    rcases updatedLedger_eq_ok hbody with ⟨index, current, hindex, hcurrent, hd, rfl⟩
    rcases updatedDelivery_eq_ok hd with ⟨status, hstatus, -, rfl⟩
    have hid : current.id = deliveryId := by
      rcases List.findIdx?_eq_some_iff_getElem.mp hindex with ⟨hlt, hsame, -⟩
      rw [List.getElem?_eq_getElem hlt] at hcurrent
      cases hcurrent
      exact of_decide_eq_true hsame
    exact ⟨index, current, hindex, hcurrent, hid, rfl, rfl, updatedStatus_step hstatus⟩
  · rcases h with hrefused | rfl | ⟨rfl, hnormal⟩
    · left
      intro updated d hbody
      rcases updatedLedger_eq_ok hbody with ⟨index, current, hindex, hcurrent, hd, rfl⟩
      rcases hrefused with ⟨entry, hentry, hname⟩ | hrefused
      · have hunknown : entry.1 ∈ (arguments.map Prod.fst).filter fun name =>
            name ∉ ReleaseDeliveryStore.mutableFields := by
          rw [List.mem_filter]
          exact ⟨List.mem_map.mpr ⟨entry, hentry, rfl⟩, decide_eq_true hname⟩
        exact absurd (fun hnil => by rw [hnil] at hunknown; cases hunknown) hknown
      · apply dump_error (d := d)
        · rcases List.getElem?_eq_some_iff.mp hcurrent with ⟨hlt, -⟩
          exact List.mem_set hlt d
        · exact not_dumpable_of_refused hd (hrefused index current hindex hcurrent)
    · exact .inr (.inl rfl)
    · refine .inr (.inr ⟨rfl, ?_⟩)
      intro updated d hbody
      rcases updatedLedger_eq_ok hbody with ⟨index, current, hindex, hcurrent, hd, rfl⟩
      rcases updatedDelivery_eq_ok hd with ⟨status, -, -, rfl⟩
      have hold := readLedger_readable hread
      constructor
      · exact hold.version
      · intro x hx
        rcases List.mem_or_eq_of_mem_set hx with hmem | rfl
        · exact hold.normal x hmem
        · exact (hold.normal current (List.mem_of_getElem? hcurrent)).replaced hnormal status

theorem call_kept (hread : s.readLedger rt = .ok ledger) {call : Call}
    (h : call.Sound rt s w) : call.Keeps rt s w := by
  cases call with
  | append d => exact append_kept hread d (h ledger hread)
  | bulkAppend deliveries => exact bulkAppend_kept hread deliveries (h ledger hread)
  | update deliveryId arguments =>
    exact update_kept hread deliveryId arguments (h ledger hread)

end Steps

/-!
# Runs
-/

section Runs

variable (rt : DocumentRuntime)

/-- Every call of a run is `P` in the state it is made in. -/
def Along (P : ReleaseDeliveryStore -> Write -> Call -> Prop) :
    ReleaseDeliveryStore -> List (Call × Write) -> Prop
  | _, [] => True
  | s, (call, w) :: rest => P s w call ∧ Along P (call.next rt s w) rest

/-- The store after a run. -/
def after (s : ReleaseDeliveryStore) : List (Call × Write) -> ReleaseDeliveryStore
  | [] => s
  | (call, w) :: rest => after (call.next rt s w) rest

variable {rt}

variable {s : ReleaseDeliveryStore}

theorem Kept.readable {α : Type} {P : ReleaseDeliveryLedger -> α -> ReleaseDeliveryLedger -> Prop}
    {result : Except LedgerError α × ReleaseDeliveryStore} (h : Kept rt s P result)
    (hread : Returns (s.readLedger rt)) : Returns (result.2.readLedger rt) := by
  rcases result with ⟨returned | returned, s'⟩
  · have hsame : s'.readLedger rt = s.readLedger rt := h
    rw [hsame]
    exact hread
  · rcases h with ⟨before, after, -, hafter, -⟩
    exact ⟨after, hafter⟩

theorem next_readable {w : Write} {call : Call}
    (h : call.Keeps rt s w) (hread : Returns (s.readLedger rt)) :
    Returns ((call.next rt s w).readLedger rt) := by
  cases call with
  | append d => exact Kept.readable h hread
  | bulkAppend deliveries => exact Kept.readable h hread
  | update deliveryId arguments => exact Kept.readable h hread

/-- On a ledger that reads, sound calls keep the ledger, whatever their order. -/
theorem sound_calls_keep_ledger (rt : DocumentRuntime) (s : ReleaseDeliveryStore)
    (calls : List (Call × Write)) (hread : Returns (s.readLedger rt))
    (hsound : Along rt (fun s w call => call.Sound rt s w) s calls) :
    Along rt (fun s w call => call.Keeps rt s w) s calls ∧
      Returns ((after rt s calls).readLedger rt) := by
  induction calls generalizing s with
  | nil => exact ⟨trivial, hread⟩
  | cons event rest ih =>
    rcases event with ⟨call, w⟩
    rcases hsound with ⟨hcall, hrest⟩
    rcases hread with ⟨ledger, hledger⟩
    have hkept := call_kept hledger hcall
    rcases ih _ (next_readable hkept ⟨ledger, hledger⟩) hrest with ⟨hkeeps, hreadable⟩
    exact ⟨⟨hkept, hkeeps⟩, hreadable⟩

end Runs

/-!
# A delivery of one commit
-/

def sampleDelivery (targetBranch : String) : ReleaseDelivery :=
  { id := "rd_1"
    projectId := "proj-1"
    sourceBranch := "main"
    sourceKind := .commits
    sourceIdentifier := none
    sourceCommits := ["3c8c1d5fabc0123456789abcdef0123456789abc"]
    targetBranch
    status := .«open»
    queuedAt := .text "2026-07-13T12:00:00Z"
    resultCommits := .texts []
    optional := fun _ => .ofOption none }

theorem sampleDelivery_normal : Normal (sampleDelivery "release/1.1") := by
  constructor
  · exact ⟨rfl, by decide⟩
  · exact ⟨rfl, by decide⟩
  · exact ⟨rfl, by decide⟩
  · exact fun _ hfound => nomatch hfound
  · exact ⟨fun _ => rfl, fun _ => rfl⟩
  · exact List.cons_ne_nil _ _
  · intro sha hmem
    rw [List.mem_singleton.mp hmem]
    exact ⟨rfl, rfl⟩
  · exact ⟨rfl, by decide⟩
  · exact ⟨_, rfl, rfl, by decide⟩
  · exact ⟨[], rfl, fun _ hmem => nomatch hmem⟩
  · exact fun _ => ⟨none, rfl, fun _ hfound => nomatch hfound⟩

def sampleStore : ReleaseDeliveryStore :=
  { projectId := "proj-1", file := .missing }

def sampleCalls : List (Call × Write) :=
  [(.append (sampleDelivery "release/1.1"), .stored),
    (.update "rd_1" [("status", .text "in_progress"), ("claimed_by", .text "worker-1")], .stored),
    (.update "rd_1" [("target_branch", .text " ")], .stored)]

theorem sampleArguments_normal :
    NormalArguments [("status", .text "in_progress"), ("claimed_by", .text "worker-1")] := by
  constructor
  · intro raw h
    simp [List.lookup_cons] at h
  · intro raw h
    simp [List.lookup_cons] at h
  · intro f raw h
    cases f <;> simp [List.lookup_cons, OptionalField.name] at h
    rw [← h]
    refine ⟨some "worker-1", rfl, ?_⟩
    rintro text ⟨⟩
    exact ⟨rfl, by decide⟩

/-- A delivery is appended and claimed; a change of its target branch is refused. -/
theorem sampleCalls_keep_ledger :
    Along (ascii id) (fun s w call => call.Keeps (ascii id) s w) sampleStore sampleCalls ∧
      Returns ((after (ascii id) sampleStore sampleCalls).readLedger (ascii id)) := by
  apply sound_calls_keep_ledger
  · exact ⟨_, rfl⟩
  · refine ⟨?_, ?_, ?_, trivial⟩
    · exact fun _ _ => .inr (.inr ⟨rfl, sampleDelivery_normal⟩)
    · exact fun _ _ => .inr (.inr ⟨rfl, sampleArguments_normal⟩)
    · exact fun _ _ => .inl (.inl ⟨_, List.mem_cons_self, by decide⟩)

/-- A blank target branch is appended, and the ledger does not read any more. -/
theorem blankTarget_not_kept :
    ¬ (Call.append (sampleDelivery " ")).Keeps (ascii id) sampleStore .stored := by
  rintro ⟨before, after, -, hafter, -⟩
  cases hafter

end ReleaseDeliveries
end Oompah
