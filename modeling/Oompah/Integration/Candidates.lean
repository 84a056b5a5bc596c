import Oompah.Integration.Columns

/-!
# Recorded candidates

A candidate is recorded for the head, epic and base branch its row has then.
`Candidates` remembers the last binding of every row beside the store: what
`record_candidate` bound, carried to another base by `restore_cancelled`.
-/

namespace Oompah
namespace Integration

open Foundation

/-- What a candidate is recorded for. -/
structure CandidateOwner where
  epicId : String
  headSha : String
  baseBranch : Option String
  deriving DecidableEq

structure CandidateBinding where
  owner : CandidateOwner
  candidateHeadSha : String
  candidateBaseSha : Option String
  deriving DecidableEq

def DeliveryColumns.owner (d : DeliveryColumns) : CandidateOwner :=
  { epicId := d.epicId, headSha := d.headSha, baseBranch := d.baseBranch }

def DeliveryColumns.binding (d : DeliveryColumns) : Option CandidateBinding :=
  d.candidateHeadSha.map fun candidate =>
    { owner := d.owner
      candidateHeadSha := candidate
      candidateBaseSha := d.candidateBaseSha }

/-- A restored row takes its candidate to the base it is restored to. -/
def CandidateBinding.restored (b : CandidateBinding)
    (x : IntegrationQueueStore.RestoreRequest) : CandidateBinding :=
  { b with
    owner := { b.owner with
      baseBranch := (textOrNone x.restoredBaseBranch).or b.owner.baseBranch }
    candidateBaseSha := (textOrNone x.restoredBaseSha).or b.candidateBaseSha }

structure Candidates where
  store : IntegrationQueueStore := {}
  bound : RowKey -> Option CandidateBinding := fun _ => none

namespace Candidates

/-- The binding of a row after an operation. -/
def binds (rt : QueueRuntime) (c : Candidates) (op : QueueOp)
    (k : RowKey) : Option CandidateBinding :=
  match op with
  | .recordCandidate k' leaseOwner expectedHeadSha expectedCandidateHeadSha candidate
      base now =>
      if k' = k then
        match (c.store.recordCandidate k' leaseOwner expectedHeadSha
            expectedCandidateHeadSha candidate base now).2 with
        | some row => row.delivery.binding
        | none => c.bound k
      else c.bound k
  | .restoreCancelled k' x now =>
    if k' = k ∧ (IntegrationQueueStore.restoreCancelled rt c.store k' x now).2 = true then
      (c.bound k).map (·.restored x)
    else c.bound k
  | _ => c.bound k

def step (rt : QueueRuntime) (c : Candidates) (op : QueueOp) :
    Candidates :=
  { store := op.apply rt c.store
    bound := c.binds rt op }

/-- Every recorded candidate is bound to the head, epic and base branch of its row. -/
def Owned (c : Candidates) : Prop :=
  forall k row, c.store.get k = some row -> row.candidateHeadSha.isSome = true ->
    c.bound k = row.delivery.binding

end Candidates

/-!
# Operations that re-identify a row
-/

def QueueOp.restores : QueueOp -> Bool
  | .restoreCancelled .. => true
  | _ => false

def QueueOp.records : QueueOp -> Bool
  | .recordCandidate .. => true
  | _ => false

/-- An operation gives a candidate another head, epic or base branch. -/
def QueueOp.relabels (rt : QueueRuntime) (s : IntegrationQueueStore) (op : QueueOp) : Bool :=
  !op.restores && s.rows.any fun row =>
    (op.deliver rt row).any fun columns =>
      columns.candidateHeadSha.isSome && columns.owner ≠ row.delivery.owner

section Steps

variable {rt : QueueRuntime} {s : IntegrationQueueStore}
variable {k : RowKey}

variable {op : QueueOp} {row : IntegrationQueueItem} {columns : DeliveryColumns}

theorem owner_of_not_relabels (h : op.relabels rt s = false)
    (hrestores : op.restores = false) (hrow : s.get k = some row)
    (hcolumns : op.deliver rt row = some columns)
    (hcandidate : columns.candidateHeadSha.isSome = true) :
    columns.owner = row.delivery.owner := by
  unfold QueueOp.relabels at h
  rw [hrestores, Bool.not_false, Bool.true_and, List.any_eq_false] at h
  have hkept := h row (mem_of_rowAt hrow)
  rw [hcolumns] at hkept
  simpa [hcandidate] using hkept

/-- Only recording and restoring write a candidate; what else writes may clear it. -/
theorem deliver_candidate (hcolumns : op.deliver rt row = some columns) :
    op.records = true ∨ op.restores = true ∨ columns.candidateHeadSha = none ∨
      columns.candidateHeadSha = row.candidateHeadSha ∧
        columns.candidateBaseSha = row.candidateBaseSha := by
  cases op with
  | recordCandidate => exact .inl rfl
  | restoreCancelled => exact .inr (Or.inl rfl)
  | enqueue =>
    rw [QueueOp.deliver, Option.ite_none_right_eq_some] at hcolumns
    rw [← Option.some.inj hcolumns.right]
    exact .inr (Or.inr (Or.inl rfl))
  | replaceTaskIdentity | prepareTaskRebase | prepareTaskPublication
  | normalizeLegacyTrackerCheckpoint | checkpointLegacyIntegration =>
    rw [QueueOp.deliver, Option.ite_none_right_eq_some] at hcolumns
    rw [← Option.some.inj hcolumns.right]
    exact .inr (Or.inr (Or.inr ⟨rfl, rfl⟩))
  | _ => cases hcolumns

theorem recordCandidate_cases (k : RowKey) (leaseOwner expectedHeadSha : String)
    (expectedCandidateHeadSha : Option String) (candidate base now : String) :
    let recorded := s.recordCandidate k leaseOwner expectedHeadSha
      expectedCandidateHeadSha candidate base now
    recorded.2 = none ∧ recorded.1 = s ∨ recorded.2 = recorded.1.get k := by
  unfold IntegrationQueueStore.recordCandidate
  split
  · exact .inl ⟨rfl, rfl⟩
  · dsimp only
    split
    · exact .inl ⟨rfl, rfl⟩
    · exact .inr rfl

theorem restoreCancelled_eq_true (k : RowKey) (x : IntegrationQueueStore.RestoreRequest)
    (now : String) :
    (IntegrationQueueStore.restoreCancelled rt s k x now).2 = true <->
      exists row, s.get k = some row ∧
        ((QueueOp.restoreCancelled k x now).deliver rt row).isSome = true := by
  unfold IntegrationQueueStore.restoreCancelled
  dsimp only
  rw [casUpdate_result]
  · cases hrow : s.get k with
    | none => simp
    | some row =>
      have hkey : row.key = k := rowAt_key hrow
      simp [QueueOp.deliver, hkey, Option.filter, and_assoc]
  · exact fun _ _ => rfl

theorem restored_binding {x : IntegrationQueueStore.RestoreRequest} {now : String}
    (hcolumns : (QueueOp.restoreCancelled k x now).deliver rt row = some columns) :
    columns.binding = row.delivery.binding.map (·.restored x) := by
  rw [QueueOp.deliver, Option.ite_none_right_eq_some] at hcolumns
  rw [← Option.some.inj hcolumns.right]
  cases hcandidate : row.candidateHeadSha with
  | none => simp [DeliveryColumns.binding, IntegrationQueueItem.delivery, hcandidate]
  | some candidate =>
    simp [DeliveryColumns.binding, IntegrationQueueItem.delivery, hcandidate,
      DeliveryColumns.owner, CandidateBinding.restored]

/-!
# Runs that relabel no candidate
-/

theorem fresh_candidate (h : op.fresh k = some columns) : columns.candidateHeadSha = none := by
  cases op with
  | enqueue | enqueueIfAbsent =>
    rw [QueueOp.fresh, Option.ite_none_right_eq_some] at h
    rw [← Option.some.inj h.right]
    rfl
  | _ => cases h

theorem binding_isSome (d : DeliveryColumns) : d.binding.isSome = d.candidateHeadSha.isSome := by
  rw [DeliveryColumns.binding, Option.isSome_map]

theorem Candidates.owned_iff (c : Candidates) :
    c.Owned <-> forall k row b, c.store.get k = some row ->
      row.delivery.binding = some b -> c.bound k = some b := by
  constructor
  · intro h k row b hrow hb
    rw [← hb]
    apply h k row hrow
    have hsome := binding_isSome row.delivery
    rw [hb] at hsome
    exact hsome.symm
  · intro h k row hrow hcandidate
    have hsome := (binding_isSome row.delivery).trans hcandidate
    rcases Option.isSome_iff_exists.mp hsome with ⟨b, hb⟩
    rw [hb]
    exact h k row b hrow hb

/-- The columns of a row after an operation come from a row before it. -/
theorem row_before (hkept : WellKept s) {row' : IntegrationQueueItem}
    (hrow' : (op.apply rt s).get k = some row') {b : CandidateBinding}
    (hb : row'.delivery.binding = some b) :
    exists row, s.get k = some row ∧ row'.delivery = (op.deliver rt row).getD row.delivery := by
  have hdelivers := apply_delivers rt hkept op k
  rw [hrow', Option.map_some] at hdelivers
  cases hrow : s.get k with
  | some row =>
    rw [hrow, Option.map_some, Option.some_or, Option.some_inj] at hdelivers
    exact ⟨row, rfl, hdelivers⟩
  | none =>
    rw [hrow, Option.map_none, Option.none_or] at hdelivers
    rw [DeliveryColumns.binding, fresh_candidate hdelivers.symm] at hb
    cases hb

/-- A candidate that is neither recorded nor restored keeps its binding. -/
theorem kept_binding (hop : op.relabels rt s = false)
    (hrecords : op.records = false) (hrestores : op.restores = false)
    (hrow : s.get k = some row) {d : DeliveryColumns}
    (hd : d = (op.deliver rt row).getD row.delivery) {b : CandidateBinding}
    (hb : d.binding = some b) : row.delivery.binding = some b := by
  cases hcolumns : op.deliver rt row with
  | none =>
    rw [hcolumns, Option.getD_none] at hd
    rw [← hd, hb]
  | some columns =>
    rw [hcolumns, Option.getD_some] at hd
    subst hd
    have hcandidate : d.candidateHeadSha.isSome = true := by
      rw [← binding_isSome, hb]
      rfl
    have howner := owner_of_not_relabels hop hrestores hrow hcolumns hcandidate
    rcases deliver_candidate hcolumns with hrecorded | hrestored | hcleared | hsame
    · rw [hrecords] at hrecorded
      cases hrecorded
    · rw [hrestores] at hrestored
      cases hrestored
    · rw [hcleared] at hcandidate
      cases hcandidate
    · rw [← hb, DeliveryColumns.binding, DeliveryColumns.binding, ← howner, hsame.left, hsame.right]
      rfl

structure Candidates.Bound (c : Candidates) : Prop where
  kept : WellKept c.store
  owned : c.Owned

theorem Candidates.Bound.step {c : Candidates} (h : c.Bound)
    (hop : op.relabels rt c.store = false) : (c.step rt op).Bound := by
  have howned := c.owned_iff.mp h.owned
  constructor
  · exact h.kept.step rt op
  · rw [Candidates.owned_iff]
    intro k row' b hrow' hb
    change (op.apply rt c.store).get k = some row' at hrow'
    change c.binds rt op k = some b
    rcases row_before h.kept hrow' hb with ⟨row, hrow, hdelivery⟩
    cases op with
    | recordCandidate k' leaseOwner expectedHeadSha expectedCandidateHeadSha candidate
        base now =>
        by_cases hk : k' = k
        · subst hk
          rw [Candidates.binds, if_pos rfl]
          rcases recordCandidate_cases k' leaseOwner expectedHeadSha
            expectedCandidateHeadSha candidate base now with ⟨hnone, hsame⟩ | hresult
          · rw [hnone]
            change (c.store.recordCandidate _ _ _ _ _ _ _).1.get k' = some row' at hrow'
            rw [hsame] at hrow'
            exact howned k' row' b hrow' hb
          · change (c.store.recordCandidate _ _ _ _ _ _ _).1.get k' = some row' at hrow'
            rw [hresult, hrow']
            exact hb
        · rw [Candidates.binds, if_neg hk]
          have hkey : ¬ row.key = k' := fun hrowKey =>
            hk (hrowKey.symm.trans (rowAt_key hrow))
          rw [QueueOp.deliver, if_neg (fun hfires => hkey hfires.left),
            Option.getD_none] at hdelivery
          exact howned k row b hrow (hdelivery ▸ hb)
    | restoreCancelled k' x now =>
      cases hcolumns : (QueueOp.restoreCancelled k' x now).deliver rt row with
      | none =>
        rw [hcolumns, Option.getD_none] at hdelivery
        rw [Candidates.binds, if_neg]
        · exact howned k row b hrow (hdelivery ▸ hb)
        · rintro ⟨rfl, hrestored⟩
          rcases (restoreCancelled_eq_true k' x now).mp hrestored with
            ⟨found, hfound, hsome⟩
          rw [hrow] at hfound
          cases hfound
          rw [hcolumns] at hsome
          cases hsome
      | some columns =>
        have hk : k' = k := by
          have hfires := hcolumns
          rw [QueueOp.deliver, Option.ite_none_right_eq_some] at hfires
          exact hfires.left.left.symm.trans (rowAt_key hrow)
        subst hk
        have hrestored : (IntegrationQueueStore.restoreCancelled rt c.store k' x now).2 = true :=
          (restoreCancelled_eq_true k' x now).mpr ⟨row, hrow, by rw [hcolumns]; rfl⟩
        rw [hcolumns, Option.getD_some] at hdelivery
        rw [hdelivery, restored_binding hcolumns] at hb
        rcases Option.map_eq_some_iff.mp hb with ⟨old, hold, hsame⟩
        rw [Candidates.binds, if_pos ⟨rfl, hrestored⟩, howned k' row old hrow hold,
          Option.map_some, hsame]
    | _ => exact howned k row b hrow (kept_binding hop rfl rfl hrow hdelivery hb)

theorem bound_empty : Candidates.Bound {} := by
  constructor
  · exact wellKept_empty
  · exact fun _ _ h => nomatch h

/--
Over every run that re-identifies no candidate, a recorded candidate is bound to
the current head, epic and base branch of its row.
-/
theorem candidates_owned (rt : QueueRuntime) (ops : List QueueOp)
    (hops : Guarded (Candidates.step rt) (fun c op => op.relabels rt c.store = false) {} ops) :
    (run (Candidates.step rt) {} ops).Owned :=
  (guarded_invariant_run (fun _ _ h hop => h.step hop) bound_empty hops).owned

end Steps

/-!
# A candidate on a restored row
-/

def oldClaim : IntegrationQueueStore.ClaimRequest :=
  { projectId := "p"
    epicId := "e"
    leaseOwner := "first"
    dependencyMap := fun _ => []
    satisfied := [] }

/-- A candidate is recorded for the base branch the row is submitted with. -/
def recordedForOld : List QueueOp :=
  [.enqueue { sampleSubmission with baseBranch := some "old" } "1",
    .claimNext oldClaim 0 "2", .recordCandidate sampleKey "first" "h" none "c" "b" "3",
    .cancel sampleKey {} "4"]

def restoredToNew : QueueOp :=
  .restoreCancelled sampleKey
    { expectedHeadSha := "h"
      expectedTaskBranch := "b"
      restoredBaseBranch := some "new"
      restoredBaseSha := some "n" } "5"

/-- The restored row has another base branch and the candidate of the old one. -/
theorem restoredToNew_keepsCandidate :
    ((IntegrationQueueStore.after sampleRuntime {} recordedForOld).get sampleKey).map
        (fun row => (row.baseBranch, row.candidateHeadSha)) =
      some (some "old", some "c") ∧
    ((IntegrationQueueStore.after sampleRuntime {}
        (recordedForOld ++ [restoredToNew])).get sampleKey).map
        (fun row => (row.baseBranch, row.candidateHeadSha)) =
      some (some "new", some "c") := by
  decide +kernel

theorem candidates_owned_restored :
    (run (Candidates.step sampleRuntime) {} (recordedForOld ++ [restoredToNew])).Owned :=
  candidates_owned sampleRuntime (recordedForOld ++ [restoredToNew]) (by decide +kernel)

end Integration
end Oompah
