import Oompah.Integration.Columns

/-!
# Rebase intents

`prepare_task_rebase` checkpoints an intent on a row and `abort_task_rebase`
clears it.  The intent overwrites the base and the rebased head of the row, and
clearing it has nothing to put them back from.
-/

namespace Oompah
namespace Integration

open Foundation

section Rebase

variable {rt : QueueRuntime} {s : IntegrationQueueStore}
variable {k : RowKey}

/-- The row with an intent to rebase it onto `base`. -/
def IntegrationQueueItem.intending (row : IntegrationQueueItem) (base now : String) :
    IntegrationQueueItem :=
  { row with
    baseSha := some base
    rebasedFromHeadSha := some row.headSha
    rebaseIntentPending := true
    updatedAt := now }

/-- The row with its intent cleared. -/
def IntegrationQueueItem.aborted (row : IntegrationQueueItem) (now : String) :
    IntegrationQueueItem :=
  { row with
    rebaseIntentPending := false
    rebasedFromHeadSha := none
    updatedAt := now }

/-- The row is one that `prepare_task_rebase` accepts. -/
structure Preparable (rt : QueueRuntime) (expected : String)
    (row : IntegrationQueueItem) : Prop where
  digest : rt.authority row = expected
  ready : row.state = .ready
  free : row.leaseOwner = none
  settled : row.rebasedPublicationPending = false

theorem casUpdate_get {check condition : IntegrationQueueItem -> Bool}
    {set : IntegrationQueueItem -> IntegrationQueueItem -> IntegrationQueueItem}
    {row : IntegrationQueueItem}
    (h : (s.casUpdate k check condition set).2 = some row) :
    (s.casUpdate k check condition set).1.get k = some row := by
  unfold IntegrationQueueStore.casUpdate at h ⊢
  split at h
  · cases h
  · split at h
    · rename_i hcheck
      rw [if_pos hcheck]
      exact h
    · cases h

theorem prepareTaskRebase_cases {expected base now : String}
    {row prepared : IntegrationQueueItem} (hrow : s.get k = some row)
    (hprepared : (s.prepareTaskRebase rt k expected base now).2 = some prepared) :
    Preparable rt expected row ∧
      (s.prepareTaskRebase rt k expected base now).1.get k = some prepared ∧
      (row.rebaseIntentPending = true ∧ prepared = row ∨
        row.rebaseIntentPending = false ∧ prepared = row.intending base now) := by
  unfold IntegrationQueueStore.prepareTaskRebase at hprepared ⊢
  split at hprepared
  · cases hprepared
  · rename_i hnamed
    rw [if_neg hnamed]
    rw [hrow] at hprepared ⊢
    dsimp only at hprepared ⊢
    split at hprepared
    · cases hprepared
    · rename_i haccepted
      rw [if_neg haccepted]
      simp only [not_or, ne_eq, not_not, Bool.not_eq_true,
        Option.isSome_eq_false_iff, Option.isNone_iff_eq_none] at haccepted
      rcases haccepted with ⟨hauthority, hready, hfree, hsettled⟩
      refine ⟨⟨hauthority, hready, hfree, hsettled⟩, ?_⟩
      split at hprepared
      · rename_i hpending
        rw [if_pos hpending]
        cases hprepared
        exact ⟨hrow, Or.inl ⟨hpending, rfl⟩⟩
      · rename_i hidle
        rw [if_neg hidle]
        refine ⟨casUpdate_get hprepared, Or.inr ⟨Bool.eq_false_iff.mpr hidle, ?_⟩⟩
        rw [casUpdate_result, hrow] at hprepared
        · simp only [Option.filter, Option.map_some, if_true] at hprepared
          rw [if_pos (by simp [hready, hfree, hsettled, hidle])] at hprepared
          exact (Option.some.inj hprepared).symm
        · exact fun _ _ => rfl

theorem abortTaskRebase_prepared (hdigest : forall item, rt.authority item ≠ "")
    {prepared : IntegrationQueueItem} (hrow : s.get k = some prepared)
    (hready : prepared.state = .ready) (hfree : prepared.leaseOwner = none)
    (hsettled : prepared.rebasedPublicationPending = false)
    (hpending : prepared.rebaseIntentPending = true) (now : String) :
    (s.abortTaskRebase rt k (rt.authority prepared) now).2 = some (prepared.aborted now) := by
  unfold IntegrationQueueStore.abortTaskRebase
  rw [if_neg (hdigest prepared), casUpdate_result]
  · rw [hrow]
    simp [Option.filter, hready, hfree, hsettled, hpending, IntegrationQueueItem.aborted]
  · exact fun _ _ => rfl

/-- The two rows differ in `updated_at` only. -/
def IntegrationQueueItem.SameButUpdated (row row' : IntegrationQueueItem) : Prop :=
  { row' with updatedAt := row.updatedAt } = row

/--
Aborting a preparation restores the row exactly if the row had no intent and no
rebased head and was already on the base it was prepared for.
-/
theorem abort_restores_iff (hdigest : forall item, rt.authority item ≠ "")
    (expected base now now' : String) (row prepared : IntegrationQueueItem)
    (hrow : s.get k = some row)
    (hprepared : (s.prepareTaskRebase rt k expected base now).2 = some prepared) :
    (exists restored, ((s.prepareTaskRebase rt k expected base now).1.abortTaskRebase rt
          k (rt.authority prepared) now').2 = some restored ∧
        row.SameButUpdated restored) <->
      row.rebaseIntentPending = false ∧ row.baseSha = some base ∧
        row.rebasedFromHeadSha = none := by
  rcases prepareTaskRebase_cases hrow hprepared with
    ⟨haccepted, hget, ⟨hpending, rfl⟩ | ⟨hidle, rfl⟩⟩
  · rw [abortTaskRebase_prepared hdigest hget haccepted.ready haccepted.free
      haccepted.settled hpending]
    constructor
    · rintro ⟨restored, hrestored, hsame⟩
      cases hrestored
      have hcleared := congrArg IntegrationQueueItem.rebaseIntentPending hsame
      rw [hpending] at hcleared
      cases hcleared
    · rintro ⟨hidle, -, -⟩
      rw [hpending] at hidle
      cases hidle
  · rw [abortTaskRebase_prepared hdigest hget haccepted.ready haccepted.free haccepted.settled rfl]
    constructor
    · rintro ⟨restored, hrestored, hsame⟩
      cases hrestored
      have hbase := congrArg IntegrationQueueItem.baseSha hsame
      have hhead := congrArg IntegrationQueueItem.rebasedFromHeadSha hsame
      exact ⟨hidle, hbase.symm, hhead.symm⟩
    · rintro ⟨-, hbase, hhead⟩
      refine ⟨_, rfl, ?_⟩
      cases row
      dsimp only at hidle hbase hhead
      subst hidle hbase hhead
      rfl
end Rebase

/-!
# A base that is not put back
-/

/-- A generation token that is never empty. -/
def sampleGenerations : QueueRuntime :=
  { authority := fun item => "g" ++ item.updatedAt
    lower := String.toLower }

theorem sampleGenerations_ne (item : IntegrationQueueItem) :
    sampleGenerations.authority item ≠ "" := by
  simp [sampleGenerations]

/-- One row, submitted on the base `o`. -/
def submittedOnBase : IntegrationQueueStore :=
  IntegrationQueueStore.after sampleGenerations {}
    [.enqueue { sampleSubmission with baseSha := some "o" } "1"]

/-- The aborted row has the base of the rebase that did not happen. -/
theorem abort_keepsBase : (submittedOnBase.get sampleKey).map (·.baseSha) = some (some "o") ∧
      (submittedOnBase.prepareTaskRebase sampleGenerations sampleKey "g1" "n" "2").2.map
        sampleGenerations.authority = some "g2" ∧
      ((submittedOnBase.prepareTaskRebase sampleGenerations sampleKey "g1" "n"
          "2").1.abortTaskRebase sampleGenerations sampleKey "g2" "3").2.map (·.baseSha) =
        some (some "n") := by
  decide +kernel

def rowOnBase : IntegrationQueueItem :=
  IntegrationQueueStore.Submission.row sampleGenerations
    { sampleSubmission with baseSha := some "o" } none
    "1"

/-- A row that is already on the base of the intent is restored. -/
theorem abort_restores_sameBase :
    exists restored, ((submittedOnBase.prepareTaskRebase sampleGenerations sampleKey "g1" "o"
          "2").1.abortTaskRebase sampleGenerations sampleKey
          (sampleGenerations.authority (rowOnBase.intending "o" "2")) "3").2 = some restored ∧
        rowOnBase.SameButUpdated restored := by
  apply (abort_restores_iff sampleGenerations_ne "g1" "o" "2" "3" rowOnBase
    (rowOnBase.intending "o" "2") (by decide +kernel) (by decide +kernel)).mpr
  decide +kernel

end Integration
end Oompah
