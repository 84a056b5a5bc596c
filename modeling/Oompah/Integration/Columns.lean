import Oompah.Integration.Writes

/-!
# Delivery columns

The columns that say what a row delivers: its epic, branches, head, base and
the candidate recorded for it.  `deliver` is what an operation writes into them
over a row, and `apply_delivery` reads the columns of any row after any
operation from it.
-/

namespace Oompah
namespace Integration

open Foundation
open IntegrationQueueStore (Submission casHistory casUpdate)
open IntegrationQueueStore (claimable finish leasedTo)

structure DeliveryColumns where
  epicId : String
  taskBranch : String
  headSha : String
  baseBranch : Option String
  baseSha : Option String
  candidateHeadSha : Option String
  candidateBaseSha : Option String
  deriving DecidableEq

def IntegrationQueueItem.delivery (item : IntegrationQueueItem) : DeliveryColumns :=
  { epicId := item.epicId
    taskBranch := item.taskBranch
    headSha := item.headSha
    baseBranch := item.baseBranch
    baseSha := item.baseSha
    candidateHeadSha := item.candidateHeadSha
    candidateBaseSha := item.candidateBaseSha }

namespace IntegrationQueueStore.Submission

def delivery (x : IntegrationQueueStore.Submission) : DeliveryColumns :=
  { epicId := x.epicId
    taskBranch := x.taskBranch
    headSha := x.headSha
    baseBranch := textOrNone x.baseBranch
    baseSha := textOrNone x.baseSha
    candidateHeadSha := none
    candidateBaseSha := none }

/-- `enqueue` returns the row as it is. -/
def keeps (rt : QueueRuntime) (x : IntegrationQueueStore.Submission)
    (existing : IntegrationQueueItem) : Bool :=
  x.identical rt existing && !x.retryInactive rt existing && !x.retryIntegrated rt existing

@[simp] theorem delivery_row (rt : QueueRuntime) (x : Submission)
    (existing : Option IntegrationQueueItem) (now : String) :
    (x.row rt existing now).delivery = x.delivery := rfl

@[simp] theorem key_row (rt : QueueRuntime) (x : Submission)
    (existing : Option IntegrationQueueItem) (now : String) :
    (x.row rt existing now).key = x.key := rfl

end IntegrationQueueStore.Submission

namespace QueueOp

/-- The delivery columns an operation writes over a row, if it writes them. -/
def deliver (rt : QueueRuntime) : QueueOp -> IntegrationQueueItem -> Option DeliveryColumns
  | enqueue x _, row =>
    if row.key = x.key ∧ x.missing = [] ∧ x.keeps rt row = false then some x.delivery
    else none
  | replaceTaskIdentity k expected parent branch head baseBranch baseSha _ _ _, row =>
    if row.key = k ∧ ¬ (expected = "" ∨ parent = "" ∨ branch = "" ∨ head = "") ∧
        rt.authority row = expected ∧ row.leaseOwner = none ∧
        row.taskBranch = branch ∧ row.headSha = head then
      some { row.delivery with
        epicId := parent
        baseBranch := textOrNone baseBranch
        baseSha := textOrNone baseSha }
    else none
  | prepareTaskRebase k expected base _, row =>
    if row.key = k ∧ ¬ (expected = "" ∨ base = "") ∧ rt.authority row = expected ∧
        row.state = .ready ∧ row.leaseOwner = none ∧
        row.rebasedPublicationPending = false ∧ row.rebaseIntentPending = false then
      some { row.delivery with baseSha := some base }
    else none
  | prepareTaskPublication k expected replacement baseSha _, row =>
    if row.key = k ∧ ¬ (expected = "" ∨ replacement = "") ∧
        rt.authority row = expected ∧ row.state = .ready ∧ row.leaseOwner = none ∧
        row.rebasedPublicationPending = false then
      some { row.delivery with
        headSha := replacement
        baseSha := (textOrNone baseSha).or row.baseSha }
    else none
  | normalizeLegacyTrackerCheckpoint k expected branch replacement landed baseSha _,
      row =>
      if row.key = k ∧ ¬ (expected = "" ∨ branch = "" ∨ replacement = "" ∨ landed = "") ∧
          rt.authority row = expected ∧ (row.state = .ready ∨ row.state = .integrated) ∧
          row.leaseOwner = none ∧ row.taskBranch = branch ∧
          row.rebasedPublicationPending = false ∧ row.rebaseIntentPending = false then
        some { row.delivery with
          headSha := replacement
          baseSha := (textOrNone baseSha).or row.baseSha }
      else none
  | recordCandidate k leaseOwner expectedHeadSha expectedCandidateHeadSha candidate
      base _, row =>
      if row.key = k ∧ ¬ (candidate = "" ∨ base = "") ∧ leasedTo leaseOwner row = true ∧
          row.headSha = expectedHeadSha ∧
          row.candidateHeadSha = expectedCandidateHeadSha then
        some { row.delivery with
          candidateHeadSha := some candidate
          candidateBaseSha := some base }
      else none
  | checkpointLegacyIntegration k owner branch predecessor rebased landed baseSha _,
      row =>
      if row.key = k ∧ ¬ (owner = "" ∨ branch = "" ∨ predecessor = "" ∨ rebased = "" ∨
            landed = "") ∧
          leasedTo owner row = true ∧
          row.taskBranch = branch ∧ row.headSha = predecessor then
        some { row.delivery with
          headSha := rebased
          baseSha := (textOrNone baseSha).or row.baseSha }
      else none
  | restoreCancelled k x _, row =>
    if row.key = k ∧ row.state = .cancelled ∧
        row.taskBranch = x.expectedTaskBranch ∧ row.headSha = x.expectedHeadSha ∧
        x.expectedEpicId.all (row.epicId = ·) = true ∧
        x.expectedGeneration.all (rt.authority row = ·) = true then
      some { row.delivery with
        baseBranch := (textOrNone x.restoredBaseBranch).or row.baseBranch
        baseSha := (textOrNone x.restoredBaseSha).or row.baseSha
        candidateBaseSha :=
          if row.candidateHeadSha.isNone then none
          else (textOrNone x.restoredBaseSha).or row.candidateBaseSha }
    else none
  | _, _ => none

/-- The row an operation inserts when the table has none under its key. -/
def fresh : QueueOp -> RowKey -> Option DeliveryColumns
  | enqueue x _, k => if x.missing = [] ∧ x.key = k then some x.delivery else none
  | enqueueIfAbsent x _, k =>
    if x.missing = [] ∧ x.key = k then some x.delivery else none
  | _, _ => none

end QueueOp

/-!
# Columns after a write

`Delivers f g s s'` says that the columns of every row of `s'` are those `f`
gives over the row of `s`, and those of `g` where `s` has no row.
-/

def Delivers (f : IntegrationQueueItem -> Option DeliveryColumns)
    (g : RowKey -> Option DeliveryColumns) (s s' : IntegrationQueueStore) : Prop :=
  forall k, (s'.get k).map IntegrationQueueItem.delivery =
    ((s.get k).map (fun row => (f row).getD row.delivery)).or (g k)

section Rules

variable {s : IntegrationQueueStore} {k : RowKey}
variable {check condition : IntegrationQueueItem -> Bool}
variable {f : IntegrationQueueItem -> Option DeliveryColumns}
variable {g : RowKey -> Option DeliveryColumns}

theorem Delivers.same (hf : forall row, row ∈ s.rows -> (f row).getD row.delivery = row.delivery)
    (hg : forall k, s.get k = none -> g k = none) : Delivers f g s s := by
  intro k
  cases hrow : s.get k with
  | none => rw [hg k hrow, Option.or_none, Option.map_none, Option.map_none]
  | some row => exact congrArg some (hf row (mem_of_rowAt hrow)).symm

/-- Nothing is written where the one row an operation is about is left alone. -/
theorem Delivers.idle (k : RowKey) (hf : forall row, row ∈ s.rows -> row.key = k -> f row = none)
    (hother : forall row, row.key ≠ k -> f row = none) :
    Delivers f (fun _ => none) s s := by
  apply Delivers.same _ (fun _ _ => rfl)
  intro row hrow
  by_cases hkey : row.key = k
  · rw [hf row hrow hkey, Option.getD_none]
  · rw [hother row hkey, Option.getD_none]

theorem Delivers.updates {s' : IntegrationQueueStore}
    {set : IntegrationQueueItem -> IntegrationQueueItem}
    (hrows : s'.rows = updateWhere s.rows condition set)
    (hkey : forall row, condition row = true -> (set row).key = row.key)
    (hf : forall row, row ∈ s.rows -> (f row).getD row.delivery =
      if condition row then (set row).delivery else row.delivery)
    (hg : forall k, s.get k = none -> g k = none) : Delivers f g s s' := by
  intro k
  have hget : s'.get k = (s.get k).map (fun row => if condition row then set row else row) := by
    unfold IntegrationQueueStore.get
    rw [hrows]
    exact rowAt_updateWhere hkey k
  rw [hget]
  cases hrow : s.get k with
  | none => rw [hg k hrow]; rfl
  | some row =>
    simp only [Option.map_some, Option.some_or]
    rw [hf row (mem_of_rowAt hrow)]
    split <;> rfl

theorem WellKept.eq_of_get (hkept : WellKept s) {item : IntegrationQueueItem}
    (hitem : s.get k = some item) :
    forall row, row ∈ s.rows -> row.key = k -> row = item := by
  intro row hrow hkey
  exact hkept.eq_of_key hrow (mem_of_rowAt hitem) (hkey.trans (rowAt_key hitem).symm)

variable {set : IntegrationQueueItem -> IntegrationQueueItem -> IntegrationQueueItem}

theorem casUpdate_result (hkey : forall item row, (set item row).key = row.key) :
    (s.casUpdate k check condition set).2 = ((s.get k).filter check).map
        (fun item => if condition item then set item item else item) := by
  unfold casUpdate
  cases hitem : s.get k with
  | none => rfl
  | some item =>
    have hk : item.key = k := rowAt_key hitem
    dsimp only
    cases hcheck : check item with
    | false => simp [Option.filter, hcheck]
    | true =>
      rw [if_pos rfl, get_update (fun row _ => hkey item row), hitem]
      simp [Option.filter, hcheck, hk]

theorem casUpdate_delivers (hkept : WellKept s)
    (hkey : forall item row, (set item row).key = row.key)
    (hf : forall row, row ∈ s.rows -> (f row).getD row.delivery =
      if row.key = k ∧ check row = true ∧ condition row = true then
        (set row row).delivery
      else row.delivery) :
    Delivers f (fun _ => none) s (s.casUpdate k check condition set).1 := by
  unfold casUpdate
  split
  · rename_i habsent
    apply Delivers.same _ (fun _ _ => rfl)
    intro row hrow
    rw [hf row hrow, if_neg]
    intro hfires
    exact rowAt_eq_none.mp habsent row hrow hfires.left
  · rename_i item hitem
    have hsame := hkept.eq_of_get hitem
    split
    · rename_i hcheck
      apply Delivers.updates rfl (fun row _ => hkey item row) _ (fun _ _ => rfl)
      intro row hrow
      rw [hf row hrow]
      by_cases hk : row.key = k
      · obtain rfl := hsame row hrow hk
        simp [hk, hcheck]
      · simp [hk]
    · rename_i hcheck
      apply Delivers.same _ (fun _ _ => rfl)
      intro row hrow
      rw [hf row hrow, if_neg]
      intro hfires
      rw [hsame row hrow hfires.left] at hfires
      exact hcheck hfires.right.left

variable {fires : IntegrationQueueItem -> Prop} {d : IntegrationQueueItem -> DeliveryColumns}

/-- `casUpdate_delivers` for a write that `fires` on the rows it is meant for. -/
theorem casUpdate_fires (hkept : WellKept s) [DecidablePred fires]
    (hf : forall row, f row = if fires row then some (d row) else none)
    (hkey : forall item row, (set item row).key = row.key) (hfires : forall row, row ∈ s.rows ->
      (fires row <-> row.key = k ∧ check row = true ∧ condition row = true))
    (hd : forall row, (set row row).delivery = d row) :
    Delivers f (fun _ => none) s (s.casUpdate k check condition set).1 := by
  apply casUpdate_delivers hkept hkey
  intro row hrow
  rw [hf row, hd row]
  by_cases hfired : fires row
  · rw [if_pos hfired, if_pos ((hfires row hrow).mp hfired)]
    rfl
  · rw [if_neg hfired, if_neg (fun h => hfired ((hfires row hrow).mpr h))]
    rfl

theorem casHistory_fires (hkept : WellKept s)
    {set : Nat -> IntegrationQueueItem -> IntegrationQueueItem -> IntegrationQueueItem}
    (hkey : forall sequence item row, (set sequence item row).key = row.key)
    [DecidablePred fires]
    (hf : forall row, f row = if fires row then some (d row) else none)
    (hfires : forall row, row ∈ s.rows ->
      (fires row <-> row.key = k ∧ check row = true ∧ condition row = true))
    (hd : forall sequence row, (set sequence row row).delivery = d row) :
    Delivers f (fun _ => none) s (s.casHistory k check condition set).1 := by
  have hcas := casUpdate_fires hkept hf (hkey (s.history + 1)) hfires (hd (s.history + 1))
  unfold casHistory
  unfold casUpdate at hcas
  cases hitem : s.get k with
  | none =>
    rw [hitem] at hcas
    exact hcas
  | some item =>
    rw [hitem] at hcas
    dsimp only at hcas ⊢
    split
    · rename_i hcheck
      rw [if_pos hcheck] at hcas
      exact hcas
    · rename_i hcheck
      rw [if_neg hcheck] at hcas
      exact hcas

end Rules

/-!
# Every operation
-/

section Operations

variable {rt : QueueRuntime} {s : IntegrationQueueStore}

theorem insert_delivers {f : IntegrationQueueItem -> Option DeliveryColumns}
    {g : RowKey -> Option DeliveryColumns} {x : IntegrationQueueItem}
    (hf : forall row, row ∈ s.rows -> (f row).getD row.delivery = row.delivery)
    (hg : forall k, s.get k = none -> g k = if x.key = k then some x.delivery else none) :
    Delivers f g s (s.insert x) := by
  intro k
  show (rowAt IntegrationQueueItem.key (s.rows ++ [x]) k).map _ = _
  rw [rowAt_append]
  cases hrow : s.get k with
  | none =>
    unfold IntegrationQueueStore.get at hrow
    rw [hrow, hg k hrow, Option.map_none, Option.none_or, Option.none_or]
    split <;> rfl
  | some row =>
    have hsame := hf row (mem_of_rowAt hrow)
    unfold IntegrationQueueStore.get at hrow
    rw [hrow, Option.map_some, hsame]
    rfl

theorem enqueue_delivers (hkept : WellKept s) (x : Submission) (now : String) :
    Delivers ((QueueOp.enqueue x now).deliver rt) (QueueOp.enqueue x now).fresh s
      (s.enqueue rt x now).1 := by
  unfold IntegrationQueueStore.enqueue
  split
  · rename_i hmissing
    apply Delivers.same
    · intro row _
      simp [QueueOp.deliver, hmissing]
    · intro k _
      simp [QueueOp.fresh, hmissing]
  · rename_i hcomplete
    rw [not_not] at hcomplete
    split
    · rename_i habsent
      apply insert_delivers
      · intro row hrow
        have hkey := rowAt_eq_none.mp habsent row hrow
        simp [QueueOp.deliver, hkey]
      · intro k _
        simp only [QueueOp.fresh, hcomplete, true_and]
        rfl
    · rename_i existing hexisting
      have hkey := rowAt_key hexisting
      have hfresh : forall k, s.get k = none -> (QueueOp.enqueue x now).fresh k = none := by
        intro k hk
        have hne : ¬ x.key = k := by
          rintro rfl
          rw [hexisting] at hk
          cases hk
        simp [QueueOp.fresh, hne]
      have hsame := hkept.eq_of_get hexisting
      split
      · rename_i hkeeps
        apply Delivers.same _ hfresh
        intro row hrow
        by_cases hk : row.key = x.key
        · obtain rfl := hsame row hrow hk
          simp [QueueOp.deliver, IntegrationQueueStore.Submission.keeps, hkeeps]
        · simp [QueueOp.deliver, hk]
      · rename_i hwrites
        apply Delivers.updates rfl _ _ hfresh
        · intro row hrow
          rw [decide_eq_true_eq] at hrow
          exact hrow.symm
        · intro row hrow
          by_cases hk : row.key = x.key
          · obtain rfl := hsame row hrow hk
            have hkeeps : x.keeps rt row = false := Bool.eq_false_iff.mpr hwrites
            simp [QueueOp.deliver, hk, hcomplete, hkeeps]
          · simp [QueueOp.deliver, hk]

theorem enqueueIfAbsent_delivers (x : Submission) (now : String) :
    Delivers ((QueueOp.enqueueIfAbsent x now).deliver rt)
      (QueueOp.enqueueIfAbsent x now).fresh s (s.enqueueIfAbsent rt x now).1 := by
  unfold IntegrationQueueStore.enqueueIfAbsent
  split
  · rename_i hmissing
    apply Delivers.same (fun _ _ => rfl)
    intro k _
    simp [QueueOp.fresh, hmissing]
  · rename_i hcomplete
    rw [not_not] at hcomplete
    split
    · rename_i existing hexisting
      apply Delivers.same (fun _ _ => rfl)
      intro k hk
      have hne : ¬ x.key = k := by
        rintro rfl
        rw [hexisting] at hk
        cases hk
      simp [QueueOp.fresh, hne]
    · apply insert_delivers (fun _ _ => rfl)
      intro k _
      simp only [QueueOp.fresh, hcomplete, true_and]
      rfl

theorem kept_delivers {s' : IntegrationQueueStore} {condition : IntegrationQueueItem -> Bool}
    {set : IntegrationQueueItem -> IntegrationQueueItem}
    (hrows : s'.rows = updateWhere s.rows condition set)
    (hset : forall row, (set row).key = row.key ∧ (set row).delivery = row.delivery) :
    Delivers (fun _ => none) (fun _ => none) s s' := by
  apply Delivers.updates hrows (fun row _ => (hset row).left) _ (fun _ _ => rfl)
  intro row _
  rw [(hset row).right, ite_self]
  rfl

variable {check condition : IntegrationQueueItem -> Bool}

theorem casUpdate_kept {k : RowKey}
    {set : IntegrationQueueItem -> IntegrationQueueItem -> IntegrationQueueItem}
    (hset : forall item row, (set item row).key = row.key ∧
      (set item row).delivery = row.delivery) :
    Delivers (fun _ => none) (fun _ => none) s (s.casUpdate k check condition set).1 := by
  unfold casUpdate
  split
  · exact Delivers.same (fun _ _ => rfl) (fun _ _ => rfl)
  · rename_i item _
    split
    · exact kept_delivers rfl (hset item)
    · exact Delivers.same (fun _ _ => rfl) (fun _ _ => rfl)

theorem casHistory_kept {k : RowKey} {set : Nat -> IntegrationQueueItem -> IntegrationQueueItem ->
      IntegrationQueueItem}
    (hset : forall sequence item row, (set sequence item row).key = row.key ∧
      (set sequence item row).delivery = row.delivery) :
    Delivers (fun _ => none) (fun _ => none) s (s.casHistory k check condition set).1 := by
  unfold casHistory
  split
  · exact Delivers.same (fun _ _ => rfl) (fun _ _ => rfl)
  · rename_i item _
    split
    · exact kept_delivers rfl (hset (s.history + 1) item)
    · exact Delivers.same (fun _ _ => rfl) (fun _ _ => rfl)

theorem finish_kept (k : RowKey) (leaseOwner : String) (state : QueueState)
    (lastError : Option String) (nextRetryAt : Option Int) (now : String) :
    Delivers (fun _ => none) (fun _ => none) s
      (s.finish k leaseOwner state lastError nextRetryAt now).1 := by
  unfold finish
  split
  · exact casHistory_kept (fun _ _ _ => ⟨rfl, rfl⟩)
  · exact casUpdate_kept (fun _ _ => ⟨rfl, rfl⟩)

theorem claimNext_kept (request : IntegrationQueueStore.ClaimRequest)
    (timestamp : Int) (now : String) :
    Delivers (fun _ => none) (fun _ => none) s (s.claimNext request timestamp now).1 := by
  have hrecovered : Delivers (fun _ => none) (fun _ => none) s
      (s.recoverExpired timestamp now).1 := kept_delivers rfl (fun _ => ⟨rfl, rfl⟩)
  rcases claimNext_cases s request timestamp now with hsame | hrecover | ⟨_, k', htaken⟩
  · rw [hsame]
    exact Delivers.same (fun _ _ => rfl) (fun _ _ => rfl)
  · rw [hrecover]
    exact hrecovered
  · rw [htaken]
    have htook : Delivers (fun _ => none) (fun _ => none) (s.recoverExpired timestamp now).1
        ((s.recoverExpired timestamp now).1.update
          (claimable k') (request.takeLease timestamp now)) :=
      kept_delivers rfl (fun _ => ⟨rfl, rfl⟩)
    intro k
    have hfirst := hrecovered k
    have hsecond := htook k
    simp only [Option.getD_none, Option.or_none] at hfirst hsecond ⊢
    rw [hsecond]
    exact hfirst

theorem replaceTaskIdentity_delivers (hkept : WellKept s) (k : RowKey)
    (expected parent branch head : String) (baseBranch baseSha : Option String)
    (priority : Option Int) (submittedAt : Option String) (now : String) :
    Delivers ((QueueOp.replaceTaskIdentity k expected parent branch head baseBranch baseSha
        priority submittedAt now).deliver rt) (fun _ => none) s
      (s.replaceTaskIdentity rt k expected parent branch head baseBranch baseSha
        priority submittedAt now).1 := by
  unfold IntegrationQueueStore.replaceTaskIdentity
  split
  · rename_i hempty
    apply Delivers.same _ (fun _ _ => rfl)
    intro row _
    simp [QueueOp.deliver, hempty]
  · rename_i hnamed
    apply casUpdate_fires hkept (fun _ => rfl)
    · exact fun _ _ => rfl
    · intro row _
      simp only [hnamed, not_false_eq_true, true_and, Bool.and_eq_true,
        decide_eq_true_eq, Option.isNone_iff_eq_none]
      tauto
    · exact fun _ => rfl

theorem prepareTaskRebase_delivers (hkept : WellKept s) (k : RowKey) (expected base now : String) :
    Delivers ((QueueOp.prepareTaskRebase k expected base now).deliver rt)
      (fun _ => none) s (s.prepareTaskRebase rt k expected base now).1 := by
  unfold IntegrationQueueStore.prepareTaskRebase
  split
  · rename_i hempty
    apply Delivers.same _ (fun _ _ => rfl)
    intro row _
    simp [QueueOp.deliver, hempty]
  · rename_i hnamed
    split
    · rename_i habsent
      apply Delivers.idle k
      · intro row hrow hkey
        exact absurd hkey (rowAt_eq_none.mp habsent row hrow)
      · intro row hkey
        simp [QueueOp.deliver, hkey]
    · rename_i item hitem
      have hsame := hkept.eq_of_get hitem
      have hother : forall row : IntegrationQueueItem, row.key ≠ k ->
          (QueueOp.prepareTaskRebase k expected base now).deliver rt row =
            none := by
        intro row hkey
        simp [QueueOp.deliver, hkey]
      split
      · apply Delivers.idle k _ hother
        intro row hrow hkey
        rw [QueueOp.deliver, if_neg]
        grind
      · rename_i haccepted
        split
        · rename_i hpending
          apply Delivers.idle k _ hother
          intro row hrow hkey
          rw [hsame row hrow hkey]
          simp [QueueOp.deliver, hpending]
        · rename_i hidle
          apply casUpdate_fires hkept (fun _ => rfl)
          · exact fun _ _ => rfl
          · intro row hrow
            constructor
            · grind
            · rintro ⟨hkey, -, -⟩
              obtain rfl := hsame row hrow hkey
              simp only [not_or, ne_eq, not_not, Bool.not_eq_true,
                Option.isSome_eq_false_iff, Option.isNone_iff_eq_none] at haccepted
              exact ⟨hkey, hnamed, haccepted.left, haccepted.right.left,
                haccepted.right.right.left, haccepted.right.right.right,
                Bool.eq_false_iff.mpr hidle⟩
          · exact fun _ => rfl

theorem prepareTaskPublication_delivers (hkept : WellKept s) (k : RowKey)
    (expected replacement : String) (baseSha : Option String) (now : String) :
    Delivers ((QueueOp.prepareTaskPublication k expected replacement baseSha now).deliver
        rt) (fun _ => none) s
      (s.prepareTaskPublication rt k expected replacement baseSha now).1 := by
  unfold IntegrationQueueStore.prepareTaskPublication
  have hother : forall row : IntegrationQueueItem, row.key ≠ k ->
      (QueueOp.prepareTaskPublication k expected replacement baseSha now).deliver
        rt row = none := by
    intro row hkey
    simp [QueueOp.deliver, hkey]
  split
  · rename_i hempty
    apply Delivers.idle k _ hother
    intro row _ _
    simp [QueueOp.deliver, hempty]
  · rename_i hnamed
    split
    · rename_i habsent
      apply Delivers.idle k _ hother
      intro row hrow hkey
      exact absurd hkey (rowAt_eq_none.mp habsent row hrow)
    · rename_i item hitem
      have hsame := hkept.eq_of_get hitem
      split
      · apply Delivers.idle k _ hother
        intro row hrow hkey
        rw [QueueOp.deliver, if_neg]
        grind
      · rename_i haccepted
        simp only [not_or, ne_eq, not_not, Bool.not_eq_true,
          Option.isSome_eq_false_iff, Option.isNone_iff_eq_none] at haccepted
        split
        · rename_i hpublished
          apply Delivers.idle k _ hother
          intro row hrow hkey
          rw [hsame row hrow hkey]
          simp [QueueOp.deliver, hpublished.right]
        · split
          · rename_i hpending
            apply Delivers.idle k _ hother
            intro row hrow hkey
            rw [hsame row hrow hkey]
            simp [QueueOp.deliver, hpending]
          · rename_i hidle
            apply casUpdate_fires hkept (fun _ => rfl)
            · exact fun _ _ => rfl
            · intro row hrow
              constructor
              · rintro ⟨hkey, -, -, hready, hfree, -⟩
                simp [hkey, hready, hfree]
              · rintro ⟨hkey, -, -⟩
                obtain rfl := hsame row hrow hkey
                exact ⟨hkey, hnamed, haccepted.left, haccepted.right.left,
                  haccepted.right.right, Bool.eq_false_iff.mpr hidle⟩
            · exact fun _ => rfl

theorem normalizeLegacyTrackerCheckpoint_delivers (hkept : WellKept s) (k : RowKey)
    (expected branch replacement landed : String) (baseSha : Option String)
    (now : String) :
    Delivers ((QueueOp.normalizeLegacyTrackerCheckpoint k expected branch replacement landed
        baseSha now).deliver rt) (fun _ => none) s
      (s.normalizeLegacyTrackerCheckpoint rt k expected branch replacement
        landed baseSha now).1 := by
  unfold IntegrationQueueStore.normalizeLegacyTrackerCheckpoint
  split
  · rename_i hempty
    apply Delivers.same _ (fun _ _ => rfl)
    intro row _
    simp [QueueOp.deliver, hempty]
  · rename_i hnamed
    apply casHistory_fires hkept _ (fun _ => rfl)
    · intro row _
      simp only [hnamed, not_false_eq_true, true_and, Bool.and_eq_true,
        Bool.or_eq_true, decide_eq_true_eq, Option.isNone_iff_eq_none,
        Bool.not_eq_eq_eq_not, Bool.not_true]
      tauto
    · exact fun _ _ => rfl
    · exact fun _ _ _ => rfl

theorem checkpointLegacyIntegration_delivers (hkept : WellKept s) (k : RowKey)
    (owner branch predecessor rebased landed : String) (baseSha : Option String)
    (now : String) :
    Delivers ((QueueOp.checkpointLegacyIntegration k owner branch predecessor rebased landed
        baseSha now).deliver rt) (fun _ => none) s
      (s.checkpointLegacyIntegration k owner branch predecessor rebased landed baseSha now).1 := by
  unfold IntegrationQueueStore.checkpointLegacyIntegration
  split
  · rename_i hempty
    apply Delivers.same _ (fun _ _ => rfl)
    intro row _
    simp [QueueOp.deliver, hempty]
  · rename_i hnamed
    apply casHistory_fires hkept _ (fun _ => rfl)
    · intro row _
      simp only [hnamed, not_false_eq_true, true_and, Bool.and_eq_true, decide_eq_true_eq]
      tauto
    · exact fun _ _ => rfl
    · exact fun _ _ _ => rfl

theorem restoreCancelled_delivers (hkept : WellKept s) (k : RowKey)
    (x : IntegrationQueueStore.RestoreRequest) (now : String) :
    Delivers ((QueueOp.restoreCancelled k x now).deliver rt) (fun _ => none) s
      (IntegrationQueueStore.restoreCancelled rt s k x now).1 := by
  apply casUpdate_fires hkept (fun _ => rfl)
  · exact fun _ _ => rfl
  · intro row _
    simp only [Bool.and_eq_true, decide_eq_true_eq]
    tauto
  · exact fun _ => rfl

theorem recordCandidate_delivers (hkept : WellKept s) (k : RowKey)
    (leaseOwner expectedHeadSha : String) (expectedCandidateHeadSha : Option String)
    (candidate base now : String) :
    Delivers ((QueueOp.recordCandidate k leaseOwner expectedHeadSha expectedCandidateHeadSha
        candidate base now).deliver rt) (fun _ => none) s
      (s.recordCandidate k leaseOwner expectedHeadSha expectedCandidateHeadSha
        candidate base now).1 := by
  unfold IntegrationQueueStore.recordCandidate
  split
  · rename_i hempty
    apply Delivers.same _ (fun _ _ => rfl)
    intro row _
    simp [QueueOp.deliver, hempty]
  · rename_i hnamed
    dsimp only
    split
    · rename_i hcount
      apply Delivers.idle k
      · intro row hrow hkey
        rw [QueueOp.deliver, if_neg]
        rintro ⟨-, -, hleased, hhead, hcandidate⟩
        apply hcount
        refine countWhere_eq_one hkept.keys ?_ hrow ?_
        · simp [hkey, hleased, hhead, hcandidate]
        · intro other hother
          simp only [Bool.and_eq_true, decide_eq_true_eq] at hother
          exact hother.left.left.left.trans hkey.symm
      · intro row hkey
        simp [QueueOp.deliver, hkey]
    · refine Delivers.updates rfl (fun _ _ => rfl) ?_ (fun _ _ => rfl)
      intro row _
      by_cases hfires : row.key = k ∧ leasedTo leaseOwner row = true ∧
          row.headSha = expectedHeadSha ∧
          row.candidateHeadSha = expectedCandidateHeadSha
      · rcases hfires with ⟨hkey, hleased, hhead, hcandidate⟩
        simp [QueueOp.deliver, hkey, hnamed, hleased, hhead, hcandidate,
          IntegrationQueueItem.delivery]
      · rw [QueueOp.deliver, if_neg, if_neg]
        · rfl
        · simp only [Bool.and_eq_true, decide_eq_true_eq]
          tauto
        · tauto

theorem apply_delivers (rt : QueueRuntime) (hkept : WellKept s) (op : QueueOp) :
    Delivers (op.deliver rt) op.fresh s (op.apply rt s) := by
  cases op with
  | openStore =>
    show Delivers _ _ s s.openStore
    rw [hkept.openStore_eq]
    exact Delivers.same (fun _ _ => rfl) (fun _ _ => rfl)
  | enqueue x now => exact enqueue_delivers hkept x now
  | enqueueIfAbsent x now => exact enqueueIfAbsent_delivers x now
  | replaceTaskIdentity => apply replaceTaskIdentity_delivers hkept
  | retireTaskGeneration k expected message action now =>
    show Delivers _ _ s (s.retireTaskGeneration rt k expected message action now).1
    unfold IntegrationQueueStore.retireTaskGeneration
    split
    · exact Delivers.same (fun _ _ => rfl) (fun _ _ => rfl)
    · exact casUpdate_kept (fun _ _ => ⟨rfl, rfl⟩)
  | prepareTaskRebase => apply prepareTaskRebase_delivers hkept
  | abortTaskRebase k expected now =>
    show Delivers _ _ s (s.abortTaskRebase rt k expected now).1
    unfold IntegrationQueueStore.abortTaskRebase
    split
    · exact Delivers.same (fun _ _ => rfl) (fun _ _ => rfl)
    · exact casUpdate_kept (fun _ _ => ⟨rfl, rfl⟩)
  | prepareTaskPublication => apply prepareTaskPublication_delivers hkept
  | completeTaskPublication k expected published now =>
    show Delivers _ _ s (s.completeTaskPublication rt k expected published now).1
    unfold IntegrationQueueStore.completeTaskPublication
    split
    · exact Delivers.same (fun _ _ => rfl) (fun _ _ => rfl)
    · exact casUpdate_kept (fun _ _ => ⟨rfl, rfl⟩)
  | consumeRetryGeneration k expected now =>
    show Delivers _ _ s (s.consumeRetryGeneration rt k expected now).1
    unfold IntegrationQueueStore.consumeRetryGeneration
    split
    · exact Delivers.same (fun _ _ => rfl) (fun _ _ => rfl)
    · split
      · exact Delivers.same (fun _ _ => rfl) (fun _ _ => rfl)
      · split
        · exact Delivers.same (fun _ _ => rfl) (fun _ _ => rfl)
        · split
          · exact casUpdate_kept (fun _ _ => ⟨rfl, rfl⟩)
          · exact Delivers.same (fun _ _ => rfl) (fun _ _ => rfl)
  | recoverExpired => exact kept_delivers rfl (fun _ => ⟨rfl, rfl⟩)
  | recoverAbandoned => exact kept_delivers rfl (fun _ => ⟨rfl, rfl⟩)
  | recoverTaskGeneration k expected timestamp now =>
    show Delivers _ _ s (s.recoverTaskGeneration rt k expected timestamp now).1
    unfold IntegrationQueueStore.recoverTaskGeneration
    split
    · exact Delivers.same (fun _ _ => rfl) (fun _ _ => rfl)
    · split
      · exact Delivers.same (fun _ _ => rfl) (fun _ _ => rfl)
      · exact casUpdate_kept (fun _ _ => ⟨rfl, rfl⟩)
  | finishTaskGeneration k expected state error retryAt integratedSha now =>
    show Delivers _ _ s
      (s.finishTaskGeneration rt k expected state error retryAt integratedSha now).1
    unfold IntegrationQueueStore.finishTaskGeneration
    dsimp only
    split
    · exact Delivers.same (fun _ _ => rfl) (fun _ _ => rfl)
    · split
      · exact casHistory_kept (fun _ _ _ => ⟨rfl, rfl⟩)
      · exact casUpdate_kept (fun _ _ => ⟨rfl, rfl⟩)
  | normalizeLegacyTrackerCheckpoint =>
    apply normalizeLegacyTrackerCheckpoint_delivers hkept
  | claimNext => apply claimNext_kept
  | recordCandidate => apply recordCandidate_delivers hkept
  | checkpointLegacyIntegration => apply checkpointLegacyIntegration_delivers hkept
  | complete k leaseOwner now => exact finish_kept k leaseOwner _ _ _ now
  | fail k leaseOwner error retryable retryAt now =>
    exact finish_kept k leaseOwner _ _ _ now
  | blockPreflight => exact kept_delivers rfl (fun _ => ⟨rfl, rfl⟩)
  | cancel => exact kept_delivers rfl (fun _ => ⟨rfl, rfl⟩)
  | restoreCancelled => apply restoreCancelled_delivers hkept
  | retryIntegratedAfterTrackerFailure => exact kept_delivers rfl (fun _ => ⟨rfl, rfl⟩)

end Operations
end Integration
end Oompah
