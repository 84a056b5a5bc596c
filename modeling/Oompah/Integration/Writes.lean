import Oompah.Integration.System

/-!
# What one operation writes

Each operation rewrites rows in place or inserts one fresh row.  `Reach` says
what the rewrites of an operation may do: whose lease they require, which row
they submit anew, whom they lease to, which row they land and which they take
back.
-/

namespace Oompah
namespace Integration

open Foundation
open IntegrationQueueStore (ClaimRequest Submission claimable leaseExpired leasedTo releaseLease)

structure Reach where
  heldBy : Option String := none
  reopens : RowKey -> Prop := fun _ => False
  claims : Option String := none
  landing : Option RowKey := none
  takesBack : Option RowKey := none

namespace QueueOp

/-- The row an operation may move to integrated. -/
def landing : QueueOp -> Option RowKey
  | finishTaskGeneration k _ _ _ _ _ _ => some k
  | normalizeLegacyTrackerCheckpoint k _ _ _ _ _ _ => some k
  | checkpointLegacyIntegration k _ _ _ _ _ _ _ => some k
  | complete k _ _ => some k
  | _ => none

/-- The row whose landing an operation may take back. -/
def takesBack : QueueOp -> Option RowKey
  | retryIntegratedAfterTrackerFailure k _ _ _ _ => some k
  | _ => none

def reach (s : IntegrationQueueStore) (op : QueueOp) : Reach :=
  { heldBy := op.leaseOwner?
    reopens := op.mayReopen
    claims := op.claims? s
    landing := op.landing
    takesBack := op.takesBack }

end QueueOp

namespace IntegrationQueueItem

/-- A state that is neither leased nor landed, with the lease columns cleared. -/
structure Resting (row : IntegrationQueueItem) : Prop where
  notLeased : row.state ≠ .integrating
  notLanded : row.state ≠ .integrated
  owner : row.leaseOwner = none
  expires : row.leaseExpiresAt = none

end IntegrationQueueItem

/-- How one row may change, by what the change does to its state and lease. -/
inductive Rewrite (x : Reach) (before after : Nat) (row row' : IntegrationQueueItem) : Prop
  | edits (hstate : row'.state = row.state) (howner : row'.leaseOwner = row.leaseOwner)
      (hexpires : row'.leaseExpiresAt = row.leaseExpiresAt)
      (hhistory : row'.historySequence = row.historySequence)
      (hepic : row'.epicId = row.epicId)
  | rests (hfrom : row.state = .integrated -> x.reopens row.key) (hrest : row'.Resting)
      (hhistory : row'.historySequence = 0 ∨ row'.historySequence = row.historySequence ∧
        (row.state = .integrated -> x.takesBack = some row.key))
  | leases (owner : String) (expires : Int) (hclaims : x.claims = some owner)
      (hfrom : row.state = .ready ∨ row.state = .integrating)
      (hstate : row'.state = .integrating) (howner : row'.leaseOwner = some owner)
      (hexpires : row'.leaseExpiresAt = some expires)
      (hhistory : row'.historySequence = row.historySequence)
  | lands (hlanding : x.landing = some row.key) (hstate : row'.state = .integrated)
      (hlease : row'.leaseOwner = none ∧ row'.leaseExpiresAt = none ∨
        row.state ≠ .integrating ∧ row'.leaseOwner = row.leaseOwner ∧
          row'.leaseExpiresAt = row.leaseExpiresAt)
      (hcounted : after = before + 1) (hhistory : row'.historySequence = after)

/-- A rewrite keeps the key and requires the lease the operation is called with. -/
structure Rewritten (x : Reach) (before after : Nat)
    (row row' : IntegrationQueueItem) : Prop where
  key : row'.key = row.key
  held : forall owner, x.heldBy = some owner -> IntegrationQueueStore.leasedTo owner row = true
  kind : Rewrite x before after row row'

/-- A row that is submitted for the first time. -/
structure Submitted (s : IntegrationQueueStore) (row : IntegrationQueueItem) :
    Prop where
  absent : s.get row.key = none
  state : row.state = .ready
  owner : row.leaseOwner = none
  expires : row.leaseExpiresAt = none
  history : row.historySequence = 0

inductive WroteRows (x : Reach) (s s' : IntegrationQueueStore) : Prop
  | rewrote (f : IntegrationQueueItem -> IntegrationQueueItem) (hrows : s'.rows = s.rows.map f)
      (hf : forall row, row ∈ s.rows -> f row = row ∨ Rewritten x s.history s'.history row (f row))
  | inserted (hheld : x.heldBy = none) (fresh : IntegrationQueueItem)
      (hrows : s'.rows = s.rows ++ [fresh]) (hfresh : Submitted s fresh)

structure Wrote (x : Reach) (s s' : IntegrationQueueStore) : Prop where
  history : s'.history = s.history ∨ s'.history = s.history + 1
  rows : WroteRows x s s'

section Rules

variable {x : Reach} {s : IntegrationQueueStore} {k : RowKey}
variable {check condition : IntegrationQueueItem -> Bool}

theorem Wrote.same (x : Reach) (s : IntegrationQueueStore) : Wrote x s s := by
  constructor
  · exact .inl rfl
  · exact .rewrote id (List.map_id _).symm (fun _ _ => Or.inl rfl)

theorem Wrote.inserts {fresh : IntegrationQueueItem} (hheld : x.heldBy = none)
    (h : Submitted s fresh) :
    Wrote x s (s.insert fresh) := by
  constructor
  · exact .inl rfl
  · exact .inserted hheld fresh rfl h

variable {set : IntegrationQueueItem -> IntegrationQueueItem}

theorem Wrote.counts {s' : IntegrationQueueStore}
    (hhistory : s'.history = s.history ∨ s'.history = s.history + 1)
    (hrows : s'.rows = updateWhere s.rows condition set) (h : forall row, condition row = true ->
      Rewritten x s.history s'.history row (set row)) : Wrote x s s' := by
  constructor
  · exact hhistory
  · apply WroteRows.rewrote (fun row => if condition row then set row else row) hrows
    intro row _
    cases hrow : condition row with
    | false => exact .inl (by simp)
    | true => exact .inr (by simpa using h row hrow)

theorem Wrote.updates (h : forall row, condition row = true ->
      Rewritten x s.history s.history row (set row)) :
    Wrote x s (s.update condition set) :=
  Wrote.counts (Or.inl rfl) rfl h

theorem casUpdate_wrote {set : IntegrationQueueItem -> IntegrationQueueItem -> IntegrationQueueItem}
    (h : forall item row, check item = true -> condition row = true -> row.key = k ->
      Rewritten x s.history s.history row (set item row)) :
    Wrote x s (s.casUpdate k check condition set).1 := by
  unfold IntegrationQueueStore.casUpdate
  split
  · exact Wrote.same x s
  · rename_i item _
    split
    · rename_i hcheck
      apply Wrote.updates
      intro row hrow
      rw [Bool.and_eq_true, decide_eq_true_eq] at hrow
      exact h item row hcheck hrow.right hrow.left
    · exact Wrote.same x s

theorem casHistory_wrote {set : Nat -> IntegrationQueueItem -> IntegrationQueueItem ->
      IntegrationQueueItem}
    (h : forall item row, check item = true -> condition row = true -> row.key = k ->
      Rewritten x s.history (s.history + 1) row (set (s.history + 1) item row)) :
    Wrote x s (s.casHistory k check condition set).1 := by
  unfold IntegrationQueueStore.casHistory
  split
  · exact Wrote.same x s
  · rename_i item _
    split
    · rename_i hcheck
      apply Wrote.counts (Or.inr rfl) rfl
      intro row hrow
      rw [Bool.and_eq_true, decide_eq_true_eq] at hrow
      exact h item row hcheck hrow.right hrow.left
    · exact Wrote.same x s

theorem held_of_none (h : x.heldBy = none) (row : IntegrationQueueItem) :
    forall owner, x.heldBy = some owner -> leasedTo owner row = true := by
  intro owner howner
  rw [h] at howner
  cases howner

/-!
# Submissions
-/

theorem enqueue_wrote (submission : Submission) (now : String)
    (hheld : x.heldBy = none) (hreopens : x.reopens submission.key) :
    Wrote x s (s.enqueue rt submission now).1 := by
  unfold IntegrationQueueStore.enqueue
  split
  · exact Wrote.same x s
  · split
    · rename_i habsent
      exact Wrote.inserts hheld ⟨habsent, rfl, rfl, rfl, rfl⟩
    · split
      · exact Wrote.same x s
      · apply Wrote.updates
        intro row hrow
        rw [decide_eq_true_eq] at hrow
        constructor
        · exact hrow.symm
        · exact held_of_none hheld row
        · apply Rewrite.rests
          · intro _
            rw [hrow]
            exact hreopens
          · exact ⟨nofun, nofun, rfl, rfl⟩
          · exact .inl rfl

theorem enqueueIfAbsent_wrote (submission : Submission)
    (now : String) (hheld : x.heldBy = none) :
    Wrote x s (s.enqueueIfAbsent rt submission now).1 := by
  unfold IntegrationQueueStore.enqueueIfAbsent
  split
  · exact Wrote.same x s
  · split
    · exact Wrote.same x s
    · rename_i habsent
      exact Wrote.inserts hheld ⟨habsent, rfl, rfl, rfl, rfl⟩

/-!
# Compare-and-swap of one row
-/

section Authority

variable {rt : QueueRuntime}

theorem replaceTaskIdentity_wrote (hheld : x.heldBy = none) (hreopens : x.reopens k)
    (expected parent branch head : String) (baseBranch baseSha : Option String)
    (priority : Option Int) (submittedAt : Option String) (now : String) :
    Wrote x s (s.replaceTaskIdentity rt k expected parent branch head baseBranch
        baseSha priority submittedAt now).1 := by
  unfold IntegrationQueueStore.replaceTaskIdentity
  split
  · exact Wrote.same x s
  · apply casUpdate_wrote
    intro item row _ _ hkey
    constructor
    · rfl
    · exact held_of_none hheld row
    · apply Rewrite.rests
      · intro _
        rw [hkey]
        exact hreopens
      · exact ⟨nofun, nofun, rfl, rfl⟩
      · exact .inl rfl

theorem retireTaskGeneration_wrote (hheld : x.heldBy = none)
    (expected message : String) (action : IntegrationQueueItem -> Bool)
    (now : String) :
    Wrote x s (s.retireTaskGeneration rt k expected message action now).1 := by
  unfold IntegrationQueueStore.retireTaskGeneration
  split
  · exact Wrote.same x s
  · apply casUpdate_wrote
    intro item row _ hrow _
    constructor
    · rfl
    · exact held_of_none hheld row
    · apply Rewrite.rests
      · intro hlanded
        simp [hlanded] at hrow
      · exact ⟨nofun, nofun, rfl, rfl⟩
      · refine .inr ⟨rfl, ?_⟩
        intro hlanded
        simp [hlanded] at hrow

theorem edits_wrote (hheld : x.heldBy = none)
    {set : IntegrationQueueItem -> IntegrationQueueItem -> IntegrationQueueItem}
    (hset : forall item row, (set item row).key = row.key ∧
      (set item row).state = row.state ∧ (set item row).leaseOwner = row.leaseOwner ∧
      (set item row).leaseExpiresAt = row.leaseExpiresAt ∧
      (set item row).historySequence = row.historySequence ∧
      (set item row).epicId = row.epicId) :
    Wrote x s (s.casUpdate k check condition set).1 := by
  apply casUpdate_wrote
  intro item row _ _ _
  rcases hset item row with ⟨hkey, hstate, howner, hexpires, hhistory, hepic⟩
  constructor
  · exact hkey
  · exact held_of_none hheld row
  · exact .edits hstate howner hexpires hhistory hepic

theorem prepareTaskRebase_wrote (hheld : x.heldBy = none) (expected base now : String) :
    Wrote x s (s.prepareTaskRebase rt k expected base now).1 := by
  unfold IntegrationQueueStore.prepareTaskRebase
  split
  · exact Wrote.same x s
  · split
    · exact Wrote.same x s
    · split
      · exact Wrote.same x s
      · split
        · exact Wrote.same x s
        · exact edits_wrote hheld (fun _ _ => ⟨rfl, rfl, rfl, rfl, rfl, rfl⟩)

theorem abortTaskRebase_wrote (hheld : x.heldBy = none) (expected now : String) :
    Wrote x s (s.abortTaskRebase rt k expected now).1 := by
  unfold IntegrationQueueStore.abortTaskRebase
  split
  · exact Wrote.same x s
  · exact edits_wrote hheld (fun _ _ => ⟨rfl, rfl, rfl, rfl, rfl, rfl⟩)

theorem prepareTaskPublication_wrote (hheld : x.heldBy = none)
    (expected replacement : String) (baseSha : Option String) (now : String) :
    Wrote x s (s.prepareTaskPublication rt k expected replacement baseSha now).1 := by
  unfold IntegrationQueueStore.prepareTaskPublication
  split
  · exact Wrote.same x s
  · split
    · exact Wrote.same x s
    · split
      · exact Wrote.same x s
      · split
        · exact Wrote.same x s
        · split
          · exact Wrote.same x s
          · exact edits_wrote hheld (fun _ _ => ⟨rfl, rfl, rfl, rfl, rfl, rfl⟩)

theorem completeTaskPublication_wrote (hheld : x.heldBy = none) (expected published now : String) :
    Wrote x s (s.completeTaskPublication rt k expected published now).1 := by
  unfold IntegrationQueueStore.completeTaskPublication
  split
  · exact Wrote.same x s
  · exact edits_wrote hheld (fun _ _ => ⟨rfl, rfl, rfl, rfl, rfl, rfl⟩)

theorem consumeRetryGeneration_wrote (hheld : x.heldBy = none) (expected now : String) :
    Wrote x s (s.consumeRetryGeneration rt k expected now).1 := by
  unfold IntegrationQueueStore.consumeRetryGeneration
  split
  · exact Wrote.same x s
  · split
    · exact Wrote.same x s
    · split
      · exact Wrote.same x s
      · split
        · exact edits_wrote hheld (fun _ _ => ⟨rfl, rfl, rfl, rfl, rfl, rfl⟩)
        · exact Wrote.same x s

theorem recoverTaskGeneration_wrote (hheld : x.heldBy = none) (expected : String)
    (timestamp : Int) (now : String) :
    Wrote x s (s.recoverTaskGeneration rt k expected timestamp now).1 := by
  unfold IntegrationQueueStore.recoverTaskGeneration
  split
  · exact Wrote.same x s
  · split
    · exact Wrote.same x s
    · apply casUpdate_wrote
      intro item row _ hrow _
      constructor
      · rfl
      · exact held_of_none hheld row
      · apply Rewrite.rests
        · intro hlanded
          simp [hlanded] at hrow
        · exact ⟨nofun, nofun, rfl, rfl⟩
        · refine .inr ⟨rfl, ?_⟩
          intro hlanded
          simp [hlanded] at hrow

theorem finishTaskGeneration_wrote (hheld : x.heldBy = none)
    (hlanding : x.landing = some k) (expected : String) (state : QueueState)
    (error : Option String) (retryAt : Option Int) (integratedSha : Option String)
    (now : String) :
    Wrote x s (s.finishTaskGeneration rt k expected state error retryAt integratedSha now).1 := by
  unfold IntegrationQueueStore.finishTaskGeneration
  by_cases haccepted : expected = "" ∨ state ∉ IntegrationQueueStore.finishStates
  · rw [if_pos haccepted]
    exact Wrote.same x s
  · rw [if_neg haccepted]
    by_cases hstate : state = .integrated
    · rw [if_pos hstate]
      apply casHistory_wrote
      intro item row _ _ hkey
      constructor
      · rfl
      · exact held_of_none hheld row
      · apply Rewrite.lands
        · rw [hkey]
          exact hlanding
        · exact hstate
        · exact .inl ⟨rfl, rfl⟩
        · rfl
        · rfl
    · rw [if_neg hstate]
      apply casUpdate_wrote
      intro item row _ hrow _
      constructor
      · rfl
      · exact held_of_none hheld row
      · apply Rewrite.rests
        · intro hlanded
          simp [hlanded] at hrow
        · refine ⟨?_, hstate, rfl, rfl⟩
          rintro rfl
          exact haccepted (Or.inr (by decide))
        · exact .inl rfl

theorem normalizeLegacyTrackerCheckpoint_wrote (hheld : x.heldBy = none)
    (hlanding : x.landing = some k) (expected branch replacement landed : String)
    (baseSha : Option String) (now : String) :
    Wrote x s (s.normalizeLegacyTrackerCheckpoint rt k expected branch replacement
        landed baseSha now).1 := by
  unfold IntegrationQueueStore.normalizeLegacyTrackerCheckpoint
  split
  · exact Wrote.same x s
  · apply casHistory_wrote
    intro item row _ hrow hkey
    constructor
    · rfl
    · exact held_of_none hheld row
    · apply Rewrite.lands
      · rw [hkey]
        exact hlanding
      · rfl
      · refine .inr ⟨?_, rfl, rfl⟩
        intro hleased
        simp [hleased] at hrow
      · rfl
      · rfl

end Authority

/-!
# Leases
-/

theorem releaseLease_resting (row : IntegrationQueueItem) (now : String) :
    (releaseLease now row).Resting :=
  ⟨nofun, nofun, rfl, rfl⟩

variable {row : IntegrationQueueItem}

theorem releaseLease_rewrite (hstate : row.state = .integrating)
    (before after : Nat) (now : String) :
    Rewrite x before after row (releaseLease now row) := by
  have hlanded : row.state ≠ .integrated := by
    rw [hstate]
    exact nofun
  apply Rewrite.rests
  · intro hfrom
    exact absurd hfrom hlanded
  · exact releaseLease_resting row now
  · exact .inr ⟨rfl, fun hfrom => absurd hfrom hlanded⟩

theorem leaseExpired_state {timestamp : Int} (h : leaseExpired timestamp row = true) :
    row.state = .integrating := by
  unfold leaseExpired at h
  rw [Bool.and_eq_true, decide_eq_true_eq] at h
  exact h.left

theorem recoverExpired_wrote (hheld : x.heldBy = none) (timestamp : Int)
    (now : String) : Wrote x s (s.recoverExpired timestamp now).1 := by
  apply Wrote.updates
  intro row hrow
  constructor
  · rfl
  · exact held_of_none hheld row
  · exact releaseLease_rewrite (leaseExpired_state hrow) _ _ now

theorem recoverAbandoned_wrote (hheld : x.heldBy = none) (now : String) :
    Wrote x s (s.recoverAbandoned now).1 := by
  apply Wrote.updates
  intro row hrow
  rw [decide_eq_true_eq] at hrow
  constructor
  · rfl
  · exact held_of_none hheld row
  · exact releaseLease_rewrite hrow _ _ now

theorem get_update (hkey : forall row, condition row = true -> (set row).key = row.key) :
    (s.update condition set).get k =
      (s.get k).map (fun row => if condition row then set row else row) :=
  rowAt_updateWhere hkey k

theorem claimable_iff : claimable k row = true <-> row.key = k ∧ row.state = .ready := by
  simp [claimable]

theorem claimNext_cases (s : IntegrationQueueStore)
    (request : ClaimRequest) (timestamp : Int) (now : String) :
    (s.claimNext request timestamp now).1 = s ∨
      (s.claimNext request timestamp now).1 = (s.recoverExpired timestamp now).1 ∨
      (s.claimNext request timestamp now).2.isSome = true ∧
        exists k, (s.claimNext request timestamp now).1 = (s.recoverExpired timestamp now).1.update
            (claimable k) (request.takeLease timestamp now) := by
  unfold IntegrationQueueStore.claimNext
  dsimp only
  cases hselect : request.select timestamp (s.recoverExpired timestamp now).1.rows with
  | none => exact .inr (Or.inl rfl)
  | some selected =>
    dsimp only
    generalize hk : ({ projectId := request.projectId, taskId := selected.taskId } : RowKey) = k
    by_cases hcount : countWhere (s.recoverExpired timestamp now).1.rows (claimable k) = 1
    · rw [if_neg (fun hne => hne hcount)]
      refine .inr (Or.inr ⟨?_, k, rfl⟩)
      rcases exists_of_countWhere_ne_zero (by rw [hcount]; decide) with
        ⟨row, hrow, hcondition⟩
      rw [Option.isSome_map, ← (claimable_iff.mp hcondition).left]
      have hkey : forall old, claimable row.key old = true ->
          (request.takeLease timestamp now old).key = old.key := fun _ _ => rfl
      rw [get_update hkey, Option.isSome_map]
      exact rowAt_isSome hrow
    · rw [if_pos hcount]
      exact .inl rfl

/-- A claim first recovers expired leases, so the row it takes may have been leased. -/
theorem claimNext_wrote (request : ClaimRequest)
    (timestamp : Int) (now : String) (hheld : x.heldBy = none)
    (hclaims : (s.claimNext request timestamp now).2.isSome = true ->
      x.claims = some request.leaseOwner) :
    Wrote x s (s.claimNext request timestamp now).1 := by
  rcases claimNext_cases s request timestamp now with
    hsame | hrecovered | ⟨htook, k', htaken⟩
  · rw [hsame]
    exact Wrote.same x s
  · rw [hrecovered]
    exact recoverExpired_wrote hheld timestamp now
  · rw [htaken]
    have howner := hclaims htook
    constructor
    · exact .inl rfl
    · apply WroteRows.rewrote ((fun row => if claimable k' row then
            request.takeLease timestamp now row else row) ∘
          (fun row => if leaseExpired timestamp row then
            releaseLease now row else row))
        (List.map_map ..)
      intro row _
      rw [Function.comp_apply]
      by_cases hexpired : leaseExpired timestamp row = true
      · right
        rw [if_pos hexpired]
        have hstate := leaseExpired_state hexpired
        split
        · constructor
          · rfl
          · exact held_of_none hheld row
          · exact Rewrite.leases request.leaseOwner _ howner (Or.inr hstate) rfl rfl rfl rfl
        · constructor
          · rfl
          · exact held_of_none hheld row
          · exact releaseLease_rewrite hstate _ _ now
      · rw [if_neg hexpired]
        split
        · rename_i hclaimable
          right
          constructor
          · rfl
          · exact held_of_none hheld row
          · exact Rewrite.leases request.leaseOwner _ howner
              (Or.inl (claimable_iff.mp hclaimable).right) rfl rfl rfl rfl
        · exact .inl rfl

variable {owner : String}

theorem held_of_leasedTo (hheld : x.heldBy = some owner) (h : leasedTo owner row = true) :
    forall owner', x.heldBy = some owner' -> leasedTo owner' row = true := by
  intro owner' howner
  rw [hheld] at howner
  cases howner
  exact h

theorem leasedTo_state (h : leasedTo owner row = true) : row.state = .integrating := by
  unfold leasedTo at h
  rw [Bool.and_eq_true, decide_eq_true_eq] at h
  exact h.left

theorem recordCandidate_wrote {leaseOwner : String} (hheld : x.heldBy = some leaseOwner)
    (expectedHeadSha : String) (expectedCandidateHeadSha : Option String)
    (candidate base now : String) :
    Wrote x s (s.recordCandidate k leaseOwner expectedHeadSha expectedCandidateHeadSha
        candidate base now).1 := by
  unfold IntegrationQueueStore.recordCandidate
  split
  · exact Wrote.same x s
  · dsimp only
    split
    · exact Wrote.same x s
    · apply Wrote.updates
      intro row hrow
      simp only [Bool.and_eq_true] at hrow
      constructor
      · rfl
      · exact held_of_leasedTo hheld hrow.left.left.right
      · exact .edits rfl rfl rfl rfl rfl

theorem checkpointLegacyIntegration_wrote
    (hheld : x.heldBy = some owner) (hlanding : x.landing = some k)
    (branch predecessor rebased landed : String) (baseSha : Option String) (now : String) :
    Wrote x s (s.checkpointLegacyIntegration k owner branch predecessor rebased landed
        baseSha now).1 := by
  unfold IntegrationQueueStore.checkpointLegacyIntegration
  split
  · exact Wrote.same x s
  · apply casHistory_wrote
    intro item row _ hrow hkey
    simp only [Bool.and_eq_true] at hrow
    constructor
    · rfl
    · exact held_of_leasedTo hheld hrow.left.left
    · apply Rewrite.lands
      · rw [hkey]
        exact hlanding
      · rfl
      · exact .inl ⟨rfl, rfl⟩
      · rfl
      · rfl

theorem finish_wrote {leaseOwner : String} (hheld : x.heldBy = some leaseOwner)
    {state : QueueState} (hlanding : state = .integrated -> x.landing = some k)
    (hstate : state ≠ .integrating) (lastError : Option String)
    (nextRetryAt : Option Int) (now : String) :
    Wrote x s (s.finish k leaseOwner state lastError nextRetryAt now).1 := by
  unfold IntegrationQueueStore.finish
  split
  · rename_i hlanded
    apply casHistory_wrote
    intro item row _ hrow hkey
    constructor
    · rfl
    · exact held_of_leasedTo hheld hrow
    · apply Rewrite.lands
      · rw [hkey]
        exact hlanding hlanded
      · exact hlanded
      · exact .inl ⟨rfl, rfl⟩
      · rfl
      · rfl
  · rename_i hlanded
    apply casUpdate_wrote
    intro item row _ hrow _
    constructor
    · rfl
    · exact held_of_leasedTo hheld hrow
    · apply Rewrite.rests
      · intro hfrom
        rw [leasedTo_state hrow] at hfrom
        cases hfrom
      · exact ⟨hstate, hlanded, rfl, rfl⟩
      · exact .inl rfl

/-!
# Operator transitions
-/

theorem rests_wrote (hheld : x.heldBy = none)
    (hcondition : forall row, condition row = true -> row.state = .integrated ->
      x.reopens row.key ∧ x.takesBack = some row.key)
    (hset : forall row, (set row).key = row.key ∧ (set row).Resting ∧
      (set row).historySequence = row.historySequence) :
    Wrote x s (s.update condition set) := by
  apply Wrote.updates
  intro row hrow
  rcases hset row with ⟨hkey, hrest, hhistory⟩
  constructor
  · exact hkey
  · exact held_of_none hheld row
  · apply Rewrite.rests
    · intro hlanded
      exact (hcondition row hrow hlanded).left
    · exact hrest
    · exact .inr ⟨hhistory, fun hlanded => (hcondition row hrow hlanded).right⟩

theorem blockPreflight_wrote (hheld : x.heldBy = none) (reason : String)
    (expectedHeadSha : Option String) (now : String) :
    Wrote x s (s.blockPreflight k reason expectedHeadSha now).1 := by
  apply rests_wrote hheld
  · intro row hrow hlanded
    simp [hlanded] at hrow
  · exact fun row => ⟨rfl, ⟨nofun, nofun, rfl, rfl⟩, rfl⟩

theorem cancel_wrote (hheld : x.heldBy = none)
    (request : IntegrationQueueStore.CancelRequest) (now : String) :
    Wrote x s (s.cancel k request now).1 := by
  apply rests_wrote hheld
  · intro row hrow hlanded
    simp [hlanded, IntegrationQueueStore.CancelRequest.selects] at hrow
  · exact fun row => ⟨rfl, ⟨nofun, nofun, rfl, rfl⟩, rfl⟩

theorem restoreCancelled_wrote {rt : QueueRuntime}
    (hheld : x.heldBy = none) (request : IntegrationQueueStore.RestoreRequest)
    (now : String) :
    Wrote x s (IntegrationQueueStore.restoreCancelled rt s k request now).1 := by
  apply casUpdate_wrote
  intro item row _ hrow _
  constructor
  · rfl
  · exact held_of_none hheld row
  · apply Rewrite.rests
    · intro hlanded
      simp [hlanded] at hrow
    · exact ⟨nofun, nofun, rfl, rfl⟩
    · refine .inr ⟨rfl, ?_⟩
      intro hlanded
      simp [hlanded] at hrow

theorem retryIntegratedAfterTrackerFailure_wrote (hheld : x.heldBy = none)
    (hreopens : x.reopens k) (htakes : x.takesBack = some k) (expectedHeadSha : String)
    (expectedCandidateHeadSha : Option String) (error now : String) :
    Wrote x s (s.retryIntegratedAfterTrackerFailure k expectedHeadSha
        expectedCandidateHeadSha error now).1 := by
  apply rests_wrote hheld
  · intro row hrow _
    simp only [Bool.and_eq_true, decide_eq_true_eq] at hrow
    rw [hrow.left.left.left]
    exact ⟨hreopens, htakes⟩
  · exact fun row => ⟨rfl, ⟨nofun, nofun, rfl, rfl⟩, rfl⟩

end Rules

/-!
# The recorded sequences

Rows that are integrated have a sequence, no sequence is above the counter and
no two integrated rows share one.  A row has its lease columns set exactly while
it is integrating.
-/

namespace IntegrationQueueItem

inductive LeaseKept (row : IntegrationQueueItem) : Prop
  | leased (owner : String) (expires : Int) (hstate : row.state = .integrating)
      (howner : row.leaseOwner = some owner)
      (hexpires : row.leaseExpiresAt = some expires)
  | free (hstate : row.state ≠ .integrating) (howner : row.leaseOwner = none)
      (hexpires : row.leaseExpiresAt = none)

end IntegrationQueueItem

structure WellKept (s : IntegrationQueueStore) : Prop where
  keys : (s.rows.map IntegrationQueueItem.key).Nodup
  bounded : forall row, row ∈ s.rows -> row.historySequence ≤ s.history
  positive : forall row, row ∈ s.rows -> row.state = .integrated -> 0 < row.historySequence
  distinct : forall row row', row ∈ s.rows -> row' ∈ s.rows ->
    row.state = .integrated -> row'.state = .integrated ->
    row.historySequence = row'.historySequence -> row.key = row'.key
  leases : forall row, row ∈ s.rows -> row.LeaseKept

theorem wellKept_empty : WellKept {} := by
  constructor
  · exact List.nodup_nil
  · exact fun row hrow => absurd hrow List.not_mem_nil
  · exact fun row hrow => absurd hrow List.not_mem_nil
  · exact fun row _ hrow => absurd hrow List.not_mem_nil
  · exact fun row hrow => absurd hrow List.not_mem_nil

theorem foldl_max_bounded {rows : List IntegrationQueueItem} {value : Nat}
    (h : forall row, row ∈ rows -> row.historySequence ≤ value) :
    rows.foldl (fun value row => max value row.historySequence) value = value := by
  induction rows with
  | nil => rfl
  | cons first rest ih =>
    rw [List.foldl_cons, max_eq_left (h first List.mem_cons_self)]
    exact ih (fun row hrow => h row (List.mem_cons_of_mem _ hrow))

namespace WellKept

variable {s s' : IntegrationQueueStore} {x : Reach}

theorem openStore_eq (h : WellKept s) : s.openStore = s := by
  have hlegacy : s.legacyRows = [] := by
    unfold IntegrationQueueStore.legacyRows
    rw [List.filter_eq_nil_iff.mpr]
    · rfl
    · intro row hrow hlegacy
      rw [Bool.and_eq_true, decide_eq_true_eq, decide_eq_true_eq] at hlegacy
      exact (h.positive row hrow hlegacy.left).ne' hlegacy.right
  unfold IntegrationQueueStore.openStore
  rw [hlegacy, foldl_max_bounded h.bounded]
  rfl

theorem get_of_mem (h : WellKept s) {row : IntegrationQueueItem} (hrow : row ∈ s.rows) :
    s.get row.key = some row :=
  rowAt_of_mem h.keys hrow

theorem eq_of_key (h : WellKept s) {row row' : IntegrationQueueItem}
    (hrow : row ∈ s.rows) (hrow' : row' ∈ s.rows) (hkey : row.key = row'.key) :
    row = row' := by
  have hget := h.get_of_mem hrow
  rw [hkey, h.get_of_mem hrow'] at hget
  exact (Option.some.inj hget).symm

end WellKept

/-- Where a row of the new store comes from. -/
inductive Origin (x : Reach) (s s' : IntegrationQueueStore) (row' : IntegrationQueueItem) : Prop
  | kept (hrow : row' ∈ s.rows)
  | rewrote (row : IntegrationQueueItem) (hrow : row ∈ s.rows)
      (hwrite : Rewritten x s.history s'.history row row')
  | submitted (hfresh : Submitted s row')

variable {x : Reach} {s s' : IntegrationQueueStore} {row' : IntegrationQueueItem}

theorem Wrote.origin (h : Wrote x s s') (hrow' : row' ∈ s'.rows) : Origin x s s' row' := by
  cases h.rows with
  | rewrote f hrows hf =>
    rw [hrows] at hrow'
    rcases List.mem_map.mp hrow' with ⟨row, hrow, rfl⟩
    rcases hf row hrow with hsame | hwrite
    · rw [hsame]
      exact .kept hrow
    · exact .rewrote row hrow hwrite
  | inserted hheld fresh hrows hfresh =>
    rw [hrows] at hrow'
    rcases List.mem_append.mp hrow' with hold | hnew
    · exact .kept hold
    · rw [List.mem_singleton] at hnew
      subst hnew
      exact .submitted hfresh

theorem Wrote.keys (h : Wrote x s s') (hkeys : (s.rows.map IntegrationQueueItem.key).Nodup) :
    (s'.rows.map IntegrationQueueItem.key).Nodup := by
  cases h.rows with
  | rewrote f hrows hf =>
    have hsame : (s.rows.map f).map IntegrationQueueItem.key =
        s.rows.map IntegrationQueueItem.key := by
      rw [List.map_map]
      apply List.map_congr_left
      intro row hrow
      rcases hf row hrow with hsame | hwrite
      · exact congrArg _ hsame
      · exact hwrite.key
    rw [hrows, hsame]
    exact hkeys
  | inserted hheld fresh hrows hfresh =>
    rw [hrows, List.map_append, List.map_singleton]
    apply hkeys.append (List.nodup_singleton _)
    intro k hk hfreshKey
    rw [List.mem_singleton] at hfreshKey
    subst hfreshKey
    rcases List.mem_map.mp hk with ⟨row, hrow, hkey⟩
    exact rowAt_eq_none.mp hfresh.absent row hrow hkey

theorem Rewritten.leaseKept {before after : Nat}
    {row row' : IntegrationQueueItem} (h : Rewritten x before after row row')
    (hkept : row.LeaseKept) : row'.LeaseKept := by
  cases h.kind with
  | edits hstate howner hexpires =>
    cases hkept with
    | leased owner expires hleased howner' hexpires' =>
      exact .leased owner expires (hstate.trans hleased) (howner.trans howner')
        (hexpires.trans hexpires')
    | free hfree howner' hexpires' =>
      apply IntegrationQueueItem.LeaseKept.free
      · rw [hstate]
        exact hfree
      · rw [howner, howner']
      · rw [hexpires, hexpires']
  | rests hfrom hrest hhistory => exact .free hrest.notLeased hrest.owner hrest.expires
  | leases owner expires hclaims hfrom hstate howner hexpires hhistory =>
    exact .leased owner expires hstate howner hexpires
  | lands hlanding hstate hlease hcounted hhistory =>
    have hnot : row'.state ≠ .integrating := by
      rw [hstate]
      exact nofun
    rcases hlease with ⟨howner, hexpires⟩ | ⟨hfree, howner, hexpires⟩
    · exact .free hnot howner hexpires
    · cases hkept with
      | leased owner expires hleased => exact absurd hleased hfree
      | free _ howner' hexpires' =>
        exact .free hnot (howner.trans howner') (hexpires.trans hexpires')

theorem Wrote.history_le (h : Wrote x s s') : s.history ≤ s'.history := by
  rcases h.history with hsame | hnext
  · exact hsame.ge
  · omega

/-- An integrated row of the new store was integrated at its sequence or landed. -/
theorem Wrote.integrated (h : Wrote x s s') (hrow' : row' ∈ s'.rows)
    (hstate : row'.state = .integrated) :
    (exists row, row ∈ s.rows ∧ row.key = row'.key ∧ row.state = .integrated ∧
      row.historySequence = row'.historySequence ∧ row.epicId = row'.epicId) ∨
      x.landing = some row'.key ∧ s'.history = s.history + 1 ∧
        row'.historySequence = s'.history := by
  cases h.origin hrow' with
  | kept hrow => exact .inl ⟨row', hrow, rfl, hstate, rfl, rfl⟩
  | rewrote row hrow hwrite =>
    cases hwrite.kind with
    | edits hsame _ _ hhistory hepic =>
      exact .inl ⟨row, hrow, hwrite.key.symm, hsame ▸ hstate, hhistory.symm, hepic.symm⟩
    | rests _ hrest => exact absurd hstate hrest.notLanded
    | leases _ _ _ _ hleased =>
      rw [hstate] at hleased
      cases hleased
    | lands hlanding _ _ hcounted hhistory =>
      rw [← hwrite.key] at hlanding
      exact .inr ⟨hlanding, hcounted, hhistory⟩
  | submitted hfresh =>
    rw [hfresh.state] at hstate
    cases hstate

/--
A sequence of a row that is not integrated was there before, or is that of a
landing that was taken back.
-/
theorem Wrote.leftover (h : Wrote x s s') (hrow' : row' ∈ s'.rows)
    (hstate : row'.state ≠ .integrated) (hpositive : 0 < row'.historySequence) :
    exists row, row ∈ s.rows ∧ row.key = row'.key ∧ row.historySequence = row'.historySequence ∧
      (row.state = .integrated -> x.takesBack = some row'.key) := by
  cases h.origin hrow' with
  | kept hrow => exact ⟨row', hrow, rfl, rfl, fun hlanded => absurd hlanded hstate⟩
  | rewrote row hrow hwrite =>
    refine ⟨row, hrow, hwrite.key.symm, ?_⟩
    cases hwrite.kind with
    | edits hsame _ _ hhistory =>
      exact ⟨hhistory.symm, fun hlanded => absurd (hsame.trans hlanded) hstate⟩
    | rests _ _ hhistory =>
      rcases hhistory with hzero | ⟨hsame, htakes⟩
      · omega
      · rw [hwrite.key]
        exact ⟨hsame.symm, htakes⟩
    | leases _ _ _ hfrom _ _ _ hhistory =>
      refine ⟨hhistory.symm, fun hlanded => ?_⟩
      rw [hlanded] at hfrom
      rcases hfrom with hready | hleased
      · cases hready
      · cases hleased
    | lands _ hlanded => exact absurd hlanded hstate
  | submitted hfresh =>
    have hzero := hfresh.history
    omega

theorem WellKept.wrote (h : WellKept s) (hwrote : Wrote x s s') : WellKept s' := by
  have hle := hwrote.history_le
  constructor
  · exact hwrote.keys h.keys
  · intro row' hrow'
    cases hwrote.origin hrow' with
    | kept hrow => exact (h.bounded row' hrow).trans hle
    | rewrote row hrow hwrite =>
      have hold := (h.bounded row hrow).trans hle
      cases hwrite.kind with
      | edits _ _ _ hhistory => exact hhistory ▸ hold
      | rests _ _ hhistory =>
        rcases hhistory with hzero | ⟨hsame, _⟩
        · rw [hzero]
          exact Nat.zero_le _
        · exact hsame ▸ hold
      | leases _ _ _ _ _ _ _ hhistory => exact hhistory ▸ hold
      | lands _ _ _ _ hhistory => exact hhistory.le
    | submitted hfresh =>
      rw [hfresh.history]
      exact Nat.zero_le _
  · intro row' hrow' hstate
    rcases hwrote.integrated hrow' hstate with
      ⟨row, hrow, _, hlanded, hhistory, _⟩ | ⟨_, hcounted, hhistory⟩
    · rw [← hhistory]
      exact h.positive row hrow hlanded
    · omega
  · intro row₁ row₂ hrow₁ hrow₂ hstate₁ hstate₂ hsame
    rcases hwrote.integrated hrow₁ hstate₁ with
      ⟨old₁, hold₁, hkey₁, hlanded₁, hhistory₁, _⟩ | ⟨hlanding₁, hcounted₁, hhistory₁⟩
    · rcases hwrote.integrated hrow₂ hstate₂ with
        ⟨old₂, hold₂, hkey₂, hlanded₂, hhistory₂, _⟩ | ⟨_, hcounted₂, hhistory₂⟩
      · rw [← hkey₁, ← hkey₂]
        apply h.distinct old₁ old₂ hold₁ hold₂ hlanded₁ hlanded₂
        rw [hhistory₁, hhistory₂, hsame]
      · have hbound := h.bounded old₁ hold₁
        omega
    · rcases hwrote.integrated hrow₂ hstate₂ with
        ⟨old₂, hold₂, _, _, hhistory₂, _⟩ | ⟨hlanding₂, _, _⟩
      · have hbound := h.bounded old₂ hold₂
        omega
      · exact Option.some.inj (hlanding₁.symm.trans hlanding₂)
  · intro row' hrow'
    cases hwrote.origin hrow' with
    | kept hrow => exact h.leases row' hrow
    | rewrote row hrow hwrite => exact hwrite.leaseKept (h.leases row hrow)
    | submitted hfresh =>
      apply IntegrationQueueItem.LeaseKept.free
      · rw [hfresh.state]
        exact nofun
      · exact hfresh.owner
      · exact hfresh.expires

/-!
# Every operation
-/

theorem QueueOp.apply_wrote (rt : QueueRuntime)
    {s : IntegrationQueueStore} (h : WellKept s) (op : QueueOp) :
    Wrote (op.reach s) s (op.apply rt s) := by
  cases op with
  | openStore =>
    show Wrote _ s s.openStore
    rw [h.openStore_eq]
    exact Wrote.same _ s
  | enqueue submission now => exact enqueue_wrote submission now rfl rfl
  | enqueueIfAbsent submission now => exact enqueueIfAbsent_wrote submission now rfl
  | replaceTaskIdentity => exact replaceTaskIdentity_wrote rfl rfl ..
  | retireTaskGeneration => exact retireTaskGeneration_wrote rfl ..
  | prepareTaskRebase => exact prepareTaskRebase_wrote rfl ..
  | abortTaskRebase => exact abortTaskRebase_wrote rfl ..
  | prepareTaskPublication => exact prepareTaskPublication_wrote rfl ..
  | completeTaskPublication => exact completeTaskPublication_wrote rfl ..
  | consumeRetryGeneration => exact consumeRetryGeneration_wrote rfl ..
  | recoverExpired => exact recoverExpired_wrote rfl ..
  | recoverAbandoned => exact recoverAbandoned_wrote rfl ..
  | recoverTaskGeneration => exact recoverTaskGeneration_wrote rfl ..
  | finishTaskGeneration => exact finishTaskGeneration_wrote rfl rfl ..
  | normalizeLegacyTrackerCheckpoint =>
    exact normalizeLegacyTrackerCheckpoint_wrote rfl rfl ..
  | claimNext request timestamp now =>
    apply claimNext_wrote request timestamp now rfl
    intro htook
    show (if _ then some request.leaseOwner else none) = _
    rw [if_pos htook]
  | recordCandidate => exact recordCandidate_wrote rfl ..
  | checkpointLegacyIntegration => exact checkpointLegacyIntegration_wrote rfl rfl ..
  | complete k leaseOwner now =>
    apply finish_wrote rfl
    · intro _
      rfl
    · exact nofun
  | fail k leaseOwner error retryable retryAt now =>
    apply finish_wrote rfl
    · intro hlanded
      cases retryable <;> cases hlanded
    · cases retryable <;> exact nofun
  | blockPreflight => exact blockPreflight_wrote rfl ..
  | cancel => exact cancel_wrote rfl ..
  | restoreCancelled => exact restoreCancelled_wrote rfl ..
  | retryIntegratedAfterTrackerFailure =>
    exact retryIntegratedAfterTrackerFailure_wrote rfl rfl rfl ..

theorem WellKept.step (rt : QueueRuntime)
    {s : IntegrationQueueStore} (h : WellKept s) (op : QueueOp) :
    WellKept (op.apply rt s) :=
  h.wrote (op.apply_wrote rt h)

/-- The store after a list of operations. -/
def IntegrationQueueStore.after (rt : QueueRuntime)
    (s : IntegrationQueueStore) (ops : List QueueOp) : IntegrationQueueStore :=
  run (fun s op => QueueOp.apply rt s op) s ops

theorem wellKept_run (rt : QueueRuntime) (ops : List QueueOp) :
    WellKept (IntegrationQueueStore.after rt {} ops) :=
  invariant_run (I := WellKept) (fun _ op h => h.step rt op) wellKept_empty ops

/-!
# A sample submission
-/

def sampleRuntime : QueueRuntime :=
  { authority := IntegrationQueueItem.updatedAt
    lower := String.toLower }

def sampleKey : RowKey := { projectId := "p", taskId := "t" }

def sampleSubmission : IntegrationQueueStore.Submission :=
  { projectId := "p", epicId := "e", taskId := "t", taskBranch := "b", headSha := "h" }

end Integration
end Oompah
