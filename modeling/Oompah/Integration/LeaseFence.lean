import Oompah.Integration.Writes

/-!
# Lease fencing

An integrator claims a row under a lease owner of its own.  Once the row is no
longer leased to that owner, nothing the owner calls changes the row again, and
a landed generation lands a second time only after it is taken back.
-/

namespace Oompah
namespace Integration

open Foundation
open IntegrationQueueStore (leasedTo)

/-!
# Claims of a run
-/

/-- The store with the owners that have claimed a row so far. -/
structure Claims where
  store : IntegrationQueueStore := {}
  owners : List String := []

namespace Claims

def step (rt : QueueRuntime) (c : Claims) (op : QueueOp) :
    Claims :=
  { store := op.apply rt c.store
    owners := (op.claims? c.store).toList ++ c.owners }

/-- Every claim is made under a lease owner that has claimed nothing before. -/
def fresh (c : Claims) (op : QueueOp) : Prop :=
  forall owner, op.claims? c.store = some owner -> owner ∉ c.owners

instance (c : Claims) (op : QueueOp) : Decidable (c.fresh op) :=
  match h : op.claims? c.store with
  | none => isTrue (fun owner howner => by rw [h] at howner; cases howner)
  | some claimed =>
    decidable_of_iff (claimed ∉ c.owners) (by
      unfold fresh
      constructor
      · intro hfresh owner howner
        rw [h] at howner
        cases howner
        exact hfresh
      · intro hfresh
        exact hfresh claimed h)

end Claims

variable {rt : QueueRuntime}

/-- The owner has claimed a row and this one is not leased to it. -/
structure LostLease (owner : String) (k : RowKey) (c : Claims) : Prop where
  wellKept : WellKept c.store
  claimed : owner ∈ c.owners
  lost : forall row, c.store.get k = some row -> IntegrationQueueStore.leasedTo owner row = false

variable {owner : String} {row : IntegrationQueueItem}

theorem leasedTo_iff : leasedTo owner row = true <->
      row.state = .integrating ∧ row.leaseOwner = some owner := by
  simp [leasedTo]

theorem not_leasedTo_of_state (h : row.state ≠ .integrating) : leasedTo owner row = false := by
  rw [Bool.eq_false_iff]
  intro hleased
  exact h (leasedTo_iff.mp hleased).left

variable {x : Reach}

/-- A lease in the new store was held before or is claimed in this step. -/
theorem Rewritten.leasedTo {before after : Nat}
    {row row' : IntegrationQueueItem} (h : Rewritten x before after row row')
    (hleased : leasedTo owner row' = true) :
    leasedTo owner row = true ∨ x.claims = some owner := by
  rcases leasedTo_iff.mp hleased with ⟨hstate', howner'⟩
  cases h.kind with
  | edits hstate howner _ _ =>
    exact .inl (leasedTo_iff.mpr ⟨hstate ▸ hstate', howner ▸ howner'⟩)
  | rests _ hrest => exact absurd hstate' hrest.notLeased
  | leases claimed _ hclaims _ _ howner =>
    rw [howner] at howner'
    cases howner'
    exact .inr hclaims
  | lands _ hstate =>
    rw [hstate] at hstate'
    cases hstate'

variable {k : RowKey}

theorem LostLease.step {c : Claims} (h : LostLease owner k c) {op : QueueOp} (hfresh : c.fresh op) :
    LostLease owner k (c.step rt op) := by
  have hwrote := op.apply_wrote rt h.wellKept
  constructor
  · exact h.wellKept.step rt op
  · exact List.mem_append_right _ h.claimed
  · intro row' hget
    have hkey := rowAt_key hget
    cases hwrote.origin (mem_of_rowAt hget) with
    | kept hrow =>
      apply h.lost row'
      rw [← hkey]
      exact h.wellKept.get_of_mem hrow
    | rewrote row hrow hwrite =>
      have hlost : leasedTo owner row = false := by
        apply h.lost row
        rw [← hkey, hwrite.key]
        exact h.wellKept.get_of_mem hrow
      rw [Bool.eq_false_iff]
      intro hleased
      rcases hwrite.leasedTo hleased with hheld | hclaims
      · rw [hlost] at hheld
        cases hheld
      · exact hfresh owner hclaims h.claimed
    | submitted hsubmitted =>
      apply not_leasedTo_of_state
      rw [hsubmitted.state]
      exact nofun

variable {s s' : IntegrationQueueStore}

theorem get_of_rewrote
    {f : IntegrationQueueItem -> IntegrationQueueItem} (hrows : s'.rows = s.rows.map f)
    (hf : forall row, row ∈ s.rows ->
      f row = row ∨ Rewritten x s.history s'.history row (f row)) (k : RowKey) :
    s'.get k = (s.get k).map f := by
  unfold IntegrationQueueStore.get
  rw [hrows]
  apply rowAt_map
  intro row hrow
  rcases hf row hrow with hsame | hwrite
  · rw [hsame]
  · exact hwrite.key

theorem Wrote.get_of_held (h : Wrote x s s') (howner : x.heldBy = some owner)
    (hlost : forall row, s.get k = some row -> leasedTo owner row = false) :
    s'.get k = s.get k := by
  cases h.rows with
  | rewrote f hrows hf =>
    rw [get_of_rewrote hrows hf]
    cases hrow : s.get k with
    | none => rfl
    | some row =>
      rcases hf row (mem_of_rowAt hrow) with hsame | hwrite
      · exact congrArg some hsame
      · have hheld := hwrite.held owner howner
        rw [hlost row hrow] at hheld
        cases hheld
  | inserted hheld =>
    rw [hheld] at howner
    cases howner

/-- An owner that lost the row changes nothing of it. -/
theorem LostLease.unchanged {c : Claims}
    (h : LostLease owner k c) {op : QueueOp} (howner : op.leaseOwner? = some owner) :
    (op.apply rt c.store).get k = c.store.get k :=
  (op.apply_wrote rt h.wellKept).get_of_held howner h.lost

/-!
# Landings
-/

def integratedAt (s : IntegrationQueueStore) (k : RowKey) : Bool :=
  (s.get k).any (fun row => row.state = .integrated)

/-- How often a row enters integrated along a list of operations. -/
def landings (rt : QueueRuntime) (k : RowKey) : IntegrationQueueStore -> List QueueOp -> Nat
  | _, [] => 0
  | s, op :: rest =>
    (if integratedAt s k = false ∧ integratedAt (op.apply rt s) k = true then 1
      else 0) + landings rt k (op.apply rt s) rest

theorem Wrote.get_some (h : Wrote x s s') (hrow : s.get k = some row) :
    exists row', s'.get k = some row' ∧
      (row' = row ∨ Rewritten x s.history s'.history row row') := by
  cases h.rows with
  | rewrote f hrows hf =>
    refine ⟨f row, ?_, hf row (mem_of_rowAt hrow)⟩
    rw [get_of_rewrote hrows hf, hrow]
    rfl
  | inserted hheld fresh hrows hfresh =>
    refine ⟨row, ?_, Or.inl rfl⟩
    unfold IntegrationQueueStore.get at hrow ⊢
    rw [hrows, rowAt_append, hrow]
    rfl

theorem Wrote.integratedAt (h : Wrote x s s') (hreopens : ¬ x.reopens k)
    (hlanded : Integration.integratedAt s k = true) :
    Integration.integratedAt s' k = true := by
  unfold Integration.integratedAt at hlanded
  rcases hrow : s.get k with _ | row
  · rw [hrow] at hlanded
    cases hlanded
  · rw [hrow] at hlanded
    have hstate : row.state = .integrated := by simpa using hlanded
    rcases h.get_some hrow with ⟨row', hget, rfl | hwrite⟩
    · unfold Integration.integratedAt
      rw [hget]
      exact hlanded
    · have hstate' : row'.state = .integrated := by
        cases hwrite.kind with
        | edits hsame => rw [hsame, hstate]
        | rests hfrom =>
          have hkey := rowAt_key hrow
          rw [← hkey] at hreopens
          exact absurd (hfrom hstate) hreopens
        | leases _ _ _ hfrom =>
          rw [hstate] at hfrom
          rcases hfrom with hready | hleased
          · cases hready
          · cases hleased
        | lands _ hstate' => exact hstate'
      unfold Integration.integratedAt
      rw [hget]
      simpa using hstate'

variable {s : IntegrationQueueStore}

end Integration
end Oompah
