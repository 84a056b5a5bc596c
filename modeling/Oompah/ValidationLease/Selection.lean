import Oompah.ValidationLease.Store

/-!
# The order in which waiters are selected

The selection takes the least waiter of one of two strict orders.  Starved
waiters are served before all others in the order they queued; otherwise the
effective priority, the turn of the project and the order of queueing decide.
Both orders agree with the order of queueing on the waiters of one project that
have one priority.
-/

namespace Oompah
namespace ValidationLease

open Foundation
open LeaseStore (firstBy projectTurn selectWaiter)

/-- The row was queued before the other: `(queued_at, token)`. -/
def WaiterRow.queuedBefore (a b : WaiterRow) : Bool :=
  a.queuedAt < b.queuedAt || (a.queuedAt = b.queuedAt && a.token < b.token)

def WaiterRow.age (row : WaiterRow) (now : Int) : Int := max (now - row.queuedAt) 0

def WaiterRow.effectivePriority (row : WaiterRow) (aging now : Int) : Int :=
  row.priority + row.age now / aging

/-- The `sort_key` of a row is below that of the other. -/
def WaiterRow.sortsBefore (aging now : Int) (turns : List (String × Nat))
    (a b : WaiterRow) : Bool :=
  b.effectivePriority aging now < a.effectivePriority aging now ||
    (a.effectivePriority aging now = b.effectivePriority aging now &&
      (projectTurn turns a.identity.projectId < projectTurn turns b.identity.projectId ||
        (projectTurn turns a.identity.projectId = projectTurn turns b.identity.projectId &&
          a.queuedBefore b)))

/-- The row has waited for as many aging steps as it takes to be protected. -/
def WaiterRow.starved (aging now : Int) (row : WaiterRow) : Bool :=
  aging * starvationAgingSteps ≤ row.age now

/-!
# Least rows of a strict order
-/

structure StrictlyOrders (before : WaiterRow -> WaiterRow -> Bool) : Prop where
  irrefl : forall a, before a a = false
  trans : forall a b c, before a b = true -> before b c = true -> before a c = true

section FirstBy

variable {before : WaiterRow -> WaiterRow -> Bool}

/-- The fold of `firstBy` ends at a row that nothing it has seen is before. -/
theorem foldl_least (hstrict : StrictlyOrders before) (rows : List WaiterRow)
    (seen : WaiterRow -> Prop) (best : WaiterRow)
    (hbest : forall row, seen row -> before row best = false) :
    forall row, (seen row ∨ row ∈ rows) ->
      before row (rows.foldl (fun best other =>
        if before other best then other else best) best) = false := by
  induction rows generalizing seen best with
  | nil =>
    rintro row (hrow | hrow)
    · exact hbest row hrow
    · cases hrow
  | cons other rest ih =>
    intro row hrow
    refine ih (fun row => seen row ∨ row = other) _ ?_ row ?_
    · intro row hseen
      show before row (if before other best then other else best) = false
      split
      · case isTrue hother =>
        rcases hseen with hseen | rfl
        · -- a row before the new best one would be before the old one
          by_contra hbefore
          have hold := hstrict.trans row other best (by simpa using hbefore) hother
          rw [hbest row hseen] at hold
          cases hold
        · exact hstrict.irrefl row
      · case isFalse hother =>
        rcases hseen with hseen | rfl
        · exact hbest row hseen
        · simpa using hother
    · rcases hrow with hrow | hrow
      · exact .inl (Or.inl hrow)
      · rcases List.mem_cons.mp hrow with rfl | hrow
        · exact .inl (Or.inr rfl)
        · exact .inr hrow

theorem foldl_mem (rows : List WaiterRow) (best : WaiterRow) :
    rows.foldl (fun best other => if before other best then other else best) best ∈
      best :: rows := by
  induction rows generalizing best with
  | nil => exact List.mem_singleton.mpr rfl
  | cons other rest ih =>
    rw [List.foldl_cons]
    have hmem := ih (if before other best then other else best)
    rcases List.mem_cons.mp hmem with hsame | hrest
    · rw [hsame]
      split
      · exact List.mem_cons_of_mem _ List.mem_cons_self
      · exact List.mem_cons_self
    · exact List.mem_cons_of_mem _ (List.mem_cons_of_mem _ hrest)

theorem firstBy_least (hstrict : StrictlyOrders before) {rows : List WaiterRow}
    {first : WaiterRow} (h : firstBy before rows = some first) :
    first ∈ rows ∧ forall row, row ∈ rows -> before row first = false := by
  cases rows with
  | nil => cases h
  | cons best rest =>
    have hfirst := Option.some.inj h
    constructor
    · rw [← hfirst]
      exact foldl_mem rest best
    · intro row hrow
      rw [← hfirst]
      refine foldl_least hstrict rest (fun row => row = best) best ?_ row ?_
      · rintro row rfl
        exact hstrict.irrefl row
      · exact List.mem_cons.mp hrow

end FirstBy

/-!
# The two orders
-/

section Orders

variable {aging now : Int} {turns : List (String × Nat)} {a b : WaiterRow}

theorem queuedBefore_iff : a.queuedBefore b = true ↔
      a.queuedAt < b.queuedAt ∨ (a.queuedAt = b.queuedAt ∧ a.token < b.token) := by
  simp [WaiterRow.queuedBefore]

theorem queuedBefore_strict : StrictlyOrders WaiterRow.queuedBefore := by
  constructor
  · intro a
    rw [← Bool.not_eq_true, queuedBefore_iff]
    rintro (hlt | ⟨_, hlt⟩)
    · exact Int.lt_irrefl _ hlt
    · exact String.lt_irrefl _ hlt
  · intro a b c hab hbc
    rw [queuedBefore_iff] at hab hbc ⊢
    rcases hab with hab | ⟨hab, htoken⟩
    · exact .inl (by omega)
    · rcases hbc with hbc | ⟨hbc, htoken'⟩
      · exact .inl (by omega)
      · exact .inr ⟨hab.trans hbc, String.lt_trans htoken htoken'⟩

theorem sortsBefore_iff : a.sortsBefore aging now turns b = true ↔
      b.effectivePriority aging now < a.effectivePriority aging now ∨
        (a.effectivePriority aging now = b.effectivePriority aging now ∧
          (projectTurn turns a.identity.projectId < projectTurn turns b.identity.projectId ∨
            (projectTurn turns a.identity.projectId = projectTurn turns b.identity.projectId ∧
              a.queuedBefore b = true))) := by
  simp [WaiterRow.sortsBefore]

theorem sortsBefore_strict (aging now : Int) (turns : List (String × Nat)) :
    StrictlyOrders (WaiterRow.sortsBefore aging now turns) := by
  constructor
  · intro a
    rw [← Bool.not_eq_true, sortsBefore_iff, queuedBefore_strict.irrefl]
    simp
  · intro a b c hab hbc
    rw [sortsBefore_iff] at hab hbc ⊢
    rcases hab with hab | ⟨hab, hab' | ⟨hab', hqueued⟩⟩
    · rcases hbc with hbc | ⟨hbc, _⟩
      · exact .inl (by omega)
      · exact .inl (by omega)
    · rcases hbc with hbc | ⟨hbc, hbc' | ⟨hbc', _⟩⟩
      · exact .inl (by omega)
      · exact .inr ⟨hab.trans hbc, Or.inl (by omega)⟩
      · exact .inr ⟨hab.trans hbc, Or.inl (by omega)⟩
    · rcases hbc with hbc | ⟨hbc, hbc' | ⟨hbc', hqueued'⟩⟩
      · exact .inl (by omega)
      · exact .inr ⟨hab.trans hbc, Or.inl (by omega)⟩
      · exact .inr ⟨hab.trans hbc, Or.inr ⟨hab'.trans hbc',
          queuedBefore_strict.trans a b c hqueued hqueued'⟩⟩

theorem WaiterRow.age_mono (hqueued : a.queuedAt ≤ b.queuedAt) (now : Int) :
    b.age now ≤ a.age now := by
  unfold WaiterRow.age
  omega

theorem queuedAt_le_of_queuedBefore (h : a.queuedBefore b = true) : a.queuedAt ≤ b.queuedAt := by
  rcases queuedBefore_iff.mp h with hlt | ⟨heq, _⟩
  · exact Int.le_of_lt hlt
  · exact Int.le_of_eq heq

theorem starved_of_queuedBefore (h : a.queuedBefore b = true)
    (hstarved : b.starved aging now = true) : a.starved aging now = true := by
  have hage := WaiterRow.age_mono (queuedAt_le_of_queuedBefore h) now
  unfold WaiterRow.starved at hstarved ⊢
  simp only [decide_eq_true_eq] at hstarved ⊢
  exact Int.le_trans hstarved hage

theorem sortsBefore_of_queuedBefore (haging : 0 < aging)
    (h : a.queuedBefore b = true) (hpriority : a.priority = b.priority)
    (hproject : a.identity.projectId = b.identity.projectId) :
    a.sortsBefore aging now turns b = true := by
  have hboost : b.age now / aging ≤ a.age now / aging :=
    Int.ediv_le_ediv haging (WaiterRow.age_mono (queuedAt_le_of_queuedBefore h) now)
  rw [sortsBefore_iff, hproject]
  unfold WaiterRow.effectivePriority
  rcases Int.lt_or_eq_of_le hboost with hlt | heq
  · exact .inl (by omega)
  · exact .inr ⟨by omega, Or.inr ⟨rfl, h⟩⟩

/-!
# The selected waiter
-/

variable {rows : List WaiterRow} {first : WaiterRow}

theorem selectWaiter_cases (h : selectWaiter rows aging now turns = some first) :
    (rows.filter (WaiterRow.starved aging now) = [] ∧
        firstBy (WaiterRow.sortsBefore aging now turns) rows = some first) ∨
      firstBy WaiterRow.queuedBefore (rows.filter (WaiterRow.starved aging now)) = some first := by
  unfold selectWaiter at h
  simp only at h
  split at h
  · case isTrue hnone => exact .inl ⟨List.isEmpty_iff.mp hnone, h⟩
  · exact .inr h

theorem selectWaiter_mem (h : selectWaiter rows aging now turns = some first) : first ∈ rows := by
  rcases selectWaiter_cases h with ⟨_, hfirst⟩ | hfirst
  · exact (firstBy_least (sortsBefore_strict aging now turns) hfirst).left
  · exact (List.mem_filter.mp (firstBy_least queuedBefore_strict hfirst).left).left

/-- No waiter is selected over a starved one that queued before it. -/
theorem selectWaiter_starved (h : selectWaiter rows aging now turns = some first)
    {row : WaiterRow} (hrow : row ∈ rows) (hstarved : row.starved aging now = true) :
    row.queuedBefore first = false := by
  have hmem : row ∈ rows.filter (WaiterRow.starved aging now) :=
    List.mem_filter.mpr ⟨hrow, hstarved⟩
  rcases selectWaiter_cases h with ⟨hnone, _⟩ | hfirst
  · rw [hnone] at hmem
    cases hmem
  · exact (firstBy_least queuedBefore_strict hfirst).right row hmem

/-- No waiter is selected over one of its project and priority that queued
before it. -/
theorem selectWaiter_sameProject (haging : 0 < aging)
    (h : selectWaiter rows aging now turns = some first)
    {row : WaiterRow} (hrow : row ∈ rows) (hpriority : row.priority = first.priority)
    (hproject : row.identity.projectId = first.identity.projectId) :
    row.queuedBefore first = false := by
  by_contra hbefore
  have hqueued : row.queuedBefore first = true := by simpa using hbefore
  rcases selectWaiter_cases h with ⟨_, hfirst⟩ | hfirst
  · have hleast := (firstBy_least (sortsBefore_strict aging now turns) hfirst).right row hrow
    rw [sortsBefore_of_queuedBefore haging hqueued hpriority hproject] at hleast
    cases hleast
  · obtain ⟨hmem, hleast⟩ := firstBy_least queuedBefore_strict hfirst
    have hstarved := starved_of_queuedBefore hqueued (List.mem_filter.mp hmem).right
    rw [hleast row (List.mem_filter.mpr ⟨hrow, hstarved⟩)] at hqueued
    cases hqueued

end Orders
end ValidationLease
end Oompah
