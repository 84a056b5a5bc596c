import Oompah.Dependencies.Issues
import Oompah.Foundation.Checked
import Oompah.Foundation.DepthFirst
import Oompah.Foundation.Value

/-!
# Members of dependency cycles

The controller reports the tasks on dependency cycles by a depth-first search that
looks at edges back into its path.  An edge to a finished task is passed over, so
that a task whose cycles all lead through finished ones is missed.
-/

namespace Oompah
namespace WorkflowController

open Foundation

attribute [local instance] lawful_pairs

abbrev TaskIdentity := String × String

/-- A task as the scan hands it over: an issue or a mapping. -/
inductive TaskRow where
  | issue (issue : Dependencies.Issue)
  | mapping (entries : Mapping)

section Rows

variable (rt : Runtime)

def taskIdentity : TaskRow -> Except PyError TaskIdentity
  | .issue issue => do
      let identifier <- rt.requiredText (.str issue.identifier) "task_id"
      return (issue.projectId, identifier)
  | .mapping entries => do
      let identifier <-
        rt.requiredText (entries.getD "identifier" (entries.get "task_id")) "task_id"
      return (rt.str ((entries.get "project_id").orElse (.str "")), identifier)

/-- The items of a list, a tuple or a set. -/
def items : Value -> List Value
  | .list values => values
  | .tuple values => values
  | .set values => values
  | _ => []

def dependencyItems (entries : Mapping) (key : String) : List Value :=
  match key, entries.getD key (.tuple []) with
  | "dependencies", .mapping nested => nested.flatMap (fun entry => items entry.2)
  | _, raw => items raw

def dependencyName (item : Value) : String :=
  match item.mapping? with
  | some entries =>
    rt.clean (entries.getD "identifier" (entries.getD "id" (entries.get "task_id")))
  | none => rt.clean item

def sortedNames (names : List String) : List String :=
  (names.filter (fun name => name ≠ "")).dedup.insertionSort (fun a b => a ≤ b)

def taskDependencies : TaskRow -> List String
  | .issue issue =>
    sortedNames ((issue.blockedBy ++ issue.startBlockedBy).map Dependencies.refIdentifier)
  | .mapping entries =>
    sortedNames ((["blocked_by", "start_blocked_by", "dependencies", "hard_start"].flatMap
      (dependencyItems entries)).map (dependencyName rt))

/-- `sorted` of pairs of texts. -/
def identityOrder (first second : TaskIdentity) : Prop :=
  first.1 < second.1 ∨ (first.1 = second.1 ∧ first.2 ≤ second.2)

instance (first second : TaskIdentity) : Decidable (identityOrder first second) := by
  unfold identityOrder
  infer_instance

/-- Each task with its identity, or the error of the first that has none. -/
def identified (tasks : List TaskRow) : Except PyError (List (TaskIdentity × TaskRow)) :=
  tasks.mapM (fun task => do return (<- taskIdentity rt task, task))

end Rows

section Edges

variable (rt : Runtime) (rows : List (TaskIdentity × TaskRow))

def identities : List TaskIdentity :=
  ((rows.map Prod.fst).dedup).insertionSort identityOrder

/-- The tasks of the project that a task depends on; a later row of a task replaces an
earlier one. -/
def edges (identity : TaskIdentity) : List TaskIdentity :=
  match rows.reverse.find? (fun row => row.1 = identity) with
  | some row =>
    ((taskDependencies rt row.2).map (fun dependency => (identity.1, dependency))).filter
      (fun dependency => dependency ∈ identities rows)
  | none => []

/-- The order in which the set of a task's dependencies is iterated. -/
structure IterationOrder where
  children : TaskIdentity -> List TaskIdentity
  perm : forall identity, (children identity).Perm (edges rt rows identity)

def searchMembers (order : IterationOrder rt rows) : Option (List TaskIdentity) :=
  (DepthFirst.search order.children ((identities rows).length + 1)
    (identities rows)).map DepthFirst.cycles

/-- The reported identities, as a set; `none` is a search that did not end. -/
def cycleMembers (tasks : List TaskRow) (order : forall rows, IterationOrder rt rows) :
    Except PyError (Option (List TaskIdentity)) := do
  let rows <- identified rt tasks
  return searchMembers rt rows (order rows)

end Edges

/-!
# What is reported
-/

variable {rt : Runtime} {rows : List (TaskIdentity × TaskRow)}

/-- The task lies on a cycle of the dependencies among the given tasks. -/
def OnDependencyCycle (rt : Runtime) (rows : List (TaskIdentity × TaskRow))
    (identity : TaskIdentity) : Prop :=
  DepthFirst.OnCycle (edges rt rows) identity

/--
In the depth-first order of the sorted identities and the iterated sets, every task
on a cycle lies on one that avoids the tasks left before it: those that come earlier
and lead to it, if at all, only through tasks that come earlier still.
-/
def IterationOrder.LeavesCycles (order : IterationOrder rt rows) : Prop :=
  exists found, DepthFirst.Discovers order.children [] (identities rows) found ∧
    forall identity, OnDependencyCycle rt rows identity -> DepthFirst.Returns order.children
        (DepthFirst.LeftBefore order.children found identity) identity

theorem IterationOrder.onCycle_iff (order : IterationOrder rt rows) (identity : TaskIdentity) :
    DepthFirst.OnCycle order.children identity ↔ OnDependencyCycle rt rows identity := by
  have hedges : Edge order.children = Edge (edges rt rows) := by
    funext x y
    exact propext (order.perm x).mem_iff
  unfold OnDependencyCycle DepthFirst.OnCycle
  rw [hedges]

theorem IterationOrder.children_mem (order : IterationOrder rt rows) (x y : TaskIdentity)
    (h : y ∈ order.children x) : y ∈ identities rows := by
  have hedge := (order.perm x).mem_iff.mp h
  unfold edges at hedge
  split at hedge
  · exact of_decide_eq_true (List.mem_filter.mp hedge).right
  · cases hedge

theorem searchMembers_exact_iff (order : IterationOrder rt rows) :
    exists members, searchMembers rt rows order = some members ∧
      (forall identity, identity ∈ members -> OnDependencyCycle rt rows identity) ∧
      ((forall identity, identity ∈ members ↔ OnDependencyCycle rt rows identity) ↔
        order.LeavesCycles) := by
  rcases DepthFirst.search_spec order.children_mem
    (Nat.lt_succ_self (identities rows).length) with ⟨s, found, hs, hfound, hspec⟩
  have hsound : forall identity, identity ∈ s.cycles -> OnDependencyCycle rt rows identity :=
    fun identity hmem => (order.onCycle_iff identity).mp ((hspec identity).left hmem)
  refine ⟨s.cycles, ?_, hsound, ?_⟩
  · unfold searchMembers
    rw [hs]
    rfl
  · constructor
    · intro hexact
      refine ⟨found, hfound, ?_⟩
      intro identity hcycle
      have hreported := (hspec identity).right ((order.onCycle_iff identity).mpr hcycle)
      exact hreported.mp ((hexact identity).mpr hcycle)
    · rintro ⟨other, hother, hleaves⟩ identity
      refine ⟨hsound identity, ?_⟩
      intro hcycle
      rw [(hspec identity).right ((order.onCycle_iff identity).mpr hcycle), hfound.unique hother]
      exact hleaves identity hcycle

/--
For every sequence of tasks that have identifiers and every order of their dependency
sets the search ends and reports tasks on cycles only.  It reports all of them exactly
when the order leaves each a cycle.
-/
theorem cycleMembers_exact_iff (rt : Runtime) (tasks : List TaskRow)
    (order : forall rows, IterationOrder rt rows) :
    match identified rt tasks, cycleMembers rt tasks order with
    | .ok rows, .ok (some members) =>
      (forall identity, identity ∈ members -> OnDependencyCycle rt rows identity) ∧
        ((forall identity, identity ∈ members ↔ OnDependencyCycle rt rows identity) ↔
          (order rows).LeavesCycles)
    | .error error, .error raised => raised = error
    | _, _ => False := by
  unfold cycleMembers
  cases identified rt tasks with
  | error error => rfl
  | ok rows =>
    rcases searchMembers_exact_iff (order rows) with ⟨members, hmembers, hsound, hexact⟩
    dsimp only [bind, Except.bind, pure, Except.pure]
    rw [hmembers]
    exact ⟨hsound, hexact⟩

/-- The sets in the order of the names. -/
def nameOrder (rt : Runtime) (rows : List (TaskIdentity × TaskRow)) : IterationOrder rt rows where
  children := edges rt rows
  perm := fun _ => List.Perm.refl _

def dependentTask (identifier : String) (dependencies : List String) : TaskRow :=
  .issue
    { projectId := "project-1"
      identifier := identifier
      blockedBy := dependencies.map (fun dependency => { identifier := dependency }) }

/-- Both dependencies of the second task lead back to the first, one through the other. -/
def crossedTasks : List TaskRow :=
  [dependentTask "task-1" ["task-2"], dependentTask "task-2" ["task-3", "task-4"],
    dependentTask "task-3" ["task-1"], dependentTask "task-4" ["task-3"]]

theorem crossedTasks_missed :
    exists rows members, identified Runtime.ascii crossedTasks = .ok rows ∧
      cycleMembers Runtime.ascii crossedTasks (nameOrder Runtime.ascii) = .ok (some members) ∧
      ("project-1", "task-4") ∉ members ∧
      OnDependencyCycle Runtime.ascii rows ("project-1", "task-4") := by
  have hrun : (cycleMembers Runtime.ascii crossedTasks (nameOrder Runtime.ascii)).map
        (fun members => members.map
          (fun members => decide (("project-1", "task-4") ∈ members))) = .ok (some false) ∧
      (identified Runtime.ascii crossedTasks).map (fun rows =>
        [edges Runtime.ascii rows ("project-1", "task-4"),
          edges Runtime.ascii rows ("project-1", "task-3"),
          edges Runtime.ascii rows ("project-1", "task-1"),
          edges Runtime.ascii rows ("project-1", "task-2")]) =
        .ok [[("project-1", "task-3")], [("project-1", "task-1")],
          [("project-1", "task-2")], [("project-1", "task-3"), ("project-1", "task-4")]] := by
    decide +kernel
  rcases hrun with ⟨hmembers, hedges⟩
  cases hrows : identified Runtime.ascii crossedTasks with
  | error error =>
    rw [hrows] at hedges
    cases hedges
  | ok rows =>
    rw [hrows] at hedges
    simp only [Except.map, Except.ok.injEq, List.cons.injEq, and_true] at hedges
    rcases hedges with ⟨hfourth, hthird, hfirst, hsecond⟩
    cases hreported : cycleMembers Runtime.ascii crossedTasks (nameOrder Runtime.ascii) with
    | error error =>
      rw [hreported] at hmembers
      cases hmembers
    | ok reported =>
      cases reported with
      | none =>
        rw [hreported] at hmembers
        cases hmembers
      | some members =>
        rw [hreported] at hmembers
        simp only [Except.map, Option.map_some, Except.ok.injEq, Option.some.injEq,
          decide_eq_false_iff_not] at hmembers
        refine ⟨rows, members, rfl, rfl, hmembers, ?_⟩
        have hstep : forall {x y : TaskIdentity}, y ∈ edges Runtime.ascii rows x ->
            Edge (edges Runtime.ascii rows) x y := fun h => h
        apply Relation.TransGen.head (hstep (y := ("project-1", "task-3"))
          (by rw [hfourth]; exact List.mem_cons_self))
        apply Relation.TransGen.head (hstep (y := ("project-1", "task-1"))
          (by rw [hthird]; exact List.mem_cons_self))
        apply Relation.TransGen.head (hstep (y := ("project-1", "task-2"))
          (by rw [hfirst]; exact List.mem_cons_self))
        apply Relation.TransGen.single
        apply hstep
        rw [hsecond]
        exact List.mem_cons_of_mem _ List.mem_cons_self

end WorkflowController
end Oompah
