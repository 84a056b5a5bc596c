import Mathlib.Data.Prod.Lex
import Mathlib.Data.String.Basic
import Oompah.Dependencies.ParentChains
import Oompah.TaskEvaluation.Contract

/-!
# Dependencies between containers

A dependency of a task on a task of another epic makes the first epic wait for the
second, as long as neither is terminal.  The tasks are projected onto the nearest epic
above them, and the edges are those between distinct epics.
-/

namespace Oompah
namespace ContainerDependency

open Foundation (Runtime)
open Dependencies (strip setItem)
open TaskEvaluation (canonicalizeStatus)

/-- The fields of an issue that the container graph reads. -/
structure Issue extends Dependencies.Issue where
  issueType : String := ""
  labels : List String := []
  state : String := ""
  integratedSha : String := ""
  deriving DecidableEq

structure ContainerDependencyEdge where
  consumer : String
  provider : String
  dependentTasks : List String := []
  prerequisiteTasks : List String := []
  deriving DecidableEq

namespace ContainerDependencyEdge

def pair (edge : ContainerDependencyEdge) : String × String := (edge.consumer, edge.provider)

end ContainerDependencyEdge

/-- `sorted` of a set of texts. -/
def sortedSet (names : List String) : List String :=
  names.dedup.insertionSort (fun a b => a ≤ b)

/-!
# Containers
-/

section Containers

variable (rt : Runtime)

def isTerminalStatus (state : String) : Bool :=
  match canonicalizeStatus rt (.str state) with
  | .canonical status => status.isTerminalTarget
  | .custom _ => false

def Issue.isTerminal (issue : Issue) : Bool := isTerminalStatus rt issue.state

def Issue.isEpic (parentIds : List String) (issue : Issue) : Bool :=
  rt.lower (strip issue.issueType) = "epic" ||
    issue.labels.any (fun label => rt.lower (strip label) = "epic") ||
    issue.aliases.any (fun name => name ∈ parentIds)

def sameProject (first second : Issue) : Bool :=
  strip first.projectId = "" || strip second.projectId = "" ||
    strip first.projectId = strip second.projectId

def parentIds (issues : List Issue) : List String :=
  (issues.map (fun issue => strip issue.parentId)).filter (fun parentId => parentId ≠ "")

/-- What `_container_resolver` returns. -/
structure Resolver where
  index : List (String × Issue)
  aliasesByIdentifier : List (String × String)
  epicIds : List String

def containerResolver (issues : List Issue) : Resolver where
  index := issues.foldl
    (fun index issue =>
      issue.aliases.foldl (fun index name => setItem index name issue) index) []
  aliasesByIdentifier := issues.foldl
    (fun names issue =>
      if issue.canonical = "" then names
      else issue.aliases.foldl (fun names name => setItem names name issue.canonical) names) []
  epicIds := (issues.filter (fun issue => issue.isEpic rt (parentIds issues))).map
    (fun issue => issue.canonical)

namespace Resolver

variable (resolver : Resolver)

/-- The first epic on the way up from an issue, which stops at a parent it has seen. -/
def climb : Nat -> List String -> Issue -> Option Issue
  | 0, _, _ => none
  | fuel + 1, visited, current =>
    if current.canonical ∈ resolver.epicIds then some current
    else if strip current.parentId = "" ∨ strip current.parentId ∈ visited then none
    else
      match resolver.index.lookup (strip current.parentId) with
      | some parent => climb fuel (strip current.parentId :: visited) parent
      | none => none

def containerForIssue (issue : Issue) : Option Issue :=
  resolver.climb (resolver.index.length + 1) [] issue

def issues : List (String × Dependencies.Issue) :=
  resolver.index.map (fun entry => (entry.1, entry.2.toIssue))

/-- `_dependency_identifiers`. -/
def dependencyIdentifiers (issue : Issue) (includeHardStart : Bool) : List String :=
  let own := Dependencies.integrationDependencies issue.toIssue resolver.issues
  if includeHardStart then
    own ++ (Dependencies.effectiveDependencies issue.toIssue resolver.issues true).filter
      (fun dependency => dependency ∉ own)
  else own

variable {resolver}

/-- Every parent that was seen is a name of the index. -/
theorem climb_fuel (extra fuel : Nat) :
    forall (visited : List String) (current : Issue), visited.Nodup ->
      visited ⊆ resolver.index.map Prod.fst -> resolver.index.length < fuel + visited.length ->
      resolver.climb (fuel + extra) visited current = resolver.climb fuel visited current := by
  induction fuel with
  | zero =>
    intro visited current hnodup hsub hfuel
    have hle := (List.subperm_of_subset hnodup hsub).length_le
    rw [List.length_map] at hle
    omega
  | succ fuel ih =>
    intro visited current hnodup hsub hfuel
    rw [Nat.succ_add]
    unfold climb
    split
    · rfl
    · split
      · rfl
      · rename_i hseen
        rw [not_or] at hseen
        cases hparent : resolver.index.lookup (strip current.parentId) with
        | none => rfl
        | some parent =>
          apply ih
          · exact List.nodup_cons.mpr ⟨hseen.right, hnodup⟩
          · exact List.cons_subset.mpr
              ⟨List.mem_map_of_mem (Dependencies.mem_of_lookup hparent), hsub⟩
          · rw [List.length_cons]
            omega

/-- The fuel is enough for any chain of parents. -/
theorem containerForIssue_fuel (issue : Issue) (extra : Nat) :
    resolver.climb (resolver.index.length + 1 + extra) [] issue =
      resolver.containerForIssue issue := by
  apply climb_fuel extra _ [] issue List.nodup_nil (List.nil_subset _)
  omega

end Resolver
end Containers

/-!
# Edges
-/

section Edges

variable (rt : Runtime)

/-- A dependency of one task on another, as the containers of both see it. -/
structure Projection where
  consumer : String
  provider : String
  dependent : String
  prerequisite : String

def Projection.pair (projection : Projection) : String × String :=
  (projection.consumer, projection.provider)

/-- The dependency of a task of a container on a task of another live container. -/
def projection (resolver : Resolver) (issue consumer : Issue) (dependencyId : String) :
    Option Projection :=
  match resolver.index.lookup dependencyId with
  | none => none
  | some dependency =>
    if sameProject issue dependency = false then none
    else
      match resolver.containerForIssue dependency with
      | none => none
      | some provider =>
        if provider.isTerminal rt then none
        else if provider.canonical = "" ∨ provider.canonical = consumer.canonical then none
        else some {
          consumer := consumer.canonical
          provider := provider.canonical
          dependent := issue.canonical
          prerequisite := dependency.canonical }

def projections (issues : List Issue) (includeHardStart : Bool) : List Projection :=
  let resolver := containerResolver rt issues
  issues.flatMap (fun issue =>
    if issue.isTerminal rt then []
    else
      match resolver.containerForIssue issue with
      | none => []
      | some consumer =>
        if consumer.isTerminal rt ∨ consumer.canonical = "" then []
        else (resolver.dependencyIdentifiers issue includeHardStart).filterMap
          (projection rt resolver issue consumer))

def containerDependencyEdges (issues : List Issue) (includeHardStart : Bool) :
    List ContainerDependencyEdge :=
  let grouped := projections rt issues includeHardStart
  let pairs := (grouped.map Projection.pair).dedup.insertionSort (fun a b => toLex a ≤ toLex b)
  pairs.map (fun pair =>
    { consumer := pair.1
      provider := pair.2
      dependentTasks := sortedSet
        ((grouped.filter (fun entry => entry.pair = pair)).map Projection.dependent)
      prerequisiteTasks := sortedSet
        ((grouped.filter (fun entry => entry.pair = pair)).map Projection.prerequisite) })

end Edges

/-!
# The directed graph
-/

section Graph

variable (edges : List ContainerDependencyEdge)

/-- The sorted providers of a container. -/
def adjacency (node : String) : List String :=
  sortedSet ((edges.filter (fun edge => edge.consumer = node)).map ContainerDependencyEdge.provider)

def containers : List String :=
  sortedSet (edges.flatMap (fun edge => [edge.consumer, edge.provider]))

/-- A container waits for another one. -/
def WaitsFor (x y : String) : Prop := y ∈ adjacency edges x

/-- The edges between containers that follow each other on a path. -/
def pathEdges (path : List String) : List ContainerDependencyEdge :=
  (path.zip path.tail).filterMap (fun pair => edges.find? (fun edge => edge.pair = pair))

variable {edges}

theorem mem_sortedSet {names : List String} {name : String} :
    name ∈ sortedSet names ↔ name ∈ names := by
  unfold sortedSet
  rw [List.mem_insertionSort, List.mem_dedup]

theorem sortedSet_sorted (names : List String) : (sortedSet names).Pairwise (· < ·) := by
  have hle : (sortedSet names).Pairwise (· ≤ ·) := List.pairwise_insertionSort _ _
  have hnodup : (sortedSet names).Nodup :=
    (List.perm_insertionSort _ _).nodup_iff.mpr (List.nodup_dedup names)
  exact (hle.and hnodup).imp (fun h => lt_of_le_of_ne h.left h.right)

theorem waitsFor_iff {x y : String} : WaitsFor edges x y ↔
      exists edge, edge ∈ edges ∧ edge.consumer = x ∧ edge.provider = y := by
  unfold WaitsFor adjacency
  rw [mem_sortedSet, List.mem_map]
  constructor
  · rintro ⟨edge, hedge, hprovider⟩
    rw [List.mem_filter, decide_eq_true_eq] at hedge
    exact ⟨edge, hedge.left, hedge.right, hprovider⟩
  · rintro ⟨edge, hedge, hconsumer, hprovider⟩
    refine ⟨edge, ?_, hprovider⟩
    rw [List.mem_filter, decide_eq_true_eq]
    exact ⟨hedge, hconsumer⟩

theorem mem_containers {x : String} :
    x ∈ containers edges ↔ exists y, WaitsFor edges x y ∨ WaitsFor edges y x := by
  unfold containers
  rw [mem_sortedSet, List.mem_flatMap]
  constructor
  · rintro ⟨edge, hedge, hmem⟩
    rcases List.mem_cons.mp hmem with hconsumer | hprovider
    · exact ⟨edge.provider, Or.inl (waitsFor_iff.mpr ⟨edge, hedge, hconsumer.symm, rfl⟩)⟩
    · rw [List.mem_singleton] at hprovider
      exact ⟨edge.consumer, Or.inr (waitsFor_iff.mpr ⟨edge, hedge, rfl, hprovider.symm⟩)⟩
  · rintro ⟨y, hout | hin⟩
    · rcases waitsFor_iff.mp hout with ⟨edge, hedge, hconsumer, _⟩
      exact ⟨edge, hedge, hconsumer ▸ List.mem_cons_self⟩
    · rcases waitsFor_iff.mp hin with ⟨edge, hedge, _, hprovider⟩
      exact ⟨edge, hedge, hprovider ▸ List.mem_cons_of_mem _ (List.mem_singleton_self _)⟩

end Graph

/-!
# Edges join distinct containers
-/

section Distinct

variable {rt : Runtime} {issues : List Issue} {includeHardStart : Bool}

theorem projection_distinct {resolver : Resolver} {issue consumer : Issue}
    {dependencyId : String} {found : Projection}
    (h : projection rt resolver issue consumer dependencyId = some found) :
    found.consumer ≠ found.provider := by
  unfold projection at h
  split at h
  · cases h
  · split at h
    · cases h
    · split at h
      · cases h
      · split at h
        · cases h
        · split at h
          · cases h
          · rename_i hdistinct
            cases h
            exact fun hsame => hdistinct (Or.inr hsame.symm)

theorem projections_distinct {found : Projection}
    (h : found ∈ projections rt issues includeHardStart) : found.consumer ≠ found.provider := by
  rcases List.mem_flatMap.mp h with ⟨issue, _, hfound⟩
  split at hfound
  · cases hfound
  · split at hfound
    · cases hfound
    · split at hfound
      · cases hfound
      · rcases List.mem_filterMap.mp hfound with ⟨_, _, hprojection⟩
        exact projection_distinct hprojection

theorem containerDependencyEdges_distinct (x : String) :
    ¬ WaitsFor (containerDependencyEdges rt issues includeHardStart) x x := by
  intro hloop
  rcases waitsFor_iff.mp hloop with ⟨edge, hedge, hconsumer, hprovider⟩
  rcases List.mem_map.mp hedge with ⟨pair, hpair, heq⟩
  rw [List.mem_insertionSort, List.mem_dedup] at hpair
  rcases List.mem_map.mp hpair with ⟨found, hfound, hsame⟩
  rw [← heq] at hconsumer hprovider
  apply projections_distinct hfound
  have hconsumer : pair.1 = x := hconsumer
  have hprovider : pair.2 = x := hprovider
  rw [← hsame] at hconsumer hprovider
  exact hconsumer.trans hprovider.symm

end Distinct
end ContainerDependency
end Oompah
