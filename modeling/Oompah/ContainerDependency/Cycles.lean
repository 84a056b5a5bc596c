import Mathlib.Data.List.ReduceOption
import Oompah.ContainerDependency.Edges
import Oompah.Foundation.ClosedPaths
import Oompah.Foundation.Tarjan

/-!
# Cycles between containers

One cycle is reported for each strongly connected component of the container graph, the
least one through the first container of the component.
-/

namespace Oompah
namespace ContainerDependency

open Foundation (Runtime Tarjan Edge Walk ClosedWalk Acyclic)
open Foundation.ClosedPaths
open Dependencies (strip setItem)

structure ContainerDependencyCycle where
  path : List String
  edges : List ContainerDependencyEdge
  affectedTasks : List String
  affectedReadyTasks : List String
  prerequisiteShas : List (String × String)
  authoritativeContainer : Option String
  selectedRepair : String := "needs_human_authorized_delivery_order"
  deriving DecidableEq

/-!
# What a cycle reports
-/

section Report

variable (rt : Runtime)

namespace Resolver

variable (resolver : Resolver)

def ancestors : Nat -> List String -> Issue -> List String
  | 0, _, _ => []
  | fuel + 1, seen, current =>
    if strip current.parentId = "" ∨ strip current.parentId ∈ seen then []
    else
      match resolver.index.lookup (strip current.parentId) with
      | some parent =>
        parent.canonical :: ancestors fuel (strip current.parentId :: seen) parent
      | none => []

/-- `_authoritative_ancestor`: the nearest container above the whole cycle. -/
def authoritativeAncestor (path : List String) : Option String :=
  let chains := path.dropLast.map (fun containerId =>
    match resolver.index.lookup containerId with
    | some issue => resolver.ancestors (resolver.index.length + 1) [] issue
    | none => [])
  match chains with
  | [] => none
  | first :: rest => first.find? (fun candidate => rest.all (fun chain => candidate ∈ chain))

def issueContainers (issues : List Issue) : List (String × String) :=
  issues.foldl
    (fun entries issue =>
      match resolver.containerForIssue issue with
      | some container => setItem entries issue.canonical container.canonical
      | none => entries) []

def readyAliases (readyTaskIds : List String) : List String :=
  ((readyTaskIds.map strip).filter (fun value => value ≠ "")).map
    (fun value => (resolver.aliasesByIdentifier.lookup value).getD value)

end Resolver

def prerequisiteShas (issues : List Issue) (affected : List String) : List (String × String) :=
  (issues.foldl
    (fun shas issue =>
      if issue.canonical ∈ affected ∧ strip issue.integratedSha ≠ "" ∧
          issue.isTerminal rt = true then
        setItem shas issue.canonical (strip issue.integratedSha)
      else shas) []).insertionSort (fun a b => toLex a ≤ toLex b)

def cycleReport (issues : List Issue) (readyTaskIds : List String)
    (edges : List ContainerDependencyEdge) (component path : List String) :
    ContainerDependencyCycle :=
  let resolver := containerResolver rt issues
  let affected := (((resolver.issueContainers issues).filter
    (fun entry => entry.2 ∈ component)).map Prod.fst).insertionSort (fun a b => a ≤ b)
  { path := path
    edges := pathEdges edges path
    affectedTasks := affected
    affectedReadyTasks := affected.filter
      (fun identifier => identifier ∈ resolver.readyAliases readyTaskIds)
    prerequisiteShas := prerequisiteShas rt issues affected
    authoritativeContainer := resolver.authoritativeAncestor path }

end Report

/-!
# The search for cycles
-/

section Definitions

variable (rt : Runtime) (edges : List ContainerDependencyEdge)

/-- `none` is a search that did not end. -/
def stronglyConnectedComponents : Option (List (List String)) :=
  (Tarjan.stronglyConnected (adjacency edges) ((containers edges).length + 1)
    (containers edges)).map
    (fun components => components.insertionSort (fun a b => sortedSet a ≤ sortedSet b))

def cyclePath (start : String) (component : List String) : Option (Option (List String)) :=
  closedPath component start (adjacency edges)

def componentPath (component : List String) : Option (Option (List String)) :=
  if component.length = 1 ∧ component.all (fun node => node ∉ adjacency edges node) = true then
    some none
  else
    match component.min? with
    | some start => cyclePath edges start component
    | none => some none

def findContainerDependencyCycles (issues : List Issue) (readyTaskIds : List String)
    (includeHardStart : Bool) : Option (List ContainerDependencyCycle) := do
  let edges := containerDependencyEdges rt issues includeHardStart
  let components <- stronglyConnectedComponents edges
  let cycles <- components.mapM (fun component =>
    (componentPath edges component).map (fun found =>
      found.map (cycleReport rt issues readyTaskIds edges component)))
  return cycles.reduceOption

end Definitions

/-!
# Components
-/

/-- All containers that wait for each other, directly or not. -/
def IsStronglyConnected (edges : List ContainerDependencyEdge) (members : Set String) : Prop :=
  exists x, x ∈ members ∧ forall y, y ∈ members ↔
    Relation.ReflTransGen (WaitsFor edges) x y ∧ Relation.ReflTransGen (WaitsFor edges) y x

section Components

variable {edges : List ContainerDependencyEdge} {component : List String}

theorem stronglyConnectedComponents_spec (edges : List ContainerDependencyEdge) :
    exists components, stronglyConnectedComponents edges = some components ∧
      (forall component, component ∈ components -> Tarjan.IsComponent (adjacency edges) component) ∧
      (forall x, x ∈ containers edges -> exists component, component ∈ components ∧ x ∈ component) ∧
      components.Pairwise (fun first second => forall x, x ∈ first -> x ∉ second) := by
  have hclosed : forall x, x ∈ containers edges -> forall y, y ∈ adjacency edges x ->
      y ∈ containers edges :=
    fun x _ y hy => mem_containers.mpr ⟨x, Or.inr hy⟩
  rcases Tarjan.stronglyConnected_spec hclosed (Nat.lt_succ_self _) with
    ⟨components, hrun, hcomplete, hcovered, hapart⟩
  have hperm := List.perm_insertionSort (fun a b => sortedSet a ≤ sortedSet b) components
  refine ⟨_, Option.map_eq_some_iff.mpr ⟨components, hrun, rfl⟩, ?_, ?_, ?_⟩
  · exact fun component hmem => hcomplete component (hperm.mem_iff.mp hmem)
  · intro x hx
    rcases hcovered x hx with ⟨component, hmem, hin⟩
    exact ⟨component, hperm.mem_iff.mpr hmem, hin⟩
  · apply (hperm.pairwise_iff _).mpr hapart
    intro first second hfar x hx hfirst
    exact hfar x hfirst hx

/-- A component with two members has a closed path through each of them. -/
theorem exists_loop (hself : forall x, ¬ WaitsFor edges x x)
    (hcomponent : Tarjan.IsComponent (adjacency edges) component)
    (hsize : 1 < component.length) {start : String} (hstart : start ∈ component) :
    exists path, Loop (adjacency edges) component start path := by
  have hother : exists other, other ∈ component ∧ other ≠ start := by
    by_contra hnone
    have hall : component ⊆ [start] := by
      intro x hx
      rw [List.mem_singleton]
      by_contra hne
      exact hnone ⟨x, hx, hne⟩
    have hle := (List.subperm_of_subset hcomponent.left hall).length_le
    rw [List.length_singleton] at hle
    omega
  rcases hother with ⟨other, hmem, hne⟩
  have hreach := (hcomponent.mem_iff hstart other).mp hmem
  have hinside : forall x, Relation.ReflTransGen (Edge (adjacency edges)) start x ->
      Relation.ReflTransGen (Edge (adjacency edges)) x start -> x ∈ component :=
    fun x hfrom hback => (hcomponent.mem_iff hstart x).mpr ⟨hfrom, hback⟩
  rcases Relation.ReflTransGen.cases_tail hreach.right with hsame | ⟨last, hto, hedge⟩
  · exact absurd hsame.symm hne
  · have hlast : last ≠ start := by
      rintro rfl
      exact hself last hedge
    rcases exists_simpleCycle hlast (hreach.left.trans hto) hedge with ⟨path, hpath⟩
    exact ⟨path, (loop_iff hinside path).mpr hpath⟩

/-- A closed path of a component. -/
structure ComponentPath (edges : List ContainerDependencyEdge) (component path : List String) :
    Prop where
  closed : ClosedWalk (WaitsFor edges) path
  inside : forall x, x ∈ path -> x ∈ component
  nonempty : path ≠ []

variable (edges) in
theorem cyclePath_spec (start : String) (hstart : start ∈ component) :
    exists found, cyclePath edges start component = some found ∧
      Finds (· < ·) (adjacency edges) component start found :=
  closedPath_finds (fun _ => sortedSet_sorted _) hstart

theorem first_componentPath {start : String} {path : List String}
    (h : First (· < ·) (adjacency edges) component start path) :
    ComponentPath edges component (path ++ [start]) := by
  rcases h.left with ⟨hlong, node, hbranch, hback⟩
  refine ⟨⟨start, hbranch.walk.snoc hback, ?_⟩, ?_, ?_⟩
  · rw [List.length_append, List.length_singleton]
    omega
  · intro x hx
    rcases List.mem_append.mp hx with hin | hlast
    · exact hbranch.inside x hin
    · rw [List.mem_singleton.mp hlast]
      exact hbranch.inside start (List.mem_of_mem_head? hbranch.walk.head)
  · exact List.append_ne_nil_of_right_ne_nil _ (List.cons_ne_nil _ _)

theorem componentPath_spec (hself : forall x, ¬ WaitsFor edges x x)
    (hcomponent : Tarjan.IsComponent (adjacency edges) component) :
    exists found, componentPath edges component = some found ∧
      (found.isSome = true ↔ 1 < component.length) ∧
      forall path, found = some path -> ComponentPath edges component path := by
  rcases hcomponent.right with ⟨centre, hcentre, _⟩
  have hpos := List.length_pos_of_mem hcentre
  unfold componentPath
  by_cases hsingle : component.length = 1
  · have hall : component.all (fun node => node ∉ adjacency edges node) = true := by
      rw [List.all_eq_true]
      exact fun x _ => decide_eq_true (hself x)
    rw [if_pos ⟨hsingle, hall⟩]
    refine ⟨none, rfl, ?_, fun _ hnone => by cases hnone⟩
    rw [hsingle]
    simp
  · rw [if_neg (fun h => hsingle h.left)]
    have hsize : 1 < component.length := by omega
    cases hmin : component.min? with
    | none =>
      rw [List.min?_eq_none_iff] at hmin
      rw [hmin] at hpos
      exact absurd hpos (Nat.lt_irrefl 0)
    | some start =>
      have hstart := List.min?_mem hmin
      rcases cyclePath_spec edges start hstart with ⟨found, hrun, hfound⟩
      refine ⟨found, hrun, ?_, ?_⟩
      · cases found with
        | none =>
          rcases exists_loop hself hcomponent hsize hstart with ⟨path, hpath⟩
          exact absurd hpath (hfound path)
        | some path => simp [hsize]
      · intro path hpath
        rw [hpath] at hfound
        rcases hfound with ⟨loop, hclosed, hfirst⟩
        rw [hclosed]
        exact first_componentPath hfirst

end Components

/-!
# The reported cycles
-/

section Found

variable {edges : List ContainerDependencyEdge}

theorem mapM_map {α β : Type} {f : α -> Option β} {g : α -> β} {items : List α}
    (h : forall item, item ∈ items -> f item = some (g item)) :
    items.mapM f = some (items.map g) := by
  induction items with
  | nil => rfl
  | cons item items ih =>
    rw [List.mapM_cons, h item List.mem_cons_self,
      ih (fun other hother => h other (List.mem_cons_of_mem _ hother))]
    rfl

theorem isStronglyConnected_of_component {component : List String}
    (h : Tarjan.IsComponent (adjacency edges) component) :
    IsStronglyConnected edges (fun x => x ∈ component) := by
  rcases h.right with ⟨centre, hcentre, hmem⟩
  exact ⟨centre, hcentre, hmem⟩

theorem IsStronglyConnected.mem_iff {members : Set String}
    (h : IsStronglyConnected edges members) {x : String} (hx : x ∈ members) (y : String) :
    y ∈ members ↔ Relation.ReflTransGen (WaitsFor edges) x y ∧
      Relation.ReflTransGen (WaitsFor edges) y x := by
  rcases h with ⟨centre, _, hmem⟩
  have hcentre := (hmem x).mp hx
  rw [hmem]
  constructor
  · rintro ⟨hfrom, hback⟩
    exact ⟨hcentre.right.trans hfrom, hback.trans hcentre.left⟩
  · rintro ⟨hfrom, hback⟩
    exact ⟨hcentre.left.trans hfrom, hback.trans hcentre.right⟩

/-- What the cycles have to do with the components they come from. -/
structure CyclesOf (edges : List ContainerDependencyEdge) (components : List (List String))
    (cycles : List ContainerDependencyCycle) : Prop where
  origin : forall cycle, cycle ∈ cycles -> exists component, component ∈ components ∧
    1 < component.length ∧ ComponentPath edges component cycle.path
  present : forall component, component ∈ components -> 1 < component.length ->
    exists cycle, cycle ∈ cycles ∧ ComponentPath edges component cycle.path
  separate : cycles.Pairwise (fun first second => exists left right,
    left ∈ components ∧ (forall x, x ∈ left -> x ∉ right) ∧
      ComponentPath edges left first.path ∧ ComponentPath edges right second.path)

theorem findContainerDependencyCycles_cyclesOf (rt : Runtime) (issues : List Issue)
    (readyTaskIds : List String) (includeHardStart : Bool) :
    exists components cycles,
      stronglyConnectedComponents (containerDependencyEdges rt issues includeHardStart) =
        some components ∧
      findContainerDependencyCycles rt issues readyTaskIds includeHardStart = some cycles ∧
      CyclesOf (containerDependencyEdges rt issues includeHardStart) components cycles := by
  generalize hedges : containerDependencyEdges rt issues includeHardStart = edges
  have hself : forall x, ¬ WaitsFor edges x x := by
    rw [← hedges]
    exact containerDependencyEdges_distinct
  rcases stronglyConnectedComponents_spec edges with
    ⟨components, hrun, hcomplete, _, hapart⟩
  have hpath := fun component hmem => componentPath_spec hself (hcomplete component hmem)
  let found := fun component => ((componentPath edges component).getD none).map
    (cycleReport rt issues readyTaskIds edges component)
  have hfound : forall component, component ∈ components ->
      (componentPath edges component).map (fun found =>
        found.map (cycleReport rt issues readyTaskIds edges component)) =
          some (found component) := by
    intro component hmem
    rcases hpath component hmem with ⟨path, hsome, _⟩
    unfold found
    rw [hsome]
    rfl
  have hcycle : forall component, component ∈ components ->
      forall cycle, found component = some cycle ->
        1 < component.length ∧ ComponentPath edges component cycle.path := by
    intro component hmem cycle hcycle
    rcases hpath component hmem with ⟨path, hsome, hsize, hspec⟩
    unfold found at hcycle
    rw [hsome] at hcycle
    rcases Option.map_eq_some_iff.mp hcycle with ⟨nodes, hnodes, hreport⟩
    have hnodes : path = some nodes := hnodes
    rw [← hreport]
    refine ⟨hsize.mp ?_, hspec nodes hnodes⟩
    rw [hnodes]
    rfl
  refine ⟨components, components.filterMap found, hrun, ?_, ?_⟩
  · unfold findContainerDependencyCycles
    rw [hedges]
    dsimp only
    rw [hrun, Option.bind_eq_bind, Option.bind_some, mapM_map hfound]
    show some (components.map found).reduceOption = _
    unfold List.reduceOption
    rw [List.filterMap_map]
    rfl
  constructor
  · intro cycle hmem
    rcases List.mem_filterMap.mp hmem with ⟨component, hcomponent, heq⟩
    exact ⟨component, hcomponent, hcycle component hcomponent cycle heq⟩
  · intro component hmem hsize
    rcases hpath component hmem with ⟨path, hsome, hiff, hspec⟩
    rcases Option.isSome_iff_exists.mp (hiff.mpr hsize) with ⟨nodes, hnodes⟩
    refine ⟨cycleReport rt issues readyTaskIds edges component nodes, ?_, hspec nodes hnodes⟩
    rw [List.mem_filterMap]
    refine ⟨component, hmem, ?_⟩
    unfold found
    rw [hsome, hnodes]
    rfl
  · rw [List.pairwise_filterMap]
    apply hapart.imp_of_mem
    intro left right hleft hright hfar first hfirst second hsecond
    exact ⟨left, right, hleft, hfar, (hcycle left hleft first hfirst).right,
      (hcycle right hright second hsecond).right⟩

end Found

section Exact

variable {edges : List ContainerDependencyEdge} {components : List (List String)}
  {cycles : List ContainerDependencyCycle}
  (h : CyclesOf edges components cycles)
  (hcomplete : forall component, component ∈ components ->
    Tarjan.IsComponent (adjacency edges) component)
include h hcomplete

/-- The component a cycle comes from is the one its path lies in. -/
theorem CyclesOf.origin_connected {cycle : ContainerDependencyCycle} (hcycle : cycle ∈ cycles) :
    exists members, IsStronglyConnected edges members ∧ members.Nontrivial ∧
      forall x, x ∈ cycle.path -> x ∈ members := by
  rcases h.origin cycle hcycle with ⟨component, hmem, hsize, hpath⟩
  have hcomponent := hcomplete component hmem
  refine ⟨fun x => x ∈ component, isStronglyConnected_of_component hcomponent, ?_, hpath.inside⟩
  have hnodup := hcomponent.left
  cases component with
  | nil => exact absurd hsize (Nat.not_lt_zero _)
  | cons first rest =>
    cases rest with
    | nil => exact absurd hsize (Nat.lt_irrefl 1)
    | cons second rest =>
      refine ⟨first, List.mem_cons_self, second, List.mem_cons_of_mem _ List.mem_cons_self, ?_⟩
      rintro rfl
      exact (List.nodup_cons.mp hnodup).left List.mem_cons_self

theorem CyclesOf.separate_connected {members : Set String}
    (hmembers : IsStronglyConnected edges members) :
    cycles.Pairwise (fun first second =>
      ¬ ((forall x, x ∈ first.path -> x ∈ members) ∧
        forall x, x ∈ second.path -> x ∈ members)) := by
  apply h.separate.imp
  rintro first second ⟨left, right, hleft, hfar, hfirst, hsecond⟩ ⟨hfirstIn, hsecondIn⟩
  rcases List.exists_mem_of_ne_nil _ hfirst.nonempty with ⟨x, hx⟩
  rcases List.exists_mem_of_ne_nil _ hsecond.nonempty with ⟨y, hy⟩
  have hreach := (hmembers.mem_iff (hfirstIn x hx) y).mp (hsecondIn y hy)
  have hin := ((hcomplete left hleft).mem_iff (hfirst.inside x hx) y).mpr hreach
  exact hfar y hin (hsecond.inside y hy)

theorem CyclesOf.exists_unique (hcovered : forall x, x ∈ containers edges ->
      exists component, component ∈ components ∧ x ∈ component)
    {members : Set String} (hmembers : IsStronglyConnected edges members)
    (hlarge : members.Nontrivial) :
    ∃! i : Fin cycles.length, forall x, x ∈ (cycles.get i).path -> x ∈ members := by
  rcases hlarge with ⟨x, hx, y, hy, hne⟩
  have hreach := (hmembers.mem_iff hx y).mp hy
  have hcontainer : x ∈ containers edges := by
    rcases Relation.ReflTransGen.cases_head hreach.left with hsame | ⟨z, hedge, _⟩
    · exact absurd hsame hne
    · exact mem_containers.mpr ⟨z, Or.inl hedge⟩
  rcases hcovered x hcontainer with ⟨component, hmem, hxIn⟩
  have hcomponent := hcomplete component hmem
  have hyIn := (hcomponent.mem_iff hxIn y).mpr hreach
  have hsize : 1 < component.length := by
    have hnodup : [x, y].Nodup := by simp [hne]
    exact (List.subperm_of_subset hnodup
      (List.cons_subset.mpr ⟨hxIn, List.cons_subset.mpr ⟨hyIn, List.nil_subset _⟩⟩)).length_le
  rcases h.present component hmem hsize with ⟨cycle, hcycle, hpath⟩
  rcases List.get_of_mem hcycle with ⟨i, hi⟩
  have hinside : forall z, z ∈ (cycles.get i).path -> z ∈ members := by
    rw [hi]
    intro z hz
    have hz := (hcomponent.mem_iff hxIn z).mp (hpath.inside z hz)
    exact (hmembers.mem_iff hx z).mpr hz
  refine ⟨i, hinside, ?_⟩
  intro j hj
  have hseparate := List.pairwise_iff_get.mp (h.separate_connected hcomplete hmembers)
  rcases Nat.lt_trichotomy i.val j.val with hless | hsame | hgreater
  · exact absurd ⟨hinside, hj⟩ (hseparate i j hless)
  · exact Fin.ext hsame.symm
  · exact absurd ⟨hj, hinside⟩ (hseparate j i hgreater)

theorem CyclesOf.nil_iff (hself : forall x, ¬ WaitsFor edges x x)
    (hcovered : forall x, x ∈ containers edges ->
      exists component, component ∈ components ∧ x ∈ component) :
    cycles = [] ↔ Acyclic (WaitsFor edges) := by
  constructor
  · intro hnil x hcycle
    rcases Relation.TransGen.head'_iff.mp hcycle with ⟨y, hedge, hback⟩
    have hmembers : IsStronglyConnected edges (fun z =>
        Relation.ReflTransGen (WaitsFor edges) x z ∧ Relation.ReflTransGen (WaitsFor edges) z x) :=
      ⟨x, ⟨Relation.ReflTransGen.refl, Relation.ReflTransGen.refl⟩, fun _ => Iff.rfl⟩
    have hlarge : Set.Nontrivial (fun z => Relation.ReflTransGen (WaitsFor edges) x z ∧
        Relation.ReflTransGen (WaitsFor edges) z x) := by
      refine ⟨x, ⟨Relation.ReflTransGen.refl, Relation.ReflTransGen.refl⟩, y,
        ⟨Relation.ReflTransGen.single hedge, hback⟩, ?_⟩
      rintro rfl
      exact hself x hedge
    rcases h.exists_unique hcomplete hcovered hmembers hlarge with ⟨i, _⟩
    subst hnil
    exact absurd i.isLt (Nat.not_lt_zero _)
  · intro hacyclic
    apply List.eq_nil_iff_forall_not_mem.mpr
    intro cycle hcycle
    rcases h.origin cycle hcycle with ⟨component, hmem, _, hpath⟩
    rcases hpath.closed with ⟨x, hwalk, hlong⟩
    cases hnodes : cycle.path with
    | nil =>
      rw [hnodes] at hlong
      exact Nat.not_lt_zero _ hlong
    | cons first rest =>
      cases rest with
      | nil =>
        rw [hnodes] at hlong
        exact Nat.lt_irrefl 1 hlong
      | cons second rest =>
        rw [hnodes] at hwalk
        cases hwalk.head
        have hchain := List.isChain_cons_cons.mp hwalk.chain
        have hrest : Walk (WaitsFor edges) second x (second :: rest) := by
          refine ⟨hchain.right, rfl, ?_⟩
          have hlast := hwalk.last
          exact hlast
        exact hacyclic x (Relation.TransGen.head' hchain.left hrest.reflTransGen)

end Exact

/--
The search reports one closed path for every component with two members, inside it,
and none where the containers are in order.
-/
theorem findContainerDependencyCycles_exact (rt : Runtime) (issues : List Issue)
    (readyTaskIds : List String) (includeHardStart : Bool) :
    exists cycles,
      findContainerDependencyCycles rt issues readyTaskIds includeHardStart = some cycles ∧
      (forall members,
        IsStronglyConnected (containerDependencyEdges rt issues includeHardStart) members ->
        members.Nontrivial ->
        ∃! i : Fin cycles.length, forall x, x ∈ (cycles.get i).path -> x ∈ members) ∧
      (forall cycle, cycle ∈ cycles ->
        ClosedWalk (WaitsFor (containerDependencyEdges rt issues includeHardStart)) cycle.path ∧
        exists members,
          IsStronglyConnected (containerDependencyEdges rt issues includeHardStart) members ∧
          members.Nontrivial ∧ forall x, x ∈ cycle.path -> x ∈ members) ∧
      (cycles = [] ↔ Acyclic (WaitsFor (containerDependencyEdges rt issues includeHardStart))) := by
  rcases findContainerDependencyCycles_cyclesOf rt issues readyTaskIds includeHardStart with
    ⟨components, cycles, hrun, hfind, hcycles⟩
  rcases stronglyConnectedComponents_spec
    (containerDependencyEdges rt issues includeHardStart) with
    ⟨components', hrun', hcomplete, hcovered, _⟩
  rw [hrun] at hrun'
  cases hrun'
  refine ⟨cycles, hfind, ?_, ?_, ?_⟩
  · intro members hmembers hlarge
    exact hcycles.exists_unique hcomplete hcovered hmembers hlarge
  · intro cycle hcycle
    rcases hcycles.origin cycle hcycle with ⟨_, _, _, hpath⟩
    exact ⟨hpath.closed, hcycles.origin_connected hcomplete hcycle⟩
  · exact hcycles.nil_iff hcomplete containerDependencyEdges_distinct hcovered

end ContainerDependency
end Oompah
