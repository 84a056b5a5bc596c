import Oompah.ContainerDependency.Cycles

/-!
# The cycle a new dependency closes

The check of a new dependency adds its edge to the container graph and looks at the
least closed path through the waiting container.  Where that path leads around the
other container, the cycle that the edge closes is not reported.
-/

namespace Oompah
namespace ContainerDependency

open Foundation (Runtime Tarjan Edge Walk WithEdges withEdges_path)
open Foundation.ClosedPaths
open Dependencies (strip setItem)
open TaskEvaluation (canonicalizeStatus)
open Runtime (ascii)

/-!
# The check
-/

section Definitions

variable (rt : Runtime)

/-- The edges with the proposed one. -/
def withProposedEdge (existing : List ContainerDependencyEdge) (consumer provider : String)
    (blocked blocker : Issue) : List ContainerDependencyEdge :=
  match existing.find? (fun edge => edge.pair = (consumer, provider)) with
  | none =>
    existing ++ [{
      consumer := consumer
      provider := provider
      dependentTasks := [blocked.canonical]
      prerequisiteTasks := [blocker.canonical] }]
  | some edge =>
    existing.replace edge {
      edge with
      dependentTasks := sortedSet (edge.dependentTasks ++ [blocked.canonical])
      prerequisiteTasks := sortedSet (edge.prerequisiteTasks ++ [blocker.canonical]) }

def Resolver.liesIn (resolver : Resolver) (component : List String) (issue : Issue) : Bool :=
  match resolver.containerForIssue issue with
  | some container => container.canonical ∈ component
  | none => false

def newEdgeReport (issues : List Issue) (edges : List ContainerDependencyEdge)
    (component path : List String) : ContainerDependencyCycle :=
  let resolver := containerResolver rt issues
  let members := issues.filter
    (fun issue => issue.canonical ≠ "" && resolver.liesIn component issue)
  let affected := (members.map (fun issue => issue.canonical)).insertionSort (fun a b => a ≤ b)
  let ready := (members.filter (fun issue =>
    canonicalizeStatus rt (.str issue.state) = .canonical .readyToIntegrate)).map
      (fun issue => issue.canonical)
  { path := path
    edges := pathEdges edges path
    affectedTasks := affected
    affectedReadyTasks := ready.insertionSort (fun a b => a ≤ b)
    prerequisiteShas := prerequisiteShas rt
      (issues.filter (fun issue => issue.canonical ≠ "")) affected
    authoritativeContainer := resolver.authoritativeAncestor path }

/-- The first component whose path from the consumer leads through the provider. -/
def cycleThrough (issues : List Issue) (edges : List ContainerDependencyEdge)
    (consumer provider : String) : List (List String) -> Option (Option ContainerDependencyCycle)
  | [] => some none
  | component :: rest =>
    if consumer ∉ component ∨ provider ∉ component ∨ component.length = 1 then
      cycleThrough issues edges consumer provider rest
    else
      match cyclePath edges consumer component with
      | none => none
      | some none => cycleThrough issues edges consumer provider rest
      | some (some path) =>
        if provider ∉ path then cycleThrough issues edges consumer provider rest
        else some (some (newEdgeReport rt issues edges component path))

/-- The outer `none` is a search that did not end. -/
def containerDependencyCycleForNewEdge (issues : List Issue)
    (blockedIdentifier blockerIdentifier : String) (includeHardStart : Bool) :
    Option (Option ContainerDependencyCycle) :=
  let resolver := containerResolver rt issues
  match (resolver.index.lookup blockedIdentifier).or
      (resolver.index.lookup (strip blockedIdentifier)),
    (resolver.index.lookup blockerIdentifier).or
      (resolver.index.lookup (strip blockerIdentifier)) with
  | some blocked, some blocker =>
    if sameProject blocked blocker = false then some none
    else
      match resolver.containerForIssue blocked, resolver.containerForIssue blocker with
      | some consumer, some provider =>
        if consumer.canonical = provider.canonical ∨ consumer.isTerminal rt = true ∨
            provider.isTerminal rt = true then
          some none
        else
          let edges := withProposedEdge (containerDependencyEdges rt issues includeHardStart)
            consumer.canonical provider.canonical blocked blocker
          (stronglyConnectedComponents edges).bind
            (cycleThrough rt issues edges consumer.canonical provider.canonical)
      | _, _ => some none
  | _, _ => some none

/-- A proposed edge between tasks of one project, with distinct containers at work. -/
structure Proposal (issues : List Issue) (blockedIdentifier blockerIdentifier : String)
    (blocked blocker consumer provider : Issue) : Prop where
  blockedFound : ((containerResolver rt issues).index.lookup blockedIdentifier).or
    ((containerResolver rt issues).index.lookup (strip blockedIdentifier)) = some blocked
  blockerFound : ((containerResolver rt issues).index.lookup blockerIdentifier).or
    ((containerResolver rt issues).index.lookup (strip blockerIdentifier)) = some blocker
  project : sameProject blocked blocker = true
  consumerFound : (containerResolver rt issues).containerForIssue blocked = some consumer
  providerFound : (containerResolver rt issues).containerForIssue blocker = some provider
  distinct : consumer.canonical ≠ provider.canonical
  consumerLive : consumer.isTerminal rt = false
  providerLive : provider.isTerminal rt = false

end Definitions

/-!
# The graph with the new edge
-/

section Extended

variable {edges : List ContainerDependencyEdge} {consumer provider : String}
  {blocked blocker : Issue}

theorem replace_pairs {edge new : ContainerDependencyEdge} (hpair : new.pair = edge.pair) :
    (edges.replace edge new).map ContainerDependencyEdge.pair =
      edges.map ContainerDependencyEdge.pair := by
  induction edges with
  | nil => rfl
  | cons first rest ih =>
    rw [List.replace_cons]
    by_cases hsame : edge = first
    · subst hsame
      rw [beq_self_eq_true]
      show new.pair :: _ = edge.pair :: _
      rw [hpair]
    · rw [beq_false_of_ne hsame]
      show first.pair :: _ = first.pair :: _
      rw [ih]

theorem waitsFor_pair {x y : String} :
    WaitsFor edges x y ↔ (x, y) ∈ edges.map ContainerDependencyEdge.pair := by
  rw [waitsFor_iff, List.mem_map]
  unfold ContainerDependencyEdge.pair
  simp only [Prod.mk.injEq]

theorem waitsFor_withProposedEdge {x y : String} :
    WaitsFor (withProposedEdge edges consumer provider blocked blocker) x y ↔
      WithEdges (WaitsFor edges) (fun x => x = consumer) provider x y := by
  unfold WithEdges
  rw [waitsFor_pair, waitsFor_pair]
  unfold withProposedEdge
  cases hfind : edges.find? (fun edge => edge.pair = (consumer, provider)) with
  | none =>
    rw [List.map_append, List.mem_append]
    apply or_congr Iff.rfl
    show (x, y) ∈ [(consumer, provider)] ↔ _
    rw [List.mem_singleton, Prod.mk.injEq]
  | some edge =>
    have hpair : edge.pair = (consumer, provider) := by
      have hfits := List.find?_some hfind
      exact of_decide_eq_true hfits
    have hmem : (consumer, provider) ∈ edges.map ContainerDependencyEdge.pair :=
      List.mem_map.mpr ⟨edge, List.mem_of_find?_eq_some hfind, hpair⟩
    rw [replace_pairs]
    · constructor
      · exact fun h => Or.inl h
      · rintro (hold | ⟨hx, hy⟩)
        · exact hold
        · rw [hx, hy]
          exact hmem
    · rfl

theorem waitsFor_proposed :
    WaitsFor (withProposedEdge edges consumer provider blocked blocker) consumer provider :=
  waitsFor_withProposedEdge.mpr (Or.inr ⟨rfl, rfl⟩)

theorem withProposedEdge_distinct (hself : forall x, ¬ WaitsFor edges x x)
    (hdistinct : consumer ≠ provider) (x : String) :
    ¬ WaitsFor (withProposedEdge edges consumer provider blocked blocker) x x := by
  rw [waitsFor_withProposedEdge]
  rintro (hold | ⟨hx, hy⟩)
  · exact hself x hold
  · exact hdistinct (hx.symm.trans hy)

variable (edges consumer provider blocked blocker) in
/-- The way back from the provider does not need the proposed edge. -/
theorem reaches_withProposedEdge_iff : Relation.ReflTransGen
        (WaitsFor (withProposedEdge edges consumer provider blocked blocker))
        provider consumer ↔
      Relation.ReflTransGen (WaitsFor edges) provider consumer := by
  have hrelation : WaitsFor (withProposedEdge edges consumer provider blocked blocker) =
      WithEdges (WaitsFor edges) (fun x => x = consumer) provider := by
    funext x y
    exact propext waitsFor_withProposedEdge
  rw [hrelation]
  constructor
  · intro h
    rcases Relation.reflTransGen_iff_eq_or_transGen.mp h with hsame | hpath
    · rw [hsame]
    · rcases withEdges_path hpath with hold | ⟨source, hsource, hto, _⟩
      · exact hold.to_reflTransGen
      · rw [← hsource]
        exact hto
  · exact fun h => Relation.ReflTransGen.mono (fun _ _ hold => Or.inl hold) _ _ h

end Extended

/-!
# Which component decides
-/

section Decision

variable {rt : Runtime} {issues : List Issue} {edges : List ContainerDependencyEdge}
  {consumer provider : String}

theorem cycleThrough_skip {before rest : List (List String)}
    (h : forall component, component ∈ before -> consumer ∉ component ∨ provider ∉ component) :
    cycleThrough rt issues edges consumer provider (before ++ rest) =
      cycleThrough rt issues edges consumer provider rest := by
  induction before with
  | nil => rfl
  | cons component before ih =>
    have hskip : consumer ∉ component ∨ provider ∉ component ∨ component.length = 1 := by
      rcases h component List.mem_cons_self with hconsumer | hprovider
      · exact .inl hconsumer
      · exact .inr (Or.inl hprovider)
    rw [List.cons_append, cycleThrough, if_pos hskip]
    exact ih (fun other hother => h other (List.mem_cons_of_mem _ hother))

theorem cycleThrough_none {components : List (List String)}
    (h : forall component, component ∈ components -> consumer ∉ component ∨ provider ∉ component) :
    cycleThrough rt issues edges consumer provider components = some none := by
  have hrun : cycleThrough rt issues edges consumer provider (components ++ []) = _ :=
    cycleThrough_skip h
  rw [List.append_nil] at hrun
  exact hrun

variable (rt issues) in
/-- The component of both containers is the only one whose path is looked at. -/
theorem cycleThrough_component {components : List (List String)} {component : List String}
    (hself : forall x, ¬ WaitsFor edges x x) (hdistinct : consumer ≠ provider)
    (hcomponent : Tarjan.IsComponent (adjacency edges) component)
    (hapart : components.Pairwise (fun first second => forall x, x ∈ first -> x ∉ second))
    (hmem : component ∈ components) (hconsumer : consumer ∈ component)
    (hprovider : provider ∈ component) :
    exists path found, cycleThrough rt issues edges consumer provider components = some found ∧
      First (· < ·) (adjacency edges) component consumer path ∧
      (found.isSome = true ↔ provider ∈ path) := by
  rcases List.append_of_mem hmem with ⟨before, after, hsplit⟩
  rw [hsplit] at hapart ⊢
  have hbefore : forall other, other ∈ before -> consumer ∉ other ∨ provider ∉ other := by
    intro other hother
    left
    intro hin
    exact (List.pairwise_append.mp hapart).right.right other hother component
      List.mem_cons_self consumer hin hconsumer
  have hafter : forall other, other ∈ after -> consumer ∉ other ∨ provider ∉ other := by
    intro other hother
    left
    exact (List.pairwise_cons.mp (List.pairwise_append.mp hapart).right.left).left other
      hother consumer hconsumer
  rw [cycleThrough_skip hbefore]
  have hsize : 1 < component.length := by
    have hnodup : [consumer, provider].Nodup := by simp [hdistinct]
    exact (List.subperm_of_subset hnodup (List.cons_subset.mpr
      ⟨hconsumer, List.cons_subset.mpr ⟨hprovider, List.nil_subset _⟩⟩)).length_le
  have hlook : ¬ (consumer ∉ component ∨ provider ∉ component ∨ component.length = 1) := by
    rintro (hout | hout | hsingle)
    · exact hout hconsumer
    · exact hout hprovider
    · omega
  unfold cycleThrough
  rw [if_neg hlook]
  rcases cyclePath_spec edges consumer hconsumer with ⟨closed, hrun, hfound⟩
  rw [hrun]
  cases closed with
  | none =>
    rcases exists_loop hself hcomponent hsize hconsumer with ⟨loop, hloop⟩
    exact absurd hloop (hfound loop)
  | some closed =>
    rcases hfound with ⟨path, hclosed, hfirst⟩
    have hiff : provider ∈ closed ↔ provider ∈ path := by
      rw [hclosed, List.mem_append, List.mem_singleton]
      exact ⟨fun h => h.resolve_right (fun hsame => hdistinct hsame.symm), Or.inl⟩
    dsimp only
    by_cases hin : provider ∈ closed
    · rw [if_neg (not_not.mpr hin)]
      exact ⟨path, _, rfl, hfirst, ⟨fun _ => hiff.mp hin, fun _ => rfl⟩⟩
    · rw [if_pos hin, cycleThrough_none hafter]
      refine ⟨path, none, rfl, hfirst, ?_⟩
      constructor
      · intro hsome
        cases hsome
      · exact fun hpath => absurd (hiff.mpr hpath) hin

end Decision

/-!
# What the check detects
-/

section Detection

variable {rt : Runtime} {issues : List Issue} {includeHardStart : Bool}
  {blockedIdentifier blockerIdentifier : String} {blocked blocker consumer provider : Issue}

/-- The check reports a cycle exactly when the provider already waits for the consumer. -/
def DetectsCycle (rt : Runtime) (issues : List Issue)
    (blockedIdentifier blockerIdentifier : String) (includeHardStart : Bool)
    (consumer provider : Issue) : Prop :=
  exists found, containerDependencyCycleForNewEdge rt issues blockedIdentifier blockerIdentifier
      includeHardStart = some found ∧
    (found.isSome = true ↔
      Relation.ReflTransGen (WaitsFor (containerDependencyEdges rt issues includeHardStart))
        provider.canonical consumer.canonical)

/--
A simple closed path leads from the consumer through the provider, and is shorter than
each one that leads around the provider, or as long and earlier in the order of names.
-/
def LeastThrough (edges : List ContainerDependencyEdge) (consumer provider : String) : Prop :=
  exists path, SimpleCycle (adjacency edges) consumer path ∧ provider ∈ path ∧
    forall loop, SimpleCycle (adjacency edges) consumer loop -> provider ∉ loop ->
      List.Shortlex (· < ·) path loop

theorem Proposal.run
    (h : Proposal rt issues blockedIdentifier blockerIdentifier blocked blocker consumer provider) :
    containerDependencyCycleForNewEdge rt issues blockedIdentifier blockerIdentifier
        includeHardStart =
      (stronglyConnectedComponents
        (withProposedEdge (containerDependencyEdges rt issues includeHardStart)
          consumer.canonical provider.canonical blocked blocker)).bind
        (cycleThrough rt issues
          (withProposedEdge (containerDependencyEdges rt issues includeHardStart)
            consumer.canonical provider.canonical blocked blocker)
          consumer.canonical provider.canonical) := by
  have hopen : ¬ (consumer.canonical = provider.canonical ∨ consumer.isTerminal rt = true ∨
      provider.isTerminal rt = true) := by
    rw [h.consumerLive, h.providerLive]
    rintro (hsame | hfalse | hfalse)
    · exact h.distinct hsame
    · cases hfalse
    · cases hfalse
  unfold containerDependencyCycleForNewEdge
  dsimp only
  rw [h.blockedFound, h.blockerFound]
  dsimp only
  rw [if_neg (by simp [h.project]), h.consumerFound, h.providerFound]
  dsimp only
  rw [if_neg hopen]

/-- The first closed path leads through the provider where one that does comes before. -/
theorem first_leastThrough_iff {edges : List ContainerDependencyEdge}
    {component path : List String} {start through : String}
    (hcomponent : Tarjan.IsComponent (adjacency edges) component) (hstart : start ∈ component)
    (h : First (· < ·) (adjacency edges) component start path) :
    through ∈ path ↔ LeastThrough edges start through := by
  have hinside : forall x, Relation.ReflTransGen (Edge (adjacency edges)) start x ->
      Relation.ReflTransGen (Edge (adjacency edges)) x start -> x ∈ component :=
    fun x hfrom hback => (hcomponent.mem_iff hstart x).mpr ⟨hfrom, hback⟩
  constructor
  · intro hin
    refine ⟨path, (loop_iff hinside path).mp h.left, hin, ?_⟩
    intro loop hloop hout
    rcases h.right loop ((loop_iff hinside loop).mpr hloop) with hsame | hless
    · exact absurd (hsame ▸ hin) hout
    · exact hless
  · rintro ⟨least, hleast, hin, hbefore⟩
    by_contra hout
    have hless := hbefore path ((loop_iff hinside path).mp h.left) hout
    rcases h.right least ((loop_iff hinside least).mpr hleast) with hsame | hgreater
    · exact hout (hsame ▸ hin)
    · exact Std.Asymm.asymm _ _ hless hgreater

/--
The check detects the cycle that a new edge closes exactly when there is none or the
least closed path through the consumer leads through the provider.
-/
theorem containerDependencyCycleForNewEdge_detects_iff
    (h : Proposal rt issues blockedIdentifier blockerIdentifier blocked blocker consumer provider) :
    DetectsCycle rt issues blockedIdentifier blockerIdentifier includeHardStart consumer provider ↔
      ¬ Relation.ReflTransGen (WaitsFor (containerDependencyEdges rt issues includeHardStart))
          provider.canonical consumer.canonical ∨
        LeastThrough (withProposedEdge (containerDependencyEdges rt issues includeHardStart)
            consumer.canonical provider.canonical blocked blocker)
          consumer.canonical provider.canonical := by
  unfold DetectsCycle
  rw [h.run]
  generalize hedges : withProposedEdge (containerDependencyEdges rt issues includeHardStart)
    consumer.canonical provider.canonical blocked blocker = edges
  have hself : forall x, ¬ WaitsFor edges x x := by
    rw [← hedges]
    exact withProposedEdge_distinct containerDependencyEdges_distinct h.distinct
  have hnew : WaitsFor edges consumer.canonical provider.canonical := by
    rw [← hedges]
    exact waitsFor_proposed
  rw [← reaches_withProposedEdge_iff _ consumer.canonical _ blocked blocker, hedges]
  rcases stronglyConnectedComponents_spec edges with
    ⟨components, hrun, hcomplete, hcovered, hapart⟩
  rw [hrun, Option.bind_some]
  by_cases hback : Relation.ReflTransGen (WaitsFor edges) provider.canonical consumer.canonical
  · rcases hcovered consumer.canonical (mem_containers.mpr ⟨_, Or.inl hnew⟩) with
      ⟨component, hmem, hconsumer⟩
    have hcomponent := hcomplete component hmem
    have hprovider := (hcomponent.mem_iff hconsumer provider.canonical).mpr
      ⟨Relation.ReflTransGen.single hnew, hback⟩
    rcases cycleThrough_component rt issues hself h.distinct hcomponent
      hapart hmem hconsumer hprovider with ⟨path, found, hfound, hfirst, hiff⟩
    rw [first_leastThrough_iff hcomponent hconsumer hfirst] at hiff
    constructor
    · rintro ⟨result, hresult, hdetects⟩
      rw [hfound] at hresult
      cases hresult
      exact Or.inr (hiff.mp (hdetects.mpr hback))
    · rintro (hnot | hleast)
      · exact absurd hback hnot
      · exact ⟨found, hfound, fun _ => hback, fun _ => hiff.mpr hleast⟩
  · have hnone : forall component, component ∈ components ->
        consumer.canonical ∉ component ∨ provider.canonical ∉ component := by
      intro component hmem
      by_contra hboth
      rw [not_or, not_not, not_not] at hboth
      exact hback (((hcomplete component hmem).mem_iff hboth.left _).mp hboth.right).right
    rw [cycleThrough_none hnone]
    constructor
    · exact fun _ => Or.inl hback
    · intro _
      refine ⟨none, rfl, ?_⟩
      constructor
      · intro hsome
        cases hsome
      · exact fun hreach => absurd hreach hback

end Detection

def openEpic (identifier : String) : Issue :=
  { id := identifier, identifier := identifier, issueType := "epic", state := "Open" }

def epicTask (identifier epic : String) (dependencies : List String) : Issue :=
  { id := identifier
    identifier := identifier
    parentId := epic
    blockedBy := dependencies.map (fun name => { identifier := name })
    state := "Open" }

/-- The first epic waits for the second one and the two others wait for the first. -/
def crossedEpics : List Issue :=
  [openEpic "E-1", openEpic "E-2", openEpic "E-3", epicTask "T-1" "E-1" ["T-2"],
    epicTask "T-2" "E-2" [], epicTask "T-3" "E-2" ["T-1"], epicTask "T-4" "E-3" ["T-1"],
    epicTask "T-5" "E-3" []]

theorem crossedEpics_proposal :
    Proposal ascii crossedEpics "T-1" "T-5" (epicTask "T-1" "E-1" ["T-2"])
      (epicTask "T-5" "E-3" []) (openEpic "E-1") (openEpic "E-3") where
  blockedFound := rfl
  blockerFound := rfl
  project := rfl
  consumerFound := rfl
  providerFound := rfl
  distinct := by decide +kernel
  consumerLive := rfl
  providerLive := rfl

theorem crossedEpics_undetected :
    ¬ DetectsCycle ascii crossedEpics "T-1" "T-5" false (openEpic "E-1") (openEpic "E-3") := by
  have hrun : (containerDependencyCycleForNewEdge ascii crossedEpics "T-1" "T-5"
      false).map (fun found => found.isSome) = some false := by
    decide +kernel
  have hedge : WaitsFor (containerDependencyEdges ascii crossedEpics false) "E-3" "E-1" := by
    have hmem : "E-1" ∈ adjacency (containerDependencyEdges ascii crossedEpics false) "E-3" := by
      decide +kernel
    exact hmem
  rintro ⟨found, hfound, hdetects⟩
  rw [hfound] at hrun
  cases hrun.symm.trans (congrArg some (hdetects.mpr (Relation.ReflTransGen.single hedge)))

/-- The exact condition where the least closed path leads around the provider. -/
theorem crossedEpics_detects_iff :
    DetectsCycle ascii crossedEpics "T-1" "T-5" false (openEpic "E-1") (openEpic "E-3") ↔
      ¬ Relation.ReflTransGen (WaitsFor (containerDependencyEdges ascii crossedEpics false))
          "E-3" "E-1" ∨
        LeastThrough (withProposedEdge (containerDependencyEdges ascii crossedEpics false)
            "E-1" "E-3" (epicTask "T-1" "E-1" ["T-2"]) (epicTask "T-5" "E-3" []))
          "E-1" "E-3" :=
  containerDependencyCycleForNewEdge_detects_iff crossedEpics_proposal

end ContainerDependency
end Oompah
