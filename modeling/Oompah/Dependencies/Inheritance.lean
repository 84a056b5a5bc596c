import Oompah.Dependencies.ParentChains

/-!
# Inherited dependencies

The relations that dispatch and ordered integration read off the issues, and
what recording one more dependency does to them: every task that inherits it
gets an edge to the blocker, and nothing else changes.
-/

namespace Oompah
namespace Dependencies

open Foundation

/-!
# The relations that order tasks
-/

/-- The two projections of the dependencies of a task. -/
inductive DependencyOrder where
  | effective
  | integration
  deriving DecidableEq

namespace DependencyOrder

def names (order : DependencyOrder) (issues : List Issue) : List (String × String) :=
  match order with
  | .effective => aliasNames issues
  | .integration => (indexNames (issueIndex issues)).names

def lineage (order : DependencyOrder) (issues : List Issue) (issue : Issue) :
    List Issue :=
  match order with
  | .effective => effectiveLineage (issueIndex issues) issue
  | .integration => (indexNames (issueIndex issues)).lineage issue

/-- The names of the tasks that a task depends on. -/
def dependencies (order : DependencyOrder) (issues : List Issue) (issue : Issue) : List String :=
  match order with
  | .effective =>
    (effectiveDependencies issue (issueIndex issues) false ++
      effectiveDependencies issue (issueIndex issues) true).map
      (resolve (aliasNames issues))
  | .integration => integrationDependencies issue (issueIndex issues)

/-- The declared dependencies of an issue that the order follows. -/
def refs (order : DependencyOrder) (issue : Issue) : List BlockerRef :=
  match order with
  | .effective => issue.blockedBy ++ issue.startBlockedBy
  | .integration => issue.blockedBy

/-- The order lets a task inherit a dependency that an issue above it declares. -/
def admits (order : DependencyOrder) (issues : List Issue)
    (issue current : Issue) (dependency : String) : Bool :=
  match order with
  | .effective => true
  | .integration =>
    issue.canonical ≠ "" && dependency ≠ issue.canonical &&
      !(indexNames (issueIndex issues)).containerRollup dependency current.canonical

/-- The order follows the dependencies of a type. -/
def follows (order : DependencyOrder) (type : DependencyType) : Bool :=
  match order, type with
  | .integration, .hardStart => false
  | _, _ => true

end DependencyOrder

/-- A task depends on a live one. -/
def DependsOn (order : DependencyOrder) (live : String -> Bool)
    (issues : List Issue) (x y : String) : Prop :=
  live y = true ∧ exists issue, issue ∈ issues ∧ issue.canonical = x ∧
    y ∈ order.dependencies issues issue

/-- A task inherits a dependency of the blocked issue on the blocker. -/
def Inherits (order : DependencyOrder) (type : DependencyType)
    (live : String -> Bool) (issues : List Issue) (blocked blocker x : String) :
    Prop :=
  live blocker = true ∧ order.follows type = true ∧
    exists issue current, issue ∈ issues ∧ issue.canonical = x ∧
      current ∈ order.lineage issues issue ∧ current.canonical = blocked ∧
      order.admits issues issue current blocker = true

/-!
# What a task depends on
-/

section Dependencies

variable {order : DependencyOrder} {issues : List Issue} {issue : Issue}
  {dependency : String}

theorem mem_setItem {α : Type} {entries : List (String × α)} {key : String}
    {value : α} {entry : String × α} (h : entry ∈ setItem entries key value) :
    entry = (key, value) ∨ entry ∈ entries := by
  induction entries with
  | nil => exact .inl (List.mem_singleton.mp h)
  | cons first rest ih =>
    unfold setItem at h
    split at h
    · rcases List.mem_cons.mp h with heq | hmem
      · exact .inl heq
      · exact .inr (List.mem_cons_of_mem _ hmem)
    · rcases List.mem_cons.mp h with heq | hmem
      · exact .inr (heq ▸ List.mem_cons_self)
      · exact (ih hmem).imp id (List.mem_cons_of_mem _)

theorem aliasNames_nonempty (issues : List Issue) :
    forall entry, entry ∈ aliasNames issues -> entry.1 ≠ "" ∧ entry.2 ≠ "" := by
  suffices hfold : forall names : List (String × String),
      (forall entry, entry ∈ names -> entry.1 ≠ "" ∧ entry.2 ≠ "") ->
      forall entry, entry ∈ issues.foldl (fun names issue => if issue.canonical = "" then names
          else issue.aliases.foldl (fun names name => setItem names name issue.canonical) names)
        names -> entry.1 ≠ "" ∧ entry.2 ≠ "" by
    exact hfold [] (fun _ hentry => nomatch hentry)
  induction issues with
  | nil => exact fun _ hnames => hnames
  | cons issue rest ih =>
    intro names hnames
    rw [List.foldl_cons]
    apply ih
    split
    · exact hnames
    · rename_i hcanonical
      have hkeys : forall key, key ∈ issue.aliases -> key ≠ "" := by
        intro key hkey
        simpa using (List.mem_filter.mp hkey).right
      revert hkeys
      generalize issue.aliases = keys
      intro hkeys
      induction keys generalizing names with
      | nil => exact hnames
      | cons key keys ihkeys =>
        apply ihkeys
        · intro entry hentry
          rcases mem_setItem hentry with heq | hold
          · rw [heq]
            exact ⟨hkeys key List.mem_cons_self, hcanonical⟩
          · exact hnames entry hold
        · exact fun other hother => hkeys other (List.mem_cons_of_mem _ hother)

theorem resolve_aliasNames_eq_empty_iff (value : String) :
    resolve (aliasNames issues) value = "" <-> value = "" := by
  unfold resolve
  cases hlookup : (aliasNames issues).lookup value with
  | none => rfl
  | some name =>
    have hmem := aliasNames_nonempty issues _ (mem_of_lookup hlookup)
    constructor
    · intro h
      exact absurd h hmem.right
    · intro h
      exact absurd h hmem.left

theorem resolve_names_eq_empty_iff (order : DependencyOrder)
    (issues : List Issue) (value : String) :
    resolve (order.names issues) value = "" <-> value = "" := by
  cases order with
  | effective => exact resolve_aliasNames_eq_empty_iff value
  | integration => exact resolve_aliasNames_eq_empty_iff value

theorem mem_dependencies_iff : dependency ∈ order.dependencies issues issue <->
      exists current ref, current ∈ order.lineage issues issue ∧
        ref ∈ order.refs current ∧ refIdentifier ref ≠ "" ∧
        dependency = resolve (order.names issues) (refIdentifier ref) ∧
        order.admits issues issue current dependency = true := by
  cases order with
  | effective =>
    simp only [DependencyOrder.dependencies, DependencyOrder.lineage,
      DependencyOrder.refs, DependencyOrder.names, DependencyOrder.admits,
      effectiveDependencies, List.mem_map, List.mem_append,
      List.mem_eraseDups, List.mem_filter, List.mem_flatMap,
      decide_eq_true_eq, if_true, if_false, Bool.false_eq_true, and_true]
    constructor
    · intro h
      rcases h with ⟨identifier, hfound, heq⟩
      rcases hfound with ⟨⟨ref, ⟨current, hcurrent, href⟩, hid⟩, hne⟩ |
        ⟨⟨ref, ⟨current, hcurrent, href⟩, hid⟩, hne⟩
      · exact ⟨current, ref, hcurrent, Or.inl href, hid ▸ hne, hid ▸ heq.symm⟩
      · exact ⟨current, ref, hcurrent, Or.inr href, hid ▸ hne, hid ▸ heq.symm⟩
    · intro h
      rcases h with ⟨current, ref, hcurrent, href, hne, heq⟩
      refine ⟨refIdentifier ref, ?_, heq.symm⟩
      rcases href with hfinish | hstart
      · exact .inl ⟨⟨ref, ⟨current, hcurrent, hfinish⟩, rfl⟩, hne⟩
      · exact .inr ⟨⟨ref, ⟨current, hcurrent, hstart⟩, rfl⟩, hne⟩
  | integration =>
    simp only [DependencyOrder.dependencies, DependencyOrder.lineage,
      DependencyOrder.refs, DependencyOrder.names, DependencyOrder.admits,
      integrationDependencies]
    constructor
    · intro h
      split at h
      · cases h
      · rename_i hissue
        rw [List.mem_eraseDups, List.mem_flatMap] at h
        rcases h with ⟨current, hcurrent, hmem⟩
        rw [List.mem_filter, List.mem_map] at hmem
        rcases hmem with ⟨⟨ref, href, heq⟩, hkept⟩
        simp only [decide_eq_true_eq] at hkept
        refine ⟨current, ref, hcurrent, href, ?_, heq.symm, ?_⟩
        · intro hempty
          apply hkept.left
          rw [← heq]
          exact (resolve_names_eq_empty_iff .integration issues _).mpr hempty
        · simp [hissue, hkept.right.left, hkept.right.right]
    · intro h
      rcases h with ⟨current, ref, hcurrent, href, hne, heq, hadmits⟩
      simp only [Bool.and_eq_true, decide_eq_true_eq, Bool.not_eq_true', ne_eq] at hadmits
      rw [if_neg hadmits.left.left, List.mem_eraseDups, List.mem_flatMap]
      refine ⟨current, hcurrent, ?_⟩
      rw [List.mem_filter, List.mem_map]
      refine ⟨⟨ref, href, heq.symm⟩, ?_⟩
      simp only [decide_eq_true_eq]
      refine ⟨?_, hadmits.left.right, hadmits.right⟩
      rw [heq]
      exact fun hempty =>
        hne ((resolve_names_eq_empty_iff .integration issues _).mp hempty)

end Dependencies

/-!
# Recording a dependency
-/

section AddDependency

variable (order : DependencyOrder) (type : DependencyType)
  (issues : List Issue) (blocked : String) (ref : BlockerRef)

theorem names_addDependency : order.names (issues.map (addDependency type blocked ref)) =
      order.names issues := by
  have hkeeps := addDependency_keepsNames type blocked ref
  cases order with
  | effective => exact aliasNames_map hkeeps issues
  | integration =>
    unfold DependencyOrder.names
    rw [issueIndex_map hkeeps, indexNames_map hkeeps]

theorem lineage_addDependency (issue : Issue) :
    order.lineage (issues.map (addDependency type blocked ref))
        (addDependency type blocked ref issue) =
      (order.lineage issues issue).map (addDependency type blocked ref) := by
  have hkeeps := addDependency_keepsNames type blocked ref
  unfold DependencyOrder.lineage
  rw [issueIndex_map hkeeps]
  cases order with
  | effective => exact effectiveLineage_map hkeeps _ issue
  | integration => exact indexNames_lineage_map hkeeps _ issue

theorem admits_addDependency (issue current : Issue) (dependency : String) :
    order.admits (issues.map (addDependency type blocked ref))
        (addDependency type blocked ref issue)
        (addDependency type blocked ref current) dependency =
      order.admits issues issue current dependency := by
  have hkeeps := addDependency_keepsNames type blocked ref
  unfold DependencyOrder.admits
  rw [issueIndex_map hkeeps]
  cases order with
  | effective => rfl
  | integration => simp only [hkeeps.canonical, containerRollup_map hkeeps]

theorem mem_refs_addDependency (current : Issue) (added : BlockerRef) :
    added ∈ order.refs (addDependency type blocked ref current) <->
      added ∈ order.refs current ∨ order.follows type = true ∧
        current.canonical = blocked ∧ added = ref := by
  unfold addDependency
  split
  · rename_i hblocked
    cases order <;> cases type <;>
      simp [DependencyOrder.refs, DependencyOrder.follows, Issue.addDependency, hblocked] <;> tauto
  · rename_i hother
    simp [hother]

theorem mem_dependencies_addDependency (issue : Issue) (dependency : String)
    (href : refIdentifier ref ≠ "") :
    dependency ∈ order.dependencies (issues.map (addDependency type blocked ref))
        (addDependency type blocked ref issue) <->
      dependency ∈ order.dependencies issues issue ∨
        dependency = resolve (order.names issues) (refIdentifier ref) ∧ order.follows type = true ∧
          exists current, current ∈ order.lineage issues issue ∧ current.canonical = blocked ∧
            order.admits issues issue current dependency = true := by
  rw [mem_dependencies_iff, mem_dependencies_iff, lineage_addDependency, names_addDependency]
  constructor
  · intro h
    rcases h with ⟨changed, added, hchanged, hadded, hne, heq, hadmits⟩
    rcases List.mem_map.mp hchanged with ⟨current, hcurrent, rfl⟩
    rw [admits_addDependency] at hadmits
    rcases (mem_refs_addDependency order type blocked ref current added).mp hadded
      with hold | ⟨hfollows, hblocked, hnew⟩
    · exact .inl ⟨current, added, hcurrent, hold, hne, heq, hadmits⟩
    · subst hnew
      exact .inr ⟨heq, hfollows, current, hcurrent, hblocked, hadmits⟩
  · intro h
    rcases h with ⟨current, added, hcurrent, hold, hne, heq, hadmits⟩ |
      ⟨heq, hfollows, current, hcurrent, hblocked, hadmits⟩
    · refine ⟨addDependency type blocked ref current, added,
        List.mem_map_of_mem hcurrent, ?_, hne, heq, ?_⟩
      · exact (mem_refs_addDependency order type blocked ref current added).mpr (Or.inl hold)
      · rw [admits_addDependency]
        exact hadmits
    · refine ⟨addDependency type blocked ref current, ref,
        List.mem_map_of_mem hcurrent, ?_, href, heq, ?_⟩
      · exact (mem_refs_addDependency order type blocked ref current ref).mpr
          (Or.inr ⟨hfollows, hblocked, rfl⟩)
      · rw [admits_addDependency]
        exact hadmits

theorem dependsOn_addDependency (live : String -> Bool)
    (href : refIdentifier ref ≠ "") (x y : String) :
    DependsOn order live (issues.map (addDependency type blocked ref)) x y <->
      WithEdges (DependsOn order live issues) (Inherits order type live issues blocked
          (resolve (order.names issues) (refIdentifier ref)))
        (resolve (order.names issues) (refIdentifier ref)) x y := by
  have hkeeps := addDependency_keepsNames type blocked ref
  constructor
  · intro h
    rcases h with ⟨hlive, changed, hchanged, hcanonical, hmem⟩
    rcases List.mem_map.mp hchanged with ⟨issue, hissue, rfl⟩
    rw [hkeeps.canonical] at hcanonical
    rw [mem_dependencies_addDependency order type issues blocked ref issue y href] at hmem
    rcases hmem with hold | ⟨heq, hfollows, current, hcurrent, hblocked, hadmits⟩
    · exact .inl ⟨hlive, issue, hissue, hcanonical, hold⟩
    · subst heq
      exact .inr ⟨⟨hlive, hfollows, issue, current, hissue, hcanonical,
        hcurrent, hblocked, hadmits⟩, rfl⟩
  · intro h
    rcases h with ⟨hlive, issue, hissue, hcanonical, hold⟩ |
      ⟨⟨hlive, hfollows, issue, current, hissue, hcanonical, hcurrent, hblocked, hadmits⟩, heq⟩
    · refine ⟨hlive, _, List.mem_map_of_mem hissue, ?_, ?_⟩
      · rw [hkeeps.canonical]
        exact hcanonical
      · rw [mem_dependencies_addDependency order type issues blocked ref issue y href]
        exact .inl hold
    · subst heq
      refine ⟨hlive, _, List.mem_map_of_mem hissue, ?_, ?_⟩
      · rw [hkeeps.canonical]
        exact hcanonical
      · rw [mem_dependencies_addDependency order type issues blocked ref issue _ href]
        exact .inr ⟨rfl, hfollows, current, hcurrent, hblocked, hadmits⟩

end AddDependency
end Dependencies
end Oompah
