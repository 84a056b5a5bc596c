import Oompah.Dependencies.Inheritance

/-!
# The cycle check of a new dependency

The check walks the edges the issues declare and finds every cycle among them.
Tasks below the blocked issue inherit the new edge, and the check does not look
at these.
-/

namespace Oompah
namespace Dependencies

open Foundation

/-!
# The search
-/

section Search

variable {issues : List Issue} {blocked blocker : String} {path : List String}

theorem mem_combinedDependencyAdjacency {x y : String} :
    y ∈ combinedDependencyAdjacency issues x <->
      exists issue, issue ∈ issues ∧ issue.canonical ≠ "" ∧
        issue.canonical = x ∧ y ∈ combinedTargets issues issue := by
  unfold combinedDependencyAdjacency
  simp only [List.mem_insertionSort, List.mem_dedup, List.mem_flatMap,
    List.mem_filter, decide_eq_true_eq, and_assoc]

/-- The name that the check gives an identifier. -/
def canonicalName (issues : List Issue) (identifier : String) : String :=
  resolve (aliasNames issues) identifier

/-- The declared edges and the new one. -/
def WithNewEdge (issues : List Issue) (blocked blocker : String) (x y : String) : Prop :=
  WithEdges (Edge (combinedDependencyAdjacency issues))
    (fun x => x = canonicalName issues blocked) (canonicalName issues blocker) x y

theorem dependencyCycle_closedWalk
    (h : dependencyCycleForNewEdge issues blocked blocker = some path) :
    ClosedWalk (WithNewEdge issues blocked blocker) path := by
  have hnew : WithNewEdge issues blocked blocker (canonicalName issues blocked)
      (canonicalName issues blocker) :=
    Or.inr ⟨rfl, rfl⟩
  unfold dependencyCycleForNewEdge at h
  simp only at h
  split at h
  · rename_i heq
    cases h
    refine ⟨_, (Walk.single _ _).snoc ?_, by simp⟩
    have hself := hnew
    rw [show canonicalName issues blocker = canonicalName issues blocked from
      heq.symm] at hself
    exact hself
  · rcases Option.map_eq_some_iff.mp h with ⟨tail, hsearch, rfl⟩
    have hwalk : Walk (Edge (combinedDependencyAdjacency issues))
        (canonicalName issues blocker) (canonicalName issues blocked) tail := by
      apply search_walk _ hsearch
      intro entry hentry
      rw [List.mem_singleton] at hentry
      subst hentry
      exact Walk.single _ _
    refine ⟨_, (hwalk.mono (fun _ _ hold => Or.inl hold)).cons hnew, ?_⟩
    have hpos : tail ≠ [] := by
      intro hnil
      have hhead := hwalk.head
      rw [hnil] at hhead
      cases hhead
    exact Nat.succ_lt_succ (List.length_pos_iff.mpr hpos)

theorem dependencyCycle_eq_none_iff : dependencyCycleForNewEdge issues blocked blocker = none <->
      ¬ Relation.ReflTransGen (Edge (combinedDependencyAdjacency issues))
        (canonicalName issues blocker) (canonicalName issues blocked) := by
  unfold dependencyCycleForNewEdge
  simp only
  split
  · rename_i heq
    constructor
    · intro h
      cases h
    · intro h
      refine absurd ?_ h
      rw [show canonicalName issues blocked = canonicalName issues blocker from heq]
  · rename_i hne
    rw [Option.map_eq_none_iff]
    constructor
    · intro hsearch hreach
      rcases Relation.reflTransGen_iff_eq_or_transGen.mp hreach with heq | hpath
      · exact hne heq
      · refine search_none ?_ (Nat.lt_succ_self _) hsearch hpath
        intro x y hy
        rcases mem_combinedDependencyAdjacency.mp hy with
          ⟨issue, hissue, _, _, htarget⟩
        exact List.mem_flatMap.mpr ⟨issue, hissue, htarget⟩
    · intro hreach
      rw [Option.eq_none_iff_forall_not_mem]
      intro tail htail
      apply hreach
      refine (search_walk ?_ htail).reflTransGen
      intro entry hentry
      rw [List.mem_singleton] at hentry
      subst hentry
      exact Walk.single _ _

end Search

/-!
# The check and the inherited edges
-/

section Check

variable {order : DependencyOrder} {live : String -> Bool} {issues : List Issue}

def newRef (blocker : Identifier) : BlockerRef where
  id := blocker.value
  identifier := blocker.value

theorem refIdentifier_newRef (blocker : Identifier) :
    refIdentifier (newRef blocker) = blocker.value := by
  unfold refIdentifier newRef orElse
  rw [if_neg blocker.nonempty, blocker.stripped]

/-- The issues once the dependency is recorded. -/
def withDependency (type : DependencyType) (issues : List Issue)
    (blocked : String) (blocker : Identifier) : List Issue :=
  issues.map (addDependency type (canonicalName issues blocked) (newRef blocker))

/--
A returned path is a closed walk along the new edge, and a dependency without
one leaves the order of the tasks acyclic.
-/
def CheckSound (order : DependencyOrder) (type : DependencyType)
    (live : String -> Bool) (issues : List Issue) (blocked : String)
    (blocker : Identifier) : Prop :=
  (forall path, dependencyCycleForNewEdge issues blocked blocker.value = some path ->
      ClosedWalk (WithNewEdge issues blocked blocker.value) path) ∧
  (dependencyCycleForNewEdge issues blocked blocker.value = none ->
    Acyclic (DependsOn order live (withDependency type issues blocked blocker)))

/-- No task that inherits the new dependency is one the blocker waits for. -/
def NoInheritedCycle (order : DependencyOrder) (type : DependencyType)
    (live : String -> Bool) (issues : List Issue) (blocked : String)
    (blocker : Identifier) : Prop :=
  forall x, Inherits order type live issues (canonicalName issues blocked)
      (resolve (order.names issues) blocker.value) x ->
    ¬ Relation.ReflTransGen (DependsOn order live issues)
      (resolve (order.names issues) blocker.value) x

theorem acyclic_withDependency_iff (type : DependencyType) (blocked : String)
    (blocker : Identifier) (h : Acyclic (DependsOn order live issues)) :
    Acyclic (DependsOn order live (withDependency type issues blocked blocker)) <->
      NoInheritedCycle order type live issues blocked blocker := by
  have href : refIdentifier (newRef blocker) ≠ "" := by
    rw [refIdentifier_newRef]
    exact blocker.nonempty
  have hedges := dependsOn_addDependency order type issues
    (canonicalName issues blocked) (newRef blocker) live href
  rw [refIdentifier_newRef] at hedges
  unfold withDependency NoInheritedCycle
  rw [acyclic_congr hedges]
  exact acyclic_withEdges_iff h

/--
Over an acyclic order, the check is sound for a new dependency exactly when the
declared edges already lead from the blocker to the blocked issue or no task
that inherits the dependency is reachable from the blocker.
-/
theorem checkSound_iff (order : DependencyOrder) (type : DependencyType)
    (live : String -> Bool) (issues : List Issue) (blocked : String)
    (blocker : Identifier) (h : Acyclic (DependsOn order live issues)) :
    CheckSound order type live issues blocked blocker <->
      Relation.ReflTransGen (Edge (combinedDependencyAdjacency issues))
          (canonicalName issues blocker.value) (canonicalName issues blocked) ∨
        NoInheritedCycle order type live issues blocked blocker := by
  have hinherited := acyclic_withDependency_iff type blocked blocker h
  constructor
  · intro hsound
    by_cases hnone : dependencyCycleForNewEdge issues blocked blocker.value = none
    · exact Or.inr (hinherited.mp (hsound.right hnone))
    · rw [dependencyCycle_eq_none_iff, not_not] at hnone
      exact Or.inl hnone
  · intro hcondition
    constructor
    · intro path hpath
      exact dependencyCycle_closedWalk hpath
    · intro hnone
      rcases hcondition with hreach | hfree
      · exact absurd hreach (dependencyCycle_eq_none_iff.mp hnone)
      · exact hinherited.mpr hfree

/-!
# A dependency of a container's blocker

The child inherits the dependency of its epic on the blocker.  A dependency of
the blocker on the child closes a cycle that the check does not see.
-/

def inheritingEpic : List Issue :=
  [{ id := "E", identifier := "E",
     blockedBy := [{ id := "B", identifier := "B" }] },
   { id := "A", identifier := "A", parentId := "E" },
   { id := "B", identifier := "B" }]

def childIdentifier : Identifier where
  value := "A"
  stripped := by decide
  nonempty := by decide

theorem inheritingEpic_acyclic (order : DependencyOrder) :
    Acyclic (DependsOn order (fun _ => true) inheritingEpic) := by
  have hranked : forall issue, issue ∈ inheritingEpic ->
      forall y, y ∈ order.dependencies inheritingEpic issue ->
        (if y = "B" then 0 else 1) < (if issue.canonical = "B" then 0 else 1) := by
    cases order <;> decide
  apply acyclic_of_rank (fun x => if x = "B" then 0 else 1)
  intro x y hedge
  rcases hedge with ⟨_, issue, hissue, rfl, hmem⟩
  exact hranked issue hissue y hmem

theorem inheritingEpic_checkSound :
    CheckSound .effective .finish (fun _ => true) inheritingEpic "B" childIdentifier <->
      Relation.ReflTransGen (Edge (combinedDependencyAdjacency inheritingEpic))
          (canonicalName inheritingEpic "A") (canonicalName inheritingEpic "B") ∨
        NoInheritedCycle .effective .finish (fun _ => true) inheritingEpic "B"
          childIdentifier :=
  checkSound_iff .effective .finish (fun _ => true) inheritingEpic "B"
    childIdentifier (inheritingEpic_acyclic .effective)

/-- The dependency of the blocker on the child passes the check. -/
theorem inheritingEpic_cycle : dependencyCycleForNewEdge inheritingEpic "B" "A" = none ∧
      forall order : DependencyOrder, Acyclic (DependsOn order (fun _ => true) inheritingEpic) ∧
        ¬ Acyclic (DependsOn order (fun _ => true)
          (withDependency .finish inheritingEpic "B" childIdentifier)) := by
  constructor
  · decide
  · intro order
    constructor
    · exact inheritingEpic_acyclic order
    · intro hacyclic
      have hchild : DependsOn order (fun _ => true)
          (withDependency .finish inheritingEpic "B" childIdentifier) "A" "B" := by
        refine ⟨rfl, { id := "A", identifier := "A", parentId := "E" }, ?_⟩
        cases order <;> decide
      have hblocker : DependsOn order (fun _ => true)
          (withDependency .finish inheritingEpic "B" childIdentifier) "B" "A" := by
        refine ⟨rfl, addDependency .finish "B" (newRef childIdentifier)
          { id := "B", identifier := "B" }, ?_⟩
        cases order <;> decide
      exact hacyclic "A" ((Relation.TransGen.single hchild).tail hblocker)

end Check
end Dependencies
end Oompah
