import Mathlib.Data.List.Chain

/-!
# Directed graphs

Acyclic relations, what edges into one target do to them, and breadth-first
search for a target along an adjacency function.
-/

namespace Oompah
namespace Foundation

/-!
# Acyclic relations
-/

section Acyclic

variable {α : Type} {R R' : α -> α -> Prop}

def Acyclic (R : α -> α -> Prop) : Prop := forall x, ¬ Relation.TransGen R x x

/-- `R` with an edge from every source to the target. -/
def WithEdges (R : α -> α -> Prop) (sources : α -> Prop) (target : α) (x y : α) : Prop :=
  R x y ∨ sources x ∧ y = target

theorem acyclic_congr (h : forall x y, R x y <-> R' x y) : Acyclic R <-> Acyclic R' := by
  have heq : R = R' := by
    funext x y
    exact propext (h x y)
  rw [heq]

theorem acyclic_of_rank (rank : α -> Nat)
    (h : forall x y, R x y -> rank y < rank x) : Acyclic R := by
  have hpath : forall x y, Relation.TransGen R x y -> rank y < rank x := by
    intro x y htrans
    induction htrans with
    | single hedge => exact h _ _ hedge
    | tail _ hedge ih => exact Nat.lt_trans (h _ _ hedge) ih
  intro x hcycle
  exact Nat.lt_irrefl _ (hpath x x hcycle)

theorem withEdges_path {sources : α -> Prop} {target x y : α}
    (h : Relation.TransGen (WithEdges R sources target) x y) :
    Relation.TransGen R x y ∨ exists source, sources source ∧ Relation.ReflTransGen R x source ∧
        Relation.ReflTransGen R target y := by
  induction h with
  | single hedge =>
    rcases hedge with hold | ⟨hsource, heq⟩
    · exact .inl (Relation.TransGen.single hold)
    · subst heq
      exact .inr ⟨x, hsource, Relation.ReflTransGen.refl, Relation.ReflTransGen.refl⟩
  | tail _ hedge ih =>
    rename_i b c _
    rcases hedge with hold | ⟨hsource, heq⟩
    · rcases ih with hpath | ⟨source, hsource, hleave, henter⟩
      · exact .inl (hpath.tail hold)
      · exact .inr ⟨source, hsource, hleave, henter.tail hold⟩
    · subst heq
      rcases ih with hpath | ⟨source, hsource', hleave, _⟩
      · exact .inr ⟨b, hsource, hpath.to_reflTransGen, Relation.ReflTransGen.refl⟩
      · exact .inr ⟨source, hsource', hleave, Relation.ReflTransGen.refl⟩

/-- New edges close a cycle exactly when the target reaches one of their sources. -/
theorem acyclic_withEdges_iff {sources : α -> Prop} {target : α} (h : Acyclic R) :
    Acyclic (WithEdges R sources target) <-> forall source, sources source ->
        ¬ Relation.ReflTransGen R target source := by
  constructor
  · intro hacyclic source hsource hreach
    have hlift : Relation.ReflTransGen (WithEdges R sources target) target
        source :=
      Relation.ReflTransGen.mono (fun _ _ hold => Or.inl hold) _ _ hreach
    exact hacyclic target (Relation.TransGen.tail' hlift (Or.inr ⟨hsource, rfl⟩))
  · intro hreach x hcycle
    rcases withEdges_path hcycle with hold | ⟨source, hsource, hleave, henter⟩
    · exact h x hold
    · exact hreach source hsource (henter.trans hleave)

end Acyclic

/-!
# Walks
-/

section Walks

variable {α : Type}

/-- The edges of an adjacency function. -/
def Edge (neighbors : α -> List α) (x y : α) : Prop := y ∈ neighbors x

/-- A list of nodes along edges from one node to another. -/
structure Walk (R : α -> α -> Prop) (start finish : α) (path : List α) :
    Prop where
  chain : List.IsChain R path
  head : path.head? = some start
  last : path.getLast? = some finish

theorem Walk.single (R : α -> α -> Prop) (start : α) : Walk R start start [start] where
  chain := List.isChain_singleton start
  head := rfl
  last := rfl

variable {R : α -> α -> Prop} {start middle finish : α} {path : List α}

theorem Walk.snoc (h : Walk R start middle path) (hedge : R middle finish) :
    Walk R start finish (path ++ [finish]) where
  chain := by
    rw [List.isChain_append]
    refine ⟨h.chain, List.isChain_singleton finish, ?_⟩
    intro x hx y hy
    rw [h.last] at hx
    cases hx
    cases hy
    exact hedge
  head := by
    rw [List.head?_append, h.head]
    rfl
  last := by simp

theorem Walk.cons (h : Walk R middle finish path) (hedge : R start middle) :
    Walk R start finish (start :: path) where
  chain := by
    rw [List.isChain_cons]
    refine ⟨?_, h.chain⟩
    intro y hy
    rw [h.head] at hy
    cases hy
    exact hedge
  head := rfl
  last := by
    rw [List.getLast?_cons, h.last]
    rfl

theorem Walk.mono {R R' : α -> α -> Prop} {start finish : α}
    (h : Walk R start finish path) (hsub : forall x y, R x y -> R' x y) :
    Walk R' start finish path where
  chain := h.chain.imp hsub
  head := h.head
  last := h.last

theorem Walk.reflTransGen {start finish : α} (h : Walk R start finish path) :
    Relation.ReflTransGen R start finish := by
  induction path generalizing start with
  | nil => cases h.head
  | cons first rest ih =>
    cases h.head
    cases rest with
    | nil =>
      cases h.last
      exact Relation.ReflTransGen.refl
    | cons next rest =>
      have hchain := List.isChain_cons_cons.mp h.chain
      have hrest : Walk R next finish (next :: rest) := by
        constructor
        · exact hchain.right
        · rfl
        · rw [← h.last]
          rfl
      exact Relation.ReflTransGen.head hchain.left (ih hrest)

/-- A walk along at least one edge that ends where it starts. -/
def ClosedWalk (R : α -> α -> Prop) (path : List α) : Prop :=
  exists x, Walk R x x path ∧ 1 < path.length

end Walks

/-!
# Breadth-first search
-/

section Search

variable {α : Type} [DecidableEq α]

/-- Queue the unvisited neighbors of a node with the paths to them. -/
def expand (path : List α) (neighbors : List α) (queue : List (α × List α)) (visited : List α) :
    List (α × List α) × List α :=
  neighbors.foldl
    (fun acc next =>
      if next ∈ acc.2 then acc
      else (acc.1 ++ [(next, path ++ [next])], next :: acc.2))
    (queue, visited)

/-- The first path from the queue to the target; `fuel` bounds the nodes taken. -/
def search (neighbors : α -> List α) (target : α) :
    Nat -> List (α × List α) -> List α -> Option (List α)
  | 0, _, _ => none
  | _ + 1, [], _ => none
  | fuel + 1, (node, path) :: queue, visited =>
    if target ∈ neighbors node then
      some (path ++ [target])
    else
      let expanded := expand path (neighbors node) queue visited
      search neighbors target fuel expanded.1 expanded.2

variable {neighbors : α -> List α} {target : α}

variable {queue : List (α × List α)} {visited : List α}

theorem expand_queue {path nodes : List α} {entry : α × List α}
    (h : entry ∈ (expand path nodes queue visited).1) :
    entry ∈ queue ∨ entry.1 ∈ nodes ∧ entry.2 = path ++ [entry.1] := by
  induction nodes generalizing queue visited with
  | nil => exact .inl h
  | cons next rest ih =>
    unfold expand at h
    rw [List.foldl_cons] at h
    split at h
    · rcases ih h with hold | ⟨hmem, hpath⟩
      · exact .inl hold
      · exact .inr ⟨List.mem_cons_of_mem _ hmem, hpath⟩
    · rcases ih h with hold | ⟨hmem, hpath⟩
      · rcases List.mem_append.mp hold with hold | hnew
        · exact .inl hold
        · rw [List.mem_singleton] at hnew
          subst hnew
          exact .inr ⟨List.mem_cons_self, rfl⟩
      · exact .inr ⟨List.mem_cons_of_mem _ hmem, hpath⟩

variable {fuel : Nat}

theorem search_walk {start : α} {visited path : List α} (hqueue : forall entry, entry ∈ queue ->
      Walk (Edge neighbors) start entry.1 entry.2)
    (h : search neighbors target fuel queue visited = some path) :
    Walk (Edge neighbors) start target path := by
  induction fuel generalizing queue visited with
  | zero => cases h
  | succ fuel ih =>
    cases queue with
    | nil => cases h
    | cons entry rest =>
      rcases entry with ⟨node, pathTo⟩
      have hnode := hqueue (node, pathTo) List.mem_cons_self
      unfold search at h
      split at h
      · rename_i hfound
        cases h
        exact hnode.snoc hfound
      · apply ih _ h
        intro entry hentry
        rcases expand_queue hentry with hold | ⟨hmem, hpath⟩
        · exact hqueue entry (List.mem_cons_of_mem _ hold)
        · rw [hpath]
          exact hnode.snoc hmem

/-!
# Completeness
-/

/-- What expanding a node does to the queue and to the visited nodes. -/
structure Expanded (nodes : List α) (queue queue' : List (α × List α))
    (visited visited' : List α) : Prop where
  seen : forall x, x ∈ visited' <-> x ∈ visited ∨ x ∈ nodes
  queued : forall entry, entry ∈ queue -> entry ∈ queue'
  fresh : forall x, x ∈ visited' -> x ∈ visited ∨ exists path, (x, path) ∈ queue'

theorem expand_expanded (path nodes : List α) (queue : List (α × List α)) (visited : List α) :
    Expanded nodes queue (expand path nodes queue visited).1 visited
      (expand path nodes queue visited).2 := by
  induction nodes generalizing queue visited with
  | nil =>
    constructor
    · intro x
      simp [expand]
    · exact fun _ hentry => hentry
    · exact fun _ hx => Or.inl hx
  | cons next rest ih =>
    unfold expand
    rw [List.foldl_cons]
    split
    · rename_i hseen
      have hrest := ih queue visited
      constructor
      · intro x
        have hx := hrest.seen x
        unfold expand at hx
        rw [hx, List.mem_cons]
        constructor
        · exact fun h => h.imp id Or.inr
        · intro h
          rcases h with hold | heq | hmem
          · exact .inl hold
          · exact .inl (heq ▸ hseen)
          · exact .inr hmem
      · exact hrest.queued
      · exact hrest.fresh
    · have hrest := ih (queue ++ [(next, path ++ [next])]) (next :: visited)
      constructor
      · intro x
        have hx := hrest.seen x
        unfold expand at hx
        rw [hx, List.mem_cons, List.mem_cons]
        constructor
        · intro h
          rcases h with (heq | hold) | hmem
          · exact .inr (Or.inl heq)
          · exact .inl hold
          · exact .inr (Or.inr hmem)
        · intro h
          rcases h with hold | heq | hmem
          · exact .inl (Or.inr hold)
          · exact .inl (Or.inl heq)
          · exact .inr hmem
      · intro entry hentry
        exact hrest.queued entry (List.mem_append_left _ hentry)
      · intro x hx
        rcases hrest.fresh x hx with hvisited | hqueued
        · rcases List.mem_cons.mp hvisited with heq | hold
          · subst heq
            exact .inr ⟨path ++ [x], hrest.queued _
              (List.mem_append_right _ (List.mem_singleton.mpr rfl))⟩
          · exact .inl hold
        · exact .inr hqueued

/-- Queued nodes and the nodes of the graph still to be visited. -/
def remaining (all : List α) (queue : List (α × List α)) (visited : List α) : Nat :=
  queue.length + (all.filter (fun x => x ∉ visited)).length

theorem filter_unvisited_lt {all visited : List α} {next : α}
    (hmem : next ∈ all) (hnew : next ∉ visited) :
    (all.filter (fun x => x ∉ next :: visited)).length + 1 ≤
      (all.filter (fun x => x ∉ visited)).length := by
  induction all with
  | nil => cases hmem
  | cons x rest ih =>
    have hmono : (rest.filter (fun x => x ∉ next :: visited)).length ≤
        (rest.filter (fun x => x ∉ visited)).length := by
      apply List.Sublist.length_le
      apply List.monotone_filter_right
      intro y hy
      simp only [List.mem_cons, not_or, decide_eq_true_eq] at hy ⊢
      exact hy.right
    by_cases heq : x = next
    · subst heq
      simp only [List.mem_cons] at hmono ⊢
      simp only [List.filter_cons, true_or, not_true,
        decide_false, Bool.false_eq_true, if_false, hnew, not_false_iff,
        decide_true, if_true, List.length_cons]
      omega
    · have hrest := ih (by
        rcases List.mem_cons.mp hmem with hx | hx
        · exact absurd hx.symm heq
        · exact hx)
      by_cases hx : x ∈ visited
      · simp only [List.filter_cons, List.mem_cons, hx, or_true, not_true,
          decide_false, Bool.false_eq_true, if_false]
        simpa [List.mem_cons] using hrest
      · simp only [List.filter_cons, List.mem_cons, hx, heq, or_self,
          not_false_iff, decide_true, if_true, List.length_cons]
        simp only [List.mem_cons] at hrest
        omega

theorem expand_remaining {all path nodes : List α} (hnodes : forall x, x ∈ nodes -> x ∈ all) :
    remaining all (expand path nodes queue visited).1 (expand path nodes queue visited).2 ≤
      remaining all queue visited := by
  induction nodes generalizing queue visited with
  | nil => exact Nat.le_refl _
  | cons next rest ih =>
    have hrest : forall x, x ∈ rest -> x ∈ all :=
      fun x hx => hnodes x (List.mem_cons_of_mem _ hx)
    unfold expand
    rw [List.foldl_cons]
    split
    · exact ih hrest
    · rename_i hnew
      refine Nat.le_trans (ih hrest) ?_
      have hlt := filter_unvisited_lt (hnodes next List.mem_cons_self) hnew
      unfold remaining
      simp only [List.length_append, List.length_singleton] at hlt ⊢
      omega

/-- Every visited node is queued or has been expanded without the target. -/
def Explored (neighbors : α -> List α) (target : α)
    (queue : List (α × List α)) (visited : List α) : Prop :=
  forall x, x ∈ visited -> (exists path, (x, path) ∈ queue) ∨
    target ∉ neighbors x ∧ forall y, y ∈ neighbors x -> y ∈ visited

theorem search_none_closed {all : List α} (hall : forall x y, y ∈ neighbors x -> y ∈ all)
    (hfuel : remaining all queue visited < fuel)
    (hexplored : Explored neighbors target queue visited)
    (h : search neighbors target fuel queue visited = none) :
    exists closed, (forall x, x ∈ visited -> x ∈ closed) ∧ Explored neighbors target [] closed := by
  induction fuel generalizing queue visited with
  | zero => cases hfuel
  | succ fuel ih =>
    cases queue with
    | nil => exact ⟨visited, fun _ hx => hx, hexplored⟩
    | cons entry rest =>
      rcases entry with ⟨node, path⟩
      unfold search at h
      split at h
      · cases h
      · rename_i hmissing
        have hexpanded := expand_expanded path (neighbors node) rest visited
        have hless : remaining all (expand path (neighbors node) rest visited).1
            (expand path (neighbors node) rest visited).2 < fuel := by
          have hle : remaining all (expand path (neighbors node) rest visited).1
                (expand path (neighbors node) rest visited).2 ≤
              remaining all rest visited :=
            expand_remaining (fun x hx => hall node x hx)
          unfold remaining at hle hfuel ⊢
          simp only [List.length_cons] at hfuel
          omega
        have hnext : Explored neighbors target (expand path (neighbors node) rest visited).1
            (expand path (neighbors node) rest visited).2 := by
          intro x hx
          rcases hexpanded.fresh x hx with hold | hqueued
          · rcases hexplored x hold with ⟨pathTo, hqueued⟩ | ⟨htarget, hclosed⟩
            · rcases List.mem_cons.mp hqueued with heq | hrest
              · cases heq
                refine .inr ⟨hmissing, ?_⟩
                intro y hy
                exact (hexpanded.seen y).mpr (Or.inr hy)
              · exact .inl ⟨pathTo, hexpanded.queued _ hrest⟩
            · refine .inr ⟨htarget, ?_⟩
              intro y hy
              exact (hexpanded.seen y).mpr (Or.inl (hclosed y hy))
          · exact .inl hqueued
        rcases ih hless hnext h with ⟨closed, hsubset, hclosed⟩
        refine ⟨closed, ?_, hclosed⟩
        intro x hx
        exact hsubset x ((hexpanded.seen x).mpr (Or.inl hx))

theorem search_none {all : List α} {start : α} (hall : forall x y, y ∈ neighbors x -> y ∈ all)
    (hfuel : all.length + 1 < fuel)
    (h : search neighbors target fuel [(start, [start])] [start] = none) :
    ¬ Relation.TransGen (Edge neighbors) start target := by
  have hless : remaining all [(start, [start])] [start] < fuel := by
    have hle := List.length_filter_le (fun x => decide (x ∉ [start])) all
    unfold remaining
    simp only [List.length_singleton]
    omega
  have hexplored : Explored neighbors target [(start, [start])] [start] := by
    intro x hx
    rw [List.mem_singleton] at hx
    subst hx
    exact .inl ⟨[x], List.mem_singleton.mpr rfl⟩
  rcases search_none_closed hall hless hexplored h with
    ⟨closed, hsubset, hclosed⟩
  have hreach : forall x, Relation.ReflTransGen (Edge neighbors) start x -> x ∈ closed := by
    intro x hpath
    induction hpath with
    | refl => exact hsubset start (List.mem_singleton.mpr rfl)
    | tail _ hedge ih =>
      rcases hclosed _ ih with ⟨_, hqueued⟩ | ⟨_, hstep⟩
      · cases hqueued
      · exact hstep _ hedge
  intro hpath
  rcases Relation.TransGen.tail'_iff.mp hpath with ⟨x, hprefix, hedge⟩
  rcases hclosed x (hreach x hprefix) with ⟨_, hqueued⟩ | ⟨htarget, _⟩
  · cases hqueued
  · exact htarget hedge

end Search
end Foundation
end Oompah
