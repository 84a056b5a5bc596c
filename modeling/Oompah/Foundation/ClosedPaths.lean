import Mathlib.Algebra.Order.BigOperators.Group.List
import Mathlib.Data.List.Nodup
import Mathlib.Data.List.Perm.Subperm
import Mathlib.Data.List.Shortlex
import Oompah.Foundation.Graph

/-!
# The first closed path through a node

Breadth-first search over the simple paths that leave a node.  The queue is sorted, by
length and then by the order of the nodes, so that the path that closes first is the
least one that closes.
-/

namespace Oompah
namespace Foundation
namespace ClosedPaths

open List.Shortlex (append_left append_right of_length_lt of_lex)

variable {α : Type} [DecidableEq α]

/-!
# The search
-/

section Definitions

variable (component : List α) (start : α)

/-- Look at the neighbors of the end of a path: the closed path, or the longer queue. -/
def extend (path : List α) : List α -> List (α × List α) -> Sum (List α) (List (α × List α))
  | [], frontier => .inr frontier
  | neighbor :: rest, frontier =>
    if neighbor ∉ component then extend path rest frontier
    else if neighbor = start ∧ 1 < path.length then .inl (path ++ [start])
    else if neighbor ∉ path then
      extend path rest (frontier ++ [(neighbor, path ++ [neighbor])])
    else extend path rest frontier

/-- The search from a queue; the outer `none` is a search that ran out of fuel. -/
def find (neighbors : α -> List α) : Nat -> List (α × List α) -> Option (Option (List α))
  | 0, _ => none
  | _ + 1, [] => some none
  | fuel + 1, (node, path) :: rest =>
    match extend component start path (neighbors node) rest with
    | .inl closed => some (some closed)
    | .inr frontier => find neighbors fuel frontier

/-- What a path that can grow by so many nodes costs. -/
def cost (width : Nat) : Nat -> Nat
  | 0 => 1
  | room + 1 => 1 + width * cost width room

def closedPath (neighbors : α -> List α) : Option (Option (List α)) :=
  find component start neighbors (cost component.length component.length + 1) [(start, [start])]

end Definitions

/-!
# Simple closed paths
-/

section Loops

variable (neighbors : α -> List α) (component : List α) (start : α)

/-- A simple path from the start through the component. -/
structure Branch (node : α) (path : List α) : Prop where
  walk : Walk (Edge neighbors) start node path
  nodup : path.Nodup
  inside : forall x, x ∈ path -> x ∈ component

/-- A simple path of at least two nodes whose end has an edge back to the start. -/
def Loop (path : List α) : Prop :=
  1 < path.length ∧ exists node, Branch neighbors component start node path ∧ start ∈ neighbors node

/-- The next nodes that a path can grow by. -/
def grown (path : List α) (nodes : List α) : List (α × List α) :=
  (nodes.filter (fun next => next ∈ component ∧ next ∉ path)).map
    (fun next => (next, path ++ [next]))

end Loops

section Search

variable {neighbors : α -> List α} {component : List α} {start : α}

theorem extend_cases (path nodes : List α) (frontier : List (α × List α)) :
    (extend component start path nodes frontier = .inl (path ++ [start]) ∧
      start ∈ nodes ∧ 1 < path.length) ∨
    (extend component start path nodes frontier = .inr (frontier ++ grown component path nodes) ∧
      ¬ (start ∈ nodes ∧ start ∈ component ∧ 1 < path.length)) := by
  induction nodes generalizing frontier with
  | nil =>
    right
    refine ⟨?_, fun h => absurd h.left List.not_mem_nil⟩
    show Sum.inr frontier = Sum.inr (frontier ++ [])
    rw [List.append_nil]
  | cons next rest ih =>
    unfold extend grown
    rw [List.filter_cons]
    by_cases hout : next ∉ component
    · rw [if_pos hout, if_neg (by simp [hout])]
      rcases ih frontier with ⟨hrun, hmem, hlong⟩ | ⟨hrun, hnot⟩
      · exact .inl ⟨hrun, List.mem_cons_of_mem _ hmem, hlong⟩
      · refine .inr ⟨hrun, ?_⟩
        rintro ⟨hmem, hin, hlong⟩
        rcases List.mem_cons.mp hmem with hsame | hrest
        · exact hout (hsame ▸ hin)
        · exact hnot ⟨hrest, hin, hlong⟩
    · rw [if_neg hout]
      by_cases hclose : next = start ∧ 1 < path.length
      · rw [if_pos hclose]
        left
        exact ⟨rfl, hclose.left ▸ List.mem_cons_self, hclose.right⟩
      · rw [if_neg hclose]
        have hlater : ¬ (start ∈ rest ∧ start ∈ component ∧ 1 < path.length) ->
            ¬ (start ∈ next :: rest ∧ start ∈ component ∧ 1 < path.length) := by
          rintro hnot ⟨hmem, hin, hlong⟩
          rcases List.mem_cons.mp hmem with hsame | hrest
          · exact hclose ⟨hsame.symm, hlong⟩
          · exact hnot ⟨hrest, hin, hlong⟩
        by_cases hfresh : next ∉ path
        · rw [if_pos hfresh, if_pos (by simp [not_not.mp hout, hfresh])]
          rcases ih (frontier ++ [(next, path ++ [next])]) with
            ⟨hrun, hmem, hlong⟩ | ⟨hrun, hnot⟩
          · exact .inl ⟨hrun, List.mem_cons_of_mem _ hmem, hlong⟩
          · refine .inr ⟨?_, hlater hnot⟩
            rw [hrun, List.append_assoc]
            rfl
        · rw [if_neg hfresh, if_neg (by simp [not_not.mp hfresh])]
          rcases ih frontier with ⟨hrun, hmem, hlong⟩ | ⟨hrun, hnot⟩
          · exact .inl ⟨hrun, List.mem_cons_of_mem _ hmem, hlong⟩
          · exact .inr ⟨hrun, hlater hnot⟩

theorem mem_grown {path nodes : List α} {entry : α × List α} :
    entry ∈ grown component path nodes ↔ entry.1 ∈ nodes ∧ entry.1 ∈ component ∧ entry.1 ∉ path ∧
        entry.2 = path ++ [entry.1] := by
  rcases entry with ⟨node, longer⟩
  unfold grown
  rw [List.mem_map]
  constructor
  · rintro ⟨next, hnext, heq⟩
    cases heq
    rw [List.mem_filter, decide_eq_true_eq] at hnext
    exact ⟨hnext.left, hnext.right.left, hnext.right.right, rfl⟩
  · rintro ⟨hmem, hin, hfresh, heq⟩
    dsimp only at hmem hin hfresh heq
    refine ⟨node, ?_, by rw [heq]⟩
    rw [List.mem_filter, decide_eq_true_eq]
    exact ⟨hmem, hin, hfresh⟩

omit [DecidableEq α] in
theorem Branch.grow {node next : α} {path : List α}
    (h : Branch neighbors component start node path) (hedge : next ∈ neighbors node)
    (hin : next ∈ component) (hfresh : next ∉ path) :
    Branch neighbors component start next (path ++ [next]) where
  walk := h.walk.snoc hedge
  nodup := by
    rw [List.nodup_append]
    refine ⟨h.nodup, List.nodup_singleton next, ?_⟩
    intro x hx y hy hsame
    rw [List.mem_singleton.mp hy] at hsame
    exact hfresh (hsame ▸ hx)
  inside := by
    intro x hx
    rcases List.mem_append.mp hx with hold | hlast
    · exact h.inside x hold
    · rw [List.mem_singleton.mp hlast]
      exact hin

end Search

/-!
# The order of the queue
-/

section Order

variable {neighbors : α -> List α} {component : List α} {start : α}
  (r : α -> α -> Prop)

/-- What holds of the queue before a path is taken from it. -/
structure Queued (neighbors : α -> List α) (component : List α) (start : α)
    (queue : List (α × List α)) : Prop where
  branch : forall entry, entry ∈ queue -> Branch neighbors component start entry.1 entry.2
  sorted : queue.Pairwise (fun a b => List.Shortlex r a.2 b.2)
  parents : forall a, a ∈ queue -> forall b, b ∈ queue -> List.Shortlex r b.2.dropLast a.2
  pending : forall path, Loop neighbors component start path ->
    exists entry, entry ∈ queue ∧ entry.2 <+: path

omit [DecidableEq α] in
theorem queued_start (hstart : start ∈ component) :
    Queued r neighbors component start [(start, [start])] where
  branch := by
    intro entry hentry
    rw [List.mem_singleton.mp hentry]
    refine ⟨Walk.single _ start, List.nodup_singleton start, ?_⟩
    intro x hx
    rw [List.mem_singleton.mp hx]
    exact hstart
  sorted := List.pairwise_singleton _ _
  parents := by
    intro a ha b hb
    rw [List.mem_singleton.mp ha, List.mem_singleton.mp hb]
    exact of_length_lt (Nat.zero_lt_one)
  pending := by
    rintro path ⟨_, node, hbranch, _⟩
    refine ⟨_, List.mem_singleton_self _, ?_⟩
    have hhead := hbranch.walk.head
    cases path with
    | nil => cases hhead
    | cons first rest =>
      cases hhead
      exact ⟨rest, rfl⟩

omit [DecidableEq α] in
theorem lex_append {path path' : List α} (h : List.Lex r path path')
    (hlen : path.length = path'.length) (tail tail' : List α) :
    List.Lex r (path ++ tail) (path' ++ tail') := by
  induction h with
  | nil => cases hlen
  | cons _ ih => exact List.Lex.cons (ih (Nat.succ.inj hlen))
  | rel hless => exact List.Lex.rel hless

omit [DecidableEq α] in
/-- A longer path comes after every path whose parent comes before. -/
theorem shortlex_grow {path : List α} {entry : List α} {next : α} (hne : entry ≠ [])
    (h : List.Shortlex r entry.dropLast path) : List.Shortlex r entry (path ++ [next]) := by
  have hlen : entry.length = entry.dropLast.length + 1 := by
    rw [List.length_dropLast]
    have hpos := List.length_pos_of_ne_nil hne
    omega
  rcases List.shortlex_def.mp h with hless | ⟨hsame, hlex⟩
  · apply of_length_lt
    rw [List.length_append, List.length_singleton]
    omega
  · apply of_lex
    · rw [List.length_append, List.length_singleton]
      omega
    · rw [← List.dropLast_append_getLast hne]
      exact lex_append r hlex hsame _ _

variable {r}

theorem Queued.step {node : α} {path : List α} {rest : List (α × List α)}
    (hsorted : forall x, (neighbors x).Pairwise r)
    (h : Queued r neighbors component start ((node, path) :: rest))
    (hopen : ¬ (start ∈ neighbors node ∧ start ∈ component ∧ 1 < path.length)) :
    Queued r neighbors component start (rest ++ grown component path (neighbors node)) := by
  have hhead := h.branch (node, path) List.mem_cons_self
  have hbefore := List.pairwise_cons.mp h.sorted
  have hparent : forall entry, entry ∈ rest -> List.Shortlex r entry.2.dropLast path :=
    fun entry hentry => h.parents (node, path) List.mem_cons_self entry
      (List.mem_cons_of_mem _ hentry)
  have hlonger : forall next, List.Shortlex r path (path ++ [next]) := by
    intro next
    apply of_length_lt
    rw [List.length_append, List.length_singleton]
    exact Nat.lt_succ_self _
  constructor
  · intro entry hentry
    rcases List.mem_append.mp hentry with hold | hnew
    · exact h.branch entry (List.mem_cons_of_mem _ hold)
    · rcases mem_grown.mp hnew with ⟨hedge, hin, hfresh, hpath⟩
      rw [hpath]
      exact hhead.grow hedge hin hfresh
  · rw [List.pairwise_append]
    refine ⟨hbefore.right, ?_, ?_⟩
    · unfold grown
      rw [List.pairwise_map]
      apply ((hsorted node).filter _).imp
      intro a b hless
      apply append_left
      rw [List.shortlex_singleton_iff]
      exact hless
    · intro entry hentry longer hlong
      rw [(mem_grown.mp hlong).right.right.right]
      apply shortlex_grow r _ (hparent entry hentry)
      intro hnil
      have hwalk := (h.branch entry (List.mem_cons_of_mem _ hentry)).walk.head
      rw [hnil] at hwalk
      cases hwalk
  · intro a ha b hb
    rcases List.mem_append.mp hb with hbOld | hbNew
    · rcases List.mem_append.mp ha with haOld | haNew
      · exact h.parents a (List.mem_cons_of_mem _ haOld) b (List.mem_cons_of_mem _ hbOld)
      · rw [(mem_grown.mp haNew).right.right.right]
        exact append_right _ (hparent b hbOld)
    · rw [(mem_grown.mp hbNew).right.right.right, List.dropLast_concat]
      rcases List.mem_append.mp ha with haOld | haNew
      · exact hbefore.left a haOld
      · rw [(mem_grown.mp haNew).right.right.right]
        exact hlonger a.1
  · intro loop hloop
    rcases h.pending loop hloop with ⟨entry, hentry, hprefix⟩
    rcases List.mem_cons.mp hentry with hsame | hold
    · rw [hsame] at hprefix
      rcases hprefix with ⟨tail, htail⟩
      rcases hloop with ⟨hlong, last, hbranch, hback⟩
      cases tail with
      | nil =>
        rw [List.append_nil] at htail
        have hlast := hbranch.walk.last
        rw [← htail, hhead.walk.last] at hlast
        cases hlast
        have hstart : start ∈ component :=
          hbranch.inside start (List.mem_of_mem_head? hbranch.walk.head)
        have htail : path = loop := htail
        rw [← htail] at hlong
        exact absurd ⟨hback, hstart, hlong⟩ hopen
      | cons next tail =>
        refine ⟨(next, path ++ [next]), List.mem_append_right _ (mem_grown.mpr ?_), ?_⟩
        · have hmem : next ∈ loop := by
            rw [← htail]
            exact List.mem_append_right _ List.mem_cons_self
          have hchain := hbranch.walk.chain
          rw [← htail, List.isChain_append] at hchain
          have hnodup := hbranch.nodup
          rw [← htail, List.nodup_append] at hnodup
          refine ⟨hchain.right.right node hhead.walk.last next rfl,
            hbranch.inside next hmem, ?_, rfl⟩
          intro hin
          exact hnodup.right.right next hin next List.mem_cons_self rfl
        · refine ⟨tail, ?_⟩
          rw [← htail]
          show (path ++ [next]) ++ tail = path ++ next :: tail
          rw [List.append_assoc]
          rfl
    · exact ⟨entry, List.mem_append_left _ hold, hprefix⟩

omit [DecidableEq α] in
theorem Queued.first {node : α} {path loop : List α} {rest : List (α × List α)}
    (h : Queued r neighbors component start ((node, path) :: rest))
    (hloop : Loop neighbors component start loop) :
    loop = path ∨ List.Shortlex r path loop := by
  rcases h.pending loop hloop with ⟨entry, hentry, tail, htail⟩
  rw [← htail]
  rcases List.mem_cons.mp hentry with hsame | hold
  · rw [hsame]
    cases tail with
    | nil => exact .inl (List.append_nil _)
    | cons next tail =>
      right
      apply of_length_lt
      rw [List.length_append, List.length_cons]
      exact Nat.lt_add_of_pos_right (Nat.succ_pos _)
  · exact .inr (append_right _ ((List.pairwise_cons.mp h.sorted).left entry hold))

end Order

/-!
# What the search finds
-/

section Result

variable {neighbors : α -> List α} {component : List α} {start : α}
  {r : α -> α -> Prop}

/-- The path closes and comes before every other one that does. -/
def First (r : α -> α -> Prop) (neighbors : α -> List α) (component : List α) (start : α)
    (path : List α) : Prop :=
  Loop neighbors component start path ∧ forall loop, Loop neighbors component start loop ->
      loop = path ∨ List.Shortlex r path loop

/-- The least path that closes, or `none` where there is none. -/
def Finds (r : α -> α -> Prop) (neighbors : α -> List α) (component : List α) (start : α) :
    Option (List α) -> Prop
  | none => forall path, ¬ Loop neighbors component start path
  | some closed => exists path, closed = path ++ [start] ∧ First r neighbors component start path

def queueCost (component : List α) (queue : List (α × List α)) : Nat :=
  (queue.map (fun entry => cost component.length (component.length - entry.2.length))).sum

/-- All the longer paths cost less than the path they grow from. -/
theorem grown_cost {node : α} {path nodes : List α} (hnodes : nodes.Nodup)
    (h : Branch neighbors component start node path) :
    queueCost component (grown component path nodes) <
      cost component.length (component.length - path.length) := by
  have hnodup : (nodes.filter (fun next => next ∈ component ∧ next ∉ path) ++ path).Nodup := by
    rw [List.nodup_append]
    refine ⟨hnodes.filter _, h.nodup, ?_⟩
    intro x hx y hy hsame
    rw [List.mem_filter, decide_eq_true_eq] at hx
    exact hx.right.right (hsame ▸ hy)
  have hsubset : nodes.filter (fun next => next ∈ component ∧ next ∉ path) ++ path ⊆
      component := by
    intro x hx
    rcases List.mem_append.mp hx with hnew | hold
    · rw [List.mem_filter, decide_eq_true_eq] at hnew
      exact hnew.right.left
    · exact h.inside x hold
  have hlen := (List.subperm_of_subset hnodup hsubset).length_le
  rw [List.length_append] at hlen
  unfold queueCost grown
  rw [List.map_map]
  generalize hnew : nodes.filter (fun next => next ∈ component ∧ next ∉ path) = new at hlen
  have hsum : (new.map ((fun entry : α × List α =>
        cost component.length (component.length - entry.2.length)) ∘
          fun next => (next, path ++ [next]))).sum =
      new.length * cost component.length (component.length - (path.length + 1)) := by
    rw [← List.sum_replicate_nat]
    congr 1
    rw [List.eq_replicate_iff]
    refine ⟨List.length_map _, ?_⟩
    intro value hvalue
    rcases List.mem_map.mp hvalue with ⟨next, _, hcost⟩
    rw [← hcost]
    show cost _ (component.length - (path ++ [next]).length) = _
    rw [List.length_append, List.length_singleton]
  rw [hsum]
  cases hroom : component.length - path.length with
  | zero =>
    have hzero : new.length = 0 := by omega
    rw [hzero, Nat.zero_mul]
    exact Nat.one_pos
  | succ room =>
    have hnext : component.length - (path.length + 1) = room := by omega
    rw [hnext]
    show _ < 1 + component.length * cost component.length room
    have hle : new.length * cost component.length room ≤
        component.length * cost component.length room :=
      Nat.mul_le_mul_right _ (by omega)
    omega

theorem find_finds [Std.Irrefl r] (hsorted : forall x, (neighbors x).Pairwise r) (fuel : Nat) :
    forall queue, Queued r neighbors component start queue -> queueCost component queue < fuel ->
      exists result, find component start neighbors fuel queue = some result ∧
        Finds r neighbors component start result := by
  induction fuel with
  | zero => exact fun _ _ hcost => absurd hcost (Nat.not_lt_zero _)
  | succ fuel ih =>
    intro queue h hcost
    cases queue with
    | nil =>
      refine ⟨none, rfl, ?_⟩
      intro path hloop
      rcases h.pending path hloop with ⟨_, hentry, _⟩
      exact absurd hentry List.not_mem_nil
    | cons entry rest =>
      rcases entry with ⟨node, path⟩
      have hbranch := h.branch (node, path) List.mem_cons_self
      unfold find
      rcases extend_cases path (neighbors node) rest with
        ⟨hrun, hback, hlong⟩ | ⟨hrun, hopen⟩
      · rw [hrun]
        refine ⟨some (path ++ [start]), rfl, path, rfl, ⟨hlong, node, hbranch, hback⟩, ?_⟩
        exact fun loop hloop => h.first hloop
      · rw [hrun]
        apply ih _ (h.step hsorted hopen)
        have hnodup : (neighbors node).Nodup :=
          (hsorted node).imp (fun hless hsame => absurd (hsame ▸ hless) (Std.Irrefl.irrefl _))
        have hgrown : queueCost component (grown component path (neighbors node)) <
            cost component.length (component.length - path.length) :=
          grown_cost hnodup hbranch
        unfold queueCost at hcost hgrown ⊢
        rw [List.map_cons, List.sum_cons] at hcost
        rw [List.map_append, List.sum_append]
        dsimp only at hcost
        omega

/-- The search ends, with the least simple path that closes. -/
theorem closedPath_finds [Std.Irrefl r] (hsorted : forall x, (neighbors x).Pairwise r)
    (hstart : start ∈ component) :
    exists result, closedPath component start neighbors = some result ∧
      Finds r neighbors component start result := by
  apply find_finds hsorted _ _ (queued_start r hstart)
  show cost _ (component.length - 1) + 0 < _
  have hpos := List.length_pos_of_mem hstart
  cases hlen : component.length with
  | zero => omega
  | succ n =>
    show cost (n + 1) n + 0 < 1 + (n + 1) * cost (n + 1) n + 1
    have hle : 1 * cost (n + 1) n ≤ (n + 1) * cost (n + 1) n :=
      Nat.mul_le_mul_right _ (Nat.succ_pos n)
    omega

end Result

/-!
# Closed paths through a component
-/

section Existence

variable {neighbors : α -> List α} {component : List α} {start : α}

omit [DecidableEq α] in
theorem walk_split {x y z : α} {before after : List α}
    (h : Walk (Edge neighbors) x y (before ++ z :: after)) :
    Walk (Edge neighbors) x z (before ++ [z]) ∧ Walk (Edge neighbors) z y (z :: after) := by
  have hchain := h.chain
  rw [List.append_cons] at hchain
  have hleft := (List.isChain_append.mp hchain).left
  have hright := (List.isChain_append.mp h.chain).right.left
  refine ⟨⟨hleft, ?_, by simp⟩, ⟨hright, rfl, ?_⟩⟩
  · have hhead := h.head
    cases before with
    | nil => exact hhead
    | cons first rest => exact hhead
  · have hlast := h.last
    rw [List.getLast?_append] at hlast
    exact hlast

omit [DecidableEq α] in
theorem walk_reaches {x y z : α} {path : List α} (h : Walk (Edge neighbors) x y path)
    (hz : z ∈ path) :
    Relation.ReflTransGen (Edge neighbors) x z ∧ Relation.ReflTransGen (Edge neighbors) z y := by
  rcases List.append_of_mem hz with ⟨before, after, hpath⟩
  rw [hpath] at h
  exact ⟨(walk_split h).left.reflTransGen, (walk_split h).right.reflTransGen⟩

omit [DecidableEq α] in
theorem exists_simple_walk {x y : α} (h : Relation.ReflTransGen (Edge neighbors) x y) :
    exists path, Walk (Edge neighbors) x y path ∧ path.Nodup := by
  induction h with
  | refl => exact ⟨[x], Walk.single _ x, List.nodup_singleton x⟩
  | tail _ hedge ih =>
    rename_i y z _
    rcases ih with ⟨path, hwalk, hnodup⟩
    by_cases hz : z ∈ path
    · rcases List.append_of_mem hz with ⟨before, after, hpath⟩
      rw [hpath] at hwalk hnodup
      rw [List.append_cons] at hnodup
      exact ⟨before ++ [z], (walk_split hwalk).left, (List.nodup_append.mp hnodup).left⟩
    · refine ⟨path ++ [z], hwalk.snoc hedge, ?_⟩
      rw [List.nodup_append]
      refine ⟨hnodup, List.nodup_singleton z, ?_⟩
      intro a ha b hb hsame
      rw [List.mem_singleton.mp hb] at hsame
      exact hz (hsame ▸ ha)

variable (neighbors start) in
/-- A simple path of at least two nodes whose end has an edge back to the start. -/
def SimpleCycle (path : List α) : Prop :=
  1 < path.length ∧ path.Nodup ∧
    exists node, Walk (Edge neighbors) start node path ∧ start ∈ neighbors node

omit [DecidableEq α] in
/-- A closed path stays inside a component that holds all it can return from. -/
theorem loop_iff (hcomponent : forall x, Relation.ReflTransGen (Edge neighbors) start x ->
      Relation.ReflTransGen (Edge neighbors) x start -> x ∈ component) (path : List α) :
    Loop neighbors component start path ↔ SimpleCycle neighbors start path := by
  constructor
  · rintro ⟨hlong, node, hbranch, hback⟩
    exact ⟨hlong, hbranch.nodup, node, hbranch.walk, hback⟩
  · rintro ⟨hlong, hnodup, node, hwalk, hback⟩
    refine ⟨hlong, node, ⟨hwalk, hnodup, ?_⟩, hback⟩
    intro x hx
    have hreach := walk_reaches hwalk hx
    exact hcomponent x hreach.left (hreach.right.tail hback)

omit [DecidableEq α] in
/-- A node with an edge to the start that the start reaches closes a simple path. -/
theorem exists_simpleCycle {node : α} (hne : node ≠ start)
    (hreach : Relation.ReflTransGen (Edge neighbors) start node)
    (hback : start ∈ neighbors node) : exists path, SimpleCycle neighbors start path := by
  rcases exists_simple_walk hreach with ⟨path, hwalk, hnodup⟩
  refine ⟨path, ?_, hnodup, node, hwalk, hback⟩
  have hhead := hwalk.head
  have hlast := hwalk.last
  cases path with
  | nil => cases hhead
  | cons first rest =>
    cases rest with
    | nil =>
      cases hhead
      cases hlast
      exact absurd rfl hne
    | cons second rest =>
      rw [List.length_cons, List.length_cons]
      omega

end Existence
end ClosedPaths
end Foundation
end Oompah
