import Mathlib.Data.List.Nodup
import Mathlib.Data.List.Perm.Subperm
import Oompah.Foundation.Graph

/-!
# Strongly connected components

Depth-first search with indices and low links.  The stack holds the vertices whose
component is not complete; a vertex that reaches nothing older on the stack closes
the component above it.
-/

namespace Oompah
namespace Foundation

open Relation.ReflTransGen (single)

/-- The state of the search; the top of the stack is the head of the list. -/
structure Tarjan (α : Type) where
  index : Nat := 0
  indices : α -> Option Nat := fun _ => none
  lowlinks : α -> Nat := fun _ => 0
  stack : List α := []
  onStack : α -> Bool := fun _ => false
  components : List (List α) := []

namespace Tarjan

variable {α : Type} [DecidableEq α]

/-!
# The search
-/

def enter (s : Tarjan α) (node : α) : Tarjan α :=
  { s with
    index := s.index + 1
    indices := fun x => if x = node then some s.index else s.indices x
    lowlinks := fun x => if x = node then s.index else s.lowlinks x
    stack := node :: s.stack
    onStack := fun x => if x = node then true else s.onStack x }

def lower (s : Tarjan α) (node : α) (value : Nat) : Tarjan α :=
  { s with lowlinks := fun x => if x = node then min (s.lowlinks node) value else s.lowlinks x }

def examine (visit : α -> Tarjan α -> Option (Tarjan α)) (node : α) (s : Tarjan α)
    (neighbor : α) : Option (Tarjan α) :=
  match s.indices neighbor with
  | none => (visit neighbor s).map (fun s => s.lower node (s.lowlinks neighbor))
  | some index => if s.onStack neighbor then some (s.lower node index) else some s

/-- The members down to the node, and the rest of the stack. -/
def popThrough (node : α) : List α -> List α × List α
  | [] => ([], [])
  | member :: rest =>
    if member = node then ([member], rest)
    else (member :: (popThrough node rest).1, (popThrough node rest).2)

def close (s : Tarjan α) (popped : List α × List α) : Tarjan α :=
  { s with
    stack := popped.2
    onStack := fun x => s.onStack x && !decide (x ∈ popped.1)
    components := s.components ++ [popped.1] }

def finish (s : Tarjan α) (node : α) : Tarjan α :=
  if some (s.lowlinks node) ≠ s.indices node then s else s.close (popThrough node s.stack)

variable (neighbors : α -> List α)

def visit : Nat -> α -> Tarjan α -> Option (Tarjan α)
  | 0, _, _ => none
  | fuel + 1, node, s =>
    ((neighbors node).foldlM (examine (visit fuel) node) (s.enter node)).map
      (fun s => s.finish node)

def visitRoot (fuel : Nat) (s : Tarjan α) (root : α) : Option (Tarjan α) :=
  if s.indices root = none then visit neighbors fuel root s else some s

def stronglyConnected (fuel : Nat) (roots : List α) : Option (List (List α)) :=
  (roots.foldlM (visitRoot neighbors fuel) {}).map components

/-!
# What holds between two visits
-/

def Reaches (x y : α) : Prop := Relation.ReflTransGen (Edge neighbors) x y

/-- All vertices that reach one vertex and are reached by it. -/
def IsComponent (component : List α) : Prop :=
  component.Nodup ∧ exists x, x ∈ component ∧
    forall y, y ∈ component ↔ Reaches neighbors x y ∧ Reaches neighbors y x

variable {neighbors} in
omit [DecidableEq α] in
/-- A component is the same whichever of its members it is counted from. -/
theorem IsComponent.mem_iff {component : List α} (h : IsComponent neighbors component)
    {x : α} (hx : x ∈ component) (y : α) :
    y ∈ component ↔ Reaches neighbors x y ∧ Reaches neighbors y x := by
  rcases h.right with ⟨centre, _, hmem⟩
  have hcentre := (hmem x).mp hx
  rw [hmem]
  constructor
  · rintro ⟨hfrom, hback⟩
    exact ⟨hcentre.right.trans hfrom, hback.trans hcentre.left⟩
  · rintro ⟨hfrom, hback⟩
    exact ⟨hcentre.left.trans hfrom, hback.trans hcentre.right⟩

/-- The index of a vertex that has one. -/
def rank (s : Tarjan α) (x : α) : Nat := (s.indices x).getD 0

def Indexed (s : Tarjan α) (x : α) : Prop := s.indices x ≠ none

/-- The state between two visits; `path` holds the vertices that are not finished. -/
structure Coherent (path : List α) (s : Tarjan α) : Prop where
  bound : forall x i, s.indices x = some i -> i < s.index
  stacked : forall x, s.onStack x = true ↔ x ∈ s.stack
  indexed : forall x, x ∈ s.stack -> s.Indexed x
  sorted : s.stack.Pairwise (fun x y => s.rank y < s.rank x)
  grey : forall x, x ∈ path -> x ∈ s.stack
  closed : forall x, s.Indexed x -> x ∉ path -> forall y, y ∈ neighbors x -> s.Indexed y
  settled : forall x, s.Indexed x -> x ∉ s.stack -> forall y, y ∈ neighbors x -> y ∉ s.stack
  below : forall x, x ∈ s.stack -> forall y, y ∈ s.stack -> s.rank x ≤ s.rank y ->
    Reaches neighbors x y
  above : forall y, y ∈ s.stack -> exists grey, grey ∈ path ∧ s.rank grey ≤ s.rank y ∧
    Reaches neighbors y grey
  complete : forall component, component ∈ s.components -> IsComponent neighbors component
  covered : forall x, (exists component, component ∈ s.components ∧ x ∈ component) ↔
    s.Indexed x ∧ x ∉ s.stack
  apart : s.components.Pairwise (fun first second => forall x, x ∈ first -> x ∉ second)

/-- Indices stay, and the stack grows by vertices that had none. -/
structure Advances (s s' : Tarjan α) : Prop where
  numbered : forall x i, s.indices x = some i -> s'.indices x = some i
  fresh : forall x i, s.indices x = none -> s'.indices x = some i -> s.index ≤ i
  index : s.index ≤ s'.index
  grown : exists new, s'.stack = new ++ s.stack ∧ forall x, x ∈ new -> s.indices x = none

variable {neighbors} {s s' s'' : Tarjan α} {node x y : α} {path : List α}

omit [DecidableEq α] in
theorem rank_of_indices {i : Nat} (h : s.indices x = some i) : s.rank x = i := by
  unfold rank
  rw [h]
  rfl

omit [DecidableEq α] in
theorem Indexed.some (h : s.Indexed x) : s.indices x = some (s.rank x) := by
  unfold rank
  cases hindex : s.indices x with
  | none => exact absurd hindex h
  | some i => rfl

namespace Advances

omit [DecidableEq α]

theorem refl (s : Tarjan α) : Advances s s where
  numbered := fun _ _ => id
  fresh := by
    intro x i hnone hsome
    rw [hnone] at hsome
    cases hsome
  index := Nat.le_refl _
  grown := ⟨[], rfl, fun _ hx => absurd hx List.not_mem_nil⟩

theorem indexed (h : Advances s s') (hx : s.Indexed x) : s'.Indexed x := by
  unfold Indexed
  rw [h.numbered x _ hx.some]
  exact Option.some_ne_none _

theorem rank (h : Advances s s') (hx : s.Indexed x) : s'.rank x = s.rank x :=
  rank_of_indices (h.numbered x _ hx.some)

theorem not_indexed (h : Advances s s') (hx : s'.indices x = none) : s.indices x = none := by
  by_contra hindexed
  exact h.indexed hindexed hx

theorem stack (h : Advances s s') (hx : x ∈ s.stack) : x ∈ s'.stack := by
  rcases h.grown with ⟨new, hstack, _⟩
  rw [hstack]
  exact List.mem_append_right _ hx

theorem trans (h : Advances s s') (h' : Advances s' s'') : Advances s s'' where
  numbered := fun x i hx => h'.numbered x i (h.numbered x i hx)
  fresh := by
    intro x i hnone hsome
    cases hmiddle : s'.indices x with
    | none => exact Nat.le_trans h.index (h'.fresh x i hmiddle hsome)
    | some j =>
      rw [h'.numbered x j hmiddle] at hsome
      cases hsome
      exact h.fresh x _ hnone hmiddle
  index := Nat.le_trans h.index h'.index
  grown := by
    rcases h.grown with ⟨new, hstack, hnew⟩
    rcases h'.grown with ⟨new', hstack', hnew'⟩
    refine ⟨new' ++ new, by rw [hstack', hstack, List.append_assoc], ?_⟩
    intro x hx
    rcases List.mem_append.mp hx with hlate | hearly
    · exact h.not_indexed (hnew' x hlate)
    · exact hnew x hearly

end Advances

namespace Coherent

variable (hs : Coherent neighbors path s)
include hs

omit [DecidableEq α] in
theorem grey_indexed (hx : x ∈ path) : s.Indexed x := hs.indexed x (hs.grey x hx)

omit [DecidableEq α] in
theorem rank_lt (hx : s.Indexed x) : s.rank x < s.index := hs.bound x _ hx.some

omit [DecidableEq α] in
theorem nodup : s.stack.Nodup :=
  hs.sorted.imp (fun hless hsame => absurd (hsame ▸ hless) (Nat.lt_irrefl _))

end Coherent

theorem enter_rank (hx : s.Indexed x) (hnew : s.indices node = none) :
    (s.enter node).rank x = s.rank x := by
  apply rank_of_indices
  show (if x = node then some s.index else s.indices x) = _
  rw [if_neg, hx.some]
  rintro rfl
  exact hx hnew

theorem enter_indices_node : (s.enter node).indices node = some s.index := if_pos rfl

theorem enter_indexed : (s.enter node).Indexed x ↔ x = node ∨ s.Indexed x := by
  unfold Indexed
  show (if x = node then some s.index else s.indices x) ≠ none ↔ _
  by_cases hx : x = node
  · simp [hx]
  · simp [hx]

theorem enter_rank_node : (s.enter node).rank node = s.index :=
  rank_of_indices enter_indices_node

theorem Coherent.enter (hs : Coherent neighbors path s) (hnew : s.indices node = none)
    (hpath : forall grey, grey ∈ path -> Reaches neighbors grey node) :
    Coherent neighbors (node :: path) (s.enter node) where
  bound := by
    intro x i hx
    have hx : (if x = node then some s.index else s.indices x) = some i := hx
    by_cases hsame : x = node
    · rw [if_pos hsame] at hx
      cases hx
      exact Nat.lt_succ_self _
    · rw [if_neg hsame] at hx
      exact Nat.lt_succ_of_lt (hs.bound x i hx)
  stacked := by
    intro x
    show (if x = node then true else s.onStack x) = true ↔ x ∈ node :: s.stack
    by_cases hsame : x = node
    · simp [hsame]
    · rw [if_neg hsame, hs.stacked]
      simp [hsame]
  indexed := by
    intro x hx
    rw [enter_indexed]
    exact (List.mem_cons.mp hx).imp id (hs.indexed x)
  sorted := by
    apply List.pairwise_cons.mpr
    constructor
    · intro x hx
      rw [enter_rank (hs.indexed x hx) hnew, enter_rank_node]
      exact hs.rank_lt (hs.indexed x hx)
    · apply hs.sorted.imp_of_mem
      intro x y hx hy hless
      rw [enter_rank (hs.indexed x hx) hnew, enter_rank (hs.indexed y hy) hnew]
      exact hless
  grey := by
    intro x hx
    rcases List.mem_cons.mp hx with rfl | hx
    · exact List.mem_cons_self
    · exact List.mem_cons_of_mem _ (hs.grey x hx)
  closed := by
    intro x hx hoff y hy
    rw [enter_indexed] at hx ⊢
    rw [List.mem_cons, not_or] at hoff
    exact .inr (hs.closed x (hx.resolve_left hoff.left) hoff.right y hy)
  settled := by
    intro x hx hoff y hy hmem
    have hoff : x ∉ node :: s.stack := hoff
    rw [enter_indexed] at hx
    rw [List.mem_cons, not_or] at hoff
    have hold := hx.resolve_left hoff.left
    have hyIndexed : s.Indexed y :=
      hs.closed x hold (fun hgrey => hoff.right (hs.grey x hgrey)) y hy
    rcases List.mem_cons.mp hmem with rfl | hmem
    · exact hyIndexed hnew
    · exact hs.settled x hold hoff.right y hy hmem
  below := by
    intro x hx y hy hle
    rcases List.mem_cons.mp hx with hxNode | hxOld
    · rcases List.mem_cons.mp hy with hyNode | hyOld
      · rw [hxNode, hyNode]
        exact Relation.ReflTransGen.refl
      · rw [hxNode, enter_rank_node, enter_rank (hs.indexed y hyOld) hnew] at hle
        exact absurd (hs.rank_lt (hs.indexed y hyOld)) (Nat.not_lt_of_le hle)
    · rcases List.mem_cons.mp hy with hyNode | hyOld
      · rcases hs.above x hxOld with ⟨grey, hgrey, _, hreach⟩
        rw [hyNode]
        exact hreach.trans (hpath grey hgrey)
      · rw [enter_rank (hs.indexed x hxOld) hnew, enter_rank (hs.indexed y hyOld) hnew] at hle
        exact hs.below x hxOld y hyOld hle
  above := by
    intro y hy
    rcases List.mem_cons.mp hy with rfl | hy
    · exact ⟨y, List.mem_cons_self, Nat.le_refl _, Relation.ReflTransGen.refl⟩
    · rcases hs.above y hy with ⟨grey, hgrey, hle, hreach⟩
      refine ⟨grey, List.mem_cons_of_mem _ hgrey, ?_, hreach⟩
      rw [enter_rank (hs.grey_indexed hgrey) hnew, enter_rank (hs.indexed y hy) hnew]
      exact hle
  complete := hs.complete
  covered := by
    intro x
    show (exists component, component ∈ s.components ∧ x ∈ component) ↔
      (s.enter node).Indexed x ∧ x ∉ node :: s.stack
    rw [hs.covered, enter_indexed, List.mem_cons, not_or]
    constructor
    · rintro ⟨hindexed, hoff⟩
      refine ⟨Or.inr hindexed, ?_, hoff⟩
      rintro rfl
      exact hindexed hnew
    · rintro ⟨hindexed, hne, hoff⟩
      exact ⟨hindexed.resolve_left hne, hoff⟩
  apart := hs.apart

theorem Coherent.lower (hs : Coherent neighbors path s) (value : Nat) :
    Coherent neighbors path (s.lower node value) :=
  ⟨hs.bound, hs.stacked, hs.indexed, hs.sorted, hs.grey, hs.closed, hs.settled, hs.below,
    hs.above, hs.complete, hs.covered, hs.apart⟩

theorem lower_lowlinks_self (value : Nat) :
    (s.lower node value).lowlinks node = min (s.lowlinks node) value := if_pos rfl

theorem lower_lowlinks_ne (hne : x ≠ node) (value : Nat) :
    (s.lower node value).lowlinks x = s.lowlinks x := if_neg hne

/-!
# Low links
-/

/-- The value is no index of the old stack, or of one that the node reaches. -/
def LowOf (neighbors : α -> List α) (s : Tarjan α) (node : α) (low : Nat) : Prop :=
  s.index ≤ low ∨ exists y, y ∈ s.stack ∧ s.rank y = low ∧ Reaches neighbors node y

/-- The value bounds the indices of the old stack that edges of the vertices enter. -/
def Covers (neighbors : α -> List α) (s s' : Tarjan α) (low : Nat) : Prop :=
  forall x, x ∈ s'.stack -> x ∉ s.stack -> forall y, y ∈ neighbors x -> y ∈ s.stack ->
    low ≤ s.rank y

/-- What a visit leaves. -/
structure Visited (neighbors : α -> List α) (path : List α) (s s' : Tarjan α) (node : α) :
    Prop where
  coherent : Coherent neighbors path s'
  advances : Advances s s'
  lowlinks : forall x, s.Indexed x -> s'.lowlinks x = s.lowlinks x
  indices : s'.indices node = some s.index
  low : LowOf neighbors s node (s'.lowlinks node)
  covers : Covers neighbors s s' (s'.lowlinks node)

/-- What a visit does to a coherent state whose path leads to the node. -/
def Visits (neighbors : α -> List α) (visit : α -> Tarjan α -> Option (Tarjan α)) : Prop :=
  forall path node s s', Coherent neighbors path s -> s.indices node = none ->
    (forall grey, grey ∈ path -> Reaches neighbors grey node) ->
    visit node s = some s' -> Visited neighbors path s s' node

/-- What the edges of a node that are examined leave. -/
structure Scanned (neighbors : α -> List α) (path : List α) (s t : Tarjan α) (node : α)
    (done : List α) : Prop where
  coherent : Coherent neighbors (node :: path) t
  advances : Advances (s.enter node) t
  lowlinks : forall x, s.Indexed x -> t.lowlinks x = s.lowlinks x
  seen : forall x, x ∈ done -> t.Indexed x
  le : t.lowlinks node ≤ s.index
  low : LowOf neighbors s node (t.lowlinks node)
  covers : forall x, x ∈ t.stack -> x ∉ s.stack -> x ≠ node ->
    forall y, y ∈ neighbors x -> y ∈ s.stack -> t.lowlinks node ≤ s.rank y
  coversNode : forall y, y ∈ done -> y ∈ s.stack -> t.lowlinks node ≤ s.rank y

section Scan

variable {t : Tarjan α} {done : List α}

theorem Scanned.indices (h : Scanned neighbors path s t node done) :
    t.indices node = some s.index :=
  h.advances.numbered node _ enter_indices_node

theorem Scanned.rank (hnew : s.indices node = none)
    (h : Scanned neighbors path s t node done) (hx : s.Indexed x) : t.rank x = s.rank x := by
  rw [h.advances.rank (enter_indexed.mpr (Or.inr hx)), enter_rank hx hnew]

theorem Scanned.indexed (h : Scanned neighbors path s t node done) (hx : s.Indexed x) :
    t.Indexed x :=
  h.advances.indexed (enter_indexed.mpr (Or.inr hx))

theorem Scanned.stack (h : Scanned neighbors path s t node done) (hx : x ∈ s.stack) : x ∈ t.stack :=
  h.advances.stack (List.mem_cons_of_mem _ hx)

/-- The stack above the old one holds the node and later vertices. -/
theorem Scanned.rank_new (h : Scanned neighbors path s t node done) (hx : x ∈ t.stack)
    (hold : x ∉ s.stack) : s.index ≤ t.rank x := by
  have hindexed := h.coherent.indexed x hx
  by_cases hnode : x = node
  · rw [hnode, rank_of_indices h.indices]
  · have hnone : (s.enter node).indices x = none := by
      rcases h.advances.grown with ⟨new, hstack, hnew⟩
      rw [hstack] at hx
      rcases List.mem_append.mp hx with hlate | hearly
      · exact hnew x hlate
      · rcases List.mem_cons.mp hearly with hsame | hmem
        · exact absurd hsame hnode
        · exact absurd hmem hold
    exact Nat.le_of_succ_le (h.advances.fresh x _ hnone hindexed.some)

theorem scanned_enter (hs : Coherent neighbors path s) (hnew : s.indices node = none)
    (hpath : forall grey, grey ∈ path -> Reaches neighbors grey node) :
    Scanned neighbors path s (s.enter node) node [] where
  coherent := hs.enter hnew hpath
  advances := Advances.refl _
  lowlinks := by
    intro x hx
    apply if_neg
    rintro rfl
    exact hx hnew
  seen := fun _ hx => absurd hx List.not_mem_nil
  le := Nat.le_of_eq (if_pos rfl)
  low := Or.inl (Nat.le_of_eq (if_pos rfl).symm)
  covers := by
    intro x hx hold hne
    rcases List.mem_cons.mp hx with hsame | hmem
    · exact absurd hsame hne
    · exact absurd hmem hold
  coversNode := fun _ hy => absurd hy List.not_mem_nil

variable {neighbor : α}

theorem Scanned.settled (h : Scanned neighbors path s t node done) (hindexed : t.Indexed neighbor)
    (hoff : neighbor ∉ t.stack) : Scanned neighbors path s t node (done ++ [neighbor]) where
  coherent := h.coherent
  advances := h.advances
  lowlinks := h.lowlinks
  seen := by
    intro x hx
    rcases List.mem_append.mp hx with hdone | hlast
    · exact h.seen x hdone
    · rw [List.mem_singleton.mp hlast]
      exact hindexed
  le := h.le
  low := h.low
  covers := h.covers
  coversNode := by
    intro y hy hstack
    rcases List.mem_append.mp hy with hdone | hlast
    · exact h.coversNode y hdone hstack
    · rw [List.mem_singleton.mp hlast] at hstack
      exact absurd (h.stack hstack) hoff

omit [DecidableEq α] in
theorem min_lowOf {low value : Nat} (hlow : LowOf neighbors s node low)
    (hvalue : value < low -> LowOf neighbors s node value) :
    LowOf neighbors s node (min low value) := by
  rcases Nat.lt_or_ge value low with hless | hge
  · rw [Nat.min_eq_right (Nat.le_of_lt hless)]
    exact hvalue hless
  · rw [Nat.min_eq_left hge]
    exact hlow

/-- An edge to a vertex on the stack lowers the link to its index. -/
theorem Scanned.back {index : Nat} (hs : Coherent neighbors path s)
    (hnew : s.indices node = none) (h : Scanned neighbors path s t node done)
    (hedge : neighbor ∈ neighbors node) (hindex : t.indices neighbor = some index)
    (hstack : neighbor ∈ t.stack) :
    Scanned neighbors path s (t.lower node index) node (done ++ [neighbor]) := by
  have hrank : neighbor ∈ s.stack -> s.rank neighbor = index := by
    intro hold
    rw [← h.rank hnew (hs.indexed neighbor hold), rank_of_indices hindex]
  have hlow : (t.lower node index).lowlinks node = min (t.lowlinks node) index :=
    lower_lowlinks_self index
  constructor
  · exact h.coherent.lower index
  · exact ⟨h.advances.numbered, h.advances.fresh, h.advances.index, h.advances.grown⟩
  · intro x hx
    rw [lower_lowlinks_ne (by rintro rfl; exact hx hnew)]
    exact h.lowlinks x hx
  · intro x hx
    rcases List.mem_append.mp hx with hdone | hlast
    · exact h.seen x hdone
    · rw [List.mem_singleton.mp hlast]
      exact h.coherent.indexed neighbor hstack
  · rw [hlow]
    exact Nat.le_trans (Nat.min_le_left _ _) h.le
  · rw [hlow]
    apply min_lowOf h.low
    intro hless
    right
    have hold : neighbor ∈ s.stack := by
      by_contra hnot
      have hge := h.rank_new hstack hnot
      rw [rank_of_indices hindex] at hge
      have hle := h.le
      omega
    exact ⟨neighbor, hold, hrank hold, single hedge⟩
  · intro x hx hold hne y hy hstackY
    rw [hlow]
    exact Nat.le_trans (Nat.min_le_left _ _) (h.covers x hx hold hne y hy hstackY)
  · intro y hy hstackY
    rw [hlow]
    rcases List.mem_append.mp hy with hdone | hlast
    · exact Nat.le_trans (Nat.min_le_left _ _) (h.coversNode y hdone hstackY)
    · rw [List.mem_singleton] at hlast
      subst hlast
      rw [hrank hstackY]
      exact Nat.min_le_right _ _

/-- An edge to a new vertex visits it and takes over its link. -/
theorem Scanned.tree {u : Tarjan α} (hs : Coherent neighbors path s)
    (hnew : s.indices node = none) (h : Scanned neighbors path s t node done)
    (hedge : neighbor ∈ neighbors node) (hnone : t.indices neighbor = none)
    (hvisited : Visited neighbors (node :: path) t u neighbor) :
    Scanned neighbors path s (u.lower node (u.lowlinks neighbor)) node (done ++ [neighbor]) := by
  have hadvances := hvisited.advances
  have hnodeIndexed : t.Indexed node := by
    unfold Indexed
    rw [h.indices]
    exact Option.some_ne_none _
  have hlow : (u.lower node (u.lowlinks neighbor)).lowlinks node =
      min (t.lowlinks node) (u.lowlinks neighbor) := by
    rw [lower_lowlinks_self, hvisited.lowlinks node hnodeIndexed]
  constructor
  · exact hvisited.coherent.lower _
  · have hall := h.advances.trans hadvances
    exact ⟨hall.numbered, hall.fresh, hall.index, hall.grown⟩
  · intro x hx
    rw [lower_lowlinks_ne (by rintro rfl; exact hx hnew), hvisited.lowlinks x (h.indexed hx)]
    exact h.lowlinks x hx
  · intro x hx
    rcases List.mem_append.mp hx with hdone | hlast
    · exact hadvances.indexed (h.seen x hdone)
    · rw [List.mem_singleton.mp hlast]
      show u.indices neighbor ≠ none
      rw [hvisited.indices]
      exact Option.some_ne_none _
  · rw [hlow]
    exact Nat.le_trans (Nat.min_le_left _ _) h.le
  · rw [hlow]
    apply min_lowOf h.low
    intro hless
    right
    have hle := h.le
    have hindex := h.advances.index
    rcases hvisited.low with hge | ⟨y, hy, hrank, hreach⟩
    · have hsucc : s.index + 1 ≤ t.index := hindex
      omega
    · have hold : y ∈ s.stack := by
        by_contra hnot
        have hge := h.rank_new hy hnot
        omega
      refine ⟨y, hold, ?_, Relation.ReflTransGen.head hedge hreach⟩
      rw [← h.rank hnew (hs.indexed y hold), hrank]
  · intro x hx hold hne y hy hstackY
    rw [hlow]
    by_cases hmiddle : x ∈ t.stack
    · exact Nat.le_trans (Nat.min_le_left _ _) (h.covers x hmiddle hold hne y hy hstackY)
    · have hcovers := hvisited.covers x hx hmiddle y hy (h.stack hstackY)
      rw [h.rank hnew (hs.indexed y hstackY)] at hcovers
      exact Nat.le_trans (Nat.min_le_right _ _) hcovers
  · intro y hy hstackY
    rw [hlow]
    rcases List.mem_append.mp hy with hdone | hlast
    · exact Nat.le_trans (Nat.min_le_left _ _) (h.coversNode y hdone hstackY)
    · rw [List.mem_singleton] at hlast
      subst hlast
      exact absurd hnone (h.indexed (hs.indexed y hstackY))

end Scan

/-!
# The end of a visit
-/

theorem popThrough_split {new rest : List α} (hnew : node ∉ new) :
    popThrough node (new ++ node :: rest) = (new ++ [node], rest) := by
  induction new with
  | nil =>
    exact if_pos rfl
  | cons member new ih =>
    rw [List.mem_cons, not_or] at hnew
    rw [List.cons_append]
    unfold popThrough
    rw [if_neg (Ne.symm hnew.left), ih hnew.right]
    rfl

theorem advances_enter (hnew : s.indices node = none) : Advances s (s.enter node) where
  numbered := by
    intro x i hx
    show (if x = node then some s.index else s.indices x) = some i
    rw [if_neg, hx]
    rintro rfl
    rw [hnew] at hx
    cases hx
  fresh := by
    intro x i hnone hx
    have hx : (if x = node then some s.index else s.indices x) = some i := hx
    split at hx
    · cases hx
      exact Nat.le_refl _
    · rw [hnone] at hx
      cases hx
  index := Nat.le_succ _
  grown := by
    refine ⟨[node], rfl, ?_⟩
    intro x hx
    rw [List.mem_singleton.mp hx]
    exact hnew

section Finish

variable {left : Tarjan α}

theorem Scanned.closed (h : Scanned neighbors path s left node (neighbors node))
    (hx : left.Indexed x) (hoff : x ∉ path) (hy : y ∈ neighbors x) :
    left.Indexed y := by
  by_cases hnode : x = node
  · subst hnode
    exact h.seen y hy
  · apply h.coherent.closed x hx _ y hy
    rw [List.mem_cons, not_or]
    exact ⟨hnode, hoff⟩

theorem Scanned.covered (h : Scanned neighbors path s left node (neighbors node)) :
    Covers neighbors s left (left.lowlinks node) := by
  intro x hx hold y hy hstack
  by_cases hnode : x = node
  · subst hnode
    exact h.coversNode y hy hstack
  · exact h.covers x hx hold hnode y hy hstack

theorem Scanned.split (h : Scanned neighbors path s left node (neighbors node)) :
    exists new, left.stack = new ++ node :: s.stack ∧ node ∉ new := by
  rcases h.advances.grown with ⟨new, hstack, hnone⟩
  refine ⟨new, hstack, ?_⟩
  intro hmem
  have hindex := hnone node hmem
  rw [enter_indices_node] at hindex
  cases hindex

variable (hs : Coherent neighbors path s)
  (h : Scanned neighbors path s left node (neighbors node))
include hs h

/-- Nothing that is reached from a vertex off the old stack is on it. -/
theorem closed_off (hlow : left.lowlinks node = s.index) (hx : left.Indexed x)
    (hoff : x ∉ s.stack) (hreach : Reaches neighbors x y) :
    left.Indexed y ∧ y ∉ s.stack := by
  induction hreach with
  | refl => exact ⟨hx, hoff⟩
  | tail _ hedge ih =>
    rename_i y z _
    rcases ih with ⟨hy, hyOff⟩
    have hyPath : y ∉ path := fun hgrey => hyOff (hs.grey y hgrey)
    refine ⟨h.closed hy hyPath hedge, ?_⟩
    intro hz
    by_cases hyStack : y ∈ left.stack
    · have hle := h.covered y hyStack hyOff z hedge hz
      have hlt := hs.rank_lt (hs.indexed z hz)
      omega
    · exact h.coherent.settled y hy hyStack z hedge (h.stack hz)

/-- Nothing that is reached from a completed component is on the stack. -/
theorem settled_off (hx : left.Indexed x) (hoff : x ∉ left.stack)
    (hreach : Reaches neighbors x y) : left.Indexed y ∧ y ∉ left.stack := by
  induction hreach with
  | refl => exact ⟨hx, hoff⟩
  | tail _ hedge ih =>
    rename_i y z _
    rcases ih with ⟨hy, hyOff⟩
    have hyPath : y ∉ path := fun hgrey => hyOff (h.stack (hs.grey y hgrey))
    exact ⟨h.closed hy hyPath hedge, h.coherent.settled y hy hyOff z hedge⟩

omit [DecidableEq α] hs h in
theorem mem_split {new : List α} (hstack : left.stack = new ++ node :: s.stack) (x : α) :
    x ∈ left.stack ↔ x ∈ new ++ [node] ∨ x ∈ s.stack := by
  rw [hstack, List.mem_append, List.mem_append, List.mem_cons, List.mem_singleton, or_assoc]

omit hs in
theorem popped_off {new : List α} (hstack : left.stack = new ++ node :: s.stack)
    (hx : x ∈ new ++ [node]) : x ∉ s.stack := by
  have hnodup := h.coherent.nodup
  rw [hstack, List.append_cons] at hnodup
  intro hold
  exact (List.nodup_append.mp hnodup).right.right x hx x hold rfl

/-- The part of the stack down to the node is its component. -/
theorem popped_component {new : List α} (hlow : left.lowlinks node = s.index)
    (hstack : left.stack = new ++ node :: s.stack) :
    IsComponent neighbors (new ++ [node]) := by
  have hnode : node ∈ new ++ [node] := List.mem_append_right _ (List.mem_singleton_self node)
  have hnodeStack : node ∈ left.stack := (mem_split hstack node).mpr (Or.inl hnode)
  have hnodup := h.coherent.nodup
  rw [hstack, List.append_cons] at hnodup
  refine ⟨(List.nodup_append.mp hnodup).left, node, hnode, ?_⟩
  intro y
  constructor
  · intro hy
    have hyStack : y ∈ left.stack := (mem_split hstack y).mpr (Or.inl hy)
    constructor
    · apply h.coherent.below node hnodeStack y hyStack
      rw [rank_of_indices h.indices]
      exact h.rank_new hyStack (popped_off h hstack hy)
    · rcases h.coherent.above y hyStack with ⟨grey, hgrey, _, hreach⟩
      rcases List.mem_cons.mp hgrey with hsame | hold
      · rw [hsame] at hreach
        exact hreach
      · have hreached := closed_off hs h hlow (h.coherent.indexed y hyStack)
          (popped_off h hstack hy) hreach
        exact absurd (hs.grey grey hold) hreached.right
  · rintro ⟨hfrom, hback⟩
    have hreached := closed_off hs h hlow (h.coherent.indexed node hnodeStack)
      (popped_off h hstack hnode) hfrom
    have hyStack : y ∈ left.stack := by
      by_contra hnot
      exact (settled_off hs h hreached.left hnot hback).right hnodeStack
    exact ((mem_split hstack y).mp hyStack).resolve_right hreached.right

variable (hnew : s.indices node = none)
include hnew

theorem kept_visited (hless : left.lowlinks node < s.index) :
    Visited neighbors path s left node where
  coherent := by
    refine { h.coherent with grey := ?_, closed := ?_, above := ?_ }
    · exact fun x hx => h.stack (hs.grey x hx)
    · exact fun x hx hoff y hy => h.closed hx hoff hy
    · intro y hy
      rcases h.coherent.above y hy with ⟨grey, hgrey, hle, hreach⟩
      rcases List.mem_cons.mp hgrey with hnode | hold
      · rcases h.low with hge | ⟨older, holder, hrank, hnodeReach⟩
        · omega
        · rcases hs.above older holder with ⟨found, hfound, hfoundLe, hfoundReach⟩
          refine ⟨found, hfound, ?_, ?_⟩
          · rw [hnode, rank_of_indices h.indices] at hle
            rw [h.rank hnew (hs.grey_indexed hfound)]
            omega
          · rw [hnode] at hreach
            exact hreach.trans (hnodeReach.trans hfoundReach)
      · exact ⟨grey, hold, hle, hreach⟩
  advances := (advances_enter hnew).trans h.advances
  lowlinks := h.lowlinks
  indices := h.indices
  low := h.low
  covers := h.covered

/-- A node that reaches nothing older closes its component. -/
theorem close_coherent {new : List α} (hlow : left.lowlinks node = s.index)
    (hstack : left.stack = new ++ node :: s.stack) :
    Coherent neighbors path (left.close (new ++ [node], s.stack)) where
  bound := h.coherent.bound
  stacked := by
    intro x
    show (left.onStack x && !decide (x ∈ new ++ [node])) = true ↔ x ∈ s.stack
    rw [Bool.and_eq_true, h.coherent.stacked, mem_split hstack, Bool.not_eq_true',
      decide_eq_false_iff_not]
    constructor
    · rintro ⟨hin, hout⟩
      exact hin.resolve_left hout
    · intro hold
      exact ⟨Or.inr hold, fun hin => popped_off h hstack hin hold⟩
  indexed := fun x hx => h.indexed (hs.indexed x hx)
  sorted := by
    have hsorted := h.coherent.sorted
    rw [hstack] at hsorted
    exact hsorted.sublist ((List.sublist_cons_self _ _).trans (List.sublist_append_right _ _))
  grey := hs.grey
  closed := by
    intro x (hx : left.Indexed x) hpath y hy
    have hindexed : left.Indexed y := h.closed hx hpath hy
    exact hindexed
  settled := by
    intro x (hx : left.Indexed x) hold y hy
    exact (closed_off hs h hlow hx hold (single hy)).right
  below := fun x hx y hy hle => h.coherent.below x (h.stack hx) y (h.stack hy) hle
  above := by
    intro y hy
    rcases hs.above y hy with ⟨grey, hgrey, hle, hreach⟩
    refine ⟨grey, hgrey, ?_, hreach⟩
    show left.rank grey ≤ left.rank y
    rw [h.rank hnew (hs.grey_indexed hgrey), h.rank hnew (hs.indexed y hy)]
    exact hle
  complete := by
    intro component hin
    rcases List.mem_append.mp hin with hold | hlast
    · exact h.coherent.complete component hold
    · rw [List.mem_singleton.mp hlast]
      exact popped_component hs h hlow hstack
  covered := by
    intro x
    show (exists component, component ∈ left.components ++ [new ++ [node]] ∧
      x ∈ component) ↔ left.Indexed x ∧ x ∉ s.stack
    constructor
    · rintro ⟨component, hin, hx⟩
      rcases List.mem_append.mp hin with hold | hlast
      · have hcovered := (h.coherent.covered x).mp ⟨component, hold, hx⟩
        exact ⟨hcovered.left, fun hmemOld => hcovered.right (h.stack hmemOld)⟩
      · rw [List.mem_singleton.mp hlast] at hx
        exact ⟨h.coherent.indexed x ((mem_split hstack x).mpr (Or.inl hx)), popped_off h hstack hx⟩
    · rintro ⟨hindexed, hold⟩
      by_cases hin : x ∈ left.stack
      · exact ⟨new ++ [node], List.mem_append_right _ (List.mem_singleton_self _),
          ((mem_split hstack x).mp hin).resolve_right hold⟩
      · rcases (h.coherent.covered x).mpr ⟨hindexed, hin⟩ with ⟨component, hcomp, hx⟩
        exact ⟨component, List.mem_append_left _ hcomp, hx⟩
  apart := by
    apply List.pairwise_append.mpr
    refine ⟨h.coherent.apart, List.pairwise_singleton _ _, ?_⟩
    intro component hcomp last hlast x hx hxLast
    rw [List.mem_singleton.mp hlast] at hxLast
    have hcovered := (h.coherent.covered x).mp ⟨component, hcomp, hx⟩
    exact hcovered.right ((mem_split hstack x).mpr (Or.inl hxLast))

theorem finish_visited : Visited neighbors path s (left.finish node) node := by
  unfold finish
  by_cases hkept : some (left.lowlinks node) ≠ left.indices node
  · rw [if_pos hkept]
    apply kept_visited hs h hnew
    apply Nat.lt_of_le_of_ne h.le
    intro hsame
    rw [h.indices, hsame] at hkept
    exact hkept rfl
  · rw [if_neg hkept]
    have hlow : left.lowlinks node = s.index := by
      have hsame := not_not.mp hkept
      rw [h.indices] at hsame
      exact Option.some.inj hsame
    rcases h.split with ⟨new, hstack, hfree⟩
    rw [hstack, popThrough_split hfree]
    have hadvances := (advances_enter hnew).trans h.advances
    refine ⟨close_coherent hs h hnew hlow hstack, ?_, h.lowlinks, h.indices,
      Or.inl (Nat.le_of_eq hlow.symm), fun x hx hold => absurd hx hold⟩
    exact ⟨hadvances.numbered, hadvances.fresh, hadvances.index,
      ⟨[], rfl, fun _ hx => absurd hx List.not_mem_nil⟩⟩

end Finish

/-!
# Whole searches
-/

section Search

variable {visitor : α -> Tarjan α -> Option (Tarjan α)} {t u : Tarjan α} {done : List α}
  {neighbor : α}

theorem examine_scanned (hvisit : Visits neighbors visitor)
    (hs : Coherent neighbors path s) (hnew : s.indices node = none)
    (hpath : forall grey, grey ∈ path -> Reaches neighbors grey node)
    (h : Scanned neighbors path s t node done) (hedge : neighbor ∈ neighbors node)
    (hrun : examine visitor node t neighbor = some u) :
    Scanned neighbors path s u node (done ++ [neighbor]) := by
  unfold examine at hrun
  cases hindex : t.indices neighbor with
  | none =>
    rw [hindex] at hrun
    rcases Option.map_eq_some_iff.mp hrun with ⟨v, hv, hu⟩
    rw [← hu]
    apply h.tree hs hnew hedge hindex
    apply hvisit (node :: path) neighbor t v h.coherent hindex _ hv
    intro grey hgrey
    rcases List.mem_cons.mp hgrey with hsame | hold
    · rw [hsame]
      exact single hedge
    · exact (hpath grey hold).tail hedge
  | some index =>
    rw [hindex] at hrun
    dsimp only at hrun
    by_cases hstack : t.onStack neighbor = true
    · rw [if_pos hstack] at hrun
      cases hrun
      exact h.back hs hnew hedge hindex ((h.coherent.stacked neighbor).mp hstack)
    · rw [if_neg hstack] at hrun
      cases hrun
      apply h.settled
      · intro hnone
        rw [hindex] at hnone
        cases hnone
      · exact fun hmem => hstack ((h.coherent.stacked neighbor).mpr hmem)

theorem scan_scanned (hvisit : Visits neighbors visitor)
    (hs : Coherent neighbors path s) (hnew : s.indices node = none)
    (hpath : forall grey, grey ∈ path -> Reaches neighbors grey node)
    {edges : List α} (hedges : forall x, x ∈ edges -> x ∈ neighbors node)
    (h : Scanned neighbors path s t node done)
    (hrun : edges.foldlM (examine visitor node) t = some u) :
    Scanned neighbors path s u node (done ++ edges) := by
  induction edges generalizing t done with
  | nil =>
    cases hrun
    rw [List.append_nil]
    exact h
  | cons edge edges ih =>
    rcases Option.bind_eq_some_iff.mp hrun with ⟨v, hv, hrest⟩
    have hstep := examine_scanned hvisit hs hnew hpath h (hedges edge List.mem_cons_self) hv
    rw [List.append_cons]
    exact ih (fun x hx => hedges x (List.mem_cons_of_mem _ hx)) hstep hrest

variable (neighbors) in
theorem visit_visits (fuel : Nat) : Visits neighbors (visit neighbors fuel) := by
  induction fuel with
  | zero =>
    intro path node s s' _ _ _ hrun
    cases hrun
  | succ fuel ih =>
    intro path node s s' hs hnew hpath hrun
    rcases Option.map_eq_some_iff.mp hrun with ⟨left, hscan, hfinish⟩
    have hscanned := scan_scanned ih hs hnew hpath (fun _ => id) (scanned_enter hs hnew hpath) hscan
    rw [← hfinish]
    exact finish_visited hs hscanned hnew

/-!
# Fuel
-/

theorem scan_total (hvisit : Visits neighbors visitor)
    (hs : Coherent neighbors path s) (hnew : s.indices node = none)
    (hpath : forall grey, grey ∈ path -> Reaches neighbors grey node)
    (htotal : forall neighbor t, neighbor ∈ neighbors node ->
      Coherent neighbors (node :: path) t -> t.indices neighbor = none ->
      exists u, visitor neighbor t = some u)
    {edges : List α} (hedges : forall x, x ∈ edges -> x ∈ neighbors node)
    (h : Scanned neighbors path s t node done) :
    exists u, edges.foldlM (examine visitor node) t = some u := by
  induction edges generalizing t done with
  | nil => exact ⟨t, rfl⟩
  | cons edge edges ih =>
    have hedge := hedges edge List.mem_cons_self
    have hstep : exists v, examine visitor node t edge = some v := by
      unfold examine
      cases hindex : t.indices edge with
      | none =>
        rcases htotal edge t hedge h.coherent hindex with ⟨v, hv⟩
        exact ⟨_, Option.map_eq_some_iff.mpr ⟨v, hv, rfl⟩⟩
      | some index =>
        dsimp only
        split
        · exact ⟨_, rfl⟩
        · exact ⟨_, rfl⟩
    rcases hstep with ⟨v, hv⟩
    rcases ih (fun x hx => hedges x (List.mem_cons_of_mem _ hx))
      (examine_scanned hvisit hs hnew hpath h hedge hv) with ⟨u, hu⟩
    refine ⟨u, ?_⟩
    exact Option.bind_eq_some_iff.mpr ⟨v, hv, hu⟩

variable {all : List α}

/-- A path is part of the stack, so it holds no vertex twice. -/
theorem visit_total
    (hclosed : forall x, x ∈ all -> forall y, y ∈ neighbors x -> y ∈ all) (fuel : Nat) :
    forall (path : List α) (node : α) (s : Tarjan α), Coherent neighbors path s ->
      s.indices node = none -> (forall grey, grey ∈ path -> Reaches neighbors grey node) ->
      node ∈ all -> path ⊆ all -> path.Nodup -> all.length < fuel + path.length ->
      exists s', visit neighbors fuel node s = some s' := by
  induction fuel with
  | zero =>
    intro path node s hs hnew hpath hnode hall hnodup hfuel
    have hle := (List.subperm_of_subset hnodup hall).length_le
    omega
  | succ fuel ih =>
    intro path node s hs hnew hpath hnode hall hnodup hfuel
    have hfresh : node ∉ path := fun hmem => hs.grey_indexed hmem hnew
    have htotal : forall neighbor t, neighbor ∈ neighbors node ->
        Coherent neighbors (node :: path) t -> t.indices neighbor = none ->
        exists u, visit neighbors fuel neighbor t = some u := by
      intro neighbor t hedge ht hnone
      apply ih (node :: path) neighbor t ht hnone
      · intro grey hgrey
        rcases List.mem_cons.mp hgrey with hsame | hold
        · rw [hsame]
          exact single hedge
        · exact (hpath grey hold).tail hedge
      · exact hclosed node hnode neighbor hedge
      · exact List.cons_subset.mpr ⟨hnode, hall⟩
      · exact List.nodup_cons.mpr ⟨hfresh, hnodup⟩
      · rw [List.length_cons]
        omega
    have hscan : exists u, (neighbors node).foldlM (examine (visit neighbors fuel) node)
        (s.enter node) = some u :=
      scan_total (visit_visits neighbors fuel) hs hnew hpath htotal (fun _ => id)
        (scanned_enter hs hnew hpath)
    rcases hscan with ⟨u, hu⟩
    exact ⟨_, Option.map_eq_some_iff.mpr ⟨u, hu, rfl⟩⟩

/-!
# All roots
-/

omit [DecidableEq α] in
theorem coherent_empty : Coherent neighbors [] ({} : Tarjan α) where
  bound := by
    intro x i hx
    cases hx
  stacked := by
    intro x
    constructor
    · intro hx
      cases hx
    · intro hx
      cases hx
  indexed := fun _ hx => absurd hx List.not_mem_nil
  sorted := List.Pairwise.nil
  grey := fun _ hx => absurd hx List.not_mem_nil
  closed := fun _ hx => absurd rfl hx
  settled := fun _ hx => absurd rfl hx
  below := fun _ hx => absurd hx List.not_mem_nil
  above := fun _ hx => absurd hx List.not_mem_nil
  complete := fun _ hx => absurd hx List.not_mem_nil
  covered := by
    intro x
    constructor
    · rintro ⟨_, hin, _⟩
      exact absurd hin List.not_mem_nil
    · rintro ⟨hindexed, _⟩
      exact absurd rfl hindexed
  apart := List.Pairwise.nil

omit [DecidableEq α] in
theorem Coherent.stack_nil (hs : Coherent neighbors [] s) : s.stack = [] := by
  apply List.eq_nil_iff_forall_not_mem.mpr
  intro x hx
  rcases hs.above x hx with ⟨_, hgrey, _⟩
  exact absurd hgrey List.not_mem_nil

variable {fuel : Nat}

theorem visitRoot_visited (hclosed : forall x, x ∈ all -> forall y, y ∈ neighbors x -> y ∈ all)
    (hfuel : all.length < fuel) {root : α} (hroot : root ∈ all) (hs : Coherent neighbors [] s) :
    exists s', visitRoot neighbors fuel s root = some s' ∧ Coherent neighbors [] s' ∧
      Advances s s' ∧ s'.Indexed root := by
  unfold visitRoot
  by_cases hnew : s.indices root = none
  · rw [if_pos hnew]
    rcases visit_total hclosed fuel [] root s hs hnew
      (fun _ hx => absurd hx List.not_mem_nil) hroot (List.nil_subset _) List.nodup_nil
      hfuel with ⟨s', hrun⟩
    have hvisited := visit_visits neighbors fuel [] root s s' hs hnew
      (fun _ hx => absurd hx List.not_mem_nil) hrun
    refine ⟨s', hrun, hvisited.coherent, hvisited.advances, ?_⟩
    unfold Indexed
    rw [hvisited.indices]
    exact Option.some_ne_none _
  · rw [if_neg hnew]
    exact ⟨s, rfl, hs, Advances.refl s, hnew⟩

theorem roots_visited (hclosed : forall x, x ∈ all -> forall y, y ∈ neighbors x -> y ∈ all)
    (hfuel : all.length < fuel) {roots : List α} (hroots : roots ⊆ all)
    (hs : Coherent neighbors [] s) :
    exists s', roots.foldlM (visitRoot neighbors fuel) s = some s' ∧
      Coherent neighbors [] s' ∧ Advances s s' ∧ forall x, x ∈ roots -> s'.Indexed x := by
  induction roots generalizing s with
  | nil => exact ⟨s, rfl, hs, Advances.refl s, fun _ hx => absurd hx List.not_mem_nil⟩
  | cons root roots ih =>
    rw [List.cons_subset] at hroots
    rcases visitRoot_visited hclosed hfuel hroots.left hs with
      ⟨middle, hfirst, hmiddle, hadvances, hroot⟩
    rcases ih hroots.right hmiddle with ⟨s', hrest, hs', hadvances', hindexed⟩
    refine ⟨s', ?_, hs', hadvances.trans hadvances', ?_⟩
    · exact Option.bind_eq_some_iff.mpr ⟨middle, hfirst, hrest⟩
    · intro x hx
      rcases List.mem_cons.mp hx with hsame | hlate
      · rw [hsame]
        exact hadvances'.indexed hroot
      · exact hindexed x hlate

/-- The search partitions the vertices into their strongly connected components. -/
theorem stronglyConnected_spec {roots : List α}
    (hclosed : forall x, x ∈ roots -> forall y, y ∈ neighbors x -> y ∈ roots)
    (hfuel : roots.length < fuel) :
    exists components, stronglyConnected neighbors fuel roots = some components ∧
      (forall component, component ∈ components -> IsComponent neighbors component) ∧
      (forall x, x ∈ roots -> exists component, component ∈ components ∧ x ∈ component) ∧
      components.Pairwise (fun first second => forall x, x ∈ first -> x ∉ second) := by
  rcases roots_visited hclosed hfuel (fun _ => id) coherent_empty with
    ⟨s, hrun, hs, _, hindexed⟩
  refine ⟨s.components, Option.map_eq_some_iff.mpr ⟨s, hrun, rfl⟩, hs.complete, ?_, hs.apart⟩
  intro x hx
  apply (hs.covered x).mpr
  refine ⟨hindexed x hx, ?_⟩
  rw [hs.stack_nil]
  exact List.not_mem_nil

end Search
end Tarjan
end Foundation
end Oompah
