import Mathlib.Data.List.Nodup
import Mathlib.Data.List.Perm.Subperm
import Oompah.Foundation.Graph

/-!
# Depth-first search for cycles

A search with three colours that reports the part of its path that an edge back into
the path closes.  Everything it reports lies on a cycle.  A vertex on a cycle is
reported exactly when one of its cycles avoids what is left before the vertex is
discovered: an edge to a finished vertex is never looked behind.
-/

namespace Oompah
namespace Foundation

inductive Colour where
  | white
  | grey
  | black
  deriving DecidableEq

/-- Colours, the current path and the reported vertices. -/
structure DepthFirst (α : Type) where
  colour : α -> Colour := fun _ => .white
  stack : List α := []
  cycles : List α := []

namespace DepthFirst

/-!
# Cycles
-/

section Cycles

variable {α : Type} (children : α -> List α)

/-- The vertex lies on a cycle. -/
def OnCycle (x : α) : Prop := Relation.TransGen (Edge children) x x

/-- The edges that leave the blocked vertices out. -/
def Avoiding (blocked : α -> Prop) (x y : α) : Prop :=
  Edge children x y ∧ ¬ blocked x ∧ ¬ blocked y

/-- The vertex lies on a cycle without blocked vertices. -/
def Returns (blocked : α -> Prop) (x : α) : Prop :=
  Relation.TransGen (Avoiding children blocked) x x

variable {children}

theorem Returns.onCycle {blocked : α -> Prop} {x : α} (h : Returns children blocked x) :
    OnCycle children x :=
  Relation.TransGen.mono (fun _ _ hedge => hedge.left) _ _ h

theorem Returns.anti {blocked blocked' : α -> Prop} {x : α}
    (h : Returns children blocked' x) (hsub : forall y, blocked y -> blocked' y) :
    Returns children blocked x := by
  have hedges : forall y z, Avoiding children blocked' y z -> Avoiding children blocked y z := by
    rintro y z ⟨hedge, hy, hz⟩
    exact ⟨hedge, fun hblocked => hy (hsub y hblocked), fun hblocked => hz (hsub z hblocked)⟩
  exact Relation.TransGen.mono hedges _ _ h

theorem chain_head_reaches {R : α -> α -> Prop} {first x : α} {rest : List α}
    (h : List.IsChain R (first :: rest)) (hx : x ∈ first :: rest) :
    Relation.ReflTransGen R first x := by
  induction rest generalizing first with
  | nil =>
    rw [List.mem_singleton] at hx
    rw [hx]
  | cons next rest ih =>
    rcases List.isChain_cons_cons.mp h with ⟨hedge, hchain⟩
    rcases List.mem_cons.mp hx with rfl | hrest
    · exact Relation.ReflTransGen.refl
    · exact Relation.ReflTransGen.head hedge (ih hchain hrest)

theorem chain_reaches_last {R : α -> α -> Prop} {x last : α} {path : List α}
    (h : List.IsChain R (path ++ [last])) (hx : x ∈ path ++ [last]) :
    Relation.ReflTransGen R x last := by
  induction path with
  | nil =>
    rw [List.nil_append, List.mem_singleton] at hx
    rw [hx]
  | cons first rest ih =>
    rcases List.mem_cons.mp hx with rfl | hrest
    · apply chain_head_reaches h
      exact List.mem_cons_of_mem _ (List.mem_append_right _ (List.mem_singleton_self last))
    · exact ih (List.IsChain.of_cons h) hrest

end Cycles

variable {α : Type} [DecidableEq α]

/-!
# The search
-/

def paint (s : DepthFirst α) (x : α) (colour : Colour) : DepthFirst α :=
  { s with colour := fun y => if y = x then colour else s.colour y }

def enter (s : DepthFirst α) (node : α) : DepthFirst α :=
  { s.paint node .grey with stack := s.stack ++ [node] }

def leave (s : DepthFirst α) (node : α) : DepthFirst α :=
  { s.paint node .black with stack := s.stack.dropLast }

/-- The path from a vertex on; nothing when the vertex is not on it. -/
def slice (stack : List α) (x : α) : List α := stack.dropWhile (fun y => y ≠ x)

def examine (visit : α -> DepthFirst α -> Option (DepthFirst α)) (s : DepthFirst α)
    (child : α) : Option (DepthFirst α) :=
  match s.colour child with
  | .white => visit child s
  | .grey => some { s with cycles := s.cycles ++ slice s.stack child }
  | .black => some s

variable (children : α -> List α)

def visit : Nat -> α -> DepthFirst α -> Option (DepthFirst α)
  | 0, _, _ => none
  | fuel + 1, node, s =>
    ((children node).foldlM (examine (visit fuel)) (s.enter node)).map (fun s => s.leave node)

def visitRoot (fuel : Nat) (s : DepthFirst α) (root : α) : Option (DepthFirst α) :=
  if s.colour root = .white then visit children fuel root s else some s

def search (fuel : Nat) (roots : List α) : Option (DepthFirst α) :=
  roots.foldlM (visitRoot children fuel) {}

/-!
# The order of discovery

The order is one of the graph and of its lists of children alone: what is found for
the first time is followed by the depth-first discovery of its children.
-/

/-- The depth-first discovery of a list of vertices, after those found before. -/
inductive Discovers : List α -> List α -> List α -> Prop where
  | done (found : List α) : Discovers found [] found
  | again {found rest last : List α} {x : α} (hx : x ∈ found)
      (hrest : Discovers found rest last) : Discovers found (x :: rest) last
  | first {found rest last : List α} {x : α} (hx : x ∉ found)
      (hbelow : Discovers (found ++ [x]) (children x ++ rest) last) :
      Discovers found (x :: rest) last

def Earlier (order : List α) (x y : α) : Prop := order.idxOf x < order.idxOf y

/--
The vertex is left before the other is found: it comes earlier, and no path leads
from it to the other through vertices that come no earlier than itself.
-/
def LeftBefore (order : List α) (y x : α) : Prop :=
  Earlier order x y ∧ ¬ Relation.ReflTransGen (Avoiding children (fun z => Earlier order z x)) x y

/-- The vertices that the search has finished. -/
def Finished (s : DepthFirst α) (x : α) : Prop := s.colour x = .black

variable {children}

theorem slice_split {stack : List α} {x : α} (h : x ∈ stack) :
    exists before after, stack = before ++ x :: after ∧ slice stack x = x :: after := by
  induction stack with
  | nil => cases h
  | cons first rest ih =>
    by_cases hsame : first = x
    · subst hsame
      refine ⟨[], rest, rfl, ?_⟩
      unfold slice
      rw [List.dropWhile_cons_of_neg (by simp)]
    · have hrest : x ∈ rest := by
        rcases List.mem_cons.mp h with rfl | hrest
        · exact absurd rfl hsame
        · exact hrest
      rcases ih hrest with ⟨before, after, hsplit, hslice⟩
      refine ⟨first :: before, after, by rw [hsplit, List.cons_append], ?_⟩
      unfold slice
      rw [List.dropWhile_cons_of_pos (by simp [hsame])]
      exact hslice

theorem slice_append {stack : List α} {x : α} (h : x ∈ stack) (tail : List α) :
    slice (stack ++ tail) x = slice stack x ++ tail := by
  rcases slice_split h with ⟨before, after, _, hslice⟩
  unfold slice at hslice ⊢
  rw [List.dropWhile_append, hslice]
  rfl

/-!
# What a part of the search does
-/

/-- The grey vertices are the path, and every edge of a finished one is examined. -/
structure Sound (children : α -> List α) (s : DepthFirst α) : Prop where
  grey : forall x, s.colour x = .grey ↔ x ∈ s.stack
  nodup : s.stack.Nodup
  chain : List.IsChain (Edge children) s.stack
  closed : forall x, s.Finished x -> forall y, y ∈ children x -> s.colour y ≠ .white
  reported : forall x, x ∈ s.cycles -> s.colour x ≠ .white

/-- The path is as before, and what is reported anew is closed by a path edge. -/
structure Extends (children : α -> List α) (s s' : DepthFirst α) : Prop where
  sound : Sound children s'
  stack : s'.stack = s.stack
  finished : forall x, s.Finished x -> s'.Finished x
  white : forall x, s'.colour x = .white -> s.colour x = .white
  reported : forall x, x ∈ s.cycles -> x ∈ s'.cycles
  settled : forall x, s.Finished x -> x ∈ s'.cycles -> x ∈ s.cycles
  covers : forall x, s'.Finished x -> ¬ s.Finished x -> forall y, y ∈ children x ->
    y ∈ s.stack -> forall z, z ∈ slice s.stack y -> z ∈ s'.cycles
  returns : forall x, x ∈ s'.cycles -> x ∉ s.cycles -> Returns children s.Finished x

namespace Extends

variable {s s' s'' : DepthFirst α}

theorem refl (h : Sound children s) : Extends children s s where
  sound := h
  stack := rfl
  finished := fun _ => id
  white := fun _ => id
  reported := fun _ => id
  settled := fun _ _ => id
  covers := fun _ hfinished hnot => absurd hfinished hnot
  returns := fun _ hmem hnot => absurd hmem hnot

theorem trans (h : Extends children s s') (h' : Extends children s' s'') :
    Extends children s s'' where
  sound := h'.sound
  stack := h'.stack.trans h.stack
  finished := fun x hx => h'.finished x (h.finished x hx)
  white := fun x hx => h.white x (h'.white x hx)
  reported := fun x hx => h'.reported x (h.reported x hx)
  settled := fun x hx hmem => h.settled x hx (h'.settled x (h.finished x hx) hmem)
  covers := by
    intro x hlast hnot y hy hstack z hz
    by_cases hmiddle : s'.Finished x
    · exact h'.reported z (h.covers x hmiddle hnot y hy hstack z hz)
    · apply h'.covers x hlast hmiddle y hy
      · rw [h.stack]
        exact hstack
      · rw [h.stack]
        exact hz
  returns := by
    intro x hmem hnot
    by_cases hmiddle : x ∈ s'.cycles
    · exact h.returns x hmiddle hnot
    · exact (h'.returns x hmem hmiddle).anti h.finished

end Extends

/-- The node ends the path, so that its edges leave from there. -/
def EndsWith (s : DepthFirst α) (node : α) : Prop :=
  exists before, s.stack = before ++ [node]

theorem slice_returns {s : DepthFirst α} (hs : Sound children s) {node child x : α}
    (hend : s.EndsWith node) (hedge : child ∈ children node) (hchild : child ∈ s.stack)
    (hx : x ∈ slice s.stack child) : Returns children s.Finished x := by
  rcases hend with ⟨before, hstack⟩
  rcases slice_split hchild with ⟨first, after, hsplit, hslice⟩
  rw [hslice] at hx
  have hopen : forall y, y ∈ s.stack -> ¬ s.Finished y := by
    intro y hy hfinished
    rw [← hs.grey y, hfinished] at hy
    cases hy
  have hchain : List.IsChain (Avoiding children s.Finished) s.stack :=
    hs.chain.imp_of_mem_imp (fun y z hy hz hstep => ⟨hstep, hopen y hy, hopen z hz⟩)
  have hsuffix : List.IsChain (Avoiding children s.Finished) (child :: after) := by
    rw [hsplit] at hchain
    exact (List.isChain_append.mp hchain).right.left
  have hin : Relation.ReflTransGen (Avoiding children s.Finished) child x :=
    chain_head_reaches hsuffix hx
  have hxStack : x ∈ s.stack := by
    rw [hsplit]
    exact List.mem_append_right _ hx
  have hout : Relation.ReflTransGen (Avoiding children s.Finished) x node := by
    rw [hstack] at hchain hxStack
    exact chain_reaches_last hchain hxStack
  have hnode : node ∈ s.stack := by
    rw [hstack]
    exact List.mem_append_right _ (List.mem_singleton_self node)
  have hback : Avoiding children s.Finished node child :=
    ⟨hedge, hopen node hnode, hopen child hchild⟩
  exact Relation.TransGen.trans_left (Relation.TransGen.tail' hout hback) hin

/-!
# One visit
-/

section Visit

variable {s s' : DepthFirst α} {node : α}

@[simp] theorem enter_colour (s : DepthFirst α) (node x : α) :
    (s.enter node).colour x = if x = node then .grey else s.colour x := rfl

@[simp] theorem leave_colour (s : DepthFirst α) (node x : α) :
    (s.leave node).colour x = if x = node then .black else s.colour x := rfl

omit [DecidableEq α] in
theorem Sound.white_not_mem (hs : Sound children s) (hwhite : s.colour node = .white) :
    node ∉ s.stack := by
  intro hmem
  rw [← hs.grey, hwhite] at hmem
  cases hmem

theorem enter_finished (hwhite : s.colour node = .white) (x : α) :
    (s.enter node).Finished x ↔ s.Finished x := by
  unfold Finished
  rw [enter_colour]
  by_cases hx : x = node
  · subst hx
    rw [if_pos rfl, hwhite]
    simp
  · rw [if_neg hx]

theorem Sound.enter (hs : Sound children s) (hwhite : s.colour node = .white)
    (hlink : forall last, last ∈ s.stack.getLast? -> Edge children last node) :
    Sound children (s.enter node) where
  grey := by
    intro x
    rw [enter_colour]
    show _ ↔ x ∈ s.stack ++ [node]
    by_cases hx : x = node
    · simp [hx]
    · rw [if_neg hx, hs.grey]
      simp [hx]
  nodup := by
    apply List.nodup_append.mpr
    refine ⟨hs.nodup, List.nodup_singleton node, ?_⟩
    intro x hx y hy hsame
    rw [List.mem_singleton] at hy
    rw [hsame, hy] at hx
    exact hs.white_not_mem hwhite hx
  chain := by
    apply List.isChain_append.mpr
    refine ⟨hs.chain, List.isChain_singleton node, ?_⟩
    intro last hlast first hfirst
    cases hfirst
    exact hlink last hlast
  closed := by
    intro x hx y hy
    rw [enter_finished hwhite] at hx
    rw [enter_colour]
    split
    · exact Colour.noConfusion
    · exact hs.closed x hx y hy
  reported := by
    intro x hx
    rw [enter_colour]
    split
    · exact Colour.noConfusion
    · exact hs.reported x hx

/-- What examining edges of the end of the path leaves. -/
structure Examined (children : α -> List α) (s s' : DepthFirst α) (nodes : List α) :
    Prop where
  advances : Extends children s s'
  seen : forall child, child ∈ nodes -> s'.colour child ≠ .white
  closes : forall child, child ∈ nodes -> child ∈ s.stack ->
    forall x, x ∈ slice s.stack child -> x ∈ s'.cycles

/-- What visiting a node leaves. -/
structure Visited (children : α -> List α) (s s' : DepthFirst α) (node : α) : Prop where
  advances : Extends children s s'
  finished : s'.Finished node
  reported : node ∈ s'.cycles ↔ Returns children s.Finished node

/-- A visit of a white node behind the path does what a visit should. -/
def Visits (children : α -> List α) (visit : α -> DepthFirst α -> Option (DepthFirst α)) : Prop :=
  forall node s s', Sound children s -> s.colour node = .white ->
    (forall last, last ∈ s.stack.getLast? -> Edge children last node) ->
    visit node s = some s' -> Visited children s s' node

omit [DecidableEq α] in
theorem EndsWith.extends {next : DepthFirst α} (hend : s.EndsWith node)
    (hstack : next.stack = s.stack) : next.EndsWith node := by
  rcases hend with ⟨before, hbefore⟩
  exact ⟨before, hstack.trans hbefore⟩

omit [DecidableEq α] in
theorem EndsWith.link (hend : s.EndsWith node) {child : α} (hedge : child ∈ children node) :
    forall last, last ∈ s.stack.getLast? -> Edge children last child := by
  rcases hend with ⟨before, hstack⟩
  intro last hlast
  rw [hstack, List.getLast?_append, List.getLast?_singleton] at hlast
  cases hlast
  exact hedge

theorem examine_examined {visit : α -> DepthFirst α -> Option (DepthFirst α)}
    (hvisit : Visits children visit) (hs : Sound children s) (hend : s.EndsWith node)
    {child : α} (hedge : child ∈ children node) (h : examine visit s child = some s') :
    Examined children s s' [child] := by
  unfold examine at h
  cases hcolour : s.colour child with
  | white =>
    rw [hcolour] at h
    have hvisited := hvisit child s s' hs hcolour (hend.link hedge) h
    constructor
    · exact hvisited.advances
    · intro x hx
      rw [List.mem_singleton] at hx
      subst hx
      rw [hvisited.finished]
      exact Colour.noConfusion
    · intro x hx hstack
      rw [List.mem_singleton] at hx
      subst hx
      exact absurd hstack (hs.white_not_mem hcolour)
  | grey =>
    rw [hcolour] at h
    cases h
    have hchild : child ∈ s.stack := (hs.grey child).mp hcolour
    constructor
    · constructor
      · refine ⟨hs.grey, hs.nodup, hs.chain, hs.closed, ?_⟩
        intro x hx
        rcases List.mem_append.mp hx with hold | hnew
        · exact hs.reported x hold
        · have hpath := (List.dropWhile_sublist _).subset hnew
          rw [(hs.grey x).mpr hpath]
          exact Colour.noConfusion
      · rfl
      · exact fun _ => id
      · exact fun _ => id
      · exact fun x hx => List.mem_append_left _ hx
      · intro x hfinished hx
        rcases List.mem_append.mp hx with hold | hnew
        · exact hold
        · have hpath := (List.dropWhile_sublist _).subset hnew
          rw [← hs.grey, hfinished] at hpath
          cases hpath
      · exact fun _ hfinished hnot => absurd hfinished hnot
      · intro x hx hnot
        rcases List.mem_append.mp hx with hold | hnew
        · exact absurd hold hnot
        · exact slice_returns hs hend hedge hchild hnew
    · intro x hx
      rw [List.mem_singleton] at hx
      subst hx
      show s.colour x ≠ .white
      rw [hcolour]
      exact Colour.noConfusion
    · intro x hx _ y hy
      rw [List.mem_singleton] at hx
      subst hx
      exact List.mem_append_right _ hy
  | black =>
    rw [hcolour] at h
    cases h
    constructor
    · exact Extends.refl hs
    · intro x hx
      rw [List.mem_singleton] at hx
      subst hx
      rw [hcolour]
      exact Colour.noConfusion
    · intro x hx hstack
      rw [List.mem_singleton] at hx
      subst hx
      rw [← hs.grey, hcolour] at hstack
      cases hstack

theorem foldlM_examined {visit : α -> DepthFirst α -> Option (DepthFirst α)}
    (hvisit : Visits children visit) (hs : Sound children s) (hend : s.EndsWith node)
    {nodes : List α} (hnodes : forall child, child ∈ nodes -> child ∈ children node)
    (h : nodes.foldlM (examine visit) s = some s') : Examined children s s' nodes := by
  induction nodes generalizing s with
  | nil =>
    cases h
    exact ⟨Extends.refl hs, fun _ hx => absurd hx List.not_mem_nil,
      fun _ hx => absurd hx List.not_mem_nil⟩
  | cons child rest ih =>
    rcases Option.bind_eq_some_iff.mp h with ⟨next, hnext, hrest⟩
    have hfirst := examine_examined hvisit hs hend (hnodes child List.mem_cons_self) hnext
    have hstack := hfirst.advances.stack
    have hendNext := hend.extends hstack
    have hlast := ih hfirst.advances.sound hendNext
      (fun x hx => hnodes x (List.mem_cons_of_mem _ hx)) hrest
    constructor
    · exact hfirst.advances.trans hlast.advances
    · intro x hx
      rcases List.mem_cons.mp hx with rfl | hmem
      · intro hwhite
        exact hfirst.seen x (List.mem_singleton_self x) (hlast.advances.white x hwhite)
      · exact hlast.seen x hmem
    · intro x hx hmem y hy
      rcases List.mem_cons.mp hx with rfl | hx
      · exact hlast.advances.reported y (hfirst.closes x (List.mem_singleton_self x) hmem y hy)
      · rw [← hstack] at hmem hy
        exact hlast.closes x hx hmem y hy

theorem leave_finished (x : α) : (s.leave node).Finished x ↔ x = node ∨ s.Finished x := by
  unfold Finished
  by_cases hx : x = node
  · simp [hx]
  · simp [hx]

/-- The node is finished once all its edges are examined. -/
theorem leave_sound (hs : Sound children s) (hend : s.EndsWith node)
    (hseen : forall child, child ∈ children node -> s.colour child ≠ .white) :
    Sound children (s.leave node) := by
  rcases hend with ⟨before, hstack⟩
  have hlast : (s.leave node).stack = before := by
    show s.stack.dropLast = before
    rw [hstack, List.dropLast_concat]
  have hnodup := hs.nodup
  rw [hstack, List.nodup_append] at hnodup
  constructor
  · intro x
    rw [hlast, leave_colour]
    by_cases hx : x = node
    · rw [if_pos hx]
      constructor
      · exact fun hgrey => Colour.noConfusion hgrey
      · intro hmem
        exact absurd hx (hnodup.right.right x hmem node (List.mem_singleton_self node))
    · rw [if_neg hx, hs.grey, hstack]
      simp [hx]
  · rw [hlast]
    exact hnodup.left
  · rw [hlast]
    have hchain := hs.chain
    rw [hstack] at hchain
    exact (List.isChain_append.mp hchain).left
  · intro x hx y hy
    rw [leave_finished] at hx
    rw [leave_colour]
    split
    · exact Colour.noConfusion
    · rcases hx with rfl | hx
      · exact hseen y hy
      · exact hs.closed x hx y hy
  · intro x hx
    rw [leave_colour]
    split
    · exact Colour.noConfusion
    · exact hs.reported x hx

/-- A cycle through the node without finished vertices is found below it. -/
theorem node_reported {left : DepthFirst α} (hwhite : s.colour node = .white)
    (hexamined : Examined children (s.enter node) left (children node))
    (hreturns : Returns children s.Finished node) : node ∈ left.cycles := by
  by_contra hnot
  have hpath : node ∈ (s.enter node).stack :=
    List.mem_append_right _ (List.mem_singleton_self node)
  have hslice : forall y, y ∈ (s.enter node).stack -> node ∈ slice (s.enter node).stack y := by
    intro y hy
    rcases List.mem_append.mp hy with hold | hnew
    · show node ∈ slice (s.stack ++ [node]) y
      rw [slice_append hold]
      exact List.mem_append_right _ (List.mem_singleton_self node)
    · rw [List.mem_singleton] at hnew
      subst hnew
      rcases slice_split hpath with ⟨_, after, _, hslice⟩
      rw [hslice]
      exact List.mem_cons_self
  -- An edge of a new vertex into the path would report the node.
  have hstep : forall x y, x = node ∨ left.Finished x ∧ ¬ s.Finished x ->
      Avoiding children s.Finished x y ->
      y ∉ (s.enter node).stack ∧ left.Finished y ∧ ¬ s.Finished y := by
    intro x y hx hedge
    have hoff : y ∉ (s.enter node).stack := by
      intro hy
      rcases hx with rfl | ⟨hfinished, hnew⟩
      · exact hnot (hexamined.closes y hedge.left hy x (hslice y hy))
      · rw [← enter_finished hwhite] at hnew
        exact hnot (hexamined.advances.covers x hfinished hnew y hedge.left hy node (hslice y hy))
    have hseen : left.colour y ≠ .white := by
      rcases hx with rfl | ⟨hfinished, _⟩
      · exact hexamined.seen y hedge.left
      · exact hexamined.advances.sound.closed x hfinished y hedge.left
    refine ⟨hoff, ?_, hedge.right.right⟩
    cases hcolour : left.colour y with
    | white => exact absurd hcolour hseen
    | grey =>
      rw [hexamined.advances.sound.grey, hexamined.advances.stack] at hcolour
      exact absurd hcolour hoff
    | black => exact hcolour
  have hreach : forall x, Relation.TransGen (Avoiding children s.Finished) node x ->
      x ∉ (s.enter node).stack ∧ left.Finished x ∧ ¬ s.Finished x := by
    intro x htrans
    induction htrans with
    | single hedge => exact hstep node _ (Or.inl rfl) hedge
    | tail _ hedge ih => exact hstep _ _ (Or.inr ih.right) hedge
  exact (hreach node hreturns).left hpath

theorem visit_visits (children : α -> List α) (fuel : Nat) :
    Visits children (visit children fuel) := by
  induction fuel with
  | zero =>
    intro node s s' _ _ _ h
    cases h
  | succ fuel ih =>
    intro node s s' hs hwhite hlink h
    rcases Option.map_eq_some_iff.mp h with ⟨left, hleft, rfl⟩
    have hend : (s.enter node).EndsWith node := ⟨s.stack, rfl⟩
    have hexamined := foldlM_examined ih (hs.enter hwhite hlink) hend (fun _ hchild => hchild) hleft
    have hadvances := hexamined.advances
    have hendLeft : left.EndsWith node := ⟨s.stack, hadvances.stack⟩
    have hcycles : (left.leave node).cycles = left.cycles := rfl
    have hfinished : forall x, s.Finished x -> left.Finished x :=
      fun x hx => hadvances.finished x ((enter_finished hwhite x).mpr hx)
    have hnew : forall x, x ∈ left.cycles -> x ∉ s.cycles -> Returns children s.Finished x := by
      intro x hx hold
      exact (hadvances.returns x hx hold).anti (fun y hy => (enter_finished hwhite y).mpr hy)
    constructor
    · constructor
      · exact leave_sound hadvances.sound hendLeft hexamined.seen
      · show left.stack.dropLast = s.stack
        rw [hadvances.stack]
        exact List.dropLast_concat
      · intro x hx
        rw [leave_finished]
        exact .inr (hfinished x hx)
      · intro x hx
        rw [leave_colour] at hx
        by_cases hsame : x = node
        · rw [if_pos hsame] at hx
          cases hx
        · rw [if_neg hsame] at hx
          have hentered := hadvances.white x hx
          rw [enter_colour, if_neg hsame] at hentered
          exact hentered
      · exact hadvances.reported
      · intro x hx hmem
        exact hadvances.settled x ((enter_finished hwhite x).mpr hx) hmem
      · intro x hx hnot y hy hstack z hz
        have hzEntered : z ∈ slice (s.enter node).stack y := by
          show z ∈ slice (s.stack ++ [node]) y
          rw [slice_append hstack]
          exact List.mem_append_left _ hz
        have hyEntered : y ∈ (s.enter node).stack := List.mem_append_left _ hstack
        rw [leave_finished] at hx
        by_cases hsame : x = node
        · subst hsame
          exact hexamined.closes y hy hyEntered z hzEntered
        · apply hadvances.covers x (hx.resolve_left hsame) _ y hy hyEntered z hzEntered
          rw [enter_finished hwhite]
          exact hnot
      · exact hnew
    · rw [leave_finished]
      exact .inl rfl
    · constructor
      · intro hmem
        exact hnew node hmem (fun hold => hs.reported node hold hwhite)
      · intro hreturns
        show node ∈ left.cycles
        exact node_reported hwhite hexamined hreturns

end Visit

/-!
# What is found
-/

section Found

variable {s s' : DepthFirst α} {node : α} {found : List α}

theorem earlier_node_iff (hnode : node ∉ found) (more : List α) (x : α) :
    Earlier (found ++ node :: more) x node ↔ x ∈ found := by
  unfold Earlier
  rw [List.idxOf_append_of_notMem hnode, List.idxOf_cons_self]
  by_cases hx : x ∈ found
  · have hindex := List.idxOf_lt_length_of_mem hx
    rw [List.idxOf_append_of_mem hx]
    simp [hx, hindex]
  · rw [List.idxOf_append_of_notMem hx]
    simp [hx]

/-- What is found later changes nothing about what came before a vertex. -/
theorem earlier_append {x : α} (hx : x ∈ found) (more : List α) (z : α) :
    Earlier (found ++ more) z x ↔ Earlier found z x := by
  unfold Earlier
  rw [List.idxOf_append_of_mem hx]
  by_cases hz : z ∈ found
  · rw [List.idxOf_append_of_mem hz]
  · have hindex := List.idxOf_lt_length_of_mem hx
    rw [List.idxOf_append_of_notMem hz, List.idxOf_of_notMem hz]
    omega

/-- The vertices found so far, in the order of their discovery. -/
structure Recorded (children : α -> List α) (s : DepthFirst α) (found : List α) : Prop where
  coloured : forall x, x ∈ found ↔ s.colour x ≠ .white
  stack : s.stack.Pairwise (Earlier found)
  below : forall x y, s.Finished x ->
    Relation.ReflTransGen (Avoiding children (fun z => Earlier found z x)) x y -> s.Finished y

theorem Recorded.mem_of_finished (h : Recorded children s found) {x : α} (hx : s.Finished x) :
    x ∈ found := by
  rw [h.coloured, hx]
  exact Colour.noConfusion

theorem Recorded.not_mem (h : Recorded children s found) (hwhite : s.colour node = .white) :
    node ∉ found := by
  rw [h.coloured, hwhite]
  simp

/-- What is finished when a vertex is discovered is what is left before it. -/
theorem Recorded.finished_iff (h : Recorded children s found) (hs : Sound children s)
    (hwhite : s.colour node = .white)
    (hlink : forall last, last ∈ s.stack.getLast? -> Edge children last node)
    (more : List α) (x : α) :
    s.Finished x ↔ LeftBefore children (found ++ node :: more) node x := by
  have hnode := h.not_mem hwhite
  unfold LeftBefore
  rw [earlier_node_iff hnode]
  constructor
  · intro hx
    have hfound := h.mem_of_finished hx
    refine ⟨hfound, ?_⟩
    intro hpath
    simp only [earlier_append hfound] at hpath
    have hdone := h.below x node hx hpath
    rw [Finished, hwhite] at hdone
    cases hdone
  · rintro ⟨hfound, hnone⟩
    cases hcolour : s.colour x with
    | white => exact absurd hcolour ((h.coloured x).mp hfound)
    | black => exact hcolour
    | grey =>
      -- The path from the vertex on leads to the node.
      apply absurd _ hnone
      simp only [earlier_append hfound]
      rcases List.append_of_mem ((hs.grey x).mp hcolour) with ⟨before, after, hsplit⟩
      have hchain := (hs.enter hwhite hlink).chain
      have hpairs := h.stack
      change List.IsChain (Edge children) (s.stack ++ [node]) at hchain
      rw [hsplit, List.append_assoc] at hchain
      rw [hsplit, List.pairwise_append, List.pairwise_cons] at hpairs
      have hlater : forall z, z ∈ x :: (after ++ [node]) -> ¬ Earlier found z x := by
        unfold Earlier
        intro z hz
        rcases List.mem_cons.mp hz with rfl | hz
        · exact Nat.lt_irrefl _
        · rcases List.mem_append.mp hz with hafter | hlast
          · exact (hpairs.right.left.left z hafter).not_gt
          · rw [List.mem_singleton.mp hlast, List.idxOf_of_notMem hnode]
            exact (List.idxOf_lt_length_of_mem hfound).not_gt
      have hclear : List.IsChain (Avoiding children (fun z => Earlier found z x))
          (x :: (after ++ [node])) :=
        (List.isChain_append.mp hchain).right.left.imp_of_mem_imp
          (fun y z hy hz hedge => ⟨hedge, hlater y hy, hlater z hz⟩)
      exact chain_head_reaches hclear
        (List.mem_cons_of_mem _ (List.mem_append_right _ (List.mem_singleton_self node)))

theorem Recorded.enter (h : Recorded children s found) (hs : Sound children s)
    (hwhite : s.colour node = .white) : Recorded children (s.enter node) (found ++ [node]) where
  coloured := by
    intro x
    rw [List.mem_append, List.mem_singleton, h.coloured, enter_colour]
    by_cases hx : x = node <;> simp [hx]
  stack := by
    apply List.pairwise_append.mpr
    have hmem : forall x, x ∈ s.stack -> x ∈ found := by
      intro x hx
      rw [h.coloured, (hs.grey x).mpr hx]
      exact Colour.noConfusion
    refine ⟨h.stack.imp_of_mem (fun _ hy hearlier => ?_), List.pairwise_singleton _ node, ?_⟩
    · exact (earlier_append (hmem _ hy) _ _).mpr hearlier
    · intro x hx y hy
      rw [List.mem_singleton.mp hy]
      exact (earlier_node_iff (h.not_mem hwhite) [] x).mpr (hmem x hx)
  below := by
    intro x y hx hpath
    rw [enter_finished hwhite] at hx ⊢
    simp only [earlier_append (h.mem_of_finished hx)] at hpath
    exact h.below x y hx hpath

/-- What is reached through undiscovered vertices is finished with the node. -/
theorem Extends.finished_of_path (h : Extends children s s') (hs : Sound children s)
    (hnode : s'.Finished node) {y : α}
    (hpath : Relation.ReflTransGen (Avoiding children (fun z => s.colour z ≠ .white)) node y) :
    s'.Finished y := by
  induction hpath with
  | refl => exact hnode
  | @tail x y _ hedge ih =>
    cases hcolour : s'.colour y with
    | white => exact absurd hcolour (h.sound.closed x ih y hedge.left)
    | black => exact hcolour
    | grey =>
      have hstack := (h.sound.grey y).mp hcolour
      rw [h.stack, ← hs.grey, not_not.mp hedge.right.right] at hstack
      cases hstack

/-- What a part of the search that handles some vertices finds anew. -/
structure Recording (children : α -> List α) (s s' : DepthFirst α) (found nodes new : List α) :
    Prop where
  recorded : Recorded children s' (found ++ new)
  discovers : forall rest last, Discovers children (found ++ new) rest last ->
    Discovers children found (nodes ++ rest) last
  finished : forall x, x ∈ new -> s'.Finished x
  reported : forall x more, x ∈ new ->
    (x ∈ s'.cycles ↔ Returns children (LeftBefore children (found ++ new ++ more) x) x)

theorem Recording.trans {next : DepthFirst α} {nodes nodes' new new' : List α}
    (h : Recording children s next found nodes new)
    (h' : Recording children next s' (found ++ new) nodes' new')
    (hadvances : Extends children next s') :
    Recording children s s' found (nodes ++ nodes') (new ++ new') where
  recorded := by
    rw [← List.append_assoc]
    exact h'.recorded
  discovers := by
    intro rest last hlast
    rw [← List.append_assoc] at hlast
    rw [List.append_assoc]
    exact h.discovers _ _ (h'.discovers _ _ hlast)
  finished := by
    intro x hx
    rcases List.mem_append.mp hx with hfirst | hsecond
    · exact hadvances.finished x (h.finished x hfirst)
    · exact h'.finished x hsecond
  reported := by
    intro x more hx
    rcases List.mem_append.mp hx with hfirst | hsecond
    · have hsettled : x ∈ s'.cycles ↔ x ∈ next.cycles :=
        ⟨hadvances.settled x (h.finished x hfirst), hadvances.reported x⟩
      rw [hsettled, h.reported x (new' ++ more) hfirst]
      simp only [List.append_assoc]
    · rw [h'.reported x more hsecond]
      simp only [List.append_assoc]

theorem Recording.again (h : Recorded children s' found) (hnode : node ∈ found) :
    Recording children s s' found [node] [] where
  recorded := by
    rw [List.append_nil]
    exact h
  discovers := by
    intro rest last hlast
    rw [List.append_nil] at hlast
    exact Discovers.again hnode hlast
  finished := fun _ hx => absurd hx List.not_mem_nil
  reported := fun _ _ hx => absurd hx List.not_mem_nil

/-- A visit of a white node behind the path records what it finds. -/
def RecordsVisit (children : α -> List α)
    (visit : α -> DepthFirst α -> Option (DepthFirst α)) : Prop :=
  forall node s s' found, Sound children s -> s.colour node = .white ->
    (forall last, last ∈ s.stack.getLast? -> Edge children last node) ->
    Recorded children s found -> visit node s = some s' ->
      exists new, Recording children s s' found [node] new

theorem examine_records {visit : α -> DepthFirst α -> Option (DepthFirst α)}
    (hrecords : RecordsVisit children visit) (hs : Sound children s) (hend : s.EndsWith node)
    {child : α} (hedge : child ∈ children node) (hfound : Recorded children s found)
    (h : examine visit s child = some s') :
    exists new, Recording children s s' found [child] new := by
  have hseen : s.colour child ≠ .white -> child ∈ found := (hfound.coloured child).mpr
  unfold examine at h
  cases hcolour : s.colour child with
  | white =>
    rw [hcolour] at h
    exact hrecords child s s' found hs hcolour (hend.link hedge) hfound h
  | grey =>
    rw [hcolour] at h hseen
    cases h
    exact ⟨[], Recording.again ⟨hfound.coloured, hfound.stack, hfound.below⟩
      (hseen Colour.noConfusion)⟩
  | black =>
    rw [hcolour] at h hseen
    cases h
    exact ⟨[], Recording.again hfound (hseen Colour.noConfusion)⟩

theorem foldlM_records {visit : α -> DepthFirst α -> Option (DepthFirst α)}
    (hvisit : Visits children visit) (hrecords : RecordsVisit children visit)
    (hs : Sound children s) (hend : s.EndsWith node) {nodes : List α}
    (hnodes : forall child, child ∈ nodes -> child ∈ children node)
    (hfound : Recorded children s found) (h : nodes.foldlM (examine visit) s = some s') :
    exists new, Recording children s s' found nodes new := by
  induction nodes generalizing s found with
  | nil =>
    cases h
    exact ⟨[], by simpa using hfound, by simp, by simp, by simp⟩
  | cons child rest ih =>
    rw [List.foldlM_cons] at h
    rcases Option.bind_eq_some_iff.mp h with ⟨next, hnext, hrest⟩
    have hedge := hnodes child List.mem_cons_self
    have hrestNodes : forall x, x ∈ rest -> x ∈ children node :=
      fun x hx => hnodes x (List.mem_cons_of_mem _ hx)
    have hfirst := (examine_examined hvisit hs hend hedge hnext).advances
    have hendNext := hend.extends hfirst.stack
    have hlast := (foldlM_examined hvisit hfirst.sound hendNext hrestNodes hrest).advances
    rcases examine_records hrecords hs hend hedge hfound hnext with ⟨new, hnew⟩
    rcases ih hfirst.sound hendNext hrestNodes hnew.recorded hrest with ⟨new', hnew'⟩
    exact ⟨new ++ new', hnew.trans hnew' hlast⟩

theorem visit_records (children : α -> List α) (fuel : Nat) :
    RecordsVisit children (visit children fuel) := by
  induction fuel with
  | zero =>
    intro node s s' found _ _ _ _ h
    cases h
  | succ fuel ih =>
    intro node s s' found hs hwhite hlink hfound h
    have hvisited := visit_visits children (fuel + 1) node s s' hs hwhite hlink h
    rcases Option.map_eq_some_iff.mp h with ⟨left, hleft, rfl⟩
    have hnode := hfound.not_mem hwhite
    rcases foldlM_records (visit_visits children fuel) ih (hs.enter hwhite hlink)
      ⟨s.stack, rfl⟩ (fun _ hchild => hchild) (hfound.enter hs hwhite) hleft with ⟨new, hnew⟩
    have horder : found ++ [node] ++ new = found ++ node :: new := by simp
    have hrecorded := hnew.recorded
    rw [horder] at hrecorded
    refine ⟨node :: new, ?_⟩
    constructor
    · constructor
      · intro x
        rw [hrecorded.coloured, leave_colour]
        by_cases hx : x = node
        · have hmem : node ∈ found ++ node :: new := by simp
          simp [hx, (hrecorded.coloured node).mp hmem]
        · simp [hx]
      · exact hrecorded.stack.sublist (List.dropLast_sublist _)
      · intro x y hx hpath
        rcases (leave_finished x).mp hx with rfl | hx
        · apply hvisited.advances.finished_of_path hs hvisited.finished
          simp only [earlier_node_iff hnode, hfound.coloured] at hpath
          exact hpath
        · exact (leave_finished y).mpr (Or.inr (hrecorded.below x y hx hpath))
    · intro rest last hlast
      rw [← horder] at hlast
      exact Discovers.first hnode (hnew.discovers rest last hlast)
    · intro x hx
      rcases List.mem_cons.mp hx with rfl | hx
      · exact hvisited.finished
      · exact (leave_finished x).mpr (Or.inr (hnew.finished x hx))
    · intro x more hx
      rcases List.mem_cons.mp hx with rfl | hx
      · have hleft : s.Finished = LeftBefore children (found ++ x :: new ++ more) x := by
          funext y
          rw [List.append_assoc, List.cons_append]
          exact propext (hfound.finished_iff hs hwhite hlink (new ++ more) y)
        rw [hvisited.reported, hleft]
      · rw [← horder]
        exact hnew.reported x more hx

end Found

/-!
# Fuel
-/

section Fuel

variable {s : DepthFirst α} {node : α} {all : List α}

/-- The path is within the graph, and the fuel lasts for the rest of the graph. -/
structure Fuelled (all : List α) (fuel : Nat) (s : DepthFirst α) : Prop where
  within : forall x, x ∈ s.stack -> x ∈ all
  lasts : all.length < fuel + s.stack.length

theorem Fuelled.enter {fuel : Nat} (h : Fuelled all (fuel + 1) s) (hnode : node ∈ all) :
    Fuelled all fuel (s.enter node) where
  within := by
    intro x hx
    rcases List.mem_append.mp hx with hold | hnew
    · exact h.within x hold
    · rw [List.mem_singleton.mp hnew]
      exact hnode
  lasts := by
    show all.length < fuel + (s.stack ++ [node]).length
    have hlasts := h.lasts
    rw [List.length_append, List.length_singleton]
    omega

omit [DecidableEq α] in
theorem Fuelled.positive (hs : Sound children s) (h : Fuelled all 0 s) : False := by
  have hle : s.stack.length ≤ all.length :=
    (List.subperm_of_subset hs.nodup h.within).length_le
  have hlasts := h.lasts
  omega

theorem foldlM_isSome {visit : α -> DepthFirst α -> Option (DepthFirst α)} {fuel : Nat}
    (hvisit : Visits children visit)
    (hsome : forall child s, Sound children s -> s.colour child = .white ->
      (forall last, last ∈ s.stack.getLast? -> Edge children last child) ->
      child ∈ all -> Fuelled all fuel s -> exists s', visit child s = some s')
    (hs : Sound children s) (hend : s.EndsWith node) {nodes : List α}
    (hnodes : forall child, child ∈ nodes -> child ∈ children node ∧ child ∈ all)
    (hfuel : Fuelled all fuel s) : exists s', nodes.foldlM (examine visit) s = some s' := by
  induction nodes generalizing s with
  | nil => exact ⟨s, rfl⟩
  | cons child rest ih =>
    rcases hnodes child List.mem_cons_self with ⟨hedge, hall⟩
    have hnext : exists next, examine visit s child = some next := by
      unfold examine
      cases hcolour : s.colour child with
      | white => exact hsome child s hs hcolour (hend.link hedge) hall hfuel
      | grey => exact ⟨_, rfl⟩
      | black => exact ⟨_, rfl⟩
    rcases hnext with ⟨next, hnext⟩
    have hfirst := (examine_examined hvisit hs hend hedge hnext).advances
    have hendNext := hend.extends hfirst.stack
    have hfuelNext : Fuelled all fuel next := by
      constructor
      · rw [hfirst.stack]
        exact hfuel.within
      · rw [hfirst.stack]
        exact hfuel.lasts
    rcases ih hfirst.sound hendNext
      (fun x hx => hnodes x (List.mem_cons_of_mem _ hx)) hfuelNext with ⟨s', hs'⟩
    exact ⟨s', by rw [List.foldlM_cons, hnext]; exact hs'⟩

theorem visit_isSome (hclosed : forall x y, y ∈ children x -> y ∈ all) (fuel : Nat)
    (hs : Sound children s) (hwhite : s.colour node = .white)
    (hlink : forall last, last ∈ s.stack.getLast? -> Edge children last node)
    (hnode : node ∈ all) (hfuel : Fuelled all fuel s) :
    exists s', visit children fuel node s = some s' := by
  induction fuel generalizing s node with
  | zero => exact (hfuel.positive hs).elim
  | succ fuel ih =>
    rcases foldlM_isSome (visit_visits children fuel)
      (fun child s hs hwhite hlink hchild hfuel => ih hs hwhite hlink hchild hfuel)
      (hs.enter hwhite hlink) ⟨s.stack, rfl⟩
      (fun child hchild => ⟨hchild, hclosed node child hchild⟩) (hfuel.enter hnode)
      with ⟨left, hleft⟩
    exact ⟨left.leave node, by unfold visit; rw [hleft]; rfl⟩

end Fuel

/-!
# The whole search
-/

section Search

variable {s : DepthFirst α} {roots : List α} {fuel : Nat}

omit [DecidableEq α] in
theorem sound_empty : Sound children ({} : DepthFirst α) where
  grey := fun _ => ⟨fun hgrey => Colour.noConfusion hgrey, fun hmem => absurd hmem List.not_mem_nil⟩
  nodup := List.nodup_nil
  chain := List.isChain_nil
  closed := fun _ hfinished => Colour.noConfusion hfinished
  reported := fun _ hmem => absurd hmem List.not_mem_nil

/-- What the visits of some roots leave. -/
structure Rooted (children : α -> List α) (s s' : DepthFirst α) (found roots new : List α) :
    Prop where
  advances : Extends children s s'
  finished : forall root, root ∈ roots -> s'.Finished root
  recording : Recording children s s' found roots new

theorem visitRoot_rooted (hs : Sound children s) (hstack : s.stack = [])
    (hclosed : forall x y, y ∈ children x -> y ∈ roots) (hfuel : roots.length < fuel)
    {root : α} (hroot : root ∈ roots) {found : List α} (hfound : Recorded children s found) :
    exists s' new, visitRoot children fuel s root = some s' ∧
      Rooted children s s' found [root] new := by
  have hlink : forall last, last ∈ s.stack.getLast? -> Edge children last root := by
    intro last hlast
    rw [hstack] at hlast
    cases hlast
  by_cases hwhite : s.colour root = .white
  · have hfuelled : Fuelled roots fuel s := by
      constructor
      · rw [hstack]
        exact fun _ hx => absurd hx List.not_mem_nil
      · omega
    rcases visit_isSome hclosed fuel hs hwhite hlink hroot hfuelled with ⟨s', hs'⟩
    have hvisited := visit_visits children fuel root s s' hs hwhite hlink hs'
    rcases visit_records children fuel root s s' found hs hwhite hlink hfound hs' with
      ⟨new, hnew⟩
    refine ⟨s', new, ?_, hvisited.advances, ?_, hnew⟩
    · unfold visitRoot
      rw [if_pos hwhite, hs']
    · intro x hx
      rw [List.mem_singleton.mp hx]
      exact hvisited.finished
  · refine ⟨s, [], ?_, Extends.refl hs, ?_, ?_⟩
    · unfold visitRoot
      rw [if_neg hwhite]
    · intro x hx
      rw [List.mem_singleton.mp hx]
      cases hcolour : s.colour root with
      | white => exact absurd hcolour hwhite
      | grey =>
        rw [hs.grey, hstack] at hcolour
        cases hcolour
      | black => exact hcolour
    · exact Recording.again hfound ((hfound.coloured root).mpr hwhite)

theorem foldlM_rooted (hs : Sound children s) (hstack : s.stack = [])
    (hclosed : forall x y, y ∈ children x -> y ∈ roots) (hfuel : roots.length < fuel)
    {nodes : List α} (hnodes : forall root, root ∈ nodes -> root ∈ roots)
    {found : List α} (hfound : Recorded children s found) :
    exists s' new, nodes.foldlM (visitRoot children fuel) s = some s' ∧
      Rooted children s s' found nodes new := by
  induction nodes generalizing s found with
  | nil =>
    exact ⟨s, [], rfl, Extends.refl hs, by simp, by simpa using hfound, by simp, by simp, by simp⟩
  | cons root rest ih =>
    rcases visitRoot_rooted hs hstack hclosed hfuel (hnodes root List.mem_cons_self) hfound with
      ⟨next, new, hnext, hfirst⟩
    rcases ih hfirst.advances.sound (hfirst.advances.stack.trans hstack)
      (fun x hx => hnodes x (List.mem_cons_of_mem _ hx)) hfirst.recording.recorded with
      ⟨s', new', hs', hlast⟩
    refine ⟨s', new ++ new', by rw [List.foldlM_cons, hnext]; exact hs', ?_⟩
    constructor
    · exact hfirst.advances.trans hlast.advances
    · intro x hx
      rcases List.mem_cons.mp hx with rfl | hmem
      · exact hlast.advances.finished x (hfirst.finished x (List.mem_singleton_self x))
      · exact hlast.finished x hmem
    · exact hfirst.recording.trans hlast.recording hlast.advances

omit [DecidableEq α] in
theorem Discovers.unique {found nodes order order' : List α}
    (h : Discovers children found nodes order) (h' : Discovers children found nodes order') :
    order = order' := by
  induction h with
  | done => cases h' with | done => rfl
  | again hx _ ih =>
    cases h' with
    | again _ hrest => exact ih hrest
    | first hnew _ => exact absurd hx hnew
  | first hnew _ ih =>
    cases h' with
    | again hx _ => exact absurd hx hnew
    | first _ hbelow => exact ih hbelow

/--
With enough fuel the search ends.  It reports vertices on cycles only, and of these
exactly those with a cycle that avoids all that is left before they are discovered.
-/
theorem search_spec (hclosed : forall x y, y ∈ children x -> y ∈ roots)
    (hfuel : roots.length < fuel) :
    exists s order, search children fuel roots = some s ∧ Discovers children [] roots order ∧
      forall x, (x ∈ s.cycles -> OnCycle children x) ∧ (OnCycle children x ->
          (x ∈ s.cycles ↔ Returns children (LeftBefore children order x) x)) := by
  have hempty : Recorded children ({} : DepthFirst α) [] := by
    constructor
    · simp
    · exact List.Pairwise.nil
    · exact fun _ _ hfinished => Colour.noConfusion hfinished
  rcases foldlM_rooted sound_empty rfl hclosed hfuel (fun _ hroot => hroot) hempty with
    ⟨s, order, hs, hrooted⟩
  have hrecording := hrooted.recording
  refine ⟨s, order, hs, ?_, ?_⟩
  · have horder := hrecording.discovers [] order (Discovers.done _)
    rw [List.append_nil] at horder
    exact horder
  · intro x
    constructor
    · exact fun hx => (hrooted.advances.returns x hx List.not_mem_nil).onCycle
    · intro hcycle
      have hroot : x ∈ roots := by
        rcases Relation.TransGen.tail'_iff.mp hcycle with ⟨y, _, hedge⟩
        exact hclosed y x hedge
      have hreported := hrecording.reported x [] (by
        exact hrecording.recorded.mem_of_finished (hrooted.finished x hroot))
      rw [List.append_nil] at hreported
      exact hreported

end Search
end DepthFirst
end Foundation
end Oompah
