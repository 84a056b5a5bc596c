import Mathlib.Data.List.Basic

/-!
# Pages of a sorted listing

A page is a prefix of a listing sorted by a position.  A row of the listing is
on the page or after it, and the last row of a page is at its greatest position.
-/

namespace Oompah
namespace Foundation

section Paging

variable {α : Type} {position : α -> Nat}

def SortedBy (position : α -> Nat) (rows : List α) : Prop :=
  rows.Pairwise (fun a b => position a ≤ position b)

/-- A page that returned fewer rows than it asked for, or asked for all. -/
def Exhausted (limit : Option Nat) (page : List α) : Prop :=
  forall n, limit = some n -> page.length < n

def page (limit : Option Nat) (rows : List α) : List α :=
  match limit with
  | none => rows
  | some n => rows.take n

variable {limit : Option Nat} {rows : List α} {x : α}

theorem mem_of_mem_page (h : x ∈ page limit rows) : x ∈ rows := by
  cases limit with
  | none => exact h
  | some n => exact List.mem_of_mem_take h

theorem page_sublist (limit : Option Nat) (rows : List α) : (page limit rows).Sublist rows := by
  cases limit with
  | none => exact List.Sublist.refl rows
  | some n => exact List.take_sublist n rows

theorem SortedBy.page (h : SortedBy position rows) : SortedBy position (page limit rows) :=
  List.Pairwise.sublist (page_sublist limit rows) h

theorem SortedBy.after_page (h : SortedBy position rows) (hx : x ∈ rows)
    (hmissing : x ∉ Foundation.page limit rows) :
    forall y, y ∈ Foundation.page limit rows -> position y ≤ position x := by
  intro y hy
  cases limit with
  | none => exact absurd hx hmissing
  | some n =>
    have hdrop : x ∈ rows.drop n := by
      rw [← List.take_append_drop n rows] at hx
      exact (List.mem_append.mp hx).resolve_left hmissing
    unfold SortedBy at h
    rw [← List.take_append_drop n rows, List.pairwise_append] at h
    exact h.right.right y hy x hdrop

theorem mem_page_of_exhausted (h : Exhausted limit (page limit rows)) (hx : x ∈ rows) :
    x ∈ page limit rows := by
  cases limit with
  | none => exact hx
  | some n =>
    have hless : (rows.take n).length < n := h n rfl
    rw [List.length_take] at hless
    show x ∈ rows.take n
    rw [List.take_of_length_le (by omega)]
    exact hx

theorem SortedBy.le_getLast (h : SortedBy position rows) {last : α}
    (hlast : rows.getLast? = some last) (hx : x ∈ rows) :
    position x ≤ position last := by
  induction rows with
  | nil => cases hx
  | cons first rest ih =>
    have hsorted := List.pairwise_cons.mp h
    cases rest with
    | nil =>
      have hfirst : x = first := List.mem_singleton.mp hx
      have hend : first = last := Option.some.inj hlast
      exact Nat.le_of_eq (congrArg position (hfirst.trans hend))
    | cons second rest =>
      rcases List.mem_cons.mp hx with rfl | hrest
      · exact hsorted.left last (List.mem_of_getLast? hlast)
      · exact ih hsorted.right hlast hrest

end Paging
end Foundation
end Oompah
