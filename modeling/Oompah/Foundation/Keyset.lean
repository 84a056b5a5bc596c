import Mathlib.Data.List.Sort

/-!
# Pages behind a cursor

A page of a listing that is read on from a cursor: the rows with a position after it,
sorted, and at most a number of them.  With distinct positions a page that is not
empty has exactly the rows between the cursor and its last row.
-/

namespace Oompah
namespace Foundation

section Keyset

variable {α β : Type} [LinearOrder β] (position : α -> β)

/-- Whether a position is after a cursor; every one is after no cursor. -/
def Behind (cursor : Option β) (p : β) : Prop :=
  forall c, cursor = some c -> c < p

instance (cursor : Option β) (p : β) : Decidable (Behind cursor p) :=
  match cursor with
  | none => isTrue (fun _ h => by cases h)
  | some c =>
    if h : c < p then isTrue (fun d hd => by cases hd; exact h)
    else isFalse (fun hall => h (hall c rfl))

def sortedRows (rows : List α) : List α :=
  rows.insertionSort fun a b => position a ≤ position b

def keysetPage (cursor : Option β) (limit : Nat) (rows : List α) : List α :=
  (sortedRows position (rows.filter fun row => Behind cursor (position row))).take limit

variable {position} {cursor : Option β} {limit : Nat} {rows : List α} {x y : α}

theorem mem_sortedRows : x ∈ sortedRows position rows ↔ x ∈ rows :=
  List.mem_insertionSort _

theorem sortedRows_pairwise (rows : List α) :
    (sortedRows position rows).Pairwise (fun a b => position a ≤ position b) := by
  have htotal : Std.Total (fun a b : α => position a ≤ position b) :=
    ⟨fun a b => le_total (position a) (position b)⟩
  have htrans : IsTrans α (fun a b => position a ≤ position b) :=
    ⟨fun _ _ _ hab hbc => le_trans hab hbc⟩
  exact List.pairwise_insertionSort _ rows

theorem mem_of_mem_keysetPage (h : x ∈ keysetPage position cursor limit rows) :
    x ∈ rows ∧ Behind cursor (position x) := by
  have hmem := mem_sortedRows.mp (List.mem_of_mem_take h)
  rw [List.mem_filter] at hmem
  exact ⟨hmem.left, by simpa using hmem.right⟩

theorem keysetPage_nodup (h : rows.Nodup) : (keysetPage position cursor limit rows).Nodup := by
  apply List.Nodup.sublist (List.take_sublist limit _)
  exact (List.perm_insertionSort _ _).nodup_iff.mpr (h.filter _)

theorem keysetPage_eq_nil (hlimit : 0 < limit)
    (h : keysetPage position cursor limit rows = []) (hx : x ∈ rows) :
    ¬ Behind cursor (position x) := by
  intro hbehind
  have hmem : x ∈ sortedRows position (rows.filter fun row => Behind cursor (position row)) := by
    rw [mem_sortedRows, List.mem_filter]
    exact ⟨hx, by simpa using hbehind⟩
  rcases List.take_eq_nil_iff.mp h with hzero | hnil
  · omega
  · rw [hnil] at hmem
    cases hmem

/-- A page that is not empty has the rows between the cursor and its last row. -/
theorem mem_keysetPage_iff (hdistinct : forall a b, a ∈ rows -> b ∈ rows ->
    position a = position b -> a = b)
    (hlast : (keysetPage position cursor limit rows).getLast? = some y) :
    x ∈ keysetPage position cursor limit rows ↔
      x ∈ rows ∧ Behind cursor (position x) ∧ position x ≤ position y := by
  have hsorted : (sortedRows position
      (rows.filter fun row => Behind cursor (position row))).Pairwise
        (fun a b => position a ≤ position b) := sortedRows_pairwise _
  have hy := List.mem_of_getLast? hlast
  constructor
  · intro hx
    rcases mem_of_mem_keysetPage hx with ⟨hrow, hbehind⟩
    refine ⟨hrow, hbehind, ?_⟩
    have hpage : (keysetPage position cursor limit rows).Pairwise
        (fun a b => position a ≤ position b) := hsorted.sublist (List.take_sublist limit _)
    rcases List.getLast?_eq_some_iff.mp hlast with ⟨before, hbefore⟩
    rw [hbefore] at hx hpage
    rcases List.mem_append.mp hx with hx | hx
    · exact (List.pairwise_append.mp hpage).right.right x hx y (List.mem_singleton.mpr rfl)
    · rw [List.mem_singleton.mp hx]
  · rintro ⟨hrow, hbehind, hle⟩
    have hmem : x ∈ sortedRows position (rows.filter fun row => Behind cursor (position row)) := by
      rw [mem_sortedRows, List.mem_filter]
      exact ⟨hrow, by simpa using hbehind⟩
    rw [← List.take_append_drop limit (sortedRows position _)] at hmem hsorted
    rcases List.mem_append.mp hmem with htake | hdrop
    · exact htake
    · have hyx := (List.pairwise_append.mp hsorted).right.right y hy x hdrop
      have heq : x = y := hdistinct x y hrow (mem_of_mem_keysetPage hy).left (le_antisymm hle hyx)
      rw [heq]
      exact hy

end Keyset
end Foundation
end Oompah
