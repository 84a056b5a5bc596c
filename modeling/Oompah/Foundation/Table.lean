import Mathlib.Data.List.Nodup

/-!
# Tables of keyed rows

A table is a list of rows with a key function.  A conditional update rewrites
the rows a condition selects and keeps their keys, so a lookup by key commutes
with it.
-/

namespace Oompah
namespace Foundation

section Table

variable {κ ρ : Type} [DecidableEq κ]

/-- `SELECT * FROM rows WHERE key = ?`. -/
def rowAt (key : ρ -> κ) (rows : List ρ) (k : κ) : Option ρ :=
  rows.find? (fun row => key row = k)

/-- `UPDATE rows SET ... WHERE ...`. -/
def updateWhere (rows : List ρ) (condition : ρ -> Bool) (set : ρ -> ρ) : List ρ :=
  rows.map (fun row => if condition row then set row else row)

/-- The row count such an update reports. -/
def countWhere (rows : List ρ) (condition : ρ -> Bool) : Nat :=
  rows.countP condition

variable {key : ρ -> κ} {rows : List ρ} {row : ρ}

theorem rowAt_key {k : κ} (h : rowAt key rows k = some row) : key row = k := by
  simpa using List.find?_some h

theorem mem_of_rowAt {k : κ} (h : rowAt key rows k = some row) : row ∈ rows :=
  List.mem_of_find?_eq_some h

theorem rowAt_eq_none {k : κ} :
    rowAt key rows k = none <-> forall row, row ∈ rows -> key row ≠ k := by
  unfold rowAt
  simp

theorem rowAt_of_mem (hunique : (rows.map key).Nodup)
    (hrow : row ∈ rows) : rowAt key rows (key row) = some row := by
  induction rows with
  | nil => cases hrow
  | cons first rest ih =>
    rw [List.map_cons, List.nodup_cons] at hunique
    unfold rowAt
    rcases List.mem_cons.mp hrow with rfl | hrest
    · rw [List.find?_cons_of_pos (by simp)]
    · have hne : key first ≠ key row := by
        intro hsame
        exact hunique.left (hsame ▸ List.mem_map_of_mem hrest)
      rw [List.find?_cons_of_neg (by simpa using hne)]
      exact ih hunique.right hrest

variable {condition : ρ -> Bool}

theorem mem_updateWhere {set : ρ -> ρ} {row' : ρ} : row' ∈ updateWhere rows condition set <->
      exists row, row ∈ rows ∧ row' = if condition row then set row else row := by
  unfold updateWhere
  rw [List.mem_map]
  constructor
  · rintro ⟨row, hrow, hset⟩
    exact ⟨row, hrow, hset.symm⟩
  · rintro ⟨row, hrow, hset⟩
    exact ⟨row, hrow, hset.symm⟩

omit [DecidableEq κ] in
theorem updateWhere_keys {key : ρ -> κ} {rows : List ρ} {condition : ρ -> Bool}
    {set : ρ -> ρ} (hkey : forall row, condition row = true -> key (set row) = key row) :
    (updateWhere rows condition set).map key = rows.map key := by
  unfold updateWhere
  rw [List.map_map]
  apply List.map_congr_left
  intro row _
  show key (if condition row then set row else row) = key row
  split
  · rename_i hcondition
    exact hkey row hcondition
  · rfl

theorem rowAt_map {f : ρ -> ρ} (hkey : forall row, row ∈ rows -> key (f row) = key row) (k : κ) :
    rowAt key (rows.map f) k = (rowAt key rows k).map f := by
  induction rows with
  | nil => rfl
  | cons first rest ih =>
    have hfirst := hkey first List.mem_cons_self
    have hrest := ih (fun row hrow => hkey row (List.mem_cons_of_mem _ hrow))
    unfold rowAt at hrest ⊢
    rw [List.map_cons]
    by_cases h : key first = k
    · rw [List.find?_cons_of_pos (by simpa [hfirst] using h),
        List.find?_cons_of_pos (by simpa using h)]
      rfl
    · rw [List.find?_cons_of_neg (by simpa [hfirst] using h),
        List.find?_cons_of_neg (by simpa using h)]
      exact hrest

theorem rowAt_updateWhere
    {set : ρ -> ρ} (hkey : forall row, condition row = true -> key (set row) = key row) (k : κ) :
    rowAt key (updateWhere rows condition set) k =
      (rowAt key rows k).map (fun row => if condition row then set row else row) := by
  apply rowAt_map
  intro row _
  split
  · rename_i hcondition
    exact hkey row hcondition
  · rfl

theorem rowAt_append {fresh : ρ} (k : κ) : rowAt key (rows ++ [fresh]) k =
      (rowAt key rows k).or (if key fresh = k then some fresh else none) := by
  unfold rowAt
  by_cases h : key fresh = k <;> simp [h]

omit [DecidableEq κ] in
theorem exists_of_countWhere_ne_zero {rows : List ρ} {condition : ρ -> Bool}
    (h : countWhere rows condition ≠ 0) :
    exists row, row ∈ rows ∧ condition row = true := by
  simpa using List.countP_pos_iff.mp (Nat.pos_of_ne_zero h)

theorem countWhere_eq_one (hunique : (rows.map key).Nodup) (hcondition : condition row = true)
    (hrow : row ∈ rows) (hkey : forall other, condition other = true -> key other = key row) :
    countWhere rows condition = 1 := by
  apply Nat.le_antisymm
  · calc rows.countP condition ≤ rows.countP (fun other => key other == key row) := by
          apply List.countP_mono_left
          intro other _ hother
          exact beq_iff_eq.mpr (hkey other hother)
      _ = (rows.map key).count (key row) := by
          rw [List.count, List.countP_map]
          rfl
      _ ≤ 1 := List.nodup_iff_count_le_one.mp hunique _
  · exact List.countP_pos_iff.mpr ⟨row, hrow, hcondition⟩

theorem rowAt_isSome (h : row ∈ rows) : (rowAt key rows (key row)).isSome = true := by
  unfold rowAt
  rw [List.find?_isSome]
  exact ⟨row, h, by simp⟩

end Table
end Foundation
end Oompah
