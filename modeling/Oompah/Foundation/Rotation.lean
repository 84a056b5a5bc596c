import Mathlib.Algebra.Order.Floor.Div
import Mathlib.Data.List.Rotate

/-!
# Windows of a rotating listing

A reader of a circular listing takes a window of a fixed width from its offset
and moves the offset past it.  The windows lie end to end around the listing,
so as many of them as cover its length leave no position out.
-/

namespace Oompah
namespace Foundation

section Rotation

variable {α : Type}

/-- The rotated listing, cut after `limit` items. -/
def rotatedWindow (rows : List α) (limit offset : Nat) : List α :=
  (rows.drop offset ++ rows.take offset).take limit

@[simp]
theorem length_rotatedWindow (rows : List α) (limit offset : Nat) :
    (rotatedWindow rows limit offset).length = min limit rows.length := by
  simp [rotatedWindow]
  omega

theorem getElem?_rotatedWindow (rows : List α) {limit offset r : Nat}
    (hoffset : offset < rows.length) (hr : r < min limit rows.length) :
    (rotatedWindow rows limit offset)[r]? = rows[(offset + r) % rows.length]? := by
  have hrotate : rows.drop offset ++ rows.take offset = rows.rotate offset :=
    (List.rotate_eq_drop_append_take (Nat.le_of_lt hoffset)).symm
  unfold rotatedWindow
  rw [hrotate, List.getElem?_take_of_lt (by omega), List.getElem?_rotate (by omega), Nat.add_comm]

/-- Windows of width `width` laid end to end from `start` meet every position. -/
theorem exists_covering_window (start : Nat) {total width count i : Nat}
    (hwidth : 0 < width) (hi : i < total) (hcount : total ≤ count * width) :
    exists j r, j < count ∧ r < width ∧ (start + j * width + r) % total = i := by
  have hpos : 0 < total := by omega
  -- the distance from the start to the position, going forward
  let distance := (i + (total - start % total)) % total
  have hdistance : distance < total := Nat.mod_lt _ hpos
  have hreach : (start + distance) % total = i := by
    have hstart : start % total < total := Nat.mod_lt _ hpos
    calc (start + distance) % total
        = (start % total + (i + (total - start % total))) % total := by
          rw [Nat.add_mod_mod, Nat.mod_add_mod]
      _ = (i + total) % total := by congr 1; omega
      _ = i := by rw [Nat.add_mod_right, Nat.mod_eq_of_lt hi]
  refine ⟨distance / width, distance % width, ?_, Nat.mod_lt _ hwidth, ?_⟩
  · exact (Nat.div_lt_iff_lt_mul hwidth).mpr (by omega)
  · rw [Nat.add_assoc, Nat.mul_comm, Nat.div_add_mod]
    exact hreach

end Rotation
end Foundation
end Oompah
