import Mathlib.Data.List.Basic

/-!
# Joined fields

Fields joined by a separator.  The joined list does not say where a field that
contains the separator ends, so it determines the fields only together with how
often each of them contains it.
-/

namespace Oompah
namespace Foundation

section Joined

variable {α : Type} [DecidableEq α] {sep : α}

theorem append_cons_inj {first second rest rest' : List α}
    (h : first ++ sep :: rest = second ++ sep :: rest')
    (hcount : first.count sep = second.count sep) :
    first = second ∧ rest = rest' := by
  induction first generalizing second with
  | nil =>
    cases second with
    | nil => exact ⟨rfl, (List.cons.inj h).right⟩
    | cons c tail =>
      rw [← (List.cons.inj h).left, List.count_cons_self] at hcount
      cases hcount
  | cons c tail ih =>
    cases second with
    | nil =>
      rw [(List.cons.inj h).left, List.count_cons_self] at hcount
      cases hcount
    | cons d tail' =>
      rcases List.cons.inj h with ⟨rfl, htail⟩
      rw [List.count_cons, List.count_cons, Nat.add_right_cancel_iff] at hcount
      rcases ih htail hcount with ⟨rfl, hrest⟩
      exact ⟨rfl, hrest⟩

/-- The fields but the last are cut off by counting the separators in them. -/
theorem intercalate_inj {fields fields' : List (List α)} (hlength : fields.length = fields'.length)
    (hcount : fields.dropLast.map (List.count sep) = fields'.dropLast.map (List.count sep))
    (h : [sep].intercalate fields = [sep].intercalate fields') : fields = fields' := by
  induction fields generalizing fields' with
  | nil => exact (List.length_eq_zero_iff.mp hlength.symm).symm
  | cons first rest ih =>
    cases fields' with
    | nil => cases hlength
    | cons first' rest' =>
      rw [List.length_cons, List.length_cons, Nat.add_right_cancel_iff] at hlength
      cases rest with
      | nil =>
        have hnil := List.length_eq_zero_iff.mp hlength.symm
        subst hnil
        rw [List.intercalate_singleton, List.intercalate_singleton] at h
        rw [h]
      | cons second rest =>
        cases rest' with
        | nil => cases hlength
        | cons second' rest' =>
          rw [List.dropLast_cons_cons, List.dropLast_cons_cons, List.map_cons,
            List.map_cons, List.cons.injEq] at hcount
          rw [List.intercalate_cons_cons, List.intercalate_cons_cons,
            List.append_assoc, List.append_assoc, List.singleton_append,
            List.singleton_append] at h
          rcases append_cons_inj h hcount.left with ⟨rfl, hrest⟩
          rw [ih hlength hcount.right hrest]

end Joined

/-- How often a text contains a character. -/
def occurrences (c : Char) (text : String) : Nat :=
  text.toList.count c

theorem joined_inj {c : Char} {fields fields' : List String}
    (hlength : fields.length = fields'.length)
    (hcount : fields.dropLast.map (occurrences c) = fields'.dropLast.map (occurrences c))
    (h : (String.singleton c).intercalate fields =
      (String.singleton c).intercalate fields') : fields = fields' := by
  have hlists := congrArg String.toList h
  rw [String.toList_intercalate, String.toList_intercalate, String.toList_singleton] at hlists
  have hmaps : fields.map String.toList = fields'.map String.toList := by
    apply intercalate_inj _ _ hlists
    · rw [List.length_map, List.length_map, hlength]
    · rw [← List.map_dropLast, ← List.map_dropLast, List.map_map, List.map_map]
      exact hcount
  exact List.map_injective_iff.mpr (fun _ _ => String.toList_inj.mp) hmaps

end Foundation
end Oompah
