import Oompah.Foundation.Text

/-!
# Cutting long texts

Where the first occurrence of a pattern is, when the text is put together from parts.
-/

namespace Oompah
namespace Foundation
namespace Text

section Parts

variable {α : Type} [DecidableEq α] {pat s a b : List α} {c : α}

/-- What follows the first occurrence does not change it. -/
theorem cut_append (hpat : pat ≠ []) (h : cut pat s = some (a, b)) (more : List α) :
    cut pat (s ++ more) = some (a, b ++ more) := by
  induction s generalizing a with
  | nil =>
    unfold cut at h
    rw [if_neg hpat] at h
    cases h
  | cons c s ih =>
    rw [List.cons_append]
    unfold cut at h ⊢
    by_cases hprefix : pat.isPrefixOf (c :: s) = true
    · rw [if_pos hprefix] at h
      cases h
      rcases List.isPrefixOf_iff_prefix.mp hprefix with ⟨rest, hrest⟩
      have hlonger : pat.isPrefixOf (c :: (s ++ more)) = true := by
        rw [List.isPrefixOf_iff_prefix, ← List.cons_append, ← hrest, List.append_assoc]
        exact List.prefix_append _ _
      rw [if_pos hlonger, ← List.cons_append, ← hrest, List.append_assoc, List.drop_left,
        List.drop_left]
    · rw [if_neg hprefix] at h
      rcases Option.map_eq_some_iff.mp h with ⟨⟨before, after⟩, hcut, heq⟩
      cases heq
      have hlonger : ¬ pat.isPrefixOf (c :: (s ++ more)) = true := by
        rw [List.isPrefixOf_iff_prefix] at hprefix ⊢
        intro hlong
        apply hprefix
        have hshort : pat.length ≤ (c :: s).length := by
          have hinside : pat <:+: s := by
            rw [cut_eq_some hcut]
            exact ⟨before, after, rfl⟩
          exact hinside.length_le.trans (Nat.le_succ _)
        exact List.prefix_of_prefix_length_le hlong (List.prefix_append _ _) hshort
      rw [if_neg hlonger, ih hcut]
      rfl

/-- A part without the pattern, up to a symbol that is not in it, is passed over. -/
theorem cut_separated (hpat : pat ≠ []) (hc : c ∉ pat) (hs : ¬ pat <:+: s) (more : List α) :
    cut pat (s ++ c :: more) = (cut pat more).map fun parts => (s ++ c :: parts.1, parts.2) := by
  induction s with
  | nil =>
    have hprefix : ¬ pat.isPrefixOf (c :: more) = true := by
      rw [List.isPrefixOf_iff_prefix]
      intro h
      exact hpat (List.prefix_nil.mp (prefix_append_cons (a := []) hc h))
    show (if pat.isPrefixOf (c :: more) = true then _ else (cut pat more).map _) = _
    rw [if_neg hprefix]
    rfl
  | cons d s ih =>
    have hprefix : ¬ pat.isPrefixOf (d :: s ++ c :: more) = true := by
      rw [List.isPrefixOf_iff_prefix]
      intro h
      exact hs (prefix_append_cons hc h).isInfix
    have hrest : ¬ pat <:+: s := fun h => hs (List.infix_cons h)
    rw [List.cons_append] at hprefix ⊢
    show (if pat.isPrefixOf (d :: (s ++ c :: more)) = true then _
      else (cut pat (s ++ c :: more)).map _) = _
    rw [if_neg hprefix, ih hrest, Option.map_map]
    rfl

theorem cut_self (hpat : pat ≠ []) (more : List α) : cut pat (pat ++ more) = some ([], more) := by
  rcases List.exists_cons_of_ne_nil hpat with ⟨c, rest, rfl⟩
  have hprefix : (c :: rest).isPrefixOf (c :: rest ++ more) = true := by
    rw [List.isPrefixOf_iff_prefix]
    exact List.prefix_append _ _
  show (if (c :: rest).isPrefixOf (c :: rest ++ more) = true then _ else _) = _
  rw [if_pos hprefix]
  exact congrArg (fun rest => some ([], rest)) List.drop_left

end Parts
end Text
end Foundation
end Oompah
