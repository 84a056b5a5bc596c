import Mathlib.Algebra.GroupWithZero.Nat
import Mathlib.Data.List.DropRight
import Mathlib.Data.List.Infix

/-!
# Text operations

The string operations of the host language on lists of characters: cutting a text
at a pattern, replacing a pattern, stripping, and splitting into lines.  A marker is
a pattern whose first character does not come again in it, so that two occurrences
of markers never overlap.
-/

namespace Oompah
namespace Foundation
namespace Text

section Cutting

variable {α : Type} [DecidableEq α]

/-- The text before and after the first occurrence of a pattern. -/
def cut (pat : List α) : List α -> Option (List α × List α)
  | [] => if pat = [] then some ([], []) else none
  | c :: s =>
    if pat.isPrefixOf (c :: s) then some ([], (c :: s).drop pat.length)
    else (cut pat s).map fun parts => (c :: parts.1, parts.2)

/-- Every occurrence of a pattern replaced, from the left and without overlap. -/
def replace (pat new : List α) : Nat -> List α -> List α
  | 0, s => s
  | fuel + 1, s =>
    match cut pat s with
    | none => s
    | some (before, after) => before ++ new ++ replace pat new fuel after

def replaceAll (pat new s : List α) : List α :=
  replace pat new s.length s

/-- The texts between an opening and the closing pattern that follows it. -/
def between (opening closing : List α) : Nat -> List α -> List (List α)
  | 0, _ => []
  | fuel + 1, s =>
    match cut opening s with
    | none => []
    | some (_, opened) =>
      match cut closing opened with
      | none => []
      | some (inner, after) => inner :: between opening closing fuel after

variable {pat s a b : List α} {p : α} {tl : List α}

theorem cut_eq_some (h : cut pat s = some (a, b)) : s = a ++ pat ++ b := by
  induction s generalizing a with
  | nil =>
    unfold cut at h
    by_cases hpat : pat = []
    · rw [if_pos hpat] at h
      cases h
      rw [hpat]
      rfl
    · rw [if_neg hpat] at h
      cases h
  | cons c s ih =>
    unfold cut at h
    by_cases hprefix : pat.isPrefixOf (c :: s) = true
    · rw [if_pos hprefix] at h
      cases h
      rcases List.isPrefixOf_iff_prefix.mp hprefix with ⟨rest, hrest⟩
      rw [← hrest, List.drop_left]
      rfl
    · rw [if_neg hprefix] at h
      rcases Option.map_eq_some_iff.mp h with ⟨⟨before, after⟩, hcut, heq⟩
      cases heq
      show c :: s = c :: (before ++ pat ++ after)
      rw [ih hcut]

theorem cut_eq_none : cut pat s = none ↔ ¬ pat <:+: s := by
  induction s with
  | nil =>
    unfold cut
    by_cases hpat : pat = []
    · simp [hpat]
    · simp [hpat]
  | cons c s ih =>
    unfold cut
    rw [List.infix_cons_iff]
    by_cases hprefix : pat.isPrefixOf (c :: s) = true
    · simp [List.isPrefixOf_iff_prefix.mp hprefix]
    · rw [if_neg hprefix, Option.map_eq_none_iff, ih]
      have hnot : ¬ pat <+: c :: s := fun h => hprefix (List.isPrefixOf_iff_prefix.mpr h)
      simp [hnot]

theorem cut_before (hpat : pat ≠ []) (h : cut pat s = some (a, b)) : ¬ pat <:+: a := by
  induction s generalizing a with
  | nil =>
    unfold cut at h
    rw [if_neg hpat] at h
    cases h
  | cons c s ih =>
    unfold cut at h
    by_cases hprefix : pat.isPrefixOf (c :: s) = true
    · rw [if_pos hprefix] at h
      cases h
      exact fun hnil => hpat (List.infix_nil.mp hnil)
    · rw [if_neg hprefix] at h
      rcases Option.map_eq_some_iff.mp h with ⟨⟨before, after⟩, hcut, heq⟩
      cases heq
      intro hinside
      rcases List.infix_cons_iff.mp hinside with hhead | htail
      · have hs : c :: s = (c :: before) ++ (pat ++ after) := by
          rw [cut_eq_some hcut]
          simp
        apply hprefix
        rw [List.isPrefixOf_iff_prefix, hs]
        exact hhead.trans (List.prefix_append _ _)
      · exact ih hcut htail

theorem cut_length (hpat : pat ≠ []) (h : cut pat s = some (a, b)) : b.length < s.length := by
  have hlen := congrArg List.length (cut_eq_some h)
  have hpos := List.length_pos_of_ne_nil hpat
  rw [List.length_append, List.length_append] at hlen
  omega

end Cutting

section Markers

variable {α : Type} {pat s a b : List α} {c p : α} {tl : List α}

/-- A pattern without the character `c` does not reach over it. -/
theorem infix_append_cons (hc : c ∉ pat) : pat <:+: a ++ c :: b ↔ pat <:+: a ∨ pat <:+: b := by
  constructor
  · intro h
    rcases List.infix_append_iff_ne_nil.mp h with hleft | hright | ⟨x, y, _, hy, hxy, _, hprefix⟩
    · exact .inl hleft
    · rcases List.infix_cons_iff.mp hright with hhead | htail
      · cases pat with
        | nil => exact .inr List.nil_infix
        | cons d rest =>
          rcases hhead with ⟨t, ht⟩
          cases ht
          exact absurd List.mem_cons_self hc
      · exact .inr htail
    · rcases List.exists_cons_of_ne_nil hy with ⟨d, rest, rfl⟩
      rcases hprefix with ⟨t, ht⟩
      cases ht
      exact absurd (hxy ▸ List.mem_append_right x List.mem_cons_self) hc
  · rintro (h | h)
    · exact List.infix_append_of_infix_left h
    · exact List.infix_append_of_infix_right (List.infix_cons h)

/-- A marker that begins in a text does not end in what begins like it. -/
theorem marker_infix_append (hp : p ∉ tl) :
    p :: tl <:+: a ++ p :: b ↔ p :: tl <:+: a ∨ p :: tl <:+: p :: b := by
  constructor
  · intro h
    rcases List.infix_append_iff_ne_nil.mp h with hleft | hright | ⟨x, y, hx, hy, hxy, _, hprefix⟩
    · exact .inl hleft
    · exact .inr hright
    · rcases List.exists_cons_of_ne_nil hx with ⟨d, before, rfl⟩
      rcases List.exists_cons_of_ne_nil hy with ⟨e, rest, rfl⟩
      rcases hprefix with ⟨t, ht⟩
      cases ht
      cases hxy
      exact absurd (List.mem_append_right before List.mem_cons_self) hp
  · rintro (h | h)
    · exact List.infix_append_of_infix_left h
    · exact List.infix_append_of_infix_right h

theorem infix_append_of_head_not_mem (hp : p ∉ a) : p :: tl <:+: a ++ b ↔ p :: tl <:+: b := by
  induction a with
  | nil => rfl
  | cons d rest ih =>
    show p :: tl <:+: d :: (rest ++ b) ↔ p :: tl <:+: b
    rw [List.infix_cons_iff, ih (fun h => hp (List.mem_cons_of_mem d h))]
    constructor
    · rintro (hhead | htail)
      · have hpd : p = d := (List.cons_prefix_cons.mp hhead).left
        exact absurd (hpd ▸ List.mem_cons_self) hp
      · exact htail
    · exact .inr

theorem prefix_append_cons (hc : c ∉ pat) (h : pat <+: a ++ c :: b) : pat <+: a := by
  induction a generalizing pat with
  | nil =>
    cases pat with
    | nil => exact List.nil_prefix
    | cons d rest =>
      rcases h with ⟨t, ht⟩
      cases ht
      exact absurd List.mem_cons_self hc
  | cons e a ih =>
    cases pat with
    | nil => exact List.nil_prefix
    | cons d rest =>
      rcases List.cons_prefix_cons.mp h with ⟨rfl, hrest⟩
      exact List.cons_prefix_cons.mpr ⟨rfl, ih (fun hmem => hc (List.mem_cons_of_mem d hmem)) hrest⟩

/-- The first occurrence of a marker is the one its text was built around. -/
theorem cut_marker [DecidableEq α] (hp : p ∉ tl) (ha : ¬ p :: tl <:+: a) :
    cut (p :: tl) (a ++ (p :: tl) ++ b) = some (a, b) := by
  induction a with
  | nil =>
    show cut (p :: tl) (p :: (tl ++ b)) = some ([], b)
    have hprefix : (p :: tl).isPrefixOf (p :: (tl ++ b)) = true :=
      List.isPrefixOf_iff_prefix.mpr ⟨b, rfl⟩
    rw [cut, if_pos hprefix]
    simp
  | cons d rest ih =>
    have hrest : ¬ p :: tl <:+: rest := fun h => ha (List.infix_cons h)
    show cut (p :: tl) (d :: (rest ++ (p :: tl) ++ b)) = some (d :: rest, b)
    have hprefix : ¬ (p :: tl).isPrefixOf (d :: (rest ++ (p :: tl) ++ b)) = true := by
      intro h
      rcases List.cons_prefix_cons.mp (List.isPrefixOf_iff_prefix.mp h) with ⟨rfl, htl⟩
      rw [List.append_assoc] at htl
      have hinside : tl <+: rest := prefix_append_cons hp htl
      exact ha (List.cons_prefix_cons.mpr ⟨rfl, hinside⟩).isInfix
    rw [cut, if_neg hprefix, ih hrest]
    rfl

end Markers

section Replacing

variable {α : Type} {pat new s a b : List α} {p : α} {tl ntl otl : List α} {fuel : Nat}

/-- A marker that is not the replacement is in the text around it. -/
theorem marker_infix_around (hp : p ∉ otl) (hn : p ∉ ntl)
    (hlong : ¬ p :: otl <+: p :: ntl) (hshort : ¬ p :: ntl <+: p :: otl)
    (h : p :: otl <:+: a ++ (p :: ntl) ++ b) : p :: otl <:+: a ∨ p :: otl <:+: b := by
  rw [List.append_assoc] at h
  rcases (marker_infix_append hp).mp h with ha | hrest
  · exact .inl ha
  · rcases List.infix_cons_iff.mp hrest with hprefix | hinner
    · rcases List.prefix_or_prefix_of_prefix hprefix (List.prefix_append (p :: ntl) b) with
        h₁ | h₂
      · exact absurd h₁ hlong
      · exact absurd h₂ hshort
    · exact .inr ((infix_append_of_head_not_mem hn).mp hinner)

variable [DecidableEq α]

/-- Replacing one marker puts no other into a text. -/
theorem infix_of_infix_replace (hp : p ∉ otl) (hn : p ∉ ntl)
    (hlong : ¬ p :: otl <+: p :: ntl) (hshort : ¬ p :: ntl <+: p :: otl)
    (h : p :: otl <:+: replace pat (p :: ntl) fuel s) : p :: otl <:+: s := by
  induction fuel generalizing s with
  | zero => exact h
  | succ fuel ih =>
    unfold replace at h
    cases hcut : cut pat s with
    | none =>
      rw [hcut] at h
      exact h
    | some parts =>
      rcases parts with ⟨before, after⟩
      rw [hcut] at h
      rw [cut_eq_some hcut]
      rcases marker_infix_around hp hn hlong hshort h with hbefore | hafter
      · rw [List.append_assoc]
        exact List.infix_append_of_infix_left hbefore
      · exact List.infix_append_of_infix_right (ih hafter)

theorem not_infix_replace (hp : p ∉ tl) (hn : p ∉ ntl)
    (hlong : ¬ p :: tl <+: p :: ntl) (hshort : ¬ p :: ntl <+: p :: tl)
    (hfuel : s.length ≤ fuel) : ¬ p :: tl <:+: replace (p :: tl) (p :: ntl) fuel s := by
  induction fuel generalizing s with
  | zero =>
    have hs : s = [] := List.length_eq_zero_iff.mp (Nat.le_zero.mp hfuel)
    rw [hs]
    exact fun h => List.cons_ne_nil p tl (List.infix_nil.mp h)
  | succ fuel ih =>
    unfold replace
    cases hcut : cut (p :: tl) s with
    | none => exact cut_eq_none.mp hcut
    | some parts =>
      rcases parts with ⟨before, after⟩
      have hpat : p :: tl ≠ [] := List.cons_ne_nil p tl
      have hlength := cut_length hpat hcut
      intro h
      rcases marker_infix_around hp hn hlong hshort h with hbefore | hafter
      · exact cut_before hpat hcut hbefore
      · exact ih (by omega) hafter

theorem replace_head? (s : List α) : (replace (p :: tl) (p :: ntl) fuel s).head? = s.head? := by
  cases fuel with
  | zero => rfl
  | succ fuel =>
    unfold replace
    cases hcut : cut (p :: tl) s with
    | none => rfl
    | some parts =>
      rcases parts with ⟨before, after⟩
      rw [cut_eq_some hcut]
      simp [List.head?_append]

theorem replace_getLast? {q : α} (hpat : pat.getLast? = some q) (hnew : new.getLast? = some q)
    (s : List α) : (replace pat new fuel s).getLast? = s.getLast? := by
  induction fuel generalizing s with
  | zero => rfl
  | succ fuel ih =>
    unfold replace
    cases hcut : cut pat s with
    | none => rfl
    | some parts =>
      rcases parts with ⟨before, after⟩
      rw [cut_eq_some hcut]
      simp only [List.getLast?_append, ih, hpat, hnew]

theorem mem_of_mem_replace {c : α} (h : c ∈ replace pat new fuel s) : c ∈ new ∨ c ∈ s := by
  induction fuel generalizing s with
  | zero => exact .inr h
  | succ fuel ih =>
    unfold replace at h
    cases hcut : cut pat s with
    | none =>
      rw [hcut] at h
      exact .inr h
    | some parts =>
      rcases parts with ⟨before, after⟩
      rw [hcut] at h
      rw [cut_eq_some hcut]
      rcases List.mem_append.mp h with h | h
      · rcases List.mem_append.mp h with h | h
        · exact .inr (List.mem_append_left _ (List.mem_append_left _ h))
        · exact .inl h
      · exact (ih h).imp_right (List.mem_append_right _)

theorem mem_replace {c : α} (hc : c ∉ pat) (h : c ∈ s) : c ∈ replace pat new fuel s := by
  induction fuel generalizing s with
  | zero => exact h
  | succ fuel ih =>
    unfold replace
    cases hcut : cut pat s with
    | none => exact h
    | some parts =>
      rcases parts with ⟨before, after⟩
      rw [cut_eq_some hcut] at h
      rcases List.mem_append.mp h with h | h
      · rcases List.mem_append.mp h with h | h
        · exact List.mem_append_left _ (List.mem_append_left _ h)
        · exact absurd h hc
      · exact List.mem_append_right _ (ih h)

theorem not_mem_replace_single (hnew : p ∉ new) (hfuel : s.length ≤ fuel) :
    p ∉ replace [p] new fuel s := by
  induction fuel generalizing s with
  | zero =>
    have hs : s = [] := List.length_eq_zero_iff.mp (Nat.le_zero.mp hfuel)
    rw [hs]
    exact List.not_mem_nil
  | succ fuel ih =>
    unfold replace
    cases hcut : cut [p] s with
    | none =>
      intro h
      exact cut_eq_none.mp hcut ((List.singleton_infix_iff p s).mpr h)
    | some parts =>
      rcases parts with ⟨before, after⟩
      have hpat : [p] ≠ [] := List.cons_ne_nil p []
      have hlength := cut_length hpat hcut
      intro h
      rcases List.mem_append.mp h with h | h
      · rcases List.mem_append.mp h with h | h
        · exact cut_before hpat hcut ((List.singleton_infix_iff p before).mpr h)
        · exact hnew h
      · exact ih (by omega) h

end Replacing

section Stripping

variable {α : Type} {space : α -> Bool} {s : List α}

/-- A text without the spaces at its ends. -/
def strip (space : α -> Bool) (s : List α) : List α :=
  (s.dropWhile space).rdropWhile space

def Stripped (space : α -> Bool) (s : List α) : Prop :=
  (forall c, s.head? = some c -> space c = false) ∧ forall c, s.getLast? = some c -> space c = false

theorem strip_part (s : List α) : strip space s <:+: s :=
  (List.rdropWhile_prefix space (s.dropWhile space)).isInfix.trans
    (List.dropWhile_suffix space).isInfix

theorem strip_stripped (s : List α) : Stripped space (strip space s) := by
  constructor
  · intro c hc
    rcases List.rdropWhile_prefix space (s.dropWhile space) with ⟨rest, hrest⟩
    have hhead : (s.dropWhile space).head? = some c := by
      rw [← hrest, List.head?_append]
      show (strip space s).head?.or _ = some c
      rw [hc]
      rfl
    have hnot := List.head?_dropWhile_not space s
    rw [hhead] at hnot
    simpa using hnot
  · intro c hc
    have hne : (s.dropWhile space).rdropWhile space ≠ [] := by
      intro hnil
      unfold strip at hc
      rw [hnil] at hc
      cases hc
    have hnot := List.rdropWhile_last_not space (s.dropWhile space) hne
    have heq : ((s.dropWhile space).rdropWhile space).getLast hne = c := by
      unfold strip at hc
      rw [List.getLast?_eq_some_getLast hne] at hc
      exact Option.some.inj hc
    rw [heq] at hnot
    simpa using hnot

theorem Stripped.strip_eq (h : Stripped space s) : strip space s = s := by
  have hdrop : s.dropWhile space = s := by
    cases s with
    | nil => rfl
    | cons c rest => exact List.dropWhile_cons_of_neg (by simp [h.left c rfl])
  unfold strip
  rw [hdrop, List.rdropWhile_eq_self_iff]
  intro hne hlast
  have hnot := h.right _ (List.getLast?_eq_some_getLast hne)
  rw [hnot] at hlast
  cases hlast

theorem strip_idem (s : List α) : strip space (strip space s) = strip space s :=
  (strip_stripped s).strip_eq

theorem strip_cons_space {c : α} (hc : space c = true) (s : List α) :
    strip space (c :: s) = strip space s := by
  unfold strip
  rw [List.dropWhile_cons_of_pos hc]

theorem strip_cons {c : α} (hc : space c = false) (s : List α) :
    exists t, strip space (c :: s) = c :: t := by
  have hnot : ¬ space c = true := by simp [hc]
  have hne : strip space (c :: s) ≠ [] := by
    unfold strip
    rw [List.dropWhile_cons_of_neg hnot]
    intro hnil
    exact hnot (List.rdropWhile_eq_nil_iff.mp hnil c List.mem_cons_self)
  rcases List.exists_cons_of_ne_nil hne with ⟨d, t, ht⟩
  have hprefix : strip space (c :: s) <+: c :: s := by
    unfold strip
    rw [List.dropWhile_cons_of_neg hnot]
    exact List.rdropWhile_prefix space (c :: s)
  rw [ht] at hprefix
  refine ⟨t, ?_⟩
  rw [ht, (List.cons_prefix_cons.mp hprefix).left]

theorem strip_ne_nil {c : α} (hmem : c ∈ s) (hc : space c = false) : strip space s ≠ [] := by
  intro hnil
  have hall := List.rdropWhile_eq_nil_iff.mp hnil
  have hdrop : s.dropWhile space = [] := by
    cases hd : s.dropWhile space with
    | nil => rfl
    | cons d rest =>
      have hnot := List.head?_dropWhile_not space s
      rw [hd] at hnot
      have hspace := hall d (by rw [hd]; exact List.mem_cons_self)
      simp [hspace] at hnot
  have hspaces := List.dropWhile_eq_nil_iff.mp hdrop c hmem
  rw [hc] at hspaces
  cases hspaces

theorem exists_of_strip_ne_nil (h : strip space s ≠ []) : exists c, c ∈ strip space s ∧
    space c = false := by
  rcases List.exists_cons_of_ne_nil h with ⟨c, t, ht⟩
  refine ⟨c, by rw [ht]; exact List.mem_cons_self, ?_⟩
  exact (strip_stripped s).left c (by rw [ht]; rfl)

end Stripping

section Lines

/-- White space as `isspace` knows it. -/
def isSpace (c : Char) : Bool :=
  let n := c.toNat
  (9 ≤ n && n ≤ 13) || (28 ≤ n && n ≤ 32) || n == 0x85 || n == 0xA0 || n == 0x1680 ||
    (0x2000 ≤ n && n ≤ 0x200A) || n == 0x2028 || n == 0x2029 || n == 0x202F ||
    n == 0x205F || n == 0x3000

/-- The characters at which `splitlines` ends a line. -/
def isBoundary (c : Char) : Bool :=
  let n := c.toNat
  (10 ≤ n && n ≤ 13) || (28 ≤ n && n ≤ 30) || n == 0x85 || n == 0x2028 || n == 0x2029

def splitLines : List Char -> List (List Char)
  | [] => []
  | '\r' :: '\n' :: s => [] :: splitLines s
  | c :: s =>
    if isBoundary c then [] :: splitLines s
    else
      match splitLines s with
      | [] => [[c]]
      | line :: lines => (c :: line) :: lines

def joinLines (lines : List (List Char)) : List Char :=
  ['\n'].intercalate lines

/-- A text as text mode reads it: every line break is a newline. -/
def universalNewlines : List Char -> List Char
  | [] => []
  | '\r' :: '\n' :: s => '\n' :: universalNewlines s
  | c :: s => (if c = '\r' then '\n' else c) :: universalNewlines s

variable {s a b l pat : List Char} {lines : List (List Char)}
variable {c : Char}

theorem splitLines_cons (hc : isBoundary c = false) (s : List Char) : splitLines (c :: s) =
      match splitLines s with
      | [] => [[c]]
      | line :: lines => (c :: line) :: lines := by
  have hr : c ≠ '\r' := by
    rintro rfl
    cases hc
  rw [splitLines, if_neg (by simp [hc])]
  intro rest h
  exact absurd h hr

theorem isSpace_of_isBoundary (h : isBoundary c = true) : isSpace c = true := by
  unfold isBoundary at h
  unfold isSpace
  simp only [Bool.or_eq_true, Bool.and_eq_true, decide_eq_true_eq, beq_iff_eq] at h ⊢
  omega

theorem Stripped.last (h : Stripped isSpace s) :
    forall c, s.getLast? = some c -> isBoundary c = false := by
  intro c hc
  cases hboundary : isBoundary c with
  | false => rfl
  | true =>
    have hspace := isSpace_of_isBoundary hboundary
    rw [h.right c hc] at hspace
    cases hspace

theorem universalNewlines_cons (hc : c ≠ '\r') (s : List Char) :
    universalNewlines (c :: s) = c :: universalNewlines s := by
  rw [universalNewlines, if_neg hc]
  intro rest h
  exact absurd h hc

theorem universalNewlines_eq_self (h : '\r' ∉ s) : universalNewlines s = s := by
  induction s with
  | nil => rfl
  | cons c s ih =>
    have hc : c ≠ '\r' := fun heq => h (heq ▸ List.mem_cons_self)
    rw [universalNewlines_cons hc, ih (fun hmem => h (List.mem_cons_of_mem c hmem))]

theorem not_mem_universalNewlines (s : List Char) : '\r' ∉ universalNewlines s := by
  fun_induction universalNewlines s with
  | case1 => exact List.not_mem_nil
  | case2 s ih =>
    intro h
    rcases List.mem_cons.mp h with h | h
    · exact absurd h (by decide)
    · exact ih h
  | case3 c s _ ih =>
    intro h
    rcases List.mem_cons.mp h with h | h
    · by_cases hc : c = '\r'
      · rw [if_pos hc] at h
        exact absurd h (by decide)
      · rw [if_neg hc] at h
        exact hc h.symm
    · exact ih h

theorem prefix_of_prefix_universalNewlines (hn : '\n' ∉ pat)
    (h : pat <+: universalNewlines s) : pat <+: s := by
  fun_induction universalNewlines s generalizing pat with
  | case1 => exact h
  | case2 s _ =>
    cases pat with
    | nil => exact List.nil_prefix
    | cons d rest =>
      have hd : d = '\n' := (List.cons_prefix_cons.mp h).left
      exact absurd (hd ▸ List.mem_cons_self) hn
  | case3 c s _ ih =>
    cases pat with
    | nil => exact List.nil_prefix
    | cons d rest =>
      rcases List.cons_prefix_cons.mp h with ⟨hd, hrest⟩
      have hrest' := ih (fun hmem => hn (List.mem_cons_of_mem d hmem)) hrest
      by_cases hc : c = '\r'
      · rw [if_pos hc] at hd
        exact absurd hd (fun heq => hn (heq ▸ List.mem_cons_self))
      · rw [if_neg hc] at hd
        exact List.cons_prefix_cons.mpr ⟨hd, hrest'⟩

theorem infix_of_infix_universalNewlines (hn : '\n' ∉ pat)
    (h : pat <:+: universalNewlines s) : pat <:+: s := by
  fun_induction universalNewlines s with
  | case1 => exact h
  | case2 s ih =>
    rcases List.infix_cons_iff.mp h with hprefix | hinside
    · cases pat with
      | nil => exact List.nil_infix
      | cons d rest =>
        have hd : d = '\n' := (List.cons_prefix_cons.mp hprefix).left
        exact absurd (hd ▸ List.mem_cons_self) hn
    · exact List.infix_cons (List.infix_cons (ih hinside))
  | case3 c s hcr ih =>
    rcases List.infix_cons_iff.mp h with hprefix | hinside
    · have hread : pat <+: universalNewlines (c :: s) := by
        rw [universalNewlines]
        · exact hprefix
        · exact hcr
      exact (prefix_of_prefix_universalNewlines hn hread).isInfix
    · exact List.infix_cons (ih hinside)

/-- A line that meets no boundary is read as far as the next one. -/
theorem splitLines_append_newline (hl : forall c, c ∈ l -> isBoundary c = false)
    (s : List Char) : splitLines (l ++ '\n' :: s) = l :: splitLines s := by
  induction l with
  | nil =>
    show splitLines ('\n' :: s) = [] :: splitLines s
    rw [splitLines, if_pos (by decide)]
    intro rest h
    cases h
  | cons c l ih =>
    show splitLines (c :: (l ++ '\n' :: s)) = (c :: l) :: splitLines s
    rw [splitLines_cons (hl c List.mem_cons_self),
      ih (fun d hd => hl d (List.mem_cons_of_mem c hd))]

theorem splitLines_eq_nil : splitLines s = [] ↔ s = [] := by
  constructor
  · intro h
    fun_induction splitLines s with
    | case1 => rfl
    | case2 => cases h
    | case3 => cases h
    | case4 => cases h
    | case5 => cases h
  · rintro rfl
    rfl

theorem last_of_cons {P : Char -> Prop}
    (h : forall d, (c :: s).getLast? = some d -> P d) : forall d, s.getLast? = some d -> P d := by
  intro d hd
  apply h d
  rw [List.getLast?_cons, hd]
  rfl

/-- Two texts joined by a newline split into the lines of each, when the first does
not end in a boundary. -/
theorem splitLines_newline (hne : a ≠ [])
    (hlast : forall c, a.getLast? = some c -> isBoundary c = false) (b : List Char) :
    splitLines (a ++ '\n' :: b) = splitLines a ++ splitLines b := by
  fun_induction splitLines a with
  | case1 => exact absurd rfl hne
  | case2 s ih =>
    have hs : s ≠ [] := by
      rintro rfl
      exact absurd (hlast '\n' rfl) (by decide)
    have htail : forall c, ('\n' :: s).getLast? = some c -> isBoundary c = false :=
      last_of_cons hlast
    show splitLines ('\r' :: '\n' :: (s ++ '\n' :: b)) = _
    rw [splitLines, ih hs (last_of_cons htail)]
    rfl
  | case3 c s hcr hc ih =>
    have hs : s ≠ [] := by
      rintro rfl
      rw [hlast c rfl] at hc
      cases hc
    have hstart : forall rest, c = '\r' -> s ++ '\n' :: b = '\n' :: rest -> False := by
      intro rest hr hrest
      cases s with
      | nil => exact hs rfl
      | cons d s =>
        cases hrest
        exact hcr s hr rfl
    show splitLines (c :: (s ++ '\n' :: b)) = _
    rw [splitLines.eq_3 _ _ hstart, if_pos hc, ih hs (last_of_cons hlast)]
    rfl
  | case4 c s _ hc hnil _ =>
    have hs : s = [] := splitLines_eq_nil.mp hnil
    have hc' : isBoundary c = false := by simpa using hc
    rw [hs]
    exact splitLines_append_newline (by simpa using hc') b
  | case5 c s hcr hc line lines hlines ih =>
    have hs : s ≠ [] := by
      rintro rfl
      cases hlines
    have hc' : isBoundary c = false := by simpa using hc
    show splitLines (c :: (s ++ '\n' :: b)) = _
    rw [splitLines_cons hc', ih hs (last_of_cons hlast), hlines]
    rfl

theorem splitLines_boundary (h : l ∈ splitLines s) : forall c, c ∈ l -> isBoundary c = false := by
  fun_induction splitLines s generalizing l with
  | case1 => cases h
  | case2 s ih =>
    rcases List.mem_cons.mp h with rfl | h
    · intro c hc
      cases hc
    · exact ih h
  | case3 c s _ _ ih =>
    rcases List.mem_cons.mp h with rfl | h
    · intro c hc
      cases hc
    · exact ih h
  | case4 c s _ hc hnil ih =>
    rw [List.mem_singleton.mp h]
    intro d hd
    rw [List.mem_singleton.mp hd]
    simpa using hc
  | case5 c s _ hc line lines hlines ih =>
    rw [hlines] at ih
    rcases List.mem_cons.mp h with rfl | h
    · intro d hd
      rcases List.mem_cons.mp hd with rfl | hd
      · simpa using hc
      · exact ih List.mem_cons_self d hd
    · exact ih (List.mem_cons_of_mem line h)

theorem splitLines_head_prefix (h : splitLines s = l :: lines) : l <+: s := by
  fun_induction splitLines s generalizing l lines with
  | case1 => cases h
  | case2 s ih =>
    cases h
    exact List.nil_prefix
  | case3 c s _ _ ih =>
    cases h
    exact List.nil_prefix
  | case4 c s _ _ hnil ih =>
    cases h
    exact List.cons_prefix_cons.mpr ⟨rfl, List.nil_prefix⟩
  | case5 c s _ _ line rest hlines ih =>
    cases h
    exact List.cons_prefix_cons.mpr ⟨rfl, ih hlines⟩

theorem splitLines_part (h : l ∈ splitLines s) : l <:+: s := by
  fun_induction splitLines s generalizing l with
  | case1 => cases h
  | case2 s ih =>
    rcases List.mem_cons.mp h with rfl | h
    · exact List.nil_infix
    · exact List.infix_cons (List.infix_cons (ih h))
  | case3 c s _ _ ih =>
    rcases List.mem_cons.mp h with rfl | h
    · exact List.nil_infix
    · exact List.infix_cons (ih h)
  | case4 c s _ _ hnil ih =>
    rw [List.mem_singleton.mp h]
    exact (List.cons_prefix_cons.mpr ⟨rfl, List.nil_prefix⟩).isInfix
  | case5 c s _ _ line lines hlines ih =>
    rw [hlines] at ih
    rcases List.mem_cons.mp h with rfl | h
    · exact (List.cons_prefix_cons.mpr ⟨rfl, splitLines_head_prefix hlines⟩).isInfix
    · exact List.infix_cons (ih (List.mem_cons_of_mem line h))

theorem joinLines_cons (l : List Char) (hne : lines ≠ []) :
    joinLines (l :: lines) = l ++ '\n' :: joinLines lines := by
  unfold joinLines
  rw [List.intercalate_cons_of_ne_nil hne, List.append_assoc]
  rfl

theorem infix_joinLines (h : l ∈ lines) : l <:+: joinLines lines := by
  induction lines with
  | nil => cases h
  | cons m lines ih =>
    by_cases hne : lines = []
    · rw [hne] at h ⊢
      rw [List.mem_singleton.mp h]
      unfold joinLines
      exact List.intercalate_singleton ▸ List.infix_rfl
    · rw [joinLines_cons m hne]
      rcases List.mem_cons.mp h with rfl | h
      · exact List.infix_append_left
      · exact List.infix_append_of_infix_right (List.infix_cons (ih h))

/-- A pattern without a newline is found in one of the joined lines. -/
theorem exists_infix_of_infix_joinLines (hn : '\n' ∉ pat) (hpat : pat ≠ [])
    (h : pat <:+: joinLines lines) : exists l, l ∈ lines ∧ pat <:+: l := by
  induction lines with
  | nil => exact absurd (List.infix_nil.mp h) hpat
  | cons m lines ih =>
    by_cases hne : lines = []
    · rw [hne] at h ⊢
      unfold joinLines at h
      rw [List.intercalate_singleton] at h
      exact ⟨m, List.mem_singleton.mpr rfl, h⟩
    · rw [joinLines_cons m hne] at h
      rcases (infix_append_cons hn).mp h with hm | hrest
      · exact ⟨m, List.mem_cons_self, hm⟩
      · rcases ih hrest with ⟨l, hl, hinside⟩
        exact ⟨l, List.mem_cons_of_mem m hl, hinside⟩

theorem mem_joinLines (h : c ∈ joinLines lines) : c = '\n' ∨ exists l, l ∈ lines ∧ c ∈ l := by
  by_cases hc : c = '\n'
  · exact .inl hc
  · have hn : '\n' ∉ [c] := fun hmem => hc (List.mem_singleton.mp hmem).symm
    rcases exists_infix_of_infix_joinLines hn (List.cons_ne_nil c [])
      ((List.singleton_infix_iff c _).mpr h) with ⟨l, hl, hinside⟩
    exact .inr ⟨l, hl, (List.singleton_infix_iff c l).mp hinside⟩

theorem joinLines_splitLines (hboundary : forall c, c ∈ s -> isBoundary c = true -> c = '\n')
    (hlast : forall c, s.getLast? = some c -> isBoundary c = false) :
    joinLines (splitLines s) = s := by
  fun_induction splitLines s with
  | case1 => rfl
  | case2 s _ => exact absurd (hboundary '\r' List.mem_cons_self (by decide)) (by decide)
  | case3 c s _ hc ih =>
    have hs : s ≠ [] := by
      rintro rfl
      rw [hlast c rfl] at hc
      cases hc
    have hlines : splitLines s ≠ [] := fun h => hs (splitLines_eq_nil.mp h)
    rw [joinLines_cons [] hlines, hboundary c List.mem_cons_self hc,
      ih (fun d hd => hboundary d (List.mem_cons_of_mem c hd)) (last_of_cons hlast)]
    rfl
  | case4 c s _ _ hnil _ =>
    rw [splitLines_eq_nil.mp hnil]
    rfl
  | case5 c s _ _ line lines hlines ih =>
    have hs : s ≠ [] := by
      rintro rfl
      cases hlines
    have hjoin := ih (fun d hd => hboundary d (List.mem_cons_of_mem c hd)) (last_of_cons hlast)
    rw [hlines] at hjoin
    by_cases hne : lines = []
    · rw [hne] at hjoin ⊢
      unfold joinLines at hjoin ⊢
      rw [List.intercalate_singleton] at hjoin ⊢
      rw [hjoin]
    · rw [joinLines_cons line hne] at hjoin
      rw [joinLines_cons (c :: line) hne]
      show c :: (line ++ '\n' :: joinLines lines) = c :: s
      rw [hjoin]

/-- The characters of some lines, each with its newline. -/
def linesLength (lines : List (List Char)) : Nat :=
  (lines.map fun l => l.length + 1).sum

@[simp] theorem linesLength_cons (l : List Char) (lines : List (List Char)) :
    linesLength (l :: lines) = l.length + 1 + linesLength lines := rfl

@[simp] theorem linesLength_append (before after : List (List Char)) :
    linesLength (before ++ after) = linesLength before + linesLength after := by
  unfold linesLength
  rw [List.map_append, List.sum_append]

theorem joinLines_length (lines : List (List Char)) :
    (joinLines lines).length ≤ linesLength lines := by
  induction lines with
  | nil => exact Nat.le_refl 0
  | cons l lines ih =>
    by_cases hne : lines = []
    · rw [hne]
      unfold joinLines linesLength
      simp
    · rw [joinLines_cons l hne, List.length_append, List.length_cons]
      unfold linesLength at ih ⊢
      rw [List.map_cons, List.sum_cons]
      omega

theorem splitLines_length (s : List Char) : linesLength (splitLines s) ≤ s.length + 1 := by
  fun_induction splitLines s with
  | case1 => exact Nat.zero_le _
  | case2 s ih =>
    unfold linesLength at ih ⊢
    rw [List.map_cons, List.sum_cons]
    simp only [List.length_nil, List.length_cons]
    omega
  | case3 c s _ _ ih =>
    unfold linesLength at ih ⊢
    rw [List.map_cons, List.sum_cons]
    simp only [List.length_nil, List.length_cons]
    omega
  | case4 c s _ _ hnil _ =>
    unfold linesLength
    simp
  | case5 c s _ _ line lines hlines ih =>
    rw [hlines] at ih
    unfold linesLength at ih ⊢
    rw [List.map_cons, List.sum_cons] at ih ⊢
    simp only [List.length_cons] at ih ⊢
    omega

end Lines
end Text
end Foundation
end Oompah
