import Oompah.EpicProposals.Comment
import Oompah.EpicProposals.Titles

/-!
# Reading the list of children back

A bold item is read up to the first two stars behind its first character.  A title is
read back whole when there are none before its end.
-/

namespace Oompah
namespace EpicProposals

open Foundation TerminalAudit

/-!
# Two stars
-/

/-- The text up to the first two stars. -/
def untilStars : List Char -> List Char
  | [] => []
  | [c] => [c]
  | c :: d :: rest => if c = '*' ∧ d = '*' then [] else c :: untilStars (d :: rest)

/-- A text with two stars behind it has a first character, and a rest behind it. -/
theorem cons_of_stars (s : List Char) : exists d rest, s ++ ['*', '*'] = d :: rest ∧
    s ++ ['*'] = d :: rest.dropLast := by
  cases s with
  | nil => exact ⟨'*', ['*'], rfl, rfl⟩
  | cons d s =>
    refine ⟨d, s ++ ['*', '*'], rfl, ?_⟩
    rw [List.cons_append, List.dropLast_append_of_ne_nil (List.cons_ne_nil _ _)]
    rfl

theorem untilStars_spec (s : List Char) :
    exists rest, s ++ ['*', '*'] = untilStars (s ++ ['*', '*']) ++ ['*', '*'] ++ rest := by
  induction s with
  | nil => exact ⟨[], rfl⟩
  | cons c s ih =>
    rcases cons_of_stars s with ⟨d, more, hmore, -⟩
    rw [List.cons_append, hmore]
    unfold untilStars
    split
    · rename_i hstars
      rcases hstars with ⟨rfl, rfl⟩
      exact ⟨more, rfl⟩
    · rcases ih with ⟨rest, hrest⟩
      rw [hmore] at hrest
      exact ⟨rest, congrArg (c :: ·) hrest⟩

/-- No two stars start inside the text that is read. -/
theorem untilStars_inner {s front tail : List Char}
    (h : untilStars (s ++ ['*', '*']) = front ++ tail) (htail : tail ≠ []) (more : List Char) :
    ¬ ['*', '*'] <+: tail ++ '*' :: '*' :: more := by
  induction s generalizing front with
  | nil =>
    have hnil : front ++ tail = [] := h.symm
    exact absurd (List.append_eq_nil_iff.mp hnil).right htail
  | cons c s ih =>
    rcases cons_of_stars s with ⟨d, rest, hrest, -⟩
    rw [List.cons_append, hrest] at h
    unfold untilStars at h
    split at h
    · exact absurd (List.append_eq_nil_iff.mp h.symm).right htail
    · rename_i hstars
      cases front with
      | cons e front =>
        rw [List.cons_append, ← hrest] at h
        exact ih (List.cons.inj h).right
      | nil =>
        rw [List.nil_append] at h
        rw [← h]
        intro hprefix
        rw [List.cons_append, List.cons_prefix_cons] at hprefix
        rcases hprefix with ⟨hc, hnext⟩
        apply hstars
        refine ⟨hc.symm, ?_⟩
        -- the character behind the first is the one that follows it in the text
        rcases untilStars_spec s with ⟨rest', hspec⟩
        rw [hrest] at hspec
        rcases hnext with ⟨after, hafter⟩
        cases huntil : untilStars (d :: rest) with
        | nil =>
          rw [huntil] at hspec
          exact (List.cons.inj hspec).left
        | cons e tail' =>
          rw [huntil] at hspec hafter
          have hde : d = e := (List.cons.inj hspec).left
          have he : '*' = e := (List.cons.inj hafter).left
          rw [hde, ← he]

theorem untilStars_eq_iff (s : List Char) :
    untilStars (s ++ ['*', '*']) = s ↔ ¬ ['*', '*'] <:+: s ++ ['*'] := by
  induction s with
  | nil =>
    have hshort : ¬ ['*', '*'] <:+: ([] ++ ['*'] : List Char) := by
      intro h
      exact absurd h.length_le (by decide)
    exact ⟨fun _ => hshort, fun _ => rfl⟩
  | cons c s ih =>
    rcases cons_of_stars s with ⟨d, rest, hrest, hone⟩
    rw [List.cons_append, hrest, List.cons_append, List.infix_cons_iff]
    unfold untilStars
    split
    · rename_i hstars
      rcases hstars with ⟨rfl, rfl⟩
      constructor
      · intro h
        cases h
      · intro h
        apply absurd _ h
        left
        rw [hone]
        exact ⟨rest.dropLast, rfl⟩
    · rename_i hstars
      have hprefix : ¬ ['*', '*'] <+: c :: (s ++ ['*']) := by
        rw [hone]
        intro h
        rcases List.cons_prefix_cons.mp h with ⟨hc, htail⟩
        exact hstars ⟨hc.symm, (List.cons_prefix_cons.mp htail).left.symm⟩
      rw [← hrest]
      constructor
      · intro h hor
        rcases hor with hfirst | hlater
        · exact hprefix hfirst
        · exact ih.mp (List.cons.inj h).right hlater
      · intro h
        rw [ih.mpr fun hlater => h (.inr hlater)]

/-- A title as far as it is read back. -/
def boldTitle : List Char -> List Char
  | [] => []
  | c :: rest => c :: untilStars (rest ++ ['*', '*'])

/-- Two stars come behind the first character of a title, or end it. -/
def EarlyStars (title : List Char) : Prop :=
  ['*', '*'] <:+: title.tail ++ ['*']

instance (title : List Char) : Decidable (EarlyStars title) :=
  inferInstanceAs (Decidable (['*', '*'] <:+: title.tail ++ ['*']))

theorem boldTitle_eq_iff (title : List Char) : boldTitle title = title ↔ ¬ EarlyStars title := by
  cases title with
  | nil =>
    constructor
    · intro _ h
      exact absurd h.length_le (by decide)
    · exact fun _ => rfl
  | cons c rest =>
    unfold boldTitle EarlyStars
    rw [List.tail_cons, ← untilStars_eq_iff]
    constructor
    · exact fun h => (List.cons.inj h).right
    · exact fun h => congrArg (c :: ·) h

theorem boldTitle_isPrefix (title : List Char) : boldTitle title <+: title := by
  cases title with
  | nil => exact List.prefix_refl _
  | cons c rest =>
    unfold boldTitle
    rw [List.cons_prefix_cons]
    refine ⟨rfl, ?_⟩
    rcases untilStars_spec rest with ⟨more, hmore⟩
    have hprefix : untilStars (rest ++ ['*', '*']) <+: rest ++ ['*', '*'] := by
      rw [List.append_assoc] at hmore
      exact ⟨_, hmore.symm⟩
    have hlength := congrArg List.length hmore
    simp only [List.length_append, List.length_cons, List.length_nil] at hlength
    exact List.prefix_of_prefix_length_le hprefix (List.prefix_append _ _) (by omega)

/-!
# Ways to match the parts of an item
-/

section Ways

variable {word : Char -> Bool} {before : Option Char} {rest : List Char}

theorem one_accepted {accepts : Char -> Bool} {c : Char} (h : accepts c = true) :
    (Pattern.one accepts).ends word ⟨before, c :: rest⟩ = [⟨some c, rest⟩] :=
  if_pos h

theorem one_rejected {accepts : Char -> Bool} {c : Char} (h : accepts c = false) :
    (Pattern.one accepts).ends word ⟨before, c :: rest⟩ = [] :=
  if_neg (by rw [h]; exact Bool.false_ne_true)

theorem seq_ends {first second : Pattern Char} {p q : Place Char}
    (h : first.ends word p = [q]) : (Pattern.seq first second).ends word p =
      second.ends word q := by
  show (first.ends word p).flatMap (second.ends word) = _
  rw [h, List.flatMap_cons, List.flatMap_nil, List.append_nil]

theorem seq_ends_nil {first second : Pattern Char} {p : Place Char}
    (h : first.ends word p = []) : (Pattern.seq first second).ends word p = [] := by
  show (first.ends word p).flatMap (second.ends word) = _
  rw [h, List.flatMap_nil]

theorem stars_ends : stars.ends word ⟨before, '*' :: '*' :: rest⟩ = [⟨some '*', rest⟩] :=
  rfl

theorem stars_ends_nil {s : List Char} (h : ¬ ['*', '*'] <+: s) :
    stars.ends word ⟨before, s⟩ = [] := by
  unfold stars exactly
  cases s with
  | nil => rfl
  | cons c s =>
    by_cases hc : c = '*'
    · subst hc
      rw [seq_ends (one_accepted rfl)]
      cases s with
      | nil => rfl
      | cons d s =>
        apply one_rejected
        rw [decide_eq_false_iff_not]
        rintro rfl
        exact h ⟨s, rfl⟩
    · exact seq_ends_nil (one_rejected (decide_eq_false hc))

end Ways

section Items

variable (t : Tables)

theorem decimal_digits (n : Nat) : forall c, c ∈ decimal n -> t.isDigit c = true := by
  intro c hc
  have hdigit : c.isDigit = true := Nat.isDigit_of_mem_toDigits (by decide) (by decide) hc
  have hhigh : c.toNat ≤ 57 := by
    have := (Bool.and_eq_true _ _).mp hdigit
    exact UInt32.le_iff_toNat_le.mp (of_decide_eq_true this.right)
  rw [t.digit_ascii c (by omega)]
  exact hdigit

theorem decimal_ne_nil (n : Nat) : decimal n ≠ [] :=
  Nat.toDigits_ne_nil

theorem not_digit {c : Char} (hascii : c.toNat < 128) (hc : c.isDigit = false) :
    t.isDigit c = false := by
  rw [t.digit_ascii c hascii]
  exact hc

theorem numbered_ends (word : Char -> Bool) (before : Option Char) (n : Nat) (rest : List Char) :
    (Pattern.alt (numbered t) dash).ends word ⟨before, decimal n ++ '.' :: rest⟩ =
      [⟨some '.', rest⟩] := by
  rcases List.exists_cons_of_ne_nil (decimal_ne_nil n) with ⟨first, others, hdecimal⟩
  have hdigits := decimal_digits t n
  rw [hdecimal] at hdigits ⊢
  have hfirst := hdigits first List.mem_cons_self
  have hdash : dash.ends word ⟨before, first :: others ++ '.' :: rest⟩ = [] := by
    apply one_rejected
    rw [Bool.or_eq_false_iff, decide_eq_false_iff_not, decide_eq_false_iff_not]
    have hminus := not_digit t (c := '-') (by decide) (by decide)
    have hstar := not_digit t (c := '*') (by decide) (by decide)
    constructor
    · rintro rfl
      rw [hminus] at hfirst
      cases hfirst
    · rintro rfl
      rw [hstar] at hfirst
      cases hfirst
  have hnumber : (numbered t).ends word ⟨before, first :: others ++ '.' :: rest⟩ =
      [⟨some '.', rest⟩] := by
    show (Pattern.seq (.one t.isDigit) _).ends word _ = _
    rw [List.cons_append, seq_ends (one_accepted hfirst)]
    show (Pattern.greedy t.isDigit (some first) (others ++ '.' :: rest)).flatMap _ = _
    rw [Matcher.greedy_then]
    · rfl
    · intro b c more hc
      apply seq_ends_nil
      apply one_rejected
      rw [Bool.or_eq_false_iff, decide_eq_false_iff_not, decide_eq_false_iff_not]
      have hdot := not_digit t (c := '.') (by decide) (by decide)
      have hclose := not_digit t (c := ')') (by decide) (by decide)
      constructor
      · rintro rfl
        rw [hdot] at hc
        cases hc
      · rintro rfl
        rw [hclose] at hc
        cases hc
    · exact fun c hc => hdigits c (List.mem_cons_of_mem _ hc)
    · exact not_digit t (by decide) (by decide)
  show _ ++ _ = _
  rw [hnumber, hdash, List.append_nil]

theorem marker_ends_nil {c : Char} (hdigit : t.isDigit c = false) (hminus : c ≠ '-')
    (hstar : c ≠ '*') (word : Char -> Bool) (before : Option Char) (rest : List Char) :
    (Pattern.alt (numbered t) dash).ends word ⟨before, c :: rest⟩ = [] := by
  have hnumber : (numbered t).ends word ⟨before, c :: rest⟩ = [] :=
    seq_ends_nil (one_rejected hdigit)
  have hdash : dash.ends word ⟨before, c :: rest⟩ = [] := by
    apply one_rejected
    rw [decide_eq_false hminus, decide_eq_false hstar]
    rfl
  show _ ++ _ = _
  rw [hnumber, hdash]
  rfl

/-- What opens a bold item, behind its line start. -/
def itemOpening : Pattern Char :=
  Pattern.all [.many Text.isSpace, .alt (numbered t) dash, spaces, stars]

theorem marker_not_space {c : Char} (hc : Text.isSpace c = true) (word : Char -> Bool)
    (before : Option Char) (rest : List Char) :
    (Pattern.alt (numbered t) dash).ends word ⟨before, c :: rest⟩ = [] := by
  apply marker_ends_nil
  · by_contra hdigit
    have := t.digit_ink c (by simpa using hdigit)
    rw [hc] at this
    cases this
  · rintro rfl
    cases hc
  · rintro rfl
    cases hc

theorem itemOpening_spaces {blank rest : List Char}
    (hblank : forall c, c ∈ blank -> Text.isSpace c = true)
    (hrest : rest.head?.any Text.isSpace = false) (word : Char -> Bool)
    (before : Option Char) :
    (itemOpening t).ends word ⟨before, blank ++ rest⟩ =
      (Pattern.all [.alt (numbered t) dash, spaces, stars]).ends word
        ⟨blank.getLast?.or before, rest⟩ := by
  show (Pattern.greedy Text.isSpace before (blank ++ rest)).flatMap _ = _
  apply Matcher.greedy_then
  · intro b c more hc
    exact seq_ends_nil (marker_not_space t hc word b more)
  · exact hblank
  · exact hrest

def AtLineStart (before : Option Char) : Prop :=
  before = none ∨ before = some '\n'

variable {before : Option Char}

theorem lineOpening_eq {r : Pattern Char} (h : AtLineStart before)
    (s : List Char) : lineOpening t r ⟨before, s⟩ = r.ends t.isWord ⟨before, s⟩ := by
  have hstart : Matcher.lineStart '\n' ⟨before, s⟩ = [⟨before, s⟩] := if_pos h
  unfold lineOpening Matcher.andThen Matcher.ofPattern
  rw [hstart, List.flatMap_cons, List.flatMap_nil, List.append_nil]

theorem boldItemRe_atLineStarts : Matcher.AtLineStarts '\n' (boldItemRe t) := by
  intro c rest hc
  unfold boldItemRe Matcher.capture? Matcher.captures lineOpening Matcher.andThen Matcher.lineStart
  rw [if_neg]
  · rfl
  · rintro (h | h)
    · cases h
    · exact hc (Option.some.inj h)

/-- Nothing is listed where no marker follows the white space. -/
theorem boldItemRe_none (hbefore : AtLineStart before)
    {blank rest : List Char} (hblank : forall c, c ∈ blank -> Text.isSpace c = true)
    {c : Char} (hspace : Text.isSpace c = false) (hdigit : t.isDigit c = false)
    (hminus : c ≠ '-') (hstar : c ≠ '*') :
    boldItemRe t ⟨before, blank ++ c :: rest⟩ = none := by
  have hopening : lineOpening t (itemOpening t) ⟨before, blank ++ c :: rest⟩ = [] := by
    have hhead : (c :: rest).head?.any Text.isSpace = false := hspace
    rw [lineOpening_eq t hbefore, itemOpening_spaces t hblank hhead]
    exact seq_ends_nil (marker_ends_nil t hdigit hminus hstar _ _ _)
  show (((lineOpening t (itemOpening t) ⟨before, blank ++ c :: rest⟩).flatMap _).head?) = none
  rw [hopening]
  rfl

/-- The line of a child is read up to the first two stars of its title; the rest of the
line stays. -/
theorem boldItemRe_childLine (hbefore : AtLineStart before)
    {blank : List Char} (hblank : forall c, c ∈ blank -> Text.isSpace c = true) (n : Nat)
    {title : List Char} (htitle : title ≠ []) (hline : '\n' ∉ title) (more : List Char) :
    exists left, boldTitle title ++ ['*', '*'] ++ left = title ++ ['*', '*'] ∧ boldItemRe t
          ⟨before, blank ++ (decimal n ++ ". **".toList ++ title ++ "**".toList) ++ more⟩ =
        some ⟨boldTitle title, ⟨some '*', left ++ more⟩⟩ := by
  rcases List.exists_cons_of_ne_nil htitle with ⟨first, others, rfl⟩
  rcases untilStars_spec others with ⟨left, hleft⟩
  refine ⟨left, ?_, ?_⟩
  · show first :: untilStars (others ++ ['*', '*']) ++ ['*', '*'] ++ left = _
    rw [List.cons_append, List.cons_append, ← hleft]
    rfl
  have htext : blank ++ (decimal n ++ ". **".toList ++ (first :: others) ++ "**".toList) ++
      more = blank ++ (decimal n ++ '.' :: ' ' :: '*' :: '*' ::
        (first :: untilStars (others ++ ['*', '*']) ++ ('*' :: '*' :: (left ++ more)))) := by
    have hinner : others ++ '*' :: '*' :: more =
        untilStars (others ++ ['*', '*']) ++ '*' :: '*' :: (left ++ more) := by
      have := congrArg (· ++ more) hleft
      simpa using this
    simp [hinner]
  have hhead : (decimal n ++ '.' :: ' ' :: '*' :: '*' ::
      (first :: untilStars (others ++ ['*', '*']) ++ ('*' :: '*' :: (left ++ more)))).head?.any
        Text.isSpace = false := by
    rcases List.exists_cons_of_ne_nil (decimal_ne_nil n) with ⟨d, ds, hdecimal⟩
    have hdigit := decimal_digits t n d (by rw [hdecimal]; exact List.mem_cons_self)
    rw [hdecimal]
    exact t.digit_ink d hdigit
  have hopening : lineOpening t (itemOpening t) ⟨before, blank ++ (decimal n ++
      '.' :: ' ' :: '*' :: '*' :: (first :: untilStars (others ++ ['*', '*']) ++
        ('*' :: '*' :: (left ++ more))))⟩ =
      [⟨some '*', first :: untilStars (others ++ ['*', '*']) ++
        ('*' :: '*' :: (left ++ more))⟩] := by
    rw [lineOpening_eq t hbefore, itemOpening_spaces t hblank hhead]
    show (Pattern.seq (.alt (numbered t) dash) _).ends _ _ = _
    rw [seq_ends (numbered_ends t _ _ n _)]
    show (Pattern.seq spaces (Pattern.seq stars .empty)).ends _ _ = _
    rfl
  rw [htext]
  refine Matcher.capture_lazy hopening rfl ?_ ?_ stars_ends
  · intro c hc
    unfold notNewline
    rw [decide_eq_true_eq]
    rintro rfl
    exact hline ((boldTitle_isPrefix (first :: others)).subset hc)
  · intro front last tail hsplit htail
    apply stars_ends_nil
    cases front with
    | nil =>
      have hrest : untilStars (others ++ ['*', '*']) = [] ++ tail :=
        (List.cons.inj hsplit).right
      exact untilStars_inner hrest htail _
    | cons e front =>
      have hrest := (List.cons.inj hsplit).right
      have hfront : front ++ last :: tail = (front ++ [last]) ++ tail := List.append_cons ..
      exact untilStars_inner (hrest.trans hfront) htail _

end Items
end EpicProposals
end Oompah
