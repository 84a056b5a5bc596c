import Oompah.EpicProposals.Items
import Oompah.Foundation.Cutting

/-!
# Reading a comment back

The titles that are read from the comment of a proposal: the epic's from the line behind
its heading, a child's from its line in the list, and what else is listed between an
earlier heading of the list and the list itself.
-/

namespace Oompah
namespace EpicProposals

open Foundation TerminalAudit
open Matcher (findAll findAll_line findAll_none)
open Text (isSpace)

section Lines

variable (t : Tables)

/-!
# Lines that list nothing
-/

theorem blank_newline : forall c, c ∈ ['\n'] -> isSpace c = true := by
  intro c hc
  rw [List.mem_singleton.mp hc]
  rfl

theorem blank_nil : forall c : Char, c ∈ [] -> isSpace c = true :=
  fun _ hc => nomatch hc

variable {before : Option Char} {c : Char}

theorem readsOn_blank (hbefore : AtLineStart before)
    (hspace : isSpace c = false) (hdigit : t.isDigit c = false) (hminus : c ≠ '-')
    (hstar : c ≠ '*') (rest : List Char) :
    findAll (boldItemRe t) before 0 ('\n' :: c :: rest) =
      findAll (boldItemRe t) (some '\n') 0 (c :: rest) := by
  apply findAll_none
  show boldItemRe t ⟨before, ['\n'] ++ c :: rest⟩ = none
  exact boldItemRe_none t hbefore blank_newline hspace hdigit hminus hstar

theorem readsOn_first (hbefore : AtLineStart before)
    (hspace : isSpace c = false) (hdigit : t.isDigit c = false) (hminus : c ≠ '-')
    (hstar : c ≠ '*') (rest : List Char) :
    findAll (boldItemRe t) before 0 (c :: rest) = findAll (boldItemRe t) (some c) 0 rest := by
  apply findAll_none
  show boldItemRe t ⟨before, [] ++ c :: rest⟩ = none
  exact boldItemRe_none t hbefore blank_nil hspace hdigit hminus hstar

theorem not_newline_of_ink (h : isSpace c = false) : c ≠ '\n' := by
  rintro rfl
  cases h

theorem readsOn_line (hbefore : AtLineStart before)
    (hspace : isSpace c = false) (hdigit : t.isDigit c = false) (hminus : c ≠ '-')
    (hstar : c ≠ '*') {line : List Char} (hline : '\n' ∉ line) (rest : List Char) :
    findAll (boldItemRe t) before 0 (c :: line ++ '\n' :: rest) =
      findAll (boldItemRe t) (some '\n') 0 rest := by
  rw [List.cons_append, readsOn_first t hbefore hspace hdigit hminus hstar]
  exact findAll_line (boldItemRe_atLineStarts t) hline (not_newline_of_ink hspace) rest

theorem lineStart_newline : AtLineStart (some '\n') :=
  .inr rfl

theorem not_newline_of_all {s : List Char} (h : s.all (fun c => c ≠ '\n') = true) : '\n' ∉ s := by
  intro hmem
  have := List.all_eq_true.mp h '\n' hmem
  exact absurd rfl (of_decide_eq_true this)

variable {p : EpicProposal}

/-- Nothing is listed behind the children. -/
theorem closing_listsNothing (hprint : '\n' ∉ p.fingerprint) :
    findAll (boldItemRe t) (some '\n') 0 ('\n' :: approval ++ "\n\n".toList ++
      fingerprintLine p) = [] := by
  have happroval : approval = 'A' :: approval.tail := rfl
  have hline : fingerprintLine p = 'P' :: ("roposal fingerprint: `".toList ++
    p.fingerprint ++ "`".toList) := rfl
  have hrest : '\n' ∉ "roposal fingerprint: `".toList ++ p.fingerprint ++ "`".toList := by
    simp only [List.mem_append, not_or]
    exact ⟨⟨by decide, hprint⟩, by decide⟩
  have hA := not_digit t (c := 'A') (by decide) (by decide)
  have hP := not_digit t (c := 'P') (by decide) (by decide)
  have htail : '\n' ∉ approval.tail := not_newline_of_all rfl
  have htext : '\n' :: approval ++ "\n\n".toList ++ fingerprintLine p =
      '\n' :: 'A' :: (approval.tail ++ '\n' :: '\n' :: fingerprintLine p) := by
    rw [happroval]
    simp
  rw [htext, readsOn_blank t lineStart_newline rfl hA (by decide) (by decide),
    ← List.cons_append, readsOn_line t lineStart_newline rfl hA (by decide) (by decide) htail,
    hline, readsOn_blank t lineStart_newline rfl hP (by decide) (by decide),
    readsOn_first t lineStart_newline rfl hP (by decide) (by decide)]
  exact Matcher.findAll_lastLine (boldItemRe_atLineStarts t) hrest (by decide)

/-!
# The list of children
-/

/-- A title that fills one line. -/
def LineTitle (title : List Char) : Prop :=
  title ≠ [] ∧ '\n' ∉ title

variable {title : List Char}

theorem TidyTitle.line (h : TidyTitle title) : LineTitle title :=
  ⟨h.right, h.left.newline_not_mem⟩

theorem readList (hprint : '\n' ∉ p.fingerprint)
    {children : List EpicProposalChild} (hchildren : children ≠ [])
    (htitles : forall child, child ∈ children -> LineTitle child.title) (n : Nat)
    (hbefore : AtLineStart before) {blank : List Char}
    (hblank : forall c, c ∈ blank -> isSpace c = true) :
    (findAll (boldItemRe t) before 0
        (blank ++ joinLines (childLines n children) ++ closing p)).map Capture.text =
      children.map fun child => boldTitle child.title := by
  induction children generalizing n before blank with
  | nil => exact absurd rfl hchildren
  | cons child rest ih =>
    rcases htitles child List.mem_cons_self with ⟨hne, hline⟩
    -- the text behind the line of the child
    have htail : exists more, blank ++ joinLines (childLines n (child :: rest)) ++ closing p =
        blank ++ childLine n child ++ '\n' :: more ∧
        (findAll (boldItemRe t) (some '\n') 0 more).map Capture.text =
          rest.map fun child => boldTitle child.title := by
      cases rest with
      | nil =>
        refine ⟨'\n' :: approval ++ "\n\n".toList ++ fingerprintLine p, ?_, ?_⟩
        · simp [childLines, joinLines, Text.joinLines, closing]
        · rw [closing_listsNothing t hprint]
          rfl
      | cons next rest =>
        refine ⟨joinLines (childLines (n + 1) (next :: rest)) ++ closing p, ?_, ?_⟩
        · have hlines : childLines (n + 1) (next :: rest) ≠ [] := List.cons_ne_nil _ _
          have hjoin := Text.joinLines_cons (childLine n child) hlines
          show blank ++ Text.joinLines (childLine n child ::
            childLines (n + 1) (next :: rest)) ++ closing p = _
          rw [hjoin]
          simp [joinLines]
        · exact ih (List.cons_ne_nil _ _)
            (fun x hx => htitles x (List.mem_cons_of_mem _ hx)) (n + 1) lineStart_newline
            blank_nil
    rcases htail with ⟨more, htext, hmore⟩
    rcases boldItemRe_childLine t hbefore hblank n hne hline ('\n' :: more) with
      ⟨left, hleft, hcapture⟩
    have hnewline : '\n' ∉ left := by
      intro hmem
      have hin : '\n' ∈ child.title ++ ['*', '*'] := by
        rw [← hleft]
        exact List.mem_append_right _ hmem
      rcases List.mem_append.mp hin with h | h
      · exact hline h
      · exact absurd h (by decide)
    have hread : blank ++ childLine n child ++ '\n' :: more =
        (blank ++ decimal n ++ ". **".toList ++ boldTitle child.title ++ ['*', '*']) ++
          (left ++ '\n' :: more) := by
      have hstars : child.title ++ "**".toList =
          boldTitle child.title ++ ['*', '*'] ++ left := hleft.symm
      unfold childLine
      rw [List.append_assoc _ child.title, hstars]
      simp only [List.append_assoc]
    rw [htext, hread]
    have hlast : (blank ++ decimal n ++ ". **".toList ++ boldTitle child.title ++
        ['*', '*']).getLast? = some '*' := by
      rw [List.getLast?_append]
      rfl
    have hne : blank ++ decimal n ++ ". **".toList ++ boldTitle child.title ++ ['*', '*'] ≠ [] := by
      intro hnil
      rw [hnil] at hlast
      cases hlast
    have hfirst := Matcher.findAll_some hne (by
      rw [hlast, ← hread]
      exact hcapture)
    rw [hfirst, hlast, findAll_line (boldItemRe_atLineStarts t) hnewline (by decide), hmore]
    rfl

theorem readChildTitles_childPart (hprint : '\n' ∉ p.fingerprint) (hchildren : p.children ≠ [])
    (htitles : forall child, child ∈ p.children -> LineTitle child.title) :
    readChildTitles t (childPart p) = p.children.map fun child => boldTitle child.title := by
  apply readList t hprint hchildren htitles 1 (.inl rfl)
  have hall : "\n\n".toList.all isSpace = true := rfl
  exact List.all_eq_true.mp hall

theorem readList_heading (hprint : '\n' ∉ p.fingerprint) (hchildren : p.children ≠ [])
    (htitles : forall child, child ∈ p.children -> LineTitle child.title) :
    (findAll (boldItemRe t) (some '\n') 0 (childHeading ++ childPart p)).map
        Capture.text = p.children.map fun child => boldTitle child.title := by
  have hheading : childHeading = '#' :: childHeading.tail := rfl
  have hhash := not_digit t (c := '#') (by decide) (by decide)
  have htext : childHeading ++ childPart p = '#' :: childHeading.tail ++
      '\n' :: ('\n' :: joinLines (childLines 1 p.children) ++ closing p) := by
    rw [← hheading]
    unfold childPart
    simp
  rw [htext, readsOn_line t lineStart_newline rfl hhash (by decide) (by decide)
    (not_newline_of_all rfl)]
  exact readList t hprint hchildren htitles 1 lineStart_newline blank_newline

/-!
# The title of the epic
-/

/-- A line that goes on with other characters does not close. -/
theorem lineClosing_nil {w : List Char} (hline : '\n' ∉ w)
    (hlast : w.getLast? = some '*') (more : List Char) :
    lineClosing t ⟨before, w ++ '\n' :: more⟩ = [] := by
  unfold lineClosing Matcher.andThen
  rw [List.flatMap_eq_nil_iff]
  intro stop hstop
  have hgreedy : stop ∈ Pattern.greedy isSpace before (w ++ '\n' :: more) := hstop
  rcases Matcher.mem_greedy hgreedy with ⟨read, hread, hspaces⟩
  have hshort : exists c rest, stop.after = c :: rest ∧ c ≠ '\n' := by
    rcases List.append_eq_append_iff.mp hread with ⟨left, hleft, -⟩ | ⟨left, hleft, hafter⟩
    · -- the white space would reach over the star
      have hstar : '*' ∈ read := by
        rw [hleft]
        exact List.mem_append_left _ (List.mem_of_getLast? hlast)
      have hspace := hspaces '*' hstar
      cases hspace
    · cases left with
      | nil =>
        have hstar : '*' ∈ read := by
          rw [List.append_nil] at hleft
          rw [← hleft]
          exact List.mem_of_getLast? hlast
        have hspace := hspaces '*' hstar
        cases hspace
      | cons c left =>
        refine ⟨c, left ++ '\n' :: more, hafter, ?_⟩
        rintro rfl
        apply hline
        rw [hleft]
        exact List.mem_append_right _ List.mem_cons_self
  rcases hshort with ⟨c, rest, hafter, hc⟩
  unfold Matcher.lineEnd
  rw [if_neg]
  rw [hafter]
  rintro (h | h)
  · cases h
  · exact hc (Option.some.inj h)

theorem lineClosing_here (before : Option Char) (more : List Char) :
    exists stop stops, lineClosing t ⟨before, '\n' :: more⟩ = stop :: stops := by
  apply List.exists_cons_of_ne_nil
  have hhere : (⟨before, '\n' :: more⟩ : Place Char) ∈
      Pattern.greedy isSpace before ('\n' :: more) := by
    have hspace : isSpace '\n' = true := rfl
    unfold Pattern.greedy
    exact List.mem_append_right _ List.mem_cons_self
  intro hnil
  have hnone := List.flatMap_eq_nil_iff.mp hnil _ hhere
  have hend : Matcher.lineEnd '\n' (⟨before, '\n' :: more⟩ : Place Char) =
      [⟨before, '\n' :: more⟩] := if_pos (.inr rfl)
  cases hnone

theorem boldLineRe_title (htitle : LineTitle title) (more : List Char) :
    exists stop, boldLineRe t ⟨none, "\n\n**".toList ++ title ++ "**\n".toList ++ more⟩ =
      some ⟨title, stop⟩ := by
  rcases htitle with ⟨hne, hline⟩
  rcases List.exists_cons_of_ne_nil hne with ⟨first, others, rfl⟩
  rcases lineClosing_here t (some '*') more with ⟨stop, stops, hstop⟩
  refine ⟨stop, ?_⟩
  have htext : "\n\n**".toList ++ (first :: others) ++ "**\n".toList ++ more =
      ['\n', '\n'] ++ '*' :: '*' :: (first :: others ++ '*' :: '*' :: '\n' :: more) := by
    simp
  have hopening : lineOpening t (.seq (.many isSpace) stars) ⟨none, ['\n', '\n'] ++
      '*' :: '*' :: (first :: others ++ '*' :: '*' :: '\n' :: more)⟩ =
      [⟨some '*', first :: others ++ '*' :: '*' :: '\n' :: more⟩] := by
    rw [lineOpening_eq t (.inl rfl)]
    show (Pattern.greedy isSpace none (['\n', '\n'] ++ _)).flatMap _ = _
    rw [Matcher.greedy_then]
    · rfl
    · intro b c rest hc
      apply stars_ends_nil
      intro hprefix
      rw [← (List.cons_prefix_cons.mp hprefix).left] at hc
      cases hc
    · intro c hc
      have hall : ['\n', '\n'].all isSpace = true := rfl
      exact List.all_eq_true.mp hall c hc
    · rfl
  have hclosing : Matcher.andThen (Matcher.ofPattern t.isWord stars) (lineClosing t)
      ⟨(first :: others).getLast?, '*' :: '*' :: '\n' :: more⟩ = stop :: stops := by
    show (stars.ends t.isWord _).flatMap _ = _
    rw [stars_ends, List.flatMap_cons, List.flatMap_nil, List.append_nil]
    exact hstop
  rw [htext]
  refine Matcher.capture_lazy hopening rfl ?_ ?_ hclosing
  · intro c hc
    unfold notNewline
    rw [decide_eq_true_eq]
    rintro rfl
    exact hline hc
  · intro front last tail hsplit htail
    have htailLine : '\n' ∉ tail := by
      intro h
      apply hline
      rw [hsplit]
      exact List.mem_append_right _ (List.mem_cons_of_mem _ h)
    show (stars.ends t.isWord _).flatMap _ = []
    by_cases hstars : ['*', '*'] <+: tail ++ '*' :: '*' :: '\n' :: more
    · -- two stars inside the title: what is left of the line ends with a star
      have hleft : exists w, tail ++ '*' :: '*' :: '\n' :: more =
          '*' :: '*' :: (w ++ '\n' :: more) ∧ '\n' ∉ w ∧ w.getLast? = some '*' := by
        rcases hstars with ⟨rest, hrest⟩
        cases tail with
        | nil => exact absurd rfl htail
        | cons c tail =>
          have hc : '*' = c := (List.cons.inj hrest).left
          subst hc
          cases tail with
          | nil => exact ⟨['*'], rfl, by decide, rfl⟩
          | cons d tail =>
            have hd : '*' = d := (List.cons.inj (List.cons.inj hrest).right).left
            subst hd
            refine ⟨tail ++ ['*', '*'], by simp, ?_, by rw [List.getLast?_append]; rfl⟩
            intro h
            rcases List.mem_append.mp h with h | h
            · exact htailLine (List.mem_cons_of_mem _ (List.mem_cons_of_mem _ h))
            · exact absurd h (by decide)
      rcases hleft with ⟨w, hw, hwline, hwlast⟩
      rw [hw, stars_ends, List.flatMap_cons, List.flatMap_nil, List.append_nil]
      exact lineClosing_nil t hwline hwlast more
    · rw [stars_ends_nil hstars, List.flatMap_nil]

theorem readEpicTitle_line (htitle : LineTitle title) (more : List Char) :
    readEpicTitle t ("\n\n**".toList ++ title ++ "**\n".toList ++ more) = title := by
  rcases boldLineRe_title t htitle more with ⟨stop, hstop⟩
  unfold readEpicTitle
  rw [Matcher.search_first hstop]

/-!
# Items listed before the list
-/

theorem itemOpening_advances : Matcher.Advances (lineOpening t (itemOpening t)) :=
  Matcher.advances_andThen (Matcher.advances_lineStart _) (Matcher.advances_ofPattern _)

theorem itemOpening_stops (more : List Char) :
    Matcher.Local '\n' ('#' :: more) (lineOpening t (itemOpening t)) := by
  apply Matcher.local_andThen (Matcher.advances_lineStart _) Matcher.local_lineStart
  apply Matcher.local_ofPattern
  have hhash := not_digit t (c := '#') (by decide) (by decide)
  refine ⟨rfl, ⟨⟨hhash, hhash, rfl, trivial⟩, rfl⟩, ⟨rfl, rfl⟩, ⟨rfl, rfl⟩, trivial⟩

/-- An opening of an item ends behind a star. -/
theorem itemOpening_before {p q : Place Char} (h : q ∈ lineOpening t (itemOpening t) p) :
    q.before ≠ some '\n' := by
  rcases List.mem_flatMap.mp h with ⟨p1, -, h⟩
  rcases List.mem_flatMap.mp h with ⟨p2, -, h⟩
  rcases List.mem_flatMap.mp h with ⟨p3, -, h⟩
  rcases List.mem_flatMap.mp h with ⟨p4, -, h⟩
  rcases List.mem_flatMap.mp h with ⟨p5, hstars, h⟩
  rcases List.mem_singleton.mp h with rfl
  rcases p4 with ⟨before, s⟩
  by_cases hprefix : ['*', '*'] <+: s
  · rcases hprefix with ⟨rest, rfl⟩
    rcases List.mem_singleton.mp hstars with rfl
    intro hnewline
    exact absurd (Option.some.inj hnewline) (by decide)
  · rw [stars_ends_nil hprefix] at hstars
    cases hstars

/-- What is listed in front of the heading is read as it would be without the rest. -/
theorem readChildTitles_append (hprint : '\n' ∉ p.fingerprint) (hchildren : p.children ≠ [])
    (htitles : forall child, child ∈ p.children -> LineTitle child.title)
    {listed : List Char} (hlast : listed.getLast? = some '\n') :
    readChildTitles t (listed ++ (childHeading ++ childPart p)) =
      readChildTitles t listed ++ p.children.map fun child => boldTitle child.title := by
  have hlocal : forall q, Matcher.EndsWith '\n' q ->
      boldItemRe t (Matcher.Extend (childHeading ++ childPart p) q) =
        (boldItemRe t q).map (Matcher.Capture.extend (childHeading ++ childPart p)) := by
    intro q hq
    have hstars : Matcher.Local '\n' (childHeading ++ childPart p)
        (Matcher.ofPattern t.isWord stars) :=
      Matcher.local_ofPattern (d := '#') ⟨rfl, rfl⟩
    exact Matcher.capture_extend (itemOpening_advances t) (itemOpening_stops t _)
      (fun _ _ h => itemOpening_before t h) rfl hstars hq
  have hends : Matcher.EndsWith '\n' (⟨none, listed⟩ : Place Char) := by
    unfold Matcher.EndsWith
    rw [hlast]
    rfl
  unfold readChildTitles
  rw [Matcher.findAll_append hlocal hends (Nat.zero_le _),
    readList_heading t hprint hchildren htitles]

end Lines
end EpicProposals
end Oompah
