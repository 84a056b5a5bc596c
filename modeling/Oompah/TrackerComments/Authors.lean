import Oompah.TrackerComments.Records

/-!
# Authors of parsed comments

Whatever a section holds, an author read from it is a part of one of its lines: it
has no line boundary and no end marker.
-/

namespace Oompah
namespace TrackerComments

open Foundation.Text

variable {comment : Comment}

section Authors

variable {P : Str -> Prop}

theorem headerField_value {line key value : Str}
    (hclosed : forall a b, a <:+: b -> P b -> P a) (hline : P line)
    (h : headerField? line = some (key, value)) : P value := by
  rcases Option.map_eq_some_iff.mp h with ⟨⟨before, after⟩, hcut, heq⟩
  cases heq
  refine hclosed _ line ((strip_part after).trans ?_) hline
  rw [cut_eq_some hcut]
  exact (List.suffix_append _ after).isInfix

theorem Fields.get_value {fields : Fields} {key : String} {value : Str}
    (hfields : forall pair, pair ∈ fields -> P pair.2) (h : fields.get key = some value) :
    P value := by
  rcases List.lookup_eq_some_iff.mp h with ⟨before, after, heq, _⟩
  rw [heq] at hfields
  exact hfields (key.toList, value) (List.mem_append_right before List.mem_cons_self)

theorem structuredHeader_values {fields found : Fields} {lines rest : List Str}
    (hclosed : forall a b, a <:+: b -> P b -> P a) (hlines : forall l, l ∈ lines -> P l)
    (hfields : forall pair, pair ∈ fields -> P pair.2)
    (h : structuredHeader fields lines = some (found, rest)) :
    (forall pair, pair ∈ found -> P pair.2) ∧ rest ⊆ lines := by
  induction lines generalizing fields with
  | nil => cases h
  | cons line lines ih =>
    have hrest : forall l, l ∈ lines -> P l :=
      fun l hl => hlines l (List.mem_cons_of_mem line hl)
    unfold structuredHeader at h
    by_cases hsep : strip isSpace line = separator
    · rw [if_pos hsep] at h
      by_cases hempty : fields = []
      · rw [if_pos hempty] at h
        cases h
      · rw [if_neg hempty] at h
        cases h
        exact ⟨hfields, List.subset_cons_self line _⟩
    · rw [if_neg hsep] at h
      cases hfield : headerField? line with
      | none =>
        rw [hfield] at h
        cases h
      | some pair =>
        rcases pair with ⟨key, value⟩
        rw [hfield] at h
        by_cases hkey : key = []
        · simp only [if_pos hkey] at h
          cases h
        · simp only [if_neg hkey] at h
          have hvalue : P value :=
            headerField_value hclosed (hlines line List.mem_cons_self) hfield
          have hall : forall pair, pair ∈ (lower key, value) :: fields -> P pair.2 := by
            intro pair hpair
            rcases List.mem_cons.mp hpair with rfl | hpair
            · exact hvalue
            · exact hfields pair hpair
          rcases ih hrest hall h with ⟨hfound, hsubset⟩
          exact ⟨hfound, List.subset_cons_of_subset line hsubset⟩

theorem untilSeparator_subset {lines before after : List Str}
    (h : untilSeparator lines = some (before, after)) : after ⊆ lines := by
  induction lines generalizing before with
  | nil => cases h
  | cons line lines ih =>
    unfold untilSeparator at h
    by_cases hsep : strip isSpace line = separator
    · rw [if_pos hsep] at h
      cases h
      exact List.subset_cons_self line after
    · rw [if_neg hsep] at h
      rcases Option.map_eq_some_iff.mp h with ⟨⟨head, rest⟩, huntil, heq⟩
      cases heq
      exact List.subset_cons_of_subset line (ih huntil)

theorem parseStructuredComment_author {lines rest : List Str} {n : Nat}
    (hclosed : forall a b, a <:+: b -> P b -> P a) (hlines : forall l, l ∈ lines -> P l)
    (h : parseStructuredComment lines n = some (comment, rest)) :
    (forall author, comment.author = some author -> P author) ∧ rest ⊆ lines := by
  unfold parseStructuredComment at h
  cases hheader : structuredHeader [] lines with
  | none =>
    rw [hheader] at h
    cases h
  | some header =>
    rcases header with ⟨fields, body⟩
    rw [hheader] at h
    have hempty : forall pair, pair ∈ ([] : Fields) -> P pair.2 := fun _ h => by cases h
    rcases structuredHeader_values hclosed hlines hempty hheader with ⟨hfields, hbody⟩
    cases huntil : untilSeparator body with
    | none =>
      simp only [huntil] at h
      cases h
    | some parts =>
      rcases parts with ⟨textLines, after⟩
      simp only [huntil] at h
      cases h
      constructor
      · intro author hauthor
        exact Fields.get_value hfields hauthor
      · exact List.Subset.trans (untilSeparator_subset huntil) hbody

theorem blockFields_values {lines : List Str}
    (hclosed : forall a b, a <:+: b -> P b -> P a) (hlines : forall l, l ∈ lines -> P l) :
    forall pair, pair ∈ blockFields lines -> P pair.2 := by
  have hfold : forall (lines : List Str) (fields : Fields), (forall l, l ∈ lines -> P l) ->
      (forall pair, pair ∈ fields -> P pair.2) ->
      forall pair, pair ∈ lines.foldl Fields.add fields -> P pair.2 := by
    intro lines
    induction lines with
    | nil => exact fun fields _ hfields => hfields
    | cons line lines ih =>
      intro fields hlines hfields
      apply ih _ (fun l hl => hlines l (List.mem_cons_of_mem line hl))
      unfold Fields.add
      cases hfield : headerField? line with
      | none => exact hfields
      | some pair =>
        rcases pair with ⟨key, value⟩
        have hvalue : P value :=
          headerField_value hclosed (hlines line List.mem_cons_self) hfield
        intro pair hpair
        rcases List.mem_cons.mp hpair with rfl | hpair
        · exact hvalue
        · exact hfields pair hpair
  exact hfold lines [] hlines (fun _ h => by cases h)

theorem parseCommentBlock_author {block : List Str} {n : Nat} {author : Str}
    (hclosed : forall a b, a <:+: b -> P b -> P a) (hnil : P [])
    (hlines : forall l, l ∈ block -> P l)
    (h : parseCommentBlock (joinLines block) n = some comment)
    (hauthor : comment.author = some author) : P author := by
  have hheader : forall l, l ∈ splitLines
      ((cut ['\n', '\n'] (joinLines block)).getD (joinLines block, [])).1 -> P l := by
    intro l hl
    have hnewline : '\n' ∉ l := by
      intro hmem
      have hboundary := splitLines_boundary hl '\n' hmem
      cases hboundary
    have hinside : l <:+: joinLines block := by
      refine (splitLines_part hl).trans ?_
      cases hcut : cut ['\n', '\n'] (joinLines block) with
      | none => exact List.infix_rfl
      | some parts =>
        rcases parts with ⟨before, after⟩
        rw [cut_eq_some hcut, List.append_assoc]
        exact (List.prefix_append before _).isInfix
    by_cases hempty : l = []
    · rw [hempty]
      exact hnil
    · rcases exists_infix_of_infix_joinLines hnewline hempty hinside with ⟨line, hline, hl⟩
      exact hclosed l line hl (hlines line hline)
  unfold parseCommentBlock at h
  simp only at h
  split at h
  · cases h
  · cases h
    exact Fields.get_value (blockFields_values hclosed hheader) hauthor

theorem commentsOfLines_author {fuel n : Nat} {lines : List Str}
    {author : Str} (hclosed : forall a b, a <:+: b -> P b -> P a) (hnil : P [])
    (hlines : forall l, l ∈ lines -> P l) (h : comment ∈ commentsOfLines fuel lines n)
    (hauthor : comment.author = some author) : P author := by
  induction fuel generalizing lines n with
  | zero => cases h
  | succ fuel ih =>
    cases lines with
    | nil => cases h
    | cons line rest =>
      have hrest : forall l, l ∈ rest -> P l :=
        fun l hl => hlines l (List.mem_cons_of_mem line hl)
      unfold commentsOfLines at h
      by_cases hblank : strip isSpace line = []
      · rw [if_pos hblank] at h
        exact ih hrest h
      rw [if_neg hblank] at h
      by_cases hblock : strip isSpace line = commentBegin
      · rw [if_pos hblock] at h
        have hafter : forall l, l ∈ (rest.dropWhile fun l => strip isSpace l ≠
            commentEnd).drop 1 -> P l :=
          fun l hl => hrest l (List.dropWhile_subset _ (List.mem_of_mem_drop hl))
        cases hparse : parseCommentBlock
            (joinLines (rest.takeWhile fun l => strip isSpace l ≠ commentEnd)) n with
        | none =>
          simp only [hparse] at h
          exact ih hafter h
        | some first =>
          simp only [hparse] at h
          rcases List.mem_cons.mp h with rfl | h
          · have htake : forall l, l ∈ rest.takeWhile
                (fun l => strip isSpace l ≠ commentEnd) -> P l :=
              fun l hl => hrest l ((List.takeWhile_sublist _).subset hl)
            exact parseCommentBlock_author hclosed hnil htake hparse hauthor
          · exact ih hafter h
      · rw [if_neg hblock] at h
        cases hparse : parseStructuredComment (line :: rest) n with
        | none =>
          rw [hparse] at h
          exact ih hrest h
        | some parsed =>
          rcases parsed with ⟨first, after⟩
          rw [hparse] at h
          have hparsed := parseStructuredComment_author hclosed hlines hparse
          rcases List.mem_cons.mp h with rfl | h
          · exact hparsed.left author hauthor
          · exact ih (fun l hl => hlines l (hparsed.right hl)) h

theorem between_inner {opening closing s inner : Str} {fuel : Nat} (hclosing : closing ≠ [])
    (h : inner ∈ between opening closing fuel s) : ¬ closing <:+: inner := by
  induction fuel generalizing s with
  | zero => cases h
  | succ fuel ih =>
    unfold between at h
    cases hopen : cut opening s with
    | none =>
      rw [hopen] at h
      cases h
    | some parts =>
      rcases parts with ⟨before, opened⟩
      simp only [hopen] at h
      cases hclose : cut closing opened with
      | none =>
        simp only [hclose] at h
        cases h
      | some parts =>
        rcases parts with ⟨first, after⟩
        simp only [hclose] at h
        rcases List.mem_cons.mp h with rfl | h
        · exact cut_before hclosing hclose
        · exact ih h

end Authors

theorem trimNewlines_part (content : Str) : trimNewlines content <:+: content := by
  have hfirst : dropFirstNewline content <:+: content := by
    unfold dropFirstNewline
    split
    · exact List.infix_cons List.infix_rfl
    · exact List.infix_rfl
  have hlast : dropLastNewline (dropFirstNewline content) <:+: dropFirstNewline content := by
    unfold dropLastNewline
    split
    · exact (List.dropLast_prefix _).isInfix
    · exact List.infix_rfl
  exact hlast.trans hfirst

/-- An author read from a section stays on its line and inside the section. -/
theorem commentsOfSections_author {contents : List Str} {n : Nat}
    {author : Str} (hcontents : forall content, content ∈ contents -> ¬ commentsEnd <:+: content)
    (h : comment ∈ commentsOfSections contents n) (hauthor : comment.author = some author) :
    StorableAuthor author := by
  induction contents generalizing n with
  | nil => cases h
  | cons content contents ih =>
    rcases List.mem_append.mp h with h | h
    · refine commentsOfLines_author ?_ ?_ ?_ h hauthor
      · intro a b hab hb
        exact ⟨fun c hc => hb.left c (hab.subset hc), fun hend => hb.right (hend.trans hab)⟩
      · exact ⟨fun _ hc => (List.not_mem_nil hc).elim, by decide⟩
      · intro l hl
        exact ⟨splitLines_boundary hl, fun hend =>
          hcontents content List.mem_cons_self (hend.trans (splitLines_part hl))⟩
    · exact ih (fun c hc => hcontents c (List.mem_cons_of_mem content hc)) h

end TrackerComments
end Oompah
