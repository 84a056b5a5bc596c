import Oompah.EpicProposals.Generation

/-!
# Titles of a proposal

Every title that is generated is tidy: its white space is single spaces between other
characters, and it is not empty.  A proposal always has children.
-/

namespace Oompah
namespace EpicProposals

open Foundation TerminalAudit
open Text (isSpace)

/-!
# Tidy texts
-/

/-- Only single spaces, and none first when one has just come. -/
def Single : Bool -> List Char -> Prop
  | _, [] => True
  | inRun, c :: rest =>
    if Text.isSpace c = true then c = ' ' ∧ inRun = false ∧ Single true rest
    else Single false rest

theorem single_collapse (inRun : Bool) (s : List Char) : Single inRun (collapse inRun s) := by
  induction s generalizing inRun with
  | nil => trivial
  | cons c rest ih =>
    unfold collapse
    by_cases hc : isSpace c = true
    · rw [if_pos hc]
      cases inRun with
      | true => exact ih true
      | false =>
        have hspace : isSpace ' ' = true := rfl
        rw [if_neg Bool.false_ne_true]
        unfold Single
        exact ⟨rfl, rfl, ih true⟩
    · rw [if_neg hc]
      unfold Single
      rw [if_neg hc]
      exact ih false

variable {inRun : Bool} {s : List Char}

theorem Single.collapse_eq (h : Single inRun s) : collapse inRun s = s := by
  induction s generalizing inRun with
  | nil => rfl
  | cons c rest ih =>
    unfold Single at h
    unfold collapse
    by_cases hc : isSpace c = true
    · rw [if_pos hc] at h
      rcases h with ⟨rfl, rfl, hrest⟩
      rw [if_pos hc, if_neg Bool.false_ne_true, ih hrest]
    · rw [if_neg hc] at h
      rw [if_neg hc, ih h]

theorem Single.prefix {s more : List Char} (h : Single inRun (s ++ more)) :
    Single inRun s := by
  induction s generalizing inRun with
  | nil => trivial
  | cons c rest ih =>
    rw [List.cons_append] at h
    unfold Single at h ⊢
    by_cases hc : isSpace c = true
    · rw [if_pos hc] at h ⊢
      exact ⟨h.left, h.right.left, ih h.right.right⟩
    · rw [if_neg hc] at h ⊢
      exact ih h

theorem single_of_ink (h : forall c, c ∈ s -> isSpace c = false) : Single inRun s := by
  induction s generalizing inRun with
  | nil => trivial
  | cons c rest ih =>
    unfold Single
    rw [if_neg (by rw [h c List.mem_cons_self]; exact Bool.false_ne_true)]
    exact ih fun d hd => h d (List.mem_cons_of_mem _ hd)

theorem Single.append_ink {s more : List Char} (h : Single inRun s)
    (hmore : forall c, c ∈ more -> isSpace c = false) : Single inRun (s ++ more) := by
  induction s generalizing inRun with
  | nil => exact single_of_ink hmore
  | cons c rest ih =>
    rw [List.cons_append]
    unfold Single at h ⊢
    by_cases hc : isSpace c = true
    · rw [if_pos hc] at h ⊢
      exact ⟨h.left, h.right.left, ih h.right.right⟩
    · rw [if_neg hc] at h ⊢
      exact ih h

theorem Single.space_eq (h : Single inRun s) : forall c, c ∈ s -> isSpace c = true -> c = ' ' := by
  induction s generalizing inRun with
  | nil => exact fun _ hmem => nomatch hmem
  | cons d rest ih =>
    unfold Single at h
    intro c hmem hspace
    by_cases hd : isSpace d = true
    · rw [if_pos hd] at h
      rcases List.mem_cons.mp hmem with rfl | hrest
      · exact h.left
      · exact ih h.right.right c hrest hspace
    · rw [if_neg hd] at h
      rcases List.mem_cons.mp hmem with rfl | hrest
      · exact absurd hspace hd
      · exact ih h c hrest hspace

structure Tidy (s : List Char) : Prop where
  single : Single false s
  stripped : Text.Stripped Text.isSpace s

theorem Tidy.normalize (h : Tidy s) : normalizeText s = s := by
  unfold normalizeText
  rw [h.stripped.strip_eq, h.single.collapse_eq]

theorem Tidy.newline_not_mem (h : Tidy s) : '\n' ∉ s := by
  intro hmem
  have := h.single.space_eq '\n' hmem rfl
  exact absurd this (by decide)

variable {c : Char}

theorem collapse_getLast (hlast : s.getLast? = some c) (hc : isSpace c = false) :
    (collapse inRun s).getLast? = some c := by
  induction s generalizing inRun with
  | nil => cases hlast
  | cons d rest ih =>
    have hnext : forall b, rest ≠ [] -> (collapse b rest).getLast? = some c := by
      intro b hne
      apply ih
      rw [List.getLast?_cons] at hlast
      rw [← hlast]
      rcases List.exists_cons_of_ne_nil hne with ⟨e, tail, rfl⟩
      rfl
    by_cases hrest : rest = []
    · subst hrest
      have hdc : d = c := Option.some.inj hlast
      subst hdc
      unfold collapse
      rw [if_neg (by rw [hc]; exact Bool.false_ne_true)]
      rfl
    · unfold collapse
      split
      · split
        · exact hnext true hrest
        · rw [List.getLast?_cons, hnext true hrest]
          rfl
      · rw [List.getLast?_cons, hnext false hrest]
        rfl

theorem collapse_head (hhead : s.head? = some c)
    (hc : isSpace c = false) : (collapse false s).head? = some c := by
  cases s with
  | nil => cases hhead
  | cons d rest =>
    have hdc : d = c := Option.some.inj hhead
    subst hdc
    unfold collapse
    rw [if_neg (by rw [hc]; exact Bool.false_ne_true)]
    rfl

theorem normalizeText_tidy (s : List Char) : Tidy (normalizeText s) := by
  have hstripped : Text.Stripped isSpace (Text.strip isSpace s) :=
    Text.strip_stripped s
  refine ⟨single_collapse false _, ?_⟩
  unfold normalizeText
  cases hs : Text.strip isSpace s with
  | nil => exact ⟨fun _ h => (nomatch h), fun _ h => (nomatch h)⟩
  | cons first rest =>
    rw [hs] at hstripped
    have hfirst := hstripped.left first rfl
    cases hlast : (first :: rest).getLast? with
    | none => exact absurd (List.getLast?_eq_none_iff.mp hlast) (List.cons_ne_nil _ _)
    | some last =>
      have hink := hstripped.right last hlast
      constructor
      · intro c hc
        rw [collapse_head rfl hfirst] at hc
        cases hc
        exact hfirst
      · intro c hc
        rw [collapse_getLast hlast hink] at hc
        cases hc
        exact hink

theorem normalizeText_ne_nil (hmem : c ∈ s) (hc : isSpace c = false) : normalizeText s ≠ [] := by
  intro hnil
  have hne := Text.strip_ne_nil hmem hc
  rcases List.exists_cons_of_ne_nil hne with ⟨first, rest, hstrip⟩
  have hstripped : Text.Stripped isSpace (Text.strip isSpace s) :=
    Text.strip_stripped s
  have hfirst := hstripped.left first (by rw [hstrip]; rfl)
  have hhead := collapse_head (s := Text.strip isSpace s) (by rw [hstrip]; rfl) hfirst
  unfold normalizeText at hnil
  rw [hnil] at hhead
  cases hhead

theorem truncate_tidy (s : List Char) (limit : Nat) : Tidy (truncate s limit) := by
  have htidy := normalizeText_tidy s
  unfold truncate
  dsimp only
  split
  · exact htidy
  · have hdots : forall c, c ∈ "...".toList -> isSpace c = false := by
      have hall : "...".toList.all (fun c => !isSpace c) = true := rfl
      intro c hc
      have := List.all_eq_true.mp hall c hc
      simpa using this
    have hprefix : rstripOf " ,.;:-".toList ((normalizeText s).take (limit - 1)) <+:
        normalizeText s :=
      (List.rdropWhile_prefix _ _).trans (List.take_prefix _ _)
    rcases hprefix with ⟨more, hmore⟩
    have hsingle : Single false
        (rstripOf " ,.;:-".toList ((normalizeText s).take (limit - 1))) := by
      have := htidy.single
      rw [← hmore] at this
      exact this.prefix
    refine ⟨hsingle.append_ink hdots, ?_, ?_⟩
    · intro c hc
      rw [List.head?_append] at hc
      rcases Option.or_eq_some_iff.mp hc with hhead | ⟨_, hdot⟩
      · apply htidy.stripped.left c
        rw [← hmore, List.head?_append, hhead]
        rfl
      · exact hdots c (List.mem_of_head? hdot)
    · intro c hc
      rw [List.getLast?_append] at hc
      rcases Option.or_eq_some_iff.mp hc with hdot | ⟨hnone, _⟩
      · exact hdots c (List.mem_of_getLast? hdot)
      · cases hnone

theorem truncate_ne_nil (hmem : c ∈ s)
    (hc : isSpace c = false) (limit : Nat) : truncate s limit ≠ [] := by
  unfold truncate
  dsimp only
  split
  · exact normalizeText_ne_nil hmem hc
  · intro hnil
    exact absurd (List.append_eq_nil_iff.mp hnil).right (by decide)

/-!
# Generated titles
-/

/-- A text with a character that is not white space. -/
def Inked (s : List Char) : Prop :=
  exists c, c ∈ s ∧ Text.isSpace c = false

theorem Inked.append_left (h : Inked s) (more : List Char) : Inked (s ++ more) := by
  rcases h with ⟨c, hmem, hc⟩
  exact ⟨c, List.mem_append_left _ hmem, hc⟩

theorem inked_of_any (h : s.any (fun c => !isSpace c) = true) :
    Inked s := by
  rcases List.any_eq_true.mp h with ⟨c, hmem, hc⟩
  exact ⟨c, hmem, by simpa using hc⟩

section Titles

variable (t : Tables)

theorem dropMatch_suffix (r : Pattern Char) (s : List Char) : dropMatch t r s <:+ s := by
  unfold dropMatch
  split
  · rename_i stop hstop
    rcases Pattern.ends_reads (List.mem_of_head? hstop) with ⟨read, hafter, -⟩
    exact ⟨read, hafter.symm⟩
  · exact List.suffix_refl s

theorem inked_of_suffix {s tail : List Char} (hs : Text.Stripped isSpace s)
    (hsuffix : tail <:+ s) (hne : tail ≠ []) : Inked tail := by
  rcases hsuffix with ⟨front, rfl⟩
  refine ⟨tail.getLast hne, List.getLast_mem hne, ?_⟩
  apply hs.right
  rw [List.getLast?_append, List.getLast?_eq_some_getLast hne]
  rfl

theorem topicFromTitle_inked (title : List Char) : Inked (topicFromTitle t title) := by
  unfold topicFromTitle
  dsimp only
  split
  · exact inked_of_any rfl
  · rename_i hne
    exact inked_of_suffix (normalizeText_tidy title).stripped (dropMatch_suffix t _ _) hne

/-- The characters a letter stands for. -/
def letterForms (letter : Char) : List Char :=
  letter :: letter.toUpper :: caseVariants letter

theorem mem_letterForms {letter c : Char} (h : sameLetter letter c = true) :
    c ∈ letterForms letter := by
  unfold sameLetter at h
  unfold letterForms
  simpa [or_assoc] using h

/-- A word whose letters are no white space needs some other character. -/
theorem letters_needs {text : String} {letter : Char} {rest : List Char}
    (htext : text.toList = letter :: rest)
    (hletter : (letterForms letter).all (fun c => !isSpace c) = true) :
    (letters text).Needs (fun c => isSpace c = false) := by
  unfold letters
  rw [htext]
  refine Pattern.needs_all List.mem_cons_self ?_
  intro c hc
  have := List.all_eq_true.mp hletter c (mem_letterForms hc)
  simpa using this

theorem actionVerb_needs : actionVerb.Needs (fun c => isSpace c = false) := by
  apply Pattern.needs_oneOf
  intro r hr
  simp only [List.map_cons, List.map_nil, List.mem_cons, List.not_mem_nil, or_false] at hr
  rcases hr with rfl | rfl | rfl | rfl | rfl | rfl | rfl | rfl | rfl | rfl | rfl | rfl | rfl |
    rfl | rfl
  all_goals exact letters_needs rfl rfl

variable {s : List Char}

theorem inked_of_startsWith {r : Pattern Char}
    (hr : r.Needs (fun c => isSpace c = false)) (h : startsWith t r s = true) :
    Inked s := by
  unfold startsWith at h
  cases hends : r.ends t.isWord ⟨none, s⟩ with
  | nil =>
    rw [hends] at h
    cases h
  | cons stop stops =>
    exact Pattern.exists_of_ends hr (by rw [hends]; exact List.mem_cons_self)

theorem changeFirst_inked (h : Inked s) : Inked (changeFirst t.upper s) := by
  rcases h with ⟨c, hmem, hc⟩
  cases s with
  | nil => cases hmem
  | cons first rest =>
    rcases List.mem_cons.mp hmem with rfl | hrest
    · rcases t.upper_ink c hc with ⟨d, hd, hink⟩
      exact ⟨d, List.mem_append_left _ hd, hink⟩
    · exact ⟨c, List.mem_append_right _ hrest, hc⟩

def TidyTitle (title : List Char) : Prop :=
  Tidy title ∧ title ≠ []

theorem truncate_tidyTitle (h : Inked s) (limit : Nat) : TidyTitle (truncate s limit) := by
  rcases h with ⟨c, hmem, hc⟩
  exact ⟨truncate_tidy s limit, truncate_ne_nil hmem hc limit⟩

variable {topic : List Char}

theorem childTitle_tidy (htopic : Inked topic) (item : List Char) :
    TidyTitle (childTitleFromItem t item topic) := by
  unfold childTitleFromItem
  apply truncate_tidyTitle
  apply changeFirst_inked
  split
  · rename_i hverb
    exact inked_of_startsWith t (Pattern.needs_all List.mem_cons_self actionVerb_needs) hverb
  · split
    · exact htopic
    · exact (inked_of_any (s := "Implement ".toList) rfl).append_left _

/-- White space has no letter case, so a blank title does not start with the prefix. -/
theorem inked_of_epic {title : List Char}
    (h : "epic:".toList.isPrefixOf (t.lower title) = true) : Inked title := by
  by_contra hblank
  have hspaces : forall c, c ∈ title -> isSpace c = true := by
    intro c hc
    by_contra hink
    exact hblank ⟨c, hc, by simpa using hink⟩
  rw [t.lower_blank title hspaces] at h
  have hletter : 'e' ∈ "epic:".toList := List.mem_cons_self
  have hmem : 'e' ∈ title := (List.isPrefixOf_iff_prefix.mp h).subset hletter
  have hspace := hspaces 'e' hmem
  cases hspace

theorem generatedTitle_tidy (source : SourceIssue) : TidyTitle (generatedTitle t source) := by
  apply truncate_tidyTitle
  unfold fullTitle
  by_cases hepic : "epic:".toList.isPrefixOf (t.lower source.title) = true
  · rw [if_pos hepic]
    exact inked_of_epic t hepic
  · rw [if_neg hepic]
    exact (inked_of_any (s := "Epic: ".toList) rfl).append_left _

/-!
# Generated children
-/

theorem addFallback_titles {source : SourceIssue} {requestor : Option (List Char)}
    {fallbacks : List (List Char × List Char)}
    (hfallbacks : forall entry, entry ∈ fallbacks -> Inked entry.1)
    {children : List EpicProposalChild}
    (hchildren : forall child, child ∈ children -> TidyTitle child.title)
    (existing : List (List Char)) :
    forall child, child ∈ addFallback t source requestor topic children existing fallbacks ->
      TidyTitle child.title := by
  induction fallbacks generalizing children existing with
  | nil => exact hchildren
  | cons entry rest ih =>
    rcases entry with ⟨title, acceptance⟩
    have hrest : forall entry, entry ∈ rest -> Inked entry.1 :=
      fun entry hentry => hfallbacks entry (List.mem_cons_of_mem _ hentry)
    unfold addFallback
    split
    · exact hchildren
    · dsimp only
      split
      · exact ih hrest hchildren existing
      · apply ih hrest
        intro child hchild
        rcases List.mem_append.mp hchild with hold | hnew
        · exact hchildren child hold
        · rw [List.mem_singleton.mp hnew, fallbackChild, newChild_title]
          exact truncate_tidyTitle (hfallbacks _ List.mem_cons_self) 96

theorem fallbackItems_inked (topic : List Char) :
    forall entry, entry ∈ fallbackItems topic -> Inked entry.1 := by
  intro entry hentry
  unfold fallbackItems at hentry
  simp only [List.mem_cons, List.not_mem_nil, or_false] at hentry
  rcases hentry with rfl | rfl | rfl
  · exact ((inked_of_any (s := "Define ".toList) rfl).append_left _).append_left _
  · exact ((inked_of_any (s := "Implement ".toList) rfl).append_left _).append_left _
  · exact ((inked_of_any (s := "Add ".toList) rfl).append_left _).append_left _

theorem itemChild_tidy (source : SourceIssue) (requestor : Option (List Char))
    (htopic : Inked topic) (item : List Char) :
    TidyTitle (itemChild t source requestor topic item).title := by
  rw [itemChild, newChild_title]
  exact childTitle_tidy t htopic item

theorem generateChildren_titles (source : SourceIssue) (requestor : Option (List Char)) :
    forall child, child ∈ generateChildren t source requestor -> TidyTitle child.title := by
  intro child hchild
  have htopic := topicFromTitle_inked t source.title
  unfold generateChildren at hchild
  generalize topicFromTitle t source.title = topic at htopic hchild
  refine addFallback_titles t (fallbackItems_inked topic) ?_ _ child (List.mem_of_mem_take hchild)
  intro x hx
  obtain ⟨item, -, hitem⟩ := List.mem_map.mp hx
  rw [← hitem]
  exact itemChild_tidy t source requestor htopic item

theorem addFallback_prefix (source : SourceIssue) (requestor : Option (List Char))
    (topic : List Char) (children : List EpicProposalChild) (existing : List (List Char))
    (fallbacks : List (List Char × List Char)) :
    children <+: addFallback t source requestor topic children existing fallbacks := by
  induction fallbacks generalizing children existing with
  | nil => exact List.prefix_refl _
  | cons entry rest ih =>
    unfold addFallback
    split
    · exact List.prefix_refl _
    · dsimp only
      split
      · exact ih children existing
      · exact (List.prefix_append _ _).trans (ih _ _)

theorem addFallback_ne_nil (source : SourceIssue) (requestor : Option (List Char))
    (topic : List Char) (entry : List Char × List Char)
    (rest : List (List Char × List Char)) :
    addFallback t source requestor topic [] [] (entry :: rest) ≠ [] := by
  rcases entry with ⟨title, acceptance⟩
  unfold addFallback
  rw [if_neg (by decide)]
  rw [if_neg List.not_mem_nil]
  intro hnil
  have hprefix := addFallback_prefix t source requestor topic
    ([] ++ [fallbackChild source requestor topic title acceptance])
    [t.lower (fallbackChild source requestor topic title acceptance).title] rest
  rw [hnil, List.prefix_nil] at hprefix
  cases hprefix

theorem generateChildren_ne_nil (source : SourceIssue) (requestor : Option (List Char)) :
    generateChildren t source requestor ≠ [] := by
  unfold generateChildren
  generalize topicFromTitle t source.title = topic
  intro hnil
  have hall := (List.take_eq_nil_iff.mp hnil).resolve_left (by decide)
  cases hitems : acceptanceItems t (source.description.getD []) with
  | nil =>
    rw [hitems] at hall
    exact addFallback_ne_nil t source requestor topic _ _ hall
  | cons item items =>
    rw [hitems] at hall
    have hprefix := addFallback_prefix t source requestor topic
      ((item :: items).map (itemChild t source requestor topic))
      (((item :: items).map (itemChild t source requestor topic)).map
        fun child => t.lower child.title) (fallbackItems topic)
    rw [hall, List.prefix_nil] at hprefix
    cases hprefix

end Titles
end EpicProposals
end Oompah
