import Oompah.EpicProposals.Reading

/-!
# Recognising a posted proposal

A comment gives the signature of its proposal back when no title hides a marker of the
comment and nothing else is listed in front of the children.
-/

namespace Oompah
namespace EpicProposals

open Foundation TerminalAudit

/-!
# Lengths of lowered texts
-/

section Weights

variable (t : Tables)

/-- The length of a text once it is lowered. -/
def weight (s : List Char) : Nat :=
  (s.map t.width).sum

theorem weight_append (first second : List Char) :
    weight t (first ++ second) = weight t first + weight t second := by
  unfold weight
  rw [List.map_append, List.sum_append]

theorem weight_sublist {s more : List Char} (h : s.Sublist more) : weight t s ≤ weight t more := by
  induction h with
  | slnil => exact Nat.le_refl _
  | cons c _ ih =>
    show weight t _ ≤ t.width c + weight t _
    omega
  | cons_cons c _ ih =>
    show t.width c + weight t _ ≤ t.width c + weight t _
    omega

theorem length_le_weight (s : List Char) : s.length ≤ weight t s := by
  induction s with
  | nil => exact Nat.le_refl _
  | cons c rest ih =>
    have hc := t.width_pos c
    show rest.length + 1 ≤ t.width c + weight t rest
    omega

theorem weight_ascii {s : List Char} (h : s.all (fun c => c.toNat < 128) = true) :
    weight t s = s.length := by
  induction s with
  | nil => rfl
  | cons c rest ih =>
    rcases (Bool.and_eq_true _ _).mp h with ⟨hc, hrest⟩
    show t.width c + weight t rest = rest.length + 1
    rw [t.width_ascii c (of_decide_eq_true hc), ih hrest, Nat.add_comm]

theorem weight_collapse (inRun : Bool) (s : List Char) :
    weight t (collapse inRun s) ≤ weight t s := by
  induction s generalizing inRun with
  | nil => exact Nat.le_refl _
  | cons c rest ih =>
    unfold collapse
    split
    · have hspace : t.width ' ' = 1 := t.width_ascii ' ' (by decide)
      have hc := t.width_pos c
      have hrest := ih true
      split
      · show _ ≤ t.width c + weight t rest
        omega
      · show t.width ' ' + weight t (collapse true rest) ≤ t.width c + weight t rest
        omega
    · have hrest := ih false
      show t.width c + weight t (collapse false rest) ≤ t.width c + weight t rest
      omega

theorem weight_normalize (s : List Char) : weight t (normalizeText s) ≤ weight t s :=
  (weight_collapse t false _).trans (weight_sublist t (Text.strip_part s).sublist)

theorem titleKey_ne {title other : List Char} (htidy : Tidy title)
    (h : weight t other < weight t title) : titleKey t other ≠ titleKey t title := by
  intro hsame
  have hlength := congrArg List.length hsame
  unfold titleKey at hlength
  rw [t.lower_length, t.lower_length, htidy.normalize] at hlength
  have hother := weight_normalize t other
  unfold weight at h hother
  omega

/-- A title that is not read back whole is read back as another title. -/
theorem titleKey_boldTitle {title : List Char} (htidy : Tidy title) :
    titleKey t (boldTitle title) = titleKey t title ↔ ¬ EarlyStars title := by
  rw [← boldTitle_eq_iff]
  constructor
  · intro hsame
    by_contra hne
    apply titleKey_ne t htidy _ hsame
    rcases boldTitle_isPrefix title with ⟨rest, hrest⟩
    have hrestne : rest ≠ [] := by
      rintro rfl
      rw [List.append_nil] at hrest
      exact hne hrest
    have hlength := length_le_weight t rest
    have hpos := List.length_pos_of_ne_nil hrestne
    have hweight := congrArg (weight t) hrest
    rw [weight_append] at hweight
    omega
  · intro hsame
    rw [hsame]

end Weights

/-!
# The parts of a comment
-/

section Parts

variable (p : EpicProposal)

/-- The comment in front of the list of children. -/
def beforeChildren : List Char :=
  actor p ++ introduction ++ epicHeading ++ "\n\n**".toList ++ p.epicTitle ++
    "**\n\n".toList ++ p.epicSummary ++ "\n\n".toList

/-- What stands between the first heading of a list in the comment and the list of
children itself; nothing when the heading of the children is the first. -/
def listedBefore : List Char :=
  behind childHeading (beforeChildren p)

theorem comment_eq :
    buildEpicProposalComment p = beforeChildren p ++ (childHeading ++ childPart p) := by
  unfold buildEpicProposalComment epicPart beforeChildren
  simp only [List.append_assoc]

theorem childHeading_ne : childHeading ≠ [] :=
  List.cons_ne_nil _ _

theorem epicHeading_ne : epicHeading ≠ [] :=
  List.cons_ne_nil _ _

theorem newline_childHeading : '\n' ∉ childHeading :=
  not_newline_of_all rfl

/-- Without a heading in the requestor's name the epic is behind the first heading. -/
theorem behind_epicHeading (h : ¬ epicHeading <:+: actor p) :
    behind epicHeading (buildEpicProposalComment p) = epicPart p := by
  have hintro : introduction = ',' :: (introduction.tail.dropLast ++ ['\n']) := rfl
  have hplain : ¬ epicHeading <:+: introduction.tail.dropLast := by
    intro hinside
    have hhash : '#' ∈ introduction.tail.dropLast := hinside.subset List.mem_cons_self
    have hall : introduction.tail.dropLast.all (fun c => c ≠ '#') = true := rfl
    exact absurd rfl (of_decide_eq_true (List.all_eq_true.mp hall '#' hhash))
  have hcut : Text.cut epicHeading (buildEpicProposalComment p) =
      some (actor p ++ introduction, epicPart p) := by
    have htext : buildEpicProposalComment p = actor p ++ ',' ::
        (introduction.tail.dropLast ++ '\n' :: (epicHeading ++ epicPart p)) := by
      unfold buildEpicProposalComment
      rw [hintro]
      simp
    rw [htext, Text.cut_separated epicHeading_ne (by decide) h,
      Text.cut_separated epicHeading_ne (not_newline_of_all rfl) hplain,
      Text.cut_self epicHeading_ne]
    rw [hintro]
    simp
  unfold behind
  rw [hcut]

theorem beforeChildren_eq : exists front, beforeChildren p = front ++ ['\n'] := by
  refine ⟨actor p ++ introduction ++ epicHeading ++ "\n\n**".toList ++ p.epicTitle ++
    "**\n\n".toList ++ p.epicSummary ++ ['\n'], ?_⟩
  unfold beforeChildren
  simp

theorem behind_childHeading :
    (childHeading <:+: beforeChildren p ∧ (listedBefore p).getLast? = some '\n' ∧
      behind childHeading (buildEpicProposalComment p) =
        listedBefore p ++ (childHeading ++ childPart p)) ∨
    (listedBefore p = [] ∧ behind childHeading (buildEpicProposalComment p) = childPart p) := by
  rw [comment_eq]
  rcases beforeChildren_eq p with ⟨front, hfront⟩
  cases hcut : Text.cut childHeading (beforeChildren p) with
  | some parts =>
    rcases parts with ⟨a, b⟩
    left
    have hlisted : listedBefore p = b := by
      unfold listedBefore behind
      rw [hcut]
    have hparts := Text.cut_eq_some hcut
    have hlast : b.getLast? = some '\n' := by
      have hend : (a ++ childHeading ++ b).getLast? = some '\n' := by
        rw [← hparts, hfront, List.getLast?_append]
        rfl
      rw [List.getLast?_append] at hend
      rcases Option.or_eq_some_iff.mp hend with hb | ⟨-, hheading⟩
      · exact hb
      · have hs : childHeading.getLast? = some 's' := rfl
        rw [List.getLast?_append, hs] at hheading
        exact absurd (Option.some.inj hheading) (by decide)
    rw [hlisted]
    refine ⟨by rw [hparts]; exact ⟨a, b, rfl⟩, hlast, ?_⟩
    unfold behind
    rw [Text.cut_append childHeading_ne hcut]
  | none =>
    right
    have hplain : ¬ childHeading <:+: front := by
      intro hinside
      apply Text.cut_eq_none.mp hcut
      rw [hfront]
      exact List.infix_append_of_infix_left hinside
    refine ⟨by unfold listedBefore behind; rw [hcut], ?_⟩
    unfold behind
    have htext : beforeChildren p ++ (childHeading ++ childPart p) =
        front ++ '\n' :: (childHeading ++ childPart p) := by
      rw [hfront]
      simp
    rw [htext, Text.cut_separated childHeading_ne newline_childHeading hplain,
      Text.cut_self childHeading_ne]
    rfl

/-- A title without the heading of the list is in front of it, on a line of its own. -/
theorem inFront_title (h : ¬ childHeading <:+: p.epicTitle) :
    exists more, inFront childHeading (epicPart p) =
      "\n\n**".toList ++ p.epicTitle ++ "**\n".toList ++ more := by
  have hstar : '*' ∉ childHeading := by decide
  have hplain : ¬ childHeading <:+: ['\n', '\n', '*'] ++ '*' :: (p.epicTitle ++ '*' :: ['*']) := by
    rw [Text.infix_append_cons hstar, Text.infix_append_cons hstar]
    rintro (hinside | hinside | hinside)
    · exact absurd hinside.length_le (by decide)
    · exact h hinside
    · exact absurd hinside.length_le (by decide)
  have htext : epicPart p = (['\n', '\n', '*'] ++ '*' :: (p.epicTitle ++ '*' :: ['*'])) ++
      '\n' :: ('\n' :: p.epicSummary ++ "\n\n".toList ++ childHeading ++ childPart p) := by
    unfold epicPart
    simp
  have hheading : childHeading <:+:
      '\n' :: p.epicSummary ++ "\n\n".toList ++ childHeading ++ childPart p :=
    ⟨_, _, rfl⟩
  cases hcut : Text.cut childHeading
      ('\n' :: p.epicSummary ++ "\n\n".toList ++ childHeading ++ childPart p) with
  | none => exact absurd hheading (Text.cut_eq_none.mp hcut)
  | some parts =>
    refine ⟨parts.1, ?_⟩
    unfold inFront
    rw [htext, Text.cut_separated childHeading_ne newline_childHeading hplain, hcut]
    simp

theorem inFront_heading (h : childHeading <:+: p.epicTitle) :
    exists first rest, p.epicTitle = first ++ childHeading ++ rest ∧
      inFront childHeading (epicPart p) = "\n\n**".toList ++ first := by
  cases hcut : Text.cut childHeading p.epicTitle with
  | none => exact absurd h (Text.cut_eq_none.mp hcut)
  | some parts =>
    rcases parts with ⟨first, rest⟩
    refine ⟨first, rest, Text.cut_eq_some hcut, ?_⟩
    have hplain : ¬ childHeading <:+: ['\n', '\n', '*'] := by
      intro hinside
      exact absurd hinside.length_le (by decide)
    have htext : epicPart p = ['\n', '\n', '*'] ++ '*' :: (p.epicTitle ++
        ("**\n\n".toList ++ p.epicSummary ++ "\n\n".toList ++ childHeading ++ childPart p)) := by
      unfold epicPart
      simp
    unfold inFront
    rw [htext, Text.cut_separated childHeading_ne (by decide) hplain,
      Text.cut_append childHeading_ne hcut]
    rfl

end Parts

/-!
# What is read of a title that is cut
-/

section Cut

variable (t : Tables)

theorem firstLine_sublist {lines : List (List Char)} {s : List Char}
    (h : forall line, line ∈ lines -> line.Sublist s) : (firstLine lines).Sublist s := by
  induction lines with
  | nil => exact List.nil_sublist s
  | cons line rest ih =>
    unfold firstLine
    dsimp only
    split
    · exact ih fun other hother => h other (List.mem_cons_of_mem _ hother)
    · have hline := h line List.mem_cons_self
      exact ((Text.strip_part _).sublist.trans (Text.strip_part line).sublist).trans hline

theorem readEpicTitle_sublist (part : List Char) : (readEpicTitle t part).Sublist part := by
  unfold readEpicTitle
  split
  · rename_i found hfound
    refine Matcher.search_sublist ?_ hfound
    intro p found hp
    exact Matcher.capture_sublist
      (Matcher.advances_andThen (Matcher.advances_lineStart _) (Matcher.advances_ofPattern _)) hp
  · exact firstLine_sublist fun line hline => (Text.splitLines_part hline).sublist

/-- The part of a title in front of the heading is another title. -/
theorem titleKey_cut {title first rest : List Char} (htidy : Tidy title)
    (htitle : title = first ++ childHeading ++ rest) :
    titleKey t (readEpicTitle t ("\n\n**".toList ++ first)) ≠ titleKey t title := by
  apply titleKey_ne t htidy
  have hread := weight_sublist t (readEpicTitle_sublist t ("\n\n**".toList ++ first))
  have hopening : weight t "\n\n**".toList = 4 := weight_ascii t rfl
  have hheading : weight t childHeading = 23 := weight_ascii t rfl
  rw [weight_append, hopening] at hread
  rw [htitle, weight_append, weight_append, hheading]
  omega

end Cut

/-!
# Recognition
-/

section Recognition

variable (t : Tables)

/-- The comment of a proposal gives its signature back. -/
def Recognised (p : EpicProposal) : Prop :=
  signatureFromText t (buildEpicProposalComment p) = some (signature t p)

/-- No title hides a marker of the comment, and nothing is listed in front of the
children. -/
structure Plain (p : EpicProposal) : Prop where
  title : ¬ childHeading <:+: p.epicTitle
  children : forall child, child ∈ p.children -> ¬ EarlyStars child.title
  listed : readChildTitles t (listedBefore p) = []

/-- A proposal with titles of one line each, as they are generated. -/
structure Generated (p : EpicProposal) : Prop where
  title : TidyTitle p.epicTitle
  titles : forall child, child ∈ p.children -> TidyTitle child.title
  children : p.children ≠ []
  fingerprint : '\n' ∉ p.fingerprint

theorem generateEpicProposal_generated (source : SourceIssue) (warnings : List (List Char))
    (requestor : Option (List Char)) :
    Generated (generateEpicProposal t source warnings requestor) := by
  constructor
  · exact generatedTitle_tidy t source
  · exact generateChildren_titles t source requestor
  · exact generateChildren_ne_nil t source requestor
  · intro hnewline
    have hhex := t.sha256_hex _ '\n' hnewline
    exact absurd hhex (by decide)

variable {t} {p : EpicProposal}

theorem Generated.childTitles (h : Generated p) :
    readChildTitles t (behind childHeading (buildEpicProposalComment p)) =
      readChildTitles t (listedBefore p) ++ p.children.map fun child => boldTitle child.title := by
  have htitles : forall child, child ∈ p.children -> LineTitle child.title :=
    fun child hchild => (h.titles child hchild).line
  rcases behind_childHeading p with ⟨-, hlast, hbehind⟩ | ⟨hlisted, hbehind⟩
  · rw [hbehind]
    exact readChildTitles_append t h.fingerprint h.children htitles hlast
  · rw [hbehind, hlisted]
    exact readChildTitles_childPart t h.fingerprint h.children htitles

theorem signature_eq (hepic : ¬ epicHeading <:+: actor p) :
    signatureFromText t (buildEpicProposalComment p) =
      (let epicTitle := readEpicTitle t (inFront childHeading (epicPart p))
       let childTitles := readChildTitles t (behind childHeading (buildEpicProposalComment p))
       if epicTitle = [] ∨ childTitles = [] then none
       else some (titleKey t epicTitle, childTitles.map (titleKey t))) := by
  have hannouncement : announcement <:+: buildEpicProposalComment p := by
    refine ⟨actor p ++ ", this issue looks too large for one implementation task. ".toList,
      " for review.\n\n".toList ++ epicHeading ++ epicPart p, ?_⟩
    unfold buildEpicProposalComment introduction
    simp only [List.append_assoc]
  have hheading : epicHeading <:+: buildEpicProposalComment p :=
    ⟨actor p ++ introduction, epicPart p, rfl⟩
  have hchild : childHeading <:+: buildEpicProposalComment p := by
    refine ⟨beforeChildren p, childPart p, ?_⟩
    rw [comment_eq, List.append_assoc]
  have hmarked : ¬ ((Text.cut announcement (buildEpicProposalComment p)).isNone = true ∨
      (Text.cut epicHeading (buildEpicProposalComment p)).isNone = true ∨
      (Text.cut childHeading (buildEpicProposalComment p)).isNone = true) := by
    simp only [Option.isNone_iff_eq_none, Text.cut_eq_none]
    rintro (h | h | h)
    · exact h hannouncement
    · exact h hheading
    · exact h hchild
  unfold signatureFromText
  rw [if_neg hmarked, behind_epicHeading p hepic]

theorem map_append_eq {α β : Type} {f : α -> β} {extra first second : List α}
    (hlength : first.length = second.length)
    (h : (extra ++ first).map f = second.map f) : extra = [] ∧ first.map f = second.map f := by
  have hlengths := congrArg List.length h
  rw [List.length_map, List.length_map, List.length_append] at hlengths
  have hextra : extra = [] := List.eq_nil_of_length_eq_zero (by omega)
  rw [hextra, List.nil_append] at h
  exact ⟨hextra, h⟩

theorem Generated.recognised_iff (h : Generated p) (hepic : ¬ epicHeading <:+: actor p) :
    Recognised t p ↔ Plain t p := by
  unfold Recognised
  rw [signature_eq hepic, h.childTitles]
  dsimp only
  have hchildren : (p.children.map fun child => boldTitle child.title).length =
      (p.children.map EpicProposalChild.title).length := by
    rw [List.length_map, List.length_map]
  constructor
  · intro hsame
    split at hsame
    · cases hsame
    · have hpair := Option.some.inj hsame
      have htitle := congrArg Prod.fst hpair
      have htitles : (readChildTitles t (listedBefore p) ++
          p.children.map fun child => boldTitle child.title).map (titleKey t) =
          (p.children.map EpicProposalChild.title).map (titleKey t) := by
        rw [List.map_map (g := titleKey t) (f := EpicProposalChild.title)]
        exact congrArg Prod.snd hpair
      rcases map_append_eq hchildren htitles with ⟨hlisted, hmap⟩
      constructor
      · intro hinside
        rcases inFront_heading p hinside with ⟨first, rest, hparts, hfront⟩
        rw [hfront] at htitle
        exact titleKey_cut t h.title.left hparts htitle
      · intro child hchild
        rw [List.map_map, List.map_map] at hmap
        have hkey := List.map_inj_left.mp hmap child hchild
        exact (titleKey_boldTitle t (h.titles child hchild).left).mp hkey
      · exact hlisted
  · intro hplain
    rcases inFront_title p hplain.title with ⟨more, hfront⟩
    have htitles : (p.children.map fun child => boldTitle child.title) =
        p.children.map EpicProposalChild.title := by
      apply List.map_congr_left
      intro child hchild
      exact (boldTitle_eq_iff child.title).mpr (hplain.children child hchild)
    rw [hfront, readEpicTitle_line t h.title.line, hplain.listed, List.nil_append, htitles]
    rw [if_neg]
    · unfold signature
      rw [List.map_map]
      rfl
    · rintro (hnil | hnil)
      · exact h.title.right hnil
      · exact h.children (List.map_eq_nil_iff.mp hnil)

end Recognition

/-- The comment of a generated proposal gives its signature back when it is plain and its
requestor's name does not hold the first heading; where the name does not, only then. -/
theorem generated_comment_recognised (t : Tables) (source : SourceIssue)
    (warnings : List (List Char)) (requestor : Option (List Char)) :
    (¬ epicHeading <:+: actor (generateEpicProposal t source warnings requestor) ∧
        Plain t (generateEpicProposal t source warnings requestor) ->
      Recognised t (generateEpicProposal t source warnings requestor)) ∧
    (¬ epicHeading <:+: actor (generateEpicProposal t source warnings requestor) ->
      Recognised t (generateEpicProposal t source warnings requestor) ->
        Plain t (generateEpicProposal t source warnings requestor)) := by
  have hgenerated := generateEpicProposal_generated t source warnings requestor
  constructor
  · rintro ⟨hepic, hplain⟩
    exact (hgenerated.recognised_iff hepic).mpr hplain
  · intro hepic hrecognised
    exact (hgenerated.recognised_iff hepic).mp hrecognised

/-- An issue with one bullet. -/
def sampleIssue (bullet : String) : SourceIssue :=
  { identifier := "X-1".toList
    title := "Big request".toList
    description := some ("- ".toList ++ bullet.toList)
    issueType := "task".toList
    url := none
    priority := none }

theorem sampleIssue_actor (bullet : String) : ¬ epicHeading <:+: actor
    (generateEpicProposal asciiTables (sampleIssue bullet) [] none) := by
  intro hinside
  have hshort : (actor (generateEpicProposal asciiTables (sampleIssue bullet) [] none)).length <
      epicHeading.length := of_decide_eq_true rfl
  exact absurd hinside.length_le (Nat.not_le_of_lt hshort)

example : Recognised asciiTables
    (generateEpicProposal asciiTables (sampleIssue "Keep plain marks") [] none) :=
  ((generateEpicProposal_generated asciiTables _ [] none).recognised_iff
    (sampleIssue_actor _)).mpr ⟨by decide +kernel, by decide +kernel, by decide +kernel⟩

theorem sampleIssue_title : (generateEpicProposal asciiTables
    (sampleIssue "Keep **bold** marks") [] none).children.head?.map EpicProposalChild.title =
      some "Implement keep **bold** marks".toList := by
  decide +kernel

/-- The comment of a proposal with a bold word in a title is not recognised. -/
theorem boldBullet_not_recognised : ¬ Recognised asciiTables
      (generateEpicProposal asciiTables (sampleIssue "Keep **bold** marks") [] none) := by
  intro hrecognised
  have hgenerated := generateEpicProposal_generated asciiTables
    (sampleIssue "Keep **bold** marks") [] none
  have hplain := (hgenerated.recognised_iff (sampleIssue_actor _)).mp hrecognised
  obtain ⟨child, hchild, htitle⟩ := Option.map_eq_some_iff.mp sampleIssue_title
  apply hplain.children child (List.mem_of_head? hchild)
  rw [htitle]
  decide

end EpicProposals
end Oompah
