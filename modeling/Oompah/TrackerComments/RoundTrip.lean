import Oompah.TrackerComments.Authors

/-!
# Comments round trip

A comments section with the records of some entries is read back as their comments.
`fetchComments_run` says of which requests that stays so: those whose author and text
do not end their record or their section early.
-/

namespace Oompah
namespace TrackerComments

open Foundation.Text

/-! ## Bodies -/

/-- A body with none of the comment markers. -/
def Plain (body : Str) : Prop :=
  forall marker, marker ∈ markers -> ¬ marker <:+: body

def records (entries : List Entry) : Str :=
  entries.flatMap Entry.record

/-- The body before its comments section. -/
def frame (body : Str) : Str :=
  body.rdropWhile (fun c => c = '\n') ++ "\n\n## Comments\n".toList

/-- A body with a comments section. -/
def framed (body content : Str) : Str :=
  frame body ++ commentsBegin ++ ('\n' :: content ++ commentsEnd ++ ['\n'])

def commentsFrom : Nat -> List Entry -> List Comment
  | _, [] => []
  | existingCount, entry :: entries =>
    entry.comment existingCount :: commentsFrom (existingCount + 1) entries

variable {body content : Str} {entries : List Entry} {entry : Entry} {marker : Str}

theorem commentsFrom_append (existingCount : Nat) (first second : List Entry) :
    commentsFrom existingCount (first ++ second) =
      commentsFrom existingCount first ++ commentsFrom (existingCount + first.length) second := by
  induction first generalizing existingCount with
  | nil => rfl
  | cons entry first ih =>
    show entry.comment existingCount :: commentsFrom (existingCount + 1) (first ++ second) = _
    rw [ih (existingCount + 1)]
    show _ = entry.comment existingCount :: (commentsFrom (existingCount + 1) first ++
      commentsFrom (existingCount + (first.length + 1)) second)
    rw [Nat.add_right_comm existingCount 1, Nat.add_assoc existingCount]

theorem marker_not_mem {s : Str} (h : marker ∈ markers) (hs : '<' ∉ s) : ¬ marker <:+: s := by
  rcases (escapable_of_mem h).shape with ⟨tl, _, htl, _⟩
  rw [htl]
  exact fun hinside => hs (hinside.subset List.mem_cons_self)

theorem frame_plain (h : Plain body) : Plain (frame body) := by
  intro marker hmarker hinside
  have hcomments : "\n\n## Comments\n".toList = '\n' :: "\n## Comments\n".toList := by decide
  unfold frame at hinside
  rw [hcomments] at hinside
  rcases (infix_append_cons (escapable_of_mem hmarker).newline).mp hinside with hbody | hrest
  · exact h marker hmarker (hbody.trans (List.rdropWhile_prefix _ body).isInfix)
  · exact marker_not_mem hmarker (by decide) hrest

theorem opened_free (h : Plain body) (hcontent : ¬ commentsEnd <:+: content) :
    ¬ commentsEnd <:+: frame body ++ commentsBegin ++ '\n' :: content := by
  have hmem : commentsEnd ∈ markers := by decide
  intro hinside
  rcases (infix_append_cons (escapable_of_mem hmem).newline).mp hinside with hleft | hright
  · have hbegin : commentsBegin = '<' :: commentsBegin.tail := by decide
    have hend : commentsEnd = '<' :: commentsEnd.tail := by decide
    have hp : '<' ∉ commentsEnd.tail := by decide
    rw [hbegin, hend] at hleft
    rcases (marker_infix_append hp).mp hleft with hframe | hmarker
    · rw [← hend] at hframe
      exact frame_plain h commentsEnd hmem hframe
    · rw [← hend, ← hbegin] at hmarker
      revert hmarker
      decide
  · exact hcontent hright

theorem record_free {rest : Str} (h : entry.WellFormed)
    (hauthor : ¬ commentsEnd <:+: entry.author) (hrest : ¬ commentsEnd <:+: rest) :
    ¬ commentsEnd <:+: entry.record ++ rest := by
  have hmem : commentsEnd ∈ markers := by decide
  have hnewline := (escapable_of_mem hmem).newline
  have hend : commentsEnd = '<' :: commentsEnd.tail := by decide
  intro hinside
  rw [record_eq] at hinside
  rcases (infix_append_cons hnewline).mp hinside with hfirst | hinside
  · rw [hend, infix_append_of_head_not_mem (by decide), ← hend] at hfirst
    exact hauthor hfirst
  rcases (infix_append_cons hnewline).mp hinside with hsecond | hinside
  · rw [hend, infix_append_of_head_not_mem (by decide), ← hend] at hsecond
    exact marker_not_mem hmem (fun hc => (h.created_stamp '<' hc).right.left rfl) hsecond
  rcases (infix_append_cons hnewline).mp hinside with hthird | hinside
  · exact marker_not_mem hmem (by decide) hthird
  rcases (infix_append_cons hnewline).mp hinside with htext | hinside
  · exact h.text_marker htext
  rcases (infix_append_cons hnewline).mp hinside with hfifth | hinside
  · exact marker_not_mem hmem (by decide) hfifth
  · exact hrest hinside

/-- Entries whose records stay inside their section. -/
def Contained (entries : List Entry) : Prop :=
  forall entry, entry ∈ entries -> entry.WellFormed ∧ StorableAuthor entry.author

/-- Entries whose records are read back as they were written. -/
def Readable (entries : List Entry) : Prop :=
  Contained entries ∧ forall entry, entry ∈ entries -> StorableText entry.text

theorem Contained.tail (h : Contained (entry :: entries)) : Contained entries :=
  fun e he => h e (List.mem_cons_of_mem entry he)

theorem Contained.concat (h : Contained entries) (hentry : entry.WellFormed)
    (hauthor : StorableAuthor entry.author) : Contained (entries ++ [entry]) := by
  intro e he
  rcases List.mem_append.mp he with he | he
  · exact h e he
  · rw [List.mem_singleton.mp he]
    exact ⟨hentry, hauthor⟩

theorem Readable.tail (h : Readable (entry :: entries)) : Readable entries :=
  ⟨h.left.tail, fun e he => h.right e (List.mem_cons_of_mem entry he)⟩

theorem Readable.concat (h : Readable entries) (hentry : entry.WellFormed)
    (hauthor : StorableAuthor entry.author) (htext : StorableText entry.text) :
    Readable (entries ++ [entry]) := by
  refine ⟨h.left.concat hentry hauthor, ?_⟩
  intro e he
  rcases List.mem_append.mp he with he | he
  · exact h.right e he
  · rw [List.mem_singleton.mp he]
    exact htext

theorem records_free (h : Contained entries) : ¬ commentsEnd <:+: records entries := by
  induction entries with
  | nil => exact marker_not_mem (by decide) List.not_mem_nil
  | cons entry entries ih =>
    rcases h entry List.mem_cons_self with ⟨hentry, hauthor⟩
    exact record_free hentry hauthor.right (ih h.tail)

theorem records_concat (entries : List Entry) (entry : Entry) :
    records (entries ++ [entry]) = records entries ++ entry.record := by
  unfold records
  rw [List.flatMap_append, List.flatMap_singleton]

theorem records_lines (h : Contained entries) (rest : Str) :
    splitLines (records entries ++ rest) = entries.flatMap Entry.lines ++ splitLines rest := by
  induction entries with
  | nil => rfl
  | cons entry entries ih =>
    rcases h entry List.mem_cons_self with ⟨hentry, hauthor⟩
    have hcons : records (entry :: entries) ++ rest =
        entry.record ++ (records entries ++ rest) := List.append_assoc _ _ _
    rw [hcons, record_lines hentry hauthor.left, ih h.tail, List.flatMap_cons, List.append_assoc]

theorem record_last (entry : Entry) :
    exists init, entry.record = init ++ ['\n'] ∧ init.getLast? = some '-' := by
  refine ⟨"author: ".toList ++ entry.author ++ "\ncreated: ".toList ++ entry.created ++
    "\n---\n".toList ++ entry.text ++ "\n---".toList, ?_, ?_⟩
  · have hsplit : "\n---\n".toList = "\n---".toList ++ ['\n'] := by decide
    unfold Entry.record formatTrackerComment
    nth_rewrite 2 [hsplit]
    rw [← List.append_assoc]
  · rw [List.getLast?_append]
    rfl

/-! ## Appending -/

theorem append_plain (hbody : body ≠ []) (h : Plain body) (text author created : Str) :
    appendTrackerComment body text author created =
      framed body (formatTrackerComment author created (sanitizeCommentText text)) := by
  unfold appendTrackerComment
  simp only [cut_eq_none.mpr (h commentsEnd (by decide)), if_neg hbody]
  unfold framed frame
  simp only [List.append_assoc, List.cons_append, List.nil_append]

theorem append_framed (h : Plain body) (hcontent : ¬ commentsEnd <:+: content)
    (hlast : content.getLast? = some '\n') (text author created : Str) :
    appendTrackerComment (framed body content) text author created =
      framed body (content ++ formatTrackerComment author created (sanitizeCommentText text)) := by
  have hcut : cut commentsEnd (framed body content) =
      some (frame body ++ commentsBegin ++ '\n' :: content, ['\n']) := by
    have hend : commentsEnd = '<' :: commentsEnd.tail := by decide
    have hfree := opened_free h hcontent
    have heq : framed body content =
        (frame body ++ commentsBegin ++ '\n' :: content) ++ commentsEnd ++ ['\n'] := by
      unfold framed
      simp only [List.append_assoc, List.cons_append]
    rw [heq]
    rw [hend] at hfree ⊢
    exact cut_marker (by decide) hfree
  have hnewline : ¬ (frame body ++ commentsBegin ++ '\n' :: content ≠ [] ∧
      (frame body ++ commentsBegin ++ '\n' :: content).getLast? ≠ some '\n') := by
    intro hlead
    apply hlead.right
    rw [List.getLast?_append, List.getLast?_cons, hlast]
    rfl
  unfold appendTrackerComment
  simp only [hcut, if_neg hnewline]
  unfold framed
  simp only [List.append_assoc, List.cons_append]

/-! ## Reading a framed body -/

theorem cut_frame (h : Plain body) (content : Str) : cut commentsBegin (framed body content) =
      some (frame body, '\n' :: content ++ commentsEnd ++ ['\n']) := by
  have hbegin : commentsBegin = '<' :: commentsBegin.tail := by decide
  have hfree := frame_plain h commentsBegin (by decide)
  unfold framed
  rw [hbegin] at hfree ⊢
  exact cut_marker (by decide) hfree

theorem framed_length (body content : Str) :
    exists fuel, (framed body content).length = fuel + 1 := by
  refine ⟨(frame body ++ commentsBegin ++ ('\n' :: content ++ commentsEnd)).length, ?_⟩
  unfold framed
  simp only [List.length_append, List.length_cons, List.length_nil]
  omega

theorem framed_sections_ne_nil (h : Plain body) (content : Str) :
    sections (framed body content) ≠ [] := by
  rcases framed_length body content with ⟨fuel, hfuel⟩
  unfold sections
  rw [hfuel, between, cut_frame h content]
  cases hcut : cut commentsEnd ('\n' :: content ++ commentsEnd ++ ['\n']) with
  | none =>
    exact absurd (List.infix_append ('\n' :: content) commentsEnd ['\n']) (cut_eq_none.mp hcut)
  | some parts =>
    simp only [hcut]
    exact List.cons_ne_nil _ _

theorem framed_sections (h : Plain body) (hcontent : ¬ commentsEnd <:+: content) :
    sections (framed body content) = [dropLastNewline content] := by
  rcases framed_length body content with ⟨fuel, hfuel⟩
  have hclose : cut commentsEnd ('\n' :: content ++ commentsEnd ++ ['\n']) =
      some ('\n' :: content, ['\n']) := by
    have hend : commentsEnd = '<' :: commentsEnd.tail := by decide
    have hfree : ¬ commentsEnd <:+: '\n' :: content := by
      intro hinside
      have hnewline := (escapable_of_mem (by decide : commentsEnd ∈ markers)).newline
      rcases (infix_append_cons (a := []) hnewline).mp hinside with hnil | hinside
      · exact marker_not_mem (by decide) List.not_mem_nil hnil
      · exact hcontent hinside
    rw [hend] at hfree ⊢
    exact cut_marker (by decide) hfree
  have hafter : between commentsBegin commentsEnd fuel ['\n'] = [] := by
    cases fuel with
    | zero => rfl
    | succ fuel =>
      have hnone : cut commentsBegin ['\n'] = none := by decide
      rw [between, hnone]
  unfold sections
  rw [hfuel, between, cut_frame h content]
  simp only [hclose, hafter, List.map_cons, List.map_nil]
  rfl

theorem framed_comments (h : Plain body) (hcontent : ¬ commentsEnd <:+: content) :
    parseTrackerComments (framed body content) =
      parseCommentsSection (dropLastNewline content) 0 := by
  unfold parseTrackerComments
  rw [if_pos (framed_sections_ne_nil h content), framed_sections h hcontent]
  show parseCommentsSection (dropLastNewline content) 0 ++ [] = _
  rw [List.append_nil]

theorem framed_author {comment : Comment} {author : Str} (h : Plain body)
    (hmem : comment ∈ parseTrackerComments (framed body content))
    (hauthor : comment.author = some author) : StorableAuthor author := by
  unfold parseTrackerComments at hmem
  rw [if_pos (framed_sections_ne_nil h content)] at hmem
  refine commentsOfSections_author ?_ hmem hauthor
  intro section_ hsection
  rcases List.mem_map.mp hsection with ⟨inner, hinner, rfl⟩
  intro hinside
  exact between_inner (by decide) hinner (hinside.trans (trimNewlines_part inner))

theorem dropLastNewline_lines (hlast : exists init, content = init ++ ['\n'] ∧
    init.getLast? = some '-') : splitLines (dropLastNewline content) = splitLines content := by
  rcases hlast with ⟨init, rfl, hlast⟩
  have hdrop : dropLastNewline (init ++ ['\n']) = init := by
    unfold dropLastNewline
    rw [if_pos (by simp), List.dropLast_concat]
  have hne : init ≠ [] := by
    rintro rfl
    cases hlast
  have hboundary : forall c, init.getLast? = some c -> isBoundary c = false := by
    intro c hc
    rw [hlast] at hc
    rw [← Option.some.inj hc]
    decide
  rw [hdrop, splitLines_newline hne hboundary]
  show splitLines init = splitLines init ++ []
  rw [List.append_nil]

theorem commentsOfLines_records (h : Readable entries) (fuel existingCount : Nat)
    (rest : List Str) :
    commentsOfLines (fuel + entries.length) (entries.flatMap Entry.lines ++ rest) existingCount =
      commentsFrom existingCount entries ++
        commentsOfLines fuel rest (existingCount + entries.length) := by
  induction entries generalizing existingCount with
  | nil => rfl
  | cons entry entries ih =>
    have hentry := (h.left entry List.mem_cons_self).left
    have htext := h.right entry List.mem_cons_self
    rcases commentsOfLines_record hentry (fuel + entries.length) existingCount
      (entries.flatMap Entry.lines ++ rest) with ⟨text, after, hparse, hstorable, _⟩
    rcases hstorable htext with ⟨rfl, rfl⟩
    rw [List.flatMap_cons, List.append_assoc, List.length_cons, ← Nat.add_assoc, hparse,
      ih h.tail, Nat.add_right_comm existingCount 1, Nat.add_assoc existingCount]
    rfl

theorem records_last (entries : List Entry) (entry : Entry) :
    exists init, records (entries ++ [entry]) = init ++ ['\n'] ∧ init.getLast? = some '-' := by
  rcases record_last entry with ⟨init, hrecord, hlast⟩
  refine ⟨records entries ++ init, ?_, ?_⟩
  · rw [records_concat, hrecord, List.append_assoc]
  · rw [List.getLast?_append, hlast]
    rfl

theorem lines_length (entries : List Entry) (entry : Entry) :
    exists fuel, (entries.flatMap Entry.lines ++ entry.lines).length =
      fuel + 1 + entries.length := by
  have hentries : entries.length ≤ (entries.flatMap Entry.lines).length := by
    induction entries with
    | nil => exact Nat.zero_le _
    | cons entry entries ih =>
      have hlines : 1 ≤ entry.lines.length := Nat.le_add_left 1 _
      rw [List.flatMap_cons, List.length_append, List.length_cons]
      omega
  have hlines : 1 ≤ entry.lines.length := Nat.le_add_left 1 _
  rw [List.length_append]
  exact ⟨(entries.flatMap Entry.lines).length + entry.lines.length - 1 - entries.length, by omega⟩

/-- A record behind readable ones is read back exactly if its author and text are storable. -/
theorem framed_records_iff (hbody : Plain body) (h : Readable entries) (hentry : entry.WellFormed) :
    parseTrackerComments (framed body (records (entries ++ [entry]))) =
        commentsFrom 0 (entries ++ [entry]) ↔
      StorableAuthor entry.author ∧ StorableText entry.text := by
  have hparse : StorableAuthor entry.author ->
      exists fuel, parseTrackerComments (framed body (records (entries ++ [entry]))) =
        commentsFrom 0 entries ++
          commentsOfLines (fuel + 1) (entry.lines ++ []) (0 + entries.length) := by
    intro hauthor
    have hcontained := h.left.concat hentry hauthor
    rcases lines_length entries entry with ⟨fuel, hfuel⟩
    refine ⟨fuel, ?_⟩
    have hlines := records_lines hcontained []
    rw [List.append_nil, List.flatMap_append, List.flatMap_singleton] at hlines
    rw [framed_comments hbody (records_free hcontained)]
    unfold parseCommentsSection
    rw [dropLastNewline_lines (records_last entries entry), hlines]
    show commentsOfLines (_ ++ []).length (_ ++ []) 0 = _
    rw [List.append_nil, hfuel, commentsOfLines_records h, List.append_nil]
  constructor
  · intro hread
    have hmem : entry.comment (0 + entries.length) ∈
        parseTrackerComments (framed body (records (entries ++ [entry]))) := by
      rw [hread, commentsFrom_append]
      exact List.mem_append_right _ List.mem_cons_self
    have hauthor : StorableAuthor entry.author := framed_author hbody hmem rfl
    rcases hparse hauthor with ⟨fuel, hparsed⟩
    rcases commentsOfLines_record hentry fuel (0 + entries.length) [] with
      ⟨text, after, hrecord, _, hstorable⟩
    rw [hparsed, hrecord, commentsFrom_append] at hread
    have hcomment := (List.cons.inj (List.append_cancel_left hread)).left
    exact ⟨hauthor, hstorable (congrArg Comment.text hcomment)⟩
  · rintro ⟨hauthor, htext⟩
    rcases hparse hauthor with ⟨fuel, hparsed⟩
    rcases commentsOfLines_record hentry fuel (0 + entries.length) [] with
      ⟨text, after, hrecord, hstorable, _⟩
    rcases hstorable htext with ⟨rfl, rfl⟩
    rw [hparsed, hrecord, commentsFrom_append]
    cases fuel with
    | zero => rfl
    | succ fuel => rfl

/-! ## Runs -/

def CommentRequest.Accepted (request : CommentRequest) : Prop :=
  strip isSpace request.text ≠ []

instance (request : CommentRequest) : Decidable request.Accepted :=
  inferInstanceAs (Decidable (_ ≠ _))

def CommentRequest.toEntry (request : CommentRequest) : Entry :=
  { author := commentAuthorField request.author "oompah".toList
    created := formatCommentTimestamp request.now
    text := sanitizeCommentText (strip isSpace request.text) }

/-- The entries that some requests append. -/
def appended (requests : List CommentRequest) : List Entry :=
  (requests.filter fun request => request.Accepted).map CommentRequest.toEntry

/-- A request that is refused, or whose author and text its record can hold. -/
def CommentRequest.Storable (request : CommentRequest) : Prop :=
  request.Accepted -> StorableAuthor request.toEntry.author ∧ StorableText request.toEntry.text

instance (request : CommentRequest) : Decidable request.Storable :=
  inferInstanceAs (Decidable (_ -> _ ∧ _))

theorem toEntry_text (request : CommentRequest) :
    request.toEntry.text = sanitizeCommentText (strip isSpace request.text) := by
  simp only [CommentRequest.toEntry]

theorem toEntry_record (request : CommentRequest) : request.toEntry.record =
      formatTrackerComment (commentAuthorField request.author "oompah".toList)
        (formatCommentTimestamp request.now)
        (sanitizeCommentText (strip isSpace request.text)) := by
  simp only [Entry.record, CommentRequest.toEntry]

theorem toEntry_wellFormed {request : CommentRequest} (h : request.Accepted) :
    request.toEntry.WellFormed := by
  have hfallback : Stripped isSpace "oompah".toList ∧
      forall c, c ∈ "oompah".toList -> c ≠ '\n' ∧ c ≠ '\r' := by
    refine ⟨⟨?_, ?_⟩, ?_⟩
    · intro c hc
      rw [← Option.some.inj hc]
      decide
    · intro c hc
      rw [← Option.some.inj hc]
      decide
    · have hall : ("oompah".toList.all fun c => c ≠ '\n' ∧ c ≠ '\r') = true := by decide
      intro c hc
      simpa using List.all_eq_true.mp hall c hc
  have hauthor := commentAuthorField_spec request.author hfallback
  constructor
  · exact hauthor.left
  · exact hauthor.right
  · exact formatCommentTimestamp_stripped request.now
  · exact fun c hc => formatCommentTimestamp_stamp request.now hc
  · rw [toEntry_text]
    exact sanitizeCommentText_stripped _
  · rw [toEntry_text]
    apply sanitizeCommentText_ne_nil
    rw [strip_idem]
    exact h
  · rw [toEntry_text]
    exact sanitizeCommentText_cr _
  · rw [toEntry_text]
    exact sanitizeCommentText_marker _ commentsEnd (by decide)

theorem record_cr (h : entry.WellFormed) : '\r' ∉ entry.record := by
  have hauthor : '\r' ∉ entry.author := fun hc => (h.author_newline '\r' hc).right rfl
  have hcreated : '\r' ∉ entry.created := fun hc => (h.created_stamp '\r' hc).right.right.right rfl
  have hlabels : '\r' ∉ "author: ".toList ∧ '\r' ∉ "\ncreated: ".toList ∧
      '\r' ∉ "\n---\n".toList := by decide
  unfold Entry.record formatTrackerComment
  simp only [List.mem_append, hauthor, hcreated, hlabels, h.text_cr, or_self, not_false_eq_true]

theorem framed_cr (hbody : '\r' ∉ body)
    (hentries : forall entry, entry ∈ entries -> entry.WellFormed) :
    '\r' ∉ framed body (records entries) := by
  have hrstrip : '\r' ∉ body.rdropWhile (fun c => c = '\n') :=
    fun hc => hbody ((List.rdropWhile_prefix _ body).subset hc)
  have hrecords : '\r' ∉ records entries := by
    intro hc
    rcases List.mem_flatMap.mp hc with ⟨entry, hentry, hc⟩
    exact record_cr (hentries entry hentry) hc
  have hlabels : '\r' ∉ "\n\n## Comments\n".toList ∧ '\r' ∉ commentsBegin ∧
      '\r' ∉ commentsEnd ∧ '\r' ∉ ['\n'] ∧ '\r' ≠ '\n' := by decide
  unfold framed frame
  simp only [List.mem_append, List.mem_cons, hrstrip, hrecords, hlabels, or_self, not_false_eq_true]

/-- The body of a task whose comments are some entries. -/
def bodyOf (body : Str) (entries : List Entry) : Str :=
  if entries = [] then body else framed body (records entries)

/-- A stored body that reads as a plain body with readable entries. -/
structure Stores (body : Str) (entries : List Entry) (stored : Str) : Prop where
  plain : Plain body
  nonempty : body ≠ []
  cr : '\r' ∉ body
  readable : Readable entries
  reads : universalNewlines stored = bodyOf body entries

variable {stored : Str} {request : CommentRequest} {requests : List CommentRequest}

theorem plain_comments (h : Plain body) : parseTrackerComments body = [] := by
  have hsections : sections body = [] := by
    unfold sections
    cases body with
    | nil => rfl
    | cons c rest =>
      have hnone := cut_eq_none.mpr (h commentsBegin (by decide))
      simp only [List.length_cons, between, hnone, List.map_nil]
  have hblocks : commentBlocks body = [] := by
    unfold commentBlocks
    cases body with
    | nil => rfl
    | cons c rest =>
      have hnone : cut (commentBegin ++ ['\n']) (c :: rest) = none := by
        rw [cut_eq_none]
        intro hinside
        exact h commentBegin (by decide) ((List.prefix_append _ _).isInfix.trans hinside)
      simp only [List.length_cons, between, hnone]
  unfold parseTrackerComments
  rw [hsections, hblocks]
  rfl

theorem readable_comments (hbody : Plain body) (h : Readable entries) :
    parseTrackerComments (bodyOf body entries) = commentsFrom 0 entries := by
  unfold bodyOf
  rcases List.eq_nil_or_concat' entries with rfl | ⟨before, entry, rfl⟩
  · rw [if_pos rfl]
    exact plain_comments hbody
  · have hne : before ++ [entry] ≠ [] := by simp
    have hlast := List.mem_append_right before (List.mem_singleton.mpr rfl : entry ∈ [entry])
    have hbefore : Readable before :=
      ⟨fun e he => h.left e (List.mem_append_left _ he),
        fun e he => h.right e (List.mem_append_left _ he)⟩
    have hentry := h.left entry hlast
    rw [if_neg hne]
    exact (framed_records_iff hbody hbefore hentry.left).mpr ⟨hentry.right, h.right entry hlast⟩

theorem Stores.fetch (h : Stores body entries stored) :
    fetchComments stored = commentsFrom 0 entries := by
  unfold fetchComments
  rw [h.reads]
  exact readable_comments h.plain h.readable

theorem addComment_refused (stored : Str) (h : ¬ request.Accepted) :
    addComment stored request = .error .commentTextRequired := by
  unfold addComment
  exact if_pos (not_not.mp h)

theorem addComment_stored (h : Stores body entries stored) (hrequest : request.Accepted) :
    addComment stored request = .ok (framed body (records (entries ++ [request.toEntry]))) := by
  have hwrite : appendTrackerComment (bodyOf body entries) (strip isSpace request.text)
      (commentAuthorField request.author "oompah".toList) (formatCommentTimestamp request.now) =
      framed body (records (entries ++ [request.toEntry])) := by
    unfold bodyOf
    rcases List.eq_nil_or_concat' entries with rfl | ⟨before, entry, rfl⟩
    · rw [if_pos rfl, append_plain h.nonempty h.plain, records_concat, toEntry_record]
      rw [show records [] = [] from rfl, List.nil_append]
    · have hne : before ++ [entry] ≠ [] := by simp
      have hlast : (records (before ++ [entry])).getLast? = some '\n' := by
        rcases records_last before entry with ⟨init, hinit, _⟩
        rw [hinit, List.getLast?_concat]
      rw [if_neg hne, append_framed h.plain (records_free h.readable.left) hlast,
        records_concat (before ++ [entry]), toEntry_record]
  unfold addComment
  simp only
  rw [if_neg hrequest, h.reads, hwrite]

/-- What a call of `add_comment` leaves to read. -/
theorem framed_read (h : Stores body entries stored) (hrequest : request.Accepted) :
    universalNewlines (framed body (records (entries ++ [request.toEntry]))) =
      framed body (records (entries ++ [request.toEntry])) := by
  apply universalNewlines_eq_self
  apply framed_cr h.cr
  intro entry hentry
  rcases List.mem_append.mp hentry with hentry | hentry
  · exact (h.readable.left entry hentry).left
  · rw [List.mem_singleton.mp hentry]
    exact toEntry_wellFormed hrequest

theorem Stores.written (h : Stores body entries stored) (hrequest : request.Accepted)
    (hstorable : StorableAuthor request.toEntry.author ∧ StorableText request.toEntry.text) :
    Stores body (entries ++ [request.toEntry])
      (framed body (records (entries ++ [request.toEntry]))) := by
  have hne : entries ++ [request.toEntry] ≠ [] := by simp
  constructor
  · exact h.plain
  · exact h.nonempty
  · exact h.cr
  · exact h.readable.concat (toEntry_wellFormed hrequest) hstorable.left hstorable.right
  · rw [framed_read h hrequest]
    unfold bodyOf
    rw [if_neg hne]

/-- From a body with readable entries the comments are read back after every call exactly
if every request is storable. -/
theorem Stores.run_iff (h : Stores body entries stored) :
    (forall n, fetchComments (afterComments stored (requests.take n)) =
      commentsFrom 0 (entries ++ appended (requests.take n))) ↔
      forall request, request ∈ requests -> request.Storable := by
  induction requests generalizing entries stored with
  | nil =>
    constructor
    · intro _ request hrequest
      cases hrequest
    · intro _ n
      rw [List.take_nil]
      show fetchComments stored = commentsFrom 0 (entries ++ [])
      rw [List.append_nil]
      exact h.fetch
  | cons request requests ih =>
    by_cases haccepted : request.Accepted
    · have hadd := addComment_stored h haccepted
      have hrun : forall n, fetchComments
          (afterComments stored ((request :: requests).take (n + 1))) =
          fetchComments (afterComments
            (framed body (records (entries ++ [request.toEntry]))) (requests.take n)) := by
        intro n
        rw [List.take_succ_cons, afterComments, hadd]
      have hentries : forall n, entries ++ appended ((request :: requests).take (n + 1)) =
          (entries ++ [request.toEntry]) ++ appended (requests.take n) := by
        intro n
        unfold appended
        rw [List.take_succ_cons, List.filter_cons_of_pos (by simpa using haccepted),
          List.map_cons, List.append_assoc]
        rfl
      constructor
      · intro hread
        have hfirst := hread 1
        rw [hrun 0, hentries 0] at hfirst
        have hstorable := (framed_records_iff h.plain h.readable
          (toEntry_wellFormed haccepted)).mp (by
            unfold fetchComments at hfirst
            simpa [afterComments, framed_read h haccepted, appended] using hfirst)
        have hrest := (ih (h.written haccepted hstorable)).mp (fun n => by
          rw [← hrun n, ← hentries n]
          exact hread (n + 1))
        intro r hr
        rcases List.mem_cons.mp hr with rfl | hr
        · exact fun _ => hstorable
        · exact hrest r hr
      · intro hall n
        have hstorable := hall request List.mem_cons_self haccepted
        have hrest := (ih (h.written haccepted hstorable)).mpr
          (fun r hr => hall r (List.mem_cons_of_mem request hr))
        cases n with
        | zero =>
          show fetchComments stored = commentsFrom 0 (entries ++ [])
          rw [List.append_nil]
          exact h.fetch
        | succ n =>
          rw [hrun n, hentries n]
          exact hrest n
    · have hrefused := addComment_refused stored haccepted
      have hrun : forall n, afterComments stored ((request :: requests).take (n + 1)) =
          afterComments stored (requests.take n) := by
        intro n
        rw [List.take_succ_cons, afterComments, hrefused]
      have hentries : forall n, appended ((request :: requests).take (n + 1)) =
          appended (requests.take n) := by
        intro n
        unfold appended
        rw [List.take_succ_cons, List.filter_cons_of_neg (by simpa using haccepted)]
      constructor
      · intro hread r hr
        rcases List.mem_cons.mp hr with rfl | hr
        · exact fun h => absurd h haccepted
        · refine (ih h).mp (fun n => ?_) r hr
          rw [← hrun n, ← hentries n]
          exact hread (n + 1)
      · intro hall n
        cases n with
        | zero =>
          show fetchComments stored = commentsFrom 0 (entries ++ [])
          rw [List.append_nil]
          exact h.fetch
        | succ n =>
          rw [hrun n, hentries n]
          exact (ih h).mpr (fun r hr => hall r (List.mem_cons_of_mem request hr)) n

/-! ## Created bodies -/

theorem afterHashes_suffix {line rest : Str} (h : afterHashes? line = some rest) :
    rest <:+ line := by
  unfold afterHashes? at h
  split at h
  · split at h
    · cases h
      exact ⟨['#', '#'], rfl⟩
    · cases h
  · split at h
    · cases h
      exact ⟨['#'], rfl⟩
    · cases h
  · cases h

/-- Demoting headings puts no marker into a line. -/
theorem demoteHeadings_part {pending : Bool} {lines : List Str} (hmarker : marker ∈ markers)
    (h : exists l, l ∈ demoteHeadings pending lines ∧ marker <:+: l) :
    exists l, l ∈ lines ∧ marker <:+: l := by
  rcases (escapable_of_mem hmarker).shape with ⟨tl, _, htl, _⟩
  have hheading : forall s : Str, marker <:+: "### ".toList ++ s.dropWhile isSpace ->
      marker <:+: s := by
    intro s hs
    rw [htl, infix_append_of_head_not_mem (by decide), ← htl] at hs
    exact hs.trans (List.dropWhile_suffix isSpace).isInfix
  induction lines generalizing pending with
  | nil => exact h
  | cons line lines ih =>
    have hlater : (exists l, l ∈ lines ∧ marker <:+: l) ->
        exists l, l ∈ line :: lines ∧ marker <:+: l := by
      rintro ⟨l, hl, hinside⟩
      exact ⟨l, List.mem_cons_of_mem line hl, hinside⟩
    have hfirst : forall {head : Str} {mode : Bool}, (marker <:+: head -> marker <:+: line) ->
        (exists l, l ∈ head :: demoteHeadings mode lines ∧ marker <:+: l) ->
        exists l, l ∈ line :: lines ∧ marker <:+: l := by
      rintro head mode hhead ⟨l, hl, hinside⟩
      rcases List.mem_cons.mp hl with rfl | hl
      · exact ⟨line, List.mem_cons_self, hhead hinside⟩
      · exact hlater (ih ⟨l, hl, hinside⟩)
    unfold demoteHeadings at h
    cases pending with
    | true =>
      by_cases hblank : line.all isSpace = true
      · rw [if_pos rfl, if_pos hblank] at h
        exact hlater (ih h)
      · rw [if_pos rfl, if_neg hblank] at h
        exact hfirst (hheading line) h
    | false =>
      rw [if_neg (by decide)] at h
      cases hhashes : afterHashes? line with
      | none =>
        rw [hhashes] at h
        exact hfirst id h
      | some rest =>
        have hrest := (afterHashes_suffix hhashes).isInfix
        simp only [hhashes] at h
        by_cases hblank : rest.all isSpace = true
        · rw [if_pos hblank] at h
          by_cases hlast : (lines.all fun l => l.all isSpace) = true
          · rw [if_pos hlast] at h
            exact h
          · rw [if_neg hlast] at h
            exact hlater (ih h)
        · rw [if_neg hblank] at h
          exact hfirst (fun hs => (hheading rest hs).trans hrest) h

variable {description : Str}

theorem initialBody_plain (h : Plain description) : Plain (initialBody description) := by
  intro marker hmarker hinside
  have hnewline := (escapable_of_mem hmarker).newline
  have hne : marker ≠ [] := by
    rcases (escapable_of_mem hmarker).shape with ⟨tl, _, htl, _⟩
    rw [htl]
    exact List.cons_ne_nil _ _
  have hsections : ("\n\n## Acceptance Criteria\n\n- [ ] Define acceptance criteria.\n\n" ++
      "## Notes\n\n").toList = '\n' :: ("\n## Acceptance Criteria\n\n" ++
        "- [ ] Define acceptance criteria.\n\n## Notes\n\n").toList := by decide
  have hhead : "## Summary\n\n".toList = "## Summary\n".toList ++ ['\n'] := by decide
  unfold initialBody at hinside
  rw [hsections] at hinside
  rcases (infix_append_cons hnewline).mp hinside with hsummary | hrest
  · rw [hhead, List.append_assoc] at hsummary
    rcases (infix_append_cons hnewline).mp hsummary with hleft | hsummary
    · exact marker_not_mem hmarker (by decide) hleft
    · rcases exists_infix_of_infix_joinLines hnewline hne hsummary with ⟨l, hl, hmem⟩
      rcases demoteHeadings_part hmarker ⟨l, hl, hmem⟩ with ⟨line, hline, hmem⟩
      have hstripped : line <:+: strip isSpace description := by
        have hjoin := infix_joinLines hline
        unfold joinLines at hjoin
        rw [List.intercalate_splitOn] at hjoin
        exact hjoin
      exact h marker hmarker (hmem.trans (hstripped.trans (strip_part description)))
  · exact marker_not_mem hmarker (by decide) hrest

theorem created_stores (h : Plain description) :
    Stores (universalNewlines (initialBody description)) [] (initialBody description) := by
  have hplain := initialBody_plain h
  constructor
  · intro marker hmarker hinside
    exact hplain marker hmarker
      (infix_of_infix_universalNewlines (escapable_of_mem hmarker).newline hinside)
  · have hread : universalNewlines (initialBody description) =
        '#' :: universalNewlines (initialBody description).tail := rfl
    rw [hread]
    exact List.cons_ne_nil _ _
  · exact not_mem_universalNewlines _
  · constructor
    · intro entry hentry
      cases hentry
    · intro entry hentry
      cases hentry
  · rfl

/-- After every call the comments are the appended ones in order, each with its author
field and its sanitised text, exactly if every accepted request has an author without line
boundary or end marker and a text whose lines end in newlines and are no separators. -/
theorem fetchComments_run (h : Plain description) (requests : List CommentRequest) :
    (forall n, fetchComments (afterComments (initialBody description) (requests.take n)) =
      commentsFrom 0 (appended (requests.take n))) ↔
      forall request, request ∈ requests -> request.Storable :=
  (created_stores h).run_iff

def reviewRequests : List CommentRequest :=
  [{ text := "status: done\n- see <!-- COMMENTS:END -->".toList
     author := "Ann\nLee".toList
     now := { year := 2026, month := 3, day := 1, hour := 9, minute := 5 } },
   { text := " looks good\r\n".toList
     author := [],
     now := { year := 2026, month := 3, day := 1, hour := 9, minute := 7 } }]

theorem fetchComments_reviewRequests :
    fetchComments (afterComments (initialBody "Fix the parser".toList) reviewRequests) =
      commentsFrom 0 (appended reviewRequests) := by
  have hplain : Plain "Fix the parser".toList := by
    unfold Plain
    decide +kernel
  refine (fetchComments_run hplain reviewRequests).mpr ?_ 2
  decide +kernel

/-- A text with a separator line of its own is read back as far as that line. -/
theorem fetchComments_separated : fetchComments (afterComments (initialBody [])
      [{ text := "before\n---\nafter".toList
         author := "ann".toList
         now := { year := 2026, month := 3, day := 1, hour := 9, minute := 5 } }]) ≠
      commentsFrom 0 (appended
        [{ text := "before\n---\nafter".toList
           author := "ann".toList
           now := { year := 2026, month := 3, day := 1, hour := 9, minute := 5 } }]) := by
  decide +kernel

end TrackerComments
end Oompah
