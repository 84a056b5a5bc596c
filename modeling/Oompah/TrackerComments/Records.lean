import Oompah.TrackerComments.Comments

/-!
# Records

The lines of one stored record and what the reader makes of them.  A sanitised text
has no marker; only its lines can still end a record.
-/

namespace Oompah
namespace TrackerComments

open Foundation.Text

/-! ## Sanitised texts -/

def markers : List Str := [commentBegin, commentEnd, commentsBegin, commentsEnd]

/-- The shape of a marker and of its escaped form. -/
structure Escapable (marker : Str) : Prop where
  shape : exists tl ntl, marker = '<' :: tl ∧ escapedMarker marker = '<' :: ntl ∧
    '<' ∉ tl ∧ '<' ∉ ntl ∧ '\n' ∉ tl ∧ '\r' ∉ ntl
  ends : marker.getLast? = some '>' ∧ (escapedMarker marker).getLast? = some '>'
  apart : forall other, other ∈ markers ->
    ¬ other <+: escapedMarker marker ∧ ¬ escapedMarker marker <+: other

theorem escapable_of_mem {marker : Str} (h : marker ∈ markers) : Escapable marker := by
  have hshape : forall m, m ∈ markers -> m = '<' :: m.tail ∧
      escapedMarker m = '<' :: (escapedMarker m).tail ∧ '<' ∉ m.tail ∧
      '<' ∉ (escapedMarker m).tail ∧ '\n' ∉ m.tail ∧ '\r' ∉ (escapedMarker m).tail := by
    decide +kernel
  have hends : forall m, m ∈ markers ->
      m.getLast? = some '>' ∧ (escapedMarker m).getLast? = some '>' := by
    decide +kernel
  have hapart : forall m, m ∈ markers -> forall other, other ∈ markers ->
      ¬ other <+: escapedMarker m ∧ ¬ escapedMarker m <+: other := by
    decide +kernel
  constructor
  · exact ⟨marker.tail, (escapedMarker marker).tail, hshape marker h⟩
  · exact hends marker h
  · exact hapart marker h

theorem Escapable.newline {marker : Str} (h : Escapable marker) : '\n' ∉ marker := by
  rcases h.shape with ⟨tl, _, htl, _, _, _, hn, _⟩
  rw [htl]
  intro hmem
  rcases List.mem_cons.mp hmem with heq | hmem
  · exact absurd heq (by decide)
  · exact hn hmem

variable {marker text : Str}

theorem escapeMarker_absent (h : Escapable marker) (hmem : marker ∈ markers) :
    ¬ marker <:+: escapeMarker text marker := by
  rcases h.shape with ⟨tl, ntl, htl, hntl, hp, hn, _, _⟩
  rcases h.apart marker hmem with ⟨hlong, hshort⟩
  unfold escapeMarker replaceAll
  rw [hntl] at hlong hshort ⊢
  rw [htl] at hlong hshort ⊢
  exact not_infix_replace hp hn hlong hshort (Nat.le_refl _)

theorem infix_of_infix_escapeMarker {marker other text : Str} (h : Escapable marker)
    (hother : other ∈ markers) (hinside : other <:+: escapeMarker text marker) :
    other <:+: text := by
  rcases h.shape with ⟨_, ntl, _, hntl, _, hn, _, _⟩
  rcases (escapable_of_mem hother).shape with ⟨otl, _, hotl, _, hp, _, _, _⟩
  rcases h.apart other hother with ⟨hlong, hshort⟩
  unfold escapeMarker replaceAll at hinside
  rw [hntl] at hlong hshort hinside
  rw [hotl] at hlong hshort hinside ⊢
  exact infix_of_infix_replace hp hn hlong hshort hinside

theorem escapeMarker_stripped (h : Escapable marker)
    (hs : Stripped isSpace text) : Stripped isSpace (escapeMarker text marker) := by
  constructor
  · intro c hc
    rcases h.shape with ⟨tl, ntl, htl, hntl, _⟩
    unfold escapeMarker replaceAll at hc
    rw [hntl, htl, replace_head?] at hc
    exact hs.left c hc
  · intro c hc
    unfold escapeMarker replaceAll at hc
    rw [replace_getLast? h.ends.left h.ends.right] at hc
    exact hs.right c hc

theorem escapeMarker_ne_nil (h : Escapable marker) (hne : text ≠ []) :
    escapeMarker text marker ≠ [] := by
  rcases h.shape with ⟨tl, ntl, htl, hntl, _⟩
  intro hnil
  have hhead : (escapeMarker text marker).head? = text.head? := by
    unfold escapeMarker replaceAll
    rw [hntl, htl, replace_head?]
  rw [hnil] at hhead
  exact hne (List.head?_eq_none_iff.mp hhead.symm)

theorem escapeMarker_cr (h : Escapable marker) (hcr : '\r' ∉ text) :
    '\r' ∉ escapeMarker text marker := by
  rcases h.shape with ⟨tl, ntl, htl, hntl, _, _, _, hn⟩
  intro hmem
  unfold escapeMarker replaceAll at hmem
  rcases mem_of_mem_replace hmem with hnew | hold
  · rw [hntl] at hnew
    rcases List.mem_cons.mp hnew with heq | hnew
    · exact absurd heq (by decide)
    · exact hn hnew
  · exact hcr hold

/-- What holds of a text and of every text with a marker escaped holds of the sanitised text. -/
theorem escapeMarkers_induction {P : Str -> Prop} {text : Str} (h : P text)
    (hstep : forall marker s, marker ∈ markers -> P s -> P (escapeMarker s marker)) :
    P (markers.foldl escapeMarker text) := by
  have hall : forall ms : List Str, (forall m, m ∈ ms -> m ∈ markers) ->
      forall s, P s -> P (ms.foldl escapeMarker s) := by
    intro ms
    induction ms with
    | nil => exact fun _ s hs => hs
    | cons m ms ih =>
      intro hmem s hs
      exact ih (fun k hk => hmem k (List.mem_cons_of_mem m hk)) _
        (hstep m s (hmem m List.mem_cons_self) hs)
  exact hall markers (fun _ hm => hm) text h

/-- A text with its line breaks made newlines and stripped, its markers not yet escaped. -/
def cleanedText (text : Str) : Str :=
  strip isSpace (replaceAll ['\r'] ['\n'] (replaceAll ['\r', '\n'] ['\n'] text))

theorem sanitizeCommentText_eq (text : Str) :
    sanitizeCommentText text = markers.foldl escapeMarker (cleanedText text) := rfl

theorem sanitizeCommentText_stripped (text : Str) :
    Stripped isSpace (sanitizeCommentText text) := by
  rw [sanitizeCommentText_eq]
  exact escapeMarkers_induction (strip_stripped _)
    (fun _ _ hm hs => escapeMarker_stripped (escapable_of_mem hm) hs)

theorem sanitizeCommentText_cr (text : Str) : '\r' ∉ sanitizeCommentText text := by
  rw [sanitizeCommentText_eq]
  refine escapeMarkers_induction (P := fun s => '\r' ∉ s) ?_
    (fun _ _ hm hs => escapeMarker_cr (escapable_of_mem hm) hs)
  intro hmem
  exact not_mem_replace_single (by decide) (Nat.le_refl _) ((strip_part _).subset hmem)

theorem sanitizeCommentText_ne_nil {text : Str} (h : strip isSpace text ≠ []) :
    sanitizeCommentText text ≠ [] := by
  rw [sanitizeCommentText_eq]
  refine escapeMarkers_induction (P := fun s => s ≠ []) ?_
    (fun _ _ hm hs => escapeMarker_ne_nil (escapable_of_mem hm) hs)
  rcases exists_of_strip_ne_nil h with ⟨c, hc, hspace⟩
  have hne : forall d, isSpace d = true -> c ≠ d := by
    rintro d hd rfl
    rw [hspace] at hd
    cases hd
  have hr : c ≠ '\r' := hne '\r' (by decide)
  have hn : c ≠ '\n' := hne '\n' (by decide)
  refine strip_ne_nil (c := c) (mem_replace ?_ (mem_replace ?_ ((strip_part _).subset hc))) hspace
  · simp [hr]
  · simp [hr, hn]

/-- No text keeps a marker through sanitising. -/
theorem sanitizeCommentText_marker (text : Str) :
    forall marker, marker ∈ markers -> ¬ marker <:+: sanitizeCommentText text := by
  have hescape : forall (marker : Str) (ms : List Str) (s : Str),
      (forall m, m ∈ ms -> m ∈ markers) -> marker ∈ markers ->
      (marker ∈ ms ∨ ¬ marker <:+: s) -> ¬ marker <:+: ms.foldl escapeMarker s := by
    intro marker ms
    induction ms with
    | nil => exact fun s _ _ h => h.resolve_left List.not_mem_nil
    | cons m ms ih =>
      intro s hms hmarker h
      have hm := hms m List.mem_cons_self
      apply ih _ (fun k hk => hms k (List.mem_cons_of_mem m hk)) hmarker
      rcases h with hmem | habsent
      · rcases List.mem_cons.mp hmem with rfl | hmem
        · exact .inr (escapeMarker_absent (escapable_of_mem hm) hm)
        · exact .inl hmem
      · exact .inr (fun hinside =>
          habsent (infix_of_infix_escapeMarker (escapable_of_mem hm) hmarker hinside))
  intro marker hmarker
  rw [sanitizeCommentText_eq]
  exact hescape marker markers _ (fun _ hm => hm) hmarker (.inl hmarker)

/-! ## Authors and timestamps -/

variable {c : Char}

theorem joinBreaks_break (inBreak : Bool) (s : Str) (h : c ∈ joinBreaks inBreak s) :
    c ≠ '\n' ∧ c ≠ '\r' := by
  induction s generalizing inBreak with
  | nil => cases h
  | cons d s ih =>
    unfold joinBreaks at h
    by_cases hd : d = '\r' ∨ d = '\n'
    · rw [if_pos hd] at h
      cases inBreak with
      | true => exact ih true h
      | false =>
        rcases List.mem_cons.mp h with heq | h
        · rw [heq]
          decide
        · exact ih true h
    · rw [if_neg hd] at h
      rcases List.mem_cons.mp h with heq | h
      · rw [heq]
        exact ⟨fun hn => hd (.inr hn), fun hr => hd (.inl hr)⟩
      · exact ih false h

theorem commentAuthorField_spec {fallback : Str} (value : Str)
    (hfallback : Stripped isSpace fallback ∧ forall c, c ∈ fallback -> c ≠ '\n' ∧ c ≠ '\r') :
    Stripped isSpace (commentAuthorField value fallback) ∧
      forall c, c ∈ commentAuthorField value fallback -> c ≠ '\n' ∧ c ≠ '\r' := by
  unfold commentAuthorField
  by_cases hempty : strip isSpace (joinBreaks false value) = []
  · rw [if_pos hempty]
    exact hfallback
  · rw [if_neg hempty]
    constructor
    · exact strip_stripped _
    · intro c hc
      exact joinBreaks_break false value ((strip_part _).subset hc)

theorem mem_digits {n value : Nat} (h : c ∈ digits n value) :
    exists k, k < 10 ∧ c = Char.ofNat (48 + k) := by
  induction n generalizing value with
  | zero => cases h
  | succ n ih =>
    rcases List.mem_append.mp h with h | h
    · exact ih h
    · exact ⟨value % 10, Nat.mod_lt _ (by decide), List.mem_singleton.mp h⟩

theorem digits_last (n value : Nat) :
    (digits (n + 1) value).getLast? = some (Char.ofNat (48 + value % 10)) := by
  unfold digits
  simp

/-- The characters of a timestamp. -/
def IsStamp (c : Char) : Prop :=
  isBoundary c = false ∧ c ≠ '<' ∧ c ≠ '\n' ∧ c ≠ '\r'

instance (c : Char) : Decidable (IsStamp c) := by
  unfold IsStamp
  infer_instance

theorem digit_stamp {k : Nat} (h : k < 10) :
    IsStamp (Char.ofNat (48 + k)) ∧ isSpace (Char.ofNat (48 + k)) = false := by
  have hall : forall k, k < 10 ->
      IsStamp (Char.ofNat (48 + k)) ∧ isSpace (Char.ofNat (48 + k)) = false := by decide
  exact hall k h

theorem formatCommentTimestamp_stamp (now : Clock)
    (h : c ∈ formatCommentTimestamp now) : IsStamp c := by
  have hdigits : forall n value, c ∈ digits n value -> IsStamp c := by
    intro n value hc
    rcases mem_digits hc with ⟨k, hk, rfl⟩
    exact (digit_stamp hk).left
  have hpunctuation : IsStamp '-' ∧ IsStamp ' ' ∧ IsStamp ':' := by decide
  unfold formatCommentTimestamp at h
  simp only [List.mem_append, List.mem_singleton] at h
  rcases h with (((((((h | h) | h) | h) | h) | h) | h) | h) | h
  · exact hdigits _ _ h
  · exact h ▸ hpunctuation.left
  · exact hdigits _ _ h
  · exact h ▸ hpunctuation.left
  · exact hdigits _ _ h
  · exact h ▸ hpunctuation.right.left
  · exact hdigits _ _ h
  · exact h ▸ hpunctuation.right.right
  · exact hdigits _ _ h

theorem formatCommentTimestamp_stripped (now : Clock) :
    Stripped isSpace (formatCommentTimestamp now) := by
  constructor
  · intro c hc
    have hhead : (formatCommentTimestamp now).head? =
        some (Char.ofNat (48 + now.year / 10 / 10 / 10 % 10)) := rfl
    rw [hhead] at hc
    rw [← Option.some.inj hc]
    exact (digit_stamp (Nat.mod_lt _ (by decide))).right
  · intro c hc
    have hlast : (formatCommentTimestamp now).getLast? =
        some (Char.ofNat (48 + now.minute % 10)) := by
      unfold formatCommentTimestamp
      simp [List.getLast?_append, List.getLast?_cons, digits_last]
    rw [hlast] at hc
    rw [← Option.some.inj hc]
    exact (digit_stamp (Nat.mod_lt _ (by decide))).right

/-! ## Lines of a record -/

/-- What one record says, as it is stored. -/
structure Entry where
  author : Str
  created : Str
  text : Str

def Entry.record (entry : Entry) : Str :=
  formatTrackerComment entry.author entry.created entry.text

def Entry.comment (entry : Entry) (existingCount : Nat) : Comment :=
  { id := Nat.toDigits 10 (existingCount + 1)
    author := some entry.author
    createdAt := some entry.created
    text := entry.text }

def Entry.header (entry : Entry) : List Str :=
  ["author: ".toList ++ entry.author, "created: ".toList ++ entry.created, separator]

def Entry.lines (entry : Entry) : List Str :=
  entry.header ++ (splitLines entry.text ++ [separator])

/-- What `add_comment` makes sure of. -/
structure Entry.WellFormed (entry : Entry) : Prop where
  author : Stripped isSpace entry.author
  author_newline : forall c, c ∈ entry.author -> c ≠ '\n' ∧ c ≠ '\r'
  created : Stripped isSpace entry.created
  created_stamp : forall c, c ∈ entry.created -> IsStamp c
  text : Stripped isSpace entry.text
  text_ne : entry.text ≠ []
  text_cr : '\r' ∉ entry.text
  text_marker : ¬ commentsEnd <:+: entry.text

/-- An author that stays on its line and inside its section. -/
def StorableAuthor (author : Str) : Prop :=
  (forall c, c ∈ author -> isBoundary c = false) ∧ ¬ commentsEnd <:+: author

/-- A text whose lines end in newlines only and are no separators. -/
def StorableText (text : Str) : Prop :=
  (forall c, c ∈ text -> isBoundary c = true -> c = '\n') ∧
    forall line, line ∈ splitLines text -> strip isSpace line ≠ separator

instance (author : Str) : Decidable (StorableAuthor author) :=
  decidable_of_iff ((author.all fun c => !isBoundary c) = true ∧ ¬ commentsEnd <:+: author)
    (by simp [StorableAuthor])

instance (text : Str) : Decidable (StorableText text) :=
  decidable_of_iff ((text.all fun c => !isBoundary c || c = '\n') = true ∧
      ((splitLines text).all fun line => strip isSpace line ≠ separator) = true)
    (by
      unfold StorableText
      simp only [List.all_eq_true, Bool.or_eq_true, Bool.not_eq_true', decide_eq_true_eq,
        ← imp_iff_not_or, ← Bool.not_eq_true])

variable {entry : Entry}

theorem record_eq (entry : Entry) (rest : Str) : entry.record ++ rest =
      ("author: ".toList ++ entry.author) ++ '\n' :: (("created: ".toList ++ entry.created) ++
        '\n' :: (separator ++ '\n' :: (entry.text ++ '\n' :: (separator ++ '\n' :: rest)))) := by
  have hcreated : "\ncreated: ".toList = '\n' :: "created: ".toList := by decide
  have hseparator : "\n---\n".toList = '\n' :: (separator ++ ['\n']) := by decide
  unfold Entry.record formatTrackerComment
  rw [hcreated, hseparator]
  simp only [List.append_assoc, List.cons_append, List.nil_append]

/-- No boundary among some characters, by looking at each of them. -/
theorem clean_of_all {s : Str} (h : (s.all fun c => !isBoundary c) = true) :
    forall c, c ∈ s -> isBoundary c = false := by
  intro c hc
  simpa using List.all_eq_true.mp h c hc

theorem clean_append {a b : Str} (ha : forall c, c ∈ a -> isBoundary c = false)
    (hb : forall c, c ∈ b -> isBoundary c = false) :
    forall c, c ∈ a ++ b -> isBoundary c = false := by
  intro c hc
  rcases List.mem_append.mp hc with hc | hc
  · exact ha c hc
  · exact hb c hc

theorem record_lines (h : entry.WellFormed)
    (hauthor : forall c, c ∈ entry.author -> isBoundary c = false) (rest : Str) :
    splitLines (entry.record ++ rest) = entry.lines ++ splitLines rest := by
  have hauthorLine : forall c, c ∈ "author: ".toList ++ entry.author -> isBoundary c = false :=
    clean_append (clean_of_all (by decide)) hauthor
  have hcreatedLine : forall c, c ∈ "created: ".toList ++ entry.created -> isBoundary c = false :=
    clean_append (clean_of_all (by decide)) (fun c hc => (h.created_stamp c hc).left)
  have hseparator : forall c, c ∈ separator -> isBoundary c = false :=
    clean_of_all (by decide)
  rw [record_eq, splitLines_append_newline hauthorLine, splitLines_append_newline hcreatedLine,
    splitLines_append_newline hseparator, splitLines_newline h.text_ne h.text.last,
    splitLines_append_newline hseparator]
  unfold Entry.lines Entry.header
  simp only [List.append_assoc, List.cons_append, List.nil_append]

theorem headerField_eq {name value : Str} (hname : ':' ∉ name) (hvalue : Stripped isSpace value) :
    headerField? (name ++ [':'] ++ ' ' :: value) = some (strip isSpace name, value) := by
  have habsent : ¬ [':'] <:+: name := fun h => hname ((List.singleton_infix_iff ':' name).mp h)
  unfold headerField?
  rw [cut_marker List.not_mem_nil habsent]
  show some (strip isSpace name, strip isSpace (' ' :: value)) = _
  rw [strip_cons_space (by decide), hvalue.strip_eq]

theorem strip_line (hc : isSpace c = false) (line : Str) {d : Char} {s : Str}
    (hd : c ≠ d) : strip isSpace (c :: line) ≠ d :: s := by
  rcases strip_cons hc line with ⟨t, ht⟩
  rw [ht]
  intro h
  exact hd (List.cons.inj h).left

theorem structuredHeader_record (h : entry.WellFormed) (rest : List Str) :
    structuredHeader [] (entry.header ++ rest) =
      some ([("created".toList, entry.created), ("author".toList, entry.author)], rest) := by
  have hauthor : headerField? ("author: ".toList ++ entry.author) =
      some ("author".toList, entry.author) :=
    headerField_eq (by decide : ':' ∉ "author".toList) h.author
  have hcreated : headerField? ("created: ".toList ++ entry.created) =
      some ("created".toList, entry.created) :=
    headerField_eq (by decide : ':' ∉ "created".toList) h.created
  have ha : strip isSpace ("author: ".toList ++ entry.author) ≠ separator :=
    strip_line (by decide) _ (by decide)
  have hc : strip isSpace ("created: ".toList ++ entry.created) ≠ separator :=
    strip_line (by decide) _ (by decide)
  have hs : strip isSpace separator = separator := by decide
  show structuredHeader [] (("author: ".toList ++ entry.author) ::
    ("created: ".toList ++ entry.created) :: separator :: rest) = _
  rw [structuredHeader, if_neg ha, hauthor]
  show structuredHeader [("author".toList, entry.author)]
    (("created: ".toList ++ entry.created) :: separator :: rest) = _
  rw [structuredHeader, if_neg hc, hcreated]
  show structuredHeader [("created".toList, entry.created), ("author".toList, entry.author)]
    (separator :: rest) = _
  rw [structuredHeader, if_pos hs, if_neg (List.cons_ne_nil _ _)]

/-- The text of a record goes as far as its first separator. -/
theorem untilSeparator_append (lines rest : List Str) :
    exists before after, untilSeparator (lines ++ separator :: rest) = some (before, after) ∧
      (forall l, l ∈ before -> l ∈ lines) ∧
      ((forall l, l ∈ lines -> strip isSpace l ≠ separator) -> before = lines ∧ after = rest) ∧
      ((exists l, l ∈ lines ∧ strip isSpace l = separator) ->
        exists l tail, lines = before ++ l :: tail ∧ strip isSpace l = separator) := by
  induction lines with
  | nil =>
    refine ⟨[], rest, ?_, fun _ h => h, fun _ => ⟨rfl, rfl⟩, ?_⟩
    · show untilSeparator (separator :: rest) = _
      rw [untilSeparator, if_pos (by decide)]
    · rintro ⟨l, hl, _⟩
      cases hl
  | cons line lines ih =>
    show exists before after, untilSeparator (line :: (lines ++ separator :: rest)) = _ ∧ _
    by_cases hline : strip isSpace line = separator
    · refine ⟨[], lines ++ separator :: rest, ?_, ?_, ?_, fun _ => ⟨line, lines, rfl, hline⟩⟩
      · rw [untilSeparator, if_pos hline]
      · intro l hl
        cases hl
      · intro hall
        exact absurd hline (hall line List.mem_cons_self)
    · rcases ih with ⟨before, after, huntil, hsubset, hclean, hdirty⟩
      refine ⟨line :: before, after, ?_, ?_, ?_, ?_⟩
      · rw [untilSeparator, if_neg hline, huntil]
        rfl
      · intro l hl
        rcases List.mem_cons.mp hl with rfl | hl
        · exact List.mem_cons_self
        · exact List.mem_cons_of_mem line (hsubset l hl)
      · intro hall
        rcases hclean (fun l hl => hall l (List.mem_cons_of_mem line hl)) with ⟨rfl, rfl⟩
        exact ⟨rfl, rfl⟩
      · rintro ⟨l, hl, hsep⟩
        rcases List.mem_cons.mp hl with rfl | hl
        · exact absurd hsep hline
        · rcases hdirty ⟨l, hl, hsep⟩ with ⟨m, tail, heq, hm⟩
          exact ⟨m, tail, by rw [heq]; rfl, hm⟩

/-- The first comment read from a record, and the text it has. -/
theorem commentsOfLines_record (h : entry.WellFormed) (fuel existingCount : Nat) (rest : List Str) :
    exists text after, commentsOfLines (fuel + 1) (entry.lines ++ rest) existingCount =
        { entry.comment existingCount with text := text } ::
          commentsOfLines fuel after (existingCount + 1) ∧
      (StorableText entry.text -> text = entry.text ∧ after = rest) ∧
      (text = entry.text -> StorableText entry.text) := by
  rcases untilSeparator_append (splitLines entry.text) rest with
    ⟨before, after, huntil, hsubset, hclean, hdirty⟩
  refine ⟨strip isSpace (joinLines before), after, ?_, ?_, ?_⟩
  · have hblank : strip isSpace ("author: ".toList ++ entry.author) ≠ [] := by
      rcases strip_cons (by decide : isSpace 'a' = false) ("uthor: ".toList ++ entry.author) with
        ⟨t, ht⟩
      intro hnil
      exact List.cons_ne_nil 'a' t (ht.symm.trans hnil)
    have hblock : strip isSpace ("author: ".toList ++ entry.author) ≠ commentBegin :=
      strip_line (by decide) _ (by decide)
    have hparse : parseStructuredComment (entry.lines ++ rest) existingCount =
        some ({ entry.comment existingCount with text := strip isSpace (joinLines before) },
          after) := by
      unfold parseStructuredComment
      have hlines : entry.lines ++ rest =
          entry.header ++ (splitLines entry.text ++ separator :: rest) := by
        simp [Entry.lines]
      rw [hlines, structuredHeader_record h]
      simp only [huntil]
      rfl
    have hcons : entry.lines ++ rest =
        ("author: ".toList ++ entry.author) :: ((entry.lines ++ rest).tail) := rfl
    rw [hcons, commentsOfLines, if_neg hblank, if_neg hblock, ← hcons, hparse]
  · intro hstorable
    rcases hclean hstorable.right with ⟨rfl, rfl⟩
    rw [joinLines_splitLines hstorable.left h.text.last, h.text.strip_eq]
    exact ⟨rfl, rfl⟩
  · intro htext
    have hboundary : forall c, c ∈ entry.text -> isBoundary c = true -> c = '\n' := by
      intro c hc hb
      rw [← htext] at hc
      rcases mem_joinLines ((strip_part _).subset hc) with hn | ⟨l, hl, hcl⟩
      · exact hn
      · rw [splitLines_boundary (hsubset l hl) c hcl] at hb
        cases hb
    refine ⟨hboundary, ?_⟩
    intro line hline hsep
    rcases hdirty ⟨line, hline, hsep⟩ with ⟨l, tail, hsplit, hl⟩
    have hshort : (strip isSpace (joinLines before)).length ≤ (joinLines before).length :=
      (strip_part _).length_le
    have hjoin := joinLines_length before
    have hlength := splitLines_length entry.text
    have hl₀ : l ≠ [] := by
      rintro rfl
      cases hl
    have hpos := List.length_pos_of_ne_nil hl₀
    rw [hsplit, linesLength_append, linesLength_cons] at hlength
    rw [htext] at hshort
    omega

end TrackerComments
end Oompah
