import Oompah.Records.IntegrationRecord

/-!
# Reading records back

What the parser of integration records raises, what a parsed record is like and
that a parsed record reads back from its own mapping.
-/

namespace Oompah
namespace Records

open Foundation

/-!
# Errors of the parser
-/

def IsValueError (e : PyError) : Prop :=
  exists message, e = .valueError message

section Errors

variable {rt : DocumentRuntime}

theorem isValueError_digitLimit : IsValueError DocumentRuntime.digitLimit :=
  ⟨_, rfl⟩

theorem str_raises (v : Document) : Raises IsValueError (rt.str v) := by
  intro e h
  rw [DocumentRuntime.str_error h]
  exact isValueError_digitLimit

theorem clean_raises (v : Document) : Raises IsValueError (rt.clean v) := by
  intro e h
  rw [DocumentRuntime.clean_error h]
  exact isValueError_digitLimit

theorem cleanLower_raises (v : Document) : Raises IsValueError (rt.cleanLower v) := by
  intro e h
  rw [DocumentRuntime.cleanLower_error h]
  exact isValueError_digitLimit

theorem optionalText_raises (v : Document) : Raises IsValueError (optionalText rt v) :=
  raises_bind (clean_raises v) (fun _ _ => raises_ok _)

theorem addText_raises (form : String -> String) (texts : TextDict)
    (entry : Document × Document) : Raises IsValueError (addText rt form texts entry) := by
  apply raises_bind (str_raises entry.1)
  intro key _
  split
  · exact raises_ok _
  · apply raises_bind (str_raises entry.2)
    intro item _
    split
    · exact raises_ok _
    · exact raises_ok _

theorem foldlM_addText_raises (form : String -> String) (entries : Document.Entries)
    (texts : TextDict) : Raises IsValueError (entries.foldlM (addText rt form) texts) := by
  induction entries generalizing texts with
  | nil => exact raises_ok _
  | cons entry rest ih =>
    exact raises_bind (addText_raises form texts entry) (fun texts' _ => ih texts')

theorem textList_raises (items : List Document) : Raises IsValueError (textList rt items) := by
  induction items with
  | nil => exact raises_ok _
  | cons item rest ih =>
    apply raises_bind (str_raises item)
    intro text _
    exact raises_bind ih (fun _ _ => raises_ok _)

theorem require_raises {condition : Prop} [Decidable condition] (message : String) :
    Raises IsValueError (require condition (.valueError message)) :=
  raises_require ⟨message, rfl⟩

theorem evidence_raises (m : Document.Entries) :
    Raises IsValueError (CanonicalLandingEvidence.fromDict rt m) := by
  refine raises_bind (require_raises _) fun _ _ => ?_
  refine raises_bind (cleanLower_raises _) fun _ _ => ?_
  refine raises_bind (cleanLower_raises _) fun _ _ => ?_
  refine raises_bind (cleanLower_raises _) fun _ _ => ?_
  refine raises_bind (cleanLower_raises _) fun _ _ => ?_
  refine raises_bind (clean_raises _) fun _ _ => ?_
  refine raises_bind (clean_raises _) fun _ _ => ?_
  refine raises_bind (clean_raises _) fun _ _ => ?_
  refine raises_bind (cleanLower_raises _) fun _ _ => ?_
  iterate 9 refine raises_bind (require_raises _) fun _ _ => ?_
  exact raises_ok _

theorem parseEvidence_cases (rt : DocumentRuntime) (m : Document.Entries) :
    (exists e, CanonicalLandingEvidence.fromDict rt m = .ok e ∧
        parseCanonicalLandingEvidence rt (.mapping m) = .ok (some e)) ∨
      parseCanonicalLandingEvidence rt (.mapping m) = .ok none := by
  unfold parseCanonicalLandingEvidence
  simp only [Document.mapping?]
  cases h : CanonicalLandingEvidence.fromDict rt m with
  | ok e => exact .inl ⟨e, rfl, rfl⟩
  | error e =>
    rcases evidence_raises m e h with ⟨message, rfl⟩
    exact .inr rfl

end Errors

/-!
# Normal texts
-/

section Texts

variable {rt : DocumentRuntime}

/-- An optional text that is not blank and has no white space at its ends. -/
def NormalText (value : Option String) : Prop :=
  forall text, value = some text -> strip text = text ∧ text ≠ ""

theorem optionalText_normal {v : Document} {value : Option String}
    (h : optionalText rt v = .ok value) : NormalText value := by
  rcases bind_eq_ok.mp h with ⟨text, hclean, hvalue⟩
  intro found hfound
  cases hvalue
  split at hfound
  · cases hfound
  · rename_i hnamed
    cases hfound
    exact ⟨DocumentRuntime.clean_stripped hclean, hnamed⟩

theorem optionalText_ofOption {value : Option String} (h : NormalText value) :
    optionalText rt ((value.map Document.str).getD .null) = .ok value := by
  cases value with
  | none => rfl
  | some text =>
    rcases h text rfl with ⟨hstrip, hnamed⟩
    unfold optionalText
    rw [Option.map_some, Option.getD_some, DocumentRuntime.clean_str, hstrip]
    show Except.ok (if text = "" then none else some text) = _
    rw [if_neg hnamed]

def NormalList (texts : List String) : Prop :=
  forall text, text ∈ texts -> strip text = text ∧ text ≠ ""

theorem textList_normal {items : List Document} {texts : List String}
    (h : textList rt items = .ok texts) : NormalList texts := by
  induction items generalizing texts with
  | nil =>
    cases h
    exact fun _ hmem => nomatch hmem
  | cons item rest ih =>
    rcases bind_eq_ok.mp h with ⟨text, -, h⟩
    rcases bind_eq_ok.mp h with ⟨others, hothers, hvalue⟩
    cases hvalue
    split
    · exact ih hothers
    · rename_i hnamed
      intro found hfound
      rcases List.mem_cons.mp hfound with rfl | hrest
      · exact ⟨strip_strip text, hnamed⟩
      · exact ih hothers found hrest

theorem textList_ofTexts {texts : List String} (h : NormalList texts) :
    textList rt (texts.map .str) = .ok texts := by
  induction texts with
  | nil => rfl
  | cons text rest ih =>
    rcases h text List.mem_cons_self with ⟨hstrip, hnamed⟩
    have hrest := ih (fun found hfound => h found (List.mem_cons_of_mem _ hfound))
    rw [List.map_cons, textList, hrest]
    show Except.ok (if strip text = "" then rest else strip text :: rest) = _
    rw [hstrip, if_neg hnamed]

/-- A mapping of texts that are not blank, each in its form. -/
structure NormalTexts (form : String -> String) (texts : TextDict) : Prop where
  keys : (texts.map Prod.fst).Nodup
  named : forall entry, entry ∈ texts -> strip entry.1 ≠ "" ∧ strip entry.2 ≠ ""
  formed : forall entry, entry ∈ texts -> form entry.2 = entry.2

theorem normalTexts_nil (form : String -> String) : NormalTexts form [] := by
  constructor
  · exact List.nodup_nil
  · exact fun _ h => nomatch h
  · exact fun _ h => nomatch h

theorem insertText_keys (texts : TextDict) (key value : String) :
    (insertText texts key value).map Prod.fst =
      if key ∈ texts.map Prod.fst then texts.map Prod.fst
      else texts.map Prod.fst ++ [key] := by
  unfold insertText
  have hany : texts.any (fun entry => entry.1 = key) = true <-> key ∈ texts.map Prod.fst := by
    simp
  by_cases hkey : key ∈ texts.map Prod.fst
  · rw [if_pos (hany.mpr hkey), if_pos hkey, List.map_map]
    apply List.map_congr_left
    intro entry _
    by_cases hsame : entry.1 = key
    · simp [hsame]
    · simp [hsame]
  · rw [if_neg (fun h => hkey (hany.mp h)), if_neg hkey, List.map_append]
    rfl

variable {texts : TextDict} {key value : String}

theorem mem_insertText {entry : String × String}
    (h : entry ∈ insertText texts key value) : entry ∈ texts ∨ entry = (key, value) := by
  unfold insertText at h
  split at h
  · rcases List.mem_map.mp h with ⟨old, hold, rfl⟩
    split
    · exact .inr rfl
    · exact .inl hold
  · simpa using h

variable {form : String -> String}

theorem NormalTexts.insert (h : NormalTexts form texts) (hkey : strip key ≠ "")
    (hvalue : strip value ≠ "") (hform : form value = value) :
    NormalTexts form (insertText texts key value) := by
  constructor
  · rw [insertText_keys]
    split
    · exact h.keys
    · rename_i hnew
      refine List.nodup_append.mpr ⟨h.keys, List.pairwise_singleton _ key, ?_⟩
      intro k hk k' hk' hsame
      rw [List.mem_singleton] at hk'
      exact hnew (hk' ▸ hsame ▸ hk)
  · intro entry hentry
    rcases mem_insertText hentry with hold | rfl
    · exact h.named entry hold
    · exact ⟨hkey, hvalue⟩
  · intro entry hentry
    rcases mem_insertText hentry with hold | rfl
    · exact h.formed entry hold
    · exact hform

/-- `str(item)` and `str(item).strip()`: forms that keep what a text strips to. -/
structure TextForm (form : String -> String) : Prop where
  strip_form : forall text, strip (form text) = strip text
  form_form : forall text, form (form text) = form text

theorem textForm_id : TextForm id := ⟨fun _ => rfl, fun _ => rfl⟩

theorem textForm_strip : TextForm strip := ⟨strip_strip, strip_strip⟩

theorem addText_normal (hform : TextForm form)
    {texts texts' : TextDict} (h : NormalTexts form texts) {entry : Document × Document}
    (hadd : addText rt form texts entry = .ok texts') : NormalTexts form texts' := by
  rcases bind_eq_ok.mp hadd with ⟨key, -, hadd⟩
  split at hadd
  · cases hadd
    exact h
  · rename_i hkey
    rcases bind_eq_ok.mp hadd with ⟨item, -, hadd⟩
    split at hadd
    · cases hadd
      exact h
    · rename_i hitem
      cases hadd
      apply h.insert hkey
      · rw [hform.strip_form]
        exact hitem
      · exact hform.form_form item

theorem textDict_normal (hform : TextForm form) {entries : Document.Entries}
    (h : textDict rt form entries = .ok texts) : NormalTexts form texts := by
  have hfold : forall (entries : Document.Entries) (start : TextDict),
      NormalTexts form start -> entries.foldlM (addText rt form) start = .ok texts ->
        NormalTexts form texts := by
    intro entries
    induction entries with
    | nil =>
      intro start hstart hend
      cases hend
      exact hstart
    | cons entry rest ih =>
      intro start hstart hend
      rcases bind_eq_ok.mp hend with ⟨middle, hadd, hrest⟩
      exact ih middle (addText_normal hform hstart hadd) hrest
  exact hfold entries [] (normalTexts_nil form) h

theorem addText_new
    (hnew : key ∉ texts.map Prod.fst) (hkey : strip key ≠ "") (hvalue : strip value ≠ "")
    (hform : form value = value) :
    addText rt form texts (.str key, .str value) = .ok (texts ++ [(key, value)]) := by
  have hany : ¬ texts.any (fun entry => entry.1 = key) = true := by
    intro hany
    apply hnew
    simpa using hany
  have hinserted : insertText texts key value = texts ++ [(key, value)] := by
    rw [insertText, if_neg hany]
  unfold addText
  simp only [DocumentRuntime.str, bind, Except.bind, pure, Except.pure]
  rw [if_neg hkey, if_neg hvalue, hform, hinserted]

theorem textDict_ofTexts (h : NormalTexts form texts) :
    textDict rt form (texts.map fun entry => (.str entry.1, .str entry.2)) = .ok texts := by
  have hfold : forall rest start : TextDict, NormalTexts form (start ++ rest) ->
      (rest.map fun entry => (Document.str entry.1, Document.str entry.2)).foldlM
        (addText rt form) start = .ok (start ++ rest) := by
    intro rest
    induction rest with
    | nil =>
      intro start _
      rw [List.append_nil]
      rfl
    | cons entry rest ih =>
      intro start hnormal
      have hmem : entry ∈ start ++ entry :: rest :=
        List.mem_append_right start List.mem_cons_self
      have hnew : entry.1 ∉ start.map Prod.fst := by
        have hkeys := hnormal.keys
        rw [List.map_append, List.map_cons] at hkeys
        exact fun hold => (List.nodup_append.mp hkeys).right.right _ hold _ List.mem_cons_self rfl
      rw [List.map_cons, List.foldlM_cons, addText_new hnew (hnormal.named entry hmem).left
        (hnormal.named entry hmem).right (hnormal.formed entry hmem)]
      have hnext := ih (start ++ [(entry.1, entry.2)])
      rw [List.append_assoc] at hnext
      exact hnext hnormal
  exact hfold texts [] h

end Texts

namespace IntegrationRecord

section Errors

variable {rt : DocumentRuntime}

theorem readHeads_raises (m : Document.Entries) : Raises IsValueError (readHeads rt m) := by
  unfold readHeads
  split
  · exact foldlM_addText_raises id _ []
  · exact raises_ok _

theorem readEvidence_raises (m : Document.Entries) : Raises IsValueError (readEvidence rt m) := by
  unfold readEvidence
  split
  · rename_i rawEvidence _
    rcases parseEvidence_cases rt rawEvidence with ⟨e, -, hparse⟩ | hparse
    · rw [hparse]
      exact raises_ok _
    · rw [hparse]
      exact raises_ok _
  · exact raises_ok _

theorem readCancellation_raises (m : Document.Entries) :
    Raises IsValueError (readCancellation rt m) := by
  unfold readCancellation
  split
  · exact raises_bind (foldlM_addText_raises strip _ []) (fun _ _ => raises_ok _)
  · exact raises_ok _

theorem readMissing_raises (m : Document.Entries) : Raises IsValueError (readMissing rt m) := by
  unfold readMissing
  split
  · exact textList_raises _
  · exact raises_ok _

theorem postInit_raises (r : IntegrationRecord) : Raises IsValueError (r.postInit rt) := by
  iterate 5 refine raises_bind (require_raises _) fun _ _ => ?_
  exact raises_ok _

/-!
# Infinite numbers

The handler around the two integers takes a wrong type and a wrong value; an
infinite number raises neither.
-/

theorem int_infinite {v : Document} (h : v.isInfinite = true) :
    rt.int v = .error .overflowError := by
  unfold Document.isInfinite at h
  split at h
  · rfl
  · cases h

theorem int_cases (rt : DocumentRuntime) {v : Document} (h : v.isInfinite = false) :
    (exists n, rt.int v = .ok n) ∨ exists message, rt.int v = .error (.typeError message) ∨
        rt.int v = .error (.valueError message) := by
  cases v with
  | bool b => exact .inl ⟨_, rfl⟩
  | int n => exact .inl ⟨n, rfl⟩
  | float text value =>
    cases value with
    | nan => exact .inr ⟨_, Or.inr rfl⟩
    | infinite => cases h
    | finite x => exact .inl ⟨_, rfl⟩
  | str s =>
    cases hinteger : rt.integer s with
    | some n => exact .inl ⟨n, by simp [DocumentRuntime.int, hinteger]⟩
    | none =>
      refine .inr ⟨"invalid literal for int() with base 10", Or.inr ?_⟩
      simp only [DocumentRuntime.int, hinteger]
  | other value =>
    cases hinteger : value.integer with
    | some n => exact .inl ⟨n, by simp [DocumentRuntime.int, hinteger]⟩
    | none =>
      refine .inr ⟨"int() argument must be a string or a number", Or.inl ?_⟩
      simp only [DocumentRuntime.int, hinteger]
  | null | list items | mapping entries => exact .inr ⟨_, Or.inl rfl⟩

theorem isInfinite_orElse (v : Document) : (v.orElse (.int 0)).isInfinite = v.isInfinite := by
  unfold Document.orElse
  split
  · rfl
  · rename_i hfalsy
    cases v with
    | float text value =>
      cases value with
      | infinite => exact absurd rfl hfalsy
      | _ => rfl
    | _ => rfl

/-- An infinite number stands where the version or the attempts are read. -/
def Overflows (rt : DocumentRuntime) (m : Document.Entries) : Prop :=
  (exists heads, readHeads rt m = .ok heads) ∧
    ((m.getD "version" (.int integrationRecordVersion)).isInfinite = true ∨ (exists version,
          rt.int (m.getD "version" (.int integrationRecordVersion)) = .ok version) ∧
        (m.getD "attempts" (.int 0)).isInfinite = true)

variable {m : Document.Entries}

theorem readIntegers_overflow
    (h : (m.getD "version" (.int integrationRecordVersion)).isInfinite = true ∨ (exists version,
          rt.int (m.getD "version" (.int integrationRecordVersion)) = .ok version) ∧
        (m.getD "attempts" (.int 0)).isInfinite = true) :
    readIntegers rt m = .error .overflowError := by
  unfold readIntegers
  rcases h with hversion | ⟨⟨version, hversion⟩, hattempts⟩
  · rw [int_infinite hversion]
    rfl
  · rw [hversion, int_infinite ((isInfinite_orElse _).trans hattempts)]
    rfl

theorem readIntegers_raises
    (hversion : (m.getD "version" (.int integrationRecordVersion)).isInfinite = false)
    (hattempts : (m.getD "attempts" (.int 0)).isInfinite = false ∨ forall version,
        rt.int (m.getD "version" (.int integrationRecordVersion)) ≠ .ok version) :
    Raises IsValueError (readIntegers rt m) := by
  unfold readIntegers
  rcases int_cases rt hversion with ⟨version, hint⟩ | ⟨message, hint | hint⟩
  · rw [hint]
    rcases hattempts with hfinite | hfailed
    · rcases int_cases rt ((isInfinite_orElse _).trans hfinite) with
        ⟨attempts, hint'⟩ | ⟨message, hint' | hint'⟩
      · rw [hint']
        exact raises_ok _
      · rw [hint']
        exact raises_error.mpr ⟨_, rfl⟩
      · rw [hint']
        exact raises_error.mpr ⟨_, rfl⟩
    · exact absurd hint (hfailed version)
  · rw [hint]
    exact raises_error.mpr ⟨_, rfl⟩
  · rw [hint]
    exact raises_error.mpr ⟨_, rfl⟩

theorem fromDict_overflow (h : Overflows rt m) : fromDict rt m = .error .overflowError := by
  rcases h with ⟨⟨heads, hheads⟩, hinfinite⟩
  unfold fromDict
  rw [hheads]
  show (readIntegers rt m >>= _) = _
  rw [readIntegers_overflow hinfinite]
  rfl

theorem fromDict_raises (h : ¬ Overflows rt m) : Raises IsValueError (fromDict rt m) := by
  refine raises_bind (readHeads_raises m) fun heads hheads => ?_
  have hintegers : Raises IsValueError (readIntegers rt m) := by
    apply readIntegers_raises
    · rw [Bool.eq_false_iff]
      exact fun hversion => h ⟨⟨heads, hheads⟩, Or.inl hversion⟩
    · cases hattempts : (m.getD "attempts" (.int 0)).isInfinite with
      | false => exact .inl rfl
      | true =>
        right
        intro version hversion
        exact h ⟨⟨heads, hheads⟩, Or.inr ⟨⟨version, hversion⟩, hattempts⟩⟩
  refine raises_bind hintegers fun integers _ => ?_
  rcases integers with ⟨version, attempts⟩
  refine raises_bind (require_raises _) fun _ _ => ?_
  refine raises_bind (readEvidence_raises m) fun _ _ => ?_
  refine raises_bind (readCancellation_raises m) fun _ _ => ?_
  refine raises_bind (readMissing_raises m) fun _ _ => ?_
  refine raises_bind (cleanLower_raises _) fun _ _ => ?_
  iterate 15 refine raises_bind (optionalText_raises _) fun _ _ => ?_
  exact postInit_raises _

end Errors
end IntegrationRecord
end Records
end Oompah
