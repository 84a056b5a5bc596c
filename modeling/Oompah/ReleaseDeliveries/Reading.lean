import Oompah.ReleaseDeliveries.Delivery

/-!
# Reading deliveries back

What the reader returns is normal: each text is stripped and not blank, each commit a
full hash, and the identifier fits the kind.  A delivery reads back as itself exactly
when it is normal.
-/

namespace Oompah
namespace ReleaseDeliveries

open Foundation Records
open ReleaseDelivery (fromEntries fromRaw toRaw)

def Named (text : String) : Prop :=
  strip text = text ∧ text ≠ ""

instance (text : String) : Decidable (Named text) :=
  inferInstanceAs (Decidable (_ ∧ _))

/-- A field that holds nothing or a stripped text that is not blank. -/
def NormalOptional (value : Field) : Prop :=
  exists text, value = .ofOption text ∧ NormalText text

/-- A field that holds a list of full hashes. -/
def NormalCommits (value : Field) : Prop :=
  exists shas, value = .texts shas ∧ forall sha, sha ∈ shas -> FullSha sha

/-- A field that holds a stripped text that is not blank. -/
def NormalRequired (value : Field) : Prop :=
  exists text, value = .text text ∧ Named text

structure Normal (d : ReleaseDelivery) : Prop where
  id : Named d.id
  projectId : Named d.projectId
  sourceBranch : Named d.sourceBranch
  identifier : NormalText d.sourceIdentifier
  kind : d.sourceKind = .commits ↔ d.sourceIdentifier = none
  sourceCommits : d.sourceCommits ≠ []
  fullShas : forall sha, sha ∈ d.sourceCommits -> FullSha sha
  targetBranch : Named d.targetBranch
  queuedAt : NormalRequired d.queuedAt
  resultCommits : NormalCommits d.resultCommits
  optional : forall f, NormalOptional (d.optional f)

/-!
# Commit hashes
-/

theorem isSpace_of_isHexDigit {c : Char} (h : isHexDigit c = true) : Text.isSpace c = false := by
  have hall : "0123456789abcdef".toList.all (fun c => !Text.isSpace c) = true := rfl
  have hc := List.all_eq_true.mp hall c (of_decide_eq_true h)
  simpa using hc

theorem FullSha.named {sha : String} (h : FullSha sha) : Named sha := by
  have hspace : forall c, c ∈ sha.toList -> Text.isSpace c = false := by
    intro c hc
    exact isSpace_of_isHexDigit (List.all_eq_true.mp h.right c hc)
  constructor
  · have hstripped : Text.Stripped Text.isSpace sha.toList :=
      ⟨fun c hc => hspace c (List.mem_of_head? hc), fun c hc => hspace c (List.mem_of_getLast? hc)⟩
    unfold strip
    rw [hstripped.strip_eq, String.ofList_toList]
  · rintro rfl
    exact absurd h.left (by decide)

theorem fullSha_of_matches {sha : String} (hstrip : strip sha = sha)
    (h : matchesFullSha sha = true) : FullSha sha := by
  rcases (Bool.or_eq_true _ _).mp h with hfull | hbreak
  · exact of_decide_eq_true hfull
  · have hlast : sha.toList.getLast? = some '\n' := by
      have := ((Bool.and_eq_true _ _).mp hbreak).left
      simpa using this
    have hstripped : Text.Stripped Text.isSpace sha.toList := by
      rw [← hstrip]
      unfold strip
      rw [String.toList_ofList]
      exact Text.strip_stripped _
    have hspace := hstripped.right '\n' hlast
    exact absurd hspace (by decide)

variable {deliveryId field : String} {commits : List String}

theorem validateFullShas_eq_ok : validateFullShas deliveryId field commits = .ok () ↔
      forall sha, sha ∈ commits -> matchesFullSha sha = true := by
  induction commits with
  | nil => simp [validateFullShas]
  | cons sha rest ih =>
    unfold validateFullShas validateFullSha
    rw [require_bind_eq_ok, ih]
    simp

theorem fullShas_of_validate (hnormal : NormalList commits)
    (h : validateFullShas deliveryId field commits = .ok ()) :
    forall sha, sha ∈ commits -> FullSha sha := by
  intro sha hmem
  exact fullSha_of_matches (hnormal sha hmem).left (validateFullShas_eq_ok.mp h sha hmem)

theorem validate_of_fullShas
    (h : forall sha, sha ∈ commits -> FullSha sha) (deliveryId field : String) :
    validateFullShas deliveryId field commits = .ok () := by
  rw [validateFullShas_eq_ok]
  intro sha hmem
  unfold matchesFullSha
  rw [decide_eq_true (h sha hmem), Bool.true_or]

/-!
# What the reader of a field returns
-/

section Fields

variable {rt : DocumentRuntime} {raw : Document.Entries} {deliveryId field : String}

theorem requiredField_named {text : String}
    (h : requiredField rt raw deliveryId field = .ok text) : Named text := by
  rcases bind_eq_ok.mp h with ⟨found, hclean, h⟩
  rcases require_bind_eq_ok.mp h with ⟨hne, hvalue⟩
  cases hvalue
  exact ⟨DocumentRuntime.clean_stripped (ofText_eq_ok.mp hclean), hne⟩

theorem requiredField_of_get {text : String} (hget : raw.get field = .str text)
    (hnamed : Named text) : requiredField rt raw deliveryId field = .ok text := by
  unfold requiredField
  rw [hget, DocumentRuntime.clean_str, hnamed.left]
  show (require (text ≠ "") _ >>= fun _ => Except.ok text) = _
  exact require_bind_eq_ok.mpr ⟨hnamed.right, rfl⟩

variable {v : Document} {value : Option String}

theorem optStr_normal (h : optStr rt v = .ok value) : NormalText value := by
  unfold optStr at h
  split at h
  · cases h
    exact fun _ hfound => nomatch hfound
  · rcases bind_eq_ok.mp h with ⟨text, -, hvalue⟩
    cases hvalue
    intro found hfound
    split at hfound
    · cases hfound
    · rename_i hnamed
      cases hfound
      exact ⟨strip_strip text, hnamed⟩

theorem optStr_ofOption (h : NormalText value) :
    optStr rt ((value.map Document.str).getD .null) = .ok value := by
  cases value with
  | none => rfl
  | some text =>
    rcases h text rfl with ⟨hstrip, hnamed⟩
    show Except.ok (if strip text = "" then none else some (strip text)) = _
    rw [hstrip, if_neg hnamed]

variable {commits : List String}

theorem readCommits_normal (h : readCommits rt v deliveryId field = .ok commits) :
    forall sha, sha ∈ commits -> FullSha sha := by
  rcases bind_eq_ok.mp h with ⟨items, -, h⟩
  rcases bind_eq_ok.mp h with ⟨found, htexts, h⟩
  rcases bind_eq_ok.mp h with ⟨_, hvalid, hvalue⟩
  cases hvalue
  exact fullShas_of_validate (textList_normal (ofText_eq_ok.mp htexts)) hvalid

theorem normalList_of_fullShas
    (h : forall sha, sha ∈ commits -> FullSha sha) : NormalList commits :=
  fun sha hmem => (h sha hmem).named

theorem readCommits_texts (h : forall sha, sha ∈ commits -> FullSha sha) :
    readCommits rt ((Document.list (commits.map .str)).orElse (.list [])) deliveryId field =
      .ok commits := by
  have hlist : (Document.list (commits.map .str)).orElse (.list []) = .list (commits.map .str) := by
    cases commits with
    | nil => rfl
    | cons sha rest => rfl
  rw [hlist]
  show (ofText (textList rt (commits.map .str)) >>= _) = _
  rw [textList_ofTexts (normalList_of_fullShas h)]
  show (validateFullShas deliveryId field commits >>= fun _ => Except.ok commits) = _
  rw [validate_of_fullShas h]
  rfl

theorem readSourceCommits_normal (h : readSourceCommits rt v deliveryId = .ok commits) :
    commits ≠ [] ∧ forall sha, sha ∈ commits -> FullSha sha := by
  rcases require_bind_eq_ok.mp h with ⟨-, h⟩
  rcases bind_eq_ok.mp h with ⟨items, -, h⟩
  rcases bind_eq_ok.mp h with ⟨found, htexts, h⟩
  rcases require_bind_eq_ok.mp h with ⟨hne, h⟩
  rcases bind_eq_ok.mp h with ⟨_, hvalid, hvalue⟩
  cases hvalue
  exact ⟨hne, fullShas_of_validate (textList_normal (ofText_eq_ok.mp htexts)) hvalid⟩

theorem readSourceCommits_texts (hne : commits ≠ [])
    (h : forall sha, sha ∈ commits -> FullSha sha) :
    readSourceCommits rt (.list (commits.map .str)) deliveryId = .ok commits := by
  have htruthy : (Document.list (commits.map .str)).truthy = true := by
    cases commits with
    | nil => exact absurd rfl hne
    | cons sha rest => rfl
  refine require_bind_eq_ok.mpr ⟨htruthy, ?_⟩
  show (ofText (textList rt (commits.map .str)) >>= _) = _
  rw [textList_ofTexts (normalList_of_fullShas h)]
  refine require_bind_eq_ok.mpr ⟨hne, ?_⟩
  rw [validate_of_fullShas h]
  rfl

theorem requireIdentifier_eq_ok {kind : SourceKind} {identifier : Option String} :
    requireIdentifier deliveryId kind identifier = .ok () ↔
      (kind = .commits ↔ identifier = none) := by
  cases kind <;> cases identifier <;> simp [requireIdentifier]

variable {fields : List OptionalField} {texts : OptionalField -> Option String}

theorem readOptional_normal
    (h : readOptional rt raw fields = .ok texts) : forall f, NormalText (texts f) := by
  induction fields generalizing texts with
  | nil =>
    cases h
    exact fun _ _ hfound => nomatch hfound
  | cons field rest ih =>
    rcases bind_eq_ok.mp h with ⟨text, htext, h⟩
    rcases bind_eq_ok.mp h with ⟨others, hothers, hvalue⟩
    cases hvalue
    intro f
    by_cases hf : f = field
    · subst hf
      rw [Function.update_self]
      exact optStr_normal htext
    · rw [Function.update_of_ne hf]
      exact ih hothers f

theorem readOptional_of_get
    (h : forall f, f ∈ fields -> optStr rt (raw.get f.name) = .ok (texts f)) :
    readOptional rt raw fields = .ok fun f => if f ∈ fields then texts f else none := by
  induction fields with
  | nil => rfl
  | cons field rest ih =>
    have hrest := ih fun f hf => h f (List.mem_cons_of_mem _ hf)
    unfold readOptional
    rw [h field List.mem_cons_self, hrest]
    show Except.ok _ = Except.ok _
    congr 1
    funext f
    by_cases hf : f = field
    · subst hf
      simp
    · simp [hf]

end Fields

/-!
# Deliveries
-/

section Deliveries

variable {rt : DocumentRuntime}

variable {raw : Document.Entries} {d : ReleaseDelivery}

theorem fromEntries_normal (h : fromEntries rt raw = .ok d) : Normal d := by
  rcases bind_eq_ok.mp h with ⟨id, hid, h⟩
  rcases bind_eq_ok.mp h with ⟨projectId, hproject, h⟩
  rcases bind_eq_ok.mp h with ⟨sourceBranch, hsource, h⟩
  rcases bind_eq_ok.mp h with ⟨kind, -, h⟩
  rcases bind_eq_ok.mp h with ⟨identifier, hidentifier, h⟩
  rcases bind_eq_ok.mp h with ⟨_, hkind, h⟩
  rcases bind_eq_ok.mp h with ⟨commits, hcommits, h⟩
  rcases bind_eq_ok.mp h with ⟨targetBranch, htarget, h⟩
  rcases bind_eq_ok.mp h with ⟨status, -, h⟩
  rcases bind_eq_ok.mp h with ⟨queuedAt, hqueued, h⟩
  rcases bind_eq_ok.mp h with ⟨results, hresults, h⟩
  rcases bind_eq_ok.mp h with ⟨texts, htexts, hvalue⟩
  cases hvalue
  rcases readSourceCommits_normal hcommits with ⟨hne, hshas⟩
  constructor
  · exact requiredField_named hid
  · exact requiredField_named hproject
  · exact requiredField_named hsource
  · exact optStr_normal hidentifier
  · exact requireIdentifier_eq_ok.mp hkind
  · exact hne
  · exact hshas
  · exact requiredField_named htarget
  · exact ⟨queuedAt, rfl, requiredField_named hqueued⟩
  · exact ⟨results, rfl, readCommits_normal hresults⟩
  · exact fun f => ⟨texts f, rfl, readOptional_normal htexts f⟩

theorem fromRaw_normal {raw : Document} (h : fromRaw rt raw = .ok d) : Normal d := by
  unfold fromRaw at h
  split at h
  · cases h
  · exact fromEntries_normal h

/-!
# The mapping of a normal delivery
-/

theorem stored_plain (v : Document) : (Field.plain v).stored = some v :=
  rfl

theorem ofOption_injective : Function.Injective Field.ofOption := by
  intro first second h
  cases first with
  | none =>
    cases second with
    | none => rfl
    | some text => cases h
  | some text =>
    cases second with
    | none => cases h
    | some other =>
      cases h
      rfl

theorem stored_ofOption (text : Option String) :
    (Field.ofOption text).stored = some ((text.map Document.str).getD .null) := by
  cases text <;> rfl

theorem sourceKind_fromRaw (kind : SourceKind) :
    SourceKind.fromRaw rt (.str kind.value) = .ok kind := by
  have hplain : kind.value.toList.all DocumentRuntime.plain = true := by cases kind <;> rfl
  have htruthy : (Document.str kind.value).truthy = true := by cases kind <;> rfl
  unfold SourceKind.fromRaw
  rw [if_neg (by rw [htruthy]; decide)]
  show (Except.ok kind.value >>= _) = _
  simp only [bind, Except.bind, DocumentRuntime.lower_strip_plain hplain, SourceKind.ofValue_value]

theorem status_fromRaw (status : AddendumStatus) :
    AddendumStatus.fromRaw rt (.text status.value) = .ok status := by
  have hplain : status.value.toList.all DocumentRuntime.plain = true := by
    cases status <;> rfl
  have htruthy : (Document.str status.value).truthy = true := by cases status <;> rfl
  have hunderscores : hyphensToUnderscores status.value = status.value := by
    cases status <;> rfl
  show (if (Document.str status.value).truthy = false then Except.error EntryError.emptyStatus
    else statusOfText rt status.value) = _
  rw [if_neg (by rw [htruthy]; decide)]
  unfold statusOfText
  rw [DocumentRuntime.lower_strip_plain hplain, hunderscores, AddendumStatus.ofValue_value]

def optionalDocument (text : Option String) : Document :=
  (text.map Document.str).getD .null

/-- The stored fields of a delivery whose free fields are these. -/
def storedFields (source : SourceFields) (status : AddendumStatus) (queuedAt : String)
    (commits : List String) (texts : OptionalField -> Option String) :
    List (String × Document) :=
  [("id", .str source.id), ("project_id", .str source.projectId),
    ("source_branch", .str source.sourceBranch),
    ("source_kind", .str source.sourceKind.value),
    ("source_identifier", optionalDocument source.sourceIdentifier),
    ("source_commits", .list (source.sourceCommits.map .str)),
    ("target_branch", .str source.targetBranch),
    ("status", .str status.value), ("queued_at", .str queuedAt),
    ("claimed_by", optionalDocument (texts .claimedBy)),
    ("lease_expires_at", optionalDocument (texts .leaseExpiresAt)),
    ("started_at", optionalDocument (texts .startedAt)),
    ("completed_at", optionalDocument (texts .completedAt)),
    ("work_branch", optionalDocument (texts .workBranch)),
    ("pr_url", optionalDocument (texts .prUrl)),
    ("pr_number", optionalDocument (texts .prNumber)),
    ("result_commits", .list (commits.map .str)),
    ("error", optionalDocument (texts .error)),
    ("migrated_from", optionalDocument (texts .migratedFrom)),
    ("conflict_agent_task_id", optionalDocument (texts .conflictAgentTaskId)),
    ("ci_remediation_task_id", optionalDocument (texts .ciRemediationTaskId))]

theorem storedFields_keys (source : SourceFields) (status : AddendumStatus)
    (queuedAt : String) (commits : List String) (texts : OptionalField -> Option String) :
    ((storedFields source status queuedAt commits texts).map Prod.fst).Nodup := by
  show (["id", "project_id", "source_branch", "source_kind", "source_identifier",
    "source_commits", "target_branch", "status", "queued_at", "claimed_by",
    "lease_expires_at", "started_at", "completed_at", "work_branch", "pr_url",
    "pr_number", "result_commits", "error", "migrated_from", "conflict_agent_task_id",
    "ci_remediation_task_id"] : List String).Nodup
  decide

theorem mem_storedFields_optional (source : SourceFields) (status : AddendumStatus)
    (queuedAt : String) (commits : List String) (texts : OptionalField -> Option String)
    (f : OptionalField) :
    (f.name, optionalDocument (texts f)) ∈
      storedFields source status queuedAt commits texts := by
  unfold storedFields
  cases f <;> simp [OptionalField.name]

variable {commits : List String} {texts : OptionalField -> Option String}

theorem dump_toRaw (d : ReleaseDelivery) {queuedAt : String} (hqueued : d.queuedAt = .text queuedAt)
    (hcommits : d.resultCommits = .texts commits)
    (htexts : forall f, d.optional f = .ofOption (texts f)) :
    exists fields, d.toRaw = .ok fields ∧
      dumpFields fields = some (storedFields d.source d.status queuedAt commits texts) := by
  have hitems : d.resultCommits.items = some (commits.map .str) := by
    rw [hcommits]
    rfl
  unfold toRaw
  rw [hitems]
  refine ⟨_, rfl, ?_⟩
  simp only [dumpFields, htexts, hqueued, stored_ofOption, Field.text, Field.texts, stored_plain]
  rfl

theorem Normal.fromEntries_eq (h : Normal d) {queuedAt : String}
    (hqueued : d.queuedAt = .text queuedAt) (hcommits : d.resultCommits = .texts commits)
    (htexts : forall f, d.optional f = .ofOption (texts f)) (hget : forall key value,
      (key, value) ∈ storedFields d.source d.status queuedAt commits texts -> raw.get key = value) :
    fromEntries rt raw = .ok d := by
  have hnamed : Named queuedAt := by
    rcases h.queuedAt with ⟨text, htext, hnamed⟩
    rw [hqueued] at htext
    cases htext
    exact hnamed
  have hshas : forall sha, sha ∈ commits -> FullSha sha := by
    rcases h.resultCommits with ⟨shas, hsame, hshas⟩
    rw [hcommits] at hsame
    have hlist : commits = shas := by
      have hitems := congrArg Field.items hsame
      have hstrs : commits.map Document.str = shas.map Document.str := Option.some.inj hitems
      exact List.map_injective_iff.mpr (fun _ _ hstr => Document.str.inj hstr) hstrs
    rw [hlist]
    exact hshas
  have hnormal : forall f, NormalText (texts f) := by
    intro f
    rcases h.optional f with ⟨text, htext, hnormal⟩
    rw [htexts f] at htext
    rw [ofOption_injective htext]
    exact hnormal
  have hread : forall key value,
      (key, value) ∈ storedFields d.source d.status queuedAt commits texts ->
        raw.get key = value := hget
  unfold storedFields ReleaseDelivery.source at hget
  refine bind_eq_ok.mpr ⟨_, requiredField_of_get (hget _ _ (by simp)) h.id, ?_⟩
  refine bind_eq_ok.mpr ⟨_, requiredField_of_get (hget _ _ (by simp)) h.projectId, ?_⟩
  refine bind_eq_ok.mpr ⟨_, requiredField_of_get (hget _ _ (by simp)) h.sourceBranch, ?_⟩
  rw [hget "source_kind" (.str d.sourceKind.value) (by simp)]
  refine bind_eq_ok.mpr ⟨_, sourceKind_fromRaw d.sourceKind, ?_⟩
  rw [hget "source_identifier" (optionalDocument d.sourceIdentifier) (by simp)]
  refine bind_eq_ok.mpr ⟨_, optStr_ofOption h.identifier, ?_⟩
  refine bind_eq_ok.mpr ⟨_, requireIdentifier_eq_ok.mpr h.kind, ?_⟩
  rw [hget "source_commits" (.list (d.sourceCommits.map .str)) (by simp)]
  refine bind_eq_ok.mpr ⟨_, readSourceCommits_texts h.sourceCommits h.fullShas, ?_⟩
  refine bind_eq_ok.mpr ⟨_, requiredField_of_get (hget _ _ (by simp)) h.targetBranch, ?_⟩
  rw [hget "status" (.str d.status.value) (by simp)]
  refine bind_eq_ok.mpr ⟨_, status_fromRaw d.status, ?_⟩
  refine bind_eq_ok.mpr ⟨_, requiredField_of_get (hget _ _ (by simp)) hnamed, ?_⟩
  rw [hget "result_commits" (.list (commits.map .str)) (by simp)]
  refine bind_eq_ok.mpr ⟨_, readCommits_texts hshas, ?_⟩
  have hall : (fun f => if f ∈ OptionalField.all then texts f else none) = texts := by
    funext f
    rw [if_pos (OptionalField.mem_all f)]
  have hoptional : readOptional rt raw OptionalField.all = .ok texts := by
    rw [← hall]
    apply readOptional_of_get
    intro f _
    rw [hread _ _ (mem_storedFields_optional _ _ _ _ _ f)]
    exact optStr_ofOption (hnormal f)
  refine bind_eq_ok.mpr ⟨_, hoptional, ?_⟩
  show Except.ok _ = Except.ok d
  rw [← hqueued, ← hcommits, ← funext htexts]

theorem Normal.reads_back (h : Normal d) :
    exists fields stored, d.toRaw = .ok fields ∧ dumpFields fields = some stored ∧
      fromRaw rt (.mapping (Document.Entries.ofFields stored)) = .ok d := by
  rcases h.queuedAt with ⟨queuedAt, hqueued, -⟩
  rcases h.resultCommits with ⟨commits, hcommits, -⟩
  choose texts htexts _ using h.optional
  rcases dump_toRaw d hqueued hcommits htexts with ⟨fields, hraw, hdump⟩
  refine ⟨fields, _, hraw, hdump, ?_⟩
  show fromEntries rt _ = _
  exact h.fromEntries_eq hqueued hcommits htexts fun _ _ hmem =>
    Document.Entries.get_ofFields (storedFields_keys ..) hmem

end Deliveries
end ReleaseDeliveries
end Oompah
