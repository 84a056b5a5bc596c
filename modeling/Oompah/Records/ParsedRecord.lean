import Oompah.Records.RoundTrip

/-!
# Parsed records

A parsed record is normal in every field, reads back from its own mapping and
claims nothing that the stored mapping does not.
-/

namespace Oompah
namespace Records

open Foundation

namespace IntegrationRecord

section Fields

variable {rt : DocumentRuntime}

/-!
# Reading the entries of a record
-/

variable {key : String} {value : Option Document}

theorem lookup_present {fields : List (String × Option Document)}
    (hkeys : (fields.map Prod.fst).Nodup)
    (hmem : (key, value) ∈ fields) : (present fields).lookup key = value := by
  unfold present Document.Entries.lookup
  induction fields with
  | nil => cases hmem
  | cons field rest ih =>
    rw [List.map_cons, List.nodup_cons] at hkeys
    rcases field with ⟨key', value'⟩
    rcases List.mem_cons.mp hmem with hsame | hrest
    · cases hsame
      have habsent : forall other, (key, other) ∉ rest := by
        intro other hother
        exact hkeys.left (List.mem_map.mpr ⟨(key, other), hother, rfl⟩)
      cases value with
      | some found => simp [Document.isKey]
      | none =>
        simp only [List.filterMap_cons, Option.map_none, Option.map_eq_none_iff,
          List.find?_eq_none, List.mem_filterMap, Option.map_eq_some_iff]
        rintro entry ⟨⟨k, v⟩, hfield, found, hfound, rfl⟩
        simp only [Document.isKey, beq_iff_eq]
        rintro rfl
        exact habsent v hfield
    · have hne : key' ≠ key := by
        rintro rfl
        exact hkeys.left (List.mem_map.mpr ⟨(key', value), hrest, rfl⟩)
      cases value' with
      | none => simpa using ih hkeys.right hrest
      | some found => simpa [Document.isKey, hne] using ih hkeys.right hrest

theorem entries_keys (r : IntegrationRecord) : (r.entries.map Prod.fst).Nodup := by
  show (["version", "state", "attempts", "mode", "post_landed_parent_id", "task_branch",
    "base_branch", "base_sha", "head_sha", "integrated_sha", "submitted_at",
    "updated_at", "last_error", "backoff_until", "repair_failure_reason",
    "gate_outcome", "wait_reason", "wait_generation", "maintenance_publication_proven",
    "dependency_heads", "canonical_landing_evidence", "gate_cancellation",
    "required_base_missing"] : List String).Nodup
  decide

theorem getD_toDict (r : IntegrationRecord) (hmem : (key, value) ∈ r.entries) (default : Document) :
    r.toDict.getD key default = value.getD default := by
  unfold Document.Entries.getD toDict
  rw [lookup_present r.entries_keys hmem]

theorem get_toDict (r : IntegrationRecord)
    (hmem : (key, value) ∈ r.entries) : r.toDict.get key = value.getD .null :=
  r.getD_toDict hmem .null

/-!
# Normal records
-/

/-- Landing evidence is the mapping of evidence that verifies. -/
def NormalEvidence (rt : DocumentRuntime) (evidence : Option Document.Entries) : Prop :=
  forall stored, evidence = some stored ->
    exists e : CanonicalLandingEvidence, stored = e.toDict ∧ e.Verified rt ∧ e.normalize rt = e

structure Normal (rt : DocumentRuntime) (r : IntegrationRecord) : Prop where
  version : r.version = integrationRecordVersion
  state : r.state ∈ integrationStates
  modes : forall mode, mode ∈ r.mode -> mode ∈ integrationModes
  landed : r.postLandedParentId ≠ none -> r.mode = some "standalone"
  attempts : 0 ≤ r.attempts
  mode : NormalText r.mode
  postLandedParentId : NormalText r.postLandedParentId
  taskBranch : NormalText r.taskBranch
  baseBranch : NormalText r.baseBranch
  baseSha : NormalText r.baseSha
  headSha : NormalText r.headSha
  integratedSha : NormalText r.integratedSha
  submittedAt : NormalText r.submittedAt
  updatedAt : NormalText r.updatedAt
  lastError : NormalText r.lastError
  backoffUntil : NormalText r.backoffUntil
  repairFailureReason : NormalText r.repairFailureReason
  gateOutcome : NormalText r.gateOutcome
  waitReason : NormalText r.waitReason
  waitGeneration : NormalText r.waitGeneration
  dependencyHeads : NormalTexts id r.dependencyHeads
  gateCancellation : forall texts, r.gateCancellation = some texts -> NormalTexts strip texts
  canonicalLandingEvidence : NormalEvidence rt r.canonicalLandingEvidence
  requiredBaseMissing : NormalList r.requiredBaseMissing

theorem postInit_eq_ok {r r' : IntegrationRecord} : r.postInit rt = .ok r' <->
      (r.version = integrationRecordVersion ∧ r.state ∈ integrationStates ∧
        (forall mode, mode ∈ r.mode -> mode ∈ integrationModes) ∧
        (r.postLandedParentId ≠ none -> r.mode = some "standalone") ∧
        0 ≤ r.attempts) ∧ r' = r := by
  unfold postInit
  simp only [require_bind_eq_ok]
  constructor
  · rintro ⟨h1, h2, h3, h4, h5, h⟩
    exact ⟨⟨h1, h2, h3, h4, h5⟩, (Except.ok.inj h).symm⟩
  · rintro ⟨⟨h1, h2, h3, h4, h5⟩, rfl⟩
    exact ⟨h1, h2, h3, h4, h5, rfl⟩

variable {m : Document.Entries}

theorem readHeads_normal {heads : TextDict}
    (h : readHeads rt m = .ok heads) : NormalTexts id heads := by
  unfold readHeads at h
  split at h
  · exact textDict_normal textForm_id h
  · cases h
    exact normalTexts_nil id

theorem readCancellation_normal {cancellation : Option TextDict}
    (h : readCancellation rt m = .ok cancellation) :
    forall texts, cancellation = some texts -> NormalTexts strip texts := by
  unfold readCancellation at h
  split at h
  · rcases bind_eq_ok.mp h with ⟨read, hread, h⟩
    cases h
    intro texts htexts
    cases htexts
    exact textDict_normal textForm_strip hread
  · cases h
    exact fun _ h => nomatch h

theorem readMissing_normal {missing : List String}
    (h : readMissing rt m = .ok missing) : NormalList missing := by
  unfold readMissing at h
  split at h
  · exact textList_normal h
  · cases h
    exact fun _ h => nomatch h

theorem readEvidence_normal {evidence : Option Document.Entries}
    (h : readEvidence rt m = .ok evidence) : forall stored, evidence = some stored ->
      exists raw e, m.get "canonical_landing_evidence" = .mapping raw ∧
        CanonicalLandingEvidence.fromDict rt raw = .ok e ∧ stored = e.toDict := by
  unfold readEvidence at h
  intro stored hstored
  subst hstored
  split at h
  · rename_i raw hraw
    have hmapping : m.get "canonical_landing_evidence" = .mapping raw := by
      cases hvalue : m.get "canonical_landing_evidence" with
      | mapping entries =>
        rw [hvalue] at hraw
        rw [Option.some.inj hraw]
      | _ =>
        rw [hvalue] at hraw
        cases hraw
    rcases parseEvidence_cases rt raw with ⟨e, hparsed, hresult⟩ | hresult
    · rw [hresult] at h
      cases h
      exact ⟨raw, e, hmapping, hparsed, rfl⟩
    · rw [hresult] at h
      cases h
  · cases h

/-- What the stored mapping gives of the fields that carry authority. -/
structure ClaimedBy (rt : DocumentRuntime) (m : Document.Entries)
    (r : IntegrationRecord) : Prop where
  publication : r.maintenancePublicationProven = true ->
    (m.get "maintenance_publication_proven").isTrue = true
  evidence : forall stored, r.canonicalLandingEvidence = some stored ->
    exists raw e, m.get "canonical_landing_evidence" = .mapping raw ∧
      CanonicalLandingEvidence.fromDict rt raw = .ok e ∧ stored = e.toDict ∧
      e.evidenceFingerprint = rt.sha256 ("|".intercalate e.fields)
  parent : r.postLandedParentId ≠ none -> r.mode = some "standalone"

variable {r : IntegrationRecord}

theorem fromDict_eq_ok (h : fromDict rt m = .ok r) : r.Normal rt ∧ r.ClaimedBy rt m := by
  rcases bind_eq_ok.mp h with ⟨heads, hheads, h⟩
  rcases bind_eq_ok.mp h with ⟨⟨version, attempts⟩, -, h⟩
  rcases require_bind_eq_ok.mp h with ⟨-, h⟩
  rcases bind_eq_ok.mp h with ⟨evidence, hevidence, h⟩
  rcases bind_eq_ok.mp h with ⟨cancellation, hcancellation, h⟩
  rcases bind_eq_ok.mp h with ⟨missing, hmissing, h⟩
  rcases bind_eq_ok.mp h with ⟨state, -, h⟩
  rcases bind_eq_ok.mp h with ⟨mode, hmode, h⟩
  rcases bind_eq_ok.mp h with ⟨parent, hparent, h⟩
  rcases bind_eq_ok.mp h with ⟨taskBranch, htaskBranch, h⟩
  rcases bind_eq_ok.mp h with ⟨baseBranch, hbaseBranch, h⟩
  rcases bind_eq_ok.mp h with ⟨baseSha, hbaseSha, h⟩
  rcases bind_eq_ok.mp h with ⟨headSha, hheadSha, h⟩
  rcases bind_eq_ok.mp h with ⟨integratedSha, hintegratedSha, h⟩
  rcases bind_eq_ok.mp h with ⟨submittedAt, hsubmittedAt, h⟩
  rcases bind_eq_ok.mp h with ⟨updatedAt, hupdatedAt, h⟩
  rcases bind_eq_ok.mp h with ⟨lastError, hlastError, h⟩
  rcases bind_eq_ok.mp h with ⟨backoffUntil, hbackoffUntil, h⟩
  rcases bind_eq_ok.mp h with ⟨failure, hfailure, h⟩
  rcases bind_eq_ok.mp h with ⟨outcome, houtcome, h⟩
  rcases bind_eq_ok.mp h with ⟨waitReason, hwaitReason, h⟩
  rcases bind_eq_ok.mp h with ⟨waitGeneration, hwaitGeneration, h⟩
  rcases postInit_eq_ok.mp h with ⟨⟨hversion, hstate, hmodes, hlanded, hattempts⟩, rfl⟩
  have hstored := readEvidence_normal hevidence
  constructor
  · constructor
    · exact hversion
    · exact hstate
    · exact hmodes
    · exact hlanded
    · exact hattempts
    · exact optionalText_normal hmode
    · exact optionalText_normal hparent
    · exact optionalText_normal htaskBranch
    · exact optionalText_normal hbaseBranch
    · exact optionalText_normal hbaseSha
    · exact optionalText_normal hheadSha
    · exact optionalText_normal hintegratedSha
    · exact optionalText_normal hsubmittedAt
    · exact optionalText_normal hupdatedAt
    · exact optionalText_normal hlastError
    · exact optionalText_normal hbackoffUntil
    · exact optionalText_normal hfailure
    · exact optionalText_normal houtcome
    · exact optionalText_normal hwaitReason
    · exact optionalText_normal hwaitGeneration
    · exact readHeads_normal hheads
    · exact readCancellation_normal hcancellation
    · intro stored hsome
      rcases hstored stored hsome with ⟨raw, e, -, hparsed, hdict⟩
      exact ⟨e, hdict, CanonicalLandingEvidence.fromDict_eq_ok hparsed⟩
    · exact readMissing_normal hmissing
  · refine ⟨id, ?_, hlanded⟩
    intro stored hsome
    rcases hstored stored hsome with ⟨raw, e, hraw, hparsed, hdict⟩
    exact ⟨raw, e, hraw, hparsed, hdict,
      (CanonicalLandingEvidence.fromDict_eq_ok hparsed).left.fingerprint⟩

/-!
# Reading a record back
-/

theorem readText {value : Option String}
    (hmem : (key, value.map Document.str) ∈ r.entries) (h : NormalText value) :
    optionalText rt (r.toDict.get key) = .ok value := by
  rw [r.get_toDict hmem]
  exact optionalText_ofOption h

theorem readState (h : r.Normal rt) : rt.cleanLower (r.toDict.get "state") = .ok r.state := by
  have hmem : ("state", some (Document.str r.state)) ∈ r.entries := by simp [entries]
  have hplain : forall state, state ∈ integrationStates ->
      state.toList.all DocumentRuntime.plain = true := by decide +kernel
  rw [r.get_toDict hmem, Option.getD_some, DocumentRuntime.cleanLower_str,
    DocumentRuntime.lower_strip_plain (hplain r.state h.state)]

theorem readHeads_toDict (h : r.Normal rt) : readHeads rt r.toDict = .ok r.dependencyHeads := by
  have hmem : ("dependency_heads",
      if r.dependencyHeads.isEmpty then none else some (ofTexts r.dependencyHeads)) ∈
        r.entries := by simp [entries]
  unfold readHeads
  rw [r.get_toDict hmem]
  cases hheads : r.dependencyHeads with
  | nil => rfl
  | cons entry rest =>
    have hnormal := h.dependencyHeads
    rw [hheads] at hnormal
    exact textDict_ofTexts hnormal

theorem readIntegers_toDict (h : r.Normal rt) :
    readIntegers rt r.toDict = .ok (integrationRecordVersion, r.attempts) := by
  have hversion : ("version", some (Document.int r.version)) ∈ r.entries := by
    simp [entries]
  have hattempts : ("attempts", some (Document.int r.attempts)) ∈ r.entries := by
    simp [entries]
  have hor : (Document.int r.attempts).orElse (.int 0) = .int r.attempts := by
    unfold Document.orElse
    split
    · rfl
    · rename_i hfalsy
      have hzero : r.attempts = 0 := by simpa [Document.truthy] using hfalsy
      rw [hzero]
  unfold readIntegers
  rw [r.getD_toDict hversion, r.getD_toDict hattempts, Option.getD_some,
    Option.getD_some, hor, h.version]
  rfl

theorem readEvidence_toDict (h : r.Normal rt) :
    readEvidence rt r.toDict = .ok r.canonicalLandingEvidence := by
  have hmem : ("canonical_landing_evidence",
      r.canonicalLandingEvidence.map Document.mapping) ∈ r.entries := by simp [entries]
  unfold readEvidence
  rw [r.get_toDict hmem]
  cases hstored : r.canonicalLandingEvidence with
  | none => rfl
  | some stored =>
    rcases h.canonicalLandingEvidence stored hstored with
      ⟨e, rfl, hverified, hnormal⟩
    have hread := (CanonicalLandingEvidence.fromDict_toDict_iff hverified).mpr hnormal
    have hparse : parseCanonicalLandingEvidence rt (.mapping e.toDict) = .ok (some e) := by
      unfold parseCanonicalLandingEvidence
      simp only [Document.mapping?]
      rw [hread]
    simp only [Option.map_some, Option.getD_some, Document.mapping?]
    rw [hparse]
    rfl

theorem readCancellation_toDict (h : r.Normal rt) :
    readCancellation rt r.toDict = .ok r.gateCancellation := by
  have hmem : ("gate_cancellation", r.gateCancellation.map ofTexts) ∈ r.entries := by
    simp [entries]
  unfold readCancellation
  rw [r.get_toDict hmem]
  cases htexts : r.gateCancellation with
  | none => rfl
  | some texts =>
    have hread : textDict rt strip
        (texts.map fun entry => (.str entry.1, .str entry.2)) = .ok texts :=
      textDict_ofTexts (h.gateCancellation texts htexts)
    simp only [Option.map_some, Option.getD_some, ofTexts, Document.mapping?]
    rw [hread]
    rfl

theorem readMissing_toDict (h : r.Normal rt) :
    readMissing rt r.toDict = .ok r.requiredBaseMissing := by
  have hmem : ("required_base_missing",
      if r.requiredBaseMissing.isEmpty then none
      else some (Document.list (r.requiredBaseMissing.map .str))) ∈ r.entries := by
    simp [entries]
  unfold readMissing
  rw [r.get_toDict hmem]
  cases htexts : r.requiredBaseMissing with
  | nil => rfl
  | cons text rest =>
    have hnormal := h.requiredBaseMissing
    rw [htexts] at hnormal
    exact textList_ofTexts hnormal

theorem readPublication_toDict (r : IntegrationRecord) :
    (r.toDict.get "maintenance_publication_proven").isTrue = r.maintenancePublicationProven := by
  have hmem : ("maintenance_publication_proven",
      if r.maintenancePublicationProven then some (Document.bool true) else none) ∈
        r.entries := by simp [entries]
  rw [r.get_toDict hmem]
  cases r.maintenancePublicationProven <;> rfl

theorem fromDict_toDict (h : r.Normal rt) : fromDict rt r.toDict = .ok r := by
  have hversion : 1 ≤ integrationRecordVersion ∧
      integrationRecordVersion ≤ integrationRecordVersion := by decide
  unfold fromDict
  rw [readHeads_toDict h, readIntegers_toDict h, readEvidence_toDict h,
    readCancellation_toDict h, readMissing_toDict h, readState h,
    readText (by simp [entries]) h.mode,
    readText (by simp [entries]) h.postLandedParentId,
    readText (by simp [entries]) h.taskBranch, readText (by simp [entries]) h.baseBranch,
    readText (by simp [entries]) h.baseSha, readText (by simp [entries]) h.headSha,
    readText (by simp [entries]) h.integratedSha,
    readText (by simp [entries]) h.submittedAt,
    readText (by simp [entries]) h.updatedAt, readText (by simp [entries]) h.lastError,
    readText (by simp [entries]) h.backoffUntil,
    readText (by simp [entries]) h.repairFailureReason,
    readText (by simp [entries]) h.gateOutcome,
    readText (by simp [entries]) h.waitReason,
    readText (by simp [entries]) h.waitGeneration, readPublication_toDict]
  refine bind_eq_ok.mpr ⟨_, rfl, bind_eq_ok.mpr ⟨_, rfl, ?_⟩⟩
  refine require_bind_eq_ok.mpr ⟨hversion, ?_⟩
  iterate 19 refine bind_eq_ok.mpr ⟨_, rfl, ?_⟩
  refine postInit_eq_ok.mpr ⟨⟨rfl, h.state, h.modes, h.landed, h.attempts⟩, ?_⟩
  have hcurrent := h.version
  cases r
  dsimp only at hcurrent
  rw [hcurrent]

/-!
# Every stored value
-/

/-- The parser returns, and what it returns is stable and stored. -/
def ParsesSoundly (rt : DocumentRuntime) (value : Document) : Prop :=
  (exists result, parseIntegrationRecord rt value = .ok result) ∧
    forall r, parseIntegrationRecord rt value = .ok (some r) ->
      parseIntegrationRecord rt (.mapping r.toDict) = .ok (some r) ∧
        exists m, value = .mapping m ∧ r.ClaimedBy rt m

theorem parse_mapping_ok :
    parseIntegrationRecord rt (.mapping m) = .ok (some r) <-> fromDict rt m = .ok r := by
  unfold parseIntegrationRecord
  simp only [Document.mapping?]
  constructor
  · intro h
    split at h
    · rename_i r' hread
      cases h
      exact hread
    · cases h
    · cases h
  · intro h
    rw [h]

theorem parse_some {value : Document} (h : parseIntegrationRecord rt value = .ok (some r)) :
    exists m, value = .mapping m ∧ fromDict rt m = .ok r := by
  cases value with
  | mapping m => exact ⟨m, rfl, parse_mapping_ok.mp h⟩
  | _ => cases h

theorem parse_returns : (exists result, parseIntegrationRecord rt (.mapping m) = .ok result) <->
      ¬ Overflows rt m := by
  unfold parseIntegrationRecord
  simp only [Document.mapping?]
  constructor
  · rintro ⟨result, h⟩ hoverflows
    rw [fromDict_overflow hoverflows] at h
    cases h
  · intro h
    cases hread : fromDict rt m with
    | ok r => exact ⟨some r, rfl⟩
    | error e =>
      rcases fromDict_raises h e hread with ⟨message, rfl⟩
      exact ⟨none, rfl⟩

/--
A stored value parses soundly exactly when no infinite number stands where the
version or the attempts are read.
-/
theorem parses_soundly_iff (rt : DocumentRuntime) (value : Document) :
    ParsesSoundly rt value <-> forall m, value = .mapping m -> ¬ Overflows rt m := by
  constructor
  · rintro ⟨hreturns, -⟩ m rfl
    exact parse_returns.mp hreturns
  · intro h
    constructor
    · cases value with
      | mapping m => exact parse_returns.mpr (h m rfl)
      | _ => exact ⟨none, rfl⟩
    · intro r hparse
      rcases parse_some hparse with ⟨m, hmapping, hread⟩
      rcases fromDict_eq_ok hread with ⟨hnormal, hclaimed⟩
      exact ⟨parse_mapping_ok.mpr (fromDict_toDict hnormal), m, hmapping, hclaimed⟩

/-- A stored record whose number of attempts is infinite. -/
def infiniteAttempts : Document :=
  .mapping [(.str "state", .str "ready"), (.str "attempts", .float "inf" .infinite)]

/-- The parser raises the overflow that its handlers do not name. -/
theorem infiniteAttempts_raises :
    parseIntegrationRecord sampleRuntime infiniteAttempts = .error .overflowError ∧
      ¬ ParsesSoundly sampleRuntime infiniteAttempts := by
  have hraises : parseIntegrationRecord sampleRuntime infiniteAttempts =
      .error .overflowError := rfl
  refine ⟨hraises, ?_⟩
  rintro ⟨⟨result, hresult⟩, -⟩
  rw [hraises] at hresult
  cases hresult

end Fields
end IntegrationRecord
end Records
end Oompah
