import Oompah.Foundation.Checked
import Oompah.TerminalAudit.Finalizing

/-!
# A durable result can be finished

A result that names its exact identity is written at the finalizing boundary, read back
under its digest, and routed as before, exactly when its checkpoint fits the bound and it
is not the escalation of an exhausted retry.
-/

namespace Oompah
namespace TerminalAudit

open Foundation
open TaskEvaluation (statusText)
open Json (entriesSize escapedLength textLength)

/-!
# Texts that redaction leaves alone
-/

section Texts

variable {t : CharacterTable}

/-- The symbols without which nothing is redacted. -/
def isTelling (c : Char) : Bool :=
  Text.isSpace c || ":=".toList.any fun letter => sameLetter letter c

theorem sensitiveText_needs : sensitiveText.Needs (fun c => isTelling c = true) := by
  have hspace : spaces.Needs (fun c => isTelling c = true) := by
    left
    intro c hc
    exact Bool.or_eq_true_iff.mpr (.inl hc)
  have hassigned : (anyOf ":=").Needs (fun c => isTelling c = true) := by
    intro c hc
    exact Bool.or_eq_true_iff.mpr (.inr hc)
  apply Pattern.needs_oneOf
  intro r hr
  rcases List.mem_cons.mp hr with rfl | hr
  · exact Pattern.needs_all (List.mem_cons_of_mem _ List.mem_cons_self) hspace
  · rw [List.mem_singleton.mp hr]
    apply Pattern.needs_all (List.mem_cons_of_mem _ (List.mem_singleton_self _))
    exact Pattern.needs_all (List.mem_cons_of_mem _ List.mem_cons_self) hassigned

variable {text : String}

theorem redacted_plain
    (h : forall c, c ∈ text.toList -> isTelling c = false) : redacted t text = text := by
  have hplain : forall c, c ∈ text.toList -> ¬ isTelling c = true := by
    intro c hc
    rw [h c hc]
    exact Bool.false_ne_true
  unfold redacted
  rw [Pattern.substitute_of_not_found (Pattern.found_eq_false sensitiveText_needs hplain none),
    String.ofList_toList]

theorem cut_of_length_le {limit : Nat} (h : text.length ≤ limit) : cut limit text = text := by
  unfold cut
  rw [List.take_of_length_le h, String.ofList_toList]

theorem stable_of_plain (h : text.toList.all (fun c => !isTelling c) = true)
    (hne : text ≠ "") (hlength : text.length ≤ maxCheckpointText) : Stable t text := by
  have hplain : forall c, c ∈ text.toList -> isTelling c = false := by
    intro c hc
    have hc' := List.all_eq_true.mp h c hc
    rw [Bool.not_eq_true'] at hc'
    exact hc'
  refine ⟨?_, hne, ?_⟩
  · have hink : forall c, c ∈ text.toList -> Text.isSpace c = false := by
      intro c hc
      have hc' := hplain c hc
      unfold isTelling at hc'
      exact (Bool.or_eq_false_iff.mp hc').left
    have hstripped : Text.Stripped Text.isSpace text.toList :=
      ⟨fun c hc => hink c (List.mem_of_head? hc), fun c hc => hink c (List.mem_of_getLast? hc)⟩
    unfold strip
    rw [hstripped.strip_eq, String.ofList_toList]
  · unfold bounded
    rw [redacted_plain hplain, cut_of_length_le hlength]

theorem Stable.nonempty (h : Stable t text) : strip text ≠ "" := by
  rw [h.left]
  exact h.right.left

theorem stable_target (target : TargetState) : Stable t target.value := by
  cases target <;> exact stable_of_plain rfl (by decide) (by decide)

theorem stable_verdict (verdict : Verdict) : Stable t verdict.value := by
  cases verdict <;> exact stable_of_plain rfl (by decide) (by decide)

theorem stable_classification (classification : FailureClassification) :
    Stable t classification.value := by
  cases classification <;> exact stable_of_plain rfl (by decide) (by decide)

theorem stable_digest {digest : String} (h : isDigest digest = true) : Stable t digest := by
  unfold isDigest at h
  rw [Bool.and_eq_true, decide_eq_true_eq, List.all_eq_true] at h
  rcases h with ⟨hlength, hhex⟩
  apply stable_of_plain
  · rw [List.all_eq_true]
    intro c hc
    have hmem := of_decide_eq_true (hhex c hc)
    have hall : "0123456789abcdef".toList.all (fun c => !isTelling c) = true := rfl
    exact List.all_eq_true.mp hall c hmem
  · intro hempty
    rw [hempty] at hlength
    cases hlength
  · rw [hlength]
    decide

theorem safeText_stable {text name : String} (h : Stable t text) :
    safeText t text name = .ok text := by
  rcases h with ⟨hstrip, hne, hbounded⟩
  unfold safeText
  dsimp only
  rw [hstrip, if_neg hne, hbounded]

end Texts

/-!
# What is written
-/

theorem mapM_eq_ok {ε α β : Type} {f : α -> Except ε β} {g : α -> β} {value : Option α}
    (h : forall a, value = some a -> f a = .ok (g a)) : value.mapM f = .ok (value.map g) := by
  cases value with
  | none => rfl
  | some a =>
    show some <$> f a = _
    rw [h a rfl]
    rfl

/-- A running job that owns the record, with identities that are stored as they are. -/
structure Owns (rt : AuditRuntime) (job : AuditJob) (record : TerminalAuditRecord)
    (attemptId leaseToken : String) : Prop where
  validated : validateOwnedIdentity rt job record attemptId leaseToken = .ok ()
  leased : job.leaseLive = true
  claimed : 1 ≤ job.attempts
  auditId : Stable rt.table record.auditId
  attemptId : Stable rt.table attemptId
  jobId : Stable rt.table job.jobId

/-- A result that names the identity of a record and of its attempt. -/
structure NamesExactly (record : TerminalAuditRecord) (attemptId : String)
    (result : AuditResult) : Prop where
  auditId : result.auditId = record.auditId
  targetState : result.targetState = record.targetState
  evidenceFingerprint : result.evidenceFingerprint = record.evidenceFingerprint
  attemptId : result.attemptId = some attemptId
  auditor : forall auditor, result.auditor = some auditor -> strip auditor.identity ≠ ""

section Written

variable (rt : AuditRuntime)

/-- The payload of a result whose identities are stored as they are. -/
def decisionOf (result : AuditResult) (attemptId : String) : DecisionPayload where
  auditId := result.auditId
  targetState := result.targetState.value
  evidenceFingerprint := result.evidenceFingerprint.digest
  attemptId := attemptId
  verdict := result.verdict.value
  message := bounded rt.table maxCheckpointText result.message
  failureClassification := result.failureClassification.map FailureClassification.value
  questions := boundedTexts rt result.questions
  instructions := boundedTexts rt result.instructions
  safeEvidence := boundedEvidence rt (result.safeEvidence.getD [])
  auditor := result.auditor.map (boundedAuditor rt)

def signed (p : DecisionPayload) : ResultPayload :=
  { p with resultDigest := p.digest rt }

theorem signed_digest (p : DecisionPayload) :
    (signed rt p).resultDigest = (signed rt p).toDecisionPayload.digest rt := rfl

/-- The checkpoint of a result, without the result itself. -/
def frameOf (job : AuditJob) (record : TerminalAuditRecord) (result : AuditResult)
    (attemptId : String) : Checkpoint where
  auditId := record.auditId
  targetState := record.targetState.value
  evidenceFingerprint := record.evidenceFingerprint.digest
  authority := job.authority
  attemptId := attemptId
  workflowJobId := job.jobId
  jobAttempt := job.attempts
  verdict := some result.verdict.value
  failureClassification := result.failureClassification.map FailureClassification.value
  resultIdempotency := some attemptId
  result := none

def checkpointOf (job : AuditJob) (record : TerminalAuditRecord) (result : AuditResult)
    (attemptId : String) : Checkpoint :=
  { frameOf job record result attemptId with
    result := some (signed rt (decisionOf rt result attemptId)) }

end Written

section Writing

variable {rt : AuditRuntime} {job : AuditJob} {record : TerminalAuditRecord}
  {result : AuditResult} {attemptId leaseToken : String}

theorem validated_authority
    (h : validateOwnedIdentity rt job record attemptId leaseToken = .ok ()) :
    authorityPayload rt record = .ok job.authority := by
  obtain ⟨authority, hauthority, h⟩ := bind_eq_ok.mp h
  obtain ⟨_, _, h⟩ := bind_eq_ok.mp h
  obtain ⟨_, _, h⟩ := bind_eq_ok.mp h
  obtain ⟨_, _, h⟩ := bind_eq_ok.mp h
  obtain ⟨_, _, h⟩ := bind_eq_ok.mp h
  obtain ⟨_, _, h⟩ := bind_eq_ok.mp h
  obtain ⟨_, hequal, _⟩ := bind_eq_ok.mp h
  have howned : job.authority = authority := require_eq_ok.mp hequal
  rw [hauthority, howned]

theorem resultPayload_eq (hnames : NamesExactly record attemptId result)
    (howns : Owns rt job record attemptId leaseToken) :
    resultPayload rt result = .ok (signed rt (decisionOf rt result attemptId)) := by
  have haudit : Stable rt.table result.auditId := by
    rw [hnames.auditId]
    exact howns.auditId
  have hattempt : Stable rt.table (result.attemptId.getD "") := by
    rw [hnames.attemptId]
    exact howns.attemptId
  have hgetD : result.attemptId.getD "" = attemptId := by
    rw [hnames.attemptId]
    rfl
  have hclassification : (result.failureClassification.mapM fun classification =>
      safeText rt.table classification.value "failure_classification") =
      .ok (result.failureClassification.map FailureClassification.value) :=
    mapM_eq_ok fun classification _ => safeText_stable (stable_classification classification)
  have hauditor : result.auditor.mapM (auditorPayload rt) =
      .ok (result.auditor.map (boundedAuditor rt)) :=
    mapM_eq_ok fun auditor hauditor => if_neg (hnames.auditor auditor hauditor)
  unfold resultPayload
  rw [safeText_stable haudit, safeText_stable (stable_target _),
    safeText_stable (stable_digest result.evidenceFingerprint.valid),
    safeText_stable hattempt, safeText_stable (stable_verdict _), hclassification, hauditor,
    hgetD]
  rfl

/-- The size bound is the only thing that can refuse the checkpoint of a result. -/
theorem checkpointPayload_eq (howns : Owns rt job record attemptId leaseToken) :
    checkpointPayload rt job record attemptId (signed rt (decisionOf rt result attemptId)) =
      if maxCheckpointBytes < (checkpointOf rt job record result attemptId).json.encode.length then
        .error (.value "terminal-audit checkpoint exceeds the durable size bound")
      else .ok (checkpointOf rt job record result attemptId) := by
  have hauthority := validated_authority howns.validated
  have hclassification : ((signed rt (decisionOf rt result attemptId)).failureClassification.mapM
      fun value => safeText rt.table value "failure_classification") =
      .ok (result.failureClassification.map FailureClassification.value) := by
    show (result.failureClassification.map FailureClassification.value).mapM _ = _
    cases result.failureClassification with
    | none => rfl
    | some classification =>
      show some <$> safeText rt.table classification.value _ = _
      rw [safeText_stable (stable_classification classification)]
      rfl
  have hverdict : safeText rt.table (signed rt (decisionOf rt result attemptId)).verdict
      "verdict" = .ok result.verdict.value := safeText_stable (stable_verdict _)
  have hclaimed : ¬ job.attempts < 1 := by
    have hpositive := howns.claimed
    omega
  unfold checkpointPayload
  rw [hauthority, safeText_stable howns.attemptId, safeText_stable howns.jobId, hverdict,
    hclassification, safeText_stable howns.attemptId]
  show (if job.attempts < 1 then _ else _) = _
  rw [if_neg hclaimed]
  rfl

/-- The job at the finalizing boundary. -/
def finalizingJob (rt : AuditRuntime) (job : AuditJob) (record : TerminalAuditRecord)
    (result : AuditResult) (attemptId : String) : AuditJob :=
  { job with
    phase := .finalizing
    checkpoint := some (checkpointOf rt job record result attemptId) }

theorem markFinalizing_eq (hnames : NamesExactly record attemptId result)
    (howns : Owns rt job record attemptId leaseToken) :
    markFinalizing rt job record result attemptId leaseToken =
      if maxCheckpointBytes < (checkpointOf rt job record result attemptId).json.encode.length then
        .error (.value "terminal-audit checkpoint exceeds the durable size bound")
      else .ok (finalizingJob rt job record result attemptId) := by
  have haudit : demand ((signed rt (decisionOf rt result attemptId)).auditId = record.auditId)
      "result audit identity changed" = .ok () := if_pos hnames.auditId
  have htarget : demand ((signed rt (decisionOf rt result attemptId)).targetState =
      record.targetState.value) "result target identity changed" = .ok () :=
    if_pos (congrArg TargetState.value hnames.targetState)
  have hevidence : demand ((signed rt (decisionOf rt result attemptId)).evidenceFingerprint =
      record.evidenceFingerprint.digest) "result evidence identity changed" = .ok () :=
    if_pos (congrArg EvidenceFingerprint.digest hnames.evidenceFingerprint)
  have hattempt : demand ((signed rt (decisionOf rt result attemptId)).attemptId = attemptId)
      "result attempt identity changed" = .ok () := if_pos rfl
  unfold markFinalizing
  rw [howns.validated, resultPayload_eq hnames howns]
  show (do
    demand _ _
    demand _ _
    demand _ _
    demand _ _
    let checkpoint <- checkpointPayload rt job record attemptId _
    if job.leaseLive = false then _ else _) = _
  have hleased : ¬ job.leaseLive = false := by
    rw [howns.leased]
    rintro ⟨⟩
  rw [haudit, htarget, hevidence, hattempt, checkpointPayload_eq howns]
  split
  · rfl
  · rfl

/-- What is written is read back under its digest. -/
theorem finalizingResultPayload_eq (hsha : forall text, isDigest (rt.text.sha256 text) = true)
    (hnames : NamesExactly record attemptId result)
    (howns : Owns rt job record attemptId leaseToken) :
    finalizingResultPayload rt (finalizingJob rt job record result attemptId) =
      .ok (signed rt (decisionOf rt result attemptId)) := by
  have hstable : Stable rt.table result.auditId := by
    rw [hnames.auditId]
    exact howns.auditId
  have hdigest : isDigest ((decisionOf rt result attemptId).digest rt) = true := hsha _
  unfold finalizingResultPayload
  show (do
    demand (strip result.auditId ≠ "") _
    demand (strip result.targetState.value ≠ "") _
    demand (strip result.evidenceFingerprint.digest ≠ "") _
    demand (strip attemptId ≠ "") _
    demand (strip result.verdict.value ≠ "") _
    demand (result.auditId = record.auditId) _
    demand (result.targetState.value = record.targetState.value) _
    demand (result.evidenceFingerprint.digest = record.evidenceFingerprint.digest) _
    demand (attemptId = attemptId) _
    demand (isDigest ((decisionOf rt result attemptId).digest rt) = true) _
    demand ((decisionOf rt result attemptId).digest rt =
      (decisionOf rt result attemptId).digest rt) _
    pure (signed rt (decisionOf rt result attemptId))) = _
  unfold demand
  have htarget : Stable rt.table result.targetState.value := stable_target _
  have hevidence : Stable rt.table result.evidenceFingerprint.digest :=
    stable_digest result.evidenceFingerprint.valid
  have hverdict : Stable rt.table result.verdict.value := stable_verdict _
  rw [if_pos hstable.nonempty, if_pos htarget.nonempty, if_pos hevidence.nonempty,
    if_pos howns.attemptId.nonempty, if_pos hverdict.nonempty,
    if_pos hnames.auditId, if_pos (congrArg TargetState.value hnames.targetState),
    if_pos (congrArg EvidenceFingerprint.digest hnames.evidenceFingerprint), if_pos rfl,
    if_pos hdigest, if_pos rfl]
  rfl

end Writing

/-!
# What is built again
-/

@[simp] theorem TargetState.fromRaw_value (target : TargetState) :
    TargetState.fromRaw target.value = some target := by
  cases target <;> rfl

@[simp] theorem Verdict.fromRaw_value (verdict : Verdict) :
    Verdict.fromRaw verdict.value = some verdict := by
  cases verdict <;> rfl

@[simp] theorem FailureClassification.fromRaw_value (classification : FailureClassification) :
    FailureClassification.fromRaw classification.value = some classification := by
  cases classification <;> rfl

theorem EvidenceFingerprint.fromText_digest (fingerprint : EvidenceFingerprint) :
    EvidenceFingerprint.fromText fingerprint.digest = some fingerprint := by
  unfold EvidenceFingerprint.fromText
  rw [dif_pos fingerprint.valid]

variable {t : CharacterTable}

theorem redacted_ink {text : String} {c : Char} {rest : List Char}
    (htext : text.toList = c :: rest) (hc : Text.isSpace c = false) :
    exists d others, (redacted t text).toList = d :: others ∧ Text.isSpace d = false := by
  unfold redacted
  rw [String.toList_ofList, htext]
  unfold Pattern.substitute
  split
  · exact ⟨c, _, rfl, hc⟩
  · exact ⟨'[', _, rfl, rfl⟩

theorem bounded_named {limit : Nat} {text : String}
    (h : strip text ≠ "") (hlimit : 0 < limit) : strip (bounded t limit (strip text)) ≠ "" := by
  have hlist : (strip text).toList = Text.strip Text.isSpace text.toList := by
    unfold strip
    rw [String.toList_ofList]
  have hstart : exists c rest, (strip text).toList = c :: rest ∧ Text.isSpace c = false := by
    rcases hchars : (strip text).toList with _ | ⟨c, rest⟩
    · refine absurd ?_ h
      rw [← String.ofList_toList (s := strip text), hchars]
    · refine ⟨c, rest, rfl, (Text.strip_stripped text.toList).left c ?_⟩
      rw [← hlist, hchars]
      rfl
  rcases hstart with ⟨c, rest, htext, hc⟩
  rcases redacted_ink (t := t) htext hc with ⟨d, others, hredacted, hd⟩
  apply strip_ne_empty _ hd
  unfold bounded cut
  rw [String.toList_ofList, hredacted]
  cases limit with
  | zero => cases hlimit
  | succ limit => exact List.mem_cons_self

/-- The texts of a result as they are after a crash. -/
def recovered (rt : AuditRuntime) (result : AuditResult) : AuditResult :=
  result.retold (bounded rt.table maxCheckpointText result.message)
    (some ((boundedEvidence rt (result.safeEvidence.getD [])).map fun entry =>
      (entry.1, Value.str entry.2)))
    (result.auditor.map fun auditor =>
      ⟨(boundedAuditor rt auditor).identity, (boundedAuditor rt auditor).source⟩)
    (boundedTexts rt result.questions) (boundedTexts rt result.instructions) none

theorem auditResultFromPayload_eq (rt : AuditRuntime) {record : TerminalAuditRecord}
    {result : AuditResult} {attemptId : String} (hnames : NamesExactly record attemptId result) :
    auditResultFromPayload (signed rt (decisionOf rt result attemptId)) =
      some (recovered rt result) := by
  have htarget : TargetState.fromRaw (signed rt (decisionOf rt result attemptId)).targetState =
      some result.targetState := TargetState.fromRaw_value _
  have hevidence : EvidenceFingerprint.fromText
      (signed rt (decisionOf rt result attemptId)).evidenceFingerprint =
      some result.evidenceFingerprint := EvidenceFingerprint.fromText_digest _
  have hverdict : Verdict.fromRaw (signed rt (decisionOf rt result attemptId)).verdict =
      some result.verdict := Verdict.fromRaw_value _
  have hclassification : (signed rt (decisionOf rt result attemptId)).failureClassification.mapM
        FailureClassification.fromRaw = some result.failureClassification := by
    show (result.failureClassification.map FailureClassification.value).mapM _ = _
    cases result.failureClassification with
    | none => rfl
    | some classification =>
      show some <$> FailureClassification.fromRaw classification.value = _
      rw [FailureClassification.fromRaw_value]
      rfl
  have hauditor : (signed rt (decisionOf rt result attemptId)).auditor.mapM
      AuditorPayload.contributor = some (result.auditor.map fun auditor =>
        ⟨(boundedAuditor rt auditor).identity, (boundedAuditor rt auditor).source⟩) := by
    show (result.auditor.map (boundedAuditor rt)).mapM _ = _
    cases hresult : result.auditor with
    | none => rfl
    | some auditor =>
      have hnamed : strip (boundedAuditor rt auditor).identity ≠ "" :=
        bounded_named (hnames.auditor auditor hresult) (by decide)
      show some <$> AuditorPayload.contributor (boundedAuditor rt auditor) = _
      unfold AuditorPayload.contributor
      rw [if_neg hnamed]
      rfl
  have hattempt := hnames.attemptId
  unfold auditResultFromPayload
  rw [htarget, hevidence, hverdict, hclassification, hauditor]
  unfold recovered AuditResult.retold
  rw [hattempt]
  rfl

/-!
# The size of a checkpoint
-/

/-- The bytes of a text inside its quotes. -/
def spelled (text : String) : Nat :=
  (text.toList.map Json.escapedLength).sum

def listSize (texts : List String) : Nat :=
  (texts.map Json.textLength).sum + (texts.length - 1)

def evidenceSize (entries : List (String × String)) : Nat :=
  (entries.map fun entry => Json.textLength entry.1 + 1 + Json.textLength entry.2).sum +
    (entries.length - 1)

def auditorSize : Option AuditorPayload -> Nat
  | none => 0
  | some auditor => Json.textLength "auditor" + 2 + auditor.json.size

/-- The bytes that the free texts of a result take, once redacted, cut and escaped. -/
def spokenSize (rt : AuditRuntime) (result : AuditResult) : Nat :=
  spelled (bounded rt.table maxCheckpointText result.message) +
    listSize (boundedTexts rt result.questions) +
    listSize (boundedTexts rt result.instructions) +
    evidenceSize (boundedEvidence rt (result.safeEvidence.getD [])) +
    auditorSize (result.auditor.map (boundedAuditor rt))

/-- A payload without free text. -/
def DecisionPayload.silent (p : DecisionPayload) : DecisionPayload :=
  { p with
    message := ""
    questions := []
    instructions := []
    safeEvidence := []
    auditor := none }

/-- The names of a result as a payload without free text and without a digest. -/
def silentOf (result : AuditResult) (attemptId : String) : DecisionPayload where
  auditId := result.auditId
  targetState := result.targetState.value
  evidenceFingerprint := result.evidenceFingerprint.digest
  attemptId := attemptId
  verdict := result.verdict.value
  message := ""
  failureClassification := result.failureClassification.map FailureClassification.value
  questions := []
  instructions := []
  safeEvidence := []
  auditor := none

/-- A digest of one repeated character. -/
def flatDigest (c : Char) : String :=
  String.ofList (List.replicate 64 c)

/-- The bytes of the checkpoint of a result that says nothing, under any digest. -/
def frameSize (job : AuditJob) (record : TerminalAuditRecord) (result : AuditResult)
    (attemptId : String) : Nat :=
  (Checkpoint.json
    { frameOf job record result attemptId with
      result := some
        { silentOf result attemptId with
          resultDigest := flatDigest '0' } }).size

theorem entriesSize_append (a b : Json.Entries) :
    entriesSize (a ++ b) = entriesSize a + entriesSize b := by
  induction a with
  | nil => simp [entriesSize]
  | cons entry rest ih =>
    simp only [List.cons_append, entriesSize, ih]
    omega

theorem itemsSize_texts (texts : List String) :
    Json.itemsSize (texts.map Json.text) = (texts.map textLength).sum := by
  induction texts with
  | nil => rfl
  | cons text rest ih =>
    rw [List.map_cons, List.map_cons, List.sum_cons, ← ih]
    rfl

theorem entriesSize_texts (entries : List (String × String)) :
    entriesSize (entries.map fun entry => textEntry entry.1 entry.2) =
      (entries.map fun entry => textLength entry.1 + 1 + textLength entry.2).sum := by
  induction entries with
  | nil => rfl
  | cons entry rest ih =>
    rw [List.map_cons, List.map_cons, List.sum_cons, ← ih]
    rfl

theorem textList_size (texts : List String) : (textList texts).size = 2 + listSize texts := by
  unfold textList listSize Json.size
  rw [itemsSize_texts, List.length_map]
  omega

theorem textObject_size (entries : List (String × String)) :
    (Json.object (entries.map fun entry => textEntry entry.1 entry.2)).size =
      2 + evidenceSize entries := by
  unfold evidenceSize Json.size
  rw [entriesSize_texts, List.length_map]
  omega

theorem auditorEntries_size (auditor : Option AuditorPayload) :
    entriesSize (auditor.toList.map fun auditor => ("auditor", auditor.json)) +
        auditor.toList.length = auditorSize auditor := by
  cases auditor with
  | none => rfl
  | some auditor =>
    simp only [Option.toList_some, List.map_cons, List.map_nil, entriesSize,
      List.length_singleton, auditorSize]
    omega

theorem toldSize (message : String) (questions instructions : List String)
    (evidence : List (String × String)) :
    entriesSize [textEntry "message" message, ("questions", textList questions),
        ("instructions", textList instructions),
        ("safe_evidence", .object (evidence.map fun entry => textEntry entry.1 entry.2))] =
      entriesSize [textEntry "message" "", ("questions", textList []),
        ("instructions", textList []), ("safe_evidence", .object [])] +
        (spelled message + listSize questions + listSize instructions + evidenceSize evidence) := by
  have hentries : forall (message questions instructions evidence : Json),
      entriesSize [("message", message), ("questions", questions),
        ("instructions", instructions), ("safe_evidence", evidence)] =
        textLength "message" + 1 + message.size + (textLength "questions" + 1 + questions.size +
            (textLength "instructions" + 1 + instructions.size +
              (textLength "safe_evidence" + 1 + evidence.size + 0))) :=
    fun _ _ _ _ => rfl
  have hmessage : (Json.text message).size = 2 + spelled message := rfl
  have hempty : (Json.text "").size = 2 := rfl
  have hnone : (Json.object []).size = 2 := rfl
  have hlist : (textList []).size = 2 := rfl
  have hevidence := textObject_size evidence
  unfold textEntry at hevidence ⊢
  rw [hentries, hentries, textList_size, textList_size, hmessage, hempty, hnone, hlist, hevidence]
  omega

/-- Free text adds its own bytes to those of a payload without any. -/
theorem told_size (p : DecisionPayload) : entriesSize p.told + p.told.length =
      entriesSize p.silent.told + p.silent.told.length +
        (spelled p.message + listSize p.questions + listSize p.instructions +
          evidenceSize p.safeEvidence + auditorSize p.auditor) := by
  have hauditor := auditorEntries_size p.auditor
  have hsilent : entriesSize p.silent.told + p.silent.told.length =
      entriesSize [textEntry "message" "", ("questions", textList []),
        ("instructions", textList []), ("safe_evidence", .object [])] + 4 := rfl
  have htold : entriesSize p.told + p.told.length =
      entriesSize [textEntry "message" p.message, ("questions", textList p.questions),
        ("instructions", textList p.instructions),
        ("safe_evidence",
          .object (p.safeEvidence.map fun entry => textEntry entry.1 entry.2))] + 4 +
        auditorSize p.auditor := by
    unfold DecisionPayload.told
    rw [entriesSize_append, List.length_append, List.length_map, ← hauditor]
    simp only [List.length_cons, List.length_nil]
    omega
  rw [htold, hsilent, toldSize]
  omega

theorem members_size (entries : Json.Entries) (entry : String × Json) :
    (Json.object (entries ++ [entry])).size = 2 + (entriesSize entries + entries.length) +
        (textLength entry.1 + 1 + entry.2.size) := by
  have hsize : (Json.object (entries ++ [entry])).size =
      2 + entriesSize (entries ++ [entry]) + ((entries ++ [entry]).length - 1) := rfl
  have hentry : entriesSize [entry] = textLength entry.1 + 1 + entry.2.size + 0 := rfl
  rw [hsize, entriesSize_append, hentry, List.length_append, List.length_singleton]
  omega

theorem digest_length {digest : String} (h : isDigest digest = true) : textLength digest = 66 := by
  unfold isDigest at h
  rw [Bool.and_eq_true, decide_eq_true_eq, List.all_eq_true] at h
  rcases h with ⟨hlength, hhex⟩
  have hone : forall c, c ∈ digest.toList -> escapedLength c = 1 := by
    intro c hc
    have hmem := of_decide_eq_true (hhex c hc)
    have hall : "0123456789abcdef".toList.all (fun c => escapedLength c = 1) = true := rfl
    exact of_decide_eq_true (List.all_eq_true.mp hall c hmem)
  have hsum : (digest.toList.map escapedLength).sum = digest.toList.length := by
    rw [List.map_congr_left hone, List.map_const', List.sum_replicate_nat, Nat.mul_one]
  unfold textLength
  rw [hsum]
  rw [String.length_toList, hlength]

theorem isDigest_flat {c : Char} (h : c ∈ "0123456789abcdef".toList) :
    isDigest (flatDigest c) = true := by
  unfold isDigest flatDigest
  rw [Bool.and_eq_true, decide_eq_true_eq, List.all_eq_true, String.length_ofList,
    List.length_replicate, String.toList_ofList]
  refine ⟨rfl, ?_⟩
  intro d hd
  rw [(List.mem_replicate.mp hd).right]
  exact decide_eq_true h

theorem resultPayload_size (p : DecisionPayload) (digest : String) :
    (ResultPayload.json { p with resultDigest := digest }).size =
      2 + (entriesSize p.named + p.named.length + (entriesSize p.told + p.told.length)) +
        (textLength "result_digest" + 1 + textLength digest) := by
  have hsize : (ResultPayload.json { p with resultDigest := digest }).size =
      (Json.object (p.entries ++ [textEntry "result_digest" digest])).size := rfl
  have hentries : entriesSize p.entries + p.entries.length =
      entriesSize p.named + p.named.length + (entriesSize p.told + p.told.length) := by
    unfold DecisionPayload.entries
    rw [entriesSize_append, List.length_append]
    omega
  rw [hsize, members_size, hentries]
  rfl

theorem DecisionPayload.silent_named (p : DecisionPayload) : p.silent.named = p.named := rfl

/-- Free text adds its own bytes to those of a silent result under any digest. -/
theorem framed_size (frame : Json.Entries) (p : DecisionPayload) {digest blank : String}
    (hdigest : isDigest digest = true) (hblank : isDigest blank = true) :
    (Json.object
        (frame ++ [("result", ResultPayload.json { p with resultDigest := digest })])).size =
      (Json.object
        (frame ++ [("result", ResultPayload.json { p.silent with resultDigest := blank })])).size +
        (spelled p.message + listSize p.questions + listSize p.instructions +
          evidenceSize p.safeEvidence + auditorSize p.auditor) := by
  rw [members_size, members_size]
  dsimp only
  rw [resultPayload_size, resultPayload_size, digest_length hdigest, digest_length hblank,
    told_size p, p.silent_named]
  omega

variable {rt : AuditRuntime}

/-- The checkpoint of a result takes the bytes of its frame and of its free texts. -/
theorem checkpoint_length
    (hsha : forall text, isDigest (rt.text.sha256 text) = true) (job : AuditJob)
    (record : TerminalAuditRecord) (result : AuditResult) (attemptId : String) :
    (checkpointOf rt job record result attemptId).json.encode.length =
      frameSize job record result attemptId + spokenSize rt result := by
  rw [Json.encode_length]
  exact framed_size (frameOf job record result attemptId).framed (decisionOf rt result attemptId)
    (hsha _) (isDigest_flat (by decide))

/-!
# Finishing
-/

/-- The result is written, read back under its digest, and routed as the original. -/
def Finishes (rt : AuditRuntime) (job : AuditJob) (record : TerminalAuditRecord)
    (result : AuditResult) (attemptId leaseToken : String) : Prop :=
  exists finalizing payload rebuilt,
    markFinalizing rt job record result attemptId leaseToken = .ok finalizing ∧
    finalizing.phase = .finalizing ∧
    finalizing.checkpoint.bind Checkpoint.result = some payload ∧
    finalizingResultPayload rt finalizing = .ok payload ∧
    payload.resultDigest = payload.toDecisionPayload.digest rt ∧
    auditResultFromPayload payload = some rebuilt ∧
    forall (projectId : String) (call : ApplyCall) (d : TerminalAuditMetadata),
      call.result = result ->
        routing (applyAuditResult rt projectId { call with result := rebuilt } d).1 =
          routing (applyAuditResult rt projectId call d).1

theorem recovered_retold (rt : AuditRuntime) (result : AuditResult) :
    exists message safeEvidence auditor questions instructions origin, recovered rt result =
        result.retold message safeEvidence auditor questions instructions origin := by
  exact ⟨_, _, _, _, _, _, rfl⟩

theorem recovered_escalates (rt : AuditRuntime) (result : AuditResult) :
    isSafeRetryExhaustionEscalation (recovered rt result) = false := by
  show (_ && decide (none = some AuditAttemptOrigin.coordinatorRetryExhaustion) && _) = false
  simp

/-- The issue of a task whose evidence has changed since the audit was staged. -/
def movedIssue (evidence : EvidenceFingerprint) : Issue where
  identifier := "TASK-1"
  state := some (statusText .inValidation)
  evidence := evidence

/-- A call whose tracker shows other evidence than the audit, and then nothing. -/
def movedCall (result : AuditResult) (evidence : EvidenceFingerprint) : ApplyCall where
  currentIssue := movedIssue result.evidenceFingerprint
  result := result
  environment :=
    { detailReads := true
      refreshed := some (movedIssue evidence)
      lockedRead := none
      stagingRead := none
      now := ""
      freshIds := fun _ => "" }

theorem exists_other_evidence (evidence : EvidenceFingerprint) :
    exists other : EvidenceFingerprint, other ≠ evidence := by
  by_cases h : flatDigest '0' = evidence.digest
  · refine ⟨⟨flatDigest '1', isDigest_flat (by decide)⟩, ?_⟩
    intro heq
    have hdigest : flatDigest '1' = flatDigest '0' := by rw [h, ← heq]
    have hflat := congrArg String.toList hdigest
    unfold flatDigest at hflat
    rw [String.toList_ofList, String.toList_ofList] at hflat
    cases hflat
  · refine ⟨⟨flatDigest '0', isDigest_flat (by decide)⟩, ?_⟩
    intro heq
    exact h (congrArg EvidenceFingerprint.digest heq)

/-- A rebuilt result is told that the evidence has changed where the escalation is not. -/
theorem moved_routing {result rebuilt : AuditResult}
    {evidence : EvidenceFingerprint} (hevidence : evidence ≠ result.evidenceFingerprint)
    (hsame : rebuilt.evidenceFingerprint = result.evidenceFingerprint)
    (hescalates : isSafeRetryExhaustionEscalation result = true)
    (hrebuilt : isSafeRetryExhaustionEscalation rebuilt = false) :
    routing (applyAuditResult rt "p" { movedCall result evidence with result := rebuilt } {}).1 ≠
      routing (applyAuditResult rt "p" (movedCall result evidence) {}).1 := by
  have hstatus : (movedIssue evidence).status rt = .canonical .inValidation :=
    TaskEvaluation.canonicalizeStatus_text .inValidation
  have hmoved : snapshotMoved rt "p" { movedCall result evidence with result := rebuilt }
      (movedIssue evidence) {} = true := by
    unfold snapshotMoved
    dsimp only
    rw [hstatus, hsame, hrebuilt]
    simp [movedCall, movedIssue, hevidence, TerminalAuditMetadata.projectionFor]
  have hkept : snapshotMoved rt "p" (movedCall result evidence) (movedIssue evidence) {} =
      false := by
    unfold snapshotMoved
    dsimp only
    rw [show (movedCall result evidence).result = result from rfl, hescalates]
    simp
  have hrebuilt : routing (applyAuditResult rt "p"
      { movedCall result evidence with result := rebuilt } {}).1 =
      .ok (false, none, some .fingerprintMismatch) := by
    show routing (if snapshotMoved rt "p" { movedCall result evidence with result := rebuilt }
      (movedIssue evidence) {} = true then (_ : Applied) else _).1 = _
    rw [if_pos hmoved]
    rfl
  have hresult : routing (applyAuditResult rt "p" (movedCall result evidence) {}).1 =
      .ok (false, none, some .currentEvidenceUnavailable) := by
    show routing (if snapshotMoved rt "p" (movedCall result evidence)
      (movedIssue evidence) {} = true then (_ : Applied) else _).1 = _
    rw [if_neg (by rw [hkept]; exact Bool.false_ne_true)]
    rfl
  rw [hrebuilt, hresult]
  intro h
  cases h

/-- A result that names its exact identity can be finished from its checkpoint, exactly when
the checkpoint fits the bound and the result is no retry exhaustion. -/
theorem finishes_iff {job : AuditJob} {record : TerminalAuditRecord}
    {result : AuditResult} {attemptId leaseToken : String}
    (hsha : forall text, isDigest (rt.text.sha256 text) = true)
    (howns : Owns rt job record attemptId leaseToken)
    (hnames : NamesExactly record attemptId result) :
    Finishes rt job record result attemptId leaseToken <->
      frameSize job record result attemptId + spokenSize rt result ≤ maxCheckpointBytes ∧
        isSafeRetryExhaustionEscalation result = false := by
  have hwritten := markFinalizing_eq hnames howns
  rw [checkpoint_length hsha] at hwritten
  constructor
  · rintro ⟨finalizing, payload, rebuilt, hmark, _, hpayload, _, _, hbuilt, hroutes⟩
    have hsize : frameSize job record result attemptId + spokenSize rt result ≤
        maxCheckpointBytes := by
      by_contra hlarge
      rw [hwritten, if_pos (by omega)] at hmark
      cases hmark
    refine ⟨hsize, ?_⟩
    rw [hwritten, if_neg (by omega)] at hmark
    cases hmark
    cases hpayload
    rw [auditResultFromPayload_eq rt hnames] at hbuilt
    cases hbuilt
    by_contra hescalates
    rw [Bool.not_eq_false] at hescalates
    obtain ⟨evidence, hevidence⟩ := exists_other_evidence result.evidenceFingerprint
    have hsame : (recovered rt result).evidenceFingerprint = result.evidenceFingerprint := by
      obtain ⟨message, evidence, auditor, questions, instructions, origin, hretold⟩ :=
        recovered_retold rt result
      rw [hretold]
      rfl
    exact moved_routing hevidence hsame hescalates (recovered_escalates rt result)
      (hroutes "p" (movedCall result evidence) {} rfl)
  · rintro ⟨hsize, hescalates⟩
    have hread := finalizingResultPayload_eq hsha hnames howns
    have hbuilt := auditResultFromPayload_eq rt hnames
    have hsigned := signed_digest rt (decisionOf rt result attemptId)
    refine ⟨finalizingJob rt job record result attemptId, _, _, ?_, rfl, rfl, hread, hsigned,
      hbuilt, ?_⟩
    · rw [hwritten, if_neg (by omega)]
    · intro projectId call d hresult
      have halike : RoutesAlike call.result (recovered rt result) := by
        rw [hresult]
        refine ⟨recovered_retold rt result, ?_, ?_⟩
        · rw [hnames.attemptId]
          rfl
        · rw [recovered_escalates, hescalates]
      exact halike.apply rt projectId d

/-!
# A job and its results
-/

def sampleFingerprint : EvidenceFingerprint :=
  ⟨flatDigest '0', isDigest_flat (by decide)⟩

def signingRuntime : AuditRuntime where
  text := .ascii
  table := asciiTable
  timestamp _ := none

theorem signingRuntime_digest (text : String) :
    isDigest (signingRuntime.text.sha256 text) = true := by
  show isDigest (String.ofList (Sha256.hexdigest text.toList)) = true
  unfold isDigest
  rw [String.length_ofList, String.toList_ofList, Sha256.length_hexdigest]
  simpa using fun c hc => by simpa using Sha256.mem_hexdigest hc

def sampleRecord : TerminalAuditRecord where
  auditId := "audit-1"
  projectId := "p"
  taskId := "T-1"
  targetState := .done
  evidenceFingerprint := sampleFingerprint

def sampleGeneration : String :=
  match generation signingRuntime sampleRecord with
  | .ok value => value
  | .error _ => ""

/-- The job that runs the first attempt. -/
def sampleJob : AuditJob where
  jobId := "job-1"
  running := true
  action := jobAction
  generation := sampleGeneration
  expectedEvidenceRevision := flatDigest '0'
  authority := []
  phase := .running
  attempts := 1
  leaseToken := "lease-1"
  leaseLive := true
  checkpoint := some
    { auditId := "audit-1"
      targetState := "Done"
      evidenceFingerprint := flatDigest '0'
      authority := []
      attemptId := "attempt-1"
      workflowJobId := "job-1"
      jobAttempt := 1
      verdict := none
      failureClassification := none
      resultIdempotency := none
      result := none }

def sampleResult (verdict : Verdict) (message : String) (questions : List String) :
    AuditResult where
  auditId := "audit-1"
  targetState := .done
  evidenceFingerprint := sampleFingerprint
  verdict := verdict
  message := message
  attemptId := some "attempt-1"
  questions := questions

theorem demand_met {condition : Prop} [Decidable condition] {message : String}
    (h : condition) : demand condition message = .ok () :=
  if_pos h

theorem sampleJob_owns : Owns signingRuntime sampleJob sampleRecord "attempt-1" "lease-1" where
  validated := by
    have hauthority : authorityPayload signingRuntime sampleRecord = .ok [] := rfl
    have hgeneration : generation signingRuntime sampleRecord = .ok sampleGeneration := rfl
    refine bind_eq_ok.mpr ⟨[], hauthority, ?_⟩
    refine bind_eq_ok.mpr ⟨(), demand_met rfl, ?_⟩
    refine bind_eq_ok.mpr ⟨(), demand_met rfl, ?_⟩
    refine bind_eq_ok.mpr ⟨sampleGeneration, hgeneration, ?_⟩
    refine bind_eq_ok.mpr ⟨(), demand_met rfl, ?_⟩
    refine bind_eq_ok.mpr ⟨(), demand_met rfl, ?_⟩
    refine bind_eq_ok.mpr ⟨(), demand_met rfl, ?_⟩
    refine bind_eq_ok.mpr ⟨(), demand_met rfl, ?_⟩
    refine bind_eq_ok.mpr ⟨(), demand_met rfl, ?_⟩
    refine bind_eq_ok.mpr ⟨(), demand_met rfl, ?_⟩
    refine bind_eq_ok.mpr ⟨(), demand_met rfl, ?_⟩
    refine bind_eq_ok.mpr ⟨(), demand_met rfl, ?_⟩
    refine bind_eq_ok.mpr ⟨(), demand_met rfl, ?_⟩
    refine bind_eq_ok.mpr ⟨(), ?_, ?_⟩
    · exact demand_met fun _ h => h
    · refine bind_eq_ok.mpr ⟨(), demand_met rfl, ?_⟩
      exact demand_met rfl
  leased := rfl
  claimed := le_rfl
  auditId := stable_of_plain rfl (by decide) (by decide)
  attemptId := stable_of_plain rfl (by decide) (by decide)
  jobId := stable_of_plain rfl (by decide) (by decide)

theorem sampleResult_names (verdict : Verdict) (message : String) (questions : List String) :
    NamesExactly sampleRecord "attempt-1" (sampleResult verdict message questions) :=
  ⟨rfl, rfl, rfl, rfl, fun _ h => nomatch h⟩

theorem sampleResult_finishes :
    Finishes signingRuntime sampleJob sampleRecord (sampleResult .pass "checked" []) "attempt-1"
        "lease-1" <->
      frameSize sampleJob sampleRecord (sampleResult .pass "checked" []) "attempt-1" +
          spokenSize signingRuntime (sampleResult .pass "checked" []) ≤ maxCheckpointBytes ∧
        isSafeRetryExhaustionEscalation (sampleResult .pass "checked" []) = false :=
  finishes_iff signingRuntime_digest sampleJob_owns (sampleResult_names _ _ _)

/-- A text of symbols outside ASCII, without blanks. -/
def marks (n : Nat) : String :=
  String.ofList (List.replicate n '✓')

theorem bounded_marks {limit n : Nat} (h : n ≤ limit) : bounded t limit (marks n) = marks n := by
  have hlist : (marks n).toList = List.replicate n '✓' := String.toList_ofList
  have hplain : forall c, c ∈ (marks n).toList -> isTelling c = false := by
    intro c hc
    rw [hlist] at hc
    rw [(List.mem_replicate.mp hc).right]
    rfl
  have hlength : (marks n).length ≤ limit := by
    rw [← String.length_toList, hlist, List.length_replicate]
    exact h
  unfold bounded
  rw [redacted_plain hplain, cut_of_length_le hlength]

theorem spelled_marks (n : Nat) : spelled (marks n) = n * 6 := by
  have hlist : (marks n).toList = List.replicate n '✓' := String.toList_ofList
  have hsix : escapedLength '✓' = 6 := rfl
  unfold spelled
  rw [hlist, List.map_replicate, hsix, List.sum_replicate_nat]

theorem sampleResult_spoken (verdict : Verdict) (message first second : String) :
    spokenSize signingRuntime (sampleResult verdict message [first, second]) =
      spelled (bounded asciiTable maxCheckpointText message) +
        (2 + spelled (bounded asciiTable 192 first) +
          (2 + spelled (bounded asciiTable 192 second) + 0) + 1) := by
  have hquestions : boundedTexts signingRuntime [first, second] =
      [bounded asciiTable 192 first, bounded asciiTable 192 second] := rfl
  have htwo : forall a b : String, listSize [a, b] =
      2 + spelled a + (2 + spelled b + 0) + 1 := fun _ _ => rfl
  have hevidence : evidenceSize (boundedEvidence signingRuntime []) = 0 := rfl
  have hinstructions : listSize (boundedTexts signingRuntime []) = 0 := rfl
  have hspoken : spokenSize signingRuntime (sampleResult verdict message [first, second]) =
      spelled (bounded asciiTable maxCheckpointText message) +
        listSize (boundedTexts signingRuntime [first, second]) +
        listSize (boundedTexts signingRuntime []) +
        evidenceSize (boundedEvidence signingRuntime []) + 0 := rfl
  rw [hspoken, hquestions, htwo, hevidence, hinstructions]
  simp only [Nat.add_zero]

/-- A verdict that fits every bound of its fields and not the bound of the whole. -/
theorem sampleMarks_not_finished :
    Owns signingRuntime sampleJob sampleRecord "attempt-1" "lease-1" ∧
      NamesExactly sampleRecord "attempt-1"
        (sampleResult .needsHuman (marks 512) [marks 192, marks 192]) ∧
      markFinalizing signingRuntime sampleJob sampleRecord
          (sampleResult .needsHuman (marks 512) [marks 192, marks 192]) "attempt-1" "lease-1" =
        .error (.value "terminal-audit checkpoint exceeds the durable size bound") ∧
      ¬ Finishes signingRuntime sampleJob sampleRecord
        (sampleResult .needsHuman (marks 512) [marks 192, marks 192]) "attempt-1" "lease-1" := by
  have hnames := sampleResult_names .needsHuman (marks 512) [marks 192, marks 192]
  have hspoken : 4096 < spokenSize signingRuntime
      (sampleResult .needsHuman (marks 512) [marks 192, marks 192]) := by
    rw [sampleResult_spoken, bounded_marks (show 512 ≤ maxCheckpointText from le_rfl),
      bounded_marks le_rfl, spelled_marks, spelled_marks]
    omega
  have hrefused : markFinalizing signingRuntime sampleJob sampleRecord
      (sampleResult .needsHuman (marks 512) [marks 192, marks 192]) "attempt-1" "lease-1" =
        .error (.value "terminal-audit checkpoint exceeds the durable size bound") := by
    rw [markFinalizing_eq hnames sampleJob_owns, checkpoint_length signingRuntime_digest]
    apply if_pos
    have hbound : maxCheckpointBytes = 4096 := rfl
    omega
  refine ⟨sampleJob_owns, hnames, hrefused, ?_⟩
  rintro ⟨finalizing, _, _, hmark, _⟩
  rw [hrefused] at hmark
  cases hmark

end TerminalAudit
end Oompah
