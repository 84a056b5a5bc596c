import Oompah.Foundation.Checked
import Oompah.Foundation.Document
import Oompah.Foundation.Joined

/-!
# Landing evidence

Evidence of a rebased landing carries a fingerprint of its fields joined by a
separator.  A constructor checks the fields and the fingerprint, and the parser
of a stored mapping normalises the fields before it constructs the evidence.
-/

namespace Oompah
namespace Records

open Foundation
open DocumentRuntime (cleanLower_normal cleanLower_str clean_str clean_stripped)

/-- `_is_valid_git_sha`. -/
def isValidGitSha (rt : DocumentRuntime) (sha : String) (bits : Nat) : Bool :=
  let text := rt.lower (strip sha)
  text.length = bits / 4 && text.toList.all (fun c => c ∈ "0123456789abcdef".toList)

def requireSha (rt : DocumentRuntime) (sha name : String) : Except PyError Unit :=
  require (isValidGitSha rt sha 160 = true)
    (.valueError ("invalid git SHA for " ++ name ++ ": " ++ rt.repr sha ++
      " (must be 40-character hexadecimal)"))

def requireText (text name : String) : Except PyError Unit :=
  require (strip text ≠ "") (.valueError (name ++ " is required and cannot be empty"))

/-- Lower-case hexadecimal text. -/
def hexText (sha : String) : Bool :=
  sha.toList.all fun c => c ∈ "0123456789abcdef".toList

theorem hexText_normal (rt : DocumentRuntime) {sha : String} (h : hexText sha = true) :
    rt.lower (strip sha) = sha ∧
      forall {bits : Nat}, sha.length = bits / 4 -> isValidGitSha rt sha bits = true := by
  have hdigits : forall c, c ∈ "0123456789abcdef".toList -> DocumentRuntime.plain c = true := by
    have hall : "0123456789abcdef".toList.all DocumentRuntime.plain = true := rfl
    exact List.all_eq_true.mp hall
  have hnormal : rt.lower (strip sha) = sha := by
    apply DocumentRuntime.lower_strip_plain
    rw [List.all_eq_true]
    intro c hc
    exact hdigits c (of_decide_eq_true (List.all_eq_true.mp h c hc))
  refine ⟨hnormal, ?_⟩
  intro bits hlength
  unfold isValidGitSha
  rw [hnormal]
  simp only [hlength, decide_true, Bool.true_and]
  exact h

/-!
# Evidence of an epic
-/

/-- `_compute_evidence_fingerprint`. -/
def computeEvidenceFingerprint (rt : DocumentRuntime)
    (oldBaseSha oldHeadSha newBaseSha newHeadSha targetEpicBranch rebaseTaskId
      createdAtUtc : String) : String :=
  rt.sha256 ("|".intercalate
    [oldBaseSha, oldHeadSha, newBaseSha, newHeadSha, targetEpicBranch, rebaseTaskId, createdAtUtc])

structure CanonicalLandingEvidence where
  oldBaseSha : String
  oldHeadSha : String
  newBaseSha : String
  newHeadSha : String
  targetEpicBranch : String
  rebaseTaskId : String
  createdAtUtc : String
  evidenceFingerprint : String
  deriving DecidableEq

namespace CanonicalLandingEvidence

/-- `__post_init__`. -/
def postInit (rt : DocumentRuntime) (e : CanonicalLandingEvidence) :
    Except PyError CanonicalLandingEvidence := do
  requireSha rt e.oldBaseSha "old_base_sha"
  requireSha rt e.oldHeadSha "old_head_sha"
  requireSha rt e.newBaseSha "new_base_sha"
  requireSha rt e.newHeadSha "new_head_sha"
  requireText e.targetEpicBranch "target_epic_branch"
  requireText e.rebaseTaskId "rebase_task_id"
  requireText e.createdAtUtc "created_at_utc"
  require (isValidGitSha rt e.evidenceFingerprint 256 = true)
    (.valueError ("invalid fingerprint: " ++ rt.repr e.evidenceFingerprint ++
      " (must be 64-character hexadecimal)"))
  let expected := computeEvidenceFingerprint rt e.oldBaseSha e.oldHeadSha e.newBaseSha
    e.newHeadSha e.targetEpicBranch e.rebaseTaskId e.createdAtUtc
  require (e.evidenceFingerprint = expected)
    (.valueError ("evidence fingerprint mismatch: " ++ rt.repr e.evidenceFingerprint ++
      " != " ++ rt.repr expected ++ " (evidence is corrupted or tampered)"))
  return e

/-- The required fields in the order their names are reported. -/
def requiredFields : List String :=
  ["created_at_utc", "evidence_fingerprint", "new_base_sha", "new_head_sha",
    "old_base_sha", "old_head_sha", "rebase_task_id", "target_epic_branch"]

def fromDict (rt : DocumentRuntime) (value : Document.Entries) :
    Except PyError CanonicalLandingEvidence := do
  let missing := requiredFields.filter fun field => !value.has field
  require (missing = [])
    (.valueError ("evidence missing required fields: " ++ ", ".intercalate missing))
  let oldBaseSha <- rt.cleanLower (value.get "old_base_sha")
  let oldHeadSha <- rt.cleanLower (value.get "old_head_sha")
  let newBaseSha <- rt.cleanLower (value.get "new_base_sha")
  let newHeadSha <- rt.cleanLower (value.get "new_head_sha")
  let targetEpicBranch <- rt.clean (value.get "target_epic_branch")
  let rebaseTaskId <- rt.clean (value.get "rebase_task_id")
  let createdAtUtc <- rt.clean (value.get "created_at_utc")
  let evidenceFingerprint <- rt.cleanLower (value.get "evidence_fingerprint")
  postInit rt
    { oldBaseSha, oldHeadSha, newBaseSha, newHeadSha, targetEpicBranch, rebaseTaskId,
      createdAtUtc, evidenceFingerprint }

def toDict (e : CanonicalLandingEvidence) : Document.Entries :=
  [(.str "old_base_sha", .str e.oldBaseSha), (.str "old_head_sha", .str e.oldHeadSha),
    (.str "new_base_sha", .str e.newBaseSha), (.str "new_head_sha", .str e.newHeadSha),
    (.str "target_epic_branch", .str e.targetEpicBranch),
    (.str "rebase_task_id", .str e.rebaseTaskId),
    (.str "created_at_utc", .str e.createdAtUtc),
    (.str "evidence_fingerprint", .str e.evidenceFingerprint)]

/-- The fields as the parser writes them. -/
def normalize (rt : DocumentRuntime) (e : CanonicalLandingEvidence) :
    CanonicalLandingEvidence :=
  { oldBaseSha := rt.lower (strip e.oldBaseSha)
    oldHeadSha := rt.lower (strip e.oldHeadSha)
    newBaseSha := rt.lower (strip e.newBaseSha)
    newHeadSha := rt.lower (strip e.newHeadSha)
    targetEpicBranch := strip e.targetEpicBranch
    rebaseTaskId := strip e.rebaseTaskId
    createdAtUtc := strip e.createdAtUtc
    evidenceFingerprint := rt.lower (strip e.evidenceFingerprint) }

end CanonicalLandingEvidence

/-- `parse_canonical_landing_evidence`. -/
def parseCanonicalLandingEvidence (rt : DocumentRuntime) (value : Document) :
    Except PyError (Option CanonicalLandingEvidence) :=
  match value.mapping? with
  | none => .ok none
  | some entries =>
    match CanonicalLandingEvidence.fromDict rt entries with
    | .ok e => .ok (some e)
    | .error (.valueError _) => .ok none
    | .error e => .error e

/-!
# Evidence of a child
-/

/-- `_compute_child_landing_fingerprint`. -/
def computeChildLandingFingerprint (rt : DocumentRuntime)
    (projectId epicId childId baseSha sourceSha targetBaseSha targetSha generation
      createdAtUtc : String) : String :=
  rt.sha256 ("|".intercalate
    [projectId, epicId, childId, baseSha, sourceSha, targetBaseSha, targetSha,
      generation, createdAtUtc])

structure CanonicalChildLandingEvidence where
  projectId : String
  epicId : String
  childId : String
  baseSha : String
  sourceSha : String
  targetBaseSha : String
  targetSha : String
  generation : String
  createdAtUtc : String
  evidenceFingerprint : String
  deriving DecidableEq

namespace CanonicalChildLandingEvidence

/-- `__post_init__`: the fingerprint is compared after both sides are normalised. -/
def postInit (rt : DocumentRuntime) (e : CanonicalChildLandingEvidence) :
    Except PyError CanonicalChildLandingEvidence := do
  requireSha rt e.baseSha "base_sha"
  requireSha rt e.sourceSha "source_sha"
  requireSha rt e.targetBaseSha "target_base_sha"
  requireSha rt e.targetSha "target_sha"
  requireText e.projectId "project_id"
  requireText e.epicId "epic_id"
  requireText e.childId "child_id"
  requireText e.generation "generation"
  requireText e.createdAtUtc "created_at_utc"
  require (isValidGitSha rt e.evidenceFingerprint 256 = true)
    (.valueError ("invalid child landing evidence fingerprint " ++
      "(must be 64-character hexadecimal)"))
  require (rt.lower (strip e.evidenceFingerprint) =
      computeChildLandingFingerprint rt (strip e.projectId) (strip e.epicId)
        (strip e.childId) (rt.lower (strip e.baseSha)) (rt.lower (strip e.sourceSha))
        (rt.lower (strip e.targetBaseSha)) (rt.lower (strip e.targetSha))
        (strip e.generation) (strip e.createdAtUtc))
    (.valueError "child landing evidence fingerprint mismatch")
  return e

/-- `get`: the value of the first of the keys that is there. -/
def getFirst (value : Document.Entries) : List String -> Document
  | [] => .null
  | key :: rest =>
    match value.lookup key with
    | some item => item
    | none => getFirst value rest

/-- The required fields with the keys each is read from. -/
def required : List (String × List String) :=
  [("project_id", ["project_id"]), ("epic_id", ["epic_id", "epic"]),
    ("child_id", ["child_id", "child"]), ("base_sha", ["base_sha", "base"]),
    ("source_sha", ["source_sha", "source"]), ("target_base_sha", ["target_base_sha"]),
    ("target_sha", ["target_sha", "target"]), ("generation", ["generation"]),
    ("created_at_utc", ["created_at_utc"]),
    ("evidence_fingerprint", ["evidence_fingerprint"])]

def fromDict (rt : DocumentRuntime) (value : Document.Entries) :
    Except PyError CanonicalChildLandingEvidence := do
  let missing := (required.filter fun field => (getFirst value field.2).isNull).map Prod.fst
  require (missing = []) (.valueError ("child landing evidence missing required fields: " ++
      ", ".intercalate missing))
  let projectId <- rt.clean (getFirst value ["project_id"])
  let epicId <- rt.clean (getFirst value ["epic_id", "epic"])
  let childId <- rt.clean (getFirst value ["child_id", "child"])
  let baseSha <- rt.cleanLower (getFirst value ["base_sha", "base"])
  let sourceSha <- rt.cleanLower (getFirst value ["source_sha", "source"])
  let targetBaseSha <- rt.cleanLower (getFirst value ["target_base_sha"])
  let targetSha <- rt.cleanLower (getFirst value ["target_sha", "target"])
  let generation <- rt.clean (getFirst value ["generation"])
  let createdAtUtc <- rt.clean (getFirst value ["created_at_utc"])
  let evidenceFingerprint <- rt.cleanLower (getFirst value ["evidence_fingerprint"])
  postInit rt
    { projectId, epicId, childId, baseSha, sourceSha, targetBaseSha, targetSha,
      generation, createdAtUtc, evidenceFingerprint }

def toDict (e : CanonicalChildLandingEvidence) : Document.Entries :=
  [(.str "project_id", .str e.projectId), (.str "epic_id", .str e.epicId),
    (.str "child_id", .str e.childId), (.str "base_sha", .str e.baseSha),
    (.str "source_sha", .str e.sourceSha),
    (.str "target_base_sha", .str e.targetBaseSha),
    (.str "target_sha", .str e.targetSha), (.str "generation", .str e.generation),
    (.str "created_at_utc", .str e.createdAtUtc),
    (.str "evidence_fingerprint", .str e.evidenceFingerprint)]

def normalize (rt : DocumentRuntime) (e : CanonicalChildLandingEvidence) :
    CanonicalChildLandingEvidence :=
  { projectId := strip e.projectId
    epicId := strip e.epicId
    childId := strip e.childId
    baseSha := rt.lower (strip e.baseSha)
    sourceSha := rt.lower (strip e.sourceSha)
    targetBaseSha := rt.lower (strip e.targetBaseSha)
    targetSha := rt.lower (strip e.targetSha)
    generation := strip e.generation
    createdAtUtc := strip e.createdAtUtc
    evidenceFingerprint := rt.lower (strip e.evidenceFingerprint) }

end CanonicalChildLandingEvidence

/-!
# Accepted evidence
-/

section Accepted

variable {rt : DocumentRuntime}

theorem requireSha_bind_eq_ok {α : Type} {sha name : String} {f : Unit -> Except PyError α}
    {a : α} : (requireSha rt sha name >>= f) = .ok a <->
      isValidGitSha rt sha 160 = true ∧ f () = .ok a :=
  require_bind_eq_ok

theorem requireText_bind_eq_ok {α : Type} {text name : String}
    {f : Unit -> Except PyError α} {a : α} :
    (requireText text name >>= f) = .ok a <-> strip text ≠ "" ∧ f () = .ok a :=
  require_bind_eq_ok

namespace CanonicalLandingEvidence

/-- The evidence is one the constructor accepts. -/
structure Verified (rt : DocumentRuntime) (e : CanonicalLandingEvidence) : Prop where
  oldBaseSha : isValidGitSha rt e.oldBaseSha 160 = true
  oldHeadSha : isValidGitSha rt e.oldHeadSha 160 = true
  newBaseSha : isValidGitSha rt e.newBaseSha 160 = true
  newHeadSha : isValidGitSha rt e.newHeadSha 160 = true
  targetEpicBranch : strip e.targetEpicBranch ≠ ""
  rebaseTaskId : strip e.rebaseTaskId ≠ ""
  createdAtUtc : strip e.createdAtUtc ≠ ""
  format : isValidGitSha rt e.evidenceFingerprint 256 = true
  fingerprint : e.evidenceFingerprint =
    computeEvidenceFingerprint rt e.oldBaseSha e.oldHeadSha e.newBaseSha e.newHeadSha
      e.targetEpicBranch e.rebaseTaskId e.createdAtUtc

theorem postInit_eq_ok {e e' : CanonicalLandingEvidence} :
    e.postInit rt = .ok e' <-> e.Verified rt ∧ e' = e := by
  unfold postInit
  simp only [requireSha_bind_eq_ok, requireText_bind_eq_ok, require_bind_eq_ok]
  constructor
  · rintro ⟨h1, h2, h3, h4, h5, h6, h7, h8, h9, h⟩
    exact ⟨⟨h1, h2, h3, h4, h5, h6, h7, h8, h9⟩, (Except.ok.inj h).symm⟩
  · rintro ⟨⟨h1, h2, h3, h4, h5, h6, h7, h8, h9⟩, rfl⟩
    exact ⟨h1, h2, h3, h4, h5, h6, h7, h8, h9, rfl⟩

theorem fromDict_eq_ok {m : Document.Entries} {e : CanonicalLandingEvidence}
    (h : fromDict rt m = .ok e) : e.Verified rt ∧ e.normalize rt = e := by
  unfold fromDict at h
  dsimp only at h
  rcases require_bind_eq_ok.mp h with ⟨-, h⟩
  rcases bind_eq_ok.mp h with ⟨oldBaseSha, holdBase, h⟩
  rcases bind_eq_ok.mp h with ⟨oldHeadSha, holdHead, h⟩
  rcases bind_eq_ok.mp h with ⟨newBaseSha, hnewBase, h⟩
  rcases bind_eq_ok.mp h with ⟨newHeadSha, hnewHead, h⟩
  rcases bind_eq_ok.mp h with ⟨branch, hbranch, h⟩
  rcases bind_eq_ok.mp h with ⟨task, htask, h⟩
  rcases bind_eq_ok.mp h with ⟨created, hcreated, h⟩
  rcases bind_eq_ok.mp h with ⟨fingerprint, hfingerprint, h⟩
  rcases postInit_eq_ok.mp h with ⟨hverified, rfl⟩
  refine ⟨hverified, ?_⟩
  unfold normalize
  rw [cleanLower_normal holdBase, cleanLower_normal holdHead, cleanLower_normal hnewBase,
    cleanLower_normal hnewHead, clean_stripped hbranch,
    clean_stripped htask, clean_stripped hcreated,
    cleanLower_normal hfingerprint]

theorem fromDict_toDict (e : CanonicalLandingEvidence) :
    fromDict rt e.toDict = (e.normalize rt).postInit rt := by
  have hget : forall key value, Document.Entries.lookup e.toDict key = some value ->
      Document.Entries.get e.toDict key = value := by
    intro key value h
    rw [Document.Entries.get, Document.Entries.getD, h]
    rfl
  unfold fromDict
  rw [hget "old_base_sha" _ rfl, hget "old_head_sha" _ rfl, hget "new_base_sha" _ rfl,
    hget "new_head_sha" _ rfl, hget "target_epic_branch" _ rfl,
    hget "rebase_task_id" _ rfl, hget "created_at_utc" _ rfl,
    hget "evidence_fingerprint" _ rfl]
  simp only [cleanLower_str, clean_str]
  rfl

theorem fromDict_toDict_iff {e : CanonicalLandingEvidence} (h : e.Verified rt) :
    fromDict rt e.toDict = .ok e <-> e.normalize rt = e := by
  rw [fromDict_toDict]
  constructor
  · intro hread
    exact (postInit_eq_ok.mp hread).right.symm
  · intro hnormal
    rw [hnormal]
    exact postInit_eq_ok.mpr ⟨h, rfl⟩

end CanonicalLandingEvidence

namespace CanonicalChildLandingEvidence

structure Verified (rt : DocumentRuntime) (e : CanonicalChildLandingEvidence) : Prop where
  baseSha : isValidGitSha rt e.baseSha 160 = true
  sourceSha : isValidGitSha rt e.sourceSha 160 = true
  targetBaseSha : isValidGitSha rt e.targetBaseSha 160 = true
  targetSha : isValidGitSha rt e.targetSha 160 = true
  projectId : strip e.projectId ≠ ""
  epicId : strip e.epicId ≠ ""
  childId : strip e.childId ≠ ""
  generation : strip e.generation ≠ ""
  createdAtUtc : strip e.createdAtUtc ≠ ""
  format : isValidGitSha rt e.evidenceFingerprint 256 = true
  fingerprint : rt.lower (strip e.evidenceFingerprint) =
    computeChildLandingFingerprint rt (strip e.projectId) (strip e.epicId)
      (strip e.childId) (rt.lower (strip e.baseSha)) (rt.lower (strip e.sourceSha))
      (rt.lower (strip e.targetBaseSha)) (rt.lower (strip e.targetSha))
      (strip e.generation) (strip e.createdAtUtc)

theorem postInit_eq_ok {e e' : CanonicalChildLandingEvidence} :
    e.postInit rt = .ok e' <-> e.Verified rt ∧ e' = e := by
  unfold postInit
  simp only [requireSha_bind_eq_ok, requireText_bind_eq_ok, require_bind_eq_ok]
  constructor
  · rintro ⟨h1, h2, h3, h4, h5, h6, h7, h8, h9, h10, h11, h⟩
    exact ⟨⟨h1, h2, h3, h4, h5, h6, h7, h8, h9, h10, h11⟩, (Except.ok.inj h).symm⟩
  · rintro ⟨⟨h1, h2, h3, h4, h5, h6, h7, h8, h9, h10, h11⟩, rfl⟩
    exact ⟨h1, h2, h3, h4, h5, h6, h7, h8, h9, h10, h11, rfl⟩

theorem fromDict_eq_ok {m : Document.Entries} {e : CanonicalChildLandingEvidence}
    (h : fromDict rt m = .ok e) : e.Verified rt ∧ e.normalize rt = e := by
  unfold fromDict at h
  dsimp only at h
  rcases require_bind_eq_ok.mp h with ⟨-, h⟩
  rcases bind_eq_ok.mp h with ⟨projectId, hproject, h⟩
  rcases bind_eq_ok.mp h with ⟨epicId, hepic, h⟩
  rcases bind_eq_ok.mp h with ⟨childId, hchild, h⟩
  rcases bind_eq_ok.mp h with ⟨baseSha, hbase, h⟩
  rcases bind_eq_ok.mp h with ⟨sourceSha, hsource, h⟩
  rcases bind_eq_ok.mp h with ⟨targetBaseSha, htargetBase, h⟩
  rcases bind_eq_ok.mp h with ⟨targetSha, htarget, h⟩
  rcases bind_eq_ok.mp h with ⟨generation, hgeneration, h⟩
  rcases bind_eq_ok.mp h with ⟨created, hcreated, h⟩
  rcases bind_eq_ok.mp h with ⟨fingerprint, hfingerprint, h⟩
  rcases postInit_eq_ok.mp h with ⟨hverified, rfl⟩
  refine ⟨hverified, ?_⟩
  unfold normalize
  rw [clean_stripped hproject, clean_stripped hepic, clean_stripped hchild, cleanLower_normal hbase,
    cleanLower_normal hsource,
    cleanLower_normal htargetBase,
    cleanLower_normal htarget,
    clean_stripped hgeneration,
    clean_stripped hcreated,
    cleanLower_normal hfingerprint]

theorem fromDict_toDict (e : CanonicalChildLandingEvidence) :
    fromDict rt e.toDict = (e.normalize rt).postInit rt := by
  have hmissing : (required.filter fun field => (getFirst e.toDict field.2).isNull) = [] :=
    rfl
  have hproject : getFirst e.toDict ["project_id"] = .str e.projectId := rfl
  have hepic : getFirst e.toDict ["epic_id", "epic"] = .str e.epicId := rfl
  have hchild : getFirst e.toDict ["child_id", "child"] = .str e.childId := rfl
  have hbase : getFirst e.toDict ["base_sha", "base"] = .str e.baseSha := rfl
  have hsource : getFirst e.toDict ["source_sha", "source"] = .str e.sourceSha := rfl
  have htargetBase : getFirst e.toDict ["target_base_sha"] = .str e.targetBaseSha := rfl
  have htarget : getFirst e.toDict ["target_sha", "target"] = .str e.targetSha := rfl
  have hgeneration : getFirst e.toDict ["generation"] = .str e.generation := rfl
  have hcreated : getFirst e.toDict ["created_at_utc"] = .str e.createdAtUtc := rfl
  have hfingerprint : getFirst e.toDict ["evidence_fingerprint"] = .str e.evidenceFingerprint := rfl
  unfold fromDict
  rw [hmissing, hproject, hepic, hchild, hbase, hsource, htargetBase, htarget,
    hgeneration, hcreated, hfingerprint]
  simp only [cleanLower_str, clean_str]
  rfl

theorem fromDict_toDict_iff {e : CanonicalChildLandingEvidence} (h : e.Verified rt) :
    fromDict rt e.toDict = .ok e <-> e.normalize rt = e := by
  rw [fromDict_toDict]
  constructor
  · intro hread
    exact (postInit_eq_ok.mp hread).right.symm
  · intro hnormal
    rw [hnormal]
    exact postInit_eq_ok.mpr ⟨h, rfl⟩

end CanonicalChildLandingEvidence
end Accepted

/-!
# Equal fingerprints
-/

section Fingerprints

variable {rt : DocumentRuntime}

theorem occurrences_sha {sha : String} {bits : Nat}
    (hvalid : isValidGitSha rt sha bits = true) (hnormal : rt.lower (strip sha) = sha) :
    occurrences '|' sha = 0 := by
  unfold isValidGitSha at hvalid
  rw [hnormal, Bool.and_eq_true, List.all_eq_true] at hvalid
  unfold occurrences
  rw [List.count_eq_zero]
  intro hmem
  have hhex := hvalid.right '|' hmem
  revert hhex
  decide

namespace CanonicalLandingEvidence

/-- The joined fields. -/
def fields (e : CanonicalLandingEvidence) : List String :=
  [e.oldBaseSha, e.oldHeadSha, e.newBaseSha, e.newHeadSha, e.targetEpicBranch,
    e.rebaseTaskId, e.createdAtUtc]

theorem fingerprint_fields (e : CanonicalLandingEvidence) :
    computeEvidenceFingerprint rt e.oldBaseSha e.oldHeadSha e.newBaseSha e.newHeadSha
      e.targetEpicBranch e.rebaseTaskId e.createdAtUtc = rt.sha256 ("|".intercalate e.fields) := rfl

/-- The free texts are cut by the same number of separators. -/
def SameSeparators (e e' : CanonicalLandingEvidence) : Prop :=
  occurrences '|' e.targetEpicBranch = occurrences '|' e'.targetEpicBranch ∧
    occurrences '|' e.rebaseTaskId = occurrences '|' e'.rebaseTaskId

theorem eq_iff_sameSeparators (hsha : Function.Injective rt.sha256)
    {e e' : CanonicalLandingEvidence} (h : e.Verified rt) (h' : e'.Verified rt)
    (hnormal : e.normalize rt = e) (hnormal' : e'.normalize rt = e')
    (hsame : e.evidenceFingerprint = e'.evidenceFingerprint) :
    e = e' <-> e.SameSeparators e' := by
  constructor
  · rintro rfl
    exact ⟨rfl, rfl⟩
  · rintro ⟨hbranch, htask⟩
    have hjoined := hsame
    rw [h.fingerprint, h'.fingerprint, fingerprint_fields, fingerprint_fields] at hjoined
    have htext : (String.singleton '|').intercalate e.fields =
        (String.singleton '|').intercalate e'.fields := hsha hjoined
    have hoccurs : forall {x : CanonicalLandingEvidence}, x.Verified rt ->
        x.normalize rt = x -> occurrences '|' x.oldBaseSha = 0 ∧
          occurrences '|' x.oldHeadSha = 0 ∧ occurrences '|' x.newBaseSha = 0 ∧
          occurrences '|' x.newHeadSha = 0 := by
      intro x hx hxNormal
      exact ⟨occurrences_sha hx.oldBaseSha (congrArg oldBaseSha hxNormal),
        occurrences_sha hx.oldHeadSha (congrArg oldHeadSha hxNormal),
        occurrences_sha hx.newBaseSha (congrArg newBaseSha hxNormal),
        occurrences_sha hx.newHeadSha (congrArg newHeadSha hxNormal)⟩
    have hcount : e.fields.dropLast.map (occurrences '|') =
        e'.fields.dropLast.map (occurrences '|') := by
      rcases hoccurs h hnormal with ⟨h1, h2, h3, h4⟩
      rcases hoccurs h' hnormal' with ⟨h1', h2', h3', h4'⟩
      simp [fields, h1, h2, h3, h4, h1', h2', h3', h4', hbranch, htask]
    have hfields : e.fields = e'.fields := joined_inj (c := '|') rfl hcount htext
    simp only [fields, List.cons.injEq, and_true] at hfields
    rcases hfields with ⟨h1, h2, h3, h4, h5, h6, h7⟩
    cases e
    cases e'
    simp only [mk.injEq]
    exact ⟨h1, h2, h3, h4, h5, h6, h7, hsame⟩

end CanonicalLandingEvidence

namespace CanonicalChildLandingEvidence

def fields (e : CanonicalChildLandingEvidence) : List String :=
  [e.projectId, e.epicId, e.childId, e.baseSha, e.sourceSha, e.targetBaseSha,
    e.targetSha, e.generation, e.createdAtUtc]

def SameSeparators (e e' : CanonicalChildLandingEvidence) : Prop :=
  occurrences '|' e.projectId = occurrences '|' e'.projectId ∧
    occurrences '|' e.epicId = occurrences '|' e'.epicId ∧
    occurrences '|' e.childId = occurrences '|' e'.childId ∧
    occurrences '|' e.generation = occurrences '|' e'.generation

theorem fingerprint_of_normal {e : CanonicalChildLandingEvidence} (h : e.Verified rt)
    (hnormal : e.normalize rt = e) :
    e.evidenceFingerprint = rt.sha256 ((String.singleton '|').intercalate e.fields) := by
  have hfields : (e.normalize rt).evidenceFingerprint =
      rt.sha256 ((String.singleton '|').intercalate (e.normalize rt).fields) :=
    h.fingerprint
  rw [hnormal] at hfields
  exact hfields

theorem eq_iff_sameSeparators (hsha : Function.Injective rt.sha256)
    {e e' : CanonicalChildLandingEvidence} (h : e.Verified rt) (h' : e'.Verified rt)
    (hnormal : e.normalize rt = e) (hnormal' : e'.normalize rt = e')
    (hsame : e.evidenceFingerprint = e'.evidenceFingerprint) :
    e = e' <-> e.SameSeparators e' := by
  constructor
  · rintro rfl
    exact ⟨rfl, rfl, rfl, rfl⟩
  · rintro ⟨hproject, hepic, hchild, hgeneration⟩
    have hjoined := hsame
    rw [fingerprint_of_normal h hnormal, fingerprint_of_normal h' hnormal'] at hjoined
    have htext : (String.singleton '|').intercalate e.fields =
        (String.singleton '|').intercalate e'.fields := hsha hjoined
    have hoccurs : forall {x : CanonicalChildLandingEvidence}, x.Verified rt ->
        x.normalize rt = x -> occurrences '|' x.baseSha = 0 ∧
          occurrences '|' x.sourceSha = 0 ∧ occurrences '|' x.targetBaseSha = 0 ∧
          occurrences '|' x.targetSha = 0 := by
      intro x hx hxNormal
      exact ⟨occurrences_sha hx.baseSha (congrArg baseSha hxNormal),
        occurrences_sha hx.sourceSha (congrArg sourceSha hxNormal),
        occurrences_sha hx.targetBaseSha (congrArg targetBaseSha hxNormal),
        occurrences_sha hx.targetSha (congrArg targetSha hxNormal)⟩
    have hcount : e.fields.dropLast.map (occurrences '|') =
        e'.fields.dropLast.map (occurrences '|') := by
      rcases hoccurs h hnormal with ⟨h1, h2, h3, h4⟩
      rcases hoccurs h' hnormal' with ⟨h1', h2', h3', h4'⟩
      simp [fields, h1, h2, h3, h4, h1', h2', h3', h4', hproject, hepic, hchild, hgeneration]
    have hfields : e.fields = e'.fields := joined_inj (c := '|') rfl hcount htext
    simp only [fields, List.cons.injEq, and_true] at hfields
    rcases hfields with ⟨h1, h2, h3, h4, h5, h6, h7, h8, h9⟩
    cases e
    cases e'
    simp only [mk.injEq]
    exact ⟨h1, h2, h3, h4, h5, h6, h7, h8, h9, hsame⟩

end CanonicalChildLandingEvidence

/--
Fingerprints bind the fields exactly up to where the separators in them stand, and
evidence reads back exactly when its fields are written as the parser writes them.
-/
theorem evidence_bound_iff (rt : DocumentRuntime) (hsha : Function.Injective rt.sha256) :
    (forall m m' (e e' : CanonicalLandingEvidence),
      CanonicalLandingEvidence.fromDict rt m = .ok e ->
      CanonicalLandingEvidence.fromDict rt m' = .ok e' ->
      e.evidenceFingerprint = e'.evidenceFingerprint -> (e = e' <-> e.SameSeparators e')) ∧
    (forall m m' (e e' : CanonicalChildLandingEvidence),
      CanonicalChildLandingEvidence.fromDict rt m = .ok e ->
      CanonicalChildLandingEvidence.fromDict rt m' = .ok e' ->
      e.evidenceFingerprint = e'.evidenceFingerprint -> (e = e' <-> e.SameSeparators e')) ∧
    (forall e : CanonicalLandingEvidence, e.postInit rt = .ok e ->
      (CanonicalLandingEvidence.fromDict rt e.toDict = .ok e <-> e.normalize rt = e)) ∧
    (forall e : CanonicalChildLandingEvidence, e.postInit rt = .ok e ->
      (CanonicalChildLandingEvidence.fromDict rt e.toDict = .ok e <-> e.normalize rt = e)) := by
  refine ⟨?_, ?_, ?_, ?_⟩
  · intro m m' e e' h h' hsame
    rcases CanonicalLandingEvidence.fromDict_eq_ok h with ⟨hverified, hnormal⟩
    rcases CanonicalLandingEvidence.fromDict_eq_ok h' with ⟨hverified', hnormal'⟩
    exact CanonicalLandingEvidence.eq_iff_sameSeparators hsha hverified hverified' hnormal
      hnormal' hsame
  · intro m m' e e' h h' hsame
    rcases CanonicalChildLandingEvidence.fromDict_eq_ok h with ⟨hverified, hnormal⟩
    rcases CanonicalChildLandingEvidence.fromDict_eq_ok h' with ⟨hverified', hnormal'⟩
    exact CanonicalChildLandingEvidence.eq_iff_sameSeparators hsha hverified hverified'
      hnormal hnormal' hsame
  · intro e h
    exact CanonicalLandingEvidence.fromDict_toDict_iff
      (CanonicalLandingEvidence.postInit_eq_ok.mp h).left
  · intro e h
    exact CanonicalChildLandingEvidence.fromDict_toDict_iff
      (CanonicalChildLandingEvidence.postInit_eq_ok.mp h).left

end Fingerprints

/-!
# Two texts that join alike
-/

def repeated (digits : Nat) (c : Char) : String :=
  String.ofList (List.replicate digits c)

theorem hexText_repeated (digits : Nat) {c : Char}
    (h : c ∈ "0123456789abcdef".toList) : hexText (repeated digits c) = true := by
  unfold hexText repeated
  rw [String.toList_ofList, List.all_eq_true]
  intro d hd
  rw [List.eq_of_mem_replicate hd]
  exact decide_eq_true h

theorem length_repeated (digits : Nat) (c : Char) : (repeated digits c).length = digits := by
  simp [repeated]

/-- The SHA-256 of the joined fields of the sample. -/
def joinedDigest : String := "b88b12d04e05f1be007f2839e81cf97a2ac008e2c0b4f43d805b717343582952"

theorem joinedDigest_hex : hexText joinedDigest = true := by
  decide +kernel

/-- Evidence for an epic branch, authorised by a task. -/
def evidenceFor (branch task : String) : CanonicalLandingEvidence :=
  { oldBaseSha := repeated 40 'a'
    oldHeadSha := repeated 40 'b'
    newBaseSha := repeated 40 'c'
    newHeadSha := repeated 40 'd'
    targetEpicBranch := branch
    rebaseTaskId := task
    createdAtUtc := "2026-01-01T00:00:00Z"
    evidenceFingerprint := joinedDigest }

def branchEvidence : CanonicalLandingEvidence := evidenceFor "epic|fix" "T-1"

/-- Evidence for another branch and task, whose fields join to the same text. -/
def movedEvidence : CanonicalLandingEvidence := evidenceFor "epic" "fix|T-1"

/-- A digest without collisions that is SHA-256 on the joined fields of the sample. -/
def sampleDigest (text : String) : String :=
  if text = "|".intercalate branchEvidence.fields then branchEvidence.evidenceFingerprint
  else "#" ++ text

example : Runtime.ascii.sha256 ("|".intercalate branchEvidence.fields) = joinedDigest := by
  decide +kernel

theorem sampleDigest_injective : Function.Injective sampleDigest := by
  have hmark : forall text, branchEvidence.evidenceFingerprint ≠ "#" ++ text := by
    intro text h
    have hhead := congrArg (fun s => s.toList.head?) h
    simp [branchEvidence, evidenceFor, joinedDigest] at hhead
  intro text text' h
  unfold sampleDigest at h
  split at h
  · rename_i hsample
    split at h
    · rename_i hsample'
      rw [hsample, hsample']
    · exact absurd h (hmark text')
  · split at h
    · exact absurd h.symm (hmark text)
    · exact (String.append_right_inj "#").mp h

def sampleRuntime : DocumentRuntime := .ascii sampleDigest

theorem sampleDigest_joined {text : String} (h : text = "|".intercalate branchEvidence.fields) :
    sampleRuntime.sha256 text = branchEvidence.evidenceFingerprint :=
  if_pos h

theorem repeated_valid {c : Char} (h : c ∈ "0123456789abcdef".toList) (bits : Nat) :
    isValidGitSha sampleRuntime (repeated (bits / 4) c) bits = true :=
  (hexText_normal sampleRuntime (hexText_repeated (bits / 4) h)).right
    (length_repeated (bits / 4) c)

theorem repeated_normal {c : Char} (h : c ∈ "0123456789abcdef".toList) (digits : Nat) :
    sampleRuntime.lower (strip (repeated digits c)) = repeated digits c :=
  (hexText_normal sampleRuntime (hexText_repeated digits h)).left

theorem evidenceFor_verified {branch task : String} (hbranch : strip branch ≠ "")
    (htask : strip task ≠ "")
    (hjoined : "|".intercalate (evidenceFor branch task).fields =
      "|".intercalate branchEvidence.fields) :
    (evidenceFor branch task).Verified sampleRuntime := by
  have hcreated : strip "2026-01-01T00:00:00Z" ≠ "" := strip_ne_of_any rfl
  constructor
  · exact repeated_valid (by decide) 160
  · exact repeated_valid (by decide) 160
  · exact repeated_valid (by decide) 160
  · exact repeated_valid (by decide) 160
  · exact hbranch
  · exact htask
  · exact hcreated
  · exact (hexText_normal sampleRuntime joinedDigest_hex).right rfl
  · rw [CanonicalLandingEvidence.fingerprint_fields, sampleDigest_joined hjoined]
    rfl

theorem evidenceFor_normal {branch task : String} (hbranch : strip branch = branch)
    (htask : strip task = task) :
    (evidenceFor branch task).normalize sampleRuntime = evidenceFor branch task := by
  have hcreated : strip "2026-01-01T00:00:00Z" = "2026-01-01T00:00:00Z" := by decide +kernel
  unfold CanonicalLandingEvidence.normalize evidenceFor
  dsimp only
  rw [repeated_normal (by decide), repeated_normal (by decide),
    repeated_normal (by decide), repeated_normal (by decide),
    (hexText_normal sampleRuntime joinedDigest_hex).left, hbranch, htask, hcreated]

theorem branchEvidence_verified : branchEvidence.Verified sampleRuntime :=
  evidenceFor_verified (strip_ne_of_any rfl) (strip_ne_of_any rfl) rfl

theorem branchEvidence_normal : branchEvidence.normalize sampleRuntime = branchEvidence :=
  evidenceFor_normal rfl rfl

theorem branchEvidence_parses :
    CanonicalLandingEvidence.fromDict sampleRuntime branchEvidence.toDict = .ok branchEvidence :=
  (CanonicalLandingEvidence.fromDict_toDict_iff branchEvidence_verified).mpr branchEvidence_normal

theorem movedEvidence_parses :
    CanonicalLandingEvidence.fromDict sampleRuntime movedEvidence.toDict = .ok movedEvidence := by
  have hjoined : "|".intercalate movedEvidence.fields =
      "|".intercalate branchEvidence.fields := by decide +kernel
  exact (CanonicalLandingEvidence.fromDict_toDict_iff
    (evidenceFor_verified (strip_ne_of_any rfl) (strip_ne_of_any rfl) hjoined)).mpr
      (evidenceFor_normal rfl rfl)

/-- One fingerprint stands for two epic branches. -/
theorem movedEvidence_keepsFingerprint : Function.Injective sampleRuntime.sha256 ∧
      CanonicalLandingEvidence.fromDict sampleRuntime branchEvidence.toDict = .ok branchEvidence ∧
      CanonicalLandingEvidence.fromDict sampleRuntime movedEvidence.toDict = .ok movedEvidence ∧
      branchEvidence.evidenceFingerprint = movedEvidence.evidenceFingerprint ∧
      branchEvidence.targetEpicBranch ≠ movedEvidence.targetEpicBranch := by
  refine ⟨sampleDigest_injective, branchEvidence_parses, movedEvidence_parses, rfl, ?_⟩
  decide

theorem evidence_bound_sample : ¬ branchEvidence.SameSeparators movedEvidence ∧
      CanonicalLandingEvidence.fromDict sampleRuntime branchEvidence.toDict =
        .ok branchEvidence := by
  rcases evidence_bound_iff sampleRuntime sampleDigest_injective with
    ⟨hpair, -, hread, -⟩
  constructor
  · intro hseparators
    have hsame := (hpair _ _ _ _ branchEvidence_parses movedEvidence_parses rfl).mpr hseparators
    have hbranch := congrArg CanonicalLandingEvidence.targetEpicBranch hsame
    revert hbranch
    decide
  · have haccepted : branchEvidence.postInit sampleRuntime = .ok branchEvidence :=
      CanonicalLandingEvidence.postInit_eq_ok.mpr ⟨branchEvidence_verified, rfl⟩
    exact (hread branchEvidence haccepted).mpr branchEvidence_normal

end Records
end Oompah
