import Oompah.TaskEvaluation.Evidence

/-!
# Direct epic maintenance

A helper that rebases the branch of an epic publishes that branch itself.  Which task is
such a helper is told by three records of its creation, or by its title when it has none
of them, and the evidence of its publication is bound to the branch of the epic.
-/

namespace Oompah
namespace TaskEvaluation

open Foundation

/-- `re.fullmatch("[0-9a-f]{length}", text)`. -/
def isHex (length : Nat) (text : String) : Bool :=
  text.toList.length = length && text.toList.all fun c =>
    ('0' ≤ c && c ≤ '9') || ('a' ≤ c && c ≤ 'f')

/-- A full object id. -/
def isExactSha (text : String) : Bool :=
  isHex 40 text || isHex 64 text

/-- The characters that stay in the name of a branch. -/
def isBranchChar (c : Char) : Bool :=
  c.isAlphanum || c = '.' || c = '_' || c = '-'

/-- Every run of other characters becomes one `_`. -/
def collapseRuns (inRun : Bool) : List Char -> List Char
  | [] => []
  | c :: s =>
    if isBranchChar c then c :: collapseRuns false s
    else if inRun then collapseRuns true s
    else '_' :: collapseRuns true s

/-- The branch of an epic by convention. -/
def conventionalEpicBranch (parent : String) : String :=
  "epic-" ++ String.ofList
    (Text.strip (fun c => c = '.' || c = '_' || c = '-') (collapseRuns false parent.toList))

section Maintenance

variable (rt : Runtime)

/-- The inner function `exact_version`. -/
def exactVersion (value : Mapping) : Bool :=
  (value.get "version").int? = some 1

def creationMarker (projectId parent generation : String) : String :=
  "oompah-epic-rebase-reservation-v1:" ++
    rt.sha256 (projectId ++ "\x00" ++ parent ++ "\x00" ++ generation)

/-- What the records of a helper have to agree on, up to the resolution of its target. -/
def helperRecordsAgree (task : Task) (creation target authority : Mapping) : Bool :=
  let parent := rt.clean (task.field "parent_id")
  let identifier := rt.clean ((task.field "identifier").orElse (task.field "id"))
  let observedProjectId := rt.clean (task.field "project_id")
  let creationProjectId := rt.clean (creation.get "project_id")
  let projectId := if observedProjectId = "" then creationProjectId else observedProjectId
  let epicBranch := rt.clean (target.get "epic_branch")
  let targetBranch := rt.clean (target.get "target_branch")
  let generation := rt.cleanLower (authority.get "generation")
  let epicHead := rt.cleanLower (authority.get "epic_head")
  let targetHead := rt.cleanLower (authority.get "target_head")
  let marker := rt.clean (creation.get "creation_marker")
  parent != "" && identifier != "" && projectId != "" && creationProjectId == projectId &&
    (observedProjectId == "" || observedProjectId == creationProjectId) &&
    exactVersion creation && exactVersion target && exactVersion authority &&
    (creation.get "operation_kind").equalsText "epic_rebase_helper" &&
    isHex 64 generation && marker == creationMarker rt projectId parent generation &&
    (authority.get "task_id").equalsText identifier &&
    (target.get "epic_identifier").equalsText parent &&
    (authority.get "epic_identifier").equalsText parent &&
    epicBranch != "" && (authority.get "epic_branch").equalsText epicBranch &&
    targetBranch != "" && (authority.get "target_branch").equalsText targetBranch &&
    isExactSha epicHead && isExactSha targetHead

/-- The three records a helper carries, when it carries any. -/
def helperRecords (task : Task) : Option (Option (Mapping × Mapping × Mapping)) :=
  let creation := task.field "create_once"
  let target := task.field "epic_rebase_target"
  let authority := task.field "epic_rebase_authority"
  if creation.isNull && target.isNull && authority.isNull then none
  else
    some (match creation.mapping?, target.mapping?, authority.mapping? with
      | some creation, some target, some authority => some (creation, target, authority)
      | _, _, _ => none)

/-- A helper without records is told by its title. -/
def titledHelper (task : Task) : Bool :=
  let parent := rt.clean (task.field "parent_id")
  let title := rt.cleanLower (task.field "title")
  parent != "" && "rebase ".toList.isPrefixOf title.toList &&
    decide ((rt.lower (conventionalEpicBranch parent)).toList <:+: title.toList)

/-- `is_direct_epic_maintenance_issue`.  The resolution of the target is looked up in a
set, which raises for a value that has no hash. -/
def isDirectEpicMaintenanceIssue (task : Task) : Except PyError Bool :=
  match helperRecords task with
  | none => .ok (titledHelper rt task)
  | some none => .ok false
  | some (some (creation, target, authority)) =>
    if !helperRecordsAgree rt task creation target authority then .ok false
    else
      let resolution := target.get "resolution"
      if !resolution.hashable then .error (.typeError "unhashable type")
      else if !(resolution.equalsText "authoritative_parent" ||
          resolution.equalsText "confirmed_top_level") then .ok false
      else
        let epicBranch := rt.clean (target.get "epic_branch")
        let targetBranch := rt.clean (target.get "target_branch")
        let workBranch := rt.clean (task.field "work_branch")
        let configuredTarget := rt.clean (task.field "target_branch")
        .ok ((workBranch == "" || workBranch == epicBranch) &&
          (configuredTarget == "" || configuredTarget == targetBranch))

/-- The branch of the epic a helper publishes. -/
def epicBranchOf (task : Task) : String :=
  match (task.field "epic_rebase_target").mapping? with
  | some target => rt.clean (target.get "epic_branch")
  | none => conventionalEpicBranch (rt.clean (task.field "parent_id"))

/-- The part of `direct_epic_maintenance_handoff_ready` that reads the record. -/
def handoffEvidence (task : Task) (record : Mapping) : Bool :=
  let taskBranch := rt.clean (record.get "task_branch")
  let baseBranch := rt.clean (record.get "base_branch")
  let head := rt.cleanLower (record.get "head_sha")
  let integrated := rt.cleanLower (record.get "integrated_sha")
  let expectations : List (String × String) :=
    [("work_branch", taskBranch), ("head_sha", head)] ++
      match (task.field "epic_rebase_target").mapping? with
      | some target => [("target_branch", rt.clean (target.get "target_branch"))]
      | none => []
  rt.cleanLower (record.get "state") == "integrated" &&
    rt.cleanLower (record.get "mode") == "queue" &&
    (record.get "maintenance_publication_proven").isTrue &&
    taskBranch == epicBranchOf rt task && baseBranch == epicBranchOf rt task &&
    head == integrated && isExactSha head &&
    expectations.all fun (name, expected) =>
      let observed := rt.clean (task.field name)
      observed == "" || rt.lower observed == rt.lower expected

/-- `direct_epic_maintenance_handoff_ready`. -/
def directEpicMaintenanceHandoffReady (task : Task) (record : Mapping) : Except PyError Bool := do
  let helper <- isDirectEpicMaintenanceIssue rt task
  .ok (helper && handoffEvidence rt task record)

/-- The part of `direct_epic_maintenance_completion_ready` that reads the record. -/
def completionEvidence (task : Task) (record : Mapping) : Bool :=
  let epicBranch := epicBranchOf rt task
  let targetBranch :=
    match (task.field "epic_rebase_target").mapping? with
    | some target => rt.clean (target.get "target_branch")
    | none => rt.clean (task.field "target_branch")
  let taskBranch := rt.clean (record.get "task_branch")
  let baseBranch := rt.clean (record.get "base_branch")
  let head := rt.cleanLower (record.get "head_sha")
  let integrated := rt.cleanLower (record.get "integrated_sha")
  rt.cleanLower (record.get "state") == "ready" && rt.cleanLower (record.get "mode") == "queue" &&
    !(record.get "maintenance_publication_proven").isTrue &&
    epicBranch != "" && targetBranch != "" && taskBranch == epicBranch &&
    baseBranch == targetBranch && isExactSha head && integrated == ""

/-- `direct_epic_maintenance_completion_ready`. -/
def directEpicMaintenanceCompletionReady (task : Task) (record : Mapping) :
    Except PyError Bool := do
  let helper <- isDirectEpicMaintenanceIssue rt task
  .ok (helper && completionEvidence rt task record)

/-- The resolution of a helper's target has no hash. -/
def resolutionUnhashable (task : Task) : Bool :=
  match helperRecords task with
  | some (some (creation, target, authority)) =>
    helperRecordsAgree rt task creation target authority && !(target.get "resolution").hashable
  | _ => false

theorem returns_isDirectEpicMaintenanceIssue {task : Task} :
    Returns (isDirectEpicMaintenanceIssue rt task) ↔ resolutionUnhashable rt task = false := by
  unfold isDirectEpicMaintenanceIssue resolutionUnhashable
  rcases helperRecords task with _ | _ | ⟨creation, target, authority⟩
  · simp
  · simp
  · cases hagree : helperRecordsAgree rt task creation target authority with
    | false => simp [hagree]
    | true =>
      cases hhash : (target.get "resolution").hashable with
      | false => simp [hagree, hhash]
      | true =>
        simp only [hagree, hhash, Bool.not_true, Bool.false_eq_true, if_false, Bool.and_false,
          iff_true]
        split
        · exact returns_ok
        · exact returns_ok

end Maintenance
end TaskEvaluation
end Oompah
