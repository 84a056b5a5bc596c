import Mathlib.Data.List.ReduceOption
import Oompah.TaskEvaluation.Decision

/-!
# Reading tasks and evidence

What the evaluators read of a task, the wait for evidence that is not there, the
prerequisites that dependencies name, and the leases and jobs that show live work.
-/

namespace Oompah
namespace TaskEvaluation

open Foundation
open TaskTransitions (Status)

/-- A tracker issue, whose fields are attributes, or a mapping. -/
inductive Task where
  | issue (identifier : String) (attributes : Mapping)
  | mapping (entries : Mapping)

namespace Task

/-- `task.get(name)`, or `getattr(task, name, None)`. -/
def field (task : Task) (name : String) : Value :=
  match task with
  | issue identifier attributes =>
    if name = "identifier" then .str identifier else attributes.get name
  | mapping entries => entries.get name

end Task

section Evidence

variable (rt : Runtime)

/-- `_task_view`. -/
def taskView : Task -> Except PyError TaskView
  | .issue identifier attributes =>
    .ok {
      projectId := rt.str ((attributes.get "project_id").orElse (.str ""))
      taskId := identifier
      status := canonicalizeStatus rt (attributes.get "state")
      parentId := rt.optionalText (attributes.get "parent_id")
      issueType := rt.str ((attributes.get "issue_type").orElse (.str "task"))
      targetBranch := rt.optionalText (attributes.get "target_branch") }
  | .mapping entries => do
      let taskId <- rt.requiredText (entries.getD "identifier" (entries.get "task_id")) "task_id"
      .ok {
        projectId := rt.str ((entries.get "project_id").orElse (.str ""))
        taskId := taskId
        status := canonicalizeStatus rt (entries.getD "status" (entries.get "state"))
        parentId := rt.optionalText (entries.get "parent_id")
        issueType := rt.str ((entries.get "issue_type").orElse (.str "task"))
        targetBranch := rt.optionalText (entries.get "target_branch") }

/-- `_terminal_landing_identity`. -/
def terminalLandingIdentity (task : Task) : Option (String × String × String) :=
  let integration := (task.field "integration").mapping?.getD []
  let source := rt.clean ((integration.get "task_branch").orElse (task.field "work_branch"))
  let target := rt.clean ((integration.get "base_branch").orElse (task.field "target_branch"))
  let revision := rt.cleanLower
    (((integration.get "integrated_sha").orElse (integration.get "head_sha")).orElse
      (task.field "head_sha"))
  if source ≠ "" ∧ target ≠ "" ∧ revision ≠ "" then some (source, target, revision) else none

/-- `_fact_wait`. -/
def factWait (facts : WorkflowFacts) (domain : FactDomain) (owner : WorkflowOwner)
    (action : PermittedAction) (job : DurableJob) : Except PyError Answer :=
  let observation := facts.fact domain
  answer {
      disposition := .retryScheduled
      reasonCode :=
        if domain = .reviewCi ∧ observation.state = .error then .reviewProviderUnavailable
        else .evidence domain observation.state
      owner := some owner
      actions := [action]
      alert := .info
      durableJobs := [job] }
    [unmet ("evidence." ++ observation.state.text) domain.text observation.errorCode]

/-!
# Dependencies
-/

/-- One entry of a dependency list: nothing when its task is satisfied. -/
def unresolvedItem (kind : String) (item : Value) : Except PyError (Option UnmetPrerequisite) :=
  match item.mapping? with
  | none => do
      let malformed <- unmet "dependencies.malformed" kind none
      .ok (some malformed)
  | some entry =>
    let identifier := rt.str
      (((entry.get "identifier").orElse (entry.get "id")).orElse (.str "unknown"))
    let status := canonicalizeStatus rt (entry.get "status")
    if status.satisfied then .ok none
    else do
      let incomplete <-
        unmet ("dependencies." ++ kind ++ "_incomplete") identifier (some status.text)
      .ok (some incomplete)

/-- The inner function `unresolved` of `_prerequisites`. -/
def unresolved (value : Mapping) (kind : String) : Except PyError (List UnmetPrerequisite) :=
  match (value.getD kind (.tuple [])).sequence? with
  | none => do
      let malformed <- unmet "dependencies.malformed" kind none
      .ok [malformed]
  | some items => do
      let found <- items.mapM (unresolvedItem rt kind)
      .ok found.reduceOption

/-- `_prerequisites`: what is unmet before a task may finish, and before it may start. -/
def prerequisites (facts : WorkflowFacts) :
    Except PyError (List UnmetPrerequisite × List UnmetPrerequisite) :=
  let observation := facts.fact .dependencies
  if observation.state ≠ .known then do
    let unknown <- unmet ("dependencies." ++ observation.state.text) FactDomain.dependencies.text
      observation.errorCode
    .ok ([unknown], [unknown])
  else
    match observation.value.mapping? with
    | none => do
        let malformed <- unmet "dependencies.malformed" "dependencies" none
        .ok ([malformed], [malformed])
    | some value => do
        let finish <- unresolved rt value "finish"
        let hardStart <- unresolved rt value "hard_start"
        .ok (finish, hardStart)

/-!
# Live work
-/

/-- `_valid_lease`: a value that is no time is no lease, but a time that overflows raises. -/
def validLease (value : Mapping) (now : Instant) : Except PyError Bool :=
  let expiry := value.get "lease_expires_at"
  if expiry.truthy then
    match rt.parseTime expiry "lease_expires_at" with
    | .ok expires => .ok (now < expires)
    | .error (.valueError _) => .ok false
    | .error e => .error e
  else .ok false

/-- `_valid_active_job`. -/
def validActiveJob (value : Mapping) : Bool :=
  (value.get "actively_working").isTrue &&
    rt.clean (((value.get "active_job_id").orElse (value.get "job_id")).orElse
      (value.get "audit_id")) != ""

/-- `_valid_active_job(value) or _valid_lease(value, now)`. -/
def liveWork (value : Mapping) (now : Instant) : Except PyError Bool :=
  if validActiveJob rt value then .ok true else validLease rt value now

end Evidence

section Reading

variable {rt : Runtime}

theorem optionalText_named {v : Value} {text : String} (h : rt.optionalText v = some text) :
    Named text := by
  unfold Runtime.optionalText at h
  split at h
  · cases h
  · split at h
    · cases h
    · rename_i hblank
      cases h
      exact ⟨strip_strip _, hblank⟩

theorem requiredText_named {v : Value} {name text : String}
    (h : rt.requiredText v name = .ok text) : Named text := by
  unfold Runtime.requiredText at h
  split at h
  · cases h
  · rename_i hblank
    cases h
    exact ⟨Runtime.strip_clean v, hblank⟩

variable {task : Task} {view : TaskView}

theorem taskView_eq_ok (h : taskView rt task = .ok view) :
    (exists v, view.status = canonicalizeStatus rt v) ∧
      (forall parentId, view.parentId = some parentId -> Named parentId) ∧
      forall target, view.targetBranch = some target -> Named target := by
  cases task with
  | issue identifier attributes =>
    cases h
    exact ⟨⟨_, rfl⟩, fun _ => optionalText_named, fun _ => optionalText_named⟩
  | mapping entries =>
    rcases bind_eq_ok.mp h with ⟨taskId, _, heq⟩
    cases heq
    exact ⟨⟨_, rfl⟩, fun _ => optionalText_named, fun _ => optionalText_named⟩

theorem taskView_status (h : taskView rt task = .ok view) :
    canonicalizeStatus rt (.str view.status.text) = view.status := by
  rcases (taskView_eq_ok h).left with ⟨v, hv⟩
  rw [hv]
  exact canonicalizeStatus_idem v

theorem taskView_custom_named {text : String}
    (h : taskView rt task = .ok view) (hcustom : view.status = .custom text) :
    strip text ≠ "" := by
  rcases (taskView_eq_ok h).left with ⟨v, hv⟩
  exact custom_named (hv.symm.trans hcustom)

theorem mapping_taskId_named {entries : Mapping}
    (h : taskView rt (.mapping entries) = .ok view) : Named view.taskId := by
  rcases bind_eq_ok.mp h with ⟨taskId, htaskId, heq⟩
  cases heq
  exact requiredText_named htaskId

theorem state_text_named (state : FactState) : strip state.text ≠ "" := by
  cases state <;> exact strip_ne_of_any rfl

theorem domain_text_named (domain : FactDomain) : strip domain.text ≠ "" := by
  cases domain <;> exact strip_ne_of_any rfl

variable {facts : WorkflowFacts} {owner : WorkflowOwner} {action : PermittedAction}

@[simp] theorem returns_factWait {domain : FactDomain} {job : DurableJob} :
    Returns (factWait facts domain owner action job) := by
  unfold factWait
  rw [returns_answer_single, returns_unmet]
  exact ⟨strip_append_right "evidence." (state_text_named _), domain_text_named domain⟩

theorem shows_factWait {Q : Terms -> Bool -> Bool} {domain : FactDomain} {job : DurableJob}
    (h : forall reason : ReasonCode, Q {
      disposition := .retryScheduled
      reasonCode := reason
      owner := some owner
      actions := [action]
      alert := .info
      durableJobs := [job] } true = true) :
    Shows Q (factWait facts domain owner action job) :=
  shows_answer (h _)

end Reading

/-!
# Dependencies that are not met
-/

section Dependencies

variable {rt : Runtime}

/-- The entry is no mapping, or its task is neither done, merged nor archived. -/
def itemUnmet (rt : Runtime) (item : Value) : Bool :=
  match item.mapping? with
  | none => true
  | some entry => !(canonicalizeStatus rt (entry.get "status")).satisfied

/-- The identifier that an entry which is not met names is blank. -/
def itemBlank (rt : Runtime) (item : Value) : Bool :=
  match item.mapping? with
  | none => false
  | some entry =>
    !(canonicalizeStatus rt (entry.get "status")).satisfied &&
      strip (rt.str (((entry.get "identifier").orElse (entry.get "id")).orElse
        (.str "unknown"))) == ""

variable {kind : String}

theorem unresolvedItem_eq_none {item : Value}
    (h : unresolvedItem rt kind item = .ok none) : itemUnmet rt item = false := by
  unfold unresolvedItem at h
  unfold itemUnmet
  cases hentry : item.mapping? with
  | none =>
    rw [hentry] at h
    rcases bind_eq_ok.mp h with ⟨p, _, heq⟩
    cases heq
  | some entry =>
    rw [hentry] at h
    by_cases hsatisfied : (canonicalizeStatus rt (entry.get "status")).satisfied = true
    · simp [hsatisfied]
    · simp only [hsatisfied, Bool.false_eq_true, if_false] at h
      rcases bind_eq_ok.mp h with ⟨p, _, heq⟩
      cases heq

theorem any_itemUnmet_of_mapM {items : List Value} {found : List (Option UnmetPrerequisite)}
    (h : items.mapM (unresolvedItem rt kind) = .ok found) (hnil : found.reduceOption = []) :
    items.any (itemUnmet rt) = false := by
  induction items generalizing found with
  | nil => rfl
  | cons item items ih =>
    rw [List.mapM_cons] at h
    rcases bind_eq_ok.mp h with ⟨first, hfirst, hrest⟩
    rcases bind_eq_ok.mp hrest with ⟨others, hothers, heq⟩
    cases heq
    cases first with
    | some p =>
      cases hnil
    | none =>
      rw [List.any_cons, unresolvedItem_eq_none hfirst, ih hothers hnil]
      rfl

theorem unresolved_eq_nil {value : Mapping} (h : unresolved rt value kind = .ok []) :
    exists items, (value.getD kind (.tuple [])).sequence? = some items ∧
      items.any (itemUnmet rt) = false := by
  unfold unresolved at h
  cases hitems : (value.getD kind (.tuple [])).sequence? with
  | none =>
    rw [hitems] at h
    rcases bind_eq_ok.mp h with ⟨p, _, heq⟩
    cases heq
  | some items =>
    rw [hitems] at h
    rcases bind_eq_ok.mp h with ⟨found, hfound, heq⟩
    injection heq with hnil
    exact ⟨items, rfl, any_itemUnmet_of_mapM hfound hnil⟩

theorem returns_unresolvedItem {item : Value} (hkind : strip kind ≠ "") :
    Returns (unresolvedItem rt kind item) ↔ itemBlank rt item = false := by
  unfold unresolvedItem itemBlank
  have hmalformed : strip "dependencies.malformed" ≠ "" := strip_ne_of_any rfl
  cases item.mapping? with
  | none =>
    simp only [iff_true]
    rw [returns_bind_of_total (fun _ _ => returns_ok), returns_unmet]
    exact ⟨hmalformed, hkind⟩
  | some entry =>
    by_cases hsatisfied : (canonicalizeStatus rt (entry.get "status")).satisfied = true
    · simp [hsatisfied]
    · simp only [hsatisfied, Bool.false_eq_true, if_false, Bool.not_false, Bool.true_and,
        beq_eq_false_iff_ne]
      rw [returns_bind_of_total (fun _ _ => returns_ok), returns_unmet]
      have hcode : strip ("dependencies." ++ kind ++ "_incomplete") ≠ "" :=
        strip_append_left (strip_append_right _ hkind) _
      exact and_iff_right hcode

theorem returns_unresolved {value : Mapping} (hkind : strip kind ≠ "") :
    Returns (unresolved rt value kind) ↔
      ((value.getD kind (.tuple [])).sequence?.getD []).any (itemBlank rt) = false := by
  unfold unresolved
  have hmalformed : strip "dependencies.malformed" ≠ "" := strip_ne_of_any rfl
  cases (value.getD kind (.tuple [])).sequence? with
  | none =>
    simp only [Option.getD_none, List.any_nil, iff_true]
    rw [returns_bind_of_total (fun _ _ => returns_ok), returns_unmet]
    exact ⟨hmalformed, hkind⟩
  | some items =>
    simp only [Option.getD_some, List.any_eq_false, Bool.not_eq_true]
    rw [returns_bind_of_total (fun _ _ => returns_ok), returns_mapM]
    simp only [returns_unresolvedItem hkind]

/-- An entry of the dependencies that is not met names a blank identifier. -/
def dependenciesBlank (rt : Runtime) (facts : WorkflowFacts) : Bool :=
  match (facts.fact .dependencies).knownMapping with
  | none => false
  | some value =>
    ["finish", "hard_start"].any fun kind =>
      ((value.getD kind (.tuple [])).sequence?.getD []).any (itemBlank rt)

theorem returns_prerequisites {facts : WorkflowFacts} :
    Returns (prerequisites rt facts) ↔ dependenciesBlank rt facts = false := by
  unfold prerequisites dependenciesBlank FactObservation.knownMapping
  by_cases hstate : (facts.fact .dependencies).state = .known
  · rw [if_neg (not_not.mpr hstate), if_pos hstate]
    cases (facts.fact .dependencies).value.mapping? with
    | none =>
      simp only [iff_true]
      rw [returns_bind_of_total (fun _ _ => returns_ok), returns_unmet]
      exact ⟨strip_ne_of_any rfl, strip_ne_of_any rfl⟩
    | some value =>
      have hfinish : strip "finish" ≠ "" := strip_ne_of_any rfl
      have hstart : strip "hard_start" ≠ "" := strip_ne_of_any rfl
      simp only [List.any_cons, List.any_nil, Bool.or_false, Bool.or_eq_false_iff]
      rw [← returns_unresolved hfinish, ← returns_unresolved hstart, returns_bind]
      constructor
      · rintro ⟨finish, hfinish, hrest⟩
        rw [returns_bind_of_total (fun _ _ => returns_ok)] at hrest
        exact ⟨⟨finish, hfinish⟩, hrest⟩
      · rintro ⟨⟨finish, hfinish⟩, hrest⟩
        exact ⟨finish, hfinish, (returns_bind_of_total (fun _ _ => returns_ok)).mpr hrest⟩
  · rw [if_pos hstate, if_neg hstate]
    simp only [iff_true]
    rw [returns_bind_of_total (fun _ _ => returns_ok), returns_unmet]
    exact ⟨strip_append_right "dependencies." (state_text_named _), domain_text_named _⟩

end Dependencies

/-!
# Leases that overflow
-/

section Leases

variable {rt : Runtime}

/-- The expiry of a lease is a time that no year from 1 to 9999 has in UTC. -/
def leaseOverflows (rt : Runtime) (value : Mapping) : Bool :=
  let expiry := value.get "lease_expires_at"
  expiry.truthy && rt.clean expiry != "" &&
    match rt.isoTime (Runtime.utcSuffix (rt.clean expiry)) with
    | .aware t => !decide (Representable t)
    | _ => false

theorem returns_validLease {value : Mapping} {now : Instant} :
    Returns (validLease rt value now) ↔ leaseOverflows rt value = false := by
  unfold validLease leaseOverflows
  cases htruthy : (value.get "lease_expires_at").truthy with
  | false => simp [htruthy]
  | true =>
    unfold Runtime.parseTime Runtime.requiredText
    by_cases hblank : rt.clean (value.get "lease_expires_at") = ""
    · simp [htruthy, hblank, bind, Except.bind]
    · cases hiso : rt.isoTime (Runtime.utcSuffix (rt.clean (value.get "lease_expires_at"))) with
      | malformed => simp [htruthy, hblank, hiso, bind, Except.bind]
      | naive => simp [htruthy, hblank, hiso, bind, Except.bind]
      | aware t =>
        by_cases hrepresentable : Representable t
        · simp [htruthy, hblank, hiso, hrepresentable, bind, Except.bind]
        · simp [htruthy, hblank, hiso, hrepresentable, bind, Except.bind]

theorem returns_liveWork {value : Mapping} {now : Instant} : Returns (liveWork rt value now) ↔
      (validActiveJob rt value || !leaseOverflows rt value) = true := by
  unfold liveWork
  by_cases hactive : validActiveJob rt value = true
  · simp [hactive]
  · rw [if_neg hactive, returns_validLease]
    simp [hactive]

end Leases

/-- `text.startswith(start)`. -/
def startsWith (start text : String) : Bool :=
  start.toList.isPrefixOf text.toList

end TaskEvaluation
end Oompah
