import Oompah.Foundation.Execution
import Oompah.Foundation.TransitionSystem
import Oompah.NativeTasks.Files
import Oompah.TrackerComments.Comments

/-!
# Creating a native task once

`create_issue_once` looks for the task that carries its durable key and creates one
when there is none: the file of the task, then the children list of its parent, then the
publication.  A call can end at each of its steps and be made again.
-/

namespace Oompah
namespace NativeTasks

open Foundation
open Foundation.Program (execute_bind_ok execute_perform propagates_perform
  stopped_perform_bind)
open TaskEvaluation (canonicalizeStatus)

/-!
# Requests
-/

inductive TrackerError where
  | tracker (message : String)
  | createOnceConflict (message : String)
  deriving DecidableEq

inductive TrackerRequest where
  | prepareDefaultBranchForWrite
  | readRecords
  | taskStems
  | writeMarkdown (path : TaskPath) (front : TaskMeta) (body : String)
  | readRecordUncached (identifier : String)
  | commitAndPush (subject : String)

abbrev TrackerRequest.Answer : TrackerRequest -> Type
  | .prepareDefaultBranchForWrite => Unit
  | .readRecords => List TaskRecord
  | .taskStems => List String
  | .writeMarkdown _ _ _ => Unit
  | .readRecordUncached _ => Option TaskRecord
  | .commitAndPush _ => Unit

abbrev Tracker (α : Type) : Type :=
  Program TrackerRequest TrackerRequest.Answer TrackerError α

namespace Tracker

def prepareDefaultBranchForWrite : Tracker Unit :=
  Program.perform TrackerRequest.prepareDefaultBranchForWrite

def readRecords : Tracker (List TaskRecord) :=
  Program.perform TrackerRequest.readRecords

def taskStems : Tracker (List String) :=
  Program.perform TrackerRequest.taskStems

def writeMarkdown (path : TaskPath) (front : TaskMeta) (body : String) : Tracker Unit :=
  Program.perform (TrackerRequest.writeMarkdown path front body)

def readRecordUncached (identifier : String) : Tracker (Option TaskRecord) :=
  Program.perform (TrackerRequest.readRecordUncached identifier)

def commitAndPush (subject : String) : Tracker Unit :=
  Program.perform (TrackerRequest.commitAndPush subject)

end Tracker

structure CreateRequest where
  title : String
  issueType : String := "task"
  description : Option String := none
  priority : Option Int := none
  initialStatus : Option String := none
  labels : List String := []
  parent : Option String := none
  projectId : String
  operationKind : String
  creationMarker : String

/-- The payload whose fingerprint the key binds. -/
structure RequestPayload where
  title : String
  issueType : String
  description : String
  priority : Option Int
  initialStatus : String
  labels : List String
  parent : Option String
  deriving DecidableEq

structure Creation where
  payload : RequestPayload
  key : CreationKey
  deriving DecidableEq

def issueTypes : List String := ["bug", "feature", "task", "epic", "chore"]

section Normalization

variable (rt : Runtime) (fingerprint : RequestPayload -> String)

/-- The arguments of a call, cleaned; `fingerprint` hashes the canonical payload. -/
def CreateRequest.normalize (request : CreateRequest) : Except TrackerError Creation :=
  let projectId := strip request.projectId
  let operationKind := strip request.operationKind
  let marker := strip request.creationMarker
  let title := strip request.title
  if projectId = "" then
    .error (.tracker "Atomic create-once requires a project id")
  else if operationKind = "" then
    .error (.tracker "Atomic create-once requires an operation kind")
  else if marker = "" then
    .error (.tracker "Atomic create-once requires a creation marker")
  else if 512 < max (max projectId.length operationKind.length) marker.length then
    .error (.tracker "Atomic create-once key fields must not exceed 512 bytes")
  else if title = "" then
    .error (.tracker "Native oompah task title is required")
  else
    let status := (canonicalizeStatus rt
      ((Value.str (request.initialStatus.getD "")).orElse (.str "Backlog"))).text
    let issueType := rt.lower (strip (if request.issueType = "" then "task" else request.issueType))
    let parent := strip (request.parent.getD "")
    let payload : RequestPayload :=
      { title := title
        issueType := if issueType ∈ issueTypes then issueType else "task"
        description := String.ofList (TrackerComments.summarySafeDescription
          (request.description.getD "").toList)
        priority := request.priority
        initialStatus := status
        labels := dedupeStrings rt request.labels
        parent := if parent = "" then none else some parent }
    .ok
      { payload := payload
        key :=
          { projectId := projectId
            operationKind := operationKind
            creationMarker := marker
            requestFingerprint := fingerprint payload } }

end Normalization

/-- The record was created for the key, with this payload or another. -/
def Creation.carriedBy (creation : Creation) (record : TaskRecord) : Bool :=
  record.front.createOnce.any (fun recorded =>
    strip recorded.projectId = creation.key.projectId ∧
      strip recorded.operationKind = creation.key.operationKind ∧
      strip recorded.creationMarker = creation.key.creationMarker)

/-!
# The call

`createdAt` and `linkedAt` are the times read for the task and for its parent.
-/

structure Clock where
  createdAt : String
  linkedAt : String

section Call

variable (rt : Runtime) (name : String)

def Creation.front (creation : Creation) (identifier createdAt : String) : TaskMeta where
  id := identifier
  type := creation.payload.issueType
  status := creation.payload.initialStatus
  priority := creation.payload.priority
  title := creation.payload.title
  parent := creation.payload.parent
  children := []
  labels := creation.payload.labels
  createdAt := createdAt
  updatedAt := createdAt
  createOnce := some creation.key

def Creation.record (creation : Creation) (identifier createdAt : String) : TaskRecord where
  path := pathFor rt identifier creation.payload.initialStatus
  front := creation.front identifier createdAt
  body := String.ofList (TrackerComments.initialBody creation.payload.description.toList)

/-- The front matter of a parent with one more child. -/
def TaskRecord.withChild (parent : TaskRecord) (child linkedAt : String) : TaskMeta :=
  { parent.front with
    children := dedupeStrings rt (stringList parent.front.children ++ [child])
    updatedAt := linkedAt }

/-- `_add_child_to_parent`. -/
def addChildToParent (parentId childId linkedAt : String) : Tracker Unit := do
  let found ← Tracker.readRecordUncached parentId
  match found with
  | none => return ()
  | some parent =>
    Tracker.writeMarkdown parent.path (parent.withChild rt childId linkedAt) parent.body

def linkParent (creation : Creation) (childId linkedAt : String) : Tracker Unit :=
  match creation.payload.parent with
  | none => return ()
  | some parentId => addChildToParent rt parentId childId linkedAt

/-- What follows the choice of an identifier. -/
def createTask (creation : Creation) (clock : Clock) (identifier : String) :
    Tracker TaskRecord := do
  let record := creation.record rt identifier clock.createdAt
  Tracker.writeMarkdown record.path record.front record.body
  linkParent rt creation identifier clock.linkedAt
  Tracker.commitAndPush ("Create oompah task " ++ identifier)
  let created ← Tracker.readRecordUncached identifier
  match created with
  | none =>
    .raise (.tracker ("Created native oompah task disappeared: " ++ identifier))
  | some record => return record

/-- What follows the scan for the key. -/
def resolveCreation (creation : Creation) (clock : Clock) : List TaskRecord -> Tracker TaskRecord
  | [] => do
      let records ← Tracker.readRecords
      let stems ← Tracker.taskStems
      createTask rt creation clock
        (nextIdentifier rt name (records.map (fun record => record.front.id)) stems)
  | [found] =>
    if (found.front.createOnce.map CreationKey.requestFingerprint).getD "" ≠
        creation.key.requestFingerprint then
      .raise (.createOnceConflict
        "Atomic create-once key was already used with a different payload")
    else do
      Tracker.commitAndPush ("Recover create-once task " ++ found.identifier)
      return found
  | matched =>
    .raise (.createOnceConflict ("Atomic create-once key resolves to multiple native tasks: " ++
        ", ".intercalate ((matched.map TaskRecord.identifier).insertionSort (· ≤ ·))))

def createOnce (creation : Creation) (clock : Clock) : Tracker TaskRecord := do
  Tracker.prepareDefaultBranchForWrite
  let records ← Tracker.readRecords
  resolveCreation rt name creation clock (records.filter creation.carriedBy)

/-- `create_issue_once`. -/
def createIssueOnce (fingerprint : RequestPayload -> String) (request : CreateRequest)
    (clock : Clock) : Tracker TaskRecord :=
  match request.normalize rt fingerprint with
  | .error error => .raise error
  | .ok creation => createOnce rt name creation clock

/-!
# The files under the call
-/

def handle (files : List TaskFile) :
    (r : TrackerRequest) -> Except TrackerError r.Answer × List TaskFile
  | .prepareDefaultBranchForWrite => (.ok (), files)
  | .readRecords => (.ok (readRecords rt files), files)
  | .taskStems => (.ok (files.map (fun file => file.path.stem)), files)
  | .writeMarkdown path front body => (.ok (), writeMarkdown files path front body)
  | .readRecordUncached identifier => (.ok (readRecord rt files identifier), files)
  | .commitAndPush _ => (.ok (), files)

end Call

/-!
# Attempts

An attempt ends when its process dies or when one of its requests fails; `answers`
counts the requests answered before.
-/

inductive Interruption where
  | dies (answers : Nat)
  | raises (answers : Nat) (error : TrackerError)
  deriving DecidableEq

def Interruption.answers : Interruption -> Nat
  | dies answers => answers
  | raises answers _ => answers

structure Attempt where
  clock : Clock
  interruption : Interruption

section Attempts

variable (rt : Runtime) (name : String)

/-- The files after an interrupted attempt. -/
def Attempt.leaves (fingerprint : RequestPayload -> String) (request : CreateRequest)
    (files : List TaskFile) (attempt : Attempt) : List TaskFile :=
  let call := createIssueOnce rt name fingerprint request attempt.clock
  match attempt.interruption with
  | .dies answers => call.stopped (handle rt) answers files
  | .raises answers error => (call.failing (handle rt) error answers files).2

/-- The tasks that carry the key. -/
def Creation.carriers (creation : Creation) (files : List TaskFile) : List TaskRecord :=
  (readRecords rt files).filter creation.carriedBy

def newIdentifier (files : List TaskFile) : String :=
  nextIdentifier rt name ((readRecords rt files).map (fun record => record.front.id))
    (files.map (fun file => file.path.stem))

def Creation.newTask (creation : Creation) (createdAt : String) (files : List TaskFile) :
    TaskRecord :=
  creation.record rt (newIdentifier rt name files) createdAt

/-- The given parent, where there is such a task, lists the child once. -/
def Creation.listed (creation : Creation) (files : List TaskFile) (child : String) : Bool :=
  creation.payload.parent.all (fun parentId =>
    (readRecord rt files parentId).all (fun parent =>
      parent.front.children.countP (fun text => lookupId rt text = lookupId rt child) = 1))

def Creation.parented (creation : Creation) (files : List TaskFile) : Bool :=
  (creation.carriers rt files).all (fun record =>
    creation.listed rt files record.identifier)

/-- One task carries the key, and its parent lists it once. -/
def Creation.once (creation : Creation) (files : List TaskFile) : Bool :=
  (creation.carriers rt files).length = 1 ∧ creation.parented rt files

/-- The attempt writes the task's file and ends before the write of its parent. -/
def Attempt.endsBetweenWrites (attempt : Attempt) : Bool :=
  attempt.interruption.answers = 5 ∨ attempt.interruption.answers = 6

/-- A creating attempt that leaves a parent without its child. -/
def Attempt.unlinks (creation : Creation) (files : List TaskFile) (attempt : Attempt) :
    Bool :=
  let task := creation.newTask rt name attempt.clock.createdAt files
  creation.carriers rt files = [] ∧ attempt.endsBetweenWrites ∧
    ¬ creation.listed rt (withTask files task) task.identifier

end Attempts

section Results

variable {rt : Runtime} {name : String} {files : List TaskFile} {creation : Creation}

/-!
# Errors end the call
-/

theorem linkParent_propagates (creation : Creation) (childId linkedAt : String) :
    (linkParent rt creation childId linkedAt).Propagates := by
  unfold linkParent
  split
  · exact trivial
  · apply (propagates_perform _).bind
    intro found
    split
    · exact trivial
    · exact propagates_perform _

theorem createTask_propagates (creation : Creation) (clock : Clock) (identifier : String) :
    (createTask rt creation clock identifier).Propagates := by
  apply (propagates_perform _).bind
  intro _
  apply (linkParent_propagates _ _ _).bind
  intro _
  apply (propagates_perform _).bind
  intro _
  apply (propagates_perform _).bind
  intro created
  split
  · exact trivial
  · exact trivial

theorem resolveCreation_propagates (creation : Creation) (clock : Clock)
    (matched : List TaskRecord) :
    (resolveCreation rt name creation clock matched).Propagates := by
  unfold resolveCreation
  split
  · apply (propagates_perform _).bind
    intro records
    apply (propagates_perform _).bind
    intro stems
    exact createTask_propagates _ _ _
  · split
    · exact trivial
    · exact (propagates_perform _).bind (fun _ => trivial)
  · exact trivial

theorem createIssueOnce_propagates (fingerprint : RequestPayload -> String)
    (request : CreateRequest) (clock : Clock) :
    (createIssueOnce rt name fingerprint request clock).Propagates := by
  unfold createIssueOnce
  split
  · exact trivial
  · apply (propagates_perform _).bind
    intro _
    apply (propagates_perform _).bind
    intro records
    exact resolveCreation_propagates _ _ _

/-- A failed request and a death leave the same files. -/
theorem Attempt.leaves_eq_stopped (fingerprint : RequestPayload -> String)
    (request : CreateRequest) (files : List TaskFile) (attempt : Attempt) :
    attempt.leaves rt name fingerprint request files =
      (createIssueOnce rt name fingerprint request attempt.clock).stopped (handle rt)
        attempt.interruption.answers files := by
  unfold Attempt.leaves
  cases attempt.interruption with
  | dies answers => rfl
  | raises answers error =>
    exact (createIssueOnce_propagates fingerprint request attempt.clock).failing error answers files

/-!
# A key that is carried
-/

theorem stopped_publish (record : TaskRecord) (subject : String) (n : Nat) :
    (Tracker.commitAndPush subject >>= fun _ => (return record : Tracker TaskRecord)).stopped
      (handle rt) n files = files := by
  cases n with
  | zero => rfl
  | succ n => cases n <;> rfl

theorem createOnce_stopped_carried (clock : Clock) (n : Nat)
    (hcarried : creation.carriers rt files ≠ []) :
    (createOnce rt name creation clock).stopped (handle rt) n files = files := by
  unfold createOnce
  cases n with
  | zero => rfl
  | succ n =>
    rw [Tracker.prepareDefaultBranchForWrite, stopped_perform_bind rfl]
    cases n with
    | zero => rfl
    | succ n =>
      rw [Tracker.readRecords, stopped_perform_bind rfl]
      revert hcarried
      unfold Creation.carriers
      generalize (readRecords rt files).filter creation.carriedBy = matched
      intro hcarried
      unfold resolveCreation
      split
      · exact absurd rfl hcarried
      · split
        · cases n <;> rfl
        · exact stopped_publish _ _ n
      · cases n <;> rfl

theorem createOnce_execute (clock : Clock) (files : List TaskFile) :
    (createOnce rt name creation clock).execute (handle rt) files =
      (resolveCreation rt name creation clock (creation.carriers rt files)).execute
        (handle rt) files := by
  unfold createOnce
  rw [execute_bind_ok (execute_perform _ files), execute_bind_ok (execute_perform _ files)]
  rfl

variable {clock : Clock} {task : TaskRecord}

theorem createOnce_returns_carried (hcarried : creation.carriers rt files ≠ [])
    (h : ((createOnce rt name creation clock).execute (handle rt) files).1 = .ok task) :
    creation.carriers rt files = [task] := by
  rw [createOnce_execute] at h
  revert hcarried h
  generalize creation.carriers rt files = matched
  intro hcarried h
  unfold resolveCreation at h
  split at h
  · exact absurd rfl hcarried
  · split at h
    · cases h
    · cases h
      rfl
  · cases h

/-!
# A key that no task carries
-/

/-- The files once the parent's list is written. -/
def Creation.linkedFiles (rt : Runtime) (creation : Creation) (childId linkedAt : String)
    (files : List TaskFile) : List TaskFile :=
  match creation.payload.parent.bind (readRecord rt files) with
  | none => files
  | some parent =>
    writeMarkdown files parent.path (parent.withChild rt childId linkedAt) parent.body

/-- What follows the write of the parent: a publication and a reading. -/
def finishTask (identifier : String) : Tracker TaskRecord := do
  Tracker.commitAndPush ("Create oompah task " ++ identifier)
  let created ← Tracker.readRecordUncached identifier
  match created with
  | none =>
    .raise (.tracker ("Created native oompah task disappeared: " ++ identifier))
  | some record => return record

theorem finishTask_stopped (identifier : String) (n : Nat) (files : List TaskFile) :
    (finishTask identifier).stopped (handle rt) n files = files := by
  unfold finishTask
  cases n with
  | zero => rfl
  | succ n =>
    rw [Tracker.commitAndPush, stopped_perform_bind rfl]
    cases n with
    | zero => rfl
    | succ n =>
      rw [Tracker.readRecordUncached, stopped_perform_bind rfl]
      split
      · cases n <;> rfl
      · cases n <;> rfl

variable {identifier : String} {record : TaskRecord}

theorem finishTask_execute (h : readRecord rt files identifier = some record) :
    (finishTask identifier).execute (handle rt) files = (.ok record, files) := by
  unfold finishTask
  rw [execute_bind_ok (execute_perform _ files), execute_bind_ok (execute_perform _ files)]
  show (match readRecord rt files identifier with
    | none => _
    | some record => _ : Tracker TaskRecord).execute (handle rt) files = _
  rw [h]
  rfl

theorem linkParent_stopped (creation : Creation) (childId linkedAt : String) (n : Nat)
    (files : List TaskFile) :
    (linkParent rt creation childId linkedAt >>= fun _ => finishTask childId).stopped
        (handle rt) n files =
      if n < 2 then files else creation.linkedFiles rt childId linkedAt files := by
  unfold linkParent Creation.linkedFiles
  cases hparent : creation.payload.parent with
  | none =>
    show (finishTask childId).stopped (handle rt) n files = _
    rw [finishTask_stopped]
    simp
  | some parentId =>
    cases n with
    | zero => rfl
    | succ n =>
      unfold addChildToParent
      rw [Program.bind_bind, Tracker.readRecordUncached, stopped_perform_bind rfl]
      show (_ >>= fun _ => finishTask childId : Tracker TaskRecord).stopped (handle rt) n files = _
      simp only [Option.bind_some]
      cases hfound : readRecord rt files parentId with
      | none =>
        show (finishTask childId).stopped (handle rt) n files = _
        rw [finishTask_stopped]
        simp
      | some parent =>
        cases n with
        | zero => rfl
        | succ n =>
          show (Tracker.writeMarkdown _ _ _ >>= fun _ => finishTask childId).stopped
            (handle rt) (n + 1) files = _
          refine (stopped_perform_bind rfl n).trans ?_
          rw [finishTask_stopped, if_neg (by omega)]

theorem createTask_stopped (clock : Clock) (identifier : String) (n : Nat)
    (hfresh : FreshTask rt files (creation.record rt identifier clock.createdAt)) :
    (createTask rt creation clock identifier).stopped (handle rt) (n + 1) files =
      if n < 2 then withTask files (creation.record rt identifier clock.createdAt)
      else creation.linkedFiles rt identifier clock.linkedAt
        (withTask files (creation.record rt identifier clock.createdAt)) := by
  have hwrite : handle rt files (.writeMarkdown (creation.record rt identifier clock.createdAt).path
      (creation.record rt identifier clock.createdAt).front
      (creation.record rt identifier clock.createdAt).body) =
        (.ok (), withTask files (creation.record rt identifier clock.createdAt)) := by
    rw [← hfresh.writeMarkdown]
    rfl
  have hstopped := stopped_perform_bind (f := fun _ =>
    linkParent rt creation identifier clock.linkedAt >>= fun _ => finishTask identifier)
    hwrite n
  exact hstopped.trans (linkParent_stopped creation identifier clock.linkedAt n _)

theorem record_identifier (h : identifier ≠ "") (creation : Creation) (createdAt : String) :
    (creation.record rt identifier createdAt).identifier = identifier := by
  exact if_neg h

/-- A task is new when no identifier and no file name is the one it is named by. -/
theorem record_fresh (hfiles : WellFormed rt files) (creation : Creation)
    (createdAt : String) {n : Nat} (hid : identifier = taskIdentifier name n)
    (hfresh : forall text, text ∈ (readRecords rt files).map
        (fun record => record.front.id) ++ files.map (fun file => file.path.stem) ->
      rt.lower text ≠ rt.lower identifier) :
    FreshTask rt files (creation.record rt identifier createdAt) := by
  have hstrip : strip identifier = identifier := by rw [hid, strip_taskIdentifier]
  have hidentifier : (creation.record rt identifier createdAt).identifier = identifier := by
    apply record_identifier
    intro hempty
    rw [hid] at hempty
    exact taskIdentifier_ne_nil name n (by rw [hempty]; rfl)
  constructor
  · intro hpath
    rcases List.mem_map.mp hpath with ⟨file, hfile, heq⟩
    have hstem : file.path.stem = identifier := by
      rw [heq]
      unfold Creation.record pathFor
      rw [hid, safeId_taskIdentifier]
    have hseen := List.mem_append_right ((readRecords rt files).map (fun record => record.front.id))
      (List.mem_map_of_mem (f := fun file : TaskFile => file.path.stem) hfile)
    exact hfresh _ hseen (congrArg rt.lower hstem)
  · intro other hother hlookup
    unfold TaskRecord.lookup lookupId at hlookup
    rw [hidentifier, hfiles.stripped other hother, hstrip] at hlookup
    have hseen : other.identifier ∈ (readRecords rt files).map
        (fun record => record.front.id) ++ files.map (fun file => file.path.stem) := by
      unfold TaskRecord.identifier
      split
      · apply List.mem_append_right
        rcases mem_records.mp hother with ⟨file, hfile, hread⟩
        rw [record_path hread]
        exact List.mem_map_of_mem (f := fun file : TaskFile => file.path.stem) hfile
      · apply List.mem_append_left
        exact List.mem_map_of_mem (f := fun record : TaskRecord => record.front.id)
          (hfiles.mem_readRecords.mpr hother)
    exact hfresh _ hseen hlookup
  · rw [hidentifier, hstrip]

theorem newTask_fresh (hfiles : WellFormed rt files) (creation : Creation) (createdAt : String) :
    FreshTask rt files (creation.newTask rt name createdAt files) :=
  record_fresh hfiles creation createdAt rfl (fun _ => nextIdentifier_fresh)

/-- Where a creating call leaves the files, by the number of its answers. -/
theorem createOnce_stopped_new (hfiles : WellFormed rt files) (clock : Clock) (n : Nat)
    (hnew : creation.carriers rt files = []) :
    (createOnce rt name creation clock).stopped (handle rt) n files =
      if n < 5 then files
      else if n < 7 then withTask files (creation.newTask rt name clock.createdAt files)
      else creation.linkedFiles rt (newIdentifier rt name files) clock.linkedAt
        (withTask files (creation.newTask rt name clock.createdAt files)) := by
  have hresolve : resolveCreation rt name creation clock
      ((readRecords rt files).filter creation.carriedBy) = (do
        let records ← Tracker.readRecords
        let stems ← Tracker.taskStems
        createTask rt creation clock
          (nextIdentifier rt name (records.map (fun record => record.front.id)) stems)) := by
    have hempty : (readRecords rt files).filter creation.carriedBy = [] := hnew
    rw [hempty]
    rfl
  unfold createOnce
  match n with
  | 0 => rfl
  | 1 => rfl
  | m + 2 =>
    rw [Tracker.prepareDefaultBranchForWrite, stopped_perform_bind rfl,
      Tracker.readRecords, stopped_perform_bind rfl]
    show (resolveCreation rt name creation clock
      ((readRecords rt files).filter creation.carriedBy)).stopped (handle rt) m files = _
    rw [hresolve]
    match m with
    | 0 => rfl
    | 1 => rfl
    | 2 =>
      rw [Tracker.readRecords, stopped_perform_bind rfl, Tracker.taskStems,
        stopped_perform_bind rfl]
      rfl
    | k + 3 =>
      rw [Tracker.readRecords, stopped_perform_bind rfl, Tracker.taskStems,
        stopped_perform_bind rfl]
      have hfresh : FreshTask rt files (creation.record rt
          (newIdentifier rt name files) clock.createdAt) :=
        newTask_fresh hfiles creation clock.createdAt
      have hcreate := createTask_stopped clock (newIdentifier rt name files) k hfresh
      have hsplit : (k < 2) = (k + 3 + 2 < 7) := propext (by omega)
      simp only [hsplit] at hcreate
      exact hcreate

/-!
# The key after a call
-/

/-- The key has no space around its texts. -/
structure Creation.Clean (creation : Creation) : Prop where
  projectId : strip creation.key.projectId = creation.key.projectId
  operationKind : strip creation.key.operationKind = creation.key.operationKind
  creationMarker : strip creation.key.creationMarker = creation.key.creationMarker

variable {fingerprint : RequestPayload -> String} {request : CreateRequest}

theorem normalize_clean (h : request.normalize rt fingerprint = .ok creation) : creation.Clean := by
  unfold CreateRequest.normalize at h
  dsimp only at h
  split at h
  · cases h
  · split at h
    · cases h
    · split at h
      · cases h
      · split at h
        · cases h
        · split at h
          · cases h
          · cases h
            exact ⟨strip_strip _, strip_strip _, strip_strip _⟩

theorem carriedBy_of_key (hclean : creation.Clean)
    (h : record.front.createOnce = some creation.key) : creation.carriedBy record = true := by
  unfold Creation.carriedBy
  rw [h, Option.any_some, decide_eq_true_eq]
  exact ⟨hclean.projectId, hclean.operationKind, hclean.creationMarker⟩

theorem carriers_perm (hfiles : WellFormed rt files) (creation : Creation) :
    (creation.carriers rt files).Perm ((records files).filter creation.carriedBy) :=
  hfiles.readRecords_perm.filter _

theorem mem_carriers (hfiles : WellFormed rt files)
    (h : record ∈ creation.carriers rt files) : record ∈ records files :=
  (List.mem_filter.mp ((carriers_perm hfiles creation).mem_iff.mp h)).left

theorem carriers_withTask (hfiles : WellFormed rt files)
    (hfresh : FreshTask rt files task) (hcarried : creation.carriedBy task = true)
    (hnew : creation.carriers rt files = []) :
    creation.carriers rt (withTask files task) = [task] := by
  have hperm := carriers_perm (hfresh.wellFormed hfiles) creation
  have hold := carriers_perm hfiles creation
  rw [hnew] at hold
  have hnone : (records files).filter creation.carriedBy = [] := hold.symm.eq_nil
  rw [records_withTask, List.filter_append, hnone, List.nil_append,
    List.filter_singleton, hcarried, cond_true] at hperm
  exact List.perm_singleton.mp hperm

theorem carriers_update (hfiles : WellFormed rt files) {parent task : TaskRecord}
    (hparent : parent ∈ records files) {front : TaskMeta}
    (hid : front.id = parent.front.id)
    (hkey : front.createOnce = parent.front.createOnce)
    (h : creation.carriers rt files = [task]) :
    creation.carriers rt (writeMarkdown files parent.path front parent.body) =
      [replaced { parent with front := front } task] := by
  have hperm := carriers_perm (hfiles.update hparent hid) creation
  have hold := carriers_perm hfiles creation
  rw [h] at hold
  have hkept : (records files).filter
        (creation.carriedBy ∘ replaced { parent with front := front }) =
      (records files).filter creation.carriedBy := by
    apply List.filter_congr
    intro known hknown
    show creation.carriedBy (replaced _ known) = creation.carriedBy known
    unfold replaced Creation.carriedBy
    split
    · rename_i hpath
      rw [hfiles.eq_of_path hparent hknown hpath, hkey]
    · rfl
  rw [hfiles.records_writeMarkdown hparent, List.filter_map, hkept] at hperm
  have hmapped := hold.map (replaced { parent with front := front })
  exact List.perm_singleton.mp (hperm.trans hmapped.symm)

/-- What the write of the parent leaves: the parent lists the child once. -/
theorem linkedFiles_spec (linkedAt : String) (hfiles : WellFormed rt files)
    {childId : String} (hchild : task.identifier = childId)
    (hnamed : strip childId ≠ "") (h : creation.carriers rt files = [task])
    (hkey : task.front.createOnce = some creation.key) :
    WellFormed rt (creation.linkedFiles rt childId linkedAt files) ∧
      exists linked, creation.carriers rt (creation.linkedFiles rt childId linkedAt files) =
          [linked] ∧ linked.front.createOnce = some creation.key ∧
        linked.identifier = childId ∧
        creation.listed rt (creation.linkedFiles rt childId linkedAt files) childId =
          true := by
  unfold Creation.linkedFiles
  cases hparentId : creation.payload.parent with
  | none =>
    refine ⟨hfiles, task, h, hkey, hchild, ?_⟩
    unfold Creation.listed
    rw [hparentId]
    rfl
  | some parentId =>
    simp only [Option.bind_some]
    cases hread : readRecord rt files parentId with
    | none =>
      refine ⟨hfiles, task, h, hkey, hchild, ?_⟩
      unfold Creation.listed
      simp only [hparentId, Option.all_some, hread, Option.all_none]
    | some parent =>
      rcases hfiles.readRecord_eq_some.mp hread with ⟨hparent, hlookup⟩
      have hid : (parent.withChild rt childId linkedAt).id = parent.front.id := rfl
      have hupdated := hfiles.update hparent hid
      have hcarriers := carriers_update hfiles hparent hid rfl h
      have htask : task ∈ records files := mem_carriers hfiles (h ▸ List.mem_singleton_self task)
      refine ⟨hupdated, _, hcarriers, ?_, ?_, ?_⟩
      · unfold replaced
        split
        · rename_i hpath
          have hsame := hfiles.eq_of_path hparent htask hpath
          rw [hsame] at hkey
          exact hkey
        · exact hkey
      · rw [hfiles.replaced_identifier hparent htask hid]
        exact hchild
      · have hwritten : readRecord rt (writeMarkdown files parent.path
            (parent.withChild rt childId linkedAt) parent.body) parentId =
              some { parent with front := parent.withChild rt childId linkedAt } := by
          rw [hupdated.readRecord_eq_some]
          constructor
          · rw [hfiles.records_writeMarkdown hparent]
            exact List.mem_map.mpr ⟨parent, hparent, if_pos rfl⟩
          · exact hlookup
        unfold Creation.listed
        simp only [hparentId, Option.all_some, hwritten]
        rw [decide_eq_true_eq]
        exact dedupeStrings_once (List.mem_append_right _ List.mem_cons_self) hnamed

/-!
# Runs of attempts
-/

theorem newTask_identifier (creation : Creation) (createdAt : String) (files : List TaskFile) :
    (creation.newTask rt name createdAt files).identifier = newIdentifier rt name files ∧
      strip (newIdentifier rt name files) ≠ "" := by
  have hid : exists n, newIdentifier rt name files = taskIdentifier name n := ⟨_, rfl⟩
  rcases hid with ⟨n, hn⟩
  have hne : newIdentifier rt name files ≠ "" := by
    rw [hn]
    intro hempty
    exact taskIdentifier_ne_nil name n (by rw [hempty]; rfl)
  refine ⟨record_identifier hne creation createdAt, ?_⟩
  rw [hn, strip_taskIdentifier, ← hn]
  exact hne

/-- The files that a creating call has written, before and after its parent's. -/
structure CreatedFiles (rt : Runtime) (creation : Creation) (identifier : String)
    (files : List TaskFile) : Prop where
  wellFormed : WellFormed rt files
  carrier : exists task, creation.carriers rt files = [task] ∧
    task.front.createOnce = some creation.key ∧ task.identifier = identifier

theorem CreatedFiles.parented_eq (h : CreatedFiles rt creation identifier files) :
    creation.parented rt files = creation.listed rt files identifier := by
  rcases h.carrier with ⟨task, htask, _, hid⟩
  unfold Creation.parented
  rw [htask, List.all_cons, List.all_nil, Bool.and_true, hid]

theorem withTask_created (hfiles : WellFormed rt files) (hclean : creation.Clean)
    (hnew : creation.carriers rt files = []) (createdAt : String) :
    CreatedFiles rt creation (newIdentifier rt name files)
      (withTask files (creation.newTask rt name createdAt files)) := by
  have hfresh : FreshTask rt files (creation.newTask rt name createdAt files) :=
    newTask_fresh hfiles creation createdAt
  refine ⟨hfresh.wellFormed hfiles, creation.newTask rt name createdAt files, ?_, rfl, ?_⟩
  · exact carriers_withTask hfiles hfresh (carriedBy_of_key hclean rfl) hnew
  · exact (newTask_identifier creation createdAt files).left

theorem linkedFiles_created (name : String) (hfiles : WellFormed rt files) (hclean : creation.Clean)
    (hnew : creation.carriers rt files = []) (createdAt linkedAt : String) :
    CreatedFiles rt creation (newIdentifier rt name files)
        (creation.linkedFiles rt (newIdentifier rt name files) linkedAt
          (withTask files (creation.newTask rt name createdAt files))) ∧
      creation.parented rt (creation.linkedFiles rt (newIdentifier rt name files) linkedAt
          (withTask files (creation.newTask rt name createdAt files))) = true := by
  have hwritten : CreatedFiles rt creation (newIdentifier rt name files)
      (withTask files (creation.newTask rt name createdAt files)) :=
    withTask_created hfiles hclean hnew createdAt
  rcases hwritten.carrier with ⟨task, htask, hkey, hid⟩
  have hnamed : strip (newIdentifier rt name files) ≠ "" :=
    (newTask_identifier creation createdAt files).right
  rcases linkedFiles_spec linkedAt hwritten.wellFormed hid hnamed htask hkey with
    ⟨hwellFormed, linked, hlinked, hlinkedKey, hlinkedId, hlisted⟩
  have hcreated : CreatedFiles rt creation (newIdentifier rt name files) _ :=
    ⟨hwellFormed, linked, hlinked, hlinkedKey, hlinkedId⟩
  exact ⟨hcreated, hcreated.parented_eq.trans hlisted⟩

theorem createOnce_execute_files (hfiles : WellFormed rt files) (clock : Clock) :
    ((createOnce rt name creation clock).execute (handle rt) files).2 =
      if creation.carriers rt files = [] then
        creation.linkedFiles rt (newIdentifier rt name files) clock.linkedAt
          (withTask files (creation.newTask rt name clock.createdAt files))
      else files := by
  have hstops : exists n, forall m, n ≤ m ->
      (createOnce rt name creation clock).stopped (handle rt) m files =
        ((createOnce rt name creation clock).execute (handle rt) files).2 :=
    Program.exists_stopped_eq_execute _ files
  rcases hstops with ⟨n, hn⟩
  rw [← hn (max n 7) (Nat.le_max_left n 7)]
  split
  · rename_i hnew
    rw [createOnce_stopped_new hfiles clock _ hnew, if_neg (by omega), if_neg (by omega)]
  · rename_i hcarried
    exact createOnce_stopped_carried clock _ hcarried

theorem once_iff_of_returned (hfiles : WellFormed rt files) (hclean : creation.Clean)
    (h : ((createOnce rt name creation clock).execute (handle rt) files).1 = .ok task) :
    creation.once rt ((createOnce rt name creation clock).execute (handle rt) files).2 = true <->
      creation.parented rt files = true := by
  rw [createOnce_execute_files hfiles]
  unfold Creation.once
  split
  · rename_i hnew
    have hlinked := linkedFiles_created name hfiles hclean hnew clock.createdAt clock.linkedAt
    rcases hlinked with ⟨hcreated, hparented⟩
    rcases hcreated.carrier with ⟨created, hcarrier, _, _⟩
    have hvacuous : creation.parented rt files = true := by
      unfold Creation.parented
      rw [hnew]
      rfl
    rw [hcarrier, hparented, hvacuous]
    simp
  · rename_i hcarried
    rw [createOnce_returns_carried hcarried h]
    simp

/-- What an interrupted attempt leaves, by where it ends. -/
inductive AttemptCase (rt : Runtime) (name : String) (creation : Creation)
    (files : List TaskFile) (attempt : Attempt) : List TaskFile -> Prop where
  | unchanged (hending : attempt.unlinks rt name creation files = false) :
      AttemptCase rt name creation files attempt files
  | unlinked (hnew : creation.carriers rt files = []) (hending : attempt.endsBetweenWrites = true) :
      AttemptCase rt name creation files attempt
        (withTask files (creation.newTask rt name attempt.clock.createdAt files))
  | linked (hnew : creation.carriers rt files = []) (hending : attempt.endsBetweenWrites = false) :
      AttemptCase rt name creation files attempt
        (creation.linkedFiles rt (newIdentifier rt name files) attempt.clock.linkedAt
          (withTask files (creation.newTask rt name attempt.clock.createdAt files)))

theorem leaves_cases (hnormal : request.normalize rt fingerprint = .ok creation)
    (hfiles : WellFormed rt files) (attempt : Attempt) :
    AttemptCase rt name creation files attempt
      (attempt.leaves rt name fingerprint request files) := by
  rw [Attempt.leaves_eq_stopped]
  unfold createIssueOnce
  rw [hnormal]
  by_cases hnew : creation.carriers rt files = []
  · rw [createOnce_stopped_new hfiles attempt.clock _ hnew]
    split
    · apply AttemptCase.unchanged
      have hending : attempt.endsBetweenWrites = false := by
        unfold Attempt.endsBetweenWrites
        rw [decide_eq_false_iff_not]
        omega
      simp [Attempt.unlinks, hending]
    · split
      · apply AttemptCase.unlinked hnew
        unfold Attempt.endsBetweenWrites
        rw [decide_eq_true_eq]
        omega
      · apply AttemptCase.linked hnew
        unfold Attempt.endsBetweenWrites
        rw [decide_eq_false_iff_not]
        omega
  · rw [createOnce_stopped_carried attempt.clock _ hnew]
    apply AttemptCase.unchanged
    simp [Attempt.unlinks, hnew]

/-- The attempts of a request, one after another. -/
def attemptsLeave (rt : Runtime) (name : String)
    (fingerprint : RequestPayload -> String) (request : CreateRequest) :
    List TaskFile -> List Attempt -> List TaskFile :=
  run (fun files attempt => attempt.leaves rt name fingerprint request files)

theorem returned_once_iff (hnormal : request.normalize rt fingerprint = .ok creation)
    {attempts : List Attempt} (hfiles : WellFormed rt files)
    (h : ((createOnce rt name creation clock).execute (handle rt)
      (attemptsLeave rt name fingerprint request files attempts)).1 = .ok task) :
    creation.once rt ((createOnce rt name creation clock).execute (handle rt)
        (attemptsLeave rt name fingerprint request files attempts)).2 = true <->
      creation.parented rt files = true ∧
        Guarded (fun files attempt => attempt.leaves rt name fingerprint request files)
          (fun files attempt => attempt.unlinks rt name creation files = false) files
          attempts := by
  have hclean := normalize_clean hnormal
  unfold attemptsLeave at h ⊢
  induction attempts generalizing files with
  | nil =>
    rw [run_nil] at h ⊢
    simp only [Guarded, and_true]
    exact once_iff_of_returned hfiles hclean h
  | cons attempt rest ih =>
    rw [run_cons] at h ⊢
    simp only [Guarded]
    have hcases : AttemptCase rt name creation files attempt
        (attempt.leaves rt name fingerprint request files) :=
      leaves_cases hnormal hfiles attempt
    revert h hcases
    generalize attempt.leaves rt name fingerprint request files = left
    intro h hcases
    have hvacuous : creation.carriers rt files = [] -> creation.parented rt files = true := by
      intro hnew
      unfold Creation.parented
      rw [hnew]
      rfl
    cases hcases with
    | unchanged hending =>
      refine (ih hfiles h).trans ?_
      simp [hending]
    | unlinked hnew hending =>
      have hcreated : CreatedFiles rt creation (newIdentifier rt name files)
          (withTask files (creation.newTask rt name attempt.clock.createdAt files)) :=
        withTask_created hfiles hclean hnew _
      have hid : (creation.newTask rt name attempt.clock.createdAt files).identifier =
          newIdentifier rt name files := (newTask_identifier creation _ files).left
      refine (ih hcreated.wellFormed h).trans ?_
      rw [hcreated.parented_eq, hvacuous hnew]
      have hunlinks : attempt.unlinks rt name creation files = !creation.listed rt (withTask files
            (creation.newTask rt name attempt.clock.createdAt files))
            (newIdentifier rt name files) := by
        unfold Attempt.unlinks
        dsimp only
        rw [hid]
        simp [hnew, hending]
      rw [hunlinks]
      simp
    | linked hnew hending =>
      have hlinked : CreatedFiles rt creation (newIdentifier rt name files)
          (creation.linkedFiles rt (newIdentifier rt name files) attempt.clock.linkedAt
            (withTask files (creation.newTask rt name attempt.clock.createdAt files))) ∧ _ :=
        linkedFiles_created name hfiles hclean hnew _ _
      refine (ih hlinked.left.wellFormed h).trans ?_
      rw [hlinked.right, hvacuous hnew]
      have hunlinks : attempt.unlinks rt name creation files = false := by
        simp [Attempt.unlinks, hending]
      rw [hunlinks]
      simp

/--
After any attempts that ended early, the call that returns leaves one task with the key,
listed once by its parent, exactly when a task that carried the key before was listed
already and no attempt that created the task ended between the writes of the task and of
a parent that did not list it.
-/
theorem createIssueOnce_once_iff (name : String) (store : TaskStore rt)
    (fingerprint : RequestPayload -> String) (request : CreateRequest)
    (creation : Creation) (hnormal : request.normalize rt fingerprint = .ok creation)
    (attempts : List Attempt) (clock : Clock) (task : TaskRecord)
    (hreturns : ((createIssueOnce rt name fingerprint request clock).execute (handle rt)
      (attemptsLeave rt name fingerprint request store.files attempts)).1 = .ok task) :
    creation.once rt ((createIssueOnce rt name fingerprint request clock).execute (handle rt)
        (attemptsLeave rt name fingerprint request store.files attempts)).2 = true <->
      creation.parented rt store.files = true ∧
        Guarded (fun files attempt => attempt.leaves rt name fingerprint request files)
          (fun files attempt => attempt.unlinks rt name creation files = false)
          store.files attempts := by
  have hcall : createIssueOnce rt name fingerprint request clock =
      createOnce rt name creation clock := by
    unfold createIssueOnce
    rw [hnormal]
  rw [hcall] at hreturns ⊢
  exact returned_once_iff hnormal store.wellFormed hreturns

/-!
# Calls that return
-/

theorem linkParent_execute (creation : Creation) (childId linkedAt : String)
    (files : List TaskFile) :
    (linkParent rt creation childId linkedAt).execute (handle rt) files =
      (.ok (), creation.linkedFiles rt childId linkedAt files) := by
  unfold linkParent Creation.linkedFiles
  cases creation.payload.parent with
  | none => rfl
  | some parentId =>
    unfold addChildToParent
    show (match readRecord rt files parentId with
      | none => _
      | some parent => _ : Tracker Unit).execute (handle rt) files = _
    simp only [Option.bind_some]
    cases readRecord rt files parentId with
    | none => rfl
    | some parent => exact execute_perform _ files

theorem createTask_execute (hfiles : WellFormed rt files) (hclean : creation.Clean)
    (hnew : creation.carriers rt files = []) (clock : Clock) :
    exists task, ((createTask rt creation clock (newIdentifier rt name files)).execute
      (handle rt) files).1 = .ok task := by
  have hfresh : FreshTask rt files (creation.newTask rt name clock.createdAt files) :=
    newTask_fresh hfiles creation clock.createdAt
  have hlinked := linkedFiles_created name hfiles hclean hnew clock.createdAt clock.linkedAt
  rcases hlinked.left.carrier with ⟨task, htask, _, hid⟩
  have hwrite : handle rt files (.writeMarkdown
      (creation.newTask rt name clock.createdAt files).path
      (creation.newTask rt name clock.createdAt files).front
      (creation.newTask rt name clock.createdAt files).body) =
        (.ok (), withTask files (creation.newTask rt name clock.createdAt files)) := by
    rw [← hfresh.writeMarkdown]
    rfl
  have hread : readRecord rt (creation.linkedFiles rt (newIdentifier rt name files)
      clock.linkedAt (withTask files (creation.newTask rt name clock.createdAt files)))
      (newIdentifier rt name files) = some task := by
    rw [hlinked.left.wellFormed.readRecord_eq_some]
    constructor
    · exact mem_carriers hlinked.left.wellFormed (htask ▸ List.mem_singleton_self task)
    · unfold TaskRecord.lookup
      rw [hid]
  have hcall := execute_bind_ok (f := fun _ =>
    linkParent rt creation (newIdentifier rt name files) clock.linkedAt >>= fun _ =>
      finishTask (newIdentifier rt name files))
    ((execute_perform _ files).trans hwrite)
  rw [execute_bind_ok (linkParent_execute creation _ _ _), finishTask_execute hread] at hcall
  exact ⟨task, congrArg Prod.fst hcall⟩

theorem resolveCreation_returns_new (hfiles : WellFormed rt files) (hclean : creation.Clean)
    (hnew : creation.carriers rt files = []) (clock : Clock) :
    exists task, ((resolveCreation rt name creation clock []).execute (handle rt)
      files).1 = .ok task := by
  unfold resolveCreation
  rw [execute_bind_ok (execute_perform _ files), execute_bind_ok (execute_perform _ files)]
  exact createTask_execute hfiles hclean hnew clock

theorem resolveCreation_returns_created
    (hkey : task.front.createOnce = some creation.key) (clock : Clock) (files : List TaskFile) :
    ((resolveCreation rt name creation clock [task]).execute (handle rt) files).1 = .ok task := by
  have hfingerprint : (task.front.createOnce.map CreationKey.requestFingerprint).getD "" =
      creation.key.requestFingerprint := by
    rw [hkey]
    rfl
  unfold resolveCreation
  simp only [ne_eq, hfingerprint, not_true_eq_false, if_false]
  rfl

/-- The key stays uncarried or is carried by the one task that an attempt created. -/
theorem attempts_reach (hnormal : request.normalize rt fingerprint = .ok creation)
    (hfiles : WellFormed rt files) (hnew : creation.carriers rt files = [])
    (attempts : List Attempt) :
    WellFormed rt (attemptsLeave rt name fingerprint request files attempts) ∧
      (creation.carriers rt (attemptsLeave rt name fingerprint request files attempts) = [] ∨
        exists identifier, CreatedFiles rt creation identifier
          (attemptsLeave rt name fingerprint request files attempts)) := by
  have hclean := normalize_clean hnormal
  apply invariant_run (I := fun files => WellFormed rt files ∧ (creation.carriers rt files = [] ∨
      exists identifier, CreatedFiles rt creation identifier files)) _
    ⟨hfiles, Or.inl hnew⟩
  intro files attempt hinv
  have hcases : AttemptCase rt name creation files attempt
      (attempt.leaves rt name fingerprint request files) :=
    leaves_cases hnormal hinv.left attempt
  revert hcases
  generalize attempt.leaves rt name fingerprint request files = left
  intro hcases
  cases hcases with
  | unchanged => exact hinv
  | unlinked hnew =>
    have hcreated : CreatedFiles rt creation (newIdentifier rt name files)
        (withTask files (creation.newTask rt name attempt.clock.createdAt files)) :=
      withTask_created hinv.left hclean hnew _
    exact ⟨hcreated.wellFormed, Or.inr ⟨_, hcreated⟩⟩
  | linked hnew =>
    have hlinked := linkedFiles_created name hinv.left hclean hnew
      attempt.clock.createdAt attempt.clock.linkedAt
    exact ⟨hlinked.left.wellFormed, Or.inr ⟨_, hlinked.left⟩⟩

theorem createIssueOnce_returns (store : TaskStore rt)
    (fingerprint : RequestPayload -> String) (request : CreateRequest)
    (hnormal : request.normalize rt fingerprint = .ok creation)
    (hnew : creation.carriers rt store.files = []) (attempts : List Attempt)
    (clock : Clock) :
    exists task, ((createIssueOnce rt name fingerprint request clock).execute (handle rt)
      (attemptsLeave rt name fingerprint request store.files attempts)).1 = .ok task := by
  have hreach : WellFormed rt (attemptsLeave rt name fingerprint request store.files
      attempts) ∧ _ := attempts_reach hnormal store.wellFormed hnew attempts
  revert hreach
  generalize attemptsLeave rt name fingerprint request store.files attempts = files
  rintro ⟨hfiles, hstate⟩
  unfold createIssueOnce
  rw [hnormal]
  rw [createOnce_execute]
  rcases hstate with hnew | ⟨identifier, hcreated⟩
  · rw [hnew]
    exact resolveCreation_returns_new hfiles (normalize_clean hnormal) hnew clock
  · rcases hcreated.carrier with ⟨task, htask, hkey, _⟩
    rw [htask]
    exact ⟨task, resolveCreation_returns_created hkey clock files⟩

/-!
# Calls of any requests
-/

/-- The keys that tasks carry, whatever the payloads. -/
def carriedKeys (files : List TaskFile) : List (String × String × String) :=
  (records files).filterMap fun record => record.front.createOnce.map fun key =>
    (strip key.projectId, strip key.operationKind, strip key.creationMarker)

theorem carriedKeys_withTask (hfiles : WellFormed rt files) (hclean : creation.Clean)
    (hnew : creation.carriers rt files = []) (hkey : task.front.createOnce = some creation.key)
    (h : (carriedKeys files).Nodup) : (carriedKeys (withTask files task)).Nodup := by
  have hnone := (hnew ▸ carriers_perm hfiles creation).symm.eq_nil
  unfold carriedKeys at h ⊢
  rw [records_withTask, List.filterMap_append]
  refine List.nodup_append.mpr ⟨h, by simp [hkey], ?_⟩
  intro key hmem other hother hsame
  rcases List.mem_filterMap.mp hmem with ⟨record, hrecord, hcarried⟩
  rcases Option.map_eq_some_iff.mp hcarried with ⟨known, hknown, rfl⟩
  simp only [List.filterMap_cons, hkey, Option.map_some, List.filterMap_nil,
    List.mem_singleton] at hother
  rw [hother, hclean.projectId, hclean.operationKind, hclean.creationMarker] at hsame
  have hfound : creation.carriedBy record = true := by
    unfold Creation.carriedBy
    rw [hknown, Option.any_some, decide_eq_true_eq]
    simpa using hsame
  exact List.filter_eq_nil_iff.mp hnone record hrecord hfound

theorem carriedKeys_linkedFiles (hfiles : WellFormed rt files) (childId linkedAt : String) :
    carriedKeys (creation.linkedFiles rt childId linkedAt files) = carriedKeys files := by
  unfold Creation.linkedFiles
  split
  · rfl
  · rename_i parent hread
    rcases Option.bind_eq_some_iff.mp hread with ⟨parentId, _, hfound⟩
    have hparent := (hfiles.readRecord_eq_some.mp hfound).left
    unfold carriedKeys
    rw [hfiles.records_writeMarkdown hparent, List.filterMap_map]
    apply List.filterMap_congr
    intro record hrecord
    simp only [Function.comp_apply, replaced]
    split
    · rename_i hpath
      rw [hfiles.eq_of_path hparent hrecord hpath]
      rfl
    · rfl

/--
Calls of any requests, each stopped anywhere, keep the identifiers of the tasks apart and
never let two tasks carry one key.
-/
theorem carriedKeys_nodup_run (name : String) (fingerprint : RequestPayload -> String)
    (store : TaskStore rt) (hkeys : (carriedKeys store.files).Nodup)
    (calls : List (CreateRequest × Attempt)) :
    let files := run (fun files (call : CreateRequest × Attempt) =>
      call.2.leaves rt name fingerprint call.1 files) store.files calls
    WellFormed rt files ∧ (carriedKeys files).Nodup := by
  refine invariant_run (I := fun files => WellFormed rt files ∧ (carriedKeys files).Nodup) ?_
    ⟨store.wellFormed, hkeys⟩ calls
  rintro files ⟨request, attempt⟩ ⟨hfiles, hkeys⟩
  dsimp only
  cases hnormal : request.normalize rt fingerprint with
  | error error =>
    rw [Attempt.leaves_eq_stopped, createIssueOnce, hnormal]
    cases attempt.interruption.answers <;> exact ⟨hfiles, hkeys⟩
  | ok creation =>
    have hclean := normalize_clean hnormal
    have hcases : AttemptCase rt name creation files attempt
      (attempt.leaves rt name fingerprint request files) := leaves_cases hnormal hfiles attempt
    revert hcases
    generalize attempt.leaves rt name fingerprint request files = left
    intro hcases
    cases hcases with
    | unchanged => exact ⟨hfiles, hkeys⟩
    | unlinked hnew =>
      exact ⟨(newTask_fresh hfiles creation _).wellFormed hfiles,
        carriedKeys_withTask hfiles hclean hnew rfl hkeys⟩
    | linked hnew =>
      refine ⟨(linkedFiles_created name hfiles hclean hnew _ _).left.wellFormed, ?_⟩
      rw [carriedKeys_linkedFiles ((newTask_fresh hfiles creation _).wellFormed hfiles)]
      exact carriedKeys_withTask hfiles hclean hnew rfl hkeys

end Results

/-!
# A parent without its child
-/

section Sample

def sampleParent : TaskRecord where
  path := { directory := "open", stem := "REPO-1" }
  front :=
    { id := "REPO-1"
      type := "epic"
      status := "Open"
      priority := none
      title := "parent"
      parent := none
      children := []
      labels := []
      createdAt := ""
      updatedAt := ""
      createOnce := none }
  body := ""

def sampleStore : TaskStore Runtime.ascii where
  files := withTask [] sampleParent
  wellFormed := by
    constructor
    · decide
    · decide +kernel
    · decide +kernel

def sampleRequest : CreateRequest where
  title := "child"
  parent := some "REPO-1"
  projectId := "project-1"
  operationKind := "helper"
  creationMarker := "marker-1"

def sampleClock : Clock where
  createdAt := "2026-01-01T00:00:00Z"
  linkedAt := "2026-01-01T00:00:00Z"

def afterTask : List Attempt :=
  [{ clock := sampleClock, interruption := .dies 5 }]

def sampleCall : Tracker TaskRecord :=
  createIssueOnce Runtime.ascii "repo" RequestPayload.title sampleRequest sampleClock

def sampleFiles (attempts : List Attempt) : List TaskFile :=
  attemptsLeave Runtime.ascii "repo" RequestPayload.title sampleRequest sampleStore.files attempts

def sampleCreation : Creation where
  payload :=
    { title := "child"
      issueType := "task"
      description := ""
      priority := none
      initialStatus := "Backlog"
      labels := []
      parent := some "REPO-1" }
  key :=
    { projectId := "project-1"
      operationKind := "helper"
      creationMarker := "marker-1"
      requestFingerprint := "child" }

theorem sampleRequest_normalize :
    sampleRequest.normalize Runtime.ascii RequestPayload.title = .ok sampleCreation := by
  decide +kernel

theorem sampleCall_returns (attempts : List Attempt) :
    exists task, (sampleCall.execute (handle Runtime.ascii) (sampleFiles attempts)).1 = .ok task :=
  createIssueOnce_returns sampleStore RequestPayload.title sampleRequest
    sampleRequest_normalize (by decide +kernel) attempts sampleClock

/-- The call made again finds the task and leaves the parent's list empty. -/
theorem afterTask_unlinked :
    (exists task, (sampleCall.execute (handle Runtime.ascii) (sampleFiles afterTask)).1 =
      .ok task) ∧
      sampleRequest.normalize Runtime.ascii RequestPayload.title = .ok sampleCreation ∧
      sampleCreation.once Runtime.ascii
        (sampleCall.execute (handle Runtime.ascii) (sampleFiles afterTask)).2 = false := by
  refine ⟨sampleCall_returns afterTask, sampleRequest_normalize, ?_⟩
  decide +kernel

/-- An attempt that ends after both writes is made up for. -/
theorem afterParent_once :
    sampleCreation.once Runtime.ascii (sampleCall.execute (handle Runtime.ascii)
      (sampleFiles [{ clock := sampleClock, interruption := .dies 7 }])).2 = true := by
  rcases sampleCall_returns [{ clock := sampleClock, interruption := .dies 7 }] with
    ⟨task, htask⟩
  have honce := createIssueOnce_once_iff "repo" sampleStore RequestPayload.title
    sampleRequest sampleCreation sampleRequest_normalize
    [{ clock := sampleClock, interruption := .dies 7 }] sampleClock task htask
  apply honce.mpr
  refine ⟨by decide +kernel, ?_, trivial⟩
  decide +kernel

theorem carriedKeys_sampleCalls :
    let files := run (fun files (call : CreateRequest × Attempt) =>
        call.2.leaves Runtime.ascii "repo" RequestPayload.title call.1 files)
      sampleStore.files (afterTask.map fun attempt => (sampleRequest, attempt))
    WellFormed Runtime.ascii files ∧ (carriedKeys files).Nodup :=
  carriedKeys_nodup_run "repo" RequestPayload.title sampleStore (by decide)
    (afterTask.map fun attempt => (sampleRequest, attempt))

end Sample
end NativeTasks
end Oompah
