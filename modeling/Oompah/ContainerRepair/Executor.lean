import Mathlib.Data.List.Sort
import Oompah.Foundation.Program

/-!
# Container cycle repair

One execution of a selected repair: the authoritative parent branch is advanced
to the selected commits one compare-and-swap push at a time, then every dependent
container is synchronised with it.  Each step is recorded before the next.
Commands that only prepare or remove an isolated worktree are left out.
-/

namespace Oompah
namespace ContainerRepair

open Foundation
open Program (perform)

/-!
# Plans and errors
-/

inductive RepairError where
  | value (message : String)
  | repair (message : String)
  | unsafePrerequisite (message : String)
  | refRace (message : String)
  | mergeConflict (message : String)
  | conflicts (containers : List String)
  deriving DecidableEq

/-- The errors that `except ContainerCycleRepairError` catches. -/
def RepairError.isRepairError : RepairError -> Bool
  | value _ => false
  | _ => true

structure CycleRepairRow where
  taskId : String
  containerId : String
  deriving DecidableEq

/-- The orchestrator strips the container ids and branch names that it plans with, so the
`strip()` of a name here and in `_validate_branch` is left out. -/
structure ContainerCycleRepairPlan where
  authoritativeContainer : String
  dependentContainers : List String
  prerequisiteShas : List (String × String)
  rows : List CycleRepairRow := []
  containerBranches : List (String × String) := []
  declaredClosure : List String := []
  deriving DecidableEq

namespace ContainerCycleRepairPlan

def selectedShas (plan : ContainerCycleRepairPlan) : List String :=
  plan.prerequisiteShas.map Prod.snd

def closure (plan : ContainerCycleRepairPlan) : List String :=
  if plan.declaredClosure = [] then plan.selectedShas else plan.declaredClosure

/-- A later entry for a container wins, as in `dict`. -/
def branchForContainer (plan : ContainerCycleRepairPlan) (containerId : String) :
    Except RepairError String :=
  match (plan.containerBranches.reverse.lookup containerId).filter (· ≠ "") with
  | some branch => .ok branch
  | none =>
    if containerId = "" then .error (.value "container identifier is required")
    else .ok ("epic-" ++ containerId)

end ContainerCycleRepairPlan

def branchChar (c : Char) : Bool :=
  c.isAlphanum || c = '.' || c = '_' || c = '/' || c = '-'

def hasAdjacent (c : Char) : List Char -> Bool
  | first :: second :: rest => first = c && second = c || hasAdjacent c (second :: rest)
  | _ => false

def validateBranch (branch : String) : Except RepairError String :=
  let text := branch.toList
  if text = [] || !text.all branchChar || text.head? = some '/' ||
      hasAdjacent '.' text || hasAdjacent '/' text || text.getLast? = some '/' then
    .error (.value ("invalid Git branch name: " ++ branch))
  else .ok branch

/-!
# Evidence
-/

inductive ChildAction where
  | pending
  | missing
  | alreadyReachable
  | fastForward
  | mergeParent
  | conflict
  | refRace
  | error
  deriving DecidableEq

namespace ChildAction

def synchronized : ChildAction -> Bool
  | alreadyReachable | fastForward | mergeParent => true
  | _ => false

/-- The actions that put a container on the conflict list. -/
def conflicted : ChildAction -> Bool
  | missing | conflict | refRace | error => true
  | _ => false

end ChildAction

structure ChildRepairResult where
  containerId : String
  branch : String
  expectedSha : Option String := none
  resultingSha : Option String := none
  action : ChildAction := .pending
  error : Option RepairError := none
  deriving DecidableEq

inductive RepairStatus where
  | blocked
  | incomplete
  | readyForQueueRestore
  deriving DecidableEq

inductive RepairPhase where
  | planned
  | parentAdvanced
  | childSynchronized
  | childrenSynchronized
  deriving DecidableEq

structure ContainerCycleRepairResult where
  status : RepairStatus
  phase : RepairPhase
  parentBranch : String
  parentExpectedSha : Option String := none
  parentSha : Option String := none
  children : List ChildRepairResult := []
  restorableRows : List String := []
  changedRows : List String := []
  error : Option RepairError := none
  deriving DecidableEq

/-- The payloads given to the persistence callback. -/
inductive Evidence where
  | parentAdvanced (parentBranch parentExpectedSha parentSha : String)
  | childSynchronized (parentSha : String) (child : ChildRepairResult)
  | result (result : ContainerCycleRepairResult)
  deriving DecidableEq

/-- The fields of the merged evidence that a later execution reads. -/
structure Journal where
  phase : Option RepairPhase := none
  parentExpectedSha : Option String := none
  parentSha : Option String := none
  deriving DecidableEq

def Journal.record (journal : Journal) : Evidence -> Journal
  | .parentAdvanced _ parentExpectedSha parentSha =>
    { phase := some .parentAdvanced
      parentExpectedSha := some parentExpectedSha
      parentSha := some parentSha }
  | .childSynchronized parentSha _ =>
    { journal with phase := some .childSynchronized, parentSha := some parentSha }
  | .result result =>
    { phase := some result.phase
      parentExpectedSha := result.parentExpectedSha
      parentSha := result.parentSha }

/-!
# Git commands

Queries are answered from the fetched refs and the object store; a push compares
the remote ref.
-/

inductive GitRequest where
  | fetch
  | revParse (branch : String)
  | isAncestor (ancestor descendant : String)
  | revList (old selected : String)
  | mergeTree (child parent : String)
  | worktreeMerge (child parent : String)
  | push (branch newSha expectedSha : String)
  | persist (evidence : Evidence)
  deriving DecidableEq

inductive MergeFailure where
  | conflict (message : String)
  | command (message : String)
  deriving DecidableEq

def GitAnswer : GitRequest -> Type
  | .fetch => Unit
  | .revParse _ => Option String
  | .isAncestor _ _ => Bool
  | .revList _ _ => Except String (List String)
  | .mergeTree _ _ => Option String
  | .worktreeMerge _ _ => Except MergeFailure String
  | .push _ _ _ => Bool
  | .persist _ => Unit

abbrev Repair := Program GitRequest GitAnswer RepairError

namespace Repair

def lift {α : Type} : Except RepairError α -> Repair α
  | .ok value => .done value
  | .error error => .raise error

/-- The outcome of a step whose errors a caller sorts out. -/
def attempt {α : Type} (program : Repair α) : Repair (Except RepairError α) :=
  (program >>= fun value => .done (.ok value)).tryCatch (fun error => .done (.error error))

def fetch : Repair Unit :=
  perform GitRequest.fetch

def resolve (branch : String) : Repair (Option String) :=
  perform (GitRequest.revParse branch)

def refSha (branch : String) : Repair (Option String) :=
  lift (validateBranch branch) >>= resolve

def ancestor (first second : String) : Repair Bool :=
  perform (GitRequest.isAncestor first second)

def revList (old selected : String) : Repair (Except String (List String)) :=
  perform (GitRequest.revList old selected)

def mergeTree (child parent : String) : Repair (Option String) :=
  perform (GitRequest.mergeTree child parent)

def worktreeMerge (child parent : String) : Repair (Except MergeFailure String) :=
  perform (GitRequest.worktreeMerge child parent)

def push (branch newSha expectedSha : String) : Repair Bool :=
  perform (GitRequest.push branch newSha expectedSha)

def persist (evidence : Evidence) : Repair Unit :=
  perform (GitRequest.persist evidence)

/-- The commits outside a closure, as an error lists them. -/
def unrelated (commits closure : List String) : List String :=
  (commits.filter (fun sha => sha ∉ closure)).dedup.insertionSort (fun a b => a ≤ b)

def commitsBetween (old selected : String) : Repair (List String) := do
  match ← revList old selected with
  | .error message =>
    .raise (.unsafePrerequisite ("cannot inspect prerequisite " ++ selected ++ ": " ++ message))
  | .ok commits => return commits

def validatePrerequisiteDescendant (old selected : String) (closure : List String) :
    Repair Unit := do
  if selected = "" || selected ∉ closure then
    .raise (.unsafePrerequisite
      "selected prerequisite must be a non-empty member of its declared closure")
  else if ← ancestor old selected then
    let commits ← commitsBetween old selected
    if unrelated commits closure = [] then return ()
    else
      .raise (.unsafePrerequisite ("selected prerequisite " ++ selected ++
          " contains commits outside its declared closure: " ++
          String.intercalate ", " ((unrelated commits closure).take 8)))
  else
    .raise (.unsafePrerequisite
      ("selected prerequisite " ++ selected ++ " is not a descendant of " ++ old))

def casPush (branch newSha expectedSha : String) : Repair String := do
  let branch ← lift (validateBranch branch)
  if ← push branch newSha expectedSha then return newSha
  else
    fetch
    let observed ← refSha branch
    if observed = some newSha then return newSha
    else
      .raise (.refRace ("compare-and-swap lost for " ++ branch ++ ": expected " ++ expectedSha ++
          ", observed " ++ observed.getD "<missing"))

/-- Whether every one of a list of commits is an ancestor, asked in order. -/
def allAncestors : List String -> String -> Repair Bool
  | [], _ => return true
  | sha :: rest, current => do
      if ← ancestor sha current then allAncestors rest current else return false

def advanceTo (closure : List String) (parentBranch expected : String) :
    List String -> String -> Repair String
  | [], current => return current
  | selected :: rest, current => do
      if ← ancestor selected current then
        advanceTo closure parentBranch expected rest current
      else
        validatePrerequisiteDescendant current selected closure
        let current ← casPush parentBranch selected current
        persist (.parentAdvanced parentBranch expected current)
        advanceTo closure parentBranch expected rest current

def advanceParent (plan : ContainerCycleRepairPlan) (parentBranch : String)
    (priorParentSha : Option String) : Repair (String × String) := do
  match ← refSha parentBranch with
  | none =>
    .raise (.repair ("authoritative branch " ++ parentBranch ++ " is missing"))
  | some current =>
    match priorParentSha with
    | some prior =>
      if current ≠ prior then
        -- The prior push may have landed just before the process stopped.
        if ← allAncestors plan.selectedShas current then return (prior, current)
        .raise (.refRace ("authoritative branch " ++ parentBranch ++ " changed from " ++ prior ++
            " to " ++ current ++ " before repair resumed"))
      else
        let advanced ← advanceTo plan.closure parentBranch prior plan.selectedShas current
        return (prior, advanced)
    | none =>
      let advanced ← advanceTo plan.closure parentBranch current plan.selectedShas current
      return (current, advanced)

def conflicting (childBranch message : String) : RepairError :=
  .mergeConflict ("parent-only synchronization conflicts for " ++ childBranch ++ ": " ++ message)

def mergeParentIntoChild (childBranch childSha parentSha : String) :
    Repair (String × ChildAction) := do
  if ← ancestor parentSha childSha then return (childSha, .alreadyReachable)
  if ← ancestor childSha parentSha then return (parentSha, .fastForward)
  match ← mergeTree childSha parentSha with
  | some message => .raise (conflicting childBranch message)
  | none =>
    match ← worktreeMerge childSha parentSha with
    | .ok merged => return (merged, .mergeParent)
    | .error (.conflict message) => .raise (conflicting childBranch message)
    | .error (.command message) => .raise (.repair message)

/-- The body of the inner `try`: synchronise one child and record it. -/
def synchronizeChild (parentSha : String) (child : ChildRepairResult)
    (expected : String) : Repair ChildRepairResult := do
  let child ←
    if ← ancestor parentSha expected then
      pure { child with resultingSha := some expected, action := .alreadyReachable }
    else
      let (merged, action) ← mergeParentIntoChild child.branch expected parentSha
      let pushed ← casPush child.branch merged expected
      pure { child with resultingSha := some pushed, action := action }
  persist (.childSynchronized parentSha child)
  return child

def childError (child : ChildRepairResult) (error : RepairError) : ChildRepairResult :=
  match error with
  | .mergeConflict _ => { child with action := .conflict, error := some error }
  | .refRace _ => { child with action := .refRace, error := some error }
  | _ => { child with action := .error, error := some error }

def repairChild (plan : ContainerCycleRepairPlan) (parentSha containerId : String) :
    Repair ChildRepairResult := do
  let branch ← lift (plan.branchForContainer containerId)
  let observed ← refSha branch
  let child : ChildRepairResult :=
    { containerId := containerId, branch := branch, expectedSha := observed }
  match observed with
  | none =>
    return { child with
      action := .missing
      error := some (.repair ("dependent branch " ++ branch ++ " is missing")) }
  | some expected =>
    match ← attempt (synchronizeChild parentSha child expected) with
    | .ok synchronized => return synchronized
    | .error error =>
      if error.isRepairError then return childError child error else .raise error

def repairChildren (plan : ContainerCycleRepairPlan) (parentSha : String) :
    List String -> Repair (List ChildRepairResult)
  | [] => return []
  | containerId :: rest => do
      let child ← repairChild plan parentSha containerId
      return child :: (← repairChildren plan parentSha rest)

end Repair

/-- The result once the parent branch has been advanced. -/
def advancedResult (result : ContainerCycleRepairResult) (expected parentSha : String) :
    ContainerCycleRepairResult :=
  { result with
    parentExpectedSha := some expected
    parentSha := some parentSha
    phase := .parentAdvanced }

/-- The result once every child has been tried. -/
def childrenSynchronized (plan : ContainerCycleRepairPlan)
    (result : ContainerCycleRepairResult) (children : List ChildRepairResult) :
    ContainerCycleRepairResult :=
  let conflicts :=
    ((children.filter (·.action.conflicted)).map (·.containerId)).dedup.insertionSort
      (fun a b => a ≤ b)
  let affected := (children.filter (·.action.synchronized)).map (·.containerId)
  { result with
    phase := .childrenSynchronized
    children := children
    restorableRows :=
      (plan.rows.filter (fun row => row.containerId ∈ affected)).map (·.taskId)
    changedRows :=
      (plan.rows.filter (fun row => row.containerId ∈ conflicts)).map (·.taskId)
    status := if conflicts = [] then .readyForQueueRestore else .incomplete
    error := if conflicts = [] then none else some (.conflicts conflicts) }

namespace Repair

def synchronizeChildren (plan : ContainerCycleRepairPlan)
    (advanced : ContainerCycleRepairResult) (parentSha : String) :
    Repair ContainerCycleRepairResult := do
  persist (.result advanced)
  let children ← repairChildren plan parentSha plan.dependentContainers
  let finished := childrenSynchronized plan advanced children
  persist (.result finished)
  return finished

/-- The body of the outer `try`. -/
def executeSteps (plan : ContainerCycleRepairPlan)
    (result : ContainerCycleRepairResult) : Repair ContainerCycleRepairResult := do
  fetch
  let (expected, parentSha) ← advanceParent plan result.parentBranch result.parentSha
  synchronizeChildren plan (advancedResult result expected parentSha) parentSha

def start (parentBranch : String) (prior : Journal) : ContainerCycleRepairResult :=
  { status := .blocked
    phase := prior.phase.getD .planned
    parentBranch := parentBranch
    parentExpectedSha := prior.parentExpectedSha
    parentSha := prior.parentSha }

/-- `execute`, from the evidence that was persisted before. -/
def execute (plan : ContainerCycleRepairPlan) (prior : Journal) :
    Repair ContainerCycleRepairResult := do
  let parentBranch ← lift (plan.branchForContainer plan.authoritativeContainer)
  let result := start parentBranch prior
  (executeSteps plan result).tryCatch fun error =>
    if error.isRepairError then do
      let blocked := { result with error := some error }
      persist (.result blocked)
      return blocked
    else .raise error

end Repair
end ContainerRepair
end Oompah
