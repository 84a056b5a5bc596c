import Oompah.TaskTransitions.World

/-!
# The protocol of an execution

What an execution may ask for next, given what it was begun with and how far
it came.  The invariants of the world rest on this protocol and not on the text
of the sagas.
-/

namespace Oompah
namespace TaskTransitions

open Foundation

/-!
# Facts about an intent and its task
-/

/-- The compare half of the status write. -/
def Fenced (intent : TransitionIntent) (issue : Issue) : Prop :=
  issue.state = some intent.expectedStatus ∧ issue.authorityVersion = intent.expectedVersion

instance (intent : TransitionIntent) (issue : Issue) : Decidable (Fenced intent issue) :=
  inferInstanceAs (Decidable (_ ∧ _))

/-- An ordinary intent may write its requested status itself. -/
def LegalEdge (intent : TransitionIntent) : Prop :=
  transitionRule intent.expectedStatus intent.requestedStatus ≠ none ∧
    intent.requestedStatus ≠ .inValidation ∧
    intent.requestedStatus.isTerminalTarget = false

instance (intent : TransitionIntent) : Decidable (LegalEdge intent) :=
  inferInstanceAs (Decidable (_ ∧ _ ∧ _))

def OfProject (intent : TransitionIntent) (issue : Issue) : Prop :=
  issue.projectId = "" ∨ issue.projectId = intent.projectId

/-- An outcome that reports a terminal stage as done by its intent. -/
def ReportsStage (intent : TransitionIntent) (outcome : TransitionOutcome) :
    Prop :=
  intent.requestedStatus.isTerminalTarget = true ∧ (outcome.disposition = .staged ∨
      outcome.disposition = .recovered ∧ outcome.appliedStatus = some .inValidation)

/-!
# Claimed executions
-/

/-- What a claimed execution was begun with. -/
structure Claimed where
  transitionId : Nat
  claimToken : Nat
  intent : TransitionIntent
  lane : Lane
  previousPhase : Option TransitionPhase
  retain : Bool

/-- The newest journal phase suggests that the stage happened. -/
def Claimed.StageEvidence (c : Claimed) : Prop :=
  c.lane = .ordinary ∧ c.previousPhase.any (fun phase => phase ∈ stageRecoveryPhases) = true

def Claimed.StageRecoverable (c : Claimed) (issue : Issue) : Prop :=
  c.StageEvidence ∧ c.intent.requestedStatus.isTerminalTarget = true ∧
    issue.state = some .inValidation ∧ OfProject c.intent issue

def Claimed.FindsStage (c : Claimed) (issue : Option Issue) : Prop :=
  exists found, issue = some found ∧ c.StageRecoverable found

/-- The lane lets the intent write its requested status. -/
def Claimed.WritesDirectly (c : Claimed) : Prop :=
  match c.lane with
  | .ordinary => LegalEdge c.intent
  | .compensation => isAuthorizedRecoveryIntent c.intent = true

/-- How far a claimed execution came. -/
inductive Stage where
  | reading
  | deciding (issue : Option Issue)
  | applying (issue : Issue)
  /-- The write was called; `staged` tells the adapter from the tracker. -/
  | attempted (staged : Bool)
  /-- Its event could not be journaled inside the handler. -/
  | faltered (staged : Bool)
  /-- An exception is on its way out. -/
  | broken
  | concluded (phase : TransitionPhase)
  | settled
  deriving DecidableEq

/-- An event that ends a claimed execution, and why it may report a stage. -/
structure Concludes (c : Claimed) (staged : Prop) (transitionId : Nat)
    (phase : TransitionPhase) (outcome : Option TransitionOutcome) : Prop where
  names : transitionId = c.transitionId
  concluding : phase ∉ [.requested, .waiting, .applying]
  outcome : exists o, outcome = some o ∧ o.retryable = !phase.isFinal ∧
    (ReportsStage c.intent o -> staged)

/-- The event before the write. -/
structure Admits (c : Claimed) (issue : Option Issue) (transitionId : Nat)
    (outcome : Option TransitionOutcome) : Prop where
  names : transitionId = c.transitionId
  outcome : outcome = none
  issue : exists found, issue = some found ∧ Fenced c.intent found ∧ OfProject c.intent found

/-- A terminal stage that can be recovered is reported as recovered. -/
def RecoversStage (c : Claimed) (issue : Option Issue) (phase : TransitionPhase)
    (reasonCode : String) (outcome : Option TransitionOutcome) : Prop :=
  forall found, issue = some found -> c.StageRecoverable found ->
    phase = .recovered ∧ reasonCode = "transition.terminal_stage_recovered" ∧
      exists o, outcome = some o ∧ o.disposition = .recovered ∧ o.appliedStatus = some .inValidation

namespace Stage

def allows (service : TaskTransitionService) (c : Claimed) : Stage -> Request -> Prop
  | reading, .fetch key =>
    key = { projectId := service.projectId, taskId := c.intent.taskId }
  | deciding issue, .fetchChildren _ =>
    forall found, issue = some found -> ¬ c.StageRecoverable found
  | deciding issue, .append transitionId phase reasonCode outcome =>
    (phase = .applying ∧ Admits c issue transitionId outcome ∨
      Concludes c (c.FindsStage issue) transitionId phase outcome) ∧
    RecoversStage c issue phase reasonCode outcome
  | applying _, .append transitionId phase _ outcome =>
    Concludes c False transitionId phase outcome
  | applying _, .stage intent _ =>
    intent = c.intent ∧ c.intent.requestedStatus.isTerminalTarget = true
  | applying issue, .update intent =>
    intent = c.intent ∧ c.WritesDirectly ∧ Fenced c.intent issue
  | applying _, .commitDirectOwner intent =>
    intent = c.intent ∧ c.WritesDirectly
  | applying _, .commitGuarded intent =>
    intent = c.intent ∧ c.WritesDirectly
  | attempted _, .fetch _ => True
  | attempted staged, .append transitionId phase _ outcome =>
    Concludes c (staged = true) transitionId phase outcome
  | faltered _, .fetch _ => True
  | faltered staged, .append transitionId phase _ outcome =>
    Concludes c (staged = true) transitionId phase outcome
  | faltered _, .release key claimToken =>
    key = c.intent.key ∧ claimToken = c.claimToken
  | faltered _, .expireForRetry key claimToken =>
    key = c.intent.key ∧ claimToken = c.claimToken
  | broken, .release key claimToken =>
    key = c.intent.key ∧ claimToken = c.claimToken
  | broken, .expireForRetry key claimToken =>
    key = c.intent.key ∧ claimToken = c.claimToken
  | concluded phase, .release key claimToken =>
    key = c.intent.key ∧ claimToken = c.claimToken ∧ (c.retain = true -> phase.isFinal = true)
  | concluded phase, .expireForRetry key claimToken =>
    key = c.intent.key ∧ claimToken = c.claimToken ∧ phase.isFinal = false
  | _, _ => False

def next (service : TaskTransitionService) :
    Stage -> (r : Request) -> Except Failure (Answer r) -> Stage
  | reading, .fetch _, .ok found =>
    deciding (found.map (fun issue => issue.inProject service.projectId))
  | reading, .fetch _, .error failure =>
    if failure.raised.isException then deciding none else broken
  | deciding issue, .fetchChildren _, .ok _ => deciding issue
  | deciding issue, .fetchChildren _, .error failure =>
    if failure.raised.isException then deciding issue else broken
  | deciding (some issue), .append _ .applying _ _, .ok _ => applying issue
  | deciding _, .append _ phase _ _, .ok _ => concluded phase
  | applying _, .append _ phase _ _, .ok _ => concluded phase
  | applying _, .stage _ _, .ok _ => attempted true
  | applying _, .stage _ _, .error failure =>
    if failure.raised.isException then attempted true else broken
  | applying _, .update _, .ok _ => attempted false
  | applying _, .update _, .error failure =>
    if failure.raised.isException then attempted false else broken
  | applying _, .commitDirectOwner _, .ok _ => attempted false
  | applying _, .commitDirectOwner _, .error failure =>
    if failure.raised.isException then attempted false else broken
  | applying _, .commitGuarded _, .ok _ => attempted false
  | applying _, .commitGuarded _, .error failure =>
    if failure.raised.isException then attempted false else broken
  | attempted staged, .fetch _, .ok _ => attempted staged
  | attempted staged, .fetch _, .error failure =>
    if failure.raised.isException then attempted staged else broken
  | faltered staged, .fetch _, .ok _ => faltered staged
  | faltered staged, .fetch _, .error failure =>
    if failure.raised.isException then faltered staged else broken
  | attempted _, .append _ phase _ _, .ok _ => concluded phase
  | attempted staged, .append _ _ _ _, .error failure =>
    if failure.raised.isException then faltered staged else broken
  | faltered _, .append _ phase _ _, .ok _ => concluded phase
  | faltered staged, .append _ _ _ _, .error failure =>
    if failure.raised.isException then faltered staged else broken
  | _, .release _ _, _ => settled
  | _, .expireForRetry _ _, _ => settled
  | _, _, _ => broken

end Stage

/-- The protocol of a claimed execution. -/
def claimedProtocol (service : TaskTransitionService) (c : Claimed) :
    Protocol Stage Request Answer Failure where
  allowed := Stage.allows service c
  next := fun s r answer s' => s' = s.next service r answer

/-!
# Whole executions
-/

inductive Progress where
  | starting
  | recovering (c : Claimed) (stage : Stage) (waiting : Nat)
  | running (c : Claimed) (stage : Stage)
  | finished

/-- What a lane asks of the intents it begins. -/
structure Lane.Admits (lane : Lane) (service : TaskTransitionService)
    (intent : TransitionIntent) : Prop where
  project : intent.projectId = service.projectId
  authority : lane = .compensation -> isAuthorizedRecoveryIntent intent = true

namespace Progress

variable (service : TaskTransitionService) (lane : Lane)
  (intent : TransitionIntent)

/-- What follows the begin whose recovery is not, or no longer, looked at. -/
def ofBegun (begun : BeginResult) : Progress :=
  match begun.replay, begun.waiting, begun.claimToken with
  | none, none, some claimToken =>
    running
      { transitionId := begun.transitionId
        claimToken := claimToken
        intent := intent
        lane := lane
        previousPhase := begun.previousPhase
        retain := false } .reading
  | _, _, _ => finished

def ofFirstBegun (begun : BeginResult) : Progress :=
  match begun.recovery, begun.claimToken with
  | some owed, some claimToken =>
    recovering
      { transitionId := owed.transitionId
        claimToken := claimToken
        intent := owed.intent
        lane := recoveryLane owed.intent
        previousPhase := some owed.previousPhase
        retain := true } .reading begun.transitionId
  | some _, none => finished
  | none, _ => ofBegun lane intent begun

def allows : Progress -> Request -> Prop
  | starting, .begin_ submitted leaseTtlSeconds =>
    submitted = intent ∧ leaseTtlSeconds = service.claimTtlSeconds ∧ lane.Admits service intent
  | recovering _ .settled _, .begin_ submitted leaseTtlSeconds =>
    submitted = intent ∧ leaseTtlSeconds = service.claimTtlSeconds ∧ lane.Admits service intent
  | recovering _ .settled waiting, .append transitionId phase _ outcome =>
    transitionId = waiting ∧ phase = .waiting ∧
      exists o, outcome = some o ∧ o.disposition = .waiting
  | recovering c stage _, r => stage.allows service c r
  | running c stage, r => stage.allows service c r
  | _, _ => False

def next : Progress -> (r : Request) -> Except Failure (Answer r) -> Progress
  | starting, .begin_ _ _, .ok begun => ofFirstBegun lane intent begun
  | recovering _ .settled _, .begin_ _ _, .ok begun => ofBegun lane intent begun
  | recovering _ .settled _, _, _ => finished
  | recovering c stage waiting, r, answer =>
    recovering c (stage.next service r answer) waiting
  | running c stage, r, answer => running c (stage.next service r answer)
  | _, _, _ => finished

/-- An execution returns or raises before its first begin or after its last wait. -/
def Finished : Progress -> Prop
  | starting | finished | recovering _ .settled _ | running _ .settled => True
  | _ => False

end Progress

/-- The protocol of an execution submitted to a lane. -/
def executionProtocol (service : TaskTransitionService) (lane : Lane)
    (intent : TransitionIntent) : Protocol Progress Request Answer Failure where
  allowed := Progress.allows service lane intent
  next := fun s r answer s' => s' = s.next service lane intent r answer

end TaskTransitions
end Oompah
