import Oompah.Foundation.Checked
import Oompah.Foundation.Value
import Oompah.TaskTransitions.Intent

/-!
# The transition journal

Requests and events are append-only; one claim row per task names the
transition whose executor owns the task.  Transition identities and claim
tokens are numbered in the order they are issued.  `begin` is one transaction:
an error leaves the journal as it was.
-/

namespace Oompah
namespace TaskTransitions

open Foundation

/-!
# Rows
-/

structure TransitionRequest where
  transitionId : Nat
  intent : TransitionIntent
  deriving DecidableEq

structure TransitionJournalEvent where
  transitionId : Nat
  phase : TransitionPhase
  reasonCode : String
  outcome : Option TransitionOutcome := none
  deriving DecidableEq

structure TransitionClaim where
  key : TaskKey
  transitionId : Nat
  claimToken : Nat
  claimedAt : Int
  leaseExpiresAt : Int
  deriving DecidableEq

structure TransitionJournal where
  requests : List TransitionRequest := []
  events : List TransitionJournalEvent := []
  claims : List TransitionClaim := []
  /-- Claim tokens generated so far. -/
  issued : Nat := 0
  deriving DecidableEq

inductive JournalError where
  | keyError
  | valueError (text : String)
  | corruption (text : String)
  | journal (text : String)
  deriving DecidableEq

/-- The obligation that a begin hands out. -/
structure Recovery where
  transitionId : Nat
  intent : TransitionIntent
  previousPhase : TransitionPhase
  deriving DecidableEq

/-- `_BeginResult`. -/
structure BeginResult where
  transitionId : Nat
  claimToken : Option Nat := none
  replay : Option TransitionOutcome := none
  waiting : Option TransitionOutcome := none
  previousPhase : Option TransitionPhase := none
  recovery : Option Recovery := none
  deriving DecidableEq

namespace TransitionJournal

/-!
# Reads
-/

def request? (j : TransitionJournal) (transitionId : Nat) :
    Option TransitionRequest :=
  j.requests.find? (fun row => row.transitionId = transitionId)

def requestFor (j : TransitionJournal) (intent : TransitionIntent) :
    Option TransitionRequest :=
  j.requests.find? (fun row =>
    row.intent.projectId = intent.projectId ∧ row.intent.idempotencyKey = intent.idempotencyKey)

def eventsOf (j : TransitionJournal) (transitionId : Nat) :
    List TransitionJournalEvent :=
  j.events.filter (fun event => event.transitionId = transitionId)

/-- `_latest_event_locked`. -/
def latestEvent (j : TransitionJournal) (transitionId : Nat) :
    Option TransitionJournalEvent :=
  (j.eventsOf transitionId).getLast?

def claim? (j : TransitionJournal) (key : TaskKey) : Option TransitionClaim :=
  j.claims.find? (fun row => row.key = key)

/-!
# Writes
-/

def appendLocked (j : TransitionJournal) (transitionId : Nat)
    (phase : TransitionPhase) (reasonCode : String)
    (outcome : Option TransitionOutcome) : TransitionJournal :=
  { j with
    events := j.events ++
      [{ transitionId := transitionId
         phase := phase
         reasonCode := reasonCode
         outcome := outcome }] }

/-- `append`: it compares no claim token. -/
def append (j : TransitionJournal) (transitionId : Nat)
    (phase : TransitionPhase) (reasonCode : String)
    (outcome : Option TransitionOutcome) :
    Except JournalError TransitionJournal :=
  match j.request? transitionId with
  | none => .error .keyError
  | some _ =>
    if strip reasonCode = "" then .error (.valueError "reason_code is required")
    else .ok (j.appendLocked transitionId phase (strip reasonCode) outcome)

def deleteClaims (j : TransitionJournal) (doomed : TransitionClaim -> Bool) :
    TransitionJournal :=
  { j with claims := j.claims.filter (fun row => !doomed row) }

def insertClaim (j : TransitionJournal) (claim : TransitionClaim) :
    TransitionJournal :=
  { j with claims := j.claims ++ [claim] }

/-- `release` and whether a claim was deleted. -/
def release (j : TransitionJournal) (key : TaskKey) (claimToken : Nat) : TransitionJournal × Bool :=
  (j.deleteClaims (fun row => row.key = key ∧ row.claimToken = claimToken),
    j.claims.any (fun row => row.key = key ∧ row.claimToken = claimToken))

/-- `expire_for_retry` and whether a claim was retained. -/
def expireForRetry (j : TransitionJournal) (key : TaskKey) (claimToken : Nat)
    (now : Int) : TransitionJournal × Bool :=
  ({ j with
    claims := j.claims.map (fun row =>
      if row.key = key ∧ row.claimToken = claimToken then
        { row with leaseExpiresAt := now }
      else row) },
    j.claims.any (fun row => row.key = key ∧ row.claimToken = claimToken))

/-- Insert a request with its first event. -/
def register (j : TransitionJournal) (intent : TransitionIntent) :
    TransitionJournal :=
  ({ j with
      requests := j.requests ++
        [{ transitionId := j.requests.length, intent := intent }] }
    : TransitionJournal).appendLocked j.requests.length .requested intent.reasonCode none

/-!
# Begin
-/

/-- What `begin` writes and answers when another intent owns an expired claim. -/
def recoverClaim (j : TransitionJournal) (intent : TransitionIntent)
    (transitionId : Nat) (active : TransitionClaim)
    (activeIntent : TransitionIntent) (activePhase : TransitionPhase)
    (now ttl : Int) (claimToken : Nat) : TransitionJournal × BeginResult :=
  let expired : TransitionOutcome :=
    { outcomeOf active.transitionId activeIntent .retryable
        "transition.claim_expired" none with
      retryable := true
      details := [("replacement_transition_id", .transition transitionId),
        ("lease_expires_at", .time active.leaseExpiresAt)] }
  let waiting : TransitionOutcome :=
    { outcomeOf transitionId intent .waiting "transition.recovery_in_progress"
        none with
      retryable := true
      details := [("recover_transition_id", .transition active.transitionId)] }
  let noted :=
    (j.appendLocked active.transitionId .retryScheduled expired.reasonCode
      (some expired)).appendLocked transitionId .waiting waiting.reasonCode
      (some waiting)
  ({ noted with
    claims := noted.claims.map (fun row =>
      if row = active then
        { row with
          claimToken := claimToken
          claimedAt := now
          leaseExpiresAt := now + ttl }
      else row) },
    { transitionId := transitionId
      claimToken := some claimToken
      recovery := some
        { transitionId := active.transitionId
          intent := activeIntent
          previousPhase := activePhase } })

/-- `begin` once the request is registered and is not replayed. -/
def acquire (j : TransitionJournal) (intent : TransitionIntent)
    (transitionId : Nat) (previousPhase : Option TransitionPhase)
    (now ttl : Int) (claimToken : Nat) :
    Except JournalError (TransitionJournal × BeginResult) :=
  let fresh : TransitionClaim :=
    { key := intent.key
      transitionId := transitionId
      claimToken := claimToken
      claimedAt := now
      leaseExpiresAt := now + ttl }
  let taken : BeginResult :=
    { transitionId := transitionId
      claimToken := some claimToken
      previousPhase := previousPhase }
  match j.claim? intent.key with
  | none => .ok (j.insertClaim fresh, taken)
  | some active =>
    if now < active.leaseExpiresAt then
      let waiting : TransitionOutcome :=
        { outcomeOf transitionId intent .waiting "transition.owner_active"
            none with
          retryable := true
          details := [("active_transition_id",
            .transition active.transitionId)] }
      .ok (j.appendLocked transitionId .waiting waiting.reasonCode (some waiting),
        { transitionId := transitionId, waiting := some waiting })
    else
      let replaced := (j.deleteClaims (fun row => row = active)).insertClaim fresh
      if active.transitionId = transitionId then
        .ok (replaced, taken)
      else
        match j.request? active.transitionId with
        | none =>
          .error (.corruption "transition claim does not match its immutable request")
        | some activeRequest =>
          if activeRequest.intent.key ≠ intent.key then
            .error (.corruption "transition claim does not match its immutable request")
          else
            match j.latestEvent active.transitionId with
            | none =>
              .error (.corruption "transition claim has no immutable journal history")
            | some activeLatest =>
              if activeLatest.phase.isFinal then
                if activeLatest.outcome.isNone then
                  .error (.corruption "final expired transition has no durable outcome")
                else
                  .ok (replaced, taken)
              else
                .ok (j.recoverClaim intent transitionId active
                  activeRequest.intent activeLatest.phase now ttl
                  claimToken)

/-- `begin`; the transaction also generates an identity and a claim token. -/
def begin_ (j : TransitionJournal) (intent : TransitionIntent) (now ttl : Int) :
    Except JournalError (TransitionJournal × BeginResult) :=
  let claimToken := j.issued
  let j := { j with issued := j.issued + 1 }
  match j.requestFor intent with
  | some row =>
    let latest := j.latestEvent row.transitionId
    if row.intent ≠ intent then
      let conflict : TransitionOutcome :=
        { outcomeOf row.transitionId intent .rejected
            "transition.idempotency_conflict" none with
          details := [("existing_task_id", .text row.intent.taskId),
            ("existing_phase", .phase (latest.map (·.phase)))] }
      .ok (j, { transitionId := row.transitionId, replay := some conflict })
    else
      match latest.filter (·.phase.isFinal) >>= (·.outcome) with
      | some outcome =>
        .ok (j.deleteClaims (fun claim =>
            claim.key = intent.key ∧ claim.transitionId = row.transitionId),
          { transitionId := row.transitionId
            replay := some { outcome with replayed := true } })
      | none =>
        j.acquire intent row.transitionId (latest.map (·.phase)) now ttl claimToken
  | none =>
    (j.register intent).acquire intent j.requests.length none now ttl claimToken

end TransitionJournal
end TaskTransitions
end Oompah
