import Oompah.TaskTransitions.Soundness

/-!
# Lanes of recovery

The journal does not say which lane registered an intent.  Recovery derives the
lane from the authority and the reason code, and the compensation lane checks
neither the legal edge nor the evidence.  An ordinary intent keeps its lane in
every run exactly when it does not look like an authorized recovery.
-/

namespace Oompah
namespace TaskTransitions

open Foundation

/-!
# Direct writes
-/

/-- The tracker writes that give a task the requested status of an intent. -/
def Request.writes? : Request -> Option TransitionIntent
  | .update intent => some intent
  | .commitDirectOwner intent => some intent
  | .commitGuarded intent => some intent
  | .begin_ _ _ | .append _ _ _ _ | .release _ _ | .expireForRetry _ _
  | .fetch _ | .fetchChildren _ | .stage _ _ => none

/-- No step of a run submits an intent to `recover_authorized`. -/
def SubmittedOrdinary (intent : TransitionIntent) (steps : List WorldStep) :
    Prop :=
  forall s, s ∈ steps -> forall service lane, s = .submit service lane intent -> lane = .ordinary

/-- The intent runs in the ordinary lane and is written on a legal edge only. -/
structure LaneKept (intent : TransitionIntent) (w : World) : Prop where
  lane : forall (i : Nat) (e : Execution) (r : Request) (lane : Lane),
    w.executions[i]? = some e -> e.pending = some r ->
    e.working = some (intent, lane) -> lane = .ordinary
  pending : forall (i : Nat) (e : Execution) (r : Request),
    w.executions[i]? = some e -> e.pending = some r ->
    r.writes? = some intent -> LegalEdge intent
  detached : forall call, call ∈ w.detached ->
    call.request.writes? = some intent -> LegalEdge intent

variable {intent : TransitionIntent}

theorem writesDirectly_of_allows {service : TaskTransitionService} {c : Claimed}
    {s : Stage} {r : Request} (h : s.allows service c r) (hwrites : r.writes? = some intent) :
    intent = c.intent ∧ c.WritesDirectly := by
  cases r with
  | update written =>
    cases hwrites
    cases s with
    | applying issue => exact ⟨h.left, h.right.left⟩
    | _ => exact h.elim
  | commitDirectOwner written =>
    cases hwrites
    cases s with
    | applying issue => exact h
    | _ => exact h.elim
  | commitGuarded written =>
    cases hwrites
    cases s with
    | applying issue => exact h
    | _ => exact h.elim
  | _ => cases hwrites

theorem recoveryLane_ordinary (h : isAuthorizedRecoveryIntent intent = false) :
    recoveryLane intent = .ordinary := by
  unfold recoveryLane
  rw [h]
  rfl

variable {j : TransitionJournal}

/-- An intent that is no authorized recovery is claimed in the ordinary lane. -/
theorem claimed_ordinary {e : Execution} {σ : Progress}
    {c : Claimed} {stage : Stage} (hlinked : Linked j e σ) (hclaim : σ.claim? = some (c, stage))
    (h : isAuthorizedRecoveryIntent c.intent = false) : c.lane = .ordinary := by
  cases σ with
  | starting => cases hclaim
  | recovering c' stage' waiting =>
    cases hclaim
    rw [hlinked.right.right.left]
    exact recoveryLane_ordinary h
  | running c' stage' =>
    cases hclaim
    rcases hlinked with ⟨_, _, hlane, _, hintent, hadmits⟩
    rw [hlane]
    cases hcase : e.lane with
    | ordinary => rfl
    | compensation =>
      have hauthority := hadmits.authority hcase
      rw [← hintent, h] at hauthority
      cases hauthority
  | finished => cases hclaim

theorem legalEdge_of_asks {e : Execution} {σ : Progress} {r : Request} (hlinked : Linked j e σ)
    (hasks : Progress.Asks e.service e.lane e.intent σ r) (hwrites : r.writes? = some intent)
    (h : isAuthorizedRecoveryIntent intent = false) : LegalEdge intent := by
  cases hasks with
  | begins => cases hwrites
  | notes => cases hwrites
  | works σ c stage r hclaim hstage =>
    rcases writesDirectly_of_allows hstage hwrites with ⟨rfl, hdirect⟩
    unfold Claimed.WritesDirectly at hdirect
    rw [claimed_ordinary hlinked hclaim h] at hdirect
    exact hdirect

theorem Sound.laneKept {x : Traced} (hsound : Sound x)
    (h : isAuthorizedRecoveryIntent intent = false) : LaneKept intent x.world where
  lane := by
    intro i e r lane hindex hpending hworking
    rcases program_of_pending hpending with ⟨resume, hprogram⟩
    have hlinked := hsound.linked i e hindex
    rcases Progress.claim_of_asks (hsound.asks hindex hprogram) with
      hstarting | ⟨c, stage, hclaim⟩
    · rw [hstarting] at hlinked
      unfold Execution.working at hworking
      rw [show e.begun = none from hlinked] at hworking
      cases hworking
    · rw [(hlinked.backed hclaim).working] at hworking
      cases hworking
      exact claimed_ordinary hlinked hclaim h
  pending := by
    intro i e r hindex hpending hwrites
    rcases program_of_pending hpending with ⟨resume, hprogram⟩
    exact legalEdge_of_asks (hsound.linked i e hindex) (hsound.asks hindex hprogram) hwrites h
  detached := by
    intro call hcall hwrites
    rcases hsound.snapshots call hcall with ⟨e, σ, _, _, hlinked, hasks⟩
    exact legalEdge_of_asks hlinked hasks hwrites h

/-!
# A recovery that changes the lane
-/

def Recovered (intent : TransitionIntent) (e : Execution) : Prop :=
  e.working = some (intent, recoveryLane intent) ∧ exists key, e.pending = some (.fetch key)

/-- Another intent of the same task. -/
def rival (intent : TransitionIntent) : TransitionIntent :=
  { intent with idempotencyKey := intent.idempotencyKey ++ "2" }

theorem ttl_default : (0 : Int) < 300 := by decide

/-- An intent is begun and left behind; its rival finds the claim expired. -/
def rivalRun (intent : TransitionIntent) : List WorldStep :=
  [.submit { projectId := intent.projectId, ttl_positive := ttl_default } .ordinary intent,
    .answer 0 (.returnsAt 0),
    .submit { projectId := intent.projectId, ttl_positive := ttl_default } .ordinary (rival intent),
    .answer 1 (.returnsAt 300)]

theorem rival_ne (intent : TransitionIntent) :
    intent.idempotencyKey ≠ (rival intent).idempotencyKey := by
  intro h
  have hlength := congrArg String.length h
  unfold rival at hlength
  simp at hlength

theorem submittedOrdinary_rivalRun (intent : TransitionIntent) :
    SubmittedOrdinary intent (rivalRun intent) := by
  intro s hs service lane heq
  subst heq
  unfold rivalRun at hs
  simp at hs
  rcases hs with ⟨_, rfl, _⟩ | ⟨_, rfl, _⟩ <;> rfl

/-- The journal once an intent was begun. -/
def begunJournal (intent : TransitionIntent) : TransitionJournal where
  requests := [{ transitionId := 0, intent := intent }]
  events :=
    [{ transitionId := 0, phase := .requested, reasonCode := intent.reasonCode }]
  claims :=
    [{ key := intent.key
       transitionId := 0
       claimToken := 0
       claimedAt := 0
       leaseExpiresAt := 300 }]
  issued := 1

theorem begin_empty (intent : TransitionIntent) : ({} : TransitionJournal).begin_ intent 0 300 =
      .ok (begunJournal intent, { transitionId := 0, claimToken := some 0 }) :=
  rfl

/-- The rival is handed the expired intent. -/
theorem begin_rival (intent : TransitionIntent) :
    exists j', (begunJournal intent).begin_ (rival intent) 300 300 = .ok (j',
        { transitionId := 1
          claimToken := some 1
          recovery := some
            { transitionId := 0
              intent := intent
              previousPhase := .requested } }) := by
  have hnone : ({ begunJournal intent with issued := 2 }
      : TransitionJournal).requestFor (rival intent) = none := by
    have hne := rival_ne intent
    unfold TransitionJournal.requestFor begunJournal
    simpa using fun _ => hne
  have hclaim : (({ begunJournal intent with issued := 2 }
      : TransitionJournal).register (rival intent)).claim? (rival intent).key = some
          { key := intent.key
            transitionId := 0
            claimToken := 0
            claimedAt := 0
            leaseExpiresAt := 300 } :=
    List.find?_cons_of_pos (by simp [rival, TransitionIntent.key])
  have hrequest : (({ begunJournal intent with issued := 2 }
      : TransitionJournal).register (rival intent)).request? 0 =
        some { transitionId := 0, intent := intent } := rfl
  have hlatest : (({ begunJournal intent with issued := 2 }
      : TransitionJournal).register (rival intent)).latestEvent 0 = some
          { transitionId := 0
            phase := .requested
            reasonCode := intent.reasonCode } := rfl
  unfold TransitionJournal.begin_
  simp only [show (begunJournal intent).issued + 1 = 2 from rfl, hnone]
  unfold TransitionJournal.acquire
  simp only [hclaim, hrequest, hlatest, Int.lt_irrefl, if_false,
    show 0 ≠ (begunJournal intent).requests.length by simp [begunJournal],
    show intent.key = (rival intent).key from rfl, ne_eq, not_true_eq_false,
    TransitionPhase.isFinal, Bool.false_eq_true]
  exact ⟨_, rfl⟩

theorem recovered_rival (intent : TransitionIntent) :
    exists e, (run World.step {} (rivalRun intent)).executions[1]? = some e ∧
      Recovered intent e := by
  rcases begin_rival intent with ⟨j', hrival⟩
  unfold rivalRun Resolution.returnsAt
  simp only [run_cons, run_nil, World.step, World.resolve, World.perform,
    World.setExecution, submission, execute, executeAdmitted, Program.perform,
    Saga.ask, bind, Program.bind, begin_empty, hrival,
    show (rival intent).projectId = intent.projectId from rfl, ne_eq,
    not_true_eq_false, if_false, List.nil_append, List.getElem?_cons_zero,
    List.set_cons_zero, List.cons_append, List.getElem?_cons_succ,
    List.set_cons_succ]
  refine ⟨_, rfl, rfl, ?_⟩
  cases recoveryLane intent with
  | ordinary => exact ⟨_, rfl⟩
  | compensation => exact ⟨_, rfl⟩

/--
An intent that is submitted to `execute` only stays in the ordinary lane, and is
written on a legal edge only, in every run exactly when it does not look like an
authorized recovery.
-/
theorem laneKept_iff (intent : TransitionIntent) :
    (forall (tracker : Tracker) (steps : List WorldStep), SubmittedOrdinary intent steps ->
      LaneKept intent (run World.step { tracker := tracker } steps)) <->
    isAuthorizedRecoveryIntent intent = false := by
  constructor
  · intro h
    rcases recovered_rival intent with ⟨e, hindex, hworking, key, hpending⟩
    have hkept := h [] (rivalRun intent) (submittedOrdinary_rivalRun intent)
    have hlane := hkept.lane 1 e _ _ hindex hpending hworking
    unfold recoveryLane at hlane
    split at hlane
    · cases hlane
    · rename_i hnot
      simpa using hnot
  · intro h tracker steps _
    have hsound := invariant_run (I := Sound) (fun x s hx => hx.step s) (Sound.start tracker) steps
    rw [← Traced.run_world { world := { tracker := tracker }
                             progress := fun _ => .starting } steps]
    exact hsound.laneKept h

/-- An audit intent that no lane of `execute` lets through. -/
def auditIntent : TransitionIntent :=
  { sampleIntent with
    authority := .auditor
    reasonCode := "audit.passed"
    requestedStatus := .done }

def auditRun : List WorldStep :=
  rivalRun auditIntent ++ [.answer 1 (.returnsAt 300), .answer 1 (.returnsAt 300)]

theorem auditIntent_writes : ¬ forall (intent : TransitionIntent) (tracker : Tracker)
      (steps : List WorldStep), SubmittedOrdinary intent steps ->
      LaneKept intent (run World.step { tracker := tracker } steps) := by
  intro h
  have hsubmitted : SubmittedOrdinary auditIntent auditRun := by
    intro s hs service lane heq
    rcases List.mem_append.mp hs with hrival | hrest
    · exact submittedOrdinary_rivalRun auditIntent s hrival service lane heq
    · subst heq
      simp at hrest
  have hkept := h auditIntent sampleTracker auditRun hsubmitted
  have hpending : ((run World.step { tracker := sampleTracker }
      auditRun).executions[1]?.bind Execution.pending) = some (.update auditIntent) := by
    decide +kernel
  rcases Option.bind_eq_some_iff.mp hpending with ⟨e, hindex, he⟩
  have hlegal := hkept.pending 1 e _ hindex he rfl
  revert hlegal
  decide +kernel

end TaskTransitions
end Oompah
