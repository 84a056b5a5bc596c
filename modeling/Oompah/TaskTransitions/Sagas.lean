import Oompah.TaskTransitions.Protocol

/-!
# The sagas keep to their protocol
-/

namespace Oompah
namespace TaskTransitions

open Foundation Saga
open Foundation.Program (Follows follows_bind)
open TransitionPhase (isFinal)

section Claimed

variable {service : TaskTransitionService} {c : Claimed}

/-- A saga of a claimed execution keeps to the protocol and ends as stated. -/
abbrev Keeps {α : Type} (service : TaskTransitionService) (c : Claimed)
    (saga : Saga α) (s : Stage) (post : Except Failure α -> Stage -> Prop) :
    Prop :=
  Program.Follows (claimedProtocol service c) saga s post

/-!
# Reads and events
-/

variable {r : Request} {s : Stage}

theorem keeps_ask {post : Except Failure (Answer r) -> Stage -> Prop}
    (hallowed : s.allows service c r)
    (hpost : forall answer, post answer (s.next service r answer)) :
    Keeps service c (ask r) s post := by
  apply Program.follows_perform hallowed
  intro answer s' hnext
  cases hnext
  exact hpost answer

theorem keeps_attempt {α : Type} {saga : Saga α}
    {post : Except Failure (Except Failure α) -> Stage -> Prop}
    (h : Keeps service c saga s (fun result s' =>
      match result with
      | .ok value => post (.ok (.ok value)) s'
      | .error failure =>
        if failure.raised.isException then post (.ok (.error failure)) s'
        else post (.error failure) s')) :
    Keeps service c (attempt saga) s post := by
  apply Program.follows_tryCatch
  apply follows_bind
  apply Follows.mono h
  intro result s' hresult
  cases result with
  | ok value => exact hresult
  | error failure =>
    show Follows _ (if failure.raised.isException then _ else _) _ _
    split
    · rename_i hexception
      simp only [hexception, if_true] at hresult
      exact hresult
    · rename_i hcancelled
      simp only [hcancelled] at hresult
      exact hresult

theorem keeps_attempt_ask {post : Except Failure (Except Failure (Answer r)) -> Stage -> Prop}
    (hallowed : s.allows service c r) (hok : forall value,
      post (.ok (.ok value)) (s.next service r (.ok value)))
    (hexception : forall failure, failure.raised.isException = true ->
      post (.ok (.error failure)) (s.next service r (.error failure)))
    (hcancelled : forall failure, failure.raised.isException = false ->
      post (.error failure) (s.next service r (.error failure))) :
    Keeps service c (attempt (ask r)) s post := by
  apply keeps_attempt
  apply keeps_ask hallowed
  intro answer
  cases answer with
  | ok value => exact hok value
  | error failure =>
    show if failure.raised.isException then _ else _
    split
    · rename_i hraised
      exact hexception failure hraised
    · rename_i hraised
      exact hcancelled failure (by simpa using hraised)

theorem keeps_tryFetch : Keeps service c (tryFetch service c.intent.taskId) .reading
      (fun result s' =>
        match result with
        | .ok (.ok found) => s' = .deciding found
        | .ok (.error _) => s' = .deciding none
        | .error _ => s' = .broken) := by
  apply follows_bind
  apply keeps_attempt_ask
  · exact rfl
  · intro found
    exact rfl
  · intro failure hraised
    exact if_pos hraised
  · intro failure hraised
    exact if_neg (by simp [hraised])

/-- The stages after the write was called. -/
def Stage.CallsMade : Stage -> Prop
  | attempted _ | faltered _ => True
  | _ => False

theorem next_fetch_callsMade (hs : s.CallsMade) {key : TaskKey}
    (answer : Except Failure (Option Issue)) :
    s.next service (.fetch key) answer =
      match answer with
      | .ok _ => s
      | .error failure => if failure.raised.isException then s else .broken := by
  cases s with
  | attempted staged => cases answer <;> rfl
  | faltered staged => cases answer <;> rfl
  | _ => cases hs

theorem keeps_fetchLatest (hs : s.CallsMade) :
    Keeps service c (fetchLatest service c.intent.taskId) s
      (fun result s' =>
        match result with
        | .ok _ => s' = s
        | .error _ => s' = .broken) := by
  apply follows_bind
  apply follows_bind
  apply keeps_attempt_ask
  · cases s <;> trivial
  · intro found
    exact next_fetch_callsMade hs _
  · intro failure hraised
    exact (next_fetch_callsMade hs _).trans (if_pos hraised)
  · intro failure hraised
    exact (next_fetch_callsMade hs _).trans (if_neg (by simp [hraised]))

/-- Where an event that could not be journaled leaves an execution. -/
def Stage.falter (failure : Failure) : Stage -> Stage
  | attempted staged | faltered staged =>
    if failure.raised.isException then faltered staged else broken
  | _ => broken

/-- Where a conclusion leaves an execution. -/
def ConcludedAt (s : Stage) (phase : TransitionPhase)
    (outcome : TransitionOutcome) (result : Except Failure TransitionOutcome)
    (s' : Stage) : Prop :=
  match result with
  | .ok value => value = outcome ∧ s' = .concluded phase
  | .error failure => s' = s.falter failure

variable {transitionId : Nat} {phase : TransitionPhase} {outcome : TransitionOutcome}

theorem keeps_conclude (hallowed : s.allows service c
      (.append transitionId phase outcome.reasonCode (some outcome))) (hphase : phase ≠ .applying) :
    Keeps service c (conclude transitionId phase outcome) s (ConcludedAt s phase outcome) := by
  apply follows_bind
  apply Program.follows_tryCatch
  apply keeps_ask hallowed
  intro answer
  cases answer with
  | ok value =>
    refine ⟨rfl, ?_⟩
    cases s with
    | deciding issue =>
      cases issue <;> cases phase <;> first
        | rfl
        | exact absurd rfl hphase
    | applying issue => rfl
    | attempted staged => rfl
    | faltered staged => rfl
    | reading | broken | concluded | settled => exact hallowed.elim
  | error failure =>
    show _ = _
    cases s with
    | deciding issue => cases issue <;> cases phase <;> rfl
    | applying issue => rfl
    | attempted staged => rfl
    | faltered staged => rfl
    | reading | broken | concluded | settled => exact hallowed.elim

/-!
# Conclusions
-/

variable {staged : Prop}

theorem concludes_of_disposition (hphase : phase ∉ [.requested, .waiting, .applying])
    (hretryable : outcome.retryable = !phase.isFinal) (hstaged : outcome.disposition ≠ .staged)
    (hrecovered : outcome.disposition ≠ .recovered) :
    Concludes c staged c.transitionId phase (some outcome) := by
  refine ⟨rfl, hphase, outcome, rfl, hretryable, ?_⟩
  intro hreports
  rcases hreports.right with h | h
  · exact absurd h hstaged
  · exact absurd h.left hrecovered

theorem concludes_rejection (staged : Prop) (reasonCode : String)
    (issue : Option Issue) (details : List (String × Detail)) :
    Concludes c staged c.transitionId .rejected
      (some (rejection c.transitionId c.intent reasonCode issue details).2) := by
  apply concludes_of_disposition <;> simp [rejection, outcomeOf, isFinal]

theorem concludes_retry (staged : Prop) (reasonCode : String)
    (issue : Option Issue) (details : List (String × Detail)) :
    Concludes c staged c.transitionId .retryScheduled
      (some (retry c.transitionId c.intent reasonCode issue details).2) := by
  apply concludes_of_disposition <;> simp [retry, outcomeOf, isFinal]

/-- The end of the body of a claimed execution. -/
def Ended (result : Except Failure TransitionOutcome) (s' : Stage) : Prop :=
  match result with
  | .ok outcome =>
    exists phase, s' = .concluded phase ∧ outcome.retryable = !phase.isFinal
  | .error _ => s' = .broken ∨ exists staged, s' = .faltered staged

theorem ConcludedAt.ended {s s' : Stage} {result : Except Failure TransitionOutcome}
    (hretryable : outcome.retryable = !phase.isFinal)
    (h : ConcludedAt s phase outcome result s') : Ended result s' := by
  cases result with
  | ok value =>
    refine ⟨phase, h.right, ?_⟩
    rw [h.left]
    exact hretryable
  | error failure =>
    rw [show s' = s.falter failure from h]
    unfold Stage.falter
    split
    · split
      · exact .inr ⟨_, rfl⟩
      · exact .inl rfl
    · split
      · exact .inr ⟨_, rfl⟩
      · exact .inl rfl
    · exact .inl rfl

theorem keeps_conclude_ended (hallowed : s.allows service c
      (.append transitionId phase outcome.reasonCode (some outcome))) (hphase : phase ≠ .applying)
    (hretryable : outcome.retryable = !phase.isFinal) :
    Keeps service c (conclude transitionId phase outcome) s Ended := by
  apply Follows.mono (keeps_conclude hallowed hphase)
  intro result s' h
  exact h.ended hretryable

theorem Concludes.retryable (h : Concludes c staged transitionId phase (some outcome)) :
    outcome.retryable = !phase.isFinal := by
  rcases h.outcome with ⟨o, heq, hretryable, _⟩
  cases heq
  exact hretryable

theorem Concludes.ne_applying {outcome : Option TransitionOutcome}
    (h : Concludes c staged transitionId phase outcome) : phase ≠ .applying := by
  intro heq
  exact h.concluding (by simp [heq])

theorem keeps_conclude_callsMade {staged : Bool} (hs : s = .attempted staged ∨ s = .faltered staged)
    (h : Concludes c (staged = true) c.transitionId phase (some outcome)) :
    Keeps service c (conclude c.transitionId phase outcome) s Ended := by
  apply keeps_conclude_ended _ h.ne_applying h.retryable
  rcases hs with rfl | rfl
  · exact h
  · exact h

/-!
# Writes
-/

theorem concludes_verifyPending (staged : Prop) (reasonCode : String)
    (issue : Option Issue) (auditId : Option String) :
    Concludes c staged c.transitionId .verifyPending
      (some { outcomeOf c.transitionId c.intent .retryable reasonCode issue with
        auditId := auditId
        retryable := true }) := by
  apply concludes_of_disposition <;> simp [outcomeOf, isFinal]

/-- A status that was written is not `In Validation` when the target is terminal. -/
theorem concludes_effectRecovered (staged : Prop) (issue : Option Issue) :
    Concludes c staged c.transitionId .recovered
      (some { outcomeOf c.transitionId c.intent .recovered
          "transition.effect_recovered" issue with
        appliedStatus := some c.intent.requestedStatus }) := by
  refine ⟨rfl, by simp, _, rfl, rfl, ?_⟩
  intro hreports
  rcases hreports.right with h | h
  · cases h
  · have hterminal := hreports.left
    rw [Option.some.inj h.right] at hterminal
    cases hterminal

theorem concludes_applied (staged : Prop) (issue : Option Issue) :
    Concludes c staged c.transitionId .applied
      (some { outcomeOf c.transitionId c.intent .applied "transition.applied"
          issue with
        appliedStatus := some c.intent.requestedStatus }) := by
  apply concludes_of_disposition <;> simp [outcomeOf, isFinal]

theorem concludes_staged (phase : TransitionPhase)
    (hphase : phase ∉ [.requested, .waiting, .applying])
    (outcome : TransitionOutcome)
    (hretryable : outcome.retryable = !phase.isFinal) :
    Concludes c (true = true) c.transitionId phase (some outcome) :=
  ⟨rfl, hphase, outcome, rfl, hretryable, fun _ => rfl⟩

variable {issue : Issue}

theorem keeps_stageTerminal (hterminal : c.intent.requestedStatus.isTerminalTarget = true) :
    Keeps service c (stageTerminal service c.transitionId c.intent issue)
      (.applying issue) Ended := by
  unfold stageTerminal
  split
  · have h := concludes_retry (c := c) False
      "transition.terminal_service_unavailable" (some issue) []
    exact keeps_conclude_ended h h.ne_applying h.retryable
  · apply follows_bind
    apply keeps_attempt_ask
    · exact ⟨rfl, hterminal⟩
    · intro staged
      apply follows_bind
      apply Follows.mono (keeps_fetchLatest (s := .attempted true) trivial)
      intro latest s' hlatest
      cases latest with
      | error failure => exact .inl hlatest
      | ok latest =>
        subst hlatest
        show Keeps service c (if _ then _ else _) _ Ended
        split
        · split
          rename_i phase outcome heq
          split at heq
          · cases heq
            exact keeps_conclude_callsMade (Or.inl rfl) (concludes_retry _ _ _ _)
          · cases heq
            exact keeps_conclude_callsMade (Or.inl rfl) (concludes_rejection _ _ _ _)
        · split
          · exact keeps_conclude_callsMade (Or.inl rfl) (concludes_verifyPending _ _ _ _)
          · exact keeps_conclude_callsMade (Or.inl rfl) (concludes_staged _ (by simp) _ rfl)
    · intro failure hraised
      rw [show Stage.next service (.applying issue) (.stage c.intent issue)
        (.error failure) = .attempted true from if_pos hraised]
      apply follows_bind
      apply Follows.mono (keeps_fetchLatest (s := .attempted true) trivial)
      intro latest s' hlatest
      cases latest with
      | error later => exact .inl hlatest
      | ok latest =>
        subst hlatest
        show Keeps service c (if _ then _ else _) _ Ended
        split
        · exact keeps_conclude_callsMade (Or.inl rfl) (concludes_staged _ (by simp) _ rfl)
        · exact keeps_conclude_callsMade (Or.inl rfl) (concludes_retry _ _ _ _)
    · intro failure hraised
      left
      exact if_neg (by simp [hraised])

/-- Where the commit of a lane leaves an execution. -/
def CommitEnded (result : Except Failure (Option TransitionOutcome)) (s' : Stage) : Prop :=
  match result with
  | .ok none => s' = .attempted false
  | .ok (some outcome) => Ended (.ok outcome) s'
  | .error failure =>
    if failure.raised.isException then
      s' = .attempted false ∨ s' = .faltered false
    else
      s' = .broken ∨ exists staged, s' = .faltered staged

theorem keeps_commitConclusion (result : CommitResult) :
    Keeps service c (commitConclusion c.transitionId c.intent issue result)
      (.attempted false) CommitEnded := by
  unfold commitConclusion
  split
  · exact rfl
  · rename_i conflict hconflict
    apply follows_bind
    have hconcludes : forall details, Concludes c (false = true) c.transitionId
          ((if result.retryable then retry else rejection) c.transitionId c.intent
            conflict (result.issue.or (some issue)) details).1
          (some ((if result.retryable then retry else rejection) c.transitionId
            c.intent conflict (result.issue.or (some issue)) details).2) := by
      intro details
      split
      · exact concludes_retry _ _ _ _
      · exact concludes_rejection _ _ _ _
    apply Follows.mono (keeps_conclude (s := .attempted false) (hconcludes _)
      (hconcludes _).ne_applying)
    intro value s' hvalue
    cases value with
    | ok value => exact hvalue.ended (hconcludes _).retryable
    | error failure =>
      rw [show s' = (Stage.attempted false).falter failure from hvalue]
      unfold Stage.falter
      show if failure.raised.isException then _ else _
      split
      · exact .inr rfl
      · exact .inl rfl

theorem keeps_commitCall {f : Answer r -> Saga (Option TransitionOutcome)}
    (hallowed : (Stage.applying issue).allows service c r) (hok : forall value,
      (Stage.applying issue).next service r (.ok value) = .attempted false)
    (herror : forall failure, (Stage.applying issue).next service r (.error failure) =
        if failure.raised.isException then .attempted false else .broken)
    (hf : forall value, Keeps service c (f value) (.attempted false) CommitEnded) :
    Keeps service c (ask r >>= f) (.applying issue) CommitEnded := by
  apply follows_bind
  apply keeps_ask hallowed
  intro answer
  cases answer with
  | ok value =>
    rw [hok]
    exact hf value
  | error failure =>
    rw [herror]
    show if failure.raised.isException then _ else _
    split
    · exact .inl rfl
    · exact .inl rfl

theorem keeps_commitUpdate (hlane : c.WritesDirectly) (hfenced : Fenced c.intent issue) :
    Keeps service c (commitUpdate service c.transitionId c.intent issue)
      (.applying issue) CommitEnded := by
  unfold commitUpdate
  split
  · apply keeps_commitCall
    · exact ⟨rfl, hlane⟩
    · exact fun _ => rfl
    · exact fun _ => rfl
    · exact keeps_commitConclusion
  · split
    · apply keeps_commitCall
      · exact ⟨rfl, hlane⟩
      · exact fun _ => rfl
      · exact fun _ => rfl
      · exact keeps_commitConclusion
    · apply keeps_commitCall
      · exact ⟨rfl, hlane, hfenced⟩
      · exact fun _ => rfl
      · exact fun _ => rfl
      · exact fun _ => rfl

theorem keeps_compensateUpdate (hlane : c.WritesDirectly) (hfenced : Fenced c.intent issue) :
    Keeps service c (compensateUpdate c.intent) (.applying issue) CommitEnded := by
  apply keeps_commitCall
  · exact ⟨rfl, hlane, hfenced⟩
  · exact fun _ => rfl
  · exact fun _ => rfl
  · exact fun _ => rfl

theorem keeps_verifyRaised (failure : Failure) (hs : s = .attempted false ∨ s = .faltered false) :
    Keeps service c (do
        let latest <- fetchLatest service c.intent.taskId
        if latest.bind Issue.state = some c.intent.requestedStatus then
          conclude c.transitionId .recovered { outcomeOf c.transitionId c.intent .recovered
                "transition.effect_recovered" latest with
              appliedStatus := some c.intent.requestedStatus }
        else
          let (phase, outcome) := retry c.transitionId c.intent
            "transition.tracker_write_failed" (latest.or (some issue))
            [("error_type", .text failure.raised.typeName)]
          conclude c.transitionId phase outcome)
      s Ended := by
  have hmade : s.CallsMade := by rcases hs with rfl | rfl <;> trivial
  apply follows_bind
  apply Follows.mono (keeps_fetchLatest hmade)
  intro latest s' hlatest
  cases latest with
  | error later => exact .inl hlatest
  | ok latest =>
    subst hlatest
    show Keeps service c (if _ then _ else _) _ Ended
    split
    · exact keeps_conclude_callsMade hs (concludes_effectRecovered _ _)
    · exact keeps_conclude_callsMade hs (concludes_retry _ _ _ _)

theorem keeps_verifyCommit {commit : Saga (Option TransitionOutcome)}
    (hcommit : Keeps service c commit (.applying issue) CommitEnded) :
    Keeps service c (verifyCommit service c.transitionId c.intent issue commit)
      (.applying issue) Ended := by
  apply follows_bind
  apply keeps_attempt
  apply Follows.mono hcommit
  intro result s' hresult
  cases result with
  | ok outcome =>
    cases outcome with
    | some outcome => exact hresult
    | none =>
      rw [show s' = .attempted false from hresult]
      apply follows_bind
      apply Follows.mono (keeps_fetchLatest (s := .attempted false) trivial)
      intro latest s' hlatest
      cases latest with
      | error later => exact .inl hlatest
      | ok latest =>
        subst hlatest
        show Keeps service c (if _ then _ else _) _ Ended
        split
        · exact keeps_conclude_callsMade (Or.inl rfl) (concludes_verifyPending _ _ _ _)
        · exact keeps_conclude_callsMade (Or.inl rfl) (concludes_applied _ _)
  | error failure =>
    have hended : if failure.raised.isException then
        s' = .attempted false ∨ s' = .faltered false
      else s' = .broken ∨ exists staged, s' = .faltered staged := hresult
    show if failure.raised.isException then _ else _
    split
    · rename_i hraised
      rw [if_pos hraised] at hended
      apply Program.follows_tryCatch
      apply Follows.mono (keeps_verifyRaised failure hended)
      intro later s'' hlater
      cases later with
      | ok outcome => exact hlater
      | error later => exact hlater
    · rename_i hraised
      rw [if_neg hraised] at hended
      exact hended

/-!
# Bodies
-/

theorem recoversStage_none (phase : TransitionPhase) (reasonCode : String)
    (outcome : Option TransitionOutcome) :
    RecoversStage c none phase reasonCode outcome := by
  intro found hfound
  cases hfound

theorem recoversStage_of_not (h : ¬ c.StageRecoverable issue)
    (phase : TransitionPhase) (reasonCode : String) (outcome : Option TransitionOutcome) :
    RecoversStage c (some issue) phase reasonCode outcome := by
  intro found hfound hrecoverable
  cases hfound
  exact absurd hrecoverable h

theorem keeps_withIssue {proceed : Issue -> Saga TransitionOutcome}
    (h : forall issue, Keeps service c (proceed issue) (.deciding (some issue)) Ended) :
    Keeps service c (withIssue service c.transitionId c.intent proceed) .reading
      Ended := by
  apply follows_bind
  apply Follows.mono keeps_tryFetch
  intro result s' hresult
  cases result with
  | error failure => exact .inl hresult
  | ok found =>
    cases found with
    | error failure =>
      rw [show s' = .deciding none from hresult]
      have hretry := concludes_retry (c := c) (c.FindsStage none)
        "transition.tracker_read_failed" none
        [("error_type", .text failure.raised.typeName)]
      exact keeps_conclude_ended ⟨Or.inr hretry, recoversStage_none _ _ _⟩ hretry.ne_applying
        hretry.retryable
    | ok found =>
      rw [show s' = .deciding found from hresult]
      cases found with
      | none =>
        have hreject := concludes_rejection (c := c) (c.FindsStage none)
          "transition.task_missing" none []
        exact keeps_conclude_ended ⟨Or.inr hreject, recoversStage_none _ _ _⟩ hreject.ne_applying
          hreject.retryable
      | some issue => exact h issue

theorem keeps_decide (hconcludes : Concludes c (c.FindsStage (some issue)) c.transitionId phase
      (some outcome)) (hrecovers : RecoversStage c (some issue) phase outcome.reasonCode
      (some outcome)) :
    Keeps service c (conclude c.transitionId phase outcome) (.deciding (some issue)) Ended :=
  keeps_conclude_ended ⟨Or.inr hconcludes, hrecovers⟩ hconcludes.ne_applying hconcludes.retryable

theorem keeps_applying {saga : Saga TransitionOutcome}
    (hfenced : Fenced c.intent issue) (hproject : OfProject c.intent issue)
    (hstage : ¬ c.StageRecoverable issue) (h : Keeps service c saga (.applying issue) Ended) :
    Keeps service c (do
        ask (.append c.transitionId .applying c.intent.reasonCode none)
        saga)
      (.deciding (some issue)) Ended := by
  apply follows_bind
  apply keeps_ask
  · exact ⟨Or.inl ⟨rfl, rfl, rfl, issue, rfl, hfenced, hproject⟩, recoversStage_of_not hstage _ _ _⟩
  · intro answer
    cases answer with
    | ok value => exact h
    | error failure => exact .inl rfl

theorem concludes_alreadyApplied (staged : Prop) (issue : Issue) :
    Concludes c staged c.transitionId .recovered
      (some { outcomeOf c.transitionId c.intent .alreadyApplied
          "transition.already_applied" (some issue) with
        appliedStatus := some c.intent.requestedStatus }) := by
  apply concludes_of_disposition <;> simp [outcomeOf, isFinal]

theorem not_stageRecoverable_of_mismatch
    (h : issue.projectId ≠ "" ∧ issue.projectId ≠ c.intent.projectId) :
    ¬ c.StageRecoverable issue := by
  intro hrecoverable
  rcases hrecoverable.right.right.right with hempty | heq
  · exact h.left hempty
  · exact h.right heq

theorem not_stageRecoverable_of_applied (h : issue.state = some c.intent.requestedStatus) :
    ¬ c.StageRecoverable issue := by
  intro hrecoverable
  have hstate := hrecoverable.right.right.left
  have hterminal := hrecoverable.right.left
  rw [h] at hstate
  rw [Option.some.inj hstate] at hterminal
  cases hterminal

theorem fenceConclusion_some (hlane : c.lane = .ordinary)
    (h : fenceConclusion c.transitionId c.intent c.previousPhase issue = some (phase, outcome)) :
    Concludes c (c.FindsStage (some issue)) c.transitionId phase (some outcome) ∧
      RecoversStage c (some issue) phase outcome.reasonCode (some outcome) := by
  unfold fenceConclusion at h
  split at h
  · rename_i hmismatch
    cases h
    exact ⟨concludes_rejection _ _ _ _,
      recoversStage_of_not (not_stageRecoverable_of_mismatch hmismatch) _ _ _⟩
  · rename_i hproject
    split at h
    · rename_i happlied
      cases h
      exact ⟨concludes_alreadyApplied _ issue,
        recoversStage_of_not (not_stageRecoverable_of_applied happlied) _ _ _⟩
    · split at h
      · rename_i hstaged
        cases h
        constructor
        · refine ⟨rfl, by simp, _, rfl, rfl, ?_⟩
          intro _
          refine ⟨issue, rfl, ⟨hlane, hstaged.right.right⟩, hstaged.left, hstaged.right.left, ?_⟩
          by_cases hempty : issue.projectId = ""
          · exact .inl hempty
          · exact .inr (not_not.mp (fun hne => hproject ⟨hempty, hne⟩))
        · intro found hfound hrecoverable
          exact ⟨rfl, rfl, _, rfl, rfl, rfl⟩
      · rename_i hstaged
        have hnot : ¬ c.StageRecoverable issue := by
          intro hrecoverable
          exact hstaged ⟨hrecoverable.right.left, hrecoverable.right.right.left,
            hrecoverable.left.right⟩
        split at h
        · cases h
          exact ⟨concludes_rejection _ _ _ _, recoversStage_of_not hnot _ _ _⟩
        · split at h
          · cases h
            exact ⟨concludes_rejection _ _ _ _, recoversStage_of_not hnot _ _ _⟩
          · split at h
            · cases h
              exact ⟨concludes_rejection _ _ _ _, recoversStage_of_not hnot _ _ _⟩
            · split at h
              · cases h
                exact ⟨concludes_rejection _ _ _ _, recoversStage_of_not hnot _ _ _⟩
              · cases h

theorem fenceConclusion_none
    (h : fenceConclusion c.transitionId c.intent c.previousPhase issue = none) :
    OfProject c.intent issue ∧ Fenced c.intent issue ∧ ¬ c.StageRecoverable issue ∧
      (c.intent.requestedStatus.isTerminalTarget = true ∨ LegalEdge c.intent) := by
  unfold fenceConclusion at h
  split at h
  · cases h
  · rename_i hproject
    split at h
    · cases h
    · split at h
      · cases h
      · rename_i hstaged
        split at h
        · cases h
        · rename_i hstatus
          split at h
          · cases h
          · rename_i hversion
            split at h
            · cases h
            · rename_i hvalidation
              split at h
              · cases h
              · rename_i hedge
                refine ⟨?_, ⟨not_not.mp hstatus, not_not.mp hversion⟩, ?_, ?_⟩
                · by_cases hempty : issue.projectId = ""
                  · exact .inl hempty
                  · exact .inr (not_not.mp (fun hne => hproject ⟨hempty, hne⟩))
                · intro hrecoverable
                  exact hstaged ⟨hrecoverable.right.left,
                    hrecoverable.right.right.left, hrecoverable.left.right⟩
                · cases hterminal : c.intent.requestedStatus.isTerminalTarget with
                  | true => exact .inl rfl
                  | false =>
                    refine .inr ⟨?_, hvalidation, hterminal⟩
                    intro hnone
                    exact hedge ⟨hnone, Or.inl hterminal⟩

theorem not_stageRecoverable_of_compensation (hlane : c.lane = .compensation)
    (issue : Issue) : ¬ c.StageRecoverable issue := by
  intro hrecoverable
  have hordinary := hrecoverable.left.left
  rw [hlane] at hordinary
  cases hordinary

theorem compensationConclusion_some (h : compensationConclusion c.transitionId c.intent issue =
      some (phase, outcome)) :
    Concludes c (c.FindsStage (some issue)) c.transitionId phase (some outcome) := by
  unfold compensationConclusion at h
  split at h
  · cases h
    exact concludes_rejection _ _ _ _
  · split at h
    · cases h
      exact concludes_alreadyApplied _ issue
    · split at h
      · cases h
        exact concludes_rejection _ _ _ _
      · split at h
        · cases h
          exact concludes_rejection _ _ _ _
        · cases h

theorem compensationConclusion_none
    (h : compensationConclusion c.transitionId c.intent issue = none) :
    OfProject c.intent issue ∧ Fenced c.intent issue := by
  unfold compensationConclusion at h
  split at h
  · cases h
  · rename_i hproject
    split at h
    · cases h
    · split at h
      · cases h
      · rename_i hstatus
        split at h
        · cases h
        · rename_i hversion
          refine ⟨?_, not_not.mp hstatus, not_not.mp hversion⟩
          by_cases hempty : issue.projectId = ""
          · exact .inl hempty
          · exact .inr (not_not.mp (fun hne => hproject ⟨hempty, hne⟩))

theorem evidenceConclusion_some (h : evidenceConclusion c.transitionId c.intent issue =
      some (phase, outcome)) :
    Concludes c (c.FindsStage (some issue)) c.transitionId phase (some outcome) := by
  have hrejected : forall {condition : Prop} [Decidable condition]
      {reasonCode : String} {details : List (String × Detail)}
      {rest : Option Conclusion},
      (if condition then some (rejection c.transitionId c.intent reasonCode
        (some issue) details) else rest) = some (phase, outcome) ->
      Concludes c (c.FindsStage (some issue)) c.transitionId phase (some outcome) ∨
        rest = some (phase, outcome) := by
    intro condition _ reasonCode details rest hif
    split at hif
    · cases hif
      exact .inl (concludes_rejection _ _ _ _)
    · exact .inr hif
  rcases hrejected h with hdone | h
  · exact hdone
  rcases hrejected h with hdone | h
  · exact hdone
  rcases hrejected h with hdone | h
  · exact hdone
  rcases hrejected h with hdone | h
  · exact hdone
  rcases hrejected h with hdone | h
  · exact hdone
  rcases hrejected h with hdone | h
  · exact hdone
  rcases hrejected h with hdone | h
  · exact hdone
  · cases h

theorem keeps_rollupConclusion (hstage : ¬ c.StageRecoverable issue) :
    Keeps service c (rollupConclusion c.transitionId c.intent issue) (.deciding (some issue))
      (fun result s' =>
        match result with
        | .ok none => s' = .deciding (some issue)
        | .ok (some (phase, outcome)) =>
          s' = .deciding (some issue) ∧
            Concludes c (c.FindsStage (some issue)) c.transitionId phase (some outcome)
        | .error _ => s' = .broken) := by
  unfold rollupConclusion
  split
  · exact rfl
  · split
    · exact ⟨rfl, concludes_rejection _ _ _ _⟩
    · apply follows_bind
      apply keeps_attempt_ask
      · intro found hfound
        cases hfound
        exact hstage
      · intro children
        cases children with
        | nil => exact ⟨rfl, concludes_rejection _ _ _ _⟩
        | cons child rest =>
          show Keeps service c (if _ then _ else _) _ _
          split
          · exact ⟨rfl, concludes_rejection _ _ _ _⟩
          · exact rfl
      · intro failure hraised
        exact ⟨if_pos hraised, concludes_retry _ _ _ _⟩
      · intro failure hraised
        exact if_neg (by simp [hraised])

theorem keeps_executeBody (hlane : c.lane = .ordinary) : Keeps service c
      (executeBody service c.intent c.transitionId c.previousPhase) .reading
      Ended := by
  apply keeps_withIssue
  intro issue
  split
  · rename_i phase outcome hconclusion
    rcases fenceConclusion_some hlane hconclusion with ⟨hconcludes, hrecovers⟩
    exact keeps_decide hconcludes hrecovers
  · rename_i hnone
    rcases fenceConclusion_none hnone with ⟨hproject, hfenced, hstage, hedge⟩
    apply follows_bind
    apply Follows.mono (keeps_rollupConclusion hstage)
    intro result s' hresult
    cases result with
    | error failure => exact .inl hresult
    | ok conclusion =>
      cases conclusion with
      | some conclusion =>
        rw [hresult.left]
        exact keeps_decide hresult.right (recoversStage_of_not hstage _ _ _)
      | none =>
        rw [show s' = .deciding (some issue) from hresult]
        show Keeps service c (applyIntent service c.transitionId c.intent issue) _ Ended
        unfold applyIntent
        split
        · rename_i phase outcome hconclusion
          exact keeps_decide (evidenceConclusion_some hconclusion)
            (recoversStage_of_not hstage _ _ _)
        · apply keeps_applying hfenced hproject hstage
          split
          · rename_i hterminal
            exact keeps_stageTerminal hterminal
          · rename_i hterminal
            apply keeps_verifyCommit
            apply keeps_commitUpdate _ hfenced
            unfold Claimed.WritesDirectly
            rw [hlane]
            exact hedge.resolve_left hterminal

theorem keeps_compensateBody (hlane : c.lane = .compensation)
    (hauthorized : isAuthorizedRecoveryIntent c.intent = true) :
    Keeps service c (compensateBody service c.intent c.transitionId) .reading
      Ended := by
  apply keeps_withIssue
  intro issue
  have hstage := not_stageRecoverable_of_compensation hlane issue
  split
  · rename_i phase outcome hconclusion
    exact keeps_decide (compensationConclusion_some hconclusion) (recoversStage_of_not hstage _ _ _)
  · rename_i hnone
    rcases compensationConclusion_none hnone with ⟨hproject, hfenced⟩
    apply keeps_applying hfenced hproject hstage
    apply keeps_verifyCommit
    apply keeps_compensateUpdate _ hfenced
    unfold Claimed.WritesDirectly
    rw [hlane]
    exact hauthorized

/-!
# Claimed executions
-/

theorem keeps_settleClaim {outcome : Option TransitionOutcome}
    (hrelease : ¬ (c.retain = true ∧ (outcome.any (·.retryable)) = true) ->
      s.allows service c (.release c.intent.key c.claimToken))
    (hexpire : c.retain = true -> (outcome.any (·.retryable)) = true ->
      s.allows service c (.expireForRetry c.intent.key c.claimToken)) :
    Keeps service c (settleClaim c.intent.key c.claimToken c.retain outcome) s
      (fun _ s' => s' = .settled) := by
  unfold settleClaim
  split
  · rename_i hretain
    apply follows_bind
    apply keeps_ask (hexpire hretain.left hretain.right)
    intro answer
    have hsettled : s.next service
        (.expireForRetry c.intent.key c.claimToken) answer = .settled := by
      cases s <;> cases answer <;> rfl
    rw [hsettled]
    cases answer with
    | error failure => exact rfl
    | ok retained => cases retained <;> exact rfl
  · rename_i hretain
    apply follows_bind
    apply keeps_ask (hrelease hretain)
    intro answer
    have hsettled : s.next service (.release c.intent.key c.claimToken) answer = .settled := by
      cases s <;> cases answer <;> rfl
    rw [hsettled]
    cases answer with
    | error failure => exact rfl
    | ok deleted => exact rfl

theorem keeps_withClaim {body : Saga TransitionOutcome}
    (hbody : Keeps service c body .reading Ended) :
    Keeps service c (withClaim c.intent.key c.claimToken c.retain body) .reading
      (fun _ s' => s' = .settled) := by
  apply follows_bind
  apply Program.follows_tryCatch
  apply Follows.mono hbody
  intro result s' hresult
  cases result with
  | ok outcome =>
    rcases hresult with ⟨phase, hstage, hretryable⟩
    subst hstage
    apply follows_bind
    apply Follows.mono (keeps_settleClaim (s := .concluded phase) ?_ ?_)
    · intro settled s'' hsettled
      cases settled with
      | ok _ => exact hsettled
      | error failure => exact hsettled
    · intro hretain
      refine ⟨rfl, rfl, ?_⟩
      intro hkept
      by_contra hphase
      apply hretain
      refine ⟨hkept, ?_⟩
      simp only [Option.any_some, hretryable]
      simpa using hphase
    · intro _ hkept
      refine ⟨rfl, rfl, ?_⟩
      simp only [Option.any_some, hretryable] at hkept
      simpa using hkept
  | error failure =>
    apply follows_bind
    have hleaving : forall r : Request, (r = .release c.intent.key c.claimToken ∨
          r = .expireForRetry c.intent.key c.claimToken) ->
        s'.allows service c r := by
      intro r hr
      rcases hresult with hbroken | ⟨staged, hfaltered⟩
      · subst hbroken
        rcases hr with rfl | rfl <;> exact ⟨rfl, rfl⟩
      · subst hfaltered
        rcases hr with rfl | rfl <;> exact ⟨rfl, rfl⟩
    apply Follows.mono (keeps_settleClaim (fun _ => hleaving _ (Or.inl rfl))
        (fun _ _ => hleaving _ (Or.inr rfl)))
    intro settled s'' hsettled
    cases settled with
    | ok _ => exact hsettled
    | error later => exact hsettled

theorem keeps_runClaimed (hauthorized : c.lane = .compensation ->
      isAuthorizedRecoveryIntent c.intent = true) :
    Keeps service c (runClaimed service c.lane c.intent c.transitionId c.claimToken
        c.previousPhase c.retain)
      .reading (fun _ s' => s' = .settled) := by
  apply keeps_withClaim
  cases hlane : c.lane with
  | ordinary => exact keeps_executeBody hlane
  | compensation => exact keeps_compensateBody hlane (hauthorized hlane)

end Claimed

/-!
# Whole executions
-/

section Execution

variable {service : TaskTransitionService} {lane : Lane}
  {intent : TransitionIntent}

variable {saga : Saga TransitionOutcome} {post : Except Failure TransitionOutcome -> Stage -> Prop}

theorem follows_running {c : Claimed} {s : Stage} (h : Keeps service c saga s post) :
    saga.Follows (executionProtocol service lane intent) (.running c s)
      (fun result σ => exists s', σ = .running c s' ∧ post result s') := by
  apply Follows.simulate (R := fun s σ => σ = Progress.running c s) _ _ h rfl
  · intro s σ r hσ hallowed
    subst hσ
    exact hallowed
  · intro s σ r answer σ' hσ hallowed hnext
    subst hσ
    exact ⟨s.next service r answer, rfl, hnext⟩

theorem follows_recovering {c : Claimed} {waiting : Nat} {s : Stage}
    (h : Keeps service c saga s post) :
    saga.Follows (executionProtocol service lane intent) (.recovering c s waiting)
      (fun result σ => exists s', σ = .recovering c s' waiting ∧ post result s') := by
  apply Follows.simulate (R := fun s σ => σ = Progress.recovering c s waiting) _ _ h rfl
  · intro s σ r hσ hallowed
    subst hσ
    cases s <;> first | exact hallowed | exact hallowed.elim
  · intro s σ r answer σ' hσ hallowed hnext
    subst hσ
    refine ⟨s.next service r answer, rfl, ?_⟩
    rw [show σ' = _ from hnext]
    cases s <;> first | rfl | exact hallowed.elim

theorem follows_runBegun (hauthorized : lane = .compensation ->
      isAuthorizedRecoveryIntent intent = true) (begun : BeginResult) :
    (runBegun service lane intent begun).Follows (executionProtocol service lane intent)
      (Progress.ofBegun lane intent begun) (fun _ σ => σ.Finished) := by
  unfold runBegun Progress.ofBegun
  cases begun.replay with
  | some outcome => exact trivial
  | none =>
    cases begun.waiting with
    | some outcome => exact trivial
    | none =>
      cases begun.claimToken with
      | none => exact trivial
      | some claimToken =>
        apply Follows.mono (follows_running (keeps_runClaimed (c :=
            { transitionId := begun.transitionId
              claimToken := claimToken
              intent := intent
              lane := lane
              previousPhase := begun.previousPhase
              retain := false }) hauthorized))
        intro result σ hσ
        rcases hσ with ⟨s, rfl, rfl⟩
        exact trivial

theorem follows_ask {r : Request} {σ : Progress}
    {post : Except Failure (Answer r) -> Progress -> Prop}
    (hallowed : σ.allows service lane intent r)
    (hpost : forall answer, post answer (σ.next service lane intent r answer)) :
    (ask r).Follows (executionProtocol service lane intent) σ post := by
  apply Program.follows_perform hallowed
  intro answer σ' hnext
  cases hnext
  exact hpost answer

theorem follows_executeAdmitted (hadmits : lane.Admits service intent) :
    (executeAdmitted service lane intent).Follows (executionProtocol service lane intent) .starting
      (fun _ σ => σ.Finished) := by
  apply follows_bind
  refine follows_ask (σ := .starting) ⟨rfl, rfl, hadmits⟩ ?_
  intro answer
  cases answer with
  | error failure => exact trivial
  | ok begun =>
    show Follows _ _ (Progress.ofFirstBegun lane intent begun) _
    unfold Progress.ofFirstBegun
    cases begun.recovery with
    | none => exact follows_runBegun hadmits.authority begun
    | some owed =>
      cases begun.claimToken with
      | none => exact trivial
      | some claimToken =>
        apply follows_bind
        apply Follows.mono (follows_recovering (keeps_runClaimed (c :=
            { transitionId := owed.transitionId
              claimToken := claimToken
              intent := owed.intent
              lane := recoveryLane owed.intent
              previousPhase := some owed.previousPhase
              retain := true }) ?_))
        · intro result σ hσ
          rcases hσ with ⟨s, rfl, rfl⟩
          cases result with
          | error failure => exact trivial
          | ok recovery =>
            show Follows _ (if recovery.retryable then _ else _) _ _
            split
            · apply follows_bind
              apply follows_ask
              · exact ⟨rfl, rfl, _, rfl, rfl⟩
              intro noted
              cases noted with
              | ok _ => exact trivial
              | error failure => exact trivial
            · apply follows_bind
              apply follows_ask
              · exact ⟨rfl, rfl, hadmits⟩
              intro again
              cases again with
              | error failure => exact trivial
              | ok begun => exact follows_runBegun hadmits.authority begun
        · intro hlane
          by_contra hnot
          simp only [recoveryLane, hnot] at hlane
          cases hlane

/-- What a lane asks of the intents submitted to it. -/
theorem follows_submission (service : TaskTransitionService) (lane : Lane)
    (intent : TransitionIntent) :
    (submission service lane intent).Follows (executionProtocol service lane intent) .starting
      (fun _ σ => σ.Finished) := by
  cases lane with
  | ordinary =>
    show Follows _ (execute service intent) _ _
    unfold execute
    split
    · exact trivial
    · rename_i hproject
      apply follows_executeAdmitted
      constructor
      · exact not_not.mp hproject
      · intro hlane
        cases hlane
  | compensation =>
    show Follows _ (recoverAuthorized service intent) _ _
    unfold recoverAuthorized
    split
    · exact trivial
    · rename_i hauthorized
      split
      · exact trivial
      · rename_i hproject
        apply follows_executeAdmitted
        constructor
        · exact not_not.mp hproject
        · intro _
          simpa using hauthorized

end Execution
end TaskTransitions
end Oompah
