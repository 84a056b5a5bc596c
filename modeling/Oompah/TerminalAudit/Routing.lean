import Oompah.TerminalAudit.Handoff

/-!
# What the routing of a result reads

The status and the rejection a result is answered with do not depend on its texts, nor on
its auditor: only its identity, its verdict, its classification and the mark of a retry
exhaustion decide.
-/

namespace Oompah
namespace TerminalAudit

open Foundation
open TaskTransitions (Status)
open TaskEvaluation (TaskStatus statusText canonicalizeStatus)

/-- The status or the rejection of an answer. -/
abbrev Routing := Except PyError (Bool × Option String × Option ResultRejection)

def routing (answer : Except PyError ResultOutcome) : Routing :=
  answer.map fun outcome => (outcome.success, outcome.appliedStatus, outcome.reason)

/-- The result with other texts. -/
def AuditResult.retold (result : AuditResult) (message : String)
    (safeEvidence : Option (List (String × Value))) (auditor : Option ContributorIdentity)
    (questions instructions : List String) (origin : Option AuditAttemptOrigin) :
    AuditResult :=
  { result with
    message := message
    safeEvidence := safeEvidence
    auditor := auditor
    questions := questions
    instructions := instructions
    attemptOrigin := origin }

/-- Two results that differ in their texts. -/
structure RoutesAlike (result other : AuditResult) : Prop where
  retold : exists message safeEvidence auditor questions instructions origin,
    other = result.retold message safeEvidence auditor questions instructions origin
  attempted : result.attemptId.isSome = true
  escalates : isSafeRetryExhaustionEscalation other = isSafeRetryExhaustionEscalation result

/-- What an action decides beside its comment. -/
def RoutingAction.plain : RoutingAction -> RoutingAction
  | pass status _ => pass status ""
  | fail status _ => fail status ""
  | nonterminal reason => nonterminal reason
  | reject reason => reject reason

def Settlement.routing : Settlement -> Routing
  | .raised e => .error e
  | .answered outcome => .ok (outcome.success, outcome.appliedStatus, outcome.reason)
  | .retried reason _ => .ok (true, none, some reason)
  | .decided decision _ =>
    .ok (true, some (if decision.keepInValidation then statusText .inValidation
        else decision.targetStatus), none)

section Alike

variable {rt : AuditRuntime} {projectId taskId : String} {result other : AuditResult}
  {call : ApplyCall} {issue : Issue} {d : TerminalAuditMetadata}

variable (rt) in
theorem RoutesAlike.key (h : RoutesAlike result other) :
    resultIdempotencyKey rt other = resultIdempotencyKey rt result := by
  obtain ⟨message, safeEvidence, auditor, questions, instructions, origin, rfl⟩ := h.retold
  obtain ⟨attemptId, hattempt⟩ := Option.isSome_iff_exists.mp h.attempted
  unfold resultIdempotencyKey AuditResult.retold
  rw [hattempt]

variable (rt projectId taskId) in
theorem RoutesAlike.identity (h : RoutesAlike result other) :
    resultIdentity rt projectId taskId other = resultIdentity rt projectId taskId result := by
  have hkey := h.key rt
  obtain ⟨message, safeEvidence, auditor, questions, instructions, origin, rfl⟩ := h.retold
  unfold resultIdentity
  rw [hkey]
  rfl

variable (rt) in
theorem RoutesAlike.route (h : RoutesAlike result other) (previous : Option String) :
    (routeResult rt other previous).map RoutingAction.plain =
      (routeResult rt result previous).map RoutingAction.plain := by
  obtain ⟨message, safeEvidence, auditor, questions, instructions, origin, rfl⟩ := h.retold
  unfold routeResult AuditResult.retold
  cases result.verdict with
  | pass | needsHuman | error => simp only [Except.map, RoutingAction.plain]
  | fail =>
    cases result.failureClassification with
    | none => rfl
    | some classification =>
      dsimp only
      cases classifyFailureToStatus rt classification previous with
      | error e => simp only [bind, Except.bind, Except.map]
      | ok status =>
        cases status with
        | none => simp only [bind, Except.bind, Except.map, RoutingAction.plain]
        | some status =>
          change Except.map _ (if status = statusText .needsHuman then _ else _) =
            Except.map _ (if status = statusText .needsHuman then _ else _)
          split
          · simp only [Except.map, RoutingAction.plain]
          · simp only [Except.map, RoutingAction.plain]

/-- Two chains with the same records that pass a test, place by place. -/
theorem filter_mapIdx_congr {α β : Type} {p : β -> Bool} {f g : Nat -> α -> β} (l : List α)
    (h : forall i a, f i a = g i a ∨ (p (f i a) = false ∧ p (g i a) = false)) :
    (l.mapIdx f).filter p = (l.mapIdx g).filter p := by
  induction l generalizing f g with
  | nil => rfl
  | cons a rest ih =>
    have hrest := ih (f := fun i => f (i + 1)) (g := fun i => g (i + 1)) fun i b => h (i + 1) b
    rw [List.mapIdx_cons, List.mapIdx_cons]
    rcases h 0 a with heq | ⟨hf, hg⟩
    · rw [List.filter_cons, List.filter_cons, heq, hrest]
    · rw [List.filter_cons_of_neg (by rw [hf]; exact Bool.false_ne_true),
        List.filter_cons_of_neg (by rw [hg]; exact Bool.false_ne_true), hrest]

variable {index : Nat} {record : TerminalAuditRecord} {now : String}

theorem nextPending_attempt {chain : List TerminalAuditRecord} (attempt attempt' : AuditAttempt) :
    nextPending projectId taskId record (decidedChain projectId taskId chain index record
          (completedRecord record attempt now) now) =
      nextPending projectId taskId record (decidedChain projectId taskId chain index record
          (completedRecord record attempt' now) now) := by
  have hended : forall a : AuditAttempt,
      successorOf projectId taskId record (completedRecord record a now) = false := by
    intro a
    exact Bool.and_false _
  have hfilter : (decidedChain projectId taskId chain index record
      (completedRecord record attempt now) now).filter (successorOf projectId taskId record) =
      (decidedChain projectId taskId chain index record
        (completedRecord record attempt' now) now).filter
          (successorOf projectId taskId record) := by
    apply filter_mapIdx_congr
    intro i r
    by_cases hi : i = index
    · rw [if_pos hi, if_pos hi]
      exact .inr ⟨hended attempt, hended attempt'⟩
    · rw [if_neg hi, if_neg hi]
      exact .inl rfl
  unfold nextPending
  rw [hfilter]

theorem decideRecord_routing {advances : Bool} {status comment comment' : String} :
    (decideRecord rt projectId taskId other now d index record advances status comment').routing =
      (decideRecord rt projectId taskId result now d index record advances status
        comment).routing := by
  unfold decideRecord Settlement.routing
  dsimp only
  rw [nextPending_attempt
    (makeAttempt other now (resultIdentity rt projectId taskId other).attemptId)
    (makeAttempt result now (resultIdentity rt projectId taskId result).attemptId)]

@[simp] theorem routing_rejected (reason : ResultRejection) :
    Settlement.routing (.answered (rejected result reason)) = .ok (false, none, some reason) := rfl

@[simp] theorem retryResult_routing {reason : ResultRejection} :
    (retryResult rt projectId taskId result now d index record reason).routing =
      .ok (true, none, some reason) := rfl

/-- Settling asks of a result what it asks of one with other texts. -/
theorem RoutesAlike.settle (h : RoutesAlike call.result other) (issueIds : List String) :
    (settle rt projectId taskId issueIds { call with result := other } d).routing =
      (TerminalAudit.settle rt projectId taskId issueIds call d).routing := by
  have hidentity := h.identity rt projectId taskId
  have hroute := fun previous => h.route rt previous
  have haudit : other.auditId = call.result.auditId := by
    obtain ⟨message, safeEvidence, auditor, questions, instructions, origin, rfl⟩ := h.retold
    rfl
  have hadmits : forall chain record, admits rt projectId issueIds other chain record =
        admits rt projectId issueIds call.result chain record := by
    obtain ⟨message, safeEvidence, auditor, questions, instructions, origin, rfl⟩ := h.retold
    intro chain record
    rfl
  unfold TerminalAudit.settle
  dsimp only
  rw [hidentity, haudit]
  split
  · unfold Settlement.routing replayed
    rw [hidentity]
  · split
    · rename_i index record _ _
      rw [hadmits]
      split
      · simp only [routing_rejected]
      · have hrecord := hroute record.previousState
        cases hmine : routeResult rt call.result record.previousState with
        | error e =>
          rw [hmine] at hrecord
          cases hother : routeResult rt other record.previousState with
          | error e' =>
            rw [hother] at hrecord
            cases hrecord
            dsimp only
          | ok action =>
            rw [hother] at hrecord
            cases hrecord
        | ok action =>
          rw [hmine] at hrecord
          cases hother : routeResult rt other record.previousState with
          | error e =>
            rw [hother] at hrecord
            cases hrecord
          | ok action' =>
            rw [hother] at hrecord
            have hplain : action'.plain = action.plain := Except.ok.inj hrecord
            cases action with
            | pass status comment =>
              cases action' with
              | pass status' comment' =>
                cases hplain
                dsimp only
                split
                · simp only [routing_rejected]
                · exact decideRecord_routing
              | fail _ _ | nonterminal _ | reject _ => cases hplain
            | fail status comment =>
              cases action' with
              | fail status' comment' =>
                cases hplain
                dsimp only
                split
                · simp only [routing_rejected]
                · exact decideRecord_routing
              | pass _ _ | nonterminal _ | reject _ => cases hplain
            | nonterminal reason =>
              cases action' with
              | nonterminal reason' =>
                cases hplain
                dsimp only
                split
                · simp only [routing_rejected]
                · simp only [retryResult_routing]
              | pass _ _ | fail _ _ | reject _ => cases hplain
            | reject reason =>
              cases action' with
              | reject reason' =>
                cases hplain
                simp only [routing_rejected]
              | pass _ _ | fail _ _ | nonterminal _ => cases hplain
    · simp only [routing_rejected]

theorem applySettlement_routing (issueIds : List String) :
    routing (applySettlement rt projectId call issue issueIds d).1 =
      if d.quarantined then .ok (false, none, some .metadataQuarantined)
      else (TerminalAudit.settle rt projectId issue.identifier issueIds call d).routing := by
  unfold applySettlement
  split
  · rfl
  · cases TerminalAudit.settle rt projectId issue.identifier issueIds call d with
    | raised e => rfl
    | answered outcome => rfl
    | retried reason after => rfl
    | decided decision after => rfl

@[simp] theorem routing_refused (reason : ResultRejection) :
    TerminalAudit.routing (.ok (rejected result reason)) = .ok (false, none, some reason) := rfl

variable (rt projectId issue d) in
theorem RoutesAlike.current (h : RoutesAlike call.result other) :
    routing (applyCurrent rt projectId { call with result := other } issue d).1 =
      routing (applyCurrent rt projectId call issue d).1 := by
  have hfields : other.verdict = call.result.verdict ∧
      other.targetState = call.result.targetState := by
    obtain ⟨message, safeEvidence, auditor, questions, instructions, origin, rfl⟩ := h.retold
    exact ⟨rfl, rfl⟩
  unfold applyCurrent
  dsimp only
  rw [hfields.1, hfields.2]
  split
  · simp only [routing_refused]
  · rw [handoffRefused_false, handoffRefused_false]
    simp only [Bool.false_eq_true, if_false]
    rw [applySettlement_routing, applySettlement_routing, h.settle]

variable (rt projectId issue d) in
theorem RoutesAlike.outside (h : RoutesAlike call.result other) :
    routing (.ok (applyOutside rt projectId { call with result := other } issue d)) =
      routing (.ok (applyOutside rt projectId call issue d)) := by
  have hidentity := h.identity rt projectId issue.identifier
  have haudit : other.auditId = call.result.auditId := by
    obtain ⟨message, safeEvidence, auditor, questions, instructions, origin, rfl⟩ := h.retold
    rfl
  unfold applyOutside
  dsimp only
  rw [hidentity, haudit]
  split
  · unfold replayed TerminalAudit.routing
    simp only [Except.map, hidentity]
  · simp only [routing_refused]

variable (projectId taskId d) in
/-- The drift of a result is found in its identity alone. -/
theorem RoutesAlike.drifts (h : RoutesAlike result other) :
    expectedEvidence projectId other d taskId = expectedEvidence projectId result d taskId ∧
      driftedRecord projectId taskId other d = driftedRecord projectId taskId result d ∧
      other.auditId = result.auditId ∧
      other.evidenceFingerprint = result.evidenceFingerprint ∧
      other.targetState = result.targetState := by
  obtain ⟨message, safeEvidence, auditor, questions, instructions, origin, rfl⟩ := h.retold
  exact ⟨rfl, rfl, rfl, rfl, rfl⟩

variable (rt projectId issue d) in
theorem RoutesAlike.read (h : RoutesAlike call.result other) :
    routing (applyRead rt projectId { call with result := other } issue d).1 =
      routing (applyRead rt projectId call issue d).1 := by
  have hcurrent := h.current rt projectId issue d
  obtain ⟨hexpected, hstale, haudit, hevidence, htarget⟩ :=
    h.drifts projectId issue.identifier d
  unfold applyRead
  dsimp only
  rw [hexpected, hstale, haudit, hevidence, h.escalates]
  split
  · simp only [routing_refused]
  split
  · exact h.outside rt projectId issue d
  split
  · simp only [routing_refused]
  split
  · cases driftedRecord projectId issue.identifier call.result d with
    | error reason => simp only [routing_refused]
    | ok stale =>
      dsimp only
      split
      · exact hcurrent
      · split
        · simp only [routing_refused]
        · have hrequest : driftRequest projectId issue stale other =
              driftRequest projectId issue stale call.result := by
            unfold driftRequest
            rw [htarget]
          unfold applyDrifted
          dsimp only
          rw [hrequest]
          split
          · rfl
          · simp only [routing_refused]
  · exact hcurrent

/-- Two results that differ in their texts get the same status or the same rejection, on
every document and whatever the tracker answers. -/
theorem RoutesAlike.apply (h : RoutesAlike call.result other) (rt : AuditRuntime)
    (projectId : String) (d : TerminalAuditMetadata) :
    routing (applyAuditResult rt projectId { call with result := other } d).1 =
      routing (applyAuditResult rt projectId call d).1 := by
  have hlocked : forall issue : Issue,
      routing (applyResultLocked rt projectId { call with result := other } issue d).1 =
        routing (applyResultLocked rt projectId call issue d).1 := by
    intro issue
    unfold applyResultLocked
    dsimp only
    split
    · split
      · simp only [routing_refused]
      · split
        · simp only [routing_refused]
        · exact h.read rt projectId _ d
    · exact h.read rt projectId issue d
  have hmoved : forall issue : Issue,
      snapshotMoved rt projectId { call with result := other } issue d =
        snapshotMoved rt projectId call issue d := by
    intro issue
    obtain ⟨_, _, haudit, hevidence, _⟩ := h.drifts projectId issue.identifier d
    unfold snapshotMoved
    dsimp only
    rw [hevidence, h.escalates, haudit]
  unfold applyAuditResult
  dsimp only
  split
  · split
    · simp only [routing_refused]
    · split
      · simp only [routing_refused]
      · rw [hmoved]
        split
        · simp only [routing_refused]
        · exact hlocked _
  · exact hlocked _

end Alike
end TerminalAudit
end Oompah
