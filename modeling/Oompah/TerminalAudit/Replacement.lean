import Oompah.TerminalAudit.Drift

/-!
# Replacing a drifted audit

A result whose evidence has drifted is answered with `currentEvidenceMismatch` exactly when
it has staged its replacement.  The replacement keeps every target of the task when each
live record it withdraws has the authority of the drifted record, no landing revision, and
a target that the replacement stages.
-/

namespace Oompah
namespace TerminalAudit

open Foundation
open TaskTransitions (Status)
open TaskEvaluation (TaskStatus statusText canonicalizeStatus)
open ResultRejection (noConfusion)
open RoutingAction (noConfusion)

section Reasons

variable {rt : AuditRuntime} {projectId taskId : String} {result : AuditResult}

variable {reason : ResultRejection}

theorem admits_ne_mismatch {issueIds : List String} {chain : List TerminalAuditRecord}
    {record : TerminalAuditRecord}
    (h : admits rt projectId issueIds result chain record = some reason) :
    reason ≠ .currentEvidenceMismatch := by
  unfold admits at h
  dsimp only at h
  split_ifs at h
  all_goals
    cases h
    exact noConfusion

/-- What a routing leaves undecided is never put down to drifted evidence. -/
theorem routeResult_ne_mismatch {previous : Option String} {action : RoutingAction}
    (h : routeResult rt result previous = .ok action) :
    action ≠ .reject .currentEvidenceMismatch ∧ action ≠ .nonterminal .currentEvidenceMismatch := by
  unfold routeResult at h
  cases hverdict : result.verdict with
  | pass | needsHuman | error =>
    rw [hverdict] at h
    cases h
    exact ⟨noConfusion, by simp⟩
  | fail =>
    rw [hverdict] at h
    cases hclass : result.failureClassification with
    | none =>
      rw [hclass] at h
      cases h
      exact ⟨by simp, noConfusion⟩
    | some classification =>
      rw [hclass] at h
      dsimp only at h
      cases hstatus : classifyFailureToStatus rt classification previous with
      | error e =>
        rw [hstatus] at h
        cases h
      | ok status =>
        rw [hstatus] at h
        cases status with
        | none =>
          cases h
          refine ⟨noConfusion, ?_⟩
          split <;> simp
        | some status =>
          change (if status = statusText .needsHuman then _ else _) = _ at h
          split at h
          · cases h
            exact ⟨noConfusion, noConfusion⟩
          · cases h
            exact ⟨noConfusion, noConfusion⟩

/-- A settlement never names drifted evidence. -/
def Settlement.Undrifted : Settlement -> Prop
  | .answered outcome => outcome.reason ≠ some .currentEvidenceMismatch
  | .retried reason _ => reason ≠ .currentEvidenceMismatch
  | .raised _ | .decided _ _ => True

theorem rejected_undrifted (h : reason ≠ .currentEvidenceMismatch) :
    (rejected result reason).reason ≠ some .currentEvidenceMismatch := by
  unfold rejected
  simpa using h

variable (rt projectId taskId) in
theorem settle_undrifted (issueIds : List String) (call : ApplyCall) (d : TerminalAuditMetadata) :
    (settle rt projectId taskId issueIds call d).Undrifted := by
  unfold settle
  dsimp only
  split
  · intro hreason
    cases hreason
  · split
    · rename_i index record _ _
      split
      · rename_i reason hadmits
        exact rejected_undrifted (admits_ne_mismatch hadmits)
      · cases hroute : routeResult rt call.result record.previousState with
        | error e => trivial
        | ok action =>
          have hne := routeResult_ne_mismatch hroute
          cases action with
          | reject reason =>
            apply rejected_undrifted
            intro hreason
            exact hne.1 (congrArg RoutingAction.reject hreason)
          | nonterminal reason =>
            dsimp only
            split
            · exact rejected_undrifted noConfusion
            · intro hreason
              exact hne.2 (congrArg RoutingAction.nonterminal hreason)
          | pass status comment | fail status comment =>
            dsimp only
            split
            · exact rejected_undrifted noConfusion
            · trivial
    · apply rejected_undrifted
      split <;> exact noConfusion

/-- The document and the answer of a call that is not put down to drifted evidence. -/
def Applied.Undrifted (applied : Applied) : Prop :=
  forall outcome, applied.1 = .ok outcome -> outcome.reason ≠ some .currentEvidenceMismatch

variable {d : TerminalAuditMetadata}

theorem Applied.undrifted_rejected
    {writes : List TrackerWrite} (h : reason ≠ .currentEvidenceMismatch) :
    Applied.Undrifted (.ok (rejected result reason), d, writes) := by
  intro outcome houtcome
  cases houtcome
  exact rejected_undrifted h

variable (rt projectId) in
theorem applyCurrent_undrifted (call : ApplyCall) (issue : Issue) (d : TerminalAuditMetadata) :
    (applyCurrent rt projectId call issue d).Undrifted := by
  unfold applyCurrent
  dsimp only
  split
  · exact Applied.undrifted_rejected noConfusion
  · split
    · exact Applied.undrifted_rejected noConfusion
    · unfold applySettlement
      split
      · exact Applied.undrifted_rejected noConfusion
      · have hsettle := settle_undrifted rt projectId issue.identifier
          (issue.identifier :: (issue.id.filter (· ≠ "")).toList) call d
        intro outcome houtcome
        cases hcase : settle rt projectId issue.identifier
            (issue.identifier :: (issue.id.filter (· ≠ "")).toList) call d with
        | raised e =>
          rw [hcase] at houtcome
          cases houtcome
        | answered answer =>
          rw [hcase] at houtcome hsettle
          cases houtcome
          exact hsettle
        | retried reason d' =>
          rw [hcase] at houtcome hsettle
          cases houtcome
          intro hreason
          exact hsettle (Option.some.inj hreason)
        | decided decision d' =>
          rw [hcase] at houtcome
          cases houtcome
          intro hreason
          cases hreason

theorem driftedRecord_error (h : driftedRecord projectId taskId result d = .error reason) :
    reason ≠ .currentEvidenceMismatch := by
  unfold driftedRecord at h
  split at h
  · cases h
    exact noConfusion
  · split_ifs at h
    all_goals
      cases h
      exact noConfusion

end Reasons

/-!
# The replacement
-/

/-- The request that replaces a drifted audit, for a call that reads the task. -/
def replacementRequest (projectId : String) (call : ApplyCall) (d : TerminalAuditMetadata) :
    Option Request :=
  call.environment.lockedRead.bind fun issue =>
    match driftedRecord projectId issue.identifier call.result d with
    | .error _ => none
    | .ok stale => some (driftRequest projectId issue stale call.result)

section Replacement

variable {rt : AuditRuntime} {projectId : String} {call : ApplyCall}
  {d : TerminalAuditMetadata} {outcome : ResultOutcome}

variable (rt projectId call d) in
/-- A read that answers with drifted evidence has gone through the replacement. -/
theorem applyRead_cases (issue : Issue) : (applyRead rt projectId call issue d).Undrifted ∨
      (call.environment.detailReads = true ∧
        exists stale, driftedRecord projectId issue.identifier call.result d = .ok stale ∧
          applyRead rt projectId call issue d = applyDrifted rt projectId call issue stale d) := by
  have hcurrent := applyCurrent_undrifted rt projectId call issue d
  unfold applyRead
  dsimp only
  split
  · exact .inl (Applied.undrifted_rejected noConfusion)
  split
  · left
    intro outcome houtcome
    cases houtcome
    unfold applyOutside
    dsimp only
    split
    · intro hreason
      cases hreason
    · exact rejected_undrifted noConfusion
  split
  · exact .inl (Applied.undrifted_rejected noConfusion)
  split
  · rename_i hdrift
    rw [Bool.and_eq_true] at hdrift
    cases hstale : driftedRecord projectId issue.identifier call.result d with
    | error reason => exact .inl (Applied.undrifted_rejected (driftedRecord_error hstale))
    | ok stale =>
      dsimp only
      split
      · exact .inl hcurrent
      · split
        · exact .inl (Applied.undrifted_rejected noConfusion)
        · exact .inr ⟨hdrift.1, stale, rfl, rfl⟩
  · exact .inl hcurrent

variable {stale : TerminalAuditRecord}

/-- An answer of drifted evidence comes with the replacement. -/
theorem applyDrifted_mismatch {issue : Issue}
    (hout : (applyDrifted rt projectId call issue stale d).1 = .ok outcome)
    (hreason : outcome.reason = some .currentEvidenceMismatch) :
    (transitionLocked rt (driftRequest projectId issue stale call.result)
        call.environment d).1.success = true ∧
      (applyDrifted rt projectId call issue stale d).2.1 =
        (transitionLocked rt (driftRequest projectId issue stale call.result)
          call.environment d).2.1 := by
  unfold applyDrifted at hout ⊢
  dsimp only at hout ⊢
  split at hout
  · rename_i hsuccess
    rw [if_pos hsuccess]
    exact ⟨hsuccess, rfl⟩
  · cases hout
    cases hreason

theorem applyAuditResult_mismatch (hout : (applyAuditResult rt projectId call d).1 = .ok outcome)
    (hreason : outcome.reason = some .currentEvidenceMismatch) :
    exists q, replacementRequest projectId call d = some q ∧
      (transitionLocked rt q call.environment d).1.success = true ∧
      (applyAuditResult rt projectId call d).2.1 =
        (transitionLocked rt q call.environment d).2.1 := by
  have hlocked : forall issue : Issue,
      (applyResultLocked rt projectId call issue d).1 = .ok outcome ->
        exists q, replacementRequest projectId call d = some q ∧
          (transitionLocked rt q call.environment d).1.success = true ∧
          (applyResultLocked rt projectId call issue d).2.1 =
            (transitionLocked rt q call.environment d).2.1 := by
    intro issue hout
    unfold applyResultLocked at hout ⊢
    split at hout
    · rename_i hreads
      rw [if_pos hreads]
      cases hread : call.environment.lockedRead with
      | none =>
        rw [hread] at hout
        cases hout
        cases hreason
      | some read =>
        rw [hread] at hout
        dsimp only at hout ⊢
        split at hout
        · cases hout
          cases hreason
        · rename_i hsame
          rw [if_neg hsame]
          rcases applyRead_cases rt projectId call d read with
            hundrifted | ⟨_, stale, hstale, hread'⟩
          · exact absurd hreason (hundrifted outcome hout)
          · rw [hread'] at hout ⊢
            have hmismatch := applyDrifted_mismatch hout hreason
            refine ⟨driftRequest projectId read stale call.result, ?_, hmismatch⟩
            unfold replacementRequest
            rw [hread, Option.bind_some, hstale]
    · rename_i hreads
      rcases applyRead_cases rt projectId call d issue with hundrifted | ⟨hreads', _⟩
      · exact absurd hreason (hundrifted outcome hout)
      · exact absurd hreads' hreads
  unfold applyAuditResult at hout ⊢
  split at hout
  · rename_i hreads
    rw [if_pos hreads]
    split at hout
    · cases hout
      cases hreason
    · split at hout
      · cases hout
        cases hreason
      · rename_i howned
        rw [if_neg howned]
        split at hout
        · cases hout
          cases hreason
        · rename_i hmoved
          rw [if_neg hmoved]
          exact hlocked _ hout
  · rename_i hreads
    rw [if_neg hreads]
    exact hlocked _ hout

theorem driftedRecord_ok {taskId : String} {result : AuditResult}
    (h : driftedRecord projectId taskId result d = .ok stale) :
    stale ∈ d.pendingChain ∧ stale.ofTask projectId taskId = true := by
  unfold driftedRecord at h
  split at h
  · cases h
  · rename_i found hfound
    split_ifs at h with htask
    cases h
    rw [Bool.not_eq_true', Bool.not_eq_false] at htask
    exact ⟨List.mem_of_find?_eq_some hfound, htask⟩

theorem stored_mem (hstored : d.stored rt.table = d) {r : TerminalAuditRecord}
    (hr : r ∈ d.pendingChain) : r.stored rt.table = r := by
  have hchain : d.pendingChain.map (fun r => r.stored rt.table) = d.pendingChain :=
    congrArg TerminalAuditMetadata.pendingChain hstored
  rw [← hchain] at hr
  obtain ⟨old, _, rfl⟩ := List.mem_map.mp hr
  exact TerminalAuditRecord.stored_stored old

/-- The replacement names what a stored record names. -/
theorem replacementRequest_storable (hstored : d.stored rt.table = d) {q : Request}
    (hq : replacementRequest projectId call d = some q) :
    q.revalidateCompleted = true ∧ q.Storable rt.table := by
  obtain ⟨issue, _, hissue⟩ := Option.bind_eq_some_iff.mp hq
  cases hstale : driftedRecord projectId issue.identifier call.result d with
  | error reason =>
    rw [hstale] at hissue
    cases hissue
  | ok stale =>
    rw [hstale] at hissue
    cases hissue
    obtain ⟨hmem, htask⟩ := driftedRecord_ok hstale
    have hsame := stored_mem hstored hmem
    have hproject := congrArg TerminalAuditRecord.projectId hsame
    have htaskId := congrArg TerminalAuditRecord.taskId hsame
    have hbinding : stale.revision.binding.map (fun b => b.stored rt.table) =
        stale.revision.binding := congrArg (fun r => r.revision.binding) hsame
    unfold TerminalAuditRecord.ofTask at htask
    simp only [Bool.and_eq_true, decide_eq_true_eq] at htask
    refine ⟨rfl, ⟨?_, ?_, ?_, congrArg TerminalAuditRecord.workflowRevision hsame⟩⟩
    · change redactForStorage rt.table projectId = projectId
      rw [← htask.1]
      exact hproject
    · change redactForStorage rt.table issue.identifier = issue.identifier
      rw [← htask.2]
      exact htaskId
    · unfold driftRequest RevisionAuthority.stored
      simpa using hbinding

/-- A result that is answered with drifted evidence keeps the targets of the task exactly
when every live record that its replacement withdraws is staged again under its own
authority or has a live twin. -/
theorem driftedResult_keepsTargets_iff (hstored : d.stored rt.table = d)
    (hout : (applyAuditResult rt projectId call d).1 = .ok outcome)
    (hreason : outcome.reason = some .currentEvidenceMismatch) :
    exists q, replacementRequest projectId call d = some q ∧
      (KeepsTargets q.projectId q.issue.identifier q.evidence d.pendingChain
          (applyAuditResult rt projectId call d).2.1.pendingChain ↔
        q.keepsTargets rt d.pendingChain
          (redactForStorage rt.table (call.environment.freshIds 0)) = true) := by
  obtain ⟨q, hq, hsuccess, happlied⟩ := applyAuditResult_mismatch hout hreason
  obtain ⟨hrevalidate, hstorable⟩ := replacementRequest_storable hstored hq
  refine ⟨q, hq, ?_⟩
  rw [happlied, transitionLocked_chain hrevalidate hsuccess]
  exact keepsTargets_iff (fun r hr => stored_mem hstored hr) hstorable

end Replacement

/-!
# A Merged request that loses its second half
-/

/-- A runtime with ASCII tables that reads no time. -/
def sampleRuntime : AuditRuntime where
  text := .ascii
  table := asciiTable
  timestamp _ := none

def stagedEvidence : EvidenceFingerprint :=
  ⟨String.ofList (List.replicate 64 '0'), rfl⟩

def driftedEvidence : EvidenceFingerprint :=
  ⟨String.ofList (List.replicate 64 '1'), rfl⟩

def sampleIssue (state : String) (evidence : EvidenceFingerprint) : Issue where
  identifier := "T-1"
  projectId := some "p"
  state := some state
  evidence := evidence

/-- Every read shows the issue and every write is accepted. -/
def sampleEnvironment (issue : Issue) (first second : String) : Environment where
  detailReads := true
  refreshed := some issue
  lockedRead := some issue
  stagingRead := some issue
  now := "2026-01-01T00:00:00Z"
  freshIds n := if n = 0 then first else second

def sampleRequest (target : TargetState) : Request where
  projectId := "p"
  issue := sampleIssue "In Review" stagedEvidence
  target := target
  trigger := ⟨"oompah", none⟩
  evidence := stagedEvidence
  revision := ⟨none, none, fun h => h⟩
  workflowRevision := none

/-- The document of a task after its first request. -/
def requestedDocument (target : TargetState) : TerminalAuditMetadata :=
  (transitionLocked sampleRuntime (sampleRequest target)
    (sampleEnvironment (sampleIssue "In Review" stagedEvidence) "a0" "a1") {}).2.1

/-- The Done audit passes after the evidence of the task has moved. -/
def driftedCall : ApplyCall where
  currentIssue := sampleIssue "In Validation" driftedEvidence
  result :=
    { auditId := "a0", targetState := .done, evidenceFingerprint := stagedEvidence,
      verdict := .pass }
  environment :=
    sampleEnvironment (sampleIssue "In Validation" driftedEvidence) "b0" "b1"

theorem doneRequest_keepsTargets :
    exists q, replacementRequest "p" driftedCall (requestedDocument .done) = some q ∧
      (KeepsTargets q.projectId q.issue.identifier q.evidence (requestedDocument .done).pendingChain
          (applyAuditResult sampleRuntime "p" driftedCall
            (requestedDocument .done)).2.1.pendingChain ↔
        q.keepsTargets sampleRuntime (requestedDocument .done).pendingChain
          (redactForStorage asciiTable "b0") = true) :=
  driftedResult_keepsTargets_iff rfl rfl rfl

/-- The Merged half of a request is withdrawn and not staged again. -/
theorem mergedRequest_loses_merged : (exists outcome,
      (applyAuditResult sampleRuntime "p" driftedCall (requestedDocument .merged)).1 = .ok outcome ∧
        outcome.reason = some .currentEvidenceMismatch) ∧
      ¬ KeepsTargets "p" "T-1" driftedEvidence (requestedDocument .merged).pendingChain
        (applyAuditResult sampleRuntime "p" driftedCall
          (requestedDocument .merged)).2.1.pendingChain := by
  refine ⟨⟨_, rfl, rfl⟩, ?_⟩
  intro hkeeps
  obtain ⟨new, hnew⟩ := hkeeps 1 _ _ rfl rfl rfl rfl rfl
  have hnone : ((applyAuditResult sampleRuntime "p" driftedCall
      (requestedDocument .merged)).2.1.pendingChain.all fun r =>
        r.targetState ≠ .merged || !r.live) = true := rfl
  have hmerged := List.all_eq_true.mp hnone new hnew.mem
  rw [hnew.target, hnew.live] at hmerged
  cases hmerged

end TerminalAudit
end Oompah
