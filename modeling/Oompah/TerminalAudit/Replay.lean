import Oompah.Foundation.TransitionSystem
import Oompah.TerminalAudit.Effects
import Oompah.TerminalAudit.Handoff

/-!
# Submitting a result again

A run of calls on one task, together with what each applied result was first answered.
A result submitted again is answered from the log of applied results; its status is read
back from the stored intents, and from the record when there is none under its key.
-/

namespace Oompah
namespace TerminalAudit

open Foundation
open TaskTransitions (Status)
open TaskEvaluation (TaskStatus statusText canonicalizeStatus)
open TerminalAuditMetadata (lastAppliedStatus markIntentApplied maxAppliedResults recordIntent
  resultIntents sameIntent stored_stored)

/-- The document of a task, and the applied results with the status that the first
application answered. -/
structure ReplayState where
  document : TerminalAuditMetadata
  applied : List (AppliedAttempt × Option String) := []

/-- The answer applies a result. -/
def appliedStatus? : Except PyError ResultOutcome -> Option (Option String)
  | .ok outcome =>
    if outcome.success && !outcome.idempotent then some outcome.appliedStatus else none
  | .error _ => none

/-- A call, and the result it applies, if it does. -/
def submit (rt : AuditRuntime) (projectId : String) (s : ReplayState) (call : ApplyCall) :
    ReplayState :=
  let applied := applyAuditResult rt projectId call s.document
  { document := applied.2.1
    applied := s.applied ++
      ((appliedStatus? applied.1).map fun status =>
        (resultIdentity rt projectId call.currentIssue.identifier call.result, status)).toList }

/-!
# The invariant of a run
-/

/-- What of an intent is read back. -/
def intentKey (row : ResultIntent) : AppliedAttempt × String :=
  (⟨row.projectId, row.taskId, row.auditId, row.attemptId⟩, row.status)

section Invariant

variable (rt : AuditRuntime) (projectId taskId : String)

/-- What is stored of the intent of an applied result. -/
def recordedKey (identity : AppliedAttempt) (status : String) : AppliedAttempt × String :=
  ({ identity with attemptId := redactForStorage rt.table identity.attemptId },
    redactForStorage rt.table status)

structure Replayable (s : ReplayState) : Prop where
  stored : s.document.stored rt.table = s.document
  log : s.applied.length ≤ TerminalAuditMetadata.maxAppliedResults ->
    s.document.appliedResults = s.applied.map Prod.fst ∧ (s.applied.map Prod.fst).Nodup
  owned : forall identity status, (identity, status) ∈ s.applied ->
    identity.projectId = projectId ∧ identity.taskId = taskId ∧
      exists r, s.document.pendingChain.find? (ownedBy projectId taskId identity.auditId) = some r ∧
        (status.isSome = true -> r.live = false)
  recorded : forall identity status, (identity, some status) ∈ s.applied -> strip status ≠ "" ∧
      recordedKey rt identity status ∈ s.document.resultIntents.map intentKey
  intents : forall key, key ∈ s.document.resultIntents.map intentKey ->
    key.1.projectId = projectId -> key.1.taskId = taskId ->
      exists identity status, (identity, some status) ∈ s.applied ∧
        key = recordedKey rt identity status
  once : forall identity identity' status status',
    (identity, some status) ∈ s.applied -> (identity', some status') ∈ s.applied ->
      identity.auditId = identity'.auditId -> identity = identity' ∧ status = status'

end Invariant

section Steps

variable {rt : AuditRuntime} {projectId taskId : String} {s : ReplayState} {call : ApplyCall}
  {d after : TerminalAuditMetadata}

variable {chain : List TerminalAuditRecord}

theorem keep_follows {q : Request} {now : String}
    (r : TerminalAuditRecord) : Follows r (q.keep rt chain now r) := by
  have hsupersede : Follows r r.supersede := ⟨rfl, rfl, rfl, rfl, fun h => by cases h⟩
  unfold Request.keep
  split
  · dsimp only
    split
    · split
      · exact hsupersede.trans (supersedeAt_follows _ now)
      · exact supersedeAt_follows r now
    · split
      · exact hsupersede
      · exact Follows.refl r
  · split
    · exact hsupersede
    · exact Follows.refl r

/-- A replacement leaves the ledgers, and the records follow. -/
theorem transitionLocked_follows {q : Request} {env : Environment}
    (hq : q.revalidateCompleted = true) (hstored : d.stored rt.table = d) :
    (transitionLocked rt q env d).2.1.stored rt.table = (transitionLocked rt q env d).2.1 ∧
      (transitionLocked rt q env d).2.1.appliedResults = d.appliedResults ∧
      (transitionLocked rt q env d).2.1.resultIntents = d.resultIntents ∧
      ChainFollows d.pendingChain (transitionLocked rt q env d).2.1.pendingChain := by
  have hintents : d.resultIntents.map (fun i => i.stored rt.table) = d.resultIntents :=
    congrArg resultIntents hstored
  have hchain : ChainFollows d.pendingChain
      (d.pendingChain.map (q.keep rt d.pendingChain env.now)) := ChainFollows.map keep_follows
  have hrecords : forall r, r ∈ d.pendingChain -> r.stored rt.table = r :=
    fun r hr => stored_mem hstored hr
  unfold transitionLocked
  cases q.stagingProjection env with
  | error reason => exact ⟨hstored, rfl, rfl, ChainFollows.refl _⟩
  | ok projection =>
    dsimp only
    split
    · exact ⟨hstored, rfl, rfl, ChainFollows.refl _⟩
    · rcases stage_revalidated env d hq with ⟨_, hstage⟩ | ⟨_, result, hstage⟩
      · rw [hstage]
        exact ⟨stored_stored _, rfl, hintents, (hchain.append _).stored hrecords⟩
      · rw [hstage]
        exact ⟨stored_stored _, rfl, hintents, hchain.stored hrecords⟩

variable {identity : AppliedAttempt} {status : Option String}

theorem Replayable.owned_follow (h : Replayable rt projectId taskId s)
    (hfollows : ChainFollows s.document.pendingChain chain)
    (hmem : (identity, status) ∈ s.applied) :
    identity.projectId = projectId ∧ identity.taskId = taskId ∧
      exists r, chain.find? (ownedBy projectId taskId identity.auditId) = some r ∧
        (status.isSome = true -> r.live = false) := by
  obtain ⟨hproject, htask, r, hr, hended⟩ := h.owned identity status hmem
  obtain ⟨new, hnew, hsame⟩ := hfollows.find hr
  exact ⟨hproject, htask, new, hnew, fun hsome => hsame.ended (hended hsome)⟩

/-- A step that applies nothing keeps the invariant when the records follow. -/
theorem Replayable.follow (h : Replayable rt projectId taskId s)
    (hstored : after.stored rt.table = after)
    (hlog : after.appliedResults = s.document.appliedResults)
    (hintents : after.resultIntents = s.document.resultIntents)
    (hfollows : ChainFollows s.document.pendingChain after.pendingChain) :
    Replayable rt projectId taskId ⟨after, s.applied⟩ where
  stored := hstored
  log hlength := by
    change after.appliedResults = _ ∧ _
    rw [hlog]
    exact h.log hlength
  owned _ _ hmem := h.owned_follow hfollows hmem
  recorded identity status hmem := by
    change _ ∧ _ ∈ after.resultIntents.map intentKey
    rw [hintents]
    exact h.recorded identity status hmem
  intents key hkey := by
    change key ∈ after.resultIntents.map intentKey at hkey
    rw [hintents] at hkey
    exact h.intents key hkey
  once := h.once

/-- The log with one more result, while nothing is dropped from it. -/
theorem Replayable.log_snoc (h : Replayable rt projectId taskId s)
    (hnew : identity ∉ s.document.appliedResults)
    (hlog : after.appliedResults = s.document.recordApplied identity)
    (hlength : (s.applied ++ [(identity, status)]).length ≤ maxAppliedResults) :
    after.appliedResults = (s.applied ++ [(identity, status)]).map Prod.fst ∧
      ((s.applied ++ [(identity, status)]).map Prod.fst).Nodup := by
  rw [List.length_append, List.length_singleton] at hlength
  obtain ⟨hbefore, hnodup⟩ := h.log (by omega)
  have hlengthLog : (s.document.appliedResults ++ [identity]).length ≤
      maxAppliedResults := by
    rw [hbefore, List.length_append, List.length_map, List.length_singleton]
    exact hlength
  constructor
  · rw [hlog]
    unfold TerminalAuditMetadata.recordApplied
    rw [if_neg hnew, if_neg (Nat.not_lt.mpr hlengthLog), hbefore, List.map_append]
    rfl
  · rw [List.map_append, List.nodup_append]
    refine ⟨hnodup, List.nodup_singleton _, ?_⟩
    intro a ha b hb
    rw [List.map_singleton, List.mem_singleton] at hb
    rw [hb]
    rintro rfl
    rw [hbefore] at hnew
    exact hnew ha

variable {result : AuditResult} {record : TerminalAuditRecord}

theorem Replayable.retry (h : Replayable rt projectId taskId s)
    (hstored : after.stored rt.table = after)
    (hrecord : s.document.pendingChain.find? (ownedBy projectId taskId result.auditId) =
      some record)
    (hnew : resultIdentity rt projectId taskId result ∉ s.document.appliedResults)
    (hlog : after.appliedResults =
      s.document.recordApplied (resultIdentity rt projectId taskId result))
    (hintents : after.resultIntents = s.document.resultIntents)
    (hfollows : ChainFollows s.document.pendingChain after.pendingChain) :
    Replayable rt projectId taskId
      ⟨after, s.applied ++ [(resultIdentity rt projectId taskId result, none)]⟩ where
  stored := hstored
  log hlength := h.log_snoc hnew hlog hlength
  owned identity status hmem := by
    rcases List.mem_append.mp hmem with hmem | hmem
    · exact h.owned_follow hfollows hmem
    · cases List.mem_singleton.mp hmem
      obtain ⟨new, hfound, _⟩ := hfollows.find hrecord
      exact ⟨rfl, rfl, new, hfound, fun hsome => by cases hsome⟩
  recorded identity status hmem := by
    change _ ∧ _ ∈ after.resultIntents.map intentKey
    rw [hintents]
    rcases List.mem_append.mp hmem with hmem | hmem
    · exact h.recorded identity status hmem
    · cases List.mem_singleton.mp hmem
  intents key hkey hproject htask := by
    change key ∈ after.resultIntents.map intentKey at hkey
    rw [hintents] at hkey
    obtain ⟨identity, status, hmem, hrow⟩ := h.intents key hkey hproject htask
    exact ⟨identity, status, List.mem_append_left _ hmem, hrow⟩
  once identity identity' status status' hmem hmem' := by
    rcases List.mem_append.mp hmem with hmem | hmem
    · rcases List.mem_append.mp hmem' with hmem' | hmem'
      · exact h.once identity identity' status status' hmem hmem'
      · cases List.mem_singleton.mp hmem'
    · cases List.mem_singleton.mp hmem

/-- An audit whose record is live has had no terminal result. -/
theorem Replayable.not_ended (h : Replayable rt projectId taskId s) {status auditId : String}
    (hmem : (identity, some status) ∈ s.applied) (haudit : identity.auditId = auditId)
    (hrecord : s.document.pendingChain.find? (ownedBy projectId taskId auditId) = some record) :
    record.live = false := by
  obtain ⟨_, _, r, hr, hended⟩ := h.owned identity (some status) hmem
  rw [haudit, hrecord] at hr
  cases hr
  exact hended rfl

theorem Replayable.decided (h : Replayable rt projectId taskId s)
    {status : String} (hstored : after.stored rt.table = after)
    {record completed : TerminalAuditRecord}
    (hrecord : s.document.pendingChain.find? (ownedBy projectId taskId result.auditId) =
      some record)
    (hlive : record.live = true)
    (hnew : resultIdentity rt projectId taskId result ∉ s.document.appliedResults)
    (hlog : after.appliedResults =
      s.document.recordApplied (resultIdentity rt projectId taskId result))
    (hfollows : ChainFollows s.document.pendingChain after.pendingChain)
    (hcompleted : after.pendingChain.find? (ownedBy projectId taskId result.auditId) =
      some completed)
    (hended : completed.live = false) (hstatus : strip status ≠ "")
    (hintents : after.resultIntents.map intentKey = s.document.resultIntents.map intentKey ++
        [recordedKey rt (resultIdentity rt projectId taskId result) status]) :
    Replayable rt projectId taskId
      ⟨after, s.applied ++ [(resultIdentity rt projectId taskId result, some status)]⟩ where
  stored := hstored
  log hlength := h.log_snoc hnew hlog hlength
  owned identity status hmem := by
    rcases List.mem_append.mp hmem with hmem | hmem
    · exact h.owned_follow hfollows hmem
    · cases List.mem_singleton.mp hmem
      exact ⟨rfl, rfl, completed, hcompleted, fun _ => hended⟩
  recorded identity status hmem := by
    change _ ∧ _ ∈ after.resultIntents.map intentKey
    rw [hintents]
    rcases List.mem_append.mp hmem with hmem | hmem
    · obtain ⟨hblank, hrow⟩ := h.recorded identity status hmem
      exact ⟨hblank, List.mem_append_left _ hrow⟩
    · cases List.mem_singleton.mp hmem
      exact ⟨hstatus, List.mem_append_right _ (List.mem_singleton_self _)⟩
  intents key hkey hproject htask := by
    change key ∈ after.resultIntents.map intentKey at hkey
    rw [hintents] at hkey
    rcases List.mem_append.mp hkey with hkey | hkey
    · obtain ⟨identity, status, hmem, hrow⟩ := h.intents key hkey hproject htask
      exact ⟨identity, status, List.mem_append_left _ hmem, hrow⟩
    · exact ⟨_, _, List.mem_append_right _ (List.mem_singleton_self _), List.mem_singleton.mp hkey⟩
  once identity identity' status status' hmem hmem' haudit := by
    rcases List.mem_append.mp hmem with hmem | hmem
    · rcases List.mem_append.mp hmem' with hmem' | hmem'
      · exact h.once identity identity' status status' hmem hmem' haudit
      · cases List.mem_singleton.mp hmem'
        rw [h.not_ended hmem haudit hrecord] at hlive
        cases hlive
    · cases List.mem_singleton.mp hmem
      rcases List.mem_append.mp hmem' with hmem' | hmem'
      · rw [h.not_ended hmem' haudit.symm hrecord] at hlive
        cases hlive
      · cases List.mem_singleton.mp hmem'
        exact ⟨rfl, rfl⟩

/-- The intent of a decided result is a row of its own. -/
theorem Replayable.recordIntent_keys (h : Replayable rt projectId taskId s)
    {status : String} {intent : ResultIntent}
    (hrecord : s.document.pendingChain.find? (ownedBy projectId taskId result.auditId) =
      some record)
    (hlive : record.live = true) (hstatus : strip status ≠ "")
    (hintent : IntentFor rt projectId taskId result status intent) :
    ((recordIntent s.document.resultIntents intent).map fun i => i.stored rt.table).map intentKey =
      s.document.resultIntents.map intentKey ++
        [recordedKey rt (resultIdentity rt projectId taskId result) status] := by
  have hne : intent.status ≠ "" := by
    rw [hintent.status]
    intro hempty
    rw [hempty] at hstatus
    exact hstatus rfl
  have hnone : s.document.resultIntents.findIdx? (fun row => sameIntent row intent) = none := by
    rw [List.findIdx?_eq_none_iff]
    intro row hrow
    by_contra hsame
    rw [Bool.not_eq_false] at hsame
    unfold sameIntent at hsame
    simp only [Bool.and_eq_true, decide_eq_true_eq] at hsame
    obtain ⟨identity, status', hmem, hkey⟩ :=
      h.intents (intentKey row) (List.mem_map_of_mem hrow)
        (hsame.1.1.1.trans hintent.projectId) (hsame.1.1.2.trans hintent.taskId)
    have haudit : identity.auditId = result.auditId := by
      have hauditKey := congrArg (fun key => key.1.auditId) hkey
      change row.auditId = identity.auditId at hauditKey
      rw [← hauditKey, hsame.1.2, hintent.auditId]
    rw [h.not_ended hmem haudit hrecord] at hlive
    cases hlive
  have hsame := stored_mem h.stored (List.mem_of_find?_eq_some hrecord)
  have howned := (List.find?_eq_some_iff_getElem.mp hrecord).1
  unfold ownedBy TerminalAuditRecord.ofTask at howned
  simp only [Bool.and_eq_true, decide_eq_true_eq] at howned
  have hrows : s.document.resultIntents.map (fun i => i.stored rt.table) =
      s.document.resultIntents := congrArg resultIntents h.stored
  unfold recordIntent
  rw [if_neg hne, hnone]
  rw [List.map_append, hrows, List.map_append]
  congr 1
  have hauditId : redactForStorage rt.table result.auditId = result.auditId := by
    rw [← howned.1]
    exact congrArg TerminalAuditRecord.auditId hsame
  have hprojectId : redactForStorage rt.table projectId = projectId := by
    rw [← howned.2.1]
    exact congrArg TerminalAuditRecord.projectId hsame
  have htaskId : redactForStorage rt.table taskId = taskId := by
    rw [← howned.2.2]
    exact congrArg TerminalAuditRecord.taskId hsame
  unfold intentKey ResultIntent.stored recordedKey resultIdentity
  simp only [List.map_cons, List.map_nil, hintent.projectId, hintent.taskId, hintent.auditId,
    hintent.attemptId, hintent.status, hauditId, hprojectId, htaskId]

theorem markIntentApplied_keys (rows : List ResultIntent) (identity : AppliedAttempt) :
    (markIntentApplied rows identity).map intentKey = rows.map intentKey := by
  unfold markIntentApplied
  rw [List.map_map]
  apply List.map_congr_left
  intro row _
  rw [Function.comp]
  split <;> rfl

variable (projectId call) in
/-- The acknowledgement of a status write changes no more than the marks of the intents. -/
theorem finish_document (issue : Issue) (decision : Decided) (hstored : d.stored rt.table = d) :
    (finish rt projectId call issue decision d).2.1.stored rt.table =
        (finish rt projectId call issue decision d).2.1 ∧
      (finish rt projectId call issue decision d).2.1.pendingChain = d.pendingChain ∧
      (finish rt projectId call issue decision d).2.1.appliedResults = d.appliedResults ∧
      (finish rt projectId call issue decision d).2.1.resultIntents.map intentKey =
        d.resultIntents.map intentKey := by
  unfold finish
  dsimp only
  split
  · have hchain : d.pendingChain.map (fun r => r.stored rt.table) = d.pendingChain :=
      congrArg TerminalAuditMetadata.pendingChain hstored
    refine ⟨stored_stored _, hchain, rfl, ?_⟩
    have hrows : d.resultIntents.map (fun i => i.stored rt.table) = d.resultIntents :=
      congrArg resultIntents hstored
    have hmark : (markIntentApplied d.resultIntents
          (resultIdentity rt projectId issue.identifier call.result)).map
            (fun i => i.stored rt.table) =
        markIntentApplied d.resultIntents
          (resultIdentity rt projectId issue.identifier call.result) := by
      unfold markIntentApplied
      rw [List.map_map]
      apply List.map_congr_left
      intro row hrow
      have hrow' : row.stored rt.table = row := by
        rw [← hrows] at hrow
        obtain ⟨old, _, rfl⟩ := List.mem_map.mp hrow
        exact ResultIntent.stored_stored old
      rw [Function.comp]
      split
      · exact congrArg (fun r : ResultIntent => { r with applied := true }) hrow'
      · exact hrow'
    change ((markIntentApplied d.resultIntents
        (resultIdentity rt projectId issue.identifier call.result)).map
          fun i => i.stored rt.table).map intentKey = _
    rw [hmark, markIntentApplied_keys]
  · exact ⟨hstored, rfl, rfl, rfl⟩

theorem appliedStatus?_refused {outcome : ResultOutcome} (h : outcome.success = false) :
    appliedStatus? (.ok outcome) = none := by
  unfold appliedStatus?
  simp only [h, Bool.false_and, Bool.false_eq_true, if_false]

variable {answer : Except PyError ResultOutcome} {writes : List TrackerWrite}

theorem submit_of_unapplied
    (happly : applyAuditResult rt projectId call s.document = (answer, after, writes))
    (hanswer : appliedStatus? answer = none) :
    submit rt projectId s call = ⟨after, s.applied⟩ := by
  unfold submit
  rw [happly]
  dsimp only
  rw [hanswer, Option.map_none, Option.toList_none, List.append_nil]

theorem submit_of_applied
    (happly : applyAuditResult rt projectId call s.document = (answer, after, writes))
    (hanswer : appliedStatus? answer = some status) :
    submit rt projectId s call = ⟨after, s.applied ++
        [(resultIdentity rt projectId call.currentIssue.identifier call.result, status)]⟩ := by
  unfold submit
  rw [happly]
  dsimp only
  rw [hanswer]
  rfl

theorem Replayable.submit (h : Replayable rt projectId taskId s)
    (htask : call.currentIssue.identifier = taskId) :
    Replayable rt projectId taskId (TerminalAudit.submit rt projectId s call) := by
  have heffect := applyAuditResult_effect projectId call h.stored
  rw [htask] at heffect
  generalize happly : applyAuditResult rt projectId call s.document = applied at heffect
  cases heffect with
  | refused houtcome =>
    rw [submit_of_unapplied happly (appliedStatus?_refused houtcome)]
    exact h
  | raised e =>
    rw [submit_of_unapplied happly rfl]
    exact h
  | replayed _ _ =>
    rw [submit_of_unapplied happly rfl]
    exact h
  | replaced hq houtcome =>
    rw [submit_of_unapplied happly (appliedStatus?_refused houtcome)]
    obtain ⟨hstored, hlog, hintents, hfollows⟩ := transitionLocked_follows hq h.stored
    exact h.follow hstored hlog hintents hfollows
  | retried hsettle =>
    rw [submit_of_applied happly rfl, htask]
    cases hsettle with
    | retried hrecord hlive hnew hfollows hlog hintents =>
      have hrows : (s.document.resultIntents.map fun i => i.stored rt.table) =
          s.document.resultIntents :=
        congrArg resultIntents h.stored
      rw [← hintents] at hrows
      exact h.retry (stored_stored _) hrecord hnew hlog
        (hrows.trans hintents) (hfollows.stored fun r hr => stored_mem h.stored hr)
  | decided hissue hsettle =>
    rename_i issue decision after
    obtain ⟨hstored, hchain, hlog', hkeys⟩ := finish_document projectId call issue decision
      (stored_stored (t := rt.table) after)
    have hsubmit : TerminalAudit.submit rt projectId s call =
        ⟨(finish rt projectId call issue decision (after.stored rt.table)).2.1,
          s.applied ++ [(resultIdentity rt projectId taskId call.result,
            some decision.status)]⟩ := by
      rw [← htask]
      exact submit_of_applied happly rfl
    rw [hsubmit]
    cases hsettle with
    | decided hrecord hlive hnew hfollows hlog hcompleted hended hintents hintent hstatus =>
      have hfollows' : ChainFollows s.document.pendingChain (finish rt projectId call issue decision
            (after.stored rt.table)).2.1.pendingChain := by
        rw [hchain]
        exact hfollows.stored fun r hr => stored_mem h.stored hr
      have hfound := hfollows.find_stored (fun r hr => stored_mem h.stored hr) hrecord hcompleted
      have hstoredChain : (finish rt projectId call issue decision
          (after.stored rt.table)).2.1.pendingChain =
            after.pendingChain.map fun r => r.stored rt.table := hchain
      rw [← hstoredChain] at hfound
      have hrows : (after.resultIntents.map fun i => i.stored rt.table).map intentKey =
          s.document.resultIntents.map intentKey ++
            [recordedKey rt (resultIdentity rt projectId taskId call.result) decision.status] := by
        rw [hintents]
        exact h.recordIntent_keys hrecord hlive hstatus hintent
      exact h.decided hstored hrecord hlive hnew (hlog'.trans hlog) hfollows'
        hfound hended hstatus (hkeys.trans hrows)

end Steps

section Run

variable {rt : AuditRuntime} {projectId taskId : String}

/-- No result of the task has been applied to the document. -/
structure Unapplied (rt : AuditRuntime) (projectId taskId : String)
    (d : TerminalAuditMetadata) : Prop where
  stored : d.stored rt.table = d
  log : d.appliedResults = []
  intents : forall row, row ∈ d.resultIntents -> row.projectId = projectId -> row.taskId ≠ taskId

variable {d : TerminalAuditMetadata}

theorem Unapplied.replayable (h : Unapplied rt projectId taskId d) :
    Replayable rt projectId taskId ⟨d, []⟩ where
  stored := h.stored
  log _ := ⟨h.log, List.nodup_nil⟩
  owned _ _ hmem := by cases hmem
  recorded _ _ hmem := by cases hmem
  intents key hkey hproject htask := by
    obtain ⟨row, hrow, rfl⟩ := List.mem_map.mp hkey
    exact absurd htask (h.intents row hrow hproject)
  once _ _ _ _ hmem := by cases hmem

theorem replayable_run (h : Unapplied rt projectId taskId d) {calls : List ApplyCall}
    (htask : forall call, call ∈ calls -> call.currentIssue.identifier = taskId) :
    Replayable rt projectId taskId (run (submit rt projectId) ⟨d, []⟩ calls) := by
  have hguard : Guarded (submit rt projectId)
      (fun _ call => call.currentIssue.identifier = taskId) ⟨d, []⟩ calls := by
    generalize (⟨d, []⟩ : ReplayState) = s
    induction calls generalizing s with
    | nil => trivial
    | cons call rest ih =>
      exact ⟨htask call List.mem_cons_self, ih (fun c hc => htask c (List.mem_cons_of_mem _ hc)) _⟩
  exact guarded_invariant_run (fun _ _ hs hcall => hs.submit hcall) h.replayable hguard

end Run

/-!
# The answer to a result submitted again
-/

section Answers

variable (rt : AuditRuntime) (projectId : String) (call : ApplyCall)

/-- The evidence of the task lets the result through. -/
def undrifted (issue : Issue) (d : TerminalAuditMetadata) : Bool :=
  match expectedEvidence projectId call.result d issue.identifier with
  | none => false
  | some expected =>
    !(call.environment.detailReads && issue.evidence ≠ expected) ||
      (isSafeRetryExhaustionEscalation call.result &&
        (driftedRecord projectId issue.identifier call.result d).isOk)

/-- No lifecycle conflict stands against a passing result. -/
def lifecycleAllows : Bool :=
  call.result.verdict ≠ .pass || (lifecycleConflict call.environment call.result.targetState).isNone

/-- The task as it was read lets the log of applied results be asked. -/
def answersRead (issue : Issue) (d : TerminalAuditMetadata) : Bool :=
  textEqual issue.projectId projectId && (issue.status rt ≠ .canonical .inValidation ||
      (undrifted projectId call issue d && lifecycleAllows call && !d.quarantined))

/-- The reads of the task let the log of applied results be asked. -/
def answers (d : TerminalAuditMetadata) : Bool :=
  if call.environment.detailReads then
    match call.environment.refreshed, call.environment.lockedRead with
    | some issue, some read =>
      if issue.identifier ≠ call.currentIssue.identifier ∨
          (issue.projectId.isSome ∧ issue.projectId ≠ some projectId) then false
      else if snapshotMoved rt projectId call issue d then false
      else if read.identifier ≠ issue.identifier then false
      else answersRead rt projectId call read d
    | _, _ => false
  else answersRead rt projectId call call.currentIssue d

end Answers

section Answered

variable {rt : AuditRuntime} {projectId : String} {call : ApplyCall} {issue : Issue}
  {d : TerminalAuditMetadata}

/-- The answer that a result has been applied already, or another answer. -/
def Asked (rt : AuditRuntime) (projectId taskId : String) (call : ApplyCall)
    (d : TerminalAuditMetadata) (asked : Bool) (applied : Applied) : Prop :=
  if asked = true then applied = (.ok (replayed rt projectId taskId call.result d), d, [])
  else forall outcome, applied.1 = .ok outcome -> outcome.idempotent = false

theorem asked_refused {taskId : String} {outcome : ResultOutcome} {after : TerminalAuditMetadata}
    {writes : List TrackerWrite} (h : outcome.idempotent = false) :
    Asked rt projectId taskId call d false (.ok outcome, after, writes) := by
  unfold Asked
  intro answer hanswer
  cases hanswer
  exact h

/-- Past the checks of the task, an applied result is answered from the log. -/
theorem applyCurrent_asked (hstored : d.stored rt.table = d)
    (happlied : resultIdentity rt projectId issue.identifier call.result ∈ d.appliedResults)
    (howned : d.pendingChain.any (ownedBy projectId issue.identifier call.result.auditId) = true) :
    Asked rt projectId issue.identifier call d (lifecycleAllows call && !d.quarantined)
      (applyCurrent rt projectId call issue d) := by
  have hsettle : forall issueIds, settle rt projectId issue.identifier issueIds call d =
      .answered (replayed rt projectId issue.identifier call.result d) := by
    intro issueIds
    unfold settle
    exact if_pos ⟨happlied, howned⟩
  unfold applyCurrent
  dsimp only
  split
  · rename_i hpass hconflict
    have hrefused : lifecycleAllows call = false := by
      unfold lifecycleAllows
      rw [hpass, hconflict]
      rfl
    rw [hrefused]
    exact asked_refused rfl
  · rename_i hallowed
    have hallows : lifecycleAllows call = true := by
      unfold lifecycleAllows
      cases hconflict : lifecycleConflict call.environment call.result.targetState with
      | none => simp
      | some conflict =>
        by_contra hpass
        simp only [Option.isNone_some, Bool.or_false, decide_eq_true_eq, ne_eq, not_not] at hpass
        exact hallowed conflict hpass hconflict
    rw [handoffRefused_false, hallows, Bool.true_and]
    unfold applySettlement
    cases hquarantined : d.quarantined with
    | true => exact asked_refused rfl
    | false =>
      rw [hsettle]
      rw [hstored]
      rfl

theorem applyRead_asked (hstored : d.stored rt.table = d)
    (happlied : resultIdentity rt projectId issue.identifier call.result ∈ d.appliedResults)
    (howned : d.pendingChain.any (ownedBy projectId issue.identifier call.result.auditId) = true) :
    Asked rt projectId issue.identifier call d (answersRead rt projectId call issue d)
      (applyRead rt projectId call issue d) := by
  have hcurrent := applyCurrent_asked hstored happlied howned
  unfold applyRead answersRead
  cases hproject : textEqual issue.projectId projectId with
  | false => exact asked_refused rfl
  | true =>
    simp only [Bool.not_true, Bool.false_eq_true, if_false, Bool.true_and]
    by_cases hstatus : issue.status rt = .canonical .inValidation
    · rw [if_neg (not_not.mpr hstatus)]
      simp only [hstatus, ne_eq, not_true_eq_false, decide_false, Bool.false_or]
      unfold undrifted
      cases hexpected : expectedEvidence projectId call.result d issue.identifier with
      | none => exact asked_refused rfl
      | some expected =>
        dsimp only
        cases hdrift : (call.environment.detailReads && decide (issue.evidence ≠ expected)) with
        | false =>
          exact hcurrent
        | true =>
          rw [Bool.not_true, Bool.false_or]
          cases hstale : driftedRecord projectId issue.identifier call.result d with
          | error reason =>
            have hrefused : (isSafeRetryExhaustionEscalation call.result && (Except.error reason :
                  Except ResultRejection TerminalAuditRecord).isOk) = false :=
              Bool.and_false _
            rw [hrefused]
            exact asked_refused rfl
          | ok stale =>
            have hok : (Except.ok stale :
                Except ResultRejection TerminalAuditRecord).isOk = true := rfl
            dsimp only
            cases hescalates : isSafeRetryExhaustionEscalation call.result with
            | true =>
              exact hcurrent
            | false =>
              rw [Bool.false_and, Bool.false_and, if_pos rfl, if_neg Bool.false_ne_true]
              split
              · exact asked_refused rfl
              · unfold applyDrifted
                dsimp only
                split
                · exact asked_refused rfl
                · exact asked_refused rfl
    · rw [if_pos hstatus]
      simp only [hstatus, ne_eq, not_false_eq_true, decide_true, Bool.true_or]
      unfold applyOutside Asked
      rw [if_pos rfl]
      rw [if_pos ⟨howned, happlied⟩]

/-- A result in the log is answered from it exactly when the reads of the task let the log
be asked. -/
theorem applyAuditResult_asked (hstored : d.stored rt.table = d)
    (happlied : resultIdentity rt projectId call.currentIssue.identifier call.result ∈
      d.appliedResults)
    (howned : d.pendingChain.any
      (ownedBy projectId call.currentIssue.identifier call.result.auditId) = true) :
    Asked rt projectId call.currentIssue.identifier call d (answers rt projectId call d)
      (applyAuditResult rt projectId call d) := by
  unfold applyAuditResult answers applyResultLocked
  cases hreads : call.environment.detailReads with
  | false => exact applyRead_asked hstored happlied howned
  | true =>
    rw [if_pos rfl, if_pos rfl]
    cases hrefreshed : call.environment.refreshed with
    | none => exact asked_refused rfl
    | some issue =>
      cases hlocked : call.environment.lockedRead with
      | none =>
        dsimp only
        split
        · exact asked_refused rfl
        · split
          · exact asked_refused rfl
          · exact asked_refused rfl
      | some read =>
        dsimp only
        split
        · exact asked_refused rfl
        · rename_i hissue
          rw [not_or, not_not] at hissue
          split
          · exact asked_refused rfl
          · split
            · exact asked_refused rfl
            · rename_i hread
              have hsame := (not_not.mp hread).trans hissue.1
              rw [← hsame] at happlied howned ⊢
              exact applyRead_asked hstored happlied howned

end Answered

/-!
# The status that is read back
-/

/-- The target of a record of the audit that is still completed. -/
def completedTarget (d : TerminalAuditMetadata) (identity : AppliedAttempt) :
    Option TargetState :=
  (d.pendingChain.find? fun r =>
    r.auditId = identity.auditId && r.ofTask identity.projectId identity.taskId &&
      r.requestState = .completed).map TerminalAuditRecord.targetState

/-- An intent of the audit is stored under the redaction mark. -/
def markedIntent (d : TerminalAuditMetadata) (identity : AppliedAttempt) : Bool :=
  d.resultIntents.any fun row =>
    row.auditId = identity.auditId && row.projectId = identity.projectId &&
      row.taskId = identity.taskId && row.attemptId = redactedText

/-- The first answer of an applied result can be read back from the document. -/
def recovers (t : CharacterTable) (d : TerminalAuditMetadata) (identity : AppliedAttempt) :
    Option String -> Bool
  | none =>
    (completedTarget d identity).isNone &&
      !(identity.attemptId = redactedText && markedIntent d identity)
  | some status =>
    if Storable t identity.attemptId then Storable t status
    else (completedTarget d identity).map TargetState.value = some status

section Recovered

variable {rt : AuditRuntime} {projectId taskId : String} {s : ReplayState}
  {identity : AppliedAttempt} {status : String}

/-- The intents from which a status can be read back. -/
def readsBack (identity : AppliedAttempt) (row : ResultIntent) : Bool :=
  row.auditId = identity.auditId && row.projectId = identity.projectId &&
    row.taskId = identity.taskId && row.attemptId = identity.attemptId &&
    strip row.status ≠ ""

theorem readsBack_iff {row : ResultIntent} : readsBack identity row = true ↔
      (intentKey row).1 = identity ∧ strip (intentKey row).2 ≠ "" := by
  unfold readsBack intentKey
  cases identity
  simp only [Bool.and_eq_true, decide_eq_true_eq, AppliedAttempt.mk.injEq]
  tauto

variable {d : TerminalAuditMetadata}

theorem lastAppliedStatus_of_rows
    (h : exists row, row ∈ d.resultIntents ∧ readsBack identity row = true)
    (hstatus : forall row, row ∈ d.resultIntents -> readsBack identity row = true ->
      row.status = status) :
    d.lastAppliedStatus identity = some status := by
  unfold lastAppliedStatus
  cases hfind : d.resultIntents.reverse.find? (readsBack identity) with
  | none =>
    obtain ⟨row, hrow, hreads⟩ := h
    have hnot := List.find?_eq_none.mp hfind row (List.mem_reverse.mpr hrow)
    exact absurd hreads hnot
  | some row =>
    have hmem := List.mem_reverse.mp (List.mem_of_find?_eq_some hfind)
    have hreads := (List.find?_eq_some_iff_getElem.mp hfind).1
    change d.resultIntents.reverse.find? _ = _ at hfind
    unfold readsBack at hfind
    rw [hfind]
    exact congrArg some (hstatus row hmem hreads)

theorem lastAppliedStatus_of_none
    (h : forall row, row ∈ d.resultIntents -> readsBack identity row = false) :
    d.lastAppliedStatus identity = (completedTarget d identity).map TargetState.value := by
  have hfind : d.resultIntents.reverse.find? (readsBack identity) = none := by
    rw [List.find?_eq_none]
    intro row hrow
    rw [h row (List.mem_reverse.mp hrow)]
    exact Bool.false_ne_true
  unfold readsBack at hfind
  unfold lastAppliedStatus completedTarget
  rw [hfind, Option.map_map]
  rfl

theorem redactForStorage_nonblank {t : CharacterTable} {text : String} (h : strip text ≠ "") :
    strip (redactForStorage t text) ≠ "" := by
  unfold redactForStorage
  split
  · exact strip_ne_of_any rfl
  · exact h

/-- The status of a terminal result is read back when its key and the status are stored as
they are, or from the record when the key is not. -/
theorem Replayable.terminal_recovers (h : Replayable rt projectId taskId s)
    (hmem : (identity, some status) ∈ s.applied) :
    s.document.lastAppliedStatus identity = some status ↔
      recovers rt.table s.document identity (some status) = true := by
  obtain ⟨hproject, htask, _⟩ := h.owned identity (some status) hmem
  obtain ⟨hblank, hrecorded⟩ := h.recorded identity status hmem
  have hrows : forall row, row ∈ s.document.resultIntents ->
      (intentKey row).1.projectId = identity.projectId ->
        (intentKey row).1.taskId = identity.taskId ->
          (intentKey row).1.auditId = identity.auditId ->
            intentKey row = recordedKey rt identity status := by
    intro row hrow hrowProject hrowTask hrowAudit
    obtain ⟨other, status', hmem', hkey⟩ :=
      h.intents (intentKey row) (List.mem_map_of_mem hrow) (hrowProject.trans hproject)
        (hrowTask.trans htask)
    have haudit : other.auditId = identity.auditId := by
      rw [← hrowAudit, hkey]
      rfl
    obtain ⟨rfl, rfl⟩ := h.once other identity status' status hmem' hmem haudit
    exact hkey
  unfold recovers
  dsimp only
  by_cases hkey : Storable rt.table identity.attemptId
  · rw [if_pos hkey]
    have hidentity : (recordedKey rt identity status).1 = identity := by
      unfold recordedKey
      rw [hkey]
    have hlast : s.document.lastAppliedStatus identity =
        some (redactForStorage rt.table status) := by
      apply lastAppliedStatus_of_rows
      · obtain ⟨row, hrow, hrowKey⟩ := List.mem_map.mp hrecorded
        refine ⟨row, hrow, readsBack_iff.mpr ?_⟩
        rw [hrowKey]
        exact ⟨hidentity, redactForStorage_nonblank hblank⟩
      · intro row hrow hreads
        have hrowIdentity := (readsBack_iff.mp hreads).1
        have hrowKey := hrows row hrow (by rw [hrowIdentity]) (by rw [hrowIdentity])
          (by rw [hrowIdentity])
        exact congrArg Prod.snd hrowKey
    rw [hlast, Option.some_inj, decide_eq_true_eq]
    rfl
  · rw [if_neg hkey, decide_eq_true_eq]
    rw [lastAppliedStatus_of_none]
    intro row hrow
    by_contra hreads
    rw [Bool.not_eq_false] at hreads
    have hrowIdentity := (readsBack_iff.mp hreads).1
    have hrowKey := hrows row hrow (by rw [hrowIdentity]) (by rw [hrowIdentity])
      (by rw [hrowIdentity])
    rw [hrowKey] at hrowIdentity
    exact hkey (congrArg AppliedAttempt.attemptId hrowIdentity)

/-- A result that decided nothing is answered so again while no record of its audit is
completed. -/
theorem Replayable.nonterminal_recovers (h : Replayable rt projectId taskId s)
    (hbound : s.applied.length ≤ maxAppliedResults)
    (hmem : (identity, none) ∈ s.applied) :
    s.document.lastAppliedStatus identity = none ↔
      recovers rt.table s.document identity none = true := by
  obtain ⟨hproject, htask, _⟩ := h.owned identity none hmem
  have hrows : forall row, row ∈ s.document.resultIntents -> (intentKey row).1 = identity ->
        strip (intentKey row).2 ≠ "" ∧ identity.attemptId = redactedText := by
    intro row hrow hrowIdentity
    obtain ⟨other, status, hother, hkey⟩ :=
      h.intents (intentKey row) (List.mem_map_of_mem hrow)
        (by rw [hrowIdentity]; exact hproject) (by rw [hrowIdentity]; exact htask)
    have hne : other ≠ identity := by
      rintro rfl
      have hsame := List.inj_on_of_nodup_map (h.log hbound).2 hother hmem rfl
      cases hsame
    rw [hkey] at hrowIdentity ⊢
    refine ⟨redactForStorage_nonblank (h.recorded other status hother).1, ?_⟩
    have hattempt := congrArg AppliedAttempt.attemptId hrowIdentity
    change redactForStorage rt.table other.attemptId = identity.attemptId at hattempt
    rw [← hattempt]
    unfold redactForStorage
    split
    · rfl
    · rename_i hplain
      exfalso
      apply hne
      unfold redactForStorage at hattempt
      rw [← hrowIdentity]
      unfold recordedKey redactForStorage
      rw [if_neg hplain]
  have hreads : (identity.attemptId = redactedText ∧ markedIntent s.document identity = true) ↔
      exists row, row ∈ s.document.resultIntents ∧ readsBack identity row = true := by
    unfold markedIntent
    rw [List.any_eq_true]
    constructor
    · rintro ⟨hmark, row, hrow, hkey⟩
      simp only [Bool.and_eq_true, decide_eq_true_eq] at hkey
      have hidentity : (intentKey row).1 = identity := by
        unfold intentKey
        rw [hkey.1.1.1, hkey.1.1.2, hkey.1.2, hkey.2, ← hmark]
      exact ⟨row, hrow, readsBack_iff.mpr ⟨hidentity, (hrows row hrow hidentity).1⟩⟩
    · rintro ⟨row, hrow, hkey⟩
      have hidentity := (readsBack_iff.mp hkey).1
      have hmark := (hrows row hrow hidentity).2
      refine ⟨hmark, row, hrow, ?_⟩
      rw [← hidentity] at hmark ⊢
      unfold intentKey at hmark ⊢
      simp only [Bool.and_eq_true, decide_eq_true_eq, and_self, true_and]
      exact hmark
  unfold recovers
  by_cases hmarked : identity.attemptId = redactedText ∧ markedIntent s.document identity = true
  · obtain ⟨row, hrow, hkey⟩ := hreads.mp hmarked
    rw [hmarked.2]
    simp only [hmarked.1, decide_true, Bool.and_self, Bool.not_true, Bool.and_false,
      Bool.false_eq_true, iff_false]
    intro hnone
    unfold lastAppliedStatus at hnone
    cases hfind : s.document.resultIntents.reverse.find? (readsBack identity) with
    | none => exact List.find?_eq_none.mp hfind row (List.mem_reverse.mpr hrow) hkey
    | some found =>
      unfold readsBack at hfind
      rw [hfind] at hnone
      cases hnone
  · have hnot : (decide (identity.attemptId = redactedText) &&
        markedIntent s.document identity) = false := by
      rw [← Bool.not_eq_true, Bool.and_eq_true, decide_eq_true_eq]
      exact hmarked
    rw [hnot, Bool.not_false, Bool.and_true, lastAppliedStatus_of_none]
    · cases completedTarget s.document identity <;> simp
    · intro row hrow
      by_contra hkey
      rw [Bool.not_eq_false] at hkey
      exact hmarked (hreads.mpr ⟨row, hrow, hkey⟩)

/-- The result is answered from the log, and the answer is the first one. -/
def Replays (rt : AuditRuntime) (projectId : String) (call : ApplyCall)
    (d : TerminalAuditMetadata) (first : Option String) : Prop :=
  exists outcome, applyAuditResult rt projectId call d = (.ok outcome, d, []) ∧
    outcome.success = true ∧ outcome.idempotent = true ∧ outcome.appliedStatus = first

theorem Replayable.replays_iff (h : Replayable rt projectId taskId s)
    (hbound : s.applied.length ≤ maxAppliedResults) {call : ApplyCall}
    (htask : call.currentIssue.identifier = taskId) {first : Option String}
    (hfirst : (resultIdentity rt projectId taskId call.result, first) ∈ s.applied) :
    Replays rt projectId call s.document first ↔ answers rt projectId call s.document = true ∧
        recovers rt.table s.document (resultIdentity rt projectId taskId call.result) first =
          true := by
  have happlied : resultIdentity rt projectId taskId call.result ∈ s.document.appliedResults := by
    rw [(h.log hbound).1]
    exact List.mem_map_of_mem hfirst
  obtain ⟨_, _, record, hrecord, _⟩ := h.owned _ first hfirst
  have howned : s.document.pendingChain.any (ownedBy projectId taskId call.result.auditId) =
      true :=
    List.any_eq_true.mpr ⟨record, List.mem_of_find?_eq_some hrecord,
      (List.find?_eq_some_iff_getElem.mp hrecord).1⟩
  have hasked : Asked rt projectId taskId call s.document (answers rt projectId call s.document)
      (applyAuditResult rt projectId call s.document) := by
    subst htask
    exact applyAuditResult_asked h.stored happlied howned
  have hstatus : s.document.lastAppliedStatus
      (resultIdentity rt projectId taskId call.result) = first ↔
        recovers rt.table s.document (resultIdentity rt projectId taskId call.result) first =
          true := by
    cases first with
    | none => exact h.nonterminal_recovers hbound hfirst
    | some status => exact h.terminal_recovers hfirst
  unfold Asked at hasked
  cases hanswers : answers rt projectId call s.document with
  | false =>
    rw [hanswers, if_neg Bool.false_ne_true] at hasked
    constructor
    · rintro ⟨outcome, happly, _, hidempotent, _⟩
      rw [hasked outcome (by rw [happly])] at hidempotent
      cases hidempotent
    · rintro ⟨hfalse, _⟩
      cases hfalse
  | true =>
    rw [hanswers, if_pos rfl] at hasked
    constructor
    · rintro ⟨outcome, happly, _, _, hlast⟩
      rw [hasked] at happly
      cases happly
      exact ⟨rfl, hstatus.mp hlast⟩
    · rintro ⟨_, hrecovers⟩
      exact ⟨_, hasked, rfl, rfl, hstatus.mpr hrecovers⟩

end Recovered

/-!
# Runs
-/

/-- In every run of calls on a task that starts before its first result, and that applies
no more results than the log retains, a result submitted again gets its first answer
exactly when the reads let the log be asked and the document lets the status be read
back. -/
theorem resubmitted_replays_iff {rt : AuditRuntime} {projectId taskId : String}
    {start : TerminalAuditMetadata} (hstart : Unapplied rt projectId taskId start)
    {calls : List ApplyCall}
    (htask : forall call, call ∈ calls -> call.currentIssue.identifier = taskId)
    {call : ApplyCall} (hcall : call.currentIssue.identifier = taskId) {first : Option String}
    (hbound : (run (submit rt projectId) ⟨start, []⟩ calls).applied.length ≤
      TerminalAuditMetadata.maxAppliedResults)
    (hfirst : (resultIdentity rt projectId taskId call.result, first) ∈
      (run (submit rt projectId) ⟨start, []⟩ calls).applied) :
    Replays rt projectId call (run (submit rt projectId) ⟨start, []⟩ calls).document first ↔
      answers rt projectId call (run (submit rt projectId) ⟨start, []⟩ calls).document = true ∧
        recovers rt.table (run (submit rt projectId) ⟨start, []⟩ calls).document
          (resultIdentity rt projectId taskId call.result) first = true :=
  (replayable_run hstart htask).replays_iff hbound hcall hfirst

/-!
# A retry that is answered with the status of a later result
-/

/-- A call on the Done audit of a task, shown in a status with the evidence staged for. -/
def sampleCall (state attemptId : String) (verdict : Verdict) : ApplyCall where
  currentIssue := sampleIssue state stagedEvidence
  result :=
    { auditId := "a0", targetState := .done, evidenceFingerprint := stagedEvidence,
      verdict := verdict, attemptId := some attemptId }
  environment := sampleEnvironment (sampleIssue state stagedEvidence) "b0" "b1"

theorem requestedDocument_unapplied : Unapplied sampleRuntime "p" "T-1" (requestedDocument .done) :=
  ⟨rfl, rfl, fun row hrow => by cases hrow⟩

/-- An attempt that ends in an error, then one that passes. -/
def retried : List ApplyCall :=
  [sampleCall "In Validation" "x" .error, sampleCall "In Validation" "y" .pass]

theorem retried_applied :
    (run (submit sampleRuntime "p") ⟨requestedDocument .done, []⟩ retried).applied =
      [(⟨"p", "T-1", "a0", "x"⟩, none), (⟨"p", "T-1", "a0", "y"⟩, some "Done")] := by
  decide +kernel

/-- The passed attempt is answered as it was, and the failed one is not. -/
theorem retried_replays : ¬ Replays sampleRuntime "p" (sampleCall "Done" "x" .error)
        (run (submit sampleRuntime "p") ⟨requestedDocument .done, []⟩ retried).document none ∧
      Replays sampleRuntime "p" (sampleCall "Done" "y" .pass)
        (run (submit sampleRuntime "p") ⟨requestedDocument .done, []⟩ retried).document
          (some "Done") := by
  have htask : forall call, call ∈ retried -> call.currentIssue.identifier = "T-1" := by
    intro call hcall
    rcases List.mem_pair.mp hcall with rfl | rfl <;> rfl
  have hbound : (run (submit sampleRuntime "p") ⟨requestedDocument .done, []⟩
      retried).applied.length ≤ TerminalAuditMetadata.maxAppliedResults := by
    rw [retried_applied]
    decide
  constructor
  · intro hreplays
    have hrecovers := ((resubmitted_replays_iff requestedDocument_unapplied htask rfl hbound
      (by rw [retried_applied]; exact List.mem_cons_self)).mp hreplays).right
    revert hrecovers
    decide +kernel
  · refine (resubmitted_replays_iff requestedDocument_unapplied htask rfl hbound
      (by rw [retried_applied]; exact List.mem_cons_of_mem _ List.mem_cons_self)).mpr ⟨?_, ?_⟩
    · decide +kernel
    · decide +kernel

/-- An attempt that ended in an error is submitted again after another attempt passed: it
is answered `Done`, not with no status. -/
theorem retried_replays_done : (run (submit sampleRuntime "p") ⟨requestedDocument .done, []⟩
        [sampleCall "In Validation" "x" .error, sampleCall "In Validation" "y" .pass]).applied =
        [(⟨"p", "T-1", "a0", "x"⟩, none), (⟨"p", "T-1", "a0", "y"⟩, some "Done")] ∧
      ¬ Replays sampleRuntime "p" (sampleCall "Done" "x" .error)
        (run (submit sampleRuntime "p") ⟨requestedDocument .done, []⟩
          [sampleCall "In Validation" "x" .error,
            sampleCall "In Validation" "y" .pass]).document none := by
  refine ⟨retried_applied, ?_⟩
  rintro ⟨outcome, happly, _, _, hstatus⟩
  have hdone : (applyAuditResult sampleRuntime "p" (sampleCall "Done" "x" .error)
      (run (submit sampleRuntime "p") ⟨requestedDocument .done, []⟩
        [sampleCall "In Validation" "x" .error,
          sampleCall "In Validation" "y" .pass]).document).1.toOption.bind
            ResultOutcome.appliedStatus = some "Done" := rfl
  rw [happly] at hdone
  change outcome.appliedStatus = some "Done" at hdone
  rw [hstatus] at hdone
  cases hdone

end TerminalAudit
end Oompah
