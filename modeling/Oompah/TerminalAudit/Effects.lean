import Oompah.TerminalAudit.Replacement

/-!
# What a call does to the document

A call leaves the document, stages a replacement, puts an attempt back for a retry or
decides a record.  In each of them the records of the document stay where they are under
their identities, and a record that is not live is never live again.
-/

namespace Oompah
namespace TerminalAudit

open Foundation
open TaskTransitions (Status)
open TaskEvaluation (TaskStatus statusText canonicalizeStatus)

/-!
# Records that follow records
-/

/-- The record under its identity, live only if it was. -/
structure Follows (old new : TerminalAuditRecord) : Prop where
  auditId : new.auditId = old.auditId
  projectId : new.projectId = old.projectId
  taskId : new.taskId = old.taskId
  targetState : new.targetState = old.targetState
  live : new.live = true -> old.live = true

/-- Every record has its follower in its place. -/
def ChainFollows (before after : List TerminalAuditRecord) : Prop :=
  forall (i : Nat) (old : TerminalAuditRecord), before[i]? = some old ->
    exists new, after[i]? = some new ∧ Follows old new

/-- The record of the audit that a result names. -/
def ownedBy (projectId taskId auditId : String) (r : TerminalAuditRecord) : Bool :=
  r.auditId = auditId && r.ofTask projectId taskId

section Follows

variable {t : CharacterTable} {chain before after : List TerminalAuditRecord}
  {old new : TerminalAuditRecord} {projectId taskId auditId : String}

theorem Follows.refl (r : TerminalAuditRecord) : Follows r r :=
  ⟨rfl, rfl, rfl, rfl, fun h => h⟩

theorem Follows.trans {r : TerminalAuditRecord} (h : Follows old new) (h' : Follows new r) :
    Follows old r where
  auditId := h'.auditId.trans h.auditId
  projectId := h'.projectId.trans h.projectId
  taskId := h'.taskId.trans h.taskId
  targetState := h'.targetState.trans h.targetState
  live hlive := h.live (h'.live hlive)

theorem Follows.ended (h : Follows old new) (hold : old.live = false) : new.live = false := by
  by_contra hlive
  rw [Bool.not_eq_false] at hlive
  rw [h.live hlive] at hold
  cases hold

theorem Follows.stored (h : Follows old new) (hold : old.stored t = old) :
    Follows old (new.stored t) where
  auditId := by
    change redactForStorage t new.auditId = old.auditId
    rw [h.auditId]
    exact congrArg TerminalAuditRecord.auditId hold
  projectId := by
    change redactForStorage t new.projectId = old.projectId
    rw [h.projectId]
    exact congrArg TerminalAuditRecord.projectId hold
  taskId := by
    change redactForStorage t new.taskId = old.taskId
    rw [h.taskId]
    exact congrArg TerminalAuditRecord.taskId hold
  targetState := h.targetState
  live := h.live

theorem Follows.ownedBy (h : Follows old new) :
    ownedBy projectId taskId auditId new = ownedBy projectId taskId auditId old := by
  unfold TerminalAudit.ownedBy TerminalAuditRecord.ofTask
  rw [h.auditId, h.projectId, h.taskId]

theorem ChainFollows.refl (chain : List TerminalAuditRecord) : ChainFollows chain chain :=
  fun _ old h => ⟨old, h, Follows.refl old⟩

theorem ChainFollows.trans {last : List TerminalAuditRecord} (h : ChainFollows before after)
    (h' : ChainFollows after last) : ChainFollows before last := by
  intro i old hold
  obtain ⟨new, hnew, hfollows⟩ := h i old hold
  obtain ⟨newest, hnewest, hfollows'⟩ := h' i new hnew
  exact ⟨newest, hnewest, hfollows.trans hfollows'⟩

theorem ChainFollows.stored (h : ChainFollows before after)
    (hbefore : forall r, r ∈ before -> r.stored t = r) :
    ChainFollows before (after.map fun r => r.stored t) := by
  intro i old hold
  obtain ⟨new, hnew, hfollows⟩ := h i old hold
  refine ⟨new.stored t, ?_, hfollows.stored (hbefore old (List.mem_of_getElem? hold))⟩
  rw [List.getElem?_map, hnew]
  rfl

theorem ChainFollows.append (h : ChainFollows before after)
    (entries : List TerminalAuditRecord) : ChainFollows before (after ++ entries) := by
  intro i old hold
  obtain ⟨new, hnew, hfollows⟩ := h i old hold
  refine ⟨new, ?_, hfollows⟩
  rw [List.getElem?_append_left (List.getElem?_eq_some_iff.mp hnew).1]
  exact hnew

theorem ChainFollows.map {f : TerminalAuditRecord -> TerminalAuditRecord}
    (h : forall r, Follows r (f r)) : ChainFollows chain (chain.map f) := by
  intro i old hold
  refine ⟨f old, ?_, h old⟩
  rw [List.getElem?_map, hold]
  rfl

theorem ChainFollows.set {index : Nat} (hindex : chain[index]? = some old)
    (h : Follows old new) : ChainFollows chain (chain.set index new) := by
  intro i r hr
  by_cases hi : index = i
  · subst hi
    have hlt := (List.getElem?_eq_some_iff.mp hindex).1
    rw [hindex] at hr
    cases hr
    exact ⟨new, List.getElem?_set_self hlt, h⟩
  · exact ⟨r, by rw [List.getElem?_set_ne hi]; exact hr, Follows.refl r⟩

/-- The first record of an audit is followed by the first record of the audit. -/
theorem ChainFollows.find (h : ChainFollows before after)
    (hold : before.find? (TerminalAudit.ownedBy projectId taskId auditId) = some old) :
    exists new, after.find? (TerminalAudit.ownedBy projectId taskId auditId) = some new ∧
        Follows old new := by
  obtain ⟨howned, i, hi, hget, hfirst⟩ := List.find?_eq_some_iff_getElem.mp hold
  obtain ⟨new, hnew, hfollows⟩ := h i old (List.getElem?_eq_some_iff.mpr ⟨hi, hget⟩)
  obtain ⟨hi', hget'⟩ := List.getElem?_eq_some_iff.mp hnew
  refine ⟨new, List.find?_eq_some_iff_getElem.mpr ⟨?_, i, hi', hget', ?_⟩, hfollows⟩
  · rw [hfollows.ownedBy]
    exact howned
  · intro j hj
    have hjbefore : j < before.length := Nat.lt_trans hj hi
    obtain ⟨other, hother, hfollows'⟩ :=
      h j before[j] (List.getElem?_eq_some_iff.mpr ⟨hjbefore, rfl⟩)
    obtain ⟨hj', hgetj⟩ := List.getElem?_eq_some_iff.mp hother
    rw [hgetj, hfollows'.ownedBy]
    exact hfirst j hj

theorem ChainFollows.find_stored (h : ChainFollows before after)
    (hbefore : forall r, r ∈ before -> r.stored t = r)
    (hold : before.find? (TerminalAudit.ownedBy projectId taskId auditId) = some old)
    (hnew : after.find? (TerminalAudit.ownedBy projectId taskId auditId) = some new) :
    (after.map fun r => r.stored t).find?
      (TerminalAudit.ownedBy projectId taskId auditId) = some (new.stored t) := by
  obtain ⟨howned, i, hi, hget, hfirst⟩ := List.find?_eq_some_iff_getElem.mp hold
  obtain ⟨hnewOwned, j, hj, hget', hfirst'⟩ := List.find?_eq_some_iff_getElem.mp hnew
  have hplace : forall k (hk : k < before.length), exists hk' : k < after.length,
      Follows before[k] after[k] := by
    intro k hk
    obtain ⟨other, hother, hfollows⟩ :=
      h k before[k] (List.getElem?_eq_some_iff.mpr ⟨hk, rfl⟩)
    obtain ⟨hk', hgetk⟩ := List.getElem?_eq_some_iff.mp hother
    exact ⟨hk', hgetk ▸ hfollows⟩
  have hsame : i = j := by
    rcases Nat.lt_trichotomy i j with hlt | heq | hgt
    · have hnot := hfirst' i hlt
      obtain ⟨_, hfollows⟩ := hplace i hi
      rw [hfollows.ownedBy, hget, howned] at hnot
      cases hnot
    · exact heq
    · have hnot := hfirst j hgt
      obtain ⟨_, hfollows⟩ := hplace j (Nat.lt_trans hgt hi)
      rw [← hfollows.ownedBy, hget', hnewOwned] at hnot
      cases hnot
  subst hsame
  have hstored : forall k (hk : k < before.length) (hk' : k < after.length),
      TerminalAudit.ownedBy projectId taskId auditId (after[k].stored t) =
        TerminalAudit.ownedBy projectId taskId auditId before[k] := by
    intro k hk hk'
    obtain ⟨_, hfollows⟩ := hplace k hk
    exact (hfollows.stored (hbefore _ (List.getElem_mem hk))).ownedBy
  refine List.find?_eq_some_iff_getElem.mpr ⟨?_, i, by rw [List.length_map]; exact hj, ?_, ?_⟩
  · rw [← hget', hstored i hi hj, hget]
    exact howned
  · rw [List.getElem_map, hget']
  · intro k hk
    rw [List.getElem_map, hstored k (Nat.lt_trans hk hi) (Nat.lt_trans hk hj)]
    exact hfirst k hk

end Follows

/-!
# Settling a result
-/

section Settle

variable {rt : AuditRuntime} {projectId taskId : String} {call : ApplyCall}
  {d : TerminalAuditMetadata} {chain : List TerminalAuditRecord}
  {record : TerminalAuditRecord}

/-- The status that a decision asks the tracker for. -/
def Decided.status (decision : Decided) : String :=
  if decision.keepInValidation then statusText .inValidation else decision.targetStatus

/-- The intent of a decided result. -/
structure IntentFor (rt : AuditRuntime) (projectId taskId : String) (result : AuditResult)
    (status : String) (intent : ResultIntent) : Prop where
  projectId : intent.projectId = projectId
  taskId : intent.taskId = taskId
  auditId : intent.auditId = result.auditId
  attemptId : intent.attemptId = resultIdempotencyKey rt result
  status : intent.status = status

/-- What settling a result comes to.  A result that is applied has not been applied
before, and its record was live. -/
inductive SettleEffect (rt : AuditRuntime) (projectId taskId : String) (call : ApplyCall)
    (d : TerminalAuditMetadata) : Settlement -> Prop where
  | raised (e : PyError) : SettleEffect rt projectId taskId call d (.raised e)
  | refused {outcome : ResultOutcome} (h : outcome.success = false) :
      SettleEffect rt projectId taskId call d (.answered outcome)
  | replayed (happlied : resultIdentity rt projectId taskId call.result ∈ d.appliedResults)
      (howned : d.pendingChain.any (ownedBy projectId taskId call.result.auditId) = true) :
      SettleEffect rt projectId taskId call d
        (.answered (replayed rt projectId taskId call.result d))
  | retried {reason : ResultRejection} {record : TerminalAuditRecord}
      {after : TerminalAuditMetadata}
      (hrecord : d.pendingChain.find? (ownedBy projectId taskId call.result.auditId) = some record)
      (hlive : record.live = true)
      (hnew : resultIdentity rt projectId taskId call.result ∉ d.appliedResults)
      (hfollows : ChainFollows d.pendingChain after.pendingChain)
      (hlog : after.appliedResults =
        d.recordApplied (resultIdentity rt projectId taskId call.result))
      (hintents : after.resultIntents = d.resultIntents) :
      SettleEffect rt projectId taskId call d (.retried reason after)
  | decided {decision : Decided} {record completed : TerminalAuditRecord}
      {after : TerminalAuditMetadata} {intent : ResultIntent}
      (hrecord : d.pendingChain.find? (ownedBy projectId taskId call.result.auditId) = some record)
      (hlive : record.live = true)
      (hnew : resultIdentity rt projectId taskId call.result ∉ d.appliedResults)
      (hfollows : ChainFollows d.pendingChain after.pendingChain)
      (hlog : after.appliedResults =
        d.recordApplied (resultIdentity rt projectId taskId call.result))
      (hcompleted : after.pendingChain.find?
        (ownedBy projectId taskId call.result.auditId) = some completed)
      (hended : completed.live = false)
      (hintents : after.resultIntents = TerminalAuditMetadata.recordIntent d.resultIntents intent)
      (hintent : IntentFor rt projectId taskId call.result decision.status intent)
      (hstatus : strip decision.status ≠ "") :
      SettleEffect rt projectId taskId call d (.decided decision after)

theorem admits_live {issueIds : List String}
    (h : admits rt projectId issueIds call.result chain record = none) :
    record.live = true := by
  unfold admits at h
  split_ifs at h with htarget hevidence hlive
  all_goals
    rw [Bool.not_eq_true', Bool.not_eq_false] at hlive
    exact hlive

theorem statusText_nonblank (status : Status) : strip (statusText status) ≠ "" := by
  apply strip_ne_of_any
  cases status <;> rfl

theorem targetState_nonblank (target : TargetState) : strip target.value ≠ "" := by
  apply strip_ne_of_any
  cases target <;> rfl

theorem Decided.status_nonblank {decision : Decided} (h : strip decision.targetStatus ≠ "") :
    strip decision.status ≠ "" := by
  unfold Decided.status
  split
  · exact statusText_nonblank .inValidation
  · exact h

theorem canonicalizeStatus_nonblank (v : Value) :
    strip (canonicalizeStatus rt.text v).text ≠ "" := by
  cases hv : canonicalizeStatus rt.text v with
  | canonical status => exact statusText_nonblank status
  | custom text =>
    obtain ⟨_, _, htext, hne⟩ := TaskEvaluation.custom_of_canonicalize hv
    change strip text ≠ ""
    rw [htext, strip_strip, ← htext]
    exact hne

theorem classifyFailureToStatus_nonblank {classification : FailureClassification}
    {previous : Option String} {status : String}
    (h : classifyFailureToStatus rt classification previous = .ok (some status)) :
    strip status ≠ "" := by
  unfold classifyFailureToStatus at h
  dsimp only at h
  split_ifs at h
  · cases h
  · cases h
    exact statusText_nonblank .open
  · cases h
    exact statusText_nonblank .needsCiFix
  · cases h
    exact statusText_nonblank .needsRebase
  · cases h
    exact statusText_nonblank .inReview
  · cases h
    exact statusText_nonblank .needsHuman
  · cases h
    exact canonicalizeStatus_nonblank _
  · cases h
    exact statusText_nonblank .needsHuman

theorem routeResult_nonblank {previous : Option String} {status comment : String}
    (h : routeResult rt call.result previous = .ok (.pass status comment) ∨
      routeResult rt call.result previous = .ok (.fail status comment)) :
    strip status ≠ "" := by
  unfold routeResult at h
  cases hverdict : call.result.verdict with
  | pass =>
    rw [hverdict] at h
    rcases h with h | h
    · cases h
      exact targetState_nonblank _
    · cases h
  | needsHuman =>
    rw [hverdict] at h
    rcases h with h | h
    · cases h
    · cases h
      exact statusText_nonblank _
  | error =>
    rw [hverdict] at h
    rcases h with h | h <;> cases h
  | fail =>
    rw [hverdict] at h
    cases hclass : call.result.failureClassification with
    | none =>
      rw [hclass] at h
      rcases h with h | h <;> cases h
    | some classification =>
      rw [hclass] at h
      dsimp only at h
      cases hrouted : classifyFailureToStatus rt classification previous with
      | error e =>
        rw [hrouted] at h
        rcases h with h | h <;> cases h
      | ok routed =>
        rw [hrouted] at h
        cases routed with
        | none => rcases h with h | h <;> cases h
        | some routed =>
          have hnonblank := classifyFailureToStatus_nonblank hrouted
          change (if routed = statusText .needsHuman then _ else _) = _ ∨
            (if routed = statusText .needsHuman then _ else _) = _ at h
          split at h
          · rcases h with h | h
            · cases h
            · cases h
              exact hnonblank
          · rcases h with h | h
            · cases h
            · cases h
              exact hnonblank

theorem completedRecord_follows (attempt : AuditAttempt) (now : String)
    (hlive : record.live = true) : Follows record (completedRecord record attempt now) :=
  ⟨rfl, rfl, rfl, rfl, fun _ => hlive⟩

theorem retryRecord_follows (attempt : AuditAttempt) (now : String)
    (reason : ResultRejection) (message : String) (hlive : record.live = true) :
    Follows record (retryRecord record attempt now reason message) :=
  ⟨rfl, rfl, rfl, rfl, fun _ => hlive⟩

theorem supersedeAt_follows (r : TerminalAuditRecord) (now : String) :
    Follows r (r.supersedeAt now) :=
  ⟨rfl, rfl, rfl, rfl, fun h => by cases h⟩

theorem find_set_first {p : TerminalAuditRecord -> Bool} {index : Nat}
    {new : TerminalAuditRecord} (hindex : chain.findIdx? p = some index) (hnew : p new = true) :
    (chain.set index new).find? p = some new := by
  obtain ⟨hlt, _, hfirst⟩ := List.findIdx?_eq_some_iff_getElem.mp hindex
  have hlt' : index < (chain.set index new).length := by
    rw [List.length_set]
    exact hlt
  refine List.find?_eq_some_iff_getElem.mpr ⟨hnew, index, hlt', List.getElem_set_self _, ?_⟩
  intro j hj
  rw [List.getElem_set_ne (Nat.ne_of_gt hj)]
  simpa using hfirst j hj

/-- A decision completes the record at its place and supersedes its siblings. -/
theorem decidedChain_follows {index : Nat} {completed : TerminalAuditRecord} {now : String}
    (hindex : chain[index]? = some record) :
    ChainFollows (chain.set index completed)
      (decidedChain projectId taskId chain index record completed now) := by
  have hlt := (List.getElem?_eq_some_iff.mp hindex).1
  intro i old hold
  unfold decidedChain
  rw [List.getElem?_mapIdx]
  by_cases hi : index = i
  · subst hi
    rw [List.getElem?_set_self hlt] at hold
    cases hold
    refine ⟨completed, ?_, Follows.refl completed⟩
    rw [hindex, Option.map_some, if_pos rfl]
  · rw [List.getElem?_set_ne hi] at hold
    rw [hold, Option.map_some, if_neg (Ne.symm hi)]
    split
    · exact ⟨_, rfl, supersedeAt_follows old now⟩
    · exact ⟨_, rfl, Follows.refl old⟩

/-- The chain in which the next record is made eligible. -/
theorem advancedChain_follows {next advanced : Option TerminalAuditRecord}
    (hnext : forall r, next = some r -> r ∈ chain)
    (hadvanced : forall r r', next = some r -> advanced = some r' -> Follows r r') :
    ChainFollows chain (replaceNext chain next advanced) := by
  cases next with
  | none => exact ChainFollows.refl chain
  | some old =>
    cases advanced with
    | none => exact ChainFollows.refl chain
    | some new =>
      apply ChainFollows.set _ (hadvanced old new rfl rfl)
      have hlt := List.idxOf_lt_length_iff.mpr (hnext old rfl)
      rw [List.getElem?_eq_getElem hlt, List.getElem_idxOf hlt]

theorem nextPending_mem {r : TerminalAuditRecord}
    (h : nextPending projectId taskId record chain = some r) : r ∈ chain := by
  unfold nextPending at h
  dsimp only at h
  cases hnext : (chain.filter (successorOf projectId taskId record)).find?
      fun r => r.prerequisiteAuditId = some record.auditId with
  | some next =>
    rw [hnext] at h
    cases h
    exact (List.mem_filter.mp (List.mem_of_find?_eq_some hnext)).1
  | none =>
    rw [hnext] at h
    exact (List.mem_filter.mp (List.mem_of_find?_eq_some h)).1

theorem decided_follows {index : Nat} {auditId : String} (attempt : AuditAttempt)
    (now : String) (advances : Bool)
    (hindex : chain.findIdx? (ownedBy projectId taskId auditId) = some index)
    (hget : chain[index]? = some record) (hlive : record.live = true) :
    let completed := completedRecord record attempt now
    let decided := decidedChain projectId taskId chain index record completed now
    let next := nextPending projectId taskId record decided
    let advanced := if advances then next.map (eligibleAfter record now) else none
    let after := replaceNext decided next advanced
    ChainFollows chain after ∧
      exists done, after.find? (ownedBy projectId taskId auditId) = some done ∧
        done.live = false := by
  intro completed decided next advanced after
  have hcompleted : Follows record completed := completedRecord_follows attempt now hlive
  have hended : completed.live = false := rfl
  have howned : ownedBy projectId taskId auditId completed = true := by
    obtain ⟨hlt, hfound, _⟩ := List.findIdx?_eq_some_iff_getElem.mp hindex
    rw [hcompleted.ownedBy, ← (List.getElem?_eq_some_iff.mp hget).2]
    exact hfound
  have hadvanced : forall r r', next = some r -> advanced = some r' -> Follows r r' := by
    intro r r' hnext hadvanced
    unfold advanced at hadvanced
    split at hadvanced
    · rw [hnext] at hadvanced
      cases hadvanced
      exact ⟨rfl, rfl, rfl, rfl, fun h => h⟩
    · cases hadvanced
  have hset := ChainFollows.set hget hcompleted
  have hafter : ChainFollows (chain.set index completed) after :=
    (decidedChain_follows hget).trans
      (advancedChain_follows (fun r hr => nextPending_mem hr) hadvanced)
  refine ⟨hset.trans hafter, ?_⟩
  obtain ⟨done, hdone, hfollows⟩ := hafter.find (find_set_first hindex howned)
  exact ⟨done, hdone, hfollows.ended hended⟩

section Owned

variable {index : Nat}
  (hindex : d.pendingChain.findIdx? (ownedBy projectId taskId call.result.auditId) = some index)
  (hget : d.pendingChain[index]? = some record)
  (hrecord : d.pendingChain.find? (ownedBy projectId taskId call.result.auditId) = some record)
  (hlive : record.live = true)
  (hnew : resultIdentity rt projectId taskId call.result ∉ d.appliedResults)

include hindex hget hrecord hlive hnew

theorem decideRecord_effect (now : String) (advances : Bool) {status comment : String}
    (hstatus : strip status ≠ "") :
    SettleEffect rt projectId taskId call d
      (decideRecord rt projectId taskId call.result now d index record advances status
        comment) := by
  obtain ⟨hfollows, done, hdone, hended⟩ := decided_follows
    (makeAttempt call.result now (resultIdempotencyKey rt call.result)) now advances hindex
      hget hlive
  exact .decided hrecord hlive hnew hfollows rfl hdone hended rfl
    ⟨rfl, rfl, rfl, rfl, rfl⟩ (Decided.status_nonblank hstatus)

omit hindex in
theorem retryResult_effect (now : String) (reason : ResultRejection) :
    SettleEffect rt projectId taskId call d
      (retryResult rt projectId taskId call.result now d index record reason) :=
  .retried hrecord hlive hnew (ChainFollows.set hget (retryRecord_follows _ _ _ _ hlive)) rfl rfl

end Owned

variable (rt projectId taskId call d) in
theorem settle_effect (issueIds : List String) :
    SettleEffect rt projectId taskId call d (settle rt projectId taskId issueIds call d) := by
  unfold settle
  dsimp only
  split
  · rename_i hreplay
    exact .replayed hreplay.1 hreplay.2
  · rename_i hfresh
    cases hindex : d.pendingChain.findIdx?
        fun r => r.auditId = call.result.auditId && r.ofTask projectId taskId with
    | none => exact .refused rfl
    | some index =>
      have hfind : d.pendingChain.find? (ownedBy projectId taskId call.result.auditId) =
          d.pendingChain[index]? := by
        rw [List.find?_eq_bind_findIdx?_getElem?]
        exact congrArg (fun i => i.bind fun i => d.pendingChain[i]?) hindex
      cases hrecord : d.pendingChain.find?
          fun r => r.auditId = call.result.auditId && r.ofTask projectId taskId with
      | none => exact .refused rfl
      | some record =>
        have hget : d.pendingChain[index]? = some record := hfind.symm.trans hrecord
        have howned : d.pendingChain.any
            (fun r => r.auditId = call.result.auditId && r.ofTask projectId taskId) =
              true :=
          List.any_eq_true.mpr ⟨record, List.mem_of_find?_eq_some hrecord,
              (List.find?_eq_some_iff_getElem.mp hrecord).1⟩
        have hnew : resultIdentity rt projectId taskId call.result ∉ d.appliedResults :=
          fun happlied => hfresh ⟨happlied, howned⟩
        dsimp only
        cases hadmits : admits rt projectId issueIds call.result d.pendingChain record with
        | some reason => exact .refused rfl
        | none =>
          have hlive := admits_live hadmits
          cases hroute : routeResult rt call.result record.previousState with
          | error e => exact .raised e
          | ok action =>
            cases action with
            | reject reason => exact .refused rfl
            | nonterminal reason =>
              dsimp only
              split
              · exact .refused rfl
              · exact retryResult_effect hget hrecord hlive hnew _ reason
            | pass status comment =>
              dsimp only
              split
              · exact .refused rfl
              · exact decideRecord_effect hindex hget hrecord hlive hnew _ true
                  (routeResult_nonblank (Or.inl hroute))
            | fail status comment =>
              dsimp only
              split
              · exact .refused rfl
              · exact decideRecord_effect hindex hget hrecord hlive hnew _ false
                  (routeResult_nonblank (Or.inr hroute))

end Settle

/-!
# A call
-/

/-- What a call on a stored document comes to. -/
inductive Effect (rt : AuditRuntime) (projectId taskId : String) (call : ApplyCall)
    (d : TerminalAuditMetadata) : Applied -> Prop where
  | refused {outcome : ResultOutcome} (h : outcome.success = false) :
      Effect rt projectId taskId call d (.ok outcome, d, [])
  | raised (e : PyError) : Effect rt projectId taskId call d (.error e, d, [])
  | replayed (happlied : resultIdentity rt projectId taskId call.result ∈ d.appliedResults)
      (howned : d.pendingChain.any (ownedBy projectId taskId call.result.auditId) = true) :
      Effect rt projectId taskId call d (.ok (replayed rt projectId taskId call.result d), d, [])
  | replaced {q : Request} {outcome : ResultOutcome} {writes : List TrackerWrite}
      (hq : q.revalidateCompleted = true) (h : outcome.success = false) :
      Effect rt projectId taskId call d
        (.ok outcome, (transitionLocked rt q call.environment d).2.1, writes)
  | retried {reason : ResultRejection} {after : TerminalAuditMetadata}
      (h : SettleEffect rt projectId taskId call d (.retried reason after)) :
      Effect rt projectId taskId call d
        (.ok { success := true, auditId := some call.result.auditId, reason := some reason },
          after.stored rt.table, [])
  | decided {issue : Issue} {decision : Decided} {after : TerminalAuditMetadata}
      (hissue : issue.identifier = taskId)
      (h : SettleEffect rt projectId taskId call d (.decided decision after)) :
      Effect rt projectId taskId call d
        (finish rt projectId call issue decision (after.stored rt.table))

section Effect

variable {rt : AuditRuntime} {projectId taskId : String} {call : ApplyCall} {issue : Issue}
  {d : TerminalAuditMetadata}

variable (projectId call) in
theorem applyCurrent_effect (hstored : d.stored rt.table = d) (hissue : issue.identifier = taskId) :
    Effect rt projectId taskId call d (applyCurrent rt projectId call issue d) := by
  unfold applyCurrent
  dsimp only
  split
  · exact .refused rfl
  · split
    · exact .refused rfl
    · unfold applySettlement
      split
      · exact .refused rfl
      · rw [hissue]
        have heffect := settle_effect rt projectId taskId call d
          (taskId :: (issue.id.filter (· ≠ "")).toList)
        cases hcase : settle rt projectId taskId
            (taskId :: (issue.id.filter (· ≠ "")).toList) call d with
        | raised e => exact .raised e
        | answered outcome =>
          rw [hcase] at heffect
          rw [hstored]
          cases heffect with
          | refused h => exact .refused h
          | replayed happlied howned => exact .replayed happlied howned
        | retried reason after =>
          rw [hcase] at heffect
          exact .retried heffect
        | decided decision after =>
          rw [hcase] at heffect
          exact .decided hissue heffect

theorem applyRead_effect (hstored : d.stored rt.table = d) (hissue : issue.identifier = taskId) :
    Effect rt projectId taskId call d (applyRead rt projectId call issue d) := by
  have hcurrent := applyCurrent_effect projectId call hstored hissue
  unfold applyRead
  dsimp only
  split
  · exact .refused rfl
  split
  · unfold applyOutside
    dsimp only
    rw [hissue]
    split
    · rename_i hreplay
      exact .replayed hreplay.2 hreplay.1
    · exact .refused rfl
  split
  · exact .refused rfl
  split
  · cases driftedRecord projectId issue.identifier call.result d with
    | error reason => exact .refused rfl
    | ok stale =>
      dsimp only
      split
      · exact hcurrent
      · split
        · exact .refused rfl
        · unfold applyDrifted
          dsimp only
          split
          · exact .replaced rfl rfl
          · exact .replaced rfl rfl
  · exact hcurrent

variable (projectId call) in
theorem applyAuditResult_effect (hstored : d.stored rt.table = d) :
    Effect rt projectId call.currentIssue.identifier call d
      (applyAuditResult rt projectId call d) := by
  have hlocked : forall issue : Issue, issue.identifier = call.currentIssue.identifier ->
        Effect rt projectId call.currentIssue.identifier call d
          (applyResultLocked rt projectId call issue d) := by
    intro issue hissue
    unfold applyResultLocked
    split
    · split
      · exact .refused rfl
      · split
        · exact .refused rfl
        · rename_i read _ hread
          exact applyRead_effect hstored ((not_not.mp hread).trans hissue)
    · exact applyRead_effect hstored hissue
  unfold applyAuditResult
  split
  · split
    · exact .refused rfl
    · split
      · exact .refused rfl
      · rename_i howned
        split
        · exact .refused rfl
        · apply hlocked
          by_contra hne
          exact howned (Or.inl hne)
  · exact hlocked _ rfl

end Effect
end TerminalAudit
end Oompah
