import Oompah.TerminalAudit.Application

/-!
# Evidence drift

A result whose evidence has drifted is not applied: its target is requested again with the
evidence of the tracker.  That request carries the ref and SHA of the old record and its
workflow revision, never its landing revision, and a Done request withdraws the Merged
request behind it.
-/

namespace Oompah
namespace TerminalAudit

open Foundation
open TaskTransitions (Status)
open TaskEvaluation (TaskStatus statusText canonicalizeStatus)

/-!
# What a request leaves of the chain
-/

namespace Request

variable (rt : AuditRuntime) (q : Request) (chain : List TerminalAuditRecord)

/-- The request that supersedes a record: a duplicate of the kept record goes with every
record of its audit id. -/
def withdraws (r : TerminalAuditRecord) : Bool :=
  match strongest rt (chain.filter (q.activeMatch chain)) with
  | some kept =>
    q.supersedesBeside kept r ||
      (q.ofTask r && chain.any fun twin =>
        !q.supersedesBeside kept twin && q.duplicates kept twin && twin.auditId = r.auditId)
  | none => q.supersedes chain r

/-- The request is staged: it coalesces with no live record. -/
def stages : Bool :=
  (strongest rt (chain.filter (q.activeMatch chain))).isNone

/-- The record as the request leaves it. -/
def keep (now : String) (r : TerminalAuditRecord) : TerminalAuditRecord :=
  match strongest rt (chain.filter (q.activeMatch chain)) with
  | some kept =>
    let r' := if q.supersedesBeside kept r then r.supersede else r
    if (q.ofTask r && chain.any fun twin =>
        !q.supersedesBeside kept twin && q.duplicates kept twin &&
          twin.auditId = r.auditId) = true then
      r'.supersedeAt now
    else r'
  | none => if q.supersedes chain r then r.supersede else r

/-- The records the request appends. -/
def entries (env : Environment) : List TerminalAuditRecord :=
  if q.stages rt chain then
    q.newEntries (chain.map fun r => if q.supersedes chain r then r.supersede else r)
      env.now env.freshIds
  else []

/-- A kept Done record that a staged Merged request rests on. -/
def restsOn (r : TerminalAuditRecord) : Bool :=
  q.reusableDone r && r.standing && !q.supersedes chain r

/-- The targets a staged request brings back. -/
def restages (target : TargetState) : Bool :=
  target = q.target || (q.target = .merged && target = .done && !chain.any (q.restsOn chain))

end Request

section Chain

variable {rt : AuditRuntime} {q : Request} {chain : List TerminalAuditRecord}

@[simp] theorem supersede_state (r : TerminalAuditRecord) :
    r.supersede.requestState = .superseded := rfl

@[simp] theorem supersedeAt_state (r : TerminalAuditRecord) (now : String) :
    (r.supersedeAt now).requestState = .superseded := rfl

@[simp] theorem stored_state (t : CharacterTable) (r : TerminalAuditRecord) :
    (r.stored t).requestState = r.requestState := rfl

@[simp] theorem stored_target (t : CharacterTable) (r : TerminalAuditRecord) :
    (r.stored t).targetState = r.targetState := rfl

theorem keep_of_not_withdrawn {now : String} {r : TerminalAuditRecord}
    (h : q.withdraws rt chain r = false) : q.keep rt chain now r = r := by
  unfold Request.withdraws at h
  unfold Request.keep
  cases hkept : strongest rt (chain.filter (q.activeMatch chain)) with
  | none =>
    rw [hkept] at h
    simp only [h, Bool.false_eq_true, if_false]
  | some kept =>
    rw [hkept] at h
    simp only [Bool.or_eq_false_iff] at h
    rcases h with ⟨hbeside, htwin⟩
    simp only [hbeside, Bool.false_eq_true, if_false]
    rw [if_neg]
    rw [htwin]
    exact Bool.false_ne_true

theorem keep_of_withdrawn {now : String} {r : TerminalAuditRecord}
    (h : q.withdraws rt chain r = true) :
    (q.keep rt chain now r).requestState = .superseded := by
  unfold Request.withdraws at h
  unfold Request.keep
  cases hkept : strongest rt (chain.filter (q.activeMatch chain)) with
  | none =>
    rw [hkept] at h
    simp only [h, if_true, supersede_state]
  | some kept =>
    rw [hkept] at h
    rcases Bool.or_eq_true_iff.mp h with hbeside | htwin
    · simp only [hbeside, if_true]
      split
      · rfl
      · rfl
    · simp only [htwin, if_true, supersedeAt_state]

theorem completedMatch_revalidated (hq : q.revalidateCompleted = true)
    (r : TerminalAuditRecord) : q.completedMatch chain r = false := by
  unfold Request.completedMatch
  rw [hq]
  rfl

theorem mem_duplicates {kept : TerminalAuditRecord} {id : String} :
    id ∈ ((chain.map fun r => if q.supersedesBeside kept r then r.supersede else r).filter
        (q.duplicates kept)).map TerminalAuditRecord.auditId ↔
      (chain.any fun twin =>
        !q.supersedesBeside kept twin && q.duplicates kept twin && twin.auditId = id) =
          true := by
  rw [List.mem_map, List.any_eq_true]
  constructor
  · rintro ⟨x, hx, rfl⟩
    rcases List.mem_filter.mp hx with ⟨hmem, hdup⟩
    rcases List.mem_map.mp hmem with ⟨twin, htwin, rfl⟩
    by_cases hbeside : q.supersedesBeside kept twin = true
    · rw [if_pos hbeside] at hdup
      unfold Request.duplicates at hdup
      rw [Bool.and_eq_true] at hdup
      cases hdup.right
    · rw [if_neg hbeside] at hdup ⊢
      exact ⟨twin, htwin, by simp [hbeside, hdup]⟩
  · rintro ⟨twin, htwin, h⟩
    simp only [Bool.and_eq_true, Bool.not_eq_true', decide_eq_true_eq] at h
    refine ⟨twin, List.mem_filter.mpr ⟨List.mem_map.mpr ⟨twin, htwin, ?_⟩, h.1.2⟩, h.2⟩
    rw [h.1.1]
    rfl

/-- Retiring the duplicates of the kept record is what `keep` does to each record. -/
theorem retireListed_keep {kept : TerminalAuditRecord} {now : String}
    (hkept : strongest rt (chain.filter (q.activeMatch chain)) = some kept) :
    q.retireListed
        (((chain.map fun r => if q.supersedesBeside kept r then r.supersede else r).filter
          (q.duplicates kept)).map TerminalAuditRecord.auditId) now
        (chain.map fun r => if q.supersedesBeside kept r then r.supersede else r) =
      chain.map (q.keep rt chain now) := by
  unfold Request.retireListed
  rw [List.map_map]
  apply List.map_congr_left
  intro r _
  unfold Request.keep
  rw [hkept]
  have hscope : forall r' : TerminalAuditRecord,
      q.ofTask (if q.supersedesBeside kept r' then r'.supersede else r') = q.ofTask r' := by
    intro r'
    split <;> rfl
  have hid : forall r' : TerminalAuditRecord,
      (if q.supersedesBeside kept r' then r'.supersede else r').auditId = r'.auditId := by
    intro r'
    split <;> rfl
  simp only [Function.comp, hscope, hid, Bool.and_eq_true, decide_eq_true_eq, mem_duplicates]

theorem stage_revalidated (env : Environment) (d : TerminalAuditMetadata)
    (hq : q.revalidateCompleted = true) :
    (q.stages rt d.pendingChain = true ∧ q.stage rt env d =
          .staged ((d.pendingChain.filter (q.supersedes d.pendingChain)).map
              TerminalAuditRecord.auditId)
            (q.entries rt d.pendingChain env)
            (d.pendingChain.map (q.keep rt d.pendingChain env.now))) ∨
      (q.stages rt d.pendingChain = false ∧ exists result, q.stage rt env d =
          .early result (d.pendingChain.map (q.keep rt d.pendingChain env.now))) := by
  have hcompleted : d.pendingChain.find? (q.completedMatch d.pendingChain) = none := by
    rw [List.find?_eq_none]
    intro r _
    rw [completedMatch_revalidated hq]
    exact Bool.false_ne_true
  unfold Request.stage Request.stages
  dsimp only
  rw [hcompleted, hq]
  cases hkept : strongest rt (d.pendingChain.filter (q.activeMatch d.pendingChain)) with
  | none =>
    left
    refine ⟨rfl, ?_⟩
    unfold Request.entries Request.keep Request.stages
    rw [hkept]
    rfl
  | some kept =>
    right
    refine ⟨rfl, ?_⟩
    rw [← retireListed_keep hkept]
    exact ⟨_, rfl⟩

/-- The chain of a request that revalidates completed audits and succeeds. -/
theorem transitionLocked_chain {env : Environment} {d : TerminalAuditMetadata}
    (hq : q.revalidateCompleted = true)
    (hsuccess : (transitionLocked rt q env d).1.success = true) :
    (transitionLocked rt q env d).2.1.pendingChain =
      (d.pendingChain.map (q.keep rt d.pendingChain env.now) ++
        q.entries rt d.pendingChain env).map fun r => r.stored rt.table := by
  unfold transitionLocked at hsuccess ⊢
  cases hprojection : q.stagingProjection env with
  | error reason =>
    rw [hprojection] at hsuccess
    cases hsuccess
  | ok projection =>
    rw [hprojection] at hsuccess
    dsimp only at hsuccess ⊢
    by_cases hquarantined : d.quarantined = true
    · rw [if_pos hquarantined] at hsuccess
      cases hsuccess
    · rw [if_neg hquarantined]
      rcases stage_revalidated env d hq with
        ⟨_, hstage⟩ | ⟨hstages, result, hstage⟩
      · rw [hstage]
        rfl
      · rw [hstage]
        unfold Request.entries
        rw [hstages]
        simp only [Bool.false_eq_true, if_false, List.append_nil]
        rfl

end Chain

/-!
# What a staged request appends
-/

namespace Request

variable {q : Request} {chain : List TerminalAuditRecord} {now : String}
  {freshIds : Nat -> String} {r entry : TerminalAuditRecord}

/-- A record as a request makes it. -/
structure Appends (q : Request) (entry : TerminalAuditRecord) : Prop where
  state : entry.requestState = .pending
  project : entry.projectId = q.projectId
  task : entry.taskId = q.issue.identifier
  evidence : entry.evidenceFingerprint = q.evidence
  revision : entry.revision = q.revision
  workflow : entry.workflowRevision = q.workflowRevision

theorem make_appends (id : String) (target : TargetState)
    (eligibleAt prerequisite : Option String) :
    Appends q ((q.newRecords chain now).make id target eligibleAt prerequisite) :=
  ⟨rfl, rfl, rfl, rfl, rfl, rfl⟩

/-- The Done records of the chain that a Merged request finds. -/
theorem find_reusable :
    (chain.find? (fun r => q.reusableDone r && r.requestState = .completed) = none ∧
        chain.find? (fun r => q.reusableDone r && r.live) = none) ↔
      chain.any (fun r => q.reusableDone r && r.standing) = false := by
  simp only [List.find?_eq_none, List.any_eq_false, TerminalAuditRecord.standing,
    Bool.and_eq_true, Bool.or_eq_true, decide_eq_true_eq]
  constructor
  · rintro ⟨hcompleted, hlive⟩ r hr ⟨hreusable, hstanding⟩
    rcases hstanding with h | h
    · exact hlive r hr ⟨hreusable, h⟩
    · exact hcompleted r hr ⟨hreusable, h⟩
  · intro h
    exact ⟨fun r hr hr' => h r hr ⟨hr'.1, Or.inr hr'.2⟩,
      fun r hr hr' => h r hr ⟨hr'.1, Or.inl hr'.2⟩⟩

variable (q chain now freshIds) in
/-- The entries of a Merged request: a Merged record behind a standing Done, or behind the
Done record it queues. -/
theorem mergedEntries_cases : (exists done eligibleAt, done ∈ chain ∧ q.reusableDone done = true ∧
        done.standing = true ∧
        q.mergedEntries chain now freshIds =
          [(q.newRecords chain now).make (freshIds 0) .merged eligibleAt (some done.auditId)]) ∨
      (chain.any (fun r => q.reusableDone r && r.standing) = false ∧
        q.mergedEntries chain now freshIds =
          [(q.newRecords chain now).make (freshIds 0) .done none none,
            (q.newRecords chain now).make (freshIds 1) .merged none (some (freshIds 0))]) := by
  unfold mergedEntries
  cases hcompleted : chain.find? fun r => q.reusableDone r && r.requestState = .completed with
  | some done =>
    have hdone := List.find?_some hcompleted
    simp only [Bool.and_eq_true, decide_eq_true_eq] at hdone
    refine .inl ⟨done, some now, List.mem_of_find?_eq_some hcompleted, hdone.1, ?_, rfl⟩
    unfold TerminalAuditRecord.standing
    simp [hdone.2]
  | none =>
    cases hactive : chain.find? fun r => q.reusableDone r && r.live with
    | some done =>
      have hdone := List.find?_some hactive
      simp only [Bool.and_eq_true] at hdone
      refine .inl ⟨done, none, List.mem_of_find?_eq_some hactive, hdone.1, ?_, rfl⟩
      unfold TerminalAuditRecord.standing
      rw [hdone.2, Bool.true_or]
    | none => exact .inr ⟨find_reusable.mp ⟨hcompleted, hactive⟩, rfl⟩

theorem appends_of_mem (h : entry ∈ q.newEntries chain now freshIds) : Appends q entry := by
  unfold newEntries at h
  split at h
  · rcases mergedEntries_cases q chain now freshIds with
      ⟨done, eligibleAt, _, _, _, hentries⟩ | ⟨_, hentries⟩
    · rw [hentries, List.mem_singleton] at h
      rw [h]
      exact make_appends _ _ _ _
    · rw [hentries, List.mem_pair] at h
      rcases h with rfl | rfl
      · exact make_appends _ _ _ _
      · exact make_appends _ _ _ _
  · rw [List.mem_singleton] at h
    rw [h]
    exact make_appends _ _ _ _

theorem exists_newEntries_target {target : TargetState} :
    (exists entry, entry ∈ q.newEntries chain now freshIds ∧ entry.targetState = target) ↔
      target = q.target ∨ (q.target = .merged ∧ target = .done ∧
          chain.any (fun r => q.reusableDone r && r.standing) = false) := by
  unfold newEntries
  split
  · rename_i hmerged
    rcases mergedEntries_cases q chain now freshIds with
      ⟨done, eligibleAt, hmem, hreusable, hstanding, hentries⟩ | ⟨hnone, hentries⟩
    · have hany : chain.any (fun r => q.reusableDone r && r.standing) = true :=
        List.any_eq_true.mpr ⟨done, hmem, by rw [hreusable, hstanding]; rfl⟩
      rw [hentries, hany, hmerged]
      simp [NewRecords.make, eq_comm]
    · rw [hentries, hnone, hmerged]
      simp [NewRecords.make, eq_comm, or_comm]
  · rename_i hmerged
    simp only [List.mem_singleton, exists_eq_left]
    constructor
    · intro h
      exact .inl h.symm
    · rintro (h | h)
      · exact h.symm
      · exact absurd h.1 hmerged

/-- A Merged entry is chained behind a standing Done record or behind an entry. -/
theorem newEntries_chained (h : entry ∈ q.newEntries chain now freshIds)
    (hmerged : entry.targetState = .merged) :
    exists done, done.targetState = .done ∧ entry.prerequisiteAuditId = some done.auditId ∧
      ((done ∈ chain ∧ q.reusableDone done = true ∧ done.standing = true) ∨
        done ∈ q.newEntries chain now freshIds) := by
  have htarget : q.target = .merged := by
    rcases exists_newEntries_target.mp ⟨entry, h, hmerged⟩ with h' | ⟨h', _⟩
    · exact h'.symm
    · exact h'
  have hnew : q.newEntries chain now freshIds = q.mergedEntries chain now freshIds := by
    unfold newEntries
    rw [htarget]
  rw [hnew] at h ⊢
  rcases mergedEntries_cases q chain now freshIds with
    ⟨done, eligibleAt, hmem, hreusable, hstanding, hentries⟩ | ⟨_, hentries⟩
  · rw [hentries, List.mem_singleton] at h
    refine ⟨done, ?_, ?_, Or.inl ⟨hmem, hreusable, hstanding⟩⟩
    · unfold reusableDone at hreusable
      simp only [Bool.and_eq_true, decide_eq_true_eq] at hreusable
      exact hreusable.1.1.1.1.1
    · rw [h]
      rfl
  · rw [hentries, List.mem_pair] at h
    rw [hentries]
    rcases h with rfl | rfl
    · cases hmerged
    · exact ⟨_, rfl, rfl, Or.inr List.mem_cons_self⟩

/-- A staged Done record has the first of the new identifiers. -/
theorem newEntries_done (h : entry ∈ q.newEntries chain now freshIds)
    (hdone : entry.targetState = .done) : entry.auditId = freshIds 0 := by
  unfold newEntries at h
  split at h
  · rcases mergedEntries_cases q chain now freshIds with
      ⟨done, eligibleAt, _, _, _, hentries⟩ | ⟨_, hentries⟩
    · rw [hentries, List.mem_singleton] at h
      rw [h] at hdone
      cases hdone
    · rw [hentries, List.mem_pair] at h
      rcases h with rfl | rfl
      · rfl
      · cases hdone
  · rw [List.mem_singleton] at h
    rw [h]
    rfl

end Request

/-!
# Targets that survive
-/

/-- The Done record of the task that a record is chained behind. -/
def prerequisiteOf (projectId taskId : String) (evidence : EvidenceFingerprint)
    (r done : TerminalAuditRecord) : Bool :=
  done.ofTask projectId taskId && done.targetState = .done && done.standing &&
    done.evidenceFingerprint = evidence && r.prerequisiteAuditId = some done.auditId

/-- A live record that asks, with the evidence given, for what another record asked: the
same target under the same delivery authority, chained behind a Done record when it is
Merged. -/
structure Renews (projectId taskId : String) (evidence : EvidenceFingerprint)
    (chain : List TerminalAuditRecord) (old new : TerminalAuditRecord) : Prop where
  mem : new ∈ chain
  live : new.live = true
  task : new.ofTask projectId taskId = true
  target : new.targetState = old.targetState
  fingerprint : new.evidenceFingerprint = evidence
  revision : new.revision = old.revision
  workflow : new.workflowRevision = old.workflowRevision
  chained : new.targetState = .merged ->
    exists done, done ∈ chain ∧ prerequisiteOf projectId taskId evidence new done = true

/-- Every live record of the task that the step marks superseded is renewed. -/
def KeepsTargets (projectId taskId : String) (evidence : EvidenceFingerprint)
    (before after : List TerminalAuditRecord) : Prop :=
  forall (i : Nat) (old marked : TerminalAuditRecord), before[i]? = some old ->
    old.live = true -> old.ofTask projectId taskId = true -> after[i]? = some marked ->
      marked.requestState = .superseded ->
        exists new, Renews projectId taskId evidence after old new

namespace Request

variable (rt : AuditRuntime) (q : Request) (chain : List TerminalAuditRecord)

/-- The request stages the target of the record under the authority of the record. -/
def restaged (r : TerminalAuditRecord) : Bool :=
  q.stages rt chain && q.restages chain r.targetState && r.revision = q.revision &&
    r.workflowRevision = q.workflowRevision

/-- The Done record behind a Merged one stays or is the one that the request stages. -/
def staysChained (stagedId : String) (r : TerminalAuditRecord) : Bool :=
  r.targetState ≠ .merged ||
    (chain.any fun done =>
      !q.withdraws rt chain done &&
        prerequisiteOf q.projectId q.issue.identifier q.evidence r done) ||
    (q.stages rt chain && q.restages chain .done && r.prerequisiteAuditId = some stagedId)

/-- A live record beside `r` that the request leaves alone. -/
def twin (stagedId : String) (r other : TerminalAuditRecord) : Bool :=
  !q.withdraws rt chain other && other.live && q.ofTask other &&
    other.targetState = r.targetState && other.evidenceFingerprint = q.evidence &&
    other.revision = r.revision && other.workflowRevision = r.workflowRevision &&
    q.staysChained rt chain stagedId other

/-- Every live record of the task that the request withdraws is staged again or has a
twin. -/
def keepsTargets (stagedId : String) : Bool :=
  chain.all fun r =>
    !(r.live && q.ofTask r && q.withdraws rt chain r) || q.restaged rt chain r ||
      chain.any (q.twin rt chain stagedId r)

end Request

section Targets

variable {rt : AuditRuntime} {q : Request} {chain : List TerminalAuditRecord}
  {env : Environment} {r : TerminalAuditRecord}

/-- The chain that a request leaves. -/
def Request.leaves (rt : AuditRuntime) (q : Request) (chain : List TerminalAuditRecord)
    (env : Environment) : List TerminalAuditRecord :=
  (chain.map (q.keep rt chain env.now) ++ q.entries rt chain env).map fun r =>
    r.stored rt.table

/-- The request names only what storage keeps as it is. -/
structure Request.Storable (t : CharacterTable) (q : Request) : Prop where
  project : redactForStorage t q.projectId = q.projectId
  task : redactForStorage t q.issue.identifier = q.issue.identifier
  revision : q.revision.stored t = q.revision
  workflow : q.workflowRevision.map (redactForStorage t) = q.workflowRevision

theorem Request.Appends.stored (hq : q.Storable rt.table) (h : q.Appends r) :
    q.Appends (r.stored rt.table) where
  state := h.state
  project := by
    change redactForStorage rt.table r.projectId = q.projectId
    rw [h.project, hq.project]
  task := by
    change redactForStorage rt.table r.taskId = q.issue.identifier
    rw [h.task, hq.task]
  evidence := h.evidence
  revision := by
    change r.revision.stored rt.table = q.revision
    rw [h.revision, hq.revision]
  workflow := by
    change r.workflowRevision.map (redactForStorage rt.table) = q.workflowRevision
    rw [h.workflow, hq.workflow]

theorem Request.Appends.live (h : q.Appends r) : r.live = true := by
  unfold TerminalAuditRecord.live
  rw [h.state]
  rfl

theorem Request.Appends.standing (h : q.Appends r) : r.standing = true := by
  unfold TerminalAuditRecord.standing
  rw [h.live, Bool.true_or]

theorem Request.Appends.ofTask (h : q.Appends r) : q.ofTask r = true := by
  unfold Request.ofTask TerminalAuditRecord.ofTask
  rw [h.project, h.task]
  simp

theorem not_superseded_of_standing (h : r.standing = true) : r.requestState ≠ .superseded := by
  intro hstate
  unfold TerminalAuditRecord.standing TerminalAuditRecord.live at h
  rw [hstate] at h
  cases h

theorem standing_of_live (h : r.live = true) : r.standing = true := by
  unfold TerminalAuditRecord.standing
  rw [h, Bool.true_or]

/-- The records a request leaves that are not superseded: those it leaves alone and those
it appends. -/
theorem mem_leaves (hchain : forall r, r ∈ chain -> r.stored rt.table = r)
    (hr : r.requestState ≠ .superseded) :
    r ∈ q.leaves rt chain env ↔ (r ∈ chain ∧ q.withdraws rt chain r = false) ∨
        exists entry, entry ∈ q.entries rt chain env ∧ entry.stored rt.table = r := by
  unfold Request.leaves
  rw [List.map_append, List.map_map, List.mem_append, List.mem_map, List.mem_map]
  apply or_congr_left
  constructor
  · rintro ⟨old, hmem, hold⟩
    have hkept : q.withdraws rt chain old = false := by
      by_contra hwithdraws
      rw [Bool.not_eq_false] at hwithdraws
      apply hr
      rw [← hold]
      exact keep_of_withdrawn hwithdraws
    have hsame : old = r := by
      rw [← hold, Function.comp, keep_of_not_withdrawn hkept, hchain old hmem]
    rw [← hsame]
    exact ⟨hmem, hkept⟩
  · rintro ⟨hmem, hkept⟩
    refine ⟨r, hmem, ?_⟩
    rw [Function.comp, keep_of_not_withdrawn hkept, hchain r hmem]

theorem exists_entries_target (env : Environment) {target : TargetState} :
    (exists entry, entry ∈ q.entries rt chain env ∧ entry.targetState = target) ↔
      q.stages rt chain = true ∧ q.restages chain target = true := by
  unfold Request.entries
  by_cases hstages : q.stages rt chain = true
  · rw [if_pos hstages, Request.exists_newEntries_target]
    have hrests : ((chain.map fun r => if q.supersedes chain r then r.supersede else r).any
        fun r => q.reusableDone r && r.standing) = chain.any (q.restsOn chain) := by
      rw [List.any_map]
      congr 1
      funext r
      unfold Request.restsOn
      by_cases hsupersedes : q.supersedes chain r = true
      · simp only [Function.comp, hsupersedes, if_true, Bool.not_true, Bool.and_false]
        exact Bool.and_false _
      · simp [hsupersedes]
    rw [hrests]
    unfold Request.restages
    simp only [hstages, true_and, Bool.or_eq_true, Bool.and_eq_true, decide_eq_true_eq,
      Bool.not_eq_true', and_assoc]
  · simp [hstages]

theorem appends_of_entries {entry : TerminalAuditRecord}
    (h : entry ∈ q.entries rt chain env) : q.Appends entry := by
  unfold Request.entries at h
  split at h
  · exact Request.appends_of_mem h
  · cases h

/-- A request leaves its Merged entries chained behind a Done record. -/
theorem entries_chained (hchain : forall r, r ∈ chain -> r.stored rt.table = r)
    (hq : q.Storable rt.table) {entry : TerminalAuditRecord}
    (h : entry ∈ q.entries rt chain env) (hmerged : entry.targetState = .merged) :
    exists done, done ∈ q.leaves rt chain env ∧
      prerequisiteOf q.projectId q.issue.identifier q.evidence (entry.stored rt.table) done =
        true := by
  have hstages : q.stages rt chain = true := by
    by_contra hstages
    unfold Request.entries at h
    rw [if_neg hstages] at h
    cases h
  have hentries : q.entries rt chain env =
      q.newEntries (chain.map fun r => if q.supersedes chain r then r.supersede else r)
        env.now env.freshIds := by
    unfold Request.entries
    rw [if_pos hstages]
  obtain ⟨done, hdone, hprerequisite, hsource⟩ :=
    Request.newEntries_chained (hentries ▸ h) hmerged
  have hid : (entry.stored rt.table).prerequisiteAuditId = some (done.stored rt.table).auditId := by
    change entry.prerequisiteAuditId.map (redactForStorage rt.table) = _
    rw [hprerequisite]
    rfl
  rcases hsource with ⟨hmem, hreusable, hstanding⟩ | hnew
  · obtain ⟨old, hold, hsame⟩ := List.mem_map.mp hmem
    have hkept : q.supersedes chain old = false := by
      by_contra hsupersedes
      rw [Bool.not_eq_false] at hsupersedes
      rw [if_pos hsupersedes] at hsame
      rw [← hsame] at hstanding
      cases hstanding
    rw [hkept] at hsame
    have hsame : old = done := hsame
    rw [← hsame] at hid hdone hreusable hstanding
    unfold Request.reusableDone at hreusable
    simp only [Bool.and_eq_true, decide_eq_true_eq] at hreusable
    refine ⟨old, (mem_leaves hchain (not_superseded_of_standing hstanding)).mpr
      (Or.inl ⟨hold, ?_⟩), ?_⟩
    · unfold Request.withdraws
      rw [Option.isNone_iff_eq_none.mp hstages]
      exact hkept
    · rw [hchain old hold] at hid
      have htask : old.ofTask q.projectId q.issue.identifier = true := hreusable.1.1.1.1.2
      unfold prerequisiteOf
      rw [htask, hdone, hstanding, hreusable.1.1.1.2, hid]
      simp
  · rw [← hentries] at hnew
    have happends := (appends_of_entries hnew).stored hq
    refine ⟨done.stored rt.table, (mem_leaves hchain ?_).mpr (Or.inr ⟨done, hnew, rfl⟩), ?_⟩
    · exact not_superseded_of_standing happends.standing
    · have htask : (done.stored rt.table).ofTask q.projectId q.issue.identifier = true :=
        happends.ofTask
      unfold prerequisiteOf
      rw [htask, stored_target, hdone, happends.standing, happends.evidence, hid]
      simp

theorem leaves_get {i : Nat} {old : TerminalAuditRecord} (h : chain[i]? = some old) :
    (q.leaves rt chain env)[i]? = some ((q.keep rt chain env.now old).stored rt.table) := by
  have hlt : i < chain.length := (List.getElem?_eq_some_iff.mp h).1
  unfold Request.leaves
  rw [List.getElem?_map, List.getElem?_append_left (by rw [List.length_map]; exact hlt),
    List.getElem?_map, h]
  rfl

/-- A record that the request leaves alone renews another when it is its twin. -/
theorem twin_of_renews (hchain : forall r, r ∈ chain -> r.stored rt.table = r)
    {new : TerminalAuditRecord}
    (h : Renews q.projectId q.issue.identifier q.evidence (q.leaves rt chain env) r new)
    (hkept : q.withdraws rt chain new = false) :
    q.twin rt chain (redactForStorage rt.table (env.freshIds 0)) r new = true := by
  have hchained :
      q.staysChained rt chain (redactForStorage rt.table (env.freshIds 0)) new = true := by
    unfold Request.staysChained
    by_cases hmerged : new.targetState = .merged
    · obtain ⟨done, hdone, hprerequisite⟩ := h.chained hmerged
      have hfields := hprerequisite
      unfold prerequisiteOf at hfields
      simp only [Bool.and_eq_true, decide_eq_true_eq] at hfields
      rcases (mem_leaves hchain (not_superseded_of_standing hfields.1.1.2)).mp hdone with
        ⟨hmem, hstays⟩ | ⟨entry, hentry, hsame⟩
      · have hany : (chain.any fun done =>
            !q.withdraws rt chain done &&
              prerequisiteOf q.projectId q.issue.identifier q.evidence new done) = true :=
          List.any_eq_true.mpr ⟨done, hmem, by rw [hstays, hprerequisite]; rfl⟩
        rw [hany, Bool.or_true, Bool.true_or]
      · have htarget : entry.targetState = .done := by
          rw [← stored_target rt.table, hsame]
          exact hfields.1.1.1.2
        have hstages := (exists_entries_target env).mp ⟨entry, hentry, htarget⟩
        have hid : done.auditId = redactForStorage rt.table (env.freshIds 0) := by
          have hentry' := hentry
          unfold Request.entries at hentry'
          rw [if_pos hstages.1] at hentry'
          rw [← Request.newEntries_done hentry' htarget, ← hsame]
          rfl
        rw [hstages.1, hstages.2, hfields.2, hid]
        simp
    · simp [hmerged]
  have htask : q.ofTask new = true := h.task
  unfold Request.twin
  rw [hkept, h.live, htask, h.target, h.fingerprint, h.revision, h.workflow, hchained]
  simp

theorem renews_of_twin (hchain : forall r, r ∈ chain -> r.stored rt.table = r)
    (hq : q.Storable rt.table) {other : TerminalAuditRecord} (hmem : other ∈ chain)
    (h : q.twin rt chain (redactForStorage rt.table (env.freshIds 0)) r other = true) :
    Renews q.projectId q.issue.identifier q.evidence (q.leaves rt chain env) r other := by
  unfold Request.twin at h
  simp only [Bool.and_eq_true, decide_eq_true_eq, Bool.not_eq_true'] at h
  obtain ⟨⟨⟨⟨⟨⟨⟨hkept, hlive⟩, htask⟩, htarget⟩, hevidence⟩, hrevision⟩, hworkflow⟩, hchained⟩ := h
  refine ⟨?_, hlive, htask, htarget, hevidence, hrevision, hworkflow, ?_⟩
  · exact (mem_leaves hchain (not_superseded_of_standing (standing_of_live hlive))).mpr
      (Or.inl ⟨hmem, hkept⟩)
  · intro hmerged
    unfold Request.staysChained at hchained
    simp only [hmerged, ne_eq, not_true_eq_false, decide_false, Bool.false_or,
      Bool.or_eq_true, List.any_eq_true, Bool.and_eq_true, Bool.not_eq_true',
      decide_eq_true_eq] at hchained
    rcases hchained with ⟨done, hdone, hstays, hprerequisite⟩ | ⟨⟨hstages, hrestages⟩, hid⟩
    · refine ⟨done, (mem_leaves hchain ?_).mpr (Or.inl ⟨hdone, hstays⟩), hprerequisite⟩
      unfold prerequisiteOf at hprerequisite
      simp only [Bool.and_eq_true] at hprerequisite
      exact not_superseded_of_standing hprerequisite.1.1.2
    · obtain ⟨entry, hentry, hdone⟩ :=
        (exists_entries_target env).mpr ⟨hstages, hrestages⟩
      have happends := (appends_of_entries hentry).stored hq
      have hentryId : entry.auditId = env.freshIds 0 := by
        have hentry' := hentry
        unfold Request.entries at hentry'
        rw [if_pos hstages] at hentry'
        exact Request.newEntries_done hentry' hdone
      have hstoredId : (entry.stored rt.table).auditId =
          redactForStorage rt.table (env.freshIds 0) := by
        rw [← hentryId]
        rfl
      refine ⟨entry.stored rt.table,
        (mem_leaves hchain (not_superseded_of_standing happends.standing)).mpr
          (Or.inr ⟨entry, hentry, rfl⟩), ?_⟩
      have hofTask : (entry.stored rt.table).ofTask q.projectId q.issue.identifier = true :=
        happends.ofTask
      unfold prerequisiteOf
      rw [hofTask, stored_target, hdone, happends.standing, happends.evidence, hid, hstoredId]
      simp

/-- A request keeps the targets of a task exactly when every live record that it withdraws
is staged again under its own authority or has a twin. -/
theorem keepsTargets_iff (hchain : forall r, r ∈ chain -> r.stored rt.table = r)
    (hq : q.Storable rt.table) :
    KeepsTargets q.projectId q.issue.identifier q.evidence chain (q.leaves rt chain env) ↔
      q.keepsTargets rt chain (redactForStorage rt.table (env.freshIds 0)) = true := by
  unfold Request.keepsTargets KeepsTargets
  rw [List.all_eq_true]
  constructor
  · intro hkeeps r hr
    cases hwithdrawn : r.live && q.ofTask r && q.withdraws rt chain r with
    | false => rfl
    | true =>
      simp only [Bool.and_eq_true] at hwithdrawn
      obtain ⟨i, hi⟩ := List.getElem?_of_mem hr
      obtain ⟨new, hnew⟩ := hkeeps i r _ hi hwithdrawn.1.1 hwithdrawn.1.2 (leaves_get hi)
        (keep_of_withdrawn hwithdrawn.2)
      have hstanding := not_superseded_of_standing (standing_of_live hnew.live)
      rcases (mem_leaves hchain hstanding).mp hnew.mem with
        ⟨hmem, hkept⟩ | ⟨entry, hentry, hsame⟩
      · have htwin := twin_of_renews hchain hnew hkept
        rw [List.any_eq_true.mpr ⟨new, hmem, htwin⟩, Bool.or_true]
      · have happends := (appends_of_entries hentry).stored hq
        have htarget : entry.targetState = r.targetState := by
          rw [← hnew.target, ← hsame]
          rfl
        have hstages := (exists_entries_target env).mp ⟨entry, hentry, htarget⟩
        have hrestaged : q.restaged rt chain r = true := by
          unfold Request.restaged
          rw [hstages.1, hstages.2, ← hnew.revision, ← hnew.workflow, ← hsame,
            happends.revision, happends.workflow]
          simp
        rw [hrestaged, Bool.or_true, Bool.true_or]
  · intro hkeeps i old marked hold hlive htask hmarked hsuperseded
    have hmem := List.mem_of_getElem? hold
    have hwithdrawn : q.withdraws rt chain old = true := by
      by_contra hkept
      rw [Bool.not_eq_true] at hkept
      rw [leaves_get hold, keep_of_not_withdrawn hkept, Option.some_inj] at hmarked
      rw [← hmarked, stored_state] at hsuperseded
      exact not_superseded_of_standing (standing_of_live hlive) hsuperseded
    have htask' : q.ofTask old = true := htask
    have hold' := hkeeps old hmem
    rw [hlive, htask', hwithdrawn] at hold'
    rcases Bool.or_eq_true_iff.mp hold' with hrestaged | htwin
    · have hrestaged : q.restaged rt chain old = true := hrestaged
      unfold Request.restaged at hrestaged
      simp only [Bool.and_eq_true, decide_eq_true_eq] at hrestaged
      obtain ⟨⟨⟨hstages, hrestages⟩, hrevision⟩, hworkflow⟩ := hrestaged
      obtain ⟨entry, hentry, htarget⟩ :=
        (exists_entries_target env).mpr ⟨hstages, hrestages⟩
      have happends := (appends_of_entries hentry).stored hq
      exact ⟨entry.stored rt.table,
        { mem := (mem_leaves hchain (not_superseded_of_standing happends.standing)).mpr
            (Or.inr ⟨entry, hentry, rfl⟩)
          live := happends.live
          task := happends.ofTask
          target := htarget
          fingerprint := happends.evidence
          revision := happends.revision.trans hrevision.symm
          workflow := happends.workflow.trans hworkflow.symm
          chained := fun hmerged => entries_chained hchain hq hentry hmerged }⟩
    · obtain ⟨other, hother, htwin⟩ := List.any_eq_true.mp htwin
      exact ⟨other, renews_of_twin hchain hq hother htwin⟩

end Targets
end TerminalAudit
end Oompah
