import Oompah.WorkflowJobs.LaneWrites

/-!
# Writes of the snapshot and archive operations

Restoring and rolling back authority, the generation counters and the event
archive, and the permit of every operation.
-/

namespace Oompah
namespace WorkflowJobs

open Foundation
open Writes (single)

/-!
# Retirement soundness along writes
-/

variable {s s' : Store} {retirement : JobRetirement}

theorem RetirementSound.of_jobs (hjobs : s'.jobs = s.jobs) (h : RetirementSound s retirement) :
    RetirementSound s' retirement := by
  unfold RetirementSound
  rw [hjobs]
  exact h

theorem RetirementSound.of_kept (hkept : forall row, s.jobs.find? retirement.jobId = some row ->
      exists row', s'.jobs.find? retirement.jobId = some row' ∧ RowKept row row')
    (h : RetirementSound s retirement) :
    RetirementSound s' retirement := by
  rcases h with ⟨row, hrow, hproject, htask, hmanaged⟩
  rcases hkept row hrow with ⟨row', hrow', hrowKept⟩
  refine ⟨row', hrow', ?_, ?_, ?_⟩
  · rw [hrowKept.spec]
    exact hproject
  · rw [hrowKept.spec]
    exact htask
  · exact fun hkind => hrowKept.managed (hmanaged hkind)

variable {p : Permit}

theorem RetirementSound.writes (hwrites : Writes p s s')
    (hcaptures : p.CapturesKnown s) (h : RetirementSound s retirement) :
    RetirementSound s' retirement :=
  h.of_kept (fun _ hrow => hwrites.row_kept hcaptures hrow)

/-- What a checkpoint captured still makes sense of the store. -/
structure AuthoritySound (s : Store) (authority : WorkflowSnapshotAuthority) :
    Prop where
  managed : forall row, row ∈ authority.jobs -> row.workflowManaged = true
  known : forall captured, captured ∈ authority.jobs ->
    exists row, s.jobs.find? captured.jobId = some row ∧ RowKept captured row
  retirements : forall retirement, retirement ∈ authority.retirements ->
    RetirementSound s retirement
  cursors : (authority.cursors.map (fun cursor =>
    (cursor.projectId, cursor.taskId))).Nodup
  covered : forall cursor, cursor ∈ authority.cursors ->
    authority.covers cursor.projectId cursor.taskId = true

namespace Store

variable {p : Permit} {s s' : Store}

/-!
# Restore
-/

variable {authority : WorkflowSnapshotAuthority}

theorem capturedJob_eq_some {jobId : String} {captured : WorkflowJob}
    (h : authority.capturedJob jobId = some captured) :
    captured ∈ authority.jobs ∧ captured.jobId = jobId := by
  constructor
  · exact List.mem_of_find?_eq_some h
  · simpa using List.find?_some h

variable {snapshot : Nat} {now : Int}

theorem restorePlan_allows {row : WorkflowJob} {action : RowAction}
    {event : Option LoggedEvent} {current : Store}
    (hcaptures : forall captured, captured ∈ authority.jobs -> p.captures captured)
    (h : s.restorePlan authority snapshot now row = some (action, event)) :
    p.Allows current action row := by
  unfold restorePlan at h
  split at h
  · cases h
  · rename_i hquarantined
    split at h
    · cases h
    · split at h
      · rename_i captured hcaptured
        cases h
        rcases capturedJob_eq_some hcaptured with ⟨hmem, hid⟩
        refine ⟨⟨hid, hquarantined⟩, by simp [RowAction.phaseArgument],
          by simp [RowAction.isReclaim], by simp [RowAction.isClaim], ?_,
          by simp [RowAction.rewritesCheckpoint], by simp [RowAction.grantedToken]⟩
        intro written hwritten
        cases hwritten
        exact hcaptures captured hmem
      · split at h
        · rename_i hactive
          cases h
          exact Permit.Allows.of_plain rfl ⟨hactive, hquarantined⟩
        · cases h

theorem selects_restoreRows (s : Store) (authority : WorkflowSnapshotAuthority) :
    s.Selects (s.restoreRows authority) :=
  selects_filter s _

theorem appendRollbackSummary_writes (snapshot : Nat) (reason : Option String) (now : Int)
    (group : (String × String) × List String) :
    Writes p s (s.appendRollbackSummary snapshot reason now group) := by
  unfold appendRollbackSummary
  split
  · exact Writes.refl s
  · exact single (Write.event s _)

theorem clearScope_writes (authority : WorkflowSnapshotAuthority) (snapshot : Nat) :
    Writes p s (s.clearScope authority snapshot) :=
  (Writes.tables (fun hunique => hunique.sublist List.filter_sublist)).trans
    (single (Write.dropRetirements _ _))

theorem reinsertCursors_unique (hsound : AuthoritySound s' authority)
    (hunique : CursorsUnique (s.clearScope authority snapshot).tables) :
    CursorsUnique
      { (s.clearScope authority snapshot).tables with
        cursors := (s.clearScope authority snapshot).tables.cursors ++ authority.cursors
        members := (s.clearScope authority snapshot).tables.members ++
          authority.memberships } := by
  apply hunique.replace authority.cursors
    (fun cursor => authority.covers cursor.projectId cursor.taskId)
    hsound.cursors
  · intro cursor known hcursor hproject htask
    rw [hproject, htask]
    exact hsound.covered cursor hcursor
  · change _ = List.filter _ (List.filter _ s.tables.cursors) ++ _
    simp [clearScope, dropRetirements, withTables]

theorem insertRetirement_eq_ok {retirement : JobRetirement}
    (h : s.insertRetirement retirement = .ok s') :
    s' = s.retire retirement := by
  unfold insertRetirement at h
  split at h
  · cases h
  · cases h
    rfl

variable {retirements : List JobRetirement}

theorem insertRetirements_writes (hsound : forall retirement, retirement ∈ retirements ->
      RetirementSound s retirement)
    (h : retirements.foldlM insertRetirement s = .ok s') :
    Writes p s s' := by
  induction retirements generalizing s with
  | nil =>
    cases h
    exact Writes.refl _
  | cons retirement rest ih =>
    rw [List.foldlM_cons, bind_eq_ok] at h
    rcases h with ⟨middle, hfirst, hrest⟩
    rw [insertRetirement_eq_ok hfirst] at hrest
    have hretire : Writes p s (s.retire retirement) :=
      single (Write.retire (hsound retirement (by simp)))
    refine hretire.trans (ih ?_ hrest)
    intro other hother
    exact (hsound other (by simp [hother])).of_jobs rfl

/-- The stores a successful restore goes through. -/
structure Restored (s : Store) (authority : WorkflowSnapshotAuthority)
    (snapshot : Nat) (now : Int) (s' : Store) : Prop where
  current : s.snapshotGenerationIsCurrent snapshot = true
  unpublished : s.publishedGeneration < snapshot
  retired : exists middle,
    (authority.retirements.filter (fun retirement =>
      ¬ s.rearmedAfter authority retirement.jobId)).foldlM insertRetirement
      ((((groupByTask ((s.restoreRows authority).filter (fun row =>
          (s.restorePlan authority snapshot now row).isSome))).foldl
        (fun s group => s.appendRollbackSummary snapshot none now group)
        (s.actEach (s.restoreRows authority)
          (s.restorePlan authority snapshot now) now)).clearScope authority
        snapshot).withTables (fun tables =>
          { tables with
            cursors := tables.cursors ++ authority.cursors
            members := tables.members ++ authority.memberships })) =
        .ok middle ∧
      s' = { middle with
        counters :=
          { middle.counters with accepted := some s.publishedGeneration } }

theorem restoreSnapshotAuthority_eq_ok {result : Bool}
    (h : s.restoreSnapshotAuthority authority snapshot now = .ok (s', result)) :
    s' = s ∧ (result = true -> authority.hasScope = false) ∨
      result = true ∧ authority.hasScope = true ∧ Restored s authority snapshot now s' := by
  unfold restoreSnapshotAuthority positiveGeneration at h
  rw [require_bind_eq_ok] at h
  have hbody := h.right
  split at hbody
  · rename_i hscope
    cases hbody
    exact .inl ⟨rfl, fun _ => by simpa using hscope⟩
  · rename_i hscope
    split at hbody
    · cases hbody
      exact .inl ⟨rfl, by simp⟩
    · rename_i hfence
      rw [bind_eq_ok] at hbody
      rcases hbody with ⟨middle, hmiddle, hbody⟩
      cases hbody
      refine .inr ⟨rfl, by simpa using hscope, ?_⟩
      simp only [not_or, Nat.not_le, Bool.not_eq_false] at hfence
      exact ⟨hfence.right, hfence.left, middle, hmiddle, rfl⟩

/-- The summaries touch the ledger only. -/
theorem foldl_appendRollbackSummary_kept (s : Store) (snapshot : Nat) (now : Int)
    (groups : List ((String × String) × List String)) :
    let summarized :=
      groups.foldl (fun s group => s.appendRollbackSummary snapshot none now group) s
    summarized.jobs = s.jobs ∧ summarized.retirements = s.retirements := by
  induction groups generalizing s with
  | nil => exact ⟨rfl, rfl⟩
  | cons group rest ih =>
    rw [List.foldl_cons]
    refine ⟨(ih _).left.trans ?_, (ih _).right.trans ?_⟩ <;>
    · unfold appendRollbackSummary
      split <;> rfl

theorem insertRetirements_jobs (h : retirements.foldlM insertRetirement s = .ok s') :
    s'.jobs = s.jobs := by
  apply foldlM_relation (R := fun a b : Store => b.jobs = a.jobs)
    (fun _ => rfl) (fun _ _ _ hab hbc => hbc.trans hab) _ h
  intro a retirement b _ hbody
  rw [insertRetirement_eq_ok hbody]
  rfl

theorem Restored.jobs (h : Restored s authority snapshot now s') :
    s'.jobs = (s.actEach (s.restoreRows authority)
      (s.restorePlan authority snapshot now) now).jobs := by
  rcases h.retired with ⟨middle, hmiddle, hs'⟩
  rw [hs']
  change middle.jobs = _
  rw [insertRetirements_jobs hmiddle]
  exact (foldl_appendRollbackSummary_kept _ _ _ _).left

theorem restore_rows_writes (hsound : AuthoritySound s authority) (snapshot : Nat) (now : Int)
    (hcaptures : forall captured, captured ∈ authority.jobs -> p.captures captured) :
    Writes p s
      ((((groupByTask ((s.restoreRows authority).filter (fun row =>
          (s.restorePlan authority snapshot now row).isSome))).foldl
        (fun s group => s.appendRollbackSummary snapshot none now group)
        (s.actEach (s.restoreRows authority)
          (s.restorePlan authority snapshot now) now)).clearScope authority
        snapshot).withTables (fun tables =>
          { tables with
            cursors := tables.cursors ++ authority.cursors
            members := tables.members ++ authority.memberships })) := by
  have hrows : Writes p s (s.actEach (s.restoreRows authority)
      (s.restorePlan authority snapshot now) now) := by
    apply actEach_writes (selects_restoreRows s authority)
    intro _ row action event _ hplan
    exact restorePlan_allows hcaptures hplan
  have hsummaries := foldl_relation (R := Writes p) Writes.refl (fun _ _ _ => Writes.trans)
    (groupByTask ((s.restoreRows authority).filter (fun row =>
      (s.restorePlan authority snapshot now row).isSome)))
    (fun s group _ => appendRollbackSummary_writes (s := s) snapshot none now group)
    (s.actEach (s.restoreRows authority) (s.restorePlan authority snapshot now) now)
  exact ((hrows.trans hsummaries).trans (clearScope_writes authority snapshot)).trans
      (Writes.tables (reinsertCursors_unique hsound))

theorem Writes_counters (h : Writes p s s') : s'.counters = s.counters ∨ p.fences s'.counters := by
  induction h with
  | refl => exact .inl rfl
  | tail _ hlast ih =>
    cases hlast with
    | fence _ hfence => exact .inr hfence
    | act => exact ih
    | insert => exact ih
    | event => exact ih
    | tables => exact ih
    | retire => exact ih
    | dropRetirements => exact ih
    | relocate => exact ih

theorem Restored.writes (hsound : AuthoritySound s authority)
    (hcaptures : forall captured, captured ∈ authority.jobs -> p.captures captured)
    (hknown : p.CapturesKnown s)
    (hfence : forall counters : SnapshotCounters,
      counters = { s.counters with accepted := some s.publishedGeneration } -> p.fences counters)
    (hfences : forall counters, p.fences counters ->
      counters = { s.counters with accepted := some s.publishedGeneration })
    (h : Restored s authority snapshot now s') :
    Writes p s s' := by
  rcases h.retired with ⟨middle, hmiddle, hs'⟩
  have hrows := restore_rows_writes (s := s) (p := p) hsound snapshot now hcaptures
  have hretired : Writes p s middle := by
    apply hrows.trans (insertRetirements_writes _ hmiddle)
    intro retirement hretirement
    have hmem := (List.mem_filter.mp hretirement).left
    exact (hsound.retirements retirement hmem).writes hrows hknown
  have hcounters : middle.counters = s.counters ∨ middle.counters =
        { s.counters with accepted := some s.publishedGeneration } :=
    (Writes_counters hretired).imp id (hfences _)
  have hreset : p.fences { middle.counters with accepted := some s.publishedGeneration } := by
    apply hfence
    rcases hcounters with hcounters | hcounters
    · rw [hcounters]
    · rw [hcounters]
  rw [hs']
  exact hretired.trans (single (Write.fence rfl hreset))

/-!
# Rollback
-/

theorem rollbackTask_writes (snapshot : Nat) (now : Int) (s : Store) (identity : String × String) :
    Writes p s (rollbackTask snapshot now s identity) := by
  have hfenced : Writes p s (s.actEach
      ((s.activeManagedRows identity.1 identity.2).filter (fun row =>
        ¬ row.isQuarantined))
      (fun _ => some (.supersede ("publication-rollback:" ++ toString snapshot)
        "workflow snapshot publication did not commit" now, none)) now) := by
    apply actEach_writes ((selects_activeManagedRows s identity.1 identity.2).sublist
        List.filter_sublist)
    intro _ row action event hrow hplan
    cases hplan
    rw [List.mem_filter, mem_activeManagedRows] at hrow
    exact Permit.Allows.of_plain rfl ⟨hrow.left.right.right, by simpa using hrow.right⟩
  exact (hfenced.trans (appendRollbackSummary_writes snapshot _ now _)).trans
    ((Writes.tables (fun hunique => hunique.sublist List.filter_sublist)).trans
      (single (Write.dropRetirements _ _)))

theorem rollbackProject_writes (snapshot : Nat) (s : Store) (projectId : String) :
    Writes p s (rollbackProject snapshot s projectId) :=
  (Writes.tables (fun hunique => hunique.sublist List.filter_sublist)).trans
    (single (Write.dropRetirements _ _))

theorem rollbackSnapshotAuthority_writes
    {projects : List String} {identities : List (String × String)} {result : Bool}
    (h : s.rollbackSnapshotAuthority snapshot projects identities now = .ok (s', result)) :
    Writes p s s' := by
  unfold rollbackSnapshotAuthority positiveGeneration at h
  rw [require_bind_eq_ok] at h
  have hbody := h.right
  split at hbody
  · cases hbody
    exact Writes.refl s
  · cases hbody
    have htasks := foldl_relation (R := Writes p) Writes.refl (fun _ _ _ => Writes.trans)
      (s.rollbackTasks (sortedTexts projects) identities)
      (fun s identity _ => rollbackTask_writes snapshot now s identity) s
    have hprojects := foldl_relation (R := Writes p) Writes.refl
      (fun _ _ _ => Writes.trans) (sortedTexts projects)
      (fun s projectId _ => rollbackProject_writes snapshot s projectId)
      ((s.rollbackTasks (sortedTexts projects) identities).foldl (rollbackTask snapshot now) s)
    exact htasks.trans hprojects

/-!
# Archive
-/

/-- Hot events may leave the ledger, its sequence counters stay. -/
structure Relocation (before after : EventLedger) : Prop where
  hot : List.Sublist after.hot before.hot
  autoincrement : after.autoincrement = before.autoincrement
  highwater : after.highwater = before.highwater

theorem archiveEvent_hot (now : Int) (ledger : EventLedger) (event : WorkflowJobEvent) :
    (ledger.archiveEvent now event).hot = ledger.hot ∧
      (ledger.archiveEvent now event).autoincrement = ledger.autoincrement ∧
      (ledger.archiveEvent now event).highwater = ledger.highwater := by
  unfold EventLedger.archiveEvent
  split
  · exact ⟨rfl, rfl, rfl⟩
  · exact ⟨rfl, rfl, rfl⟩

theorem foldl_archiveEvent_hot (now : Int) (events : List WorkflowJobEvent) (ledger : EventLedger) :
    (events.foldl (EventLedger.archiveEvent now) ledger).hot = ledger.hot ∧
      (events.foldl (EventLedger.archiveEvent now) ledger).autoincrement = ledger.autoincrement ∧
      (events.foldl (EventLedger.archiveEvent now) ledger).highwater = ledger.highwater := by
  induction events generalizing ledger with
  | nil => exact ⟨rfl, rfl, rfl⟩
  | cons event rest ih =>
    have hrest := ih (ledger.archiveEvent now event)
    have hfirst := archiveEvent_hot now ledger event
    exact ⟨hrest.left.trans hfirst.left, hrest.right.left.trans hfirst.right.left,
      hrest.right.right.trans hfirst.right.right⟩

theorem relocate_hot (ledger : EventLedger) (selected : List WorkflowJobEvent)
    (eligible : WorkflowJobEvent -> Bool) (now : Int) :
    (ledger.relocate selected eligible now).hot =
      ledger.hot.filter (fun event =>
        !(eligible event && EventLedger.inSequenceRange selected event.sequence)) := by
  change List.filter _ (selected.foldl (EventLedger.archiveEvent now) ledger).hot = _
  rw [(foldl_archiveEvent_hot now selected ledger).left]

theorem relocation_relocate (ledger : EventLedger)
    (selected : List WorkflowJobEvent) (eligible : WorkflowJobEvent -> Bool)
    (now : Int) :
    Relocation ledger (ledger.relocate selected eligible now) where
  hot := by
    rw [relocate_hot]
    exact List.filter_sublist
  autoincrement := (foldl_archiveEvent_hot now selected ledger).right.left
  highwater := (foldl_archiveEvent_hot now selected ledger).right.right

theorem archiveTask_writes (budget : Nat) (now : Int)
    (acc : Store × Nat × Nat) (candidate : String × String)
    (hrelocates : forall before after, Relocation before after -> p.relocates before after) :
    Writes p acc.1 (archiveTask budget now acc candidate).1 := by
  unfold archiveTask
  split
  · exact Writes.refl _
  · dsimp only
    split
    · exact Writes.refl _
    · exact single (Write.relocate (hrelocates _ _ (relocation_relocate _ _ _ _)))

theorem archiveLifecycleFinalEvents_writes (maxTasks maxEvents : Nat) (now : Int)
    (hrelocates : forall before after, Relocation before after -> p.relocates before after) :
    Writes p s (s.archiveLifecycleFinalEvents maxTasks maxEvents now).1 := by
  have htask : forall (acc : Store × Nat × Nat) (candidate : String × String),
      candidate ∈ s.archivalCandidates maxTasks ->
        Writes p acc.1 (archiveTask (max 1 maxEvents) now acc candidate).1 := by
    intro acc candidate _
    exact archiveTask_writes _ now acc candidate hrelocates
  exact foldl_relation (R := fun a b : Store × Nat × Nat => Writes p a.1 b.1)
    (fun _ => Writes.refl _) (fun _ _ _ => Writes.trans) _ htask (s, 0, 0)

theorem archiveRollbackEvents_writes (maxEvents keepRecent : Nat) (now : Int)
    (hrelocates : p.relocates s.ledger
      (s.ledger.relocate (s.archivableRollbackEvents maxEvents keepRecent) isRollbackEvent now)) :
    Writes p s (s.archiveRollbackEvents maxEvents keepRecent now).1 := by
  unfold archiveRollbackEvents
  dsimp only
  split
  · exact Writes.refl s
  · exact single (Write.relocate hrelocates)

theorem pruneArchivedEvents_writes (olderThan : Int) (maxEvents : Nat)
    (hrelocates : forall cold, p.relocates s.ledger { s.ledger with cold := cold }) :
    Writes p s (s.pruneArchivedEvents olderThan maxEvents).1 :=
  single (Write.relocate (hrelocates _))

/-!
# Counters
-/

theorem allocateSnapshotGeneration_writes
    (hfence : forall generation, s.counters.allocated.getD 0 < generation ->
      p.fences { s.counters with allocated := some generation }) :
    Writes p s s.allocateSnapshotGeneration.1 := by
  have hlt : s.counters.allocated.getD 0 < s.nextOrderingGeneration := by
    unfold nextOrderingGeneration
    omega
  exact single (Write.fence (s := s) rfl (hfence _ hlt))

theorem acceptSnapshotGeneration_eq_ok {generation : Nat} {accepted : Bool}
    (h : s.acceptSnapshotGeneration generation = .ok (s', accepted)) :
    accepted = false ∧ s' = s ∨ accepted = true ∧ 1 ≤ generation ∧
        s.counters.allocated.getD 0 = generation ∧
        s.counters.accepted.getD 0 < generation ∧
        s' = { s with
          counters := { s.counters with accepted := some generation } } := by
  unfold acceptSnapshotGeneration positiveGeneration at h
  rw [require_bind_eq_ok] at h
  rcases h with ⟨hpositive, h⟩
  split at h
  · cases h
    exact .inl ⟨rfl, rfl⟩
  · rename_i hguard
    cases h
    simp only [not_or, not_not, Nat.not_le] at hguard
    exact .inr ⟨rfl, hpositive, hguard.left.symm, hguard.right, rfl⟩

theorem acceptSnapshotGeneration_writes {generation : Nat} {accepted : Bool}
    (hfence : s.counters.allocated.getD 0 = generation -> s.counters.accepted.getD 0 < generation ->
        p.fences { s.counters with accepted := some generation })
    (h : s.acceptSnapshotGeneration generation = .ok (s', accepted)) :
    Writes p s s' := by
  rcases acceptSnapshotGeneration_eq_ok h with
    ⟨_, hs'⟩ | ⟨_, _, hallocated, haccepted, hs'⟩
  · rw [hs']
    exact Writes.refl s
  · rw [hs']
    exact single (Write.fence rfl (hfence hallocated haccepted))

end Store

/-!
# The permit of every operation
-/

def ScheduleOp.inserts (spec : WorkflowJobSpec) : ScheduleOp -> Prop
  | .reconcileSchedule _ _ _ _ specs _ _ _ _ =>
    exists item, item ∈ specs ∧ item.1 = spec
  | _ => False

def Op.permit (checkpoints : List WorkflowSnapshotAuthority) (s : Store) : Op -> Permit
  | .enqueue spec _ _ => { specs := fun inserted => inserted = spec }
  | .enqueueReplacingLane spec _ _ _ _ _ _ _ =>
    { specs := fun inserted => inserted = spec }
  | .rearmExhaustedJob jobId _ phase _ _ =>
    { phases := fun text => text = phase
      rewrites := fun row => row.jobId = jobId }
  | .materializeEvent _ _ _ => { specs := fun spec => spec.phase = "intent" }
  | .schedule op => { specs := fun spec => op.inserts spec }
  | .schedulingBatch ops =>
    { specs := fun spec => exists op, op ∈ ops ∧ op.inserts spec }
  | .claimNext _ leaseToken _ filter fairAcrossProjects recoveryLimit now =>
    { tokens := fun token => token = leaseToken
      claims := fun current row =>
        current = s.recoverForClaim filter recoveryLimit now ∧
          current.selectClaim filter fairAcrossProjects now = some row ∧
          current.taskIsRunning row filter.compatibleRunningActions = false }
  | .checkpoint jobId _ phase _ _ =>
    { phases := fun text => text = phase
      rewrites := fun row => row.jobId = jobId }
  | .fail _ _ _ _ _ _ phase _ => { phases := fun text => phase = some text }
  | .requeueOwnedWithoutAttempt jobId _ _ phase _ _ =>
    { phases := fun text => text = phase
      rewrites := fun row => row.jobId = jobId }
  | .settleQuarantinedCall jobId _ _ _ _ _ _ _ _ =>
    { rewrites := fun row => row.jobId = jobId }
  | .markQuarantineRecycleRequested jobId _ _ =>
    { rewrites := fun row => row.jobId = jobId }
  | .reclaimAbandoned jobId leaseToken _ replacementToken _ expectedPhase _ =>
    { tokens := fun token => token = replacementToken
      reclaims := fun row => s.jobs.find? jobId = some row ∧
        row.state = .running ∧ row.leaseToken = some leaseToken ∧
        (forall phase, expectedPhase = some phase -> row.phase = phase) }
  | .recoverAbandoned _ phase _ _ _ =>
    { phases := fun text => phase = some text }
  | .allocateSnapshotGeneration =>
    { fences := fun counters => exists generation,
        s.counters.allocated.getD 0 < generation ∧
          counters = { s.counters with allocated := some generation } }
  | .acceptSnapshotGeneration generation =>
    { fences := fun counters =>
        s.counters.allocated.getD 0 = generation ∧ s.counters.accepted.getD 0 < generation ∧
          counters = { s.counters with accepted := some generation } }
  | .restoreSnapshotAuthority index _ _ =>
    { captures := fun row => exists authority,
        checkpoints[index]? = some authority ∧ row ∈ authority.jobs
      fences := fun counters =>
        counters = { s.counters with accepted := some s.publishedGeneration } }
  | .archiveLifecycleFinalEvents _ _ _ => { relocates := Store.Relocation }
  | .archiveRollbackEvents _ _ _ =>
    { relocates := fun before after => Store.Relocation before after ∧
        forall event, event ∈ before.hot -> event.eventType = "rearmed" ->
          event ∈ after.hot }
  | .pruneArchivedEvents _ _ =>
    { relocates := fun before after => Store.Relocation before after ∧
        after.hot = before.hot }
  | _ => {}

theorem map_eq_ok {ε α β : Type} {x : Except ε α} {f : α -> β} {b : β} :
    x.map f = .ok b <-> exists a, x = .ok a ∧ f a = b := by
  cases x with
  | error e => simp [Except.map]
  | ok a => simp [Except.map]

theorem map_store_eq_ok {α β : Type} {x : Except StoreError (Store × α)}
    {f : α -> β} {s' : Store} {result : β}
    (h : x.map (Prod.map id f) = .ok (s', result)) :
    exists a, x = .ok (s', a) ∧ f a = result := by
  rcases map_eq_ok.mp h with ⟨⟨written, a⟩, hx, heq⟩
  cases heq
  exact ⟨a, hx, rfl⟩

theorem ScheduleOp.apply_writes {op : ScheduleOp}
    {result : OpResult} (hspecs : forall spec, op.inserts spec -> p.specs spec)
    (h : op.apply s = .ok (s', result)) :
    Writes p s s' := by
  cases op with
  | activateSchedule =>
    rcases map_store_eq_ok h with ⟨_, hok, _⟩
    rcases Store.activateSchedule_eq_ok hok with rfl | ⟨_, rfl⟩
    · exact Writes.refl _
    · exact Store.upsertCursor_writes _ _ _ _ _ _
  | reconcileSchedule =>
    rcases map_store_eq_ok h with ⟨_, hok, _⟩
    exact Store.reconcileSchedule_writes (fun item hitem => hspecs item.1 ⟨item, hitem, rfl⟩) hok
  | recordLifecycleFinalAuthority =>
    rcases map_store_eq_ok h with ⟨_, hok, _⟩
    exact Store.recordLifecycleFinalAuthority_writes hok

theorem ScheduleOp.applyBatch_writes {ops : List ScheduleOp}
    (hspecs : forall op, op ∈ ops -> forall spec, op.inserts spec -> p.specs spec)
    (h : ScheduleOp.applyBatch s ops = .ok s') :
    Writes p s s' := by
  apply foldlM_relation Writes.refl (fun _ _ _ => Writes.trans) _ h
  intro s op s' hop hbody
  rcases map_eq_ok.mp hbody with ⟨⟨written, result⟩, hok, heq⟩
  cases heq
  exact ScheduleOp.apply_writes (hspecs op hop) hok

/-- Every checkpoint still makes sense of the store. -/
def CheckpointsSound (checkpoints : List WorkflowSnapshotAuthority) (s : Store) : Prop :=
  forall authority, authority ∈ checkpoints -> AuthoritySound s authority

theorem Op.apply_writes {checkpoints : List WorkflowSnapshotAuthority} {op : Op} {result : OpResult}
    (hsound : CheckpointsSound checkpoints s) (h : op.apply checkpoints s = .ok (s', result)) :
    Writes (op.permit checkpoints s) s s' := by
  cases op with
  | enqueue =>
    rcases map_store_eq_ok h with ⟨_, hok, _⟩
    exact Store.enqueue_writes rfl hok
  | enqueueReplacingLane =>
    rcases map_store_eq_ok h with ⟨_, hok, _⟩
    exact Store.enqueueReplacingLane_writes rfl hok
  | rearmExhaustedJob =>
    rcases map_store_eq_ok h with ⟨_, hok, _⟩
    exact Store.rearmExhaustedJob_writes rfl (fun _ hid => hid) hok
  | materializeEvent =>
    rcases map_store_eq_ok h with ⟨_, hok, _⟩
    exact Store.materializeEvent_writes (fun _ hphase => hphase) hok
  | retireEventLane =>
    rcases map_store_eq_ok h with ⟨_, hok, _⟩
    exact Store.retireEventLane_writes hok
  | activateEventOrder =>
    rcases map_store_eq_ok h with ⟨_, hok, _⟩
    exact Store.activateEventOrder_writes hok
  | reconcileEventHandoffRetirements =>
    rcases map_store_eq_ok h with ⟨_, hok, _⟩
    exact Store.reconcileEventHandoffRetirements_writes hok
  | schedule op => exact op.apply_writes (fun _ hspec => hspec) h
  | schedulingBatch ops =>
    rcases map_eq_ok.mp h with ⟨written, hok, heq⟩
    cases heq
    exact ScheduleOp.applyBatch_writes (fun op hop _ hspec => ⟨op, hop, hspec⟩) hok
  | reconcileSnapshotMembership =>
    rcases map_store_eq_ok h with ⟨_, hok, _⟩
    exact Store.reconcileSnapshotMembership_relation Writes.refl (fun _ _ _ => Writes.trans)
      (fun projectId acc taskId => Store.retireAbsentTask_writes _ projectId _ acc taskId)
      (fun _ _ _ => Writes.tables id) hok
  | allocateDecisionWindow =>
    rcases map_store_eq_ok h with ⟨_, hok, _⟩
    rcases Store.allocateDecisionWindow_eq_ok hok with ⟨_, rfl⟩
    exact Writes.tables id
  | claimNext =>
    rcases map_store_eq_ok h with ⟨_, hok, _⟩
    exact Store.claimNext_writes (fun _ hselect hidle => ⟨rfl, hselect, hidle⟩) rfl hok
  | renew =>
    rcases map_store_eq_ok h with ⟨_, hok, _⟩
    exact Store.renew_writes hok
  | checkpoint =>
    rcases map_store_eq_ok h with ⟨_, hok, _⟩
    exact Store.checkpoint_writes rfl (fun _ hid => hid) hok
  | complete =>
    rcases map_store_eq_ok h with ⟨_, hok, _⟩
    exact Store.complete_writes hok
  | fail =>
    rcases map_store_eq_ok h with ⟨_, hok, _⟩
    exact Store.fail_writes (fun _ hphase => hphase) hok
  | requeueOwnedWithoutAttempt =>
    rcases map_store_eq_ok h with ⟨_, hok, _⟩
    exact Store.requeueOwnedWithoutAttempt_writes rfl (fun _ hid => hid) hok
  | deferOwnedWithoutAttempt =>
    rcases map_store_eq_ok h with ⟨_, hok, _⟩
    exact Store.deferOwnedWithoutAttempt_writes hok
  | deferOwnedUntil =>
    rcases map_store_eq_ok h with ⟨_, hok, _⟩
    exact Store.deferOwnedUntil_writes hok
  | cancelOwned =>
    rcases map_store_eq_ok h with ⟨_, hok, _⟩
    exact Store.cancelOwned_writes hok
  | quarantineOwned =>
    rcases map_store_eq_ok h with ⟨_, hok, _⟩
    exact Store.quarantineOwned_writes hok
  | settleQuarantinedCall =>
    rcases map_store_eq_ok h with ⟨_, hok, _⟩
    exact Store.settleQuarantinedCall_writes (fun _ hid => hid) hok
  | markQuarantineRecycleRequested =>
    rcases map_store_eq_ok h with ⟨_, hok, _⟩
    exact Store.markQuarantineRecycleRequested_writes (fun _ hid => hid) hok
  | reclaimAbandoned =>
    rcases map_store_eq_ok h with ⟨_, hok, _⟩
    exact Store.reclaimAbandoned_writes
      (fun _ hfound hrunning htoken hphase =>
        ⟨hfound, hrunning, htoken, hphase⟩) rfl hok
  | recoverExpired =>
    rcases map_store_eq_ok h with ⟨_, hok, _⟩
    exact Store.recoverExpired_writes hok
  | recoverAbandoned =>
    rcases map_store_eq_ok h with ⟨_, hok, _⟩
    exact Store.recoverAbandoned_writes (fun _ hphase => hphase) hok
  | supersede =>
    rcases map_store_eq_ok h with ⟨_, hok, _⟩
    exact Store.supersede_writes hok
  | supersedeTaskGeneration =>
    rcases map_store_eq_ok h with ⟨_, hok, _⟩
    exact Store.supersedeTaskGeneration_writes hok
  | cancel =>
    rcases map_store_eq_ok h with ⟨_, hok, _⟩
    exact Store.cancel_writes hok
  | recordLandingFacts =>
    rcases map_eq_ok.mp h with ⟨written, hok, heq⟩
    cases heq
    exact Store.recordLandingFacts_writes hok
  | allocateSnapshotGeneration =>
    cases h
    exact Store.allocateSnapshotGeneration_writes (fun generation hlt => ⟨generation, hlt, rfl⟩)
  | allocateEventGeneration =>
    cases h
    exact Writes.tables id
  | acceptSnapshotGeneration =>
    rcases map_store_eq_ok h with ⟨_, hok, _⟩
    exact Store.acceptSnapshotGeneration_writes
      (fun hallocated haccepted => ⟨hallocated, haccepted, rfl⟩) hok
  | restoreSnapshotAuthority index snapshot now =>
    simp only [Op.apply] at h
    split at h
    · rename_i authority hauthority
      rcases map_store_eq_ok h with ⟨_, hok, _⟩
      have hauthoritySound := hsound authority (List.mem_of_getElem? hauthority)
      rcases Store.restoreSnapshotAuthority_eq_ok hok with
        ⟨hs', _⟩ | ⟨_, _, hrestored⟩
      · rw [hs']
        exact Writes.refl s
      · apply hrestored.writes hauthoritySound
        · intro captured hcaptured
          exact ⟨authority, hauthority, hcaptured⟩
        · constructor
          · rintro captured ⟨other, hother, hmem⟩
            rw [hauthority] at hother
            cases hother
            exact hauthoritySound.managed captured hmem
          · rintro captured ⟨other, hother, hmem⟩
            rw [hauthority] at hother
            cases hother
            exact hauthoritySound.known captured hmem
        · exact fun _ heq => heq
        · exact fun _ heq => heq
    · cases h
  | rollbackSnapshotAuthority =>
    rcases map_store_eq_ok h with ⟨_, hok, _⟩
    exact Store.rollbackSnapshotAuthority_writes hok
  | archiveLifecycleFinalEvents =>
    cases h
    exact Store.archiveLifecycleFinalEvents_writes _ _ _ (fun _ _ hrelocation => hrelocation)
  | archiveRollbackEvents =>
    cases h
    apply Store.archiveRollbackEvents_writes
    refine ⟨Store.relocation_relocate _ _ _ _, ?_⟩
    intro event hevent hrearmed
    rw [Store.relocate_hot, List.mem_filter]
    simp [hevent, Store.isRollbackEvent, hrearmed]
  | pruneArchivedEvents =>
    cases h
    exact Store.pruneArchivedEvents_writes _ _ (fun cold => ⟨⟨List.Sublist.refl _, rfl, rfl⟩, rfl⟩)

end WorkflowJobs
end Oompah
