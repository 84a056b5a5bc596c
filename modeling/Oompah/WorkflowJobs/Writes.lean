import Oompah.WorkflowJobs.System

/-!
# What an operation may write

A permit lists what one operation may do to the store beyond plain row
actions.  `Writes` chains the primitive writes a permit allows.  Every
operation has a permit, and a successful call is a chain of writes under it;
invariants are then proved of one write.
-/

namespace Oompah
namespace WorkflowJobs

open Foundation

/-- The managed kinds only ever retire managed jobs. -/
def AuthorityKind.isManaged : AuthorityKind -> Bool
  | .managedDecision | .managedZeroJob => true
  | _ => false

/-- A retirement row names an existing job of its task, managed for a managed kind. -/
def RetirementSound (s : Store) (retirement : JobRetirement) : Prop :=
  exists row, s.jobs.find? retirement.jobId = some row ∧ row.spec.projectId = retirement.projectId ∧
    row.spec.taskId = retirement.taskId ∧
    (retirement.authorityKind.isManaged = true -> row.workflowManaged = true)

/-- `PRIMARY KEY(project_id, task_id)` of the schedule cursors. -/
def CursorsUnique (tables : ScheduleTables) : Prop :=
  (tables.cursors.map (fun cursor =>
    (cursor.projectId, cursor.taskId))).Nodup

theorem CursorsUnique.sublist {tables tables' : ScheduleTables} (h : CursorsUnique tables)
    (hsublist : List.Sublist tables'.cursors tables.cursors) :
    CursorsUnique tables' :=
  (hsublist.map _).nodup h

/-- Clearing the tasks of a scope makes room for its cursors. -/
theorem CursorsUnique.replace {tables tables' : ScheduleTables}
    (h : CursorsUnique tables) (added : List WorkflowScheduleCursor)
    (clears : WorkflowScheduleCursor -> Bool)
    (hadded : (added.map (fun cursor =>
      (cursor.projectId, cursor.taskId))).Nodup)
    (hclears : forall cursor known, cursor ∈ added ->
      known.projectId = cursor.projectId -> known.taskId = cursor.taskId -> clears known = true)
    (hcursors : tables'.cursors = tables.cursors.filter (fun cursor => !clears cursor) ++ added) :
    CursorsUnique tables' := by
  unfold CursorsUnique
  rw [hcursors, List.map_append, List.nodup_append]
  refine ⟨(List.filter_sublist.map _).nodup h, hadded, ?_⟩
  intro kept hkept inserted hinserted heq
  rcases List.mem_map.mp hkept with ⟨known, hknown, hkey⟩
  rcases List.mem_map.mp hinserted with ⟨cursor, hcursor, hkey'⟩
  rw [← hkey, ← hkey', Prod.mk.injEq] at heq
  have hcleared := hclears cursor known hcursor heq.left heq.right
  simp [hcleared] at hknown

/-- What no write changes in a row: its identity, and management once gained. -/
structure RowKept (row row' : WorkflowJob) : Prop where
  spec : row'.spec = row.spec
  sequence : row'.enqueueSequence = row.enqueueSequence
  managed : row.workflowManaged = true -> row'.workflowManaged = true

theorem RowKept.refl (row : WorkflowJob) : RowKept row row := ⟨rfl, rfl, id⟩

theorem RowKept.trans {first second third : WorkflowJob}
    (h : RowKept first second) (h' : RowKept second third) :
    RowKept first third where
  spec := h'.spec.trans h.spec
  sequence := h'.sequence.trans h.sequence
  managed := fun hmanaged => h'.managed (h.managed hmanaged)

structure Permit where
  /-- Phase texts it writes from an argument. -/
  phases : String -> Prop := fun _ => False
  /-- Specs it inserts. -/
  specs : WorkflowJobSpec -> Prop := fun _ => False
  /-- Running rows it hands to a new owner. -/
  reclaims : WorkflowJob -> Prop := fun _ => False
  /-- Rows it leases. -/
  claims : Store -> WorkflowJob -> Prop := fun _ _ => False
  /-- Rows whose saved checkpoint it replaces or clears. -/
  rewrites : WorkflowJob -> Prop := fun _ => False
  /-- Tokens of the leases it grants. -/
  tokens : String -> Prop := fun _ => False
  /-- Captured rows it writes back. -/
  captures : WorkflowJob -> Prop := fun _ => False
  /-- The allocation and acceptance counters it leaves. -/
  fences : SnapshotCounters -> Prop := fun _ => False
  /-- Hot events it relocates or cold ones it prunes. -/
  relocates : EventLedger -> EventLedger -> Prop := fun _ _ => False

namespace Permit

structure Allows (p : Permit) (s : Store) (action : RowAction)
    (row : WorkflowJob) : Prop where
  applicable : action.Applicable row
  phases : forall phase, action.phaseArgument = some phase -> p.phases phase
  reclaims : action.isReclaim = true -> p.reclaims row
  claims : action.isClaim = true -> p.claims s row
  captures : forall captured, action.capturedRow = some captured -> p.captures captured
  rewrites : action.rewritesCheckpoint = true -> p.rewrites row
  tokens : forall token, action.grantedToken = some token -> p.tokens token

theorem Allows.of_plain {p : Permit} {s : Store} {action : RowAction}
    {row : WorkflowJob} (hplain : action.isPlain = true)
    (happlicable : action.Applicable row) :
    p.Allows s action row := by
  simp only [RowAction.isPlain, Bool.and_eq_true, Bool.not_eq_true',
    Option.isNone_iff_eq_none] at hplain
  rcases hplain with ⟨⟨⟨⟨hphase, hreclaim⟩, hclaim⟩, hcaptured⟩, hrewrites⟩
  constructor
  · exact happlicable
  · simp [hphase]
  · simp [hreclaim]
  · simp [hclaim]
  · simp [hcaptured]
  · simp [hrewrites]
  · simp [RowAction.grantedToken_eq_none hclaim hreclaim]

/-- An action that rewrites the checkpoint and is plain otherwise. -/
theorem Allows.of_rewrite {p : Permit} {s : Store} {action : RowAction} {row : WorkflowJob}
    (hphase : forall phase, action.phaseArgument = some phase -> p.phases phase)
    (hrewrites : action.rewritesCheckpoint = true) (hrow : p.rewrites row)
    (happlicable : action.Applicable row) :
    p.Allows s action row := by
  rcases RowAction.not_lease_of_rewritesCheckpoint hrewrites with
    ⟨hreclaim, hclaim, hcaptured⟩
  constructor
  · exact happlicable
  · exact hphase
  · simp [hreclaim]
  · simp [hclaim]
  · simp [hcaptured]
  · exact fun _ => hrow
  · simp [RowAction.grantedToken_eq_none hclaim hreclaim]

end Permit

inductive Write (p : Permit) : Store -> Store -> Prop where
  | act {s : Store} {jobId : String} {action : RowAction} {row : WorkflowJob}
      (hrow : s.jobs.find? jobId = some row)
      (hallows : p.Allows s action row) :
      Write p s (s.act jobId action)
  | insert {s : Store} {spec : WorkflowJobSpec} {newJobId : String} {managed : Bool} {now : Int}
      (hfresh : (WorkflowJob.fresh newJobId (s.jobs.rows.length + 1) spec managed
        now).jobId ∉ s.jobs.rows.map WorkflowJob.jobId)
      (hspec : p.specs spec) :
      Write p s { s with jobs := s.jobs.insert _ hfresh }
  | event (s : Store) (event : WorkflowJobEvent) :
      Write p s { s with ledger := s.ledger.append event }
  | tables {s : Store} {f : ScheduleTables -> ScheduleTables}
      (hcursors : CursorsUnique s.tables -> CursorsUnique (f s.tables)) :
      Write p s (s.withTables f)
  | retire {s : Store} {retirement : JobRetirement} (hsound : RetirementSound s retirement) :
      Write p s (s.retire retirement)
  | dropRetirements (s : Store) (drop : JobRetirement -> Bool) : Write p s (s.dropRetirements drop)
  | fence {s : Store} {counters : SnapshotCounters}
      (hpublished : counters.published = s.counters.published)
      (hfence : p.fences counters) :
      Write p s { s with counters := counters }
  | relocate {s : Store} {ledger : EventLedger} (hrelocates : p.relocates s.ledger ledger) :
      Write p s { s with ledger := ledger }

def Writes (p : Permit) : Store -> Store -> Prop :=
  Relation.ReflTransGen (Write p)

namespace Writes

variable {p : Permit} {s s' s'' : Store}

theorem refl (s : Store) : Writes p s s := Relation.ReflTransGen.refl

theorem single (h : Write p s s') : Writes p s s' :=
  Relation.ReflTransGen.single h

theorem trans (hfirst : Writes p s s') (hsecond : Writes p s' s'') : Writes p s s'' :=
  Relation.ReflTransGen.trans hfirst hsecond

theorem invariant {I : Store -> Prop} (hstep : forall s s', Write p s s' -> I s -> I s')
    (h : Writes p s s') (hs : I s) :
    I s' := by
  induction h with
  | refl => exact hs
  | tail _ hlast ih => exact hstep _ _ hlast ih

theorem relation {R : Store -> Store -> Prop} (hrefl : forall s, R s s)
    (htrans : forall a b c, R a b -> R b c -> R a c)
    (hstep : forall s s', Write p s s' -> R s s')
    (h : Writes p s s') :
    R s s' := by
  induction h with
  | refl => exact hrefl _
  | tail _ hlast ih => exact htrans _ _ _ ih (hstep _ _ hlast)

theorem tables {f : ScheduleTables -> ScheduleTables}
    (hcursors : CursorsUnique s.tables -> CursorsUnique (f s.tables)) :
    Writes p s (s.withTables f) :=
  single (Write.tables hcursors)

theorem appendEvent (row : WorkflowJob) (event : LoggedEvent) (now : Int) :
    Writes p s (s.appendEvent row event now) :=
  single (Write.event s _)

theorem act {jobId : String} {action : RowAction} {row : WorkflowJob}
    (hrow : s.jobs.find? jobId = some row) (hallows : p.Allows s action row) :
    Writes p s (s.act jobId action) :=
  single (Write.act hrow hallows)

theorem actLogged {action : RowAction} {row : WorkflowJob} {event : LoggedEvent}
    {now : Int} (hrow : s.jobs.find? row.jobId = some row)
    (hallows : p.Allows s action row) :
    Writes p s (s.actLogged row action event now) :=
  (act hrow hallows).trans (appendEvent _ _ _)

end Writes

/-!
# Rows across a write
-/

variable {p : Permit} {s s' : Store} {jobId : String} {row : WorkflowJob}

theorem Write.row_step (hwrite : Write p s s') (hrow : s.jobs.find? jobId = some row) :
    s'.jobs.find? jobId = some row ∨ exists action, p.Allows s action row ∧
        s'.jobs.find? jobId = some (action.apply row) := by
  cases hwrite with
  | @act written action found hfound hallows =>
    by_cases hid : jobId = written
    · subst hid
      have heq : found = row := by
        rw [hfound] at hrow
        exact Option.some.inj hrow
      subst heq
      exact .inr ⟨action, hallows, JobTable.find?_modify_self hfound⟩
    · refine .inl ?_
      change (s.jobs.modify written action).find? jobId = some row
      rw [JobTable.find?_modify_ne hid]
      exact hrow
  | @insert spec newJobId managed now hfresh _ =>
    refine .inl ?_
    have hmem := JobTable.mem_of_find? hrow
    have hne : jobId ≠ newJobId := by
      intro heq
      apply hfresh
      change newJobId ∈ s.jobs.rows.map WorkflowJob.jobId
      rw [← heq, ← hmem.right]
      exact List.mem_map_of_mem hmem.left
    change (s.jobs.insert _ hfresh).find? jobId = some row
    rw [JobTable.find?_insert_of_ne hne]
    exact hrow
  | event => exact .inl hrow
  | tables => exact .inl hrow
  | retire => exact .inl hrow
  | dropRetirements => exact .inl hrow
  | fence => exact .inl hrow
  | relocate => exact .inl hrow

theorem Write.row_origin (hwrite : Write p s s') (hrow : row ∈ s'.jobs.rows) : row ∈ s.jobs.rows ∨
      (exists old action, old ∈ s.jobs.rows ∧ p.Allows s action old ∧ row = action.apply old) ∨
      exists spec newJobId managed now, p.specs spec ∧
        newJobId ∉ s.jobs.rows.map WorkflowJob.jobId ∧
        row = WorkflowJob.fresh newJobId (s.jobs.rows.length + 1) spec managed
          now := by
  cases hwrite with
  | @act written action found hfound hallows =>
    rcases JobTable.mem_modify.mp hrow with ⟨old, hold, hupdate⟩
    by_cases hid : old.jobId = written
    · have heq : found = old := by
        have hfind := JobTable.find?_of_mem hold
        rw [hid, hfound] at hfind
        exact Option.some.inj hfind
      subst heq
      simp only [JobTable.update, hid, if_true] at hupdate
      exact .inr (Or.inl ⟨found, action, hold, hallows, hupdate.symm⟩)
    · simp only [JobTable.update, hid, if_false] at hupdate
      exact .inl (hupdate ▸ hold)
  | @insert spec newJobId managed now hfresh hspec =>
    rcases List.mem_append.mp hrow with hold | hnew
    · exact .inl hold
    · refine .inr (Or.inr ⟨spec, newJobId, managed, now, hspec, hfresh, ?_⟩)
      simpa using hnew
  | event => exact .inl hrow
  | tables => exact .inl hrow
  | retire => exact .inl hrow
  | dropRetirements => exact .inl hrow
  | fence => exact .inl hrow
  | relocate => exact .inl hrow

/-- A property of single rows survives when every permitted action keeps it. -/
theorem Writes.rows_invariant {P : WorkflowJob -> Prop}
    (hact : forall s action row, p.Allows s action row -> P row -> P (action.apply row))
    (hinsert : forall newJobId sequence spec managed now, p.specs spec ->
      P (WorkflowJob.fresh newJobId sequence spec managed now))
    (h : Writes p s s')
    (hs : forall row, row ∈ s.jobs.rows -> P row) :
    forall row, row ∈ s'.jobs.rows -> P row := by
  apply h.invariant (I := fun s => forall row, row ∈ s.jobs.rows -> P row) _ hs
  intro s s' hwrite hs row hrow
  rcases hwrite.row_origin hrow with
    hold | ⟨old, action, hold, hallows, heq⟩ | ⟨spec, newJobId, managed, now, hspec, _, heq⟩
  · exact hs row hold
  · rw [heq]
    exact hact s action old hallows (hs old hold)
  · rw [heq]
    exact hinsert _ _ _ _ _ hspec

/-- The rows a permit writes back are managed versions of existing jobs. -/
structure Permit.CapturesKnown (p : Permit) (s : Store) : Prop where
  managed : forall captured, p.captures captured -> captured.workflowManaged = true
  known : forall captured, p.captures captured ->
    exists row, s.jobs.find? captured.jobId = some row ∧ RowKept captured row

theorem Write.row_kept (hwrite : Write p s s') (hcaptures : p.CapturesKnown s)
    (hrow : s.jobs.find? jobId = some row) :
    exists row', s'.jobs.find? jobId = some row' ∧ RowKept row row' := by
  rcases hwrite.row_step hrow with hsame | ⟨action, hallows, hstep⟩
  · exact ⟨row, hsame, RowKept.refl row⟩
  · refine ⟨action.apply row, hstep, ?_⟩
    constructor
    · apply RowAction.apply_spec
      intro captured hcaptured
      rcases hcaptures.known captured (hallows.captures captured hcaptured) with
        ⟨found, hfound, hkept⟩
      have hid : captured.jobId = row.jobId := by
        have happlicable := hallows.applicable
        cases action with
        | restore other =>
          cases hcaptured
          exact happlicable.left
        | _ => cases hcaptured
      rw [hid, JobTable.find?_of_mem (JobTable.mem_of_find? hrow).left] at hfound
      cases hfound
      exact hkept.spec.symm
    · exact RowAction.apply_enqueueSequence row action
    · apply RowAction.apply_workflowManaged
      intro captured hcaptured
      exact hcaptures.managed captured (hallows.captures captured hcaptured)

theorem Write.capturesKnown (hwrite : Write p s s') (hcaptures : p.CapturesKnown s) :
    p.CapturesKnown s' where
  managed := hcaptures.managed
  known := fun captured hcaptured => by
    rcases hcaptures.known captured hcaptured with ⟨row, hrow, hkept⟩
    rcases hwrite.row_kept hcaptures hrow with ⟨row', hrow', hkept'⟩
    exact ⟨row', hrow', hkept.trans hkept'⟩

theorem Writes.row_kept (h : Writes p s s') (hcaptures : p.CapturesKnown s)
    (hrow : s.jobs.find? jobId = some row) :
    exists row', s'.jobs.find? jobId = some row' ∧ RowKept row row' := by
  have hboth := h.invariant (I := fun s => p.CapturesKnown s ∧
      exists row', s.jobs.find? jobId = some row' ∧ RowKept row row')
    (fun s s' hwrite hs => by
      rcases hs with ⟨hknown, row', hrow', hkept⟩
      rcases hwrite.row_kept hknown hrow' with ⟨row'', hrow'', hkept'⟩
      exact ⟨hwrite.capturesKnown hknown, row'', hrow'', hkept.trans hkept'⟩)
    ⟨hcaptures, row, hrow, RowKept.refl row⟩
  exact hboth.right

/-!
# Loops over selected rows

A selection lists rows of the table without repetition.  A loop touches each
row once, so every row is still as selected when its turn comes.
-/

namespace Store

structure Selects (s : Store) (rows : List WorkflowJob) : Prop where
  mem : forall row, row ∈ rows -> row ∈ s.jobs.rows
  nodup : (rows.map WorkflowJob.jobId).Nodup

variable {s : Store} {rows : List WorkflowJob}

theorem selects_sublist (h : List.Sublist rows s.jobs.rows) : s.Selects rows where
  mem := fun _ hrow => h.subset hrow
  nodup := (h.map _).nodup s.jobs.uniqueIds

theorem Selects.sublist {rows chosen : List WorkflowJob}
    (h : s.Selects rows) (hsublist : List.Sublist chosen rows) :
    s.Selects chosen where
  mem := fun _ hrow => h.mem _ (hsublist.subset hrow)
  nodup := (hsublist.map _).nodup h.nodup

theorem Selects.perm {rows chosen : List WorkflowJob}
    (h : s.Selects rows) (hperm : List.Perm chosen rows) :
    s.Selects chosen where
  mem := fun _ hrow => h.mem _ (hperm.mem_iff.mp hrow)
  nodup := (hperm.map _).nodup_iff.mpr h.nodup

theorem selects_filter (s : Store) (keep : WorkflowJob -> Bool) :
    s.Selects (s.jobs.rows.filter keep) :=
  selects_sublist List.filter_sublist

theorem selects_taskRows (s : Store) (projectId taskId : String) :
    s.Selects (s.taskRows projectId taskId) :=
  selects_filter s _

/-- One iteration of `actEach`. -/
def actOne (plan : WorkflowJob -> Option (RowAction × Option LoggedEvent))
    (now : Int) (s : Store) (row : WorkflowJob) : Store :=
  match plan row with
  | none => s
  | some (action, some event) => s.actLogged row action event now
  | some (action, none) => s.act row.jobId action

theorem actEach_cons (s : Store) (row : WorkflowJob) (rest : List WorkflowJob)
    (plan : WorkflowJob -> Option (RowAction × Option LoggedEvent)) (now : Int) :
    s.actEach (row :: rest) plan now = (s.actOne plan now row).actEach rest plan now := rfl

def planned (plan : WorkflowJob -> Option (RowAction × Option LoggedEvent))
    (row : WorkflowJob) : WorkflowJob :=
  match plan row with
  | none => row
  | some (action, _) => action.apply row

variable {row : WorkflowJob} {plan : WorkflowJob -> Option (RowAction × Option LoggedEvent)}
  {now : Int}

theorem actOne_find?_self (h : s.jobs.find? row.jobId = some row) :
    (s.actOne plan now row).jobs.find? row.jobId = some (planned plan row) := by
  unfold actOne planned
  split
  · rename_i hplan
    simpa only [hplan] using h
  · rename_i action event hplan
    simp only [hplan]
    exact JobTable.find?_modify_self h
  · rename_i action hplan
    simp only [hplan]
    exact JobTable.find?_modify_self h

theorem actOne_find?_ne {jobId : String} (h : jobId ≠ row.jobId) :
    (s.actOne plan now row).jobs.find? jobId = s.jobs.find? jobId := by
  unfold actOne
  split
  · rfl
  · exact JobTable.find?_modify_ne h
  · exact JobTable.find?_modify_ne h

theorem actEach_find?_of_not_mem {jobId : String} (h : jobId ∉ rows.map WorkflowJob.jobId) :
    (s.actEach rows plan now).jobs.find? jobId = s.jobs.find? jobId := by
  induction rows generalizing s with
  | nil => rfl
  | cons row rest ih =>
    simp only [List.map_cons, List.mem_cons, not_or] at h
    rw [actEach_cons, ih h.right, actOne_find?_ne h.left]

theorem actEach_find?_of_mem (hnodup : (rows.map WorkflowJob.jobId).Nodup)
    (hrows : forall other, other ∈ rows -> s.jobs.find? other.jobId = some other)
    (hrow : row ∈ rows) :
    (s.actEach rows plan now).jobs.find? row.jobId = some (planned plan row) := by
  induction rows generalizing s with
  | nil => cases hrow
  | cons first rest ih =>
    rw [List.map_cons, List.nodup_cons] at hnodup
    rw [actEach_cons]
    rcases List.mem_cons.mp hrow with hhead | htail
    · subst hhead
      rw [actEach_find?_of_not_mem hnodup.left]
      exact actOne_find?_self (hrows row (by simp))
    · apply ih hnodup.right
      · intro other hother
        have hne : other.jobId ≠ first.jobId := by
          intro heq
          exact hnodup.left (heq ▸ List.mem_map_of_mem hother)
        rw [actOne_find?_ne hne]
        exact hrows other (by simp [hother])
      · exact htail

theorem Selects.find? (h : s.Selects rows) (hrow : row ∈ rows) :
    s.jobs.find? row.jobId = some row :=
  JobTable.find?_of_mem (h.mem row hrow)

/--
A reflexive, transitive relation that every planned action and every event
establishes holds across the loop.
-/
theorem actEach_relation {R : Store -> Store -> Prop} (hrefl : forall s, R s s)
    (htrans : forall a b c, R a b -> R b c -> R a c)
    (hact : forall s row action event, row ∈ rows -> s.jobs.find? row.jobId = some row ->
      plan row = some (action, event) -> R s (s.act row.jobId action))
    (hevent : forall s row event, R s (s.appendEvent row event now))
    (hselects : s.Selects rows) :
    R s (s.actEach rows plan now) := by
  have hrows : forall row, row ∈ rows -> s.jobs.find? row.jobId = some row :=
    fun row hrow => hselects.find? hrow
  have hnodup := hselects.nodup
  clear hselects
  induction rows generalizing s with
  | nil => exact hrefl s
  | cons first rest ih =>
    rw [List.map_cons, List.nodup_cons] at hnodup
    have hfirst : R s (s.actOne plan now first) := by
      have hfound := hrows first (by simp)
      unfold actOne
      split
      · exact hrefl s
      · rename_i action event hplan
        have hwritten := hact s first action _ (by simp) hfound hplan
        exact htrans _ _ _ hwritten (hevent _ _ _)
      · rename_i action hplan
        exact hact s first action _ (by simp) hfound hplan
    refine htrans _ _ _ hfirst (ih ?_ ?_ hnodup.right)
    · intro s row action event hrow
      exact hact s row action event (by simp [hrow])
    · intro row hrow
      have hne : row.jobId ≠ first.jobId := by
        intro heq
        exact hnodup.left (heq ▸ List.mem_map_of_mem hrow)
      rw [actOne_find?_ne hne]
      exact hrows row (by simp [hrow])

theorem actEach_writes {p : Permit} (hselects : s.Selects rows)
    (hallows : forall s row action event, row ∈ rows ->
      plan row = some (action, event) -> p.Allows s action row) :
    Writes p s (s.actEach rows plan now) := by
  apply actEach_relation Writes.refl (fun _ _ _ => Writes.trans) _ _ hselects
  · intro s row action event hrow hfound hplan
    exact Writes.act hfound (hallows s row action event hrow hplan)
  · intro s row event
    exact Writes.appendEvent _ _ _

end Store
end WorkflowJobs
end Oompah
