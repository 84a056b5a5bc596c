import Oompah.WorkflowJobs.Recurrence
import Oompah.WorkflowJobs.Runs

/-!
# Replays in a lane

A call that finds its spec enqueued already is a replay.  The loop that retires the older
rows of the lane does not ask whether the call inserted a row, so that the replay of a
finished row retires the work that came after it.
-/

namespace Oompah
namespace WorkflowJobs

open Foundation

namespace Store

variable {s s' : Store} {spec : WorkflowJobSpec} {newJobId reason : String}
  {sourceGeneration : Nat} {retireManaged : Bool} {now : Int}

/-!
# What the transaction keeps
-/

/-- Rows that keep their spec and their management. -/
structure RowsMapped (s s' : Store) (g : WorkflowJob -> WorkflowJob) : Prop where
  rows : s'.jobs.rows = s.jobs.rows.map g
  spec : forall row, (g row).spec = row.spec
  managed : forall row, (g row).workflowManaged = row.workflowManaged

theorem rowsMapped_act (s : Store) (jobId replacement message : String) (now : Int) :
    RowsMapped s (s.act jobId (.supersede replacement message now))
      (JobTable.update jobId (.supersede replacement message now)) where
  rows := rfl
  spec := by
    intro row
    unfold JobTable.update
    split <;> rfl
  managed := by
    intro row
    unfold JobTable.update
    split <;> rfl

theorem RowsMapped.trans {s s' s'' : Store} {g g' : WorkflowJob -> WorkflowJob}
    (h : RowsMapped s s' g) (h' : RowsMapped s' s'' g') : RowsMapped s s'' (g' ∘ g) where
  rows := by rw [h'.rows, h.rows, List.map_map]
  spec := fun row => (h'.spec (g row)).trans (h.spec row)
  managed := fun row => (h'.managed (g row)).trans (h.managed row)

theorem rowsMapped_supersedeEach (s : Store) (rows : List WorkflowJob)
    (replacement message : String) (now : Int) :
    exists g, RowsMapped s (s.actEach rows (supersedePlan replacement message now) now) g := by
  induction rows generalizing s with
  | nil => exact ⟨id, (List.map_id _).symm, fun _ => rfl, fun _ => rfl⟩
  | cons row rest ih =>
    rw [actEach_cons]
    by_cases hquarantined : row.isQuarantined = true
    · have hkept : s.actOne (supersedePlan replacement message now) now row = s := by
        unfold actOne supersedePlan
        rw [if_pos hquarantined]
      rw [hkept]
      exact ih s
    · have hacted : s.actOne (supersedePlan replacement message now) now row =
          s.actLogged row (.supersede replacement message now)
            (supersededEvent replacement message) now := by
        unfold actOne supersedePlan
        rw [if_neg hquarantined]
      rw [hacted]
      rcases ih (s.actLogged row (.supersede replacement message now)
        (supersededEvent replacement message) now) with ⟨g, hg⟩
      exact ⟨_, RowsMapped.trans (rowsMapped_act s row.jobId replacement message now)
        ⟨hg.rows, hg.spec, hg.managed⟩⟩

theorem RowsMapped.hasTerminalAuditHandoff {g : WorkflowJob -> WorkflowJob}
    (h : RowsMapped s s' g) (projectId taskId generation : String) :
    s'.hasTerminalAuditHandoff projectId taskId generation =
      s.hasTerminalAuditHandoff projectId taskId generation := by
  unfold Store.hasTerminalAuditHandoff taskRows
  rw [h.rows, List.filter_map, List.any_map]
  simp only [Function.comp_def, h.spec, h.managed]

/-- The retirement that a call may ask for needs the handoff job of its generation. -/
def AuditRetires (s : Store) (spec : WorkflowJobSpec) (retireManaged : Bool) : Prop :=
  retireManaged = true ->
    s.hasTerminalAuditHandoff spec.projectId spec.taskId spec.generation = true

instance (s : Store) (spec : WorkflowJobSpec) (retireManaged : Bool) :
    Decidable (s.AuditRetires spec retireManaged) :=
  inferInstanceAs (Decidable (_ -> _))

theorem retireManagedForAudit_spec (h : s.retireManagedForAudit spec retireManaged now = .ok s') :
    s'.jobs = s.jobs ∧ s.AuditRetires spec retireManaged := by
  unfold retireManagedForAudit at h
  split at h
  · rw [bind_eq_ok] at h
    rcases h with ⟨⟨recorded, count⟩, hrecorded, h⟩
    cases h
    refine ⟨(recordJobRetirementsLocked_keeps hrecorded).left, ?_⟩
    intro _
    unfold recordJobRetirementsLocked at hrecorded
    rw [bind_eq_ok] at hrecorded
    rcases hrecorded with ⟨generation, hcheck, _⟩
    unfold checkRetirementAuthority at hcheck
    simp only [require_bind_eq_ok] at hcheck
    exact hcheck.right.right.left
  · rename_i hretire
    cases h
    exact ⟨rfl, fun hasked => absurd hasked hretire⟩

theorem retireManagedForAudit_ok (h : s.AuditRetires spec retireManaged) (now : Int) :
    exists retired, s.retireManagedForAudit spec retireManaged now = .ok retired := by
  unfold retireManagedForAudit
  by_cases hretire : retireManaged = true
  · rw [if_pos hretire]
    unfold recordJobRetirementsLocked checkRetirementAuthority require
    rw [if_pos rfl, if_pos rfl, if_pos (h hretire)]
    cases s.retirableRows spec.projectId spec.taskId (some true) [] with
    | nil => exact ⟨_, rfl⟩
    | cons row rest => exact ⟨_, rfl⟩
  · rw [if_neg hretire]
    exact ⟨_, rfl⟩

/-!
# One call

A call without a required advance and without a binding upgrade is stale, or it is ordered
and replaces the lane.
-/

/-- The lane holds no newer source generation and no other evidence of the same one. -/
def OrdersLane (s : Store) (spec : WorkflowJobSpec) (sourceGeneration : Nat) : Prop :=
  forall ordered, ordered ∈ s.findOrdering spec.projectId spec.taskId spec.schedulingLane ->
      ordered.sourceGeneration < sourceGeneration ∨ ordered.sourceGeneration = sourceGeneration ∧
          ordered.decisionRevision = spec.generation

instance (s : Store) (spec : WorkflowJobSpec) (sourceGeneration : Nat) :
    Decidable (s.OrdersLane spec sourceGeneration) :=
  inferInstanceAs (Decidable (forall ordered, ordered ∈ _ -> _))

theorem enqueueReplacingLane_ordered (hgeneration : 1 ≤ sourceGeneration)
    (hreason : reason ≠ "") (h : s.OrdersLane spec sourceGeneration) :
    s.enqueueReplacingLane spec newJobId sourceGeneration false retireManaged none reason now =
      s.replaceLane spec newJobId sourceGeneration retireManaged reason now := by
  unfold enqueueReplacingLane positiveGeneration requiredText require
  rw [if_pos hgeneration, if_pos (Or.inl rfl), if_pos hreason]
  dsimp only [bind, Except.bind]
  cases hfound : s.findOrdering spec.projectId spec.taskId spec.schedulingLane with
  | none => rfl
  | some ordered =>
    have hordered := h ordered hfound
    have hnotStale : ¬ sourceGeneration < ordered.sourceGeneration := by omega
    have hagrees : sourceGeneration ≠ ordered.sourceGeneration ∨
        ordered.decisionRevision = spec.generation ∨
        s.validBindingUpgrade spec ordered.decisionRevision none = true := by
      rcases hordered with hless | ⟨_, hrevision⟩
      · exact .inl (by omega)
      · exact .inr (Or.inl hrevision)
    dsimp only
    rw [if_neg (by simp), if_neg hnotStale, if_pos hagrees]

variable {write : EventWrite}

theorem enqueueReplacingLane_cases
    (h : s.enqueueReplacingLane spec newJobId sourceGeneration false retireManaged none
      reason now = .ok (s', write)) :
    (exists observedRevision, s.enqueueStale spec newJobId observedRevision now = .ok (s', write) ∧
        ¬ s.OrdersLane spec sourceGeneration) ∨
      1 ≤ sourceGeneration ∧ reason ≠ "" ∧ s.OrdersLane spec sourceGeneration ∧
        s.replaceLane spec newJobId sourceGeneration retireManaged reason now =
          .ok (s', write) := by
  by_cases hordered : s.OrdersLane spec sourceGeneration
  · right
    have hchecked := h
    unfold enqueueReplacingLane positiveGeneration requiredText at hchecked
    simp only [require_bind_eq_ok] at hchecked
    rcases hchecked with ⟨hgeneration, _, hreason, _⟩
    rw [enqueueReplacingLane_ordered hgeneration hreason hordered] at h
    exact ⟨hgeneration, hreason, hordered, h⟩
  · left
    unfold enqueueReplacingLane positiveGeneration requiredText at h
    simp only [require_bind_eq_ok] at h
    have hbody := h.right.right.right
    unfold OrdersLane at hordered
    push Not at hordered
    rcases hordered with ⟨ordered, hfound, hnotOlder, hother⟩
    have hfound' : s.findOrdering spec.projectId spec.taskId spec.schedulingLane =
        some ordered := hfound
    rw [hfound'] at hbody
    dsimp only at hbody
    by_cases hstale : sourceGeneration < ordered.sourceGeneration
    · rw [if_pos hstale] at hbody
      refine ⟨ordered.decisionRevision, hbody, ?_⟩
      intro horders
      rcases horders ordered hfound with hless | ⟨hsame, _⟩ <;> omega
    · rw [if_neg hstale] at hbody
      have hsame : ordered.sourceGeneration = sourceGeneration := by omega
      rcases (require_bind_eq_ok.mp hbody).left with hdiffers | hrevision | hupgrade
      · exact absurd hsame.symm hdiffers
      · exact absurd hrevision (hother hsame)
      · exact absurd hupgrade (by simp [validBindingUpgrade])

/-- The rows that an ordered call retires. -/
def laneRivals (s : Store) (spec : WorkflowJobSpec) (jobId : String) : List WorkflowJob :=
  (s.activeLaneRows spec.projectId spec.taskId [spec.schedulingLane]).filter
    (fun row => row.jobId ≠ jobId)

/-- What a call leaves of the row it replays and of the rows beside it. -/
structure LaneKept (s : Store) (spec : WorkflowJobSpec) (s' : Store) (write : EventWrite) :
    Prop where
  unrevived : forall existing, existing ∈ s.findIdempotent spec.projectId spec.idempotencyKey ->
      existing.isActive = false -> s'.jobs.find? existing.jobId = some existing
  undisplaced : write.created = false ->
    forall row, row ∈ s.activeLaneRows spec.projectId spec.taskId [spec.schedulingLane] ->
      (forall job, job ∈ write.job -> row.jobId ≠ job.jobId) ->
        exists kept, s'.jobs.find? row.jobId = some kept ∧ kept.isActive = true

/-- A replayed row whose call goes on to retire another active row of the lane. -/
structure ReplaysOver (s : Store) (spec : WorkflowJobSpec) (sourceGeneration : Nat)
    (retireManaged : Bool) (reason : String) (existing : WorkflowJob) : Prop where
  positive : 1 ≤ sourceGeneration
  reasoned : reason ≠ ""
  ordered : s.OrdersLane spec sourceGeneration
  identical : existing.spec = spec
  retires : s.AuditRetires spec retireManaged
  rival : exists row, row ∈ s.laneRivals spec existing.jobId ∧ row.isQuarantined = false

theorem enqueueLocked_replay {existing : WorkflowJob}
    (hfound : s.findIdempotent spec.projectId spec.idempotencyKey = some existing) :
    s.enqueueLocked spec newJobId false now =
      if existing.spec = spec then .ok (s, existing, false)
      else .error (.idempotencyConflict ("idempotency key '" ++ spec.idempotencyKey ++
          "' already describes different workflow work")) := by
  unfold enqueueLocked
  rw [hfound]
  by_cases hspec : existing.spec = spec
  · simp [hspec]
  · simp [hspec]

theorem enqueueLocked_insert {row : WorkflowJob} {created : Bool}
    (hnone : s.findIdempotent spec.projectId spec.idempotencyKey = none)
    (h : s.enqueueLocked spec newJobId false now = .ok (s', row, created)) :
    created = true := by
  unfold enqueueLocked requiredText at h
  rw [hnone] at h
  rw [require_bind_eq_ok, bind_eq_ok] at h
  rcases h with ⟨_, inserted, _, h⟩
  cases h
  rfl

theorem replaceLane_insert (hnone : s.findIdempotent spec.projectId spec.idempotencyKey = none)
    (h : s.replaceLane spec newJobId sourceGeneration retireManaged reason now = .ok (s', write)) :
    write.created = true := by
  unfold replaceLane at h
  simp only [bind_eq_ok] at h
  rcases h with ⟨⟨inserted, row, created⟩, hwritten, result, _, retired, _, h⟩
  cases h
  exact enqueueLocked_insert
    (s := s.upsertOrdering spec.projectId spec.taskId spec.schedulingLane spec.generation
      sourceGeneration now) hnone hwritten

theorem laneKept_inserted (hnone : s.findIdempotent spec.projectId spec.idempotencyKey = none)
    (hcreated : write.created = true) : LaneKept s spec s' write where
  unrevived := by
    intro existing hexisting
    rw [hnone] at hexisting
    cases hexisting
  undisplaced := by
    intro hreplayed
    rw [hcreated] at hreplayed
    cases hreplayed

theorem enqueueStale_laneKept {observedRevision : String}
    (h : s.enqueueStale spec newJobId observedRevision now = .ok (s', write)) :
    LaneKept s spec s' write := by
  unfold enqueueStale at h
  rw [bind_eq_ok] at h
  rcases h with ⟨⟨written, job, created⟩, hwritten, h⟩
  cases hfound : s.findIdempotent spec.projectId spec.idempotencyKey with
  | none =>
    have hcreated := enqueueLocked_insert hfound hwritten
    apply laneKept_inserted hfound
    dsimp only at h
    split at h
    · cases h
      exact hcreated
    · cases h
      exact hcreated
  | some existing =>
    rw [enqueueLocked_replay hfound] at hwritten
    by_cases hspec : existing.spec = spec
    · rw [if_pos hspec] at hwritten
      simp only [Except.ok.injEq, Prod.mk.injEq] at hwritten
      obtain ⟨rfl, rfl, rfl⟩ := hwritten
      have hmem := (findIdempotent_eq_some hfound).left
      dsimp only at h
      split at h
      · rename_i hactive
        cases h
        constructor
        · intro other hother hended
          rw [hfound] at hother
          cases hother
          rw [hactive.left] at hended
          cases hended
        · intro _ row hrow hother
          have hne : row.jobId ≠ existing.jobId := by
            intro hid
            exact hother _ rfl (hid.trans (RowAction.apply_jobId _ _).symm)
          refine ⟨row, ?_, activeLaneRows_active hrow⟩
          show (s.jobs.modify existing.jobId _).find? row.jobId = some row
          rw [JobTable.find?_modify_ne hne]
          exact (selects_activeLaneRows _ _ _ _).find? hrow
      · cases h
        constructor
        · intro other hother _
          rw [hfound] at hother
          cases hother
          exact JobTable.find?_of_mem hmem
        · intro _ row hrow _
          exact ⟨row, (selects_activeLaneRows _ _ _ _).find? hrow, activeLaneRows_active hrow⟩
    · rw [if_neg hspec] at hwritten
      cases hwritten

/-- The store in which the other active rows of a replayed row's lane are retired. -/
def retiredLane (s : Store) (spec : WorkflowJobSpec) (sourceGeneration : Nat)
    (reason : String) (now : Int) (existing : WorkflowJob) : Store :=
  (s.upsertOrdering spec.projectId spec.taskId spec.schedulingLane spec.generation
    sourceGeneration now).actEach (s.laneRivals spec existing.jobId)
      (supersedePlan spec.generation reason now) now

section Replayed

variable {existing : WorkflowJob}

theorem selects_laneRivals (s : Store) (spec : WorkflowJobSpec) (jobId : String) :
    s.Selects (s.laneRivals spec jobId) :=
  (selects_activeLaneRows _ _ _ _).sublist List.filter_sublist

variable (reason sourceGeneration now) in
theorem retiredLane_existing
    (hfound : s.findIdempotent spec.projectId spec.idempotencyKey = some existing) :
    (s.retiredLane spec sourceGeneration reason now existing).jobs.find? existing.jobId =
      some existing := by
  have hmem := (findIdempotent_eq_some hfound).left
  have hother : existing.jobId ∉ (s.laneRivals spec existing.jobId).map WorkflowJob.jobId := by
    intro hmapped
    rcases List.mem_map.mp hmapped with ⟨row, hrow, hid⟩
    have hne := (List.mem_filter.mp hrow).right
    rw [decide_eq_true_eq] at hne
    exact hne hid
  unfold retiredLane
  rw [actEach_find?_of_not_mem hother]
  exact JobTable.find?_of_mem hmem

variable {row : WorkflowJob}

theorem retiredLane_rival (hrow : row ∈ s.laneRivals spec existing.jobId) :
    (s.retiredLane spec sourceGeneration reason now existing).jobs.find? row.jobId =
      some (planned (supersedePlan spec.generation reason now) row) := by
  have hselects := selects_laneRivals s spec existing.jobId
  exact actEach_find?_of_mem hselects.nodup (fun other hother => hselects.find? hother) hrow

theorem retiredLane_auditRetires :
    (s.retiredLane spec sourceGeneration reason now existing).AuditRetires spec
        retireManaged ↔ s.AuditRetires spec retireManaged := by
  rcases rowsMapped_supersedeEach
    (s.upsertOrdering spec.projectId spec.taskId spec.schedulingLane spec.generation
      sourceGeneration now) (s.laneRivals spec existing.jobId) spec.generation reason now
    with ⟨g, hg⟩
  have hmapped : RowsMapped s (s.retiredLane spec sourceGeneration reason now existing) g :=
    ⟨hg.rows, hg.spec, hg.managed⟩
  unfold AuditRetires
  rw [hmapped.hasTerminalAuditHandoff]

variable (newJobId) in
/-- An ordered call for a row that is enqueued retires the other rows of the lane. -/
theorem replaceLane_replay
    (hfound : s.findIdempotent spec.projectId spec.idempotencyKey = some existing)
    {write : EventWrite} :
    s.replaceLane spec newJobId sourceGeneration retireManaged reason now = .ok (s', write) ↔
      existing.spec = spec ∧
        (s.retiredLane spec sourceGeneration reason now existing).retireManagedForAudit
          spec retireManaged now = .ok s' ∧
        write =
          { job := some existing
            accepted := true
            created := false
            superseded := plannedCount (s.laneRivals spec existing.jobId)
              (supersedePlan spec.generation reason now) } := by
  have hfound' : (s.upsertOrdering spec.projectId spec.taskId spec.schedulingLane
      spec.generation sourceGeneration now).findIdempotent spec.projectId
        spec.idempotencyKey = some existing := hfound
  have hlocked := rowLocked_eq_ok.mpr (retiredLane_existing reason sourceGeneration now hfound)
  unfold replaceLane
  dsimp only
  rw [enqueueLocked_replay hfound']
  by_cases hspec : existing.spec = spec
  · rw [if_pos hspec]
    dsimp only [bind, Except.bind]
    unfold retiredLane at hlocked ⊢
    unfold laneRivals at hlocked ⊢
    rw [show (s.upsertOrdering spec.projectId spec.taskId spec.schedulingLane
      spec.generation sourceGeneration now).activeLaneRows spec.projectId spec.taskId
        [spec.schedulingLane] =
      s.activeLaneRows spec.projectId spec.taskId [spec.schedulingLane] from rfl, hlocked]
    cases Store.retireManagedForAudit _ spec retireManaged now with
    | error error => simp
    | ok retired =>
      simp only [pure, Except.pure, Except.ok.injEq, Prod.mk.injEq, hspec, true_and]
      exact and_congr Iff.rfl eq_comm
  · simp [bind, Except.bind, hspec]

theorem retiredLane_retired
    (hrow : row ∈ s.laneRivals spec existing.jobId) (hfree : row.isQuarantined = false) :
    exists retired, (s.retiredLane spec sourceGeneration reason now existing).jobs.find? row.jobId =
          some retired ∧
        retired.isActive = false := by
  refine ⟨_, retiredLane_rival hrow, ?_⟩
  unfold planned supersedePlan
  rw [if_neg (by simp [hfree])]
  rfl

theorem retiredLane_quarantined
    (hrow : row ∈ s.laneRivals spec existing.jobId) (hheld : row.isQuarantined = true) :
    (s.retiredLane spec sourceGeneration reason now existing).jobs.find? row.jobId =
      some row := by
  rw [retiredLane_rival hrow]
  unfold planned supersedePlan
  rw [if_pos hheld]

/-- An ordered replay keeps the lane unless another row of it can be retired. -/
theorem replaceLane_laneKept {write : EventWrite}
    (hfound : s.findIdempotent spec.projectId spec.idempotencyKey = some existing)
    (hgeneration : 1 ≤ sourceGeneration) (hreason : reason ≠ "")
    (hordered : s.OrdersLane spec sourceGeneration)
    (hover : ¬ s.ReplaysOver spec sourceGeneration retireManaged reason existing)
    (h : s.replaceLane spec newJobId sourceGeneration retireManaged reason now = .ok (s', write)) :
    LaneKept s spec s' write := by
  rcases (replaceLane_replay newJobId hfound).mp h with ⟨hspec, haudit, rfl⟩
  rcases retireManagedForAudit_spec haudit with ⟨hjobs, hretires⟩
  constructor
  · intro other hother _
    rw [hfound] at hother
    cases hother
    rw [hjobs]
    exact retiredLane_existing _ _ _ hfound
  · intro _ row hrow hother
    have hrival : row ∈ s.laneRivals spec existing.jobId := by
      apply List.mem_filter.mpr
      exact ⟨hrow, decide_eq_true (hother existing rfl)⟩
    cases hheld : row.isQuarantined with
    | true =>
      refine ⟨row, ?_, activeLaneRows_active hrow⟩
      rw [hjobs]
      exact retiredLane_quarantined hrival hheld
    | false =>
      exact absurd
        { positive := hgeneration
          reasoned := hreason
          ordered := hordered
          identical := hspec
          retires := retiredLane_auditRetires.mp hretires
          rival := ⟨row, hrival, hheld⟩ } hover

/-- A replay that meets the order of the lane retires the lane's other active rows. -/
theorem replaysOver_displaces (newJobId : String) (now : Int)
    (hfound : s.findIdempotent spec.projectId spec.idempotencyKey = some existing)
    (hover : s.ReplaysOver spec sourceGeneration retireManaged reason existing) :
    exists s' write,
      s.enqueueReplacingLane spec newJobId sourceGeneration false retireManaged none reason
          now = .ok (s', write) ∧
        ¬ LaneKept s spec s' write := by
  rcases hover with ⟨hgeneration, hreason, hordered, hspec, hretires, row, hrow, hfree⟩
  have haudits : (s.retiredLane spec sourceGeneration reason now existing).AuditRetires spec
      retireManaged := retiredLane_auditRetires.mpr hretires
  rcases retireManagedForAudit_ok haudits now with ⟨s', haudit⟩
  have hreplayed := (replaceLane_replay newJobId hfound).mpr ⟨hspec, haudit, rfl⟩
  rw [← enqueueReplacingLane_ordered hgeneration hreason hordered] at hreplayed
  refine ⟨s', _, hreplayed, ?_⟩
  intro hkept
  have hother : row.jobId ≠ existing.jobId := by
    have hne := (List.mem_filter.mp hrow).right
    rw [decide_eq_true_eq] at hne
    exact hne
  rcases hkept.undisplaced rfl row (List.mem_filter.mp hrow).left
    (fun job hjob => by cases hjob; exact hother) with ⟨kept, hfind, hactive⟩
  rcases retiredLane_retired hrow hfree with ⟨retired, hretired, hended⟩
  rw [(retireManagedForAudit_spec haudit).left, hretired] at hfind
  cases hfind
  rw [hended] at hactive
  cases hactive

end Replayed

/-- Every successful call keeps the lane exactly when none replays over a rival. -/
theorem replacing_laneKept_iff (s : Store) (spec : WorkflowJobSpec) (newJobId : String)
    (sourceGeneration : Nat) (retireManaged : Bool) (reason : String) (now : Int) :
    (forall s' write,
      s.enqueueReplacingLane spec newJobId sourceGeneration false retireManaged none reason
          now = .ok (s', write) -> LaneKept s spec s' write) ↔
      forall existing, existing ∈ s.findIdempotent spec.projectId spec.idempotencyKey ->
        ¬ s.ReplaysOver spec sourceGeneration retireManaged reason existing := by
  constructor
  · intro hkept existing hfound hover
    rcases replaysOver_displaces newJobId now hfound hover with ⟨s', write, hok, hlost⟩
    exact hlost (hkept s' write hok)
  · intro hfree s' write hok
    rcases enqueueReplacingLane_cases hok with
      ⟨observedRevision, hstale, _⟩ | ⟨hgeneration, hreason, hordered, hreplaced⟩
    · exact enqueueStale_laneKept hstale
    · cases hfound : s.findIdempotent spec.projectId spec.idempotencyKey with
      | none => exact laneKept_inserted hfound (replaceLane_insert hfound hreplaced)
      | some existing =>
        exact replaceLane_laneKept hfound hgeneration hreason hordered
          (hfree existing hfound) hreplaced

end Store

/-!
# Histories

The law is asked of each lane call where the history runs it.
-/

/-- A call without a required advance and a binding upgrade keeps the lane. -/
def Op.KeepsLane (s : Store) : Op -> Prop
  | .enqueueReplacingLane spec newJobId sourceGeneration false retireManaged none reason
        now =>
      forall s' write,
        s.enqueueReplacingLane spec newJobId sourceGeneration false retireManaged none
            reason now = .ok (s', write) ->
          Store.LaneKept s spec s' write
  | _ => True

/-- The call replays no row beside an active row that its order lets it retire. -/
def Op.ReplaysAlone (s : Store) : Op -> Prop
  | .enqueueReplacingLane spec _ sourceGeneration false retireManaged none reason _ =>
    forall existing, existing ∈ s.findIdempotent spec.projectId spec.idempotencyKey ->
        ¬ s.ReplaysOver spec sourceGeneration retireManaged reason existing
  | _ => True

theorem Op.keepsLane_iff (s : Store) (op : Op) : op.KeepsLane s ↔ op.ReplaysAlone s := by
  cases op with
  | enqueueReplacingLane spec newJobId sourceGeneration advance retireManaged upgrade
      reason now =>
      cases advance with
      | true => exact Iff.rfl
      | false =>
        cases upgrade with
        | some revision => exact Iff.rfl
        | none =>
          exact Store.replacing_laneKept_iff s spec newJobId sourceGeneration retireManaged
            reason now
  | _ => exact Iff.rfl

/--
Every lane call of a history keeps its lane exactly when none replays a row beside
another row that it retires.
-/
theorem history_keepsLane_iff (sys : System) (ops : List SystemOp) :
    Guarded System.step (System.Permitted (fun _ s op => op.KeepsLane s)) sys ops ↔
      Guarded System.step (System.Permitted (fun _ s op => op.ReplaysAlone s)) sys ops := by
  apply guarded_congr
  intro found op
  exact guarded_congr (fun s performed => performed.keepsLane_iff s) _ _

/-!
# A recurrence under an advancing source

The evidence of a finished generation comes back while the next one is queued.
-/

def laneSpec (generation : String) : WorkflowJobSpec where
  projectId := "project-1"
  taskId := "task-1"
  generation := generation
  action := "terminal_audit"
  idempotencyKey := "terminal-audit:" ++ generation
  schedulingLane := "terminal-audit:Done"
  maxAttempts_pos := maxAttempts_default

def laneCall (generation newJobId : String) (sourceGeneration : Nat) (now : Int) : Op :=
  .enqueueReplacingLane (laneSpec generation) newJobId sourceGeneration false false none
    "superseded by a newer workflow generation" now

def supersededBeforeReplay : List SystemOp :=
  [.op (laneCall "evidence-a" "job-1" 1 1), .op (laneCall "evidence-b" "job-2" 2 2)]

theorem recurrence_displacesLane :
    let s := (run System.step {} supersededBeforeReplay).store
    let call := s.enqueueReplacingLane (laneSpec "evidence-a") "job-3" 3 false false none
      "superseded by a newer workflow generation" 3
    s.jobs.rows.map WorkflowJob.state = [.superseded, .queued] ∧
      call.map (fun written => (written.2.created, written.1.jobs.rows.map WorkflowJob.state)) =
        .ok (false, [.superseded, .superseded]) ∧
      ¬ Guarded System.step (System.Permitted (fun _ s op => op.KeepsLane s)) {}
        (supersededBeforeReplay ++ [.op (laneCall "evidence-a" "job-3" 3 3)]) := by
  have hrun : (run System.step {} supersededBeforeReplay).store.jobs.rows.map
      WorkflowJob.state = [.superseded, .queued] ∧
    ((run System.step {} supersededBeforeReplay).store.activeLaneRows "project-1" "task-1"
      ["terminal-audit:Done"]).map WorkflowJob.jobId = ["job-2"] ∧
    ((run System.step {} supersededBeforeReplay).store.enqueueReplacingLane
      (laneSpec "evidence-a") "job-3" 3 false false none
        "superseded by a newer workflow generation" 3).map (fun written =>
          (written.2.created, written.1.jobs.rows.map WorkflowJob.state,
            written.2.job.map WorkflowJob.jobId,
            (written.1.jobs.find? "job-2").map WorkflowJob.isActive)) =
      .ok (false, [.superseded, .superseded], some "job-1", some false) := by
    decide +kernel
  rcases hrun with ⟨hstates, hactive, hcall⟩
  rcases map_eq_ok.mp hcall with ⟨⟨s', write⟩, hok, hwritten⟩
  simp only [Prod.mk.injEq] at hwritten
  rcases hwritten with ⟨hcreated, hsuperseded, hreplayed, hended⟩
  refine ⟨hstates, ?_, ?_⟩
  · rw [hok]
    simp only [Except.map, hcreated, hsuperseded]
  · intro hguarded
    have hkept := hguarded.right.right.left.left s' write hok
    have hmem : "job-2" ∈ ((run System.step {} supersededBeforeReplay).store.activeLaneRows
        "project-1" "task-1" ["terminal-audit:Done"]).map WorkflowJob.jobId := by
      rw [hactive]
      exact List.mem_singleton_self _
    rcases List.mem_map.mp hmem with ⟨row, hrow, hid⟩
    have hother : forall job, job ∈ write.job -> row.jobId ≠ job.jobId := by
      intro job hjob hsame
      rw [Option.mem_def.mp hjob, Option.map_some, ← hsame, hid] at hreplayed
      exact absurd (Option.some.inj hreplayed) (by decide)
    rcases hkept.undisplaced hcreated row hrow hother with ⟨kept, hfind, hlive⟩
    rw [hid] at hfind
    rw [hfind, Option.map_some, hlive] at hended
    cases hended

end WorkflowJobs
end Oompah
