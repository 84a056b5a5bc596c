import Oompah.WorkflowJobs.SnapshotWrites

/-!
# Steps of the system

What a step of the system does to the store and to the checkpoints, and the
invariant that ties every captured checkpoint to the live tables.  A
publication runs the operations of its durable rollback, so conditions on
operations are stated over all the operations a step performs.
-/

namespace Oompah
namespace WorkflowJobs

open Foundation
open DurableRollback (perform)

def DurableRollback.performed (rollback : Option DurableRollback) : List Op :=
  (rollback.map DurableRollback.ops).getD []

/-- The store operations a step runs, in order. -/
def SystemOp.performed (s : Store) : SystemOp -> List Op
  | .op performed => [performed]
  | .capture _ _ _ => []
  | .publish generation publisher rollbackAuthority marker _ _ =>
    if generation = 0 ∨ s.snapshotGenerationIsCurrent generation = false ∨
        generation ≤ s.publishedGeneration then
      []
    else
      match publisher, marker with
      | .raised _, _ => DurableRollback.performed rollbackAuthority
      | .returned publication, .failed =>
        DurableRollback.performed (publication.rollbackAuthority.or rollbackAuthority)
      | .returned _, _ => []

/-- Every operation a step performs satisfies the condition where it runs. -/
def System.Permitted (condition : List WorkflowSnapshotAuthority -> Store -> Op -> Prop)
    (sys : System) (op : SystemOp) : Prop :=
  Guarded (Op.step sys.checkpoints) (condition sys.checkpoints) sys.store (op.performed sys.store)

instance (condition : List WorkflowSnapshotAuthority -> Store -> Op -> Prop)
    [forall checkpoints s op, Decidable (condition checkpoints s op)]
    (sys : System) (op : SystemOp) : Decidable (sys.Permitted condition op) :=
  inferInstanceAs (Decidable (Guarded _ _ _ _))

/-!
# Publication
-/

variable {s s' : Store}

namespace Store

/-- How a publication attempt leaves the store it found. -/
inductive PublishStep (checkpoints : List WorkflowSnapshotAuthority)
    (generation : Nat) (resetCommits : Bool) (now : Int) (ops : List Op)
    (s : Store) : Store -> PublishResult -> Prop where
  | refused (hops : ops = []) : PublishStep checkpoints generation resetCommits now ops s s .refused
  | published (hops : ops = []) (hcurrent : s.snapshotGenerationIsCurrent generation = true)
      (hnewer : s.publishedGeneration < generation) :
      PublishStep checkpoints generation resetCommits now ops s
        (s.markPublished generation now) .published
  | compensated (hcurrent : s.snapshotGenerationIsCurrent generation = true)
      (hnewer : s.publishedGeneration < generation)
      (rollbackFailed : Bool)
      (hunreset : rollbackFailed = true -> resetCommits = false) :
      PublishStep checkpoints generation resetCommits now ops s
        (run (Op.step checkpoints) s ops) (.raised rollbackFailed)
  | reset (hcurrent : s.snapshotGenerationIsCurrent generation = true)
      (hnewer : s.publishedGeneration < generation) :
      PublishStep checkpoints generation resetCommits now ops s
        ((run (Op.step checkpoints) s ops).resetAcceptance generation)
        (.raised true)

theorem compensate_performed (checkpoints : List WorkflowSnapshotAuthority)
    (s : Store) (publication : Option (Publication DurableRollback))
    (rollbackAuthority : Option DurableRollback) :
    (s.compensate (perform checkpoints) publication rollbackAuthority).1 =
      run (Op.step checkpoints) s (DurableRollback.performed
        ((publication.bind Publication.rollbackAuthority).or rollbackAuthority)) := by
  unfold compensate DurableRollback.performed
  cases (publication.bind Publication.rollbackAuthority).or rollbackAuthority with
  | none => rfl
  | some rollback => rfl

theorem failPublication_step (checkpoints : List WorkflowSnapshotAuthority)
    {s : Store} {generation : Nat} (now : Int)
    (publication : Option (Publication DurableRollback))
    (publisherRollbackFailed : Bool)
    (rollbackAuthority : Option DurableRollback) (resetCommits : Bool)
    (hcurrent : s.snapshotGenerationIsCurrent generation = true)
    (hnewer : s.publishedGeneration < generation) :
    PublishStep checkpoints generation resetCommits now (DurableRollback.performed
        ((publication.bind Publication.rollbackAuthority).or rollbackAuthority)) s
      (s.failPublication (perform checkpoints) generation
        publication publisherRollbackFailed rollbackAuthority resetCommits).1
      (s.failPublication (perform checkpoints) generation
        publication publisherRollbackFailed rollbackAuthority resetCommits).2 := by
  unfold failPublication
  dsimp only
  split
  · cases resetCommits with
    | true =>
      simp only [if_true, compensate_performed]
      exact PublishStep.reset hcurrent hnewer
    | false =>
      simp only [Bool.false_eq_true, if_false, compensate_performed]
      exact PublishStep.compensated hcurrent hnewer true (fun _ => rfl)
  · simp only [compensate_performed]
    exact PublishStep.compensated hcurrent hnewer false (by simp)

theorem publishSnapshotGeneration_step {checkpoints : List WorkflowSnapshotAuthority}
    {generation : Nat} {publisher : PublisherOutcome DurableRollback}
    {rollbackAuthority : Option DurableRollback} {marker : MarkerOutcome}
    {resetCommits : Bool} {now : Int} {result : PublishResult}
    (h : s.publishSnapshotGeneration (perform checkpoints)
      generation publisher rollbackAuthority marker resetCommits now = .ok (s', result)) :
    PublishStep checkpoints generation resetCommits now
      (SystemOp.performed s (.publish generation publisher rollbackAuthority
        marker resetCommits now)) s s' result := by
  unfold publishSnapshotGeneration positiveGeneration at h
  rw [require_bind_eq_ok] at h
  rcases h with ⟨hpositive, h⟩
  have hnonzero : generation ≠ 0 := by omega
  split at h
  · rename_i hrefused
    cases h
    apply PublishStep.refused
    simp [SystemOp.performed, hrefused]
  · rename_i hcurrent
    have hperformed : ¬ (generation = 0 ∨ s.snapshotGenerationIsCurrent generation = false ∨
          generation ≤ s.publishedGeneration) := by
      simp only [not_or]
      exact ⟨hnonzero, (not_or.mp hcurrent).left, (not_or.mp hcurrent).right⟩
    simp only [not_or, Bool.not_eq_false, Nat.not_le] at hcurrent
    rcases hcurrent with ⟨hcurrent, hnewer⟩
    simp only [SystemOp.performed, if_neg hperformed]
    split at h
    · rename_i rollbackFailed
      have hstep := failPublication_step checkpoints now none rollbackFailed
        rollbackAuthority resetCommits hcurrent hnewer
      rw [Except.ok.inj h] at hstep
      exact hstep
    · rename_i publication
      have hstep := failPublication_step checkpoints now (some publication)
        false rollbackAuthority resetCommits hcurrent hnewer
      rw [Except.ok.inj h] at hstep
      exact hstep
    · rename_i publication hmarker
      cases h
      cases marker with
      | committed => exact PublishStep.published rfl hcurrent hnewer
      | committedThenRaised => exact PublishStep.published rfl hcurrent hnewer
      | failed => exact (hmarker rfl).elim

end Store

/-!
# Steps
-/

namespace System

theorem step_op (sys : System) (op : Op) : sys.step (.op op) =
      { sys with store := Op.step sys.checkpoints sys.store op } := by
  simp only [step, apply, Op.step]
  cases op.apply sys.checkpoints sys.store with
  | error e => rfl
  | ok written => rfl

theorem step_publish (sys : System) (generation : Nat)
    (publisher : Store.PublisherOutcome DurableRollback)
    (rollbackAuthority : Option DurableRollback) (marker : Store.MarkerOutcome)
    (resetCommits : Bool) (now : Int) :
    (sys.step (.publish generation publisher rollbackAuthority marker
        resetCommits now)).checkpoints = sys.checkpoints ∧
      ((sys.step (.publish generation publisher rollbackAuthority marker
          resetCommits now)).store = sys.store ∧ generation = 0 ∨
        exists result, Store.PublishStep sys.checkpoints generation resetCommits now
          (SystemOp.performed sys.store (.publish generation publisher
            rollbackAuthority marker resetCommits now)) sys.store
          (sys.step (.publish generation publisher rollbackAuthority marker
            resetCommits now)).store result) := by
  simp only [step, apply]
  cases hpublish : sys.store.publishSnapshotGeneration
      (perform sys.checkpoints) generation publisher
      rollbackAuthority marker resetCommits now with
  | error e =>
    refine ⟨rfl, Or.inl ⟨rfl, ?_⟩⟩
    by_contra hpositive
    simp only [Store.publishSnapshotGeneration, positiveGeneration, require,
      show 1 ≤ generation by omega, if_true] at hpublish
    split at hpublish
    · cases hpublish
    · split at hpublish <;> cases hpublish
  | ok written =>
    exact ⟨rfl, Or.inr ⟨written.2, Store.publishSnapshotGeneration_step hpublish⟩⟩

/--
A property of the store and its checkpoints is kept by a step when each
operation the step performs, a publication marker and a reset of the acceptance
keep it.
-/
theorem permitted_step {I : List WorkflowSnapshotAuthority -> Store -> Prop}
    {condition : List WorkflowSnapshotAuthority -> Store -> Op -> Prop}
    (hop : forall checkpoints s op, I checkpoints s ->
      condition checkpoints s op -> I checkpoints (Op.step checkpoints s op))
    (hcapture : forall checkpoints s projectIds identities fullProjectScope, I checkpoints s ->
        I (checkpoints ++ [s.captureSnapshotAuthority projectIds identities fullProjectScope]) s)
    (hpublish : forall checkpoints s generation now, I checkpoints s ->
      s.snapshotGenerationIsCurrent generation = true ->
      s.publishedGeneration < generation -> I checkpoints (s.markPublished generation now))
    (hreset : forall checkpoints s generation, I checkpoints s ->
      I checkpoints (s.resetAcceptance generation))
    {sys : System} {op : SystemOp} (hinv : I sys.checkpoints sys.store)
    (hpermitted : sys.Permitted condition op) :
    I (sys.step op).checkpoints (sys.step op).store := by
  cases op with
  | op op =>
    rw [step_op]
    exact hop _ _ _ hinv hpermitted.left
  | capture projectIds identities fullProjectScope =>
    exact hcapture _ _ _ _ _ hinv
  | publish generation publisher rollbackAuthority marker resetCommits now =>
    rcases step_publish sys generation publisher rollbackAuthority marker
      resetCommits now with ⟨hcheckpoints, hstore⟩
    have hrun := guarded_invariant_run (I := I sys.checkpoints)
      (hop sys.checkpoints) hinv hpermitted
    rw [hcheckpoints]
    rcases hstore with ⟨hsame, _⟩ | ⟨result, hpublish⟩
    · rw [hsame]
      exact hinv
    · revert hpublish
      generalize (sys.step (.publish generation publisher rollbackAuthority
        marker resetCommits now)).store = s'
      intro hpublish
      cases hpublish with
      | refused => exact hinv
      | published _ hcurrent hnewer => exact hpublish _ _ _ _ hinv hcurrent hnewer
      | compensated => exact hrun
      | reset => exact hreset _ _ _ hrun

end System

/-!
# Checkpoints along runs
-/

/--
Checkpoints and retirement rows still make sense of the job table, and every
task has one cursor.
-/
structure Coherent (checkpoints : List WorkflowSnapshotAuthority)
    (s : Store) : Prop where
  checkpoints : CheckpointsSound checkpoints s
  retirements : forall retirement, retirement ∈ s.retirements -> RetirementSound s retirement
  cursors : CursorsUnique s.tables

variable {p : Permit} {authority : WorkflowSnapshotAuthority}

theorem AuthoritySound.writes (hwrites : Writes p s s')
    (hcaptures : p.CapturesKnown s) (h : AuthoritySound s authority) :
    AuthoritySound s' authority where
  managed := h.managed
  known := fun captured hcaptured => by
    rcases h.known captured hcaptured with ⟨row, hrow, hkept⟩
    rcases hwrites.row_kept hcaptures hrow with ⟨row', hrow', hkept'⟩
    exact ⟨row', hrow', hkept.trans hkept'⟩
  retirements := fun retirement hretirement =>
    (h.retirements retirement hretirement).writes hwrites hcaptures
  cursors := h.cursors
  covered := h.covered

theorem Writes.cursorsUnique (hwrites : Writes p s s') (h : CursorsUnique s.tables) :
    CursorsUnique s'.tables := by
  apply hwrites.invariant (I := fun s => CursorsUnique s.tables) _ h
  intro s s' hwrite hs
  cases hwrite with
  | tables hcursors => exact hcursors hs
  | act => exact hs
  | insert => exact hs
  | event => exact hs
  | retire => exact hs
  | dropRetirements => exact hs
  | fence => exact hs
  | relocate => exact hs

theorem Write.retirements_sound (hwrite : Write p s s') (hcaptures : p.CapturesKnown s)
    (h : forall retirement, retirement ∈ s.retirements -> RetirementSound s retirement) :
    forall retirement, retirement ∈ s'.retirements -> RetirementSound s' retirement := by
  intro retirement hretirement
  have hkept : retirement ∈ s.retirements -> RetirementSound s' retirement :=
    fun hmem => (h retirement hmem).of_kept (fun _ hrow => hwrite.row_kept hcaptures hrow)
  cases hwrite with
  | @retire written hsound =>
    rcases List.mem_append.mp hretirement with hold | hnew
    · exact hkept (List.mem_filter.mp hold).left
    · rw [List.mem_singleton] at hnew
      rw [hnew]
      exact hsound.of_jobs rfl
  | dropRetirements => exact hkept (List.mem_filter.mp hretirement).left
  | act => exact hkept hretirement
  | insert => exact hkept hretirement
  | event => exact hkept hretirement
  | tables => exact hkept hretirement
  | fence => exact hkept hretirement
  | relocate => exact hkept hretirement

theorem Writes.retirements_sound (hwrites : Writes p s s') (hcaptures : p.CapturesKnown s)
    (h : forall retirement, retirement ∈ s.retirements -> RetirementSound s retirement) :
    forall retirement, retirement ∈ s'.retirements -> RetirementSound s' retirement := by
  have hboth := hwrites.invariant (I := fun s => p.CapturesKnown s ∧
      forall retirement, retirement ∈ s.retirements -> RetirementSound s retirement)
    (fun s s' hwrite hs => ⟨hwrite.capturesKnown hs.left,
      hwrite.retirements_sound hs.left hs.right⟩)
    ⟨hcaptures, h⟩
  exact hboth.right

variable {checkpoints : List WorkflowSnapshotAuthority} {s : Store}

theorem Op.captures_mem {op : Op} {captured : WorkflowJob}
    (h : (op.permit checkpoints s).captures captured) :
    exists authority, authority ∈ checkpoints ∧ captured ∈ authority.jobs := by
  cases op with
  | restoreSnapshotAuthority index snapshot now =>
    rcases h with ⟨authority, hauthority, hmem⟩
    exact ⟨authority, List.mem_of_getElem? hauthority, hmem⟩
  | _ => exact h.elim

theorem CheckpointsSound.capturesKnown (h : CheckpointsSound checkpoints s) (op : Op) :
    (op.permit checkpoints s).CapturesKnown s where
  managed := fun captured hcaptured => by
    rcases Op.captures_mem hcaptured with ⟨authority, hauthority, hmem⟩
    exact (h authority hauthority).managed captured hmem
  known := fun captured hcaptured => by
    rcases Op.captures_mem hcaptured with ⟨authority, hauthority, hmem⟩
    exact (h authority hauthority).known captured hmem

theorem Op.step_writes (hsound : CheckpointsSound checkpoints s) (op : Op) :
    Writes (op.permit checkpoints s) s (op.step checkpoints s) := by
  unfold Op.step
  cases happly : op.apply checkpoints s with
  | error e => exact Writes.refl s
  | ok written => exact Op.apply_writes hsound happly

theorem Coherent.step (h : Coherent checkpoints s) (op : Op) :
    Coherent checkpoints (op.step checkpoints s) where
  checkpoints := fun authority hauthority =>
    (h.checkpoints authority hauthority).writes
      (Op.step_writes h.checkpoints op) (h.checkpoints.capturesKnown op)
  retirements := (Op.step_writes h.checkpoints op).retirements_sound
    (h.checkpoints.capturesKnown op) h.retirements
  cursors := (Op.step_writes h.checkpoints op).cursorsUnique h.cursors

theorem captureSnapshotAuthority_jobs_mem
    {projectIds : List String} {identities : List (String × String)}
    {fullProjectScope : Bool} {row : WorkflowJob}
    (h : row ∈ (s.captureSnapshotAuthority projectIds identities fullProjectScope).jobs) :
    row ∈ s.jobs.rows := by
  unfold Store.captureSnapshotAuthority at h
  dsimp only at h
  split at h
  · exact (List.mem_filter.mp h).left
  · cases h

theorem captureSnapshotAuthority_sound (h : forall retirement, retirement ∈ s.retirements ->
      RetirementSound s retirement)
    (hcursors : CursorsUnique s.tables) (projectIds : List String)
    (identities : List (String × String))
    (fullProjectScope : Bool) :
    AuthoritySound s (s.captureSnapshotAuthority projectIds identities fullProjectScope) := by
  unfold Store.captureSnapshotAuthority
  dsimp only
  split
  · constructor
    · intro row hrow
      have hfilter := (List.mem_filter.mp hrow).right
      simp only [Bool.decide_and, Bool.decide_eq_true, Bool.and_eq_true] at hfilter
      exact hfilter.right
    · intro captured hcaptured
      exact ⟨captured, JobTable.find?_of_mem (List.mem_filter.mp hcaptured).left,
        RowKept.refl captured⟩
    · intro retirement hretirement
      exact h retirement (List.mem_filter.mp hretirement).left
    · exact (List.filter_sublist.map _).nodup hcursors
    · intro cursor hcursor
      exact (List.mem_filter.mp hcursor).right
  · constructor
    · intro _ hmem
      cases hmem
    · intro _ hmem
      cases hmem
    · intro _ hmem
      cases hmem
    · exact List.nodup_nil
    · intro _ hmem
      cases hmem

theorem Coherent.capture (h : Coherent checkpoints s) (projectIds : List String)
    (identities : List (String × String)) (fullProjectScope : Bool) :
    Coherent (checkpoints ++
      [s.captureSnapshotAuthority projectIds identities fullProjectScope]) s where
  checkpoints := by
    intro authority hauthority
    rcases List.mem_append.mp hauthority with hold | hnew
    · exact h.checkpoints authority hold
    · rw [List.mem_singleton] at hnew
      rw [hnew]
      exact captureSnapshotAuthority_sound h.retirements h.cursors _ _ _
  retirements := h.retirements
  cursors := h.cursors

theorem Coherent.empty : Coherent [] {} where
  checkpoints := by
    intro _ h
    cases h
  retirements := by
    intro _ h
    cases h
  cursors := List.nodup_nil

theorem AuthoritySound.of_jobs (hjobs : s'.jobs = s.jobs) (h : AuthoritySound s authority) :
    AuthoritySound s' authority where
  managed := h.managed
  known := fun captured hcaptured => by
    rw [hjobs]
    exact h.known captured hcaptured
  retirements := fun retirement hretirement =>
    (h.retirements retirement hretirement).of_jobs hjobs
  cursors := h.cursors
  covered := h.covered

theorem Coherent.of_jobs (hjobs : s'.jobs = s.jobs) (hretirements : s'.retirements = s.retirements)
    (htables : s'.tables = s.tables) (h : Coherent checkpoints s) :
    Coherent checkpoints s' where
  checkpoints := fun authority hauthority =>
    (h.checkpoints authority hauthority).of_jobs hjobs
  retirements := fun retirement hretirement =>
    (h.retirements retirement (hretirements ▸ hretirement)).of_jobs hjobs
  cursors := htables ▸ h.cursors

/-- The publication marker and the reset touch the publication tables only. -/
structure SameAuthority (s s' : Store) : Prop where
  jobs : s'.jobs = s.jobs
  retirements : s'.retirements = s.retirements
  tables : s'.tables = s.tables

theorem markPublished_sameAuthority (s : Store) (generation : Nat) (now : Int) :
    SameAuthority s (s.markPublished generation now) :=
  ⟨rfl, rfl, rfl⟩

theorem resetAcceptance_sameAuthority (s : Store) (generation : Nat) :
    SameAuthority s (s.resetAcceptance generation) := by
  unfold Store.resetAcceptance
  split <;> exact ⟨rfl, rfl, rfl⟩

variable {I : List WorkflowSnapshotAuthority -> Store -> Prop}
  {condition : List WorkflowSnapshotAuthority -> Store -> Op -> Prop}

/--
The invariant rule of permitted runs: what every permitted operation keeps in
coherent states, and captures, markers and resets keep, holds along the run.
-/
theorem System.fenced_run
    (hop : forall checkpoints s op, Coherent checkpoints s -> I checkpoints s ->
      condition checkpoints s op -> I checkpoints (Op.step checkpoints s op))
    (hcapture : forall checkpoints s projectIds identities fullProjectScope, I checkpoints s ->
        I (checkpoints ++ [s.captureSnapshotAuthority projectIds identities fullProjectScope]) s)
    (hpublish : forall checkpoints s generation now, I checkpoints s ->
      s.snapshotGenerationIsCurrent generation = true ->
      s.publishedGeneration < generation -> I checkpoints (s.markPublished generation now))
    (hreset : forall checkpoints s generation, I checkpoints s ->
      I checkpoints (s.resetAcceptance generation))
    {sys : System} (hcoherent : Coherent sys.checkpoints sys.store)
    (hinv : I sys.checkpoints sys.store) {ops : List SystemOp}
    (hpermitted : Guarded System.step (System.Permitted condition) sys ops) :
    Coherent (run System.step sys ops).checkpoints (run System.step sys ops).store ∧
      I (run System.step sys ops).checkpoints (run System.step sys ops).store := by
  have hstep : forall (sys : System) (op : SystemOp),
      (Coherent sys.checkpoints sys.store ∧ I sys.checkpoints sys.store) ->
        sys.Permitted condition op -> Coherent (sys.step op).checkpoints (sys.step op).store ∧
            I (sys.step op).checkpoints (sys.step op).store := by
    intro sys op hboth hallowed
    apply System.permitted_step (I := fun checkpoints s => Coherent checkpoints s ∧ I checkpoints s)
      _ _ _ _ hboth hallowed
    · intro checkpoints s op h hcondition
      exact ⟨h.left.step op, hop checkpoints s op h.left h.right hcondition⟩
    · intro checkpoints s projectIds identities fullProjectScope h
      exact ⟨h.left.capture _ _ _, hcapture _ _ _ _ _ h.right⟩
    · intro checkpoints s generation now h hcurrent hnewer
      have hsame := markPublished_sameAuthority s generation now
      exact ⟨h.left.of_jobs hsame.jobs hsame.retirements hsame.tables,
        hpublish _ _ _ _ h.right hcurrent hnewer⟩
    · intro checkpoints s generation h
      have hsame := resetAcceptance_sameAuthority s generation
      exact ⟨h.left.of_jobs hsame.jobs hsame.retirements hsame.tables, hreset _ _ _ h.right⟩
  exact guarded_invariant_run hstep ⟨hcoherent, hinv⟩ hpermitted

/-- The rule for properties that ignore the publication tables. -/
theorem System.permitted_run
    (hop : forall checkpoints s op, Coherent checkpoints s -> I checkpoints s ->
      condition checkpoints s op -> I checkpoints (Op.step checkpoints s op))
    (hcapture : forall checkpoints s projectIds identities fullProjectScope, I checkpoints s ->
        I (checkpoints ++ [s.captureSnapshotAuthority projectIds identities fullProjectScope]) s)
    (hcounters : forall checkpoints s counters publications, I checkpoints s ->
      I checkpoints { s with counters := counters, publications := publications })
    {sys : System} (hcoherent : Coherent sys.checkpoints sys.store)
    (hinv : I sys.checkpoints sys.store) {ops : List SystemOp}
    (hpermitted : Guarded System.step (System.Permitted condition) sys ops) :
    Coherent (run System.step sys ops).checkpoints (run System.step sys ops).store ∧
      I (run System.step sys ops).checkpoints (run System.step sys ops).store := by
  apply System.fenced_run hop hcapture _ _ hcoherent hinv hpermitted
  · intro checkpoints s generation now h _ _
    exact hcounters _ _ _ _ h
  · intro checkpoints s generation h
    unfold Store.resetAcceptance
    split
    · exact hcounters _ _ _ _ h
    · exact h

/-- Every run is permitted when nothing is asked of its operations. -/
theorem System.unrestricted (sys : System) (ops : List SystemOp) :
    Guarded System.step (System.Permitted (fun _ _ _ => True)) sys ops :=
  guarded_of_forall (fun _ _ => guarded_of_forall (fun _ _ => trivial) _ _) sys ops

theorem System.coherent_run (ops : List SystemOp) : Coherent (run System.step {} ops).checkpoints
      (run System.step {} ops).store := by
  have hboth := System.permitted_run (I := fun _ _ => True)
    (fun _ _ _ _ _ _ => trivial) (fun _ _ _ _ _ _ => trivial)
    (fun _ _ _ _ _ => trivial) Coherent.empty trivial
    (System.unrestricted {} ops)
  exact hboth.left

/-- A property of single rows, for the table and for every captured row. -/
structure RowsHold (P : WorkflowJob -> Prop)
    (checkpoints : List WorkflowSnapshotAuthority) (s : Store) : Prop where
  rows : forall row, row ∈ s.jobs.rows -> P row
  captured : forall authority, authority ∈ checkpoints -> forall row, row ∈ authority.jobs -> P row

namespace RowsHold

variable {P : WorkflowJob -> Prop} {checkpoints : List WorkflowSnapshotAuthority}
  {s : Store}

theorem empty : RowsHold P [] {} where
  rows := by
    intro _ h
    cases h
  captured := by
    intro _ h
    cases h

theorem step {op : Op} (hsound : CheckpointsSound checkpoints s) (h : RowsHold P checkpoints s)
    (hact : forall current action row, (op.permit checkpoints s).Allows current action row ->
        (forall captured, action.capturedRow = some captured -> P captured) ->
        P row -> P (action.apply row))
    (hinsert : forall newJobId sequence spec managed now, (op.permit checkpoints s).specs spec ->
        P (WorkflowJob.fresh newJobId sequence spec managed now)) :
    RowsHold P checkpoints (op.step checkpoints s) where
  rows := by
    apply (Op.step_writes hsound op).rows_invariant _ hinsert h.rows
    intro current action row hallows
    apply hact current action row hallows
    intro captured hcaptured
    rcases Op.captures_mem (hallows.captures captured hcaptured) with
      ⟨authority, hauthority, hmem⟩
    exact h.captured authority hauthority captured hmem
  captured := h.captured

theorem capture (h : RowsHold P checkpoints s) (projectIds : List String)
    (identities : List (String × String)) (fullProjectScope : Bool) :
    RowsHold P (checkpoints ++
      [s.captureSnapshotAuthority projectIds identities fullProjectScope]) s where
  rows := h.rows
  captured := by
    intro authority hauthority row hrow
    rcases List.mem_append.mp hauthority with hold | hnew
    · exact h.captured authority hold row hrow
    · rw [List.mem_singleton] at hnew
      rw [hnew] at hrow
      exact h.rows row (captureSnapshotAuthority_jobs_mem hrow)

end RowsHold

/-!
# A sample run

One managed job of a published snapshot, claimed by a worker.
-/

def sampleSpec : WorkflowJobSpec where
  projectId := "project-1"
  taskId := "task-1"
  generation := "revision-1:1"
  action := "publish"
  idempotencyKey := "key-1"
  maxAttempts_pos := maxAttempts_default

def publishedClaim : List SystemOp :=
  [.op .allocateSnapshotGeneration, .op (.acceptSnapshotGeneration 1),
    .op (.reconcileSnapshotMembership 1 ["project-1"] [("project-1", "task-1")] none 1),
    .op (.schedule (.activateSchedule "project-1" "task-1" "revision-1" 1 none none [] 1)),
    .op (.schedule (.reconcileSchedule "project-1" "task-1" 1 "revision-1:1"
      [(sampleSpec, "job-1")] true none "scheduled" 1)),
    .publish 1 (.returned {}) none .committed true 2,
    .op (.claimNext "worker-1" sampleToken 60 {} false 100 3)]

end WorkflowJobs
end Oompah
