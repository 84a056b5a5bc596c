import Oompah.WorkflowJobs.Runs

/-!
# Publication of generations

The allocated, accepted and published counters over whole runs.  A generation
whose compensator failed is reset to unaccepted, and stays unpublished as long
as nobody accepts it again while it is the newest allocation.
-/

namespace Oompah
namespace WorkflowJobs

open Foundation

/-!
# The publication tables along writes
-/

variable {p : Permit}

theorem Writes.publications {s s' : Store} (h : Writes p s s') : s'.publications = s.publications ∧
      s'.counters.published = s.counters.published := by
  induction h with
  | refl => exact ⟨rfl, rfl⟩
  | tail _ hlast ih =>
    cases hlast with
    | fence hpublished => exact ⟨ih.left, hpublished.trans ih.right⟩
    | act => exact ih
    | insert => exact ih
    | event => exact ih
    | tables => exact ih
    | retire => exact ih
    | dropRetirements => exact ih
    | relocate => exact ih

theorem Writes.isPublished {s s' : Store} (h : Writes p s s') (generation : Nat) :
    s'.isPublished generation = s.isPublished generation := by
  unfold Store.isPublished
  rw [h.publications.left]

theorem Writes.publishedGeneration {s s' : Store} (h : Writes p s s') :
    s'.publishedGeneration = s.publishedGeneration := by
  unfold Store.publishedGeneration
  rw [h.publications.right]

variable {s : Store}

theorem Store.isPublished_markPublished {generation other : Nat}
    {now : Int} (hne : other ≠ generation) :
    (s.markPublished generation now).isPublished other = s.isPublished other := by
  unfold markPublished isPublished
  split
  · rfl
  · simp [List.any_append, hne.symm]

/-- How an operation may move the allocation and acceptance counters. -/
inductive CounterStep (s : Store) (op : Op) : SnapshotCounters -> Prop where
  | same : CounterStep s op s.counters
  | allocated (generation : Nat) (hnewer : s.counters.allocated.getD 0 < generation) :
      CounterStep s op { s.counters with allocated := some generation }
  | accepted (generation : Nat) (hop : op = .acceptSnapshotGeneration generation)
      (hallocated : s.counters.allocated.getD 0 = generation) :
      CounterStep s op { s.counters with accepted := some generation }
  | rolledBack : CounterStep s op { s.counters with accepted := some s.publishedGeneration }

theorem Op.counterStep {checkpoints : List WorkflowSnapshotAuthority}
    (hsound : CheckpointsSound checkpoints s) (op : Op) :
    CounterStep s op (op.step checkpoints s).counters := by
  rcases Store.Writes_counters (Op.step_writes hsound op) with hsame | hfence
  · rw [hsame]
    exact CounterStep.same
  · revert hfence
    generalize (op.step checkpoints s).counters = counters
    intro hfence
    cases op with
    | allocateSnapshotGeneration =>
      rcases hfence with ⟨generation, hnewer, hcounters⟩
      rw [hcounters]
      exact CounterStep.allocated generation hnewer
    | acceptSnapshotGeneration generation =>
      rcases hfence with ⟨hallocated, _, hcounters⟩
      rw [hcounters]
      exact CounterStep.accepted generation rfl hallocated
    | restoreSnapshotAuthority =>
      have hcounters : counters =
          { s.counters with accepted := some s.publishedGeneration } := hfence
      rw [hcounters]
      exact CounterStep.rolledBack
    | _ => exact hfence.elim

/-!
# Every published generation is at most the newest one
-/

def PublicationsBounded (s : Store) : Prop :=
  forall publication, publication ∈ s.publications -> publication.1 ≤ s.publishedGeneration

variable {generation : Nat}

theorem publicationsBounded_markPublished {now : Int} (h : PublicationsBounded s)
    (hnewer : s.publishedGeneration < generation) :
    PublicationsBounded (s.markPublished generation now) := by
  intro publication hpublication
  change publication.1 ≤ generation
  unfold Store.markPublished at hpublication
  split at hpublication
  · exact Nat.le_of_lt (Nat.lt_of_le_of_lt (h publication hpublication) hnewer)
  · rcases List.mem_append.mp hpublication with hold | hnew
    · exact Nat.le_of_lt (Nat.lt_of_le_of_lt (h publication hold) hnewer)
    · rw [List.mem_singleton] at hnew
      rw [hnew]

theorem publicationsBounded_resetAcceptance (h : PublicationsBounded s) :
    PublicationsBounded (s.resetAcceptance generation) := by
  unfold Store.resetAcceptance
  split
  · exact h
  · exact h

theorem publicationsBounded_run (ops : List SystemOp) :
    PublicationsBounded (run System.step {} ops).store := by
  have hboth := System.fenced_run (I := fun _ s => PublicationsBounded s)
    (fun checkpoints s op hcoherent hbounded _ => by
      have hwrites := Op.step_writes hcoherent.checkpoints op
      intro publication hpublication
      rw [hwrites.publications.left] at hpublication
      rw [hwrites.publishedGeneration]
      exact hbounded publication hpublication)
    (fun _ _ _ _ _ h => h)
    (fun _ _ _ _ h _ hnewer => publicationsBounded_markPublished h hnewer)
    (fun _ _ _ h => publicationsBounded_resetAcceptance h)
    Coherent.empty (by
      intro publication hpublication
      cases hpublication) (System.unrestricted {} ops)
  exact hboth.right

theorem PublicationsBounded.unmarked
    (h : PublicationsBounded s) (hnewer : s.publishedGeneration < generation) :
    s.isPublished generation = false := by
  rw [Store.isPublished, List.any_eq_false]
  intro publication hpublication
  have hle := h publication hpublication
  simp only [decide_eq_true_eq]
  omega

/-!
# A generation that can no longer be published
-/

/-- `before` is the published generation when the compensator failed. -/
structure NeverPublished (generation before : Nat) (s : Store) : Prop where
  positive : 1 ≤ generation
  allocated : generation ≤ s.counters.allocated.getD 0
  refused : s.snapshotGenerationIsCurrent generation = false
  unpublished : s.publishedGeneration ≠ generation
  unmarked : s.isPublished generation = false
  newer : s.publishedGeneration = before ∨ generation < s.publishedGeneration

/-- The operation accepts the generation while it is the newest allocation. -/
def Op.reaccepts (generation : Nat) (s : Store) : Op -> Bool
  | .acceptSnapshotGeneration accepted =>
    accepted = generation ∧ s.counters.allocated.getD 0 = generation
  | _ => false

namespace NeverPublished

variable {generation before : Nat} {s : Store}

theorem refused_of_counters {counters : SnapshotCounters}
    (h : ¬ (counters.allocated = some generation ∧ counters.accepted = some generation)) :
    ({ s with counters := counters } : Store).snapshotGenerationIsCurrent generation = false := by
  simpa [Store.snapshotGenerationIsCurrent] using h

variable {checkpoints : List WorkflowSnapshotAuthority}

theorem step {op : Op} (hsound : CheckpointsSound checkpoints s)
    (hreaccepts : op.reaccepts generation s = false) (h : NeverPublished generation before s) :
    NeverPublished generation before (op.step checkpoints s) := by
  have hwrites := Op.step_writes hsound op
  have hcounters := Op.counterStep hsound op
  have hrefused := h.refused
  simp only [Store.snapshotGenerationIsCurrent, decide_eq_false_iff_not] at hrefused
  have hboth : generation ≤ (op.step checkpoints s).counters.allocated.getD 0 ∧
      ¬ ((op.step checkpoints s).counters.allocated = some generation ∧
        (op.step checkpoints s).counters.accepted = some generation) := by
    revert hcounters
    generalize (op.step checkpoints s).counters = counters
    intro hcounters
    cases hcounters with
    | same => exact ⟨h.allocated, hrefused⟩
    | allocated newest hnewer =>
      have hlt := Nat.lt_of_le_of_lt h.allocated hnewer
      refine ⟨Nat.le_of_lt hlt, ?_⟩
      intro hcurrent
      have heq : newest = generation := Option.some.inj hcurrent.left
      omega
    | accepted accepted hop hallocated =>
      refine ⟨h.allocated, ?_⟩
      intro hcurrent
      have heq : accepted = generation := Option.some.inj hcurrent.right
      subst heq
      simp [hop, Op.reaccepts, hallocated] at hreaccepts
    | rolledBack =>
      refine ⟨h.allocated, ?_⟩
      intro hcurrent
      exact h.unpublished (Option.some.inj hcurrent.right)
  constructor
  · exact h.positive
  · exact hboth.left
  · simpa [Store.snapshotGenerationIsCurrent] using hboth.right
  · rw [hwrites.publishedGeneration]
    exact h.unpublished
  · rw [hwrites.isPublished]
    exact h.unmarked
  · rw [hwrites.publishedGeneration]
    exact h.newer

theorem markPublished {other : Nat} {now : Int}
    (hcurrent : s.snapshotGenerationIsCurrent other = true)
    (h : NeverPublished generation before s) :
    NeverPublished generation before (s.markPublished other now) := by
  have hne : other ≠ generation := by
    intro heq
    rw [heq, h.refused] at hcurrent
    cases hcurrent
  simp only [Store.snapshotGenerationIsCurrent, decide_eq_true_eq] at hcurrent
  have hlt : generation < other := by
    have hle := h.allocated
    rw [hcurrent.left] at hle
    exact Nat.lt_of_le_of_ne hle hne.symm
  constructor
  · exact h.positive
  · exact h.allocated
  · exact h.refused
  · exact hne
  · rw [Store.isPublished_markPublished hne.symm]
    exact h.unmarked
  · exact .inr hlt

theorem resetAcceptance (other : Nat) (h : NeverPublished generation before s) :
    NeverPublished generation before (s.resetAcceptance other) := by
  unfold Store.resetAcceptance
  split
  · constructor
    · exact h.positive
    · exact h.allocated
    · apply refused_of_counters
      intro hcurrent
      exact h.unpublished (Option.some.inj hcurrent.right)
    · exact h.unpublished
    · exact h.unmarked
    · exact h.newer
  · exact h

/-- The failed publication itself, whatever its durable rollback did. -/
theorem of_failure (hcoherent : Coherent checkpoints s) (hbounded : PublicationsBounded s)
    (hcurrent : s.snapshotGenerationIsCurrent generation = true)
    (hnewer : s.publishedGeneration < generation) (ops : List Op) :
    NeverPublished generation s.publishedGeneration
      ((run (Op.step checkpoints) s ops).resetAcceptance generation) := by
  simp only [Store.snapshotGenerationIsCurrent, decide_eq_true_eq] at hcurrent
  have hstep : forall (middle : Store) (op : Op), (Coherent checkpoints middle ∧
        generation ≤ middle.counters.allocated.getD 0 ∧
        middle.publishedGeneration = s.publishedGeneration ∧
        middle.isPublished generation = false) ->
      Coherent checkpoints (op.step checkpoints middle) ∧
        generation ≤ (op.step checkpoints middle).counters.allocated.getD 0 ∧
        (op.step checkpoints middle).publishedGeneration = s.publishedGeneration ∧
        (op.step checkpoints middle).isPublished generation = false := by
    intro middle op hmiddle
    rcases hmiddle with ⟨hcoherent, hallocated, hpublished, hunmarked⟩
    have hwrites := Op.step_writes hcoherent.checkpoints op
    refine ⟨hcoherent.step op, ?_, ?_, ?_⟩
    · have hcounters := Op.counterStep hcoherent.checkpoints op
      revert hcounters
      generalize (op.step checkpoints middle).counters = counters
      intro hcounters
      cases hcounters with
      | same => exact hallocated
      | allocated newest hlt => exact Nat.le_of_lt (Nat.lt_of_le_of_lt hallocated hlt)
      | accepted => exact hallocated
      | rolledBack => exact hallocated
    · rw [hwrites.publishedGeneration]
      exact hpublished
    · rw [hwrites.isPublished]
      exact hunmarked
  have hallocated : generation ≤ s.counters.allocated.getD 0 := by
    rw [hcurrent.left]
    exact Nat.le_refl _
  have hrun := invariant_run hstep ⟨hcoherent, hallocated, rfl, hbounded.unmarked hnewer⟩ ops
  clear hallocated
  rcases hrun with ⟨_, hallocated, hpublished, hunmarked⟩
  revert hallocated hpublished hunmarked
  generalize run (Op.step checkpoints) s ops = failed
  intro hallocated hpublished hunmarked
  have hpositive : 1 ≤ generation := by omega
  have hunpublished : failed.publishedGeneration ≠ generation := by omega
  unfold Store.resetAcceptance
  split
  · refine ⟨hpositive, hallocated, ?_, hunpublished, hunmarked, Or.inl hpublished⟩
    apply refused_of_counters
    intro hagain
    exact hunpublished (Option.some.inj hagain.right)
  · rename_i hrefused
    exact ⟨hpositive, hallocated, by simpa using hrefused, hunpublished, hunmarked,
      Or.inl hpublished⟩

theorem run {sys : System} {ops : List SystemOp} (hcoherent : Coherent sys.checkpoints sys.store)
    (h : NeverPublished generation before sys.store)
    (hreaccepts : Guarded System.step
      (System.Permitted (fun _ s op => op.reaccepts generation s = false)) sys
      ops) :
    NeverPublished generation before (Foundation.run System.step sys ops).store := by
  have hboth := System.fenced_run (I := fun _ s => NeverPublished generation before s)
    (fun _ _ _ hcoherent hdead hcondition =>
      hdead.step hcoherent.checkpoints hcondition)
    (fun _ _ _ _ _ hdead => hdead)
    (fun _ _ _ _ hdead hcurrent _ => hdead.markPublished hcurrent)
    (fun _ _ other hdead => hdead.resetAcceptance other)
    hcoherent h hreaccepts
  exact hboth.right

end NeverPublished

/-!
# Runs after a failed compensator
-/

/-- A run that tries to publish a generation and goes on. -/
structure PublicationRun where
  before : List SystemOp
  generation : Nat
  publisher : Store.PublisherOutcome DurableRollback
  rollbackAuthority : Option DurableRollback
  marker : Store.MarkerOutcome
  resetCommits : Bool
  publishedAt : Int
  after : List SystemOp

namespace PublicationRun

def publishing (r : PublicationRun) : System := run System.step {} r.before

def publish (r : PublicationRun) : SystemOp :=
  .publish r.generation r.publisher r.rollbackAuthority r.marker r.resetCommits r.publishedAt

def failed (r : PublicationRun) : System := r.publishing.step r.publish

def final (r : PublicationRun) : System := run System.step r.failed r.after

/-- The call raised because a compensator failed. -/
def compensatorFailed (r : PublicationRun) : Bool :=
  match r.publishing.apply r.publish with
  | .ok (_, .publication (.raised rollbackFailed)) => rollbackFailed
  | _ => false

/-- The reset commits, and nobody accepts the generation again. -/
abbrev StaysRefused (r : PublicationRun) : Prop :=
  r.resetCommits = true ∧ Guarded System.step
      (System.Permitted (fun _ s op => op.reaccepts r.generation s = false))
      r.failed r.after

theorem failed_neverPublished (r : PublicationRun)
    (hfailed : r.compensatorFailed = true) (hreset : r.resetCommits = true) :
    NeverPublished r.generation r.publishing.store.publishedGeneration r.failed.store := by
  unfold compensatorFailed at hfailed
  split at hfailed
  · rename_i sys rollbackFailed happly
    subst hfailed
    rcases map_eq_ok.mp happly with ⟨⟨s', result⟩, hpublish, heq⟩
    simp only [Prod.mk.injEq, OpResult.publication.injEq] at heq
    rcases heq with ⟨hsys, hresult⟩
    have hstore : r.failed.store = s' := by
      unfold failed System.step
      rw [happly, ← hsys]
    have hstep := Store.publishSnapshotGeneration_step hpublish
    rw [hresult] at hstep
    rw [hstore]
    cases hstep with
    | compensated _ _ _ hunreset =>
      rw [hunreset rfl] at hreset
      cases hreset
    | reset hcurrent hnewer =>
      exact NeverPublished.of_failure (System.coherent_run r.before)
        (publicationsBounded_run r.before) hcurrent hnewer _
  · cases hfailed

end PublicationRun

/--
After a failed compensator no managed job is ever claimable under the failed
generation, and whatever is published later is strictly newer.
-/
theorem failed_generation_unpublished (r : PublicationRun)
    (hfailed : r.compensatorFailed = true) (hrefused : r.StaysRefused) :
    r.final.store.isPublished r.generation = false ∧
      (r.final.store.publishedGeneration = r.publishing.store.publishedGeneration ∨
        r.generation < r.final.store.publishedGeneration) ∧
      forall filter now row, row.workflowManaged = true ->
        r.final.store.claimCandidate filter now row = true ->
          r.final.store.counters.published ≠ some r.generation := by
  have hcoherent : Coherent r.failed.checkpoints r.failed.store := by
    have hrun := System.coherent_run (r.before ++ [r.publish])
    rw [run_snoc] at hrun
    exact hrun
  have hdead := NeverPublished.run hcoherent
    (r.failed_neverPublished hfailed hrefused.left) hrefused.right
  refine ⟨hdead.unmarked, hdead.newer, ?_⟩
  intro _ _ _ _ _ hpublished
  apply hdead.unpublished
  unfold PublicationRun.final at hpublished
  rw [Store.publishedGeneration, hpublished]
  rfl

/-!
# A failed generation that is accepted again

The publisher's rollback fails, and a scan failure of the same capture accepts
and publishes the generation with its jobs still staged.
-/

def failedPublication (after : List SystemOp) : PublicationRun where
  before := publishedClaim.take 5
  generation := 1
  publisher := .returned { rollbackFails := true }
  rollbackAuthority := none
  marker := .failed
  resetCommits := true
  publishedAt := 2
  after := after

theorem failedPublication_replaced : (failedPublication [.op .allocateSnapshotGeneration,
      .op (.acceptSnapshotGeneration 2)]).final.store.isPublished 1 = false :=
  (failed_generation_unpublished
    (failedPublication [.op .allocateSnapshotGeneration, .op (.acceptSnapshotGeneration 2)])
    (by decide) (by decide)).left

def reacceptedPublication : PublicationRun :=
  failedPublication [.op (.acceptSnapshotGeneration 1),
    .publish 1 (.returned {}) none .committed true 3]

theorem reacceptedPublication_claimable : reacceptedPublication.compensatorFailed = true ∧
      reacceptedPublication.final.store.counters.published = some 1 ∧
      (reacceptedPublication.final.store.jobs.find? "job-1").any (fun row =>
        row.workflowManaged &&
          reacceptedPublication.final.store.claimCandidate {} 4 row) = true := by
  decide

end WorkflowJobs
end Oompah
