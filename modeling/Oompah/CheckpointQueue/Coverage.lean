import Oompah.CheckpointQueue.Queue
import Mathlib.Tactic.Linarith

/-!
# Coverage of scheduled mutations

As long as `flush_fn` returns, every scheduled mutation is published, taken by
the call of `flush_fn` that is running, or still pending behind a timer or a
waiting flush.  A call that raises has already cleared what it took.
-/

namespace Oompah
namespace Checkpointing

open Foundation

namespace CheckpointQueue

/-!
# Coverage
-/

/-- A timer of the window is armed, or a flush it or a caller started waits. -/
def Armed (q : CheckpointQueue) : Prop :=
  (exists timer reason, (timer, reason) ∈ q.armed ∧
    (q.debounceTimer = some timer ∨ q.maxDelayTimer = some timer)) ∨
    q.waiting ≠ []

/-- How a scheduled mutation is still on its way to the state branch. -/
inductive Covered (q : CheckpointQueue) (mutation : Nat) : Prop where
  | published (h : mutation < q.published)
  | running (run : FlushRun) (hrun : q.running = some run) (h : mutation < run.started)
  | pending (h : q.scheduled < mutation + 1 + q.pending) (harmed : q.Armed)

structure Accounted (q : CheckpointQueue) : Prop where
  covered : forall mutation, mutation < q.scheduled -> q.Covered mutation
  /-- A flush that gets the serial lock while something is unpublished calls
  `flush_fn`. -/
  flushes : forall index, index < q.waiting.length -> q.running = none ->
    q.published < q.scheduled -> (q.acquire index).running.isSome = true

/-!
# The invariant of runs without failures
-/

/-- Every mutation is published, taken by the running call, or pending. -/
structure Balanced (q : CheckpointQueue) : Prop where
  unretired : q.retired = false
  idle : q.running = none -> q.published + q.pending = q.scheduled
  busy : forall run, q.running = some run -> q.published + run.count = run.started ∧
      run.started + q.pending = q.scheduled ∧ 0 < run.count
  armed : 0 < q.pending -> q.Armed

theorem Balanced.empty : Balanced {} where
  unretired := rfl
  idle := fun _ => rfl
  busy := by
    intro run hrun
    cases hrun
  armed := by
    intro hpending
    cases hpending

variable {q : CheckpointQueue}

theorem Balanced.accounted (h : q.Balanced) : q.Accounted where
  covered := by
    intro mutation hscheduled
    by_cases hpublished : mutation < q.published
    · exact Covered.published hpublished
    · cases hrun : q.running with
      | none =>
        have hsum := h.idle hrun
        apply Covered.pending
        · omega
        · exact h.armed (by omega)
      | some run =>
        have hsum := h.busy run hrun
        by_cases hstarted : mutation < run.started
        · exact Covered.running run hrun hstarted
        · apply Covered.pending
          · omega
          · exact h.armed (by omega)
  flushes := by
    intro index hindex hidle hunpublished
    have hsum := h.idle hidle
    have hpending : ¬ (q.retired = true ∨ q.pending = 0) := by
      simp only [h.unretired, Bool.false_eq_true, false_or]
      omega
    simp [acquire, hidle, List.getElem?_eq_getElem hindex, hpending]

/-!
# Preservation
-/

/-- What `schedule` does to the counters and to the lock holder. -/
structure Counts (q q' : CheckpointQueue) : Prop where
  retired : q'.retired = q.retired
  pending : q'.pending = q.pending + 1
  scheduled : q'.scheduled = q.scheduled + 1
  published : q'.published = q.published
  running : q'.running = q.running

theorem schedule_counts (h : q.retired = false) (now : Int) : Counts q (q.schedule now) := by
  unfold CheckpointQueue.schedule
  simp only [h, Bool.false_eq_true, if_false]
  split
  · constructor <;> first | rfl | exact h.symm
  · constructor <;> first | rfl | exact h.symm

theorem schedule_armed (h : q.retired = false) (now : Int) : (q.schedule now).Armed := by
  unfold CheckpointQueue.schedule
  simp only [h, Bool.false_eq_true, if_false]
  refine .inl ⟨_, "debounce", ?_, Or.inl rfl⟩
  exact List.mem_cons_self

theorem Balanced.schedule (h : q.Balanced) (now : Int) : (q.schedule now).Balanced := by
  have hcounts := schedule_counts h.unretired now
  constructor
  · rw [hcounts.retired]
    exact h.unretired
  · intro hidle
    rw [hcounts.running] at hidle
    have hsum := h.idle hidle
    rw [hcounts.published, hcounts.pending, hcounts.scheduled]
    omega
  · intro run hrun
    rw [hcounts.running] at hrun
    have hsum := h.busy run hrun
    rw [hcounts.published, hcounts.pending, hcounts.scheduled]
    omega
  · intro _
    exact schedule_armed h.unretired now

/-- A flush that waits keeps whatever is pending on its way. -/
theorem Balanced.enter (h : q.Balanced) (call : FlushCall) : (q.enter call).Balanced where
  unretired := h.unretired
  idle := h.idle
  busy := h.busy
  armed := by
    intro _
    refine .inr ?_
    simp [CheckpointQueue.enter]

theorem Balanced.fire (h : q.Balanced) (timer : Nat) : (q.fire timer).Balanced := by
  unfold CheckpointQueue.fire
  split
  · constructor
    · exact h.unretired
    · exact h.idle
    · exact h.busy
    · intro _
      refine .inr ?_
      simp [CheckpointQueue.enter]
  · exact h

/-- A flush that finds nothing pending returns; any other takes the window. -/
theorem Balanced.acquire (h : q.Balanced) (index : Nat) : (q.acquire index).Balanced := by
  unfold CheckpointQueue.acquire
  split
  · rename_i call hidle hcall
    have hsum := h.idle hidle
    split
    · rename_i hnothing
      have hzero : q.pending = 0 := by
        rcases hnothing with hretired | hzero
        · rw [h.unretired] at hretired
          cases hretired
        · exact hzero
      constructor
      · exact h.unretired
      · exact h.idle
      · exact h.busy
      · intro hpending
        exact absurd hpending (by simp [hzero])
    · rename_i hsomething
      have hpositive : 0 < q.pending := by
        omega
      constructor
      · exact h.unretired
      · intro hrunning
        cases hrunning
      · intro run hrun
        cases hrun
        exact ⟨hsum, rfl, hpositive⟩
      · intro hpending
        cases hpending
  · exact h

theorem Balanced.finish (h : q.Balanced) (now : Int) : (q.finish true now).Balanced := by
  unfold CheckpointQueue.finish
  split
  · rename_i run hrun
    have hsum := h.busy run hrun
    constructor
    · exact h.unretired
    · intro _
      exact hsum.right.left
    · intro other hother
      cases hother
    · exact h.armed
  · exact h

/-!
# Failures
-/

/-- The running call of `flush_fn` raises. -/
def fails (q : CheckpointQueue) : QueueStep -> Bool
  | .finish false _ => q.running.isSome
  | _ => false

theorem Balanced.step {a : QueueStep} (h : q.Balanced)
    (hretire : a ≠ .retire) (hfails : q.fails a = false) :
    (q.step a).Balanced := by
  cases a with
  | schedule now => exact h.schedule now
  | flush reason => exact h.enter _
  | fire timer => exact h.fire timer
  | acquire index => exact h.acquire index
  | retire => exact absurd rfl hretire
  | finish returned now =>
    cases returned with
    | true => exact h.finish now
    | false =>
      have hidle : q.running = none := by simpa [fails] using hfails
      simp only [CheckpointQueue.step, CheckpointQueue.finish, hidle]
      exact h

/-- The first mutation a failing call took is lost. -/
theorem Balanced.unaccounted {a : QueueStep} (h : q.Balanced) (hfails : q.fails a = true) :
    ¬ (q.step a).Accounted := by
  intro haccounted
  cases a with
  | finish returned now =>
    cases returned with
    | true => cases hfails
    | false =>
      rcases Option.isSome_iff_exists.mp hfails with ⟨run, hrun⟩
      have hsum := h.busy run hrun
      have hstep : q.step (.finish false now) =
          { q with running := none, pushFailures := q.pushFailures + 1 } := by
        simp [CheckpointQueue.step, CheckpointQueue.finish, hrun]
      rw [hstep] at haccounted
      have hscheduled : q.published < q.scheduled := by omega
      cases haccounted.covered q.published hscheduled with
      | published hpublished => exact Nat.lt_irrefl _ hpublished
      | running other hother => cases hother
      | pending hpending =>
        simp only at hpending
        omega
  | _ => cases hfails

/-!
# Runs
-/

theorem balanced_guarded_iff {steps : List QueueStep} (hretire : QueueStep.retire ∉ steps)
    (h : q.Balanced) :
    Guarded step (fun q a => (q.step a).Accounted) q steps <->
      Guarded step (fun q a => q.fails a = false) q steps := by
  induction steps generalizing q with
  | nil => exact Iff.rfl
  | cons a rest ih =>
    have hrest : QueueStep.retire ∉ rest :=
      fun hmem => hretire (List.mem_cons_of_mem a hmem)
    have hne : a ≠ .retire := fun heq => hretire (heq ▸ List.mem_cons_self)
    constructor
    · intro haccounted
      have hfails : q.fails a = false := by
        by_contra hfails
        exact h.unaccounted (by simpa using hfails) haccounted.left
      constructor
      · exact hfails
      · exact (ih hrest (h.step hne hfails)).mp haccounted.right
    · intro hguarded
      have hnext := h.step hne hguarded.left
      constructor
      · exact hnext.accounted
      · exact (ih hrest hnext).mpr hguarded.right

/--
In every run without `retire`, every mutation stays accounted for after every
step exactly when no call of `flush_fn` raises.
-/
theorem accounted_run_iff (steps : List QueueStep) (hretire : QueueStep.retire ∉ steps) :
    Guarded step (fun q a => (q.step a).Accounted) {} steps <->
      Guarded step (fun q a => q.fails a = false) {} steps :=
  balanced_guarded_iff hretire Balanced.empty

def publishedWindow : List QueueStep :=
  [.schedule 0, .schedule 1, .fire 2, .acquire 0, .schedule 2, .finish true 3]

theorem publishedWindow_accounted :
    Guarded step (fun q a => (q.step a).Accounted) {} publishedWindow <->
      Guarded step (fun q a => q.fails a = false) {} publishedWindow :=
  accounted_run_iff publishedWindow (by decide)

/-!
# A flush that fails

The only mutation is taken by a flush whose commit raises.  Nothing is pending
and no timer is armed afterwards, so the shutdown finds nothing to publish.
-/

def failedFlush : List QueueStep :=
  [.schedule 0, .flush "terminal_status", .acquire 0, .finish false 1]

theorem failedFlush_unaccounted :
    (run step {} failedFlush).scheduled = 1 ∧ (run step {} failedFlush).published = 0 ∧
      (run step {} failedFlush).pending = 0 ∧
      (run step {} failedFlush).armed = [] ∧
      (run step {} (failedFlush ++ [.flush "shutdown", .acquire 0])).running = none ∧
      ¬ Guarded step (fun q a => (q.step a).Accounted) {} failedFlush := by
  refine ⟨rfl, rfl, rfl, rfl, rfl, ?_⟩
  intro haccounted
  have hguarded := (balanced_guarded_iff (by decide) Balanced.empty).mp haccounted
  have hreturns := hguarded.right.right.right.left
  revert hreturns
  decide

end CheckpointQueue
end Checkpointing
end Oompah
