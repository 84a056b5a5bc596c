import Mathlib.Data.List.Basic

/-!
# Runs of a step function

A system is a state type, an action type and a step function.  A run folds the
step function over a list of actions.  Invariants are proved of one step and
transported to runs here, with and without a guard on the steps taken.
-/

namespace Oompah
namespace Foundation

/-!
# Runs
-/

def run {State Action : Type _} (step : State -> Action -> State) : State -> List Action -> State
  | s, [] => s
  | s, a :: rest => run step (step s a) rest

section Run

variable {State Action : Type _} {step : State -> Action -> State}

@[simp] theorem run_nil (s : State) : run step s [] = s := rfl

@[simp] theorem run_cons (s : State) (a : Action) (rest : List Action) :
    run step s (a :: rest) = run step (step s a) rest := rfl

theorem run_append (s : State) (first second : List Action) :
    run step s (first ++ second) = run step (run step s first) second := by
  induction first generalizing s with
  | nil => rfl
  | cons a rest ih => exact ih (step s a)

theorem run_snoc (s : State) (acts : List Action) (a : Action) :
    run step s (acts ++ [a]) = step (run step s acts) a := by
  rw [run_append, run_cons, run_nil]

/-!
# Invariants of runs

`Guarded` says that every action of a run satisfies a condition on the
state it is taken in.
-/

def Guarded (step : State -> Action -> State) (guard : State -> Action -> Prop) :
    State -> List Action -> Prop
  | _, [] => True
  | s, a :: rest => guard s a ∧ Guarded step guard (step s a) rest

instance decidableGuarded (guard : State -> Action -> Prop) [forall s a, Decidable (guard s a)] :
    forall (s : State) (acts : List Action), Decidable (Guarded step guard s acts)
  | _, [] => isTrue trivial
  | s, a :: rest =>
    have : Decidable (Guarded step guard (step s a) rest) :=
      decidableGuarded guard (step s a) rest
    inferInstanceAs (Decidable (guard s a ∧ Guarded step guard (step s a) rest))

variable {guard : State -> Action -> Prop}

theorem guarded_of_forall (h : forall s a, guard s a) (s : State) (acts : List Action) :
    Guarded step guard s acts := by
  induction acts generalizing s with
  | nil => trivial
  | cons a rest ih => exact ⟨h s a, ih (step s a)⟩

variable {guard guard' : State -> Action -> Prop}

theorem guarded_congr (h : forall s a, guard s a <-> guard' s a) (s : State) (acts : List Action) :
    Guarded step guard s acts <-> Guarded step guard' s acts := by
  induction acts generalizing s with
  | nil => rfl
  | cons a rest ih => exact and_congr (h s a) (ih (step s a))

theorem guarded_and (s : State) (acts : List Action) :
    Guarded step (fun s a => guard s a ∧ guard' s a) s acts <->
      Guarded step guard s acts ∧ Guarded step guard' s acts := by
  induction acts generalizing s with
  | nil => simp [Guarded]
  | cons a rest ih =>
    simp only [Guarded, ih]
    exact and_and_and_comm

theorem guarded_append (s : State) (first second : List Action) :
    Guarded step guard s (first ++ second) <-> Guarded step guard s first ∧
        Guarded step guard (run step s first) second := by
  induction first generalizing s with
  | nil => simp [Guarded]
  | cons a rest ih => simp [Guarded, ih, and_assoc]

variable {I : State -> Prop} {s : State}

theorem invariant_run (hstep : forall s a, I s -> I (step s a)) (hs : I s) (acts : List Action) :
    I (run step s acts) := by
  induction acts generalizing s with
  | nil => exact hs
  | cons a rest ih => exact ih (hstep s a hs)

variable {acts : List Action}

theorem guarded_invariant_run (hstep : forall s a, I s -> guard s a -> I (step s a)) (hs : I s)
    (hguard : Guarded step guard s acts) :
    I (run step s acts) := by
  induction acts generalizing s with
  | nil => exact hs
  | cons a rest ih => exact ih (hstep s a hs hguard.left) hguard.right

/-- What a guard gives in the states of an invariant holds along guarded runs. -/
theorem guarded_invariant_imp {guard goal : State -> Action -> Prop}
    (hstep : forall s a, I s -> guard s a -> I (step s a))
    (hgoal : forall s a, I s -> guard s a -> goal s a) (hs : I s)
    (hguard : Guarded step guard s acts) : Guarded step goal s acts := by
  induction acts generalizing s with
  | nil => trivial
  | cons a rest ih =>
    exact ⟨hgoal s a hs hguard.left, ih (hstep s a hs hguard.left) hguard.right⟩

end Run
end Foundation
end Oompah
