import Oompah.Foundation.Program

/-!
# Executions that stop

A handler answers the requests of a program from a world that it changes.  A
program can stop after any number of answers; `Visits` says what holds of every
world it can stop in.
-/

namespace Oompah
namespace Foundation
namespace Program

section Execution

variable {World Request : Type} {Answer : Request -> Type} {ε α β : Type}

/-- The result of a program and the world it leaves. -/
def execute (handle : World -> (r : Request) -> Except ε (Answer r) × World) :
    Program Request Answer ε α -> World -> Except ε α × World
  | done value, w => (.ok value, w)
  | raise error, w => (.error error, w)
  | request r resume, w => (resume (handle w r).1).execute handle (handle w r).2

/-- The world a program leaves when it stops after `n` answers. -/
def stopped (handle : World -> (r : Request) -> Except ε (Answer r) × World) :
    Nat -> Program Request Answer ε α -> World -> World
  | 0, _, w => w
  | _ + 1, done _, w => w
  | _ + 1, raise _, w => w
  | n + 1, request r resume, w =>
    (resume (handle w r).1).stopped handle n (handle w r).2

def Visits (handle : World -> (r : Request) -> Except ε (Answer r) × World)
    (I : World -> Prop) : Program Request Answer ε α -> World -> Prop
  | done _, w => I w
  | raise _, w => I w
  | request r resume, w =>
    I w ∧ (resume (handle w r).1).Visits handle I (handle w r).2

variable {handle : World -> (r : Request) -> Except ε (Answer r) × World}
variable {I : World -> Prop} {program : Program Request Answer ε α} {w : World}

theorem execute_perform (r : Request) (w : World) :
    (perform r : Program Request Answer ε (Answer r)).execute handle w = handle w r := by
  unfold perform execute
  rcases h : handle w r with ⟨answer, after⟩
  cases answer <;> rfl

variable {f : α -> Program Request Answer ε β}

theorem execute_bind (w : World) : (program >>= f).execute handle w =
      match program.execute handle w with
      | (.ok value, after) => (f value).execute handle after
      | (.error error, after) => (.error error, after) := by
  change (program.bind f).execute handle w = _
  induction program generalizing w with
  | done value => rfl
  | raise error => rfl
  | request r resume ih => exact ih (handle w r).1 (handle w r).2

variable {value : α} {after : World}

theorem execute_bind_ok (h : program.execute handle w = (.ok value, after)) :
    (program >>= f).execute handle w = (f value).execute handle after := by
  rw [execute_bind, h]

variable {error : ε}

theorem execute_bind_error (h : program.execute handle w = (.error error, after)) :
    (program >>= f).execute handle w = (.error error, after) := by
  rw [execute_bind, h]

variable {handler : ε -> Program Request Answer ε α}

theorem execute_tryCatch (w : World) : (program.tryCatch handler).execute handle w =
      match program.execute handle w with
      | (.ok value, after) => (.ok value, after)
      | (.error error, after) => (handler error).execute handle after := by
  induction program generalizing w with
  | done value => rfl
  | raise error => rfl
  | request r resume ih => exact ih (handle w r).1 (handle w r).2

theorem Visits.start (h : program.Visits handle I w) : I w := by
  cases program with
  | done value => exact h
  | raise error => exact h
  | request r resume => exact h.left

theorem Visits.finish (h : program.Visits handle I w) : I (program.execute handle w).2 := by
  induction program generalizing w with
  | done value => exact h
  | raise error => exact h
  | request r resume ih => exact ih _ h.right

theorem Visits.mono {J : World -> Prop} (h : program.Visits handle I w)
    (hsub : forall w, I w -> J w) : program.Visits handle J w := by
  induction program generalizing w with
  | done value => exact hsub w h
  | raise error => exact hsub w h
  | request r resume ih => exact ⟨hsub w h.left, ih _ h.right⟩

/-- Wherever a program stops, the world is one it visits. -/
theorem Visits.stopped (h : program.Visits handle I w) (n : Nat) :
    I (program.stopped handle n w) := by
  induction n generalizing program w with
  | zero => exact h.start
  | succ n ih =>
    cases program with
    | done value => exact h
    | raise error => exact h
    | request r resume => exact ih h.right

variable {r : Request}

theorem visits_perform (h : I w) (hafter : I (handle w r).2) :
    (perform r : Program Request Answer ε (Answer r)).Visits handle I w := by
  refine ⟨h, ?_⟩
  rcases hanswer : handle w r with ⟨answer, after⟩
  rw [hanswer] at hafter
  cases answer <;> exact hafter

theorem visits_bind (h : program.Visits handle I w)
    (hf : forall value after, program.execute handle w = (.ok value, after) ->
      (f value).Visits handle I after) :
    (program >>= f).Visits handle I w := by
  change (program.bind f).Visits handle I w
  induction program generalizing w with
  | done value => exact hf value w rfl
  | raise error => exact h
  | request r resume ih => exact ⟨h.left, ih _ h.right hf⟩

theorem visits_tryCatch (h : program.Visits handle I w)
    (hhandler : forall error after, program.execute handle w = (.error error, after) ->
      (handler error).Visits handle I after) :
    (program.tryCatch handler).Visits handle I w := by
  induction program generalizing w with
  | done value => exact h
  | raise error => exact hhandler error w rfl
  | request r resume ih => exact ⟨h.left, ih _ h.right hhandler⟩

/-!
# Outcomes of an execution

`Yields` gives the result of one execution, what holds of the world it leaves and
what holds wherever it stops.
-/

def Yields (handle : World -> (r : Request) -> Except ε (Answer r) × World)
    (I : World -> Prop) (program : Program Request Answer ε α) (w : World)
    (result : Except ε α) (post : World -> Prop) : Prop :=
  program.Visits handle I w ∧ exists after, program.execute handle w = (result, after) ∧ post after

variable {post post' : World -> Prop}

theorem yields_done (h : I w) (hpost : post w) :
    Yields handle I (done value : Program Request Answer ε α) w (.ok value) post :=
  ⟨h, w, rfl, hpost⟩

theorem yields_raise (h : I w) (hpost : post w) :
    Yields handle I (raise error : Program Request Answer ε α) w (.error error) post :=
  ⟨h, w, rfl, hpost⟩

theorem yields_perform (h : I w) (hafter : I (handle w r).2) (hpost : post (handle w r).2) :
    Yields handle I (perform r : Program Request Answer ε (Answer r)) w (handle w r).1 post :=
  ⟨visits_perform h hafter, (handle w r).2, execute_perform r w, hpost⟩

variable {result : Except ε α}

theorem Yields.invariant (h : Yields handle I program w result post) :
    Yields handle I program w result (fun after => post after ∧ I after) := by
  rcases h with ⟨hvisits, after, hrun, hafter⟩
  refine ⟨hvisits, after, hrun, hafter, ?_⟩
  have hfinish := hvisits.finish
  rw [hrun] at hfinish
  exact hfinish

theorem Yields.bind {result : Except ε β} (h : Yields handle I program w (.ok value) post)
    (hf : forall after, post after -> Yields handle I (f value) after result post') :
    Yields handle I (program >>= f) w result post' := by
  rcases h with ⟨hvisits, after, hrun, hafter⟩
  rcases hf after hafter with ⟨hrest, last, hlast, hpost⟩
  constructor
  · apply visits_bind hvisits
    intro other reached hother
    rw [hrun] at hother
    cases hother
    exact hrest
  · exact ⟨last, (execute_bind_ok hrun).trans hlast, hpost⟩

theorem Yields.bind_error (h : Yields handle I program w (.error error) post) :
    Yields handle I (program >>= f) w (.error error) post := by
  rcases h with ⟨hvisits, after, hrun, hafter⟩
  constructor
  · apply visits_bind hvisits
    intro other reached hother
    rw [hrun] at hother
    cases hother
  · exact ⟨after, execute_bind_error hrun, hafter⟩

theorem Yields.tryCatch_ok (h : Yields handle I program w (.ok value) post) :
    Yields handle I (program.tryCatch handler) w (.ok value) post := by
  rcases h with ⟨hvisits, after, hrun, hafter⟩
  constructor
  · apply visits_tryCatch hvisits
    intro error reached herror
    rw [hrun] at herror
    cases herror
  · refine ⟨after, ?_, hafter⟩
    rw [execute_tryCatch, hrun]

theorem Yields.tryCatch_error (h : Yields handle I program w (.error error) post)
    (hhandler : forall after, post after -> Yields handle I (handler error) after result post') :
    Yields handle I (program.tryCatch handler) w result post' := by
  rcases h with ⟨hvisits, after, hrun, hafter⟩
  rcases hhandler after hafter with ⟨hrest, last, hlast, hpost⟩
  constructor
  · apply visits_tryCatch hvisits
    intro other reached hother
    rw [hrun] at hother
    cases hother
    exact hrest
  · refine ⟨last, ?_, hpost⟩
    rw [execute_tryCatch, hrun]
    exact hlast

/-- `Yields` for an outcome that is known by a property only. -/
def Completes (handle : World -> (r : Request) -> Except ε (Answer r) × World)
    (I : World -> Prop) (program : Program Request Answer ε α) (w : World)
    (post : Except ε α -> World -> Prop) : Prop :=
  program.Visits handle I w ∧ post (program.execute handle w).1 (program.execute handle w).2

variable {outcome outcome' : Except ε α -> World -> Prop}

theorem Completes.mono (h : Completes handle I program w outcome)
    (hpost : forall result after, I after -> outcome result after -> outcome' result after) :
    Completes handle I program w outcome' :=
  ⟨h.left, hpost _ _ h.left.finish h.right⟩

theorem Yields.completes (h : Yields handle I program w result post) :
    Completes handle I program w (fun other after => other = result ∧ post after) := by
  rcases h with ⟨hvisits, after, hrun, hafter⟩
  constructor
  · exact hvisits
  · rw [hrun]
    exact ⟨rfl, hafter⟩

variable {last : Except ε β -> World -> Prop}

theorem Completes.bind (h : Completes handle I program w outcome)
    (hf : forall value after, I after -> outcome (.ok value) after ->
      Completes handle I (f value) after last)
    (herror : forall error after, I after -> outcome (.error error) after ->
      last (.error error) after) :
    Completes handle I (program >>= f) w last := by
  rcases h with ⟨hvisits, hpost⟩
  have hfinish := hvisits.finish
  rcases hrun : program.execute handle w with ⟨result, after⟩
  rw [hrun] at hpost hfinish
  cases result with
  | error error =>
    constructor
    · apply visits_bind hvisits
      intro value reached hvalue
      rw [hrun] at hvalue
      cases hvalue
    · rw [execute_bind_error hrun]
      exact herror error after hfinish hpost
  | ok value =>
    rcases hf value after hfinish hpost with ⟨hrest, hlast⟩
    constructor
    · apply visits_bind hvisits
      intro other reached hother
      rw [hrun] at hother
      cases hother
      exact hrest
    · rw [execute_bind_ok hrun]
      exact hlast

theorem Completes.tryCatch (h : Completes handle I program w outcome)
    (hhandler : forall error after, I after -> outcome (.error error) after ->
      Completes handle I (handler error) after outcome')
    (hok : forall value after, I after -> outcome (.ok value) after -> outcome' (.ok value) after) :
    Completes handle I (program.tryCatch handler) w outcome' := by
  rcases h with ⟨hvisits, hpost⟩
  have hfinish := hvisits.finish
  rcases hrun : program.execute handle w with ⟨result, after⟩
  rw [hrun] at hpost hfinish
  cases result with
  | ok value =>
    constructor
    · apply visits_tryCatch hvisits
      intro error reached herror
      rw [hrun] at herror
      cases herror
    · rw [execute_tryCatch, hrun]
      exact hok value after hfinish hpost
  | error error =>
    rcases hhandler error after hfinish hpost with ⟨hrest, hlast⟩
    constructor
    · apply visits_tryCatch hvisits
      intro other reached hother
      rw [hrun] at hother
      cases hother
      exact hrest
    · rw [execute_tryCatch, hrun]
      exact hlast

/-!
# What an execution ends with

`Meets` is the postcondition of one execution.
-/

def Meets (handle : World -> (r : Request) -> Except ε (Answer r) × World)
    (program : Program Request Answer ε α) (w : World)
    (post : Except ε α -> World -> Prop) : Prop :=
  post (program.execute handle w).1 (program.execute handle w).2

theorem meets_done (h : outcome (.ok value) w) :
    (done value : Program Request Answer ε α).Meets handle w outcome := h

theorem meets_raise (h : outcome (.error error) w) :
    (raise error : Program Request Answer ε α).Meets handle w outcome := h

theorem meets_perform {post : Except ε (Answer r) -> World -> Prop}
    (h : post (handle w r).1 (handle w r).2) :
    (perform r : Program Request Answer ε (Answer r)).Meets handle w post := by
  unfold Meets
  rw [execute_perform]
  exact h

theorem Meets.mono (h : program.Meets handle w outcome)
    (hpost : forall result after, outcome result after -> outcome' result after) :
    program.Meets handle w outcome' :=
  hpost _ _ h

theorem meets_bind (h : program.Meets handle w (fun result after =>
      match result with
      | .ok value => (f value).Meets handle after last
      | .error error => last (.error error) after)) :
    (program >>= f).Meets handle w last := by
  unfold Meets at h ⊢
  rcases hrun : program.execute handle w with ⟨result, after⟩
  rw [hrun] at h
  cases result with
  | ok value =>
    rw [execute_bind_ok hrun]
    exact h
  | error error =>
    rw [execute_bind_error hrun]
    exact h

theorem meets_tryCatch (h : program.Meets handle w (fun result after =>
      match result with
      | .ok value => outcome (.ok value) after
      | .error error => (handler error).Meets handle after outcome)) :
    (program.tryCatch handler).Meets handle w outcome := by
  unfold Meets at h ⊢
  rw [execute_tryCatch]
  rcases hrun : program.execute handle w with ⟨result, after⟩
  rw [hrun] at h
  cases result with
  | ok value => exact h
  | error error => exact h

/--
A program that follows a protocol runs within every relation between ghost states
and worlds that the handler keeps.
-/
theorem Follows.execute {σ : Type} {P : Protocol σ Request Answer ε} {R : σ -> World -> Prop}
    (hstep : forall s w r, R s w -> P.allowed s r ->
      exists s', P.next s r (handle w r).1 s' ∧ R s' (handle w r).2)
    {s : σ} {post : Except ε α -> σ -> Prop} (h : program.Follows P s post)
    (hrel : R s w) :
    program.Visits handle (fun w => exists s, R s w) w ∧
      exists s', post (program.execute handle w).1 s' ∧ R s' (program.execute handle w).2 := by
  induction program generalizing s w with
  | done value => exact ⟨⟨s, hrel⟩, s, h, hrel⟩
  | raise error => exact ⟨⟨s, hrel⟩, s, h, hrel⟩
  | request r resume ih =>
    rcases hstep s w r hrel h.left with ⟨s', hnext, hrel'⟩
    rcases ih _ (h.right _ s' hnext) hrel' with ⟨hvisits, hend⟩
    exact ⟨⟨⟨s, hrel⟩, hvisits⟩, hend⟩

/-!
# Failures

One request is answered with an error and the world it is made in stays.  A program
that handles no error ends there, as if it had stopped.
-/

def failing (handle : World -> (r : Request) -> Except ε (Answer r) × World)
    (error : ε) : Nat -> Program Request Answer ε α -> World -> Except ε α × World
  | _, done value, w => (.ok value, w)
  | _, raise raised, w => (.error raised, w)
  | 0, request _ resume, w => (resume (.error error)).execute handle w
  | n + 1, request r resume, w =>
    (resume (handle w r).1).failing handle error n (handle w r).2

/-- Every error that the program is answered with ends it. -/
def Propagates : Program Request Answer ε α -> Prop
  | done _ => True
  | raise _ => True
  | request _ resume =>
    (forall error, resume (.error error) = raise error) ∧
      forall value, (resume (.ok value)).Propagates

theorem propagates_perform (r : Request) :
    (perform r : Program Request Answer ε (Answer r)).Propagates :=
  ⟨fun _ => rfl, fun _ => trivial⟩

theorem Propagates.bind (h : program.Propagates) (hf : forall value, (f value).Propagates) :
    (program >>= f).Propagates := by
  change (program.bind f).Propagates
  induction program with
  | done value => exact hf value
  | raise error => trivial
  | request r resume ih =>
    constructor
    · intro error
      show (resume (.error error)).bind f = _
      rw [h.left error]
      rfl
    · intro value
      exact ih (.ok value) (h.right value)

theorem Propagates.failing (h : program.Propagates) (error : ε) (n : Nat) (w : World) :
    (program.failing handle error n w).2 = program.stopped handle n w := by
  induction n generalizing program w with
  | zero =>
    cases program with
    | done value => rfl
    | raise raised => rfl
    | request r resume =>
      show ((resume (.error error)).execute handle w).2 = w
      rw [h.left error]
      rfl
  | succ n ih =>
    cases program with
    | done value => rfl
    | raise raised => rfl
    | request r resume =>
      show ((resume (handle w r).1).failing handle error n (handle w r).2).2 = _
      apply ih
      cases handled : (handle w r).1 with
      | ok value => exact h.right value
      | error raised =>
        rw [h.left raised]
        trivial

theorem exists_stopped_eq_execute (program : Program Request Answer ε α) (w : World) :
    exists n, forall m, n ≤ m -> program.stopped handle m w = (program.execute handle w).2 := by
  induction program generalizing w with
  | done value =>
    refine ⟨0, fun m _ => ?_⟩
    cases m <;> rfl
  | raise error =>
    refine ⟨0, fun m _ => ?_⟩
    cases m <;> rfl
  | request r resume ih =>
    rcases ih (handle w r).1 (handle w r).2 with ⟨n, hn⟩
    refine ⟨n + 1, fun m hm => ?_⟩
    cases m with
    | zero => omega
    | succ m => exact hn m (by omega)

theorem bind_bind {γ : Type} (program : Program Request Answer ε α)
    (f : α -> Program Request Answer ε β) (g : β -> Program Request Answer ε γ) :
    (program >>= f) >>= g = program >>= fun value => f value >>= g := by
  change (program.bind f).bind g = program.bind fun value => (f value).bind g
  induction program with
  | done value => rfl
  | raise error => rfl
  | request r resume ih =>
    show request r (fun answer => ((resume answer).bind f).bind g) = _
    simp only [ih]
    rfl

theorem stopped_perform_bind {f : Answer r -> Program Request Answer ε β}
    {value : Answer r} (h : handle w r = (.ok value, after)) (n : Nat) :
    (perform r >>= f).stopped handle (n + 1) w = (f value).stopped handle n after := by
  show ((perform r).bind f).stopped handle (n + 1) w = _
  simp only [perform, Program.bind, stopped, h]

end Execution
end Program
end Foundation
end Oompah
