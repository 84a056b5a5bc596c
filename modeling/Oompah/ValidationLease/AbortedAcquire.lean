import Oompah.ValidationLease.Acquire

/-!
# What an aborted acquisition leaves

A statement that raises before a slot was chosen is made up for: the locks are
closed and the waiter is withdrawn.  From the choice of the slot on its
descriptor is in nobody's cleanup, until the handle is returned.
-/

namespace Oompah
namespace ValidationLease

open Foundation Program

/-- The call has no lock left and no row in the queue. -/
def CallState.Clean (w : CallState) (token : String) : Prop :=
  w.locks = [] ∧ ¬ w.store.Queues token

/-- The chosen slot is locked and nothing closes it when the statement raises. -/
def Statement.loses : Statement -> Bool
  | .insertOwner => true
  | .deleteGrantedWaiter => true
  | .selectSequence => true
  | .updateSequence => true
  | .upsertTurn => true
  | .commitGrant => true
  | .openTombstone => true
  | .selectTombstone => true
  | _ => false

/-- The statements of the handler of `acquire`. -/
def Statement.withdraws : Statement -> Bool
  | .openCleanup => true
  | .deleteWaiter => true
  | .commitCleanup => true
  | _ => false

/-- The statement that raised, if one did, lost no slot, and it withdrew no
waiter that was still queued. -/
def CallState.Harmless (w : CallState) (token : String) : Prop :=
  forall statement rows, w.fault = some (statement, rows) ->
    statement.loses = false ∧ (statement.withdraws = true -> ¬ rows.Queues token)

/-- The cause of an error is the call itself, or a statement that raises without
consequence. -/
def MadeUpFor : Option Statement -> Prop
  | none => True
  | some statement => statement.loses = false ∧ statement.withdraws = false

/-- The cause of an error is a statement after the choice of a slot. -/
def Loses : Option Statement -> Prop
  | none => False
  | some statement => statement.loses = true

namespace CallState

variable {token : String} {env : Environment token} {w : CallState}

/-!
# One fault
-/

/-- The request that raises is past. -/
def Spent (env : Environment token) (w : CallState) : Prop :=
  exists n, env.raises = some n ∧ n < w.time

/-- A fault that happened was the one of the environment. -/
def Timely (env : Environment token) (w : CallState) : Prop :=
  w.fault.isSome = true -> Spent env w

theorem Spent.answer {α : Type} (h : Spent env w) (statement : Statement) (value : α)
    (after : CallState) : w.answer env statement value after = (.ok value, after.tick) := by
  obtain ⟨n, hraises, hpast⟩ := h
  unfold CallState.answer
  rw [if_neg]
  intro hnow
  rw [hraises, Option.some.injEq] at hnow
  omega

theorem timely_answer {α : Type} (h : Timely env w) (statement : Statement) (value : α)
    {after : CallState} (htime : after.time = w.time) (hfault : after.fault = w.fault) :
    Timely env (w.answer env statement value after).2 := by
  unfold CallState.answer
  split
  · case isTrue hraises =>
    intro _
    exact ⟨w.time, hraises, Nat.lt_succ_self _⟩
  · intro hsome
    obtain ⟨n, hraises, hpast⟩ := h (hfault ▸ hsome)
    exact ⟨n, hraises, by show n < after.time + 1; omega⟩

theorem Timely.later {after : CallState} (h : Timely env w) (htime : after.time = w.time + 1)
    (hfault : after.fault = w.fault) : Timely env after := by
  intro hsome
  obtain ⟨n, hraises, hpast⟩ := h (hfault ▸ hsome)
  exact ⟨n, hraises, by omega⟩

theorem timely_handle (h : Timely env w) (r : Request) : Timely env (handle env w r).2 := by
  cases r with
  | connect statement =>
    exact timely_answer (w := { w with store := env.others w.time w.store }) h statement () rfl rfl
  | begin statement => exact timely_answer h statement () rfl rfl
  | select statement => exact timely_answer h statement _ rfl rfl
  | write statement change => exact timely_answer h statement () rfl rfl
  | commit statement =>
    unfold handle
    split
    · exact h.later rfl rfl
    · exact timely_answer h statement () rfl rfl
  | _ => exact h.later rfl rfl

theorem timely_execute {α : Type} (program : Acquiring α) (h : Timely env w) :
    Timely env (program.execute (handle env) w).2 := by
  induction program generalizing w with
  | done value => exact h
  | raise error => exact h
  | request r resume ih => exact ih _ (timely_handle h r)

theorem answer_cases {α : Type} (env : Environment token) (w : CallState)
    (statement : Statement) (value : α) (after : CallState) :
    w.answer env statement value after = (.ok value, after.tick) ∨
      w.answer env statement value after =
        (.error .database, { w.tick with fault := some (statement, w.store) }) := by
  unfold CallState.answer
  split
  · exact .inr rfl
  · exact .inl rfl

/-!
# Statements of an open connection

`Calm` is what a part of a transaction does that neither commits nor touches a
lock: the rows it sees change, and it may raise at the statements it is allowed.
-/

structure Calm {α : Type} (allowed : Option Statement -> Prop) (post : α -> LeaseStore -> Prop)
    (w : CallState) (result : Except AcquireError α) (after : CallState) : Prop where
  store : after.store = w.store
  locks : after.locks = w.locks
  available : after.available = w.available
  ok : forall value, result = .ok value -> after.fault = none ∧ post value after.visible
  error : forall error, result = .error error -> exists cause, allowed cause ∧
    after.fault = cause.map (·, w.store)

section Calm

variable {α β : Type} {allowed : Option Statement -> Prop} {post : α -> LeaseStore -> Prop}

variable {statement : Statement}

theorem calm_answer {value : α} {after : CallState}
    (hallowed : allowed (some statement)) (hstore : after.store = w.store)
    (hlocks : after.locks = w.locks) (havailable : after.available = w.available)
    (hfault : after.fault = none) (hpost : post value after.visible) :
    Calm allowed post w (w.answer env statement value after).1
      (w.answer env statement value after).2 := by
  rcases answer_cases env w statement value after with hok | herror
  · rw [hok]
    refine ⟨hstore, hlocks, havailable, ?_, ?_⟩
    · rintro other ⟨⟩
      exact ⟨hfault, hpost⟩
    · rintro error ⟨⟩
  · rw [herror]
    refine ⟨rfl, rfl, rfl, ?_, ?_⟩
    · rintro other ⟨⟩
    · rintro error ⟨⟩
      exact ⟨some statement, hallowed, rfl⟩

theorem calm_select (hallowed : allowed (some statement)) (hfault : w.fault = none) :
    (select statement).Meets (handle env) w
      (Calm allowed (fun rows seen => rows = w.visible ∧ seen = w.visible) w) :=
  meets_perform (calm_answer hallowed rfl rfl rfl hfault ⟨rfl, rfl⟩)

theorem calm_write (change : LeaseStore -> LeaseStore)
    (hallowed : allowed (some statement)) (hfault : w.fault = none) :
    (write statement change).Meets (handle env) w
      (Calm allowed (fun _ seen => seen = change w.visible) w) :=
  meets_perform (calm_answer hallowed rfl rfl rfl hfault rfl)

theorem calm_write_last {post : Unit -> LeaseStore -> Prop}
    (change : LeaseStore -> LeaseStore) (hallowed : allowed (some statement))
    (hfault : w.fault = none) (hpost : post () (change w.visible)) :
    (write statement change).Meets (handle env) w (Calm allowed post w) :=
  meets_perform (calm_answer hallowed rfl rfl rfl hfault hpost)

theorem calm_begin (hallowed : allowed (some statement)) (hfault : w.fault = none) :
    (beginImmediate statement).Meets (handle env) w
      (Calm allowed (fun _ seen => seen = w.store) w) :=
  meets_perform (calm_answer hallowed rfl rfl rfl hfault rfl)

theorem calm_clock (hfault : w.fault = none) :
    clock.Meets (handle env) w (Calm allowed (fun _ seen => seen = w.visible) w) := by
  refine meets_perform ⟨rfl, rfl, rfl, ?_, ?_⟩
  · intro value _
    exact ⟨hfault, rfl⟩
  · rintro error ⟨⟩

theorem calm_liveness (hfault : w.fault = none) :
    liveness.Meets (handle env) w (Calm allowed (fun _ seen => seen = w.visible) w) := by
  refine meets_perform ⟨rfl, rfl, rfl, ?_, ?_⟩
  · intro value _
    exact ⟨hfault, rfl⟩
  · rintro error ⟨⟩

theorem calm_pure {value : α} (hfault : w.fault = none) (hpost : post value w.visible) :
    (pure value : Acquiring α).Meets (handle env) w (Calm allowed post w) := by
  refine meets_done ⟨rfl, rfl, rfl, ?_, ?_⟩
  · rintro other ⟨⟩
    exact ⟨hfault, hpost⟩
  · rintro error ⟨⟩

theorem calm_raise {error : AcquireError} (hallowed : allowed none) (hfault : w.fault = none) :
    (raise error : Acquiring α).Meets (handle env) w (Calm allowed post w) := by
  refine meets_raise ⟨rfl, rfl, rfl, ?_, ?_⟩
  · rintro other ⟨⟩
  · intro _ _
    exact ⟨none, hallowed, hfault⟩

theorem Calm.widen {allowed' : Option Statement -> Prop} {post' : α -> LeaseStore -> Prop}
    {result : Except AcquireError α} {after : CallState}
    (h : Calm allowed post w result after)
    (hallowed : forall cause, allowed cause -> allowed' cause)
    (hpost : forall value seen, post value seen -> post' value seen) :
    Calm allowed' post' w result after := by
  refine ⟨h.store, h.locks, h.available, ?_, ?_⟩
  · intro value hvalue
    exact ⟨(h.ok value hvalue).left, hpost _ _ (h.ok value hvalue).right⟩
  · intro error herror
    obtain ⟨cause, hcause, hfault⟩ := h.error error herror
    exact ⟨cause, hallowed cause hcause, hfault⟩

theorem calm_bind {program : Acquiring α} {f : α -> Acquiring β} {last : β -> LeaseStore -> Prop}
    (h : program.Meets (handle env) w (Calm allowed post w))
    (hf : forall value after, after.fault = none -> post value after.visible ->
      (f value).Meets (handle env) after (Calm allowed last after)) :
    (program >>= f).Meets (handle env) w (Calm allowed last w) := by
  apply meets_bind
  refine h.mono ?_
  intro result middle hmiddle
  cases result with
  | ok value =>
    obtain ⟨hfault, hpost⟩ := hmiddle.ok value rfl
    refine (hf value middle hfault hpost).mono ?_
    intro result after hafter
    refine ⟨hafter.store.trans hmiddle.store, hafter.locks.trans hmiddle.locks,
      hafter.available.trans hmiddle.available, hafter.ok, ?_⟩
    intro error herror
    rw [← hmiddle.store]
    exact hafter.error error herror
  | error error =>
    refine ⟨hmiddle.store, hmiddle.locks, hmiddle.available, ?_, ?_⟩
    · rintro value ⟨⟩
    · rintro other ⟨⟩
      exact hmiddle.error error rfl

theorem calm_forEach {rows : List α} {action : α -> Acquiring Unit}
    (keeps : LeaseStore -> Prop) (hfault : w.fault = none) (hkeeps : keeps w.visible)
    (haction : forall row after, after.fault = none -> keeps after.visible ->
      (action row).Meets (handle env) after (Calm allowed (fun _ => keeps) after)) :
    (forEach rows action).Meets (handle env) w (Calm allowed (fun _ => keeps) w) := by
  induction rows generalizing w with
  | nil => exact calm_pure hfault hkeeps
  | cons row rest ih =>
    exact calm_bind (haction row w hfault hkeeps) fun _ after hafter hkept => ih hafter hkept

end Calm

/-!
# Connections
-/

/-- The state in which the body of a connection starts. -/
def opened (env : Environment token) (w : CallState) : CallState :=
  { w.tick with store := env.others w.time w.store }

section Connection

variable {α : Type}

/-- The commit at the end of a connection does nothing when none is open. -/
theorem meets_withConnection {opening committing : Statement} {body : Acquiring α}
    {post : Except AcquireError α -> CallState -> Prop}
    (hopening : post (.error .database)
      { opened env w with fault := some (opening, env.others w.time w.store) })
    (hbody : body.Meets (handle env) (opened env w) (fun result middle =>
      match result with
      | .ok value =>
        (middle.working = none -> post (.ok value) middle.tick) ∧
          forall rows, middle.working = some rows ->
            post (.ok value) { middle.tick with store := rows, working := none } ∧
              post (.error .database)
                { middle.tick.tick with
                  working := none, fault := some (committing, middle.store) }
      | .error error => post (.error error) { middle.tick with working := none })) :
    (withConnection opening committing body).Meets (handle env) w post := by
  apply meets_bind
  apply meets_perform
  rcases answer_cases env { w with store := env.others w.time w.store } opening ()
    { w with store := env.others w.time w.store } with hanswer | hanswer
  · have hconnect : handle env w (Request.connect opening) = (.ok (), opened env w) := hanswer
    rw [hconnect]
    apply meets_tryCatch
    apply meets_bind
    refine hbody.mono ?_
    intro result middle hmiddle
    cases result with
    | error error =>
      apply meets_bind
      exact meets_perform hmiddle
    | ok value =>
      apply meets_bind
      apply meets_perform
      cases hworking : middle.working with
      | none =>
        have hcommit : handle env middle (Request.commit committing) =
            (.ok (), middle.tick) := by simp only [handle, hworking]
        rw [hcommit]
        exact hmiddle.left hworking
      | some rows =>
        obtain ⟨hok, herror⟩ := hmiddle.right rows hworking
        have hhandle : handle env middle (Request.commit committing) =
            middle.answer env committing () { middle with store := rows, working := none } := by
          simp only [handle, hworking]
          rfl
        rcases answer_cases env middle committing ()
          { middle with store := rows, working := none } with hcommit | hcommit
        · rw [hhandle, hcommit]
          exact hok
        · rw [hhandle, hcommit]
          apply meets_bind
          exact meets_perform herror
  · have hconnect : handle env w (Request.connect opening) = (.error .database,
          { opened env w with fault := some (opening, env.others w.time w.store) }) := hanswer
    rw [hconnect]
    exact hopening

/-- What a connection leaves whose body neither commits nor touches a lock. -/
structure Settled (token : String) (allowed : Option Statement -> Prop)
    (post : α -> LeaseStore -> Prop) (w : CallState) (result : Except AcquireError α)
    (after : CallState) : Prop where
  working : after.working = none
  locks : after.locks = w.locks
  available : after.available = w.available
  ok : forall value, result = .ok value -> after.fault = none ∧ post value after.store
  error : forall error, result = .error error ->
    (after.store.Queues token -> w.store.Queues token) ∧
      exists cause, allowed cause ∧ after.fault = cause.map (·, after.store)

theorem settled_withConnection {opening committing : Statement} {body : Acquiring α}
    (allowed : Option Statement -> Prop) (post : α -> LeaseStore -> Prop)
    (hopening : allowed (some opening)) (hcommitting : allowed (some committing))
    (hworking : w.working = none) (hfault : w.fault = none)
    (hbody : forall start : CallState, start.working = none -> start.fault = none ->
      (start.store.Queues token -> w.store.Queues token) ->
      body.Meets (handle env) start (Calm allowed post start)) :
    (withConnection opening committing body).Meets (handle env) w
      (Settled token allowed post w) := by
  have hqueues := env.others_queues w.time w.store
  apply meets_withConnection
  · refine ⟨hworking, rfl, rfl, ?_, ?_⟩
    · rintro value ⟨⟩
    · intro _ _
      exact ⟨hqueues, some opening, hopening, rfl⟩
  · refine (hbody (opened env w) hworking hfault hqueues).mono ?_
    intro result middle hmiddle
    cases result with
    | error error =>
      refine ⟨rfl, hmiddle.locks, hmiddle.available, ?_, ?_⟩
      · rintro value ⟨⟩
      · intro other _
        show (middle.store.Queues token -> _) ∧
          exists cause, allowed cause ∧ middle.fault = cause.map (·, middle.store)
        rw [hmiddle.store]
        exact ⟨hqueues, hmiddle.error error rfl⟩
    | ok value =>
      obtain ⟨hnone, hpost⟩ := hmiddle.ok value rfl
      constructor
      · intro hclosed
        refine ⟨hclosed, hmiddle.locks, hmiddle.available, ?_, ?_⟩
        · rintro other ⟨⟩
          rw [visible, hclosed] at hpost
          exact ⟨hnone, hpost⟩
        · rintro error ⟨⟩
      · intro rows hopen
        rw [visible, hopen] at hpost
        constructor
        · refine ⟨rfl, hmiddle.locks, hmiddle.available, ?_, ?_⟩
          · rintro other ⟨⟩
            exact ⟨hnone, hpost⟩
          · rintro error ⟨⟩
        · refine ⟨rfl, hmiddle.locks, hmiddle.available, ?_, ?_⟩
          · rintro other ⟨⟩
          · intro error _
            refine ⟨fun h => ?_, some committing, hcommitting, rfl⟩
            have hrows : middle.store.Queues token := h
            rw [hmiddle.store] at hrows
            exact hqueues hrows

end Connection

/-!
# The parts of the call
-/

theorem queues_deleteWaiter {s : LeaseStore} {other : String}
    (h : (s.deleteWaiter other).Queues token) : s.Queues token := by
  obtain ⟨row, hrow, htoken⟩ := h
  exact ⟨row, (List.mem_filter.mp hrow).left, htoken⟩

theorem not_queues_deleteWaiter (s : LeaseStore) (token : String) :
    ¬ (s.deleteWaiter token).Queues token := by
  rintro ⟨row, hrow, htoken⟩
  simpa [htoken] using (List.mem_filter.mp hrow).right

/-- A waiter is queued, or the call is refused and leaves nothing. -/
theorem queueWaiter_settled (owner : ValidationLeaseOwner) (requester : Process)
    (queuedAt : Int) (hworking : w.working = none) (hfault : w.fault = none) :
    (queueWaiter token owner requester queuedAt).Meets (handle env) w
      (Settled token MadeUpFor (fun _ _ => True) w) := by
  refine settled_withConnection _ _ ⟨rfl, rfl⟩ ⟨rfl, rfl⟩ hworking hfault ?_
  intro start _ hfault _
  apply calm_bind (calm_begin ⟨rfl, rfl⟩ hfault)
  intro _ begun hfault _
  apply calm_bind (calm_clock hfault)
  intro now timed hfault _
  apply calm_bind (calm_write _ ⟨rfl, rfl⟩ hfault)
  intro _ pruned hfault _
  apply calm_bind (calm_write _ ⟨rfl, rfl⟩ hfault)
  intro _ cut hfault _
  apply calm_bind (calm_select ⟨rfl, rfl⟩ hfault)
  intro tombstones read hfault _
  split
  · exact calm_raise trivial hfault
  · exact calm_write_last _ ⟨rfl, rfl⟩ hfault trivial

theorem terminateExpiredChildren_settled (hworking : w.working = none) (hfault : w.fault = none) :
    terminateExpiredChildren.Meets (handle env) w (Settled token MadeUpFor
        (fun _ seen => seen.Queues token -> w.store.Queues token) w) := by
  refine settled_withConnection _ _ ⟨rfl, rfl⟩ ⟨rfl, rfl⟩ hworking hfault ?_
  intro start hclosed hfault hqueues
  have hseen : start.visible = start.store := by rw [visible, hclosed]; rfl
  apply calm_bind (calm_select ⟨rfl, rfl⟩ hfault)
  intro rows read hfault hread
  apply calm_pure hfault
  intro h
  rw [hread.right, hseen] at h
  exact hqueues h

theorem select_settled {opening statement : Statement} (allowed : Option Statement -> Prop)
    (hopening : allowed (some opening)) (hstatement : allowed (some statement))
    (hworking : w.working = none) (hfault : w.fault = none) :
    (withConnection opening statement (select statement)).Meets (handle env) w
      (Settled token allowed (fun _ seen => seen.Queues token -> w.store.Queues token) w) := by
  refine settled_withConnection _ _ hopening hstatement hworking hfault ?_
  intro start hclosed hfault hqueues
  have hseen : start.visible = start.store := by rw [visible, hclosed]; rfl
  refine (calm_select hstatement hfault).mono ?_
  intro result after hafter
  refine hafter.widen (fun _ h => h) ?_
  intro rows seen hrows h
  rw [hrows.right, hseen] at h
  exact hqueues h

theorem reconcileLocked_calm (available : List Nat) (hfault : w.fault = none) :
    (reconcileLocked available).Meets (handle env) w (Calm MadeUpFor
        (fun _ seen => seen.Queues token -> w.visible.Queues token) w) := by
  unfold reconcileLocked
  apply calm_bind (calm_select ⟨rfl, rfl⟩ hfault)
  intro queued read hfault hread
  apply calm_bind (calm_liveness hfault)
  intro alive checked hfault hchecked
  apply calm_bind (calm_forEach
    (fun seen => seen.Queues token -> w.visible.Queues token) hfault ?_ ?_)
  · intro _ cleared hfault hcleared
    apply calm_bind (calm_select ⟨rfl, rfl⟩ hfault)
    intro owned listed hfault hlisted
    refine calm_forEach _ hfault ?_ ?_
    · rw [hlisted.right]
      exact hcleared
    · intro row after hfault hkept
      split
      · exact calm_write_last _ ⟨rfl, rfl⟩ hfault hkept
      · exact calm_pure hfault hkept
  · rw [hchecked, hread.right]
    exact id
  · intro row after hfault hkept
    split
    · exact calm_pure hfault hkept
    · exact calm_write_last _ ⟨rfl, rfl⟩ hfault fun h => hkept (queues_deleteWaiter h)

/-!
# The choice of a slot
-/

/-- What the transaction of `_try_acquire` leaves of the locks it was given. -/
inductive Granting (token : String) (available : List Nat) (w : CallState) :
    Except AcquireError (Option Nat) -> CallState -> Prop where
  | nothing {after : CallState} (hfault : after.fault = none)
      (hworking : after.working = none) (hlocks : after.locks = w.locks)
      (havailable : after.available = w.available) : Granting token available w (.ok none) after
  | slot {after : CallState} (slot : Nat) (hslot : slot ∈ available)
      (hfault : after.fault = none) (hworking : after.working = none)
      (hlocks : after.locks = w.locks)
      (havailable : after.available = w.available.filter (· ≠ slot))
      (hqueues : ¬ after.store.Queues token) : Granting token available w (.ok (some slot)) after
  | raised {after : CallState} (error : AcquireError) (hlocks : after.locks = w.locks)
      (havailable : after.available = w.available)
      (hfault : exists cause rows, MadeUpFor cause ∧ after.fault = cause.map (·, rows)) :
      Granting token available w (.error error) after
  | lost {after : CallState} (error : AcquireError) (slot : Nat) (hslot : slot ∈ available)
      (hlocks : after.locks = w.locks)
      (havailable : after.available = w.available.filter (· ≠ slot))
      (hfault : exists cause rows, Loses cause ∧ after.fault = cause.map (·, rows)) :
      Granting token available w (.error error) after

section Granting

variable {α β : Type} {available : List Nat}

/-- A part of a transaction before something that is not one. -/
theorem meets_bind_calm {program : Acquiring α} {f : α -> Acquiring β}
    {allowed : Option Statement -> Prop} {post : α -> LeaseStore -> Prop}
    {last : Except AcquireError β -> CallState -> Prop}
    (h : program.Meets (handle env) w (Calm allowed post w))
    (hf : forall value after, after.locks = w.locks -> after.available = w.available ->
      after.fault = none -> post value after.visible ->
      (f value).Meets (handle env) after last)
    (herror : forall error after, after.locks = w.locks -> after.available = w.available ->
      (exists cause rows, allowed cause ∧ after.fault = cause.map (·, rows)) ->
      last (.error error) after) :
    (program >>= f).Meets (handle env) w last := by
  apply meets_bind
  refine h.mono ?_
  intro result middle hmiddle
  cases result with
  | ok value =>
    obtain ⟨hfault, hpost⟩ := hmiddle.ok value rfl
    exact hf value middle hmiddle.locks hmiddle.available hfault hpost
  | error error =>
    refine herror error middle hmiddle.locks hmiddle.available ?_
    obtain ⟨cause, hallowed, hraised⟩ := hmiddle.error error rfl
    exact ⟨cause, w.store, hallowed, hraised⟩

theorem meets_commit {statement : Statement} {post : Except AcquireError Unit -> CallState -> Prop}
    (hok : post (.ok ()) { w.tick with store := w.visible, working := none })
    (herror : post (.error .database) { w.tick with fault := some (statement, w.store) }) :
    (commit statement).Meets (handle env) w post := by
  apply meets_perform
  cases hworking : w.working with
  | none =>
    have hcommit : handle env w (Request.commit statement) = (.ok (), w.tick) := by
      simp only [handle, hworking]
    have hsame : ({ w.tick with store := w.visible, working := none } : CallState) = w.tick := by
      unfold visible tick
      rw [hworking, Option.getD_none]
    rw [hcommit]
    exact hsame ▸ hok
  | some rows =>
    have hhandle : handle env w (Request.commit statement) =
        w.answer env statement () { w with store := rows, working := none } := by
      simp only [handle, hworking]
      rfl
    rw [visible, hworking, Option.getD_some] at hok
    rcases answer_cases env w statement ()
      { w with store := rows, working := none } with hcommit | hcommit
    · rw [hhandle, hcommit]
      exact hok
    · rw [hhandle, hcommit]
      exact herror

theorem abandon_granting (hfault : w.fault = none) :
    abandon.Meets (handle env) w (Granting token available w) := by
  apply meets_bind
  apply meets_perform
  exact meets_done (.nothing hfault rfl rfl rfl)

/-- What follows a part of the transaction is judged by the locks it started with. -/
theorem Granting.after {middle after : CallState} {result : Except AcquireError (Option Nat)}
    (h : Granting token available middle result after) (hlocks : middle.locks = w.locks)
    (havailable : middle.available = w.available) :
    Granting token available w result after := by
  cases h with
  | nothing hfault hworking hkept hrest =>
    exact .nothing hfault hworking (hkept.trans hlocks) (hrest.trans havailable)
  | slot slot hslot hfault hworking hkept hrest hqueues =>
    exact .slot slot hslot hfault hworking (hkept.trans hlocks) (havailable ▸ hrest) hqueues
  | raised error hkept hrest hfault =>
    exact .raised error (hkept.trans hlocks) (hrest.trans havailable) hfault
  | lost error slot hslot hkept hrest hfault =>
    exact .lost error slot hslot (hkept.trans hlocks) (havailable ▸ hrest) hfault

theorem granting_bind {program : Acquiring α} {f : α -> Acquiring (Option Nat)}
    {post : α -> LeaseStore -> Prop}
    (h : program.Meets (handle env) w (Calm MadeUpFor post w))
    (hf : forall value after, after.fault = none -> post value after.visible ->
      (f value).Meets (handle env) after (Granting token available after)) :
    (program >>= f).Meets (handle env) w (Granting token available w) := by
  refine meets_bind_calm h ?_ ?_
  · intro value after hlocks havailable hfault hpost
    exact (hf value after hfault hpost).mono fun _ _ hafter => hafter.after hlocks havailable
  · intro error after hlocks havailable hfault
    exact .raised error hlocks havailable hfault

theorem loses_of {statement : Statement} (h : statement.loses = true) : Loses (some statement) := h

theorem writeGrant_calm {waiter : WaiterRow} {slot : Nat} (htoken : waiter.token = token)
    (hfault : w.fault = none) :
    (writeGrant waiter slot).Meets (handle env) w
      (Calm Loses (fun _ seen => ¬ seen.Queues token) w) := by
  apply calm_bind (calm_clock hfault)
  intro now timed hfault _
  apply calm_bind (calm_write _ (loses_of rfl) hfault)
  intro _ inserted hfault _
  apply calm_bind (calm_write _ (loses_of rfl) hfault)
  intro _ deleted hfault hdeleted
  apply calm_bind (calm_select (loses_of rfl) hfault)
  intro counted read hfault hread
  apply calm_bind (calm_write _ (loses_of rfl) hfault)
  intro _ updated hfault hupdated
  refine calm_write_last _ (loses_of rfl) hfault ?_
  rw [hupdated, hread.right, hdeleted, htoken]
  exact not_queues_deleteWaiter _ token

/-- From the choice on a statement that raises leaves the slot locked, outside of
what is closed. -/
theorem grantSlot_granting {waiter : WaiterRow} {slot : Nat} (htoken : waiter.token = token)
    (hslot : slot ∈ available) (hfault : w.fault = none) :
    (grantSlot waiter slot).Meets (handle env) w (Granting token available w) := by
  apply meets_bind
  apply meets_perform
  let chosen : CallState := { w.tick with available := w.available.filter (· ≠ slot) }
  have hchosen : chosen.fault = none := hfault
  refine meets_bind_calm (w := chosen) (writeGrant_calm htoken hchosen) ?_ ?_
  · intro _ written hlocks havailable hfault hqueues
    apply meets_bind
    apply meets_commit
    · exact meets_done (.slot slot hslot hfault rfl hlocks havailable hqueues)
    · exact .lost _ slot hslot hlocks havailable ⟨some .commitGrant, written.store, rfl, rfl⟩
  · intro error after hlocks havailable hraised
    exact .lost error slot hslot hlocks havailable hraised

theorem selectAndGrant_granting {aging : Int} {waiter : WaiterRow}
    (htoken : waiter.token = token) (hfault : w.fault = none) :
    (selectAndGrant aging waiter available).Meets (handle env) w (Granting token available w) := by
  apply granting_bind (calm_select ⟨rfl, rfl⟩ hfault)
  intro queued read hfault _
  apply granting_bind (calm_clock hfault)
  intro now timed hfault _
  apply granting_bind (calm_select ⟨rfl, rfl⟩ hfault)
  intro turns listed hfault _
  dsimp only
  split
  · exact abandon_granting hfault
  · apply granting_bind (calm_select ⟨rfl, rfl⟩ hfault)
    intro owned last hfault _
    split
    · exact abandon_granting hfault
    · case h_2 slot hslot =>
      exact grantSlot_granting htoken (List.mem_of_find?_eq_some hslot) hfault

theorem grantTransaction_granting (aging : Int) (hfault : w.fault = none) :
    (grantTransaction aging token available).Meets (handle env) w (Granting token available w) := by
  apply granting_bind (calm_begin ⟨rfl, rfl⟩ hfault)
  intro _ begun hfault _
  apply granting_bind (reconcileLocked_calm available hfault)
  intro _ reconciled hfault _
  apply granting_bind (calm_select ⟨rfl, rfl⟩ hfault)
  intro own read hfault _
  split
  · exact abandon_granting hfault
  · case h_2 waiter hwaiter =>
    have htoken : waiter.token = token := by simpa using List.find?_some hwaiter
    apply granting_bind (calm_select ⟨rfl, rfl⟩ hfault)
    intro tombstones checked hfault _
    split
    · apply granting_bind (calm_write _ ⟨rfl, rfl⟩ hfault)
      intro _ deleted hfault _
      apply meets_bind
      apply meets_commit
      · exact meets_done (.nothing hfault rfl rfl rfl)
      · exact .raised _ rfl rfl ⟨some .commitCancelledWaiter, deleted.store, ⟨rfl, rfl⟩, rfl⟩
    · exact selectAndGrant_granting htoken hfault

end Granting

/-!
# One poll
-/

/-- Between two polls the call has nothing open. -/
structure Idle (w : CallState) : Prop where
  working : w.working = none
  fault : w.fault = none
  locks : w.locks = []

/-- The call has the lock of one slot and no row in the queue. -/
structure Holding (token : String) (slot : Nat) (w : CallState) : Prop where
  working : w.working = none
  fault : w.fault = none
  locked : slot ∈ w.locks
  only : forall other, other ∈ w.locks -> other = slot
  queues : ¬ w.store.Queues token

/-- How a part of the call raised: either it left no lock, or it lost a slot. -/
structure Raised (w : CallState) : Prop where
  working : w.working = none
  cause : exists cause rows, w.fault = cause.map (·, rows) ∧
    ((MadeUpFor cause ∧ w.locks = []) ∨ (Loses cause ∧ w.locks ≠ []))

section Poll

variable {available : List Nat}

theorem grantConnection_granting (aging : Int) (hworking : w.working = none)
    (hfault : w.fault = none) :
    (withConnection .openGrant .commitGrant
        (grantTransaction aging token available)).Meets (handle env) w
      (fun result after => Granting token available w result after ∧ after.working = none) := by
  apply meets_withConnection
  · exact ⟨.raised _ rfl rfl ⟨some .openGrant, _, ⟨rfl, rfl⟩, rfl⟩, hworking⟩
  · refine (grantTransaction_granting aging (w := opened env w) hfault).mono ?_
    intro result middle hmiddle
    cases hmiddle with
    | nothing hfault hclosed hlocks havailable =>
      refine ⟨fun _ => ⟨.nothing hfault hclosed hlocks havailable, hclosed⟩, ?_⟩
      intro rows hopen
      rw [hclosed] at hopen
      cases hopen
    | slot slot hslot hfault hclosed hlocks havailable hqueues =>
      refine ⟨fun _ =>
        ⟨.slot slot hslot hfault hclosed hlocks havailable hqueues, hclosed⟩, ?_⟩
      intro rows hopen
      rw [hclosed] at hopen
      cases hopen
    | raised error hlocks havailable hfault =>
      exact ⟨.raised error hlocks havailable hfault, rfl⟩
    | lost error slot hslot hlocks havailable hfault =>
      exact ⟨.lost error slot hslot hlocks havailable hfault, rfl⟩

theorem meets_closingSlots {α : Type} {body : Acquiring α}
    {post : Except AcquireError α -> CallState -> Prop}
    (h : body.Meets (handle env) w (fun result middle =>
      post result
        { middle.tick with
          locks := middle.locks.filter (· ∉ middle.available), available := [] })) :
    (closingSlots body).Meets (handle env) w post := by
  apply meets_bind
  apply meets_tryCatch
  refine h.mono ?_
  intro result middle hmiddle
  cases result with
  | ok value =>
    apply meets_bind
    exact meets_perform hmiddle
  | error error =>
    apply meets_bind
    exact meets_perform hmiddle

theorem filter_not_mem_self (slots : List Nat) : slots.filter (· ∉ slots) = [] := by
  rw [List.filter_eq_nil_iff]
  intro slot hslot
  simpa using hslot

theorem mem_filter_not_mem_ne {slots : List Nat} {slot other : Nat} :
    other ∈ slots.filter (· ∉ slots.filter (· ≠ slot)) ↔ other ∈ slots ∧ other = slot := by
  simp only [List.mem_filter, decide_eq_true_eq, not_and, not_not]
  constructor
  · rintro ⟨hmem, hsame⟩
    exact ⟨hmem, hsame hmem⟩
  · rintro ⟨hmem, hsame⟩
    exact ⟨hmem, fun _ => hsame⟩

theorem tryAcquire_meets (aging : Int) (hidle : w.Idle) :
    (tryAcquire aging token).Meets (handle env) w (fun result after =>
      match result with
      | .ok none => after.Idle
      | .ok (some slot) => after.Holding token slot
      | .error _ => after.Raised) := by
  apply meets_bind
  refine (terminateExpiredChildren_settled hidle.working hidle.fault).mono ?_
  intro result terminated hterminated
  cases result with
  | error error =>
    obtain ⟨_, cause, hcause, hraised⟩ := hterminated.error error rfl
    exact ⟨hterminated.working, cause, _, hraised,
      Or.inl ⟨hcause, hterminated.locks.trans hidle.locks⟩⟩
  | ok value =>
    obtain ⟨hfault, _⟩ := hterminated.ok value rfl
    apply meets_bind
    apply meets_perform
    have hfree : terminated.locks = [] := hterminated.locks.trans hidle.locks
    simp only [handle]
    generalize hslots : (List.range env.capacity).filter (fun slot =>
      env.lockable terminated.time slot && slot ∉ terminated.locks) = slots
    rw [hfree, List.nil_append]
    split
    · case isTrue hnone =>
      rw [List.isEmpty_iff.mp hnone]
      exact meets_done ⟨hterminated.working, hfault, rfl⟩
    · apply meets_closingSlots
      let locked : CallState := { terminated.tick with locks := slots, available := slots }
      refine (grantConnection_granting (w := locked) aging hterminated.working hfault).mono ?_
      rintro result middle ⟨hgranting, hclosed⟩
      cases hgranting with
      | nothing hnone _ hlocks havailable =>
        refine ⟨hclosed, hnone, ?_⟩
        show middle.locks.filter (· ∉ middle.available) = []
        rw [hlocks, havailable]
        exact filter_not_mem_self slots
      | slot slot hslot hnone _ hlocks havailable hqueues =>
        have hleft : forall other, other ∈ middle.locks.filter (· ∉ middle.available) ↔
              other ∈ slots ∧ other = slot := by
          intro other
          rw [hlocks, havailable]
          exact mem_filter_not_mem_ne
        exact ⟨hclosed, hnone, (hleft slot).mpr ⟨hslot, rfl⟩,
          fun other hother => ((hleft other).mp hother).right, hqueues⟩
      | raised error hlocks havailable hraised =>
        obtain ⟨cause, rows, hcause, hraised⟩ := hraised
        refine ⟨hclosed, cause, rows, hraised, Or.inl ⟨hcause, ?_⟩⟩
        show middle.locks.filter (· ∉ middle.available) = []
        rw [hlocks, havailable]
        exact filter_not_mem_self slots
      | lost error slot hslot hlocks havailable hraised =>
        obtain ⟨cause, rows, hcause, hraised⟩ := hraised
        refine ⟨hclosed, cause, rows, hraised, Or.inr ⟨hcause, ?_⟩⟩
        show middle.locks.filter (· ∉ middle.available) ≠ []
        rw [hlocks, havailable]
        exact List.ne_nil_of_mem (mem_filter_not_mem_ne.mpr ⟨hslot, rfl⟩)

/-- A handle is released without a lock, even when the database raises. -/
theorem release_meets {slot : Nat} (hholding : w.Holding token slot) :
    (release token slot).Meets (handle env) w (fun result after =>
      result = .ok () ∧ after.Raised ∧ after.locks = [] ∧ ¬ after.store.Queues token) := by
  apply meets_bind
  apply meets_perform
  apply meets_bind
  apply meets_perform
  have hclosed : w.locks.filter (· ≠ slot) = [] := by
    rw [List.filter_eq_nil_iff]
    intro other hother
    simpa using hholding.only other hother
  simp only [handle]
  generalize hslots : (List.range env.capacity).filter _ = slots
  rw [hclosed, List.nil_append]
  let probed : CallState := { w.tick.tick with locks := slots, available := slots }
  show (closingSlots _).Meets (handle env) probed _
  -- whatever the database answers, the probed locks are closed
  have hend : forall middle : CallState, middle.working = none ->
      middle.locks = slots -> middle.available = slots -> ¬ middle.store.Queues token ->
      (exists cause rows, MadeUpFor cause ∧ middle.fault = cause.map (·, rows)) ->
      CallState.Raised
          { middle.tick with
            locks := middle.locks.filter (· ∉ middle.available), available := [] } ∧
        middle.locks.filter (· ∉ middle.available) = [] ∧ ¬ middle.store.Queues token := by
    rintro middle hworking hlocks havailable hqueues ⟨cause, rows, hcause, hfault⟩
    have hnone : middle.locks.filter (· ∉ middle.available) = [] := by
      rw [hlocks, havailable]
      exact filter_not_mem_self slots
    exact ⟨⟨hworking, cause, rows, hfault, Or.inl ⟨hcause, hnone⟩⟩, hnone, hqueues⟩
  have hquiet : exists cause rows, MadeUpFor cause ∧
      w.fault = cause.map fun cause => (cause, (rows : LeaseStore)) :=
    ⟨none, w.store, trivial, hholding.fault⟩
  apply meets_closingSlots
  split
  · apply meets_tryCatch
    refine (settled_withConnection (w := probed) MadeUpFor
      (fun _ seen => seen.Queues token -> w.store.Queues token) ⟨rfl, rfl⟩ ⟨rfl, rfl⟩
      hholding.working hholding.fault ?_).mono ?_
    · intro start hclosed hfault hqueues
      refine calm_write_last _ ⟨rfl, rfl⟩ hfault ?_
      intro h
      rw [visible, hclosed] at h
      exact hqueues h
    · intro result middle hmiddle
      cases result with
      | ok value =>
        obtain ⟨hfault, hkept⟩ := hmiddle.ok value rfl
        exact ⟨rfl, hend middle hmiddle.working hmiddle.locks hmiddle.available
          (fun h => hholding.queues (hkept h)) ⟨none, w.store, trivial, hfault⟩⟩
      | error error =>
        obtain ⟨hkept, cause, hcause, hfault⟩ := hmiddle.error error rfl
        exact ⟨rfl, hend middle hmiddle.working hmiddle.locks hmiddle.available
          (fun h => hholding.queues (hkept h)) ⟨cause, _, hcause, hfault⟩⟩
  · exact meets_done ⟨rfl, hend probed hholding.working rfl rfl hholding.queues hquiet⟩

/-- The check after a grant is outside of every cleanup of the slot. -/
theorem recheck_meets {slot : Nat} (identity : Identity) (hholding : w.Holding token slot) :
    (recheck identity token slot).Meets (handle env) w (fun result after =>
      match result with
      | .ok _ => after.fault = none
      | .error _ => after.Raised) := by
  apply meets_bind
  refine (select_settled Loses (loses_of rfl) (loses_of rfl) hholding.working
    hholding.fault).mono ?_
  intro result checked hchecked
  cases result with
  | error error =>
    obtain ⟨_, cause, hcause, hfault⟩ := hchecked.error error rfl
    refine ⟨hchecked.working, cause, _, hfault, Or.inr ⟨hcause, ?_⟩⟩
    rw [hchecked.locks]
    exact List.ne_nil_of_mem hholding.locked
  | ok tombstones =>
    obtain ⟨hfault, hkept⟩ := hchecked.ok tombstones rfl
    have hstill : checked.Holding token slot :=
      ⟨hchecked.working, hfault, hchecked.locks ▸ hholding.locked,
        hchecked.locks ▸ hholding.only, fun h => hholding.queues (hkept h)⟩
    show Meets _ (if _ then _ else _) _ _
    split
    · apply meets_bind
      refine (release_meets hstill).mono ?_
      rintro result released ⟨rfl, hraised, _⟩
      exact meets_raise hraised
    · exact meets_done hfault

theorem poll_meets (aging : Int) (identity : Identity) (polls : Nat) (hidle : w.Idle) :
    (poll aging identity token polls).Meets (handle env) w (fun result after =>
      match result with
      | .ok _ => after.fault = none
      | .error _ => after.Raised) := by
  induction polls generalizing w with
  | zero => exact meets_done hidle.fault
  | succ polls ih =>
    have hgiveUp : forall later : CallState, later.Idle -> later.Raised := fun later h =>
      ⟨h.working, none, later.store, h.fault, Or.inl ⟨trivial, h.locks⟩⟩
    have hasked : w.tick.Idle := ⟨hidle.working, hidle.fault, hidle.locks⟩
    have hready : w.tick.tick.Idle := ⟨hidle.working, hidle.fault, hidle.locks⟩
    apply meets_bind
    apply meets_perform
    simp only [handle]
    split
    · exact meets_raise (hgiveUp _ hasked)
    · apply meets_bind
      apply meets_perform
      simp only [handle]
      split
      · exact meets_raise (hgiveUp _ hready)
      · apply meets_bind
        refine (tryAcquire_meets aging hready).mono ?_
        intro result tried htried
        match result, htried with
        | .error error, htried => exact htried
        | .ok (some slot), htried => exact recheck_meets identity htried
        | .ok none, htried =>
          apply meets_bind
          refine (select_settled MadeUpFor ⟨rfl, rfl⟩ ⟨rfl, rfl⟩ htried.working
            htried.fault).mono ?_
          intro result queued hqueued
          cases result with
          | error error =>
            obtain ⟨_, cause, hcause, hfault⟩ := hqueued.error error rfl
            exact ⟨hqueued.working, cause, _, hfault,
              Or.inl ⟨hcause, hqueued.locks.trans htried.locks⟩⟩
          | ok rows =>
            have hstill : queued.Idle := ⟨hqueued.working, (hqueued.ok rows rfl).left,
              hqueued.locks.trans htried.locks⟩
            show Meets _ (if _ then _ else _) _ _
            split
            · exact ih hstill
            · exact meets_raise (hgiveUp _ hstill)

end Poll

/-!
# The whole call
-/

/-- After its fault the environment answers all statements of the handler. -/
theorem withdraw_spent (error : AcquireError) (hspent : Spent env w) :
    (withdraw token error).Meets (handle env) w (fun result after =>
      result = .error error ∧ after.locks = w.locks ∧ after.fault = w.fault ∧
        ¬ after.store.Queues token) := by
  obtain ⟨n, hraises, hpast⟩ := hspent
  have hlater : forall (later : CallState), w.time ≤ later.time -> Spent env later :=
    fun later hle => ⟨n, hraises, by omega⟩
  let written : CallState :=
    { (opened env w).tick with working := some ((opened env w).visible.deleteWaiter token) }
  have hconnect : handle env w (Request.connect .openCleanup) = (.ok (), opened env w) :=
    Spent.answer (w := { w with store := env.others w.time w.store })
      (hlater _ (Nat.le_refl _)) _ _ _
  have hwrite : handle env (opened env w)
      (Request.write .deleteWaiter (·.deleteWaiter token)) = (.ok (), written) :=
    Spent.answer (hlater _ (Nat.le_succ _)) _ _ _
  have hcommit : handle env written (Request.commit .commitCleanup) =
      (.ok (), { written.tick with
        store := (opened env w).visible.deleteWaiter token, working := none }) :=
    Spent.answer (hlater _ (Nat.le_add_right _ 2)) _ _ _
  apply meets_bind
  apply meets_bind
  apply meets_perform
  rw [hconnect]
  apply meets_tryCatch
  apply meets_bind
  apply meets_perform
  rw [hwrite]
  apply meets_bind
  apply meets_perform
  rw [hcommit]
  exact And.intro rfl (And.intro rfl (And.intro rfl (not_queues_deleteWaiter _ token)))

/-- A call is judged by its fault. -/
def Judged (token : String) (result : Except AcquireError (Option Nat))
    (after : CallState) : Prop :=
  (forall error, result = .error error -> after.Clean token) <-> after.Harmless token

theorem judged_of_clean {result : Except AcquireError (Option Nat)} {after : CallState}
    (hclean : forall error, result = .error error -> after.Clean token)
    (hharmless : after.Harmless token) : Judged token result after :=
  ⟨fun _ => hharmless, fun _ => hclean⟩

theorem harmless_of_madeUpFor {cause : Option Statement} {rows : LeaseStore}
    (hcause : MadeUpFor cause) (hfault : w.fault = cause.map (·, rows)) :
    w.Harmless token := by
  intro statement other hsome
  cases cause with
  | none =>
    rw [hfault] at hsome
    cases hsome
  | some raised =>
    rw [hfault] at hsome
    cases hsome
    refine ⟨hcause.left, fun hwithdraws => ?_⟩
    rw [hcause.right] at hwithdraws
    cases hwithdraws

theorem harmless_of_no_fault (hfault : w.fault = none) : w.Harmless token := by
  intro statement rows hsome
  rw [hfault] at hsome
  cases hsome

theorem withdraw_judged (error : AcquireError) (hraised : w.Raised) (htimely : Timely env w) :
    (withdraw token error).Meets (handle env) w (Judged token) := by
  obtain ⟨cause, rows, hfault, hleft⟩ := hraised.cause
  cases cause with
  | some statement =>
    have hspent : Spent env w := htimely (by rw [hfault]; rfl)
    refine (withdraw_spent error hspent).mono ?_
    rintro result after ⟨rfl, hlocks, hkept, hqueues⟩
    rw [hfault] at hkept
    rcases hleft with ⟨hcause, hnone⟩ | ⟨hcause, hsome⟩
    · exact judged_of_clean (fun _ _ => ⟨hlocks.trans hnone, hqueues⟩)
        (harmless_of_madeUpFor hcause hkept)
    · constructor
      · intro hclean
        exact absurd ((hlocks.symm.trans (hclean error rfl).left)) hsome
      · intro hharmless
        have hloses := (hharmless statement rows hkept).left
        rw [show statement.loses = true from hcause] at hloses
        cases hloses
  | none =>
    have hnone : w.locks = [] := by
      rcases hleft with ⟨_, hnone⟩ | ⟨hcause, _⟩
      · exact hnone
      · exact hcause.elim
    let Withdraws : Option Statement -> Prop := fun cause =>
      exists statement, cause = some statement ∧ statement.loses = false ∧
        statement.withdraws = true
    apply meets_bind
    refine (settled_withConnection Withdraws (fun _ seen => ¬ seen.Queues token)
      ⟨_, rfl, rfl, rfl⟩ ⟨_, rfl, rfl, rfl⟩ hraised.working hfault ?_).mono ?_
    · intro start _ hfault _
      exact calm_write_last _ ⟨_, rfl, rfl, rfl⟩ hfault (not_queues_deleteWaiter _ token)
    · intro result after hafter
      have hlocks : after.locks = [] := hafter.locks.trans hnone
      cases result with
      | ok value =>
        obtain ⟨hquiet, hqueues⟩ := hafter.ok value rfl
        exact meets_raise (judged_of_clean (fun _ _ => ⟨hlocks, hqueues⟩)
          (harmless_of_no_fault hquiet))
      | error raised =>
        obtain ⟨_, _, ⟨statement, rfl, hloses, hwithdraws⟩, hraised⟩ :=
          hafter.error raised rfl
        constructor
        · intro hclean other rows hsome
          rw [hraised] at hsome
          cases hsome
          exact ⟨hloses, fun _ => (hclean raised rfl).right⟩
        · intro hharmless _ _
          exact ⟨hlocks, (hharmless statement after.store hraised).right hwithdraws⟩

theorem acquire_judged (aging : Int) (owner : ValidationLeaseOwner) (pid : Int)
    (startTicks : Option Int) (polls : Nat) (hidle : w.Idle)
    (hfresh : ¬ w.store.Queues token) :
    (acquire aging owner token pid startTicks polls).Meets (handle env) w (Judged token) := by
  cases startTicks with
  | none =>
    exact meets_raise (judged_of_clean (fun _ _ => ⟨hidle.locks, hfresh⟩)
      (harmless_of_no_fault hidle.fault))
  | some ticks =>
    apply meets_bind
    apply meets_perform
    simp only [handle]
    apply meets_bind
    refine (queueWaiter_settled (w := w.tick) owner ⟨pid, ticks⟩ _ hidle.working
      hidle.fault).mono ?_
    intro result queued hqueued
    cases result with
    | error error =>
      obtain ⟨hkept, cause, hcause, hfault⟩ := hqueued.error error rfl
      exact judged_of_clean
        (fun _ _ => ⟨hqueued.locks.trans hidle.locks, fun h => hfresh (hkept h)⟩)
        (harmless_of_madeUpFor hcause hfault)
    | ok value =>
      have hready : queued.Idle := ⟨hqueued.working, (hqueued.ok value rfl).left,
        hqueued.locks.trans hidle.locks⟩
      have htimely : Timely env queued := by
        intro hsome
        rw [hready.fault] at hsome
        cases hsome
      have hpolled := timely_execute (poll aging owner.identity token polls) htimely
      apply meets_tryCatch
      have hmeets : (poll aging owner.identity token polls).Meets (handle env) queued _ :=
        poll_meets aging owner.identity polls hready
      unfold Meets at hmeets ⊢
      generalize (poll aging owner.identity token polls).execute (handle env) queued = run
        at hmeets hpolled ⊢
      obtain ⟨result, after⟩ := run
      cases result with
      | ok slot =>
        refine judged_of_clean ?_ (harmless_of_no_fault hmeets)
        rintro error ⟨⟩
      | error error => exact withdraw_judged error hmeets hpolled

end CallState

/--
A call that exits with an exception has left no lock and no waiter if and only
if the statement that raised, if any, was neither one after the choice of the
slot nor one that withdrew a waiter still queued.
-/
theorem acquire_clean_iff {token : String} (env : Environment token) (store : LeaseStore)
    (hfresh : ¬ store.Queues token) (aging : Int) (owner : ValidationLeaseOwner) (pid : Int)
    (startTicks : Option Int) (polls : Nat) :
    (forall error after,
      (acquire aging owner token pid startTicks polls).execute (CallState.handle env)
        { store := store } = (.error error, after) -> after.Clean token) <->
      ((acquire aging owner token pid startTicks polls).execute (CallState.handle env)
        { store := store }).2.Harmless token := by
  have hjudged : (acquire aging owner token pid startTicks polls).Meets
      (CallState.handle env) { store := store } (CallState.Judged token) :=
    CallState.acquire_judged aging owner pid startTicks polls ⟨rfl, rfl, rfl⟩ hfresh
  unfold Meets CallState.Judged at hjudged
  rw [← hjudged]
  constructor
  · intro h error herror
    exact h error _ (Prod.ext herror rfl)
  · intro h error after hrun
    have hclean := h error (congrArg Prod.fst hrun)
    rw [hrun] at hclean
    exact hclean

/-- Nobody else is there, and the request with the number raises. -/
def raisingAt (n : Nat) : Environment "a" where
  capacity := 1
  others := fun _ s => s
  lockable := fun _ _ => true
  clock := fun _ => 0
  alive := fun _ _ => true
  cancelled := fun _ => false
  timedOut := fun _ => false
  raises := some n
  others_queues := fun _ _ => id

def acquireRaising (n : Nat) : Except AcquireError (Option Nat) × CallState :=
  (acquire 30000 (.worker "p" "t" "g") "a" 100 (some 5) 1).execute
    (CallState.handle (raisingAt n)) { store := {} }

/-- `BEGIN IMMEDIATE` of the grant raises, and nothing is left. -/
theorem busyBegin_clean : (acquireRaising 16).1 = .error .database ∧
      forall error after, acquireRaising 16 = (.error error, after) -> after.Clean "a" := by
  have hfault : exists rows, (acquireRaising 16).2.fault = some (.beginGrant, rows) :=
    ⟨_, rfl⟩
  obtain ⟨rows, hfault⟩ := hfault
  have hharmless : (acquireRaising 16).2.Harmless "a" := by
    intro statement other hsome
    rw [hfault] at hsome
    cases hsome
    exact ⟨rfl, fun h => by cases h⟩
  exact ⟨rfl, (acquire_clean_iff (raisingAt 16) {} (by decide) 30000 (.worker "p" "t" "g") 100
    (some 5) 1).mpr hharmless⟩

/-- The insertion of the owner raises, and its slot stays locked. -/
theorem busyInsert_losesSlot :
    ¬ forall (token : String) (env : Environment token) (store : LeaseStore),
      ¬ store.Queues token -> forall (aging : Int) (owner : ValidationLeaseOwner) (pid : Int)
        (startTicks : Option Int) (polls : Nat) (error : AcquireError) (after : CallState),
        (acquire aging owner token pid startTicks polls).execute (CallState.handle env)
          { store := store } = (.error error, after) -> after.Clean token := by
  intro h
  have hrun : acquireRaising 28 = (.error .database, (acquireRaising 28).2) := rfl
  have hclean := h "a" (raisingAt 28) {} (by decide) 30000 (.worker "p" "t" "g") 100 (some 5) 1
    _ _ hrun
  have hlocks : (acquireRaising 28).2.locks = [0] := rfl
  rw [hclean.left] at hlocks
  cases hlocks

end ValidationLease
end Oompah
