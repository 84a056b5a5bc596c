import Oompah.TaskTransitions.JournalWrites
import Oompah.TaskTransitions.Protocol

/-!
# Effects of calls

What a call that goes through does to the world and what it returns, one case
for each kind of call, and what the environment can make of a pending request.
-/

namespace Oompah
namespace TaskTransitions

open Foundation

/-!
# Calls that go through
-/

/-- The tracker gives the task of an intent a status. -/
def Written (w : World) (choice : Choice) (intent : TransitionIntent)
    (status : Status) (after : World) : Prop :=
  exists found, w.tracker.find intent.key = some found ∧
    after = w.writeStatus intent.key found status choice

/-- A commit lane refuses, or writes what it compared under its lock. -/
def Committed (w : World) (choice : Choice) (intent : TransitionIntent) (after : World) : Prop :=
  after = w ∨ exists found, w.tracker.find intent.key = some found ∧ Fenced intent found ∧
      after = w.writeStatus intent.key found intent.requestedStatus choice

inductive Performed (w : World) (attempt : Option (Nat × Nat))
    (choice : Choice) : (r : Request) -> World -> Answer r -> Prop
  | begin_ (intent : TransitionIntent) (leaseTtlSeconds : Int)
      (journal : TransitionJournal) (begun : BeginResult)
      (hbegun : TransitionJournal.Begun w.journal intent choice.now leaseTtlSeconds journal begun) :
      Performed w attempt choice (.begin_ intent leaseTtlSeconds)
        { w with
          journal := journal
          handedOut := (begun.recovery.map Recovery.transitionId).toList ++
            w.handedOut } begun
  | append (transitionId : Nat) (phase : TransitionPhase) (reasonCode : String)
      (outcome : Option TransitionOutcome) (row : TransitionRequest)
      (hrow : w.journal.request? transitionId = some row) :
      Performed w attempt choice (.append transitionId phase reasonCode outcome)
        { w with
          journal := w.journal.appendLocked transitionId phase (strip reasonCode) outcome }
        ()
  | release (key : TaskKey) (claimToken : Nat) (released : Bool) :
      Performed w attempt choice (.release key claimToken)
        { w with journal := (w.journal.release key claimToken).1 } released
  | expireForRetry (key : TaskKey) (claimToken : Nat) (retained : Bool) :
      Performed w attempt choice (.expireForRetry key claimToken)
        { w with
          journal := (w.journal.expireForRetry key claimToken choice.now).1 }
        retained
  | fetch (key : TaskKey) : Performed w attempt choice (.fetch key) w (w.tracker.find key)
  | fetchChildren (parent : Issue) (children : List Issue) :
      Performed w attempt choice (.fetchChildren parent) w children
  | stageHeld (intent : TransitionIntent) (issue : Issue) (staged : TerminalStageResult) :
      Performed w attempt choice (.stage intent issue)
        { w with
          stageCalls := (attempt.map Prod.fst).toList ++ w.stageCalls } staged
  | stageMoved (intent : TransitionIntent) (issue found : Issue)
      (staged : TerminalStageResult) (hmoved : choice.moved = true)
      (hfound : w.tracker.find intent.key = some found) :
      Performed w attempt choice (.stage intent issue)
        { w.writeStatus intent.key found .inValidation choice with
          stageCalls := (attempt.map Prod.fst).toList ++ w.stageCalls
          stageMoves := (attempt.map Prod.fst).toList ++ w.stageMoves } staged
  | update (intent : TransitionIntent) (after : World)
      (hwritten : Written w choice intent intent.requestedStatus after) :
      Performed w attempt choice (.update intent) after ()
  | commitDirectOwner (intent : TransitionIntent) (after : World)
      (result : CommitResult) (hcommitted : Committed w choice intent after) :
      Performed w attempt choice (.commitDirectOwner intent) after result
  | commitGuarded (intent : TransitionIntent) (after : World)
      (result : CommitResult) (hcommitted : Committed w choice intent after) :
      Performed w attempt choice (.commitGuarded intent) after result

section Fences

variable {intent : TransitionIntent} {issue : Issue}

theorem fenced_inProject {projectId : String} :
    Fenced intent (issue.inProject projectId) <-> Fenced intent issue := by
  simp [Fenced]

theorem fenced_of_commitFenceConflict
    (h : commitFenceConflict intent issue = none) : Fenced intent issue := by
  unfold commitFenceConflict at h
  split at h
  · cases h
  · split at h
    · cases h
    · rename_i hstate
      split at h
      · cases h
      · rename_i hversion
        exact ⟨not_not.mp hstate, not_not.mp hversion⟩

variable {service : TaskTransitionService}

theorem fenced_of_directOwner {claimGuard : GuardAnswer} {found : Option Issue} {retryable : Bool}
    (h : directOwnerCommitConflict service intent found claimGuard = (none, retryable)) :
    exists issue, found = some issue ∧ Fenced intent issue := by
  unfold directOwnerCommitConflict at h
  split at h
  · cases h
  · rename_i issue
    split at h
    · cases h
    · rename_i hconflict
      exact ⟨issue, rfl, fenced_of_commitFenceConflict hconflict⟩

theorem fenced_of_guarded {mutationGuard retirementGuard : GuardAnswer} {found : Option Issue}
    {rest : Bool × Option String} (h : guardedCommitConflict service intent found mutationGuard
      retirementGuard = (none, rest)) :
    exists issue, found = some issue ∧ Fenced intent issue := by
  unfold guardedCommitConflict at h
  split at h
  · cases h
  · rename_i issue
    split at h
    · cases h
    · rename_i hconflict
      exact ⟨issue, rfl, fenced_of_commitFenceConflict hconflict⟩

end Fences

variable {intent : TransitionIntent} {choice : Choice}

/-- Both commit lanes compare before they write. -/
theorem committed_commit {w : World} {service : TaskTransitionService}
    {conflict : Option Issue -> Option String × Bool × Option String}
    (hconflict : forall found rest, conflict found = (none, rest) ->
      exists issue, found = some issue ∧ Fenced intent issue) :
    Committed w choice intent (w.commit service intent choice conflict).1 := by
  unfold World.commit
  simp only
  split
  · rename_i retryable detail found hnone hfound
    right
    rcases hconflict _ _ hnone with ⟨issue, hissue, hfenced⟩
    rw [hfound] at hissue
    cases hissue
    exact ⟨found, hfound, fenced_inProject.mp hfenced, rfl⟩
  · exact .inl rfl
  · exact .inl rfl

theorem perform_cases (w : World) (service : TaskTransitionService)
    (attempt : Option (Nat × Nat)) (choice : Choice) (r : Request) :
    (exists value, (w.perform service attempt choice r).2 = .ok value ∧
      Performed w attempt choice r (w.perform service attempt choice r).1 value) ∨
    (exists failure, (w.perform service attempt choice r).2 = .error failure) ∧
      (w.perform service attempt choice r).1 = w ∧ w.called attempt r = w := by
  cases r with
  | begin_ intent leaseTtlSeconds =>
    simp only [World.perform]
    split
    · rename_i journal begun hbegin
      left
      exact ⟨begun, rfl, Performed.begin_ intent leaseTtlSeconds journal begun
        (TransitionJournal.begin_eq_ok hbegin)⟩
    · exact .inr ⟨⟨_, rfl⟩, rfl, rfl⟩
  | append transitionId phase reasonCode outcome =>
    simp only [World.perform]
    split
    · rename_i journal happend
      left
      rcases TransitionJournal.append_eq_ok happend with ⟨⟨row, hrow⟩, _, rfl⟩
      exact ⟨(), rfl, Performed.append transitionId phase reasonCode outcome row hrow⟩
    · exact .inr ⟨⟨_, rfl⟩, rfl, rfl⟩
  | release key claimToken => exact .inl ⟨_, rfl, Performed.release _ _ _⟩
  | expireForRetry key claimToken => exact .inl ⟨_, rfl, Performed.expireForRetry _ _ _⟩
  | fetch key => exact .inl ⟨_, rfl, Performed.fetch key⟩
  | fetchChildren parent => exact .inl ⟨_, rfl, Performed.fetchChildren parent _⟩
  | stage intent issue =>
    left
    simp only [World.perform]
    split
    · rename_i found hmoved hfound
      exact ⟨_, rfl, Performed.stageMoved intent issue found _ hmoved hfound⟩
    · exact ⟨_, rfl, Performed.stageHeld intent issue _⟩
  | update intent =>
    simp only [World.perform]
    split
    · rename_i found hfound
      left
      exact ⟨(), rfl, Performed.update intent _ ⟨found, hfound, rfl⟩⟩
    · exact .inr ⟨⟨_, rfl⟩, rfl, rfl⟩
  | commitDirectOwner intent =>
    left
    refine ⟨_, rfl, Performed.commitDirectOwner intent _ _ ?_⟩
    unfold World.perform
    apply committed_commit
    intro found rest hnone
    rcases hconflict : directOwnerCommitConflict service intent found
      choice.claimGuard with ⟨conflict, retryable⟩
    rw [hconflict] at hnone
    cases hnone
    exact fenced_of_directOwner hconflict
  | commitGuarded intent =>
    left
    refine ⟨_, rfl, Performed.commitGuarded intent _ _ ?_⟩
    unfold World.perform
    apply committed_commit
    intro found rest hnone
    exact fenced_of_guarded hnone

/-!
# Answers
-/

inductive Resolved (w : World) (e : Execution) (r : Request) :
    Resolution -> World -> Except Failure (Answer r) -> Prop
  | returned (choice : Choice) (after : World) (value : Answer r)
      (hperformed : Performed w e.attempt choice r after value) :
      Resolved w e r (.returns choice) after (.ok value)
  | failed (resolution : Resolution) (failure : Failure) :
      Resolved w e r resolution (w.called e.attempt r) (.error failure)
  | lost (choice : Choice) (raised : Raised) (after : World) (value : Answer r)
      (hwrites : World.writesTracker r = true)
      (hperformed : Performed w e.attempt choice r after value) :
      Resolved w e r (.lost choice raised) after (.error { raised := raised })
  | detached : Resolved w e r .detaches
        { w with
          detached := w.detached ++
            [{ service := e.service, attempt := e.attempt, request := r }] }
        (.error { raised := .cancelled })

variable {w after : World}

theorem resolve_eq_some {e : Execution} {r : Request}
    {resolution : Resolution} {answer : Except Failure (Answer r)}
    (h : w.resolve e r resolution = some (after, answer)) :
    Resolved w e r resolution after answer := by
  cases resolution with
  | returns choice =>
    have heq : w.perform e.service e.attempt choice r = (after, answer) := Option.some.inj h
    rcases perform_cases w e.service e.attempt choice r with
      ⟨value, hvalue, hperformed⟩ | ⟨⟨failure, hfailure⟩, hafter, hcalled⟩
    · rw [heq] at hvalue hperformed
      subst hvalue
      exact Resolved.returned choice after value hperformed
    · rw [heq] at hfailure hafter
      subst hfailure hafter
      have hfailed := Resolved.failed (w := after) (e := e) (r := r) (.returns choice) failure
      rw [hcalled] at hfailed
      exact hfailed
  | raises raised =>
    cases h
    exact Resolved.failed _ _
  | lost choice raised =>
    by_cases hwrites : World.writesTracker r = true
    · have h : some ((w.perform e.service e.attempt choice r).1,
          Except.error { raised := raised }) = some (after, answer) := by
        rw [← h]
        exact (if_pos hwrites).symm
      have heq := Option.some.inj h
      rw [show after = _ from (congrArg Prod.fst heq).symm,
        show answer = _ from (congrArg Prod.snd heq).symm]
      rcases perform_cases w e.service e.attempt choice r with
        ⟨value, _, hperformed⟩ | ⟨_, hafter, hcalled⟩
      · exact Resolved.lost choice raised _ value hwrites hperformed
      · rw [hafter]
        have hfailed := Resolved.failed (w := w) (e := e) (r := r)
          (.lost choice raised) { raised := raised }
        rw [hcalled] at hfailed
        exact hfailed
    · have hnone : w.resolve e r (.lost choice raised) = none := if_neg hwrites
      rw [hnone] at h
      cases h
  | detaches =>
    cases h
    exact Resolved.detached

/-!
# What every call keeps
-/

theorem Tracker.find_set (tracker : Tracker) (key key' : TaskKey) (issue : Issue) :
    (tracker.set key issue).find key' =
      if key' = key then (tracker.find key').map (fun _ => issue)
      else tracker.find key' := by
  unfold Tracker.find Tracker.set
  induction tracker with
  | nil => split <;> rfl
  | cons entry rest ih =>
    rw [List.map_cons]
    by_cases hentry : entry.1 = key'
    · subst hentry
      by_cases hkey : entry.1 = key
      · simp [hkey]
      · simp [hkey]
    · have hmapped : ¬ (if entry.1 = key then (entry.1, issue) else entry).1 = key' := by
        split <;> exact hentry
      rw [List.find?_cons_of_neg (by simpa using hmapped),
        List.find?_cons_of_neg (by simpa using hentry)]
      exact ih

/-- Requests and events stay, and no old token comes back. -/
structure Grows (j j' : TransitionJournal) : Prop where
  registered : forall transitionId intent, j.Registered transitionId intent ->
    j'.Registered transitionId intent
  issued : j.issued ≤ j'.issued
  owned : forall key transitionId claimToken, claimToken < j.issued ->
    j'.Owns key transitionId claimToken -> j.Owns key transitionId claimToken
  events : forall event, event ∈ j.events -> event ∈ j'.events

theorem Grows.refl (j : TransitionJournal) : Grows j j where
  registered := fun _ _ h => h
  issued := Nat.le_refl _
  owned := fun _ _ _ _ h => h
  events := fun _ h => h

variable {j j' : TransitionJournal}

theorem Grows.ended (h : Grows j j') {transitionId : Nat} (hended : j.Ended transitionId) :
    j'.Ended transitionId := by
  rcases hended with ⟨event, hevent, hid, hfinal⟩
  exact ⟨event, h.events event hevent, hid, hfinal⟩

theorem TransitionJournal.Begun.grows {now ttl : Int} {begun : BeginResult}
    (hj : j.WellFormed) (h : Begun j intent now ttl j' begun) : Grows j j' := by
  have heffect := h.effect hj
  constructor
  · intro transitionId intent' hregistered
    rcases heffect.requests with hsame | hmore
    · unfold Registered at hregistered ⊢
      rw [hsame]
      exact hregistered
    · exact hregistered.append hmore
  · rw [heffect.issued]
    exact Nat.le_succ _
  · intro key transitionId claimToken hlt hown
    rcases heffect.owned key transitionId claimToken hown with hold | ⟨_, hgranted⟩
    · exact hold
    · have heq := (heffect.granted _ _ hgranted).left
      omega
  · intro event hevent
    rcases heffect.events with ⟨first, rest, hevents, _, _⟩
    rw [hevents]
    exact List.mem_append_left _ hevent

/-- The calls that leave the journal alone. -/
def Request.journals : Request -> Bool
  | .begin_ _ _ | .append _ _ _ _ | .release _ _ | .expireForRetry _ _ => true
  | .fetch _ | .fetchChildren _ | .stage _ _ | .update _
  | .commitDirectOwner _ | .commitGuarded _ => false

/-- The calls that can give the task of an intent a status. -/
def Request.target? : Request -> Option TransitionIntent
  | .stage intent _ | .update intent | .commitDirectOwner intent
  | .commitGuarded intent => some intent
  | .begin_ _ _ | .append _ _ _ _ | .release _ _ | .expireForRetry _ _
  | .fetch _ | .fetchChildren _ => none

theorem Written.same {status : Status} (h : Written w choice intent status after) :
    after.journal = w.journal ∧ after.executions = w.executions ∧
      after.detached = w.detached ∧ after.handedOut = w.handedOut ∧
      after.stageCalls = w.stageCalls ∧ after.stageMoves = w.stageMoves := by
  rcases h with ⟨found, _, rfl⟩
  exact ⟨rfl, rfl, rfl, rfl, rfl, rfl⟩

theorem Committed.same (h : Committed w choice intent after) :
    after.journal = w.journal ∧ after.executions = w.executions ∧
      after.detached = w.detached ∧ after.handedOut = w.handedOut ∧
      after.stageCalls = w.stageCalls ∧ after.stageMoves = w.stageMoves := by
  rcases h with rfl | ⟨found, _, _, rfl⟩
  · exact ⟨rfl, rfl, rfl, rfl, rfl, rfl⟩
  · exact ⟨rfl, rfl, rfl, rfl, rfl, rfl⟩

section Kept

variable {w after : World} {attempt : Option (Nat × Nat)} {choice : Choice}
  {r : Request} {value : Answer r}

theorem Performed.tracker (h : Performed w attempt choice r after value) :
    after.tracker = w.tracker ∨ exists intent found status, r.target? = some intent ∧
        w.tracker.find intent.key = some found ∧
        after.tracker = w.tracker.set intent.key (found.withStatus status choice.version) := by
  cases h with
  | stageMoved intent issue found staged hmoved hfound =>
    exact .inr ⟨intent, found, .inValidation, rfl, hfound, rfl⟩
  | update intent after hwritten =>
    rcases hwritten with ⟨found, hfound, rfl⟩
    exact .inr ⟨intent, found, intent.requestedStatus, rfl, hfound, rfl⟩
  | commitDirectOwner intent after result hcommitted =>
    rcases hcommitted with rfl | ⟨found, hfound, _, rfl⟩
    · exact .inl rfl
    · exact .inr ⟨intent, found, intent.requestedStatus, rfl, hfound, rfl⟩
  | commitGuarded intent after result hcommitted =>
    rcases hcommitted with rfl | ⟨found, hfound, _, rfl⟩
    · exact .inl rfl
    · exact .inr ⟨intent, found, intent.requestedStatus, rfl, hfound, rfl⟩
  | _ => exact .inl rfl

theorem Performed.executions (h : Performed w attempt choice r after value) :
    after.executions = w.executions := by
  cases h with
  | update intent after hwritten => exact hwritten.same.right.left
  | commitDirectOwner intent after result hcommitted => exact hcommitted.same.right.left
  | commitGuarded intent after result hcommitted => exact hcommitted.same.right.left
  | _ => rfl

theorem Performed.detached (h : Performed w attempt choice r after value) :
    after.detached = w.detached := by
  cases h with
  | update intent after hwritten => exact hwritten.same.right.right.left
  | commitDirectOwner intent after result hcommitted =>
    exact hcommitted.same.right.right.left
  | commitGuarded intent after result hcommitted => exact hcommitted.same.right.right.left
  | _ => rfl

theorem Performed.journal (h : Performed w attempt choice r after value)
    (hr : r.journals = false) : after.journal = w.journal := by
  cases h with
  | update intent after hwritten => exact hwritten.same.left
  | commitDirectOwner intent after result hcommitted => exact hcommitted.same.left
  | commitGuarded intent after result hcommitted => exact hcommitted.same.left
  | begin_ => cases hr
  | append => cases hr
  | release => cases hr
  | expireForRetry => cases hr
  | _ => rfl

theorem Performed.grows (hj : w.journal.WellFormed)
    (h : Performed w attempt choice r after value) : Grows w.journal after.journal := by
  cases hr : r.journals with
  | false =>
    rw [h.journal hr]
    exact Grows.refl _
  | true =>
    cases h with
    | begin_ intent leaseTtlSeconds journal begun hbegun => exact hbegun.grows hj
    | append transitionId phase reasonCode outcome row hrow =>
      constructor
      · exact fun _ _ hregistered => hregistered
      · exact Nat.le_refl _
      · exact fun _ _ _ _ hown => hown
      · exact fun _ hevent => List.mem_append_left _ hevent
    | release key claimToken released =>
      constructor
      · exact fun _ _ hregistered => hregistered
      · exact Nat.le_refl _
      · intro other transitionId token _ hown
        exact (TransitionJournal.owns_release.mp hown).left
      · exact fun _ hevent => hevent
    | expireForRetry key claimToken retained =>
      constructor
      · exact fun _ _ hregistered => hregistered
      · exact Nat.le_refl _
      · intro other transitionId token _ hown
        exact TransitionJournal.owns_expireForRetry.mp hown
      · exact fun _ hevent => hevent
    | fetch => cases hr
    | fetchChildren => cases hr
    | stageHeld => cases hr
    | stageMoved => cases hr
    | update => cases hr
    | commitDirectOwner => cases hr
    | commitGuarded => cases hr

end Kept
end TaskTransitions
end Oompah
