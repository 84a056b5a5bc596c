import Oompah.TaskTransitions.Agents

/-!
# The fence of a status write

An attempt compares the status and the version of its task when it reads it, and
writes some calls later.  Only two commit lanes compare again under the write
lock.  The write meets what was compared in the runs where nobody else gives the
task a status or a version between the two.
-/

namespace Oompah
namespace TaskTransitions

open Foundation

/-!
# Status writes
-/

def committed (intent : TransitionIntent) : Except Failure CommitResult -> Option TransitionIntent
  | .ok result => if result.conflict = none then some intent else none
  | .error _ => none

/-- The intent whose status a call writes. -/
def World.overwrites (w : World) (service : TaskTransitionService)
    (choice : Choice) : Request -> Option TransitionIntent
  | .update intent => some intent
  | .stage intent _ => if choice.moved then some intent else none
  | .commitDirectOwner intent =>
    committed intent (w.perform service none choice (.commitDirectOwner intent)).2
  | .commitGuarded intent =>
    committed intent (w.perform service none choice (.commitGuarded intent)).2
  | _ => none

/-- The intent whose status a step writes. -/
def World.written (w : World) : WorldStep -> Option TransitionIntent
  | .answer index (.returns choice) =>
    w.executions[index]?.bind (fun e =>
      e.pending.bind (w.overwrites e.service choice))
  | .answer index (.lost choice _) =>
    w.executions[index]?.bind (fun e =>
      e.pending.bind (w.overwrites e.service choice))
  | .finishDetached position choice =>
    w.detached[position]?.bind (fun call =>
      w.overwrites call.service choice call.request)
  | _ => none

/-- A status is written over the expected status at the expected version only. -/
def WritesFenced (w : World) (s : WorldStep) : Prop :=
  forall intent found, w.written s = some intent ->
    w.tracker.find intent.key = some found -> Fenced intent found

/-!
# Runs without an intruder
-/

/-- A status is written under a claim that still carries the writer's token. -/
def writesUnderClaim (w : World) (attempt : Option (Nat × Nat)) (r : Request)
    (choice : Choice) : Bool :=
  match r with
  | .update _ => w.holdsClaim attempt
  | .stage _ _ => !choice.moved || w.holdsClaim attempt
  | .commitDirectOwner intent | .commitGuarded intent =>
    w.holdsClaim attempt || !(w.tracker.find intent.key).any (fun found => Fenced intent found)
  | _ => true

/-- The calls between the read of an attempt and its unguarded write. -/
def Request.relies : Request -> Bool
  | .fetchChildren _ | .stage _ _ | .update _ => true
  | .append _ phase _ _ => phase = .applying
  | .begin_ _ _ | .release _ _ | .expireForRetry _ _ | .fetch _
  | .commitDirectOwner _ | .commitGuarded _ => false

/-- The claim of a given task still carries the token of an attempt. -/
def World.holdsTask (w : World) (key : TaskKey) (attempt : Option (Nat × Nat)) :
    Bool :=
  attempt.any (fun owned =>
    w.journal.claims.any (fun row =>
      row.claimToken = owned.2 && row.key = key))

/--
An edit keeps the version of a task while an attempt that holds its claim is
between its read and its write.
-/
def keepsVersion (w : World) (key : TaskKey) (issue : Issue) : Bool :=
  (w.tracker.find key).all (fun found =>
      found.authorityVersion = issue.authorityVersion) ||
    (w.executions.all (fun e =>
        !(e.pending.any Request.relies && w.holdsTask key e.attempt)) &&
      w.detached.all (fun call =>
        !(call.request.relies && w.holdsTask key call.attempt)))

/-!
# What an attempt compared
-/

/-- The tracker still has the status and the version of an issue. -/
def Agrees (tracker : Tracker) (intent : TransitionIntent) (issue : Issue) :
    Prop :=
  exists found, tracker.find intent.key = some found ∧
    found.state = issue.state ∧ found.authorityVersion = issue.authorityVersion

/-- What an attempt read is current while its claim carries its token. -/
structure ReadCurrent (w : World) (c : Claimed) (stage : Stage) (r : Request) :
    Prop where
  current : forall issue, stage = .deciding (some issue) ∨ stage = .applying issue ->
    r.relies = true -> Carried w.journal c.claimToken ->
    Agrees w.tracker c.intent issue
  fenced : forall issue, stage = .applying issue -> Fenced c.intent issue

variable {intent : TransitionIntent}

theorem Agrees.fenced {tracker : Tracker} {issue found : Issue} (h : Agrees tracker intent issue)
    (hfenced : Fenced intent issue)
    (hfound : tracker.find intent.key = some found) : Fenced intent found := by
  rcases h with ⟨stored, hstored, hstate, hversion⟩
  rw [hfound] at hstored
  cases hstored
  exact ⟨hstate.trans hfenced.left, hversion.trans hfenced.right⟩

section Attempts

variable {w : World} {e e₀ : Execution} {c c₀ : Claimed} {stage : Stage}
  {choice : Choice} {r : Request}

theorem target_of_allows {service : TaskTransitionService}
    {intent : TransitionIntent} (h : stage.allows service c r)
    (htarget : r.target? = some intent) :
    intent = c.intent ∧ exists issue, stage = .applying issue := by
  cases r with
  | stage written issue =>
    cases htarget
    cases stage with
    | applying issue => exact ⟨h.left, issue, rfl⟩
    | _ => exact h.elim
  | update written =>
    cases htarget
    cases stage with
    | applying issue => exact ⟨h.left, issue, rfl⟩
    | _ => exact h.elim
  | commitDirectOwner written =>
    cases htarget
    cases stage with
    | applying issue => exact ⟨h.left, issue, rfl⟩
    | _ => exact h.elim
  | commitGuarded written =>
    cases htarget
    cases stage with
    | applying issue => exact ⟨h.left, issue, rfl⟩
    | _ => exact h.elim
  | _ => cases htarget

/-- A call that changes the tracker under the condition holds its claim. -/
theorem holds_of_performed {attempt : Option (Nat × Nat)} {after : World}
    {value : Answer r} (hguard : writesUnderClaim w attempt r choice = true)
    (hperformed : Performed w attempt choice r after value)
    (hchanged : after.tracker ≠ w.tracker) : w.holdsClaim attempt = true := by
  cases hperformed with
  | stageMoved intent issue found staged hmoved hfound =>
    simpa [writesUnderClaim, hmoved] using hguard
  | update intent after hwritten => exact hguard
  | commitDirectOwner intent after result hcommitted =>
    rcases hcommitted with rfl | ⟨found, hfound, hfenced, rfl⟩
    · exact absurd rfl hchanged
    · simpa [writesUnderClaim, hfound, hfenced] using hguard
  | commitGuarded intent after result hcommitted =>
    rcases hcommitted with rfl | ⟨found, hfound, hfenced, rfl⟩
    · exact absurd rfl hchanged
    · simpa [writesUnderClaim, hfound, hfenced] using hguard
  | _ => exact absurd rfl hchanged

theorem carried_of_backed (hbacked : Backed w.journal e c stage)
    (hholds : w.holdsClaim e.attempt = true) : Carried w.journal c.claimToken := by
  rcases carried_of_holdsClaim hholds with ⟨token, htoken, hcarried⟩
  rw [hbacked.attempt] at htoken
  cases htoken
  exact hcarried

/-- The claim of its own task carries the token of an attempt, if any does. -/
theorem holdsTask_of_carried (hbacked : Backed w.journal e c stage)
    (hcarried : Carried w.journal c.claimToken) :
    w.holdsTask c.intent.key e.attempt = true := by
  rcases hcarried with ⟨key, owner, hown⟩
  have hkey := hbacked.owned key owner hown
  rcases hown with ⟨row, hrow, hrowKey, _, htoken⟩
  rw [hbacked.attempt]
  apply List.any_eq_true.mpr
  refine ⟨row, hrow, ?_⟩
  simp [htoken, hrowKey, hkey]

end Attempts

variable {choice : Choice} {r : Request}

/-- Another attempt's call leaves the task of a carried claim alone. -/
theorem Agrees.others {w after : World} {e e₀ : Execution} {σ σ₀ : Progress}
    {c : Claimed} {stage : Stage} {value : Answer r} {issue : Issue} (hj : w.journal.WellFormed)
    (hlinked : Linked w.journal e σ) (hclaim : σ.claim? = some (c, stage))
    (hlinked₀ : Linked w.journal e₀ σ₀) (hasks₀ : Progress.Asks e₀.service e₀.lane e₀.intent σ₀ r)
    (hapart : r.Body e₀.attempt -> forall c₀ stage₀,
      σ₀.claim? = some (c₀, stage₀) -> c₀.claimToken ≠ c.claimToken)
    (hguard : writesUnderClaim w e₀.attempt r choice = true)
    (hperformed : Performed w e₀.attempt choice r after value)
    (hcarried : Carried w.journal c.claimToken)
    (h : Agrees w.tracker c.intent issue) : Agrees after.tracker c.intent issue := by
  by_cases hsame : after.tracker = w.tracker
  · rw [hsame]
    exact h
  · have hholds := holds_of_performed hguard hperformed hsame
    rcases hperformed.tracker with hunchanged | ⟨intent, found, status, htarget, hfound, hwritten⟩
    · exact absurd hunchanged hsame
    · rcases h with ⟨stored, hstored, hagrees⟩
      refine ⟨stored, ?_, hagrees⟩
      rw [hwritten, Tracker.find_set, if_neg _]
      · exact hstored
      · intro hkey
        cases hasks₀ with
        | begins => cases htarget
        | notes => cases htarget
        | works σ c₀ stage₀ r hclaim₀ hstage₀ =>
          rw [(target_of_allows hstage₀ htarget).left] at hkey
          have hbody : r.Body e₀.attempt := by
            cases r with
            | stage | update | commitDirectOwner | commitGuarded => trivial
            | _ => cases htarget
          exact hapart hbody c₀ stage₀ hclaim₀ (holder_unique hj
            (hlinked.backed hclaim) (hlinked₀.backed hclaim₀) hkey.symm hholds
            hcarried)

theorem readCurrent_kept : Kept writesUnderClaim keepsVersion (fun _ => True) ReadCurrent where
  same := by
    intro w w' c stage own hshared h
    constructor
    · rw [← hshared.journal, ← hshared.tracker]
      exact h.current
    · exact h.fenced
  called := by
    intro w attempt r c stage own h
    rcases w.called_eq attempt r with ⟨hjournal, _, _, htracker, _⟩
    constructor
    · rw [hjournal, htracker]
      exact h.current
    · exact h.fenced
  edited := by
    intro w key issue found e σ c stage r _ hguard hfound hworking hpending h
    have hbacked := hworking.linked.backed hworking.claim
    constructor
    · intro read hstage hrelies hcarried
      rcases h.current read hstage hrelies hcarried with
        ⟨stored, hstored, hstate, hversion⟩
      by_cases hkey : c.intent.key = key
      · subst hkey
        rw [hfound] at hstored
        cases hstored
        refine ⟨{ issue with state := found.state, projectId := found.projectId }, ?_, hstate, ?_⟩
        · rw [Tracker.find_set, if_pos rfl, hfound]
          rfl
        · -- The version is kept, or the attempt was not between read and write.
          have hholds := holdsTask_of_carried hbacked hcarried
          rcases Bool.or_eq_true_iff.mp hguard with hsame | hnone
          · rw [hfound] at hsame
            exact (of_decide_eq_true hsame).symm.trans hversion
          · exfalso
            rcases Bool.and_eq_true_iff.mp hnone with ⟨hlive, hleft⟩
            rcases hpending with ⟨i, e', hindex, hasked, hattempt⟩ |
              ⟨call, hcall, hrequest, hattempt⟩
            · have hfree := List.all_eq_true.mp hlive e' (List.mem_of_getElem? hindex)
              rw [hasked, hattempt] at hfree
              simp [hrelies, hholds] at hfree
            · have hfree := List.all_eq_true.mp hleft call hcall
              rw [hrequest, hattempt] at hfree
              simp [hrelies, hholds] at hfree
      · refine ⟨stored, ?_, hstate, hversion⟩
        rw [Tracker.find_set, if_neg hkey]
        exact hstored
    · exact h.fenced
  others := by
    intro w after r value choice e e₀ σ σ₀ c stage own hj _ hlinked hclaim hlinked₀
      hasks₀ hapart hguard hperformed h
    constructor
    · intro issue hstage hrelies hcarried
      have hbefore := Carried.before hcarried (hperformed.grows hj) (hlinked.backed hclaim).issued
      exact (h.current issue hstage hrelies hbefore).others hj hlinked hclaim hlinked₀
        hasks₀ hapart hguard hperformed hbefore
    · exact h.fenced
  works := by
    intro w after e σ c old r answer hj _ hworking heffect _ h next
    have hbacked := hworking.linked.backed hworking.claim
    have hcarried : Carried after.journal c.claimToken -> Carried w.journal c.claimToken := by
      intro hcarried
      rcases heffect with ⟨choice, value, _, hperformed, _⟩ | ⟨failure, _, rfl⟩
      · exact Carried.before hcarried (hperformed.grows hj) hbacked.issued
      · rw [(w.called_eq e.attempt r).left] at hcarried
        exact hcarried
    have htracker : r.target? = none -> after.tracker = w.tracker := by
      intro hnone
      rcases heffect with ⟨choice, value, _, hperformed, _⟩ | ⟨failure, _, rfl⟩
      · rcases hperformed.tracker with hsame | ⟨intent, _, _, htarget, _⟩
        · exact hsame
        · rw [hnone] at htarget
          cases htarget
      · exact (w.called_eq e.attempt r).right.right.right.left
    constructor
    · intro issue hstage _ hafter
      have hbefore := hcarried hafter
      rcases hstage with hdeciding | happlying
      · rcases Stage.next_deciding hdeciding with
          ⟨hsame, parent, rfl⟩ | hnone | ⟨rfl, hreads⟩
        · rw [htracker rfl]
          exact h.current issue (Or.inl hsame) rfl hbefore
        · cases hnone
        · rcases hreads.found hworking heffect with ⟨_, hunchanged, hread⟩
          rcases Option.map_eq_some_iff.mp hread.symm with ⟨found, hfound, rfl⟩
          rw [hunchanged]
          exact ⟨found, hfound, (Issue.inProject_state _ _).symm,
            (Issue.inProject_authorityVersion _ _).symm⟩
      · rcases Stage.next_applying happlying with ⟨hdeciding, happlies⟩
        cases happlies with
        | appended transitionId reasonCode outcome =>
          rw [htracker rfl]
          exact h.current issue (Or.inl hdeciding) rfl hbefore
    · intro issue happlying
      rcases Stage.next_applying happlying with ⟨rfl, happlies⟩
      cases happlies with
      | appended transitionId reasonCode outcome =>
        rcases hworking.allowed.left with ⟨_, hadmits⟩ | hconcludes
        · rcases hadmits.issue with ⟨found, hfound, hfenced, _⟩
          cases hfound
          exact hfenced
        · exact absurd rfl hconcludes.ne_applying
  starts := by
    intro w after e e' σ ttl choice begun c _ _ _ _ _ _ _ _ _ _ next
    constructor
    · intro issue hstage
      rcases hstage with hstage | hstage <;> cases hstage
    · intro issue hstage
      cases hstage

/-!
# Fenced writes
-/

variable {w : World} {service : TaskTransitionService} {found : Issue}

theorem fenced_of_commit {conflict : Option Issue -> Option String × Bool × Option String}
    (hconflict : forall issue rest, conflict issue = (none, rest) ->
      exists stored, issue = some stored ∧ Fenced intent stored)
    (h : (w.commit service intent choice conflict).2.conflict = none)
    (hfound : w.tracker.find intent.key = some found) : Fenced intent found := by
  unfold World.commit at h
  simp only [hfound] at h
  split at h
  · rename_i retryable detail stored hnone hstored
    cases hstored
    rcases hconflict _ _ hnone with ⟨issue, hissue, hfenced⟩
    cases hissue
    exact fenced_inProject.mp hfenced
  · rename_i hstored
    cases hstored
  · cases h

theorem committed_eq_some {intent written : TransitionIntent}
    {result : CommitResult} (h : committed intent (.ok result) = some written) :
    written = intent ∧ result.conflict = none := by
  unfold committed at h
  simp only at h
  split at h
  · rename_i hnone
    exact ⟨(Option.some.inj h).symm, hnone⟩
  · cases h

/-- A write is made for its target: unguarded, or after a comparison. -/
theorem overwrites_cases (h : w.overwrites service choice r = some intent) :
    r.target? = some intent ∧ (r.relies = true ∧ (forall attempt,
          writesUnderClaim w attempt r choice = true ->
          w.holdsClaim attempt = true) ∨
        forall found, w.tracker.find intent.key = some found -> Fenced intent found) := by
  cases r with
  | update written =>
    cases h
    exact ⟨rfl, Or.inl ⟨rfl, fun _ hguard => hguard⟩⟩
  | stage written issue =>
    unfold World.overwrites at h
    simp only at h
    split at h
    · rename_i hmoved
      cases h
      refine ⟨rfl, Or.inl ⟨rfl, ?_⟩⟩
      intro attempt hguard
      simpa [writesUnderClaim, hmoved] using hguard
    · cases h
  | commitDirectOwner written =>
    have h : committed written (.ok (w.commit service written choice (fun issue =>
        ((directOwnerCommitConflict service written issue choice.claimGuard).1,
          (directOwnerCommitConflict service written issue choice.claimGuard).2,
          none))).2) = some intent := h
    rcases committed_eq_some h with ⟨rfl, hnone⟩
    refine ⟨rfl, Or.inr ?_⟩
    intro found hfound
    apply fenced_of_commit _ hnone hfound
    intro issue rest hconflict
    rcases hcase : directOwnerCommitConflict service intent issue
      choice.claimGuard with ⟨conflict, retryable⟩
    rw [hcase] at hconflict
    cases hconflict
    exact fenced_of_directOwner hcase
  | commitGuarded written =>
    have h : committed written (.ok (w.commit service written choice (fun issue =>
        guardedCommitConflict service written issue choice.mutationGuard
          choice.retirementGuard)).2) = some intent := h
    rcases committed_eq_some h with ⟨rfl, hnone⟩
    refine ⟨rfl, Or.inr ?_⟩
    intro found hfound
    apply fenced_of_commit _ hnone hfound
    intro issue rest hconflict
    exact fenced_of_guarded hconflict
  | _ => cases h

/-- An attempt that holds its claim writes over what it compared. -/
theorem ReadCurrent.write {e : Execution} {σ : Progress} {c : Claimed} {stage : Stage}
    (h : ReadCurrent w c stage r) (hworking : Working w e σ c stage r)
    (hguard : writesUnderClaim w e.attempt r choice = true)
    (hwritten : w.overwrites service choice r = some intent)
    (hfound : w.tracker.find intent.key = some found) : Fenced intent found := by
  rcases overwrites_cases hwritten with ⟨htarget, ⟨hrelies, hholds⟩ | hcompared⟩
  · rcases target_of_allows hworking.allowed htarget with ⟨rfl, issue, happlying⟩
    have hcarried := carried_of_backed (hworking.linked.backed hworking.claim)
      (hholds e.attempt hguard)
    have hagrees := h.current issue (Or.inr happlying) hrelies hcarried
    exact hagrees.fenced (h.fenced issue happlying) hfound
  · exact hcompared found hfound

theorem body_of_target (h : r.target? = some intent) (attempt : Option (Nat × Nat)) :
    r.Body attempt := by
  cases r with
  | stage | update | commitDirectOwner | commitGuarded => trivial
  | _ => cases h

/-- A pending call writes over what its execution compared. -/
theorem Sound.write {x : Traced} (hsound : Sound x)
    (hagents : EveryAgent x ReadCurrent) {index : Nat} {e : Execution}
    (hindex : x.world.executions[index]? = some e) (hpending : e.pending = some r)
    (hguard : writesUnderClaim x.world e.attempt r choice = true)
    (hwritten : x.world.overwrites e.service choice r = some intent)
    (hfound : x.world.tracker.find intent.key = some found) :
    Fenced intent found := by
  rcases program_of_pending hpending with ⟨resume, hprogram⟩
  have hbody := body_of_target (overwrites_cases hwritten).left e.attempt
  rcases hsound.working_of_body hindex (hsound.asks hindex hprogram) hbody with
    ⟨c, stage, hworking, hlive⟩
  exact (hagents.live index e c stage r hindex hworking.claim hlive hpending).write
    hworking hguard hwritten hfound

theorem Sound.writesFenced {x : Traced} (hsound : Sound x)
    (hagents : EveryAgent x ReadCurrent) (s : WorldStep)
    (hguard : effective writesUnderClaim keepsVersion x.world s = true) :
    WritesFenced x.world s := by
  intro intent found hwritten hfound
  cases s with
  | answer index resolution =>
    cases resolution with
    | returns choice =>
      rcases Option.bind_eq_some_iff.mp hwritten with ⟨e, hindex, hrest⟩
      rcases Option.bind_eq_some_iff.mp hrest with ⟨r, hpending, hover⟩
      apply hsound.write hagents hindex hpending _ hover hfound
      simpa [effective, hindex, hpending] using hguard
    | lost choice raised =>
      rcases Option.bind_eq_some_iff.mp hwritten with ⟨e, hindex, hrest⟩
      rcases Option.bind_eq_some_iff.mp hrest with ⟨r, hpending, hover⟩
      apply hsound.write hagents hindex hpending _ hover hfound
      simpa [effective, hindex, hpending] using hguard
    | raises raised => cases hwritten
    | detaches => cases hwritten
  | finishDetached position choice =>
    rcases Option.bind_eq_some_iff.mp hwritten with ⟨call, hcall, hover⟩
    have hbody := body_of_target (overwrites_cases hover).left call.attempt
    rcases hagents.left call (List.mem_of_getElem? hcall) hbody with
      ⟨e, σ, c, stage, hattempt, hworking, hcurrent⟩
    apply hcurrent.write hworking _ hover hfound
    rw [hattempt]
    simpa [effective, hcall] using hguard
  | submit service lane intent => cases hwritten
  | edit key issue => cases hwritten

/--
While a status is written under the claim of its task only, and no edit changes
the version of a task between the read and the write of the attempt that holds
its claim, every status write meets the expected status and version.
-/
theorem writesFenced_run (tracker : Tracker) (steps : List WorldStep)
    (hguard : Guarded World.step (fun w s => effective writesUnderClaim keepsVersion w s = true)
      { tracker := tracker } steps) :
    Guarded World.step WritesFenced { tracker := tracker } steps := by
  apply everyAgent_steps readCurrent_kept _ _ tracker trivial steps hguard
  · intro x s _ _ _ _
    trivial
  · intro x s hsound hagents _ hs
    exact hsound.writesFenced hagents s hs

/-- The intent is begun, read, compared and about to be written. -/
def comparedRun : List WorldStep :=
  [.submit sampleService .ordinary sampleIntent,
    .answer 0 (.returnsAt 0), .answer 0 (.returnsAt 1), .answer 0 (.returnsAt 1)]

/-- An intent that goes on from what the first one writes. -/
def answerIntent : TransitionIntent :=
  { sampleIntent with
    expectedStatus := .needsHuman
    expectedVersion := ""
    requestedStatus := .needsAnswer
    idempotencyKey := "key-3" }

/--
Once its claim expired, another execution applies the first intent and a third
one goes on to `Needs Answer`.
-/
def overtakenRun : List WorldStep :=
  comparedRun ++ [.submit sampleService .ordinary { sampleIntent with idempotencyKey := "key-2" },
      .answer 1 (.returnsAt 301), .answer 1 (.returnsAt 301),
      .answer 1 (.returnsAt 301), .answer 1 (.returnsAt 301),
      .answer 1 (.returnsAt 301), .answer 1 (.returnsAt 301),
      .answer 1 (.returnsAt 301),
      .submit sampleService .ordinary answerIntent,
      .answer 2 (.returnsAt 302), .answer 2 (.returnsAt 302),
      .answer 2 (.returnsAt 302), .answer 2 (.returnsAt 302)]

theorem writesFenced_compared : Guarded World.step WritesFenced { tracker := sampleTracker }
      (comparedRun ++ [.answer 0 (.returnsAt 1)]) :=
  writesFenced_run sampleTracker _ (by decide +kernel)

theorem overtaken_overwrites : ¬ forall (tracker : Tracker) (steps : List WorldStep),
      Guarded World.step WritesFenced { tracker := tracker } steps := by
  intro h
  have hsteps := (guarded_append _ overtakenRun _).mp
    (h sampleTracker (overtakenRun ++ [.answer 0 (.returnsAt 303)]))
  have hwritten : (run World.step { tracker := sampleTracker }
      overtakenRun).written (.answer 0 (.returnsAt 303)) = some sampleIntent := by
    decide +kernel
  have hfound : (run World.step { tracker := sampleTracker }
      overtakenRun).tracker.find sampleIntent.key =
        some { sampleIssue with
          state := some .needsAnswer
          authorityVersion := "" } := by
    decide +kernel
  have hfenced := hsteps.right.left sampleIntent _ hwritten hfound
  revert hfenced
  decide +kernel

end TaskTransitions
end Oompah
