import Oompah.TaskTransitions.Soundness

/-!
# Agents

An agent is an execution whose claim is open, or a call that such an execution
left behind.  No two agents have one token.  A fact about the claim and the
stage of every agent is therefore kept by a step if it survives what the others
do, and if it follows the agent through its own calls.
-/

namespace Oompah
namespace TaskTransitions

open Foundation

/-!
# Conditions on calls
-/

/--
A condition on every call that takes effect, with the attempt it is made for and
what the environment chooses, and a condition on every outside edit.
-/
def effective (G : World -> Option (Nat × Nat) -> Request -> Choice -> Bool)
    (E : World -> TaskKey -> Issue -> Bool) (w : World) : WorldStep -> Bool
  | .answer index (.returns choice) =>
    match w.executions[index]? with
    | some e => e.pending.all (fun r => G w e.attempt r choice)
    | none => true
  | .answer index (.lost choice _) =>
    match w.executions[index]? with
    | some e => e.pending.all (fun r => G w e.attempt r choice)
    | none => true
  | .finishDetached position choice =>
    match w.detached[position]? with
    | some call => G w call.attempt call.request choice
    | none => true
  | .edit key issue => E w key issue
  | .submit _ _ _ => true
  | .answer _ (.raises _) => true
  | .answer _ .detaches => true

/-- The part of the world that agents share. -/
structure Shared (w w' : World) : Prop where
  journal : w.journal = w'.journal
  tracker : w.tracker = w'.tracker
  stageCalls : w.stageCalls = w'.stageCalls
  stageMoves : w.stageMoves = w'.stageMoves

theorem performed_takeDetached {w after : World} {position : Nat}
    {attempt : Option (Nat × Nat)} {choice : Choice} {r : Request}
    {value : Answer r}
    (h : Performed (Traced.takeDetached w position) attempt choice r after value) :
    exists after', Performed w attempt choice r after' value ∧ Shared after' after := by
  cases h with
  | begin_ intent leaseTtlSeconds journal begun hbegun =>
    exact ⟨_, Performed.begin_ intent leaseTtlSeconds journal begun hbegun, rfl, rfl, rfl, rfl⟩
  | append transitionId phase reasonCode outcome row hrow =>
    exact ⟨_, Performed.append transitionId phase reasonCode outcome row hrow, rfl, rfl, rfl, rfl⟩
  | release key claimToken released =>
    exact ⟨_, Performed.release key claimToken released, rfl, rfl, rfl, rfl⟩
  | expireForRetry key claimToken retained =>
    exact ⟨_, Performed.expireForRetry key claimToken retained, rfl, rfl, rfl, rfl⟩
  | fetch key => exact ⟨_, Performed.fetch key, rfl, rfl, rfl, rfl⟩
  | fetchChildren parent children =>
    exact ⟨_, Performed.fetchChildren parent children, rfl, rfl, rfl, rfl⟩
  | stageHeld intent issue staged =>
    exact ⟨_, Performed.stageHeld intent issue staged, rfl, rfl, rfl, rfl⟩
  | stageMoved intent issue found staged hmoved hfound =>
    exact ⟨_, Performed.stageMoved intent issue found staged hmoved hfound, rfl, rfl, rfl, rfl⟩
  | update intent after hwritten =>
    rcases hwritten with ⟨found, hfound, rfl⟩
    exact ⟨_, Performed.update intent _ ⟨found, hfound, rfl⟩, rfl, rfl, rfl, rfl⟩
  | commitDirectOwner intent after result hcommitted =>
    rcases hcommitted with rfl | ⟨found, hfound, hfenced, rfl⟩
    · exact ⟨_, Performed.commitDirectOwner intent w result (Or.inl rfl), rfl, rfl, rfl, rfl⟩
    · exact ⟨_, Performed.commitDirectOwner intent _ result
        (Or.inr ⟨found, hfound, hfenced, rfl⟩), rfl, rfl, rfl, rfl⟩
  | commitGuarded intent after result hcommitted =>
    rcases hcommitted with rfl | ⟨found, hfound, hfenced, rfl⟩
    · exact ⟨_, Performed.commitGuarded intent w result (Or.inl rfl), rfl, rfl, rfl, rfl⟩
    · exact ⟨_, Performed.commitGuarded intent _ result
        (Or.inr ⟨found, hfound, hfenced, rfl⟩), rfl, rfl, rfl, rfl⟩

/-!
# Facts about agents
-/

/-- A stage from which an execution still works under its token. -/
def Stage.Live (s : Stage) : Prop :=
  s ≠ .broken ∧ s ≠ .settled

/-- A claim that a pending request works on. -/
structure Working (w : World) (e : Execution) (σ : Progress) (c : Claimed)
    (stage : Stage) (r : Request) : Prop where
  linked : Linked w.journal e σ
  claim : σ.claim? = some (c, stage)
  allowed : stage.allows e.service c r

/-- A fact holds of the claim, the stage and the request of every agent. -/
structure EveryAgent (x : Traced)
    (L : World -> Claimed -> Stage -> Request -> Prop) : Prop where
  live : forall (i : Nat) (e : Execution) (c : Claimed) (stage : Stage)
    (r : Request), x.world.executions[i]? = some e ->
    (x.progress i).claim? = some (c, stage) -> stage.Live ->
    e.pending = some r -> L x.world c stage r
  left : forall call, call ∈ x.world.detached -> call.request.Body call.attempt ->
    exists e σ c stage, e.attempt = call.attempt ∧
      Working x.world e σ c stage call.request ∧ L x.world c stage call.request

/-- A fact about agents whatever they ask for. -/
abbrev AnyRequest (L : World -> Claimed -> Stage -> Prop) (w : World)
    (c : Claimed) (stage : Stage) (_ : Request) : Prop :=
  L w c stage

/-- A request is pending for an attempt, or was left behind by one. -/
def Pending (w : World) (attempt : Option (Nat × Nat)) (r : Request) : Prop :=
  (exists (i : Nat) (e : Execution), w.executions[i]? = some e ∧
    e.pending = some r ∧ e.attempt = attempt) ∨
  exists call, call ∈ w.detached ∧ call.request = r ∧ call.attempt = attempt

/-- A call took effect under the condition, or it raised without an effect. -/
def Worked (G : World -> Option (Nat × Nat) -> Request -> Choice -> Bool)
    (w : World) (e : Execution) (r : Request)
    (answer : Except Failure (Answer r)) (after : World) : Prop :=
  (exists choice value, G w e.attempt r choice = true ∧ Performed w e.attempt choice r after value ∧
    (answer = .ok value ∨ exists failure, answer = .error failure)) ∨
  exists failure, answer = .error failure ∧ after = w.called e.attempt r

/-- What keeps a fact about agents through the steps of a run. -/
structure Kept (G : World -> Option (Nat × Nat) -> Request -> Choice -> Bool)
    (E : World -> TaskKey -> Issue -> Bool) (I : World -> Prop)
    (L : World -> Claimed -> Stage -> Request -> Prop) : Prop where
  same : forall {w w' : World} {c : Claimed} {stage : Stage} {own : Request},
    Shared w w' -> L w c stage own -> L w' c stage own
  called : forall {w : World} {attempt : Option (Nat × Nat)} {r : Request}
    {c : Claimed} {stage : Stage} {own : Request}, L w c stage own ->
    L (w.called attempt r) c stage own
  edited : forall {w : World} {key : TaskKey} {issue found : Issue}
    {e : Execution} {σ : Progress} {c : Claimed} {stage : Stage} {r : Request},
    I w -> E w key issue = true -> w.tracker.find key = some found ->
    Working w e σ c stage r -> Pending w e.attempt r -> L w c stage r ->
    L { w with
        tracker := w.tracker.set key
          { issue with state := found.state, projectId := found.projectId } }
      c stage r
  others : forall {w after : World} {r : Request} {value : Answer r}
    {choice : Choice} {e e₀ : Execution} {σ σ₀ : Progress} {c : Claimed}
    {stage : Stage} {own : Request}, w.journal.WellFormed -> I w -> Linked w.journal e σ ->
    σ.claim? = some (c, stage) -> Linked w.journal e₀ σ₀ ->
    Progress.Asks e₀.service e₀.lane e₀.intent σ₀ r ->
    (r.Body e₀.attempt -> forall c₀ stage₀, σ₀.claim? = some (c₀, stage₀) ->
      c₀.claimToken ≠ c.claimToken) ->
    G w e₀.attempt r choice = true ->
    Performed w e₀.attempt choice r after value -> L w c stage own ->
    L after c stage own
  works : forall {w after : World} {e : Execution} {σ : Progress} {c : Claimed}
    {old : Stage} {r : Request} {answer : Except Failure (Answer r)},
    w.journal.WellFormed -> I w -> Working w e σ c old r ->
    Worked G w e r answer after ->
    (old.next e.service r answer).Live -> L w c old r ->
    forall next, L after c (old.next e.service r answer) next
  starts : forall {w after : World} {e e' : Execution} {σ : Progress} {ttl : Int}
    {choice : Choice} {begun : BeginResult} {c : Claimed},
    w.journal.WellFormed -> I w ->
    G w e.attempt (.begin_ e.intent ttl) choice = true ->
    TransitionJournal.Begun w.journal e.intent choice.now ttl after.journal begun ->
    after.tracker = w.tracker -> after.stageCalls = w.stageCalls ->
    after.stageMoves = w.stageMoves -> Linked after.journal e' σ ->
    σ.claim? = some (c, .reading) -> Starts e begun c ->
    forall next, L after c .reading next

/-!
# Reads and events before a write
-/

/-- A read of an issue of the service's project. -/
inductive Reads (service : TaskTransitionService) :
    (r : Request) -> Except Failure (Answer r) -> Option Issue -> Prop
  | fetched (key : TaskKey) (found : Option Issue) : Reads service (.fetch key) (.ok found)
        (found.map (fun issue => issue.inProject service.projectId))

/-- The event before a write is journaled. -/
inductive Applies : (r : Request) -> Except Failure (Answer r) -> Prop
  | appended (transitionId : Nat) (reasonCode : String) (outcome : Option TransitionOutcome) :
      Applies (.append transitionId .applying reasonCode outcome) (.ok ())

section Stages

variable {service : TaskTransitionService} {s : Stage} {r : Request}
  {answer : Except Failure (Answer r)}

/-- What an execution decides on is what it read. -/
theorem Stage.next_deciding {issue : Option Issue} (h : s.next service r answer = .deciding issue) :
    (s = .deciding issue ∧ exists parent, r = .fetchChildren parent) ∨
      issue = none ∨ s = .reading ∧ Reads service r answer issue := by
  revert h
  fun_cases Stage.next service s r answer <;> intro h <;> cases h
  · exact .inr (Or.inr ⟨rfl, Reads.fetched _ _⟩)
  · exact .inr (Or.inl rfl)
  · exact .inl ⟨rfl, _, rfl⟩
  · exact .inl ⟨rfl, _, rfl⟩

theorem Stage.next_ne_reading : s.next service r answer ≠ .reading := by
  fun_cases Stage.next service s r answer <;> simp

theorem Stage.next_applying {issue : Issue} (h : s.next service r answer = .applying issue) :
    s = .deciding (some issue) ∧ Applies r answer := by
  revert h
  fun_cases Stage.next service s r answer <;> intro h <;> cases h
  exact ⟨rfl, Applies.appended _ _ _⟩

theorem Reads.found {w after : World} {G : World -> Option (Nat × Nat) -> Request -> Choice -> Bool}
    {e : Execution} {σ : Progress} {c : Claimed} {issue : Option Issue}
    (h : Reads e.service r answer issue) (hworking : Working w e σ c .reading r)
    (hworked : Worked G w e r answer after) :
    (exists choice, G w e.attempt (.fetch c.intent.key) choice = true) ∧ after.tracker = w.tracker ∧
      issue = (w.tracker.find c.intent.key).map
        (fun found => found.inProject e.service.projectId) := by
  have hbacked := hworking.linked.backed hworking.claim
  cases h with
  | fetched key found =>
    have hkey : key = c.intent.key := by
      rw [show key = _ from hworking.allowed, ← hbacked.project]
      rfl
    subst hkey
    rcases hworked with ⟨choice, value, hguard, hperformed, hanswer⟩ | ⟨failure, hanswer, _⟩
    · have hvalue : found = value := by
        rcases hanswer with hvalue | ⟨failure, hvalue⟩
        · cases hvalue
          rfl
        · cases hvalue
      subst hvalue
      cases hperformed with
      | fetch key => exact ⟨⟨choice, hguard⟩, rfl, rfl⟩
    · cases hanswer

end Stages

/-!
# Steps of a world with agents
-/

section Steps

variable {G : World -> Option (Nat × Nat) -> Request -> Choice -> Bool}
  {E : World -> TaskKey -> Issue -> Bool} {I : World -> Prop}
  {L : World -> Claimed -> Stage -> Request -> Prop} {x : Traced}

variable {e : Execution} {c : Claimed} {stage : Stage}

/-- A live stage is not the end of a protocol: a request is pending. -/
theorem Sound.pending_of_live (hsound : Sound x) {i : Nat}
    (hindex : x.world.executions[i]? = some e)
    (hclaim : (x.progress i).claim? = some (c, stage)) (hlive : stage.Live) :
    exists r resume, e.program = .request r resume ∧ stage.allows e.service c r := by
  have hfollows := hsound.follows i e hindex
  have hunfinished : ¬ (x.progress i).Finished := by
    intro hfinished
    generalize x.progress i = σ at hclaim hfinished
    cases σ with
    | starting => cases hclaim
    | recovering c' stage' waiting =>
      cases hclaim
      cases stage with
      | settled => exact hlive.right rfl
      | _ => exact hfinished
    | running c' stage' =>
      cases hclaim
      cases stage with
      | settled => exact hlive.right rfl
      | _ => exact hfinished
    | finished => cases hclaim
  cases hprogram : e.program with
  | done value =>
    rw [hprogram] at hfollows
    exact absurd hfollows hunfinished
  | raise failure =>
    rw [hprogram] at hfollows
    exact absurd hfollows hunfinished
  | request r resume =>
    refine ⟨r, resume, rfl, ?_⟩
    have hasks := hsound.asks hindex hprogram
    generalize x.progress i = σ at hclaim hasks
    cases hasks with
    | begins σ hσ hadmits =>
      rcases hσ with rfl | ⟨c', waiting, rfl⟩
      · cases hclaim
      · cases hclaim
        exact absurd rfl hlive.right
    | notes c' waiting reasonCode outcome houtcome =>
      cases hclaim
      exact absurd rfl hlive.right
    | works σ c' stage' r hclaim' hstage =>
      rw [hclaim] at hclaim'
      cases hclaim'
      exact hstage

variable {after : World}

theorem EveryAgent.calm (h : EveryAgent x L) (hexecutions : after.executions = x.world.executions)
    (hdetached : after.detached.Sublist x.world.detached)
    (hgrows : Grows x.world.journal after.journal)
    (hlive : forall (i : Nat) (e : Execution) (c : Claimed) (stage : Stage)
      (r : Request), x.world.executions[i]? = some e ->
      (x.progress i).claim? = some (c, stage) -> stage.Live ->
      e.pending = some r -> L x.world c stage r -> L after c stage r)
    (hleft : forall call, call ∈ after.detached ->
      call.request.Body call.attempt -> forall e σ c stage,
      e.attempt = call.attempt -> Working x.world e σ c stage call.request ->
      L x.world c stage call.request -> L after c stage call.request) :
    EveryAgent { world := after, progress := x.progress } L where
  live := by
    intro i e c stage r hindex hclaim hstage hpending
    have hindex : after.executions[i]? = some e := hindex
    rw [hexecutions] at hindex
    exact hlive i e c stage r hindex hclaim hstage hpending
      (h.live i e c stage r hindex hclaim hstage hpending)
  left := by
    intro call hcall hbody
    rcases h.left call (hdetached.subset hcall) hbody with
      ⟨e, σ, c, stage, hattempt, hworking, hfact⟩
    exact ⟨e, σ, c, stage, hattempt,
      ⟨hworking.linked.grows hgrows, hworking.claim, hworking.allowed⟩,
      hleft call hcall hbody e σ c stage hattempt hworking hfact⟩

variable {r : Request} {call : DetachedRequest}

theorem Working.token {w : World} {σ : Progress}
    (h : Working w e σ c stage r) (hattempt : e.attempt = call.attempt) :
    call.token = some c.claimToken := by
  unfold DetachedRequest.token
  rw [← hattempt, (h.linked.backed h.claim).attempt]
  rfl

theorem EveryAgent.finished (hsound : Sound x) (hkept : Kept G E I L) (hworld : I x.world)
    (h : EveryAgent x L) {position : Nat} {choice : Choice} {value : Answer r}
    (hcall : x.world.detached[position]? = some call) (hrequest : call.request = r)
    (hguard : G x.world call.attempt call.request choice = true)
    (hperformed : Performed (Traced.takeDetached x.world position) call.attempt
      choice r after value) :
    EveryAgent { world := after, progress := x.progress } L := by
  subst hrequest
  have hmem := List.mem_of_getElem? hcall
  rcases hsound.snapshots call hmem with
    ⟨e₀, σ₀, hservice, hattempt, hlinked₀, hasks₀⟩
  rcases performed_takeDetached hperformed with ⟨after', hperformed', hshared⟩
  rw [← hattempt] at hguard hperformed'
  have htoken : forall c₀ stage₀, σ₀.claim? = some (c₀, stage₀) ->
      call.token = some c₀.claimToken := by
    intro c₀ stage₀ hclaim₀
    unfold DetachedRequest.token
    rw [← hattempt, (hlinked₀.backed hclaim₀).attempt]
    rfl
  apply h.calm hperformed.executions
  · rw [hperformed.detached]
    exact List.eraseIdx_sublist _ _
  · exact Performed.grows (w := Traced.takeDetached x.world position) hsound.wellFormed hperformed
  · intro i e c stage own hindex hclaim hlive _ hfact
    apply hkept.same hshared
    refine hkept.others hsound.wellFormed hworld (hsound.linked i e hindex) hclaim
      hlinked₀ hasks₀ ?_ hguard hperformed' hfact
    intro _ c₀ stage₀ hclaim₀ hsame
    rcases (hsound.last call hmem _ (htoken c₀ stage₀ hclaim₀) i e c stage hindex
      hclaim hsame.symm).right with hbroken | hsettled
    · exact hlive.left hbroken
    · exact hlive.right hsettled
  · intro other hother hbody e σ c stage hattemptOther hworking hfact
    apply hkept.same hshared
    refine hkept.others hsound.wellFormed hworld hworking.linked hworking.claim hlinked₀
      hasks₀ ?_ hguard hperformed' hfact
    intro hbody₀ c₀ stage₀ hclaim₀ hsame
    rw [hperformed.detached] at hother
    have htokenOther := hworking.token hattemptOther
    rw [← hsame] at htokenOther
    apply (hsound.exclusive_of hcall hother (htoken c₀ stage₀ hclaim₀) htokenOther).right
    exact ⟨hattempt ▸ hbody₀, hbody⟩

section Answers

variable {w after : World} {e : Execution} {σ : Progress} {r : Request}
  {resolution : Resolution} {answer : Except Failure (Answer r)}

/-- The condition on a call, for the answers that let it take effect. -/
def Lets (G : World -> Option (Nat × Nat) -> Request -> Choice -> Bool) (w : World)
    (e : Execution) (r : Request) : Resolution -> Prop
  | .returns choice => G w e.attempt r choice = true
  | .lost choice _ => G w e.attempt r choice = true
  | .raises _ => True
  | .detaches => True

variable {c : Claimed}

theorem Kept.unanswered (hkept : Kept G E I L) (hj : w.journal.WellFormed) (hworld : I w)
    (hlinked : Linked w.journal e σ) (hasks : Progress.Asks e.service e.lane e.intent σ r)
    (hresolved : Resolved w e r resolution after answer)
    (hguard : Lets G w e r resolution) {e' : Execution} {σ' : Progress}
    {stage : Stage} (hlinked' : Linked w.journal e' σ') (hclaim : σ'.claim? = some (c, stage))
    (hapart : r.Body e.attempt -> forall c₀ stage₀,
      σ.claim? = some (c₀, stage₀) -> c₀.claimToken ≠ c.claimToken)
    {own : Request} (hfact : L w c stage own) : L after c stage own := by
  cases hresolved with
  | returned choice after value hperformed =>
    exact hkept.others hj hworld hlinked' hclaim hlinked hasks hapart hguard hperformed hfact
  | failed resolution failure => exact hkept.called hfact
  | lost choice raised after value hwrites hperformed =>
    exact hkept.others hj hworld hlinked' hclaim hlinked hasks hapart hguard hperformed hfact
  | detached =>
    refine hkept.same (w := w) ?_ hfact
    exact ⟨rfl, rfl, rfl, rfl⟩

theorem Kept.answeredWork (hkept : Kept G E I L) (hj : w.journal.WellFormed) (hworld : I w)
    {old : Stage} (hworking : Working w e σ c old r)
    (hresolved : Resolved w e r resolution after answer) (hguard : Lets G w e r resolution)
    (hlive : (old.next e.service r answer).Live) (hfact : L w c old r)
    (next : Request) : L after c (old.next e.service r answer) next := by
  cases hresolved with
  | returned choice after value hperformed =>
    exact hkept.works hj hworld hworking
      (Or.inl ⟨choice, value, hguard, hperformed, Or.inl rfl⟩) hlive hfact next
  | failed resolution failure =>
    exact hkept.works hj hworld hworking (Or.inr ⟨failure, rfl, rfl⟩) hlive hfact next
  | lost choice raised after value hwrites hperformed =>
    exact hkept.works hj hworld hworking
      (Or.inl ⟨choice, value, hguard, hperformed, Or.inr ⟨_, rfl⟩⟩) hlive hfact next
  | detached =>
    have hcancelled : old.next e.service r (.error { raised := .cancelled }) = .broken ∨
          old.next e.service r (.error { raised := .cancelled }) = .settled :=
      Stage.next_cancelled old r
    rcases hcancelled with hbroken | hsettled
    · exact absurd hbroken hlive.left
    · exact absurd hsettled hlive.right

theorem Kept.answeredBegin (hkept : Kept G E I L) (hj : w.journal.WellFormed) (hworld : I w)
    (hlinked : Linked w.journal e σ) (hasks : Progress.Asks e.service e.lane e.intent σ r)
    (hresolved : Resolved w e r resolution after answer)
    (hguard : Lets G w e r resolution) (hr : r.begins = true) {e' : Execution}
    (hlinked' : Linked after.journal e' (σ.next e.service e.lane e.intent r answer))
    (hclaim : (σ.next e.service e.lane e.intent r answer).claim? =
      some (c, .reading)) (next : Request) : L after c .reading next := by
  have hfails : forall failure, answer = .error failure -> False := by
    intro failure hanswer
    subst hanswer
    cases hasks with
    | begins σ hσ hadmits =>
      rcases hσ with rfl | ⟨c', waiting, rfl⟩
      · cases hclaim
      · cases hclaim
    | notes => cases hr
    | works σ c' stage r hclaim' hstage =>
      rw [begins_of_stage hstage] at hr
      cases hr
  cases hresolved with
  | returned choice after value hperformed =>
    cases hasks with
    | begins σ hσ hadmits =>
      cases hperformed with
      | begin_ _ _ journal begun hbegun =>
        have hstarts := (starts_of_next hlinked (Progress.Asks.begins σ hσ hadmits) hclaim).left
        apply hkept.starts hj hworld hguard hbegun _ _ _ hlinked' hclaim hstarts
        · rfl
        · rfl
        · rfl
    | notes => cases hr
    | works σ c' stage r hclaim' hstage =>
      rw [begins_of_stage hstage] at hr
      cases hr
  | failed resolution failure => exact (hfails failure rfl).elim
  | lost choice raised after value hwrites hperformed => exact (hfails _ rfl).elim
  | detached => exact (hfails _ rfl).elim

end Answers

variable {resolution : Resolution} {answer : Except Failure (Answer r)}

theorem Kept.left (hkept : Kept G E I L) {w after : World}
    (hresolved : Resolved w e r resolution after answer)
    (hmore : after.detached = w.detached ++ [call])
    {own : Request} (hfact : L w c stage own) : L after c stage own := by
  have hnever : after.detached ≠ w.detached := by
    rw [hmore]
    simp
  cases hresolved with
  | returned choice after value hperformed => exact absurd hperformed.detached hnever
  | failed resolution failure =>
    exact absurd (w.called_eq e.attempt r).right.right.left hnever
  | lost choice raised after value hwrites hperformed =>
    exact absurd hperformed.detached hnever
  | detached =>
    refine hkept.same (w := w) ?_ hfact
    exact ⟨rfl, rfl, rfl, rfl⟩

/-- A call under a token is a step of a live claim. -/
theorem Sound.working_of_body (hsound : Sound x) {index : Nat}
    (hindex : x.world.executions[index]? = some e)
    (hasks : Progress.Asks e.service e.lane e.intent (x.progress index) r)
    (hbody : r.Body e.attempt) :
    exists c stage, Working x.world e (x.progress index) c stage r ∧ stage.Live := by
  have hlinked := hsound.linked index e hindex
  have hopen : ¬ (x.progress index).Closed := by
    intro hclosed
    exact not_body_of_closed hlinked hclosed hasks hbody
  generalize x.progress index = σ at hlinked hasks hopen
  cases hasks with
  | begins σ hσ hadmits => exact hbody.elim
  | notes c waiting reasonCode outcome houtcome =>
    exfalso
    apply hopen
    intro c' stage hclaim
    cases hclaim
    exact .inr rfl
  | works σ c stage r hclaim hstage =>
    refine ⟨c, stage, ⟨hlinked, hclaim, hstage⟩, ?_⟩
    constructor
    · intro hbroken
      apply hopen
      intro c' stage' hclaim'
      rw [hclaim] at hclaim'
      cases hclaim'
      exact .inl hbroken
    · intro hsettled
      apply hopen
      intro c' stage' hclaim'
      rw [hclaim] at hclaim'
      cases hclaim'
      exact .inr hsettled

theorem EveryAgent.answered (hsound : Sound x) (hkept : Kept G E I L) (hworld : I x.world)
    (h : EveryAgent x L) {index : Nat}
    {resume : Except Failure (Answer r) -> Saga TransitionOutcome}
    (hindex : x.world.executions[index]? = some e) (hprogram : e.program = .request r resume)
    (hresolve : x.world.resolve e r resolution = some (after, answer))
    (hguard : Lets G x.world e r resolution) :
    EveryAgent (x.advance index after { e.answered r answer with program := resume answer }
      ((x.progress index).next e.service e.lane e.intent r answer)) L := by
  have hresolved := resolve_eq_some hresolve
  have hasked : e.pending = some r := by
    unfold Execution.pending
    rw [hprogram]
  have hasks := hsound.asks hindex hprogram
  have hlinked := hsound.linked index e hindex
  have hadvanced := advanced hsound.wellFormed hlinked hasks hresolved (resume answer)
  have hshared : Shared after (after.setExecution index
      { e.answered r answer with program := resume answer }) := ⟨rfl, rfl, rfl, rfl⟩
  constructor
  · intro i e' c stage own hi hclaim hlive hpending
    apply hkept.same hshared
    rcases Traced.advance_cases hindex hresolved.executions hi with
      ⟨rfl, rfl, hσ⟩ | ⟨hne, hold, hσ⟩
    · rw [hσ] at hclaim
      rcases hadvanced.claim c stage hclaim with
        ⟨old, hbefore, hstage, rfl⟩ | ⟨hbegins, _, rfl⟩
      · have hwas : old.Live := by
          constructor
          · rintro rfl
            have hclosed : Stage.broken.next e.service r answer = .broken ∨
                  Stage.broken.next e.service r answer = .settled :=
              Stage.next_closed (Or.inl rfl) hstage
            rcases hclosed with hbroken | hsettled
            · exact hlive.left hbroken
            · exact hlive.right hsettled
          · rintro rfl
            exact hstage
        exact hkept.answeredWork hsound.wellFormed hworld ⟨hlinked, hbefore, hstage⟩
          hresolved hguard hlive (h.live i e c old r hindex hbefore hwas hasked) own
      · exact hkept.answeredBegin hsound.wellFormed hworld hlinked hasks hresolved hguard
          hbegins hadvanced.linked hclaim own
    · rw [hσ] at hclaim
      apply hkept.unanswered hsound.wellFormed hworld hlinked hasks hresolved hguard
        (hsound.linked i e' hold) hclaim
      · intro _ c₀ stage₀ hclaim₀ hsame
        exact hne (hsound.distinct i index e' e c c₀ stage stage₀ hold hindex
          hclaim hclaim₀ hsame.symm)
      · exact h.live i e' c stage own hold hclaim hlive hpending
  · intro call hcall hbody
    have hgrows := (hresolved.journal hsound.wellFormed hasks).right
    have hcall : call ∈ after.detached := hcall
    have hold : call ∈ x.world.detached -> exists e' σ c stage, e'.attempt = call.attempt ∧
          Working (after.setExecution index
            { e.answered r answer with program := resume answer }) e' σ c stage
            call.request ∧
          L (after.setExecution index { e.answered r answer with program := resume answer }) c stage
            call.request := by
      intro hmem
      rcases h.left call hmem hbody with
        ⟨e', σ, c, stage, hattempt, hworking, hfact⟩
      refine ⟨e', σ, c, stage, hattempt,
        ⟨hworking.linked.grows hgrows, hworking.claim, hworking.allowed⟩,
        hkept.same hshared ?_⟩
      apply hkept.unanswered hsound.wellFormed hworld hlinked hasks hresolved hguard
        hworking.linked hworking.claim
      · intro hbody₀ c₀ stage₀ hclaim₀ hsame
        have hclosed : (x.progress index).Closed := by
          intro c₁ stage₁ hclaim₁
          rw [hclaim₀] at hclaim₁
          cases hclaim₁
          exact (hsound.last call hmem c.claimToken (hworking.token hattempt) index e
            c₀ stage₀ hindex hclaim₀ hsame).right
        exact not_body_of_closed hlinked hclosed hasks hbody₀
      · exact hfact
    rcases hresolved.detachedCalls with hsame | ⟨_, hmore⟩
    · rw [hsame] at hcall
      exact hold hcall
    · rw [hmore] at hcall
      rcases List.mem_append.mp hcall with hmem | hnew
      · exact hold hmem
      · rw [List.mem_singleton] at hnew
        subst hnew
        rcases hsound.working_of_body hindex hasks hbody with
          ⟨c, stage, hworking, hlive⟩
        refine ⟨e, x.progress index, c, stage, rfl,
          ⟨hworking.linked.grows hgrows, hworking.claim, hworking.allowed⟩,
          hkept.same hshared ?_⟩
        apply hkept.left hresolved hmore
        exact h.live index e c stage r hindex hworking.claim hlive hasked

theorem EveryAgent.submitted (h : EveryAgent x L) (hkept : Kept G E I L)
    (service : TaskTransitionService) (lane : Lane) (intent : TransitionIntent) :
    EveryAgent (x.submit service lane intent) L where
  live := by
    intro i e c stage r hi hclaim hlive hpending
    have hshared : Shared x.world (x.submit service lane intent).world :=
      ⟨rfl, rfl, rfl, rfl⟩
    apply hkept.same hshared
    rcases Traced.submit_cases hi with ⟨hold, hσ⟩ | ⟨_, _, _, hσ⟩
    · rw [hσ] at hclaim
      exact h.live i e c stage r hold hclaim hlive hpending
    · rw [hσ] at hclaim
      cases hclaim
  left := by
    intro call hcall hbody
    rcases h.left call hcall hbody with
      ⟨e, σ, c, stage, hattempt, hworking, hfact⟩
    have hshared : Shared x.world (x.submit service lane intent).world :=
      ⟨rfl, rfl, rfl, rfl⟩
    exact ⟨e, σ, c, stage, hattempt, ⟨hworking.linked, hworking.claim, hworking.allowed⟩,
      hkept.same hshared hfact⟩

theorem EveryAgent.step (hsound : Sound x) (hkept : Kept G E I L) (hworld : I x.world)
    (h : EveryAgent x L) (s : WorldStep) (hguard : effective G E x.world s = true) :
    EveryAgent (x.step s) L := by
  have hmoved := x.moved_step s
  generalize x.step s = x' at hmoved
  cases hmoved with
  | idle => exact h
  | submitted service lane intent => exact h.submitted hkept service lane intent
  | answered index resolution e r resume after answer hindex hprogram hresolve =>
    apply h.answered hsound hkept hworld hindex hprogram hresolve
    cases resolution with
    | returns choice =>
      show G x.world e.attempt r choice = true
      simpa [effective, hindex, Execution.pending, hprogram] using hguard
    | lost choice raised =>
      show G x.world e.attempt r choice = true
      simpa [effective, hindex, Execution.pending, hprogram] using hguard
    | raises raised => trivial
    | detaches => trivial
  | finished position choice call r after value hcall hrequest hperformed =>
    apply h.finished hsound hkept hworld hcall hrequest _ hperformed
    simpa [effective, hcall] using hguard
  | dropped position choice =>
    have hshared : Shared x.world (Traced.takeDetached x.world position) :=
      ⟨rfl, rfl, rfl, rfl⟩
    apply h.calm
    · rfl
    · exact List.eraseIdx_sublist _ _
    · exact Grows.refl _
    · intro i e c stage r hindex hclaim hlive _ hfact
      exact hkept.same hshared hfact
    · intro call hcall hbody e σ c stage hattempt hworking hfact
      exact hkept.same hshared hfact
  | edited key issue found hfound =>
    apply h.calm
    · rfl
    · exact List.Sublist.refl _
    · exact Grows.refl _
    · intro i e c stage r hindex hclaim hlive hpending hfact
      rcases hsound.pending_of_live hindex hclaim hlive with
        ⟨r', resume, hprogram, hstage⟩
      have hsame : r' = r := by
        unfold Execution.pending at hpending
        rw [hprogram] at hpending
        exact Option.some.inj hpending
      subst hsame
      exact hkept.edited hworld hguard hfound ⟨hsound.linked i e hindex, hclaim, hstage⟩
        (Or.inl ⟨i, e, hindex, hpending, rfl⟩) hfact
    · intro call hcall hbody e σ c stage hattempt hworking hfact
      exact hkept.edited hworld hguard hfound hworking
        (Or.inr ⟨call, hcall, rfl, hattempt.symm⟩) hfact

theorem EveryAgent.start (tracker : Tracker) :
    EveryAgent { world := { tracker := tracker }, progress := fun _ => .starting } L where
  live := by
    intro i e c stage r hindex
    cases hindex
  left := by
    intro call hcall
    cases hcall

/-- Guarded runs keep the facts about agents and the fact they rest on. -/
theorem everyAgent_run (hkept : Kept G E I L)
    (hstep : forall x s, Sound x -> EveryAgent x L -> I x.world ->
      effective G E x.world s = true -> I (x.step s).world)
    (tracker : Tracker) (hstart : I { tracker := tracker })
    (steps : List WorldStep)
    (hguard : Guarded World.step (fun w s => effective G E w s = true)
      { tracker := tracker } steps) :
    exists x : Traced, x.world = run World.step { tracker := tracker } steps ∧
      Sound x ∧ EveryAgent x L ∧ I x.world := by
  refine ⟨run Traced.step { world := { tracker := tracker }
                            progress := fun _ => .starting } steps,
    Traced.run_world _ steps, ?_⟩
  apply guarded_invariant_run (I := fun x => Sound x ∧ EveryAgent x L ∧ I x.world) _ _
    (Traced.guarded_world { world := { tracker := tracker }
                            progress := fun _ => .starting } steps hguard)
  · rintro x s ⟨hsound, hagents, hworld⟩ hs
    exact ⟨hsound.step s, hagents.step hsound hkept hworld s hs, hstep x s hsound hagents hworld hs⟩
  · exact ⟨Sound.start tracker, EveryAgent.start tracker, hstart⟩

/-- What the facts give of a guarded step holds along guarded runs. -/
theorem everyAgent_steps (hkept : Kept G E I L)
    (hstep : forall x s, Sound x -> EveryAgent x L -> I x.world ->
      effective G E x.world s = true -> I (x.step s).world)
    {goal : World -> WorldStep -> Prop}
    (hgoal : forall x s, Sound x -> EveryAgent x L -> I x.world ->
      effective G E x.world s = true -> goal x.world s)
    (tracker : Tracker) (hstart : I { tracker := tracker })
    (steps : List WorldStep)
    (hguard : Guarded World.step (fun w s => effective G E w s = true)
      { tracker := tracker } steps) :
    Guarded World.step goal { tracker := tracker } steps := by
  apply Traced.guarded_trace { world := { tracker := tracker }
                               progress := fun _ => .starting }
  apply guarded_invariant_imp (I := fun x => Sound x ∧ EveryAgent x L ∧ I x.world) _ _ _
    (Traced.guarded_world { world := { tracker := tracker }
                            progress := fun _ => .starting } steps hguard)
  · rintro x s ⟨hsound, hagents, hworld⟩ hs
    exact ⟨hsound.step s, hagents.step hsound hkept hworld s hs, hstep x s hsound hagents hworld hs⟩
  · rintro x s ⟨hsound, hagents, hworld⟩ hs
    exact hgoal x s hsound hagents hworld hs
  · exact ⟨Sound.start tracker, EveryAgent.start tracker, hstart⟩

end Steps
end TaskTransitions
end Oompah
