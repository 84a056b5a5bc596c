import Mathlib.Data.Set.Subsingleton
import Oompah.TaskTransitions.Effects
import Oompah.TaskTransitions.Sagas

/-!
# Traced runs

A trace keeps beside every execution of a world how far it came in its protocol.
`Sound` collects what holds in every run, whatever the environment does: which
transition an execution works on, that its token was issued to it alone, and
that a cancelled call was the last one its execution made.
-/

namespace Oompah
namespace TaskTransitions

open Foundation
open Progress (ofBegun ofFirstBegun)

/-!
# Traces
-/

structure Traced where
  world : World
  progress : Nat -> Progress

variable {lane : Lane}

namespace Traced

def step (x : Traced) (s : WorldStep) : Traced where
  world := x.world.step s
  progress :=
    match s with
    | .submit _ _ _ =>
      Function.update x.progress x.world.executions.length .starting
    | .answer index resolution =>
      match x.world.executions[index]? with
      | some e =>
        match e.program with
        | .request r _ =>
          match x.world.resolve e r resolution with
          | some (_, answer) =>
            Function.update x.progress index
              ((x.progress index).next e.service e.lane e.intent r answer)
          | none => x.progress
        | .done _ | .raise _ => x.progress
      | none => x.progress
    | .finishDetached _ _ | .edit _ _ => x.progress

theorem run_world (x : Traced) (steps : List WorldStep) :
    (run step x steps).world = run World.step x.world steps := by
  induction steps generalizing x with
  | nil => rfl
  | cons s rest ih => exact ih (x.step s)

theorem guarded_world {guard : World -> WorldStep -> Prop} (x : Traced)
    (steps : List WorldStep) (h : Guarded World.step guard x.world steps) :
    Guarded step (fun x s => guard x.world s) x steps := by
  induction steps generalizing x with
  | nil => trivial
  | cons s rest ih => exact ⟨h.left, ih (x.step s) h.right⟩

theorem guarded_trace {guard : World -> WorldStep -> Prop} (x : Traced) (steps : List WorldStep)
    (h : Guarded step (fun x s => guard x.world s) x steps) :
    Guarded World.step guard x.world steps := by
  induction steps generalizing x with
  | nil => trivial
  | cons s rest ih => exact ⟨h.left, ih (x.step s) h.right⟩

/-- A new execution has not begun. -/
def submit (x : Traced) (service : TaskTransitionService) (lane : Lane)
    (intent : TransitionIntent) : Traced where
  world :=
    { x.world with
      executions := x.world.executions ++
        [{ service := service
           lane := lane
           intent := intent
           program := submission service lane intent }] }
  progress := Function.update x.progress x.world.executions.length .starting

/-- One execution goes on, in the world its call left behind. -/
def advance (x : Traced) (index : Nat) (after : World) (e : Execution) (σ : Progress) : Traced where
  world := after.setExecution index e
  progress := Function.update x.progress index σ

theorem submit_cases {x : Traced} {service : TaskTransitionService}
    {intent : TransitionIntent} {i : Nat} {e : Execution}
    (h : (x.submit service lane intent).world.executions[i]? = some e) :
    (x.world.executions[i]? = some e ∧ (x.submit service lane intent).progress i = x.progress i) ∨
    (e.program = submission e.service e.lane e.intent ∧ e.begun = none ∧ e.untouched = false ∧
      (x.submit service lane intent).progress i = .starting) := by
  have hindex : (x.world.executions ++
      [{ service := service
         lane := lane
         intent := intent
         program := submission service lane intent }])[i]? = some e := h
  by_cases hlt : i < x.world.executions.length
  · rw [List.getElem?_append_left hlt] at hindex
    exact .inl ⟨hindex, Function.update_of_ne (Nat.ne_of_lt hlt) _ _⟩
  · rw [List.getElem?_append_right (Nat.le_of_not_lt hlt), List.getElem?_singleton] at hindex
    split at hindex
    · cases hindex
      have hi : i = x.world.executions.length := by omega
      subst hi
      exact .inr ⟨rfl, rfl, rfl, Function.update_self _ _ _⟩
    · cases hindex

theorem advance_cases {x : Traced} {index i : Nat} {after : World}
    {e d o : Execution} {σ : Progress}
    (hindex : x.world.executions[index]? = some e)
    (hafter : after.executions = x.world.executions)
    (h : (x.advance index after d σ).world.executions[i]? = some o) :
    (i = index ∧ o = d ∧ (x.advance index after d σ).progress i = σ) ∨
    (i ≠ index ∧ x.world.executions[i]? = some o ∧
      (x.advance index after d σ).progress i = x.progress i) := by
  have hlt := (List.getElem?_eq_some_iff.mp hindex).1
  have h : (after.executions.set index d)[i]? = some o := h
  rw [hafter] at h
  by_cases hsame : i = index
  · subst hsame
    rw [List.getElem?_set_self hlt] at h
    exact .inl ⟨rfl, (Option.some.inj h).symm, Function.update_self _ _ _⟩
  · rw [List.getElem?_set_ne (fun heq => hsame heq.symm)] at h
    exact .inr ⟨hsame, h, Function.update_of_ne hsame _ _⟩

/-- A detached call takes effect or is lost. -/
def takeDetached (w : World) (position : Nat) : World :=
  { w with detached := w.detached.eraseIdx position }

/-- How a trace moves. -/
inductive Moved (x : Traced) : WorldStep -> Traced -> Prop
  | idle (s : WorldStep) : Moved x s x
  | submitted (service : TaskTransitionService) (lane : Lane) (intent : TransitionIntent) :
      Moved x (.submit service lane intent) (x.submit service lane intent)
  | answered (index : Nat) (resolution : Resolution) (e : Execution)
      (r : Request) (resume : Except Failure (Answer r) -> Saga TransitionOutcome)
      (after : World) (answer : Except Failure (Answer r))
      (hindex : x.world.executions[index]? = some e)
      (hprogram : e.program = .request r resume)
      (hresolve : x.world.resolve e r resolution = some (after, answer)) :
      Moved x (.answer index resolution) (x.advance index after
          { e.answered r answer with program := resume answer }
          ((x.progress index).next e.service e.lane e.intent r answer))
  | finished (position : Nat) (choice : Choice) (call : DetachedRequest)
      (r : Request) (after : World) (value : Answer r)
      (hcall : x.world.detached[position]? = some call)
      (hrequest : call.request = r)
      (hperformed : Performed (takeDetached x.world position) call.attempt choice r after value) :
      Moved x (.finishDetached position choice) { world := after, progress := x.progress }
  | dropped (position : Nat) (choice : Choice) : Moved x (.finishDetached position choice)
        { world := takeDetached x.world position, progress := x.progress }
  | edited (key : TaskKey) (issue found : Issue) (hfound : x.world.tracker.find key = some found) :
      Moved x (.edit key issue)
        { world :=
            { x.world with
              tracker := x.world.tracker.set key
                { issue with
                  state := found.state
                  projectId := found.projectId } }
          progress := x.progress }

theorem moved_step (x : Traced) (s : WorldStep) : Moved x s (x.step s) := by
  cases s with
  | submit service lane intent => exact Moved.submitted service lane intent
  | answer index resolution =>
    cases hindex : x.world.executions[index]? with
    | none =>
      have hsame : x.step (.answer index resolution) = x := by
        simp only [step, World.step, hindex]
      rw [hsame]
      exact Moved.idle _
    | some e =>
      cases hprogram : e.program with
      | done value =>
        have hsame : x.step (.answer index resolution) = x := by
          simp only [step, World.step, hindex, hprogram]
        rw [hsame]
        exact Moved.idle _
      | raise failure =>
        have hsame : x.step (.answer index resolution) = x := by
          simp only [step, World.step, hindex, hprogram]
        rw [hsame]
        exact Moved.idle _
      | request r resume =>
        cases hresolve : x.world.resolve e r resolution with
        | none =>
          have hsame : x.step (.answer index resolution) = x := by
            simp only [step, World.step, hindex, hprogram, hresolve]
          rw [hsame]
          exact Moved.idle _
        | some resolved =>
          have hmoved := Moved.answered (x := x) index resolution e r
            resume resolved.1 resolved.2 hindex hprogram hresolve
          simp only [step, World.step, hindex, hprogram, hresolve]
          exact hmoved
  | finishDetached position choice =>
    cases hcall : x.world.detached[position]? with
    | none =>
      have hsame : x.step (.finishDetached position choice) = x := by
        simp only [step, World.step, hcall]
      rw [hsame]
      exact Moved.idle _
    | some call =>
      simp only [step, World.step, hcall]
      rcases perform_cases (takeDetached x.world position) call.service
        call.attempt choice call.request with
        ⟨value, _, hperformed⟩ | ⟨_, hafter, _⟩
      · exact Moved.finished position choice call _ _ value hcall rfl hperformed
      · have hdropped := Moved.dropped (x := x) position choice
        rw [← hafter] at hdropped
        exact hdropped
  | edit key issue =>
    cases hfound : x.world.tracker.find key with
    | none =>
      have hsame : x.step (.edit key issue) = x := by simp only [step, World.step, hfound]
      rw [hsame]
      exact Moved.idle _
    | some found =>
      simp only [step, World.step, hfound]
      exact Moved.edited key issue found hfound

end Traced

/-!
# Progress
-/

variable {r : Request}

namespace Stage

/-- An execution may still append to its transition. -/
def Open : Stage -> Prop
  | reading | deciding _ | applying _ | attempted _ | faltered _ => True
  | broken | concluded _ | settled => False

variable {service : TaskTransitionService} {c : Claimed} {s : Stage}

theorem next_cancelled (s : Stage) (r : Request) :
    s.next service r (.error { raised := .cancelled }) = .broken ∨
      s.next service r (.error { raised := .cancelled }) = .settled := by
  cases s with
  | deciding issue =>
    cases r with
    | release => exact .inr rfl
    | expireForRetry => exact .inr rfl
    | append transitionId phase reasonCode outcome =>
      left
      cases issue <;> cases phase <;> rfl
    | _ => exact .inl rfl
  | _ =>
    cases r with
    | release => exact .inr rfl
    | expireForRetry => exact .inr rfl
    | _ => exact .inl rfl

theorem next_open {answer : Except Failure (Answer r)}
    (h : (s.next service r answer).Open) : s.Open := by
  cases s with
  | broken => cases r <;> exact h
  | concluded phase => cases r <;> exact h
  | settled => cases r <;> exact h
  | _ => trivial

theorem allows_append {transitionId : Nat} {phase : TransitionPhase}
    {reasonCode : String} {outcome : Option TransitionOutcome}
    (h : s.allows service c (.append transitionId phase reasonCode outcome)) :
    s.Open ∧ transitionId = c.transitionId ∧ (phase = .applying ∧ outcome = none ∨
        exists staged, Concludes c staged transitionId phase outcome) := by
  cases s with
  | reading => exact h.elim
  | deciding issue =>
    refine ⟨trivial, ?_⟩
    rcases h.left with ⟨hphase, hadmits⟩ | hconcludes
    · exact ⟨hadmits.names, Or.inl ⟨hphase, hadmits.outcome⟩⟩
    · exact ⟨hconcludes.names, Or.inr ⟨_, hconcludes⟩⟩
  | applying issue => exact ⟨trivial, h.names, Or.inr ⟨_, h⟩⟩
  | attempted staged => exact ⟨trivial, h.names, Or.inr ⟨_, h⟩⟩
  | faltered staged => exact ⟨trivial, h.names, Or.inr ⟨_, h⟩⟩
  | broken => exact h.elim
  | concluded phase => exact h.elim
  | settled => exact h.elim

theorem next_append {transitionId : Nat} {phase : TransitionPhase}
    {reasonCode : String} {outcome : Option TransitionOutcome}
    (h : s.allows service c (.append transitionId phase reasonCode outcome))
    (hphase : phase ≠ .applying) :
    s.next service (.append transitionId phase reasonCode outcome) (.ok ()) = .concluded phase := by
  cases s with
  | deciding issue =>
    cases issue with
    | none => cases phase <;> rfl
    | some issue =>
      cases phase with
      | applying => exact absurd rfl hphase
      | _ => rfl
  | applying issue => rfl
  | attempted staged => rfl
  | faltered staged => rfl
  | reading => exact h.elim
  | broken => exact h.elim
  | concluded _ => exact h.elim
  | settled => exact h.elim

theorem next_closed {answer : Except Failure (Answer r)}
    (hs : s = .broken ∨ s = .settled) (h : s.allows service c r) :
    s.next service r answer = .broken ∨ s.next service r answer = .settled := by
  rcases hs with rfl | rfl
  · cases r with
    | release => exact .inr rfl
    | expireForRetry => exact .inr rfl
    | _ => exact h.elim
  · exact h.elim

theorem allows_release {key : TaskKey} {claimToken : Nat}
    (h : s.allows service c (.release key claimToken)) :
    ¬ (s = .reading) ∧ key = c.intent.key ∧ claimToken = c.claimToken := by
  cases s with
  | faltered staged => exact ⟨by simp, h⟩
  | broken => exact ⟨by simp, h⟩
  | concluded phase => exact ⟨by simp, h.left, h.right.left⟩
  | _ => exact h.elim

end Stage

namespace Progress

def claim? : Progress -> Option (Claimed × Stage)
  | recovering c stage _ => some (c, stage)
  | running c stage => some (c, stage)
  | starting => none
  | finished => none

def withStage : Progress -> Stage -> Progress
  | recovering c _ waiting, stage => recovering c stage waiting
  | running c _, stage => running c stage
  | starting, _ => starting
  | finished, _ => finished

/-- Nothing but the end of its claim is left to ask for under its token. -/
def Closed (σ : Progress) : Prop :=
  forall c stage, σ.claim? = some (c, stage) -> stage = .broken ∨ stage = .settled

/-- What an execution asks for: a begin, a waiting note, or a step of its claim. -/
inductive Asks (service : TaskTransitionService) (lane : Lane)
    (intent : TransitionIntent) : Progress -> Request -> Prop
  | begins (σ : Progress) (hσ : σ = starting ∨ exists c waiting, σ = recovering c .settled waiting)
      (hadmits : lane.Admits service intent) :
      Asks service lane intent σ (.begin_ intent service.claimTtlSeconds)
  | notes (c : Claimed) (waiting : Nat) (reasonCode : String) (outcome : Option TransitionOutcome)
      (houtcome : exists o, outcome = some o ∧ o.disposition = .waiting) :
      Asks service lane intent (recovering c .settled waiting)
        (.append waiting .waiting reasonCode outcome)
  | works (σ : Progress) (c : Claimed) (stage : Stage) (r : Request)
      (hclaim : σ.claim? = some (c, stage)) (hstage : stage.allows service c r) :
      Asks service lane intent σ r

section Asks

variable {service : TaskTransitionService} {lane : Lane}
  {intent : TransitionIntent} {σ : Progress} {r : Request}

theorem asks_of_allows (h : σ.allows service lane intent r) :
    Asks service lane intent σ r := by
  cases σ with
  | starting =>
    cases r with
    | begin_ submitted leaseTtlSeconds =>
      rcases h with ⟨rfl, rfl, hadmits⟩
      exact Asks.begins _ (Or.inl rfl) hadmits
    | _ => exact h.elim
  | recovering c stage waiting =>
    cases stage with
    | settled =>
      cases r with
      | begin_ submitted leaseTtlSeconds =>
        rcases h with ⟨rfl, rfl, hadmits⟩
        exact Asks.begins _ (Or.inr ⟨c, waiting, rfl⟩) hadmits
      | append transitionId phase reasonCode outcome =>
        rcases h with ⟨rfl, rfl, houtcome⟩
        exact Asks.notes c _ reasonCode outcome houtcome
      | _ => exact h.elim
    | _ => exact Asks.works _ c _ r rfl h
  | running c stage => exact Asks.works _ c stage r rfl h
  | finished => exact h.elim

theorem claim_of_asks (h : Asks service lane intent σ r) :
    σ = starting ∨ exists c stage, σ.claim? = some (c, stage) := by
  cases h with
  | begins σ hσ hadmits =>
    rcases hσ with rfl | ⟨c, waiting, rfl⟩
    · exact .inl rfl
    · exact .inr ⟨c, _, rfl⟩
  | notes c waiting reasonCode outcome houtcome => exact .inr ⟨c, _, rfl⟩
  | works σ c stage r hclaim hstage => exact .inr ⟨c, stage, hclaim⟩

theorem next_works {c : Claimed} {stage : Stage}
    {answer : Except Failure (Answer r)} (hclaim : σ.claim? = some (c, stage))
    (hstage : stage.allows service c r) :
    σ.next service lane intent r answer = σ.withStage (stage.next service r answer) := by
  cases σ with
  | starting => cases hclaim
  | recovering c stage waiting =>
    cases hclaim
    cases stage with
    | settled => exact hstage.elim
    | _ => rfl
  | running c stage =>
    cases hclaim
    rfl
  | finished => cases hclaim

theorem claim?_withStage {c : Claimed} {stage stage' : Stage}
    (hclaim : σ.claim? = some (c, stage)) :
    (σ.withStage stage').claim? = some (c, stage') := by
  cases σ with
  | starting => cases hclaim
  | recovering c stage waiting =>
    cases hclaim
    rfl
  | running c stage =>
    cases hclaim
    rfl
  | finished => cases hclaim

/-- A cancelled call was the last one of its execution under its token. -/
theorem closed_cancelled (h : Asks service lane intent σ r) :
    (σ.next service lane intent r (.error { raised := .cancelled })).Closed := by
  intro c stage hclaim
  cases h with
  | begins σ hσ hadmits =>
    rcases hσ with rfl | ⟨c', waiting, rfl⟩
    · cases hclaim
    · cases hclaim
  | notes c' waiting reasonCode outcome houtcome => cases hclaim
  | works σ c' stage' r hclaim' hstage =>
    rw [next_works hclaim' hstage, claim?_withStage hclaim'] at hclaim
    cases hclaim
    exact Stage.next_cancelled _ _

end Asks
end Progress

/-!
# Executions and their claims
-/

/-- The journal knows the transition of a claim, and its token names one task. -/
structure Backed (j : TransitionJournal) (e : Execution) (c : Claimed)
    (stage : Stage) : Prop where
  attempt : e.attempt = some (c.transitionId, c.claimToken)
  working : e.working = some (c.intent, c.lane)
  untouched : e.untouched = true -> stage = .reading
  registered : j.Registered c.transitionId c.intent
  key : c.intent.key = e.intent.key
  project : c.intent.projectId = e.service.projectId
  issued : c.claimToken < j.issued
  owned : forall key transitionId, j.Owns key transitionId c.claimToken -> key = c.intent.key

def Linked (j : TransitionJournal) (e : Execution) : Progress -> Prop
  | .starting => e.begun = none
  | .recovering c stage waiting =>
    Backed j e c stage ∧ e.recovering = true ∧ c.lane = recoveryLane c.intent ∧ c.retain = true ∧
      j.Registered waiting e.intent ∧ waiting ≠ c.transitionId
  | .running c stage =>
    Backed j e c stage ∧ e.recovering = false ∧ c.lane = e.lane ∧
      c.retain = false ∧ c.intent = e.intent ∧ e.lane.Admits e.service e.intent
  | .finished => True

variable {j : TransitionJournal} {e : Execution} {σ : Progress} {c : Claimed} {stage : Stage}

theorem Linked.backed (h : Linked j e σ)
    (hclaim : σ.claim? = some (c, stage)) : Backed j e c stage := by
  cases σ with
  | starting => cases hclaim
  | recovering c stage waiting =>
    cases hclaim
    exact h.left
  | running c stage =>
    cases hclaim
    exact h.left
  | finished => cases hclaim

variable {j j' : TransitionJournal}

theorem Backed.grows (h : Backed j e c stage) (hgrows : Grows j j') : Backed j' e c stage where
  attempt := h.attempt
  working := h.working
  untouched := h.untouched
  registered := hgrows.registered _ _ h.registered
  key := h.key
  project := h.project
  issued := Nat.lt_of_lt_of_le h.issued hgrows.issued
  owned := fun key transitionId hown =>
    h.owned key transitionId (hgrows.owned _ _ _ h.issued hown)

theorem Linked.grows (h : Linked j e σ) (hgrows : Grows j j') : Linked j' e σ := by
  cases σ with
  | starting => exact h
  | recovering c stage waiting =>
    rcases h with ⟨hbacked, hrecovering, hlane, hretain, hwaiting, hne⟩
    exact ⟨hbacked.grows hgrows, hrecovering, hlane, hretain, hgrows.registered _ _ hwaiting, hne⟩
  | running c stage => exact ⟨h.left.grows hgrows, h.right⟩
  | finished => trivial

theorem Linked.works {e e' : Execution} {stage stage' : Stage} (h : Linked j e σ)
    (hclaim : σ.claim? = some (c, stage))
    (he : e'.service = e.service ∧ e'.lane = e.lane ∧ e'.intent = e.intent ∧
      e'.attempt = e.attempt ∧ e'.working = e.working ∧
      e'.recovering = e.recovering)
    (huntouched : e'.untouched = false) : Linked j e' (σ.withStage stage') := by
  rcases he with ⟨hservice, hlane, hintent, hattempt, hworking, hrecovering⟩
  have hbacked : Backed j e' c stage' := by
    have hold := h.backed hclaim
    constructor
    · rw [hattempt]
      exact hold.attempt
    · rw [hworking]
      exact hold.working
    · rw [huntouched]
      intro hfalse
      cases hfalse
    · exact hold.registered
    · rw [hintent]
      exact hold.key
    · rw [hservice]
      exact hold.project
    · exact hold.issued
    · exact hold.owned
  cases σ with
  | starting => cases hclaim
  | recovering c' stage waiting =>
    cases hclaim
    rcases h with ⟨_, hrec, hrest⟩
    rw [← hintent] at hrest
    exact ⟨hbacked, hrecovering.trans hrec, hrest⟩
  | running c' stage =>
    cases hclaim
    rcases h with ⟨_, hrec, hrest⟩
    rw [← hlane, ← hintent, ← hservice] at hrest
    exact ⟨hbacked, hrecovering.trans hrec, hrest⟩
  | finished => cases hclaim

/-- What a cancelled call was asked with. -/
def Snapshot (j : TransitionJournal) (call : DetachedRequest) : Prop :=
  exists e σ, e.service = call.service ∧ e.attempt = call.attempt ∧ Linked j e σ ∧
    Progress.Asks e.service e.lane e.intent σ call.request

/-- A call under a token, short of a waiting note or the end of the claim. -/
def Request.Body (attempt : Option (Nat × Nat)) : Request -> Prop
  | .append transitionId _ _ _ => attempt.map Prod.fst = some transitionId
  | .begin_ _ _ | .release _ _ | .expireForRetry _ _ => False
  | .fetch _ | .fetchChildren _ | .stage _ _ | .update _
  | .commitDirectOwner _ | .commitGuarded _ => True

/-- A closed execution makes no more calls under its token. -/
theorem not_body_of_closed {service : TaskTransitionService} {intent : TransitionIntent}
    (hlinked : Linked j e σ) (hclosed : σ.Closed)
    (hasks : Progress.Asks service lane intent σ r) : ¬ r.Body e.attempt := by
  intro hbody
  cases hasks with
  | begins σ hσ hadmits => exact hbody
  | notes c waiting reasonCode outcome houtcome =>
    rcases hlinked with ⟨hbacked, _, _, _, _, hne⟩
    have hbody : e.attempt.map Prod.fst = some waiting := hbody
    rw [hbacked.attempt] at hbody
    exact hne (Option.some.inj hbody).symm
  | works σ c stage r hclaim hstage =>
    rcases hclosed c stage hclaim with rfl | rfl
    · cases r with
      | release => exact hbody
      | expireForRetry => exact hbody
      | _ => exact hstage
    · exact hstage

/-- The token a call is made under. -/
def DetachedRequest.token (call : DetachedRequest) : Option Nat :=
  call.attempt.map Prod.snd

/-- What holds in every run. -/
structure Sound (x : Traced) : Prop where
  wellFormed : x.world.journal.WellFormed
  follows : forall (i : Nat) (e : Execution), x.world.executions[i]? = some e ->
    e.program.Follows (executionProtocol e.service e.lane e.intent)
      (x.progress i) (fun _ σ => σ.Finished)
  linked : forall (i : Nat) (e : Execution), x.world.executions[i]? = some e ->
    Linked x.world.journal e (x.progress i)
  distinct : forall (i k : Nat) (e e' : Execution) (c c' : Claimed)
    (stage stage' : Stage), x.world.executions[i]? = some e ->
    x.world.executions[k]? = some e' ->
    (x.progress i).claim? = some (c, stage) ->
    (x.progress k).claim? = some (c', stage') ->
    c.claimToken = c'.claimToken -> i = k
  snapshots : forall call, call ∈ x.world.detached -> Snapshot x.world.journal call
  last : forall call, call ∈ x.world.detached -> forall claimToken,
    call.token = some claimToken -> forall (i : Nat) (e : Execution) (c : Claimed)
    (stage : Stage), x.world.executions[i]? = some e ->
    (x.progress i).claim? = some (c, stage) -> c.claimToken = claimToken ->
    call.attempt = some (c.transitionId, c.claimToken) ∧ (stage = .broken ∨ stage = .settled)
  exclusive : x.world.detached.Pairwise (fun call call' =>
    forall claimToken, call.token = some claimToken ->
      call'.token = some claimToken -> call.attempt = call'.attempt ∧
        ¬ (call.request.Body call.attempt ∧ call'.request.Body call'.attempt))

section Begin

open TransitionJournal

variable {j j' : TransitionJournal} {e e' : Execution} {begun : BeginResult}
  {now ttl : Int}

/-- The bookkeeping of an answered begin. -/
structure Rebegun (e : Execution) (begun : BeginResult) (e' : Execution) :
    Prop where
  service : e'.service = e.service
  lane : e'.lane = e.lane
  intent : e'.intent = e.intent
  begun : e'.begun = some begun
  rebegun : e'.rebegun = e.begun.isSome

/-- A begin with a token owns its transition or the one it recovers. -/
theorem granted_of_token {claimToken : Nat} (h : begun.claimToken = some claimToken) :
    granted begun = some ((begun.recovery.map Recovery.transitionId).getD begun.transitionId,
        claimToken) := by
  unfold granted
  rw [h]
  rfl

variable {intent : TransitionIntent}

theorem owned_fresh (hj : j.WellFormed)
    (heffect : BeginEffect j intent j' begun) {key : TaskKey} {transitionId : Nat}
    (hown : j'.Owns key transitionId j.issued) : key = intent.key := by
  rcases heffect.owned key transitionId j.issued hown with hold | ⟨hkey, _⟩
  · exact absurd (hj.claimed _ _ _ hold).left (Nat.lt_irrefl _)
  · exact hkey

theorem linked_ofBegun (hj : j.WellFormed) (hbegun : Begun j e.intent now ttl j' begun)
    (hadmits : e.lane.Admits e.service e.intent) (he : Rebegun e begun e')
    (hown : begun.recovery = none ∨ e.begun.isSome = true) :
    Linked j' e' (ofBegun e.lane e.intent begun) := by
  have heffect := hbegun.effect hj
  have hsecond : forall owed, begun.recovery = some owed -> e'.rebegun = true := by
    intro owed hrecovery
    rw [he.rebegun]
    rcases hown with hnone | hsome
    · rw [hrecovery] at hnone
      cases hnone
    · exact hsome
  unfold ofBegun
  split
  · rename_i claimToken hreplay hwaiting htoken
    have hissued := (heffect.granted _ _ (granted_of_token htoken)).left
    subst hissued
    refine ⟨?_, ?_, he.lane.symm, rfl, he.intent.symm, ?_⟩
    · constructor
      · show e'.attempt = some (begun.transitionId, j.issued)
        unfold Execution.attempt
        rw [he.begun]
        show begun.claimToken.map _ = _
        rw [htoken]
        cases hrecovery : begun.recovery with
        | none => rfl
        | some owed =>
          show some ((if e'.rebegun = true then _ else _), _) = _
          rw [if_pos (hsecond owed hrecovery)]
      · show e'.working = some (e.intent, e.lane)
        unfold Execution.working
        rw [he.begun, he.intent, he.lane]
        show begun.claimToken.map _ = _
        rw [htoken]
        cases hrecovery : begun.recovery with
        | none => rfl
        | some owed =>
          show some (if e'.rebegun = true then _ else _) = _
          rw [if_pos (hsecond owed hrecovery)]
      · intro _
        rfl
      · exact (heffect.own (by rw [htoken]; rfl)).left
      · exact congrArg TransitionIntent.key he.intent.symm
      · show e.intent.projectId = e'.service.projectId
        rw [he.service]
        exact hadmits.project
      · show j.issued < j'.issued
        rw [heffect.issued]
        exact Nat.lt_succ_self _
      · intro key transitionId hown
        exact owned_fresh hj heffect hown
    · unfold Execution.recovering
      rw [he.begun, he.rebegun]
      rcases hown with hnone | hsome
      · show (begun.recovery.isSome && _) = false
        rw [hnone]
        rfl
      · rw [hsome, Bool.not_true, Bool.and_false]
    · rw [he.lane, he.service, he.intent]
      exact hadmits
  · exact trivial

theorem linked_ofFirstBegun (hj : j.WellFormed) (hbegun : Begun j e.intent now ttl j' begun)
    (hadmits : e.lane.Admits e.service e.intent) (he : Rebegun e begun e')
    (hfirst : e.begun = none) :
    Linked j' e' (ofFirstBegun e.lane e.intent begun) := by
  have heffect := hbegun.effect hj
  unfold ofFirstBegun
  split
  · rename_i owed claimToken hrecovery htoken
    have hissued := (heffect.granted _ _ (granted_of_token htoken)).left
    subst hissued
    rcases heffect.recovery owed hrecovery with
      ⟨_, _, _, _, hregistered, hkey, hother, _⟩
    have hrebegun : e'.rebegun = false := by
      rw [he.rebegun, hfirst]
      rfl
    refine ⟨?_, ?_, rfl, rfl, ?_, hother.symm⟩
    · constructor
      · show e'.attempt = some (owed.transitionId, j.issued)
        unfold Execution.attempt
        rw [he.begun]
        show begun.claimToken.map _ = _
        rw [htoken, hrecovery, hrebegun]
        rfl
      · show e'.working = some (owed.intent, recoveryLane owed.intent)
        unfold Execution.working
        rw [he.begun]
        show begun.claimToken.map _ = _
        rw [htoken, hrecovery, hrebegun]
        rfl
      · intro _
        rfl
      · exact (hbegun.grows hj).registered _ _ hregistered
      · show owed.intent.key = e'.intent.key
        rw [he.intent]
        exact hkey
      · show owed.intent.projectId = e'.service.projectId
        rw [he.service, ← hadmits.project]
        exact congrArg TaskKey.projectId hkey
      · show j.issued < j'.issued
        rw [heffect.issued]
        exact Nat.lt_succ_self _
      · intro key transitionId hown
        exact (owned_fresh hj heffect hown).trans hkey.symm
    · unfold Execution.recovering
      rw [he.begun, hrebegun]
      show (begun.recovery.isSome && _) = true
      rw [hrecovery]
      rfl
    · rw [he.intent]
      exact (heffect.own (by rw [htoken]; rfl)).left
  · exact trivial
  · rename_i hrecovery
    exact linked_ofBegun hj hbegun hadmits he (Or.inl hrecovery)

theorem claim?_ofBegun (hj : j.WellFormed)
    (hbegun : Begun j intent now ttl j' begun) {c : Claimed} {stage : Stage}
    (hclaim : (ofBegun lane intent begun).claim? = some (c, stage)) :
    c.claimToken = j.issued ∧ stage = .reading := by
  unfold ofBegun at hclaim
  split at hclaim
  · rename_i claimToken hreplay hwaiting htoken
    cases hclaim
    exact ⟨((hbegun.effect hj).granted _ _ (granted_of_token htoken)).left, rfl⟩
  · cases hclaim

theorem claim?_ofFirstBegun (hj : j.WellFormed)
    (hbegun : Begun j intent now ttl j' begun) {c : Claimed} {stage : Stage}
    (hclaim : (ofFirstBegun lane intent begun).claim? = some (c, stage)) :
    c.claimToken = j.issued ∧ stage = .reading := by
  unfold ofFirstBegun at hclaim
  split at hclaim
  · rename_i owed claimToken hrecovery htoken
    cases hclaim
    exact ⟨((hbegun.effect hj).granted _ _ (granted_of_token htoken)).left, rfl⟩
  · cases hclaim
  · exact claim?_ofBegun hj hbegun hclaim

end Begin

section Answers

variable {w after : World} {e : Execution} {r : Request} {σ : Progress}
  {service : TaskTransitionService} {lane : Lane} {intent : TransitionIntent}

theorem append_of_asks {transitionId : Nat} {phase : TransitionPhase}
    {reasonCode : String} {outcome : Option TransitionOutcome}
    (h : Progress.Asks service lane intent σ (.append transitionId phase reasonCode outcome)) :
    phase ≠ .requested ∧ (phase.isFinal = true -> outcome.isSome = true) := by
  cases h with
  | notes c waiting reasonCode outcome houtcome => exact ⟨by simp, fun hfinal => nomatch hfinal⟩
  | works σ c stage r hclaim hstage =>
    rcases (Stage.allows_append hstage).right.right with
      ⟨rfl, rfl⟩ | ⟨staged, hconcludes⟩
    · exact ⟨by simp, fun hfinal => nomatch hfinal⟩
    · rcases hconcludes.outcome with ⟨o, rfl, _⟩
      have hphase := hconcludes.concluding
      simp only [List.mem_cons, not_or] at hphase
      exact ⟨hphase.left, fun _ => rfl⟩

theorem Performed.wellFormed {attempt : Option (Nat × Nat)} {choice : Choice} {value : Answer r}
    (hj : w.journal.WellFormed)
    (hasks : Progress.Asks service lane intent σ r)
    (h : Performed w attempt choice r after value) : after.journal.WellFormed := by
  cases hr : r.journals with
  | false =>
    rw [h.journal hr]
    exact hj
  | true =>
    cases h with
    | begin_ intent leaseTtlSeconds journal begun hbegun => exact hbegun.wellFormed hj
    | append transitionId phase reasonCode outcome row hrow =>
      rcases append_of_asks hasks with ⟨hphase, houtcome⟩
      exact hj.append _ (hj.registered_of_request? hrow).lt hphase houtcome
    | release key claimToken released => exact hj.release key claimToken
    | expireForRetry key claimToken retained =>
      exact hj.expireForRetry key claimToken choice.now
    | _ => cases hr

theorem World.called_eq (w : World) (attempt : Option (Nat × Nat)) (r : Request) :
    (w.called attempt r).journal = w.journal ∧ (w.called attempt r).executions = w.executions ∧
      (w.called attempt r).detached = w.detached ∧
      (w.called attempt r).tracker = w.tracker ∧
      (w.called attempt r).handedOut = w.handedOut ∧
      (w.called attempt r).stageMoves = w.stageMoves := by
  cases r <;> exact ⟨rfl, rfl, rfl, rfl, rfl, rfl⟩

variable {answer : Except Failure (Answer r)} {resolution : Resolution}

theorem Resolved.executions (h : Resolved w e r resolution after answer) :
    after.executions = w.executions := by
  cases h with
  | returned choice after value hperformed => exact hperformed.executions
  | failed resolution failure => exact (w.called_eq e.attempt r).right.left
  | lost choice raised after value hwrites hperformed => exact hperformed.executions
  | detached => rfl

theorem Resolved.journal (hj : w.journal.WellFormed) (hasks : Progress.Asks service lane intent σ r)
    (h : Resolved w e r resolution after answer) :
    after.journal.WellFormed ∧ Grows w.journal after.journal := by
  cases h with
  | returned choice after value hperformed =>
    exact ⟨hperformed.wellFormed hj hasks, hperformed.grows hj⟩
  | failed resolution failure =>
    rw [(w.called_eq e.attempt r).left]
    exact ⟨hj, Grows.refl _⟩
  | lost choice raised after value hwrites hperformed =>
    exact ⟨hperformed.wellFormed hj hasks, hperformed.grows hj⟩
  | detached => exact ⟨hj, Grows.refl _⟩

/-- A call is left behind or there are no more calls than before. -/
theorem Resolved.detachedCalls (h : Resolved w e r resolution after answer) :
    after.detached = w.detached ∨ answer = .error { raised := .cancelled } ∧
        after.detached = w.detached ++
          [{ service := e.service, attempt := e.attempt, request := r }] := by
  cases h with
  | returned choice after value hperformed => exact .inl hperformed.detached
  | failed resolution failure => exact .inl (w.called_eq e.attempt r).right.right.left
  | lost choice raised after value hwrites hperformed => exact .inl hperformed.detached
  | detached => exact .inr ⟨rfl, rfl⟩

def Request.begins : Request -> Bool
  | .begin_ _ _ => true
  | .append _ _ _ _ | .release _ _ | .expireForRetry _ _ | .fetch _
  | .fetchChildren _ | .stage _ _ | .update _ | .commitDirectOwner _
  | .commitGuarded _ => false

theorem answered_same (h : r.begins = false ∨ exists failure, answer = .error failure) :
    e.answered r answer = { e with untouched := false } := by
  cases r with
  | begin_ intent leaseTtlSeconds =>
    rcases h with hfalse | ⟨failure, rfl⟩
    · cases hfalse
    · rfl
  | _ => cases answer <;> rfl

theorem answered_fixed (e : Execution) (answer : Except Failure (Answer r)) :
    (e.answered r answer).service = e.service ∧ (e.answered r answer).lane = e.lane ∧
      (e.answered r answer).intent = e.intent := by
  cases r with
  | begin_ intent leaseTtlSeconds => cases answer <;> exact ⟨rfl, rfl, rfl⟩
  | _ => cases answer <;> exact ⟨rfl, rfl, rfl⟩

theorem begins_of_stage {c : Claimed} {stage : Stage}
    (h : stage.allows service c r) : r.begins = false := by
  cases r with
  | begin_ intent leaseTtlSeconds => cases stage <;> exact h.elim
  | _ => rfl

/-- The claim an answered execution has is its old one or a fresh one. -/
structure Advanced (w after : World) (e : Execution) (r : Request)
    (answer : Except Failure (Answer r)) (σ σ' : Progress)
    (program : Saga TransitionOutcome) : Prop where
  linked : Linked after.journal { e.answered r answer with program := program } σ'
  claim : forall c stage, σ'.claim? = some (c, stage) ->
    (exists old, σ.claim? = some (c, old) ∧ old.allows e.service c r ∧
      stage = old.next e.service r answer) ∨
    (r.begins = true ∧ c.claimToken = w.journal.issued ∧ stage = .reading)

theorem advanced (hj : w.journal.WellFormed) (hlinked : Linked w.journal e σ)
    (hasks : Progress.Asks e.service e.lane e.intent σ r)
    (h : Resolved w e r resolution after answer) (program : Saga TransitionOutcome) :
    Advanced w after e r answer σ (σ.next e.service e.lane e.intent r answer) program := by
  have hgrows := (h.journal hj hasks).right
  cases hasks with
  | begins σ hσ hadmits =>
    cases h with
    | returned choice after value hperformed =>
      cases hperformed with
      | begin_ _ _ journal begun hbegun =>
        have he : Rebegun e value
            { e.answered (.begin_ e.intent e.service.claimTtlSeconds)
                (.ok value) with program := program } :=
          ⟨rfl, rfl, rfl, rfl, rfl⟩
        rcases hσ with rfl | ⟨c, waiting, rfl⟩
        · exact ⟨linked_ofFirstBegun hj hbegun hadmits he hlinked,
            fun c stage hclaim =>
              Or.inr ⟨rfl, claim?_ofFirstBegun hj hbegun hclaim⟩⟩
        · have hagain : e.begun.isSome = true := by
            have hrecovering := hlinked.right.left
            unfold Execution.recovering at hrecovering
            cases hbegun : e.begun with
            | none =>
              rw [hbegun] at hrecovering
              cases hrecovering
            | some begun => rfl
          exact ⟨linked_ofBegun hj hbegun hadmits he (Or.inr hagain),
            fun c stage hclaim =>
              Or.inr ⟨rfl, claim?_ofBegun hj hbegun hclaim⟩⟩
    | lost choice raised after value hwrites hperformed => cases hwrites
    | failed resolution failure =>
      rcases hσ with rfl | ⟨c, waiting, rfl⟩
      · exact ⟨trivial, fun c stage hclaim => nomatch hclaim⟩
      · exact ⟨trivial, fun c stage hclaim => nomatch hclaim⟩
    | detached =>
      rcases hσ with rfl | ⟨c, waiting, rfl⟩
      · exact ⟨trivial, fun c stage hclaim => nomatch hclaim⟩
      · exact ⟨trivial, fun c stage hclaim => nomatch hclaim⟩
  | notes c waiting reasonCode outcome houtcome =>
    exact ⟨trivial, fun c stage hclaim => nomatch hclaim⟩
  | works σ c stage r hclaim hstage =>
    have hsame : e.answered r answer = { e with untouched := false } :=
      answered_same (Or.inl (begins_of_stage hstage))
    rw [Progress.next_works hclaim hstage]
    constructor
    · rw [hsame]
      exact (hlinked.grows hgrows).works hclaim ⟨rfl, rfl, rfl, rfl, rfl, rfl⟩ rfl
    · intro c' stage' hclaim'
      rw [Progress.claim?_withStage hclaim] at hclaim'
      cases hclaim'
      exact .inl ⟨stage, hclaim, hstage, rfl⟩

end Answers

/-!
# Soundness of every step
-/

variable {call : DetachedRequest}

theorem Snapshot.grows (h : Snapshot j call) (hgrows : Grows j j') : Snapshot j' call := by
  rcases h with ⟨e, σ, hservice, hattempt, hlinked, hasks⟩
  exact ⟨e, σ, hservice, hattempt, hlinked.grows hgrows, hasks⟩

variable {claimToken : Nat}

/-- A call has a token only once its execution has a claim. -/
theorem Snapshot.backed (h : Snapshot j call) (htoken : call.token = some claimToken) :
    exists e σ c stage, e.service = call.service ∧ e.attempt = call.attempt ∧
      Linked j e σ ∧ Progress.Asks e.service e.lane e.intent σ call.request ∧
      σ.claim? = some (c, stage) ∧ Backed j e c stage ∧
      c.claimToken = claimToken := by
  rcases h with ⟨e, σ, hservice, hattempt, hlinked, hasks⟩
  have hclaim : exists c stage, σ.claim? = some (c, stage) := by
    rcases Progress.claim_of_asks hasks with rfl | hclaim
    · unfold DetachedRequest.token at htoken
      rw [← hattempt] at htoken
      unfold Execution.attempt at htoken
      rw [show e.begun = none from hlinked] at htoken
      cases htoken
    · exact hclaim
  rcases hclaim with ⟨c, stage, hclaim⟩
  have hbacked := hlinked.backed hclaim
  refine ⟨e, σ, c, stage, hservice, hattempt, hlinked, hasks, hclaim, hbacked, ?_⟩
  unfold DetachedRequest.token at htoken
  rw [← hattempt, hbacked.attempt] at htoken
  exact Option.some.inj htoken

theorem Snapshot.token_lt (h : Snapshot j call)
    (htoken : call.token = some claimToken) : claimToken < j.issued := by
  rcases h.backed htoken with ⟨_, _, _, _, _, _, _, _, _, hbacked, rfl⟩
  exact hbacked.issued

theorem program_of_pending
    (h : e.pending = some r) : exists resume, e.program = .request r resume := by
  unfold Execution.pending at h
  split at h
  · rename_i resume hprogram
    cases h
    exact ⟨resume, hprogram⟩
  · cases h
  · cases h

namespace Sound

variable {x : Traced}

variable {e : Execution}

theorem backed (h : Sound x) {i : Nat} {c : Claimed}
    {stage : Stage} (hindex : x.world.executions[i]? = some e)
    (hclaim : (x.progress i).claim? = some (c, stage)) :
    Backed x.world.journal e c stage :=
  (h.linked i e hindex).backed hclaim

variable {r : Request}
variable {resume : Except Failure (Answer r) -> Saga TransitionOutcome}

theorem asks (h : Sound x) {i : Nat}
    (hindex : x.world.executions[i]? = some e) (hprogram : e.program = .request r resume) :
    Progress.Asks e.service e.lane e.intent (x.progress i) r := by
  have hfollows := h.follows i e hindex
  rw [hprogram] at hfollows
  exact Progress.asks_of_allows hfollows.left

theorem calm (h : Sound x) {after : World} (hexecutions : after.executions = x.world.executions)
    (hdetached : after.detached.Sublist x.world.detached)
    (hjournal : after.journal.WellFormed)
    (hgrows : Grows x.world.journal after.journal) :
    Sound { world := after, progress := x.progress } where
  wellFormed := hjournal
  follows := by
    rw [hexecutions]
    exact h.follows
  linked := by
    rw [hexecutions]
    exact fun i e hindex => (h.linked i e hindex).grows hgrows
  distinct := by
    rw [hexecutions]
    exact h.distinct
  snapshots := fun call hcall =>
    (h.snapshots call (hdetached.subset hcall)).grows hgrows
  last := by
    rw [hexecutions]
    exact fun call hcall => h.last call (hdetached.subset hcall)
  exclusive := h.exclusive.sublist hdetached

theorem submitted (h : Sound x) (service : TaskTransitionService) (lane : Lane)
    (intent : TransitionIntent) : Sound (x.submit service lane intent) := by
  -- The new execution has no claim; the others are as they were.
  have hclaimed : forall (i : Nat) (e : Execution) (c : Claimed) (stage : Stage),
      (x.submit service lane intent).world.executions[i]? = some e ->
      ((x.submit service lane intent).progress i).claim? = some (c, stage) ->
      x.world.executions[i]? = some e ∧ (x.progress i).claim? = some (c, stage) := by
    intro i e c stage hindex hclaim
    rcases Traced.submit_cases hindex with ⟨hold, hsame⟩ | ⟨_, _, _, hstarting⟩
    · rw [hsame] at hclaim
      exact ⟨hold, hclaim⟩
    · rw [hstarting] at hclaim
      cases hclaim
  constructor
  · exact h.wellFormed
  · intro i e hindex
    rcases Traced.submit_cases hindex with
      ⟨hold, hsame⟩ | ⟨hprogram, _, _, hstarting⟩
    · rw [hsame]
      exact h.follows i e hold
    · rw [hstarting, hprogram]
      exact follows_submission e.service e.lane e.intent
  · intro i e hindex
    rcases Traced.submit_cases hindex with
      ⟨hold, hsame⟩ | ⟨_, hbegun, _, hstarting⟩
    · rw [hsame]
      exact h.linked i e hold
    · rw [hstarting]
      exact hbegun
  · intro i k e e' c c' stage stage' hindex hindex' hclaim hclaim'
    rcases hclaimed i e c stage hindex hclaim with ⟨hold, hclaim⟩
    rcases hclaimed k e' c' stage' hindex' hclaim' with ⟨hold', hclaim'⟩
    exact h.distinct i k e e' c c' stage stage' hold hold' hclaim hclaim'
  · exact h.snapshots
  · intro call hcall claimToken htoken i e c stage hindex hclaim
    rcases hclaimed i e c stage hindex hclaim with ⟨hold, hclaim⟩
    exact h.last call hcall claimToken htoken i e c stage hold hclaim
  · exact h.exclusive

/-- Two calls left behind under one token. -/
theorem exclusive_of (h : Sound x) {position : Nat} {call call' : DetachedRequest}
    (hcall : x.world.detached[position]? = some call)
    (hcall' : call' ∈ x.world.detached.eraseIdx position) {claimToken : Nat}
    (htoken : call.token = some claimToken)
    (htoken' : call'.token = some claimToken) :
    call.attempt = call'.attempt ∧
      ¬ (call.request.Body call.attempt ∧ call'.request.Body call'.attempt) := by
  rcases List.getElem?_eq_some_iff.mp hcall with ⟨hlt, rfl⟩
  have hsplit : x.world.detached = x.world.detached.take position ++
      x.world.detached[position] :: x.world.detached.drop (position + 1) := by
    rw [List.getElem_cons_drop hlt, List.take_append_drop]
  have hpairwise := h.exclusive
  rw [hsplit] at hpairwise
  rcases List.pairwise_append.mp hpairwise with ⟨_, hafter, hbetween⟩
  rw [List.eraseIdx_eq_take_drop_succ] at hcall'
  rcases List.mem_append.mp hcall' with hbefore | hlater
  · rcases hbetween call' hbefore _ (List.mem_cons_self ..) claimToken htoken'
      htoken with ⟨hattempt, hbodies⟩
    exact ⟨hattempt.symm, fun hboth => hbodies ⟨hboth.right, hboth.left⟩⟩
  · exact (List.pairwise_cons.mp hafter).left call' hlater claimToken htoken htoken'

theorem claim_of_token (h : Sound x) {i : Nat}
    {claimToken : Nat} (hindex : x.world.executions[i]? = some e)
    (hasks : Progress.Asks e.service e.lane e.intent (x.progress i) r)
    (htoken : e.attempt.map Prod.snd = some claimToken) :
    exists c stage, (x.progress i).claim? = some (c, stage) ∧ c.claimToken = claimToken := by
  have hlinked := h.linked i e hindex
  rcases Progress.claim_of_asks hasks with hstarting | ⟨c, stage, hclaim⟩
  · rw [hstarting] at hlinked
    unfold Execution.attempt at htoken
    rw [show e.begun = none from hlinked] at htoken
    cases htoken
  · refine ⟨c, stage, hclaim, ?_⟩
    rw [(hlinked.backed hclaim).attempt] at htoken
    exact Option.some.inj htoken

theorem answered (h : Sound x) {index : Nat} {after : World} {answer : Except Failure (Answer r)}
    (hindex : x.world.executions[index]? = some e) (hprogram : e.program = .request r resume)
    {resolution : Resolution} (hresolved : Resolved x.world e r resolution after answer) :
    Sound (x.advance index after { e.answered r answer with program := resume answer }
      ((x.progress index).next e.service e.lane e.intent r answer)) := by
  have hasks := h.asks hindex hprogram
  have hadvanced := advanced h.wellFormed (h.linked index e hindex) hasks hresolved (resume answer)
  rcases hresolved.journal h.wellFormed hasks with ⟨hjournal, hgrows⟩
  -- The answered execution moved; the others are as they were.
  have hcases := fun i e₀ => Traced.advance_cases (i := i) (o := e₀)
    (d := { e.answered r answer with program := resume answer })
    (σ := (x.progress index).next e.service e.lane e.intent r answer)
    hindex hresolved.executions
  have hdetached : forall call, call ∈ after.detached -> call ∈ x.world.detached ∨
        answer = .error { raised := .cancelled } ∧
          call = { service := e.service, attempt := e.attempt, request := r } := by
    intro call hcall
    rcases hresolved.detachedCalls with hsame | ⟨hanswer, hmore⟩
    · rw [hsame] at hcall
      exact .inl hcall
    · rw [hmore] at hcall
      rcases List.mem_append.mp hcall with hold | hnew
      · exact .inl hold
      · exact .inr ⟨hanswer, List.mem_singleton.mp hnew⟩
  have htokens : forall call, call ∈ x.world.detached -> forall claimToken,
      call.token = some claimToken -> claimToken < x.world.journal.issued := by
    intro call hcall claimToken htoken
    rcases (h.snapshots call hcall).backed htoken with
      ⟨_, _, _, _, _, _, _, _, _, hbacked, rfl⟩
    exact hbacked.issued
  constructor
  · exact hjournal
  · intro i e₀ hi
    rcases hcases i e₀ hi with ⟨rfl, rfl, hσ⟩ | ⟨_, hold, hσ⟩
    · have hfollows := h.follows i e hindex
      rw [hprogram] at hfollows
      rcases answered_fixed e answer with ⟨hservice, hlane, hintent⟩
      rw [hσ]
      show Program.Follows (executionProtocol (e.answered r answer).service
        (e.answered r answer).lane (e.answered r answer).intent) (resume answer)
        _ _
      rw [hservice, hlane, hintent]
      exact hfollows.right answer _ rfl
    · rw [hσ]
      exact h.follows i e₀ hold
  · intro i e₀ hi
    rcases hcases i e₀ hi with ⟨rfl, rfl, hσ⟩ | ⟨_, hold, hσ⟩
    · rw [hσ]
      exact hadvanced.linked
    · rw [hσ]
      exact (h.linked i e₀ hold).grows hgrows
  · intro i k e₀ e₁ c c' stage stage' hi hk hclaim hclaim' htoken
    rcases hcases i e₀ hi with ⟨hsame, rfl, hσ⟩ | ⟨hne, hold, hσ⟩
    · rcases hcases k e₁ hk with ⟨hsame', _, _⟩ | ⟨_, hold', hσ'⟩
      · rw [hsame, hsame']
      · have hclaim := hσ ▸ hclaim
        have hclaim' := hσ' ▸ hclaim'
        rcases hadvanced.claim c stage hclaim with
          ⟨old, hbefore, _, _⟩ | ⟨_, hfresh, _⟩
        · rw [hsame]
          exact h.distinct index k e e₁ c c' old stage' hindex hold' hbefore hclaim' htoken
        · have hlt := (h.backed hold' hclaim').issued
          omega
    · rcases hcases k e₁ hk with ⟨hsame', rfl, hσ'⟩ | ⟨_, hold', hσ'⟩
      · have hclaim := hσ ▸ hclaim
        have hclaim' := hσ' ▸ hclaim'
        rcases hadvanced.claim c' stage' hclaim' with
          ⟨old, hbefore, _, _⟩ | ⟨_, hfresh, _⟩
        · rw [hsame']
          exact h.distinct i index e₀ e c c' stage old hold hindex hclaim hbefore htoken
        · have hlt := (h.backed hold hclaim).issued
          omega
      · exact h.distinct i k e₀ e₁ c c' stage stage' hold hold' (hσ ▸ hclaim) (hσ' ▸ hclaim') htoken
  · intro call hcall
    rcases hdetached call hcall with hold | ⟨_, rfl⟩
    · exact (h.snapshots call hold).grows hgrows
    · exact ⟨e, x.progress index, rfl, rfl, (h.linked index e hindex).grows hgrows, hasks⟩
  · intro call hcall claimToken htoken i e₀ c stage hi hclaim hc
    rcases hdetached call hcall with hold | ⟨hanswer, rfl⟩
    · rcases hcases i e₀ hi with ⟨rfl, rfl, hσ⟩ | ⟨_, hbefore, hσ⟩
      · rcases hadvanced.claim c stage (hσ ▸ hclaim) with
          ⟨old, hbefore, hstage, rfl⟩ | ⟨_, hfresh, _⟩
        · rcases h.last call hold claimToken htoken i e c old hindex hbefore hc
            with ⟨hattempt, hclosed⟩
          exact ⟨hattempt, Stage.next_closed hclosed hstage⟩
        · have hlt := htokens call hold claimToken htoken
          omega
      · exact h.last call hold claimToken htoken i e₀ c stage hbefore (hσ ▸ hclaim) hc
    · rcases h.claim_of_token hindex hasks htoken with ⟨c₀, stage₀, hclaim₀, hc₀⟩
      rcases hcases i e₀ hi with ⟨rfl, rfl, hσ⟩ | ⟨hne, hbefore, hσ⟩
      · subst hanswer
        refine ⟨?_, Progress.closed_cancelled hasks c stage (hσ ▸ hclaim)⟩
        rcases hadvanced.claim c stage (hσ ▸ hclaim) with
          ⟨old, hbefore, _, _⟩ | ⟨_, hfresh, _⟩
        · exact (h.backed hindex hbefore).attempt
        · have hlt := (h.backed hindex hclaim₀).issued
          omega
      · exact absurd (h.distinct i index e₀ e c c₀ stage stage₀ hbefore hindex
          (hσ ▸ hclaim) hclaim₀ (hc.trans hc₀.symm)) hne
  · show after.detached.Pairwise _
    rcases hresolved.detachedCalls with hsame | ⟨_, hmore⟩
    · rw [hsame]
      exact h.exclusive
    · rw [hmore]
      apply List.pairwise_append.mpr
      refine ⟨h.exclusive, List.pairwise_singleton _ _, ?_⟩
      intro call hcall call' hcall' claimToken htoken htoken'
      rw [List.mem_singleton] at hcall'
      subst hcall'
      rcases h.claim_of_token hindex hasks htoken' with
        ⟨c₀, stage₀, hclaim₀, hc₀⟩
      rcases h.last call hcall claimToken htoken index e c₀ stage₀ hindex hclaim₀
        hc₀ with ⟨hattempt, hstage⟩
      have hclosed : (x.progress index).Closed := by
        intro c stage hclaim
        rw [hclaim₀] at hclaim
        cases hclaim
        exact hstage
      constructor
      · exact hattempt.trans (h.backed hindex hclaim₀).attempt.symm
      · intro hbodies
        exact not_body_of_closed (h.linked index e hindex) hclosed hasks hbodies.right

theorem step (h : Sound x) (s : WorldStep) : Sound (x.step s) := by
  have hmoved := x.moved_step s
  generalize hx' : x.step s = x' at hmoved
  cases hmoved with
  | idle => exact h
  | submitted service lane intent => exact h.submitted service lane intent
  | answered index resolution e r resume after answer hindex hprogram hresolve =>
    exact h.answered hindex hprogram (resolve_eq_some hresolve)
  | finished position choice call r after value hcall hrequest hperformed =>
    rcases h.snapshots call (List.mem_of_getElem? hcall) with
      ⟨e, σ, _, _, _, hasks⟩
    rw [hrequest] at hasks
    apply h.calm
    · exact hperformed.executions
    · rw [hperformed.detached]
      exact List.eraseIdx_sublist _ _
    · exact Performed.wellFormed (w := Traced.takeDetached x.world position)
        h.wellFormed hasks hperformed
    · exact Performed.grows (w := Traced.takeDetached x.world position) h.wellFormed hperformed
  | dropped position choice =>
    exact h.calm rfl (List.eraseIdx_sublist _ _) h.wellFormed (Grows.refl _)
  | edited key issue found hfound =>
    exact h.calm rfl (List.Sublist.refl _) h.wellFormed (Grows.refl _)

theorem start (tracker : Tracker) :
    Sound { world := { tracker := tracker }, progress := fun _ => .starting } where
  wellFormed := TransitionJournal.wellFormed_empty
  follows := by
    intro i e hindex
    cases hindex
  linked := by
    intro i e hindex
    cases hindex
  distinct := by
    intro i k e e' c c' stage stage' hindex
    cases hindex
  snapshots := by
    intro call hcall
    cases hcall
  last := by
    intro call hcall
    cases hcall
  exclusive := List.Pairwise.nil

end Sound

/-!
# Claims that carry a token
-/

/-- The claim of a task still carries the token of an attempt. -/
def World.holdsClaim (w : World) (attempt : Option (Nat × Nat)) : Bool :=
  attempt.any (fun owned =>
    w.journal.claims.any (fun row => row.claimToken = owned.2))

/-- The claim of a task carries a token. -/
def Carried (j : TransitionJournal) (claimToken : Nat) : Prop :=
  exists key transitionId, j.Owns key transitionId claimToken

theorem Carried.before (h : Carried j' claimToken) (hgrows : Grows j j')
    (hlt : claimToken < j.issued) : Carried j claimToken := by
  rcases h with ⟨key, transitionId, hown⟩
  exact ⟨key, transitionId, hgrows.owned _ _ _ hlt hown⟩

theorem carried_of_holdsClaim {w : World} {attempt : Option (Nat × Nat)}
    (h : w.holdsClaim attempt = true) :
    exists claimToken, attempt.map Prod.snd = some claimToken ∧ Carried w.journal claimToken := by
  rcases (Option.any_eq_true _ _).mp h with ⟨owned, rfl, hany⟩
  rcases List.any_eq_true.mp hany with ⟨row, hrow, htoken⟩
  exact ⟨owned.2, rfl, row.key, row.transitionId, row, hrow, rfl, rfl, by simpa using htoken⟩

theorem holder_unique {w : World} {e e₀ : Execution} {c c₀ : Claimed}
    {stage stage₀ : Stage} (hj : w.journal.WellFormed)
    (hbacked : Backed w.journal e c stage)
    (hbacked₀ : Backed w.journal e₀ c₀ stage₀)
    (hkey : c₀.intent.key = c.intent.key)
    (hholds : w.holdsClaim e₀.attempt = true)
    (hcarried : Carried w.journal c.claimToken) :
    c₀.claimToken = c.claimToken := by
  rcases carried_of_holdsClaim hholds with ⟨token, htoken, key₀, owner₀, hown₀⟩
  rcases hcarried with ⟨key, owner, hown⟩
  rw [hbacked₀.attempt] at htoken
  cases htoken
  have hsame : key₀ = key := by
    rw [hbacked₀.owned key₀ owner₀ hown₀, hbacked.owned key owner hown, hkey]
  subst hsame
  exact (hj.owner_unique hown₀ hown).right

/-!
# Claims that start
-/

/-- The claim an answered begin starts. -/
inductive Starts (e : Execution) (begun : BeginResult) : Claimed -> Prop
  | recovers (owed : Recovery) (claimToken : Nat) (hrecovery : begun.recovery = some owed)
      (htoken : begun.claimToken = some claimToken) :
      Starts e begun
        { transitionId := owed.transitionId
          claimToken := claimToken
          intent := owed.intent
          lane := recoveryLane owed.intent
          previousPhase := some owed.previousPhase
          retain := true }
  | owns (claimToken : Nat) (htoken : begun.claimToken = some claimToken)
      (hown : begun.recovery = none ∨ e.begun.isSome = true) :
      Starts e begun
        { transitionId := begun.transitionId
          claimToken := claimToken
          intent := e.intent
          lane := e.lane
          previousPhase := begun.previousPhase
          retain := false }

theorem starts_ofBegun {begun : BeginResult} (hown : begun.recovery = none ∨ e.begun.isSome = true)
    (h : (ofBegun e.lane e.intent begun).claim? = some (c, stage)) :
    Starts e begun c ∧ stage = .reading := by
  unfold ofBegun at h
  split at h
  · rename_i claimToken hreplay hwaiting htoken
    cases h
    exact ⟨Starts.owns claimToken htoken hown, rfl⟩
  · cases h

theorem starts_of_next {ttl : Int} {begun : BeginResult} (hlinked : Linked j e σ)
    (hasks : Progress.Asks e.service e.lane e.intent σ (.begin_ e.intent ttl))
    (h : (σ.next e.service e.lane e.intent (.begin_ e.intent ttl)
      (.ok begun)).claim? = some (c, stage)) :
    Starts e begun c ∧ stage = .reading := by
  cases hasks with
  | begins σ hσ hadmits =>
    rcases hσ with rfl | ⟨c', waiting, rfl⟩
    · have h : (ofFirstBegun e.lane e.intent begun).claim? = some (c, stage) := h
      unfold ofFirstBegun at h
      split at h
      · rename_i owed claimToken hrecovery htoken
        cases h
        exact ⟨Starts.recovers owed claimToken hrecovery htoken, rfl⟩
      · cases h
      · rename_i hrecovery
        exact starts_ofBegun (Or.inl hrecovery) h
    · apply starts_ofBegun _ h
      right
      have hrecovering := hlinked.right.left
      unfold Execution.recovering at hrecovering
      cases hbegun : e.begun with
      | none =>
        rw [hbegun] at hrecovering
        cases hrecovering
      | some begun => rfl
  | works σ c' stage' r hclaim hstage =>
    have hbegins := begins_of_stage hstage
    cases hbegins

/-!
# Exclusion
-/

/-- An execution still asks under a token that the claim of a task carries. -/
def World.Holds (w : World) (key : TaskKey) (index : Nat) : Prop :=
  exists e transitionId claimToken, w.executions[index]? = some e ∧ e.pending.isSome = true ∧
    e.attempt.map Prod.snd = some claimToken ∧ w.journal.Owns key transitionId claimToken

theorem Sound.holds {x : Traced} (h : Sound x) {key : TaskKey} {index : Nat}
    (hholds : x.world.Holds key index) :
    exists e transitionId c stage, x.world.executions[index]? = some e ∧
      (x.progress index).claim? = some (c, stage) ∧
        x.world.journal.Owns key transitionId c.claimToken := by
  rcases hholds with ⟨e, transitionId, claimToken, hindex, hpending, htoken, hown⟩
  rcases Option.isSome_iff_exists.mp hpending with ⟨r, hr⟩
  rcases program_of_pending hr with ⟨resume, hprogram⟩
  rcases h.claim_of_token hindex (h.asks hindex hprogram) htoken with ⟨c, stage, hclaim, hsame⟩
  exact ⟨e, transitionId, c, stage, hindex, hclaim, hsame ▸ hown⟩

theorem sound_run (tracker : Tracker) (steps : List WorldStep) :
    exists progress, Sound ⟨run World.step { tracker := tracker } steps, progress⟩ := by
  have hsound := invariant_run (fun _ s h => h.step s) (Sound.start tracker) steps
  rw [← Traced.run_world ⟨{ tracker := tracker }, fun _ => .starting⟩]
  exact ⟨_, hsound⟩

theorem journal_wellFormed_run (tracker : Tracker) (steps : List WorldStep) :
    (run World.step { tracker := tracker } steps).journal.WellFormed :=
  (sound_run tracker steps).choose_spec.wellFormed

/-- However calls end, at most one execution at a time holds the claim of a task. -/
theorem holders_subsingleton_run (tracker : Tracker) (steps : List WorldStep) (key : TaskKey) :
    Set.Subsingleton {index | (run World.step { tracker := tracker } steps).Holds key index} := by
  rcases sound_run tracker steps with ⟨progress, hsound⟩
  intro i hi k hk
  rcases hsound.holds hi with ⟨e, _, c, stage, hindex, hclaim, hown⟩
  rcases hsound.holds hk with ⟨e', _, c', stage', hindex', hclaim', hown'⟩
  exact hsound.distinct i k e e' c c' stage stage' hindex hindex' hclaim hclaim'
    (hsound.wellFormed.owner_unique hown hown').right

end TaskTransitions
end Oompah
