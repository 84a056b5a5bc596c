import Oompah.TaskTransitions.Agents

/-!
# Reports of a terminal stage

An attempt that finds its task `In Validation` reports a terminal stage of its
own when the newest journal phase is one after which the adapter may have been
called.  The same phases are journaled by attempts that never reached it.
Reports are true in the runs where no such phase misleads a read.
-/

namespace Oompah
namespace TaskTransitions

open Foundation

/-!
# What a begin reads
-/

namespace TransitionJournal

section Begin

variable {j j' : TransitionJournal} {intent : TransitionIntent}
  {transitionId claimToken : Nat} {previousPhase : Option TransitionPhase}
  {now ttl : Int} {begun : BeginResult} {e : Execution} {c : Claimed}

theorem Acquired.recovering
    (h : Acquired j intent transitionId previousPhase now ttl claimToken j' begun)
    {owed : Recovery} (howed : begun.recovery = some owed) :
    begun.previousPhase = none := by
  cases h with
  | free hfree => cases howed
  | waiting active hactive outcome hlive hwaiting => cases howed
  | replaced active hactive hexpired hdone => cases howed
  | recovered active request latest hactive hexpired hother hrequest hkey hlatest hopen => rfl

/-- A begin that hands a recovery out says nothing about its own transition. -/
theorem Begun.recovering (h : Begun j intent now ttl j' begun) {owed : Recovery}
    (howed : begun.recovery = some owed) : begun.previousPhase = none := by
  cases h with
  | conflicting row outcome => cases howed
  | replayed row latest outcome hrow hintent hlatest hfinal houtcome => cases howed
  | resumed row hrow hintent hopen hacquired => exact hacquired.recovering howed
  | registered hfree hacquired => exact hacquired.recovering howed

/-- The phase a claim starts with is the newest one of its transition. -/
theorem Begun.newest (hj : j.WellFormed) (h : Begun j intent now ttl j' begun)
    (hstarts : Starts e begun c) {phase : TransitionPhase}
    (hphase : c.previousPhase = some phase) :
    (j.latestEvent c.transitionId).map (·.phase) = some phase := by
  have heffect := h.effect hj
  cases hstarts with
  | recovers owed claimToken hrecovery htoken =>
    rcases heffect.recovery owed hrecovery with
      ⟨_, _, _, _, _, _, _, latest, hlatest, hprevious⟩
    rw [hlatest]
    rw [hprevious] at hphase
    exact hphase
  | owns claimToken htoken hown =>
    have hsome : begun.claimToken.isSome = true := by
      rw [htoken]
      rfl
    cases hrecovery : begun.recovery with
    | none =>
      rw [← heffect.previous hrecovery hsome]
      exact hphase
    | some owed =>
      have hphase : begun.previousPhase = some phase := hphase
      rw [h.recovering hrecovery] at hphase
      cases hphase

theorem Begun.registered_before (hj : j.WellFormed)
    (h : Begun j intent now ttl j' begun) {intent' : TransitionIntent}
    (hregistered : j'.Registered transitionId intent')
    (hne : transitionId ≠ j.requests.length) :
    j.Registered transitionId intent' := by
  rcases (h.effect hj).requests with hsame | hmore
  · unfold Registered at hregistered ⊢
    rw [← hsame]
    exact hregistered
  · have hlt := hregistered.lt
    unfold Registered at hregistered ⊢
    rw [hmore, List.length_append, List.length_singleton] at hlt
    rw [hmore, List.getElem?_append_left (by omega)] at hregistered
    exact hregistered

end Begin
end TransitionJournal

/-!
# Calls of the adapter on record
-/

/-- An event of a transition says that its stage may have happened. -/
def TransitionJournal.suggestsStage (j : TransitionJournal) (transitionId : Nat) :
    Bool :=
  j.events.any (fun event =>
    event.transitionId = transitionId && event.phase ∈ stageRecoveryPhases)

/--
An attempt of a terminal transition whose journal suggests a stage reads its
task `In Validation` only if an attempt of it called the adapter.
-/
def reachedAdapter (w : World) (attempt : Option (Nat × Nat)) (r : Request) (_ : Choice) : Bool :=
  match r, attempt with
  | .fetch key, some (transitionId, _) =>
    !(w.journal.request? transitionId).any (fun row =>
        row.intent.requestedStatus.isTerminalTarget) ||
      !w.journal.suggestsStage transitionId ||
      !(w.tracker.find key).any (fun issue => issue.state = some .inValidation) ||
      transitionId ∈ w.stageCalls
  | _, _ => true

/-- The stages after a call of the adapter. -/
def Stage.Staged (s : Stage) : Prop :=
  s = .attempted true ∨ s = .faltered true

/-- The evidence of a claim, its find and its own call are on record. -/
structure StageOnRecord (w : World) (c : Claimed) (stage : Stage) : Prop where
  evidence : c.StageEvidence -> w.journal.suggestsStage c.transitionId = true
  found : forall issue, stage = .deciding issue -> c.FindsStage issue ->
    c.transitionId ∈ w.stageCalls
  called : stage.Staged -> c.transitionId ∈ w.stageCalls

section StageCalls

variable {w after : World} {attempt : Option (Nat × Nat)} {choice : Choice}
  {r : Request} {value : Answer r} {transitionId : Nat}

theorem stageCalls_called (h : transitionId ∈ w.stageCalls) :
    transitionId ∈ (w.called attempt r).stageCalls := by
  cases r with
  | stage intent issue => exact List.mem_append_right _ h
  | _ => exact h

theorem Performed.stageCalls (hperformed : Performed w attempt choice r after value)
    (h : transitionId ∈ w.stageCalls) : transitionId ∈ after.stageCalls := by
  cases hperformed with
  | stageHeld intent issue staged => exact List.mem_append_right _ h
  | stageMoved intent issue found staged hmoved hfound => exact List.mem_append_right _ h
  | update intent after hwritten =>
    rw [hwritten.same.right.right.right.right.left]
    exact h
  | commitDirectOwner intent after result hcommitted =>
    rw [hcommitted.same.right.right.right.right.left]
    exact h
  | commitGuarded intent after result hcommitted =>
    rw [hcommitted.same.right.right.right.right.left]
    exact h
  | _ => exact h

variable {service : TaskTransitionService}

/-- A report rests on what was read or on a call of the adapter. -/
theorem Stage.allows_report {c : Claimed}
    {s : Stage} {phase : TransitionPhase} {reasonCode : String} {outcome : TransitionOutcome}
    (h : s.allows service c (.append transitionId phase reasonCode (some outcome)))
    (hreports : ReportsStage c.intent outcome) :
    (exists issue, s = .deciding issue ∧ c.FindsStage issue) ∨ s.Staged := by
  have hstaged : forall staged, Concludes c staged transitionId phase (some outcome) -> staged := by
    intro staged hconcludes
    rcases hconcludes.outcome with ⟨o, hsome, _, hreason⟩
    cases hsome
    exact hreason hreports
  cases s with
  | deciding issue =>
    rcases h.left with ⟨_, hadmits⟩ | hconcludes
    · cases hadmits.outcome
    · exact .inl ⟨issue, rfl, hstaged _ hconcludes⟩
  | applying issue => exact (hstaged _ h).elim
  | attempted staged =>
    have hcalled : staged = true := hstaged _ h
    subst hcalled
    exact .inr (Or.inl rfl)
  | faltered staged =>
    have hcalled : staged = true := hstaged _ h
    subst hcalled
    exact .inr (Or.inr rfl)
  | _ => exact h.elim

/-- An execution reaches a stage after the adapter by calling it. -/
theorem Stage.next_staged {s : Stage} {answer : Except Failure (Answer r)}
    (h : (s.next service r answer).Staged) :
    s.Staged ∨ exists intent issue, r = .stage intent issue := by
  unfold Stage.Staged at h ⊢
  revert h
  fun_cases Stage.next service s r answer <;> simp

/-- What suggests a stage stays in the journal. -/
theorem Grows.suggestsStage {j j' : TransitionJournal} (hgrows : Grows j j')
    (h : j.suggestsStage transitionId = true) :
    j'.suggestsStage transitionId = true := by
  rcases List.any_eq_true.mp h with ⟨event, hevent, hsuggests⟩
  exact List.any_eq_true.mpr ⟨event, hgrows.events event hevent, hsuggests⟩

end StageCalls

variable {e : Execution}

/-- A read that finds a stage meets a call of the adapter. -/
theorem reached_of_finds {w : World} {c : Claimed} {stage : Stage}
    {key : TaskKey} {choice : Choice} (hj : w.journal.WellFormed)
    (hbacked : Backed w.journal e c stage) (hrecord : StageOnRecord w c stage)
    (hguard : reachedAdapter w e.attempt (.fetch key) choice = true)
    (hfinds : c.FindsStage ((w.tracker.find key).map
      (fun issue => issue.inProject e.service.projectId))) :
    c.transitionId ∈ w.stageCalls := by
  rcases hfinds with ⟨issue, hissue, hevidence, hterminal, hstate, _⟩
  rcases Option.map_eq_some_iff.mp hissue with ⟨found, hfound, rfl⟩
  rw [hbacked.attempt] at hguard
  have hrequest := hj.request?_of_registered hbacked.registered
  rw [Issue.inProject_state] at hstate
  simpa [reachedAdapter, hrequest, hterminal, hrecord.evidence hevidence, hfound,
    hstate] using hguard

/-- A journaled report names a transition that called the adapter. -/
def Journaled (w : World) : Prop :=
  forall event, event ∈ w.journal.events -> forall outcome intent, event.outcome = some outcome ->
    w.journal.Registered event.transitionId intent ->
    ReportsStage intent outcome -> event.transitionId ∈ w.stageCalls

theorem stageOnRecord_kept :
    Kept reachedAdapter (fun _ _ _ => true) Journaled (AnyRequest StageOnRecord) where
  same := by
    intro w w' c stage own hshared h
    constructor
    · rw [← hshared.journal]
      exact h.evidence
    · rw [← hshared.stageCalls]
      exact h.found
    · rw [← hshared.stageCalls]
      exact h.called
  called := by
    intro w attempt r c stage own h
    constructor
    · rw [(w.called_eq attempt r).left]
      exact h.evidence
    · exact fun issue hstage hfinds => stageCalls_called (h.found issue hstage hfinds)
    · exact fun hstaged => stageCalls_called (h.called hstaged)
  edited := by
    intro w key issue found e σ c stage r _ _ _ _ _ h
    exact ⟨h.evidence, h.found, h.called⟩
  others := by
    intro w after r value choice e e₀ σ σ₀ c stage own hj _ _ _ _ _ _ _ hperformed h
    constructor
    · exact fun hevidence => (hperformed.grows hj).suggestsStage (h.evidence hevidence)
    · exact fun issue hstage hfinds =>
        hperformed.stageCalls (h.found issue hstage hfinds)
    · exact fun hstaged => hperformed.stageCalls (h.called hstaged)
  works := by
    intro w after e σ c old r answer hj _ hworking heffect _ h _
    have hbacked := hworking.linked.backed hworking.claim
    -- The calls on record stay, and a call of the adapter joins them.
    have hcalls : (forall transitionId, transitionId ∈ w.stageCalls ->
        transitionId ∈ after.stageCalls) ∧
        ((exists intent issue, r = .stage intent issue) -> c.transitionId ∈ after.stageCalls) := by
      rcases heffect with ⟨choice, value, _, hperformed, _⟩ | ⟨failure, _, rfl⟩
      · refine ⟨fun _ hmem => hperformed.stageCalls hmem, ?_⟩
        rintro ⟨intent, issue, rfl⟩
        cases hperformed with
        | stageHeld intent issue staged =>
          rw [hbacked.attempt]
          exact List.mem_cons_self ..
        | stageMoved intent issue found staged hmoved hfound =>
          rw [hbacked.attempt]
          exact List.mem_cons_self ..
      · refine ⟨fun _ hmem => stageCalls_called hmem, ?_⟩
        rintro ⟨intent, issue, rfl⟩
        rw [hbacked.attempt]
        exact List.mem_cons_self ..
    constructor
    · intro hevidence
      have hsuggests := h.evidence hevidence
      rcases heffect with ⟨choice, value, _, hperformed, _⟩ | ⟨failure, _, rfl⟩
      · exact (hperformed.grows hj).suggestsStage hsuggests
      · rw [(w.called_eq e.attempt r).left]
        exact hsuggests
    · intro issue hstage hfinds
      rcases Stage.next_deciding hstage with ⟨hsame, _⟩ | hnone | ⟨rfl, hreads⟩
      · exact hcalls.left _ (h.found issue hsame hfinds)
      · rcases hfinds with ⟨found, hfound, _⟩
        rw [hnone] at hfound
        cases hfound
      · rcases hreads.found hworking heffect with ⟨⟨choice, hguard⟩, _, rfl⟩
        exact hcalls.left _ (reached_of_finds hj hbacked h hguard hfinds)
    · intro hstaged
      rcases Stage.next_staged hstaged with hold | hnew
      · exact hcalls.left _ (h.called hold)
      · exact hcalls.right hnew
  starts := by
    intro w after e e' σ ttl choice begun c hj _ _ hbegun _ _ _ _ _ hstarts _
    constructor
    · intro hevidence
      rcases (Option.any_eq_true _ _).mp hevidence.right with
        ⟨phase, hprevious, hphase⟩
      rcases Option.map_eq_some_iff.mp (hbegun.newest hj hstarts hprevious) with
        ⟨latest, hlatest, hsame⟩
      apply (hbegun.grows hj).suggestsStage
      have hevent := TransitionJournal.latestEvent_mem hlatest
      apply List.any_eq_true.mpr
      refine ⟨latest, hevent.left, ?_⟩
      rw [Bool.and_eq_true, decide_eq_true_eq, hsame]
      exact ⟨hevent.right, hphase⟩
    · intro issue hstage
      cases hstage
    · intro hstaged
      rcases hstaged with hstaged | hstaged <;> cases hstaged

/-!
# Reports
-/

/-- So does a report that is about to be journaled. -/
structure StageReported (w : World) : Prop where
  asked : forall (i : Nat) (e : Execution) (transitionId : Nat)
    (phase : TransitionPhase) (reasonCode : String) (outcome : TransitionOutcome)
    (intent : TransitionIntent), w.executions[i]? = some e ->
    e.pending = some (.append transitionId phase reasonCode (some outcome)) ->
    w.journal.Registered transitionId intent -> ReportsStage intent outcome ->
    transitionId ∈ w.stageCalls
  journaled : Journaled w

variable {intent : TransitionIntent} {outcome : TransitionOutcome}

theorem not_reportsStage (h : outcome.disposition = .waiting ∨ outcome.disposition = .retryable) :
    ¬ ReportsStage intent outcome := by
  rintro ⟨_, hstaged | ⟨hrecovered, _⟩⟩
  · rw [hstaged] at h
    rcases h with h | h <;> cases h
  · rw [hrecovered] at h
    rcases h with h | h <;> cases h

variable {transitionId : Nat} {phase : TransitionPhase} {reasonCode : String}

/-- A report follows from what is on record about its claim. -/
theorem reported_of_asks {w : World} {σ : Progress} (hlinked : Linked w.journal e σ)
    (hasks : Progress.Asks e.service e.lane e.intent σ
      (.append transitionId phase reasonCode (some outcome)))
    (hfact : forall c stage, σ.claim? = some (c, stage) -> stage.Open -> StageOnRecord w c stage)
    (hregistered : w.journal.Registered transitionId intent)
    (hreports : ReportsStage intent outcome) : transitionId ∈ w.stageCalls := by
  cases hasks with
  | notes c waiting reasonCode outcome houtcome =>
    rcases houtcome with ⟨o, hsome, hdisposition⟩
    cases hsome
    exact absurd hreports (not_reportsStage (Or.inl hdisposition))
  | works σ c stage r hclaim hstage =>
    rcases Stage.allows_append hstage with ⟨hopen, hid, _⟩
    have hrecord := hfact c stage hclaim hopen
    have hintent : intent = c.intent :=
      hregistered.unique (hid ▸ (hlinked.backed hclaim).registered)
    subst hintent
    rw [hid]
    rcases stage.allows_report hstage hreports with
      ⟨issue, hdeciding, hfinds⟩ | hstaged
    · exact hrecord.found issue hdeciding hfinds
    · exact hrecord.called hstaged

theorem Stage.Open.live {s : Stage} (h : s.Open) : s.Live := by
  constructor
  · rintro rfl
    exact h
  · rintro rfl
    exact h

section Journal

variable {w after : World} {attempt : Option (Nat × Nat)} {choice : Choice}
  {r : Request} {value : Answer r}

/-- A call journals true reports if its own is true. -/
theorem Journaled.performed (hj : w.journal.WellFormed) (h : Journaled w)
    (hperformed : Performed w attempt choice r after value)
    (hnew : forall transitionId phase reasonCode outcome intent,
      r = .append transitionId phase reasonCode (some outcome) ->
      w.journal.Registered transitionId intent ->
      ReportsStage intent outcome -> transitionId ∈ w.stageCalls) :
    Journaled after := by
  have hquiet : after.journal.events = w.journal.events ->
      after.journal.requests = w.journal.requests -> Journaled after := by
    intro hevents hrequests event hevent outcome intent houtcome hregistered hreports
    rw [hevents] at hevent
    have hregistered : w.journal.Registered event.transitionId intent := by
      unfold TransitionJournal.Registered at hregistered ⊢
      rw [← hrequests]
      exact hregistered
    exact hperformed.stageCalls (h event hevent outcome intent houtcome hregistered hreports)
  cases hr : r.journals with
  | false =>
    have hsame := hperformed.journal hr
    apply hquiet <;> rw [hsame]
  | true =>
    cases hperformed with
    | begin_ intent ttl journal begun hbegun =>
      intro event hevent outcome intent' houtcome hregistered hreports
      rcases (hbegun.effect hj).events with
        ⟨first, rest, hevents, hfirst, hrest⟩
      have hevent : event ∈ journal.events := hevent
      rw [hevents] at hevent
      rcases List.mem_append.mp hevent with hold | hadded
      · have hlt := hj.known event hold
        have hbefore := hbegun.registered_before hj hregistered (by omega)
        exact h event hold outcome intent' houtcome hbefore hreports
      · rcases List.mem_append.mp hadded with hmem | hmem
        · rcases hfirst with rfl | ⟨_, rfl⟩
          · cases hmem
          · rw [List.mem_singleton] at hmem
            subst hmem
            cases houtcome
        · rcases (hrest event hmem).right.right.right.right with
            ⟨o, hsome, hdisposition⟩
          rw [houtcome] at hsome
          cases hsome
          exact absurd hreports (not_reportsStage hdisposition)
    | append transitionId phase reasonCode written row hrow =>
      intro event hevent outcome intent houtcome hregistered hreports
      rcases List.mem_append.mp hevent with hold | hadded
      · exact h event hold outcome intent houtcome hregistered hreports
      · rw [List.mem_singleton] at hadded
        subst hadded
        have houtcome : written = some outcome := houtcome
        subst houtcome
        exact hnew transitionId phase reasonCode outcome intent rfl hregistered hreports
    | release key claimToken released => exact hquiet rfl rfl
    | expireForRetry key claimToken retained => exact hquiet rfl rfl
    | _ => cases hr

end Journal

variable {x : Traced}

/-- What an execution asks to journal is on record. -/
theorem Sound.asked (hsound : Sound x) (hagents : EveryAgent x (AnyRequest StageOnRecord)) {i : Nat}
    {resume : Except Failure Unit -> Saga TransitionOutcome}
    (hindex : x.world.executions[i]? = some e) (hprogram : e.program =
      .request (.append transitionId phase reasonCode (some outcome)) resume)
    (hregistered : x.world.journal.Registered transitionId intent)
    (hreports : ReportsStage intent outcome) :
    transitionId ∈ x.world.stageCalls := by
  apply reported_of_asks (hsound.linked i e hindex) (hsound.asks hindex hprogram)
    _ hregistered hreports
  intro c stage hclaim hopen
  apply hagents.live i e c stage _ hindex hclaim hopen.live
  unfold Execution.pending
  rw [hprogram]

/-- So is what a call that was left behind journals. -/
theorem Sound.askedLate (hsound : Sound x)
    (hagents : EveryAgent x (AnyRequest StageOnRecord)) {call : DetachedRequest}
    (hcall : call ∈ x.world.detached)
    (hrequest : call.request = .append transitionId phase reasonCode (some outcome))
    (hregistered : x.world.journal.Registered transitionId intent)
    (hreports : ReportsStage intent outcome) :
    transitionId ∈ x.world.stageCalls := by
  by_cases hbody : call.request.Body call.attempt
  · rcases hagents.left call hcall hbody with
      ⟨e, σ, c, stage, _, hworking, hrecord⟩
    have hallowed := hworking.allowed
    rw [hrequest] at hallowed
    have hasks : Progress.Asks e.service e.lane e.intent σ
        (.append transitionId phase reasonCode (some outcome)) :=
      Progress.Asks.works σ c stage _ hworking.claim hallowed
    apply reported_of_asks hworking.linked hasks _ hregistered hreports
    intro c' stage' hclaim' _
    rw [hworking.claim] at hclaim'
    cases hclaim'
    exact hrecord
  · rcases hsound.snapshots call hcall with ⟨e, σ, _, hattempt, hlinked, hasks⟩
    rw [hrequest] at hasks hbody
    cases hasks with
    | notes c waiting reasonCode outcome houtcome =>
      rcases houtcome with ⟨o, hsome, hdisposition⟩
      cases hsome
      exact absurd hreports (not_reportsStage (Or.inl hdisposition))
    | works σ c stage r hclaim hstage =>
      exfalso
      apply hbody
      show call.attempt.map Prod.fst = some transitionId
      rw [← hattempt, (hlinked.backed hclaim).attempt, (Stage.allows_append hstage).right.left]
      rfl

theorem Journaled.step (hsound : Sound x)
    (hagents : EveryAgent x (AnyRequest StageOnRecord)) (h : Journaled x.world)
    (s : WorldStep) : Journaled (x.step s).world := by
  have hmoved := x.moved_step s
  generalize x.step s = x' at hmoved
  cases hmoved with
  | idle => exact h
  | submitted service lane intent => exact h
  | answered index resolution e r resume after answer hindex hprogram hresolve =>
    have hdone : forall choice value,
        Performed x.world e.attempt choice r after value -> Journaled after := by
      intro choice value hperformed
      apply h.performed hsound.wellFormed hperformed
      intro transitionId phase reasonCode outcome intent hr hregistered hreports
      subst hr
      exact hsound.asked hagents hindex hprogram hregistered hreports
    have hafter : Journaled after := by
      cases resolve_eq_some hresolve with
      | returned choice after value hperformed => exact hdone choice value hperformed
      | failed resolution failure =>
        intro event hevent outcome intent houtcome hregistered hreports
        rw [(x.world.called_eq e.attempt r).left] at hevent hregistered
        exact stageCalls_called (h event hevent outcome intent houtcome hregistered hreports)
      | lost choice raised after value hwrites hperformed =>
        exact hdone choice value hperformed
      | detached => exact h
    exact hafter
  | finished position choice call r after value hcall hrequest hperformed =>
    apply Journaled.performed (w := Traced.takeDetached x.world position)
      hsound.wellFormed h hperformed
    intro transitionId phase reasonCode outcome intent hr hregistered hreports
    rw [hr] at hrequest
    exact hsound.askedLate hagents (List.mem_of_getElem? hcall) hrequest hregistered hreports
  | dropped position choice => exact h
  | edited key issue found hfound => exact h

/--
While no attempt of a terminal transition that never called the adapter reads
its task `In Validation` after an event that suggests a stage, every report of a
terminal stage names a transition that called the adapter.
-/
theorem stageReported_run (tracker : Tracker) (steps : List WorldStep) (hguard : Guarded World.step
      (fun w s => effective reachedAdapter (fun _ _ _ => true) w s = true)
      { tracker := tracker } steps) :
    StageReported (run World.step { tracker := tracker } steps) := by
  rcases everyAgent_run stageOnRecord_kept
    (fun x s hsound hagents hjournaled _ => hjournaled.step hsound hagents s)
    tracker (fun _ hevent => nomatch hevent) steps hguard with
    ⟨x, hworld, hsound, hagents, hjournaled⟩
  rw [← hworld]
  constructor
  · intro i e transitionId phase reasonCode outcome intent hindex hpending hregistered hreports
    rcases program_of_pending hpending with ⟨resume, hprogram⟩
    exact hsound.asked hagents hindex hprogram hregistered hreports
  · exact hjournaled

/-- A task in review and an intent that stages it for `Done`. -/
def reviewedTracker : Tracker :=
  [(sampleIntent.key, { sampleIssue with state := some .inReview })]

def doneIntent : TransitionIntent :=
  { sampleIntent with expectedStatus := .inReview, requestedStatus := .done }

/-- Another intent of the same task with another terminal target. -/
def archiveIntent : TransitionIntent :=
  { doneIntent with requestedStatus := .archived, idempotencyKey := "key-2" }

/-- The adapter stages the task, and the stage is reported. -/
def stageRun : List WorldStep :=
  [.submit sampleService .ordinary doneIntent,
    .answer 0 (.returnsAt 0), .answer 0 (.returnsAt 1), .answer 0 (.returnsAt 1),
    .answer 0 (.returnsAt 1), .answer 0 (.returnsAt 1), .answer 0 (.returnsAt 1)]

/-- One intent fails to read its task; the other one stages it. -/
def misledRun : List WorldStep :=
  [.submit sampleService .ordinary doneIntent,
    .answer 0 (.returnsAt 0), .answer 0 (.raises (.exception "OSError")),
    .answer 0 (.returnsAt 1), .answer 0 (.returnsAt 1),
    .submit sampleService .ordinary archiveIntent,
    .answer 1 (.returnsAt 2), .answer 1 (.returnsAt 2), .answer 1 (.returnsAt 2),
    .answer 1 (.returnsAt 2), .answer 1 (.returnsAt 2), .answer 1 (.returnsAt 2),
    .answer 1 (.returnsAt 2),
    .submit sampleService .ordinary doneIntent,
    .answer 2 (.returnsAt 3), .answer 2 (.returnsAt 3), .answer 2 (.returnsAt 3)]

theorem stageReported_stage :
    StageReported (run World.step { tracker := reviewedTracker } stageRun) :=
  stageReported_run reviewedTracker stageRun (by decide +kernel)

theorem misled_reports : ¬ forall (tracker : Tracker) (steps : List WorldStep),
      StageReported (run World.step { tracker := tracker } steps) := by
  intro h
  have hjournaled := (h reviewedTracker misledRun).journaled
  have hevent : (run World.step { tracker := reviewedTracker }
      misledRun).journal.latestEvent 0 = some
        { transitionId := 0
          phase := .recovered
          reasonCode := "transition.terminal_stage_recovered"
          outcome := some
            { outcomeOf 0 doneIntent .recovered
                "transition.terminal_stage_recovered"
                ((run World.step { tracker := reviewedTracker }
                  misledRun).tracker.find doneIntent.key) with
              appliedStatus := some .inValidation } } := by
    decide +kernel
  have hregistered : (run World.step { tracker := reviewedTracker }
      misledRun).journal.Registered 0 doneIntent := by
    unfold TransitionJournal.Registered
    decide +kernel
  have hmem := TransitionJournal.latestEvent_mem hevent
  have hcalled := hjournaled _ hmem.left _ doneIntent rfl hregistered ⟨rfl, Or.inr ⟨rfl, rfl⟩⟩
  revert hcalled
  decide +kernel

end TaskTransitions
end Oompah
