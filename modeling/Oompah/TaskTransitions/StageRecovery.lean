import Oompah.TaskTransitions.Lanes
import Oompah.TaskTransitions.StageReports

/-!
# Recovery of a terminal stage

An executor that dies after the adapter moved its task leaves an unfinished
transition behind.  The next owner of the claim knows of the stage by the newest
journal phase alone, and a begin that meets the live claim of the dead executor
appends a waiting note to the same transition.  The stage is recovered in the
runs where no such note is the newest event when the transition is taken.
-/

namespace Oompah
namespace TaskTransitions

open Foundation

/-!
# Transitions that a begin takes
-/

namespace TransitionJournal

instance (j : TransitionJournal) (transitionId : Nat) : Decidable (j.Ended transitionId) :=
  inferInstanceAs (Decidable (exists event, event ∈ j.events ∧ _))

/-- An attempt of a transition was about to write. -/
def Applied (j : TransitionJournal) (transitionId : Nat) : Prop :=
  exists event, event ∈ j.events ∧ event.transitionId = transitionId ∧ event.phase = .applying

/-- The transition a claim is granted for, when its own one is `own`. -/
def due (j : TransitionJournal) (key : TaskKey) (own : Option Nat) (now : Int) :
    Option Nat :=
  match j.claim? key with
  | none => own
  | some active =>
    if now < active.leaseExpiresAt then none
    else if (j.latestEvent active.transitionId).any (·.phase.isFinal) then own
    else some active.transitionId

/-- The transition that a begin takes, if it was registered before. -/
def taken (j : TransitionJournal) (intent : TransitionIntent) (now : Int) :
    Option Nat :=
  j.due intent.key ((j.requestFor intent).map (·.transitionId)) now

section Taken

variable {j j' : TransitionJournal} {intent : TransitionIntent}
  {transitionId claimToken : Nat} {previousPhase : Option TransitionPhase}
  {now ttl : Int} {begun : BeginResult}

theorem Acquired.due (h : Acquired j intent transitionId previousPhase now ttl claimToken j' begun)
    {own token : Nat} (hgranted : granted begun = some (own, token)) :
    j.due intent.key (some transitionId) now = some own := by
  unfold TransitionJournal.due
  cases h with
  | free hfree =>
    cases hgranted
    rw [hfree]
    rfl
  | waiting active hactive outcome hlive hwaiting => cases hgranted
  | replaced active hactive hexpired hdone =>
    cases hgranted
    simp only [hactive, if_neg (Int.not_lt.mpr hexpired)]
    rcases hdone with rfl | ⟨latest, hlatest, hfinal⟩
    · split <;> rfl
    · rw [hlatest, Option.any_some, if_pos hfinal]
      rfl
  | recovered active request latest hactive hexpired hother hrequest hkey hlatest
      hopen =>
      cases hgranted
      simp only [hactive, if_neg (Int.not_lt.mpr hexpired), hlatest,
        Option.any_some, hopen, Bool.false_eq_true, if_false]
      rfl

/-- A begin grants the transition it takes, or a new one. -/
theorem Begun.taken (hj : j.WellFormed) (h : Begun j intent now ttl j' begun)
    {own token : Nat} (hgranted : granted begun = some (own, token)) :
    j.taken intent now = some own ∨ own = j.requests.length := by
  unfold TransitionJournal.taken
  cases h with
  | conflicting row outcome => cases hgranted
  | replayed row latest outcome hrow hintent hlatest hfinal houtcome => cases hgranted
  | resumed row hrow hintent hopen hacquired =>
    left
    rw [hrow]
    exact hacquired.due hgranted
  | registered hnone hacquired =>
    have hdue := hacquired.due hgranted
    unfold TransitionJournal.due at hdue ⊢
    have hclaim : (({ j with issued := j.issued + 1 }
        : TransitionJournal).register intent).claim? intent.key =
        j.claim? intent.key := rfl
    rw [hclaim] at hdue
    cases hactive : j.claim? intent.key with
    | none =>
      rw [hactive] at hdue
      exact .inr (Option.some.inj hdue).symm
    | some active =>
      -- The new request leaves the events of an older transition alone.
      have hlatest : (({ j with issued := j.issued + 1 }
          : TransitionJournal).register intent).latestEvent
            active.transitionId = j.latestEvent active.transitionId := by
        rcases (hj.claimed active.key active.transitionId active.claimToken
          ⟨active, List.mem_of_find?_eq_some hactive, rfl, rfl, rfl⟩).right with
          ⟨intent', hregistered, _⟩
        exact latestEvent_appendLocked_ne (Nat.ne_of_gt hregistered.lt) _ _ _
      simp only [hactive, hlatest] at hdue ⊢
      split at hdue
      · cases hdue
      · rename_i hexpired
        split at hdue
        · exact .inr (Option.some.inj hdue).symm
        · rename_i hopen
          rw [if_neg hexpired, if_neg hopen]
          exact .inl hdue

/-- The owner of a claim knows the newest phase of its transition. -/
theorem Begun.grants (hj : j.WellFormed) {e : Execution} {c : Claimed}
    (h : Begun j intent now ttl j' begun) (hstarts : Starts e begun c)
    (hown : j'.Owns intent.key c.transitionId c.claimToken) :
    granted begun = some (c.transitionId, c.claimToken) ∧
      c.previousPhase = (j.latestEvent c.transitionId).map (·.phase) := by
  have heffect := h.effect hj
  cases hstarts with
  | recovers owed claimToken hrecovery htoken =>
    constructor
    · unfold granted
      rw [htoken, hrecovery]
      rfl
    · rcases heffect.recovery owed hrecovery with
        ⟨_, _, _, _, _, _, _, latest, hlatest, hprevious⟩
      rw [hlatest, hprevious]
      rfl
  | owns claimToken htoken hsecond =>
    have hsome : begun.claimToken.isSome = true := by
      rw [htoken]
      rfl
    cases hrecovery : begun.recovery with
    | none =>
      constructor
      · unfold granted
        rw [htoken, hrecovery]
        rfl
      · exact heffect.previous hrecovery hsome
    | some owed =>
      -- The claim names the transition that was handed out.
      have hgranted : granted begun = some (owed.transitionId, claimToken) := by
        unfold granted
        rw [htoken, hrecovery]
        rfl
      have hnamed := ((heffect.granted _ _ hgranted).right.right.right _ _).mp hown
      rcases heffect.recovery owed hrecovery with ⟨_, _, _, _, _, _, hne, _⟩
      exact absurd hnamed.left.symm hne

/-- The newest event after an `applying` one is not a request. -/
theorem WellFormed.newest_of_applied (hj : j.WellFormed) (h : j.Applied transitionId) :
    exists latest, j.latestEvent transitionId = some latest ∧ latest.phase ≠ .requested := by
  rcases h with ⟨event, hevent, hid, hphase⟩
  rcases latestEvent_of_mem hevent hid with ⟨latest, hlatest, rfl | hbefore⟩
  · refine ⟨event, hlatest, ?_⟩
    rw [hphase]
    intro hrequested
    cases hrequested
  · refine ⟨latest, hlatest, ?_⟩
    exact List.pairwise_pair.mp (hj.requestedFirst.sublist hbefore)
      (hid.trans (latestEvent_mem hlatest).right.symm)

end Taken
end TransitionJournal

/-!
# Evidence of a stage
-/

/--
The adapter runs while the claim carries the token of its attempt.  A begin that
takes a transition whose stage moved the task finds no waiting note as its newest
event, and no intent that recovery runs in the compensation lane.
-/
def keepsEvidence (w : World) (attempt : Option (Nat × Nat)) (r : Request)
    (choice : Choice) : Bool :=
  match r with
  | .stage _ _ => w.holdsClaim attempt
  | .begin_ intent _ =>
    (w.journal.taken intent choice.now).all (fun transitionId =>
      !(transitionId ∈ w.stageMoves) || w.journal.Ended transitionId ||
        !(w.journal.latestEvent transitionId).any (fun latest =>
            latest.phase = .waiting) &&
          !(w.journal.request? transitionId).any (fun row =>
            isAuthorizedRecoveryIntent row.intent))
  | _ => true

/-- The task of an intent, if there is one, is in its project. -/
def Allots (tracker : Tracker) (intent : TransitionIntent) : Prop :=
  forall found, tracker.find intent.key = some found -> OfProject intent found

/-- What is known about the stages that moved their task. -/
structure StagesKnown (w : World) : Prop where
  applied : forall transitionId, transitionId ∈ w.stageMoves -> w.journal.Applied transitionId
  staged : forall transitionId, transitionId ∈ w.stageMoves -> exists intent,
    w.journal.Registered transitionId intent ∧
      intent.requestedStatus.isTerminalTarget = true ∧ Allots w.tracker intent

/-- A claim on a transition that moved its task starts with the evidence of it. -/
structure StageKnown (w : World) (c : Claimed) (stage : Stage) : Prop where
  evidence : stage = .reading -> (exists key, w.journal.Owns key c.transitionId c.claimToken) ->
    c.transitionId ∈ w.stageMoves -> ¬ w.journal.Ended c.transitionId ->
    c.StageEvidence
  decided : forall issue, stage = .deciding (some issue) ->
    OfProject c.intent issue -> Allots w.tracker c.intent
  applied : forall issue, stage = .applying issue ->
    w.journal.Applied c.transitionId ∧ Allots w.tracker c.intent

section Effects

variable {w after : World} {attempt : Option (Nat × Nat)} {choice : Choice}
  {r : Request} {value : Answer r} {intent : TransitionIntent}

theorem Allots.set {tracker : Tracker} {key : TaskKey} {found issue : Issue}
    (h : Allots tracker intent) (hfound : tracker.find key = some found)
    (hproject : issue.projectId = found.projectId) :
    Allots (tracker.set key issue) intent := by
  intro stored hstored
  rw [Tracker.find_set] at hstored
  split at hstored
  · rename_i hkey
    rw [hkey, hfound] at hstored
    cases hstored
    unfold OfProject
    rw [hproject]
    exact h found (hkey ▸ hfound)
  · exact h stored hstored

theorem Performed.allots (hperformed : Performed w attempt choice r after value)
    (h : Allots w.tracker intent) : Allots after.tracker intent := by
  rcases hperformed.tracker with
    hsame | ⟨target, found, status, _, hfound, hwritten⟩
  · rw [hsame]
    exact h
  · rw [hwritten]
    exact h.set hfound rfl

theorem Grows.applied {j j' : TransitionJournal} (hgrows : Grows j j')
    {transitionId : Nat} (h : j.Applied transitionId) : j'.Applied transitionId := by
  rcases h with ⟨event, hevent, hid, hphase⟩
  exact ⟨event, hgrows.events event hevent, hid, hphase⟩

/-- Only a stage that moves its task adds to the moves. -/
theorem Performed.stageMoves (hperformed : Performed w attempt choice r after value)
    {transitionId : Nat} (h : transitionId ∈ after.stageMoves) :
    transitionId ∈ w.stageMoves ∨ (exists intent issue, r = .stage intent issue) ∧
        attempt.map Prod.fst = some transitionId := by
  cases hperformed with
  | stageMoved intent issue found staged hmoved hfound =>
    rcases List.mem_append.mp h with hnew | hold
    · right
      refine ⟨⟨intent, issue, rfl⟩, ?_⟩
      simpa using hnew
    · exact .inl hold
  | update intent after hwritten =>
    rw [hwritten.same.right.right.right.right.right] at h
    exact .inl h
  | commitDirectOwner intent after result hcommitted =>
    rw [hcommitted.same.right.right.right.right.right] at h
    exact .inl h
  | commitGuarded intent after result hcommitted =>
    rw [hcommitted.same.right.right.right.right.right] at h
    exact .inl h
  | _ => exact .inl h

/-- A read says whether the task is in its project. -/
theorem allots_of_read {tracker : Tracker} {projectId : String} {issue : Issue}
    (hread : (tracker.find intent.key).map (fun found => found.inProject projectId) = some issue)
    (h : OfProject intent issue) : Allots tracker intent := by
  intro found hfound
  rw [hfound] at hread
  cases hread
  have h : OfProject intent (found.inProject projectId) := h
  unfold Issue.inProject at h
  split at h
  · rename_i hempty
    exact .inl hempty
  · exact h

end Effects

variable {c : Claimed}

/-- A begin that takes a transition whose stage moved the task knows of it. -/
theorem evidence_of_begun {w : World} {j' : TransitionJournal}
    {e e' : Execution} {σ : Progress} {ttl : Int} {choice : Choice}
    {begun : BeginResult} (hj : w.journal.WellFormed) (hknown : StagesKnown w)
    (hguard : keepsEvidence w e.attempt (.begin_ e.intent ttl) choice = true)
    (hbegun : TransitionJournal.Begun w.journal e.intent choice.now ttl j' begun)
    (hlinked : Linked j' e' σ) (hclaim : σ.claim? = some (c, .reading))
    (hstarts : Starts e begun c) {key : TaskKey} (hown : j'.Owns key c.transitionId c.claimToken)
    (hmoved : c.transitionId ∈ w.stageMoves)
    (hopen : ¬ w.journal.Ended c.transitionId) : c.StageEvidence := by
  have hkey : key = e.intent.key := by
    rw [(hlinked.backed hclaim).owned key _ hown]
    cases hstarts with
    | recovers owed claimToken hrecovery htoken =>
      exact ((hbegun.effect hj).recovery owed hrecovery).right.right.right.right
        |>.right.left
    | owns claimToken htoken hsecond => rfl
  subst hkey
  rcases hbegun.grants hj hstarts hown with ⟨hgranted, hprevious⟩
  rcases hknown.staged _ hmoved with ⟨intent, hregistered, _, _⟩
  have hintent : intent = c.intent :=
    ((hbegun.grows hj).registered _ _ hregistered).unique (hlinked.backed hclaim).registered
  subst hintent
  have htaken := (hbegun.taken hj hgranted).resolve_right (Nat.ne_of_lt hregistered.lt)
  rcases hj.newest_of_applied (hknown.applied _ hmoved) with
    ⟨latest, hlatest, hrequested⟩
  have hguard : latest.phase ≠ .waiting ∧ isAuthorizedRecoveryIntent c.intent = false := by
    simpa [keepsEvidence, htaken, hmoved, hopen, hlatest,
      hj.request?_of_registered hregistered] using hguard
  constructor
  · exact claimed_ordinary hlinked hclaim hguard.right
  · have hevent := TransitionJournal.latestEvent_mem hlatest
    have hfinal : latest.phase.isFinal ≠ true := fun hfinal =>
      hopen ⟨latest, hevent.left, hevent.right, hfinal⟩
    rw [hprevious, hlatest]
    show decide (latest.phase ∈ stageRecoveryPhases) = true
    cases hphase : latest.phase with
    | requested => exact absurd hphase hrequested
    | waiting => exact absurd hphase hguard.left
    | applying => rfl
    | verifyPending => rfl
    | retryScheduled => rfl
    | _ =>
      rw [hphase] at hfinal
      exact absurd rfl hfinal

theorem stageKnown_kept :
    Kept keepsEvidence (fun _ _ _ => true) StagesKnown (AnyRequest StageKnown) where
  same := by
    intro w w' c stage own hshared h
    constructor
    · rw [← hshared.journal, ← hshared.stageMoves]
      exact h.evidence
    · rw [← hshared.tracker]
      exact h.decided
    · rw [← hshared.journal, ← hshared.tracker]
      exact h.applied
  called := by
    intro w attempt r c stage own h
    rcases w.called_eq attempt r with ⟨hjournal, _, _, htracker, _, hmoves⟩
    constructor
    · rw [hjournal, hmoves]
      exact h.evidence
    · rw [htracker]
      exact h.decided
    · rw [hjournal, htracker]
      exact h.applied
  edited := by
    intro w key issue found e σ c stage r _ _ hfound _ _ h
    constructor
    · exact h.evidence
    · exact fun issue hstage hproject => (h.decided issue hstage hproject).set hfound rfl
    · intro issue hstage
      rcases h.applied issue hstage with ⟨happlied, hallots⟩
      exact ⟨happlied, hallots.set hfound rfl⟩
  others := by
    intro w after r value choice e e₀ σ σ₀ c stage own hj _ hlinked hclaim hlinked₀
      hasks₀ hapart hguard hperformed h
    have hbacked := hlinked.backed hclaim
    have hgrows := hperformed.grows hj
    constructor
    · rintro hreading ⟨key, hown⟩ hmoved hopen
      have hown := hgrows.owned key _ _ hbacked.issued hown
      rcases hperformed.stageMoves hmoved with hold | ⟨⟨intent, issue, rfl⟩, hid⟩
      · exact h.evidence hreading ⟨key, hown⟩ hold (fun hended => hopen (hgrows.ended hended))
      · exfalso
        cases hasks₀ with
        | works σ c₀ stage₀ r hclaim₀ hstage₀ =>
          have hbacked₀ := hlinked₀.backed hclaim₀
          rw [hbacked₀.attempt] at hid
          have hid : c₀.transitionId = c.transitionId := Option.some.inj hid
          have hintent : c₀.intent = c.intent :=
            hbacked₀.registered.unique (hid ▸ hbacked.registered)
          exact hapart trivial c₀ stage₀ hclaim₀ (holder_unique hj hbacked
            hbacked₀ (congrArg TransitionIntent.key hintent) hguard ⟨_, _, hown⟩)
    · exact fun issue hstage hproject =>
        hperformed.allots (h.decided issue hstage hproject)
    · intro issue hstage
      rcases h.applied issue hstage with ⟨happlied, hallots⟩
      exact ⟨hgrows.applied happlied, hperformed.allots hallots⟩
  works := by
    intro w after e σ c old r answer hj _ hworking heffect _ h _
    have hbacked := hworking.linked.backed hworking.claim
    have hallots : Allots w.tracker c.intent -> Allots after.tracker c.intent := by
      intro hallots
      rcases heffect with ⟨choice, value, _, hperformed, _⟩ | ⟨failure, _, rfl⟩
      · exact hperformed.allots hallots
      · rw [(w.called_eq e.attempt r).right.right.right.left]
        exact hallots
    constructor
    · intro hreading
      exact absurd hreading Stage.next_ne_reading
    · intro issue hstage hproject
      apply hallots
      rcases Stage.next_deciding hstage with ⟨hsame, _⟩ | hnone | ⟨rfl, hreads⟩
      · exact h.decided issue hsame hproject
      · cases hnone
      · exact allots_of_read (hreads.found hworking heffect).right.right.symm hproject
    · intro issue hstage
      rcases Stage.next_applying hstage with ⟨hdeciding, happlies⟩
      have hallowed := hworking.allowed
      rw [hdeciding] at hallowed
      cases happlies with
      | appended transitionId reasonCode outcome =>
        have hadmits : Admits c (some issue) transitionId outcome := by
          rcases hallowed.left with ⟨_, hadmits⟩ | hconcludes
          · exact hadmits
          · exact absurd rfl hconcludes.ne_applying
        rcases hadmits.issue with ⟨found, hfound, _, hproject⟩
        cases hfound
        refine ⟨?_, hallots (h.decided issue hdeciding hproject)⟩
        rcases heffect with ⟨choice, value, _, hperformed, _⟩ | ⟨failure, hanswer, _⟩
        · cases hperformed with
          | append transitionId phase reasonCode outcome row hrow =>
            exact ⟨_, List.mem_append_right _ (List.mem_singleton_self _), hadmits.names, rfl⟩
        · cases hanswer
  starts := by
    intro w after e e' σ ttl choice begun c hj hknown hguard hbegun htracker _
      hmoves hlinked hclaim hstarts _
    constructor
    · rintro _ ⟨key, hown⟩ hmoved hopen
      rw [hmoves] at hmoved
      exact evidence_of_begun hj hknown hguard hbegun hlinked hclaim hstarts hown
        hmoved (fun hended => hopen ((hbegun.grows hj).ended hended))
    · intro issue hstage
      cases hstage
    · intro issue hstage
      cases hstage

/-!
# Moves of a stage
-/

theorem StagesKnown.same {w w' : World} (h : StagesKnown w)
    (hshared : Shared w w') : StagesKnown w' := by
  constructor
  · rw [← hshared.stageMoves, ← hshared.journal]
    exact h.applied
  · rw [← hshared.stageMoves, ← hshared.journal, ← hshared.tracker]
    exact h.staged

variable {e : Execution}

/-- A call of the adapter comes after the `applying` event of its attempt. -/
theorem StagesKnown.performed {w after : World} {σ : Progress}
    {choice : Choice} {r : Request} {value : Answer r}
    (hj : w.journal.WellFormed) (h : StagesKnown w)
    (hperformed : Performed w e.attempt choice r after value)
    (hagent : forall intent issue, r = .stage intent issue ->
      exists c stage, Working w e σ c stage r ∧ StageKnown w c stage) :
    StagesKnown after := by
  have hgrows := hperformed.grows hj
  have hold : forall transitionId, transitionId ∈ w.stageMoves ->
      after.journal.Applied transitionId ∧ exists intent,
        after.journal.Registered transitionId intent ∧
          intent.requestedStatus.isTerminalTarget = true ∧
          Allots after.tracker intent := by
    intro transitionId hmoved
    rcases h.staged transitionId hmoved with
      ⟨intent, hregistered, hterminal, hallots⟩
    exact ⟨hgrows.applied (h.applied transitionId hmoved), intent,
      hgrows.registered _ _ hregistered, hterminal, hperformed.allots hallots⟩
  have hnew : forall transitionId, transitionId ∈ after.stageMoves ->
      transitionId ∉ w.stageMoves -> after.journal.Applied transitionId ∧
        exists intent, after.journal.Registered transitionId intent ∧
          intent.requestedStatus.isTerminalTarget = true ∧
          Allots after.tracker intent := by
    intro transitionId hmoved hfresh
    rcases hperformed.stageMoves hmoved with hmoved | ⟨⟨intent, issue, hr⟩, hid⟩
    · exact absurd hmoved hfresh
    · rcases hagent intent issue hr with ⟨c, stage, hworking, hknown⟩
      have hbacked := hworking.linked.backed hworking.claim
      rw [hbacked.attempt] at hid
      cases hid
      have hallowed := hworking.allowed
      rw [hr] at hallowed
      cases stage with
      | applying issue =>
        rcases hknown.applied issue rfl with ⟨happlied, hallots⟩
        exact ⟨hgrows.applied happlied, c.intent,
          hgrows.registered _ _ hbacked.registered, hallowed.right,
          hperformed.allots hallots⟩
      | _ => exact hallowed.elim
  constructor
  · intro transitionId hmoved
    by_cases hmem : transitionId ∈ w.stageMoves
    · exact (hold transitionId hmem).left
    · exact (hnew transitionId hmoved hmem).left
  · intro transitionId hmoved
    by_cases hmem : transitionId ∈ w.stageMoves
    · exact (hold transitionId hmem).right
    · exact (hnew transitionId hmoved hmem).right

variable {x : Traced}

theorem StagesKnown.step (hsound : Sound x)
    (hagents : EveryAgent x (AnyRequest StageKnown)) (h : StagesKnown x.world) (s : WorldStep) :
    StagesKnown (x.step s).world := by
  have hmoved := x.moved_step s
  generalize x.step s = x' at hmoved
  cases hmoved with
  | idle => exact h
  | submitted service lane intent => exact ⟨h.applied, h.staged⟩
  | answered index resolution e r resume after answer hindex hprogram hresolve =>
    have hdone : forall choice value,
        Performed x.world e.attempt choice r after value -> StagesKnown after := by
      intro choice value hperformed
      apply h.performed hsound.wellFormed hperformed
      intro intent issue hr
      subst hr
      rcases hsound.working_of_body hindex (hsound.asks hindex hprogram) trivial
        with ⟨c, stage, hworking, hlive⟩
      refine ⟨c, stage, hworking, ?_⟩
      apply hagents.live index e c stage (.stage intent issue) hindex hworking.claim hlive
      unfold Execution.pending
      rw [hprogram]
    have hafter : StagesKnown after := by
      cases resolve_eq_some hresolve with
      | returned choice after value hperformed => exact hdone choice value hperformed
      | failed resolution failure =>
        rcases x.world.called_eq e.attempt r with
          ⟨hjournal, _, _, htracker, _, hmoves⟩
        constructor
        · rw [hjournal, hmoves]
          exact h.applied
        · rw [hjournal, hmoves, htracker]
          exact h.staged
      | lost choice raised after value hwrites hperformed =>
        exact hdone choice value hperformed
      | detached => exact ⟨h.applied, h.staged⟩
    exact ⟨hafter.applied, hafter.staged⟩
  | finished position choice call r after value hcall hrequest hperformed =>
    rcases performed_takeDetached hperformed with ⟨after', hperformed', hshared⟩
    apply StagesKnown.same _ hshared
    have hmem := List.mem_of_getElem? hcall
    by_cases hbody : call.request.Body call.attempt
    · rcases hagents.left call hmem hbody with
        ⟨e, σ, c, stage, hattempt, hworking, hknown⟩
      rw [← hattempt] at hperformed'
      apply h.performed (σ := σ) hsound.wellFormed hperformed'
      intro intent issue _
      exact ⟨c, stage, hrequest ▸ hworking, hknown⟩
    · rcases hsound.snapshots call hmem with ⟨e, σ, _, hattempt, _, _⟩
      rw [← hattempt] at hperformed'
      apply h.performed (σ := σ) hsound.wellFormed hperformed'
      intro intent issue hr
      rw [hrequest, hr] at hbody
      exact absurd trivial hbody
  | dropped position choice => exact ⟨h.applied, h.staged⟩
  | edited key issue found hfound =>
    constructor
    · exact h.applied
    · intro transitionId hmoved
      rcases h.staged transitionId hmoved with
        ⟨intent, hregistered, hterminal, hallots⟩
      exact ⟨intent, hregistered, hterminal, hallots.set hfound rfl⟩

/-!
# Recoveries
-/

/-- The journal append that reports a recovered stage. -/
def RecoveryReported (transitionId : Nat) (e : Execution) : Prop :=
  exists outcome, e.pending =
      some (.append transitionId .recovered "transition.terminal_stage_recovered" (some outcome)) ∧
    outcome.disposition = .recovered ∧ outcome.appliedStatus = some .inValidation

/--
The first read of an attempt that owns the claim of an unfinished transition
whose stage moved the task: once it finds the task `In Validation`, the attempt
reports the stage as recovered.
-/
def RecoversStages (w : World) : Prop :=
  forall (i : Nat) (e : Execution) (key : TaskKey) (transitionId claimToken : Nat)
    (found : Issue) (choice : Choice), w.executions[i]? = some e ->
    e.pending = some (.fetch key) -> e.untouched = true ->
    e.attempt = some (transitionId, claimToken) ->
    (exists owned, w.journal.Owns owned transitionId claimToken) ->
    transitionId ∈ w.stageMoves -> ¬ w.journal.Ended transitionId ->
    w.tracker.find key = some found -> found.state = some .inValidation ->
    exists e', (w.step (.answer i (.returns choice))).executions[i]? = some e' ∧
      RecoveryReported transitionId e'

/-- An execution that reads its task decides on what it read. -/
theorem Sound.decides (hsound : Sound x) {i : Nat}
    {key : TaskKey} {resume : Except Failure (Answer (.fetch key)) ->
      Saga TransitionOutcome} (choice : Choice)
    (hindex : x.world.executions[i]? = some e)
    (hprogram : e.program = .request (.fetch key) resume)
    (hclaim : (x.progress i).claim? = some (c, .reading)) :
    exists e', (x.step (.answer i (.returns choice))).world.executions[i]? = some e' ∧
      ((x.step (.answer i (.returns choice))).progress i).claim? = some (c,
        .deciding ((x.world.tracker.find key).map
          (fun issue => issue.inProject e.service.projectId))) := by
  have hlt := (List.getElem?_eq_some_iff.mp hindex).1
  have hstage : Stage.reading.allows e.service c (.fetch key) := by
    have hasks := hsound.asks hindex hprogram
    generalize x.progress i = σ at hclaim hasks
    cases hasks with
    | works σ c' stage r hclaim' hstage =>
      rw [hclaim] at hclaim'
      cases hclaim'
      exact hstage
  have hstep : x.step (.answer i (.returns choice)) = x.advance i x.world
        { e.answered (.fetch key) (.ok (x.world.tracker.find key)) with
          program := resume (.ok (x.world.tracker.find key)) }
        ((x.progress i).next e.service e.lane e.intent (.fetch key)
          (.ok (x.world.tracker.find key))) := by
    unfold Traced.step World.step Traced.advance
    simp only [hindex, hprogram]
    rfl
  rw [hstep]
  refine ⟨_, List.getElem?_set_self hlt, ?_⟩
  have hnext : ((x.progress i).withStage (.deciding ((x.world.tracker.find key).map
        (fun issue => issue.inProject e.service.projectId)))).claim? = _ :=
    Progress.claim?_withStage hclaim
  rw [← hnext]
  show (Function.update x.progress i _ i).claim? = _
  rw [Function.update_self, Progress.next_works hclaim hstage]
  rfl

theorem Sound.reports (hsound : Sound x) {i : Nat}
    {found : Issue} (hindex : x.world.executions[i]? = some e)
    (hclaim : (x.progress i).claim? = some (c, .deciding (some found)))
    (hrecoverable : c.StageRecoverable found) :
    RecoveryReported c.transitionId e := by
  have hlive : (Stage.deciding (some found)).Live := by constructor <;> simp
  rcases hsound.pending_of_live hindex hclaim hlive with
    ⟨r, resume, hprogram, hallowed⟩
  cases r with
  | append transitionId phase reasonCode outcome =>
    rcases hallowed.right found rfl hrecoverable with
      ⟨rfl, rfl, o, rfl, hdisposition, happlied⟩
    have hid : transitionId = c.transitionId := (Stage.allows_append hallowed).right.left
    subst hid
    refine ⟨o, ?_, hdisposition, happlied⟩
    unfold Execution.pending
    rw [hprogram]
  | fetchChildren parent => exact absurd hrecoverable (hallowed found rfl)
  | _ => exact hallowed.elim

theorem Sound.recoversStages (hsound : Sound x)
    (hagents : EveryAgent x (AnyRequest StageKnown)) (hknown : StagesKnown x.world) :
    RecoversStages x.world := by
  intro i e key transitionId claimToken found choice hindex hpending huntouched
    hattempt hown hmoved hopen hfound hstate
  rcases program_of_pending hpending with ⟨resume, hprogram⟩
  have hlinked := hsound.linked i e hindex
  have hclaim : exists c stage, (x.progress i).claim? = some (c, stage) := by
    rcases Progress.claim_of_asks (hsound.asks hindex hprogram) with
      hstarting | hclaim
    · rw [hstarting] at hlinked
      unfold Execution.attempt at hattempt
      rw [show e.begun = none from hlinked] at hattempt
      cases hattempt
    · exact hclaim
  rcases hclaim with ⟨c, stage, hclaim⟩
  have hbacked := hlinked.backed hclaim
  have hreading : stage = .reading := hbacked.untouched huntouched
  subst hreading
  rw [hbacked.attempt] at hattempt
  cases hattempt
  have hlive : Stage.reading.Live := by constructor <;> simp
  have hevidence := (hagents.live i e c .reading _ hindex hclaim hlive
    hpending).evidence rfl hown hmoved hopen
  rcases hknown.staged _ hmoved with ⟨intent, hregistered, hterminal, hallots⟩
  have hintent : intent = c.intent := hregistered.unique hbacked.registered
  subst hintent
  have hkey : key = c.intent.key := by
    rcases hsound.pending_of_live hindex hclaim hlive with
      ⟨r, resume', hprogram', hallowed⟩
    rw [hprogram] at hprogram'
    cases hprogram'
    rw [show key = _ from hallowed, ← hbacked.project]
    rfl
  have hproject : OfProject c.intent (found.inProject e.service.projectId) := by
    unfold Issue.inProject
    split
    · exact .inr hbacked.project.symm
    · exact hallots found (hkey ▸ hfound)
  rcases hsound.decides choice hindex hprogram hclaim with ⟨e', hindex', hclaim'⟩
  rw [hfound] at hclaim'
  refine ⟨e', hindex', (hsound.step _).reports hindex' hclaim' ?_⟩
  exact ⟨hevidence, hterminal, (Issue.inProject_state found _).trans hstate, hproject⟩

/--
While the adapter runs under the claim of its task only, and no begin takes a
transition whose stage moved the task behind a waiting note or in another lane,
the owner of its claim recovers the stage.
-/
theorem recoversStages_run (tracker : Tracker) (steps : List WorldStep)
    (hguard : Guarded World.step (fun w s => effective keepsEvidence (fun _ _ _ => true) w s = true)
      { tracker := tracker } steps) :
    RecoversStages (run World.step { tracker := tracker } steps) := by
  have hstart : StagesKnown { tracker := tracker } := by
    constructor
    · intro transitionId hmoved
      cases hmoved
    · intro transitionId hmoved
      cases hmoved
  rcases everyAgent_run stageKnown_kept
    (fun x s hsound hagents hknown _ => hknown.step hsound hagents s)
    tracker hstart steps hguard with ⟨x, hworld, hsound, hagents, hknown⟩
  rw [← hworld]
  exact hsound.recoversStages hagents hknown

/-- The executor dies once the adapter moved its task. -/
def deadStageRun : List WorldStep :=
  [.submit sampleService .ordinary doneIntent,
    .answer 0 (.returnsAt 0), .answer 0 (.returnsAt 1), .answer 0 (.returnsAt 1),
    .answer 0 (.returnsAt 1)]

/-- The intent is submitted again once the claim of the dead executor expired. -/
def deadClaimRun : List WorldStep :=
  deadStageRun ++ [.submit sampleService .ordinary doneIntent, .answer 1 (.returnsAt 301)]

/-- It is submitted once more while that claim is live. -/
def waitingRun : List WorldStep :=
  deadStageRun ++ [.submit sampleService .ordinary doneIntent, .answer 1 (.returnsAt 100),
      .submit sampleService .ordinary doneIntent, .answer 2 (.returnsAt 301)]

theorem recoversStages_deadClaim :
    RecoversStages (run World.step { tracker := reviewedTracker } deadClaimRun) :=
  recoversStages_run reviewedTracker deadClaimRun (by decide +kernel)

theorem waiting_rejects : ¬ forall (tracker : Tracker) (steps : List WorldStep),
      RecoversStages (run World.step { tracker := tracker } steps) := by
  intro h
  let w := run World.step { tracker := reviewedTracker } waitingRun
  have hexecution : exists e, w.executions[2]? = some e ∧
      e.pending = some (.fetch doneIntent.key) ∧ e.untouched = true ∧
      e.attempt = some (0, 2) := by
    have hread : w.executions[2]?.any (fun e =>
        e.pending = some (.fetch doneIntent.key) ∧ e.untouched = true ∧
          e.attempt = some (0, 2)) = true := by
      decide +kernel
    rcases (Option.any_eq_true _ _).mp hread with ⟨e, hindex, he⟩
    exact ⟨e, hindex, of_decide_eq_true he⟩
  rcases hexecution with ⟨e, hindex, hpending, huntouched, hattempt⟩
  have hown : w.journal.Owns doneIntent.key 0 2 := by
    unfold TransitionJournal.Owns
    decide +kernel
  have hfound : w.tracker.find doneIntent.key =
      some { sampleIssue with state := some .inValidation, authorityVersion := "" } := by
    decide +kernel
  rcases h reviewedTracker waitingRun 2 e doneIntent.key 0 2 _ { now := 302 } hindex
    hpending huntouched hattempt ⟨_, hown⟩ (by decide +kernel) (by decide +kernel)
    hfound rfl with ⟨e', hindex', outcome, hreported, _⟩
  have hrejected : (w.step (.answer 2 (.returns { now := 302 }))).executions[2]?.any
      (fun e' => e'.pending.any (fun r => match r with
        | .append _ phase _ _ => phase = .rejected
        | _ => false)) = true := by
    decide +kernel
  rw [hindex', Option.any_some, hreported] at hrejected
  cases hrejected

end TaskTransitions
end Oompah
