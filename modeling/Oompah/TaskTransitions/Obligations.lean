import Oompah.TaskTransitions.StageRecovery

/-!
# Obligations of recovery

Once a begin handed a transition out for recovery, its claim is to name it until
the transition has a final event.  The `finally` of a claimed execution decides
by its local outcome whether to release the claim, so an exception before the
outcome is set gives the obligation up.  Obligations are kept in the runs where
the holder of such a claim is not interrupted.
-/

namespace Oompah
namespace TaskTransitions

open Foundation
open TransitionJournal (granted)

/-!
# Runs of holders that are not interrupted
-/

/-- The claim of an unfinished transition that was handed out. -/
def Obliged (w : World) (transitionId claimToken : Nat) : Prop :=
  (exists key, w.journal.Owns key transitionId claimToken) ∧
    transitionId ∈ w.handedOut ∧ ¬ w.journal.Ended transitionId

def World.obliged (w : World) (attempt : Option (Nat × Nat)) : Bool :=
  attempt.any (fun owned =>
    w.journal.claims.any (fun row =>
      row.transitionId = owned.1 && row.claimToken = owned.2) &&
    decide (owned.1 ∈ w.handedOut) && !decide (w.journal.Ended owned.1))

/--
The calls of an attempt return or raise an exception that it handles.  Its
events are journaled, and only the recovery of its transition schedules a retry.
-/
def Execution.calm (e : Execution) (r : Request) (resolution : Resolution) :
    Bool :=
  match r, resolution with
  | .append transitionId phase reasonCode _, .returns _ =>
    e.attempt.map Prod.fst ≠ some transitionId ||
      strip reasonCode ≠ "" && (e.recovering || phase.isFinal || phase = .applying)
  | .append transitionId _ _ _, _ => e.attempt.map Prod.fst ≠ some transitionId
  | .begin_ _ _, _ | .release _ _, _ | .expireForRetry _ _, _ => true
  | _, .returns _ => true
  | _, .raises raised => raised.isException
  | _, .lost _ raised => raised.isException
  | _, .detaches => false

/-- The second begin of an execution is not handed another transition. -/
def World.rebegins (w : World) (e : Execution) (r : Request) (resolution : Resolution) : Bool :=
  match r, resolution with
  | .begin_ intent _, .returns choice =>
    e.begun.isNone || (w.journal.taken intent choice.now).all (fun taken =>
      (w.journal.requestFor intent).any (fun row => row.transitionId = taken))
  | _, _ => true

/-- The holder of an obligation is not interrupted. -/
def undisturbed (w : World) : WorldStep -> Bool
  | .answer index resolution =>
    match w.executions[index]? with
    | some e =>
      e.pending.all (fun r =>
        (!w.obliged e.attempt || e.calm r resolution) && w.rebegins e r resolution)
    | none => true
  | _ => true

/-- The claim under a token, if there is one, names a transition. -/
def Names (j : TransitionJournal) (transitionId claimToken : Nat) : Prop :=
  forall key owner, j.Owns key owner claimToken -> owner = transitionId

/-- A handed-out transition is finished or named by the claim of its task. -/
def Owed (w : World) : Prop :=
  forall transitionId, transitionId ∈ w.handedOut -> w.journal.Ended transitionId ∨
      exists intent claimToken, w.journal.Registered transitionId intent ∧
        w.journal.Owns intent.key transitionId claimToken

/--
Handed-out transitions are owed, and an execution works under a claim that names
its transition.
-/
structure ObligationsKept (w : World) : Prop where
  owed : Owed w
  named : forall (i : Nat) (e : Execution) (r : Request)
    (transitionId claimToken : Nat), w.executions[i]? = some e ->
    e.pending = some r -> e.attempt = some (transitionId, claimToken) ->
    Names w.journal transitionId claimToken

theorem Obliged.holds {w : World} {transitionId claimToken : Nat}
    (h : Obliged w transitionId claimToken) :
    w.obliged (some (transitionId, claimToken)) = true := by
  rcases h with ⟨⟨key, row, hrow, _, hid, htoken⟩, hhanded, hopen⟩
  unfold World.obliged
  simp only [Option.any_some, hhanded, hopen, decide_true, decide_false,
    Bool.not_false, Bool.and_true]
  apply List.any_eq_true.mpr
  exact ⟨row, hrow, by simp [hid, htoken]⟩

/-!
# Effects on obligations
-/

/-- Tokens that were issued gain no claim and no obligation. -/
structure Ages (w after : World) : Prop where
  grows : Grows w.journal after.journal
  obliged : forall transitionId claimToken, claimToken < w.journal.issued ->
    Obliged after transitionId claimToken -> Obliged w transitionId claimToken

theorem Names.ages {w after : World} (hages : Ages w after)
    {transitionId claimToken : Nat} (hissued : claimToken < w.journal.issued)
    (h : Names w.journal transitionId claimToken) :
    Names after.journal transitionId claimToken := by
  intro key owner hown
  exact h key owner (hages.grows.owned key owner claimToken hissued hown)

theorem ages_of_same {w after : World} (hgrows : Grows w.journal after.journal)
    (hhanded : after.handedOut = w.handedOut) : Ages w after where
  grows := hgrows
  obliged := by
    rintro transitionId claimToken hissued ⟨⟨key, hown⟩, hmem, hopen⟩
    refine ⟨⟨key, hgrows.owned _ _ _ hissued hown⟩, hhanded ▸ hmem, ?_⟩
    exact fun hended => hopen (hgrows.ended hended)

section Effects

variable {w after : World} {attempt : Option (Nat × Nat)} {choice : Choice}
  {r : Request} {value : Answer r}

/-- What is handed out is handed out under a new token. -/
theorem Performed.ages (hj : w.journal.WellFormed)
    (h : Performed w attempt choice r after value) : Ages w after := by
  have hgrows := h.grows hj
  cases h with
  | begin_ intent ttl journal begun hbegun =>
    refine ⟨hgrows, ?_⟩
    rintro transitionId claimToken hissued ⟨⟨key, hown⟩, hmem, hopen⟩
    have hbefore := hgrows.owned _ _ _ hissued hown
    refine ⟨⟨key, hbefore⟩, ?_, fun hended => hopen (hgrows.ended hended)⟩
    rcases List.mem_append.mp hmem with hnew | hold
    · exfalso
      have heffect := hbegun.effect hj
      rcases Option.map_eq_some_iff.mp (Option.mem_toList.mp hnew) with
        ⟨owed, howed, rfl⟩
      rcases heffect.recovery owed howed with
        ⟨htoken, _, _, _, hregistered, hkey, _⟩
      rcases Option.isSome_iff_exists.mp htoken with ⟨token, htoken⟩
      have hgranted : granted begun = some (owed.transitionId, token) := by
        unfold granted
        rw [htoken, howed]
        rfl
      -- The claim of the task carries the new token only.
      rcases (hj.claimed _ _ _ hbefore).right with ⟨intent', hregistered', hkey'⟩
      have hsame : key = intent.key := by
        rw [← hkey', ← hkey, hregistered.unique hregistered']
      subst hsame
      have hfresh := (((heffect.granted _ _ hgranted).right.right.right _ _).mp hown).right
      omega
    · exact hold
  | update intent after hwritten =>
    exact ages_of_same hgrows hwritten.same.right.right.right.left
  | commitDirectOwner intent after result hcommitted =>
    exact ages_of_same hgrows hcommitted.same.right.right.right.left
  | commitGuarded intent after result hcommitted =>
    exact ages_of_same hgrows hcommitted.same.right.right.right.left
  | _ => exact ages_of_same hgrows rfl

/-- A call keeps what is owed if it releases no obligation. -/
theorem Owed.performed (hj : w.journal.WellFormed) (h : Owed w)
    (hperformed : Performed w attempt choice r after value)
    (hrelease : forall key claimToken, r = .release key claimToken ->
      forall transitionId, w.journal.Owns key transitionId claimToken ->
      transitionId ∈ w.handedOut -> w.journal.Ended transitionId) :
    Owed after := by
  have hgrows := hperformed.grows hj
  have hsame : after.handedOut = w.handedOut -> (forall key transitionId claimToken,
        w.journal.Owns key transitionId claimToken ->
        after.journal.Owns key transitionId claimToken) -> Owed after := by
    intro hhanded howns transitionId hmem
    rw [hhanded] at hmem
    rcases h transitionId hmem with hended | ⟨intent, token, hregistered, hown⟩
    · exact .inl (hgrows.ended hended)
    · exact .inr ⟨intent, token, hgrows.registered _ _ hregistered, howns _ _ _ hown⟩
  cases hr : r.journals with
  | false =>
    have hjournal := hperformed.journal hr
    apply hsame
    · cases hperformed with
      | update intent after hwritten => exact hwritten.same.right.right.right.left
      | commitDirectOwner intent after result hcommitted =>
        exact hcommitted.same.right.right.right.left
      | commitGuarded intent after result hcommitted =>
        exact hcommitted.same.right.right.right.left
      | begin_ => cases hr
      | append => cases hr
      | release => cases hr
      | expireForRetry => cases hr
      | _ => rfl
    · rw [hjournal]
      exact fun _ _ _ hown => hown
  | true =>
    cases hperformed with
    | begin_ intent ttl journal begun hbegun =>
      have heffect := hbegun.effect hj
      intro transitionId hmem
      rcases List.mem_append.mp hmem with hnew | hold
      · right
        rcases Option.map_eq_some_iff.mp (Option.mem_toList.mp hnew) with
          ⟨owed, howed, rfl⟩
        rcases heffect.recovery owed howed with
          ⟨htoken, _, _, _, hregistered, hkey, _⟩
        rcases Option.isSome_iff_exists.mp htoken with ⟨token, htoken⟩
        have hgranted : granted begun = some (owed.transitionId, token) := by
          unfold granted
          rw [htoken, howed]
          rfl
        refine ⟨owed.intent, w.journal.issued, hgrows.registered _ _ hregistered, ?_⟩
        rw [hkey]
        exact ((heffect.granted _ _ hgranted).right.right.right _ _).mpr ⟨rfl, rfl⟩
      · rcases h transitionId hold with
          hended | ⟨intent', token, hregistered, hown⟩
        · exact .inl (hgrows.ended hended)
        · rcases heffect.kept _ _ _ hown with
            hkept | ⟨_, ⟨token', hkept⟩ | hended⟩
          · exact .inr ⟨intent', token, hgrows.registered _ _ hregistered, hkept⟩
          · exact .inr ⟨intent', token', hgrows.registered _ _ hregistered, hkept⟩
          · exact .inl (hgrows.ended hended)
    | append transitionId phase reasonCode outcome row hrow =>
      exact hsame rfl (fun _ _ _ hown => hown)
    | release key claimToken released =>
      intro transitionId hmem
      rcases h transitionId hmem with
        hended | ⟨intent, token, hregistered, hown⟩
      · exact .inl (hgrows.ended hended)
      · by_cases hdoomed : intent.key = key ∧ token = claimToken
        · rcases hdoomed with ⟨rfl, rfl⟩
          exact .inl (hgrows.ended (hrelease _ _ rfl transitionId hown hmem))
        · refine .inr ⟨intent, token, hgrows.registered _ _ hregistered, ?_⟩
          exact TransitionJournal.owns_release.mpr ⟨hown, hdoomed⟩
    | expireForRetry key claimToken retained =>
      apply hsame rfl
      exact fun _ _ _ hown => TransitionJournal.owns_expireForRetry.mpr hown
    | _ => cases hr

end Effects

/-!
# Stages of an obliged attempt
-/

/-- The stages that an attempt passes while it keeps its obligation. -/
def Claimed.Tends (c : Claimed) : Stage -> Prop
  | .reading | .deciding _ | .applying _ | .attempted _ | .settled => True
  | .concluded phase => c.retain = true ∧ phase.isFinal = false
  | .faltered _ | .broken => False

/-- An obliged attempt does not release its claim. -/
theorem Claimed.Tends.not_releases {service : TaskTransitionService} {c : Claimed}
    {s : Stage} {key : TaskKey} {claimToken : Nat} (h : c.Tends s) :
    ¬ s.allows service c (.release key claimToken) := by
  intro hallowed
  cases s with
  | concluded phase =>
    have hfinal := hallowed.right.right h.left
    rw [h.right] at hfinal
    cases hfinal
  | faltered staged => exact h
  | broken => exact h
  | _ => exact hallowed

theorem Claimed.tends_append {service : TaskTransitionService} {c : Claimed}
    {s : Stage} {transitionId : Nat} {phase : TransitionPhase}
    {reasonCode : String} {outcome : Option TransitionOutcome}
    (hallowed : s.allows service c (.append transitionId phase reasonCode outcome))
    (hphase : phase = .applying ∨ phase.isFinal = false ∧ c.retain = true) :
    c.Tends (s.next service (.append transitionId phase reasonCode outcome) (.ok ())) := by
  by_cases happlying : phase = .applying
  · subst happlying
    cases s with
    | deciding issue =>
      rcases hallowed.left with ⟨_, hadmits⟩ | hconcludes
      · rcases hadmits.issue with ⟨found, rfl, _⟩
        trivial
      · exact absurd rfl hconcludes.ne_applying
    | applying issue => exact absurd rfl hallowed.ne_applying
    | attempted staged => exact absurd rfl hallowed.ne_applying
    | faltered staged => exact absurd rfl hallowed.ne_applying
    | _ => exact hallowed.elim
  · rcases hphase with heq | ⟨hopen, hretain⟩
    · exact absurd heq happlying
    · rw [Stage.next_append hallowed happlying]
      exact ⟨hretain, hopen⟩

/-- The other calls keep it when they return or raise an exception. -/
theorem Claimed.tends_next {service : TaskTransitionService} {c : Claimed}
    {s : Stage} {r : Request} {answer : Except Failure (Answer r)}
    (h : c.Tends s) (hallowed : s.allows service c r)
    (happends : forall transitionId phase reasonCode outcome,
      r ≠ .append transitionId phase reasonCode outcome)
    (hraised : forall failure, answer = .error failure -> failure.raised.isException = true ∨
        exists key claimToken, r = .expireForRetry key claimToken) :
    c.Tends (s.next service r answer) := by
  cases r with
  | append transitionId phase reasonCode outcome =>
    exact absurd rfl (happends transitionId phase reasonCode outcome)
  | release key claimToken => exact absurd hallowed h.not_releases
  | expireForRetry key claimToken => cases s <;> trivial
  | begin_ intent ttl => cases s <;> exact hallowed.elim
  | fetch key =>
    cases answer with
    | ok found =>
      cases s with
      | reading | attempted staged => trivial
      | faltered staged => exact h.elim
      | _ => exact hallowed.elim
    | error failure =>
      rcases hraised failure rfl with hexception | ⟨_, _, hr⟩
      · cases s with
        | reading | attempted staged =>
          simp only [Stage.next, hexception, if_true]
          trivial
        | faltered staged => exact h.elim
        | _ => exact hallowed.elim
      · cases hr
  | fetchChildren parent =>
    cases s with
    | deciding issue =>
      cases answer with
      | ok children => trivial
      | error failure =>
        rcases hraised failure rfl with hexception | ⟨_, _, hr⟩
        · simp only [Stage.next, hexception, if_true]
          trivial
        · cases hr
    | _ => exact hallowed.elim
  | stage intent issue | update intent | commitDirectOwner intent
  | commitGuarded intent =>
    cases s with
    | applying issue =>
      cases answer with
      | ok value => trivial
      | error failure =>
        rcases hraised failure rfl with hexception | ⟨_, _, hr⟩
        · simp only [Stage.next, hexception, if_true]
          trivial
        · cases hr
    | _ => exact hallowed.elim

/-!
# Answers to an obliged attempt
-/

section Answers

variable {w after : World} {e : Execution} {σ : Progress} {r : Request}
  {resolution : Resolution} {answer : Except Failure (Answer r)} {c : Claimed}

theorem Resolved.ages (hj : w.journal.WellFormed)
    (h : Resolved w e r resolution after answer) : Ages w after := by
  cases h with
  | returned choice after value hperformed => exact hperformed.ages hj
  | failed resolution failure =>
    rcases w.called_eq e.attempt r with ⟨hjournal, _, _, _, hhanded, _⟩
    apply ages_of_same _ hhanded
    rw [hjournal]
    exact Grows.refl _
  | lost choice raised after value hwrites hperformed => exact hperformed.ages hj
  | detached => exact ages_of_same (Grows.refl _) rfl

theorem resolve_append {transitionId : Nat} {phase : TransitionPhase}
    {reasonCode : String} {outcome : Option TransitionOutcome} {choice : Choice}
    {intent : TransitionIntent}
    {answer : Except Failure (Answer (.append transitionId phase reasonCode outcome))}
    (hj : w.journal.WellFormed)
    (hregistered : w.journal.Registered transitionId intent)
    (hreason : strip reasonCode ≠ "")
    (h : w.resolve e (.append transitionId phase reasonCode outcome)
      (.returns choice) = some (after, answer)) :
    answer = .ok () ∧ after.journal =
      w.journal.appendLocked transitionId phase (strip reasonCode) outcome := by
  have happend : w.journal.append transitionId phase reasonCode outcome =
      .ok (w.journal.appendLocked transitionId phase (strip reasonCode) outcome) := by
    unfold TransitionJournal.append
    rw [hj.request?_of_registered hregistered]
    exact if_neg hreason
  unfold World.resolve World.perform at h
  simp only [happend, Option.some.injEq, Prod.mk.injEq] at h
  rcases h with ⟨rfl, rfl⟩
  exact ⟨rfl, rfl⟩

theorem perform_raises {service : TaskTransitionService}
    {attempt : Option (Nat × Nat)} {choice : Choice} {failure : Failure}
    (happends : forall transitionId phase reasonCode outcome,
      r ≠ .append transitionId phase reasonCode outcome)
    (hbegins : r.begins = false)
    (h : (w.perform service attempt choice r).2 = .error failure) :
    failure.raised.isException = true := by
  cases r with
  | append transitionId phase reasonCode outcome =>
    exact absurd rfl (happends transitionId phase reasonCode outcome)
  | begin_ intent ttl => cases hbegins
  | update intent =>
    simp only [World.perform] at h
    split at h
    · cases h
    · cases h
      rfl
  | stage intent issue =>
    simp only [World.perform] at h
    split at h <;> cases h
  | _ => cases h

/-- A calm call under an obligation is not left behind, and what it raises is handled. -/
theorem handled_of_calm (hcalm : e.calm r resolution = true)
    (happends : forall transitionId phase reasonCode outcome,
      r ≠ .append transitionId phase reasonCode outcome)
    (hbegins : r.begins = false)
    (hreleases : forall key claimToken, r ≠ .release key claimToken)
    (hexpires : forall key claimToken, r ≠ .expireForRetry key claimToken) :
    match resolution with
    | .returns _ => True
    | .raises raised | .lost _ raised => raised.isException = true
    | .detaches => False := by
  cases r with
  | append => exact absurd rfl (happends _ _ _ _)
  | begin_ => cases hbegins
  | release => exact absurd rfl (hreleases _ _)
  | expireForRetry => exact absurd rfl (hexpires _ _)
  | _ =>
    cases resolution with
    | returns choice => trivial
    | raises raised => exact hcalm
    | lost choice raised => exact hcalm
    | detaches => cases hcalm

theorem raised_of_calm (hcalm : e.calm r resolution = true)
    (hresolve : w.resolve e r resolution = some (after, answer))
    (happends : forall transitionId phase reasonCode outcome,
      r ≠ .append transitionId phase reasonCode outcome)
    (hbegins : r.begins = false)
    (hreleases : forall key claimToken, r ≠ .release key claimToken)
    {failure : Failure} (hfailure : answer = .error failure) :
    failure.raised.isException = true ∨
      exists key claimToken, r = .expireForRetry key claimToken := by
  by_cases hexpires : exists key claimToken, r = .expireForRetry key claimToken
  · exact .inr hexpires
  · left
    subst hfailure
    have hhandled := handled_of_calm hcalm happends hbegins hreleases
      (fun key claimToken hr => hexpires ⟨key, claimToken, hr⟩)
    cases resolution with
    | returns choice =>
      have hanswer : (w.perform e.service e.attempt choice r).2 = .error failure :=
        congrArg Prod.snd (Option.some.inj hresolve)
      exact perform_raises happends hbegins hanswer
    | raises raised =>
      cases hresolve
      exact hhandled
    | lost choice raised =>
      unfold World.resolve at hresolve
      simp only at hresolve
      split at hresolve
      · cases hresolve
        exact hhandled
      · cases hresolve
    | detaches => exact hhandled.elim

theorem retain_of_recovering {j : TransitionJournal} {stage : Stage}
    (hlinked : Linked j e σ) (hclaim : σ.claim? = some (c, stage))
    (h : e.recovering = true) : c.retain = true := by
  cases σ with
  | starting => cases hclaim
  | recovering c' stage' waiting =>
    cases hclaim
    exact hlinked.right.right.right.left
  | running c' stage' =>
    have hrunning := hlinked.right.left
    rw [h] at hrunning
    cases hrunning
  | finished => cases hclaim

theorem tends_answered {old : Stage} (hj : w.journal.WellFormed) (hworking : Working w e σ c old r)
    (hresolve : w.resolve e r resolution = some (after, answer))
    (hcalm : e.calm r resolution = true) (htends : c.Tends old)
    (hopen : ¬ after.journal.Ended c.transitionId) :
    c.Tends (old.next e.service r answer) := by
  have hbacked := hworking.linked.backed hworking.claim
  by_cases happends : forall transitionId phase reasonCode outcome,
      r ≠ .append transitionId phase reasonCode outcome
  · apply Claimed.tends_next htends hworking.allowed happends
    intro failure hfailure
    apply raised_of_calm hcalm hresolve happends (begins_of_stage hworking.allowed) _ hfailure
    rintro key claimToken rfl
    exact htends.not_releases hworking.allowed
  · rcases not_forall.mp happends with ⟨transitionId, happends⟩
    rcases not_forall.mp happends with ⟨phase, happends⟩
    rcases not_forall.mp happends with ⟨reasonCode, happends⟩
    rcases not_forall.mp happends with ⟨outcome, happends⟩
    have hr := not_not.mp happends
    subst hr
    have hallowed := hworking.allowed
    have hid := (Stage.allows_append hallowed).right.left
    subst hid
    have hattempt : e.attempt.map Prod.fst = some c.transitionId := by
      rw [hbacked.attempt]
      rfl
    cases resolution with
    | returns choice =>
      have hcalm : strip reasonCode ≠ "" ∧
          ((e.recovering = true ∨ phase.isFinal = true) ∨ phase = .applying) := by
        simpa [Execution.calm, hattempt] using hcalm
      rcases resolve_append hj hbacked.registered hcalm.left hresolve with
        ⟨rfl, hafter⟩
      apply Claimed.tends_append hallowed
      have hnonfinal : phase.isFinal ≠ true := by
        intro hfinal
        apply hopen
        rw [hafter]
        exact ⟨_, List.mem_append_right _ (List.mem_singleton_self _), rfl, hfinal⟩
      rcases hcalm.right with (hrecovering | hfinal) | happlying
      · exact .inr ⟨by simpa using hnonfinal,
          retain_of_recovering hworking.linked hworking.claim hrecovering⟩
      · exact absurd hfinal hnonfinal
      · exact .inl happlying
    | raises raised => simp [Execution.calm, hattempt] at hcalm
    | lost choice raised => simp [Execution.calm, hattempt] at hcalm
    | detaches => simp [Execution.calm, hattempt] at hcalm

theorem names_of_begun {j' : TransitionJournal} {ttl : Int} {choice : Choice}
    {begun : BeginResult} (hj : w.journal.WellFormed)
    (hbegun : TransitionJournal.Begun w.journal e.intent choice.now ttl j' begun)
    (hstarts : Starts e begun c)
    (hguard : w.rebegins e (.begin_ e.intent ttl) (.returns choice) = true) :
    Names j' c.transitionId c.claimToken := by
  have heffect := hbegun.effect hj
  have hgranted : granted begun = some (c.transitionId, c.claimToken) := by
    cases hstarts with
    | recovers owed claimToken hrecovery htoken =>
      unfold granted
      rw [htoken, hrecovery]
      rfl
    | owns claimToken htoken hown =>
      cases hrecovery : begun.recovery with
      | none =>
        unfold granted
        rw [htoken, hrecovery]
        rfl
      | some owed =>
        -- A second begin that is handed another transition is excluded.
        exfalso
        have hsecond : e.begun.isNone = false := by
          rcases hown with hnone | hsome
          · rw [hrecovery] at hnone
            cases hnone
          · cases hbegun : e.begun with
            | none =>
              rw [hbegun] at hsome
              cases hsome
            | some begun => rfl
        have htaken : granted begun = some (owed.transitionId, claimToken) := by
          unfold granted
          rw [htoken, hrecovery]
          rfl
        rcases heffect.recovery owed hrecovery with
          ⟨_, _, _, _, hregistered, _, hne, _⟩
        have htaken := (hbegun.taken hj htaken).resolve_right (Nat.ne_of_lt hregistered.lt)
        have hown : (w.journal.requestFor e.intent).any
            (fun row => row.transitionId = owed.transitionId) = true := by
          simpa [World.rebegins, hsecond, htaken] using hguard
        rcases (Option.any_eq_true _ _).mp hown with ⟨row, hrow, hid⟩
        have hid : row.transitionId = owed.transitionId := of_decide_eq_true hid
        cases hbegun with
        | conflicting row' outcome => cases htoken
        | replayed row' latest outcome hrow' hintent hlatest hfinal houtcome => cases htoken
        | resumed row' hrow' hintent hopen hacquired =>
          rw [hrow] at hrow'
          cases hrow'
          cases hacquired with
          | free hfree => cases hrecovery
          | waiting active hactive outcome hlive hwaiting => cases htoken
          | replaced active hactive hexpired hdone => cases hrecovery
          | recovered active request latest hactive hexpired hother hrequest
              hkey hlatest hopen =>
              exact hne hid.symm
        | registered hnone hacquired =>
          rw [hrow] at hnone
          cases hnone
  intro key owner hown
  rcases heffect.owned key owner c.claimToken hown with hold | ⟨_, hnew⟩
  · have hlt := (hj.claimed _ _ _ hold).left
    have hissued := (heffect.granted _ _ hgranted).left
    omega
  · rw [hgranted] at hnew
    cases hnew
    rfl

end Answers

/-!
# Runs
-/

/-- Every claim names its transition, and no obliged one is about to be released. -/
structure Tended (x : Traced) : Prop where
  owed : Owed x.world
  named : forall (i : Nat) (e : Execution) (c : Claimed) (stage : Stage),
    x.world.executions[i]? = some e -> (x.progress i).claim? = some (c, stage) ->
    Names x.world.journal c.transitionId c.claimToken
  tends : forall (i : Nat) (e : Execution) (c : Claimed) (stage : Stage),
    x.world.executions[i]? = some e -> (x.progress i).claim? = some (c, stage) ->
    Obliged x.world c.transitionId c.claimToken -> c.Tends stage
  namedLeft : forall call, call ∈ x.world.detached -> forall transitionId claimToken,
    call.attempt = some (transitionId, claimToken) ->
    Names x.world.journal transitionId claimToken
  left : forall call, call ∈ x.world.detached -> forall transitionId claimToken key token,
    call.attempt = some (transitionId, claimToken) ->
    call.request = .release key token ->
    ¬ Obliged x.world transitionId claimToken

theorem claim_of_attempt {j : TransitionJournal} {e : Execution} {σ : Progress}
    {r : Request} {transitionId claimToken : Nat} (hlinked : Linked j e σ)
    (hasks : Progress.Asks e.service e.lane e.intent σ r)
    (hattempt : e.attempt = some (transitionId, claimToken)) :
    exists c stage, σ.claim? = some (c, stage) ∧ c.transitionId = transitionId ∧
      c.claimToken = claimToken := by
  rcases Progress.claim_of_asks hasks with hstarting | ⟨c, stage, hclaim⟩
  · rw [hstarting] at hlinked
    unfold Execution.attempt at hattempt
    rw [show e.begun = none from hlinked] at hattempt
    cases hattempt
  · rw [(hlinked.backed hclaim).attempt] at hattempt
    cases hattempt
    exact ⟨c, stage, hclaim, rfl, rfl⟩

theorem named_begun {w after : World} {e : Execution} {σ : Progress} {r : Request}
    {resolution : Resolution} {answer : Except Failure (Answer r)} {c : Claimed}
    (hj : w.journal.WellFormed) (hlinked : Linked w.journal e σ)
    (hasks : Progress.Asks e.service e.lane e.intent σ r)
    (hresolved : Resolved w e r resolution after answer)
    (hbegins : r.begins = true) (hguard : w.rebegins e r resolution = true)
    (hclaim : (σ.next e.service e.lane e.intent r answer).claim? =
      some (c, .reading)) : Names after.journal c.transitionId c.claimToken := by
  cases hasks with
  | begins σ hσ hadmits =>
    have hfails : forall failure, answer = .error failure -> False := by
      intro failure hanswer
      subst hanswer
      rcases hσ with rfl | ⟨c', waiting, rfl⟩
      · cases hclaim
      · cases hclaim
    cases hresolved with
    | returned choice after value hperformed =>
      cases hperformed with
      | begin_ _ _ journal begun hbegun =>
        have hstarts := (starts_of_next hlinked (Progress.Asks.begins σ hσ hadmits) hclaim).left
        exact names_of_begun hj hbegun hstarts hguard
    | failed resolution failure => exact (hfails failure rfl).elim
    | lost choice raised after value hwrites hperformed => exact (hfails _ rfl).elim
    | detached => exact (hfails _ rfl).elim
  | notes => cases hbegins
  | works σ c' stage r hclaim' hstage =>
    rw [begins_of_stage hstage] at hbegins
    cases hbegins

namespace Tended

variable {x : Traced}

theorem calm (hsound : Sound x) (h : Tended x) {after : World}
    (hexecutions : after.executions = x.world.executions)
    (hdetached : after.detached.Sublist x.world.detached)
    (hages : Ages x.world after) (howed : Owed after) :
    Tended { world := after, progress := x.progress } where
  owed := howed
  named := by
    intro i e c stage hindex hclaim
    have hindex : after.executions[i]? = some e := hindex
    rw [hexecutions] at hindex
    exact (h.named i e c stage hindex hclaim).ages hages (hsound.backed hindex hclaim).issued
  tends := by
    intro i e c stage hindex hclaim hobliged
    have hindex : after.executions[i]? = some e := hindex
    rw [hexecutions] at hindex
    exact h.tends i e c stage hindex hclaim
      (hages.obliged _ _ (hsound.backed hindex hclaim).issued hobliged)
  namedLeft := by
    intro call hcall transitionId claimToken hattempt
    have hmem := hdetached.subset hcall
    have hissued := (hsound.snapshots call hmem).token_lt (congrArg (Option.map Prod.snd) hattempt)
    exact (h.namedLeft call hmem transitionId claimToken hattempt).ages hages hissued
  left := by
    intro call hcall transitionId claimToken key token hattempt hrequest hobliged
    have hmem := hdetached.subset hcall
    have hissued := (hsound.snapshots call hmem).token_lt (congrArg (Option.map Prod.snd) hattempt)
    exact h.left call hmem transitionId claimToken key token hattempt hrequest
      (hages.obliged _ _ hissued hobliged)

/-- An execution that may release its claim has no obligation under it. -/
theorem releases (h : Tended x) {index : Nat} {e : Execution} {key : TaskKey} {claimToken : Nat}
    (hindex : x.world.executions[index]? = some e)
    (hasks : Progress.Asks e.service e.lane e.intent (x.progress index)
      (.release key claimToken)) {transitionId : Nat}
    (hown : x.world.journal.Owns key transitionId claimToken)
    (hhanded : transitionId ∈ x.world.handedOut) :
    x.world.journal.Ended transitionId := by
  by_contra hopen
  generalize hσ : x.progress index = σ at hasks
  cases hasks with
  | works σ c stage r hclaim hallowed =>
    rw [← hσ] at hclaim
    have htoken := (Stage.allows_release hallowed).right.right
    subst htoken
    have hid := h.named index e c stage hindex hclaim key transitionId hown
    subst hid
    exact (h.tends index e c stage hindex hclaim
      ⟨⟨key, hown⟩, hhanded, hopen⟩).not_releases hallowed

/-- So does a release that was left behind. -/
theorem releasesLate (hsound : Sound x) (h : Tended x) {call : DetachedRequest}
    {key : TaskKey} {claimToken : Nat} (hcall : call ∈ x.world.detached)
    (hrequest : call.request = .release key claimToken) {transitionId : Nat}
    (hown : x.world.journal.Owns key transitionId claimToken)
    (hhanded : transitionId ∈ x.world.handedOut) :
    x.world.journal.Ended transitionId := by
  by_contra hopen
  rcases hsound.snapshots call hcall with ⟨e, σ, _, hattempt, hlinked, hasks⟩
  rw [hrequest] at hasks
  cases hasks with
  | works σ c stage r hclaim hallowed =>
    have htoken := (Stage.allows_release hallowed).right.right
    subst htoken
    have hattempt : call.attempt = some (c.transitionId, c.claimToken) :=
      hattempt.symm.trans (hlinked.backed hclaim).attempt
    have hid := h.namedLeft call hcall _ _ hattempt key transitionId hown
    subst hid
    exact h.left call hcall _ _ key _ hattempt hrequest ⟨⟨key, hown⟩, hhanded, hopen⟩

theorem owed_answered (hsound : Sound x) (h : Tended x) {index : Nat}
    {e : Execution} {r : Request} {resolution : Resolution} {after : World}
    {answer : Except Failure (Answer r)}
    (hindex : x.world.executions[index]? = some e)
    (hasks : Progress.Asks e.service e.lane e.intent (x.progress index) r)
    (hresolved : Resolved x.world e r resolution after answer) : Owed after := by
  have hdone : forall choice value,
      Performed x.world e.attempt choice r after value -> Owed after := by
    intro choice value hperformed
    apply h.owed.performed hsound.wellFormed hperformed
    rintro key claimToken rfl transitionId hown hhanded
    exact h.releases hindex hasks hown hhanded
  cases hresolved with
  | returned choice after value hperformed => exact hdone choice value hperformed
  | failed resolution failure =>
    rcases x.world.called_eq e.attempt r with ⟨hjournal, _, _, _, hhanded, _⟩
    intro transitionId hmem
    rw [hhanded] at hmem
    rw [hjournal]
    exact h.owed transitionId hmem
  | lost choice raised after value hwrites hperformed => exact hdone choice value hperformed
  | detached => exact h.owed

theorem answered (hsound : Sound x) (h : Tended x) {index : Nat}
    {resolution : Resolution} {e : Execution} {r : Request}
    {resume : Except Failure (Answer r) -> Saga TransitionOutcome} {after : World}
    {answer : Except Failure (Answer r)}
    (hindex : x.world.executions[index]? = some e)
    (hprogram : e.program = .request r resume)
    (hresolve : x.world.resolve e r resolution = some (after, answer))
    (hcalm : x.world.obliged e.attempt = true -> e.calm r resolution = true)
    (hrebegins : x.world.rebegins e r resolution = true) :
    Tended (x.advance index after { e.answered r answer with program := resume answer }
      ((x.progress index).next e.service e.lane e.intent r answer)) := by
  have hj := hsound.wellFormed
  have hresolved := resolve_eq_some hresolve
  have hasks := hsound.asks hindex hprogram
  have hlinked := hsound.linked index e hindex
  have hages := hresolved.ages hj
  have hadvanced := advanced hj hlinked hasks hresolved (resume answer)
  have howed : Owed after := h.owed_answered hsound hindex hasks hresolved
  constructor
  · exact howed
  · intro i e' c stage hi hclaim
    rcases Traced.advance_cases hindex hresolved.executions hi with
      ⟨rfl, rfl, hσ⟩ | ⟨_, hold, hσ⟩
    · rw [hσ] at hclaim
      rcases hadvanced.claim c stage hclaim with
        ⟨old, hbefore, _, _⟩ | ⟨hbegins, _, rfl⟩
      · exact (h.named i e c old hindex hbefore).ages hages (hsound.backed hindex hbefore).issued
      · have hnamed : Names after.journal c.transitionId c.claimToken :=
          named_begun hj hlinked hasks hresolved hbegins hrebegins hclaim
        exact hnamed
    · rw [hσ] at hclaim
      exact (h.named i e' c stage hold hclaim).ages hages (hsound.backed hold hclaim).issued
  · intro i e' c stage hi hclaim hobliged
    have hobliged : Obliged after c.transitionId c.claimToken := hobliged
    rcases Traced.advance_cases hindex hresolved.executions hi with
      ⟨rfl, rfl, hσ⟩ | ⟨_, hold, hσ⟩
    · rw [hσ] at hclaim
      rcases hadvanced.claim c stage hclaim with
        ⟨old, hbefore, hallowed, rfl⟩ | ⟨_, _, rfl⟩
      · have hbacked := hsound.backed hindex hbefore
        have hwas := hages.obliged _ _ hbacked.issued hobliged
        apply tends_answered hj ⟨hlinked, hbefore, hallowed⟩ hresolve _
          (h.tends i e c old hindex hbefore hwas) hobliged.right.right
        apply hcalm
        rw [hbacked.attempt]
        exact hwas.holds
      · trivial
    · rw [hσ] at hclaim
      exact h.tends i e' c stage hold hclaim
        (hages.obliged _ _ (hsound.backed hold hclaim).issued hobliged)
  · intro call hcall transitionId claimToken hattempt
    have hcall : call ∈ after.detached := hcall
    have hold : call ∈ x.world.detached -> Names after.journal transitionId claimToken := by
      intro hmem
      exact (h.namedLeft call hmem _ _ hattempt).ages hages ((hsound.snapshots call hmem).token_lt
          (congrArg (Option.map Prod.snd) hattempt))
    rcases hresolved.detachedCalls with hsame | ⟨_, hmore⟩
    · exact hold (hsame ▸ hcall)
    · rw [hmore] at hcall
      rcases List.mem_append.mp hcall with hmem | hnew
      · exact hold hmem
      · rw [List.mem_singleton] at hnew
        subst hnew
        rcases claim_of_attempt hlinked hasks hattempt with
          ⟨c, stage, hclaim, rfl, rfl⟩
        exact (h.named index e c stage hindex hclaim).ages hages
          (hsound.backed hindex hclaim).issued
  · intro call hcall transitionId claimToken key token hattempt hrequest hobliged
    have hcall : call ∈ after.detached := hcall
    have hobliged : Obliged after transitionId claimToken := hobliged
    have hold : call ∈ x.world.detached -> False := by
      intro hmem
      exact h.left call hmem _ _ key token hattempt hrequest
        (hages.obliged _ _ ((hsound.snapshots call hmem).token_lt
          (congrArg (Option.map Prod.snd) hattempt)) hobliged)
    rcases hresolved.detachedCalls with hsame | ⟨_, hmore⟩
    · exact hold (hsame ▸ hcall)
    · rw [hmore] at hcall
      rcases List.mem_append.mp hcall with hmem | hnew
      · exact hold hmem
      · rw [List.mem_singleton] at hnew
        subst hnew
        have hrequest : r = .release key token := hrequest
        subst hrequest
        rcases claim_of_attempt hlinked hasks hattempt with
          ⟨c, stage, hclaim, rfl, rfl⟩
        have hwas := hages.obliged _ _ (hsound.backed hindex hclaim).issued hobliged
        generalize hσ : x.progress index = σ at hasks
        cases hasks with
        | works σ c' stage' r hclaim' hallowed =>
          rw [hσ, hclaim'] at hclaim
          cases hclaim
          rw [← hσ] at hclaim'
          exact (h.tends index e c stage hindex hclaim' hwas).not_releases hallowed

theorem step (hsound : Sound x) (h : Tended x) (s : WorldStep)
    (hguard : undisturbed x.world s = true) : Tended (x.step s) := by
  have hmoved := x.moved_step s
  generalize x.step s = x' at hmoved
  cases hmoved with
  | idle => exact h
  | submitted service lane intent =>
    constructor
    · exact h.owed
    · intro i e c stage hi hclaim
      rcases Traced.submit_cases hi with ⟨hold, hσ⟩ | ⟨_, _, _, hσ⟩
      · rw [hσ] at hclaim
        exact h.named i e c stage hold hclaim
      · rw [hσ] at hclaim
        cases hclaim
    · intro i e c stage hi hclaim hobliged
      rcases Traced.submit_cases hi with ⟨hold, hσ⟩ | ⟨_, _, _, hσ⟩
      · rw [hσ] at hclaim
        exact h.tends i e c stage hold hclaim hobliged
      · rw [hσ] at hclaim
        cases hclaim
    · exact h.namedLeft
    · exact h.left
  | answered index resolution e r resume after answer hindex hprogram hresolve =>
    have hpending : e.pending = some r := by
      unfold Execution.pending
      rw [hprogram]
    have hguard : (x.world.obliged e.attempt = false ∨
        e.calm r resolution = true) ∧ x.world.rebegins e r resolution = true := by
      simpa [undisturbed, hindex, hpending] using hguard
    apply h.answered hsound hindex hprogram hresolve _ hguard.right
    intro hobliged
    rcases hguard.left with hfree | hcalm
    · rw [hobliged] at hfree
      cases hfree
    · exact hcalm
  | finished position choice call r after value hcall hrequest hperformed =>
    apply h.calm hsound hperformed.executions
    · rw [hperformed.detached]
      exact List.eraseIdx_sublist _ _
    · have hages := Performed.ages (w := Traced.takeDetached x.world position)
        hsound.wellFormed hperformed
      exact ⟨hages.grows, hages.obliged⟩
    · apply Owed.performed (w := Traced.takeDetached x.world position)
        hsound.wellFormed h.owed hperformed
      rintro key claimToken rfl transitionId hown hhanded
      exact h.releasesLate hsound (List.mem_of_getElem? hcall) hrequest hown hhanded
  | dropped position choice =>
    apply h.calm hsound
    · rfl
    · exact List.eraseIdx_sublist _ _
    · exact ages_of_same (Grows.refl _) rfl
    · exact h.owed
  | edited key issue found hfound =>
    apply h.calm hsound
    · rfl
    · exact List.Sublist.refl _
    · exact ages_of_same (Grows.refl _) rfl
    · exact h.owed

theorem start (tracker : Tracker) :
    Tended { world := { tracker := tracker }, progress := fun _ => .starting } where
  owed := by
    intro transitionId hmem
    cases hmem
  named := by
    intro i e c stage hindex
    cases hindex
  tends := by
    intro i e c stage hindex
    cases hindex
  namedLeft := by
    intro call hcall
    cases hcall
  left := by
    intro call hcall
    cases hcall

end Tended

/--
While the holder of an obligation is not interrupted and no second begin is
handed another transition, the claim of a task names the transition that was
handed out until it is finished, and nobody works under a claim that names a
different transition.
-/
theorem obligationsKept_run (tracker : Tracker) (steps : List WorldStep)
    (hguard : Guarded World.step (fun w s => undisturbed w s = true) { tracker := tracker } steps) :
    ObligationsKept (run World.step { tracker := tracker } steps) := by
  have hinvariant := guarded_invariant_run (I := fun x => Sound x ∧ Tended x)
    (fun x s hx hs => ⟨hx.left.step s, hx.right.step hx.left s hs⟩)
    ⟨Sound.start tracker, Tended.start tracker⟩
    (Traced.guarded_world { world := { tracker := tracker }
                            progress := fun _ => .starting } steps hguard)
  rw [← Traced.run_world { world := { tracker := tracker }
                           progress := fun _ => .starting } steps]
  rcases hinvariant with ⟨hsound, htended⟩
  constructor
  · exact htended.owed
  · intro i e r transitionId claimToken hindex hpending hattempt
    rcases program_of_pending hpending with ⟨resume, hprogram⟩
    rcases claim_of_attempt (hsound.linked i e hindex) (hsound.asks hindex hprogram)
      hattempt with ⟨c, stage, hclaim, rfl, rfl⟩
    exact htended.named i e c stage hindex hclaim

/-- An executor dies after its begin; the next one is handed its transition. -/
def handedRun : List WorldStep :=
  [.submit sampleService .ordinary sampleIntent, .answer 0 (.returnsAt 0),
    .submit sampleService .ordinary { sampleIntent with idempotencyKey := "key-2" },
    .answer 1 (.returnsAt 301)]

/-- It reads the task in vain and retains the claim for a retry. -/
def retainedRun : List WorldStep :=
  handedRun ++ [.answer 1 (.raises (.exception "OSError")), .answer 1 (.returnsAt 302),
      .answer 1 (.returnsAt 302)]

/-- It is cancelled while it reads the task and releases the claim. -/
def cancelledRun : List WorldStep :=
  handedRun ++ [.answer 1 .detaches, .answer 1 (.returnsAt 302)]

theorem obligationsKept_retained :
    ObligationsKept (run World.step { tracker := sampleTracker } retainedRun) :=
  obligationsKept_run sampleTracker retainedRun (by decide +kernel)

theorem cancelled_releases : ¬ forall (tracker : Tracker) (steps : List WorldStep),
      ObligationsKept (run World.step { tracker := tracker } steps) := by
  intro h
  have howed := (h sampleTracker cancelledRun).owed 0 (by decide +kernel)
  have hopen : ¬ (run World.step { tracker := sampleTracker } cancelledRun).journal.Ended 0 := by
    decide +kernel
  have hclaims : (run World.step { tracker := sampleTracker }
      cancelledRun).journal.claims = [] := by
    decide +kernel
  rcases howed with hended | ⟨intent, token, _, row, hrow, _⟩
  · exact hopen hended
  · rw [hclaims] at hrow
    cases hrow

end TaskTransitions
end Oompah
