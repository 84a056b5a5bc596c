import Oompah.TaskTransitions.Soundness

/-!
# Final events

A final event settles its intent: `begin` replays its outcome.  `append`
compares no claim token, so an executor whose claim was taken over can append
behind the final event of the executor that took it.  Final events stand in the
runs where only the owner of a claim appends.
-/

namespace Oompah
namespace TaskTransitions

open Foundation

namespace TransitionJournal

/-!
# Journals whose final events stand
-/

/-- No event follows a final event of its transition. -/
def FinalLast (j : TransitionJournal) : Prop :=
  j.events.Pairwise (fun earlier later =>
    earlier.transitionId = later.transitionId -> earlier.phase.isFinal = false)

/-- Every begin of an intent with a final event replays its outcome. -/
def FinalReplayed (j : TransitionJournal) : Prop :=
  forall transitionId intent event, j.Registered transitionId intent ->
    event ∈ j.events -> event.transitionId = transitionId ->
    event.phase.isFinal = true ->
    exists outcome, event.outcome = some outcome ∧
      forall now ttl, exists j', j.begin_ intent now ttl = .ok (j',
          { transitionId := transitionId
            replay := some { outcome with replayed := true } })

def FinalStands (j : TransitionJournal) : Prop :=
  j.FinalLast ∧ j.FinalReplayed

section Reads

variable {j : TransitionJournal} {transitionId : Nat}

theorem FinalLast.latestEvent (h : j.FinalLast) {event : TransitionJournalEvent}
    (hevent : event ∈ j.events) (hid : event.transitionId = transitionId)
    (hfinal : event.phase.isFinal = true) :
    j.latestEvent transitionId = some event := by
  rcases latestEvent_of_mem hevent hid with ⟨latest, hlatest, rfl | hbefore⟩
  · exact hlatest
  · -- An event before the last one is not final.
    have hopen := (List.pairwise_pair.mp (h.sublist hbefore))
      (hid.trans (latestEvent_mem hlatest).right.symm)
    rw [hfinal] at hopen
    cases hopen

theorem FinalLast.not_ended (h : j.FinalLast) (hopen : j.NewestOpen transitionId) :
    ¬ j.Ended transitionId := by
  intro hended
  rcases hended with ⟨event, hevent, hid, hfinal⟩
  have hnonfinal := hopen event (h.latestEvent hevent hid hfinal)
  rw [hfinal] at hnonfinal
  cases hnonfinal

variable {intent : TransitionIntent}

theorem begin_replays {row : TransitionRequest}
    {latest : TransitionJournalEvent} {outcome : TransitionOutcome}
    (hrow : j.requestFor intent = some row) (hintent : row.intent = intent)
    (hlatest : j.latestEvent row.transitionId = some latest) (hfinal : latest.phase.isFinal = true)
    (houtcome : latest.outcome = some outcome) (now ttl : Int) :
    exists j', j.begin_ intent now ttl = .ok (j',
        { transitionId := row.transitionId
          replay := some { outcome with replayed := true } }) := by
  have hrow' : ({ j with issued := j.issued + 1 } : TransitionJournal).requestFor
      intent = some row := hrow
  have hlatest' : ({ j with issued := j.issued + 1 }
      : TransitionJournal).latestEvent row.transitionId = some latest := hlatest
  unfold begin_
  simp only [hrow', hlatest', hintent, ne_eq, not_true_eq_false, if_false,
    Option.filter, hfinal, if_true, Option.bind_eq_bind, Option.bind_some, houtcome]
  exact ⟨_, rfl⟩

theorem WellFormed.requestFor_registered (hj : j.WellFormed)
    (h : j.Registered transitionId intent) :
    j.requestFor intent = some { transitionId := transitionId, intent := intent } := by
  have hmem : ({ transitionId := transitionId, intent := intent }
      : TransitionRequest) ∈ j.requests := List.mem_of_getElem? h
  cases hfound : j.requestFor intent with
  | none =>
    have hnot := List.find?_eq_none.mp hfound _ hmem
    simp at hnot
  | some row =>
    have hrow := List.mem_of_find?_eq_some hfound
    have hkeys := List.find?_some hfound
    simp only [decide_eq_true_eq] at hkeys
    rw [hj.keyed row _ hrow hmem hkeys.left hkeys.right]

theorem FinalLast.replayed (hj : j.WellFormed) (h : j.FinalLast) : j.FinalReplayed := by
  intro transitionId intent event hregistered hevent hid hfinal
  have hsome := hj.outcomes event hevent hfinal
  cases houtcome : event.outcome with
  | none =>
    rw [houtcome] at hsome
    cases hsome
  | some outcome =>
    refine ⟨outcome, rfl, ?_⟩
    intro now ttl
    exact begin_replays (hj.requestFor_registered hregistered) rfl
      (h.latestEvent hevent hid hfinal) hfinal houtcome now ttl

end Reads
end TransitionJournal

/-!
# Runs where owners append
-/

def Request.appends : Request -> Bool
  | .append _ _ _ _ => true
  | .begin_ _ _ | .release _ _ | .expireForRetry _ _ | .fetch _
  | .fetchChildren _ | .stage _ _ | .update _ | .commitDirectOwner _
  | .commitGuarded _ => false

/-- An event is appended only under a token that the claim still carries. -/
def ownersAppend (w : World) : WorldStep -> Bool
  | .answer index (.returns _) =>
    match w.executions[index]? with
    | some e => !e.pending.any Request.appends || w.holdsClaim e.attempt
    | none => true
  | .finishDetached position _ =>
    match w.detached[position]? with
    | some call => !call.request.appends || w.holdsClaim call.attempt
    | none => true
  | _ => true

/-!
# Who may still append
-/

/-- The transitions that an execution can still append to. -/
def Progress.MayAppend : Progress -> Nat -> Prop
  | .recovering c stage waiting, transitionId =>
    stage.Open ∧ transitionId = c.transitionId ∨ transitionId = waiting
  | .running c stage, transitionId => stage.Open ∧ transitionId = c.transitionId
  | .starting, _ => False
  | .finished, _ => False

variable {r : Request}

section MayAppend

variable {service : TaskTransitionService} {lane : Lane}
  {intent : TransitionIntent} {j : TransitionJournal} {e : Execution}
  {σ : Progress} {transitionId : Nat}

variable {phase : TransitionPhase} {reasonCode : String} {outcome : Option TransitionOutcome}

theorem mayAppend_of_asks (h : Progress.Asks service lane intent σ
      (.append transitionId phase reasonCode outcome)) :
    σ.MayAppend transitionId := by
  cases h with
  | notes c waiting reasonCode outcome houtcome => exact .inr rfl
  | works σ c stage r hclaim hstage =>
    rcases Stage.allows_append hstage with ⟨hopen, hid, _⟩
    cases σ with
    | starting => cases hclaim
    | recovering c' stage' waiting =>
      cases hclaim
      exact .inl ⟨hopen, hid⟩
    | running c' stage' =>
      cases hclaim
      exact ⟨hopen, hid⟩
    | finished => cases hclaim

variable {c : Claimed}

/-- A final event is a step of a claim. -/
theorem open_of_final {stage : Stage} (h : Progress.Asks service lane intent σ
      (.append transitionId phase reasonCode outcome))
    (hclaim : σ.claim? = some (c, stage)) (hfinal : phase.isFinal = true) :
    stage.Open ∧ transitionId = c.transitionId := by
  cases h with
  | notes => cases hfinal
  | works σ c' stage' r hclaim' hstage =>
    rw [hclaim] at hclaim'
    cases hclaim'
    rcases Stage.allows_append hstage with ⟨hopen, hid, _⟩
    exact ⟨hopen, hid⟩

/-- An execution appends to transitions of the task it has claimed. -/
theorem mayAppend_key {stage : Stage} (hlinked : Linked j e σ)
    (hclaim : σ.claim? = some (c, stage)) (h : σ.MayAppend transitionId) :
    exists intent, j.Registered transitionId intent ∧ intent.key = c.intent.key := by
  have hbacked := hlinked.backed hclaim
  cases σ with
  | starting => cases hclaim
  | recovering c' stage' waiting =>
    cases hclaim
    rcases h with ⟨_, rfl⟩ | rfl
    · exact ⟨c.intent, hbacked.registered, rfl⟩
    · exact ⟨e.intent, hlinked.right.right.right.right.left, hbacked.key.symm⟩
  | running c' stage' =>
    cases hclaim
    rcases h with ⟨_, rfl⟩
    exact ⟨c.intent, hbacked.registered, rfl⟩
  | finished => cases hclaim

theorem mayAppend_withStage {stage stage' : Stage}
    (hclaim : σ.claim? = some (c, stage)) (hstage : stage'.Open -> stage.Open)
    (h : (σ.withStage stage').MayAppend transitionId) :
    σ.MayAppend transitionId := by
  cases σ with
  | starting => cases hclaim
  | recovering c' old waiting =>
    cases hclaim
    exact h.imp (fun hfirst => ⟨hstage hfirst.left, hfirst.right⟩) id
  | running c' old =>
    cases hclaim
    exact ⟨hstage h.left, h.right⟩
  | finished => cases hclaim

/-- Every answer but the one of a begin leaves fewer appends. -/
theorem mayAppend_next {answer : Except Failure (Answer r)}
    (hasks : Progress.Asks service lane intent σ r) (hr : r.begins = false)
    (h : (σ.next service lane intent r answer).MayAppend transitionId) :
    σ.MayAppend transitionId := by
  cases hasks with
  | begins σ hσ hadmits => cases hr
  | notes c waiting reasonCode outcome houtcome => exact h.elim
  | works σ c stage r hclaim hstage =>
    rw [Progress.next_works hclaim hstage] at h
    exact mayAppend_withStage hclaim Stage.next_open h

/-- A journaled conclusion is the last event of its execution. -/
theorem not_mayAppend_next (hlinked : Linked j e σ) (hasks : Progress.Asks service lane intent σ
      (.append transitionId phase reasonCode outcome)) (hfinal : phase.isFinal = true) :
    ¬ (σ.next service lane intent (.append transitionId phase reasonCode outcome)
      (.ok ())).MayAppend transitionId := by
  intro h
  cases hasks with
  | notes c waiting reasonCode outcome houtcome => exact h
  | works σ c stage r hclaim hstage =>
    have hphase : phase ≠ .applying := by
      intro heq
      rw [heq] at hfinal
      cases hfinal
    have hid := (Stage.allows_append hstage).right.left
    rw [Progress.next_works hclaim hstage, Stage.next_append hstage hphase] at h
    cases σ with
    | starting => cases hclaim
    | recovering c' stage' waiting =>
      cases hclaim
      rcases h with ⟨hopen, _⟩ | hwaiting
      · exact hopen
      · exact hlinked.right.right.right.right.right (hwaiting.symm.trans hid)
    | running c' stage' =>
      cases hclaim
      exact h.left
    | finished => cases hclaim

end MayAppend

variable {transitionId : Nat}

theorem token_unique {j : TransitionJournal} (hj : j.WellFormed)
    {e e' : Execution} {σ σ' : Progress} {c c' : Claimed} {stage stage' : Stage}
    (hlinked : Linked j e σ) (hlinked' : Linked j e' σ')
    (hclaim : σ.claim? = some (c, stage))
    (hclaim' : σ'.claim? = some (c', stage'))
    (hcarried : Carried j c.claimToken) (hcarried' : Carried j c'.claimToken)
    (h : σ.MayAppend transitionId) (h' : σ'.MayAppend transitionId) :
    c.claimToken = c'.claimToken := by
  rcases mayAppend_key hlinked hclaim h with ⟨intent, hregistered, hkey⟩
  rcases mayAppend_key hlinked' hclaim' h' with ⟨intent', hregistered', hkey'⟩
  rcases hcarried with ⟨key, owner, hown⟩
  rcases hcarried' with ⟨key', owner', hown'⟩
  have hk := (hlinked.backed hclaim).owned key owner hown
  have hk' := (hlinked'.backed hclaim').owned key' owner' hown'
  have hsame : key = key' := by
    rw [hk, hk', ← hkey, ← hkey', hregistered.unique hregistered']
  rw [hsame] at hown
  exact (hj.owner_unique hown hown').right

/-!
# Events that are added
-/

section Added

open TransitionJournal

variable {j j' : TransitionJournal} {intent : TransitionIntent}
  {begun : BeginResult}

variable {phase : TransitionPhase} {outcome : Option TransitionOutcome}

theorem ended_appendLocked {transitionId other : Nat} {reasonCode : String} :
    (j.appendLocked transitionId phase reasonCode outcome).Ended other <->
      j.Ended other ∨ other = transitionId ∧ phase.isFinal = true := by
  constructor
  · intro h
    rcases h with ⟨event, hevent, hid, hfinal⟩
    rcases List.mem_append.mp hevent with hold | hnew
    · exact .inl ⟨event, hold, hid, hfinal⟩
    · rw [List.mem_singleton] at hnew
      subst hnew
      exact .inr ⟨hid.symm, hfinal⟩
  · intro h
    rcases h with ⟨event, hevent, hid, hfinal⟩ | ⟨rfl, hfinal⟩
    · exact ⟨event, List.mem_append_left _ hevent, hid, hfinal⟩
    · exact ⟨_, List.mem_append_right _ (List.mem_singleton_self _), rfl, hfinal⟩

theorem finalLast_appendLocked {reasonCode : String}
    (h : j.FinalLast) (hopen : ¬ j.Ended transitionId) :
    (j.appendLocked transitionId phase reasonCode outcome).FinalLast := by
  apply List.pairwise_append.mpr
  refine ⟨h, List.pairwise_singleton _ _, ?_⟩
  intro earlier hearlier later hlater hsame
  rw [List.mem_singleton] at hlater
  subst hlater
  by_contra hfinal
  exact hopen ⟨earlier, hearlier, hsame, by simpa using hfinal⟩

/-- A begin ends no transition and adds events to open ones. -/
theorem finalLast_begun (hj : j.WellFormed) (h : j.FinalLast)
    (heffect : BeginEffect j intent j' begun) :
    j'.FinalLast ∧ forall transitionId, j'.Ended transitionId -> j.Ended transitionId := by
  rcases heffect.events with ⟨first, rest, hevents, hfirst, hrest⟩
  have hnonfinal : forall event, event ∈ first ++ rest ->
      event.phase.isFinal = false ∧ ¬ j.Ended event.transitionId := by
    intro event hevent
    rcases List.mem_append.mp hevent with hmem | hmem
    · rcases hfirst with rfl | ⟨_, rfl⟩
      · cases hmem
      · rw [List.mem_singleton] at hmem
        subst hmem
        refine ⟨rfl, ?_⟩
        intro hended
        rcases hended with ⟨old, hold, hid, _⟩
        have hlt := hj.known old hold
        rw [hid] at hlt
        exact Nat.lt_irrefl _ hlt
    · rcases hrest event hmem with ⟨hfinal, _, hopen, _, _⟩
      exact ⟨hfinal, h.not_ended hopen⟩
  constructor
  · unfold FinalLast
    rw [hevents]
    apply List.pairwise_append.mpr
    refine ⟨h, ?_, ?_⟩
    · apply List.pairwise_of_forall_mem_list
      intro earlier hearlier later _ _
      exact (hnonfinal earlier hearlier).left
    · intro earlier hearlier later hlater hsame
      by_contra hfinal
      exact (hnonfinal later hlater).right ⟨earlier, hearlier, hsame, by simpa using hfinal⟩
  · intro transitionId hended
    rcases hended with ⟨event, hevent, hid, hfinal⟩
    rw [hevents] at hevent
    rcases List.mem_append.mp hevent with hold | hnew
    · exact ⟨event, hold, hid, hfinal⟩
    · rw [(hnonfinal event hnew).left] at hfinal
      cases hfinal

/-- What a begin starts can be appended to because it is not ended. -/
theorem newestOpen_begun (heffect : BeginEffect j intent j' begun) {lane : Lane}
    (h : (Progress.ofBegun lane intent begun).MayAppend transitionId ∨
      (Progress.ofFirstBegun lane intent begun).MayAppend transitionId) :
    j.NewestOpen transitionId := by
  have hown : forall claimToken, begun.claimToken = some claimToken ->
      j.NewestOpen begun.transitionId := by
    intro claimToken htoken
    exact (heffect.own (by rw [htoken]; rfl)).right
  have hplain : (Progress.ofBegun lane intent begun).MayAppend transitionId ->
      j.NewestOpen transitionId := by
    unfold Progress.ofBegun
    split
    · rename_i claimToken hreplay hwaiting htoken
      intro hmay
      rw [hmay.right]
      exact hown claimToken htoken
    · intro hmay
      exact hmay.elim
  rcases h with hmay | hmay
  · exact hplain hmay
  · unfold Progress.ofFirstBegun at hmay
    split at hmay
    · rename_i owed claimToken hrecovery htoken
      rcases hmay with ⟨_, rfl⟩ | rfl
      · have hgranted := granted_of_token htoken
        rw [hrecovery] at hgranted
        exact (heffect.granted _ _ hgranted).right.left
      · exact hown claimToken htoken
    · exact hmay.elim
    · exact hplain hmay

end Added

/-!
# The invariant
-/

/-- Whoever holds a claim may only append to open transitions. -/
structure Unended (x : Traced) : Prop where
  last : x.world.journal.FinalLast
  executions : forall (i : Nat) (e : Execution) (c : Claimed) (stage : Stage),
    x.world.executions[i]? = some e -> (x.progress i).claim? = some (c, stage) ->
    Carried x.world.journal c.claimToken -> forall transitionId,
    (x.progress i).MayAppend transitionId -> ¬ x.world.journal.Ended transitionId
  calls : forall call, call ∈ x.world.detached -> forall claimToken,
    call.token = some claimToken -> Carried x.world.journal claimToken ->
    forall transitionId phase reasonCode outcome,
    call.request = .append transitionId phase reasonCode outcome ->
    ¬ x.world.journal.Ended transitionId

variable {resume : Except Failure (Answer r) -> Saga TransitionOutcome}

namespace Unended

variable {x : Traced}

/-- Steps that answer no execution and end no transition. -/
theorem calm (hsound : Sound x) (h : Unended x) {after : World}
    (hexecutions : after.executions = x.world.executions)
    (hdetached : after.detached.Sublist x.world.detached)
    (hgrows : Grows x.world.journal after.journal)
    (hlast : after.journal.FinalLast)
    (hended : forall transitionId, after.journal.Ended transitionId ->
      x.world.journal.Ended transitionId) :
    Unended { world := after, progress := x.progress } where
  last := hlast
  executions := by
    intro i e c stage hindex hclaim hcarried transitionId hmay hend
    have hindex : after.executions[i]? = some e := hindex
    rw [hexecutions] at hindex
    exact h.executions i e c stage hindex hclaim
      (hcarried.before hgrows (hsound.backed hindex hclaim).issued) transitionId
      hmay (hended transitionId hend)
  calls := by
    intro call hcall claimToken htoken hcarried transitionId phase reasonCode outcome hrequest hend
    have hmem := hdetached.subset hcall
    exact h.calls call hmem claimToken htoken
      (hcarried.before hgrows ((hsound.snapshots call hmem).token_lt htoken))
      transitionId phase reasonCode outcome hrequest (hended transitionId hend)

theorem quiet (hsound : Sound x) (h : Unended x) {index : Nat} {e : Execution}
    {after : World} {answer : Except Failure (Answer r)}
    (hindex : x.world.executions[index]? = some e)
    (hprogram : e.program = .request r resume)
    {resolution : Resolution}
    (hresolved : Resolved x.world e r resolution after answer)
    (hlast : after.journal.FinalLast)
    (hended : forall transitionId, after.journal.Ended transitionId ->
      x.world.journal.Ended transitionId)
    (hfresh : r.begins = true -> forall transitionId,
      ((x.progress index).next e.service e.lane e.intent r answer).MayAppend
        transitionId -> ¬ x.world.journal.Ended transitionId) :
    Unended (x.advance index after { e.answered r answer with program := resume answer }
      ((x.progress index).next e.service e.lane e.intent r answer)) := by
  have hasks := hsound.asks hindex hprogram
  have hgrows := (hresolved.journal hsound.wellFormed hasks).right
  have hadvanced := advanced hsound.wellFormed (hsound.linked index e hindex)
    hasks hresolved (resume answer)
  constructor
  · exact hlast
  · intro i e₀ c stage hi hclaim hcarried transitionId hmay hend
    rcases Traced.advance_cases hindex hresolved.executions hi with
      ⟨rfl, rfl, hσ⟩ | ⟨_, hold, hσ⟩
    · rw [hσ] at hclaim hmay
      cases hr : r.begins with
      | true => exact hfresh hr transitionId hmay (hended transitionId hend)
      | false =>
        rcases hadvanced.claim c stage hclaim with
          ⟨old, hbefore, _, _⟩ | ⟨hbegins, _⟩
        · exact h.executions i e c old hindex hbefore
            (hcarried.before hgrows (hsound.backed hindex hbefore).issued)
            transitionId (mayAppend_next hasks hr hmay)
            (hended transitionId hend)
        · rw [hr] at hbegins
          cases hbegins
    · rw [hσ] at hclaim hmay
      exact h.executions i e₀ c stage hold hclaim
        (hcarried.before hgrows (hsound.backed hold hclaim).issued) transitionId
        hmay (hended transitionId hend)
  · intro call hcall claimToken htoken hcarried transitionId phase reasonCode outcome hrequest hend
    have hcall : call ∈ after.detached := hcall
    have hold : call ∈ x.world.detached -> False := by
      intro hmem
      exact h.calls call hmem claimToken htoken
        (hcarried.before hgrows ((hsound.snapshots call hmem).token_lt htoken))
        transitionId phase reasonCode outcome hrequest (hended transitionId hend)
    rcases hresolved.detachedCalls with hsame | ⟨_, hmore⟩
    · rw [hsame] at hcall
      exact hold hcall
    · rw [hmore] at hcall
      rcases List.mem_append.mp hcall with hmem | hnew
      · exact hold hmem
      · rw [List.mem_singleton] at hnew
        subst hnew
        have hrequest : r = .append transitionId phase reasonCode outcome :=
          hrequest
        subst hrequest
        rcases hsound.claim_of_token hindex hasks htoken with
          ⟨c, stage, hclaim, rfl⟩
        exact h.executions index e c stage hindex hclaim
          (hcarried.before hgrows (hsound.backed hindex hclaim).issued)
          transitionId (mayAppend_of_asks hasks) (hended transitionId hend)

variable {phase : TransitionPhase} {outcome : Option TransitionOutcome}

/-- The owner of a claim appends. -/
theorem appended (hsound : Sound x) (h : Unended x) {index : Nat}
    {e : Execution} {reasonCode : String}
    {resume : Except Failure Unit -> Saga TransitionOutcome}
    {row : TransitionRequest} (hindex : x.world.executions[index]? = some e) (hprogram : e.program =
      .request (.append transitionId phase reasonCode outcome) resume)
    (hrow : x.world.journal.request? transitionId = some row)
    (hholds : x.world.holdsClaim e.attempt = true) :
    Unended (x.advance index
      { x.world with
        journal := x.world.journal.appendLocked transitionId phase (strip reasonCode)
          outcome }
      { e.answered (.append transitionId phase reasonCode outcome) (.ok ()) with
        program := resume (.ok ()) }
      ((x.progress index).next e.service e.lane e.intent
        (.append transitionId phase reasonCode outcome) (.ok ()))) := by
  have hasks := hsound.asks hindex hprogram
  have hlinked := hsound.linked index e hindex
  have hmay := mayAppend_of_asks hasks
  rcases carried_of_holdsClaim hholds with ⟨claimToken, htoken, hcarried⟩
  rcases hsound.claim_of_token hindex hasks htoken with ⟨c, stage, hclaim, rfl⟩
  have hopen := h.executions index e c stage hindex hclaim hcarried transitionId hmay
  have hlast : (x.world.journal.appendLocked transitionId phase (strip reasonCode)
      outcome).FinalLast := finalLast_appendLocked h.last hopen
  have hresolved := Resolved.returned (w := x.world) (e := e)
    (r := .append transitionId phase reasonCode outcome) {} _ ()
    (Performed.append transitionId phase reasonCode outcome row hrow)
  cases hfinal : phase.isFinal with
  | false =>
    apply h.quiet hsound hindex hprogram hresolved hlast
    · intro other hended
      rcases ended_appendLocked.mp hended with hold | ⟨_, htrue⟩
      · exact hold
      · rw [hfinal] at htrue
        cases htrue
    · intro hfalse
      cases hfalse
  | true =>
    constructor
    · exact hlast
    · intro i e₀ c₀ stage₀ hi hclaim₀ hcarried₀ other hmay₀ hended
      rcases Traced.advance_cases hindex hresolved.executions hi with
        ⟨rfl, rfl, hσ⟩ | ⟨hne, hold, hσ⟩
      · rw [hσ] at hmay₀
        rcases ended_appendLocked.mp hended with hbefore | ⟨rfl, _⟩
        · exact h.executions i e c stage hindex hclaim hcarried other
            (mayAppend_next hasks rfl hmay₀) hbefore
        · exact not_mayAppend_next hlinked hasks hfinal hmay₀
      · rw [hσ] at hclaim₀ hmay₀
        rcases ended_appendLocked.mp hended with hbefore | ⟨rfl, _⟩
        · exact h.executions i e₀ c₀ stage₀ hold hclaim₀ hcarried₀ other hmay₀ hbefore
        · have hsame := token_unique hsound.wellFormed
            (hsound.linked i e₀ hold) hlinked hclaim₀ hclaim hcarried₀ hcarried
            hmay₀ hmay
          exact hne (hsound.distinct i index e₀ e c₀ c stage₀ stage hold hindex
            hclaim₀ hclaim hsame)
    · intro call hcall claimToken' htoken' hcarried' other phase' reasonCode'
        outcome' hrequest hended
      have hcall : call ∈ x.world.detached := hcall
      rcases ended_appendLocked.mp hended with hbefore | ⟨rfl, _⟩
      · exact h.calls call hcall claimToken' htoken' hcarried' other phase'
          reasonCode' outcome' hrequest hbefore
      · rcases (hsound.snapshots call hcall).backed htoken' with
          ⟨e₀, σ₀, c₀, stage₀, _, _, hlinked₀, hasks₀, hclaim₀, _, rfl⟩
        rw [hrequest] at hasks₀
        have hsame := token_unique hsound.wellFormed hlinked₀ hlinked hclaim₀
          hclaim hcarried' hcarried (mayAppend_of_asks hasks₀) hmay
        -- A call left behind under this token closed the execution.
        have hclosed := (hsound.last call hcall _ htoken' index e c stage hindex
          hclaim hsame.symm).right
        have hstage := (open_of_final hasks hclaim hfinal).left
        rcases hclosed with rfl | rfl
        · exact hstage
        · exact hstage

/-- A call left behind under the token of a claim appends. -/
theorem appendedLate (hsound : Sound x) (h : Unended x) {position : Nat}
    {call : DetachedRequest} {reasonCode : String}
    (hcall : x.world.detached[position]? = some call)
    (hrequest : call.request = .append transitionId phase reasonCode outcome)
    (hholds : x.world.holdsClaim call.attempt = true) :
    Unended
      { world :=
          { Traced.takeDetached x.world position with
            journal := x.world.journal.appendLocked transitionId phase (strip reasonCode)
              outcome }
        progress := x.progress } := by
  have hmem := List.mem_of_getElem? hcall
  rcases carried_of_holdsClaim hholds with ⟨claimToken, htoken, hcarried⟩
  have hopen := h.calls call hmem claimToken htoken hcarried transitionId phase
    reasonCode outcome hrequest
  have hlast : (x.world.journal.appendLocked transitionId phase (strip reasonCode)
      outcome).FinalLast := finalLast_appendLocked h.last hopen
  have hsublist : (Traced.takeDetached x.world position).detached.Sublist
      x.world.detached := List.eraseIdx_sublist _ _
  cases hfinal : phase.isFinal with
  | false =>
    apply h.calm hsound
    · rfl
    · exact hsublist
    · constructor
      · exact fun _ _ hregistered => hregistered
      · exact Nat.le_refl _
      · exact fun _ _ _ _ hown => hown
      · exact fun _ hevent => List.mem_append_left _ hevent
    · exact hlast
    · intro other hended
      rcases ended_appendLocked.mp hended with hold | ⟨_, htrue⟩
      · exact hold
      · rw [hfinal] at htrue
        cases htrue
  | true =>
    rcases (hsound.snapshots call hmem).backed htoken with
      ⟨e, σ, c, stage, _, hattempt, hlinked, hasks, hclaim, hbacked, rfl⟩
    rw [hrequest] at hasks
    have hmay := mayAppend_of_asks hasks
    have hid := (open_of_final hasks hclaim hfinal).right
    constructor
    · exact hlast
    · intro i e₀ c₀ stage₀ hi hclaim₀ hcarried₀ other hmay₀ hended
      have hi : x.world.executions[i]? = some e₀ := hi
      rcases ended_appendLocked.mp hended with hbefore | ⟨rfl, _⟩
      · exact h.executions i e₀ c₀ stage₀ hi hclaim₀ hcarried₀ other hmay₀ hbefore
      · have hlinked₀ := hsound.linked i e₀ hi
        have hsame := token_unique hsound.wellFormed hlinked₀ hlinked hclaim₀
          hclaim hcarried₀ hcarried hmay₀ hmay
        rcases hsound.last call hmem _ htoken i e₀ c₀ stage₀ hi hclaim₀ hsame with
          ⟨hattempt₀, hclosed⟩
        have hstage : ¬ stage₀.Open := by
          rcases hclosed with rfl | rfl <;> exact id
        -- The late call named the transition of its claim, not a waiting one.
        have hnamed : other = c₀.transitionId := by
          rw [← hattempt, hbacked.attempt] at hattempt₀
          rw [hid]
          exact congrArg Prod.fst (Option.some.inj hattempt₀)
        generalize x.progress i = σ₀ at hlinked₀ hclaim₀ hmay₀
        cases σ₀ with
        | starting => cases hclaim₀
        | recovering c' stage' waiting =>
          cases hclaim₀
          rcases hmay₀ with ⟨hstageOpen, _⟩ | hwaiting
          · exact hstage hstageOpen
          · exact hlinked₀.right.right.right.right.right (hwaiting.symm.trans hnamed)
        | running c' stage' =>
          cases hclaim₀
          exact hstage hmay₀.left
        | finished => cases hclaim₀
    · intro call' hcall' claimToken' htoken' hcarried' other phase' reasonCode'
        outcome' hrequest' hended
      have hmem' := hsublist.subset hcall'
      rcases ended_appendLocked.mp hended with hbefore | ⟨rfl, _⟩
      · exact h.calls call' hmem' claimToken' htoken' hcarried' other phase'
          reasonCode' outcome' hrequest' hbefore
      · rcases (hsound.snapshots call' hmem').backed htoken' with
          ⟨e₀, σ₀, c₀, stage₀, _, _, hlinked₀, hasks₀, hclaim₀, _, rfl⟩
        rw [hrequest'] at hasks₀
        have hsame := token_unique hsound.wellFormed hlinked₀ hlinked hclaim₀
          hclaim hcarried' hcarried (mayAppend_of_asks hasks₀) hmay
        rw [hsame] at htoken'
        rcases hsound.exclusive_of hcall hcall' htoken htoken' with
          ⟨hattempts, hbodies⟩
        have hnames : call.attempt.map Prod.fst = some other := by
          rw [← hattempt, hbacked.attempt, hid]
          rfl
        apply hbodies
        constructor
        · rw [hrequest]
          exact hnames
        · rw [hrequest', ← hattempts]
          exact hnames

end Unended

/-!
# Runs
-/

/-- A begin that is not answered leaves nothing to append to. -/
theorem not_mayAppend_failed {service : TaskTransitionService} {lane : Lane}
    {intent : TransitionIntent} {σ : Progress} {failure : Failure}
    (hasks : Progress.Asks service lane intent σ r) (hr : r.begins = true)
    (transitionId : Nat) :
    ¬ (σ.next service lane intent r (.error failure)).MayAppend transitionId := by
  cases hasks with
  | begins σ hσ hadmits =>
    rcases hσ with rfl | ⟨c, waiting, rfl⟩ <;> exact id
  | notes => cases hr
  | works σ c stage r hclaim hstage =>
    rw [begins_of_stage hstage] at hr
    cases hr

theorem Unended.returned {x : Traced} (hsound : Sound x) (h : Unended x)
    {index : Nat} {choice : Choice} {e : Execution}
    {after : World} {value : Answer r}
    (hindex : x.world.executions[index]? = some e)
    (hprogram : e.program = .request r resume)
    (hperformed : Performed x.world e.attempt choice r after value)
    (hguard : ownersAppend x.world (.answer index (.returns choice)) = true) :
    Unended (x.advance index after { e.answered r (.ok value) with program := resume (.ok value) }
      ((x.progress index).next e.service e.lane e.intent r (.ok value))) := by
  have hresolved := Resolved.returned (e := e) choice after value hperformed
  cases hr : r.journals with
  | false =>
    have hsame := hperformed.journal hr
    apply h.quiet hsound hindex hprogram hresolved
    · rw [hsame]
      exact h.last
    · rw [hsame]
      exact fun _ hended => hended
    · intro hbegins
      cases r with
      | begin_ => cases hr
      | _ => cases hbegins
  | true =>
    cases hperformed with
    | begin_ intent leaseTtlSeconds journal begun hbegun =>
      have heffect := hbegun.effect hsound.wellFormed
      rcases finalLast_begun hsound.wellFormed h.last heffect with
        ⟨hlast, hended⟩
      apply h.quiet hsound hindex hprogram hresolved hlast hended
      intro _ transitionId hmay
      apply h.last.not_ended
      suffices howns : (Progress.ofBegun e.lane intent begun).MayAppend transitionId ∨
            (Progress.ofFirstBegun e.lane intent begun).MayAppend
              transitionId from newestOpen_begun heffect howns
      have hasks := hsound.asks hindex hprogram
      generalize x.progress index = σ at hasks hmay
      cases hasks with
      | begins σ hσ hadmits =>
        rcases hσ with rfl | ⟨c, waiting, rfl⟩
        · exact .inr hmay
        · exact .inl hmay
      | works σ c stage r hclaim hstage =>
        have hbegins := begins_of_stage hstage
        cases hbegins
    | append transitionId phase reasonCode outcome row hrow =>
      apply h.appended hsound hindex hprogram hrow
      unfold ownersAppend at hguard
      simp only [hindex, Execution.pending, hprogram, Option.any_some,
        Request.appends, Bool.not_true, Bool.false_or] at hguard
      exact hguard
    | release key claimToken released =>
      apply h.quiet hsound hindex hprogram hresolved h.last
      · exact fun _ hended => hended
      · intro hbegins
        cases hbegins
    | expireForRetry key claimToken retained =>
      apply h.quiet hsound hindex hprogram hresolved h.last
      · exact fun _ hended => hended
      · intro hbegins
        cases hbegins
    | _ => cases hr

theorem Unended.step {x : Traced} (hsound : Sound x) (h : Unended x)
    (s : WorldStep) (hguard : ownersAppend x.world s = true) :
    Unended (x.step s) := by
  have hmoved := x.moved_step s
  generalize hx' : x.step s = x' at hmoved
  cases hmoved with
  | idle => exact h
  | submitted service lane intent =>
    constructor
    · exact h.last
    · intro i e c stage hi hclaim
      rcases Traced.submit_cases hi with ⟨hold, hσ⟩ | ⟨_, _, _, hσ⟩
      · rw [hσ] at hclaim ⊢
        exact h.executions i e c stage hold hclaim
      · rw [hσ] at hclaim
        cases hclaim
    · exact h.calls
  | answered index resolution e r resume after answer hindex hprogram hresolve =>
    have hresolved := resolve_eq_some hresolve
    have hasks := hsound.asks hindex hprogram
    -- Every answer but a value leaves the journal alone.
    have hfailed : forall failure, answer = .error failure -> Unended (x.advance index after
          { e.answered r answer with program := resume answer }
          ((x.progress index).next e.service e.lane e.intent r answer)) := by
      intro failure hanswer
      subst hanswer
      have hsame : after.journal = x.world.journal := by
        cases hresolved with
        | failed => exact (x.world.called_eq e.attempt r).left
        | lost choice raised after value hwrites hperformed =>
          apply hperformed.journal
          cases r <;> first | rfl | cases hwrites
        | detached => rfl
      apply h.quiet hsound hindex hprogram hresolved
      · rw [hsame]
        exact h.last
      · rw [hsame]
        exact fun _ hended => hended
      · intro hbegins transitionId hmay
        exact absurd hmay (not_mayAppend_failed hasks hbegins transitionId)
    cases answer with
    | error failure => exact hfailed failure rfl
    | ok value =>
      cases hresolved with
      | returned choice after value hperformed =>
        exact h.returned hsound hindex hprogram hperformed hguard
  | finished position choice call r after value hcall hrequest hperformed =>
    have hsublist : after.detached.Sublist x.world.detached := by
      rw [hperformed.detached]
      exact List.eraseIdx_sublist _ _
    have hgrows := Performed.grows (w := Traced.takeDetached x.world position)
      hsound.wellFormed hperformed
    have hquiet : after.journal.FinalLast ->
        (forall transitionId, after.journal.Ended transitionId ->
          x.world.journal.Ended transitionId) ->
        Unended { world := after, progress := x.progress } := by
      intro hlast hended
      exact h.calm hsound hperformed.executions hsublist hgrows hlast hended
    cases hr : r.journals with
    | false =>
      have hsame := hperformed.journal hr
      apply hquiet
      · rw [hsame]
        exact h.last
      · rw [hsame]
        exact fun _ hended => hended
    | true =>
      cases hperformed with
      | begin_ intent leaseTtlSeconds journal begun hbegun =>
        have hlasts := finalLast_begun (j := x.world.journal)
          hsound.wellFormed h.last (hbegun.effect hsound.wellFormed)
        exact hquiet hlasts.left hlasts.right
      | append transitionId phase reasonCode outcome row hrow =>
        apply h.appendedLate hsound hcall hrequest
        unfold ownersAppend at hguard
        simp only [hcall, hrequest, Request.appends, Bool.not_true, Bool.false_or] at hguard
        exact hguard
      | release key claimToken released =>
        exact hquiet h.last (fun _ hended => hended)
      | expireForRetry key claimToken retained =>
        exact hquiet h.last (fun _ hended => hended)
      | _ => cases hr
  | dropped position choice =>
    exact h.calm hsound rfl (List.eraseIdx_sublist _ _) (Grows.refl _) h.last
      (fun _ hended => hended)
  | edited key issue found hfound =>
    exact h.calm hsound rfl (List.Sublist.refl _) (Grows.refl _) h.last (fun _ hended => hended)

theorem Unended.start (tracker : Tracker) :
    Unended { world := { tracker := tracker }, progress := fun _ => .starting } where
  last := List.Pairwise.nil
  executions := by
    intro i e c stage hindex
    cases hindex
  calls := by
    intro call hcall
    cases hcall

/--
While every event is appended under a token that the claim of its task still
carries, a final event is the last one of its transition, and every later begin
of its intent replays its outcome.
-/
theorem finalStands_run (tracker : Tracker) (steps : List WorldStep)
    (hguard : Guarded World.step (fun w s => ownersAppend w s = true)
      { tracker := tracker } steps) :
    (run World.step { tracker := tracker } steps).journal.FinalStands := by
  have hinvariant := guarded_invariant_run (I := fun x => Sound x ∧ Unended x)
    (fun x s hx hs => ⟨hx.left.step s, hx.right.step hx.left s hs⟩)
    ⟨Sound.start tracker, Unended.start tracker⟩
    (Traced.guarded_world { world := { tracker := tracker }
                            progress := fun _ => .starting } steps hguard)
  rw [← Traced.run_world { world := { tracker := tracker }
                           progress := fun _ => .starting } steps]
  exact ⟨hinvariant.right.last, hinvariant.right.last.replayed hinvariant.left.wellFormed⟩

/-- The second executor takes the expired claim over and applies the first intent. -/
def takeoverRun : List WorldStep :=
  [.submit sampleService .ordinary sampleIntent,
    .answer 0 (.returnsAt 0), .answer 0 (.returnsAt 1), .answer 0 (.returnsAt 1),
    .submit sampleService .ordinary { sampleIntent with idempotencyKey := "key-2" },
    .answer 1 (.returnsAt 301), .answer 1 (.returnsAt 301),
    .answer 1 (.returnsAt 301), .answer 1 (.returnsAt 301),
    .answer 1 (.returnsAt 301), .answer 1 (.returnsAt 301),
    .answer 1 (.returnsAt 301)]

/-- The first executor goes on after the takeover: its calls to the tracker fail. -/
def lateAppendRun : List WorldStep :=
  takeoverRun ++ [.answer 0 (.raises (.exception "OSError")),
      .answer 0 (.raises (.exception "OSError")), .answer 0 (.returnsAt 302)]

theorem finalStands_takeover :
    (run World.step { tracker := sampleTracker } takeoverRun).journal.FinalStands :=
  finalStands_run sampleTracker takeoverRun (by decide +kernel)

theorem lateAppend_after_final : ¬ forall (tracker : Tracker) (steps : List WorldStep),
      (run World.step { tracker := tracker } steps).journal.FinalStands := by
  intro h
  have hlast := (h sampleTracker lateAppendRun).left
  revert hlast
  unfold TransitionJournal.FinalLast
  decide +kernel

end TaskTransitions
end Oompah
