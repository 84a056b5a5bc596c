import Mathlib.Data.List.Basic
import Oompah.TaskTransitions.Journal

/-!
# What journal calls write

Every call of the journal adds events and changes who owns a task.  The effect
of `begin` is stated once, without its transaction: which events it adds, which
claim it grants and which claims it takes away.
-/

namespace Oompah
namespace TaskTransitions
namespace TransitionJournal

open Foundation

/-!
# Facts about a journal
-/

/-- A claim row gives a task to a transition and a token. -/
def Owns (j : TransitionJournal) (key : TaskKey) (transitionId claimToken : Nat) :
    Prop :=
  exists row, row ∈ j.claims ∧ row.key = key ∧
    row.transitionId = transitionId ∧ row.claimToken = claimToken

def Registered (j : TransitionJournal) (transitionId : Nat) (intent : TransitionIntent) : Prop :=
  j.requests[transitionId]? = some { transitionId := transitionId, intent := intent }

/-- The newest event of a transition, if there is one, is not final. -/
def NewestOpen (j : TransitionJournal) (transitionId : Nat) : Prop :=
  forall latest, j.latestEvent transitionId = some latest -> latest.phase.isFinal = false

/-- A final event of a transition was appended. -/
def Ended (j : TransitionJournal) (transitionId : Nat) : Prop :=
  exists event, event ∈ j.events ∧ event.transitionId = transitionId ∧ event.phase.isFinal = true

/-- What every journal call keeps. -/
structure WellFormed (j : TransitionJournal) : Prop where
  indexed : forall (index : Nat) (row : TransitionRequest),
    j.requests[index]? = some row -> row.transitionId = index
  keyed : forall row row', row ∈ j.requests -> row' ∈ j.requests ->
    row.intent.projectId = row'.intent.projectId ->
    row.intent.idempotencyKey = row'.intent.idempotencyKey -> row = row'
  known : forall event, event ∈ j.events -> event.transitionId < j.requests.length
  outcomes : forall event, event ∈ j.events -> event.phase.isFinal = true ->
    event.outcome.isSome = true
  requestedFirst : j.events.Pairwise (fun earlier later =>
    earlier.transitionId = later.transitionId -> later.phase ≠ .requested)
  claimed : forall key transitionId claimToken, j.Owns key transitionId claimToken ->
      claimToken < j.issued ∧ exists intent, j.Registered transitionId intent ∧ intent.key = key
  single : forall row row', row ∈ j.claims -> row' ∈ j.claims -> row.key = row'.key -> row = row'

theorem wellFormed_empty : WellFormed {} where
  indexed := by
    intro index row hrow
    cases hrow
  keyed := by
    intro row row' hrow
    cases hrow
  known := by
    intro event hevent
    cases hevent
  outcomes := by
    intro event hevent
    cases hevent
  requestedFirst := List.Pairwise.nil
  claimed := by
    intro key transitionId claimToken hown
    rcases hown with ⟨row, hrow, _⟩
    cases hrow
  single := by
    intro row row' hrow
    cases hrow

section Reads

variable {j : TransitionJournal} {transitionId : Nat} {intent : TransitionIntent}

theorem latestEvent_mem {latest : TransitionJournalEvent}
    (h : j.latestEvent transitionId = some latest) :
    latest ∈ j.events ∧ latest.transitionId = transitionId := by
  have hmem := List.mem_of_getLast? h
  unfold eventsOf at hmem
  simpa using hmem

theorem latestEvent_of_mem {event : TransitionJournalEvent}
    (hevent : event ∈ j.events) (hid : event.transitionId = transitionId) :
    exists latest, j.latestEvent transitionId = some latest ∧
      (event = latest ∨ [event, latest].Sublist j.events) := by
  have hmem : event ∈ j.eventsOf transitionId := by
    unfold eventsOf
    simpa using ⟨hevent, hid⟩
  have hne : j.eventsOf transitionId ≠ [] := List.ne_nil_of_mem hmem
  refine ⟨(j.eventsOf transitionId).getLast hne, List.getLast?_eq_some_getLast hne, ?_⟩
  have hsplit := List.dropLast_append_getLast hne
  rw [← hsplit] at hmem
  rcases List.mem_append.mp hmem with hbefore | hlast
  · right
    have hpair := (List.singleton_sublist.mpr hbefore).append
      (List.Sublist.refl [(j.eventsOf transitionId).getLast hne])
    rw [hsplit] at hpair
    exact hpair.trans List.filter_sublist
  · exact .inl (List.mem_singleton.mp hlast)

variable {row : TransitionRequest}

theorem WellFormed.registered_of_request? (hj : j.WellFormed)
    (h : j.request? transitionId = some row) :
    j.Registered transitionId row.intent := by
  have hmem := List.mem_of_find?_eq_some h
  have hid : row.transitionId = transitionId := by simpa using List.find?_some h
  rcases List.mem_iff_getElem?.mp hmem with ⟨index, hindex⟩
  have heq := hj.indexed index row hindex
  subst hid
  unfold Registered
  rw [heq, hindex, ← heq]

theorem WellFormed.registered_of_requestFor (hj : j.WellFormed)
    (h : j.requestFor intent = some row) :
    j.Registered row.transitionId row.intent := by
  have hmem := List.mem_of_find?_eq_some h
  rcases List.mem_iff_getElem?.mp hmem with ⟨index, hindex⟩
  have heq := hj.indexed index row hindex
  unfold Registered
  rw [heq, hindex, ← heq]

theorem Registered.unique {intent' : TransitionIntent} (h : j.Registered transitionId intent)
    (h' : j.Registered transitionId intent') : intent = intent' := by
  unfold Registered at h h'
  rw [h] at h'
  cases h'
  rfl

theorem WellFormed.request?_of_registered (hj : j.WellFormed)
    (h : j.Registered transitionId intent) :
    j.request? transitionId = some { transitionId := transitionId, intent := intent } := by
  cases hrow : j.request? transitionId with
  | none =>
    have hmiss := List.find?_eq_none.mp hrow _ (List.mem_of_getElem? h)
    simp at hmiss
  | some row =>
    have hid : row.transitionId = transitionId := by simpa using List.find?_some hrow
    have hintent := (hj.registered_of_request? hrow).unique h
    rw [← hid, ← hintent]

theorem Registered.lt (h : j.Registered transitionId intent) :
    transitionId < j.requests.length := by
  exact (List.getElem?_eq_some_iff.mp h).1

theorem WellFormed.owner_unique (hj : j.WellFormed) {key : TaskKey}
    {owner owner' token token' : Nat} (h : j.Owns key owner token)
    (h' : j.Owns key owner' token') : owner = owner' ∧ token = token' := by
  rcases h with ⟨row, hrow, hkey, rfl, rfl⟩
  rcases h' with ⟨row', hrow', hkey', rfl, rfl⟩
  have heq := hj.single row row' hrow hrow' (hkey.trans hkey'.symm)
  rw [heq]
  exact ⟨rfl, rfl⟩

end Reads

/-!
# Begin
-/

/-- The grant of a begin: the transition it is for and the token. -/
def granted (begun : BeginResult) : Option (Nat × Nat) :=
  begun.claimToken.map (fun claimToken =>
    ((begun.recovery.map Recovery.transitionId).getD begun.transitionId, claimToken))

/-- How `acquire` ends. -/
inductive Acquired (j : TransitionJournal) (intent : TransitionIntent)
    (transitionId : Nat) (previousPhase : Option TransitionPhase)
    (now ttl : Int) (claimToken : Nat) : TransitionJournal -> BeginResult -> Prop
  | free (hfree : j.claim? intent.key = none) :
      Acquired j intent transitionId previousPhase now ttl claimToken (j.insertClaim
          { key := intent.key
            transitionId := transitionId
            claimToken := claimToken
            claimedAt := now
            leaseExpiresAt := now + ttl })
        { transitionId := transitionId
          claimToken := some claimToken
          previousPhase := previousPhase }
  | waiting (active : TransitionClaim)
      (hactive : j.claim? intent.key = some active) (outcome : TransitionOutcome)
      (hlive : now < active.leaseExpiresAt)
      (hwaiting : outcome.disposition = .waiting) :
      Acquired j intent transitionId previousPhase now ttl claimToken
        (j.appendLocked transitionId .waiting "transition.owner_active" (some outcome))
        { transitionId := transitionId, waiting := some outcome }
  | replaced (active : TransitionClaim) (hactive : j.claim? intent.key = some active)
      (hexpired : active.leaseExpiresAt ≤ now)
      (hdone : active.transitionId = transitionId ∨
        exists latest, j.latestEvent active.transitionId = some latest ∧
          latest.phase.isFinal = true) :
      Acquired j intent transitionId previousPhase now ttl claimToken
        ((j.deleteClaims (fun row => row = active)).insertClaim
          { key := intent.key
            transitionId := transitionId
            claimToken := claimToken
            claimedAt := now
            leaseExpiresAt := now + ttl })
        { transitionId := transitionId
          claimToken := some claimToken
          previousPhase := previousPhase }
  | recovered (active : TransitionClaim) (request : TransitionRequest)
      (latest : TransitionJournalEvent)
      (hactive : j.claim? intent.key = some active)
      (hexpired : active.leaseExpiresAt ≤ now)
      (hother : active.transitionId ≠ transitionId)
      (hrequest : j.request? active.transitionId = some request)
      (hkey : request.intent.key = intent.key)
      (hlatest : j.latestEvent active.transitionId = some latest)
      (hopen : latest.phase.isFinal = false) :
      Acquired j intent transitionId previousPhase now ttl claimToken
        (j.recoverClaim intent transitionId active request.intent latest.phase now ttl claimToken).1
        (j.recoverClaim intent transitionId active request.intent latest.phase now ttl claimToken).2

variable {intent : TransitionIntent} {transitionId : Nat} {previousPhase : Option TransitionPhase}
  {now ttl : Int} {claimToken : Nat} {begun : BeginResult}

variable {j j' : TransitionJournal}

theorem acquire_eq_ok
    (h : j.acquire intent transitionId previousPhase now ttl claimToken = .ok (j', begun)) :
    Acquired j intent transitionId previousPhase now ttl claimToken j' begun := by
  unfold acquire at h
  split at h
  · rename_i hfree
    cases h
    exact Acquired.free hfree
  · rename_i active hactive
    split at h
    · rename_i hlive
      cases h
      exact Acquired.waiting active hactive _ hlive rfl
    · rename_i hexpired
      have hexpired := Int.not_lt.mp hexpired
      split at h
      · rename_i hsame
        cases h
        exact Acquired.replaced active hactive hexpired (Or.inl hsame)
      · rename_i hother
        split at h
        · cases h
        · rename_i request hrequest
          split at h
          · cases h
          · rename_i hkey
            split at h
            · cases h
            · rename_i latest hlatest
              split at h
              · rename_i hfinal
                split at h
                · cases h
                · cases h
                  exact Acquired.replaced active hactive hexpired (Or.inr ⟨latest, hlatest, hfinal⟩)
              · rename_i hopen
                have heq := Except.ok.inj h
                rw [show j' = _ from (congrArg Prod.fst heq).symm,
                  show begun = _ from (congrArg Prod.snd heq).symm]
                exact Acquired.recovered active request latest hactive hexpired hother
                  hrequest (not_not.mp hkey) hlatest (by simpa using hopen)

/-- How `begin` ends. -/
inductive Begun (j : TransitionJournal) (intent : TransitionIntent)
    (now ttl : Int) : TransitionJournal -> BeginResult -> Prop
  | conflicting (row : TransitionRequest) (outcome : TransitionOutcome) :
      Begun j intent now ttl { j with issued := j.issued + 1 }
        { transitionId := row.transitionId, replay := some outcome }
  | replayed (row : TransitionRequest) (latest : TransitionJournalEvent)
      (outcome : TransitionOutcome) (hrow : j.requestFor intent = some row)
      (hintent : row.intent = intent)
      (hlatest : j.latestEvent row.transitionId = some latest)
      (hfinal : latest.phase.isFinal = true)
      (houtcome : latest.outcome = some outcome) :
      Begun j intent now ttl (({ j with issued := j.issued + 1 } : TransitionJournal).deleteClaims
          (fun claim => claim.key = intent.key ∧ claim.transitionId = row.transitionId))
        { transitionId := row.transitionId
          replay := some { outcome with replayed := true } }
  | resumed (row : TransitionRequest) (hrow : j.requestFor intent = some row)
      (hintent : row.intent = intent)
      (hopen : forall latest, j.latestEvent row.transitionId = some latest ->
        latest.phase.isFinal = true -> latest.outcome = none)
      {j' : TransitionJournal} {begun : BeginResult}
      (hacquired : Acquired { j with issued := j.issued + 1 } intent
        row.transitionId ((j.latestEvent row.transitionId).map (·.phase)) now ttl
        j.issued j' begun) :
      Begun j intent now ttl j' begun
  | registered (hnone : j.requestFor intent = none) {j' : TransitionJournal} {begun : BeginResult}
      (hacquired : Acquired
        (({ j with issued := j.issued + 1 } : TransitionJournal).register intent)
        intent j.requests.length none now ttl j.issued j' begun) :
      Begun j intent now ttl j' begun

theorem begin_eq_ok (h : j.begin_ intent now ttl = .ok (j', begun)) :
    Begun j intent now ttl j' begun := by
  unfold begin_ at h
  simp only at h
  split at h
  · rename_i row hrow
    split at h
    · cases h
      exact Begun.conflicting row _
    · rename_i hintent
      split at h
      · rename_i outcome houtcome
        cases h
        rcases Option.bind_eq_some_iff.mp houtcome with ⟨latest, hlatest, heq⟩
        rcases Option.filter_eq_some_iff.mp hlatest with ⟨hmem, hfinal⟩
        exact Begun.replayed row latest outcome hrow (not_not.mp hintent) hmem hfinal heq
      · rename_i hnone
        refine Begun.resumed (j := j) row hrow (not_not.mp hintent) ?_ (acquire_eq_ok h)
        intro latest hlatest hfinal
        have hlatest' : ({ j with issued := j.issued + 1 }
          : TransitionJournal).latestEvent row.transitionId = some latest := hlatest
        have hfilter : (some latest).filter (·.phase.isFinal) = some latest := by
          simp [hfinal]
        rw [hlatest', hfilter] at hnone
        exact hnone
  · rename_i hnone
    exact Begun.registered (j := j) hnone (acquire_eq_ok h)

/-!
# Ownership
-/

section Ownership

variable {j : TransitionJournal} {key : TaskKey} {transitionId claimToken : Nat}

theorem claim?_eq_some {row : TransitionClaim} (h : j.claim? key = some row) :
    row ∈ j.claims ∧ row.key = key := by
  constructor
  · exact List.mem_of_find?_eq_some h
  · simpa using List.find?_some h

theorem not_owns_of_claim?_none (h : j.claim? key = none) :
    ¬ j.Owns key transitionId claimToken := by
  intro hown
  rcases hown with ⟨row, hrow, hkey, _⟩
  have hnone := List.find?_eq_none.mp h row hrow
  simp [hkey] at hnone

theorem owns_insertClaim {claim : TransitionClaim} :
    (j.insertClaim claim).Owns key transitionId claimToken <->
      j.Owns key transitionId claimToken ∨ claim.key = key ∧ claim.transitionId = transitionId ∧
          claim.claimToken = claimToken := by
  unfold Owns insertClaim
  simp only [List.mem_append, List.mem_singleton]
  constructor
  · intro h
    rcases h with ⟨row, hrow | hrow, hfields⟩
    · exact .inl ⟨row, hrow, hfields⟩
    · subst hrow
      exact .inr hfields
  · intro h
    rcases h with ⟨row, hrow, hfields⟩ | hfields
    · exact ⟨row, Or.inl hrow, hfields⟩
    · exact ⟨claim, Or.inr rfl, hfields⟩

variable {doomed : TransitionClaim -> Bool}

theorem owns_of_deleteClaims (h : (j.deleteClaims doomed).Owns key transitionId claimToken) :
    j.Owns key transitionId claimToken := by
  rcases h with ⟨row, hrow, hfields⟩
  exact ⟨row, (List.mem_filter.mp hrow).left, hfields⟩

theorem owns_deleteClaims (h : j.Owns key transitionId claimToken)
    (hkept : forall row, row ∈ j.claims -> row.key = key ->
      row.transitionId = transitionId -> row.claimToken = claimToken ->
      doomed row = false) :
    (j.deleteClaims doomed).Owns key transitionId claimToken := by
  rcases h with ⟨row, hrow, hkey, hid, htoken⟩
  refine ⟨row, List.mem_filter.mpr ⟨hrow, ?_⟩, hkey, hid, htoken⟩
  rw [hkept row hrow hkey hid htoken]
  rfl

theorem owns_release {released : TaskKey} {token : Nat} :
    (j.release released token).1.Owns key transitionId claimToken <->
      j.Owns key transitionId claimToken ∧ ¬ (key = released ∧ claimToken = token) := by
  constructor
  · intro h
    refine ⟨owns_of_deleteClaims h, ?_⟩
    intro hdoomed
    rcases h with ⟨row, hrow, hkey, hid, htoken⟩
    have hkept := (List.mem_filter.mp hrow).right
    simp [hkey, htoken, hdoomed] at hkept
  · intro h
    apply owns_deleteClaims h.left
    intro row _ hkey _ htoken
    have hnot := h.right
    rw [← hkey, ← htoken] at hnot
    simpa using hnot

theorem owns_map {f : TransitionClaim -> TransitionClaim}
    (hf : forall row, (f row).key = row.key ∧ (f row).transitionId = row.transitionId ∧
      (f row).claimToken = row.claimToken) :
    ({ j with claims := j.claims.map f } : TransitionJournal).Owns key transitionId claimToken <->
      j.Owns key transitionId claimToken := by
  constructor
  · intro h
    rcases h with ⟨row, hrow, hkey, hid, htoken⟩
    rcases List.mem_map.mp hrow with ⟨old, hold, rfl⟩
    have hsame := hf old
    exact ⟨old, hold, hsame.left ▸ hkey, hsame.right.left ▸ hid, hsame.right.right ▸ htoken⟩
  · intro h
    rcases h with ⟨row, hrow, hkey, hid, htoken⟩
    have hsame := hf row
    exact ⟨f row, List.mem_map_of_mem hrow, hsame.left.trans hkey,
      hsame.right.left.trans hid, hsame.right.right.trans htoken⟩

theorem owns_expireForRetry {expired : TaskKey} {token : Nat} {now : Int} :
    (j.expireForRetry expired token now).1.Owns key transitionId claimToken <->
      j.Owns key transitionId claimToken := by
  apply owns_map
  intro row
  split <;> exact ⟨rfl, rfl, rfl⟩

end Ownership

/-!
# The effect of an acquisition
-/

/-- What `acquire` writes, for a transition whose newest event is not final. -/
structure AcquireEffect (j : TransitionJournal) (intent : TransitionIntent)
    (transitionId : Nat) (previousPhase : Option TransitionPhase)
    (claimToken : Nat) (j' : TransitionJournal) (begun : BeginResult) : Prop where
  issued : j'.issued = j.issued
  requests : j'.requests = j.requests
  events : exists added, j'.events = j.events ++ added ∧
    forall event, event ∈ added -> event.phase.isFinal = false ∧
      event.phase ≠ .requested ∧ j.NewestOpen event.transitionId ∧
      event.transitionId < j.requests.length ∧
      exists o, event.outcome = some o ∧ (o.disposition = .waiting ∨ o.disposition = .retryable)
  owned : forall key transitionId claimToken, j'.Owns key transitionId claimToken ->
      j.Owns key transitionId claimToken ∨
        key = intent.key ∧ granted begun = some (transitionId, claimToken)
  kept : forall key transitionId claimToken, j.Owns key transitionId claimToken ->
      j'.Owns key transitionId claimToken ∨ key = intent.key ∧
          ((exists token, j'.Owns key transitionId token) ∨ j.Ended transitionId)
  granted : forall granted claimToken',
    TransitionJournal.granted begun = some (granted, claimToken') ->
      claimToken' = claimToken ∧ j.NewestOpen granted ∧
        (exists intent', j.Registered granted intent' ∧ intent'.key = intent.key) ∧
        forall transitionId claimToken'', j'.Owns intent.key transitionId claimToken'' <->
            transitionId = granted ∧ claimToken'' = claimToken
  recovery : forall owed, begun.recovery = some owed ->
    begun.claimToken.isSome = true ∧ begun.replay = none ∧ begun.waiting = none ∧
      (exists token, j.Owns intent.key owed.transitionId token) ∧
      j.Registered owed.transitionId owed.intent ∧
      owed.intent.key = intent.key ∧ owed.transitionId ≠ transitionId ∧
      (exists latest, j.latestEvent owed.transitionId = some latest ∧
        owed.previousPhase = latest.phase)
  own : begun.transitionId = transitionId
  previous : begun.recovery = none -> begun.claimToken.isSome = true ->
    begun.previousPhase = previousPhase

theorem Acquired.effect (hj : j.WellFormed) (hregistered : j.Registered transitionId intent)
    (hnewest : j.NewestOpen transitionId)
    (h : Acquired j intent transitionId previousPhase now ttl claimToken j' begun) :
    AcquireEffect j intent transitionId previousPhase claimToken j' begun := by
  cases h with
  | free hfree =>
    constructor
    · rfl
    · rfl
    · exact ⟨[], (List.append_nil _).symm, fun _ hevent => nomatch hevent⟩
    · intro key owner token hown
      rcases owns_insertClaim.mp hown with hold | ⟨hkey, hid, htoken⟩
      · exact .inl hold
      · subst hid htoken
        exact .inr ⟨hkey.symm, rfl⟩
    · intro key owner token hown
      exact .inl (owns_insertClaim.mpr (Or.inl hown))
    · intro granted token hgranted
      cases hgranted
      refine ⟨rfl, hnewest, ⟨intent, hregistered, rfl⟩, ?_⟩
      intro owner token
      rw [owns_insertClaim]
      constructor
      · intro hown
        rcases hown with hold | ⟨_, hid, htoken⟩
        · exact absurd hold (not_owns_of_claim?_none hfree)
        · exact ⟨hid.symm, htoken.symm⟩
      · intro heq
        exact .inr ⟨rfl, heq.left.symm, heq.right.symm⟩
    · intro owed howed
      cases howed
    · rfl
    · exact fun _ _ => rfl
  | waiting active hactive outcome hlive hwaiting =>
    constructor
    · rfl
    · rfl
    · refine ⟨_, rfl, ?_⟩
      intro event hevent
      rw [List.mem_singleton] at hevent
      subst hevent
      exact ⟨rfl, by simp, hnewest, hregistered.lt, outcome, rfl, Or.inl hwaiting⟩
    · exact fun _ _ _ hown => Or.inl hown
    · exact fun _ _ _ hown => Or.inl hown
    · intro granted token hgranted
      cases hgranted
    · intro owed howed
      cases howed
    · rfl
    · exact fun _ hsome => nomatch hsome
  | replaced active hactive hexpired hdone =>
    rcases claim?_eq_some hactive with ⟨hmem, hkey⟩
    have hothers : forall owner token,
        j.Owns intent.key owner token -> owner = active.transitionId := by
      intro owner token hown
      exact (hj.owner_unique hown ⟨active, hmem, hkey, rfl, rfl⟩).left
    constructor
    · rfl
    · rfl
    · exact ⟨[], (List.append_nil _).symm, fun _ hevent => nomatch hevent⟩
    · intro key owner token hown
      rcases owns_insertClaim.mp hown with hold | ⟨hfresh, hid, htoken⟩
      · exact .inl (owns_of_deleteClaims hold)
      · subst hid htoken
        exact .inr ⟨hfresh.symm, rfl⟩
    · intro key owner token hown
      by_cases hsame : key = intent.key
      · subst hsame
        right
        refine ⟨rfl, ?_⟩
        rw [hothers owner token hown]
        rcases hdone with heq | ⟨latest, hlatest, hfinal⟩
        · left
          refine ⟨claimToken, owns_insertClaim.mpr (Or.inr ⟨rfl, ?_, rfl⟩)⟩
          exact heq.symm
        · right
          rcases latestEvent_mem hlatest with ⟨hevent, hid⟩
          exact ⟨latest, hevent, hid, hfinal⟩
      · left
        apply owns_insertClaim.mpr
        left
        apply owns_deleteClaims hown
        intro row _ hrow _ _
        have hne : row ≠ active := by
          intro heq
          rw [heq, hkey] at hrow
          exact hsame hrow.symm
        simpa using hne
    · intro granted token hgranted
      cases hgranted
      refine ⟨rfl, hnewest, ⟨intent, hregistered, rfl⟩, ?_⟩
      intro owner token
      rw [owns_insertClaim]
      constructor
      · intro hown
        rcases hown with hold | ⟨_, hid, htoken⟩
        · rcases hold with ⟨row, hrow, hrowKey, _, _⟩
          rcases List.mem_filter.mp hrow with ⟨hrowMem, hkept⟩
          have heq := hj.single row active hrowMem hmem (hrowKey.trans hkey.symm)
          simp [heq] at hkept
        · exact ⟨hid.symm, htoken.symm⟩
      · intro heq
        exact .inr ⟨rfl, heq.left.symm, heq.right.symm⟩
    · intro owed howed
      cases howed
    · rfl
    · exact fun _ _ => rfl
  | recovered active request latest hactive hexpired hother hrequest hkeys hlatest
      hopen =>
      rcases claim?_eq_some hactive with ⟨hmem, hkey⟩
      have howner : j.Owns intent.key active.transitionId active.claimToken :=
        ⟨active, hmem, hkey, rfl, rfl⟩
      have hrequested := hj.registered_of_request? hrequest
      have hrow : forall row, row ∈ j.claims -> row.key = intent.key -> row = active :=
        fun row hrowMem hrowKey =>
          hj.single row active hrowMem hmem (hrowKey.trans hkey.symm)
      have hnewestActive : j.NewestOpen active.transitionId := by
        intro newest hnewestEvent
        rw [hlatest] at hnewestEvent
        cases hnewestEvent
        exact hopen
      -- The row keeps its transition and gets the new token.
      have howns : forall owner token,
          (j.recoverClaim intent transitionId active request.intent latest.phase
            now ttl claimToken).1.Owns intent.key owner token <->
            owner = active.transitionId ∧ token = claimToken := by
        intro owner token
        constructor
        · intro hown
          rcases hown with ⟨row, hrowMem, hrowKey, hid, htoken⟩
          rcases List.mem_map.mp hrowMem with ⟨old, hold, rfl⟩
          by_cases heq : old = active
          · subst heq
            rw [if_pos rfl] at hid htoken
            exact ⟨hid.symm, htoken.symm⟩
          · rw [if_neg heq] at hrowKey
            exact absurd (hrow old hold hrowKey) heq
        · intro heq
          refine ⟨_, List.mem_map_of_mem hmem, ?_, ?_, ?_⟩
          · rw [if_pos rfl]
            exact hkey
          · rw [if_pos rfl, heq.left]
          · rw [if_pos rfl, heq.right]
      constructor
      · rfl
      · rfl
      · refine ⟨_, List.append_assoc _ _ _, ?_⟩
        intro event hevent
        rcases List.mem_append.mp hevent with hexpired | hwaiting
        · rw [List.mem_singleton] at hexpired
          subst hexpired
          exact ⟨rfl, by simp, hnewestActive, hrequested.lt, _, rfl, Or.inr rfl⟩
        · rw [List.mem_singleton] at hwaiting
          subst hwaiting
          exact ⟨rfl, by simp, hnewest, hregistered.lt, _, rfl, Or.inl rfl⟩
      · intro key owner token hown
        by_cases hsame : key = intent.key
        · subst hsame
          rcases (howns owner token).mp hown with ⟨hid, htoken⟩
          subst hid htoken
          exact .inr ⟨rfl, rfl⟩
        · left
          rcases hown with ⟨row, hrowMem, hrowKey, hid, htoken⟩
          rcases List.mem_map.mp hrowMem with ⟨old, hold, rfl⟩
          have hne : old ≠ active := by
            intro heq
            subst heq
            rw [if_pos rfl] at hrowKey
            exact hsame (hrowKey.symm.trans hkey)
          rw [if_neg hne] at hrowKey hid htoken
          exact ⟨old, hold, hrowKey, hid, htoken⟩
      · intro key owner token hown
        by_cases hsame : key = intent.key
        · subst hsame
          refine .inr ⟨rfl, Or.inl ⟨claimToken, (howns _ _).mpr ⟨?_, rfl⟩⟩⟩
          exact (hj.owner_unique hown howner).left
        · left
          rcases hown with ⟨row, hrowMem, hrowKey, hid, htoken⟩
          have hne : row ≠ active := by
            intro heq
            subst heq
            exact hsame (hrowKey.symm.trans hkey)
          refine ⟨_, List.mem_map_of_mem hrowMem, ?_, ?_, ?_⟩ <;> rw [if_neg hne] <;> assumption
      · intro granted token hgranted
        cases hgranted
        exact ⟨rfl, hnewestActive, ⟨request.intent, hrequested, hkeys⟩, howns⟩
      · intro owed howed
        cases howed
        exact ⟨rfl, rfl, rfl, ⟨active.claimToken, howner⟩, hrequested, hkeys,
          hother, latest, hlatest, rfl⟩
      · rfl
      · intro hnone
        cases hnone

/-!
# The effect of a begin
-/

structure BeginEffect (j : TransitionJournal) (intent : TransitionIntent)
    (j' : TransitionJournal) (begun : BeginResult) : Prop where
  issued : j'.issued = j.issued + 1
  requests : j'.requests = j.requests ∨ j'.requests = j.requests ++
      [{ transitionId := j.requests.length, intent := intent }]
  events : exists first rest, j'.events = j.events ++ (first ++ rest) ∧
    (first = [] ∨ j.requests.length < j'.requests.length ∧
      first = [{ transitionId := j.requests.length
                 phase := .requested
                 reasonCode := intent.reasonCode }]) ∧
    forall event, event ∈ rest -> event.phase.isFinal = false ∧
      event.phase ≠ .requested ∧ j.NewestOpen event.transitionId ∧
      event.transitionId < j'.requests.length ∧
      exists o, event.outcome = some o ∧ (o.disposition = .waiting ∨ o.disposition = .retryable)
  owned : forall key transitionId claimToken, j'.Owns key transitionId claimToken ->
      j.Owns key transitionId claimToken ∨ key = intent.key ∧
          TransitionJournal.granted begun = some (transitionId, claimToken)
  kept : forall key transitionId claimToken, j.Owns key transitionId claimToken ->
      j'.Owns key transitionId claimToken ∨ key = intent.key ∧
          ((exists token, j'.Owns key transitionId token) ∨ j.Ended transitionId)
  granted : forall granted claimToken,
    TransitionJournal.granted begun = some (granted, claimToken) ->
      claimToken = j.issued ∧ j.NewestOpen granted ∧
        (exists intent', j'.Registered granted intent' ∧ intent'.key = intent.key) ∧
        forall transitionId claimToken', j'.Owns intent.key transitionId claimToken' <->
            transitionId = granted ∧ claimToken' = j.issued
  recovery : forall owed, begun.recovery = some owed ->
    begun.claimToken.isSome = true ∧ begun.replay = none ∧ begun.waiting = none ∧
      (exists token, j.Owns intent.key owed.transitionId token) ∧
      j.Registered owed.transitionId owed.intent ∧
      owed.intent.key = intent.key ∧ owed.transitionId ≠ begun.transitionId ∧
      (exists latest, j.latestEvent owed.transitionId = some latest ∧
        owed.previousPhase = latest.phase)
  own : begun.claimToken.isSome = true ->
    j'.Registered begun.transitionId intent ∧ j.NewestOpen begun.transitionId
  previous : begun.recovery = none -> begun.claimToken.isSome = true ->
    begun.previousPhase = (j.latestEvent begun.transitionId).map (·.phase)

variable {j : TransitionJournal}

theorem latestEvent_appendLocked_ne {transitionId other : Nat} (h : transitionId ≠ other)
    (phase : TransitionPhase) (reasonCode : String) (outcome : Option TransitionOutcome) :
    (j.appendLocked transitionId phase reasonCode outcome).latestEvent other =
      j.latestEvent other := by
  unfold latestEvent eventsOf appendLocked
  simp [List.filter_append, h]

theorem WellFormed.latestEvent_lt (hj : j.WellFormed) {latest : TransitionJournalEvent}
    (h : j.latestEvent transitionId = some latest) :
    transitionId < j.requests.length := by
  rcases latestEvent_mem h with ⟨hmem, hid⟩
  rw [← hid]
  exact hj.known latest hmem

theorem Registered.append (h : j.Registered transitionId intent)
    {j' : TransitionJournal} {more : List TransitionRequest}
    (hrequests : j'.requests = j.requests ++ more) :
    j'.Registered transitionId intent := by
  have hlt := h.lt
  unfold Registered at h ⊢
  rw [hrequests, List.getElem?_append_left hlt]
  exact h

theorem WellFormed.register (hj : j.WellFormed) (hnone : j.requestFor intent = none) :
    (j.register intent).WellFormed where
  indexed := by
    intro index row hrow
    have hrow : (j.requests ++ [{ transitionId := j.requests.length, intent := intent }])[index]? =
          some row := hrow
    by_cases hlt : index < j.requests.length
    · rw [List.getElem?_append_left hlt] at hrow
      exact hj.indexed index row hrow
    · rw [List.getElem?_append_right (Nat.le_of_not_lt hlt), List.getElem?_singleton] at hrow
      split at hrow
      · cases hrow
        show j.requests.length = index
        omega
      · cases hrow
  keyed := by
    have hfresh : forall row, row ∈ j.requests -> row.intent.projectId = intent.projectId ->
        row.intent.idempotencyKey ≠ intent.idempotencyKey := by
      intro row hrow hproject hkey
      have hnot := List.find?_eq_none.mp hnone row hrow
      simp [hproject, hkey] at hnot
    intro row row' hrow hrow' hproject hkey
    rcases List.mem_append.mp hrow with hold | hnew
    · rcases List.mem_append.mp hrow' with hold' | hnew'
      · exact hj.keyed row row' hold hold' hproject hkey
      · rw [List.mem_singleton] at hnew'
        subst hnew'
        exact absurd hkey (hfresh row hold hproject)
    · rw [List.mem_singleton] at hnew
      subst hnew
      rcases List.mem_append.mp hrow' with hold' | hnew'
      · exact absurd hkey.symm (hfresh row' hold' hproject.symm)
      · rw [List.mem_singleton] at hnew'
        exact hnew'.symm
  known := by
    intro event hevent
    show event.transitionId < (j.requests ++ _).length
    rw [List.length_append, List.length_singleton]
    rcases List.mem_append.mp hevent with hold | hnew
    · exact Nat.lt_succ_of_lt (hj.known event hold)
    · rw [List.mem_singleton] at hnew
      subst hnew
      exact Nat.lt_succ_self _
  outcomes := by
    intro event hevent hfinal
    rcases List.mem_append.mp hevent with hold | hnew
    · exact hj.outcomes event hold hfinal
    · rw [List.mem_singleton] at hnew
      subst hnew
      cases hfinal
  requestedFirst := by
    apply List.pairwise_append.mpr
    refine ⟨hj.requestedFirst, List.pairwise_singleton _ _, ?_⟩
    intro earlier hearlier later hlater hsame
    rw [List.mem_singleton] at hlater
    subst hlater
    have hlt := hj.known earlier hearlier
    exact absurd hsame (Nat.ne_of_lt hlt)
  claimed := by
    intro key transitionId claimToken hown
    rcases hj.claimed key transitionId claimToken hown with
      ⟨hlt, intent', hregistered, hkey⟩
    exact ⟨hlt, intent', hregistered.append rfl, hkey⟩
  single := hj.single

theorem WellFormed.issue (hj : j.WellFormed) :
    ({ j with issued := j.issued + 1 } : TransitionJournal).WellFormed := by
  refine { hj with claimed := ?_ }
  intro key transitionId claimToken hown
  rcases hj.claimed key transitionId claimToken hown with ⟨hlt, hregistered⟩
  exact ⟨Nat.lt_succ_of_lt hlt, hregistered⟩

theorem WellFormed.newestOpen_of_outcome (hj : j.WellFormed)
    (hopen : forall latest, j.latestEvent transitionId = some latest ->
      latest.phase.isFinal = true -> latest.outcome = none) :
    j.NewestOpen transitionId := by
  intro latest hlatest
  cases hfinal : latest.phase.isFinal with
  | false => rfl
  | true =>
    have hnone := hopen latest hlatest hfinal
    have hsome := hj.outcomes latest (latestEvent_mem hlatest).left hfinal
    rw [hnone] at hsome
    cases hsome

theorem WellFormed.newestOpen_register (hj : j.WellFormed) :
    (({ j with issued := j.issued + 1 } : TransitionJournal).register
      intent).NewestOpen j.requests.length := by
  intro latest hlatest
  rcases latestEvent_mem hlatest with ⟨hmem, hid⟩
  rcases List.mem_append.mp hmem with hold | hnew
  · exact absurd hid (Nat.ne_of_lt (hj.known latest hold))
  · rw [List.mem_singleton] at hnew
    subst hnew
    rfl

theorem Begun.effect (hj : j.WellFormed)
    (h : Begun j intent now ttl j' begun) : BeginEffect j intent j' begun := by
  cases h with
  | conflicting row outcome =>
    constructor
    · rfl
    · exact .inl rfl
    · exact ⟨[], [], (List.append_nil _).symm, Or.inl rfl, fun _ hevent => nomatch hevent⟩
    · exact fun _ _ _ hown => Or.inl hown
    · exact fun _ _ _ hown => Or.inl hown
    · intro granted token hgranted
      cases hgranted
    · intro owed howed
      cases howed
    · intro hsome
      cases hsome
    · intro _ hsome
      cases hsome
  | replayed row latest outcome hrow hintent hlatest hfinal houtcome =>
    constructor
    · rfl
    · exact .inl rfl
    · exact ⟨[], [], (List.append_nil _).symm, Or.inl rfl, fun _ hevent => nomatch hevent⟩
    · exact fun _ _ _ hown => Or.inl (owns_of_deleteClaims hown)
    · intro key owner token hown
      by_cases hdoomed : key = intent.key ∧ owner = row.transitionId
      · refine .inr ⟨hdoomed.left, Or.inr ?_⟩
        rcases latestEvent_mem hlatest with ⟨hmem, hid⟩
        exact ⟨latest, hmem, hid.trans hdoomed.right.symm, hfinal⟩
      · left
        apply owns_deleteClaims hown
        intro claim _ hkey hid _
        rw [← hkey, ← hid] at hdoomed
        simpa using hdoomed
    · intro granted token hgranted
      cases hgranted
    · intro owed howed
      cases howed
    · intro hsome
      cases hsome
    · intro _ hsome
      cases hsome
  | resumed row hrow hintent hopen hacquired =>
    have hregistered := hj.registered_of_requestFor hrow
    rw [hintent] at hregistered
    have hnewest : j.NewestOpen row.transitionId := hj.newestOpen_of_outcome hopen
    have heffect := hacquired.effect hj.issue hregistered hnewest
    constructor
    · exact heffect.issued
    · exact .inl heffect.requests
    · rcases heffect.events with ⟨added, hevents, hadded⟩
      refine ⟨[], added, hevents, Or.inl rfl, ?_⟩
      intro event hevent
      rcases hadded event hevent with ⟨hnonfinal, hphase, hopen, hlt, houtcome⟩
      exact ⟨hnonfinal, hphase, hopen, heffect.requests ▸ hlt, houtcome⟩
    · exact heffect.owned
    · exact heffect.kept
    · intro granted token hgranted
      rcases heffect.granted granted token hgranted with
        ⟨htoken, hopen, ⟨intent', hintent', hkey⟩, howns⟩
      refine ⟨htoken, hopen, ⟨intent', ?_, hkey⟩, howns⟩
      unfold Registered at hintent' ⊢
      rw [heffect.requests]
      exact hintent'
    · intro owed howed
      rw [heffect.own]
      exact heffect.recovery owed howed
    · intro hsome
      rw [heffect.own]
      refine ⟨?_, hnewest⟩
      unfold Registered at hregistered ⊢
      rw [heffect.requests]
      exact hregistered
    · intro hnone hsome
      rw [heffect.own]
      exact heffect.previous hnone hsome
  | registered hnone hacquired =>
    have hregistered : (({ j with issued := j.issued + 1 } : TransitionJournal).register
          intent).Registered j.requests.length intent :=
      List.getElem?_concat_length
    have hfresh : forall latest, j.latestEvent j.requests.length ≠ some latest := by
      intro latest hlatest
      exact Nat.lt_irrefl _ (hj.latestEvent_lt hlatest)
    -- The registered event changes the history of the new transition only.
    have hnewest : forall other, (({ j with issued := j.issued + 1 } : TransitionJournal).register
          intent).NewestOpen other -> j.NewestOpen other := by
      intro other hopen latest hlatest
      apply hopen latest
      unfold register
      rw [latestEvent_appendLocked_ne]
      · exact hlatest
      · intro heq
        subst heq
        exact hfresh latest hlatest
    have heffect := hacquired.effect (hj.issue.register hnone) hregistered hj.newestOpen_register
    have hrequests : j'.requests = j.requests ++
        [{ transitionId := j.requests.length, intent := intent }] :=
      heffect.requests
    have hlength : j.requests.length < j'.requests.length := by
      rw [hrequests, List.length_append, List.length_singleton]
      exact Nat.lt_succ_self _
    constructor
    · exact heffect.issued
    · exact .inr hrequests
    · rcases heffect.events with ⟨added, hevents, hadded⟩
      refine ⟨_, added, hevents.trans (List.append_assoc _ _ _), Or.inr ⟨hlength, rfl⟩, ?_⟩
      intro event hevent
      rcases hadded event hevent with ⟨hnonfinal, hphase, hopen, hlt, houtcome⟩
      exact ⟨hnonfinal, hphase, hnewest _ hopen, heffect.requests ▸ hlt, houtcome⟩
    · exact heffect.owned
    · intro key owner token hown
      rcases heffect.kept key owner token hown with hkept | ⟨hkey, hrest⟩
      · exact .inl hkept
      · refine .inr ⟨hkey, hrest.imp id ?_⟩
        intro hended
        rcases hended with ⟨event, hevent, hid, hfinal⟩
        rcases List.mem_append.mp hevent with hold | hnew
        · exact ⟨event, hold, hid, hfinal⟩
        · rw [List.mem_singleton] at hnew
          subst hnew
          cases hfinal
    · intro granted token hgranted
      rcases heffect.granted granted token hgranted with
        ⟨htoken, hopen, ⟨intent', hintent', hkey⟩, howns⟩
      refine ⟨htoken, hnewest _ hopen, ⟨intent', ?_, hkey⟩, howns⟩
      unfold Registered at hintent' ⊢
      rw [heffect.requests]
      exact hintent'
    · intro owed howed
      rcases heffect.recovery owed howed with
        ⟨hsome, hreplay, hwaiting, ⟨token, hown⟩, hrequested, hkey, hother, latest, hlatest, hphase⟩
      have hown' : j.Owns intent.key owed.transitionId token := hown
      rcases hj.claimed _ _ _ hown' with ⟨_, intent', hintent', _⟩
      have hold : j.Registered owed.transitionId owed.intent := by
        have hsame := (hintent'.append hrequests).unique
          (show j'.Registered owed.transitionId owed.intent by
            unfold Registered at hrequested ⊢
            rw [heffect.requests]
            exact hrequested)
        rw [← hsame]
        exact hintent'
      rw [heffect.own]
      refine ⟨hsome, hreplay, hwaiting, ⟨token, hown'⟩, hold, hkey, hother, latest, ?_, hphase⟩
      unfold register at hlatest
      rw [latestEvent_appendLocked_ne] at hlatest
      · exact hlatest
      · exact Nat.ne_of_gt hintent'.lt
    · intro hsome
      rw [heffect.own]
      constructor
      · unfold Registered at hregistered ⊢
        rw [heffect.requests]
        exact hregistered
      · intro latest hlatest
        exact absurd hlatest (hfresh latest)
    · intro hrecovery hsome
      rw [heffect.own, heffect.previous hrecovery hsome]
      cases hlatest : j.latestEvent j.requests.length with
      | none => rfl
      | some latest => exact absurd hlatest (hfresh latest)

/-!
# Well-formed journals
-/

theorem WellFormed.extend {j k : TransitionJournal} (hj : j.WellFormed)
    (hrequests : k.requests = j.requests)
    (hevents : exists added, k.events = j.events ++ added ∧ forall event, event ∈ added ->
        (event.phase.isFinal = true -> event.outcome.isSome = true) ∧
          event.phase ≠ .requested ∧ event.transitionId < j.requests.length)
    (hclaimed : forall key transitionId claimToken, k.Owns key transitionId claimToken ->
        claimToken < k.issued ∧ exists intent, j.Registered transitionId intent ∧ intent.key = key)
    (hsingle : forall row row', row ∈ k.claims -> row' ∈ k.claims ->
      row.key = row'.key -> row = row') : k.WellFormed := by
  rcases hevents with ⟨added, hevents, hadded⟩
  constructor
  · rw [hrequests]
    exact hj.indexed
  · rw [hrequests]
    exact hj.keyed
  · rw [hevents, hrequests]
    intro event hevent
    rcases List.mem_append.mp hevent with hold | hnew
    · exact hj.known event hold
    · exact (hadded event hnew).right.right
  · rw [hevents]
    intro event hevent
    rcases List.mem_append.mp hevent with hold | hnew
    · exact hj.outcomes event hold
    · exact (hadded event hnew).left
  · rw [hevents]
    apply List.pairwise_append.mpr
    refine ⟨hj.requestedFirst, ?_, ?_⟩
    · apply List.pairwise_of_forall_mem_list
      intro earlier _ later hlater _
      exact (hadded later hlater).right.left
    · intro earlier _ later hlater _
      exact (hadded later hlater).right.left
  · intro key transitionId claimToken hown
    rcases hclaimed key transitionId claimToken hown with ⟨hlt, intent, hintent, hkey⟩
    refine ⟨hlt, intent, ?_, hkey⟩
    unfold Registered at hintent ⊢
    rw [hrequests]
    exact hintent
  · exact hsingle

theorem WellFormed.acquired (hj : j.WellFormed) (htoken : claimToken < j.issued)
    (heffect : AcquireEffect j intent transitionId previousPhase claimToken j' begun)
    (h : Acquired j intent transitionId previousPhase now ttl claimToken j'
      begun) : j'.WellFormed := by
  apply hj.extend heffect.requests
  · rcases heffect.events with ⟨added, hevents, hadded⟩
    refine ⟨added, hevents, ?_⟩
    intro event hevent
    rcases hadded event hevent with ⟨hnonfinal, hphase, _, hlt, _⟩
    refine ⟨?_, hphase, hlt⟩
    intro hfinal
    rw [hnonfinal] at hfinal
    cases hfinal
  · intro key owner token hown
    rcases heffect.owned key owner token hown with hold | ⟨hkey, hgranted⟩
    · rw [heffect.issued]
      exact hj.claimed key owner token hold
    · rcases heffect.granted owner token hgranted with
        ⟨heq, _, ⟨intent', hintent', hkey'⟩, _⟩
      rw [heffect.issued, heq]
      exact ⟨htoken, intent', hintent', hkey'.trans hkey.symm⟩
  · cases h with
    | free hfree =>
      have hnone := List.find?_eq_none.mp hfree
      intro row row' hrow hrow' hkey
      rcases List.mem_append.mp hrow with hold | hnew
      · rcases List.mem_append.mp hrow' with hold' | hnew'
        · exact hj.single row row' hold hold' hkey
        · rw [List.mem_singleton] at hnew'
          subst hnew'
          exact absurd hkey (by simpa using hnone row hold)
      · rw [List.mem_singleton] at hnew
        subst hnew
        rcases List.mem_append.mp hrow' with hold' | hnew'
        · exact absurd hkey.symm (by simpa using hnone row' hold')
        · rw [List.mem_singleton] at hnew'
          exact hnew'.symm
    | waiting active hactive outcome hlive hwaiting => exact hj.single
    | replaced active hactive hexpired hdone =>
      rcases claim?_eq_some hactive with ⟨hmem, hactiveKey⟩
      -- Only the deleted row had the key of the new one.
      have hnone : forall row, row ∈ (j.deleteClaims
          (fun row => row = active)).claims -> row.key ≠ intent.key := by
        intro row hrow hkey
        rcases List.mem_filter.mp hrow with ⟨hrowMem, hkept⟩
        have heq := hj.single row active hrowMem hmem (hkey.trans hactiveKey.symm)
        simp [heq] at hkept
      intro row row' hrow hrow' hkey
      rcases List.mem_append.mp hrow with hold | hnew
      · rcases List.mem_append.mp hrow' with hold' | hnew'
        · exact hj.single row row' (List.mem_filter.mp hold).left
            (List.mem_filter.mp hold').left hkey
        · rw [List.mem_singleton] at hnew'
          subst hnew'
          exact absurd hkey (hnone row hold)
      · rw [List.mem_singleton] at hnew
        subst hnew
        rcases List.mem_append.mp hrow' with hold' | hnew'
        · exact absurd hkey.symm (hnone row' hold')
        · rw [List.mem_singleton] at hnew'
          exact hnew'.symm
    | recovered active request latest hactive hexpired hother hrequest hkeys
        hlatest hopen =>
        intro row row' hrow hrow' hkey
        rcases List.mem_map.mp hrow with ⟨old, hold, rfl⟩
        rcases List.mem_map.mp hrow' with ⟨old', hold', rfl⟩
        have hkeyOf : forall claim : TransitionClaim, (if claim = active then
              { claim with
                claimToken := claimToken
                claimedAt := now
                leaseExpiresAt := now + ttl }
            else claim).key = claim.key := by
          intro claim
          split <;> rfl
        have hsame : old.key = old'.key := by
          rw [← hkeyOf old, ← hkeyOf old']
          exact hkey
        rw [hj.single old old' hold hold' hsame]

theorem WellFormed.deleteClaims (hj : j.WellFormed)
    (doomed : TransitionClaim -> Bool) : (j.deleteClaims doomed).WellFormed := by
  apply hj.extend (k := j.deleteClaims doomed) rfl
  · exact ⟨[], (List.append_nil _).symm, fun _ hevent => nomatch hevent⟩
  · intro key owner token hown
    exact hj.claimed key owner token (owns_of_deleteClaims hown)
  · intro row row' hrow hrow'
    exact hj.single row row' (List.mem_filter.mp hrow).left (List.mem_filter.mp hrow').left

theorem WellFormed.release (hj : j.WellFormed)
    (key : TaskKey) (claimToken : Nat) : (j.release key claimToken).1.WellFormed :=
  hj.deleteClaims _

theorem WellFormed.expireForRetry (hj : j.WellFormed)
    (key : TaskKey) (claimToken : Nat) (now : Int) :
    (j.expireForRetry key claimToken now).1.WellFormed := by
  apply hj.extend (k := (j.expireForRetry key claimToken now).1) rfl
  · exact ⟨[], (List.append_nil _).symm, fun _ hevent => nomatch hevent⟩
  · intro key owner token hown
    exact hj.claimed key owner token (owns_expireForRetry.mp hown)
  · intro row row' hrow hrow' hsame
    rcases List.mem_map.mp hrow with ⟨old, hold, rfl⟩
    rcases List.mem_map.mp hrow' with ⟨old', hold', rfl⟩
    have hkeyOf : forall claim : TransitionClaim,
        (if claim.key = key ∧ claim.claimToken = claimToken then
          { claim with leaseExpiresAt := now }
        else claim).key = claim.key := by
      intro claim
      split <;> rfl
    rw [hkeyOf, hkeyOf] at hsame
    rw [hj.single old old' hold hold' hsame]

theorem Begun.wellFormed (hj : j.WellFormed)
    (h : Begun j intent now ttl j' begun) : j'.WellFormed := by
  cases h with
  | conflicting row outcome => exact hj.issue
  | replayed row latest outcome hrow hintent hlatest hfinal houtcome =>
    exact hj.issue.deleteClaims _
  | resumed row hrow hintent hopen hacquired =>
    have hregistered := hj.issue.registered_of_requestFor hrow
    rw [hintent] at hregistered
    have hnewest : j.NewestOpen row.transitionId := hj.newestOpen_of_outcome hopen
    exact hj.issue.acquired (Nat.lt_succ_self _)
      (hacquired.effect hj.issue hregistered hnewest) hacquired
  | registered hnone hacquired =>
    exact (hj.issue.register hnone).acquired (Nat.lt_succ_self _)
      (hacquired.effect (hj.issue.register hnone) List.getElem?_concat_length
        hj.newestOpen_register) hacquired

variable {phase : TransitionPhase} {outcome : Option TransitionOutcome}

theorem append_eq_ok {reasonCode : String}
    (h : j.append transitionId phase reasonCode outcome = .ok j') :
    (exists row, j.request? transitionId = some row) ∧ strip reasonCode ≠ "" ∧
      j' = j.appendLocked transitionId phase (strip reasonCode) outcome := by
  unfold append at h
  split at h
  · cases h
  · rename_i row hrow
    split at h
    · cases h
    · rename_i hreason
      cases h
      exact ⟨⟨row, hrow⟩, hreason, rfl⟩

theorem WellFormed.append (hj : j.WellFormed) (reasonCode : String)
    (hknown : transitionId < j.requests.length) (hphase : phase ≠ .requested)
    (houtcome : phase.isFinal = true -> outcome.isSome = true) :
    (j.appendLocked transitionId phase reasonCode outcome).WellFormed := by
  apply hj.extend (k := j.appendLocked transitionId phase reasonCode outcome) rfl
  · refine ⟨_, rfl, ?_⟩
    intro event hevent
    rw [List.mem_singleton] at hevent
    subst hevent
    exact ⟨houtcome, hphase, hknown⟩
  · exact hj.claimed
  · exact hj.single

end TransitionJournal
end TaskTransitions
end Oompah
