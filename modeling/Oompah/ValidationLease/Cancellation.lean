import Oompah.ValidationLease.Fence

/-!
# Cancelled identities

A tombstone stays while a row of its identity exists, and nothing is attached
under a tombstone.  A handle that was granted before a cancellation therefore
never attaches after it: while its row is there so is the tombstone, and no row
of its token comes back.
-/

namespace Oompah
namespace ValidationLease

open Foundation

variable {h h' : Host} {event : Event}

/-- What the step adds to the signals. -/
def Host.signalsOf (h : Host) (event : Event) : List Process :=
  (h.step event).signalled.drop h.signalled.length

/-- A process that `_terminate_exact_process_group` does not refuse. -/
def Process.Signalable (caller child : Process) : Prop :=
  1 < child.pid ∧ child.pid ≠ caller.pid ∧ 0 < child.startTicks

/-- The step attaches nothing under the identity. -/
def Host.AttachesNone (h : Host) (event : Event) (identity : Identity) : Prop :=
  (h.step event).attached.filter (·.identity = identity) = h.attached.filter (·.identity = identity)

/-!
# Attachments and rows
-/

/-- The child of a row is what was attached last under its token. -/
structure Host.Attributed (h : Host) : Prop where
  child : forall row, row ∈ h.store.owners ->
    row.child = (h.attached.find? (·.token = row.token)).map (·.child)
  granted : forall attachment, attachment ∈ h.attached ->
    exists grant, grant ∈ h.grants ∧ grant.token = attachment.token

theorem Host.Sound.identity_eq (hs : h.Sound) {row row' : OwnerRow}
    (hrow : row ∈ h.store.owners) (hrow' : row' ∈ h.store.owners)
    (htoken : row.token = row'.token) : row.identity = row'.identity := by
  rcases hs.row_grant row hrow with ⟨grant, hg, hbacks⟩
  rcases hs.row_grant row' hrow' with ⟨grant', hg', hbacks'⟩
  have hsame : grant = grant' := hs.grant_unique_token hg hg'
    (hbacks.right.left.symm.trans (htoken.trans hbacks'.right.left))
  rw [hbacks.right.right, hbacks'.right.right, hsame]

variable {token : String}

theorem Host.apply_attach {child : Process} {deadlineAt : Int}
    (happly : h.apply (.attachProcess token child deadlineAt) = some h') :
    (exists grant, grant ∈ h.grants ∧ grant.token = token) ∧
      (exists row, row ∈ h.store.owners ∧ row.token = token ∧
        h.store.identityCancelled row.identity = false) ∧
      h'.grants = h.grants ∧
      h'.store.owners = updateWhere h.store.owners
        (fun row => row.token = token && !h.store.identityCancelled row.identity)
        (fun row => { row with child := some child, deadlineAt := some deadlineAt }) ∧
      h'.attached =
        ((h.store.owners.filter (·.token = token)).map fun row =>
          { identity := row.identity, token, child }) ++ h.attached := by
  simp only [Host.apply, Option.bind_eq_some_iff, Option.ite_none_right_eq_some,
    Option.map_eq_some_iff] at happly
  rcases happly with ⟨grant, hgrant, _, store, hstore, rfl⟩
  rcases LeaseStore.attachProcess_eq_some hstore with ⟨rfl, hrow⟩
  exact ⟨⟨grant, Host.grantOf_mem hgrant⟩, hrow, rfl, rfl, rfl⟩

theorem Host.Attributed.attach (ha : h.Attributed) (hs : h.Sound)
    {child : Process} {deadlineAt : Int}
    (happly : h.apply (.attachProcess token child deadlineAt) = some h') : h'.Attributed := by
  rcases Host.apply_attach happly with ⟨hgrant, ⟨mine, hmine, htoken, hopen⟩, hgrants, howners,
    hattached⟩
  constructor
  · intro row' hrow'
    rw [howners] at hrow'
    rcases mem_updateWhere.mp hrow' with ⟨row, hrow, rfl⟩
    by_cases hsame : row.token = token
    · have hidentity := hs.identity_eq hrow hmine (hsame.trans htoken.symm)
      have hcondition : (decide (row.token = token) &&
          !h.store.identityCancelled row.identity) = true := by
        simp [hsame, hidentity, hopen]
      rw [if_pos hcondition, hattached]
      show some child = _
      cases hfound : h.store.owners.filter (·.token = token) with
      | nil =>
        have hmem : row ∈ h.store.owners.filter (·.token = token) :=
          List.mem_filter.mpr ⟨hrow, decide_eq_true hsame⟩
        rw [hfound] at hmem
        cases hmem
      | cons first rest => simp [hsame]
    · rw [if_neg (by simp [hsame]), ha.child row hrow, hattached, List.find?_append]
      have hnone : (((h.store.owners.filter (·.token = token)).map fun row =>
          ({ identity := row.identity, token, child } : Attachment)).find?
            (·.token = row.token)) = none := by
        rw [List.find?_eq_none]
        intro attachment hmem
        rcases List.mem_map.mp hmem with ⟨other, _, rfl⟩
        simpa using Ne.symm hsame
      rw [hnone, Option.none_or]
  · intro attachment hmem
    rw [hattached] at hmem
    rw [hgrants]
    rcases List.mem_append.mp hmem with hnew | hold
    · rcases List.mem_map.mp hnew with ⟨row, _, rfl⟩
      exact hgrant
    · exact ha.granted attachment hold

theorem Host.Attributed.step (ha : h.Attributed) (hs : h.Sound) (event : Event) :
    (h.step event).Attributed := by
  have hmoves := h.moves_step hs event
  rcases hmoves.unattached with ⟨token, child, deadlineAt, rfl⟩ | ⟨hattached, hrows⟩
  · unfold Host.step
    cases happly : h.apply (.attachProcess token child deadlineAt) with
    | none => exact ha
    | some h' => exact ha.attach hs happly
  · constructor
    · intro row hrow
      rw [hattached]
      rcases hrows row hrow with hold | hnew
      · exact ha.child row hold
      · -- Nothing was attached under the token of a waiter.
        rw [hnew.childless]
        have hnone : h.attached.find? (·.token = row.token) = none := by
          rw [List.find?_eq_none]
          intro attachment hmem
          rcases ha.granted attachment hmem with ⟨grant, hg, hsame⟩
          rcases hnew.waiter with ⟨waiter, hwaiter, htoken, _⟩
          have hne := hs.waiter_fresh waiter hwaiter grant hg
          rw [htoken, hsame] at hne
          simpa using hne
        rw [hnone]
        rfl
    · intro attachment hmem
      rcases ha.granted attachment (hattached ▸ hmem) with ⟨grant, hg, hsame⟩
      exact ⟨grant, hmoves.grants_kept grant hg, hsame⟩

/-!
# Under a tombstone
-/

variable {identity : Identity}

theorem Host.Sound.attachesNone (hs : h.Sound)
    (hcancelled : h.store.identityCancelled identity = true) (event : Event) :
    h.AttachesNone event identity := by
  unfold Host.AttachesNone
  rcases (h.moves_step hs event).unattached with ⟨token, child, deadlineAt, rfl⟩ | ⟨hattached, _⟩
  · unfold Host.step
    cases happly : h.apply (.attachProcess token child deadlineAt) with
    | none => rfl
    | some h' =>
      rcases Host.apply_attach happly with ⟨_, ⟨mine, hmine, htoken, hopen⟩, _, _, hattached⟩
      show h'.attached.filter _ = _
      rw [hattached, List.filter_append]
      have hnone : ((h.store.owners.filter (·.token = token)).map fun row =>
          ({ identity := row.identity, token, child } : Attachment)).filter
            (·.identity = identity) = [] := by
        rw [List.filter_eq_nil_iff]
        intro attachment hmem
        rcases List.mem_map.mp hmem with ⟨row, hrow, rfl⟩
        rcases List.mem_filter.mp hrow with ⟨hrow, hsame⟩
        have hidentity := hs.identity_eq hrow hmine ((of_decide_eq_true hsame).trans htoken.symm)
        simp only [decide_eq_true_eq]
        intro hrowIdentity
        rw [← hidentity, hrowIdentity, hcancelled] at hopen
        cases hopen
      rw [hnone, List.nil_append]
  · rw [hattached]

/-- A granted token whose rows are under a tombstone, and which no waiter has. -/
structure Host.Barred (h : Host) (token : String) (identity : Identity) : Prop where
  known : token ∈ h.tokens
  row : forall row, row ∈ h.store.owners -> row.token = token ->
    row.identity = identity ∧ h.store.identityCancelled identity = true
  waiter : forall row, row ∈ h.store.waiters -> row.token ≠ token

theorem Host.Barred.step (hb : h.Barred token identity)
    (hs : h.Sound) (event : Event) : (h.step event).Barred token identity := by
  have hmoves := h.moves_step hs event
  constructor
  · exact hmoves.tokens token hb.known
  · intro row' hrow' htoken
    rcases hmoves.rows_of row' hrow' with ⟨row, hrow, _, hsame, hidentity⟩ | hnew
    · rcases hb.row row hrow (hsame.trans htoken) with ⟨hrowIdentity, hcancelled⟩
      exact ⟨hidentity.symm.trans hrowIdentity, hmoves.tombstones identity hcancelled
        (LeaseStore.inUse_of_owner hrow hrowIdentity)⟩
    · rcases hnew.waiter with ⟨waiter, hwaiter, hsame, _⟩
      exact absurd (hsame.trans htoken) (hb.waiter waiter hwaiter)
  · intro row hrow
    rcases hmoves.waiters_of row hrow with hold | hnew
    · exact hb.waiter row hold
    · rintro rfl
      exact hnew hb.known

theorem Host.Barred.not_attached
    (hb : h.Barred token identity) (child : Process) (deadlineAt : Int) :
    h.step (.attachProcess token child deadlineAt) = h := by
  unfold Host.step
  cases happly : h.apply (.attachProcess token child deadlineAt) with
  | none => rfl
  | some h' =>
    rcases Host.apply_attach happly with ⟨_, ⟨row, hrow, htoken, hopen⟩, _⟩
    rcases hb.row row hrow htoken with ⟨rfl, hcancelled⟩
    rw [hcancelled] at hopen
    cases hopen

variable {manager : Manager} {row : CancelledRow}

theorem Host.step_cancelOwner {i : Nat} (hmanager : h.managers i = some manager) :
    h.step (.cancelOwner i row) =
      (h.withStore (h.store.cancelOwner row).1).terminate manager.process
        ((h.store.cancelOwner row).2.1.filterMap (·.child)) := by
  unfold Host.step Host.apply
  simp only
  rw [hmanager]
  rfl

/-- After the commit every handle of the identity is barred. -/
theorem Host.Sound.barred (hs : h.Sound) {i : Nat}
    (hmanager : h.managers i = some manager) {grant : Grant} (hg : grant ∈ h.grants)
    (hidentity : grant.identity = row.identity) :
    (h.step (.cancelOwner i row)).Barred grant.token row.identity := by
  rw [Host.step_cancelOwner hmanager]
  constructor
  · exact hs.grant_known grant hg
  · intro owner howner htoken
    rcases hs.row_grant owner howner with ⟨grant', hg', hbacks⟩
    have hsame : grant' = grant := hs.grant_unique_token hg' hg
      (hbacks.right.left.symm.trans htoken)
    constructor
    · rw [hbacks.right.right, hsame, hidentity]
    · exact LeaseStore.identityCancelled_insert row
  · intro waiter hwaiter htoken
    exact hs.waiter_fresh waiter (List.mem_filter.mp hwaiter).left grant hg htoken.symm

/-- The signals of a call go to the last child of each row of the identity. -/
theorem Host.Attributed.signals (ha : h.Attributed) {i : Nat}
    (hmanager : h.managers i = some manager) {owner : OwnerRow}
    (howner : owner ∈ h.store.owners) (hidentity : owner.identity = row.identity)
    {attachment : Attachment} (hlast : h.attached.find? (·.token = owner.token) = some attachment)
    (hsignalable : manager.process.Signalable attachment.child) :
    attachment.child ∈ h.signalsOf (.cancelOwner i row) := by
  unfold Host.signalsOf
  rw [Host.step_cancelOwner hmanager]
  show attachment.child ∈ (h.signalled ++ _).drop h.signalled.length
  rw [List.drop_left, List.mem_filter]
  have hchild : owner.child = some attachment.child := by
    rw [ha.child owner howner, hlast]
    rfl
  constructor
  · rw [List.mem_filterMap]
    refine ⟨owner, ?_, hchild⟩
    exact List.mem_filter.mpr ⟨howner, decide_eq_true hidentity⟩
  · rcases hsignalable with ⟨hpid, hcaller, hticks⟩
    simp only [Bool.not_eq_true', Bool.or_eq_false_iff, decide_eq_false_iff_not]
    exact ⟨⟨by omega, hcaller⟩, by omega⟩

/-!
# Every run
-/

/--
What a `cancel_owner` call guarantees: it signals the process that was attached
last under each token with a row of the identity, and from then on no handle
granted before attaches, nothing is attached under the identity while there is a
tombstone, and the tombstone stays while a row of the identity exists.
-/
structure Host.CancelFences (h : Host) (i : Nat) (row : CancelledRow) : Prop where
  signals : forall manager, h.managers i = some manager ->
    forall owner, owner ∈ h.store.owners -> owner.identity = row.identity ->
      forall attachment, h.attached.find? (·.token = owner.token) = some attachment ->
        manager.process.Signalable attachment.child ->
          attachment.child ∈ h.signalsOf (.cancelOwner i row)
  fence : (h.managers i).isSome = true ->
    forall grant, grant ∈ h.grants -> grant.identity = row.identity ->
      forall later child deadlineAt,
        let h' := run Host.step (h.step (.cancelOwner i row)) later
        h'.step (.attachProcess grant.token child deadlineAt) = h'
  attachesNone : forall later,
    let h' := run Host.step (h.step (.cancelOwner i row)) later
    h'.store.identityCancelled row.identity = true ->
      forall event, h'.AttachesNone event row.identity
  tombstone : forall later,
    let h' := run Host.step (h.step (.cancelOwner i row)) later
    h'.store.identityCancelled row.identity = true -> h'.store.inUse row.identity = true ->
      forall event, (h'.step event).store.identityCancelled row.identity = true

theorem attributed_run (events : List Event) : (run Host.step {} events).Attributed := by
  have hboth : (run Host.step {} events).Sound ∧ (run Host.step {} events).Attributed := by
    apply invariant_run (I := fun h : Host => h.Sound ∧ h.Attributed)
    · rintro h event ⟨hs, ha⟩
      exact ⟨hs.step event, ha.step hs event⟩
    · refine ⟨sound_empty, ⟨?_, ?_⟩⟩
      · intro row hrow
        cases hrow
      · intro attachment hmem
        cases hmem
  exact hboth.right

theorem cancel_fences_run (events : List Event) (i : Nat) (row : CancelledRow) :
    (run Host.step {} events).CancelFences i row := by
  have hs := sound_run events
  have hlater : forall later,
      (run Host.step ((run Host.step {} events).step (.cancelOwner i row)) later).Sound :=
    fun later => invariant_run (fun _ event hs => hs.step event) (hs.step _) later
  constructor
  · intro manager hmanager owner howner hidentity attachment hlast hsignalable
    exact (attributed_run events).signals hmanager howner hidentity hlast hsignalable
  · intro hsome grant hg hidentity later child deadlineAt
    rcases Option.isSome_iff_exists.mp hsome with ⟨manager, hmanager⟩
    have hbarred := invariant_run (I := fun h : Host => h.Sound ∧ h.Barred grant.token row.identity)
      (fun h event hboth => ⟨hboth.left.step event, hboth.right.step hboth.left event⟩)
      ⟨hs.step _, hs.barred hmanager hg hidentity⟩ later
    exact hbarred.right.not_attached child deadlineAt
  · intro later h' hcancelled event
    exact (hlater later).attachesNone hcancelled event
  · intro later h' hcancelled huse event
    exact (h'.moves_step (hlater later) event).tombstones row.identity hcancelled huse

/-- Every process that was attached under the identity is signalled by the call. -/
def Host.SignalsAll (h : Host) (i : Nat) (row : CancelledRow) : Prop :=
  (h.managers i).isSome = true ->
    forall attachment, attachment ∈ h.attached -> attachment.identity = row.identity ->
      attachment.child ∈ h.signalsOf (.cancelOwner i row)

instance (h : Host) (i : Nat) (row : CancelledRow) : Decidable (h.SignalsAll i row) :=
  inferInstanceAs (Decidable (_ = true -> forall attachment, attachment ∈ h.attached -> _ -> _))

def sampleTombstone : CancelledRow :=
  { identity := ⟨.worker, "p", "t", "a"⟩
    cancelledAt := 50
    cancelledBy := "scheduler"
    reason := "validation authority withdrawn" }

/-- A grant with the given processes attached to it one after the other. -/
def attachedEvents (children : List Process) : List Event :=
  [.start sampleService, .openManager 0 sampleService 1 30000,
    .enqueue 0 "a" (.worker "p" "t" "a") 0, .tryAcquire "a" 0, .tryLockSlot 0,
    .transact 0 0 .commits, .closeSlotLock 0, .recheck "a"] ++
    children.map fun child => .attachProcess "a" child 1000

/-- The handle releases its slot. -/
def releasedEvents : List Event :=
  [.release "a", .tryLockSlot 1, .transact 1 0 .commits, .closeSlotLock 1, .closeSlotLock 1]

theorem cancel_missesAttached :
    ¬ (run Host.step {} (attachedEvents [⟨200, 7⟩] ++ releasedEvents)).SignalsAll 0
        sampleTombstone ∧
      ¬ (run Host.step {} (attachedEvents [⟨200, 7⟩, ⟨201, 8⟩])).SignalsAll 0 sampleTombstone ∧
      ¬ (run Host.step {} (attachedEvents [sampleService])).SignalsAll 0 sampleTombstone := by
  decide +kernel

end ValidationLease
end Oompah
