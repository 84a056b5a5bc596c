import Oompah.ReviewCapacity.Store

/-!
# Slots of open reviews

A review that was committed or adopted should keep an active row until it is
released, replaced, or found closed by a reconciliation that is not too early.
Adopting a row of another review records nothing, and the age fence compares the
time a row was acquired; these are the only ways a slot is lost.
-/

namespace Oompah
namespace ReviewCapacity

open Foundation
open ReviewCapacityStore (AdoptRequest ReconcileRequest committing dropExpiredUncommitted
  expiredUncommitted)

inductive SlotOp where
  | acquire (request : ReviewCapacityStore.AcquireRequest) (now : Int)
  | commit (reservationId reviewId : String) (now : Int)
  | adopt (request : ReviewCapacityStore.AdoptRequest) (now : Int)
  | release (request : ReviewCapacityStore.ReleaseRequest) (now : Int)
  | reconcileOpenReviews (request : ReviewCapacityStore.ReconcileRequest) (now : Int)
  | count (projectId : String) (openReviewIds : List String) (now : Int)
  deriving DecidableEq

/-- A call that bound a row to a review. -/
structure Grant where
  projectId : String
  reservationId : String
  reviewId : String
  grantedAt : Int
  deriving DecidableEq

namespace SlotOp

def apply (s : ReviewCapacityStore) : SlotOp -> ReviewCapacityStore
  | acquire request now => (s.acquire request now).1
  | commit reservationId reviewId _ => (s.commit reservationId reviewId).1
  | adopt request now => (s.adopt request now).1
  | release request now => (s.release request now).1
  | reconcileOpenReviews request now => (s.reconcileOpenReviews request now).1
  | count projectId openReviewIds now => (s.count projectId openReviewIds now).1

/-- What a commit that returns true, or an adopt that returns, has bound. -/
def grant? (s : ReviewCapacityStore) : SlotOp -> Option Grant
  | commit reservationId reviewId now =>
    if (s.commit reservationId reviewId).2 then
      (s.get reservationId).map fun row =>
        { projectId := row.projectId
          reservationId := reservationId
          reviewId := reviewId
          grantedAt := now }
    else none
  | adopt request now =>
    match (s.adopt request now).2 with
    | .error _ => none
    | .ok row =>
      some
        { projectId := request.target.projectId
          reservationId := row.reservationId
          reviewId := request.reviewId
          grantedAt := now }
  | _ => none

end SlotOp

/-- The store with every grant made so far. -/
structure Slots where
  store : ReviewCapacityStore := {}
  grants : List Grant := []
  deriving DecidableEq

namespace Slots

def step (x : Slots) (op : SlotOp) : Slots :=
  { store := op.apply x.store
    grants := (op.grant? x.store).toList ++ x.grants }

end Slots

/-- An active row of a project names a review. -/
def names (projectId reviewId : String) (row : Reservation) : Bool :=
  row.projectId = projectId && row.active && row.reviewId = some reviewId

def Holds (s : ReviewCapacityStore) (projectId reviewId reservationId : String) :
    Prop :=
  exists row, s.get reservationId = some row ∧ names projectId reviewId row = true

/-- Every call that bound a row to its review is at least the minimum age ago. -/
def agedGrants (grants : List Grant) (reservationId reviewId : String) (minimum now : Int) : Prop :=
  forall grant, grant ∈ grants -> grant.reservationId = reservationId ->
    grant.reviewId = reviewId -> minimum ≤ now - grant.grantedAt

/-- The ways a row may stop naming its review. -/
def Slots.ends (x : Slots) (projectId reviewId reservationId : String) : SlotOp -> Prop
  | .release request _ =>
    exists row, x.store.get reservationId = some row ∧ request.selects row = true
  | .commit reservationId' reviewId' _ =>
    reservationId' = reservationId ∧ reviewId' ≠ reviewId
  | .reconcileOpenReviews request now =>
    request.projectId = projectId ∧ reviewId ∉ request.openReviewIds ∧
      agedGrants x.grants reservationId reviewId (max 0 request.minimumCommittedAgeSeconds) now
  | _ => False

/-- A step records what it grants, and takes a slot only in one of these ways. -/
structure SlotsKept (x : Slots) (op : SlotOp) : Prop where
  granted : forall grant, op.grant? x.store = some grant -> exists reservationId,
      Holds (op.apply x.store) grant.projectId grant.reviewId reservationId
  kept : forall projectId reviewId reservationId, Holds x.store projectId reviewId reservationId ->
      Holds (op.apply x.store) projectId reviewId reservationId ∨
        x.ends projectId reviewId reservationId op

/--
An adopt finds no row of another review, or the review has a row already; and
every row a reconciliation finds old enough by its acquisition was also bound to
its review that long ago.
-/
def Slots.undisturbed (x : Slots) : SlotOp -> Prop
  | .adopt request _ =>
    forall row, request.existing x.store = some row ->
      row.reviewId.all (· = request.reviewId) = true ∨ exists reservationId,
          Holds x.store request.target.projectId request.reviewId reservationId
  | .reconcileOpenReviews request now =>
    forall row, row ∈ x.store.rows -> request.selects now row = true ->
      forall reviewId, row.reviewId = some reviewId ->
        agedGrants x.grants row.reservationId reviewId
          (max 0 request.minimumCommittedAgeSeconds) now
  | _ => True

/-!
# Updates and insertions
-/

section Writes

variable {s s' : ReviewCapacityStore} {projectId reviewId reservationId : String}
variable {condition : Reservation -> Bool} {set : Reservation -> Reservation}

@[simp] theorem release_id (now : Int) (row : Reservation) :
    (Reservation.release now row).reservationId = row.reservationId := rfl

@[simp] theorem commit_id (reviewId : String) (row : Reservation) :
    (Reservation.commit reviewId row).reservationId = row.reservationId := rfl

@[simp] theorem merge_id (request : AdoptRequest) (row : Reservation) :
    (request.merge row).reservationId = row.reservationId := rfl

variable {row : Reservation}

theorem names_iff : names projectId reviewId row = true <->
      row.projectId = projectId ∧ row.active = true ∧ row.reviewId = some reviewId := by
  simp [names, and_assoc]

theorem get_update (hkey : forall row, (set row).reservationId = row.reservationId) :
    (s.update condition set).get reservationId =
      (s.get reservationId).map (fun row => if condition row then set row else row) :=
  rowAt_updateWhere (fun row _ => hkey row) reservationId

theorem Holds.update (h : Holds s projectId reviewId reservationId)
    (hkey : forall row, (set row).reservationId = row.reservationId)
    (hset : forall row, s.get reservationId = some row ->
      names projectId reviewId row = true -> condition row = true ->
        names projectId reviewId (set row) = true) :
    Holds (s.update condition set) projectId reviewId reservationId := by
  rcases h with ⟨row, hget, hnames⟩
  refine ⟨if condition row then set row else row, ?_, ?_⟩
  · rw [get_update hkey, hget]
    rfl
  · split
    · rename_i hcondition
      exact hset row hget hnames hcondition
    · exact hnames

theorem Holds.dropExpired (h : Holds s projectId reviewId reservationId) (now : Int) :
    Holds (s.dropExpiredUncommitted now) projectId reviewId reservationId := by
  apply h.update
  · exact fun _ => rfl
  · intro row _ hnames hexpired
    rw [names_iff] at hnames
    simp [expiredUncommitted, Reservation.named, hnames.right.right] at hexpired

theorem insert_eq_ok (h : s.insert row = .ok s') : s'.rows = s.rows ++ [row] ∧
      forall old, old ∈ s.rows -> old.reservationId ≠ row.reservationId := by
  unfold ReviewCapacityStore.insert at h
  split at h
  · cases h
  · rename_i hfree
    cases h
    refine ⟨rfl, ?_⟩
    intro old hold hsame
    apply hfree
    rw [List.any_eq_true]
    exact ⟨old, hold, by simp [ReviewCapacityStore.conflicts, hsame]⟩

theorem Holds.insert (h : Holds s projectId reviewId reservationId)
    (hinsert : s.insert row = .ok s') : Holds s' projectId reviewId reservationId := by
  rcases h with ⟨old, hget, hnames⟩
  refine ⟨old, ?_, hnames⟩
  unfold ReviewCapacityStore.get at hget ⊢
  rw [(insert_eq_ok hinsert).left, rowAt_append, hget]
  rfl

theorem get_inserted (hinsert : s.insert row = .ok s') : s'.get row.reservationId = some row := by
  rcases insert_eq_ok hinsert with ⟨hrows, hfresh⟩
  unfold ReviewCapacityStore.get
  rw [hrows, rowAt_append, rowAt_eq_none.mpr hfresh, if_pos rfl]
  rfl

theorem not_holds_released {now : Int}
    (hget : s.get reservationId = some row) (hcondition : condition row = true) :
    ¬ Holds (s.update condition (Reservation.release now)) projectId reviewId
      reservationId := by
  rintro ⟨row', hget', hnames⟩
  rw [get_update (release_id now), hget, Option.map_some, if_pos hcondition] at hget'
  cases hget'
  rw [names_iff] at hnames
  cases hnames.right.left

theorem firstAcquired_mem {rows : List Reservation} {choice : Nat}
    (h : ReviewCapacityStore.firstAcquired rows choice = some row) : row ∈ rows :=
  (List.mem_filter.mp (List.mem_of_getElem? h)).left

end Writes

/-!
# One step

A step other than an adopt or a reconciliation keeps every slot; these two keep
them exactly when they are undisturbed.
-/

variable {projectId reviewId reservationId : String}

section Steps

variable {x : Slots}

theorem slotsKept_acquire (request : ReviewCapacityStore.AcquireRequest) (now : Int) :
    SlotsKept x (.acquire request now) := by
  constructor
  · exact fun grant hgrant => nomatch hgrant
  · intro projectId reviewId reservationId hholds
    left
    show Holds (x.store.acquire request now).1 _ _ _
    unfold ReviewCapacityStore.acquire
    dsimp only
    split
    · exact hholds.dropExpired now
    · split
      · exact hholds
      · split
        · exact hholds
        · rename_i hinsert
          exact (hholds.dropExpired now).insert hinsert

theorem slotsKept_count (projectId : String) (openReviewIds : List String) (now : Int) :
    SlotsKept x (.count projectId openReviewIds now) := by
  constructor
  · exact fun grant hgrant => nomatch hgrant
  · intro projectId reviewId reservationId hholds
    exact .inl (hholds.dropExpired now)

theorem slotsKept_release (request : ReviewCapacityStore.ReleaseRequest) (now : Int) :
    SlotsKept x (.release request now) := by
  constructor
  · exact fun grant hgrant => nomatch hgrant
  · intro projectId reviewId reservationId hholds
    have hall := hholds
    rcases hall with ⟨row, hget, _⟩
    by_cases hselects : request.selects row = true
    · exact .inr ⟨row, hget, hselects⟩
    · left
      apply hholds.update (release_id now)
      intro row' hget' _ hselects'
      rw [hget] at hget'
      cases hget'
      exact absurd hselects' hselects

variable {row : Reservation}

theorem committing_iff {reservationId : String} : committing reservationId row = true <->
      row.reservationId = reservationId ∧ row.active = true := by
  simp [committing]

theorem slotsKept_commit (hkeys : (x.store.rows.map Reservation.reservationId).Nodup)
    (reservationId reviewId : String) (now : Int) :
    SlotsKept x (.commit reservationId reviewId now) := by
  constructor
  · intro grant hgrant
    have hgrant : (if (x.store.commit reservationId reviewId).2 = true then _ else none) =
      some grant := hgrant
    split at hgrant
    · rename_i hcommitted
      rcases Option.map_eq_some_iff.mp hgrant with ⟨row, hget, rfl⟩
      show exists reservationId', Holds (x.store.commit reservationId reviewId).1
        row.projectId reviewId reservationId'
      unfold ReviewCapacityStore.commit at hcommitted ⊢
      split at hcommitted
      · cases hcommitted
      · rename_i hreview
        rw [if_neg hreview]
        rw [decide_eq_true_eq] at hcommitted
        rcases exists_of_countWhere_ne_zero (Nat.ne_of_gt hcommitted) with
          ⟨old, hold, hcommitting⟩
        rcases committing_iff.mp hcommitting with ⟨hid, hactive⟩
        have hsame : x.store.get reservationId = some old := by
          rw [← hid]
          exact rowAt_of_mem hkeys hold
        rw [hsame] at hget
        cases hget
        refine ⟨reservationId, Reservation.commit reviewId row, ?_, ?_⟩
        · rw [get_update (commit_id reviewId), hsame, Option.map_some, if_pos hcommitting]
        · exact names_iff.mpr ⟨rfl, hactive, rfl⟩
    · cases hgrant
  · intro projectId reviewId' reservationId' hholds
    show Holds (x.store.commit reservationId reviewId).1 _ _ _ ∨
      reservationId = reservationId' ∧ reviewId ≠ reviewId'
    by_cases hsame : reservationId = reservationId' ∧ reviewId ≠ reviewId'
    · exact .inr hsame
    · left
      unfold ReviewCapacityStore.commit
      split
      · exact hholds
      · apply hholds.update (commit_id reviewId)
        intro row hget hnames hcommitting
        have hid := (committing_iff.mp hcommitting).left
        have hkey := rowAt_key hget
        have hreview : reviewId = reviewId' := by
          by_contra hne
          exact hsame ⟨hid.symm.trans hkey, hne⟩
        rw [names_iff] at hnames ⊢
        exact ⟨hnames.left, hnames.right.left, congrArg some hreview⟩

variable {s : ReviewCapacityStore}

theorem Holds.adopt (h : Holds s projectId reviewId reservationId)
    (request : AdoptRequest) (now : Int) :
    Holds (s.adopt request now).1 projectId reviewId reservationId := by
  unfold ReviewCapacityStore.adopt
  split
  · split
    · apply h.update (merge_id request)
      intro row _ hnames _
      rw [names_iff] at hnames ⊢
      refine ⟨hnames.left, hnames.right.left, ?_⟩
      show row.reviewId.or _ = _
      rw [hnames.right.right]
      rfl
    · exact h
  · split
    · exact h
    · rename_i hinsert
      exact h.insert hinsert

theorem adopt_grant? (request : AdoptRequest) (now : Int) : (SlotOp.adopt request now).grant? s =
      match (s.adopt request now).2 with
      | .error _ => none
      | .ok row =>
        some
          { projectId := request.target.projectId
            reservationId := row.reservationId
            reviewId := request.reviewId
            grantedAt := now } := rfl

variable {request : ReviewCapacityStore.AdoptRequest}

theorem existing_finds (h : request.existing s = some row) :
    row ∈ s.rows ∧ row.projectId = request.target.projectId ∧ row.active = true := by
  rcases List.mem_filter.mp (firstAcquired_mem h) with ⟨hrow, hfinds⟩
  simp only [ReviewCapacityStore.AdoptRequest.finds, Bool.and_eq_true, decide_eq_true_eq] at hfinds
  exact ⟨hrow, hfinds.left.left, hfinds.left.right⟩

/-- The row an adopt finds keeps the review it names, or gets this one. -/
theorem adopt_existing (hkeys : (s.rows.map Reservation.reservationId).Nodup)
    (h : request.existing s = some row) (now : Int) :
    exists row', (s.adopt request now).1.get row.reservationId = some row' ∧
      (s.adopt request now).2 = .ok row' ∧
      row'.projectId = row.projectId ∧ row'.active = row.active ∧
      row'.reviewId = row.reviewId.or (some request.reviewId) := by
  have hget : s.get row.reservationId = some row :=
    rowAt_of_mem hkeys (existing_finds h).left
  unfold ReviewCapacityStore.adopt
  rw [h]
  dsimp only
  split
  · have hmerged : (s.update (fun old => old.reservationId = row.reservationId)
        request.merge).get row.reservationId = some (request.merge row) := by
      rw [get_update (merge_id request), hget, Option.map_some, if_pos (by simp)]
    refine ⟨request.merge row, hmerged, ?_, rfl, rfl, rfl⟩
    rw [hmerged]
    rfl
  · rename_i hkeeps
    refine ⟨row, hget, rfl, rfl, rfl, ?_⟩
    cases hreview : row.reviewId with
    | none => simp [hreview] at hkeeps
    | some reviewId => rfl

/-- What else an adopt could record its review in stays as it was. -/
theorem holds_adopted (hkeys : (s.rows.map Reservation.reservationId).Nodup)
    (h : request.existing s = some row)
    (hother : row.reviewId.all (· = request.reviewId) = false) {now : Int}
    {projectId reservationId : String}
    (hholds : Holds (s.adopt request now).1 projectId request.reviewId reservationId) :
    Holds s projectId request.reviewId reservationId := by
  rcases hholds with ⟨row', hget', hnames⟩
  by_cases hid : reservationId = row.reservationId
  · subst hid
    rcases adopt_existing hkeys h now with ⟨merged, hmerged, _, _, _, hreview⟩
    rw [hmerged] at hget'
    cases hget'
    rw [names_iff, hreview] at hnames
    cases hrow : row.reviewId with
    | none =>
      rw [hrow] at hother
      cases hother
    | some reviewId =>
      rw [hrow] at hnames hother
      have hsame : reviewId = request.reviewId := Option.some.inj hnames.right.right
      simp [hsame] at hother
  · refine ⟨row', ?_, hnames⟩
    unfold ReviewCapacityStore.adopt at hget'
    rw [h] at hget'
    dsimp only at hget'
    split at hget'
    · rw [get_update (merge_id request)] at hget'
      rcases Option.map_eq_some_iff.mp hget' with ⟨old, hold, hmerged⟩
      have hkey : old.reservationId = reservationId := rowAt_key hold
      rw [if_neg (by simpa [hkey] using hid)] at hmerged
      rw [← hmerged]
      exact hold
    · exact hget'

theorem slotsKept_adopt_iff (hkeys : (x.store.rows.map Reservation.reservationId).Nodup)
    (request : AdoptRequest) (now : Int) :
    SlotsKept x (.adopt request now) <-> x.undisturbed (.adopt request now) := by
  constructor
  · intro hkept row hexisting
    cases hown : row.reviewId.all (· = request.reviewId) with
    | true => exact .inl rfl
    | false =>
      right
      rcases adopt_existing hkeys hexisting now with ⟨row', _, hok, _⟩
      rcases hkept.granted _ (by rw [adopt_grant?, hok]) with ⟨reservationId, hholds⟩
      exact ⟨reservationId, holds_adopted hkeys hexisting hown hholds⟩
  · intro hundisturbed
    constructor
    · intro grant hgrant
      show exists reservationId, Holds (x.store.adopt request now).1 _ _ reservationId
      rw [adopt_grant?] at hgrant
      cases hexisting : request.existing x.store with
      | none =>
        unfold ReviewCapacityStore.adopt at hgrant ⊢
        rw [hexisting] at hgrant ⊢
        cases hinsert : x.store.insert (request.row now) with
        | error error =>
          rw [hinsert] at hgrant
          cases hgrant
        | ok adopted =>
          rw [hinsert] at hgrant
          cases hgrant
          exact ⟨request.reservationId, request.row now, get_inserted hinsert,
            names_iff.mpr ⟨rfl, rfl, rfl⟩⟩
      | some row =>
        rcases adopt_existing hkeys hexisting now with
          ⟨row', hget, hok, hproject, hactive, hreview⟩
        rw [hok] at hgrant
        cases hgrant
        rcases hundisturbed row hexisting with hown | ⟨reservationId, hholds⟩
        · refine ⟨row.reservationId, row', hget, names_iff.mpr ⟨?_, ?_, ?_⟩⟩
          · rw [hproject]
            exact (existing_finds hexisting).right.left
          · rw [hactive]
            exact (existing_finds hexisting).right.right
          · rw [hreview]
            cases hrow : row.reviewId with
            | none => rfl
            | some reviewId =>
              rw [hrow] at hown
              simpa using hown
        · exact ⟨reservationId, hholds.adopt request now⟩
    · intro projectId reviewId reservationId hholds
      exact .inl (hholds.adopt request now)

theorem reconcile_selects_iff {request : ReconcileRequest}
    {now : Int} {reviewId : String} (hreview : row.reviewId = some reviewId) :
    request.selects now row = true <-> row.projectId = request.projectId ∧ row.active = true ∧
        reviewId ∉ request.openReviewIds ∧
        max 0 request.minimumCommittedAgeSeconds ≤ now - row.acquiredAt := by
  simp [ReviewCapacityStore.ReconcileRequest.selects, hreview, and_assoc]

theorem slotsKept_reconcile_iff (hkeys : (x.store.rows.map Reservation.reservationId).Nodup)
    (request : ReconcileRequest) (now : Int) :
    SlotsKept x (.reconcileOpenReviews request now) <->
      x.undisturbed (.reconcileOpenReviews request now) := by
  have hdropped : forall row, row ∈ x.store.rows -> row.reviewId.isSome = true ->
      (x.store.dropExpiredUncommitted now).get row.reservationId = some row := by
    intro row hrow hnamed
    have hget : x.store.get row.reservationId = some row := rowAt_of_mem hkeys hrow
    unfold dropExpiredUncommitted
    rw [get_update (release_id now), hget, Option.map_some, if_neg]
    simp [expiredUncommitted, Reservation.named, hnamed]
  constructor
  · intro hkept row hrow hselects reviewId hreview
    have hselected := (reconcile_selects_iff hreview).mp hselects
    have hholds : Holds x.store row.projectId reviewId row.reservationId :=
      ⟨row, rowAt_of_mem hkeys hrow, names_iff.mpr ⟨rfl, hselected.right.left, hreview⟩⟩
    rcases hkept.kept _ _ _ hholds with hstill | hends
    · exact absurd hstill (not_holds_released (hdropped row hrow (by rw [hreview]; rfl)) hselects)
    · exact hends.right.right
  · intro hundisturbed
    constructor
    · exact fun grant hgrant => nomatch hgrant
    · intro projectId reviewId reservationId hholds
      have hall := hholds
      rcases hall with ⟨row, hget, hnames⟩
      have hrow := mem_of_rowAt hget
      have hkey : row.reservationId = reservationId := rowAt_key hget
      rw [names_iff] at hnames
      by_cases hselects : request.selects now row = true
      · right
        have hselected := (reconcile_selects_iff hnames.right.right).mp hselects
        refine ⟨hselected.left.symm.trans hnames.left, hselected.right.right.left, ?_⟩
        rw [← hkey]
        exact hundisturbed row hrow hselects reviewId hnames.right.right
      · left
        apply (hholds.dropExpired now).update (release_id now)
        intro row' hget' _ hselects'
        have hsame := hdropped row hrow (by rw [hnames.right.right]; rfl)
        rw [hkey, hget'] at hsame
        cases hsame
        exact absurd hselects' hselects

end Steps

/-!
# Runs
-/

/-- Reservation identifiers are unique. -/
def KeysUnique (x : Slots) : Prop :=
  (x.store.rows.map Reservation.reservationId).Nodup

theorem keys_update {s : ReviewCapacityStore} {condition : Reservation -> Bool}
    {set : Reservation -> Reservation}
    (hkey : forall row, (set row).reservationId = row.reservationId) :
    (s.update condition set).rows.map Reservation.reservationId =
      s.rows.map Reservation.reservationId :=
  updateWhere_keys (fun row _ => hkey row)

theorem keys_insert {s s' : ReviewCapacityStore} {row : Reservation} (h : s.insert row = .ok s')
    (hkeys : (s.rows.map Reservation.reservationId).Nodup) :
    (s'.rows.map Reservation.reservationId).Nodup := by
  rcases insert_eq_ok h with ⟨hrows, hfresh⟩
  rw [hrows, List.map_append, List.map_singleton]
  apply hkeys.append (List.nodup_singleton _)
  intro id hid hnew
  rw [List.mem_singleton] at hnew
  subst hnew
  rcases List.mem_map.mp hid with ⟨old, hold, hsame⟩
  exact hfresh old hold hsame

variable {x : Slots}

theorem KeysUnique.step (h : KeysUnique x) (op : SlotOp) : KeysUnique (x.step op) := by
  have hdropped : forall now,
      ((x.store.dropExpiredUncommitted now).rows.map Reservation.reservationId).Nodup := by
    intro now
    unfold dropExpiredUncommitted
    rw [keys_update (release_id now)]
    exact h
  show ((op.apply x.store).rows.map Reservation.reservationId).Nodup
  cases op with
  | acquire request now =>
    show ((x.store.acquire request now).1.rows.map Reservation.reservationId).Nodup
    unfold ReviewCapacityStore.acquire
    dsimp only
    split
    · exact hdropped now
    · split
      · exact h
      · split
        · exact h
        · rename_i hinsert
          exact keys_insert hinsert (hdropped now)
  | commit reservationId reviewId now =>
    show ((x.store.commit reservationId reviewId).1.rows.map Reservation.reservationId).Nodup
    unfold ReviewCapacityStore.commit
    split
    · exact h
    · rw [keys_update (commit_id reviewId)]
      exact h
  | adopt request now =>
    show ((x.store.adopt request now).1.rows.map Reservation.reservationId).Nodup
    unfold ReviewCapacityStore.adopt
    split
    · split
      · rw [keys_update (merge_id request)]
        exact h
      · exact h
    · split
      · exact h
      · rename_i hinsert
        exact keys_insert hinsert h
  | release request now =>
    show ((x.store.release request now).1.rows.map Reservation.reservationId).Nodup
    unfold ReviewCapacityStore.release
    rw [keys_update (release_id now)]
    exact h
  | reconcileOpenReviews request now =>
    show ((x.store.reconcileOpenReviews request now).1.rows.map Reservation.reservationId).Nodup
    unfold ReviewCapacityStore.reconcileOpenReviews
    rw [keys_update (release_id now)]
    exact hdropped now
  | count projectId openReviewIds now => exact hdropped now

theorem slotsKept_iff (hkeys : KeysUnique x) (op : SlotOp) :
    SlotsKept x op <-> x.undisturbed op := by
  cases op with
  | acquire request now => exact iff_of_true (slotsKept_acquire request now) trivial
  | commit reservationId reviewId now =>
    exact iff_of_true (slotsKept_commit hkeys reservationId reviewId now) trivial
  | adopt request now => exact slotsKept_adopt_iff hkeys request now
  | release request now => exact iff_of_true (slotsKept_release request now) trivial
  | reconcileOpenReviews request now => exact slotsKept_reconcile_iff hkeys request now
  | count projectId openReviewIds now =>
    exact iff_of_true (slotsKept_count projectId openReviewIds now) trivial

theorem slotsKept_guarded_iff (hkeys : KeysUnique x) (ops : List SlotOp) :
    Guarded Slots.step SlotsKept x ops <-> Guarded Slots.step Slots.undisturbed x ops := by
  induction ops generalizing x with
  | nil => rfl
  | cons op rest ih => exact and_congr (slotsKept_iff hkeys op) (ih (hkeys.step op))

theorem holds_run (h : Holds x.store projectId reviewId reservationId) {ops : List SlotOp}
    (hkept : Guarded Slots.step SlotsKept x ops) (hends : Guarded Slots.step
      (fun x op => ¬ x.ends projectId reviewId reservationId op) x ops) :
    Holds (run Slots.step x ops).store projectId reviewId reservationId := by
  induction ops generalizing x with
  | nil => exact h
  | cons op rest ih =>
    have hnext := (hkept.left.kept _ _ _ h).resolve_right hends.left
    exact ih hnext hkept.right hends.right

/--
A run keeps every slot exactly when its steps are undisturbed; in such a run what
a commit or an adopt binds is held until a step ends it.
-/
theorem slotsKept_run (ops : List SlotOp) :
    (Guarded Slots.step SlotsKept {} ops <-> Guarded Slots.step Slots.undisturbed {} ops) ∧
    forall (before after : List SlotOp) (op : SlotOp) (grant : Grant),
      ops = before ++ op :: after ->
      Guarded Slots.step Slots.undisturbed {} ops ->
      op.grant? (run Slots.step {} before).store = some grant ->
      exists reservationId,
        Holds ((run Slots.step {} before).step op).store grant.projectId grant.reviewId
          reservationId ∧
        (Guarded Slots.step (fun x op => ¬ x.ends grant.projectId grant.reviewId reservationId op)
            ((run Slots.step {} before).step op) after ->
          Holds (run Slots.step {} ops).store grant.projectId grant.reviewId reservationId) := by
  have hempty : KeysUnique {} := List.nodup_nil
  constructor
  · exact slotsKept_guarded_iff hempty ops
  · intro before after op grant hops hundisturbed hgrant
    subst hops
    have hkept := (slotsKept_guarded_iff hempty _).mpr hundisturbed
    rw [guarded_append] at hkept
    rcases hkept.right with ⟨hstep, hafter⟩
    rcases hstep.granted grant hgrant with ⟨reservationId, hholds⟩
    refine ⟨reservationId, hholds, ?_⟩
    intro hends
    rw [run_append, run_cons]
    exact holds_run hholds hafter hends

/-!
# Slots that are lost
-/

def sampleTarget : ReviewTarget :=
  { projectId := "p", taskId := "t", sourceBranch := "b", targetBranch := "main" }

/-- A reservation that is committed long after it was acquired. -/
def slowCommit : List SlotOp :=
  [.acquire { target := sampleTarget, limit := 1, reservationId := "r" } 0, .commit "r" "7" 100]

def earlyReconcile : SlotOp :=
  .reconcileOpenReviews
    { projectId := "p", openReviewIds := [], minimumCommittedAgeSeconds := 60 } 101

/-- A stale listing frees a slot one second after its commit. -/
theorem earlyReconcile_frees :
    ¬ Guarded Slots.step SlotsKept {} (slowCommit ++ [earlyReconcile]) := by
  have hempty : KeysUnique {} := List.nodup_nil
  rw [slotsKept_guarded_iff hempty]
  intro hundisturbed
  have hguard := ((guarded_append _ slowCommit [earlyReconcile]).mp hundisturbed).right.left
  have haged := hguard
    (Reservation.commit "7" { (ReviewCapacityStore.AcquireRequest.row
      { target := sampleTarget, limit := 1, reservationId := "r" } 0) with
        leaseExpiresAt := none })
    (by decide +kernel) (by decide +kernel) "7" rfl
    { projectId := "p", reservationId := "r", reviewId := "7", grantedAt := 100 }
    (by decide +kernel) rfl rfl
  revert haged
  decide

/-- In a run without such calls the slot of a commit is held. -/
theorem slotsKept_run_slowCommit : Guarded Slots.step SlotsKept {} slowCommit :=
  (slotsKept_run slowCommit).left.mpr ⟨trivial, trivial, trivial⟩

end ReviewCapacity
end Oompah
