import Mathlib.Data.List.Perm.Basic
import Oompah.Coordination.Store
import Oompah.Foundation.TransitionSystem

/-!
# Delivery to a paging reader

Writers, markers, a pruner and one reader of one inbox, in any order of their locked
sections.  The reader pages from the last message it received.  Every message that an
append returned reaches it exactly once as long as no row is inserted at a position
that the reader has passed and no pruning takes a message before it was received or
the reader's cursor from under messages that stay.
-/

namespace Oompah
namespace Coordination

open Foundation
open CoordinationStore (inboxCursor inboxLimit)
open Foundation.Runtime (ascii)
open CoordinationMessage (position)

abbrev Cursor := Option (Nat ×ₗ Nat)

structure Exchange where
  store : CoordinationStore := []
  clock : Nat := 0
  /-- The ids that `uuid4` gave out. -/
  issued : List Nat := []
  /-- Appends that took their time and id and wait for the lock. -/
  appends : List CoordinationMessage := []
  /-- The messages that appends returned. -/
  returned : List CoordinationMessage := []
  lastReceived : Option Nat := none
  /-- The cursor of a call of `inbox` that has not read its page yet. -/
  call : Option Cursor := none
  received : List Nat := []

inductive Event where
  | tick (now : Nat)
  | prepare (request : AppendRequest) (messageId : Nat)
  | commit (index : Nat)
  | markDelivered (messageId : Nat)
  | markRead (messageId : Nat)
  | prune (cutoff : Nat) (limit : Int)
  | lookup
  | page (limit : Int)

namespace Exchange

variable (rt : Runtime) (project recipient : String)

def commitAt (x : Exchange) (index : Nat) : Exchange :=
  match x.appends[index]? with
  | none => x
  | some m =>
    match x.store.commitAppend m with
    | .error _ => { x with appends := x.appends.eraseIdx index }
    | .ok (store, row) =>
      { x with
        store := store
        appends := x.appends.eraseIdx index
        returned := x.returned ++ [row] }

def readPage (x : Exchange) (limit : Int) : Exchange :=
  match x.call with
  | none => x
  | some cursor =>
    let messages := x.store.inbox project recipient false cursor limit
    { x with
      call := none
      received := x.received ++ messages.map CoordinationMessage.id
      lastReceived := (messages.getLast?.map CoordinationMessage.id).or x.lastReceived }

def step (x : Exchange) : Event -> Exchange
  | .tick now => { x with clock := max x.clock now }
  | .prepare request messageId =>
    if messageId ∈ x.issued then x
    else
      match prepareAppend rt request x.clock messageId with
      | .error _ => x
      | .ok m => { x with issued := messageId :: x.issued, appends := x.appends ++ [m] }
  | .commit index => x.commitAt index
  | .markDelivered messageId => { x with store := x.store.markDelivered messageId x.clock }
  | .markRead messageId => { x with store := x.store.markRead messageId x.clock }
  | .prune cutoff limit => { x with store := x.store.pruneBefore cutoff limit }
  | .lookup =>
    if x.call.isSome then x
    else { x with call := some (x.store.inboxCursor x.lastReceived) }
  | .page limit => x.readPage project recipient limit

def poll (x : Exchange) (limit : Int) : Exchange :=
  (x.step rt project recipient .lookup).step rt project recipient (.page limit)

/-- The reader alone: the call that is under way, and `n` more. -/
def polls (x : Exchange) (limit : Int) : Nat -> Exchange
  | 0 => x.step rt project recipient (.page limit)
  | n + 1 => poll rt project recipient (polls x limit n) limit

/-- Enough further polls have brought every message of the inbox that an append returned
exactly once. -/
def ExactlyOnce (x : Exchange) : Prop :=
  forall limit n, x.store.length ≤ n ->
    forall m, m ∈ x.returned -> m.inInbox project recipient = true ->
      (x.polls rt project recipient limit n).received.count m.id = 1

/-! ## What goes wrong -/

/-- The insert is after the reader's cursor. -/
def Timely (x : Exchange) : Event -> Prop
  | .commit index =>
    forall m, x.appends[index]? = some m -> m.inInbox project recipient = true ->
      x.store.findIdempotent m = none ->
      Behind (x.store.inboxCursor x.lastReceived) m.position ∧
        forall cursor, x.call = some cursor -> Behind cursor m.position
  | _ => True

/-- The pruning takes received messages only, and the reader's cursor only with all of them. -/
def Careful (x : Exchange) : Event -> Prop
  | .prune cutoff limit =>
    forall row, row ∈ x.store -> row.inInbox project recipient = true ->
      (row.id ∈ x.store.prunable cutoff limit -> row.id ∈ x.received) ∧
      (forall last, x.lastReceived = some last -> last ∈ x.store.prunable cutoff limit ->
        row.id ∈ x.received -> row.id ∈ x.store.prunable cutoff limit)
  | _ => True

variable {rt} {project recipient} {x : Exchange}

/-!
# Ids and the reader's place

Ids are given out once, and the reader has received exactly the stored messages of its
inbox that are not behind its cursor.
-/

def Passed (cursor : Cursor) (received : List Nat) (store : CoordinationStore)
    (project recipient : String) : Prop :=
  forall row, row ∈ store -> row.inInbox project recipient = true ->
    (row.id ∈ received ↔ ¬ Behind cursor row.position)

structure Consistent (project recipient : String) (x : Exchange) : Prop where
  distinct : (x.store.map CoordinationMessage.id).Nodup
  pendingDistinct : (x.appends.map CoordinationMessage.id).Nodup
  storeIssued : forall row, row ∈ x.store -> row.id ∈ x.issued
  pendingIssued : forall m, m ∈ x.appends -> m.id ∈ x.issued
  pendingNew : forall m, m ∈ x.appends ->
    m.id ∉ x.store.map CoordinationMessage.id ∧ m.id ∉ x.received
  receivedIssued : forall i, i ∈ x.received -> i ∈ x.issued
  receivedDistinct : x.received.Nodup
  lastReceived : forall last, x.lastReceived = some last -> last ∈ x.received
  outstanding : forall m, m ∈ x.returned -> m.inInbox project recipient = true ->
    m.id ∈ x.received ∨
      exists row, row ∈ x.store ∧ row.id = m.id ∧ row.inInbox project recipient = true
  ahead : Passed (x.store.inboxCursor x.lastReceived) x.received x.store project recipient
  called : forall cursor, x.call = some cursor -> Passed cursor x.received x.store project recipient

theorem consistent_initial : Consistent project recipient {} := by
  constructor
  all_goals simp [Passed]

/-! ## Cursors -/

variable {s : CoordinationStore}

theorem inboxCursor_eq_none {last : Nat}
    (h : last ∉ s.map CoordinationMessage.id) : s.inboxCursor (some last) = none := by
  have hnone : s.get last = none := by
    unfold CoordinationStore.get
    rw [rowAt_eq_none]
    intro row hrow heq
    exact h (heq ▸ List.mem_map_of_mem hrow)
  show (s.get last).map position = none
  rw [hnone]
  rfl

variable {row : CoordinationMessage}

theorem inboxCursor_of_mem (hdistinct : (s.map CoordinationMessage.id).Nodup) (hrow : row ∈ s) :
    s.inboxCursor (some row.id) = some row.position := by
  have hget : s.get row.id = some row := rowAt_of_mem hdistinct hrow
  show (s.get row.id).map position = some row.position
  rw [hget]
  rfl

variable {a b : CoordinationMessage}

theorem distinct_rows (hdistinct : (s.map CoordinationMessage.id).Nodup) (ha : a ∈ s) (hb : b ∈ s)
    (h : a.id = b.id) : a = b := by
  have hfirst := rowAt_of_mem hdistinct ha
  rw [h, rowAt_of_mem hdistinct hb] at hfirst
  exact (Option.some.inj hfirst).symm

theorem position_id (h : a.position = b.position) : a.id = b.id := by
  have hpair := toLex.injective h
  exact (Prod.mk.inj hpair).right

/-! ## Marks -/

/-- A rewriting of rows that leaves their keys and places. -/
def KeepsPlaces (f : CoordinationMessage -> CoordinationMessage) : Prop :=
  forall row, (f row).id = row.id ∧ (f row).position = row.position ∧
    forall project recipient, (f row).inInbox project recipient = row.inInbox project recipient

variable {f : CoordinationMessage -> CoordinationMessage}

theorem inboxCursor_map (hf : KeepsPlaces f) (s : CoordinationStore) (afterId : Option Nat) :
    inboxCursor (s.map f) afterId = s.inboxCursor afterId := by
  cases afterId with
  | none => rfl
  | some last =>
    have hget : CoordinationStore.get (s.map f) last = (s.get last).map f :=
      rowAt_map (fun row _ => (hf row).left) last
    show (CoordinationStore.get (s.map f) last).map position = (s.get last).map position
    rw [hget, Option.map_map]
    congr 1
    funext row
    exact (hf row).right.left

variable {cursor : Cursor} {store : CoordinationStore}

theorem Passed.map (hf : KeepsPlaces f) {received : List Nat}
    (h : Passed cursor received store project recipient) :
    Passed cursor received (store.map f) project recipient := by
  intro row hrow hinbox
  rcases List.mem_map.mp hrow with ⟨old, hold, rfl⟩
  rw [(hf old).left, (hf old).right.left]
  rw [(hf old).right.right] at hinbox
  exact h old hold hinbox

theorem Consistent.mapped (hf : KeepsPlaces f) (h : Consistent project recipient x) :
    Consistent project recipient { x with store := x.store.map f } := by
  have hkeys : (x.store.map f).map CoordinationMessage.id = x.store.map CoordinationMessage.id := by
    rw [List.map_map]
    exact List.map_congr_left (fun row _ => (hf row).left)
  constructor
  · show ((x.store.map f).map CoordinationMessage.id).Nodup
    rw [hkeys]
    exact h.distinct
  · exact h.pendingDistinct
  · intro row hrow
    rcases List.mem_map.mp hrow with ⟨old, hold, rfl⟩
    rw [(hf old).left]
    exact h.storeIssued old hold
  · exact h.pendingIssued
  · intro m hm
    show m.id ∉ (x.store.map f).map CoordinationMessage.id ∧ _
    rw [hkeys]
    exact h.pendingNew m hm
  · exact h.receivedIssued
  · exact h.receivedDistinct
  · exact h.lastReceived
  · intro m hm hinbox
    rcases h.outstanding m hm hinbox with hreceived | ⟨row, hrow, hid, hrowInbox⟩
    · exact .inl hreceived
    · refine .inr ⟨f row, List.mem_map_of_mem hrow, ?_, ?_⟩
      · rw [(hf row).left, hid]
      · rw [(hf row).right.right, hrowInbox]
  · show Passed (inboxCursor (x.store.map f) x.lastReceived) _ _ _ _
    rw [inboxCursor_map hf]
    exact h.ahead.map hf
  · exact fun cursor hcall => (h.called cursor hcall).map hf

theorem keepsPlaces_update {condition : CoordinationMessage -> Bool}
    {set : CoordinationMessage -> CoordinationMessage} (hset : KeepsPlaces set) :
    KeepsPlaces (fun row => if condition row then set row else row) := by
  intro row
  by_cases hcondition : condition row = true
  · simp only [if_pos hcondition]
    exact hset row
  · simp [if_neg hcondition]

theorem Consistent.markDelivered (h : Consistent project recipient x) (messageId : Nat) :
    Consistent project recipient (x.step rt project recipient (.markDelivered messageId)) := by
  have hset : KeepsPlaces (fun row : CoordinationMessage =>
      { row with deliveredAt := row.deliveredAt.or (some x.clock) }) :=
    fun _ => ⟨rfl, rfl, fun _ _ => rfl⟩
  exact h.mapped (keepsPlaces_update hset)

theorem Consistent.markRead (h : Consistent project recipient x) (messageId : Nat) :
    Consistent project recipient (x.step rt project recipient (.markRead messageId)) := by
  have hset : KeepsPlaces (fun row : CoordinationMessage =>
      { row with readAt := row.readAt.or (some x.clock) }) :=
    fun _ => ⟨rfl, rfl, fun _ _ => rfl⟩
  exact h.mapped (keepsPlaces_update hset)

/-! ## Appends -/

variable {m : CoordinationMessage}

theorem prepareAppend_ok {request : AppendRequest} {now messageId : Nat}
    (h : prepareAppend rt request now messageId = .ok m) :
    m.id = messageId := by
  unfold prepareAppend at h
  simp only [require_bind_eq_ok] at h
  rcases h with ⟨_, _, _, _, _, _, _, h⟩
  cases h
  rfl

theorem Consistent.prepare (h : Consistent project recipient x) (request : AppendRequest)
    (messageId : Nat) :
    Consistent project recipient (x.step rt project recipient (.prepare request messageId)) := by
  unfold step
  by_cases hissued : messageId ∈ x.issued
  · simp only [if_pos hissued]
    exact h
  simp only [if_neg hissued]
  cases hprepare : prepareAppend rt request x.clock messageId with
  | error _ => exact h
  | ok m =>
    have hid := prepareAppend_ok hprepare
    have hpending : messageId ∉ x.appends.map CoordinationMessage.id := by
      intro hin
      rcases List.mem_map.mp hin with ⟨p, hp, heq⟩
      exact hissued (heq ▸ h.pendingIssued p hp)
    constructor
    · exact h.distinct
    · show ((x.appends ++ [m]).map CoordinationMessage.id).Nodup
      rw [List.map_append, List.map_singleton, hid]
      exact List.Nodup.append h.pendingDistinct (List.nodup_singleton _)
        (List.disjoint_singleton.mpr hpending)
    · exact fun row hrow => List.mem_cons_of_mem _ (h.storeIssued row hrow)
    · intro p hp
      rcases List.mem_append.mp hp with hp | hp
      · exact List.mem_cons_of_mem _ (h.pendingIssued p hp)
      · rw [List.mem_singleton.mp hp, hid]
        exact List.mem_cons_self
    · intro p hp
      rcases List.mem_append.mp hp with hp | hp
      · exact h.pendingNew p hp
      · rw [List.mem_singleton.mp hp, hid]
        constructor
        · intro hin
          rcases List.mem_map.mp hin with ⟨row, hrow, heq⟩
          exact hissued (heq ▸ h.storeIssued row hrow)
        · exact fun hin => hissued (h.receivedIssued messageId hin)
    · exact fun i hi => List.mem_cons_of_mem _ (h.receivedIssued i hi)
    · exact h.receivedDistinct
    · exact h.lastReceived
    · exact h.outstanding
    · exact h.ahead
    · exact h.called

theorem findIdempotent_mem {m row : CoordinationMessage}
    (h : s.findIdempotent m = some row) : row ∈ s := by
  unfold CoordinationStore.findIdempotent at h
  cases hkey : m.idempotencyKey with
  | none =>
    rw [hkey] at h
    cases h
  | some key =>
    rw [hkey] at h
    exact List.mem_of_find?_eq_some h

theorem Consistent.dropped (h : Consistent project recipient x) (index : Nat) :
    Consistent project recipient { x with appends := x.appends.eraseIdx index } := by
  exact
    { h with
      pendingDistinct := h.pendingDistinct.sublist ((List.eraseIdx_sublist _ _).map _)
      pendingIssued := fun p hp => h.pendingIssued p (List.mem_of_mem_eraseIdx hp)
      pendingNew := fun p hp => h.pendingNew p (List.mem_of_mem_eraseIdx hp) }

theorem Consistent.returning (h : Consistent project recipient x) (hrow : row ∈ x.store) :
    Consistent project recipient { x with returned := x.returned ++ [row] } := by
  refine { h with outstanding := ?_ }
  intro m hm hinbox
  rcases List.mem_append.mp hm with hm | hm
  · exact h.outstanding m hm hinbox
  · rw [List.mem_singleton.mp hm] at hinbox ⊢
    exact .inr ⟨row, hrow, rfl, hinbox⟩

theorem inboxCursor_append
    {afterId : Option Nat} (h : forall last, afterId = some last -> last ≠ m.id) :
    inboxCursor (s ++ [m]) afterId = s.inboxCursor afterId := by
  cases afterId with
  | none => rfl
  | some last =>
    have hne := h last rfl
    have hget : CoordinationStore.get (s ++ [m]) last = s.get last := by
      unfold CoordinationStore.get rowAt
      rw [List.find?_append, List.find?_cons_of_neg (by simpa using hne.symm)]
      simp
    show (CoordinationStore.get (s ++ [m]) last).map position = (s.get last).map position
    rw [hget]

theorem Passed.inserted {received : List Nat} (h : Passed cursor received store project recipient)
    (hnew : m.id ∉ received)
    (hbehind : m.inInbox project recipient = true -> Behind cursor m.position) :
    Passed cursor received (store ++ [m]) project recipient := by
  intro row hrow hinbox
  rcases List.mem_append.mp hrow with hrow | hrow
  · exact h row hrow hinbox
  · rw [List.mem_singleton.mp hrow] at hinbox ⊢
    constructor
    · exact fun hreceived => absurd hreceived hnew
    · exact fun hpassed => absurd (hbehind hinbox) hpassed

theorem Consistent.inserted (h : Consistent project recipient x) {index : Nat}
    (hm : x.appends[index]? = some m) (htimely : m.inInbox project recipient = true ->
      Behind (x.store.inboxCursor x.lastReceived) m.position ∧
        forall cursor, x.call = some cursor -> Behind cursor m.position) :
    Consistent project recipient
      { x with store := x.store ++ [m], appends := x.appends.eraseIdx index } := by
  have hmem : m ∈ x.appends := List.mem_of_getElem? hm
  rcases h.pendingNew m hmem with ⟨hstore, hreceived⟩
  have herased : m.id ∉ (x.appends.eraseIdx index).map CoordinationMessage.id := by
    rcases List.getElem?_eq_some_iff.mp hm with ⟨hindex, hget⟩
    have hperm := (List.getElem_cons_eraseIdx_perm hindex).map CoordinationMessage.id
    rw [hget, List.map_cons] at hperm
    exact (List.nodup_cons.mp (hperm.nodup_iff.mpr h.pendingDistinct)).left
  constructor
  · show ((x.store ++ [m]).map CoordinationMessage.id).Nodup
    rw [List.map_append, List.map_singleton]
    exact List.Nodup.append h.distinct (List.nodup_singleton _) (List.disjoint_singleton.mpr hstore)
  · exact h.pendingDistinct.sublist ((List.eraseIdx_sublist _ _).map _)
  · intro row hrow
    rcases List.mem_append.mp hrow with hrow | hrow
    · exact h.storeIssued row hrow
    · rw [List.mem_singleton.mp hrow]
      exact h.pendingIssued m hmem
  · exact fun p hp => h.pendingIssued p (List.mem_of_mem_eraseIdx hp)
  · intro p hp
    rcases h.pendingNew p (List.mem_of_mem_eraseIdx hp) with ⟨hnew, hunread⟩
    refine ⟨?_, hunread⟩
    intro hin
    rw [List.map_append, List.map_singleton] at hin
    rcases List.mem_append.mp hin with hin | hin
    · exact hnew hin
    · rw [← List.mem_singleton.mp hin] at herased
      exact herased (List.mem_map_of_mem hp)
  · exact h.receivedIssued
  · exact h.receivedDistinct
  · exact h.lastReceived
  · intro r hr hinbox
    rcases h.outstanding r hr hinbox with hread | ⟨row, hrow, hid, hrowInbox⟩
    · exact .inl hread
    · exact .inr ⟨row, List.mem_append_left _ hrow, hid, hrowInbox⟩
  · show Passed (inboxCursor (x.store ++ [m]) x.lastReceived) _ _ _ _
    rw [inboxCursor_append (fun last hlast heq =>
      hreceived (heq ▸ h.lastReceived last hlast))]
    exact h.ahead.inserted hreceived (fun hinbox => (htimely hinbox).left)
  · intro cursor hcall
    exact (h.called cursor hcall).inserted hreceived
      (fun hinbox => (htimely hinbox).right cursor hcall)

theorem Consistent.commit (h : Consistent project recipient x) {index : Nat}
    (htimely : x.Timely project recipient (.commit index)) :
    Consistent project recipient (x.step rt project recipient (.commit index)) := by
  show Consistent project recipient (x.commitAt index)
  unfold commitAt
  cases hm : x.appends[index]? with
  | none => exact h
  | some m =>
    unfold CoordinationStore.commitAppend
    cases hfound : x.store.findIdempotent m with
    | some existing =>
      simp only [hfound]
      exact (h.dropped index).returning (findIdempotent_mem hfound)
    | none =>
      by_cases htaken : (x.store.get m.id).isSome = true
      · simp only [hfound, if_pos htaken]
        exact h.dropped index
      · simp only [hfound, if_neg htaken]
        have hinserted := h.inserted hm (fun hinbox => htimely m hm hinbox hfound)
        exact hinserted.returning (List.mem_append_right _ List.mem_cons_self)

/-! ## Pruning -/

theorem Consistent.prune (h : Consistent project recipient x) {cutoff : Nat} {limit : Int}
    (hcareful : x.Careful project recipient (.prune cutoff limit)) :
    Consistent project recipient (x.step rt project recipient (.prune cutoff limit)) := by
  have hsub : forall row, row ∈ x.store.pruneBefore cutoff limit ->
      row ∈ x.store ∧ row.id ∉ x.store.prunable cutoff limit := by
    intro row hrow
    rcases List.mem_filter.mp hrow with ⟨hmem, hkept⟩
    exact ⟨hmem, by simpa using hkept⟩
  have hsublist : (x.store.pruneBefore cutoff limit).Sublist x.store := List.filter_sublist
  have hdistinct := h.distinct.sublist (hsublist.map CoordinationMessage.id)
  constructor
  · exact hdistinct
  · exact h.pendingDistinct
  · exact fun row hrow => h.storeIssued row (hsub row hrow).left
  · exact h.pendingIssued
  · intro m hm
    rcases h.pendingNew m hm with ⟨hstore, hreceived⟩
    exact ⟨fun hmem => hstore ((hsublist.map CoordinationMessage.id).subset hmem), hreceived⟩
  · exact h.receivedIssued
  · exact h.receivedDistinct
  · exact h.lastReceived
  · intro m hm hinbox
    rcases h.outstanding m hm hinbox with hreceived | ⟨row, hrow, hid, hrowInbox⟩
    · exact .inl hreceived
    · by_cases hpruned : row.id ∈ x.store.prunable cutoff limit
      · left
        rw [← hid]
        exact (hcareful row hrow hrowInbox).left hpruned
      · right
        exact ⟨row, List.mem_filter.mpr ⟨hrow, by simpa using hpruned⟩, hid, hrowInbox⟩
  · intro row hrow hinbox
    rcases hsub row hrow with ⟨hmem, hkept⟩
    show row.id ∈ x.received ↔
      ¬ Behind ((x.store.pruneBefore cutoff limit).inboxCursor x.lastReceived) row.position
    cases hlast : x.lastReceived with
    | none =>
      have hahead := h.ahead row hmem hinbox
      rw [hlast] at hahead
      exact hahead
    | some last =>
      by_cases hstored : exists l, l ∈ x.store.pruneBefore cutoff limit ∧ l.id = last
      · rcases hstored with ⟨l, hl, rfl⟩
        rw [inboxCursor_of_mem hdistinct hl,
          ← inboxCursor_of_mem h.distinct (hsub l hl).left, ← hlast]
        exact h.ahead row hmem hinbox
      · have hgone : last ∉ (x.store.pruneBefore cutoff limit).map CoordinationMessage.id := by
          intro hin
          rcases List.mem_map.mp hin with ⟨l, hl, hid⟩
          exact hstored ⟨l, hl, hid⟩
        rw [inboxCursor_eq_none hgone]
        have hnone : Behind none row.position := fun c hc => by cases hc
        constructor
        · intro hreceived
          exfalso
          by_cases hin : last ∈ x.store.map CoordinationMessage.id
          · rcases List.mem_map.mp hin with ⟨l, hl, hid⟩
            have hpruned : last ∈ x.store.prunable cutoff limit := by
              by_contra hkeep
              exact hstored ⟨l, List.mem_filter.mpr ⟨hl, by simpa [hid] using hkeep⟩, hid⟩
            exact hkept ((hcareful row hmem hinbox).right last hlast hpruned hreceived)
          · have hahead := (h.ahead row hmem hinbox).mp hreceived
            rw [hlast, inboxCursor_eq_none hin] at hahead
            exact hahead hnone
        · intro hbehind
          exact absurd hnone hbehind
  · intro cursor hcall row hrow hinbox
    exact h.called cursor hcall row (hsub row hrow).left hinbox

/-! ## The reader -/

theorem Consistent.lookup (rt : Runtime) (h : Consistent project recipient x) :
    Consistent project recipient (x.step rt project recipient .lookup) := by
  unfold step
  by_cases hcall : x.call.isSome = true
  · simp only [if_pos hcall]
    exact h
  simp only [if_neg hcall]
  refine { h with called := ?_ }
  intro cursor hcursor
  cases hcursor
  exact h.ahead

theorem inboxLimit_pos (limit : Int) : 0 < inboxLimit limit := by
  unfold inboxLimit
  omega

theorem mem_inboxRows : row ∈ s.inboxRows project recipient false ↔
      row ∈ s ∧ row.inInbox project recipient = true := by
  unfold CoordinationStore.inboxRows
  simp

theorem page_spec (h : Consistent project recipient x)
    (hcall : x.call = some cursor) (limit : Int) :
    let messages := x.store.inbox project recipient false cursor limit
    (forall row, row ∈ messages -> row ∈ x.store ∧ row.inInbox project recipient = true ∧
      row.id ∉ x.received) ∧
    (messages.map CoordinationMessage.id).Nodup ∧
    (messages = [] -> forall row, row ∈ x.store -> row.inInbox project recipient = true ->
      row.id ∈ x.received) ∧
    (forall last, messages.getLast? = some last -> forall row, row ∈ x.store ->
      row.inInbox project recipient = true ->
      (row.id ∈ x.received ++ messages.map CoordinationMessage.id ↔
        ¬ Behind (some last.position) row.position)) := by
  intro messages
  have hpassed := h.called cursor hcall
  have hpage : forall row, row ∈ messages -> row ∈ x.store ∧
      row.inInbox project recipient = true ∧ Behind cursor row.position := by
    intro row hrow
    rcases mem_of_mem_keysetPage hrow with ⟨hmem, hbehind⟩
    rcases mem_inboxRows.mp hmem with ⟨hstore, hinbox⟩
    exact ⟨hstore, hinbox, hbehind⟩
  have hrows : (x.store.inboxRows project recipient false).Nodup :=
    (List.Nodup.of_map _ h.distinct).filter _
  refine ⟨?_, ?_, ?_, ?_⟩
  · intro row hrow
    rcases hpage row hrow with ⟨hstore, hinbox, hbehind⟩
    exact ⟨hstore, hinbox, fun hreceived => (hpassed row hstore hinbox).mp hreceived hbehind⟩
  · apply List.Nodup.map_on _ (keysetPage_nodup hrows)
    intro a ha b hb heq
    exact distinct_rows h.distinct (hpage a ha).left (hpage b hb).left heq
  · intro hnil row hrow hinbox
    exact (hpassed row hrow hinbox).mpr
      (keysetPage_eq_nil (inboxLimit_pos limit) hnil (mem_inboxRows.mpr ⟨hrow, hinbox⟩))
  · intro last hlast row hrow hinbox
    have hdistinct : forall a b, a ∈ x.store.inboxRows project recipient false ->
        b ∈ x.store.inboxRows project recipient false -> a.position = b.position -> a = b := by
      intro a b ha hb heq
      exact distinct_rows h.distinct (mem_inboxRows.mp ha).left (mem_inboxRows.mp hb).left
        (position_id heq)
    have hbetween := mem_keysetPage_iff (x := row) hdistinct hlast
    have hlastBehind := (hpage last (List.mem_of_getLast? hlast)).right.right
    have hmem : row.id ∈ messages.map CoordinationMessage.id ↔ row ∈ messages := by
      constructor
      · intro hin
        rcases List.mem_map.mp hin with ⟨other, hother, heq⟩
        rw [← distinct_rows h.distinct (hpage other hother).left hrow heq]
        exact hother
      · exact fun hin => List.mem_map_of_mem hin
    have hat : Behind (some last.position) row.position ↔ last.position < row.position :=
      ⟨fun hb => hb last.position rfl, fun hlt c hc => by cases hc; exact hlt⟩
    rw [hat, not_lt, List.mem_append, hmem]
    constructor
    · rintro (hreceived | hin)
      · have hnot := (hpassed row hrow hinbox).mp hreceived
        by_contra hlater
        rw [not_le] at hlater
        exact hnot (fun c hc => lt_trans (hlastBehind c hc) hlater)
      · exact (hbetween.mp hin).right.right
    · intro hle
      by_cases hbehind : Behind cursor row.position
      · exact .inr (hbetween.mpr ⟨mem_inboxRows.mpr ⟨hrow, hinbox⟩, hbehind, hle⟩)
      · exact .inl ((hpassed row hrow hinbox).mpr hbehind)

theorem readPage_eq (hcall : x.call = some cursor) (limit : Int) :
    x.readPage project recipient limit =
      { x with
        call := none
        received := x.received ++
          (x.store.inbox project recipient false cursor limit).map CoordinationMessage.id
        lastReceived := ((x.store.inbox project recipient false cursor limit).getLast?.map
          CoordinationMessage.id).or x.lastReceived } := by
  unfold readPage
  rw [hcall]

theorem Consistent.page (rt : Runtime) (h : Consistent project recipient x) (limit : Int) :
    Consistent project recipient (x.step rt project recipient (.page limit)) := by
  show Consistent project recipient (x.readPage project recipient limit)
  cases hcall : x.call with
  | none =>
    unfold readPage
    rw [hcall]
    exact h
  | some cursor =>
    rw [readPage_eq hcall]
    rcases page_spec h hcall limit with ⟨hnew, hdistinct, hempty, hlater⟩
    have hids : forall i, i ∈ (x.store.inbox project recipient false cursor limit).map
        CoordinationMessage.id -> i ∈ x.issued ∧ i ∉ x.received ∧
          i ∈ x.store.map CoordinationMessage.id := by
      intro i hi
      rcases List.mem_map.mp hi with ⟨row, hrow, rfl⟩
      rcases hnew row hrow with ⟨hstore, _, hunread⟩
      exact ⟨h.storeIssued row hstore, hunread, List.mem_map_of_mem hstore⟩
    constructor
    · exact h.distinct
    · exact h.pendingDistinct
    · exact h.storeIssued
    · exact h.pendingIssued
    · intro m hm
      rcases h.pendingNew m hm with ⟨hstore, hunread⟩
      refine ⟨hstore, ?_⟩
      intro hin
      rcases List.mem_append.mp hin with hin | hin
      · exact hunread hin
      · exact hstore (hids m.id hin).right.right
    · intro i hi
      rcases List.mem_append.mp hi with hi | hi
      · exact h.receivedIssued i hi
      · exact (hids i hi).left
    · apply List.Nodup.append h.receivedDistinct hdistinct
      intro i hi hin
      exact (hids i hin).right.left hi
    · intro last hlast
      cases hfinal : (x.store.inbox project recipient false cursor limit).getLast? with
      | none =>
        simp only [hfinal] at hlast
        exact List.mem_append_left _ (h.lastReceived last hlast)
      | some row =>
        simp only [hfinal] at hlast
        cases hlast
        exact List.mem_append_right _ (List.mem_map_of_mem (List.mem_of_getLast? hfinal))
    · intro m hm hinbox
      rcases h.outstanding m hm hinbox with hread | hstored
      · exact .inl (List.mem_append_left _ hread)
      · exact .inr hstored
    · cases hfinal : (x.store.inbox project recipient false cursor limit).getLast? with
      | none =>
        have hnil := List.getLast?_eq_none_iff.mp hfinal
        simp only [hnil, List.map_nil, List.append_nil]
        exact h.ahead
      | some last =>
        have hstored := (hnew last (List.mem_of_getLast? hfinal)).left
        intro row hrow hinbox
        simp only [Option.map_some, Option.some_or, inboxCursor_of_mem h.distinct hstored]
        exact hlater last hfinal row hrow hinbox
    · intro c hc
      cases hc

/-! ## Runs -/

theorem Consistent.step (h : Consistent project recipient x) {event : Event}
    (htimely : x.Timely project recipient event)
    (hcareful : x.Careful project recipient event) :
    Consistent project recipient (x.step rt project recipient event) := by
  cases event with
  | tick now => exact { h with }
  | prepare request messageId => exact h.prepare request messageId
  | commit index => exact h.commit htimely
  | markDelivered messageId => exact h.markDelivered messageId
  | markRead messageId => exact h.markRead messageId
  | prune cutoff limit => exact h.prune hcareful
  | lookup => exact h.lookup rt
  | page limit => exact h.page rt limit

/-- The stored messages of the inbox that the reader has not received. -/
def outstandingRows (project recipient : String) (x : Exchange) : List CoordinationMessage :=
  x.store.filter fun row => row.inInbox project recipient ∧ row.id ∉ x.received

theorem page_frame (rt : Runtime) (project recipient : String) (x : Exchange) (limit : Int) :
    (x.step rt project recipient (.page limit)).store = x.store ∧
      (x.step rt project recipient (.page limit)).returned = x.returned ∧
      (x.step rt project recipient (.page limit)).call = none := by
  show (x.readPage project recipient limit).store = _ ∧
    (x.readPage project recipient limit).returned = _ ∧
    (x.readPage project recipient limit).call = _
  cases hcall : x.call with
  | none =>
    unfold readPage
    rw [hcall]
    exact ⟨rfl, rfl, hcall⟩
  | some cursor =>
    rw [readPage_eq hcall]
    exact ⟨rfl, rfl, rfl⟩

theorem poll_progress (rt : Runtime) (h : Consistent project recipient x) (hidle : x.call = none)
    (limit : Int) :
    (outstandingRows project recipient (x.poll rt project recipient limit)).length ≤
      (outstandingRows project recipient x).length - 1 := by
  have hlookup : x.step rt project recipient .lookup =
      { x with call := some (x.store.inboxCursor x.lastReceived) } := by
    unfold step
    simp [hidle]
  have hconsistent := h.lookup rt
  have hpoll : x.poll rt project recipient limit = Exchange.readPage project recipient
        { x with call := some (x.store.inboxCursor x.lastReceived) } limit := by
    unfold poll
    rw [hlookup]
    rfl
  rw [hlookup] at hconsistent
  rw [hpoll, readPage_eq rfl]
  rcases page_spec hconsistent rfl limit with ⟨hnew, _, hempty, _⟩
  set messages := x.store.inbox project recipient false
    (x.store.inboxCursor x.lastReceived) limit with hmessages
  show (x.store.filter fun row => row.inInbox project recipient ∧
    row.id ∉ x.received ++ messages.map CoordinationMessage.id).length ≤ _
  have hsublist : (x.store.filter fun row => row.inInbox project recipient ∧
      row.id ∉ x.received ++ messages.map CoordinationMessage.id).Sublist
        (outstandingRows project recipient x) := by
    apply List.monotone_filter_right
    intro row hrow
    simp only [decide_eq_true_eq, List.mem_append, not_or] at hrow ⊢
    exact ⟨hrow.left, hrow.right.left⟩
  rcases List.eq_nil_or_concat' messages with hnil | ⟨before, last, hlast⟩
  · have hnone : (x.store.filter fun row => row.inInbox project recipient ∧
        row.id ∉ x.received ++ messages.map CoordinationMessage.id) = [] := by
      apply List.filter_eq_nil_iff.mpr
      intro row hrow hunread
      simp only [decide_eq_true_eq, List.mem_append, not_or] at hunread
      exact hunread.right.left (hempty hnil row hrow hunread.left)
    rw [hnone]
    exact Nat.zero_le _
  · have hin : last ∈ messages := by
      rw [hlast]
      exact List.mem_append_right _ List.mem_cons_self
    rcases hnew last hin with ⟨hstored, hinbox, hunread⟩
    have houtstanding : last ∈ outstandingRows project recipient x := by
      unfold outstandingRows
      rw [List.mem_filter]
      exact ⟨hstored, by simpa using ⟨hinbox, hunread⟩⟩
    have hlt : (x.store.filter fun row => row.inInbox project recipient ∧
        row.id ∉ x.received ++ messages.map CoordinationMessage.id).length <
          (outstandingRows project recipient x).length := by
      apply Nat.lt_of_le_of_ne hsublist.length_le
      intro hlength
      rw [← hsublist.eq_of_length hlength, List.mem_filter] at houtstanding
      simp only [decide_eq_true_eq, List.mem_append, not_or] at houtstanding
      exact houtstanding.right.right.right (List.mem_map_of_mem hin)
    omega

theorem polls_spec (rt : Runtime) (h : Consistent project recipient x) (limit : Int) (n : Nat) :
    let y := x.polls rt project recipient limit n
    Consistent project recipient y ∧ y.call = none ∧ y.store = x.store ∧ y.returned = x.returned ∧
      (outstandingRows project recipient y).length ≤ x.store.length - n := by
  induction n with
  | zero =>
    rcases page_frame rt project recipient x limit with ⟨hstore, hreturned, hcall⟩
    refine ⟨h.page rt limit, hcall, hstore, hreturned, ?_⟩
    rw [Nat.sub_zero, ← hstore]
    exact List.length_filter_le _ _
  | succ n ih =>
    rcases ih with ⟨hconsistent, hcall, hstore, hreturned, hlength⟩
    have hprogress := poll_progress rt hconsistent hcall limit
    rcases page_frame rt project recipient
      ((x.polls rt project recipient limit n).step rt project recipient .lookup) limit with
        ⟨hpageStore, hpageReturned, hpageCall⟩
    have hlookup :
        ((x.polls rt project recipient limit n).step rt project recipient .lookup).store = x.store ∧
        ((x.polls rt project recipient limit n).step rt project recipient .lookup).returned =
          x.returned := by
      unfold step
      simp [hcall, hstore, hreturned]
    refine ⟨(hconsistent.lookup rt).page rt limit, hpageCall, hpageStore.trans hlookup.left,
      hpageReturned.trans hlookup.right, ?_⟩
    show (outstandingRows project recipient
      (Exchange.poll rt project recipient (x.polls rt project recipient limit n) limit)).length ≤ _
    omega

theorem Consistent.exactlyOnce (h : Consistent project recipient x) :
    x.ExactlyOnce rt project recipient := by
  intro limit n hn m hm hinbox
  rcases polls_spec rt h limit n with ⟨hconsistent, _, hstore, hreturned, hlength⟩
  have hnone : outstandingRows project recipient (x.polls rt project recipient limit n) = [] :=
    List.length_eq_zero_iff.mp (by omega)
  have hreceived : m.id ∈ (x.polls rt project recipient limit n).received := by
    rw [← hreturned] at hm
    rcases hconsistent.outstanding m hm hinbox with hread | ⟨row, hrow, hid, hrowInbox⟩
    · exact hread
    · by_contra hunread
      have hmem : row ∈ outstandingRows project recipient
          (x.polls rt project recipient limit n) := by
        unfold outstandingRows
        rw [List.mem_filter]
        exact ⟨hrow, by simpa [hid] using ⟨hrowInbox, hunread⟩⟩
      rw [hnone] at hmem
      cases hmem
  exact List.count_eq_one_of_mem hconsistent.receivedDistinct hreceived

/-- Along a run whose inserts come after the reader's cursor and whose prunings take only
what was received, every message that an append returned reaches the reader exactly once. -/
theorem exactlyOnce_run (rt : Runtime) (project recipient : String) {events : List Event}
    (htimely : Guarded (Exchange.step rt project recipient) (Exchange.Timely project recipient)
      {} events)
    (hcareful : Guarded (Exchange.step rt project recipient) (Exchange.Careful project recipient)
      {} events) :
    (run (Exchange.step rt project recipient) {} events).ExactlyOnce rt project recipient := by
  have hguard : Guarded (Exchange.step rt project recipient)
      (fun x event => x.Timely project recipient event ∧ x.Careful project recipient event)
      {} events := (guarded_and ({} : Exchange) events).mpr ⟨htimely, hcareful⟩
  have hconsistent : Consistent project recipient
      (run (Exchange.step rt project recipient) {} events) :=
    guarded_invariant_run (fun _ _ h hboth => h.step hboth.left hboth.right)
      consistent_initial hguard
  exact hconsistent.exactlyOnce

instance (x : Exchange) (event : Event) : Decidable (x.Timely project recipient event) :=
  match event with
  | .commit index => inferInstanceAs (Decidable (forall m, m ∈ x.appends[index]? ->
      m.inInbox project recipient = true -> x.store.findIdempotent m = none ->
        Behind (x.store.inboxCursor x.lastReceived) m.position ∧
          forall cursor, cursor ∈ x.call -> Behind cursor m.position))
  | .tick _ | .prepare _ _ | .markDelivered _ | .markRead _ | .prune _ _ | .lookup | .page _ =>
    isTrue trivial

instance (x : Exchange) (event : Event) : Decidable (x.Careful project recipient event) :=
  match event with
  | .prune cutoff limit => inferInstanceAs (Decidable (forall row, row ∈ x.store ->
      row.inInbox project recipient = true ->
        (row.id ∈ x.store.prunable cutoff limit -> row.id ∈ x.received) ∧
        (forall last, last ∈ x.lastReceived -> last ∈ x.store.prunable cutoff limit ->
          row.id ∈ x.received -> row.id ∈ x.store.prunable cutoff limit)))
  | .tick _ | .prepare _ _ | .commit _ | .markDelivered _ | .markRead _ | .lookup | .page _ =>
    isTrue trivial

def greetingTo (recipient text : String) : AppendRequest :=
  { projectId := "app", senderTask := "T-1", recipientTask := recipient, text := text }

/-- Two messages are read, the first is pruned, and a third is read from the cursor. -/
def orderlyEvents : List Event :=
  [.tick 10, .prepare (greetingTo "T-2" "one") 7, .commit 0, .tick 20,
    .prepare (greetingTo "T-2" "two") 3, .prepare (greetingTo "T-3" "aside") 5, .commit 1,
    .commit 0, .lookup, .page 5, .markRead 7, .prune 15 100, .tick 30,
    .prepare (greetingTo "T-2" "three") 1, .commit 0]

theorem exactlyOnce_orderlyEvents :
    (run (Exchange.step ascii "app" "T-2") {} orderlyEvents).ExactlyOnce ascii "app" "T-2" :=
  exactlyOnce_run ascii "app" "T-2" (by decide +kernel) (by decide +kernel)

/-- An append takes its time, a later one is inserted and read, and the first is inserted. -/
def overtakenEvents : List Event :=
  [.tick 10, .prepare (greetingTo "T-2" "one") 7, .tick 20,
    .prepare (greetingTo "T-2" "two") 3, .commit 1, .lookup, .page 5, .commit 0]

theorem exactlyOnce_overtakenEvents :
    ¬ (run (Exchange.step ascii "app" "T-2") {} overtakenEvents).ExactlyOnce ascii "app" "T-2" := by
  intro h
  have hreturned : exists m,
      m ∈ (run (Exchange.step ascii "app" "T-2") {} overtakenEvents).returned ∧
      m.inInbox "app" "T-2" = true ∧
      ((run (Exchange.step ascii "app" "T-2") {} overtakenEvents).polls ascii "app" "T-2" 5
        2).received.count m.id = 0 := by
    decide +kernel
  rcases hreturned with ⟨m, hm, hinbox, hcount⟩
  have hlength : (run (Exchange.step ascii "app" "T-2") {} overtakenEvents).store.length ≤ 2 := by
    decide +kernel
  rw [h 5 2 hlength m hm hinbox] at hcount
  cases hcount

end Exchange
end Coordination
end Oompah
