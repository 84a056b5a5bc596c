import Mathlib.Data.List.Dedup
import Oompah.WorkflowJobs.Runs

/-!
# Progress of the archival

The archival looks at the first tasks that carry an archived retirement, whether or
not they have hot events left.  A call moves something exactly when one of them has,
and what it moves arrives unchanged.
-/

namespace Oompah
namespace WorkflowJobs

open Foundation

/-!
# Sequences of the two tables
-/

theorem filter_key_eq_singleton {α β : Type} [DecidableEq β] {key : α -> β}
    {entries : List α} (hnodup : (entries.map key).Nodup) {entry : α}
    (hmem : entry ∈ entries) :
    entries.filter (fun other => key other = key entry) = [entry] := by
  induction entries with
  | nil => cases hmem
  | cons first rest ih =>
    rw [List.map_cons, List.nodup_cons] at hnodup
    rcases List.mem_cons.mp hmem with rfl | hrest
    · rw [List.filter_cons, if_pos (decide_eq_true rfl)]
      congr 1
      rw [List.filter_eq_nil_iff]
      intro other hother hsame
      exact hnodup.left (of_decide_eq_true hsame ▸ List.mem_map_of_mem hother)
    · rw [List.filter_cons_of_neg]
      · exact ih hnodup.right hrest
      · intro hsame
        exact hnodup.left (of_decide_eq_true hsame ▸ List.mem_map_of_mem hrest)

namespace EventLedger

/-- Hot events are in order, and no two events of the ledger share a sequence. -/
structure Sequenced (ledger : EventLedger) : Prop where
  hot : ledger.hot.Pairwise (fun first second => first.sequence < second.sequence)
  cold : (ledger.cold.map (fun entry => entry.1.sequence)).Nodup
  apart : forall event, event ∈ ledger.hot -> forall entry, entry ∈ ledger.cold ->
    entry.1.sequence ≠ event.sequence
  hotBound : forall event, event ∈ ledger.hot -> event.sequence ≤ ledger.autoincrement
  coldBound : forall entry, entry ∈ ledger.cold -> entry.1.sequence ≤ ledger.autoincrement

variable {ledger : EventLedger}

theorem sequenced_empty : Sequenced {} where
  hot := List.Pairwise.nil
  cold := List.nodup_nil
  apart := fun _ h => absurd h List.not_mem_nil
  hotBound := fun _ h => absurd h List.not_mem_nil
  coldBound := fun _ h => absurd h List.not_mem_nil

theorem Sequenced.append (h : ledger.Sequenced) (event : WorkflowJobEvent) :
    (ledger.append event).Sequenced where
  hot := by
    apply List.pairwise_append.mpr
    refine ⟨h.hot, List.pairwise_singleton _ _, ?_⟩
    intro old hold new hnew
    rw [List.mem_singleton.mp hnew]
    exact Nat.lt_succ_of_le (h.hotBound old hold)
  cold := h.cold
  apart := by
    intro other hother entry hentry
    rcases List.mem_append.mp hother with hold | hnew
    · exact h.apart other hold entry hentry
    · rw [List.mem_singleton.mp hnew]
      exact Nat.ne_of_lt (Nat.lt_succ_of_le (h.coldBound entry hentry))
  hotBound := by
    intro other hother
    rcases List.mem_append.mp hother with hold | hnew
    · exact Nat.le_succ_of_le (h.hotBound other hold)
    · rw [List.mem_singleton.mp hnew]
      exact Nat.le_refl _
  coldBound := fun entry hentry => Nat.le_succ_of_le (h.coldBound entry hentry)

theorem Sequenced.eq_of_sequence (h : ledger.Sequenced) {event other : WorkflowJobEvent}
    (hevent : event ∈ ledger.hot) (hother : other ∈ ledger.hot)
    (hsame : event.sequence = other.sequence) : event = other := by
  have hstrict : ledger.hot.Pairwise (fun first second : WorkflowJobEvent =>
      first.sequence = second.sequence -> first = second) :=
    h.hot.imp (fun hless hequal => absurd hequal (Nat.ne_of_lt hless))
  have hflipped : ledger.hot.Pairwise (flip (fun first second : WorkflowJobEvent =>
      first.sequence = second.sequence -> first = second)) :=
    h.hot.imp (fun hless hequal => absurd hequal.symm (Nat.ne_of_lt hless))
  exact List.Pairwise.forall_of_forall_of_flip (fun _ _ _ => rfl) hstrict hflipped
    hevent hother hsame

/-!
# One relocation
-/

variable {selected : List WorkflowJobEvent}

theorem archiveEvents_cold (now : Int) (hnodup : (selected.map WorkflowJobEvent.sequence).Nodup)
    (hapart : forall event, event ∈ selected -> forall entry, entry ∈ ledger.cold ->
      entry.1.sequence ≠ event.sequence) :
    (selected.foldl (archiveEvent now) ledger).cold =
      ledger.cold ++ selected.map (fun event => (event, now)) := by
  induction selected generalizing ledger with
  | nil => exact (List.append_nil _).symm
  | cons event rest ih =>
    have habsent : (ledger.cold.any fun entry => entry.1.sequence = event.sequence) =
        false := by
      rw [List.any_eq_false]
      intro entry hentry
      rw [decide_eq_true_eq]
      exact hapart event List.mem_cons_self entry hentry
    have hstored : ledger.archiveEvent now event =
        { ledger with cold := ledger.cold ++ [(event, now)] } := by
      unfold archiveEvent
      rw [habsent]
      rfl
    rw [List.map_cons, List.nodup_cons] at hnodup
    rw [List.foldl_cons, hstored, ih hnodup.right]
    · simp
    · intro other hother entry hentry
      rcases List.mem_append.mp hentry with hold | hnew
      · exact hapart other (List.mem_cons_of_mem _ hother) entry hold
      · rw [List.mem_singleton.mp hnew]
        intro hsame
        exact hnodup.left (hsame ▸ List.mem_map_of_mem hother)

/-- Selected events that the relocation deletes from the hot table and from there only. -/
structure Selected (ledger : EventLedger) (selected : List WorkflowJobEvent)
    (eligible : WorkflowJobEvent -> Bool) : Prop where
  sublist : selected.Sublist ledger.hot
  eligible : forall event, event ∈ selected -> eligible event = true

variable {eligible : WorkflowJobEvent -> Bool}

theorem Selected.nodup (h : ledger.Selected selected eligible) (hsequenced : ledger.Sequenced) :
    (selected.map WorkflowJobEvent.sequence).Nodup := by
  unfold List.Nodup
  rw [List.pairwise_map]
  exact (hsequenced.hot.sublist h.sublist).imp Nat.ne_of_lt

theorem relocate_cold (h : ledger.Selected selected eligible)
    (hsequenced : ledger.Sequenced) (now : Int) :
    (ledger.relocate selected eligible now).cold =
      ledger.cold ++ selected.map (fun event => (event, now)) :=
  archiveEvents_cold now (h.nodup hsequenced)
    (fun event hevent => hsequenced.apart event (h.sublist.subset hevent))

theorem inSequenceRange_self {event : WorkflowJobEvent}
    (h : event ∈ selected) : inSequenceRange selected event.sequence = true := by
  unfold inSequenceRange
  rw [Bool.and_eq_true, List.any_eq_true, List.any_eq_true]
  exact ⟨⟨event, h, decide_eq_true (Nat.le_refl _)⟩, ⟨event, h, decide_eq_true (Nat.le_refl _)⟩⟩

theorem Sequenced.relocate (h : ledger.Sequenced)
    (hselected : ledger.Selected selected eligible) (now : Int) :
    (ledger.relocate selected eligible now).Sequenced := by
  have hcold := relocate_cold hselected h now
  have hrelocation := Store.relocation_relocate ledger selected eligible now
  constructor
  · exact h.hot.sublist hrelocation.hot
  · rw [hcold, List.map_append, List.map_map]
    apply List.nodup_append.mpr
    refine ⟨h.cold, hselected.nodup h, ?_⟩
    intro sequence hold other hnew hsame
    rcases List.mem_map.mp hold with ⟨entry, hentry, rfl⟩
    rcases List.mem_map.mp hnew with ⟨event, hevent, rfl⟩
    exact h.apart event (hselected.sublist.subset hevent) entry hentry hsame
  · intro event hevent entry hentry hsame
    have hhot := hrelocation.hot.subset hevent
    rw [hcold] at hentry
    rcases List.mem_append.mp hentry with hold | hnew
    · exact h.apart event hhot entry hold hsame
    · rcases List.mem_map.mp hnew with ⟨moved, hmoved, rfl⟩
      have heq := h.eq_of_sequence (hselected.sublist.subset hmoved) hhot hsame
      subst heq
      rw [Store.relocate_hot, List.mem_filter, inSequenceRange_self hmoved,
        hselected.eligible moved hmoved] at hevent
      exact absurd hevent.right (by decide)
  · intro event hevent
    rw [hrelocation.autoincrement]
    exact h.hotBound event (hrelocation.hot.subset hevent)
  · intro entry hentry
    rw [hrelocation.autoincrement]
    rw [hcold] at hentry
    rcases List.mem_append.mp hentry with hold | hnew
    · exact h.coldBound entry hold
    · rcases List.mem_map.mp hnew with ⟨moved, hmoved, rfl⟩
      exact h.hotBound moved (hselected.sublist.subset hmoved)

theorem selected_take (ledger : EventLedger) (eligible : WorkflowJobEvent -> Bool)
    (budget : Nat) : ledger.Selected ((ledger.hot.filter eligible).take budget) eligible where
  sublist := (List.take_sublist _ _).trans List.filter_sublist
  eligible := fun _ hevent => (List.mem_filter.mp (List.mem_of_mem_take hevent)).right

/-- The range of a prefix of the eligible events covers no other eligible event. -/
theorem relocate_take_hot (h : ledger.Sequenced) (eligible : WorkflowJobEvent -> Bool)
    (budget : Nat) (now : Int) (event : WorkflowJobEvent) :
    event ∈ (ledger.relocate ((ledger.hot.filter eligible).take budget) eligible now).hot ↔
      event ∈ ledger.hot ∧ event ∉ (ledger.hot.filter eligible).take budget := by
  rw [Store.relocate_hot, List.mem_filter]
  refine and_congr_right (fun hevent => ?_)
  constructor
  · intro hkept hselected
    rw [inSequenceRange_self hselected,
      (List.mem_filter.mp (List.mem_of_mem_take hselected)).right] at hkept
    exact absurd hkept (by decide)
  · intro hnot
    cases heligible : eligible event with
    | false => rfl
    | true =>
      have hsplit : event ∈ (ledger.hot.filter eligible).drop budget := by
        have hmem := List.mem_filter.mpr ⟨hevent, heligible⟩
        rw [← List.take_append_drop budget (ledger.hot.filter eligible)] at hmem
        exact (List.mem_append.mp hmem).resolve_left hnot
      have hsorted := h.hot.sublist (List.filter_sublist (p := eligible))
      rw [← List.take_append_drop budget (ledger.hot.filter eligible)] at hsorted
      have hbehind := (List.pairwise_append.mp hsorted).right.right
      have hoff : inSequenceRange ((ledger.hot.filter eligible).take budget)
          event.sequence = false := by
        unfold inSequenceRange
        rw [Bool.and_eq_false_iff]
        right
        rw [List.any_eq_false]
        intro other hother
        rw [decide_eq_true_eq]
        exact Nat.not_le_of_lt (hbehind other hother event hsplit)
      rw [hoff]
      rfl

theorem filter_before_prefix {events : List WorkflowJobEvent}
    (h : events.Pairwise (fun first second => first.sequence < second.sequence)) (cutoff : Nat) :
    (events.filter (fun event => event.sequence < cutoff)).IsPrefix events := by
  induction events with
  | nil => exact List.prefix_refl _
  | cons event rest ih =>
    rw [List.pairwise_cons] at h
    by_cases hbefore : event.sequence < cutoff
    · simp only [List.filter_cons, hbefore, decide_true, if_true, List.prefix_cons_inj]
      exact ih h.right
    · have hnone : (event :: rest).filter (fun event => event.sequence < cutoff) = [] := by
        rw [List.filter_eq_nil_iff, List.forall_mem_cons]
        simp only [decide_eq_true_eq]
        exact ⟨hbefore, fun later hlater hcutoff =>
          hbefore ((h.left later hlater).trans hcutoff)⟩
      rw [hnone]
      exact List.nil_prefix

/-- Events that left the hot table arrived in the archive, as they were. -/
structure Moves (now : Int) (before after : EventLedger) : Prop where
  sequenced : after.Sequenced
  hot : after.hot.Sublist before.hot
  cold : exists moved : List WorkflowJobEvent,
    after.cold = before.cold ++ moved.map (fun event => (event, now)) ∧
      forall event, event ∈ moved ↔ event ∈ before.hot ∧ event ∉ after.hot

namespace Moves

variable {before after last : EventLedger} {now : Int}

theorem refl (h : before.Sequenced) : Moves now before before where
  sequenced := h
  hot := List.Sublist.refl _
  cold := by
    refine ⟨[], (List.append_nil _).symm, ?_⟩
    intro event
    constructor
    · intro hmem
      exact absurd hmem List.not_mem_nil
    · rintro ⟨hhot, hnot⟩
      exact absurd hhot hnot

theorem trans (h : Moves now before after) (h' : Moves now after last) : Moves now before last where
  sequenced := h'.sequenced
  hot := h'.hot.trans h.hot
  cold := by
    rcases h.cold with ⟨first, hfirst, hfirstMem⟩
    rcases h'.cold with ⟨second, hsecond, hsecondMem⟩
    refine ⟨first ++ second, ?_, ?_⟩
    · rw [hsecond, hfirst, List.map_append, List.append_assoc]
    · intro event
      rw [List.mem_append, hfirstMem, hsecondMem]
      have hafter : event ∈ after.hot -> event ∈ before.hot := fun hmem => h.hot.subset hmem
      have hlast : event ∈ last.hot -> event ∈ after.hot := fun hmem => h'.hot.subset hmem
      tauto

theorem take (h : before.Sequenced) (eligible : WorkflowJobEvent -> Bool)
    (budget : Nat) (now : Int) :
    Moves now before (before.relocate ((before.hot.filter eligible).take budget) eligible now) where
  sequenced := h.relocate (selected_take before eligible budget) now
  hot := (Store.relocation_relocate before _ eligible now).hot
  cold := by
    refine ⟨_, relocate_cold (selected_take before eligible budget) h now, ?_⟩
    intro event
    rw [relocate_take_hot h]
    constructor
    · intro hselected
      refine ⟨(selected_take before eligible budget).sublist.subset hselected, ?_⟩
      exact fun hkept => hkept.right hselected
    · rintro ⟨hhot, hgone⟩
      by_contra hnot
      exact hgone ⟨hhot, hnot⟩

/-- One archive row has the sequence of a moved event, and it is that event. -/
theorem once (h : Moves now before after) {event : WorkflowJobEvent}
    (hbefore : event ∈ before.hot) (hafter : event ∉ after.hot) :
    after.cold.filter (fun entry => entry.1.sequence = event.sequence) = [(event, now)] := by
  rcases h.cold with ⟨moved, hcold, hmoved⟩
  have hmem : (event, now) ∈ after.cold := by
    rw [hcold]
    apply List.mem_append_right
    exact List.mem_map_of_mem ((hmoved event).mpr ⟨hbefore, hafter⟩)
  exact filter_key_eq_singleton h.sequenced.cold hmem

end Moves
end EventLedger

namespace Store

variable {s : Store}

/-!
# Reached ledgers
-/

theorem archiveTask_moves (acc : Store × Nat × Nat) (h : acc.1.ledger.Sequenced)
    (budget : Nat) (now : Int) (candidate : String × String) :
    EventLedger.Moves now acc.1.ledger (archiveTask budget now acc candidate).1.ledger := by
  unfold archiveTask
  split
  · exact EventLedger.Moves.refl h
  · dsimp only
    split
    · exact EventLedger.Moves.refl h
    · exact EventLedger.Moves.take h _ _ now

theorem archiveTasks_moves (acc : Store × Nat × Nat) (h : acc.1.ledger.Sequenced)
    (budget : Nat) (now : Int) (candidates : List (String × String)) :
    EventLedger.Moves now acc.1.ledger
      (candidates.foldl (archiveTask budget now) acc).1.ledger := by
  induction candidates generalizing acc with
  | nil => exact EventLedger.Moves.refl h
  | cons candidate rest ih =>
    have hfirst := archiveTask_moves acc h budget now candidate
    exact hfirst.trans (ih _ hfirst.sequenced)

theorem archive_moves (h : s.ledger.Sequenced) (maxTasks maxEvents : Nat) (now : Int) :
    EventLedger.Moves now s.ledger
      (s.archiveLifecycleFinalEvents maxTasks maxEvents now).1.ledger :=
  archiveTasks_moves (s, 0, 0) h _ now _

/-- The rollback events before a cutoff come first, so their range covers no other. -/
theorem archiveRollbackEvents_moves (h : s.ledger.Sequenced) (maxEvents keepRecent : Nat)
    (now : Int) :
    EventLedger.Moves now s.ledger (s.archiveRollbackEvents maxEvents keepRecent now).1.ledger := by
  have hprefix : (s.archivableRollbackEvents maxEvents keepRecent).IsPrefix
      (s.ledger.hot.filter isRollbackEvent) := by
    refine (List.take_prefix _ _).trans ?_
    split
    · exact EventLedger.filter_before_prefix (h.hot.sublist List.filter_sublist) _
    · split
      · exact List.prefix_refl _
      · exact List.nil_prefix
  have hmoves := EventLedger.Moves.take h isRollbackEvent
    (s.archivableRollbackEvents maxEvents keepRecent).length now
  rw [← List.prefix_iff_eq_take.mp hprefix] at hmoves
  unfold archiveRollbackEvents
  dsimp only
  split
  · exact .refl h
  · exact hmoves

theorem pruneArchivedEvents_sequenced (h : s.ledger.Sequenced) (olderThan : Int)
    (maxEvents : Nat) : (s.pruneArchivedEvents olderThan maxEvents).1.ledger.Sequenced where
  hot := h.hot
  cold := h.cold.sublist (List.filter_sublist.map _)
  apart := fun event hevent entry hentry =>
    h.apart event hevent entry (List.mem_of_mem_filter hentry)
  hotBound := h.hotBound
  coldBound := fun entry hentry => h.coldBound entry (List.mem_of_mem_filter hentry)

end Store

theorem Write.sequenced {p : Permit} {s s' : Store}
    (hrelocates : forall before after, ¬ p.relocates before after) (h : Write p s s')
    (hs : s.ledger.Sequenced) : s'.ledger.Sequenced := by
  cases h with
  | event event => exact hs.append event
  | relocate hrelocated => exact absurd hrelocated (hrelocates _ _)
  | _ => exact hs

variable {checkpoints : List WorkflowSnapshotAuthority}

theorem Op.step_sequenced {s : Store}
    (hsound : CheckpointsSound checkpoints s) (op : Op) (h : s.ledger.Sequenced) :
    (op.step checkpoints s).ledger.Sequenced := by
  have hwrites := Op.step_writes hsound op
  cases op with
  | archiveLifecycleFinalEvents maxTasks maxEvents now =>
    exact (Store.archive_moves h maxTasks maxEvents now).sequenced
  | archiveRollbackEvents maxEvents keepRecent now =>
    exact (Store.archiveRollbackEvents_moves h maxEvents keepRecent now).sequenced
  | pruneArchivedEvents olderThan maxEvents =>
    exact Store.pruneArchivedEvents_sequenced h olderThan maxEvents
  | _ =>
    exact hwrites.invariant (I := fun s => s.ledger.Sequenced)
      (fun _ _ hwrite => hwrite.sequenced (fun _ _ => id)) h

theorem System.sequenced_run (ops : List SystemOp) :
    (run System.step {} ops).store.ledger.Sequenced := by
  have hboth := System.permitted_run (I := fun _ s => s.ledger.Sequenced)
    (fun _ _ op hcoherent hs _ => Op.step_sequenced hcoherent.checkpoints op hs)
    (fun _ _ _ _ _ => id) (fun _ _ _ _ => id) Coherent.empty
    EventLedger.sequenced_empty (System.unrestricted {} ops)
  exact hboth.right

/-!
# Recorded events
-/

namespace EventLedger

/-- The events of both tables. -/
def recorded (ledger : EventLedger) : List WorkflowJobEvent :=
  ledger.hot ++ ledger.cold.map Prod.fst

variable {ledger before after : EventLedger} {now : Int}

theorem Sequenced.recorded (h : ledger.Sequenced) :
    (ledger.recorded.map WorkflowJobEvent.sequence).Nodup := by
  unfold EventLedger.recorded
  rw [List.map_append, List.map_map]
  refine List.nodup_append.mpr ⟨?_, h.cold, ?_⟩
  · exact List.pairwise_map.mpr (h.hot.imp Nat.ne_of_lt)
  · intro sequence hhot other hcold hsame
    rcases List.mem_map.mp hhot with ⟨event, hevent, rfl⟩
    rcases List.mem_map.mp hcold with ⟨entry, hentry, rfl⟩
    exact h.apart event hevent entry hentry hsame.symm

theorem Moves.recorded (h : Moves now before after) : before.recorded ⊆ after.recorded := by
  rcases h.cold with ⟨moved, hcold, hmoved⟩
  intro event hevent
  unfold EventLedger.recorded at hevent ⊢
  rw [hcold, List.map_append, List.map_map, List.mem_append, List.mem_append]
  rcases List.mem_append.mp hevent with hhot | hold
  · by_cases hstays : event ∈ after.hot
    · exact .inl hstays
    · exact .inr (Or.inr (List.mem_map_of_mem ((hmoved event).mpr ⟨hhot, hstays⟩)))
  · exact .inr (Or.inl hold)

end EventLedger

/-- All operations but pruning keep what is archived. -/
def Op.keepsArchive : Op -> Bool
  | pruneArchivedEvents _ _ => false
  | _ => true

theorem Op.step_recorded {s : Store}
    (hsound : CheckpointsSound checkpoints s) {op : Op} (hkeeps : op.keepsArchive = true)
    (h : s.ledger.Sequenced) :
    s.ledger.recorded ⊆ (op.step checkpoints s).ledger.recorded := by
  have hwrites := Op.step_writes hsound op
  cases op with
  | archiveLifecycleFinalEvents maxTasks maxEvents now =>
    exact (Store.archive_moves h maxTasks maxEvents now).recorded
  | archiveRollbackEvents maxEvents keepRecent now =>
    exact (Store.archiveRollbackEvents_moves h maxEvents keepRecent now).recorded
  | pruneArchivedEvents => cases hkeeps
  | _ =>
    refine hwrites.relation (R := fun s s' => s.ledger.recorded ⊆ s'.ledger.recorded)
      (fun _ => List.Subset.refl _) (fun _ _ _ => List.Subset.trans) ?_
    intro before after hwrite
    cases hwrite with
    | event event =>
      exact (List.sublist_append_left _ _).append (List.Sublist.refl _) |>.subset
    | relocate hrelocated => exact absurd hrelocated id
    | _ => exact List.Subset.refl _

/-- Only pruning loses an event, and every recorded event has a sequence of its own. -/
theorem recorded_run (before after : List SystemOp)
    (hkeeps : Guarded System.step (System.Permitted fun _ _ op => op.keepsArchive = true)
      (run System.step {} before) after) :
    let recorded := (run System.step (run System.step {} before) after).store.ledger.recorded
    (run System.step {} before).store.ledger.recorded ⊆ recorded ∧
      (recorded.map WorkflowJobEvent.sequence).Nodup := by
  have hkept := (System.permitted_run (I := fun _ s => s.ledger.Sequenced ∧
      (run System.step {} before).store.ledger.recorded ⊆ s.ledger.recorded)
    (fun _ _ op hcoherent h hop => ⟨Op.step_sequenced hcoherent.checkpoints op h.left,
      List.Subset.trans h.right (Op.step_recorded hcoherent.checkpoints hop h.left)⟩)
    (fun _ _ _ _ _ => id) (fun _ _ _ _ => id) (System.coherent_run before)
    ⟨System.sequenced_run before, List.Subset.refl _⟩ hkeeps).right
  exact ⟨hkept.right, hkept.left.recorded⟩

/-!
# One call
-/

namespace Store

variable {s : Store}

/-- The event belongs to a task with an archived retirement. -/
def isArchivable (s : Store) (event : WorkflowJobEvent) : Bool :=
  s.retirements.any (fun retirement =>
    retirement.authorityKind = .lifecycleFinal ∧
      retirement.decisionRevision = lifecycleFinalArchived ∧
      isTaskEvent retirement.projectId retirement.taskId event)

def archivableEvents (s : Store) : List WorkflowJobEvent :=
  s.ledger.hot.filter s.isArchivable

/-- The task has events left in the hot table. -/
def hasHotEvents (s : Store) (candidate : String × String) : Bool :=
  s.ledger.hot.any (isTaskEvent candidate.1 candidate.2)

/-- One of the tasks that the call looks at has something left to move. -/
def Unstarved (s : Store) (maxTasks : Nat) : Prop :=
  s.archivableEvents ≠ [] -> exists candidate, candidate ∈ s.archivalCandidates maxTasks ∧
      s.hasHotEvents candidate = true

/-- What a call is to leave: some progress, and each moved event in the archive once. -/
structure Archives (s s' : Store) (now : Int) : Prop where
  progress : s.archivableEvents ≠ [] ->
    exists event, event ∈ s.archivableEvents ∧ event ∉ s'.ledger.hot
  once : forall event, event ∈ s.ledger.hot -> event ∉ s'.ledger.hot ->
    s'.ledger.cold.filter (fun entry => entry.1.sequence = event.sequence) = [(event, now)]

variable {candidate : String × String}

theorem mem_archivalCandidates {maxTasks : Nat} (h : candidate ∈ s.archivalCandidates maxTasks) :
    exists retirement, retirement ∈ s.retirements ∧ retirement.authorityKind = .lifecycleFinal ∧
      retirement.decisionRevision = lifecycleFinalArchived ∧
      candidate = (retirement.projectId, retirement.taskId) := by
  have hmem := List.mem_of_mem_take h
  rw [List.mem_insertionSort, List.mem_dedup, List.mem_map] at hmem
  rcases hmem with ⟨retirement, hretirement, rfl⟩
  rcases List.mem_filter.mp hretirement with ⟨hstored, hkind⟩
  rw [decide_eq_true_eq] at hkind
  exact ⟨retirement, hstored, hkind.left, hkind.right, rfl⟩

theorem isArchivable_of_candidate {maxTasks : Nat}
    {event : WorkflowJobEvent} (h : candidate ∈ s.archivalCandidates maxTasks)
    (hevent : isTaskEvent candidate.1 candidate.2 event = true) :
    s.isArchivable event = true := by
  rcases mem_archivalCandidates h with ⟨retirement, hstored, hkind, hrevision, rfl⟩
  unfold isArchivable
  rw [List.any_eq_true]
  exact ⟨retirement, hstored, decide_eq_true ⟨hkind, hrevision, hevent⟩⟩

variable {budget : Nat}

theorem archiveTask_idle (acc : Store × Nat × Nat) {now : Int}
    (h : acc.1.hasHotEvents candidate = false) :
    archiveTask budget now acc candidate = acc := by
  have hnone : acc.1.ledger.hot.filter (isTaskEvent candidate.1 candidate.2) = [] := by
    rw [List.filter_eq_nil_iff]
    unfold hasHotEvents at h
    rw [List.any_eq_false] at h
    exact h
  unfold archiveTask
  split
  · rfl
  · dsimp only
    rw [hnone, List.take_nil]
    rfl

theorem archiveTask_first (acc : Store × Nat × Nat) (now : Int) (hbudget : acc.2.2 < budget)
    (hsequenced : acc.1.ledger.Sequenced) (h : acc.1.hasHotEvents candidate = true) :
    exists event, event ∈ acc.1.ledger.hot ∧ isTaskEvent candidate.1 candidate.2 event = true ∧
      event ∉ (archiveTask budget now acc candidate).1.ledger.hot := by
  cases hselected : (acc.1.ledger.hot.filter
      (isTaskEvent candidate.1 candidate.2)).take (budget - acc.2.2) with
  | nil =>
    rw [List.take_eq_nil_iff] at hselected
    rcases hselected with hzero | hnone
    · omega
    · rw [List.filter_eq_nil_iff] at hnone
      unfold hasHotEvents at h
      rcases List.any_eq_true.mp h with ⟨event, hevent, hmatch⟩
      exact absurd hmatch (hnone event hevent)
  | cons event rest =>
    have hmem : event ∈ (acc.1.ledger.hot.filter
        (isTaskEvent candidate.1 candidate.2)).take (budget - acc.2.2) := by
      rw [hselected]
      exact List.mem_cons_self
    rcases List.mem_filter.mp (List.mem_of_mem_take hmem) with ⟨hhot, hmatch⟩
    refine ⟨event, hhot, hmatch, ?_⟩
    unfold archiveTask
    rw [if_neg (Nat.not_le_of_lt hbudget)]
    dsimp only
    rw [if_neg (by rw [hselected]; exact Bool.false_ne_true)]
    intro hkept
    exact ((EventLedger.relocate_take_hot hsequenced _ _ now event).mp hkept).right hmem

/-- A call moves an event exactly when one of its tasks has one. -/
theorem archiveTasks_progress (hbudget : 0 < budget) (now : Int)
    (hsequenced : s.ledger.Sequenced) (candidates : List (String × String))
    (h : exists candidate, candidate ∈ candidates ∧ s.hasHotEvents candidate = true) :
    exists candidate, candidate ∈ candidates ∧ exists event, event ∈ s.ledger.hot ∧
      isTaskEvent candidate.1 candidate.2 event = true ∧
      event ∉ (candidates.foldl (archiveTask budget now) (s, 0, 0)).1.ledger.hot := by
  induction candidates with
  | nil =>
    rcases h with ⟨_, hmem, _⟩
    cases hmem
  | cons candidate rest ih =>
    rw [List.foldl_cons]
    cases hhot : s.hasHotEvents candidate with
    | true =>
      rcases archiveTask_first (s, 0, 0) now hbudget hsequenced hhot
        with ⟨event, hevent, hmatch, hgone⟩
      refine ⟨candidate, List.mem_cons_self, event, hevent, hmatch, ?_⟩
      intro hkept
      have hfirst := archiveTask_moves (s, 0, 0) hsequenced budget now candidate
      exact hgone ((archiveTasks_moves _ hfirst.sequenced budget now rest).hot.subset hkept)
    | false =>
      rw [archiveTask_idle (s, 0, 0) hhot]
      rcases h with ⟨other, hother, hotherHot⟩
      have hrest : other ∈ rest := by
        rcases List.mem_cons.mp hother with rfl | hrest
        · rw [hhot] at hotherHot
          cases hotherHot
        · exact hrest
      rcases ih ⟨other, hrest, hotherHot⟩ with ⟨found, hfound, hmoved⟩
      exact ⟨found, List.mem_cons_of_mem _ hfound, hmoved⟩

theorem archiveTasks_idle (now : Int) {candidates : List (String × String)}
    (h : forall candidate, candidate ∈ candidates -> s.hasHotEvents candidate = false) :
    candidates.foldl (archiveTask budget now) (s, 0, 0) = (s, 0, 0) := by
  induction candidates with
  | nil => rfl
  | cons candidate rest ih =>
    rw [List.foldl_cons, archiveTask_idle (s, 0, 0) (h candidate List.mem_cons_self)]
    exact ih (fun other hother => h other (List.mem_cons_of_mem _ hother))

theorem archives_iff (h : s.ledger.Sequenced) (maxTasks maxEvents : Nat) (now : Int) :
    Archives s (s.archiveLifecycleFinalEvents maxTasks maxEvents now).1 now ↔
      s.Unstarved maxTasks := by
  have hbudget : 0 < max 1 maxEvents := Nat.lt_of_lt_of_le Nat.zero_lt_one (Nat.le_max_left _ _)
  constructor
  · intro harchives hsome
    by_contra hidle
    have hnone : forall candidate, candidate ∈ s.archivalCandidates maxTasks ->
        s.hasHotEvents candidate = false := by
      intro candidate hcandidate
      rw [Bool.eq_false_iff]
      exact fun hhot => hidle ⟨candidate, hcandidate, hhot⟩
    rcases harchives.progress hsome with ⟨event, hevent, hgone⟩
    unfold archiveLifecycleFinalEvents at hgone
    rw [archiveTasks_idle now hnone] at hgone
    exact hgone (List.mem_of_mem_filter hevent)
  · intro hunstarved
    constructor
    · intro hsome
      rcases archiveTasks_progress hbudget now h _ (hunstarved hsome) with
        ⟨candidate, hcandidate, event, hhot, hmatch, hgone⟩
      exact ⟨event, List.mem_filter.mpr ⟨hhot, isArchivable_of_candidate hcandidate hmatch⟩, hgone⟩
    · intro event hbefore hafter
      exact (archive_moves h maxTasks maxEvents now).once hbefore hafter

/-!
# Repeated calls
-/

theorem archiveTasks_retirements (budget : Nat) (now : Int) (acc : Store × Nat × Nat)
    (candidates : List (String × String)) :
    (candidates.foldl (archiveTask budget now) acc).1.retirements = acc.1.retirements := by
  induction candidates generalizing acc with
  | nil => rfl
  | cons candidate rest ih =>
    rw [List.foldl_cons, ih]
    unfold archiveTask
    split
    · rfl
    · dsimp only
      split
      · rfl
      · rfl

structure ArchiveCall where
  maxTasks : Nat
  maxEvents : Nat
  now : Int
  deriving DecidableEq

def archiveStep (s : Store) (call : ArchiveCall) : Store :=
  (s.archiveLifecycleFinalEvents call.maxTasks call.maxEvents call.now).1

theorem archiveStep_archivable (s : Store) (call : ArchiveCall) :
    (s.archiveStep call).archivableEvents =
      (s.archiveStep call).ledger.hot.filter s.isArchivable := by
  have hretirements : (s.archiveStep call).retirements = s.retirements :=
    archiveTasks_retirements _ _ (s, 0, 0) _
  unfold archivableEvents
  congr 1
  funext event
  unfold isArchivable
  rw [hretirements]

theorem archiveStep_lt (h : s.ledger.Sequenced) {call : ArchiveCall}
    (hunstarved : s.Unstarved call.maxTasks) (hsome : s.archivableEvents ≠ []) :
    (s.archiveStep call).archivableEvents.length < s.archivableEvents.length := by
  rw [archiveStep_archivable]
  have hmoves := archive_moves h call.maxTasks call.maxEvents call.now
  have hsublist := hmoves.hot.filter s.isArchivable
  apply Nat.lt_of_le_of_ne hsublist.length_le
  intro hlength
  rcases ((archives_iff h call.maxTasks call.maxEvents call.now).mpr
    hunstarved).progress hsome with ⟨event, hevent, hgone⟩
  have hsame := hsublist.eq_of_length hlength
  unfold archivableEvents at hevent
  rw [← hsame] at hevent
  exact hgone (List.mem_of_mem_filter hevent)

/-- Calls that are not starved drain what the first of them finds. -/
theorem archives_drain (h : s.ledger.Sequenced) {calls : List ArchiveCall}
    (hunstarved : Guarded archiveStep (fun s call => s.Unstarved call.maxTasks) s calls)
    (hlength : s.archivableEvents.length ≤ calls.length) :
    (run archiveStep s calls).archivableEvents = [] := by
  induction calls generalizing s with
  | nil => exact List.length_eq_zero_iff.mp (Nat.le_zero.mp hlength)
  | cons call rest ih =>
    have hnext : (s.archiveStep call).ledger.Sequenced :=
      (archive_moves h call.maxTasks call.maxEvents call.now).sequenced
    apply ih hnext hunstarved.right
    by_cases hsome : s.archivableEvents = []
    · rw [archiveStep_archivable]
      have hmoves := archive_moves h call.maxTasks call.maxEvents call.now
      have hle := (hmoves.hot.filter s.isArchivable).length_le
      unfold archivableEvents at hsome
      rw [hsome] at hle
      exact Nat.le_trans hle (Nat.zero_le _)
    · have hless := archiveStep_lt h hunstarved.left hsome
      rw [List.length_cons] at hlength
      omega

end Store

/--
In every reached store a call archives as it should exactly when it is not starved,
and as many calls as there are eligible events drain them when none is starved.
-/
theorem archival_progress_iff (ops : List SystemOp) :
    let s := (run System.step {} ops).store
    (forall maxTasks maxEvents now,
      Store.Archives s (s.archiveLifecycleFinalEvents maxTasks maxEvents now).1 now ↔
        s.Unstarved maxTasks) ∧
      forall calls : List Store.ArchiveCall,
        Guarded Store.archiveStep (fun s call => s.Unstarved call.maxTasks) s calls ->
        s.archivableEvents.length ≤ calls.length ->
          (run Store.archiveStep s calls).archivableEvents = [] := by
  intro s
  have hsequenced := System.sequenced_run ops
  exact ⟨fun maxTasks maxEvents now => Store.archives_iff hsequenced maxTasks maxEvents now,
    fun _ => Store.archives_drain hsequenced⟩

/-!
# A drained task in front

The first of two archived tasks is drained, and the task budget admits one.
-/

def secondSpec : WorkflowJobSpec :=
  { sampleSpec with taskId := "task-2", idempotencyKey := "key-2" }

def firstTaskDrained : List SystemOp :=
  [.op .allocateSnapshotGeneration, .op (.acceptSnapshotGeneration 1),
    .op (.enqueue sampleSpec "job-1" 1),
    .op (.enqueue secondSpec "job-2" 1),
    .op (.schedule (.recordLifecycleFinalAuthority "project-1" "task-1" "Archived" 1 2)),
    .op (.schedule (.recordLifecycleFinalAuthority "project-1" "task-2" "Archived" 1 2)),
    .op (.archiveLifecycleFinalEvents 1 5000 3)]

theorem firstTaskDrained_starves :
    let s := (run System.step {} firstTaskDrained).store
    (s.archiveLifecycleFinalEvents 1 5000 4).2 = (0, 0) ∧
      ¬ Store.Archives s (s.archiveLifecycleFinalEvents 1 5000 4).1 4 := by
  have hrun : ((run System.step {} firstTaskDrained).store.archiveLifecycleFinalEvents 1
      5000 4).2 = (0, 0) ∧
    ((run System.step {} firstTaskDrained).store.archiveLifecycleFinalEvents 1 5000
      4).1.ledger = (run System.step {} firstTaskDrained).store.ledger ∧
    (run System.step {} firstTaskDrained).store.archivableEvents ≠ [] := by
    decide +kernel
  rcases hrun with ⟨hcounts, hledger, hsome⟩
  refine ⟨hcounts, ?_⟩
  intro harchives
  rcases harchives.progress hsome with ⟨event, hevent, hgone⟩
  rw [hledger] at hgone
  exact hgone (List.mem_of_mem_filter hevent)

theorem recorded_firstTaskDrained :
    let s := run System.step {} firstTaskDrained
    let recorded := (s.step (.op (.archiveRollbackEvents 5000 0 4))).store.ledger.recorded
    s.store.ledger.recorded ⊆ recorded ∧ (recorded.map WorkflowJobEvent.sequence).Nodup :=
  recorded_run firstTaskDrained [.op (.archiveRollbackEvents 5000 0 4)] ⟨⟨rfl, trivial⟩, trivial⟩

end WorkflowJobs
end Oompah
