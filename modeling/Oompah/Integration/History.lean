import Mathlib.Data.Prod.Lex
import Mathlib.Data.String.Basic
import Oompah.Foundation.Paging
import Oompah.Integration.Writes

/-!
# History sequences and their readers

Every landing takes the next history sequence.  A reader pages the integrated
rows by a cursor over that sequence while the queue is written, and a landing
that stands until the reader is done is returned exactly once.
-/

namespace Oompah
namespace Integration

open Foundation
open IntegrationQueueStore (cursorFor decodeCursor jsonSpace jsonTrim)
open IntegrationQueueItem (historySequence)
open IntegrationQueueStore.ItemsRequest (historyBefore historyOrder selects)

variable {rt : QueueRuntime}

/-!
# Assigned sequences
-/

/-- The sequence a row is integrated at. -/
def landingAt (s : IntegrationQueueStore) (k : RowKey) : Option Nat :=
  ((s.get k).filter (fun row => row.state = .integrated)).map historySequence

/-- The sequences an operation gives to the rows it lands. -/
def assigned (s s' : IntegrationQueueStore) : List Nat :=
  (s'.rows.filter (fun row => row.state = .integrated &&
    landingAt s row.key ≠ some row.historySequence)).map historySequence

def assignedAlong (rt : QueueRuntime) : IntegrationQueueStore -> List QueueOp -> List Nat
  | _, [] => []
  | s, op :: rest =>
    assigned s (op.apply rt s) ++ assignedAlong rt (op.apply rt s) rest

variable {row : IntegrationQueueItem} {s : IntegrationQueueStore}

theorem landingAt_of_mem (h : WellKept s) (hrow : row ∈ s.rows) (hstate : row.state = .integrated) :
    landingAt s row.key = some row.historySequence := by
  unfold landingAt
  rw [h.get_of_mem hrow]
  simp [hstate]

theorem Wrote.assigned {x : Reach} {s s' : IntegrationQueueStore} (h : Wrote x s s')
    (hkept : WellKept s) {sequence : Nat}
    (hassigned : sequence ∈ Integration.assigned s s') :
    s'.history = s.history + 1 ∧ sequence = s'.history := by
  rcases List.mem_map.mp hassigned with ⟨row', hmem, rfl⟩
  rcases List.mem_filter.mp hmem with ⟨hrow', hnew⟩
  rw [Bool.and_eq_true, decide_eq_true_eq, decide_eq_true_eq] at hnew
  rcases h.integrated hrow' hnew.left with
    ⟨row, hrow, hkey, hlanded, hhistory, _⟩ | ⟨_, hcounted, hhistory⟩
  · have hold := landingAt_of_mem hkept hrow hlanded
    rw [hkey, hhistory] at hold
    exact absurd hold hnew.right
  · exact ⟨hcounted, hhistory⟩

theorem Wrote.assigned_length {x : Reach} {s s' : IntegrationQueueStore}
    (h : Wrote x s s') (hkept : WellKept s) :
    (Integration.assigned s s').length ≤ 1 := by
  have hkept' := hkept.wrote h
  have hsame : forall row, row ∈ s'.rows.filter (fun row => row.state = .integrated &&
      landingAt s row.key ≠ some row.historySequence) -> x.landing = some row.key := by
    intro row hmem
    rcases List.mem_filter.mp hmem with ⟨hrow, hnew⟩
    rw [Bool.and_eq_true, decide_eq_true_eq, decide_eq_true_eq] at hnew
    rcases h.integrated hrow hnew.left with
      ⟨old, hold, hkey, hlanded, hhistory, _⟩ | ⟨hlanding, _⟩
    · have hbefore := landingAt_of_mem hkept hold hlanded
      rw [hkey, hhistory] at hbefore
      exact absurd hbefore hnew.right
    · exact hlanding
  unfold Integration.assigned
  have hnodup : ((s'.rows.filter (fun row => row.state = .integrated &&
      landingAt s row.key ≠ some row.historySequence)).map IntegrationQueueItem.key).Nodup :=
    hkept'.keys.sublist (List.filter_sublist.map _)
  generalize s'.rows.filter (fun row => row.state = .integrated &&
    landingAt s row.key ≠ some row.historySequence) = landed at hsame hnodup ⊢
  match landed, hsame, hnodup with
  | [], _, _ => exact Nat.zero_le 1
  | [_], _, _ => exact Nat.le_refl 1
  | first :: second :: rest, hsame, hnodup =>
    have hfirst := hsame first (by simp)
    have hsecond := hsame second (by simp)
    rw [hfirst] at hsecond
    simp [Option.some.inj hsecond] at hnodup

theorem assignedAlong_above (h : WellKept s) (ops : List QueueOp) :
    forall sequence, sequence ∈ assignedAlong rt s ops -> s.history < sequence := by
  induction ops generalizing s with
  | nil => exact fun sequence hmem => absurd hmem List.not_mem_nil
  | cons op rest ih =>
    intro sequence hmem
    have hwrote := op.apply_wrote rt h
    have hle := hwrote.history_le
    rcases List.mem_append.mp hmem with hnow | hlater
    · rcases hwrote.assigned h hnow with ⟨hcounted, rfl⟩
      omega
    · have habove := ih (h.step rt op) sequence hlater
      omega

theorem assignedAlong_increasing (h : WellKept s)
    (ops : List QueueOp) : (assignedAlong rt s ops).Pairwise (· < ·) := by
  induction ops generalizing s with
  | nil => exact List.Pairwise.nil
  | cons op rest ih =>
    have hwrote := op.apply_wrote rt h
    have hnext := h.step rt op
    apply List.pairwise_append.mpr
    refine ⟨?_, ih hnext, ?_⟩
    · have hlength := hwrote.assigned_length h
      generalize assigned s (op.apply rt s) = now at hlength
      match now, hlength with
      | [], _ => exact List.Pairwise.nil
      | [sequence], _ => exact List.pairwise_singleton _ sequence
    · intro first hfirst second hsecond
      rcases hwrote.assigned h hfirst with ⟨_, rfl⟩
      exact assignedAlong_above hnext rest second hsecond

/-- The landing a sequence of a row that is not integrated was given to was taken back. -/
theorem leftover_takenBack (ops : List QueueOp)
    (hrow : row ∈ (IntegrationQueueStore.after rt {} ops).rows)
    (hstate : row.state ≠ .integrated) (hpositive : 0 < row.historySequence) :
    exists before op later, ops = before ++ op :: later ∧ op.takesBack = some row.key ∧
      landingAt (IntegrationQueueStore.after rt {} before) row.key = some row.historySequence := by
  induction ops using List.reverseRecOn generalizing row with
  | nil => exact absurd hrow List.not_mem_nil
  | append_singleton ops op ih =>
    have hkept := wellKept_run rt ops
    unfold IntegrationQueueStore.after at hrow hkept
    rw [run_snoc] at hrow
    rcases (op.apply_wrote rt hkept).leftover hrow hstate hpositive with
      ⟨old, hold, hkey, hsame, htakes⟩
    rw [← hkey, ← hsame]
    by_cases hlanded : old.state = .integrated
    · -- This operation took the landing back.
      refine ⟨ops, op, [], rfl, ?_, landingAt_of_mem hkept hold hlanded⟩
      rw [hkey]
      exact htakes hlanded
    · rcases ih hold hlanded (hsame ▸ hpositive) with ⟨before, taken, later, rfl, hback, hlanding⟩
      refine ⟨before, taken, later ++ [op], ?_, hback, hlanding⟩
      rw [List.append_assoc, List.cons_append]

/-!
# Cursors
-/

theorem decodeCursor_repr (sequence : Nat) : decodeCursor sequence.repr = some sequence := by
  have hdigits : forall c, c ∈ sequence.repr.toList -> c.isDigit = true := by
    intro c hc
    rw [Nat.toList_repr] at hc
    exact Nat.isDigit_of_mem_toDigits (by decide) (by decide) hc
  have hspace : forall c, c.isDigit = true -> jsonSpace c = false := by
    intro c hdigit
    rw [Bool.eq_false_iff]
    intro hspace
    simp only [jsonSpace, Bool.or_eq_true, decide_eq_true_eq] at hspace
    rcases hspace with ((rfl | rfl) | rfl) | rfl <;> cases hdigit
  have hkeeps : forall text : List Char, (forall c, c ∈ text -> c.isDigit = true) ->
      text.dropWhile jsonSpace = text := by
    intro text htext
    cases text with
    | nil => rfl
    | cons c rest =>
      rw [List.dropWhile_cons_of_neg]
      rw [hspace c (htext c List.mem_cons_self)]
      exact Bool.false_ne_true
  have htrim : jsonTrim sequence.repr.toList = sequence.repr.toList := by
    unfold jsonTrim
    rw [hkeeps _ hdigits, hkeeps _ (fun c hc => hdigits c (List.mem_reverse.mp hc)),
      List.reverse_reverse]
  have hsign : sequence.repr.toList ≠ ['-', '0'] := by
    intro hsign
    have hminus := hdigits '-' (by rw [hsign]; exact List.mem_cons_self)
    cases hminus
  unfold decodeCursor
  rw [htrim, if_neg hsign, Nat.toList_repr, Nat.ofDigitChars_ten_toDigits, if_pos rfl]

/-!
# Readers

A reader asks for the integrated rows after its cursor, and moves the cursor
past the last row it was given.
-/

structure Reader where
  store : IntegrationQueueStore
  cursor : Option String := none
  returned : List IntegrationQueueItem := []

inductive ReaderStep where
  | write (op : QueueOp)
  | page (limit : Option Int)

/-- The rows a reader is interested in: all, or those of one project or epic. -/
structure Scope where
  projectId : Option String := none
  epicId : Option String := none

def Scope.includes (x : Scope) (row : IntegrationQueueItem) : Bool :=
  x.projectId.all (row.projectId = ·) && x.epicId.all (row.epicId = ·)

namespace Reader

def request (x : Scope) (m : Reader) (limit : Option Int) : IntegrationQueueStore.ItemsRequest :=
  { projectId := x.projectId
    epicId := x.epicId
    states := some ["integrated"]
    limit := limit
    after := m.cursor }

def page (x : Scope) (m : Reader) (limit : Option Int) : List IntegrationQueueItem :=
  m.store.items (m.request x limit)

def step (rt : QueueRuntime) (x : Scope) (m : Reader) : ReaderStep -> Reader
  | .write op => { m with store := op.apply rt m.store }
  | .page limit =>
    { m with
      cursor :=
        ((m.page x limit).getLast?.map IntegrationQueueStore.cursorFor).or m.cursor
      returned := m.returned ++ m.page x limit }

/-- How many of the rows returned so far are the row of a key. -/
def timesReturned (m : Reader) (k : RowKey) : Nat :=
  m.returned.countP (fun row => row.key = k)

/-- The history sequence a cursor stands at. -/
def position (m : Reader) : Nat :=
  (m.cursor.bind IntegrationQueueStore.decodeCursor).getD 0

end Reader

/-- The sequence a row of the reader's scope is integrated at. -/
def visibleAt (x : Scope) (s : IntegrationQueueStore) (k : RowKey) : Option Nat :=
  ((s.get k).filter (fun row => row.state = .integrated && x.includes row)).map historySequence

/-- A step leaves a row integrated at the sequence it has. -/
def Reader.keepsVisible (rt : QueueRuntime) (x : Scope)
    (k : RowKey) (m : Reader) (a : ReaderStep) : Prop :=
  visibleAt x (m.step rt x a).store k = visibleAt x m.store k

instance (x : Scope) (k : RowKey) (m : Reader) (a : ReaderStep) :
    Decidable (m.keepsVisible rt x k a) :=
  inferInstanceAs (Decidable (_ = _))

variable {x : Scope}

theorem visibleAt_eq_some {k : RowKey} {sequence : Nat} :
    visibleAt x s k = some sequence <-> exists row, s.get k = some row ∧ row.state = .integrated ∧
        x.includes row = true ∧ row.historySequence = sequence := by
  unfold visibleAt
  simp [Option.filter_eq_some_iff, and_assoc]

/-!
# One page
-/

theorem value_integrated {state : QueueState} :
    state.value ∈ ["integrated"] <-> state = .integrated := by
  cases state <;> decide

theorem historyBefore_iff {a b : IntegrationQueueItem} :
    historyBefore a b = true <-> toLex (a.historySequence, toLex (a.projectId, a.taskId)) ≤
        toLex (b.historySequence, toLex (b.projectId, b.taskId)) := by
  simp [historyBefore, Prod.Lex.toLex_le_toLex]

instance : Std.Total (fun a b : IntegrationQueueItem =>
    historyBefore a b = true) where
  total a b := by
    rw [historyBefore_iff, historyBefore_iff]
    exact le_total _ _

instance : IsTrans IntegrationQueueItem (fun a b =>
    historyBefore a b = true) where
  trans a b c := by
    rw [historyBefore_iff, historyBefore_iff, historyBefore_iff]
    exact le_trans

variable {m : Reader}

namespace Reader

/-- The integrated rows of the scope after the cursor, in history order. -/
def listing (x : Scope) (m : Reader) : List IntegrationQueueItem :=
  (m.store.rows.filter (m.request x none).selects).insertionSort
    (fun a b => historyBefore a b = true)

theorem page_eq (x : Scope) (m : Reader) (limit : Option Int) :
    m.page x limit = Foundation.page (limit.map Int.toNat) (m.listing x) := by
  have horder : (m.request x limit).historyOrder = true := by
    unfold historyOrder request
    rw [Bool.or_eq_true]
    right
    show ["integrated"].all (fun value => (strip value).toLower = "integrated") = true
    decide +kernel
  unfold page IntegrationQueueStore.items
  dsimp only
  rw [if_pos horder]
  cases limit with
  | none => rfl
  | some n => rfl

theorem listing_sorted (x : Scope) (m : Reader) : SortedBy historySequence (m.listing x) := by
  have hsorted := List.pairwise_insertionSort (fun a b => historyBefore a b = true)
    (m.store.rows.filter (m.request x none).selects)
  apply List.Pairwise.imp _ hsorted
  intro a b hbefore
  rw [historyBefore_iff, Prod.Lex.toLex_le_toLex] at hbefore
  rcases hbefore with hless | ⟨hsame, _⟩
  · exact hless.le
  · exact hsame.le

theorem mem_listing (hkept : WellKept m.store) :
    row ∈ m.listing x <-> row ∈ m.store.rows ∧ row.state = .integrated ∧
      x.includes row = true ∧ m.position < row.historySequence := by
  unfold listing
  rw [List.mem_insertionSort, List.mem_filter]
  apply and_congr_right
  intro hrow
  unfold selects IntegrationQueueStore.ItemsRequest.cursor request position Scope.includes
  simp only [Bool.and_eq_true, Option.all_some, decide_eq_true_eq, value_integrated]
  constructor
  · rintro ⟨⟨hincludes, hstate⟩, hcursor⟩
    refine ⟨hstate, hincludes, ?_⟩
    cases hdecoded : m.cursor.bind decodeCursor with
    | none => exact hkept.positive row hrow hstate
    | some value =>
      rw [hdecoded] at hcursor
      simpa using hcursor
  · rintro ⟨hstate, hincludes, hposition⟩
    refine ⟨⟨hincludes, hstate⟩, ?_⟩
    cases hdecoded : m.cursor.bind decodeCursor with
    | none => rfl
    | some value =>
      rw [hdecoded] at hposition
      simpa using hposition

theorem of_mem_page (hkept : WellKept m.store) {limit : Option Int} (hrow : row ∈ m.page x limit) :
    row ∈ m.store.rows ∧ row.state = .integrated ∧ x.includes row = true ∧
      m.position < row.historySequence := by
  rw [page_eq] at hrow
  exact (mem_listing hkept).mp (mem_of_mem_page hrow)

theorem listing_keys (x : Scope) (hkept : WellKept m.store) :
    ((m.listing x).map IntegrationQueueItem.key).Nodup := by
  have hperm := List.perm_insertionSort (fun a b => historyBefore a b = true)
    (m.store.rows.filter (m.request x none).selects)
  apply (hperm.map IntegrationQueueItem.key).nodup_iff.mpr
  exact hkept.keys.sublist (List.filter_sublist.map _)

/-- The cursor after a page stands at the page's last row, or where it stood. -/
theorem position_page (rt : QueueRuntime) (x : Scope) (m : Reader) (limit : Option Int) :
    (m.page x limit = [] ∧ (m.step rt x (.page limit)).position = m.position) ∨
      exists last, last ∈ m.page x limit ∧ (m.page x limit).getLast? = some last ∧
        (m.step rt x (.page limit)).position = last.historySequence := by
  have hcursor : (m.step rt x (.page limit)).cursor =
      ((m.page x limit).getLast?.map cursorFor).or m.cursor := rfl
  cases hlast : (m.page x limit).getLast? with
  | none =>
    left
    refine ⟨List.getLast?_eq_none_iff.mp hlast, ?_⟩
    unfold position
    rw [hcursor, hlast]
    rfl
  | some last =>
    right
    refine ⟨last, List.mem_of_getLast? hlast, rfl, ?_⟩
    unfold position
    rw [hcursor, hlast, Option.map_some, Option.some_or, Option.bind_some]
    unfold cursorFor
    rw [decodeCursor_repr]
    rfl

theorem timesReturned_page (x : Scope) (m : Reader) (limit : Option Int) (k : RowKey) :
    (m.step rt x (.page limit)).timesReturned k =
      m.timesReturned k + (m.page x limit).countP (fun row => row.key = k) := by
  unfold timesReturned step
  rw [List.countP_append]

end Reader

/-!
# Landings that stand

A landing that stands is either still ahead of the cursor and not returned, or
behind the cursor and returned once.
-/

structure Tracked (x : Scope) (k : RowKey) (sequence base : Nat) (m : Reader) :
    Prop where
  wellKept : WellKept m.store
  visible : visibleAt x m.store k = some sequence
  counted : m.position < sequence ∧ m.timesReturned k = base ∨
    sequence ≤ m.position ∧ m.timesReturned k = base + 1

namespace Tracked

variable {x : Scope} {k : RowKey} {sequence base : Nat} {m : Reader}

/-- A page that has the row has it once, and ends at or after it. -/
theorem onPage (h : Tracked x k sequence base m) (limit : Option Int)
    (hrow : row ∈ m.page x limit) (hkey : row.key = k) :
    (m.page x limit).countP (fun row => row.key = k) = 1 := by
  have hnodup : ((m.page x limit).map IntegrationQueueItem.key).Nodup := by
    rw [Reader.page_eq]
    exact (m.listing_keys x h.wellKept).sublist ((page_sublist _ _).map _)
  have hcount := List.nodup_iff_count_le_one.mp hnodup k
  rw [List.count, List.countP_map] at hcount
  apply Nat.le_antisymm
  · calc (m.page x limit).countP (fun row => row.key = k)
        = (m.page x limit).countP ((· == k) ∘ IntegrationQueueItem.key) := by
          apply List.countP_congr
          intro row _
          simp
      _ ≤ 1 := hcount
  · exact List.countP_pos_iff.mpr ⟨row, hrow, by simpa using hkey⟩

theorem offPage {limit : Option Int} (h : forall row, row ∈ m.page x limit -> row.key ≠ k) :
    (m.page x limit).countP (fun row => row.key = k) = 0 := by
  apply List.countP_eq_zero.mpr
  intro row hrow
  simpa using h row hrow

theorem page (rt : QueueRuntime) (h : Tracked x k sequence base m) (limit : Option Int) :
    Tracked x k sequence base (m.step rt x (.page limit)) := by
  rcases visibleAt_eq_some.mp h.visible with ⟨row, hget, hstate, hincludes, hsequence⟩
  have hkey : row.key = k := rowAt_key hget
  have hrow : row ∈ m.store.rows := mem_of_rowAt hget
  have hsorted := m.listing_sorted x
  have hlisted : forall other, other ∈ m.page x limit -> _ :=
    fun other hother => Reader.of_mem_page h.wellKept hother
  have hposition := m.position_page rt x limit
  refine ⟨h.wellKept, h.visible, ?_⟩
  rw [Reader.timesReturned_page]
  rcases h.counted with ⟨hahead, hcount⟩ | ⟨hbehind, hcount⟩
  · have hmem : row ∈ m.listing x :=
      (Reader.mem_listing h.wellKept).mpr ⟨hrow, hstate, hincludes, hsequence ▸ hahead⟩
    by_cases hpaged : row ∈ m.page x limit
    · right
      rw [h.onPage limit hpaged hkey, hcount]
      refine ⟨?_, rfl⟩
      rcases hposition with ⟨hempty, _⟩ | ⟨last, _, hlast, hmoved⟩
      · rw [hempty] at hpaged
        cases hpaged
      · rw [hmoved, ← hsequence]
        rw [Reader.page_eq] at hpaged hlast
        exact hsorted.page.le_getLast hlast hpaged
    · left
      have hkeys : forall other, other ∈ m.page x limit -> other.key ≠ k := by
        intro other hother hsame
        have heq := h.wellKept.eq_of_key (hlisted other hother).left hrow (hsame.trans hkey.symm)
        rw [heq] at hother
        exact hpaged hother
      rw [offPage hkeys, hcount]
      refine ⟨?_, rfl⟩
      rcases hposition with ⟨_, hstays⟩ | ⟨last, hlast, _, hmoved⟩
      · rw [hstays]
        exact hahead
      · rw [hmoved, ← hsequence]
        have hlastRow := hlisted last hlast
        have hle : last.historySequence ≤ row.historySequence := by
          rw [Reader.page_eq] at hpaged hlast
          exact hsorted.after_page hmem hpaged last hlast
        apply lt_of_le_of_ne hle
        intro hsame
        have hother := h.wellKept.distinct last row hlastRow.left hrow
          hlastRow.right.left hstate hsame
        exact hkeys last hlast (hother.trans hkey)
  · right
    have hkeys : forall other, other ∈ m.page x limit -> other.key ≠ k := by
      intro other hother hsame
      have hlater := hlisted other hother
      have heq := h.wellKept.eq_of_key hlater.left hrow (hsame.trans hkey.symm)
      rw [heq] at hlater
      have hafter := hlater.right.right.right
      omega
    rw [offPage hkeys, hcount]
    refine ⟨?_, rfl⟩
    rcases hposition with ⟨_, hstays⟩ | ⟨last, hlast, _, hmoved⟩
    · rw [hstays]
      exact hbehind
    · rw [hmoved]
      exact hbehind.trans (hlisted last hlast).right.right.right.le

theorem step (h : Tracked x k sequence base m) {a : ReaderStep} (hkeeps : m.keepsVisible rt x k a) :
    Tracked x k sequence base (m.step rt x a) := by
  cases a with
  | write op =>
    constructor
    · exact h.wellKept.step rt op
    · exact hkeeps.trans h.visible
    · exact h.counted
  | page limit => exact h.page rt limit

/-- A page that is not full has every landing that is still ahead. -/
theorem exhausted (h : Tracked x k sequence base m) {limit : Option Int}
    (hlimit : Exhausted (limit.map Int.toNat) (m.page x limit)) :
    (m.step rt x (.page limit)).timesReturned k = base + 1 := by
  rcases visibleAt_eq_some.mp h.visible with ⟨row, hget, hstate, hincludes, hsequence⟩
  rcases h.counted with ⟨hahead, hcount⟩ | ⟨hbehind, _⟩
  · have hmem : row ∈ m.listing x :=
      (Reader.mem_listing h.wellKept).mpr ⟨mem_of_rowAt hget, hstate, hincludes, hsequence ▸ hahead⟩
    have hpaged : row ∈ m.page x limit := by
      rw [Reader.page_eq] at hlimit ⊢
      exact mem_page_of_exhausted hlimit hmem
    rw [Reader.timesReturned_page, h.onPage limit hpaged (rowAt_key hget), hcount]
  · rcases (h.page rt limit).counted with
      ⟨hahead, _⟩ | ⟨_, hcount⟩
    · have hmoved := m.position_page rt x limit
      rcases hmoved with ⟨_, hstays⟩ | ⟨last, hlast, _, hlater⟩
      · omega
      · have hafter := (Reader.of_mem_page h.wellKept hlast).right.right.right
        omega
    · exact hcount

end Tracked

/-!
# Reads of a queue that is written
-/

/-- A reader never stands past the last sequence that was assigned. -/
structure Placed (m : Reader) : Prop where
  wellKept : WellKept m.store
  bounded : m.position ≤ m.store.history

theorem Placed.step (h : Placed m) (a : ReaderStep) : Placed (m.step rt x a) := by
  cases a with
  | write op =>
    constructor
    · exact h.wellKept.step rt op
    · exact h.bounded.trans (op.apply_wrote rt h.wellKept).history_le
  | page limit =>
    refine ⟨h.wellKept, ?_⟩
    rcases m.position_page rt x limit with
      ⟨_, hstays⟩ | ⟨last, hlast, _, hmoved⟩
    · rw [hstays]
      exact h.bounded
    · rw [hmoved]
      exact h.wellKept.bounded last (Reader.of_mem_page h.wellKept hlast).left

theorem placed_run (x : Scope) (ops : List QueueOp) (steps : List ReaderStep) :
    Placed (run (Reader.step rt x) { store := IntegrationQueueStore.after rt {} ops } steps) := by
  apply invariant_run (I := Placed) (fun m a h => h.step a)
  constructor
  · exact wellKept_run rt ops
  · exact Nat.zero_le _

/-- A row that an operation lands is ahead of every cursor. -/
theorem entered_ahead (h : Placed m) {op : QueueOp} {k : RowKey} {sequence : Nat}
    (hvisible : visibleAt x (op.apply rt m.store) k = some sequence)
    (hentered : visibleAt x m.store k ≠ some sequence) : m.position < sequence := by
  have hwrote := op.apply_wrote rt h.wellKept
  rcases visibleAt_eq_some.mp hvisible with
    ⟨row', hget, hstate, hincludes, hsequence⟩
  have hkey : row'.key = k := rowAt_key hget
  rcases hwrote.integrated (mem_of_rowAt hget) hstate with
    ⟨row, hrow, hsame, hlanded, hhistory, hepic⟩ | ⟨_, hcounted, hhistory⟩
  · apply absurd _ hentered
    apply visibleAt_eq_some.mpr
    refine ⟨row, ?_, hlanded, ?_, hhistory.trans hsequence⟩
    · rw [← hkey, ← hsame]
      exact h.wellKept.get_of_mem hrow
    · have hproject : row.projectId = row'.projectId := congrArg RowKey.projectId hsame
      unfold Scope.includes at hincludes ⊢
      rw [hproject, hepic]
      exact hincludes
  · have hbound := h.bounded
    omega

/--
Sequences only grow, integrated rows have one, another row has only that of a
landing that was taken back, and a landing that stands until the reader is done
is returned exactly once after it was made.
-/
theorem history_read (rt : QueueRuntime) (ops : List QueueOp) :
    (assignedAlong rt {} ops).Pairwise (· < ·) ∧
    (forall row, row ∈ (IntegrationQueueStore.after rt {} ops).rows ->
      row.state = .integrated -> 0 < row.historySequence) ∧
    (forall row, row ∈ (IntegrationQueueStore.after rt {} ops).rows ->
      row.state ≠ .integrated -> 0 < row.historySequence ->
      exists before op later, ops = before ++ op :: later ∧ op.takesBack = some row.key ∧
        landingAt (IntegrationQueueStore.after rt {} before) row.key = some row.historySequence) ∧
    forall (x : Scope) (first second : List ReaderStep) (k : RowKey) (m : Reader),
      m = run (Reader.step rt x) { store := IntegrationQueueStore.after rt {} ops } first ->
      (visibleAt x m.store k).isSome = true ->
      (first = [] ∨ exists earlier op, first = earlier ++ [.write op] ∧
        visibleAt x (run (Reader.step rt x)
          { store := IntegrationQueueStore.after rt {} ops } earlier).store k ≠
            visibleAt x m.store k) ->
      Guarded (Reader.step rt x) (fun m a => Reader.keepsVisible rt x k m a) m second ->
      (run (Reader.step rt x) m second).timesReturned k ≤ m.timesReturned k + 1 ∧
      forall limit,
        Exhausted (limit.map Int.toNat) ((run (Reader.step rt x) m second).page x limit) ->
        ((run (Reader.step rt x) m second).step rt x
          (.page limit)).timesReturned k = m.timesReturned k + 1 := by
  refine ⟨assignedAlong_increasing wellKept_empty ops, (wellKept_run rt ops).positive,
    fun row hrow hstate hpositive => leftover_takenBack ops hrow hstate hpositive, ?_⟩
  intro x first second k m hm hvisible hentered hguard
  rcases Option.isSome_iff_exists.mp hvisible with ⟨sequence, hsequence⟩
  have hplaced : Placed m := hm ▸ placed_run x ops first
  have hahead : m.position < sequence := by
    rcases hentered with rfl | ⟨earlier, op, rfl, hentered⟩
    · rcases visibleAt_eq_some.mp hsequence with ⟨row, hget, hstate, _, hrow⟩
      rw [← hrow, hm]
      exact (hm ▸ hplaced.wellKept).positive row (hm ▸ mem_of_rowAt hget) hstate
    · rw [run_snoc] at hm
      rw [hsequence] at hentered
      subst hm
      exact entered_ahead (placed_run x ops earlier) hsequence hentered
  have hstart : Tracked x k sequence (m.timesReturned k) m :=
    ⟨hplaced.wellKept, hsequence, Or.inl ⟨hahead, rfl⟩⟩
  have hend := guarded_invariant_run
    (fun m a (h : Tracked x k sequence _ m) hkeeps => h.step hkeeps) hstart hguard
  constructor
  · rcases hend.counted with ⟨_, hcount⟩ | ⟨_, hcount⟩ <;> omega
  · intro limit hlimit
    exact hend.exhausted hlimit

/-!
# A landing that is recorded again
-/

/-- One submission that is finished. -/
def finishedOnce : List QueueOp :=
  [.enqueue sampleSubmission "1",
    .finishTaskGeneration sampleKey "1" .integrated none none (some "l") "2"]

/-- A normalisation between two pages. -/
def normalizedRead : List ReaderStep :=
  [.page none, .write (.normalizeLegacyTrackerCheckpoint sampleKey "2" "b" "h" "l" none "3"),
    .page none]

def finishedReader : Reader :=
  { store := IntegrationQueueStore.after sampleRuntime {} finishedOnce }

/-- The row is integrated during the whole read and is returned twice. -/
theorem normalized_returnedTwice :
    ((List.range 4).all fun n =>
      (visibleAt {} (run (Reader.step sampleRuntime {}) finishedReader
        (normalizedRead.take n)).store sampleKey).isSome) = true ∧
    (run (Reader.step sampleRuntime {}) finishedReader normalizedRead).timesReturned
      sampleKey = 2 := by
  decide +kernel

/-- A landing the reader finds is returned once. -/
theorem history_read_finished :
    (finishedReader.step sampleRuntime {} (.page none)).timesReturned sampleKey = 1 :=
  ((history_read sampleRuntime finishedOnce).right.right.right {} [] [] sampleKey
    finishedReader rfl (by decide +kernel) (Or.inl rfl) trivial).right none nofun

-- A landing that is taken back leaves its sequence on the ready row.
example : ((IntegrationQueueStore.after sampleRuntime {} (finishedOnce ++
      [.retryIntegratedAfterTrackerFailure sampleKey "h" none "t" "3"])).rows.map
    fun row => (row.state, row.historySequence)) = [(.ready, 1)] := by decide +kernel

end Integration
end Oompah
