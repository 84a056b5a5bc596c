import Mathlib.Tactic.Ring
import Oompah.Foundation.Rotation
import Oompah.WorkflowJobs.Schedule

/-!
# Coverage of the decision windows

A scan of more decisions than its limit admits takes the window that starts at
the durable offset and moves the offset past it.  The scans of one scope lay
their windows end to end, from whatever offset was stored before the first.
-/

namespace Oompah
namespace WorkflowJobs

open Foundation

/-- The decisions a bounded pass selects at its allocated offset. -/
def selectedDecisions {α : Type} (allDecisions : List α) (decisionLimit offset : Nat) : List α :=
  rotatedWindow allDecisions decisionLimit offset

namespace Store

def decisionWindowKey (scope : Option String) : String :=
  match scope with
  | none => "workflow_decision_window_offset"
  | some scope => "workflow_decision_window_offset:" ++ scope

def storedWindow (s : Store) (scope : Option String) : Nat :=
  ((s.tables.decisionWindows.find? (fun window =>
    window.1 = decisionWindowKey scope)).map Prod.snd).getD 0

variable {s s' : Store} {total limit : Nat} {scope : Option String}

/-- The row of the offset is replaced under its key. -/
def moveWindow (s : Store) (scope : Option String) (next : Nat) : Store :=
  s.withTables (fun tables =>
    { tables with
      decisionWindows := tables.decisionWindows.filter (fun window =>
        window.1 ≠ decisionWindowKey scope) ++
          [(decisionWindowKey scope, next)] })

@[simp]
theorem storedWindow_moveWindow (s : Store) (scope : Option String) (next : Nat) :
    (s.moveWindow scope next).storedWindow scope = next := by
  have hmissing : (s.tables.decisionWindows.filter (fun window =>
      window.1 ≠ decisionWindowKey scope)).find? (fun window =>
        window.1 = decisionWindowKey scope) = none := by
    simp [List.find?_eq_none]
  unfold storedWindow moveWindow withTables
  simp only [List.find?_append, hmissing]
  simp

/-- A window that was allocated starts at the stored offset, and the offset
that is stored next is past it. -/
theorem allocateDecisionWindow_eq_some {snapshot : Option Nat} {offset : Nat}
    (h : s.allocateDecisionWindow total limit snapshot scope = .ok (s', some offset)) :
    offset = s.storedWindow scope % total ∧
      s'.storedWindow scope = (offset + min limit total) % total := by
  unfold allocateDecisionWindow boundedLimit at h
  simp only [require_bind_eq_ok] at h
  have hbody := h.right.right
  split at hbody
  · cases hbody
    exact ⟨rfl, storedWindow_moveWindow s scope _⟩
  · cases hbody

/-- A call that names neither a snapshot generation nor a scope allocates a
window. -/
theorem allocateDecisionWindow_allocates (s : Store) (htotal : 1 ≤ total)
    (hlimit : 1 ≤ limit ∧ limit ≤ maxScanLimit) :
    exists offset s', s.allocateDecisionWindow total limit none none = .ok (s', some offset) := by
  refine ⟨s.storedWindow none % total, s.moveWindow none
    ((s.storedWindow none % total + min limit total) % total), ?_⟩
  unfold allocateDecisionWindow boundedLimit
  simp only [require_bind_eq_ok]
  exact ⟨htotal, hlimit, rfl⟩

/-- The scans of one scope, with the offsets they were given.  Between two of
them the store may change in any way that leaves the stored offset alone. -/
inductive Scans (scope : Option String) (total limit : Nat) :
    Store -> List Nat -> Store -> Prop where
  | done (s : Store) : Scans scope total limit s [] s
  | aside {s s' last : Store} {offsets : List Nat} : s'.storedWindow scope = s.storedWindow scope ->
      Scans scope total limit s' offsets last ->
      Scans scope total limit s offsets last
  | scan {s s' last : Store} {snapshot : Option Nat} {offset : Nat} {offsets : List Nat} :
      s.allocateDecisionWindow total limit snapshot scope = .ok (s', some offset) ->
      Scans scope total limit s' offsets last ->
      Scans scope total limit s (offset :: offsets) last

/-- The window of each scan starts where the windows before it end. -/
theorem Scans.offset_eq {last : Store} {offsets : List Nat}
    (h : Scans scope total limit s offsets last) :
    forall j (hj : j < offsets.length),
      offsets[j] = (s.storedWindow scope + j * min limit total) % total := by
  induction h with
  | done s =>
    intro j hj
    cases hj
  | aside hkept _ ih =>
    intro j hj
    rw [ih j hj, hkept]
  | @scan s s' last snapshot offset offsets hcall _ ih =>
    intro j hj
    obtain ⟨hoffset, hnext⟩ := allocateDecisionWindow_eq_some hcall
    cases j with
    | zero => simpa using hoffset
    | succ j =>
      have hrest : j < offsets.length := Nat.lt_of_succ_lt_succ hj
      rw [List.getElem_cons_succ, ih j hrest, hnext, hoffset]
      calc ((s.storedWindow scope % total + min limit total) % total + j * min limit total) % total
          = (s.storedWindow scope + min limit total + j * min limit total) %
              total := by rw [Nat.mod_add_mod, Nat.add_assoc, Nat.mod_add_mod, ← Nat.add_assoc]
        _ = (s.storedWindow scope + (j + 1) * min limit total) % total := by
            congr 1
            ring

/-- The window of a scan holds the decisions from its offset on, around the end. -/
theorem selectedDecisions_range {offset r : Nat} (hoffset : offset < total)
    (hr : r < min limit total) :
    (selectedDecisions (List.range total) limit offset)[r]? = some ((offset + r) % total) := by
  unfold selectedDecisions
  rw [getElem?_rotatedWindow _ (by rwa [List.length_range]) (by rwa [List.length_range]),
    List.length_range, List.getElem?_range (Nat.mod_lt _ (by omega))]

/-- Each scan selects the window of its offset.  As many scans as the windows need
to fill the corpus select every decision of it, whatever offset was stored before. -/
theorem scans_select_all (s : Store) (scope : Option String) {total limit : Nat}
    (htotal : 1 ≤ total) (hlimit : 1 ≤ limit ∧ limit ≤ maxScanLimit) :
    (exists offset s', s.allocateDecisionWindow total limit none none = .ok (s', some offset)) ∧
    forall offsets last, Scans scope total limit s offsets last ->
      (forall offset, offset ∈ offsets -> offset < total ∧
        (selectedDecisions (List.range total) limit offset).length = min limit total ∧
        forall r, r < min limit total ->
          (selectedDecisions (List.range total) limit offset)[r]? = some ((offset + r) % total)) ∧
      (total ⌈/⌉ min limit total ≤ offsets.length ->
        forall i, i < total -> exists offset, offset ∈ offsets ∧
          i ∈ selectedDecisions (List.range total) limit offset) := by
  refine ⟨allocateDecisionWindow_allocates s htotal hlimit, ?_⟩
  intro offsets last hscans
  have hbounded : forall offset, offset ∈ offsets -> offset < total := by
    intro offset hoffset
    rcases List.mem_iff_getElem.mp hoffset with ⟨j, hj, rfl⟩
    rw [hscans.offset_eq j hj]
    exact Nat.mod_lt _ htotal
  constructor
  · intro offset hoffset
    refine ⟨hbounded offset hoffset, ?_, ?_⟩
    · simp [selectedDecisions]
    · exact fun r hr => selectedDecisions_range (hbounded offset hoffset) hr
  · intro hcount i hi
    have hwidth : 0 < min limit total := by omega
    have hfills : total ≤ offsets.length * min limit total := by
      rw [Nat.mul_comm]
      exact (ceilDiv_le_iff_le_mul hwidth).mp hcount
    obtain ⟨j, r, hj, hr, hplace⟩ :=
      exists_covering_window (s.storedWindow scope) hwidth hi hfills
    have hmem := List.getElem_mem hj
    have hitem := selectedDecisions_range (hbounded _ hmem) hr
    rw [hscans.offset_eq j hj, Nat.mod_add_mod, hplace] at hitem
    rw [← hscans.offset_eq j hj] at hitem
    exact ⟨offsets[j], hmem, List.mem_of_getElem? hitem⟩

def sampleWindows : Store :=
  { tables := { decisionWindows := [("workflow_decision_window_offset", 4)] } }

/-- From the stored offset four, two scans of three decisions select them all. -/
theorem sampleWindows_select_all : exists last, Scans none 3 2 sampleWindows [1, 0] last ∧
      forall i, i < 3 -> exists offset, offset ∈ [1, 0] ∧
        i ∈ selectedDecisions (List.range 3) 2 offset := by
  have hfirst : sampleWindows.allocateDecisionWindow 3 2 none none =
      .ok (sampleWindows.moveWindow none 0, some 1) := rfl
  have hsecond : (sampleWindows.moveWindow none 0).allocateDecisionWindow 3 2 none none =
        .ok ((sampleWindows.moveWindow none 0).moveWindow none 2, some 0) := rfl
  have hlast := Scans.scan hfirst (Scans.scan hsecond (Scans.done _))
  refine ⟨_, hlast, ?_⟩
  exact ((scans_select_all sampleWindows none (by decide) (by decide)).right
    [1, 0] _ hlast).right (by decide)

end Store
end WorkflowJobs
end Oompah
