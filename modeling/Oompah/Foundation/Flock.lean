import Mathlib.Data.List.Basic

/-!
# Advisory locks on open file descriptions

A lock belongs to the open file description it was taken through.  Copies of a
descriptor refer to one description, and its lock stays until the last of them
is closed or the lock is given back explicitly.  Paths and descriptors are of
arbitrary types.
-/

namespace Oompah
namespace Foundation

/-- The open file descriptions are numbered in the order they are opened. -/
structure Flocks (ι δ : Type) where
  opened : Nat := 0
  /-- The descriptors that refer to a description. -/
  descriptors : Nat -> List δ := fun _ => []
  /-- The description that has the lock of a path. -/
  lockedBy : ι -> Option Nat := fun _ => none

namespace Flocks

variable {ι δ : Type}

def IsOpen (k : Flocks ι δ) (file : Nat) : Prop := k.descriptors file ≠ []

instance (k : Flocks ι δ) (file : Nat) : Decidable (k.IsOpen file) :=
  match h : k.descriptors file with
  | [] => isFalse fun hopen => hopen h
  | _ :: _ => isTrue fun hnil => by rw [h] at hnil; cases hnil

/-- Locks of descriptions that no descriptor refers to any more are gone. -/
def settled (k : Flocks ι δ) : Flocks ι δ :=
  { k with
    lockedBy := fun path => (k.lockedBy path).filter fun file => !(k.descriptors file).isEmpty }

/--
`open` followed by `flock(LOCK_EX | LOCK_NB)`: the number of the description
that got the lock, or nothing, with the new description closed again.
-/
def tryLock [DecidableEq ι] (k : Flocks ι δ) (path : ι) (descriptor : δ) :
    Flocks ι δ × Option Nat :=
  match k.lockedBy path with
  | some _ => (k, none)
  | none =>
    ({ opened := k.opened + 1
       descriptors := Function.update k.descriptors k.opened [descriptor]
       lockedBy := Function.update k.lockedBy path (some k.opened) },
      some k.opened)

/-- `flock(LOCK_UN)`. -/
def unlock (k : Flocks ι δ) (file : Nat) : Flocks ι δ :=
  { k with lockedBy := fun path => (k.lockedBy path).filter (· ≠ file) }

/-- `close` of one descriptor. -/
def close [DecidableEq δ] (k : Flocks ι δ) (file : Nat) (descriptor : δ) : Flocks ι δ :=
  settled
    { k with
      descriptors :=
        Function.update k.descriptors file ((k.descriptors file).erase descriptor) }

/-- A copy of an open descriptor, by `fork` or by passing it. -/
def copy (k : Flocks ι δ) (file : Nat) (descriptor : δ) : Flocks ι δ :=
  if k.IsOpen file then
    { k with
      descriptors := Function.update k.descriptors file (descriptor :: k.descriptors file) }
  else k

/-- All descriptors of a kind are closed, as when a process exits. -/
def closeAll (k : Flocks ι δ) (ofKind : δ -> Bool) : Flocks ι δ :=
  settled { k with descriptors := fun file => (k.descriptors file).filter fun d => !ofKind d }

/-!
# Locks are kept while a descriptor is open
-/

/-- Locks are of open descriptions, which were opened on the path. -/
structure Lawful (k : Flocks ι δ) : Prop where
  locked_open : forall path file, k.lockedBy path = some file -> k.IsOpen file
  open_opened : forall file, k.IsOpen file -> file < k.opened
  one_path : forall path path' file, k.lockedBy path = some file ->
    k.lockedBy path' = some file -> path = path'

variable {k k' : Flocks ι δ} {path path' : ι} {file file' : Nat} {descriptor : δ}

theorem lawful_empty : Lawful ({} : Flocks ι δ) := by
  constructor
  · intro path file h
    cases h
  · intro file h
    exact absurd rfl h
  · intro path path' file h
    cases h

theorem settled_lockedBy :
    k.settled.lockedBy path = some file ↔ k.lockedBy path = some file ∧ k.IsOpen file := by
  unfold settled IsOpen
  simp

theorem Lawful.settle (h : Lawful k) {descriptors : Nat -> List δ}
    (hopen : forall file, descriptors file ≠ [] -> k.IsOpen file) :
    Lawful (settled { k with descriptors := descriptors }) := by
  constructor
  · intro path file hlocked
    exact (settled_lockedBy.mp hlocked).right
  · intro file hfile
    exact h.open_opened file (hopen file hfile)
  · intro path path' file hlocked hlocked'
    exact h.one_path path path' file (settled_lockedBy.mp hlocked).left
      (settled_lockedBy.mp hlocked').left

theorem close_descriptors_ne [DecidableEq δ] (hne : file' ≠ file) :
    (k.close file descriptor).descriptors file' = k.descriptors file' :=
  Function.update_of_ne hne _ _

theorem close_descriptors_self [DecidableEq δ] :
    (k.close file descriptor).descriptors file = (k.descriptors file).erase descriptor :=
  Function.update_self _ _ _

theorem mem_close [DecidableEq δ] {other : δ} (h : other ∈ k.descriptors file')
    (hne : file' ≠ file ∨ other ≠ descriptor) :
    other ∈ (k.close file descriptor).descriptors file' := by
  by_cases hsame : file' = file
  · subst hsame
    rw [close_descriptors_self]
    rcases hne with hne | hne
    · exact absurd rfl hne
    · exact (List.mem_erase_of_ne hne).mpr h
  · rw [close_descriptors_ne hsame]
    exact h

theorem isOpen_of_close [DecidableEq δ] (h : (k.close file descriptor).IsOpen file') :
    k.IsOpen file' := by
  unfold IsOpen at h ⊢
  by_cases hsame : file' = file
  · subst hsame
    rw [close_descriptors_self] at h
    intro hnil
    rw [hnil] at h
    exact h rfl
  · rw [close_descriptors_ne hsame] at h
    exact h

theorem close_lockedBy [DecidableEq δ] : (k.close file descriptor).lockedBy path = some file' ↔
      k.lockedBy path = some file' ∧ (k.close file descriptor).IsOpen file' :=
  settled_lockedBy

theorem Lawful.close [DecidableEq δ] (h : Lawful k) (file : Nat) (descriptor : δ) :
    Lawful (k.close file descriptor) := by
  apply h.settle
  intro file' hopen
  have hclosed : (k.close file descriptor).IsOpen file' := hopen
  exact isOpen_of_close hclosed

variable {ofKind : δ -> Bool}

theorem isOpen_of_closeAll (h : (k.closeAll ofKind).IsOpen file) : k.IsOpen file := by
  intro hnil
  apply h
  show (k.descriptors file).filter _ = []
  rw [hnil]
  rfl

theorem closeAll_lockedBy : (k.closeAll ofKind).lockedBy path = some file ↔
      k.lockedBy path = some file ∧ (k.closeAll ofKind).IsOpen file :=
  settled_lockedBy

theorem mem_closeAll : descriptor ∈ (k.closeAll ofKind).descriptors file ↔
      descriptor ∈ k.descriptors file ∧ ofKind descriptor = false := by
  show descriptor ∈ (k.descriptors file).filter _ ↔ _
  simp

theorem Lawful.closeAll (h : Lawful k) (ofKind : δ -> Bool) : Lawful (k.closeAll ofKind) := by
  apply h.settle
  intro file hopen
  have hclosed : (k.closeAll ofKind).IsOpen file := hopen
  exact isOpen_of_closeAll hclosed

theorem unlock_lockedBy : (k.unlock file).lockedBy path = some file' ↔
      k.lockedBy path = some file' ∧ file' ≠ file := by
  unfold unlock
  simp

theorem Lawful.unlock (h : Lawful k) (file : Nat) : Lawful (k.unlock file) := by
  constructor
  · intro path file' hlocked
    exact h.locked_open path file' (unlock_lockedBy.mp hlocked).left
  · exact h.open_opened
  · intro path path' file' hlocked hlocked'
    exact h.one_path path path' file' (unlock_lockedBy.mp hlocked).left
      (unlock_lockedBy.mp hlocked').left

theorem copy_lockedBy : (k.copy file descriptor).lockedBy = k.lockedBy := by
  unfold copy
  split <;> rfl

theorem copy_isOpen : (k.copy file descriptor).IsOpen file' ↔ k.IsOpen file' := by
  unfold copy
  split
  · case isTrue hopen =>
    by_cases hsame : file' = file
    · subst hsame
      unfold IsOpen at hopen ⊢
      simp [hopen]
    · unfold IsOpen
      simp only
      rw [Function.update_of_ne hsame]
  · rfl

theorem mem_copy {other : δ} (h : other ∈ k.descriptors file') :
    other ∈ (k.copy file descriptor).descriptors file' := by
  unfold copy
  split
  · by_cases hsame : file' = file
    · subst hsame
      simp only
      rw [Function.update_self]
      exact List.mem_cons_of_mem _ h
    · simp only
      rw [Function.update_of_ne hsame]
      exact h
  · exact h

theorem Lawful.copy (h : Lawful k) (file : Nat) (descriptor : δ) :
    Lawful (k.copy file descriptor) := by
  constructor
  · intro path file' hlocked
    rw [copy_lockedBy] at hlocked
    exact copy_isOpen.mpr (h.locked_open path file' hlocked)
  · intro file' hopen
    have hlt := h.open_opened file' (copy_isOpen.mp hopen)
    unfold Flocks.copy
    split <;> exact hlt
  · intro path path' file' hlocked hlocked'
    rw [copy_lockedBy] at hlocked hlocked'
    exact h.one_path path path' file' hlocked hlocked'

theorem tryLock_some [DecidableEq ι] (hlock : k.tryLock path descriptor = (k', some file)) :
    k.lockedBy path = none ∧ file = k.opened ∧ k' =
           { opened := k.opened + 1
             descriptors := Function.update k.descriptors k.opened [descriptor]
             lockedBy := Function.update k.lockedBy path (some k.opened) } := by
  unfold tryLock at hlock
  cases hlocked : k.lockedBy path with
  | some held =>
    rw [hlocked] at hlock
    cases hlock
  | none =>
    rw [hlocked] at hlock
    cases hlock
    exact ⟨rfl, rfl, rfl⟩

theorem tryLock_none [DecidableEq ι] (hlock : k.tryLock path descriptor = (k', none)) :
    k' = k ∧ k.lockedBy path ≠ none := by
  unfold tryLock at hlock
  cases hlocked : k.lockedBy path with
  | some held =>
    rw [hlocked] at hlock
    cases hlock
    exact ⟨rfl, by simp⟩
  | none =>
    rw [hlocked] at hlock
    cases hlock

theorem Lawful.tryLock [DecidableEq ι] (h : Lawful k) (path : ι) (descriptor : δ) :
    Lawful (k.tryLock path descriptor).1 := by
  rcases hlock : k.tryLock path descriptor with ⟨k', _ | file⟩
  · rw [(tryLock_none hlock).left]
    exact h
  · rcases tryLock_some hlock with ⟨hfree, rfl, rfl⟩
    constructor
    · intro path' file hlocked
      by_cases hpath : path' = path
      · subst hpath
        simp only [Function.update_self, Option.some.injEq] at hlocked
        subst hlocked
        simp [IsOpen]
      · simp only [Function.update_of_ne hpath] at hlocked
        have hne : file ≠ k.opened :=
          Nat.ne_of_lt (h.open_opened file (h.locked_open path' file hlocked))
        simpa [IsOpen, Function.update_of_ne hne] using h.locked_open path' file hlocked
    · intro file hopen
      by_cases hnew : file = k.opened
      · rw [hnew]
        exact Nat.lt_succ_self _
      · simp only [IsOpen, Function.update_of_ne hnew] at hopen
        exact Nat.lt_succ_of_lt (h.open_opened file hopen)
    · intro first second file hfirst hsecond
      have hold : forall path', path' ≠ path ->
          Function.update k.lockedBy path (some k.opened) path' = some file ->
          k.lockedBy path' = some file ∧ file ≠ k.opened := by
        intro path' hne hlocked
        rw [Function.update_of_ne hne] at hlocked
        exact ⟨hlocked, Nat.ne_of_lt (h.open_opened file (h.locked_open path' file hlocked))⟩
      by_cases hone : first = path <;> by_cases htwo : second = path
      · rw [hone, htwo]
      · subst hone
        simp only [Function.update_self, Option.some.injEq] at hfirst
        exact absurd hfirst.symm (hold second htwo hsecond).right
      · subst htwo
        simp only [Function.update_self, Option.some.injEq] at hsecond
        exact absurd hsecond.symm (hold first hone hfirst).right
      · exact h.one_path first second file (hold first hone hfirst).left
          (hold second htwo hsecond).left

/-!
# What every call keeps

No call reopens a description, and a lock goes only when the last descriptor is
closed or the lock is given back.
-/

structure Keeps (k k' : Flocks ι δ) (unlocked : Nat -> Prop) : Prop where
  opened_le : k.opened ≤ k'.opened
  isOpen : forall file, file < k.opened -> k'.IsOpen file -> k.IsOpen file
  lockedBy : forall path file, k.lockedBy path = some file -> k'.IsOpen file ->
    ¬ unlocked file -> k'.lockedBy path = some file

theorem keeps_close [DecidableEq δ] (file : Nat) (descriptor : δ) (unlocked : Nat -> Prop) :
    Keeps k (k.close file descriptor) unlocked := by
  constructor
  · exact Nat.le_refl _
  · intro file' _ hopen
    exact isOpen_of_close hopen
  · intro path file' hlocked hopen _
    exact close_lockedBy.mpr ⟨hlocked, hopen⟩

theorem keeps_closeAll (ofKind : δ -> Bool) (unlocked : Nat -> Prop) :
    Keeps k (k.closeAll ofKind) unlocked := by
  constructor
  · exact Nat.le_refl _
  · intro file' _ hopen
    exact isOpen_of_closeAll hopen
  · intro path file' hlocked hopen _
    exact closeAll_lockedBy.mpr ⟨hlocked, hopen⟩

theorem keeps_copy (file : Nat) (descriptor : δ) (unlocked : Nat -> Prop) :
    Keeps k (k.copy file descriptor) unlocked := by
  constructor
  · unfold Flocks.copy
    split <;> exact Nat.le_refl _
  · intro file' _ hopen
    exact copy_isOpen.mp hopen
  · intro path file' hlocked _ _
    rw [copy_lockedBy]
    exact hlocked

theorem keeps_tryLock [DecidableEq ι] (path : ι) (descriptor : δ) (unlocked : Nat -> Prop) :
    Keeps k (k.tryLock path descriptor).1 unlocked := by
  rcases hlock : k.tryLock path descriptor with ⟨k', _ | file⟩
  · rw [(tryLock_none hlock).left]
    exact ⟨Nat.le_refl _, fun _ _ h => h, fun _ _ h _ _ => h⟩
  · rcases tryLock_some hlock with ⟨hfree, rfl, rfl⟩
    constructor
    · exact Nat.le_succ _
    · intro file' hlt hopen
      simpa only [IsOpen, Function.update_of_ne (Nat.ne_of_lt hlt)] using hopen
    · intro path' file' hlocked _ _
      have hne : path' ≠ path := by
        rintro rfl
        rw [hfree] at hlocked
        cases hlocked
      simpa only [Function.update_of_ne hne] using hlocked

theorem keeps_unlock_close [DecidableEq δ] (file : Nat) (descriptor : δ) :
    Keeps k ((k.unlock file).close file descriptor) (· = file) := by
  constructor
  · exact Nat.le_refl _
  · intro file' _ hopen
    exact isOpen_of_close (k := k.unlock file) hopen
  · intro path file' hlocked hopen hne
    exact close_lockedBy.mpr ⟨unlock_lockedBy.mpr ⟨hlocked, hne⟩, hopen⟩

end Flocks
end Foundation
end Oompah
