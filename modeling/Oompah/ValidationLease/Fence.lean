import Oompah.ValidationLease.Host

/-!
# Slots are fenced

A grant is held while a descriptor of its slot lock is open.  In every state
each held grant has its owners row and the lock of its slot, so a pass that
locked a slot can take rows of it away and grant it again.
-/

namespace Oompah
namespace ValidationLease

open Foundation

def Grant.Held (h : Host) (grant : Grant) : Prop := h.kernel.IsOpen grant.lockFd

instance (h : Host) (grant : Grant) : Decidable (grant.Held h) :=
  inferInstanceAs (Decidable (h.kernel.IsOpen grant.lockFd))

/-- A row and the handle it was inserted for. -/
def Grant.Backs (grant : Grant) (row : OwnerRow) : Prop :=
  row.slot = grant.slot ∧ row.token = grant.token ∧ row.identity = grant.identity

/-- The locks of a pass are its own, and they are of slots that no held grant has. -/
structure Pass.Sound (h : Host) (pass : Pass) : Prop where
  locked : forall slot lockFd, (slot, lockFd) ∈ pass.available ->
    h.kernel.lockedBy slot = some lockFd
  own : forall slot lockFd, (slot, lockFd) ∈ pass.available ->
    (⟨pass.manager.process, false⟩ : Descriptor) ∈ h.kernel.descriptors lockFd
  ungranted : forall slot lockFd, (slot, lockFd) ∈ pass.available ->
    forall grant, grant ∈ h.grants -> grant.lockFd ≠ lockFd
  tried : forall slot lockFd, (slot, lockFd) ∈ pass.available -> slot < pass.next
  next_le : pass.next ≤ pass.manager.capacity
  slots : (pass.available.map (·.1)).Nodup
  releasing : forall token slot, pass.purpose = .releasing token slot ->
    exists grant, grant ∈ h.grants ∧ grant.token = token ∧ grant.slot = slot

structure Host.Sound (h : Host) : Prop where
  lawful : h.kernel.Lawful
  passes : forall i pass, h.passes i = some pass -> pass.Sound h
  distinct : forall i j pass pass' slot slot' lockFd, h.passes i = some pass ->
    h.passes j = some pass' -> (slot, lockFd) ∈ pass.available ->
    (slot', lockFd) ∈ pass'.available -> i = j
  grant_opened : forall grant, grant ∈ h.grants -> grant.lockFd < h.kernel.opened
  grant_locked : forall grant, grant ∈ h.grants -> grant.Held h ->
    h.kernel.lockedBy grant.slot = some grant.lockFd
  grant_files : (h.grants.map (·.lockFd)).Nodup
  grant_tokens : (h.grants.map (·.token)).Nodup
  grant_known : forall grant, grant ∈ h.grants -> grant.token ∈ h.tokens
  grant_row : forall grant, grant ∈ h.grants -> grant.Held h ->
    exists row, row ∈ h.store.owners ∧ grant.Backs row
  row_grant : forall row, row ∈ h.store.owners -> exists grant, grant ∈ h.grants ∧ grant.Backs row
  waiter_known : forall row, row ∈ h.store.waiters -> row.token ∈ h.tokens
  waiter_fresh : forall row, row ∈ h.store.waiters ->
    forall grant, grant ∈ h.grants -> grant.token ≠ row.token

theorem sound_empty : Host.Sound {} := by
  constructor
  case lawful => exact Flocks.lawful_empty
  case grant_files => exact List.nodup_nil
  case grant_tokens => exact List.nodup_nil
  case passes =>
    intro i pass h
    cases h
  case distinct =>
    intro i j pass pass' slot slot' lockFd h
    cases h
  all_goals
    intro x h
    cases h

variable {token : String}

namespace Host.Sound

variable {h h' : Host} {i : Nat} {pass pass' : Pass} {grant grant' : Grant}

theorem grant_unique (hs : h.Sound) (hg : grant ∈ h.grants) (hg' : grant' ∈ h.grants)
    (hfile : grant.lockFd = grant'.lockFd) : grant = grant' :=
  List.inj_on_of_nodup_map hs.grant_files hg hg' hfile

theorem grant_unique_token (hs : h.Sound) (hg : grant ∈ h.grants) (hg' : grant' ∈ h.grants)
    (htoken : grant.token = grant'.token) : grant = grant' :=
  List.inj_on_of_nodup_map hs.grant_tokens hg hg' htoken

/-- A held grant has a slot that no pass has locked. -/
theorem not_available (hs : h.Sound) (hpass : h.passes i = some pass)
    (hg : grant ∈ h.grants) (hheld : grant.Held h) :
    grant.slot ∉ pass.available.map (·.1) := by
  intro hslot
  rcases List.mem_map.mp hslot with ⟨⟨slot, lockFd⟩, hmem, hsame⟩
  have hpassSound := hs.passes i pass hpass
  have hlocked := hpassSound.locked slot lockFd hmem
  rw [show slot = grant.slot from hsame, hs.grant_locked grant hg hheld] at hlocked
  exact hpassSound.ungranted slot lockFd hmem grant hg (Option.some.inj hlocked)

/-!
# Steps that keep the locks
-/

variable {store : LeaseStore}

theorem withStore (hs : h.Sound) {freed : OwnerRow -> Prop}
    (hrevises : LeaseStore.Revises h.store store freed)
    (hfreed : forall row, row ∈ h.store.owners -> freed row ->
      forall grant, grant ∈ h.grants -> grant.Held h -> ¬ grant.Backs row) :
    (h.withStore store).Sound := by
  refine { hs with
    passes := ?_, grant_row := ?_, row_grant := ?_, waiter_known := ?_, waiter_fresh := ?_ }
  · intro i pass hpass
    exact { hs.passes i pass hpass with }
  · intro grant hg hheld
    rcases hs.grant_row grant hg hheld with ⟨row, hrow, hbacks⟩
    rcases hrevises.owners_kept row hrow fun hf => hfreed row hrow hf grant hg hheld hbacks with
      ⟨row', hrow', hslot, htoken, hidentity⟩
    exact ⟨row', hrow', hslot.symm.trans hbacks.left, htoken.symm.trans hbacks.right.left,
      hidentity.symm.trans hbacks.right.right⟩
  · intro row' hrow'
    rcases hrevises.owners_of row' hrow' with ⟨row, hrow, hslot, htoken, hidentity⟩
    rcases hs.row_grant row hrow with ⟨grant, hg, hbacks⟩
    exact ⟨grant, hg, hslot.symm.trans hbacks.left, htoken.symm.trans hbacks.right.left,
      hidentity.symm.trans hbacks.right.right⟩
  · intro row hrow
    exact hs.waiter_known row (hrevises.waiters_of row hrow)
  · intro row hrow
    exact hs.waiter_fresh row (hrevises.waiters_of row hrow)

theorem withStore_kept (hs : h.Sound) (hrevises : LeaseStore.Revises h.store store fun _ => False) :
    (h.withStore store).Sound :=
  hs.withStore hrevises fun _ _ hfalse => hfalse.elim

theorem enqueued (hs : h.Sound) (howners : store.owners = h.store.owners)
    (hwaiters : forall row, row ∈ store.waiters -> row ∈ h.store.waiters ∨ row.token = token)
    (hfresh : token ∉ h.tokens) :
    Sound { h.withStore store with tokens := token :: h.tokens } := by
  refine { hs with
    passes := ?_, grant_known := ?_, grant_row := ?_, row_grant := ?_, waiter_known := ?_
    waiter_fresh := ?_ }
  · intro i pass hpass
    exact { hs.passes i pass hpass with }
  · intro grant hg
    exact List.mem_cons_of_mem _ (hs.grant_known grant hg)
  · intro grant hg hheld
    rcases hs.grant_row grant hg hheld with ⟨row, hrow, hbacks⟩
    exact ⟨row, howners ▸ hrow, hbacks⟩
  · intro row hrow
    exact hs.row_grant row (howners ▸ hrow)
  · intro row hrow
    rcases hwaiters row hrow with hold | hnew
    · exact List.mem_cons_of_mem _ (hs.waiter_known row hold)
    · rw [hnew]
      exact List.mem_cons_self
  · intro row hrow grant hg
    rcases hwaiters row hrow with hold | hnew
    · exact hs.waiter_fresh row hold grant hg
    · rintro hsame
      exact hfresh (hnew ▸ hsame ▸ hs.grant_known grant hg)

theorem setAcquirer (hs : h.Sound) (token : String) (acquirer : Option Acquirer) :
    (h.setAcquirer token acquirer).Sound :=
  { hs with passes := fun i pass hpass => { hs.passes i pass hpass with } }

theorem setHandle (hs : h.Sound) (token : String) (state : HandleState) :
    (h.setHandle token state).Sound :=
  { hs with passes := fun i pass hpass => { hs.passes i pass hpass with } }

theorem terminate (hs : h.Sound) (caller : Process) (children : List Process) :
    (h.terminate caller children).Sound :=
  { hs with passes := fun i pass hpass => { hs.passes i pass hpass with } }

/-- A pass keeps some of its locks, or is a new one without any. -/
theorem setPasses (hs : h.Sound) (passes : Nat -> Option Pass)
    (hpasses : forall j pass', passes j = some pass' ->
      pass'.Sound h ∧ forall slot lockFd, (slot, lockFd) ∈ pass'.available ->
        exists pass, h.passes j = some pass ∧ (slot, lockFd) ∈ pass.available) :
    Sound { h with passes := passes } := by
  refine { hs with passes := ?_, distinct := ?_ }
  · intro j pass' hpass'
    exact { (hpasses j pass' hpass').left with }
  · intro j k pass' pass'' slot slot' lockFd hj hk hmem hmem'
    rcases (hpasses j pass' hj).right slot lockFd hmem with ⟨old, hold, holdMem⟩
    rcases (hpasses k pass'' hk).right slot' lockFd hmem' with ⟨old', hold', holdMem'⟩
    exact hs.distinct j k old old' slot slot' lockFd hold hold' holdMem holdMem'

theorem passes_self (hs : h.Sound) (hpass : h.passes i = some pass) :
    pass.Sound h ∧ forall slot lockFd, (slot, lockFd) ∈ pass.available ->
      exists pass, h.passes i = some pass ∧ (slot, lockFd) ∈ pass.available :=
  ⟨hs.passes i pass hpass, fun _ _ hmem => ⟨pass, hpass, hmem⟩⟩

theorem beginPass (hs : h.Sound) (manager : Manager) (purpose : Purpose)
    (hreleasing : forall token slot, purpose = .releasing token slot ->
      exists grant, grant ∈ h.grants ∧ grant.token = token ∧ grant.slot = slot) :
    (h.beginPass manager purpose).Sound := by
  have hpasses := hs.setPasses (Function.update h.passes h.passCount
    (some { manager := manager, purpose := purpose })) (by
      intro j pass' hpass'
      by_cases hj : j = h.passCount
      · subst hj
        rw [Function.update_self] at hpass'
        cases hpass'
        refine ⟨⟨?_, ?_, ?_, ?_, Nat.zero_le _, List.nodup_nil, hreleasing⟩, ?_⟩
        all_goals
          intro slot lockFd hmem
          cases hmem
      · rw [Function.update_of_ne hj] at hpass'
        exact hs.passes_self hpass')
  exact { hpasses with passes := fun i pass hpass => { hpasses.passes i pass hpass with } }

theorem setPass (hs : h.Sound) (hpass : h.passes i = some pass)
    (hmanager : pass'.manager = pass.manager) (hpurpose : pass'.purpose = pass.purpose)
    (hnext : pass.next ≤ pass'.next) (hcapacity : pass'.next ≤ pass.manager.capacity)
    (havailable : pass'.available.Sublist pass.available) :
    (h.setPass i pass').Sound := by
  apply hs.setPasses
  intro j other hother
  by_cases hj : j = i
  · subst hj
    rw [Function.update_self] at hother
    cases hother
    have hold := hs.passes j pass hpass
    refine ⟨⟨?_, ?_, ?_, ?_, ?_, ?_, ?_⟩, ?_⟩
    · exact fun slot lockFd hmem => hold.locked slot lockFd (havailable.subset hmem)
    · exact fun slot lockFd hmem =>
        hmanager ▸ hold.own slot lockFd (havailable.subset hmem)
    · exact fun slot lockFd hmem => hold.ungranted slot lockFd (havailable.subset hmem)
    · exact fun slot lockFd hmem =>
        Nat.lt_of_lt_of_le (hold.tried slot lockFd (havailable.subset hmem)) hnext
    · rw [hmanager]
      exact hcapacity
    · exact hold.slots.sublist (havailable.map _)
    · rw [hpurpose]
      exact hold.releasing
    · exact fun slot lockFd hmem => ⟨pass, hpass, havailable.subset hmem⟩
  · rw [Function.update_of_ne hj] at hother
    exact hs.passes_self hother

theorem endPass (hs : h.Sound) (i : Nat) : (h.endPass i).Sound := by
  apply hs.setPasses
  intro j other hother
  by_cases hj : j = i
  · subst hj
    rw [Function.update_self] at hother
    cases hother
  · rw [Function.update_of_ne hj] at hother
    exact hs.passes_self hother

/-- A pass that has tried its slots keeps some of its locks. -/
theorem setPhase (hs : h.Sound) (hpass : h.passes i = some pass) (phase : Phase)
    (available : List (Nat × Nat)) (havailable : available.Sublist pass.available) :
    (h.setPass i { pass with phase := phase, available := available }).Sound :=
  hs.setPass hpass rfl rfl (Nat.le_refl _) (hs.passes i pass hpass).next_le havailable

/-!
# Steps of the kernel
-/

theorem withKernel (hs : h.Sound) (kernel : Flocks Nat Descriptor)
    (hlawful : kernel.Lawful) (hkeeps : Flocks.Keeps h.kernel kernel fun _ => False)
    (hown : forall i pass, h.passes i = some pass -> forall slot lockFd,
      (slot, lockFd) ∈ pass.available ->
        (⟨pass.manager.process, false⟩ : Descriptor) ∈ kernel.descriptors lockFd) :
    (h.withKernel kernel).Sound := by
  have hheld : forall grant, grant ∈ h.grants -> grant.Held (h.withKernel kernel) ->
      grant.Held h := fun grant hg hopen =>
    hkeeps.isOpen grant.lockFd (hs.grant_opened grant hg) hopen
  refine { hs with
    lawful := hlawful, passes := ?_, grant_opened := ?_, grant_locked := ?_, grant_row := ?_ }
  · intro i pass hpass
    have hold := hs.passes i pass hpass
    refine { hold with locked := ?_, own := hown i pass hpass }
    intro slot lockFd hmem
    exact hkeeps.lockedBy slot lockFd (hold.locked slot lockFd hmem)
      (List.ne_nil_of_mem (hown i pass hpass slot lockFd hmem)) not_false
  · intro grant hg
    exact Nat.lt_of_lt_of_le (hs.grant_opened grant hg) hkeeps.opened_le
  · intro grant hg hopen
    exact hkeeps.lockedBy _ _ (hs.grant_locked grant hg (hheld grant hg hopen)) hopen not_false
  · intro grant hg hopen
    exact hs.grant_row grant hg (hheld grant hg hopen)

theorem closeHandle (hs : h.Sound) (hg : grant ∈ h.grants) : (h.closeHandle grant).Sound := by
  apply setHandle
  apply hs.withKernel _ (hs.lawful.close _ _) (Flocks.keeps_close _ _ _)
  intro i pass hpass slot lockFd hmem
  have hold := hs.passes i pass hpass
  exact Flocks.mem_close (hold.own slot lockFd hmem)
    (Or.inl (hold.ungranted slot lockFd hmem grant hg).symm)

theorem beginRelease (hs : h.Sound) (hg : grant ∈ h.grants) : (h.beginRelease grant).Sound := by
  apply (hs.closeHandle hg).beginPass
  intro token slot hpurpose
  cases hpurpose
  exact ⟨grant, hg, rfl, rfl⟩

theorem inheritDescriptor (hs : h.Sound) (lockFd : Nat) (process : Process) :
    (h.withKernel (h.kernel.copy lockFd ⟨process, true⟩)).Sound := by
  apply hs.withKernel _ (hs.lawful.copy _ _) (Flocks.keeps_copy _ _ _)
  intro i pass hpass slot lockFd' hmem
  exact Flocks.mem_copy ((hs.passes i pass hpass).own slot lockFd' hmem)

theorem closeInherited (hs : h.Sound) (lockFd : Nat) (process : Process) :
    (h.withKernel (h.kernel.close lockFd ⟨process, true⟩)).Sound := by
  apply hs.withKernel _ (hs.lawful.close _ _) (Flocks.keeps_close _ _ _)
  intro i pass hpass slot lockFd' hmem
  exact Flocks.mem_close ((hs.passes i pass hpass).own slot lockFd' hmem) (Or.inr (by simp))

theorem exitProcess (hs : h.Sound) (process : Process) : (h.exitProcess process).Sound := by
  have hmine : forall i pass, (h.passes i).filter (·.manager.process ≠ process) = some pass ->
      h.passes i = some pass ∧ pass.manager.process ≠ process := by
    intro i pass hpass
    simpa [Option.filter_eq_some_iff] using hpass
  have hpasses := hs.setPasses (fun i => (h.passes i).filter (·.manager.process ≠ process))
    (fun j pass hpass => hs.passes_self (hmine j pass hpass).left)
  have hkernel := hpasses.withKernel (h.kernel.closeAll fun d => d.process = process)
    (hs.lawful.closeAll _) (Flocks.keeps_closeAll _ _) (by
      intro i pass hpass slot lockFd hmem
      have hpass := hmine i pass hpass
      refine Flocks.mem_closeAll.mpr ⟨(hs.passes i pass hpass.left).own slot lockFd hmem, ?_⟩
      simpa using hpass.right)
  exact { hkernel with passes := fun i pass hpass => { hkernel.passes i pass hpass with } }

/-- A slot that was locked becomes a lock of the pass that tried it. -/
theorem tryLockSlot (hs : h.Sound) (hpass : h.passes i = some pass)
    (hnext : pass.next < pass.manager.capacity) : (h.tryLockSlot i pass).Sound := by
  unfold Host.tryLockSlot
  rcases hlock : h.kernel.tryLock pass.next ⟨pass.manager.process, false⟩ with ⟨kernel, _ | lockFd⟩
  · rcases Flocks.tryLock_none hlock with ⟨rfl, _⟩
    show (h.setPass i { pass with next := pass.next + 1, available := pass.available ++ [] }).Sound
    rw [List.append_nil]
    exact hs.setPass hpass rfl rfl (Nat.le_succ _) hnext (List.Sublist.refl _)
  · have hlawful := hs.lawful.tryLock pass.next ⟨pass.manager.process, false⟩
    have hkeeps := Flocks.keeps_tryLock (k := h.kernel) pass.next
      (⟨pass.manager.process, false⟩ : Descriptor) fun _ => False
    rw [hlock] at hlawful hkeeps
    rcases Flocks.tryLock_some hlock with ⟨hfree, rfl, hkernelEq⟩
    have hdescriptors : kernel.descriptors = Function.update h.kernel.descriptors
        h.kernel.opened [⟨pass.manager.process, false⟩] := by rw [hkernelEq]
    have hlockedBy : kernel.lockedBy = Function.update h.kernel.lockedBy pass.next
        (some h.kernel.opened) := by rw [hkernelEq]
    show ((h.withKernel kernel).setPass i { pass with
      next := pass.next + 1
      available := pass.available ++ [(pass.next, h.kernel.opened)] }).Sound
    have hopened : forall j other slot lockFd, h.passes j = some other ->
        (slot, lockFd) ∈ other.available -> lockFd < h.kernel.opened := by
      intro j other slot lockFd hother hmem
      exact hs.lawful.open_opened lockFd
        (hs.lawful.locked_open slot lockFd ((hs.passes j other hother).locked slot lockFd hmem))
    have hkernel := hs.withKernel kernel hlawful hkeeps (by
      intro j other hother slot lockFd hmem
      have hne := Nat.ne_of_lt (hopened j other slot lockFd hother hmem)
      rw [hdescriptors, Function.update_of_ne hne]
      exact (hs.passes j other hother).own slot lockFd hmem)
    have hold := hkernel.passes i pass hpass
    refine { hkernel with passes := ?_, distinct := ?_ }
    · intro j other hother
      by_cases hj : j = i
      · subst hj
        rw [Host.setPass_self] at hother
        cases hother
        refine ⟨?_, ?_, ?_, ?_, hnext, ?_, hold.releasing⟩
        · intro slot lockFd hmem
          rcases List.mem_append.mp hmem with hmem | hmem
          · exact hold.locked slot lockFd hmem
          · cases List.mem_singleton.mp hmem
            show kernel.lockedBy pass.next = some h.kernel.opened
            rw [hlockedBy, Function.update_self]
        · intro slot lockFd hmem
          rcases List.mem_append.mp hmem with hmem | hmem
          · exact hold.own slot lockFd hmem
          · cases List.mem_singleton.mp hmem
            show _ ∈ kernel.descriptors h.kernel.opened
            rw [hdescriptors, Function.update_self]
            exact List.mem_singleton.mpr rfl
        · intro slot lockFd hmem grant hg
          rcases List.mem_append.mp hmem with hmem | hmem
          · exact hold.ungranted slot lockFd hmem grant hg
          · cases List.mem_singleton.mp hmem
            exact Nat.ne_of_lt (hs.grant_opened grant hg)
        · intro slot lockFd hmem
          rcases List.mem_append.mp hmem with hmem | hmem
          · exact Nat.lt_succ_of_lt (hold.tried slot lockFd hmem)
          · cases List.mem_singleton.mp hmem
            exact Nat.lt_succ_self _
        · show ((pass.available ++ [(pass.next, h.kernel.opened)]).map (·.1)).Nodup
          rw [List.map_append, List.nodup_append]
          refine ⟨hold.slots, by simp, ?_⟩
          intro slot hslot other hother
          rcases List.mem_map.mp hslot with ⟨⟨slot', lockFd⟩, hmem, rfl⟩
          have hlt := hold.tried slot' lockFd hmem
          cases List.mem_singleton.mp hother
          exact Nat.ne_of_lt hlt
      · rw [Host.setPass_ne hj] at hother
        exact { hkernel.passes j other hother with }
    · intro j k other other' slot slot' lockFd hj hk hmem hmem'
      have hcases : forall j other slot lockFd,
          Function.update h.passes i (some { pass with
            next := pass.next + 1
            available := pass.available ++ [(pass.next, h.kernel.opened)] }) j = some other ->
          (slot, lockFd) ∈ other.available ->
          (j = i ∧ lockFd = h.kernel.opened) ∨
            exists old, h.passes j = some old ∧ (slot, lockFd) ∈ old.available := by
        intro j other slot lockFd hother hmem
        by_cases hj : j = i
        · subst hj
          rw [Function.update_self] at hother
          cases hother
          rcases List.mem_append.mp hmem with hmem | hmem
          · exact .inr ⟨pass, hpass, hmem⟩
          · cases List.mem_singleton.mp hmem
            exact .inl ⟨rfl, rfl⟩
        · rw [Function.update_of_ne hj] at hother
          exact .inr ⟨other, hother, hmem⟩
      rcases hcases j other slot lockFd hj hmem with ⟨rfl, hnew⟩ | ⟨old, hold, holdMem⟩
      · rcases hcases k other' slot' lockFd hk hmem' with ⟨rfl, _⟩ | ⟨old', hold', holdMem'⟩
        · rfl
        · exact absurd hnew (Nat.ne_of_lt (hopened k old' slot' lockFd hold' holdMem'))
      · rcases hcases k other' slot' lockFd hk hmem' with ⟨rfl, hnew⟩ | ⟨old', hold', holdMem'⟩
        · exact absurd hnew (Nat.ne_of_lt (hopened j old slot lockFd hold holdMem))
        · exact hs.distinct j k old old' slot slot' lockFd hold hold' holdMem holdMem'

/-- A lock that is closed by its pass was no other's. -/
theorem closeSlotLock (hs : h.Sound) (hpass : h.passes i = some pass) :
    (h.closeSlotLock i pass).Sound := by
  unfold Host.closeSlotLock
  cases havailable : pass.available with
  | nil =>
    cases pass.purpose with
    | acquiring token => exact (hs.setAcquirer _ _).endPass i
    | releasing token slot => exact hs.endPass i
    | observing => exact hs.endPass i
  | cons first rest =>
    rcases first with ⟨slot, lockFd⟩
    have hold := hs.passes i pass hpass
    have hfirst : (slot, lockFd) ∈ pass.available := havailable ▸ List.mem_cons_self
    have hslots : slot ∉ rest.map (·.1) := by
      have hnodup := hold.slots
      rw [havailable, List.map_cons, List.nodup_cons] at hnodup
      exact hnodup.left
    -- The other locks are of other descriptions, since a description has one path.
    have hother : forall j other slot' lockFd',
        (h.setPass i { pass with available := rest }).passes j = some other ->
        (slot', lockFd') ∈ other.available -> lockFd' ≠ lockFd := by
      rintro j other slot' lockFd' hj hmem rfl
      by_cases hsame : j = i
      · subst hsame
        rw [Host.setPass_self] at hj
        cases hj
        have hpath := hs.lawful.one_path slot' slot lockFd'
          (hold.locked slot' lockFd' (havailable ▸ List.mem_cons_of_mem _ hmem))
          (hold.locked slot lockFd' hfirst)
        exact hslots (hpath ▸ List.mem_map_of_mem hmem)
      · rw [Host.setPass_ne hsame] at hj
        exact hsame (hs.distinct j i other pass slot' slot lockFd' hj hpass hmem hfirst)
    have hrest := hs.setPhase hpass pass.phase rest (havailable ▸ List.sublist_cons_self _ _)
    have hkeeps := Flocks.keeps_unlock_close (k := h.kernel) lockFd
      (⟨pass.manager.process, false⟩ : Descriptor)
    have hheld : forall grant, grant ∈ h.grants ->
        Flocks.IsOpen ((h.kernel.unlock lockFd).close lockFd ⟨pass.manager.process, false⟩)
          grant.lockFd -> grant.Held h := fun grant hg hopen =>
      hkeeps.isOpen grant.lockFd (hs.grant_opened grant hg) hopen
    refine { hrest with
      lawful := (hs.lawful.unlock _).close _ _
      passes := ?_, grant_opened := ?_, grant_locked := ?_, grant_row := ?_ }
    · intro j other hj
      have hsound := hrest.passes j other hj
      have hown : forall slot' lockFd', (slot', lockFd') ∈ other.available ->
          (⟨other.manager.process, false⟩ : Descriptor) ∈ ((h.kernel.unlock lockFd).close lockFd
              ⟨pass.manager.process, false⟩).descriptors lockFd' := by
        intro slot' lockFd' hmem
        exact Flocks.mem_close (hsound.own slot' lockFd' hmem)
          (Or.inl (hother j other slot' lockFd' hj hmem))
      refine { hsound with locked := ?_, own := hown }
      intro slot' lockFd' hmem
      exact hkeeps.lockedBy slot' lockFd' (hsound.locked slot' lockFd' hmem)
        (List.ne_nil_of_mem (hown slot' lockFd' hmem)) (hother j other slot' lockFd' hj hmem)
    · exact fun grant hg => hs.grant_opened grant hg
    · intro grant hg hopen
      exact hkeeps.lockedBy _ _ (hs.grant_locked grant hg (hheld grant hg hopen)) hopen
        (hold.ungranted slot lockFd hfirst grant hg)
    · intro grant hg hopen
      exact hs.grant_row grant hg (hheld grant hg hopen)

/-!
# Grants and releases
-/

theorem withStore_available (hs : h.Sound) (hpass : h.passes i = some pass)
    (hrevises : LeaseStore.Revises h.store store fun row => row.slot ∈ pass.available.map (·.1)) :
    (h.withStore store).Sound := by
  apply hs.withStore hrevises
  intro row _ hslot grant hg hheld hbacks
  exact hs.not_available hpass hg hheld (hbacks.left ▸ hslot)

/-- A new handle for a lock that no pass has any more. -/
theorem granted (hs : h.Sound) (grant : Grant) (row : OwnerRow) (hbacks : grant.Backs row)
    (hlocked : h.kernel.lockedBy grant.slot = some grant.lockFd)
    (hnoPass : forall i pass, h.passes i = some pass ->
      forall slot, (slot, grant.lockFd) ∉ pass.available)
    (hfile : forall other, other ∈ h.grants -> other.lockFd ≠ grant.lockFd)
    (htoken : forall other, other ∈ h.grants -> other.token ≠ grant.token)
    (hknown : grant.token ∈ h.tokens) :
    Sound { h.withStore (h.store.insertOwner row) with grants := h.grants ++ [grant] } := by
  have hcases : forall other, other ∈ h.grants ++ [grant] -> other ∈ h.grants ∨ other = grant := by
    intro other hother
    rcases List.mem_append.mp hother with hother | hother
    · exact .inl hother
    · exact .inr (List.mem_singleton.mp hother)
  have hnodup : forall {κ : Type} (key : Grant -> κ), (h.grants.map key).Nodup ->
      (forall other, other ∈ h.grants -> key other ≠ key grant) ->
      ((h.grants ++ [grant]).map key).Nodup := by
    intro κ key hold hne
    rw [List.map_append, List.nodup_append]
    refine ⟨hold, by simp, ?_⟩
    intro value hvalue value' hvalue'
    rcases List.mem_map.mp hvalue with ⟨other, hother, rfl⟩
    rw [List.mem_singleton.mp hvalue']
    exact hne other hother
  have hwaiter : forall waiter : WaiterRow, waiter ∈ (h.store.insertOwner row).waiters ->
        waiter ∈ h.store.waiters ∧ waiter.token ≠ grant.token := by
    intro waiter hmem
    rcases List.mem_filter.mp hmem with ⟨hold, hne⟩
    exact ⟨hold, by simpa [hbacks.right.left] using hne⟩
  have hopen : grant.lockFd < h.kernel.opened :=
    hs.lawful.open_opened _ (hs.lawful.locked_open _ _ hlocked)
  constructor
  · exact hs.lawful
  · intro j other hother
    have hold := hs.passes j other hother
    refine { hold with ungranted := ?_, releasing := ?_ }
    · intro slot lockFd hmem g hg
      rcases hcases g hg with hg | rfl
      · exact hold.ungranted slot lockFd hmem g hg
      · rintro rfl
        exact hnoPass j other hother slot hmem
    · intro token slot hpurpose
      rcases hold.releasing token slot hpurpose with ⟨g, hg, hsame⟩
      exact ⟨g, List.mem_append_left _ hg, hsame⟩
  · exact hs.distinct
  · intro g hg
    rcases hcases g hg with hg | rfl
    · exact hs.grant_opened g hg
    · exact hopen
  · intro g hg hheld
    rcases hcases g hg with hg | rfl
    · exact hs.grant_locked g hg hheld
    · exact hlocked
  · exact hnodup _ hs.grant_files hfile
  · exact hnodup _ hs.grant_tokens htoken
  · intro g hg
    rcases hcases g hg with hg | rfl
    · exact hs.grant_known g hg
    · exact hknown
  · intro g hg hheld
    rcases hcases g hg with hg | rfl
    · rcases hs.grant_row g hg hheld with ⟨old, hold, hbacksOld⟩
      exact ⟨old, List.mem_append_left _ hold, hbacksOld⟩
    · exact ⟨row, List.mem_append_right _ (List.mem_singleton.mpr rfl), hbacks⟩
  · intro other hother
    rcases List.mem_append.mp hother with hold | hnew
    · rcases hs.row_grant other hold with ⟨g, hg, hbacksOld⟩
      exact ⟨g, List.mem_append_left _ hg, hbacksOld⟩
    · rw [List.mem_singleton.mp hnew]
      exact ⟨grant, List.mem_append_right _ (List.mem_singleton.mpr rfl), hbacks⟩
  · intro waiter hmem
    exact hs.waiter_known waiter (hwaiter waiter hmem).left
  · intro waiter hmem g hg
    rcases hcases g hg with hg | rfl
    · exact hs.waiter_fresh waiter (hwaiter waiter hmem).left g hg
    · exact (hwaiter waiter hmem).right.symm

theorem commitGrant (hs : h.Sound) (hpass : h.passes i = some pass) {waiter : WaiterRow}
    {slot lockFd : Nat} {now : Int} (hwaiter : waiter ∈ h.store.waiters)
    (havailable : (slot, lockFd) ∈ pass.available) :
    (h.commitGrant i pass ((h.store.reconcile h.alive (pass.available.map (·.1))).insertOwner
        (waiter.granted slot now)) (waiter.granted slot now) lockFd).Sound := by
  have hold := hs.passes i pass hpass
  have hreconciled := hs.withStore_available hpass
    (h.store.reconcile_revises h.alive (pass.available.map (·.1)))
  have hclosing := hreconciled.setPhase hpass .closing (pass.available.filter (·.1 ≠ slot))
    List.filter_sublist
  have hgranted := hclosing.granted
    { manager := pass.manager
      token := waiter.token
      identity := waiter.identity
      slot := slot
      lockFd := lockFd }
    (waiter.granted slot now) ⟨rfl, rfl, rfl⟩ (hold.locked slot lockFd havailable)
    (by
      intro j other hother slot' hmem
      by_cases hj : j = i
      · subst hj
        rw [Host.setPass_self] at hother
        cases hother
        rcases List.mem_filter.mp hmem with ⟨hmem, hne⟩
        have hpath := hs.lawful.one_path slot' slot lockFd (hold.locked slot' lockFd hmem)
          (hold.locked slot lockFd havailable)
        simp [hpath] at hne
      · rw [Host.setPass_ne hj] at hother
        exact hj (hs.distinct j i other pass slot' slot lockFd hother hpass hmem havailable))
    (fun other hother => hold.ungranted slot lockFd havailable other hother)
    (fun other hother => hs.waiter_fresh waiter hwaiter other hother)
    (hs.waiter_known waiter hwaiter)
  exact hgranted.setHandle waiter.token .granted

end Host.Sound

variable {h h' : Host} {i : Nat} {pass : Pass}

variable {pairs : List (Nat × Nat)}

theorem mem_of_lookup {slot lockFd : Nat}
    (hlookup : pairs.lookup slot = some lockFd) : (slot, lockFd) ∈ pairs := by
  rcases List.lookup_eq_some_iff.mp hlookup with ⟨before, after, rfl, _⟩
  exact List.mem_append_right _ List.mem_cons_self

theorem exists_lookup {slot : Nat}
    (hslot : slot ∈ pairs.map (·.1)) : exists lockFd, pairs.lookup slot = some lockFd := by
  cases hlookup : pairs.lookup slot with
  | some lockFd => exact ⟨lockFd, rfl⟩
  | none =>
    rcases List.mem_map.mp hslot with ⟨⟨slot', lockFd⟩, hmem, rfl⟩
    have hne := List.lookup_eq_none_iff.mp hlookup (slot', lockFd) hmem
    simp at hne

/-- What the transaction of `_try_acquire` leaves. -/
inductive Host.Acquired (h : Host) (i : Nat) (pass : Pass) (now : Int) : Host -> Prop where
  | unchanged (available : List (Nat × Nat)) (hsub : available.Sublist pass.available) :
      Acquired h i pass now (h.setPass i { pass with phase := .closing, available := available })
  | refused (token : String) : Acquired h i pass now
        ((h.withStore ((h.store.reconcile h.alive (pass.available.map (·.1))).deleteWaiter
          token)).setPass i { pass with phase := .closing })
  | granted (waiter : WaiterRow) (slot lockFd : Nat) (hwaiter : waiter ∈ h.store.waiters)
      (hcancelled : h.store.identityCancelled waiter.identity = false)
      (havailable : (slot, lockFd) ∈ pass.available) :
      Acquired h i pass now (h.commitGrant i pass
          ((h.store.reconcile h.alive (pass.available.map (·.1))).insertOwner
            (waiter.granted slot now)) (waiter.granted slot now) lockFd)

theorem Host.transactAcquire_acquired (h : Host) (i : Nat) (pass : Pass) (token : String)
    (now : Int) (outcome : Outcome) :
    h.Acquired i pass now (h.transactAcquire i pass token now outcome) := by
  unfold Host.transactAcquire
  by_cases hearly : (pass.available.isEmpty || decide (outcome = .failsEarly)) = true
  · rw [if_pos hearly]
    exact .unchanged _ (List.Sublist.refl _)
  · rw [if_neg hearly]
    rcases hgrant : h.store.tryGrant h.alive (pass.available.map (·.1)) pass.manager.aging token
      now with ⟨store, chosen⟩
    rw [hgrant]
    rcases LeaseStore.tryGrant_cases hgrant with ⟨rfl, hstore⟩ |
      ⟨waiter, slot, hwaiter, _, hcancelled, hslot, rfl, rfl⟩
    · simp only [Option.bind_none]
      by_cases hcommits : outcome = .commits
      · rw [if_pos hcommits]
        rcases hstore with rfl | rfl
        · exact .unchanged _ (List.Sublist.refl _)
        · exact .refused token
      · rw [if_neg hcommits]
        exact .unchanged _ (List.Sublist.refl _)
    · rcases exists_lookup hslot with ⟨lockFd, hlookup⟩
      have hchosen : (pass.available.lookup (waiter.granted slot now).slot).map
          ((waiter.granted slot now), ·) = some (waiter.granted slot now, lockFd) := by
        show (pass.available.lookup slot).map _ = _
        rw [hlookup]
        rfl
      simp only [Option.bind_some, hchosen]
      by_cases hcommits : outcome = .commits
      · rw [if_pos hcommits]
        exact .granted waiter slot lockFd hwaiter hcancelled (mem_of_lookup hlookup)
      · rw [if_neg hcommits]
        exact .unchanged _ List.filter_sublist

namespace Host.Sound

theorem reconciled (hs : h.Sound) (hpass : h.passes i = some pass) :
    (h.withStore (h.store.reconcile h.alive (pass.available.map (·.1)))).Sound :=
  hs.withStore_available hpass (h.store.reconcile_revises h.alive _)

theorem acquired (hs : h.Sound) (hpass : h.passes i = some pass) {now : Int}
    (hacquired : h.Acquired i pass now h') : h'.Sound := by
  cases hacquired with
  | unchanged available hsub => exact hs.setPhase hpass .closing available hsub
  | refused token =>
    have hdeleted := (hs.reconciled hpass).withStore_kept (LeaseStore.deleteWaiter_revises _ token)
    exact hdeleted.setPhase hpass .closing pass.available (List.Sublist.refl _)
  | granted waiter slot lockFd hwaiter _ havailable =>
    exact hs.commitGrant hpass hwaiter havailable

theorem released (hs : h.Sound) (hpass : h.passes i = some pass) {slot : Nat}
    (hpurpose : pass.purpose = .releasing token slot)
    (hslot : slot ∈ pass.available.map (·.1)) :
    (h.withStore (h.store.deleteOwner token)).Sound := by
  apply hs.withStore (h.store.deleteOwner_revises token)
  intro row _ htoken grant hg hheld hbacks
  rcases (hs.passes i pass hpass).releasing token slot hpurpose with ⟨mine, hmine, hsame, rfl⟩
  have hgrant : grant = mine := hs.grant_unique_token hg hmine
    (hbacks.right.left.symm.trans (htoken.trans hsame.symm))
  exact hs.not_available hpass hg hheld (hgrant ▸ hslot)

theorem transactRelease (hs : h.Sound) (hpass : h.passes i = some pass)
    {slot : Nat} (hpurpose : pass.purpose = .releasing token slot) (outcome : Outcome) :
    (h.transactRelease i pass token slot outcome).Sound := by
  unfold Host.transactRelease
  split
  · case isTrue hdeletes =>
    simp only [Bool.and_eq_true, decide_eq_true_eq] at hdeletes
    exact (hs.released hpass hpurpose hdeletes.left).setPhase hpass .closing pass.available
      (List.Sublist.refl _)
  · exact hs.setPhase hpass .closing pass.available (List.Sublist.refl _)

theorem transactStatus (hs : h.Sound) (hpass : h.passes i = some pass) (outcome : Outcome) :
    (h.transactStatus i pass outcome).Sound := by
  unfold Host.transactStatus
  split
  · exact hs.setPhase hpass .reconciling pass.available (List.Sublist.refl _)
  · exact hs.setPhase hpass .closing pass.available (List.Sublist.refl _)

end Host.Sound

variable {grant : Grant}

theorem Host.grantOf_mem (hgrant : h.grantOf token = some grant) :
    grant ∈ h.grants ∧ grant.token = token := by
  exact ⟨List.mem_of_find?_eq_some hgrant, by simpa using List.find?_some hgrant⟩

theorem Host.usable_mem {state : HandleState}
    (hgrant : h.usable token state = some grant) : grant ∈ h.grants ∧ grant.token = token := by
  exact Host.grantOf_mem (Option.filter_eq_some_iff.mp hgrant).left

theorem Host.Sound.apply (hs : h.Sound) {event : Event} (happly : h.apply event = some h') :
    h'.Sound := by
  cases event <;> simp only [Host.apply, Option.bind_eq_some_iff, Option.map_eq_some_iff,
    Option.ite_none_left_eq_some, Option.ite_none_right_eq_some, Option.some.injEq] at happly
  case start process =>
    rw [← happly.right]
    exact { hs with passes := fun i pass hpass => { hs.passes i pass hpass with } }
  case exit process =>
    rw [← happly.right]
    exact hs.exitProcess process
  case openManager m process capacity aging =>
    rcases happly with ⟨_, store, hstore, rfl⟩
    rcases LeaseStore.initializeSchema_eq_some hstore with ⟨rfl, _⟩
    have hopened := hs.withStore_kept (LeaseStore.revises_of_owners rfl fun _ hrow => hrow)
    exact { hopened with passes := fun i pass hpass => { hopened.passes i pass hpass with } }
  case enqueue m token owner now =>
    rcases happly with ⟨manager, _, hfresh, store, hstore, rfl⟩
    rcases LeaseStore.enqueue_eq_some hstore with ⟨howners, _, hwaiters, _⟩
    exact (hs.enqueued howners hwaiters hfresh).setAcquirer token _
  case tryAcquire token now =>
    rcases happly with ⟨acquirer, _, _, rfl⟩
    apply ((hs.setAcquirer _ _).terminate _ _).beginPass
    intro token slot hpurpose
    cases hpurpose
  case giveUp token =>
    rcases happly with ⟨acquirer, _, _, rfl⟩
    exact (hs.withStore_kept (h.store.deleteWaiter_revises token)).setAcquirer token none
  case recheck token =>
    rcases happly with ⟨grant, hgrant, acquirer, _, rfl⟩
    split
    · exact (hs.setAcquirer token none).beginRelease (Host.usable_mem hgrant).left
    · exact (hs.setAcquirer token none).setHandle token .returned
  case attachProcess token child deadlineAt =>
    rcases happly with ⟨grant, _, _, store, hstore, rfl⟩
    have hattached := hs.withStore_kept (LeaseStore.attachProcess_revises hstore)
    exact { hattached with
      passes := fun i pass hpass => { hattached.passes i pass hpass with } }
  case release token =>
    rcases happly with ⟨grant, hgrant, rfl⟩
    exact hs.beginRelease (Host.usable_mem hgrant).left
  case relinquishTransferredDescriptor token =>
    rcases happly with ⟨grant, hgrant, rfl⟩
    exact hs.closeHandle (Host.usable_mem hgrant).left
  case status m now =>
    rcases happly with ⟨manager, _, rfl⟩
    apply (hs.terminate _ _).beginPass
    intro token slot hpurpose
    cases hpurpose
  case cancelOwner m row =>
    rcases happly with ⟨manager, _, rfl⟩
    exact (hs.withStore_kept (h.store.cancelOwner_revises row)).terminate _ _
  case cancelExactOwnerProcess m row requester child =>
    rcases happly with ⟨manager, _, store, hstore, rfl⟩
    exact (hs.withStore_kept (LeaseStore.cancelExactOwnerProcess_revises hstore)).terminate _ _
  case tryLockSlot i =>
    rcases happly with ⟨pass, hpass, hready, rfl⟩
    rw [Bool.and_eq_true, decide_eq_true_eq, decide_eq_true_eq] at hready
    exact hs.tryLockSlot hpass hready.right
  case transact i now outcome =>
    rcases happly with ⟨pass, hpass, _, happly⟩
    cases hpurpose : pass.purpose with
    | acquiring token =>
      rw [hpurpose] at happly
      rw [← Option.some.inj happly]
      exact hs.acquired hpass (h.transactAcquire_acquired i pass token now outcome)
    | releasing token slot =>
      rw [hpurpose] at happly
      rw [← Option.some.inj happly]
      exact hs.transactRelease hpass hpurpose outcome
    | observing =>
      rw [hpurpose] at happly
      rw [← Option.some.inj happly]
      exact hs.transactStatus hpass outcome
  case reconcile i outcome =>
    rcases happly with ⟨pass, hpass, _, happly⟩
    by_cases hcommits : outcome = .commits
    · rw [if_pos hcommits] at happly
      rw [← Option.some.inj happly]
      exact (hs.reconciled hpass).setPhase hpass .closing pass.available (List.Sublist.refl _)
    · rw [if_neg hcommits] at happly
      rw [← Option.some.inj happly]
      exact hs.setPhase hpass .closing pass.available (List.Sublist.refl _)
  case closeSlotLock i =>
    rcases happly with ⟨pass, hpass, _, rfl⟩
    exact hs.closeSlotLock hpass
  case inheritDescriptor lockFd process =>
    rw [← happly.right]
    exact hs.inheritDescriptor lockFd process
  case closeInherited lockFd process =>
    rw [← happly]
    exact hs.closeInherited lockFd process

theorem Host.Sound.step (hs : h.Sound) (event : Event) : (h.step event).Sound := by
  unfold Host.step
  cases happly : h.apply event with
  | none => exact hs
  | some h' => exact hs.apply happly

/-!
# What one step can do to grants and rows
-/

/-- The pass whose step an event is. -/
def Host.acting (h : Host) : Event -> Option Pass
  | .tryLockSlot i => h.passes i
  | .transact i _ _ => h.passes i
  | .reconcile i _ => h.passes i
  | .closeSlotLock i => h.passes i
  | _ => none

/-- The step is of a pass that locked the slot. -/
def Host.HasSlot (h : Host) (event : Event) (slot : Nat) : Prop :=
  exists pass, h.acting event = some pass ∧ slot ∈ pass.available.map (·.1)

/-- A row that a waiter got. -/
structure Host.NewRow (h : Host) (event : Event) (row : OwnerRow) : Prop where
  waiter : exists waiter, waiter ∈ h.store.waiters ∧ waiter.token = row.token ∧
    waiter.identity = row.identity
  uncancelled : h.store.identityCancelled row.identity = false
  childless : row.child = none
  transact : exists i now outcome pass token, event = .transact i now outcome ∧
    h.passes i = some pass ∧ pass.purpose = .acquiring token ∧ row.slot ∈ pass.available.map (·.1)

def Event.Attaches (event : Event) : Prop :=
  exists token child deadlineAt, event = .attachProcess token child deadlineAt

structure Host.Moves (h : Host) (event : Event) (h' : Host) : Prop where
  grants_of : forall grant, grant ∈ h'.grants -> grant ∈ h.grants ∨ h.HasSlot event grant.slot
  grants_kept : forall grant, grant ∈ h.grants -> grant ∈ h'.grants
  rows_of : forall row', row' ∈ h'.store.owners ->
    (exists row, row ∈ h.store.owners ∧ LeaseStore.SamePlace row row') ∨ h.NewRow event row'
  rows_kept : forall row, row ∈ h.store.owners ->
    (exists row', row' ∈ h'.store.owners ∧ LeaseStore.SamePlace row row') ∨ h.HasSlot event row.slot
  capacity : h'.store.capacity = h.store.capacity ∨
    ((h.store.capacity = none ∨ h.store.owners = []) ∧ h'.store.owners = h.store.owners)
  waiters_of : forall row, row ∈ h'.store.waiters -> row ∈ h.store.waiters ∨ row.token ∉ h.tokens
  tokens : forall token, token ∈ h.tokens -> token ∈ h'.tokens
  unattached : event.Attaches ∨ (h'.attached = h.attached ∧
    forall row', row' ∈ h'.store.owners -> row' ∈ h.store.owners ∨ h.NewRow event row')
  tombstones : forall identity, h.store.identityCancelled identity = true ->
    h.store.inUse identity = true -> h'.store.identityCancelled identity = true

namespace Host.Moves

variable {event : Event}

theorem of_revises (hgrants : h'.grants = h.grants) {freed : OwnerRow -> Prop}
    (hrevises : LeaseStore.Revises h.store h'.store freed)
    (hfreed : forall row, row ∈ h.store.owners -> freed row -> h.HasSlot event row.slot)
    (hcapacity : h'.store.capacity = h.store.capacity) (htokens : h'.tokens = h.tokens)
    (hunattached : event.Attaches ∨ (h'.attached = h.attached ∧
      forall row', row' ∈ h'.store.owners -> row' ∈ h.store.owners))
    (htombstones : forall identity, h.store.identityCancelled identity = true ->
      h.store.inUse identity = true -> h'.store.identityCancelled identity = true) :
    h.Moves event h' := by
  constructor
  · intro grant hg
    exact .inl (hgrants ▸ hg)
  · intro grant hg
    exact hgrants ▸ hg
  · intro row' hrow'
    exact .inl (hrevises.owners_of row' hrow')
  · intro row hrow
    by_cases hf : freed row
    · exact .inr (hfreed row hrow hf)
    · exact .inl (hrevises.owners_kept row hrow hf)
  · exact .inl hcapacity
  · intro row hrow
    exact .inl (hrevises.waiters_of row hrow)
  · intro token htoken
    exact htokens ▸ htoken
  · exact hunattached.imp_right fun h => ⟨h.left, fun row' hrow' => Or.inl (h.right row' hrow')⟩
  · exact htombstones

theorem of_owners (hgrants : h'.grants = h.grants) (howners : h'.store.owners = h.store.owners)
    (hwaiters : forall row, row ∈ h'.store.waiters -> row ∈ h.store.waiters)
    (hcapacity : h'.store.capacity = h.store.capacity) (htokens : h'.tokens = h.tokens)
    (hattached : h'.attached = h.attached)
    (htombstones : forall identity, h.store.identityCancelled identity = true ->
      h.store.inUse identity = true -> h'.store.identityCancelled identity = true) :
    h.Moves event h' :=
  of_revises hgrants (LeaseStore.revises_of_owners howners hwaiters)
    (fun _ _ hfalse => hfalse.elim) hcapacity htokens
    (Or.inr ⟨hattached, fun _ hrow => howners ▸ hrow⟩) htombstones

theorem of_store (hgrants : h'.grants = h.grants) (hstore : h'.store = h.store)
    (htokens : h'.tokens = h.tokens) (hattached : h'.attached = h.attached) :
    h.Moves event h' :=
  of_owners hgrants (by rw [hstore]) (fun _ hrow => hstore ▸ hrow) (by rw [hstore]) htokens
    hattached fun _ hcancelled _ => hstore ▸ hcancelled

end Host.Moves

theorem Host.moves (hs : h.Sound) {event : Event} (happly : h.apply event = some h') :
    h.Moves event h' := by
  cases event <;> simp only [Host.apply, Option.bind_eq_some_iff, Option.map_eq_some_iff,
    Option.ite_none_left_eq_some, Option.ite_none_right_eq_some, Option.some.injEq] at happly
  case start process =>
    rw [← happly.right]
    exact .of_store rfl rfl rfl rfl
  case exit process =>
    rw [← happly.right]
    exact .of_store rfl rfl rfl rfl
  case openManager m process capacity aging =>
    rcases happly with ⟨_, store, hstore, rfl⟩
    rcases LeaseStore.initializeSchema_eq_some hstore with ⟨rfl, hcapacity⟩
    have hopened : h.Moves (.openManager m process capacity aging) h := .of_store rfl rfl rfl rfl
    refine { hopened with capacity := ?_ }
    rcases hcapacity with hsame | hnone | hempty
    · exact .inl hsame.symm
    · exact .inr ⟨Or.inl hnone, rfl⟩
    · exact .inr ⟨Or.inr hempty, rfl⟩
  case enqueue m token owner now =>
    rcases happly with ⟨manager, _, hfresh, store, hstore, rfl⟩
    rcases LeaseStore.enqueue_eq_some hstore with ⟨howners, hcapacity, hwaiters, hpruned⟩
    constructor
    · exact fun grant hg => Or.inl hg
    · exact fun grant hg => hg
    · exact fun row hrow => Or.inl ⟨row, howners ▸ hrow, .refl row⟩
    · exact fun row hrow => Or.inl ⟨row, howners.symm ▸ hrow, .refl row⟩
    · exact .inl hcapacity
    · intro row hrow
      rcases hwaiters row hrow with hold | hnew
      · exact .inl hold
      · exact .inr (hnew ▸ hfresh)
    · exact fun other hother => List.mem_cons_of_mem _ hother
    · exact .inr ⟨rfl, fun row hrow => Or.inl (howners ▸ hrow)⟩
    · intro identity hcancelled huse
      rw [show LeaseStore.identityCancelled (Host.store _) identity =
        (h.store.pruneCancelled now).identityCancelled identity from
          LeaseStore.identityCancelled_congr hpruned identity]
      exact LeaseStore.identityCancelled_prune now hcancelled huse
  case tryAcquire token now =>
    rcases happly with ⟨acquirer, _, _, rfl⟩
    exact .of_store rfl rfl rfl rfl
  case giveUp token =>
    rcases happly with ⟨acquirer, _, _, rfl⟩
    exact .of_owners rfl rfl (fun _ hrow => (List.mem_filter.mp hrow).left) rfl rfl rfl
      fun _ hcancelled _ => hcancelled
  case recheck token =>
    rcases happly with ⟨grant, hgrant, acquirer, _, rfl⟩
    split
    · exact .of_store rfl rfl rfl rfl
    · exact .of_store rfl rfl rfl rfl
  case attachProcess token child deadlineAt =>
    rcases happly with ⟨grant, _, _, store, hstore, rfl⟩
    refine .of_revises rfl (LeaseStore.attachProcess_revises hstore)
      (fun _ _ hfalse => hfalse.elim) ?_ rfl (Or.inl ⟨token, child, deadlineAt, rfl⟩) ?_
    · rcases LeaseStore.attachProcess_eq_some hstore with ⟨rfl, _⟩
      rfl
    · rcases LeaseStore.attachProcess_eq_some hstore with ⟨rfl, _⟩
      exact fun _ hcancelled _ => hcancelled
  case release token =>
    rcases happly with ⟨grant, hgrant, rfl⟩
    exact .of_store rfl rfl rfl rfl
  case relinquishTransferredDescriptor token =>
    rcases happly with ⟨grant, hgrant, rfl⟩
    exact .of_store rfl rfl rfl rfl
  case status m now =>
    rcases happly with ⟨manager, _, rfl⟩
    exact .of_store rfl rfl rfl rfl
  case cancelOwner m row =>
    rcases happly with ⟨manager, _, rfl⟩
    exact .of_owners rfl rfl (fun _ hrow => (List.mem_filter.mp hrow).left) rfl rfl rfl
      fun _ hcancelled huse => LeaseStore.identityCancelled_cancel row hcancelled huse
  case cancelExactOwnerProcess m row requester child =>
    rcases happly with ⟨manager, _, store, hstore, rfl⟩
    rw [LeaseStore.cancelExactOwnerProcess_eq_some hstore]
    exact .of_owners rfl rfl (fun _ hrow => hrow) rfl rfl rfl
      fun _ hcancelled huse => LeaseStore.identityCancelled_cancel row hcancelled huse
  case tryLockSlot i =>
    rcases happly with ⟨pass, hpass, _, rfl⟩
    exact .of_store rfl rfl rfl rfl
  case transact i now outcome =>
    rcases happly with ⟨pass, hpass, _, happly⟩
    have hslot : forall slot, slot ∈ pass.available.map (·.1) ->
        h.HasSlot (.transact i now outcome) slot := fun slot hmem => ⟨pass, hpass, hmem⟩
    cases hpurpose : pass.purpose with
    | acquiring token =>
      rw [hpurpose] at happly
      have hacquired := h.transactAcquire_acquired i pass token now outcome
      rw [Option.some.inj happly] at hacquired
      cases hacquired with
      | unchanged available hsub => exact .of_store rfl rfl rfl rfl
      | refused token =>
        have hreconcile := h.store.reconcile_revises h.alive (pass.available.map (·.1))
        have hrefused : LeaseStore.Revises h.store
            ((h.store.reconcile h.alive (pass.available.map (·.1))).deleteWaiter token)
            fun row => row.slot ∈ pass.available.map (·.1) :=
          ⟨hreconcile.owners_of, hreconcile.owners_kept, fun row hrow =>
            hreconcile.waiters_of row (List.mem_filter.mp hrow).left⟩
        exact .of_revises rfl hrefused (fun row _ hmem => hslot row.slot hmem) rfl rfl
          (Or.inr ⟨rfl, fun _ hrow => (List.mem_filter.mp hrow).left⟩)
          fun _ hcancelled _ => hcancelled
      | granted waiter slot lockFd hwaiter hcancelled havailable =>
        have hmem : slot ∈ pass.available.map (·.1) :=
          List.mem_map_of_mem (f := fun entry : Nat × Nat => entry.1) havailable
        have hreconcile := h.store.reconcile_revises h.alive (pass.available.map (·.1))
        have hnewRow : h.NewRow (.transact i now outcome) (waiter.granted slot now) :=
          ⟨⟨waiter, hwaiter, rfl, rfl⟩, hcancelled, rfl,
            ⟨i, now, outcome, pass, token, rfl, hpass, hpurpose, hmem⟩⟩
        constructor
        · intro grant hg
          rcases List.mem_append.mp hg with hg | hg
          · exact .inl hg
          · rw [List.mem_singleton.mp hg]
            exact .inr (hslot slot hmem)
        · exact fun grant hg => List.mem_append_left _ hg
        · intro row' hrow'
          rcases List.mem_append.mp hrow' with hold | hnew
          · exact .inl (hreconcile.owners_of row' hold)
          · rw [List.mem_singleton.mp hnew]
            exact .inr hnewRow
        · intro row hrow
          by_cases hfreed : row.slot ∈ pass.available.map (·.1)
          · exact .inr (hslot row.slot hfreed)
          · rcases hreconcile.owners_kept row hrow hfreed with ⟨row', hrow', hplace⟩
            exact .inl ⟨row', List.mem_append_left _ hrow', hplace⟩
        · exact .inl rfl
        · exact fun row hrow =>
            Or.inl (hreconcile.waiters_of row (List.mem_filter.mp hrow).left)
        · exact fun _ htoken => htoken
        · refine .inr ⟨rfl, ?_⟩
          intro row' hrow'
          rcases List.mem_append.mp hrow' with hold | hnew
          · exact .inl (List.mem_filter.mp hold).left
          · rw [List.mem_singleton.mp hnew]
            exact .inr hnewRow
        · exact fun _ hcancelled _ => hcancelled
    | releasing token slot =>
      rw [hpurpose] at happly
      rw [← Option.some.inj happly]
      unfold Host.transactRelease
      split
      · case isTrue hdeletes =>
        simp only [Bool.and_eq_true, decide_eq_true_eq] at hdeletes
        refine .of_revises rfl (h.store.deleteOwner_revises token) ?_ rfl rfl
          (Or.inr ⟨rfl, fun _ hrow => (List.mem_filter.mp hrow).left⟩)
          fun _ hcancelled _ => hcancelled
        intro row hrow htoken
        rcases hs.row_grant row hrow with ⟨grant, hg, hbacks⟩
        rcases (hs.passes i pass hpass).releasing token slot hpurpose with
          ⟨mine, hmine, hsame, rfl⟩
        have hgrant : grant = mine := hs.grant_unique_token hg hmine
          (hbacks.right.left.symm.trans (htoken.trans hsame.symm))
        rw [hbacks.left, hgrant]
        exact hslot mine.slot hdeletes.left
      · exact .of_store rfl rfl rfl rfl
    | observing =>
      rw [hpurpose] at happly
      rw [← Option.some.inj happly]
      unfold Host.transactStatus
      split
      · exact .of_store rfl rfl rfl rfl
      · exact .of_store rfl rfl rfl rfl
  case reconcile i outcome =>
    rcases happly with ⟨pass, hpass, _, happly⟩
    by_cases hcommits : outcome = .commits
    · rw [if_pos hcommits] at happly
      rw [← Option.some.inj happly]
      exact .of_revises rfl (h.store.reconcile_revises h.alive _)
        (fun row _ hmem => ⟨pass, hpass, hmem⟩) rfl rfl
        (Or.inr ⟨rfl, fun _ hrow => (List.mem_filter.mp hrow).left⟩)
        fun _ hcancelled _ => hcancelled
    · rw [if_neg hcommits] at happly
      rw [← Option.some.inj happly]
      exact .of_store rfl rfl rfl rfl
  case closeSlotLock i =>
    rcases happly with ⟨pass, hpass, _, rfl⟩
    unfold Host.closeSlotLock
    split
    · exact .of_store rfl rfl rfl rfl
    · split <;> exact .of_store rfl rfl rfl rfl
  case inheritDescriptor lockFd process =>
    rw [← happly.right]
    exact .of_store rfl rfl rfl rfl
  case closeInherited lockFd process =>
    rw [← happly]
    exact .of_store rfl rfl rfl rfl

theorem Host.moves_step (hs : h.Sound) (event : Event) : h.Moves event (h.step event) := by
  unfold Host.step
  cases happly : h.apply event with
  | none => exact .of_store rfl rfl rfl rfl
  | some h' => exact h.moves hs happly

theorem sound_run (events : List Event) : (run Host.step {} events).Sound :=
  invariant_run (fun _ event hs => hs.step event) sound_empty events

/-!
# The slots along a run
-/

def Host.heldCount (h : Host) : Nat := h.grants.countP fun grant => grant.Held h

/-- The step is of a pass that has the lock of the slot. -/
def Host.HasLock (h : Host) (event : Event) (slot : Nat) : Prop :=
  exists pass lockFd, h.acting event = some pass ∧ (slot, lockFd) ∈ pass.available ∧
    h.kernel.lockedBy slot = some lockFd

/--
A slot is granted only when no earlier grant of it is held, and an owners row
goes only under the lock of its slot.
-/
structure Host.Exclusive (h : Host) (event : Event) : Prop where
  granted : forall grant, grant ∈ (h.step event).grants -> grant ∉ h.grants ->
    forall earlier, earlier ∈ h.grants -> earlier.slot = grant.slot -> ¬ earlier.Held h
  removed : forall row, row ∈ h.store.owners ->
    (¬ exists row', row' ∈ (h.step event).store.owners ∧ row'.slot = row.slot ∧
      row'.token = row.token) ->
    h.HasLock event row.slot

/-- And no more grants are held than the capacity that `schema_meta` records. -/
structure Host.Fenced (h : Host) (event : Event) : Prop extends h.Exclusive event where
  bounded : (h.step event).heldCount ≤ (h.step event).store.capacity.getD 0

/-- An instance that tries to acquire has at most the recorded capacity. -/
def Host.WithinRecorded (h : Host) : Event -> Prop
  | .transact i _ _ =>
    forall pass, pass ∈ h.passes i -> forall token, pass.purpose = .acquiring token ->
      pass.manager.capacity ≤ h.store.capacity.getD 0
  | _ => True

/-- Every owners row is of a slot below the recorded capacity. -/
def Host.Bounded (h : Host) : Prop :=
  forall row, row ∈ h.store.owners -> row.slot < h.store.capacity.getD 0

variable {event : Event}

theorem Host.Bounded.step (hb : h.Bounded) (hs : h.Sound) (hrecorded : h.WithinRecorded event) :
    (h.step event).Bounded := by
  have hmoves := h.moves_step hs event
  intro row' hrow'
  rcases hmoves.capacity with hsame | ⟨hempty, howners⟩
  · rw [hsame]
    rcases hmoves.rows_of row' hrow' with ⟨row, hrow, hplace⟩ | hnew
    · rw [← hplace.left]
      exact hb row hrow
    · rcases hnew.transact with ⟨i, now, outcome, pass, token, rfl, hpass, hpurpose, hslot⟩
      rcases List.mem_map.mp hslot with ⟨⟨slot, lockFd⟩, hmem, hslotEq⟩
      have hpassSound := hs.passes i pass hpass
      have htried := hpassSound.tried slot lockFd hmem
      have hcapacity := hrecorded pass hpass token hpurpose
      have hnext := hpassSound.next_le
      omega
  · -- The capacity is replaced only while there are no rows.
    rw [howners] at hrow'
    rcases hempty with hnone | hempty
    · have hlt := hb row' hrow'
      rw [hnone] at hlt
      exact absurd hlt (Nat.not_lt_zero _)
    · rw [hempty] at hrow'
      cases hrow'

theorem Host.Sound.grant_slot_inj (hs : h.Sound) {grant grant' : Grant} (hg : grant ∈ h.grants)
    (hg' : grant' ∈ h.grants) (hheld : grant.Held h) (hheld' : grant'.Held h)
    (hslot : grant.slot = grant'.slot) : grant = grant' := by
  have hlocked := hs.grant_locked grant hg hheld
  rw [hslot, hs.grant_locked grant' hg' hheld'] at hlocked
  exact hs.grant_unique hg hg' (Option.some.inj hlocked).symm

/-- Held grants have different slots, each with a row below the recorded capacity. -/
theorem Host.heldCount_le (hs : h.Sound) (hb : h.Bounded) :
    h.heldCount ≤ h.store.capacity.getD 0 := by
  unfold Host.heldCount
  rw [List.countP_eq_length_filter]
  have hheld : forall grant, grant ∈ h.grants.filter (fun grant => decide (grant.Held h)) ->
      grant ∈ h.grants ∧ grant.Held h := by
    intro grant hmem
    simpa using List.mem_filter.mp hmem
  have hslots : ((h.grants.filter fun grant => decide (grant.Held h)).map (·.slot)).Nodup := by
    apply List.Nodup.map_on
    · intro grant hmem grant' hmem' hslot
      exact hs.grant_slot_inj (hheld grant hmem).left (hheld grant' hmem').left
        (hheld grant hmem).right (hheld grant' hmem').right hslot
    · exact (List.Nodup.of_map _ hs.grant_files).filter _
  have hbelow : (h.grants.filter fun grant => decide (grant.Held h)).map (·.slot) ⊆
      List.range (h.store.capacity.getD 0) := by
    intro slot hslot
    rcases List.mem_map.mp hslot with ⟨grant, hmem, rfl⟩
    rcases hs.grant_row grant (hheld grant hmem).left (hheld grant hmem).right with
      ⟨row, hrow, hbacks⟩
    rw [List.mem_range, ← hbacks.left]
    exact hb row hrow
  have hlength := (List.subperm_of_subset hslots hbelow).length_le
  rw [List.length_map, List.length_range] at hlength
  exact hlength

theorem Host.Sound.hasLock (hs : h.Sound) {slot : Nat} (hslot : h.HasSlot event slot) :
    h.HasLock event slot := by
  rcases hslot with ⟨pass, hacting, hslot⟩
  rcases List.mem_map.mp hslot with ⟨⟨slot, lockFd⟩, hmem, rfl⟩
  have hpass : exists i, h.passes i = some pass := by
    cases event <;> first | exact ⟨_, hacting⟩ | cases hacting
  rcases hpass with ⟨i, hpass⟩
  exact ⟨pass, lockFd, hacting, hmem, (hs.passes i pass hpass).locked slot lockFd hmem⟩

theorem Host.Sound.not_hasSlot (hs : h.Sound) (hg : grant ∈ h.grants)
    (hheld : grant.Held h) : ¬ h.HasSlot event grant.slot := by
  rintro ⟨pass, hacting, hslot⟩
  have hpass : exists i, h.passes i = some pass := by
    cases event <;> first | exact ⟨_, hacting⟩ | cases hacting
  rcases hpass with ⟨i, hpass⟩
  exact hs.not_available hpass hg hheld hslot

theorem Host.Sound.exclusive (hs : h.Sound) (event : Event) : h.Exclusive event := by
  have hmoves := h.moves_step hs event
  constructor
  · intro grant hgrant hnew earlier hearlier hslot hheld
    rcases hmoves.grants_of grant hgrant with hold | hhas
    · exact hnew hold
    · exact hs.not_hasSlot hearlier hheld (hslot ▸ hhas)
  · intro row hrow hgone
    rcases hmoves.rows_kept row hrow with ⟨row', hrow', hplace⟩ | hhas
    · exact absurd ⟨row', hrow', hplace.left.symm, hplace.right.left.symm⟩ hgone
    · exact hs.hasLock hhas

/-- Slots are exclusive in every run, whatever capacities the instances have. -/
theorem slots_exclusive_run (events : List Event) : Guarded Host.step Host.Exclusive {} events := by
  have hall : Guarded Host.step (fun _ _ => True) {} events :=
    guarded_of_forall (fun _ _ => trivial) ({} : Host) events
  exact guarded_invariant_imp (I := Host.Sound) (fun _ event hs _ => hs.step event)
    (fun _ event hs _ => hs.exclusive event) sound_empty hall

/-- A held slot is locked and has its owner row, and a row is of a grant. -/
theorem owners_locked_run (events : List Event) :
    let h := run Host.step {} events
    (forall row, row ∈ h.store.owners -> exists grant, grant ∈ h.grants ∧ grant.Backs row) ∧
      forall grant, grant ∈ h.grants -> grant.Held h ->
        h.kernel.lockedBy grant.slot = some grant.lockFd ∧
          exists row, row ∈ h.store.owners ∧ grant.Backs row := by
  have hs := sound_run events
  exact ⟨hs.row_grant, fun grant hgrant hheld =>
    ⟨hs.grant_locked grant hgrant hheld, hs.grant_row grant hgrant hheld⟩⟩

/--
In every run in which an instance that tries to acquire has at most the recorded
capacity, all slots are fenced at every step.
-/
theorem slots_fenced_run (events : List Event)
    (hrecorded : Guarded Host.step Host.WithinRecorded {} events) :
    Guarded Host.step Host.Fenced {} events := by
  apply guarded_invariant_imp (I := fun h => h.Sound ∧ h.Bounded) _ _ _ hrecorded
  · rintro h event ⟨hs, hb⟩ hwithin
    exact ⟨hs.step event, hb.step hs hwithin⟩
  · rintro h event ⟨hs, hb⟩ hwithin
    exact ⟨hs.exclusive event, Host.heldCount_le (hs.step event) (hb.step hs hwithin)⟩
  · refine ⟨sound_empty, ?_⟩
    intro row hrow
    cases hrow

instance (h : Host) (event : Event) : Decidable (h.WithinRecorded event) :=
  match event with
  | .transact i _ _ =>
    match hpass : h.passes i with
    | none => isTrue fun pass hmem => by rw [hpass] at hmem; cases hmem
    | some pass =>
      match hpurpose : pass.purpose with
      | .acquiring _ =>
        if hle : pass.manager.capacity ≤ h.store.capacity.getD 0 then
          isTrue fun pass' hmem _ _ => by
            rw [hpass] at hmem
            cases hmem
            exact hle
        else isFalse fun hall => hle (hall pass hpass _ hpurpose)
      | .releasing _ _ => isTrue fun pass' hmem _ hacquiring => by
          rw [hpass] at hmem
          cases hmem
          rw [hpurpose] at hacquiring
          cases hacquiring
      | .observing => isTrue fun pass' hmem _ hacquiring => by
          rw [hpass] at hmem
          cases hmem
          rw [hpurpose] at hacquiring
          cases hacquiring
  | .start _ | .exit _ | .openManager .. | .enqueue .. | .tryAcquire .. | .giveUp _
  | .recheck _ | .attachProcess .. | .release _ | .relinquishTransferredDescriptor _
  | .status .. | .cancelOwner .. | .cancelExactOwnerProcess .. | .tryLockSlot _
  | .reconcile .. | .closeSlotLock _ | .inheritDescriptor .. | .closeInherited .. =>
    isTrue trivial

def sampleService : Process := ⟨100, 5⟩

/-- A pass of an instance of capacity two that acquires a slot. -/
def acquireEvents (pass : Nat) (token : String) (now : Int) : List Event :=
  [.enqueue 0 token (.worker "p" "t" token) now, .tryAcquire token now,
    .tryLockSlot pass, .tryLockSlot pass, .transact pass now .commits,
    .closeSlotLock pass, .closeSlotLock pass]

/-- Another instance is opened with its own capacity while the first one is idle. -/
def narrowedEvents (capacity : Int) : List Event :=
  [.start sampleService, .openManager 0 sampleService 2 30000,
    .openManager 1 sampleService capacity 30000] ++
    acquireEvents 0 "a" 0 ++ [.recheck "a"] ++ acquireEvents 1 "b" 10

theorem slots_fenced_twoInstances : Guarded Host.step Host.Fenced {} (narrowedEvents 2) :=
  slots_fenced_run (narrowedEvents 2) (by decide +kernel)

/-- With a smaller capacity recorded, the first instance still grants both of its slots. -/
theorem narrowed_exceedsCapacity : ¬ forall events, Guarded Host.step Host.Fenced {} events := by
  intro hall
  have hlast := (guarded_append ({} : Host) (narrowedEvents 1) [.recheck "b"]).mp
    (hall (narrowedEvents 1 ++ [.recheck "b"]))
  exact absurd hlast.right.left.bounded (by decide +kernel)

end ValidationLease
end Oompah
