import Oompah.ContainerRepair.Executor
import Oompah.Foundation.Execution

/-!
# The remote under repair

The refs of the remote, the fetched refs and the evidence journal, together with
the writes of other processes to the refs, each before one command of the repair.
A push and a persistence callback happen at once.  A push fails only when the ref
is not where it is expected; a fetch never fails, as it does without a network.
-/

namespace Oompah
namespace ContainerRepair

open Foundation
open Foundation.Program (Yields)

abbrev Refs := String -> Option String

/--
The commands that the object store answers.  Merging the same commits twice gives
one answer, whereas the name of a merge commit is made of its time too.
-/
structure Git where
  isAncestor : String -> String -> Bool
  revList : String -> String -> Except String (List String)
  mergeTree : String -> String -> Option String
  worktreeMerge : String -> String -> Except MergeFailure String

namespace Git

structure Lawful (G : Git) : Prop where
  /-- A name that the query resolves is its own ancestor. -/
  refl : forall first second, G.isAncestor first second = true -> G.isAncestor second second = true
  trans : forall first second third,
    G.isAncestor first second = true -> G.isAncestor second third = true ->
      G.isAncestor first third = true
  /-- A merge commit has the merged parent as an ancestor. -/
  merged : forall child parent sha,
    G.worktreeMerge child parent = .ok sha -> G.isAncestor parent sha = true

end Git

structure Remote where
  refs : Refs
  fetched : Refs
  journal : Journal
  /-- What other writers do to the refs before each of the next commands. -/
  foreign : List (Refs -> Refs) := []

def setRef (refs : Refs) (branch sha : String) : Refs :=
  fun name => if name = branch then some sha else refs name

@[simp] theorem setRef_same (refs : Refs) (branch sha : String) :
    setRef refs branch sha branch = some sha :=
  if_pos rfl

theorem setRef_other (refs : Refs) {branch name : String} (sha : String)
    (h : name ≠ branch) : setRef refs branch sha name = refs name :=
  if_neg h

variable {branch : String}

namespace Remote

def disturbed (w : Remote) : Remote :=
  match w.foreign with
  | [] => w
  | write :: rest => { w with refs := write w.refs, foreign := rest }

def answer (G : Git) (w : Remote) : (r : GitRequest) -> Except RepairError (GitAnswer r) × Remote
  | .fetch => (.ok (), { w with fetched := w.refs })
  | .revParse branch => (.ok (w.fetched branch), w)
  | .isAncestor first second => (.ok (G.isAncestor first second), w)
  | .revList old selected => (.ok (G.revList old selected), w)
  | .mergeTree child parent => (.ok (G.mergeTree child parent), w)
  | .worktreeMerge child parent => (.ok (G.worktreeMerge child parent), w)
  | .push branch newSha expectedSha =>
    if w.refs branch = some expectedSha then
      (.ok true,
        { w with
          refs := setRef w.refs branch newSha
          fetched := setRef w.fetched branch newSha })
    else (.ok false, w)
  | .persist evidence => (.ok (), { w with journal := w.journal.record evidence })

def handle (G : Git) (w : Remote) (r : GitRequest) : Except RepairError (GitAnswer r) × Remote :=
  w.disturbed.answer G r

/-- No other writer touches a branch. -/
def Spares (branch : String) (w : Remote) : Prop :=
  forall write, write ∈ w.foreign -> forall refs, write refs branch = refs branch

@[simp] theorem disturbed_fetched (w : Remote) : w.disturbed.fetched = w.fetched := by
  unfold disturbed
  cases w.foreign <;> rfl

variable {w : Remote}

theorem disturbed_of_quiet (h : w.foreign = []) : w.disturbed = w := by
  unfold disturbed
  rw [h]

theorem disturbed_foreign_subset (w : Remote) : w.disturbed.foreign ⊆ w.foreign := by
  intro write hwrite
  unfold disturbed at hwrite
  cases hforeign : w.foreign with
  | nil =>
    rw [hforeign] at hwrite
    rw [← hforeign]
    exact hwrite
  | cons first rest =>
    rw [hforeign] at hwrite
    exact List.mem_cons_of_mem first hwrite

theorem Spares.disturbed (h : w.Spares branch) : w.disturbed.Spares branch := by
  intro write hwrite
  exact h write (w.disturbed_foreign_subset hwrite)

theorem Spares.ref (h : w.Spares branch) : w.disturbed.refs branch = w.refs branch := by
  unfold Spares at h
  unfold Remote.disturbed
  cases hforeign : w.foreign with
  | nil => rfl
  | cons write rest =>
    rw [hforeign] at h
    exact h write List.mem_cons_self w.refs

end Remote

/-!
# Commands that read

A predicate of worlds that other writers respect stands through every command
that reads.
-/

def Undisturbed (P : Remote -> Prop) : Prop :=
  forall w, P w -> P w.disturbed

namespace Repair

variable {G : Git} {I P : Remote -> Prop} {w : Remote}

theorem yields_reading {r : GitRequest} {value : GitAnswer r}
    (hread : forall w : Remote, w.answer G r = (.ok value, w) ∨ ¬ P w)
    (hP : Undisturbed P) (hI : forall w, P w -> I w) (h : P w) :
    Yields (Remote.handle G) I (Program.perform r) w (.ok value) P := by
  have hafter : P w.disturbed := hP w h
  have hanswer : Remote.handle G w r = (.ok value, w.disturbed) := by
    rcases hread w.disturbed with hanswer | hfails
    · exact hanswer
    · exact absurd hafter hfails
  have hyields : Yields (Remote.handle G) I (Program.perform r) w (Remote.handle G w r).1 P := by
    apply Program.yields_perform (hI w h)
    · rw [hanswer]
      exact hI _ hafter
    · rw [hanswer]
      exact hafter
  rw [hanswer] at hyields
  exact hyields

theorem yields_ancestor (first second : String) (hP : Undisturbed P)
    (hI : forall w, P w -> I w) (h : P w) :
    Yields (Remote.handle G) I (ancestor first second) w (.ok (G.isAncestor first second)) P :=
  yields_reading (r := .isAncestor first second) (fun _ => Or.inl rfl) hP hI h

theorem yields_revList (old selected : String) (hP : Undisturbed P)
    (hI : forall w, P w -> I w) (h : P w) :
    Yields (Remote.handle G) I (revList old selected) w (.ok (G.revList old selected)) P :=
  yields_reading (r := .revList old selected) (fun _ => Or.inl rfl) hP hI h

theorem yields_mergeTree (child parent : String) (hP : Undisturbed P)
    (hI : forall w, P w -> I w) (h : P w) :
    Yields (Remote.handle G) I (mergeTree child parent) w (.ok (G.mergeTree child parent)) P :=
  yields_reading (r := .mergeTree child parent) (fun _ => Or.inl rfl) hP hI h

theorem yields_worktreeMerge (child parent : String) (hP : Undisturbed P)
    (hI : forall w, P w -> I w) (h : P w) :
    Yields (Remote.handle G) I (worktreeMerge child parent) w
      (.ok (G.worktreeMerge child parent)) P :=
  yields_reading (r := .worktreeMerge child parent) (fun _ => Or.inl rfl) hP hI h

theorem yields_resolve {ref : Option String}
    (href : forall w, P w -> w.fetched branch = ref) (hP : Undisturbed P)
    (hI : forall w, P w -> I w) (h : P w) :
    Yields (Remote.handle G) I (resolve branch) w (.ok ref) P := by
  apply yields_reading (r := .revParse branch) _ hP hI h
  intro w
  by_cases hw : P w
  · left
    show (Except.ok (w.fetched branch), w) = _
    rw [href w hw]
    rfl
  · exact .inr hw

variable {Q : Remote -> Prop}

theorem yields_fetch (hP : Undisturbed P) (hI : forall w, P w -> I w)
    (hQ : forall w, P w -> Q { w with fetched := w.refs }) (hIQ : forall w, Q w -> I w) (h : P w) :
    Yields (Remote.handle G) I fetch w (.ok ()) Q := by
  have hafter := hQ _ (hP w h)
  exact Program.yields_perform (r := GitRequest.fetch) (hI w h) (hIQ _ hafter) hafter

theorem yields_persist (evidence : Evidence) (hP : Undisturbed P) (hI : forall w, P w -> I w)
    (hQ : forall w, P w -> Q { w with journal := w.journal.record evidence })
    (hIQ : forall w, Q w -> I w) (h : P w) :
    Yields (Remote.handle G) I (persist evidence) w (.ok ()) Q := by
  have hafter := hQ _ (hP w h)
  exact Program.yields_perform (r := GitRequest.persist evidence) (hI w h) (hIQ _ hafter) hafter

theorem yields_push {branch newSha expectedSha : String}
    (hP : Undisturbed P) (hI : forall w, P w -> I w)
    (href : forall w, P w -> w.refs branch = some expectedSha) (hQ : forall w, P w -> Q { w with
      refs := setRef w.refs branch newSha
      fetched := setRef w.fetched branch newSha })
    (hIQ : forall w, Q w -> I w) (h : P w) :
    Yields (Remote.handle G) I (push branch newSha expectedSha) w (.ok true) Q := by
  have hafter := hP w h
  have hanswer : Remote.handle G w (.push branch newSha expectedSha) =
      (.ok true, { w.disturbed with
        refs := setRef w.disturbed.refs branch newSha
        fetched := setRef w.disturbed.fetched branch newSha }) :=
    if_pos (href _ hafter)
  have hyields : Yields (Remote.handle G) I (push branch newSha expectedSha) w
      (Remote.handle G w (.push branch newSha expectedSha)).1 Q := by
    apply Program.yields_perform (hI w h)
    · rw [hanswer]
      exact hIQ _ (hQ _ hafter)
    · rw [hanswer]
      exact hQ _ hafter
  rw [hanswer] at hyields
  exact hyields

end Repair

/-!
# Branch names
-/

theorem validateBranch_ok {branch name : String}
    (h : validateBranch branch = .ok name) : name = branch := by
  unfold validateBranch at h
  dsimp only at h
  split at h
  · cases h
  · cases h
    rfl

variable {error : RepairError}

theorem validateBranch_error
    (h : validateBranch branch = .error error) : error.isRepairError = false := by
  unfold validateBranch at h
  dsimp only at h
  split at h
  · cases h
    rfl
  · cases h

theorem branchForContainer_error {plan : ContainerCycleRepairPlan} {containerId : String}
    (h : plan.branchForContainer containerId = .error error) :
    error.isRepairError = false := by
  unfold ContainerCycleRepairPlan.branchForContainer at h
  split at h
  · cases h
  · split at h
    · cases h
      rfl
    · cases h

namespace Repair

variable {G : Git} {I P : Remote -> Prop} {w : Remote}

theorem yields_refSha {ref : Option String} (hvalid : validateBranch branch = .ok branch)
    (href : forall w, P w -> w.fetched branch = ref) (hP : Undisturbed P)
    (hI : forall w, P w -> I w) (h : P w) :
    Yields (Remote.handle G) I (refSha branch) w (.ok ref) P := by
  unfold refSha
  rw [hvalid]
  exact yields_resolve href hP hI h

theorem yields_refSha_error
    (hvalid : validateBranch branch = .error error) (hI : forall w, P w -> I w)
    (h : P w) :
    Yields (Remote.handle G) I (refSha branch) w (.error error) P := by
  unfold refSha
  rw [hvalid]
  exact Program.yields_raise (hI w h) h

theorem yields_casPush {Q : Remote -> Prop} {branch newSha expectedSha : String}
    (hvalid : validateBranch branch = .ok branch)
    (hP : Undisturbed P) (hI : forall w, P w -> I w)
    (href : forall w, P w -> w.refs branch = some expectedSha)
    (hQ : forall w, P w -> Q { w with
      refs := setRef w.refs branch newSha
      fetched := setRef w.fetched branch newSha })
    (hIQ : forall w, Q w -> I w) (h : P w) :
    Yields (Remote.handle G) I (casPush branch newSha expectedSha) w (.ok newSha) Q := by
  unfold casPush
  rw [hvalid]
  apply Program.Yields.bind (yields_push hP hI href hQ hIQ h)
  intro after hafter
  exact Program.yields_done (hIQ after hafter) hafter

end Repair
end ContainerRepair
end Oompah
