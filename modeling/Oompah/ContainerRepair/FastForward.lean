import Oompah.ContainerRepair.Resumption
import Oompah.Foundation.TransitionSystem

/-!
# Branches only move forward

Other processes may push to the remote between any two commands.  Whatever they do,
the repair pushes a commit only over one of its ancestors, so no execution of it takes
a commit off a branch, wherever it stops.
-/

namespace Oompah
namespace ContainerRepair

open Foundation

/-- The object store answers ancestor queries and merges as it is. -/
def Known (G : Git) : (r : GitRequest) -> Except RepairError (GitAnswer r) -> Prop
  | .isAncestor first second, answer => answer = .ok (G.isAncestor first second)
  | .worktreeMerge child parent, answer => answer = .ok (G.worktreeMerge child parent)
  | _, _ => True

/-- A merge into a child keeps the child's commit. -/
def Git.MergesForward (G : Git) : Prop :=
  forall child parent sha, G.worktreeMerge child parent = .ok sha -> G.isAncestor child sha = true

def GitRequest.FastForwards (G : Git) : GitRequest -> Prop
  | .push _ newSha expectedSha => G.isAncestor expectedSha newSha = true
  | _ => True

def forwardOnly (G : Git) : Protocol Unit GitRequest GitAnswer RepairError where
  allowed _ r := r.FastForwards G
  next _ r answer _ := Known G r answer

/-- A program pushes forward only, and what it returns satisfies a predicate. -/
def Forwards {α : Type} (G : Git) (program : Repair α) (Q : α -> Prop := fun _ => True) : Prop :=
  program.Follows (forwardOnly G) () fun result _ => forall value, result = .ok value -> Q value

namespace Repair

variable {G : Git} {α β : Type} {r : GitRequest}

theorem forwards_bind {program : Repair α} {f : α -> Repair β} {P : α -> Prop} {Q : β -> Prop}
    (h : Forwards G program P) (hf : forall value, P value -> Forwards G (f value) Q) :
    Forwards G (program >>= f) Q := by
  apply Program.follows_bind
  apply Program.Follows.mono h
  intro result s' hresult
  cases result with
  | error error =>
    intro value hvalue
    cases hvalue
  | ok value => exact hf value (hresult value rfl)

theorem forwards_perform (h : r.FastForwards G) :
    Forwards G (Program.perform r) fun value => Known G r (.ok value) := by
  apply Program.follows_perform h
  intro answer s' hknown value hvalue
  rw [← hvalue]
  exact hknown

theorem forwards_step {f : GitAnswer r -> Repair β} {Q : β -> Prop} (h : r.FastForwards G)
    (hf : forall value, Known G r (.ok value) -> Forwards G (f value) Q) :
    Forwards G (Program.perform r >>= f) Q :=
  forwards_bind (forwards_perform h) hf

theorem forwards_lift (computed : Except RepairError α) : Forwards G (lift computed) := by
  cases computed <;> exact fun _ _ => trivial

theorem forwards_refSha (branch : String) : Forwards G (refSha branch) :=
  forwards_bind (forwards_lift _) fun name _ =>
    (forwards_perform (r := .revParse name) trivial).mono fun _ _ _ _ _ => trivial

theorem forwards_catch {program : Repair α} {handler : RepairError -> Repair α}
    (h : Forwards G program)
    (hhandler : forall error, Forwards G (handler error)) :
    Forwards G (program.tryCatch handler) := by
  apply Program.follows_tryCatch
  apply Program.Follows.mono h
  intro result s' _
  cases result with
  | ok value => exact fun _ _ => trivial
  | error error => exact hhandler error

/-!
# Pushes
-/

theorem forwards_casPush {newSha expectedSha : String} (branch : String)
    (h : G.isAncestor expectedSha newSha = true) :
    Forwards G (casPush branch newSha expectedSha) := by
  apply forwards_bind (forwards_lift _)
  intro name _
  apply forwards_step (r := .push name newSha expectedSha) h
  intro landed _
  cases landed with
  | true => exact fun _ _ => trivial
  | false =>
    apply forwards_step (r := .fetch) trivial
    intro _ _
    apply forwards_bind (forwards_refSha name)
    intro observed _
    show Forwards G (if observed = some newSha then _ else _) _
    split <;> exact fun _ _ => trivial

theorem forwards_validate (old selected : String) (closure : List String) :
    Forwards G (validatePrerequisiteDescendant old selected closure)
      fun _ => G.isAncestor old selected = true := by
  unfold validatePrerequisiteDescendant
  split
  · intro _ h
    cases h
  · apply forwards_step (r := .isAncestor old selected) trivial
    rintro reached ⟨⟩
    show Forwards G (if G.isAncestor old selected = true then _ else _) _
    split
    · rename_i hreached
      apply forwards_bind (P := fun _ => True)
      · apply forwards_step (r := .revList old selected) trivial
        intro commits _
        cases commits <;> exact fun _ _ => trivial
      · intro commits _
        show Forwards G (if unrelated commits closure = [] then _ else _) _
        split <;> exact fun _ _ => hreached
    · intro _ h
      cases h

theorem forwards_advanceTo (closure selected : List String) (parentBranch expected : String) :
    forall current, Forwards G (advanceTo closure parentBranch expected selected current) := by
  induction selected with
  | nil => exact fun _ _ _ => trivial
  | cons sha rest ih =>
    intro current
    apply forwards_step (r := .isAncestor sha current) trivial
    intro reached _
    cases reached with
    | true => exact ih current
    | false =>
      apply forwards_bind (forwards_validate current sha closure)
      intro _ hancestor
      apply forwards_bind (forwards_casPush parentBranch hancestor)
      intro pushed _
      apply forwards_step (r := .persist _) trivial
      exact fun _ _ => ih pushed

theorem forwards_allAncestors (shas : List String) (current : String) :
    Forwards G (allAncestors shas current) := by
  induction shas with
  | nil => exact fun _ _ => trivial
  | cons sha rest ih =>
    apply forwards_step (r := .isAncestor sha current) trivial
    intro reached _
    cases reached with
    | true => exact ih
    | false => exact fun _ _ => trivial

theorem forwards_advanceParent (plan : ContainerCycleRepairPlan) (parentBranch : String)
    (prior : Option String) :
    Forwards G (advanceParent plan parentBranch prior) := by
  apply forwards_bind (forwards_refSha parentBranch)
  intro ref _
  cases ref with
  | none => exact fun _ _ => trivial
  | some current =>
    have hadvance : forall expected, Forwards G (do
        let advanced <- advanceTo plan.closure parentBranch expected plan.selectedShas current
        return (expected, advanced)) := fun expected =>
      forwards_bind (forwards_advanceTo _ _ _ _ _) fun _ _ _ _ => trivial
    cases prior with
    | none => exact hadvance current
    | some prior =>
      show Forwards G (if current ≠ prior then _ else _) _
      split
      · apply forwards_bind (forwards_allAncestors _ _)
        intro reached _
        cases reached <;> exact fun _ _ => trivial
      · exact hadvance prior

/-!
# Children
-/

variable (hG : G.Lawful) (hmerge : G.MergesForward)
include hG hmerge

/-- What a child is to be moved to has its commit as an ancestor. -/
theorem forwards_merge (childBranch childSha parentSha : String) :
    Forwards G (mergeParentIntoChild childBranch childSha parentSha)
      fun reached => G.isAncestor childSha reached.1 = true := by
  apply forwards_step (r := .isAncestor parentSha childSha) trivial
  rintro reached ⟨⟩
  cases hreached : G.isAncestor parentSha childSha with
  | true =>
    rintro _ ⟨⟩
    exact hG.refl _ _ hreached
  | false =>
    apply forwards_step (r := .isAncestor childSha parentSha) trivial
    rintro behind ⟨⟩
    cases hbehind : G.isAncestor childSha parentSha with
    | true =>
      rintro _ ⟨⟩
      exact hbehind
    | false =>
      apply forwards_step (r := .mergeTree childSha parentSha) trivial
      intro probe _
      cases probe with
      | some message => rintro _ ⟨⟩
      | none =>
        apply forwards_step (r := .worktreeMerge childSha parentSha) trivial
        intro merged hmerged
        rcases merged with failure | sha
        · cases failure <;> rintro _ ⟨⟩
        · rintro _ ⟨⟩
          exact hmerge _ _ _ (Except.ok.inj hmerged).symm

theorem forwards_synchronizeChild (parentSha expected : String) (child : ChildRepairResult) :
    Forwards G (synchronizeChild parentSha child expected) := by
  have hrecord : forall child : ChildRepairResult, Forwards G (do
      persist (.childSynchronized parentSha child)
      return child) := fun child =>
    forwards_step (r := .persist _) trivial fun _ _ _ _ => trivial
  apply forwards_step (r := .isAncestor parentSha expected) trivial
  intro reached _
  cases reached with
  | true => exact hrecord _
  | false =>
    apply forwards_bind (forwards_merge hG hmerge child.branch expected parentSha)
    intro merged hforward
    apply forwards_bind (forwards_casPush child.branch hforward)
    exact fun pushed _ => hrecord _

theorem forwards_repairChildren (plan : ContainerCycleRepairPlan) (parentSha : String)
    (containers : List String) :
    Forwards G (repairChildren plan parentSha containers) := by
  induction containers with
  | nil => exact fun _ _ => trivial
  | cons containerId rest ih =>
    apply forwards_bind (P := fun _ => True)
    · apply forwards_bind (forwards_lift _)
      intro branch _
      apply forwards_bind (forwards_refSha branch)
      intro observed _
      cases observed with
      | none => exact fun _ _ => trivial
      | some expected =>
        apply forwards_bind (P := fun _ => True)
        · apply forwards_catch
          · exact forwards_bind (forwards_synchronizeChild hG hmerge parentSha expected _)
              fun _ _ _ _ => trivial
          · exact fun _ _ _ => trivial
        · intro outcome _
          cases outcome with
          | ok synchronized => exact fun _ _ => trivial
          | error error =>
            show Forwards G (if error.isRepairError = true then _ else _) _
            split <;> exact fun _ _ => trivial
    · intro child _
      exact forwards_bind ih fun _ _ _ _ => trivial

theorem forwards_execute (plan : ContainerCycleRepairPlan) (prior : Journal) :
    Forwards G (execute plan prior) := by
  apply forwards_bind (forwards_lift _)
  intro parentBranch _
  apply forwards_catch
  · apply forwards_step (r := .fetch) trivial
    intro _ _
    apply forwards_bind (forwards_advanceParent plan parentBranch _)
    intro advanced _
    apply forwards_step (r := .persist _) trivial
    intro _ _
    apply forwards_bind (forwards_repairChildren hG hmerge plan advanced.2 _)
    intro children _
    exact forwards_step (r := .persist _) trivial fun _ _ _ _ => trivial
  · intro error
    show Forwards G (if error.isRepairError = true then _ else _) _
    split
    · exact forwards_step (r := .persist _) trivial fun _ _ _ _ => trivial
    · exact fun _ _ => trivial

end Repair

/-!
# Refs along executions
-/

/-- Every ref is where it was or ahead of there. -/
def MovedForward (G : Git) (refs later : Refs) : Prop :=
  forall branch sha, refs branch = some sha ->
    exists sha', later branch = some sha' ∧ (sha' = sha ∨ G.isAncestor sha sha' = true)

variable {G : Git} {base refs later : Refs} {w : Remote}

theorem MovedForward.refl (refs : Refs) : MovedForward G refs refs :=
  fun _ sha h => ⟨sha, h, Or.inl rfl⟩

theorem MovedForward.trans (hG : G.Lawful) (h : MovedForward G base refs)
    (h' : MovedForward G refs later) : MovedForward G base later := by
  intro branch sha hsha
  rcases h branch sha hsha with ⟨middle, hmiddle, hfirst⟩
  rcases h' branch middle hmiddle with ⟨last, hlast, hsecond⟩
  refine ⟨last, hlast, ?_⟩
  rcases hsecond with rfl | hsecond
  · exact hfirst
  · rcases hfirst with rfl | hfirst
    · exact .inr hsecond
    · exact .inr (hG.trans _ _ _ hfirst hsecond)

theorem MovedForward.setRef {branch newSha expectedSha : String}
    (href : refs branch = some expectedSha) (h : G.isAncestor expectedSha newSha = true) :
    MovedForward G refs (setRef refs branch newSha) := by
  intro name sha hsha
  by_cases hname : name = branch
  · subst hname
    rw [href] at hsha
    cases hsha
    exact ⟨newSha, setRef_same _ _ _, Or.inr h⟩
  · exact ⟨sha, (setRef_other refs newSha hname).trans hsha, Or.inl rfl⟩

def ForwardWrites (G : Git) (foreign : List (Refs -> Refs)) : Prop :=
  forall write, write ∈ foreign -> forall refs, MovedForward G refs (write refs)

/-- The refs are ahead of a base, and other writers move them forward only. -/
structure KeptAhead (G : Git) (base : Refs) (w : Remote) : Prop where
  refs : MovedForward G base w.refs
  foreign : ForwardWrites G w.foreign

theorem KeptAhead.handle (hG : G.Lawful) (h : KeptAhead G base w) {r : GitRequest}
    (hr : r.FastForwards G) :
    Known G r (w.handle G r).1 ∧ KeptAhead G base (w.handle G r).2 := by
  have hafter : KeptAhead G base w.disturbed := by
    refine ⟨?_, fun write hwrite => h.foreign write (w.disturbed_foreign_subset hwrite)⟩
    unfold Remote.disturbed
    cases hforeign : w.foreign with
    | nil => exact h.refs
    | cons write rest =>
      exact h.refs.trans hG (h.foreign write (hforeign ▸ List.mem_cons_self) w.refs)
  unfold Remote.handle
  generalize w.disturbed = v at hafter
  cases r with
  | push branch newSha expectedSha =>
    refine ⟨trivial, ?_⟩
    show KeptAhead G base (if v.refs branch = some expectedSha then (_, _) else _).2
    split
    · rename_i href
      exact ⟨hafter.refs.trans hG (.setRef href hr), hafter.foreign⟩
    · exact hafter
  | isAncestor | worktreeMerge => exact ⟨rfl, hafter⟩
  | _ => exact ⟨trivial, hafter.refs, hafter.foreign⟩

theorem KeptAhead.crashed (hG : G.Lawful) (hmerge : G.MergesForward)
    (h : KeptAhead G base w) (plan : ContainerCycleRepairPlan) (n : Nat)
    {later : List (Refs -> Refs)} (hlater : ForwardWrites G later) :
    KeptAhead G base (w.crashed G plan n later) := by
  have hfollows := Repair.forwards_execute hG hmerge plan w.journal
  have hvisits := (hfollows.execute (R := fun _ v => KeptAhead G base v)
    (fun _ v r hv hr => ⟨(), hv.handle hG hr⟩) h).left
  exact ⟨(hvisits.stopped n).choose_spec.refs, hlater⟩

/--
An execution that stops: its plan, the evidence it starts from, and what other
writers do to the refs from then on.
-/
structure StoppedExecution (G : Git) where
  plan : ContainerCycleRepairPlan
  journal : Journal
  commands : Nat
  later : List (Refs -> Refs)
  forward : ForwardWrites G later

def Remote.stoppedBy (w : Remote) (stop : StoppedExecution G) : Remote :=
  { w with journal := stop.journal }.crashed G stop.plan stop.commands stop.later

/--
Executions that stop anywhere, one after another, leave every ref where it was or
ahead of there, among other writers that move refs forward only.
-/
theorem executions_movedForward (hG : G.Lawful) (hmerge : G.MergesForward) (w : Remote)
    (hforeign : ForwardWrites G w.foreign) (stops : List (StoppedExecution G)) :
    MovedForward G w.refs (run Remote.stoppedBy w stops).refs := by
  have hstep : forall (v : Remote) (stop : StoppedExecution G),
      KeptAhead G w.refs v -> KeptAhead G w.refs (v.stoppedBy stop) := by
    intro v stop h
    have hstart : KeptAhead G w.refs { v with journal := stop.journal } := ⟨h.refs, h.foreign⟩
    exact hstart.crashed hG hmerge stop.plan stop.commands stop.forward
  have hbase : KeptAhead G w.refs w := ⟨.refl _, hforeign⟩
  exact (invariant_run hstep hbase stops).refs

/-- Another process lands a commit on the dependent branch. -/
def otherWriter (refs : Refs) : Refs :=
  if refs "epic-C" = some "base" then setRef refs "epic-C" "first" else refs

def linearGit : Git := { sampleGit with worktreeMerge := fun _ _ => .error (.command "") }

theorem linearGit_lawful : linearGit.Lawful :=
  ⟨sampleGit_lawful.refl, sampleGit_lawful.trans, fun _ _ _ h => nomatch h⟩

theorem otherWriter_forward : ForwardWrites linearGit [otherWriter] := by
  intro write hwrite refs
  cases List.mem_singleton.mp hwrite
  unfold otherWriter
  split
  · rename_i href
    exact .setRef href (by decide +kernel)
  · exact .refl refs

/-- A stop after the parent's second push, another writer, and two runs to the end. -/
theorem executions_movedForward_otherWriter : MovedForward linearGit sampleRemote.refs
      (run (Remote.stoppedBy (G := linearGit)) sampleRemote
        [⟨samplePlan, {}, 11, [otherWriter], otherWriter_forward⟩,
          ⟨samplePlan, ⟨some .parentAdvanced, some "base", some "first"⟩, 40, [],
            fun _ h => nomatch h⟩,
          ⟨samplePlan, {}, 40, [], fun _ h => nomatch h⟩]).refs :=
  executions_movedForward linearGit_lawful (fun _ _ _ h => nomatch h) sampleRemote
    (fun _ h => nomatch h) _

end ContainerRepair
end Oompah
