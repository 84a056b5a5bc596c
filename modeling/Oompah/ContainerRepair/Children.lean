import Oompah.ContainerRepair.Remote

/-!
# Synchronising the dependent containers

Whatever other writers do to the dependent branches, the parent ref stays.  When
nobody else writes, the results are those of a pure pass over the refs, and a
second pass finds every synchronised branch already reachable.
-/

namespace Oompah
namespace ContainerRepair

open Foundation
open Foundation.Program (Yields follows_bind follows_perform yields_done yields_raise)

/-- The branch of a dependent container, after its name is checked. -/
def ContainerCycleRepairPlan.childBranch (plan : ContainerCycleRepairPlan)
    (containerId : String) : Except RepairError String :=
  plan.branchForContainer containerId >>= validateBranch

namespace Git

variable (G : Git)

def synchronization (parentSha branch observed : String) :
    Except RepairError (String × ChildAction) :=
  if G.isAncestor parentSha observed then .ok (observed, .alreadyReachable)
  else if G.isAncestor observed parentSha then .ok (parentSha, .fastForward)
  else
    match G.mergeTree observed parentSha with
    | some message => .error (Repair.conflicting branch message)
    | none =>
      match G.worktreeMerge observed parentSha with
      | .ok merged => .ok (merged, .mergeParent)
      | .error (.conflict message) => .error (Repair.conflicting branch message)
      | .error (.command message) => .error (.repair message)

/-- The commit at which a dependent branch stands after its synchronisation. -/
def synced (parentSha branch observed : String) : String :=
  match G.synchronization parentSha branch observed with
  | .ok (sha, _) => sha
  | .error _ => observed

def syncedRefs (parentSha branch : String) (refs : Refs) : Refs :=
  match refs branch with
  | none => refs
  | some observed => setRef refs branch (G.synced parentSha branch observed)

def observedChild (containerId branch : String) (observed : Option String) :
    ChildRepairResult :=
  { containerId := containerId, branch := branch, expectedSha := observed }

def childResult (parentSha containerId branch : String) : Option String -> ChildRepairResult
  | none =>
    { observedChild containerId branch none with
      action := .missing
      error := some (.repair ("dependent branch " ++ branch ++ " is missing")) }
  | some observed =>
    let child := observedChild containerId branch (some observed)
    match G.synchronization parentSha branch observed with
    | .ok (sha, action) => { child with resultingSha := some sha, action := action }
    | .error error => Repair.childError child error

def syncChildren (plan : ContainerCycleRepairPlan) (parentSha : String) :
    List String -> Refs -> Except RepairError (List ChildRepairResult)
  | [], _ => .ok []
  | containerId :: rest, refs =>
    match plan.childBranch containerId with
    | .error error => .error error
    | .ok branch =>
      (syncChildren plan parentSha rest (G.syncedRefs parentSha branch refs)).map
        (G.childResult parentSha containerId branch (refs branch) :: ·)

variable {G}

theorem synchronization_error {parentSha branch observed : String} {error : RepairError}
    (h : G.synchronization parentSha branch observed = .error error) :
    error.isRepairError = true ∧ forall message, error ≠ .refRace message := by
  unfold synchronization at h
  by_cases hreachable : G.isAncestor parentSha observed = true
  · rw [if_pos hreachable] at h
    cases h
  · rw [if_neg hreachable] at h
    by_cases hbehind : G.isAncestor observed parentSha = true
    · rw [if_pos hbehind] at h
      cases h
    · rw [if_neg hbehind] at h
      cases hprobe : G.mergeTree observed parentSha with
      | some message =>
        rw [hprobe] at h
        cases h
        exact ⟨rfl, fun message => RepairError.noConfusion⟩
      | none =>
        rw [hprobe] at h
        cases hmerge : G.worktreeMerge observed parentSha with
        | ok merged =>
          rw [hmerge] at h
          cases h
        | error failure =>
          rw [hmerge] at h
          cases failure with
          | conflict message =>
            cases h
            exact ⟨rfl, fun message => RepairError.noConfusion⟩
          | command message =>
            cases h
            exact ⟨rfl, fun message => RepairError.noConfusion⟩

variable {parentSha branch observed sha : String}

theorem synchronization_reaches (hG : G.Lawful) {action : ChildAction}
    (h : G.synchronization parentSha branch observed = .ok (sha, action)) :
    G.isAncestor parentSha sha = true ∧ action.synchronized = true := by
  unfold synchronization at h
  by_cases hreachable : G.isAncestor parentSha observed = true
  · rw [if_pos hreachable] at h
    cases h
    exact ⟨hreachable, rfl⟩
  · rw [if_neg hreachable] at h
    by_cases hbehind : G.isAncestor observed parentSha = true
    · rw [if_pos hbehind] at h
      cases h
      exact ⟨hG.refl observed parentSha hbehind, rfl⟩
    · rw [if_neg hbehind] at h
      cases hprobe : G.mergeTree observed parentSha with
      | some message =>
        rw [hprobe] at h
        cases h
      | none =>
        rw [hprobe] at h
        cases hmerge : G.worktreeMerge observed parentSha with
        | ok merged =>
          rw [hmerge] at h
          cases h
          exact ⟨hG.merged observed parentSha sha hmerge, rfl⟩
        | error failure =>
          rw [hmerge] at h
          cases failure with
          | conflict message => cases h
          | command message => cases h

theorem synchronization_of_reachable {parentSha sha : String} (branch : String)
    (h : G.isAncestor parentSha sha = true) :
    G.synchronization parentSha branch sha = .ok (sha, .alreadyReachable) :=
  if_pos h

theorem synced_of_ok {action : ChildAction}
    (h : G.synchronization parentSha branch observed = .ok (sha, action)) :
    G.synced parentSha branch observed = sha := by
  unfold synced
  rw [h]

theorem synced_of_error {parentSha branch observed : String} {error : RepairError}
    (h : G.synchronization parentSha branch observed = .error error) :
    G.synced parentSha branch observed = observed := by
  unfold synced
  rw [h]

theorem synced_synced (hG : G.Lawful) (parentSha branch observed : String) :
    G.synced parentSha branch (G.synced parentSha branch observed) =
      G.synced parentSha branch observed := by
  cases h : G.synchronization parentSha branch observed with
  | ok reached =>
    rcases reached with ⟨sha, action⟩
    rw [synced_of_ok h]
    exact synced_of_ok (synchronization_of_reachable _ (synchronization_reaches hG h).left)
  | error error => rw [synced_of_error h, synced_of_error h]

end Git

/-!
# The parent ref among other writers

The synchronisation pushes to the parent branch only if a dependent container
names it, and then finds the parent commit there.
-/

def Told (G : Git) (parentBranch parentSha : String) :
    (r : GitRequest) -> Except RepairError (GitAnswer r) -> Prop
  | .revParse branch, answer =>
    exists ref, answer = .ok ref ∧ (branch = parentBranch -> ref = some parentSha)
  | .isAncestor first second, answer => answer = .ok (G.isAncestor first second)
  | _, answer => exists value, answer = .ok value

def parentFence (G : Git) (parentBranch parentSha : String) :
    Protocol Unit GitRequest GitAnswer RepairError where
  allowed _ r := forall newSha expectedSha, r ≠ .push parentBranch newSha expectedSha
  next _ r answer _ := Told G parentBranch parentSha r answer

/-- The errors of a result are not ones that the repair reports. -/
def Unreported {α : Type} (result : Except RepairError α) (_ : Unit) : Prop :=
  forall error, result = .error error -> error.isRepairError = false

def anyResult {α : Type} (_ : Except RepairError α) (_ : Unit) : Prop := True

structure ParentAt (parentBranch parentSha : String) (w : Remote) : Prop where
  refs : w.refs parentBranch = some parentSha
  fetched : w.fetched parentBranch = some parentSha
  spared : w.Spares parentBranch

theorem ParentAt.handle {G : Git} {parentBranch parentSha : String} {w : Remote}
    (h : ParentAt parentBranch parentSha w) {r : GitRequest}
    (hallowed : forall newSha expectedSha, r ≠ .push parentBranch newSha expectedSha) :
    Told G parentBranch parentSha r (w.handle G r).1 ∧
      ParentAt parentBranch parentSha (w.handle G r).2 := by
  have hafter : ParentAt parentBranch parentSha w.disturbed :=
    ⟨h.spared.ref.trans h.refs, w.disturbed_fetched ▸ h.fetched, h.spared.disturbed⟩
  unfold Remote.handle
  generalize w.disturbed = v at hafter
  cases r with
  | fetch => exact ⟨⟨(), rfl⟩, hafter.refs, hafter.refs, hafter.spared⟩
  | revParse branch =>
    refine ⟨⟨v.fetched branch, rfl, ?_⟩, hafter⟩
    intro hbranch
    rw [hbranch]
    exact hafter.fetched
  | isAncestor first second => exact ⟨rfl, hafter⟩
  | revList old selected => exact ⟨⟨_, rfl⟩, hafter⟩
  | mergeTree child parent => exact ⟨⟨_, rfl⟩, hafter⟩
  | worktreeMerge child parent => exact ⟨⟨_, rfl⟩, hafter⟩
  | persist evidence => exact ⟨⟨(), rfl⟩, hafter.refs, hafter.fetched, hafter.spared⟩
  | push branch newSha expectedSha =>
    have hbranch : parentBranch ≠ branch := by
      intro hsame
      exact hallowed newSha expectedSha (by rw [hsame])
    by_cases href : v.refs branch = some expectedSha
    · have hanswer : v.answer G (.push branch newSha expectedSha) =
          (.ok true, { v with
            refs := setRef v.refs branch newSha
            fetched := setRef v.fetched branch newSha }) := if_pos href
      rw [hanswer]
      refine ⟨⟨true, rfl⟩, ?_, ?_, hafter.spared⟩
      · exact (setRef_other v.refs newSha hbranch).trans hafter.refs
      · exact (setRef_other v.fetched newSha hbranch).trans hafter.fetched
    · have hanswer : v.answer G (.push branch newSha expectedSha) = (.ok false, v) :=
        if_neg href
      rw [hanswer]
      exact ⟨⟨false, rfl⟩, hafter⟩

namespace Repair

variable {G : Git} {parentBranch parentSha : String}

theorem follows_lift {α : Type} {computed : Except RepairError α}
    {post : Except RepairError α -> Unit -> Prop} (h : post computed ()) :
    (lift computed).Follows (parentFence G parentBranch parentSha) () post := by
  cases computed with
  | ok value => exact h
  | error error => exact h

theorem follows_refSha {branch : String} {post : Except RepairError (Option String) -> Unit -> Prop}
    (hinvalid : forall error, validateBranch branch = .error error -> post (.error error) ())
    (hpost : forall ref, (branch = parentBranch -> ref = some parentSha) -> post (.ok ref) ()) :
    (refSha branch).Follows (parentFence G parentBranch parentSha) () post := by
  apply follows_bind
  apply follows_lift
  cases hvalid : validateBranch branch with
  | error error => exact hinvalid error hvalid
  | ok name =>
    rw [validateBranch_ok hvalid]
    apply follows_perform
    · intro newSha expectedSha hpush
      cases hpush
    · intro answer s' htold
      rcases htold with ⟨ref, hanswer, href⟩
      rw [hanswer]
      exact hpost ref href

theorem follows_ancestor {first second : String} {post : Except RepairError Bool -> Unit -> Prop}
    (hpost : post (.ok (G.isAncestor first second)) ()) :
    (ancestor first second).Follows (parentFence G parentBranch parentSha) () post := by
  apply follows_perform
  · intro newSha expectedSha hpush
    cases hpush
  · intro answer s' htold
    have hanswer : answer = .ok (G.isAncestor first second) := htold
    rw [hanswer]
    exact hpost

theorem follows_persist (evidence : Evidence) {post : Except RepairError Unit -> Unit -> Prop}
    (hpost : post (.ok ()) ()) :
    (persist evidence).Follows (parentFence G parentBranch parentSha) () post := by
  apply follows_perform
  · intro newSha expectedSha hpush
    cases hpush
  · intro answer s' htold
    rcases htold with ⟨value, hanswer⟩
    rw [hanswer]
    exact hpost

theorem follows_attempt {α : Type} {program : Repair α}
    {post : Except RepairError (Except RepairError α) -> Unit -> Prop}
    (h : program.Follows (parentFence G parentBranch parentSha) () anyResult)
    (hpost : forall result, post (.ok result) ()) :
    (attempt program).Follows (parentFence G parentBranch parentSha) () post := by
  apply Program.follows_tryCatch
  apply follows_bind
  apply h.mono
  intro result s' _
  cases result with
  | ok value => exact hpost (.ok value)
  | error error => exact hpost (.error error)

theorem follows_casPush {branch : String} (hbranch : branch ≠ parentBranch)
    (newSha expectedSha : String) :
    (casPush branch newSha expectedSha).Follows (parentFence G parentBranch parentSha)
      () anyResult := by
  apply follows_bind
  apply follows_lift
  cases hvalid : validateBranch branch with
  | error error => trivial
  | ok name =>
    rw [validateBranch_ok hvalid]
    apply follows_bind
    apply follows_perform
    · intro other otherExpected hpush
      cases hpush
      exact hbranch rfl
    · intro answer s' htold
      rcases htold with ⟨landed, hanswer⟩
      rw [hanswer]
      cases landed with
      | true => trivial
      | false =>
        apply follows_bind
        apply follows_perform
        · intro other otherExpected hpush
          cases hpush
        · intro fetched s'' hfetched
          rcases hfetched with ⟨value, hvalue⟩
          rw [hvalue]
          apply follows_bind
          apply follows_refSha
          · intro error _
            trivial
          · intro ref _
            show Program.Follows _ (if ref = some newSha then _ else _) _ _
            by_cases href : ref = some newSha
            · rw [if_pos href]
              trivial
            · rw [if_neg href]
              trivial

theorem follows_mergeParentIntoChild (childBranch childSha : String) :
    (mergeParentIntoChild childBranch childSha parentSha).Follows
      (parentFence G parentBranch parentSha) () anyResult := by
  apply follows_bind
  apply follows_ancestor
  cases G.isAncestor parentSha childSha with
  | true => trivial
  | false =>
    apply follows_bind
    apply follows_ancestor
    cases G.isAncestor childSha parentSha with
    | true => trivial
    | false =>
      apply follows_bind
      apply follows_perform
      · intro newSha expectedSha hpush
        cases hpush
      · intro answer s' htold
        rcases htold with ⟨probe, hanswer⟩
        rw [hanswer]
        cases probe with
        | some message => trivial
        | none =>
          apply follows_bind
          apply follows_perform
          · intro newSha expectedSha hpush
            cases hpush
          · intro merge s'' hmerge
            rcases hmerge with ⟨merged, hmerged⟩
            rw [hmerged]
            rcases merged with failure | sha
            · cases failure with
              | conflict message => trivial
              | command message => trivial
            · trivial

theorem follows_synchronizeChild (hknown : G.isAncestor parentSha parentSha = true)
    (child : ChildRepairResult) (expected : String)
    (hchild : child.branch = parentBranch -> expected = parentSha) :
    (synchronizeChild parentSha child expected).Follows
      (parentFence G parentBranch parentSha) () anyResult := by
  apply follows_bind
  apply follows_ancestor
  by_cases hreachable : G.isAncestor parentSha expected = true
  · rw [hreachable]
    apply follows_bind
    apply Program.follows_done
    apply follows_bind
    apply follows_persist
    trivial
  · have hbranch : child.branch ≠ parentBranch := by
      intro hsame
      rw [hchild hsame] at hreachable
      exact hreachable hknown
    rw [Bool.not_eq_true] at hreachable
    rw [hreachable]
    apply follows_bind
    apply (follows_mergeParentIntoChild child.branch expected).mono
    intro merged s' _
    cases merged with
    | error error => trivial
    | ok reached =>
      apply follows_bind
      apply (follows_casPush hbranch reached.1 expected).mono
      intro pushed s'' _
      cases pushed with
      | error error => trivial
      | ok sha =>
        apply follows_bind
        apply Program.follows_done
        apply follows_bind
        apply follows_persist
        trivial

theorem follows_repairChild (hknown : G.isAncestor parentSha parentSha = true)
    (plan : ContainerCycleRepairPlan) (containerId : String) :
    (repairChild plan parentSha containerId).Follows
      (parentFence G parentBranch parentSha) () Unreported := by
  apply follows_bind
  apply follows_lift
  cases hname : plan.branchForContainer containerId with
  | error error =>
    intro other hother
    cases hother
    exact branchForContainer_error hname
  | ok branch =>
    apply follows_bind
    apply follows_refSha
    · intro error herror other hother
      cases hother
      exact validateBranch_error herror
    · intro ref href
      cases ref with
      | none =>
        intro other hother
        cases hother
      | some expected =>
        apply follows_bind
        apply follows_attempt
        · apply follows_synchronizeChild hknown
          intro hbranch
          exact Option.some.inj (href hbranch)
        · intro result
          cases result with
          | ok synchronized =>
            intro other hother
            cases hother
          | error error =>
            show Program.Follows _ (if error.isRepairError = true then _ else _) _ _
            by_cases hrepair : error.isRepairError = true
            · rw [if_pos hrepair]
              intro other hother
              cases hother
            · rw [if_neg hrepair]
              intro other hother
              cases hother
              exact Bool.eq_false_of_not_eq_true hrepair

theorem follows_repairChildren (hknown : G.isAncestor parentSha parentSha = true)
    (plan : ContainerCycleRepairPlan) (containers : List String) :
    (repairChildren plan parentSha containers).Follows
      (parentFence G parentBranch parentSha) () Unreported := by
  induction containers with
  | nil =>
    intro error herror
    cases herror
  | cons containerId rest ih =>
    apply follows_bind
    apply (follows_repairChild hknown plan containerId).mono
    intro result s' hresult
    cases result with
    | error error =>
      intro other hother
      cases hother
      exact hresult error rfl
    | ok child =>
      apply follows_bind
      apply ih.mono
      intro others s'' hothers
      cases others with
      | error error =>
        intro other hother
        cases hother
        exact hothers error rfl
      | ok children =>
        intro other hother
        cases hother

/-- The synchronisation leaves the parent ref alone at every point of its run. -/
theorem repairChildren_parentAt (hknown : G.isAncestor parentSha parentSha = true)
    (plan : ContainerCycleRepairPlan) (containers : List String) {w : Remote}
    (h : ParentAt parentBranch parentSha w) :
    (repairChildren plan parentSha containers).Visits (Remote.handle G)
        (ParentAt parentBranch parentSha) w ∧
      forall error, (Program.execute (Remote.handle G) (repairChildren plan parentSha containers)
            w).1 = .error error ->
          error.isRepairError = false := by
  have hstep : forall (s : Unit) (w : Remote) (r : GitRequest),
      ParentAt parentBranch parentSha w -> (parentFence G parentBranch parentSha).allowed s r ->
          exists s', (parentFence G parentBranch parentSha).next s r (Remote.handle G w r).1 s' ∧
            ParentAt parentBranch parentSha (Remote.handle G w r).2 :=
    fun _ w r hw hallowed => ⟨(), hw.handle hallowed⟩
  have hfollows : (repairChildren plan parentSha containers).Follows
      (parentFence G parentBranch parentSha) () Unreported :=
    follows_repairChildren hknown plan containers
  have hrun := hfollows.execute hstep h
  rcases hrun with ⟨hvisits, s', hresult, _⟩
  exact ⟨hvisits.mono (fun w ⟨_, hw⟩ => hw), hresult⟩

end Repair

/-!
# Synchronisation without other writers
-/

structure Quiet (standing : Refs) (w : Remote) : Prop where
  alone : w.foreign = []
  refs : w.refs = standing
  fetched : w.fetched = standing

namespace Quiet

variable {refs : Refs} {w : Remote}

theorem undisturbed : Undisturbed (Quiet refs) := by
  intro w h
  rw [Remote.disturbed_of_quiet h.alone]
  exact h

theorem recorded (h : Quiet refs w) (evidence : Evidence) :
    Quiet refs { w with journal := w.journal.record evidence } :=
  ⟨h.alone, h.refs, h.fetched⟩

theorem pushed (h : Quiet refs w) (branch sha : String) : Quiet (setRef refs branch sha)
      { w with
        refs := setRef w.refs branch sha
        fetched := setRef w.fetched branch sha } := by
  constructor
  · exact h.alone
  · show setRef w.refs branch sha = _
    rw [h.refs]
  · show setRef w.fetched branch sha = _
    rw [h.fetched]

end Quiet

theorem setRef_self {refs : Refs} {branch sha : String} (h : refs branch = some sha) :
    setRef refs branch sha = refs := by
  funext name
  by_cases hname : name = branch
  · rw [hname, setRef_same, h]
  · exact setRef_other refs sha hname

namespace Git

variable {G : Git} {parentSha branch observed : String} {refs : Refs}

theorem syncedRefs_some (h : refs branch = some observed) : G.syncedRefs parentSha branch refs =
      setRef refs branch (G.synced parentSha branch observed) := by
  unfold syncedRefs
  rw [h]

theorem syncedRefs_none (h : refs branch = none) : G.syncedRefs parentSha branch refs = refs := by
  unfold syncedRefs
  rw [h]

theorem setRef_synced_of_error {error : RepairError} (href : refs branch = some observed)
    (h : G.synchronization parentSha branch observed = .error error) :
    setRef refs branch (G.synced parentSha branch observed) = refs := by
  rw [synced_of_error h]
  exact setRef_self href

end Git

namespace Repair

variable {G : Git} {I P : Remote -> Prop} {w : Remote} {parentSha : String}

theorem yields_mergeParentIntoChild (branch observed : String) (hP : Undisturbed P)
    (hI : forall w, P w -> I w) (h : P w) :
    Yields (Remote.handle G) I (mergeParentIntoChild branch observed parentSha) w
      (G.synchronization parentSha branch observed) P := by
  unfold mergeParentIntoChild Git.synchronization
  apply Program.Yields.bind (yields_ancestor parentSha observed hP hI h)
  intro asked hasked
  cases G.isAncestor parentSha observed with
  | true => exact yields_done (hI asked hasked) hasked
  | false =>
    apply Program.Yields.bind (yields_ancestor observed parentSha hP hI hasked)
    intro behind hbehind
    cases G.isAncestor observed parentSha with
    | true => exact yields_done (hI behind hbehind) hbehind
    | false =>
      apply Program.Yields.bind (yields_mergeTree observed parentSha hP hI hbehind)
      intro probed hprobed
      cases G.mergeTree observed parentSha with
      | some message => exact yields_raise (hI probed hprobed) hprobed
      | none =>
        apply Program.Yields.bind (yields_worktreeMerge observed parentSha hP hI hprobed)
        intro merged hmerged
        rcases G.worktreeMerge observed parentSha with failure | sha
        · cases failure with
          | conflict message => exact yields_raise (hI merged hmerged) hmerged
          | command message => exact yields_raise (hI merged hmerged) hmerged
        · exact yields_done (hI merged hmerged) hmerged

theorem yields_attempt {α : Type} {program : Repair α} {result : Except RepairError α}
    {Q : Remote -> Prop} (h : Yields (Remote.handle G) I program w result Q) :
    Yields (Remote.handle G) I (attempt program) w (.ok result) Q := by
  cases result with
  | ok value =>
    apply Program.Yields.tryCatch_ok
    apply h.invariant.bind
    intro after hafter
    exact yields_done hafter.right hafter.left
  | error error =>
    apply Program.Yields.tryCatch_error h.invariant.bind_error
    intro after hafter
    exact yields_done hafter.right hafter.left

variable {Reached : Refs -> Prop} {refs : Refs}

theorem yields_recordChild (child : ChildRepairResult)
    (hI : forall w, Quiet refs w -> I w) (h : Quiet refs w) :
    Yields (Remote.handle G) I
      (persist (.childSynchronized parentSha child) >>= fun _ => pure child) w
      (.ok child) (Quiet refs) := by
  apply Program.Yields.bind (yields_persist _ Quiet.undisturbed hI (fun w hw => hw.recorded _) hI h)
  intro after hafter
  exact yields_done (hI after hafter) hafter

theorem yields_synchronizeChild (hI : forall refs w, Quiet refs w -> Reached refs -> I w)
    (hstep : forall refs branch observed, Reached refs -> refs branch = some observed ->
      Reached (setRef refs branch (G.synced parentSha branch observed)))
    (child : ChildRepairResult) {expected : String}
    (hvalid : validateBranch child.branch = .ok child.branch)
    (href : refs child.branch = some expected) (hreached : Reached refs)
    (h : Quiet refs w) :
    Yields (Remote.handle G) I (synchronizeChild parentSha child expected) w
      ((G.synchronization parentSha child.branch expected).map fun reached =>
        { child with resultingSha := some reached.1, action := reached.2 })
      (Quiet (setRef refs child.branch (G.synced parentSha child.branch expected))) := by
  have hhere : forall w, Quiet refs w -> I w := fun w hw => hI refs w hw hreached
  have hthere := hstep refs child.branch expected hreached href
  apply Program.Yields.bind (yields_ancestor parentSha expected Quiet.undisturbed hhere h)
  intro asked hasked
  by_cases hreachable : G.isAncestor parentSha expected = true
  · have hsync := Git.synchronization_of_reachable child.branch hreachable
    rw [hreachable, hsync, Git.synced_of_ok hsync, setRef_self href]
    exact Program.Yields.bind (yields_done (hhere asked hasked) hasked)
      (fun after hafter => yields_recordChild _ hhere hafter)
  · rw [Bool.not_eq_true] at hreachable
    rw [hreachable]
    have hmerge : Yields (Remote.handle G) I
        (mergeParentIntoChild child.branch expected parentSha) asked
        (G.synchronization parentSha child.branch expected) (Quiet refs) :=
      yields_mergeParentIntoChild child.branch expected Quiet.undisturbed hhere hasked
    cases hsync : G.synchronization parentSha child.branch expected with
    | error error =>
      rw [hsync] at hmerge
      rw [Git.setRef_synced_of_error href hsync]
      exact hmerge.bind_error
    | ok reached =>
      rw [hsync] at hmerge
      rw [Git.synced_of_ok hsync] at hthere ⊢
      have hpushed : forall w, Quiet (setRef refs child.branch reached.1) w -> I w :=
        fun w hw => hI _ w hw hthere
      apply hmerge.bind
      intro merged hmerged
      apply Program.Yields.bind (yields_casPush hvalid Quiet.undisturbed hhere
        (fun w hw => by rw [hw.refs]; exact href)
        (fun w hw => hw.pushed child.branch reached.1) hpushed hmerged)
      intro pushed hafter
      exact Program.Yields.bind (yields_done (hpushed pushed hafter) hafter)
        (fun after hlast => yields_recordChild _ hpushed hlast)

theorem yields_repairChild (hI : forall refs w, Quiet refs w -> Reached refs -> I w)
    (hstep : forall refs branch observed, Reached refs -> refs branch = some observed ->
      Reached (setRef refs branch (G.synced parentSha branch observed)))
    (plan : ContainerCycleRepairPlan) {containerId branch : String}
    (hbranch : plan.childBranch containerId = .ok branch) (hreached : Reached refs)
    (h : Quiet refs w) :
    Yields (Remote.handle G) I (repairChild plan parentSha containerId) w
      (.ok (G.childResult parentSha containerId branch (refs branch)))
      (Quiet (G.syncedRefs parentSha branch refs)) := by
  have hhere : forall w, Quiet refs w -> I w := fun w hw => hI refs w hw hreached
  unfold ContainerCycleRepairPlan.childBranch at hbranch
  unfold repairChild
  cases hname : plan.branchForContainer containerId with
  | error error =>
    rw [hname] at hbranch
    cases hbranch
  | ok name =>
    rw [hname] at hbranch
    have hvalid : validateBranch name = .ok branch := hbranch
    cases validateBranch_ok hvalid
    apply Program.Yields.bind (yields_done (hhere w h) h)
    intro named hnamed
    apply Program.Yields.bind (yields_refSha hvalid
      (fun w hw => by rw [hw.fetched]) Quiet.undisturbed hhere hnamed)
    intro read hread
    cases href : refs branch with
    | none =>
      rw [Git.syncedRefs_none href]
      exact yields_done (hhere read hread) hread
    | some expected =>
      rw [Git.syncedRefs_some href]
      have hsync := yields_attempt (yields_synchronizeChild hI hstep
        (Git.observedChild containerId branch (some expected)) hvalid href hreached
        hread)
      apply hsync.invariant.bind
      intro after hafter
      unfold Git.childResult
      dsimp only [Git.observedChild]
      cases hresult : G.synchronization parentSha branch expected with
      | ok reached => exact yields_done hafter.right hafter.left
      | error error =>
        have hrepair := (Git.synchronization_error hresult).left
        show Yields (Remote.handle G) I (if error.isRepairError = true then _ else _) after _ _
        rw [if_pos hrepair]
        exact yields_done hafter.right hafter.left

theorem yields_repairChild_error (plan : ContainerCycleRepairPlan) {containerId : String}
    {error : RepairError} (hbranch : plan.childBranch containerId = .error error)
    (hI : forall w, P w -> I w) (h : P w) :
    Yields (Remote.handle G) I (repairChild plan parentSha containerId) w (.error error) P := by
  unfold ContainerCycleRepairPlan.childBranch at hbranch
  unfold repairChild
  cases hname : plan.branchForContainer containerId with
  | error other =>
    rw [hname] at hbranch
    cases hbranch
    exact yields_raise (hI w h) h
  | ok name =>
    rw [hname] at hbranch
    apply Program.Yields.bind (yields_done (hI w h) h)
    intro named hnamed
    apply Program.Yields.bind_error
    exact yields_refSha_error hbranch hI hnamed

theorem yields_repairChildren (hI : forall refs w, Quiet refs w -> Reached refs -> I w)
    (hstep : forall refs branch observed, Reached refs -> refs branch = some observed ->
      Reached (setRef refs branch (G.synced parentSha branch observed)))
    (plan : ContainerCycleRepairPlan) (containers : List String)
    (hreached : Reached refs) (h : Quiet refs w) :
    Yields (Remote.handle G) I (repairChildren plan parentSha containers) w
      (G.syncChildren plan parentSha containers refs) (fun after =>
        exists last, Reached last ∧ Quiet last after) := by
  induction containers generalizing refs w with
  | nil => exact yields_done (hI refs w h hreached) ⟨refs, hreached, h⟩
  | cons containerId rest ih =>
    unfold repairChildren Git.syncChildren
    cases hbranch : plan.childBranch containerId with
    | error error =>
      apply Program.Yields.bind_error
      apply yields_repairChild_error (P := fun after =>
        exists last, Reached last ∧ Quiet last after) plan hbranch
      · intro after hafter
        rcases hafter with ⟨last, hlast, hquiet⟩
        exact hI last after hquiet hlast
      · exact ⟨refs, hreached, h⟩
    | ok branch =>
      have hnext : Reached (G.syncedRefs parentSha branch refs) := by
        cases href : refs branch with
        | none =>
          rw [Git.syncedRefs_none href]
          exact hreached
        | some observed =>
          rw [Git.syncedRefs_some href]
          exact hstep refs branch observed hreached href
      apply (yields_repairChild hI hstep plan hbranch hreached h).bind
      intro after hafter
      have hrest := ih hnext hafter
      dsimp only
      cases hchildren : G.syncChildren plan parentSha rest
          (G.syncedRefs parentSha branch refs) with
      | error error =>
        rw [hchildren] at hrest
        exact hrest.bind_error
      | ok children =>
        rw [hchildren] at hrest
        apply hrest.invariant.bind
        intro last hlast
        exact yields_done hlast.right hlast.left

end Repair

/-!
# Two passes over related refs
-/

/-- What two runs record of one dependent container. -/
structure ChildAgrees (whole resumed : ChildRepairResult) : Prop where
  containerId : resumed.containerId = whole.containerId
  branch : resumed.branch = whole.branch
  resultingSha : resumed.resultingSha = whole.resultingSha
  error : resumed.error = whole.error
  action : resumed.action = whole.action ∨
    whole.action.synchronized = true ∧ resumed.action = .alreadyReachable

theorem ChildAgrees.refl (child : ChildRepairResult) : ChildAgrees child child :=
  ⟨rfl, rfl, rfl, rfl, Or.inl rfl⟩

theorem ChildAgrees.synchronized {whole resumed : ChildRepairResult}
    (h : ChildAgrees whole resumed) :
    resumed.action.synchronized = whole.action.synchronized := by
  rcases h.action with hsame | ⟨hwhole, hresumed⟩
  · rw [hsame]
  · rw [hwhole, hresumed]
    rfl

theorem ChildAgrees.conflicted {whole resumed : ChildRepairResult} (h : ChildAgrees whole resumed) :
    resumed.action.conflicted = whole.action.conflicted := by
  rcases h.action with hsame | ⟨hwhole, hresumed⟩
  · rw [hsame]
  · rw [hresumed]
    cases haction : whole.action <;> rw [haction] at hwhole <;> first | rfl | cases hwhole

namespace Git

variable {G : Git} {parentSha : String}

/-- Some branches of the second map are synchronised already. -/
def Ahead (G : Git) (parentSha : String) (refs later : Refs) : Prop :=
  forall branch, later branch = refs branch ∨
    later branch = (refs branch).map (G.synced parentSha branch)

theorem childResult_synced (hG : G.Lawful) (containerId branch observed : String) :
    ChildAgrees (G.childResult parentSha containerId branch (some observed))
      (G.childResult parentSha containerId branch (some (G.synced parentSha branch observed))) := by
  cases h : G.synchronization parentSha branch observed with
  | error error =>
    rw [synced_of_error h]
    exact ChildAgrees.refl _
  | ok reached =>
    rcases reached with ⟨sha, action⟩
    rcases synchronization_reaches hG h with ⟨hreachable, haction⟩
    rw [synced_of_ok h]
    unfold childResult
    dsimp only
    rw [h, synchronization_of_reachable branch hreachable]
    exact ⟨rfl, rfl, rfl, rfl, Or.inr ⟨haction, rfl⟩⟩

variable {refs later : Refs}

theorem childResult_ahead (hG : G.Lawful)
    (h : G.Ahead parentSha refs later) (containerId branch : String) :
    ChildAgrees (G.childResult parentSha containerId branch (refs branch))
      (G.childResult parentSha containerId branch (later branch)) := by
  rcases h branch with hsame | hsynced
  · rw [hsame]
    exact ChildAgrees.refl _
  · rw [hsynced]
    cases refs branch with
    | none => exact ChildAgrees.refl _
    | some observed => exact childResult_synced hG containerId branch observed

theorem syncedRefs_apply (branch name : String) (refs : Refs) :
    G.syncedRefs parentSha branch refs name =
      if name = branch then (refs name).map (G.synced parentSha name) else refs name := by
  cases href : refs branch with
  | none =>
    rw [syncedRefs_none href]
    by_cases hname : name = branch
    · rw [if_pos hname, hname, href]
      rfl
    · rw [if_neg hname]
  | some observed =>
    rw [syncedRefs_some href]
    by_cases hname : name = branch
    · rw [if_pos hname, hname, setRef_same, href]
      rfl
    · rw [if_neg hname, setRef_other refs _ hname]

theorem Ahead.syncedRefs (hG : G.Lawful) (h : G.Ahead parentSha refs later) (branch : String) :
    G.Ahead parentSha (G.syncedRefs parentSha branch refs)
      (G.syncedRefs parentSha branch later) := by
  intro name
  rw [syncedRefs_apply, syncedRefs_apply]
  by_cases hname : name = branch
  · rw [if_pos hname, if_pos hname]
    left
    rcases h name with hsame | hsynced
    · rw [hsame]
    · rw [hsynced]
      cases refs name with
      | none => rfl
      | some observed => exact congrArg some (synced_synced hG parentSha name observed)
  · rw [if_neg hname, if_neg hname]
    exact h name

/-- What two passes over the dependent containers return. -/
def ResultsAgree : Except RepairError (List ChildRepairResult) ->
      Except RepairError (List ChildRepairResult) -> Prop
  | .ok whole, .ok resumed => List.Forall₂ ChildAgrees whole resumed
  | .error whole, .error resumed => resumed = whole
  | _, _ => False

theorem syncChildren_ahead (hG : G.Lawful) (plan : ContainerCycleRepairPlan)
    (containers : List String) (h : G.Ahead parentSha refs later) :
    ResultsAgree (G.syncChildren plan parentSha containers refs)
      (G.syncChildren plan parentSha containers later) := by
  induction containers generalizing refs later with
  | nil => exact List.Forall₂.nil
  | cons containerId rest ih =>
    unfold syncChildren
    cases hbranch : plan.childBranch containerId with
    | error error => exact rfl
    | ok branch =>
      have hrest := ih (h.syncedRefs hG branch)
      dsimp only
      cases hwhole : G.syncChildren plan parentSha rest
          (G.syncedRefs parentSha branch refs) with
      | error error =>
        cases hresumed : G.syncChildren plan parentSha rest
            (G.syncedRefs parentSha branch later) with
        | error other =>
          rw [hwhole, hresumed] at hrest
          exact hrest
        | ok children =>
          rw [hwhole, hresumed] at hrest
          exact hrest
      | ok children =>
        cases hresumed : G.syncChildren plan parentSha rest
            (G.syncedRefs parentSha branch later) with
        | error other =>
          rw [hwhole, hresumed] at hrest
          exact hrest
        | ok others =>
          rw [hwhole, hresumed] at hrest
          exact List.Forall₂.cons (childResult_ahead hG h containerId branch) hrest

end Git
end ContainerRepair
end Oompah
