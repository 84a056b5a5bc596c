import Oompah.ContainerRepair.Children
import Oompah.ContainerRepair.Landing

/-!
# Resuming an interrupted repair

A run stops after any number of commands and another one starts from the evidence
that was persisted.  The second run ends where the first would have ended: the
parent ref a run leaves depends on the ref it finds only, and each ref that the
first run leaves on its way leads there.
-/

namespace Oompah
namespace ContainerRepair

open Foundation
open Foundation.Program (Yields Completes)
open ChildAction (conflicted noConfusion)
open Remote (handle)

/-- The branch whose ref a run advances. -/
def ContainerCycleRepairPlan.parentBranch (plan : ContainerCycleRepairPlan) :
    Except RepairError String :=
  plan.childBranch plan.authoritativeContainer

/-- What a run has done to the refs at any point. -/
structure Midway (G : Git) (plan : ContainerCycleRepairPlan) (parentBranch : String)
    (base : Refs) (quiet : Prop) (w : Remote) : Prop where
  landed : G.landed plan parentBranch (w.refs parentBranch) =
    G.landed plan parentBranch (base parentBranch)
  known : forall sha, w.refs parentBranch = some sha -> G.isAncestor sha sha = true
  spared : w.Spares parentBranch
  calm : quiet -> w.foreign = [] ∧ forall branch, branch ≠ parentBranch ->
    w.refs branch = base branch ∨
      exists sha, (G.landed plan parentBranch (base parentBranch)).2 = .ok sha ∧
        w.refs branch = (base branch).map (G.synced sha branch)

/-- Before the first fetch. -/
structure Unfetched (parentBranch : String) (quiet : Prop) (base : Refs) (w : Remote) :
    Prop where
  refs : w.refs parentBranch = base parentBranch
  spared : w.Spares parentBranch
  calm : quiet -> w.foreign = [] ∧ forall branch, branch ≠ parentBranch ->
    w.refs branch = base branch

namespace Unfetched

variable {parentBranch : String} {quiet : Prop} {base : Refs} {w : Remote}

theorem undisturbed : Undisturbed (Unfetched parentBranch quiet base) := by
  intro w h
  constructor
  · rw [h.spared.ref]
    exact h.refs
  · exact h.spared.disturbed
  · intro hquiet
    rw [Remote.disturbed_of_quiet (h.calm hquiet).left]
    exact h.calm hquiet

theorem fetched (h : Unfetched parentBranch quiet base w) :
    Standing parentBranch quiet base (base parentBranch) { w with fetched := w.refs } := by
  constructor
  · exact h.refs
  · exact h.refs
  · exact h.spared
  · intro hquiet
    refine ⟨(h.calm hquiet).left, ?_⟩
    intro branch hbranch
    have hsame := (h.calm hquiet).right branch hbranch
    exact ⟨hsame, hsame⟩

end Unfetched

variable {error : RepairError}

namespace Git

variable {G : Git} {plan : ContainerCycleRepairPlan} {parentBranch : String}

theorem landed_error {ref : Option String} (h : (G.landed plan parentBranch ref).2 = .error error) :
    error.isRepairError = true ∧ forall message, error ≠ .refRace message := by
  cases ref with
  | none =>
    cases h
    exact ⟨rfl, fun message => RepairError.noConfusion⟩
  | some current =>
    have hresult : landingResult (G.landing plan.closure plan.selectedShas current) =
        .error error := h
    rcases hlanding : G.landing plan.closure plan.selectedShas current with ⟨sha, found⟩
    rw [hlanding] at hresult
    cases found with
    | none => cases hresult
    | some other =>
      cases hresult
      rcases landing_error (congrArg Prod.snd hlanding) with ⟨message, hmessage⟩
      rw [hmessage]
      exact ⟨rfl, fun message => RepairError.noConfusion⟩

theorem landed_ok {ref : Option String} {sha : String}
    (h : (G.landed plan parentBranch ref).2 = .ok sha) :
    (G.landed plan parentBranch ref).1 = some sha := by
  cases ref with
  | none => cases h
  | some current =>
    have hresult : landingResult (G.landing plan.closure plan.selectedShas current) = .ok sha := h
    show some (G.landing plan.closure plan.selectedShas current).1 = some sha
    rcases hlanding : G.landing plan.closure plan.selectedShas current with
      ⟨reached, found⟩
    rw [hlanding] at hresult
    cases found with
    | none =>
      cases hresult
      rfl
    | some other => cases hresult

theorem childBranch_error {containerId : String}
    (h : plan.childBranch containerId = .error error) : error.isRepairError = false := by
  unfold ContainerCycleRepairPlan.childBranch at h
  cases hname : plan.branchForContainer containerId with
  | error other =>
    rw [hname] at h
    cases h
    exact branchForContainer_error hname
  | ok name =>
    rw [hname] at h
    exact validateBranch_error h

theorem syncChildren_error {parentSha : String} {containers : List String} {refs : Refs}
    (h : G.syncChildren plan parentSha containers refs = .error error) :
    error.isRepairError = false := by
  induction containers generalizing refs with
  | nil => cases h
  | cons containerId rest ih =>
    unfold syncChildren at h
    cases hbranch : plan.childBranch containerId with
    | error other =>
      rw [hbranch] at h
      cases h
      exact childBranch_error hbranch
    | ok branch =>
      rw [hbranch] at h
      dsimp only at h
      cases hrest : G.syncChildren plan parentSha rest
          (G.syncedRefs parentSha branch refs) with
      | error other =>
        rw [hrest] at h
        cases h
        exact ih hrest
      | ok children =>
        rw [hrest] at h
        cases h

theorem childResult_unraced (hG : G.Lawful) (parentSha containerId branch : String)
    (observed : Option String) :
    (G.childResult parentSha containerId branch observed).action ≠ .refRace := by
  cases observed with
  | none => exact noConfusion
  | some expected =>
    unfold childResult
    dsimp only
    cases hsync : G.synchronization parentSha branch expected with
    | ok reached =>
      rcases reached with ⟨sha, action⟩
      intro hrace
      have haction : action = .refRace := hrace
      have hdone := (synchronization_reaches hG hsync).right
      rw [haction] at hdone
      cases hdone
    | error error =>
      have hrace := (synchronization_error hsync).right
      cases error with
      | refRace message => exact absurd rfl (hrace message)
      | value message => exact noConfusion
      | repair message => exact noConfusion
      | unsafePrerequisite message => exact noConfusion
      | mergeConflict message => exact noConfusion
      | conflicts containers => exact noConfusion

theorem syncChildren_unraced (hG : G.Lawful) {parentSha : String} {containers : List String}
    {refs : Refs}
    {children : List ChildRepairResult}
    (h : G.syncChildren plan parentSha containers refs = .ok children) :
    forall child, child ∈ children -> child.action ≠ .refRace := by
  induction containers generalizing refs children with
  | nil =>
    cases h
    intro child hchild
    cases hchild
  | cons containerId rest ih =>
    unfold syncChildren at h
    cases hbranch : plan.childBranch containerId with
    | error other =>
      rw [hbranch] at h
      cases h
    | ok branch =>
      rw [hbranch] at h
      dsimp only at h
      cases hrest : G.syncChildren plan parentSha rest
          (G.syncedRefs parentSha branch refs) with
      | error other =>
        rw [hrest] at h
        cases h
      | ok others =>
        rw [hrest] at h
        cases h
        intro child hchild
        rcases List.mem_cons.mp hchild with hhead | htail
        · rw [hhead]
          exact childResult_unraced hG parentSha containerId branch (refs branch)
        · exact ih hrest child htail

end Git

/-!
# One run
-/

/-- The result of a run, from what its advance of the parent branch returns. -/
inductive RunResult (G : Git) (plan : ContainerCycleRepairPlan) (parentBranch : String)
    (result : ContainerCycleRepairResult) (quiet : Prop) (base : Refs) :
    Except RepairError String -> Except RepairError ContainerCycleRepairResult -> Prop where
  | blocked (error : RepairError) : RunResult G plan parentBranch result quiet base (.error error)
        (.ok { result with error := some error })
  | finished (expected parentSha : String) (children : List ChildRepairResult)
      (hchildren : quiet -> G.syncChildren plan parentSha plan.dependentContainers
          (setRef base parentBranch parentSha) = .ok children) :
      RunResult G plan parentBranch result quiet base (.ok parentSha)
        (.ok (childrenSynchronized plan (advancedResult result expected parentSha) children))
  | raised (parentSha : String) (error : RepairError) (hunreported : error.isRepairError = false)
      (hchildren : quiet -> G.syncChildren plan parentSha plan.dependentContainers
          (setRef base parentBranch parentSha) = .error error) :
      RunResult G plan parentBranch result quiet base (.ok parentSha) (.error error)

/-- The refs while the children of a run are synchronised one by one. -/
structure Settling (G : Git) (parentBranch parentSha : String) (base refs : Refs) :
    Prop where
  parent : refs parentBranch = some parentSha
  others : forall branch, branch ≠ parentBranch -> refs branch = base branch ∨
      refs branch = (base branch).map (G.synced parentSha branch)

section Settling

variable {G : Git} {plan : ContainerCycleRepairPlan} {parentBranch parentSha : String}
  {base refs : Refs} {quiet : Prop} {w : Remote}

theorem Settling.start (G : Git) (base : Refs) (parentBranch parentSha : String) :
    Settling G parentBranch parentSha base (setRef base parentBranch parentSha) := by
  constructor
  · exact setRef_same base parentBranch parentSha
  · intro branch hbranch
    exact .inl (setRef_other base parentSha hbranch)

theorem Settling.step (hG : G.Lawful) (hknown : G.isAncestor parentSha parentSha = true)
    (h : Settling G parentBranch parentSha base refs) {branch observed : String}
    (href : refs branch = some observed) :
    Settling G parentBranch parentSha base
      (setRef refs branch (G.synced parentSha branch observed)) := by
  by_cases hbranch : branch = parentBranch
  · rw [hbranch] at href ⊢
    rw [h.parent] at href
    cases href
    rw [Git.synced_of_ok (Git.synchronization_of_reachable _ hknown), setRef_self h.parent]
    exact h
  · constructor
    · rw [setRef_other refs _ (Ne.symm hbranch)]
      exact h.parent
    · intro name hname
      by_cases hsame : name = branch
      · rw [hsame, setRef_same]
        right
        rcases h.others branch hbranch with hbase | hsynced
        · rw [← hbase, href]
          rfl
        · rw [href] at hsynced
          cases horigin : base branch with
          | none =>
            rw [horigin] at hsynced
            cases hsynced
          | some origin =>
            rw [horigin] at hsynced
            cases hsynced
            exact congrArg some (Git.synced_synced hG parentSha branch origin)
      · rw [setRef_other refs _ hsame]
        exact h.others name hname

theorem Settling.midway (h : Settling G parentBranch parentSha base refs)
    (hlanded : G.landed plan parentBranch (some parentSha) =
      G.landed plan parentBranch (base parentBranch))
    (htarget : (G.landed plan parentBranch (base parentBranch)).2 = .ok parentSha)
    (hknown : G.isAncestor parentSha parentSha = true) (hw : Quiet refs w) :
    Midway G plan parentBranch base quiet w := by
  constructor
  · rw [hw.refs, h.parent, hlanded]
  · intro sha hsha
    rw [hw.refs, h.parent] at hsha
    cases hsha
    exact hknown
  · intro write hwrite
    rw [hw.alone] at hwrite
    cases hwrite
  · intro _
    refine ⟨hw.alone, ?_⟩
    intro branch hbranch
    rw [hw.refs]
    rcases h.others branch hbranch with hsame | hsynced
    · exact .inl hsame
    · exact .inr ⟨parentSha, htarget, hsynced⟩

theorem Standing.alone (h : Standing parentBranch quiet base (some parentSha) w)
    (hquiet : quiet) : Quiet (setRef base parentBranch parentSha) w := by
  rcases h.calm hquiet with ⟨halone, hothers⟩
  refine ⟨halone, ?_, ?_⟩
  · funext branch
    by_cases hbranch : branch = parentBranch
    · rw [hbranch, setRef_same, h.refs]
    · rw [setRef_other base parentSha hbranch]
      exact (hothers branch hbranch).left
  · funext branch
    by_cases hbranch : branch = parentBranch
    · rw [hbranch, setRef_same, h.fetched]
    · rw [setRef_other base parentSha hbranch]
      exact (hothers branch hbranch).right

end Settling

section Midway

variable {G : Git} {plan : ContainerCycleRepairPlan} {parentBranch : String}
  {base : Refs} {quiet : Prop} {w : Remote}

theorem Unfetched.midway (h : Unfetched parentBranch quiet base w)
    (hknown : forall sha, base parentBranch = some sha -> G.isAncestor sha sha = true) :
    Midway G plan parentBranch base quiet w := by
  constructor
  · rw [h.refs]
  · rw [h.refs]
    exact hknown
  · exact h.spared
  · intro hquiet
    refine ⟨(h.calm hquiet).left, ?_⟩
    intro branch hbranch
    exact .inl ((h.calm hquiet).right branch hbranch)

theorem Standing.midway {ref : Option String} (h : Standing parentBranch quiet base ref w)
    (hknown : forall sha, ref = some sha -> G.isAncestor sha sha = true)
    (hlanded : G.landed plan parentBranch ref = G.landed plan parentBranch (base parentBranch)) :
    Midway G plan parentBranch base quiet w := by
  constructor
  · rw [h.refs, hlanded]
  · rw [h.refs]
    exact hknown
  · exact h.spared
  · intro hquiet
    refine ⟨(h.calm hquiet).left, ?_⟩
    intro branch hbranch
    exact .inl ((h.calm hquiet).right branch hbranch).left

theorem Midway.undisturbed : Undisturbed (Midway G plan parentBranch base quiet) := by
  intro w h
  constructor
  · rw [h.spared.ref]
    exact h.landed
  · rw [h.spared.ref]
    exact h.known
  · exact h.spared.disturbed
  · intro hquiet
    rw [Remote.disturbed_of_quiet (h.calm hquiet).left]
    exact h.calm hquiet

theorem Midway.recorded (h : Midway G plan parentBranch base quiet w) (evidence : Evidence) :
    Midway G plan parentBranch base quiet { w with journal := w.journal.record evidence } :=
  ⟨h.landed, h.known, h.spared, h.calm⟩

end Midway

namespace Repair

variable {G : Git} {plan : ContainerCycleRepairPlan} {parentBranch parentSha : String}
  {base : Refs} {quiet : Prop} {w : Remote}

/-- The children of a run that stands at the parent commit it returned. -/
theorem completes_repairChildren (hG : G.Lawful)
    (htarget : (G.landed plan parentBranch (base parentBranch)).2 = .ok parentSha)
    (hmidway : Midway G plan parentBranch base quiet w)
    (h : Standing parentBranch quiet base (some parentSha) w) :
    Completes (handle G) (Midway G plan parentBranch base quiet)
      (repairChildren plan parentSha plan.dependentContainers) w
      (fun result after =>
        after.refs parentBranch = some parentSha ∧
        (forall error, result = .error error -> error.isRepairError = false) ∧
        (quiet -> result = G.syncChildren plan parentSha plan.dependentContainers
            (setRef base parentBranch parentSha))) := by
  have hknown : G.isAncestor parentSha parentSha = true := hmidway.known parentSha h.refs
  have hlanded : G.landed plan parentBranch (some parentSha) =
      G.landed plan parentBranch (base parentBranch) := by
    rw [← hmidway.landed, h.refs]
  by_cases hquiet : quiet
  · have hrun := yields_repairChildren (G := G) (I := Midway G plan parentBranch base quiet)
      (fun refs w hw hrefs => hrefs.midway hlanded htarget hknown hw)
      (fun refs branch observed hrefs href => hrefs.step hG hknown href)
      plan plan.dependentContainers (Settling.start G base parentBranch parentSha)
      (h.alone hquiet)
    apply hrun.completes.mono
    intro result after _ hafter
    rcases hafter with ⟨hsame, last, hlast, hlastQuiet⟩
    refine ⟨?_, ?_, fun _ => hsame⟩
    · rw [hlastQuiet.refs]
      exact hlast.parent
    · intro error herror
      rw [hsame] at herror
      exact Git.syncChildren_error herror
  · rcases repairChildren_parentAt hknown plan plan.dependentContainers
      ⟨h.refs, h.fetched, h.spared⟩ with ⟨hvisits, hresult⟩
    constructor
    · apply hvisits.mono
      intro w hw
      exact ⟨by rw [hw.refs, hlanded], fun sha hsha => by
        rw [hw.refs] at hsha
        cases hsha
        exact hknown, hw.spared, fun hcalm => absurd hcalm hquiet⟩
    · exact ⟨hvisits.finish.refs, hresult, fun hcalm => absurd hcalm hquiet⟩

theorem completes_fetch
    (hknown : forall sha, base parentBranch = some sha -> G.isAncestor sha sha = true)
    (h : Unfetched parentBranch quiet base w) :
    Completes (handle G) (Midway G plan parentBranch base quiet) fetch w
      (fun result after =>
        result = .ok () ∧ Standing parentBranch quiet base (base parentBranch) after) := by
  apply Yields.completes
  exact yields_fetch Unfetched.undisturbed (fun w hw => hw.midway hknown)
    (fun w hw => hw.fetched) (fun w hw => hw.midway hknown rfl) h

/-- The rest of a run whose advance of the parent branch returned. -/
theorem completes_synchronize (hG : G.Lawful) (result : ContainerCycleRepairResult)
    (expected : String)
    (htarget : (G.landed plan parentBranch (base parentBranch)).2 = .ok parentSha)
    (hmidway : Midway G plan parentBranch base quiet w)
    (h : Standing parentBranch quiet base (some parentSha) w) :
    Completes (handle G) (Midway G plan parentBranch base quiet)
      (synchronizeChildren plan (advancedResult result expected parentSha) parentSha) w
      (fun outcome after =>
        after.refs parentBranch = some parentSha ∧
        RunResult G plan parentBranch result quiet base (.ok parentSha) outcome) := by
  let Stands : Remote -> Prop := fun w =>
    Midway G plan parentBranch base quiet w ∧ Standing parentBranch quiet base (some parentSha) w
  let Settled : Remote -> Prop := fun w =>
    Midway G plan parentBranch base quiet w ∧ w.refs parentBranch = some parentSha
  have hstands : Undisturbed Stands :=
    fun w hw => ⟨Midway.undisturbed w hw.left, Standing.undisturbed w hw.right⟩
  have hsettled : Undisturbed Settled := by
    intro w hw
    refine ⟨Midway.undisturbed w hw.left, ?_⟩
    rw [hw.left.spared.ref]
    exact hw.right
  have hadvanced := yields_persist (G := G) (Q := Stands)
    (.result (advancedResult result expected parentSha)) hstands (fun w hw => hw.left)
    (fun w hw => ⟨hw.left.recorded _, hw.right.recorded _⟩) (fun w hw => hw.left)
    ⟨hmidway, h⟩
  apply hadvanced.completes.bind
  · intro _ advanced _ hafter
    apply (completes_repairChildren hG htarget hafter.right.left hafter.right.right).bind
    · intro children reached hreached hresult
      have hfinished := yields_persist (G := G) (Q := Settled) (.result (childrenSynchronized plan
          (advancedResult result expected parentSha) children))
        hsettled (fun w hw => hw.left)
        (fun w hw => ⟨hw.left.recorded _, hw.right⟩) (fun w hw => hw.left)
        ⟨hreached, hresult.left⟩
      apply hfinished.completes.bind
      · intro _ last _ hlast
        refine ⟨hlast.right.left, hlast.right.right, ?_⟩
        apply RunResult.finished
        intro hquiet
        exact (hresult.right.right hquiet).symm
      · intro error last _ hlast
        cases hlast.left
    · intro error reached _ hresult
      refine ⟨hresult.left, ?_⟩
      apply RunResult.raised
      · exact hresult.right.left error rfl
      · intro hquiet
        exact (hresult.right.right hquiet).symm
  · intro error after _ hafter
    cases hafter.left

theorem completes_executeSteps (result : ContainerCycleRepairResult) (hG : G.Lawful)
    (hvalid : validateBranch parentBranch = .ok parentBranch)
    (hbranch : result.parentBranch = parentBranch)
    (hknown : forall sha, base parentBranch = some sha -> G.isAncestor sha sha = true)
    (hresumable : G.Resumable plan result.parentSha (base parentBranch))
    (h : Unfetched parentBranch quiet base w) :
    Completes (handle G) (Midway G plan parentBranch base quiet) (executeSteps plan result) w
      (fun outcome after =>
        after.refs parentBranch = (G.landed plan parentBranch (base parentBranch)).1 ∧
        match (G.landed plan parentBranch (base parentBranch)).2 with
        | .error error => outcome = .error error
        | .ok parentSha =>
          RunResult G plan parentBranch result quiet base (.ok parentSha) outcome) := by
  apply (completes_fetch hknown h).bind
  · intro _ fetched _ hfetched
    rw [hbranch]
    have hmidway : forall (w : Remote) ref, Standing parentBranch quiet base ref w ->
          (forall sha, ref = some sha -> G.isAncestor sha sha = true) ->
          G.landed plan parentBranch ref = G.landed plan parentBranch (base parentBranch) ->
            Midway G plan parentBranch base quiet w :=
      fun w ref hw hself hlanded => hw.midway hself hlanded
    rcases yields_advanceParent hG hvalid hmidway hresumable hknown rfl
      hfetched.right with ⟨expected, hadvance⟩
    cases htarget : (G.landed plan parentBranch (base parentBranch)).2 with
    | error error =>
      rw [htarget] at hadvance
      apply hadvance.completes.bind
      · intro reached advanced _ hadvanced
        cases hadvanced.left
      · intro other advanced _ hadvanced
        cases hadvanced.left
        exact ⟨hadvanced.right.refs, rfl⟩
    | ok parentSha =>
      rw [htarget, Git.landed_ok htarget] at hadvance
      apply hadvance.completes.bind
      · intro reached advanced hmidway hadvanced
        cases hadvanced.left
        apply (completes_synchronize hG result expected htarget hmidway hadvanced.right).mono
        intro outcome after _ hafter
        exact ⟨hafter.left.trans (Git.landed_ok htarget).symm, hafter.right⟩
      · intro other advanced _ hadvanced
        cases hadvanced.left
  · intro error fetched _ hfetched
    cases hfetched.left

theorem completes_execute (hG : G.Lawful) (hparent : plan.parentBranch = .ok parentBranch)
    {prior : Journal}
    (hknown : forall sha, base parentBranch = some sha -> G.isAncestor sha sha = true)
    (hresumable : G.Resumable plan prior.parentSha (base parentBranch))
    (h : Unfetched parentBranch quiet base w) :
    Completes (handle G) (Midway G plan parentBranch base quiet) (execute plan prior) w
      (fun outcome after =>
        after.refs parentBranch = (G.landed plan parentBranch (base parentBranch)).1 ∧
        RunResult G plan parentBranch (start parentBranch prior) quiet base
          (G.landed plan parentBranch (base parentBranch)).2 outcome) := by
  unfold ContainerCycleRepairPlan.parentBranch ContainerCycleRepairPlan.childBranch at hparent
  unfold execute
  cases hname : plan.branchForContainer plan.authoritativeContainer with
  | error error =>
    rw [hname] at hparent
    cases hparent
  | ok name =>
    rw [hname] at hparent
    have hvalid : validateBranch name = .ok parentBranch := hparent
    cases validateBranch_ok hvalid
    let Left : Remote -> Prop := fun w =>
      Midway G plan parentBranch base quiet w ∧
        w.refs parentBranch = (G.landed plan parentBranch (base parentBranch)).1
    have hleft : Undisturbed Left := by
      intro w hw
      refine ⟨Midway.undisturbed w hw.left, ?_⟩
      rw [hw.left.spared.ref]
      exact hw.right
    have hrun := completes_executeSteps (start parentBranch prior) hG hvalid rfl hknown hresumable h
    show Completes _ _ (Program.tryCatch _ _) w _
    cases htarget : (G.landed plan parentBranch (base parentBranch)).2 with
    | error error =>
      rw [htarget] at hrun
      apply hrun.tryCatch
      · intro other after hmidway hafter
        cases hafter.right
        show Completes _ _ (if error.isRepairError = true then _ else _) after _
        rw [if_pos (Git.landed_error htarget).left]
        have hblocked := yields_persist (G := G) (Q := Left)
          (.result { start parentBranch prior with error := some error })
          hleft (fun w hw => hw.left)
          (fun w hw => ⟨hw.left.recorded _, hw.right⟩) (fun w hw => hw.left)
          ⟨hmidway, hafter.left⟩
        apply hblocked.completes.bind
        · intro _ last hlast hpersisted
          exact ⟨hlast, hpersisted.right.right, RunResult.blocked error⟩
        · intro other last _ hpersisted
          cases hpersisted.left
      · intro value after _ hafter
        cases hafter.right
    | ok parentSha =>
      rw [htarget] at hrun
      apply hrun.tryCatch
      · intro error after hmidway hafter
        cases hafter.right with
        | raised _ _ hunreported hchildren =>
          show Completes _ _ (if error.isRepairError = true then _ else _) after _
          rw [if_neg (by rw [hunreported]; exact Bool.false_ne_true)]
          exact ⟨hmidway, hafter.left, RunResult.raised parentSha error hunreported hchildren⟩
      · intro value after _ hafter
        exact hafter

end Repair

/-!
# Interrupted and uninterrupted runs
-/

/-- The run that starts from the persisted evidence. -/
def Remote.run (G : Git) (plan : ContainerCycleRepairPlan) (w : Remote) :
    Except RepairError ContainerCycleRepairResult × Remote :=
  Program.execute (handle G) (Repair.execute plan w.journal) w

/-- The remote after that run stopped at its `n`th command, with what other writers
do from then on. -/
def Remote.crashed (G : Git) (plan : ContainerCycleRepairPlan) (n : Nat)
    (later : List (Refs -> Refs)) (w : Remote) : Remote :=
  { Program.stopped (handle G) n (Repair.execute plan w.journal) w with
    foreign := later }

/-- No other writer moves the parent ref. -/
def ContainerCycleRepairPlan.OnlyWriter (plan : ContainerCycleRepairPlan)
    (foreign : List (Refs -> Refs)) : Prop :=
  forall parentBranch, plan.parentBranch = .ok parentBranch ->
    forall write, write ∈ foreign -> forall refs, write refs parentBranch = refs parentBranch

/-- The parent ref is the recorded one, or every selected commit has landed. -/
def ContainerCycleRepairPlan.ResumableAt (plan : ContainerCycleRepairPlan) (G : Git)
    (w : Remote) : Prop :=
  forall parentBranch, plan.parentBranch = .ok parentBranch ->
    G.Resumable plan w.journal.parentSha (w.refs parentBranch)

structure EvidenceAgrees (whole resumed : ContainerCycleRepairResult) : Prop where
  status : resumed.status = whole.status
  error : resumed.error = whole.error
  parentBranch : resumed.parentBranch = whole.parentBranch
  children : List.Forall₂ ChildAgrees whole.children resumed.children
  restorableRows : resumed.restorableRows = whole.restorableRows
  changedRows : resumed.changedRows = whole.changedRows
  advanced : whole.status ≠ .blocked ->
    resumed.phase = whole.phase ∧ resumed.parentSha = whole.parentSha

def OutcomesAgree : Except RepairError ContainerCycleRepairResult ->
      Except RepairError ContainerCycleRepairResult -> Prop
  | .ok whole, .ok resumed => EvidenceAgrees whole resumed
  | .error whole, .error resumed => resumed = whole
  | _, _ => False

/-- The error of a run that could not advance the parent branch. -/
def blockedBy : Except RepairError ContainerCycleRepairResult -> Option RepairError
  | .ok result => if result.status = .blocked then result.error else none
  | .error _ => none

def errorOf : Except RepairError String -> Option RepairError
  | .ok _ => none
  | .error error => some error

structure Converges (plan : ContainerCycleRepairPlan) (quiet : Prop)
    (whole resumed : Except RepairError ContainerCycleRepairResult × Remote) : Prop where
  parentRef : forall parentBranch, plan.parentBranch = .ok parentBranch ->
    resumed.2.refs parentBranch = whole.2.refs parentBranch
  blocked : blockedBy resumed.1 = blockedBy whole.1
  unraced : forall result, resumed.1 = .ok result ->
    forall message, result.error ≠ some (.refRace message)
  evidence : quiet -> OutcomesAgree whole.1 resumed.1
  childrenUnraced : quiet -> forall result, resumed.1 = .ok result ->
    forall child, child ∈ result.children -> child.action ≠ .refRace

/-!
# Agreement of the results
-/

section Agreement

variable {G : Git} {plan : ContainerCycleRepairPlan} {parentBranch : String}
variable {whole resumed : List ChildRepairResult}

theorem containers_agree (select : ChildAction -> Bool)
    (hselect : forall a b, ChildAgrees a b -> select b.action = select a.action)
    (h : List.Forall₂ ChildAgrees whole resumed) :
    (resumed.filter (fun child => select child.action)).map (·.containerId) =
      (whole.filter (fun child => select child.action)).map (·.containerId) := by
  induction h with
  | nil => rfl
  | cons hchild hrest ih =>
    rw [List.filter_cons, List.filter_cons, hselect _ _ hchild]
    split
    · rw [List.map_cons, List.map_cons, hchild.containerId, ih]
    · exact ih

theorem childrenSynchronized_agree {result other : ContainerCycleRepairResult}
    (hbranch : other.parentBranch = result.parentBranch)
    (h : List.Forall₂ ChildAgrees whole resumed) (expected first parentSha : String) :
    EvidenceAgrees (childrenSynchronized plan (advancedResult result expected parentSha) whole)
      (childrenSynchronized plan (advancedResult other first parentSha) resumed) := by
  have hconflicted := containers_agree conflicted (fun a b hab => hab.conflicted) h
  have hsynchronized := containers_agree ChildAction.synchronized
    (fun a b hab => hab.synchronized) h
  unfold childrenSynchronized
  rw [hconflicted, hsynchronized]
  exact ⟨rfl, rfl, hbranch, h, rfl, rfl, fun _ => ⟨rfl, rfl⟩⟩

theorem childrenSynchronized_status (result : ContainerCycleRepairResult)
    (children : List ChildRepairResult) :
    (childrenSynchronized plan result children).status ≠ .blocked := by
  unfold childrenSynchronized
  dsimp only
  split
  · exact RepairStatus.noConfusion
  · exact RepairStatus.noConfusion

theorem childrenSynchronized_unraced (result : ContainerCycleRepairResult)
    (children : List ChildRepairResult) (message : String) :
    (childrenSynchronized plan result children).error ≠ some (.refRace message) := by
  unfold childrenSynchronized
  dsimp only
  intro h
  split at h
  · cases h
  · cases h

namespace RunResult

variable {result other : ContainerCycleRepairResult} {quiet quiet' : Prop}
  {base later : Refs} {target : Except RepairError String}
  {whole resumed : Except RepairError ContainerCycleRepairResult}

theorem blockedBy (hstatus : result.status = .blocked)
    (h : RunResult G plan parentBranch result quiet base target whole) :
    ContainerRepair.blockedBy whole = errorOf target := by
  cases h with
  | blocked error => exact if_pos hstatus
  | finished expected parentSha children hchildren =>
    exact if_neg (childrenSynchronized_status _ children)
  | raised parentSha error hunreported hchildren => rfl

variable {reported : ContainerCycleRepairResult}

theorem unraced (hrace : forall error, target = .error error ->
      forall message, error ≠ .refRace message)
    (h : RunResult G plan parentBranch result quiet base target whole)
    (hreported : whole = .ok reported)
    (message : String) : reported.error ≠ some (.refRace message) := by
  cases h with
  | blocked error =>
    cases hreported
    intro hsame
    exact hrace error rfl message (Option.some.inj hsame)
  | finished expected parentSha children hchildren =>
    cases hreported
    exact childrenSynchronized_unraced _ children message
  | raised parentSha error hunreported hchildren => cases hreported

theorem childrenUnraced (hG : G.Lawful) (hquiet : quiet) (hnone : result.children = [])
    (h : RunResult G plan parentBranch result quiet base target whole)
    (hreported : whole = .ok reported) :
    forall child, child ∈ reported.children -> child.action ≠ .refRace := by
  cases h with
  | blocked error =>
    cases hreported
    intro child hchild
    have hchild' : child ∈ result.children := hchild
    rw [hnone] at hchild'
    cases hchild'
  | finished expected parentSha children hchildren =>
    cases hreported
    exact Git.syncChildren_unraced hG (hchildren hquiet)
  | raised parentSha error hunreported hchildren => cases hreported

theorem agree (hG : G.Lawful)
    (hwhole : RunResult G plan parentBranch result quiet base target whole)
    (hresumed : RunResult G plan parentBranch other quiet' later target resumed)
    (hquiet : quiet) (hquiet' : quiet')
    (hresult : other.status = result.status ∧ other.parentBranch = result.parentBranch ∧
      other.children = result.children ∧
      other.restorableRows = result.restorableRows ∧
      other.changedRows = result.changedRows)
    (hstatus : result.status = .blocked) (hnone : result.children = [])
    (hahead : forall parentSha, target = .ok parentSha ->
      G.Ahead parentSha (setRef base parentBranch parentSha)
        (setRef later parentBranch parentSha)) :
    OutcomesAgree whole resumed := by
  rcases hresult with ⟨hsame, hbranch, hchildren, hrestorable, hchanged⟩
  cases hwhole with
  | blocked error =>
    cases hresumed with
    | blocked =>
      refine ⟨hsame, rfl, hbranch, ?_, hrestorable, hchanged, ?_⟩
      · show List.Forall₂ ChildAgrees result.children other.children
        rw [hchildren, hnone]
        exact List.Forall₂.nil
      · intro hfree
        exact absurd hstatus hfree
  | finished expected parentSha children hpass =>
    have hpasses := Git.syncChildren_ahead hG plan plan.dependentContainers (hahead parentSha rfl)
    rw [hpass hquiet] at hpasses
    cases hresumed with
    | finished first _ others hother =>
      rw [hother hquiet'] at hpasses
      exact childrenSynchronized_agree hbranch hpasses expected first parentSha
    | raised _ error hunreported hother =>
      rw [hother hquiet'] at hpasses
      exact hpasses
  | raised parentSha error hunreported hpass =>
    have hpasses := Git.syncChildren_ahead hG plan plan.dependentContainers (hahead parentSha rfl)
    rw [hpass hquiet] at hpasses
    cases hresumed with
    | finished first _ others hother =>
      rw [hother hquiet'] at hpasses
      exact hpasses
    | raised _ otherError hunreported' hother =>
      rw [hother hquiet'] at hpasses
      exact hpasses

end RunResult

theorem Midway.ahead {base : Refs} {quiet : Prop} {w : Remote}
    (h : Midway G plan parentBranch base quiet w) (hquiet : quiet) {parentSha : String}
    (htarget : (G.landed plan parentBranch (base parentBranch)).2 = .ok parentSha) :
    G.Ahead parentSha (setRef base parentBranch parentSha)
      (setRef w.refs parentBranch parentSha) := by
  intro branch
  by_cases hbranch : branch = parentBranch
  · rw [hbranch, setRef_same, setRef_same]
    exact .inl rfl
  · rw [setRef_other base parentSha hbranch, setRef_other w.refs parentSha hbranch]
    rcases (h.calm hquiet).right branch hbranch with hsame | ⟨sha, hsha, hsynced⟩
    · exact .inl hsame
    · rw [htarget] at hsha
      cases hsha
      exact .inr hsynced

end Agreement

/-!
# The resumed run
-/

/-- A plan without a parent branch stops every run in the same way. -/
theorem run_of_no_parent {G : Git} {plan : ContainerCycleRepairPlan}
    (h : plan.parentBranch = .error error) (w : Remote) :
    (w.run G plan).1 = .error error := by
  let Any : Remote -> Prop := fun _ => True
  have hany : Undisturbed Any := fun _ hw => hw
  unfold Remote.run Repair.execute
  unfold ContainerCycleRepairPlan.parentBranch ContainerCycleRepairPlan.childBranch at h
  cases hname : plan.branchForContainer plan.authoritativeContainer with
  | error other =>
    rw [hname] at h
    cases h
    rfl
  | ok name =>
    rw [hname] at h
    have hvalid : validateBranch name = .error error := h
    have hsteps : Yields (handle G) Any
        (Repair.executeSteps plan (Repair.start name w.journal)) w (.error error) Any := by
      apply (Repair.yields_fetch (Q := Any) hany (fun _ hw => hw) (fun _ hw => hw)
        (fun _ hw => hw) trivial).bind
      intro fetched hfetched
      apply Program.Yields.bind_error
      apply Program.Yields.bind_error
      exact Repair.yields_refSha_error hvalid (fun _ hw => hw) hfetched
    have hcaught : Yields (handle G) Any
        ((Repair.executeSteps plan (Repair.start name w.journal)).tryCatch fun error =>
          if error.isRepairError = true then
            Repair.persist (.result
                { Repair.start name w.journal with error := some error }) >>= fun _ =>
              pure { Repair.start name w.journal with error := some error }
          else .raise error) w (.error error) Any := by
      apply hsteps.tryCatch_error
      intro after _
      rw [if_neg (by rw [validateBranch_error hvalid]; exact Bool.false_ne_true)]
      exact Program.yields_raise trivial trivial
    rcases hcaught with ⟨_, after, hrun, _⟩
    exact congrArg Prod.fst hrun

section Resumed

variable {G : Git} {plan : ContainerCycleRepairPlan} {parentBranch : String}

theorem completes_run (hG : G.Lawful) (hparent : plan.parentBranch = .ok parentBranch) (w : Remote)
    (hknown : forall sha, w.refs parentBranch = some sha -> G.isAncestor sha sha = true)
    (hspared : w.Spares parentBranch) (hresumable : plan.ResumableAt G w) :
    Completes (handle G) (Midway G plan parentBranch w.refs (w.foreign = []))
      (Repair.execute plan w.journal) w
      (fun outcome after =>
        after.refs parentBranch = (G.landed plan parentBranch (w.refs parentBranch)).1 ∧
        RunResult G plan parentBranch (Repair.start parentBranch w.journal)
          (w.foreign = []) w.refs (G.landed plan parentBranch (w.refs parentBranch)).2
          outcome) :=
  Repair.completes_execute hG hparent hknown (hresumable parentBranch hparent)
    ⟨rfl, hspared, fun halone => ⟨halone, fun _ _ => rfl⟩⟩

/--
A run that stopped after any number of commands is resumed from its evidence: the
parent ref ends where the uninterrupted run leaves it, whatever other writers do to
the other refs, and without other writers the evidence agrees.
-/
theorem resumed_run (hG : G.Lawful) (plan : ContainerCycleRepairPlan) (w : Remote)
    (n : Nat) (later : List (Refs -> Refs))
    (hknown : forall branch sha, w.refs branch = some sha -> G.isAncestor sha sha = true)
    (hfirst : plan.OnlyWriter w.foreign) (hlater : plan.OnlyWriter later)
    (hstart : plan.ResumableAt G w)
    (hcrash : plan.ResumableAt G (w.crashed G plan n later)) :
    Converges plan (w.foreign = [] ∧ later = []) (w.run G plan)
      ((w.crashed G plan n later).run G plan) := by
  cases hparent : plan.parentBranch with
  | error error =>
    have hwhole := run_of_no_parent (G := G) hparent w
    have hresumed := run_of_no_parent (G := G) hparent (w.crashed G plan n later)
    constructor
    · intro parentBranch hbranch
      rw [hparent] at hbranch
      cases hbranch
    · rw [hwhole, hresumed]
    · intro result hresult
      rw [hresumed] at hresult
      cases hresult
    · intro _
      rw [hwhole, hresumed]
      exact rfl
    · intro _ result hresult
      rw [hresumed] at hresult
      cases hresult
  | ok parentBranch =>
    have hwhole := completes_run hG hparent w (hknown parentBranch)
      (hfirst parentBranch hparent) hstart
    have hmidway : Midway G plan parentBranch w.refs (w.foreign = [])
        (Program.stopped (handle G) n (Repair.execute plan w.journal) w) :=
      hwhole.left.stopped n
    have hresumed := completes_run hG hparent (w.crashed G plan n later) hmidway.known
      (hlater parentBranch hparent) hcrash
    have hsame : G.landed plan parentBranch ((w.crashed G plan n later).refs parentBranch) =
        G.landed plan parentBranch (w.refs parentBranch) := hmidway.landed
    rcases hwhole with ⟨_, hwholeRef, hwholeResult⟩
    rcases hresumed with ⟨_, hresumedRef, hresumedResult⟩
    rw [hsame] at hresumedRef hresumedResult
    constructor
    · intro other hother
      rw [hparent] at hother
      cases hother
      exact hresumedRef.trans hwholeRef.symm
    · exact (hresumedResult.blockedBy rfl).trans (hwholeResult.blockedBy rfl).symm
    · intro result hresult
      exact hresumedResult.unraced (fun error herror => (Git.landed_error herror).right) hresult
    · intro hquiet
      apply RunResult.agree hG hwholeResult hresumedResult hquiet.left hquiet.right
        ⟨rfl, rfl, rfl, rfl, rfl⟩ rfl rfl
      intro parentSha htarget
      exact hmidway.ahead hquiet.left htarget
    · intro hquiet result hresult
      exact hresumedResult.childrenUnraced hG hquiet.right rfl hresult

end Resumed

/-!
# A repair of three commits
-/

def sampleRank (sha : String) : Option Nat :=
  if sha = "base" then some 0
  else if sha = "first" then some 1
  else if sha = "second" then some 2
  else if sha = "third" then some 3
  else none

/-- A history of four commits in a row. -/
def sampleGit : Git where
  isAncestor first second :=
    match sampleRank first, sampleRank second with
    | some a, some b => a ≤ b
    | _, _ => false
  revList old selected :=
    match sampleRank old, sampleRank selected with
    | some a, some b =>
      .ok (["first", "second", "third"].filter fun sha =>
        (sampleRank sha).any fun rank => a < rank && rank ≤ b)
    | _, _ => .error "unknown revision"
  mergeTree _ _ := none
  worktreeMerge _ parent :=
    if (sampleRank parent).isSome then .ok parent
    else .error (.command "unknown revision")

theorem sampleGit_ancestor {first second : String} : sampleGit.isAncestor first second = true ↔
      exists a b, sampleRank first = some a ∧ sampleRank second = some b ∧ a ≤ b := by
  unfold sampleGit
  dsimp only
  cases sampleRank first <;> cases sampleRank second <;> simp

theorem sampleGit_lawful : sampleGit.Lawful := by
  constructor
  · intro first second h
    rcases sampleGit_ancestor.mp h with ⟨a, b, _, hb, _⟩
    exact sampleGit_ancestor.mpr ⟨b, b, hb, hb, Nat.le_refl b⟩
  · intro first second third hfirst hsecond
    rcases sampleGit_ancestor.mp hfirst with ⟨a, b, ha, hb, hab⟩
    rcases sampleGit_ancestor.mp hsecond with ⟨b', c, hb', hc, hbc⟩
    rw [hb] at hb'
    cases hb'
    exact sampleGit_ancestor.mpr ⟨a, c, ha, hc, Nat.le_trans hab hbc⟩
  · intro child parent sha h
    have hmerge : (if (sampleRank parent).isSome then Except.ok parent
        else Except.error (MergeFailure.command "unknown revision")) = .ok sha := h
    cases hrank : sampleRank parent with
    | none =>
      rw [hrank] at hmerge
      cases hmerge
    | some rank =>
      rw [hrank] at hmerge
      cases hmerge
      exact sampleGit_ancestor.mpr ⟨rank, rank, hrank, hrank, Nat.le_refl rank⟩

def samplePlan : ContainerCycleRepairPlan where
  authoritativeContainer := "P"
  dependentContainers := ["C"]
  prerequisiteShas := [("T-1", "first"), ("T-2", "second"), ("T-3", "third")]
  rows := [{ taskId := "T-4", containerId := "C" }]

def sampleRemote : Remote where
  refs branch := if branch = "epic-P" ∨ branch = "epic-C" then some "base" else none
  fetched _ := none
  journal := {}

theorem samplePlan_parentBranch : samplePlan.parentBranch = .ok "epic-P" := by
  decide +kernel

/-- A stop after the push to the dependent branch and before its evidence. -/
theorem resumed_run_afterChildPush :
    Converges samplePlan (sampleRemote.foreign = [] ∧ ([] : List (Refs -> Refs)) = [])
      (sampleRemote.run sampleGit samplePlan)
      ((sampleRemote.crashed sampleGit samplePlan 23 []).run sampleGit samplePlan) := by
  apply resumed_run sampleGit_lawful
  · intro branch sha h
    have href : (if branch = "epic-P" ∨ branch = "epic-C" then some "base" else none) =
        some sha := h
    by_cases hbranch : branch = "epic-P" ∨ branch = "epic-C"
    · rw [if_pos hbranch] at href
      cases href
      decide +kernel
    · rw [if_neg hbranch] at href
      cases href
  · intro parentBranch _ write hwrite
    cases hwrite
  · intro parentBranch _ write hwrite
    cases hwrite
  · intro parentBranch _ sha current hprior
    cases hprior
  · intro parentBranch hparent sha current hprior href
    rw [samplePlan_parentBranch] at hparent
    cases hparent
    have hrecorded : (sampleRemote.crashed sampleGit samplePlan 23 []).journal.parentSha =
        some "third" := by decide +kernel
    have hstands : (sampleRemote.crashed sampleGit samplePlan 23 []).refs "epic-P" =
        some "third" := by decide +kernel
    rw [hrecorded] at hprior
    rw [hstands] at href
    cases hprior
    cases href
    exact Or.inl rfl

/-- The resumed run reports the pushed branch as already reachable. -/
theorem resumed_run_reportsReachable : (sampleRemote.run sampleGit samplePlan).1 ≠
        ((sampleRemote.crashed sampleGit samplePlan 23 []).run sampleGit samplePlan).1 ∧
      (sampleRemote.run sampleGit samplePlan).1.toOption.map
          (fun result => result.children.map (·.action)) = some [.fastForward] ∧
      ((sampleRemote.crashed sampleGit samplePlan 23 []).run sampleGit samplePlan).1.toOption.map
          (fun result => result.children.map (·.action)) = some [.alreadyReachable] := by
  decide +kernel

-- A stop between the second push and its evidence is not resumable.
example : blockedBy ((sampleRemote.crashed sampleGit samplePlan 11 []).run sampleGit samplePlan).1 =
      some (.refRace
        "authoritative branch epic-P changed from first to second before repair resumed") := by
  decide +kernel

end ContainerRepair
end Oompah
