import Oompah.ContainerRepair.Remote

/-!
# Landing the selected commits

What the advance of the parent branch does to its ref, and that an advance which
stopped part of the way is finished by another one.
-/

namespace Oompah
namespace ContainerRepair

open Foundation
open Foundation.Program (Yields yields_done yields_raise)

namespace Git

variable (G : Git)

/-- The check that a push of a selected commit must pass. -/
def prerequisiteError (old selected : String) (closure : List String) :
    Option RepairError :=
  if selected = "" || selected ∉ closure then
    some (.unsafePrerequisite
      "selected prerequisite must be a non-empty member of its declared closure")
  else if G.isAncestor old selected then
    match G.revList old selected with
    | .error message =>
      some (.unsafePrerequisite ("cannot inspect prerequisite " ++ selected ++ ": " ++ message))
    | .ok commits =>
      if Repair.unrelated commits closure = [] then none
      else
        some (.unsafePrerequisite ("selected prerequisite " ++ selected ++
            " contains commits outside its declared closure: " ++
            String.intercalate ", " ((Repair.unrelated commits closure).take 8)))
  else
    some (.unsafePrerequisite
      ("selected prerequisite " ++ selected ++ " is not a descendant of " ++ old))

/-- The ref an advance leaves and the error that ends it early. -/
def landing (closure : List String) : List String -> String -> String × Option RepairError
  | [], current => (current, none)
  | selected :: rest, current =>
    if G.isAncestor selected current then landing closure rest current
    else
      match G.prerequisiteError current selected closure with
      | some error => (current, some error)
      | none => landing closure rest selected

/-- What an advance returns, from the ref it leaves. -/
def landingResult : String × Option RepairError -> Except RepairError String
  | (sha, none) => .ok sha
  | (_, some error) => .error error

/-- The ref that an advance from a parent ref leaves, and the commit it returns. -/
def landed (plan : ContainerCycleRepairPlan) (parentBranch : String) :
    Option String -> Option String × Except RepairError String
  | none =>
    (none, .error (.repair ("authoritative branch " ++ parentBranch ++ " is missing")))
  | some current =>
    let reached := G.landing plan.closure plan.selectedShas current
    (some reached.1, landingResult reached)

/-- A resumed run finds the ref it recorded, or every selected commit landed. -/
def Resumable (plan : ContainerCycleRepairPlan) (prior ref : Option String) : Prop :=
  forall sha current, prior = some sha -> ref = some current -> current = sha ∨
      forall selected, selected ∈ plan.selectedShas -> G.isAncestor selected current = true

variable {G}

theorem ancestor_of_no_error {old selected : String} {closure : List String}
    (h : G.prerequisiteError old selected closure = none) :
    G.isAncestor old selected = true := by
  unfold prerequisiteError at h
  by_cases hmember : (selected = "" || selected ∉ closure) = true
  · rw [if_pos hmember] at h
    cases h
  · rw [if_neg hmember] at h
    by_cases hancestor : G.isAncestor old selected = true
    · exact hancestor
    · rw [if_neg hancestor] at h
      cases h

theorem landing_skip {closure processed : List String} {current : String}
    (h : forall sha, sha ∈ processed -> G.isAncestor sha current = true)
    (rest : List String) :
    G.landing closure (processed ++ rest) current = G.landing closure rest current := by
  induction processed with
  | nil => rfl
  | cons sha others ih =>
    rw [List.cons_append, landing, if_pos (h sha List.mem_cons_self)]
    exact ih (fun other hother => h other (List.mem_cons_of_mem sha hother))

theorem landing_all {closure selected : List String} {current : String}
    (h : forall sha, sha ∈ selected -> G.isAncestor sha current = true) :
    G.landing closure selected current = (current, none) := by
  have hskip : G.landing closure (selected ++ []) current = _ := landing_skip h []
  rw [List.append_nil] at hskip
  exact hskip

theorem prerequisiteError_kind {old selected : String} {closure : List String}
    {error : RepairError} (h : G.prerequisiteError old selected closure = some error) :
    exists message, error = .unsafePrerequisite message := by
  unfold prerequisiteError at h
  by_cases hmember : (selected = "" || selected ∉ closure) = true
  · rw [if_pos hmember] at h
    cases h
    exact ⟨_, rfl⟩
  · rw [if_neg hmember] at h
    by_cases hancestor : G.isAncestor old selected = true
    · rw [if_pos hancestor] at h
      cases hlist : G.revList old selected with
      | error message =>
        rw [hlist] at h
        cases h
        exact ⟨_, rfl⟩
      | ok commits =>
        rw [hlist] at h
        dsimp only at h
        by_cases hunrelated : Repair.unrelated commits closure = []
        · rw [if_pos hunrelated] at h
          cases h
        · rw [if_neg hunrelated] at h
          cases h
          exact ⟨_, rfl⟩
    · rw [if_neg hancestor] at h
      cases h
      exact ⟨_, rfl⟩

theorem landing_error {closure selected : List String} {current : String}
    {error : RepairError} (h : (G.landing closure selected current).2 = some error) :
    exists message, error = .unsafePrerequisite message := by
  induction selected generalizing current with
  | nil => cases h
  | cons sha rest ih =>
    rw [landing] at h
    by_cases hancestor : G.isAncestor sha current = true
    · rw [if_pos hancestor] at h
      exact ih h
    · rw [if_neg hancestor] at h
      cases hcheck : G.prerequisiteError current sha closure with
      | none =>
        rw [hcheck] at h
        exact ih h
      | some found =>
        rw [hcheck] at h
        cases h
        exact prerequisiteError_kind hcheck

end Git

/-!
# The advance of the parent branch

The parent ref stands at a commit and no other writer moves it.  When there are
no other writers at all, the other refs stay as they were.
-/

structure Standing (parentBranch : String) (quiet : Prop) (others : Refs)
    (ref : Option String) (w : Remote) : Prop where
  refs : w.refs parentBranch = ref
  fetched : w.fetched parentBranch = ref
  spared : w.Spares parentBranch
  calm : quiet -> w.foreign = [] ∧ forall branch, branch ≠ parentBranch ->
    w.refs branch = others branch ∧ w.fetched branch = others branch

namespace Standing

variable {parentBranch : String} {quiet : Prop} {others : Refs} {ref : Option String}
  {w : Remote}

theorem undisturbed : Undisturbed (Standing parentBranch quiet others ref) := by
  intro w h
  constructor
  · rw [h.spared.ref]
    exact h.refs
  · rw [Remote.disturbed_fetched]
    exact h.fetched
  · exact h.spared.disturbed
  · intro hquiet
    rw [Remote.disturbed_of_quiet (h.calm hquiet).left]
    exact h.calm hquiet

theorem recorded (h : Standing parentBranch quiet others ref w) (evidence : Evidence) :
    Standing parentBranch quiet others ref { w with journal := w.journal.record evidence } :=
  ⟨h.refs, h.fetched, h.spared, h.calm⟩

theorem pushed (h : Standing parentBranch quiet others ref w) (sha : String) :
    Standing parentBranch quiet others (some sha)
      { w with
        refs := setRef w.refs parentBranch sha
        fetched := setRef w.fetched parentBranch sha } := by
  constructor
  · exact setRef_same w.refs parentBranch sha
  · exact setRef_same w.fetched parentBranch sha
  · exact h.spared
  · intro hquiet
    constructor
    · exact (h.calm hquiet).left
    · intro branch hbranch
      rcases (h.calm hquiet).right branch hbranch with ⟨hrefs, hfetched⟩
      exact ⟨(setRef_other w.refs sha hbranch).trans hrefs,
        (setRef_other w.fetched sha hbranch).trans hfetched⟩

end Standing

namespace Repair

variable {G : Git} {I P : Remote -> Prop} {w : Remote}

theorem yields_commitsBetween (old selected : String) (hP : Undisturbed P)
    (hI : forall w, P w -> I w) (h : P w) :
    Yields (Remote.handle G) I (commitsBetween old selected) w
      (match G.revList old selected with
        | .error message =>
          .error (.unsafePrerequisite
            ("cannot inspect prerequisite " ++ selected ++ ": " ++ message))
        | .ok commits => .ok commits) P := by
  apply Program.Yields.bind (yields_revList old selected hP hI h)
  intro after hafter
  cases hlist : G.revList old selected with
  | error message => exact yields_raise (hI after hafter) hafter
  | ok commits => exact yields_done (hI after hafter) hafter

theorem yields_validate (old selected : String) (closure : List String)
    (hP : Undisturbed P) (hI : forall w, P w -> I w) (h : P w) :
    Yields (Remote.handle G) I (validatePrerequisiteDescendant old selected closure) w
      (match G.prerequisiteError old selected closure with
        | some error => .error error
        | none => .ok ()) P := by
  unfold validatePrerequisiteDescendant Git.prerequisiteError
  by_cases hmember : (selected = "" || selected ∉ closure) = true
  · rw [if_pos hmember, if_pos hmember]
    exact yields_raise (hI w h) h
  · rw [if_neg hmember, if_neg hmember]
    apply Program.Yields.bind (yields_ancestor old selected hP hI h)
    intro asked hasked
    by_cases hancestor : G.isAncestor old selected = true
    · rw [if_pos hancestor, if_pos hancestor]
      have hcommits := yields_commitsBetween (G := G) old selected hP hI hasked
      cases hlist : G.revList old selected with
      | error message =>
        rw [hlist] at hcommits
        exact hcommits.bind_error
      | ok commits =>
        rw [hlist] at hcommits
        apply hcommits.bind
        intro after hafter
        by_cases hunrelated : unrelated commits closure = []
        · simp only [hunrelated, if_true]
          exact yields_done (hI after hafter) hafter
        · simp only [hunrelated, if_false]
          exact yields_raise (hI after hafter) hafter
    · rw [if_neg hancestor, if_neg hancestor]
      exact yields_raise (hI asked hasked) hasked

theorem yields_allAncestors (shas : List String) (current : String)
    (hP : Undisturbed P) (hI : forall w, P w -> I w) (h : P w) :
    Yields (Remote.handle G) I (allAncestors shas current) w
      (.ok (shas.all (fun sha => G.isAncestor sha current))) P := by
  induction shas generalizing w with
  | nil => exact yields_done (hI w h) h
  | cons sha rest ih =>
    apply Program.Yields.bind (yields_ancestor sha current hP hI h)
    intro asked hasked
    rw [List.all_cons]
    cases G.isAncestor sha current with
    | true => exact ih hasked
    | false => exact yields_done (hI asked hasked) hasked

variable {plan : ContainerCycleRepairPlan} {parentBranch : String}
  {quiet : Prop} {others : Refs} {target : String × Option RepairError}

/-- The commits processed so far are ancestors of the ref, so that an advance from
this ref over the whole selection ends where this one ends. -/
theorem yields_advanceTo (expected : String) (hG : G.Lawful)
    (hvalid : validateBranch parentBranch = .ok parentBranch)
    (hI : forall w current, Standing parentBranch quiet others (some current) w ->
        G.isAncestor current current = true ->
        G.landing plan.closure plan.selectedShas current = target -> I w)
    {processed rest : List String} {current : String}
    (hselected : processed ++ rest = plan.selectedShas)
    (hprocessed : forall sha, sha ∈ processed -> G.isAncestor sha current = true)
    (hknown : G.isAncestor current current = true)
    (htarget : G.landing plan.closure plan.selectedShas current = target)
    (h : Standing parentBranch quiet others (some current) w) :
    Yields (Remote.handle G) I (advanceTo plan.closure parentBranch expected rest current) w
      (Git.landingResult target) (Standing parentBranch quiet others (some target.1)) := by
  induction rest generalizing processed current w with
  | nil =>
    rw [List.append_nil] at hselected
    rw [hselected] at hprocessed
    have hall : G.landing plan.closure plan.selectedShas current = (current, none) :=
      G.landing_all hprocessed
    rw [htarget] at hall
    rw [hall]
    exact yields_done (hI w current h hknown htarget) h
  | cons sha rest ih =>
    have hstands : forall w, Standing parentBranch quiet others (some current) w -> I w :=
      fun w hw => hI w current hw hknown htarget
    have hsplit : (processed ++ [sha]) ++ rest = plan.selectedShas := by
      rw [List.append_assoc]
      exact hselected
    apply Program.Yields.bind (yields_ancestor sha current Standing.undisturbed hstands h)
    intro asked hasked
    by_cases hancestor : G.isAncestor sha current = true
    · rw [if_pos hancestor]
      apply ih hsplit _ hknown htarget hasked
      intro other hother
      rcases List.mem_append.mp hother with hold | hnew
      · exact hprocessed other hold
      · rw [List.mem_singleton.mp hnew]
        exact hancestor
    · rw [if_neg hancestor]
      have hhere : target = G.landing plan.closure (sha :: rest) current := by
        rw [← htarget, ← hselected]
        exact G.landing_skip hprocessed (sha :: rest)
      rw [Git.landing, if_neg hancestor] at hhere
      have hvalidate := yields_validate (G := G) current sha plan.closure
        Standing.undisturbed hstands hasked
      cases hcheck : G.prerequisiteError current sha plan.closure with
      | some error =>
        rw [hcheck] at hvalidate hhere
        rw [hhere]
        exact hvalidate.bind_error
      | none =>
        rw [hcheck] at hvalidate hhere
        have hold : G.isAncestor current sha = true := Git.ancestor_of_no_error hcheck
        have hsha : G.isAncestor sha sha = true := hG.refl current sha hold
        have hreached : forall other, other ∈ processed ++ [sha] ->
            G.isAncestor other sha = true := by
          intro other hother
          rcases List.mem_append.mp hother with hbefore | hnew
          · exact hG.trans other current sha (hprocessed other hbefore) hold
          · rw [List.mem_singleton.mp hnew]
            exact hsha
        have hsame : G.landing plan.closure plan.selectedShas sha = target := by
          rw [hhere, ← hsplit]
          exact G.landing_skip hreached rest
        have hpushed : forall w, Standing parentBranch quiet others (some sha) w -> I w :=
          fun w hw => hI w sha hw hsha hsame
        apply hvalidate.bind
        intro checked hchecked
        apply Program.Yields.bind (yields_casPush hvalid Standing.undisturbed hstands
          (fun w hw => hw.refs) (fun w hw => hw.pushed sha) hpushed hchecked)
        intro landed hlanded
        apply Program.Yields.bind (yields_persist _ Standing.undisturbed hpushed
          (fun w hw => hw.recorded _) hpushed hlanded)
        intro recorded hrecorded
        exact ih hsplit hreached hsha hsame hrecorded

/-- A resumable advance ends at the ref that the parent ref determines. -/
theorem yields_advanceParent (hG : G.Lawful)
    (hvalid : validateBranch parentBranch = .ok parentBranch)
    {target : Option String × Except RepairError String}
    (hI : forall w ref, Standing parentBranch quiet others ref w ->
        (forall sha, ref = some sha -> G.isAncestor sha sha = true) ->
        G.landed plan parentBranch ref = target -> I w)
    {prior ref : Option String} (hresumable : G.Resumable plan prior ref)
    (hknown : forall sha, ref = some sha -> G.isAncestor sha sha = true)
    (htarget : G.landed plan parentBranch ref = target)
    (h : Standing parentBranch quiet others ref w) :
    exists expected, Yields (Remote.handle G) I (advanceParent plan parentBranch prior) w
        (target.2.map (fun sha => (expected, sha)))
        (Standing parentBranch quiet others target.1) := by
  have hstands : forall w, Standing parentBranch quiet others ref w -> I w :=
    fun w hw => hI w ref hw hknown htarget
  have hread := yields_refSha (G := G) hvalid (fun w hw => hw.fetched)
    Standing.undisturbed hstands h
  cases ref with
  | none =>
    refine ⟨"", ?_⟩
    apply hread.bind
    intro after hafter
    rw [← htarget]
    exact yields_raise (hstands after hafter) hafter
  | some current =>
    have hpoints : forall w reached, Standing parentBranch quiet others (some reached) w ->
          G.isAncestor reached reached = true ->
          G.landing plan.closure plan.selectedShas reached =
            G.landing plan.closure plan.selectedShas current -> I w := by
      intro w reached hw hreached hsame
      apply hI w (some reached) hw
      · intro sha hsha
        cases hsha
        exact hreached
      · rw [← htarget]
        show (some (G.landing plan.closure plan.selectedShas reached).1, _) = _
        rw [hsame]
        rfl
    have hadvance : forall expected after,
        Standing parentBranch quiet others (some current) after -> Yields (Remote.handle G) I
            (advanceTo plan.closure parentBranch expected plan.selectedShas current >>=
              fun advanced => pure (expected, advanced)) after
            (target.2.map (fun sha => (expected, sha)))
            (Standing parentBranch quiet others target.1) := by
      intro expected after hafter
      have hto := yields_advanceTo expected hG hvalid hpoints (List.nil_append _)
        (fun sha hsha => absurd hsha List.not_mem_nil) (hknown current rfl) rfl hafter
      rw [← htarget]
      unfold Git.landed
      dsimp only
      rcases hreached : G.landing plan.closure plan.selectedShas current with ⟨sha, error⟩
      rw [hreached] at hto
      cases error with
      | some error => exact hto.bind_error
      | none =>
        apply hto.invariant.bind
        intro last hlast
        exact yields_done hlast.right hlast.left
    cases prior with
    | none =>
      refine ⟨current, ?_⟩
      apply hread.bind
      intro after hafter
      exact hadvance current after hafter
    | some sha =>
      refine ⟨sha, ?_⟩
      apply hread.bind
      intro after hafter
      show Yields (Remote.handle G) I (if current ≠ sha then _ else _) after _ _
      by_cases hsame : current = sha
      · rw [if_neg (not_not_intro hsame)]
        exact hadvance sha after hafter
      · rw [if_pos hsame]
        have hall : forall selected, selected ∈ plan.selectedShas ->
            G.isAncestor selected current = true :=
          (hresumable sha current rfl rfl).resolve_left hsame
        have htrue : (plan.selectedShas.all
            fun selected => G.isAncestor selected current) = true := by
          rw [List.all_eq_true]
          exact hall
        have hasked := yields_allAncestors (G := G) plan.selectedShas current
          Standing.undisturbed hstands hafter
        rw [htrue] at hasked
        apply hasked.bind
        intro last hlast
        have hend : target = (some current, .ok current) := by
          rw [← htarget]
          show (some (G.landing plan.closure plan.selectedShas current).1, _) = _
          rw [G.landing_all hall]
          rfl
        rw [hend]
        exact yields_done (hstands last hlast) hlast

end Repair
end ContainerRepair
end Oompah
