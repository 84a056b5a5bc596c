import Oompah.EpicProposals.Interruption

/-!
# The first application of a proposal

An application that is not interrupted between its first write and its record leaves one
epic, one task for every child, and the record of them; or it leaves nothing at all.
-/

namespace Oompah
namespace EpicProposals

open Foundation
open Foundation.Program (Meets meets_bind meets_done)
open Tracker (change handle)

/-!
# What an application leaves
-/

structure IsEpic (source : TrackedIssue) (p : EpicProposal) (issue : TrackedIssue) : Prop where
  title : issue.title = p.epicTitle
  description : issue.description = epicDescription p
  issueType : issue.issueType = epicType
  parentId : issue.parentId = present source.parentId
  named : issue.identifier ≠ []

structure IsTask (p : EpicProposal) (epic : List Char) (child : EpicProposalChild)
    (issue : TrackedIssue) : Prop where
  title : issue.title = child.title
  description : issue.description = childDescriptionWithFingerprint p child
  issueType : issue.issueType = child.issueType
  parentId : issue.parentId = some epic
  named : issue.identifier ≠ []

theorem isTask_of_mem {p : EpicProposal} {epic : List Char}
    {children : List EpicProposalChild} {tasks : List TrackedIssue}
    (h : List.Forall₂ (IsTask p epic) children tasks) {task : TrackedIssue}
    (htask : task ∈ tasks) : exists child, IsTask p epic child task := by
  induction h with
  | nil => cases htask
  | @cons child first _ _ hchild _ ih =>
    rcases List.mem_cons.mp htask with rfl | hrest
    · exact ⟨child, hchild⟩
    · exact ih hrest

/-- The source as the epic of its own proposal. -/
def Tracker.reuse (t : Tracker) (source : TrackedIssue) (p : EpicProposal) : Tracker :=
  t.change source.identifier (updated p.epicTitle (epicDescription p) (some epicType))

/-- The identifier of the epic and the issues without the tasks: an issue of GitHub is its
own epic, any other gets a new one. -/
inductive PlacedEpic (source : TrackedIssue) (p : EpicProposal) (before : Tracker) :
    List Char -> List TrackedIssue -> Prop where
  | reused (h : before.metadata.isExternal = true) :
      PlacedEpic source p before source.identifier (before.reuse source p).issues
  | created (h : before.metadata.isExternal = false) (issue : TrackedIssue)
      (hissue : IsEpic source p issue) :
      PlacedEpic source p before issue.identifier (before.issues ++ [issue])

structure Application (source : TrackedIssue) (p : StoredProposal) (before : Tracker)
    (epic : List Char) (base tasks : List TrackedIssue) (after : Tracker) : Prop where
  placed : PlacedEpic source p.toEpicProposal before epic base
  issues : after.issues = base ++ tasks
  distinct : after.identifiers.Nodup
  matched : List.Forall₂ (IsTask p.toEpicProposal epic) p.children tasks
  recorded : after.metadata.proposal = some (p.record epic (tasks.map TrackedIssue.identifier))
  externalId : after.metadata.externalId = before.metadata.externalId

/-- One epic and exactly one task for every child, linked to the epic and recorded in the
order of the children. -/
def AppliedOnce (source : TrackedIssue) (p : StoredProposal) (before after : Tracker) : Prop :=
  exists epic base tasks, Application source p before epic base tasks after

/-- A proposal as it is stored at first. -/
structure StoredProposal.Unapplied (p : StoredProposal) : Prop where
  epicIdentifier : p.epicIdentifier = none
  childIdentifiers : p.childIdentifiers = []
  appliedFingerprint : p.appliedFingerprint = none

/-- The interruptions that do not fall between the first write of an application and its
record.  An error of a link is swallowed, an issue is created with its parent. -/
def StoredProposal.SparesFirst (p : StoredProposal) (source : TrackedIssue)
    (external : Bool) : Interruption -> Prop
  | none => True
  | some (.reuseCheck, .raises) => external = false
  | some (.linkEpic, .dies) => external = true ∨ present source.parentId = none
  | some (.createChild index, _) => p.children.length ≤ index
  | some (.linkChild index, .dies) => p.children.length ≤ index
  | some (.saveProposal, _) => False
  | some _ => True

/-!
# Changes of one issue
-/

section Changes

variable {t : Tracker} {n : Naming}

variable {f : TrackedIssue -> TrackedIssue}

theorem change_identifiers (identifier : List Char)
    (hf : forall issue, (f issue).identifier = issue.identifier) :
    (t.change identifier f).identifiers = t.identifiers := by
  unfold Tracker.identifiers change
  rw [List.map_map]
  apply List.map_congr_left
  intro issue _
  rw [Function.comp_apply]
  split
  · exact hf issue
  · rfl

theorem updated_identifier (title description : List Char)
    (issueType : Option (List Char)) (issue : TrackedIssue) :
    (updated title description issueType issue).identifier = issue.identifier := rfl

theorem change_eq_self {identifier : List Char}
    (h : forall issue, issue ∈ t.issues -> issue.identifier = identifier -> f issue = issue) :
    t.change identifier f = t := by
  have hissues : (t.issues.map fun issue =>
      if issue.identifier = identifier then f issue else issue) = t.issues := by
    apply (List.map_congr_left fun issue hmem => ?_).trans (List.map_id t.issues)
    split
    · rename_i hid
      exact h issue hmem hid
    · rfl
  unfold change
  rw [hissues]

theorem mem_identifiers {issue : TrackedIssue} (h : issue ∈ t.issues) :
    issue.identifier ∈ t.identifiers :=
  List.mem_map_of_mem h

theorem eq_of_identifier (h : t.identifiers.Nodup) {issue other : TrackedIssue}
    (hissue : issue ∈ t.issues) (hother : other ∈ t.issues)
    (hid : issue.identifier = other.identifier) : issue = other :=
  List.inj_on_of_nodup_map h hissue hother hid

theorem find_eq_some (h : t.identifiers.Nodup) {issue : TrackedIssue}
    (hissue : issue ∈ t.issues) : t.find issue.identifier = some issue := by
  rcases hfind : t.issues.find? (fun other => other.identifier = issue.identifier) with
    _ | other
  · rw [List.find?_eq_none] at hfind
    exact absurd (decide_eq_true rfl) (hfind issue hissue)
  · have hid : other.identifier = issue.identifier := by
      simpa using List.find?_some hfind
    exact hfind.trans
      (congrArg some (eq_of_identifier h (List.mem_of_find?_eq_some hfind) hissue hid))

theorem create_issues (title issueType description : List Char) (priority : Option Int)
    (parent : Option (List Char)) :
    (t.create n title issueType description priority parent).issues = t.issues ++
      [t.newIssue n title issueType description priority parent] := rfl

theorem create_distinct (h : t.identifiers.Nodup) (title issueType description : List Char)
    (priority : Option Int) (parent : Option (List Char)) :
    (t.create n title issueType description priority parent).identifiers.Nodup := by
  unfold Tracker.identifiers
  rw [create_issues, List.map_append]
  apply List.Nodup.append h (List.nodup_singleton _)
  intro identifier hold hnew
  rw [List.mem_singleton] at hnew
  rw [hnew] at hold
  exact n.fresh t.identifiers hold

theorem link_created (title issueType description : List Char) (priority : Option Int)
    {parentId : Option (List Char)} {parent : List Char}
    (hparent : present parentId = some parent) :
    (t.create n title issueType description priority parentId).change
        (n.next t.identifiers) (linked parent) =
      t.create n title issueType description priority parentId := by
  apply change_eq_self
  intro issue hissue hid
  rw [create_issues, List.mem_append, List.mem_singleton] at hissue
  rcases hissue with hold | hnew
  · have hmem := mem_identifiers hold
    rw [hid] at hmem
    exact absurd hmem (n.fresh t.identifiers)
  · rw [hnew]
    unfold linked Tracker.newIssue
    rw [hparent]

end Changes

/-!
# Placing the epic
-/

section Placing

variable {n : Naming} {i : Interruption} {source : TrackedIssue} {p : StoredProposal}

theorem present_eq_self {identifier : List Char} (h : identifier ≠ []) :
    present (some identifier) = some identifier := by
  unfold present
  cases identifier with
  | nil => exact absurd rfl h
  | cons c rest => rfl

variable {external : Bool}

/-- What an interruption that spares the application says of a point that it is at. -/
theorem StoredProposal.SparesFirst.at_point {point : Point}
    {failure : Failure} (h : p.SparesFirst source external i)
    (hpoint : i.failure? point = some failure) :
    p.SparesFirst source external (some (point, failure)) := by
  rw [failure?_eq_some] at hpoint
  rw [hpoint] at h
  exact h

variable {index : Nat}

theorem StoredProposal.SparesFirst.createChild
    (h : p.SparesFirst source external i) (hindex : index < p.children.length) :
    i.failure? (.createChild index) = none := by
  rcases hfailure : i.failure? (.createChild index) with _ | failure
  · rfl
  · have hle : p.children.length ≤ index := by
      cases failure with
      | raises => exact h.at_point hfailure
      | dies => exact h.at_point hfailure
    omega

theorem StoredProposal.SparesFirst.linkChild
    (h : p.SparesFirst source external i) (hindex : index < p.children.length) :
    i.failure? (.linkChild index) ≠ some .dies := by
  intro hdies
  have hle : p.children.length ≤ index := h.at_point hdies
  omega

theorem StoredProposal.SparesFirst.saveProposal
    (h : p.SparesFirst source external i) : i.failure? .saveProposal = none := by
  rcases hfailure : i.failure? .saveProposal with _ | failure
  · rfl
  · have hspared := h.at_point hfailure
    cases failure with
    | raises => exact hspared.elim
    | dies => exact hspared.elim

/-- What is there once the epic is. -/
structure EpicReady (source : TrackedIssue) (p : StoredProposal) (t : Tracker)
    (epic : List Char) (after : Tracker) : Prop where
  placed : PlacedEpic source p.toEpicProposal t epic after.issues
  metadata : after.metadata = t.metadata
  distinct : after.identifiers.Nodup
  named : epic ≠ []

/-- An interruption in front of the first write leaves nothing. -/
def EpicOutcome (i : Interruption) (source : TrackedIssue) (p : StoredProposal) (t : Tracker)
    (result : Except Failure (List Char)) (after : Tracker) : Prop :=
  match result with
  | .ok epic => EpicReady source p t epic after
  | .error _ => i ≠ none ∧ after = t

theorem interrupted {point : Point} {failure : Failure} (h : i.failure? point = some failure) :
    i ≠ none := by
  intro hnone
  rw [hnone] at h
  cases h

variable {t : Tracker}

theorem createEpic_first (hexternal : t.metadata.isExternal = false)
    (hdistinct : t.identifiers.Nodup)
    (hlink : i.failure? .linkEpic = some .dies -> present source.parentId = none) :
    (createEpic source p).Meets (handle n i) t (EpicOutcome i source p t) := by
  have hready : EpicReady source p t (n.next t.identifiers)
      (t.create n p.epicTitle epicType (epicDescription p.toEpicProposal) source.priority
        source.parentId) :=
    { placed := .created hexternal
        (t.newIssue n p.epicTitle epicType (epicDescription p.toEpicProposal) source.priority
          source.parentId)
        ⟨rfl, rfl, rfl, rfl, n.nonempty _⟩
      metadata := rfl
      distinct := create_distinct hdistinct _ _ _ _ _
      named := n.nonempty _ }
  apply meets_bind
  apply meets_call
  · intro _
    dsimp only
    split
    · rename_i parent hparent
      apply meets_bind
      apply meets_swallowed_call
      · intro _
        have hlinked := link_created (t := t) (n := n) p.epicTitle epicType
          (epicDescription p.toEpicProposal) source.priority hparent
        exact meets_done (hlinked.symm.subst hready)
      · intro _
        exact meets_done hready
      · intro hdies
        rw [hlink hdies] at hparent
        cases hparent
    · exact meets_done hready
  · intro failure hfailure
    exact ⟨interrupted hfailure, rfl⟩

theorem placeEpic_first (hp : p.Unapplied) (hdistinct : t.identifiers.Nodup)
    (hnamed : source.identifier ≠ []) (hlink : t.metadata.isExternal = false ->
      i.failure? .linkEpic = some .dies -> present source.parentId = none) :
    (placeEpic source p t.metadata.isExternal).Meets (handle n i) t
      (fun result after => EpicOutcome i source p t (result.map Prod.fst) after) := by
  unfold placeEpic
  split
  · rename_i hexternal
    have hready : EpicReady source p t source.identifier (t.reuse source p.toEpicProposal) :=
      { placed := .reused hexternal
        metadata := rfl
        distinct := by
          have hsame := change_identifiers (t := t) source.identifier
            (updated_identifier p.epicTitle (epicDescription p.toEpicProposal) (some epicType))
          exact hsame.symm.subst hdistinct
        named := hnamed }
    apply meets_bind
    apply meets_call
    · intro _
      exact meets_done hready
    · intro failure hfailure
      exact ⟨interrupted hfailure, rfl⟩
  · rename_i hexternal
    rw [Bool.not_eq_true] at hexternal
    rw [hp.epicIdentifier]
    apply meets_bind
    apply meets_issueExists
    · intro _
      apply meets_bind
      apply (createEpic_first hexternal hdistinct (hlink hexternal)).mono
      intro result after hafter
      cases result with
      | error failure => exact hafter
      | ok epic => exact meets_done hafter
    · intro hne
      exact absurd rfl hne
    · intro hne
      exact absurd rfl hne
    · intro hne
      exact absurd rfl hne

/-!
# Placing the children
-/

/-- What is there once the children are. -/
structure ChildrenReady (p : StoredProposal) (epic : List Char)
    (children : List EpicProposalChild) (t : Tracker) (identifiers : List (List Char))
    (tasks : List TrackedIssue) (after : Tracker) : Prop where
  issues : after.issues = t.issues ++ tasks
  metadata : after.metadata = t.metadata
  distinct : after.identifiers.Nodup
  matched : List.Forall₂ (IsTask p.toEpicProposal epic) children tasks
  identifiers : identifiers = tasks.map TrackedIssue.identifier

variable {identifiers : List (List Char)} {tasks : List TrackedIssue}

theorem ChildrenReady.cons {t after last : Tracker} {epic identifier : List Char}
    {child : EpicProposalChild} {rest : List EpicProposalChild} {task : TrackedIssue}
    (h : ChildrenReady p epic [child] t [identifier] [task] after)
    (h' : ChildrenReady p epic rest after identifiers tasks last) :
    ChildrenReady p epic (child :: rest) t (identifier :: identifiers) (task :: tasks) last where
  issues := by rw [h'.issues, h.issues, List.append_assoc, List.singleton_append]
  metadata := h'.metadata.trans h.metadata
  distinct := h'.distinct
  matched := by
    cases h.matched with
    | cons hchild _ => exact .cons hchild h'.matched
  identifiers := by
    have hfirst := List.head_eq_of_cons_eq h.identifiers
    rw [hfirst, h'.identifiers, List.map_cons]

variable {epic : List Char}

theorem placeChild_first (source : TrackedIssue) (child : EpicProposalChild)
    (hp : p.Unapplied) (hdistinct : t.identifiers.Nodup)
    (hepic : epic ≠ []) (hcreate : i.failure? (.createChild index) = none)
    (hlink : i.failure? (.linkChild index) ≠ some .dies) :
    (placeChild source p epic index child).Meets (handle n i) t
      (fun result after => exists placed task, result = .ok placed ∧
        ChildrenReady p epic [child] t [placed.1] [task] after) := by
  have hready : ChildrenReady p epic [child] t [n.next t.identifiers]
      [t.newIssue n child.title child.issueType
        (childDescriptionWithFingerprint p.toEpicProposal child)
        (child.priority <|> source.priority) (some epic)]
      (t.create n child.title child.issueType
        (childDescriptionWithFingerprint p.toEpicProposal child)
        (child.priority <|> source.priority) (some epic)) :=
    { issues := rfl
      metadata := rfl
      distinct := create_distinct hdistinct _ _ _ _ _
      matched := .cons ⟨rfl, rfl, rfl, present_eq_self hepic, n.nonempty _⟩ .nil
      identifiers := rfl }
  unfold placeChild
  rw [hp.childIdentifiers]
  apply meets_bind
  apply meets_issueExists
  · intro _
    apply meets_bind
    apply meets_call
    · intro _
      apply meets_bind
      apply meets_swallowed_call
      · intro _
        have hlinked := link_created (t := t) (n := n) child.title child.issueType
          (childDescriptionWithFingerprint p.toEpicProposal child)
          (child.priority <|> source.priority) (present_eq_self hepic)
        exact meets_done ⟨_, _, rfl, hlinked.symm.subst hready⟩
      · intro _
        exact meets_done ⟨_, _, rfl, hready⟩
      · intro hdies
        exact absurd hdies hlink
    · intro failure hfailure
      rw [hcreate] at hfailure
      cases hfailure
  · intro hne
    exact absurd rfl hne
  · intro hne
    exact absurd rfl hne
  · intro hne
    exact absurd rfl hne

theorem placeChildren_first (source : TrackedIssue) (hp : p.Unapplied)
    (hepic : epic ≠ []) (children : List EpicProposalChild) (index : Nat)
    (hdistinct : t.identifiers.Nodup)
    (hcreate : forall k, index ≤ k -> k < index + children.length ->
      i.failure? (.createChild k) = none)
    (hlink : forall k, index ≤ k -> k < index + children.length ->
      i.failure? (.linkChild k) ≠ some .dies) :
    (placeChildren source p epic index children).Meets (handle n i) t
      (fun result after => exists placed tasks, result = .ok placed ∧
        ChildrenReady p epic children t (placed.map Prod.fst) tasks after) := by
  induction children generalizing index t with
  | nil =>
    exact meets_done ⟨[], [], rfl, (List.append_nil _).symm, rfl, hdistinct, .nil, rfl⟩
  | cons child rest ih =>
    have hlength : index + (child :: rest).length = index + 1 + rest.length := by
      rw [List.length_cons]
      omega
    rw [hlength] at hcreate hlink
    apply meets_bind
    have hfirst := placeChild_first (n := n) source child hp hdistinct hepic
      (hcreate index (Nat.le_refl index) (by omega))
      (hlink index (Nat.le_refl index) (by omega))
    apply hfirst.mono
    rintro result after ⟨placed, task, rfl, hready⟩
    apply meets_bind
    have hrest := ih (index + 1) hready.distinct
      (fun k hk hlt => hcreate k (by omega) hlt) (fun k hk hlt => hlink k (by omega) hlt)
    apply hrest.mono
    rintro result last ⟨others, tasks, rfl, hothers⟩
    exact meets_done ⟨placed :: others, task :: tasks, rfl, hready.cons hothers⟩

/-!
# The whole application
-/

/-- Nothing is left, because of an interruption, or all is. -/
def Outcome (i : Interruption) (source : TrackedIssue) (p : StoredProposal)
    (t after : Tracker) : Prop :=
  i ≠ none ∧ after = t ∨ AppliedOnce source p t after

theorem AppliedOnce.of_ready {t base placed after : Tracker}
    (hepic : EpicReady source p t epic base)
    (htasks : ChildrenReady p epic p.children base identifiers tasks placed)
    (hafter : Alike (placed.respond n (.saveProposal (p.record epic identifiers))).2 after) :
    AppliedOnce source p t after := by
  refine ⟨epic, base.issues, tasks, ?_⟩
  have hissues : after.issues = placed.issues := hafter.issues
  exact
    { placed := hepic.placed
      issues := hissues.trans htasks.issues
      distinct := by
        unfold Tracker.identifiers
        rw [hissues]
        exact htasks.distinct
      matched := htasks.matched
      recorded := by
        rw [hafter.proposal, ← htasks.identifiers]
        rfl
      externalId := by
        have hplaced : after.metadata.externalId = placed.metadata.externalId :=
          hafter.externalId
        rw [hplaced, htasks.metadata, hepic.metadata] }

theorem placeAndRecord_first (hp : p.Unapplied)
    (hdistinct : t.identifiers.Nodup) (hnamed : source.identifier ≠ [])
    (hspared : p.SparesFirst source t.metadata.isExternal i) (readiness : IntakeReadiness)
    (promote : Bool) :
    (placeAndRecord source p readiness promote t.metadata.isExternal).Meets
      (handle n i) t (fun _ after => Outcome i source p t after) := by
  apply meets_bind
  have hepic := placeEpic_first (n := n) (i := i) hp hdistinct hnamed ?_
  · apply hepic.mono
    intro result base hbase
    cases result with
    | error failure => exact .inl hbase
    | ok placedEpic =>
      rcases placedEpic with ⟨epic, createdEpic⟩
      have hready : EpicReady source p t epic base := hbase
      apply meets_bind
      have hchildren := placeChildren_first (n := n) source hp hready.named
        p.children 0 hready.distinct
        (fun k _ hk => hspared.createChild (by omega))
        (fun k _ hk => hspared.linkChild (by omega))
      apply hchildren.mono
      rintro _ placed ⟨identifiers, tasks, rfl, htasks⟩
      apply meets_bind
      apply meets_call
      · intro _
        apply meets_bind
        have hfinish := finishApplication_alone (n := n) (i := i) source
          (p.record epic (identifiers.map Prod.fst)) readiness t.metadata.isExternal promote
        apply (hfinish _).mono
        intro result after hafter
        have happlied := AppliedOnce.of_ready hready htasks hafter
        cases result with
        | error failure => exact .inr happlied
        | ok _ => exact meets_done (.inr happlied)
      · intro failure hfailure
        rw [hspared.saveProposal] at hfailure
        cases hfailure
  · intro hexternal hdies
    rcases hspared.at_point hdies with hother | hparent
    · rw [hexternal] at hother
      cases hother
    · exact hparent

theorem placeProposal_first (hp : p.Unapplied)
    (hdistinct : t.identifiers.Nodup) (hnamed : source.identifier ≠ [])
    (hspared : p.SparesFirst source t.metadata.isExternal i) (readiness : IntakeReadiness)
    (promote : Bool) :
    (placeProposal source p readiness promote).Meets (handle n i) t
      (fun _ after => Outcome i source p t after) := by
  have hafter := placeAndRecord_first (n := n) hp hdistinct hnamed hspared readiness promote
  apply meets_bind
  apply meets_shouldReuseSourceAsEpic
  · intro _
    exact hafter
  · intro hraises
    have hexternal : t.metadata.isExternal = false := hspared.at_point hraises
    rw [hexternal] at hafter
    exact hafter
  · intro hdies
    exact .inl ⟨interrupted hdies, rfl⟩

/-- An application that is not interrupted while it writes leaves nothing or all. -/
theorem applyEpicProposal_first (hstored : t.metadata.proposal = some p)
    (hp : p.Unapplied) (hdistinct : t.identifiers.Nodup) (hnamed : source.identifier ≠ [])
    (hspared : p.SparesFirst source t.metadata.isExternal i) {requireAccepted : Bool}
    (haccepted : requireAccepted = true ->
      t.metadata.readiness.decompositionStatus = .accepted) (promote : Bool) :
    (applyEpicProposal source requireAccepted promote).Meets (handle n i) t
      (fun _ after => Outcome i source p t after) := by
  have hplace : forall readiness,
      (requireAccepted = true -> readiness.decompositionStatus = .accepted ∨ i ≠ none) ->
      Program.Meets (handle n i)
        (if requireAccepted = true ∧ readiness.decompositionStatus ≠ .accepted then
          pure (ApplyResult.notAccepted p)
        else do
          if <- allAppliedIssueIdsExist p then do
            promoteWhen promote p
            pure (.suppressed p)
          else placeProposal source p readiness promote) t
        (fun _ after => Outcome i source p t after) := by
    intro readiness hreadiness
    split
    · rename_i hnot
      rcases hreadiness hnot.left with haccepted | hinterrupted
      · exact absurd haccepted hnot.right
      · exact meets_done (.inl ⟨hinterrupted, rfl⟩)
    · unfold allAppliedIssueIdsExist
      rw [hp.appliedFingerprint, if_pos (by rintro ⟨⟩)]
      exact placeProposal_first hp hdistinct hnamed hspared readiness promote
  apply meets_bind
  apply meets_loadEpicProposal
  · intro _
    rw [hstored]
    apply meets_bind
    apply meets_loadReadiness
    · intro _
      exact hplace _ fun hrequired => .inl (haccepted hrequired)
    · intro hraises
      exact hplace _ fun _ => .inr (interrupted hraises)
    · intro hdies
      exact .inl ⟨interrupted hdies, rfl⟩
  · intro hraises
    exact meets_done (.inl ⟨interrupted hraises, rfl⟩)
  · intro hdies
    exact .inl ⟨interrupted hdies, rfl⟩

end Placing
end EpicProposals
end Oompah
