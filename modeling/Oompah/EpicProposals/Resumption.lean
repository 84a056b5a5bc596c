import Oompah.EpicProposals.Reapplication

/-!
# Repeating passes

A stored proposal stays unapplied until one pass applies it, and stays applied from then
on, as long as no pass is interrupted between its first write and its record.
-/

namespace Oompah
namespace EpicProposals

open Foundation
open Foundation.Program (Meets)

/-- A pass can find that the proposal is accepted. -/
def Intake.Approved (s : Intake) (readiness : IntakeReadiness) : Prop :=
  s.autoDecompose = true ∨ readiness.decompositionStatus = .accepted ∨
    s.approvedBy ≠ none ∧ readiness.decompositionStatus ≠ .rejected

/-- A proposal that a pass would apply: it is stored for the source as it stands, it is
accepted, and nothing of it is applied. -/
structure Awaiting (s : Intake) (source : TrackedIssue) (p : StoredProposal) (t : Tracker) :
    Prop where
  stored : t.metadata.proposal = some p
  unapplied : p.Unapplied
  distinct : t.identifiers.Nodup
  mem_source : source ∈ t.issues
  identifier : source.identifier = s.identifier
  named : source.identifier ≠ []
  childless : t.hasChildren source.identifier = false
  proposes : s.proposes source = true
  current : p.fingerprint = (s.generated source).fingerprint
  approved : s.Approved t.metadata.readiness

/-- The interruptions that leave a complete record alone. -/
def StoredProposal.SparesRecord (p : StoredProposal) (external : Bool) : Interruption -> Prop
  | some (.findEpic, .raises) => external = true ∨ p.children ≠ []
  | _ => True

/-- The interruptions under which a pass loses nothing. -/
def Tracker.Spares (t : Tracker) (source : TrackedIssue) (i : Interruption) : Prop :=
  forall p, t.metadata.proposal = some p ->
    if p.appliedFingerprint = some p.fingerprint then
      p.SparesRecord t.metadata.isExternal i
    else p.SparesFirst source t.metadata.isExternal i

def SparedPasses (n : Naming) (s : Intake) (source : TrackedIssue) :
    Tracker -> List Interruption -> Prop
  | _, [] => True
  | t, i :: rest =>
    t.Spares source i ∧ SparedPasses n s source (s.processEpicProposalIssue n i t).2 rest

variable {n : Naming} {s : Intake} {i : Interruption} {source : TrackedIssue}
  {p : StoredProposal} {before t after : Tracker}

/-!
# What both trackers share
-/

theorem Alike.identifiers (h : Alike t after) : after.identifiers = t.identifiers := by
  unfold Tracker.identifiers
  rw [h.issues]

theorem Alike.hasChildren (h : Alike t after) (identifier : List Char) :
    after.hasChildren identifier = t.hasChildren identifier := by
  unfold Tracker.hasChildren
  rw [h.issues]

theorem Awaiting.alike (h : Awaiting s source p t) (halike : Alike t after)
    (happroved : s.Approved after.metadata.readiness) : Awaiting s source p after :=
  { h with
    stored := halike.proposal.trans h.stored
    distinct := by
      rw [halike.identifiers]
      exact h.distinct
    mem_source := by
      rw [halike.issues]
      exact h.mem_source
    childless := (halike.hasChildren _).trans h.childless
    approved := happroved }

theorem PlacedEpic.alike {p : EpicProposal} {epic : List Char} {base : List TrackedIssue}
    (halike : Alike before t) (h : PlacedEpic source p t epic base) :
    PlacedEpic source p before epic base := by
  cases h with
  | reused hexternal =>
    have hissues : (t.reuse source p).issues = (before.reuse source p).issues := by
      unfold Tracker.reuse Tracker.change
      rw [halike.issues]
    rw [hissues]
    exact .reused (halike.isExternal.symm.trans hexternal)
  | created hexternal issue hissue =>
    rw [halike.issues]
    exact .created (halike.isExternal.symm.trans hexternal) issue hissue

variable {tasks : List TrackedIssue}

theorem Recorded.alike {epic : TrackedIssue}
    (h : Recorded source p t epic tasks) (halike : Alike t after) :
    Recorded source p after epic tasks :=
  { h with
    mem_epic := by
      rw [halike.issues]
      exact h.mem_epic
    mem_tasks := by
      rw [halike.issues]
      exact h.mem_tasks
    distinct := by
      rw [halike.identifiers]
      exact h.distinct }

theorem AppliedOnce.before_alike (halike : Alike before t)
    (h : AppliedOnce source p t after) : AppliedOnce source p before after := by
  rcases h with ⟨epic, base, tasks, happlied⟩
  exact ⟨epic, base, tasks,
    { happlied with
      placed := happlied.placed.alike halike
      externalId := happlied.externalId.trans halike.externalId }⟩

theorem AppliedOnce.after_alike (halike : Alike t after)
    (h : AppliedOnce source p before t) : AppliedOnce source p before after := by
  rcases h with ⟨epic, base, tasks, happlied⟩
  exact ⟨epic, base, tasks,
    { happlied with
      issues := halike.issues.trans happlied.issues
      distinct := by
        rw [halike.identifiers]
        exact happlied.distinct
      recorded := halike.proposal.trans happlied.recorded
      externalId := halike.externalId.trans happlied.externalId }⟩

/-!
# A pass over an unapplied proposal
-/

theorem ensureEpicProposal_existing (hstored : t.metadata.proposal = some p)
    (hcurrent : p.fingerprint = (s.generated source).fingerprint) :
    s.ensureEpicProposal source t = (.existing p, s.confirm source t) := by
  unfold Intake.ensureEpicProposal
  rw [hstored]
  dsimp only
  rw [if_pos hcurrent]

theorem confirm_alike (t : Tracker) : Alike t (s.confirm source t) :=
  Alike.saveReadiness t _

theorem recordApproval_alike (t : Tracker) : Alike t (s.recordApproval t) := by
  unfold Intake.recordApproval
  split
  · exact Alike.refl t
  · split
    · exact Alike.refl t
    · exact Alike.saveReadiness t _

theorem confirm_approved (source : TrackedIssue) (h : s.Approved t.metadata.readiness) :
    s.Approved (s.confirm source t).metadata.readiness := by
  rcases h with hauto | haccepted | ⟨happroved, hrejected⟩
  · exact .inl hauto
  · refine .inr (.inl ?_)
    show t.metadata.readiness.decompositionStatus.propose = .accepted
    rw [haccepted]
    rfl
  · refine .inr (.inr ⟨happroved, ?_⟩)
    show t.metadata.readiness.decompositionStatus.propose ≠ .rejected
    cases hstatus : t.metadata.readiness.decompositionStatus with
    | rejected => exact absurd hstatus hrejected
    | notNeeded | pending | proposed | accepted => rintro ⟨⟩

/-- An approved proposal is accepted once the approval is recorded. -/
theorem recordApproval_accepted (source : TrackedIssue)
    (happroved : s.Approved t.metadata.readiness)
    (hauto : s.autoDecompose ≠ true) :
    (s.recordApproval (s.confirm source t)).metadata.readiness.decompositionStatus = .accepted := by
  unfold Intake.recordApproval
  split
  · rename_i haccepted
    exact haccepted
  · rename_i hnot
    have hstatus : (s.confirm source t).metadata.readiness.decompositionStatus =
        t.metadata.readiness.decompositionStatus.propose := rfl
    rcases happroved with hyes | haccepted | ⟨hsome, hrejected⟩
    · exact absurd hyes hauto
    · rw [hstatus, haccepted] at hnot
      exact absurd rfl hnot
    · split
      · rename_i hnone
        exact absurd hnone hsome
      · have hproposed : (s.confirm source t).metadata.readiness.decompositionStatus =
            .proposed := by
          rw [hstatus] at hnot ⊢
          cases hold : t.metadata.readiness.decompositionStatus with
          | rejected => exact absurd hold hrejected
          | accepted =>
            rw [hold] at hnot
            exact absurd rfl hnot
          | notNeeded | pending | proposed => rfl
        exact if_pos ⟨rfl, hproposed⟩

/-- A pass over a proposal that awaits its application applies it. -/
theorem process_awaiting (h : Awaiting s source p t) : exists ensured requireAccepted promote,
      s.processEpicProposalIssue n i t =
        Intake.runApplication n i source requireAccepted promote ensured ∧
      Alike t ensured ∧ s.Approved ensured.metadata.readiness ∧
      (requireAccepted = true -> ensured.metadata.readiness.decompositionStatus = .accepted) := by
  have hfind : t.find s.identifier = some source := by
    rw [← h.identifier]
    exact find_eq_some h.distinct h.mem_source
  have hchildless : ¬ t.hasChildren s.identifier = true := by
    rw [← h.identifier, h.childless]
    rintro ⟨⟩
  have hproposes : ¬ s.proposes source = false := by
    rw [h.proposes]
    rintro ⟨⟩
  have halike : Alike t (s.confirm source t) := confirm_alike t
  have happroved := confirm_approved source h.approved
  unfold Intake.processEpicProposalIssue
  rw [hfind]
  dsimp only
  rw [if_neg hchildless, if_neg hproposes, ensureEpicProposal_existing h.stored h.current]
  split
  · exact ⟨_, _, _, rfl, halike, happroved, by rintro ⟨⟩⟩
  · rename_i hauto
    have haccepted := recordApproval_accepted source h.approved hauto
    rw [if_pos haccepted]
    exact ⟨_, _, _, rfl, halike.trans (recordApproval_alike _), .inr (.inl haccepted),
      fun _ => haccepted⟩

theorem runApplication_snd (requireAccepted promote : Bool) (t : Tracker) :
    (Intake.runApplication n i source requireAccepted promote t).2 =
      ((applyEpicProposal source requireAccepted promote).execute (Tracker.handle n i) t).2 :=
  rfl

/-- A pass that is not interrupted while it writes applies the proposal, or leaves it to
the next pass because of the interruption. -/
theorem process_unapplied (h : Awaiting s source p t)
    (hspared : p.SparesFirst source t.metadata.isExternal i) :
    i ≠ none ∧ Awaiting s source p (s.processEpicProposalIssue n i t).2 ∧
        Alike t (s.processEpicProposalIssue n i t).2 ∨
      AppliedOnce source p t (s.processEpicProposalIssue n i t).2 := by
  rcases process_awaiting (n := n) (i := i) h with
    ⟨ensured, requireAccepted, promote, hprocess, halike, happroved, haccepted⟩
  have hensured := h.alike halike happroved
  rw [← halike.isExternal] at hspared
  have houtcome := applyEpicProposal_first (n := n) hensured.stored hensured.unapplied
    hensured.distinct hensured.named hspared haccepted promote
  rw [hprocess, runApplication_snd]
  rcases houtcome with ⟨hinterrupted, hsame⟩ | happlied
  · left
    refine ⟨hinterrupted, ?_⟩
    rw [hsame]
    exact ⟨hensured, halike⟩
  · exact .inr (happlied.before_alike halike)

/-!
# A pass over an applied proposal
-/

variable {identifier : List Char}

theorem hasChildren_eq_false : t.hasChildren identifier = false ↔
      forall issue, issue ∈ t.issues -> issue.parentId ≠ some identifier := by
  unfold Tracker.hasChildren
  rw [List.any_eq_false]
  constructor
  · intro h issue hissue hparent
    exact h issue hissue (decide_eq_true hparent)
  · intro h issue hissue hparent
    exact h issue hissue (of_decide_eq_true hparent)

theorem present_eq_some {value : Option (List Char)}
    (h : present value = some identifier) : value = some identifier := by
  exact (Option.filter_eq_some_iff.mp h).left

theorem processLeaf_alike (issue : TrackedIssue) (t : Tracker) :
    Alike t (s.processLeaf issue t).2 := by
  unfold Intake.processLeaf
  dsimp only
  split
  · exact (Alike.saveReadiness t _).trans (Alike.moveTo _ _ .backlog)
  · exact Alike.saveReadiness t _

variable {issue : TrackedIssue}

theorem Application.recorded_created
    (h : Application source p before issue.identifier (before.issues ++ [issue]) tasks t)
    (hissue : IsEpic source p.toEpicProposal issue) :
    Recorded source (p.record issue.identifier (tasks.map TrackedIssue.identifier)) t issue
      tasks where
  isEpic := ⟨hissue.title, hissue.description, hissue.issueType, hissue.parentId, hissue.named⟩
  mem_epic := by
    rw [h.issues]
    exact List.mem_append_left _ (List.mem_append_right _ (List.mem_singleton_self _))
  mem_tasks := by
    intro task htask
    rw [h.issues]
    exact List.mem_append_right _ htask
  distinct := h.distinct
  matched := h.matched
  epicIdentifier := rfl
  childIdentifiers := rfl
  status := rfl
  appliedFingerprint := rfl

/-- The new epic and its tasks are no children of the source. -/
theorem Application.childless
    (h : Application source p before issue.identifier (before.issues ++ [issue]) tasks t)
    (hissue : IsEpic source p.toEpicProposal issue) (hawaiting : Awaiting s source p before) :
    t.hasChildren source.identifier = false := by
  have hold := hasChildren_eq_false.mp hawaiting.childless
  rw [hasChildren_eq_false, h.issues]
  intro other hother hparent
  rcases List.mem_append.mp hother with hbase | htask
  · rcases List.mem_append.mp hbase with hbefore | hnew
    · exact hold other hbefore hparent
    · rw [List.mem_singleton.mp hnew, hissue.parentId] at hparent
      exact hold source hawaiting.mem_source (present_eq_some hparent)
  · rcases isTask_of_mem h.matched htask with ⟨child, hchild⟩
    rw [hchild.parentId] at hparent
    have hsame : issue.identifier = source.identifier := Option.some.inj hparent
    have hdistinct := h.distinct
    unfold Tracker.identifiers at hdistinct
    rw [h.issues, List.map_append, List.map_append] at hdistinct
    have hapart := List.disjoint_of_nodup_append hdistinct.of_append_left
    apply hapart (List.mem_map_of_mem hawaiting.mem_source)
    rw [← hsame]
    exact List.mem_singleton_self _

/-- A pass over an issue that is no epic of its own leaves a complete record alone. -/
theorem process_created (hawaiting : Awaiting s source p before)
    (h : Application source p before issue.identifier (before.issues ++ [issue]) tasks t)
    (hissue : IsEpic source p.toEpicProposal issue) (hexternal : before.metadata.isExternal = false)
    (hspared : p.children = [] -> i.failure? .findEpic ≠ some .raises) :
    Alike t (s.processEpicProposalIssue n i t).2 := by
  have hrecorded := h.recorded_created hissue
  have hfind : t.find s.identifier = some source := by
    rw [← hawaiting.identifier]
    apply find_eq_some h.distinct
    rw [h.issues]
    exact List.mem_append_left _ (List.mem_append_left _ hawaiting.mem_source)
  have hchildless : ¬ t.hasChildren s.identifier = true := by
    rw [← hawaiting.identifier, h.childless hissue hawaiting]
    rintro ⟨⟩
  have hproposes : ¬ s.proposes source = false := by
    rw [hawaiting.proposes]
    rintro ⟨⟩
  have hrun : forall requireAccepted promote after, Alike t after ->
      Alike t (Intake.runApplication n i source requireAccepted promote after).2 := by
    intro requireAccepted promote after hafter
    have hsame : after.metadata.isExternal = false := by
      rw [hafter.isExternal]
      unfold Metadata.isExternal at hexternal ⊢
      rw [h.externalId]
      exact hexternal
    have hagain := applyEpicProposal_recorded (n := n) (i := i) (hrecorded.alike hafter)
      (hafter.proposal.trans h.recorded) hsame hspared requireAccepted promote
    exact hafter.trans hagain
  unfold Intake.processEpicProposalIssue
  rw [hfind]
  dsimp only
  rw [if_neg hchildless, if_neg hproposes, ensureEpicProposal_existing h.recorded hawaiting.current]
  split
  · exact hrun _ _ _ (confirm_alike t)
  · split
    · exact hrun _ _ _ ((confirm_alike t).trans (recordApproval_alike _))
    · exact (confirm_alike t).trans (recordApproval_alike _)

theorem proposes_epic (h : issue.issueType = epicType) : s.proposes issue = false := by
  have hepic : issue.isEpic = true := by
    unfold TrackedIssue.isEpic
    rw [h]
    rfl
  unfold Intake.proposes
  rw [hepic, Bool.not_true, Bool.and_false, Bool.false_and]

theorem reuse_epic {p : EpicProposal} (hmem : issue ∈ (t.reuse source p).issues)
    (hid : issue.identifier = source.identifier) : issue.issueType = epicType := by
  rcases List.mem_map.mp hmem with ⟨old, _, rfl⟩
  split at hid
  · rename_i hold
    rw [if_pos hold]
    rfl
  · rename_i hold
    exact absurd hid hold

/-- A pass over a source that is its own epic stops at its children or at its type. -/
theorem process_reused (hawaiting : Awaiting s source p before)
    (h : Application source p before source.identifier
      (before.reuse source p.toEpicProposal).issues tasks t) :
    Alike t (s.processEpicProposalIssue n i t).2 := by
  unfold Intake.processEpicProposalIssue
  split
  · exact Alike.refl t
  · rename_i issue hfind
    split
    · exact Alike.refl t
    · rename_i hchildless
      have hnone : tasks = [] := by
        rw [Bool.not_eq_true, ← hawaiting.identifier] at hchildless
        apply List.eq_nil_iff_forall_not_mem.mpr
        intro task htask
        rcases isTask_of_mem h.matched htask with ⟨child, hchild⟩
        have hmem : task ∈ t.issues := by
          rw [h.issues]
          exact List.mem_append_right _ htask
        exact hasChildren_eq_false.mp hchildless task hmem hchild.parentId
      have hepic : s.proposes issue = false := by
        apply proposes_epic
        apply reuse_epic (p := p.toEpicProposal) (t := before)
        · have hissues := h.issues
          rw [hnone, List.append_nil] at hissues
          rw [← hissues]
          exact List.mem_of_find?_eq_some hfind
        · rw [hawaiting.identifier]
          simpa using List.find?_some hfind
      rw [if_pos hepic]
      exact processLeaf_alike issue t

theorem process_applied (hawaiting : Awaiting s source p before) (h : AppliedOnce source p before t)
    (hspared : p.SparesRecord before.metadata.isExternal i) :
    AppliedOnce source p before (s.processEpicProposalIssue n i t).2 := by
  have halike : Alike t (s.processEpicProposalIssue n i t).2 := by
    rcases h with ⟨epic, base, tasks, happlied⟩
    cases happlied.placed with
    | reused hexternal => exact process_reused hawaiting happlied
    | created hexternal issue hissue =>
      apply process_created hawaiting happlied hissue hexternal
      intro hnone hraises
      rw [failure?_eq_some] at hraises
      rw [hraises] at hspared
      rcases hspared with hother | hsome
      · rw [hexternal] at hother
        cases hother
      · exact hsome hnone
  exact h.after_alike halike

/-!
# Runs
-/

theorem repeatPasses_append (passes others : List Interruption) :
    s.repeatPasses n t (passes ++ others) =
      s.repeatPasses n (s.repeatPasses n t passes) others := by
  induction passes generalizing t with
  | nil => rfl
  | cons i rest ih => exact ih

/-- A proposal awaits its application as it did before, or is applied. -/
def Progress (s : Intake) (source : TrackedIssue) (p : StoredProposal) (before t : Tracker) :
    Prop :=
  Awaiting s source p t ∧ Alike before t ∨ AppliedOnce source p before t

theorem Application.spares {epic : List Char} {base tasks : List TrackedIssue}
    (h : Application source p before epic base tasks t) (hspared : t.Spares source i) :
    p.SparesRecord before.metadata.isExternal i := by
  have hcomplete : (p.record epic (tasks.map TrackedIssue.identifier)).appliedFingerprint =
      some (p.record epic (tasks.map TrackedIssue.identifier)).fingerprint := rfl
  have hrecord := hspared _ h.recorded
  rw [if_pos hcomplete] at hrecord
  unfold Metadata.isExternal at hrecord ⊢
  rw [h.externalId] at hrecord
  exact hrecord

theorem Awaiting.spares (h : Awaiting s source p t) (hspared : t.Spares source i) :
    p.SparesFirst source t.metadata.isExternal i := by
  have hfirst := hspared p h.stored
  rw [h.unapplied.appliedFingerprint, if_neg (by rintro ⟨⟩)] at hfirst
  exact hfirst

/-- One pass makes progress, and applies the proposal when it is not interrupted. -/
theorem Progress.pass (hawaiting : Awaiting s source p before)
    (hprogress : Progress s source p before t) (hspared : t.Spares source i) :
    Progress s source p before (s.processEpicProposalIssue n i t).2 ∧
      (i = none -> AppliedOnce source p before (s.processEpicProposalIssue n i t).2) := by
  rcases hprogress with ⟨hstill, halike⟩ | happlied
  · rcases process_unapplied (n := n) hstill (hstill.spares hspared) with
      ⟨hinterrupted, hleft, hsame⟩ | happlied
    · exact ⟨.inl ⟨hleft, halike.trans hsame⟩, fun hnone => absurd hnone hinterrupted⟩
    · have hresult := happlied.before_alike halike
      exact ⟨.inr hresult, fun _ => hresult⟩
  · have hresult := happlied
    rcases happlied with ⟨epic, base, tasks, h⟩
    have hagain := process_applied (n := n) hawaiting hresult (h.spares hspared)
    exact ⟨.inr hagain, fun _ => hagain⟩

/-- Along a run the proposal awaits its application or is applied. -/
theorem Progress.passes (hawaiting : Awaiting s source p before) (passes : List Interruption)
    (hprogress : Progress s source p before t) (hspared : SparedPasses n s source t passes) :
    Progress s source p before (s.repeatPasses n t passes) := by
  induction passes generalizing t with
  | nil => exact hprogress
  | cons i rest ih => exact ih (hprogress.pass hawaiting hspared.left).left hspared.right

theorem spares_none (t : Tracker) (source : TrackedIssue) : t.Spares source none := by
  intro p _
  split <;> trivial

/-- After any passes that are interrupted elsewhere only, a pass that is not interrupted
leaves the proposal applied once. -/
theorem passes_apply_once (hawaiting : Awaiting s source p t) (passes : List Interruption)
    (hspared : SparedPasses n s source t passes) :
    AppliedOnce source p t (s.repeatPasses n t (passes ++ [none])) := by
  have hprogress : Progress s source p t t := .inl ⟨hawaiting, Alike.refl t⟩
  rw [repeatPasses_append]
  exact ((hprogress.passes hawaiting passes hspared).pass hawaiting
    (spares_none _ source)).right rfl

/-!
# An application that is interrupted behind its epic
-/

theorem AppliedOnce.length (h : AppliedOnce source p before after)
    (hexternal : before.metadata.isExternal = false) :
    after.issues.length = before.issues.length + 1 + p.children.length := by
  rcases h with ⟨epic, base, tasks, happlied⟩
  rw [happlied.issues, happlied.matched.length_eq]
  cases happlied.placed with
  | reused hother =>
    rw [hexternal] at hother
    cases hother
  | created _ issue hissue =>
    rw [List.length_append, List.length_append, List.length_singleton]

/-- A new name is longer than all that are taken. -/
def sampleNaming : Naming where
  next taken := List.replicate (taken.flatten.length + 1) 'x'
  fresh := by
    intro taken hmem
    have hle := (List.sublist_flatten_of_mem hmem).length_le
    rw [List.length_replicate] at hle
    omega
  nonempty := by
    rintro taken ⟨⟩

def sampleIntake : Intake where
  tables := asciiTables
  identifier := ['s']
  url := none
  requestor := none
  validate _ := { epicNeeded := true, ready := true, missingFields := [], warnings := [] }
  isForcedLeaf _ := false
  leafReadiness _ readiness := readiness
  approvedBy := none
  allowDecomposition := true
  autoPromote := true
  autoDecompose := true

def sampleSource : TrackedIssue :=
  { identifier := ['s'], title := ['t'], description := ['d'], issueType := "task".toList
    priority := none, parentId := none }

def sampleProposal : StoredProposal :=
  { fingerprint := (sampleIntake.generated sampleSource).fingerprint
    sourceIdentifier := ['s'], sourceTitle := ['t'], sourceRequestor := none
    epicTitle := ['e'], epicSummary := ['u']
    children := [{ title := ['c'], description := ['d'], issueType := "task".toList
                   priority := none }]
    status := .proposed, epicIdentifier := none, childIdentifiers := []
    appliedFingerprint := none }

def sampleTracker : Tracker :=
  { issues := [sampleSource]
    state := fun _ => .proposed
    metadata := { proposal := some sampleProposal, readiness := {}, externalId := none }
    comments := [] }

theorem sample_awaiting : Awaiting sampleIntake sampleSource sampleProposal sampleTracker where
  stored := rfl
  unapplied := ⟨rfl, rfl, rfl⟩
  distinct := List.nodup_singleton _
  mem_source := List.mem_singleton_self _
  identifier := rfl
  named := by rintro ⟨⟩
  childless := rfl
  proposes := rfl
  current := rfl
  approved := .inl rfl

theorem samplePasses_apply_once : AppliedOnce sampleSource sampleProposal sampleTracker
      (sampleIntake.repeatPasses sampleNaming sampleTracker
        ([some (.createEpic, .raises), some (.saveReadiness, .dies)] ++ [none])) :=
  passes_apply_once sample_awaiting [some (.createEpic, .raises), some (.saveReadiness, .dies)]
    ⟨fun _ _ => by split <;> trivial, fun _ _ => by split <;> trivial, trivial⟩

/-- A pass over the sample goes straight to the application. -/
theorem sample_pass {t : Tracker} (hstored : t.metadata.proposal = some sampleProposal)
    (hfind : t.find ['s'] = some sampleSource) (hchildless : t.hasChildren ['s'] ≠ true)
    (i : Interruption) : sampleIntake.processEpicProposalIssue sampleNaming i t =
      Intake.runApplication sampleNaming i sampleSource false true
        (sampleIntake.confirm sampleSource t) := by
  have hidentifier : sampleIntake.identifier = ['s'] := rfl
  have hproposes : sampleIntake.proposes sampleSource ≠ false := by decide
  unfold Intake.processEpicProposalIssue
  rw [hidentifier, hfind]
  dsimp only
  rw [if_neg hchildless, if_neg hproposes, ensureEpicProposal_existing hstored rfl]
  exact if_pos rfl

/-- The call that creates the first task raises: the next pass creates a second epic. -/
theorem interruptedChild_not_applied_once :
    Awaiting sampleIntake sampleSource sampleProposal sampleTracker ∧
      ¬ AppliedOnce sampleSource sampleProposal sampleTracker
        (sampleIntake.repeatPasses sampleNaming sampleTracker
          [some (.createChild 0, .raises), none]) := by
  refine ⟨sample_awaiting, ?_⟩
  intro happlied
  have hlength := happlied.length rfl
  have hfirst := sample_pass (t := sampleTracker) rfl rfl (by decide)
    (some (.createChild 0, .raises))
  have hsecond := sample_pass (t := (Intake.runApplication sampleNaming
    (some (.createChild 0, .raises)) sampleSource false true
      (sampleIntake.confirm sampleSource sampleTracker)).2) rfl rfl (by decide) none
  have hfour : (sampleIntake.repeatPasses sampleNaming sampleTracker
      [some (.createChild 0, .raises), none]).issues.length = 4 := by
    rw [Intake.repeatPasses, Intake.repeatPasses, Intake.repeatPasses, hfirst, hsecond]
    rfl
  rw [hfour] at hlength
  cases hlength

end EpicProposals
end Oompah
