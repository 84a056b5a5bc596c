import Oompah.EpicProposals.FirstApplication

/-!
# Applying a proposal again

An application of a proposal whose record is complete finds all that is recorded, and
leaves it as it is.
-/

namespace Oompah
namespace EpicProposals

open Foundation
open Foundation.Program (Meets meets_bind meets_done)
open Tracker (handle)

variable {n : Naming} {i : Interruption} {source : TrackedIssue} {p : StoredProposal}
  {t : Tracker} {epic : TrackedIssue} {tasks : List TrackedIssue}

/-- A proposal whose record is complete, with an epic that is an issue of its own. -/
structure Recorded (source : TrackedIssue) (p : StoredProposal) (t : Tracker)
    (epic : TrackedIssue) (tasks : List TrackedIssue) : Prop where
  isEpic : IsEpic source p.toEpicProposal epic
  mem_epic : epic ∈ t.issues
  mem_tasks : forall task, task ∈ tasks -> task ∈ t.issues
  distinct : t.identifiers.Nodup
  matched : List.Forall₂ (IsTask p.toEpicProposal epic.identifier) p.children tasks
  epicIdentifier : p.epicIdentifier = some epic.identifier
  childIdentifiers : p.childIdentifiers = tasks.map TrackedIssue.identifier
  status : p.status = .accepted
  appliedFingerprint : p.appliedFingerprint = some p.fingerprint

variable {task : TrackedIssue} {child : EpicProposalChild}

namespace Recorded

theorem find_epic (h : Recorded source p t epic tasks) :
    (t.find epic.identifier).isSome = true := by
  rw [find_eq_some h.distinct h.mem_epic]
  rfl

theorem find_task (h : Recorded source p t epic tasks)
    (htask : task ∈ tasks) : (t.find task.identifier).isSome = true := by
  rw [find_eq_some h.distinct (h.mem_tasks task htask)]
  rfl

theorem update_epic (h : Recorded source p t epic tasks) : t.change epic.identifier
      (updated p.epicTitle (epicDescription p.toEpicProposal) none) = t := by
  apply change_eq_self
  intro issue hissue hid
  rw [eq_of_identifier h.distinct hissue h.mem_epic hid]
  rw [← h.isEpic.title, ← h.isEpic.description]
  rfl

theorem update_task (h : Recorded source p t epic tasks) (htask : task ∈ tasks)
    (hchild : IsTask p.toEpicProposal epic.identifier child task) :
    t.change task.identifier
      (updated child.title (childDescriptionWithFingerprint p.toEpicProposal child) none) =
      t := by
  apply change_eq_self
  intro issue hissue hid
  rw [eq_of_identifier h.distinct hissue (h.mem_tasks task htask) hid]
  rw [← hchild.title, ← hchild.description]
  rfl

theorem link_task (h : Recorded source p t epic tasks) (htask : task ∈ tasks)
    (hchild : IsTask p.toEpicProposal epic.identifier child task) :
    t.change task.identifier (linked epic.identifier) = t := by
  apply change_eq_self
  intro issue hissue hid
  rw [eq_of_identifier h.distinct hissue (h.mem_tasks task htask) hid]
  unfold linked
  rw [← hchild.parentId]

theorem named_task (h : Recorded source p t epic tasks) (task : TrackedIssue)
    (htask : task ∈ tasks) : task.identifier ≠ [] := by
  rcases isTask_of_mem h.matched htask with ⟨child, hchild⟩
  exact hchild.named

end Recorded

/-!
# Finding what is recorded
-/

/-- A check that finds nothing was answered with an error. -/
def Mistaken (i : Interruption) : Prop :=
  i.failure? .appliedEpic = some .raises ∨
    exists index, i.failure? (.appliedChild index) = some .raises

theorem Mistaken.other (h : Mistaken i) {point : Point} (hepic : point ≠ .appliedEpic)
    (hchild : forall index, point ≠ .appliedChild index) (failure : Failure) :
    i.failure? point ≠ some failure := by
  rcases h with hat | ⟨index, hat⟩
  · rw [failure?_other hat hepic]
    rintro ⟨⟩
  · rw [failure?_other hat (hchild index)]
    rintro ⟨⟩

theorem childrenExist_recorded (found : List TrackedIssue) (index : Nat)
    (hnamed : forall task, task ∈ found -> task.identifier ≠ [])
    (hfound : forall task, task ∈ found -> (t.find task.identifier).isSome = true) :
    (childrenExist index (found.map TrackedIssue.identifier)).Meets (handle n i) t
      (fun result after => after = t ∧ (result = .ok false -> Mistaken i)) := by
  induction found generalizing index with
  | nil => exact meets_done ⟨rfl, by rintro ⟨⟩⟩
  | cons task rest ih =>
    have hrest := ih (index + 1)
      (fun other hother => hnamed other (List.mem_cons_of_mem task hother))
      (fun other hother => hfound other (List.mem_cons_of_mem task hother))
    apply meets_bind
    apply meets_issueExists
    · intro hempty
      exact absurd hempty (hnamed task List.mem_cons_self)
    · intro _ _
      rw [hfound task List.mem_cons_self]
      exact hrest
    · intro _ hraises
      exact meets_done ⟨rfl, fun _ => .inr ⟨index, hraises⟩⟩
    · intro _ _
      exact ⟨rfl, by rintro ⟨⟩⟩

/-- A complete record is found, unless a call raises or the proposal has no children. -/
theorem allAppliedIssueIdsExist_recorded (h : Recorded source p t epic tasks) :
    (allAppliedIssueIdsExist p).Meets (handle n i) t (fun result after => after = t ∧
        (result = .ok false -> p.children = [] ∨ Mistaken i)) := by
  have hlength := h.matched.length_eq
  unfold allAppliedIssueIdsExist
  rw [if_neg (fun hne => hne h.appliedFingerprint), h.epicIdentifier,
    present_eq_self h.isEpic.named, h.childIdentifiers]
  dsimp only
  split
  · rename_i hempty
    refine meets_done ⟨rfl, fun _ => .inl ?_⟩
    rcases hempty with hnil | hne
    · have hnone : tasks = [] := List.map_eq_nil_iff.mp hnil
      rw [hnone, List.length_nil] at hlength
      exact List.eq_nil_of_length_eq_zero hlength
    · exact absurd ((List.length_map _).trans hlength.symm) hne
  · apply meets_bind
    apply meets_issueExists
    · intro hempty
      exact absurd hempty h.isEpic.named
    · intro _ _
      rw [h.find_epic]
      have hchildren := childrenExist_recorded (n := n) (i := i) tasks 0 h.named_task
        (fun task htask => h.find_task htask)
      apply hchildren.mono
      rintro result after ⟨hafter, hmistaken⟩
      exact ⟨hafter, fun hfalse => .inr (hmistaken hfalse)⟩
    · intro _ hraises
      exact meets_done ⟨rfl, fun _ => .inr (.inl hraises)⟩
    · intro _ _
      exact ⟨rfl, by rintro ⟨⟩⟩

/-!
# Placing what is recorded
-/

theorem placeEpic_recorded (h : Recorded source p t epic tasks)
    (hfind : i.failure? .findEpic ≠ some .raises) :
    (placeEpic source p false).Meets (handle n i) t (fun result after => after = t ∧
        forall placed, result = .ok placed -> placed.1 = epic.identifier) := by
  unfold placeEpic
  rw [h.epicIdentifier]
  apply meets_bind
  apply meets_issueExists
  · intro hempty
    exact absurd hempty h.isEpic.named
  · intro _ _
    show Meets _ (if (t.find epic.identifier).isSome = true then _ else _) _ _
    rw [if_pos h.find_epic]
    apply meets_bind
    apply meets_call
    · intro _
      refine meets_done ⟨h.update_epic, ?_⟩
      rintro _ ⟨⟩
      rfl
    · intro failure _
      exact ⟨rfl, by rintro _ ⟨⟩⟩
  · intro _ hraises
    exact absurd hraises hfind
  · intro _ _
    exact ⟨rfl, by rintro _ ⟨⟩⟩

theorem placeChild_recorded (h : Recorded source p t epic tasks) {index : Nat}
    (htask : tasks[index]? = some task)
    (hchild : IsTask p.toEpicProposal epic.identifier child task)
    (hfind : i.failure? (.findChild index) ≠ some .raises) :
    (placeChild source p epic.identifier index child).Meets (handle n i) t
      (fun result after => after = t ∧
        forall placed, result = .ok placed -> placed.1 = task.identifier) := by
  have hmem : task ∈ tasks := List.mem_of_getElem? htask
  have hrecorded : p.childIdentifiers.getD index [] = task.identifier := by
    rw [h.childIdentifiers, List.getD_eq_getElem?_getD, List.getElem?_map, htask]
    rfl
  have hlink : Program.Meets (handle n i) (do
        swallowing (call (.linkChild index) (.addParentChild task.identifier epic.identifier)) ()
        pure (task.identifier, false)) t
      (fun result after => after = t ∧
        forall placed, result = .ok placed -> placed.1 = task.identifier) := by
    apply meets_bind
    apply meets_swallowed_call
    · intro _
      refine meets_done ⟨h.link_task hmem hchild, ?_⟩
      rintro _ ⟨⟩
      rfl
    · intro _
      refine meets_done ⟨rfl, ?_⟩
      rintro _ ⟨⟩
      rfl
    · intro _
      exact ⟨rfl, by rintro _ ⟨⟩⟩
  unfold placeChild
  rw [hrecorded]
  apply meets_bind
  apply meets_issueExists
  · intro hempty
    exact absurd hempty hchild.named
  · intro _ _
    rw [h.find_task hmem]
    apply meets_bind
    apply meets_call
    · intro _
      exact (h.update_task hmem hchild).symm.subst
        (motive := fun after => Meets (handle n i) _ after _) hlink
    · intro failure _
      exact ⟨rfl, by rintro _ ⟨⟩⟩
  · intro _ hraises
    exact absurd hraises hfind
  · intro _ _
    exact ⟨rfl, by rintro _ ⟨⟩⟩

theorem placeChildren_recorded (placedTasks : List TrackedIssue) {rest : List TrackedIssue}
    (h : Recorded source p t epic (placedTasks ++ rest)) (children : List EpicProposalChild)
    (hmatched : List.Forall₂ (IsTask p.toEpicProposal epic.identifier) children rest)
    (hfind : forall index, index < (placedTasks ++ rest).length ->
      i.failure? (.findChild index) ≠ some .raises) :
    (placeChildren source p epic.identifier placedTasks.length children).Meets (handle n i) t
      (fun result after => after = t ∧ forall placed, result = .ok placed ->
          placed.map Prod.fst = rest.map TrackedIssue.identifier) := by
  induction hmatched generalizing placedTasks with
  | nil =>
    refine meets_done ⟨rfl, ?_⟩
    rintro _ ⟨⟩
    rfl
  | @cons child task children rest hchild _ ih =>
    have hassoc : placedTasks ++ task :: rest = (placedTasks ++ [task]) ++ rest := by
      rw [List.append_assoc, List.singleton_append]
    have htask : (placedTasks ++ task :: rest)[placedTasks.length]? = some task := by
      rw [List.getElem?_append_right (Nat.le_refl _), Nat.sub_self]
      rfl
    have hlt : placedTasks.length < (placedTasks ++ task :: rest).length := by
      rw [List.length_append, List.length_cons]
      omega
    apply meets_bind
    apply (placeChild_recorded h htask hchild (hfind _ hlt)).mono
    rintro result after ⟨hafter, hplaced⟩
    rw [hafter]
    cases result with
    | error failure => exact ⟨rfl, by rintro _ ⟨⟩⟩
    | ok placed =>
      rw [hassoc] at h hfind
      have hrest := ih (placedTasks ++ [task]) h hfind
      rw [List.length_append, List.length_singleton] at hrest
      apply meets_bind
      apply hrest.mono
      rintro result last ⟨hlast, hothers⟩
      rw [hlast]
      cases result with
      | error failure => exact ⟨rfl, by rintro _ ⟨⟩⟩
      | ok others =>
        refine meets_done ⟨rfl, ?_⟩
        rintro _ ⟨⟩
        rw [List.map_cons, List.map_cons, hplaced placed rfl, hothers others rfl]

/-!
# The whole application
-/

theorem record_recorded (h : Recorded source p t epic tasks) :
    p.record epic.identifier (tasks.map TrackedIssue.identifier) = p := by
  unfold StoredProposal.record
  rw [← h.epicIdentifier, ← h.childIdentifiers, ← h.status, ← h.appliedFingerprint]

theorem placeAndRecord_recorded (h : Recorded source p t epic tasks)
    (hstored : t.metadata.proposal = some p) (hepic : i.failure? .findEpic ≠ some .raises)
    (hchild : forall index, index < tasks.length -> i.failure? (.findChild index) ≠ some .raises)
    (readiness : IntakeReadiness) (promote : Bool) :
    (placeAndRecord source p readiness promote false).Meets (handle n i) t
      (fun _ after => Alike t after) := by
  apply meets_bind
  apply (placeEpic_recorded h hepic).mono
  rintro result after ⟨hafter, hplaced⟩
  rw [hafter]
  rcases result with failure | ⟨identifier, created⟩
  · exact Alike.refl t
  · have hidentifier : identifier = epic.identifier := hplaced _ rfl
    rw [hidentifier]
    apply meets_bind
    have hchildren := placeChildren_recorded (n := n) (i := i) [] h p.children h.matched hchild
    apply hchildren.mono
    rintro result after ⟨hafter, hothers⟩
    rw [hafter]
    cases result with
    | error failure => exact Alike.refl t
    | ok placed =>
      have hrecord : p.record epic.identifier (placed.map Prod.fst) = p := by
        rw [hothers placed rfl]
        exact record_recorded h
      have hsaved : Alike t (t.respond n
          (.saveProposal (p.record epic.identifier (placed.map Prod.fst)))).2 := by
        refine ⟨rfl, ?_, rfl⟩
        rw [hrecord, hstored]
        rfl
      apply meets_bind
      apply meets_call
      · intro _
        have hfinish := (finishApplication_alone (n := n) (i := i) source
          (p.record epic.identifier (placed.map Prod.fst)) readiness false promote).bind
            fun _ => leavesAlone_pure
              (ApplyResult.applied (p.record epic.identifier (placed.map Prod.fst)) created
                (placed.countP fun child => child.2)
                (placed.countP fun child => !child.2))
        apply (hfinish _).mono
        intro result last hlast
        exact hsaved.trans hlast
      · intro failure _
        exact Alike.refl t

/-- An application of a complete record leaves it alone, unless a proposal without
children cannot find its epic. -/
theorem applyEpicProposal_recorded (h : Recorded source p t epic tasks)
    (hstored : t.metadata.proposal = some p) (hexternal : t.metadata.isExternal = false)
    (hspared : p.children = [] -> i.failure? .findEpic ≠ some .raises)
    (requireAccepted promote : Bool) :
    (applyEpicProposal source requireAccepted promote).Meets (handle n i) t
      (fun _ after => Alike t after) := by
  have hplace : forall readiness, (p.children = [] ∨ Mistaken i) ->
      (placeProposal source p readiness promote).Meets (handle n i) t
        (fun _ after => Alike t after) := by
    intro readiness hmistaken
    have hepic : i.failure? .findEpic ≠ some .raises := by
      rcases hmistaken with hnone | hmistaken
      · exact hspared hnone
      · exact hmistaken.other (by rintro ⟨⟩) (by rintro _ ⟨⟩) .raises
    have hchild : forall index, index < tasks.length ->
        i.failure? (.findChild index) ≠ some .raises := by
      intro index hindex
      rcases hmistaken with hnone | hmistaken
      · have hlength := h.matched.length_eq
        rw [hnone, List.length_nil] at hlength
        omega
      · exact hmistaken.other (by rintro ⟨⟩) (by rintro _ ⟨⟩) .raises
    have hrecorded := placeAndRecord_recorded (n := n) h hstored hepic hchild readiness promote
    apply meets_bind
    apply meets_shouldReuseSourceAsEpic
    · intro _
      rw [hexternal]
      exact hrecorded
    · exact fun _ => hrecorded
    · exact fun _ => Alike.refl t
  have hafter : forall readiness, Program.Meets (handle n i)
        (if requireAccepted = true ∧ readiness.decompositionStatus ≠ .accepted then
          pure (ApplyResult.notAccepted p)
        else do
          if <- allAppliedIssueIdsExist p then do
            promoteWhen promote p
            pure (.suppressed p)
          else placeProposal source p readiness promote) t
        (fun _ after => Alike t after) := by
    intro readiness
    split
    · exact meets_done (Alike.refl t)
    · apply meets_bind
      apply (allAppliedIssueIdsExist_recorded h).mono
      rintro result after ⟨hafter, hmistaken⟩
      rw [hafter]
      rcases result with failure | _ | _
      · exact Alike.refl t
      · exact hplace readiness (hmistaken rfl)
      · exact (promoteWhen_alone promote p).bind (fun _ => leavesAlone_pure _) t
  apply meets_bind
  apply meets_loadEpicProposal
  · intro _
    rw [hstored]
    apply meets_bind
    apply meets_loadReadiness
    · exact fun _ => hafter _
    · exact fun _ => hafter _
    · exact fun _ => Alike.refl t
  · exact fun _ => meets_done (Alike.refl t)
  · exact fun _ => Alike.refl t

end EpicProposals
end Oompah
