import Oompah.EpicProposals.Passes

/-!
# Interrupted calls

Rules for programs whose calls may be interrupted, and the parts of an application that
leave the issues and the stored proposal alone.
-/

namespace Oompah
namespace EpicProposals

open Foundation
open Foundation.Program (Meets)
open Tracker (handle)

variable {n : Naming} {i : Interruption} {t : Tracker}

/-!
# Rules
-/

variable {failure : Failure}

theorem failure?_some {point place : Point} : Interruption.failure? (some (place, failure)) point =
      if place = point then some failure else none := rfl

variable {point : Point}

theorem failure?_eq_some : i.failure? point = some failure ↔ i = some (point, failure) := by
  rcases i with _ | ⟨place, other⟩
  · constructor
    · intro h
      cases h
    · intro h
      cases h
  · rw [failure?_some]
    constructor
    · intro h
      split at h
      · rename_i hplace
        cases h
        rw [hplace]
      · cases h
    · intro h
      cases h
      exact if_pos rfl

/-- A pass is interrupted at one point only. -/
theorem failure?_other {point other : Point}
    (h : i.failure? point = some failure) (hother : other ≠ point) :
    i.failure? other = none := by
  rw [failure?_eq_some] at h
  subst h
  exact if_neg fun heq => hother heq.symm

variable {operation : Operation} {post : Except Failure operation.Answer -> Tracker -> Prop}

theorem meets_call (hok : i.failure? point = none ->
      post (.ok (t.respond n operation).1) (t.respond n operation).2)
    (hfail : forall failure, i.failure? point = some failure -> post (.error failure) t) :
    (call point operation).Meets (handle n i) t post := by
  apply Program.meets_perform
  unfold handle
  split
  · rename_i failure h
    exact hfail failure h
  · rename_i h
    exact hok h

theorem meets_swallowing {α : Type} {program : Attempt α} {fallback : α}
    {post : Except Failure α -> Tracker -> Prop}
    (h : program.Meets (handle n i) t (fun result after =>
      match result with
      | .ok value => post (.ok value) after
      | .error .raises => post (.ok fallback) after
      | .error .dies => post (.error .dies) after)) :
    (swallowing program fallback).Meets (handle n i) t post := by
  apply Program.meets_tryCatch
  apply h.mono
  intro result after hpost
  rcases result with failure | value
  · cases failure with
    | raises => exact Program.meets_done hpost
    | dies => exact Program.meets_raise hpost
  · exact hpost

theorem meets_swallowed_call {fallback : operation.Answer} (hok : i.failure? point = none ->
      post (.ok (t.respond n operation).1) (t.respond n operation).2)
    (hraises : i.failure? point = some .raises -> post (.ok fallback) t)
    (hdies : i.failure? point = some .dies -> post (.error .dies) t) :
    (swallowing (call point operation) fallback).Meets (handle n i) t post := by
  apply meets_swallowing
  apply meets_call
  · exact hok
  · intro failure hfailure
    cases failure with
    | raises => exact hraises hfailure
    | dies => exact hdies hfailure

theorem meets_swallowed_read {α : Type} {read : operation.Answer -> α} {fallback : α}
    {post : Except Failure α -> Tracker -> Prop} (hok : i.failure? point = none ->
      post (.ok (read (t.respond n operation).1)) (t.respond n operation).2)
    (hraises : i.failure? point = some .raises -> post (.ok fallback) t)
    (hdies : i.failure? point = some .dies -> post (.error .dies) t) :
    (swallowing (do
        let answer <- call point operation
        pure (read answer))
      fallback).Meets (handle n i) t post := by
  apply meets_swallowing
  apply Program.meets_bind
  apply meets_call
  · intro hcall
    exact Program.meets_done (hok hcall)
  · intro failure hfailure
    cases failure with
    | raises => exact hraises hfailure
    | dies => exact hdies hfailure

/-!
# Reading
-/

theorem meets_issueExists {identifier : List Char} {post : Except Failure Bool -> Tracker -> Prop}
    (hempty : identifier = [] -> post (.ok false) t)
    (hok : identifier ≠ [] -> i.failure? point = none -> post (.ok (t.find identifier).isSome) t)
    (hraises : identifier ≠ [] -> i.failure? point = some .raises -> post (.ok false) t)
    (hdies : identifier ≠ [] -> i.failure? point = some .dies -> post (.error .dies) t) :
    (issueExists point identifier).Meets (handle n i) t post := by
  unfold issueExists
  split
  · rename_i h
    exact Program.meets_done (hempty h)
  · rename_i h
    apply meets_swallowed_read
    · intro hcall
      have hread := hok h hcall
      rw [← Option.isSome_map (f := fun issue => (issue, t.state identifier))] at hread
      exact hread
    · exact hraises h
    · exact hdies h

theorem meets_loadEpicProposal {post : Except Failure (Option StoredProposal) -> Tracker -> Prop}
    (hok : i.failure? .loadProposal = none -> post (.ok t.metadata.proposal) t)
    (hraises : i.failure? .loadProposal = some .raises -> post (.ok none) t)
    (hdies : i.failure? .loadProposal = some .dies -> post (.error .dies) t) :
    loadEpicProposal.Meets (handle n i) t post :=
  meets_swallowed_read hok hraises hdies

theorem meets_loadReadiness {post : Except Failure IntakeReadiness -> Tracker -> Prop}
    (hok : i.failure? .loadReadiness = none -> post (.ok t.metadata.readiness) t)
    (hraises : i.failure? .loadReadiness = some .raises -> post (.ok {}) t)
    (hdies : i.failure? .loadReadiness = some .dies -> post (.error .dies) t) :
    loadReadiness.Meets (handle n i) t post :=
  meets_swallowed_read hok hraises hdies

theorem meets_shouldReuseSourceAsEpic {post : Except Failure Bool -> Tracker -> Prop}
    (hok : i.failure? .reuseCheck = none -> post (.ok t.metadata.isExternal) t)
    (hraises : i.failure? .reuseCheck = some .raises -> post (.ok false) t)
    (hdies : i.failure? .reuseCheck = some .dies -> post (.error .dies) t) :
    shouldReuseSourceAsEpic.Meets (handle n i) t post :=
  meets_swallowed_read hok hraises hdies

/-!
# What leaves the application alone
-/

/-- The issues and the record of an application are the same in both trackers. -/
structure Alike (t after : Tracker) : Prop where
  issues : after.issues = t.issues
  proposal : after.metadata.proposal = t.metadata.proposal
  externalId : after.metadata.externalId = t.metadata.externalId

namespace Alike

theorem refl (t : Tracker) : Alike t t :=
  ⟨rfl, rfl, rfl⟩

theorem trans {t after last : Tracker} (h : Alike t after) (h' : Alike after last) :
    Alike t last :=
  ⟨h'.issues.trans h.issues, h'.proposal.trans h.proposal, h'.externalId.trans h.externalId⟩

theorem isExternal {t after : Tracker} (h : Alike t after) :
    after.metadata.isExternal = t.metadata.isExternal := by
  unfold Metadata.isExternal
  rw [h.externalId]

theorem moveTo (t : Tracker) (identifier : List Char) (state : IssueState) :
    Alike t (t.moveTo identifier state) :=
  ⟨rfl, rfl, rfl⟩

theorem saveReadiness (t : Tracker) (readiness : IntakeReadiness) :
    Alike t { t with metadata := { t.metadata with readiness } } :=
  ⟨rfl, rfl, rfl⟩

end Alike

/-- Wherever it is interrupted, a program leaves the application alone. -/
def LeavesAlone (n : Naming) (i : Interruption) {α : Type} (program : Attempt α) : Prop :=
  forall t, program.Meets (handle n i) t (fun _ after => Alike t after)

section LeavesAlone

variable {α β : Type}

theorem leavesAlone_pure (value : α) : LeavesAlone n i (pure value) := by
  intro t
  exact Program.meets_done (Alike.refl t)

theorem leavesAlone_call {point : Point} {operation : Operation}
    (h : forall t, Alike t (t.respond n operation).2) :
    LeavesAlone n i (call point operation) := by
  intro t
  apply meets_call
  · intro _
    exact h t
  · intro failure _
    exact Alike.refl t

theorem LeavesAlone.bind {program : Attempt α} {f : α -> Attempt β}
    (h : LeavesAlone n i program) (hf : forall value, LeavesAlone n i (f value)) :
    LeavesAlone n i (program >>= f) := by
  intro t
  apply Program.meets_bind
  apply (h t).mono
  intro result after hafter
  cases result with
  | error failure => exact hafter
  | ok value =>
    apply (hf value after).mono
    intro result last hlast
    exact hafter.trans hlast

theorem LeavesAlone.swallowing {program : Attempt α} {fallback : α}
    (h : LeavesAlone n i program) : LeavesAlone n i (swallowing program fallback) := by
  intro t
  apply meets_swallowing
  apply (h t).mono
  intro result after hafter
  rcases result with failure | value
  · cases failure with
    | raises => exact hafter
    | dies => exact hafter
  · exact hafter

end LeavesAlone

theorem fetchPromoted_alone (epic : List Char) (identifiers : List (List Char)) (index : Nat) :
    LeavesAlone n i (fetchPromoted epic index identifiers) := by
  induction identifiers generalizing index with
  | nil => exact leavesAlone_pure _
  | cons identifier rest ih =>
    apply LeavesAlone.bind
    · exact leavesAlone_call fun t => Alike.refl t
    intro detail
    split
    · exact leavesAlone_pure _
    · split
      · exact leavesAlone_pure _
      · exact (ih (index + 1)).bind fun others => leavesAlone_pure _

theorem promoteFetched_alone (children : List (List Char × IssueState)) (index : Nat) :
    LeavesAlone n i (promoteFetched index children) := by
  induction children generalizing index with
  | nil => exact leavesAlone_pure ()
  | cons child rest ih =>
    rcases child with ⟨identifier, state⟩
    unfold promoteFetched
    split
    · apply LeavesAlone.bind
      · exact leavesAlone_call fun t => Alike.moveTo t identifier .opened
      · exact fun _ => ih (index + 1)
    · exact ih (index + 1)

theorem promoteDecompositionChildrenToOpen_alone (p : StoredProposal) :
    LeavesAlone n i (promoteDecompositionChildrenToOpen p) := by
  unfold promoteDecompositionChildrenToOpen
  split
  · exact leavesAlone_pure false
  · split
    · exact leavesAlone_pure false
    · apply LeavesAlone.bind (fetchPromoted_alone _ p.childIdentifiers 0)
      intro children
      split
      · exact leavesAlone_pure false
      · rename_i found
        exact (promoteFetched_alone found 0).bind fun _ => leavesAlone_pure true

theorem promoteWhen_alone (promote : Bool) (p : StoredProposal) :
    LeavesAlone n i (promoteWhen promote p) := by
  unfold promoteWhen
  split
  · exact (promoteDecompositionChildrenToOpen_alone p).bind fun _ => leavesAlone_pure ()
  · exact leavesAlone_pure ()

/-- What follows the record of an application leaves the record and the issues alone. -/
theorem finishApplication_alone (source : TrackedIssue) (recorded : StoredProposal)
    (readiness : IntakeReadiness) (reuse promote : Bool) :
    LeavesAlone n i (finishApplication source recorded readiness reuse promote) := by
  apply LeavesAlone.bind
  · exact leavesAlone_call fun t => Alike.saveReadiness t _
  · intro _
    apply LeavesAlone.bind
    · unfold markDecomposed
      split
      · exact leavesAlone_pure ()
      · apply LeavesAlone.swallowing
        exact leavesAlone_call fun t => Alike.moveTo t source.identifier .decomposed
    · intro _
      apply LeavesAlone.bind
      · apply LeavesAlone.swallowing
        exact leavesAlone_call fun t => ⟨rfl, rfl, rfl⟩
      · exact fun _ => promoteWhen_alone promote recorded

end EpicProposals
end Oompah
