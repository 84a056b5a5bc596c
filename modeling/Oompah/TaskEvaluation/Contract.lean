import Oompah.Foundation.Value
import Oompah.TaskTransitions.Lifecycle

/-!
# The status contract

How a supplied status becomes a canonical one, and what the lifecycle contract says of
each canonical status: its owners and the bound within which it is looked at again.
A text that is no alias of a canonical status is a custom status, and has no contract.
-/

namespace Oompah
namespace TaskEvaluation

open Foundation
open TaskTransitions (Status)

def statusText : Status -> String
  | .proposed => "Proposed"
  | .backlog => "Backlog"
  | .open => "Open"
  | .inProgress => "In Progress"
  | .needsAnswer => "Needs Answer"
  | .needsHuman => "Needs Human"
  | .needsCiFix => "Needs CI Fix"
  | .needsRebase => "Needs Rebase"
  | .inReview => "In Review"
  | .inValidation => "In Validation"
  | .readyToIntegrate => "Ready to Integrate"
  | .decomposed => "Decomposed"
  | .duplicateCandidate => "Duplicate Candidate"
  | .done => "Done"
  | .merged => "Merged"
  | .archived => "Archived"

/-- `STATUS_ALIASES`. -/
def statusAliases : List (String × Status) :=
  [("", .backlog), ("proposed", .proposed), ("to do", .backlog), ("todo", .backlog),
    ("deferred", .backlog), ("backlog", .backlog), ("open", .open),
    ("in progress", .inProgress), ("doing", .inProgress), ("started", .inProgress),
    ("asking question", .needsAnswer), ("needs answer", .needsAnswer),
    ("needs info", .needsAnswer), ("needs information", .needsAnswer),
    ("human only", .needsHuman), ("needs human", .needsHuman), ("ci fix", .needsCiFix),
    ("needs ci fix", .needsCiFix), ("merge conflict", .needsRebase),
    ("needs rebase", .needsRebase), ("in review", .inReview), ("review", .inReview),
    ("in validation", .inValidation), ("validation", .inValidation),
    ("ready to integrate", .readyToIntegrate),
    ("ready for integration", .readyToIntegrate), ("decomposed", .decomposed),
    ("duplicate candidate", .duplicateCandidate), ("closed", .done), ("done", .done),
    ("merged", .merged), ("archive:yes", .archived), ("archived", .archived)]

inductive TaskStatus where
  | canonical (status : Status)
  | custom (text : String)
  deriving DecidableEq

namespace TaskStatus

def text : TaskStatus -> String
  | canonical status => statusText status
  | custom text => text

end TaskStatus

section Canonical

variable (rt : Runtime)

/-- `status_key`. -/
def statusKey (v : Value) : String :=
  String.ofList ((rt.cleanLower v).toList.map fun c => if c = '-' ∨ c = '_' then ' ' else c)

/-- `canonicalize_status`. -/
def canonicalizeStatus (v : Value) : TaskStatus :=
  match statusAliases.lookup (statusKey rt v) with
  | some status => .canonical status
  | none =>
    let text := strip (rt.str (v.orElse (.str "Backlog")))
    if text = "" then .canonical .backlog else .custom text

variable {rt}

theorem lower_text (status : Status) : rt.lower (statusText status) =
      String.ofList ((statusText status).toList.map Char.toLower) := by
  apply rt.lower_ascii
  have hascii : (statusText status).toList.all (fun c => c.toNat < 128) = true := by
    cases status <;> rfl
  intro c hc
  exact of_decide_eq_true (List.all_eq_true.mp hascii c hc)

theorem clean_text (status : Status) : rt.clean (.str (statusText status)) = statusText status := by
  have htruthy : (Value.str (statusText status)).truthy = true := by cases status <;> rfl
  unfold Runtime.clean Value.orElse
  rw [if_pos htruthy]
  show strip (statusText status) = statusText status
  cases status <;> rfl

@[simp] theorem canonicalizeStatus_text (status : Status) :
    canonicalizeStatus rt (.str (statusText status)) = .canonical status := by
  have hkey : statusAliases.lookup (statusKey rt (.str (statusText status))) = some status := by
    unfold statusKey Runtime.cleanLower
    rw [clean_text, lower_text]
    cases status <;> decide +kernel
  unfold canonicalizeStatus
  rw [hkey]

theorem statusKey_falsy {v : Value} (h : v.truthy = false) : statusKey rt v = "" := by
  have hclean : rt.clean v = "" := by
    unfold Runtime.clean Value.orElse
    rw [if_neg (by simp [h])]
    show strip "" = ""
    rfl
  have hlower : rt.lower "" = "" := by
    rw [rt.lower_ascii "" (by intro c hc; cases hc)]
    rfl
  unfold statusKey Runtime.cleanLower
  rw [hclean, hlower]
  rfl

theorem custom_of_canonicalize {v : Value} {text : String}
    (h : canonicalizeStatus rt v = .custom text) :
    v.truthy = true ∧ statusAliases.lookup (statusKey rt v) = none ∧
      text = strip (rt.str v) ∧ text ≠ "" := by
  unfold canonicalizeStatus at h
  cases hkey : statusAliases.lookup (statusKey rt v) with
  | some status =>
    rw [hkey] at h
    cases h
  | none =>
    rw [hkey] at h
    have htruthy : v.truthy = true := by
      cases hv : v.truthy with
      | true => rfl
      | false =>
        rw [statusKey_falsy hv] at hkey
        exact absurd hkey (by decide +kernel)
    have hor : v.orElse (.str "Backlog") = v := by
      unfold Value.orElse
      rw [if_pos htruthy]
    rw [hor] at h
    by_cases hblank : strip (rt.str v) = ""
    · simp only [if_pos hblank] at h
      cases h
    · simp only [if_neg hblank] at h
      cases h
      exact ⟨htruthy, rfl, rfl, hblank⟩

theorem custom_named {v : Value} {text : String} (h : canonicalizeStatus rt v = .custom text) :
    strip text ≠ "" := by
  rcases custom_of_canonicalize h with ⟨_, _, htext, hne⟩
  rw [htext, strip_strip, ← htext]
  exact hne

@[simp] theorem canonicalizeStatus_idem (v : Value) :
    canonicalizeStatus rt (.str (canonicalizeStatus rt v).text) = canonicalizeStatus rt v := by
  cases h : canonicalizeStatus rt v with
  | canonical status => exact canonicalizeStatus_text status
  | custom text =>
    rcases custom_of_canonicalize h with ⟨htruthy, hkey, htext, hne⟩
    have hstr : (Value.str text).truthy = true := by
      show (text != "") = true
      exact bne_iff_ne.mpr hne
    have hclean : rt.clean (.str text) = rt.clean v := by
      unfold Runtime.clean Value.orElse
      rw [if_pos hstr, if_pos htruthy]
      show strip text = strip (rt.str v)
      rw [htext, strip_strip]
    have hsame : statusKey rt (.str text) = statusKey rt v := by
      unfold statusKey Runtime.cleanLower
      rw [hclean]
    show canonicalizeStatus rt (.str text) = .custom text
    unfold canonicalizeStatus
    rw [hsame, hkey]
    have hor : (Value.str text).orElse (.str "Backlog") = .str text := by
      unfold Value.orElse
      rw [if_pos hstr]
    rw [hor]
    have hstrip : strip (rt.str (.str text)) = text := by
      show strip text = text
      rw [htext, strip_strip]
    simp only [hstrip, if_neg hne]

end Canonical

/-!
# Owners and reassessment
-/

inductive WorkflowOwner where
  | intake
  | projectOwner
  | dispatcher
  | implementer
  | directOwner
  | requestor
  | operator
  | repairWorker
  | reviewMonitor
  | auditor
  | integrator
  | rollup
  | duplicateInvestigator
  | none
  deriving DecidableEq

/-- The keys of `LIVENESS_SLOS` that a status contract names. -/
inductive SloKey where
  | intakeReassessment
  | prioritizationVisibility
  | dispatchLatency
  | implementationLease
  | requestorVisibility
  | operatorVisibility
  | repairDispatchLatency
  | reviewReassessment
  | auditLease
  | integrationLease
  | rollupReassessment
  | duplicateInvestigationLease
  | landingReassessment
  deriving DecidableEq

/-- The bounds within which work is looked at again, in seconds. -/
structure LivenessPolicy where
  maxReassessmentSeconds : SloKey -> Nat
  positive : forall key, 1 ≤ maxReassessmentSeconds key

/-- `LIVENESS_SLOS`. -/
def livenessSlos : LivenessPolicy where
  maxReassessmentSeconds
    | .intakeReassessment => 900
    | .prioritizationVisibility => 3600
    | .dispatchLatency => 120
    | .implementationLease => 900
    | .requestorVisibility => 3600
    | .operatorVisibility => 900
    | .repairDispatchLatency => 120
    | .reviewReassessment => 300
    | .auditLease => 600
    | .integrationLease => 600
    | .rollupReassessment => 120
    | .duplicateInvestigationLease => 600
    | .landingReassessment => 300
  positive := by intro key; cases key <;> decide

structure StatusContract where
  owners : List WorkflowOwner
  sloKey : Option SloKey
  lifecycleFinal : Bool := false

/-- `STATUS_CONTRACTS`. -/
def canonicalContract : Status -> StatusContract
  | .proposed => { owners := [.intake], sloKey := some .intakeReassessment }
  | .backlog => { owners := [.projectOwner], sloKey := some .prioritizationVisibility }
  | .open => { owners := [.dispatcher], sloKey := some .dispatchLatency }
  | .inProgress =>
    { owners := [.implementer, .directOwner], sloKey := some .implementationLease }
  | .needsAnswer => { owners := [.requestor], sloKey := some .requestorVisibility }
  | .needsHuman => { owners := [.operator], sloKey := some .operatorVisibility }
  | .needsCiFix =>
    { owners := [.repairWorker, .dispatcher], sloKey := some .repairDispatchLatency }
  | .needsRebase =>
    { owners := [.repairWorker, .dispatcher], sloKey := some .repairDispatchLatency }
  | .inReview => { owners := [.reviewMonitor], sloKey := some .reviewReassessment }
  | .inValidation => { owners := [.auditor], sloKey := some .auditLease }
  | .readyToIntegrate => { owners := [.integrator], sloKey := some .integrationLease }
  | .decomposed => { owners := [.rollup], sloKey := some .rollupReassessment }
  | .duplicateCandidate =>
    { owners := [.duplicateInvestigator], sloKey := some .duplicateInvestigationLease }
  | .done => { owners := [.rollup], sloKey := some .landingReassessment }
  | .merged => { owners := [.none], sloKey := none, lifecycleFinal := true }
  | .archived => { owners := [.none], sloKey := none, lifecycleFinal := true }

namespace TaskStatus

/-- `STATUS_CONTRACTS.get(status)`. -/
def contract : TaskStatus -> Option StatusContract
  | canonical status => some (canonicalContract status)
  | custom _ => none

def sloKey (status : TaskStatus) : Option SloKey :=
  status.contract.bind StatusContract.sloKey

/-- Membership in `LIFECYCLE_FINAL_STATUSES`. -/
def lifecycleFinal (status : TaskStatus) : Bool :=
  status.contract.any StatusContract.lifecycleFinal

/-- Membership in `SATISFIED_DEPENDENCY_STATUSES`. -/
def satisfied (status : TaskStatus) : Bool :=
  status ∈ [canonical .done, canonical .merged, canonical .archived]

/-- `_owner_for_status`. -/
def owner (status : TaskStatus) : WorkflowOwner :=
  match status.contract with
  | none => .operator
  | some contract =>
    let preferred : List WorkflowOwner :=
      [.dispatcher, .implementer, .repairWorker, .reviewMonitor, .auditor, .integrator,
        .rollup, .duplicateInvestigator, .projectOwner, .intake, .requestor, .operator,
        .none]
    (preferred.find? fun owner => owner ∈ contract.owners).getD .operator

theorem sloKey_eq_none {status : Status} :
    (canonical status).sloKey = none ↔ (canonical status).lifecycleFinal = true := by
  cases status <;> decide

end TaskStatus
end TaskEvaluation
end Oompah
