import Mathlib.Data.String.Basic
import Oompah.Foundation.Value

/-!
# Evidence snapshots

One observation for each domain of evidence, each with its knowledge state, and the
landings known as facts of their own.  What the constructors check is carried by the
structures.
-/

namespace Oompah
namespace TaskEvaluation

open Foundation

/-- A text as `_required_text` returns it. -/
def Named (s : String) : Prop :=
  strip s = s ∧ s ≠ ""

instance (s : String) : Decidable (Named s) :=
  inferInstanceAs (Decidable (strip s = s ∧ s ≠ ""))

theorem Named.strip_ne {s : String} (h : Named s) : strip s ≠ "" := by
  rw [h.left]
  exact h.right

inductive FactDomain where
  | task
  | dependencies
  | containment
  | integration
  | terminalAudit
  | reviewCi
  | landing
  | implementationAuthority
  | duplicateInvestigation
  | retryBudget
  | config
  deriving DecidableEq

namespace FactDomain

def text : FactDomain -> String
  | task => "task"
  | dependencies => "dependencies"
  | containment => "containment"
  | integration => "integration"
  | terminalAudit => "terminal_audit"
  | reviewCi => "review_ci"
  | landing => "landing"
  | implementationAuthority => "implementation_authority"
  | duplicateInvestigation => "duplicate_investigation"
  | retryBudget => "retry_budget"
  | config => "config"

end FactDomain

/-- The quality of an observation. -/
inductive FactState where
  | known
  | missing
  | stale
  | error
  deriving DecidableEq

namespace FactState

def text : FactState -> String
  | known => "known"
  | missing => "missing"
  | stale => "stale"
  | error => "error"

end FactState

/-- One observation: its value is there exactly when its state says so, and only an
error has a code. -/
structure FactObservation where
  state : FactState
  value : Value
  errorCode : Option String := none
  missing_null : state = .missing -> value.isNull = true
  held : state = .known ∨ state = .stale -> value.isNull = false
  coded : errorCode.isSome = true ↔ state = .error
  code_named : forall code, code ∈ errorCode -> Named code

namespace FactObservation

def known (value : Value) (h : value.isNull = false) : FactObservation where
  state := .known
  value := value
  missing_null := by intro hstate; cases hstate
  held := fun _ => h
  coded := by decide
  code_named := by intro code h; cases h

def missing : FactObservation where
  state := .missing
  value := .null
  missing_null := fun _ => rfl
  held := by decide
  coded := by decide
  code_named := by intro code h; cases h

def error (code : String) (h : Named code) : FactObservation where
  state := .error
  value := .null
  errorCode := some code
  missing_null := by intro hstate; cases hstate
  held := by decide
  coded := by simp
  code_named := by
    intro other hother
    cases hother
    exact h

/-- `_mapping(observation.value) if observation.state is FactState.KNOWN else None`. -/
def knownMapping (observation : FactObservation) : Option Mapping :=
  if observation.state = .known then observation.value.mapping? else none

theorem state_of_knownMapping {observation : FactObservation} {value : Mapping}
    (h : observation.knownMapping = some value) :
    observation.state = .known ∧ observation.value.mapping? = some value := by
  unfold knownMapping at h
  by_cases hstate : observation.state = .known
  · rw [if_pos hstate] at h
    exact ⟨hstate, h⟩
  · rw [if_neg hstate] at h
    cases h

end FactObservation

inductive LandingState where
  | landed
  | notLanded
  | unknown
  deriving DecidableEq

namespace LandingState

def text : LandingState -> String
  | landed => "landed"
  | notLanded => "not_landed"
  | unknown => "unknown"

end LandingState

/-- Whether one revision of a source is on a target. -/
structure LandingFact where
  source : String
  target : String
  revision : Option String
  projectId : String
  evidenceRevision : String
  state : LandingState := .unknown
  durable : Bool := false
  errorCode : Option String := none
  source_named : Named source
  target_named : Named target
  revision_named : forall sha, sha ∈ revision -> Named sha
  code_named : forall code, code ∈ errorCode -> Named code
  error_unknown : errorCode.isSome = true -> state = .unknown
  durable_landed : durable = true -> state = .landed

namespace LandingFact

/-- A durable landing in the project `p`. -/
def landed (source target revision : String) (hsource : Named source) (htarget : Named target)
    (hrevision : Named revision) : LandingFact where
  source := source
  target := target
  revision := some revision
  projectId := "p"
  evidenceRevision := revision
  state := .landed
  durable := true
  source_named := hsource
  target_named := htarget
  revision_named := by
    intro sha h
    cases h
    exact hrevision
  code_named := by intro code h; cases h
  error_unknown := by intro h; cases h
  durable_landed := fun _ => rfl

/-- What the landings of a snapshot are sorted by. -/
def key (landing : LandingFact) : List String :=
  [landing.source, landing.target, landing.revision.getD ""]

/-- A landing of exactly these coordinates that is proven. -/
def Proves (landing : LandingFact) (source target revision : String) : Prop :=
  landing.state = .landed ∧ landing.source = source ∧ landing.target = target ∧
    landing.revision = some revision

instance (landing : LandingFact) (source target revision : String) :
    Decidable (landing.Proves source target revision) :=
  inferInstanceAs (Decidable (_ ∧ _ ∧ _ ∧ _))

end LandingFact

/-- The check of the landing observation against the landings: a known one lists their
evidence revisions in order, and without one there are none. -/
def landingAgreement (observation : FactObservation) (landings : List LandingFact) :
    Except PyError Unit := do
  if observation.state = .known then
    match observation.value.mapping? with
    | none => .error (.valueError "known landing observation must be an object")
    | some value =>
      match (value.getD "evidence_revisions" (.tuple [])).iterate? with
      | none => .error (.typeError "evidence_revisions is not iterable")
      | some observed =>
        if observed.map Value.text? = landings.map (fun item => some item.evidenceRevision)
        then .ok ()
        else .error (.valueError "landing observation does not match first-class landings")
  else if landings = [] then .ok ()
  else .error (.valueError "first-class landings require a known landing observation")

structure WorkflowFacts where
  projectId : String
  taskId : String
  collectedAt : Instant
  observations : FactDomain -> FactObservation
  landings : List LandingFact := []
  factsVersion : String
  project_named : Named projectId
  task_named : Named taskId
  version_named : Named factsVersion
  representable : Representable collectedAt
  landings_project : forall item, item ∈ landings -> item.projectId = projectId
  landings_sorted : landings.Pairwise fun a b => a.key ≤ b.key
  agrees : landingAgreement (observations .landing) landings = .ok ()

namespace WorkflowFacts

def fact (facts : WorkflowFacts) (domain : FactDomain) : FactObservation :=
  facts.observations domain

/-- Landings are facts only beside a known landing observation. -/
theorem landing_known {facts : WorkflowFacts} (h : facts.landings ≠ []) :
    (facts.fact .landing).state = .known := by
  have hagrees := facts.agrees
  unfold landingAgreement at hagrees
  by_cases hstate : (facts.observations .landing).state = .known
  · exact hstate
  · rw [if_neg hstate, if_neg h] at hagrees
    cases hagrees

/-- The observation of some landings. -/
def landingObservation (landings : List LandingFact) : FactObservation :=
  .known (.mapping [("evidence_revisions",
    .tuple (landings.map fun item => .str item.evidenceRevision))]) rfl

theorem landingAgreement_landingObservation (landings : List LandingFact) :
    landingAgreement (landingObservation landings) landings = .ok () := by
  have hstate : (landingObservation landings).state = .known := rfl
  have hobserved : (landings.map fun item => Value.str item.evidenceRevision).map Value.text? =
      landings.map fun item => some item.evidenceRevision := by
    rw [List.map_map]
    rfl
  unfold landingAgreement
  exact if_pos hobserved

/-- A snapshot of the task `t` of the project `p`. -/
def snapshot (observations : FactDomain -> FactObservation) (landings : List LandingFact)
    (hproject : forall item, item ∈ landings -> item.projectId = "p")
    (hsorted : landings.Pairwise fun a b => a.key ≤ b.key) : WorkflowFacts where
  projectId := "p"
  taskId := "t"
  collectedAt := 0
  observations domain :=
    if domain = .landing then landingObservation landings else observations domain
  landings := landings
  factsVersion := "v"
  project_named := by decide +kernel
  task_named := by decide +kernel
  version_named := by decide +kernel
  representable := by decide +kernel
  landings_project := hproject
  landings_sorted := hsorted
  agrees := landingAgreement_landingObservation landings

/-- A snapshot without landings. -/
def unlanded (observations : FactDomain -> FactObservation) : WorkflowFacts :=
  snapshot observations [] (by intro item h; cases h) .nil

end WorkflowFacts
end TaskEvaluation
end Oompah
