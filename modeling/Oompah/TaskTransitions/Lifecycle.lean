/-!
# The task lifecycle

The canonical statuses, the edges between them and the evidence each edge
requires.
-/

namespace Oompah
namespace TaskTransitions

inductive Status where
  | proposed
  | backlog
  | «open»
  | inProgress
  | needsAnswer
  | needsHuman
  | needsCiFix
  | needsRebase
  | inReview
  | inValidation
  | readyToIntegrate
  | decomposed
  | duplicateCandidate
  | done
  | merged
  | archived
  deriving DecidableEq

namespace Status

def isTerminalTarget (status : Status) : Bool :=
  status ∈ [done, merged, archived]

end Status

inductive TransitionRequirement where
  | actionableDescription
  | projectOwnerAuthority
  | dependenciesSatisfied
  | validOwnerLease
  | implementationGeneration
  | acceptedSubmission
  | auditRequest
  | auditPass
  | landingEvidence
  | containmentEvidence
  | childrenCreated
  | childrenComplete
  | duplicateVerdict
  | operatorReason
  | expectedVersion
  deriving DecidableEq

open Status in
/-- `VALID_TRANSITIONS`. -/
def validTransitions : Status -> List Status
  | proposed => [backlog, «open», decomposed, duplicateCandidate, archived]
  | backlog => [«open», inProgress, duplicateCandidate, archived]
  | «open» =>
    [inProgress, duplicateCandidate, decomposed, needsHuman, needsCiFix,
      needsRebase, readyToIntegrate, done, archived]
  | inProgress =>
    [«open», needsAnswer, needsHuman, needsCiFix, needsRebase, inReview,
      inValidation, readyToIntegrate, decomposed]
  | needsAnswer => [«open», inProgress, needsHuman, archived]
  | needsHuman => [«open», inProgress, needsAnswer, duplicateCandidate, archived]
  | needsCiFix =>
    [«open», inProgress, inReview, inValidation, readyToIntegrate, needsHuman, archived]
  | needsRebase =>
    [«open», inProgress, inReview, inValidation, readyToIntegrate, needsHuman, archived]
  | inReview =>
    [«open», inProgress, needsCiFix, needsRebase, inValidation,
      readyToIntegrate, needsHuman, merged, archived]
  | inValidation =>
    [«open», inProgress, needsCiFix, needsRebase, inReview, readyToIntegrate,
      needsHuman, done, merged, archived]
  | readyToIntegrate =>
    [«open», inProgress, needsCiFix, needsRebase, inReview, inValidation, needsHuman, archived]
  | decomposed => [archived]
  | duplicateCandidate => [proposed, backlog, «open», needsHuman, archived]
  | done =>
    [«open», needsCiFix, needsRebase, inReview, inValidation, merged, archived]
  | merged => [«open», needsCiFix, needsRebase, inReview, archived]
  | archived => []

open Status TransitionRequirement in
/-- `_requirements_for`. -/
def requirementsFor (source target : Status) : List TransitionRequirement :=
  [expectedVersion] ++ (if target ∈ [backlog, «open»] ∧ source ∈ [proposed, backlog] then
      [projectOwnerAuthority, actionableDescription] else []) ++
    (if target = inProgress then
      [dependenciesSatisfied, validOwnerLease, implementationGeneration] ++
        (if source = backlog then
          [projectOwnerAuthority, actionableDescription] else [])
      else []) ++
    (if target = readyToIntegrate then [acceptedSubmission] else []) ++
    (if target = inValidation then [auditRequest] else []) ++
    (if target ∈ [done, merged, archived] then [auditPass] else []) ++
    (if target = merged then [landingEvidence, containmentEvidence] else []) ++
    (if target = decomposed then [childrenCreated] else []) ++
    (if source = decomposed then [childrenComplete] else []) ++
    (if source = duplicateCandidate then [duplicateVerdict] else []) ++
    (if target = needsHuman then [operatorReason] else [])

/-- The requirements of a legal edge. -/
def transitionRule (source target : Status) : Option (List TransitionRequirement) :=
  if target ∈ validTransitions source then
    some (requirementsFor source target)
  else
    none

end TaskTransitions
end Oompah
