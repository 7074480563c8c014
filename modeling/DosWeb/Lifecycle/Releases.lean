import DosWeb.Lifecycle.Bounds

namespace DosWeb.Lifecycle

open Library.OrderedSet
open Entries (EntryFact)
open Flows (VerifiedFlow)
open Growth (GrowthCandidate VerifiedGrowthResult)

structure ReleaseCandidate where
  releaseId : String
  siteFile : String
  siteStartLine : Nat
  kind : String
  resourceDimension : String
  scope : String
  receiver : String
  keyIdentity : String
  synchronous : Bool
  normalPath : Bool
  exceptionalPath : Bool
  actualReduction : Bool
  afterGrowth : Bool
  transferOnly : Bool
  asyncKind : String
  evidence : List String
  coverageStatus : String
  deriving DecidableEq

inductive ReleaseStatus where
  | effective
  | ineffective
  | unknown
  | absent
  deriving DecidableEq

inductive ReleaseClassification where
  | synchronousEffective
  | insufficientPathCoverage
  | receiverOrKeyMismatched
  | potentialAsync
  | notEffective
  | unknown
  | absent
  deriving DecidableEq

structure ReleaseDecision where
  status : ReleaseStatus
  classification : ReleaseClassification
  reasonCodes : List String
  checks : List DecisionCheck
  evidenceIds : List String
  unresolvedFacts : List String
  candidateIds : List String
  deriving DecidableEq

namespace ReleaseCandidate

def isAsync (candidate : ReleaseCandidate) : Bool :=
  !candidate.synchronous || candidate.asyncKind ≠ "none"

def wholeResource (candidate : ReleaseCandidate) : Bool :=
  (candidate.kind = "clear" || candidate.kind = "close") && candidate.keyIdentity = "none"

def mismatches (growth : GrowthCandidate) (candidate : ReleaseCandidate) : Bool :=
  candidate.resourceDimension ≠ growth.resourceDimension.text ||
    candidate.scope ≠ growth.escapeScope.text || candidate.receiver ≠ growth.receiver.1 ||
    (!candidate.wholeResource && !growth.demandNames.contains candidate.keyIdentity)

def insufficientPaths (candidate : ReleaseCandidate) : Bool :=
  !candidate.afterGrowth || !candidate.normalPath || !candidate.exceptionalPath

end ReleaseCandidate

/-- The reasons for which a release does not undo the growth; none where it does. -/
def releaseReasons (growth : GrowthCandidate) (candidate : ReleaseCandidate) : List String :=
  flagged candidate.isAsync "RELEASE_POTENTIAL_ASYNC" ++
    flagged (candidate.mismatches growth) "RELEASE_RECEIVER_OR_KEY_MISMATCHED" ++
    flagged candidate.insufficientPaths "RELEASE_INSUFFICIENT_PATH_COVERAGE" ++
    flagged (!candidate.actualReduction) "RELEASE_NO_ACTUAL_REDUCTION" ++
    flagged candidate.transferOnly "RELEASE_PAYLOAD_TRANSFER_ONLY" ++
    flagged (candidate.coverageStatus ≠ "complete") "RELEASE_COVERAGE_UNKNOWN"

def releaseUnresolved (candidate : ReleaseCandidate) : List String :=
  flagged candidate.isAsync candidate.asyncKind ++
    flagged candidate.transferOnly candidate.releaseId ++
    flagged (candidate.coverageStatus ≠ "complete") candidate.releaseId

def releaseChecks (growth : GrowthCandidate) (candidate : ReleaseCandidate) : List DecisionCheck :=
  let reasons := releaseReasons growth candidate
  failedChecks "RELEASE_" candidate.evidence reasons ++
    if reasons = [] then [⟨"synchronous_release", true, none, candidate.evidence⟩] else []

/-- The classification after a candidate: its last finding, or the one held so far. -/
def classifyCandidate (growth : GrowthCandidate) (held : ReleaseClassification)
    (candidate : ReleaseCandidate) : ReleaseClassification :=
  if releaseReasons growth candidate = [] then .synchronousEffective
  else if candidate.transferOnly || candidate.coverageStatus ≠ "complete" then .unknown
  else if candidate.insufficientPaths then .insufficientPathCoverage
  else if candidate.mismatches growth then .receiverOrKeyMismatched
  else if candidate.isAsync then .potentialAsync
  else held

/-- The classification of candidates that release nothing for certain. -/
def unreleasedClassification (reasons : List String) (held : ReleaseClassification) :
    ReleaseClassification :=
  if reasons.contains "RELEASE_POTENTIAL_ASYNC" then .potentialAsync
  else if reasons.contains "RELEASE_PAYLOAD_TRANSFER_ONLY" ||
      reasons.contains "RELEASE_COVERAGE_UNKNOWN" then .unknown
  else if reasons.contains "RELEASE_RECEIVER_OR_KEY_MISMATCHED" then .receiverOrKeyMismatched
  else if reasons.contains "RELEASE_INSUFFICIENT_PATH_COVERAGE" then .insufficientPathCoverage
  else held

def unresolvedReleaseReasons : List String :=
  ["RELEASE_POTENTIAL_ASYNC", "RELEASE_PAYLOAD_TRANSFER_ONLY", "RELEASE_COVERAGE_UNKNOWN"]

def decideRelease (growth : GrowthCandidate) (ordered : List ReleaseCandidate) : ReleaseDecision :=
  let reasons := ordered.flatMap (releaseReasons growth)
  let effective := ordered.any fun candidate => releaseReasons growth candidate = []
  let unresolvedRelease := reasons.any unresolvedReleaseReasons.contains
  let classification :=
    unreleasedClassification reasons (ordered.foldl (classifyCandidate growth) .notEffective)
  let released := effective && !unresolvedRelease
  { status :=
      if released then .effective
      else if classification = .potentialAsync ∨ classification = .unknown then .unknown
      else .ineffective
    classification := if released then .synchronousEffective else classification
    reasonCodes := if released then [] else sortedSet reasons
    checks := ordered.flatMap (releaseChecks growth)
    evidenceIds := sortedSet (ordered.flatMap ReleaseCandidate.evidence)
    unresolvedFacts := sortedSet (ordered.flatMap releaseUnresolved)
    candidateIds := ordered.map ReleaseCandidate.releaseId }

def evaluateSynchronousRelease (entry : EntryFact) (growth : VerifiedGrowthResult)
    (flow : VerifiedFlow) (candidates : List ReleaseCandidate) (coverageStatus : String) :
    Checked ReleaseDecision := do
  let growthCandidate ← validateContext entry growth flow
  require (coverageStatuses.contains coverageStatus)
    (lifecycleInvalid "Release coverage status is invalid.")
  let ordered := candidates.insertionSort fun left right => left.releaseId ≤ right.releaseId
  if ordered = [] then
    if coverageStatus = "complete" then
      return ⟨.absent, .absent, ["RELEASE_ABSENT"], [], [], [], []⟩
    else return ⟨.unknown, .unknown, ["RELEASE_COVERAGE_UNKNOWN"], [], [], ["release_coverage"], []⟩
  else return decideRelease growthCandidate ordered

end DosWeb.Lifecycle
