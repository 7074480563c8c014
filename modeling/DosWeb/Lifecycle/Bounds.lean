import DosWeb.Lifecycle.Guards

namespace DosWeb.Lifecycle

open Library Library.OrderedSet
open Entries (EntryFact Framework)
open Flows (VerifiedFlow)
open Growth (GrowthCandidate VerifiedGrowthResult)

structure BoundCandidate where
  boundId : String
  siteFile : String
  siteStartLine : Nat
  kind : String
  resourceDimension : String
  scope : String
  behavior : String
  receiver : String
  fieldPath : String
  resultChecked : Bool
  configurationKey : String
  configurationValue : String
  phase : String
  coversFlow : Bool
  requestEncoding : String
  queueResource : String
  productBound : Bool
  evidence : List String
  coverageStatus : String
  deriving DecidableEq

inductive BoundStatus where
  | absent
  | scopeMismatched
  | dimensionMismatched
  | possiblyOverBudget
  | effective
  | unknown
  deriving DecidableEq

structure BoundDecision where
  status : BoundStatus
  reasonCodes : List String
  checks : List DecisionCheck
  evidenceIds : List String
  unresolvedFacts : List String
  candidateIds : List String
  deriving DecidableEq

/-! The framework limits: each names its evidence and the domain it is exact for. -/

structure FrameworkLimitDomain where
  evidence : String
  frameworks : List Framework
  requestEncoding : String
  configurationKey : String

def frameworkLimitDomains : List FrameworkLimitDomain := [
  ⟨"jackson_stream_read_constraints_literal", [.springMvc, .servlet, .jaxRs, .netty], "json",
    "literal"⟩, ⟨"netty_http_object_aggregator_literal", [.netty], "aggregated_http", "literal"⟩,
  ⟨"servlet_multipart_config_literal", [.springMvc, .servlet], "multipart", "literal"⟩,
  ⟨"solr_formdata_upload_limit_literal", [.servlet], "form_urlencoded", "literal"⟩]

/-- The one domain whose evidence a limit candidate names. -/
def limitDomain (candidate : BoundCandidate) : Option FrameworkLimitDomain :=
  match frameworkLimitDomains.filter fun domain => candidate.evidence.contains domain.evidence with
  | [domain] => if candidate.kind = "limit" then some domain else none
  | _ => none

def frameworkLimitReasonCodes (entry : EntryFact) (candidate : BoundCandidate) :
    Option (List String) :=
  (limitDomain candidate).map fun domain =>
    flagged (!domain.frameworks.contains entry.framework) "BOUND_FRAMEWORK_MISMATCH" ++
      flagged (candidate.requestEncoding ≠ domain.requestEncoding)
        "BOUND_REQUEST_ENCODING_MISMATCH" ++
      flagged (candidate.configurationKey ≠ domain.configurationKey)
        "BOUND_CONFIGURATION_PROVENANCE_MISMATCH"

/-- A modeled limit answers for its domain, any other bound for the request's encoding. -/
def encodingReasons (entry : EntryFact) (candidate : BoundCandidate) : List String :=
  match frameworkLimitReasonCodes entry candidate with
  | none => flagged (candidate.requestEncoding ≠ "raw_body" && candidate.requestEncoding ≠ "any")
      "BOUND_REQUEST_ENCODING_MISMATCH"
  | some frameworkReasons => frameworkReasons

/-- The reasons for which a bound does not limit the growth; none where it does. -/
def boundReasons (entry : EntryFact) (growth : GrowthCandidate)
    (configuration : ModeledConfiguration) (candidate : BoundCandidate) : List String :=
  flagged (candidate.scope ≠ growth.escapeScope.text) "BOUND_SCOPE_MISMATCH" ++
    flagged (candidate.resourceDimension ≠ growth.resourceDimension.text)
      "BOUND_DIMENSION_MISMATCH" ++
    flagged (candidate.receiver ≠ growth.receiver.1) "BOUND_RECEIVER_MISMATCH" ++
    flagged (!candidate.resultChecked) "BOUND_RESULT_IGNORED" ++
    flagged (candidate.queueResource ≠ growth.fieldPath.1) "BOUND_QUEUE_CONFIGURATION_MISMATCH" ++
    encodingReasons entry candidate ++
    flagged (!candidate.productBound) "BOUND_MULTIPLICATIVE_DEMAND_UNCOVERED" ++
    flagged ((candidate.phase ≠ "before_growth" && candidate.phase ≠ "inside_growth") ||
      !candidate.coversFlow || !(["reject", "block", "evict", "clamp"].contains candidate.behavior))
      "BOUND_POSSIBLY_OVER_BUDGET" ++
    limitReasons "BOUND" configuration candidate.configurationKey candidate.configurationValue ++
    flagged (candidate.coverageStatus ≠ "complete") "BOUND_COVERAGE_UNKNOWN"

def boundUnresolved (configuration : ModeledConfiguration) (candidate : BoundCandidate) :
    List String := limitUnresolved "literal_capacity" configuration candidate.configurationKey
      candidate.configurationValue ++
    flagged (candidate.coverageStatus ≠ "complete") candidate.boundId

def boundChecks (entry : EntryFact) (growth : GrowthCandidate)
    (configuration : ModeledConfiguration) (candidate : BoundCandidate) : List DecisionCheck :=
  let reasons := boundReasons entry growth configuration candidate
  failedChecks "BOUND_" candidate.evidence reasons ++
    if reasons = [] then [⟨"bound_effective", true, none, candidate.evidence⟩] else []

/-- The status of candidates of which none is effective, with the reasons given for it. -/
def ineffectiveBound (reasons : List String) : BoundStatus × List String :=
  if reasons.any (Text.endsWith · "UNKNOWN") then (.unknown, sortedSet reasons)
  else if sortedSet reasons = ["BOUND_SCOPE_MISMATCH"] then (.scopeMismatched, sortedSet reasons)
  else if sortedSet reasons = ["BOUND_DIMENSION_MISMATCH"] then
    (.dimensionMismatched, sortedSet reasons)
  else (.possiblyOverBudget, sortedSet ("BOUND_POSSIBLY_OVER_BUDGET" :: reasons))

def decideBound (entry : EntryFact) (growth : GrowthCandidate)
    (configuration : ModeledConfiguration) (ordered : List BoundCandidate) : BoundDecision :=
  let reasons := ordered.flatMap (boundReasons entry growth configuration)
  let effective := ordered.any fun candidate =>
    boundReasons entry growth configuration candidate = []
  { status := if effective then .effective else (ineffectiveBound reasons).1
    reasonCodes := if effective then [] else (ineffectiveBound reasons).2
    checks := ordered.flatMap (boundChecks entry growth configuration)
    evidenceIds := sortedSet (ordered.flatMap BoundCandidate.evidence)
    unresolvedFacts := sortedSet (ordered.flatMap (boundUnresolved configuration))
    candidateIds := ordered.map BoundCandidate.boundId }

def evaluateBound (entry : EntryFact) (growth : VerifiedGrowthResult) (flow : VerifiedFlow)
    (candidates : List BoundCandidate) (configuration : ModeledConfiguration)
    (coverageStatus : String) : Checked BoundDecision := do
  let growthCandidate ← validateContext entry growth flow
  require (coverageStatuses.contains coverageStatus)
    (lifecycleInvalid "Bound coverage status is invalid.")
  let ordered := candidates.insertionSort fun left right => left.boundId ≤ right.boundId
  if ordered = [] then
    if coverageStatus = "complete" then return ⟨.absent, ["BOUND_ABSENT"], [], [], [], []⟩
    else return ⟨.unknown, ["BOUND_COVERAGE_UNKNOWN"], [], [], ["bound_coverage"], []⟩
  else do
    require (ordered.all fun candidate =>
      limitPrintable configuration candidate.configurationKey) digitLimitExceeded
    return decideBound entry growthCandidate configuration ordered

/-- Effective only for the exact path, driver, encoding and provenance of a modeled limit. -/
def normalizeFrameworkLimit (entry : EntryFact) (growth : VerifiedGrowthResult)
    (flow : VerifiedFlow) (candidate : BoundCandidate) (configuration : ModeledConfiguration) :
    Checked BoundDecision := do
  let _ ← validateContext entry growth flow
  match frameworkLimitReasonCodes entry candidate with
  | none =>
    let reason := "BOUND_FRAMEWORK_LIMIT_DOMAIN_UNMODELED"
    return ⟨.unknown, [reason], [⟨"framework_limit_domain", false, some reason,
      candidate.evidence⟩], candidate.evidence, ["framework_limit_domain"], [candidate.boundId]⟩
  | some _ => evaluateBound entry growth flow [candidate] configuration "complete"

end DosWeb.Lifecycle
