import DosWeb.Flows.Verify

namespace DosWeb.Lifecycle

open Library Library.OrderedSet
open Entries (EntryFact)
open Flows (VerifiedFlow)
open Growth (GrowthCandidate VerifiedGrowthResult)

structure DecisionCheck where
  name : String
  passed : Bool
  reasonCode : Option String := none
  evidenceIds : List String := []
  deriving DecidableEq

inductive ModeledValue where
  | text (value : String)
  | number (value : Int)
  | flag (value : Bool)
  deriving DecidableEq

/-- Modeled values under distinct keys in increasing order. -/
structure ModeledConfiguration where
  values : List (String × ModeledValue)
  bounded : values.length ≤ 256
  filled : ∀ item ∈ values, item.1 ≠ ""
  ordered : (values.map Prod.fst).Pairwise (· < ·)

def ModeledConfiguration.empty : ModeledConfiguration := ⟨[], by decide, by simp, by decide⟩

def ModeledConfiguration.get (configuration : ModeledConfiguration) (key : String) :
    Option ModeledValue := configuration.values.lookup key

def lifecycleInvalid (message : String) : Raised :=
  .analyzer ⟨"ANALYSIS_LIFECYCLE_INVALID", message, []⟩

/-- The candidate of a verified growth that a proven flow of the same path leads to. -/
def validateContext (entry : EntryFact) (growth : VerifiedGrowthResult) (flow : VerifiedFlow) :
    Checked GrowthCandidate :=
  if flow.entryId ≠ entry.entryId ∨ flow.growthId ≠ growth.growthId then
    .error (.analyzer ⟨"ANALYSIS_DANGLING_FACT_REFERENCE",
      "Lifecycle decision inputs do not reference the same E-to-G path.", []⟩)
  else
    match growth.candidate with
    | some candidate =>
      if flow.satisfiesPremise ∧ growth.status = .verified then .ok candidate
      else .error (lifecycleInvalid
        "Lifecycle evaluation requires a proven flow and verified Growth.")
    | none => .error (lifecycleInvalid
        "Lifecycle evaluation requires a proven flow and verified Growth.")

/-- Flow and growth of one path, both proven: what every decider asks of its inputs. -/
structure PathContext (entry : EntryFact) (growth : VerifiedGrowthResult) (flow : VerifiedFlow)
    (candidate : GrowthCandidate) : Prop where
  entryMatches : flow.entryId = entry.entryId
  growthMatches : flow.growthId = growth.growthId
  premise : flow.satisfiesPremise = true
  verified : growth.status = .verified
  candidateKnown : growth.candidate = some candidate

theorem validate_context_ok (entry : EntryFact) (growth : VerifiedGrowthResult)
    (flow : VerifiedFlow) (candidate : GrowthCandidate) :
    validateContext entry growth flow = .ok candidate ↔
      PathContext entry growth flow candidate := by
  unfold validateContext
  constructor
  · intro accepted
    split at accepted
    · cases accepted
    · rename_i same
      have ids := not_or.mp same
      split at accepted
      · rename_i known
        split at accepted
        · rename_i proven
          cases accepted
          exact ⟨not_not.mp ids.1, not_not.mp ids.2, proven.1, proven.2, known⟩
        · cases accepted
      · cases accepted
  · intro context
    simp [context.entryMatches, context.growthMatches, context.premise, context.verified,
      context.candidateKnown]

def coverageStatuses : List String := ["complete", "partial", "unsupported"]

def flagged (condition : Bool) (reason : String) : List String :=
  if condition then [reason] else []

@[simp] theorem flagged_eq_nil (condition : Bool) (reason : String) :
    flagged condition reason = [] ↔ condition = false := by
  cases condition <;> simp [flagged]

@[simp] theorem mem_flagged (condition : Bool) (reason code : String) :
    code ∈ flagged condition reason ↔ condition = true ∧ code = reason := by
  cases condition <;> simp [flagged]

/-- The limit a literal denotes; a text that is no integer denotes none. -/
def literalLimit (value : String) : Int := (Text.parseInt maxIntegerDigits value).getD 0

/-- How a modeled configuration stands to the value a candidate was extracted with. -/
inductive LimitFinding where
  | effective
  | unknown
  | disabled
  | unbounded
  | mismatch
  deriving DecidableEq

def limitFinding (configuration : ModeledConfiguration) (key value : String) : LimitFinding :=
  if key = "literal" then
    if literalLimit value ≤ 0 then .unknown else .effective
  else
    match configuration.get key with
    | none => .unknown
    | some (.flag false) => .disabled
    | some (.flag true) => .unknown
    | some (.text text) =>
      if text = "disabled" then .disabled
      else if text = "unbounded" then .unbounded
      else .unknown
    | some (.number limit) =>
      if limit = 0 then .disabled
      else if limit < 0 then .unknown
      else if toString limit = value then .effective
      else .mismatch

/-- The configuration's findings as reasons of a family of candidates. -/
def limitReasons (family : String) (configuration : ModeledConfiguration) (key value : String) :
    List String :=
  match limitFinding configuration key value with
  | .effective => []
  | .unknown => [family ++ "_CONFIGURATION_UNKNOWN"]
  | .disabled => [family ++ "_DISABLED_CONFIGURATION"]
  | .unbounded => [family ++ "_UNBOUNDED_CONFIGURATION"]
  | .mismatch => [family ++ "_CONFIGURATION_MISMATCH"]

/-- The fact a configuration leaves unresolved: the key, or a name for a literal. -/
def limitUnresolved (literalFact : String) (configuration : ModeledConfiguration)
    (key value : String) : List String :=
  if limitFinding configuration key value = .unknown then
    if key = "literal" then [literalFact] else [key]
  else []

/-- Comparing a configured integer with a candidate's value needs the integer's text. -/
def limitPrintable (configuration : ModeledConfiguration) (key : String) : Bool :=
  key = "literal" ||
    match configuration.get key with
    | some (.number limit) => limit ≤ 0 || (Nat.toDigits 10 limit.natAbs).length ≤ maxIntegerDigits
    | _ => true

def digitLimitExceeded : Raised :=
  .valueError "Exceeds the limit (4300 digits) for integer string conversion"

/-- The failed checks of a candidate, named after its reasons. -/
def failedChecks (lead : String) (evidence reasons : List String) : List DecisionCheck :=
  reasons.map fun reason =>
    ⟨Text.lowerAscii (Text.removeLead reason lead), false, some reason, evidence⟩

structure GuardCandidate where
  guardId : String
  siteFile : String
  siteStartLine : Nat
  kind : String
  resourceDimension : String
  scope : String
  behavior : String
  dominatesGrowth : Bool
  rejectPathReachesGrowth : Bool
  configurationKey : String
  configurationValue : String
  representation : String
  phase : String
  coversMaterialization : Bool
  authorizationOnly : Bool
  evidence : List String
  coverageStatus : String
  deriving DecidableEq

inductive GuardStatus where
  | effective
  | ineffective
  | unknown
  deriving DecidableEq

structure GuardDecision where
  status : GuardStatus
  reasonCodes : List String
  checks : List DecisionCheck
  evidenceIds : List String
  unresolvedFacts : List String
  candidateIds : List String
  deriving DecidableEq

/-- The reasons for which a guard does not protect the growth; none where it does. -/
def guardReasons (growth : GrowthCandidate) (configuration : ModeledConfiguration)
    (candidate : GuardCandidate) : List String :=
  flagged (candidate.phase ≠ "before_growth" && candidate.phase ≠ "inside_growth")
      "GUARD_AFTER_MATERIALIZATION" ++
    flagged (!candidate.dominatesGrowth) "GUARD_DOES_NOT_DOMINATE_FLOW" ++
    flagged candidate.rejectPathReachesGrowth "GUARD_REJECT_PATH_REACHES_GROWTH" ++
    flagged (candidate.resourceDimension ≠ growth.resourceDimension.text)
      "GUARD_DIMENSION_MISMATCH" ++
    flagged (candidate.scope ≠ growth.escapeScope.text) "GUARD_SCOPE_MISMATCH" ++
    flagged (candidate.representation ≠ "raw_body" && candidate.representation ≠ "same" &&
      candidate.representation ≠ growth.fieldPath.1) "GUARD_REPRESENTATION_MISMATCH" ++
    flagged (candidate.behavior ≠ "reject" && candidate.behavior ≠ "block") "GUARD_FAIL_OPEN" ++
    flagged (!candidate.coversMaterialization)
      (if candidate.coverageStatus = "complete" then "GUARD_DOES_NOT_COVER_GROWTH"
        else "GUARD_COVERAGE_UNKNOWN") ++
    flagged candidate.authorizationOnly "GUARD_AUTHORIZATION_ONLY" ++
    limitReasons "GUARD" configuration candidate.configurationKey candidate.configurationValue ++
    flagged (candidate.coverageStatus ≠ "complete") "GUARD_COVERAGE_UNKNOWN"

def guardUnresolved (configuration : ModeledConfiguration) (candidate : GuardCandidate) :
    List String := limitUnresolved "literal_limit" configuration candidate.configurationKey
      candidate.configurationValue ++
    flagged (candidate.coverageStatus ≠ "complete") candidate.guardId

def guardChecks (growth : GrowthCandidate) (configuration : ModeledConfiguration)
    (candidate : GuardCandidate) : List DecisionCheck :=
  let reasons := guardReasons growth configuration candidate
  failedChecks "GUARD_" candidate.evidence reasons ++
    if reasons = [] then [⟨"guard_effective", true, none, candidate.evidence⟩] else []

/-- The decision over the candidates of a growth, in the order of their identifiers. -/
def decideGuard (growth : GrowthCandidate) (configuration : ModeledConfiguration)
    (ordered : List GuardCandidate) : GuardDecision :=
  let reasons := ordered.flatMap (guardReasons growth configuration)
  let effective := ordered.any fun candidate => guardReasons growth configuration candidate = []
  { status :=
      if effective then .effective
      else if reasons.any (Text.endsWith · "UNKNOWN") then .unknown
      else .ineffective
    reasonCodes := if effective then [] else sortedSet reasons
    checks := ordered.flatMap (guardChecks growth configuration)
    evidenceIds := sortedSet (ordered.flatMap GuardCandidate.evidence)
    unresolvedFacts := sortedSet (ordered.flatMap (guardUnresolved configuration))
    candidateIds := ordered.map GuardCandidate.guardId }

def evaluateGuard (entry : EntryFact) (growth : VerifiedGrowthResult) (flow : VerifiedFlow)
    (candidates : List GuardCandidate) (configuration : ModeledConfiguration)
    (coverageStatus : String) : Checked GuardDecision := do
  let growthCandidate ← validateContext entry growth flow
  require (coverageStatuses.contains coverageStatus)
    (lifecycleInvalid "Guard coverage status is invalid.")
  let ordered := candidates.insertionSort fun left right => left.guardId ≤ right.guardId
  if ordered = [] then
    if coverageStatus = "complete" then
      return ⟨.ineffective, ["GUARD_ABSENT"], [], [], [], []⟩
    else return ⟨.unknown, ["GUARD_COVERAGE_UNKNOWN"], [], [], ["guard_coverage"], []⟩
  else do
    require (ordered.all fun candidate =>
      limitPrintable configuration candidate.configurationKey) digitLimitExceeded
    return decideGuard growthCandidate configuration ordered

end DosWeb.Lifecycle
