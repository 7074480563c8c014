import DosWeb.Conclude.Assertions

namespace DosWeb.Conclude

open Library Library.OrderedSet
open Entries (CoverageStatus FrameworkCoverage VerdictEffect)
open Entries.Coverage
open Lifecycle (flagged)

inductive StaticVerdictName where
  | staticVulnerable
  | boundedUnderModeledAssumptions
  | staticUnknown
  deriving DecidableEq

def StaticVerdictName.text : StaticVerdictName → String
  | .staticVulnerable => "static_vulnerable"
  | .boundedUnderModeledAssumptions => "bounded_under_modeled_assumptions"
  | .staticUnknown => "static_unknown"

/-- Proof obligations required for vulnerable or modeled-bounded output. -/
structure VerdictProofGate where
  entryComplete : Bool
  ordinaryReachability : Bool
  growthVerified : Bool
  flowProven : Bool
  assertion1LifecycleComplete : Bool
  assertion2LifecycleComplete : Bool
  candidateRelevantGapFree : Bool
  deriving DecidableEq

namespace VerdictProofGate

def missingReasons (gate : VerdictProofGate) : List String :=
  flagged (!gate.entryComplete) "VERDICT_ENTRY_COVERAGE_INCOMPLETE" ++
    flagged (!gate.ordinaryReachability) "VERDICT_REACHABILITY_NOT_PROVEN" ++
    flagged (!gate.growthVerified) "VERDICT_GROWTH_NOT_VERIFIED" ++
    flagged (!gate.flowProven) "VERDICT_FLOW_NOT_PROVEN" ++
    flagged (!gate.assertion1LifecycleComplete)
      "VERDICT_ASSERTION_1_LIFECYCLE_COVERAGE_INCOMPLETE" ++
    flagged (!gate.assertion2LifecycleComplete)
      "VERDICT_ASSERTION_2_LIFECYCLE_COVERAGE_INCOMPLETE" ++
    flagged (!gate.candidateRelevantGapFree) "VERDICT_CANDIDATE_RELEVANT_GAP"

def missingReasonCodes (gate : VerdictProofGate) : TextSet where
  values := sortedSet gate.missingReasons
  ordered := sortedSet_increasing _
  filled := by simp [missingReasons]

structure Passes (gate : VerdictProofGate) : Prop where
  entryComplete : gate.entryComplete = true
  ordinaryReachability : gate.ordinaryReachability = true
  growthVerified : gate.growthVerified = true
  flowProven : gate.flowProven = true
  assertion1LifecycleComplete : gate.assertion1LifecycleComplete = true
  assertion2LifecycleComplete : gate.assertion2LifecycleComplete = true
  candidateRelevantGapFree : gate.candidateRelevantGapFree = true

theorem missing_nil_iff (gate : VerdictProofGate) :
    gate.missingReasonCodes.values = [] ↔ gate.Passes := by
  simp only [missingReasonCodes, missingReasons, sortedSet_eq_nil, List.append_eq_nil_iff,
    Lifecycle.flagged_eq_nil, Bool.not_eq_false']
  constructor
  · rintro ⟨⟨⟨⟨⟨⟨entry, reach⟩, growth⟩, flow⟩, first⟩, second⟩, gap⟩
    exact ⟨entry, reach, growth, flow, first, second, gap⟩
  · rintro ⟨entry, reach, growth, flow, first, second, gap⟩
    exact ⟨⟨⟨⟨⟨⟨entry, reach⟩, growth⟩, flow⟩, first⟩, second⟩, gap⟩

end VerdictProofGate

/-- Coverage for a candidate, optionally narrowed to identifiers of facts. -/
structure CandidateCoverage where
  framework : String
  status : CoverageStatus
  supportedPatterns : TextSet
  unsupportedPatterns : TextSet
  effectOnVerdict : VerdictEffect
  registrationPatternId : Option String
  entryId : Option String
  growthId : Option String
  pathId : Option String
  effectMatches : effectOnVerdict = status.effect
  disjoint : ∀ pattern ∈ supportedPatterns.values, pattern ∉ unsupportedPatterns.values
  supportedModeled : ∀ pattern ∈ supportedPatterns.values,
    registrationCoveragePatternBelongsToFramework framework pattern = true
  completeWithoutGaps : status = .complete → unsupportedPatterns.values = []
  incompleteWithGap : status ≠ .complete → unsupportedPatterns.values ≠ []
  referencesFilled : ∀ reference ∈ [registrationPatternId, entryId, growthId, pathId],
    reference ≠ some ""
  registrationModeled : ∀ pattern, registrationPatternId = some pattern →
    registrationCoveragePatternBelongsToFramework framework pattern = true
  entryScoped : entryId ≠ none → registrationPatternId ≠ none
  siblingFree : ∀ registration, registrationPatternId = some registration →
    ∀ pattern ∈ supportedPatterns.values, pattern = registration
  completeEntryScoped : status = .complete → entryId ≠ none →
    registrationPatternId.map (fun pattern => [pattern]) = some supportedPatterns.values

namespace CandidateCoverage

def forcesUnknown (coverage : CandidateCoverage) : Bool := coverage.effectOnVerdict = .forcesUnknown

def scopes (coverage : CandidateCoverage) : List String :=
  coverage.entryId.toList ++ coverage.growthId.toList ++ coverage.pathId.toList

def relevantGaps (coverage : CandidateCoverage) : TextSet :=
  if coverage.status = .complete then .empty else coverage.unsupportedPatterns

theorem forces_unknown_iff (coverage : CandidateCoverage) :
    coverage.forcesUnknown = true ↔ coverage.status ≠ .complete := by
  simp [forcesUnknown, coverage.effectMatches, CoverageStatus.effect]

theorem relevant_gaps_nil_iff (coverage : CandidateCoverage) :
    coverage.relevantGaps.values = [] ↔ coverage.status = .complete := by
  unfold relevantGaps
  split
  · simpa
  · rename_i incomplete
    simp [incomplete, coverage.incompleteWithGap incomplete]

def invalid (message : String) : Raised := .analyzer ⟨"COVERAGE_ENTRY_INVALID", message, []⟩

/-- Builds a coverage whose effect is the one of its status, through the constructor's checks. -/
def create (framework : String) (status : CoverageStatus)
    (supportedPatterns unsupportedPatterns : TextSet)
    (registrationPatternId entryId growthId pathId : Option String) : Checked CandidateCoverage :=
  if disjoint : ∀ pattern ∈ supportedPatterns.values, pattern ∉ unsupportedPatterns.values then
    if supportedModeled : ∀ pattern ∈ supportedPatterns.values,
        registrationCoveragePatternBelongsToFramework framework pattern = true then
      if completeWithoutGaps : status = .complete → unsupportedPatterns.values = [] then
        if incompleteWithGap : status ≠ .complete → unsupportedPatterns.values ≠ [] then
          if referencesFilled : ∀ reference ∈ [registrationPatternId, entryId, growthId, pathId],
              reference ≠ some "" then
            if registrationModeled : registrationPatternId.all
                (registrationCoveragePatternBelongsToFramework framework) = true then
              if entryScoped : entryId ≠ none → registrationPatternId ≠ none then
                if siblingFree : registrationPatternId.all
                    (fun registration => supportedPatterns.values.all (· = registration)) = true then
                  if completeEntryScoped : status = .complete → entryId ≠ none →
                      registrationPatternId.map (fun pattern => [pattern]) =
                        some supportedPatterns.values then
                    .ok {
                      framework, status, supportedPatterns, unsupportedPatterns
                      effectOnVerdict := status.effect
                      registrationPatternId, entryId, growthId, pathId
                      effectMatches := status.effect_own
                      disjoint, supportedModeled, completeWithoutGaps, incompleteWithGap
                      referencesFilled
                      registrationModeled := by
                        rintro pattern rfl
                        simpa using registrationModeled
                      entryScoped
                      siblingFree := by
                        rintro registration rfl
                        simpa using siblingFree
                      completeEntryScoped }
                  else .error (invalid
                    "Complete entry-scoped coverage requires exactly its registration pattern identity.")
                else .error (invalid
                  "Candidate coverage cannot cite a sibling registration pattern.")
              else .error (invalid
                "Entry-scoped candidate coverage requires an exact registration pattern identity.")
            else .error (invalid
              "Candidate registration pattern identity is not modeled for its framework.")
          else .error (invalid
            ((([("registration_pattern_id", registrationPatternId), ("entry_id", entryId),
              ("growth_id", growthId), ("path_id", pathId)].find? fun field =>
                field.2 = some "").map Prod.fst).getD "" ++ " is invalid."))
        else .error (invalid "Incomplete candidate coverage requires a gap.")
      else .error (invalid "Complete candidate coverage cannot contain gaps.")
    else .error (invalid
      "Supported candidate patterns must be exact modeled identities for their framework.")
  else .error (invalid "Supported and unsupported candidate patterns must be disjoint.")

/-- The gap of a registration pattern that the framework's coverage does not list. -/
def uncoveredPattern (registrationPatternId : String) : TextSet :=
  TextSet.single ("entry_registration_pattern_uncovered:" ++ registrationPatternId)
    (by simp [String.append_eq_empty_iff])

def fromFramework (coverage : FrameworkCoverage)
    (registrationPatternId entryId growthId pathId : Option String) : Checked CandidateCoverage :=
  match registrationPatternId with
  | none => create coverage.framework.text coverage.status coverage.supportedPatterns
      coverage.unsupportedPatterns none entryId growthId pathId
  | some pattern =>
    if supported : pattern ∈ coverage.supportedPatterns.values then
      create coverage.framework.text .complete
        (TextSet.single pattern fun empty => coverage.supportedPatterns.filled (empty ▸ supported))
        .empty (some pattern) entryId growthId pathId
    else create coverage.framework.text .partialCoverage .empty (uncoveredPattern pattern)
      (some pattern) entryId growthId pathId

end CandidateCoverage

structure StaticVerdict where
  verdict : StaticVerdictName
  reasonCodes : TextSet
  evidenceIds : TextSet
  unresolvedFacts : TextSet
  assumptions : TextSet
  modeledConfigurationRefs : TextSet
  coveredEntries : TextSet
  coveredPaths : TextSet
  coverageGaps : TextSet
  deriving DecidableEq

def verdictInvalid (message : String) : Raised :=
  .analyzer ⟨"ANALYSIS_VERDICT_INVALID", message, []⟩

section

variable (assertions : List AssertionEvaluation) (coverage : CandidateCoverage)

def assertionEvidence : TextSet := TextSet.union (assertions.map AssertionEvaluation.evidenceIds)

def applicable : List AssertionEvaluation :=
  assertions.filter fun assertion => assertion.status ≠ .notApplicable

/-- The unresolved facts of the applicable assertions. -/
def unresolvedEvidence : TextSet :=
  TextSet.union ((applicable assertions).map AssertionEvaluation.unresolvedFacts)

def hasUnknown : Bool := (unresolvedEvidence assertions).values ≠ [] ||
    (assertions.any fun assertion => assertion.status = .unknown) ||
    coverage.relevantGaps.values ≠ []

def hasMatch : Bool := assertions.any fun assertion => assertion.status = .matched

def allRefuted : Bool := applicable assertions ≠ [] &&
    (applicable assertions).all fun assertion => assertion.status = .refuted

def verdictName : StaticVerdictName :=
  if hasUnknown assertions coverage then .staticUnknown
  else if hasMatch assertions then .staticVulnerable
  else if allRefuted assertions then .boundedUnderModeledAssumptions
  else .staticUnknown

def verdictReason : { reason : String // reason ≠ "" } :=
  if hasUnknown assertions coverage then
    if (unresolvedEvidence assertions).values ≠ [] then
      ⟨"VERDICT_UNRESOLVED_EVIDENCE", by decide⟩
    else if coverage.relevantGaps.values ≠ [] then ⟨"VERDICT_COVERAGE_GAP", by decide⟩
    else ⟨"VERDICT_ASSERTION_UNKNOWN", by decide⟩
  else if hasMatch assertions then ⟨"VERDICT_ASSERTION_MATCHED", by decide⟩
  else if allRefuted assertions then ⟨"VERDICT_ASSERTIONS_REFUTED", by decide⟩
  else ⟨"VERDICT_NO_APPLICABLE_ASSERTION", by decide⟩

def modeledAssumptions : TextSet :=
  ⟨["MODELED_DEFAULT_CONFIGURATION", "STATIC_EVIDENCE_COVERAGE_COMPLETE"], by decide, by decide⟩

def isDecisionReference (identifier : String) : Bool :=
  Text.startsWith identifier "guard:" || Text.startsWith identifier "bound:" ||
    Text.startsWith identifier "release:"

/-- The verdict over assertions that the coverage fits. -/
def derivedVerdict : StaticVerdict :=
  let evidence := assertionEvidence assertions
  let bounded := verdictName assertions coverage = .boundedUnderModeledAssumptions
  let reason := verdictReason assertions coverage
  { verdict := verdictName assertions coverage
    reasonCodes := TextSet.union (TextSet.single reason.1 reason.2 ::
      assertions.map AssertionEvaluation.reasonCodes)
    evidenceIds := evidence
    unresolvedFacts := unresolvedEvidence assertions
    assumptions := if bounded then modeledAssumptions else .empty
    modeledConfigurationRefs := if bounded then evidence.filter isDecisionReference else .empty
    coveredEntries := evidence.filter (Text.startsWith · "entry:")
    coveredPaths := evidence.filter (Text.startsWith · "flow:")
    coverageGaps := coverage.relevantGaps }

/-- Every identifier the coverage is narrowed to is evidence of an assertion. -/
def scopesEvident : Bool :=
  coverage.scopes.all fun identifier =>
    assertions.any fun assertion => assertion.evidenceIds.values.contains identifier

def deriveVerdict : Checked StaticVerdict := do
  require (assertions ≠ []) (verdictInvalid "Verdict inputs are malformed.")
  require (scopesEvident assertions coverage)
    (verdictInvalid "Candidate coverage does not match assertion evidence.")
  return derivedVerdict assertions coverage

end

/-- Fails closed to unknown when any required proof obligation is missing. -/
def applyPositiveProofGate (verdict : StaticVerdict) (gate : VerdictProofGate) : StaticVerdict :=
  if gate.missingReasonCodes.values = [] then verdict
  else { verdict with
    verdict := .staticUnknown
    reasonCodes := TextSet.union [verdict.reasonCodes, gate.missingReasonCodes]
    assumptions :=
      if verdict.verdict = .boundedUnderModeledAssumptions then
        verdict.assumptions.filter (· ≠ "STATIC_EVIDENCE_COVERAGE_COMPLETE")
      else verdict.assumptions }

/-- The verdict of a conclusion, gated where a gate is supplied. -/
def gatedVerdict (verdict : StaticVerdict) : Option VerdictProofGate → StaticVerdict
  | none => verdict
  | some gate => applyPositiveProofGate verdict gate

variable (assertions : List AssertionEvaluation)

section

variable (coverage : CandidateCoverage)

theorem derive_verdict_ok (verdict : StaticVerdict) :
    deriveVerdict assertions coverage = .ok verdict ↔
      assertions ≠ [] ∧ scopesEvident assertions coverage = true ∧
        verdict = derivedVerdict assertions coverage := by
  unfold deriveVerdict
  simp only [bind_ok, require_ok, decide_eq_true_eq, pure_ok]
  constructor
  · intro derived
    obtain ⟨_, some_, _, evident, same⟩ := derived
    exact ⟨some_, evident, same.symm⟩
  · intro derived
    obtain ⟨some_, evident, same⟩ := derived
    exact ⟨(), some_, (), evident, same.symm⟩

theorem has_unknown_false (known : hasUnknown assertions coverage = false) :
    (∀ assertion ∈ assertions, assertion.status ≠ .unknown) ∧ coverage.status = .complete := by
  simp only [hasUnknown, Bool.or_eq_false_iff, List.any_eq_false, decide_eq_true_eq,
    decide_eq_false_iff_not, not_not] at known
  exact ⟨known.1.2, coverage.relevant_gaps_nil_iff.mp known.2⟩

theorem vulnerable_assertions (vulnerable : verdictName assertions coverage = .staticVulnerable) :
    hasUnknown assertions coverage = false ∧
      ∃ assertion ∈ assertions, assertion.status = .matched := by
  unfold verdictName at vulnerable
  split at vulnerable
  · cases vulnerable
  · rename_i known
    split at vulnerable
    · rename_i found
      exact ⟨by simpa using known, by simpa [hasMatch] using found⟩
    · split at vulnerable <;> cases vulnerable

theorem bounded_assertions
    (bounded : verdictName assertions coverage = .boundedUnderModeledAssumptions) :
    hasUnknown assertions coverage = false ∧
      ∀ assertion ∈ assertions, assertion.status ≠ .matched := by
  unfold verdictName at bounded
  split at bounded
  · cases bounded
  · rename_i known
    split at bounded
    · cases bounded
    · rename_i unmatched
      exact ⟨by simpa using known, by simpa [hasMatch] using unmatched⟩

end

theorem gated_verdict_determinate (verdict : StaticVerdict) (gate : Option VerdictProofGate)
    (determinate : (gatedVerdict verdict gate).verdict ≠ .staticUnknown) :
    gatedVerdict verdict gate = verdict ∧ ∀ supplied, gate = some supplied → supplied.Passes := by
  cases gate with
  | none => exact ⟨rfl, fun supplied same => by cases same⟩
  | some supplied =>
    simp only [gatedVerdict, applyPositiveProofGate] at determinate ⊢
    split at determinate
    · rename_i complete
      refine ⟨by simp [complete], ?_⟩
      rintro _ ⟨rfl⟩
      exact supplied.missing_nil_iff.mp complete
    · exact absurd rfl determinate

end DosWeb.Conclude
