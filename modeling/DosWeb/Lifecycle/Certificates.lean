import DosWeb.Conclude.Verdicts

namespace DosWeb.Lifecycle

open Library Library.OrderedSet Identifiers
open Entries (EntryFact)
open Flows (VerifiedFlow)
open Growth (GrowthCandidate VerifiedGrowthResult optionalText)
open Conclude

def GuardStatus.text : GuardStatus → String
  | .effective => "effective"
  | .ineffective => "ineffective"
  | .unknown => "unknown"

def BoundStatus.text : BoundStatus → String
  | .absent => "absent"
  | .scopeMismatched => "scope_mismatched"
  | .dimensionMismatched => "dimension_mismatched"
  | .possiblyOverBudget => "possibly_over_budget"
  | .effective => "effective"
  | .unknown => "unknown"

def ReleaseStatus.text : ReleaseStatus → String
  | .effective => "effective"
  | .ineffective => "ineffective"
  | .unknown => "unknown"
  | .absent => "absent"

def ReleaseClassification.text : ReleaseClassification → String
  | .synchronousEffective => "synchronous_effective"
  | .insufficientPathCoverage => "insufficient_path_coverage"
  | .receiverOrKeyMismatched => "receiver_or_key_mismatched"
  | .potentialAsync => "potential_async"
  | .notEffective => "not_effective"
  | .unknown => "unknown"
  | .absent => "absent"

def texts (values : List String) : PlainJson := .arr (values.map .str)

theorem texts_injective (left right : List String) (same : texts left = texts right) :
    left = right := List.map_injective_iff.mpr (fun _ _ => Library.JsonValue.Json.str.inj)
    (Library.JsonValue.Json.arr.inj same)

def DecisionCheck.toDict (check : DecisionCheck) : PlainJson :=
  .obj [("name", .str check.name), ("passed", .bool check.passed),
    ("reason_code", optionalText check.reasonCode), ("evidence_ids", texts check.evidenceIds)]

/-- The members of a decision's record that every family has. -/
def decisionMembers (status : String) (reasonCodes : List String) (checks : List DecisionCheck)
    (facts : DecisionFacts) : List (String × PlainJson) :=
  [("status", .str status), ("reason_codes", texts reasonCodes),
    ("checks", .arr (checks.map DecisionCheck.toDict)), ("evidence_ids", texts facts.evidenceIds),
    ("unresolved_facts", texts facts.unresolvedFacts), ("candidate_ids", texts facts.candidateIds)]

def GuardDecision.toDict (decision : GuardDecision) : PlainJson :=
  .obj (decisionMembers decision.status.text decision.reasonCodes decision.checks decision.facts)

def BoundDecision.toDict (decision : BoundDecision) : PlainJson :=
  .obj (decisionMembers decision.status.text decision.reasonCodes decision.checks decision.facts)

def ReleaseDecision.toDict (decision : ReleaseDecision) : PlainJson :=
  .obj (decisionMembers decision.status.text decision.reasonCodes decision.checks decision.facts ++
    [("classification", .str decision.classification.text)])

def assertionToDict (assertion : AssertionEvaluation) : PlainJson :=
  .obj [("assertion", .str assertion.assertion.text), ("status", .str assertion.status.text),
    ("reason_codes", texts assertion.reasonCodes.values),
    ("evidence_ids", texts assertion.evidenceIds.values),
    ("unresolved_facts", texts assertion.unresolvedFacts.values)]

def followUps (verdict : StaticVerdict) (release : ReleaseDecision) : List String :=
  [match verdict.verdict with
    | .staticVulnerable => "authorized_resource_growth_measurement"
    | .boundedUnderModeledAssumptions => "review_modeled_configuration_against_deployment"
    | .staticUnknown => "resolve_unresolved_static_facts"] ++
    flagged (release.classification = .potentialAsync)
      "trace_async_consumer_and_release_ownership" ++
    flagged (verdict.coverageGaps.values ≠ []) "complete_framework_registration_coverage"

theorem follow_ups_filled (verdict : StaticVerdict) (release : ReleaseDecision) :
    "" ∉ followUps verdict release := by
  cases named : verdict.verdict <;> simp [followUps, named]

structure LifecycleDecisions where
  guard : GuardDecision
  bound : BoundDecision
  release : ReleaseDecision
  deriving DecidableEq

/-- The decisions made elsewhere that the assertions consult. -/
structure ExternalDecisions where
  reachability : Option ExternalDecision := none
  repeatability : Option ExternalDecision := none
  amplification : Option ExternalDecision := none

def certificateIdentity (entryId growthId : String) (attackerInputs : List PlainJson)
    (resourcePoint : PlainJson) (pathIds : List String) (decisions : LifecycleDecisions)
    (assertions : List AssertionEvaluation) (verdict : StaticVerdictName)
    (reasonCodes assumptions coverageGaps unresolvedFacts followUpMeasurements : TextSet) :
    List (String × PlainJson) := [("entry_id", .str entryId), ("growth_id", .str growthId),
    ("attacker_inputs", .arr attackerInputs), ("resource_point", resourcePoint),
    ("path_ids", texts pathIds), ("guard_decision", decisions.guard.toDict),
    ("bound_decision", decisions.bound.toDict), ("release_decision", decisions.release.toDict),
    ("assertions", .arr (assertions.map assertionToDict)), ("verdict", .str verdict.text),
    ("reason_codes", texts reasonCodes.values), ("assumptions", texts assumptions.values),
    ("coverage_gaps", texts coverageGaps.values),
    ("unresolved_facts", texts unresolvedFacts.values),
    ("suggested_follow_up_measurements", texts followUpMeasurements.values)]

/-- Auditable conclusion over one entry-to-growth lifecycle. -/
structure LifecycleCertificate where
  certificateId : String
  entryId : String
  growthId : String
  attackerInputs : List PlainJson
  resourcePoint : PlainJson
  pathIds : List String
  decisions : LifecycleDecisions
  assertions : List AssertionEvaluation
  verdict : StaticVerdictName
  reasonCodes : TextSet
  assumptions : TextSet
  coverageGaps : TextSet
  unresolvedFacts : TextSet
  followUpMeasurements : TextSet
  entryIdStarts : Text.startsWith entryId "entry:" = true
  growthIdStarts : Text.startsWith growthId "growth:" = true
  pathsRequired : pathIds ≠ []
  pathsStart : ∀ pathId ∈ pathIds, Text.startsWith pathId "flow:" = true
  pathsOrdered : pathIds.Pairwise (· < ·)
  inputsRequired : attackerInputs ≠ []
  assertionsRequired : assertions ≠ []
  idCanonical : certificateId = stableIdentifier "certificate" (certificateIdentity entryId
    growthId attackerInputs resourcePoint pathIds decisions assertions verdict reasonCodes
    assumptions coverageGaps unresolvedFacts followUpMeasurements)

/-- Small certificate reference used by machine-readable findings. -/
structure StaticFinding where
  findingId : String
  certificateId : String
  entryId : String
  growthId : String
  verdict : StaticVerdictName
  reasonCodes : TextSet
  certificateIdStarts : Text.startsWith certificateId "certificate:" = true
  entryIdStarts : Text.startsWith entryId "entry:" = true
  growthIdStarts : Text.startsWith growthId "growth:" = true
  idCanonical : findingId = stableIdentifier "finding" [("certificate_id", .str certificateId)]

theorem LifecycleCertificate.certificate_id_starts (certificate : LifecycleCertificate) :
    Text.startsWith certificate.certificateId "certificate:" = true := by
  rw [certificate.idCanonical]
  exact stable_identifier_starts "certificate" _

def StaticFinding.fromCertificate (certificate : LifecycleCertificate) : StaticFinding where
  findingId := stableIdentifier "finding" [("certificate_id", .str certificate.certificateId)]
  certificateId := certificate.certificateId
  entryId := certificate.entryId
  growthId := certificate.growthId
  verdict := certificate.verdict
  reasonCodes := certificate.reasonCodes
  certificateIdStarts := certificate.certificate_id_starts
  entryIdStarts := certificate.entryIdStarts
  growthIdStarts := certificate.growthIdStarts
  idCanonical := rfl

def certificateInvalid (message : String) : Raised :=
  .analyzer ⟨"ANALYSIS_CERTIFICATE_INVALID", message, []⟩

/-- The texts of a field, or what the certificate's constructor raises for an empty one. -/
def certificateTexts (field : String) (values : List String) : Checked TextSet :=
  match TextSet.collect values with
  | some collected => .ok collected
  | none => .error (certificateInvalid (field ++ " is malformed."))

theorem certificate_texts_ok (field : String) (values : List String) (collected : TextSet) :
    certificateTexts field values = .ok collected ↔ TextSet.collect values = some collected := by
  unfold certificateTexts
  cases TextSet.collect values <;> simp

variable (entry : EntryFact) (growth : VerifiedGrowthResult) (flows : List VerifiedFlow)
  (decisions : LifecycleDecisions) (assertions : List AssertionEvaluation)
  (coverage : CandidateCoverage) (verdict : StaticVerdict) (external : ExternalDecisions)
  (proofGate : Option VerdictProofGate)

def expectedAssertions : List VerifiedFlow → Checked (List AssertionEvaluation)
  | [] => .ok []
  | flow :: rest => do
      let first ← evaluateAssertion1 growth flow decisions.guard decisions.bound
        external.amplification external.reachability
      let second ← evaluateAssertion2 growth flow decisions.bound decisions.release
        external.reachability external.repeatability
      let others ← expectedAssertions rest
      return first :: second :: others

def certificatePaths : List String := sortedSet (flows.map VerifiedFlow.pathId)

def flowsMatch : Bool :=
  flows.all fun flow => flow.entryId = entry.entryId && flow.growthId = growth.growthId

def coverageMatches : Bool := coverage.framework = entry.framework.text &&
    coverage.registrationPatternId = some entry.registrationPatternId &&
    coverage.entryId = some entry.entryId && coverage.growthId = some growth.growthId

def certificateReasons : List String := verdict.reasonCodes.values ++
    (assertions.flatMap fun assertion => assertion.reasonCodes.values) ++
    decisions.guard.reasonCodes ++ decisions.bound.reasonCodes ++ decisions.release.reasonCodes

def certificateUnresolved : List String := verdict.unresolvedFacts.values ++
    (assertions.flatMap fun assertion => assertion.unresolvedFacts.values) ++
    decisions.guard.unresolvedFacts ++ decisions.bound.unresolvedFacts ++
    decisions.release.unresolvedFacts

def issueCertificate (candidate : GrowthCandidate) (reasonCodes unresolvedFacts : TextSet)
    (flowsRequired : flows ≠ []) (assertionsRequired : assertions ≠ []) : LifecycleCertificate where
  certificateId := stableIdentifier "certificate" _
  entryId := entry.entryId
  growthId := growth.growthId
  attackerInputs := entry.attackerInputs.map Entries.AttackerInputFact.toDict
  resourcePoint := candidate.resourcePoint
  pathIds := certificatePaths flows
  decisions
  assertions
  verdict := verdict.verdict
  reasonCodes
  assumptions := verdict.assumptions
  coverageGaps := TextSet.union [verdict.coverageGaps, coverage.unsupportedPatterns]
  unresolvedFacts
  followUpMeasurements := ⟨sortedSet (followUps verdict decisions.release),
    sortedSet_increasing _, by simpa using follow_ups_filled verdict decisions.release⟩
  entryIdStarts := entry.entry_id_starts
  growthIdStarts := growth.growthIdStarts
  pathsRequired := by simpa [certificatePaths] using flowsRequired
  pathsStart := by
    intro pathId member
    rw [certificatePaths, mem_sortedSet, List.mem_map] at member
    rcases member with ⟨flow, _, rfl⟩
    rw [flow.pathMatches]
    exact flow.proof.path_id_starts
  pathsOrdered := sortedSet_increasing _
  inputsRequired := by simpa using entry.inputsRequired
  assertionsRequired
  idCanonical := rfl

def buildLifecycleCertificate : Checked LifecycleCertificate :=
  if noFlows : flows = [] then .error (certificateInvalid "Certificate flows are malformed.")
  else do
    require (flowsMatch entry growth flows)
      (certificateInvalid "Certificate paths must reference one entry and Growth.")
    require (flows.all VerifiedFlow.satisfiesPremise || verdict.verdict = .staticUnknown)
      (certificateInvalid "Incomplete paths require a static unknown certificate.")
    if noAssertions : assertions = [] then
      .error (certificateInvalid "Certificate assertions are malformed.")
    else do
      let expected ← expectedAssertions growth decisions external flows
      require (assertions.isPerm expected) (certificateInvalid
        "Certificate assertions do not match deterministic lifecycle evaluation.")
      match growth.candidate with
      | none => .error (certificateInvalid "Certificate requires a Growth resource point.")
      | some candidate => do
          require (coverageMatches entry growth coverage)
            (certificateInvalid "Coverage does not match certificate facts.")
          require (coverage.pathId.all (certificatePaths flows).contains)
            (certificateInvalid "Coverage path is absent from certificate paths.")
          let derived ← deriveVerdict assertions coverage
          require (verdict = gatedVerdict derived proofGate) (certificateInvalid
            "Supplied verdict does not match deterministic derivation.")
          require (!coverage.forcesUnknown || verdict.verdict = .staticUnknown) (certificateInvalid
            "Incomplete coverage must force a static unknown verdict.")
          require (verdict.coveredEntries.values = [entry.entryId]) (certificateInvalid
            "Verdict does not exactly cover certificate entry.")
          require (verdict.coveredPaths.values = certificatePaths flows) (certificateInvalid
            "Verdict does not exactly cover certificate paths.")
          require (verdict.evidenceIds = assertionEvidence assertions) (certificateInvalid
            "Verdict evidence does not match certificate assertions.")
          let reasonCodes ← certificateTexts "reason_codes"
            (certificateReasons decisions assertions verdict)
          let unresolvedFacts ← certificateTexts "unresolved_facts"
            (certificateUnresolved decisions assertions verdict)
          return issueCertificate entry growth flows decisions assertions coverage verdict
            candidate reasonCodes unresolvedFacts noFlows noAssertions

structure CertificateFacts : Prop where
  flowsRequired : flows ≠ []
  flowsMatch : flowsMatch entry growth flows = true
  premise : (flows.all VerifiedFlow.satisfiesPremise || verdict.verdict = .staticUnknown) = true
  assertionsRequired : assertions ≠ []
  recomputed : ∃ expected, expectedAssertions growth decisions external flows = .ok expected ∧
    assertions.Perm expected
  candidateKnown : growth.candidate ≠ none
  coverageMatches : coverageMatches entry growth coverage = true
  coveragePath : coverage.pathId.all (certificatePaths flows).contains = true
  scopesEvident : scopesEvident assertions coverage = true
  verdictDerived : verdict = gatedVerdict (derivedVerdict assertions coverage) proofGate
  coverageForces : coverage.forcesUnknown = true → verdict.verdict = .staticUnknown
  coveredEntries : verdict.coveredEntries.values = [entry.entryId]
  coveredPaths : verdict.coveredPaths.values = certificatePaths flows
  reasonsFilled : "" ∉ certificateReasons decisions assertions verdict
  unresolvedFilled : "" ∉ certificateUnresolved decisions assertions verdict

@[simp] theorem gated_evidence :
    (gatedVerdict verdict proofGate).evidenceIds = verdict.evidenceIds := by
  unfold gatedVerdict applyPositiveProofGate
  split
  · rfl
  · split <;> rfl

@[simp] theorem gated_entries :
    (gatedVerdict verdict proofGate).coveredEntries = verdict.coveredEntries := by
  unfold gatedVerdict applyPositiveProofGate
  split
  · rfl
  · split <;> rfl

@[simp] theorem gated_paths :
    (gatedVerdict verdict proofGate).coveredPaths = verdict.coveredPaths := by
  unfold gatedVerdict applyPositiveProofGate
  split
  · rfl
  · split <;> rfl

section

variable (certificate : LifecycleCertificate)
  (built : buildLifecycleCertificate entry growth flows decisions assertions coverage verdict
    external proofGate = .ok certificate)

include built

theorem build_issued : ∃ candidate reasonCodes unresolvedFacts flowsRequired assertionsRequired,
      certificate = issueCertificate entry growth flows decisions assertions coverage verdict
        candidate reasonCodes unresolvedFacts flowsRequired assertionsRequired := by
  unfold buildLifecycleCertificate at built
  split at built
  · cases built
  simp only [bind_ok] at built
  obtain ⟨_, _, _, _, built⟩ := built
  split at built
  · cases built
  simp only [bind_ok] at built
  obtain ⟨_, _, _, _, built⟩ := built
  split at built
  · cases built
  simp only [bind_ok, pure_ok] at built
  obtain ⟨_, _, _, _, _, _, _, _, _, _, _, _, _, _, _, _, _, _, _, _, same⟩ := built
  exact ⟨_, _, _, _, _, same.symm⟩

theorem build_sound :
    CertificateFacts entry growth flows decisions assertions coverage verdict external proofGate ∧
      certificate.verdict = verdict.verdict := by
  unfold buildLifecycleCertificate at built
  split at built
  · cases built
  rename_i flowsRequired
  simp only [bind_ok, require_ok] at built
  obtain ⟨_, flowsMatch, _, premise, built⟩ := built
  split at built
  · cases built
  rename_i assertionsRequired
  simp only [bind_ok, require_ok] at built
  obtain ⟨expected, recomputed, _, same, built⟩ := built
  split at built
  · cases built
  rename_i candidate known
  simp only [bind_ok, require_ok, derive_verdict_ok, certificate_texts_ok, decide_eq_true_eq,
    pure_ok] at built
  obtain ⟨_, matched, _, path, derived, ⟨_, evident, rfl⟩, _, sameVerdict, _, forced, _,
    covered, _, paths, _, _, reasons, reasonsCollected, unresolved, unresolvedCollected, rfl⟩ :=
    built
  refine ⟨⟨flowsRequired, flowsMatch, premise, assertionsRequired,
    ⟨expected, recomputed, List.isPerm_iff.mp same⟩, by simp [known], matched, path, evident,
    sameVerdict, ?_, covered, paths, TextSet.collect_filled _ _ reasonsCollected,
    TextSet.collect_filled _ _ unresolvedCollected⟩, rfl⟩
  intro forcing
  simpa [forcing] using forced

end

section

variable (facts : CertificateFacts entry growth flows decisions assertions coverage verdict external
    proofGate)

include facts

theorem build_exact (candidate : GrowthCandidate) (reasons unresolved : TextSet)
    (known : growth.candidate = some candidate)
    (reasonsCollected : TextSet.collect (certificateReasons decisions assertions verdict) = some
      reasons) (unresolvedCollected :
      TextSet.collect (certificateUnresolved decisions assertions verdict) = some unresolved) :
    buildLifecycleCertificate entry growth flows decisions assertions coverage verdict external
      proofGate = .ok (issueCertificate entry growth flows decisions assertions coverage verdict
        candidate reasons unresolved facts.flowsRequired facts.assertionsRequired) := by
  obtain ⟨expected, recomputed, same⟩ := facts.recomputed
  have evidence : verdict.evidenceIds = assertionEvidence assertions := by
    rw [facts.verdictDerived, gated_evidence]
    rfl
  have forces : (!coverage.forcesUnknown || verdict.verdict = .staticUnknown) = true := by
    cases forcing : coverage.forcesUnknown with
    | false => rfl
    | true => simp [facts.coverageForces forcing]
  unfold buildLifecycleCertificate
  rw [dif_neg facts.flowsRequired]
  simp only [bind_ok, require_ok]
  refine ⟨(), facts.flowsMatch, (), facts.premise, ?_⟩
  rw [dif_neg facts.assertionsRequired]
  simp only [bind_ok, require_ok]
  refine ⟨expected, recomputed, (), List.isPerm_iff.mpr same, ?_⟩
  split
  · rename_i absent
    rw [known] at absent
    cases absent
  · rename_i found present
    rw [known] at present
    cases present
    simp only [bind_ok, require_ok, derive_verdict_ok, certificate_texts_ok, decide_eq_true_eq,
      pure_ok]
    exact ⟨(), facts.coverageMatches, (), facts.coveragePath, _,
      ⟨facts.assertionsRequired, facts.scopesEvident, rfl⟩, (), facts.verdictDerived, (), forces,
      (), facts.coveredEntries, (), facts.coveredPaths, (), evidence, _, reasonsCollected, _,
      unresolvedCollected, rfl⟩

theorem build_complete :
    ∃ certificate, buildLifecycleCertificate entry growth flows decisions assertions coverage
      verdict external proofGate = .ok certificate := by
  obtain ⟨candidate, known⟩ := Option.ne_none_iff_exists'.mp facts.candidateKnown
  obtain ⟨reasons, reasonsCollected, _⟩ := TextSet.collect_of_filled _ facts.reasonsFilled
  obtain ⟨unresolved, unresolvedCollected, _⟩ := TextSet.collect_of_filled _ facts.unresolvedFilled
  exact ⟨_, build_exact entry growth flows decisions assertions coverage verdict external proofGate
    facts candidate reasons unresolved known reasonsCollected unresolvedCollected⟩

end

end DosWeb.Lifecycle
