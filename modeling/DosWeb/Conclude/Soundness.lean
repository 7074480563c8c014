import DosWeb.Conclude.Issuance

namespace DosWeb.Conclude

open Library Library.OrderedSet Identifiers
open Entries (EntryFact sample_entry_id sampleEntry samplePattern)
open Flows (VerifiedFlow FlowProof)
open Growth (VerifiedGrowthResult)
open Lifecycle

structure VulnerableGrounds (growth : VerifiedGrowthResult) (flows : List VerifiedFlow)
    (decisions : LifecycleDecisions) (assertions : List AssertionEvaluation)
    (coverage : CandidateCoverage) (external : ExternalDecisions)
    (proofGate : Option VerdictProofGate) : Prop where
  growthVerified : growth.status = .verified
  flowsProven : ∀ flow ∈ flows, flow.satisfiesPremise = true
  coverageComplete : coverage.forcesUnknown = false
  assertionsKnown : ∀ assertion ∈ assertions, assertion.status ≠ .unknown
  matched : ∃ flow ∈ flows, ∃ evaluation,
    RecomputedFor growth decisions external flow evaluation ∧ evaluation.status = .matched
  gatePasses : ∀ gate, proofGate = some gate → gate.Passes

section

variable (entry : EntryFact) (growth : VerifiedGrowthResult) (flows : List VerifiedFlow)
  (decisions : LifecycleDecisions) (assertions : List AssertionEvaluation)
  (coverage : CandidateCoverage) (verdict : StaticVerdict) (external : ExternalDecisions)
  (proofGate : Option VerdictProofGate)

theorem recomputed_matched_growth (flow : VerifiedFlow) (evaluation : AssertionEvaluation)
    (recomputed : RecomputedFor growth decisions external flow evaluation)
    (matched : evaluation.status = .matched) : growth.status = .verified := by
  rcases recomputed with first | second
  · obtain ⟨_, holds⟩ := (evaluate_assertion_1_ok _ _ _ _ _ _ _).mp first
    rw [holds.status] at matched
    exact (assertion_1_matched _ _ _ _ _ _ matched).1
  · obtain ⟨_, holds⟩ := (evaluate_assertion_2_ok _ _ _ _ _ _ _).mp second
    rw [holds.status] at matched
    exact (assertion_2_matched _ _ _ _ _ _ matched).1

variable (facts : CertificateFacts entry growth flows decisions assertions coverage verdict
  external proofGate)

include facts in
/-- A determinate verdict is the one the assertions derive, and the gate lets it through. -/
theorem determinate_grounds (determinate : verdict.verdict ≠ .staticUnknown) :
    verdictName assertions coverage = verdict.verdict ∧ hasUnknown assertions coverage = false ∧
      flows.all VerifiedFlow.satisfiesPremise = true ∧
      ∀ gate, proofGate = some gate → gate.Passes := by
  have gated : (gatedVerdict (derivedVerdict assertions coverage) proofGate).verdict ≠
      .staticUnknown := by
    rw [← facts.verdictDerived]
    exact determinate
  obtain ⟨same, passes⟩ := gated_verdict_determinate _ _ gated
  have named : verdictName assertions coverage = verdict.verdict := by
    rw [facts.verdictDerived, same]
    rfl
  refine ⟨named, ?_, ?_, passes⟩
  · cases known : verdict.verdict with
    | staticVulnerable => exact (vulnerable_assertions _ _ (named.trans known)).1
    | boundedUnderModeledAssumptions => exact (bounded_assertions _ _ (named.trans known)).1
    | staticUnknown => exact absurd known determinate
  · simpa [determinate] using facts.premise

include facts in
theorem vulnerable_grounds (vulnerable : verdict.verdict = .staticVulnerable) :
    VulnerableGrounds growth flows decisions assertions coverage external proofGate := by
  obtain ⟨named, known, premises, passes⟩ := determinate_grounds entry growth flows decisions
    assertions coverage verdict external proofGate facts (by simp [vulnerable])
  obtain ⟨assertionsKnown, complete⟩ := has_unknown_false _ _ known
  obtain ⟨_, assertion, member, matched⟩ := vulnerable_assertions _ _ (named.trans vulnerable)
  obtain ⟨expected, recomputed, same⟩ := facts.recomputed
  obtain ⟨flow, flowMember, own⟩ := (expected_assertion_mem growth decisions external flows
    expected recomputed assertion).mp (same.mem_iff.mp member)
  refine ⟨recomputed_matched_growth growth decisions external flow assertion own matched,
    List.all_eq_true.mp premises, ?_, assertionsKnown, ⟨flow, flowMember, assertion, own, matched⟩,
    passes⟩
  rw [Bool.eq_false_iff]
  exact fun forced => coverage.forces_unknown_iff.mp forced complete

/-- A certificate's verdict is vulnerable or bounded only on complete grounds; an unknown
assertion, an unproven flow or incomplete coverage makes it unknown. -/
theorem certificate_verdict_sound (certificate : LifecycleCertificate)
    (built : buildLifecycleCertificate entry growth flows decisions assertions coverage verdict
      external proofGate = .ok certificate) : (certificate.verdict = .staticVulnerable →
      VulnerableGrounds growth flows decisions assertions coverage external proofGate) ∧
    (certificate.verdict = .boundedUnderModeledAssumptions →
      ∀ assertion ∈ assertions, assertion.status ≠ .matched ∧ assertion.status ≠ .unknown) ∧
    ((∃ assertion ∈ assertions, assertion.status = .unknown) ∨
        (∃ flow ∈ flows, flow.satisfiesPremise = false) ∨ coverage.forcesUnknown = true →
      certificate.verdict = .staticUnknown) := by
  obtain ⟨facts, sameVerdict⟩ := build_sound _ _ _ _ _ _ _ _ _ _ built
  rw [sameVerdict]
  refine ⟨vulnerable_grounds entry growth flows decisions assertions coverage verdict external
    proofGate facts, ?_, ?_⟩
  · intro bounded assertion member
    obtain ⟨named, known, _⟩ := determinate_grounds entry growth flows decisions assertions
      coverage verdict external proofGate facts (by simp [bounded])
    exact ⟨(bounded_assertions _ _ (named.trans bounded)).2 assertion member,
      (has_unknown_false _ _ known).1 assertion member⟩
  · intro open_
    by_contra determinate
    obtain ⟨_, known, premises, _⟩ := determinate_grounds entry growth flows decisions assertions
      coverage verdict external proofGate facts determinate
    obtain ⟨assertionsKnown, complete⟩ := has_unknown_false _ _ known
    rcases open_ with ⟨assertion, member, unknown⟩ | ⟨flow, member, unproven⟩ | forced
    · exact assertionsKnown assertion member unknown
    · rw [List.all_eq_true.mp premises flow member] at unproven
      cases unproven
    · exact coverage.forces_unknown_iff.mp forced complete

end

def sampleGrowthResult : VerifiedGrowthResult where
  verifiedGrowthId := "verified_growth:cache"
  growthId := Growth.sampleCandidate.growthId
  sliceId := "slice:handler"
  status := .verified
  reasonCodes := []
  checks := [⟨"candidate_coverage", true, none⟩]
  candidate := some Growth.sampleCandidate
  idStarts := by decide
  growthIdStarts := Growth.sampleCandidate.growth_id_starts
  sliceIdStarts := by decide
  reasonsFilled := List.not_mem_nil
  verifiedUnreasoned := fun _ => rfl
  verifiedChecked := by simp
  verifiedPassed := by simp
  failureReasoned := by simp
  candidateMatches := by
    rintro _ ⟨rfl⟩
    rfl

def sampleFlowProof : FlowProof where
  pathId := "flow:8b83b4dabd7896cbf9c12786"
  entryId := sampleEntry.entryId
  growthId := sampleGrowthResult.growthId
  attackerControl := ⟨.key, ⟨"token", Entries.token_valid⟩, ⟨"token", Entries.token_valid⟩⟩
  callPath := ["Cache.put"]
  phaseSequence := ["in_handler"]
  confidence := .proven
  flowKind := ⟨"local_data_flow", by decide⟩
  coverageStatus := .complete
  coverageNote := ⟨"normalized", by decide⟩
  entryIdStarts := sampleEntry.entry_id_starts
  growthIdStarts := sampleGrowthResult.growthIdStarts
  callPathValid := by decide
  phaseSequenceValid := by decide
  provenComplete := by simp
  pathIdCanonical := by
    rw [identifier_codes]
    decide +kernel

theorem sample_growth_id : sampleGrowthResult.growthId = "growth:25879b9a334a6a4e946cf705" :=
  Growth.sample_candidate_named

def sampleFlow : VerifiedFlow where
  verifiedFlowId := "verified_flow:c66d3a881c5cf87fb03d91a3"
  pathId := sampleFlowProof.pathId
  entryId := sampleFlowProof.entryId
  growthId := sampleFlowProof.growthId
  status := .verified
  reasonCodes := []
  checks := [⟨"flow_semantics", true, none⟩]
  evidenceIds := [sampleFlowProof.pathId, sampleEntry.entryId]
  unresolvedFacts := []
  proof := sampleFlowProof
  pathMatches := rfl
  entryMatches := rfl
  growthMatches := rfl
  shape := ⟨by simp, fun _ => rfl, by simp, by simp⟩
  idCanonical := by
    rw [identifier_codes]
    decide +kernel

def sampleDecisions : LifecycleDecisions where
  guard := ⟨.ineffective, ["GUARD_ABSENT"], [], [], [], []⟩
  bound := ⟨.absent, ["BOUND_ABSENT"], [], [], [], []⟩
  release := ⟨.absent, .absent, ["RELEASE_ABSENT"], [], [], [], []⟩

def sampleExternal : ExternalDecisions where
  reachability := some ⟨some "ordinary_attacker_reachable", some "reachability:cache"⟩
  repeatability := some ⟨some "proven", some "repeatability:cache"⟩
  amplification := some ⟨some "proven", some "amplification:cache"⟩

theorem sample_pattern_filled : samplePattern ≠ "" := by decide

def sampleCoverage : CandidateCoverage where
  framework := "spring_mvc"
  status := .complete
  supportedPatterns := TextSet.single samplePattern sample_pattern_filled
  unsupportedPatterns := .empty
  effectOnVerdict := .noEffect
  registrationPatternId := some samplePattern
  entryId := some sampleEntry.entryId
  growthId := some sampleGrowthResult.growthId
  pathId := none
  effectMatches := rfl
  disjoint := fun _ _ => List.not_mem_nil
  supportedModeled := List.forall_mem_singleton.mpr sampleEntry.pattern_belongs
  completeWithoutGaps := fun _ => rfl
  incompleteWithGap := fun incomplete => absurd rfl incomplete
  referencesFilled := by
    have entry := Text.startsWith_nonempty _ _ (by decide) sampleEntry.entry_id_starts
    have growth := Text.startsWith_nonempty _ _ (by decide) sampleGrowthResult.growthIdStarts
    simp [entry, growth, samplePattern]
  registrationModeled := by
    rintro _ ⟨rfl⟩
    exact sampleEntry.pattern_belongs
  entryScoped := by simp
  siblingFree := by simp
  completeEntryScoped := by simp

def sampleGate : VerdictProofGate := ⟨true, true, true, true, true, true, true⟩

theorem sample_texts : PathTexts sampleFlow sampleDecisions := by
  have path := Text.startsWith_nonempty _ _ (by decide) sampleFlowProof.path_id_starts
  have entry := Text.startsWith_nonempty _ _ (by decide) sampleEntry.entry_id_starts
  exact ⟨List.not_mem_nil, by simp [sampleFlow, path.symm, entry.symm], List.not_mem_nil,
    by simp [sampleDecisions, GuardDecision.facts, BoundDecision.facts, ReleaseDecision.facts],
    by simp [sampleDecisions, GuardDecision.facts, BoundDecision.facts, ReleaseDecision.facts]⟩

theorem sample_evaluated : ∃ expected,
    expectedAssertions sampleGrowthResult sampleDecisions sampleExternal [sampleFlow] =
      .ok expected := by
  have total := evaluations_total sampleGrowthResult sampleFlow sampleDecisions sampleExternal rfl
    sample_texts
  apply expected_assertions_total
  · exact fun flow member => List.mem_singleton.mp member ▸ total.1
  · exact fun flow member => List.mem_singleton.mp member ▸ total.2

def sampleAssertions : List AssertionEvaluation := returned _ sample_evaluated

theorem sample_assertions_matched : ∀ evaluation ∈ sampleAssertions,
    evaluation.status = .matched ∧ evaluation.unresolvedFacts.values = [] := by
  intro evaluation member
  obtain ⟨flow, flowMember, own⟩ := (expected_assertion_mem _ _ _ _ _
    (returned_ok _ sample_evaluated) evaluation).mp member
  rw [List.mem_singleton] at flowMember
  subst flowMember
  rcases own with first | second
  · obtain ⟨_, holds⟩ := (evaluate_assertion_1_ok _ _ _ _ _ _ _).mp first
    exact ⟨holds.status, TextSet.collect_values _ _ holds.unresolvedFacts⟩
  · obtain ⟨_, holds⟩ := (evaluate_assertion_2_ok _ _ _ _ _ _ _).mp second
    exact ⟨holds.status, TextSet.collect_values _ _ holds.unresolvedFacts⟩

def sampleVerdict : StaticVerdict :=
  gatedVerdict (derivedVerdict sampleAssertions sampleCoverage) (some sampleGate)

theorem sample_facts : CertificateFacts sampleEntry sampleGrowthResult [sampleFlow]
    sampleDecisions sampleAssertions sampleCoverage sampleVerdict sampleExternal
    (some sampleGate) := by
  refine (conclusion_facts_iff sampleEntry sampleGrowthResult [sampleFlow] sampleDecisions
    sampleExternal sampleCoverage sampleGate sampleAssertions ?_ ?_
    (returned_ok _ sample_evaluated)).mpr ⟨?_, ?_⟩
  · have flowsMatch : flowsMatch sampleEntry sampleGrowthResult [sampleFlow] = true := by
      simp [flowsMatch, sampleFlow, sampleFlowProof]
    have coverageMatches :
        coverageMatches sampleEntry sampleGrowthResult sampleCoverage = true := by
      simp [coverageMatches, sampleCoverage, sampleEntry, Entries.Framework.text]
    refine ⟨by simp, flowsMatch, ⟨?_, ?_⟩, by simp [sampleGrowthResult], coverageMatches, rfl,
      fun _ => by simp [VerifiedFlow.satisfiesPremise, sampleFlow]⟩
    · intro flow member identifier cited leads
      rw [List.mem_singleton.mp member, sampleFlow, List.mem_pair] at cited
      rcases cited with rfl | rfl
      · rw [Text.startsWith_other _ _ _ sampleFlowProof.path_id_starts (by decide)] at leads
        cases leads
      · rfl
    · intro flow member identifier cited leads
      rw [List.mem_singleton.mp member, sampleFlow, List.mem_pair] at cited
      rcases cited with rfl | rfl
      · simp [certificatePaths, sampleFlow]
      · rw [Text.startsWith_other _ _ _ sampleEntry.entry_id_starts (by decide)] at leads
        cases leads
  · exact ⟨by simp [sampleDecisions], sample_texts.decisionUnresolved⟩
  · exact fun identifier cited => absurd cited (by simp [citedByDecisions, decisionFacts,
      sampleDecisions, GuardDecision.facts, BoundDecision.facts, ReleaseDecision.facts])
  · exact fun identifier cited => absurd cited (by simp [citedByDecisions, decisionFacts,
      sampleDecisions, GuardDecision.facts, BoundDecision.facts, ReleaseDecision.facts])

theorem sample_vulnerable : sampleVerdict.verdict = .staticVulnerable := by
  obtain ⟨first, member, _, _, _⟩ := expected_evaluations _ _ _ _ _
    (returned_ok _ sample_evaluated) sampleFlow (.head _)
  have unresolved : (unresolvedEvidence sampleAssertions).values = [] := by
    rw [List.eq_nil_iff_forall_not_mem]
    intro text present
    simp only [unresolvedEvidence, TextSet.mem_union, List.mem_map, applicable,
      exists_exists_and_eq_and] at present
    rcases present with ⟨evaluation, kept, present⟩
    rw [(sample_assertions_matched evaluation (List.mem_of_mem_filter kept)).2] at present
    cases present
  have known : hasUnknown sampleAssertions sampleCoverage = false := by
    simp only [hasUnknown, unresolved, sampleCoverage.relevant_gaps_nil_iff.mpr rfl]
    simp only [ne_eq, not_true_eq_false, decide_false, Bool.false_or, Bool.or_false,
      List.any_eq_false, decide_eq_true_eq]
    intro evaluation present unknown
    rw [(sample_assertions_matched evaluation present).1] at unknown
    cases unknown
  have found : hasMatch sampleAssertions = true :=
    List.any_eq_true.mpr ⟨first, member, by simp [(sample_assertions_matched first member).1]⟩
  have complete : sampleGate.missingReasonCodes.values = [] :=
    sampleGate.missing_nil_iff.mpr ⟨rfl, rfl, rfl, rfl, rfl, rfl, rfl⟩
  simp [sampleVerdict, gatedVerdict, applyPositiveProofGate, complete, derivedVerdict,
    verdictName, known, found]

def sampleCertificate : LifecycleCertificate :=
  returned _ (build_complete _ _ _ _ _ _ _ _ _ sample_facts)

theorem sample_certificate_built : buildLifecycleCertificate sampleEntry sampleGrowthResult
    [sampleFlow] sampleDecisions sampleAssertions sampleCoverage sampleVerdict sampleExternal
    (some sampleGate) = .ok sampleCertificate :=
  returned_ok _ (build_complete _ _ _ _ _ _ _ _ _ sample_facts)

theorem certificate_verdict_sound_sample : sampleCertificate.verdict = .staticVulnerable ∧
      VulnerableGrounds sampleGrowthResult [sampleFlow] sampleDecisions sampleAssertions
        sampleCoverage sampleExternal (some sampleGate) := by
  have vulnerable : sampleCertificate.verdict = .staticVulnerable :=
    (build_sound _ _ _ _ _ _ _ _ _ _ sample_certificate_built).2.trans sample_vulnerable
  exact ⟨vulnerable,
    (certificate_verdict_sound _ _ _ _ _ _ _ _ _ _ sample_certificate_built).1 vulnerable⟩

end DosWeb.Conclude
