import DosWeb.Conclude.Algebra
import DosWeb.Conclude.Soundness

/-!
The certificate of flows and assertions that come in another order.
-/

namespace DosWeb.Lifecycle

open Library.JsonValue Library.OrderedSet Identifiers
open Entries (EntryFact sampleEntry sample_entry_id)
open Flows (VerifiedFlow)
open Growth (VerifiedGrowthResult)
open Conclude

/-- The record that the identifier of a certificate is computed from. -/
def LifecycleCertificate.semantic (certificate : LifecycleCertificate) : Members Empty :=
  certificateIdentity certificate.entryId certificate.growthId certificate.attackerInputs
    certificate.resourcePoint certificate.pathIds certificate.decisions certificate.assertions
    certificate.verdict certificate.reasonCodes certificate.assumptions certificate.coverageGaps
    certificate.unresolvedFacts certificate.followUpMeasurements

theorem assertion_injective : Function.Injective assertionToDict := by
  intro left right same
  simp only [assertionToDict, Json.obj.injEq, List.cons.injEq, Prod.mk.injEq, Json.str.injEq,
    true_and, and_true] at same
  obtain ⟨name, status, reasons, evidence, facts⟩ := same
  have equal : left.assertion = right.assertion := by
    cases one : left.assertion <;> cases other : right.assertion <;>
      first | rfl | simp [one, other, AssertionName.text] at name
  have equal' : left.status = right.status := by
    cases one : left.status <;> cases other : right.status <;>
      first | rfl | simp [one, other, AssertionStatus.text] at status
  have reasons' := TextSet.ext_values _ _ (texts_injective _ _ reasons)
  have evidence' := TextSet.ext_values _ _ (texts_injective _ _ evidence)
  have facts' := TextSet.ext_values _ _ (texts_injective _ _ facts)
  cases left
  cases right
  simp_all

theorem semantic_assertions (left right : LifecycleCertificate)
    (same : left.semantic = right.semantic) : left.assertions = right.assertions := by
  have listed := congrArg (fun record => record.lookup "assertions") same
  simp [LifecycleCertificate.semantic, certificateIdentity, List.lookup_cons] at listed
  exact List.map_injective_iff.mpr assertion_injective listed

section

variable {entry : EntryFact} {growth : VerifiedGrowthResult} {flows flows' : List VerifiedFlow}
  {decisions : LifecycleDecisions} {assertions assertions' : List AssertionEvaluation}
  {coverage : CandidateCoverage} {verdict : StaticVerdict} {external : ExternalDecisions}
  {proofGate : Option VerdictProofGate}

theorem expected_permuted (expected : List AssertionEvaluation) (permuted : flows'.Perm flows)
    (recomputed : expectedAssertions growth decisions external flows = .ok expected) :
    ∃ expected', expectedAssertions growth decisions external flows' = .ok expected' ∧
      expected'.Perm expected := by
  replace permuted := permuted.symm
  induction permuted generalizing expected with
  | nil => exact ⟨expected, recomputed, List.Perm.refl _⟩
  | cons flow rest ih =>
    simp only [expectedAssertions, bind_ok, pure_ok] at recomputed ⊢
    obtain ⟨first, firstOk, second, secondOk, others, othersOk, rfl⟩ := recomputed
    obtain ⟨others', othersOk', same⟩ := ih others othersOk
    exact ⟨_, ⟨first, firstOk, second, secondOk, others', othersOk', rfl⟩,
      (same.cons second).cons first⟩
  | swap flow flow' rest =>
    simp only [expectedAssertions, bind_ok, pure_ok] at recomputed ⊢
    obtain ⟨one, oneOk, two, twoOk, _, ⟨three, threeOk, four, fourOk, others, othersOk, rfl⟩,
      rfl⟩ := recomputed
    refine ⟨_, ⟨three, threeOk, four, fourOk, _, ⟨one, oneOk, two, twoOk, others, othersOk, rfl⟩,
      rfl⟩, ?_⟩
    exact List.perm_append_comm_assoc [three, four] [one, two] others
  | trans first second ih ih' =>
    obtain ⟨between, betweenOk, same⟩ := ih expected recomputed
    obtain ⟨expected', ok, same'⟩ := ih' between betweenOk
    exact ⟨expected', ok, same'.trans same⟩

theorem paths_permuted (permuted : flows'.Perm flows) :
    certificatePaths flows' = certificatePaths flows := by
  apply sortedSet_congr
  intro path
  exact (permuted.map VerifiedFlow.pathId).mem_iff

theorem all_permuted (permuted : flows'.Perm flows) (test : VerifiedFlow → Bool) :
    flows'.all test = flows.all test := by
  rw [Bool.eq_iff_iff, List.all_eq_true, List.all_eq_true]
  simp only [permuted.mem_iff]

theorem reasons_permuted (permuted : assertions'.Perm assertions) (text : String) :
    text ∈ certificateReasons decisions assertions' verdict ↔
      text ∈ certificateReasons decisions assertions verdict := by
  simp only [certificateReasons, List.mem_append, List.mem_flatMap, permuted.mem_iff]

theorem unresolved_permuted (permuted : assertions'.Perm assertions) (text : String) :
    text ∈ certificateUnresolved decisions assertions' verdict ↔
      text ∈ certificateUnresolved decisions assertions verdict := by
  simp only [certificateUnresolved, List.mem_append, List.mem_flatMap, permuted.mem_iff]

theorem facts_permuted (flowsPermuted : flows'.Perm flows)
    (assertionsPermuted : assertions'.Perm assertions)
    (facts : CertificateFacts entry growth flows decisions assertions coverage verdict external
      proofGate) :
    CertificateFacts entry growth flows' decisions assertions' coverage verdict external
      proofGate := by
  have same : SameAssertions assertions assertions' := fun _ => assertionsPermuted.mem_iff
  have paths := paths_permuted flowsPermuted
  constructor
  · exact fun empty => facts.flowsRequired ((empty ▸ flowsPermuted).symm.eq_nil)
  · rw [flowsMatch, all_permuted flowsPermuted]
    exact facts.flowsMatch
  · rw [all_permuted flowsPermuted]
    exact facts.premise
  · exact fun empty => facts.assertionsRequired ((empty_same same).mp empty)
  · obtain ⟨expected, recomputed, listed⟩ := facts.recomputed
    obtain ⟨expected', recomputed', permuted⟩ := expected_permuted expected flowsPermuted recomputed
    exact ⟨expected', recomputed', (assertionsPermuted.trans listed).trans permuted.symm⟩
  · exact facts.candidateKnown
  · exact facts.coverageMatches
  · rw [paths]
    exact facts.coveragePath
  · have evident := facts.scopesEvident
    rwa [← scopes_same coverage same] at evident
  · rw [derived_same coverage same]
    exact facts.verdictDerived
  · exact facts.coverageForces
  · exact facts.coveredEntries
  · rw [paths]
    exact facts.coveredPaths
  · rw [reasons_permuted assertionsPermuted]
    exact facts.reasonsFilled
  · rw [unresolved_permuted assertionsPermuted]
    exact facts.unresolvedFilled

theorem collect_congr (left right : List String) (same : ∀ text, text ∈ left ↔ text ∈ right) :
    TextSet.collect left = TextSet.collect right := by
  unfold TextSet.collect
  simp only [same, sortedSet_congr left right same]

/-- The certificates of both orders differ in their assertions and what is computed from them. -/
theorem certificates_permuted (flowsPermuted : flows'.Perm flows)
    (assertionsPermuted : assertions'.Perm assertions) (certificate : LifecycleCertificate)
    (built : buildLifecycleCertificate entry growth flows decisions assertions coverage verdict
      external proofGate = .ok certificate) :
    ∃ certificate', buildLifecycleCertificate entry growth flows' decisions assertions' coverage
        verdict external proofGate = .ok certificate' ∧ certificate.assertions = assertions ∧
      certificate'.assertions = assertions' ∧
        (assertions' = assertions → certificate' = certificate) := by
  have facts := (build_sound _ _ _ _ _ _ _ _ _ _ built).1
  have facts' := facts_permuted flowsPermuted assertionsPermuted facts
  obtain ⟨candidate, known⟩ := Option.ne_none_iff_exists'.mp facts.candidateKnown
  obtain ⟨reasons, reasonsCollected, -⟩ := TextSet.collect_of_filled _ facts.reasonsFilled
  obtain ⟨unresolved, unresolvedCollected, -⟩ := TextSet.collect_of_filled _ facts.unresolvedFilled
  have reasonsCollected' := reasonsCollected
  have unresolvedCollected' := unresolvedCollected
  rw [← collect_congr _ _ (reasons_permuted assertionsPermuted)] at reasonsCollected'
  rw [← collect_congr _ _ (unresolved_permuted assertionsPermuted)] at unresolvedCollected'
  have exact_ := build_exact _ _ _ _ _ _ _ _ _ facts candidate reasons unresolved known
    reasonsCollected unresolvedCollected
  rw [built, Except.ok.injEq] at exact_
  subst exact_
  refine ⟨_, build_exact _ _ _ _ _ _ _ _ _ facts' candidate reasons unresolved known
    reasonsCollected' unresolvedCollected', rfl, rfl, ?_⟩
  rintro rfl
  simp only [issueCertificate, paths_permuted flowsPermuted]

/-- Flows and assertions are accepted in any order, but the certificate keeps its identifier exactly
if the assertions keep their order. -/
theorem certificate_order_iff (flowsPermuted : flows'.Perm flows)
    (assertionsPermuted : assertions'.Perm assertions) (certificate : LifecycleCertificate)
    (built : buildLifecycleCertificate entry growth flows decisions assertions coverage verdict
      external proofGate = .ok certificate)
    (collisionFree : ∀ certificate', buildLifecycleCertificate entry growth flows' decisions
      assertions' coverage verdict external proofGate = .ok certificate' →
        certificate'.certificateId = certificate.certificateId →
          certificate'.semantic = certificate.semantic) :
    ∃ certificate', buildLifecycleCertificate entry growth flows' decisions assertions' coverage
        verdict external proofGate = .ok certificate' ∧
      (certificate'.certificateId = certificate.certificateId ↔ assertions' = assertions) ∧
        (assertions' = assertions → (StaticFinding.fromCertificate certificate').findingId =
          (StaticFinding.fromCertificate certificate).findingId) := by
  obtain ⟨certificate', built', own, own', same⟩ :=
    certificates_permuted flowsPermuted assertionsPermuted certificate built
  refine ⟨certificate', built', ?_, ?_⟩
  · constructor
    · intro equal
      have listed := semantic_assertions _ _ (collisionFree certificate' built' equal)
      rwa [own, own'] at listed
    · intro kept
      rw [same kept]
  · intro kept
    rw [same kept]

end

def sampleReasons : TextSet :=
  (TextSet.collect (certificateReasons sampleDecisions sampleAssertions sampleVerdict)).getD .empty

def sampleUnresolved : TextSet :=
  (TextSet.collect (certificateUnresolved sampleDecisions sampleAssertions sampleVerdict)).getD .empty

theorem sample_collected :
    TextSet.collect (certificateReasons sampleDecisions sampleAssertions sampleVerdict) =
        some sampleReasons ∧
      TextSet.collect (certificateUnresolved sampleDecisions sampleAssertions sampleVerdict) =
        some sampleUnresolved := by
  obtain ⟨reasons, one, -⟩ := TextSet.collect_of_filled _ sample_facts.reasonsFilled
  obtain ⟨facts, other, -⟩ := TextSet.collect_of_filled _ sample_facts.unresolvedFilled
  constructor
  · rw [sampleReasons, one]
    rfl
  · rw [sampleUnresolved, other]
    rfl

theorem sample_reversed : sampleAssertions.reverse.Perm sampleAssertions := List.reverse_perm _

theorem reversed_facts : CertificateFacts sampleEntry sampleGrowthResult [sampleFlow] sampleDecisions
    sampleAssertions.reverse sampleCoverage sampleVerdict sampleExternal (some sampleGate) :=
  facts_permuted (List.Perm.refl _) sample_reversed sample_facts

/-- What the sample's builder issues for its assertions in some order. -/
def sampleIssued (assertions : List AssertionEvaluation) (required : assertions ≠ []) :
    LifecycleCertificate :=
  issueCertificate sampleEntry sampleGrowthResult [sampleFlow] sampleDecisions assertions
    sampleCoverage sampleVerdict Growth.sampleCandidate sampleReasons sampleUnresolved
    (List.cons_ne_nil _ _) required

theorem straight_id : (sampleIssued sampleAssertions sample_facts.assertionsRequired).certificateId =
    "certificate:3db8d495e50417a037068a53" := by
  rw [LifecycleCertificate.idCanonical, identifier_codes]
  decide +kernel

theorem reversed_id :
    (sampleIssued sampleAssertions.reverse reversed_facts.assertionsRequired).certificateId =
      "certificate:51c2e643a237f8fa0f59e217" := by
  rw [LifecycleCertificate.idCanonical, identifier_codes]
  decide +kernel

theorem order_seen :
    ((sampleIssued sampleAssertions.reverse reversed_facts.assertionsRequired).certificateId ==
      (sampleIssued sampleAssertions sample_facts.assertionsRequired).certificateId) = false := by
  rw [straight_id, reversed_id]
  decide

theorem sample_issued : buildLifecycleCertificate sampleEntry sampleGrowthResult [sampleFlow]
    sampleDecisions sampleAssertions sampleCoverage sampleVerdict sampleExternal (some sampleGate) =
      .ok (sampleIssued sampleAssertions sample_facts.assertionsRequired) :=
  build_exact _ _ _ _ _ _ _ _ _ sample_facts _ _ _ rfl sample_collected.1 sample_collected.2

theorem reversed_issued : buildLifecycleCertificate sampleEntry sampleGrowthResult [sampleFlow]
    sampleDecisions sampleAssertions.reverse sampleCoverage sampleVerdict sampleExternal
      (some sampleGate) =
        .ok (sampleIssued sampleAssertions.reverse reversed_facts.assertionsRequired) := by
  apply build_exact _ _ _ _ _ _ _ _ _ reversed_facts _ _ _ rfl
  · rw [collect_congr _ _ (reasons_permuted sample_reversed)]
    exact sample_collected.1
  · rw [collect_congr _ _ (unresolved_permuted sample_reversed)]
    exact sample_collected.2

/-- The sample's certificate is not the one of the same assertions in the other order. -/
theorem sample_order : ∃ certificate', buildLifecycleCertificate sampleEntry sampleGrowthResult
    [sampleFlow] sampleDecisions sampleAssertions.reverse sampleCoverage sampleVerdict sampleExternal
      (some sampleGate) = .ok certificate' ∧ (certificate'.certificateId =
        (sampleIssued sampleAssertions sample_facts.assertionsRequired).certificateId ↔
      sampleAssertions.reverse = sampleAssertions) ∧ (sampleAssertions.reverse = sampleAssertions →
      (StaticFinding.fromCertificate certificate').findingId = (StaticFinding.fromCertificate
        (sampleIssued sampleAssertions sample_facts.assertionsRequired)).findingId) :=
  certificate_order_iff (List.Perm.refl _) sample_reversed _ sample_issued (by
    intro certificate' built same
    rw [reversed_issued, Except.ok.injEq] at built
    subst built
    exact absurd same (beq_eq_false_iff_ne.mp order_seen))

/-- An order of assertions that the builder accepts gets a certificate of its own. -/
theorem certificate_order_counts : ¬ ∀ (entry : EntryFact) (growth : VerifiedGrowthResult)
    (flows flows' : List VerifiedFlow) (decisions : LifecycleDecisions)
    (assertions assertions' : List AssertionEvaluation) (coverage : CandidateCoverage)
    (verdict : StaticVerdict) (external : ExternalDecisions) (proofGate : Option VerdictProofGate)
    (certificate : LifecycleCertificate), flows'.Perm flows → assertions'.Perm assertions →
      buildLifecycleCertificate entry growth flows decisions assertions coverage verdict external
        proofGate = .ok certificate →
      ∃ certificate', buildLifecycleCertificate entry growth flows' decisions assertions' coverage
          verdict external proofGate = .ok certificate' ∧
        certificate'.certificateId = certificate.certificateId := by
  intro free
  obtain ⟨certificate', built, same⟩ := free sampleEntry sampleGrowthResult [sampleFlow] [sampleFlow]
    sampleDecisions sampleAssertions sampleAssertions.reverse sampleCoverage sampleVerdict
    sampleExternal (some sampleGate) _ (List.Perm.refl _) sample_reversed sample_issued
  rw [reversed_issued, Except.ok.injEq] at built
  subst built
  exact absurd same (beq_eq_false_iff_ne.mp order_seen)

end DosWeb.Lifecycle
