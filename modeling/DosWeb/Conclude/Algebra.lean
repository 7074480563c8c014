import DosWeb.Conclude.Verdicts

/-!
Laws of verdicts: what they owe to the order and the number of the assertions, and what the proof
gate makes of them.
-/

namespace DosWeb.Conclude

open Library.OrderedSet

section

variable (assertions rearranged : List AssertionEvaluation) (coverage : CandidateCoverage)

/-- The sequences hold the same assertions, in any order and any number of times. -/
def SameAssertions : Prop := ∀ assertion, assertion ∈ rearranged ↔ assertion ∈ assertions

theorem union_congr (part : AssertionEvaluation → TextSet) (left right : List AssertionEvaluation)
    (same : ∀ assertion, assertion ∈ left ↔ assertion ∈ right) :
    TextSet.union (left.map part) = TextSet.union (right.map part) := by
  apply TextSet.ext_values
  apply sortedSet_congr
  intro text
  simp only [List.mem_flatMap, List.mem_map, exists_exists_and_eq_and, same]

section

variable (left right : List AssertionEvaluation) (test : AssertionEvaluation → Bool)
  (same : ∀ assertion, assertion ∈ left ↔ assertion ∈ right)

include same

theorem any_congr : left.any test = right.any test := by
  rw [Bool.eq_iff_iff, List.any_eq_true, List.any_eq_true]
  simp only [same]

theorem all_congr : left.all test = right.all test := by
  rw [Bool.eq_iff_iff, List.all_eq_true, List.all_eq_true]
  simp only [same]

end

variable {assertions rearranged}

section

variable (same : SameAssertions assertions rearranged)

include same

theorem applicable_same : SameAssertions (applicable assertions) (applicable rearranged) := by
  intro assertion
  simp only [applicable, List.mem_filter, same assertion]

theorem empty_same : rearranged = [] ↔ assertions = [] := by
  simp only [List.eq_nil_iff_forall_not_mem, same _]

theorem has_unknown_same : hasUnknown rearranged coverage = hasUnknown assertions coverage ∧
      unresolvedEvidence rearranged = unresolvedEvidence assertions := by
  have facts : unresolvedEvidence rearranged = unresolvedEvidence assertions :=
    union_congr _ _ _ (applicable_same same)
  constructor
  · rw [hasUnknown, hasUnknown, facts, any_congr rearranged assertions _ same]
  · exact facts

theorem all_refuted_same : allRefuted rearranged = allRefuted assertions := by
  have filled := not_congr (empty_same (applicable_same same))
  rw [allRefuted, allRefuted, all_congr _ _ _ (applicable_same same), decide_eq_decide.mpr filled]

theorem derived_same : derivedVerdict rearranged coverage = derivedVerdict assertions coverage := by
  obtain ⟨unknown, facts⟩ := has_unknown_same coverage same
  have matched : hasMatch rearranged = hasMatch assertions := any_congr _ _ _ same
  have refuted := all_refuted_same same
  have evidence : assertionEvidence rearranged = assertionEvidence assertions :=
    union_congr _ _ _ same
  have name : verdictName rearranged coverage = verdictName assertions coverage := by
    rw [verdictName, verdictName, unknown, matched, refuted]
  have reason : verdictReason rearranged coverage = verdictReason assertions coverage := by
    rw [verdictReason, verdictReason, unknown, matched, refuted, facts]
  have reasons : TextSet.union (TextSet.single (verdictReason rearranged coverage).1
        (verdictReason rearranged coverage).2 :: rearranged.map AssertionEvaluation.reasonCodes) =
      TextSet.union (TextSet.single (verdictReason assertions coverage).1
        (verdictReason assertions coverage).2 :: assertions.map AssertionEvaluation.reasonCodes) := by
    apply TextSet.ext_values
    apply sortedSet_congr
    intro text
    simp only [List.flatMap_cons, List.mem_append, List.mem_flatMap, List.mem_map,
      exists_exists_and_eq_and, same _, reason]
  rw [derivedVerdict, derivedVerdict, name, evidence, facts, reasons]

theorem scopes_same : scopesEvident rearranged coverage = scopesEvident assertions coverage := by
  unfold scopesEvident
  congr 1
  funext identifier
  exact any_congr _ _ _ same

theorem derive_same : deriveVerdict rearranged coverage = deriveVerdict assertions coverage := by
  have filled := not_congr (empty_same same)
  unfold deriveVerdict
  rw [scopes_same coverage same, derived_same coverage same, decide_eq_decide.mpr filled]

end

end

section

def Unsettled (assertion : AssertionEvaluation) : Prop := assertion.status = .unknown ∨
    assertion.status ≠ .notApplicable ∧ assertion.unresolvedFacts.values ≠ []

variable (assertions : List AssertionEvaluation)

theorem unsettled_unknown (coverage : CandidateCoverage)
    (further : AssertionEvaluation) (member : further ∈ assertions) (unsettled : Unsettled further) :
    (derivedVerdict assertions coverage).verdict = .staticUnknown := by
  have unknown : hasUnknown assertions coverage = true := by
    rcases unsettled with status | ⟨applies, facts⟩
    · have found : (assertions.any fun assertion => assertion.status = .unknown) = true :=
        List.any_eq_true.mpr ⟨further, member, decide_eq_true status⟩
      simp [hasUnknown, found]
    · have inside : further ∈ applicable assertions :=
        List.mem_filter.mpr ⟨member, decide_eq_true applies⟩
      obtain ⟨fact, held⟩ := List.exists_mem_of_ne_nil _ facts
      have present : fact ∈ (unresolvedEvidence assertions).values :=
        (TextSet.mem_union _ _).mpr ⟨_, List.mem_map.mpr ⟨further, inside, rfl⟩, held⟩
      simp [hasUnknown, List.ne_nil_of_mem present]
  simp [derivedVerdict, verdictName, unknown]

theorem scopes_append (coverage : CandidateCoverage)
    (further : List AssertionEvaluation) (evident : scopesEvident assertions coverage = true) :
    scopesEvident (assertions ++ further) coverage = true := by
  unfold scopesEvident at evident ⊢
  apply List.all_eq_true.mpr
  intro identifier listed
  rw [List.any_append, Bool.or_eq_true]
  exact Or.inl (List.all_eq_true.mp evident identifier listed)

theorem derive_further (coverage : CandidateCoverage)
    (verdict : StaticVerdict) (derived : deriveVerdict assertions coverage = .ok verdict)
    (further : AssertionEvaluation) (unsettled : Unsettled further) :
    ∃ later, deriveVerdict (assertions ++ [further]) coverage = .ok later ∧
      later.verdict = .staticUnknown := by
  obtain ⟨-, evident, -⟩ := (derive_verdict_ok _ _ _).mp derived
  refine ⟨derivedVerdict (assertions ++ [further]) coverage, ?_, ?_⟩
  · apply (derive_verdict_ok _ _ _).mpr
    exact ⟨by simp, scopes_append assertions coverage [further] evident, rfl⟩
  · exact unsettled_unknown _ coverage further (by simp) unsettled

end

section

/-- The conditions of a gate, each with the code that a verdict gets where it does not hold. -/
def VerdictProofGate.conditions (gate : VerdictProofGate) : List (Bool × String) := [
  (gate.entryComplete, "VERDICT_ENTRY_COVERAGE_INCOMPLETE"),
  (gate.ordinaryReachability, "VERDICT_REACHABILITY_NOT_PROVEN"),
  (gate.growthVerified, "VERDICT_GROWTH_NOT_VERIFIED"),
  (gate.flowProven, "VERDICT_FLOW_NOT_PROVEN"),
  (gate.assertion1LifecycleComplete, "VERDICT_ASSERTION_1_LIFECYCLE_COVERAGE_INCOMPLETE"),
  (gate.assertion2LifecycleComplete, "VERDICT_ASSERTION_2_LIFECYCLE_COVERAGE_INCOMPLETE"),
  (gate.candidateRelevantGapFree, "VERDICT_CANDIDATE_RELEVANT_GAP")]

structure Gates (verdict : StaticVerdict) (gate : VerdictProofGate) (gated : StaticVerdict) :
    Prop where
  idempotent : applyPositiveProofGate gated gate = gated
  undecided : verdict.verdict = .staticUnknown → gated.verdict = .staticUnknown
  passes : gate.Passes → gated = verdict
  unknown : ¬ gate.Passes → gated.verdict = .staticUnknown
  reasons : ¬ gate.Passes → ∀ reason, reason ∈ gated.reasonCodes.values ↔
    reason ∈ verdict.reasonCodes.values ∨
      ∃ condition ∈ gate.conditions, condition.1 = false ∧ condition.2 = reason
  assumptions : ¬ gate.Passes → ∀ assumption, assumption ∈ gated.assumptions.values ↔
    assumption ∈ verdict.assumptions.values ∧ ¬ (verdict.verdict = .boundedUnderModeledAssumptions ∧
        assumption = "STATIC_EVIDENCE_COVERAGE_COMPLETE")
  evidence : gated.evidenceIds = verdict.evidenceIds ∧
    gated.unresolvedFacts = verdict.unresolvedFacts ∧
      gated.modeledConfigurationRefs = verdict.modeledConfigurationRefs ∧
        gated.coveredEntries = verdict.coveredEntries ∧ gated.coveredPaths = verdict.coveredPaths ∧
          gated.coverageGaps = verdict.coverageGaps

theorem missing_conditions (gate : VerdictProofGate) (reason : String) :
    reason ∈ gate.missingReasonCodes.values ↔
      ∃ condition ∈ gate.conditions, condition.1 = false ∧ condition.2 = reason := by
  simp only [VerdictProofGate.missingReasonCodes, VerdictProofGate.missingReasons, mem_sortedSet,
    List.mem_append, Lifecycle.mem_flagged, Bool.not_eq_true', VerdictProofGate.conditions,
    List.mem_cons, List.not_mem_nil, or_false, exists_eq_or_imp, exists_eq_left, or_assoc,
    eq_comm (a := reason)]

theorem union_absorbs (codes missing : TextSet) :
    TextSet.union [TextSet.union [codes, missing], missing] = TextSet.union [codes, missing] := by
  apply TextSet.ext_values
  apply sortedSet_congr
  intro text
  simp only [List.flatMap_cons, List.flatMap_nil, List.append_nil, List.mem_append,
    TextSet.mem_union, List.mem_cons, List.not_mem_nil, or_false, exists_eq_or_imp,
    exists_eq_left, or_assoc, or_self]

variable (verdict : StaticVerdict)

theorem gate_passes (gate : VerdictProofGate) (passes : gate.Passes) :
    applyPositiveProofGate verdict gate = verdict := by
  rw [applyPositiveProofGate, if_pos (gate.missing_nil_iff.mpr passes)]

theorem gate_fails (gate : VerdictProofGate) (fails : ¬ gate.Passes) :
    applyPositiveProofGate verdict gate = { verdict with
      verdict := .staticUnknown
      reasonCodes := TextSet.union [verdict.reasonCodes, gate.missingReasonCodes]
      assumptions :=
        if verdict.verdict = .boundedUnderModeledAssumptions then
          verdict.assumptions.filter (· ≠ "STATIC_EVIDENCE_COVERAGE_COMPLETE")
        else verdict.assumptions } := by
  rw [applyPositiveProofGate, if_neg fun none_ => fails (gate.missing_nil_iff.mp none_)]

theorem gate_idempotent (gate : VerdictProofGate) :
    applyPositiveProofGate (applyPositiveProofGate verdict gate) gate =
      applyPositiveProofGate verdict gate := by
  by_cases passes : gate.Passes
  · rw [gate_passes verdict gate passes, gate_passes verdict gate passes]
  · rw [gate_fails _ gate passes, gate_fails verdict gate passes]
    simp only [union_absorbs, reduceCtorEq, if_false]

theorem gate_gates (gate : VerdictProofGate) :
    Gates verdict gate (applyPositiveProofGate verdict gate) := by
  by_cases passes : gate.Passes
  · have same := gate_passes verdict gate passes
    constructor
    · exact gate_idempotent verdict gate
    · rw [same]
      exact id
    · exact fun _ => same
    · exact fun fails => absurd passes fails
    · exact fun fails => absurd passes fails
    · exact fun fails => absurd passes fails
    · simp [same]
  · have same := gate_fails verdict gate passes
    constructor
    · exact gate_idempotent verdict gate
    · intro _
      rw [same]
    · exact fun holds => absurd holds passes
    · intro _
      rw [same]
    · intro _ reason
      rw [same, ← missing_conditions]
      simp
    · intro _ assumption
      rw [same]
      by_cases bounded : verdict.verdict = .boundedUnderModeledAssumptions
      · simp [bounded]
      · simp [bounded]
    · simp [same]

end

/-- The laws of verdicts; of a bounded verdict that fails the gate, the assumption that the coverage
is complete does not stay. -/
theorem verdict_algebra (assertions : List AssertionEvaluation) (coverage : CandidateCoverage)
    (verdict : StaticVerdict) (derived : deriveVerdict assertions coverage = .ok verdict) :
    (∀ rearranged, SameAssertions assertions rearranged →
      deriveVerdict rearranged coverage = .ok verdict) ∧ (∀ further, Unsettled further →
      ∃ later, deriveVerdict (assertions ++ [further]) coverage = .ok later ∧
        later.verdict = .staticUnknown) ∧
    ∀ given gate, Gates given gate (applyPositiveProofGate given gate) := by
  constructor
  · intro rearranged same
    rw [derive_same coverage same]
    exact derived
  · constructor
    · exact derive_further assertions coverage verdict derived
    · exact gate_gates

def plainCoverage : CandidateCoverage where
  framework := "netty"
  status := .complete
  supportedPatterns := .empty
  unsupportedPatterns := .empty
  effectOnVerdict := .noEffect
  registrationPatternId := none
  entryId := none
  growthId := none
  pathId := none
  effectMatches := rfl
  disjoint := by simp
  supportedModeled := by simp
  completeWithoutGaps := by simp
  incompleteWithGap := by simp
  referencesFilled := by simp
  registrationModeled := by simp
  entryScoped := by simp
  siblingFree := by simp
  completeEntryScoped := by simp

def refutedAssertion : AssertionEvaluation :=
  ⟨.assertion1, .refuted, TextSet.single "A1_EFFECTIVE_GUARD" (by simp),
    TextSet.single "guard:1" (by simp), .empty⟩

theorem refuted_derived : deriveVerdict [refutedAssertion] plainCoverage =
    .ok (derivedVerdict [refutedAssertion] plainCoverage) := by
  apply (derive_verdict_ok _ _ _).mpr
  exact ⟨by simp, by simp [scopesEvident, CandidateCoverage.scopes, plainCoverage], rfl⟩

/-- An assertion that is given twice counts once. -/
theorem refuted_twice : deriveVerdict [refutedAssertion, refutedAssertion] plainCoverage =
    .ok (derivedVerdict [refutedAssertion] plainCoverage) :=
  (verdict_algebra [refutedAssertion] plainCoverage _ refuted_derived).1
    [refutedAssertion, refutedAssertion] fun assertion => by simp

def boundedVerdict : StaticVerdict :=
  ⟨.boundedUnderModeledAssumptions, .empty, .empty, .empty, modeledAssumptions, .empty, .empty,
    .empty, .empty⟩

/-- The gate does not keep every other field of a bounded verdict. -/
theorem bounded_loses_assumption : ¬ ∀ (verdict : StaticVerdict) (gate : VerdictProofGate),
    ¬ gate.Passes →
      { applyPositiveProofGate verdict gate with
        verdict := verdict.verdict, reasonCodes := verdict.reasonCodes } = verdict := by
  intro keeps
  let gate : VerdictProofGate := ⟨true, true, true, true, true, true, false⟩
  have fails : ¬ gate.Passes := fun passes => by simpa [gate] using passes.candidateRelevantGapFree
  have same := congrArg (fun verdict => verdict.assumptions.values) (keeps boundedVerdict gate fails)
  rw [gate_fails boundedVerdict gate fails] at same
  simp [boundedVerdict, modeledAssumptions, TextSet.filter] at same

end DosWeb.Conclude
