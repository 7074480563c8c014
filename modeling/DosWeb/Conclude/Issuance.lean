import DosWeb.Lifecycle.Certificates

namespace DosWeb.Conclude

open Library Library.Gates Library.OrderedSet Identifiers
open Entries (EntryFact)
open Flows (VerifiedFlow)
open Growth (VerifiedGrowthResult)
open Lifecycle

/-- One of the two assertions about a flow, as evaluated anew. -/
def RecomputedFor (growth : VerifiedGrowthResult) (decisions : LifecycleDecisions)
    (external : ExternalDecisions) (flow : VerifiedFlow) (evaluation : AssertionEvaluation) :
    Prop := evaluateAssertion1 growth flow decisions.guard decisions.bound external.amplification
      external.reachability = .ok evaluation ∨
    evaluateAssertion2 growth flow decisions.bound decisions.release external.reachability
      external.repeatability = .ok evaluation

section

variable (growth : VerifiedGrowthResult) (decisions : LifecycleDecisions)
  (external : ExternalDecisions)

section

variable (flows : List VerifiedFlow) (expected : List AssertionEvaluation)
  (recomputed : expectedAssertions growth decisions external flows = .ok expected)

include recomputed

theorem expected_assertion_mem (evaluation : AssertionEvaluation) : evaluation ∈ expected ↔
      ∃ flow ∈ flows, RecomputedFor growth decisions external flow evaluation := by
  induction flows generalizing expected with
  | nil =>
    cases recomputed
    simp
  | cons flow flows ih =>
    simp only [expectedAssertions, bind_ok, pure_ok] at recomputed
    obtain ⟨first, firstOk, second, secondOk, others, othersOk, rfl⟩ := recomputed
    have own : RecomputedFor growth decisions external flow evaluation ↔
        evaluation = first ∨ evaluation = second := by
      unfold RecomputedFor
      rw [firstOk, secondOk]
      simp [eq_comm]
    rw [List.mem_cons, List.mem_cons, ih others othersOk, List.exists_mem_cons_iff, own, or_assoc]

theorem expected_evaluations : ∀ flow ∈ flows, ∃ first ∈ expected, ∃ second ∈ expected,
      evaluateAssertion1 growth flow decisions.guard decisions.bound external.amplification
        external.reachability = .ok first ∧
      evaluateAssertion2 growth flow decisions.bound decisions.release external.reachability
        external.repeatability = .ok second := by
  induction flows generalizing expected with
  | nil => exact List.forall_mem_nil _
  | cons flow flows ih =>
    simp only [expectedAssertions, bind_ok, pure_ok] at recomputed
    obtain ⟨first, firstOk, second, secondOk, others, othersOk, rfl⟩ := recomputed
    rintro other (_ | ⟨_, member⟩)
    · exact ⟨first, .head _, second, by simp, firstOk, secondOk⟩
    · obtain ⟨one, oneMember, two, twoMember, facts⟩ := ih others othersOk other member
      exact ⟨one, by simp [oneMember], two, by simp [twoMember], facts⟩

end

theorem expected_assertions_total (flows : List VerifiedFlow)
    (first : ∀ flow ∈ flows, ∃ evaluation, evaluateAssertion1 growth flow decisions.guard
      decisions.bound external.amplification external.reachability = .ok evaluation)
    (second : ∀ flow ∈ flows, ∃ evaluation, evaluateAssertion2 growth flow decisions.bound
      decisions.release external.reachability external.repeatability = .ok evaluation) :
    ∃ expected, expectedAssertions growth decisions external flows = .ok expected := by
  induction flows with
  | nil => exact ⟨[], rfl⟩
  | cons flow flows ih =>
    obtain ⟨one, oneOk⟩ := first flow (.head _)
    obtain ⟨two, twoOk⟩ := second flow (.head _)
    obtain ⟨others, othersOk⟩ := ih (fun other member => first other (.tail _ member))
      (fun other member => second other (.tail _ member))
    exact ⟨one :: two :: others, by simp [expectedAssertions, oneOk, twoOk, othersOk, bind,
      Except.bind, pure, Except.pure]⟩

end

/-- The texts that the assertions of a path take over, without an empty one among them. -/
structure PathTexts (flow : VerifiedFlow) (decisions : LifecycleDecisions) : Prop where
  flowReasons : "" ∉ flow.reasonCodes
  flowEvidence : "" ∉ flow.evidenceIds
  flowUnresolved : "" ∉ flow.unresolvedFacts
  decisionEvidence : ∀ facts ∈ [decisions.guard.facts, decisions.bound.facts,
    decisions.release.facts], "" ∉ facts.evidenceIds ++ facts.candidateIds
  decisionUnresolved : ∀ facts ∈ [decisions.guard.facts, decisions.bound.facts,
    decisions.release.facts], "" ∉ facts.unresolvedFacts

section

variable (growth : VerifiedGrowthResult) (flow : VerifiedFlow)

theorem decision_ids_filled (decision : Option ExternalDecision) : "" ∉ decisionIds decision := by
  simp [decisionIds]

theorem growth_status_filled : "" ∉ flagged (growth.status ≠ .verified) growth.status.text := by
  cases growth.status <;> simp [flagged, Growth.VerificationStatus.text]

theorem ids_filled (facts : List DecisionFacts) (flowEvidence : "" ∉ flow.evidenceIds)
    (decisionEvidence : ∀ decision ∈ facts, "" ∉ decision.evidenceIds ++ decision.candidateIds) :
    "" ∉ ids growth flow facts := by
  have verifiedGrowth := Text.startsWith_nonempty _ _ (by decide) growth.idStarts
  have growthId := Text.startsWith_nonempty _ _ (by decide) growth.growthIdStarts
  have verifiedFlow : flow.verifiedFlowId ≠ "" := by
    rw [flow.idCanonical]
    exact stable_identifier_nonempty _ _
  have path : flow.pathId ≠ "" := by
    rw [flow.pathMatches]
    exact Text.startsWith_nonempty _ _ (by decide) flow.proof.path_id_starts
  have entry : flow.entryId ≠ "" := by
    rw [flow.entryMatches]
    exact Text.startsWith_nonempty _ _ (by decide) flow.proof.entryIdStarts
  simp only [ids, List.mem_append, List.mem_cons, List.not_mem_nil, or_false, List.mem_flatMap,
    not_or, not_exists, not_and]
  refine ⟨⟨⟨verifiedGrowth.symm, growthId.symm, verifiedFlow.symm, path.symm, entry.symm⟩,
    flowEvidence⟩, fun decision member => ?_⟩
  simpa using decisionEvidence decision member

theorem unresolved_filled (facts : List DecisionFacts) (flowUnresolved : "" ∉ flow.unresolvedFacts)
    (decisionUnresolved : ∀ decision ∈ facts, "" ∉ decision.unresolvedFacts) :
    "" ∉ unresolved growth flow facts := by
  simp only [unresolved, List.mem_append, List.mem_flatMap, not_or, not_exists, not_and]
  exact ⟨⟨⟨flowUnresolved, growth_status_filled growth⟩, growth.reasonsFilled⟩, decisionUnresolved⟩

def Finding.Filled (finding : Finding) : Prop := "" ∉ finding.reasons ∧ "" ∉ finding.unresolved

theorem result_total (assertion : AssertionName) (finding : Finding) (facts : List DecisionFacts)
    (filled : finding.Filled) (evidence : "" ∉ ids growth flow facts) :
    ∃ evaluation, Holds assertion finding (ids growth flow facts) evaluation := by
  obtain ⟨reasonCodes, reasons, _⟩ := TextSet.collect_of_filled _ filled.1
  obtain ⟨evidenceIds, collected, _⟩ := TextSet.collect_of_filled _ evidence
  obtain ⟨unresolvedFacts, facts, _⟩ := TextSet.collect_of_filled _ filled.2
  exact ⟨⟨assertion, finding.status, reasonCodes, evidenceIds, unresolvedFacts⟩, rfl, rfl, reasons,
    collected, facts⟩

variable (decisions : LifecycleDecisions) (external : ExternalDecisions)

theorem assertion_1_filled (texts : PathTexts flow decisions) :
    (assertion1Finding growth flow decisions.guard decisions.bound external.amplification
      external.reachability).Filled := by
  have facts : "" ∉ unresolved growth flow [decisions.guard.facts, decisions.bound.facts] :=
    unresolved_filled growth flow _ texts.flowUnresolved
      (fun decision member => texts.decisionUnresolved decision (List.mem_append_left [_] member))
  unfold assertion1Finding
  apply firstRule_common
  · simp only [assertion1Rules, List.forall_mem_cons, List.not_mem_nil, false_implies,
      implies_true, and_true]
    simp [Finding.Filled, decision_ids_filled, facts, texts.flowUnresolved, texts.flowReasons]
  · simp [Finding.Filled]

theorem assertion_2_filled (texts : PathTexts flow decisions) :
    (assertion2Finding growth flow decisions.bound decisions.release external.reachability
      external.repeatability).Filled := by
  have facts : "" ∉ unresolved growth flow [decisions.bound.facts, decisions.release.facts] :=
    unresolved_filled growth flow _ texts.flowUnresolved
      (fun decision member => texts.decisionUnresolved decision (.tail _ member))
  unfold assertion2Finding
  apply firstRule_common
  · simp only [assertion2Rules, List.forall_mem_cons, List.not_mem_nil, false_implies,
      implies_true, and_true]
    simp [Finding.Filled, decision_ids_filled, facts, texts.flowUnresolved, texts.flowReasons]
  · simp [Finding.Filled]

theorem evaluations_total (same : flow.growthId = growth.growthId)
    (texts : PathTexts flow decisions) :
    (∃ evaluation, evaluateAssertion1 growth flow decisions.guard decisions.bound
      external.amplification external.reachability = .ok evaluation) ∧
    ∃ evaluation, evaluateAssertion2 growth flow decisions.bound decisions.release
      external.reachability external.repeatability = .ok evaluation := by
  constructor
  · have evidence := ids_filled growth flow [decisions.guard.facts, decisions.bound.facts]
      texts.flowEvidence (fun decision member => texts.decisionEvidence decision (List.mem_append_left [_] member))
    obtain ⟨evaluation, holds⟩ := result_total growth flow .assertion1 _ _
      (assertion_1_filled growth flow decisions external texts) evidence
    exact ⟨evaluation, (evaluate_assertion_1_ok _ _ _ _ _ _ _).mpr ⟨same, holds⟩⟩
  · have evidence := ids_filled growth flow [decisions.bound.facts, decisions.release.facts]
      texts.flowEvidence (fun decision member => texts.decisionEvidence decision (.tail _ member))
    obtain ⟨evaluation, holds⟩ := result_total growth flow .assertion2 _ _
      (assertion_2_filled growth flow decisions external texts) evidence
    exact ⟨evaluation, (evaluate_assertion_2_ok _ _ _ _ _ _ _).mpr ⟨same, holds⟩⟩

end

/-- What every assertion about a flow cites, whatever the decisions. -/
def flowIds (growth : VerifiedGrowthResult) (flow : VerifiedFlow) : List String :=
  ids growth flow []

theorem mem_ids (growth : VerifiedGrowthResult) (flow : VerifiedFlow) (facts : List DecisionFacts)
    (identifier : String) : identifier ∈ ids growth flow facts ↔ identifier ∈ flowIds growth flow ∨
      ∃ decision ∈ facts, identifier ∈ decision.evidenceIds ++ decision.candidateIds := by
  simp [flowIds, ids, or_assoc]

def decisionFacts (decisions : LifecycleDecisions) : List DecisionFacts :=
  [decisions.guard.facts, decisions.bound.facts, decisions.release.facts]

def citedByDecisions (decisions : LifecycleDecisions) : List String :=
  (decisionFacts decisions).flatMap fun facts => facts.evidenceIds ++ facts.candidateIds

variable (entry : EntryFact) (growth : VerifiedGrowthResult) (flows : List VerifiedFlow)
  (decisions : LifecycleDecisions) (external : ExternalDecisions)

theorem recomputed_evidence (flow : VerifiedFlow) (evaluation : AssertionEvaluation)
    (recomputed : RecomputedFor growth decisions external flow evaluation) (identifier : String) :
    (identifier ∈ flowIds growth flow → identifier ∈ evaluation.evidenceIds.values) ∧
      (identifier ∈ evaluation.evidenceIds.values →
        identifier ∈ flowIds growth flow ∨ identifier ∈ citedByDecisions decisions) := by
  rcases recomputed with first | second
  · obtain ⟨_, holds⟩ := (evaluate_assertion_1_ok _ _ _ _ _ _ _).mp first
    rw [TextSet.mem_collect _ _ holds.evidenceIds, mem_ids]
    refine ⟨Or.inl, Or.imp_right ?_⟩
    rintro ⟨decision, member, cited⟩
    refine List.mem_flatMap.mpr ⟨decision, ?_, cited⟩
    simp only [decisionFacts, List.mem_cons, List.not_mem_nil, or_false] at member ⊢
    tauto
  · obtain ⟨_, holds⟩ := (evaluate_assertion_2_ok _ _ _ _ _ _ _).mp second
    rw [TextSet.mem_collect _ _ holds.evidenceIds, mem_ids]
    refine ⟨Or.inl, Or.imp_right ?_⟩
    rintro ⟨decision, member, cited⟩
    refine List.mem_flatMap.mpr ⟨decision, ?_, cited⟩
    simp only [decisionFacts, List.mem_cons, List.not_mem_nil, or_false] at member ⊢
    tauto

/-- Together the assertions cite what their flows and the decisions cite, and nothing else. -/
theorem expected_evidence (flowsRequired : flows ≠ []) (expected : List AssertionEvaluation)
    (recomputed : expectedAssertions growth decisions external flows = .ok expected)
    (identifier : String) : identifier ∈ (assertionEvidence expected).values ↔
      (∃ flow ∈ flows, identifier ∈ flowIds growth flow) ∨
        identifier ∈ citedByDecisions decisions := by
  simp only [assertionEvidence, TextSet.mem_union, List.mem_map, exists_exists_and_eq_and]
  constructor
  · rintro ⟨evaluation, member, cited⟩
    obtain ⟨flow, flowMember, own⟩ :=
      (expected_assertion_mem growth decisions external flows expected recomputed _).mp member
    rcases (recomputed_evidence growth decisions external flow evaluation own _).2 cited with
      inFlow | inDecisions
    · exact Or.inl ⟨flow, flowMember, inFlow⟩
    · exact Or.inr inDecisions
  · intro cited
    have both := expected_evaluations growth decisions external flows expected recomputed
    rcases cited with ⟨flow, member, inFlow⟩ | inDecisions
    · obtain ⟨first, firstMember, _, _, firstOk, _⟩ := both flow member
      exact ⟨first, firstMember,
        (recomputed_evidence growth decisions external flow first (Or.inl firstOk) _).1 inFlow⟩
    · obtain ⟨flow, member⟩ := List.exists_mem_of_ne_nil flows flowsRequired
      obtain ⟨first, firstMember, second, secondMember, firstOk, secondOk⟩ := both flow member
      obtain ⟨_, firstHolds⟩ := (evaluate_assertion_1_ok _ _ _ _ _ _ _).mp firstOk
      obtain ⟨_, secondHolds⟩ := (evaluate_assertion_2_ok _ _ _ _ _ _ _).mp secondOk
      rcases List.mem_flatMap.mp inDecisions with ⟨decision, present, cited⟩
      simp only [decisionFacts, List.mem_cons, List.not_mem_nil, or_false] at present
      have inOne : decision = decisions.guard.facts ∨ decision = decisions.bound.facts →
          identifier ∈ first.evidenceIds.values := fun present => by
        rw [TextSet.mem_collect _ _ firstHolds.evidenceIds, mem_ids]
        exact Or.inr ⟨decision, by simpa using present, cited⟩
      rcases present with inGuard | inBound | inRelease
      · exact ⟨first, firstMember, inOne (Or.inl inGuard)⟩
      · exact ⟨first, firstMember, inOne (Or.inr inBound)⟩
      · refine ⟨second, secondMember, ?_⟩
        rw [TextSet.mem_collect _ _ secondHolds.evidenceIds, mem_ids]
        exact Or.inr ⟨decision, by simp [inRelease], cited⟩

/-- The decisions cite no entry and no path but those concluded about. -/
structure OwnEvidence : Prop where
  entries : ∀ identifier ∈ citedByDecisions decisions,
    Text.startsWith identifier "entry:" = true → identifier = entry.entryId
  paths : ∀ identifier ∈ citedByDecisions decisions,
    Text.startsWith identifier "flow:" = true → identifier ∈ certificatePaths flows

/-- The flows cite no entry and no path but those concluded about. -/
structure OwnFlows : Prop where
  entries : ∀ flow ∈ flows, ∀ identifier ∈ flow.evidenceIds,
    Text.startsWith identifier "entry:" = true → identifier = entry.entryId
  paths : ∀ flow ∈ flows, ∀ identifier ∈ flow.evidenceIds,
    Text.startsWith identifier "flow:" = true → identifier ∈ certificatePaths flows

theorem flow_ids_lead (flow : VerifiedFlow) (identifier : String)
    (cited : identifier ∈ flowIds growth flow) :
    identifier = flow.entryId ∨ identifier = flow.pathId ∨ identifier ∈ flow.evidenceIds ∨
      Text.startsWith identifier "verified_growth:" = true ∨
      Text.startsWith identifier "growth:" = true ∨
      Text.startsWith identifier "verified_flow:" = true := by
  simp only [flowIds, ids, List.flatMap_nil, List.append_nil, List.mem_append, List.mem_cons,
    List.not_mem_nil, or_false] at cited
  rcases cited with (rfl | rfl | rfl | rfl | rfl) | evidence
  · exact Or.inr (Or.inr (Or.inr (Or.inl growth.idStarts)))
  · exact Or.inr (Or.inr (Or.inr (Or.inr (Or.inl growth.growthIdStarts))))
  · refine Or.inr (Or.inr (Or.inr (Or.inr (Or.inr ?_))))
    rw [flow.idCanonical]
    exact stable_identifier_starts "verified_flow" _
  · exact Or.inr (Or.inl rfl)
  · exact Or.inl rfl
  · exact Or.inr (Or.inr (Or.inl evidence))

theorem path_id_lead (flow : VerifiedFlow) : Text.startsWith flow.pathId "flow:" = true := by
  rw [flow.pathMatches]
  exact flow.proof.path_id_starts

section

variable (flowsRequired : flows ≠ []) (matched : flowsMatch entry growth flows = true)
  (ownFlows : OwnFlows entry flows) (expected : List AssertionEvaluation)
  (recomputed : expectedAssertions growth decisions external flows = .ok expected)

include matched in
theorem flows_entry (flow : VerifiedFlow) (member : flow ∈ flows) :
    flow.entryId = entry.entryId ∧ flow.growthId = growth.growthId := by
  simpa using List.all_eq_true.mp matched flow member

include flowsRequired recomputed in
/-- The evidence of a kind is that of the flows exactly where the decisions cite no other. -/
theorem covered_iff (lead : String) (known : List String) (ordered : known.Pairwise (· < ·))
    (own : ∀ identifier, identifier ∈ known ↔
      (∃ flow ∈ flows, identifier ∈ flowIds growth flow) ∧ Text.startsWith identifier lead = true) :
    ((assertionEvidence expected).filter (Text.startsWith · lead)).values = known ↔
      ∀ identifier ∈ citedByDecisions decisions,
        Text.startsWith identifier lead = true → identifier ∈ known := by
  have evidence (identifier : String) :
      identifier ∈ ((assertionEvidence expected).filter (Text.startsWith · lead)).values ↔
        identifier ∈ known ∨
          identifier ∈ citedByDecisions decisions ∧ Text.startsWith identifier lead = true := by
    rw [TextSet.mem_filter, expected_evidence growth flows decisions external flowsRequired expected
      recomputed, or_and_right, own]
  constructor
  · intro covered identifier cited leads
    rw [← covered, evidence]
    exact .inr ⟨cited, leads⟩
  · intro within
    apply increasing_ext _ _ (TextSet.ordered _) ordered
    intro identifier
    rw [evidence]
    exact or_iff_left_of_imp fun cited => within identifier cited.1 cited.2

include flowsRequired matched ownFlows in
theorem entry_known (identifier : String) :
    identifier ∈ [entry.entryId] ↔ (∃ flow ∈ flows, identifier ∈ flowIds growth flow) ∧
      Text.startsWith identifier "entry:" = true := by
  rw [List.mem_singleton]
  constructor
  · rintro rfl
    obtain ⟨flow, member⟩ := List.exists_mem_of_ne_nil flows flowsRequired
    refine ⟨⟨flow, member, ?_⟩, entry.entry_id_starts⟩
    simp [flowIds, ids, (flows_entry entry growth flows matched flow member).1]
  · rintro ⟨⟨flow, member, cited⟩, leads⟩
    rcases flow_ids_lead growth flow identifier cited with
      rfl | rfl | inEvidence | other | other | other
    · exact (flows_entry entry growth flows matched flow member).1
    · rw [Text.startsWith_other _ _ _ (path_id_lead flow) (by decide)] at leads
      cases leads
    · exact ownFlows.entries flow member _ inEvidence leads
    all_goals
      rw [Text.startsWith_other _ _ _ other (by decide)] at leads
      cases leads

include ownFlows in
theorem path_known (identifier : String) :
    identifier ∈ certificatePaths flows ↔ (∃ flow ∈ flows, identifier ∈ flowIds growth flow) ∧
      Text.startsWith identifier "flow:" = true := by
  rw [certificatePaths, mem_sortedSet, List.mem_map]
  constructor
  · rintro ⟨flow, member, rfl⟩
    exact ⟨⟨flow, member, by simp [flowIds, ids]⟩, path_id_lead flow⟩
  · rintro ⟨⟨flow, member, cited⟩, leads⟩
    rcases flow_ids_lead growth flow identifier cited with
      rfl | rfl | inEvidence | other | other | other
    · have entryLead : Text.startsWith flow.entryId "entry:" = true := by
        rw [flow.entryMatches]
        exact flow.proof.entryIdStarts
      rw [Text.startsWith_other _ _ _ entryLead (by decide)] at leads
      cases leads
    · exact ⟨flow, member, rfl⟩
    · simpa [certificatePaths] using ownFlows.paths flow member _ inEvidence leads
    all_goals
      rw [Text.startsWith_other _ _ _ other (by decide)] at leads
      cases leads

end

/-- The texts of the decisions' own fields, without an empty one among them. -/
structure DecisionTexts (decisions : LifecycleDecisions) : Prop where
  reasons : ∀ reasons ∈ [decisions.guard.reasonCodes, decisions.bound.reasonCodes,
    decisions.release.reasonCodes], "" ∉ reasons
  unresolved : ∀ facts ∈ decisionFacts decisions, "" ∉ facts.unresolvedFacts

variable (coverage : CandidateCoverage) (gate : VerdictProofGate)
  (expected : List AssertionEvaluation)

/-- What the conclusion of a pair brings along, whatever the lifecycle decisions say. -/
structure ConclusionInputs : Prop where
  flowsRequired : flows ≠ []
  flowsMatch : flowsMatch entry growth flows = true
  ownFlows : OwnFlows entry flows
  candidateKnown : growth.candidate ≠ none
  coverageMatches : coverageMatches entry growth coverage = true
  pathFree : coverage.pathId = none
  gateFlows : gate.flowProven = true → flows.all VerifiedFlow.satisfiesPremise = true

theorem gated_forced (forced : coverage.forcesUnknown = true) :
    (gatedVerdict (derivedVerdict expected coverage) (some gate)).verdict = .staticUnknown := by
  by_contra determinate
  obtain ⟨same, _⟩ := gated_verdict_determinate _ _ determinate
  rw [same] at determinate
  have incomplete := coverage.forces_unknown_iff.mp forced
  have unknown : hasUnknown expected coverage = true := by
    by_contra known
    exact incomplete (has_unknown_false expected coverage (by simpa using known)).2
  exact determinate (by simp [derivedVerdict, verdictName, unknown])

theorem conclusion_facts_iff (inputs : ConclusionInputs entry growth flows coverage gate)
    (texts : DecisionTexts decisions)
    (recomputed : expectedAssertions growth decisions external flows = .ok expected) :
    CertificateFacts entry growth flows decisions expected coverage
        (gatedVerdict (derivedVerdict expected coverage) (some gate)) external (some gate) ↔
      OwnEvidence entry flows decisions := by
  have entries : (gatedVerdict (derivedVerdict expected coverage) (some gate)).coveredEntries =
      (assertionEvidence expected).filter (Text.startsWith · "entry:") := by
    rw [gated_entries]
    rfl
  have paths : (gatedVerdict (derivedVerdict expected coverage) (some gate)).coveredPaths =
      (assertionEvidence expected).filter (Text.startsWith · "flow:") := by
    rw [gated_paths]
    rfl
  have covered := covered_iff growth flows decisions external inputs.flowsRequired expected
    recomputed
  have entriesIff := covered "entry:" _ (List.pairwise_singleton _ _)
    (entry_known entry growth flows inputs.flowsRequired inputs.flowsMatch inputs.ownFlows)
  simp only [List.mem_singleton] at entriesIff
  have pathsIff := covered "flow:" (certificatePaths flows) (sortedSet_increasing _)
    (path_known entry growth flows inputs.ownFlows)
  constructor
  · intro facts
    have coveredEntries := facts.coveredEntries
    have coveredPaths := facts.coveredPaths
    rw [entries] at coveredEntries
    rw [paths] at coveredPaths
    exact ⟨entriesIff.mp coveredEntries, pathsIff.mp coveredPaths⟩
  · intro own
    obtain ⟨flow, member⟩ := List.exists_mem_of_ne_nil flows inputs.flowsRequired
    obtain ⟨first, firstMember, _, _, firstOk, _⟩ :=
      expected_evaluations growth decisions external flows expected recomputed flow member
    have evident : ∀ identifier ∈ [entry.entryId, growth.growthId],
        identifier ∈ first.evidenceIds.values := by
      intro identifier present
      refine (recomputed_evidence growth decisions external flow first (Or.inl firstOk) _).1 ?_
      have same := flows_entry entry growth flows inputs.flowsMatch flow member
      simp only [List.mem_cons, List.not_mem_nil, or_false] at present
      rcases present with rfl | rfl
      · simp [flowIds, ids, same.1]
      · simp [flowIds, ids]
    have matches_ := inputs.coverageMatches
    simp only [coverageMatches, Bool.and_eq_true, decide_eq_true_eq] at matches_
    refine {
      flowsRequired := inputs.flowsRequired
      flowsMatch := inputs.flowsMatch
      premise := ?_
      assertionsRequired := List.ne_nil_of_mem firstMember
      recomputed := ⟨expected, recomputed, List.Perm.refl _⟩
      candidateKnown := inputs.candidateKnown
      coverageMatches := inputs.coverageMatches
      coveragePath := by simp [inputs.pathFree]
      scopesEvident := ?_
      verdictDerived := rfl
      coverageForces := gated_forced coverage gate expected
      coveredEntries := by rw [entries, entriesIff.mpr own.entries]
      coveredPaths := by rw [paths, pathsIff.mpr own.paths]
      reasonsFilled := ?_
      unresolvedFilled := ?_ }
    · rw [Bool.or_eq_true, decide_eq_true_eq]
      by_cases known : (gatedVerdict (derivedVerdict expected coverage) (some gate)).verdict =
          .staticUnknown
      · exact Or.inr known
      · have passes := (gated_verdict_determinate _ _ known).2 gate rfl
        exact Or.inl (inputs.gateFlows passes.flowProven)
    · simp only [scopesEvident, CandidateCoverage.scopes, matches_.1.2, matches_.2,
        inputs.pathFree, Option.toList_some, Option.toList_none, List.append_nil,
        List.singleton_append, List.all_eq_true, List.any_eq_true, List.contains_iff_mem]
      exact fun identifier present => ⟨first, firstMember, evident identifier present⟩
    · simp only [certificateReasons, List.mem_append, List.mem_flatMap, not_or, not_exists, not_and]
      have reasons := texts.reasons
      simp only [List.forall_mem_cons] at reasons
      exact ⟨⟨⟨⟨TextSet.filled _, fun assertion _ => TextSet.filled _⟩, reasons.1⟩, reasons.2.1⟩,
        reasons.2.2.1⟩
    · simp only [certificateUnresolved, List.mem_append, List.mem_flatMap, not_or, not_exists,
        not_and]
      have unresolved := texts.unresolved
      simp only [decisionFacts, List.forall_mem_cons] at unresolved
      exact ⟨⟨⟨⟨TextSet.filled _, fun assertion _ => TextSet.filled _⟩, unresolved.1⟩,
        unresolved.2.1⟩, unresolved.2.2.1⟩

end DosWeb.Conclude
