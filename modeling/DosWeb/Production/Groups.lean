import DosWeb.Conclude.Standing
import DosWeb.Production.Conclude

/-!
What the conclude stage makes of one pair: which pairs it selects, when it issues a
certificate for the flows of a pair, and when this one is vulnerable.
-/

namespace DosWeb.Production

open Library Library.Gates Library.OrderedSet
open Entries (EntryFact FrameworkCoverage)
open Flows
open Growth (GrowthCandidate VerifiedGrowthResult)
open Lifecycle Conclude

theorem latest_row {α κ : Type} [DecidableEq κ] (key : α → κ) (rows : List α) (wanted : κ)
    (row : α) (found : latest key rows wanted = some row) : row ∈ rows ∧ key row = wanted := by
  have member := List.mem_of_find?_eq_some found
  have matched := List.find?_some found
  exact ⟨List.mem_reverse.mp member, by simpa using matched⟩

/-- A disposition of the status selects the pair through one of its links. -/
def Selects (links : List EntryLink) (disposition : Disposition) (pair : Pair) : Prop :=
  ∃ link ∈ links, link.linkId ∈ disposition.linkIds ∧ pair = (link.entryId, disposition.growthId)

section

variable (links : List EntryLink) (flowPairs : List Pair)

theorem linked_pair_ok (growthId linkId : String) (pair : Pair)
    (linked : linkedPair links flowPairs growthId linkId = .ok pair) :
    ∃ link ∈ links, link.linkId = linkId ∧ pair = (link.entryId, growthId) ∧ pair ∈ flowPairs := by
  unfold linkedPair at linked
  split at linked
  · cases linked
  · rename_i link found
    split at linked
    · rename_i own
      cases linked
      have matched := List.find?_some found
      exact ⟨link, List.mem_of_find?_eq_some found, by simpa using matched, rfl, own.2⟩
    · cases linked

theorem linked_pairs_mem (distinct : (links.map EntryLink.linkId).Nodup) (growthId : String)
    (linkIds : List String) (pairs : List Pair)
    (linked : linkedPairs links flowPairs growthId linkIds = .ok pairs) (pair : Pair) :
    (pair ∈ pairs ↔ ∃ link ∈ links, link.linkId ∈ linkIds ∧ pair = (link.entryId, growthId)) ∧
      (pair ∈ pairs → pair ∈ flowPairs) := by
  induction linkIds generalizing pairs with
  | nil =>
    cases linked
    simp
  | cons linkId linkIds ih =>
    simp only [linkedPairs, bind_ok, pure_ok] at linked
    obtain ⟨first, firstOk, others, othersOk, rfl⟩ := linked
    obtain ⟨link, listed, named, rfl, present⟩ := linked_pair_ok _ _ _ _ _ firstOk
    have rest := ih others othersOk
    constructor
    · rw [List.mem_cons, rest.1]
      constructor
      · intro either
        rcases either with rfl | ⟨other, otherListed, member, rfl⟩
        · exact ⟨link, listed, by simp [named], rfl⟩
        · exact ⟨other, otherListed, .tail _ member, rfl⟩
      · intro selected
        obtain ⟨other, otherListed, member, rfl⟩ := selected
        rcases List.mem_cons.mp member with same | member
        · have one := List.inj_on_of_nodup_map distinct otherListed listed (same.trans named.symm)
          rw [one]
          exact Or.inl rfl
        · exact Or.inr ⟨other, otherListed, member, rfl⟩
    · intro member
      rcases List.mem_cons.mp member with rfl | member
      · exact present
      · exact rest.2 member

theorem record_status_ok (statuses after : Statuses) (status : DispositionStatus) (pair : Pair)
    (recorded : recordStatus statuses status pair = .ok after) (wanted : Pair)
    (found : DispositionStatus) : after.lookup wanted = some found ↔
      statuses.lookup wanted = some found ∨ (wanted = pair ∧ found = status) := by
  unfold recordStatus at recorded
  split at recorded
  · rename_i fresh
    cases recorded
    rw [List.lookup_append]
    by_cases same : wanted = pair
    · subst same
      simp [fresh, eq_comm]
    · have differ : (wanted == pair) = false := by simpa using same
      simp [List.lookup_cons, differ, same]
  · rename_i previous known
    split at recorded
    · rename_i agrees
      cases recorded
      constructor
      · exact Or.inl
      · intro either
        rcases either with held | ⟨rfl, rfl⟩
        · exact held
        · rw [known, agrees]
    · cases recorded

theorem record_statuses_ok (status : DispositionStatus) (pairs : List Pair)
    (statuses after : Statuses)
    (recorded : recordStatuses status pairs statuses = .ok after) (wanted : Pair)
    (found : DispositionStatus) : after.lookup wanted = some found ↔
      statuses.lookup wanted = some found ∨ (wanted ∈ pairs ∧ found = status) := by
  induction pairs generalizing statuses with
  | nil =>
    cases recorded
    simp
  | cons pair pairs ih =>
    simp only [recordStatuses, bind_ok] at recorded
    obtain ⟨between, first, rest⟩ := recorded
    rw [ih between rest, record_status_ok _ _ _ _ first, List.mem_cons]
    constructor
    · intro either
      rcases either with (held | ⟨rfl, rfl⟩) | ⟨member, rfl⟩
      · exact Or.inl held
      · exact Or.inr ⟨Or.inl rfl, rfl⟩
      · exact Or.inr ⟨Or.inr member, rfl⟩
    · intro either
      rcases either with held | ⟨rfl | member, rfl⟩
      · exact Or.inl (Or.inl held)
      · exact Or.inl (Or.inr ⟨rfl, rfl⟩)
      · exact Or.inr ⟨member, rfl⟩

theorem resolve_disposition_ok (distinct : (links.map EntryLink.linkId).Nodup)
    (disposition : Disposition) (statuses after : Statuses)
    (resolved : resolveDisposition links flowPairs disposition statuses = .ok after)
    (wanted : Pair) (found : DispositionStatus) :
    (after.lookup wanted = some found ↔ statuses.lookup wanted = some found ∨
      (found = disposition.status ∧ found.concludes = true ∧ Selects links disposition wanted)) ∧
    (disposition.status.concludes = true → Selects links disposition wanted →
      wanted ∈ flowPairs) := by
  unfold resolveDisposition at resolved
  split at resolved
  · rename_i concludes
    simp only [bind_ok, require_ok] at resolved
    obtain ⟨_, _, pairs, linked, recorded⟩ := resolved
    have members := linked_pairs_mem links flowPairs distinct _ _ _ linked wanted
    constructor
    · rw [record_statuses_ok _ _ _ _ recorded, members.1]
      constructor
      · intro either
        rcases either with held | ⟨selected, rfl⟩
        · exact Or.inl held
        · exact Or.inr ⟨rfl, concludes, selected⟩
      · intro either
        rcases either with held | ⟨rfl, _, selected⟩
        · exact Or.inl held
        · exact Or.inr ⟨selected, rfl⟩
    · intro _ selected
      exact members.2 (members.1.mpr selected)
  · rename_i silent
    cases resolved
    constructor
    · constructor
      · exact Or.inl
      · intro either
        rcases either with held | ⟨rfl, concludes, _⟩
        · exact held
        · exact absurd concludes silent
    · intro concludes
      exact absurd concludes silent

theorem resolve_dispositions_ok (distinct : (links.map EntryLink.linkId).Nodup)
    (dispositions : List Disposition) (statuses after : Statuses)
    (resolved : resolveDispositions links flowPairs dispositions statuses = .ok after)
    (wanted : Pair) (found : DispositionStatus) :
    (after.lookup wanted = some found ↔ statuses.lookup wanted = some found ∨
      ∃ disposition ∈ dispositions, found = disposition.status ∧ found.concludes = true ∧
        Selects links disposition wanted) ∧
    ∀ disposition ∈ dispositions, disposition.status.concludes = true →
      Selects links disposition wanted → wanted ∈ flowPairs := by
  induction dispositions generalizing statuses with
  | nil =>
    cases resolved
    simp
  | cons disposition dispositions ih =>
    simp only [resolveDispositions, bind_ok] at resolved
    obtain ⟨between, first, rest⟩ := resolved
    have own := resolve_disposition_ok links flowPairs distinct _ _ _ first wanted found
    have others := ih between rest
    constructor
    · rw [others.1, own.1, List.exists_mem_cons_iff, or_assoc]
    · intro other member
      rcases List.mem_cons.mp member with rfl | member
      · exact own.2
      · exact others.2 other member

/-- The eligible pairs are those that a concluding disposition selects, under its status. -/
theorem eligible_iff (dispositions : List Disposition) (eligible : Statuses)
    (resolved : eligibleConclusionPairs links flowPairs dispositions = .ok eligible)
    (pair : Pair) (status : DispositionStatus) : (eligible.lookup pair = some status ↔
      ∃ disposition ∈ dispositions, status = disposition.status ∧ status.concludes = true ∧
        Selects links disposition pair) ∧
    ∀ disposition ∈ dispositions, disposition.status.concludes = true →
      Selects links disposition pair → pair ∈ flowPairs := by
  simp only [eligibleConclusionPairs, bind_ok, require_ok, decide_eq_true_eq] at resolved
  obtain ⟨_, distinct, resolved⟩ := resolved
  have facts := resolve_dispositions_ok links flowPairs distinct _ _ _ resolved pair status
  exact ⟨by simpa using facts.1, facts.2⟩

end

section

variable (entries : List (String × EntryFact)) (growth : List (String × VerifiedGrowthResult))
  (proofs : List FlowProof) (flows : List VerifiedFlow)
  (verified : verifyFlows entries growth proofs = .ok flows)

include verified

theorem verify_flows_mem (flow : VerifiedFlow) :
    flow ∈ flows ↔ ∃ proof ∈ proofs, verifyFlow proof entries growth = .ok flow := by
  induction proofs generalizing flows with
  | nil =>
    cases verified
    simp
  | cons proof proofs ih =>
    simp only [verifyFlows, bind_ok, pure_ok] at verified
    obtain ⟨first, firstOk, others, othersOk, rfl⟩ := verified
    rw [List.mem_cons, ih others othersOk, List.exists_mem_cons_iff, firstOk]
    simp [eq_comm]

theorem verify_flows_total :
    ∀ proof ∈ proofs, ∃ flow ∈ flows, verifyFlow proof entries growth = .ok flow := by
  induction proofs generalizing flows with
  | nil => simp
  | cons proof proofs ih =>
    simp only [verifyFlows, bind_ok, pure_ok] at verified
    obtain ⟨first, firstOk, others, othersOk, rfl⟩ := verified
    intro other member
    rcases List.mem_cons.mp member with rfl | member
    · exact ⟨first, .head _, firstOk⟩
    · obtain ⟨flow, present, found⟩ := ih others othersOk other member
      exact ⟨flow, .tail _ present, found⟩

end

theorem pairs_in_order_mem (eligible : Statuses) (flows : List VerifiedFlow) (pair : Pair) :
    pair ∈ pairsInOrder eligible flows ↔
      (∃ flow ∈ flows, flowPair flow = pair) ∧ (eligible.lookup pair).isSome := by
  simp [pairsInOrder, List.mem_insertionSort]

theorem pairs_in_order_nodup (eligible : Statuses) (flows : List VerifiedFlow) :
    (pairsInOrder eligible flows).Nodup := by
  unfold pairsInOrder
  rw [List.Perm.nodup_iff (List.perm_insertionSort _ _)]
  exact List.nodup_dedup _

theorem group_mem (flows : List VerifiedFlow) (pair : Pair) (flow : VerifiedFlow) :
    flow ∈ groupOf flows pair ↔ flow ∈ flows ∧ flowPair flow = pair := by
  simp [groupOf, List.mem_insertionSort]

def conclusionPair (conclusion : Conclusion) : Pair := (conclusion.2.entryId, conclusion.2.growthId)

section

variable (inputs : ConcludeInputs)

/-- What the two assertions about an evaluated path come from. -/
def Evaluated (growth : VerifiedGrowthResult) (decisions : LifecycleDecisions)
    (external : ExternalDecisions) (evaluation : PathEvaluations) : Prop :=
  evaluateAssertion1 growth evaluation.1 decisions.guard decisions.bound external.amplification
      external.reachability = .ok evaluation.2.1 ∧
    evaluateAssertion2 growth evaluation.1 decisions.bound decisions.release external.reachability
      external.repeatability = .ok evaluation.2.2

theorem evaluations_flow (growth : VerifiedGrowthResult) (decisions : LifecycleDecisions)
    (external : ExternalDecisions) (flows : List VerifiedFlow) (evaluations : List PathEvaluations)
    (evaluated : evaluationsByPath growth decisions external flows = .ok evaluations) :
    expectedAssertions growth decisions external flows = .ok (pathAssertions evaluations) ∧
      evaluations.map Prod.fst = flows ∧
      ∀ evaluation ∈ evaluations, Evaluated growth decisions external evaluation := by
  induction flows generalizing evaluations with
  | nil =>
    cases evaluated
    simp [expectedAssertions, pathAssertions]
  | cons flow flows ih =>
    simp only [evaluationsByPath, bind_ok, pure_ok] at evaluated
    obtain ⟨first, firstOk, second, secondOk, others, othersOk, rfl⟩ := evaluated
    obtain ⟨recomputed, rfl, rest⟩ := ih others othersOk
    refine ⟨?_, rfl, List.forall_mem_cons.mpr ⟨⟨firstOk, secondOk⟩, rest⟩⟩
    simp [expectedAssertions, firstOk, secondOk, recomputed, bind, Except.bind, pure, Except.pure,
      pathAssertions]

/-- An assertion about a path applies only where the families it needs are covered. -/
def CoveredAssertion (flow : VerifiedFlow) (evaluated : Checked AssertionEvaluation)
    (needed : List Family) : Prop := ∃ assertion, evaluated = .ok assertion ∧
    (assertion.status ≠ .notApplicable →
      ∀ family ∈ needed, coverageOf inputs flow family = some .complete)

/-- Both assertions about a path apply only where the families they need are covered. -/
def PathCovered (growth : VerifiedGrowthResult) (decisions : LifecycleDecisions)
    (external : ExternalDecisions) (flow : VerifiedFlow) : Prop :=
  CoveredAssertion inputs flow (evaluateAssertion1 growth flow decisions.guard decisions.bound
      external.amplification external.reachability) [.guard, .bound] ∧
    CoveredAssertion inputs flow (evaluateAssertion2 growth flow decisions.bound
      decisions.release external.reachability external.repeatability) [.bound, .release]

theorem lifecycle_complete_covered (flow : VerifiedFlow) (assertion : AssertionEvaluation)
    (needed : List Family) (complete : lifecycleComplete inputs flow assertion needed = true)
    (applies : assertion.status ≠ .notApplicable) :
    ∀ family ∈ needed, coverageOf inputs flow family = some .complete := by
  simp only [lifecycleComplete, Bool.or_eq_true, decide_eq_true_eq, List.all_eq_true] at complete
  rcases complete with silent | covered
  · exact absurd silent applies
  · exact covered

/-- What a determinate verdict over the flows of a pair rests on. -/
structure GroupGrounds (entry : EntryFact) (growth : VerifiedGrowthResult)
    (status : DispositionStatus) (ordered : List VerifiedFlow) (decisions : LifecycleDecisions) :
    Prop where
  formal : status = .formalEligible
  reachable : decisionStatus (externalFor inputs (entry.entryId, growth.growthId)).reachability =
    some "ordinary_attacker_reachable"
  growthVerified : growth.status = .verified
  flowsVerified : ∀ flow ∈ ordered, flow.satisfiesPremise = true
  covered : ∀ flow ∈ ordered, PathCovered inputs growth decisions
    (externalFor inputs (entry.entryId, growth.growthId)) flow

section

variable (entry : EntryFact) (growth : VerifiedGrowthResult) (status : DispositionStatus)
  (ordered : List VerifiedFlow) (decisions : LifecycleDecisions) (conclusion : Conclusion)
  (concluded : concludeGroup inputs entry growth status ordered decisions = .ok conclusion)

include concluded

theorem conclude_group_ok : conclusion.2 = StaticFinding.fromCertificate conclusion.1 ∧
    conclusion.1.entryId = entry.entryId ∧ conclusion.1.growthId = growth.growthId ∧
    conclusion.1.decisions = decisions ∧ conclusion.1.pathIds = certificatePaths ordered ∧
    (conclusion.1.verdict ≠ .staticUnknown →
      GroupGrounds inputs entry growth status ordered decisions) := by
  simp only [concludeGroup, bind_ok, pure_ok] at concluded
  obtain ⟨evaluations, evaluated, coverage, covered, derived, derivedOk, certificate, built, rfl⟩ :=
    concluded
  have verdict := (build_sound _ _ _ _ _ _ _ _ _ _ built).2
  obtain ⟨_, _, _, _, _, issued⟩ := build_issued _ _ _ _ _ _ _ _ _ _ built
  refine ⟨rfl, by rw [issued]; rfl, by rw [issued]; rfl, by rw [issued]; rfl,
    by rw [issued]; rfl, ?_⟩
  intro determinate
  have passes : (proofGate inputs status coverage growth
      (externalFor inputs (entry.entryId, growth.growthId)) ordered evaluations).Passes := by
    apply (gated_verdict_determinate derived (some _) _).2 _ rfl
    intro unknown
    exact determinate (verdict.trans unknown)
  obtain ⟨-, rfl, evaluatedBy⟩ := evaluations_flow _ _ _ _ _ evaluated
  have flows := passes.flowProven
  have first := passes.assertion1LifecycleComplete
  have second := passes.assertion2LifecycleComplete
  simp only [proofGate, Bool.and_eq_true, List.all_eq_true] at flows first second
  refine ⟨by simpa [proofGate] using passes.candidateRelevantGapFree,
    by simpa [proofGate] using passes.ordinaryReachability,
    by simpa [proofGate] using passes.growthVerified, flows.2, ?_⟩
  intro flow member
  obtain ⟨evaluation, present, rfl⟩ := List.mem_map.mp member
  obtain ⟨firstOk, secondOk⟩ := evaluatedBy evaluation present
  constructor
  · exact ⟨_, firstOk, lifecycle_complete_covered inputs _ _ _ (first evaluation present)⟩
  · exact ⟨_, secondOk, lifecycle_complete_covered inputs _ _ _ (second evaluation present)⟩

theorem group_assertions : ∃ evaluations, evaluationsByPath growth decisions
        (externalFor inputs (entry.entryId, growth.growthId)) ordered = .ok evaluations ∧
      conclusion.1.assertions = pathAssertions evaluations := by
  simp only [concludeGroup, bind_ok, pure_ok] at concluded
  obtain ⟨evaluations, evaluated, _, _, _, _, certificate, built, rfl⟩ := concluded
  obtain ⟨_, _, _, _, _, issued⟩ := build_issued _ _ _ _ _ _ _ _ _ _ built
  exact ⟨evaluations, evaluated, by rw [issued]; rfl⟩

end

theorem conclude_pair_ok (eligible : Statuses) (flows : List VerifiedFlow) (pair : Pair)
    (conclusion : Conclusion)
    (concluded : concludePair inputs eligible flows pair = .ok conclusion) :
    ∃ entry growth status decisions, inputs.entryMap.lookup pair.1 = some entry ∧
      inputs.growthMap.lookup pair.2 = some growth ∧ eligible.lookup pair = some status ∧
      sharedDecisions inputs ((groupOf flows pair).map VerifiedFlow.pathId) = .ok decisions ∧
      concludeGroup inputs entry growth status (groupOf flows pair) decisions = .ok conclusion := by
  unfold concludePair at concluded
  split at concluded
  · rename_i entry growth status entryFound growthFound statusFound
    obtain ⟨decisions, shared, concluded⟩ := bind_ok.mp concluded
    exact ⟨entry, growth, status, decisions, entryFound, growthFound, statusFound, shared, concluded⟩
  · cases concluded
  · cases concluded

theorem entry_found (identifier : String) (entry : EntryFact)
    (found : inputs.entryMap.lookup identifier = some entry) : entry.entryId = identifier := by
  obtain ⟨front, back, split, _⟩ := List.lookup_eq_some_iff.mp found
  have member : (identifier, entry) ∈ inputs.entryMap := by simp [split]
  obtain ⟨other, _, same⟩ := List.mem_map.mp member
  cases same
  rfl

theorem growth_found (identifier : String) (growth : VerifiedGrowthResult)
    (found : inputs.growthMap.lookup identifier = some growth) :
    growth ∈ inputs.growth ∧ growth.growthId = identifier := by
  obtain ⟨front, back, split, _⟩ := List.lookup_eq_some_iff.mp found
  have member : (identifier, growth) ∈ inputs.growthMap := by simp [split]
  obtain ⟨other, listed, same⟩ := List.mem_map.mp member
  cases same
  exact ⟨listed, rfl⟩

theorem conclude_pairs_ok (eligible : Statuses) (flows : List VerifiedFlow) (pairs : List Pair)
    (conclusions : List Conclusion)
    (concluded : concludePairs inputs eligible flows pairs = .ok conclusions) :
    conclusions.map conclusionPair = pairs ∧ ∀ conclusion ∈ conclusions,
        concludePair inputs eligible flows (conclusionPair conclusion) = .ok conclusion := by
  induction pairs generalizing conclusions with
  | nil =>
    cases concluded
    simp
  | cons pair pairs ih =>
    simp only [concludePairs, bind_ok, pure_ok] at concluded
    obtain ⟨first, firstOk, others, othersOk, rfl⟩ := concluded
    have rest := ih others othersOk
    obtain ⟨entry, growth, status, decisions, entryFound, growthFound, _, _, group⟩ :=
      conclude_pair_ok inputs eligible flows pair first firstOk
    have facts := conclude_group_ok inputs _ _ _ _ _ _ group
    have own : conclusionPair first = pair := by
      rw [conclusionPair, facts.1]
      exact Prod.ext (facts.2.1.trans (entry_found inputs _ _ entryFound))
        (facts.2.2.1.trans (growth_found inputs _ _ growthFound).2)
    constructor
    · rw [List.map_cons, own, rest.1]
    · intro conclusion member
      rcases List.mem_cons.mp member with rfl | member
      · rw [own]
        exact firstOk
      · exact rest.2 conclusion member

end

/-- The texts of a flow's own fields, without an empty one among them. -/
structure FlowTexts (flow : VerifiedFlow) : Prop where
  reasons : "" ∉ flow.reasonCodes
  evidence : "" ∉ flow.evidenceIds
  unresolved : "" ∉ flow.unresolvedFacts

section

variable (flow : FlowProof)

theorem flow_result_texts (status : FlowStatus) (reasons : List String)
    (checks : List FlowCheck) (evidence unresolved : List String) (built : VerifiedFlow)
    (returned : flowResult flow status reasons checks evidence unresolved = .ok built)
    (reasonsFilled : "" ∉ reasons) (evidenceFilled : "" ∉ evidence)
    (unresolvedFilled : "" ∉ unresolved) : FlowTexts built := by
  unfold flowResult at returned
  split at returned
  · cases returned
    exact ⟨by simpa [mem_sortedSet] using reasonsFilled, evidenceFilled,
      by simpa [mem_sortedSet] using unresolvedFilled⟩
  · cases returned

theorem flow_evidence_filled (entry : EntryFact)
    (growthResult : VerifiedGrowthResult) : "" ∉ flowEvidence flow entry growthResult := by
  have path := Text.startsWith_nonempty _ _ (by decide) flow.path_id_starts
  have entryId := Text.startsWith_nonempty _ _ (by decide) entry.entry_id_starts
  have growthId := Text.startsWith_nonempty _ _ (by decide) growthResult.growthIdStarts
  rw [flowEvidence, mem_sortedSet, List.mem_append]
  rintro (own | cited)
  · simp [path.symm, entryId.symm, growthId.symm] at own
  · cases known : growthResult.candidate with
    | none => simp [known] at cited
    | some candidate =>
      rw [known] at cited
      exact candidate.evidenceIds.filled cited

theorem verify_flow_texts (entries : List (String × EntryFact))
    (growth : List (String × VerifiedGrowthResult)) (built : VerifiedFlow)
    (returned : verifyFlow flow entries growth = .ok built) : FlowTexts built := by
  unfold verifyFlow at returned
  split at returned
  · cases returned
  rename_i entry _
  split at returned
  · cases returned
  rename_i growthResult _
  split at returned
  · cases returned
  have evidence := flow_evidence_filled flow entry growthResult
  simp only at returned
  split at returned
  · exact flow_result_texts _ _ _ _ _ _ _ returned (by decide) evidence (by decide)
  rename_i candidate _
  obtain ⟨bound, _, outcome⟩ := bind_ok.mp returned
  unfold flowOutcome at outcome
  split at outcome
  · exact flow_result_texts _ _ _ _ _ _ _ outcome List.not_mem_nil evidence List.not_mem_nil
  · rename_i passed name status reasons unresolved ran
    obtain ⟨gate, member, _, failure⟩ := run_failed_mem _ name (status, reasons, unresolved)
      (congrArg Prod.snd ran)
    have texts := (flow_gate_failure flow entry candidate growthResult bound gate member _ failure).2
    exact flow_result_texts _ _ _ _ _ _ _ outcome texts.1 evidence texts.2

end

section

theorem pattern_filled (entry : EntryFact) : entry.registrationPatternId ≠ "" := by
  intro empty
  have listed := entry.patternModeled
  rw [empty, Entries.Coverage.registrationCoveragePatternIds, mem_sortedSet,
    List.mem_filterMap] at listed
  obtain ⟨pattern, _, named⟩ := listed
  by_cases modeled : pattern ∈ Entries.Coverage.boundPatterns entry.framework.text
      entry.registration.kind.text
  · simp [Entries.Coverage.registrationCoveragePatternId, modeled,
      String.append_eq_empty_iff] at named
  · simp [Entries.Coverage.registrationCoveragePatternId, modeled] at named

variable (coverage : FrameworkCoverage) (entry : EntryFact) (growth : VerifiedGrowthResult)

theorem candidate_coverage_ok (same : coverage.framework = entry.framework) :
    ∃ narrowed, CandidateCoverage.fromFramework coverage (some entry.registrationPatternId)
      (some entry.entryId) (some growth.growthId) none = .ok narrowed := by
  have belongs := entry.pattern_belongs
  rw [← same] at belongs
  have entryId := Text.startsWith_nonempty _ _ (by decide) entry.entry_id_starts
  have growthId := Text.startsWith_nonempty _ _ (by decide) growth.growthIdStarts
  have pattern := pattern_filled entry
  unfold CandidateCoverage.fromFramework
  simp only
  split
  · simp [CandidateCoverage.create, belongs, entryId, growthId, pattern]
  · simp [CandidateCoverage.create, belongs, entryId, growthId, pattern,
      CandidateCoverage.uncoveredPattern]

theorem guarded_ok {α : Type} {condition : Prop} [Decidable condition]
    {accepted : condition → Checked α} {refused : Raised} {value : α}
    (returned : (if holds : condition then accepted holds else .error refused) = .ok value) :
    ∃ holds, accepted holds = .ok value := by
  split at returned
  · exact ⟨_, returned⟩
  · cases returned

theorem created_scope (framework : String) (status : Entries.CoverageStatus)
    (supported unsupported : TextSet) (pattern entryId growthId pathId : Option String)
    (created : CandidateCoverage)
    (built : CandidateCoverage.create framework status supported unsupported pattern entryId growthId
      pathId = .ok created) :
    created.framework = framework ∧ created.registrationPatternId = pattern ∧
      created.entryId = entryId ∧ created.growthId = growthId ∧ created.pathId = pathId ∧
      created.status = status := by
  unfold CandidateCoverage.create at built
  iterate 9
    obtain ⟨_, built⟩ := guarded_ok built
  cases built
  exact ⟨rfl, rfl, rfl, rfl, rfl, rfl⟩

theorem narrowed_matches (same : coverage.framework = entry.framework)
    (narrowed : CandidateCoverage)
    (found : CandidateCoverage.fromFramework coverage (some entry.registrationPatternId)
      (some entry.entryId) (some growth.growthId) none = .ok narrowed) :
    coverageMatches entry growth narrowed = true ∧ narrowed.pathId = none := by
  have scope : narrowed.framework = coverage.framework.text ∧
      narrowed.registrationPatternId = some entry.registrationPatternId ∧
      narrowed.entryId = some entry.entryId ∧ narrowed.growthId = some growth.growthId ∧
      narrowed.pathId = none := by
    unfold CandidateCoverage.fromFramework at found
    simp only at found
    split at found
    · have scope := created_scope _ _ _ _ _ _ _ _ _ found
      exact ⟨scope.1, scope.2.1, scope.2.2.1, scope.2.2.2.1, scope.2.2.2.2.1⟩
    · have scope := created_scope _ _ _ _ _ _ _ _ _ found
      exact ⟨scope.1, scope.2.1, scope.2.2.1, scope.2.2.2.1, scope.2.2.2.2.1⟩
  obtain ⟨framework, pattern, entryId, growthId, path⟩ := scope
  exact ⟨by simp [coverageMatches, framework, pattern, entryId, growthId, same], path⟩

variable (inputs : ConcludeInputs)

theorem framework_item_same (entry : EntryFact) :
    (frameworkItem inputs entry).framework = entry.framework := by
  unfold frameworkItem
  cases found : latest FrameworkCoverage.framework inputs.frameworkCoverage entry.framework with
  | none => rfl
  | some coverage => exact (latest_row _ _ _ _ found).2

end

/-- What the decisions and the flows of a pair may hold where its certificate is issued. -/
structure Certifiable (entry : EntryFact) (flows : List VerifiedFlow)
    (decisions : LifecycleDecisions) : Prop where
  texts : DecisionTexts decisions
  cited : "" ∉ citedByDecisions decisions
  ownEvidence : OwnEvidence entry flows decisions
  ownFlows : OwnFlows entry flows

variable (inputs : ConcludeInputs) (entry : EntryFact) (growth : VerifiedGrowthResult)
  (status : DispositionStatus) (ordered : List VerifiedFlow) (decisions : LifecycleDecisions)

section

variable (required : ordered ≠ []) (matched : flowsMatch entry growth ordered = true)
  (known : growth.candidate ≠ none) (flowTexts : ∀ flow ∈ ordered, FlowTexts flow)

theorem path_texts (flow : VerifiedFlow) (own : FlowTexts flow) (texts : DecisionTexts decisions)
    (cited : "" ∉ citedByDecisions decisions) : PathTexts flow decisions where
  flowReasons := own.reasons
  flowEvidence := own.evidence
  flowUnresolved := own.unresolved
  decisionEvidence := by
    intro facts member held
    exact cited (List.mem_flatMap.mpr ⟨facts, member, held⟩)
  decisionUnresolved := texts.unresolved

theorem evaluations_by_path_total (external : ExternalDecisions) (flows : List VerifiedFlow)
    (same : ∀ flow ∈ flows, flow.growthId = growth.growthId)
    (texts : ∀ flow ∈ flows, PathTexts flow decisions) :
    ∃ evaluations, evaluationsByPath growth decisions external flows = .ok evaluations := by
  induction flows with
  | nil => exact ⟨[], rfl⟩
  | cons flow flows ih =>
    obtain ⟨⟨first, firstOk⟩, second, secondOk⟩ := evaluations_total growth flow decisions external
      (same flow (.head _)) (texts flow (.head _))
    obtain ⟨others, othersOk⟩ := ih
      (fun other member => same other (.tail _ member))
      (fun other member => texts other (.tail _ member))
    exact ⟨(flow, first, second) :: others, by simp [evaluationsByPath, firstOk, secondOk,
      othersOk, bind, Except.bind, pure, Except.pure]⟩

theorem covered_entries_cited (expected : List AssertionEvaluation) (coverage : CandidateCoverage)
    (gate : Option VerdictProofGate) :
    (gatedVerdict (derivedVerdict expected coverage) gate).coveredEntries =
        (assertionEvidence expected).filter (Text.startsWith · "entry:") ∧
      (gatedVerdict (derivedVerdict expected coverage) gate).coveredPaths =
        (assertionEvidence expected).filter (Text.startsWith · "flow:") := by
  rw [gated_entries, gated_paths]
  exact ⟨rfl, rfl⟩

include required in
theorem certificate_certifiable (external : ExternalDecisions) (coverage : CandidateCoverage)
    (gate : Option VerdictProofGate) (expected : List AssertionEvaluation)
    (recomputed : expectedAssertions growth decisions external ordered = .ok expected)
    (verdict : StaticVerdict)
    (facts : CertificateFacts entry growth ordered decisions expected coverage verdict external
      gate) : Certifiable entry ordered decisions := by
  have evidence := expected_evidence growth ordered decisions external required expected recomputed
  have covered := covered_entries_cited expected coverage gate
  have entries := facts.coveredEntries
  have paths := facts.coveredPaths
  rw [facts.verdictDerived, covered.1] at entries
  rw [facts.verdictDerived, covered.2] at paths
  have ownEntry : ∀ identifier ∈ (assertionEvidence expected).values,
      Text.startsWith identifier "entry:" = true → identifier = entry.entryId := by
    intro identifier cited leads
    have member := (TextSet.mem_filter (Text.startsWith · "entry:") _ identifier).mpr ⟨cited, leads⟩
    rw [entries] at member
    exact List.mem_singleton.mp member
  have ownPath : ∀ identifier ∈ (assertionEvidence expected).values,
      Text.startsWith identifier "flow:" = true → identifier ∈ certificatePaths ordered := by
    intro identifier cited leads
    rw [← paths]
    exact (TextSet.mem_filter (Text.startsWith · "flow:") _ identifier).mpr ⟨cited, leads⟩
  have ofFlow : ∀ flow ∈ ordered, ∀ identifier ∈ flow.evidenceIds,
      identifier ∈ (assertionEvidence expected).values := by
    intro flow member identifier own
    exact (evidence identifier).mpr (Or.inl ⟨flow, member, by simp [flowIds, ids, own]⟩)
  have reasons := facts.reasonsFilled
  have unresolved := facts.unresolvedFilled
  simp only [certificateReasons, List.mem_append, not_or] at reasons
  simp only [certificateUnresolved, List.mem_append, not_or] at unresolved
  refine ⟨⟨?_, ?_⟩, ?_, ⟨?_, ?_⟩, ⟨?_, ?_⟩⟩
  · simp only [List.forall_mem_cons]
    exact ⟨reasons.1.1.2, reasons.1.2, reasons.2, List.forall_mem_nil _⟩
  · simp only [decisionFacts, List.forall_mem_cons]
    exact ⟨unresolved.1.1.2, unresolved.1.2, unresolved.2, List.forall_mem_nil _⟩
  · intro empty
    exact TextSet.filled (assertionEvidence expected) ((evidence "").mpr (Or.inr empty))
  · intro identifier cited
    exact ownEntry identifier ((evidence identifier).mpr (Or.inr cited))
  · intro identifier cited
    exact ownPath identifier ((evidence identifier).mpr (Or.inr cited))
  · intro flow member identifier own
    exact ownEntry identifier (ofFlow flow member identifier own)
  · intro flow member identifier own
    exact ownPath identifier (ofFlow flow member identifier own)

include required matched known flowTexts in
theorem conclude_group_total_iff :
    (∃ conclusion, concludeGroup inputs entry growth status ordered decisions = .ok conclusion) ↔
      Certifiable entry ordered decisions := by
  constructor
  · intro total
    obtain ⟨conclusion, concluded⟩ := total
    simp only [concludeGroup, bind_ok, pure_ok] at concluded
    obtain ⟨evaluations, evaluated, coverage, covered, derived, derivedOk, certificate, built, _⟩ :=
      concluded
    exact certificate_certifiable entry growth ordered decisions required _ coverage _ _
      (evaluations_flow _ _ _ _ _ evaluated).1 _ (build_sound _ _ _ _ _ _ _ _ _ _ built).1
  · intro certifiable
    have ids := flows_entry entry growth ordered matched
    obtain ⟨evaluations, evaluated⟩ := evaluations_by_path_total growth decisions
      (externalFor inputs (entry.entryId, growth.growthId)) ordered
      (fun flow member => (ids flow member).2)
      (fun flow member => path_texts decisions flow (flowTexts flow member) certifiable.texts
        certifiable.cited)
    have recomputed := (evaluations_flow _ _ _ _ _ evaluated).1
    have same := framework_item_same inputs entry
    obtain ⟨coverage, narrowed⟩ := candidate_coverage_ok (frameworkItem inputs entry) entry growth same
    have scope := narrowed_matches _ entry growth same coverage narrowed
    have gateFlows : ∀ gate, gate = proofGate inputs status coverage growth
        (externalFor inputs (entry.entryId, growth.growthId)) ordered evaluations →
        gate.flowProven = true → ordered.all VerifiedFlow.satisfiesPremise = true := by
      intro gate own proven
      rw [own, proofGate, Bool.and_eq_true] at proven
      exact proven.2
    have facts := (conclusion_facts_iff entry growth ordered decisions _ coverage _ _
      ⟨required, matched, certifiable.ownFlows, known, scope.1, scope.2, gateFlows _ rfl⟩
      certifiable.texts recomputed).mpr certifiable.ownEvidence
    obtain ⟨certificate, built⟩ := build_complete _ _ _ _ _ _ _ _ _ facts
    refine ⟨(certificate, StaticFinding.fromCertificate certificate), ?_⟩
    simp only [concludeGroup, bind_ok, pure_ok]
    exact ⟨evaluations, evaluated, coverage, narrowed, _,
      (derive_verdict_ok _ _ _).mpr ⟨facts.assertionsRequired, facts.scopesEvident, rfl⟩,
      certificate, built, rfl⟩

end

/-- The entry of a flow is known and its growth's candidate too. -/
def EndsKnown (flow : VerifiedFlow) : Prop :=
  ∃ entry growth, inputs.entryMap.lookup flow.entryId = some entry ∧
    inputs.growthMap.lookup flow.growthId = some growth ∧ growth.candidate ≠ none

def publishedDecisions (flow : VerifiedFlow) : Option LifecycleDecisions :=
  (lifecycleOf inputs flow.pathId).map LifecycleResult.decisions

theorem shared_decisions_ok (flows : List VerifiedFlow) (required : flows ≠ [])
    (present : ∀ flow ∈ flows, (lifecycleOf inputs flow.pathId).isSome = true)
    (decisions : LifecycleDecisions) :
    sharedDecisions inputs (flows.map VerifiedFlow.pathId) = .ok decisions ↔
      ∀ flow ∈ flows, publishedDecisions inputs flow = some decisions := by
  have listed : ∀ result, result ∈ (flows.map VerifiedFlow.pathId).filterMap (lifecycleOf inputs) ↔
      ∃ flow ∈ flows, lifecycleOf inputs flow.pathId = some result := by
    simp
  unfold sharedDecisions publishedDecisions
  constructor
  · intro shared flow member
    obtain ⟨result, found⟩ := Option.isSome_iff_exists.mp (present flow member)
    have held := (listed result).mpr ⟨flow, member, found⟩
    rw [found]
    split at shared
    · cases shared
    · rename_i first others gathered
      rw [gathered] at held
      split at shared
      · rename_i same
        cases shared
        rcases List.mem_cons.mp held with rfl | other
        · rfl
        · exact congrArg some (same result other)
      · cases shared
  · intro each
    obtain ⟨flow, member⟩ := List.exists_mem_of_ne_nil flows required
    obtain ⟨result, found⟩ := Option.isSome_iff_exists.mp (present flow member)
    have own : ∀ result ∈ (flows.map VerifiedFlow.pathId).filterMap (lifecycleOf inputs),
        result.decisions = decisions := by
      intro result held
      obtain ⟨flow, member, found⟩ := (listed result).mp held
      have same := each flow member
      rw [found] at same
      exact Option.some.inj same
    have held := (listed result).mpr ⟨flow, member, found⟩
    split
    · rename_i gathered
      rw [gathered] at held
      cases held
    · rename_i first others gathered
      rw [gathered] at own
      have leading := own first (.head _)
      rw [if_pos, leading]
      intro other member
      rw [own other (.tail _ member), leading]

/-- The paths of a pair share their decisions, which name only the pair. -/
def Agrees (flows : List VerifiedFlow) (pair : Pair) : Prop :=
  ∃ entry decisions, inputs.entryMap.lookup pair.1 = some entry ∧
    (∀ flow ∈ groupOf flows pair, publishedDecisions inputs flow = some decisions) ∧
    Certifiable entry (groupOf flows pair) decisions

theorem conclude_pair_total_iff (eligible : Statuses) (flows : List VerifiedFlow) (pair : Pair)
    (selected : (eligible.lookup pair).isSome = true) (flowed : ∃ flow ∈ flows, flowPair flow = pair)
    (present : ∀ flow ∈ flows, (lifecycleOf inputs flow.pathId).isSome = true)
    (ends : ∀ flow ∈ flows, EndsKnown inputs flow) (texts : ∀ flow ∈ flows, FlowTexts flow) :
    (∃ conclusion, concludePair inputs eligible flows pair = .ok conclusion) ↔
      Agrees inputs flows pair := by
  obtain ⟨flow, member, rfl⟩ := flowed
  obtain ⟨status, statusFound⟩ := Option.isSome_iff_exists.mp selected
  obtain ⟨entry, growth, entryFound, growthFound, known⟩ := ends flow member
  have inGroup : ∀ other ∈ groupOf flows (flowPair flow), other ∈ flows ∧
      flowPair other = flowPair flow := fun other grouped => (group_mem _ _ _).mp grouped
  have required : groupOf flows (flowPair flow) ≠ [] :=
    List.ne_nil_of_mem ((group_mem _ _ _).mpr ⟨member, rfl⟩)
  have matched : flowsMatch entry growth (groupOf flows (flowPair flow)) = true := by
    apply List.all_eq_true.mpr
    intro other grouped
    have same := Prod.ext_iff.mp (inGroup other grouped).2
    have entrySame := same.1.trans (entry_found inputs _ _ entryFound).symm
    have growthSame := same.2.trans (growth_found inputs _ _ growthFound).2.symm
    simpa [flowPair] using And.intro entrySame growthSame
  have shared := shared_decisions_ok inputs (groupOf flows (flowPair flow)) required
    (fun other grouped => present other (inGroup other grouped).1)
  have group := fun decisions => conclude_group_total_iff inputs entry growth status
    (groupOf flows (flowPair flow)) decisions required matched known
    (fun other grouped => texts other (inGroup other grouped).1)
  unfold concludePair
  rw [show inputs.entryMap.lookup (flowPair flow).1 = some entry from entryFound,
    show inputs.growthMap.lookup (flowPair flow).2 = some growth from growthFound, statusFound]
  constructor
  · intro total
    obtain ⟨conclusion, concluded⟩ := total
    obtain ⟨decisions, sharedOk, concluded⟩ := bind_ok.mp concluded
    exact ⟨entry, decisions, entryFound, (shared decisions).mp sharedOk,
      (group decisions).mp ⟨conclusion, concluded⟩⟩
  · intro agrees
    obtain ⟨other, decisions, otherFound, each, certifiable⟩ := agrees
    have same := Option.some.inj (otherFound.symm.trans entryFound)
    subst same
    obtain ⟨conclusion, concluded⟩ := (group decisions).mpr certifiable
    exact ⟨conclusion, bind_ok.mpr ⟨decisions, (shared decisions).mpr each, concluded⟩⟩

theorem conclude_pairs_total_iff (eligible : Statuses) (flows : List VerifiedFlow)
    (pairs : List Pair) :
    (∃ conclusions, concludePairs inputs eligible flows pairs = .ok conclusions) ↔
      ∀ pair ∈ pairs, ∃ conclusion, concludePair inputs eligible flows pair = .ok conclusion := by
  induction pairs with
  | nil => simp [concludePairs]
  | cons pair pairs ih =>
    rw [List.forall_mem_cons, ← ih]
    simp only [concludePairs, bind_ok, pure_ok]
    constructor
    · intro total
      obtain ⟨_, first, firstOk, others, othersOk, _⟩ := total
      exact ⟨⟨first, firstOk⟩, others, othersOk⟩
    · intro total
      obtain ⟨⟨first, firstOk⟩, others, othersOk⟩ := total
      exact ⟨first :: others, first, firstOk, others, othersOk, rfl⟩

def familyStanding (decisions : LifecycleDecisions) : Family → Standing
  | .guard => guardStanding decisions.guard
  | .bound => boundStanding decisions.bound
  | .release => releaseStanding decisions.release

/-- What a vulnerable pair needs apart from its lifecycle decisions and coverage. -/
structure PairProven : Prop where
  formal : status = .formalEligible
  reachable : decisionStatus (externalFor inputs (entry.entryId, growth.growthId)).reachability =
    some "ordinary_attacker_reachable"
  growthVerified : growth.status = .verified
  flowsRequired : ordered ≠ []
  flowsVerified : ∀ flow ∈ ordered, flow.satisfiesPremise = true
  covered : ∃ coverage, CandidateCoverage.fromFramework (frameworkItem inputs entry)
    (some entry.registrationPatternId) (some entry.entryId) (some growth.growthId) none =
      .ok coverage ∧ coverage.status = .complete

variable (early1 early2 : VerifiedFlow → Option AssertionStatus)
  (spec1 : ∀ flow guard bound, (assertion1Finding growth flow guard bound
    (externalFor inputs (entry.entryId, growth.growthId)).amplification
    (externalFor inputs (entry.entryId, growth.growthId)).reachability).status =
      (early1 flow).getD (assertionStatus (guardStanding guard) (boundStanding bound)))
  (spec2 : ∀ flow bound release, (assertion2Finding growth flow bound release
    (externalFor inputs (entry.entryId, growth.growthId)).reachability
    (externalFor inputs (entry.entryId, growth.growthId)).repeatability).status =
      (early2 flow).getD (assertionStatus (boundStanding bound) (releaseStanding release)))

/-- The family is covered on the path, as the coverage was last published. -/
def PathCovers (flow : VerifiedFlow) (family : Family) : Prop :=
  coverageOf inputs flow family = some .complete

include spec1 spec2 in
theorem evaluations_statuses (evaluations : List PathEvaluations)
    (evaluated : evaluationsByPath growth decisions
      (externalFor inputs (entry.entryId, growth.growthId)) ordered = .ok evaluations) :
    ∀ evaluation ∈ evaluations, evaluation.1 ∈ ordered ∧
      evaluation.2.1.status = firstStatus early1 (familyStanding decisions) evaluation.1 ∧
      evaluation.2.2.status = secondStatus early2 (familyStanding decisions) evaluation.1 := by
  obtain ⟨-, rfl, evaluatedBy⟩ := evaluations_flow _ _ _ _ _ evaluated
  intro evaluation member
  obtain ⟨first, second⟩ := evaluatedBy evaluation member
  obtain ⟨_, firstHolds⟩ := (evaluate_assertion_1_ok _ _ _ _ _ _ _).mp first
  obtain ⟨_, secondHolds⟩ := (evaluate_assertion_2_ok _ _ _ _ _ _ _).mp second
  refine ⟨List.mem_map_of_mem member, ?_, ?_⟩
  · rw [firstHolds.status, spec1]
    rfl
  · rw [secondHolds.status, spec2]
    rfl

include spec1 spec2 in
/-- A pair's conclusion is vulnerable exactly where the pair is proven and its decisions and
coverage leave it vulnerable. -/
theorem conclude_group_vulnerable_iff (conclusion : Conclusion)
    (concluded : concludeGroup inputs entry growth status ordered decisions = .ok conclusion) :
    conclusion.1.verdict = .staticVulnerable ↔ PairProven inputs entry growth status ordered ∧
        Vulnerable ordered early1 early2 (familyStanding decisions) (PathCovers inputs) := by
  simp only [concludeGroup, bind_ok, pure_ok] at concluded
  obtain ⟨evaluations, evaluated, coverage, narrowed, derived, derivedOk, certificate, built, rfl⟩ :=
    concluded
  have verdict := (build_sound _ _ _ _ _ _ _ _ _ _ built).2
  have required := (build_sound _ _ _ _ _ _ _ _ _ _ built).1.flowsRequired
  obtain ⟨_, _, rfl⟩ := (derive_verdict_ok _ _ _).mp derivedOk
  have statuses := evaluations_statuses inputs entry growth ordered decisions early1 early2 spec1
    spec2 evaluations evaluated
  obtain ⟨recomputed, paths, -⟩ := evaluations_flow _ _ _ _ _ evaluated
  have byPath (flow) (present : flow ∈ ordered) := List.mem_map.mp (paths ▸ present)
  have settled : ∀ assertion ∈ pathAssertions evaluations, assertion.status = .unknown ∨
      assertion.unresolvedFacts.values = [] := by
    intro assertion member
    obtain ⟨flow, _, own⟩ := (expected_assertion_mem growth decisions _ ordered _ recomputed
      assertion).mp member
    exact recomputed_settled growth flow decisions _ assertion own
  have listed : ∀ assertion, assertion ∈ pathAssertions evaluations ↔
      ∃ evaluation ∈ evaluations, assertion = evaluation.2.1 ∨ assertion = evaluation.2.2 := by
    simp [pathAssertions]
  have criterion := gated_vulnerable_iff (pathAssertions evaluations) coverage
    (proofGate inputs status coverage growth (externalFor inputs (entry.entryId, growth.growthId))
      ordered evaluations) settled
  rw [show (certificate, StaticFinding.fromCertificate certificate).1.verdict =
    certificate.verdict from rfl, verdict]
  refine Iff.trans criterion ?_
  constructor
  · intro grounds
    obtain ⟨complete, known, ⟨assertion, member, matched⟩, passes⟩ := grounds
    have flows := passes.flowProven
    have first := passes.assertion1LifecycleComplete
    have second := passes.assertion2LifecycleComplete
    simp only [proofGate, Bool.and_eq_true, List.all_eq_true] at flows first second
    refine ⟨⟨by simpa [proofGate] using passes.candidateRelevantGapFree,
      by simpa [proofGate] using passes.ordinaryReachability,
      by simpa [proofGate] using passes.growthVerified, required, flows.2,
      coverage, narrowed, complete⟩, ?_, ?_, ?_, ?_⟩
    · intro flow present
      obtain ⟨evaluation, inEvaluations, rfl⟩ := byPath flow present
      have own := statuses evaluation inEvaluations
      rw [← own.2.1, ← own.2.2]
      exact ⟨known _ ((listed _).mpr ⟨evaluation, inEvaluations, Or.inl rfl⟩),
        known _ ((listed _).mpr ⟨evaluation, inEvaluations, Or.inr rfl⟩)⟩
    · obtain ⟨evaluation, inEvaluations, either⟩ := (listed assertion).mp member
      have own := statuses evaluation inEvaluations
      refine ⟨evaluation.1, own.1, ?_⟩
      rw [← own.2.1, ← own.2.2]
      rcases either with rfl | rfl
      · exact Or.inl matched
      · exact Or.inr matched
    · intro flow present applies
      obtain ⟨evaluation, inEvaluations, rfl⟩ := byPath flow present
      rw [← (statuses evaluation inEvaluations).2.1] at applies
      have covered := lifecycle_complete_covered inputs _ _ _ (first evaluation inEvaluations) applies
      exact ⟨covered .guard (by simp), covered .bound (by simp)⟩
    · intro flow present applies
      obtain ⟨evaluation, inEvaluations, rfl⟩ := byPath flow present
      rw [← (statuses evaluation inEvaluations).2.2] at applies
      have covered := lifecycle_complete_covered inputs _ _ _ (second evaluation inEvaluations) applies
      exact ⟨covered .bound (by simp), covered .release (by simp)⟩
  · intro grounds
    obtain ⟨proven, vulnerable⟩ := grounds
    obtain ⟨own, ownOk, complete⟩ := proven.covered
    rw [narrowed] at ownOk
    cases ownOk
    refine ⟨complete, ?_, ?_, ?_⟩
    · intro assertion member
      obtain ⟨evaluation, inEvaluations, either⟩ := (listed assertion).mp member
      have statusesOf := statuses evaluation inEvaluations
      have known := vulnerable.known evaluation.1 statusesOf.1
      rw [← statusesOf.2.1, ← statusesOf.2.2] at known
      rcases either with rfl | rfl
      · exact known.1
      · exact known.2
    · obtain ⟨flow, present, either⟩ := vulnerable.matched
      obtain ⟨evaluation, inEvaluations, rfl⟩ := byPath flow present
      have statusesOf := statuses evaluation inEvaluations
      rw [← statusesOf.2.1, ← statusesOf.2.2] at either
      rcases either with matched | matched
      · exact ⟨_, (listed _).mpr ⟨evaluation, inEvaluations, Or.inl rfl⟩, matched⟩
      · exact ⟨_, (listed _).mpr ⟨evaluation, inEvaluations, Or.inr rfl⟩, matched⟩
    · refine ⟨?_, ?_, ?_, ?_, ?_, ?_, ?_⟩
      · exact decide_eq_true complete
      · exact decide_eq_true proven.reachable
      · exact decide_eq_true proven.growthVerified
      · simp only [proofGate, Bool.and_eq_true, List.all_eq_true, decide_eq_true_eq]
        exact ⟨required, proven.flowsVerified⟩
      · apply List.all_eq_true.mpr
        intro evaluation inEvaluations
        have statusesOf := statuses evaluation inEvaluations
        rw [lifecycleComplete, Bool.or_eq_true, decide_eq_true_eq, or_iff_not_imp_left]
        intro applies
        rw [statusesOf.2.1] at applies
        have covered := vulnerable.firstCovered evaluation.1 statusesOf.1 applies
        simp only [List.all_cons, List.all_nil, Bool.and_true, Bool.and_eq_true, decide_eq_true_eq]
        exact covered
      · apply List.all_eq_true.mpr
        intro evaluation inEvaluations
        have statusesOf := statuses evaluation inEvaluations
        rw [lifecycleComplete, Bool.or_eq_true, decide_eq_true_eq, or_iff_not_imp_left]
        intro applies
        rw [statusesOf.2.2] at applies
        have covered := vulnerable.secondCovered evaluation.1 statusesOf.1 applies
        simp only [List.all_cons, List.all_nil, Bool.and_true, Bool.and_eq_true, decide_eq_true_eq]
        exact covered
      · exact decide_eq_true proven.formal

end DosWeb.Production
