import DosWeb.Production.Groups

/-!
Every eligible pair reaches exactly one finding, and a determinate finding has passed
every condition of the gate.
-/

namespace DosWeb.Production

open Library Library.OrderedSet
open Entries (EntryFact sampleEntry samplePattern)
open Flows
open Growth (VerifiedGrowthResult)
open Lifecycle Conclude

section

variable (inputs : ConcludeInputs)

/-- A disposition of the status selects the pair of an entry and a growth. -/
def SelectedAs (status : DispositionStatus) (pair : Pair) : Prop :=
  ∃ disposition ∈ inputs.dispositions, disposition.status = status ∧
    Selects inputs.links disposition pair

def ProofOf (pair : Pair) (proof : FlowProof) : Prop :=
  proof ∈ inputs.flowProofs ∧ (proof.entryId, proof.growthId) = pair

/-- What a certificate with a determinate verdict rests on. The coverage of a path's family is
the last row that names it. -/
structure DeterminateGrounds (certificate : LifecycleCertificate) : Prop where
  formal : SelectedAs inputs .formalEligible (certificate.entryId, certificate.growthId)
  reachable : ∃ decision, (certificate.entryId, decision) ∈ inputs.reachability ∧
    decision.status = some "ordinary_attacker_reachable"
  paths : ∃ growth ∈ inputs.growth, growth.growthId = certificate.growthId ∧
    growth.status = .verified ∧
    ∀ proof, ProofOf inputs (certificate.entryId, certificate.growthId) proof →
      ∃ flow, verifyFlow proof inputs.entryMap inputs.growthMap = .ok flow ∧
        flow.satisfiesPremise = true ∧ PathCovered inputs growth certificate.decisions
          (externalFor inputs (certificate.entryId, certificate.growthId)) flow

section

variable (flows : List VerifiedFlow)
  (verified : verifyFlows inputs.entryMap inputs.growthMap inputs.flowProofs = .ok flows)
  (pair : Pair)

include verified

theorem flow_of_proof (proof : FlowProof) (own : ProofOf inputs pair proof) :
    ∃ flow ∈ groupOf flows pair, verifyFlow proof inputs.entryMap inputs.growthMap = .ok flow := by
  obtain ⟨flow, member, found⟩ := verify_flows_total _ _ _ _ verified proof own.1
  have origin := verify_flow_proof _ _ _ _ found
  refine ⟨flow, (group_mem flows pair flow).mpr ⟨member, ?_⟩, found⟩
  rw [flowPair, flow.entryMatches, flow.growthMatches, origin]
  exact own.2

theorem group_paths (pathId : String) : pathId ∈ certificatePaths (groupOf flows pair) ↔
      ∃ proof, ProofOf inputs pair proof ∧ proof.pathId = pathId := by
  rw [certificatePaths, mem_sortedSet, List.mem_map]
  constructor
  · intro listed
    obtain ⟨flow, member, rfl⟩ := listed
    obtain ⟨present, own⟩ := (group_mem flows pair flow).mp member
    obtain ⟨proof, known, found⟩ := (verify_flows_mem _ _ _ _ verified flow).mp present
    have origin := verify_flow_proof _ _ _ _ found
    refine ⟨proof, ⟨known, ?_⟩, ?_⟩
    · rw [← own, flowPair, flow.entryMatches, flow.growthMatches, origin]
    · rw [flow.pathMatches, origin]
  · intro proven
    obtain ⟨proof, own, rfl⟩ := proven
    obtain ⟨flow, member, found⟩ := flow_of_proof inputs flows verified pair proof own
    exact ⟨flow, member, by rw [flow.pathMatches, verify_flow_proof _ _ _ _ found]⟩

end

/-- The findings account for every eligible pair once, and a determinate one has its grounds. -/
theorem findings_account (conclusions : List Conclusion)
    (concluded : conclude inputs = .ok conclusions) :
    (∀ pair, pair ∈ conclusions.map conclusionPair ↔
      SelectedAs inputs .formalEligible pair ∨ SelectedAs inputs .gapEligible pair) ∧
    (conclusions.map conclusionPair).Nodup ∧ ∀ conclusion ∈ conclusions,
      conclusion.2 = StaticFinding.fromCertificate conclusion.1 ∧ conclusion.1.pathIds.Nodup ∧
      (∀ pathId, pathId ∈ conclusion.1.pathIds ↔
        ∃ proof, ProofOf inputs (conclusionPair conclusion) proof ∧ proof.pathId = pathId) ∧
      (conclusion.2.verdict ≠ .staticUnknown → DeterminateGrounds inputs conclusion.1) := by
  simp only [conclude, bind_ok, require_ok] at concluded
  obtain ⟨_, _, _, _, flows, verified, eligible, resolved, _, _, concluded⟩ := concluded
  have loop := conclude_pairs_ok inputs eligible flows _ _ concluded
  have selected : ∀ pair status, eligible.lookup pair = some status ↔
      status.concludes = true ∧ SelectedAs inputs status pair := by
    intro pair status
    rw [(eligible_iff _ _ _ _ resolved pair status).1]
    constructor
    · intro found
      obtain ⟨disposition, member, rfl, concludes, selects⟩ := found
      exact ⟨concludes, disposition, member, rfl, selects⟩
    · intro found
      obtain ⟨concludes, disposition, member, rfl, selects⟩ := found
      exact ⟨disposition, member, rfl, concludes, selects⟩
  refine ⟨?_, ?_, ?_⟩
  · intro pair
    rw [loop.1, pairs_in_order_mem, Option.isSome_iff_exists]
    constructor
    · intro ordered
      obtain ⟨_, status, found⟩ := ordered
      have own := (selected pair status).mp found
      cases status with
      | formalEligible => exact Or.inl own.2
      | gapEligible => exact Or.inr own.2
      | rejected => cases own.1
      | inventoryUnresolved => cases own.1
    · intro either
      have found : ∃ status, eligible.lookup pair = some status := by
        rcases either with formal | gap
        · exact ⟨_, (selected pair _).mpr ⟨rfl, formal⟩⟩
        · exact ⟨_, (selected pair _).mpr ⟨rfl, gap⟩⟩
      obtain ⟨status, held⟩ := found
      obtain ⟨concludes, disposition, member, rfl, selects⟩ := (selected pair status).mp held
      have flowed := (eligible_iff _ _ _ _ resolved pair disposition.status).2 disposition member
        concludes selects
      exact ⟨List.mem_map.mp flowed, disposition.status, held⟩
  · rw [loop.1]
    exact pairs_in_order_nodup eligible flows
  · intro conclusion member
    obtain ⟨entry, growth, status, decisions, entryFound, growthFound, statusFound, _, group⟩ :=
      conclude_pair_ok inputs eligible flows _ conclusion (loop.2 conclusion member)
    obtain ⟨finding, entryId, growthId, held, paths, grounded⟩ :=
      conclude_group_ok inputs _ _ _ _ _ _ group
    have own : conclusionPair conclusion = (conclusion.1.entryId, conclusion.1.growthId) := by
      rw [conclusionPair, finding]
      rfl
    refine ⟨finding, ?_, ?_, ?_⟩
    · exact conclusion.1.pathsOrdered.imp fun before => ne_of_lt before
    · intro pathId
      rw [paths]
      exact group_paths inputs flows verified _ pathId
    · intro determinate
      have grounds := grounded (by rw [finding] at determinate; exact determinate)
      rw [own] at statusFound growthFound grounds
      have reached := grounds.reachable
      rw [← entryId, ← growthId] at reached
      simp only [decisionStatus, externalFor, Option.bind_eq_some_iff, Option.map_eq_some_iff]
        at reached
      obtain ⟨decision, ⟨row, found, rfl⟩, ordinary⟩ := reached
      obtain ⟨listed, named⟩ := latest_row _ _ _ _ found
      refine ⟨?_, ⟨row.2, ?_, ordinary⟩, growth, (growth_found inputs _ _ growthFound).1,
        growthId.symm, grounds.growthVerified, ?_⟩
      · have formal := grounds.formal
        subst formal
        exact ((selected _ _).mp statusFound).2
      · rw [← named]
        exact listed
      · intro proof proven
        obtain ⟨flow, present, verifies⟩ := flow_of_proof inputs flows verified _ proof proven
        have covered := grounds.covered flow present
        rw [← entryId, ← growthId, ← held] at covered
        exact ⟨flow, verifies, grounds.flowsVerified flow present, covered⟩

end

def sampleFrameworkCoverage : Entries.FrameworkCoverage where
  framework := .springMvc
  status := .complete
  supportedPatterns := TextSet.single samplePattern sample_pattern_filled
  unsupportedPatterns := .empty
  effectOnVerdict := .noEffect
  patternsValid := by decide
  effectMatches := rfl
  disjoint := fun _ _ => List.not_mem_nil
  completeWithoutGaps := sampleCoverage.completeWithoutGaps
  incompleteWithGap := sampleCoverage.incompleteWithGap
  supportedModeled := List.forall_mem_singleton.mpr sampleEntry.pattern_belongs

def sampleCovered (family : Family) (status : Coverage) : LifecycleCoverage :=
  ⟨sampleEntry.entryId, sampleGrowthResult.growthId, sampleFlowProof.pathId, family, status,
    "LIFECYCLE_MODELED_DOMAIN"⟩

/-- One formally eligible path, whose guard coverage has a row that a later one replaces. -/
def sampleInputs : ConcludeInputs where
  entries := [sampleEntry]
  growth := [sampleGrowthResult]
  flowProofs := [sampleFlowProof]
  lifecycle := [⟨sampleFlowProof.pathId, sampleDecisions⟩]
  coverage := [sampleCovered .guard .partialCoverage, sampleCovered .guard .complete,
    sampleCovered .bound .complete, sampleCovered .release .complete]
  frameworkCoverage := [sampleFrameworkCoverage]
  reachability := [(sampleEntry.entryId,
    ⟨some "ordinary_attacker_reachable", some "reachability:cache"⟩)]
  repeatability := [((sampleEntry.entryId, sampleGrowthResult.growthId),
    ⟨some "proven", some "repeatability:cache"⟩)]
  amplification := [((sampleEntry.entryId, sampleGrowthResult.growthId),
    ⟨some "proven", some "amplification:cache"⟩)]
  links := [⟨"candidate_link:cache", sampleGrowthResult.growthId, sampleEntry.entryId⟩]
  dispositions := [⟨sampleGrowthResult.growthId, .formalEligible, ["candidate_link:cache"]⟩]

/-- A vulnerable conclusion on the path, which its first assertion is about. -/
def staticallyVulnerable (conclusion : Conclusion) : Bool :=
  conclusion.2.verdict = .staticVulnerable &&
    conclusion.1.pathIds.contains sampleFlowProof.pathId &&
    conclusion.1.assertions.any fun assertion =>
      assertion.assertion = .assertion1 && assertion.status ≠ .notApplicable

def sampleEntries : List (String × EntryFact) := [(sampleEntry.entryId, sampleEntry)]

def sampleGrowths : List (String × VerifiedGrowthResult) :=
  [(sampleGrowthResult.growthId, sampleGrowthResult)]

def samplePair : Pair := (sampleEntry.entryId, sampleGrowthResult.growthId)

theorem single_eligible (linkId entryId growthId : String) (flowPairs : List Pair)
    (flowed : (entryId, growthId) ∈ flowPairs) :
    eligibleConclusionPairs [⟨linkId, growthId, entryId⟩] flowPairs
      [⟨growthId, .formalEligible, [linkId]⟩] = .ok [((entryId, growthId), .formalEligible)] := by
  simp [eligibleConclusionPairs, resolveDispositions, resolveDisposition,
    DispositionStatus.concludes, linkedPairs, linkedPair, recordStatuses, recordStatus, flowed,
    require, bind, Except.bind, pure, Except.pure]

theorem sample_edges (proof : FlowProof)
    (control : proof.attackerControl = Conclude.sampleFlowProof.attackerControl)
    (path : proof.callPath = Conclude.sampleFlowProof.callPath) :
    edgesChecked proof sampleEntry Growth.sampleCandidate = .ok true := by
  have mapped : semanticsMapped Conclude.sampleFlowProof sampleEntry Growth.sampleCandidate =
      true := by
    decide
  have rooted : entryRooted Conclude.sampleFlowProof sampleEntry = true := by
    decide
  have bound : callPathBound Conclude.sampleFlowProof sampleEntry = .ok true := by
    rfl
  unfold semanticsMapped at mapped
  unfold entryRooted at rooted
  unfold callPathBound at bound
  unfold edgesChecked semanticsMapped entryRooted callPathBound
  rw [control, path, mapped, rooted]
  exact bound

theorem sample_verified (proof : FlowProof) (entryId : proof.entryId = sampleEntry.entryId)
    (growthId : proof.growthId = sampleGrowthResult.growthId)
    (control : proof.attackerControl = Conclude.sampleFlowProof.attackerControl)
    (path : proof.callPath = Conclude.sampleFlowProof.callPath) :
    verifyFlow proof sampleEntries sampleGrowths =
      flowOutcome proof (flowEvidence proof sampleEntry sampleGrowthResult)
        (Gates.run (flowGates proof sampleEntry Growth.sampleCandidate sampleGrowthResult true)) := by
  have edges := sample_edges proof control path
  simp only [verifyFlow, sampleEntries, sampleGrowths, entryId, growthId, List.lookup_cons_self,
    ne_eq, not_true_eq_false, or_self, if_false, sampleGrowthResult, edges, bind, Except.bind]

theorem flow_result_made (flow : FlowProof) (status : FlowStatus) (reasons : List String)
    (checks : List FlowCheck) (evidence unresolved : List String)
    (shape : FlowShape status (sortedSet reasons) checks) :
    ∃ built, flowResult flow status reasons checks evidence unresolved = .ok built ∧
      built.satisfiesPremise = decide (status = .verified) ∧ built.evidenceIds = evidence ∧
      built.unresolvedFacts = sortedSet unresolved := by
  unfold flowResult
  rw [dif_pos shape]
  exact ⟨_, rfl, rfl, rfl, rfl⟩

theorem sample_proven : ∃ flow, verifyFlow Conclude.sampleFlowProof sampleEntries sampleGrowths =
    .ok flow ∧ flow.satisfiesPremise = true ∧
      flow.evidenceIds = flowEvidence Conclude.sampleFlowProof sampleEntry sampleGrowthResult ∧
      flow.unresolvedFacts = [] := by
  rw [sample_verified _ rfl rfl rfl rfl]
  exact flow_result_made _ _ _ _ _ _ (by decide)

structure SampleVerified (flow : VerifiedFlow) : Prop where
  verified : verifyFlow Conclude.sampleFlowProof sampleEntries sampleGrowths = .ok flow
  premise : flow.satisfiesPremise = true
  evidence : flow.evidenceIds = flowEvidence Conclude.sampleFlowProof sampleEntry
    sampleGrowthResult
  resolved : flow.unresolvedFacts = []

theorem sample_verified_flow : ∃ flow, SampleVerified flow := by
  obtain ⟨flow, verified, premise, evidence, resolved⟩ := sample_proven
  exact ⟨flow, verified, premise, evidence, resolved⟩

section

variable (flow : VerifiedFlow) (own : SampleVerified flow)

include own in
theorem sample_flow_ids : flow.pathId = sampleFlowProof.pathId ∧ flowPair flow = samplePair := by
  have origin := verify_flow_proof _ _ _ _ own.verified
  have entry : flow.entryId = sampleEntry.entryId := by
    rw [flow.entryMatches, origin]
    rfl
  have growth : flow.growthId = sampleGrowthResult.growthId := by
    rw [flow.growthMatches, origin]
    rfl
  exact ⟨by rw [flow.pathMatches, origin], Prod.ext entry growth⟩

include own in
theorem sample_flows : verifyFlows sampleInputs.entryMap sampleInputs.growthMap
      sampleInputs.flowProofs = .ok [flow] ∧
    eligibleConclusionPairs sampleInputs.links ([flow].map flowPair) sampleInputs.dispositions =
      .ok [(samplePair, .formalEligible)] := by
  constructor
  · exact bind_ok.mpr ⟨flow, own.verified, rfl⟩
  · rw [List.map_singleton, (sample_flow_ids flow own).2]
    exact single_eligible "candidate_link:cache" _ _ _ (.head _)

include own in
theorem sample_group : groupOf [flow] samplePair = [flow] := by
  simp [groupOf, (sample_flow_ids flow own).2]

include own in
theorem sample_own_flows : OwnFlows sampleEntry [flow] := by
  obtain ⟨path, _⟩ := sample_flow_ids flow own
  have evidence : ∀ identifier ∈ flow.evidenceIds, identifier = flow.pathId ∨
      identifier = sampleEntry.entryId ∨ identifier = sampleGrowthResult.growthId ∨
      identifier = "fact:put" := by
    intro identifier member
    rw [own.evidence, flowEvidence, mem_sortedSet] at member
    rw [path]
    simpa [sampleGrowthResult, Growth.sampleCandidate] using member
  have growthLead := sampleGrowthResult.growthIdStarts
  have entryLead := sampleEntry.entry_id_starts
  have pathLead : Text.startsWith flow.pathId "flow:" = true := by
    rw [path]
    exact FlowProof.path_id_starts _
  constructor
  · intro other present identifier member leads
    rw [List.mem_singleton.mp present] at member
    rcases evidence identifier member with rfl | same | rfl | rfl
    · rw [Text.startsWith_other _ "flow:" "entry:" pathLead (by decide)] at leads
      cases leads
    · exact same
    · rw [Text.startsWith_other _ "growth:" "entry:" growthLead (by decide)] at leads
      cases leads
    · rw [show Text.startsWith "fact:put" "entry:" = false by decide] at leads
      cases leads
  · intro other present identifier member leads
    rw [List.mem_singleton.mp present] at member
    rcases evidence identifier member with same | rfl | rfl | rfl
    · rw [same, certificatePaths, mem_sortedSet]
      exact List.mem_singleton_self _
    · rw [Text.startsWith_other _ "entry:" "flow:" entryLead (by decide)] at leads
      cases leads
    · rw [Text.startsWith_other _ "growth:" "flow:" growthLead (by decide)] at leads
      cases leads
    · rw [show Text.startsWith "fact:put" "flow:" = false by decide] at leads
      cases leads

variable (inputs : ConcludeInputs)

include own in
theorem sample_pair_concluded
    (entryFound : inputs.entryMap.lookup sampleEntry.entryId = some sampleEntry)
    (growthFound : inputs.growthMap.lookup sampleGrowthResult.growthId = some sampleGrowthResult)
    (decisions : LifecycleDecisions) (published : publishedDecisions inputs flow = some decisions)
    (certifiable : Certifiable sampleEntry [flow] decisions) :
    ∃ conclusion, concludePair inputs [(samplePair, .formalEligible)] [flow] samplePair =
        .ok conclusion ∧
      concludeGroup inputs sampleEntry sampleGrowthResult .formalEligible [flow] decisions =
        .ok conclusion := by
  have pair := (sample_flow_ids flow own).2
  have grouped := sample_group flow own
  have selected : (List.lookup samplePair [(samplePair, DispositionStatus.formalEligible)]) =
      some .formalEligible := List.lookup_cons_self
  have present : ∀ other ∈ [flow], (lifecycleOf inputs other.pathId).isSome = true := by
    rw [publishedDecisions, Option.map_eq_some_iff] at published
    obtain ⟨_, found, _⟩ := published
    intro other member
    rw [List.mem_singleton.mp member, found]
    rfl
  have ends : ∀ other ∈ [flow], EndsKnown inputs other := by
    intro other member
    rw [List.mem_singleton.mp member]
    refine ⟨sampleEntry, sampleGrowthResult, ?_, ?_, by simp [sampleGrowthResult]⟩
    · rw [show flow.entryId = sampleEntry.entryId from congrArg Prod.fst pair, entryFound]
    · rw [show flow.growthId = sampleGrowthResult.growthId from congrArg Prod.snd pair, growthFound]
  have agrees : Agrees inputs [flow] samplePair := by
    refine ⟨sampleEntry, decisions, entryFound, ?_, ?_⟩
    · rw [grouped]
      exact List.forall_mem_singleton.mpr published
    · rw [grouped]
      exact certifiable
  obtain ⟨conclusion, concluded⟩ := (conclude_pair_total_iff inputs
    [(samplePair, .formalEligible)] [flow] samplePair (by rw [selected]; rfl)
    ⟨flow, .head _, pair⟩ present ends
    (List.forall_mem_singleton.mpr (verify_flow_texts _ _ _ flow own.verified))).mpr agrees
  refine ⟨conclusion, concluded, ?_⟩
  obtain ⟨entry, growth, status, shared, entryOk, growthOk, statusOk, sharedOk, group⟩ :=
    conclude_pair_ok _ _ _ _ _ concluded
  rw [grouped] at sharedOk group
  have entrySame := Option.some.inj (entryOk.symm.trans entryFound)
  have growthSame := Option.some.inj (growthOk.symm.trans growthFound)
  have statusSame := Option.some.inj (statusOk.symm.trans selected)
  have decisionsSame := Option.some.inj (((shared_decisions_ok inputs [flow] (List.cons_ne_nil _ _)
    present shared).mp sharedOk flow (.head _)).symm.trans published)
  rw [← decisionsSame, ← entrySame, ← growthSame, ← statusSame]
  exact group

variable (external : externalFor inputs samplePair = sampleExternal)
  (item : frameworkItem inputs sampleEntry = sampleFrameworkCoverage)

include own external in
theorem sample_matched :
    (assertion1Finding sampleGrowthResult flow ⟨.ineffective, [], [], [], [], []⟩
      ⟨.absent, [], [], [], [], []⟩ (externalFor inputs samplePair).amplification
        (externalFor inputs samplePair).reachability).status = .matched ∧
    (assertion2Finding sampleGrowthResult flow ⟨.absent, [], [], [], [], []⟩
      ⟨.absent, .absent, [], [], [], [], []⟩ (externalFor inputs samplePair).reachability
        (externalFor inputs samplePair).repeatability).status = .matched := by
  have proof := verify_flow_proof _ _ _ _ own.verified
  have status : flow.status = .verified := by simpa [VerifiedFlow.satisfiesPremise] using own.premise
  rw [external, sampleExternal]
  simp only [assertion1Finding, assertion1Rules, assertion2Finding, assertion2Rules, status,
    own.resolved, directDemand, persistentDemand, proof]
  constructor
  · rfl
  · rfl

include item in
theorem sample_narrowed : ∃ coverage, CandidateCoverage.fromFramework
      (frameworkItem inputs sampleEntry) (some sampleEntry.registrationPatternId)
      (some sampleEntry.entryId) (some sampleGrowthResult.growthId) none = .ok coverage ∧
    coverage.status = .complete := by
  have supported : sampleEntry.registrationPatternId ∈
      sampleFrameworkCoverage.supportedPatterns.values := List.mem_singleton_self _
  obtain ⟨coverage, narrowed⟩ := candidate_coverage_ok sampleFrameworkCoverage sampleEntry
    sampleGrowthResult rfl
  rw [item]
  refine ⟨coverage, narrowed, ?_⟩
  simp only [CandidateCoverage.fromFramework, dif_pos supported] at narrowed
  exact (created_scope _ _ _ _ _ _ _ _ _ narrowed).2.2.2.2.2

include own external item in
/-- Over the sample's flow, without an effective bound or release, the pair is vulnerable exactly
where its guards are decided on and every family is covered. -/
theorem sample_verdict (decisions : LifecycleDecisions) (conclusion : Conclusion)
    (concluded : concludeGroup inputs sampleEntry sampleGrowthResult .formalEligible [flow]
      decisions = .ok conclusion) (bound : familyStanding decisions .bound = .ineffective)
    (release : familyStanding decisions .release = .ineffective) :
    (conclusion.2.verdict = .staticVulnerable ↔ familyStanding decisions .guard ≠ .undecided ∧
      ∀ family, PathCovers inputs flow family) ∧ ∃ assertion ∈ conclusion.1.assertions,
      assertion.assertion = .assertion1 ∧ assertion.status ≠ .notApplicable := by
  have matched := sample_matched flow own inputs external
  have silent : ∀ early, EarlyRules early → early.getD .matched = .matched → early = none := by
    intro early rules found
    cases early with
    | none => rfl
    | some status => rcases rules.silent status rfl with rfl | rfl <;> cases found
  choose early1 silent1 spec1 using fun flow => assertion_1_early sampleGrowthResult flow
    (externalFor inputs samplePair)
  choose early2 silent2 spec2 using fun flow => assertion_2_early sampleGrowthResult flow
    (externalFor inputs samplePair)
  have first := silent _ (silent1 flow) ((spec1 flow _ _).symm.trans matched.1)
  have second := silent _ (silent2 flow) ((spec2 flow _ _).symm.trans matched.2)
  have secondMatched : secondStatus early2 (familyStanding decisions) flow = .matched := by
    rw [secondStatus, second, bound, release]
    rfl
  have firstStands : firstStatus early1 (familyStanding decisions) flow =
      assertionStatus (familyStanding decisions .guard) .ineffective := by
    rw [firstStatus, first, bound]
    rfl
  have applies : ∀ standing, assertionStatus standing .ineffective ≠ .notApplicable := by
    intro standing
    cases standing <;> decide
  constructor
  · rw [(conclude_group_ok _ _ _ _ _ _ _ concluded).1,
      show (StaticFinding.fromCertificate conclusion.1).verdict = conclusion.1.verdict from rfl,
      conclude_group_vulnerable_iff inputs sampleEntry sampleGrowthResult .formalEligible [flow]
        decisions early1 early2 spec1 spec2 conclusion concluded]
    constructor
    · intro grounds
      obtain ⟨_, vulnerable⟩ := grounds
      have known := (vulnerable.known flow (.head _)).1
      have firstCovered := vulnerable.firstCovered flow (.head _)
      have secondCovered := vulnerable.secondCovered flow (.head _)
      rw [firstStands] at known firstCovered
      rw [secondMatched] at secondCovered
      have guards := firstCovered (applies _)
      have releases := secondCovered (by simp)
      refine ⟨(assertion_known_first _).mp known, ?_⟩
      intro family
      cases family with
      | guard => exact guards.1
      | bound => exact guards.2
      | release => exact releases.2
    · intro grounds
      obtain ⟨decided, covers⟩ := grounds
      refine ⟨⟨rfl, ?_, rfl, List.cons_ne_nil _ _, List.forall_mem_singleton.mpr own.premise,
        sample_narrowed inputs item⟩, ?_, ⟨flow, .head _, Or.inr secondMatched⟩, ?_, ?_⟩
      · show decisionStatus (externalFor inputs samplePair).reachability = _
        rw [external]
        rfl
      · intro other member
        rw [List.mem_singleton.mp member, firstStands, secondMatched]
        exact ⟨(assertion_known_first _).mpr decided, by simp⟩
      · intro other member _
        rw [List.mem_singleton.mp member]
        exact ⟨covers .guard, covers .bound⟩
      · intro other member _
        rw [List.mem_singleton.mp member]
        exact ⟨covers .bound, covers .release⟩
  · obtain ⟨evaluations, evaluated, assertions⟩ := group_assertions _ _ _ _ _ _ _ concluded
    obtain ⟨-, paths, evaluatedBy⟩ := evaluations_flow _ _ _ _ _ evaluated
    obtain ⟨evaluation, listed, -⟩ := List.mem_map.mp (paths ▸ List.mem_singleton_self flow)
    obtain ⟨_, holds⟩ :=
      (evaluate_assertion_1_ok _ _ _ _ _ _ _).mp (evaluatedBy evaluation listed).1
    refine ⟨evaluation.2.1, ?_, holds.assertion, ?_⟩
    · rw [assertions]
      simp only [pathAssertions, List.mem_flatMap]
      exact ⟨evaluation, listed, .head _⟩
    · have status := (evaluations_statuses inputs sampleEntry sampleGrowthResult [flow] decisions
        early1 early2 spec1 spec2 evaluations evaluated evaluation listed)
      rw [status.2.1, List.mem_singleton.mp status.1, firstStands]
      exact applies _

end

theorem sample_certifiable (flow : VerifiedFlow) (own : SampleVerified flow) :
    Certifiable sampleEntry [flow] sampleDecisions := by
  have uncited : citedByDecisions sampleDecisions = [] := rfl
  refine ⟨⟨by decide, by decide⟩, ?_, ⟨?_, ?_⟩, sample_own_flows flow own⟩
  · rw [uncited]
    exact List.not_mem_nil
  · rw [uncited]
    nofun
  · rw [uncited]
    nofun

theorem sample_covered (family : Family) (flow : VerifiedFlow) (own : SampleVerified flow) :
    PathCovers sampleInputs flow family := by
  obtain ⟨path, pair⟩ := sample_flow_ids flow own
  have entry : flow.entryId = sampleEntry.entryId := congrArg Prod.fst pair
  have growth : flow.growthId = sampleGrowthResult.growthId := congrArg Prod.snd pair
  cases family <;> simp [PathCovers, coverageOf, latest, coverageKey, sampleInputs, sampleCovered,
    entry, growth, path]

theorem sample_conclusion : ∃ conclusions, conclude sampleInputs = .ok conclusions ∧
    ∃ conclusion ∈ conclusions, staticallyVulnerable conclusion = true := by
  obtain ⟨flow, own⟩ := sample_verified_flow
  obtain ⟨path, pair⟩ := sample_flow_ids flow own
  obtain ⟨verified, resolved⟩ := sample_flows flow own
  have found : lifecycleOf sampleInputs flow.pathId =
      some ⟨sampleFlowProof.pathId, sampleDecisions⟩ := by
    simp [lifecycleOf, latest, sampleInputs, path]
  have published : publishedDecisions sampleInputs flow = some sampleDecisions := by
    rw [publishedDecisions, found]
    rfl
  have checked : checkLifecycles sampleInputs [(samplePair, .formalEligible)] [flow] = .ok () := by
    have covered : (families.all fun family => (coverageOf sampleInputs flow family).isSome) =
        true := by
      apply List.all_eq_true.mpr
      intro family _
      rw [show coverageOf sampleInputs flow family = some .complete from
        sample_covered family flow own]
      rfl
    simp [checkLifecycles, checkLifecycle, pair, found, covered, require, bind, Except.bind]
  obtain ⟨conclusion, pairOk, group⟩ := sample_pair_concluded flow own sampleInputs
    List.lookup_cons_self List.lookup_cons_self sampleDecisions published
    (sample_certifiable flow own)
  have ordered : pairsInOrder [(samplePair, DispositionStatus.formalEligible)] [flow] =
      [samplePair] := by
    simp [pairsInOrder, pair]
  refine ⟨[conclusion], ?_, conclusion, .head _, ?_⟩
  · simp only [conclude, bind_ok, require_ok, decide_eq_true_eq]
    refine ⟨(), List.nodup_singleton _, (), List.nodup_singleton _, [flow], verified, _, resolved, (),
      checked, ?_⟩
    rw [ordered]
    exact bind_ok.mpr ⟨conclusion, pairOk, rfl⟩
  · obtain ⟨verdict, assertion, listed, first, applies⟩ := sample_verdict flow own sampleInputs
      (by simp [externalFor, latest, sampleInputs, samplePair, sampleExternal]) rfl sampleDecisions
      conclusion group rfl rfl
    have paths := (conclude_group_ok _ _ _ _ _ _ _ group).2.2.2.2.1
    have vulnerable := verdict.mpr ⟨by decide, fun family => sample_covered family flow own⟩
    simp only [staticallyVulnerable, Bool.and_eq_true, decide_eq_true_eq, List.any_eq_true,
      List.contains_iff_mem]
    refine ⟨⟨vulnerable, ?_⟩, assertion, listed, first, applies⟩
    rw [paths, certificatePaths, mem_sortedSet, List.map_singleton, path]
    exact List.mem_singleton_self _

theorem findings_account_sample : ∃ conclusions, conclude sampleInputs = .ok conclusions ∧
    (conclusions.map conclusionPair).Nodup := by
  obtain ⟨conclusions, concluded, _⟩ := sample_conclusion
  exact ⟨conclusions, concluded, (findings_account sampleInputs conclusions concluded).2.1⟩

/-- A partial coverage row of an applicable assertion's family does not keep the verdict from
being determinate, once a later row of its key is complete. -/
theorem replaced_coverage_vulnerable : ∃ conclusions, conclude sampleInputs = .ok conclusions ∧
    ∃ conclusion ∈ conclusions, conclusion.2.verdict = .staticVulnerable ∧
      (∃ assertion ∈ conclusion.1.assertions,
        assertion.assertion = .assertion1 ∧ assertion.status ≠ .notApplicable) ∧
      ∃ coverage ∈ sampleInputs.coverage, coverage.pathId ∈ conclusion.1.pathIds ∧
        coverage.family = .guard ∧ coverage.status = .partialCoverage := by
  obtain ⟨conclusions, concluded, conclusion, member, vulnerable⟩ := sample_conclusion
  simp only [staticallyVulnerable, Bool.and_eq_true, decide_eq_true_eq, List.any_eq_true,
    List.contains_iff_mem] at vulnerable
  obtain ⟨⟨verdict, path⟩, assertion, listed, applies⟩ := vulnerable
  refine ⟨conclusions, concluded, conclusion, member, verdict, ⟨assertion, listed, applies⟩,
    sampleCovered .guard .partialCoverage, ?_, path, rfl, rfl⟩
  exact .head _

end DosWeb.Production
