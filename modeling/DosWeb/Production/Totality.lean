import DosWeb.Production.Accounting
import DosWeb.Production.PathLocality

/-!
When the conclude stage issues the certificate of a pair: the decisions of its paths must
agree, and what they cite must name no other entry and no other path.
-/

namespace DosWeb.Production

open Library.OrderedSet Identifiers
open Entries (EntryFact sampleEntry sample_entry_id)
open Flows
open Growth (GrowthCandidate VerifiedGrowthResult)
open Lifecycle Conclude

section

variable (inputs : ConcludeInputs)

theorem latest_some {α κ : Type} [DecidableEq κ] (key : α → κ) (rows : List α) (row : α)
    (member : row ∈ rows) : (latest key rows (key row)).isSome = true := by
  unfold latest
  rw [List.find?_isSome]
  exact ⟨row, List.mem_reverse.mpr member, decide_eq_true rfl⟩

/-- The lifecycle results and the coverage rows of the lifecycle stage, as they are read back. -/
def publishedResults (records : List PathRecords) : List LifecycleResult :=
  records.map fun record => ⟨record.pathId, record.decisions⟩

def publishedCoverage (records : List PathRecords) : List LifecycleCoverage :=
  records.flatMap fun record => [record.coverage.guard, record.coverage.bound,
    record.coverage.release]

/-- A record of the flow that covers each family on its path. -/
structure RecordOf (flow : VerifiedFlow) (record : PathRecords) : Prop where
  path : record.pathId = flow.pathId
  guard : coverageKey record.coverage.guard = (flow.entryId, flow.growthId, flow.pathId, .guard)
  bound : coverageKey record.coverage.bound = (flow.entryId, flow.growthId, flow.pathId, .bound)
  release : coverageKey record.coverage.release =
    (flow.entryId, flow.growthId, flow.pathId, .release)

theorem bind_family_key (entry : EntryFact) (growth : VerifiedGrowthResult) (flow : VerifiedFlow)
    (anchor : GrowthCandidate) (rows : List CoverageRow) (family : Family)
    (candidates : List CandidateFacts) (bound : LifecycleCoverage × List LifecycleEvidence)
    (built : bindFamily entry growth flow anchor rows family candidates = .ok bound) :
    coverageKey bound.1 = (entry.entryId, growth.growthId, flow.pathId, family) := by
  simp only [bindFamily, bind_ok, LifecycleCoverage.create, pure_ok] at built
  obtain ⟨_, ⟨_, _, rfl⟩, _, _, rfl⟩ := built
  rfl

variable (stage : LifecycleStage) (entriesSame : stage.inputs.entries = inputs.entryMap)
  (growthSame : stage.inputs.growth = inputs.growthMap)

include entriesSame growthSame in
theorem bind_flow_record (flow : VerifiedFlow) (pool reached : GuardPool) (record : PathRecords)
    (bound : bindFlow stage flow pool = .ok (record, reached)) :
    RecordOf flow record ∧ EndsKnown inputs flow := by
  simp only [bindFlow, bind_ok, pure_ok] at bound
  obtain ⟨⟨entry, growth, anchor⟩, found, ⟨summaries, _⟩, _, built, recorded, same⟩ := bound
  cases same
  have context : inputs.entryMap.lookup flow.entryId = some entry ∧
      inputs.growthMap.lookup flow.growthId = some growth ∧ growth.candidate = some anchor := by
    unfold flowContext at found
    rw [entriesSame, growthSame] at found
    split at found
    · rename_i entryFound growthFound
      split at found
      · rename_i known
        cases found
        exact ⟨entryFound, growthFound, known⟩
      · cases found
    · cases found
    · cases found
  obtain ⟨entryFound, growthFound, known⟩ := context
  have entryId := entry_found inputs _ _ entryFound
  have growthId := (growth_found inputs _ _ growthFound).2
  simp only [pathRecords, bind_ok, pure_ok] at recorded
  obtain ⟨guards, guardsOk, bounds, boundsOk, releases, releasesOk, _, _, rfl⟩ := recorded
  have guardKey := bind_family_key _ _ _ _ _ _ _ _ guardsOk
  have boundKey := bind_family_key _ _ _ _ _ _ _ _ boundsOk
  have releaseKey := bind_family_key _ _ _ _ _ _ _ _ releasesOk
  rw [entryId, growthId] at guardKey boundKey releaseKey
  exact ⟨⟨rfl, guardKey, boundKey, releaseKey⟩, entry, growth, entryFound, growthFound,
    by simp [known]⟩

include entriesSame growthSame in
theorem bind_flows_records (flows : List VerifiedFlow) (pool : GuardPool)
    (records : List PathRecords) (bound : bindFlows stage flows pool = .ok records) :
    ∀ flow ∈ flows, (∃ record ∈ records, RecordOf flow record) ∧ EndsKnown inputs flow := by
  induction flows generalizing pool records with
  | nil => exact List.forall_mem_nil _
  | cons flow flows ih =>
    simp only [bindFlows, bind_ok, pure_ok] at bound
    obtain ⟨⟨record, reached⟩, own, others, rest, rfl⟩ := bound
    have first := bind_flow_record inputs stage entriesSame growthSame flow pool reached record own
    intro other member
    rcases List.mem_cons.mp member with rfl | member
    · exact ⟨⟨record, .head _, first.1⟩, first.2⟩
    · obtain ⟨⟨found, present, recordOf⟩, ends⟩ := ih reached others rest other member
      exact ⟨⟨found, .tail _ present, recordOf⟩, ends⟩

variable (records : List PathRecords) (results : inputs.lifecycle = publishedResults records)
  (coverage : inputs.coverage = publishedCoverage records)

include results in
theorem published_result (flow : VerifiedFlow) (record : PathRecords) (member : record ∈ records)
    (recordOf : RecordOf flow record) : (lifecycleOf inputs flow.pathId).isSome = true := by
  have found := latest_some LifecycleResult.pathId inputs.lifecycle
    ⟨record.pathId, record.decisions⟩ (by rw [results]; exact List.mem_map_of_mem member)
  rw [recordOf.path] at found
  exact found

include results coverage in
theorem check_lifecycle_ok (flow : VerifiedFlow) (record : PathRecords) (member : record ∈ records)
    (recordOf : RecordOf flow record) : checkLifecycle inputs flow = .ok () := by
  have result := published_result inputs records results flow record member recordOf
  have covered : ∀ row, row ∈ [record.coverage.guard, record.coverage.bound,
      record.coverage.release] → (latest coverageKey inputs.coverage (coverageKey row)).isSome := by
    intro row listed
    apply latest_some
    rw [coverage]
    exact List.mem_flatMap.mpr ⟨record, member, listed⟩
  have families : (families.all fun family => (coverageOf inputs flow family).isSome) = true := by
    simp only [families, List.all_cons, List.all_nil, Bool.and_true, Bool.and_eq_true, coverageOf,
      Option.isSome_map]
    rw [← recordOf.guard, ← recordOf.bound, ← recordOf.release]
    exact ⟨covered _ (by simp), covered _ (by simp), covered _ (by simp)⟩
  unfold checkLifecycle
  rw [result, families]
  rfl

theorem check_lifecycles_ok (eligible : Statuses) (flows : List VerifiedFlow)
    (each : ∀ flow ∈ flows, checkLifecycle inputs flow = .ok ()) :
    checkLifecycles inputs eligible flows = .ok () := by
  induction flows with
  | nil => rfl
  | cons flow flows ih =>
    have own := each flow (.head _)
    have rest := ih fun other member => each other (.tail _ member)
    unfold checkLifecycles
    rw [own, rest]
    split <;> rfl

end

section

variable (inputs : ConcludeInputs) (eligible : Statuses) (flows : List VerifiedFlow)

/-- The stage issues one certificate for every eligible pair, an unknown one where a path of the
pair is not proven. -/
def ConcludesEvery : Prop := ∃ conclusions, conclude inputs = .ok conclusions ∧
    (∀ pair, pair ∈ conclusions.map conclusionPair ↔ (eligible.lookup pair).isSome = true) ∧
    ∀ conclusion ∈ conclusions, (∃ flow ∈ flows, flowPair flow = conclusionPair conclusion ∧
        flow.satisfiesPremise = false) → conclusion.1.verdict = .staticUnknown

theorem eligible_flowed
    (resolved : eligibleConclusionPairs inputs.links (flows.map flowPair) inputs.dispositions =
      .ok eligible) (pair : Pair) :
    pair ∈ pairsInOrder eligible flows ↔ (eligible.lookup pair).isSome = true := by
  rw [pairs_in_order_mem]
  constructor
  · exact And.right
  · intro selected
    obtain ⟨status, found⟩ := Option.isSome_iff_exists.mp selected
    have facts := eligible_iff _ _ _ _ resolved pair status
    obtain ⟨disposition, member, rfl, concludes, selects⟩ := facts.1.mp found
    exact ⟨List.mem_map.mp (facts.2 disposition member concludes selects), selected⟩

theorem unproven_unknown (pair : Pair) (conclusion : Conclusion)
    (concluded : concludePair inputs eligible flows pair = .ok conclusion)
    (unproven : ∃ flow ∈ flows, flowPair flow = pair ∧ flow.satisfiesPremise = false) :
    conclusion.1.verdict = .staticUnknown := by
  obtain ⟨flow, member, own, premise⟩ := unproven
  obtain ⟨_, _, _, _, _, _, _, _, group⟩ := conclude_pair_ok inputs eligible flows pair _ concluded
  by_contra determinate
  have grounds := (conclude_group_ok inputs _ _ _ _ _ _ group).2.2.2.2.2 determinate
  have proven := grounds.flowsVerified flow ((group_mem flows pair flow).mpr ⟨member, own⟩)
  rw [premise] at proven
  cases proven

variable (rows : LifecycleRows) (configuration : ModeledConfiguration) (records : List PathRecords)
  (entriesDistinct : (inputs.entries.map EntryFact.entryId).Nodup)
  (growthDistinct : (inputs.growth.map VerifiedGrowthResult.growthId).Nodup)
  (verified : verifyFlows inputs.entryMap inputs.growthMap inputs.flowProofs = .ok flows)
  (resolved : eligibleConclusionPairs inputs.links (flows.map flowPair) inputs.dispositions =
    .ok eligible)
  (bound : lifecycle ⟨rows, inputs.entryMap, inputs.growthMap, configuration⟩ flows = .ok records)
  (results : inputs.lifecycle = publishedResults records)
  (coverage : inputs.coverage = publishedCoverage records)

include bound results coverage in
theorem published_recorded : checkLifecycles inputs eligible flows = .ok () ∧
    ∀ flow ∈ flows, (lifecycleOf inputs flow.pathId).isSome = true ∧ EndsKnown inputs flow := by
  simp only [lifecycle, bind_ok] at bound
  obtain ⟨guards, _, bounds, _, releases, _, run⟩ := bound
  have recorded := bind_flows_records inputs _ rfl rfl flows _ records run
  constructor
  · apply check_lifecycles_ok
    intro flow member
    obtain ⟨⟨record, present, recordOf⟩, _⟩ := recorded flow member
    exact check_lifecycle_ok inputs records results coverage flow record present recordOf
  · intro flow member
    obtain ⟨⟨record, present, recordOf⟩, ends⟩ := recorded flow member
    exact ⟨published_result inputs records results flow record present recordOf, ends⟩

include entriesDistinct growthDistinct verified resolved bound results coverage

theorem conclude_loop (conclusions : List Conclusion) : conclude inputs = .ok conclusions ↔
    concludePairs inputs eligible flows (pairsInOrder eligible flows) = .ok conclusions := by
  have checked := (published_recorded inputs eligible flows rows configuration records bound results
    coverage).1
  simp only [conclude, bind_ok, require_ok, decide_eq_true_eq, entriesDistinct, growthDistinct,
    verified, resolved, checked, Except.ok.injEq, exists_eq_left', exists_const, true_and]

theorem conclude_ok_iff : (∃ conclusions, conclude inputs = .ok conclusions) ↔
    ∀ pair, (eligible.lookup pair).isSome = true → Agrees inputs flows pair := by
  have recorded := (published_recorded inputs eligible flows rows configuration records bound results
    coverage).2
  have texts : ∀ flow ∈ flows, FlowTexts flow := by
    intro flow member
    obtain ⟨proof, _, found⟩ := (verify_flows_mem _ _ _ _ verified flow).mp member
    exact verify_flow_texts proof _ _ flow found
  simp only [conclude_loop inputs eligible flows rows configuration records entriesDistinct
    growthDistinct verified resolved bound results coverage, conclude_pairs_total_iff,
    eligible_flowed inputs eligible flows resolved]
  apply forall_congr'
  intro pair
  apply imp_congr_right
  intro selected
  have ordered := (eligible_flowed inputs eligible flows resolved pair).mpr selected
  exact conclude_pair_total_iff inputs eligible flows pair selected
    ((pairs_in_order_mem _ _ _).mp ordered).1 (fun flow member => (recorded flow member).1)
    (fun flow member => (recorded flow member).2) texts

theorem concluded_pairs (conclusions : List Conclusion)
    (concluded : conclude inputs = .ok conclusions) :
    (∀ pair, pair ∈ conclusions.map conclusionPair ↔ (eligible.lookup pair).isSome = true) ∧
      ∀ conclusion ∈ conclusions,
        concludePair inputs eligible flows (conclusionPair conclusion) = .ok conclusion := by
  have facts := conclude_pairs_ok inputs eligible flows _ conclusions ((conclude_loop inputs eligible
    flows rows configuration records entriesDistinct growthDistinct verified resolved bound results
    coverage conclusions).mp concluded)
  refine ⟨?_, facts.2⟩
  intro pair
  rw [facts.1]
  exact eligible_flowed inputs eligible flows resolved pair

include entriesDistinct growthDistinct verified resolved bound results coverage in
/-- Over what the lifecycle stage publishes, every eligible pair is concluded on exactly where
its paths share their decisions and these name only the pair. -/
theorem conclude_total_iff : ConcludesEvery inputs eligible flows ↔
      ∀ pair, (eligible.lookup pair).isSome = true → Agrees inputs flows pair := by
  have total := conclude_ok_iff inputs eligible flows rows configuration records entriesDistinct
    growthDistinct verified resolved bound results coverage
  constructor
  · intro every
    obtain ⟨conclusions, concluded, _⟩ := every
    exact total.mp ⟨conclusions, concluded⟩
  · intro agree
    obtain ⟨conclusions, concluded⟩ := total.mpr agree
    have facts := concluded_pairs inputs eligible flows rows configuration records entriesDistinct
      growthDistinct verified resolved bound results coverage conclusions concluded
    refine ⟨conclusions, concluded, facts.1, ?_⟩
    intro conclusion member
    exact unproven_unknown inputs eligible flows _ conclusion (facts.2 conclusion member)

end

section

variable (entry : EntryFact) (growth : VerifiedGrowthResult) (anchor : GrowthCandidate)
  (configuration : ModeledConfiguration)

theorem guard_reasons_of_guards (candidate : GuardCandidate) :
    "LIFECYCLE_PREMISE_UNRESOLVED" ∉ guardReasons anchor configuration candidate := by
  have limits : "LIFECYCLE_PREMISE_UNRESOLVED" ∉ limitReasons "GUARD" configuration
      candidate.configurationKey candidate.configurationValue := by
    unfold limitReasons
    split <;> decide
  have cover : (if candidate.coverageStatus = "complete" then "GUARD_DOES_NOT_COVER_GROWTH"
      else "GUARD_COVERAGE_UNKNOWN") ≠ "LIFECYCLE_PREMISE_UNRESOLVED" := by
    split <;> decide
  simp [guardReasons, limits, cover.symm]

theorem decided_guard_reasons (flow : VerifiedFlow) (coverageStatus : String)
    (known : coverageStatus ∈ Lifecycle.coverageStatuses) (guards : List GuardCandidate)
    (context : PathContext entry growth flow anchor) (decision : GuardDecision)
    (decided : evaluateGuard entry growth flow guards configuration coverageStatus = .ok decision) :
    "LIFECYCLE_PREMISE_UNRESOLVED" ∉ decision.reasonCodes := by
  obtain ⟨same, _⟩ := (Conclude.evaluate_guard_ok entry growth flow anchor configuration
    coverageStatus guards context known decision).mp decided
  rw [← same]
  split
  · split <;> decide
  · unfold decideGuard
    simp only
    split
    · exact List.not_mem_nil
    · intro listed
      rw [mem_sortedSet, List.mem_flatMap] at listed
      obtain ⟨candidate, _, given⟩ := listed
      exact guard_reasons_of_guards anchor configuration candidate given

theorem mixed_decisions_differ (proven unproven : VerifiedFlow)
    (context : PathContext entry growth proven anchor)
    (premise : unproven.satisfiesPremise = false) (linked others : Linked)
    (coverage other : FamilyCoverage) (left right : LifecycleDecisions)
    (decided : decideLifecycle entry growth proven configuration linked coverage = .ok left)
    (undecided : decideLifecycle entry growth unproven configuration others other = .ok right) :
    decisionRecord left ≠ decisionRecord right := by
  have holds : premiseHolds growth proven = true := by
    simp [premiseHolds, context.premise, context.verified]
  have fails : premiseHolds growth unproven = false := by
    simp [premiseHolds, premise]
  have known : coverage.guard.status.text ∈ Lifecycle.coverageStatuses := by
    cases coverage.guard.status <;> decide
  rw [decideLifecycle, if_neg (by simp [fails])] at undecided
  rw [decideLifecycle, if_pos holds] at decided
  simp only [bind_ok, pure_ok] at decided
  obtain ⟨guard, guardOk, bound, _, release, _, rfl⟩ := decided
  cases undecided
  intro same
  have reasons : guard.reasonCodes = unresolvedReasons growth unproven :=
    congrArg (fun decisions => decisions.guard.reasonCodes) same
  apply decided_guard_reasons entry growth anchor configuration proven _ known linked.guards context
    guard guardOk
  rw [reasons, unresolvedReasons, mem_sortedSet]
  simp

end

/-- The sample path as if its flow were followed in part only. -/
def partialProof : FlowProof :=
  { Conclude.sampleFlowProof with
    pathId := "flow:98d7a9f26aeda9c543c00ae8"
    confidence := .partialProof
    provenComplete := by simp
    pathIdCanonical := by
      rw [identifier_codes]
      decide +kernel }

theorem partial_outcome : ∃ flow, verifyFlow partialProof sampleEntries sampleGrowths =
    .ok flow ∧ flow.satisfiesPremise = false ∧
      flow.evidenceIds = flowEvidence partialProof sampleEntry sampleGrowthResult ∧
      flow.unresolvedFacts = sortedSet ["flow_confidence"] := by
  rw [sample_verified partialProof rfl rfl rfl rfl]
  exact flow_result_made _ _ _ _ _ _ (by decide)

theorem sample_unproven : ∃ flow, verifyFlow partialProof sampleEntries sampleGrowths =
    .ok flow ∧ flow.satisfiesPremise = false := by
  obtain ⟨flow, made, premise, _⟩ := partial_outcome
  exact ⟨flow, made, premise⟩

/-- A run over the sample pair without any lifecycle row. -/
def mixedRun : LifecycleInputs where
  rows := ⟨[], [], [], [], []⟩
  entries := sampleEntries
  growth := sampleGrowths
  configuration := .empty

def bareStage : LifecycleStage := ⟨mixedRun, ⟨[], []⟩, ⟨[], []⟩⟩

theorem bare_bound (flow : VerifiedFlow)
    (found : flowContext mixedRun flow = .ok (sampleEntry, sampleGrowthResult, Growth.sampleCandidate))
    (decided : ∀ coverage, ∃ decisions, decideLifecycle sampleEntry sampleGrowthResult flow
      mixedRun.configuration ⟨[], [], []⟩ coverage = .ok decisions) : ∃ record coverage decisions,
      bindFlow bareStage flow (initialPool ⟨[], []⟩) = .ok (record, initialPool ⟨[], []⟩) ∧
      record.pathId = flow.pathId ∧ record.decisions = decisionRecord decisions ∧
      decideLifecycle sampleEntry sampleGrowthResult flow mixedRun.configuration ⟨[], [], []⟩
        coverage = .ok decisions := by
  have silent := silent_family sampleEntry sampleGrowthResult flow Growth.sampleCandidate
    (known_entry_valid _) (known_growth_valid _ _ Conclude.sample_context.candidateKnown)
    (known_path_valid flow)
  obtain ⟨decisions, decidedOk⟩ := decided ⟨_, _, _⟩
  refine ⟨_, _, decisions, bind_ok.mpr ⟨_, found, bind_ok.mpr ⟨([], _), rfl,
    bind_ok.mpr ⟨_, bind_ok.mpr ⟨_, silent .guard, bind_ok.mpr ⟨_,
      silent .bound, bind_ok.mpr ⟨_, silent .release, bind_ok.mpr ⟨decisions,
        decidedOk, rfl⟩⟩⟩⟩, rfl⟩⟩⟩, rfl, rfl, decidedOk⟩

theorem sample_context_found (proof : FlowProof) (flow : VerifiedFlow)
    (entryId : proof.entryId = sampleEntry.entryId)
    (growthId : proof.growthId = sampleGrowthResult.growthId)
    (verified : verifyFlow proof sampleEntries sampleGrowths = .ok flow) :
    flow.pathId = proof.pathId ∧ flowPair flow = (sampleEntry.entryId, sampleGrowthResult.growthId) ∧
      flowContext mixedRun flow =
        .ok (sampleEntry, sampleGrowthResult, Growth.sampleCandidate) := by
  have origin := verify_flow_proof _ _ _ _ verified
  have path : flow.pathId = proof.pathId := by rw [flow.pathMatches, origin]
  have entry : flow.entryId = sampleEntry.entryId := by rw [flow.entryMatches, origin, entryId]
  have growth : flow.growthId = sampleGrowthResult.growthId := by
    rw [flow.growthMatches, origin, growthId]
  refine ⟨path, Prod.ext entry growth, ?_⟩
  simp only [flowContext, mixedRun, sampleEntries, sampleGrowths, entry, growth,
    List.lookup_cons_self]
  rfl

theorem sample_paths_differ : (partialProof.pathId == Conclude.sampleFlowProof.pathId) = false := by
  decide

/-- The sample pair with a path that is proven and one that is not. -/
def mixedInputs (records : List PathRecords) : ConcludeInputs :=
  { sampleInputs with
    flowProofs := [Conclude.sampleFlowProof, partialProof]
    lifecycle := publishedResults records
    coverage := publishedCoverage records }

theorem latest_of_two (first second : PathRecords) (left right : String)
    (firstPath : first.pathId = left) (secondPath : second.pathId = right)
    (apart : (right == left) = false) :
    latest LifecycleResult.pathId (publishedResults [first, second]) left =
        some ⟨first.pathId, first.decisions⟩ ∧
      latest LifecycleResult.pathId (publishedResults [first, second]) right =
        some ⟨second.pathId, second.decisions⟩ := by
  have differ : right ≠ left := by simpa using apart
  simp [latest, publishedResults, firstPath, secondPath, differ]

theorem mixed_run : ∃ flows records,
    verifyFlows (mixedInputs records).entryMap (mixedInputs records).growthMap
      (mixedInputs records).flowProofs = .ok flows ∧
    eligibleConclusionPairs (mixedInputs records).links (flows.map flowPair)
      (mixedInputs records).dispositions = .ok [(samplePair, .formalEligible)] ∧
    lifecycle ⟨mixedRun.rows, (mixedInputs records).entryMap, (mixedInputs records).growthMap,
      mixedRun.configuration⟩ flows = .ok records ∧
    ¬ Agrees (mixedInputs records) flows samplePair := by
  obtain ⟨proven, provenOk, holds, _⟩ := sample_proven
  obtain ⟨unproven, unprovenOk, fails⟩ := sample_unproven
  obtain ⟨provenPath, provenPair, provenFound⟩ := sample_context_found _ proven rfl rfl provenOk
  obtain ⟨unprovenPath, unprovenPair, unprovenFound⟩ :=
    sample_context_found _ unproven rfl rfl unprovenOk
  have context : PathContext sampleEntry sampleGrowthResult proven Growth.sampleCandidate :=
    ⟨congrArg Prod.fst provenPair, congrArg Prod.snd provenPair, holds, rfl, rfl⟩
  obtain ⟨first, firstCoverage, left, firstOk, firstPath, firstDecisions, decided⟩ :=
    bare_bound proven provenFound (guards_decided sampleEntry sampleGrowthResult proven
      Growth.sampleCandidate mixedRun [] context rfl)
  have open_ : premiseHolds sampleGrowthResult unproven = false := by
    rw [premiseHolds, fails]
    rfl
  obtain ⟨second, secondCoverage, right, secondOk, secondPath, secondDecisions, undecided⟩ :=
    bare_bound unproven unprovenFound fun coverage =>
      ⟨unresolvedDecisions (unresolvedReasons sampleGrowthResult unproven), by
        rw [decideLifecycle, open_]
        rfl⟩
  have differ := mixed_decisions_differ sampleEntry sampleGrowthResult Growth.sampleCandidate
    mixedRun.configuration proven unproven context fails _ _ _ _ left right decided undecided
  refine ⟨[proven, unproven], [first, second], ?_, ?_, ?_, ?_⟩
  · exact bind_ok.mpr ⟨proven, provenOk, bind_ok.mpr ⟨[unproven],
      bind_ok.mpr ⟨unproven, unprovenOk, rfl⟩, rfl⟩⟩
  · rw [List.map_cons, List.map_cons, provenPair, unprovenPair]
    exact single_eligible "candidate_link:cache" _ _ _ (.head _)
  · exact bind_flows_cons bareStage proven [unproven] _ _ first [second] firstOk
      (bind_flows_cons bareStage unproven [] _ _ second [] secondOk rfl)
  · intro agrees
    obtain ⟨_, decisions, _, each, _⟩ := agrees
    have provenShared := each proven ((group_mem _ _ _).mpr ⟨.head _, provenPair⟩)
    have unprovenShared := each unproven ((group_mem _ _ _).mpr ⟨by simp, unprovenPair⟩)
    have found := latest_of_two first second proven.pathId unproven.pathId firstPath secondPath (by
      rw [provenPath, unprovenPath]
      exact sample_paths_differ)
    apply differ
    rw [← firstDecisions, ← secondDecisions]
    have same := provenShared.trans unprovenShared.symm
    simp only [publishedDecisions, lifecycleOf, mixedInputs] at same
    rw [found.1, found.2] at same
    exact Option.some.inj same

theorem conclude_total_iff_sample : ∃ flows records,
    (ConcludesEvery (mixedInputs records) [(samplePair, .formalEligible)] flows ↔
      ∀ pair, (List.lookup pair [(samplePair, DispositionStatus.formalEligible)]).isSome = true →
        Agrees (mixedInputs records) flows pair) := by
  obtain ⟨flows, records, verified, resolved, bound, _⟩ := mixed_run
  exact ⟨flows, records, conclude_total_iff (mixedInputs records) _ flows mixedRun.rows
    mixedRun.configuration records (List.nodup_singleton _) (List.nodup_singleton _) verified
    resolved bound rfl rfl⟩

/-- A pair with a proven path and an unproven one aborts the stage. -/
theorem mixed_paths_abort : ∃ flows records,
    verifyFlows (mixedInputs records).entryMap (mixedInputs records).growthMap
      (mixedInputs records).flowProofs = .ok flows ∧
    eligibleConclusionPairs (mixedInputs records).links (flows.map flowPair)
      (mixedInputs records).dispositions = .ok [(samplePair, .formalEligible)] ∧
    lifecycle ⟨mixedRun.rows, (mixedInputs records).entryMap, (mixedInputs records).growthMap,
      mixedRun.configuration⟩ flows = .ok records ∧
    ∀ conclusions, conclude (mixedInputs records) ≠ .ok conclusions := by
  obtain ⟨flows, records, verified, resolved, bound, disagree⟩ := mixed_run
  refine ⟨flows, records, verified, resolved, bound, ?_⟩
  intro conclusions concluded
  apply disagree
  apply (conclude_ok_iff (mixedInputs records) _ flows mixedRun.rows mixedRun.configuration records
    (List.nodup_singleton _) (List.nodup_singleton _) verified resolved bound rfl rfl).mp
    ⟨conclusions, concluded⟩
  rw [List.lookup_cons_self]
  rfl

end DosWeb.Production
