import DosWeb.Production.Totality

/-!
Two runs of the lifecycle and the conclude stage, the second over further candidate rows: a
pair that is vulnerable in the second run was so in the first, unless the further rows
complete the coverage of a family without a candidate.
-/

namespace DosWeb.Production

open Library Library.OrderedSet
open Entries (EntryFact sampleEntry)
open Flows (VerifiedFlow)
open Growth (GrowthCandidate VerifiedGrowthResult)
open Identifiers (stableIdentifier)
open Lifecycle Conclude

section

variable {ρ α : Type} (create : ρ → Checked α) (anchor : ρ → Site) (identifier : α → String)

def Made (rows : List ρ) (candidate : α) : Prop := ∃ row ∈ rows, create row = .ok candidate

/-- The hash behind the identifiers does not collide on the rows. -/
def Apart (rows : List ρ) : Prop := ∀ left right, Made create rows left → Made create rows right →
    identifier left = identifier right → left = right

theorem kept_all (candidates : List α) (candidate : α) (member : candidate ∈ candidates)
    (own : ∀ other ∈ candidates, identifier other = identifier candidate → other = candidate) :
    candidate ∈ keptByIdentifier identifier candidates := by
  have folded : ∀ (rest held : List α), candidate ∈ held ∨ candidate ∈ rest →
      (∀ other ∈ rest, identifier other = identifier candidate → other = candidate) →
      candidate ∈ rest.foldl (fun kept candidate =>
        (kept.filter fun other => identifier other ≠ identifier candidate) ++ [candidate]) held := by
    intro rest
    induction rest with
    | nil =>
      intro held present _
      exact present.resolve_right List.not_mem_nil
    | cons first rest ih =>
      intro held present same
      apply ih _ _ fun other listed => same other (.tail _ listed)
      by_cases here : identifier first = identifier candidate
      · rw [same first (.head _) here]
        exact Or.inl (List.mem_append_right _ (.head _))
      · rcases present with inHeld | inRest
        · apply Or.inl
          apply List.mem_append_left
          exact List.mem_filter.mpr ⟨inHeld, by simpa using Ne.symm here⟩
        · rcases List.mem_cons.mp inRest with rfl | later
          · exact absurd rfl here
          · exact Or.inr later
  rw [keptByIdentifier, List.mem_insertionSort]
  exact folded candidates [] (Or.inr member) own

theorem screened_mem (rows : List ρ) (screened : Screened α)
    (found : screen create anchor identifier rows = .ok screened)
    (apart : Apart create identifier rows) :
    (∀ candidate, candidate ∈ screened.candidates ↔ Made create rows candidate) ∧
      ∀ item, item ∈ screened.anchors ↔ ∃ row ∈ rows, ∃ candidate, create row = .ok candidate ∧
          item = (identifier candidate, anchor row) := by
  simp only [screen, bind_ok, pure_ok] at found
  obtain ⟨created, made, rfl⟩ := found
  have listed : ∀ row candidate, (row, candidate) ∈ created ↔
      row ∈ rows ∧ create row = .ok candidate := by
    intro row candidate
    constructor
    · exact create_all_mem create rows created made row candidate
    · intro own
      obtain ⟨other, present⟩ := create_all_total create rows created made row own.1
      have same := (create_all_mem create rows created made row other present).2
      rw [own.2] at same
      cases same
      exact present
  have mapped : ∀ candidate, candidate ∈ created.map Prod.snd ↔ Made create rows candidate := by
    intro candidate
    simp only [List.mem_map, Prod.exists, exists_eq_right, listed, Made]
  constructor
  · intro candidate
    rw [← mapped]
    constructor
    · exact kept_subset identifier _ candidate
    · intro member
      apply kept_all identifier _ candidate member
      intro other present same
      exact apart other candidate ((mapped other).mp present) ((mapped candidate).mp member) same
  · intro item
    simp only [List.mem_map, Prod.exists, listed, eq_comm, and_assoc, exists_and_left]

theorem screened_within (rows more : List ρ) (within : ∀ row ∈ rows, row ∈ more)
    (apart : Apart create identifier more) (screened larger : Screened α)
    (found : screen create anchor identifier rows = .ok screened)
    (largerFound : screen create anchor identifier more = .ok larger) :
    (∀ candidate ∈ screened.candidates, candidate ∈ larger.candidates) ∧
      ∀ item ∈ screened.anchors, item ∈ larger.anchors := by
  have widen : ∀ candidate, Made create rows candidate → Made create more candidate := by
    intro candidate made
    obtain ⟨row, member, own⟩ := made
    exact ⟨row, within row member, own⟩
  have apartRows : Apart create identifier rows := fun left right leftMade rightMade =>
    apart left right (widen left leftMade) (widen right rightMade)
  have facts := screened_mem create anchor identifier rows screened found apartRows
  have largerFacts := screened_mem create anchor identifier more larger largerFound apart
  constructor
  · intro candidate member
    exact (largerFacts.1 candidate).mpr (widen candidate ((facts.1 candidate).mp member))
  · intro item member
    obtain ⟨row, listed, candidate, own, same⟩ := (facts.2 item).mp member
    exact (largerFacts.2 item).mpr ⟨row, within row listed, candidate, own, same⟩

end

/-- A pool with the same wrappers over further guards and anchors. -/
structure PoolWithin (pool larger : GuardPool) : Prop where
  candidates : ∀ guard ∈ pool.candidates, guard ∈ larger.candidates
  wrapperIds : larger.wrapperIds = pool.wrapperIds
  anchors : ∀ item ∈ pool.anchors, item ∈ larger.anchors

theorem promote_within (pool larger : GuardPool) (within : PoolWithin pool larger)
    (wrapper : GuardCandidate) (site : Site) :
    PoolWithin (pool.promote wrapper site) (larger.promote wrapper site) := by
  have anchors : ∀ item ∈ pool.anchors ++ [(wrapper.guardId, site)],
      item ∈ larger.anchors ++ [(wrapper.guardId, site)] := by
    intro item member
    rcases List.mem_append.mp member with member | own
    · exact List.mem_append_left _ (within.anchors item member)
    · exact List.mem_append_right _ own
  by_cases present : wrapper.guardId ∈ pool.wrapperIds
  · rw [promote_known pool wrapper site present,
      promote_known larger wrapper site (by rw [within.wrapperIds]; exact present)]
    exact ⟨within.candidates, within.wrapperIds, anchors⟩
  · rw [promote_new pool wrapper site present,
      promote_new larger wrapper site (by rw [within.wrapperIds]; exact present)]
    refine ⟨?_, ?_, anchors⟩
    · intro guard member
      rcases List.mem_append.mp member with member | own
      · exact List.mem_append_left _ (within.candidates guard member)
      · exact List.mem_append_right _ own
    · rw [within.wrapperIds]

theorem promote_summary_within (anchor : GrowthCandidate) (row : SummaryRow)
    (pool larger : GuardPool) (within : PoolWithin pool larger) (after largerAfter : GuardPool)
    (promoted : promoteSummary anchor row pool = .ok after)
    (largerPromoted : promoteSummary anchor row larger = .ok largerAfter) :
    PoolWithin after largerAfter := by
  unfold promoteSummary at promoted largerPromoted
  by_cases accepted : promotable anchor row = true
  · simp only [accepted, if_true, bind_ok, pure_ok]
      at promoted largerPromoted
    obtain ⟨wrapper, created, rfl⟩ := promoted
    obtain ⟨other, otherCreated, rfl⟩ := largerPromoted
    rw [created] at otherCreated
    cases otherCreated
    exact promote_within pool larger within wrapper _
  · rw [if_neg accepted] at promoted largerPromoted
    cases promoted
    cases largerPromoted
    exact within

theorem bind_summaries_within (entry : EntryFact) (growth : VerifiedGrowthResult)
    (flow : VerifiedFlow) (anchor : GrowthCandidate) (rows : List SummaryRow)
    (pool larger : GuardPool) (within : PoolWithin pool larger)
    (reached largerReached : List LifecycleSummary × GuardPool)
    (bound : bindSummaries entry growth flow anchor rows pool = .ok reached)
    (largerBound : bindSummaries entry growth flow anchor rows larger = .ok largerReached) :
    PoolWithin reached.2 largerReached.2 := by
  induction rows generalizing pool larger reached largerReached with
  | nil =>
    cases bound
    cases largerBound
    exact within
  | cons row rows ih =>
    unfold bindSummaries at bound largerBound
    by_cases here : row.anchor = growthSite anchor
    · simp only [here, if_true, bind_ok, pure_ok, Prod.exists]
        at bound largerBound
      obtain ⟨_, _, between, promoted, _, _, rest, rfl⟩ := bound
      obtain ⟨_, _, other, otherPromoted, _, _, otherRest, rfl⟩ := largerBound
      have later := ih between other (promote_summary_within anchor row pool larger within between
        other promoted otherPromoted) _ _ rest otherRest
      exact later
    · rw [if_neg here] at bound largerBound
      exact ih pool larger within _ _ bound largerBound

theorem binds_within {α : Type} (facts : α → CandidateFacts) (anchor : GrowthCandidate)
    (candidates more : List α) (anchors moreAnchors : List (String × Site))
    (within : ∀ candidate ∈ candidates, candidate ∈ more)
    (anchored : ∀ item ∈ anchors, item ∈ moreAnchors) (candidate : α)
    (member : candidate ∈ candidates.filter fun one => bindsGrowth anchors anchor (facts one)) :
    candidate ∈ more.filter fun one => bindsGrowth moreAnchors anchor (facts one) := by
  obtain ⟨present, binds⟩ := List.mem_filter.mp member
  apply List.mem_filter.mpr ⟨within candidate present, ?_⟩
  unfold bindsGrowth at binds ⊢
  rw [Bool.and_eq_true, List.contains_iff_mem] at binds ⊢
  exact ⟨anchored _ binds.1, binds.2⟩

section

def familyCoverage (record : PathRecords) : Family → Coverage
  | .guard => record.coverage.guard.status
  | .bound => record.coverage.bound.status
  | .release => record.coverage.release.status

def familyCandidates (decisions : LifecycleDecisions) : Family → List String
  | .guard => decisions.guard.candidateIds
  | .bound => decisions.bound.candidateIds
  | .release => decisions.release.candidateIds

variable (entry : EntryFact) (growth : VerifiedGrowthResult) (flow : VerifiedFlow)
  (anchor : GrowthCandidate) (configuration : ModeledConfiguration)
  (context : PathContext entry growth flow anchor)

include context in
theorem individual_bounds_ok (candidates : List BoundCandidate) (decisions : List BoundDecision)
    (decided : individualBounds entry growth flow configuration candidates = .ok decisions) :
    decisions = candidates.map fun candidate =>
      decideBound entry anchor configuration [candidate] := by
  have alone : ∀ candidate decision, evaluateBound entry growth flow [candidate] configuration
      "complete" = .ok decision → decision = decideBound entry anchor configuration [candidate] := by
    intro candidate decision evaluated
    obtain ⟨same, _⟩ := (evaluate_bound_ok entry growth flow anchor configuration "complete"
      [candidate] context complete_known decision).mp evaluated
    rw [← same, if_neg (List.cons_ne_nil _ _)]
    rfl
  induction candidates generalizing decisions with
  | nil =>
    cases decided
    rfl
  | cons candidate candidates ih =>
    have own : ∃ decision others, decision = decideBound entry anchor configuration [candidate] ∧
        individualBounds entry growth flow configuration candidates = .ok others ∧
        decisions = decision :: others := by
      unfold individualBounds at decided
      split at decided
      · rename_i modeled
        simp only [bind_ok, pure_ok] at decided
        obtain ⟨decision, normalized, others, rest, rfl⟩ := decided
        unfold normalizeFrameworkLimit at normalized
        obtain ⟨_, _, normalized⟩ := bind_ok.mp normalized
        split at normalized
        · rename_i unmodeled
          rw [frameworkLimitReasonCodes, Option.map_eq_none_iff] at unmodeled
          rw [unmodeled] at modeled
          cases modeled
        · exact ⟨decision, others, alone candidate decision normalized, rest, rfl⟩
      · simp only [bind_ok, pure_ok] at decided
        obtain ⟨decision, evaluated, others, rest, rfl⟩ := decided
        exact ⟨decision, others, alone candidate decision evaluated, rest, rfl⟩
    obtain ⟨decision, others, rfl, rest, rfl⟩ := own
    rw [List.map_cons, ih others rest]

include context in
theorem path_bounds_standing (candidates : List BoundCandidate) (coverageStatus : String)
    (known : coverageStatus ∈ coverageStatuses) (decision : BoundDecision)
    (decided : evaluatePathBounds entry growth flow configuration candidates coverageStatus =
      .ok decision) : boundStanding decision = standingOf (boundUndecided configuration)
        (boundPasses entry anchor configuration) candidates (coverageStatus = "complete") ∧
      (candidates = [] → decision.candidateIds = []) := by
  unfold evaluatePathBounds at decided
  simp only [sorted_nil] at decided
  by_cases empty : candidates = []
  · subst empty
    rw [if_pos rfl] at decided
    have standing := evaluate_bound_standing entry anchor configuration growth flow coverageStatus
      context known [] decision decided
    obtain ⟨same, _⟩ := (evaluate_bound_ok entry growth flow anchor configuration coverageStatus []
      context known decision).mp decided
    refine ⟨standing, fun _ => ?_⟩
    rw [← same]
    by_cases complete : coverageStatus = "complete" <;> simp [complete]
  · refine ⟨?_, fun none_ => absurd none_ empty⟩
    rw [if_neg empty] at decided
    obtain ⟨individual, found, decided⟩ := bind_ok.mp decided
    have each := individual_bounds_ok entry growth flow anchor configuration context _ _ found
    have filled : candidates.isEmpty = false := List.isEmpty_eq_false_iff.mpr empty
    split at decided
    · rename_i passed
      cases decided
      rw [standingOf, filled, if_neg (by simp)]
      rw [← standing_among_mem _ _ _ candidates (mem_sorted (fun left right : BoundCandidate =>
        left.boundId ≤ right.boundId) candidates)]
      have passing : (candidates.insertionSort fun left right => left.boundId ≤ right.boundId).any
          (boundPasses entry anchor configuration) = true := by
        obtain ⟨one, member, effective⟩ := List.any_eq_true.mp passed
        rw [each] at member
        obtain ⟨candidate, listed, rfl⟩ := List.mem_map.mp member
        obtain ⟨other, own, passes⟩ := decide_bound_effective entry anchor configuration [candidate]
          (by simpa using effective)
        rw [List.mem_singleton.mp own] at passes
        exact List.any_eq_true.mpr ⟨candidate, listed, by simpa [boundPasses] using passes⟩
      have open_ : sortedSet (individual.flatMap BoundDecision.unresolvedFacts) ≠ [] ↔
          (candidates.insertionSort fun left right => left.boundId ≤ right.boundId).any
            (boundUndecided configuration) = true := by
        rw [each, List.flatMap_map]
        apply unresolved_any
        intro candidate
        have own := unresolved_any _ _ (bound_unresolved_open configuration) [candidate]
        simpa [decideBound] using own
      unfold boundStanding standingAmong
      by_cases leaves : (candidates.insertionSort fun left right => left.boundId ≤ right.boundId).any
          (boundUndecided configuration) = true
      · rw [if_pos leaves, if_pos]
        simp only [open_.mpr leaves, ne_eq, not_false_eq_true, decide_true, Bool.or_true]
      · rw [if_neg leaves, if_pos passing, if_neg, if_pos rfl]
        simp only [reduceCtorEq, decide_false, Bool.false_or, decide_eq_true_eq]
        exact fun facts => leaves (open_.mp facts)
    · have standing := evaluate_bound_standing entry anchor configuration growth flow coverageStatus
        context known _ decision decided
      rw [standing]
      have sorted := (sorted_nil (fun left right : BoundCandidate => left.boundId ≤ right.boundId)
        candidates).not.mpr empty
      rw [standingOf, standingOf, filled, List.isEmpty_eq_false_iff.mpr sorted]
      simp only [Bool.false_eq_true, if_false]
      exact standing_among_mem _ _ _ _ (mem_sorted _ _)

theorem coverage_text_complete (status : Coverage) :
    decide (status.text = "complete") = decide (status = .complete) := by
  cases status <;> decide

theorem coverage_text_known (status : Coverage) : status.text ∈ coverageStatuses := by
  cases status <;> decide

theorem family_complete (rows : List CoverageRow) (family : Family)
    (candidates : List CandidateFacts) (facts : CandidateFacts) (member : facts ∈ candidates)
    (complete : isComplete facts = true) :
    (familyStatus rows anchor family candidates).1 = .complete := by
  have found : candidates.any isComplete = true := List.any_eq_true.mpr ⟨facts, member, complete⟩
  unfold familyStatus
  simp only [found, if_true]

/-- The standings of the families on a path whose premise holds are those of its candidates. -/
structure FamiliesStand (linked : Linked) (record : PathRecords) : Prop where
  guard : familyStanding record.decisions .guard = standingOf (guardUndecided configuration)
    (guardPasses anchor configuration) linked.guards (familyCoverage record .guard = .complete)
  bound : familyStanding record.decisions .bound = standingOf (boundUndecided configuration)
    (boundPasses entry anchor configuration) linked.bounds
      (familyCoverage record .bound = .complete)
  release : familyStanding record.decisions .release = standingOf releaseUndecided
    (releasePasses anchor) linked.releases (familyCoverage record .release = .complete)
  guardNone : linked.guards = [] → familyCandidates record.decisions .guard = []
  boundNone : linked.bounds = [] → familyCandidates record.decisions .bound = []
  releaseNone : linked.releases = [] → familyCandidates record.decisions .release = []

/-- A family with a candidate that leaves nothing open is covered. -/
structure FamiliesCovered (linked : Linked) (record : PathRecords) : Prop where
  guard : ∀ candidate ∈ linked.guards, guardUndecided configuration candidate = false →
    decide (familyCoverage record .guard = .complete) = true
  bound : ∀ candidate ∈ linked.bounds, boundUndecided configuration candidate = false →
    decide (familyCoverage record .bound = .complete) = true
  release : ∀ candidate ∈ linked.releases, releaseUndecided candidate = false →
    decide (familyCoverage record .release = .complete) = true

include context in
theorem decided_stand (linked : Linked) (record : PathRecords) (coverage : FamilyCoverage)
    (decisions : LifecycleDecisions) (same : record.coverage = coverage)
    (recorded : record.decisions = decisionRecord decisions)
    (decided : decideLifecycle entry growth flow configuration linked coverage = .ok decisions) :
    FamiliesStand entry anchor configuration linked record := by
  have premise : premiseHolds growth flow = true := by
    simp [premiseHolds, context.premise, context.verified]
  rw [decideLifecycle, if_pos premise] at decided
  simp only [bind_ok, pure_ok] at decided
  obtain ⟨guard, guardOk, bound, boundOk, release, releaseOk, rfl⟩ := decided
  have guardStands := evaluate_guard_standing entry anchor configuration growth flow _ context
    (coverage_text_known _) linked.guards guard guardOk
  have boundStands := path_bounds_standing entry growth flow anchor configuration context
    linked.bounds _ (coverage_text_known _) bound boundOk
  have releaseStands := evaluate_release_standing entry anchor growth flow _ context
    (coverage_text_known _) linked.releases release releaseOk
  rw [coverage_text_complete] at guardStands releaseStands
  rw [coverage_text_complete] at boundStands
  refine ⟨?_, ?_, ?_, ?_, ?_, ?_⟩
  · rw [recorded, familyCoverage, same]
    exact guardStands
  · rw [recorded, familyCoverage, same]
    exact boundStands.1
  · rw [recorded, familyCoverage, same]
    exact releaseStands
  · intro none_
    rw [recorded]
    obtain ⟨found, _⟩ := (evaluate_guard_ok entry growth flow anchor configuration _ linked.guards
      context (coverage_text_known _) guard).mp guardOk
    rw [if_pos none_] at found
    show guard.candidateIds = []
    rw [← found]
    split <;> rfl
  · intro none_
    rw [recorded]
    exact boundStands.2 none_
  · intro none_
    rw [recorded]
    have found := (evaluate_release_ok entry growth flow anchor _ linked.releases context
      (coverage_text_known _) release).mp releaseOk
    rw [if_pos none_] at found
    show release.candidateIds = []
    rw [← found]
    split <;> rfl

theorem undecided_complete (key value coverageStatus : String)
    (settled : undecided configuration key value coverageStatus = false) :
    coverageStatus = "complete" := by
  simp only [undecided, Bool.or_eq_false_iff, decide_eq_false_iff_not, not_not] at settled
  exact settled.1

variable (stage : LifecycleStage)

theorem records_covered (summaries : List LifecycleSummary) (linked : Linked) (record : PathRecords)
    (built : pathRecords stage entry growth flow anchor summaries linked = .ok record) :
    FamiliesCovered stage.inputs.configuration linked record := by
  have status : ∀ family candidates found, bindFamily entry growth flow anchor
      stage.inputs.rows.coverage family candidates = .ok found →
      ∀ facts ∈ candidates, isComplete facts = true → found.1.status = .complete := by
    intro family candidates found bound facts member complete
    simp only [bindFamily, bind_ok, LifecycleCoverage.create, pure_ok] at bound
    obtain ⟨_, ⟨_, _, rfl⟩, _, _, rfl⟩ := bound
    exact family_complete anchor _ family candidates facts member complete
  simp only [pathRecords, bind_ok, pure_ok] at built
  obtain ⟨guards, guardsOk, bounds, boundsOk, releases, releasesOk, _, _, rfl⟩ := built
  refine ⟨?_, ?_, ?_⟩
  · intro candidate member settled
    apply decide_eq_true
    apply status _ _ _ guardsOk (guardFacts candidate) (List.mem_map_of_mem member)
    exact decide_eq_true (undecided_complete _ _ _ _ settled)
  · intro candidate member settled
    apply decide_eq_true
    apply status _ _ _ boundsOk (boundFacts candidate) (List.mem_map_of_mem member)
    exact decide_eq_true (undecided_complete _ _ _ _ settled)
  · intro candidate member settled
    apply decide_eq_true
    apply status _ _ _ releasesOk (releaseFacts candidate) (List.mem_map_of_mem member)
    simp only [releaseUndecided, Bool.or_eq_false_iff, decide_eq_false_iff_not, not_not] at settled
    exact decide_eq_true settled.2

/-- On a path a family without a candidate is covered with the further rows only. -/
def Completed (record other : PathRecords) (family : Family) : Prop :=
  familyCandidates record.decisions family = [] ∧ familyCoverage record family ≠ .complete ∧
    familyCoverage other family = .complete

/-- What further candidate rows do to the records of a path. -/
structure Grown (record other : PathRecords) : Prop where
  path : other.pathId = record.pathId
  keeps : ∀ family, ¬ Completed record other family →
    Keeps (familyStanding record.decisions family) (familyStanding other.decisions family)
  decided : ∀ family, familyStanding record.decisions family ≠ .undecided →
    familyCoverage record family = .complete

structure LinkedWithin (linked larger : Linked) : Prop where
  guards : ∀ guard ∈ linked.guards, guard ∈ larger.guards
  bounds : ∀ bound ∈ linked.bounds, bound ∈ larger.bounds
  releases : ∀ release ∈ linked.releases, release ∈ larger.releases

theorem families_grown (linked more : Linked) (within : LinkedWithin linked more)
    (record other : PathRecords) (path : other.pathId = record.pathId)
    (stand : FamiliesStand entry anchor configuration linked record)
    (otherStand : FamiliesStand entry anchor configuration more other)
    (covered : FamiliesCovered configuration linked record)
    (otherCovered : FamiliesCovered configuration more other) : Grown record other := by
  have open_ : ∀ family, ¬ Completed record other family → ∀ candidatesNone : Prop,
      (candidatesNone → familyCandidates record.decisions family = []) →
      ¬ (candidatesNone ∧ decide (familyCoverage record family = .complete) = false ∧
        decide (familyCoverage other family = .complete) = true) := by
    intro family uncompleted candidatesNone none_ completed
    obtain ⟨empty, uncovered, complete⟩ := completed
    exact uncompleted ⟨none_ empty, of_decide_eq_false uncovered, of_decide_eq_true complete⟩
  refine ⟨path, ?_, ?_⟩
  · intro family uncompleted
    cases family with
    | guard =>
      rw [stand.guard, otherStand.guard]
      exact standing_keeps _ _ _ _ _ _ within.guards otherCovered.guard
        (open_ .guard uncompleted _ stand.guardNone)
    | bound =>
      rw [stand.bound, otherStand.bound]
      exact standing_keeps _ _ _ _ _ _ within.bounds otherCovered.bound
        (open_ .bound uncompleted _ stand.boundNone)
    | release =>
      rw [stand.release, otherStand.release]
      exact standing_keeps _ _ _ _ _ _ within.releases otherCovered.release
        (open_ .release uncompleted _ stand.releaseNone)
  · intro family decided
    apply of_decide_eq_true
    cases family with
    | guard =>
      rw [stand.guard] at decided
      exact standing_covered _ _ _ _ covered.guard decided
    | bound =>
      rw [stand.bound] at decided
      exact standing_covered _ _ _ _ covered.bound decided
    | release =>
      rw [stand.release] at decided
      exact standing_covered _ _ _ _ covered.release decided

theorem unresolved_standing (reasons : List String) (family : Family) :
    familyStanding (decisionRecord (unresolvedDecisions reasons)) family = .undecided := by
  cases family <;> simp [familyStanding, decisionRecord, unresolvedDecisions, guardStanding,
    boundStanding, releaseStanding]

theorem decided_context (known : growth.candidate = some anchor)
    (premise : premiseHolds growth flow = true) (linked : Linked) (coverage : FamilyCoverage)
    (decisions : LifecycleDecisions)
    (decided : decideLifecycle entry growth flow configuration linked coverage = .ok decisions) :
    PathContext entry growth flow anchor := by
  rw [decideLifecycle, if_pos premise] at decided
  simp only [bind_ok] at decided
  obtain ⟨guard, guardOk, _⟩ := decided
  unfold evaluateGuard at guardOk
  obtain ⟨candidate, valid, _⟩ := bind_ok.mp guardOk
  have context := (validate_context_ok entry growth flow candidate).mp valid
  have same := Option.some.inj (known.symm.trans context.candidateKnown)
  rw [same]
  exact context

theorem path_records_grown (larger : LifecycleStage)
    (same : larger.inputs.configuration = stage.inputs.configuration)
    (known : growth.candidate = some anchor) (summaries others : List LifecycleSummary)
    (linked more : Linked) (within : LinkedWithin linked more) (record other : PathRecords)
    (built : pathRecords stage entry growth flow anchor summaries linked = .ok record)
    (otherBuilt : pathRecords larger entry growth flow anchor others more = .ok other) :
    Grown record other := by
  have covered := records_covered entry growth flow anchor stage summaries linked record built
  have otherCovered := records_covered entry growth flow anchor larger others more other otherBuilt
  rw [same] at otherCovered
  simp only [pathRecords, bind_ok, pure_ok, same] at built otherBuilt
  obtain ⟨_, _, _, _, _, _, decisions, decided, rfl⟩ := built
  obtain ⟨_, _, _, _, _, _, otherDecisions, otherDecided, rfl⟩ := otherBuilt
  by_cases premise : premiseHolds growth flow = true
  · have context := decided_context entry growth flow anchor _ known premise _ _ _ decided
    exact families_grown entry anchor stage.inputs.configuration linked more within _ _ rfl
      (decided_stand entry growth flow anchor _ context linked _ _ decisions rfl rfl decided)
      (decided_stand entry growth flow anchor _ context more _ _ otherDecisions rfl rfl otherDecided)
      covered otherCovered
  · rw [decideLifecycle, if_neg premise] at decided otherDecided
    cases decided
    cases otherDecided
    refine ⟨rfl, ?_, ?_⟩
    · intro family _
      exact Or.inl rfl
    · intro family decided
      exact absurd (unresolved_standing _ family) decided

end

section

variable (stage larger : LifecycleStage)

/-- A stage over the same facts and further candidates. -/
structure StageWithin : Prop where
  entries : larger.inputs.entries = stage.inputs.entries
  growth : larger.inputs.growth = stage.inputs.growth
  configuration : larger.inputs.configuration = stage.inputs.configuration
  summaries : larger.inputs.rows.summaries = stage.inputs.rows.summaries
  bounds : ∀ bound ∈ stage.bounds.candidates, bound ∈ larger.bounds.candidates
  boundAnchors : ∀ item ∈ stage.bounds.anchors, item ∈ larger.bounds.anchors
  releases : ∀ release ∈ stage.releases.candidates, release ∈ larger.releases.candidates
  releaseAnchors : ∀ item ∈ stage.releases.anchors, item ∈ larger.releases.anchors

variable (within : StageWithin stage larger)

include within in
theorem bind_flow_grown (flow : VerifiedFlow) (pool more : GuardPool)
    (pools : PoolWithin pool more) (found other : PathRecords × GuardPool)
    (bound : bindFlow stage flow pool = .ok found)
    (otherBound : bindFlow larger flow more = .ok other) :
    Grown found.1 other.1 ∧ PoolWithin found.2 other.2 := by
  have context : flowContext larger.inputs flow = flowContext stage.inputs flow := by
    simp only [flowContext, within.entries, within.growth]
  simp only [bindFlow, bind_ok, pure_ok, context] at bound otherBound
  obtain ⟨⟨entry, growth, anchor⟩, known, reached, summaries, record, built, rfl⟩ := bound
  obtain ⟨_, otherKnown, otherReached, otherSummaries, otherRecord, otherBuilt, rfl⟩ := otherBound
  rw [known] at otherKnown
  cases otherKnown
  rw [within.summaries] at otherSummaries
  have reachedWithin := bind_summaries_within entry growth flow anchor _ pool more pools reached
    otherReached summaries otherSummaries
  have candidate : growth.candidate = some anchor := by
    unfold flowContext at known
    split at known
    · split at known
      · rename_i candidate
        cases known
        exact candidate
      · cases known
    · cases known
    · cases known
  refine ⟨path_records_grown entry growth flow anchor stage larger within.configuration candidate _ _
    _ _ ⟨?_, ?_, ?_⟩ record otherRecord built otherBuilt, reachedWithin⟩
  · exact binds_within guardFacts anchor _ _ _ _ reachedWithin.candidates reachedWithin.anchors
  · exact binds_within boundFacts anchor _ _ _ _ within.bounds within.boundAnchors
  · exact binds_within releaseFacts anchor _ _ _ _ within.releases within.releaseAnchors

include within in
theorem bind_flows_grown (flows : List VerifiedFlow) (pool more : GuardPool)
    (pools : PoolWithin pool more) (records others : List PathRecords)
    (bound : bindFlows stage flows pool = .ok records)
    (otherBound : bindFlows larger flows more = .ok others) :
    List.Forall₂ Grown records others := by
  induction flows generalizing pool more records others with
  | nil =>
    cases bound
    cases otherBound
    exact List.Forall₂.nil
  | cons flow flows ih =>
    simp only [bindFlows, bind_ok, pure_ok] at bound otherBound
    obtain ⟨found, own, rest, restOk, rfl⟩ := bound
    obtain ⟨other, otherOwn, otherRest, otherRestOk, rfl⟩ := otherBound
    have first := bind_flow_grown stage larger within flow pool more pools found other own otherOwn
    exact List.Forall₂.cons first.1 (ih _ _ first.2 rest otherRest restOk otherRestOk)

end

section

variable {α β κ : Type} [DecidableEq κ] (key : α → κ)

theorem latest_append (rows more : List α) (wanted : κ) :
    latest key (rows ++ more) wanted = (latest key more wanted).or (latest key rows wanted) := by
  rw [latest, List.reverse_append, List.find?_append]
  rfl

theorem latest_cons (row : α) (rows : List α) (wanted : κ) : latest key (row :: rows) wanted =
    (latest key rows wanted).or (if key row = wanted then some row else none) := by
  rw [← List.singleton_append, latest_append]
  congr 1
  by_cases same : key row = wanted <;> simp [latest, same]

theorem latest_map (view : β → α) (rows : List β) (wanted : κ) : latest key (rows.map view) wanted =
      (latest (fun row => key (view row)) rows wanted).map view := by
  rw [latest, ← List.map_reverse, List.find?_map]
  rfl

/-- Related rows under the same keys: the last rows under a key are related, if there are any. -/
theorem latest_related (other : β → κ) (Related : α → β → Prop)
    (same : ∀ row one, Related row one → other one = key row) (rows : List α) (others : List β)
    (related : List.Forall₂ Related rows others) (wanted : κ) :
    (latest key rows wanted = none ∧ latest other others wanted = none) ∨
      ∃ row one, latest key rows wanted = some row ∧ latest other others wanted = some one ∧
        Related row one := by
  induction related with
  | nil => exact Or.inl ⟨rfl, rfl⟩
  | @cons first one rows others own rest ih =>
    rw [latest_cons, latest_cons, same first one own]
    rcases ih with ⟨absent, otherAbsent⟩ | ⟨row, last, found, otherFound, lastRelated⟩
    · rw [absent, otherAbsent, Option.none_or, Option.none_or]
      by_cases matched : key first = wanted
      · rw [if_pos matched, if_pos matched]
        exact Or.inr ⟨first, one, rfl, rfl, own⟩
      · rw [if_neg matched, if_neg matched]
        exact Or.inl ⟨rfl, rfl⟩
    · rw [found, otherFound, Option.some_or, Option.some_or]
      exact Or.inr ⟨row, last, rfl, rfl, lastRelated⟩

end

section

variable (base : ConcludeInputs) (records : List PathRecords)

/-- The inputs of the conclude stage with the lifecycle records read back. -/
def withRecords : ConcludeInputs :=
  { base with
    lifecycle := publishedResults records
    coverage := publishedCoverage records }

def familyRow (record : PathRecords) : Family → LifecycleCoverage
  | .guard => record.coverage.guard
  | .bound => record.coverage.bound
  | .release => record.coverage.release

theorem family_row_status (record : PathRecords) (family : Family) :
    (familyRow record family).status = familyCoverage record family := by
  cases family <;> rfl

/-- The identifier of a path tells the pairs of its flows apart: the hash behind it does not
collide. -/
def PathsApart (flows : List VerifiedFlow) : Prop :=
  ∀ left ∈ flows, ∀ right ∈ flows, left.pathId = right.pathId → flowPair left = flowPair right

theorem published_decisions_latest (flow : VerifiedFlow) :
    publishedDecisions (withRecords base records) flow =
      (latest PathRecords.pathId records flow.pathId).map PathRecords.decisions := by
  rw [publishedDecisions, lifecycleOf, withRecords, publishedResults, latest_map, Option.map_map]
  rfl

theorem covered_latest (key : String × String × String × Family)
    (own : ∀ record ∈ records, (record.pathId = key.2.2.1 → ∀ family,
        coverageKey (familyRow record family) = (key.1, key.2.1, key.2.2.1, family)) ∧
      (record.pathId ≠ key.2.2.1 → ∀ family, coverageKey (familyRow record family) ≠ key)) :
    latest coverageKey (publishedCoverage records) key =
      (latest PathRecords.pathId records key.2.2.1).map fun record =>
        familyRow record key.2.2.2 := by
  induction records with
  | nil => rfl
  | cons record records ih =>
    have first := own record (.head _)
    have split : publishedCoverage (record :: records) =
        [familyRow record .guard, familyRow record .bound, familyRow record .release] ++
          publishedCoverage records := rfl
    rw [split, latest_append, latest_cons PathRecords.pathId record records,
      ih fun other member => own other (.tail _ member)]
    cases latest PathRecords.pathId records key.2.2.1 with
    | some _ => rfl
    | none =>
      simp only [Option.map_none, Option.none_or]
      by_cases here : record.pathId = key.2.2.1
      · have keys := first.1 here
        obtain ⟨entryId, growthId, pathId, family⟩ := key
        rw [if_pos here]
        cases family <;> simp [latest, keys]
      · have keys := first.2 here
        rw [if_neg here]
        simp [latest, keys]

variable (flows : List VerifiedFlow) (apart : PathsApart flows)
  (recorded : ∀ record ∈ records, ∃ flow ∈ flows, RecordOf flow record)

include apart recorded in
theorem coverage_of_latest (flow : VerifiedFlow) (member : flow ∈ flows) (family : Family) :
    coverageOf (withRecords base records) flow family =
      (latest PathRecords.pathId records flow.pathId).map fun record =>
        familyCoverage record family := by
  have found := covered_latest records (flow.entryId, flow.growthId, flow.pathId, family) (by
    intro record listed
    obtain ⟨other, present, recordOf⟩ := recorded record listed
    have keys : ∀ one, coverageKey (familyRow record one) =
        (other.entryId, other.growthId, other.pathId, one) := by
      intro one
      cases one
      · exact recordOf.guard
      · exact recordOf.bound
      · exact recordOf.release
    constructor
    · intro here one
      have path : other.pathId = flow.pathId := recordOf.path.symm.trans here
      have pair := Prod.ext_iff.mp (apart other present flow member path)
      rw [keys, show other.entryId = flow.entryId from pair.1,
        show other.growthId = flow.growthId from pair.2, path]
    · intro elsewhere one same
      rw [keys] at same
      apply elsewhere
      rw [recordOf.path]
      exact congrArg (fun key : String × String × String × Family => key.2.2.1) same)
  rw [coverageOf, show (withRecords base records).coverage = publishedCoverage records from rfl,
    found, Option.map_map]
  congr 1
  funext record
  exact family_row_status record family

end

section

/-- Lifecycle rows with further guard, bound and release rows; all other rows are the same. -/
structure RowsWithin (rows more : LifecycleRows) : Prop where
  guards : ∀ row ∈ rows.guards, row ∈ more.guards
  bounds : ∀ row ∈ rows.bounds, row ∈ more.bounds
  releases : ∀ row ∈ rows.releases, row ∈ more.releases
  coverage : more.coverage = rows.coverage
  summaries : more.summaries = rows.summaries

/-- The identifiers of the rows' candidates do not collide. -/
structure RowsApart (rows : LifecycleRows) : Prop where
  guards : Apart (fun row => createGuard row.values) GuardCandidate.guardId rows.guards
  bounds : Apart (fun row => createBound row.values) BoundCandidate.boundId rows.bounds
  releases : Apart (fun row => createRelease row.values) ReleaseCandidate.releaseId rows.releases

variable (base : ConcludeInputs) (rows more : LifecycleRows) (configuration : ModeledConfiguration)
  (flows : List VerifiedFlow) (records others : List PathRecords)

def stageInputs (rows : LifecycleRows) : LifecycleInputs :=
  ⟨rows, base.entryMap, base.growthMap, configuration⟩

theorem lifecycle_recorded
    (ran : lifecycle (stageInputs base configuration rows) flows = .ok records) :
    (∀ flow ∈ flows, ∃ record ∈ records, RecordOf flow record) ∧
      ∀ record ∈ records, ∃ flow ∈ flows, RecordOf flow record := by
  simp only [lifecycle, bind_ok] at ran
  obtain ⟨guards, _, bounds, _, releases, _, run⟩ := ran
  have each := bind_flows_records base ⟨stageInputs base configuration rows, bounds, releases⟩ rfl rfl
    flows _ records run
  refine ⟨fun flow member => (each flow member).1, ?_⟩
  have back : ∀ (rest : List VerifiedFlow) (pool : GuardPool) (found : List PathRecords),
      bindFlows ⟨stageInputs base configuration rows, bounds, releases⟩ rest pool = .ok found →
      ∀ record ∈ found, ∃ flow ∈ rest, RecordOf flow record := by
    intro rest
    induction rest with
    | nil =>
      intro pool found bound record member
      cases bound
      cases member
    | cons flow rest ih =>
      intro pool found bound record member
      simp only [bindFlows, bind_ok, pure_ok] at bound
      obtain ⟨⟨first, reached⟩, own, later, laterOk, rfl⟩ := bound
      rcases List.mem_cons.mp member with rfl | member
      · exact ⟨flow, .head _, (bind_flow_record base _ rfl rfl flow pool reached _ own).1⟩
      · obtain ⟨other, present, recordOf⟩ := ih _ _ laterOk record member
        exact ⟨other, .tail _ present, recordOf⟩
  exact back flows _ records run

theorem lifecycle_grown (within : RowsWithin rows more) (apart : RowsApart more)
    (ran : lifecycle (stageInputs base configuration rows) flows = .ok records)
    (otherRan : lifecycle (stageInputs base configuration more) flows = .ok others) :
    List.Forall₂ Grown records others := by
  simp only [lifecycle, bind_ok] at ran otherRan
  obtain ⟨guards, guardsOk, bounds, boundsOk, releases, releasesOk, run⟩ := ran
  obtain ⟨moreGuards, moreGuardsOk, moreBounds, moreBoundsOk, moreReleases, moreReleasesOk, otherRun⟩ :=
    otherRan
  have guardFacts := screened_within _ _ _ _ _ within.guards apart.guards guards moreGuards guardsOk
    moreGuardsOk
  have boundFacts := screened_within _ _ _ _ _ within.bounds apart.bounds bounds moreBounds boundsOk
    moreBoundsOk
  have releaseFacts := screened_within _ _ _ _ _ within.releases apart.releases releases moreReleases
    releasesOk moreReleasesOk
  have stages : StageWithin ⟨stageInputs base configuration rows, bounds, releases⟩
      ⟨stageInputs base configuration more, moreBounds, moreReleases⟩ :=
    ⟨rfl, rfl, rfl, within.summaries, boundFacts.1, boundFacts.2, releaseFacts.1, releaseFacts.2⟩
  have pools : PoolWithin (initialPool guards) (initialPool moreGuards) :=
    ⟨guardFacts.1, rfl, guardFacts.2⟩
  exact bind_flows_grown _ _ stages flows _ _ pools records others run otherRun

theorem pair_of_conclusion (inputs : ConcludeInputs) (conclusions : List Conclusion)
    (concluded : conclude inputs = .ok conclusions) (conclusion : Conclusion)
    (member : conclusion ∈ conclusions) :
    ∃ flows eligible, verifyFlows inputs.entryMap inputs.growthMap inputs.flowProofs = .ok flows ∧
      eligibleConclusionPairs inputs.links (flows.map flowPair) inputs.dispositions = .ok eligible ∧
      concludePair inputs eligible flows (conclusionPair conclusion) = .ok conclusion := by
  simp only [conclude, bind_ok, require_ok] at concluded
  obtain ⟨_, _, _, _, flows, verified, eligible, resolved, _, _, concluded⟩ := concluded
  exact ⟨flows, eligible, verified, resolved,
    (conclude_pairs_ok inputs eligible flows _ conclusions concluded).2 conclusion member⟩

theorem path_decisions (ran : lifecycle (stageInputs base configuration rows) flows = .ok records)
    (pair : Pair) (required : groupOf flows pair ≠ []) (decisions : LifecycleDecisions)
    (shared : sharedDecisions (withRecords base records)
      ((groupOf flows pair).map VerifiedFlow.pathId) = .ok decisions) :
    ∀ flow ∈ groupOf flows pair, ∃ record,
      latest PathRecords.pathId records flow.pathId = some record ∧ record.decisions = decisions := by
  have recorded := (lifecycle_recorded base rows configuration flows records ran).1
  have each := (shared_decisions_ok (withRecords base records) (groupOf flows pair) required (by
    intro flow grouped
    obtain ⟨record, present, recordOf⟩ := recorded flow ((group_mem _ _ _).mp grouped).1
    exact published_result (withRecords base records) records rfl flow record present recordOf)
    decisions).mp shared
  intro flow grouped
  have own := each flow grouped
  rw [published_decisions_latest, Option.map_eq_some_iff] at own
  exact own

/-- The records of a path in both runs, under the decisions that the conclusions rest on. -/
def PathGrown (decisions otherDecisions : LifecycleDecisions) (flow : VerifiedFlow) : Prop :=
  ∃ record one, latest PathRecords.pathId records flow.pathId = some record ∧
    record.decisions = decisions ∧ latest PathRecords.pathId others flow.pathId = some one ∧
    one.decisions = otherDecisions ∧ Grown record one

theorem group_verdict_kept (pathsApart : PathsApart flows)
    (recorded : ∀ record ∈ records, ∃ flow ∈ flows, RecordOf flow record) (entry : EntryFact)
    (growth : VerifiedGrowthResult) (status : DispositionStatus) (ordered : List VerifiedFlow)
    (listed : ∀ flow ∈ ordered, flow ∈ flows) (decisions otherDecisions : LifecycleDecisions)
    (conclusion other : Conclusion)
    (group : concludeGroup (withRecords base records) entry growth status ordered decisions =
      .ok conclusion)
    (otherGroup : concludeGroup (withRecords base others) entry growth status ordered
      otherDecisions = .ok other)
    (grown : ∀ flow ∈ ordered, PathGrown records others decisions otherDecisions flow)
    (uncompleted : ∀ flow ∈ ordered, ∀ record one,
      latest PathRecords.pathId records flow.pathId = some record →
      latest PathRecords.pathId others flow.pathId = some one →
      ∀ family, ¬ Completed record one family) (vulnerable : other.1.verdict = .staticVulnerable) :
    conclusion.1.verdict = .staticVulnerable := by
  choose early1 silent1 spec1 using fun flow => assertion_1_early growth flow
    (externalFor base (entry.entryId, growth.growthId))
  choose early2 silent2 spec2 using fun flow => assertion_2_early growth flow
    (externalFor base (entry.entryId, growth.growthId))
  obtain ⟨proven, grounds⟩ := (conclude_group_vulnerable_iff (withRecords base others) entry growth
    status ordered otherDecisions early1 early2 spec1 spec2 other otherGroup).mp vulnerable
  apply (conclude_group_vulnerable_iff (withRecords base records) entry growth status ordered
    decisions early1 early2 spec1 spec2 conclusion group).mpr
  refine ⟨⟨proven.formal, proven.reachable, proven.growthVerified, proven.flowsRequired,
    proven.flowsVerified, proven.covered⟩, ?_⟩
  apply vulnerable_before ordered early1 early2 (familyStanding decisions)
    (familyStanding otherDecisions) (PathCovers (withRecords base records))
    (PathCovers (withRecords base others)) silent1 silent2 _ _ grounds
  · intro family
    obtain ⟨flow, grouped⟩ := List.exists_mem_of_ne_nil ordered proven.flowsRequired
    obtain ⟨record, one, found, rfl, otherFound, rfl, same⟩ := grown flow grouped
    exact same.keeps family (uncompleted flow grouped record one found otherFound family)
  · intro flow grouped family decided
    obtain ⟨record, one, found, rfl, _, _, same⟩ := grown flow grouped
    rw [PathCovers, coverage_of_latest base records flows pathsApart recorded flow
      (listed flow grouped) family, found, Option.map_some, same.decided family decided]

/-- Further candidate rows never make a pair vulnerable, unless they complete the coverage of a
family that has no candidate on one of the pair's paths. -/
theorem further_rows_keep_verdicts (within : RowsWithin rows more) (apart : RowsApart more)
    (pathsApart : PathsApart flows)
    (verified : verifyFlows base.entryMap base.growthMap base.flowProofs = .ok flows)
    (ran : lifecycle (stageInputs base configuration rows) flows = .ok records)
    (otherRan : lifecycle (stageInputs base configuration more) flows = .ok others)
    (conclusions otherConclusions : List Conclusion)
    (concluded : conclude (withRecords base records) = .ok conclusions)
    (otherConcluded : conclude (withRecords base others) = .ok otherConclusions)
    (conclusion other : Conclusion) (member : conclusion ∈ conclusions)
    (otherMember : other ∈ otherConclusions)
    (samePair : conclusionPair other = conclusionPair conclusion)
    (uncompleted : ∀ flow ∈ flows, flowPair flow = conclusionPair conclusion →
      ∀ record one, latest PathRecords.pathId records flow.pathId = some record →
        latest PathRecords.pathId others flow.pathId = some one →
        ∀ family, ¬ Completed record one family) :
    conclusion.2.verdict ≠ .staticVulnerable → other.2.verdict ≠ .staticVulnerable := by
  intro safe vulnerable
  apply safe
  obtain ⟨own, eligible, verifiedOk, resolved, pairOk⟩ := pair_of_conclusion _ _ concluded conclusion
    member
  have ownFlows : own = flows := Except.ok.inj (verifiedOk.symm.trans verified)
  subst ownFlows
  obtain ⟨otherOwn, otherEligible, otherVerified, otherResolved, otherPairOk⟩ :=
    pair_of_conclusion _ _ otherConcluded other otherMember
  have otherFlows : otherOwn = own := Except.ok.inj (otherVerified.symm.trans verified)
  subst otherFlows
  have eligibleSame : otherEligible = eligible := Except.ok.inj (otherResolved.symm.trans resolved)
  subst eligibleSame
  rw [samePair] at otherPairOk
  obtain ⟨entry, growth, status, decisions, entryFound, growthFound, statusFound, shared, group⟩ :=
    conclude_pair_ok _ _ _ _ _ pairOk
  obtain ⟨otherEntry, otherGrowth, otherStatus, otherDecisions, otherEntryFound, otherGrowthFound,
    otherStatusFound, otherShared, otherGroup⟩ := conclude_pair_ok _ _ _ _ _ otherPairOk
  have entrySame : otherEntry = entry := Option.some.inj (otherEntryFound.symm.trans entryFound)
  have growthSame : otherGrowth = growth :=
    Option.some.inj (otherGrowthFound.symm.trans growthFound)
  have statusSame : otherStatus = status :=
    Option.some.inj (otherStatusFound.symm.trans statusFound)
  subst entrySame growthSame statusSame
  have finding := (conclude_group_ok _ _ _ _ _ _ _ group).1
  have otherFinding := (conclude_group_ok _ _ _ _ _ _ _ otherGroup).1
  rw [otherFinding] at vulnerable
  rw [finding]
  have required : groupOf otherOwn (conclusionPair conclusion) ≠ [] := by
    intro empty
    rw [empty] at shared
    cases shared
  have grown := lifecycle_grown base rows more configuration otherOwn records others within apart ran
    otherRan
  have paths := path_decisions base rows configuration otherOwn records ran _ required decisions
    shared
  have otherPaths := path_decisions base more configuration otherOwn others otherRan _ required
    otherDecisions otherShared
  apply group_verdict_kept base otherOwn records others pathsApart
    (lifecycle_recorded base rows configuration otherOwn records ran).2 otherEntry otherGrowth
    otherStatus _ (fun flow grouped => ((group_mem _ _ _).mp grouped).1) decisions otherDecisions
    conclusion other group otherGroup _ _ vulnerable
  · intro flow grouped
    obtain ⟨record, found, own⟩ := paths flow grouped
    obtain ⟨one, otherFound, otherOwn⟩ := otherPaths flow grouped
    rcases latest_related PathRecords.pathId PathRecords.pathId Grown (fun _ _ grown => grown.path)
      records others grown flow.pathId with ⟨absent, _⟩ | ⟨row, last, rowFound, lastFound, same⟩
    · rw [found] at absent
      cases absent
    · have rowSame := Option.some.inj (found.symm.trans rowFound)
      have lastSame := Option.some.inj (otherFound.symm.trans lastFound)
      rw [← rowSame, ← lastSame] at same
      exact ⟨record, one, found, own, otherFound, otherOwn, same⟩
  · intro flow grouped
    obtain ⟨present, own⟩ := (group_mem _ _ _).mp grouped
    exact uncompleted flow present own

end

/-- A guard of the sample's map that rejects only once the map has grown. -/
def lateRow : GuardRow where
  anchor := cacheSite
  site := ("src/Check.java", 5)
  guardKind := "input_validation"
  resourceDimension := "entries"
  scope := "instance"
  behavior := "reject"
  dominatesGrowth := true
  rejectPathReachesGrowth := false
  configurationKey := "literal"
  configurationValue := "16"
  representation := "same"
  phase := "after_growth"
  coversMaterialization := true
  authorizationOnly := false
  evidence := "guard_call"
  coverageStatus := .complete

/-- The late guard as a query reports it that has not seen all of it. -/
def seenRow (status : Coverage) : GuardRow := { lateRow with coverageStatus := status }

/-- Rows under which bounds and releases are modeled and absent. -/
def coveredRows (guards : List GuardRow) : LifecycleRows where
  guards
  bounds := []
  releases := []
  coverage := [⟨cacheSite, .bound, .complete, "one_wrapper"⟩,
    ⟨cacheSite, .release, .complete, "one_wrapper"⟩]
  summaries := []

def lateInputs (guards : List GuardRow) : LifecycleInputs :=
  stageInputs sampleInputs mixedRun.configuration (coveredRows guards)

def lateId (status : Coverage) : String :=
  stableIdentifier "guard" (guardIdentity (seenRow status).values)

def lateGuard (status : Coverage) : GuardCandidate :=
  { (seenRow status).values with guardId := lateId status }

theorem late_created (status : Coverage) :
    createGuard (seenRow status).values = .ok (lateGuard status) := by
  have path : sitePathValid "src/Check.java" = true := by decide
  have evidence : lifecycleEvidence ["guard_call"] = .ok ["guard_call"] := by decide
  simp only [createGuard, seenRow, lateRow, GuardRow.values, checkSite, path, evidence, require,
    if_true, bind, Except.bind, pure, Except.pure]
  rfl

theorem late_id_valid (status : Coverage) : lifecycleTextValid (lateId status) = true :=
  stable_identifier_text "guard" "guard:" (by decide) _ (by decide) (by decide)
    (List.all_eq_true.mp (by decide))

def lateScreened (status : Coverage) : Screened GuardCandidate :=
  ⟨[lateGuard status], [(lateId status, cacheSite)]⟩

theorem late_screened (status : Coverage) :
    screenGuards (coveredRows [seenRow status]) = .ok (lateScreened status) := by
  simp only [screenGuards, screen, coveredRows, createAll, late_created, bind, Except.bind, pure,
    Except.pure]
  rfl

theorem late_linked (status : Coverage) : linkedGuards (initialPool (lateScreened status))
    Growth.sampleCandidate = [lateGuard status] :=
  List.filter_cons_of_pos ((binds_guard _ _ _).mpr ⟨List.mem_singleton_self _, rfl⟩)

section

variable (flow : VerifiedFlow) (own : SampleVerified flow)

include own in
theorem sample_verified_context : flow.pathId = Conclude.sampleFlowProof.pathId ∧
    flowPair flow = samplePair ∧
    PathContext sampleEntry sampleGrowthResult flow Growth.sampleCandidate := by
  obtain ⟨path, pair⟩ := sample_flow_ids flow own
  exact ⟨path, pair, congrArg Prod.fst pair, congrArg Prod.snd pair, own.premise, rfl, rfl⟩

variable (status : Coverage) (linked : List GuardCandidate)
  (among : linked = [] ∨ linked = [lateGuard status])

theorem late_family (family : Family) (candidates : List CandidateFacts)
    (known : candidates = [] ∨ candidates = [guardFacts (lateGuard status)])
    (guards : family ≠ .guard → candidates = []) :
    ∃ bound, bindFamily sampleEntry sampleGrowthResult flow Growth.sampleCandidate
        (coveredRows []).coverage family candidates = .ok bound ∧
      (bound.1.status = .complete ↔ family ≠ .guard ∨ (candidates ≠ [] ∧ status = .complete)) := by
  have created := coverage_created sampleEntry sampleGrowthResult flow (known_entry_valid _)
    (known_growth_valid _ _ Conclude.sample_context.candidateKnown) (known_path_valid flow) family
  have plain := plain_texts
  simp only [List.forall_mem_cons] at plain
  have uncovered : (familyStatus (coveredRows []).coverage Growth.sampleCandidate family []).1 =
      .complete ↔ family ≠ .guard := by
    cases family <;> decide
  rcases known with rfl | rfl
  · have valid : lifecycleTextValid (familyStatus (coveredRows []).coverage Growth.sampleCandidate
        family []).2 = true := by
      cases family
      · exact plain.2.2.2.2.2.2.2.2.2.2.2.2.2.2.1
      · exact plain.2.2.2.2.2.2.2.2.2.1
      · exact plain.2.2.2.2.2.2.2.2.2.1
    refine ⟨_, bind_ok.mpr ⟨_, created _ _ valid, bind_ok.mpr ⟨_, rfl, rfl⟩⟩, ?_⟩
    simpa using uncovered
  · have guard : family = .guard := by
      by_contra other
      exact absurd (guards other) (List.cons_ne_nil _ _)
    subst guard
    obtain ⟨_, evidence⟩ := evidence_of_wrapper sampleEntry sampleGrowthResult flow
      Growth.sampleCandidate (lateId status) (known_entry_valid _)
      (known_growth_valid _ _ Conclude.sample_context.candidateKnown) (known_path_valid flow)
      (late_id_valid status) rfl rfl rfl status
    cases status with
    | complete =>
      exact ⟨_, bind_ok.mpr ⟨_, created .complete "LIFECYCLE_SAME_CALLABLE_RESOURCE_WITNESS"
        plain.2.2.2.2.2.2.2.2.2.2.2.2.2.1, bind_ok.mpr ⟨_, evidence, rfl⟩⟩, by simp⟩
    | _ =>
      exact ⟨_, bind_ok.mpr ⟨_, created .partialCoverage "LIFECYCLE_CANDIDATE_PARTIAL"
        plain.2.2.2.2.2.2.2.2.2.2.2.2.2.2.2.1, bind_ok.mpr ⟨_, evidence, rfl⟩⟩, by simp⟩

theorem late_reasons :
    "" ∉ guardReasons Growth.sampleCandidate mixedRun.configuration (lateGuard status) ∧
      "" ∉ guardUnresolved mixedRun.configuration (lateGuard status) := by
  cases status <;> decide

include among in
theorem late_guard_facts (coverage : String) (guard : GuardDecision) (decided : (if linked = [] then
        if coverage = "complete" then ⟨.ineffective, ["GUARD_ABSENT"], [], [], [], []⟩
        else ⟨.unknown, ["GUARD_COVERAGE_UNKNOWN"], [], [], ["guard_coverage"], []⟩
      else decideGuard Growth.sampleCandidate mixedRun.configuration (linked.insertionSort
        fun left right => left.guardId ≤ right.guardId)) = guard) :
    "" ∉ guard.reasonCodes ∧ "" ∉ guard.unresolvedFacts ∧
      ∀ identifier ∈ guard.evidenceIds ++ guard.candidateIds,
        identifier = "guard_call" ∨ identifier = lateId status := by
  subst decided
  rcases among with rfl | rfl
  · by_cases complete : coverage = "complete" <;> simp [complete]
  · rw [if_neg (List.cons_ne_nil _ _),
      show [lateGuard status].insertionSort (fun left right => left.guardId ≤ right.guardId) =
        [lateGuard status] from rfl]
    refine ⟨?_, ?_, ?_⟩
    · simp [decideGuard, (late_reasons status).1]
    · simp [decideGuard, (late_reasons status).2]
    · intro identifier cited
      rcases List.mem_append.mp cited with evidence | candidate
      · apply Or.inl
        simpa [decideGuard, lateGuard, seenRow, lateRow, GuardRow.values, mem_sortedSet] using evidence
      · exact Or.inr (List.mem_singleton.mp candidate)

include own among in
/-- The decisions over the late guard, or over no guard at all, name only the sample pair. -/
theorem late_certifiable (coverage : FamilyCoverage) (decisions : LifecycleDecisions)
    (decided : decideLifecycle sampleEntry sampleGrowthResult flow mixedRun.configuration
      ⟨linked, [], []⟩ coverage = .ok decisions) :
    Certifiable sampleEntry [flow] (decisionRecord decisions) := by
  obtain ⟨_, _, context⟩ := sample_verified_context flow own
  have premise : premiseHolds sampleGrowthResult flow = true := by
    simp [premiseHolds, context.premise, context.verified]
  rw [decideLifecycle, if_pos premise] at decided
  simp only [bind_ok, pure_ok] at decided
  obtain ⟨guard, guardOk, bound, boundOk, release, releaseOk, rfl⟩ := decided
  obtain ⟨guardSame, _⟩ := (evaluate_guard_ok _ _ _ Growth.sampleCandidate _ _ linked context
    (coverage_text_known _) guard).mp guardOk
  obtain ⟨boundSame, _⟩ := (evaluate_bound_ok _ _ _ Growth.sampleCandidate _ _ [] context
    (coverage_text_known _) bound).mp boundOk
  have releaseSame := (evaluate_release_ok _ _ _ Growth.sampleCandidate _ [] context
    (coverage_text_known _) release).mp releaseOk
  obtain ⟨guardReasons, guardUnresolved, guardCited⟩ :=
    late_guard_facts status linked among _ guard guardSame
  have boundFacts : "" ∉ bound.reasonCodes ∧ "" ∉ bound.unresolvedFacts ∧
      bound.evidenceIds = [] ∧ bound.candidateIds = [] := by
    rw [← boundSame, if_pos rfl]
    split <;> simp
  have releaseFacts : "" ∉ release.reasonCodes ∧ "" ∉ release.unresolvedFacts ∧
      release.evidenceIds = [] ∧ release.candidateIds = [] := by
    rw [← releaseSame, if_pos rfl]
    split <;> simp
  have cited : ∀ identifier ∈ citedByDecisions (decisionRecord ⟨guard, bound, release⟩),
      identifier = "guard_call" ∨ identifier = lateId status := by
    intro identifier member
    apply guardCited
    simpa [citedByDecisions, decisionFacts, decisionRecord, GuardDecision.facts,
      BoundDecision.facts, ReleaseDecision.facts, boundFacts.2.2, releaseFacts.2.2] using member
  have apart : ∀ lead, (Text.startsWith "guard_call" lead || Text.startsWith "guard:" lead ||
      Text.startsWith lead "guard:") = false →
      ∀ identifier ∈ citedByDecisions (decisionRecord ⟨guard, bound, release⟩),
        Text.startsWith identifier lead = false := by
    intro lead other identifier member
    simp only [Bool.or_eq_false_iff] at other
    rcases cited identifier member with rfl | rfl
    · exact other.1.1
    · exact Text.startsWith_other _ "guard:" _ (Identifiers.stable_identifier_starts "guard" _)
        (by rw [other.1.2, other.2]; rfl)
  refine ⟨⟨?_, ?_⟩, ?_, ⟨?_, ?_⟩, sample_own_flows flow own⟩
  · simp only [List.forall_mem_cons]
    exact ⟨guardReasons, boundFacts.1, releaseFacts.1, List.forall_mem_nil _⟩
  · simp only [decisionFacts, List.forall_mem_cons]
    exact ⟨guardUnresolved, boundFacts.2.1, releaseFacts.2.1, List.forall_mem_nil _⟩
  · intro empty
    rcases cited "" empty with none_ | none_
    · simp at none_
    · exact Identifiers.stable_identifier_nonempty _ _ none_.symm
  · intro identifier member leads
    rw [apart "entry:" (by decide) identifier member] at leads
    cases leads
  · intro identifier member leads
    rw [apart "flow:" (by decide) identifier member] at leads
    cases leads

include own among in
theorem late_record (guards : List GuardRow) (screened : Screened GuardCandidate)
    (found : screenGuards (coveredRows guards) = .ok screened)
    (binds : linkedGuards (initialPool screened) Growth.sampleCandidate = linked) :
    ∃ record, lifecycle (lateInputs guards) [flow] = .ok [record] ∧ record.pathId = flow.pathId ∧
      (∀ family, familyCoverage record family = .complete ↔
        family ≠ .guard ∨ (linked ≠ [] ∧ status = .complete)) ∧
      Certifiable sampleEntry [flow] record.decisions ∧
      FamiliesStand sampleEntry Growth.sampleCandidate mixedRun.configuration ⟨linked, [], []⟩
        record := by
  obtain ⟨_, _, context⟩ := sample_verified_context flow own
  have facts : linked.map guardFacts = [] ∨
      linked.map guardFacts = [guardFacts (lateGuard status)] := by
    rcases among with rfl | rfl
    · exact Or.inl rfl
    · exact Or.inr rfl
  have printed : Conclude.printable mixedRun.configuration GuardCandidate.configurationKey linked =
      true := by
    rcases among with rfl | rfl <;> rfl
  obtain ⟨guard, guardOk, guardStatus⟩ := late_family flow status .guard (linked.map guardFacts) facts
    fun other => absurd rfl other
  obtain ⟨bound, boundOk, boundStatus⟩ := late_family flow status .bound [] (Or.inl rfl) fun _ => rfl
  obtain ⟨release, releaseOk, releaseStatus⟩ :=
    late_family flow status .release [] (Or.inl rfl) fun _ => rfl
  obtain ⟨decisions, decided⟩ := guards_decided sampleEntry sampleGrowthResult flow
    Growth.sampleCandidate (lateInputs guards) linked context printed ⟨guard.1, bound.1, release.1⟩
  have known := context_found (lateInputs guards) flow sampleEntry sampleGrowthResult
    Growth.sampleCandidate context List.lookup_cons_self List.lookup_cons_self
  refine ⟨_, bind_ok.mpr ⟨screened, found, bind_ok.mpr ⟨⟨[], []⟩, rfl,
    bind_ok.mpr ⟨⟨[], []⟩, rfl, bind_flows_cons _ flow [] _ _ _ []
      (bind_ok.mpr ⟨_, known, bind_ok.mpr ⟨([], _), rfl, bind_ok.mpr
        ⟨_, bind_ok.mpr ⟨guard, ?_, bind_ok.mpr ⟨bound, boundOk,
          bind_ok.mpr ⟨release, releaseOk, bind_ok.mpr ⟨decisions, ?_, rfl⟩⟩⟩⟩,
            rfl⟩⟩⟩) rfl⟩⟩⟩, rfl, ?_, ?_, ?_⟩
  · show bindFamily _ _ _ _ _ _ ((linkedGuards (initialPool screened) Growth.sampleCandidate).map
      guardFacts) = _
    rw [binds]
    exact guardOk
  · show decideLifecycle _ _ _ _ ⟨linkedGuards (initialPool screened) Growth.sampleCandidate, [], []⟩ _ =
      _
    rw [binds]
    exact decided
  · intro family
    cases family with
    | guard => simpa [familyCoverage] using guardStatus
    | bound => simpa [familyCoverage] using boundStatus
    | release => simpa [familyCoverage] using releaseStatus
  · exact late_certifiable flow own status linked among _ decisions decided
  · exact decided_stand sampleEntry sampleGrowthResult flow Growth.sampleCandidate _ context _ _ _
      decisions rfl rfl decided

variable (guards : List GuardRow) (record : PathRecords)
  (ran : lifecycle (lateInputs guards) [flow] = .ok [record])

include own ran in
theorem late_concluded (path : record.pathId = flow.pathId)
    (certifiable : Certifiable sampleEntry [flow] record.decisions) :
    ∃ conclusions, conclude (withRecords sampleInputs [record]) = .ok conclusions ∧
      ∃ conclusion ∈ conclusions, conclusionPair conclusion = samplePair ∧
        concludeGroup (withRecords sampleInputs [record]) sampleEntry sampleGrowthResult
          .formalEligible [flow] record.decisions = .ok conclusion := by
  obtain ⟨verified, resolved⟩ := sample_flows flow own
  have published : publishedDecisions (withRecords sampleInputs [record]) flow =
      some record.decisions := by
    rw [published_decisions_latest]
    simp [latest, path]
  obtain ⟨conclusion, pairOk, group⟩ := sample_pair_concluded flow own
    (withRecords sampleInputs [record]) List.lookup_cons_self List.lookup_cons_self record.decisions
    published certifiable
  have ordered : pairsInOrder [(samplePair, DispositionStatus.formalEligible)] [flow] =
      [samplePair] := by
    simp [pairsInOrder, (sample_flow_ids flow own).2]
  refine ⟨[conclusion], ?_, conclusion, .head _, ?_, group⟩
  · rw [conclude_loop (withRecords sampleInputs [record]) _ [flow] (coveredRows guards)
      mixedRun.configuration [record] (List.nodup_singleton _) (List.nodup_singleton _) verified
      resolved ran rfl rfl, ordered]
    exact bind_ok.mpr ⟨conclusion, pairOk, rfl⟩
  · obtain ⟨found, entry, growth, _⟩ := conclude_group_ok _ _ _ _ _ _ _ group
    rw [conclusionPair, found]
    exact Prod.ext entry growth

theorem late_standing : standingOf (guardUndecided mixedRun.configuration)
    (guardPasses Growth.sampleCandidate mixedRun.configuration) [lateGuard .complete] true =
      .ineffective := by
  decide

include own ran in
/-- The sample pair is vulnerable exactly where its guards are known not to protect it. -/
theorem late_verdict (among : linked = [] ∨ linked = [lateGuard .complete])
    (path : record.pathId = flow.pathId)
    (covered : ∀ family, familyCoverage record family = .complete ↔ family ≠ .guard ∨ linked ≠ [])
    (stands : FamiliesStand sampleEntry Growth.sampleCandidate mixedRun.configuration
      ⟨linked, [], []⟩ record) (conclusion : Conclusion)
    (concluded : concludeGroup (withRecords sampleInputs [record]) sampleEntry sampleGrowthResult
      .formalEligible [flow] record.decisions = .ok conclusion) :
    conclusion.2.verdict = .staticVulnerable ↔ linked ≠ [] := by
  have bound : familyStanding record.decisions .bound = .ineffective := by
    rw [stands.bound, (covered .bound).mpr (Or.inl (by decide))]
    rfl
  have release : familyStanding record.decisions .release = .ineffective := by
    rw [stands.release, (covered .release).mpr (Or.inl (by decide))]
    rfl
  have covers : ∀ family, PathCovers (withRecords sampleInputs [record]) flow family ↔
      family ≠ .guard ∨ linked ≠ [] := by
    intro family
    rw [PathCovers, coverage_of_latest sampleInputs [record] [flow] (by simp [PathsApart])
      (lifecycle_recorded sampleInputs (coveredRows guards) mixedRun.configuration [flow] [record]
        ran).2 flow (.head _) family, ← covered family]
    simp [latest, path]
  rw [(sample_verdict flow own (withRecords sampleInputs [record]) (by simp [externalFor, latest,
    withRecords, sampleInputs, samplePair, sampleExternal]) rfl record.decisions conclusion concluded
    bound release).1]
  constructor
  · intro vulnerable none_
    have open_ : ¬ familyCoverage record .guard = .complete := by
      rw [covered .guard]
      simp [none_]
    apply vulnerable.1
    rw [stands.guard, none_, decide_eq_false open_]
    rfl
  · intro present
    refine ⟨?_, fun family => (covers family).mpr (Or.inr present)⟩
    rw [stands.guard, (covered .guard).mpr (Or.inr present)]
    rcases among with rfl | rfl
    · exact absurd rfl present
    · rw [decide_eq_true rfl, late_standing]
      simp

end

/-- The run over the sample and some guard rows of which the growth binds the given guards. -/
theorem late_run (flow : VerifiedFlow) (own : SampleVerified flow) (status : Coverage)
    (guards : List GuardRow) (screened : Screened GuardCandidate)
    (found : screenGuards (coveredRows guards) = .ok screened) (linked : List GuardCandidate)
    (among : linked = [] ∨ linked = [lateGuard status])
    (binds : linkedGuards (initialPool screened) Growth.sampleCandidate = linked) :
    ∃ record conclusions, lifecycle (lateInputs guards) [flow] = .ok [record] ∧
      conclude (withRecords sampleInputs [record]) = .ok conclusions ∧
      (∀ family, familyCoverage record family = .complete ↔
        family ≠ .guard ∨ (linked ≠ [] ∧ status = .complete)) ∧
      ∃ conclusion ∈ conclusions, conclusionPair conclusion = samplePair ∧
        (status = .complete → (conclusion.2.verdict = .staticVulnerable ↔ linked ≠ [])) := by
  obtain ⟨record, ran, path, covered, certifiable, stands⟩ :=
    late_record flow own status linked among guards screened found binds
  obtain ⟨conclusions, concluded, conclusion, member, pair, group⟩ :=
    late_concluded flow own guards record ran path certifiable
  refine ⟨record, conclusions, ran, concluded, covered, conclusion, member, pair, ?_⟩
  rintro rfl
  simp only [and_true] at covered
  exact late_verdict flow own linked guards record ran among path covered stands conclusion group

/-- A guard that comes too late completes the coverage of the guards and turns a pair into a
vulnerable one. -/
theorem late_guard_vulnerable : ∃ flows record other conclusions otherConclusions,
    verifyFlows sampleInputs.entryMap sampleInputs.growthMap sampleInputs.flowProofs = .ok flows ∧
    lifecycle (lateInputs []) flows = .ok [record] ∧
    lifecycle (lateInputs [lateRow]) flows = .ok [other] ∧
    conclude (withRecords sampleInputs [record]) = .ok conclusions ∧
    conclude (withRecords sampleInputs [other]) = .ok otherConclusions ∧
    familyCoverage record .guard ≠ .complete ∧ familyCoverage other .guard = .complete ∧
    ∃ conclusion ∈ conclusions, ∃ one ∈ otherConclusions,
      conclusionPair one = conclusionPair conclusion ∧ (conclusion.2.verdict = .staticUnknown ∨
        conclusion.2.verdict = .boundedUnderModeledAssumptions) ∧
      one.2.verdict = .staticVulnerable := by
  obtain ⟨flow, own⟩ := sample_verified_flow
  obtain ⟨record, conclusions, ran, concluded, covered, conclusion, member, pair, verdict⟩ :=
    late_run flow own .complete [] ⟨[], []⟩ rfl [] (Or.inl rfl) rfl
  obtain ⟨other, otherConclusions, otherRan, otherConcluded, otherCovered, one, otherMember,
    otherPair, otherVerdict⟩ := late_run flow own .complete [lateRow] _ (late_screened .complete)
      _ (Or.inr rfl) (late_linked .complete)
  refine ⟨[flow], record, other, conclusions, otherConclusions, (sample_flows flow own).1, ran, otherRan,
    concluded, otherConcluded, ?_, ?_, conclusion, member, one, otherMember,
    otherPair.trans pair.symm, ?_, ?_⟩
  · rw [Ne, covered .guard]
    simp
  · exact (otherCovered .guard).mpr (Or.inr ⟨List.cons_ne_nil _ _, rfl⟩)
  · cases found : conclusion.2.verdict with
    | staticVulnerable => exact absurd rfl ((verdict rfl).mp found)
    | boundedUnderModeledAssumptions => exact Or.inr rfl
    | staticUnknown => exact Or.inl rfl
  · exact (otherVerdict rfl).mpr (List.cons_ne_nil _ _)

theorem one_row_apart {ρ α : Type} (create : ρ → Checked α) (identifier : α → String)
    (rows : List ρ) (one : ∀ left ∈ rows, ∀ right ∈ rows, left = right) :
    Apart create identifier rows := by
  intro left right leftMade rightMade _
  obtain ⟨row, listed, made⟩ := leftMade
  obtain ⟨other, otherListed, otherMade⟩ := rightMade
  rw [one other otherListed row listed, made] at otherMade
  exact Except.ok.inj otherMade

/-- A guard that is linked to the growth, and of which not all is known, leaves the pair open. -/
theorem further_rows_keep_verdicts_sample : ∃ flows others otherConclusions,
    lifecycle (lateInputs [seenRow .partialCoverage]) flows = .ok others ∧
    conclude (withRecords sampleInputs others) = .ok otherConclusions ∧
    linkedGuards (initialPool (lateScreened .partialCoverage)) Growth.sampleCandidate ≠ [] ∧
    ∃ other ∈ otherConclusions, conclusionPair other = samplePair ∧
      other.2.verdict ≠ .staticVulnerable := by
  obtain ⟨flow, own⟩ := sample_verified_flow
  obtain ⟨record, conclusions, ran, concluded, covered, conclusion, member, pair, verdict⟩ :=
    late_run flow own .complete [] ⟨[], []⟩ rfl [] (Or.inl rfl) rfl
  obtain ⟨other, otherConclusions, otherRan, otherConcluded, otherCovered, one, otherMember,
    otherPair, _⟩ := late_run flow own .partialCoverage [seenRow .partialCoverage] _
      (late_screened _) _ (Or.inr rfl) (late_linked _)
  refine ⟨[flow], [other], otherConclusions, otherRan, otherConcluded, ?_, one, otherMember,
    otherPair, ?_⟩
  · rw [late_linked]
    exact List.cons_ne_nil _ _
  apply further_rows_keep_verdicts sampleInputs (coveredRows [])
    (coveredRows [seenRow .partialCoverage]) mixedRun.configuration [flow] [record] [other]
    ⟨List.forall_mem_nil _, fun _ listed => listed, fun _ listed => listed, rfl, rfl⟩
    ⟨one_row_apart _ _ _ (by simp [coveredRows]), one_row_apart _ _ _ (by simp [coveredRows]),
      one_row_apart _ _ _ (by simp [coveredRows])⟩
    (by simp [PathsApart]) (sample_flows flow own).1 ran otherRan conclusions otherConclusions concluded
    otherConcluded conclusion one member otherMember (otherPair.trans pair.symm)
  · intro _ _ _ before after found otherFound family completed
    obtain ⟨_, uncovered, complete⟩ := completed
    have beforeSame := List.mem_singleton.mp (latest_row _ _ _ _ found).1
    have afterSame := List.mem_singleton.mp (latest_row _ _ _ _ otherFound).1
    rw [beforeSame, Ne, covered family] at uncovered
    rw [afterSame, otherCovered family] at complete
    rcases complete with other | ⟨_, partial_⟩
    · exact uncovered (Or.inl other)
    · cases partial_
  · intro vulnerable
    exact (verdict rfl).mp vulnerable rfl

end DosWeb.Production
