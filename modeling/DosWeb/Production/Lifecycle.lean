import DosWeb.Production.Screening

/-!
The lifecycle stage: each flow is bound to the candidates that are anchored at its growth,
and decided on. The guards that summaries yield stay in the pool for the flows that follow.
-/

namespace DosWeb.Production

open Library.OrderedSet
open Entries (EntryFact)
open Flows (VerifiedFlow dangling)
open Growth (GrowthCandidate VerifiedGrowthResult)
open Lifecycle

structure CandidateFacts where
  candidateId : String
  site : Site
  resourceDimension : String
  receiver : Option String := none
  fieldPath : String := ""
  keyIdentity : String := "none"
  coverageStatus : String

def guardFacts (guard : GuardCandidate) : CandidateFacts where
  candidateId := guard.guardId
  site := (guard.siteFile, guard.siteStartLine)
  resourceDimension := guard.resourceDimension
  coverageStatus := guard.coverageStatus

def boundFacts (bound : BoundCandidate) : CandidateFacts where
  candidateId := bound.boundId
  site := (bound.siteFile, bound.siteStartLine)
  resourceDimension := bound.resourceDimension
  receiver := some bound.receiver
  fieldPath := bound.fieldPath
  coverageStatus := bound.coverageStatus

def releaseFacts (release : ReleaseCandidate) : CandidateFacts where
  candidateId := release.releaseId
  site := (release.siteFile, release.siteStartLine)
  resourceDimension := release.resourceDimension
  receiver := some release.receiver
  keyIdentity := release.keyIdentity
  coverageStatus := release.coverageStatus

def growthSite (anchor : GrowthCandidate) : Site := (anchor.site.file.1, anchor.site.startLine.1)

/-- The candidate is anchored at the growth and about the growth's resource: a guard is about
its dimension, a bound or a release about its receiver. -/
def bindsGrowth (anchors : List (String × Site)) (anchor : GrowthCandidate)
    (facts : CandidateFacts) : Bool := anchors.contains (facts.candidateId, growthSite anchor) &&
    match facts.receiver with
    | none => facts.resourceDimension = anchor.resourceDimension.text
    | some receiver => receiver = anchor.receiver.1

def isComplete (facts : CandidateFacts) : Bool := facts.coverageStatus = "complete"

/-- A candidate row alone never proves that nothing matches; only the query of the modeled
domain makes a family without candidates complete. -/
def familyStatus (rows : List CoverageRow) (anchor : GrowthCandidate) (family : Family)
    (candidates : List CandidateFacts) : Coverage × String :=
  let modeled := rows.filter fun row => row.anchor = growthSite anchor && row.family = family
  if candidates.any isComplete then (.complete, "LIFECYCLE_SAME_CALLABLE_RESOURCE_WITNESS")
  else
    match modeled.find? fun row => row.coverageStatus = .complete with
    | some row => (.complete, row.coverageNote)
    | none =>
      if candidates ≠ [] then (.partialCoverage, "LIFECYCLE_CANDIDATE_PARTIAL")
      else
        match modeled with
        | row :: _ => (.partialCoverage, row.coverageNote)
        | [] => (.partialCoverage, "LIFECYCLE_CFG_OR_RESOURCE_ALIAS_UNPROVEN")

section

variable (entry : EntryFact) (growth : VerifiedGrowthResult) (flow : VerifiedFlow)
  (anchor : GrowthCandidate)

def summaryRecord (row : SummaryRow) : LifecycleSummary where
  entryId := entry.entryId
  growthId := growth.growthId
  pathId := flow.pathId
  family := row.family
  candidate := row.candidate
  callsite := row.callsite
  receiver := row.receiver
  argumentIndex := row.argumentIndex
  resourceDimension := row.resourceDimension
  scope := row.scope
  configurationKey := row.configurationKey
  configurationValue := row.configurationValue
  representation := row.representation
  phase := row.phase
  coversMaterialization := row.coversMaterialization
  dominatesGrowth := row.dominatesGrowth
  rejectPathReachesGrowth := row.rejectPathReachesGrowth
  evidence := row.evidence
  cfgRelation := row.cfgRelation
  coverageStatus := row.coverageStatus
  coverageNote := row.coverageNote

/-- Only a complete guard summary of the growth's own dimension and scope is promoted. -/
def promotable (row : SummaryRow) : Bool :=
  row.family = .guard && row.coverageStatus = .complete && row.cfgRelation = .oneWrapper &&
    row.coversMaterialization && row.resourceDimension = anchor.resourceDimension.text &&
    row.scope = anchor.escapeScope.text &&
    (row.phase = "before_growth" || row.phase = "inside_growth")

/-- The guards known so far, among them the wrappers that summaries were promoted to. -/
structure GuardPool where
  candidates : List GuardCandidate
  wrapperIds : List String
  anchors : List (String × Site)

def GuardPool.promote (pool : GuardPool) (wrapper : GuardCandidate) (site : Site) : GuardPool where
  candidates :=
    if pool.wrapperIds.contains wrapper.guardId then pool.candidates
    else pool.candidates ++ [wrapper]
  wrapperIds :=
    if pool.wrapperIds.contains wrapper.guardId then pool.wrapperIds
    else pool.wrapperIds ++ [wrapper.guardId]
  anchors := pool.anchors ++ [(wrapper.guardId, site)]

def promoteSummary (row : SummaryRow) (pool : GuardPool) : Checked GuardPool :=
  if promotable anchor row then do
    let wrapper ← createGuard row.wrapper
    return pool.promote wrapper (growthSite anchor)
  else .ok pool

/-- Records the summaries of the growth's line and promotes those that may be. -/
def bindSummaries : List SummaryRow → GuardPool → Checked (List LifecycleSummary × GuardPool)
  | [], pool => .ok ([], pool)
  | row :: rows, pool =>
    if row.anchor = growthSite anchor then do
      let summary ← LifecycleSummary.create (summaryRecord entry growth flow row)
      let pool ← promoteSummary anchor row pool
      let (summaries, pool) ← bindSummaries rows pool
      return (summary :: summaries, pool)
    else bindSummaries rows pool

def evidenceRecord (family : Family) (facts : CandidateFacts) : LifecycleEvidence where
  entryId := entry.entryId
  growthId := growth.growthId
  pathId := flow.pathId
  family
  candidateId := facts.candidateId
  growthSite := growthSite anchor
  candidateSite := facts.site
  resourceIdentity := facts.receiver.getD anchor.receiver.1
  fieldIdentity := if facts.fieldPath = "" then anchor.fieldPath.1 else facts.fieldPath
  keyIdentity := facts.keyIdentity
  sameCfg := isComplete facts

def evidenceRecords (family : Family) : List CandidateFacts → Checked (List LifecycleEvidence)
  | [] => .ok []
  | facts :: others => do
      let evidence ← LifecycleEvidence.create (evidenceRecord entry growth flow anchor family facts)
      let rest ← evidenceRecords family others
      return evidence :: rest

/-- The coverage of a family on the path, with the evidence of its candidates. -/
def bindFamily (rows : List CoverageRow) (family : Family) (candidates : List CandidateFacts) :
    Checked (LifecycleCoverage × List LifecycleEvidence) := do
  let status := familyStatus rows anchor family candidates
  let coverage ← LifecycleCoverage.create
    ⟨entry.entryId, growth.growthId, flow.pathId, family, status.1, status.2⟩
  let evidence ← evidenceRecords entry growth flow anchor family candidates
  return (coverage, evidence)

variable (configuration : ModeledConfiguration)

/-- An exact framework limit is normalized for its domain, any other bound evaluated alone. -/
def individualBounds : List BoundCandidate → Checked (List BoundDecision)
  | [] => .ok []
  | candidate :: candidates => do
      let decision ←
        if (limitDomain candidate).isSome then
          normalizeFrameworkLimit entry growth flow candidate configuration
        else evaluateBound entry growth flow [candidate] configuration "complete"
      let decisions ← individualBounds candidates
      return decision :: decisions

def evaluatePathBounds (candidates : List BoundCandidate) (coverageStatus : String) :
    Checked BoundDecision :=
  let ordered := candidates.insertionSort fun left right => left.boundId ≤ right.boundId
  if ordered = [] then evaluateBound entry growth flow [] configuration coverageStatus
  else do
    let individual ← individualBounds entry growth flow configuration ordered
    if individual.any fun decision => decision.status = .effective then
      return {
        status := .effective
        reasonCodes := []
        checks := individual.flatMap BoundDecision.checks
        evidenceIds := sortedSet (individual.flatMap BoundDecision.evidenceIds)
        unresolvedFacts := sortedSet (individual.flatMap BoundDecision.unresolvedFacts)
        candidateIds := ordered.map BoundCandidate.boundId }
    else evaluateBound entry growth flow ordered configuration coverageStatus

def unresolvedReasons : List String :=
  sortedSet (flow.reasonCodes ++ growth.reasonCodes ++ ["LIFECYCLE_PREMISE_UNRESOLVED"])

def unresolvedDecisions (reasons : List String) : LifecycleDecisions where
  guard := ⟨.unknown, reasons, [], [], reasons, []⟩
  bound := ⟨.unknown, reasons, [], [], reasons, []⟩
  release := ⟨.unknown, .unknown, reasons, [], [], reasons, []⟩

/-- The candidates of each family that are bound to the path. -/
structure Linked where
  guards : List GuardCandidate
  bounds : List BoundCandidate
  releases : List ReleaseCandidate

structure FamilyCoverage where
  guard : LifecycleCoverage
  bound : LifecycleCoverage
  release : LifecycleCoverage
  deriving DecidableEq

def premiseHolds : Bool := flow.satisfiesPremise && growth.status = .verified

def decideLifecycle (linked : Linked) (coverage : FamilyCoverage) : Checked LifecycleDecisions :=
  if premiseHolds growth flow then do
    let guard ← evaluateGuard entry growth flow linked.guards configuration
      coverage.guard.status.text
    let bound ← evaluatePathBounds entry growth flow configuration linked.bounds
      coverage.bound.status.text
    let release ← evaluateSynchronousRelease entry growth flow linked.releases
      coverage.release.status.text
    return ⟨guard, bound, release⟩
  else .ok (unresolvedDecisions (unresolvedReasons growth flow))

end

/-- The checks of a published decision: failed ones last under a name, at most 64. -/
def recordedChecks (checks : List DecisionCheck) : List DecisionCheck :=
  (checks.insertionSort fun left right =>
    toLex (left.name, toLex (!left.passed, toLex (left.reasonCode.getD "", left.evidenceIds))) ≤
      toLex (right.name, toLex (!right.passed, toLex (right.reasonCode.getD "", right.evidenceIds)))).take 64

def decisionRecord (decisions : LifecycleDecisions) : LifecycleDecisions where
  guard := { decisions.guard with checks := recordedChecks decisions.guard.checks }
  bound := { decisions.bound with checks := recordedChecks decisions.bound.checks }
  release := { decisions.release with checks := recordedChecks decisions.release.checks }

structure PathRecords where
  pathId : String
  summaries : List LifecycleSummary
  coverage : FamilyCoverage
  evidence : List LifecycleEvidence
  decisions : LifecycleDecisions

structure LifecycleInputs where
  rows : LifecycleRows
  entries : List (String × EntryFact)
  growth : List (String × VerifiedGrowthResult)
  configuration : ModeledConfiguration

/-- The growth that a flow leads to; a flow without one raises. -/
def flowContext (inputs : LifecycleInputs) (flow : VerifiedFlow) :
    Checked (EntryFact × VerifiedGrowthResult × GrowthCandidate) :=
  match inputs.entries.lookup flow.entryId, inputs.growth.lookup flow.growthId with
  | some entry, some growth =>
    match growth.candidate with
    | some anchor => .ok (entry, growth, anchor)
    | none => .error (.analyzer ⟨"ANALYSIS_DANGLING_FACT_REFERENCE",
        "Lifecycle flow has no Growth anchor.", []⟩)
  | none, _ => .error (dangling "entry" flow.entryId)
  | _, none => .error (dangling "growth" flow.growthId)

structure LifecycleStage where
  inputs : LifecycleInputs
  bounds : Screened BoundCandidate
  releases : Screened ReleaseCandidate

section

variable (stage : LifecycleStage)

def linkedGuards (pool : GuardPool) (anchor : GrowthCandidate) : List GuardCandidate :=
  pool.candidates.filter fun guard => bindsGrowth pool.anchors anchor (guardFacts guard)

def linkedTo (pool : GuardPool) (anchor : GrowthCandidate) : Linked where
  guards := linkedGuards pool anchor
  bounds := stage.bounds.candidates.filter fun bound =>
    bindsGrowth stage.bounds.anchors anchor (boundFacts bound)
  releases := stage.releases.candidates.filter fun release =>
    bindsGrowth stage.releases.anchors anchor (releaseFacts release)

def pathRecords (entry : EntryFact) (growth : VerifiedGrowthResult) (flow : VerifiedFlow)
    (anchor : GrowthCandidate) (summaries : List LifecycleSummary) (linked : Linked) :
    Checked PathRecords := do
  let guards ← bindFamily entry growth flow anchor stage.inputs.rows.coverage .guard
    (linked.guards.map guardFacts)
  let bounds ← bindFamily entry growth flow anchor stage.inputs.rows.coverage .bound
    (linked.bounds.map boundFacts)
  let releases ← bindFamily entry growth flow anchor stage.inputs.rows.coverage .release
    (linked.releases.map releaseFacts)
  let coverage : FamilyCoverage := ⟨guards.1, bounds.1, releases.1⟩
  let decisions ← decideLifecycle entry growth flow stage.inputs.configuration linked coverage
  return ⟨flow.pathId, summaries, coverage, guards.2 ++ bounds.2 ++ releases.2,
    decisionRecord decisions⟩

def bindFlow (flow : VerifiedFlow) (pool : GuardPool) : Checked (PathRecords × GuardPool) := do
  let (entry, growth, anchor) ← flowContext stage.inputs flow
  let (summaries, pool) ← bindSummaries entry growth flow anchor stage.inputs.rows.summaries pool
  let records ← pathRecords stage entry growth flow anchor summaries (linkedTo stage pool anchor)
  return (records, pool)

def bindFlows : List VerifiedFlow → GuardPool → Checked (List PathRecords)
  | [], _ => .ok []
  | flow :: flows, pool => do
      let (records, pool) ← bindFlow stage flow pool
      let others ← bindFlows flows pool
      return records :: others

end

/-- The pool that the guard rows yield, before any summary is promoted. -/
def initialPool (guards : Screened GuardCandidate) : GuardPool :=
  ⟨guards.candidates, [], guards.anchors⟩

/-- The records of the flows, one for each in their order. -/
def lifecycle (inputs : LifecycleInputs) (flows : List VerifiedFlow) :
    Checked (List PathRecords) := do
  let guards ← screenGuards inputs.rows
  let bounds ← screenBounds inputs.rows
  let releases ← screenReleases inputs.rows
  bindFlows ⟨inputs, bounds, releases⟩ flows (initialPool guards)

end DosWeb.Production
